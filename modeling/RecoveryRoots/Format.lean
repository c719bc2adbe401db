import RecoveryRoots.Mount

/-! # Formatting

    `format_root_device` and `get_root_mtd_partition`. The formatter resolves the root,
    unmounts it if it has a mount point, and then runs its branches in order: the MTD
    branch (a whole-partition erase for `g_raw` or `"yaffs2"`, which returns), the MMC
    branch (which formats `"ext3"` partitions and falls through), and the generic
    branches (`stl.format` for `"rfs"`, `mke2fs` for `"ext*"`, `format_non_mtd_device`
    otherwise). The check that nothing follows the root's colon is commented out in the
    source, so the colon scan at the top of the function has no effect and is not
    modelled. Reading a NULL filesystem with `strcmp` faults: the result is then `none`,
    and the world holds the calls made before the fault. The formatter reports success
    only after a formatting primitive it invoked did, and `mmc_format_ext3` alone is not
    enough.
-/

namespace RecoveryRoots

/-! ## Section 1: The model -/

/-- `mtd_find_partition_by_name` and `mmc_find_partition_by_name` over the partitions the
    last scan listed. They live outside `roots.c`; a NULL name is taken to find nothing. -/
def findPartition (parts : List (List Char)) (name : Option (List Char)) :
    Option (List Char) :=
  name.filter (· ∈ parts)

/-- The erase of a whole MTD partition: open it for writing, erase every block, close. -/
def eraseMtdPartition (name : List Char) (w : World) : Int × World :=
  let (opened, w) := w.invoke (.mtdWritePartition name)
  if opened then
    let (erased, w) := w.invoke (.mtdEraseBlocks name)
    if erased then
      let (closed, w) := w.invoke (.mtdWriteClose name)
      (if closed then 0 else -1, w)
    else (-1, (w.invoke (.mtdWriteClose name)).2)
  else (-1, w)

/-- The generic branches of `format_root_device`: `stl.format` for `"rfs"`, `mke2fs` for
    a filesystem starting with `"ext"`, `format_non_mtd_device` otherwise. The command line
    is recorded whole, as if its `strcat` or `sprintf` always returned; where it does not
    fit its array (`Command.Fits`) the code overflows the array instead. -/
def formatGeneric (root : List Char) (device fs : Str) (w : World) : Int × World :=
  if fs.chars = "rfs".toList then
    let (ok, w) := w.invoke (.system (.stlFormat device))
    (status ok, w)
  else if strnEq fs.chars "ext".toList 3 then
    let features := if fs.chars[3]? = some '2' then [] else "-O ^huge_file,extent ".toList
    let (ok, w) := w.invoke (.system (.mke2fs fs features device))
    (status ok, w)
  else
    let (ok, w) := w.invoke (.formatNonMtdDevice root)
    (status ok, w)

/-- The MMC branch of `format_root_device` and what follows it: a failed `ext3` format
    is only logged, and the generic branches run next. -/
def formatMmc (root : List Char) (info : RootInfo) (device : Str) (w : World) :
    Option Int × World :=
  if device = .marker .gMmcDevice then
    let w := (w.invoke .mmcScanPartitions).2
    match findPartition w.mmcPartitions info.partitionName, info.filesystem with
    | none, _ => (some (-1), w)
    | some _, none => (none, w)
    | some name, some fs =>
      let w := if fs.chars = "ext3".toList then (w.invoke (.mmcFormatExt3 name)).2 else w
      let (ret, w) := formatGeneric root device fs w
      (some ret, w)
  else
    match info.filesystem with
    | none => (none, w)
    | some fs =>
      let (ret, w) := formatGeneric root device fs w
      (some ret, w)

/-- The part of `format_root_device` after the unmount: the MTD branch, then the rest. -/
def formatDevice (root : List Char) (info : RootInfo) (device : Str) (w : World) :
    Option Int × World :=
  if device = .marker .gMtdDevice then
    let w := (w.invoke .mtdScanPartitions).2
    match findPartition w.mtdPartitions info.partitionName, info.filesystem with
    | none, _ => (some (-1), w)
    | some _, none => (none, w)
    | some name, some fs =>
      if fs = .marker .gRaw ∨ fs.chars = "yaffs2".toList then
        let (ret, w) := eraseMtdPartition name w
        (some ret, w)
      else formatMmc root info device w
  else formatMmc root info device w

/-- `format_root_device`. -/
def formatRootDevice (t : Table) (root : List Char) (w : World) : Option Int × World :=
  match getRootInfoForPath t root with
  | none => (some (-1), w)
  | some i =>
    match (t i).device with
    | none => (some (-1), w)
    | some device =>
      if (t i).mountPoint.isSome then
        let (ret, w) := ensureRootPathUnmounted t root w
        if ret < 0 then (some ret, w) else formatDevice root (t i) device w
      else formatDevice root (t i) device w

/-- `get_root_mtd_partition`: the partition found, `none` inside for NULL, and an outer
    `none` when it reads the partition name of a NULL entry. -/
def getRootMtdPartition (boardHasMtdCache : Bool) (t : Table) (rootPath : List Char)
    (w : World) : Option (Option (List Char)) × World :=
  let cacheException := boardHasMtdCache ∧ rootPath = "CACHE:".toList
  match getRootInfoForPath t rootPath with
  | some i =>
    if ((t i).device = some (.marker .gMtdDevice) ∧ (t i).partitionName.isSome) ∨
        cacheException then
      let w := (w.invoke .mtdScanPartitions).2
      (some (findPartition w.mtdPartitions (t i).partitionName), w)
    else (some none, w)
  | none => if cacheException then (none, w) else (some none, w)

/-! ## Section 2: What formatting does to the mount table -/

theorem eraseMtdPartition_frozen (name : List Char) (w : World) :
    w.Frozen (eraseMtdPartition name w).2 := by
  simp only [eraseMtdPartition]
  split_ifs <;> first
    | exact .invoke (by rfl) _
    | exact ((World.Frozen.invoke (by rfl) _).trans (.invoke (by rfl) _)).trans (.invoke (by rfl) _)

theorem formatGeneric_frozen (root : List Char) (device fs : Str) (w : World) :
    w.Frozen (formatGeneric root device fs w).2 := by
  simp only [formatGeneric]
  split_ifs <;> exact .invoke (by rfl) _

theorem formatMmc_frozen (root : List Char) (info : RootInfo) (device : Str) (w : World) :
    w.Frozen (formatMmc root info device w).2 := by
  simp only [formatMmc]
  split_ifs
  · have h₁ := World.Frozen.invoke (c := .mmcScanPartitions) rfl w
    split
    · exact h₁
    · exact h₁
    · split_ifs
      · exact (h₁.trans (.invoke (by rfl) _)).trans (formatGeneric_frozen _ _ _ _)
      · exact h₁.trans (formatGeneric_frozen _ _ _ _)
  · split
    · exact .refl _
    · exact formatGeneric_frozen _ _ _ _

/-- Nothing `format_root_device` does after its unmount mounts or unmounts a volume. -/
theorem formatDevice_frozen (root : List Char) (info : RootInfo) (device : Str) (w : World) :
    w.Frozen (formatDevice root info device w).2 := by
  simp only [formatDevice]
  split_ifs
  · have h₁ := World.Frozen.invoke (c := .mtdScanPartitions) rfl w
    split
    · exact h₁
    · exact h₁
    · split_ifs
      · exact h₁.trans (eraseMtdPartition_frozen _ _)
      · exact h₁.trans (formatMmc_frozen _ _ _ _)
  · exact formatMmc_frozen _ _ _ _

/-! ## Section 3: Formatting a root -/

/-- `format_root_device` on a root that resolves: every formatting primitive it invokes
    runs when one volume fewer is mounted at the root's mount point than when it was
    called (none, if none was), so none is if at most one was; and when
    `ensure_root_path_unmounted` fails, it returns that negative value, having made only
    that function's calls. -/
theorem formatRootDevice_formats_unmounted (t : Table) (root : List Char) (w : World)
    (i : Fin numRoots) (hi : getRootInfoForPath t root = some i) :
    (∀ mp, (t i).mountPoint = some mp →
      ∀ e ∈ (formatRootDevice t root w).2.log.drop w.log.length, e.call.isFormat = true →
        e.mounts.count mp = w.mounts.count mp - 1 ∧
        (w.mounts.count mp ≤ 1 → mp ∉ e.mounts)) ∧
    ((t i).device.isSome → (t i).mountPoint.isSome →
      (ensureRootPathUnmounted t root w).1 < 0 →
      formatRootDevice t root w =
        (some (ensureRootPathUnmounted t root w).1, (ensureRootPathUnmounted t root w).2) ∧
      ∀ e ∈ (ensureRootPathUnmounted t root w).2.log.drop w.log.length,
        e.call.isFormat = false) := by
  have hq := ensureRootPathUnmounted_logsOnly t root w
  constructor
  · intro mp hmp
    apply World.LogsOnly.forall_drop
    simp only [formatRootDevice, hi, hmp, Option.isSome_some, if_true]
    split
    · exact .refl _ _
    split_ifs with hlt
    · exact hq.mono fun e he h => absurd h (by simp [he.2])
    have h0 : (ensureRootPathUnmounted t root w).1 = 0 := by
      rcases ensureRootPathUnmounted_fst t root w with h | h <;> omega
    have hc := count_ensureRootPathUnmounted hi hmp w h0
    refine (hq.mono fun e he h => absurd h (by simp [he.2])).trans
      ((formatDevice_frozen _ _ _ _).2.mono fun e he _ => ?_)
    rw [he, hc]
    exact ⟨rfl, fun h1 hm => by have := List.count_pos_iff.2 hm; omega⟩
  · intro hd hmp hlt
    obtain ⟨device, hd⟩ := Option.isSome_iff_exists.1 hd
    refine ⟨by simp [formatRootDevice, hi, hd, hmp, hlt], fun e he => ?_⟩
    exact (hq.forall_drop e he).2

theorem formatRootDevice_formats_unmounted_data :
    let t := gRoots defaultConfig
    let root := "DATA:".toList
    let w : World := ⟨["/data".toList], [], [], [true, true, true], []⟩
    getRootInfoForPath t root = some 1 ∧
      ((∀ mp, (t 1).mountPoint = some mp →
        ∀ e ∈ (formatRootDevice t root w).2.log.drop w.log.length, e.call.isFormat = true →
          e.mounts.count mp = w.mounts.count mp - 1 ∧
          (w.mounts.count mp ≤ 1 → mp ∉ e.mounts)) ∧
      ((t 1).device.isSome → (t 1).mountPoint.isSome →
        (ensureRootPathUnmounted t root w).1 < 0 →
        formatRootDevice t root w =
          (some (ensureRootPathUnmounted t root w).1, (ensureRootPathUnmounted t root w).2) ∧
        ∀ e ∈ (ensureRootPathUnmounted t root w).2.log.drop w.log.length,
          e.call.isFormat = false)) :=
  ⟨by decide, formatRootDevice_formats_unmounted _ _ _ 1 (by decide)⟩

/-- Two volumes stacked at `/data`: `format_root_device("DATA:")` unmounts one and runs
    `format_non_mtd_device` while the other is still mounted. -/
theorem formatRootDevice_formats_while_mounted :
    ∃ e ∈ (formatRootDevice (gRoots defaultConfig) "DATA:".toList
        ⟨["/data".toList, "/data".toList], [], [], [true, true, true], []⟩).2.log,
      e.call.isFormat = true ∧ "/data".toList ∈ e.mounts := by
  decide

/-- `format_root_device("DATA:some/file")` resolves to `DATA:` and, `/data` being
    unmounted, hands the whole string to `format_non_mtd_device` and returns its 0. -/
theorem formatRootDevice_formats_relative_path :
    formatRootDevice (gRoots defaultConfig) "DATA:some/file".toList
        ⟨[], [], [], [true, true], []⟩ =
      (some 0, ⟨[], [], [], [],
        [⟨.scanMountedVolumes, [], true⟩,
         ⟨.formatNonMtdDevice "DATA:some/file".toList, [], true⟩]⟩) := by
  decide

/-! ## Section 4: How many formatting primitives one call invokes -/

theorem eraseMtdPartition_formatsAtMost (name : List Char) (w : World) :
    w.FormatsAtMost 1 (eraseMtdPartition name w).2 := by
  simp only [eraseMtdPartition]
  split_ifs <;> first
    | exact (World.FormatsAtMost.quiet (by rfl) _).mono (by omega)
    | exact ((World.FormatsAtMost.quiet (by rfl) _).trans (.format _ _)).trans
        (.quiet (by rfl) _)

theorem formatGeneric_formatsAtMost (root : List Char) (device fs : Str) (w : World) :
    w.FormatsAtMost 1 (formatGeneric root device fs w).2 := by
  simp only [formatGeneric]
  split_ifs <;> exact .format _ _

/-- Unless the MMC branch formats an `"ext3"` partition and falls through, the branches
    from the MMC one on invoke at most one formatting primitive. -/
theorem formatMmc_formatsAtMost (root : List Char) (info : RootInfo) (device : Str)
    (w : World)
    (hx : device = .marker .gMmcDevice → info.filesystem.map Str.chars ≠ some "ext3".toList) :
    w.FormatsAtMost 1 (formatMmc root info device w).2 := by
  simp only [formatMmc]
  split_ifs with hmmc
  · have h₁ := World.FormatsAtMost.quiet (c := .mmcScanPartitions) rfl w
    split
    · exact h₁.mono (by omega)
    · exact h₁.mono (by omega)
    · next fs _ hfs =>
      split_ifs with hext
      · exact absurd (by simp [hfs, hext]) (hx hmmc)
      · exact h₁.trans (formatGeneric_formatsAtMost _ _ _ _)
  · split
    · exact .refl _ _
    · exact formatGeneric_formatsAtMost _ _ _ _

theorem formatDevice_formatsAtMost (root : List Char) (info : RootInfo) (device : Str)
    (w : World)
    (hx : device = .marker .gMmcDevice → info.filesystem.map Str.chars ≠ some "ext3".toList) :
    w.FormatsAtMost 1 (formatDevice root info device w).2 := by
  simp only [formatDevice]
  split_ifs
  · have h₁ := World.FormatsAtMost.quiet (c := .mtdScanPartitions) rfl w
    split
    · exact h₁.mono (by omega)
    · exact h₁.mono (by omega)
    · split_ifs
      · exact h₁.trans (eraseMtdPartition_formatsAtMost _ _)
      · exact h₁.trans (formatMmc_formatsAtMost _ _ _ _ hx)
  · exact formatMmc_formatsAtMost _ _ _ _ hx

/-- `format_root_device` invokes at most one formatting primitive, unless the root's
    device is the MMC marker and its filesystem is `"ext3"`. -/
theorem formatRootDevice_formats_at_most_once (t : Table) (root : List Char) (w : World)
    (hx : ∀ i, getRootInfoForPath t root = some i → (t i).device = some (.marker .gMmcDevice) →
      (t i).filesystem.map Str.chars ≠ some "ext3".toList) :
    ((formatRootDevice t root w).2.log.drop w.log.length).countP (·.call.isFormat) ≤ 1 := by
  apply World.FormatsAtMost.countP_drop
  simp only [formatRootDevice]
  split
  · exact .refl _ _
  next i hi =>
  split
  · exact .refl _ _
  next device hd =>
  have hx' := fun (h : device = .marker .gMmcDevice) => hx i hi (h ▸ hd)
  have hq := World.FormatsAtMost.of_logsOnly (ensureRootPathUnmounted_logsOnly t root w)
    fun _ he => he.2
  split_ifs
  · exact hq.mono (by omega)
  · exact hq.trans (formatDevice_formatsAtMost _ _ _ _ hx')
  · exact formatDevice_formatsAtMost _ _ _ _ hx'

/-- A board whose `DATA_DEVICE` is the MMC marker and whose `DATA_FILESYSTEM` is `"ext3"`:
    `format_root_device("DATA:")` formats the partition with `mmc_format_ext3` and then,
    falling through to the generic branches, runs `mke2fs` as well, on the device string
    `g_mmc_device`, whose characters are `"@"`. -/
theorem formatRootDevice_formats_mmc_twice :
    ((formatRootDevice
        (gRoots { defaultConfig with
          dataDevice := some (.marker .gMmcDevice), dataFilesystem := some (.lit "ext3".toList) })
        "DATA:".toList ⟨[], [], ["userdata".toList], [true, true, true, true], []⟩).2.log.map
        (·.call)).filter (·.isFormat) =
      [.mmcFormatExt3 "userdata".toList,
       .system (.mke2fs (.lit "ext3".toList) "-O ^huge_file,extent ".toList
         (.marker .gMmcDevice))] := by
  decide

/-! ## Section 5: Success means something was formatted -/

/-- `w'` is `w` after calls of which one invoked a formatting primitive other than
    `mmc_format_ext3` that reported success. -/
def World.FormatOk (w w' : World) : Prop :=
  ∃ new, w'.log = w.log ++ new ∧ ∃ e ∈ new, e.call.isFormat = true ∧
    (∀ part, e.call ≠ .mmcFormatExt3 part) ∧ e.ok = true

namespace World.FormatOk

variable {P : Entry → Prop} {w w₁ w₂ : World}

theorem invoke {c : Call} (hc : c.isFormat = true) (hm : ∀ part, c ≠ .mmcFormatExt3 part)
    (hok : w.nextOk = true) : w.FormatOk (w.invoke c).2 :=
  ⟨_, invoke_log c w, _, List.mem_singleton_self _, hc, hm, hok⟩

theorem after (h₁ : w.LogsOnly P w₁) (h₂ : w₁.FormatOk w₂) : w.FormatOk w₂ := by
  obtain ⟨n₁, h₁, -⟩ := h₁
  obtain ⟨n₂, h₂, e, he, hf⟩ := h₂
  exact ⟨n₁ ++ n₂, by simp [h₁, h₂], e, List.mem_append_right _ he, hf⟩

theorem before (h₁ : w.FormatOk w₁) (h₂ : w₁.LogsOnly P w₂) : w.FormatOk w₂ := by
  obtain ⟨n₁, h₁, e, he, hf⟩ := h₁
  obtain ⟨n₂, h₂, -⟩ := h₂
  exact ⟨n₁ ++ n₂, by simp [h₁, h₂], e, List.mem_append_left _ he, hf⟩

/-- The formatting primitive is among the entries the run added. -/
theorem exists_drop (h : w.FormatOk w₁) :
    ∃ e ∈ w₁.log.drop w.log.length, e.call.isFormat = true ∧
      (∀ part, e.call ≠ .mmcFormatExt3 part) ∧ e.ok = true := by
  obtain ⟨n, h, hn⟩ := h
  simpa [h] using hn

end World.FormatOk

theorem formatGeneric_formatOk (root : List Char) (device fs : Str) (w : World)
    (h0 : (formatGeneric root device fs w).1 = 0) :
    w.FormatOk (formatGeneric root device fs w).2 := by
  revert h0
  simp only [formatGeneric]
  split_ifs <;> exact fun h0 => .invoke rfl (fun _ => nofun) (status_eq_zero.1 h0)

theorem eraseMtdPartition_formatOk (name : List Char) (w : World)
    (h0 : (eraseMtdPartition name w).1 = 0) : w.FormatOk (eraseMtdPartition name w).2 := by
  revert h0
  simp only [eraseMtdPartition]
  split_ifs with ho he
  · exact fun _ => (World.FormatOk.after
      (World.LogsOnly.invoke (P := fun _ => True) (.mtdWritePartition name) w trivial)
      (.invoke (c := .mtdEraseBlocks name) rfl (fun _ => nofun) he)).before (P := fun _ => True)
      (.invoke _ _ trivial)
  all_goals exact fun h0 => absurd h0 (by decide : (-1 : Int) ≠ 0)

theorem formatMmc_formatOk (root : List Char) (info : RootInfo) (device : Str) (w : World)
    (h0 : (formatMmc root info device w).1 = some 0) :
    w.FormatOk (formatMmc root info device w).2 := by
  revert h0
  simp only [formatMmc]
  split_ifs
  · have h₁ := World.LogsOnly.invoke (P := fun _ => True) .mmcScanPartitions w trivial
    split
    · simp
    · simp
    · split_ifs <;> intro h0
      · exact World.FormatOk.after (h₁.trans (.invoke _ _ trivial))
          (formatGeneric_formatOk _ _ _ _ (Option.some.inj h0))
      · exact World.FormatOk.after h₁ (formatGeneric_formatOk _ _ _ _ (Option.some.inj h0))
  · split
    · simp
    · exact fun h0 => formatGeneric_formatOk _ _ _ _ (Option.some.inj h0)

theorem formatDevice_formatOk (root : List Char) (info : RootInfo) (device : Str) (w : World)
    (h0 : (formatDevice root info device w).1 = some 0) :
    w.FormatOk (formatDevice root info device w).2 := by
  revert h0
  simp only [formatDevice]
  split_ifs
  · have h₁ := World.LogsOnly.invoke (P := fun _ => True) .mtdScanPartitions w trivial
    split
    · simp
    · simp
    · split_ifs <;> intro h0
      · exact World.FormatOk.after h₁ (eraseMtdPartition_formatOk _ _ (Option.some.inj h0))
      · exact World.FormatOk.after h₁ (formatMmc_formatOk _ _ _ _ h0)
  · exact formatMmc_formatOk _ _ _ _

/-- `format_root_device` returns 0 only after a formatting primitive other than
    `mmc_format_ext3` that it invoked reported success: the MTD erase, `stl.format`,
    `mke2fs` or `format_non_mtd_device`. An `mmc_format_ext3`, whether it succeeds or
    fails, never makes it succeed alone. -/
theorem formatRootDevice_succeeds_only_after_format (t : Table) (root : List Char) (w : World)
    (h0 : (formatRootDevice t root w).1 = some 0) :
    ∃ e ∈ (formatRootDevice t root w).2.log.drop w.log.length,
      e.call.isFormat = true ∧ (∀ part, e.call ≠ .mmcFormatExt3 part) ∧ e.ok = true := by
  apply World.FormatOk.exists_drop
  revert h0
  simp only [formatRootDevice]
  split
  · simp
  split
  · simp
  split_ifs with hmp hlt
  · intro h0
    simp at h0
    omega
  · exact fun h0 => World.FormatOk.after (ensureRootPathUnmounted_logsOnly t root w)
      (formatDevice_formatOk _ _ _ _ h0)
  · exact formatDevice_formatOk _ _ _ _

theorem formatRootDevice_succeeds_only_after_format_sdcard :
    let t := gRoots defaultConfig
    let root := "SDCARD:".toList
    let w : World := ⟨[], [], [], [true, true], []⟩
    (formatRootDevice t root w).1 = some 0 ∧
      ∃ e ∈ (formatRootDevice t root w).2.log.drop w.log.length,
        e.call.isFormat = true ∧ (∀ part, e.call ≠ .mmcFormatExt3 part) ∧ e.ok = true := by
  intro t root w
  exact ⟨by decide, formatRootDevice_succeeds_only_after_format t root w (by decide)⟩

end RecoveryRoots
