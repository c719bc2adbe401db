import RecoveryRoots.System

/-! # What an operation asks of the world

    Every call an operation of `roots.c` makes concerns the one root its path resolves
    to. It scans, mounts, creates and unmounts only at that root's mount point, and it
    unmounts only a mount point at which its scan has just found a volume. It formats only
    that root's partition or device. Its command lines hold that root's device, filesystem
    and options, or a row of `g_fs_options`. An operation whose path resolves to no root
    makes no call at all.

    `Entry.OfRoot` says once which logged calls an operation on a root can make, and
    `Entry.OfRootNoFormat` those of them that format nothing. Each modelled function keeps
    one of them along its run (`World.Runs`), by a lemma that follows the function's
    branches. The system-level results below follow from it by a case analysis on one
    entry: where the calls point, that only `format_root_device` formats and only its own
    root, that the mount table changes only at the root's mount point, and on the default
    board, that every command line fits in the array it is built in.
-/

namespace RecoveryRoots

/-! ## Section 1: The calls an operation on a root can make -/

/-- The calls an operation on the root `info`, given the path `root`, can log. -/
def Entry.OfRoot (info : RootInfo) (root : List Char) (e : Entry) : Prop :=
  match e.call with
  | .scanMountedVolumes | .mtdScanPartitions | .mmcScanPartitions => True
  | .unmountMountedVolume mp => info.mountPoint = some mp ∧ mp ∈ e.mounts
  | .mkdir mp => info.mountPoint = some mp
  | .mount device mp fs =>
    mp = info.mountPoint ∧ (info.device = some device ∨ info.device2 = some device) ∧
      info.filesystem = some fs
  | .system (.mount fs options device mp) =>
    mp = info.mountPoint ∧ info.device = some device ∧
      ((info.filesystem = some fs ∧
          options = info.filesystemOptions.getD "noatime,nodiratime,nodev".toList) ∨
        ∃ o ∈ gFsOptions, fs = .lit o.filesystem ∧ options = o.filesystemOptions)
  | .mtdMountPartition part mp fs =>
    info.partitionName = some part ∧ mp = info.mountPoint ∧ fs = info.filesystem
  | .mtdWritePartition part | .mtdEraseBlocks part | .mtdWriteClose part
  | .mmcFormatExt3 part => info.partitionName = some part
  | .system (.stlFormat device) => info.device = some device
  | .system (.mke2fs fs features device) =>
    info.device = some device ∧ info.filesystem = some fs ∧
      (features = [] ∨ features = "-O ^huge_file,extent ".toList)
  | .formatNonMtdDevice r => r = root

/-- The calls of the root `info` that format nothing: all that an operation other than
    `format_root_device` makes. -/
def Entry.OfRootNoFormat (info : RootInfo) (root : List Char) (e : Entry) : Prop :=
  e.OfRoot info root ∧ e.call.isFormat = false

/-- The calls an operation given the path `p` can log: those of the root `p` resolves to. -/
def Entry.OfPath (t : Table) (p : List Char) (e : Entry) : Prop :=
  ∃ i, getRootInfoForPath t p = some i ∧ e.OfRoot (t i) p

/-- A function that leaves the world alone on a path that resolves to nothing, and logs
    only entries of `P i` when the path resolves to `i`, logs only entries of the root its
    path resolves to. -/
theorem World.Runs.ofPath {t : Table} {p : List Char} {w w' : World}
    {P : Fin numRoots → Entry → Prop} (hnone : getRootInfoForPath t p = none → w' = w)
    (hsome : ∀ i, getRootInfoForPath t p = some i → w.Runs (P i) w') :
    w.Runs (fun e => ∃ i, getRootInfoForPath t p = some i ∧ P i e) w' := by
  cases hi : getRootInfoForPath t p with
  | none => rw [hnone hi]; exact .refl _ _
  | some i => exact (hsome i hi).mono fun e he => ⟨i, rfl, he⟩

theorem findPartition_eq_some {parts : List (List Char)} {name : Option (List Char)}
    {x : List Char} : findPartition parts name = some x ↔ name = some x ∧ x ∈ parts := by
  cases name <;> simp only [findPartition, Option.filter] <;> aesop

/-! ## Section 2: Each function makes only its root's calls -/

section Root

variable (info : RootInfo) (root : List Char) (w : World)

theorem internalRootMounted_ofRoot :
    w.Runs (Entry.OfRootNoFormat info root) (internalRootMounted info w).2 := by
  simp only [internalRootMounted]
  split
  · exact .refl _ _
  · split_ifs <;> exact .invoke _ _ ⟨trivial, rfl⟩

variable {info}

theorem mountInternal_ofRoot {device fs : Str} {mp : Option (List Char)}
    (hmp : mp = info.mountPoint) (hd : info.device = some device)
    (hfs : info.filesystem = some fs) :
    w.Runs (Entry.OfRootNoFormat info root)
      (mountInternal device mp fs info.filesystemOptions w).2 := by
  rw [mountInternal_eq]
  refine .invoke _ _ ⟨?_, mountInternalCall_isFormat ..⟩
  unfold mountInternalCall
  split_ifs
  · exact ⟨hmp, .inl hd, hfs⟩
  · exact ⟨hmp, hd, .inl ⟨hfs, rfl⟩⟩

theorem eraseMtdPartition_ofRoot {name : List Char} (hpn : info.partitionName = some name) :
    w.Runs (Entry.OfRoot info root) (eraseMtdPartition name w).2 := by
  have h₁ := World.Runs.invoke (P := Entry.OfRoot info root) (.mtdWritePartition name) w hpn
  have h₃ := (h₁.trans (.invoke (.mtdEraseBlocks name) _ hpn)).trans
    (.invoke (.mtdWriteClose name) _ hpn)
  simp only [eraseMtdPartition]
  split_ifs <;> assumption

theorem formatGeneric_ofRoot {device fs : Str} (hd : info.device = some device)
    (hfs : info.filesystem = some fs) :
    w.Runs (Entry.OfRoot info root) (formatGeneric root device fs w).2 := by
  simp only [formatGeneric]
  split_ifs
  · exact .invoke (.system (.stlFormat device)) _ hd
  · exact .invoke (.system (.mke2fs fs [] device)) _ ⟨hd, hfs, by simp⟩
  · exact .invoke (.system (.mke2fs fs _ device)) _ ⟨hd, hfs, by simp⟩
  · exact .invoke (.formatNonMtdDevice root) _ rfl

theorem formatMmc_ofRoot {device : Str} (hd : info.device = some device) :
    w.Runs (Entry.OfRoot info root) (formatMmc root info device w).2 := by
  simp only [formatMmc]
  split_ifs
  · have h₁ := World.Runs.invoke (P := Entry.OfRoot info root) .mmcScanPartitions w trivial
    split
    · exact h₁
    · exact h₁
    · next name fs hname hfs =>
      have hpn := (findPartition_eq_some.1 hname).1
      split_ifs
      · exact (h₁.trans (.invoke (.mmcFormatExt3 name) _ hpn)).trans
          (formatGeneric_ofRoot root _ hd hfs)
      · exact h₁.trans (formatGeneric_ofRoot root _ hd hfs)
  · split
    · exact .refl _ _
    · next fs hfs => exact formatGeneric_ofRoot root w hd hfs

theorem formatDevice_ofRoot {device : Str} (hd : info.device = some device) :
    w.Runs (Entry.OfRoot info root) (formatDevice root info device w).2 := by
  simp only [formatDevice]
  split_ifs
  · have h₁ := World.Runs.invoke (P := Entry.OfRoot info root) .mtdScanPartitions w trivial
    split
    · exact h₁
    · exact h₁
    · next name fs hname hfs =>
      have hpn := (findPartition_eq_some.1 hname).1
      split_ifs
      · exact h₁.trans (eraseMtdPartition_ofRoot root _ hpn)
      · exact h₁.trans (formatMmc_ofRoot root _ hd)
  · exact formatMmc_ofRoot root w hd

end Root

section Path

variable {t : Table} {p : List Char} {i : Fin numRoots} (hi : getRootInfoForPath t p = some i)
  (w : World)
include hi

/-- `ensure_root_path_unmounted` scans and unmounts only at the root's mount point, and only
    a mount point its scan found mounted; any root with that mount point may be named. -/
theorem ensureRootPathUnmounted_ofRoot {info : RootInfo}
    (hmp : (t i).mountPoint = info.mountPoint) (root : List Char) :
    w.Runs (Entry.OfRootNoFormat info root) (ensureRootPathUnmounted t p w).2 := by
  simp only [ensureRootPathUnmounted, hi]
  split
  · exact .refl _ _
  next mp hmp' =>
  have h₁ := World.Runs.invoke (P := Entry.OfRootNoFormat info root) .scanMountedVolumes w
    ⟨trivial, rfl⟩
  split_ifs with hok hm
  · exact h₁.trans (.invoke _ _ ⟨⟨hmp ▸ hmp', hm⟩, rfl⟩)
  · exact h₁
  · exact h₁

theorem ensureRootPathMounted_ofRoot :
    w.Runs (Entry.OfRootNoFormat (t i) p) (ensureRootPathMounted t p w).2 := by
  have h₁ := internalRootMounted_ofRoot (t i) p w
  simp only [ensureRootPathMounted, hi]
  by_cases hm : 0 ≤ (internalRootMounted (t i) w).1
  · rw [if_pos hm]
    exact h₁
  rw [if_neg hm]
  by_cases hmtd : (t i).device = some (.marker .gMtdDevice)
  · rw [if_pos hmtd]
    -- the MTD branch
    split
    · exact h₁
    · next name hpn =>
      have h₂ := h₁.trans (.invoke .mtdScanPartitions _ ⟨trivial, rfl⟩)
      split_ifs
      · exact h₂.trans (.invoke _ _ ⟨⟨hpn, rfl, rfl⟩, rfl⟩)
      · exact h₂
  · rw [if_neg hmtd]
    -- the generic branch, with its fallback to `device2`
    split
    · next device mp fs hd hmp hfs =>
      split_ifs with hraw hret
      · exact h₁
      all_goals
        have h₂ := (h₁.trans (.invoke (.mkdir mp) _ ⟨hmp, rfl⟩)).trans
          (mountInternal_ofRoot p _ hmp.symm hd hfs)
      · exact h₂
      · split
        · exact h₂
        · next device2 hd2 =>
          exact h₂.trans (.invoke _ _ ⟨⟨hmp.symm, .inr hd2, hfs⟩, rfl⟩)
    · exact h₁

theorem tryFilesystems_ofRoot {device : Str} (hd : (t i).device = some device)
    (os : List FilesystemOptions) (hos : ∀ o ∈ os, o ∈ gFsOptions) :
    w.Runs (Entry.OfRootNoFormat (t i) p) (tryFilesystems t p i device os w).2.2 := by
  induction os generalizing w with
  | nil => exact .refl _ _
  | cons o os ih =>
    have hc : mountInternalCall device (t i).mountPoint (.lit o.filesystem)
        (some o.filesystemOptions) =
        .system (.mount (.lit o.filesystem) o.filesystemOptions device (t i).mountPoint) := by
      simp [mountInternalCall]
    simp only [tryFilesystems, mountInternal_eq, hc]
    have h₁ := World.Runs.invoke (P := Entry.OfRootNoFormat (t i) p)
      (.system (.mount (.lit o.filesystem) o.filesystemOptions device (t i).mountPoint)) w
      ⟨⟨rfl, hd, .inr ⟨o, hos o (List.mem_cons_self _ _), rfl, rfl⟩⟩, rfl⟩
    split_ifs
    · exact h₁.trans (ensureRootPathUnmounted_ofRoot
        ((getRootInfoForPath_update_withFs t i o p).trans hi) _ (by simp) p)
    · exact h₁.trans (ih _ fun o' h => hos o' (List.mem_cons_of_mem _ h))

theorem detectInternalFs_ofRoot :
    w.Runs (Entry.OfRootNoFormat (t i) p) (detectInternalFs t p w).2.2 := by
  have h₁ := ensureRootPathUnmounted_ofRoot hi w rfl p
  simp only [detectInternalFs, hi]
  split
  · exact .refl _ _
  next device hd =>
  split_ifs
  · exact h₁
  · exact h₁.trans (tryFilesystems_ofRoot hi _ hd gFsOptions fun _ h => h)

theorem formatRootDevice_ofRoot :
    w.Runs (Entry.OfRoot (t i) p) (formatRootDevice t p w).2 := by
  have h₁ := (ensureRootPathUnmounted_ofRoot hi w rfl p).mono fun _ h => h.1
  simp only [formatRootDevice, hi]
  split
  · exact .refl _ _
  next device hd =>
  split_ifs
  · exact h₁
  · exact h₁.trans (formatDevice_ofRoot p _ hd)
  · exact formatDevice_ofRoot p w hd

theorem isRootPathMounted_ofRoot :
    w.Runs (Entry.OfRootNoFormat (t i) p) (isRootPathMounted t p w).2 := by
  simp only [isRootPathMounted, hi]
  exact internalRootMounted_ofRoot _ _ _

theorem getRootMtdPartition_ofRoot (boardHasMtdCache : Bool) :
    w.Runs (Entry.OfRootNoFormat (t i) p)
      (getRootMtdPartition boardHasMtdCache t p w).2 := by
  simp only [getRootMtdPartition, hi]
  split_ifs
  · exact .invoke .mtdScanPartitions _ ⟨trivial, rfl⟩
  · exact .refl _ _

end Path

/-- `register_package_root` makes no call: its `strdup` only draws a result. -/
theorem registerPackageRoot_world (package : Option Nat) (path : List Char) (pr : PackageRoot)
    (w : World) : (registerPackageRoot package path pr w).2.2.mounts = w.mounts ∧
      (registerPackageRoot package path pr w).2.2.log = w.log := by
  cases package with
  | none => exact ⟨rfl, rfl⟩
  | some a =>
    simp only [registerPackageRoot, strdup, World.draw]
    split_ifs <;> exact ⟨rfl, rfl⟩

namespace Entry.OfRoot

variable {info : RootInfo} {root : List Char} {e : Entry} (h : e.OfRoot info root)
include h

theorem mountTarget (hm : e.call.isMount = true) : e.call.mountTarget = info.mountPoint := by
  obtain ⟨c, ms, ok⟩ := e
  cases c with
  | mount => exact h.1
  | system cmd =>
    cases cmd with
    | mount => exact h.1
    | _ => cases hm
  | mtdMountPartition => exact h.2.1
  | _ => cases hm

theorem mkdir {mp : List Char} (he : e.call = .mkdir mp) : info.mountPoint = some mp := by
  obtain ⟨c, ms, ok⟩ := e
  subst he
  exact h

theorem unmount {mp : List Char} (he : e.call = .unmountMountedVolume mp) :
    info.mountPoint = some mp ∧ mp ∈ e.mounts := by
  obtain ⟨c, ms, ok⟩ := e
  subst he
  exact h

/-- A formatting primitive names the root's partition or device, or the path itself. -/
theorem format (hf : e.call.isFormat = true) :
    (∃ part, info.partitionName = some part ∧
        (e.call = .mtdEraseBlocks part ∨ e.call = .mmcFormatExt3 part)) ∨
      (∃ device, info.device = some device ∧
        (e.call = .system (.stlFormat device) ∨
          ∃ fs features, info.filesystem = some fs ∧
            e.call = .system (.mke2fs fs features device))) ∨
      e.call = .formatNonMtdDevice root := by
  obtain ⟨c, ms, ok⟩ := e
  cases c with
  | mtdEraseBlocks part => exact .inl ⟨part, h, .inl rfl⟩
  | mmcFormatExt3 part => exact .inl ⟨part, h, .inr rfl⟩
  | system cmd =>
    cases cmd with
    | stlFormat device => exact .inr (.inl ⟨device, h, .inl rfl⟩)
    | mke2fs fs features device =>
      exact .inr (.inl ⟨device, h.1, .inr ⟨fs, features, h.2.1, rfl⟩⟩)
    | mount => cases hf
  | formatNonMtdDevice r => exact .inr (.inr (congrArg _ h))
  | _ => cases hf

/-- A call of the root changes the number of volumes only at the root's mount point. -/
theorem count_effect {x : List Char} (hx : info.mountPoint ≠ some x) (ok : Bool)
    (ms : List (List Char)) : (e.call.effect ok ms).count x = ms.count x := by
  cases hm : e.call.isMount
  · by_cases hu : ∃ mp, e.call = .unmountMountedVolume mp
    · obtain ⟨mp, hu⟩ := hu
      have hne : x ≠ mp := fun hmx => hx (hmx ▸ (h.unmount hu).1)
      rw [hu]
      cases ok
      · rfl
      · simp [Call.effect, unmountTop, List.count_erase_of_ne hne]
    · have hk : e.call.keepsMounts = true := by
        unfold Call.keepsMounts
        split
        · exact absurd ⟨_, ‹_›⟩ hu
        · simp [hm]
      rw [Call.effect_of_keepsMounts hk]
  · rw [Call.effect_of_isMount hm, h.mountTarget hm]
    cases ok
    · rfl
    · cases hmp : info.mountPoint with
      | none => simp
      | some mp =>
        have : mp ≠ x := fun e => hx (e ▸ hmp)
        simp [List.count_singleton, this]

end Entry.OfRoot

/-! ## Section 3: Every operation -/

/-- An entry of a root that formats nothing is an entry of the operation's path, whatever
    the operation. -/
theorem exec_entry_of_noFormat {op : Op} {t : Table} {p : List Char} {e : Entry}
    (hp : op.rootPath = some p)
    (h : ∃ i, getRootInfoForPath t p = some i ∧ e.OfRootNoFormat (t i) p) :
    ∃ p, op.rootPath = some p ∧ e.OfPath t p ∧
      (e.call.isFormat = true → op = .formatRootDevice p) := by
  obtain ⟨i, hi, ho, hf⟩ := h
  exact ⟨p, hp, ⟨i, hi, ho⟩, fun h => absurd (h.symm.trans hf) Bool.noConfusion⟩

/-- Every call an operation logs is one the root its path resolves to can make, and only
    `format_root_device` formats. -/
theorem exec_runs_ofPath (cfg : BoardConfig) (op : Op) {m m' : Machine} {r : Reply}
    (h : op.exec cfg m = some (r, m')) :
    m.world.Runs (fun e => ∃ p, op.rootPath = some p ∧ e.OfPath m.roots p ∧
      (e.call.isFormat = true → op = .formatRootDevice p)) m'.world := by
  cases op <;> simp only [Op.exec, Option.map_eq_some', Option.some.injEq, Prod.mk.injEq] at h
  case registerPackageRoot a path =>
    obtain ⟨rfl, rfl⟩ := h
    exact .silent (registerPackageRoot_world a path m.pkg m.world).1
      (registerPackageRoot_world a path m.pkg m.world).2
  case isRootPathMounted p =>
    obtain ⟨rfl, rfl⟩ := h
    exact (World.Runs.ofPath (by intro hi; simp [isRootPathMounted, hi])
      fun i hi => isRootPathMounted_ofRoot hi _).mono fun _ he => exec_entry_of_noFormat rfl he
  case ensureRootPathMounted p =>
    obtain ⟨rfl, rfl⟩ := h
    exact (World.Runs.ofPath (by intro hi; simp [ensureRootPathMounted, hi])
      fun i hi => ensureRootPathMounted_ofRoot hi _).mono fun _ he => exec_entry_of_noFormat rfl he
  case ensureRootPathUnmounted p =>
    obtain ⟨rfl, rfl⟩ := h
    exact (World.Runs.ofPath (by intro hi; simp [ensureRootPathUnmounted, hi])
      fun i hi => ensureRootPathUnmounted_ofRoot hi _ rfl p).mono
        fun _ he => exec_entry_of_noFormat rfl he
  case getRootMtdPartition p =>
    obtain ⟨_, -, rfl, rfl⟩ := h
    exact (World.Runs.ofPath
      (by intro hi; simp only [getRootMtdPartition, hi]; split_ifs <;> rfl)
      fun i hi => getRootMtdPartition_ofRoot hi _ _).mono fun _ he => exec_entry_of_noFormat rfl he
  case formatRootDevice p =>
    obtain ⟨_, -, rfl, rfl⟩ := h
    exact (World.Runs.ofPath (by intro hi; simp [formatRootDevice, hi])
      fun i hi => formatRootDevice_ofRoot hi _).mono fun e he => ⟨p, rfl, he, fun _ => rfl⟩
  case detectInternalFs p =>
    obtain ⟨rfl, rfl⟩ := h
    exact (World.Runs.ofPath (by intro hi; simp [detectInternalFs, hi])
      fun i hi => detectInternalFs_ofRoot hi _).mono fun _ he => exec_entry_of_noFormat rfl he
  all_goals first
    | (obtain ⟨rfl, rfl⟩ := h; exact .refl _ _)
    | (obtain ⟨_, _, rfl, rfl⟩ := h; exact .refl _ _)

/-- Every mount request (`mount(2)`, the external `mount` command, `mtd_mount_partition`),
    `mkdir` and unmount an operation makes names the mount point of the root its path
    resolves to, and an unmount is asked only for a mount point at which a volume is
    mounted at that moment. An operation on a path that resolves to no root makes no call. -/
theorem exec_calls_own_mount_point (cfg : BoardConfig) (op : Op) {m m' : Machine}
    {r : Reply} (h : op.exec cfg m = some (r, m')) :
    ∀ e ∈ m'.world.log.drop m.world.log.length, ∃ p i, op.rootPath = some p ∧
      getRootInfoForPath m.roots p = some i ∧
      (e.call.isMount = true → e.call.mountTarget = (m.roots i).mountPoint) ∧
      (∀ mp, e.call = .mkdir mp → (m.roots i).mountPoint = some mp) ∧
      (∀ mp, e.call = .unmountMountedVolume mp →
        (m.roots i).mountPoint = some mp ∧ mp ∈ e.mounts) := by
  intro e he
  obtain ⟨p, hp, ⟨i, hi, ho⟩, -⟩ := (exec_runs_ofPath cfg op h).forall_drop e he
  exact ⟨p, i, hp, hi, ho.mountTarget, fun _ => ho.mkdir, fun _ => ho.unmount⟩

theorem exec_calls_own_mount_point_data :
    let m : Machine :=
      ⟨gRoots defaultConfig, PackageRoot.init, ⟨["/data".toList], [], [], [true, true], []⟩⟩
    let op := Op.ensureRootPathUnmounted "DATA:".toList
    ∃ r m', op.exec defaultConfig m = some (r, m') ∧
      ∀ e ∈ m'.world.log.drop m.world.log.length, ∃ p i, op.rootPath = some p ∧
        getRootInfoForPath m.roots p = some i ∧
        (e.call.isMount = true → e.call.mountTarget = (m.roots i).mountPoint) ∧
        (∀ mp, e.call = .mkdir mp → (m.roots i).mountPoint = some mp) ∧
        (∀ mp, e.call = .unmountMountedVolume mp →
          (m.roots i).mountPoint = some mp ∧ mp ∈ e.mounts) :=
  ⟨_, _, rfl, exec_calls_own_mount_point defaultConfig _ rfl⟩

/-- An operation changes the number of volumes mounted at a mount point only if it is the
    mount point of the root its path resolves to: the volumes everywhere else are left
    alone, and an operation whose path resolves to no root changes no mount at all. -/
theorem exec_mounts_elsewhere_unchanged (cfg : BoardConfig) (op : Op) {m m' : Machine}
    {r : Reply} (h : op.exec cfg m = some (r, m')) (x : List Char) :
    m'.world.mounts.count x = m.world.mounts.count x ∨
      ∃ p i, op.rootPath = some p ∧ getRootInfoForPath m.roots p = some i ∧
        (m.roots i).mountPoint = some x := by
  refine or_iff_not_imp_right.2 fun hx => (exec_runs_ofPath cfg op h).preserves
    (Q := fun w => w.mounts.count x = m.world.mounts.count x) rfl ?_
    fun _ _ hm _ hq => (congrArg _ hm).trans hq
  rintro w c ⟨p, hp, ⟨i, hi, ho⟩, -⟩ hq
  rw [invoke_mounts, ← hq]
  exact ho.count_effect (fun hmp => hx ⟨p, i, hp, hi, hmp⟩) _ _

theorem exec_mounts_elsewhere_unchanged_system :
    let m : Machine := ⟨gRoots defaultConfig, PackageRoot.init,
      ⟨["/data".toList], [], [], [true, true, true], []⟩⟩
    let op := Op.ensureRootPathMounted "SYSTEM:".toList
    ∃ r m', op.exec defaultConfig m = some (r, m') ∧ ∀ x,
      m'.world.mounts.count x = m.world.mounts.count x ∨
        ∃ p i, op.rootPath = some p ∧ getRootInfoForPath m.roots p = some i ∧
          (m.roots i).mountPoint = some x :=
  ⟨_, _, rfl, exec_mounts_elsewhere_unchanged defaultConfig _ rfl⟩

/-- Every formatting primitive `format_root_device(root)` invokes names the root `root`
    resolves to: its partition (the MTD erase, `mmc_format_ext3`), its device (`stl.format`,
    and `mke2fs` with the root's filesystem), or `root` itself (`format_non_mtd_device`). -/
theorem formatRootDevice_formats_own_root (t : Table) (root : List Char) (w : World) :
    ∀ e ∈ (formatRootDevice t root w).2.log.drop w.log.length, e.call.isFormat = true →
      ∃ i, getRootInfoForPath t root = some i ∧
        ((∃ part, (t i).partitionName = some part ∧
            (e.call = .mtdEraseBlocks part ∨ e.call = .mmcFormatExt3 part)) ∨
          (∃ device, (t i).device = some device ∧
            (e.call = .system (.stlFormat device) ∨
              ∃ fs features, (t i).filesystem = some fs ∧
                e.call = .system (.mke2fs fs features device))) ∨
          e.call = .formatNonMtdDevice root) := by
  intro e he hf
  obtain ⟨i, hi, ho⟩ := (World.Runs.ofPath (by intro hi; simp [formatRootDevice, hi])
    fun i hi => formatRootDevice_ofRoot hi w).forall_drop e he
  exact ⟨i, hi, ho.format hf⟩

theorem formatRootDevice_formats_own_root_sdcard :
    let t := gRoots defaultConfig
    let root := "SDCARD:".toList
    let w : World := ⟨[], [], [], [true, true], []⟩
    let e : Entry := ⟨.formatNonMtdDevice root, [], true⟩
    e ∈ (formatRootDevice t root w).2.log.drop w.log.length ∧ e.call.isFormat = true ∧
      ∃ i, getRootInfoForPath t root = some i ∧
        ((∃ part, (t i).partitionName = some part ∧
            (e.call = .mtdEraseBlocks part ∨ e.call = .mmcFormatExt3 part)) ∨
          (∃ device, (t i).device = some device ∧
            (e.call = .system (.stlFormat device) ∨
              ∃ fs features, (t i).filesystem = some fs ∧
                e.call = .system (.mke2fs fs features device))) ∨
          e.call = .formatNonMtdDevice root) :=
  ⟨by decide, rfl, formatRootDevice_formats_own_root _ _ ⟨[], [], [], [true, true], []⟩ _
    (by decide) rfl⟩

/-- Only `format_root_device` formats: no other operation, in any state, invokes the MTD
    erase, `mmc_format_ext3`, `stl.format`, `mke2fs` or `format_non_mtd_device`. -/
theorem exec_formats_only_formatRootDevice (cfg : BoardConfig) (op : Op) {m m' : Machine}
    {r : Reply} (h : op.exec cfg m = some (r, m')) :
    ∀ e ∈ m'.world.log.drop m.world.log.length, e.call.isFormat = true →
      ∃ p, op = .formatRootDevice p := by
  intro e he hf
  obtain ⟨p, -, -, hp⟩ := (exec_runs_ofPath cfg op h).forall_drop e he
  exact ⟨p, hp hf⟩

theorem exec_formats_only_formatRootDevice_data :
    let m : Machine :=
      ⟨gRoots defaultConfig, PackageRoot.init, ⟨["/data".toList], [], [], [true, true], []⟩⟩
    let op := Op.ensureRootPathUnmounted "DATA:".toList
    ∃ r m', op.exec defaultConfig m = some (r, m') ∧
      ∀ e ∈ m'.world.log.drop m.world.log.length, e.call.isFormat = true →
        ∃ p, op = .formatRootDevice p :=
  ⟨_, _, rfl, exec_formats_only_formatRootDevice defaultConfig _ rfl⟩

/-! ## Section 4: Command lines on the default board -/

/-- The string lengths that keep every command line of a root inside its array. -/
structure RootInfo.ShortStrings (info : RootInfo) : Prop where
  device : ∀ d ∈ info.device, d.chars.length ≤ 20
  filesystem : ∀ fs ∈ info.filesystem, fs.chars.length ≤ 7
  filesystemOptions : ∀ o ∈ info.filesystemOptions, o.length ≤ 37
  mountPoint : ∀ mp ∈ info.mountPoint, mp.length ≤ 8

theorem gFsOptions_short : ∀ o ∈ gFsOptions, o.filesystem.length ≤ 7 ∧
    o.filesystemOptions.length ≤ 37 := by
  decide

/-- Every entry of the default `g_roots`, and every entry a reachable state of the default
    board holds, has short strings: the longest device is the 20 characters of
    `/dev/block/mmcblk0p2`. -/
theorem reachable_default_shortStrings {m : Machine} (hm : Reachable defaultConfig m)
    (i : Fin numRoots) : (m.roots i).ShortStrings := by
  have h₀ : ∀ i, (∀ d ∈ (gRoots defaultConfig i).device, d.chars.length ≤ 20) ∧
      (∀ fs ∈ (gRoots defaultConfig i).filesystem, fs.chars.length ≤ 7) ∧
      (∀ o ∈ (gRoots defaultConfig i).filesystemOptions, o.length ≤ 37) ∧
      (∀ mp ∈ (gRoots defaultConfig i).mountPoint, mp.length ≤ 8) := by
    decide
  obtain ⟨hd, hfs, ho, hmp⟩ := h₀ i
  rcases reachable_rootsInv hm i with h | ⟨o, hrow, h⟩ <;> rw [h]
  · exact ⟨hd, hfs, ho, hmp⟩
  · have := gFsOptions_short o hrow
    refine ⟨hd, ?_, ?_, hmp⟩ <;> simp [RootInfo.withFs, this]

/-- A command line an operation on a root with short strings builds fits in its array. -/
theorem Entry.OfRoot.fits {info : RootInfo} {root : List Char} {e : Entry}
    (h : e.OfRoot info root) (hs : info.ShortStrings) {c : Command}
    (hc : e.call = .system c) : c.Fits := by
  obtain ⟨c', ms, ok⟩ := e
  subst hc
  simp only [Command.Fits, Command.bufferSize, pathMax]
  cases c with
  | stlFormat device =>
    have := hs.device device h
    simp only [Command.render, List.length_append]
    have : "stl.format ".toList.length = 11 := rfl
    omega
  | mke2fs fs features device =>
    obtain ⟨hd, hfs, hfeat⟩ := h
    have := hs.device device hd
    have := hs.filesystem fs hfs
    have : features.length ≤ 21 := by rcases hfeat with rfl | rfl <;> decide
    simp only [Command.render, List.length_append]
    have : "/sbin/mke2fs -T ".toList.length = 16 := rfl
    have : " -F -j -q -m 0 -b 4096 ".toList.length = 23 := rfl
    have : " ".toList.length = 1 := rfl
    omega
  | mount fs options device mp =>
    obtain ⟨rfl, hd, hfo⟩ := h
    have := hs.device device hd
    have hmp : (printed info.mountPoint).length ≤ 8 := by
      cases hm : info.mountPoint with
      | none => decide
      | some mp => exact hs.mountPoint mp hm
    have hfo : fs.chars.length ≤ 7 ∧ options.length ≤ 37 := by
      rcases hfo with ⟨hfs, rfl⟩ | ⟨o, ho, rfl, rfl⟩
      · refine ⟨hs.filesystem fs hfs, ?_⟩
        cases hopt : info.filesystemOptions with
        | none => decide
        | some o => exact hs.filesystemOptions o hopt
      · exact gFsOptions_short o ho
    simp only [Command.render, List.length_append]
    have : "mount -t ".toList.length = 9 := rfl
    have : " -o".toList.length = 3 := rfl
    have : " ".toList.length = 1 := rfl
    omega

/-- On the default board, in every reachable state, every command line an operation
    hands to `__system` fits in the array it is built in: `stl.format` in
    `stl_format[32]`, `mke2fs` in `ext_format[96]`, `mount` in `mount_cmd[PATH_MAX]`. -/
theorem exec_commands_fit_default {m : Machine} (hm : Reachable defaultConfig m) (op : Op)
    (w : World) {r : Reply} {m' : Machine}
    (h : op.exec defaultConfig ⟨m.roots, m.pkg, w⟩ = some (r, m')) :
    ∀ e ∈ m'.world.log.drop w.log.length, ∀ c, e.call = .system c → c.Fits := by
  intro e he c hc
  obtain ⟨p, -, ⟨i, -, ho⟩, -⟩ := (exec_runs_ofPath defaultConfig op h).forall_drop e he
  exact ho.fits (reachable_default_shortStrings hm i) hc

theorem exec_commands_fit_default_data :
    let m : Machine := ⟨gRoots defaultConfig, PackageRoot.init, ⟨[], [], [], [], []⟩⟩
    let op := Op.detectInternalFs "DATA:".toList
    let w : World := ⟨[], [], [], [true, true, true, true], []⟩
    Reachable defaultConfig m ∧
    ∃ r m', op.exec defaultConfig ⟨m.roots, m.pkg, w⟩ = some (r, m') ∧
      ∀ e ∈ m'.world.log.drop w.log.length, ∀ c, e.call = .system c → c.Fits := by
  intro m op w
  exact ⟨.init ⟨rfl, rfl, rfl⟩, _, _, rfl,
    exec_commands_fit_default (m := m) (.init ⟨rfl, rfl, rfl⟩) op w rfl⟩

end RecoveryRoots
