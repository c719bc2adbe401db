import RecoveryRoots.World

/-! # Mount state and mounting

    `internal_root_mounted`, `is_root_path_mounted`, `mount_internal`,
    `ensure_root_path_mounted` and `ensure_root_path_unmounted`. None of them writes
    `g_roots`: they take the table as an argument and return only the new world. Every
    query re-scans the mount table; `find_mounted_volume_by_mount_point` looks the root's
    mount point up in what the scan read, which is the kernel's table since nothing else
    runs between the two calls. Mounting a root that was not mounted and then unmounting
    it gives back the mount table, and `ensure_root_path_mounted` succeeds on every root it
    can mount when the primitives it calls do.
-/

namespace RecoveryRoots

/-! ## Section 1: The model -/

/-- `internal_root_mounted`: 0 if a volume is mounted at the root's mount point; -1 if
    none is, if the root has no mount point, or if the scan fails. -/
def internalRootMounted (info : RootInfo) (w : World) : Int × World :=
  match info.mountPoint with
  | none => (-1, w)
  | some mp =>
    let (ok, w) := w.invoke .scanMountedVolumes
    if ok then (if mp ∈ w.mounts then 0 else -1, w) else (-1, w)

/-- `is_root_path_mounted`. -/
def isRootPathMounted (t : Table) (rootPath : List Char) (w : World) : Int × World :=
  match getRootInfoForPath t rootPath with
  | none => (-1, w)
  | some i =>
    let (ret, w) := internalRootMounted (t i) w
    (if 0 ≤ ret then 1 else 0, w)

/-- `mount_internal`: `mount(2)` when the filesystem is not `"auto"` and has no options,
    the external `mount` command otherwise. Only whether the result is zero is read. The
    `sprintf` into `mount_cmd[PATH_MAX]` is taken to return, as it does when the command
    line fits (`Command.Fits`). -/
def mountInternal (device : Str) (mountPoint : Option (List Char)) (filesystem : Str)
    (filesystemOptions : Option (List Char)) (w : World) : Int × World :=
  if filesystem.chars ≠ "auto".toList ∧ filesystemOptions = none then
    let (ok, w) := w.invoke (.mount device mountPoint filesystem)
    (status ok, w)
  else
    let options := filesystemOptions.getD "noatime,nodiratime,nodev".toList
    let (ok, w) := w.invoke (.system (.mount filesystem options device mountPoint))
    (status ok, w)

/-- The call `mount_internal` makes. -/
def mountInternalCall (device : Str) (mountPoint : Option (List Char)) (filesystem : Str)
    (filesystemOptions : Option (List Char)) : Call :=
  if filesystem.chars ≠ "auto".toList ∧ filesystemOptions = none then
    .mount device mountPoint filesystem
  else
    .system (.mount filesystem (filesystemOptions.getD "noatime,nodiratime,nodev".toList) device
      mountPoint)

/-- `ensure_root_path_mounted`. -/
def ensureRootPathMounted (t : Table) (rootPath : List Char) (w : World) : Int × World :=
  match getRootInfoForPath t rootPath with
  | none => (-1, w)
  | some i =>
    let info := t i
    let (ret, w) := internalRootMounted info w
    if 0 ≤ ret then (0, w)
    else if info.device = some (.marker .gMtdDevice) then
      match info.partitionName with
      | none => (-1, w)
      | some name =>
        let w := (w.invoke .mtdScanPartitions).2
        if name ∈ w.mtdPartitions then
          let (ok, w) := w.invoke (.mtdMountPartition name info.mountPoint info.filesystem)
          (status ok, w)
        else (-1, w)
    else
      match info.device, info.mountPoint, info.filesystem with
      | some device, some mp, some fs =>
        if fs = .marker .gRaw ∨ fs = .marker .gPackageFile then (-1, w)
        else
          let w := (w.invoke (.mkdir mp)).2
          let (ret, w) := mountInternal device (some mp) fs info.filesystemOptions w
          if ret = 0 then (0, w)
          else
            match info.device2 with
            | none => (-1, w)
            | some device2 =>
              let (ok, w) := w.invoke (.mount device2 (some mp) fs)
              (status ok, w)
      | _, _, _ => (-1, w)

/-- `ensure_root_path_unmounted`. -/
def ensureRootPathUnmounted (t : Table) (rootPath : List Char) (w : World) : Int × World :=
  match getRootInfoForPath t rootPath with
  | none => (-1, w)
  | some i =>
    match (t i).mountPoint with
    | none => (0, w)
    | some mp =>
      let (ok, w) := w.invoke .scanMountedVolumes
      if ok then
        if mp ∈ w.mounts then
          let (ok, w) := w.invoke (.unmountMountedVolume mp)
          (status ok, w)
        else (0, w)
      else (-1, w)

/-! ## Section 2: Spec lemmas -/

theorem internalRootMounted_of_mountPoint {info : RootInfo} {mp : List Char}
    (hmp : info.mountPoint = some mp) (w : World) :
    internalRootMounted info w =
      (if w.nextOk ∧ mp ∈ w.mounts then 0 else -1,
        (w.invoke .scanMountedVolumes).2) := by
  simp only [internalRootMounted, hmp, World.invoke]
  split <;> simp_all [Call.effect]

section Lookup

variable {t : Table} {p : List Char} {i : Fin numRoots} (hi : getRootInfoForPath t p = some i)
  {mp : List Char} (hmp : (t i).mountPoint = some mp) (w : World)
include hi hmp

/-- A root with a mount point is unmounted by one scan and, if a volume is found there,
    one `umount`. -/
theorem ensureRootPathUnmounted_of_mountPoint :
    ensureRootPathUnmounted t p w =
      if w.nextOk then
        if mp ∈ w.mounts then
          (status (w.invoke .scanMountedVolumes).2.nextOk,
            ((w.invoke .scanMountedVolumes).2.invoke (.unmountMountedVolume mp)).2)
        else (0, (w.invoke .scanMountedVolumes).2)
      else (-1, (w.invoke .scanMountedVolumes).2) := by
  have hm : (w.invoke .scanMountedVolumes).2.mounts = w.mounts := by simp [Call.effect]
  simp only [ensureRootPathUnmounted, hi, hmp, invoke_fst, hm]

/-- When it succeeds, one volume fewer is mounted at the mount point (none, if none was). -/
theorem count_ensureRootPathUnmounted (h0 : (ensureRootPathUnmounted t p w).1 = 0) :
    (ensureRootPathUnmounted t p w).2.mounts.count mp = w.mounts.count mp - 1 := by
  rw [ensureRootPathUnmounted_of_mountPoint hi hmp w] at h0 ⊢
  cases hs : w.nextOk
  · simp [hs] at h0
  · by_cases hm : mp ∈ w.mounts
    · simp only [hs, hm, if_true, status_eq_zero] at h0 ⊢
      simp [h0, Call.effect, count_unmountTop]
    · simp [hs, hm, Call.effect, List.count_eq_zero_of_not_mem hm]

/-- When it fails, the mount table is unchanged. -/
theorem ensureRootPathUnmounted_mounts_of_ne (h0 : (ensureRootPathUnmounted t p w).1 ≠ 0) :
    (ensureRootPathUnmounted t p w).2.mounts = w.mounts := by
  rw [ensureRootPathUnmounted_of_mountPoint hi hmp w] at h0 ⊢
  cases hs : w.nextOk
  · simp [hs, Call.effect]
  · by_cases hm : mp ∈ w.mounts
    · simp only [hs, hm, if_true, ne_eq, status_eq_zero, Bool.not_eq_true] at h0 ⊢
      simp [h0, Call.effect]
    · simp [hs, hm] at h0

/-- A repeated `ensure_root_path_mounted` whose scan finds the volume mounts nothing. -/
theorem ensureRootPathMounted_of_mounted (hs : w.nextOk = true)
    (hm : mp ∈ w.mounts) :
    ensureRootPathMounted t p w = (0, (w.invoke .scanMountedVolumes).2) := by
  simp [ensureRootPathMounted, hi, internalRootMounted_of_mountPoint hmp, hs, hm]

end Lookup

theorem mem_of_mountInternal {device fs : Str} {mp : List Char} {opts : Option (List Char)}
    {w : World} (h0 : (mountInternal device (some mp) fs opts w).1 = 0) :
    mp ∈ (mountInternal device (some mp) fs opts w).2.mounts := by
  unfold mountInternal at h0 ⊢
  split_ifs at h0 ⊢ <;>
    exact mem_invoke_mounts _ _ rfl (status_eq_zero.1 h0)

/-- `ensure_root_path_mounted` succeeds on a root with a mount point only with a volume
    mounted there. -/
theorem mem_of_ensureRootPathMounted {t : Table} {p : List Char} {i : Fin numRoots}
    (hi : getRootInfoForPath t p = some i) {mp : List Char} (hmp : (t i).mountPoint = some mp)
    {w : World} (h0 : (ensureRootPathMounted t p w).1 = 0) :
    mp ∈ (ensureRootPathMounted t p w).2.mounts := by
  simp only [ensureRootPathMounted, hi, internalRootMounted_of_mountPoint hmp, hmp] at h0 ⊢
  by_cases hr : w.nextOk = true ∧ mp ∈ w.mounts
  · simp [hr, Call.effect]
  have hneg : ¬ (0 : Int) ≤ -1 := by decide
  simp only [hr, hneg, if_false] at h0 ⊢
  split_ifs at h0 ⊢ with hmtd
  · -- the MTD branch
    cases hpn : (t i).partitionName with
    | none => simp [hpn] at h0
    | some name =>
      simp only [hpn] at h0 ⊢
      split_ifs at h0 ⊢
      · exact mem_invoke_mounts _ _ rfl (status_eq_zero.1 h0)
      · simp at h0
  · -- the generic branch
    cases hd : (t i).device with
    | none => simp [hd] at h0
    | some device =>
      cases hfs : (t i).filesystem with
      | none => simp [hd, hfs] at h0
      | some fs =>
        simp only [hd, hfs] at h0 ⊢
        split_ifs at h0 ⊢ with hraw hmi
        · simp at h0
        · exact mem_of_mountInternal hmi
        · cases hd2 : (t i).device2 with
          | none => simp [hd2] at h0
          | some device2 =>
            simp only [hd2] at h0 ⊢
            exact mem_invoke_mounts _ _ rfl (status_eq_zero.1 h0)

section MountInternal

variable (device filesystem : Str) (mountPoint : Option (List Char))
  (filesystemOptions : Option (List Char)) (w : World)

theorem mountInternal_eq :
    mountInternal device mountPoint filesystem filesystemOptions w =
      (status w.nextOk,
        (w.invoke (mountInternalCall device mountPoint filesystem filesystemOptions)).2) := by
  unfold mountInternal mountInternalCall
  split_ifs <;> rfl

@[simp] theorem mountInternalCall_isMount :
    (mountInternalCall device mountPoint filesystem filesystemOptions).isMount = true := by
  unfold mountInternalCall; split_ifs <;> rfl

@[simp] theorem mountInternalCall_mountTarget :
    (mountInternalCall device mountPoint filesystem filesystemOptions).mountTarget =
      mountPoint := by
  unfold mountInternalCall; split_ifs <;> rfl

@[simp] theorem mountInternalCall_isFormat :
    (mountInternalCall device mountPoint filesystem filesystemOptions).isFormat = false := by
  unfold mountInternalCall; split_ifs <;> rfl

end MountInternal

/-- Calls that neither mount nor format. -/
def Entry.isQuiet (e : Entry) : Prop := e.call.isMount = false ∧ e.call.isFormat = false

/-- `ensure_root_path_unmounted` only scans and unmounts. -/
theorem ensureRootPathUnmounted_logsOnly (t : Table) (p : List Char) (w : World) :
    w.LogsOnly Entry.isQuiet (ensureRootPathUnmounted t p w).2 := by
  simp only [ensureRootPathUnmounted]
  split
  · exact .refl _ _
  split
  · exact .refl _ _
  split_ifs
  · exact (World.LogsOnly.invoke _ _ ⟨rfl, rfl⟩).trans (.invoke _ _ ⟨rfl, rfl⟩)
  all_goals exact .invoke _ _ ⟨rfl, rfl⟩

theorem ensureRootPathUnmounted_fst (t : Table) (p : List Char) (w : World) :
    (ensureRootPathUnmounted t p w).1 = 0 ∨ (ensureRootPathUnmounted t p w).1 = -1 := by
  simp only [ensureRootPathUnmounted]
  split
  · simp
  split
  · simp
  split_ifs <;> simp [status]

/-! ## Section 3: Unmounting and remounting -/

/-- `ensure_root_path_unmounted` on a root that resolves: with no mount point it makes no
    call and succeeds; if no volume is mounted at its mount point it makes only the scan,
    and succeeds unless the scan fails; and when it succeeds, one volume fewer is mounted
    at the mount point, so none is if at most one was. -/
theorem ensureRootPathUnmounted_unmounts_top (t : Table) (p : List Char) (w : World)
    (i : Fin numRoots) (hi : getRootInfoForPath t p = some i) :
    ((t i).mountPoint = none → ensureRootPathUnmounted t p w = (0, w)) ∧
    (∀ mp, (t i).mountPoint = some mp → mp ∉ w.mounts →
      ensureRootPathUnmounted t p w = (status w.nextOk, (w.invoke .scanMountedVolumes).2)) ∧
    (∀ mp, (t i).mountPoint = some mp → (ensureRootPathUnmounted t p w).1 = 0 →
      (ensureRootPathUnmounted t p w).2.mounts.count mp = w.mounts.count mp - 1 ∧
      (w.mounts.count mp ≤ 1 → mp ∉ (ensureRootPathUnmounted t p w).2.mounts)) := by
  refine ⟨fun hmp => by simp [ensureRootPathUnmounted, hi, hmp], ?_, ?_⟩
  · intro mp hmp hm
    rw [ensureRootPathUnmounted_of_mountPoint hi hmp]
    cases w.nextOk <;> simp [hm]
  · intro mp hmp h0
    have hc := count_ensureRootPathUnmounted hi hmp w h0
    exact ⟨hc, fun h1 => List.count_eq_zero.1 (by omega)⟩

theorem ensureRootPathUnmounted_unmounts_top_data :
    let t := gRoots defaultConfig
    let p := "DATA:".toList
    let w : World := ⟨["/data".toList], [], [], [true, true], []⟩
    getRootInfoForPath t p = some 1 ∧
      (((t 1).mountPoint = none → ensureRootPathUnmounted t p w = (0, w)) ∧
      (∀ mp, (t 1).mountPoint = some mp → mp ∉ w.mounts →
        ensureRootPathUnmounted t p w = (status w.nextOk, (w.invoke .scanMountedVolumes).2)) ∧
      (∀ mp, (t 1).mountPoint = some mp → (ensureRootPathUnmounted t p w).1 = 0 →
        (ensureRootPathUnmounted t p w).2.mounts.count mp = w.mounts.count mp - 1 ∧
        (w.mounts.count mp ≤ 1 → mp ∉ (ensureRootPathUnmounted t p w).2.mounts))) :=
  ⟨by decide, ensureRootPathUnmounted_unmounts_top _ _ _ 1 (by decide)⟩

/-- Two volumes stacked at `/data`: `ensure_root_path_unmounted("DATA:")` removes one,
    reports success, and the other stays mounted. -/
theorem ensureRootPathUnmounted_leaves_stacked_volume :
    (ensureRootPathUnmounted (gRoots defaultConfig) "DATA:".toList
        ⟨["/data".toList, "/data".toList], [], [], [true, true], []⟩).1 = 0 ∧
      "/data".toList ∈ (ensureRootPathUnmounted (gRoots defaultConfig) "DATA:".toList
        ⟨["/data".toList, "/data".toList], [], [], [true, true], []⟩).2.mounts := by
  decide

/-- `ensure_root_path_mounted` on a root with a mount point: when it succeeds a volume is
    mounted there, and an immediate second call whose scan succeeds makes only that scan
    and succeeds. -/
theorem ensureRootPathMounted_idempotent (t : Table) (p : List Char) (w w₁ : World)
    (i : Fin numRoots) (hi : getRootInfoForPath t p = some i) (mp : List Char)
    (hmp : (t i).mountPoint = some mp) (h : ensureRootPathMounted t p w = (0, w₁)) :
    mp ∈ w₁.mounts ∧
      (w₁.nextOk = true →
        ensureRootPathMounted t p w₁ = (0, (w₁.invoke .scanMountedVolumes).2)) := by
  have hm : mp ∈ w₁.mounts := by
    simpa [h] using mem_of_ensureRootPathMounted hi hmp (w := w) (by simp [h])
  exact ⟨hm, fun hs => ensureRootPathMounted_of_mounted hi hmp w₁ hs hm⟩

theorem ensureRootPathMounted_idempotent_system :
    let t := gRoots defaultConfig
    let p := "SYSTEM:".toList
    let w : World := ⟨[], [], [], [true, true, true, true], []⟩
    getRootInfoForPath t p = some 3 ∧ (t 3).mountPoint = some "/system".toList ∧
      ensureRootPathMounted t p w = (0, (ensureRootPathMounted t p w).2) ∧
      ("/system".toList ∈ (ensureRootPathMounted t p w).2.mounts ∧
        ((ensureRootPathMounted t p w).2.nextOk = true →
          ensureRootPathMounted t p (ensureRootPathMounted t p w).2 =
            (0, ((ensureRootPathMounted t p w).2.invoke .scanMountedVolumes).2))) :=
  ⟨by decide, rfl, by decide, ensureRootPathMounted_idempotent _ _
    ⟨[], [], [], [true, true, true, true], []⟩ _ 3 (by decide) _ rfl (by decide)⟩

/-- `SYSTEM:` is mounted by a first call; the second call's scan fails, so it takes the
    root for unmounted and issues a second `mount`. -/
theorem ensureRootPathMounted_remounts_after_failed_scan :
    (ensureRootPathMounted (gRoots defaultConfig) "SYSTEM:".toList
        ⟨[], [], [], [true, true, true, false, true, true], []⟩).1 = 0 ∧
      ((ensureRootPathMounted (gRoots defaultConfig) "SYSTEM:".toList
        (ensureRootPathMounted (gRoots defaultConfig) "SYSTEM:".toList
          ⟨[], [], [], [true, true, true, false, true, true], []⟩).2).2.log.drop 3).any
        (·.call.isMount) := by
  decide

/-! ## Section 4: What the mount requests name -/

/-- `ensure_root_path_mounted("BOOT:")` takes the MTD branch although `BOOT:` has no
    mount point, and asks `mtd_mount_partition` to mount the partition at NULL with the
    filesystem `g_raw`; and when the primary SD card device fails to mount,
    `ensure_root_path_mounted("SDCARD:")` calls `mount(2)` on the default
    `SDCARD_DEVICE_SECONDARY`, the marker `g_mtd_device`. -/
theorem ensureRootPathMounted_requests_marker_mounts :
    ensureRootPathMounted (gRoots defaultConfig) "BOOT:".toList
        ⟨[], ["boot".toList], [], [true, true], []⟩ =
      (0, ⟨[], ["boot".toList], [], [],
        [⟨.mtdScanPartitions, [], true⟩,
         ⟨.mtdMountPartition "boot".toList none (some (.marker .gRaw)), [], true⟩]⟩) ∧
    ∃ e ∈ (ensureRootPathMounted (gRoots defaultConfig) "SDCARD:".toList
        ⟨[], [], [], [true, true, false, true], []⟩).2.log,
      e.call = .mount (.marker .gMtdDevice) (some "/sdcard".toList) (.lit "vfat".toList) := by
  decide

/-! ## Section 5: Asking whether a root is mounted -/

/-- `is_root_path_mounted("SYSTEM:")` with a volume mounted at `/system` and a failing
    mount-table scan returns 0, the answer for "not mounted", where the header promises a
    negative value on error. -/
theorem isRootPathMounted_hides_scan_error :
    isRootPathMounted (gRoots defaultConfig) "SYSTEM:".toList
        ⟨["/system".toList], [], [], [false], []⟩ =
      (0, ⟨["/system".toList], [], [], [],
        [⟨.scanMountedVolumes, ["/system".toList], false⟩]⟩) := by
  decide

/-! ## Section 6: Mounting, then unmounting -/

/-- A mount request adds its mount point when it reports success and changes nothing
    otherwise. -/
theorem invoke_mount_cases {c : Call} (hc : c.isMount = true) {mp : List Char}
    (hmp : c.mountTarget = some mp) (w : World) :
    (status (w.invoke c).1 = 0 ∧ (w.invoke c).2.mounts = w.mounts ++ [mp]) ∨
      (status (w.invoke c).1 = -1 ∧ (w.invoke c).2.mounts = w.mounts) := by
  cases hok : w.nextOk <;> simp [hok, Call.effect_of_isMount hc, hmp]

section Restore

variable {t : Table} {p : List Char} {i : Fin numRoots} (hi : getRootInfoForPath t p = some i)
  {mp : List Char} (hmp : (t i).mountPoint = some mp) (w : World)
include hi hmp

/-- `ensure_root_path_mounted` either leaves the mount table alone, or succeeds having
    mounted one volume at the root's mount point. -/
theorem ensureRootPathMounted_mounts :
    (ensureRootPathMounted t p w).2.mounts = w.mounts ∨
      ((ensureRootPathMounted t p w).1 = 0 ∧
        (ensureRootPathMounted t p w).2.mounts = w.mounts ++ [mp]) := by
  simp only [ensureRootPathMounted, hi, internalRootMounted_of_mountPoint hmp, hmp]
  -- a mount request made while the table is still `w.mounts` settles the call
  have key : ∀ (w' : World) (c : Call), c.isMount = true → c.mountTarget = some mp →
      w'.mounts = w.mounts →
      (w'.invoke c).2.mounts = w.mounts ∨
        (status (w'.invoke c).1 = 0 ∧ (w'.invoke c).2.mounts = w.mounts ++ [mp]) := by
    intro w' c hc hmp' hw'
    rcases invoke_mount_cases hc hmp' w' with ⟨h1, h2⟩ | ⟨-, h2⟩
    · exact .inr ⟨h1, by rw [h2, hw']⟩
    · exact .inl (h2.trans hw')
  have hw₀ : (w.invoke .scanMountedVolumes).2.mounts = w.mounts := by simp [Call.effect]
  by_cases hr : w.nextOk = true ∧ mp ∈ w.mounts
  · simp only [hr, and_self, if_true, le_refl]
    exact .inl hw₀
  have hneg : ¬ (0 : Int) ≤ -1 := by decide
  simp only [hr, hneg, if_false]
  split_ifs with hmtd
  · -- the MTD branch
    cases hpn : (t i).partitionName with
    | none => exact .inl hw₀
    | some name =>
      simp only [hpn]
      split_ifs
      · exact key _ _ rfl rfl (by simp [Call.effect])
      · exact .inl (by simp [Call.effect])
  · -- the generic branch
    cases hd : (t i).device with
    | none => exact .inl hw₀
    | some device =>
      cases hfs : (t i).filesystem with
      | none => exact .inl hw₀
      | some fs =>
        set w₁ := ((w.invoke .scanMountedVolumes).2.invoke (.mkdir mp)).2
        have hw₁ : w₁.mounts = w.mounts := by simp [w₁, Call.effect]
        set c := mountInternalCall device (some mp) fs (t i).filesystemOptions
        simp only [mountInternal_eq]
        have hk := key w₁ c (by simp [c]) (by simp [c]) hw₁
        split_ifs with hraw hmi
        · exact .inl hw₀
        · exact hk.imp_right fun h => ⟨rfl, h.2⟩
        · -- the first mount failed, so the table is as it was for the `device2` fallback
          have h := hk.resolve_right fun h => hmi h.1
          cases (t i).device2
          exacts [.inl h, key _ _ rfl rfl h]

/-- Mounting a root that was not mounted and then unmounting it, both successfully, gives
    back the mount table as it was: the `umount` removes the volume the mount added. -/
theorem ensureRootPathMounted_unmounted_restores (hnot : mp ∉ w.mounts)
    (h0 : (ensureRootPathMounted t p w).1 = 0)
    (h1 : (ensureRootPathUnmounted t p (ensureRootPathMounted t p w).2).1 = 0) :
    (ensureRootPathUnmounted t p (ensureRootPathMounted t p w).2).2.mounts = w.mounts := by
  set w₁ := (ensureRootPathMounted t p w).2
  have hm₁ : w₁.mounts = w.mounts ++ [mp] := by
    rcases ensureRootPathMounted_mounts hi hmp w with h | ⟨-, h⟩
    · exact absurd (h ▸ mem_of_ensureRootPathMounted hi hmp h0) hnot
    · exact h
  rw [ensureRootPathUnmounted_of_mountPoint hi hmp] at h1 ⊢
  have hmem : mp ∈ w₁.mounts := by simp [hm₁]
  cases hs : w₁.nextOk
  · simp [hs] at h1
  · simp only [hs, hmem, if_true, status_eq_zero] at h1 ⊢
    simp [h1, Call.effect, hm₁, unmountTop]

end Restore

theorem ensureRootPathMounted_unmounted_restores_data :
    let t := gRoots defaultConfig
    let p := "DATA:".toList
    let w : World := ⟨[], [], [], [true, true, true, true, true], []⟩
    getRootInfoForPath t p = some 1 ∧ (t 1).mountPoint = some "/data".toList ∧
      "/data".toList ∉ w.mounts ∧ (ensureRootPathMounted t p w).1 = 0 ∧
      (ensureRootPathUnmounted t p (ensureRootPathMounted t p w).2).1 = 0 ∧
      (ensureRootPathUnmounted t p (ensureRootPathMounted t p w).2).2.mounts = w.mounts :=
  ⟨by decide, rfl, by decide, by decide, by decide,
    ensureRootPathMounted_unmounted_restores (i := 1) (by decide) rfl _ (by decide) (by decide)
      (by decide)⟩

/-- `is_root_path_mounted` agrees with the two `ensure` functions: after
    `ensure_root_path_mounted` succeeds it reports the root mounted, unless its own scan
    fails; after `ensure_root_path_unmounted` succeeds on a root with at most one volume at
    its mount point it reports the root not mounted. -/
theorem isRootPathMounted_after_ensure (t : Table) (p : List Char) (w : World)
    (i : Fin numRoots) (hi : getRootInfoForPath t p = some i) (mp : List Char)
    (hmp : (t i).mountPoint = some mp) :
    ((ensureRootPathMounted t p w).1 = 0 → (ensureRootPathMounted t p w).2.nextOk = true →
      (isRootPathMounted t p (ensureRootPathMounted t p w).2).1 = 1) ∧
    ((ensureRootPathUnmounted t p w).1 = 0 → w.mounts.count mp ≤ 1 →
      (isRootPathMounted t p (ensureRootPathUnmounted t p w).2).1 = 0) := by
  refine ⟨fun h0 hs => ?_, fun h0 h1 => ?_⟩
  · have hm := mem_of_ensureRootPathMounted hi hmp h0
    simp [isRootPathMounted, hi, internalRootMounted_of_mountPoint hmp, hs, hm]
  · have hc := count_ensureRootPathUnmounted hi hmp w h0
    have hm : mp ∉ (ensureRootPathUnmounted t p w).2.mounts := fun h =>
      absurd (List.count_pos_iff.2 h) (by omega)
    simp [isRootPathMounted, hi, internalRootMounted_of_mountPoint hmp, hm]

theorem isRootPathMounted_after_ensure_system :
    let t := gRoots defaultConfig
    let p := "SYSTEM:".toList
    let w : World := ⟨[], [], [], [true, true, true, true], []⟩
    getRootInfoForPath t p = some 3 ∧ (t 3).mountPoint = some "/system".toList ∧
      (((ensureRootPathMounted t p w).1 = 0 → (ensureRootPathMounted t p w).2.nextOk = true →
        (isRootPathMounted t p (ensureRootPathMounted t p w).2).1 = 1) ∧
      ((ensureRootPathUnmounted t p w).1 = 0 → w.mounts.count "/system".toList ≤ 1 →
        (isRootPathMounted t p (ensureRootPathUnmounted t p w).2).1 = 0)) :=
  ⟨by decide, rfl, isRootPathMounted_after_ensure _ _ _ 3 (by decide) _ rfl⟩

/-! ## Section 7: When the primitives succeed -/

/-- `ensure_root_path_mounted` succeeds, with a volume at the root's mount point, on every
    root it can mount when its mount primitive succeeds: an MTD root whose partition the
    scan finds, or a root with a device and a filesystem other than the markers `g_raw` and
    `g_package_file`. What the scan of the mount table reports does not matter, nor does
    what the `mkdir` or `mtd_scan_partitions` before the mount reports. -/
theorem ensureRootPathMounted_succeeds (t : Table) (p : List Char) (w : World)
    (i : Fin numRoots) (hi : getRootInfoForPath t p = some i) (mp : List Char)
    (hmp : (t i).mountPoint = some mp) (scanned prepared : Bool) (rest : List Bool)
    (hout : w.outcomes = scanned :: prepared :: true :: rest)
    (hroot : ((t i).device = some (.marker .gMtdDevice) ∧
        ∃ name, (t i).partitionName = some name ∧ name ∈ w.mtdPartitions) ∨
      ((t i).device ≠ some (.marker .gMtdDevice) ∧ (t i).device ≠ none ∧
        ∃ fs, (t i).filesystem = some fs ∧ fs ≠ .marker .gRaw ∧
          fs ≠ .marker .gPackageFile)) :
    (ensureRootPathMounted t p w).1 = 0 ∧ mp ∈ (ensureRootPathMounted t p w).2.mounts := by
  suffices h0 : (ensureRootPathMounted t p w).1 = 0 from
    ⟨h0, mem_of_ensureRootPathMounted hi hmp h0⟩
  have hok : ∀ c c', ((w.invoke c).2.invoke c').2.nextOk = true := by
    simp [World.nextOk, hout]
  simp only [ensureRootPathMounted, hi, internalRootMounted_of_mountPoint hmp, hmp]
  by_cases hm : w.nextOk = true ∧ mp ∈ w.mounts
  · simp [hm]
  have hneg : ¬ (0 : Int) ≤ -1 := by decide
  simp only [hm, if_false, hneg]
  rcases hroot with ⟨hmtd, name, hpn, hname⟩ | ⟨hmtd, hd, fs, hfs, hraw, hpkg⟩
  · simp [hmtd, hpn, hname, hok]
  · obtain ⟨device, hd⟩ := Option.ne_none_iff_exists'.1 hd
    have hdev : device ≠ .marker .gMtdDevice := fun e => hmtd (hd.trans (congrArg some e))
    simp [hd, hdev, hfs, hraw, hpkg, mountInternal_eq, hok]

/-- The mount of `SYSTEM:` succeeds although the scan of the mount table and the `mkdir`
    before it fail. -/
theorem ensureRootPathMounted_succeeds_system :
    let t := gRoots defaultConfig
    let p := "SYSTEM:".toList
    let w : World := ⟨[], [], [], [false, false, true], []⟩
    getRootInfoForPath t p = some 3 ∧ (t 3).mountPoint = some "/system".toList ∧
      w.outcomes = false :: false :: true :: [] ∧
      (((t 3).device = some (.marker .gMtdDevice) ∧
          ∃ name, (t 3).partitionName = some name ∧ name ∈ w.mtdPartitions) ∨
        ((t 3).device ≠ some (.marker .gMtdDevice) ∧ (t 3).device ≠ none ∧
          ∃ fs, (t 3).filesystem = some fs ∧ fs ≠ .marker .gRaw ∧
            fs ≠ .marker .gPackageFile)) ∧
      ((ensureRootPathMounted t p w).1 = 0 ∧
        "/system".toList ∈ (ensureRootPathMounted t p w).2.mounts) := by
  intro t p w
  have hroot : ((t 3).device = some (.marker .gMtdDevice) ∧
        ∃ name, (t 3).partitionName = some name ∧ name ∈ w.mtdPartitions) ∨
      ((t 3).device ≠ some (.marker .gMtdDevice) ∧ (t 3).device ≠ none ∧
        ∃ fs, (t 3).filesystem = some fs ∧ fs ≠ .marker .gRaw ∧
          fs ≠ .marker .gPackageFile) :=
    .inr ⟨by decide, by decide, _, rfl, by decide, by decide⟩
  exact ⟨by decide, rfl, rfl, hroot,
    ensureRootPathMounted_succeeds t p w 3 (by decide) _ rfl false false [] rfl hroot⟩

end RecoveryRoots
