import RecoveryRoots.Mount

/-! # Filesystem types: overrides, getters and probing

    `set_type_internal_fs`, `get_type_internal_fs`, `get_mount_point_for_root`,
    `get_dev_for_root` and `detect_internal_fs`. The setter and the probe are the only
    writers of `g_roots`: both set an entry's filesystem and options to a row of
    `g_fs_options`. The probe first unmounts the root, then tries the rows in order with
    `mount_internal`; on the first success it records the row and unmounts again,
    ignoring that unmount's result. After the setter returns 0, the getters read the new
    filesystem back on every path of the written root.
-/

namespace RecoveryRoots

/-! ## Section 1: The model -/

/-- `set_type_internal_fs`: `none` when it writes through the NULL pointer that an
    unknown root resolves to. -/
def setTypeInternalFs (t : Table) (rootPath newFs : List Char) : Option Int × Table :=
  match getRootInfoForPath t rootPath, gFsOptions.find? (·.filesystem = newFs) with
  | _, none => (some (-1), t)
  | none, some _ => (none, t)
  | some i, some o => (some 0, Function.update t i ((t i).withFs o))

/-- `get_type_internal_fs`. -/
def getTypeInternalFs (t : Table) (rootPath : List Char) : Option Str :=
  match getRootInfoForPath t rootPath with
  | some i => if (t i).device = none then some (.lit "error".toList) else (t i).filesystem
  | none => some (.lit "error".toList)

/-- `get_mount_point_for_root`. -/
def getMountPointForRoot (t : Table) (rootPath : List Char) : Option (List Char) :=
  match getRootInfoForPath t rootPath with
  | some i => if (t i).device = none then none else (t i).mountPoint
  | none => none

/-- `get_dev_for_root`. -/
def getDevForRoot (t : Table) (rootPath : List Char) : Option Str :=
  match getRootInfoForPath t rootPath with
  | some i => (t i).device
  | none => none

/-- The loop of `detect_internal_fs` over the rows of `g_fs_options` left to try. -/
def tryFilesystems (t : Table) (rootPath : List Char) (i : Fin numRoots) (device : Str) :
    List FilesystemOptions → World → Int × Table × World
  | [], w => (-1, t, w)
  | o :: os, w =>
    let (ret, w) := mountInternal device (t i).mountPoint (.lit o.filesystem)
      (some o.filesystemOptions) w
    if ret = 0 then
      let t := Function.update t i ((t i).withFs o)
      let (_, w) := ensureRootPathUnmounted t rootPath w
      (0, t, w)
    else tryFilesystems t rootPath i device os w

/-- `detect_internal_fs`. -/
def detectInternalFs (t : Table) (rootPath : List Char) (w : World) : Int × Table × World :=
  match getRootInfoForPath t rootPath with
  | none => (-1, t, w)
  | some i =>
    match (t i).device with
    | none => (-1, t, w)
    | some device =>
      let (ret, w) := ensureRootPathUnmounted t rootPath w
      if ret < 0 then (ret, t, w) else tryFilesystems t rootPath i device gFsOptions w

/-- The setter writes only the entry its root path resolves to, a row of `g_fs_options`,
    and then returns 0. -/
theorem setTypeInternalFs_cases (t : Table) (p fs : List Char) :
    (setTypeInternalFs t p fs).2 = t ∨
      ((setTypeInternalFs t p fs).1 = some 0 ∧ ∃ i o, getRootInfoForPath t p = some i ∧
        o ∈ gFsOptions ∧
        (setTypeInternalFs t p fs).2 = Function.update t i ((t i).withFs o)) := by
  unfold setTypeInternalFs
  split
  · exact .inl rfl
  · exact .inl rfl
  · rename_i i o hi ho
    exact .inr ⟨rfl, i, o, hi, List.mem_of_find?_eq_some ho, rfl⟩

/-! ## Section 2: The probe loop -/

/-- An entry for a mount request that failed, or for another call. -/
def Entry.failedIfMount (e : Entry) : Prop := e.call.isMount = true → e.ok = false

/-- The loop either finds nothing, leaving the table and the mount table as they were
    and every trial mount failed, or records a row after a trial mount that succeeded
    and ends with `ensure_root_path_unmounted`. -/
theorem tryFilesystems_cases (t : Table) (p : List Char) (i : Fin numRoots) (device : Str)
    (os : List FilesystemOptions) (w : World) :
    ((tryFilesystems t p i device os w).1 = -1 ∧ (tryFilesystems t p i device os w).2.1 = t ∧
      (tryFilesystems t p i device os w).2.2.mounts = w.mounts ∧
      w.LogsOnly Entry.failedIfMount (tryFilesystems t p i device os w).2.2) ∨
    ((tryFilesystems t p i device os w).1 = 0 ∧ ∃ o ∈ os,
      (tryFilesystems t p i device os w).2.1 = Function.update t i ((t i).withFs o) ∧
      ∃ w₂, w₂.mounts = w.mounts ++ (t i).mountPoint.toList ∧
        (tryFilesystems t p i device os w).2.2 =
          (ensureRootPathUnmounted (Function.update t i ((t i).withFs o)) p w₂).2) := by
  induction os generalizing w with
  | nil => exact .inl ⟨rfl, rfl, rfl, .refl _ _⟩
  | cons o os ih =>
    simp only [tryFilesystems, mountInternal_eq, status_eq_zero]
    set c := mountInternalCall device (t i).mountPoint (.lit o.filesystem)
      (some o.filesystemOptions)
    cases hok : w.nextOk
    · -- this row's trial mount failed: the loop goes on from the world it left
      have hm : (w.invoke c).2.mounts = w.mounts := by simp [hok]
      have hl : w.LogsOnly Entry.failedIfMount (w.invoke c).2 :=
        .invoke _ _ fun _ => hok
      simp only [Bool.false_eq_true, if_false]
      rcases ih (w.invoke c).2 with ⟨h1, h2, h3, h4⟩ | ⟨h1, o', ho', h2, w₂, h3, h4⟩
      · exact .inl ⟨h1, h2, h3.trans hm, hl.trans h4⟩
      · exact .inr ⟨h1, o', List.mem_cons_of_mem _ ho', h2, w₂, by rw [h3, hm], h4⟩
    · exact .inr ⟨rfl, o, List.mem_cons_self _ _, rfl, (w.invoke c).2,
        by simp [hok, Call.effect_of_isMount, c], rfl⟩

/-! ## Section 3: Probing a root -/

/-- The entries of `g_roots` a probe can write: it records a row of `g_fs_options` in
    the entry its root path resolves to, and only when it returns 0. -/
theorem detectInternalFs_table (t : Table) (p : List Char) (w : World) :
    (detectInternalFs t p w).2.1 = t ∨
      ((detectInternalFs t p w).1 = 0 ∧ ∃ i o, getRootInfoForPath t p = some i ∧
        o ∈ gFsOptions ∧ (detectInternalFs t p w).2.1 = Function.update t i ((t i).withFs o)) := by
  simp only [detectInternalFs]
  split
  · exact .inl rfl
  rename_i i hi
  split
  · exact .inl rfl
  split_ifs
  · exact .inl rfl
  rcases tryFilesystems_cases t p i _ gFsOptions _ with ⟨-, h, -⟩ | ⟨h1, o, ho, h, -⟩
  · exact .inl h
  · exact .inr ⟨h1, i, o, hi, ho, h⟩

section Probe

variable {t : Table} {p : List Char} {i : Fin numRoots} (hi : getRootInfoForPath t p = some i)
  {mp : List Char} (hmp : (t i).mountPoint = some mp) (w : World)
include hi hmp

/-- A probe of a root with a mount point either fails, with every trial mount failed and
    no more volumes at the mount point than before, or succeeds after recording a row of
    `g_fs_options` in the root's entry: its initial unmount left one volume fewer at the
    mount point, a trial mount added one, and it ends with `ensure_root_path_unmounted` on
    the updated table. -/
theorem detectInternalFs_cases :
    ((detectInternalFs t p w).1 ≠ 0 ∧
      w.LogsOnly Entry.failedIfMount (detectInternalFs t p w).2.2 ∧
      (detectInternalFs t p w).2.2.mounts.count mp ≤ w.mounts.count mp) ∨
    ((detectInternalFs t p w).1 = 0 ∧ ∃ o ∈ gFsOptions, ∃ w₂ : World,
      (detectInternalFs t p w).2.1 = Function.update t i ((t i).withFs o) ∧
      w₂.mounts.count mp = w.mounts.count mp - 1 + 1 ∧
      (detectInternalFs t p w).2.2 =
        (ensureRootPathUnmounted (detectInternalFs t p w).2.1 p w₂).2) := by
  simp only [detectInternalFs, hi]
  split
  · exact .inl ⟨by simp, .refl _ _, le_rfl⟩
  rename_i device hd
  have hq := ensureRootPathUnmounted_logsOnly t p w
  have hq' : w.LogsOnly Entry.failedIfMount (ensureRootPathUnmounted t p w).2 :=
    hq.mono fun e he h => absurd h (by simp [he.1])
  split_ifs with hlt
  · have hm := ensureRootPathUnmounted_mounts_of_ne hi hmp w (by omega)
    exact .inl ⟨by omega, hq', by rw [hm]⟩
  have h0 : (ensureRootPathUnmounted t p w).1 = 0 := by
    rcases ensureRootPathUnmounted_fst t p w with h | h <;> omega
  have hc := count_ensureRootPathUnmounted hi hmp w h0
  rcases tryFilesystems_cases t p i device gFsOptions (ensureRootPathUnmounted t p w).2 with
    ⟨h1, -, h3, h4⟩ | ⟨h1, o, ho, h2, w₂, h3, h4⟩
  · exact .inl ⟨by omega, hq'.trans h4, by rw [h3, hc]; omega⟩
  · refine .inr ⟨h1, o, ho, w₂, h2, ?_, h2 ▸ h4⟩
    rw [h3, hmp, ← hc]
    simp

end Probe

/-- `detect_internal_fs` on a root with a mount point: when it fails, every trial mount
    it made failed and no more volumes are mounted there than before. When it succeeds, it
    has recorded a row of `g_fs_options` in the root's entry and its last step is
    `ensure_root_path_unmounted` on the updated table, run with one volume more at the mount
    point than its initial unmount left; when that last call returns 0, one volume fewer is
    mounted there than before the probe, so none is if at most one was. -/
theorem detectInternalFs_unmounts_probe (t : Table) (p : List Char) (w : World)
    (i : Fin numRoots) (hi : getRootInfoForPath t p = some i) (mp : List Char)
    (hmp : (t i).mountPoint = some mp) :
    ((detectInternalFs t p w).1 ≠ 0 →
      (∀ e ∈ (detectInternalFs t p w).2.2.log.drop w.log.length,
        e.call.isMount = true → e.ok = false) ∧
      (detectInternalFs t p w).2.2.mounts.count mp ≤ w.mounts.count mp) ∧
    ((detectInternalFs t p w).1 = 0 → ∃ o ∈ gFsOptions, ∃ w₂ : World,
      (detectInternalFs t p w).2.1 = Function.update t i ((t i).withFs o) ∧
      w₂.mounts.count mp = w.mounts.count mp - 1 + 1 ∧
      (detectInternalFs t p w).2.2 =
        (ensureRootPathUnmounted (detectInternalFs t p w).2.1 p w₂).2 ∧
      ((ensureRootPathUnmounted (detectInternalFs t p w).2.1 p w₂).1 = 0 →
        (detectInternalFs t p w).2.2.mounts.count mp = w.mounts.count mp - 1 ∧
        (w.mounts.count mp ≤ 1 → mp ∉ (detectInternalFs t p w).2.2.mounts))) := by
  rcases detectInternalFs_cases hi hmp w with ⟨hne, hl, hc⟩ | ⟨h0, o, ho, w₂, ht, hc, hw⟩
  · exact ⟨fun _ => ⟨hl.forall_drop, hc⟩, fun h => absurd h hne⟩
  refine ⟨fun h => absurd h0 h, fun _ => ⟨o, ho, w₂, ht, hc, hw, fun hu => ?_⟩⟩
  rw [ht] at hu hw
  have hmp' : (Function.update t i ((t i).withFs o) i).mountPoint = some mp := by simp [hmp]
  have hc' := count_ensureRootPathUnmounted
    ((getRootInfoForPath_update_withFs t i o p).trans hi) hmp' w₂ hu
  rw [hw]
  exact ⟨by omega, fun h1 => List.count_eq_zero.1 (by omega)⟩

theorem detectInternalFs_unmounts_probe_data :
    let t := gRoots defaultConfig
    let p := "DATA:".toList
    let w : World := ⟨[], [], [], [true, true, true, true], []⟩
    getRootInfoForPath t p = some 1 ∧ (t 1).mountPoint = some "/data".toList ∧
      (((detectInternalFs t p w).1 ≠ 0 →
        (∀ e ∈ (detectInternalFs t p w).2.2.log.drop w.log.length,
          e.call.isMount = true → e.ok = false) ∧
        (detectInternalFs t p w).2.2.mounts.count "/data".toList ≤
          w.mounts.count "/data".toList) ∧
      ((detectInternalFs t p w).1 = 0 → ∃ o ∈ gFsOptions, ∃ w₂ : World,
        (detectInternalFs t p w).2.1 = Function.update t 1 ((t 1).withFs o) ∧
        w₂.mounts.count "/data".toList = w.mounts.count "/data".toList - 1 + 1 ∧
        (detectInternalFs t p w).2.2 =
          (ensureRootPathUnmounted (detectInternalFs t p w).2.1 p w₂).2 ∧
        ((ensureRootPathUnmounted (detectInternalFs t p w).2.1 p w₂).1 = 0 →
          (detectInternalFs t p w).2.2.mounts.count "/data".toList =
            w.mounts.count "/data".toList - 1 ∧
          (w.mounts.count "/data".toList ≤ 1 →
            "/data".toList ∉ (detectInternalFs t p w).2.2.mounts)))) :=
  ⟨by decide, rfl, detectInternalFs_unmounts_probe _ _ _ 1 (by decide) _ rfl⟩

/-- The unmount after the successful trial mount of `DATA:` fails: the probe still
    returns 0, and the volume its trial mount made stays mounted at `/data`. -/
theorem detectInternalFs_leaves_trial_mount :
    (detectInternalFs (gRoots defaultConfig) "DATA:".toList
        ⟨[], [], [], [true, true, true, false], []⟩).1 = 0 ∧
      "/data".toList ∈ (detectInternalFs (gRoots defaultConfig) "DATA:".toList
        ⟨[], [], [], [true, true, true, false], []⟩).2.2.mounts := by
  decide

/-! ## Section 4: Overrides -/

/-- `set_type_internal_fs("NOROOT:", "ext4")`: the path resolves to no entry while
    `"ext4"` is a row of `g_fs_options`, so the function writes that row through the NULL
    `RootInfo` instead of returning -1. -/
theorem setTypeInternalFs_writes_through_null :
    getRootInfoForPath (gRoots defaultConfig) "NOROOT:".toList = none ∧
      (setTypeInternalFs (gRoots defaultConfig) "NOROOT:".toList "ext4".toList).1 = none := by
  decide

/-- Reading back an override: after `set_type_internal_fs` returns 0,
    `get_type_internal_fs` gives the new filesystem on every path that resolves to the
    written root, when that root has a device, and what it gave before on every other
    path; the mount point and device getters give what they gave before on every path. -/
theorem setTypeInternalFs_getters (t : Table) (p fs : List Char)
    (h0 : (setTypeInternalFs t p fs).1 = some 0) (q : List Char) :
    getTypeInternalFs (setTypeInternalFs t p fs).2 q =
      (if getRootInfoForPath t q = getRootInfoForPath t p ∧ getDevForRoot t q ≠ none
        then some (.lit fs) else getTypeInternalFs t q) ∧
    getMountPointForRoot (setTypeInternalFs t p fs).2 q = getMountPointForRoot t q ∧
    getDevForRoot (setTypeInternalFs t p fs).2 q = getDevForRoot t q := by
  unfold setTypeInternalFs at h0 ⊢
  cases hi : getRootInfoForPath t p <;> cases hf : gFsOptions.find? (·.filesystem = fs) <;>
    simp only [hi, hf, reduceCtorEq, Option.some.injEq] at h0 ⊢
  case some.some i o =>
  have hfs : o.filesystem = fs := by simpa using List.find?_some hf
  simp only [getTypeInternalFs, getMountPointForRoot, getDevForRoot,
    getRootInfoForPath_update_withFs]
  cases hq : getRootInfoForPath t q with
  | none => simp
  | some j =>
    by_cases hj : j = i
    · subst hj
      by_cases hd : (t j).device = none <;> simp [RootInfo.withFs, hfs, hd]
    · simp [Function.update_noteq hj, hj]

theorem setTypeInternalFs_getters_data :
    let t := gRoots defaultConfig
    let p := "DATA:".toList
    let fs := "ext4".toList
    (setTypeInternalFs t p fs).1 = some 0 ∧
    getTypeInternalFs (setTypeInternalFs t p fs).2 p =
      (if getRootInfoForPath t p = getRootInfoForPath t p ∧ getDevForRoot t p ≠ none
        then some (.lit fs) else getTypeInternalFs t p) ∧
    getMountPointForRoot (setTypeInternalFs t p fs).2 p = getMountPointForRoot t p ∧
    getDevForRoot (setTypeInternalFs t p fs).2 p = getDevForRoot t p :=
  ⟨by decide, setTypeInternalFs_getters _ _ _ (by decide) _⟩

/-! ## Section 5: The order of the trials -/

/-- The log entry of a trial mount of row `o`, made on `device` at `mountPoint` while the
    mount table was `mounts`. -/
def trialEntry (device : Str) (mountPoint : Option (List Char)) (mounts : List (List Char))
    (ok : Bool) (o : FilesystemOptions) : Entry :=
  ⟨mountInternalCall device mountPoint (.lit o.filesystem) (some o.filesystemOptions), mounts,
    ok⟩

/-- The loop makes one trial mount per row, in order, and stops at the first that
    succeeds: it either logs a failed trial of every row and changes nothing else, or logs
    failed trials of the rows before some row, a successful one of that row, records it,
    and unmounts. -/
theorem tryFilesystems_trials (t : Table) (p : List Char) (i : Fin numRoots) (device : Str)
    (os : List FilesystemOptions) (w : World) :
    ((tryFilesystems t p i device os w).1 = -1 ∧ (tryFilesystems t p i device os w).2.1 = t ∧
      (tryFilesystems t p i device os w).2.2.mounts = w.mounts ∧
      (tryFilesystems t p i device os w).2.2.log =
        w.log ++ os.map (trialEntry device (t i).mountPoint w.mounts false)) ∨
    ((tryFilesystems t p i device os w).1 = 0 ∧ ∃ pre o post, os = pre ++ o :: post ∧
      (tryFilesystems t p i device os w).2.1 = Function.update t i ((t i).withFs o) ∧
      ∃ w₂ : World, w₂.mounts = w.mounts ++ (t i).mountPoint.toList ∧
        w₂.log = w.log ++ pre.map (trialEntry device (t i).mountPoint w.mounts false) ++
          [trialEntry device (t i).mountPoint w.mounts true o] ∧
        (tryFilesystems t p i device os w).2.2 =
          (ensureRootPathUnmounted (Function.update t i ((t i).withFs o)) p w₂).2) := by
  induction os generalizing w with
  | nil => exact .inl ⟨rfl, rfl, rfl, by simp [tryFilesystems]⟩
  | cons o os ih =>
    simp only [tryFilesystems, mountInternal_eq, status_eq_zero]
    set c := mountInternalCall device (t i).mountPoint (.lit o.filesystem)
      (some o.filesystemOptions)
    have hl : (w.invoke c).2.log =
        w.log ++ [trialEntry device (t i).mountPoint w.mounts w.nextOk o] := rfl
    cases hok : w.nextOk
    · -- this row's trial mount failed: the loop goes on from the world it left
      have hm : (w.invoke c).2.mounts = w.mounts := by simp [hok]
      simp only [Bool.false_eq_true, if_false]
      rw [hok] at hl
      rcases ih (w.invoke c).2 with
        ⟨h1, h2, h3, h4⟩ | ⟨h1, pre, o', post, hos, h2, w₂, h3, h4, h5⟩
      · exact .inl ⟨h1, h2, h3.trans hm, by rw [h4, hl, hm]; simp⟩
      · exact .inr ⟨h1, o :: pre, o', post, by rw [hos]; rfl, h2, w₂, by rw [h3, hm],
          by rw [h4, hl, hm]; simp, h5⟩
    · rw [hok] at hl
      exact .inr ⟨rfl, [], o, os, rfl, rfl, (w.invoke c).2,
        by simp [hok, Call.effect_of_isMount, c], by rw [hl, List.map_nil, List.append_nil], rfl⟩

/-- `detect_internal_fs` records the first row of `g_fs_options` whose trial mount
    succeeds: when it returns 0, the root resolved to an entry with a device, its first
    unmount returned 0, and after it each row before the recorded one was tried once and
    failed, the recorded row mounted, and a last unmount ran on the updated table. So
    `"rfs"`, the first row, is recorded whenever its trial mount succeeds. -/
theorem detectInternalFs_records_first_mounting_row (t : Table) (p : List Char) (w : World)
    (h0 : (detectInternalFs t p w).1 = 0) :
    let w₁ := (ensureRootPathUnmounted t p w).2
    ∃ i device pre o post, getRootInfoForPath t p = some i ∧ (t i).device = some device ∧
      (ensureRootPathUnmounted t p w).1 = 0 ∧ gFsOptions = pre ++ o :: post ∧
      (detectInternalFs t p w).2.1 = Function.update t i ((t i).withFs o) ∧
      ∃ w₂ : World, w₂.mounts = w₁.mounts ++ (t i).mountPoint.toList ∧
        w₂.log = w₁.log ++ pre.map (trialEntry device (t i).mountPoint w₁.mounts false) ++
          [trialEntry device (t i).mountPoint w₁.mounts true o] ∧
        (detectInternalFs t p w).2.2 =
          (ensureRootPathUnmounted (Function.update t i ((t i).withFs o)) p w₂).2 := by
  cases hi : getRootInfoForPath t p with
  | none => simp [detectInternalFs, hi] at h0
  | some i =>
    cases hd : (t i).device with
    | none => simp [detectInternalFs, hi, hd] at h0
    | some device =>
      simp only [detectInternalFs, hi, hd] at h0 ⊢
      split_ifs at h0 ⊢ with hlt
      · exact absurd (h0 ▸ hlt) (lt_irrefl 0)
      have h0' : (ensureRootPathUnmounted t p w).1 = 0 :=
        (ensureRootPathUnmounted_fst t p w).resolve_right fun h => hlt (by rw [h]; decide)
      rcases tryFilesystems_trials t p i device gFsOptions (ensureRootPathUnmounted t p w).2 with
        ⟨h1, -⟩ | ⟨-, pre, o, post, hos, h2, w₂, h3, h4, h5⟩
      · exact absurd (h0.symm.trans h1) (by decide)
      · exact ⟨i, device, pre, o, post, rfl, hd, h0', hos, h2, w₂, h3, h4, h5⟩

theorem detectInternalFs_records_first_mounting_row_data :
    let t := gRoots defaultConfig
    let p := "DATA:".toList
    let w : World := ⟨[], [], [], [true, false, true, true, true], []⟩
    let w₁ := (ensureRootPathUnmounted t p w).2
    (detectInternalFs t p w).1 = 0 ∧
    ∃ i device pre o post, getRootInfoForPath t p = some i ∧ (t i).device = some device ∧
      (ensureRootPathUnmounted t p w).1 = 0 ∧ gFsOptions = pre ++ o :: post ∧
      (detectInternalFs t p w).2.1 = Function.update t i ((t i).withFs o) ∧
      ∃ w₂ : World, w₂.mounts = w₁.mounts ++ (t i).mountPoint.toList ∧
        w₂.log = w₁.log ++ pre.map (trialEntry device (t i).mountPoint w₁.mounts false) ++
          [trialEntry device (t i).mountPoint w₁.mounts true o] ∧
        (detectInternalFs t p w).2.2 =
          (ensureRootPathUnmounted (Function.update t i ((t i).withFs o)) p w₂).2 :=
  ⟨by decide, detectInternalFs_records_first_mounting_row _ _ _ (by decide)⟩

end RecoveryRoots
