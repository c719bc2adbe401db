import RecoveryRoots.Table

/-! # The world outside the module

    `roots.c` orchestrates calls into collaborators it does not implement: the mount-table
    scanner of `mtdutils/mounts.c`, `mount(2)`, `__system` (which runs the external
    `mount`, `stl.format` and `mke2fs` commands), the MTD and MMC partition utilities and
    `format_non_mtd_device`. A `World` holds what the module can observe of them: the
    kernel's mount table, the partitions the scans find, and the results the fallible calls
    report. The results are fixed in advance as a list consumed in call order, so a
    statement over every list is a statement over every outcome of the primitives; a call
    made when the list is exhausted reports failure.

    Every call is appended to a log together with the mount table at the moment it was
    made and the result it reported: properties of a run speak about which primitives were
    invoked, with which arguments, and when. A mount that reports success adds one volume
    at its mount point; an `umount` that reports success removes the topmost volume
    mounted there. The mount table lists volumes by mount point, oldest first, as
    `/proc/mounts` does, and several volumes may share one mount point.
-/

namespace RecoveryRoots

/-! ## Section 1: Calls -/

/-- A command line that `roots.c` builds with `sprintf`/`strcat` and hands to `__system`. -/
inductive Command where
  /-- `mount -t <filesystem> -o<options> <device> <mount point>`, from `mount_internal`. -/
  | mount (filesystem : Str) (options : List Char) (device : Str)
      (mountPoint : Option (List Char))
  /-- `stl.format <device>`. -/
  | stlFormat (device : Str)
  /-- `/sbin/mke2fs -T <filesystem> -F -j -q -m 0 -b 4096 <features> <device>`. -/
  | mke2fs (filesystem : Str) (features : List Char) (device : Str)
  deriving DecidableEq, Repr

/-- What `%s` prints for a pointer that may be NULL. -/
def printed : Option (List Char) → List Char
  | some s => s
  | none => "(null)".toList

/-- The command line as `sprintf` lays it out. -/
def Command.render : Command → List Char
  | .mount fs opts dev mp =>
    "mount -t ".toList ++ fs.chars ++ " -o".toList ++ opts ++ " ".toList ++ dev.chars ++
      " ".toList ++ printed mp
  | .stlFormat dev => "stl.format ".toList ++ dev.chars
  | .mke2fs fs features dev =>
    "/sbin/mke2fs -T ".toList ++ fs.chars ++ " -F -j -q -m 0 -b 4096 ".toList ++ features ++
      " ".toList ++ dev.chars

/-- `PATH_MAX` of the Linux headers: the size of `mount_internal`'s `mount_cmd`. -/
def pathMax : Nat := 4096

/-- The size of the array `roots.c` builds a command line in: `mount_cmd[PATH_MAX]`,
    `stl_format[32]`, `ext_format[96]`. -/
def Command.bufferSize : Command → Nat
  | .mount .. => pathMax
  | .stlFormat _ => 32
  | .mke2fs .. => 96

/-- The command line and its terminator fit in its array. -/
def Command.Fits (c : Command) : Prop := c.render.length + 1 ≤ c.bufferSize

instance : DecidablePred Command.Fits := fun c =>
  inferInstanceAs (Decidable (c.render.length + 1 ≤ c.bufferSize))

/-- A call `roots.c` makes into a collaborator. -/
inductive Call where
  | scanMountedVolumes
  | unmountMountedVolume (mountPoint : List Char)
  | mkdir (path : List Char)
  /-- `mount(2)`. -/
  | mount (device : Str) (mountPoint : Option (List Char)) (filesystem : Str)
  | system (cmd : Command)
  | mtdScanPartitions
  | mtdMountPartition (partition : List Char) (mountPoint : Option (List Char))
      (filesystem : Option Str)
  | mtdWritePartition (partition : List Char)
  | mtdEraseBlocks (partition : List Char)
  | mtdWriteClose (partition : List Char)
  | mmcScanPartitions
  | mmcFormatExt3 (partition : List Char)
  | formatNonMtdDevice (root : List Char)
  deriving DecidableEq, Repr

/-- The mount point a call mounts a volume at, if it is a mount request. -/
def Call.mountTarget : Call → Option (List Char)
  | .mount _ mp _ => mp
  | .system (.mount _ _ _ mp) => mp
  | .mtdMountPartition _ mp _ => mp
  | _ => none

/-- The mount requests: `mount(2)`, the external `mount` command, `mtd_mount_partition`. -/
def Call.isMount : Call → Bool
  | .mount .. | .system (.mount ..) | .mtdMountPartition .. => true
  | _ => false

/-- The formatting primitives: the MTD erase, `mmc_format_ext3`, the `stl.format` and
    `mke2fs` commands, and `format_non_mtd_device`. -/
def Call.isFormat : Call → Bool
  | .mtdEraseBlocks _ | .mmcFormatExt3 _ | .system (.stlFormat _) | .system (.mke2fs ..)
  | .formatNonMtdDevice _ => true
  | _ => false

/-- The calls that leave the mount table alone: all but mount requests and unmounts. -/
def Call.keepsMounts : Call → Bool
  | .unmountMountedVolume _ => false
  | c => !c.isMount

/-- Removes the topmost volume mounted at `mp`, as `umount (mp)` does. -/
def unmountTop (mp : List Char) (ms : List (List Char)) : List (List Char) :=
  (ms.reverse.erase mp).reverse

theorem count_unmountTop (mp : List Char) (ms : List (List Char)) :
    (unmountTop mp ms).count mp = ms.count mp - 1 := by
  simp [unmountTop, List.count_erase_self]

/-- How a call that reported `ok` changes the mount table. -/
def Call.effect (c : Call) (ok : Bool) (ms : List (List Char)) : List (List Char) :=
  if ok then
    match c with
    | .unmountMountedVolume mp => unmountTop mp ms
    | .mount _ (some mp) _ => ms ++ [mp]
    | .system (.mount _ _ _ (some mp)) => ms ++ [mp]
    | .mtdMountPartition _ (some mp) _ => ms ++ [mp]
    | _ => ms
  else ms

@[simp] theorem Call.effect_false (c : Call) (ms : List (List Char)) :
    c.effect false ms = ms := rfl

theorem Call.effect_of_keepsMounts {c : Call} (hc : c.keepsMounts = true) (ok : Bool)
    (ms : List (List Char)) : c.effect ok ms = ms := by
  cases ok
  · rfl
  · rcases c with _ | _ | _ | ⟨_, _ | _, _⟩ | ⟨⟨_, _, _, _ | _⟩ | _ | _⟩ | _ | ⟨_, _ | _, _⟩ <;>
      simp_all [Call.effect, Call.keepsMounts, Call.isMount]

/-- A mount request that reports success adds its mount point, if it has one. -/
theorem Call.effect_of_isMount {c : Call} (hc : c.isMount = true) (ok : Bool)
    (ms : List (List Char)) : c.effect ok ms = if ok then ms ++ c.mountTarget.toList else ms := by
  cases ok
  · rfl
  · rcases c with _ | _ | _ | ⟨_, _ | _, _⟩ | ⟨⟨_, _, _, _ | _⟩ | _ | _⟩ | _ | ⟨_, _ | _, _⟩ <;>
      simp_all [Call.effect, Call.isMount, Call.mountTarget]

/-! ## Section 2: The world -/

/-- One logged call. -/
structure Entry where
  call : Call
  /-- The kernel's mount table when the call was made. -/
  mounts : List (List Char)
  /-- Whether the call reported success. -/
  ok : Bool
  deriving DecidableEq, Repr

structure World where
  /-- The kernel's mount table: one mount point per volume, oldest first. -/
  mounts : List (List Char)
  /-- The MTD partitions `mtd_scan_partitions` finds, by name. -/
  mtdPartitions : List (List Char)
  /-- The MMC partitions `mmc_scan_partitions` finds, by name. -/
  mmcPartitions : List (List Char)
  /-- The results the next fallible calls report, in order. -/
  outcomes : List Bool
  /-- The calls made so far, oldest first. -/
  log : List Entry
  deriving DecidableEq, Repr

/-- The result the next fallible call reports. -/
def World.nextOk (w : World) : Bool := w.outcomes.headD false

/-- Makes a call: it reports the next result, changes the mount table accordingly and
    is logged. -/
def World.invoke (c : Call) (w : World) : Bool × World :=
  (w.nextOk, { w with outcomes := w.outcomes.tail, mounts := c.effect w.nextOk w.mounts,
                      log := w.log ++ [⟨c, w.mounts, w.nextOk⟩] })

/-- The `int` a primitive returns: 0 on success, -1 on failure. -/
def status (ok : Bool) : Int := if ok then 0 else -1

@[simp] theorem status_true : status true = 0 := rfl
@[simp] theorem status_false : status false = -1 := rfl

@[simp] theorem status_eq_zero {ok : Bool} : status ok = 0 ↔ ok = true := by
  cases ok <;> simp

section Invoke

variable (c : Call) (w : World)

@[simp] theorem invoke_fst : (w.invoke c).1 = w.nextOk := rfl

@[simp] theorem invoke_mounts :
    (w.invoke c).2.mounts = c.effect w.nextOk w.mounts := rfl

@[simp] theorem invoke_log :
    (w.invoke c).2.log = w.log ++ [⟨c, w.mounts, w.nextOk⟩] := rfl

@[simp] theorem invoke_outcomes : (w.invoke c).2.outcomes = w.outcomes.tail := rfl

@[simp] theorem invoke_mtdPartitions : (w.invoke c).2.mtdPartitions = w.mtdPartitions := rfl

@[simp] theorem invoke_mmcPartitions : (w.invoke c).2.mmcPartitions = w.mmcPartitions := rfl

/-- A mount request that reports success leaves a volume at its mount point. -/
theorem mem_invoke_mounts {mp : List Char} (hc : c.mountTarget = some mp)
    (hok : w.nextOk = true) : mp ∈ (w.invoke c).2.mounts := by
  cases c <;> simp_all [Call.mountTarget, Call.effect]
  case system cmd => cases cmd <;> simp_all [Call.mountTarget]

end Invoke

/-! ## Section 3: Logs of runs -/

/-- `w'` is `w` after calls whose log entries all satisfy `P`. -/
def World.LogsOnly (P : Entry → Prop) (w w' : World) : Prop :=
  ∃ new, w'.log = w.log ++ new ∧ ∀ e ∈ new, P e

namespace World.LogsOnly

variable {P : Entry → Prop} {w w₁ w₂ : World}

theorem refl (P : Entry → Prop) (w : World) : w.LogsOnly P w := ⟨[], by simp, by simp⟩

theorem trans (h₁ : w.LogsOnly P w₁) (h₂ : w₁.LogsOnly P w₂) : w.LogsOnly P w₂ := by
  obtain ⟨n₁, h₁, p₁⟩ := h₁
  obtain ⟨n₂, h₂, p₂⟩ := h₂
  exact ⟨n₁ ++ n₂, by simp [h₁, h₂], fun e he => (List.mem_append.1 he).elim (p₁ e) (p₂ e)⟩

theorem invoke (c : Call) (w : World) (h : P ⟨c, w.mounts, w.nextOk⟩) :
    w.LogsOnly P (w.invoke c).2 :=
  ⟨_, invoke_log c w, by simpa using h⟩

theorem mono {Q : Entry → Prop} (h : w.LogsOnly P w₁) (hPQ : ∀ e, P e → Q e) :
    w.LogsOnly Q w₁ :=
  h.imp fun _ hn => ⟨hn.1, fun e he => hPQ e (hn.2 e he)⟩

/-- The entries a run added all satisfy `P`. -/
theorem forall_drop (h : w.LogsOnly P w₁) : ∀ e ∈ w₁.log.drop w.log.length, P e := by
  obtain ⟨n, h, p⟩ := h
  simpa [h] using p

end World.LogsOnly

/-- `w'` is `w` after a sequence of calls whose log entries all satisfy `P`, and of draws
    of results that make no call and leave the mount table and the log alone (an
    allocation). Unlike `World.LogsOnly`, this keeps how each call changed the world. -/
def World.Runs (P : Entry → Prop) : World → World → Prop :=
  Relation.ReflTransGen fun w w' =>
    (∃ c, P ⟨c, w.mounts, w.nextOk⟩ ∧ w' = (w.invoke c).2) ∨
      (w'.mounts = w.mounts ∧ w'.log = w.log)

namespace World.Runs

variable {P : Entry → Prop} {w w₁ w₂ : World}

theorem refl (P : Entry → Prop) (w : World) : w.Runs P w := Relation.ReflTransGen.refl

theorem trans (h₁ : w.Runs P w₁) (h₂ : w₁.Runs P w₂) : w.Runs P w₂ :=
  Relation.ReflTransGen.trans h₁ h₂

theorem invoke (c : Call) (w : World) (h : P ⟨c, w.mounts, w.nextOk⟩) :
    w.Runs P (w.invoke c).2 :=
  .single (.inl ⟨c, h, rfl⟩)

theorem silent (hm : w₁.mounts = w.mounts) (hl : w₁.log = w.log) : w.Runs P w₁ :=
  .single (.inr ⟨hm, hl⟩)

theorem mono {Q : Entry → Prop} (h : w.Runs P w₁) (hPQ : ∀ e, P e → Q e) : w.Runs Q w₁ :=
  Relation.ReflTransGen.mono
    (fun _ _ hs => hs.imp_left fun ⟨c, hc, he⟩ => ⟨c, hPQ _ hc, he⟩) h

/-- A property of worlds that every call the run may make keeps, and that depends on the
    mount table and the log only, holds at the end of the run. -/
theorem preserves {Q : World → Prop} (h : w.Runs P w₁) (hw : Q w)
    (hstep : ∀ w c, P ⟨c, w.mounts, w.nextOk⟩ → Q w → Q (w.invoke c).2)
    (hsilent : ∀ w w', w'.mounts = w.mounts → w'.log = w.log → Q w → Q w') : Q w₁ := by
  induction h with
  | refl => exact hw
  | tail _ hs ih =>
    rcases hs with ⟨c, hc, rfl⟩ | ⟨hm, hl⟩
    exacts [hstep _ c hc ih, hsilent _ _ hm hl ih]

theorem logsOnly (h : w.Runs P w₁) : w.LogsOnly P w₁ :=
  h.preserves (.refl _ _) (fun _ c hc ih => ih.trans (.invoke c _ hc))
    fun _ _ _ hl ⟨n, hn, hp⟩ => ⟨n, hl.trans hn, hp⟩

/-- The entries a run added all satisfy `P`. -/
theorem forall_drop (h : w.Runs P w₁) : ∀ e ∈ w₁.log.drop w.log.length, P e :=
  h.logsOnly.forall_drop

end World.Runs

/-- `w'` is `w` after calls that all left the mount table as `w` has it: every call
    made on the way saw that table. -/
def World.Frozen (w w' : World) : Prop :=
  w'.mounts = w.mounts ∧ w.LogsOnly (·.mounts = w.mounts) w'

namespace World.Frozen

variable {w w₁ w₂ : World}

theorem refl (w : World) : w.Frozen w := ⟨rfl, .refl _ _⟩

theorem trans (h₁ : w.Frozen w₁) (h₂ : w₁.Frozen w₂) : w.Frozen w₂ :=
  ⟨h₂.1.trans h₁.1, h₁.2.trans (h₂.2.mono fun _ he => he.trans h₁.1)⟩

theorem invoke {c : Call} (hc : c.keepsMounts = true) (w : World) : w.Frozen (w.invoke c).2 :=
  ⟨by simp [Call.effect_of_keepsMounts hc], .invoke _ _ rfl⟩

end World.Frozen

/-- `w'` is `w` after calls of which at most `k` invoked a formatting primitive. -/
def World.FormatsAtMost (k : Nat) (w w' : World) : Prop :=
  ∃ new, w'.log = w.log ++ new ∧ new.countP (·.call.isFormat) ≤ k

namespace World.FormatsAtMost

variable {k l : Nat} {w w₁ w₂ : World}

theorem refl (k : Nat) (w : World) : w.FormatsAtMost k w := ⟨[], by simp, by simp⟩

theorem trans (h₁ : w.FormatsAtMost k w₁) (h₂ : w₁.FormatsAtMost l w₂) :
    w.FormatsAtMost (k + l) w₂ := by
  obtain ⟨n₁, h₁, c₁⟩ := h₁
  obtain ⟨n₂, h₂, c₂⟩ := h₂
  exact ⟨n₁ ++ n₂, by simp [h₁, h₂], by rw [List.countP_append]; omega⟩

theorem mono (h : w.FormatsAtMost k w₁) (hk : k ≤ l) : w.FormatsAtMost l w₁ :=
  h.imp fun _ h => ⟨h.1, h.2.trans hk⟩

theorem of_logsOnly {P : Entry → Prop} (h : w.LogsOnly P w₁)
    (hP : ∀ e, P e → e.call.isFormat = false) : w.FormatsAtMost 0 w₁ := by
  obtain ⟨n, h, p⟩ := h
  exact ⟨n, h, by simpa [List.countP_eq_zero] using fun e he => hP e (p e he)⟩

theorem format (c : Call) (w : World) : w.FormatsAtMost 1 (w.invoke c).2 :=
  ⟨_, invoke_log c w, by simp only [List.countP_singleton]; split <;> omega⟩

theorem quiet {c : Call} (hc : c.isFormat = false) (w : World) :
    w.FormatsAtMost 0 (w.invoke c).2 :=
  ⟨_, invoke_log c w, by simp [hc]⟩

/-- The entries a run added, counted. -/
theorem countP_drop (h : w.FormatsAtMost k w₁) :
    (w₁.log.drop w.log.length).countP (·.call.isFormat) ≤ k := by
  obtain ⟨n, h, c⟩ := h
  simpa [h] using c

end World.FormatsAtMost

end RecoveryRoots
