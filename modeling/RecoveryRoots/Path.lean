import RecoveryRoots.Table

/-! # Translating root paths

    `translate_root_path` turns `"SYSTEM:lib"` into `"/system/lib"` in a caller's buffer of
    `out_buf_len` bytes. The buffer is modelled by the writes the function makes into it,
    in order, as (index, byte) pairs, so that what it holds afterwards and whether a write
    falls outside it can both be read off.
-/

namespace RecoveryRoots

/-- `translate_root_path`: the bytes written into `out_buf`, in order, when it returns
    `out_buf`; `none` inside for NULL; an outer `none` when it reads `out_buf[-1]`, which
    an empty mount point would make it do. -/
def translateRootPath (t : Table) (rootPath : List Char) (outBufLen : Nat) :
    Option (Option (List (Nat × Char))) :=
  if outBufLen < 1 then some none
  else
    match getRootInfoForPath t rootPath with
    | none => some none
    | some i =>
      match (t i).mountPoint with
      | none => some none
      | some mp =>
        let rp := (rootPath.drop (t i).name.length).dropWhile (· = '/')
        if mp.length + 1 + rp.length + 1 > outBufLen then some none
        else
          match mp.getLast? with
          | none => none
          | some c =>
            let sep := if c ≠ '/' then ['/'] else []
            some (some (mp ++ sep ++ rp ++ ['\x00']).enum)

/-! ## Section 2: What the buffer receives -/

/-- The separator the code inserts is the one the mount point lacks. -/
theorem mount_point_sep {mp : List Char} {c : Char} (hc : mp.getLast? = some c) :
    mp ++ (if c ≠ '/' then ['/'] else []) =
      if mp.getLast? = some '/' then mp else mp ++ ['/'] := by
  by_cases h : c = '/' <;> simp [hc, h]

section NonEmpty

variable {t : Table} (hne : ∀ i mp, (t i).mountPoint = some mp → mp ≠ [])
include hne

/-- In a table whose mount points are non-empty, `translate_root_path` never faults; it
    succeeds exactly when the path resolves to a root with a mount point and the mount
    point, a separator, the rest of the path without its leading '/' and a terminator fit
    in the buffer; it then writes the joined path and its terminator from index 0, all
    below the buffer's length. -/
theorem translateRootPath_cases (p : List Char) (n : Nat) :
    ∃ out, translateRootPath t p n = some out ∧
      (out.isSome ↔ ∃ i mp, getRootInfoForPath t p = some i ∧ (t i).mountPoint = some mp ∧
        mp.length + ((p.drop (t i).name.length).dropWhile (· = '/')).length + 2 ≤ n) ∧
      ∀ writes ∈ out, ∃ i mp, getRootInfoForPath t p = some i ∧ (t i).mountPoint = some mp ∧
        writes = ((if mp.getLast? = some '/' then mp else mp ++ ['/']) ++
          (p.drop (t i).name.length).dropWhile (· = '/') ++ ['\x00']).enum ∧
        ∀ w ∈ writes, w.1 < n := by
  cases hi : getRootInfoForPath t p with
  | none => exact ⟨none, by simp [translateRootPath, hi], by simp, by simp⟩
  | some i =>
    cases hmp : (t i).mountPoint with
    | none => exact ⟨none, by simp [translateRootPath, hi, hmp], by simp [hmp], by simp⟩
    | some mp =>
      obtain ⟨c, hc⟩ := Option.ne_none_iff_exists'.1
        (mt List.getLast?_eq_none_iff.1 (hne i mp hmp))
      set rp := (p.drop (t i).name.length).dropWhile (· = '/')
      by_cases hfit : mp.length + rp.length + 2 ≤ n
      · refine ⟨some (mp ++ (if c ≠ '/' then ['/'] else []) ++ rp ++ ['\x00']).enum,
          by simp [translateRootPath, hi, hmp, hc, rp, show ¬ n < 1 by omega,
          show ¬ n < mp.length + 1 + rp.length + 1 by omega], by simp [hmp, hfit],
          fun writes hw => ⟨i, mp, rfl, hmp, ?_, fun w h => ?_⟩⟩ <;>
          rw [Option.mem_some_iff] at hw
        · rw [← hw, ← mount_point_sep hc]
        · have := List.fst_lt_of_mem_enum (hw ▸ h)
          by_cases h' : c = '/' <;> simp [h'] at this <;> omega
      · refine ⟨none, by simp [translateRootPath, hi, hmp, rp,
          show n < mp.length + 1 + rp.length + 1 by omega], by simp [hmp, hfit], by simp⟩

end NonEmpty

example : translateRootPath (gRoots defaultConfig) "SYSTEM://lib".toList 12 =
    some (some "/system/lib\x00".toList.enum) := by decide

example : translateRootPath (gRoots defaultConfig) "SYSTEM:lib".toList 11 = some none := by
  decide

end RecoveryRoots
