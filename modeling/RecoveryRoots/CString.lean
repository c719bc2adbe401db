import Mathlib.Data.List.Basic

/-! # C strings and the canonical pointers of `roots.c`

    A C string is modelled by the list of its characters before the terminating NUL, so
    the end of the list plays the terminator. The string functions of libc that
    `roots.c` calls are modelled by what the code reads of them: `strcmp (a, b) == 0` is
    equality of the lists, `strncmp (a, b, n) == 0` is equality of their first `n`
    characters (a terminator counting as a character).

    A field of the root table is a `const char *`. Besides string literals, `roots.c`
    stores in it four canonical pointers `g_mtd_device`, `g_mmc_device`, `g_raw` and
    `g_package_file`. Each is an array `"@\0g_..."`, so read as a C string it is `"@"`,
    and the code tells them apart only by pointer identity. A non-NULL pointer is a
    `Str`: a marker, or a literal whose identity the code never tests; NULL is `none`.
-/

namespace RecoveryRoots

/-! ## Section 1: Pointers -/

/-- The four canonical pointers of `roots.c`. -/
inductive Marker where
  | gMtdDevice
  | gMmcDevice
  | gRaw
  | gPackageFile
  deriving DecidableEq, Repr

/-- A non-NULL `const char *` stored in the root table. -/
inductive Str where
  | marker (k : Marker)
  | lit (s : List Char)
  deriving DecidableEq, Repr

/-- The characters a non-NULL pointer points to, up to the first NUL: `"@"` for a
    marker. -/
def Str.chars : Str → List Char
  | .marker _ => ['@']
  | .lit s => s

@[simp] theorem Str.chars_marker (k : Marker) : (Str.marker k).chars = ['@'] := rfl

@[simp] theorem Str.chars_lit (s : List Char) : (Str.lit s).chars = s := rfl

/-! ## Section 2: `strncmp` and the first colon -/

/-- `strncmp (a, b, n) == 0`. -/
def strnEq (a b : List Char) (n : Nat) : Bool := a.take n == b.take n

/-- The offset of the first ':' of a string, `none` when the terminator comes first:
    the scan at the top of `get_root_info_for_path` and `format_root_device`. -/
def colonOffset : List Char → Option Nat
  | [] => none
  | c :: s => if c = ':' then some 0 else (colonOffset s).map (· + 1)

theorem colonOffset_eq_none {s : List Char} : colonOffset s = none ↔ ':' ∉ s := by
  induction s with
  | nil => simp [colonOffset]
  | cons c s ih =>
    by_cases hc : c = ':'
    · simp [colonOffset, hc]
    · simp [colonOffset, hc, ih, Ne.symm hc]

theorem colonOffset_append {l : List Char} (r : List Char) (hl : ':' ∉ l) :
    colonOffset (l ++ ':' :: r) = some l.length := by
  induction l with
  | nil => simp [colonOffset]
  | cons c l ih =>
    have hc : c ≠ ':' := fun h => hl (h ▸ List.mem_cons_self c l)
    simp [colonOffset, hc, ih (fun h => hl (List.mem_cons_of_mem c h))]

/-- A string with a colon splits at its first one. -/
theorem exists_split_of_colonOffset {s : List Char} {k : Nat} (h : colonOffset s = some k) :
    ∃ l r, ':' ∉ l ∧ s = l ++ ':' :: r ∧ l.length = k := by
  induction s generalizing k with
  | nil => simp [colonOffset] at h
  | cons c s ih =>
    by_cases hc : c = ':'
    · subst hc
      simp only [colonOffset, if_pos, Option.some.injEq] at h
      exact ⟨[], s, by simp, rfl, h⟩
    · simp only [colonOffset, if_neg hc, Option.map_eq_some'] at h
      obtain ⟨k', hk', rfl⟩ := h
      obtain ⟨l, r, hl, rfl, rfl⟩ := ih hk'
      exact ⟨c :: l, r, by simp [hl, Ne.symm hc], rfl, rfl⟩

/-- The first `k + 1` characters of a path whose first ':' is at offset `k`. -/
theorem take_length_succ_colon (l r : List Char) :
    (l ++ ':' :: r).take (l.length + 1) = l ++ [':'] := by
  simp [List.take_append_eq_append_take]

/-! ## Section 3: Labels

    Every name of the root table ends in its only ':'. Two such labels are compared by
    the position of that colon, which is why `"DATA:"` is never taken for a prefix of
    `"DATADATA:"`. -/

/-- A root name: a string that ends in its only ':'. -/
def IsLabel (s : List Char) : Prop := ∃ a, ':' ∉ a ∧ s = a ++ [':']

theorem isLabel_iff (s : List Char) : IsLabel s ↔ ':' ∉ s.dropLast ∧ s.getLast? = some ':' := by
  constructor
  · rintro ⟨a, ha, rfl⟩
    simp [ha, List.getLast?_concat]
  · rintro ⟨h1, h2⟩
    obtain ⟨a, rfl⟩ := List.getLast?_eq_some_iff.1 h2
    exact ⟨a, by simpa using h1, rfl⟩

instance : DecidablePred IsLabel := fun s => decidable_of_iff _ (isLabel_iff s).symm

/-- The two ways a label can sit in front of a path split at its first colon agree. -/
theorem label_prefix_iff {a l r : List Char} (ha : ':' ∉ a) (hl : ':' ∉ l) :
    a ++ [':'] <+: l ++ ':' :: r ↔ a = l := by
  constructor
  · rintro ⟨t, ht⟩
    rw [List.append_assoc, List.singleton_append] at ht
    have h1 := colonOffset_append t ha
    rw [ht, colonOffset_append r hl] at h1
    exact (List.append_inj ht (Option.some.inj h1).symm).1
  · rintro rfl
    exact ⟨r, by simp⟩

/-- `strncmp (name, path, len) == 0` for a label `name`, where `len` runs through the
    first colon of `path`, holds exactly when the label is a prefix of the path. -/
theorem strnEq_label_iff {name l r : List Char} (hn : IsLabel name) (hl : ':' ∉ l) :
    strnEq name (l ++ ':' :: r) (l.length + 1) = true ↔ name <+: l ++ ':' :: r := by
  obtain ⟨a, ha, rfl⟩ := hn
  rw [label_prefix_iff ha hl, strnEq, beq_iff_eq, take_length_succ_colon]
  constructor
  · intro h
    have hp : l ++ [':'] <+: a ++ [':'] := h ▸ List.take_prefix _ _
    exact ((label_prefix_iff hl ha).1 hp).symm
  · rintro rfl
    simp

end RecoveryRoots
