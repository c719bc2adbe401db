import RecoveryRoots.World

/-! # The package root

    `register_package_root` binds the archive being installed to the virtual root
    `"PACKAGE:"`, whose filesystem is the marker `g_package_file`; it keeps a copy of the
    package's path, made with `strdup`. The binding is the pair of globals `g_package`,
    `g_package_path`. The heap is modelled as the blocks `strdup` returned and `free` has
    not released, with their contents; whether an allocation succeeds is the world's next
    result. An archive is an opaque `const ZipArchive *`, here a number, NULL being `none`.
-/

namespace RecoveryRoots

/-! ## Section 1: The model -/

/-- The globals of the package binding and the blocks the module owns. -/
structure PackageRoot where
  /-- `g_package`. -/
  package : Option Nat
  /-- `g_package_path`: the block holding the bound path. -/
  packagePath : Option Nat
  /-- The blocks `strdup` returned that were not freed, with their contents. -/
  heap : List (Nat × List Char)
  /-- The block the next successful `strdup` returns. -/
  nextBlock : Nat
  deriving DecidableEq, Repr

/-- The binding as the process starts. -/
def PackageRoot.init : PackageRoot := ⟨none, none, [], 0⟩

/-- Consumes the world's next result without making a call. -/
def World.draw (w : World) : Bool × World := (w.nextOk, { w with outcomes := w.outcomes.tail })

/-- `strdup`: a fresh block holding a copy of `s`, or NULL when the allocation fails. -/
def strdup (s : List Char) (pr : PackageRoot) (w : World) :
    Option Nat × PackageRoot × World :=
  let (ok, w) := w.draw
  if ok then
    (some pr.nextBlock,
      { pr with heap := pr.heap ++ [(pr.nextBlock, s)], nextBlock := pr.nextBlock + 1 }, w)
  else (none, pr, w)

/-- `free`: releases a block; freeing NULL does nothing. -/
def free (block : Option Nat) (pr : PackageRoot) : PackageRoot :=
  match block with
  | none => pr
  | some b => { pr with heap := pr.heap.filter (·.1 ≠ b) }

/-- `register_package_root`. -/
def registerPackageRoot (package : Option Nat) (packagePath : List Char) (pr : PackageRoot)
    (w : World) : Int × PackageRoot × World :=
  match package with
  | some _ =>
    let (copy, pr, w) := strdup packagePath pr w
    match copy with
    | none => (-1, pr, w)
    | some b => (0, { pr with packagePath := some b, package := package }, w)
  | none =>
    let pr := free pr.packagePath pr
    (0, { pr with packagePath := none, package := none }, w)

/-- `is_package_root_path`. -/
def isPackageRootPath (t : Table) (rootPath : List Char) : Bool :=
  match getRootInfoForPath t rootPath with
  | none => false
  | some i => (t i).filesystem = some (.marker .gPackageFile)

/-- `translate_package_root_path`: the path with the root's name stripped, as copied into
    `out_buf`, and `g_package` as stored through `out_package`; `none` for NULL. -/
def translatePackageRootPath (t : Table) (pr : PackageRoot) (rootPath : List Char)
    (outBufLen : Nat) : Option (List Char × Option Nat) :=
  match getRootInfoForPath t rootPath with
  | none => none
  | some i =>
    if (t i).filesystem ≠ some (.marker .gPackageFile) then none
    else
      let rest := rootPath.drop (t i).name.length
      if outBufLen < rest.length + 1 then none else some (rest, pr.package)

/-- Runs `register_package_root` on each `(package, path)` in turn, collecting the
    results. -/
def registerAll : List (Option Nat × List Char) → PackageRoot → World →
    List Int × PackageRoot × World
  | [], pr, w => ([], pr, w)
  | (package, path) :: calls, pr, w =>
    let r := registerPackageRoot package path pr w
    let rest := registerAll calls r.2.1 r.2.2
    (r.1 :: rest.1, rest.2)

/-- The archive passed to the last call that returned 0, if any call did. -/
def lastBound : List (Option Nat × List Char) → List Int → Option (Option Nat)
  | (package, _) :: calls, r :: rs =>
    match lastBound calls rs with
    | some b => some b
    | none => if r = 0 then some package else none
  | _, _ => none

/-! ## Section 2: One call -/

/-- A call either fails, leaving the binding alone, or succeeds and binds its archive. -/
theorem registerPackageRoot_cases (package : Option Nat) (path : List Char)
    (pr : PackageRoot) (w : World) :
    ((registerPackageRoot package path pr w).1 = -1 ∧
      (registerPackageRoot package path pr w).2.1.package = pr.package ∧
      (registerPackageRoot package path pr w).2.1.packagePath = pr.packagePath) ∨
    ((registerPackageRoot package path pr w).1 = 0 ∧
      (registerPackageRoot package path pr w).2.1.package = package) := by
  cases package with
  | none => simp [registerPackageRoot]
  | some a =>
    simp only [registerPackageRoot, strdup, World.draw]
    cases w.nextOk <;> simp

/-- After a run, `g_package` is the archive of the last call that returned 0, or what it
    was before if none did. -/
theorem registerAll_package (calls : List (Option Nat × List Char)) (pr : PackageRoot)
    (w : World) :
    (registerAll calls pr w).2.1.package =
      ((lastBound calls (registerAll calls pr w).1).getD pr.package) := by
  induction calls generalizing pr w with
  | nil => simp [registerAll, lastBound]
  | cons c calls ih =>
    obtain ⟨package, path⟩ := c
    simp only [registerAll, lastBound, ih]
    cases lastBound calls (registerAll calls (registerPackageRoot package path pr w).2.1
        (registerPackageRoot package path pr w).2.2).1 with
    | some b => rfl
    | none =>
      rcases registerPackageRoot_cases package path pr w with ⟨h1, h2, -⟩ | ⟨h1, h2⟩ <;>
        simp [h1, h2]

theorem translatePackageRootPath_eq_some {t : Table} {pr : PackageRoot} {p : List Char}
    {n : Nat} {buf : List Char} {pkg : Option Nat}
    (h : translatePackageRootPath t pr p n = some (buf, pkg)) :
    ∃ i, getRootInfoForPath t p = some i ∧ (t i).filesystem = some (.marker .gPackageFile) ∧
      buf = p.drop (t i).name.length ∧ buf.length < n ∧ pkg = pr.package := by
  unfold translatePackageRootPath at h
  split at h
  · cases h
  · rename_i i hi
    dsimp only at h
    split_ifs at h with hfs hn
    obtain ⟨rfl, rfl⟩ := Prod.mk.inj (Option.some.inj h)
    exact ⟨i, hi, not_not.1 hfs, rfl, by omega, rfl⟩

/-- `"PACKAGE:"` is the only root of `g_roots` whose filesystem is `g_package_file`. -/
theorem gRoots_packageFile {i : Fin numRoots}
    (h : (gRoots defaultConfig i).filesystem = some (.marker .gPackageFile)) : i = 4 := by
  revert i h; decide

/-! ## Section 3: Runs of `register_package_root` -/

/-- A failed `register_package_root` leaves the binding alone; and after any run of
    `register_package_root` from process start, `translate_package_root_path` succeeds
    only on a path `"PACKAGE:" ++ rest` with room for `rest` and its terminator, copies
    `rest`, and hands back the archive of the last call that returned 0 (NULL if no call
    did). -/
theorem translatePackageRootPath_after_registers :
    (∀ package path pr w, (registerPackageRoot package path pr w).1 = -1 →
      (registerPackageRoot package path pr w).2.1.package = pr.package ∧
      (registerPackageRoot package path pr w).2.1.packagePath = pr.packagePath) ∧
    (∀ calls w p n buf pkg,
      translatePackageRootPath (gRoots defaultConfig) (registerAll calls PackageRoot.init w).2.1
          p n = some (buf, pkg) →
        ∃ rest, p = "PACKAGE:".toList ++ rest ∧ rest.length < n ∧ buf = rest ∧
          pkg = (lastBound calls (registerAll calls PackageRoot.init w).1).getD none) := by
  refine ⟨fun package path pr w h => ?_, fun calls w p n buf pkg h => ?_⟩
  · rcases registerPackageRoot_cases package path pr w with ⟨-, h2⟩ | ⟨h1, -⟩
    · exact h2
    · omega
  · obtain ⟨i, hi, hfs, rfl, hn, rfl⟩ := translatePackageRootPath_eq_some h
    obtain rfl := gRoots_packageFile hfs
    have hp := (getRootInfoForPath_eq_some_iff (gRoots_name_isLabel defaultConfig)
      (gRoots_name_injective defaultConfig) p 4).1 hi
    exact ⟨_, (List.prefix_iff_eq_append.1 hp).symm, hn, rfl, registerAll_package _ _ _⟩

/-- Binding a second archive without unbinding the first: the block holding the first
    path is neither freed nor the current `g_package_path`. -/
theorem registerPackageRoot_leaks_previous_path :
    (registerAll [(some 1, "/sdcard/a.zip".toList), (some 2, "/sdcard/b.zip".toList)]
        PackageRoot.init ⟨[], [], [], [true, true], []⟩).1 = [0, 0] ∧
      ∃ b ∈ (registerAll [(some 1, "/sdcard/a.zip".toList), (some 2, "/sdcard/b.zip".toList)]
        PackageRoot.init ⟨[], [], [], [true, true], []⟩).2.1.heap,
        some b.1 ≠ (registerAll [(some 1, "/sdcard/a.zip".toList),
          (some 2, "/sdcard/b.zip".toList)] PackageRoot.init
          ⟨[], [], [], [true, true], []⟩).2.1.packagePath := by
  decide

/-- With no archive bound, from process start as after binding one and unbinding it,
    `translate_package_root_path("PACKAGE:a")` still succeeds and hands back NULL as the
    archive: it never reads `g_package` before succeeding. -/
theorem translatePackageRootPath_succeeds_unbound :
    translatePackageRootPath (gRoots defaultConfig) PackageRoot.init "PACKAGE:a".toList 2 =
      some ("a".toList, none) ∧
    (registerAll [(some 1, "/sdcard/a.zip".toList), (none, [])] PackageRoot.init
        ⟨[], [], [], [true], []⟩).1 = [0, 0] ∧
    translatePackageRootPath (gRoots defaultConfig)
        (registerAll [(some 1, "/sdcard/a.zip".toList), (none, [])] PackageRoot.init
          ⟨[], [], [], [true], []⟩).2.1 "PACKAGE:a".toList 2 = some ("a".toList, none) := by
  decide

end RecoveryRoots
