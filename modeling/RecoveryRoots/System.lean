import RecoveryRoots.Package
import RecoveryRoots.Probe
import RecoveryRoots.Format
import RecoveryRoots.Path

/-! # The module as a system

    The state of a recovery process as `roots.c` sees it: the table `g_roots`, the package
    binding with the blocks it owns, and the world outside. A step is either one call of a
    public operation, with the results of its primitives chosen by the environment, or a
    change of the mount table made outside the module (recovery scripts mount and unmount
    volumes underneath it). An operation that faults has no successor: the process dies.
    The invariants of `g_roots` hold in every state reachable from process start. Once
    `set_type_internal_fs` has overwritten the marker of `"PACKAGE:"`, no later state has a
    package path.
-/

namespace RecoveryRoots

/-! ## Section 1: Operations and steps -/

structure Machine where
  roots : Table
  pkg : PackageRoot
  world : World

/-- The public operations of `roots.h`, with their arguments. -/
inductive Op where
  | registerPackageRoot (package : Option Nat) (packagePath : List Char)
  | isPackageRootPath (rootPath : List Char)
  | translateRootPath (rootPath : List Char) (outBufLen : Nat)
  | translatePackageRootPath (rootPath : List Char) (outBufLen : Nat)
  | isRootPathMounted (rootPath : List Char)
  | ensureRootPathMounted (rootPath : List Char)
  | ensureRootPathUnmounted (rootPath : List Char)
  | getRootMtdPartition (rootPath : List Char)
  | formatRootDevice (root : List Char)
  | detectInternalFs (rootPath : List Char)
  | getTypeInternalFs (rootPath : List Char)
  | setTypeInternalFs (rootPath newFs : List Char)
  | getMountPointForRoot (rootPath : List Char)
  | getDevForRoot (rootPath : List Char)
  | getRootInfoForPath (rootPath : List Char)

/-- The root path an operation is given, if any. -/
def Op.rootPath : Op → Option (List Char)
  | .registerPackageRoot _ _ => none
  | .isPackageRootPath p | .translateRootPath p _ | .translatePackageRootPath p _
  | .isRootPathMounted p | .ensureRootPathMounted p | .ensureRootPathUnmounted p
  | .getRootMtdPartition p | .formatRootDevice p | .detectInternalFs p
  | .getTypeInternalFs p | .setTypeInternalFs p _ | .getMountPointForRoot p
  | .getDevForRoot p | .getRootInfoForPath p => some p

/-- What an operation returns. -/
inductive Reply where
  | status (v : Int)
  | flag (b : Bool)
  | str (s : Option Str)
  | path (p : Option (List Char))
  | bytes (out : Option (List (Nat × Char)))
  | packagePath (out : Option (List Char × Option Nat))
  | partition (p : Option (List Char))
  | root (i : Option (Fin numRoots))

/-- An `int` result below zero. -/
def Reply.IsNegative : Reply → Prop
  | .status v => v < 0
  | _ => False

/-- One call of an operation: its reply and the state after it, or `none` if it faults. -/
def Op.exec (cfg : BoardConfig) : Op → Machine → Option (Reply × Machine)
  | .registerPackageRoot a path, m =>
    let r := RecoveryRoots.registerPackageRoot a path m.pkg m.world
    some (.status r.1, { m with pkg := r.2.1, world := r.2.2 })
  | .isPackageRootPath p, m => some (.flag (RecoveryRoots.isPackageRootPath m.roots p), m)
  | .translateRootPath p n, m =>
    (RecoveryRoots.translateRootPath m.roots p n).map fun out => (.bytes out, m)
  | .translatePackageRootPath p n, m =>
    some (.packagePath (RecoveryRoots.translatePackageRootPath m.roots m.pkg p n), m)
  | .isRootPathMounted p, m =>
    let r := RecoveryRoots.isRootPathMounted m.roots p m.world
    some (.status r.1, { m with world := r.2 })
  | .ensureRootPathMounted p, m =>
    let r := RecoveryRoots.ensureRootPathMounted m.roots p m.world
    some (.status r.1, { m with world := r.2 })
  | .ensureRootPathUnmounted p, m =>
    let r := RecoveryRoots.ensureRootPathUnmounted m.roots p m.world
    some (.status r.1, { m with world := r.2 })
  | .getRootMtdPartition p, m =>
    let r := RecoveryRoots.getRootMtdPartition cfg.boardHasMtdCache m.roots p m.world
    r.1.map fun part => (.partition part, { m with world := r.2 })
  | .formatRootDevice p, m =>
    let r := RecoveryRoots.formatRootDevice m.roots p m.world
    r.1.map fun v => (.status v, { m with world := r.2 })
  | .detectInternalFs p, m =>
    let r := RecoveryRoots.detectInternalFs m.roots p m.world
    some (.status r.1, { m with roots := r.2.1, world := r.2.2 })
  | .getTypeInternalFs p, m => some (.str (RecoveryRoots.getTypeInternalFs m.roots p), m)
  | .setTypeInternalFs p fs, m =>
    let r := RecoveryRoots.setTypeInternalFs m.roots p fs
    r.1.map fun v => (.status v, { m with roots := r.2 })
  | .getMountPointForRoot p, m =>
    some (.path (RecoveryRoots.getMountPointForRoot m.roots p), m)
  | .getDevForRoot p, m => some (.str (RecoveryRoots.getDevForRoot m.roots p), m)
  | .getRootInfoForPath p, m => some (.root (RecoveryRoots.getRootInfoForPath m.roots p), m)

/-- A step of the system. -/
inductive Step (cfg : BoardConfig) : Machine → Machine → Prop
  /-- The module runs one operation; the environment chooses the results its calls
      report. -/
  | call (op : Op) (outcomes : List Bool) {m m' : Machine} {r : Reply} :
      op.exec cfg { m with world := { m.world with outcomes := outcomes } } = some (r, m') →
      Step cfg m m'
  /-- Something outside the module mounts or unmounts volumes. -/
  | env (mounts : List (List Char)) (m : Machine) :
      Step cfg m { m with world := { m.world with mounts := mounts } }

/-- The state as the process starts: `g_roots` as the board builds it, no package bound,
    nothing allocated, nothing logged. -/
def Machine.Initial (cfg : BoardConfig) (m : Machine) : Prop :=
  m.roots = gRoots cfg ∧ m.pkg = PackageRoot.init ∧ m.world.log = []

inductive Reachable (cfg : BoardConfig) : Machine → Prop where
  | init {m : Machine} : m.Initial cfg → Reachable cfg m
  | step {m m' : Machine} : Reachable cfg m → Step cfg m m' → Reachable cfg m'

/-! ## Section 2: What a step does to `g_roots` -/

/-- Every operation but the probe and the setter leaves `g_roots` alone; those two record
    a row of `g_fs_options` in the entry their root path resolves to, and return 0. -/
theorem exec_roots (cfg : BoardConfig) (op : Op) {m m' : Machine} {r : Reply}
    (h : op.exec cfg m = some (r, m')) :
    m'.roots = m.roots ∨
      (r = .status 0 ∧ ∃ p i o, op.rootPath = some p ∧ getRootInfoForPath m.roots p = some i ∧
        o ∈ gFsOptions ∧ m'.roots = Function.update m.roots i ((m.roots i).withFs o)) := by
  cases op <;> simp only [Op.exec, Option.map_eq_some', Option.some.injEq, Prod.mk.injEq] at h
  case detectInternalFs p =>
    obtain ⟨rfl, rfl⟩ := h
    rcases detectInternalFs_table m.roots p m.world with h | ⟨h0, i, o, hi, ho, h⟩
    · exact .inl h
    · exact .inr ⟨by rw [h0], p, i, o, rfl, hi, ho, h⟩
  case setTypeInternalFs p fs =>
    obtain ⟨v, hv, rfl, rfl⟩ := h
    rcases setTypeInternalFs_cases m.roots p fs with h | ⟨h0, i, o, hi, ho, h⟩
    · exact .inl h
    · rw [h0, Option.some.injEq] at hv
      exact .inr ⟨by rw [← hv], p, i, o, rfl, hi, ho, h⟩
  all_goals first
    | (obtain ⟨rfl, rfl⟩ := h; exact .inl rfl)
    | (obtain ⟨_, _, rfl, rfl⟩ := h; exact .inl rfl)

/-! ## Section 3: The invariant of `g_roots` -/

/-- Every entry is as at start, or as at start with its filesystem pair taken from a row
    of `g_fs_options`. -/
def RootsInv (t₀ t : Table) : Prop :=
  ∀ i, t i = t₀ i ∨ ∃ o ∈ gFsOptions, t i = (t₀ i).withFs o

theorem RootsInv.update_withFs {t₀ t : Table} (h : RootsInv t₀ t) (i : Fin numRoots)
    {o : FilesystemOptions} (ho : o ∈ gFsOptions) :
    RootsInv t₀ (Function.update t i ((t i).withFs o)) := by
  intro j
  by_cases hj : j = i
  · subst hj
    rw [Function.update_same]
    exact .inr ⟨o, ho, by rcases h j with h | ⟨_, -, h⟩ <;> rw [h]; rfl⟩
  · rw [Function.update_noteq hj]
    exact h j

theorem RootsInv.step {cfg : BoardConfig} {t₀ : Table} {m m' : Machine}
    (h : RootsInv t₀ m.roots) (hs : Step cfg m m') : RootsInv t₀ m'.roots := by
  cases hs with
  | call op outcomes hx =>
    rcases exec_roots cfg op hx with h' | ⟨-, p, i, o, -, -, ho, h'⟩
    · rwa [h']
    · rw [h']
      exact RootsInv.update_withFs h i ho
  | env => exact h

theorem reachable_rootsInv {cfg : BoardConfig} {m : Machine} (h : Reachable cfg m) :
    RootsInv (gRoots cfg) m.roots := by
  induction h with
  | init hi => rw [hi.1]; exact fun _ => .inl rfl
  | step _ hs ih => exact ih.step hs

theorem reachable_name {cfg : BoardConfig} {m : Machine} (h : Reachable cfg m)
    (i : Fin numRoots) : (m.roots i).name = (gRoots cfg i).name := by
  rcases reachable_rootsInv h i with h | ⟨o, -, h⟩ <;> rw [h]; rfl

theorem reachable_name_isLabel {cfg : BoardConfig} {m : Machine} (h : Reachable cfg m)
    (i : Fin numRoots) : IsLabel (m.roots i).name :=
  reachable_name h i ▸ gRoots_name_isLabel cfg i

theorem reachable_name_injective {cfg : BoardConfig} {m : Machine} (h : Reachable cfg m) :
    Function.Injective fun i => (m.roots i).name :=
  fun i j hij => gRoots_name_injective cfg (by simpa [reachable_name h] using hij)

theorem reachable_device {cfg : BoardConfig} {m : Machine} (h : Reachable cfg m)
    (i : Fin numRoots) : (m.roots i).device = (gRoots cfg i).device := by
  rcases reachable_rootsInv h i with h | ⟨o, -, h⟩ <;> rw [h]; rfl

theorem reachable_mountPoint {cfg : BoardConfig} {m : Machine} (h : Reachable cfg m)
    (i : Fin numRoots) (mp : List Char) (hmp : (m.roots i).mountPoint = some mp) :
    mp ≠ [] ∧ mp.head? = some '/' := by
  rcases reachable_rootsInv h i with h | ⟨o, -, h⟩ <;> rw [h] at hmp <;>
    exact gRoots_mountPoint cfg i mp hmp

/-- In every reachable state the fields of `g_roots` other than the filesystem pair are
    as at start, and the pair is either the initial one or a row of `g_fs_options`; an
    operation changes no entry but the one its root path resolves to, and none when it
    returns a negative value. So the names stay distinct labels, every mount point a
    non-empty absolute path, and every root with a device has a filesystem. -/
theorem roots_invariant :
    (∀ cfg m, Reachable cfg m → ∀ i,
      let t₀ := gRoots cfg
      (m.roots i).name = (t₀ i).name ∧ (m.roots i).device = (t₀ i).device ∧
      (m.roots i).device2 = (t₀ i).device2 ∧
      (m.roots i).partitionName = (t₀ i).partitionName ∧
      (m.roots i).mountPoint = (t₀ i).mountPoint ∧
      (((m.roots i).filesystem, (m.roots i).filesystemOptions) =
          ((t₀ i).filesystem, (t₀ i).filesystemOptions) ∨
        ∃ o ∈ gFsOptions, ((m.roots i).filesystem, (m.roots i).filesystemOptions) =
          (some (.lit o.filesystem), some o.filesystemOptions))) ∧
    (∀ (cfg : BoardConfig) (op : Op) (m : Machine) (r : Reply) (m' : Machine),
      op.exec cfg m = some (r, m') →
      (∀ i, (∀ p, op.rootPath = some p → getRootInfoForPath m.roots p ≠ some i) →
        m'.roots i = m.roots i) ∧
      (r.IsNegative → m'.roots = m.roots)) ∧
    (∀ m, Reachable defaultConfig m →
      Function.Injective (fun i => (m.roots i).name) ∧ (∀ i, IsLabel (m.roots i).name) ∧
      (∀ i mp, (m.roots i).mountPoint = some mp → mp ≠ [] ∧ mp.head? = some '/') ∧
      (∀ i, (m.roots i).device ≠ none → (m.roots i).filesystem ≠ none)) := by
  refine ⟨fun cfg m hm i => ?_, fun cfg op m r m' h => ?_, fun m hm => ?_⟩
  · rcases reachable_rootsInv hm i with h | ⟨o, ho, h⟩ <;> rw [h]
    · exact ⟨rfl, rfl, rfl, rfl, rfl, .inl rfl⟩
    · exact ⟨rfl, rfl, rfl, rfl, rfl, .inr ⟨o, ho, rfl⟩⟩
  · rcases exec_roots cfg op h with h' | ⟨hr, p, i, o, hp, hi, -, h'⟩
    · exact ⟨fun i _ => by rw [h'], fun _ => h'⟩
    · refine ⟨fun j hj => ?_, fun hneg => by simp [hr, Reply.IsNegative] at hneg⟩
      rw [h', Function.update_noteq]
      rintro rfl
      exact hj p hp hi
  · refine ⟨reachable_name_injective hm, reachable_name_isLabel hm, reachable_mountPoint hm,
      fun i => ?_⟩
    rcases reachable_rootsInv hm i with h | ⟨o, -, h⟩ <;> rw [h]
    · exact gRoots_filesystem i
    · simp [RootInfo.withFs]

/-! ## Section 4: Resolving and translating root paths -/

/-- In every reachable state, a path resolves to the one entry whose name is a prefix of
    it, and to nothing when there is none (in particular when it has no ':'); only the
    part up to and including the first ':' is read. -/
theorem getRootInfoForPath_finds_label (cfg : BoardConfig) (m : Machine)
    (hm : Reachable cfg m) (p : List Char) :
    (∀ i, getRootInfoForPath m.roots p = some i ↔ (m.roots i).name <+: p) ∧
    (getRootInfoForPath m.roots p = none ↔ ∀ i, ¬ (m.roots i).name <+: p) ∧
    (':' ∉ p → getRootInfoForPath m.roots p = none) ∧
    (∀ l r, ':' ∉ l →
      getRootInfoForPath m.roots (l ++ ':' :: r) = getRootInfoForPath m.roots (l ++ [':'])) := by
  have hlab := reachable_name_isLabel hm
  have hinj := reachable_name_injective hm
  exact ⟨getRootInfoForPath_eq_some_iff hlab hinj p, getRootInfoForPath_eq_none_iff hlab hinj p,
    getRootInfoForPath_of_not_mem, fun l r hl => getRootInfoForPath_append _ r hl⟩

theorem getRootInfoForPath_finds_label_datadata :
    let m : Machine := ⟨gRoots defaultConfig, PackageRoot.init, ⟨[], [], [], [], []⟩⟩
    let p := "DATADATA:app".toList
    m.Initial defaultConfig ∧
      ((∀ i, getRootInfoForPath m.roots p = some i ↔ (m.roots i).name <+: p) ∧
      (getRootInfoForPath m.roots p = none ↔ ∀ i, ¬ (m.roots i).name <+: p) ∧
      (':' ∉ p → getRootInfoForPath m.roots p = none) ∧
      (∀ l r, ':' ∉ l →
        getRootInfoForPath m.roots (l ++ ':' :: r) = getRootInfoForPath m.roots (l ++ [':']))) :=
  ⟨⟨rfl, rfl, rfl⟩, getRootInfoForPath_finds_label defaultConfig _ (.init ⟨rfl, rfl, rfl⟩) _⟩

/-- In every reachable state, `translate_root_path(p, buf, n)` returns `buf` exactly when
    `p` resolves to a root with a mount point `mp` and `mp`, a separator, the rest `r` of
    `p` after the root's name without its leading '/', and a terminator fit in `n` bytes;
    `buf` then holds `mp ++ r` if `mp` ends in '/' and `mp ++ "/" ++ r` otherwise,
    terminated. No write, on any path, reaches index `n`. -/
theorem translateRootPath_joins_mount_point (cfg : BoardConfig) (m : Machine)
    (hm : Reachable cfg m) (p : List Char) (n : Nat) :
    ∃ out, translateRootPath m.roots p n = some out ∧
      (out.isSome ↔ ∃ i mp, getRootInfoForPath m.roots p = some i ∧
        (m.roots i).mountPoint = some mp ∧
        mp.length + ((p.drop (m.roots i).name.length).dropWhile (· = '/')).length + 2 ≤ n) ∧
      ∀ writes ∈ out, ∃ i mp, getRootInfoForPath m.roots p = some i ∧
        (m.roots i).mountPoint = some mp ∧
        writes = ((if mp.getLast? = some '/' then mp else mp ++ ['/']) ++
          (p.drop (m.roots i).name.length).dropWhile (· = '/') ++ ['\x00']).enum ∧
        ∀ w ∈ writes, w.1 < n :=
  translateRootPath_cases (fun i mp h => (reachable_mountPoint hm i mp h).1) p n

theorem translateRootPath_joins_mount_point_system :
    let m : Machine := ⟨gRoots defaultConfig, PackageRoot.init, ⟨[], [], [], [], []⟩⟩
    let p := "SYSTEM:lib".toList
    m.Initial defaultConfig ∧
      ∃ out, translateRootPath m.roots p 12 = some out ∧
        (out.isSome ↔ ∃ i mp, getRootInfoForPath m.roots p = some i ∧
          (m.roots i).mountPoint = some mp ∧
          mp.length + ((p.drop (m.roots i).name.length).dropWhile (· = '/')).length + 2 ≤ 12) ∧
        ∀ writes ∈ out, ∃ i mp, getRootInfoForPath m.roots p = some i ∧
          (m.roots i).mountPoint = some mp ∧
          writes = ((if mp.getLast? = some '/' then mp else mp ++ ['/']) ++
            (p.drop (m.roots i).name.length).dropWhile (· = '/') ++ ['\x00']).enum ∧
          ∀ w ∈ writes, w.1 < 12 :=
  ⟨⟨rfl, rfl, rfl⟩, translateRootPath_joins_mount_point defaultConfig _ (.init ⟨rfl, rfl, rfl⟩) _ _⟩

/-! ## Section 5: Formatting -/

/-- On the default board no device is the MMC marker, so in every reachable state
    `format_root_device` invokes at most one formatting primitive. -/
theorem formatRootDevice_formats_once_default {m : Machine} (hm : Reachable defaultConfig m)
    (root : List Char) (w : World) :
    ((formatRootDevice m.roots root w).2.log.drop w.log.length).countP (·.call.isFormat) ≤ 1 :=
  formatRootDevice_formats_at_most_once _ _ _ fun i _ hd =>
    absurd (reachable_device hm i ▸ hd) (gRoots_device_ne_mmc i)

theorem formatRootDevice_formats_once_default_cache :
    let m : Machine := ⟨gRoots defaultConfig, PackageRoot.init, ⟨[], [], [], [], []⟩⟩
    let w : World := ⟨[], ["cache".toList], [], [true, true, true, true, true], []⟩
    Reachable defaultConfig m ∧
      ((formatRootDevice m.roots "CACHE:".toList w).2.log.drop w.log.length).countP
        (·.call.isFormat) ≤ 1 :=
  ⟨.init ⟨rfl, rfl, rfl⟩,
    formatRootDevice_formats_once_default (.init ⟨rfl, rfl, rfl⟩) _ _⟩

/-- A board whose `DATA_DEVICE` has 21 characters: once `set_type_internal_fs("DATA:",
    "rfs")` has run, `format_root_device("DATA:")` builds `stl.format <device>`, 32
    characters and a terminator, in the 32-byte `stl_format`. -/
theorem formatRootDevice_overflows_stl_format :
    let cfg : BoardConfig :=
      { defaultConfig with dataDevice := some (.lit "/dev/block/mmcblk0p10".toList) }
    let m : Machine := ⟨(setTypeInternalFs (gRoots cfg) "DATA:".toList "rfs".toList).2,
      PackageRoot.init, ⟨[], [], [], [], []⟩⟩
    Reachable cfg m ∧
      ∃ e ∈ (formatRootDevice m.roots "DATA:".toList ⟨[], [], [], [true, true], []⟩).2.log,
        e.call = .system (.stlFormat (.lit "/dev/block/mmcblk0p10".toList)) ∧
        ¬ (Command.stlFormat (.lit "/dev/block/mmcblk0p10".toList)).Fits :=
  ⟨.step (.init ⟨rfl, rfl, rfl⟩) (.call (.setTypeInternalFs "DATA:".toList "rfs".toList) []
    (m := ⟨gRoots _, PackageRoot.init, ⟨[], [], [], [], []⟩⟩) (r := .status 0) (by rfl)),
    by decide⟩

/-! ## Section 6: Losing the package root -/

/-- No entry of the table holds the marker `g_package_file`. -/
def NoPackageRoot (t : Table) : Prop :=
  ∀ i, (t i).filesystem ≠ some (.marker .gPackageFile)

theorem NoPackageRoot.step {cfg : BoardConfig} {m m' : Machine} (h : NoPackageRoot m.roots)
    (hs : Step cfg m m') : NoPackageRoot m'.roots := by
  cases hs with
  | call op outcomes hx =>
    rcases exec_roots cfg op hx with e | ⟨-, p, i, o, -, -, -, e⟩ <;> rw [e]
    · exact h
    · intro j
      by_cases hj : j = i
      · subst hj
        simp [RootInfo.withFs]
      · rw [Function.update_noteq hj]
        exact h j
  | env => exact h

theorem NoPackageRoot.isPackageRootPath {t : Table} (h : NoPackageRoot t) (q : List Char) :
    isPackageRootPath t q = false := by
  unfold RecoveryRoots.isPackageRootPath
  cases getRootInfoForPath t q with
  | none => rfl
  | some i => simpa using h i

theorem NoPackageRoot.translatePackageRootPath {t : Table} (h : NoPackageRoot t)
    (pr : PackageRoot) (q : List Char) (n : Nat) : translatePackageRootPath t pr q n = none := by
  unfold RecoveryRoots.translatePackageRootPath
  cases getRootInfoForPath t q with
  | none => rfl
  | some i => simp [h i]

theorem gRoots_default_no_package_file :
    ∀ i : Fin numRoots, i ≠ 4 →
      (gRoots defaultConfig i).filesystem ≠ some (.marker .gPackageFile) := by
  decide

/-- `set_type_internal_fs` accepts `"PACKAGE:"`: given the filesystem of a row of
    `g_fs_options` it overwrites the marker `g_package_file` of that entry, and no later
    operation puts it back. From then on, over every run, no path is a package path and
    `translate_package_root_path` fails on every path. -/
theorem setTypeInternalFs_unbinds_package_root {m m₁ m' : Machine}
    (hm : Reachable defaultConfig m) (fs : List Char)
    (hfs : ∃ o ∈ gFsOptions, o.filesystem = fs)
    (outcomes : List Bool) {r : Reply}
    (h : (Op.setTypeInternalFs "PACKAGE:".toList fs).exec defaultConfig
      { m with world := { m.world with outcomes := outcomes } } = some (r, m₁))
    (hr : Relation.ReflTransGen (Step defaultConfig) m₁ m') (q : List Char) (n : Nat) :
    isPackageRootPath m'.roots q = false ∧
      translatePackageRootPath m'.roots m'.pkg q n = none := by
  have h4 : getRootInfoForPath m.roots "PACKAGE:".toList = some 4 :=
    (getRootInfoForPath_congr (fun i => ((reachable_name hm i).trans (gRoots_name _ i) :
      _ = (gRoots defaultConfig i).name)) _).trans (by decide)
  obtain ⟨o, ho, hfo⟩ := hfs
  have h₁ : NoPackageRoot m₁.roots := by
    simp only [Op.exec, Option.map_eq_some'] at h
    obtain ⟨v, -, he⟩ := h
    rw [← (Prod.mk.inj he).2]
    cases hf : gFsOptions.find? (·.filesystem = fs) with
    | none => exact absurd (List.find?_eq_none.1 hf o ho) (by simpa using hfo)
    | some o' =>
      simp only [setTypeInternalFs, h4, hf]
      intro i
      by_cases hi : i = 4
      · subst hi
        simp [RootInfo.withFs]
      · rw [Function.update_noteq hi]
        rcases reachable_rootsInv hm i with e | ⟨o, -, e⟩ <;> rw [e]
        · exact gRoots_default_no_package_file i hi
        · simp [RootInfo.withFs]
  have h' : NoPackageRoot m'.roots := by
    induction hr with
    | refl => exact h₁
    | tail _ hs ih => exact ih.step hs
  exact ⟨h'.isPackageRootPath q, h'.translatePackageRootPath m'.pkg q n⟩

theorem setTypeInternalFs_unbinds_package_root_ext4 :
    let m : Machine := ⟨gRoots defaultConfig, PackageRoot.init, ⟨[], [], [], [], []⟩⟩
    let m₁ : Machine :=
      ⟨(setTypeInternalFs m.roots "PACKAGE:".toList "ext4".toList).2, m.pkg, m.world⟩
    Reachable defaultConfig m ∧ (∃ o ∈ gFsOptions, o.filesystem = "ext4".toList) ∧
      (Op.setTypeInternalFs "PACKAGE:".toList "ext4".toList).exec defaultConfig
        { m with world := { m.world with outcomes := [] } } = some (.status 0, m₁) ∧
      Relation.ReflTransGen (Step defaultConfig) m₁ m₁ ∧
      (isPackageRootPath m₁.roots "PACKAGE:a".toList = false ∧
        translatePackageRootPath m₁.roots m₁.pkg "PACKAGE:a".toList 16 = none) := by
  intro m m₁
  have hr : Relation.ReflTransGen (Step defaultConfig) m₁ m₁ := .refl
  exact ⟨.init ⟨rfl, rfl, rfl⟩, by decide, rfl, hr, setTypeInternalFs_unbinds_package_root
    (m := m) (.init ⟨rfl, rfl, rfl⟩) "ext4".toList (by decide) [] rfl hr _ _⟩

end RecoveryRoots
