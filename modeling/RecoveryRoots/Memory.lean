import RecoveryRoots.Calls

/-! # Memory safety

    Two ways `roots.c` can misuse memory: a dereference of NULL, which the model gives as
    an operation with no result, and a `free` of a block the module does not own.

    Four places can fault: `set_type_internal_fs` writes through the entry of a path that
    resolves to nothing, `translate_root_path` reads `out_buf[-1]` on an empty mount
    point, `get_root_mtd_partition` reads the entry of an unresolved `"CACHE:"`, and
    `format_root_device` hands a NULL filesystem to `strcmp`. In a reachable state of the
    board of `roots.h` only the first one is left: the mount points stay non-empty, the
    names stay those of `g_roots`, and every root with a device keeps a filesystem.

    The model lets the `strcat` and `sprintf` that build command lines always return, and a
    partition lookup by a NULL name find nothing. On that board both hold of the code:
    every command line fits its array, and every root whose device is `g_mtd_device` names
    its partition. A board with a longer device path overflows `ext_format[96]` instead.

    The package binding owns the block `strdup` made for the bound path. In every reachable
    state an archive is bound exactly when a path is, and the bound path's block is live.
    So `register_package_root(NULL, ...)` frees NULL or exactly one block it owns. Binding an
    archive over a bound one overwrites `g_package_path` without freeing it: the old block
    is leaked, and no later call frees it.
-/

namespace RecoveryRoots

/-! ## Section 1: Where each function can fault -/

theorem setTypeInternalFs_fst_eq_none (t : Table) (p fs : List Char) :
    (setTypeInternalFs t p fs).1 = none ↔
      getRootInfoForPath t p = none ∧ ∃ o ∈ gFsOptions, o.filesystem = fs := by
  unfold setTypeInternalFs
  cases hi : getRootInfoForPath t p <;> cases hf : gFsOptions.find? (·.filesystem = fs)
  · simpa using List.find?_eq_none.1 hf
  · exact iff_of_true rfl
      ⟨rfl, _, List.mem_of_find?_eq_some hf, by simpa using List.find?_some hf⟩
  all_goals simp

section Format

variable (root : List Char) (info : RootInfo) (device : Str) (w : World)
  (hfs : info.filesystem ≠ none)
include hfs

theorem formatMmc_fst_isSome : (formatMmc root info device w).1.isSome := by
  simp only [formatMmc]
  split_ifs
  · split
    · rfl
    · next h => exact absurd h hfs
    · rfl
  · split
    · next h => exact absurd h hfs
    · rfl

theorem formatDevice_fst_isSome : (formatDevice root info device w).1.isSome := by
  simp only [formatDevice]
  split_ifs
  · split
    · rfl
    · next h => exact absurd h hfs
    · split_ifs
      · rfl
      · exact formatMmc_fst_isSome _ _ _ _ hfs
  · exact formatMmc_fst_isSome _ _ _ _ hfs

end Format

/-- `format_root_device` returns on every root whose device comes with a filesystem. -/
theorem formatRootDevice_fst_isSome (t : Table) (root : List Char) (w : World)
    (hfs : ∀ i, getRootInfoForPath t root = some i → (t i).device ≠ none →
      (t i).filesystem ≠ none) :
    (formatRootDevice t root w).1.isSome := by
  simp only [formatRootDevice]
  split
  · rfl
  next i hi =>
  split
  · rfl
  next device hd =>
  have h := hfs i hi (by simp [hd])
  split_ifs
  · rfl
  · exact formatDevice_fst_isSome _ _ _ _ h
  · exact formatDevice_fst_isSome _ _ _ _ h

/-- `get_root_mtd_partition` returns on every path of a table in which `"CACHE:"`
    resolves. -/
theorem getRootMtdPartition_fst_isSome (boardHasMtdCache : Bool) (t : Table)
    (p : List Char) (w : World) (hc : getRootInfoForPath t "CACHE:".toList ≠ none) :
    (getRootMtdPartition boardHasMtdCache t p w).1.isSome := by
  simp only [getRootMtdPartition]
  split
  · split_ifs <;> rfl
  · next hp =>
    split_ifs with h
    · exact absurd (h.2 ▸ hp) hc
    · rfl

/-! ## Section 2: No fault in a reachable state but one -/

section Reachable

variable {cfg : BoardConfig} {m : Machine} (hm : Reachable cfg m)
include hm

theorem reachable_cache_resolves : getRootInfoForPath m.roots "CACHE:".toList = some 0 :=
  (getRootInfoForPath_congr (fun i => ((reachable_name hm i).trans (gRoots_name cfg i) :
    _ = (gRoots defaultConfig i).name)) _).trans (by decide)

theorem reachable_filesystem
    (hcfg : ∀ i, (gRoots cfg i).device ≠ none → (gRoots cfg i).filesystem ≠ none)
    (i : Fin numRoots) : (m.roots i).device ≠ none → (m.roots i).filesystem ≠ none := by
  rcases reachable_rootsInv hm i with h | ⟨o, -, h⟩ <;> rw [h]
  · exact hcfg i
  · simp [RootInfo.withFs]

end Reachable

/-- On the board of `roots.h`, an operation in a reachable state faults exactly when it is
    `set_type_internal_fs` on a path that resolves to no root with the name of a row of
    `g_fs_options`: every other operation returns, on every path, buffer length and
    world. -/
theorem exec_eq_none_iff {m : Machine} (hm : Reachable defaultConfig m) (op : Op)
    (w : World) :
    op.exec defaultConfig ⟨m.roots, m.pkg, w⟩ = none ↔
      ∃ p fs, op = .setTypeInternalFs p fs ∧ getRootInfoForPath m.roots p = none ∧
        ∃ o ∈ gFsOptions, o.filesystem = fs := by
  cases op <;> simp only [Op.exec, Option.map_eq_none', reduceCtorEq, false_and, exists_false,
    iff_false, Op.setTypeInternalFs.injEq, exists_and_left, exists_eq_left', not_false_eq_true]
  case translateRootPath p n =>
    obtain ⟨out, h, -⟩ := translateRootPath_cases
      (fun i mp h => (reachable_mountPoint hm i mp h).1) p n
    simp [h]
  case getRootMtdPartition p =>
    simpa [Option.isSome_iff_ne_none] using getRootMtdPartition_fst_isSome false
      m.roots p w (by rw [reachable_cache_resolves hm]; exact Option.some_ne_none _)
  case formatRootDevice p =>
    simpa [Option.isSome_iff_ne_none] using formatRootDevice_fst_isSome m.roots p w
      fun i _ => reachable_filesystem hm gRoots_filesystem i
  case setTypeInternalFs p fs =>
    rw [setTypeInternalFs_fst_eq_none]
    exact ⟨fun h => ⟨p, fs, ⟨rfl, rfl⟩, h⟩,
      fun ⟨_, _, ⟨hp, hfs⟩, h⟩ => hp ▸ hfs ▸ h⟩

theorem exec_eq_none_iff_noroot :
    let m : Machine := ⟨gRoots defaultConfig, PackageRoot.init, ⟨[], [], [], [], []⟩⟩
    let op := Op.setTypeInternalFs "NOROOT:".toList "ext4".toList
    let w : World := ⟨[], [], [], [], []⟩
    m.Initial defaultConfig ∧
    (op.exec defaultConfig ⟨m.roots, m.pkg, w⟩ = none ↔
      ∃ p fs, op = .setTypeInternalFs p fs ∧ getRootInfoForPath m.roots p = none ∧
        ∃ o ∈ gFsOptions, o.filesystem = fs) :=
  ⟨⟨rfl, rfl, rfl⟩, exec_eq_none_iff (.init ⟨rfl, rfl, rfl⟩) _ _⟩

/-! ## Section 3: The package binding owns its block -/

/-- Removing the entry with a key that occurs once leaves one entry fewer. -/
theorem length_filter_ne_fst {l : List (Nat × List Char)} (hl : (l.map Prod.fst).Nodup)
    {b : Nat} (hb : b ∈ l.map Prod.fst) : (l.filter (·.1 ≠ b)).length + 1 = l.length := by
  induction l with
  | nil => simp at hb
  | cons x l ih =>
    obtain ⟨hx, hl⟩ := List.nodup_cons.1 hl
    by_cases h : x.1 = b
    · subst h
      rw [List.filter_cons_of_neg (by simp), List.filter_eq_self.2 fun y hy =>
        by simpa using fun h : y.1 = x.1 => hx (h ▸ List.mem_map_of_mem _ hy)]
      rfl
    · rw [List.filter_cons_of_pos (by simpa using h), List.length_cons, List.length_cons,
        ih hl (by simpa [Ne.symm h] using hb)]

/-- What the package globals keep: an archive is bound exactly when a path is, the bound
    path's block is live, and the live blocks are distinct and below the next fresh one. -/
structure PackageRoot.Inv (pr : PackageRoot) : Prop where
  bound : pr.package.isSome = pr.packagePath.isSome
  live : ∀ b ∈ pr.packagePath, b ∈ pr.heap.map Prod.fst
  fresh : ∀ x ∈ pr.heap, x.1 < pr.nextBlock
  distinct : (pr.heap.map Prod.fst).Nodup

theorem PackageRoot.inv_init : PackageRoot.init.Inv :=
  ⟨rfl, by simp [init], by simp [init], by simp [init]⟩

@[simp] theorem free_nextBlock (block : Option Nat) (pr : PackageRoot) :
    (free block pr).nextBlock = pr.nextBlock := by
  cases block <;> rfl

theorem free_heap_sublist (block : Option Nat) (pr : PackageRoot) :
    (free block pr).heap.Sublist pr.heap := by
  cases block
  exacts [.refl _, List.filter_sublist _]

/-- Binding an archive fails and changes nothing, or appends a fresh block holding the path
    and binds both. -/
theorem registerPackageRoot_some_cases (a : Nat) (path : List Char) (pr : PackageRoot)
    (w : World) :
    ((registerPackageRoot (some a) path pr w).1 = -1 ∧
      (registerPackageRoot (some a) path pr w).2.1 = pr) ∨
    ((registerPackageRoot (some a) path pr w).1 = 0 ∧
      (registerPackageRoot (some a) path pr w).2.1 =
        { package := some a, packagePath := some pr.nextBlock,
          heap := pr.heap ++ [(pr.nextBlock, path)], nextBlock := pr.nextBlock + 1 }) := by
  simp only [registerPackageRoot, strdup, World.draw]
  cases w.nextOk
  exacts [.inl ⟨rfl, rfl⟩, .inr ⟨rfl, rfl⟩]

/-- Both branches of `register_package_root` keep the invariant: unbinding frees the bound
    block, binding appends a fresh one. -/
theorem registerPackageRoot_inv (package : Option Nat) (path : List Char) {pr : PackageRoot}
    (h : pr.Inv) (w : World) : (registerPackageRoot package path pr w).2.1.Inv := by
  cases package with
  | none =>
    have hs := free_heap_sublist pr.packagePath pr
    refine ⟨rfl, nofun, fun x hx => ?_, (hs.map _).nodup h.distinct⟩
    exact (free_nextBlock _ pr).symm ▸ h.fresh x (hs.subset hx)
  | some a =>
    rcases registerPackageRoot_some_cases a path pr w with ⟨-, e⟩ | ⟨-, e⟩ <;> rw [e]
    · exact h
    · have hn : pr.nextBlock ∉ pr.heap.map Prod.fst := fun hn => by
        obtain ⟨x, hx, he⟩ := List.mem_map.1 hn
        exact absurd (h.fresh x hx) (by omega)
      refine ⟨rfl, ?_, fun x hx => ?_, ?_⟩
      · rintro b ⟨⟩
        exact List.mem_map_of_mem Prod.fst (List.mem_append_right _ (List.mem_singleton_self _))
      · rcases List.mem_append.1 hx with hx | hx
        · exact Nat.lt_succ_of_lt (h.fresh x hx)
        · rw [List.mem_singleton.1 hx]
          exact Nat.lt_succ_self _
      · rw [List.map_append]
        exact List.nodup_append.2 ⟨h.distinct, List.nodup_singleton _,
          List.disjoint_singleton.2 hn⟩

/-- Only `register_package_root` touches the package globals and the heap. -/
theorem exec_pkg (cfg : BoardConfig) (op : Op) {m m' : Machine} {r : Reply}
    (h : op.exec cfg m = some (r, m')) :
    m'.pkg = m.pkg ∨ ∃ a path, op = .registerPackageRoot a path ∧
      m'.pkg = (registerPackageRoot a path m.pkg m.world).2.1 := by
  cases op <;> simp only [Op.exec, Option.map_eq_some', Option.some.injEq, Prod.mk.injEq] at h
  case registerPackageRoot a path => exact .inr ⟨a, path, rfl, by rw [← h.2]⟩
  all_goals first
    | (obtain ⟨rfl, rfl⟩ := h; exact .inl rfl)
    | (obtain ⟨_, _, rfl, rfl⟩ := h; exact .inl rfl)

/-- The invariant holds in every reachable state. -/
theorem reachable_pkg_inv {cfg : BoardConfig} {m : Machine} (hm : Reachable cfg m) :
    m.pkg.Inv := by
  induction hm with
  | init hi => rw [hi.2.1]; exact PackageRoot.inv_init
  | step _ hs ih =>
    cases hs with
    | call op outcomes hx =>
      rcases exec_pkg cfg op hx with h | ⟨a, path, -, h⟩ <;> rw [h]
      exacts [ih, registerPackageRoot_inv a path ih _]
    | env => exact ih

/-- In every reachable state `register_package_root(NULL, ...)` frees NULL when nothing is
    bound, and otherwise exactly one block, the live one holding the bound path: it never
    frees a block the module does not own, nor one twice. -/
theorem reachable_unregister_frees_owned {cfg : BoardConfig} {m : Machine}
    (hm : Reachable cfg m) (path : List Char) (w : World) :
    let pr := (registerPackageRoot none path m.pkg w).2.1
    (m.pkg.package = none ∧ m.pkg.packagePath = none ∧ pr.heap = m.pkg.heap) ∨
    ∃ a b, m.pkg.package = some a ∧ m.pkg.packagePath = some b ∧
      b ∈ m.pkg.heap.map Prod.fst ∧ pr.heap = m.pkg.heap.filter (·.1 ≠ b) ∧
      pr.heap.length + 1 = m.pkg.heap.length := by
  have h := reachable_pkg_inv hm
  have hbound := h.bound
  cases hb : m.pkg.packagePath with
  | none =>
    rw [hb] at hbound
    exact .inl ⟨by simpa using hbound, rfl, by simp [registerPackageRoot, hb, free]⟩
  | some b =>
    rw [hb, Option.isSome_some, Option.isSome_iff_exists] at hbound
    obtain ⟨a, ha⟩ := hbound
    have hl := h.live b (by rw [hb]; rfl)
    have he : (registerPackageRoot none path m.pkg w).2.1.heap =
        m.pkg.heap.filter (·.1 ≠ b) := by
      simp only [registerPackageRoot, free, hb]
    exact .inr ⟨a, b, ha, rfl, hl, he, he ▸ length_filter_ne_fst h.distinct hl⟩

/-- A block the module holds that no global refers to any more. -/
def PackageRoot.Leaked (pr : PackageRoot) (b : Nat) : Prop :=
  b ∈ pr.heap.map Prod.fst ∧ pr.packagePath ≠ some b

/-- Binding a fresh block leaves every held block below it held and unbound. -/
theorem PackageRoot.Inv.leaked_of_bind {pr : PackageRoot} (hi : pr.Inv) (a : Nat)
    (path : List Char) {b : Nat} (hb : b ∈ pr.heap.map Prod.fst) :
    PackageRoot.Leaked
      { package := some a, packagePath := some pr.nextBlock,
        heap := pr.heap ++ [(pr.nextBlock, path)], nextBlock := pr.nextBlock + 1 } b := by
  obtain ⟨x, hx, rfl⟩ := List.mem_map.1 hb
  have := hi.fresh x hx
  refine ⟨List.mem_map_of_mem _ (List.mem_append_left _ hx), ?_⟩
  simp only [ne_eq, Option.some.injEq]
  omega

/-- `register_package_root` frees only the bound block and binds only a fresh one, so a
    leaked block stays leaked. -/
theorem registerPackageRoot_leaked (package : Option Nat) (path : List Char)
    {pr : PackageRoot} (hi : pr.Inv) (w : World) {b : Nat} (h : pr.Leaked b) :
    (registerPackageRoot package path pr w).2.1.Leaked b := by
  cases package with
  | none =>
    refine ⟨?_, by simp [registerPackageRoot]⟩
    cases hc : pr.packagePath with
    | none => simpa [registerPackageRoot, hc, free] using h.1
    | some c =>
      have hbc : b ≠ c := fun e => h.2 (e ▸ hc)
      obtain ⟨x, hx, rfl⟩ := List.mem_map.1 h.1
      simp only [registerPackageRoot, hc, free]
      exact List.mem_map_of_mem _ (List.mem_filter.2 ⟨hx, by simpa using hbc⟩)
  | some a =>
    rcases registerPackageRoot_some_cases a path pr w with ⟨-, e⟩ | ⟨-, e⟩ <;> rw [e]
    exacts [h, hi.leaked_of_bind a path h.1]

theorem Step.leaked {cfg : BoardConfig} {m m' : Machine} (hs : Step cfg m m') (hi : m.pkg.Inv)
    {b : Nat} (h : m.pkg.Leaked b) : m'.pkg.Leaked b := by
  cases hs with
  | call op outcomes hx =>
    rcases exec_pkg cfg op hx with e | ⟨a, path, -, e⟩ <;> rw [e]
    exacts [h, registerPackageRoot_leaked a path hi _ h]
  | env => exact h

/-- Binding an archive while another is bound leaks the old path's copy: from then on,
    over every run, its block stays allocated and no global refers to it. -/
theorem reachable_rebind_leaks {cfg : BoardConfig} {m m₁ m' : Machine} (hm : Reachable cfg m)
    {b : Nat} (hb : m.pkg.packagePath = some b) (a : Nat) (path : List Char)
    (outcomes : List Bool)
    (h : (Op.registerPackageRoot (some a) path).exec cfg
      { m with world := { m.world with outcomes := outcomes } } = some (.status 0, m₁))
    (hr : Relation.ReflTransGen (Step cfg) m₁ m') : m'.pkg.Leaked b := by
  have hi := reachable_pkg_inv hm
  have h₁ : Reachable cfg m₁ ∧ m₁.pkg.Leaked b := by
    refine ⟨.step hm (.call _ outcomes h), ?_⟩
    simp only [Op.exec, Option.some.injEq, Prod.mk.injEq, Reply.status.injEq] at h
    obtain ⟨h0, rfl⟩ := h
    rcases registerPackageRoot_some_cases a path m.pkg _ with ⟨e, -⟩ | ⟨-, e⟩
    · exact absurd (h0.symm.trans e) (by decide)
    · rw [e]
      exact hi.leaked_of_bind a path (hi.live b (by rw [hb]; rfl))
  suffices Reachable cfg m' ∧ m'.pkg.Leaked b from this.2
  induction hr with
  | refl => exact h₁
  | tail _ hs ih => exact ⟨.step ih.1 hs, hs.leaked (reachable_pkg_inv ih.1) ih.2⟩

theorem reachable_unregister_frees_owned_bound :
    let m₀ : Machine := ⟨gRoots defaultConfig, PackageRoot.init, ⟨[], [], [], [], []⟩⟩
    let m : Machine := ⟨gRoots defaultConfig,
      ⟨some 1, some 0, [(0, "/tmp/update.zip".toList)], 1⟩,
      ⟨[], [], [], [], []⟩⟩
    let pr := (registerPackageRoot none [] m.pkg m₀.world).2.1
    Reachable defaultConfig m ∧
    ((m.pkg.package = none ∧ m.pkg.packagePath = none ∧ pr.heap = m.pkg.heap) ∨
    ∃ a b, m.pkg.package = some a ∧ m.pkg.packagePath = some b ∧
      b ∈ m.pkg.heap.map Prod.fst ∧ pr.heap = m.pkg.heap.filter (·.1 ≠ b) ∧
      pr.heap.length + 1 = m.pkg.heap.length) := by
  intro m₀ m _
  have hm : Reachable defaultConfig m := .step (m := m₀) (.init ⟨rfl, rfl, rfl⟩)
    (.call (.registerPackageRoot (some 1) "/tmp/update.zip".toList) [true] rfl)
  exact ⟨hm, reachable_unregister_frees_owned hm _ _⟩

theorem reachable_rebind_leaks_update :
    let m : Machine := ⟨gRoots defaultConfig, ⟨some 1, some 0, [(0, "/tmp/a.zip".toList)], 1⟩,
      ⟨[], [], [], [], []⟩⟩
    let m₁ : Machine := ⟨gRoots defaultConfig,
      ⟨some 2, some 1, [(0, "/tmp/a.zip".toList), (1, "/tmp/b.zip".toList)], 2⟩,
      ⟨[], [], [], [], []⟩⟩
    Reachable defaultConfig m ∧ m.pkg.packagePath = some 0 ∧
    (Op.registerPackageRoot (some 2) "/tmp/b.zip".toList).exec defaultConfig
      { m with world := { m.world with outcomes := [true] } } = some (.status 0, m₁) ∧
    Relation.ReflTransGen (Step defaultConfig) m₁ m₁ ∧ m₁.pkg.Leaked 0 := by
  intro m m₁
  have hm : Reachable defaultConfig m :=
    .step (m := ⟨gRoots defaultConfig, PackageRoot.init, ⟨[], [], [], [], []⟩⟩)
      (.init ⟨rfl, rfl, rfl⟩)
    (.call (.registerPackageRoot (some 1) "/tmp/a.zip".toList) [true] rfl)
  exact ⟨hm, rfl, rfl, .refl, reachable_rebind_leaks hm rfl 2 _ [true] rfl .refl⟩

end RecoveryRoots
