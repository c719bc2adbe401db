import RecoveryRoots.CString
import Mathlib.Data.List.FinRange
import Mathlib.Tactic.FinCases

/-! # The root table

    `g_roots` is a static array of `NUM_ROOTS` entries, one per symbolic root
    (`"SYSTEM:"`, `"DATA:"`, ...). Its devices and filesystems come from the macros of
    `roots.h`, which a board may override; `BoardConfig` collects them, and
    `defaultConfig` holds the defaults of `roots.h`. The table is indexed by
    `Fin numRoots`: `get_root_info_for_path` returns a pointer into it, which is an index
    here, and the only writes to it (by `set_type_internal_fs` and `detect_internal_fs`)
    go through that index.
-/

namespace RecoveryRoots

/-! ## Section 1: Table entries -/

/-- One row of `g_fs_options`: a filesystem and the options it is mounted with. -/
structure FilesystemOptions where
  filesystem : List Char
  filesystemOptions : List Char
  deriving DecidableEq, Repr

/-- `g_fs_options`: the filesystems `detect_internal_fs` tries, in this order. -/
def gFsOptions : List FilesystemOptions :=
  [⟨"rfs".toList, "llw,check=no".toList⟩,
   ⟨"ext4".toList, "noatime,nodiratime,nodev,data=ordered".toList⟩]

/-- `RootInfo`: one entry of `g_roots`. -/
structure RootInfo where
  name : List Char
  device : Option Str
  /-- The device tried when mounting `device` fails (may be NULL). -/
  device2 : Option Str
  partitionName : Option (List Char)
  mountPoint : Option (List Char)
  filesystem : Option Str
  filesystemOptions : Option (List Char)
  deriving DecidableEq, Repr

/-- The entry with its filesystem and options taken from a row of `g_fs_options`: the
    write made by `set_type_internal_fs` and by a successful probe. -/
def RootInfo.withFs (info : RootInfo) (o : FilesystemOptions) : RootInfo :=
  { info with filesystem := some (.lit o.filesystem),
              filesystemOptions := some o.filesystemOptions }

section WithFs

variable (info : RootInfo) (o : FilesystemOptions)

@[simp] theorem RootInfo.withFs_name : (info.withFs o).name = info.name := rfl
@[simp] theorem RootInfo.withFs_device : (info.withFs o).device = info.device := rfl
@[simp] theorem RootInfo.withFs_device2 : (info.withFs o).device2 = info.device2 := rfl
@[simp] theorem RootInfo.withFs_partitionName :
    (info.withFs o).partitionName = info.partitionName := rfl
@[simp] theorem RootInfo.withFs_mountPoint :
    (info.withFs o).mountPoint = info.mountPoint := rfl

end WithFs

/-! ## Section 2: Board configuration and `g_roots` -/

/-- The macros of `roots.h` that `g_roots` is built from, and `BOARD_HAS_MTD_CACHE`. -/
structure BoardConfig where
  sdcardDevicePrimary : Option Str
  sdcardDeviceSecondary : Option Str
  sdextDevice : Option Str
  sdextFilesystem : Option Str
  dataDevice : Option Str
  dataFilesystem : Option Str
  datadataDevice : Option Str
  datadataFilesystem : Option Str
  cacheDevice : Option Str
  cacheFilesystem : Option Str
  systemDevice : Option Str
  systemFilesystem : Option Str
  dataFilesystemOptions : Option (List Char)
  cacheFilesystemOptions : Option (List Char)
  datadataFilesystemOptions : Option (List Char)
  systemFilesystemOptions : Option (List Char)
  boardHasMtdCache : Bool

/-- The defaults of `roots.h`. `SDCARD_DEVICE_SECONDARY` defaults to `g_mtd_device`. -/
def defaultConfig : BoardConfig where
  sdcardDevicePrimary := some (.lit "/dev/block/mmcblk1p1".toList)
  sdcardDeviceSecondary := some (.marker .gMtdDevice)
  sdextDevice := some (.lit "/dev/block/mmcblk1p2".toList)
  sdextFilesystem := some (.lit "auto".toList)
  dataDevice := some (.lit "/dev/block/mmcblk0p2".toList)
  dataFilesystem := some (.lit "unknown".toList)
  datadataDevice := some (.lit "/dev/block/stl10".toList)
  datadataFilesystem := some (.lit "unknown".toList)
  cacheDevice := some (.lit "/dev/block/stl11".toList)
  cacheFilesystem := some (.lit "unknown".toList)
  systemDevice := some (.lit "/dev/block/stl9".toList)
  systemFilesystem := some (.lit "unknown".toList)
  dataFilesystemOptions := none
  cacheFilesystemOptions := none
  datadataFilesystemOptions := none
  systemFilesystemOptions := none
  boardHasMtdCache := false

/-- `NUM_ROOTS`. -/
abbrev numRoots : Nat := 11

/-- A state of `g_roots`. -/
abbrev Table := Fin numRoots → RootInfo

/-- `g_roots` as the process starts. -/
def gRoots (cfg : BoardConfig) : Table
  | 0 => ⟨"CACHE:".toList, cfg.cacheDevice, none, some "cache".toList, some "/cache".toList,
      cfg.cacheFilesystem, cfg.cacheFilesystemOptions⟩
  | 1 => ⟨"DATA:".toList, cfg.dataDevice, none, some "userdata".toList, some "/data".toList,
      cfg.dataFilesystem, cfg.dataFilesystemOptions⟩
  | 2 => ⟨"DATADATA:".toList, cfg.datadataDevice, none, some "datadata".toList,
      some "/dbdata".toList, cfg.datadataFilesystem, cfg.datadataFilesystemOptions⟩
  | 3 => ⟨"SYSTEM:".toList, cfg.systemDevice, none, some "system".toList,
      some "/system".toList, cfg.systemFilesystem, cfg.systemFilesystemOptions⟩
  | 4 => ⟨"PACKAGE:".toList, none, none, none, none, some (.marker .gPackageFile), none⟩
  | 5 => ⟨"BOOT:".toList, some (.marker .gMtdDevice), none, some "boot".toList, none,
      some (.marker .gRaw), none⟩
  | 6 => ⟨"RECOVERY:".toList, some (.marker .gMtdDevice), none, some "recovery".toList,
      some "/".toList, some (.marker .gRaw), none⟩
  | 7 => ⟨"SDCARD:".toList, cfg.sdcardDevicePrimary, cfg.sdcardDeviceSecondary, none,
      some "/sdcard".toList, some (.lit "vfat".toList), none⟩
  | 8 => ⟨"SDEXT:".toList, cfg.sdextDevice, none, none, some "/sd-ext".toList,
      cfg.sdextFilesystem, none⟩
  | 9 => ⟨"MBM:".toList, some (.marker .gMtdDevice), none, some "mbm".toList, none,
      some (.marker .gRaw), none⟩
  | 10 => ⟨"TMP:".toList, none, none, none, some "/tmp".toList, none, none⟩

/-- The names of `g_roots` do not depend on the board. -/
theorem gRoots_name (cfg : BoardConfig) (i : Fin numRoots) :
    (gRoots cfg i).name = (gRoots defaultConfig i).name := by
  fin_cases i <;> rfl

/-- Every mount point of `g_roots` is a non-empty absolute path. -/
theorem gRoots_mountPoint (cfg : BoardConfig) (i : Fin numRoots) :
    ∀ mp ∈ (gRoots cfg i).mountPoint, mp ≠ [] ∧ mp.head? = some '/' := by
  have h : (gRoots cfg i).mountPoint = (gRoots defaultConfig i).mountPoint := by
    fin_cases i <;> rfl
  rw [h]
  clear h
  revert i; decide

/-- On the default board every root with a device has a filesystem. -/
theorem gRoots_filesystem (i : Fin numRoots) :
    (gRoots defaultConfig i).device ≠ none → (gRoots defaultConfig i).filesystem ≠ none := by
  revert i; decide

/-- The default board has no MMC device. -/
theorem gRoots_device_ne_mmc (i : Fin numRoots) :
    (gRoots defaultConfig i).device ≠ some (.marker .gMmcDevice) := by
  revert i; decide

theorem gRoots_name_isLabel (cfg : BoardConfig) (i : Fin numRoots) :
    IsLabel (gRoots cfg i).name := by
  rw [gRoots_name]
  revert i; decide

theorem gRoots_name_injective (cfg : BoardConfig) :
    Function.Injective fun i => (gRoots cfg i).name := by
  intro i j h
  simp only [gRoots_name] at h
  revert i j h; decide

/-! ## Section 3: `get_root_info_for_path` -/

/-- `get_root_info_for_path`: the first entry whose name agrees with the path on
    everything up to and including the path's first ':'. -/
def getRootInfoForPath (t : Table) (rootPath : List Char) : Option (Fin numRoots) :=
  match colonOffset rootPath with
  | none => none
  | some k => (List.finRange numRoots).find? fun i => strnEq (t i).name rootPath (k + 1)

/-- The lookup reads only the names of the table. -/
theorem getRootInfoForPath_congr {t t' : Table} (h : ∀ i, (t i).name = (t' i).name)
    (p : List Char) : getRootInfoForPath t p = getRootInfoForPath t' p := by
  simp only [getRootInfoForPath, h]

/-- Recording a filesystem in an entry does not change what any path resolves to. -/
theorem getRootInfoForPath_update_withFs (t : Table) (i : Fin numRoots)
    (o : FilesystemOptions) (p : List Char) :
    getRootInfoForPath (Function.update t i ((t i).withFs o)) p = getRootInfoForPath t p := by
  refine getRootInfoForPath_congr (fun j => ?_) p
  by_cases hj : j = i
  · subst hj; simp
  · simp [Function.update_noteq hj]

theorem getRootInfoForPath_of_not_mem {t : Table} {p : List Char} (hp : ':' ∉ p) :
    getRootInfoForPath t p = none := by
  simp [getRootInfoForPath, colonOffset_eq_none.2 hp]

/-- Only the part of the path up to and including its first ':' is read. -/
theorem getRootInfoForPath_append (t : Table) {l : List Char} (r : List Char)
    (hl : ':' ∉ l) :
    getRootInfoForPath t (l ++ ':' :: r) = getRootInfoForPath t (l ++ [':']) := by
  simp only [getRootInfoForPath, colonOffset_append _ hl, strnEq, take_length_succ_colon]

theorem find?_finRange_eq_some_iff {n : Nat} {q : Fin n → Bool}
    (hu : ∀ i j, q i = true → q j = true → i = j) (i : Fin n) :
    (List.finRange n).find? q = some i ↔ q i = true := by
  refine ⟨List.find?_some, fun hi => ?_⟩
  cases h : (List.finRange n).find? q with
  | none => exact absurd hi (List.find?_eq_none.1 h i (List.mem_finRange i))
  | some j => rw [hu j i (List.find?_some h) hi]

section Labels

variable {t : Table} (hlab : ∀ i, IsLabel (t i).name)
  (hinj : Function.Injective fun i => (t i).name)
include hlab hinj

/-- In a table whose names are distinct labels, the lookup finds the one entry whose
    name is a prefix of the path. -/
theorem getRootInfoForPath_eq_some_iff (p : List Char) (i : Fin numRoots) :
    getRootInfoForPath t p = some i ↔ (t i).name <+: p := by
  cases hk : colonOffset p with
  | none =>
    obtain ⟨a, -, ha⟩ := hlab i
    simp only [getRootInfoForPath, hk, reduceCtorEq, false_iff]
    exact fun hp => colonOffset_eq_none.1 hk (hp.subset (by simp [ha]))
  | some k =>
    obtain ⟨l, r, hl, rfl, rfl⟩ := exists_split_of_colonOffset hk
    have hq : ∀ j, strnEq (t j).name (l ++ ':' :: r) (l.length + 1) = true ↔
        (t j).name <+: l ++ ':' :: r := fun j => strnEq_label_iff (hlab j) hl
    have hname : ∀ j, (t j).name <+: l ++ ':' :: r → (t j).name = l ++ [':'] := by
      intro j hj
      obtain ⟨a, ha, he⟩ := hlab j
      rw [he, (label_prefix_iff ha hl).1 (he ▸ hj)]
    simp only [getRootInfoForPath, hk]
    rw [find?_finRange_eq_some_iff _ i, hq]
    intro j j' hj hj'
    exact hinj ((hname j ((hq j).1 hj)).trans (hname j' ((hq j').1 hj')).symm)

theorem getRootInfoForPath_eq_none_iff (p : List Char) :
    getRootInfoForPath t p = none ↔ ∀ i, ¬ (t i).name <+: p := by
  rw [← not_iff_not]
  simp only [← ne_eq, Option.ne_none_iff_exists', not_forall, not_not,
    getRootInfoForPath_eq_some_iff hlab hinj]

end Labels

end RecoveryRoots
