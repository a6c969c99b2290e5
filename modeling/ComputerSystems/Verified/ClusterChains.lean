import ComputerSystems.Data.Threads
import ComputerSystems.Fat.FileEvents
import ComputerSystems.Verified.FatEntries

/-! # Chains of clusters

The file allocation table threads the clusters of the files: `Volume.fatTable` is a table
of `Data.Threads`, and the chains of the files, of the operations on them and of all other
files of the volume are separate in it.
-/

namespace ComputerSystems.Fat

open ComputerSystems.Data Program

namespace Afatfs

variable {afatfs : Afatfs} {cluster other next sector offset : Word} {content content' : Word → Sector}

/-! ## The table -/

/-- The cluster that a number leads to: 0 and the marks of an end lead nowhere. -/
def link (afatfs : Afatfs) (number : Word) : Option Word :=
  if number = 0 ∨ afatfs.fatIsEndOfChainMarker number then none else some number

/-- What an entry says: the cluster is free, or another one follows it, or none. -/
def entryOf (afatfs : Afatfs) (number : Word) : Option (Option Word) :=
  if number = 0 then none else some (afatfs.link number)

/-- The table as the entries make it up. -/
def fatTable (afatfs : Afatfs) (content : Word → Sector) : Table Word := fun cluster =>
  if afatfs.IsCluster cluster then afatfs.entryOf (afatfs.fatValue content cluster) else none

theorem link_eq_some (leads : afatfs.link cluster = some next) : cluster = next := by
  rw [link] at leads
  split_ifs at leads
  exact Option.some.inj leads

/-- The number of a cluster is not the mark of an end. -/
theorem Geometry.not_marker (geometry : afatfs.Geometry) (isCluster : afatfs.IsCluster cluster) :
    afatfs.fatIsEndOfChainMarker cluster = false := by
  have numbers := geometry.numbers
  have below := isCluster.2
  rw [firstMarker] at numbers
  rw [fatIsEndOfChainMarker]
  obtain type | type := geometry.type
  · simp only [type, if_true] at numbers
    simp only [type, reduceCtorEq, if_false, fat16IsEndOfChainMarker]
    apply decide_eq_false
    bv_omega
  · simp only [type, reduceCtorEq, if_false] at numbers
    simp only [type, if_true, fat32IsEndOfChainMarker]
    apply decide_eq_false
    bv_omega

theorem Geometry.link_cluster (geometry : afatfs.Geometry) (isCluster : afatfs.IsCluster cluster) :
    afatfs.link cluster = some cluster := by
  rw [link, if_neg]
  rintro (zero | marker)
  · subst zero
    exact absurd isCluster.1 (by decide)
  · rw [geometry.not_marker isCluster] at marker
    cases marker

/-- The entry of a cluster that another one follows. -/
theorem Geometry.entryOf_stored (geometry : afatfs.Geometry) (isCluster : afatfs.IsCluster next) :
    afatfs.entryOf (afatfs.storedEntry next) = some (some next) := by
  have numbers := geometry.numbers
  have below := isCluster.2
  have positive := isCluster.1
  have stored : afatfs.storedEntry next = next := by
    rw [storedEntry]
    rw [firstMarker] at numbers
    split at numbers
    · rename_i type
      rw [if_pos type]
      apply BitVec.eq_of_toNat_eq
      rw [BitVec.toNat_and]
      exact (Nat.and_two_pow_sub_one_eq_mod _ 16).trans (Nat.mod_eq_of_lt (by omega))
    · rename_i type
      rw [if_neg type]
      apply BitVec.eq_of_toNat_eq
      rw [decodeClusterNumber_toNat, Nat.mod_eq_of_lt (by omega)]
  rw [stored, entryOf, if_neg, geometry.link_cluster isCluster]
  rintro rfl
  exact absurd positive (by decide)

theorem entryOf_end (geometry : afatfs.Geometry) : afatfs.entryOf (afatfs.storedEntry 0xFFFFFFFF) = some none := by
  obtain type | type := geometry.type <;>
    simp [entryOf, storedEntry, link, type, fatIsEndOfChainMarker, fat16IsEndOfChainMarker, fat32IsEndOfChainMarker,
      fat32DecodeClusterNumber]

theorem entryOf_zero : afatfs.entryOf (afatfs.storedEntry 0) = none := by
  rw [entryOf, storedEntry]
  split <;> simp [fat32DecodeClusterNumber]

/-- A used cluster is a cluster of the volume, and its entry is not 0. -/
theorem fatTable_ne_none (used : afatfs.fatTable content cluster ≠ none) :
    afatfs.IsCluster cluster ∧ afatfs.fatValue content cluster ≠ 0 := by
  rw [fatTable] at used
  split_ifs at used with isCluster
  · refine ⟨isCluster, fun zero => used ?_⟩
    rw [entryOf, if_pos zero]
  · exact absurd rfl used

theorem fatTable_of_free (isCluster : afatfs.IsCluster cluster) (free : afatfs.fatValue content cluster = 0) :
    afatfs.fatTable content cluster = none := by
  rw [fatTable, if_pos isCluster, entryOf, if_pos free]

/-- The marks are numbers behind those of all clusters. -/
theorem two_le_of_marker (marker : afatfs.fatIsEndOfChainMarker cluster = true) : 2 ≤ cluster.toNat := by
  rw [fatIsEndOfChainMarker] at marker
  split at marker
  · rw [fat32IsEndOfChainMarker, decide_eq_true_eq] at marker
    bv_omega
  · rw [fat16IsEndOfChainMarker, decide_eq_true_eq] at marker
    bv_omega

/-- The number in the entry of a used cluster leads to the one that follows. -/
theorem link_fatValue (used : afatfs.fatTable content cluster ≠ none) :
    afatfs.link (afatfs.fatValue content cluster) = (afatfs.fatTable content).next cluster := by
  obtain ⟨isCluster, value⟩ := fatTable_ne_none used
  rw [Table.next, fatTable, if_pos isCluster, entryOf, if_neg value]
  rfl

/-- The table after an entry was written. -/
theorem Geometry.fatTable_setFatEntry (geometry : afatfs.Geometry) (isCluster : afatfs.IsCluster cluster) :
    afatfs.fatTable (afatfs.setFatEntry content cluster next) =
      Function.update (afatfs.fatTable content) cluster (afatfs.entryOf (afatfs.storedEntry next)) := by
  funext other
  by_cases same : other = cluster
  · subst same
    rw [Function.update_self, fatTable, if_pos isCluster, geometry.fatValue_setFatEntry content isCluster.2 isCluster.2,
      if_pos rfl]
  · rw [Function.update_of_ne same, fatTable, fatTable]
    split_ifs with valid
    · rw [geometry.fatValue_setFatEntry content isCluster.2 valid.2, if_neg same]
    · rfl

/-! ## Where it lies -/

/-- A sector of the first table. -/
def InTable (afatfs : Afatfs) (sector : Word) : Prop :=
  afatfs.fatStartSector.toNat ≤ sector.toNat ∧
    sector.toNat < afatfs.fatStartSector.toNat + afatfs.fatSectors.toNat

/-- A sector of the cluster. -/
def InCluster (afatfs : Afatfs) (cluster sector : Word) : Prop :=
  afatfs.clusterStartSector.toNat + (cluster.toNat - 2) * afatfs.sectorsPerCluster.toNat ≤ sector.toNat ∧
    sector.toNat < afatfs.clusterStartSector.toNat + (cluster.toNat - 2) * afatfs.sectorsPerCluster.toNat +
      afatfs.sectorsPerCluster.toNat

theorem Geometry.inTable_fatSector (geometry : afatfs.Geometry) (below : cluster.toNat < afatfs.numClusters.toNat + 2) :
    afatfs.InTable (afatfs.fatSector cluster) := by
  obtain ⟨place, bound⟩ := geometry.fatSector_toNat below
  exact ⟨place ▸ Nat.le_add_right _ _, bound⟩

/-- What is not in the table does not change it. -/
theorem Geometry.fatValue_congr (geometry : afatfs.Geometry) (agree : ∀ sector, afatfs.InTable sector → content' sector = content sector)
    (below : cluster.toNat < afatfs.numClusters.toNat + 2) : afatfs.fatValue content' cluster = afatfs.fatValue content cluster := by
  rw [fatValue, fatValue, agree _ (geometry.inTable_fatSector below)]

theorem Geometry.fatTable_congr (geometry : afatfs.Geometry)
    (agree : ∀ sector, afatfs.InTable sector → content' sector = content sector) :
    afatfs.fatTable content' = afatfs.fatTable content := by
  funext cluster
  rw [fatTable, fatTable]
  split_ifs with isCluster
  · rw [geometry.fatValue_congr agree isCluster.2]
  · rfl

theorem Geometry.sectorsPerCluster_pos (geometry : afatfs.Geometry) : 0 < afatfs.sectorsPerCluster.toNat := by
  obtain ⟨n, -, size⟩ := geometry.size
  rw [size]
  exact Nat.two_pow_pos n

theorem Geometry.sectorsPerCluster_le (geometry : afatfs.Geometry) : afatfs.sectorsPerCluster.toNat ≤ 128 := by
  obtain ⟨n, small, size⟩ := geometry.size
  rw [size]
  exact Nat.pow_le_pow_right (by omega) small

/-- Two clusters have no sector in common. -/
theorem Geometry.inCluster_unique (geometry : afatfs.Geometry) (isCluster : afatfs.IsCluster cluster)
    (isCluster' : afatfs.IsCluster other) (inside : afatfs.InCluster cluster sector)
    (inside' : afatfs.InCluster other sector) : cluster = other := by
  have positive := geometry.sectorsPerCluster_pos
  have place : ∀ {number : Word}, afatfs.InCluster number sector →
      (sector.toNat - afatfs.clusterStartSector.toNat) / afatfs.sectorsPerCluster.toNat = number.toNat - 2 := by
    rintro number ⟨low, high⟩
    apply Nat.div_eq_of_lt_le
    · omega
    · rw [Nat.succ_mul]
      omega
  have same := (place inside).symm.trans (place inside')
  have := isCluster.1
  have := isCluster'.1
  apply BitVec.eq_of_toNat_eq
  omega

/-- The clusters lie behind the table. -/
theorem Geometry.not_inTable (geometry : afatfs.Geometry) (inside : afatfs.InCluster cluster sector) :
    ¬ afatfs.InTable sector := by
  rintro ⟨-, high⟩
  have clusters := geometry.clusters
  have low := inside.1
  have more := Nat.le_add_right afatfs.clusterStartSector.toNat ((cluster.toNat - 2) * afatfs.sectorsPerCluster.toNat)
  omega

theorem Geometry.sector_ne_zero (geometry : afatfs.Geometry) (inside : afatfs.InCluster cluster sector) : sector ≠ 0 := by
  rintro rfl
  have clusters := geometry.clusters
  have start := geometry.start
  have low := inside.1
  have more := Nat.le_add_right afatfs.clusterStartSector.toNat ((cluster.toNat - 2) * afatfs.sectorsPerCluster.toNat)
  rw [show BitVec.toNat (0 : Word) = 0 from rfl] at low
  omega

/-- The sectors of a cluster. -/
theorem Geometry.fileClusterToPhysical_toNat (geometry : afatfs.Geometry) (isCluster : afatfs.IsCluster cluster)
    (inside : offset.toNat < afatfs.sectorsPerCluster.toNat) :
    (afatfs.fileClusterToPhysical cluster offset).toNat =
      afatfs.clusterStartSector.toNat + (cluster.toNat - 2) * afatfs.sectorsPerCluster.toNat + offset.toNat := by
  have ends := geometry.ends
  have low := isCluster.1
  have high := isCluster.2
  have index : (cluster - 2).toNat = cluster.toNat - 2 := by bv_omega
  have next : (cluster.toNat - 2) * afatfs.sectorsPerCluster.toNat + afatfs.sectorsPerCluster.toNat ≤
      afatfs.numClusters.toNat * afatfs.sectorsPerCluster.toNat := by
    rw [← Nat.succ_mul]
    exact Nat.mul_le_mul_right _ (by omega)
  have product : ((cluster - 2) * afatfs.sectorsPerCluster).toNat = (cluster.toNat - 2) * afatfs.sectorsPerCluster.toNat := by
    rw [BitVec.toNat_mul, index, Nat.mod_eq_of_lt (by omega)]
  rw [fileClusterToPhysical, BitVec.toNat_add, BitVec.toNat_add, product, Nat.mod_eq_of_lt (by omega),
    Nat.mod_eq_of_lt (by omega)]

theorem Geometry.inCluster_physical (geometry : afatfs.Geometry) (isCluster : afatfs.IsCluster cluster)
    (inside : offset.toNat < afatfs.sectorsPerCluster.toNat) :
    afatfs.InCluster cluster (afatfs.fileClusterToPhysical cluster offset) := by
  have place := geometry.fileClusterToPhysical_toNat isCluster inside
  constructor <;> omega

/-! ## Offsets -/

theorem Geometry.clusterSize_toNat (geometry : afatfs.Geometry) :
    afatfs.clusterSize.toNat = 512 * afatfs.sectorsPerCluster.toNat := by
  have few := geometry.sectorsPerCluster_le
  rw [clusterSize]
  bv_omega

theorem Geometry.clusterSize_pos (geometry : afatfs.Geometry) : 0 < afatfs.clusterSize.toNat := by
  have positive := geometry.sectorsPerCluster_pos
  have size := geometry.clusterSize_toNat
  omega

theorem Geometry.byteIndexInCluster_toNat (geometry : afatfs.Geometry) (offset : Word) :
    (afatfs.byteIndexInCluster offset).toNat = offset.toNat % afatfs.clusterSize.toNat := by
  obtain ⟨n, -, size⟩ := geometry.size
  have mask : afatfs.byteInClusterMask.toNat = 2 ^ (9 + n) - 1 := by
    have mask := geometry.mask
    rw [size] at mask
    rw [pow_add]
    omega
  rw [byteIndexInCluster, BitVec.toNat_and, mask, Nat.and_comm, Nat.and_two_pow_sub_one_eq_mod,
    geometry.clusterSize_toNat, size, pow_add]
  rfl

theorem Geometry.sectorIndexInCluster_toNat (geometry : afatfs.Geometry) :
    (afatfs.sectorIndexInCluster offset).toNat = offset.toNat % afatfs.clusterSize.toNat / 512 := by
  rw [sectorIndexInCluster, BitVec.toNat_udiv, geometry.byteIndexInCluster_toNat]
  rfl

theorem Geometry.sectorIndexInCluster_lt (geometry : afatfs.Geometry) :
    (afatfs.sectorIndexInCluster offset).toNat < afatfs.sectorsPerCluster.toNat := by
  have positive := geometry.sectorsPerCluster_pos
  rw [geometry.sectorIndexInCluster_toNat, geometry.clusterSize_toNat]
  apply Nat.div_lt_of_lt_mul
  exact Nat.mod_lt _ (by omega)

end Afatfs

end ComputerSystems.Fat
