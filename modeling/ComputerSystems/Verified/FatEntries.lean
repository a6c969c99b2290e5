import ComputerSystems.Fat.FatTable
import ComputerSystems.Verified.SectorCoherence

/-! # Entries of the file allocation table

On a volume whose table has an entry for every cluster (`Afatfs.Geometry`) the functions
that read, change and search the table see it as a function from clusters to numbers,
`Volume.fatValue`: reading changes nothing, writing changes one entry, and a search ends
at the first cluster that meets its condition.
-/

namespace ComputerSystems.Fat

open ComputerSystems.Data Program

/-! ## Geometry -/

namespace Afatfs

/-- How many entries a sector of the table has. -/
def entriesPerSector (afatfs : Afatfs) : Nat := if afatfs.filesystemType = .fat16 then 256 else 128

/-- The first number that ends a chain. -/
def firstMarker (afatfs : Afatfs) : Nat := if afatfs.filesystemType = .fat16 then 0xFFF8 else 0x0FFFFFF8

/-- A volume whose table has an entry for every cluster, and whose sectors are counted in 32 bits. -/
structure Geometry (afatfs : Afatfs) : Prop where
  type : afatfs.filesystemType = .fat16 ∨ afatfs.filesystemType = .fat32
  numbers : afatfs.numClusters.toNat + 2 ≤ afatfs.firstMarker
  table : afatfs.numClusters.toNat + 2 ≤ afatfs.fatSectors.toNat * afatfs.entriesPerSector
  start : 0 < afatfs.fatStartSector.toNat
  clusters : afatfs.fatStartSector.toNat + 2 * afatfs.fatSectors.toNat + afatfs.rootDirectorySectors.toNat =
    afatfs.clusterStartSector.toNat
  size : ∃ n ≤ 7, afatfs.sectorsPerCluster.toNat = 2 ^ n
  mask : afatfs.byteInClusterMask.toNat + 1 = 512 * afatfs.sectorsPerCluster.toNat
  ends : afatfs.clusterStartSector.toNat + afatfs.numClusters.toNat * afatfs.sectorsPerCluster.toNat < 2 ^ 32

variable {afatfs later : Afatfs} {cluster other next : Word}

/-- The number of a cluster of the volume. -/
def IsCluster (afatfs : Afatfs) (cluster : Word) : Prop :=
  2 ≤ cluster.toNat ∧ cluster.toNat < afatfs.numClusters.toNat + 2

instance decidableIsCluster (afatfs : Afatfs) (cluster : Word) : Decidable (afatfs.IsCluster cluster) :=
  inferInstanceAs (Decidable (_ ∧ _))

/-- The sector of the table with the entry of the cluster. -/
def fatSector (afatfs : Afatfs) (cluster : Word) : Word :=
  afatfs.fatSectorToPhysical 0 (afatfs.fatSectorIndex cluster)

/-- The entry of the cluster. -/
def fatValue (afatfs : Afatfs) (content : Word → Sector) (cluster : Word) : Word :=
  afatfs.readFatEntry (content (afatfs.fatSector cluster)) (afatfs.fatSectorEntryIndex cluster)

/-- What is read back of an entry. -/
def storedEntry (afatfs : Afatfs) (nextCluster : Word) : Word :=
  if afatfs.filesystemType = .fat16 then nextCluster &&& 0xFFFF else fat32DecodeClusterNumber nextCluster

theorem entriesPerSector_pos (afatfs : Afatfs) : 0 < afatfs.entriesPerSector := by
  rw [entriesPerSector]
  split <;> omega

theorem entriesPerSector_le (afatfs : Afatfs) : afatfs.entriesPerSector ≤ 256 := by
  rw [entriesPerSector]
  split <;> omega

theorem decodeClusterNumber_toNat : (fat32DecodeClusterNumber cluster).toNat = cluster.toNat % 2 ^ 28 := by
  rw [fat32DecodeClusterNumber, BitVec.toNat_and]
  exact Nat.and_two_pow_sub_one_eq_mod _ 28

theorem fatSectorIndex_toNat (below : cluster.toNat < 2 ^ 28) :
    (afatfs.fatSectorIndex cluster).toNat = cluster.toNat / afatfs.entriesPerSector := by
  rw [fatSectorIndex, entriesPerSector]
  split
  · rfl
  · rw [BitVec.toNat_udiv, decodeClusterNumber_toNat, Nat.mod_eq_of_lt below]
    rfl

theorem fatSectorEntryIndex_toNat (afatfs : Afatfs) (cluster : Word) :
    (afatfs.fatSectorEntryIndex cluster).toNat = cluster.toNat % afatfs.entriesPerSector := by
  rw [fatSectorEntryIndex, entriesPerSector]
  split
  · rw [BitVec.toNat_and]
    exact Nat.and_two_pow_sub_one_eq_mod _ 8
  · rw [BitVec.toNat_and]
    exact Nat.and_two_pow_sub_one_eq_mod _ 7

theorem fatEntriesPerSector_toNat (type : afatfs.filesystemType = .fat16 ∨ afatfs.filesystemType = .fat32) :
    afatfs.fatEntriesPerSector.toNat = afatfs.entriesPerSector := by
  rw [fatEntriesPerSector, entriesPerSector]
  obtain type | type := type <;> simp [type]

theorem Geometry.numClusters_lt (geometry : afatfs.Geometry) : afatfs.numClusters.toNat + 2 ≤ 0x0FFFFFF8 := by
  have numbers := geometry.numbers
  rw [firstMarker] at numbers
  split at numbers <;> omega

/-- The table lies before the clusters. -/
theorem Geometry.fatSector_toNat (geometry : afatfs.Geometry) (below : cluster.toNat < afatfs.numClusters.toNat + 2) :
    (afatfs.fatSector cluster).toNat = afatfs.fatStartSector.toNat + cluster.toNat / afatfs.entriesPerSector ∧
      (afatfs.fatSector cluster).toNat < afatfs.fatStartSector.toNat + afatfs.fatSectors.toNat := by
  have index : (afatfs.fatSectorIndex cluster).toNat = cluster.toNat / afatfs.entriesPerSector :=
    fatSectorIndex_toNat (by have := geometry.numClusters_lt; omega)
  have inTable : cluster.toNat / afatfs.entriesPerSector < afatfs.fatSectors.toNat :=
    Nat.div_lt_of_lt_mul (by rw [Nat.mul_comm]; exact lt_of_lt_of_le below geometry.table)
  have clusters := geometry.clusters
  have ends := geometry.ends
  have sum : (afatfs.fatSector cluster).toNat =
      afatfs.fatStartSector.toNat + cluster.toNat / afatfs.entriesPerSector := by
    rw [fatSector, fatSectorToPhysical, ← index]
    rw [if_neg (by simp), BitVec.toNat_add, show afatfs.fatStartSector + 0 = afatfs.fatStartSector by simp,
      Nat.mod_eq_of_lt (by omega)]
  omega

/-- The MBR is not in the table. -/
theorem Geometry.fatSector_ne_zero (geometry : afatfs.Geometry) (below : cluster.toNat < afatfs.numClusters.toNat + 2) :
    afatfs.fatSector cluster ≠ 0 := by
  intro zero
  have place := (geometry.fatSector_toNat below).1
  rw [zero] at place
  exact absurd (Nat.eq_zero_of_add_eq_zero place.symm).1 geometry.start.ne'

/-- The sectors of the table and of the clusters are in the volume. -/
theorem Geometry.sectorInVolume {sector : Word} (geometry : afatfs.Geometry)
    (below : sector.toNat < afatfs.clusterStartSector.toNat + afatfs.numClusters.toNat * afatfs.sectorsPerCluster.toNat) :
    afatfs.sectorInVolume sector = true := by
  have ends := geometry.ends
  have product : (afatfs.numClusters * afatfs.sectorsPerCluster).toNat =
      afatfs.numClusters.toNat * afatfs.sectorsPerCluster.toNat := by
    rw [BitVec.toNat_mul, Nat.mod_eq_of_lt (by omega)]
  apply decide_eq_true
  right
  bv_omega

theorem Geometry.fatSector_inVolume (geometry : afatfs.Geometry) (below : cluster.toNat < afatfs.numClusters.toNat + 2) :
    afatfs.sectorInVolume (afatfs.fatSector cluster) = true := by
  have inTable := (geometry.fatSector_toNat below).2
  have clusters := geometry.clusters
  apply geometry.sectorInVolume
  have more := Nat.le_add_right afatfs.clusterStartSector.toNat
    (afatfs.numClusters.toNat * afatfs.sectorsPerCluster.toNat)
  omega

/-- Clusters with one entry are one. -/
theorem Geometry.cluster_eq (geometry : afatfs.Geometry) (below : cluster.toNat < afatfs.numClusters.toNat + 2)
    (below' : other.toNat < afatfs.numClusters.toNat + 2) (sector : afatfs.fatSector cluster = afatfs.fatSector other)
    (entry : afatfs.fatSectorEntryIndex cluster = afatfs.fatSectorEntryIndex other) : cluster = other := by
  have place := (geometry.fatSector_toNat below).1
  have place' := (geometry.fatSector_toNat below').1
  have index := fatSectorEntryIndex_toNat afatfs cluster
  have index' := fatSectorEntryIndex_toNat afatfs other
  rw [sector] at place
  rw [entry] at index
  apply BitVec.eq_of_toNat_eq
  rw [← Nat.div_add_mod cluster.toNat afatfs.entriesPerSector, ← Nat.div_add_mod other.toNat afatfs.entriesPerSector,
    ← index, ← index', show cluster.toNat / afatfs.entriesPerSector = other.toNat / afatfs.entriesPerSector by omega]

/-! ## Entries -/

theorem readFatEntry_write_self {sector : Sector} {index : Word} :
    afatfs.readFatEntry (afatfs.writeFatEntry sector index next) index = afatfs.storedEntry next := by
  rw [readFatEntry, writeFatEntry, storedEntry]
  split
  · rw [Memory.read16_write16_self]
    apply BitVec.eq_of_toNat_eq
    have mask : next.toNat &&& 65535 = next.toNat % 2 ^ 16 := Nat.and_two_pow_sub_one_eq_mod _ 16
    rw [BitVec.toNat_ofNat, BitVec.toNat_and, show BitVec.toNat (65535 : Word) = 65535 from rfl, mask]
    omega
  · rw [Memory.read32_write32_self next.isLt, BitVec.ofNat_toNat, BitVec.setWidth_eq]

theorem readFatEntry_write_other {sector : Sector} {index index' : Word} (different : index' ≠ index) :
    afatfs.readFatEntry (afatfs.writeFatEntry sector index next) index' = afatfs.readFatEntry sector index' := by
  have apart : index'.toNat ≠ index.toNat := fun same => different (BitVec.eq_of_toNat_eq same)
  rw [readFatEntry, writeFatEntry, readFatEntry]
  split
  · rw [Memory.read16_write16_of_disjoint (by omega)]
  · rw [Memory.read32_write32_of_disjoint (by omega)]

/-- The content after an entry was written. -/
def setFatEntry (afatfs : Afatfs) (content : Word → Sector) (cluster nextCluster : Word) : Word → Sector :=
  Function.update content (afatfs.fatSector cluster)
    (afatfs.writeFatEntry (content (afatfs.fatSector cluster)) (afatfs.fatSectorEntryIndex cluster) nextCluster)

/-- Writing an entry changes that entry and no other. -/
theorem Geometry.fatValue_setFatEntry (geometry : afatfs.Geometry) (content : Word → Sector)
    (below : cluster.toNat < afatfs.numClusters.toNat + 2) (below' : other.toNat < afatfs.numClusters.toNat + 2) :
    afatfs.fatValue (afatfs.setFatEntry content cluster next) other =
      if other = cluster then afatfs.storedEntry next else afatfs.fatValue content other := by
  rw [fatValue, setFatEntry]
  split_ifs with same
  · subst same
    rw [Function.update_self, readFatEntry_write_self]
  · by_cases sector : afatfs.fatSector other = afatfs.fatSector cluster
    · rw [sector, Function.update_self, readFatEntry_write_other, fatValue, sector]
      exact fun entry => same (geometry.cluster_eq below' below sector entry)
    · rw [Function.update_of_ne sector, fatValue]

end Afatfs

variable {volume : Volume} {cluster next : Word}

/-! ## A small volume -/

/-- The file that is open on the small volume. -/
def smallFile : FileRef := .openFile ⟨0, Nat.succ_pos 2⟩

/-- The table of the small volume: the clusters 2 and 4 end chains. -/
def smallTable : Sector := fun cell => if cell < 6 ∨ 8 ≤ cell ∧ cell < 10 then 0xFF else 0

/-- The directory of the small volume: one entry, of a file in cluster 2 with 512 bytes. -/
def smallDirectory : Sector := fun cell =>
  if cell = 0 then 65 else if 1 ≤ cell ∧ cell < 11 then 32 else if cell = 11 then 0x20
  else if cell = 26 ∨ cell = 29 then 2 else 0

def smallDescriptors : List CacheBlockDescriptor :=
  [{ sectorIndex := 3, state := .dirty, locked := true }, { sectorIndex := 5, state := .inSync },
    { sectorIndex := 1, state := .inSync }]

/-- A volume with four clusters of one sector.  One file is open for writing, in cluster 2; its directory is
    in cluster 4. -/
def smallVolume : Volume where
  afatfs := { Afatfs.zeroed with
    cache := fun slot => if slot.val = 2 then smallTable else if slot.val = 1 then smallDirectory else fun _ => 0
    cacheDescriptor := fun slot => smallDescriptors.getD slot.val {}
    cacheDirtyEntries := 1
    filesystemType := .fat16
    filesystemState := .ready
    files := fun file =>
      if file = smallFile then
        { type := .normal, logicalSize := 512, physicalSize := 512, cursorCluster := 2, firstCluster := 2
          mode := { read := true, write := true }, writeLockedCacheIndex := some firstSlot
          directoryEntryPos := { sectorNumberPhysical := 5 } }
      else if file = .currentDirectory then
        { type := .directory, attrib := 0x10, firstCluster := 4, cursorCluster := 4 }
      else {}
    fatStartSector := 1
    fatSectors := 1
    numClusters := 4
    clusterStartSector := 3
    sectorsPerCluster := 1
    lastClusterAllocated := 2
    byteInClusterMask := 511 }
  store := fun sector => if sector = 1 then smallTable else if sector = 5 then smallDirectory else fun _ => 0
  flight := none

theorem coherent_small : smallVolume.Coherent := by
  refine ⟨⟨?_, ?_, ?_, ?_, by rintro _ ⟨⟩, by rintro _ ⟨⟩⟩, ?_, rfl⟩
  · decide
  · intro slot clean
    have two : slot = ⟨1, by decide⟩ ∨ slot = ⟨2, by decide⟩ := by
      revert slot
      decide
    rcases two with rfl | rfl
    · rfl
    · rfl
  · decide
  · decide
  · decide

theorem geometry_small : smallVolume.afatfs.Geometry :=
  ⟨.inl rfl, by decide, by decide, by decide, by decide, ⟨0, by decide, by decide⟩, by decide, by decide⟩

/-! ## Reading and writing -/

/-- The entry of the cluster as the cache and the card hold it. -/
noncomputable def Volume.fatValue (volume : Volume) (cluster : Word) : Word :=
  volume.afatfs.fatValue volume.content cluster

/-- The rule of `afatfs_FATGetNextCluster`. -/
theorem wp_fatGetNextCluster (coherent : volume.Coherent) :
    Wp (fatGetNextCluster 0 cluster) (fun result later => Turns volume volume.content later ∧
      (result = (.success, some (volume.fatValue cluster)) ∨ result = (.inProgress, none))) volume := by
  rw [fatGetNextCluster, wp_get_bind]
  apply Wp.bind
  apply (wp_cacheSector coherent.sound).mono
  rintro ⟨status, sector⟩ later opened
  have turns := opened.turns coherent rfl rfl rfl
  cases status with
  | success =>
    obtain ⟨slot, isSlot, holds, -⟩ := opened.hit rfl
    obtain rfl : sector = some slot := isSlot
    dsimp only
    rw [wp_get_bind, wp_pure]
    refine ⟨turns, .inl ?_⟩
    have memory := turns.coherent.content_of_holds (holds (.inl rfl))
    rw [turns.content] at memory
    rw [← memory]
    have same := turns.same (fun afatfs => afatfs.readFatEntry (volume.content (volume.afatfs.fatSector cluster))
      (afatfs.fatSectorEntryIndex cluster)) fun _ => rfl
    exact congrArg (fun value => (OperationStatus.success, some value)) same
  | inProgress =>
    obtain rfl : sector = none := opened.missed (by simp)
    exact (wp_pure _).mpr ⟨turns, .inr rfl⟩
  | failure =>
    obtain ⟨writes, -⟩ := opened.failure.mp rfl
    cases writes

/-- The rule of `afatfs_FATSetNextCluster`: it does not wait if the sector of the entry is in the cache. -/
theorem wp_fatSetNextCluster (coherent : volume.Coherent) (geometry : volume.afatfs.Geometry)
    (isCluster : volume.afatfs.IsCluster cluster) :
    Wp (fatSetNextCluster cluster next) (fun status later =>
      status = .success ∧ Turns volume (volume.afatfs.setFatEntry volume.content cluster next) later ∨
        status = .inProgress ∧ Turns volume volume.content later ∧
          ∀ slot, ¬ volume.writeBack.Holds slot (volume.afatfs.fatSector cluster)) volume := by
  have inVolume := geometry.fatSector_inVolume isCluster.2
  have notZero := geometry.fatSector_ne_zero isCluster.2
  have held : ∀ slot, volume.writeBack.Holds slot (volume.afatfs.fatSector cluster) →
      Wp (cacheSector (volume.afatfs.fatSector cluster) { read := true, write := true })
        (fun result _ => result = (.success, some slot)) volume := fun slot holds =>
    wp_cacheSector_held coherent.sound holds inVolume fun illegal => notZero illegal.2
  rw [fatSetNextCluster]
  apply Wp.bind
  apply wp_afatfsAssert
  · intro _
    simp only [Bool.not_true, Bool.false_eq_true, if_false]
    rw [wp_get_bind]
    -- a sector that is in the cache is found there and not waited for
    have opens : Wp (cacheSector (volume.afatfs.fatSector cluster) { read := true, write := true })
        (fun result later => Opened (volume.afatfs.fatSector cluster) { read := true, write := true } volume result later ∧
          ∀ slot, volume.writeBack.Holds slot (volume.afatfs.fatSector cluster) → result = (.success, some slot)) volume := by
      by_cases inCache : ∃ slot, volume.writeBack.Holds slot (volume.afatfs.fatSector cluster)
      · obtain ⟨slot, holds⟩ := inCache
        apply ((wp_cacheSector coherent.sound).and (held slot holds)).mono
        rintro result later ⟨opened, hit⟩
        refine ⟨opened, fun other holds' => ?_⟩
        obtain rfl := coherent.sound.unique holds.2.used holds'.2.used (holds.1.trans holds'.1.symm)
        exact hit
      · apply (wp_cacheSector coherent.sound).mono
        intro result later opened
        exact ⟨opened, fun slot holds => absurd ⟨slot, holds⟩ inCache⟩
    apply Wp.bind
    apply opens.mono
    rintro ⟨status, sector⟩ later ⟨opened, hit⟩
    have turns := opened.turns coherent rfl rfl rfl
    cases status with
    | success =>
      obtain ⟨slot, isSlot, holds, dirty, -⟩ := opened.hit rfl
      obtain rfl : sector = some slot := isSlot
      have holds := holds (.inl rfl)
      have memory := turns.coherent.content_of_holds holds
      rw [turns.content] at memory
      dsimp only
      rw [wp_modify_bind, wp_pure]
      refine .inl ⟨rfl, ?_⟩
      rw [← memory]
      have same := turns.same (fun afatfs => afatfs.writeFatEntry (volume.content (volume.afatfs.fatSector cluster))
        (afatfs.fatSectorEntryIndex cluster) next) fun _ => rfl
      rw [Afatfs.setFatEntry, ← same]
      exact turns.change holds (dirty rfl)
    | inProgress =>
      obtain rfl : sector = none := opened.missed (by simp)
      refine (wp_pure _).mpr (.inr ⟨rfl, turns, ?_⟩)
      intro slot holds
      cases hit slot holds
    | failure =>
      obtain ⟨-, zero⟩ := opened.failure.mp rfl
      exact absurd zero notZero
  · intro fails
    have small := of_decide_eq_false fails
    rw [smallestLegalClusterNumber, BitVec.not_le] at small
    have below : cluster.toNat < 2 := small
    have legal := isCluster.1
    omega

/-- An entry that was set is read back as the number that was set, and no other entry has changed, also not the
    one that shares a sector with it. -/
theorem entry_is_set {later : Volume} {draws rest : List CardAnswer} {other : Word} (coherent : volume.Coherent)
    (geometry : volume.afatfs.Geometry) (isCluster : volume.afatfs.IsCluster cluster)
    (below : other.toNat < volume.afatfs.numClusters.toNat + 2)
    (ran : fatSetNextCluster cluster next (volume, draws) = .ok (.success, later, rest)) :
    later.fatValue other = if other = cluster then volume.afatfs.storedEntry next else volume.fatValue other := by
  rcases (wp_fatSetNextCluster coherent geometry isCluster).wlp.returns ran with ⟨-, turns⟩ | ⟨waits, -⟩
  · have same : later.afatfs.fatValue later.content other = volume.afatfs.fatValue later.content other :=
      turns.same (fun afatfs => afatfs.fatValue later.content other) fun _ => rfl
    rw [Volume.fatValue, same, turns.content]
    exact geometry.fatValue_setFatEntry _ isCluster.2 below
  · cases waits

theorem entry_is_set_small :
    ∃ later rest, fatSetNextCluster 3 4 (smallVolume, []) = .ok (.success, later, rest) ∧
      later.fatValue 3 = 4 ∧ later.fatValue 2 = smallVolume.fatValue 2 := by
  obtain ⟨later, rest, ran⟩ : ∃ later rest,
      fatSetNextCluster 3 4 (smallVolume, []) = .ok (.success, later, rest) := ⟨_, _, rfl⟩
  have sets {other : Word} (below : other.toNat < 6) :=
    entry_is_set coherent_small geometry_small ⟨by decide, by decide⟩ below ran
  exact ⟨later, rest, ran, sets (by decide), sets (by decide)⟩

/-! ## Searching -/

/-- None of the clusters from `first` up to `last` meets the condition. -/
def Skipped (value : Word → Word) (lookingForFree : Bool) (first last : Word) : Prop :=
  ∀ cluster, first ≤ cluster → cluster < last → fatIsFreeSpace (value cluster) ≠ lookingForFree

section Search

variable {value entry : Word → Word} {lookingForFree : Bool} {first mid last index entriesPerSector searchLimit : Word}

theorem Skipped.trans (before : Skipped value lookingForFree first mid) (after : Skipped value lookingForFree mid last) :
    Skipped value lookingForFree first last := by
  intro cluster behind below
  by_cases reached : cluster < mid
  · exact before cluster behind reached
  · exact after cluster (BitVec.not_lt.mp reached) below

theorem Skipped.mono {earlier : Word} (skipped : Skipped value lookingForFree first last) (before : earlier ≤ last) :
    Skipped value lookingForFree first earlier :=
  fun cluster behind below => skipped cluster behind (by bv_omega)

/-- A cluster that does not meet the condition is skipped. -/
theorem Skipped.one (misses : fatIsFreeSpace (value first) ≠ lookingForFree) :
    Skipped value lookingForFree first (first + 1) := by
  intro cluster behind below
  obtain rfl : cluster = first := by bv_omega
  exact misses

/-- What a search has found. -/
structure Finds (value : Word → Word) (lookingForFree : Bool) (searchLimit first : Word)
    (result : FindClusterStatus × Word) : Prop where
  behind : first ≤ result.2
  inside : result.2 ≤ searchLimit
  skipped : Skipped value lookingForFree first result.2
  ends : match result.1 with
    | .found => result.2 < searchLimit ∧ fatIsFreeSpace (value result.2) = lookingForFree
    | .notFound => result.2 = searchLimit
    | .inProgress => True
    | .fatal => False

/-- The search goes on behind what it has skipped. -/
theorem Finds.after {result : FindClusterStatus × Word} (skipped : Skipped value lookingForFree first mid)
    (before : first ≤ mid) (finds : Finds value lookingForFree searchLimit mid result) :
    Finds value lookingForFree searchLimit first result :=
  ⟨BitVec.le_trans before finds.behind, finds.inside, skipped.trans finds.skipped, finds.ends⟩

/-- The loop over the entries of a sector, from the entry of `mid` on. -/
theorem searchSector_spec (entry : Word → Word) (index entriesPerSector : Word) (left : Nat)
    (skipped : Skipped value lookingForFree first mid) (behind : first ≤ mid)
    (limit : first < searchLimit) (inSector : index < entriesPerSector)
    (enough : entriesPerSector.toNat ≤ index.toNat + left) (room : mid.toNat + entriesPerSector.toNat < 2 ^ 32 + index.toNat)
    (agree : ∀ offset, index.toNat + offset.toNat < entriesPerSector.toNat → entry (index + offset) = value (mid + offset)) :
    match searchSector entry lookingForFree 1 entriesPerSector searchLimit left mid index with
    | .again next => next.toNat + index.toNat = mid.toNat + entriesPerSector.toNat ∧
        Skipped value lookingForFree first next
    | .leave result => Finds value lookingForFree searchLimit first result ∧
        (result.1 = .found → mid ≤ result.2 ∧ result.2.toNat + index.toNat < mid.toNat + entriesPerSector.toNat) := by
  induction left generalizing mid index with
  | zero => bv_omega
  | succ left ih =>
    have here : entry index = value mid := by simpa using agree 0 (by bv_omega)
    rw [searchSector, here]
    split_ifs with meets inside more
    · exact ⟨⟨behind, BitVec.le_of_lt inside, skipped, inside, meets⟩, fun _ => ⟨BitVec.le_refl mid, by bv_omega⟩⟩
    · exact ⟨⟨BitVec.le_of_lt limit, BitVec.le_refl _, skipped.mono (BitVec.not_lt.mp inside), rfl⟩, nofun⟩
    · have next := ih _ (skipped.trans (.one meets)) (by bv_omega) more (by bv_omega) (by bv_omega) ?_
      · revert next
        split
        · intro next
          exact ⟨by bv_omega, next.2⟩
        · intro next
          exact ⟨next.1, fun found => ⟨by have := next.2 found; bv_omega, by have := next.2 found; bv_omega⟩⟩
      · intro offset below
        have moved := agree (1 + offset) (by bv_omega)
        rwa [← BitVec.add_assoc, ← BitVec.add_assoc] at moved
    · exact ⟨by bv_omega, skipped.trans (.one meets)⟩

end Search

namespace Afatfs.Geometry

variable {afatfs : Afatfs}

/-- The entries that follow in the sector belong to the clusters that follow. -/
theorem fatSector_add (geometry : afatfs.Geometry) (below : cluster.toNat < afatfs.numClusters.toNat + 2)
    (offset : Word) (inSector : (afatfs.fatSectorEntryIndex cluster).toNat + offset.toNat < afatfs.entriesPerSector) :
    afatfs.fatSector (cluster + offset) = afatfs.fatSector cluster ∧
      afatfs.fatSectorEntryIndex (cluster + offset) = afatfs.fatSectorEntryIndex cluster + offset := by
  have few := geometry.numClusters_lt
  rw [fatSectorEntryIndex_toNat] at inSector
  have sum : (cluster + offset).toNat = cluster.toNat + offset.toNat ∧ cluster.toNat + offset.toNat < 2 ^ 28 ∧
      (cluster.toNat + offset.toNat) / afatfs.entriesPerSector = cluster.toNat / afatfs.entriesPerSector ∧
      (cluster.toNat + offset.toNat) % afatfs.entriesPerSector = cluster.toNat % afatfs.entriesPerSector + offset.toNat := by
    rw [entriesPerSector] at inSector ⊢
    split at inSector
    · simp only [*, if_true]
      bv_omega
    · simp only [*, if_false]
      bv_omega
  constructor
  · rw [fatSector, fatSector]
    congr 1
    apply BitVec.eq_of_toNat_eq
    rw [fatSectorIndex_toNat (by omega), fatSectorIndex_toNat (by omega), sum.1, sum.2.2.1]
  · apply BitVec.eq_of_toNat_eq
    have few := entriesPerSector_le afatfs
    rw [BitVec.toNat_add, fatSectorEntryIndex_toNat, fatSectorEntryIndex_toNat, sum.1, sum.2.2.2]
    exact (Nat.mod_eq_of_lt (by omega)).symm

/-- The cluster behind the last one of a sector has the first entry of the next one. -/
theorem next_sector (geometry : afatfs.Geometry) (below : cluster.toNat < afatfs.numClusters.toNat + 2)
    (below' : next.toNat < afatfs.numClusters.toNat + 2)
    (behind : next.toNat + (afatfs.fatSectorEntryIndex cluster).toNat = cluster.toNat + afatfs.entriesPerSector) :
    afatfs.fatSectorIndex cluster + 1 = afatfs.fatSectorIndex next ∧ afatfs.fatSectorEntryIndex next = 0 := by
  have few := geometry.numClusters_lt
  rw [fatSectorEntryIndex_toNat] at behind
  have follows : next.toNat / afatfs.entriesPerSector = cluster.toNat / afatfs.entriesPerSector + 1 ∧
      next.toNat % afatfs.entriesPerSector = 0 ∧ cluster.toNat / afatfs.entriesPerSector < 2 ^ 28 := by
    rw [entriesPerSector] at behind ⊢
    split at behind
    · simp only [*, if_true]
      omega
    · simp only [*, if_false]
      omega
  constructor
  · apply BitVec.eq_of_toNat_eq
    have one : BitVec.toNat (1 : Word) = 1 := rfl
    rw [BitVec.toNat_add, fatSectorIndex_toNat (by omega), fatSectorIndex_toNat (by omega), follows.1, one]
    exact Nat.mod_eq_of_lt (by omega)
  · apply BitVec.eq_of_toNat_eq
    rw [fatSectorEntryIndex_toNat, follows.2.1]
    rfl

end Afatfs.Geometry

section Search

variable {lookingForFree : Bool} {searchLimit : Word}

/-- The invariant of the loop over the sectors of the table. -/
structure Searching (volume : Volume) (lookingForFree : Bool) (cluster : Word) (search : ClusterSearch) (now : Volume) :
    Prop where
  turns : Turns volume volume.content now
  skipped : Skipped volume.fatValue lookingForFree cluster search.cluster
  behind : cluster ≤ search.cluster
  place : search.cluster.toNat < volume.afatfs.numClusters.toNat + 2 →
    search.fatSectorIndex = volume.afatfs.fatSectorIndex search.cluster ∧
      search.fatSectorEntryIndex = volume.afatfs.fatSectorEntryIndex search.cluster

theorem wp_searchPass {search : ClusterSearch} {now : Volume} (geometry : volume.afatfs.Geometry)
    (inVolume : searchLimit.toNat ≤ volume.afatfs.numClusters.toNat + 2) (first : cluster ≤ searchLimit)
    (searching : Searching volume lookingForFree cluster search now) :
    Wp (searchPass lookingForFree 1 searchLimit search) (fun done later => done.Meets
      (fun next => Searching volume lookingForFree cluster next later ∧
        searchLimit.toNat - next.cluster.toNat < searchLimit.toNat - search.cluster.toNat)
      fun result => Turns volume volume.content later ∧
        Finds volume.fatValue lookingForFree searchLimit cluster result ∧
        (result.1 = .found → ∃ slot, later.writeBack.Holds slot (volume.afatfs.fatSector result.2))) now := by
  obtain ⟨turns, skipped, behind, place⟩ := searching
  rw [searchPass]
  split_ifs with inside
  · have below : search.cluster.toNat < volume.afatfs.numClusters.toNat + 2 := by bv_omega
    obtain ⟨sectorIndex, entryIndex⟩ := place below
    rw [wp_get_bind]
    apply Wp.bind
    apply (wp_cacheSector turns.coherent.sound).mono
    rintro ⟨status, sector⟩ later opened
    have after := turns.trans (turns.content ▸ opened.turns turns.coherent rfl rfl rfl)
    have asks : now.afatfs.fatSectorToPhysical 0 search.fatSectorIndex = volume.afatfs.fatSector search.cluster := by
      rw [sectorIndex]
      exact turns.same (fun afatfs => afatfs.fatSectorToPhysical 0 (volume.afatfs.fatSectorIndex search.cluster)) fun _ => rfl
    cases status with
    | success =>
      obtain ⟨slot, isSlot, holds, -⟩ := opened.hit rfl
      obtain rfl : sector = some slot := isSlot
      have holds := holds (.inl rfl)
      rw [asks] at holds
      have memory := after.coherent.content_of_holds holds
      rw [after.content] at memory
      have type := after.same (·.filesystemType) fun _ => rfl
      have entries := after.same (·.fatEntriesPerSector) fun _ => rfl
      have count := Afatfs.fatEntriesPerSector_toNat geometry.type
      have reads := after.same (fun afatfs => afatfs.readFatEntry (volume.content (volume.afatfs.fatSector search.cluster)))
        fun _ => rfl
      have index := Afatfs.fatSectorEntryIndex_toNat volume.afatfs search.cluster
      have inSector := Nat.mod_lt search.cluster.toNat (Afatfs.entriesPerSector_pos volume.afatfs)
      have few := geometry.numClusters_lt
      have size := Afatfs.entriesPerSector_le volume.afatfs
      dsimp only
      rw [wp_get_bind]
      simp only [type, geometry.type, if_true]
      rw [entries, ← memory, entryIndex, funext (congrFun reads)]
      have inLimit : cluster < searchLimit := by bv_omega
      -- within the sector the search is the pure loop over its entries
      have spec := searchSector_spec
        (fun i => volume.afatfs.readFatEntry (volume.content (volume.afatfs.fatSector search.cluster)) i)
        (volume.afatfs.fatSectorEntryIndex search.cluster) volume.afatfs.fatEntriesPerSector
        volume.afatfs.fatEntriesPerSector.toNat skipped behind inLimit (by bv_omega) (by bv_omega) (by bv_omega) ?_
      · generalize searchSector
            (fun i => volume.afatfs.readFatEntry (volume.content (volume.afatfs.fatSector search.cluster)) i) lookingForFree 1
            volume.afatfs.fatEntriesPerSector searchLimit volume.afatfs.fatEntriesPerSector.toNat search.cluster
            (volume.afatfs.fatSectorEntryIndex search.cluster) = outcome at spec ⊢
        -- the sector has been passed, or the search is over in it
        cases outcome with
        | again next =>
          obtain ⟨reached, passed⟩ := spec
          have further : search.cluster < next := by bv_omega
          refine (wp_pure _).mpr ⟨⟨after, passed, BitVec.le_trans behind (BitVec.le_of_lt further), ?_⟩, ?_⟩
          swap
          · change searchLimit.toNat - next.toNat < searchLimit.toNat - search.cluster.toNat
            bv_omega
          intro below'
          change next.toNat < _ at below'
          obtain ⟨follows, begins⟩ := geometry.next_sector below below' (by omega)
          rw [sectorIndex]
          exact ⟨follows, begins.symm⟩
        | leave result =>
          obtain ⟨finds, found⟩ := spec
          refine (wp_pure _).mpr ⟨after, finds, ?_⟩
          intro isFound
          obtain ⟨later, within⟩ := found isFound
          have same := (geometry.fatSector_add below (result.2 - search.cluster) (by bv_omega)).1
          rw [BitVec.add_comm, BitVec.sub_add_cancel] at same
          exact ⟨slot, same ▸ holds⟩
      · intro offset below'
        obtain ⟨same, next⟩ := geometry.fatSector_add below offset (by omega)
        rw [Volume.fatValue, Afatfs.fatValue, same, next]
    | inProgress =>
      obtain rfl : sector = none := opened.missed (by simp)
      refine (wp_pure _).mpr ⟨after, ⟨behind, by bv_omega, skipped, trivial⟩, nofun⟩
    | failure =>
      obtain ⟨writes, -⟩ := opened.failure.mp rfl
      cases writes
  · exact (wp_pure _).mpr ⟨turns, ⟨first, BitVec.le_refl _, skipped.mono (by bv_omega), rfl⟩, nofun⟩

/-- The rule of `afatfs_findClusterWithCondition` when it looks at every cluster. -/
theorem wp_findClusterWithCondition {condition : ClusterSearchCondition}
    (all : condition ≠ .freeAtBeginningOfFatSector) (coherent : volume.Coherent) (geometry : volume.afatfs.Geometry)
    (inVolume : searchLimit.toNat ≤ volume.afatfs.numClusters.toNat + 2) (first : cluster ≤ searchLimit) :
    Wp (findClusterWithCondition condition cluster searchLimit) (fun result later =>
      Turns volume volume.content later ∧
        Finds volume.fatValue (condition = .free) searchLimit cluster result ∧
        (result.1 = .found → ∃ slot, later.writeBack.Holds slot (volume.afatfs.fatSector result.2))) volume := by
  have searches : ∀ lookingForFree, Wp (repeated (searchPass lookingForFree 1 searchLimit) (searchLimit.toNat + 1)
      { cluster, fatSectorIndex := volume.afatfs.fatSectorIndex cluster
        fatSectorEntryIndex := volume.afatfs.fatSectorEntryIndex cluster }) (fun result later =>
      Turns volume volume.content later ∧ Finds volume.fatValue lookingForFree searchLimit cluster result ∧
        (result.1 = .found → ∃ slot, later.writeBack.Holds slot (volume.afatfs.fatSector result.2))) volume := by
    intro lookingForFree
    apply Wp.repeated (Searching volume lookingForFree cluster) (fun search => searchLimit.toNat - search.cluster.toNat)
      (fun search now searching => wp_searchPass geometry inVolume first searching)
    · refine ⟨.refl coherent, ?_, BitVec.le_refl _, fun _ => ⟨rfl, rfl⟩⟩
      intro other behind below
      bv_omega
    · omega
  rw [findClusterWithCondition, wp_get_bind]
  cases condition with
  | freeAtBeginningOfFatSector => exact absurd rfl all
  | free => exact searches true
  | occupied => exact searches false

/-- A search for a free cluster finds the first one from where it begins, and that there is none only if there
    is none, however the clusters lie in the sectors of the table; it fails in no other way. -/
theorem search_finds_first {later : Volume} {draws rest : List CardAnswer} {status : FindClusterStatus} {found : Word}
    (coherent : volume.Coherent) (geometry : volume.afatfs.Geometry)
    (inVolume : searchLimit.toNat ≤ volume.afatfs.numClusters.toNat + 2) (first : cluster ≤ searchLimit)
    (ran : findClusterWithCondition .free cluster searchLimit (volume, draws) = .ok ((status, found), later, rest)) :
    status ≠ .fatal ∧ later.content = volume.content ∧
      (status = .found → cluster ≤ found ∧ found < searchLimit ∧ volume.fatValue found = 0 ∧
        ∀ other, cluster ≤ other → other < found → volume.fatValue other ≠ 0) ∧
      (status = .notFound → ∀ other, cluster ≤ other → other < searchLimit → volume.fatValue other ≠ 0) := by
  obtain ⟨turns, ⟨behind, -, skipped, ends⟩, -⟩ :=
    (wp_findClusterWithCondition (by decide) coherent geometry inVolume first).wlp.returns ran
  have misses : ∀ other, cluster ≤ other → other < found → volume.fatValue other ≠ 0 := by
    intro other notBefore notBehind free
    exact skipped other notBefore notBehind (by simp [fatIsFreeSpace, free])
  refine ⟨?_, turns.content, ?_, ?_⟩
  · rintro rfl
    exact ends
  · rintro rfl
    obtain ⟨below, free⟩ := ends
    exact ⟨behind, below, by simpa [fatIsFreeSpace] using free, misses⟩
  · rintro rfl
    obtain rfl : found = searchLimit := ends
    exact misses

end Search

theorem search_finds_first_small :
    ∃ later rest, findClusterWithCondition .free 2 6 (smallVolume, []) = .ok ((.found, 3), later, rest) ∧
      smallVolume.fatValue 3 = 0 ∧ smallVolume.fatValue 2 ≠ 0 := by
  obtain ⟨later, rest, ran⟩ : ∃ later rest,
      findClusterWithCondition .free 2 6 (smallVolume, []) = .ok ((.found, 3), later, rest) := ⟨_, _, rfl⟩
  obtain ⟨-, -, found, -⟩ := search_finds_first coherent_small geometry_small (by decide) (by decide) ran
  obtain ⟨-, -, free, misses⟩ := found rfl
  exact ⟨later, rest, ran, free, misses 2 (by decide) (by decide)⟩

end ComputerSystems.Fat
