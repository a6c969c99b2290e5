import ComputerSystems.Data.ProgramLoop
import ComputerSystems.Fat.SectorCache

/-! # The file allocation table

The functions of `fat_standard.c` on entries of the table, and those of `asyncfatfs.c`
that find the sector of an entry, read it, change it and search the table.
-/

namespace ComputerSystems.Fat

open ComputerSystems.Data Program

/-! ## Entries -/

/-- `fat16_isEndOfChainMarker`: the argument is passed as a `uint16_t`. -/
def fat16IsEndOfChainMarker (clusterNumber : Word) : Bool := 0xFFF8 ≤ clusterNumber.setWidth 16

/-- `fat32_isEndOfChainMarker`. -/
def fat32IsEndOfChainMarker (clusterNumber : Word) : Bool := 0x0FFFFFF8 ≤ clusterNumber

/-- `fat32_decodeClusterNumber`: the upper 4 bits do not belong to the number. -/
def fat32DecodeClusterNumber (clusterNumber : Word) : Word := clusterNumber &&& 0x0FFFFFFF

/-- `fat_isFreeSpace`. -/
def fatIsFreeSpace (clusterNumber : Word) : Bool := clusterNumber = 0

namespace Afatfs

/-- `afatfs_fatEntriesPerSector`. -/
def fatEntriesPerSector (afatfs : Afatfs) : Word := if afatfs.filesystemType = .fat32 then 128 else 256

/-- `afatfs_clusterSize`. -/
def clusterSize (afatfs : Afatfs) : Word := afatfs.sectorsPerCluster * 512

/-- `afatfs_byteIndexInCluster`. -/
def byteIndexInCluster (byteOffset : Word) (afatfs : Afatfs) : Word := afatfs.byteInClusterMask &&& byteOffset

/-- `afatfs_sectorIndexInCluster`. -/
def sectorIndexInCluster (byteOffset : Word) (afatfs : Afatfs) : Word :=
  afatfs.byteIndexInCluster byteOffset / 512

/-- `afatfs_fatSectorToPhysical`. -/
def fatSectorToPhysical (fatIndex : Nat) (fatSectorIndex : Word) (afatfs : Afatfs) : Word :=
  afatfs.fatStartSector + (if fatIndex ≠ 0 then afatfs.fatSectors else 0) + fatSectorIndex

/-- `afatfs_fileClusterToPhysical`. -/
def fileClusterToPhysical (clusterNumber sectorIndex : Word) (afatfs : Afatfs) : Word :=
  afatfs.clusterStartSector + (clusterNumber - 2) * afatfs.sectorsPerCluster + sectorIndex

/-- `*fatSectorIndex` of `afatfs_getFATPositionForCluster`. -/
def fatSectorIndex (cluster : Word) (afatfs : Afatfs) : Word :=
  if afatfs.filesystemType = .fat16 then cluster / 256 else fat32DecodeClusterNumber cluster / 128

/-- `*fatSectorEntryIndex` of `afatfs_getFATPositionForCluster`. -/
def fatSectorEntryIndex (cluster : Word) (afatfs : Afatfs) : Word :=
  if afatfs.filesystemType = .fat16 then cluster &&& 255 else cluster &&& 127

/-- `afatfs_FATIsEndOfChainMarker`. -/
def fatIsEndOfChainMarker (clusterNumber : Word) (afatfs : Afatfs) : Bool :=
  if afatfs.filesystemType = .fat32 then fat32IsEndOfChainMarker clusterNumber
  else fat16IsEndOfChainMarker clusterNumber

/-- An entry of a sector of the table, `sector.fat16[index]` or the number in `sector.fat32[index]`. -/
def readFatEntry (sector : Sector) (index : Word) (afatfs : Afatfs) : Word :=
  if afatfs.filesystemType = .fat16 then BitVec.ofNat 32 (sector.read16 (2 * index.toNat))
  else fat32DecodeClusterNumber (BitVec.ofNat 32 (sector.read32 (4 * index.toNat)))

/-- The sector after `sector.fat16[index] = nextCluster` or `sector.fat32[index] = nextCluster`. -/
def writeFatEntry (sector : Sector) (index nextCluster : Word) (afatfs : Afatfs) : Sector :=
  if afatfs.filesystemType = .fat16 then sector.write16 (2 * index.toNat) nextCluster.toNat
  else sector.write32 (4 * index.toNat) nextCluster.toNat

end Afatfs

/-! ## Reading and writing them -/

/-- `afatfs_FATGetNextCluster`: the status and `*nextCluster`. -/
def fatGetNextCluster (fatIndex : Nat) (cluster : Word) : Fs (OperationStatus × Option Word) := do
  let afatfs ← get
  let (result, sector) ← cacheSector (afatfs.fatSectorToPhysical fatIndex (afatfs.fatSectorIndex cluster))
    { read := true }
  match sector with
  | some slot =>
    let afatfs ← get
    pure (result, some (afatfs.readFatEntry (afatfs.cache slot) (afatfs.fatSectorEntryIndex cluster)))
  | none => pure (result, none)

/-- `afatfs_FATSetNextCluster`. -/
def fatSetNextCluster (startCluster nextCluster : Word) : Fs OperationStatus := do
  if !(← afatfsAssert (smallestLegalClusterNumber ≤ startCluster)) then pure .failure
  else
    let afatfs ← get
    let (result, sector) ← cacheSector (afatfs.fatSectorToPhysical 0 (afatfs.fatSectorIndex startCluster))
      { read := true, write := true }
    match sector with
    | some slot =>
      modify fun afatfs => afatfs.setMemory slot
        (afatfs.writeFatEntry (afatfs.cache slot) (afatfs.fatSectorEntryIndex startCluster) nextCluster)
      pure result
    | none => pure result

/-! ## Searching -/

/-- `afatfsClusterSearchCondition_e`. -/
inductive ClusterSearchCondition where
  | freeAtBeginningOfFatSector
  | free
  | occupied
deriving DecidableEq, Repr

/-- `afatfsFindClusterStatus_e`. -/
inductive FindClusterStatus where
  | inProgress
  | found
  | fatal
  | notFound
deriving DecidableEq, Repr

/-- The variables of the loop of `afatfs_findClusterWithCondition`. -/
structure ClusterSearch where
  cluster : Word
  fatSectorIndex : Word
  fatSectorEntryIndex : Word

/-- The loop over the entries of a sector of the table, of which `left` are left.  It ends the search, or
    goes on with the next sector. -/
def searchSector (entry : Word → Word) (lookingForFree : Bool) (jump entriesPerSector searchLimit : Word) :
    Nat → Word → Word → Pass Word (FindClusterStatus × Word)
  | 0, cluster, _ => .again cluster
  | left + 1, cluster, fatSectorEntryIndex =>
    if fatIsFreeSpace (entry fatSectorEntryIndex) = lookingForFree then
      -- the last sector may have entries that are of no cluster
      .leave (if cluster < searchLimit then (.found, cluster) else (.notFound, searchLimit))
    else if fatSectorEntryIndex + jump < entriesPerSector then
      searchSector entry lookingForFree jump entriesPerSector searchLimit left (cluster + jump)
        (fatSectorEntryIndex + jump)
    else .again (cluster + jump)

/-- A pass through the loop over the sectors of the table. -/
def searchPass (lookingForFree : Bool) (jump searchLimit : Word) (search : ClusterSearch) :
    Fs (Pass ClusterSearch (FindClusterStatus × Word)) := do
  if search.cluster < searchLimit then
    let afatfs ← get
    let (status, sector) ← cacheSector (afatfs.fatSectorToPhysical 0 search.fatSectorIndex)
      { read := true, discardable := true }
    match status, sector with
    | .success, some slot =>
      let afatfs ← get
      if afatfs.filesystemType = .fat16 ∨ afatfs.filesystemType = .fat32 then
        match searchSector (fun index => afatfs.readFatEntry (afatfs.cache slot) index) lookingForFree jump
            afatfs.fatEntriesPerSector searchLimit afatfs.fatEntriesPerSector.toNat search.cluster
            search.fatSectorEntryIndex with
        | .again cluster =>
          pure (.again { cluster, fatSectorIndex := search.fatSectorIndex + 1, fatSectorEntryIndex := 0 })
        | .leave result => pure (.leave result)
      else pure (.leave (.fatal, search.cluster))
    | .failure, _ => pure (.leave (.fatal, search.cluster))
    | _, _ => pure (.leave (.inProgress, search.cluster))
  else pure (.leave (.notFound, searchLimit))

/-- `afatfs_findClusterWithCondition`: the status and `*cluster`. -/
def findClusterWithCondition (condition : ClusterSearchCondition) (cluster searchLimit : Word) :
    Fs (FindClusterStatus × Word) := do
  let afatfs ← get
  let search : ClusterSearch :=
    { cluster, fatSectorIndex := afatfs.fatSectorIndex cluster
      fatSectorEntryIndex := afatfs.fatSectorEntryIndex cluster }
  match condition with
  | .freeAtBeginningOfFatSector =>
    if !(← afatfsAssert (search.fatSectorEntryIndex = 0)) then pure (.fatal, cluster)
    else repeated (searchPass true afatfs.fatEntriesPerSector searchLimit) (searchLimit.toNat + 1) search
  | .occupied => repeated (searchPass false 1 searchLimit) (searchLimit.toNat + 1) search
  | .free => repeated (searchPass true 1 searchLimit) (searchLimit.toNat + 1) search

end ComputerSystems.Fat
