import ComputerSystems.Fat.Afatfs
import Mathlib.Data.List.FinRange

/-! # The sector cache

The functions of `asyncfatfs.c` between the files and the card: eight sectors are kept in
memory, found or allocated by `afatfs_cacheSector`, and written back by `afatfs_flush`.
-/

namespace ComputerSystems.Fat

open ComputerSystems.Data Program

/-- The descriptor of a slot. -/
def Afatfs.setDescriptor (slot : Slot) (descriptor : CacheBlockDescriptor) (afatfs : Afatfs) : Afatfs :=
  { afatfs with cacheDescriptor := Function.update afatfs.cacheDescriptor slot descriptor }

def Afatfs.setState (slot : Slot) (state : CacheBlockState) (afatfs : Afatfs) : Afatfs :=
  afatfs.setDescriptor slot { afatfs.cacheDescriptor slot with state }

def Afatfs.setMemory (slot : Slot) (sector : Sector) (afatfs : Afatfs) : Afatfs :=
  { afatfs with cache := Function.update afatfs.cache slot sector }

/-- `afatfs_assert` of something that does not hold. -/
def Afatfs.assertFails (afatfs : Afatfs) : Afatfs :=
  { afatfs with
    lastError := if afatfs.lastError = .none then .generic else afatfs.lastError
    filesystemState := .fatal }

/-- `afatfs_assert`. -/
def afatfsAssert (condition : Bool) : Fs Bool := do
  if !condition then
    modify Afatfs.assertFails
  pure condition

/-- `afatfs_cacheSectorMarkDirty`. -/
def Afatfs.cacheSectorMarkDirty (slot : Slot) (afatfs : Afatfs) : Afatfs :=
  let descriptor := afatfs.cacheDescriptor slot
  if descriptor.state ≠ .dirty then
    { afatfs.setDescriptor slot { descriptor with writeTimestamp := afatfs.cacheTimer + 1, state := .dirty } with
      cacheTimer := afatfs.cacheTimer + 1
      cacheDirtyEntries := afatfs.cacheDirtyEntries + 1 }
  else afatfs

/-- `afatfs_cacheSectorInit`. -/
def Afatfs.cacheSectorInit (slot : Slot) (sectorIndex : Word) (locked : Bool) (afatfs : Afatfs) : Afatfs :=
  { afatfs.setDescriptor slot
      { sectorIndex, accessTimestamp := afatfs.cacheTimer + 1, writeTimestamp := afatfs.cacheTimer + 1
        state := .empty, locked, retainCount := 0, discardable := false } with
    cacheTimer := afatfs.cacheTimer + 1 }

/-! ## Completions -/

/-- The descriptor that `afatfs_sdcardReadComplete` finds. -/
def Afatfs.readSlot (sectorIndex : Word) (afatfs : Afatfs) : Option Slot :=
  (List.finRange numCacheSectors).find? fun i =>
    (afatfs.cacheDescriptor i).state ≠ .empty ∧ (afatfs.cacheDescriptor i).sectorIndex = sectorIndex

/-- The descriptor that `afatfs_sdcardWriteComplete` finds: a sector that was marked dirty again after
    the writing had begun stays so. -/
def Afatfs.writeSlot (sectorIndex : Word) (afatfs : Afatfs) : Option Slot :=
  (List.finRange numCacheSectors).find? fun i =>
    (afatfs.cacheDescriptor i).sectorIndex = sectorIndex ∧ (afatfs.cacheDescriptor i).state = .writing

/-- `afatfs_sdcardReadComplete`; `buffer` is `none` if the read has failed. -/
def sdcardReadComplete (sectorIndex : Word) (buffer : Option Slot) : Fs Unit := do
  let afatfs ← get
  match afatfs.readSlot sectorIndex with
  | none => pure ()
  | some i =>
    match buffer with
    | none => modify (Afatfs.setState i .empty)
    | some buffer => do
      let _ ← afatfsAssert (i = buffer ∧ (afatfs.cacheDescriptor i).state = .reading)
      modify (Afatfs.setState i .inSync)

/-- No flush is in progress any more. -/
def Afatfs.flushEnds (afatfs : Afatfs) : Afatfs := { afatfs with cacheFlushInProgress := false }

/-- Write failed, remark the sector as dirty. -/
def Afatfs.writeFails (slot : Slot) (afatfs : Afatfs) : Afatfs :=
  { afatfs.setState slot .dirty with cacheDirtyEntries := afatfs.cacheDirtyEntries + 1 }

/-- `afatfs_sdcardWriteComplete`. -/
def sdcardWriteComplete (sectorIndex : Word) (buffer : Option Slot) : Fs Unit := do
  modify Afatfs.flushEnds
  let afatfs ← get
  match afatfs.writeSlot sectorIndex with
  | none => pure ()
  | some i =>
    match buffer with
    | none => modify (Afatfs.writeFails i)
    | some buffer => do
      let _ ← afatfsAssert (i = buffer)
      modify (Afatfs.setState i .inSync)

/-! ## Writing back -/

/-- The card has begun to write the sector. -/
def Afatfs.writeBegins (slot : Slot) (afatfs : Afatfs) : Afatfs :=
  { afatfs.setState slot .writing with
    cacheDirtyEntries := afatfs.cacheDirtyEntries - 1
    cacheFlushInProgress := true }

/-- The card has written the sector at once. -/
def Afatfs.writeEnds (slot : Slot) (afatfs : Afatfs) : Afatfs :=
  { afatfs.setState slot .inSync with cacheDirtyEntries := afatfs.cacheDirtyEntries - 1 }

/-- `afatfs_cacheFlushSector`. -/
def cacheFlushSector (cacheIndex : Slot) : Fs Unit := do
  let afatfs ← get
  match ← sdcardWriteBlock (afatfs.cacheDescriptor cacheIndex).sectorIndex cacheIndex with
  | .inProgress => modify (Afatfs.writeBegins cacheIndex)
  | .success => modify (Afatfs.writeEnds cacheIndex)
  | .busy => pure ()
  | .failure => pure ()

/-- The body of the loop of `afatfs_flush` that chooses a sector. -/
def Afatfs.earlierSector (afatfs : Afatfs) (earliest : Option Slot) (i : Slot) : Option Slot :=
  let descriptor := afatfs.cacheDescriptor i
  if descriptor.state = .dirty ∧ !descriptor.locked ∧
      earliest.all fun other => descriptor.writeTimestamp < (afatfs.cacheDescriptor other).writeTimestamp then
    some i
  else earliest

/-- The sector that `afatfs_flush` writes. -/
def Afatfs.earliestSector (afatfs : Afatfs) : Option Slot :=
  (List.finRange numCacheSectors).foldl afatfs.earlierSector none

/-- `afatfs_flush`. -/
def flush : Fs Bool := do
  let afatfs ← get
  if afatfs.cacheDirtyEntries > 0 then
    match afatfs.earliestSector with
    | some earliestSectorIndex => do
      cacheFlushSector earliestSectorIndex
      pure false
    | none => pure true
  else pure true

/-! ## Finding and allocating -/

/-- `afatfs_findCacheSector`. -/
def findCacheSector (sectorIndex : Word) (afatfs : Afatfs) : Option Slot :=
  (List.finRange numCacheSectors).find? fun i => (afatfs.cacheDescriptor i).sectorIndex = sectorIndex

/-- The variables of the loop of `afatfs_allocateCacheSector`. -/
structure CacheScan where
  emptyIndex : Option Slot := none
  discardableIndex : Option Slot := none
  oldestSyncedSectorLastUse : Word := 0xFFFFFFFF
  oldestSyncedSectorIndex : Option Slot := none
deriving DecidableEq, Repr

/-- What the loop does with a descriptor of another sector. -/
def CacheScan.consider (i : Slot) (descriptor : CacheBlockDescriptor) (scan : CacheScan) : CacheScan :=
  match descriptor.state with
  | .empty => { scan with emptyIndex := some i }
  | .inSync =>
    if !descriptor.locked ∧ descriptor.retainCount = 0 then
      if descriptor.discardable then { scan with discardableIndex := some i }
      else if descriptor.accessTimestamp < scan.oldestSyncedSectorLastUse then
        { scan with
          oldestSyncedSectorLastUse := descriptor.accessTimestamp
          oldestSyncedSectorIndex := some i }
      else scan
    else scan
  | _ => scan

/-- How the loop ends: with the sector, or with what it has seen. -/
inductive CacheSearch where
  | cached (slot : Slot)
  | scanned (scan : CacheScan)
deriving DecidableEq, Repr

/-- The loop of `afatfs_allocateCacheSector` over the descriptors that are left. -/
def scanCache (sectorIndex : Word) (descriptor : Slot → CacheBlockDescriptor) :
    List Slot → CacheScan → CacheSearch
  | [], scan => .scanned scan
  | i :: rest, scan =>
    if (descriptor i).sectorIndex = sectorIndex then
      if (descriptor i).state = .empty then .scanned { scan with emptyIndex := some i }
      else .cached i
    else scanCache sectorIndex descriptor rest (scan.consider i (descriptor i))

/-- The entry to take, in the order of preference. -/
def CacheScan.allocateIndex (scan : CacheScan) : Option Slot :=
  match scan.emptyIndex, scan.discardableIndex, scan.oldestSyncedSectorIndex with
  | some i, _, _ => some i
  | none, some i, _ => some i
  | none, none, oldest => oldest

/-- The check of the sector against the end of the volume, as long as that is known. -/
def Afatfs.sectorInVolume (sectorIndex : Word) (afatfs : Afatfs) : Bool :=
  afatfs.numClusters = 0 ∨
    sectorIndex < afatfs.clusterStartSector + afatfs.numClusters * afatfs.sectorsPerCluster

/-- Bump the last access time. -/
def Afatfs.touch (slot : Slot) (afatfs : Afatfs) : Afatfs :=
  { afatfs.setDescriptor slot { afatfs.cacheDescriptor slot with accessTimestamp := afatfs.cacheTimer + 1 } with
    cacheTimer := afatfs.cacheTimer + 1 }

/-- `afatfs_allocateCacheSector`. -/
def allocateCacheSector (sectorIndex : Word) : Fs (Option Slot) := do
  let afatfs ← get
  if !(← afatfsAssert (afatfs.sectorInVolume sectorIndex)) then pure none
  else
    match scanCache sectorIndex afatfs.cacheDescriptor (List.finRange numCacheSectors) {} with
    | .cached i =>
      modify (Afatfs.touch i)
      pure (some i)
    | .scanned scan =>
      match scan.allocateIndex with
      | some allocateIndex =>
        modify (Afatfs.cacheSectorInit allocateIndex sectorIndex false)
        pure (some allocateIndex)
      | none => pure none

/-- `AFATFS_CACHE_*`. -/
structure CacheFlags where
  read : Bool := false
  write : Bool := false
  lock : Bool := false
  discardable : Bool := false
  retain : Bool := false
deriving DecidableEq, Repr

/-- The end of `afatfs_cacheSector`: a sector with its content in the cache. -/
def cacheSectorSuccess (slot : Slot) (flags : CacheFlags) : Fs (OperationStatus × Option Slot) := do
  if flags.lock then
    modify fun afatfs => afatfs.setDescriptor slot { afatfs.cacheDescriptor slot with locked := true }
  if flags.retain then
    modify fun afatfs => afatfs.setDescriptor slot
      { afatfs.cacheDescriptor slot with retainCount := (afatfs.cacheDescriptor slot).retainCount + 1 }
  pure (.success, some slot)

/-- The sector is marked dirty if it is to be written. -/
def markDirtyFor (slot : Slot) (flags : CacheFlags) : Fs Unit :=
  if flags.write then modify (Afatfs.cacheSectorMarkDirty slot) else pure ()

/-- A read of the sector into its slot is tried. -/
def startReading (physicalSectorIndex : Word) (slot : Slot) : Fs (OperationStatus × Option Slot) := do
  let starts ← sdcardReadBlock physicalSectorIndex slot
  modify fun afatfs => if starts then afatfs.setState slot .reading else afatfs
  pure (.inProgress, none)

/-- The switch of `afatfs_cacheSector` over the state of the sector's descriptor. -/
def cacheSectorSwitch (physicalSectorIndex : Word) (flags : CacheFlags) (slot : Slot) :
    Fs (OperationStatus × Option Slot) := do
  let afatfs ← get
  match (afatfs.cacheDescriptor slot).state with
  | .reading => pure (.inProgress, none)
  | .empty =>
    if flags.read then startReading physicalSectorIndex slot
    else
      modify fun afatfs => afatfs.setDescriptor slot
        { afatfs.cacheDescriptor slot with discardable := flags.discardable }
      markDirtyFor slot flags
      cacheSectorSuccess slot flags
  | .writing | .inSync =>
    markDirtyFor slot flags
    cacheSectorSuccess slot flags
  | .dirty => cacheSectorSuccess slot flags

/-- `afatfs_cacheSector`: the status and the slot that `*buffer` points to. -/
def cacheSector (physicalSectorIndex : Word) (flags : CacheFlags) : Fs (OperationStatus × Option Slot) := do
  -- the MBR is never written
  if !(← afatfsAssert (!flags.write ∨ physicalSectorIndex ≠ 0)) then pure (.failure, none)
  else
    match ← allocateCacheSector physicalSectorIndex with
    | none => pure (.inProgress, none)
    | some slot => cacheSectorSwitch physicalSectorIndex flags slot

/-! ## Releasing -/

/-- `locked = 0`. -/
def Afatfs.unlock (slot : Slot) (afatfs : Afatfs) : Afatfs :=
  afatfs.setDescriptor slot { afatfs.cacheDescriptor slot with locked := false }

/-- `retainCount = MAX((int) retainCount - 1, 0)`. -/
def Afatfs.release (slot : Slot) (afatfs : Afatfs) : Afatfs :=
  afatfs.setDescriptor slot
    { afatfs.cacheDescriptor slot with
      retainCount :=
        if (afatfs.cacheDescriptor slot).retainCount = 0 then 0
        else (afatfs.cacheDescriptor slot).retainCount - 1 }

/-! ## Runs -/

/-- The card ends its transfer.  A write that the cache still counts on has taken the block as it is;
    of any other one `stored` is what was left, as of a read that failed. -/
def cardCompletes (success : Bool) (stored : Sector) : Fs Unit := do
  let volume ← state
  match volume.flight with
  | none => pure ()
  | some ⟨slot, sectorIndex, writes⟩ =>
    update fun volume => { volume with flight := none }
    if writes then
      update fun volume => { volume with
        store := Function.update volume.store sectorIndex
          (if success ∧ (volume.afatfs.cacheDescriptor slot).state = .writing then volume.afatfs.cache slot
          else stored) }
      sdcardWriteComplete sectorIndex (if success then some slot else none)
    else
      modify (Afatfs.setMemory slot (if success then volume.store sectorIndex else stored))
      sdcardReadComplete sectorIndex (if success then some slot else none)

/-- What the files and the card do to the cache. -/
inductive CacheEvent where
  | cacheSector (physicalSectorIndex : Word) (flags : CacheFlags)
  /-- A sector is changed in the cache. -/
  | change (slot : Slot) (sector : Sector)
  | markDirty (slot : Slot)
  | unlock (slot : Slot)
  | release (slot : Slot)
  | flush
  | completes (success : Bool) (stored : Sector)

inductive CacheAnswer where
  | opened (status : OperationStatus) (slot : Option Slot)
  | flushed (all : Bool)
  | nothing
deriving DecidableEq, Repr

def CacheEvent.run : CacheEvent → Fs CacheAnswer
  | .cacheSector physicalSectorIndex flags => do
    let (status, slot) ← Fat.cacheSector physicalSectorIndex flags
    pure (.opened status slot)
  | .change slot sector => do
    modify (Afatfs.setMemory slot sector)
    pure .nothing
  | .markDirty slot => do
    modify (Afatfs.cacheSectorMarkDirty slot)
    pure .nothing
  | .unlock slot => do
    modify (Afatfs.unlock slot)
    pure .nothing
  | .release slot => do
    modify (Afatfs.release slot)
    pure .nothing
  | .flush => do
    let all ← Fat.flush
    pure (.flushed all)
  | .completes success stored => do
    cardCompletes success stored
    pure .nothing

/-- What the files see to: a sector is opened to read or write it, changed only while it is dirty, and
    marked dirty only while it is in the cache. -/
def CacheEvent.Allowed (volume : Volume) : CacheEvent → Prop
  | .cacheSector _ flags => flags.read = true ∨ flags.write = true
  | .change slot _ => (volume.afatfs.cacheDescriptor slot).state = .dirty
  | .markDirty slot =>
    (volume.afatfs.cacheDescriptor slot).state ≠ .empty ∧ (volume.afatfs.cacheDescriptor slot).state ≠ .reading
  | _ => True

instance decidableAllowed (volume : Volume) (event : CacheEvent) : Decidable (event.Allowed volume) := by
  cases event <;> unfold CacheEvent.Allowed <;> infer_instance

/-- An event with what the card answers meanwhile. -/
def cacheStep (volume : Volume) (event : CacheEvent × List CardAnswer) : Option Volume :=
  if event.1.Allowed volume then
    match exec event.1.run event.2 volume with
    | .ok later => some later
    | .error _ => none
  else none

end ComputerSystems.Fat
