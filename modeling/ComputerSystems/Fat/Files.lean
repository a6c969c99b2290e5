import ComputerSystems.Fat.FatTable

/-! # Files

The operations of `asyncfatfs.c` on open files: seeking, reading, writing, truncating,
deleting and closing.  One that cannot be done at once is queued on its file, and
`afatfs_poll` goes on with it (`Opening.lean`).
-/

namespace ComputerSystems.Fat

open ComputerSystems.Data Program

/-! ## The fields of a file -/

/-- `afatfs_fileIsBusy`. -/
def AfatfsFile.isBusy (file : AfatfsFile) : Bool := file.operation ≠ .none

/-- `afatfs_fileUpdateFilesize`. -/
def AfatfsFile.updateFilesize (file : AfatfsFile) : AfatfsFile :=
  { file with logicalSize := if file.logicalSize > file.cursorOffset then file.logicalSize else file.cursorOffset }

namespace Afatfs

def updateFile (file : FileRef) (change : AfatfsFile → AfatfsFile) (afatfs : Afatfs) : Afatfs :=
  { afatfs with files := Function.update afatfs.files file (change (afatfs.files file)) }

/-- The end of the write lock that the file has. -/
def unlockForWrite (file : FileRef) (afatfs : Afatfs) : Afatfs :=
  match (afatfs.files file).writeLockedCacheIndex with
  | some slot => (afatfs.unlock slot).updateFile file fun f => { f with writeLockedCacheIndex := none }
  | none => afatfs

def releaseForRead (file : FileRef) (afatfs : Afatfs) : Afatfs :=
  match (afatfs.files file).readRetainCacheIndex with
  | some slot => (afatfs.release slot).updateFile file fun f => { f with readRetainCacheIndex := none }
  | none => afatfs

/-- `afatfs_fileUnlockCacheSector`. -/
def fileUnlockCacheSector (file : FileRef) (afatfs : Afatfs) : Afatfs :=
  (afatfs.unlockForWrite file).releaseForRead file

/-- `afatfs_fileGetCursorPhysicalSector`. -/
def fileGetCursorPhysicalSector (file : FileRef) (afatfs : Afatfs) : Word :=
  let f := afatfs.files file
  if f.type = .fat16RootDirectory then
    afatfs.fatStartSector + BitVec.ofNat 32 numFats * afatfs.fatSectors + f.cursorOffset / 512
  else afatfs.fileClusterToPhysical f.cursorCluster (afatfs.sectorIndexInCluster f.cursorOffset)

/-- `afatfs_isEndOfAllocatedFile`. -/
def isEndOfAllocatedFile (file : FileRef) (afatfs : Afatfs) : Bool :=
  let f := afatfs.files file
  if f.type = .fat16RootDirectory then 512 * afatfs.rootDirectorySectors ≤ f.cursorOffset
  else f.cursorCluster = 0 ∨ afatfs.fatIsEndOfChainMarker f.cursorCluster

end Afatfs

/-- `afatfs_ftell`. -/
def AfatfsFile.ftell (file : AfatfsFile) : Option Word := if file.isBusy then none else some file.cursorOffset

def modifyFile (file : FileRef) (change : AfatfsFile → AfatfsFile) : Fs Unit := modify (Afatfs.updateFile file change)

def setOperation (file : FileRef) (operation : FileOperation) : Fs Unit :=
  modifyFile file fun f => { f with operation }

/-- `afatfs_fileGetNextCluster`. -/
def fileGetNextCluster (_ : FileRef) (currentCluster : Word) : Fs (OperationStatus × Option Word) :=
  fatGetNextCluster 0 currentCluster

/-! ## The directory entry -/

/-- `afatfsSaveDirectoryEntryMode_e`. -/
inductive SaveDirectoryEntryMode where
  | normal
  | forClose
  | deleted
deriving DecidableEq, Repr

def directoryEntrySize : Int := 32

/-- The size that goes into the entry: the physical one until the file is closed, and none for a directory. -/
def AfatfsFile.entryFileSize (file : AfatfsFile) (mode : SaveDirectoryEntryMode) : Word :=
  if file.type = .directory then 0
  else
    match mode with
    | .normal => file.physicalSize
    | .forClose => file.logicalSize
    | .deleted => file.logicalSize

/-- The sector of a directory after an entry was saved in it: `fileSize`, `firstClusterHigh` and
    `firstClusterLow`, and the mark of a file that is deleted in place of its first letter. -/
def saveEntry (mode : SaveDirectoryEntryMode) (entryIndex : Int) (file : AfatfsFile) (sector : Sector) : Sector :=
  let entry := directoryEntrySize * entryIndex
  let marked := if mode = .deleted then sector.write entry [0xE5] else sector
  ((marked.write32 (entry + 28) (file.entryFileSize mode).toNat).write16 (entry + 20)
    (file.firstCluster.toNat / 2 ^ 16)).write16 (entry + 26) (file.firstCluster.toNat % 2 ^ 16)

/-- `afatfs_saveDirectoryEntry`. -/
def saveDirectoryEntry (file : FileRef) (mode : SaveDirectoryEntryMode) : Fs OperationStatus := do
  let afatfs ← get
  let position := (afatfs.files file).directoryEntryPos
  -- root directories do not have an entry
  if position.sectorNumberPhysical = 0 then pure .success
  else
    let (result, sector) ← cacheSector position.sectorNumberPhysical { read := true, write := true }
    match sector with
    | some slot =>
      if !(← afatfsAssert (0 ≤ position.entryIndex)) then pure .failure
      else
        modify fun afatfs => afatfs.setMemory slot
          (saveEntry mode position.entryIndex (afatfs.files file) (afatfs.cache slot))
        pure result
    | none => pure result

/-! ## Appending a cluster -/

/-- The operation goes on at once with this state. -/
def goOnAppending (file : FileRef) (opState : AppendFreeCluster) : Fs (Pass AppendFreeCluster OperationStatus) := do
  setOperation file (.appendFreeCluster opState)
  pure (.again opState)

def waitAppending (file : FileRef) (opState : AppendFreeCluster) : Fs (Pass AppendFreeCluster OperationStatus) := do
  setOperation file (.appendFreeCluster opState)
  pure (.leave .inProgress)

/-- The free cluster that was found is made available to write in. -/
def Afatfs.takeCluster (file : FileRef) (opState : AppendFreeCluster) (afatfs : Afatfs) : Afatfs :=
  { afatfs with lastClusterAllocated := opState.searchCluster }.updateFile file fun f =>
    { f with
      cursorCluster := opState.searchCluster
      physicalSize := f.physicalSize + afatfs.clusterSize
      firstCluster := if opState.previousCluster = 0 then opState.searchCluster else f.firstCluster }

/-- A phase of `afatfs_appendRegularFreeClusterContinue`. -/
def appendPhase (file : FileRef) (opState : AppendFreeCluster) : Fs (Pass AppendFreeCluster OperationStatus) :=
  match opState.phase with
  | .findFreespace => do
    let afatfs ← get
    let (status, searchCluster) ← findClusterWithCondition .free opState.searchCluster
      (afatfs.numClusters + smallestLegalClusterNumber)
    match status with
    | .found =>
      modify (Afatfs.takeCluster file { opState with searchCluster })
      goOnAppending file { opState with searchCluster, phase := .updateFat1 }
    | .fatal => goOnAppending file { opState with searchCluster, phase := .failure }
    | .notFound => goOnAppending file { opState with searchCluster, phase := .failure }
    | .inProgress => waitAppending file { opState with searchCluster }
  | .updateFat1 => do
    -- terminate the new cluster
    match ← fatSetNextCluster opState.searchCluster 0xFFFFFFFF with
    | .success =>
      goOnAppending file
        { opState with phase := if opState.previousCluster ≠ 0 then .updateFat2 else .updateFileDirectory }
    | _ => waitAppending file opState
  | .updateFat2 => do
    -- add the new cluster to the chain that is there
    match ← fatSetNextCluster opState.previousCluster opState.searchCluster with
    | .success => goOnAppending file { opState with phase := .updateFileDirectory }
    | _ => waitAppending file opState
  | .updateFileDirectory => do
    match ← saveDirectoryEntry file .normal with
    | .success => goOnAppending file { opState with phase := .complete }
    | _ => waitAppending file opState
  | .complete => do
    setOperation file .none
    pure (.leave .success)
  | .failure => do
    setOperation file .none
    modify fun afatfs => { afatfs with filesystemFull := true }
    pure (.leave .failure)

/-- `afatfs_appendRegularFreeClusterContinue`; there are six phases, and none comes twice. -/
def appendRegularFreeClusterContinue (file : FileRef) (opState : AppendFreeCluster) : Fs OperationStatus :=
  repeated (appendPhase file) 7 opState

/-- `afatfs_appendRegularFreeCluster`. -/
def appendRegularFreeCluster (file : FileRef) : Fs OperationStatus := do
  let afatfs ← get
  match (afatfs.files file).operation with
  | .appendFreeCluster _ => pure .inProgress
  | operation =>
    if afatfs.filesystemFull ∨ operation ≠ .none then pure .failure
    else
      let opState : AppendFreeCluster :=
        { previousCluster := (afatfs.files file).cursorPreviousCluster, searchCluster := afatfs.lastClusterAllocated }
      setOperation file (.appendFreeCluster opState)
      appendRegularFreeClusterContinue file opState

/-! ## The sector at the cursor -/

/-- The end of `afatfs_fileRetainCursorSectorForRead`, for a sector that is not retained yet. -/
def retainCursorSector (file : FileRef) : Fs (Option Slot) := do
  let afatfs ← get
  let _ ← afatfsAssert (0 < afatfs.fileGetCursorPhysicalSector file)
  let (_, sector) ← cacheSector (afatfs.fileGetCursorPhysicalSector file) { read := true, retain := true }
  match sector with
  | some slot =>
    modifyFile file fun f => { f with readRetainCacheIndex := some slot }
    pure (some slot)
  | none => pure none

/-- `afatfs_fileRetainCursorSectorForRead`. -/
def fileRetainCursorSectorForRead (file : FileRef) : Fs (Option Slot) := do
  let afatfs ← get
  match (afatfs.files file).readRetainCacheIndex with
  | some slot =>
    if !(← afatfsAssert (afatfs.fileGetCursorPhysicalSector file = (afatfs.cacheDescriptor slot).sectorIndex)) then
      pure none
    else pure (some slot)
  | none => if afatfs.isEndOfAllocatedFile file then pure none else retainCursorSector file

/-- A cluster is added if the cursor is behind the last one; `false` if that is not done yet. -/
def extendAtEnd (file : FileRef) : Fs Bool := do
  let afatfs ← get
  if afatfs.isEndOfAllocatedFile file then
    let status ← appendRegularFreeCluster file
    pure (status = .success)
  else pure true

/-- `cacheFlags`: the sector is read if there is something before the place that is written, or may be
    behind the sector. -/
def AfatfsFile.writeFlags (file : AfatfsFile) : CacheFlags where
  write := true
  lock := true
  read := 0 < file.cursorOffset % 512 ∨ (file.cursorOffset &&& ~~~511) + 512 < file.logicalSize

/-- The end of `afatfs_fileLockCursorSectorForWrite`, for a sector that is not locked yet. -/
def lockCursorSector (file : FileRef) : Fs (Option Slot) := do
  let afatfs ← get
  let (_, sector) ← cacheSector (afatfs.fileGetCursorPhysicalSector file) (afatfs.files file).writeFlags
  match sector with
  | some slot =>
    modifyFile file fun f => { f with writeLockedCacheIndex := some slot }
    pure (some slot)
  | none => pure none

/-- `afatfs_fileLockCursorSectorForWrite`. -/
def fileLockCursorSectorForWrite (file : FileRef) : Fs (Option Slot) := do
  let afatfs ← get
  match (afatfs.files file).writeLockedCacheIndex with
  | some slot =>
    if !(← afatfsAssert (afatfs.fileGetCursorPhysicalSector file = (afatfs.cacheDescriptor slot).sectorIndex)) then
      pure none
    else pure (some slot)
  | none => if !(← extendAtEnd file) then pure none else lockCursorSector file

/-! ## Seeking -/

/-- The cursor goes to the beginning of the next cluster. -/
def AfatfsFile.enterCluster (nextCluster bytesToSeek : Word) (file : AfatfsFile) : AfatfsFile :=
  { file with
    cursorPreviousCluster := file.cursorCluster
    cursorCluster := nextCluster
    cursorOffset := file.cursorOffset + bytesToSeek }

/-- The rest of a seek within a cluster, if there is one. -/
def seekInCluster (file : FileRef) (offset : Word) : Fs Unit :=
  modify fun afatfs =>
    if afatfs.isEndOfAllocatedFile file then afatfs
    else afatfs.updateFile file fun f => { f with cursorOffset := f.cursorOffset + offset }

/-- The part of `afatfs_fseekAtomic` that is for seeks out of the sector. -/
def fseekOutside (file : FileRef) (offset : Word) : Fs Bool := do
  let afatfs ← get
  let f := afatfs.files file
  if f.type = .fat16RootDirectory then
    modifyFile file fun f => { f with cursorOffset := f.cursorOffset + offset }
    pure true
  else
    let offsetInCluster := afatfs.byteIndexInCluster f.cursorOffset
    -- these are comparisons of `int32_t`
    if afatfs.clusterSize.slt offset ∨ offset.slt (-offsetInCluster) then pure false
    else if afatfs.clusterSize ≤ offsetInCluster + offset then
      match ← fileGetNextCluster file f.cursorCluster with
      | (.success, some nextCluster) =>
        modifyFile file (AfatfsFile.enterCluster nextCluster (afatfs.clusterSize - offsetInCluster))
        seekInCluster file (offset - (afatfs.clusterSize - offsetInCluster))
        pure true
      | _ => pure false
    else
      seekInCluster file offset
      pure true

/-- `afatfs_fseekAtomic`. -/
def fseekAtomic (file : FileRef) (offset : Word) : Fs Bool := do
  let afatfs ← get
  if offset + (afatfs.files file).cursorOffset % 512 < 512 then
    modifyFile file fun f => { f with cursorOffset := f.cursorOffset + offset }
    pure true
  else
    modify (Afatfs.fileUnlockCacheSector file)
    fseekOutside file offset

/-- The variables of the loop of `afatfs_fseekInternalContinue`. -/
structure SeekLoop where
  seekOffset : Word
  offsetInCluster : Word

/-- A pass through it: the cursor goes on to the next cluster. -/
def seekPass (file : FileRef) (loop : SeekLoop) : Fs (Pass SeekLoop Bool) := do
  let afatfs ← get
  if afatfs.clusterSize ≤ loop.offsetInCluster + loop.seekOffset ∧ !afatfs.isEndOfAllocatedFile file then
    match ← fileGetNextCluster file (afatfs.files file).cursorCluster with
    | (.success, some nextCluster) =>
      let bytesToSeek := afatfs.clusterSize - loop.offsetInCluster
      modifyFile file (AfatfsFile.enterCluster nextCluster bytesToSeek)
      setOperation file (.seek (loop.seekOffset - bytesToSeek))
      pure (.again { seekOffset := loop.seekOffset - bytesToSeek, offsetInCluster := 0 })
    | _ => pure (.leave false)
  else
    seekInCluster file loop.seekOffset
    modifyFile file AfatfsFile.updateFilesize
    setOperation file .none
    pure (.leave true)

/-- `afatfs_fseekInternalContinue`. -/
def fseekInternalContinue (file : FileRef) (seekOffset : Word) : Fs Bool := do
  let afatfs ← get
  repeated (seekPass file) (seekOffset.toNat + 2)
    { seekOffset, offsetInCluster := afatfs.byteIndexInCluster (afatfs.files file).cursorOffset }

/-- `afatfs_fseekInternal`. -/
def fseekInternal (file : FileRef) (offset : Word) : Fs OperationStatus := do
  if ← fseekAtomic file offset then pure .success
  else
    let afatfs ← get
    if (afatfs.files file).isBusy then pure .failure
    else
      setOperation file (.seek offset)
      pure .inProgress

/-- `afatfsSeek_e`. -/
inductive Whence where
  | seekSet
  | seekCur
  | seekEnd
deriving DecidableEq, Repr

/-- `MIN`. -/
def minimum (a b : Word) : Word := if a < b then a else b

/-- The cursor goes to the beginning of the file. -/
def rewind (file : FileRef) : Fs Unit := do
  modify (Afatfs.fileUnlockCacheSector file)
  modifyFile file fun f =>
    { f with cursorPreviousCluster := 0, cursorCluster := f.firstCluster, cursorOffset := 0 }

/-- A seek from the beginning of the file, not behind its end. -/
def seekFromStart (file : FileRef) (offset : Word) : Fs OperationStatus := do
  rewind file
  let afatfs ← get
  fseekInternal file (minimum offset (afatfs.files file).logicalSize)

/-- `afatfs_fseek`. -/
def fseek (file : FileRef) (offset : Word) (whence : Whence) : Fs OperationStatus := do
  modifyFile file AfatfsFile.updateFilesize
  let afatfs ← get
  let f := afatfs.files file
  match whence with
  | .seekCur =>
    if BitVec.sle 0 offset then fseekInternal file (minimum (f.cursorOffset + offset) f.logicalSize)
    else seekFromStart file (offset + f.cursorOffset)
  | .seekEnd =>
    if f.logicalSize + offset = f.cursorOffset then pure .success else seekFromStart file (offset + f.logicalSize)
  | .seekSet => seekFromStart file offset

/-! ## Truncating -/

/-- The state of the truncation that the file is at. -/
def saveTruncate (file : FileRef) (opState : TruncateFile) : Fs Unit :=
  modifyFile file fun f =>
    { f with operation :=
        match f.operation with
        | .unlink _ => .unlink opState
        | _ => .truncate opState }

def goOnTruncating (file : FileRef) (opState : TruncateFile) : Fs (Pass TruncateFile OperationStatus) := do
  saveTruncate file opState
  pure (.again opState)

/-- An operation that was a truncation is over. -/
def AfatfsFile.endTruncate (file : AfatfsFile) : AfatfsFile :=
  match file.operation with
  | .truncate _ => { file with operation := .none }
  | _ => file

/-- `afatfs.lastClusterAllocated = MIN(afatfs.lastClusterAllocated, opState->currentCluster - 1)`. -/
def Afatfs.clusterFreed (currentCluster : Word) (afatfs : Afatfs) : Afatfs :=
  { afatfs with lastClusterAllocated := minimum afatfs.lastClusterAllocated (currentCluster - 1) }

/-- A phase of `afatfs_ftruncateContinue`, and a cluster of the chain in the phase that has a loop. -/
def truncatePhase (file : FileRef) (markDeleted : Bool) (opState : TruncateFile) :
    Fs (Pass TruncateFile OperationStatus) :=
  match opState.phase with
  | .updateDirectory => do
    match ← saveDirectoryEntry file (if markDeleted then .deleted else .normal) with
    | .success =>
      goOnTruncating file
        { opState with phase := if opState.currentCluster = 0 then .success else .eraseFatChainNormal }
    | .failure =>
      modifyFile file AfatfsFile.endTruncate
      pure (.leave .failure)
    | .inProgress => pure (.leave .inProgress)
  | .eraseFatChainNormal => do
    let afatfs ← get
    if afatfs.fatIsEndOfChainMarker opState.currentCluster then
      goOnTruncating file { opState with phase := .success }
    else
      match ← fatGetNextCluster 0 opState.currentCluster with
      | (.success, some nextCluster) =>
        match ← fatSetNextCluster opState.currentCluster 0 with
        | .success =>
          modify (Afatfs.clusterFreed nextCluster)
          goOnTruncating file { opState with currentCluster := nextCluster }
        | status => pure (.leave status)
      | (status, _) => pure (.leave status)
  | .success => do
    modifyFile file AfatfsFile.endTruncate
    pure (.leave .success)

/-- `afatfs_ftruncateContinue`: there are no more entries than numbers of 28 bits, and one that was freed
    ends the loop. -/
def ftruncateContinue (file : FileRef) (markDeleted : Bool) (opState : TruncateFile) : Fs OperationStatus :=
  repeated (truncatePhase file markDeleted) (2 ^ 28 + 4) opState

/-- The clusters are dropped from the file. -/
def AfatfsFile.dropClusters (file : AfatfsFile) : AfatfsFile :=
  { file with firstCluster := 0, logicalSize := 0, physicalSize := 0 }

/-- `afatfs_ftruncate`. -/
def ftruncate (file : FileRef) : Fs Bool := do
  let afatfs ← get
  if (afatfs.files file).isBusy then pure false
  else
    setOperation file (.truncate { currentCluster := (afatfs.files file).firstCluster })
    modifyFile file AfatfsFile.dropClusters
    let _ ← fseek file 0 .seekSet
    pure true

/-! ## Closing and deleting -/

/-- The lock on the sector of the directory, if the file has one. -/
def Afatfs.releaseDirectory (file : FileRef) (afatfs : Afatfs) : Afatfs :=
  let f := afatfs.files file
  if f.mode.retainDirectory then
    match findCacheSector f.directoryEntryPos.sectorNumberPhysical afatfs with
    | some slot => afatfs.release slot
    | none => afatfs
  else afatfs

/-- The handle is free again. -/
def AfatfsFile.closed (file : AfatfsFile) : AfatfsFile := { file with type := .none, operation := .none }

/-- The locks of the file are released, and its handle is free. -/
def releaseFile (file : FileRef) : Fs Unit := do
  modify (Afatfs.releaseDirectory file)
  modify (Afatfs.fileUnlockCacheSector file)
  modifyFile file AfatfsFile.closed

/-- The files whose entry is saved when they are closed. -/
def AfatfsFile.savesEntry (file : AfatfsFile) : Bool :=
  file.type ≠ .directory ∧ file.type ≠ .fat16RootDirectory ∧ (file.mode.append ∨ file.mode.write)

/-- `afatfs_fcloseContinue`. -/
def fcloseContinue (file : FileRef) : Fs Unit := do
  let afatfs ← get
  if (afatfs.files file).savesEntry then
    match ← saveDirectoryEntry file .forClose with
    | .success => releaseFile file
    | _ => pure ()
  else releaseFile file

/-- `afatfs_fclose`. -/
def fclose (file : FileRef) : Fs Bool := do
  let afatfs ← get
  if (afatfs.files file).type = .none then pure true
  else if (afatfs.files file).isBusy then pure false
  else
    modifyFile file AfatfsFile.updateFilesize
    setOperation file .close
    fcloseContinue file
    pure true

/-- `afatfs_funlinkContinue`. -/
def funlinkContinue (file : FileRef) (opState : TruncateFile) : Fs Unit := do
  match ← ftruncateContinue file true opState with
  | .success =>
    setOperation file .none
    let _ ← fclose file
  | _ => pure ()

/-- `afatfs_funlink`. -/
def funlink (file : FileRef) : Fs Bool := do
  let afatfs ← get
  if (afatfs.files file).type = .none then pure true
  else if ← ftruncate file then
    modifyFile file fun f =>
      { f with operation :=
          match f.operation with
          | .truncate opState => .unlink opState
          | operation => operation }
    pure true
  else pure false

/-! ## Reading and writing -/

/-- The bytes of a buffer from `start` on. -/
def bytesAt (sector : Sector) (start count : Nat) : List UInt8 :=
  (List.range count).map fun i => sector (start + i : Nat)

/-- The variables of the loop of `afatfs_fread`. -/
structure ReadLoop where
  len : Word
  buffer : List UInt8
  cursorOffsetInSector : Word

/-- A pass through it. -/
def readPass (file : FileRef) (loop : ReadLoop) : Fs (Pass ReadLoop (List UInt8)) := do
  if 0 < loop.len then
    let bytesToReadThisSector := minimum (512 - loop.cursorOffsetInSector) loop.len
    match ← fileRetainCursorSectorForRead file with
    | none => pure (.leave loop.buffer)
    | some slot =>
      let afatfs ← get
      let buffer := loop.buffer ++
        bytesAt (afatfs.cache slot) loop.cursorOffsetInSector.toNat bytesToReadThisSector.toNat
      match ← fseekInternal file bytesToReadThisSector with
      | .inProgress => pure (.leave buffer)
      | _ => pure (.again { len := loop.len - bytesToReadThisSector, buffer, cursorOffsetInSector := 0 })
  else pure (.leave loop.buffer)

/-- `afatfs_fread`: the bytes that are read. -/
def fread (file : FileRef) (len : Word) : Fs (List UInt8) := do
  let afatfs ← get
  let f := afatfs.files file
  if !f.mode.read ∨ f.isBusy ∨ f.logicalSize ≤ f.cursorOffset then pure []
  else
    repeated (readPass file) (len.toNat + 1)
      { len := minimum (f.logicalSize - f.cursorOffset) len, buffer := [], cursorOffsetInSector := f.cursorOffset % 512 }

/-- The variables of the loop of `afatfs_fwrite`. -/
structure WriteLoop where
  buffer : List UInt8
  writtenBytes : Nat
  cursorOffsetInSector : Word

/-- A pass through it. -/
def writePass (file : FileRef) (loop : WriteLoop) : Fs (Pass WriteLoop Nat) := do
  if loop.buffer ≠ [] then
    let bytesToWriteThisSector :=
      (minimum (512 - loop.cursorOffsetInSector) (BitVec.ofNat 32 loop.buffer.length)).toNat
    match ← fileLockCursorSectorForWrite file with
    | none => pure (.leave loop.writtenBytes)
    | some slot =>
      modify fun afatfs => afatfs.setMemory slot
        ((afatfs.cache slot).write loop.cursorOffsetInSector.toNat (loop.buffer.take bytesToWriteThisSector))
      match ← fseekInternal file (BitVec.ofNat 32 bytesToWriteThisSector) with
      | .inProgress => pure (.leave (loop.writtenBytes + bytesToWriteThisSector))
      | _ => pure (.again
          { buffer := loop.buffer.drop bytesToWriteThisSector
            writtenBytes := loop.writtenBytes + bytesToWriteThisSector, cursorOffsetInSector := 0 })
  else pure (.leave loop.writtenBytes)

/-- `afatfs_fwrite`, of all the bytes of a buffer: how many are written. -/
def fwrite (file : FileRef) (buffer : List UInt8) : Fs Nat := do
  let afatfs ← get
  let f := afatfs.files file
  if !(f.mode.append ∨ f.mode.write) ∨ f.isBusy then pure 0
  else
    repeated (writePass file) (buffer.length + 1)
      { buffer, writtenBytes := 0, cursorOffsetInSector := f.cursorOffset % 512 }

/-- `afatfs_fputc`. -/
def fputc (file : FileRef) (c : UInt8) : Fs Unit := do
  let afatfs ← get
  let f := afatfs.files file
  let cursorOffsetInSector := f.cursorOffset % 512
  match f.writeLockedCacheIndex with
  | some slot =>
    if cursorOffsetInSector ≠ 511 then
      modify fun afatfs => afatfs.setMemory slot ((afatfs.cache slot).write cursorOffsetInSector.toNat [c])
      modifyFile file fun f => { f with cursorOffset := f.cursorOffset + 1 }
    else
      let _ ← fwrite file [c]
  | none =>
    let _ ← fwrite file [c]

end ComputerSystems.Fat
