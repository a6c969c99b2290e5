import ComputerSystems.Data.Memory
import ComputerSystems.Data.Program
import ComputerSystems.Data.WriteBack
import ComputerSystems.Fat.SdCard

/-! # The state of the file system

The types of `asyncfatfs.c`, in the configuration that is compiled: without the free
file, the introspective log and writes of several blocks.  A pointer to a buffer of the
cache is its slot, a pointer to a file one of the open files or the current directory.
The callback of an operation is the last thing that it does, so that what the application
does there comes after it.

The functions run on a `Volume`: the file system, the blocks on the card and the transfer
that the card has under way.  What they draw are the card's answers, of which only what
`sdcard.h` says is used.
-/

namespace ComputerSystems.Fat

open ComputerSystems.Data

abbrev Word := BitVec 32

/-- The bytes of a sector, from 0 to 511. -/
abbrev Sector := Memory

def numCacheSectors : Nat := 8
def numFats : Nat := 2
def maxOpenFiles : Nat := 3

/-- The index of a descriptor of the cache, and of its memory. -/
abbrev Slot := Fin numCacheSectors

def firstSlot : Slot := ⟨0, Nat.zero_lt_succ 7⟩

/-! ## The cache -/

/-- `afatfsCacheBlockState_e`. -/
inductive CacheBlockState where
  | empty
  | inSync
  | reading
  | writing
  | dirty
deriving DecidableEq, Repr

/-- `afatfsCacheBlockDescriptor_t`. -/
structure CacheBlockDescriptor where
  sectorIndex : Word := 0
  writeTimestamp : Word := 0
  accessTimestamp : Word := 0
  state : CacheBlockState := .empty
  locked : Bool := false
  retainCount : BitVec 6 := 0
  discardable : Bool := false
deriving DecidableEq, Repr

/-! ## Files -/

/-- `afatfsOperationStatus_e`. -/
inductive OperationStatus where
  | inProgress
  | success
  | failure
deriving DecidableEq, Repr

inductive FatFilesystemType where
  | invalid
  | fat12
  | fat16
  | fat32
deriving DecidableEq, Repr

inductive FilesystemState where
  | unknown
  | fatal
  | initialization
  | ready
deriving DecidableEq, Repr

inductive AfatfsError where
  | none
  | generic
  | badMbr
  | badFilesystemHeader
deriving DecidableEq, Repr

inductive FileType where
  | none
  | normal
  | fat16RootDirectory
  | directory
deriving DecidableEq, Repr

/-- `afatfsDirEntryPointer_t`. -/
structure DirEntryPointer where
  sectorNumberPhysical : Word := 0
  entryIndex : Int := 0
deriving DecidableEq, Repr

inductive AppendFreeClusterPhase where
  | findFreespace
  | updateFat1
  | updateFat2
  | updateFileDirectory
  | complete
  | failure
deriving DecidableEq, Repr

/-- `afatfsAppendFreeCluster_t`. -/
structure AppendFreeCluster where
  previousCluster : Word
  searchCluster : Word
  phase : AppendFreeClusterPhase := .findFreespace
deriving DecidableEq, Repr

inductive TruncateFilePhase where
  | updateDirectory
  | eraseFatChainNormal
  | success
deriving DecidableEq, Repr

/-- `afatfsTruncateFile_t`. -/
structure TruncateFile where
  currentCluster : Word
  phase : TruncateFilePhase := .updateDirectory
deriving DecidableEq, Repr

/-- `afatfsCreateFilePhase_e`, for a file that is there already. -/
inductive CreateFilePhase where
  | initial
  | findFile
  | success
  | failure
deriving DecidableEq, Repr

/-- `afatfsCreateFile_t`. -/
structure CreateFile where
  filename : List UInt8
  phase : CreateFilePhase := .initial
deriving DecidableEq, Repr

/-- `afatfsFileOperation_t`, with the state that belongs to the operation. -/
inductive FileOperation where
  | none
  | createFile (state : CreateFile)
  | seek (seekOffset : Word)
  | close
  | truncate (state : TruncateFile)
  | unlink (state : TruncateFile)
  | appendFreeCluster (state : AppendFreeCluster)
deriving DecidableEq, Repr

/-- The flags of `mode`. -/
structure FileMode where
  read : Bool := false
  write : Bool := false
  append : Bool := false
  create : Bool := false
  retainDirectory : Bool := false
deriving DecidableEq, Repr

/-- `afatfsFile_t`. -/
structure AfatfsFile where
  type : FileType := .none
  cursorOffset : Word := 0
  logicalSize : Word := 0
  physicalSize : Word := 0
  cursorCluster : Word := 0
  cursorPreviousCluster : Word := 0
  mode : FileMode := {}
  attrib : UInt8 := 0
  writeLockedCacheIndex : Option Slot := .none
  readRetainCacheIndex : Option Slot := .none
  directoryEntryPos : DirEntryPointer := {}
  firstCluster : Word := 0
  operation : FileOperation := .none
deriving DecidableEq, Repr

/-- A file handle. -/
inductive FileRef where
  | currentDirectory
  | openFile (index : Fin maxOpenFiles)
deriving DecidableEq, Repr

/-- `afatfs_t`. -/
structure Afatfs where
  cache : Slot → Sector
  cacheDescriptor : Slot → CacheBlockDescriptor
  filesystemType : FatFilesystemType
  filesystemState : FilesystemState
  cacheTimer : Word
  cacheDirtyEntries : Int
  cacheFlushInProgress : Bool
  files : FileRef → AfatfsFile
  lastError : AfatfsError
  filesystemFull : Bool
  partitionStartSector : Word
  fatStartSector : Word
  fatSectors : Word
  numClusters : Word
  clusterStartSector : Word
  sectorsPerCluster : Word
  lastClusterAllocated : Word
  byteInClusterMask : Word
  rootDirectoryCluster : Word
  rootDirectorySectors : Word

/-- The static variable before `afatfs_init`: all its bytes are zero, also the indexes into the cache. -/
def Afatfs.zeroed : Afatfs where
  cache _ _ := 0
  cacheDescriptor _ := {}
  filesystemType := .invalid
  filesystemState := .unknown
  cacheTimer := 0
  cacheDirtyEntries := 0
  cacheFlushInProgress := false
  files _ := { writeLockedCacheIndex := some firstSlot, readRetainCacheIndex := some firstSlot }
  lastError := .none
  filesystemFull := false
  partitionStartSector := 0
  fatStartSector := 0
  fatSectors := 0
  numClusters := 0
  clusterStartSector := 0
  sectorsPerCluster := 0
  lastClusterAllocated := 0
  byteInClusterMask := 0
  rootDirectoryCluster := 0
  rootDirectorySectors := 0

def smallestLegalClusterNumber : Word := 2

/-- `afatfs_init`. -/
def Afatfs.init (afatfs : Afatfs) : Afatfs :=
  { afatfs with
    filesystemState := .initialization
    lastClusterAllocated := smallestLegalClusterNumber }

/-! ## The card -/

/-- What the card answers to a read and to a write, and what a rejected write leaves. -/
structure CardAnswer where
  readStarts : Bool
  writeStatus : SdcardOperationStatus
  stored : Sector

/-- The file system over a card. -/
structure Volume where
  afatfs : Afatfs
  store : Word → Sector
  flight : Option (Flight Slot Word)

/-- `afatfs_init` before anything else, over a card with these blocks. -/
def Volume.start (store : Word → Sector) : Volume := { afatfs := Afatfs.zeroed.init, store, flight := none }

abbrev Fs := Program CardAnswer Volume

open Program

/-- A change of the file system. -/
def modify (change : Afatfs → Afatfs) : Fs Unit :=
  update fun volume => { volume with afatfs := change volume.afatfs }

def get : Fs Afatfs := fun (volume, draws) => .ok (volume.afatfs, volume, draws)

section

variable {α : Type} {volume : Volume} {post : α → Volume → Prop}

@[simp] theorem wp_get_bind {next : Afatfs → Fs α} :
    Wp (get >>= next) post volume ↔ Wp (next volume.afatfs) post volume := Iff.rfl

@[simp] theorem wp_modify_bind {next : Unit → Fs α} (change : Afatfs → Afatfs) :
    Wp (modify change >>= next) post volume ↔
      Wp (next ()) post { volume with afatfs := change volume.afatfs } := Iff.rfl

@[simp] theorem wp_modify {post : Unit → Volume → Prop} (change : Afatfs → Afatfs) :
    Wp (modify change) post volume ↔ post () { volume with afatfs := change volume.afatfs } :=
  wp_update _

end

/-- `sdcard_readBlock`, as `sdcard.h` describes it: one transfer at a time, and a card that is busy does not
    start another one.  The functions of `sdcard.c` (`Fat/SdCard.lean`) do not keep to that. -/
def sdcardReadBlock (blockIndex : Word) (buffer : Slot) : Fs Bool := do
  let answer ← draw
  let volume ← state
  if volume.flight.isNone && answer.readStarts then
    update fun volume => { volume with flight := some ⟨buffer, blockIndex, false⟩ }
    pure true
  else
    pure false

/-- `sdcard_writeBlock`, as `sdcard.h` describes it; see `sdcardReadBlock`. -/
def sdcardWriteBlock (blockIndex : Word) (buffer : Slot) : Fs SdcardOperationStatus := do
  let answer ← draw
  let volume ← state
  if volume.flight.isSome then pure .busy
  else
    match answer.writeStatus with
    | .inProgress =>
      update fun volume => { volume with flight := some ⟨buffer, blockIndex, true⟩ }
      pure .inProgress
    | .busy => pure .busy
    | .success =>
      update fun volume =>
        { volume with store := Function.update volume.store blockIndex (volume.afatfs.cache buffer) }
      pure .success
    | .failure =>
      update fun volume => { volume with store := Function.update volume.store blockIndex answer.stored }
      pure .failure

end ComputerSystems.Fat
