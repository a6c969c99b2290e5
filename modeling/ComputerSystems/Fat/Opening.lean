import ComputerSystems.Fat.Files
import ComputerSystems.System.CString

/-! # Opening files

The search through the current directory, `afatfs_fopen` for a file that is there already,
`afatfs_chdir`, and `afatfs_poll`, which goes on with what is queued on the files.

The finder of a search is the `directoryEntryPos` of the file that is opened, and it goes
by the cursor of the current directory.
-/

namespace ComputerSystems.Fat

open ComputerSystems.Data ComputerSystems.System Program

/-! ## Names -/

/-- `toupper`. -/
def toupper (c : UInt8) : UInt8 := if 97 ≤ c ∧ c ≤ 122 then c - 32 else c

/-- What a part of a name is filled up with. -/
def paddedTo (length : Nat) (chars : List UInt8) : List UInt8 :=
  (chars.map toupper ++ List.replicate length 32).take length

/-- `fat_convertFilenameToFATStyle`: eight characters before the dot, and three behind it. -/
def fatConvertFilenameToFatStyle (filename : CString) : List UInt8 :=
  let name := (filename.chars.take 8).takeWhile (· ≠ 46)
  let rest := filename.chars.drop name.length
  paddedTo 8 name ++ paddedTo 3 ((if rest.head? = some 46 then rest.tail else rest).take 3)

theorem takeWhile_terminated (bytes : List UInt8) : 0 ∉ bytes.takeWhile (· ≠ 0) := by
  intro isIn
  have all : (bytes.takeWhile (· ≠ 0)).all (· ≠ 0) = true := List.all_takeWhile
  simpa using List.all_eq_true.mp all 0 isIn

/-- The string that begins with these bytes and ends with a NUL character at the latest behind them. -/
def stringOf (bytes : List UInt8) : CString := ⟨bytes.takeWhile (· ≠ 0), takeWhile_terminated bytes⟩

/-! ## Directory entries -/

def filenameLength : Nat := 11

def filesPerDirectorySector : Int := 16

/-- `fat_isDirectoryEntryTerminator`. -/
def fatIsDirectoryEntryTerminator (sector : Sector) (entryIndex : Int) : Bool := sector (directoryEntrySize * entryIndex) = 0

/-- Whether the entry has the name.  `string.h` has `strcmp` for `strncmp`; the byte behind `filename` is 0
    since the handle has been cleared. -/
def hasFilename (sector : Sector) (entryIndex : Int) (filename : List UInt8) : Bool :=
  strcmp (stringOf ((List.range filenameLength).map fun i : Nat => sector (directoryEntrySize * entryIndex + i)))
    (stringOf filename) = some 0

/-- `roundUpTo`, to a power of two. -/
def roundUpTo (value rounding : Word) : Word := (value + rounding - 1) &&& ~~~(rounding - 1)

/-- `afatfs_fileLoadDirectoryEntry`. -/
def AfatfsFile.loadDirectoryEntry (sector : Sector) (entryIndex : Int) (clusterSize : Word) (file : AfatfsFile) : AfatfsFile :=
  let entry := directoryEntrySize * entryIndex
  let fileSize := BitVec.ofNat 32 (sector.read32 (entry + 28))
  { file with
    firstCluster := BitVec.ofNat 32 (sector.read16 (entry + 20)) <<< 16 ||| BitVec.ofNat 32 (sector.read16 (entry + 26))
    logicalSize := fileSize
    physicalSize := roundUpTo fileSize clusterSize
    attrib := sector (entry + 11) }

/-! ## The search through a directory -/

def setEntryIndex (file : FileRef) (entryIndex : Int) : Fs Unit :=
  modifyFile file fun f => { f with directoryEntryPos := { f.directoryEntryPos with entryIndex } }

/-- The next entry is in the sector at the cursor; `none` behind the last one. -/
def findHere (directory file : FileRef) : Fs (OperationStatus × Option Slot) := do
  match ← fileRetainCursorSectorForRead directory with
  | some slot =>
    let afatfs ← get
    modifyFile file fun f =>
      { f with directoryEntryPos :=
          { sectorNumberPhysical := afatfs.fileGetCursorPhysicalSector directory
            entryIndex := f.directoryEntryPos.entryIndex + 1 } }
    pure (.success, some slot)
  -- behind the last sector, or the sector is still to be read
  | none =>
    let afatfs ← get
    if afatfs.isEndOfAllocatedFile directory then pure (.success, none) else pure (.inProgress, none)

/-- `afatfs_findNext`, for the finder of the file. -/
def findNext (directory file : FileRef) : Fs (OperationStatus × Option Slot) := do
  let afatfs ← get
  -- the last entry of a sector: the cursor goes to the next one
  if (afatfs.files file).directoryEntryPos.entryIndex = filesPerDirectorySector - 1 then
    if ← fseekAtomic directory 512 then
      setEntryIndex file (-1)
      findHere directory file
    else pure (.inProgress, none)
  else findHere directory file

/-- `afatfs_findLast`. -/
def findLast (directory : FileRef) : Fs Unit := modify (Afatfs.fileUnlockCacheSector directory)

/-- `afatfs_findFirst`. -/
def findFirst (directory file : FileRef) : Fs Unit := do
  let _ ← fseek directory 0 .seekSet
  setEntryIndex file (-1)

/-! ## Opening a file -/

def goOnCreating (file : FileRef) (opState : CreateFile) : Fs (Pass CreateFile Unit) := do
  setOperation file (.createFile opState)
  pure (.again opState)

/-- A phase of `afatfs_createFileContinue`, and an entry of the directory in the phase that has a loop.
    The file is not created if it is not there. -/
def createFilePhase (file : FileRef) (opState : CreateFile) : Fs (Pass CreateFile Unit) :=
  match opState.phase with
  | .initial => do
    findFirst .currentDirectory file
    goOnCreating file { opState with phase := .findFile }
  | .findFile => do
    match ← findNext .currentDirectory file with
    | (.success, none) =>
      findLast .currentDirectory
      goOnCreating file { opState with phase := .failure }
    | (.success, some slot) =>
      let afatfs ← get
      let entryIndex := (afatfs.files file).directoryEntryPos.entryIndex
      if fatIsDirectoryEntryTerminator (afatfs.cache slot) entryIndex then
        findLast .currentDirectory
        goOnCreating file { opState with phase := .failure }
      else if hasFilename (afatfs.cache slot) entryIndex opState.filename then
        modifyFile file (AfatfsFile.loadDirectoryEntry (afatfs.cache slot) entryIndex afatfs.clusterSize)
        findLast .currentDirectory
        goOnCreating file { opState with phase := .success }
      -- an entry with another name: the loop goes on
      else pure (.again opState)
    | (.failure, _) =>
      findLast .currentDirectory
      goOnCreating file { opState with phase := .failure }
    | (.inProgress, _) => pure (.leave ())
  | .success => do
    -- in the modes `r` and `r+` the file is neither moved to its end nor truncated
    let _ ← fseek file 0 .seekSet
    setOperation file .none
    pure (.leave ())
  | .failure => do
    modifyFile file fun f => { f with type := .none }
    pure (.leave ())

/-- `afatfs_createFileContinue`: no directory has more entries than are in 4 GiB. -/
def createFileContinue (file : FileRef) (opState : CreateFile) : Fs Unit :=
  repeated (createFilePhase file) (2 ^ 28) opState

/-- `afatfs_initFileHandle`, and the mode. -/
def initFileHandle (file : FileRef) (mode : FileMode) : Fs Unit := modifyFile file fun _ => { mode }

/-- `FAT_FILE_ATTRIBUTE_ARCHIVE`. -/
def attributeArchive : UInt8 := 0x20

/-- What is known of the current directory is taken from its handle. -/
def AfatfsFile.asDirectory (directory file : AfatfsFile) : AfatfsFile :=
  { file with
    firstCluster := directory.firstCluster
    physicalSize := directory.physicalSize
    logicalSize := directory.logicalSize
    attrib := directory.attrib
    type := directory.type }

/-- `afatfs_createFile`, for the attributes that `afatfs_fopen` gives. -/
def createFile (file : FileRef) (name : CString) (mode : FileMode) : Fs Unit := do
  initFileHandle file mode
  let afatfs ← get
  -- `.` has no entry that is looked for
  let opState : CreateFile :=
    if strcmp name .dot = some 0 then { filename := [], phase := .success }
    else { filename := fatConvertFilenameToFatStyle name }
  if strcmp name .dot = some 0 then
    modifyFile file ((afatfs.files .currentDirectory).asDirectory)
  else modifyFile file fun f => { f with attrib := attributeArchive, type := .normal }
  setOperation file (.createFile opState)
  createFileContinue file opState

/-- `afatfs_allocateFileHandle`. -/
def Afatfs.allocateFileHandle (afatfs : Afatfs) : Option FileRef :=
  ((List.finRange maxOpenFiles).map FileRef.openFile).find? fun file => (afatfs.files file).type = .none

/-- The modes of a file that is there already: `"r"` and `"r+"`. -/
inductive OpenMode where
  | r
  | rPlus
deriving DecidableEq, Repr

def OpenMode.fileMode : OpenMode → FileMode
  | .r => { read := true }
  | .rPlus => { read := true, write := true }

/-- `afatfs_fopen`. -/
def fopen (filename : CString) (mode : OpenMode) : Fs Bool := do
  let afatfs ← get
  match afatfs.allocateFileHandle with
  | some file =>
    createFile file filename mode.fileMode
    pure true
  | none => pure false

/-! ## The current directory -/

/-- The handle of the root directory. -/
def Afatfs.rootDirectory (afatfs : Afatfs) : AfatfsFile where
  type := if afatfs.filesystemType = .fat16 then .fat16RootDirectory else .directory
  mode := { read := true, write := true }
  firstCluster := afatfs.rootDirectoryCluster
  attrib := 0x10

/-- `afatfs_chdir`. -/
def chdir (directory : Option FileRef) : Fs Bool := do
  let afatfs ← get
  if (afatfs.files .currentDirectory).isBusy then pure false
  else
    match directory with
    | some file =>
      if (afatfs.files file).isBusy then pure false
      else
        -- the whole handle is copied, its cursor too
        modifyFile .currentDirectory fun _ => afatfs.files file
        pure true
    | none =>
      modifyFile .currentDirectory fun _ => afatfs.rootDirectory
      let _ ← fseek .currentDirectory 0 .seekSet
      pure true

/-! ## Polling -/

/-- `afatfs_fileOperationContinue`. -/
def fileOperationContinue (file : FileRef) : Fs Unit := do
  let afatfs ← get
  let f := afatfs.files file
  if f.type = .none then pure ()
  else
    match f.operation with
    | .none => pure ()
    | .createFile opState => createFileContinue file opState
    | .seek seekOffset => do
      let _ ← fseekInternalContinue file seekOffset
    | .close => fcloseContinue file
    | .unlink opState => funlinkContinue file opState
    | .truncate opState => do
      let _ ← ftruncateContinue file false opState
    | .appendFreeCluster opState => do
      let _ ← appendRegularFreeClusterContinue file opState

/-- `afatfs_fileOperationsPoll`. -/
def fileOperationsPoll : Fs Unit := do
  fileOperationContinue .currentDirectory
  each (fun i => fileOperationContinue (.openFile i)) (List.finRange maxOpenFiles)

/-- `afatfs_poll`, of a card that is ready and a file system that is initialised. -/
def poll : Fs Unit := do
  let _ ← flush
  let afatfs ← get
  if afatfs.filesystemState = .ready then fileOperationsPoll else pure ()

end ComputerSystems.Fat
