import ComputerSystems.Fat.Opening

/-! # Runs of the file system

What applications do to files and to the current directory, the polls in between and the
transfers that the card completes, as the events of a machine.
-/

namespace ComputerSystems.Fat

open ComputerSystems.Data ComputerSystems.System Program

/-- Where the file is once it is not busy with a seek. -/
def AfatfsFile.target (f : AfatfsFile) : Nat :=
  match f.operation with
  | .seek seekOffset => f.cursorOffset.toNat + seekOffset.toNat
  | _ => f.cursorOffset.toNat

/-- Where a seek leads to, and none behind the end of a file. -/
def AfatfsFile.seekTarget (offset : Word) (whence : Whence) (f : AfatfsFile) : Nat :=
  let size := f.updateFilesize.logicalSize
  match whence with
  | .seekSet => min offset.toNat size.toNat
  | .seekEnd => if size + offset = f.cursorOffset then f.cursorOffset.toNat else min (offset + size).toNat size.toNat
  | .seekCur =>
    -- what was the new place is gone on from the old one
    if BitVec.sle 0 offset then f.cursorOffset.toNat + min (f.cursorOffset + offset).toNat size.toNat
    else min (offset + f.cursorOffset).toNat size.toNat

/-- The operation ends with the file being closed. -/
def FileOperation.closing : FileOperation → Bool
  | .close => true
  | .unlink _ => true
  | _ => false

/-- The operation opens the file. -/
def FileOperation.opening : FileOperation → Bool
  | .createFile _ => true
  | _ => false

/-- `FAT_FILE_ATTRIBUTE_DIRECTORY`. -/
def AfatfsFile.isDirectory (f : AfatfsFile) : Bool := f.attrib &&& 0x10 ≠ 0

/-- The file is being opened. -/
def AfatfsFile.Opens (f : AfatfsFile) : Prop := f.type ≠ .none ∧ f.operation.opening = true

/-- The handle is one of an open file that is no directory. -/
def AfatfsFile.IsFile (f : AfatfsFile) (file : FileRef) : Prop :=
  f.type = .normal ∧ f.isDirectory = false ∧ file ≠ .currentDirectory ∧ f.operation.opening = false

/-- The handle is one of a directory. -/
def AfatfsFile.IsDirectory (f : AfatfsFile) (file : FileRef) : Prop :=
  f.type ≠ .none ∧ (f.type = .normal → f.isDirectory = true) ∧ file ≠ .currentDirectory

/-- The file is open and not being closed. -/
def AfatfsFile.IsOpen (f : AfatfsFile) (file : FileRef) : Prop := f.IsFile file ∧ f.operation.closing = false

instance AfatfsFile.decidableOpens (f : AfatfsFile) : Decidable f.Opens := inferInstanceAs (Decidable (_ ∧ _))

instance AfatfsFile.decidableIsFile (f : AfatfsFile) (file : FileRef) : Decidable (f.IsFile file) :=
  inferInstanceAs (Decidable (_ ∧ _))

instance AfatfsFile.decidableIsDirectory (f : AfatfsFile) (file : FileRef) : Decidable (f.IsDirectory file) :=
  inferInstanceAs (Decidable (_ ∧ _))

instance AfatfsFile.decidableIsOpen (f : AfatfsFile) (file : FileRef) : Decidable (f.IsOpen file) :=
  inferInstanceAs (Decidable (_ ∧ _))

/-- No file is being opened. -/
def Afatfs.Calm (afatfs : Afatfs) : Prop := ∀ i, ¬ (afatfs.files (.openFile i)).Opens

instance Afatfs.decidableCalm (afatfs : Afatfs) : Decidable afatfs.Calm := inferInstanceAs (Decidable (∀ _, _))

inductive FileEvent where
  /-- A file that is there already is opened. -/
  | fopen (filename : CString) (mode : OpenMode)
  | chdir (directory : Option FileRef)
  | fseek (file : FileRef) (offset : Word) (whence : Whence)
  | fread (file : FileRef) (len : Word)
  | fwrite (file : FileRef) (buffer : List UInt8)
  | fputc (file : FileRef) (c : UInt8)
  | ftruncate (file : FileRef)
  | fclose (file : FileRef)
  | funlink (file : FileRef)
  | poll
  /-- The card ends its transfer. -/
  | completes (success : Bool) (stored : Sector)

inductive FileAnswer where
  | status (status : OperationStatus)
  | bytes (bytes : List UInt8)
  | count (count : Nat)
  | started (done : Bool)
  | nothing
deriving DecidableEq, Repr

/-- The open file that the event is about. -/
def FileEvent.file : FileEvent → Option FileRef
  | .fopen _ _ => none
  | .chdir _ => none
  | .fseek file _ _ => some file
  | .fread file _ => some file
  | .fwrite file _ => some file
  | .fputc file _ => some file
  | .ftruncate file => some file
  | .fclose file => some file
  | .funlink file => some file
  | .poll => none
  | .completes _ _ => none

def FileEvent.run : FileEvent → Fs FileAnswer
  | .fopen filename mode => do
    let done ← Fat.fopen filename mode
    pure (.started done)
  | .chdir directory => do
    let done ← Fat.chdir directory
    pure (.started done)
  | .fseek file offset whence => do
    let status ← Fat.fseek file offset whence
    pure (.status status)
  | .fread file len => do
    let bytes ← Fat.fread file len
    pure (.bytes bytes)
  | .fwrite file buffer => do
    let count ← Fat.fwrite file buffer
    pure (.count count)
  | .fputc file c => do
    Fat.fputc file c
    pure .nothing
  | .ftruncate file => do
    let done ← Fat.ftruncate file
    pure (.started done)
  | .fclose file => do
    let done ← Fat.fclose file
    pure (.started done)
  | .funlink file => do
    let done ← Fat.funlink file
    pure (.started done)
  | .poll => do
    Fat.poll
    pure .nothing
  | .completes success stored => do
    cardCompletes success stored
    pure .nothing

/-- What the applications see to: one file is opened after the other, and the current directory is not
    changed meanwhile; a file is open, it is not busy when the cursor is moved and does not go behind its
    clusters, it is at its beginning when it is truncated, and its size is not too large for 32 bits.
    Characters are not put in a file that is being closed, and a handle of a directory is closed if it is
    for reading. -/
def FileEvent.Allowed (afatfs : Afatfs) : FileEvent → Prop
  | .fopen _ _ => afatfs.Calm
  | .chdir (some file) => afatfs.Calm ∧ (afatfs.files file).IsDirectory file
  | .chdir none => afatfs.Calm
  | .fseek file offset whence =>
    let f := afatfs.files file
    f.IsFile file ∧ f.operation = .none ∧ f.seekTarget offset whence ≤ f.physicalSize.toNat
  | .fread file _ => (afatfs.files file).IsFile file
  | .fwrite file buffer =>
    let f := afatfs.files file
    f.IsFile file ∧ f.target + buffer.length + afatfs.clusterSize.toNat < 2 ^ 32
  | .fputc file _ =>
    let f := afatfs.files file
    f.IsFile file ∧ f.operation.closing = false ∧ f.target + 1 + afatfs.clusterSize.toNat < 2 ^ 32
  | .ftruncate file =>
    let f := afatfs.files file
    f.IsFile file ∧ (f.isBusy = false → f.cursorOffset = 0)
  | .fclose file =>
    let f := afatfs.files file
    f.IsFile file ∨ f.IsDirectory file ∧ f.savesEntry = false
  | .funlink file => (afatfs.files file).IsFile file
  | .poll => True
  | .completes _ _ => True

instance decidableFileAllowed (afatfs : Afatfs) (event : FileEvent) : Decidable (event.Allowed afatfs) := by
  rcases event with _ | (_ | _) | _ | _ | _ | _ | _ | _ | _ | _ | _ <;> unfold FileEvent.Allowed <;> infer_instance

/-- An event with what the card answers meanwhile. -/
def fileStep (volume : Volume) (event : FileEvent × List CardAnswer) : Option Volume :=
  if event.1.Allowed volume.afatfs then
    match exec event.1.run event.2 volume with
    | .ok later => some later
    | .error _ => none
  else none

end ComputerSystems.Fat
