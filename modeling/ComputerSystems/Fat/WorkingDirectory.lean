import ComputerSystems.System.CString
import ComputerSystems.System.Shell

/-! # The working directory

`ChangeDirectory` and `change_dir_callback` of `fat.c`.  `CDDir` holds the name of the
last command; `afatfs_fopen` copies it, so that what is opened is known by the names in
`pending`.  `asyncfatfs` looks in the current directory for each of them and may refuse
to change into what it has found, as long as it is busy with the current directory.  A name
that `strcmp` takes for `.` it does not look for: it opens the current directory at once.
-/

namespace ComputerSystems.Fat

open ComputerSystems.System

/-- The globals of `fat.c`, with the directory of `asyncfatfs`. -/
structure WorkingDirectory where
  /-- `CWD`. -/
  cwd : CString
  /-- `CDDir`. -/
  cdDir : CString
  /-- The names of the directories that were entered since the last return to the root. -/
  directory : List CString := []
  /-- The names whose directories are being opened. -/
  pending : List CString := []
deriving DecidableEq

/-- The size of `CWD`. -/
def cwdSize : Nat := 256

/-- The longest argument, with the space before it, that fits into `CDDir` behind it. -/
def argumentLength : Nat := 16

/-- What is printed. -/
inductive DirectoryMessage where
  | nameRequired
  | notMounted
  | openingFailed
deriving DecidableEq, Repr

def DirectoryMessage.text : DirectoryMessage → String
  | .nameRequired => "new directory name required and 12 or less characters."
  | .notMounted => "USB not up or FAT not mounted."
  | .openingFailed => "Opening directory failed\n"

namespace WorkingDirectory

/-- `FatInit` with `asyncfatfs` in the root. -/
def fatInit : WorkingDirectory := { cwd := .slash, cdDir := .empty }

/-- `afatfs_chdir(NULL)`. -/
def chdirRoot (accepted : Bool) (state : WorkingDirectory) : WorkingDirectory :=
  if accepted then { state with directory := [] } else state

/-- `afatfs_chdir` of a directory. -/
def chdir (accepted : Bool) (dir : List CString) (state : WorkingDirectory) : WorkingDirectory :=
  if accepted then { state with directory := dir } else state

/-- The name in `CDDir` is taken for that of the root. -/
def rootName (name : CString) : Prop := strcmp name .slash = some 0 ∨ strcmp name .dotDot = some 0

instance (name : CString) : Decidable (rootName name) := inferInstanceAs (Decidable (_ ∨ _))

/-- The name is taken for that of the current directory in `afatfs_createFile`. -/
def currentName (name : CString) : Prop := strcmp name .dot = some 0

instance (name : CString) : Decidable (currentName name) := inferInstanceAs (Decidable (_ = _))

/-- The argument of a command, if it has one that is not too long. -/
def argument (command : CString) : Option CString :=
  (strchr command space).filter fun arg1 => ¬ argumentLength < strlen arg1

/-- How an open completes: it fails, or `afatfs_chdir` accepts the directory or not. -/
inductive Opened where
  | failed
  | directory (accepted : Bool)
deriving DecidableEq

/-- `change_dir_callback` for a directory. -/
def changeDirCallback (opened : Opened) (dir : List CString) (state : WorkingDirectory) :
    WorkingDirectory × Option DirectoryMessage :=
  match opened with
  | .directory accepted =>
    let state := state.chdir accepted dir
    let state := { state with cwd := state.cwd.append state.cdDir }
    ({ state with cwd := state.cwd.append .slash }, none)
  | .failed => (state, some .openingFailed)

/-- `ChangeDirectory`; `ready` if USB is up and the file system is mounted, `accepted` if
    the root can be entered, and `current` is how an open of the current directory completes. -/
def changeDirectory (ready : Bool) (command : CString) (accepted : Bool) (current : Opened)
    (state : WorkingDirectory) : WorkingDirectory × Option DirectoryMessage :=
  if ready then
    match argument command with
    | none => (state, some .nameRequired)
    | some arg1 =>
      let state := { state with cdDir := arg1.drop 1 }
      if rootName state.cdDir then ({ state.chdirRoot accepted with cwd := .slash }, none)
      else if currentName state.cdDir then state.changeDirCallback current state.directory
      else ({ state with pending := state.pending ++ [state.cdDir] }, none)
  else
    (state, some .notMounted)

end WorkingDirectory

/-- A command, or the completion of one of the opens in progress. -/
inductive DirectoryEvent where
  | changeDirectory (ready : Bool) (command : CString) (accepted : Bool) (current : WorkingDirectory.Opened)
  | callback (index : Nat) (opened : WorkingDirectory.Opened)
deriving DecidableEq

/-- What an event does.  A callback is called once for each open, with what has the name in the
    current directory. -/
def directoryStep (state : WorkingDirectory) : DirectoryEvent → Option WorkingDirectory
  | .changeDirectory ready command accepted current => some (state.changeDirectory ready command accepted current).1
  | .callback index opened =>
    state.pending[index]?.map fun name =>
      ({ state with pending := state.pending.eraseIdx index }.changeDirCallback opened (state.directory ++ [name])).1

end ComputerSystems.Fat
