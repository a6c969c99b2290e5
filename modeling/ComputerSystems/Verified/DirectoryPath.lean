import ComputerSystems.Data.Run
import ComputerSystems.Fat.WorkingDirectory

/-! # What `pwd` shows

The callback appends `CDDir`, whatever `asyncfatfs` has opened and whether or not it could
be entered.  `CWD` is the path of the current directory in exactly those runs in which
nothing is opened under another name than that in `CDDir`, also not the current directory
under one that begins with a dot, every directory can be entered, and there is room for its
name (`showsDirectory_iff`).
-/

namespace ComputerSystems.Verified

open ComputerSystems.Data ComputerSystems.System ComputerSystems.Fat

variable {state next : WorkingDirectory} {event : DirectoryEvent} {events : List DirectoryEvent} {name : CString}
  {names dir : List CString} {accepted ready : Bool} {command arg1 : CString}
  {current opened : WorkingDirectory.Opened}

/-! ## Paths -/

/-- The path of the directory that is reached by some names from the root. -/
def pathText (names : List CString) : CString :=
  names.foldl (fun path name => (path.append name).append .slash) .slash

@[simp] theorem pathText_nil : pathText [] = .slash := rfl

theorem pathText_append : pathText (names ++ [name]) = ((pathText names).append name).append .slash := by
  simp [pathText]

@[simp] theorem strlen_append {string other : CString} : strlen (string.append other) = strlen string + strlen other := by
  simp [strlen, CString.append]

@[simp] theorem strlen_slash : strlen .slash = 1 := rfl

/-- What is appended to the same string is the same. -/
theorem append_left_inj {string other other' : CString} :
    (string.append other).append .slash = (string.append other').append .slash ↔ other = other' := by
  constructor
  · intro same
    have chars := congrArg CString.chars same
    simp only [CString.append, List.append_assoc, List.append_cancel_left_eq, List.append_cancel_right_eq] at chars
    exact CString.ext chars
  · rintro rfl
    rfl

/-- Every name makes the path longer. -/
theorem length_le_strlen_foldl {path : CString} :
    strlen path + names.length ≤ strlen (names.foldl (fun path name => (path.append name).append .slash) path) := by
  induction names generalizing path with
  | nil => simp
  | cons name names ih =>
    have longer := @ih ((path.append name).append .slash)
    rw [strlen_append, strlen_append, strlen_slash] at longer
    rw [List.foldl_cons, List.length_cons]
    omega

theorem pathText_eq_slash_iff : pathText names = .slash ↔ names = [] := by
  constructor
  · intro same
    have longer := @length_le_strlen_foldl names .slash
    rw [← pathText, same] at longer
    exact List.length_eq_zero_iff.mp (by omega)
  · rintro rfl
    rfl

/-! ## What is shown -/

/-- `CWD` is the path of the current directory and, with the NUL behind it, fits. -/
def ShowsDirectory (state : WorkingDirectory) : Prop :=
  state.cwd = pathText state.directory ∧ strlen state.cwd < cwdSize

instance (state : WorkingDirectory) : Decidable (ShowsDirectory state) := inferInstanceAs (Decidable (_ ∧ _))

/-- The event leaves `CWD` the path of the current directory. -/
def ShowsAfter (state : WorkingDirectory) (event : DirectoryEvent) : Prop :=
  ∀ next ∈ directoryStep state event, ShowsDirectory next

instance (state : WorkingDirectory) (event : DirectoryEvent) : Decidable (ShowsAfter state event) :=
  inferInstanceAs (Decidable (∀ next ∈ _, _))

/-- What is opened can be entered, was opened under the name in `CDDir` and leaves room for it;
    the root can be entered unless it is the current directory; and the current directory is not
    opened under another name. -/
def PathKept (state : WorkingDirectory) : DirectoryEvent → Prop
  | .changeDirectory ready command accepted current =>
    ready = true → ∀ arg1 ∈ WorkingDirectory.argument command,
      (WorkingDirectory.rootName (arg1.drop 1) → accepted = true ∨ state.directory = []) ∧
        (¬ WorkingDirectory.rootName (arg1.drop 1) → WorkingDirectory.currentName (arg1.drop 1) → current = .failed)
  | .callback index (.directory accepted) =>
    ∀ name ∈ state.pending[index]?,
      accepted = true ∧ state.cdDir = name ∧ strlen state.cwd + strlen state.cdDir + 1 < cwdSize
  | .callback _ .failed => True

/-- The root can be entered. -/
theorem showsDirectory_chdirRoot :
    ShowsDirectory { state.chdirRoot accepted with cwd := .slash } ↔ accepted = true ∨ state.directory = [] := by
  have short : strlen .slash < cwdSize := by decide
  simp only [ShowsDirectory, short, and_true]
  cases accepted with
  | true => simp [WorkingDirectory.chdirRoot]
  | false =>
    simp only [WorkingDirectory.chdirRoot, Bool.false_eq_true, if_false, false_or]
    rw [eq_comm, pathText_eq_slash_iff]

/-- The callback appends the name in `CDDir`, which makes the path longer. -/
theorem not_showsDirectory_same (shows : ShowsDirectory state) {state' : WorkingDirectory}
    (same : state'.directory = state.directory) :
    ¬ ShowsDirectory { state' with cwd := (state.cwd.append name).append .slash } := by
  obtain ⟨path, -⟩ := shows
  rintro ⟨path', -⟩
  have length := congrArg strlen path'
  simp only [strlen_append, strlen_slash, same, ← path] at length
  omega

/-- The name is that of the directory or not. -/
theorem showsDirectory_directory (shows : ShowsDirectory state) :
    ShowsDirectory (state.changeDirCallback (.directory accepted) (state.directory ++ [name])).1 ↔
      accepted = true ∧ state.cdDir = name ∧ strlen state.cwd + strlen state.cdDir + 1 < cwdSize := by
  cases accepted with
  | true =>
    simp only [WorkingDirectory.changeDirCallback, WorkingDirectory.chdir, if_true, ShowsDirectory, pathText_append,
      ← shows.1, append_left_inj, strlen_append, strlen_slash, true_and]
  | false =>
    simp only [Bool.false_eq_true, false_and, iff_false]
    exact not_showsDirectory_same shows rfl

/-- The path of the current directory is not made longer only if that is not opened. -/
theorem showsDirectory_current (shows : ShowsDirectory state) :
    ShowsDirectory (state.changeDirCallback opened state.directory).1 ↔ opened = .failed := by
  cases opened with
  | failed => exact ⟨fun _ => rfl, fun _ => shows⟩
  | directory accepted =>
    have same : (state.chdir accepted state.directory).directory = state.directory := by cases accepted <;> rfl
    have cwd : (state.chdir accepted state.directory).cwd = state.cwd := by cases accepted <;> rfl
    have longer := @not_showsDirectory_same state (state.chdir accepted state.directory).cdDir shows _ same
    rw [← cwd] at longer
    exact ⟨fun shown => absurd shown longer, by rintro ⟨⟩⟩

/-- A command leaves `CWD` alone or returns to the root. -/
theorem showsDirectory_changeDirectory (shows : ShowsDirectory state) :
    ShowsDirectory (state.changeDirectory ready command accepted current).1 ↔
      PathKept state (.changeDirectory ready command accepted current) := by
  cases ready with
  | false => simpa [WorkingDirectory.changeDirectory, PathKept] using shows
  | true =>
    cases found : WorkingDirectory.argument command with
    | none => simpa [WorkingDirectory.changeDirectory, PathKept, found] using shows
    | some arg1 =>
      simp only [WorkingDirectory.changeDirectory, PathKept, found, if_true, Option.mem_some_iff, forall_eq',
        true_implies]
      by_cases root : WorkingDirectory.rootName (arg1.drop 1)
      · rw [if_pos root, showsDirectory_chdirRoot]
        simp [root]
      · rw [if_neg root]
        by_cases isCurrent : WorkingDirectory.currentName (arg1.drop 1)
        · have shows' : ShowsDirectory { state with cdDir := arg1.drop 1 } := shows
          rw [if_pos isCurrent, showsDirectory_current shows']
          simp [root, isCurrent]
        · rw [if_neg isCurrent]
          exact ⟨fun _ => ⟨fun named => absurd named root, fun _ named => absurd named isCurrent⟩, fun _ => shows⟩

/-- One event shows the directory if and only if nothing interferes. -/
theorem showsAfter_iff (shows : ShowsDirectory state) : ShowsAfter state event ↔ PathKept state event := by
  cases event with
  | changeDirectory ready command accepted current =>
    simp only [ShowsAfter, directoryStep, Option.mem_some_iff, forall_eq']
    exact showsDirectory_changeDirectory shows
  | callback index opened =>
    cases found : state.pending[index]? with
    | none => cases opened <;> simp [ShowsAfter, directoryStep, PathKept, found]
    | some name =>
      simp only [ShowsAfter, directoryStep, found, Option.map_some, Option.mem_some_iff, forall_eq']
      have others : ShowsDirectory { state with pending := state.pending.eraseIdx index } := shows
      cases opened with
      | failed => exact ⟨fun _ => trivial, fun _ => shows⟩
      | directory accepted =>
        rw [showsDirectory_directory others]
        simp [PathKept, found]

theorem showsDirectory_fatInit : ShowsDirectory .fatInit := ⟨rfl, by decide⟩

/-- `CWD` is the path of the current directory, and fits, after every event of exactly the runs
    in which every event is undisturbed. -/
theorem showsDirectory_iff (events : List DirectoryEvent) :
    Along directoryStep ShowsAfter events .fatInit ↔ Along directoryStep PathKept events .fatInit := by
  have anything : Along directoryStep (fun _ _ => True) events .fatInit :=
    Along.of_forall_mem fun _ _ => trivial
  refine anything.congr ShowsDirectory showsDirectory_fatInit ?_
  intro state event shows _
  exact ⟨showsAfter_iff shows, id⟩

theorem commands_terminated :
    0 ∉ ([99, 100, 32, 97] : List UInt8) ∧ 0 ∉ ([99, 100, 32, 98] : List UInt8) := by decide

/-- `cd a`. -/
def cdA : CString := ⟨[99, 100, 32, 97], commands_terminated.1⟩

/-- `cd b`. -/
def cdB : CString := ⟨[99, 100, 32, 98], commands_terminated.2⟩

/-- The directory `a` is entered and `b` is shown, if `cd b` comes while `a` is being opened. -/
theorem showsDirectory_not_always : ¬ ∀ events, Along directoryStep ShowsAfter events .fatInit := by
  intro always
  have shown := always [.changeDirectory true cdA true .failed, .changeDirectory true cdB true .failed,
    .callback 0 (.directory true)]
  revert shown
  decide

/-! ## One command at a time -/

/-- No command is given while a directory is being opened. -/
def LooksAlone (state : WorkingDirectory) : DirectoryEvent → Prop
  | .changeDirectory _ _ _ _ => state.pending = []
  | .callback _ _ => True

@[simp] theorem chdirRoot_pending : (state.chdirRoot accepted).pending = state.pending := by
  cases accepted <;> rfl

@[simp] theorem changeDirCallback_pending : (state.changeDirCallback opened dir).1.pending = state.pending := by
  cases opened with
  | failed => rfl
  | directory accepted => cases accepted <;> rfl

theorem changeDirectory_pending (alone : state.pending = []) :
    (state.changeDirectory ready command accepted current).1.pending = [] ∨
      (state.changeDirectory ready command accepted current).1.pending =
        [(state.changeDirectory ready command accepted current).1.cdDir] := by
  cases ready with
  | false => exact .inl alone
  | true =>
    cases found : WorkingDirectory.argument command with
    | none => simp [WorkingDirectory.changeDirectory, found, alone]
    | some arg1 =>
      by_cases root : WorkingDirectory.rootName (arg1.drop 1)
      · simp [WorkingDirectory.changeDirectory, found, root, alone]
      · by_cases isCurrent : WorkingDirectory.currentName (arg1.drop 1)
        · simp [WorkingDirectory.changeDirectory, found, root, isCurrent, alone]
        · simp [WorkingDirectory.changeDirectory, found, root, isCurrent, alone]

/-- `CDDir` then holds the name of whatever is being opened. -/
theorem cdDir_of_alone (alone : Along directoryStep LooksAlone events .fatInit) :
    Along directoryStep (fun state _ => ∀ name ∈ state.pending, state.cdDir = name) events .fatInit := by
  refine alone.invariant (fun state => state.pending = [] ∨ state.pending = [state.cdDir]) (.inl rfl) ?_
  intro state event pending assumed
  refine ⟨?now, ?later⟩
  case now =>
    obtain none | one := pending
    · simp [none]
    · simp [one]
  case later =>
    intro next steps
    cases event with
    | changeDirectory ready command accepted current =>
      obtain rfl : (state.changeDirectory ready command accepted current).1 = next := Option.some.inj steps
      exact changeDirectory_pending assumed
    | callback index opened =>
      obtain ⟨name, found, rfl⟩ := Option.map_eq_some_iff.mp steps
      left
      obtain none | one := pending
      · simp [none] at found
      · obtain rfl : index = 0 := by
          have inside := (List.getElem?_eq_some_iff.mp found).1
          simpa [one] using inside
        simp [one]

end ComputerSystems.Verified
