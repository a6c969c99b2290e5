import ComputerSystems.Usb.Keyboard
import ComputerSystems.Verified.ShellBuffer

/-! # The line that is executed

While a line is typed the buffer begins with the text that the backspaces have left, and the
index is its length.  A carriage return at the end is taken out again, but a line feed, which is
what the Enter key of a keyboard gives, stays in the command.
-/

namespace ComputerSystems.Verified

open ComputerSystems.Data ComputerSystems.System

variable {config : ShellConfig} {state next : ShellState} {event : PollEvent} {key terminator : UInt8}
  {text bytes : List UInt8}

/-! ## Editing -/

/-- At this index a line is executed. -/
def lineLimit : Nat := commandLength - 1

/-- A character that is text. -/
def Plain (key : UInt8) : Prop := key ≠ 0 ∧ key ≠ backspace ∧ key ≠ lineFeed ∧ key ≠ carriageReturn

/-- The text after a character. -/
def editText (text : List UInt8) (key : UInt8) : List UInt8 :=
  if key = backspace then text.dropLast else text ++ [key]

/-- What may be typed behind a text: a backspace if there is something to take back, or a character with
    which the text stays below the limit and is not a command of one character. -/
def Typeable (config : ShellConfig) (text : List UInt8) (key : UInt8) : Prop :=
  if key = backspace then text ≠ []
  else Plain key ∧ text.length + 1 < lineLimit ∧ (text = [] → ∀ cmd ∈ shellCommands config, cmd.command ≠ [key])

instance decidableTypeable (config : ShellConfig) (text : List UInt8) (key : UInt8) :
    Decidable (Typeable config text key) :=
  inferInstanceAs (Decidable (if key = backspace then text ≠ []
    else (key ≠ 0 ∧ key ≠ backspace ∧ key ≠ lineFeed ∧ key ≠ carriageReturn) ∧ text.length + 1 < lineLimit ∧
      (text = [] → ∀ cmd ∈ shellCommands config, cmd.command ≠ [key])))

/-- The characters that are read. -/
def typedKeys (events : List PollEvent) : List UInt8 := events.filterMap (·.key)

def typedText (events : List PollEvent) : List UInt8 := (typedKeys events).foldl editText []

/-- Characters that may be typed one after the other. -/
def Typed (config : ShellConfig) (events : List PollEvent) : Prop :=
  Along (fun text key => some (editText text key)) (Typeable config) (typedKeys events) []

/-! ## What is given -/

/-- The commands that are given to `shell` and to functions. -/
def given (actions : List ShellAction) : List (Option (List UInt8)) :=
  actions.filterMap fun action =>
    match action with
    | .lookUp command => some command
    | .call _ command => some command
    | _ => none

/-- The polls that execute a command, until it has finished. -/
def commandRun (config : ShellConfig) : List PollEvent → ShellState → List ShellAction
  | [], _ => []
  | event :: later, state =>
    if state.cmd.isNone then []
    else
      let polled := shellPoll config event state
      polled.actions ++ (if polled.status.isSome then commandRun config later polled.state else [])

/-- What is given once the terminator has been read. -/
def lineGiven (config : ShellConfig) (terminator : UInt8) (later : List PollEvent) (state : ShellState) :
    List (Option (List UInt8)) :=
  let ended := shellPoll config { key := some terminator } state
  given ended.actions ++ given (commandRun config later ended.state)

/-- No function is called. -/
def CallsNothing (actions : List ShellAction) : Prop := ∀ cmd command, ShellAction.call cmd command ∉ actions

def PollCallsNothing (config : ShellConfig) (state : ShellState) (event : PollEvent) : Prop :=
  CallsNothing (shellPoll config event state).actions

/-- A line is typed, during which no function is called; what is given at its end is the text, and
    unless there is none, or the commands are asked for, something is. -/
structure ExecutesText (config : ShellConfig) (typed : List PollEvent) (terminator : UInt8) (later : List PollEvent)
    (start : ShellState) (text : List UInt8) : Prop where
  quiet : Along (pollStep config) (PollCallsNothing config) typed start
  ends : ∃ state, typed.foldlM (pollStep config) start = some state ∧
    (∀ command ∈ lineGiven config terminator later state, command = some text) ∧
    (text ≠ [] → text ≠ [questionMark] → lineGiven config terminator later state ≠ [])

/-! ## Strings -/

/-- The buffer begins with a string. -/
structure Spells (state : ShellState) (bytes : List UInt8) : Prop where
  short : bytes.length < commandLength
  plain : 0 ∉ bytes
  cells : ∀ index (within : index < bytes.length), state.command index = bytes[index]
  zero : state.command bytes.length = 0

theorem stringAt_eq {load : Nat → UInt8} {index room : Nat} (short : bytes.length < room) (plain : 0 ∉ bytes)
    (cells : ∀ offset (within : offset < bytes.length), load (index + offset) = bytes[offset])
    (zero : load (index + bytes.length) = 0) : stringAt load index room = some bytes := by
  induction bytes generalizing index room with
  | nil =>
    obtain ⟨room, rfl⟩ := Nat.exists_eq_add_of_lt short
    have here : load index = 0 := zero
    simp [stringAt, here]
  | cons byte rest ih =>
    obtain ⟨room, rfl⟩ := Nat.exists_eq_add_of_lt short
    rw [List.mem_cons, not_or] at plain
    -- The first byte is not the end, and the rest is spelled from the next index on.
    have here : load index = byte := cells 0 (Nat.zero_lt_succ _)
    have later : stringAt load (index + 1) (rest.length + 1 + room) = some rest := by
      apply ih (by omega) plain.2
      · intro offset within
        rw [Nat.add_assoc, Nat.add_comm 1]
        exact cells (offset + 1) (Nat.succ_lt_succ within)
      · rw [Nat.add_assoc, Nat.add_comm 1]
        exact zero
    rw [List.length_cons, stringAt, here, if_neg (Ne.symm plain.1), later]
    rfl

theorem Spells.text_eq (spells : Spells state bytes) : state.text = some bytes := by
  apply stringAt_eq spells.short spells.plain
  · intro offset within
    have other : 0 + offset ≠ commandLength := by have := spells.short; omega
    rw [load_of_ne other, Nat.zero_add]
    exact spells.cells offset within
  · have other : 0 + bytes.length ≠ commandLength := by have := spells.short; omega
    rw [load_of_ne other, Nat.zero_add]
    exact spells.zero

/-! ## Names of one character -/

theorem shellCommands_plain : ∀ cmd ∈ shellCommands config, cmd.command ≠ [] ∧ 0 ∉ cmd.command :=
  shellCommands_forall (by decide)

/-- A name that agrees with a string of one character is that character. -/
theorem memcmp_single {load : Nat → UInt8} {name : List UInt8} (here : load 0 = key) (behind : load 1 = 0)
    (named : name ≠ [] ∧ 0 ∉ name) (other : name ≠ [key]) : (memcmp load 0 name).2 = false := by
  cases name with
  | nil => exact absurd rfl named.1
  | cons byte rest =>
    rw [memcmp]
    split
    next same =>
      cases rest with
      | nil => exact absurd (by rw [← same, here]) other
      | cons second rest =>
        have differs : load 1 ≠ second := by
          rw [behind]
          rintro rfl
          exact named.2 (by simp)
        rw [memcmp, if_neg differs]
    next => rfl

/-! ## Typing -/

/-- The buffer begins with the text, and the index is behind it. -/
structure LineInv (text : List UInt8) (state : ShellState) : Prop where
  idle : state.cmd = none
  reading : state.result ≠ taskFinished
  index : state.i.toNat = text.length
  short : text.length < lineLimit
  plain : 0 ∉ text
  cells : ∀ index (within : index < text.length), state.command index = text[index]

theorem LineInv.room (inv : LineInv text state) : state.i.toNat < commandLength - 1 := inv.index ▸ inv.short

theorem stored_below {index : Nat} (below : index < state.i.toNat) :
    (stored key state).command index = state.command index := by
  simp only [stored]
  rw [Function.update_of_ne (by omega), Function.update_of_ne below.ne]

theorem stored_here : (stored key state).command state.i.toNat = key := by
  simp only [stored]
  rw [Function.update_of_ne (by omega), Function.update_self]

theorem stored_behind : (stored key state).command (state.i.toNat + 1) = 0 := Function.update_self ..

/-- The buffer begins with the text and the character. -/
theorem LineInv.stored_cells (inv : LineInv text state) :
    ∀ index (within : index < (text ++ [key]).length), (stored key state).command index = (text ++ [key])[index] := by
  intro index within
  rw [List.length_append, List.length_singleton] at within
  by_cases below : index < text.length
  · rw [List.getElem_append_left below, stored_below (by rw [inv.index]; exact below)]
    exact inv.cells index below
  · obtain rfl : index = text.length := by omega
    rw [List.getElem_concat_length rfl, ← inv.index, stored_here]

theorem LineInv.reads (inv : LineInv text state) (typed : event.key = some key) :
    shellPoll config event state = readKey config key state := by
  apply poll_eq_of_read
  rw [keyRead, if_pos ⟨Option.isNone_iff_eq_none.mpr inv.idle, inv.reading⟩, typed]

theorem LineInv.first_iff (inv : LineInv text state) : state.i = 0 ↔ text = [] := by
  rw [← List.length_eq_zero_iff, ← inv.index, ← UInt8.toNat_inj]
  rfl

/-- The text that a backspace leaves. -/
theorem LineInv.erase (inv : LineInv text state) (some : text ≠ []) :
    LineInv text.dropLast (editLine (stored backspace state)).state := by
  have positive : state.i ≠ 0 := fun first => some (inv.first_iff.mp first)
  have index : (editLine (stored backspace state)).state.i.toNat = state.i.toNat - 1 := by
    rw [editLine_i inv.room, if_pos rfl, toNat_pred positive]
  have bound := inv.short
  obtain ⟨command, cmd, result, _⟩ := @editLine_frame (stored backspace state)
  refine ⟨cmd.trans inv.idle, result ▸ inv.reading, ?_, ?_, fun mem => inv.plain (List.dropLast_subset _ mem), ?_⟩
  · rw [index, inv.index, List.length_dropLast]
  · rw [List.length_dropLast]
    omega
  · intro index within
    rw [List.length_dropLast] at within
    rw [command, List.getElem_dropLast, stored_below (by rw [inv.index]; omega)]
    exact inv.cells index (by omega)

/-- The text with a character behind it. -/
theorem LineInv.append (inv : LineInv text state) (plain : Plain key) (room : text.length + 1 < lineLimit) :
    LineInv (text ++ [key]) (editLine (stored key state)).state := by
  have index : (editLine (stored key state)).state.i.toNat = state.i.toNat + 1 := by
    have bound := inv.room
    rw [editLine_i inv.room, if_neg plain.2.1, toNat_succ (bound.trans (by decide))]
  obtain ⟨command, cmd, result, _⟩ := @editLine_frame (stored key state)
  refine ⟨cmd.trans inv.idle, result ▸ inv.reading, ?_, ?_, ?_, ?_⟩
  · rw [index, inv.index, List.length_append, List.length_singleton]
  · rwa [List.length_append, List.length_singleton]
  · rw [List.mem_append, List.mem_singleton, not_or]
    exact ⟨inv.plain, Ne.symm plain.1⟩
  · rw [command]
    exact inv.stored_cells

/-- A character that is typed first is no command. -/
theorem lookUp_unknown (first : state.i = 0)
    (other : ∀ cmd ∈ shellCommands config, cmd.command ≠ [key]) :
    ((stored key state).lookUp config).2 = none := by
  have place : state.i.toNat = 0 := by rw [first]; rfl
  have here : (stored key state).command state.i.toNat = key := stored_here
  have behind : (stored key state).command (state.i.toNat + 1) = 0 := stored_behind
  rw [place] at here behind
  apply shell_eq_none
  intro cmd mem
  exact memcmp_single here behind (shellCommands_plain cmd mem) (other cmd mem)

theorem callsNothing_append {first second : List ShellAction} :
    CallsNothing (first ++ second) ↔ CallsNothing first ∧ CallsNothing second := by
  simp only [CallsNothing, List.mem_append, not_or, forall_and]

theorem lookUp_callsNothing : CallsNothing (state.lookUp config).1 := by
  intro cmd command
  simp [ShellState.lookUp]

theorem editLine_callsNothing : CallsNothing (editLine state).actions := by
  intro cmd command
  rw [editLine]
  split
  · simp
  · simp

theorem LineInv.typed (inv : LineInv text state) (typeable : Typeable config text key) :
    CallsNothing (readKey config key state).actions ∧ (readKey config key state).status.isSome ∧
      LineInv (editText text key) (readKey config key state).state := by
  have cases : key = backspace ∧ text ≠ [] ∨ key ≠ backspace ∧ Plain key ∧ text.length + 1 < lineLimit ∧
      (text = [] → ∀ cmd ∈ shellCommands config, cmd.command ≠ [key]) := by
    rw [Typeable] at typeable
    split at typeable
    · exact .inl ⟨‹_›, typeable⟩
    · exact .inr ⟨‹_›, typeable⟩
  -- So the character neither ends the line nor is executed by itself.
  have inside : key ≠ carriageReturn ∧ key ≠ lineFeed := by
    rcases cases with ⟨rfl, _⟩ | ⟨_, plain, _⟩
    · decide
    · exact ⟨plain.2.2.2, plain.2.2.1⟩
  have unknown (first : state.i = 0) : ((stored key state).lookUp config).2 = none := by
    have empty := inv.first_iff.mp first
    rcases cases with ⟨_, some⟩ | ⟨_, _, _, other⟩
    · exact absurd empty some
    · exact lookUp_unknown first (other empty)
  have outcome := @readKey_outcome config _ key inv.room
  generalize readKey config key state = polled at outcome ⊢
  cases outcome with
  | ended last => exact absurd last (not_or.mpr inside)
  | single _ first found =>
    rw [unknown first] at found
    exact absurd found Bool.false_ne_true
  | edited looked tests _ _ =>
    refine ⟨?_, ?_, ?_⟩
    · rw [callsNothing_append, callsNothing_append]
      refine ⟨⟨fun cmd command => by simp [readActions], ?_⟩, editLine_callsNothing⟩
      rcases tests with rfl | rfl
      · exact fun _ _ => List.not_mem_nil
      · exact lookUp_callsNothing
    · rw [editLine_frame.2.2.2]
      rfl
    · rw [editText]
      rcases cases with ⟨rfl, some⟩ | ⟨types, plain, room, _⟩
      · rw [if_pos rfl]
        exact inv.erase some
      · rw [if_neg types]
        exact inv.append plain room

/-- A poll that finds no character. -/
theorem LineInv.waits (inv : LineInv text state) (nothing : event.key = none) :
    shellPoll config event state = { state, status := some taskIdle } := by
  simp only [shellPoll, inv.idle, if_neg inv.reading, nothing]

/-- What is typed is what is in the buffer. -/
theorem LineInv.run {events : List PollEvent} (inv : LineInv text state)
    (typed : Along (fun text key => some (editText text key)) (Typeable config) (typedKeys events) text) :
    Along (pollStep config) (PollCallsNothing config) events state ∧
      ∃ line, events.foldlM (pollStep config) state = some line ∧
        LineInv ((typedKeys events).foldl editText text) line := by
  induction events generalizing text state with
  | nil => exact ⟨trivial, state, rfl, inv⟩
  | cons event events ih =>
    cases found : event.key with
    | none =>
      -- Nothing is available: the poll returns, and the state stays.
      have keys : typedKeys (event :: events) = typedKeys events := by simp [typedKeys, found]
      rw [keys] at typed ⊢
      obtain ⟨quiet, line, run, kept⟩ := ih inv typed
      have step : pollStep config state event = some state := by rw [pollStep, inv.waits found]; rfl
      refine ⟨⟨?_, fun next steps => ?_⟩, line, ?_, kept⟩
      · rw [PollCallsNothing, inv.waits found]
        exact fun _ _ => List.not_mem_nil
      · obtain rfl : state = next := Option.some.inj (step.symm.trans steps)
        exact quiet
      · rw [List.foldlM_cons, step]
        exact run
    | some key =>
      have keys : typedKeys (event :: events) = key :: typedKeys events := by simp [typedKeys, found]
      rw [keys] at typed ⊢
      obtain ⟨quietly, returns, next⟩ := inv.typed typed.1
      rw [← inv.reads found] at quietly returns next
      obtain ⟨quiet, line, run, kept⟩ := ih next (typed.2 _ rfl)
      obtain ⟨status, returns⟩ := Option.isSome_iff_exists.mp returns
      have step : pollStep config state event = some (shellPoll config event state).state := by
        rw [pollStep, returns]
        rfl
      refine ⟨⟨quietly, fun next steps => ?_⟩, line, ?_, kept⟩
      · obtain rfl := Option.some.inj (step.symm.trans steps)
        exact quiet
      · rw [List.foldlM_cons, step]
        exact run

/-! ## The end of a line -/

@[simp] theorem given_append {first second : List ShellAction} :
    given (first ++ second) = given first ++ given second :=
  List.filterMap_append

theorem given_map {α : Type*} {items : List α} {action : α → ShellAction} (silent : ∀ item, given [action item] = []) :
    given (items.map action) = [] := by
  induction items with
  | nil => rfl
  | cons item items ih => rw [List.map_cons, ← List.singleton_append, given_append, silent, ih, List.append_nil]

theorem given_endActions {last : Nat} : given (endActions last state) = [] := by
  rw [endActions]
  split <;> split <;> rfl

theorem given_helpActions : given (helpActions config) = [] := by
  rw [helpActions, given_append, given_append, given_map fun _ => rfl]
  rfl

theorem given_lookUp : given (state.lookUp config).1 = [state.text] := by
  have looked : given (state.lookUp config).1 =
      state.text :: given ((shell (fun index => state.load index) (shellCommands config)).1.map .access) := rfl
  rw [looked, given_map fun _ => rfl]

theorem given_testActions : given (testActions state) = [] := by
  rw [testActions]
  split <;> rfl

/-! ## The command that is executed -/

theorem given_prompt : given (shellPrompt config state).actions = [] := given_map fun _ => rfl

theorem CommandOutcome.command {cmd : ShellCmd} {polled : ShellPolled}
    (outcome : CommandOutcome config cmd state polled) : polled.state.command = state.command := by
  cases outcome with
  | executing _ _ _ _ command => exact command
  | finished _ _ _ command => exact command

theorem CommandOutcome.given {cmd : ShellCmd} {polled : ShellPolled}
    (outcome : CommandOutcome config cmd state polled) : Verified.given polled.actions = [state.text] := by
  have called {prior : List ShellAction} (printed : prior = [] ∨ prior = [.putc lineFeed]) :
      Verified.given (prior ++ [.call cmd state.text]) = [state.text] := by
    rcases printed with rfl | rfl
    · rfl
    · rfl
  cases outcome with
  | executing prior printed => exact called printed
  | finished prior printed =>
    rw [given_append, called printed, given_prompt]
    rfl

theorem commandRun_idle {later : List PollEvent} (idle : state.cmd = none) : commandRun config later state = [] := by
  cases later with
  | nil => rfl
  | cons event later => rw [commandRun, idle]; rfl

/-- The function of the command is given what is in the buffer, as often as it is called. -/
theorem commandRun_given {later : List PollEvent} :
    ∀ command ∈ given (commandRun config later state), command = state.text := by
  induction later generalizing state with
  | nil => simp [commandRun, given]
  | cons event later ih =>
    cases found : state.cmd with
    | none => simp [commandRun_idle found, given]
    | some cmd =>
      have poll : shellPoll config event state = executeCommand config cmd event.returns state := by
        rw [shellPoll, found]
      -- One call with the command, and then those behind it with the same command.
      have outcome := @executeCommand_outcome config state cmd event.returns
      rw [commandRun, found]
      simp only [Option.isNone_some, Bool.false_eq_true, if_false]
      rw [poll, given_append, outcome.given]
      intro command mem
      rw [List.mem_append, List.mem_singleton] at mem
      cases mem with
      | inl first => exact first
      | inr mem =>
        split at mem
        · rw [ih command mem, text_congr outcome.command]
        · simp [given] at mem

/-! ## The text and the terminator -/

/-- What is in the buffer when a line has ended. -/
def spelledLine (terminator : UInt8) (text : List UInt8) : List UInt8 :=
  if terminator = carriageReturn then text else text ++ [terminator]

/-- Nothing is looked up of such a line. -/
def NotLooked (terminator : UInt8) (text : List UInt8) : Prop :=
  text = [questionMark] ∨ text = [] ∧ terminator = carriageReturn

theorem LineInv.spells_return (inv : LineInv text state) : Spells (stored carriageReturn state).dropReturn text := by
  have index := @stored_index state carriageReturn inv.room
  have dropped : (stored carriageReturn state).dropReturn.command =
      Function.update (stored carriageReturn state).command state.i.toNat 0 := by
    rw [dropReturn_eq index, if_pos (stored_current inv.room)]
    rfl
  refine ⟨inv.short.trans (by decide), inv.plain, fun index within => ?_, ?_⟩
  · have below : index < state.i.toNat := by rw [inv.index]; exact within
    rw [dropped, Function.update_of_ne below.ne, stored_below below]
    exact inv.cells index within
  · rw [dropped, ← inv.index]
    exact Function.update_self ..

theorem dropReturn_feed (room : state.i.toNat < commandLength - 1) :
    (stored lineFeed state).dropReturn = stored lineFeed state := by
  rw [ShellState.dropReturn, stored_current room, if_neg (by decide)]

theorem LineInv.spells_feed (inv : LineInv text state) :
    Spells (stored lineFeed state).dropReturn (text ++ [lineFeed]) := by
  have bound := inv.short
  rw [dropReturn_feed inv.room]
  refine ⟨?_, ?_, inv.stored_cells, ?_⟩
  · rw [lineLimit] at bound
    rw [List.length_append, List.length_singleton]
    omega
  · rw [List.mem_append, List.mem_singleton, not_or]
    exact ⟨inv.plain, by decide⟩
  · rw [List.length_append, List.length_singleton, ← inv.index]
    exact stored_behind

theorem LineInv.ended (inv : LineInv text state) (last : terminator = carriageReturn ∨ terminator = lineFeed) :
    (stored terminator state).dropReturn.i = state.i ∧ (stored terminator state).dropReturn.cmd = none ∧
      Spells (stored terminator state).dropReturn (spelledLine terminator text) := by
  have index := @stored_index state terminator inv.room
  refine ⟨dropReturn_i index.ne, ?_, ?_⟩
  · rw [dropReturn_eq index]
    split
    · exact inv.idle
    · exact inv.idle
  · rcases last with rfl | rfl
    · rw [spelledLine, if_pos rfl]
      exact inv.spells_return
    · rw [spelledLine, if_neg (by decide)]
      exact inv.spells_feed

/-- What the first cell has. -/
theorem LineInv.first_cell (inv : LineInv text state) (last : terminator = carriageReturn ∨ terminator = lineFeed) :
    (stored terminator state).dropReturn.load 0 =
      text.headD (if terminator = carriageReturn then 0 else lineFeed) := by
  have other : 0 ≠ commandLength := by decide
  obtain ⟨_, _, spells⟩ := inv.ended last
  rw [load_of_ne other]
  cases text with
  | nil =>
    rcases last with rfl | rfl
    · exact spells.zero
    · exact spells.cells 0 (by decide)
  | cons key rest =>
    rcases last with rfl | rfl
    · exact spells.cells 0 (Nat.zero_lt_succ _)
    · exact spells.cells 0 (Nat.zero_lt_succ _)

/-- The commands are listed for a question mark alone. -/
theorem LineInv.asks_iff (inv : LineInv text state) (last : terminator = carriageReturn ∨ terminator = lineFeed) :
    Asks (stored terminator state).dropReturn ↔ text = [questionMark] := by
  have one : (1 : UInt8).toNat = 1 := rfl
  rw [Asks, inv.first_cell last, (inv.ended last).1, UInt8.le_iff_toNat_le, inv.index, one]
  cases text with
  | nil =>
    rcases last with rfl | rfl <;> simp [carriageReturn, lineFeed, questionMark]
  | cons key rest => simp [and_comm]

/-- The line is empty, and a carriage return has been taken out of it. -/
theorem LineInv.blank_iff (inv : LineInv text state) (last : terminator = carriageReturn ∨ terminator = lineFeed) :
    Blank (stored terminator state).dropReturn ↔ text = [] ∧ terminator = carriageReturn := by
  have same := (inv.ended last).1
  rw [Blank, ShellState.current, same, inv.first_iff]
  apply and_congr_right
  rintro rfl
  have first : state.i = 0 := inv.first_iff.mpr rfl
  have cell := inv.first_cell last
  rw [first]
  change (stored terminator state).dropReturn.load 0 = 0 ↔ _
  rw [cell]
  rcases last with rfl | rfl <;> simp [carriageReturn, lineFeed]

/-- What is given when the terminator is read, and what is in the buffer then. -/
theorem LineInv.line_given (inv : LineInv text state)
    (last : terminator = carriageReturn ∨ terminator = lineFeed) :
    (NotLooked terminator text → given (readKey config terminator state).actions = [] ∧
      (readKey config terminator state).state.cmd = none) ∧
    (¬ NotLooked terminator text →
      given (readKey config terminator state).actions = [some (spelledLine terminator text)] ∧
      (readKey config terminator state).state.text = some (spelledLine terminator text)) := by
  obtain ⟨_, idle, spells⟩ := inv.ended last
  have outcome := @readKey_outcome config _ terminator inv.room
  generalize readKey config terminator state = polled at outcome ⊢
  cases outcome with
  | single inner _ _ => exact absurd last (not_or.mpr inner)
  | edited _ _ inner _ => exact absurd last (not_or.mpr inner)
  | ended _ =>
    have read : given (readActions terminator state) = [] := rfl
    have executes := @executeLine_outcome config (stored terminator state)
    rw [given_append, read, List.nil_append]
    generalize executeLine config (stored terminator state) = executed at executes ⊢
    -- The line is listed, empty or looked up, as the first cells of the buffer say.
    cases executes with
    | listed asks =>
      have asked : NotLooked terminator text := .inl ((inv.asks_iff last).mp asks)
      rw [given_append, given_endActions, given_helpActions]
      exact ⟨fun _ => ⟨rfl, idle⟩, fun looked => absurd asked looked⟩
    | empty plain nothing =>
      have blank : NotLooked terminator text := .inr ((inv.blank_iff last).mp nothing)
      rw [given_append, given_endActions, given_testActions]
      exact ⟨fun _ => ⟨rfl, idle⟩, fun looked => absurd blank looked⟩
    | looked plain something printed prints cmd result =>
      have silent : given printed = [] := by
        rcases prints with rfl | ⟨string, rfl⟩
        · rfl
        · rfl
      have filled : ¬ NotLooked terminator text :=
        not_or.mpr ⟨mt (inv.asks_iff last).mpr plain, mt (inv.blank_iff last).mpr something⟩
      refine ⟨fun blank => absurd blank filled, fun _ => ?_⟩
      rw [given_append, given_append, given_append, given_endActions, given_testActions, given_lookUp, silent,
        spells.text_eq]
      exact ⟨rfl, (text_congr rfl).trans spells.text_eq⟩

theorem LineInv.reads_terminator (inv : LineInv text state) :
    shellPoll config { key := some terminator } state = readKey config terminator state :=
  inv.reads rfl

/-- Whatever has been in the buffer and whatever is typed, what is executed is the text if and only if
    the line ends with a carriage return or asks for the commands. -/
theorem executed_line_iff (config : ShellConfig) (command : Nat → UInt8) (typed later : List PollEvent)
    (terminator : UInt8) (line : Typed config typed) (last : terminator = carriageReturn ∨ terminator = lineFeed) :
    ExecutesText config typed terminator later (promptedShell command 0) (typedText typed) ↔
      terminator = carriageReturn ∨ typedText typed = [questionMark] := by
  have reading : (0 : Int) ≠ taskFinished := by decide
  have start : LineInv [] (promptedShell command 0) :=
    ⟨rfl, reading, rfl, by decide, List.not_mem_nil, fun _ within => absurd within (Nat.not_lt_zero _)⟩
  obtain ⟨quiet, state, run, inv⟩ := start.run line
  change LineInv (typedText typed) state at inv
  obtain ⟨nothing, something⟩ := @LineInv.line_given config _ _ _ inv last
  have given_eq : lineGiven config terminator later state = given (readKey config terminator state).actions ++
      given (commandRun config later (readKey config terminator state).state) := by
    rw [lineGiven, inv.reads_terminator]
  constructor
  · intro executes
    obtain ⟨reached, same, texts, _⟩ := executes.ends
    obtain rfl : state = reached := Option.some.inj (run.symm.trans same)
    by_contra wrong
    rw [not_or] at wrong
    have looked : ¬ NotLooked terminator (typedText typed) := not_or.mpr ⟨wrong.2, fun empty => wrong.1 empty.2⟩
    -- The line feed is in what is looked up.
    have found := texts (some (spelledLine terminator (typedText typed))) (by
      rw [given_eq, (something looked).1]
      exact List.mem_cons_self)
    rw [spelledLine, if_neg wrong.1] at found
    simpa using congrArg List.length (Option.some.inj found)
  · intro fits
    refine ⟨quiet, state, run, ?_⟩
    rw [given_eq]
    by_cases looked : NotLooked terminator (typedText typed)
    · obtain ⟨empty, idle⟩ := nothing looked
      rw [empty, commandRun_idle idle]
      refine ⟨fun _ mem => absurd mem List.not_mem_nil, fun some plain => ?_⟩
      rcases looked with asks | ⟨none, _⟩
      · exact absurd asks plain
      · exact absurd none some
    · obtain ⟨once, kept⟩ := something looked
      have returned : terminator = carriageReturn := fits.resolve_right fun asks => looked (.inl asks)
      rw [spelledLine, if_pos returned] at once kept
      rw [once]
      refine ⟨fun command mem => ?_, fun _ _ => List.cons_ne_nil _ _⟩
      rw [List.singleton_append, List.mem_cons] at mem
      cases mem with
      | inl first => exact first
      | inr called => rw [commandRun_given command called, kept]

/-- The Enter key of a keyboard gives a line feed. -/
example : Usb.keyMap.getD 0x28 (0, 0) = (lineFeed, lineFeed) := by decide

/-! ## A line -/

/-- `pwd`, with a character too many that is taken back. -/
def typedPwd : List PollEvent :=
  [{ key := some 112 }, { key := some 119 }, {}, { key := some 119 }, { key := some backspace }, { key := some 100 }]

theorem executed_line_pwd :
    ExecutesText {} typedPwd carriageReturn [{}] (promptedShell (fun _ => 33) 0) (typedText typedPwd) ↔
      carriageReturn = carriageReturn ∨ typedText typedPwd = [questionMark] :=
  executed_line_iff {} (fun _ => 33) typedPwd [{}] carriageReturn (by unfold Typed; decide) (.inl rfl)

/-- The line is looked up with the line feed. -/
theorem not_executed_line :
    ¬ ∀ (config : ShellConfig) (command : Nat → UInt8) (typed later : List PollEvent) (terminator : UInt8),
      Typed config typed → terminator = carriageReturn ∨ terminator = lineFeed →
        ExecutesText config typed terminator later (promptedShell command 0) (typedText typed) := by
  intro executes
  have ends := (executes {} (fun _ => 0) typedPwd [] lineFeed (by unfold Typed; decide) (.inr rfl)).ends
  obtain ⟨state, run, texts, _⟩ := ends
  obtain rfl := Option.some.inj run
  have looked := texts (some [112, 119, 100, 10]) (by decide)
  exact absurd looked (by decide)

end ComputerSystems.Verified
