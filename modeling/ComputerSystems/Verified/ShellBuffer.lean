import ComputerSystems.Data.Run
import ComputerSystems.System.Shell

/-! # The buffer of the shell

`ShellPoll` stores a character and a zero behind it.  It looks at the index only afterwards,
to see whether the line is to be executed, and not at all when it takes a character back.

So the index stays in the buffer as long as no character comes when it is at the last place,
and no backspace when it is at the first.
-/

namespace ComputerSystems.Verified

open ComputerSystems.Data ComputerSystems.System

variable {config : ShellConfig} {state next : ShellState} {event : PollEvent} {key : UInt8}

/-- An index is within the buffer, and a command that is looked up or given to a function ends there. -/
def Inside : ShellAction → Prop
  | .access index => index < commandLength
  | .lookUp command => command.isSome
  | .call _ command => command.isSome
  | .putc _ => True
  | .puts _ => True

def AllInside (actions : List ShellAction) : Prop := ∀ action ∈ actions, Inside action

/-- The character that a poll reads. -/
def keyRead (state : ShellState) (event : PollEvent) : Option UInt8 :=
  if state.cmd.isNone ∧ state.result ≠ taskFinished then event.key else none

/-- What is asked of a poll. -/
structure StaysInside (config : ShellConfig) (state : ShellState) (event : PollEvent) : Prop where
  actions : AllInside (shellPoll config event state).actions
  index : (shellPoll config event state).state.i.toNat < commandLength
  first : state.i = 0 → keyRead state event = some backspace → (shellPoll config event state).state.i = 0

/-- A character that is read has a place and one for the zero behind it, and does not take one back
    where there is none. -/
def KeyFits (state : ShellState) (event : PollEvent) : Prop :=
  ∀ key ∈ keyRead state event, state.i.toNat < commandLength - 1 ∧ ¬ (state.i = 0 ∧ key = backspace)

/-! ## The buffer -/

@[simp] theorem load_of_ne {index : Nat} (other : index ≠ commandLength) : state.load index = state.command index :=
  if_neg other

@[simp] theorem store_of_ne {index : Nat} {value : UInt8} (other : index ≠ commandLength) :
    state.store index value = { state with command := Function.update state.command index value } :=
  if_neg other

/-- The command ends in the buffer. -/
def EndsInside (state : ShellState) : Prop := ∃ index < commandLength, state.command index = 0

theorem stringAt_isSome {load : Nat → UInt8} {index room last : Nat} (lower : index ≤ last)
    (upper : last < index + room) (zero : load last = 0) : (stringAt load index room).isSome := by
  induction room generalizing index with
  | zero => omega
  | succ room ih =>
    rw [stringAt]
    by_cases ends : load index = 0
    · rw [if_pos ends]
      rfl
    · rw [if_neg ends, Option.isSome_map]
      have later : index ≠ last := fun same => ends (same ▸ zero)
      exact ih (by omega) (by omega)

theorem EndsInside.text (ends : EndsInside state) : state.text.isSome := by
  obtain ⟨last, within, zero⟩ := ends
  apply stringAt_isSome (Nat.zero_le last)
  · omega
  · rw [load_of_ne within.ne, zero]

/-- The text is in the buffer and nowhere else. -/
theorem text_congr (same : next.command = state.command) : next.text = state.text := by
  have agree {index room : Nat} (within : index + room ≤ commandLength) :
      stringAt (fun index => next.load index) index room = stringAt (fun index => state.load index) index room := by
    induction room generalizing index with
    | zero => rfl
    | succ room ih =>
      have other : index ≠ commandLength := by omega
      have here : next.load index = state.load index := by rw [load_of_ne other, load_of_ne other, same]
      rw [stringAt, stringAt, here, ih (by omega)]
  exact agree (Nat.zero_add _).le

/-! ## The table -/

theorem memcmp_reads {load : Nat → UInt8} {index bound : Nat} {name : List UInt8}
    (short : index + name.length ≤ bound) : ∀ read ∈ (memcmp load index name).1, read < bound := by
  induction name generalizing index with
  | nil => simp [memcmp]
  | cons byte rest ih =>
    rw [List.length_cons] at short
    rw [memcmp]
    split
    · intro read mem
      cases mem with
      | head => omega
      | tail _ mem => exact ih (by omega) read mem
    · intro read mem
      rw [List.mem_singleton.mp mem]
      omega

theorem shell_reads {load : Nat → UInt8} {bound : Nat} {commands : List ShellCmd}
    (short : ∀ cmd ∈ commands, cmd.command.length ≤ bound) : ∀ read ∈ (shell load commands).1, read < bound := by
  induction commands with
  | nil => simp [shell]
  | cons cmd commands ih =>
    have first : ∀ read ∈ (memcmp load 0 cmd.command).1, read < bound :=
      memcmp_reads (by simpa using short cmd List.mem_cons_self)
    rw [shell]
    split
    · exact first
    · intro read mem
      rw [List.mem_append] at mem
      cases mem with
      | inl mem => exact first read mem
      | inr mem => exact ih (fun cmd mem => short cmd (List.mem_cons_of_mem _ mem)) read mem

/-- A property of every command that can be configured. -/
theorem shellCommands_forall {property : ShellCmd → Prop} [DecidablePred property]
    (all : ∀ cmd ∈ shellCommands ⟨true, true, true, true, true, true, true, true⟩, property cmd) :
    ∀ cmd ∈ shellCommands config, property cmd := by
  have part {chosen : Bool} {commands : List ShellCmd} {cmd : ShellCmd}
      (mem : cmd ∈ (if chosen then commands else [])) : cmd ∈ commands := by
    cases chosen with
    | true => exact mem
    | false => simp at mem
  intro cmd mem
  apply all
  simp only [shellCommands, List.mem_append, if_true] at mem ⊢
  obtain ((((((mem | mem) | mem) | mem) | mem) | mem) | mem) | mem := mem
  · exact .inl (.inl (.inl (.inl (.inl (.inl (.inl mem))))))
  · exact .inl (.inl (.inl (.inl (.inl (.inl (.inr (part mem)))))))
  · exact .inl (.inl (.inl (.inl (.inl (.inr (part mem))))))
  · exact .inl (.inl (.inl (.inl (.inr (part mem)))))
  · exact .inl (.inl (.inl (.inr (part mem))))
  · exact .inl (.inl (.inr (part mem)))
  · exact .inl (.inr (part mem))
  · exact .inr (part mem)

theorem shellCommands_short : ∀ cmd ∈ shellCommands config, cmd.command.length ≤ commandLength :=
  shellCommands_forall (by decide)

/-- No name is empty or begins with a backspace. -/
theorem shellCommands_head :
    ∀ cmd ∈ shellCommands config, cmd.command.head? ≠ none ∧ cmd.command.head? ≠ some backspace :=
  shellCommands_forall (by decide)

theorem shell_eq_none {load : Nat → UInt8} {commands : List ShellCmd}
    (differs : ∀ cmd ∈ commands, (memcmp load 0 cmd.command).2 = false) : (shell load commands).2 = none := by
  induction commands with
  | nil => rfl
  | cons cmd commands ih =>
    rw [shell, differs cmd List.mem_cons_self]
    exact ih fun cmd mem => differs cmd (List.mem_cons_of_mem _ mem)

/-- A name that begins with another character. -/
theorem memcmp_head {load : Nat → UInt8} {name : List UInt8} (named : name.head? ≠ none)
    (other : name.head? ≠ some (load 0)) : (memcmp load 0 name).2 = false := by
  cases name with
  | nil => exact absurd rfl named
  | cons byte rest =>
    have differs : load 0 ≠ byte := fun same => other (by rw [same]; rfl)
    rw [memcmp, if_neg differs]

/-! ## What is inside -/

@[simp] theorem allInside_nil : AllInside [] := fun _ mem => absurd mem List.not_mem_nil

@[simp] theorem allInside_cons {action : ShellAction} {actions : List ShellAction} :
    AllInside (action :: actions) ↔ Inside action ∧ AllInside actions :=
  List.forall_mem_cons

@[simp] theorem allInside_append {first second : List ShellAction} :
    AllInside (first ++ second) ↔ AllInside first ∧ AllInside second :=
  List.forall_mem_append

theorem allInside_map {α : Type*} {items : List α} {action : α → ShellAction} (inside : ∀ item, Inside (action item)) :
    AllInside (items.map action) := by
  intro made mem
  obtain ⟨item, _, rfl⟩ := List.mem_map.mp mem
  exact inside item

theorem allInside_ite {condition : Prop} [Decidable condition] {actions : List ShellAction}
    (inside : AllInside actions) : AllInside (if condition then actions else []) := by
  split
  · exact inside
  · exact allInside_nil

theorem lookUp_inside (ends : EndsInside state) : AllInside (state.lookUp config).1 := by
  rw [ShellState.lookUp, allInside_cons]
  refine ⟨ends.text, fun action mem => ?_⟩
  obtain ⟨read, found, rfl⟩ := List.mem_map.mp mem
  exact shell_reads shellCommands_short read found

/-! ## The end of a line -/

theorem dropReturn_eq (index : state.i.toNat < commandLength) :
    state.dropReturn =
      if state.current = carriageReturn then { state with command := Function.update state.command state.i.toNat 0 }
      else state := by
  rw [ShellState.dropReturn, store_of_ne index.ne]

theorem dropReturn_i (other : state.i.toNat ≠ commandLength) : state.dropReturn.i = state.i := by
  rw [ShellState.dropReturn, store_of_ne other]
  split <;> rfl

theorem EndsInside.dropReturn (ends : EndsInside state) (index : state.i.toNat < commandLength) :
    EndsInside state.dropReturn := by
  rw [dropReturn_eq index]
  split
  · exact ⟨state.i.toNat, index, Function.update_self ..⟩
  · exact ends

/-- The line asks for the commands. -/
def Asks (state : ShellState) : Prop := state.i ≤ 1 ∧ state.load 0 = questionMark

/-- The line is empty. -/
def Blank (state : ShellState) : Prop := state.i = 0 ∧ state.current = 0

/-- What is accessed to see whether the line is empty. -/
def testActions (state : ShellState) : List ShellAction := if state.i = 0 then [.access state.i.toNat] else []

/-- What the end of a line does. -/
inductive LineOutcome (config : ShellConfig) (state : ShellState) : ShellPolled → Prop
  | listed (asks : Asks state.dropReturn) :
      LineOutcome config state
        { actions := endActions state.i.toNat state.dropReturn ++ helpActions config
          state := { state.dropReturn with result := taskFinished }
          status := some taskReady }
  | empty (plain : ¬ Asks state.dropReturn) (nothing : Blank state.dropReturn) :
      LineOutcome config state
        { actions := endActions state.i.toNat state.dropReturn ++ testActions state.dropReturn
          state := { state.dropReturn with result := taskFinished }
          status := some taskReady }
  | looked (plain : ¬ Asks state.dropReturn) (something : ¬ Blank state.dropReturn) (printed : List ShellAction)
      (prints : printed = [] ∨ ∃ string, printed = [.puts string]) (cmd : Option ShellCmd) (result : Int) :
      LineOutcome config state
        { actions := endActions state.i.toNat state.dropReturn ++ testActions state.dropReturn ++
            ((state.dropReturn.lookUp config).1 ++ printed)
          state := { state.dropReturn with cmd, result }
          status := some taskReady }

theorem executeLine_outcome : LineOutcome config state (executeLine config state) := by
  simp only [executeLine]
  split
  next asks => exact .listed asks
  next plain =>
    split
    next something =>
      -- The command is looked up, and is known or not.
      have filled : ¬ Blank state.dropReturn := by rwa [Blank, not_and_or]
      split
      next => exact .looked plain filled _ (.inr ⟨_, rfl⟩) _ _
      next cmd _ =>
        have outcome := @LineOutcome.looked config state plain filled [] (.inl rfl) (some cmd) state.dropReturn.result
        rwa [List.append_nil] at outcome
    next nothing =>
      rw [← not_and_or, not_not] at nothing
      exact .empty plain nothing

/-- What the end of a line leaves: the command ends in the buffer, and the index is where it was. -/
structure Executed (state : ShellState) (polled : ShellPolled) : Prop where
  actions : AllInside polled.actions
  index : polled.state.i = state.i
  ends : EndsInside polled.state

theorem endActions_inside {last : Nat} (within : last < commandLength) : AllInside (endActions last state) := by
  have start : Inside (.access 0) := Nat.zero_lt_succ 79
  rw [endActions, allInside_append, allInside_append]
  refine ⟨⟨?_, allInside_ite ?_⟩, allInside_ite ?_⟩
  · simpa [Inside] using within
  · simp [Inside]
  · simpa using start

theorem helpActions_inside : AllInside (helpActions config) := by
  rw [helpActions, allInside_append, allInside_append]
  refine ⟨⟨?_, allInside_map fun _ => trivial⟩, ?_⟩
  · simp [Inside]
  · simp [Inside]

theorem LineOutcome.executed {polled : ShellPolled} (outcome : LineOutcome config state polled)
    (ends : EndsInside state) (index : state.i.toNat < commandLength) : Executed state polled := by
  have dropped := ends.dropReturn index
  have same := dropReturn_i index.ne
  have begins : AllInside (endActions state.i.toNat state.dropReturn) := endActions_inside index
  have tested : AllInside (endActions state.i.toNat state.dropReturn ++ testActions state.dropReturn) := by
    rw [allInside_append]
    refine ⟨begins, allInside_ite ?_⟩
    simpa [same, Inside] using index
  cases outcome with
  | listed asks => exact ⟨allInside_append.mpr ⟨begins, helpActions_inside⟩, same, dropped⟩
  | empty plain nothing => exact ⟨tested, same, dropped⟩
  | looked plain something printed prints =>
    have answered : AllInside printed := by
      rcases prints with rfl | ⟨string, rfl⟩
      · exact allInside_nil
      · simp [Inside]
    have looks : AllInside (state.dropReturn.lookUp config).1 := lookUp_inside dropped
    exact ⟨allInside_append.mpr ⟨tested, allInside_append.mpr ⟨looks, answered⟩⟩, same, dropped⟩

/-! ## A character -/

/-- The command with a character and a zero behind it. -/
def stored (key : UInt8) (state : ShellState) : ShellState :=
  { state with
    command := Function.update (Function.update state.command state.i.toNat key) (state.i.toNat + 1) 0 }

def readActions (key : UInt8) (state : ShellState) : List ShellAction :=
  [.access state.i.toNat, .access state.i.toNat, .putc key, .access (state.i.toNat + 1), .access state.i.toNat]

/-- What a character does where there is room for it: it ends the line, is a command by itself or edits the
    line.  `looked` is what is done to find out whether it is a command. -/
inductive KeyOutcome (config : ShellConfig) (key : UInt8) (state : ShellState) : ShellPolled → Prop
  | ended (last : key = carriageReturn ∨ key = lineFeed) :
      KeyOutcome config key state
        { executeLine config (stored key state) with
          actions := readActions key state ++ (executeLine config (stored key state)).actions }
  | single (inner : key ≠ carriageReturn ∧ key ≠ lineFeed) (first : state.i = 0)
      (found : ((stored key state).lookUp config).2.isSome) :
      KeyOutcome config key state
        { executeLine config (stored key state) with
          actions := readActions key state ++ ((stored key state).lookUp config).1 ++
            (executeLine config (stored key state)).actions }
  | edited (looked : List ShellAction) (tests : looked = [] ∨ looked = ((stored key state).lookUp config).1)
      (inner : key ≠ carriageReturn ∧ key ≠ lineFeed)
      (unknown : state.i = 0 → ((stored key state).lookUp config).2 = none) :
      KeyOutcome config key state
        { editLine (stored key state) with
          actions := readActions key state ++ looked ++ (editLine (stored key state)).actions }

theorem store_stored (room : state.i.toNat < commandLength - 1) :
    (state.store state.i.toNat key).store (state.i.toNat + 1) 0 = stored key state := by
  have here : state.i.toNat ≠ commandLength := by rw [commandLength] at room ⊢; omega
  have behind : state.i.toNat + 1 ≠ commandLength := by rw [commandLength] at room ⊢; omega
  rw [store_of_ne here, store_of_ne behind, stored]

theorem stored_index (room : state.i.toNat < commandLength - 1) : (stored key state).i.toNat < commandLength := by
  have same : (stored key state).i = state.i := rfl
  rw [same]
  omega

theorem stored_current (room : state.i.toNat < commandLength - 1) : (stored key state).current = key := by
  rw [ShellState.current, load_of_ne (stored_index room).ne]
  simp [stored]

theorem stored_ends (room : state.i.toNat < commandLength - 1) : EndsInside (stored key state) :=
  ⟨state.i.toNat + 1, by omega, Function.update_self ..⟩

theorem readKey_outcome (room : state.i.toNat < commandLength - 1) :
    KeyOutcome config key state (readKey config key state) := by
  have here : state.i.toNat ≠ commandLength := by rw [commandLength] at room ⊢; omega
  have index : (state.store state.i.toNat key).i = state.i := by rw [store_of_ne here]
  have read : (state.store state.i.toNat key).current = key := by
    rw [ShellState.current, index, load_of_ne here, store_of_ne here]
    exact Function.update_self ..
  have same : (stored key state).i = state.i := rfl
  simp only [readKey, index, read]
  rw [store_stored room, stored_current room, same]
  split
  next last =>
    -- The third test fails, as there is room behind the character.
    have ends : key = carriageReturn ∨ key = lineFeed := by
      rcases last with last | last | last
      · exact .inl last
      · exact .inr last
      · omega
    exact .ended ends
  next inner =>
    have inside : key ≠ carriageReturn ∧ key ≠ lineFeed :=
      ⟨fun ends => inner (.inl ends), fun ends => inner (.inr (.inl ends))⟩
    split
    next first =>
      cases found : ((stored key state).lookUp config).2 with
      -- A line of one character is looked up while it is typed.
      | some cmd => exact .single inside first (by rw [found]; rfl)
      | none => exact .edited _ (.inr rfl) inside fun _ => found
    next later =>
      have outcome := @KeyOutcome.edited config _ _ [] (.inl rfl) inside fun first => absurd first later
      rwa [List.append_nil] at outcome

/-! ## One poll -/

/-- The index is in the buffer, and the command that is executing ends there. -/
structure EditorInv (state : ShellState) : Prop where
  index : state.i.toNat < commandLength
  ends : state.cmd.isSome → EndsInside state

theorem prompt_inside : AllInside (shellPrompt config state).actions := allInside_map fun _ => trivial

theorem prompt_inv : EditorInv (shellPrompt config state).state :=
  ⟨Nat.zero_lt_succ 79, fun found => absurd found Bool.false_ne_true⟩

/-- What calling the function of a command does: it goes on executing, or it has finished.  The command is
    left as it is, and `run` and `quit` have printed a line feed before. -/
inductive CommandOutcome (config : ShellConfig) (cmd : ShellCmd) (state : ShellState) : ShellPolled → Prop
  | executing (prior : List ShellAction) (printed : prior = [] ∨ prior = [.putc lineFeed]) (next : ShellState)
      (status : Option Int) (command : next.command = state.command) (index : next.i = 0 ∨ next.i = state.i) :
      CommandOutcome config cmd state { actions := prior ++ [.call cmd state.text], state := next, status }
  | finished (prior : List ShellAction) (printed : prior = [] ∨ prior = [.putc lineFeed]) (before : ShellState)
      (command : before.command = state.command) :
      CommandOutcome config cmd state
        { shellPrompt config before with
          actions := prior ++ [.call cmd state.text] ++ (shellPrompt config before).actions }

theorem executeCommand_outcome {cmd : ShellCmd} {returns : Option Int} :
    CommandOutcome config cmd state (executeCommand config cmd returns state) := by
  simp only [executeCommand]
  by_cases special : cmd.function = .run ∨ cmd.function = .quit
  · -- The state has been made ready, which does not change the command.
    have text : ({ state with i := 0, result := taskFinished, cmd := none } : ShellState).text = state.text :=
      text_congr rfl
    simp only [special, if_true]
    rw [text]
    cases returns with
    | none => exact .executing _ (.inr rfl) _ _ rfl (.inl rfl)
    | some result =>
      rw [if_neg (not_not.mpr rfl)]
      exact .finished _ (.inr rfl) { state with i := 0, result := taskFinished, cmd := none } rfl
  · simp only [special, if_false]
    cases returns with
    | none => exact .executing _ (.inl rfl) _ _ rfl (.inr rfl)
    | some result =>
      simp only
      split
      · exact .executing _ (.inl rfl) _ _ rfl (.inr rfl)
      · exact .finished _ (.inl rfl) { state with result } rfl

theorem CommandOutcome.inside {cmd : ShellCmd} {polled : ShellPolled}
    (outcome : CommandOutcome config cmd state polled) (index : state.i.toNat < commandLength)
    (ends : EndsInside state) : AllInside polled.actions ∧ EditorInv polled.state := by
  have called {prior : List ShellAction} (printed : prior = [] ∨ prior = [.putc lineFeed]) :
      AllInside (prior ++ [.call cmd state.text]) := by
    rw [allInside_append]
    refine ⟨?_, by simpa [Inside] using ends.text⟩
    rcases printed with rfl | rfl
    · exact allInside_nil
    · simp [Inside]
  cases outcome with
  | executing prior printed next status command place =>
    refine ⟨called printed, ?_, fun _ => ?_⟩
    · rcases place with first | same
      · exact first ▸ Nat.zero_lt_succ 79
      · exact same ▸ index
    · obtain ⟨last, within, zero⟩ := ends
      exact ⟨last, within, command ▸ zero⟩
  | finished prior printed => exact ⟨allInside_append.mpr ⟨called printed, prompt_inside⟩, @prompt_inv config _⟩

theorem readActions_inside (room : state.i.toNat < commandLength - 1) : AllInside (readActions key state) := by
  have here : state.i.toNat < commandLength := by omega
  have behind : state.i.toNat + 1 < commandLength := by omega
  simp [readActions, Inside, here, behind]

theorem toNat_pred {index : UInt8} (positive : index ≠ 0) : (index - 1).toNat = index.toNat - 1 := by
  have least : 1 ≤ index := by
    rw [UInt8.le_iff_toNat_le]
    have other : index.toNat ≠ 0 := fun same => positive (UInt8.toNat_inj.mp same)
    exact Nat.one_le_iff_ne_zero.mpr other
  exact UInt8.toNat_sub_of_le _ _ least

theorem toNat_succ {index : UInt8} (bound : index.toNat < 255) : (index + 1).toNat = index.toNat + 1 := by
  have one : (1 : UInt8).toNat = 1 := rfl
  rw [UInt8.toNat_add, one]
  omega

/-- Where the index goes. -/
theorem editLine_i (room : state.i.toNat < commandLength - 1) :
    (editLine (stored key state)).state.i = if key = backspace then state.i - 1 else state.i + 1 := by
  rw [editLine, stored_current room]
  split <;> rfl

/-- Only the index is changed. -/
theorem editLine_frame :
    (editLine state).state.command = state.command ∧ (editLine state).state.cmd = state.cmd ∧
      (editLine state).state.result = state.result ∧ (editLine state).status = some taskReady := by
  rw [editLine]
  split
  · exact ⟨rfl, rfl, rfl, rfl⟩
  · exact ⟨rfl, rfl, rfl, rfl⟩

theorem editLine_inside (index : state.i.toNat < commandLength) : AllInside (editLine state).actions := by
  rw [editLine]
  split
  · simpa [Inside] using index
  · simpa [Inside] using index

/-- A character that fits stays in the buffer. -/
theorem readKey_inside (room : state.i.toNat < commandLength - 1) (rest : ¬ (state.i = 0 ∧ key = backspace)) :
    AllInside (readKey config key state).actions ∧ EditorInv (readKey config key state).state := by
  have index := @stored_index state key room
  have ends : EndsInside (stored key state) := stored_ends room
  have read : AllInside (readActions key state) := readActions_inside room
  have looks : AllInside ((stored key state).lookUp config).1 := lookUp_inside ends
  have executed : Executed (stored key state) (executeLine config (stored key state)) :=
    executeLine_outcome.executed ends index
  have inside : EditorInv (executeLine config (stored key state)).state :=
    ⟨executed.index ▸ index, fun _ => executed.ends⟩
  have outcome := @readKey_outcome config _ key room
  generalize readKey config key state = polled at outcome ⊢
  cases outcome with
  | ended last => exact ⟨allInside_append.mpr ⟨read, executed.actions⟩, inside⟩
  | single _ first found =>
    exact ⟨allInside_append.mpr ⟨allInside_append.mpr ⟨read, looks⟩, executed.actions⟩, inside⟩
  | edited looked tests inner unknown =>
    have tested : AllInside looked := by
      rcases tests with rfl | rfl
      · exact allInside_nil
      · exact looks
    refine ⟨allInside_append.mpr ⟨allInside_append.mpr ⟨read, tested⟩, editLine_inside index⟩, ?_, fun _ => ?_⟩
    · rw [commandLength] at room ⊢
      rw [editLine_i room]
      split
      next erases =>
        rw [toNat_pred fun first => rest ⟨first, erases⟩]
        omega
      next => rw [toNat_succ (by omega)]; omega
    · obtain ⟨last, within, zero⟩ := ends
      exact ⟨last, within, by rw [editLine_frame.1]; exact zero⟩

/-- A character without a place for the zero behind it: the zero becomes the index. -/
theorem readKey_outside (full : state.i.toNat = commandLength - 1) :
    ¬ AllInside (readKey config key state).actions := by
  intro inside
  have here : state.i.toNat ≠ commandLength := by rw [full]; decide
  have index : (state.store state.i.toNat key).i = state.i := by rw [store_of_ne here]
  -- The store behind the character is the first thing that is done in each case.
  have behind : ShellAction.access (state.i.toNat + 1) ∈ (readKey config key state).actions := by
    simp only [readKey, index]
    split
    · simp
    · split
      · simp
      · simp
  have within : state.i.toNat + 1 < commandLength := inside _ behind
  omega

/-- A backspace on an empty line: no command is found, and the index wraps. -/
theorem readKey_wraps (first : state.i = 0) : (readKey config backspace state).state.i = 255 := by
  have room : state.i.toNat < commandLength - 1 := by rw [first]; decide
  have unknown : ((stored backspace state).lookUp config).2 = none := by
    have character : (stored backspace state).load 0 = backspace := by
      have current : (stored backspace state).current = backspace := stored_current room
      rwa [ShellState.current, show (stored backspace state).i = 0 from first] at current
    apply shell_eq_none
    intro cmd mem
    obtain ⟨named, other⟩ := shellCommands_head cmd mem
    exact memcmp_head named (by rwa [character])
  have outcome := @readKey_outcome config _ backspace room
  generalize readKey config backspace state = polled at outcome ⊢
  cases outcome with
  | ended last => exact absurd last (by decide)
  | single _ _ found =>
    rw [unknown] at found
    exact absurd found Bool.false_ne_true
  | edited looked tests inner unknown =>
    rw [editLine_i room, if_pos rfl, first]
    rfl

theorem poll_eq_of_read {key : UInt8} (read : keyRead state event = some key) :
    shellPoll config event state = readKey config key state := by
  rw [keyRead] at read
  split at read
  next reads =>
    obtain ⟨idle, running⟩ := reads
    rw [shellPoll, Option.isNone_iff_eq_none.mp idle]
    simp only [if_neg running, read]
  next => exact absurd read (by simp)

/-- A poll that reads no character. -/
theorem shellPoll_inside_of_none (inv : EditorInv state) (none : keyRead state event = none) :
    AllInside (shellPoll config event state).actions ∧ EditorInv (shellPoll config event state).state := by
  rw [shellPoll]
  cases cmd : state.cmd with
  | some cmd => exact executeCommand_outcome.inside inv.index (inv.ends (by simp [cmd]))
  | none =>
    by_cases finished : state.result = taskFinished
    · simp only [if_pos finished]
      exact ⟨prompt_inside, prompt_inv⟩
    · rw [keyRead, if_pos ⟨by simp [cmd], finished⟩] at none
      simp only [if_neg finished, none]
      exact ⟨allInside_nil, inv⟩

theorem shellPoll_inside (inv : EditorInv state) (fits : KeyFits state event) :
    AllInside (shellPoll config event state).actions ∧ EditorInv (shellPoll config event state).state := by
  cases read : keyRead state event with
  | none => exact shellPoll_inside_of_none inv read
  | some key =>
    rw [poll_eq_of_read read]
    obtain ⟨room, rest⟩ := fits key read
    exact readKey_inside room rest

/-- In a state that is inside, a poll stays inside if and only if the character fits that it reads. -/
theorem staysInside_iff (inv : EditorInv state) : StaysInside config state event ↔ KeyFits state event := by
  constructor
  · intro stays key read
    have poll : shellPoll config event state = readKey config key state := poll_eq_of_read read
    -- Without room the zero is stored behind the buffer.
    have room : state.i.toNat < commandLength - 1 := by
      by_contra full
      have last : state.i.toNat = commandLength - 1 := by
        have index := inv.index
        omega
      exact readKey_outside last (poll ▸ stays.actions)
    refine ⟨room, ?_⟩
    rintro ⟨first, rfl⟩
    have index := stays.index
    rw [poll, readKey_wraps first] at index
    exact absurd index (by decide)
  · intro fits
    obtain ⟨actions, inside⟩ := shellPoll_inside inv fits
    refine ⟨actions, inside.index, fun first read => ?_⟩
    exact absurd ⟨first, rfl⟩ (fits _ read).2

/-! ## Beyond the buffer -/

/-- The index is in the buffer, or it has wrapped. -/
def Reached (state : ShellState) : Prop := state.i.toNat < commandLength ∨ state.i = 255

theorem executeLine_i (other : state.i.toNat ≠ commandLength) : (executeLine config state).state.i = state.i := by
  have same := dropReturn_i other
  have outcome := @executeLine_outcome config state
  generalize executeLine config state = polled at outcome ⊢
  cases outcome with
  | listed => exact same
  | empty => exact same
  | looked => exact same

/-- Where a character leaves the index, from where the zero behind it has left it. -/
theorem readKey_i {zero : UInt8}
    (stores : ((state.store state.i.toNat key).store ((state.store state.i.toNat key).i.toNat + 1) 0).i = zero)
    (other : zero.toNat ≠ commandLength) :
    (readKey config key state).state.i = zero ∨
      zero.toNat < commandLength - 1 ∧
        ((readKey config key state).state.i = zero - 1 ∨ (readKey config key state).state.i = zero + 1) := by
  simp only [readKey]
  generalize (state.store state.i.toNat key).store ((state.store state.i.toNat key).i.toNat + 1) 0 = ended at stores ⊢
  subst stores
  have edited : (editLine ended).state.i = ended.i - 1 ∨ (editLine ended).state.i = ended.i + 1 := by
    rw [editLine]
    split
    · exact .inl rfl
    · exact .inr rfl
  split
  next => exact .inl (executeLine_i other)
  next inner =>
    have below : ended.i.toNat < commandLength - 1 := by
      by_contra full
      exact inner (.inr (.inr (by omega)))
    split
    · simp only
      split
      · exact .inl (executeLine_i other)
      · exact .inr ⟨below, edited⟩
    · exact .inr ⟨below, edited⟩

theorem Reached.readKey (reached : Reached state) : Reached (System.readKey config key state).state := by
  have near {index : UInt8} (below : index.toNat < commandLength - 1) {next : UInt8}
      (moves : next = index - 1 ∨ next = index + 1) : next.toNat < commandLength ∨ next = 255 := by
    rw [commandLength] at below ⊢
    rcases moves with rfl | rfl
    · by_cases first : index = 0
      · rw [first]
        exact .inr rfl
      · rw [toNat_pred first]
        omega
    · rw [toNat_succ (by omega)]
      omega
  have other : state.i.toNat ≠ commandLength := by
    rcases reached with inside | wrapped
    · exact inside.ne
    · rw [wrapped]
      decide
  have index : (state.store state.i.toNat key).i = state.i := by rw [store_of_ne other]
  by_cases full : state.i.toNat + 1 = commandLength
  · -- The zero becomes the index.
    have zero : ((state.store state.i.toNat key).store ((state.store state.i.toNat key).i.toNat + 1) 0).i = 0 := by
      rw [index, ShellState.store, if_pos full]
    rcases @readKey_i config _ key _ zero (by decide) with stays | ⟨below, moves⟩
    · rw [Reached, stays]
      exact .inl (by decide)
    · exact near below moves
  · have zero : ((state.store state.i.toNat key).store ((state.store state.i.toNat key).i.toNat + 1) 0).i = state.i := by
      rw [index, store_of_ne full, index]
    rcases @readKey_i config _ key _ zero other with stays | ⟨below, moves⟩
    · rw [Reached, stays]
      exact reached
    · exact near below moves

theorem CommandOutcome.place {cmd : ShellCmd} {polled : ShellPolled}
    (outcome : CommandOutcome config cmd state polled) : polled.state.i = 0 ∨ polled.state.i = state.i := by
  cases outcome with
  | executing _ _ _ _ _ index => exact index
  | finished => exact .inl rfl

theorem Reached.poll (reached : Reached state) : Reached (shellPoll config event state).state := by
  have start {next : ShellState} (first : next.i = 0) : Reached next := .inl (by rw [first]; decide)
  rw [shellPoll]
  cases state.cmd with
  | some cmd =>
    rcases (@executeCommand_outcome config state cmd event.returns).place with first | same
    · exact start first
    · rw [Reached, same]
      exact reached
  | none =>
    simp only
    split
    · exact start rfl
    · cases event.key with
      | some key => exact reached.readKey
      | none => exact reached

/-! ## Runs -/

/-- The shell at a prompt, with anything in the buffer. -/
def promptedShell (command : Nat → UInt8) (result : Int) : ShellState := { command, result }

/-- Whatever is typed, every poll stays in the buffer if and only if no character comes where the buffer ends
    and no backspace where it begins. -/
theorem shell_inside_iff (config : ShellConfig) (command : Nat → UInt8) (result : Int) (events : List PollEvent) :
    Along (pollStep config) (StaysInside config) events (promptedShell command result) ↔
      Along (pollStep config) KeyFits events (promptedShell command result) := by
  have start : EditorInv (promptedShell command result) :=
    ⟨Nat.zero_lt_succ 79, fun found => absurd found Bool.false_ne_true⟩
  have free : Along (pollStep config) (fun _ _ => True) events (promptedShell command result) :=
    Along.of_forall_mem fun _ _ => trivial
  refine free.congr EditorInv start fun state event inv _ => ⟨staysInside_iff inv, fun stays next steps => ?_⟩
  obtain ⟨_, _, rfl⟩ := Option.map_eq_some_iff.mp steps
  exact (shellPoll_inside inv ((staysInside_iff inv).mp stays)).2

/-- A backspace on an empty line. -/
theorem shell_not_inside :
    ¬ ∀ (config : ShellConfig) (command : Nat → UInt8) (result : Int) (events : List PollEvent),
      Along (pollStep config) (StaysInside config) events (promptedShell command result) := by
  intro inside
  have stays := (inside {} (fun _ => 0) 0 [{ key := some backspace }]).1
  exact absurd (stays.first rfl rfl) (by decide)

/-- Whatever is typed, of what is behind the buffer only `i` and what is at 255 and 256 is accessed: the index
    is in the buffer at every poll, or it has wrapped. -/
theorem shell_reached (config : ShellConfig) (command : Nat → UInt8) (result : Int) (events : List PollEvent) :
    Along (pollStep config) (fun state _ => Reached state) events (promptedShell command result) := by
  have start : Reached (promptedShell command result) := .inl (Nat.zero_lt_succ 79)
  refine Along.of_invariant Reached start fun state event reached => ⟨reached, fun next steps => ?_⟩
  obtain ⟨_, _, rfl⟩ := Option.map_eq_some_iff.mp steps
  exact reached.poll

end ComputerSystems.Verified
