import ComputerSystems.System.Os
import Mathlib.Logic.Function.Basic

/-! # The system shell

`shell.c`.  `ShellPoll` reads a key, edits the command or executes it.

The byte behind `command` is `i`, so that `command[COMMAND_LENGTH]` is the index.  What is
behind that is not reached before the index 255, which is outside of the structure.
-/

namespace ComputerSystems.System

def commandLength : Nat := 80

def backspace : UInt8 := 8
def lineFeed : UInt8 := 10
def carriageReturn : UInt8 := 13
def space : UInt8 := 32
def questionMark : UInt8 := 63

/-- The characters of a string literal. -/
def asciiBytes (string : String) : List UInt8 :=
  string.toList.map fun character => UInt8.ofNat character.toNat

/-! ## The table of commands -/

/-- The functions that `ShellPoll` tells from the others. -/
inductive ShellFunction where
  | run
  | quit
  | other
deriving DecidableEq, Repr

/-- `struct ShellCmd`. -/
structure ShellCmd where
  command : List UInt8
  function : ShellFunction := .other
deriving DecidableEq

/-- What is configured. -/
structure ShellConfig where
  bootloader : Bool := false
  usb : Bool := true
  usbStorage : Bool := true
  fat : Bool := true
  usbHid : Bool := true
  video : Bool := true
  game : Bool := false
  xmodem : Bool := true
deriving DecidableEq

/-- `ShellCommands` as `ShellInit` fills it. -/
def shellCommands (config : ShellConfig) : List ShellCmd :=
  [⟨asciiBytes "echo", .other⟩, ⟨asciiBytes "exit", .quit⟩, ⟨asciiBytes "run", .run⟩,
    ⟨asciiBytes "reboot", .other⟩] ++
  (if config.usb then [⟨asciiBytes "Usb", .other⟩] else []) ++
  (if config.usbStorage then
    (["Mount", "read", "dir", "pwd", "cd", "cat"].map fun name => ⟨asciiBytes name, .other⟩) else []) ++
  (if config.fat then [⟨asciiBytes "fat", .other⟩] else []) ++
  (if config.usbHid then ["Keyboard", "Mouse"].map fun name => ⟨asciiBytes name, .other⟩ else []) ++
  (if config.video then ["screen", "clear"].map fun name => ⟨asciiBytes name, .other⟩ else []) ++
  (if config.game then
    (["game", "i", ",", "l", "j", "o", "u", ".", "m", " ", "k"].map fun name => ⟨asciiBytes name, .other⟩)
    else []) ++
  (if config.xmodem then [⟨asciiBytes "xmodem", .other⟩] else [])

/-! ## The command -/

/-- `struct shell_state`: the bytes from `command` on, of which that at `commandLength` is `i`. -/
structure ShellState where
  command : Nat → UInt8
  i : UInt8 := 0
  cmd : Option ShellCmd := none
  result : Int := 0

namespace ShellState

/-- `command[index]`. -/
def load (index : Nat) (state : ShellState) : UInt8 :=
  if index = commandLength then state.i else state.command index

/-- `command[index] = value`. -/
def store (index : Nat) (value : UInt8) (state : ShellState) : ShellState :=
  if index = commandLength then { state with i := value }
  else { state with command := Function.update state.command index value }

/-- `command[i]`. -/
def current (state : ShellState) : UInt8 := state.load state.i.toNat

end ShellState

/-- The string from an index on, if it ends within so many bytes. -/
def stringAt (load : Nat → UInt8) (index : Nat) : Nat → Option (List UInt8)
  | 0 => none
  | room + 1 =>
    if load index = 0 then some [] else (stringAt load (index + 1) room).map (load index :: ·)

/-- The string in `command`, if it ends there. -/
def ShellState.text (state : ShellState) : Option (List UInt8) :=
  stringAt (fun index => state.load index) 0 commandLength

/-- `memcmp` of the bytes from an index on and the rest of a name: the indices that it reads, and
    whether it returns 0. -/
def memcmp (load : Nat → UInt8) (index : Nat) : List UInt8 → List Nat × Bool
  -- The command may go on behind the name.
  | [] => ([], true)
  | byte :: rest =>
    if load index = byte then
      let compared := memcmp load (index + 1) rest
      (index :: compared.1, compared.2)
    else ([index], false)

/-- `shell`: the indices that are read, and the command that is found. -/
def shell (load : Nat → UInt8) : List ShellCmd → List Nat × Option ShellCmd
  | [] => ([], none)
  | cmd :: commands =>
    let compared := memcmp load 0 cmd.command
    if compared.2 then (compared.1, some cmd)
    else
      let found := shell load commands
      (compared.1 ++ found.1, found.2)

/-! ## Polling -/

/-- What a poll does: it accesses `command[index]`, prints, gives `shell` the command or calls the
    function of one with it. -/
inductive ShellAction where
  | access (index : Nat)
  | putc (character : UInt8)
  | puts (string : List UInt8)
  | lookUp (command : Option (List UInt8))
  | call (cmd : ShellCmd) (command : Option (List UInt8))
deriving DecidableEq

/-- What a poll finds: the character that is available, if the state is capable of reading one, and
    what the function of a command returns, if it returns. -/
structure PollEvent where
  key : Option UInt8 := none
  returns : Option Int := some taskFinished
deriving DecidableEq

/-- What a poll has done, and what it returns, if it does. -/
structure ShellPolled where
  actions : List ShellAction := []
  state : ShellState
  status : Option Int

/-- `shell` is called. -/
def ShellState.lookUp (config : ShellConfig) (state : ShellState) : List ShellAction × Option ShellCmd :=
  let found := shell (fun index => state.load index) (shellCommands config)
  (.lookUp state.text :: found.1.map .access, found.2)

/-- The prompt is put out, and a command begins. -/
def shellPrompt (config : ShellConfig) (state : ShellState) : ShellPolled :=
  { actions := (asciiBytes (if config.bootloader then "boot> " else "shell> ")).map .putc
    state := { state with i := 0, result := 0, cmd := none }
    status := some taskIdle }

/-- The command that has been found is called.  `run` and `quit` are not expected to return, so that the
    state is made ready before. -/
def executeCommand (config : ShellConfig) (cmd : ShellCmd) (returns : Option Int) (state : ShellState) : ShellPolled :=
  let special := cmd.function = .run ∨ cmd.function = .quit
  let state := if special then { state with i := 0, result := taskFinished, cmd := none } else state
  let actions := (if special then [.putc lineFeed] else []) ++ [.call cmd state.text]
  match returns with
  | none => { actions, state, status := none }
  | some result =>
    let state := if special then state else { state with result }
    if state.result ≠ taskFinished then { actions, state, status := some state.result }
    else
      let prompted := shellPrompt config state
      { prompted with actions := actions ++ prompted.actions }

/-- A carriage return is taken out of the command. -/
def ShellState.dropReturn (state : ShellState) : ShellState :=
  if state.current = carriageReturn then state.store state.i.toNat 0 else state

/-- What is accessed and printed before it is decided what the line is. -/
def endActions (last : Nat) (state : ShellState) : List ShellAction :=
  [.access last, .putc lineFeed] ++ (if state.i = 0 then [.putc carriageReturn] else []) ++
    -- `command[0]` is only compared if the index is small enough.
    (if state.i ≤ 1 then [.access 0] else [])

/-- The list of the commands. -/
def helpActions (config : ShellConfig) : List ShellAction :=
  [.puts (asciiBytes "Available commands are:")] ++ (shellCommands config).map (fun cmd => .puts cmd.command) ++
    [.putc lineFeed]

/-- The end of a line: the commands are listed, the command is looked up, or it is empty. -/
def executeLine (config : ShellConfig) (state : ShellState) : ShellPolled :=
  let actions := endActions state.i.toNat state.dropReturn
  let state := state.dropReturn
  if state.i ≤ 1 ∧ state.load 0 = questionMark then
    { actions := actions ++ helpActions config
      state := { state with result := taskFinished }
      status := some taskReady }
  else
    let actions := actions ++ (if state.i = 0 then [.access state.i.toNat] else [])
    -- A line feed is still in the buffer, so that the line is not empty.
    if state.i ≠ 0 ∨ state.current ≠ 0 then
      let found := state.lookUp config
      match found.2 with
      | none =>
        { actions := actions ++ (found.1 ++ [.puts (asciiBytes "command unknown")])
          state := { state with cmd := none, result := taskFinished }
          status := some taskReady }
      | some cmd => { actions := actions ++ found.1, state := { state with cmd := some cmd }, status := some taskReady }
    else { actions, state := { state with result := taskFinished }, status := some taskReady }

/-- A character that does not end the line: a backspace takes the one before it back. -/
def editLine (state : ShellState) : ShellPolled :=
  if state.current = backspace then
    { actions := [.access state.i.toNat, .putc space, .putc backspace]
      state := { state with i := state.i - 1 }
      status := some taskReady }
  else { actions := [.access state.i.toNat], state := { state with i := state.i + 1 }, status := some taskReady }

/-- A character is read and echoed, and ends the line or not. -/
def readKey (config : ShellConfig) (key : UInt8) (state : ShellState) : ShellPolled :=
  -- The index is read again behind each store, as a store at `commandLength` changes it.
  let read := state.store state.i.toNat key
  let ended := read.store (read.i.toNat + 1) 0
  let actions : List ShellAction :=
    [.access state.i.toNat, .access read.i.toNat, .putc read.current, .access (read.i.toNat + 1),
      .access ended.i.toNat]
  if ended.current = carriageReturn ∨ ended.current = lineFeed ∨ commandLength - 1 ≤ ended.i.toNat then
    let executed := executeLine config ended
    { executed with actions := actions ++ executed.actions }
  else if ended.i = 0 then
    let found := ended.lookUp config
    let polled := if found.2.isSome then executeLine config ended else editLine ended
    { polled with actions := actions ++ found.1 ++ polled.actions }
  else
    let edited := editLine ended
    { edited with actions := actions ++ edited.actions }

/-- `ShellPoll`. -/
def shellPoll (config : ShellConfig) (event : PollEvent) (state : ShellState) : ShellPolled :=
  match state.cmd with
  | some cmd => executeCommand config cmd event.returns state
  | none =>
    if state.result = taskFinished then shellPrompt config state
    else
      match event.key with
      | some key => readKey config key state
      | none => { state, status := some taskIdle }

/-- A poll, as a step: none if the function of a command does not return. -/
def pollStep (config : ShellConfig) (state : ShellState) (event : PollEvent) : Option ShellState :=
  let polled := shellPoll config event state
  polled.status.map fun _ => polled.state

end ComputerSystems.System
