import ComputerSystems.Usb.Driver
import ComputerSystems.Data.Run
import Mathlib.Data.List.Basic

/-! # Answers of storage commands

A command that `command` accepts is answered by a call of its complete routine.
The driver gives no answer when a transfer of the command cannot be started or
when the status wrapper is not valid; it only prints a message and is ready for
the next command.  As long as neither happens, every command is answered once
(`storage_commands_answered`).

At most one command waits for its answer at any time.  `Settles` says what an
effect does to it, and is composed along the calls of a complete routine.
-/

namespace ComputerSystems.Verified

open ComputerSystems.Usb ComputerSystems.Data

/-! ## Accepted commands and answers -/

def acceptedCommand : StorageAction → Option Command
  | .start request _ true => some request
  | _ => none

def answeredRoutine : StorageAction → Option (Option CommandRoutine)
  | .complete routine _ => some routine
  | _ => none

/-- The commands for which `command` returned 0. -/
def acceptedCommands (actions : List StorageAction) : List Command :=
  actions.filterMap acceptedCommand

/-- The complete routines that were called. -/
def answers (actions : List StorageAction) : List (Option CommandRoutine) :=
  actions.filterMap answeredRoutine

/-- The answers that commands expect. -/
def expected (commands : List Command) : List (Option CommandRoutine) :=
  commands.map fun request => some request.complete

def busAction : BusEvent → Option StorageAction
  | .driver action => some action
  | .completion _ => none

def actionsOf (storage : Storage) : List StorageAction :=
  storage.log.filterMap busAction

@[simp] theorem acceptedCommands_nil : acceptedCommands [] = [] := rfl
@[simp] theorem answers_nil : answers [] = [] := rfl
@[simp] theorem expected_nil : expected [] = [] := rfl

@[simp] theorem acceptedCommands_cons (action : StorageAction) (rest : List StorageAction) :
    acceptedCommands (action :: rest) = (acceptedCommand action).toList ++ acceptedCommands rest := by
  cases accepted : acceptedCommand action <;> simp [acceptedCommands, accepted]

@[simp] theorem answers_cons (action : StorageAction) (rest : List StorageAction) :
    answers (action :: rest) = (answeredRoutine action).toList ++ answers rest := by
  cases answered : answeredRoutine action <;> simp [answers, answered]

@[simp] theorem acceptedCommands_append (first rest : List StorageAction) :
    acceptedCommands (first ++ rest) = acceptedCommands first ++ acceptedCommands rest :=
  List.filterMap_append

@[simp] theorem answers_append (first rest : List StorageAction) :
    answers (first ++ rest) = answers first ++ answers rest :=
  List.filterMap_append

@[simp] theorem expected_cons (request : Command) (rest : List Command) :
    expected (request :: rest) = some request.complete :: expected rest := rfl

@[simp] theorem expected_append (first rest : List Command) :
    expected (first ++ rest) = expected first ++ expected rest :=
  List.map_append

theorem acceptedCommands_quiet {actions : List StorageAction} (quiet : ∀ action ∈ actions, action.quiet) :
    acceptedCommands actions = [] := by
  apply filterMap_quiet _ quiet
  intro action silent
  cases action with
  | start request transfer starts => simp at silent
  | _ => rfl

theorem answers_quiet {actions : List StorageAction} (quiet : ∀ action ∈ actions, action.quiet) :
    answers actions = [] := by
  apply filterMap_quiet _ quiet
  intro action silent
  cases action with
  | complete routine csw => simp at silent
  | _ => rfl

/-- `command` returns 0 exactly if it accepts the command. -/
theorem command_eq_zero_iff (request : Command) (starts : Bool) (device : MassStorageDevice) :
    (command request starts device).1 = 0 ↔
      acceptedCommands (command request starts device).2.actions = [request] := by
  by_cases idle : device.commandState = stateCbwTransfer
  · cases starts with
    | true => simp [command, idle, acceptedCommand]
    | false => simp [command, idle, acceptedCommand]
  · simp [command, idle, acceptedCommand]

@[simp] theorem actionsOf_absorb (storage : Storage) (effect : Effect) :
    actionsOf (storage.absorb effect) = actionsOf storage ++ effect.actions := by
  have driven : effect.actions.filterMap (busAction ∘ .driver) = effect.actions :=
    List.filterMap_some
  rw [actionsOf, Storage.absorb, List.filterMap_append, List.filterMap_map, driven, actionsOf]

theorem actionsOf_completed (storage : Storage) (outstanding : List Transfer) (csw : CommandStatusWrapper) :
    actionsOf { storage with outstanding, log := storage.log ++ [.completion csw] } = actionsOf storage := by
  simp [actionsOf, busAction]

variable {storage after : Storage}

theorem storageStep_extends {routine : CommandStatusWrapper → List DriverCall → MassStorageDevice → Effect}
    {event : StorageEvent} (steps : storageStep routine storage event = some after) :
    actionsOf storage <+: actionsOf after := by
  cases event with
  | call made =>
    obtain rfl := Option.some.inj steps
    rw [actionsOf_absorb]
    exact List.prefix_append _ _
  | complete index csw starts calls =>
    rw [storageStep, Option.ite_none_right_eq_some] at steps
    obtain ⟨-, steps⟩ := steps
    obtain rfl := Option.some.inj steps
    rw [actionsOf_absorb, actionsOf_completed]
    exact List.prefix_append _ _

theorem runStorage_extends {routine : CommandStatusWrapper → List DriverCall → MassStorageDevice → Effect}
    (events : List StorageEvent) (run : events.foldlM (storageStep routine) storage = some after) :
    actionsOf storage <+: actionsOf after := by
  induction events generalizing storage with
  | nil =>
    obtain rfl : storage = after := Option.some.inj run
    exact List.prefix_rfl
  | cons event events ih =>
    rw [List.foldlM_cons, Option.bind_eq_bind, Option.bind_eq_some_iff] at run
    obtain ⟨reached, steps, run⟩ := run
    exact (storageStep_extends steps).trans (ih run)

/-! ## Outstanding transfers

Whatever becomes of the transfers and whatever the complete routines call, one
transfer is outstanding while a command is in progress. -/

variable {device : MassStorageDevice} {effect first rest : Effect} {outstanding : Nat}

def inProgress (device : MassStorageDevice) : Nat :=
  if device.commandState = stateCbwTransfer then 0 else 1

/-- After an effect, with `outstanding` transfers outstanding before. -/
structure Occupies (outstanding : Nat) (effect : Effect) : Prop where
  state : effect.device.commandState ≤ stateCmdFinished
  count : outstanding + (effect.actions.filterMap startedTransfer).length = inProgress effect.device

theorem command_occupies (state : device.commandState ≤ stateCmdFinished) (request : Command) (starts : Bool) :
    Occupies (inProgress device) (command request starts device).2 := by
  by_cases idle : device.commandState = stateCbwTransfer
  · cases starts with
    | true =>
      simp only [command, idle, inProgress, ↓reduceIte]
      exact ⟨show 1 ≤ 3 by decide, rfl⟩
    | false =>
      simp only [command, idle, inProgress, ↓reduceIte]
      exact ⟨Nat.zero_le _, rfl⟩
  · rw [command_busy starts idle]
    exact ⟨state, rfl⟩

theorem perform_occupies (state : device.commandState ≤ stateCmdFinished) (call : DriverCall) :
    Occupies (inProgress device) (call.perform device) := by
  cases call.performs device with
  | nothing same quiet =>
    exact ⟨same.commandState.trans_le state, by
      rw [startedTransfer_quiet quiet, inProgress, inProgress, same.commandState, List.length_nil, Nat.add_zero]⟩
  | command base request starts before after same length quietBefore quietAfter performs =>
    have occupies := command_occupies (same.commandState.trans_le state) request starts
    rw [inProgress, same.commandState, ← inProgress] at occupies
    rw [performs]
    refine ⟨occupies.state, ?_⟩
    simpa [startedTransfer_quiet quietBefore, startedTransfer_quiet quietAfter] using occupies.count

theorem performCalls_occupies (state : device.commandState ≤ stateCmdFinished) (calls : List DriverCall) :
    Occupies (inProgress device) (performCalls calls device) := by
  induction calls generalizing device with
  | nil => exact ⟨state, rfl⟩
  | cons call calls ih =>
    have occupies := perform_occupies state call
    have later := ih occupies.state
    refine ⟨later.state, ?_⟩
    rw [performCalls, List.filterMap_append, List.length_append, ← Nat.add_assoc, occupies.count]
    exact later.count

theorem completeRoutine_occupies (idle : device.commandState = stateCbwTransfer) (csw : CommandStatusWrapper)
    (calls : List DriverCall) : Occupies 0 (completeRoutine csw calls device) := by
  have plain (other : MassStorageDevice) (same : other.commandState = stateCbwTransfer) :
      Occupies 0 (performCalls calls other) := by
    have occupies := performCalls_occupies (same.trans_le (Nat.zero_le stateCmdFinished)) calls
    rwa [inProgress, if_pos same] at occupies
  unfold completeRoutine
  split
  · have message := startedTransfer_quiet (opMessage_quiet csw)
    cases operation : device.operationCallback with
    | none =>
      rw [opComplete_none operation]
      exact ⟨idle.trans_le (Nat.zero_le _), by simp [message, inProgress, opNext, opResult, idle]⟩
    | some callback =>
      rw [opComplete_some operation]
      have occupies := plain (opResult csw device) idle
      refine ⟨occupies.state, ?_⟩
      rw [List.filterMap_append, message, List.nil_append, List.filterMap_cons_none rfl]
      exact occupies.count
  · exact plain _ idle
  · exact plain _ idle

theorem commandCsw_occupies (starts : Bool) (state : device.commandState = stateCswTransfer) :
    Occupies 0 (commandCsw starts device) := by
  cases starts with
  | true =>
    simp only [commandCsw, state, if_true]
    exact ⟨show 3 ≤ 3 by decide, rfl⟩
  | false =>
    simp only [commandCsw, Bool.false_eq_true, if_false]
    exact ⟨Nat.zero_le _, rfl⟩

theorem completion_occupies (busy : device.commandState ≠ stateCbwTransfer)
    (state : device.commandState ≤ stateCmdFinished) (csw : CommandStatusWrapper) (starts : Bool)
    (calls : List DriverCall) :
    Occupies 0 (commandComplete csw starts (completeRoutine csw calls) device) := by
  obtain state | state | state := commandState_cases busy state
  · by_cases empty : device.commandBufferLen.toInt ≤ 0
    · rw [commandComplete_skips starts _ state empty]
      exact commandCsw_occupies starts rfl
    · rw [commandComplete_data starts _ state empty]
      cases starts with
      | true => exact ⟨show 2 ≤ 3 by decide, rfl⟩
      | false => exact ⟨Nat.zero_le _, rfl⟩
  · rw [commandComplete_csw starts _ state]
    exact commandCsw_occupies starts state
  · by_cases finished : finishes csw device
    · have occupies := completeRoutine_occupies
        (rfl : { device with commandState := stateCbwTransfer }.commandState = stateCbwTransfer) csw calls
      rw [commandComplete_finishes starts _ finished]
      refine ⟨occupies.state, ?_⟩
      rw [List.filterMap_cons_none rfl]
      exact occupies.count
    · obtain ⟨text, invalid⟩ := commandComplete_invalid starts (completeRoutine csw calls) state finished
      rw [invalid]
      exact ⟨Nat.zero_le _, rfl⟩

/-- One transfer is outstanding while a command is in progress. -/
structure TransferInv (storage : Storage) : Prop where
  state : storage.device.commandState ≤ stateCmdFinished
  count : storage.outstanding.length = inProgress storage.device

theorem storageStart_transferInv (device : MassStorageDevice) : TransferInv (storageStart device) where
  state := Nat.zero_le _
  count := rfl

/-- A transfer completes only while a command is in progress. -/
theorem TransferInv.busy (inv : TransferInv storage) {index : Nat}
    (bound : index < storage.outstanding.length) : storage.device.commandState ≠ stateCbwTransfer := by
  intro idle
  rw [inv.count, inProgress, if_pos idle] at bound
  exact Nat.not_lt_zero index bound

theorem storageStep_transferInv (inv : TransferInv storage) (event : StorageEvent)
    (steps : storageStep completeRoutine storage event = some after) : TransferInv after := by
  cases event with
  | call made =>
    obtain rfl := Option.some.inj steps
    have occupies := perform_occupies inv.state made
    exact ⟨occupies.state, by rw [Storage.absorb, List.length_append, inv.count, occupies.count]⟩
  | complete index csw starts calls =>
    rw [storageStep, Option.ite_none_right_eq_some] at steps
    obtain ⟨bound, steps⟩ := steps
    obtain rfl := Option.some.inj steps
    have busy := inv.busy bound
    have occupies := completion_occupies busy inv.state csw starts calls
    have none : (storage.outstanding.eraseIdx index).length = 0 := by
      rw [List.length_eraseIdx_of_lt bound, inv.count, inProgress, if_neg busy]
    exact ⟨occupies.state, by rw [Storage.absorb, List.length_append, none, occupies.count]⟩

/-! ## The command that waits -/

variable {pending middle next : Option Command} {progress : Nat}

/-- The command that waits for its answer. -/
inductive Awaits (device : MassStorageDevice) : Option Command → Prop where
  | idle (state : device.commandState = stateCbwTransfer) : Awaits device none
  | busy {request : Command} (started : stateCbwTransfer < device.commandState)
      (unfinished : device.commandState ≤ stateCmdFinished)
      (complete : device.commandComplete = some request.complete) : Awaits device (some request)

theorem Awaits.congr {other : MassStorageDevice} (awaits : Awaits device pending)
    (state : other.commandState = device.commandState)
    (complete : other.commandComplete = device.commandComplete) : Awaits other pending := by
  cases awaits with
  | idle idle => exact .idle (state.trans idle)
  | busy started unfinished saved =>
    exact .busy (state.symm ▸ started) (state.symm ▸ unfinished) (complete.trans saved)

theorem Awaits.commandState_le (awaits : Awaits device pending) : device.commandState ≤ 3 := by
  cases awaits with
  | idle state => exact state.trans_le (Nat.zero_le 3)
  | busy started unfinished complete => exact unfinished

/-- What an effect does to the command that waits, where `progress` counts the
    completions since the last answer.  Each command has three at most. -/
structure Settles (pending : Option Command) (progress : Nat) (effect : Effect) (next : Option Command) :
    Prop where
  balance : answers effect.actions ++ expected next.toList =
    expected (pending.toList ++ acceptedCommands effect.actions)
  progress : progress ≤ 3 * (answers effect.actions).length + (effect.device.commandState - 1)
  awaits : Awaits effect.device next

theorem Settles.append (settles : Settles pending progress first middle)
    (later : Settles middle (first.device.commandState - 1) rest next) :
    Settles pending progress { rest with actions := first.actions ++ rest.actions } next where
  balance := by
    have before := settles.balance
    have behind := later.balance
    simp only [answers_append, acceptedCommands_append, expected_append] at before behind ⊢
    rw [List.append_assoc, behind, ← List.append_assoc, before, List.append_assoc]
  progress := by
    have before := settles.progress
    have behind := later.progress
    simp only [answers_append, List.length_append]
    omega
  awaits := later.awaits

/-- Quiet actions before and after. -/
theorem Settles.surround {before after : List StorageAction}
    (settles : Settles pending progress effect next)
    (quietBefore : ∀ action ∈ before, action.quiet) (quietAfter : ∀ action ∈ after, action.quiet) :
    Settles pending progress { effect with actions := before ++ (effect.actions ++ after) } next where
  balance := by
    simpa [acceptedCommands_quiet quietBefore, acceptedCommands_quiet quietAfter, answers_quiet quietBefore,
      answers_quiet quietAfter] using settles.balance
  progress := by
    simpa [answers_quiet quietBefore, answers_quiet quietAfter] using settles.progress
  awaits := settles.awaits

/-- An effect without any transfer or answer. -/
theorem settles_quiet (awaits : Awaits device pending) (state : effect.device.commandState = device.commandState)
    (complete : effect.device.commandComplete = device.commandComplete)
    (quiet : ∀ action ∈ effect.actions, action.quiet) :
    Settles pending (device.commandState - 1) effect pending where
  balance := by simp [acceptedCommands_quiet quiet, answers_quiet quiet]
  progress := by simp [answers_quiet quiet, state]
  awaits := awaits.congr state complete

/-! ## Calls -/

theorem command_settles (awaits : Awaits device pending) (request : Command) (starts : Bool) :
    ∃ next, Settles pending (device.commandState - 1)
      (command request starts device).2 next := by
  cases awaits with
  | idle state =>
    cases starts with
    | true =>
      refine ⟨some request, ?_, ?_, ?_⟩
      · simp [command, state, answeredRoutine, acceptedCommand]
      · simp [state, stateCbwTransfer]
      · simp only [command, state, ↓reduceIte]
        exact .busy (Nat.lt_succ_self _) (show 1 ≤ 3 by decide) rfl
    | false =>
      refine ⟨none, ?_, ?_, ?_⟩
      · simp [command, state, answeredRoutine, acceptedCommand]
      · simp [state, stateCbwTransfer]
      · simp only [command, state, ↓reduceIte]
        exact .idle rfl
  | @busy waiting started unfinished complete =>
    rw [command_busy starts (by omega)]
    exact ⟨some waiting, settles_quiet (.busy started unfinished complete) rfl rfl (by simp)⟩

theorem perform_settles (awaits : Awaits device pending) (call : DriverCall) :
    ∃ next, Settles pending (device.commandState - 1) (call.perform device) next := by
  cases call.performs device with
  | nothing same quiet =>
    exact ⟨pending, settles_quiet awaits same.commandState same.commandComplete quiet⟩
  | command base request starts before after same length quietBefore quietAfter performs =>
    obtain ⟨next, settles⟩ :=
      command_settles (awaits.congr same.commandState same.commandComplete) request starts
    rw [same.commandState] at settles
    rw [performs]
    exact ⟨next, settles.surround quietBefore quietAfter⟩

theorem performCalls_settles (awaits : Awaits device pending) (calls : List DriverCall) :
    ∃ next, Settles pending (device.commandState - 1) (performCalls calls device) next := by
  induction calls generalizing device pending with
  | nil => exact ⟨pending, settles_quiet awaits rfl rfl (by simp [performCalls])⟩
  | cons call calls ih =>
    obtain ⟨middle, settles⟩ := perform_settles awaits call
    obtain ⟨next, later⟩ := ih settles.awaits
    exact ⟨next, settles.append later⟩

/-! ## Completions -/

/-- `op_complete` clears the buffer after its callback has run; a command that the
    callback started still waits for its answer. -/
theorem opComplete_settles (idle : device.commandState = stateCbwTransfer) (csw : CommandStatusWrapper)
    (calls : List DriverCall) : ∃ next, Settles none 0 (opComplete csw (performCalls calls) device) next := by
  have message := opMessage_quiet csw
  cases operation : device.operationCallback with
  | none =>
    rw [opComplete_none operation]
    exact ⟨none, by simp [acceptedCommands_quiet message, answers_quiet message], Nat.zero_le _, .idle idle⟩
  | some callback =>
    obtain ⟨next, settles⟩ :=
      performCalls_settles (.idle idle : Awaits (opResult csw device) none) calls
    rw [opComplete_some operation]
    refine ⟨next, ?_, Nat.zero_le _, settles.awaits.congr rfl rfl⟩
    simpa [acceptedCommands_quiet message, answers_quiet message, acceptedCommand, answeredRoutine]
      using settles.balance

theorem completeRoutine_settles (idle : device.commandState = stateCbwTransfer) (csw : CommandStatusWrapper)
    (calls : List DriverCall) : ∃ next, Settles none 0 (completeRoutine csw calls device) next := by
  have plain (other : MassStorageDevice) (same : other.commandState = stateCbwTransfer) :
      ∃ next, Settles none 0 (performCalls calls other) next := by
    obtain ⟨next, settles⟩ := performCalls_settles (.idle same : Awaits other none) calls
    exact ⟨next, settles.balance, Nat.zero_le _, settles.awaits⟩
  unfold completeRoutine
  split
  · exact opComplete_settles idle csw calls
  · exact plain _ idle
  · exact plain _ idle

/-- The transfers that `command_complete` hands over start, and the status is valid. -/
def TransfersSucceed (storage : Storage) : StorageEvent → Prop
  | .call _ => True
  | .complete _ csw starts _ =>
    if storage.device.commandState = stateCmdFinished then
      csw.signature = cswSignature ∧ csw.tag = storage.device.tag
    else starts = true

instance (storage : Storage) (event : StorageEvent) : Decidable (TransfersSucceed storage event) :=
  match event with
  | .call _ => inferInstanceAs (Decidable True)
  | .complete _ _ _ _ => inferInstanceAs (Decidable (ite _ _ _))

theorem commandCsw_settles {request : Command} (state : device.commandState = stateCswTransfer)
    (complete : device.commandComplete = some request.complete) (bound : progress ≤ 2) :
    Settles (some request) progress (commandCsw true device) (some request) where
  balance := by simp [commandCsw, answeredRoutine, acceptedCommand]
  progress := by
    simp only [commandCsw, if_true, state]
    exact Nat.le_add_left_of_le bound
  awaits := by
    simp only [commandCsw, if_true, state]
    exact .busy (show 0 < 3 by decide) (show 3 ≤ 3 by decide) complete

theorem completion_settles {request : Command} (awaits : Awaits device (some request))
    (csw : CommandStatusWrapper) (starts : Bool) (calls : List DriverCall)
    (succeed : if device.commandState = stateCmdFinished then
      csw.signature = cswSignature ∧ csw.tag = device.tag else starts = true) :
    ∃ next, Settles (some request) device.commandState
      (commandComplete csw starts (completeRoutine csw calls) device) next := by
  cases awaits with
  | busy started unfinished complete =>
    -- The data, the status wrapper or the answer has been waited for.
    obtain state | state | state := commandState_cases (Nat.ne_of_gt started) unfinished
    · rw [if_neg (by rw [state]; decide)] at succeed
      subst succeed
      refine ⟨some request, ?_⟩
      by_cases empty : device.commandBufferLen.toInt ≤ 0
      · rw [commandComplete_skips true _ state empty, state]
        exact commandCsw_settles rfl complete (by decide)
      · rw [commandComplete_data true _ state empty, state]
        exact ⟨rfl, show 1 ≤ 1 by decide, .busy (show 0 < 2 by decide) (show 2 ≤ 3 by decide) complete⟩
    · rw [if_neg (by rw [state]; decide)] at succeed
      subst succeed
      refine ⟨some request, ?_⟩
      rw [commandComplete_csw true _ state]
      exact commandCsw_settles state complete (by rw [state]; decide)
    · rw [if_pos state] at succeed
      obtain ⟨next, settles⟩ := completeRoutine_settles
        (rfl : { device with commandState := stateCbwTransfer }.commandState = stateCbwTransfer) csw calls
      rw [commandComplete_finishes starts _ ⟨state, succeed⟩]
      refine ⟨next, ?_, ?_, settles.awaits⟩
      · have balance := settles.balance
        simp only [Option.toList_none, List.nil_append] at balance
        simp only [answers_cons, acceptedCommands_cons, answeredRoutine, acceptedCommand, Option.toList_some,
          Option.toList_none, List.nil_append, List.cons_append, expected_cons, balance]
        rw [complete]
      · simp only [answers_cons, answeredRoutine, Option.toList_some, List.length_append, List.length_singleton,
          state, stateCmdFinished]
        omega

/-! ## Runs -/

/-- The answers so far and the one that is waited for are those that the accepted
    commands expect. -/
structure AnswerInv (storage : Storage) (pending : Option Command) : Prop where
  transfers : TransferInv storage
  balance : answers (actionsOf storage) ++ expected pending.toList = expected (acceptedCommands (actionsOf storage))
  awaits : Awaits storage.device pending

theorem storageStart_answerInv (device : MassStorageDevice) : AnswerInv (storageStart device) none where
  transfers := storageStart_transferInv device
  balance := rfl
  awaits := .idle rfl

/-- The completions up to now, if every answered command had three. -/
def answerProgress (storage : Storage) : Nat :=
  3 * (answers (actionsOf storage)).length + (storage.device.commandState - 1)

/-- What a step adds, given what its effect does; `removed` is without the transfer
    that has completed. -/
theorem AnswerInv.absorb (inv : AnswerInv storage pending) (removed : Storage) {before : Nat}
    (sameActions : actionsOf removed = actionsOf storage) (transfers : TransferInv (removed.absorb effect))
    (settles : Settles pending before effect next) :
    AnswerInv (removed.absorb effect) next ∧
      3 * (answers (actionsOf storage)).length + before ≤ answerProgress (removed.absorb effect) := by
  refine ⟨⟨transfers, ?_, settles.awaits⟩, ?_⟩
  · rw [actionsOf_absorb, sameActions, answers_append, acceptedCommands_append, expected_append, ← inv.balance,
      List.append_assoc, settles.balance, expected_append, List.append_assoc]
  · rw [answerProgress, actionsOf_absorb, sameActions, answers_append, List.length_append]
    have progress := settles.progress
    simp only [Storage.absorb]
    omega

theorem storageStep_answerInv (inv : AnswerInv storage pending) (event : StorageEvent)
    (succeed : TransfersSucceed storage event)
    (steps : storageStep completeRoutine storage event = some after) :
    (∃ next, AnswerInv after next) ∧
      answerProgress storage + (if event.isComplete then 1 else 0) ≤ answerProgress after := by
  have transfers := storageStep_transferInv inv.transfers event steps
  cases event with
  | call made =>
    obtain rfl := Option.some.inj steps
    obtain ⟨next, settles⟩ := perform_settles inv.awaits made
    obtain ⟨inv', progress⟩ := inv.absorb storage rfl transfers settles
    exact ⟨⟨next, inv'⟩, progress⟩
  | complete index csw starts calls =>
    rw [storageStep, Option.ite_none_right_eq_some] at steps
    obtain ⟨bound, steps⟩ := steps
    obtain rfl := Option.some.inj steps
    have busy := inv.transfers.busy bound
    cases pending with
    | none =>
      cases inv.awaits with
      | idle state => exact absurd state busy
    | some request =>
      obtain ⟨next, settles⟩ := completion_settles inv.awaits csw starts calls succeed
      obtain ⟨inv', progress⟩ := inv.absorb _ (actionsOf_completed _ _ _) transfers settles
      refine ⟨⟨next, inv'⟩, ?_⟩
      have started : 0 < storage.device.commandState := Nat.pos_of_ne_zero busy
      simp only [answerProgress, StorageEvent.isComplete, if_true] at progress ⊢
      omega

theorem runStorage_answerInv (inv : AnswerInv storage pending) (events : List StorageEvent)
    (succeed : Along (storageStep completeRoutine) TransfersSucceed events storage)
    (run : events.foldlM (storageStep completeRoutine) storage = some after) :
    (∃ next, AnswerInv after next) ∧
      answerProgress storage + events.countP StorageEvent.isComplete ≤ answerProgress after := by
  induction events generalizing storage pending with
  | nil =>
    obtain rfl : storage = after := Option.some.inj run
    exact ⟨⟨pending, inv⟩, by simp⟩
  | cons event events ih =>
    rw [List.foldlM_cons, Option.bind_eq_bind, Option.bind_eq_some_iff] at run
    obtain ⟨reached, steps, run⟩ := run
    obtain ⟨⟨next, inv'⟩, progress⟩ := storageStep_answerInv inv event succeed.1 steps
    obtain ⟨invs, progress'⟩ := ih inv' (succeed.2 reached steps) run
    refine ⟨invs, ?_⟩
    rw [List.countP_cons]
    omega

/-- In every run in which the transfers succeed, every accepted command has been
    answered by one call of its complete routine, in order, except that the last
    one may be in progress.  When none is, the driver accepts a command.  Three
    completions later every command accepted now has been answered. -/
theorem storage_commands_answered (device : MassStorageDevice) (events : List StorageEvent)
    (succeed : Along (storageStep completeRoutine) TransfersSucceed events (storageStart device))
    (storage : Storage)
    (run : events.foldlM (storageStep completeRoutine) (storageStart device) = some storage) :
    (storage.outstanding = [] → storage.device.commandState = stateCbwTransfer ∧
      (∀ request, (command request true storage.device).1 = 0) ∧
      answers (actionsOf storage) = expected (acceptedCommands (actionsOf storage))) ∧
    (storage.outstanding ≠ [] → ∃ transfer earlier last, storage.outstanding = [transfer] ∧
      acceptedCommands (actionsOf storage) = earlier ++ [last] ∧
      answers (actionsOf storage) = expected earlier) ∧
    ∀ later after, Along (storageStep completeRoutine) TransfersSucceed later storage →
      later.foldlM (storageStep completeRoutine) storage = some after →
      3 ≤ later.countP StorageEvent.isComplete →
      expected (acceptedCommands (actionsOf storage)) <+: answers (actionsOf after) := by
  obtain ⟨⟨pending, inv⟩, -⟩ := runStorage_answerInv (storageStart_answerInv device) events succeed run
  refine ⟨?_, ?_, ?_⟩
  · intro quiet
    have balance := inv.balance
    have count := inv.transfers.count
    cases inv.awaits with
    | idle state => exact ⟨state, fun request => by simp [command, state], by simpa using balance⟩
    | busy started unfinished complete => simp [quiet, inProgress, Nat.ne_of_gt started] at count
  · intro busy
    have balance := inv.balance
    have count := inv.transfers.count
    cases inv.awaits with
    | idle state =>
      rw [inProgress, if_pos state] at count
      exact absurd (List.eq_nil_of_length_eq_zero count) busy
    | busy started unfinished complete =>
      rw [inProgress, if_neg (Nat.ne_of_gt started)] at count
      obtain ⟨transfer, single⟩ := List.length_eq_one_iff.mp count
      obtain ⟨earlier, rest, accepted, answered, missing⟩ := List.map_eq_append_iff.mp balance.symm
      obtain ⟨last, rfl, -⟩ := List.map_eq_singleton_iff.mp missing
      exact ⟨transfer, earlier, last, single, accepted, answered.symm⟩
  · intro later after succeed' run' enough
    obtain ⟨⟨next, inv'⟩, progress⟩ := runStorage_answerInv inv later succeed' run'
    have answered : answers (actionsOf after) <+: expected (acceptedCommands (actionsOf after)) :=
      ⟨_, inv'.balance⟩
    have accepted : expected (acceptedCommands (actionsOf storage)) <+:
        expected (acceptedCommands (actionsOf after)) :=
      ((runStorage_extends later run').filterMap acceptedCommand).map _
    apply List.prefix_of_prefix_length_le accepted answered
    -- three completions bring at least one answer, and at most one is missing now
    have missing := congrArg List.length inv.balance
    have one := Option.length_toList_le (o := pending)
    have finished := inv'.awaits.commandState_le
    rw [List.length_append] at missing
    simp only [answerProgress] at progress
    simp only [expected, List.length_map] at missing ⊢
    omega

/-- A command, its data and status, and a second command that the complete routine
    calls. -/
theorem storage_commands_answered_twice :
    ∃ storage, [.call (.command ⟨[0x12], some 0x4000, 36, true, .configureComplete⟩ true),
        .complete 0 ⟨0, 0, 0, 0⟩ true [], .complete 0 ⟨0, 0, 0, 0⟩ true [],
        .complete 0 ⟨cswSignature, 1, 0, 0⟩ true
          [.command ⟨[0x00], none, 0, false, .configureComplete⟩ true],
        .complete 0 ⟨0, 0, 0, 0⟩ true [], .complete 0 ⟨cswSignature, 2, 0, 0⟩ true []].foldlM
          (storageStep completeRoutine) (storageStart freshDevice) = some storage ∧
      (storage.outstanding = [] → storage.device.commandState = stateCbwTransfer ∧
        (∀ request, (command request true storage.device).1 = 0) ∧
        answers (actionsOf storage) = expected (acceptedCommands (actionsOf storage))) := by
  obtain ⟨storage, run⟩ := Option.isSome_iff_exists.mp
    (show Option.isSome ([.call (.command ⟨[0x12], some 0x4000, 36, true, .configureComplete⟩ true),
        .complete 0 ⟨0, 0, 0, 0⟩ true [], .complete 0 ⟨0, 0, 0, 0⟩ true [],
        .complete 0 ⟨cswSignature, 1, 0, 0⟩ true
          [.command ⟨[0x00], none, 0, false, .configureComplete⟩ true],
        .complete 0 ⟨0, 0, 0, 0⟩ true [], .complete 0 ⟨cswSignature, 2, 0, 0⟩ true []].foldlM
          (storageStep completeRoutine) (storageStart freshDevice)) by decide)
  exact ⟨storage, run, (storage_commands_answered freshDevice _ (by decide) storage run).1⟩

/-- A command without data whose status has no signature: nothing is outstanding, and
    the accepted command has not been answered. -/
theorem storage_command_unanswered :
    ([.call (.command ⟨[0x00], none, 0, false, .configureComplete⟩ true), .complete 0 ⟨0, 0, 0, 0⟩ true [],
        .complete 0 ⟨0, 1, 0, 0⟩ true []].foldlM (storageStep completeRoutine)
          (storageStart freshDevice)).map (fun storage =>
        (storage.outstanding, (acceptedCommands (actionsOf storage)).length, answers (actionsOf storage))) =
      some ([], 1, []) := by
  decide

end ComputerSystems.Verified
