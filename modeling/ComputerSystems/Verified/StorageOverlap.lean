import ComputerSystems.Verified.StorageAnswers

/-! # Overlapping storage operations

A read or write that is requested while another one is in progress is refused by
`command`, but only after `MassStorageRead` or `MassStorageWrite` has stored its
callback and payload.  The operation in progress then completes with the callback
of the refused one.  A run in which this makes no difference is one whose refused
requests pass the callback and the payload of the operation in progress
(`storage_operation_undisturbed`).

`Flight` finds out from the actions of a run which operation is in progress, and
`Tracks` says that the device still holds its callback, payload and buffer.  There
is a second way to lose them: `op_complete` clears the buffer when the callback of
the operation has returned, also if that callback has started the next one.
-/

namespace ComputerSystems.Verified

open ComputerSystems.System ComputerSystems.Usb ComputerSystems.Data

/-! ## The operation in progress -/

/-- A read or write is in progress. -/
def operationBusy (device : MassStorageDevice) : Prop :=
  device.commandState ≠ stateCbwTransfer ∧ device.commandComplete = some .opComplete

/-- The operation that was requested last and the one that is in progress. -/
structure Flight where
  asked : Option Operation
  inFlight : Option Operation

def Flight.step (flight : Flight) : StorageAction → Flight
  | .request operation => { flight with asked := some operation }
  | .start request _ true =>
    { flight with inFlight := if request.complete = .opComplete then flight.asked else none }
  | .complete _ _ => { flight with inFlight := none }
  | _ => flight

def flightOf (storage : Storage) : Flight :=
  (actionsOf storage).foldl Flight.step ⟨none, none⟩

/-- The fields that a refused request must leave alone. -/
structure SameOperation (device other : MassStorageDevice) : Prop where
  operationCallback : device.operationCallback = other.operationCallback
  operationPayload : device.operationPayload = other.operationPayload
  commandBuffer : device.commandBuffer = other.commandBuffer
  commandBufferLen : device.commandBufferLen = other.commandBufferLen
  tag : device.tag = other.tag

/-- The callback, buffer and payload of a call of an operation's callback. -/
def operationCall : StorageAction → Option (Address × Option Address × Option Address)
  | .operation callback buffer _ payload => some (callback, buffer, payload)
  | _ => none

def Operation.call (operation : Operation) : Option (Address × Option Address × Option Address) :=
  operation.callback.map fun callback => (callback, operation.buffer, operation.payload)

/-! ## Requests that do no harm -/

/-- A request for `operation`.  While another one is in progress it passes the same
    callback and payload.  From inside the callback of an operation it is not
    accepted, or has no buffer. -/
def ConsiderateOperation (inCallback : Bool) (device : MassStorageDevice) (operation : Operation)
    (starts : Bool) : Prop :=
  if device.commandState = stateCbwTransfer then
    inCallback = true → starts = true → aligned device operation.count → operation.buffer = none
  else
    device.commandComplete = some .opComplete →
      operation.callback = device.operationCallback ∧ operation.payload = device.operationPayload

/-- Only reads and writes use `op_complete`. -/
def Considerate (inCallback : Bool) (device : MassStorageDevice) : DriverCall → Prop
  | .command request _ => request.complete ≠ .opComplete
  | .read operation starts => ConsiderateOperation inCallback device operation starts
  | .write operation starts => ConsiderateOperation inCallback device operation starts
  | .seek _ => True

/-- A property of every call of a list and the device it meets. -/
def EachCall (property : MassStorageDevice → DriverCall → Prop) : List DriverCall → MassStorageDevice → Prop
  | [], _ => True
  | call :: calls, device => property device call ∧ EachCall property calls (call.perform device).device

/-- The device when a complete routine calls the driver. -/
def calledBack (csw : CommandStatusWrapper) (device : MassStorageDevice) : MassStorageDevice :=
  match device.commandComplete with
  | some .opComplete => opResult csw { device with commandState := 0 }
  | some .configureComplete => { device with commandState := 0, commandComplete := none }
  | _ => { device with commandState := 0 }

def OverlapsConsiderately (storage : Storage) : StorageEvent → Prop
  | .call made => Considerate false storage.device made
  | .complete _ csw _ calls => finishes csw storage.device →
    EachCall (Considerate (storage.device.commandComplete = some .opComplete)) calls
      (calledBack csw storage.device)

instance (inCallback : Bool) (device : MassStorageDevice) (operation : Operation) (starts : Bool) :
    Decidable (ConsiderateOperation inCallback device operation starts) :=
  inferInstanceAs (Decidable (ite _ _ _))

instance (inCallback : Bool) (device : MassStorageDevice) (call : DriverCall) :
    Decidable (Considerate inCallback device call) :=
  match call with
  | .command request _ => inferInstanceAs (Decidable (request.complete ≠ .opComplete))
  | .read operation starts => inferInstanceAs (Decidable (ConsiderateOperation _ device operation starts))
  | .write operation starts => inferInstanceAs (Decidable (ConsiderateOperation _ device operation starts))
  | .seek _ => inferInstanceAs (Decidable True)

instance decidableEachCall {property : MassStorageDevice → DriverCall → Prop}
    [∀ device call, Decidable (property device call)] :
    ∀ calls device, Decidable (EachCall property calls device)
  | [], _ => inferInstanceAs (Decidable True)
  | call :: calls, device =>
    have : Decidable (EachCall property calls (call.perform device).device) := decidableEachCall calls _
    inferInstanceAs (Decidable (property device call ∧ _))

instance (storage : Storage) (event : StorageEvent) : Decidable (OverlapsConsiderately storage event) :=
  match event with
  | .call made => inferInstanceAs (Decidable (Considerate _ storage.device made))
  | .complete _ csw _ calls => inferInstanceAs (Decidable (finishes csw storage.device → EachCall _ calls _))

/-- A call leaves the operation in progress alone. -/
def Unharmed (device : MassStorageDevice) (call : DriverCall) : Prop :=
  operationBusy device → SameOperation (call.perform device).device device

/-- An event leaves the operation in progress alone, or completes it by calling its
    own callback. -/
def Undisturbed (storage : Storage) : StorageEvent → Prop
  | .call made => Unharmed storage.device made
  | .complete _ csw starts calls => finishes csw storage.device →
    EachCall Unharmed calls (calledBack csw storage.device) ∧
    (storage.device.commandComplete = some .opComplete → ∃ operation,
      (flightOf storage).inFlight = some operation ∧
      (commandComplete csw starts (completeRoutine csw calls) storage.device).actions.filterMap operationCall =
        (Operation.call operation).toList)

/-! ## Calls -/

variable {inCallback : Bool} {device : MassStorageDevice} {flight : Flight}

/-- The device holds what `operation` was requested with. -/
structure Flying (inCallback : Bool) (device : MassStorageDevice) (operation : Operation) : Prop where
  callback : device.operationCallback = operation.callback
  payload : device.operationPayload = operation.payload
  buffer : device.commandBuffer = operation.buffer
  unbuffered : inCallback = true → operation.buffer = none

def Tracks (inCallback : Bool) (flight : Flight) (device : MassStorageDevice) : Prop :=
  operationBusy device → ∃ operation, flight.inFlight = some operation ∧ Flying inCallback device operation

theorem tracks_idle (idle : device.commandState = stateCbwTransfer) : Tracks inCallback flight device :=
  fun busy => absurd idle busy.1

theorem Flight.step_quiet {action : StorageAction} (quiet : action.quiet) :
    (flight.step action).inFlight = flight.inFlight := by
  cases action with
  | start request transfer starts => simp at quiet
  | complete routine csw => simp at quiet
  | _ => rfl

theorem Flight.steps_quiet {actions : List StorageAction} (quiet : ∀ action ∈ actions, action.quiet) :
    (actions.foldl Flight.step flight).inFlight = flight.inFlight := by
  induction actions generalizing flight with
  | nil => rfl
  | cons action actions ih =>
    rw [List.foldl_cons, ih fun other member => quiet other (by simp [member]),
      Flight.step_quiet (quiet action (by simp))]

section Operations

variable (operationCode flags : UInt8) (isInEndpoint : Bool) (message : String) (operation : Operation)
  (starts : Bool)

/-- A refused request has stored its callback and payload all the same. -/
theorem requestOperation_busy (busy : device.commandState ≠ stateCbwTransfer) :
    let effect := requestOperation operationCode flags isInEndpoint message operation starts device
    effect.device = { device with
      operationCallback := operation.callback, operationPayload := operation.payload } ∧
      ∀ action ∈ effect.actions, action.quiet := by
  obtain ⟨-, unchanged, text, arguments, printed⟩ | ⟨-, request, messages, -, -, -, performs⟩ :=
    transferBlocks_cases operationCode flags isInEndpoint message operation.buffer operation.count starts
      { device with operationCallback := operation.callback, operationPayload := operation.payload }
  · exact ⟨unchanged, by simp [requestOperation, printed]⟩
  · rw [command_busy starts (show MassStorageDevice.commandState { device with
      operationCallback := operation.callback, operationPayload := operation.payload } ≠ stateCbwTransfer
      from busy)] at performs
    simp only [requestOperation, performs]
    exact ⟨trivial, by simp⟩

/-- An accepted request is the operation in progress. -/
theorem requestOperation_idle (idle : device.commandState = stateCbwTransfer) :
    let effect := requestOperation operationCode flags isInEndpoint message operation starts device
    effect.device.commandState = stateCbwTransfer ∨
    (starts = true ∧ aligned device operation.count ∧
      (effect.actions.foldl Flight.step flight).inFlight = some operation ∧
      effect.device.operationCallback = operation.callback ∧
      effect.device.operationPayload = operation.payload ∧
      effect.device.commandBuffer = operation.buffer) := by
  obtain ⟨-, unchanged, text, arguments, printed⟩ | ⟨whole, request, messages, buffer, -, complete, performs⟩ :=
    transferBlocks_cases operationCode flags isInEndpoint message operation.buffer operation.count starts
      { device with operationCallback := operation.callback, operationPayload := operation.payload }
  · left
    simp only [requestOperation, unchanged]
    exact idle
  · simp only [requestOperation, performs]
    cases starts with
    | false =>
      left
      simp [command, idle, stateCbwTransfer]
    | true =>
      right
      refine ⟨rfl, whole, ?_, ?_, ?_, ?_⟩
      · simp only [command, idle, if_true, List.foldl_cons, List.foldl_append, List.foldl_nil]
        rw [Flight.steps_quiet (by simp)]
        simp [Flight.step, complete]
      · simp [command, idle]
      · simp [command, idle]
      · simpa [command, idle] using buffer

theorem requestOperation_tracks (tracks : Tracks inCallback flight device)
    (considerate : ConsiderateOperation inCallback device operation starts) :
    let effect := requestOperation operationCode flags isInEndpoint message operation starts device
    Tracks inCallback (effect.actions.foldl Flight.step flight) effect.device ∧
      (operationBusy device → SameOperation effect.device device) := by
  intro effect
  unfold ConsiderateOperation at considerate
  by_cases idle : device.commandState = stateCbwTransfer
  · rw [if_pos idle] at considerate
    refine ⟨?_, fun busy => absurd idle busy.1⟩
    obtain idle' | ⟨started, whole, inFlight, callback, payload, buffer⟩ :=
      requestOperation_idle operationCode flags isInEndpoint message operation starts idle
    · exact tracks_idle idle'
    · intro _
      exact ⟨operation, inFlight, callback, payload, buffer, fun called => considerate called started whole⟩
  · rw [if_neg idle] at considerate
    obtain ⟨refused, quiet⟩ :=
      requestOperation_busy operationCode flags isInEndpoint message operation starts idle
    have same (busy : operationBusy device) : SameOperation effect.device device := by
      obtain ⟨callback, payload⟩ := considerate busy.2
      rw [refused]
      exact ⟨callback, payload, rfl, rfl, rfl⟩
    refine ⟨?_, same⟩
    intro busy
    rw [refused] at busy
    obtain ⟨flying, inFlight, held⟩ := tracks busy
    have kept := same busy
    rw [Flight.steps_quiet quiet]
    exact ⟨flying, inFlight, kept.operationCallback.trans held.callback,
      kept.operationPayload.trans held.payload, kept.commandBuffer.trans held.buffer, held.unbuffered⟩

end Operations

theorem perform_tracks (tracks : Tracks inCallback flight device) (call : DriverCall)
    (considerate : Considerate inCallback device call) :
    Tracks inCallback ((call.perform device).actions.foldl Flight.step flight) (call.perform device).device ∧
      Unharmed device call := by
  cases call with
  | command request starts =>
    by_cases idle : device.commandState = stateCbwTransfer
    · refine ⟨?_, fun busy => absurd idle busy.1⟩
      intro busy
      -- an accepted command is not a read or write
      cases starts with
      | true =>
        simp only [DriverCall.perform, command, idle, operationBusy, if_true, Option.some.injEq] at busy
        exact absurd busy.2 considerate
      | false => simp [DriverCall.perform, command, idle, operationBusy, stateCbwTransfer] at busy
    · simp only [Unharmed, DriverCall.perform, command_busy starts idle]
      exact ⟨tracks, fun _ => ⟨rfl, rfl, rfl, rfl, rfl⟩⟩
  | read operation starts => exact requestOperation_tracks _ _ _ _ operation starts tracks considerate
  | write operation starts => exact requestOperation_tracks _ _ _ _ operation starts tracks considerate
  | seek offset =>
    have kept : SameOperation (DriverCall.perform device (.seek offset)).device device ∧
        (operationBusy (DriverCall.perform device (.seek offset)).device → operationBusy device) ∧
        ∀ action ∈ (DriverCall.perform device (.seek offset)).actions, action.quiet := by
      simp only [DriverCall.perform, massStorageSeek]
      split
      · exact ⟨⟨rfl, rfl, rfl, rfl, rfl⟩, id, by simp⟩
      · exact ⟨⟨rfl, rfl, rfl, rfl, rfl⟩, id, by simp⟩
    obtain ⟨same, was, quiet⟩ := kept
    refine ⟨?_, fun _ => same⟩
    intro busy
    obtain ⟨operation, inFlight, held⟩ := tracks (was busy)
    rw [Flight.steps_quiet quiet]
    exact ⟨operation, inFlight, same.operationCallback.trans held.callback,
      same.operationPayload.trans held.payload, same.commandBuffer.trans held.buffer, held.unbuffered⟩

theorem performCalls_tracks (tracks : Tracks inCallback flight device) (calls : List DriverCall)
    (considerate : EachCall (Considerate inCallback) calls device) :
    Tracks inCallback ((performCalls calls device).actions.foldl Flight.step flight)
      (performCalls calls device).device ∧ EachCall Unharmed calls device := by
  induction calls generalizing flight device with
  | nil => exact ⟨tracks, trivial⟩
  | cons call calls ih =>
    obtain ⟨tracks', unharmed⟩ := perform_tracks tracks call considerate.1
    obtain ⟨tracks'', unharmed'⟩ := ih tracks' considerate.2
    rw [performCalls, List.foldl_append]
    exact ⟨tracks'', unharmed, unharmed'⟩

theorem command_silent (request : Command) (starts : Bool) (device : MassStorageDevice) :
    (command request starts device).2.actions.filterMap operationCall = [] := by
  by_cases idle : device.commandState = stateCbwTransfer
  · cases starts <;> simp [command, idle, operationCall]
  · simp [command, idle, operationCall]

/-- No call of the driver calls the callback of an operation. -/
theorem perform_silent (call : DriverCall) (device : MassStorageDevice) :
    (call.perform device).actions.filterMap operationCall = [] := by
  have silent (operationCode flags : UInt8) (isInEndpoint : Bool) (message : String) (operation : Operation)
      (starts : Bool) : (requestOperation operationCode flags isInEndpoint message operation starts
        device).actions.filterMap operationCall = [] := by
    obtain ⟨-, -, text, arguments, printed⟩ | ⟨-, request, messages, -, -, -, performs⟩ :=
      transferBlocks_cases operationCode flags isInEndpoint message operation.buffer operation.count starts
        { device with operationCallback := operation.callback, operationPayload := operation.payload }
    · simp [requestOperation, printed, operationCall]
    · rw [requestOperation, performs, List.filterMap_cons_none rfl, List.filterMap_append, command_silent,
        List.nil_append, List.filterMap_map]
      exact List.filterMap_eq_nil_iff.mpr fun _ _ => rfl
  cases call with
  | command request starts => exact command_silent request starts device
  | read operation starts => exact silent _ _ _ _ operation starts
  | write operation starts => exact silent _ _ _ _ operation starts
  | seek offset =>
    simp only [DriverCall.perform, massStorageSeek]
    split <;> simp [operationCall]

theorem performCalls_silent (calls : List DriverCall) (device : MassStorageDevice) :
    (performCalls calls device).actions.filterMap operationCall = [] := by
  induction calls generalizing device with
  | nil => rfl
  | cons call calls ih => rw [performCalls, List.filterMap_append, perform_silent, ih, List.append_nil]

/-! ## Completions -/

theorem opComplete_tracks (idle : device.commandState = stateCbwTransfer) (csw : CommandStatusWrapper)
    (calls : List DriverCall) (considerate : EachCall (Considerate true) calls (opResult csw device)) :
    let effect := opComplete csw (performCalls calls) device
    Tracks false (effect.actions.foldl Flight.step flight) effect.device ∧
      EachCall Unharmed calls (opResult csw device) := by
  intro effect
  have start (flight : Flight) : Tracks true flight (opResult csw device) := tracks_idle idle
  cases callback : device.operationCallback with
  | none =>
    rw [show effect = _ from opComplete_none callback csw _]
    exact ⟨tracks_idle idle, (performCalls_tracks (start flight) calls considerate).2⟩
  | some user =>
    rw [show effect = _ from opComplete_some callback csw _, List.foldl_append, List.foldl_cons]
    obtain ⟨tracks, unharmed⟩ := performCalls_tracks (start _) calls considerate
    refine ⟨?_, unharmed⟩
    -- an operation that the callback started has no buffer that could be cleared
    intro busy
    obtain ⟨started, inFlight, held⟩ := tracks busy
    exact ⟨started, inFlight, held.callback, held.payload, (held.unbuffered rfl).symm, by simp⟩

theorem completeRoutine_tracks (flight : Flight) (csw : CommandStatusWrapper) (calls : List DriverCall)
    (considerate : EachCall (Considerate (device.commandComplete = some .opComplete)) calls
      (calledBack csw device)) :
    let effect := completeRoutine csw calls { device with commandState := 0 }
    Tracks false (effect.actions.foldl Flight.step flight) effect.device ∧
      EachCall Unharmed calls (calledBack csw device) := by
  cases routine : device.commandComplete with
  | none =>
    simp only [calledBack, routine, reduceCtorEq, decide_false] at considerate ⊢
    exact performCalls_tracks (tracks_idle rfl) calls considerate
  | some routine' =>
    cases routine' with
    | opComplete =>
      simp only [calledBack, routine, decide_true] at considerate ⊢
      exact opComplete_tracks rfl csw calls considerate
    | configureComplete =>
      simp only [calledBack, routine, Option.some.injEq, reduceCtorEq, decide_false] at considerate ⊢
      exact performCalls_tracks (tracks_idle rfl) calls considerate
    | other address =>
      simp only [calledBack, routine, Option.some.injEq, reduceCtorEq, decide_false] at considerate ⊢
      exact performCalls_tracks (tracks_idle rfl) calls considerate

/-- An effect that leaves the operation in progress as it is. -/
structure Keeps (device : MassStorageDevice) (effect : Effect) : Prop where
  operation : SameOperation effect.device device
  complete : effect.device.commandComplete = device.commandComplete
  flight : ∀ flight, effect.actions.foldl Flight.step flight = flight

theorem commandCsw_keeps (device : MassStorageDevice) (starts : Bool) : Keeps device (commandCsw starts device) := by
  cases starts with
  | true => exact ⟨⟨rfl, rfl, rfl, rfl, rfl⟩, rfl, fun _ => rfl⟩
  | false => exact ⟨⟨rfl, rfl, rfl, rfl, rfl⟩, rfl, fun _ => rfl⟩

/-- A transfer that completes, or a status that is not valid. -/
theorem commandComplete_keeps (busy : device.commandState ≠ stateCbwTransfer)
    (bound : device.commandState ≤ stateCmdFinished) (csw : CommandStatusWrapper)
    (unfinished : ¬ finishes csw device) (starts : Bool) (callback : MassStorageDevice → Effect) :
    Keeps device (commandComplete csw starts callback device) := by
  obtain state | state | state := commandState_cases busy bound
  · by_cases empty : device.commandBufferLen.toInt ≤ 0
    · have keeps := commandCsw_keeps { device with commandState := stateCswTransfer } starts
      rw [commandComplete_skips starts callback state empty]
      exact ⟨⟨keeps.operation.operationCallback, keeps.operation.operationPayload, keeps.operation.commandBuffer,
        keeps.operation.commandBufferLen, keeps.operation.tag⟩, keeps.complete, keeps.flight⟩
    · rw [commandComplete_data starts callback state empty]
      cases starts with
      | true => exact ⟨⟨rfl, rfl, rfl, rfl, rfl⟩, rfl, fun _ => rfl⟩
      | false => exact ⟨⟨rfl, rfl, rfl, rfl, rfl⟩, rfl, fun _ => rfl⟩
  · rw [commandComplete_csw starts callback state]
    exact commandCsw_keeps device starts
  · obtain ⟨text, invalid⟩ := commandComplete_invalid starts callback state unfinished
    rw [invalid]
    exact ⟨⟨rfl, rfl, rfl, rfl, rfl⟩, rfl, fun _ => rfl⟩

theorem completion_tracks (tracks : Tracks false flight device) (busy : device.commandState ≠ stateCbwTransfer)
    (bound : device.commandState ≤ stateCmdFinished) (csw : CommandStatusWrapper) (starts : Bool)
    (calls : List DriverCall) (considerate : finishes csw device → EachCall
      (Considerate (device.commandComplete = some .opComplete)) calls (calledBack csw device)) :
    let effect := commandComplete csw starts (completeRoutine csw calls) device
    Tracks false (effect.actions.foldl Flight.step flight) effect.device := by
  by_cases finished : finishes csw device
  · rw [commandComplete_finishes starts _ finished]
    exact (completeRoutine_tracks _ csw calls (considerate finished)).1
  · intro effect busy'
    have keeps := commandComplete_keeps busy bound csw finished starts (completeRoutine csw calls)
    obtain ⟨operation, inFlight, held⟩ := tracks ⟨busy, keeps.complete.symm.trans busy'.2⟩
    rw [keeps.flight]
    exact ⟨operation, inFlight, keeps.operation.operationCallback.trans held.callback,
      keeps.operation.operationPayload.trans held.payload, keeps.operation.commandBuffer.trans held.buffer,
      held.unbuffered⟩

/-- `op_complete` calls the callback that the device holds, and no other. -/
theorem opComplete_calls (csw : CommandStatusWrapper) (calls : List DriverCall) {operation : Operation}
    (held : Flying false device operation) :
    (opComplete csw (performCalls calls) device).actions.filterMap operationCall =
      (Operation.call operation).toList := by
  have message : (opMessage csw).filterMap operationCall = [] := by
    unfold opMessage
    split <;> simp [operationCall]
  cases callback : device.operationCallback with
  | none =>
    rw [opComplete_none callback, message, Operation.call, ← held.callback, callback]
    rfl
  | some user =>
    have called : operationCall (.operation user device.commandBuffer (opLength csw device.commandBufferLen)
        device.operationPayload) = some (user, device.commandBuffer, device.operationPayload) := rfl
    rw [opComplete_some callback, List.filterMap_append, message, List.nil_append,
      List.filterMap_cons_some called, performCalls_silent, Operation.call, ← held.callback, callback, held.buffer,
      held.payload]
    rfl

/-- The operation in progress completes by calling its own callback. -/
theorem completion_calls (tracks : Tracks false flight device) {csw : CommandStatusWrapper}
    (finished : finishes csw device) (operation : device.commandComplete = some .opComplete) (starts : Bool)
    (calls : List DriverCall) :
    ∃ operation, flight.inFlight = some operation ∧
      (commandComplete csw starts (completeRoutine csw calls) device).actions.filterMap operationCall =
        (Operation.call operation).toList := by
  obtain ⟨flying, inFlight, held⟩ := tracks ⟨by rw [finished.1]; decide, operation⟩
  refine ⟨flying, inFlight, ?_⟩
  rw [commandComplete_finishes starts _ finished, List.filterMap_cons_none rfl, completeRoutine]
  simp only [operation]
  exact opComplete_calls csw calls ⟨held.callback, held.payload, held.buffer, held.unbuffered⟩

/-! ## Runs -/

variable {storage after : Storage} {operation : Operation}

structure FlightInv (storage : Storage) : Prop where
  transfers : TransferInv storage
  tracks : Tracks false (flightOf storage) storage.device

theorem storageStart_flightInv (device : MassStorageDevice) : FlightInv (storageStart device) where
  transfers := storageStart_transferInv device
  tracks := tracks_idle rfl

theorem flightOf_absorb (storage : Storage) (effect : Effect) :
    flightOf (storage.absorb effect) = effect.actions.foldl Flight.step (flightOf storage) := by
  rw [flightOf, actionsOf_absorb, List.foldl_append, flightOf]

theorem storageStep_undisturbed (inv : FlightInv storage) (event : StorageEvent)
    (considerate : OverlapsConsiderately storage event) : Undisturbed storage event := by
  cases event with
  | call made => exact (perform_tracks inv.tracks made considerate).2
  | complete index csw starts calls =>
    intro finished
    have unharmed : EachCall Unharmed calls (calledBack csw storage.device) :=
      (completeRoutine_tracks (flightOf storage) csw calls (considerate finished)).2
    exact ⟨unharmed, fun operation => completion_calls inv.tracks finished operation starts calls⟩

theorem storageStep_flightInv (inv : FlightInv storage) (event : StorageEvent)
    (considerate : OverlapsConsiderately storage event)
    (steps : storageStep completeRoutine storage event = some after) : FlightInv after := by
  refine ⟨storageStep_transferInv inv.transfers event steps, ?_⟩
  cases event with
  | call made =>
    obtain rfl := Option.some.inj steps
    rw [flightOf_absorb]
    exact (perform_tracks inv.tracks made considerate).1
  | complete index csw starts calls =>
    rw [storageStep, Option.ite_none_right_eq_some] at steps
    obtain ⟨bound, steps⟩ := steps
    obtain rfl := Option.some.inj steps
    rw [flightOf_absorb, flightOf, actionsOf_completed]
    exact completion_tracks inv.tracks (inv.transfers.busy bound) inv.transfers.state csw starts calls considerate

/-- A transfer of the operation in progress completes, and the next one starts. -/
theorem commandComplete_advances (busy : device.commandState ≠ stateCbwTransfer)
    (unfinished : device.commandState < stateCmdFinished) (csw : CommandStatusWrapper)
    (callback : MassStorageDevice → Effect) :
    device.commandState < (commandComplete csw true callback device).device.commandState := by
  obtain state | state | state := commandState_cases busy (Nat.le_of_lt unfinished)
  · by_cases empty : device.commandBufferLen.toInt ≤ 0
    · rw [commandComplete_skips true callback state empty, state]
      exact (show 1 < 3 by decide)
    · rw [commandComplete_data true callback state empty, state]
      exact (show 1 < 2 by decide)
  · rw [commandComplete_csw true callback state, state, commandCsw, if_pos rfl, state]
    exact Nat.lt_succ_self _
  · omega

/-- The operation in progress calls its own callback once its remaining transfers
    have completed. -/
theorem operation_completes (inv : FlightInv storage) (busy : operationBusy storage.device)
    (inFlight : (flightOf storage).inFlight = some operation) (later : List StorageEvent)
    (along : Along (storageStep completeRoutine)
      (fun storage event => OverlapsConsiderately storage event ∧ TransfersSucceed storage event) later storage)
    (run : later.foldlM (storageStep completeRoutine) storage = some after)
    (enough : 4 ≤ storage.device.commandState + later.countP StorageEvent.isComplete) :
    ∃ added, actionsOf after = actionsOf storage ++ added ∧
      ∀ call ∈ Operation.call operation, call ∈ added.filterMap operationCall := by
  induction later generalizing storage with
  | nil =>
    have bound := inv.transfers.state
    simp only [stateCmdFinished, List.countP_nil] at bound enough
    omega
  | cons event later ih =>
    rw [List.foldlM_cons, Option.bind_eq_bind, Option.bind_eq_some_iff] at run
    obtain ⟨reached, steps, run⟩ := run
    obtain ⟨⟨considerate, succeed⟩, along⟩ := along
    have inv' := storageStep_flightInv inv event considerate steps
    -- what a step adds that does not complete the operation, and what the rest of the run adds
    have continues (actions : List StorageAction) (grows : actionsOf reached = actionsOf storage ++ actions)
        (busy' : operationBusy reached.device) (same : (flightOf reached).inFlight = (flightOf storage).inFlight)
        (enough' : 4 ≤ reached.device.commandState + later.countP StorageEvent.isComplete) :
        ∃ added, actionsOf after = actionsOf storage ++ added ∧
          ∀ call ∈ Operation.call operation, call ∈ added.filterMap operationCall := by
      obtain ⟨added, grows', called⟩ := ih inv' busy' (same.trans inFlight) (along reached steps) run enough'
      refine ⟨actions ++ added, by rw [grows', grows, List.append_assoc], fun call member => ?_⟩
      rw [List.filterMap_append]
      exact List.mem_append_right _ (called call member)
    cases event with
    | call made =>
      obtain rfl := Option.some.inj steps
      obtain ⟨same, quiet⟩ := made.perform_busy busy.1
      apply continues _ (actionsOf_absorb _ _)
      · exact ⟨same.commandState.trans_ne busy.1, same.commandComplete.trans busy.2⟩
      · rw [flightOf_absorb, Flight.steps_quiet quiet]
      · simpa [Storage.absorb, same.commandState, StorageEvent.isComplete] using enough
    | complete index csw starts calls =>
      rw [storageStep, Option.ite_none_right_eq_some] at steps
      obtain ⟨bound, steps⟩ := steps
      obtain rfl := Option.some.inj steps
      have grows := actionsOf_absorb
        { storage with
          outstanding := storage.outstanding.eraseIdx index, log := storage.log ++ [.completion csw] }
        (commandComplete csw starts (completeRoutine csw calls) storage.device)
      rw [actionsOf_completed] at grows
      by_cases last : storage.device.commandState = stateCmdFinished
      · -- the status arrives
        rw [TransfersSucceed, if_pos last] at succeed
        obtain ⟨flying, inFlight', calls'⟩ := completion_calls inv.tracks ⟨last, succeed⟩ busy.2 starts calls
        obtain rfl : operation = flying := Option.some.inj (inFlight.symm.trans inFlight')
        obtain ⟨rest, more⟩ := runStorage_extends later run
        refine ⟨(commandComplete csw starts (completeRoutine csw calls) storage.device).actions ++ rest,
          by rw [← more, grows, List.append_assoc], fun call member => ?_⟩
        rw [List.filterMap_append, calls']
        exact List.mem_append_left _ (Option.mem_toList.mpr member)
      · rw [TransfersSucceed, if_neg last] at succeed
        subst succeed
        have keeps := commandComplete_keeps busy.1 inv.transfers.state csw (fun finished => last finished.1) true
          (completeRoutine csw calls)
        have advances := commandComplete_advances busy.1 (Nat.lt_of_le_of_ne inv.transfers.state last) csw
          (completeRoutine csw calls)
        apply continues _ grows
        · exact ⟨Nat.ne_of_gt (Nat.lt_of_le_of_lt (Nat.zero_le _) advances), keeps.complete.trans busy.2⟩
        · rw [flightOf_absorb, keeps.flight, flightOf, actionsOf_completed, flightOf]
        · simp only [List.countP_cons, StorageEvent.isComplete, if_true] at enough
          simp only [Storage.absorb]
          omega

/-- In every run in which refused requests pass the callback and payload of the
    operation in progress, and the callbacks of operations start no operation with a
    buffer, a refused request changes nothing, and the operation in progress
    completes by calling its own callback with its own payload and buffer. -/
theorem storage_operation_undisturbed (device : MassStorageDevice) (events : List StorageEvent)
    (considerate : Along (storageStep completeRoutine) OverlapsConsiderately events (storageStart device)) :
    Along (storageStep completeRoutine) Undisturbed events (storageStart device) ∧
    ∀ storage, events.foldlM (storageStep completeRoutine) (storageStart device) = some storage →
      operationBusy storage.device → ∃ operation, (flightOf storage).inFlight = some operation ∧
      ∀ later after, Along (storageStep completeRoutine)
          (fun storage event => OverlapsConsiderately storage event ∧ TransfersSucceed storage event)
          later storage →
        later.foldlM (storageStep completeRoutine) storage = some after →
        3 ≤ later.countP StorageEvent.isComplete →
        ∃ added, actionsOf after = actionsOf storage ++ added ∧
          ∀ call ∈ Operation.call operation, call ∈ added.filterMap operationCall := by
  constructor
  · apply considerate.invariant FlightInv (storageStart_flightInv device)
    intro storage event inv considerate
    exact ⟨storageStep_undisturbed inv event considerate,
      fun after steps => storageStep_flightInv inv event considerate steps⟩
  · intro storage run busy
    have inv : FlightInv storage :=
      considerate.reached FlightInv (storageStart_flightInv device)
        (fun storage event inv considerate after steps => storageStep_flightInv inv event considerate steps) run
    obtain ⟨operation, inFlight, -⟩ := inv.tracks busy
    refine ⟨operation, inFlight, fun later after along run' enough => ?_⟩
    apply operation_completes inv busy inFlight later along run'
    have started : 0 < storage.device.commandState := Nat.pos_of_ne_zero busy.1
    omega

/-- A second read for the same callback and payload is refused, and the first one
    completes. -/
theorem storage_operation_undisturbed_same_callback :
    Along (storageStep completeRoutine) Undisturbed
      [.call (.read ⟨some 0x4000, 512, some 0x100, some 1⟩ true),
        .call (.read ⟨some 0x5000, 512, some 0x100, some 1⟩ true), .call (.seek 1024),
        .complete 0 ⟨0, 0, 0, 0⟩ true [], .complete 0 ⟨0, 0, 0, 0⟩ true [],
        .complete 0 ⟨cswSignature, 1, 0, 0⟩ true [.seek 0]] (storageStart freshDevice) :=
  (storage_operation_undisturbed freshDevice _ (by decide)).1

/-- A second read for another callback is refused.  It has replaced the callback and
    the payload of the first one, which completes by calling them. -/
theorem storage_operation_disturbed :
    ([.call (.read ⟨some 0x4000, 512, some 0x100, some 1⟩ true),
        .call (.read ⟨some 0x5000, 512, some 0x200, some 2⟩ true)].foldlM
        (storageStep completeRoutine) (storageStart freshDevice)).map
      (fun storage => (storage.device.operationCallback, storage.device.operationPayload)) =
        some (some 0x200, some 2) ∧
    ([.call (.read ⟨some 0x4000, 512, some 0x100, some 1⟩ true),
        .call (.read ⟨some 0x5000, 512, some 0x200, some 2⟩ true),
        .complete 0 ⟨0, 0, 0, 0⟩ true [], .complete 0 ⟨0, 0, 0, 0⟩ true [],
        .complete 0 ⟨cswSignature, 1, 0, 0⟩ true []].foldlM
        (storageStep completeRoutine) (storageStart freshDevice)).map
      (fun storage => (actionsOf storage).filterMap operationCall) =
        some [(0x200, some 0x4000, some 2)] := by
  decide

end ComputerSystems.Verified
