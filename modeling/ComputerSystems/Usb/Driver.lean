import ComputerSystems.Usb.MassStorage

/-! # Runs of the mass storage driver

The driver is called from outside, from inside its own callbacks, and by the host
controller when a transfer completes.  A run is a list of such events.  The state
of a run is the device, the transfers that are outstanding and everything that
happened so far.

`HostEndpointTransfer` either fails, and the transfer never completes, or the
transfer completes once, later.
-/

namespace ComputerSystems.Usb

open ComputerSystems.System

/-- A call of the driver.  `starts` says whether `HostEndpointTransfer` accepts the
    command block wrapper. -/
inductive DriverCall where
  | command (request : Command) (starts : Bool)
  | read (operation : Operation) (starts : Bool)
  | write (operation : Operation) (starts : Bool)
  | seek (offset : BitVec 64)

/-- The number of bytes that the command of a call transfers. -/
def DriverCall.bufLen : DriverCall → BitVec 32
  | .command request _ => request.bufLen
  | .read operation _ => operation.count
  | .write operation _ => operation.count
  | .seek _ => 0

def DriverCall.perform (device : MassStorageDevice) : DriverCall → Effect
  | .command request starts => (Usb.command request starts device).2
  | .read operation starts =>
    let effect := (massStorageRead operation.buffer operation.count operation.callback operation.payload
      starts device).2
    { effect with actions := .request operation :: effect.actions }
  | .write operation starts =>
    let effect := (massStorageWrite operation.buffer operation.count operation.callback operation.payload
      starts device).2
    { effect with actions := .request operation :: effect.actions }
  | .seek offset => (massStorageSeek offset device).2

/-- Calls of the driver, one after the other. -/
def performCalls : List DriverCall → MassStorageDevice → Effect
  | [], device => { device }
  | call :: calls, device =>
    let effect := call.perform device
    let rest := performCalls calls effect.device
    { rest with actions := effect.actions ++ rest.actions }

/-- The complete routine of a command, which calls the driver again with `calls`. -/
def completeRoutine (csw : CommandStatusWrapper) (calls : List DriverCall) (device : MassStorageDevice) :
    Effect :=
  match device.commandComplete with
  | some .opComplete => opComplete csw (performCalls calls) device
  | some .configureComplete => performCalls calls { device with commandComplete := none }
  | _ => performCalls calls device

/-- The driver is called from outside, or the transfer at `index` of the outstanding
    ones completes and the status wrapper holds `csw` afterwards: `starts` says
    whether the next transfer starts, and `calls` are the calls that the complete
    routine makes if it is called. -/
inductive StorageEvent where
  | call (made : DriverCall)
  | complete (index : Nat) (csw : CommandStatusWrapper) (starts : Bool) (calls : List DriverCall)

def StorageEvent.calls : StorageEvent → List DriverCall
  | .call made => [made]
  | .complete _ _ _ calls => calls

def StorageEvent.isComplete : StorageEvent → Bool
  | .call _ => false
  | .complete _ _ _ _ => true

/-- What happens on the bus: an action of the driver, or the completion of a
    transfer, after which the status wrapper holds `csw`. -/
inductive BusEvent where
  | driver (action : StorageAction)
  | completion (csw : CommandStatusWrapper)

/-- The device, the transfers that are started and not completed, and everything
    that happened. -/
structure Storage where
  device : MassStorageDevice
  outstanding : List Transfer
  log : List BusEvent

def startedTransfer : StorageAction → Option Transfer
  | .start _ transfer true => some transfer
  | .transfer transfer true => some transfer
  | _ => none

def Storage.absorb (storage : Storage) (effect : Effect) : Storage where
  device := effect.device
  outstanding := storage.outstanding ++ effect.actions.filterMap startedTransfer
  log := storage.log ++ effect.actions.map .driver

/-- One event; `routine` is what the complete routines do. -/
def storageStep (routine : CommandStatusWrapper → List DriverCall → MassStorageDevice → Effect)
    (storage : Storage) : StorageEvent → Option Storage
  | .call made => some (storage.absorb (made.perform storage.device))
  | .complete index csw starts calls =>
    if index < storage.outstanding.length then
      let completed : Storage :=
        { storage with
          outstanding := storage.outstanding.eraseIdx index
          log := storage.log ++ [.completion csw] }
      some (completed.absorb (commandComplete csw starts (routine csw calls) storage.device))
    else none

def storageStart (device : MassStorageDevice) : Storage :=
  { device := massStorageAttach device, outstanding := [], log := [] }

/-- A device that has just been attached. -/
def freshDevice : MassStorageDevice where
  commandState := 0
  commandIn := false
  commandBuffer := none
  commandBufferLen := 0
  commandComplete := none
  operationCallback := none
  operationPayload := none
  tag := 0
  offset := 0

/-! ## What a call does

A call sets fields that the commands do not use and then calls `command` at most
once. -/

/-- An action that neither starts a transfer nor answers a command. -/
@[simp] def StorageAction.quiet : StorageAction → Bool
  | .request _ => true
  | .operation _ _ _ _ => true
  | .puts _ => true
  | .printf _ _ => true
  | _ => false

theorem filterMap_quiet {α : Type*} {f : StorageAction → Option α}
    (silent : ∀ action, action.quiet → f action = none) {actions : List StorageAction}
    (quiet : ∀ action ∈ actions, action.quiet) : actions.filterMap f = [] := by
  rw [List.filterMap_eq_nil_iff]
  exact fun action member => silent action (quiet action member)

theorem startedTransfer_quiet {actions : List StorageAction} (quiet : ∀ action ∈ actions, action.quiet) :
    actions.filterMap startedTransfer = [] := by
  apply filterMap_quiet _ quiet
  intro action silent
  cases action with
  | start request transfer starts => simp at silent
  | transfer transfer starts => simp at silent
  | _ => rfl

/-- The offset and the count are multiples of the block size. -/
def aligned (device : MassStorageDevice) (count : BitVec 32) : Prop :=
  device.offset.toNat % blockSize = 0 ∧ count.toNat % blockSize = 0

instance (device : MassStorageDevice) (count : BitVec 32) : Decidable (aligned device count) :=
  inferInstanceAs (Decidable (_ ∧ _))

/-- `read` and `write` call `command` if the offset and the count are aligned. -/
theorem transferBlocks_cases (operationCode flags : UInt8) (isInEndpoint : Bool) (message : String)
    (buffer : Option Address) (count : BitVec 32) (starts : Bool) (device : MassStorageDevice) :
    let effect := (transferBlocks operationCode flags isInEndpoint message buffer count starts device).2
    (¬ aligned device count ∧ effect.device = device ∧ ∃ text arguments,
      effect.actions = [.printf text arguments]) ∨
    (aligned device count ∧ ∃ (request : Command) (messages : List String), request.buffer = buffer ∧ request.bufLen = count ∧
      request.complete = .opComplete ∧ effect = { (command request starts device).2 with
        actions := (command request starts device).2.actions ++ messages.map .puts }) := by
  intro effect
  by_cases offset : device.offset.toNat % blockSize = 0
  · by_cases whole : count.toNat % blockSize = 0
    · right
      let request : Command :=
        { cmd := scsiTransfer10 operationCode flags (BitVec.ofNat 32 (device.offset.toNat / 2 ^ blockShift))
            (BitVec.ofNat 16 (count.toNat / 2 ^ blockShift))
          buffer, bufLen := count, isInEndpoint, complete := .opComplete }
      by_cases refused : (command request starts device).1 < 0
      · refine ⟨⟨offset, whole⟩, request, [message], rfl, rfl, rfl, ?_⟩
        simp [effect, transferBlocks, offset, whole, request, refused]
      · refine ⟨⟨offset, whole⟩, request, [], rfl, rfl, rfl, ?_⟩
        simp [effect, transferBlocks, offset, whole, request, refused]
    · left
      exact ⟨fun both => whole both.2, by simp [effect, transferBlocks, offset, whole],
        by simp [effect, transferBlocks, offset, whole]⟩
  · left
    exact ⟨fun both => offset both.1, by simp [effect, transferBlocks, offset],
      by simp [effect, transferBlocks, offset]⟩

/-- The fields that `command` and `command_complete` use are the same. -/
structure SameCommand (device other : MassStorageDevice) : Prop where
  commandState : device.commandState = other.commandState
  commandIn : device.commandIn = other.commandIn
  commandBuffer : device.commandBuffer = other.commandBuffer
  commandBufferLen : device.commandBufferLen = other.commandBufferLen
  commandComplete : device.commandComplete = other.commandComplete
  tag : device.tag = other.tag

/-- The effect of a call on `device`: `base` is the device when `command` is called,
    if it is. -/
inductive Performs (device : MassStorageDevice) (bufLen : BitVec 32) (effect : Effect) : Prop where
  | nothing (same : SameCommand effect.device device) (quiet : ∀ action ∈ effect.actions, action.quiet)
  | command (base : MassStorageDevice) (request : Command) (starts : Bool) (before after : List StorageAction)
      (same : SameCommand base device) (length : request.bufLen = bufLen)
      (quietBefore : ∀ action ∈ before, action.quiet) (quietAfter : ∀ action ∈ after, action.quiet)
      (performs : effect = { (Usb.command request starts base).2 with
        actions := before ++ ((Usb.command request starts base).2.actions ++ after) })

/-- The common body of `MassStorageRead` and `MassStorageWrite`. -/
def requestOperation (operationCode flags : UInt8) (isInEndpoint : Bool) (message : String)
    (operation : Operation) (starts : Bool) (device : MassStorageDevice) : Effect :=
  let base := { device with operationCallback := operation.callback, operationPayload := operation.payload }
  let effect := (transferBlocks operationCode flags isInEndpoint message operation.buffer operation.count
    starts base).2
  { effect with actions := .request operation :: effect.actions }

theorem requestOperation_performs (operationCode flags : UInt8) (isInEndpoint : Bool) (message : String)
    (operation : Operation) (starts : Bool) (device : MassStorageDevice) :
    Performs device operation.count
      (requestOperation operationCode flags isInEndpoint message operation starts device) := by
  let base := { device with operationCallback := operation.callback, operationPayload := operation.payload }
  have same : SameCommand base device := ⟨rfl, rfl, rfl, rfl, rfl, rfl⟩
  obtain ⟨-, unchanged, text, arguments, printed⟩ | ⟨-, request, messages, -, length, -, performs⟩ :=
    transferBlocks_cases operationCode flags isInEndpoint message operation.buffer operation.count starts base
  · exact .nothing (unchanged ▸ same) (by simp [requestOperation, base, printed])
  · refine .command base request starts [.request operation] (messages.map .puts) same length
      (by simp) (by simp) ?_
    simp only [requestOperation, base, performs, List.cons_append, List.nil_append]

theorem DriverCall.performs (call : DriverCall) (device : MassStorageDevice) :
    Performs device call.bufLen (call.perform device) := by
  cases call with
  | command request starts =>
    exact .command device request starts [] [] ⟨rfl, rfl, rfl, rfl, rfl, rfl⟩ rfl (by simp) (by simp)
      (by simp [DriverCall.perform])
  | read operation starts => exact requestOperation_performs _ _ _ _ operation starts device
  | write operation starts => exact requestOperation_performs _ _ _ _ operation starts device
  | seek offset =>
    by_cases whole : offset.toNat % blockSize = 0
    · simp only [DriverCall.perform, massStorageSeek, whole, ne_eq, not_true_eq_false, if_false]
      exact .nothing ⟨rfl, rfl, rfl, rfl, rfl, rfl⟩ (by simp)
    · simp only [DriverCall.perform, massStorageSeek, whole, ne_eq, not_false_eq_true, if_true]
      exact .nothing ⟨rfl, rfl, rfl, rfl, rfl, rfl⟩ (by simp)

theorem opComplete_none {device : MassStorageDevice} (unset : device.operationCallback = none)
    (csw : CommandStatusWrapper) (user : MassStorageDevice → Effect) :
    opComplete csw user device = { device := opNext (opResult csw device), actions := opMessage csw } := by
  simp only [opComplete, opResult, unset]

theorem opComplete_some {device : MassStorageDevice} {callback : Address}
    (set : device.operationCallback = some callback) (csw : CommandStatusWrapper)
    (user : MassStorageDevice → Effect) :
    opComplete csw user device =
      { device := opNext (user (opResult csw device)).device
        actions := opMessage csw ++ .operation callback device.commandBuffer
          (opLength csw device.commandBufferLen) device.operationPayload ::
            (user (opResult csw device)).actions } := by
  simp only [opComplete, opResult, set]

theorem opMessage_quiet (csw : CommandStatusWrapper) : ∀ action ∈ opMessage csw, action.quiet := by
  unfold opMessage
  split <;> simp

/-- A command is refused while another one is in progress. -/
theorem command_busy {request : Command} {device : MassStorageDevice} (starts : Bool)
    (busy : device.commandState ≠ stateCbwTransfer) :
    command request starts device =
      (-2, { device, actions := [.puts "USB mass storage command already in progress"] }) :=
  if_neg busy

/-- Every call is refused while a command is in progress. -/
theorem DriverCall.perform_busy {device : MassStorageDevice} (call : DriverCall)
    (busy : device.commandState ≠ stateCbwTransfer) :
    SameCommand (call.perform device).device device ∧ ∀ action ∈ (call.perform device).actions, action.quiet := by
  cases call.performs device with
  | nothing same quiet => exact ⟨same, quiet⟩
  | command base request starts before after same length quietBefore quietAfter performs =>
    rw [command_busy starts (same.commandState.trans_ne busy)] at performs
    rw [performs]
    refine ⟨same, ?_⟩
    simp only [List.mem_append, List.mem_singleton]
    rintro action (member | rfl | member)
    · exact quietBefore action member
    · rfl
    · exact quietAfter action member

/-! ## What a completion does

One equation for each way through `command_complete` while a command is in
progress. -/

section Completions

variable {device : MassStorageDevice} {csw : CommandStatusWrapper} (starts : Bool)
  (callback : MassStorageDevice → Effect)

/-- The status wrapper that completes a command. -/
def finishes (csw : CommandStatusWrapper) (device : MassStorageDevice) : Prop :=
  device.commandState = stateCmdFinished ∧ csw.signature = cswSignature ∧ csw.tag = device.tag

instance (csw : CommandStatusWrapper) (device : MassStorageDevice) : Decidable (finishes csw device) :=
  inferInstanceAs (Decidable (_ ∧ _ ∧ _))

/-- The states in which a command is in progress. -/
theorem commandState_cases (busy : device.commandState ≠ stateCbwTransfer)
    (state : device.commandState ≤ stateCmdFinished) :
    device.commandState = stateDataTransfer ∨ device.commandState = stateCswTransfer ∨
      device.commandState = stateCmdFinished := by
  simp only [stateCbwTransfer, stateDataTransfer, stateCswTransfer, stateCmdFinished] at *
  omega

theorem commandComplete_skips (state : device.commandState = stateDataTransfer)
    (empty : device.commandBufferLen.toInt ≤ 0) :
    commandComplete csw starts callback device =
      commandCsw starts { device with commandState := stateCswTransfer } := by
  simp only [commandComplete, state, empty, if_true]
  rfl

theorem commandComplete_data (state : device.commandState = stateDataTransfer)
    (filled : ¬ device.commandBufferLen.toInt ≤ 0) :
    let transfer : Transfer :=
      ⟨if device.commandIn then .endpointIn else .endpointOut, .data device.commandBuffer,
        device.commandBufferLen⟩
    commandComplete csw starts callback device =
      if starts then
        { device := { device with commandState := stateCswTransfer }, actions := [.transfer transfer true] }
      else
        { device := { device with commandState := stateCbwTransfer }
          actions := [.transfer transfer false, .puts "Data transfer failed"] } := by
  simp only [commandComplete, state, filled, if_true, if_false]
  rfl

theorem commandComplete_csw (state : device.commandState = stateCswTransfer) :
    commandComplete csw starts callback device = commandCsw starts device := by
  rw [commandComplete, if_neg (by rw [state]; decide), if_pos state]

theorem commandComplete_invalid (state : device.commandState = stateCmdFinished)
    (unfinished : ¬ finishes csw device) : ∃ text,
    commandComplete csw starts callback device =
      { device := { device with commandState := stateCbwTransfer }, actions := [.puts text] } := by
  rw [commandComplete, if_neg (by rw [state]; decide), if_neg (by rw [state]; decide), if_pos state]
  by_cases signature : csw.signature = cswSignature
  · have tag : csw.tag ≠ device.tag := fun tag => unfinished ⟨state, signature, tag⟩
    rw [if_neg (not_not.mpr signature), if_pos tag]
    exact ⟨_, rfl⟩
  · rw [if_pos signature]
    exact ⟨_, rfl⟩

theorem commandComplete_finishes (finished : finishes csw device) :
    commandComplete csw starts callback device =
      { callback { device with commandState := stateCbwTransfer } with
        actions := .complete device.commandComplete csw ::
          (callback { device with commandState := stateCbwTransfer }).actions } := by
  obtain ⟨state, signature, tag⟩ := finished
  rw [commandComplete, if_neg (by rw [state]; decide), if_neg (by rw [state]; decide), if_pos state,
    if_neg (not_not.mpr signature), if_neg (not_not.mpr tag)]
  rfl

end Completions

end ComputerSystems.Usb
