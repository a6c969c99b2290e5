import ComputerSystems.Fat.SdCard
import ComputerSystems.Data.Run
import Mathlib.Data.Fin.VecNotation

/-! # The operation table of the block device

A call takes a slot of the table before it knows whether the mass storage driver
accepts the operation, and does not give it back when it does not
(`blockCall_refused`).  In a run in which the driver accepts every operation and
answers every command (`Smooth`), the callbacks that were called are those of the
accepted calls in order, and the slots that are taken are those of the rest.

What a call reports is read off its result.  `sdcard_writeBlock` returns a truth
value as if it were a status, so that a write that was accepted reports that the
card is busy; the two readings agree on reads.
-/

namespace ComputerSystems.Verified

open ComputerSystems.System ComputerSystems.Usb ComputerSystems.Fat ComputerSystems.Data

/-! ## The table and the history -/

/-- Whether a result reports that the call was accepted. -/
abbrev Reading := SdcardBlockOperation → Nat → Bool

/-- Both functions return true if the driver accepts the operation. -/
def truthReading : Reading := fun _ result => result != 0

/-- The results by the types that the functions declare. -/
def statusReading : Reading
  | .read, result => result != 0
  | .write, result => operationStatus result == .inProgress || operationStatus result == .success

/-- What the callback of a call must be called with. -/
structure BlockAnswer where
  operation : SdcardBlockOperation
  blockIndex : BitVec 32
  callback : Address
  callbackData : BitVec 32
deriving DecidableEq

def answerOf (call : BlockCall) : BlockAnswer :=
  ⟨call.operation, call.blockIndex, call.callback, call.callbackData⟩

def acceptedAnswer (reading : Reading) : CardEvent → Option BlockAnswer
  | .returned call result _ _ => if reading call.operation result then some (answerOf call) else none
  | .invoked _ _ _ _ _ => none

def invokedAnswer : CardEvent → Option BlockAnswer
  | .returned _ _ _ _ => none
  | .invoked operation blockIndex _ callback callbackData =>
    some ⟨operation, blockIndex, callback, callbackData⟩

/-- The answers that are due for the calls that reported acceptance, in order. -/
def acceptedAnswers (reading : Reading) (card : SdCard) : List BlockAnswer :=
  card.history.filterMap (acceptedAnswer reading)

/-- The callbacks that were called, in order. -/
def invokedAnswers (card : SdCard) : List BlockAnswer := card.history.filterMap invokedAnswer

/-- The slots that are taken. -/
def occupiedSlots (operations : Operations) : List (Fin maxOperations) :=
  (List.finRange maxOperations).filter fun slot => (operations slot).callback.isSome

/-- What the table promises in a state in which `waiting` operations were accepted
    and not completed. -/
structure TableMeets (reading : Reading) (card : SdCard) (waiting : List BlockAnswer) : Prop where
  answered : acceptedAnswers reading card = invokedAnswers card ++ waiting
  refused : ∀ call result before behind, .returned call result before behind ∈ card.history →
    reading call.operation result = false → behind = before
  occupied : (occupiedSlots card.operations).length = waiting.length
  poll : waiting.length < maxOperations → sdcardPoll card.operations = true

/-- The driver accepts every call and answers every command: a call is made while no
    command is in progress and its first transfer starts, every further transfer of
    a command starts, its status wrapper is valid, and the callback makes at most one
    call. -/
def Smooth (card : SdCard) : BlockEvent → Prop
  | .call made => card.device.commandState = stateCbwTransfer ∧ made.starts = true
  | .complete _ csw starts calls =>
    if card.device.commandState = stateCmdFinished then
      csw.signature = cswSignature ∧ csw.tag = card.device.tag ∧ calls.length ≤ 1 ∧
        ∀ made ∈ calls, made.starts = true
    else starts = true

/-! ## Calls -/

section Calls

variable {card : SdCard} {call : BlockCall} {slot : Fin maxOperations}

/-- The slot that a call takes. -/
def opOf (call : BlockCall) : OpCallback :=
  { callback := some call.callback, callbackData := call.callbackData, blockIndex := call.blockIndex }

theorem blockByteOffset_aligned (blockIndex : BitVec 32) :
    (blockByteOffset blockIndex).toNat % blockSize = 0 := by
  have small : (blockIndex * BitVec.ofNat 32 blockSize).toNat < 2 ^ 64 := by omega
  have product : (blockByteOffset blockIndex).toNat = blockIndex.toNat * 512 % 2 ^ 32 := by
    rw [blockByteOffset, BitVec.toNat_setWidth, Nat.mod_eq_of_lt small, BitVec.toNat_mul]
    rfl
  rw [product, blockSize]
  omega

/-- The seek of a call always finds its block. -/
theorem massStorageSeek_block (blockIndex : BitVec 32) (device : MassStorageDevice) :
    massStorageSeek (blockByteOffset blockIndex) device =
      (blockByteOffset blockIndex, { device := { device with offset := blockByteOffset blockIndex } }) := by
  rw [massStorageSeek, if_neg (not_not.mpr (blockByteOffset_aligned blockIndex))]

/-- A transfer of aligned blocks is accepted if no command is in progress and the
    first transfer of this one starts. -/
theorem transferBlocks_accepts {operationCode flags : UInt8} {isInEndpoint : Bool} {message : String}
    {buffer : Option Address} {count : BitVec 32} {device : MassStorageDevice}
    (whole : aligned device count) (idle : device.commandState = stateCbwTransfer) :
    ∃ (request : Command) (transfer : Transfer) (next : MassStorageDevice),
      transferBlocks operationCode flags isInEndpoint message buffer count true device =
        (count.toInt, { device := next, actions := [.start request transfer true] }) ∧
      next.commandState = stateDataTransfer ∧ next.commandComplete = some .opComplete ∧
      next.operationCallback = device.operationCallback ∧
      next.operationPayload = device.operationPayload ∧
      next.commandBuffer = buffer ∧ next.commandBufferLen = count := by
  obtain ⟨offset, length⟩ := whole
  simp only [transferBlocks, offset, length, command, idle, ne_eq, not_true_eq_false, if_false,
    if_true, Int.lt_irrefl]
  exact ⟨_, _, _, rfl, by simp [stateCbwTransfer, stateDataTransfer], rfl, rfl, rfl, rfl, rfl⟩

theorem startTransfer_accepts {device : MassStorageDevice}
    (idle : device.commandState = stateCbwTransfer)
    (whole : device.offset.toNat % blockSize = 0) (operation : SdcardBlockOperation)
    (buffer : Option Address) (slot : Fin maxOperations) :
    ∃ (request : Command) (transfer : Transfer) (next : MassStorageDevice),
      startTransfer operation buffer slot true device =
        (512, { device := next, actions := [.start request transfer true] }) ∧
      next.commandState = stateDataTransfer ∧ next.commandComplete = some .opComplete ∧
      next.operationCallback = some (blockCallback operation) ∧
      next.operationPayload = some (opAddress slot) ∧
      next.commandBuffer = buffer ∧ next.commandBufferLen = BitVec.ofNat 32 blockSize := by
  cases operation with
  | read => exact transferBlocks_accepts ⟨whole, by decide⟩ idle
  | write => exact transferBlocks_accepts ⟨whole, by decide⟩ idle

/-- A call that the driver accepts. -/
theorem blockCall_accepted (free : newOp card.operations = some slot)
    (idle : card.device.commandState = stateCbwTransfer) (starts : call.starts = true) :
    ∃ (request : Command) (transfer : Transfer) (next : MassStorageDevice),
      blockCall card call =
        { device := next
          operations := Function.update card.operations slot (opOf call)
          outstanding := card.outstanding ++ [transfer]
          actions := card.actions ++ [.start request transfer true]
          history := card.history ++ [.returned call 1 card.operations
            (Function.update card.operations slot (opOf call))] } ∧
      next.commandState = stateDataTransfer ∧ next.commandComplete = some .opComplete ∧
      next.operationCallback = some (blockCallback call.operation) ∧
      next.operationPayload = some (opAddress slot) ∧
      next.commandBuffer = call.buffer ∧ next.commandBufferLen = BitVec.ofNat 32 blockSize := by
  obtain ⟨request, transfer, next, accepts, fields⟩ :=
    @startTransfer_accepts { card.device with offset := blockByteOffset call.blockIndex } idle
      (blockByteOffset_aligned call.blockIndex) call.operation call.buffer slot
  refine ⟨request, transfer, next, ?_, fields⟩
  simp only [blockCall, sdcardBlock, free, massStorageSeek_block, SdCard.absorb, starts, accepts,
    ne_eq, not_true_eq_false, if_false]
  simp [startedTransfer, opOf]

end Calls

/-! ## The table with one operation -/

section Table

variable {operations : Operations} {slot : Fin maxOperations}

def noOperations : Operations := fun _ => {}

theorem newOp_free (found : newOp operations = some slot) : (operations slot).callback = none := by
  simpa using List.find?_some found

theorem newOp_of_free (free : (operations slot).callback = none) :
    ∃ found, newOp operations = some found := by
  apply Option.isSome_iff_exists.mp
  rw [newOp, List.find?_isSome]
  exact ⟨slot, List.mem_finRange slot, by simp [free]⟩

/-- There is a free slot besides one that is taken. -/
theorem newOp_beside (slot : Fin maxOperations) (op : OpCallback) (taken : op.callback.isSome) :
    ∃ other, other ≠ slot ∧ newOp (Function.update noOperations slot op) = some other := by
  obtain ⟨free, apart⟩ : ∃ free : Fin maxOperations, free ≠ slot := by
    by_cases first : slot = ⟨0, by decide⟩
    · exact ⟨⟨1, by decide⟩, by rw [first]; decide⟩
    · exact ⟨⟨0, by decide⟩, fun same => first same.symm⟩
  obtain ⟨other, found⟩ := @newOp_of_free (Function.update noOperations slot op) free
    (by rw [Function.update_of_ne apart]; rfl)
  refine ⟨other, ?_, found⟩
  rintro rfl
  have free' := newOp_free found
  rw [Function.update_self] at free'
  simp [free'] at taken

theorem occupiedSlots_none : occupiedSlots noOperations = [] := rfl

theorem occupiedSlots_one (slot : Fin maxOperations) (op : OpCallback) (taken : op.callback.isSome) :
    (occupiedSlots (Function.update noOperations slot op)).length = 1 := by
  have here : ∀ other, ((Function.update noOperations slot op) other).callback.isSome = (other == slot) := by
    intro other
    by_cases same : other = slot
    · subst same
      simp [taken]
    · simp [same, noOperations]
  simp only [occupiedSlots, here]
  rw [← List.countP_eq_length_filter, ← List.count]
  exact List.count_eq_one_of_mem (List.nodup_finRange _) (List.mem_finRange slot)

/-- `sdcard_poll` answers by the number of slots that are taken. -/
theorem sdcardPoll_of_occupied (fewer : (occupiedSlots operations).length < maxOperations) :
    sdcardPoll operations = true := by
  apply Bool.of_not_eq_false
  intro full
  have all : occupiedSlots operations = List.finRange maxOperations := by
    rw [occupiedSlots, List.filter_eq_self]
    intro slot member
    have taken := List.any_eq_false.mp full slot member
    simpa [Option.isSome_iff_ne_none] using taken
  rw [all, List.length_finRange] at fewer
  exact Nat.lt_irrefl _ fewer

end Table

/-! ## The invariant -/

structure Idle (card : SdCard) : Prop where
  state : card.device.commandState = stateCbwTransfer
  outstanding : card.outstanding = []
  operations : card.operations = noOperations

/-- The command of an accepted call is in progress. -/
structure Busy (card : SdCard) (slot : Fin maxOperations) (call : BlockCall) : Prop where
  state : card.device.commandState ≠ stateCbwTransfer
  bound : card.device.commandState ≤ stateCmdFinished
  routine : card.device.commandComplete = some .opComplete
  callback : card.device.operationCallback = some (blockCallback call.operation)
  payload : card.device.operationPayload = some (opAddress slot)
  outstanding : card.outstanding.length = 1
  operations : card.operations = Function.update noOperations slot (opOf call)

/-- The operations that were accepted and not completed. -/
inductive Waiting (card : SdCard) : List BlockAnswer → Prop where
  | none (idle : Idle card) : Waiting card []
  | one (slot : Fin maxOperations) (call : BlockCall) (busy : Busy card slot call) :
      Waiting card [answerOf call]

structure CardInv (reading : Reading) (card : SdCard) (waiting : List BlockAnswer) : Prop where
  waits : Waiting card waiting
  answered : acceptedAnswers reading card = invokedAnswers card ++ waiting
  accepted : ∀ call result before behind, .returned call result before behind ∈ card.history →
    reading call.operation result = true

theorem CardInv.meets {reading : Reading} {card : SdCard} {waiting : List BlockAnswer}
    (inv : CardInv reading card waiting) : TableMeets reading card waiting := by
  have occupied : (occupiedSlots card.operations).length = waiting.length := by
    cases inv.waits with
    | none idle => rw [idle.operations, occupiedSlots_none]; rfl
    | one slot call busy =>
      rw [busy.operations]
      exact occupiedSlots_one slot (opOf call) rfl
  refine ⟨inv.answered, ?_, occupied, fun fewer => sdcardPoll_of_occupied (occupied ▸ fewer)⟩
  intro call result before behind mem refused
  rw [inv.accepted call result before behind mem] at refused
  cases refused

theorem cardStart_inv (reading : Reading) (device : MassStorageDevice) :
    CardInv reading (cardStart device) [] :=
  ⟨.none ⟨rfl, rfl, rfl⟩, rfl, by simp [cardStart]⟩

/-! ## Steps -/

section Steps

variable {reading : Reading} {card : SdCard} {slot : Fin maxOperations} {call made : BlockCall}
  {csw : CommandStatusWrapper} {waiting : List BlockAnswer}

theorem acceptedAnswers_eq {next : SdCard} {events : List CardEvent}
    (history : next.history = card.history ++ events) :
    acceptedAnswers reading next = acceptedAnswers reading card ++ events.filterMap (acceptedAnswer reading) := by
  rw [acceptedAnswers, history, List.filterMap_append, acceptedAnswers]

theorem invokedAnswers_eq {next : SdCard} {events : List CardEvent}
    (history : next.history = card.history ++ events) :
    invokedAnswers next = invokedAnswers card ++ events.filterMap invokedAnswer := by
  rw [invokedAnswers, history, List.filterMap_append, invokedAnswers]

/-- A call of an idle card starts the command of its operation. -/
theorem Idle.accepts (standing : Idle card) (starts : made.starts = true) :
    Busy (blockCall card made) ⟨0, by decide⟩ made ∧
      (∃ before behind, (blockCall card made).history =
        card.history ++ [.returned made 1 before behind]) ∧
      (blockCall card made).device.commandBuffer = made.buffer ∧
      (blockCall card made).device.commandBufferLen = BitVec.ofNat 32 blockSize := by
  have free : newOp card.operations = some ⟨0, by decide⟩ := by rw [standing.operations]; rfl
  obtain ⟨request, transfer, next, runs, state, routine, callback, payload, buffer, length⟩ :=
    blockCall_accepted free standing.state starts
  rw [runs]
  refine ⟨?_, ⟨_, _, rfl⟩, buffer, length⟩
  exact
    { state := by simp [state, stateDataTransfer, stateCbwTransfer]
      bound := by simp [state, stateDataTransfer, stateCmdFinished]
      routine, callback, payload
      outstanding := by simp [standing.outstanding]
      operations := by rw [standing.operations] }

theorem CardInv.accepts (inv : CardInv reading card waiting)
    (idle : card.device.commandState = stateCbwTransfer) (starts : made.starts = true)
    (reads : reading made.operation 1 = true) :
    waiting = [] ∧ CardInv reading (blockCall card made) [answerOf made] ∧
      invokedAnswers (blockCall card made) = invokedAnswers card := by
  obtain ⟨waits, answered, accepted⟩ := inv
  cases waits with
  | one slot call busy => exact absurd idle busy.state
  | none standing =>
    obtain ⟨busy, ⟨before, behind, history⟩, -⟩ := standing.accepts starts
    have invoked : invokedAnswers (blockCall card made) = invokedAnswers card := by
      rw [invokedAnswers_eq history]
      exact List.append_nil _
    refine ⟨rfl, ⟨.one _ made busy, ?_, ?_⟩, invoked⟩
    · rw [acceptedAnswers_eq history, answered, invoked]
      simp [acceptedAnswer, reads]
    · intro call result before behind mem
      rw [history] at mem
      obtain earlier | now := List.mem_append.mp mem
      · exact accepted call result before behind earlier
      · cases List.mem_singleton.mp now
        exact reads

/-- A transfer before the last one of a command is followed by the next. -/
theorem commandComplete_goes (csw : CommandStatusWrapper) {device : MassStorageDevice}
    (busy : device.commandState ≠ stateCbwTransfer)
    (state : device.commandState < stateCmdFinished) (callback : MassStorageDevice → Effect) :
    ∃ (transfer : Transfer) (later : Nat),
      commandComplete csw true callback device =
        { device := { device with commandState := later }, actions := [.transfer transfer true] } ∧
      device.commandState < later ∧ later ≤ stateCmdFinished := by
  obtain data | status | finished := commandState_cases busy (Nat.le_of_lt state)
  · by_cases empty : device.commandBufferLen.toInt ≤ 0
    · refine ⟨cswTransfer, stateCmdFinished, ?_, state, Nat.le_refl _⟩
      rw [commandComplete_skips true callback data empty]
      rfl
    · refine ⟨_, stateCswTransfer, commandComplete_data true callback data empty, ?_, by decide⟩
      rw [data]
      decide
  · refine ⟨cswTransfer, stateCmdFinished, ?_, state, Nat.le_refl _⟩
    rw [commandComplete_csw true callback status, commandCsw, if_pos rfl, status]
    rfl
  · exact absurd finished (Nat.ne_of_lt state)

theorem eraseIdx_single {transfers : List Transfer} {index : Nat} (single : transfers.length = 1)
    (inside : index < transfers.length) : transfers.eraseIdx index = [] := by
  apply List.eq_nil_of_length_eq_zero
  rw [List.length_eraseIdx_of_lt inside, single]

/-- A completion in the middle of a command leaves the table alone. -/
theorem cardComplete_goes (busy : Busy card slot call) (state : card.device.commandState < stateCmdFinished)
    (csw : CommandStatusWrapper) (calls : List BlockCall) :
    ∃ transfer later, cardComplete csw true calls { card with outstanding := [] } =
        { card with
          device := { card.device with commandState := later }
          outstanding := [transfer]
          actions := card.actions ++ [.transfer transfer true] } ∧
      card.device.commandState < later ∧ later ≤ stateCmdFinished := by
  obtain ⟨transfer, later, completes, advances, bound⟩ := commandComplete_goes csw busy.state state
    (cardRoutine csw calls { card with outstanding := [] })
  have unfinished : enteredDevice csw card.device = none := by
    rw [enteredDevice, if_neg]
    rintro ⟨⟨finished, -⟩, -⟩
    exact absurd finished (Nat.ne_of_lt state)
  refine ⟨transfer, later, ?_, advances, bound⟩
  simp only [cardComplete, unfinished, completes, SdCard.absorb]
  rfl

theorem CardInv.goes (inv : CardInv reading card waiting) (busy : Busy card slot call)
    (same : waiting = [answerOf call]) (state : card.device.commandState < stateCmdFinished)
    {calls : List BlockCall} {next : SdCard}
    (steps : cardComplete csw true calls { card with outstanding := [] } = next) :
    CardInv reading next waiting ∧ next.history = card.history ∧
      card.device.commandState < next.device.commandState := by
  obtain ⟨transfer, later, result, advances, bound⟩ := cardComplete_goes busy state csw calls
  obtain rfl := steps.symm.trans result
  refine ⟨⟨?_, inv.answered, inv.accepted⟩, rfl, advances⟩
  rw [same]
  apply Waiting.one slot call
  exact
    { state := Nat.ne_of_gt (Nat.lt_of_le_of_lt (Nat.zero_le _) advances)
      bound, routine := busy.routine, callback := busy.callback, payload := busy.payload
      outstanding := rfl, operations := busy.operations }

/-! ### The end of a command -/

/-- The device when the complete routine of its command is called. -/
def ready (device : MassStorageDevice) : MassStorageDevice :=
  { device with commandState := stateCbwTransfer }

/-- The device when the callback of the operation is entered. -/
def entered (csw : CommandStatusWrapper) (device : MassStorageDevice) : MassStorageDevice :=
  opResult csw (ready device)

theorem blockOperationAt_blockCallback (operation : SdcardBlockOperation) :
    blockOperationAt (blockCallback operation) = operation := by
  cases operation <;> rfl

theorem opAt_opAddress (slot : Fin maxOperations) : opAt (opAddress slot) = some slot := by
  simp [opAt, opAddress]

/-- The card when the callback of the operation in `slot` calls back. -/
def callingCard (card : SdCard) (call : BlockCall) (device : MassStorageDevice) : SdCard where
  device
  operations := card.operations
  outstanding := []
  actions := []
  history := card.history ++
    [.invoked call.operation call.blockIndex device.commandBuffer call.callback call.callbackData]

theorem operationCallback_busy (busy : Busy card slot call) (calls : List BlockCall) :
    operationCallback calls card (entered csw card.device) =
      let inner := calls.foldl blockCall (callingCard card call (entered csw card.device))
      { inner with operations := Function.update inner.operations slot {} } := by
  have callback : (entered csw card.device).operationCallback = some (blockCallback call.operation) :=
    busy.callback
  have payload : (entered csw card.device).operationPayload = some (opAddress slot) := busy.payload
  have op : card.operations slot = opOf call := by
    rw [busy.operations, Function.update_self]
  simp only [operationCallback, callback, payload, Option.bind_some, opAt_opAddress, msBlockCallback,
    op, opOf, blockOperationAt_blockCallback]
  rfl

theorem cardRoutine_some {device : MassStorageDevice} {callback : Address} {calls : List BlockCall}
    (routine : device.commandComplete = some .opComplete)
    (set : device.operationCallback = some callback) :
    cardRoutine csw calls card device =
      { device := opNext (operationCallback calls card (opResult csw device)).device
        actions := opMessage csw ++ .operation callback device.commandBuffer
          (opLength csw device.commandBufferLen) device.operationPayload ::
            (operationCallback calls card (opResult csw device)).actions } := by
  simp only [cardRoutine, routine]
  rw [opComplete_some set]

/-- What is left when the command of an operation has ended. -/
theorem cardComplete_finishes (busy : Busy card slot call) (finished : finishes csw card.device)
    (starts : Bool) (calls : List BlockCall) :
    let inner := calls.foldl blockCall (callingCard card call (entered csw card.device))
    ∃ actions, cardComplete csw starts calls { card with outstanding := [] } =
      { device := opNext inner.device
        operations := Function.update inner.operations slot {}
        outstanding := inner.actions.filterMap startedTransfer
        actions, history := inner.history } := by
  intro inner
  have returns : operationCallback calls { card with outstanding := [] } (entered csw card.device) =
      { inner with operations := Function.update inner.operations slot {} } :=
    operationCallback_busy busy calls
  have enters : enteredDevice csw card.device = some (entered csw card.device) := by
    rw [enteredDevice, if_pos ⟨finished, busy.routine, by rw [busy.callback]; rfl⟩]
    rfl
  -- The message, the callback of the driver and what that calls come one after the other.
  have routine : cardRoutine csw calls { card with outstanding := [] } (ready card.device) =
      { device := opNext (operationCallback calls { card with outstanding := [] }
          (entered csw card.device)).device
        actions := opMessage csw ++ .operation (blockCallback call.operation) card.device.commandBuffer
          (opLength csw card.device.commandBufferLen) card.device.operationPayload ::
            (operationCallback calls { card with outstanding := [] }
              (entered csw card.device)).actions } :=
    cardRoutine_some busy.routine busy.callback
  rw [returns] at routine
  have completes := commandComplete_finishes starts
    (cardRoutine csw calls { card with outstanding := [] }) finished
  rw [← ready, routine] at completes
  have started : ∀ callback buffer length payload,
      (.complete card.device.commandComplete csw :: (opMessage csw ++
        .operation callback buffer length payload :: inner.actions)).filterMap startedTransfer =
        inner.actions.filterMap startedTransfer := by
    intro callback buffer length payload
    rw [List.filterMap_cons_none rfl, List.filterMap_append, startedTransfer_quiet (opMessage_quiet csw),
      List.nil_append, List.filterMap_cons_none rfl]
  simp only [cardComplete, enters, returns, completes, SdCard.absorb, List.nil_append, started]
  exact ⟨_, rfl⟩

theorem update_clear (slot : Fin maxOperations) (op : OpCallback) :
    Function.update (Function.update noOperations slot op) slot {} = noOperations := by
  rw [Function.update_idem]
  exact Function.update_eq_self slot noOperations

theorem update_clear_beside {slot other : Fin maxOperations} (apart : other ≠ slot) (op new : OpCallback) :
    Function.update (Function.update (Function.update noOperations slot op) other new) slot {} =
      Function.update noOperations other new := by
  rw [Function.update_comm apart, Function.update_idem]
  congr 1
  exact Function.update_eq_self slot noOperations

/-- The event of a callback, which gets the buffer that the device holds. -/
def invokedWith (card : SdCard) (call : BlockCall) : CardEvent :=
  .invoked call.operation call.blockIndex card.device.commandBuffer call.callback call.callbackData

/-- The end of a command calls the callback of its operation and frees the slot. -/
theorem Busy.ends (busy : Busy card slot call) (finished : Usb.finishes csw card.device) (starts : Bool) :
    Idle (cardComplete csw starts [] { card with outstanding := [] }) ∧
      (cardComplete csw starts [] { card with outstanding := [] }).history =
        card.history ++ [invokedWith card call] := by
  obtain ⟨actions, result⟩ := cardComplete_finishes busy finished starts []
  rw [result]
  refine ⟨⟨rfl, rfl, ?_⟩, rfl⟩
  change Function.update card.operations slot {} = _
  rw [busy.operations, update_clear]

/-- The callback may start the next operation, which takes another slot and is left
    without its buffer. -/
theorem Busy.chains (busy : Busy card slot call) (finished : Usb.finishes csw card.device) (starts : Bool)
    (start : made.starts = true) :
    let next := cardComplete csw starts [made] { card with outstanding := [] }
    (∃ other, Busy next other made) ∧
      (∃ before behind, next.history =
        card.history ++ [invokedWith card call, .returned made 1 before behind]) ∧
      next.device.commandBuffer = none ∧ next.device.commandBufferLen = 0 := by
  obtain ⟨other, apart, free⟩ := newOp_beside slot (opOf call) rfl
  rw [← busy.operations] at free
  obtain ⟨request, transfer, device, runs, state, routine, callback, payload, -⟩ :=
    @blockCall_accepted (callingCard card call (entered csw card.device)) made other free rfl start
  obtain ⟨actions, result⟩ := cardComplete_finishes busy finished starts [made]
  simp only [List.foldl_cons, List.foldl_nil, runs] at result
  rw [result]
  refine ⟨⟨other, ?_⟩, ⟨card.operations, Function.update card.operations other (opOf made), ?_⟩, rfl, rfl⟩
  · exact
      { state := by simp [opNext, state, stateDataTransfer, stateCbwTransfer]
        bound := by simp [opNext, state, stateDataTransfer, stateCmdFinished]
        routine, callback, payload
        outstanding := rfl
        operations := by
          change Function.update (Function.update card.operations other _) slot {} = _
          rw [busy.operations, update_clear_beside apart] }
  · exact List.append_assoc _ _ _

theorem CardInv.finishes (inv : CardInv reading card waiting) (busy : Busy card slot call)
    (same : waiting = [answerOf call]) (finished : Usb.finishes csw card.device) {starts : Bool}
    {calls : List BlockCall} (single : calls.length ≤ 1) (start : ∀ made ∈ calls, made.starts = true)
    (reads : ∀ made ∈ calls, reading made.operation 1 = true) {next : SdCard}
    (steps : cardComplete csw starts calls { card with outstanding := [] } = next) :
    (∃ waiting', CardInv reading next waiting') ∧
      invokedAnswers next = acceptedAnswers reading card := by
  have answered := inv.answered
  rw [same] at answered
  subst steps
  cases calls with
  -- Nothing is called from the callback, and nothing is outstanding behind it.
  | nil =>
    obtain ⟨idle, history⟩ := busy.ends finished starts
    have invoked := (invokedAnswers_eq history).trans answered.symm
    refine ⟨⟨[], .none idle, ?_, ?_⟩, invoked⟩
    · rw [acceptedAnswers_eq history, invoked]
      rfl
    · intro call' result before behind mem
      rw [history] at mem
      obtain earlier | now := List.mem_append.mp mem
      · exact inv.accepted call' result before behind earlier
      · cases List.mem_singleton.mp now
  -- The operation that the callback calls is accepted, and the only one then.
  | cons made rest =>
    obtain rfl : rest = [] := by
      cases rest with
      | nil => rfl
      | cons _ _ => simp at single
    have reads := reads made List.mem_cons_self
    obtain ⟨⟨other, busy⟩, ⟨before, behind, history⟩, -⟩ :=
      busy.chains finished starts (start made List.mem_cons_self)
    have invoked := (invokedAnswers_eq history).trans answered.symm
    refine ⟨⟨[answerOf made], .one other made busy, ?_, ?_⟩, invoked⟩
    · rw [acceptedAnswers_eq history, invoked, List.filterMap_cons_none rfl]
      simp [acceptedAnswer, reads]
    · intro call' result before behind mem
      rw [history] at mem
      obtain earlier | now := List.mem_append.mp mem
      · exact inv.accepted call' result before behind earlier
      · obtain called | now := List.mem_cons.mp now
        · cases called
        · cases List.mem_singleton.mp now
          exact reads

/-- A step answers everything accepted before it, or brings the command in progress
    one transfer further. -/
theorem cardStep_inv {event : BlockEvent} {next : SdCard} (inv : CardInv reading card waiting)
    (smooth : Smooth card event) (reads : ∀ made ∈ event.calls, reading made.operation 1 = true)
    (steps : cardStep card event = some next) :
    (∃ waiting', CardInv reading next waiting') ∧
      (acceptedAnswers reading card <+: invokedAnswers next ∨
        (next.history = card.history ∧ card.device.commandState < next.device.commandState)) := by
  cases event with
  | call made =>
    obtain rfl := Option.some.inj steps
    obtain ⟨idle, starts⟩ := smooth
    obtain ⟨rfl, kept, same⟩ := inv.accepts idle starts (reads made List.mem_cons_self)
    have invoked : invokedAnswers (blockCall card made) = acceptedAnswers reading card := by
      rw [inv.answered, List.append_nil, same]
    exact ⟨⟨_, kept⟩, .inl (invoked ▸ List.prefix_rfl)⟩
  | complete index csw starts calls =>
    rw [cardStep, Option.ite_none_right_eq_some] at steps
    obtain ⟨inside, steps⟩ := steps
    have steps := Option.some.inj steps
    have waits := inv.waits
    cases waits with
    | none idle => simp [idle.outstanding] at inside
    | one slot call busy =>
      rw [eraseIdx_single busy.outstanding inside] at steps
      -- The last transfer answers the operation; the others bring it to the next state.
      by_cases last : card.device.commandState = stateCmdFinished
      · rw [Smooth, if_pos last] at smooth
        obtain ⟨signature, tag, single, start⟩ := smooth
        obtain ⟨kept, invoked⟩ :=
          inv.finishes busy rfl ⟨last, signature, tag⟩ single start reads steps
        exact ⟨kept, .inl (invoked ▸ List.prefix_rfl)⟩
      · rw [Smooth, if_neg last] at smooth
        subst smooth
        have before := Nat.lt_of_le_of_ne busy.bound last
        obtain ⟨kept, unchanged, advances⟩ := inv.goes busy rfl before steps
        exact ⟨⟨_, kept⟩, .inr ⟨unchanged, advances⟩⟩

end Steps

/-! ## Runs -/

section Runs

variable {reading : Reading} {card later : SdCard} {waiting : List BlockAnswer} {events : List BlockEvent}

/-- Every call that a run makes reports acceptance when it returns 1. -/
def ReportsAcceptance (reading : Reading) (events : List BlockEvent) : Prop :=
  ∀ event ∈ events, ∀ made ∈ event.calls, reading made.operation 1 = true

theorem runCard_inv (inv : CardInv reading card waiting) (smooth : Along cardStep Smooth events card)
    (reports : ReportsAcceptance reading events) (run : events.foldlM cardStep card = some later) :
    ∃ waiting', CardInv reading later waiting' := by
  induction events generalizing card waiting with
  | nil =>
    obtain rfl : card = later := Option.some.inj run
    exact ⟨waiting, inv⟩
  | cons event events ih =>
    rw [List.foldlM_cons, Option.bind_eq_bind, Option.bind_eq_some_iff] at run
    obtain ⟨next, steps, run⟩ := run
    obtain ⟨⟨waiting', kept⟩, _⟩ := cardStep_inv inv smooth.1 (reports event List.mem_cons_self) steps
    exact ih kept (smooth.2 next steps)
      (fun event member => reports event (List.mem_cons_of_mem _ member)) run

/-- The number of completions that a command in progress still needs at most. -/
def completionsLeft (card : SdCard) : Nat := stateCmdFinished + 1 - card.device.commandState

theorem Waiting.completionsLeft_pos (waits : Waiting card waiting) : 0 < completionsLeft card := by
  rw [completionsLeft]
  cases waits with
  | none idle => rw [idle.state]; decide
  | one slot call busy => exact Nat.sub_pos_of_lt (Nat.lt_succ_of_le busy.bound)

/-- What is due is answered once as many steps were taken as the command needs. -/
theorem runCard_answers {due : List BlockAnswer} (inv : CardInv reading card waiting)
    (smooth : Along cardStep Smooth events card) (reports : ReportsAcceptance reading events)
    (run : events.foldlM cardStep card = some later)
    (pending : due <+: invokedAnswers card ∨
      (acceptedAnswers reading card = due ∧ completionsLeft card ≤ events.length)) :
    due <+: invokedAnswers later := by
  -- By induction on the events.  Each one answers, or leaves one completion less until the answer.
  induction events generalizing card waiting with
  | nil =>
    obtain rfl : card = later := Option.some.inj run
    obtain done | ⟨_, left⟩ := pending
    · exact done
    · exact absurd inv.waits.completionsLeft_pos (Nat.not_lt.mpr left)
  | cons event events ih =>
    rw [List.foldlM_cons, Option.bind_eq_bind, Option.bind_eq_some_iff] at run
    obtain ⟨next, steps, run⟩ := run
    obtain ⟨⟨waiting', kept⟩, progress⟩ :=
      cardStep_inv inv smooth.1 (reports event List.mem_cons_self) steps
    apply ih kept (smooth.2 next steps) (fun event member => reports event (List.mem_cons_of_mem _ member)) run
    obtain answered | ⟨unchanged, advances⟩ := progress
    · left
      obtain done | ⟨rfl, _⟩ := pending
      · have extends' : invokedAnswers card <+: acceptedAnswers reading card := by
          rw [inv.answered]
          exact List.prefix_append _ _
        exact (done.trans extends').trans answered
      · exact answered
    · obtain done | ⟨same, left⟩ := pending
      · left
        rw [invokedAnswers, unchanged]
        exact done
      · right
        rw [acceptedAnswers, unchanged]
        refine ⟨same, ?_⟩
        rw [completionsLeft] at left ⊢
        rw [List.length_cons] at left
        omega

/-- What the table promises over all runs from a state: the accepted operations that
    are not completed are those in the table and still on the bus, and three
    completions later their callbacks have been called. -/
structure OperationsAnswered (reading : Reading) (card : SdCard) : Prop where
  table : ∃ waiting, TableMeets reading card waiting ∧ (waiting ≠ [] → card.outstanding ≠ [])
  answers : ∀ more later, Along cardStep Smooth more card → ReportsAcceptance reading more →
    3 ≤ more.length → more.foldlM cardStep card = some later →
    acceptedAnswers reading card <+: invokedAnswers later

theorem CardInv.answers (inv : CardInv reading card waiting) : OperationsAnswered reading card := by
  constructor
  · refine ⟨waiting, inv.meets, ?_⟩
    intro some none
    cases inv.waits with
    | none => exact some rfl
    | one slot call busy =>
      have single := busy.outstanding
      simp [none] at single
  · intro more later smooth reports long run
    apply runCard_answers inv smooth reports run
    cases inv.waits with
    | none =>
      have done : invokedAnswers card = acceptedAnswers reading card := by
        rw [inv.answered, List.append_nil]
      exact .inl (done ▸ List.prefix_rfl)
    | one slot call busy =>
      right
      have started := busy.state
      refine ⟨rfl, ?_⟩
      simp only [completionsLeft, stateCmdFinished, stateCbwTransfer] at started ⊢
      omega

/-- In a run in which the driver accepts every call and answers every command, every
    accepted operation is answered once and the table holds exactly the others; by
    the status that `sdcard_writeBlock` returns, if the run makes no writes. -/
theorem sdcard_operations_answered (device : MassStorageDevice) (events : List BlockEvent)
    (card : SdCard) (smooth : Along cardStep Smooth events (cardStart device))
    (run : events.foldlM cardStep (cardStart device) = some card) :
    OperationsAnswered truthReading card ∧
      ((∀ event ∈ events, ∀ made ∈ event.calls, made.operation = .read) →
        OperationsAnswered statusReading card) := by
  constructor
  · obtain ⟨waiting, inv⟩ :=
      runCard_inv (cardStart_inv truthReading device) smooth (fun _ _ _ _ => rfl) run
    exact inv.answers
  · intro reads
    have reports : ReportsAcceptance statusReading events := by
      intro event member made mem
      rw [reads event member made mem]
      rfl
    obtain ⟨waiting, inv⟩ := runCard_inv (cardStart_inv statusReading device) smooth reports run
    exact inv.answers

end Runs

instance (card : SdCard) : ∀ event, Decidable (Smooth card event)
  | .call _ => inferInstanceAs (Decidable (_ ∧ _))
  | .complete _ csw starts calls =>
    inferInstanceAs (Decidable (if card.device.commandState = stateCmdFinished then
      csw.signature = cswSignature ∧ csw.tag = card.device.tag ∧ calls.length ≤ 1 ∧
        ∀ made ∈ calls, made.starts = true
      else starts = true))

def blockRead (blockIndex : BitVec 32) : BlockCall where
  operation := .read
  blockIndex
  buffer := some 64
  callback := 7
  callbackData := 3
  starts := true

def passedStatus : CommandStatusWrapper := ⟨cswSignature, 1, 0, cswStatusPassed⟩

/-- A read whose callback reads the next block. -/
def readThenRead : List BlockEvent :=
  [.call (blockRead 5), .complete 0 passedStatus true [], .complete 0 passedStatus true [],
    .complete 0 passedStatus true [blockRead 6]]

theorem sdcard_operations_answered_readThenRead :
    ∃ card, readThenRead.foldlM cardStep (cardStart freshDevice) = some card ∧
      acceptedAnswers statusReading card = [answerOf (blockRead 5), answerOf (blockRead 6)] ∧
      OperationsAnswered statusReading card := by
  obtain ⟨card, run⟩ := Option.isSome_iff_exists.mp
    (show (readThenRead.foldlM cardStep (cardStart freshDevice)).isSome by decide)
  have accepted : (readThenRead.foldlM cardStep (cardStart freshDevice)).map
      (acceptedAnswers statusReading) =
        some [answerOf (blockRead 5), answerOf (blockRead 6)] := by decide
  rw [run] at accepted
  have smooth : Along cardStep Smooth readThenRead (cardStart freshDevice) := by decide
  have reads : ∀ event ∈ readThenRead, ∀ made ∈ event.calls, made.operation = .read := by decide
  exact ⟨card, run, Option.some.inj accepted,
    (sdcard_operations_answered freshDevice readThenRead card smooth run).2 reads⟩

theorem TableMeets.occupied_eq {reading : Reading} {card : SdCard} {waiting : List BlockAnswer}
    (meets : TableMeets reading card waiting) :
    (acceptedAnswers reading card).length =
      (invokedAnswers card).length + (occupiedSlots card.operations).length := by
  rw [meets.answered, List.length_append, meets.occupied]

/-- Two reads, of which the driver refuses the second. -/
theorem sdcard_slot_lost :
    ∃ card, [BlockEvent.call (blockRead 0), .call (blockRead 1)].foldlM cardStep (cardStart freshDevice) =
        some card ∧
      (occupiedSlots card.operations).length = 2 ∧
      (∀ waiting, ¬ TableMeets truthReading card waiting) ∧
      ∀ waiting, ¬ TableMeets statusReading card waiting := by
  have lost : ([BlockEvent.call (blockRead 0), .call (blockRead 1)].foldlM cardStep
      (cardStart freshDevice)).map (fun card => ((occupiedSlots card.operations).length,
        (acceptedAnswers truthReading card).length, (acceptedAnswers statusReading card).length)) =
        some (2, 1, 1) := by decide
  obtain ⟨card, run, counts⟩ := Option.map_eq_some_iff.mp lost
  simp only [Prod.mk.injEq] at counts
  obtain ⟨occupied, accepted, accepted'⟩ := counts
  refine ⟨card, run, occupied, ?_, ?_⟩
  · intro waiting meets
    have := meets.occupied_eq
    omega
  · intro waiting meets
    have := meets.occupied_eq
    omega

end ComputerSystems.Verified
