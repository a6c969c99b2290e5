import ComputerSystems.Usb.Driver
import Mathlib.Data.Option.Basic
import Mathlib.Data.List.Basic

/-! # The bulk-only transport

`BulkPhase` and `bulkStep` are the transport as its specification describes it: a
command block wrapper, the data if there are any, and a status wrapper, each sent
when the one before has completed, and then the answer.  The driver implements it
with the counter `commandState`.  Whatever commands are given to it and whatever
becomes of the transfers, what it does on the bus is accepted by `bulkStep`, and at
most one transfer is outstanding (`bulk_transport_ordered`).

`Refines` relates the device to the phase.  It holds between events; within one
call of `command_complete` the phase advances further than the counter shows.
-/

namespace ComputerSystems.Verified

open ComputerSystems.Usb

/-! ## The specification -/

/-- Where a command is.  In the phases `cbw`, `data` and `csw` that transfer is
    outstanding; `tag` is the one in the command block wrapper. -/
inductive BulkPhase where
  | idle
  | cbw (request : Command) (tag : BitVec 32)
  | cbwDone (request : Command) (tag : BitVec 32)
  | data (request : Command) (tag : BitVec 32)
  | dataDone (request : Command) (tag : BitVec 32)
  | csw (request : Command) (tag : BitVec 32)
  | cswDone (request : Command) (csw : CommandStatusWrapper)

def dataTransfer (request : Command) : Transfer where
  endpoint := if request.isInEndpoint then .endpointIn else .endpointOut
  buffer := .data request.buffer
  length := request.bufLen

def BulkPhase.outstanding : BulkPhase → Option Transfer
  | .cbw request tag => some (cbwTransfer request tag)
  | .data request _ => some (dataTransfer request)
  | .csw _ _ => some cswTransfer
  | _ => none

/-- A transfer is handed over: it is the one that is due, and the phase is `next`
    if it starts and the command is over if it does not. -/
def issue (due handed : Transfer) (starts : Bool) (next : BulkPhase) : Option BulkPhase :=
  if handed = due then some (if starts then next else .idle) else none

/-- The tag that a transfer carries if it is a command block wrapper. -/
def cbwTag (transfer : Transfer) : BitVec 32 :=
  match transfer.buffer with
  | .cbw wrapper => wrapper.tag
  | _ => 0

/-- The phase after an event, `none` if the event is out of order.  `carries` says
    which commands have data. -/
def bulkStep (carries : BitVec 32 → Bool) : BulkPhase → BusEvent → Option BulkPhase
  | .idle, .driver (.start request transfer starts) =>
    issue (cbwTransfer request (cbwTag transfer)) transfer starts
      (.cbw request (cbwTag transfer))
  | .cbw request tag, .completion _ => some (.cbwDone request tag)
  | .cbwDone request tag, .driver (.transfer transfer starts) =>
    if carries request.bufLen then issue (dataTransfer request) transfer starts (.data request tag)
    else issue cswTransfer transfer starts (.csw request tag)
  | .data request tag, .completion _ => some (.dataDone request tag)
  | .dataDone request tag, .driver (.transfer transfer starts) =>
    issue cswTransfer transfer starts (.csw request tag)
  | .csw request tag, .completion csw =>
    -- a command without a valid status is over
    some (if csw.signature = cswSignature ∧ csw.tag = tag then .cswDone request csw else .idle)
  | .cswDone request csw, .driver (.complete routine csw') =>
    if routine = some request.complete ∧ csw' = csw then some .idle else none
  | phase, .driver action => if action.quiet then some phase else none
  | _, .completion _ => none

/-! ## Refinement -/

variable {carries : BitVec 32 → Bool} {device : MassStorageDevice} {phase : BulkPhase} {request : Command}

/-- The device has saved the arguments of `request`. -/
structure Saved (carries : BitVec 32 → Bool) (device : MassStorageDevice) (request : Command) : Prop where
  complete : device.commandComplete = some request.complete
  isIn : device.commandIn = request.isInEndpoint
  buffer : device.commandBuffer = request.buffer
  length : device.commandBufferLen = request.bufLen
  carried : carries request.bufLen = decide (0 < request.bufLen.toInt)

theorem Saved.congr {other : MassStorageDevice} (saved : Saved carries device request)
    (same : SameCommand other device) : Saved carries other request where
  complete := same.commandComplete.trans saved.complete
  isIn := same.commandIn.trans saved.isIn
  buffer := same.commandBuffer.trans saved.buffer
  length := same.commandBufferLen.trans saved.length
  carried := saved.carried

/-- The counter stands for the phase. -/
inductive Refines (carries : BitVec 32 → Bool) (device : MassStorageDevice) : BulkPhase → Prop where
  | idle (state : device.commandState = stateCbwTransfer) : Refines carries device .idle
  | cbw {request : Command} (state : device.commandState = stateDataTransfer)
      (saved : Saved carries device request) : Refines carries device (.cbw request device.tag)
  | data {request : Command} (state : device.commandState = stateCswTransfer)
      (saved : Saved carries device request) : Refines carries device (.data request device.tag)
  | csw {request : Command} (state : device.commandState = stateCmdFinished)
      (saved : Saved carries device request) : Refines carries device (.csw request device.tag)

/-- What an effect does on the bus is accepted and leads to a phase that the
    device afterwards stands for. -/
def Accepted (carries : BitVec 32 → Bool) (phase : BulkPhase) (effect : Effect) : Prop :=
  ∃ next, (effect.actions.map .driver).foldlM (bulkStep carries) phase = some next ∧
    Refines carries effect.device next ∧
    phase.outstanding.toList ++ effect.actions.filterMap startedTransfer = next.outstanding.toList

theorem bulkStep_quiet {action : StorageAction} (quiet : action.quiet) :
    bulkStep carries phase (.driver action) = some phase := by
  cases action with
  | start request transfer starts => simp at quiet
  | transfer transfer starts => simp at quiet
  | complete routine csw => simp at quiet
  | _ => cases phase <;> rfl

@[simp] theorem bulkStep_puts (text : String) :
    bulkStep carries phase (.driver (.puts text)) = some phase :=
  bulkStep_quiet rfl

theorem bulkStep_quiets {actions : List StorageAction} (quiet : ∀ action ∈ actions, action.quiet) :
    (actions.map .driver).foldlM (bulkStep carries) phase = some phase := by
  induction actions with
  | nil => rfl
  | cons action actions ih =>
    rw [List.map_cons, List.foldlM_cons, bulkStep_quiet (quiet action (by simp))]
    exact ih fun other member => quiet other (by simp [member])

theorem Refines.congr {other : MassStorageDevice} (refines : Refines carries device phase)
    (same : SameCommand other device) : Refines carries other phase := by
  cases refines with
  | idle state => exact .idle (same.commandState.trans state)
  | cbw state saved =>
    rw [← same.tag]
    exact .cbw (same.commandState.trans state) (saved.congr same)
  | data state saved =>
    rw [← same.tag]
    exact .data (same.commandState.trans state) (saved.congr same)
  | csw state saved =>
    rw [← same.tag]
    exact .csw (same.commandState.trans state) (saved.congr same)

/-- A refused command does nothing on the bus. -/
theorem accepted_busy (refines : Refines carries device phase)
    (busy : device.commandState ≠ stateCbwTransfer) (starts : Bool) :
    Accepted carries phase (command request starts device).2 := by
  rw [command_busy starts busy]
  exact ⟨phase, bulkStep_quiets (by simp), refines, by simp [startedTransfer]⟩

theorem command_accepted (refines : Refines carries device phase) (starts : Bool)
    (carried : carries request.bufLen = decide (0 < request.bufLen.toInt)) :
    Accepted carries phase (command request starts device).2 := by
  cases refines with
  | idle state =>
    cases starts with
    | true =>
      refine ⟨.cbw request (device.tag + 1), ?_, ?_, ?_⟩
      · simp [command, state, bulkStep, issue, cbwTag, cbwTransfer, commandWrapper]
      · simp only [command, state, ↓reduceIte]
        exact .cbw rfl ⟨rfl, rfl, rfl, rfl, carried⟩
      · simp [command, state, BulkPhase.outstanding, startedTransfer]
    | false =>
      refine ⟨.idle, ?_, ?_, ?_⟩
      · simp [command, state, bulkStep, issue, cbwTag, cbwTransfer, commandWrapper]
      · simp only [command, state, ↓reduceIte]
        exact .idle rfl
      · simp [command, state, BulkPhase.outstanding, startedTransfer]
  | cbw state saved => exact accepted_busy (.cbw state saved) (by rw [state]; decide) starts
  | data state saved => exact accepted_busy (.data state saved) (by rw [state]; decide) starts
  | csw state saved => exact accepted_busy (.csw state saved) (by rw [state]; decide) starts

/-- Two effects one after the other. -/
theorem Accepted.append {first rest : Effect} (accepted : Accepted carries phase first)
    (later : ∀ next, Refines carries first.device next → Accepted carries next rest) :
    Accepted carries phase { rest with actions := first.actions ++ rest.actions } := by
  obtain ⟨middle, bus, refines, started⟩ := accepted
  obtain ⟨next, bus', refines', started'⟩ := later middle refines
  refine ⟨next, ?_, refines', ?_⟩
  · rw [List.map_append, List.foldlM_append, bus]
    exact bus'
  · rw [List.filterMap_append, ← List.append_assoc, started, started']

/-- Quiet actions before and after. -/
theorem Accepted.surround {effect : Effect} {before after : List StorageAction}
    (accepted : Accepted carries phase effect) (quietBefore : ∀ action ∈ before, action.quiet)
    (quietAfter : ∀ action ∈ after, action.quiet) :
    Accepted carries phase { effect with actions := before ++ (effect.actions ++ after) } := by
  obtain ⟨next, bus, refines, started⟩ := accepted
  refine ⟨next, ?_, refines, ?_⟩
  · simp only [List.map_append, List.foldlM_append, bulkStep_quiets quietBefore, bus,
      Option.bind_eq_bind, Option.bind_some]
    exact bulkStep_quiets quietAfter
  · simp only [List.filterMap_append, startedTransfer_quiet quietBefore, startedTransfer_quiet quietAfter,
      List.nil_append, List.append_nil]
    exact started

theorem perform_accepted (refines : Refines carries device phase) (call : DriverCall)
    (carried : carries call.bufLen = decide (0 < call.bufLen.toInt)) :
    Accepted carries phase (call.perform device) := by
  cases call.performs device with
  | nothing same quiet =>
    exact ⟨phase, bulkStep_quiets quiet, refines.congr same, by simp [startedTransfer_quiet quiet]⟩
  | command base request starts before after same length quietBefore quietAfter performs =>
    rw [performs]
    exact (command_accepted (refines.congr same) starts (length ▸ carried)).surround quietBefore quietAfter

theorem performCalls_accepted (refines : Refines carries device phase) (calls : List DriverCall)
    (carried : ∀ call ∈ calls, carries call.bufLen = decide (0 < call.bufLen.toInt)) :
    Accepted carries phase (performCalls calls device) := by
  induction calls generalizing device phase with
  | nil => exact ⟨phase, rfl, refines, by simp [performCalls]⟩
  | cons call calls ih =>
    apply (perform_accepted refines call (carried call (by simp))).append
    intro next refines'
    exact ih refines' fun other member => carried other (by simp [member])

/-- The status wrapper is due. -/
theorem commandCsw_accepted (starts : Bool) {tag : BitVec 32} {before : BulkPhase}
    (due : ∀ handed, bulkStep carries before (.driver (.transfer handed starts)) =
      issue cswTransfer handed starts (.csw request tag))
    (quiet : before.outstanding = none)
    (sameTag : tag = device.tag) (state : device.commandState = stateCswTransfer)
    (saved : Saved carries device request) :
    Accepted carries before (commandCsw starts device) := by
  subst sameTag
  cases starts with
  | true =>
    refine ⟨.csw request device.tag, ?_, ?_, ?_⟩
    · simp [commandCsw, due, issue]
    · simp only [commandCsw, state, ↓reduceIte]
      exact .csw rfl ⟨saved.complete, saved.isIn, saved.buffer, saved.length, saved.carried⟩
    · rw [quiet]
      simp [commandCsw, startedTransfer, BulkPhase.outstanding]
  | false =>
    refine ⟨.idle, ?_, ?_, ?_⟩
    · simp [commandCsw, due, issue]
    · simp only [commandCsw, Bool.false_eq_true, ↓reduceIte]
      exact .idle rfl
    · rw [quiet]
      simp [commandCsw, startedTransfer, BulkPhase.outstanding]

/-- The data are due. -/
theorem commandData_accepted (starts : Bool) (csw : CommandStatusWrapper)
    (callback : MassStorageDevice → Effect) (state : device.commandState = stateDataTransfer)
    (saved : Saved carries device request) (positive : 0 < request.bufLen.toInt) :
    Accepted carries (.cbwDone request device.tag) (commandComplete csw starts callback device) := by
  have filled : ¬ device.commandBufferLen.toInt ≤ 0 := by
    rw [saved.length]
    omega
  have carried : carries request.bufLen = true := by simp [saved.carried, positive]
  have due : ∀ handed, bulkStep carries (.cbwDone request device.tag) (.driver (.transfer handed starts)) =
      issue (dataTransfer request) handed starts (.data request device.tag) := by
    intro handed
    simp [bulkStep, carried]
  have handed : (⟨if device.commandIn then .endpointIn else .endpointOut, .data device.commandBuffer,
      device.commandBufferLen⟩ : Transfer) = dataTransfer request := by
    rw [saved.isIn, saved.buffer, saved.length]
    rfl
  rw [commandComplete_data starts callback state filled, handed]
  cases starts with
  | true =>
    refine ⟨.data request device.tag, ?_, ?_, ?_⟩
    · simp [due, issue]
    · exact .data rfl ⟨saved.complete, saved.isIn, saved.buffer, saved.length, saved.carried⟩
    · simp [startedTransfer, BulkPhase.outstanding]
  | false =>
    refine ⟨.idle, ?_, ?_, ?_⟩
    · simp [due, issue]
    · exact .idle rfl
    · simp [startedTransfer, BulkPhase.outstanding]

/-- The completion of the outstanding transfer. -/
theorem completion_accepted (refines : Refines carries device phase) {transfer : Transfer}
    (busy : phase.outstanding = some transfer) (csw : CommandStatusWrapper) (starts : Bool)
    (calls : List DriverCall)
    (carried : ∀ call ∈ calls, carries call.bufLen = decide (0 < call.bufLen.toInt)) :
    ∃ after, bulkStep carries phase (.completion csw) = some after ∧ after.outstanding = none ∧
      Accepted carries after (commandComplete csw starts (performCalls calls) device) := by
  cases refines with
  | idle state => simp [BulkPhase.outstanding] at busy
  | @cbw request state saved =>
    refine ⟨_, rfl, rfl, ?_⟩
    by_cases positive : 0 < request.bufLen.toInt
    · exact commandData_accepted starts csw _ state saved positive
    · -- without data the counter skips a state
      have empty : device.commandBufferLen.toInt ≤ 0 := by
        rw [saved.length]
        omega
      have carried : carries request.bufLen = false := by simp [saved.carried, positive]
      rw [commandComplete_skips starts _ state empty]
      refine commandCsw_accepted starts (fun handed => ?_) rfl rfl rfl
        ⟨saved.complete, saved.isIn, saved.buffer, saved.length, saved.carried⟩
      simp [bulkStep, carried]
  | @data request state saved =>
    refine ⟨_, rfl, rfl, ?_⟩
    rw [commandComplete_csw starts _ state]
    exact commandCsw_accepted starts (fun handed => rfl) rfl rfl state saved
  | @csw request state saved =>
    refine ⟨_, rfl, ?_, ?_⟩
    · split <;> rfl
    · by_cases valid : csw.signature = cswSignature ∧ csw.tag = device.tag
      · rw [commandComplete_finishes starts _ ⟨state, valid⟩, if_pos valid]
        obtain ⟨next, bus, refines, started⟩ := performCalls_accepted
          (.idle rfl : Refines carries { device with commandState := stateCbwTransfer } .idle) calls carried
        refine ⟨next, ?_, refines, ?_⟩
        · simpa [bulkStep, saved.complete] using bus
        · rw [List.filterMap_cons_none rfl]
          exact started
      · obtain ⟨text, invalid⟩ := commandComplete_invalid starts (performCalls calls) state
          (fun finished => valid finished.2)
        rw [invalid, if_neg valid]
        exact ⟨.idle, by simp, .idle rfl, by simp [startedTransfer]⟩

/-! ## Runs -/

/-- Complete routines that call the driver and leave the device alone otherwise. -/
def callsOnly (_ : CommandStatusWrapper) (calls : List DriverCall) : MassStorageDevice → Effect :=
  performCalls calls

/-- The log is accepted, and the device and the outstanding transfers are those of
    the phase it leads to. -/
structure StorageInv (carries : BitVec 32 → Bool) (storage : Storage) (phase : BulkPhase) : Prop where
  log : storage.log.foldlM (bulkStep carries) .idle = some phase
  refines : Refines carries storage.device phase
  outstanding : storage.outstanding = phase.outstanding.toList

theorem storageStart_inv (device : MassStorageDevice) : StorageInv carries (storageStart device) .idle where
  log := rfl
  refines := .idle rfl
  outstanding := rfl

variable {storage next : Storage}

theorem StorageInv.absorb (inv : StorageInv carries storage phase) {effect : Effect}
    (accepted : Accepted carries phase effect) :
    ∃ phase', StorageInv carries (storage.absorb effect) phase' := by
  obtain ⟨phase', bus, refines, started⟩ := accepted
  refine ⟨phase', ?_, refines, ?_⟩
  · rw [Storage.absorb, List.foldlM_append, inv.log]
    exact bus
  · rw [Storage.absorb, inv.outstanding, started]

theorem storageStep_inv (inv : StorageInv carries storage phase) (event : StorageEvent)
    (carried : ∀ call ∈ event.calls, carries call.bufLen = decide (0 < call.bufLen.toInt))
    (steps : storageStep callsOnly storage event = some next) : ∃ phase', StorageInv carries next phase' := by
  cases event with
  | call made =>
    obtain rfl := Option.some.inj steps
    exact inv.absorb (perform_accepted inv.refines made (carried made (by simp [StorageEvent.calls])))
  | complete index csw starts calls =>
    rw [storageStep, Option.ite_none_right_eq_some] at steps
    obtain ⟨bound, steps⟩ := steps
    obtain rfl := Option.some.inj steps
    cases busy : phase.outstanding with
    | none => simp [inv.outstanding, busy] at bound
    | some transfer =>
      obtain rfl : index = 0 := by simpa [inv.outstanding, busy] using bound
      obtain ⟨after, completes, quiet, accepted⟩ :=
        completion_accepted inv.refines busy csw starts calls carried
      obtain ⟨phase', bus, refines, started⟩ := accepted
      refine ⟨phase', ?_, refines, ?_⟩
      · simp only [Storage.absorb, List.foldlM_append, inv.log, Option.bind_eq_bind, Option.bind_some,
          List.foldlM_cons, completes, List.foldlM_nil]
        exact bus
      · rw [quiet] at started
        simpa [Storage.absorb, inv.outstanding, busy, callsOnly] using started

theorem runStorage_inv (inv : StorageInv carries storage phase) (events : List StorageEvent)
    (carried : ∀ event ∈ events, ∀ call ∈ event.calls,
      carries call.bufLen = decide (0 < call.bufLen.toInt))
    (run : events.foldlM (storageStep callsOnly) storage = some next) : ∃ phase', StorageInv carries next phase' := by
  induction events generalizing storage phase with
  | nil =>
    obtain rfl : storage = next := Option.some.inj run
    exact ⟨phase, inv⟩
  | cons event events ih =>
    rw [List.foldlM_cons, Option.bind_eq_bind, Option.bind_eq_some_iff] at run
    obtain ⟨middle, steps, run⟩ := run
    obtain ⟨phase', inv'⟩ := storageStep_inv inv event (carried event (by simp)) steps
    exact ih inv' (fun event member => carried event (by simp [member])) run

/-- Every run of the driver follows the bulk-only transport: at most one transfer
    is outstanding, and what happens on the bus is accepted, where the commands
    with a positive length are those with data. -/
theorem bulk_transport_ordered (device : MassStorageDevice) (events : List StorageEvent)
    (small : ∀ event ∈ events, ∀ call ∈ event.calls, call.bufLen.toNat < 2 ^ 31)
    (storage : Storage)
    (run : events.foldlM (storageStep callsOnly) (storageStart device) = some storage) :
    storage.outstanding.length ≤ 1 ∧
      ∃ phase, storage.log.foldlM (bulkStep fun bufLen => 0 < bufLen.toNat) .idle = some phase ∧
        storage.outstanding = phase.outstanding.toList := by
  have carried : ∀ event ∈ events, ∀ call ∈ event.calls,
      decide (0 < call.bufLen.toNat) = decide (0 < call.bufLen.toInt) := by
    intro event member call called
    have bound := small event member call called
    rw [BitVec.toInt_eq_toNat_of_lt (by omega)]
    simp
  obtain ⟨phase, inv⟩ := runStorage_inv
    (storageStart_inv device : StorageInv (fun bufLen => 0 < bufLen.toNat) _ _) events carried run
  refine ⟨?_, phase, inv.log, inv.outstanding⟩
  rw [inv.outstanding]
  cases phase.outstanding with
  | none => simp
  | some transfer => simp

/-- A command with data, its status, and a second command that its complete routine
    calls. -/
theorem bulk_transport_ordered_two_commands :
    ∃ storage, [.call (.command ⟨[0x28], some 0x4000, 512, true, .opComplete⟩ true),
        .complete 0 ⟨0, 0, 0, 0⟩ true [], .complete 0 ⟨0, 0, 0, 0⟩ true [],
        .complete 0 ⟨cswSignature, 1, 0, 0⟩ true
          [.command ⟨[0x00], none, 0, false, .configureComplete⟩ true]].foldlM
          (storageStep callsOnly) (storageStart freshDevice) = some storage ∧
      storage.outstanding.length ≤ 1 ∧
      ∃ phase, storage.log.foldlM (bulkStep fun bufLen => 0 < bufLen.toNat) .idle = some phase ∧
        storage.outstanding = phase.outstanding.toList := by
  obtain ⟨storage, run⟩ := Option.isSome_iff_exists.mp
    (show Option.isSome ([.call (.command ⟨[0x28], some 0x4000, 512, true, .opComplete⟩ true),
        .complete 0 ⟨0, 0, 0, 0⟩ true [], .complete 0 ⟨0, 0, 0, 0⟩ true [],
        .complete 0 ⟨cswSignature, 1, 0, 0⟩ true
          [.command ⟨[0x00], none, 0, false, .configureComplete⟩ true]].foldlM
          (storageStep callsOnly) (storageStart freshDevice)) by decide)
  exact ⟨storage, run, bulk_transport_ordered freshDevice _ (by decide) storage run⟩

end ComputerSystems.Verified
