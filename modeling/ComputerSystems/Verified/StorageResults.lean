import ComputerSystems.Verified.BlockOperations
import ComputerSystems.Verified.StorageAnswers

/-! # The results of storage operations

What `op_complete` reports of an operation and what it leaves behind.  The length
that it reports is a signed number from which it takes the residue of the status
wrapper with unsigned arithmetic, also when the number stands for a failure
(`operation_length_iff`).

It calls the callback of the operation before it clears the buffer of the command
and moves the offset by one block, so that an operation that the callback starts
loses its buffer and its offset, and the offset is right only after an operation of
one block that passed (`chained_operation_iff`).
-/

namespace ComputerSystems.Verified

open ComputerSystems.System ComputerSystems.Usb

/-! ## Lengths -/

section Lengths

variable {csw : CommandStatusWrapper} {bufLen : BitVec 32}

/-- The bytes that a status wrapper reports as transferred of `bufLen`; a residue that
    is larger than the buffer is ignored. -/
def transferredBytes (csw : CommandStatusWrapper) (bufLen : BitVec 32) : Nat :=
  if csw.dataResidue.toNat ≤ bufLen.toNat then bufLen.toNat - csw.dataResidue.toNat else bufLen.toNat

/-- The length of an operation of `bufLen` bytes is negative if the status is not
    'passed', and is the bytes that were transferred if it is. -/
structure ReportsLength (csw : CommandStatusWrapper) (bufLen length : BitVec 32) : Prop where
  failure : length.toInt < 0 ↔ csw.status ≠ cswStatusPassed
  transferred : csw.status = cswStatusPassed → csw.dataResidue.toNat ≤ bufLen.toNat →
    length.toInt = bufLen.toNat - csw.dataResidue.toNat
  bound : length.toInt ≤ bufLen.toNat

/-- The length that the first callback of an operation is called with. -/
def reportedLength (actions : List StorageAction) : Option (BitVec 32) :=
  actions.findSome? fun action =>
    match action with
    | .operation _ _ length _ => some length
    | _ => none

/-- The length fits in a signed number: a transfer is below 2^31, and the residue does
    not take a failure below -2^31, unless it is too large to be taken at all. -/
def LengthFits (csw : CommandStatusWrapper) (bufLen : BitVec 32) : Prop :=
  if csw.status = cswStatusPassed then transferredBytes csw bufLen < 2 ^ 31
  else csw.dataResidue.toNat + csw.status.toNat ≤ 2 ^ 31 ∨ 2 ^ 32 < csw.dataResidue.toNat + csw.status.toNat

instance (csw : CommandStatusWrapper) (bufLen : BitVec 32) : Decidable (LengthFits csw bufLen) :=
  inferInstanceAs (Decidable (if csw.status = cswStatusPassed then transferredBytes csw bufLen < 2 ^ 31
    else csw.dataResidue.toNat + csw.status.toNat ≤ 2 ^ 31 ∨
      2 ^ 32 < csw.dataResidue.toNat + csw.status.toNat))

theorem opLength_passed (passed : csw.status = cswStatusPassed) :
    (opLength csw bufLen).toNat = transferredBytes csw bufLen := by
  have small := bufLen.isLt
  simp only [opLength, transferredBytes, passed, ne_eq, not_true_eq_false, if_false]
  split_ifs with reduced inside inside
  · rw [BitVec.toNat_sub]
    omega
  · omega
  · omega
  · rfl

theorem opLength_failed (failed : csw.status ≠ cswStatusPassed) :
    (opLength csw bufLen).toNat =
      if csw.dataResidue.toNat + csw.status.toNat ≤ 2 ^ 32 then
        2 ^ 32 - csw.status.toNat - csw.dataResidue.toNat
      else 2 ^ 32 - csw.status.toNat := by
  have byte : csw.status.toNat < 256 := csw.status.toNat_lt
  have positive : 0 < csw.status.toNat := by
    apply Nat.pos_of_ne_zero
    intro zero
    exact failed (UInt8.toNat_inj.mp zero)
  have negated : (-BitVec.ofNat 32 csw.status.toNat).toNat = 2 ^ 32 - csw.status.toNat := by
    rw [BitVec.toNat_neg, BitVec.toNat_ofNat]
    omega
  simp only [opLength, failed, ne_eq, not_false_eq_true, if_true, negated]
  split_ifs with reduced inside inside
  · rw [BitVec.toNat_sub, negated]
    omega
  · omega
  · omega
  · exact negated

theorem opLength_reports_iff (csw : CommandStatusWrapper) (bufLen : BitVec 32) :
    ReportsLength csw bufLen (opLength csw bufLen) ↔ LengthFits csw bufLen := by
  have small := bufLen.isLt
  -- The length is one of 32 bits, and negative from 2 ^ 31 on.
  have signed := BitVec.toInt_eq_toNat_cond (opLength csw bufLen)
  by_cases passed : csw.status = cswStatusPassed
  · rw [opLength_passed passed] at signed
    simp only [LengthFits, passed, if_true]
    constructor
    · rintro ⟨failure, -, -⟩
      have success : ¬ (opLength csw bufLen).toInt < 0 := fun negative => failure.mp negative passed
      have below : transferredBytes csw bufLen < 2 ^ 32 := by
        rw [transferredBytes]
        split_ifs <;> omega
      rw [signed] at success
      split_ifs at success <;> omega
    · intro fits
      rw [if_pos (by omega)] at signed
      have least : transferredBytes csw bufLen ≤ bufLen.toNat := by
        rw [transferredBytes]
        split_ifs <;> omega
      refine ⟨?_, ?_, by omega⟩
      · simp only [signed, passed, ne_eq, not_true_eq_false, iff_false]
        omega
      · intro _ inside
        rw [signed, transferredBytes, if_pos inside]
        omega
  · have value : (opLength csw bufLen).toNat = _ := opLength_failed passed
    have byte : csw.status.toNat < 256 := csw.status.toNat_lt
    have failure : LengthFits csw bufLen ↔ (opLength csw bufLen).toInt < 0 := by
      rw [LengthFits, if_neg passed, signed]
      split_ifs at value ⊢ <;> omega
    rw [failure]
    constructor
    · intro reports
      exact reports.failure.mpr passed
    · intro negative
      refine ⟨by simp [negative, passed], fun success => absurd success passed, by omega⟩

end Lengths

/-! ## Completions of operations -/

section Completions

variable {csw : CommandStatusWrapper} {device : MassStorageDevice} {callback : Address}

/-- A valid status wrapper completes the operation of the command. -/
structure CompletesOperation (csw : CommandStatusWrapper) (device : MassStorageDevice) (callback : Address) :
    Prop where
  finished : finishes csw device
  routine : device.commandComplete = some .opComplete
  set : device.operationCallback = some callback

/-- The completion of an operation whose callback is `user`. -/
def completeOperation (csw : CommandStatusWrapper) (starts : Bool) (user : MassStorageDevice → Effect)
    (device : MassStorageDevice) : Effect :=
  commandComplete csw starts (opComplete csw user) device

theorem completeOperation_eq (completes : CompletesOperation csw device callback) (starts : Bool)
    (user : MassStorageDevice → Effect) :
    completeOperation csw starts user device =
      { device := opNext (user (entered csw device)).device
        actions := .complete device.commandComplete csw :: (opMessage csw ++
          .operation callback device.commandBuffer (opLength csw device.commandBufferLen)
            device.operationPayload :: (user (entered csw device)).actions) } := by
  have set : (ready device).operationCallback = some callback := completes.set
  rw [completeOperation, commandComplete_finishes starts _ completes.finished, ← ready,
    opComplete_some set]
  rfl

theorem completeOperation_length (completes : CompletesOperation csw device callback) (starts : Bool)
    (user : MassStorageDevice → Effect) :
    reportedLength (completeOperation csw starts user device).actions =
      some (opLength csw device.commandBufferLen) := by
  have silent : reportedLength (opMessage csw) = none := by
    rw [opMessage]
    split_ifs <;> rfl
  rw [reportedLength] at silent
  rw [completeOperation_eq completes]
  simp [reportedLength, List.findSome?_append, silent]

/-- The callback of an operation is called with the right length if the length fits. -/
theorem operation_length_iff (csw : CommandStatusWrapper) (starts : Bool) (user : MassStorageDevice → Effect)
    (device : MassStorageDevice) (callback : Address) (completes : CompletesOperation csw device callback) :
    (∃ length, reportedLength (completeOperation csw starts user device).actions = some length ∧
        ReportsLength csw device.commandBufferLen length) ↔
      LengthFits csw device.commandBufferLen := by
  rw [completeOperation_length completes, ← opLength_reports_iff]
  simp

end Completions

/-- A device whose read of one block has been answered. -/
def finishedDevice : MassStorageDevice :=
  { freshDevice with
    commandState := stateCmdFinished, commandBuffer := some 64, commandBufferLen := 512
    commandComplete := some .opComplete, operationCallback := some 7, tag := 1 }

/-- A status wrapper for `finishedDevice`. -/
def cswWith (status : UInt8) (dataResidue : BitVec 32) : CommandStatusWrapper :=
  ⟨cswSignature, 1, dataResidue, status⟩

theorem finishedDevice_completes (status : UInt8) (dataResidue : BitVec 32) :
    CompletesOperation (cswWith status dataResidue) finishedDevice 7 :=
  ⟨⟨rfl, rfl, rfl⟩, rfl, rfl⟩

/-- A read of which the device left out 12 bytes. -/
theorem operation_length_iff_short :
    (∃ length, reportedLength (completeOperation (cswWith 0 12) true (fun device => { device })
        finishedDevice).actions = some length ∧ ReportsLength (cswWith 0 12) 512 length) ↔
      LengthFits (cswWith 0 12) 512 :=
  operation_length_iff (cswWith 0 12) true (fun device => { device }) finishedDevice 7
    (finishedDevice_completes 0 12)

/-- A failure with a residue of 2^31 is reported as a transfer of 2^31 - 1 bytes. -/
theorem operation_length_failure_lost :
    ¬ ∀ (csw : CommandStatusWrapper) (starts : Bool) (user : MassStorageDevice → Effect)
      (device : MassStorageDevice) (callback : Address), CompletesOperation csw device callback →
        ∃ length, reportedLength (completeOperation csw starts user device).actions = some length ∧
          ReportsLength csw device.commandBufferLen length := by
  intro holds
  obtain ⟨length, reported, reports⟩ := holds (cswWith 1 0x80000000) true (fun device => { device })
    finishedDevice 7 (finishedDevice_completes 1 0x80000000)
  rw [completeOperation_length (finishedDevice_completes 1 0x80000000)] at reported
  obtain rfl := Option.some.inj reported
  have fits := (opLength_reports_iff (cswWith 1 0x80000000) 512).mp reports
  exact absurd fits (by decide)

/-! ## Operations that a callback starts -/

/-- The operation that a call asks for. -/
def DriverCall.operation : DriverCall → Option Operation
  | .read operation _ => some operation
  | .write operation _ => some operation
  | _ => none

/-- `calls` start `operation` at `offset`. -/
def StartsAt (calls : List DriverCall) (device : MassStorageDevice) (operation : Operation)
    (offset : BitVec 64) : Prop :=
  ∃ before call after, calls = before ++ call :: after ∧
    DriverCall.operation call = some operation ∧
    (performCalls before device).device.offset = offset ∧
    acceptedCommands (call.perform (performCalls before device).device).actions ≠ []

/-- The device has what an operation was given. -/
structure KeepsOperation (device : MassStorageDevice) (operation : Operation) (offset : BitVec 64) : Prop where
  buffer : device.commandBuffer = operation.buffer
  length : device.commandBufferLen = operation.count
  callback : device.operationCallback = operation.callback
  payload : device.operationPayload = operation.payload
  offset : device.offset = offset

/-- The bytes by which an operation moves the offset. -/
def movedBytes (csw : CommandStatusWrapper) (bufLen : BitVec 32) : Nat :=
  if csw.status = cswStatusPassed then transferredBytes csw bufLen else 0

/-- An operation that the callback starts keeps what it was given; if there is none,
    the offset has moved by the bytes that were transferred. -/
structure LeavesOperation (csw : CommandStatusWrapper) (calls : List DriverCall)
    (device after : MassStorageDevice) : Prop where
  started : ∀ operation offset, StartsAt calls (entered csw device) operation offset →
    KeepsOperation after operation offset
  offset : (∀ operation offset, ¬ StartsAt calls (entered csw device) operation offset) →
    after.offset = device.offset + BitVec.ofNat 64 (movedBytes csw device.commandBufferLen)

/-- Where calls that seek leave the offset. -/
def soughtOffset : List DriverCall → BitVec 64 → BitVec 64
  | [], offset => offset
  | .seek sought :: calls, offset =>
    soughtOffset calls (if sought.toNat % blockSize = 0 then sought else offset)
  | _ :: calls, offset => soughtOffset calls offset

theorem command_offset (request : Command) (starts : Bool) (device : MassStorageDevice) :
    (command request starts device).2.device.offset = device.offset := by
  rw [command]
  split_ifs <;> rfl

theorem requestOperation_offset (operationCode flags : UInt8) (isInEndpoint : Bool) (message : String)
    (operation : Operation) (starts : Bool) (device : MassStorageDevice) :
    (requestOperation operationCode flags isInEndpoint message operation starts device).device.offset =
      device.offset := by
  obtain ⟨-, unchanged, -⟩ | ⟨-, request, messages, -, -, -, performs⟩ :=
    transferBlocks_cases operationCode flags isInEndpoint message operation.buffer operation.count starts
      { device with operationCallback := operation.callback, operationPayload := operation.payload }
  · simp only [requestOperation, unchanged]
  · simp only [requestOperation, performs, command_offset]

theorem performCalls_offset (calls : List DriverCall) (device : MassStorageDevice) :
    (performCalls calls device).device.offset = soughtOffset calls device.offset := by
  induction calls generalizing device with
  | nil => rfl
  | cons call calls ih =>
    change (performCalls calls (call.perform device).device).device.offset = _
    rw [ih]
    cases call with
    | command request starts => rw [DriverCall.perform, command_offset]; rfl
    | read operation starts =>
      exact congrArg (soughtOffset calls) (requestOperation_offset _ _ _ _ operation starts device)
    | write operation starts =>
      exact congrArg (soughtOffset calls) (requestOperation_offset _ _ _ _ operation starts device)
    | seek sought =>
      by_cases whole : sought.toNat % blockSize = 0
      · simp [DriverCall.perform, massStorageSeek, soughtOffset, whole]
      · simp [DriverCall.perform, massStorageSeek, soughtOffset, whole]

/-- What `op_complete` leaves is right if its callback starts no operation and leaves
    the offset one block before where the transfer ended; without a seek, that is if
    the operation passed and transferred one block. -/
theorem chained_operation_iff (csw : CommandStatusWrapper) (starts : Bool) (calls : List DriverCall)
    (device : MassStorageDevice) (callback : Address) (completes : CompletesOperation csw device callback)
    (buffers : ∀ call ∈ calls, ∀ operation, DriverCall.operation call = some operation →
      operation.buffer.isSome) :
    LeavesOperation csw calls device (completeOperation csw starts (performCalls calls) device).device ↔
      (∀ operation offset, ¬ StartsAt calls (entered csw device) operation offset) ∧
        soughtOffset calls device.offset + BitVec.ofNat 64 blockSize =
          device.offset + BitVec.ofNat 64 (movedBytes csw device.commandBufferLen) := by
  rw [completeOperation_eq completes]
  have moved : (opNext (performCalls calls (entered csw device)).device).offset =
      soughtOffset calls device.offset + BitVec.ofNat 64 blockSize :=
    congrArg (· + BitVec.ofNat 64 blockSize) (performCalls_offset calls (entered csw device))
  constructor
  · rintro ⟨started, offset⟩
    have none : ∀ operation offset, ¬ StartsAt calls (entered csw device) operation offset := by
      intro operation offset starts
      have cleared := (started operation offset starts).buffer
      obtain ⟨before, call, after, rfl, asks, -⟩ := starts
      have buffer := buffers call (by simp) operation asks
      rw [← cleared] at buffer
      cases buffer
    exact ⟨none, moved.symm.trans (offset none)⟩
  · rintro ⟨none, sought⟩
    exact ⟨fun operation offset starts => absurd starts (none operation offset),
      fun _ => moved.trans sought⟩

/-- A read of one block whose callback does nothing. -/
theorem chained_operation_iff_alone :
    LeavesOperation (cswWith 0 0) [] finishedDevice
        (completeOperation (cswWith 0 0) true (performCalls []) finishedDevice).device ↔
      (∀ operation offset, ¬ StartsAt [] (entered (cswWith 0 0) finishedDevice) operation offset) ∧
        soughtOffset [] finishedDevice.offset + BitVec.ofNat 64 blockSize =
          finishedDevice.offset + BitVec.ofNat 64 (movedBytes (cswWith 0 0) 512) :=
  chained_operation_iff (cswWith 0 0) true [] finishedDevice 7 (finishedDevice_completes 0 0)
    (fun _ member => absurd member List.not_mem_nil)

/-- The next read of a callback that reads on. -/
def nextRead : Operation := ⟨some 64, 512, some 7, none⟩

/-- The callback of a read reads the block at 1024; the buffer of that read is gone
    when `op_complete` returns. -/
theorem chained_operation_cleared :
    ¬ ∀ (csw : CommandStatusWrapper) (starts : Bool) (calls : List DriverCall) (device : MassStorageDevice)
      (callback : Address), CompletesOperation csw device callback →
        LeavesOperation csw calls device
          (completeOperation csw starts (performCalls calls) device).device := by
  intro holds
  have leaves := holds (cswWith 0 0) true [.seek 1024, .read nextRead true] finishedDevice 7
    (finishedDevice_completes 0 0)
  have starts : StartsAt [.seek 1024, .read nextRead true] (entered (cswWith 0 0) finishedDevice)
      nextRead 1024 :=
    ⟨[.seek 1024], .read nextRead true, [], rfl, rfl, by decide, by decide⟩
  have cleared := (leaves.started nextRead 1024 starts).buffer
  rw [completeOperation_eq (finishedDevice_completes 0 0)] at cleared
  cases cleared

end ComputerSystems.Verified
