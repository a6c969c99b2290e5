import ComputerSystems.Verified.BlockOperations

/-! # What the file system is told about a block

The comment on `sdcard_readBlock` and `sdcard_writeBlock` promises the callback of
an operation the buffer of the call if the operation was successful, and `NULL`
otherwise.  The callbacks in between do not look at the length that the driver
reports and pass on whatever buffer the driver still holds: the buffer of the call,
unless the operation was started in the callback of another one.  The promise is
kept in exactly those runs in which the first kind of operation never fails and the
second kind always does (`sdcard_delivers_iff`).
-/

namespace ComputerSystems.Verified

open ComputerSystems.System ComputerSystems.Usb ComputerSystems.Fat ComputerSystems.Data

/-! ## The promise -/

/-- A call that was accepted. -/
def acceptedCall : CardEvent → Option BlockCall
  | .returned call result _ _ => if result = 0 then none else some call
  | .invoked _ _ _ _ _ => none

def lastAccepted (card : SdCard) : Option BlockCall :=
  (card.history.filterMap acceptedCall).getLast?

/-- The device reports success for all bytes of a block. -/
def wholeBlock (csw : CommandStatusWrapper) : Prop :=
  csw.status = cswStatusPassed ∧ csw.dataResidue = 0

instance (csw : CommandStatusWrapper) : Decidable (wholeBlock csw) :=
  inferInstanceAs (Decidable (_ ∧ _))

/-- The buffer that the callback of a call is promised. -/
def promisedBuffer (csw : CommandStatusWrapper) (call : BlockCall) : Option Address :=
  if wholeBlock csw then call.buffer else none

/-- The step that completes an operation calls the callback of the call that was
    accepted last, with the buffer that it is promised. -/
def Delivers (card : SdCard) : BlockEvent → Prop
  | .call _ => True
  | .complete index csw starts calls =>
    card.device.commandState = stateCmdFinished →
      ∀ next ∈ cardStep card (.complete index csw starts calls), ∃ call, lastAccepted card = some call ∧
        (next.history.drop card.history.length).head? =
          some (.invoked call.operation call.blockIndex (promisedBuffer csw call) call.callback
            call.callbackData)

/-- A smooth step whose calls all pass a buffer, as `read` and `write` assert. -/
def SmoothBlocks (card : SdCard) (event : BlockEvent) : Prop :=
  Smooth card event ∧ ∀ made ∈ event.calls, made.buffer.isSome

instance (card : SdCard) (event : BlockEvent) : Decidable (SmoothBlocks card event) :=
  inferInstanceAs (Decidable (_ ∧ _))

/-- The driver has cleared the buffer of the command in progress: the command was
    started in the callback of the operation before. -/
def cleared (card : SdCard) : Prop := card.device.commandBufferLen = 0

instance (card : SdCard) : Decidable (cleared card) := inferInstanceAs (Decidable (_ = _))

/-- An operation ends with success for the whole block exactly if its buffer is still
    there. -/
def EndsAsHeld (card : SdCard) : BlockEvent → Prop
  | .call _ => True
  | .complete index csw _ _ =>
    card.device.commandState = stateCmdFinished → index < card.outstanding.length →
      (wholeBlock csw ↔ ¬ cleared card)

/-! ## The buffer of the command in progress -/

/-- The device holds the buffer of the call that was accepted last, or has cleared it. -/
inductive Carries (card : SdCard) : Prop where
  | idle (standing : Idle card)
  | held (slot : Fin maxOperations) (call : BlockCall) (busy : Busy card slot call)
      (last : lastAccepted card = some call) (given : call.buffer.isSome)
      (buffer : card.device.commandBuffer = call.buffer)
      (length : card.device.commandBufferLen = BitVec.ofNat 32 blockSize)
  | gone (slot : Fin maxOperations) (call : BlockCall) (busy : Busy card slot call)
      (last : lastAccepted card = some call) (given : call.buffer.isSome)
      (buffer : card.device.commandBuffer = none) (length : card.device.commandBufferLen = 0)

section Steps

variable {card : SdCard} {slot : Fin maxOperations} {call made : BlockCall} {csw : CommandStatusWrapper}

theorem lastAccepted_returned {next : SdCard} (events : List CardEvent) {before behind : Operations}
    (history : next.history = card.history ++ (events ++ [.returned made 1 before behind])) :
    lastAccepted next = some made := by
  rw [lastAccepted, history, List.filterMap_append, List.filterMap_append]
  simp [acceptedCall]

theorem Carries.accepts (carries : Carries card) (smooth : SmoothBlocks card (.call made)) :
    Carries (blockCall card made) := by
  obtain ⟨⟨idle, starts⟩, given⟩ := smooth
  cases carries with
  | idle standing =>
    obtain ⟨busy, ⟨before, behind, history⟩, buffer, length⟩ := standing.accepts starts
    exact .held _ made busy (lastAccepted_returned [] history) (given made List.mem_cons_self) buffer length
  | held slot call busy => exact absurd idle busy.state
  | gone slot call busy => exact absurd idle busy.state

/-- The end of a command leaves the card idle, or with a command whose buffer is gone. -/
theorem Busy.finishes_carries (busy : Busy card slot call) (finished : finishes csw card.device)
    (starts : Bool) {calls : List BlockCall} (single : calls.length ≤ 1)
    (start : ∀ made ∈ calls, made.starts = true) (given : ∀ made ∈ calls, made.buffer.isSome) :
    let next := cardComplete csw starts calls { card with outstanding := [] }
    Carries next ∧ (next.history.drop card.history.length).head? = some (invokedWith card call) := by
  cases calls with
  | nil =>
    obtain ⟨idle, history⟩ := busy.ends finished starts
    refine ⟨.idle idle, ?_⟩
    rw [history, List.drop_left]
    rfl
  | cons made rest =>
    obtain rfl : rest = [] := by
      cases rest with
      | nil => rfl
      | cons _ _ => simp at single
    obtain ⟨⟨other, busy⟩, ⟨before, behind, history⟩, buffer, length⟩ :=
      busy.chains finished starts (start made List.mem_cons_self)
    refine ⟨?_, by rw [history, List.drop_left]; rfl⟩
    exact .gone other made busy (lastAccepted_returned [invokedWith card call] history)
      (given made List.mem_cons_self) buffer length

theorem Busy.goes_carries (busy : Busy card slot call) (state : card.device.commandState < stateCmdFinished)
    (carries : Carries card) (csw : CommandStatusWrapper) (calls : List BlockCall) :
    Carries (cardComplete csw true calls { card with outstanding := [] }) := by
  obtain ⟨transfer, later, result, advances, bound⟩ := cardComplete_goes busy state csw calls
  rw [result]
  have goesOn : ∀ {slot call}, Busy card slot call →
      Busy { card with
        device := { card.device with commandState := later }
        outstanding := [transfer]
        actions := card.actions ++ [.transfer transfer true] } slot call := by
    intro slot call busy
    exact
      { state := Nat.ne_of_gt (Nat.lt_of_le_of_lt (Nat.zero_le _) advances)
        bound, routine := busy.routine, callback := busy.callback, payload := busy.payload
        outstanding := rfl, operations := busy.operations }
  cases carries with
  | idle standing => exact absurd standing.state busy.state
  | held slot call busy last given buffer length => exact .held slot call (goesOn busy) last given buffer length
  | gone slot call busy last given buffer length => exact .gone slot call (goesOn busy) last given buffer length

/-- The callback of the call that was accepted last gets the buffer that the device
    holds. -/
theorem delivers_iff (busy : Busy card slot call) (last : lastAccepted card = some call)
    {index : Nat} {starts : Bool} {calls : List BlockCall}
    (smooth : SmoothBlocks card (.complete index csw starts calls)) :
    Delivers card (.complete index csw starts calls) ↔
      (card.device.commandState = stateCmdFinished → index < card.outstanding.length →
        card.device.commandBuffer = promisedBuffer csw call) := by
  apply imp_congr_right
  intro state
  obtain ⟨smooth, given⟩ := smooth
  rw [Smooth, if_pos state] at smooth
  obtain ⟨signature, tag, single, start⟩ := smooth
  have first := (busy.finishes_carries ⟨state, signature, tag⟩ starts single start given).2
  rw [List.head?_drop] at first
  by_cases inside : index < card.outstanding.length
  · simp [cardStep, inside, eraseIdx_single busy.outstanding inside, first, last, invokedWith]
  · simp [cardStep, inside]

theorem Carries.step {event : BlockEvent} (carries : Carries card) (smooth : SmoothBlocks card event) :
    (Delivers card event ↔ EndsAsHeld card event) ∧
      (Delivers card event → ∀ next ∈ cardStep card event, Carries next) := by
  cases event with
  | call made =>
    refine ⟨Iff.rfl, ?_⟩
    intro _ next steps
    obtain rfl := Option.some.inj steps
    exact carries.accepts smooth
  | complete index csw starts calls =>
    -- A completion either ends the operation or brings it to its next state.
    have keeps : ∀ {slot call}, Busy card slot call →
        ∀ next ∈ cardStep card (.complete index csw starts calls), Carries next := by
      intro slot call busy next steps
      rw [Option.mem_def, cardStep, Option.ite_none_right_eq_some] at steps
      obtain ⟨inside, steps⟩ := steps
      rw [eraseIdx_single busy.outstanding inside] at steps
      obtain rfl := Option.some.inj steps
      obtain ⟨smooth, given⟩ := smooth
      by_cases last : card.device.commandState = stateCmdFinished
      · rw [Smooth, if_pos last] at smooth
        obtain ⟨signature, tag, single, start⟩ := smooth
        exact (busy.finishes_carries ⟨last, signature, tag⟩ starts single start given).1
      · rw [Smooth, if_neg last] at smooth
        subst smooth
        exact busy.goes_carries (Nat.lt_of_le_of_ne busy.bound last) carries csw calls
    cases carries with
    | idle standing =>
      refine ⟨?_, by simp [cardStep, standing.outstanding]⟩
      simp [Delivers, EndsAsHeld, standing.state, stateCbwTransfer, stateCmdFinished]
    | held slot call busy last given buffer length =>
      refine ⟨(delivers_iff busy last smooth).trans ?_, fun _ => keeps busy⟩
      have intact : ¬ cleared card := by simp [cleared, length, blockSize]
      apply imp_congr_right
      intro _
      apply imp_congr_right
      intro _
      by_cases whole : wholeBlock csw
      · simp [promisedBuffer, whole, buffer, intact]
      · rw [promisedBuffer, if_neg whole, buffer]
        simp [whole, intact, Option.isSome_iff_ne_none.mp given]
    | gone slot call busy last given buffer length =>
      refine ⟨(delivers_iff busy last smooth).trans ?_, fun _ => keeps busy⟩
      have lost : cleared card := length
      apply imp_congr_right
      intro _
      apply imp_congr_right
      intro _
      by_cases whole : wholeBlock csw
      · rw [promisedBuffer, if_pos whole, buffer, eq_comm]
        simp [whole, lost, Option.isSome_iff_ne_none.mp given]
      · simp [promisedBuffer, whole, buffer, lost]

end Steps

/-! ## Runs -/

/-- In a run in which the driver accepts every call and answers every command, the
    callbacks get what they are promised exactly if every operation succeeds whose
    buffer the driver still holds, and none does whose buffer it has cleared. -/
theorem sdcard_delivers_iff (device : MassStorageDevice) (events : List BlockEvent)
    (smooth : Along cardStep SmoothBlocks events (cardStart device)) :
    Along cardStep Delivers events (cardStart device) ↔
      Along cardStep EndsAsHeld events (cardStart device) :=
  smooth.congr Carries (.idle ⟨rfl, rfl, rfl⟩) fun _ _ carries smooth => carries.step smooth

instance (card : SdCard) : ∀ event, Decidable (EndsAsHeld card event)
  | .call _ => inferInstanceAs (Decidable True)
  | .complete index csw _ _ =>
    inferInstanceAs (Decidable (card.device.commandState = stateCmdFinished →
      index < card.outstanding.length → (wholeBlock csw ↔ ¬ cleared card)))

/-- A read that is answered with `csw`. -/
def readAnswered (csw : CommandStatusWrapper) : List BlockEvent :=
  [.call (blockRead 5), .complete 0 passedStatus true [], .complete 0 passedStatus true [],
    .complete 0 csw true []]

theorem sdcard_delivers_iff_read :
    Along cardStep SmoothBlocks (readAnswered passedStatus) (cardStart freshDevice) ∧
      (Along cardStep Delivers (readAnswered passedStatus) (cardStart freshDevice) ↔
        Along cardStep EndsAsHeld (readAnswered passedStatus) (cardStart freshDevice)) := by
  have smooth : Along cardStep SmoothBlocks (readAnswered passedStatus) (cardStart freshDevice) := by decide
  exact ⟨smooth, sdcard_delivers_iff freshDevice (readAnswered passedStatus) smooth⟩

/-- The status of a read that failed. -/
def failedStatus : CommandStatusWrapper := ⟨cswSignature, 1, 512, 1⟩

/-- The callback of a read that failed gets the buffer as if the read had succeeded. -/
theorem sdcard_failure_dropped :
    ¬ ∀ (device : MassStorageDevice) (events : List BlockEvent),
      Along cardStep SmoothBlocks events (cardStart device) →
        Along cardStep Delivers events (cardStart device) := by
  intro holds
  have smooth : Along cardStep SmoothBlocks (readAnswered failedStatus) (cardStart freshDevice) := by decide
  have delivers := holds freshDevice (readAnswered failedStatus) smooth
  have held : Along cardStep EndsAsHeld (readAnswered failedStatus) (cardStart freshDevice) :=
    (smooth.congr Carries (.idle ⟨rfl, rfl, rfl⟩) fun _ _ carries smooth => carries.step smooth).mp delivers
  exact absurd held (by decide)

end ComputerSystems.Verified
