import ComputerSystems.Data.Run
import ComputerSystems.Verified.ControlTransfers
import ComputerSystems.Verified.StageRuns

/-! # The account of a transfer

`TransferStageDataTransactionComplete` counts the bytes and the packets of a transfer by
what the channel reports as left.  The account of a stage is what it reads and updates.

A transfer that is not split is reported once.  A split one is reported for the start
split and for every complete split, and where a complete split reports no bytes the driver
counts whole packets.  The account is right as long as a packet that is reported as moved is
one of the packets that are left, and comes with bytes if it is a complete split.
-/

namespace ComputerSystems.Verified

open ComputerSystems.Data ComputerSystems.Usb

variable {endpoint : Endpoint} {hardware : Hardware} {stage after : TransferStageData}
  {status packetsLeft bytesLeft : BitVec 32} {moved : Nat}

/-! ## The account of a stage -/

structure Account where
  transferSize : BitVec 32
  maxPacketSize : BitVec 32
  packets : BitVec 32
  bytesPerTransaction : BitVec 32
  total : BitVec 32
  offset : BitVec 32

def accountOf (stage : TransferStageData) : Account where
  transferSize := stage.transferSize
  maxPacketSize := stage.maxPacketSize
  packets := stage.packets
  bytesPerTransaction := stage.bytesPerTransaction
  total := stage.totalBytesTransfered
  offset := stage.bufferOffset

/-- A transaction is entered. -/
def Account.enter (packets bytes : BitVec 32) (account : Account) : Account :=
  let left := account.transferSize - (account.total + bytes)
  { account with
    packets := account.packets - packets
    bytesPerTransaction := if left < account.bytesPerTransaction then left else account.bytesPerTransaction
    total := account.total + bytes
    offset := account.offset + bytes }

/-- The bytes that a report of the controller says have been moved. -/
def bytesMoved (bytesLeft : BitVec 32) (stage : TransferStageData) : BitVec 32 :=
  stage.bytesPerTransaction - bytesLeft

/-- A complete split that reports no bytes. -/
def silent (bytesLeft : BitVec 32) (stage : TransferStageData) : Bool :=
  stage.splitTransaction && stage.splitComplete && bytesMoved bytesLeft stage == 0 &&
    decide (0 < stage.bytesPerTransaction)

/-- The bytes that the driver counts for it. -/
def bytesCounted (packetsLeft bytesLeft : BitVec 32) (stage : TransferStageData) : BitVec 32 :=
  if silent bytesLeft stage then stage.maxPacketSize * packetsMoved packetsLeft stage
  else bytesMoved bytesLeft stage

/-- An answer other than an error, NAK or NYET is counted. -/
def counts (status : BitVec 32) : Bool := !anySet status (hcIntErrorMask ||| hcIntNak ||| hcIntNyet)

theorem accountOf_uncounted (refused : counts status = false) :
    accountOf (countTransaction status packetsLeft bytesLeft stage) = accountOf stage := by
  rw [counts, Bool.not_eq_false'] at refused
  rw [countTransaction, transactionComplete]
  simp only [refused, if_true]
  rfl

theorem accountOf_counted (taken : counts status = true) :
    accountOf (countTransaction status packetsLeft bytesLeft stage) =
      (accountOf stage).enter (packetsMoved packetsLeft stage) (bytesCounted packetsLeft bytesLeft stage) := by
  rw [counts, Bool.not_eq_true'] at taken
  rw [countTransaction, transactionComplete]
  simp only [taken, Bool.false_eq_true, if_false]
  rfl

theorem Rescheduled.account (rescheduled : Rescheduled stage after) : accountOf after = accountOf stage := by
  obtain ⟨_, _, _, _, rfl⟩ := rescheduled
  rfl

theorem Rescheduled.pace (rescheduled : Rescheduled stage after) :
    after.splitTransaction = stage.splitTransaction ∧
      after.packetsPerTransaction = stage.packetsPerTransaction := by
  obtain ⟨_, _, _, _, rfl⟩ := rescheduled
  exact ⟨rfl, rfl⟩

theorem countTransaction_pace :
    (countTransaction status packetsLeft bytesLeft stage).splitTransaction = stage.splitTransaction ∧
      (countTransaction status packetsLeft bytesLeft stage).packetsPerTransaction =
        stage.packetsPerTransaction := by
  rw [countTransaction, transactionComplete]
  split
  · exact ⟨rfl, rfl⟩
  · exact ⟨rfl, rfl⟩

/-! ## Entering a transaction -/

/-- The account agrees with the bytes that have been moved, and a transaction fits in what is
    left.  The last part holds of the packets that the loop at the attachment counts. -/
structure Account.Agrees (moved : Nat) (account : Account) : Prop where
  total : account.total.toNat = moved
  fits : account.total.toNat + account.bytesPerTransaction.toNat ≤ account.transferSize.toNat
  offset : account.offset = account.total
  room : 0 < account.transferSize.toNat → account.packets ≠ 0 →
    0 < account.maxPacketSize.toNat ∧ account.transferSize.toNat + account.maxPacketSize.toNat ≤ 2 ^ 32

/-- Bytes of the transaction and packets that are left keep the account right. -/
theorem Account.Agrees.enter {account : Account} {packets bytes : BitVec 32} (agrees : account.Agrees moved)
    (some : bytes ≤ account.bytesPerTransaction) (left : packets ≤ account.packets) :
    (account.enter packets bytes).Agrees (moved + bytes.toNat) := by
  have total := agrees.total
  have fits := agrees.fits
  rw [BitVec.le_def] at some left
  -- Neither the sum nor the difference wraps, as the total is within the size.
  have sum : (account.total + bytes).toNat = account.total.toNat + bytes.toNat := by bv_omega
  have rest : (account.transferSize - (account.total + bytes)).toNat =
      account.transferSize.toNat - (account.total.toNat + bytes.toNat) := by bv_omega
  constructor
  · rw [Account.enter, sum, total]
  · simp only [Account.enter, sum]
    split
    · rw [rest]
      omega
    · rename_i enough
      rw [BitVec.lt_def, rest] at enough
      omega
  · simp only [Account.enter, agrees.offset]
  · intro positive more
    apply agrees.room positive
    rintro empty
    apply more
    simp only [Account.enter]
    bv_omega

/-! ## The account that is asked for -/

/-- The account of a call, for the stage before and after it: the bytes counted are those behind the start
    of the buffer and no more than were asked for, no packet is added, the next transaction takes no more
    than is left, and the result is no longer than what has been moved. -/
structure PacketAccount (before after : TransferStageData) (moved : Nat) : Prop where
  total_le : after.totalBytesTransfered ≤ after.transferSize
  pointer : after.bufferOffset = after.totalBytesTransfered
  packets_le : after.packets ≤ before.packets
  left : after.totalBytesTransfered < after.transferSize →
    after.bytesPerTransaction ≤ after.transferSize - after.totalBytesTransfered
  result_le : (resultLen after).toNat ≤ moved

instance (before after : TransferStageData) (moved : Nat) : Decidable (PacketAccount before after moved) :=
  decidable_of_iff
    (after.totalBytesTransfered ≤ after.transferSize ∧ after.bufferOffset = after.totalBytesTransfered ∧
      after.packets ≤ before.packets ∧
      (after.totalBytesTransfered < after.transferSize →
        after.bytesPerTransaction ≤ after.transferSize - after.totalBytesTransfered) ∧
      (resultLen after).toNat ≤ moved)
    ⟨fun ⟨total, pointer, packets, left, result⟩ => ⟨total, pointer, packets, left, result⟩,
      fun ⟨total, pointer, packets, left, result⟩ => ⟨total, pointer, packets, left, result⟩⟩

theorem resultLen_of_le (le : stage.totalBytesTransfered ≤ stage.transferSize) :
    resultLen stage = stage.totalBytesTransfered := by
  rw [resultLen, if_neg (BitVec.not_lt.mpr le)]

/-- An account that agrees is what is asked for. -/
theorem Account.Agrees.accounted (agrees : (accountOf after).Agrees moved)
    (packets_le : after.packets ≤ stage.packets) : PacketAccount stage after moved := by
  have fits : after.totalBytesTransfered.toNat + after.bytesPerTransaction.toNat ≤ after.transferSize.toNat :=
    agrees.fits
  have total : after.totalBytesTransfered.toNat = moved := agrees.total
  have total_le : after.totalBytesTransfered ≤ after.transferSize := by
    rw [BitVec.le_def]
    omega
  refine ⟨total_le, agrees.offset, packets_le, ?_, ?_⟩
  · intro _
    rw [BitVec.le_def, BitVec.toNat_sub_of_le total_le]
    omega
  · rw [resultLen_of_le total_le, total]

/-! ## Runs -/

/-- A stage with the bytes that the controller has reported as moved. -/
structure CountedStage where
  stage : TransferStageData
  moved : Nat

/-- The bytes that an event reports as moved. -/
def movedBy (stage : TransferStageData) : StageEvent → Nat
  | .interrupt status _ bytesLeft _ =>
    if reports status stage && counts status then (bytesMoved bytesLeft stage).toNat else 0
  | .interval _ => 0

def countedStep (endpoint : Endpoint) (counted : CountedStage) (event : StageEvent) : Option CountedStage :=
  (stageStep endpoint counted.stage event).map fun stage => ⟨stage, counted.moved + movedBy counted.stage event⟩

/-- The controller reports no more as left than it was given. -/
def ReportsWithin (counted : CountedStage) : StageEvent → Prop
  | .interrupt status packetsLeft bytesLeft _ =>
    reports status counted.stage = true →
      packetsLeft ≤ counted.stage.packetsPerTransaction ∧ bytesLeft ≤ counted.stage.bytesPerTransaction
  | .interval _ => True

/-- What is asked of the account after a call. -/
def AccountedAfter (counted : CountedStage) : StageEvent → Prop
  | .interrupt status packetsLeft bytesLeft hardware =>
    reports status counted.stage = true →
      PacketAccount counted.stage (countTransaction status packetsLeft bytesLeft counted.stage)
        (counted.moved + movedBy counted.stage (.interrupt status packetsLeft bytesLeft hardware))
  | .interval _ => True

/-- A packet that a split transaction reports as moved is one of those that are left, and if
    it is a complete split for which bytes are left, it comes with bytes. -/
def PacketFits (counted : CountedStage) : StageEvent → Prop
  | .interrupt status packetsLeft bytesLeft _ =>
    reports status counted.stage = true → counts status = true → counted.stage.splitTransaction = true →
      packetsLeft < counted.stage.packetsPerTransaction →
        counted.stage.packets ≠ 0 ∧
          ¬ (counted.stage.splitComplete = true ∧ 0 < counted.stage.bytesPerTransaction ∧
            bytesLeft = counted.stage.bytesPerTransaction)
  | .interval _ => True

instance (counted : CountedStage) : ∀ event, Decidable (ReportsWithin counted event)
  | .interrupt _ _ _ _ => inferInstanceAs (Decidable (_ → _))
  | .interval _ => inferInstanceAs (Decidable True)

instance (counted : CountedStage) : ∀ event, Decidable (AccountedAfter counted event)
  | .interrupt _ _ _ _ => inferInstanceAs (Decidable (_ → _))
  | .interval _ => inferInstanceAs (Decidable True)

/-- How a stage is split into transactions.  One that is not is never reported again after
    it has been counted, as it leaves its channel. -/
structure Paced (stage : TransferStageData) : Prop where
  single : stage.splitTransaction = true → stage.packetsPerTransaction = 1
  whole : stage.splitTransaction = false → stage.packets = stage.packetsPerTransaction ∧
    (stage.state = .noSplitTransfer ∨ stage.state = .periodicDelay)

/-- The invariant of a run: the account agrees as long as every call has been right. -/
structure AccountInv (counted : CountedStage) : Prop where
  agrees : (accountOf counted.stage).Agrees counted.moved
  paced : Paced counted.stage

/-- If packets are counted, one more of them does not wrap. -/
theorem packetCount_room {transferSize maxPacketSize packets : BitVec 32}
    (counted : packetCount transferSize maxPacketSize = some packets) (positive : 0 < transferSize.toNat)
    (more : packets ≠ 0) :
    0 < maxPacketSize.toNat ∧ transferSize.toNat + maxPacketSize.toNat ≤ 2 ^ 32 := by
  rw [packetCount] at counted
  split at counted
  · cases counted
  · rename_i ends
    rw [← Option.some.inj counted] at more
    -- A packet is left only if the size that is rounded up is as large as one.
    have enough : maxPacketSize.toNat ≤ (transferSize + maxPacketSize - 1).toNat - 1 := by
      by_contra few
      apply more
      rw [Nat.div_eq_of_lt (by omega)]
      rfl
    have size : 0 < (transferSize + maxPacketSize - 1).toNat := by
      by_contra none
      apply more
      rw [show (transferSize + maxPacketSize - 1).toNat = 0 by omega, Nat.zero_sub, Nat.zero_div]
      rfl
    constructor
    · by_contra zero
      exact ends ⟨BitVec.eq_of_toNat_eq (by simpa using zero), size⟩
    · bv_omega

/-- The account agrees when the stage is attached. -/
theorem transferStageDataAttach_agrees {nextPID : PID} {channel : Nat} {urb : Fin maxUsbRequests}
    {request : Request} {isIn statusStage : Bool}
    (attach : transferStageDataAttach endpoint nextPID channel urb request isIn statusStage = some stage) :
    (accountOf stage).Agrees 0 ∧ (stage.splitTransaction = true → stage.packetsPerTransaction = 1) ∧
      (stage.splitTransaction = false → stage.packets = stage.packetsPerTransaction) := by
  rw [transferStageDataAttach] at attach
  split at attach
  · obtain rfl := Option.some.inj attach
    refine ⟨⟨rfl, Nat.le_refl 0, rfl, fun positive => absurd positive (Nat.lt_irrefl 0)⟩, fun _ => rfl, fun _ => rfl⟩
  · rw [Option.map_eq_some_iff] at attach
    obtain ⟨packets, counted, rfl⟩ := attach
    refine ⟨⟨rfl, ?_, rfl, fun positive more => packetCount_room counted positive more⟩, ?_, ?_⟩
    · generalize (if endpointGetNextPID nextPID statusStage = .setup then 8 else request.bufLen) = transferSize
      have nothing : (0 : BitVec 32).toNat = 0 := rfl
      simp only [accountOf, nothing, Nat.zero_add]
      split
      · rename_i larger
        rw [Bool.and_eq_true, decide_eq_true_iff, BitVec.lt_def] at larger
        exact Nat.le_of_lt larger.2
      · exact Nat.le_refl _
    · intro split
      exact if_pos split
    · intro whole
      exact (if_neg (by simpa using whole)).symm

/-- The invariant holds when the stage has been put on its channel. -/
theorem stageStart_accountInv {nextPID : PID} {channel : Nat} {urb : Fin maxUsbRequests}
    {request : Request} {isIn statusStage : Bool}
    (start : stageStart endpoint nextPID channel urb request isIn statusStage hardware = some stage) :
    AccountInv ⟨stage, 0⟩ := by
  rw [stageStart, Option.map_eq_some_iff] at start
  obtain ⟨attached, attach, rfl⟩ := start
  obtain ⟨agrees, single, whole⟩ := transferStageDataAttach_agrees attach
  have scheduled : Rescheduled attached (startedStage hardware (beginStage attached)) :=
    beginStage_rescheduled.trans startedStage_rescheduled
  obtain ⟨split, perTransaction⟩ := scheduled.pace
  have account := scheduled.account
  refine ⟨account ▸ agrees, ⟨?_, ?_⟩⟩
  · rw [split, perTransaction]
    exact single
  · rw [split, perTransaction]
    intro unsplit
    refine ⟨(congrArg Account.packets account).trans (whole unsplit), .inl ?_⟩
    rw [startedStage_state, beginStage, unsplit]
    rfl

/-! ## One event -/

/-- A transaction that is not split leaves the channel when it has been counted. -/
theorem stageNext_whole (state : stage.state = .noSplitTransfer)
    (stays : (stageNext endpoint stage).stage hardware stage = some after) :
    after.state = .periodicDelay ∧ counts stage.transactionStatus = false := by
  simp only [stageNext, state] at stays
  split at stays
  · cases stays
  · split at stays
    · rename_i _ refused
      obtain rfl := Option.some.inj stays
      refine ⟨rfl, ?_⟩
      rw [Bool.and_eq_true] at refused
      have answered := refused.1
      simp only [counts, anySet_or, Bool.or_eq_true, Bool.not_eq_false'] at answered ⊢
      tauto
    · cases stays

theorem countTransaction_state :
    (countTransaction status packetsLeft bytesLeft stage).state = stage.state ∧
      (countTransaction status packetsLeft bytesLeft stage).transactionStatus = status := by
  rw [countTransaction, transactionComplete]
  split
  · exact ⟨rfl, rfl⟩
  · exact ⟨rfl, rfl⟩

/-- A step of a stage that is not split. -/
theorem stageStep_whole {event : StageEvent} (split : stage.splitTransaction = false)
    (state : stage.state = .noSplitTransfer ∨ stage.state = .periodicDelay)
    (step : stageStep endpoint stage event = some after) :
    (after.state = .noSplitTransfer ∨ after.state = .periodicDelay) ∧
      accountOf after = accountOf stage ∧ movedBy stage event = 0 := by
  cases event with
  | interval hardware =>
    rw [stageStep] at step
    split at step
    · obtain rfl := Option.some.inj step
      -- The timer starts the stage again.
      refine ⟨.inl ?_, (beginStage_rescheduled.trans startedStage_rescheduled).account, rfl⟩
      rw [startedStage_state, beginStage, split]
      rfl
    · cases step
  | interrupt status packetsLeft bytesLeft hardware =>
    rw [stageStep] at step
    split at step
    · cases step
    rename_i awake
    have state := state.resolve_right awake
    split at step
    · obtain ⟨same, is⟩ := @countTransaction_state stage status packetsLeft bytesLeft
      obtain ⟨delayed, refused⟩ := stageNext_whole (same.trans state) step
      rw [is] at refused
      refine ⟨.inr delayed, ?_, by simp [movedBy, refused]⟩
      rw [(Reschedules.kept stageNext_reschedules step).account, accountOf_uncounted refused]
    · rename_i silent
      split at step
      · cases step
      · obtain rfl := Option.some.inj step
        exact ⟨.inl (by rw [startedStage_state, state]), startedStage_rescheduled.account, by simp [movedBy, silent]⟩

/-- The pace of a stage is kept by every event. -/
theorem Paced.step {event : StageEvent} (paced : Paced stage) (step : stageStep endpoint stage event = some after) :
    Paced after := by
  have pace : after.splitTransaction = stage.splitTransaction ∧
      after.packetsPerTransaction = stage.packetsPerTransaction := by
    obtain rescheduled | ⟨status, packetsLeft, bytesLeft, _, _, _, rescheduled⟩ := stageStep_rescheduled step
    · exact rescheduled.pace
    · have counted := @countTransaction_pace stage status packetsLeft bytesLeft
      exact ⟨rescheduled.pace.1.trans counted.1, rescheduled.pace.2.trans counted.2⟩
  constructor
  · rw [pace.1, pace.2]
    exact paced.single
  · rw [pace.1, pace.2]
    intro split
    obtain ⟨packets, state⟩ := paced.whole split
    obtain ⟨state, account, _⟩ := stageStep_whole split state step
    exact ⟨(congrArg Account.packets account).trans packets, state⟩

/-- One packet at most is reported for a split transaction. -/
theorem packetsMoved_split (single : stage.packetsPerTransaction = 1) (moves : packetsLeft < stage.packetsPerTransaction) :
    packetsMoved packetsLeft stage = 1 := by
  rw [packetsMoved, single]
  rw [single] at moves
  bv_omega

theorem packetsMoved_none (within : packetsLeft ≤ stage.packetsPerTransaction)
    (still : ¬ packetsLeft < stage.packetsPerTransaction) : packetsMoved packetsLeft stage = 0 := by
  rw [packetsMoved]
  bv_omega

/-- A report that is counted as it is keeps the account. -/
theorem counted_agrees (agrees : (accountOf stage).Agrees moved) (taken : counts status = true)
    (within : bytesLeft ≤ stage.bytesPerTransaction)
    (same : bytesCounted packetsLeft bytesLeft stage = bytesMoved bytesLeft stage)
    (left : packetsMoved packetsLeft stage ≤ stage.packets) :
    (accountOf (countTransaction status packetsLeft bytesLeft stage)).Agrees
        (moved + (bytesMoved bytesLeft stage).toNat) ∧
      (countTransaction status packetsLeft bytesLeft stage).packets ≤ stage.packets := by
  rw [accountOf_counted taken, same]
  have some : bytesMoved bytesLeft stage ≤ stage.bytesPerTransaction := by
    rw [bytesMoved]
    bv_omega
  refine ⟨agrees.enter some left, ?_⟩
  have packets := congrArg Account.packets (@accountOf_counted stage status packetsLeft bytesLeft taken)
  simp only [accountOf, Account.enter] at packets
  rw [packets]
  bv_omega

/-- A packet that was not left is taken below zero. -/
theorem uncounted_packet (taken : counts status = true) (moves : packetsMoved packetsLeft stage = 1)
    (empty : stage.packets = 0) :
    ¬ PacketAccount stage (countTransaction status packetsLeft bytesLeft stage) moved := by
  intro accounted
  have packets := congrArg Account.packets (@accountOf_counted stage status packetsLeft bytesLeft taken)
  simp only [accountOf, Account.enter] at packets
  have packets_le := accounted.packets_le
  rw [packets, moves, empty] at packets_le
  exact absurd packets_le (by decide)

/-- Where a complete split is silent, a whole packet is counted that nobody has sent. -/
theorem silent_packet (agrees : (accountOf stage).Agrees moved) (taken : counts status = true)
    (moves : packetsMoved packetsLeft stage = 1) (more : stage.packets ≠ 0) (isSilent : silent bytesLeft stage = true) :
    ¬ PacketAccount stage (countTransaction status packetsLeft bytesLeft stage) moved := by
  intro accounted
  have account := @accountOf_counted stage status packetsLeft bytesLeft taken
  have transferSize := congrArg Account.transferSize account
  have total := congrArg Account.total account
  simp only [accountOf, Account.enter, bytesCounted, isSilent, if_true, moves] at transferSize total
  have positive : 0 < stage.bytesPerTransaction.toNat := by
    simp only [silent, Bool.and_eq_true, decide_eq_true_iff] at isSilent
    exact isSilent.2
  have fits : stage.totalBytesTransfered.toNat + stage.bytesPerTransaction.toNat ≤ stage.transferSize.toNat :=
    agrees.fits
  -- A packet that is left has room in a word, so that the sum below does not wrap.
  obtain ⟨size, room⟩ := agrees.room (show 0 < stage.transferSize.toNat by omega) more
  have counted : stage.totalBytesTransfered.toNat = moved := agrees.total
  have sum : (stage.totalBytesTransfered + stage.maxPacketSize * 1).toNat =
      stage.totalBytesTransfered.toNat + stage.maxPacketSize.toNat := by
    have room' : stage.transferSize.toNat + stage.maxPacketSize.toNat ≤ 2 ^ 32 := room
    have whole : stage.maxPacketSize * 1 = stage.maxPacketSize := BitVec.mul_one _
    rw [whole, BitVec.toNat_add, Nat.mod_eq_of_lt (by omega)]
  have result := accounted.result_le
  rw [resultLen_of_le accounted.total_le, total, sum] at result
  have size' : 0 < stage.maxPacketSize.toNat := size
  omega

theorem silent_iff (within : bytesLeft ≤ stage.bytesPerTransaction) :
    silent bytesLeft stage = true ↔ stage.splitTransaction = true ∧ stage.splitComplete = true ∧
      0 < stage.bytesPerTransaction ∧ bytesLeft = stage.bytesPerTransaction := by
  have same : bytesMoved bytesLeft stage = 0 ↔ bytesLeft = stage.bytesPerTransaction := by
    rw [bytesMoved]
    constructor
    · intro none
      bv_omega
    · rintro rfl
      exact BitVec.sub_self _
  simp only [silent, Bool.and_eq_true, beq_iff_eq, decide_eq_true_iff, same]
  tauto

/-- After a report that is counted the account is right exactly where the report fits, and then the account
    agrees with what has been moved. -/
def CountsRight (status packetsLeft bytesLeft : BitVec 32) (stage : TransferStageData) (moved : Nat) (fits : Prop) :
    Prop :=
  (PacketAccount stage (countTransaction status packetsLeft bytesLeft stage)
      (moved + (bytesMoved bytesLeft stage).toNat) ↔ fits) ∧
    (fits → (accountOf (countTransaction status packetsLeft bytesLeft stage)).Agrees
      (moved + (bytesMoved bytesLeft stage).toNat))

/-- What is counted as reported keeps the account. -/
theorem countsRight_of_same {fits : Prop} (agrees : (accountOf stage).Agrees moved) (taken : counts status = true)
    (within : bytesLeft ≤ stage.bytesPerTransaction)
    (same : bytesCounted packetsLeft bytesLeft stage = bytesMoved bytesLeft stage)
    (left : packetsMoved packetsLeft stage ≤ stage.packets) (holds : fits) :
    CountsRight status packetsLeft bytesLeft stage moved fits := by
  obtain ⟨after, packets⟩ := counted_agrees agrees taken within same left
  exact ⟨⟨fun _ => holds, fun _ => after.accounted packets⟩, fun _ => after⟩

/-- A report for a stage that is not split. -/
theorem countsRight_whole {fits : Prop} (agrees : (accountOf stage).Agrees moved) (taken : counts status = true)
    (within : packetsLeft ≤ stage.packetsPerTransaction ∧ bytesLeft ≤ stage.bytesPerTransaction)
    (split : stage.splitTransaction = false) (packets : stage.packets = stage.packetsPerTransaction) (holds : fits) :
    CountsRight status packetsLeft bytesLeft stage moved fits := by
  apply countsRight_of_same agrees taken within.2 _ _ holds
  · simp [bytesCounted, silent, split]
  · rw [packets, packetsMoved]
    have := within.1
    bv_omega

/-- A packet that is reported for a split stage. -/
theorem countsRight_packet (agrees : (accountOf stage).Agrees moved) (taken : counts status = true)
    (within : bytesLeft ≤ stage.bytesPerTransaction) (split : stage.splitTransaction = true)
    (one : packetsMoved packetsLeft stage = 1) :
    CountsRight status packetsLeft bytesLeft stage moved
      (stage.packets ≠ 0 ∧ ¬ (stage.splitComplete = true ∧ 0 < stage.bytesPerTransaction ∧
        bytesLeft = stage.bytesPerTransaction)) := by
  by_cases empty : stage.packets = 0
  · have wrong := @uncounted_packet stage status packetsLeft bytesLeft
      (moved + (bytesMoved bytesLeft stage).toNat) taken one empty
    simp [CountsRight, wrong, empty]
  · cases isSilent : silent bytesLeft stage with
    | true =>
      have none : bytesMoved bytesLeft stage = 0 := by
        simp only [silent, Bool.and_eq_true, beq_iff_eq] at isSilent
        exact isSilent.1.2
      have wrong := silent_packet agrees taken one empty isSilent
      have holds := ((silent_iff within).mp isSilent).2
      have zero : (0 : BitVec 32).toNat = 0 := rfl
      rw [CountsRight, none, zero, Nat.add_zero]
      refine ⟨⟨fun accounted => absurd accounted wrong, fun fits => absurd holds fits.2⟩, ?_⟩
      exact fun fits => absurd holds fits.2
    | false =>
      have heard : ¬ (stage.splitComplete = true ∧ 0 < stage.bytesPerTransaction ∧
          bytesLeft = stage.bytesPerTransaction) := by
        intro holds
        rw [(silent_iff within).mpr ⟨split, holds⟩] at isSilent
        cases isSilent
      apply countsRight_of_same agrees taken within
      · simp [bytesCounted, isSilent]
      · rw [one]
        bv_omega
      · exact ⟨empty, heard⟩

/-- No packet is reported, so that nothing is added in its place. -/
theorem countsRight_none {fits : Prop} (agrees : (accountOf stage).Agrees moved) (taken : counts status = true)
    (within : bytesLeft ≤ stage.bytesPerTransaction) (none : packetsMoved packetsLeft stage = 0) (holds : fits) :
    CountsRight status packetsLeft bytesLeft stage moved fits := by
  apply countsRight_of_same agrees taken within _ _ holds
  · rw [bytesCounted, none]
    split
    · rename_i isSilent
      simp only [silent, Bool.and_eq_true, beq_iff_eq] at isSilent
      rw [isSilent.1.2]
      exact BitVec.mul_zero
    · rfl
  · rw [none, BitVec.le_def]
    exact Nat.zero_le _

/-- A call is right exactly where its packet fits, and then the account agrees again. -/
theorem AccountInv.reported {counted : CountedStage} (inv : AccountInv counted)
    (reported : reports status counted.stage = true)
    (within : packetsLeft ≤ counted.stage.packetsPerTransaction ∧ bytesLeft ≤ counted.stage.bytesPerTransaction) :
    (AccountedAfter counted (.interrupt status packetsLeft bytesLeft hardware) ↔
        PacketFits counted (.interrupt status packetsLeft bytesLeft hardware)) ∧
      (PacketFits counted (.interrupt status packetsLeft bytesLeft hardware) →
        (accountOf (countTransaction status packetsLeft bytesLeft counted.stage)).Agrees
          (counted.moved + movedBy counted.stage (.interrupt status packetsLeft bytesLeft hardware))) := by
  obtain ⟨stage, moved⟩ := counted
  obtain ⟨agrees, paced⟩ := inv
  simp only at agrees paced reported within
  simp only [AccountedAfter, PacketFits, movedBy, reported, forall_const, Bool.true_and]
  cases taken : counts status with
  | false =>
    -- nothing is counted
    have same := @accountOf_uncounted stage status packetsLeft bytesLeft taken
    have after := same ▸ agrees
    have packets : (countTransaction status packetsLeft bytesLeft stage).packets ≤ stage.packets :=
      BitVec.le_of_eq (congrArg Account.packets same)
    simp only [Bool.false_eq_true, if_false, Nat.add_zero, false_implies, iff_true, forall_const]
    exact ⟨after.accounted packets, after⟩
  | true =>
    simp only [if_true, forall_const]
    cases split : stage.splitTransaction with
    | false => exact countsRight_whole agrees taken within split (paced.whole split).1 (by simp)
    | true =>
      by_cases moves : packetsLeft < stage.packetsPerTransaction
      · simp only [moves, forall_const]
        exact countsRight_packet agrees taken within.2 split (packetsMoved_split (paced.single split) moves)
      · exact countsRight_none agrees taken within.2 (packetsMoved_none within.1 moves) (by simp [moves])

/-- The step of a run: a call is right exactly where its packet fits, and after a right call
    the invariant holds. -/
theorem AccountInv.step {counted : CountedStage} {event : StageEvent} (inv : AccountInv counted)
    (within : ReportsWithin counted event) :
    (AccountedAfter counted event ↔ PacketFits counted event) ∧
      (AccountedAfter counted event → ∀ next ∈ countedStep endpoint counted event, AccountInv next) := by
  have kept {after : TransferStageData} (step : stageStep endpoint counted.stage event = some after)
      (agrees : (accountOf after).Agrees (counted.moved + movedBy counted.stage event)) :
      AccountInv ⟨after, counted.moved + movedBy counted.stage event⟩ := ⟨agrees, inv.paced.step step⟩
  have stays {next : CountedStage} (steps : next ∈ countedStep endpoint counted event) :
      ∃ after, stageStep endpoint counted.stage event = some after ∧
        next = ⟨after, counted.moved + movedBy counted.stage event⟩ := by
    rw [countedStep, Option.mem_def, Option.map_eq_some_iff] at steps
    obtain ⟨after, step, rfl⟩ := steps
    exact ⟨after, step, rfl⟩
  cases event with
  | interval hardware =>
    refine ⟨Iff.rfl, fun _ next steps => ?_⟩
    obtain ⟨after, step, rfl⟩ := stays steps
    apply kept step
    -- The timer reports nothing.
    obtain rescheduled | ⟨_, _, _, _, other, _⟩ := stageStep_rescheduled step
    · rw [rescheduled.account]
      exact inv.agrees
    · cases other
  | interrupt status packetsLeft bytesLeft hardware =>
    cases reported : reports status counted.stage with
    | false =>
      have nothing : movedBy counted.stage (.interrupt status packetsLeft bytesLeft hardware) = 0 := by
        simp [movedBy, reported]
      refine ⟨by simp [AccountedAfter, PacketFits, reported], fun _ next steps => ?_⟩
      obtain ⟨after, step, rfl⟩ := stays steps
      apply kept step
      obtain rescheduled | ⟨_, _, _, _, same, reported', _⟩ := stageStep_rescheduled step
      · rw [rescheduled.account, nothing]
        exact inv.agrees
      · cases same
        rw [reported] at reported'
        cases reported'
    | true =>
      obtain ⟨right, agrees⟩ := @AccountInv.reported hardware status packetsLeft bytesLeft counted inv reported
        (within reported)
      refine ⟨right, fun accounted next steps => ?_⟩
      obtain ⟨after, step, rfl⟩ := stays steps
      apply kept step
      have after_call := agrees (right.mp accounted)
      -- the stage is scheduled after the call and keeps its account
      rw [stageStep] at step
      split at step
      · cases step
      · rw [(Reschedules.kept stageNext_reschedules step).account]
        exact after_call

/-- In every run of a transfer whose reports are within what was asked for, every call leaves
    the account right if and only if every packet that is reported fits. -/
theorem transfer_accounted_iff (endpoint : Endpoint) (nextPID : PID) (channel : Nat) (urb : Fin maxUsbRequests)
    (request : Request) (isIn statusStage : Bool) (hardware : Hardware) (stage : TransferStageData)
    (start : stageStart endpoint nextPID channel urb request isIn statusStage hardware = some stage)
    (events : List StageEvent) (within : Along (countedStep endpoint) ReportsWithin events ⟨stage, 0⟩) :
    Along (countedStep endpoint) AccountedAfter events ⟨stage, 0⟩ ↔
      Along (countedStep endpoint) PacketFits events ⟨stage, 0⟩ :=
  within.congr AccountInv (stageStart_accountInv start) fun _ _ inv within => inv.step within

/-! ## A read behind a hub -/

/-- A bulk endpoint of a full speed device behind a hub. -/
def bulkBehindHub : Endpoint := ⟨.bulk, true, 64, 0, .full, 1⟩

/-- A read of so many bytes on it, once it has its channel. -/
def readBehindHub (size : BitVec 32) : Option TransferStageData :=
  stageStart bulkBehindHub .data0 0 firstSlot { endpoint := some 0, buffer := some 0x1000, bufLen := size } true false {}

/-- The start split of a packet has been accepted, then its complete split has ended. -/
def splitPacket (size bytesLeft : BitVec 32) : List StageEvent :=
  [.interrupt (hcIntAck ||| hcIntChHltd) 1 size {}, .interrupt (hcIntXferComp ||| hcIntAck ||| hcIntChHltd) 0 bytesLeft {}]

/-- Seventy bytes in two packets, with the bytes of each reported. -/
theorem transfer_accounted_seventy :
    Along (countedStep bulkBehindHub) AccountedAfter (splitPacket 64 0 ++ splitPacket 6 0)
        ⟨(readBehindHub 70).get (by decide), 0⟩ ↔
      Along (countedStep bulkBehindHub) PacketFits (splitPacket 64 0 ++ splitPacket 6 0)
        ⟨(readBehindHub 70).get (by decide), 0⟩ :=
  transfer_accounted_iff bulkBehindHub .data0 0 firstSlot _ true false {} _ (Option.some_get _).symm _ (by decide)

/-- Where the complete splits report no bytes, the second packet is counted as whole: 128
    bytes of 70. -/
theorem transfer_overshoots :
    ¬ ∀ (endpoint : Endpoint) (nextPID : PID) (channel : Nat) (urb : Fin maxUsbRequests) (request : Request)
      (isIn statusStage : Bool) (hardware : Hardware) (stage : TransferStageData),
      stageStart endpoint nextPID channel urb request isIn statusStage hardware = some stage →
      ∀ events, Along (countedStep endpoint) ReportsWithin events ⟨stage, 0⟩ →
        Along (countedStep endpoint) AccountedAfter events ⟨stage, 0⟩ := by
  intro right
  have started : readBehindHub 70 = some ((readBehindHub 70).get (by decide)) := (Option.some_get _).symm
  have accounted := right bulkBehindHub .data0 0 firstSlot _ true false {} _ started
    (splitPacket 64 64 ++ splitPacket 6 6) (by decide)
  exact absurd accounted (by decide)

end ComputerSystems.Verified
