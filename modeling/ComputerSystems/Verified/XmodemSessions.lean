import ComputerSystems.Data.Run
import ComputerSystems.Verified.XmodemReceiver
import Mathlib.Order.Interval.Finset.Nat

/-! # XMODEM sessions

The block counter says whether a session is in progress: `XmodemStart` refuses to start one
unless it is 0.  A log is kept of what is seen of a session: the bytes of the packet in
progress, how often the timer has expired since the session began or a packet was
completed, and the blocks that were accepted.

A packet is accepted only with a number up to that of the expected block, so that the
blocks accepted are all those up to the highest one.  The number 0 is accepted as well,
while the first 256 blocks are received.
-/

namespace ComputerSystems.Verified

open ComputerSystems.Data ComputerSystems.System

/-! ## The log of a session -/

structure SessionLog where
  position : Nat := 0
  expirations : Nat := 0
  blocks : Finset Nat := ∅

/-- The timer has expired or not when a poll begins. -/
def SessionLog.begin (expired : Prop) [Decidable expired] (log : SessionLog) : SessionLog :=
  if expired then { log with position := 0, expirations := log.expirations + 1 } else log

/-- A byte is received or not, and a block is accepted or not.  The last byte of a packet
    completes it. -/
def SessionLog.read (available : Option UInt8) (accepted : Option Nat) (log : SessionLog) : SessionLog :=
  let blocks := log.blocks ∪ accepted.toFinset
  match available with
  | none => { log with blocks }
  | some _ =>
    if log.position + 1 = xmodemPacketSize then { position := 0, expirations := 0, blocks }
    else { log with position := log.position + 1, blocks }

/-- The block that a poll has copied to the destination. -/
def XmodemResult.accepted (result : XmodemResult) : Option Nat :=
  result.copied.map fun _ => (result.state.block - 1).toNat

/-- The timer has expired when the poll begins. -/
def Expired (state : XmodemState) (input : XmodemInput) : Prop := timerRemaining state.packetTimer input.now = 0

instance (state : XmodemState) (input : XmodemInput) : Decidable (Expired state input) :=
  inferInstanceAs (Decidable (_ = _))

/-- The log after a poll in `state`. -/
def SessionLog.poll (state : XmodemState) (input : XmodemInput) (log : SessionLog) : SessionLog :=
  (log.begin (Expired state input)).read input.available
    (XmodemResult.accepted (xmodemPoll input.now input.available state))

/-- The state of XMODEM, and the log of the session in progress. -/
structure XmodemSystem where
  state : XmodemState
  session : Option SessionLog

/-- `XmodemStart` is called, or the one who started the session polls it. -/
inductive XmodemEvent where
  | start (destination : Memory) (length : BitVec 32)
  | poll (input : XmodemInput)

/-- A session begins when `XmodemStart` succeeds and ends when a poll returns
    `TASK_FINISHED`. -/
def systemStep (system : XmodemSystem) : XmodemEvent → Option XmodemSystem
  | .start destination length =>
    match xmodemStart destination length system.state with
    | none => some system
    | some state => some { state, session := some {} }
  | .poll input =>
    system.session.map fun log =>
      let result := xmodemPoll input.now input.available system.state
      { state := result.state
        session := if result.status = taskFinished then none else some (log.poll system.state input) }

/-- The state that `XmodemInit` leaves. -/
def systemInit : XmodemSystem := { state := xmodemInit, session := none }

/-- `EOT` is received at the start of a packet, or the timer expires for the 31st time since
    the session began or a packet was completed. -/
def MustFinish (log : SessionLog) (state : XmodemState) (input : XmodemInput) : Prop :=
  (input.available = some eot ∧ (log.begin (Expired state input)).position = 0) ∨
    (Expired state input ∧ (log.begin (Expired state input)).expirations = xmodemDataRetry + 1)

/-- A session is refused exactly while one is in progress.  A poll finishes the session
    exactly when it must; the block counter is 0 then and positive otherwise. -/
def SessionsExclude (system : XmodemSystem) : XmodemEvent → Prop
  | .start destination length => xmodemStart destination length system.state = none ↔ system.session.isSome
  | .poll input => ∀ log ∈ system.session,
    let result := xmodemPoll input.now input.available system.state
    (result.status = taskFinished ↔ MustFinish log system.state input) ∧
      (result.status = taskFinished → result.state.block = 0) ∧
      (result.status ≠ taskFinished → 1 ≤ result.state.block.toInt)

/-- The session has accepted fewer than `2 ^ 31 - 256` blocks. -/
def FewBlocks (system : XmodemSystem) (_ : XmodemEvent) : Prop :=
  ∀ log ∈ system.session, log.blocks.card < 2 ^ 31 - 256

/-! ## The blocks accepted -/

/-- The blocks accepted are those from `first`, which is 0 or 1, up to `highest`, and the
    block expected follows one of them. -/
structure BlocksSeen (block first highest : Nat) (blocks : Finset Nat) : Prop where
  low : first ≤ 1
  range : blocks = Finset.Icc first highest
  positive : 1 ≤ block
  bound : block ≤ highest + 1
  follows : first = 1 → 1 ≤ highest → 2 ≤ block

variable {block first highest number : Nat} {blocks : Finset Nat}

theorem BlocksSeen.highest_le_card (seen : BlocksSeen block first highest blocks) : highest ≤ blocks.card := by
  have := seen.low
  rw [seen.range, Nat.card_Icc]
  omega

/-- A packet that is accepted has a number up to that of the expected block. -/
theorem BlocksSeen.accept (seen : BlocksSeen block first highest blocks) (below : number ≤ block) :
    ∃ first highest, BlocksSeen (number + 1) first highest (insert number blocks) := by
  have := seen.low
  have := seen.bound
  have members : ∀ n, n ∈ insert number blocks ↔ n = number ∨ first ≤ n ∧ n ≤ highest := by
    intro n
    rw [Finset.mem_insert, seen.range, Finset.mem_Icc]
  by_cases zero : number = 0
  · refine ⟨0, highest, ⟨by omega, ?_, by omega, by omega, by omega⟩⟩
    ext n
    rw [members, Finset.mem_Icc]
    omega
  · refine ⟨first, max highest number, ⟨by omega, ?_, by omega, by omega, by omega⟩⟩
    ext n
    rw [members, Finset.mem_Icc]
    omega

/-! ## One poll -/

variable {state : XmodemState} {log : SessionLog} {now : Nat} {available : Option UInt8} {input : XmodemInput}

/-- The state agrees with the log. -/
structure SessionInv (state : XmodemState) (log : SessionLog) : Prop where
  position : state.i = log.position
  inside : state.i < xmodemPacketSize
  expirations : state.retry = log.expirations
  patient : state.retry ≤ xmodemDataRetry
  seen : ∃ first highest, BlocksSeen state.block.toNat first highest log.blocks

theorem SessionInv.block_le (inv : SessionInv state log) : state.block.toNat ≤ log.blocks.card + 1 := by
  obtain ⟨first, highest, seen⟩ := inv.seen
  have := seen.bound
  have := seen.highest_le_card
  omega

/-- The block that an accepted packet selects is the expected one or one before it. -/
theorem mergeBlock_le {number : UInt8} {block : BitVec 32} (below : number.toNat ≤ block.toNat % 256) :
    (mergeBlock number block).toNat ≤ block.toNat := by
  rw [mergeBlock_toNat]
  omega

/-- A packet that is completed leaves a block counter that follows a block accepted. -/
theorem packet_seen (few : log.blocks.card < 2 ^ 31 - 256)
    (seen : ∃ first highest, BlocksSeen state.block.toNat first highest log.blocks) :
    ∃ first highest, BlocksSeen (xmodemPacket now state).state.block.toNat first highest
      (log.blocks ∪ (XmodemResult.accepted (xmodemPacket now state)).toFinset) := by
  obtain ⟨first, highest, seen⟩ := seen
  cases xmodemPacket_cases now state with
  | inl accepted =>
    obtain ⟨block, _, below, merged, result⟩ := accepted
    have le : block.toNat ≤ state.block.toNat := merged ▸ mergeBlock_le below
    have bound := seen.bound
    have few' := seen.highest_le_card
    have next : (block + 1).toNat = block.toNat + 1 := by bv_omega
    have same : block + 1 - 1 = block := by bv_omega
    have insertion : log.blocks ∪ (some (block + 1 - 1).toNat).toFinset = insert block.toNat log.blocks := by
      rw [same, Option.toFinset_some, Finset.union_comm, ← Finset.insert_eq]
    rw [result]
    simp only [XmodemResult.accepted, Option.map_some, next, insertion]
    exact seen.accept le
  | inr refused =>
    rw [refused.2]
    simp only [XmodemResult.accepted, Option.map_none, Option.toFinset_none, Finset.union_empty]
    exact ⟨first, highest, seen⟩

/-- A packet that is completed begins the next one. -/
theorem packet_restarts (now : Nat) (state : XmodemState) :
    (xmodemPacket now state).state.i = 0 ∧ (xmodemPacket now state).state.retry = 0 ∧
      (xmodemPacket now state).status = taskReady := by
  cases xmodemPacket_cases now state with
  | inl accepted =>
    obtain ⟨block, _, _, _, result⟩ := accepted
    rw [result]
    exact ⟨rfl, rfl, rfl⟩
  | inr refused =>
    rw [refused.2]
    exact ⟨rfl, rfl, rfl⟩

/-- What reading a character does in a session. -/
structure ReadsSession (log : SessionLog) (available : Option UInt8) (result : XmodemResult) : Prop where
  finishes : result.status = taskFinished ↔ available = some eot ∧ log.position = 0
  frees : result.status = taskFinished → result.state.block = 0
  keeps : result.status ≠ taskFinished →
    SessionInv result.state (log.read available (XmodemResult.accepted result))

theorem xmodemRead_session (inv : SessionInv state log) (few : log.blocks.card < 2 ^ 31 - 256) (now : Nat)
    (available : Option UInt8) : ReadsSession log available (xmodemRead now available state) := by
  have idle : taskIdle ≠ taskFinished := by decide
  have ready : taskReady ≠ taskFinished := by decide
  obtain ⟨rfl, reads⟩ | ⟨rfl, first, reads⟩ | ⟨character, rfl, inner, more⟩ := xmodemRead_cases now available state
  · -- no character
    rw [reads]
    refine ⟨by simp [idle], fun finished => absurd finished idle, fun _ => ?_⟩
    simp only [SessionLog.read, XmodemResult.accepted, Option.map_none, Option.toFinset_none, Finset.union_empty]
    exact inv
  · -- the end of the transfer
    rw [reads]
    have start : log.position = 0 := inv.position ▸ first
    exact ⟨⟨fun _ => ⟨rfl, start⟩, fun _ => rfl⟩, fun _ => rfl, fun running => absurd rfl running⟩
  · have inner' : ¬ (some character = some eot ∧ log.position = 0) := by
      rintro ⟨ends, start⟩
      exact inner ⟨inv.position.trans start, Option.some.inj ends⟩
    cases more with
    | inl partway =>
      obtain ⟨inside, reads⟩ := partway
      have inside' : ¬ log.position + 1 = xmodemPacketSize := inv.position ▸ inside
      rw [reads]
      refine ⟨iff_of_false ready inner', fun finished => absurd finished ready, fun _ => ?_⟩
      simp only [SessionLog.read, XmodemResult.accepted, if_neg inside', Option.map_none, Option.toFinset_none,
        Finset.union_empty]
      exact ⟨congrArg (· + 1) inv.position, Nat.lt_of_le_of_ne inv.inside inside, inv.expirations, inv.patient,
        inv.seen⟩
    | inr entire =>
      obtain ⟨last, reads⟩ := entire
      have last' : log.position + 1 = xmodemPacketSize := inv.position ▸ last
      obtain ⟨start, retry, status⟩ := packet_restarts now (collect character state)
      have seen := @packet_seen (collect character state) log now few inv.seen
      rw [reads]
      refine ⟨iff_of_false (by simp [status, ready]) inner', fun finished => ?_, fun _ => ?_⟩
      · exact absurd (status.symm.trans finished) ready
      · simp only [SessionLog.read, if_pos last']
        exact ⟨start, by rw [start]; decide, retry, by rw [retry]; decide, seen⟩

/-- What a poll does in a session. -/
structure PollsSession (log : SessionLog) (state : XmodemState) (input : XmodemInput) (result : XmodemResult) :
    Prop where
  finishes : result.status = taskFinished ↔ MustFinish log state input
  frees : result.status = taskFinished → result.state.block = 0
  keeps : result.status ≠ taskFinished → SessionInv result.state (log.poll state input)

/-- The log when a poll begins with a timeout. -/
theorem SessionInv.restart (inv : SessionInv state log) (patient : state.retry < xmodemDataRetry) (now : Nat) :
    SessionInv (restart now state) { log with position := 0, expirations := log.expirations + 1 } :=
  ⟨rfl, show 0 < xmodemPacketSize by decide, congrArg (· + 1) inv.expirations, patient, inv.seen⟩

theorem xmodemPoll_session (inv : SessionInv state log) (few : log.blocks.card < 2 ^ 31 - 256) (input : XmodemInput) :
    PollsSession log state input (xmodemPoll input.now input.available state) := by
  obtain ⟨running, polls⟩ | ⟨expired, patient, polls⟩ | ⟨expired, exhausted, polls⟩ :=
    xmodemPoll_cases input.now input.available state
  -- the timer is running: the poll only reads
  · have begins : log.begin (Expired state input) = log := if_neg running
    have reads := xmodemRead_session inv few input.now input.available
    refine ⟨?_, ?_, ?_⟩
    · rw [MustFinish, begins, polls, reads.finishes]
      exact (or_iff_left fun both => running both.1).symm
    · rw [polls]
      exact reads.frees
    · rw [SessionLog.poll, begins, polls]
      exact reads.keeps
  · have begins : log.begin (Expired state input) =
        { log with position := 0, expirations := log.expirations + 1 } := if_pos expired
    have reads := xmodemRead_session (inv.restart patient input.now) few input.now input.available
    have counted := inv.expirations
    -- the timer has expired and is started again, and the packet in progress is given up
    have waits : ¬ (Expired state input ∧ log.expirations + 1 = xmodemDataRetry + 1) := by
      rintro ⟨_, last⟩
      omega
    refine ⟨?_, ?_, ?_⟩
    · rw [MustFinish, begins, polls, reads.finishes]
      exact (or_iff_left waits).symm
    · rw [polls]
      exact reads.frees
    · rw [SessionLog.poll, begins, polls]
      exact reads.keeps
  · have begins : log.begin (Expired state input) =
        { log with position := 0, expirations := log.expirations + 1 } := if_pos expired
    -- the retries are used up, which ends the session before anything is read
    have last : log.expirations + 1 = xmodemDataRetry + 1 := by
      rw [← inv.expirations, Nat.le_antisymm inv.patient exhausted]
    rw [polls]
    refine ⟨iff_of_true rfl (.inr ⟨expired, ?_⟩), fun _ => rfl, fun running => absurd rfl running⟩
    rw [begins]
    exact last

/-! ## Sessions -/

/-- While a session is in progress the state agrees with its log; otherwise the block
    counter is 0. -/
def SystemInv (system : XmodemSystem) : Prop :=
  match system.session with
  | none => system.state.block = 0
  | some log => SessionInv system.state log

theorem SessionInv.block_positive (inv : SessionInv state log) (few : log.blocks.card ≤ 2 ^ 31 - 256) :
    1 ≤ state.block.toInt := by
  obtain ⟨first, highest, seen⟩ := inv.seen
  have positive := seen.positive
  have bound := inv.block_le
  rw [BitVec.toInt_eq_toNat_of_lt (by omega)]
  omega

theorem SessionInv.block_ne_zero (inv : SessionInv state log) : state.block ≠ 0 := by
  obtain ⟨first, highest, seen⟩ := inv.seen
  intro zero
  have positive := seen.positive
  rw [zero] at positive
  exact absurd positive (by decide)

/-- A poll adds the block that it accepts. -/
theorem SessionLog.poll_blocks (log : SessionLog) (state : XmodemState) (input : XmodemInput) :
    (log.poll state input).blocks =
      log.blocks ∪ (XmodemResult.accepted (xmodemPoll input.now input.available state)).toFinset := by
  have begins : (log.begin (Expired state input)).blocks = log.blocks := by
    rw [SessionLog.begin]
    split
    · rfl
    · rfl
  rw [← begins, SessionLog.poll]
  cases input.available with
  | none => rfl
  | some character =>
    simp only [SessionLog.read]
    split
    · rfl
    · rfl

theorem SessionLog.poll_card (log : SessionLog) (state : XmodemState) (input : XmodemInput) :
    (log.poll state input).blocks.card ≤ log.blocks.card + 1 := by
  rw [SessionLog.poll_blocks]
  refine (Finset.card_union_le _ _).trans (Nat.add_le_add_left ?_ _)
  cases XmodemResult.accepted (xmodemPoll input.now input.available state) with
  | none => exact Nat.zero_le _
  | some block => exact Nat.le_of_eq (Finset.card_singleton block)

/-- A session that has just been started. -/
theorem SessionInv.start {idle : XmodemState} {destination : Memory} {length : BitVec 32}
    (started : xmodemStart destination length idle = some state) : SessionInv state {} := by
  rw [xmodemStart, Option.ite_none_left_eq_some] at started
  obtain rfl := Option.some.inj started.2
  exact ⟨rfl, show 0 < xmodemPacketSize by decide, rfl, Nat.zero_le _, 1, 0,
    ⟨Nat.le_refl 1, rfl, Nat.le_refl 1, Nat.le_refl 1, fun _ none => absurd none (by decide)⟩⟩

theorem systemStep_inv (system : XmodemSystem) (event : XmodemEvent) (inv : SystemInv system)
    (few : FewBlocks system event) :
    SessionsExclude system event ∧ ∀ next ∈ systemStep system event, SystemInv next := by
  obtain ⟨state, session⟩ := system
  cases event with
  | start destination length =>
    cases session with
    | none =>
      have free : ¬ state.block ≠ 0 := not_not.mpr inv
      have started : xmodemStart destination length state = some _ := if_neg free
      refine ⟨by simp [SessionsExclude, started], ?_⟩
      simp only [systemStep, started, Option.mem_def, Option.some.injEq]
      rintro next rfl
      exact SessionInv.start started
    | some log =>
      have refused : xmodemStart destination length state = none := if_pos inv.block_ne_zero
      refine ⟨by simp [SessionsExclude, refused], ?_⟩
      simp only [systemStep, refused, Option.mem_def, Option.some.injEq]
      rintro next rfl
      exact inv
  | poll input =>
    cases session with
    | none => exact ⟨nofun, nofun⟩
    | some log =>
      have few := few log rfl
      have polls := xmodemPoll_session inv few input
      constructor
      · intro _ current
        obtain rfl := Option.some.inj current
        refine ⟨polls.finishes, polls.frees, ?_⟩
        intro running
        -- a poll accepts one block at most, so that the counter does not wrap to 0
        have accepted := log.poll_card state input
        exact (polls.keeps running).block_positive (Nat.le_trans accepted few)
      · simp only [systemStep, Option.map_some, Option.mem_def, Option.some.injEq]
        rintro next rfl
        by_cases finished : (xmodemPoll input.now input.available state).status = taskFinished
        · simp only [SystemInv, if_pos finished]
          exact polls.frees finished
        · simp only [SystemInv, if_neg finished]
          exact polls.keeps finished

/-- From `XmodemInit` on, whatever is received and whenever the timer expires, sessions
    exclude each other and give up, as long as a session has fewer than `2 ^ 31 - 256`
    blocks. -/
theorem xmodem_sessions_exclude (events : List XmodemEvent) (few : Along systemStep FewBlocks events systemInit) :
    Along systemStep SessionsExclude events systemInit :=
  few.invariant SystemInv rfl systemStep_inv

instance (system : XmodemSystem) (event : XmodemEvent) : Decidable (FewBlocks system event) :=
  inferInstanceAs (Decidable (∀ log ∈ system.session, _))

/-- A session that is polled twice, with an attempt to start another one before and behind
    its end. -/
theorem xmodem_sessions_exclude_twice :
    Along systemStep SessionsExclude
      [.start (fun _ => 0) 1024, .poll ⟨1, none⟩, .start (fun _ => 0) 1024, .poll ⟨2, some eot⟩,
        .start (fun _ => 0) 1024] systemInit :=
  xmodem_sessions_exclude _ (by decide)

end ComputerSystems.Verified
