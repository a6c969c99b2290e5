import ComputerSystems.Verified.XmodemSessions
import Mathlib.Order.Lattice.Nat

/-! # The length that an XMODEM transfer reports

At `EOT` the receiver counts 132 bytes, the size of a packet, for each block but the last
one accepted, and goes back from there over end-of-file markers.  What it has received are
128 bytes for each block.  The two agree exactly if the place where it begins to go back is
not behind the data, and there are only markers between the two.
-/

namespace ComputerSystems.Verified

open ComputerSystems.Data ComputerSystems.System

/-! ## Transfers -/

/-- The receiver, and the log of its session. -/
structure XmodemSession where
  state : XmodemState
  log : SessionLog

/-- The session after a poll that does not end it. -/
def sessionStep (session : XmodemSession) (input : XmodemInput) : Option XmodemSession :=
  (xmodemStep session.state input).map fun state => { state, log := session.log.poll session.state input }

/-- The poll reads `EOT` at the start of a packet. -/
def EndsTransfer (state : XmodemState) (input : XmodemInput) : Prop :=
  input.available = some eot ∧
    (¬ Expired state input ∧ state.i = 0 ∨ Expired state input ∧ state.retry < xmodemDataRetry)

/-- The length of the run of end-of-file markers in the `count` bytes in front of `top`. -/
def eofRun (destination : Memory) (top : Int) : Nat → Nat
  | 0 => 0
  | count + 1 => if destination (top - 1) = cpmEof then eofRun destination (top - 1) count + 1 else 0

/-- The highest block accepted. -/
def SessionLog.highest (log : SessionLog) : Nat := log.blocks.sup id

/-- Where the last block ends in the destination. -/
def SessionLog.top (log : SessionLog) : Int := blockOffset (BitVec.ofNat 32 log.highest) + xmodemDataSize

/-- The number of bytes of data received. -/
def SessionLog.received (log : SessionLog) : Nat := xmodemDataSize * log.blocks.card

/-- A byte of the destination to which the transfer has copied a block. -/
def SessionLog.Written (log : SessionLog) (cell : Int) : Prop :=
  ∃ number ∈ log.blocks, blockOffset (BitVec.ofNat 32 number) ≤ cell ∧
    cell < blockOffset (BitVec.ofNat 32 number) + xmodemDataSize

/-- The length is that of the data without the markers at its end, and only bytes that were
    written are read for it. -/
def LengthRight (session : XmodemSession) (input : XmodemInput) : Prop :=
  (xmodemPoll input.now input.available session.state).state.rcvd =
      session.log.received - eofRun session.state.destination session.log.top session.log.received ∧
    ∀ cell ∈ trimReads session.state.destination ((session.state.block - 2) * 132).toInt.toNat,
      session.log.Written cell

/-- The place from which the receiver goes back is in the data, and there are only
    end-of-file markers behind it.  If block 0 was accepted, there is nothing else at all. -/
def LengthSafe (session : XmodemSession) : Prop :=
  let start := 132 * ((session.state.block.toNat : Int) - 2)
  2 ≤ session.state.block.toNat ∧ start ≤ session.log.top ∧
    (∀ cell, start ≤ cell → cell < session.log.top → session.state.destination cell = cpmEof) ∧
    (0 ∈ session.log.blocks →
      ∀ cell, -(xmodemDataSize : Int) ≤ cell → cell < session.log.top → session.state.destination cell = cpmEof)

/-! ## Trailing markers -/

variable {destination : Memory} {top : Int} {count : Nat}

theorem eofRun_le : eofRun destination top count ≤ count := by
  induction count generalizing top with
  | zero => exact Nat.le_refl 0
  | succ count ih =>
    rw [eofRun]
    split
    · exact Nat.succ_le_succ ih
    · exact Nat.zero_le _

/-- Every byte of the run is a marker. -/
theorem eofRun_marker {cell : Int} (lower : top - eofRun destination top count ≤ cell) (upper : cell < top) :
    destination cell = cpmEof := by
  induction count generalizing top with
  | zero =>
    rw [eofRun] at lower
    omega
  | succ count ih =>
    rw [eofRun] at lower
    split at lower
    · rename_i marker
      by_cases last : cell = top - 1
      · rw [last]
        exact marker
      · have inner : top - 1 - eofRun destination (top - 1) count ≤ cell := by omega
        exact ih inner (by omega)
    · omega

/-- The byte in front of the run is none. -/
theorem eofRun_stops (stops : eofRun destination top count < count) :
    destination (top - eofRun destination top count - 1) ≠ cpmEof := by
  induction count generalizing top with
  | zero => omega
  | succ count ih =>
    rw [eofRun] at stops ⊢
    split at stops
    · rename_i marker
      rw [if_pos marker]
      have inner := ih (Nat.lt_of_succ_lt_succ stops)
      have same : top - ((eofRun destination (top - 1) count + 1 : Nat) : Int) - 1 =
          top - 1 - eofRun destination (top - 1) count - 1 := by omega
      rw [same]
      exact inner
    · rename_i other
      rw [if_neg other]
      simpa using other

/-- The loop of `XmodemPoll` removes the run. -/
theorem trimEof_eq (destination : Memory) (rcvd : Nat) :
    trimEof destination rcvd = rcvd - eofRun destination rcvd rcvd := by
  induction rcvd with
  | zero => rfl
  | succ rcvd ih =>
    have last : ((rcvd + 1 : Nat) : Int) - 1 = rcvd := by omega
    rw [trimEof, eofRun, last]
    split
    · rw [ih]
      omega
    · rfl

/-- The loop reads indices below the one it starts from, and the first of these. -/
theorem trimReads_bound {destination : Memory} {rcvd cell : Nat} (read : cell ∈ trimReads destination rcvd) :
    cell < rcvd := by
  induction rcvd with
  | zero => cases read
  | succ rcvd ih =>
    rw [trimReads] at read
    split at read
    · cases read with
      | head => exact Nat.lt_succ_self _
      | tail _ later => exact Nat.lt_succ_of_lt (ih later)
    · rw [List.mem_singleton.mp read]
      exact Nat.lt_succ_self _

theorem trimReads_first {destination : Memory} {rcvd : Nat} : rcvd ∈ trimReads destination (rcvd + 1) := by
  rw [trimReads]
  split
  · exact List.mem_cons_self
  · exact List.mem_singleton_self _

/-- The data between `low` and `top` ends at `position`: behind it there are only markers. -/
structure DataEnd (destination : Memory) (low top position : Int) : Prop where
  lower : low ≤ position
  upper : position ≤ top
  marker : ∀ cell, position ≤ cell → cell < top → destination cell = cpmEof
  stops : low < position → destination (position - 1) ≠ cpmEof

theorem eofRun_dataEnd (destination : Memory) (top : Int) (count : Nat) :
    DataEnd destination (top - count) top (top - eofRun destination top count) := by
  have le := @eofRun_le destination top count
  refine ⟨by omega, by omega, fun cell => eofRun_marker, ?_⟩
  intro inside
  exact eofRun_stops (by omega)

theorem trimEof_dataEnd (destination : Memory) (rcvd : Nat) :
    DataEnd destination 0 rcvd (trimEof destination rcvd) := by
  have le := @eofRun_le destination rcvd rcvd
  have ends := eofRun_dataEnd destination rcvd rcvd
  have position : ((trimEof destination rcvd : Nat) : Int) = rcvd - eofRun destination rcvd rcvd := by
    rw [trimEof_eq]
    omega
  rw [position]
  rwa [Int.sub_self] at ends

/-- Data that begins at `low` has the length that is found from `start` exactly if there
    are only markers behind `start` and, where data begins before 0, no data at all. -/
theorem DataEnd.length_iff {low start position found : Int} (all : DataEnd destination low top position)
    (front : DataEnd destination 0 start found) (begins : low ≤ 0) (inside : start ≤ top) :
    found = position - low ↔
      (∀ cell, start ≤ cell → cell < top → destination cell = cpmEof) ∧
        (low < 0 → ∀ cell, low ≤ cell → cell < top → destination cell = cpmEof) := by
  obtain ⟨lower, upper, marker, stops⟩ := all
  obtain ⟨foundLower, foundUpper, foundMarker, foundStops⟩ := front
  constructor
  · intro same
    -- data before 0 makes the two lengths differ by more than there is behind the data
    have empty : low < 0 → position = low := by
      intro early
      by_contra present
      exact foundStops (by omega) (marker (found - 1) (by omega) (by omega))
    constructor
    · intro cell behind below
      exact marker cell (by omega) below
    · intro early cell behind below
      exact marker cell (by omega) below
  · rintro ⟨behind, nothing⟩
    -- with nothing but markers both ends are at the beginning
    by_cases early : low < 0
    · have empty : position = low := by
        by_contra present
        exact stops (by omega) (nothing early (position - 1) (by omega) (by omega))
      have unfound : found = 0 := by
        by_contra present
        exact foundStops (by omega) (nothing early (found - 1) (by omega) (by omega))
      omega
    · have front : position ≤ start := by
        by_contra later
        exact stops (by omega) (behind (position - 1) (by omega) (by omega))
      -- the two ends are the same, since each stands behind data
      obtain less | same | more := Int.lt_trichotomy found position
      · exact absurd (foundMarker (position - 1) (by omega) (by omega)) (stops (by omega))
      · omega
      · exact absurd (marker (found - 1) (by omega) (by omega)) (foundStops (by omega))

/-! ## The end of a transfer -/

variable {session : XmodemSession} {input : XmodemInput} {state : XmodemState}

/-- The place from which the receiver goes back over markers, or an overflow. -/
theorem finish_start {block : BitVec 32} (positive : 1 ≤ block.toNat) (few : block.toNat ≤ 2 ^ 24 + 1) :
    ((block - 2) * 132).toInt = 132 * ((block.toNat : Int) - 2) ∨
      ((block - 2) * 132).toInt < 0 ∧ 2 ^ 31 ≤ 132 * ((block.toNat : Int) - 2) := by
  by_cases first : block.toNat = 1
  · obtain rfl : block = 1 := BitVec.eq_of_toNat_eq first
    exact .inl (by decide)
  · have unwrapped : ((block - 2) * 132).toNat = (block.toNat - 2) * 132 := by bv_omega
    rw [BitVec.toInt_eq_toNat_cond, unwrapped]
    split
    · exact .inl (by omega)
    · exact .inr (by omega)

/-- A poll that ends a transfer reports the length that its state gives. -/
theorem poll_rcvd (ends : EndsTransfer state input) :
    (xmodemPoll input.now input.available state).state.rcvd = (xmodemFinish state).state.rcvd := by
  obtain ⟨available, begins⟩ := ends
  obtain ⟨running, polls⟩ | ⟨expired, _, polls⟩ | ⟨expired, exhausted, _⟩ :=
    xmodemPoll_cases input.now input.available state
  · have first : state.i = 0 := by
      cases begins with
      | inl running => exact running.2
      | inr late => exact absurd late.1 running
    rw [polls, available]
    simp [xmodemRead, first]
  · rw [polls, available]
    simp [xmodemRead, restart, xmodemFinish]
  · cases begins with
    | inl running => exact absurd expired running.1
    | inr late => exact absurd late.2 (Nat.not_lt.mpr exhausted)

/-- The highest block of a range. -/
theorem BlocksSeen.highest_eq {log : SessionLog} {block first highest : Nat}
    (seen : BlocksSeen block first highest log.blocks) (nonempty : log.blocks.Nonempty) :
    log.highest = highest ∧ first ≤ highest := by
  rw [seen.range, Finset.nonempty_Icc] at nonempty
  refine ⟨?_, nonempty⟩
  apply Nat.le_antisymm
  · apply Finset.sup_le
    intro number member
    rw [seen.range, Finset.mem_Icc] at member
    exact member.2
  · have member : highest ∈ log.blocks := by
      rw [seen.range, Finset.mem_Icc]
      exact ⟨nonempty, Nat.le_refl _⟩
    exact Finset.le_sup (f := id) member

/-- The index of a block, up to block `2 ^ 24`. -/
theorem blockOffset_ofNat {number : Nat} (few : number ≤ 2 ^ 24) :
    blockOffset (BitVec.ofNat 32 number) = ((number : Int) - 1) * 128 := by
  have small : (BitVec.ofNat 32 number).toNat = number := by
    rw [BitVec.toNat_ofNat]
    omega
  by_cases zero : number = 0
  · rw [zero]
    decide
  · rw [blockOffset_eq (by omega) (by omega), small]

/-- The bytes written are those from the first block to the end of the highest one. -/
theorem BlocksSeen.written_iff {log : SessionLog} {block first highest : Nat}
    (seen : BlocksSeen block first highest log.blocks) (few : highest ≤ 2 ^ 24) {cell : Int} :
    log.Written cell ↔ ((first : Int) - 1) * 128 ≤ cell ∧ cell < (highest : Int) * 128 := by
  constructor
  · rintro ⟨number, member, lower, upper⟩
    rw [seen.range, Finset.mem_Icc] at member
    rw [blockOffset_ofNat (Nat.le_trans member.2 few)] at lower upper
    simp only [xmodemDataSize] at upper
    omega
  · rintro ⟨lower, upper⟩
    have member : (cell / 128 + 1).toNat ∈ log.blocks := by
      rw [seen.range, Finset.mem_Icc]
      omega
    have offset : blockOffset (BitVec.ofNat 32 (cell / 128 + 1).toNat) = cell / 128 * 128 := by
      rw [blockOffset_ofNat (by omega)]
      omega
    refine ⟨_, member, ?_, ?_⟩
    · rw [offset]
      omega
    · rw [offset, xmodemDataSize]
      omega

theorem finish_rcvd_of_nonneg (nonneg : 0 ≤ ((state.block - 2) * 132).toInt) :
    (xmodemFinish state).state.rcvd = trimEof state.destination ((state.block - 2) * 132).toInt.toNat := by
  rw [xmodemFinish]
  by_cases positive : ((state.block - 2) * 132).toInt > 0
  · exact if_pos positive
  · have zero : ((state.block - 2) * 132).toInt = 0 := by omega
    simp only [zero]
    rfl

theorem finish_rcvd_of_neg (negative : ((state.block - 2) * 132).toInt < 0) :
    (xmodemFinish state).state.rcvd = ((state.block - 2) * 132).toInt := by
  rw [xmodemFinish]
  exact if_neg (by omega)

/-- The loop reads written bytes only, exactly if it starts inside the data. -/
theorem reads_written_iff {log : SessionLog} {low : Int} {rcvd : Nat} (begins : low ≤ 0) (nonneg : 0 ≤ top)
    (written : ∀ cell, log.Written cell ↔ low ≤ cell ∧ cell < top) :
    (∀ cell ∈ trimReads destination rcvd, log.Written cell) ↔ (rcvd : Int) ≤ top := by
  constructor
  · intro reads
    cases rcvd with
    | zero => exact nonneg
    | succ rcvd =>
      have inside := (written _).mp (reads rcvd trimReads_first)
      omega
  · intro inside cell read
    have below := trimReads_bound read
    exact (written _).mpr (by omega)

theorem lengthRight_iff (inv : SessionInv session.state session.log) (nonempty : session.log.blocks.Nonempty)
    (few : session.log.blocks.card ≤ 2 ^ 24) (ends : EndsTransfer session.state input) :
    LengthRight session input ↔ LengthSafe session := by
  obtain ⟨state, log⟩ := session
  obtain ⟨first, highest, seen⟩ := inv.seen
  obtain ⟨isHighest, ordered⟩ := seen.highest_eq nonempty
  have low := seen.low
  have bound := seen.bound
  have positive := seen.positive
  -- the blocks received are those from `first` to `highest`, and `first` is 0 or 1
  have card : log.blocks.card = highest + 1 - first := by rw [seen.range, Nat.card_Icc]
  have received : (log.received : Int) = highest * 128 - ((first : Int) - 1) * 128 := by
    rw [SessionLog.received, card, xmodemDataSize]
    omega
  have zero : 0 ∈ log.blocks ↔ first = 0 := by
    rw [seen.range, Finset.mem_Icc]
    omega
  have few : highest ≤ 2 ^ 24 := Nat.le_trans seen.highest_le_card few
  have top : log.top = highest * 128 := by
    rw [SessionLog.top, isHighest, blockOffset_ofNat few, xmodemDataSize]
    omega
  have le := @eofRun_le state.destination log.top log.received
  have overflow := finish_start positive (Nat.le_trans bound (Nat.succ_le_succ few))
  rw [LengthRight, LengthSafe, poll_rcvd ends]
  simp only [zero] at overflow ⊢
  by_cases inside : 0 ≤ ((state.block - 2) * 132).toInt
  · have start : (((state.block - 2) * 132).toInt.toNat : Int) = 132 * ((state.block.toNat : Int) - 2) := by omega
    have written (cell : Int) : log.Written cell ↔ log.top - log.received ≤ cell ∧ cell < log.top := by
      rw [seen.written_iff few]
      omega
    -- the end of all the data, and the end that the code finds from its own count
    have all := eofRun_dataEnd state.destination log.top log.received
    have front := trimEof_dataEnd state.destination ((state.block - 2) * 132).toInt.toNat
    have lengths := @DataEnd.length_iff state.destination log.top _ _ _ _ all front (by omega)
    rw [finish_rcvd_of_nonneg inside, reads_written_iff (by omega) (by omega) written, ← start]
    constructor
    · rintro ⟨same, within⟩
      obtain ⟨behind, nothing⟩ := (lengths within).mp (by omega)
      refine ⟨by omega, within, behind, ?_⟩
      intro early cell lower upper
      exact nothing (by omega) cell (by simp only [xmodemDataSize] at lower; omega) upper
    · rintro ⟨_, within, behind, nothing⟩
      have same := (lengths within).mpr ⟨behind, ?_⟩
      · exact ⟨by omega, within⟩
      · intro early cell lower upper
        exact nothing (by omega) cell (by simp only [xmodemDataSize]; omega) upper
  · -- the count is negative: block 0 was the last one accepted, or the product overflows
    rw [finish_rcvd_of_neg (by omega)]
    apply iff_of_false
    · rintro ⟨same, _⟩
      omega
    · rintro ⟨later, within, _⟩
      omega

/-! ## Whole transfers -/

theorem sessionStep_eq {next : XmodemSession} (steps : sessionStep session input = some next) :
    (xmodemPoll input.now input.available session.state).status ≠ taskFinished ∧
      next.state = (xmodemPoll input.now input.available session.state).state ∧
      next.log = session.log.poll session.state input := by
  obtain ⟨state, polled, rfl⟩ := Option.map_eq_some_iff.mp steps
  obtain ⟨running, same⟩ := xmodemStep_eq polled
  exact ⟨running, same, rfl⟩

theorem session_grows {inputs : List XmodemInput} {last : XmodemSession}
    (run : inputs.foldlM sessionStep session = some last) : session.log.blocks ⊆ last.log.blocks := by
  induction inputs generalizing session with
  | nil =>
    obtain rfl := Option.some.inj run
    exact Finset.Subset.refl _
  | cons input inputs ih =>
    rw [List.foldlM_cons, Option.bind_eq_bind, Option.bind_eq_some_iff] at run
    obtain ⟨next, steps, run⟩ := run
    refine Finset.Subset.trans ?_ (ih run)
    rw [(sessionStep_eq steps).2.2, SessionLog.poll_blocks]
    exact Finset.subset_union_left

theorem session_inv {inputs : List XmodemInput} {last : XmodemSession}
    (run : inputs.foldlM sessionStep session = some last) (inv : SessionInv session.state session.log)
    (few : last.log.blocks.card < 2 ^ 31 - 256) : SessionInv last.state last.log := by
  induction inputs generalizing session with
  | nil =>
    obtain rfl := Option.some.inj run
    exact inv
  | cons input inputs ih =>
    have grows := Finset.card_le_card (session_grows run)
    rw [List.foldlM_cons, Option.bind_eq_bind, Option.bind_eq_some_iff] at run
    obtain ⟨next, steps, run⟩ := run
    apply ih run
    obtain ⟨running, state, log⟩ := sessionStep_eq steps
    rw [state, log]
    exact (xmodemPoll_session inv (Nat.lt_of_le_of_lt grows few) input).keeps running

/-- Whatever is received, a transfer that `EOT` ends reports the right length exactly if the
    place where the receiver begins to go back is right for it.  Up to `2 ^ 24` blocks the
    index of a block fits an `int`. -/
theorem xmodem_length_iff (idle : XmodemState) (destination : Memory) (length : BitVec 32) (start : XmodemState)
    (started : xmodemStart destination length idle = some start) (inputs : List XmodemInput) (session : XmodemSession)
    (run : inputs.foldlM sessionStep { state := start, log := {} } = some session)
    (nonempty : session.log.blocks.Nonempty) (few : session.log.blocks.card ≤ 2 ^ 24) (input : XmodemInput)
    (ends : EndsTransfer session.state input) : LengthRight session input ↔ LengthSafe session := by
  have inv := session_inv run (SessionInv.start started) (Nat.lt_of_le_of_lt few (by decide))
  exact lengthRight_iff inv nonempty few ends

/-- The packet with block 1, which holds 128 times `byte`. -/
def uniformPacket (byte checksum : UInt8) : List XmodemInput :=
  receive 0 ([soh, 1, 254] ++ List.replicate 128 byte ++ [checksum])

/-- The session of a receiver that has just been started. -/
def sessionStart : XmodemSession :=
  { state := { xmodemInit with block := 1, length := 1024 }, log := {} }

/-- A block that holds nothing but markers has the length 0. -/
theorem xmodem_length_markers :
    ∃ session, (uniformPacket cpmEof 0).foldlM sessionStep sessionStart = some session ∧
      LengthRight session ⟨0, some eot⟩ := by
  have observed : ((uniformPacket cpmEof 0).foldlM sessionStep sessionStart).map (fun session =>
      (session.log.blocks, session.state.block.toNat, session.state.i,
        decide (Expired session.state ⟨0, some eot⟩),
        decide (∀ cell : Nat, cell < 128 → session.state.destination cell = cpmEof))) =
      some ({1}, 2, 0, false, true) := by decide +kernel
  obtain ⟨session, run, seen⟩ := Option.map_eq_some_iff.mp observed
  simp only [Prod.mk.injEq, decide_eq_true_eq, decide_eq_false_iff_not] at seen
  obtain ⟨blocks, block, index, running, markers⟩ := seen
  refine ⟨session, run, (xmodem_length_iff xmodemInit _ _ _ rfl _ session run ?_ ?_ _ ?_).mpr ?_⟩
  · rw [blocks]
    exact Finset.singleton_nonempty 1
  · rw [blocks]
    decide
  · exact ⟨rfl, .inl ⟨running, index⟩⟩
  · have top : session.log.top = 128 := by
      rw [SessionLog.top, SessionLog.highest, blocks]
      rfl
    rw [LengthSafe, block, top, blocks]
    refine ⟨by decide, by decide, ?_, fun zero => absurd zero (by decide)⟩
    intro cell lower upper
    obtain ⟨n, rfl⟩ := Int.eq_ofNat_of_zero_le lower
    exact markers n (by omega)

/-- A block that holds no marker has the length 0 too. -/
theorem xmodem_loses_block :
    ∃ session, (uniformPacket 65 128).foldlM sessionStep sessionStart = some session ∧
      session.log.blocks.Nonempty ∧ session.log.blocks.card ≤ 2 ^ 24 ∧ EndsTransfer session.state ⟨0, some eot⟩ ∧
      ¬ LengthRight session ⟨0, some eot⟩ := by
  have observed : ((uniformPacket 65 128).foldlM sessionStep sessionStart).map (fun session =>
      (session.log.blocks, session.state.i, decide (Expired session.state ⟨0, some eot⟩),
        (xmodemPoll 0 (some eot) session.state).state.rcvd, session.state.destination 127)) =
      some ({1}, 0, false, 0, 65) := by decide +kernel
  obtain ⟨session, run, seen⟩ := Option.map_eq_some_iff.mp observed
  simp only [Prod.mk.injEq, decide_eq_false_iff_not] at seen
  obtain ⟨blocks, index, running, rcvd, last⟩ := seen
  have received : session.log.received = 127 + 1 := by rw [SessionLog.received, blocks]; rfl
  have top : session.log.top = 128 := by
    rw [SessionLog.top, SessionLog.highest, blocks]
    rfl
  refine ⟨session, run, ?_, ?_, ⟨rfl, .inl ⟨running, index⟩⟩, ?_⟩
  · rw [blocks]
    exact Finset.singleton_nonempty 1
  · rw [blocks]
    decide
  · rintro ⟨length, _⟩
    have unmarked : eofRun session.state.destination 128 (127 + 1) = 0 := by
      rw [eofRun, if_neg]
      change session.state.destination 127 ≠ cpmEof
      rw [last]
      decide
    rw [rcvd, received, top, unmarked] at length
    exact absurd length (by decide)

end ComputerSystems.Verified
