import ComputerSystems.Data.Run
import ComputerSystems.Verified.XmodemReceiver

/-! # Where the XMODEM receiver writes

The index into the packet buffer is always inside it, whatever is received.  The
index of a copy into the destination is not: it is computed from a number that
the sender chose, and `length` is not looked at.  `InputSafe` excludes exactly
the packets that make use of this; without them every copy is inside the buffer
(`xmodem_writes_inside`).
-/

namespace ComputerSystems.Verified

open ComputerSystems.Data ComputerSystems.System

variable {state : XmodemState} {input : XmodemInput}

/-- The packet that a poll completes, if it completes one. -/
def completedPacket (state : XmodemState) (input : XmodemInput) : Option (Nat → UInt8) :=
  if timerRemaining state.packetTimer input.now ≠ 0 ∧ state.i + 1 = xmodemPacketSize then
    input.available.map fun character => Function.update state.packet state.i character
  else none

/-- The packet carries the number of the expected block, or that of the block just
    accepted, if one has been accepted. -/
def NumberExpected (state : XmodemState) (packet : Nat → UInt8) : Prop :=
  (packet 1).toNat = state.block.toNat % 256 ∨
    2 ≤ state.block.toNat ∧ (packet 1).toNat = (state.block.toNat - 1) % 256

/-- A packet that `process_xmodem` accepts carries an expected number, and the
    expected block still fits. -/
def InputSafe (state : XmodemState) (input : XmodemInput) : Prop :=
  ∀ packet ∈ completedPacket state input,
    (processXmodem packet (state.block &&& 0xFF)).isOk →
      NumberExpected state packet ∧
        ((packet 1).toNat = state.block.toNat % 256 → state.block.toNat * 128 ≤ state.length.toInt)

instance (state : XmodemState) (packet : Nat → UInt8) : Decidable (NumberExpected state packet) :=
  inferInstanceAs (Decidable (_ ∨ _))

instance (state : XmodemState) (input : XmodemInput) : Decidable (InputSafe state input) :=
  inferInstanceAs (Decidable (∀ packet ∈ completedPacket state input, _))

/-- A byte of the packet is stored inside the packet buffer. -/
def IndexInside (state : XmodemState) (input : XmodemInput) : Prop :=
  ∀ index ∈ (xmodemPoll input.now input.available state).stored, index < xmodemPacketSize

/-- A copy is inside the destination buffer and nothing else there changes, and a
    packet with another number than those expected changes nothing at all. -/
def CopyInside (state : XmodemState) (input : XmodemInput) : Prop :=
  let result := xmodemPoll input.now input.available state
  (∀ offset ∈ result.copied, 0 ≤ offset ∧ offset + xmodemDataSize ≤ state.length.toInt) ∧
    (∀ cell, cell < 0 ∨ state.length.toInt ≤ cell →
      result.state.destination cell = state.destination cell) ∧
    ∀ packet ∈ completedPacket state input, ¬ NumberExpected state packet →
      result.state.block = state.block ∧ result.state.destination = state.destination

/-! ## The packet index -/

theorem read_index (available : Option UInt8) (bound : state.i < xmodemPacketSize) (now : Nat) :
    (∀ index ∈ (xmodemRead now available state).stored, index < xmodemPacketSize) ∧
      (xmodemRead now available state).state.i < xmodemPacketSize := by
  obtain ⟨-, reads⟩ | ⟨-, -, reads⟩ | ⟨character, -, -, more⟩ := xmodemRead_cases now available state
  · simp [reads, bound]
  · simp [reads, xmodemFinish, bound]
  · cases more with
    | inl partway =>
      rw [partway.2]
      simp only [Option.mem_def, Option.some.injEq, forall_eq', collect]
      omega
    | inr entire =>
      rw [entire.2]
      refine ⟨by simpa using bound, ?_⟩
      cases xmodemPacket_cases now (collect character state) with
      | inl accepted =>
        obtain ⟨block, -, -, -, result⟩ := accepted
        simp [result, xmodemPacketSize]
      | inr refused => simp [refused.2, xmodemPacketSize]

theorem poll_index (state : XmodemState) (input : XmodemInput) (bound : state.i < xmodemPacketSize) :
    IndexInside state input ∧ ∀ next ∈ xmodemStep state input, next.i < xmodemPacketSize := by
  have stays : ∀ next ∈ xmodemStep state input, next = _ := fun next steps => (xmodemStep_eq steps).2
  obtain ⟨-, polls⟩ | ⟨-, -, polls⟩ | ⟨-, -, polls⟩ := xmodemPoll_cases input.now input.available state
  · have read := read_index input.available bound input.now
    refine ⟨by simpa [IndexInside, polls] using read.1, fun next steps => ?_⟩
    rw [stays next steps, polls]
    exact read.2
  · have start : (restart input.now state).i < xmodemPacketSize := by simp [restart, xmodemPacketSize]
    have read := read_index input.available start input.now
    refine ⟨by simpa [IndexInside, polls] using read.1, fun next steps => ?_⟩
    rw [stays next steps, polls]
    exact read.2
  · refine ⟨by simp [IndexInside, polls], fun next steps => ?_⟩
    rw [stays next steps, polls]
    exact bound

/-! ## The copies -/

/-- At least one block is expected, and the blocks accepted so far fit. -/
structure BoundsInv (state : XmodemState) : Prop where
  positive : 1 ≤ state.block.toNat
  fits : 2 ≤ state.block.toNat → ((state.block.toNat : Int) - 1) * 128 ≤ state.length.toInt

/-- The block that a packet with an expected number selects. -/
theorem mergeBlock_fits {packet : Nat → UInt8} (inv : BoundsInv state)
    (below : (packet 1).toNat ≤ state.block.toNat % 256) (expected : NumberExpected state packet)
    (room : (packet 1).toNat = state.block.toNat % 256 → state.block.toNat * 128 ≤ state.length.toInt) :
    1 ≤ (mergeBlock (packet 1) state.block).toNat ∧
      (mergeBlock (packet 1) state.block).toNat * 128 ≤ state.length.toInt := by
  cases expected with
  | inl isNext =>
    rw [mergeBlock_expected isNext]
    exact ⟨inv.positive, room isNext⟩
  | inr isLast =>
    have before : (state.block - 1).toNat = state.block.toNat - 1 := by
      have := inv.positive
      bv_omega
    have fits := inv.fits isLast.1
    rw [mergeBlock_repeated inv.positive isLast.2 below, before]
    omega

/-- A character that does not complete a packet leaves the blocks alone. -/
theorem read_partway (now : Nat) (available : Option UInt8) (partway : state.i + 1 ≠ xmodemPacketSize) :
    (xmodemRead now available state).copied = none ∧
      (xmodemRead now available state).state.destination = state.destination ∧
      (xmodemRead now available state).state.length = state.length ∧
      ((xmodemRead now available state).status ≠ taskFinished →
        (xmodemRead now available state).state.block = state.block) := by
  obtain ⟨-, reads⟩ | ⟨-, -, reads⟩ | ⟨character, -, -, more⟩ := xmodemRead_cases now available state
  · simp [reads]
  · simp [reads, xmodemFinish]
  · cases more with
    | inl stored => simp [stored.2, collect]
    | inr entire => exact absurd entire.1 partway

theorem packet_inside {packet : Nat → UInt8} (inv : BoundsInv state) (now : Nat)
    (same : state.packet = packet)
    (safe : (processXmodem packet (state.block &&& 0xFF)).isOk →
      NumberExpected state packet ∧
        ((packet 1).toNat = state.block.toNat % 256 → state.block.toNat * 128 ≤ state.length.toInt)) :
    (∀ offset ∈ (xmodemPacket now state).copied, 0 ≤ offset ∧
        offset + xmodemDataSize ≤ state.length.toInt) ∧
      (∀ cell, cell < 0 ∨ state.length.toInt ≤ cell →
        (xmodemPacket now state).state.destination cell = state.destination cell) ∧
      (¬ NumberExpected state packet → (xmodemPacket now state).state.block = state.block ∧
        (xmodemPacket now state).state.destination = state.destination) ∧
      BoundsInv (xmodemPacket now state).state := by
  subst same
  obtain ⟨block, intact, below, rfl, result⟩ | ⟨-, result⟩ := xmodemPacket_cases now state
  · have accepted : processXmodem state.packet (state.block &&& 0xFF) = .ok (state.packet 1) := by
      rw [processXmodem_eq_ok, lowByte_toNat]
      exact ⟨intact, below, rfl⟩
    obtain ⟨expected, room⟩ := safe (by rw [accepted]; rfl)
    -- An expected number that is accepted belongs to a block that fits.
    obtain ⟨lower, upper⟩ := mergeBlock_fits inv below expected room
    have limit := BitVec.toInt_lt (x := state.length)
    have offset := blockOffset_eq lower (by omega)
    have advance : (mergeBlock (state.packet 1) state.block + 1).toNat =
        (mergeBlock (state.packet 1) state.block).toNat + 1 := by bv_omega
    rw [result]
    refine ⟨?_, ?_, fun unexpected => absurd expected unexpected, ?_⟩
    · simp only [Option.mem_def, Option.some.injEq, forall_eq', xmodemDataSize, offset]
      omega
    · intro cell outside
      apply Memory.write_outside
      simp only [List.length_map, List.length_range, offset, xmodemDataSize]
      omega
    · constructor
      · change 1 ≤ (mergeBlock (state.packet 1) state.block + 1).toNat
        omega
      · intro _
        change (((mergeBlock (state.packet 1) state.block + 1).toNat : Int) - 1) * 128 ≤ state.length.toInt
        omega
  · rw [result]
    simp only [Option.mem_def, reduceCtorEq, false_implies, implies_true, and_self, true_and]
    exact ⟨inv.positive, inv.fits⟩

/-- A poll that completes no packet. -/
theorem poll_partway (inv : BoundsInv state) (incomplete : completedPacket state input = none)
    (kept : (xmodemPoll input.now input.available state).copied = none ∧
      (xmodemPoll input.now input.available state).state.destination = state.destination ∧
      (xmodemPoll input.now input.available state).state.length = state.length ∧
      ((xmodemPoll input.now input.available state).status ≠ taskFinished →
        (xmodemPoll input.now input.available state).state.block = state.block)) :
    CopyInside state input ∧ ∀ next ∈ xmodemStep state input, BoundsInv next := by
  obtain ⟨copied, destination, length, block⟩ := kept
  refine ⟨by simp [CopyInside, copied, destination, incomplete], fun next steps => ?_⟩
  obtain ⟨running, rfl⟩ := xmodemStep_eq steps
  exact ⟨by rw [block running]; exact inv.positive, by rw [block running, length]; exact inv.fits⟩

/-- One poll keeps its copies inside and the invariant. -/
theorem poll_inside (state : XmodemState) (input : XmodemInput) (inv : BoundsInv state)
    (safe : InputSafe state input) :
    CopyInside state input ∧ ∀ next ∈ xmodemStep state input, BoundsInv next := by
  obtain ⟨running, polls⟩ | ⟨expired, -, polls⟩ |
    ⟨expired, -, polls⟩ :=
    xmodemPoll_cases input.now input.available state
  · -- Bytes are copied only when the last byte of a packet is read.
    by_cases entire : state.i + 1 = xmodemPacketSize
    · cases found : input.available with
      | none =>
        exact poll_partway inv (by simp [completedPacket, found]) (by rw [polls, found]; simp [xmodemRead])
      | some character =>
        have reads : xmodemPoll input.now input.available state =
            { xmodemPacket input.now (collect character state) with stored := some state.i } := by
          have inner : ¬ (state.i = 0 ∧ character = eot) := fun first => by
            rw [first.1] at entire
            exact absurd entire (by decide)
          rw [polls, found, xmodemRead_entire inner entire]
        have completed : completedPacket state input = some (collect character state).packet := by
          simp [completedPacket, running, entire, found, collect]
        have within : BoundsInv (collect character state) := ⟨inv.positive, inv.fits⟩
        have inside := packet_inside within input.now rfl (safe _ completed)
        refine ⟨?_, fun next steps => ?_⟩
        · simp only [CopyInside, reads, completed, Option.mem_def, Option.some.injEq, forall_eq']
          exact ⟨inside.1, inside.2.1, inside.2.2.1⟩
        · rw [(xmodemStep_eq steps).2, reads]
          exact inside.2.2.2
    · have read := read_partway input.now input.available entire
      exact poll_partway inv (by simp [completedPacket, entire]) (polls ▸ read)
  · have first : (restart input.now state).i + 1 ≠ xmodemPacketSize := by simp [restart, xmodemPacketSize]
    have read := read_partway input.now input.available first
    exact poll_partway inv (by simp [completedPacket, expired]) (by rw [polls]; exact read)
  · exact poll_partway inv (by simp [completedPacket, expired]) (by simp [polls])

/-! ## Sessions -/

/-- Whatever is received after `XmodemStart`, the packet index stays inside the
    packet.  If every packet that is accepted has an expected number and the
    expected block fits, every copy is inside the destination. -/
theorem xmodem_writes_inside (idle : XmodemState) (destination : Memory) (length : BitVec 32)
    (state : XmodemState) (start : xmodemStart destination length idle = some state)
    (inputs : List XmodemInput) :
    Along xmodemStep IndexInside inputs state ∧
      (Along xmodemStep InputSafe inputs state → Along xmodemStep CopyInside inputs state) := by
  rw [xmodemStart, Option.ite_none_left_eq_some] at start
  obtain rfl := Option.some.inj start.2
  constructor
  · exact Along.of_invariant (fun state => state.i < xmodemPacketSize) (by simp [xmodemPacketSize]) poll_index
  · intro safe
    exact safe.invariant BoundsInv ⟨by simp, by simp⟩ poll_inside

/-- A session that receives a packet with block 1 and then its repetition. -/
theorem xmodem_writes_inside_first_block :
    ∃ state, xmodemStart (fun _ => 0) 128 xmodemInit = some state ∧
      Along xmodemStep CopyInside
        (receive 0 ([1, 1, 254] ++ List.replicate 129 0 ++ [1, 1, 254] ++ List.replicate 129 0)) state := by
  refine ⟨_, rfl, (xmodem_writes_inside xmodemInit _ _ _ rfl _).2 ?_⟩
  decide +kernel

/-- A packet with number 0 while block 1 is expected is copied to the 128 bytes in
    front of the destination. -/
theorem xmodem_writes_before_buffer :
    ∃ state, xmodemStart (fun _ => 0) 1024 xmodemInit = some state ∧
      ¬ Along xmodemStep CopyInside
        (receive 0 ([1, 0, 255] ++ List.replicate 128 0) ++ [⟨0, some 0⟩]) state := by
  refine ⟨_, rfl, fun inside => ?_⟩
  have observed : ((receive 0 ([1, 0, 255] ++ List.replicate 128 0)).foldlM xmodemStep
      { xmodemInit with block := 1, length := 1024 }).map (fun state =>
        (xmodemPoll 0 (some 0) state).copied) = some (some (-128)) := by decide +kernel
  obtain ⟨state, run, copied⟩ := Option.map_eq_some_iff.mp observed
  have bad := (inside.at_event run).1 (-128) copied
  omega

end ComputerSystems.Verified
