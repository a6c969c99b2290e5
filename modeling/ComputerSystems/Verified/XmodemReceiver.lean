import ComputerSystems.System.Xmodem
import Mathlib.Data.Nat.Bitwise

/-! # What the XMODEM receiver does with a packet

The receiver merges the 8-bit number of a packet into its 32-bit block counter
and copies the data to the index that the merged number gives.  This module says
in arithmetic what the merge and the index are, when `process_xmodem` accepts a
packet, and what one call of `XmodemPoll` can do (`xmodemPoll_cases`).
-/

namespace ComputerSystems.Verified

open ComputerSystems.Data ComputerSystems.System

variable {state : XmodemState} {packet packet' : Nat → UInt8} {now : Nat}

/-! ## Block numbers -/

theorem lowByte_toNat (block : BitVec 32) : (block &&& 0xFF).toNat = block.toNat % 256 := by
  rw [BitVec.toNat_and]
  exact Nat.and_two_pow_sub_one_eq_mod block.toNat 8

/-- The merged number has the received low byte and the upper bytes of the
    counter. -/
theorem mergeBlock_toNat (number : UInt8) (block : BitVec 32) :
    (mergeBlock number block).toNat = 256 * (block.toNat / 256) + number.toNat := by
  have mask : ∀ i : Fin 32, (0xFFFFFF00#32).getLsbD i = !decide (i.val < 8) := by decide
  have upper : block &&& 0xFFFFFF00#32 = (block >>> 8) <<< 8 := by
    ext i bound
    have bit := mask ⟨i, bound⟩
    simp only [BitVec.getElem_and, BitVec.getElem_shiftLeft]
    rw [← BitVec.getLsbD_eq_getElem, ← BitVec.getLsbD_eq_getElem, bit]
    by_cases low : i < 8
    · simp [low]
    · simp [low, Nat.add_sub_of_le (Nat.le_of_not_lt low)]
  have small := number.toNat_lt
  have wide := block.isLt
  have shifted : ((block >>> 8) <<< 8).toNat = 2 ^ 8 * (block.toNat / 256) := by
    rw [BitVec.toNat_shiftLeft, BitVec.toNat_ushiftRight, Nat.shiftRight_eq_div_pow, Nat.shiftLeft_eq]
    omega
  have split := Nat.two_pow_add_eq_or_of_lt (i := 8) (by omega : number.toNat < 2 ^ 8) (block.toNat / 256)
  calc (mergeBlock number block).toNat
      = number.toNat ||| 2 ^ 8 * (block.toNat / 256) := by
        rw [mergeBlock, BitVec.toNat_or, BitVec.toNat_ofNat, Nat.mod_eq_of_lt (by omega), ← shifted, ← upper]
        rfl
    _ = 256 * (block.toNat / 256) + number.toNat := by rw [Nat.or_comm, ← split]

/-- The number of the expected block selects it. -/
theorem mergeBlock_expected {number : UInt8} {block : BitVec 32}
    (expected : number.toNat = block.toNat % 256) : mergeBlock number block = block := by
  apply BitVec.eq_of_toNat_eq
  rw [mergeBlock_toNat]
  omega

/-- The number of the block before selects that one, if the receiver accepts it. -/
theorem mergeBlock_repeated {number : UInt8} {block : BitVec 32} (later : 1 ≤ block.toNat)
    (repeated : number.toNat = (block.toNat - 1) % 256) (accepted : number.toNat ≤ block.toNat % 256) :
    mergeBlock number block = block - 1 := by
  apply BitVec.eq_of_toNat_eq
  have merged := mergeBlock_toNat number block
  have before : (block - 1).toNat = block.toNat - 1 := by bv_omega
  omega

/-- The index does not overflow up to block `2 ^ 24`. -/
theorem blockOffset_eq {block : BitVec 32} (lower : 1 ≤ block.toNat) (upper : block.toNat ≤ 2 ^ 24) :
    blockOffset block = ((block.toNat : Int) - 1) * 128 := by
  have unwrapped : ((block - 1) * 128).toNat = (block.toNat - 1) * 128 := by bv_omega
  rw [blockOffset, BitVec.toInt_eq_toNat_of_lt (by omega), unwrapped]
  omega

/-! ## Packets -/

/-- The tests of `process_xmodem` that do not depend on the expected block: the
    header, the complement of the number, and the checksum. -/
def PacketIntact (packet : Nat → UInt8) : Prop :=
  packet 0 = soh ∧ packet 2 = 0xFF - packet 1 ∧ xmodemChecksum packet = packet (xmodemPacketSize - 1)

instance : Decidable (PacketIntact packet) := inferInstanceAs (Decidable (_ ∧ _ ∧ _))

theorem processXmodem_eq_ok {block : BitVec 32} {number : UInt8} :
    processXmodem packet block = .ok number ↔
      PacketIntact packet ∧ (packet 1).toNat ≤ block.toNat ∧ number = packet 1 := by
  rw [processXmodem, PacketIntact]
  by_cases header : packet 0 = soh
  · by_cases complement : packet 2 = 0xFF - packet 1
    · by_cases above : (packet 1).toNat > block.toNat
      · simp [header, complement, above]
      · by_cases checksum : xmodemChecksum packet = packet (xmodemPacketSize - 1)
        · simp [header, complement, above, checksum, Nat.le_of_not_gt above, eq_comm]
        · simp [header, complement, above, checksum]
    · simp [header, complement]
  · simp [header]

theorem xmodemChecksum_congr (agree : ∀ i < xmodemPacketSize, packet' i = packet i) :
    xmodemChecksum packet' = xmodemChecksum packet := by
  have step : ∀ (indices : List Nat) (checksum : UInt8), (∀ i ∈ indices, i < xmodemDataSize) →
      indices.foldl (fun checksum i => checksum + packet' (3 + i)) checksum =
        indices.foldl (fun checksum i => checksum + packet (3 + i)) checksum := by
    intro indices
    induction indices with
    | nil => intro checksum _; rfl
    | cons i indices ih =>
      intro checksum bounded
      have below := bounded i (by simp)
      rw [List.foldl_cons, List.foldl_cons, agree (3 + i) (by simp [xmodemDataSize, xmodemPacketSize] at *; omega)]
      exact ih _ fun j member => bounded j (by simp [member])
  exact step _ _ fun i member => List.mem_range.mp member

/-- Whether a packet is intact is decided by its 132 bytes. -/
theorem packetIntact_congr (agree : ∀ i < xmodemPacketSize, packet' i = packet i) :
    PacketIntact packet' ↔ PacketIntact packet := by
  rw [PacketIntact, PacketIntact, xmodemChecksum_congr agree, agree 0 (by decide), agree 1 (by decide),
    agree 2 (by decide), agree (xmodemPacketSize - 1) (by decide)]

/-- An entire packet is stored and acknowledged, or nothing but the reply, the
    timer and the counters of the packet changes. -/
theorem xmodemPacket_cases (now : Nat) (state : XmodemState) :
    (∃ block, PacketIntact state.packet ∧ (state.packet 1).toNat ≤ state.block.toNat % 256 ∧
      block = mergeBlock (state.packet 1) state.block ∧
      xmodemPacket now state =
        { state := { state with
            destination := state.destination.write (blockOffset block)
              ((List.range xmodemDataSize).map fun i => state.packet (3 + i))
            block := block + 1, packetTimer := timerRegister xmodemDataTimeo now, retry := 0, i := 0 }
          calls := [.putc ack], copied := some (blockOffset block), status := taskReady }) ∨
    ¬ (PacketIntact state.packet ∧ (state.packet 1).toNat ≤ state.block.toNat % 256) ∧
      xmodemPacket now state =
        { state := { state with packetTimer := timerRegister xmodemDataTimeo now, retry := 0, i := 0 }
          calls := [.flush, .putc nak], status := taskReady } := by
  rw [xmodemPacket]
  cases processed : processXmodem state.packet (state.block &&& 0xFF) with
  | ok number =>
    obtain ⟨intact, below, rfl⟩ := processXmodem_eq_ok.mp processed
    rw [lowByte_toNat] at below
    exact .inl ⟨_, intact, below, rfl, rfl⟩
  | error text =>
    refine .inr ⟨fun accepted => ?_, rfl⟩
    have passes : processXmodem state.packet (state.block &&& 0xFF) = .ok (state.packet 1) := by
      apply processXmodem_eq_ok.mpr
      rw [lowByte_toNat]
      exact ⟨accepted.1, accepted.2, rfl⟩
    exact nomatch processed.symm.trans passes

/-! ## Polls -/

/-- The state with one more byte of the packet. -/
def collect (character : UInt8) (state : XmodemState) : XmodemState :=
  { state with packet := Function.update state.packet state.i character, i := state.i + 1 }

@[simp] theorem collect_i (character : UInt8) (state : XmodemState) :
    (collect character state).i = state.i + 1 := rfl

@[simp] theorem collect_packet (character : UInt8) (state : XmodemState) :
    (collect character state).packet = Function.update state.packet state.i character := rfl

theorem xmodemRead_partway {character : UInt8} (inner : ¬ (state.i = 0 ∧ character = eot))
    (partway : state.i + 1 ≠ xmodemPacketSize) :
    xmodemRead now (some character) state =
      { state := collect character state, stored := some state.i, status := taskReady } := by
  simp only [xmodemRead, inner, partway, ↓reduceIte]
  rfl

theorem xmodemRead_entire {character : UInt8} (inner : ¬ (state.i = 0 ∧ character = eot))
    (entire : state.i + 1 = xmodemPacketSize) :
    xmodemRead now (some character) state =
      { xmodemPacket now (collect character state) with stored := some state.i } := by
  simp only [xmodemRead, inner, entire, ↓reduceIte]
  rfl

theorem xmodemRead_cases (now : Nat) (available : Option UInt8) (state : XmodemState) :
    (available = none ∧ xmodemRead now available state = { state, status := taskIdle }) ∨
    (available = some eot ∧ state.i = 0 ∧ xmodemRead now available state = xmodemFinish state) ∨
    ∃ character, available = some character ∧ ¬ (state.i = 0 ∧ character = eot) ∧
      (state.i + 1 ≠ xmodemPacketSize ∧ xmodemRead now available state =
          { state := collect character state, stored := some state.i, status := taskReady } ∨
        state.i + 1 = xmodemPacketSize ∧ xmodemRead now available state =
          { xmodemPacket now (collect character state) with stored := some state.i }) := by
  cases available with
  | none => exact .inl ⟨rfl, rfl⟩
  | some character =>
    right
    by_cases ends : state.i = 0 ∧ character = eot
    · exact .inl ⟨by rw [ends.2], ends.1, by simp [xmodemRead, ends]⟩
    · refine .inr ⟨character, rfl, ends, ?_⟩
      by_cases entire : state.i + 1 = xmodemPacketSize
      · exact .inr ⟨entire, xmodemRead_entire ends entire⟩
      · exact .inl ⟨entire, xmodemRead_partway ends entire⟩

/-- The state after a timeout was handled. -/
def restart (now : Nat) (state : XmodemState) : XmodemState :=
  { state with retry := state.retry + 1, packetTimer := timerRegister xmodemDataTimeo now, i := 0 }

theorem restart_running (clock : now + xmodemDataTimeo < 2 ^ 64) :
    timerRemaining (restart now state).packetTimer now ≠ 0 := by
  have unwrapped : (now + xmodemDataTimeo) % 2 ^ 64 = now + xmodemDataTimeo := Nat.mod_eq_of_lt clock
  have positive : 0 < xmodemDataTimeo := by decide
  simp only [restart, timerRegister, timerRemaining, unwrapped]
  split <;> omega

/-- A poll reads a character, with or without a timeout before it, or gives up. -/
theorem xmodemPoll_cases (now : Nat) (available : Option UInt8) (state : XmodemState) :
    (timerRemaining state.packetTimer now ≠ 0 ∧
      xmodemPoll now available state = xmodemRead now available state) ∨
    (timerRemaining state.packetTimer now = 0 ∧ state.retry < xmodemDataRetry ∧ xmodemPoll now available state =
      { xmodemRead now available (restart now state) with
        calls := .flush :: .putc nak :: (xmodemRead now available (restart now state)).calls }) ∨
    (timerRemaining state.packetTimer now = 0 ∧ xmodemDataRetry ≤ state.retry ∧
      xmodemPoll now available state =
      { state := { state with retry := state.retry + 1, block := 0 }, calls := [.puts "Timeout"],
        status := taskFinished }) := by
  by_cases expired : timerRemaining state.packetTimer now = 0
  · right
    by_cases exhausted : state.retry + 1 > xmodemDataRetry
    · exact .inr ⟨expired, Nat.le_of_lt_succ exhausted,
        by simp only [xmodemPoll, expired, exhausted, ↓reduceIte]⟩
    · refine .inl ⟨expired, Nat.le_of_not_lt exhausted, ?_⟩
      simp only [xmodemPoll, expired, exhausted, ↓reduceIte]
      rfl
  · exact .inl ⟨expired, by simp only [xmodemPoll, expired, ↓reduceIte]⟩

/-! ## Sessions -/

/-- What a call of `XmodemPoll` finds: the time, and the character available. -/
structure XmodemInput where
  now : Nat
  available : Option UInt8

/-- The polls in which a sequence of bytes is received, all at the same time. -/
def receive (now : Nat) (bytes : List UInt8) : List XmodemInput := bytes.map fun byte => ⟨now, some byte⟩

/-- The state after a poll, `none` when the poll has ended the session. -/
def xmodemStep (state : XmodemState) (input : XmodemInput) : Option XmodemState :=
  let result := xmodemPoll input.now input.available state
  if result.status = taskFinished then none else some result.state

theorem xmodemStep_eq {input : XmodemInput} {next : XmodemState} (steps : next ∈ xmodemStep state input) :
    (xmodemPoll input.now input.available state).status ≠ taskFinished ∧
      next = (xmodemPoll input.now input.available state).state := by
  rw [xmodemStep, Option.mem_def, Option.ite_none_left_eq_some] at steps
  exact ⟨steps.1, (Option.some.inj steps.2).symm⟩

end ComputerSystems.Verified
