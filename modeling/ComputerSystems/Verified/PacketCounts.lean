import ComputerSystems.Usb.Transfer

/-! # Counting the packets of a transfer stage

The loop takes the packet size off `transferSize + maxPacketSize - 1` while more than
one packet size is left.  What is left at the end is a whole packet when the size of the
transfer is one more than a multiple of the packet size, and that packet is not counted.
-/

namespace ComputerSystems.Verified

open ComputerSystems.Data ComputerSystems.Usb

variable {size packets maxPacketSize transferSize result : BitVec 32}

theorem packetPass_again (more : maxPacketSize < size) :
    packetPass maxPacketSize (size, packets) = .again (size - maxPacketSize, packets + 1) := if_pos more

theorem packetPass_leave (last : ¬ maxPacketSize < size) : packetPass maxPacketSize (size, packets) = .leave packets :=
  if_neg last

/-- The loop, for packets that are not empty. -/
theorem packetPass_counts (positive : 0 < maxPacketSize.toNat) (count : Nat) (counts : (size.toNat - 1) / maxPacketSize.toNat = count) :
    Ends (packetPass maxPacketSize) (size, packets) (packets + BitVec.ofNat 32 count) := by
  induction count generalizing size packets with
  | zero =>
    have small : ¬ maxPacketSize < size := by
      rw [BitVec.lt_def]
      have below := Nat.lt_of_div_eq_zero positive counts
      omega
    rw [BitVec.add_zero]
    exact .leave (packetPass_leave small)
  | succ count ih =>
    have large : maxPacketSize.toNat ≤ size.toNat - 1 := by
      by_contra small
      rw [Nat.div_eq_of_lt (by omega)] at counts
      omega
    have more : maxPacketSize < size := by
      rw [BitVec.lt_def]
      omega
    have left : (size - maxPacketSize).toNat = size.toNat - maxPacketSize.toNat :=
      BitVec.toNat_sub_of_le (by rw [BitVec.le_def]; omega)
    have fewer : ((size - maxPacketSize).toNat - 1) / maxPacketSize.toNat = count := by
      rw [Nat.div_eq_sub_div positive large] at counts
      rw [left, Nat.sub_right_comm]
      exact Nat.succ.inj counts
    have rest := @ih (size - maxPacketSize) (packets + 1) fewer
    rw [BitVec.ofNat_add, BitVec.add_comm (BitVec.ofNat 32 count), ← BitVec.add_assoc]
    exact .again (packetPass_again more) rest

/-- Without a packet size the loop does not end while anything is left. -/
theorem packetPass_stuck (positive : 0 < size.toNat) : ¬ Ends (packetPass 0) (size, packets) result := by
  refine not_ends_of_stuck (fun state => state.1 = size) ?_ rfl
  rintro ⟨now, count⟩ rfl
  refine ⟨_, packetPass_again ?_, BitVec.sub_zero _⟩
  rw [BitVec.lt_def]
  exact positive

/-- `packetCount` is what the loop comes to. -/
theorem packetCount_eq_some_iff :
    packetCount transferSize maxPacketSize = some result ↔
      Ends (packetPass maxPacketSize) (packetStart transferSize maxPacketSize) result := by
  have counted : maxPacketSize ≠ 0 ∨ (transferSize + maxPacketSize - 1).toNat = 0 →
      Ends (packetPass maxPacketSize) (packetStart transferSize maxPacketSize)
        (BitVec.ofNat 32 (((transferSize + maxPacketSize - 1).toNat - 1) / maxPacketSize.toNat)) := by
    intro ends
    by_cases positive : 0 < maxPacketSize.toNat
    · have counts := @packetPass_counts (transferSize + maxPacketSize - 1) 0#32 maxPacketSize positive _ rfl
      rwa [BitVec.zero_add] at counts
    · have zero : maxPacketSize = 0 := BitVec.eq_of_toNat_eq (by simpa using positive)
      have empty := ends.resolve_left (not_not.mpr zero)
      have nothing : ¬ maxPacketSize < transferSize + maxPacketSize - 1 := by
        rw [BitVec.lt_def, empty]
        omega
      rw [empty, Nat.zero_sub, Nat.zero_div]
      exact .leave (packetPass_leave nothing)
  -- with a packet size of 0 nothing is ever subtracted
  by_cases stuck : maxPacketSize = 0 ∧ 0 < (transferSize + maxPacketSize - 1).toNat
  · rw [packetCount, if_pos stuck]
    obtain ⟨rfl, positive⟩ := stuck
    simp only [reduceCtorEq, false_iff]
    exact packetPass_stuck positive
  · rw [packetCount, if_neg stuck, Option.some.injEq]
    have ends := counted (by
      by_contra neither
      rw [not_or, not_not] at neither
      exact stuck ⟨neither.1, Nat.pos_of_ne_zero neither.2⟩)
    constructor
    · rintro rfl
      exact ends
    · intro other
      exact ends.unique other

/-! ## Packet sizes of a descriptor -/

/-- The size that a descriptor gives has 16 bits. -/
theorem descriptorPacketSize_toNat (low high : UInt8) :
    (descriptorPacketSize low high).toNat = 256 * high.toNat + low.toNat := by
  have := low.toNat_lt
  have := high.toNat_lt
  rw [descriptorPacketSize, BitVec.toNat_ofNat, Nat.shiftLeft_eq]
  omega

/-- The count of the loop is the number of packets or one less, as the last packet is
    counted or not. -/
theorem packets_eq_ceil_iff {n m : Nat} (positive : 0 < m) :
    (n + m - 1 - 1) / m = (n + m - 1) / m ↔ n = 0 ∨ ¬ m ∣ n - 1 := by
  by_cases empty : n = 0
  · rw [empty, Nat.zero_add, Nat.div_eq_of_lt (by omega), Nat.div_eq_of_lt (by omega)]
    simp
  · have before : n + m - 1 - 1 = n - 1 + m - 1 := by omega
    have behind : n + m - 1 = n - 1 + m := by omega
    rw [before, behind]
    obtain ⟨last, isLast⟩ : ∃ last, n - 1 + m = last + 1 := ⟨n - 1 + m - 1, by omega⟩
    have same : m ∣ last + 1 ↔ m ∣ n - 1 := by rw [← isLast, Nat.dvd_add_self_right]
    rw [isLast, Nat.add_sub_cancel, Nat.succ_div]
    by_cases divides : m ∣ n - 1
    · simp [same, divides, empty]
    · simp [same, divides]

/-- The loop counts ⌈n / m⌉ packets unless n is one more than a multiple of m, and it
    does not end for m = 0 unless n is 1. -/
theorem packet_loop_counts_iff (n : Nat) (low high : UInt8) (bound : n < 2 ^ 31 - 65536) :
    (if (descriptorPacketSize low high).toNat = 0 then
        ∃ packets, Ends (packetPass (descriptorPacketSize low high))
          (packetStart (BitVec.ofNat 32 n) (descriptorPacketSize low high)) packets
      else
        ∃ packets, Ends (packetPass (descriptorPacketSize low high))
          (packetStart (BitVec.ofNat 32 n) (descriptorPacketSize low high)) packets ∧
          packets.toNat = (n + (descriptorPacketSize low high).toNat - 1) / (descriptorPacketSize low high).toNat) ↔
      if (descriptorPacketSize low high).toNat = 0 then n = 1
      else n = 0 ∨ ¬ (descriptorPacketSize low high).toNat ∣ n - 1 := by
  have small : (descriptorPacketSize low high).toNat < 65536 := by
    have := low.toNat_lt
    have := high.toNat_lt
    rw [descriptorPacketSize_toNat]
    omega
  generalize descriptorPacketSize low high = maxPacketSize at small ⊢
  simp only [← packetCount_eq_some_iff]
  by_cases zero : maxPacketSize.toNat = 0
  · have isZero : maxPacketSize = 0 := BitVec.eq_of_toNat_eq zero
    rw [if_pos zero, if_pos zero, packetCount, isZero]
    -- the loop is left at once only if nothing is left to count; for 0 bytes the size wraps
    have left : (BitVec.ofNat 32 n + 0 - 1).toNat = 0 ↔ n = 1 := by
      constructor
      · intro nothing
        bv_omega
      · rintro rfl
        rfl
    simp only [true_and]
    split
    · simp only [reduceCtorEq, exists_false, false_iff]
      omega
    · simp only [Option.some.injEq, exists_eq', true_iff]
      omega
  -- the loop goes on only while more than one packet is left, so it counts one too few where
  -- the size it starts with is a multiple of the packets
  · have size : (BitVec.ofNat 32 n + maxPacketSize - 1).toNat = n + maxPacketSize.toNat - 1 := by bv_omega
    have quotient : (n + maxPacketSize.toNat - 1 - 1) / maxPacketSize.toNat ≤ n + maxPacketSize.toNat - 1 - 1 :=
      Nat.div_le_self _ _
    have counted : (BitVec.ofNat 32 ((n + maxPacketSize.toNat - 1 - 1) / maxPacketSize.toNat)).toNat =
        (n + maxPacketSize.toNat - 1 - 1) / maxPacketSize.toNat := by
      rw [BitVec.toNat_ofNat, Nat.mod_eq_of_lt (by omega)]
    have ends : ¬ (maxPacketSize = 0 ∧ 0 < (BitVec.ofNat 32 n + maxPacketSize - 1).toNat) := by
      rintro ⟨rfl, _⟩
      exact zero rfl
    rw [if_neg zero, if_neg zero, packetCount, if_neg ends, size]
    simp only [Option.some.injEq, exists_eq_left', counted]
    exact packets_eq_ceil_iff (Nat.pos_of_ne_zero zero)

/-- Eighteen bytes in packets of eight. -/
theorem packet_loop_counts_eighteen :
    ∃ packets, Ends (packetPass (descriptorPacketSize 8 0)) (packetStart (BitVec.ofNat 32 18) (descriptorPacketSize 8 0)) packets ∧
      packets.toNat = (18 + (descriptorPacketSize 8 0).toNat - 1) / (descriptorPacketSize 8 0).toNat :=
  (packet_loop_counts_iff 18 8 0 (by decide)).mpr (.inr (by decide))

/-- One byte in packets of eight takes a packet, which the loop does not count. -/
theorem packet_loop_misses_byte : ¬ ∀ (n : Nat) (low high : UInt8), n < 2 ^ 31 - 65536 →
    (if (descriptorPacketSize low high).toNat = 0 then
        ∃ packets, Ends (packetPass (descriptorPacketSize low high))
          (packetStart (BitVec.ofNat 32 n) (descriptorPacketSize low high)) packets
      else
        ∃ packets, Ends (packetPass (descriptorPacketSize low high))
          (packetStart (BitVec.ofNat 32 n) (descriptorPacketSize low high)) packets ∧
          packets.toNat = (n + (descriptorPacketSize low high).toNat - 1) / (descriptorPacketSize low high).toNat) := by
  intro counts
  obtain ⟨packets, ends, isCeil⟩ := counts 1 8 0 (by decide)
  have none : Ends (packetPass (descriptorPacketSize 8 0)) (packetStart (BitVec.ofNat 32 1) (descriptorPacketSize 8 0)) 0 :=
    .leave (packetPass_leave (by decide))
  rw [ends.unique none] at isCeil
  revert isCeil
  decide

end ComputerSystems.Verified
