import ComputerSystems.Network.Lan
import Mathlib.Algebra.Order.Ring.Nat

/-! # Received frames

The length of a received frame is in the word that the device puts in front of it.  Both
drivers look at how much was received only to see whether that word is there.
-/

namespace ComputerSystems.Verified

open ComputerSystems.Network

variable {driver : LanDriver} {buffer : Nat → UInt8} {rxStatus resultLen : BitVec 32}

/-- The frame that is passed on, if one is, has an Ethernet header and is within what was received. -/
def Bounded (resultLen : BitVec 32) : Option (Nat × Int) → Prop
  | none => True
  | some (offset, length) => (sizeofEthHdr : Int) ≤ length ∧ (offset : Int) + length ≤ resultLen.toNat

/-- The driver does not pass on a frame with this word. -/
def Dropped (driver : LanDriver) (rxStatus resultLen : BitVec 32) : Prop :=
  resultLen.toNat < driver.rxHeaderSize ∨ rxStatus &&& driver.rxErrorMask ≠ 0 ∨
    driver.refusesShort ∧ driver.rxFrameLength rxStatus ≤ 4

/-- The length in the word, which counts four bytes more than the frame has, leaves room for an
    Ethernet header and is within what was received behind the words in front of the frame. -/
def FrameLengthFits (driver : LanDriver) (rxStatus resultLen : BitVec 32) : Prop :=
  sizeofEthHdr + 4 ≤ (driver.rxFrameLength rxStatus).toNat ∧
    driver.rxHeaderSize + (driver.rxFrameLength rxStatus).toNat ≤ resultLen.toNat + 4

/-! ## The length of a frame -/

theorem rxFrameLength_lt : (driver.rxFrameLength rxStatus).toNat < 2 ^ 14 := by
  cases driver with
  | lan95xx =>
    simp only [LanDriver.rxFrameLength, BitVec.toNat_and]
    exact Nat.lt_of_le_of_lt Nat.and_le_right (by decide)
  | lan78xx =>
    simp only [LanDriver.rxFrameLength, BitVec.toNat_and]
    exact Nat.lt_of_le_of_lt Nat.and_le_right (by decide)

/-- A length below four becomes a negative one. -/
theorem sub_four_toInt {length : BitVec 32} (small : length.toNat < 2 ^ 14) :
    (length - 4).toInt = (length.toNat : Int) - 4 := by
  have four : (4 : BitVec 32).toNat = 4 := rfl
  rw [BitVec.toInt_sub, BitVec.toInt_eq_toNat_of_lt (by omega), BitVec.toInt_eq_toNat_of_lt (by omega), four]
  exact Int.bmod_eq_of_le (by omega) (by omega)

theorem receiveComplete_dropped (dropped : Dropped driver (wordAt buffer 0) resultLen) :
    receiveComplete driver buffer resultLen = none := by
  simp only [receiveComplete]
  rcases dropped with short | error | refused
  · rw [if_pos short]
  · rw [if_pos error, ite_self]
  · rw [if_pos refused, ite_self, ite_self]

theorem receiveComplete_passed (passed : ¬ Dropped driver (wordAt buffer 0) resultLen) :
    receiveComplete driver buffer resultLen =
      some (driver.rxHeaderSize, ((driver.rxFrameLength (wordAt buffer 0)).toNat : Int) - 4) := by
  simp only [Dropped, not_or] at passed
  obtain ⟨long, noError, notRefused⟩ := passed
  simp only [receiveComplete]
  rw [if_neg long, if_neg noError, if_neg notRefused, sub_four_toInt rxFrameLength_lt]

/-- Whatever has been received, the frame that is passed on is bounded by it if and only if none is
    passed on or the length in the first word fits. -/
theorem receive_bounded_iff (driver : LanDriver) (buffer : Nat → UInt8) (resultLen : BitVec 32) :
    Bounded resultLen (receiveComplete driver buffer resultLen) ↔
      Dropped driver (wordAt buffer 0) resultLen ∨ FrameLengthFits driver (wordAt buffer 0) resultLen := by
  -- Both conditions are about the length as a number once the frame is passed on.
  by_cases dropped : Dropped driver (wordAt buffer 0) resultLen
  · rw [receiveComplete_dropped dropped]
    exact iff_of_true trivial (.inl dropped)
  · rw [receiveComplete_passed dropped, or_iff_right dropped]
    simp only [Bounded, FrameLengthFits]
    omega

/-- A frame of 1000 bytes is announced, of which nothing was received but the word that says so. -/
def announcedFrame : Nat → UInt8 := fun offset => [0xE8, 0x03].getD offset 0

theorem receive_not_bounded :
    ¬ ∀ (driver : LanDriver) (buffer : Nat → UInt8) (resultLen : BitVec 32),
      Bounded resultLen (receiveComplete driver buffer resultLen) := by
  intro bounded
  have read := bounded .lan78xx announcedFrame 10
  have passed : receiveComplete .lan78xx announcedFrame 10 = some (10, 996) := by decide
  rw [passed] at read
  exact absurd read.2 (by decide)

end ComputerSystems.Verified
