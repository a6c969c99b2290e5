import ComputerSystems.Board.Rpi

/-! # Division in software

The loop of `__aeabi_uidivmod` subtracts the divisor shifted by 31, 30, ... bits.  What
is left of the value is always below the divisor shifted by the bits that have been
tried, and the quotient has no bit below them.

The quotient is collected in 64 bits by `1 << bit`, which is negative for bit 31: that
bit fills the upper half, where the remainder belongs.
-/

namespace ComputerSystems.Verified

open ComputerSystems.Board

variable {value divisor quotient : BitVec 32} {bit : Nat}

/-! ## Bits -/

/-- A divisor survives a shift if nothing of it is shifted out. -/
theorem shifts_iff (inside : bit < 32) :
    (divisor <<< bit) >>> bit = divisor ↔ divisor.toNat * 2 ^ bit < 2 ^ 32 := by
  rw [← BitVec.toNat_inj, BitVec.toNat_ushiftRight, BitVec.toNat_shiftLeft, Nat.shiftRight_eq_div_pow, Nat.shiftLeft_eq]
  have positive : 0 < 2 ^ bit := Nat.two_pow_pos bit
  have split : 2 ^ 32 = 2 ^ bit * 2 ^ (32 - bit) := by
    rw [← Nat.pow_add]
    congr 1
    omega
  constructor
  · intro same
    have low : divisor.toNat < 2 ^ (32 - bit) := by
      rw [← same]
      apply Nat.div_lt_of_lt_mul
      rw [← split]
      exact Nat.mod_lt _ (by decide)
    calc divisor.toNat * 2 ^ bit < 2 ^ (32 - bit) * 2 ^ bit := Nat.mul_lt_mul_of_pos_right low positive
      _ = 2 ^ 32 := by rw [split, Nat.mul_comm]
  · intro fits
    rw [Nat.mod_eq_of_lt fits, Nat.mul_div_cancel _ positive]

theorem shiftLeft_toNat (fits : divisor.toNat * 2 ^ bit < 2 ^ 32) :
    (divisor <<< bit).toNat = divisor.toNat * 2 ^ bit := by
  rw [BitVec.toNat_shiftLeft, Nat.shiftLeft_eq, Nat.mod_eq_of_lt fits]

/-- A quotient without bits from `bit` down gets this one. -/
theorem or_bit_toNat (inside : bit < 32) (upper : 2 ^ (bit + 1) ∣ quotient.toNat) :
    (quotient ||| 1#32 <<< bit).toNat = quotient.toNat + 2 ^ bit := by
  obtain ⟨rest, isRest⟩ := upper
  have one : (1#32 <<< bit).toNat = 2 ^ bit := by
    rw [BitVec.toNat_shiftLeft, Nat.shiftLeft_eq, Nat.mod_eq_of_lt]
    · simp
    · simpa using Nat.pow_lt_pow_right (by decide : 1 < 2) inside
  have small : 2 ^ bit < 2 ^ (bit + 1) := Nat.pow_lt_pow_right (by decide) (by omega)
  rw [BitVec.toNat_or, one, isRest, Nat.two_pow_add_eq_or_of_lt small]

theorem signExtend_or_bit :
    quotient.signExtend 64 ||| (1#32 <<< bit).signExtend 64 = (quotient ||| 1#32 <<< bit).signExtend 64 := by
  rw [BitVec.signExtend_or]

/-! ## The loop -/

/-- The loop keeps the value that quotient and rest stand for, and the rest comes below
    the divisor. -/
theorem divideBits_divides (nonzero : 0 < divisor.toNat) (bits : Nat) (width : bits ≤ 32)
    (below : value.toNat < divisor.toNat * 2 ^ bits) (upper : 2 ^ bits ∣ quotient.toNat)
    (fits : divisor.toNat * quotient.toNat + value.toNat < 2 ^ 32) :
    ∃ rest quotient' : BitVec 32,
      divideBits divisor bits value (quotient.signExtend 64) = (rest, quotient'.signExtend 64) ∧
      divisor.toNat * quotient'.toNat + rest.toNat = divisor.toNat * quotient.toNat + value.toNat ∧
      rest.toNat < divisor.toNat := by
  induction bits generalizing value quotient with
  | zero => exact ⟨value, quotient, rfl, rfl, by simpa using below⟩
  | succ bit ih =>
    have inside : bit < 32 := width
    have weaker : 2 ^ bit ∣ quotient.toNat := Nat.dvd_trans (Nat.pow_dvd_pow 2 (Nat.le_succ bit)) upper
    rw [divideBits]
    -- the loop passes over the bits for which the shifted divisor does not fit into a word
    by_cases shifts : (divisor <<< bit) >>> bit = divisor
    · have fitsShift := (shifts_iff inside).mp shifts
      have shifted := shiftLeft_toNat fitsShift
      rw [if_pos shifts]
      by_cases subtracts : divisor <<< bit ≤ value
      · -- the divisor goes into what is left
        have enough : divisor.toNat * 2 ^ bit ≤ value.toNat := by
          rw [← shifted]
          exact subtracts
        have left : (value - divisor <<< bit).toNat = value.toNat - divisor.toNat * 2 ^ bit := by
          rw [BitVec.toNat_sub_of_le subtracts, shifted]
        have collected := or_bit_toNat inside upper
        have same : divisor.toNat * (quotient ||| 1#32 <<< bit).toNat + (value - divisor <<< bit).toNat =
            divisor.toNat * quotient.toNat + value.toNat := by
          rw [collected, left, Nat.mul_add]
          omega
        rw [if_pos subtracts]
        simp only [signExtend_or_bit]
        split
        next done =>
          refine ⟨_, _, rfl, same, ?_⟩
          rw [done]
          exact nonzero
        · have lower : (value - divisor <<< bit).toNat < divisor.toNat * 2 ^ bit := by
            rw [left]
            rw [Nat.pow_succ, ← Nat.mul_assoc] at below
            omega
          have upper' : 2 ^ bit ∣ (quotient ||| 1#32 <<< bit).toNat := by
            rw [collected]
            exact Nat.dvd_add weaker (Nat.dvd_refl _)
          obtain ⟨rest, quotient', runs, keeps, small⟩ := ih (by omega) lower upper' (same ▸ fits)
          exact ⟨rest, quotient', runs, keeps.trans same, small⟩
      · rw [if_neg subtracts]
        apply ih (by omega) _ weaker fits
        rw [← shifted]
        exact Nat.lt_of_not_le subtracts
    · rw [if_neg shifts]
      apply ih (by omega) _ weaker fits
      have wide := Nat.le_of_not_lt fun small => shifts ((shifts_iff inside).mpr small)
      exact Nat.lt_of_lt_of_le value.isLt wide

/-- The quotient and the remainder that `__aeabi_uidivmod` composes its result of. -/
theorem aeabiUidivmod_eq (nonzero : divisor ≠ 0) :
    aeabiUidivmod value divisor = (value / divisor).signExtend 64 ||| (value % divisor).setWidth 64 <<< 32 := by
  have positive : 0 < divisor.toNat := by
    apply Nat.pos_of_ne_zero
    intro zero
    exact nonzero (BitVec.eq_of_toNat_eq zero)
  have below : value.toNat < divisor.toNat * 2 ^ 32 := by
    have bound := value.isLt
    omega
  obtain ⟨rest, quotient, runs, keeps, small⟩ := @divideBits_divides value divisor 0 positive 32 (Nat.le_refl 32) below
    (Nat.dvd_zero _) (by simpa using value.isLt)
  have whole : divisor.toNat * quotient.toNat + rest.toNat = value.toNat := by simpa using keeps
  have isQuotient : quotient = value / divisor := by
    apply BitVec.eq_of_toNat_eq
    rw [BitVec.toNat_udiv, ← whole, Nat.mul_add_div positive, Nat.div_eq_of_lt small, Nat.add_zero]
  have isRest : rest = value % divisor := by
    apply BitVec.eq_of_toNat_eq
    rw [BitVec.toNat_umod, ← whole, Nat.mul_add_mod, Nat.mod_eq_of_lt small]
  have start : (0 : BitVec 32).signExtend 64 = 0 := by decide
  rw [start] at runs
  rw [aeabiUidivmod, runs, isQuotient, isRest]

/-! ## Unsigned results -/

/-- The halves of a result. -/
theorem halves_toNat (quotient rest : BitVec 32) :
    (quotient.signExtend 64 ||| rest.setWidth 64 <<< 32).toNat % 2 ^ 32 = quotient.toNat ∧
      (quotient.signExtend 64 ||| rest.setWidth 64 <<< 32).toNat / 2 ^ 32 =
        ((if quotient.msb then BitVec.allOnes 32 else 0) ||| rest).toNat := by
  constructor
  · have low : (quotient.signExtend 64 ||| rest.setWidth 64 <<< 32).setWidth 32 = quotient := by
      ext i inside
      have wide : i < 64 := by omega
      simp [BitVec.getElem_signExtend, inside, wide]
    have same := congrArg BitVec.toNat low
    rwa [BitVec.toNat_setWidth] at same
  · have high : ((quotient.signExtend 64 ||| rest.setWidth 64 <<< 32) >>> 32).setWidth 32 =
        (if quotient.msb then BitVec.allOnes 32 else 0) ||| rest := by
      ext i inside
      have wide : i < 64 := by omega
      have upper : 32 + i < 64 := by omega
      cases sign : quotient.msb
      · simp [BitVec.getElem_signExtend, sign, wide, upper, BitVec.getLsbD_eq_getElem inside]
      · simp [-BitVec.reduceAllOnes, BitVec.getLsbD_signExtend, sign, wide, upper]
    have same := congrArg BitVec.toNat high
    rw [BitVec.toNat_setWidth, BitVec.toNat_ushiftRight, Nat.shiftRight_eq_div_pow] at same
    rw [← same, Nat.mod_eq_of_lt]
    have wide := (quotient.signExtend 64 ||| rest.setWidth 64 <<< 32).isLt
    omega

/-- Only a division by 1 has a quotient of 32 bits. -/
theorem udiv_msb_iff (nonzero : divisor ≠ 0) : (value / divisor).msb = true ↔ divisor = 1 ∧ 2 ^ 31 ≤ value.toNat := by
  have positive : divisor.toNat ≠ 0 := by
    intro zero
    exact nonzero (BitVec.eq_of_toNat_eq zero)
  rw [BitVec.msb_eq_decide, decide_eq_true_eq, BitVec.toNat_udiv]
  constructor
  · intro large
    have bound := value.isLt
    have one : divisor.toNat = 1 := by
      by_contra other
      have half : value.toNat / divisor.toNat ≤ value.toNat / 2 := Nat.div_le_div_left (by omega) (by decide)
      omega
    refine ⟨BitVec.eq_of_toNat_eq (by rw [one]; rfl), ?_⟩
    rwa [one, Nat.div_one] at large
  · rintro ⟨rfl, large⟩
    simpa using large

/-- `__aeabi_uidivmod` is right unless the quotient has 32 bits, which it has when a
    value from 2 ^ 31 on is divided by 1. -/
theorem uidivmod_divides_iff (value divisor : BitVec 32) (nonzero : divisor ≠ 0) :
    ((aeabiUidivmod value divisor).toNat % 2 ^ 32 = value.toNat / divisor.toNat ∧
        (aeabiUidivmod value divisor).toNat / 2 ^ 32 = value.toNat % divisor.toNat) ↔
      ¬ (divisor = 1 ∧ 2 ^ 31 ≤ value.toNat) := by
  obtain ⟨low, high⟩ := halves_toNat (value / divisor) (value % divisor)
  rw [aeabiUidivmod_eq nonzero, low, high, BitVec.toNat_udiv, ← udiv_msb_iff nonzero, ← BitVec.toNat_umod,
    BitVec.toNat_inj]
  cases sign : (value / divisor).msb with
  | false => simp
  | true =>
    -- the upper half is all ones, and the remainder of a division by 1 is zero
    obtain ⟨rfl, _⟩ := (udiv_msb_iff nonzero).mp sign
    simp

theorem uidivmod_divides_seven : ¬ (2#32 = 1 ∧ 2 ^ 31 ≤ (7#32).toNat) ∧
    (aeabiUidivmod 7 2).toNat % 2 ^ 32 = (7#32).toNat / (2#32).toNat ∧
      (aeabiUidivmod 7 2).toNat / 2 ^ 32 = (7#32).toNat % (2#32).toNat :=
  ⟨by decide, (uidivmod_divides_iff 7 2 (by decide)).mpr (by decide)⟩

/-- 2 ^ 31 divided by 1 has the remainder 2 ^ 32 - 1. -/
theorem uidivmod_sign_fills_remainder : ¬ ∀ value divisor : BitVec 32, divisor ≠ 0 →
    (aeabiUidivmod value divisor).toNat % 2 ^ 32 = value.toNat / divisor.toNat ∧
      (aeabiUidivmod value divisor).toNat / 2 ^ 32 = value.toNat % divisor.toNat := by
  intro divides
  have wrong := (divides 0x80000000 1 (by decide)).2
  revert wrong
  decide

/-! ## Quotients -/

/-- The lower half is the quotient in any case. -/
theorem aeabiUidiv_eq (nonzero : divisor ≠ 0) : aeabiUidiv value divisor = value / divisor := by
  have low := (halves_toNat (value / divisor) (value % divisor)).1
  apply BitVec.eq_of_toNat_eq
  rw [aeabiUidiv, BitVec.toNat_setWidth, aeabiUidivmod_eq nonzero, low]

theorem neg_ne_zero (nonzero : divisor ≠ 0) : -divisor ≠ 0 := by
  intro zero
  apply nonzero
  rw [← BitVec.neg_neg (x := divisor), zero]
  rfl

/-- `__aeabi_idiv` is the signed division of two's complement numbers. -/
theorem aeabiIdiv_eq (nonzero : divisor ≠ 0) : aeabiIdiv value divisor = value.sdiv divisor := by
  have unsigned : ∀ v div : BitVec 32, div ≠ 0 → (aeabiUidivmod v div).setWidth 32 = v / div :=
    fun v div apart => @aeabiUidiv_eq v div apart
  have sign : ∀ number : BitVec 32, number.slt 0 = number.msb := fun _ => BitVec.slt_zero_eq_msb
  simp only [aeabiIdiv, sign, BitVec.sdiv]
  cases value.msb
  · cases divisor.msb
    · simp [unsigned _ _ nonzero, BitVec.udiv_eq]
    · simp [unsigned _ _ (neg_ne_zero nonzero)]
  · cases divisor.msb
    · simp [unsigned _ _ nonzero]
    · simp [unsigned _ _ (neg_ne_zero nonzero)]

/-- `__aeabi_idiv` truncates toward zero, and `__aeabi_uidiv` is the floor of the
    quotient. -/
theorem software_division_quotients (value divisor : BitVec 32) (nonzero : divisor ≠ 0) :
    ((value ≠ BitVec.intMin 32 ∨ divisor ≠ -1) →
        (aeabiIdiv value divisor).toInt = value.toInt.tdiv divisor.toInt) ∧
      (aeabiUidiv value divisor).toNat = value.toNat / divisor.toNat := by
  constructor
  · intro fits
    rw [aeabiIdiv_eq nonzero]
    exact BitVec.toInt_sdiv_of_ne_or_ne value divisor fits
  · rw [aeabiUidiv_eq nonzero, BitVec.toNat_udiv]

theorem software_division_quotients_minimum :
    (aeabiIdiv (BitVec.intMin 32) 3).toInt = (BitVec.intMin 32).toInt.tdiv (3#32).toInt ∧
      (aeabiUidiv (BitVec.intMin 32) 3).toNat = (BitVec.intMin 32).toNat / (3#32).toNat :=
  ⟨(software_division_quotients _ 3 (by decide)).1 (.inr (by decide)),
    (software_division_quotients _ 3 (by decide)).2⟩

end ComputerSystems.Verified
