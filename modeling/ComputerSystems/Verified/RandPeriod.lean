import ComputerSystems.Data.XorLinear
import ComputerSystems.System.Rand
import Mathlib.Tactic.NormNum.Prime

/-! # The period of `rand`

`xor_shift` is linear, so that what `2 ^ 32 - 1` steps make of a word is computed from
columns.  They lead back to every word, and the quotients of `2 ^ 32 - 1` by its primes do
not lead back to 1, whose steps therefore come by every other word but 0.
-/

namespace ComputerSystems.Verified

open ComputerSystems.Data ComputerSystems.System Function

variable {seed value word : BitVec 32} {k n : Nat}

/-! ## Steps -/

theorem xorLinear_xorShift : XorLinear xorShift := by
  have first : XorLinear fun state : BitVec 32 => state ^^^ state <<< 13 := XorLinear.id.xor .shiftLeft
  have second : XorLinear fun state : BitVec 32 => state ^^^ state >>> 17 := XorLinear.id.xor .ushiftRight
  have third : XorLinear fun state : BitVec 32 => state ^^^ state <<< 5 := XorLinear.id.xor .shiftLeft
  exact (first.comp second).comp third

theorem xorShift_zero : xorShift 0 = 0 := xorLinear_xorShift.zero

/-- The prime divisors of `2 ^ 32 - 1`. -/
def periodPrimes : List Nat := [3, 5, 17, 257, 65537]

/-- All words come back after `2 ^ 32 - 1` steps, and 1 does not come back any earlier. -/
def periodCheck (powers : List (List Nat)) : Bool :=
  power powers (2 ^ 32 - 1) (unitColumns 32) == unitColumns 32 &&
    periodPrimes.all fun p => power powers ((2 ^ 32 - 1) / p) [1] != [1]

theorem squares_periodCheck :
    (evaluatedList (columnsOf xorShift) fun columns => squares 32 columns periodCheck) = true := by
  decide +kernel

theorem exists_periodCheck : ∃ powers, powers.length = 32 ∧ Doubling xorShift powers ∧ periodCheck powers = true := by
  obtain ⟨powers, length, doubling, same⟩ := xorLinear_xorShift.represents.squares periodCheck 32
  have checked := squares_periodCheck
  rw [evaluatedList_eq, same] at checked
  exact ⟨powers, length, doubling, checked⟩

/-- Every word comes back. -/
theorem xorShift_iterate (word : BitVec 32) : xorShift^[2 ^ 32 - 1] word = word := by
  obtain ⟨powers, length, doubling, checked⟩ := exists_periodCheck
  rw [periodCheck, Bool.and_eq_true, beq_iff_eq, doubling.power_unitColumns (by rw [length]; decide),
    unitColumns_eq] at checked
  exact xorLinear_xorShift.iterate.eq_of_columnsOf .id checked.1 word

/-- 1 is elsewhere after the quotient by a prime. -/
theorem xorShift_iterate_div_ne {p : Nat} (mem : p ∈ periodPrimes) : xorShift^[(2 ^ 32 - 1) / p] 1 ≠ 1 := by
  obtain ⟨powers, length, doubling, checked⟩ := exists_periodCheck
  rw [periodCheck, Bool.and_eq_true, List.all_eq_true] at checked
  have apart := checked.2 p mem
  have small : (2 ^ 32 - 1) / p < 2 ^ powers.length := by
    rw [length]
    exact Nat.lt_of_le_of_lt (Nat.div_le_self _ _) (by decide)
  have words := doubling.power small [1]
  rw [List.map_singleton, List.map_singleton, List.map_singleton] at words
  intro returns
  rw [show [1] = [(1 : BitVec 32).toNat] from rfl, words, returns] at apart
  simp at apart

theorem mem_periodPrimes {p : Nat} (prime : p.Prime) (divides : p ∣ 2 ^ 32 - 1) : p ∈ periodPrimes := by
  have factors : 2 ^ 32 - 1 = 3 * (5 * (17 * (257 * 65537))) := by decide
  have primes : ∀ q ∈ periodPrimes, q.Prime := by
    simp only [periodPrimes, List.mem_cons, List.not_mem_nil, or_false, forall_eq_or_imp, forall_eq]
    norm_num
  rw [factors, prime.dvd_mul, prime.dvd_mul, prime.dvd_mul, prime.dvd_mul] at divides
  have among : ∀ q ∈ periodPrimes, p ∣ q → p ∈ periodPrimes := by
    intro q mem divides
    rwa [(Nat.prime_dvd_prime_iff_eq prime (primes q mem)).mp divides]
  obtain three | five | seventeen | middle | last := divides
  · exact among 3 (by decide) three
  · exact among 5 (by decide) five
  · exact among 17 (by decide) seventeen
  · exact among 257 (by decide) middle
  · exact among 65537 (by decide) last

/-- The steps from 1 take as long as they can. -/
theorem minimalPeriod_one : minimalPeriod xorShift 1 = 2 ^ 32 - 1 := by
  apply minimalPeriod_of_prime_divisors (xorShift_iterate 1)
  intro p prime divides
  exact xorShift_iterate_div_ne (mem_periodPrimes prime divides)

/-- The words but 0 are as many as the steps. -/
theorem period_add_one : 2 ^ 32 - 1 + 1 = Nat.card (BitVec 32) := by
  rw [Nat.card_congr BitVec.equivFin.toEquiv, Nat.card_fin]
  exact Nat.sub_add_cancel (Nat.one_le_two_pow)

instance finiteWord : Finite (BitVec 32) := Finite.of_equiv _ BitVec.equivFin.toEquiv.symm

/-- The steps from any word but 0 take as long. -/
theorem minimalPeriod_xorShift (nonzero : word ≠ 0) : minimalPeriod xorShift word = 2 ^ 32 - 1 := by
  obtain ⟨n, _, rfl⟩ := exists_iterate_of_minimalPeriod xorShift_zero (by decide : (1 : BitVec 32) ≠ 0)
    (by rw [minimalPeriod_one, period_add_one]) (by rw [minimalPeriod_one]; decide) nonzero
  rw [minimalPeriod_apply_iterate, minimalPeriod_one]
  exact ⟨2 ^ 32 - 1, by decide, xorShift_iterate 1⟩

/-! ## Values -/

theorem prngState_eq : prngState seed n = xorShift^[n + 1] seed := by
  induction n with
  | zero => rfl
  | succ n ih => rw [prngState, rand, ih, iterate_succ_apply' xorShift (n + 1) seed]

theorem randValue_eq : randValue seed n = xorShift^[n] (xorShift^[2] seed) := by
  rw [randValue, rand, prngState_eq, ← iterate_add_apply, iterate_succ_apply' xorShift (n + 1) seed]

/-- `xor_shift` is a bijection.  From a seed other than 0 the values of `rand` are never 0, and the
    first `2 ^ 32 - 1` of them are all others, each once. -/
theorem rand_runs_through :
    Bijective xorShift ∧ ∀ seed : BitVec 32, seed ≠ 0 →
      (∀ n, randValue seed n ≠ 0) ∧
      (∀ value : BitVec 32, value ≠ 0 → ∃ n < 2 ^ 32 - 1, randValue seed n = value) ∧
      ∀ m < 2 ^ 32 - 1, ∀ n < 2 ^ 32 - 1, randValue seed m = randValue seed n → m = n := by
  refine ⟨bijective_of_iterate (by decide) xorShift_iterate, fun seed nonzero => ?_⟩
  have first : xorShift^[2] seed ≠ 0 :=
    iterate_ne_fixed ⟨2 ^ 32 - 1, by decide, xorShift_iterate seed⟩ xorShift_zero nonzero 2
  have period := minimalPeriod_xorShift first
  simp only [randValue_eq]
  refine ⟨?never, ?every, ?once⟩
  case never =>
    exact iterate_ne_fixed ⟨2 ^ 32 - 1, by decide, xorShift_iterate _⟩ xorShift_zero first
  case every =>
    intro value target
    have reached := exists_iterate_of_minimalPeriod xorShift_zero first (by rw [period, period_add_one])
      (by rw [period]; decide) target
    rwa [period] at reached
  case once =>
    intro m inside n inside' same
    rw [← period] at inside inside'
    exact iterate_injOn_Iio_minimalPeriod inside inside' same

/-- The values from the seed 1 on. -/
theorem rand_runs_through_one : ∃ n < 2 ^ 32 - 1, randValue 1 n = 0xdeadbeef :=
  (rand_runs_through.2 1 (by decide)).2.1 0xdeadbeef (by decide)

end ComputerSystems.Verified
