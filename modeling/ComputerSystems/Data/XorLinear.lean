import Mathlib.Data.BitVec
import Mathlib.Data.Nat.Prime.Basic
import Mathlib.Dynamics.PeriodicPts.Defs
import Mathlib.SetTheory.Cardinal.Finite

/-! # Words as vectors of bits

A function of words that takes `^^^` to `^^^` is known by what it makes of the words with
one bit (`XorLinear.represents`).  Its columns can be squared, so that what a large number
of steps makes of a word is computed without taking them (`Represents.power`).

The second part is about the steps of any function: the period of a point from what the
steps by its divisors do (`minimalPeriod_of_prime_divisors`), and a period as long as
there are other points (`exists_iterate_of_minimalPeriod`).
-/

namespace ComputerSystems.Data

variable {w : Nat} {f g : BitVec w → BitVec w} {columns columns' xs : List Nat} {x y k n : Nat}

/-! ## Columns -/

/-- What the columns of a function make of a word.  The functions of `Nat` are those that the
    kernel evaluates. -/
def applyColumns : List Nat → Nat → Nat
  | [], _ => 0
  | column :: columns, x => Nat.xor (Nat.mul (Nat.mod x 2) column) (applyColumns columns (Nat.div x 2))

@[simp] theorem applyColumns_nil : applyColumns [] x = 0 := rfl

theorem applyColumns_cons {column : Nat} :
    applyColumns (column :: columns) x = x % 2 * column ^^^ applyColumns columns (x / 2) := rfl

@[simp] theorem applyColumns_zero : applyColumns columns 0 = 0 := by
  induction columns with
  | nil => rfl
  | cons column columns ih => simp [applyColumns_cons, ih]

/-- One column, for the lowest bits of two words. -/
theorem mod_two_mul_xor {column : Nat} : (x ^^^ y) % 2 * column = x % 2 * column ^^^ y % 2 * column := by
  have parity : (x ^^^ y) % 2 = x % 2 ^^^ y % 2 := @Nat.xor_mod_two_pow x y 1
  rw [parity]
  obtain zero | one := Nat.mod_two_eq_zero_or_one x
  · simp [zero]
  · obtain zero' | one' := Nat.mod_two_eq_zero_or_one y
    · simp [zero', one]
    · simp [one, one']

theorem applyColumns_xor : applyColumns columns (x ^^^ y) = applyColumns columns x ^^^ applyColumns columns y := by
  induction columns generalizing x y with
  | nil => simp
  | cons column columns ih =>
    rw [applyColumns_cons, applyColumns_cons, applyColumns_cons, mod_two_mul_xor, Nat.xor_div_two, ih]
    ac_rfl

/-- The columns of a composition. -/
theorem applyColumns_map :
    applyColumns (columns.map (applyColumns columns')) x = applyColumns columns' (applyColumns columns x) := by
  induction columns generalizing x with
  | nil => simp
  | cons column columns ih =>
    rw [List.map_cons, applyColumns_cons, applyColumns_cons, ih, applyColumns_xor]
    obtain zero | one := Nat.mod_two_eq_zero_or_one x
    · simp [zero]
    · simp [one]

/-! ## Linear functions -/

/-- The function takes differences of bits to differences of bits. -/
def XorLinear (f : BitVec w → BitVec w) : Prop := ∀ x y, f (x ^^^ y) = f x ^^^ f y

namespace XorLinear

theorem zero (linear : XorLinear f) : f 0 = 0 := by
  have twice := linear 0 0
  simpa using twice

theorem id : XorLinear (fun x : BitVec w => x) := fun _ _ => rfl

theorem xor (linear : XorLinear f) (linear' : XorLinear g) : XorLinear fun x => f x ^^^ g x := by
  intro x y
  simp only [linear x y, linear' x y]
  ac_rfl

theorem comp (linear : XorLinear f) (linear' : XorLinear g) : XorLinear fun x => g (f x) := by
  intro x y
  simp only [linear x y, linear' (f x) (f y)]

theorem iterate (linear : XorLinear f) : XorLinear f^[n] := by
  induction n with
  | zero => exact id
  | succ n ih => exact linear.comp ih

theorem shiftLeft : XorLinear fun x : BitVec w => x <<< n := fun _ _ => BitVec.shiftLeft_xor_distrib ..

theorem ushiftRight : XorLinear fun x : BitVec w => x >>> n := fun _ _ => BitVec.ushiftRight_xor_distrib ..

end XorLinear

/-- The words with one bit. -/
def unitColumns (w : Nat) : List Nat := (List.range w).map fun i => (BitVec.twoPow w i).toNat

/-- What a function makes of the words with one bit. -/
def columnsOf (f : BitVec w → BitVec w) : List Nat := (List.range w).map fun i => (f (BitVec.twoPow w i)).toNat

/-- The columns are those of the function. -/
def Represents (columns : List Nat) (f : BitVec w → BitVec w) : Prop :=
  ∀ word, applyColumns columns word.toNat = (f word).toNat

/-- The columns from the bit `low` on, for a word without lower bits. -/
theorem applyColumns_from (linear : XorLinear f) {low count : Nat} (all : low + count = w) (word : BitVec w)
    (clear : ∀ i < low, word.getLsbD i = false) :
    applyColumns ((List.range' low count).map fun i => (f (BitVec.twoPow w i)).toNat) (word.toNat / 2 ^ low) =
      (f word).toNat := by
  -- on the columns that are left, from the lowest bit up
  induction count generalizing low word with
  | zero =>
    have nothing : word = 0 := by
      apply BitVec.eq_of_getLsbD_eq
      intro i inside
      rw [clear i (by omega)]
      simp
    have same : (f word).toNat = 0 := by
      rw [nothing, linear.zero, BitVec.ofNat_eq_ofNat, BitVec.toNat_ofNat, Nat.zero_mod]
    rw [same, List.range'_zero, List.map_nil, applyColumns_nil]
  | succ count ih =>
    rw [List.range'_succ, List.map_cons, applyColumns_cons, Nat.div_div_eq_div_mul, ← Nat.pow_succ]
    have bit : word.getLsbD low = decide (word.toNat / 2 ^ low % 2 = 1) := Nat.testBit_eq_decide_div_mod_eq
    by_cases set : word.getLsbD low = true
    · -- without its lowest bit the word has no bit below the next
      have rest := @ih (low + 1) (by omega) (word ^^^ BitVec.twoPow w low) (by
        intro i below
        rw [BitVec.getLsbD_xor, BitVec.getLsbD_twoPow]
        by_cases lowest : i = low
        · subst lowest
          have inside : i < w := by omega
          simp [set, inside]
        · rw [clear i (by omega)]
          simp [Ne.symm lowest])
      have upper : (word ^^^ BitVec.twoPow w low).toNat / 2 ^ (low + 1) = word.toNat / 2 ^ (low + 1) := by
        have small : 2 ^ low < 2 ^ (low + 1) := Nat.pow_lt_pow_right (by decide) (by omega)
        rw [BitVec.toNat_xor, Nat.xor_div_two_pow, BitVec.toNat_twoPow,
          Nat.mod_eq_of_lt (Nat.pow_lt_pow_right (by decide) (by omega)), Nat.div_eq_of_lt small, Nat.xor_zero]
      have whole : word = BitVec.twoPow w low ^^^ (word ^^^ BitVec.twoPow w low) := by
        rw [BitVec.xor_comm word, ← BitVec.xor_assoc, BitVec.xor_self, BitVec.zero_xor]
      rw [upper] at rest
      rw [bit, decide_eq_true_eq] at set
      have value : (f word).toNat = (f (BitVec.twoPow w low)).toNat ^^^ (f (word ^^^ BitVec.twoPow w low)).toNat := by
        rw [← BitVec.toNat_xor, ← linear, ← whole]
      rw [set, rest, Nat.one_mul, value]
    · have rest := @ih (low + 1) (by omega) word (by
        intro i below
        by_cases lowest : i = low
        · simpa [lowest] using set
        · exact clear i (by omega))
      rw [bit, decide_eq_true_eq] at set
      have even : word.toNat / 2 ^ low % 2 = 0 := by omega
      rw [even, rest, Nat.zero_mul, Nat.zero_xor]

theorem XorLinear.represents (linear : XorLinear f) : Represents (columnsOf f) f := by
  intro word
  have all := applyColumns_from linear (Nat.zero_add w) word (fun _ below => absurd below (Nat.not_lt_zero _))
  rwa [Nat.pow_zero, Nat.div_one, ← List.range_eq_range'] at all

/-- Linear functions with the same columns are the same. -/
theorem XorLinear.eq_of_columnsOf (linear : XorLinear f) (linear' : XorLinear g) (same : columnsOf f = columnsOf g)
    (word : BitVec w) : f word = g word := by
  apply BitVec.eq_of_toNat_eq
  rw [← linear.represents word, same, linear'.represents word]

/-- The columns of one function behind another. -/
theorem Represents.comp (first : Represents columns f) (second : Represents columns' g) :
    Represents (columns.map (applyColumns columns')) fun word => g (f word) := by
  intro word
  rw [applyColumns_map, first word, second (f word)]

/-! ## Powers -/

/-- The number is evaluated before what is computed from it. -/
def evaluated {α : Type*} (n : Nat) (next : Nat → α) : α :=
  match n with
  | 0 => next 0
  | n + 1 => next (n + 1)

@[simp] theorem evaluated_eq {α : Type*} {next : Nat → α} : evaluated n next = next n := by
  cases n <;> rfl

/-- The numbers of the list are evaluated before what is computed from them. -/
def evaluatedList {α : Type*} : List Nat → (List Nat → α) → α
  | [], next => next []
  | x :: xs, next => evaluated x fun x => evaluatedList xs fun xs => next (x :: xs)

@[simp] theorem evaluatedList_eq {α : Type*} {next : List Nat → α} : evaluatedList xs next = next xs := by
  induction xs generalizing next with
  | nil => rfl
  | cons x xs ih => rw [evaluatedList, evaluated_eq, ih]

/-- The columns for 1, 2, 4 and more steps. -/
def squares {α : Type*} : Nat → List Nat → (List (List Nat) → α) → α
  | 0, _, next => next []
  | count + 1, columns, next =>
    evaluatedList (columns.map (applyColumns columns)) fun square =>
      squares count square fun powers => next (columns :: powers)

/-- What `k` steps make of some words, from the columns for the powers of two. -/
def power : List (List Nat) → Nat → List Nat → List Nat
  | [], _, words => words
  | columns :: powers, k, words =>
    if k % 2 = 1 then evaluatedList (words.map (applyColumns columns)) (power powers (k / 2))
    else power powers (k / 2) words

/-- Each of the columns is for twice the steps of those before it. -/
inductive Doubling : (BitVec w → BitVec w) → List (List Nat) → Prop where
  | nil {f : BitVec w → BitVec w} : Doubling f []
  | cons {f : BitVec w → BitVec w} {columns : List Nat} {powers : List (List Nat)} (first : Represents columns f)
      (rest : Doubling (fun word => f (f word)) powers) : Doubling f (columns :: powers)

theorem Represents.squares {α : Type*} (next : List (List Nat) → α) (represents : Represents columns f)
    (count : Nat) : ∃ powers, powers.length = count ∧ Doubling f powers ∧ Data.squares count columns next = next powers := by
  induction count generalizing f columns next with
  | zero => exact ⟨[], rfl, .nil, rfl⟩
  | succ count ih =>
    obtain ⟨powers, length, doubling, same⟩ :=
      @ih (fun word => f (f word)) _ (fun powers => next (columns :: powers)) (represents.comp represents)
    exact ⟨columns :: powers, by rw [List.length_cons, length], .cons represents doubling,
      by rw [Data.squares, evaluatedList_eq, same]⟩

theorem unitColumns_eq : unitColumns w = columnsOf fun word : BitVec w => word := rfl

theorem iterate_double {α : Type*} {step : α → α} {a : α} :
    (fun a => step (step a))^[n] a = step^[2 * n] a := by
  have double : (fun a => step (step a)) = step^[2] := rfl
  rw [double, Function.iterate_mul]

/-- The words after `k` steps, where there are columns for every digit of `k`. -/
theorem Doubling.power {powers : List (List Nat)} (doubling : Doubling f powers) (small : k < 2 ^ powers.length)
    (words : List (BitVec w)) :
    Data.power powers k (words.map BitVec.toNat) = (words.map f^[k]).map BitVec.toNat := by
  induction doubling generalizing k words with
  | nil =>
    obtain rfl : k = 0 := by simpa using small
    simp [Data.power]
  | @cons f columns powers first rest ih =>
    rw [List.length_cons, Nat.pow_succ] at small
    have half := fun words => @ih (k / 2) (by omega) words
    rw [Data.power, evaluatedList_eq]
    -- an odd number applies the map once and goes on with half of it
    by_cases odd : k % 2 = 1
    · rw [if_pos odd]
      have stepped : (words.map BitVec.toNat).map (applyColumns columns) = (words.map f).map BitVec.toNat := by
        rw [List.map_map, List.map_map]
        exact List.map_congr_left fun word _ => first word
      rw [stepped, half]
      apply congrArg (List.map BitVec.toNat)
      rw [List.map_map]
      apply List.map_congr_left
      intro word _
      rw [Function.comp_apply, iterate_double, ← Function.iterate_succ_apply]
      congr 1
      omega
    · rw [if_neg odd, half]
      apply congrArg (List.map BitVec.toNat)
      apply List.map_congr_left
      intro word _
      rw [iterate_double]
      congr 1
      omega

/-- The columns of `k` steps. -/
theorem Doubling.power_unitColumns {powers : List (List Nat)} (doubling : Doubling f powers)
    (small : k < 2 ^ powers.length) : Data.power powers k (unitColumns w) = columnsOf f^[k] := by
  have units : unitColumns w = ((List.range w).map (BitVec.twoPow w)).map BitVec.toNat := by
    rw [List.map_map]
    rfl
  rw [units, doubling.power small, List.map_map, List.map_map]
  rfl

/-! ## Periods -/

section

variable {α : Type*} {step : α → α} {point other fixed : α} {period : Nat}

open Function

/-- A period is the least if no quotient by a prime is one. -/
theorem minimalPeriod_of_prime_divisors (returns : IsPeriodicPt step period point)
    (proper : ∀ p, p.Prime → p ∣ period → ¬ IsPeriodicPt step (period / p) point) :
    minimalPeriod step point = period := by
  obtain ⟨factor, split⟩ := returns.minimalPeriod_dvd
  by_contra different
  have not_one : factor ≠ 1 := by
    rintro rfl
    exact different (by rw [split, Nat.mul_one])
  obtain ⟨p, prime, divides⟩ := Nat.exists_prime_and_dvd not_one
  apply proper p prime (split ▸ divides.mul_left _)
  obtain ⟨rest, rfl⟩ := divides
  have quotient : period / p = minimalPeriod step point * rest := by
    rw [split, Nat.mul_left_comm, Nat.mul_div_cancel_left _ prime.pos]
  rw [quotient]
  exact (isPeriodicPt_minimalPeriod step point).mul_const rest

/-- Steps that lead back to every point lose and leave out none. -/
theorem bijective_of_iterate (positive : 0 < period) (returns : ∀ point, step^[period] point = point) :
    Bijective step := by
  obtain ⟨before, rfl⟩ := Nat.exists_eq_add_of_lt positive
  rw [Nat.zero_add] at returns
  refine ⟨fun x y same => ?_, fun y => ⟨step^[before] y, ?_⟩⟩
  · rw [← returns x, ← returns y, iterate_succ_apply, iterate_succ_apply, same]
  · exact (iterate_succ_apply' step before y).symm.trans (returns y)

/-- Steps from a point that comes back never reach a fixed point. -/
theorem iterate_ne_fixed (periodic : point ∈ periodicPts step) (fixes : step fixed = fixed) (apart : point ≠ fixed)
    (n : Nat) : step^[n] point ≠ fixed := by
  intro reached
  obtain ⟨period, positive, returns⟩ := periodic
  have later : step^[period * n] point = point := returns.mul_const n
  have split : period * n = (period * n - n) + n := by
    have more : n ≤ period * n := Nat.le_mul_of_pos_left n positive
    omega
  rw [split, iterate_add_apply, reached, iterate_fixed fixes] at later
  exact apart later.symm

/-- All points but a fixed one are reached if the period is as long as that. -/
theorem exists_iterate_of_minimalPeriod [Finite α] (fixes : step fixed = fixed) (apart : point ≠ fixed)
    (all : minimalPeriod step point + 1 = Nat.card α) (positive : 0 < minimalPeriod step point)
    (target : other ≠ fixed) : ∃ n < minimalPeriod step point, step^[n] point = other := by
  classical
  have : Fintype α := Fintype.ofFinite α
  rw [Nat.card_eq_fintype_card] at all
  have reached_card : ((Finset.range (minimalPeriod step point)).image fun n => step^[n] point).card =
      minimalPeriod step point := by
    rw [Finset.card_image_of_injOn, Finset.card_range]
    intro n inside n' inside' same
    exact iterate_injOn_Iio_minimalPeriod (Finset.mem_range.mp inside) (Finset.mem_range.mp inside') same
  have reached_sub : ((Finset.range (minimalPeriod step point)).image fun n => step^[n] point) ⊆
      Finset.univ.erase fixed := by
    intro value mem
    obtain ⟨n, _, rfl⟩ := Finset.mem_image.mp mem
    exact Finset.mem_erase.mpr
      ⟨iterate_ne_fixed (minimalPeriod_pos_iff_mem_periodicPts.mp positive) fixes apart n, Finset.mem_univ _⟩
  have reached_all := Finset.eq_of_subset_of_card_le reached_sub (by
    rw [Finset.card_erase_of_mem (Finset.mem_univ _), Finset.card_univ, reached_card]
    omega)
  have mem : other ∈ (Finset.range (minimalPeriod step point)).image fun n => step^[n] point := by
    rw [reached_all]
    exact Finset.mem_erase.mpr ⟨target, Finset.mem_univ _⟩
  obtain ⟨n, inside, reaches⟩ := Finset.mem_image.mp mem
  exact ⟨n, Finset.mem_range.mp inside, reaches⟩

end

end ComputerSystems.Data
