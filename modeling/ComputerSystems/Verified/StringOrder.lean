import ComputerSystems.System.CString
import Mathlib.Data.Set.Insert

/-! # What `strcmp` orders

`strcmp` only returns a difference where both strings have a character, so that a string
is the same as each of its prefixes.  Where no string is a prefix of another it is the
lexicographic order.
-/

namespace ComputerSystems.Verified

open ComputerSystems.Data ComputerSystems.System

variable {string1 string2 string3 : CString} {chars1 chars2 : List UInt8} {c1 c2 : UInt8} {length : Nat}

/-! ## The loop -/

/-- What is returned for the characters from some index on. -/
def compareChars : List UInt8 → List UInt8 → Int
  | c1 :: chars1, c2 :: chars2 =>
    if c1 = c2 then compareChars chars1 chars2 else if c2 < c1 then 1 else -1
  | _, _ => 0

@[simp] theorem compareChars_nil_left : compareChars [] chars2 = 0 := rfl

@[simp] theorem compareChars_nil_right : compareChars chars1 [] = 0 := by
  cases chars1 <;> rfl

theorem compareChars_cons :
    compareChars (c1 :: chars1) (c2 :: chars2) =
      if c1 = c2 then compareChars chars1 chars2 else if c2 < c1 then 1 else -1 := rfl

theorem char_of_lt (inside : length < string1.chars.length) :
    string1.char length = string1.chars[length] ∧ string1.char length ≠ 0 := by
  have read : string1.char length = string1.chars[length] := by
    simp [CString.char, inside]
  refine ⟨read, fun zero => string1.terminated ?_⟩
  rw [← zero, read]
  exact List.getElem_mem inside

theorem char_of_ge (outside : string1.chars.length ≤ length) : string1.char length = 0 := by
  simp [CString.char, outside]

/-- The loop goes on from an index up to which the strings are the same. -/
theorem iterate_strcmpPass {fuel : Nat} (enough : string1.chars.length - length < fuel) :
    (iterate (strcmpPass string1 string2) fuel length).map (strcmpResult string1 string2) =
      some (compareChars (string1.chars.drop length) (string2.chars.drop length)) := by
  -- Each pass leaves one character less in the first string.
  induction fuel generalizing length with
  | zero => omega
  | succ fuel ih =>
    rw [iterate]
    by_cases inside1 : length < string1.chars.length
    · obtain ⟨read1, nonzero1⟩ := char_of_lt inside1
      by_cases inside2 : length < string2.chars.length
      · obtain ⟨read2, nonzero2⟩ := char_of_lt inside2
        rw [List.drop_eq_getElem_cons inside1, List.drop_eq_getElem_cons inside2, compareChars_cons, ← read1, ← read2]
        by_cases same : string1.char length = string2.char length
        · have goes : strcmpPass string1 string2 length = .again (length + 1) := by
            rw [strcmpPass, if_pos ⟨nonzero1, nonzero2⟩, if_neg (not_not_intro same)]
          rw [goes, if_pos same]
          exact ih (by omega)
        · have leaves : strcmpPass string1 string2 length = .leave length := by
            rw [strcmpPass, if_pos ⟨nonzero1, nonzero2⟩, if_pos same]
          rw [leaves, if_neg same, Option.map_some, strcmpResult, if_pos ⟨nonzero1, nonzero2⟩]
          by_cases greater : string2.char length < string1.char length
          · rw [if_pos greater, if_pos greater]
          · have less : string1.char length < string2.char length :=
              UInt8.lt_of_le_of_ne (UInt8.not_lt.mp greater) same
            rw [if_neg greater, if_neg greater, if_pos less]
      · have ended := char_of_ge (Nat.le_of_not_lt inside2)
        simp [strcmpPass, strcmpResult, ended, List.drop_eq_nil_of_le (Nat.le_of_not_lt inside2)]
    · have ended := char_of_ge (Nat.le_of_not_lt inside1)
      simp [strcmpPass, strcmpResult, ended, List.drop_eq_nil_of_le (Nat.le_of_not_lt inside1)]

/-- `strcmp` returns. -/
theorem strcmp_eq : strcmp string1 string2 = some (compareChars string1.chars string2.chars) :=
  iterate_strcmpPass (by simp [strlen])

/-! ## Characters -/

/-- A character is not less than itself or than one that is less than it. -/
theorem compareChars_swap : compareChars chars2 chars1 = -compareChars chars1 chars2 := by
  induction chars1 generalizing chars2 with
  | nil => simp
  | cons c1 chars1 ih =>
    cases chars2 with
    | nil => simp
    | cons c2 chars2 =>
      rw [compareChars_cons, compareChars_cons]
      by_cases same : c1 = c2
      · rw [if_pos same, if_pos same.symm, ih]
      · rw [if_neg same, if_neg (Ne.symm same)]
        by_cases less : c1 < c2
        · rw [if_pos less, if_neg (UInt8.lt_asymm less)]
          rfl
        · have greater : c2 < c1 := UInt8.lt_of_le_of_ne (UInt8.not_lt.mp less) (Ne.symm same)
          rw [if_neg less, if_pos greater]

/-- No difference is found when one of the strings ends first. -/
theorem compareChars_eq_zero_iff : compareChars chars1 chars2 = 0 ↔ chars1 <+: chars2 ∨ chars2 <+: chars1 := by
  induction chars1 generalizing chars2 with
  | nil => simp
  | cons c1 chars1 ih =>
    cases chars2 with
    | nil => simp
    | cons c2 chars2 =>
      rw [compareChars_cons, List.cons_prefix_cons, List.cons_prefix_cons]
      by_cases same : c1 = c2
      · simp [same, ih]
      · simp only [if_false, same, Ne.symm same, false_and, or_self, iff_false]
        split <;> omega

/-- What is less is less as a list. -/
theorem lt_of_compareChars (less : compareChars chars1 chars2 < 0) : chars1 < chars2 := by
  induction chars1 generalizing chars2 with
  | nil => simp at less
  | cons c1 chars1 ih =>
    cases chars2 with
    | nil => simp at less
    | cons c2 chars2 =>
      rw [compareChars_cons] at less
      rw [List.cons_lt_cons_iff]
      by_cases same : c1 = c2
      · rw [if_pos same] at less
        exact .inr ⟨same, ih less⟩
      · rw [if_neg same] at less
        by_cases greater : c2 < c1
        · rw [if_pos greater] at less
          exact absurd less (by decide)
        · exact .inl (UInt8.lt_of_le_of_ne (UInt8.not_lt.mp greater) same)

theorem compareChars_of_lt (less : chars1 < chars2) : compareChars chars1 chars2 ≤ 0 := by
  induction chars1 generalizing chars2 with
  | nil => simp
  | cons c1 chars1 ih =>
    cases chars2 with
    | nil => simp
    | cons c2 chars2 =>
      rw [compareChars_cons]
      rw [List.cons_lt_cons_iff] at less
      cases less with
      | inl first =>
        rw [if_neg (UInt8.ne_of_lt first), if_neg (UInt8.lt_asymm first)]
        decide
      | inr rest =>
        rw [if_pos rest.1]
        exact ih rest.2

/-! ## Sets of strings -/

/-- `strcmp` returns a value that is not positive. -/
def NotAfter (string1 string2 : CString) : Prop := ∃ result ≤ 0, strcmp string1 string2 = some result

/-- `strcmp` is a test for a total order of the strings in a set. -/
structure OrderTest (strings : Set CString) : Prop where
  equal : ∀ string1 ∈ strings, ∀ string2 ∈ strings, strcmp string1 string2 = some 0 ↔ string1 = string2
  opposite : ∀ string1 ∈ strings, ∀ string2 ∈ strings,
    ∃ result, strcmp string1 string2 = some result ∧ strcmp string2 string1 = some (-result)
  transitive : ∀ string1 ∈ strings, ∀ string2 ∈ strings, ∀ string3 ∈ strings,
    NotAfter string1 string2 → NotAfter string2 string3 → NotAfter string1 string3

/-- No string in a set is a prefix of another. -/
def PrefixFree (strings : Set CString) : Prop :=
  ∀ string1 ∈ strings, ∀ string2 ∈ strings, string1.chars <+: string2.chars → string1 = string2

theorem notAfter_iff : NotAfter string1 string2 ↔ compareChars string1.chars string2.chars ≤ 0 := by
  simp [NotAfter, strcmp_eq]

theorem strcmp_eq_zero_iff :
    strcmp string1 string2 = some 0 ↔ string1.chars <+: string2.chars ∨ string2.chars <+: string1.chars := by
  rw [strcmp_eq, Option.some.injEq, compareChars_eq_zero_iff]

/-- Strings of which neither is a prefix of the other come in the order of lists. -/
theorem notAfter_trans (first : string1.chars < string2.chars) (second : string2.chars < string3.chars) :
    NotAfter string1 string3 := by
  rw [notAfter_iff]
  exact compareChars_of_lt (List.lt_trans first second)

/-- A string that is not behind another is the same or less. -/
theorem eq_or_lt_of_notAfter {strings : Set CString} (free : PrefixFree strings) (mem1 : string1 ∈ strings)
    (mem2 : string2 ∈ strings) (notAfter : NotAfter string1 string2) :
    string1 = string2 ∨ string1.chars < string2.chars := by
  rw [notAfter_iff] at notAfter
  by_cases zero : compareChars string1.chars string2.chars = 0
  · left
    cases compareChars_eq_zero_iff.mp zero with
    | inl isPrefix => exact free string1 mem1 string2 mem2 isPrefix
    | inr isPrefix => exact (free string2 mem2 string1 mem1 isPrefix).symm
  · exact .inr (lt_of_compareChars (by omega))

/-- `strcmp` is an order test of exactly the sets in which no string is a prefix of another. -/
theorem strcmp_orders_prefix_free (strings : Set CString) : OrderTest strings ↔ PrefixFree strings := by
  constructor
  · intro test string1 mem1 string2 mem2 isPrefix
    exact (test.equal string1 mem1 string2 mem2).mp (strcmp_eq_zero_iff.mpr (.inl isPrefix))
  · intro free
    refine ⟨?equal, ?opposite, ?transitive⟩
    case equal =>
      intro string1 mem1 string2 mem2
      rw [strcmp_eq_zero_iff]
      constructor
      · rintro (isPrefix | isPrefix)
        · exact free string1 mem1 string2 mem2 isPrefix
        · exact (free string2 mem2 string1 mem1 isPrefix).symm
      · rintro rfl
        exact .inl (List.prefix_refl _)
    case opposite =>
      intro string1 _ string2 _
      exact ⟨_, strcmp_eq, by rw [strcmp_eq, compareChars_swap]⟩
    case transitive =>
      intro string1 mem1 string2 mem2 string3 mem3 first second
      obtain rfl | less := eq_or_lt_of_notAfter free mem1 mem2 first
      · exact second
      · obtain rfl | less' := eq_or_lt_of_notAfter free mem2 mem3 second
        · exact first
        · exact notAfter_trans less less'

theorem letters_terminated : 0 ∉ ([97] : List UInt8) ∧ 0 ∉ ([98] : List UInt8) := by decide

/-- `a`. -/
def letterA : CString := ⟨[97], letters_terminated.1⟩

/-- `b`. -/
def letterB : CString := ⟨[98], letters_terminated.2⟩

/-- The empty string is the same as `a` and as `b`, although `b` is behind `a`. -/
theorem strcmp_not_orderTest :
    ¬ OrderTest Set.univ ∧ strcmp letterA .empty = some 0 ∧ NotAfter letterB .empty ∧ NotAfter .empty letterA ∧
      ¬ NotAfter letterB letterA := by
  have same : strcmp letterA .empty = some 0 := by decide
  refine ⟨fun test => ?_, same, ⟨0, by decide, by decide⟩, ⟨0, by decide, by decide⟩, ?_⟩
  · have equal := (test.equal letterA trivial .empty trivial).mp same
    exact absurd equal (by decide)
  · rw [notAfter_iff]
    decide

end ComputerSystems.Verified
