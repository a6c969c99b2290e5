import Mathlib.Data.List.Pairwise
import Mathlib.Order.Basic

/-! # Searches in growing shells

A search goes through shells of places and stops at its first hit.  Each shell holds the
ones before it and the places of the next rank, and is scanned in an order of its own.
As every shell is scanned from its beginning again, only the first one can be left at a
place that is not among its nearest: whatever is found in a later shell has the rank of
that shell.
-/

namespace ComputerSystems.Data

variable {α β : Type*} {before : α → α → Prop} {valid : α → Prop} {rank : α → Nat} {inner : Nat}
  {shell : Nat → List α} {hit : α → Option β} {value : β}

/-- In a list that is in order no hit comes before the first one. -/
theorem findSome?_sorted {places : List α} (sorted : places.Pairwise before)
    (finds : places.findSome? hit = some value) :
    ∃ place ∈ places, hit place = some value ∧ ∀ other ∈ places, hit other ≠ none → other = place ∨ before place other := by
  obtain ⟨front, place, rest, rfl, hits, missed⟩ := List.findSome?_eq_some_iff.mp finds
  refine ⟨place, by simp, hits, ?_⟩
  intro other isIn found
  rcases List.mem_append.mp isIn with inFront | inRest
  · exact absurd (missed other inFront) found
  · cases List.mem_cons.mp inRest with
    | inl same => exact .inl same
    | inr later =>
      have ordered := (List.pairwise_append.mp sorted).2.1
      exact .inr ((List.pairwise_cons.mp ordered).1 other later)

/-- A search level by level ends at the first level where there is a hit. -/
theorem findSome?_levels {levels : Nat} (finds : ((List.range levels).flatMap shell).findSome? hit = some value) :
    ∃ level < levels, (shell level).findSome? hit = some value ∧
      ∀ earlier < level, ∀ place ∈ shell earlier, hit place = none := by
  induction levels with
  | zero => simp at finds
  | succ levels ih =>
    rw [List.range_succ, List.flatMap_append, List.findSome?_append, List.flatMap_singleton] at finds
    cases below : ((List.range levels).flatMap shell).findSome? hit with
    | some found =>
      rw [below, Option.some_or] at finds
      obtain ⟨level, inside, found⟩ := ih (below.trans finds)
      exact ⟨level, by omega, found⟩
    | none =>
      rw [below, Option.none_or] at finds
      refine ⟨levels, by omega, finds, ?_⟩
      intro earlier isEarlier place isIn
      have inside : place ∈ (List.range levels).flatMap shell :=
        List.mem_flatMap.mpr ⟨earlier, List.mem_range.mpr isEarlier, isIn⟩
      exact List.findSome?_eq_none_iff.mp below place inside

/-- The places up to a rank, in order: the first shell goes up to `inner`, every other one
    a rank further. -/
structure Shells (before : α → α → Prop) (valid : α → Prop) (rank : α → Nat) (inner : Nat) (shell : Nat → List α) :
    Prop where
  mem : ∀ level place, place ∈ shell level ↔ valid place ∧ rank place ≤ inner + level
  sorted : ∀ level, (shell level).Pairwise before

/-- What a search in growing shells finds: the nearest place but for those of the first
    shell, and the first place of that shell. -/
structure FoundAt (before : α → α → Prop) (valid : α → Prop) (rank : α → Nat) (inner levels : Nat) (hit : α → Option β)
    (value : β) (place : α) : Prop where
  isValid : valid place
  hits : hit place = some value
  near : rank place < inner + levels
  least : ∀ other, valid other → hit other ≠ none → rank place ≤ max (rank other) inner
  first : ∀ other, valid other → hit other ≠ none → rank other ≤ inner → other = place ∨ before place other

namespace Shells

variable {levels : Nat}

/-- Nothing is found if there is no hit up to the rank of the last shell. -/
theorem findSome?_eq_none (shells : Shells before valid rank inner shell) (positive : 0 < levels) :
    ((List.range levels).flatMap shell).findSome? hit = none ↔
      ∀ place, valid place → rank place < inner + levels → hit place = none := by
  rw [List.findSome?_eq_none_iff]
  constructor
  · intro missed place isValid near
    apply missed
    refine List.mem_flatMap.mpr ⟨levels - 1, List.mem_range.mpr (by omega), ?_⟩
    rw [shells.mem]
    exact ⟨isValid, by omega⟩
  · intro missed place isIn
    obtain ⟨level, inside, isIn⟩ := List.mem_flatMap.mp isIn
    rw [List.mem_range] at inside
    rw [shells.mem] at isIn
    exact missed place isIn.1 (by omega)

theorem findSome?_eq_some (shells : Shells before valid rank inner shell)
    (finds : ((List.range levels).flatMap shell).findSome? hit = some value) :
    ∃ place, FoundAt before valid rank inner levels hit value place := by
  obtain ⟨level, inside, found, missed⟩ := findSome?_levels finds
  obtain ⟨place, isIn, hits, first⟩ := findSome?_sorted (shells.sorted level) found
  obtain ⟨isValid, near⟩ := (shells.mem level place).mp isIn
  -- whatever is in an earlier shell is no hit
  have beyond : ∀ other, valid other → hit other ≠ none → ∀ earlier < level, inner + earlier < rank other := by
    intro other otherValid otherHit earlier isEarlier
    by_contra inEarlier
    exact otherHit (missed earlier isEarlier other ((shells.mem earlier other).mpr ⟨otherValid, by omega⟩))
  refine ⟨place, isValid, hits, by omega, ?_, ?_⟩
  · intro other otherValid otherHit
    cases level with
    | zero => omega
    | succ level =>
      have := beyond other otherValid otherHit level (by omega)
      omega
  · intro other otherValid otherHit isInner
    exact first other ((shells.mem level other).mpr ⟨otherValid, by omega⟩) otherHit

end Shells

end ComputerSystems.Data
