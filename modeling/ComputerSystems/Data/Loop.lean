import Mathlib.Tactic.TypeStar

/-! # Loops that may not end

A loop is given by what one pass through it does: it goes on with a new state or
leaves with a result.  `iterate` runs it on fuel and is what is evaluated; `Ends`
says that the loop leaves after some number of passes.

A loop whose passes lower a measure ends (`Ends.of_invariant`), and one that stays
in a set of states which no pass leaves never does (`not_ends_of_stuck`).
-/

namespace ComputerSystems.Data

variable {σ ρ : Type*}

/-- One pass through a loop. -/
inductive Pass (σ ρ : Type*) where
  | again (state : σ)
  | leave (result : ρ)

/-- The loop, with fuel for that many passes. -/
def iterate (pass : σ → Pass σ ρ) : Nat → σ → Option ρ
  | 0, _ => none
  | fuel + 1, state =>
    match pass state with
    | .again next => iterate pass fuel next
    | .leave result => some result

/-- The loop leaves with `result` when it is entered in `state`. -/
inductive Ends (pass : σ → Pass σ ρ) : σ → ρ → Prop where
  | leave {state : σ} {result : ρ} (leaves : pass state = .leave result) : Ends pass state result
  | again {state next : σ} {result : ρ} (goes : pass state = .again next)
      (ends : Ends pass next result) : Ends pass state result

variable {pass : σ → Pass σ ρ} {state : σ} {result : ρ}

theorem Ends.of_iterate {fuel : Nat} (runs : iterate pass fuel state = some result) :
    Ends pass state result := by
  induction fuel generalizing state with
  | zero => simp [iterate] at runs
  | succ fuel ih =>
    rw [iterate] at runs
    cases one : pass state with
    | again next =>
      rw [one] at runs
      exact .again one (ih runs)
    | leave left =>
      rw [one] at runs
      obtain rfl : left = result := Option.some.inj runs
      exact .leave one

theorem Ends.iterate (ends : Ends pass state result) :
    ∃ fuel, Data.iterate pass fuel state = some result := by
  induction ends with
  | leave leaves => exact ⟨1, by simp [Data.iterate, leaves]⟩
  | again goes _ ih =>
    obtain ⟨fuel, runs⟩ := ih
    exact ⟨fuel + 1, by simp [Data.iterate, goes, runs]⟩

/-- A loop leaves with one result. -/
theorem Ends.unique {other : ρ} (ends : Ends pass state result) (again : Ends pass state other) : result = other := by
  induction ends with
  | leave leaves =>
    cases again with
    | leave leaves' => exact Pass.leave.inj (leaves.symm.trans leaves')
    | again goes _ => exact nomatch leaves.symm.trans goes
  | again goes _ ih =>
    cases again with
    | leave leaves => exact nomatch goes.symm.trans leaves
    | again goes' ends' =>
      cases Pass.again.inj (goes.symm.trans goes')
      exact ih ends'

/-- More fuel does not change a result. -/
theorem iterate_mono {fuel more : Nat} (runs : iterate pass fuel state = some result)
    (enough : fuel ≤ more) : iterate pass more state = some result := by
  induction fuel generalizing state more with
  | zero => simp [iterate] at runs
  | succ fuel ih =>
    obtain ⟨more, rfl⟩ : ∃ rest, more = rest + 1 := ⟨more - 1, by omega⟩
    rw [iterate] at runs ⊢
    cases one : pass state with
    | again next =>
      rw [one] at runs
      exact ih runs (by omega)
    | leave left =>
      rw [one] at runs
      exact runs

theorem iterate_iff_ends :
    (∃ fuel, iterate pass fuel state = some result) ↔ Ends pass state result :=
  ⟨fun ⟨_, runs⟩ => .of_iterate runs, Ends.iterate⟩

/-- The rule for loops: an invariant under which every pass goes on with a lower
    measure or leaves with what is wanted. -/
theorem Ends.of_invariant (inv : σ → Prop) (measure : σ → Nat) (wanted : ρ → Prop)
    (lowers : ∀ state next, inv state → pass state = .again next →
      inv next ∧ measure next < measure state)
    (leaves : ∀ state result, inv state → pass state = .leave result → wanted result)
    (start : inv state) : ∃ result, Ends pass state result ∧ wanted result := by
  induction size : measure state using Nat.strongRecOn generalizing state with
  | _ size ih =>
    cases one : pass state with
    | leave result => exact ⟨result, .leave one, leaves state result start one⟩
    | again next =>
      obtain ⟨kept, less⟩ := lowers state next start one
      obtain ⟨result, ends, holds⟩ := ih (measure next) (size ▸ less) kept rfl
      exact ⟨result, .again one ends, holds⟩

/-- A loop ends when an invariant lets every pass lower a measure. -/
theorem Ends.of_measure (inv : σ → Prop) (measure : σ → Nat)
    (lowers : ∀ state next, inv state → pass state = .again next →
      inv next ∧ measure next < measure state)
    (start : inv state) : ∃ result, Ends pass state result := by
  obtain ⟨result, ends, _⟩ :=
    Ends.of_invariant inv measure (fun _ => True) lowers (fun _ _ _ _ => trivial) start
  exact ⟨result, ends⟩

/-- A loop that cannot leave a set of states does not end there. -/
theorem not_ends_of_stuck (stuck : σ → Prop)
    (stays : ∀ state, stuck state → ∃ next, pass state = .again next ∧ stuck next)
    (start : stuck state) : ¬ Ends pass state result := by
  intro ends
  induction ends with
  | leave leaves =>
    obtain ⟨next, goes, _⟩ := stays _ start
    simp [leaves] at goes
  | again goes _ ih =>
    obtain ⟨next, goes', kept⟩ := stays _ start
    rw [goes] at goes'
    cases goes'
    exact ih kept

end ComputerSystems.Data
