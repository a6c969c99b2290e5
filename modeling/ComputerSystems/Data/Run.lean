import Mathlib.Tactic.TypeStar

/-! # Properties along a run

A machine is a partial step function `step : σ → ε → Option σ`: it takes an event
in a state and stops when there is no next state.  `Along step property events
state` says that `property` holds of every state met and the event taken there
while the machine runs through `events`.

An assumption made along a run and an invariant of the states met give whatever
one step gives (`Along.invariant`).
-/

namespace ComputerSystems.Data

variable {σ ε : Type*} {step : σ → ε → Option σ} {assumed property : σ → ε → Prop} {state : σ}
  {events : List ε}

/-- `property` holds at every step of the run through `events` from `state`. -/
def Along (step : σ → ε → Option σ) (property : σ → ε → Prop) : List ε → σ → Prop
  | [], _ => True
  | event :: events, state =>
    property state event ∧ ∀ next ∈ step state event, Along step property events next

@[simp] theorem along_nil : Along step property [] state := trivial

@[simp] theorem along_cons {event : ε} :
    Along step property (event :: events) state ↔
      property state event ∧ ∀ next ∈ step state event, Along step property events next :=
  Iff.rfl

instance decidableAlong [∀ state event, Decidable (property state event)] :
    ∀ events state, Decidable (Along step property events state)
  | [], _ => inferInstanceAs (Decidable True)
  | event :: events, state =>
    have : ∀ next, Decidable (Along step property events next) := decidableAlong events
    inferInstanceAs (Decidable (property state event ∧
      ∀ next ∈ step state event, Along step property events next))

/-- A property of the events alone. -/
theorem Along.of_forall_mem {allowed : ε → Prop} (all : ∀ event ∈ events, allowed event) :
    Along step (fun _ event => allowed event) events state := by
  induction events generalizing state with
  | nil => exact along_nil
  | cons event events ih =>
    refine ⟨all event List.mem_cons_self, fun next _ => ih fun later mem => all later (List.mem_cons_of_mem event mem)⟩

/-- Two properties hold along a run. -/
theorem Along.and {other : σ → ε → Prop} (along : Along step property events state) (along' : Along step other events state) :
    Along step (fun state event => property state event ∧ other state event) events state := by
  induction events generalizing state with
  | nil => exact along_nil
  | cons event events ih =>
    exact ⟨⟨along.1, along'.1⟩, fun next steps => ih (along.2 next steps) (along'.2 next steps)⟩

/-- The property holds at the event behind every part of the run. -/
theorem Along.at_event {past later : List ε} {event : ε} {reached : σ}
    (along : Along step property (past ++ event :: later) state)
    (run : past.foldlM step state = some reached) : property reached event := by
  induction past generalizing state with
  | nil =>
    obtain rfl : state = reached := Option.some.inj run
    exact along.1
  | cons first past ih =>
    rw [List.foldlM_cons, Option.bind_eq_bind, Option.bind_eq_some_iff] at run
    obtain ⟨next, steps, run⟩ := run
    exact ih (along.2 next steps) run

/-- The induction rule for runs: an invariant that a step keeps where the
    assumption holds, and from which the property of that step follows. -/
theorem Along.invariant (along : Along step assumed events state) (inv : σ → Prop) (start : inv state)
    (keeps : ∀ state event, inv state → assumed state event →
      property state event ∧ ∀ next ∈ step state event, inv next) :
    Along step property events state := by
  induction events generalizing state with
  | nil => exact along_nil
  | cons event events ih =>
    obtain ⟨holds, kept⟩ := keeps state event start along.1
    exact ⟨holds, fun next steps => ih (along.2 next steps) (kept next steps)⟩

/-- The invariant holds in the state that the run reaches. -/
theorem Along.reached (along : Along step assumed events state) (inv : σ → Prop) (start : inv state)
    (keeps : ∀ state event, inv state → assumed state event → ∀ next, step state event = some next → inv next)
    {last : σ} (run : events.foldlM step state = some last) : inv last := by
  induction events generalizing state with
  | nil =>
    obtain rfl : state = last := Option.some.inj run
    exact start
  | cons event events ih =>
    rw [List.foldlM_cons, Option.bind_eq_bind, Option.bind_eq_some_iff] at run
    obtain ⟨next, steps, run⟩ := run
    exact ih (along.2 next steps) (keeps state event start along.1 next steps) run

/-- A property that holds at every step of every machine state. -/
theorem Along.of_invariant (inv : σ → Prop) (start : inv state)
    (keeps : ∀ state event, inv state →
      property state event ∧ ∀ next ∈ step state event, inv next) :
    Along step property events state := by
  induction events generalizing state with
  | nil => exact along_nil
  | cons event events ih =>
    obtain ⟨holds, kept⟩ := keeps state event start
    exact ⟨holds, fun next steps => ih (kept next steps)⟩

/-- Two properties that agree in every state that the invariant allows; the invariant
    need only be kept where they hold. -/
theorem Along.congr {other : σ → ε → Prop} (along : Along step assumed events state) (inv : σ → Prop)
    (start : inv state)
    (keeps : ∀ state event, inv state → assumed state event →
      (property state event ↔ other state event) ∧
        (property state event → ∀ next ∈ step state event, inv next)) :
    Along step property events state ↔ Along step other events state := by
  induction events generalizing state with
  | nil => exact Iff.rfl
  | cons event events ih =>
    obtain ⟨agree, kept⟩ := keeps state event start along.1
    rw [along_cons, along_cons, ← agree]
    apply and_congr_right
    intro holds
    exact forall₂_congr fun next steps => ih (along.2 next steps) (kept holds next steps)

end ComputerSystems.Data
