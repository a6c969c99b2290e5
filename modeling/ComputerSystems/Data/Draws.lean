import ComputerSystems.Data.ProgramLoop

/-! # How much programs draw

`Draws count program` says that the program draws at most `count` values wherever it begins,
so that one that neither faults nor loops returns if there are as many to draw
(`Draws.returns`).
-/

namespace ComputerSystems.Data

open Program

variable {δ σ α β ρ : Type} {program : Program δ σ α} {count more : Nat}

/-- The program draws at most `count` values. -/
def Draws (count : Nat) (program : Program δ σ α) : Prop :=
  ∀ now draws, match program (now, draws) with
    | .ok (_, _, rest) => draws.length ≤ rest.length + count
    | .error stop => stop = .drawing → draws.length < count

namespace Draws

theorem mono (few : Draws count program) (le : count ≤ more) : Draws more program := by
  intro now draws
  have bound := few now draws
  cases ran : program (now, draws) with
  | error stop =>
    rw [ran] at bound
    exact fun drawing => Nat.lt_of_lt_of_le (bound drawing) le
  | ok result =>
    rw [ran] at bound
    exact Nat.le_trans bound (Nat.add_le_add_left le _)

theorem pure (value : α) : Draws count (Pure.pure value : Program δ σ α) :=
  fun _ draws => Nat.le_add_right draws.length count

theorem halt {stop : Stop} (other : stop ≠ .drawing) : Draws count (Program.halt stop : Program δ σ α) :=
  fun _ _ drawing => absurd drawing other

theorem state : Draws count (Program.state : Program δ σ σ) := fun _ draws => Nat.le_add_right draws.length count

theorem update (change : σ → σ) : Draws count (Program.update change : Program δ σ Unit) :=
  fun _ draws => Nat.le_add_right draws.length count

theorem draw : Draws 1 (Program.draw : Program δ σ δ)
  | _, [] => fun _ => Nat.one_pos
  | _, _ :: _ => Nat.le_refl _

/-- The numbers of a sequence add up. -/
theorem bind {next : α → Program δ σ β} (first : Draws count program) (rest : ∀ value, Draws more (next value)) :
    Draws (more + count) (program >>= next) := by
  intro now draws
  have bound := first now draws
  change match (program (now, draws) >>= fun result => next result.1 result.2) with
    | .ok (_, _, rest) => draws.length ≤ rest.length + (more + count)
    | .error stop => stop = .drawing → draws.length < more + count
  cases ran : program (now, draws) with
  | error stop =>
    rw [ran] at bound
    exact fun drawing => Nat.lt_of_lt_of_le (bound drawing) (Nat.le_add_left count more)
  -- the second part draws from what the first has left
  | ok result =>
    obtain ⟨value, later, left⟩ := result
    rw [ran] at bound
    have bound' := rest value later left
    change match next value (later, left) with
      | .ok (_, _, rest) => draws.length ≤ rest.length + (more + count)
      | .error stop => stop = .drawing → draws.length < more + count
    simp only at bound
    cases ran' : next value (later, left) with
    | error stop =>
      rw [ran'] at bound'
      intro drawing
      have less := bound' drawing
      omega
    | ok result' =>
      rw [ran'] at bound'
      simp only at bound' ⊢
      omega

/-- Something that draws nothing comes first. -/
theorem after {next : α → Program δ σ β} (first : Draws 0 program) (rest : ∀ value, Draws count (next value)) :
    Draws count (program >>= next) := first.bind rest

/-- Nothing is drawn behind it. -/
theorem before {next : α → Program δ σ β} (first : Draws count program) (rest : ∀ value, Draws 0 (next value)) :
    Draws count (program >>= next) :=
  (first.bind rest).mono (Nat.le_of_eq (Nat.zero_add count))

theorem each {body : β → Program δ σ Unit} (few : ∀ item, Draws count (body item)) (items : List β) :
    Draws (items.length * count) (Program.each body items) := by
  induction items with
  | nil => exact .pure ()
  | cons item items ih =>
    rw [List.length_cons, Nat.succ_mul]
    exact (few item).bind fun _ => ih

/-- Every pass of a loop draws so much at most. -/
theorem repeated {pass : α → Program δ σ (Pass α ρ)} (few : ∀ vars, Draws count (pass vars)) (fuel : Nat) (vars : α) :
    Draws (fuel * count) (Program.repeated pass fuel vars) := by
  induction fuel generalizing vars with
  | zero => exact .halt nofun
  | succ fuel ih =>
    rw [Nat.succ_mul]
    refine (few vars).bind fun done => ?_
    cases done with
    | again next => exact ih next
    | leave result => exact .pure result

/-- A program that goes well returns if there is enough to draw. -/
theorem returns {post : α → σ → Prop} {now : σ} {draws : List δ} (few : Draws count program) (goes : Wp program post now)
    (enough : count ≤ draws.length) : ∃ value later rest, program (now, draws) = .ok (value, later, rest) := by
  have bound := few now draws
  have good := goes draws
  cases ran : program (now, draws) with
  | error stop =>
    rw [ran] at bound good
    exact absurd (bound good) (Nat.not_lt.mpr enough)
  | ok result => exact ⟨_, _, _, rfl⟩

end Draws

end ComputerSystems.Data
