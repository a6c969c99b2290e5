import ComputerSystems.Data.Loop
import ComputerSystems.Data.Program

/-! # Loops of programs

A loop whose passes are programs: a pass goes on with a new value of the loop's vars
or leaves with a result.  It runs on fuel, and one that runs out of it loops for ever.
-/

namespace ComputerSystems.Data

open Program

variable {δ σ α ρ : Type}

/-- The loop, with fuel for that many passes. -/
def Program.repeated (pass : α → Program δ σ (Pass α ρ)) : Nat → α → Program δ σ ρ
  | 0, _ => halt .loop
  | fuel + 1, vars => do
    match ← pass vars with
    | .again next => repeated pass fuel next
    | .leave result => pure result

/-- What is known of a program from two rules. -/
theorem Wp.and {program : Program δ σ α} {post post' : α → σ → Prop} {now : σ} (goes : Wp program post now)
    (goes' : Wp program post' now) : Wp program (fun value later => post value later ∧ post' value later) now := by
  intro draws
  have good := goes draws
  have good' := goes' draws
  cases ran : program (now, draws) with
  | error stop =>
    rw [ran] at good
    exact good
  | ok result =>
    rw [ran] at good good'
    exact ⟨good, good'⟩

/-- What is said of a pass: of the vars that it goes on with, or of the result that it leaves with. -/
def Pass.Meets (again : α → Prop) (leave : ρ → Prop) : Pass α ρ → Prop
  | .again vars => again vars
  | .leave result => leave result

@[simp] theorem meets_again {again : α → Prop} {leave : ρ → Prop} (vars : α) :
    (Pass.again vars : Pass α ρ).Meets again leave ↔ again vars := Iff.rfl

@[simp] theorem meets_leave {again : α → Prop} {leave : ρ → Prop} (result : ρ) :
    (Pass.leave result : Pass α ρ).Meets again leave ↔ leave result := Iff.rfl

/-- The rule of loops: an invariant of the vars and the state, under which every pass lowers a
    measure or leaves with what is wanted. -/
theorem Wp.repeated {pass : α → Program δ σ (Pass α ρ)} {post : ρ → σ → Prop} (inv : α → σ → Prop)
    (measure : α → Nat)
    (passes : ∀ vars now, inv vars now → Wp (pass vars) (fun done later =>
      done.Meets (fun next => inv next later ∧ measure next < measure vars) fun result => post result later) now)
    {fuel : Nat} {vars : α} {now : σ} (start : inv vars now) (enough : measure vars < fuel) :
    Wp (Program.repeated pass fuel vars) post now := by
  induction fuel generalizing vars now with
  | zero => omega
  | succ fuel ih =>
    rw [Program.repeated]
    apply Wp.bind
    apply (passes vars now start).mono
    intro done later goes
    cases done with
    | again next =>
      obtain ⟨kept, less⟩ := (meets_again next).mp goes
      exact ih kept (by omega)
    | leave result => exact (wp_pure result).mpr goes

end ComputerSystems.Data
