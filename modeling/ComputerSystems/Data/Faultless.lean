import ComputerSystems.Data.Footprint

/-! # Programs that do not fault

`Faultless program now` says that from `now` the program accesses no memory that it must not
access, whatever it draws.  It may still be drawing, and it may loop.  What the first part of a
sequence leaves to the second is known from `Wlp`.
-/

namespace ComputerSystems.Data

open Program

variable {δ σ α β : Type} {program : Program δ σ α} {now : σ}

/-- From `now` the program does not fault. -/
def Faultless (program : Program δ σ α) (now : σ) : Prop := ∀ draws, program (now, draws) ≠ .error .fault

theorem Wp.faultless {post : α → σ → Prop} (goes : Wp program post now) : Faultless program now := by
  intro draws faults
  have good := goes draws
  rw [faults] at good
  cases good

theorem OnlyDraws.faultless (draws : OnlyDraws program) : Faultless program now :=
  (draws now (fun _ _ => True) fun _ => trivial).faultless

/-- A sequence faults in its first part or in its second. -/
theorem bind_ne_fault {next : α → Program δ σ β} {start : σ × List δ} (first : program start ≠ .error .fault)
    (rest : ∀ value mid left, program start = .ok (value, mid, left) → next value (mid, left) ≠ .error .fault) :
    (program >>= next) start ≠ .error .fault := by
  change (program start >>= fun done => next done.1 done.2) ≠ .error .fault
  cases ran : program start with
  | error stop =>
    intro faults
    obtain rfl : stop = .fault := Except.error.inj faults
    exact first ran
  | ok done => exact rest _ _ _ ran

namespace Faultless

theorem pure (value : α) : Faultless (Pure.pure value : Program δ σ α) now := by
  rintro _ ⟨⟩

theorem update {change : σ → σ} : Faultless (Program.update change : Program δ σ Unit) now := by
  rintro _ ⟨⟩

theorem change {step : σ → α × σ} : Faultless (Program.change step : Program δ σ α) now := by
  rintro _ ⟨⟩

theorem state_bind {next : σ → Program δ σ β} (rest : Faultless (next now) now) : Faultless (Program.state >>= next) now :=
  rest

theorem update_bind {next : Unit → Program δ σ β} {change : σ → σ} (rest : Faultless (next ()) (change now)) :
    Faultless (Program.update change >>= next) now :=
  rest

theorem change_bind {next : α → Program δ σ β} {step : σ → α × σ} (rest : Faultless (next (step now).1) (step now).2) :
    Faultless (Program.change step >>= next) now :=
  rest

theorem look {read : σ → Except Stop α} (reads : read now ≠ .error .fault) :
    Faultless (Program.look read : Program δ σ α) now := by
  intro draws faults
  cases isRead : read now with
  | ok value => simp [Program.look, isRead, Except.map] at faults
  | error stop =>
    simp only [Program.look, isRead, Except.map, Except.error.injEq] at faults
    exact reads (faults ▸ isRead)

/-- What the first part leaves to the second. -/
theorem bind {next : α → Program δ σ β} (first : Faultless program now)
    (rest : Wlp program (fun value later => Faultless (next value) later) now) : Faultless (program >>= next) now :=
  fun draws => bind_ne_fault (first draws) fun _ _ left ran => rest.returns ran left

/-- A second part that does not fault whatever the first leaves to it. -/
theorem bind_any {next : α → Program δ σ β} (first : Faultless program now)
    (rest : ∀ value later, Faultless (next value) later) : Faultless (program >>= next) now :=
  fun draws => bind_ne_fault (first draws) fun value later left _ => rest value later left

theorem bind_look {next : α → Program δ σ β} {read : σ → Except Stop α} (reads : read now ≠ .error .fault)
    (rest : ∀ value, read now = .ok value → Faultless (next value) now) : Faultless (Program.look read >>= next) now :=
  bind (look reads) (Wlp.look rest)

theorem bind_draws {next : α → Program δ σ β} (draws : OnlyDraws program) (rest : ∀ value, Faultless (next value) now) :
    Faultless (program >>= next) now :=
  bind draws.faultless (draws.wlp rest)

/-- The rule for loops over a list, with an invariant. -/
theorem each {body : β → Program δ σ Unit} {inv : σ → Prop} {items : List β} (start : inv now)
    (goes : ∀ item ∈ items, ∀ now, inv now → Faultless (body item) now)
    (keeps : ∀ item ∈ items, ∀ now, inv now → Wlp (body item) (fun _ => inv) now) :
    Faultless (Program.each body items) now := by
  induction items generalizing now with
  | nil => exact pure ()
  | cons item items ih =>
    rw [Program.each]
    apply bind (goes item List.mem_cons_self now start)
    apply (keeps item List.mem_cons_self now start).mono
    intro _ later kept
    exact ih kept (fun other isIn => goes other (List.mem_cons_of_mem item isIn))
      fun other isIn => keeps other (List.mem_cons_of_mem item isIn)

/-- A whole run does not fault. -/
theorem exec (goes : Faultless program now) (draws : List δ) : Program.exec program draws now ≠ .error .fault := by
  intro faults
  rw [Program.exec] at faults
  cases ran : program (now, draws) with
  | ok result => simp [ran, Except.map] at faults
  | error stop =>
    simp only [ran, Except.map, Except.error.injEq] at faults
    exact goes draws (faults ▸ ran)

end Faultless

end ComputerSystems.Data
