import Mathlib.Data.List.Basic
import Mathlib.Logic.Basic

/-! # Programs that draw, fault and loop

A program runs on a state and a list of values that it draws one after the other,
such as random numbers or answers of an environment.  It returns a value, or it
stops: because nothing is left to draw, in which case it is still under way, or
because it has accessed memory it must not access or would not end.

`Wp program post state` says that from `state` the program neither faults nor loops,
whatever it draws, and that `post` holds if it returns.
-/

namespace ComputerSystems.Data

inductive Stop where
  | drawing
  | fault
  | loop
deriving DecidableEq, Repr

abbrev Program (δ σ : Type) := StateT (σ × List δ) (Except Stop)

variable {δ σ α β : Type}

namespace Program

/-- The state. -/
def state : Program δ σ σ := fun (now, draws) => .ok (now, now, draws)

def update (change : σ → σ) : Program δ σ Unit := fun (now, draws) => .ok ((), change now, draws)

/-- A change of the state that has a result. -/
def change (step : σ → α × σ) : Program δ σ α := fun (now, draws) =>
  .ok ((step now).1, (step now).2, draws)

/-- Something read from the state, which may not be possible. -/
def look (read : σ → Except Stop α) : Program δ σ α := fun (now, draws) =>
  (read now).map fun value => (value, now, draws)

def halt (stop : Stop) : Program δ σ α := fun _ => .error stop

def draw : Program δ σ δ
  | (now, value :: draws) => .ok (value, now, draws)
  | (_, []) => .error .drawing

/-- A loop that goes through the items of a list. -/
def each (body : β → Program δ σ Unit) : List β → Program δ σ Unit
  | [] => pure ()
  | item :: items => do
    body item
    each body items

/-- Repeat `attempt` until it gives a result.  Every attempt draws, so that there are
    no more of them than values to draw. -/
def attempts (attempt : Program δ σ (Option α)) : Nat → Program δ σ α
  | 0 => halt .drawing
  | fuel + 1 => do
    match ← attempt with
    | some value => pure value
    | none => attempts attempt fuel

def untilSome (attempt : Program δ σ (Option α)) : Program δ σ α := fun (now, draws) =>
  attempts attempt (draws.length + 1) (now, draws)

/-- The result of a whole run. -/
def exec (program : Program δ σ α) (draws : List δ) (now : σ) : Except Stop σ :=
  (program (now, draws)).map fun (_, later, _) => later

end Program

open Program

/-- The program goes well from `now`, and `post` holds of what it returns and where. -/
def Wp (program : Program δ σ α) (post : α → σ → Prop) (now : σ) : Prop :=
  ∀ draws, match program (now, draws) with
    | .ok (value, later, _) => post value later
    | .error stop => stop = .drawing

variable {program : Program δ σ α} {post post' : α → σ → Prop} {now : σ}

theorem Wp.mono (goes : Wp program post now) (weaker : ∀ value later, post value later → post' value later) :
    Wp program post' now := by
  intro draws
  have good := goes draws
  cases ran : program (now, draws) with
  | error stop =>
    rw [ran] at good
    exact good
  | ok result =>
    rw [ran] at good
    exact weaker _ _ good

@[simp] theorem wp_pure (value : α) : Wp (pure value : Program δ σ α) post now ↔ post value now :=
  ⟨fun goes => goes [], fun holds _ => holds⟩

/-- The rule of sequence. -/
theorem Wp.bind {next : α → Program δ σ β} {post : β → σ → Prop}
    (goes : Wp program (fun value => Wp (next value) post) now) : Wp (program >>= next) post now := by
  intro draws
  have good := goes draws
  change match (program (now, draws) >>= fun result => next result.1 result.2) with
    | .ok (value, later, _) => post value later
    | .error stop => stop = .drawing
  cases ran : program (now, draws) with
  | error stop =>
    rw [ran] at good
    exact good
  | ok result =>
    rw [ran] at good
    exact good result.2.2

@[simp] theorem wp_state {post : σ → σ → Prop} :
    Wp (state : Program δ σ σ) post now ↔ post now now :=
  ⟨fun goes => goes [], fun holds _ => holds⟩

@[simp] theorem wp_update {post : Unit → σ → Prop} (change : σ → σ) :
    Wp (update change : Program δ σ Unit) post now ↔ post () (change now) :=
  ⟨fun goes => goes [], fun holds _ => holds⟩

@[simp] theorem wp_change (step : σ → α × σ) :
    Wp (change step : Program δ σ α) post now ↔ post (step now).1 (step now).2 :=
  ⟨fun goes => goes [], fun holds _ => holds⟩

@[simp] theorem wp_state_bind {next : σ → Program δ σ β} {post : β → σ → Prop} :
    Wp (state >>= next) post now ↔ Wp (next now) post now := Iff.rfl

@[simp] theorem wp_update_bind {next : Unit → Program δ σ β} {post : β → σ → Prop} (change : σ → σ) :
    Wp (update change >>= next) post now ↔ Wp (next ()) post (change now) := Iff.rfl

theorem Wp.look {read : σ → Except Stop α} {value : α} (reads : read now = .ok value)
    (holds : post value now) : Wp (look read : Program δ σ α) post now := by
  intro draws
  simpa [Program.look, reads, Except.map] using holds

theorem Wp.draw {post : δ → σ → Prop} (holds : ∀ value, post value now) :
    Wp (draw : Program δ σ δ) post now := by
  intro draws
  cases draws with
  | nil => rfl
  | cons value draws => exact holds value

/-- A program that draws and reads and does nothing else. -/
def OnlyDraws (program : Program δ σ α) : Prop :=
  ∀ now (post : α → σ → Prop), (∀ value, post value now) → Wp program post now

namespace OnlyDraws

theorem pure (value : α) : OnlyDraws (Pure.pure value : Program δ σ α) := by
  intro now post holds
  exact (wp_pure value).mpr (holds value)

theorem draw : OnlyDraws (Program.draw : Program δ σ δ) := by
  intro now post holds
  exact Wp.draw holds

theorem bind {next : α → Program δ σ β} (first : OnlyDraws program) (rest : ∀ value, OnlyDraws (next value)) :
    OnlyDraws (program >>= next) := by
  intro now post holds
  apply Wp.bind
  apply first
  intro value
  exact rest value now post holds

theorem state_bind {next : σ → Program δ σ β} (rest : ∀ now, OnlyDraws (next now)) :
    OnlyDraws (state >>= next) := by
  intro now post holds
  exact rest now now post holds

end OnlyDraws

theorem Wp.bind_draws {next : α → Program δ σ β} {post : β → σ → Prop} (draws : OnlyDraws program)
    (goes : ∀ value, Wp (next value) post now) : Wp (program >>= next) post now :=
  Wp.bind (draws now _ goes)

/-- The rule for loops over a list, with an invariant of the items that are done. -/
theorem Wp.each_done {body : β → Program δ σ Unit} {inv : List β → σ → Prop} {items : List β}
    (start : inv [] now)
    (keeps : ∀ done item rest now, items = done ++ item :: rest → inv done now →
      Wp (body item) (fun _ => inv (done ++ [item])) now) :
    Wp (each body items) (fun _ => inv items) now := by
  have from_done : ∀ rest done now, items = done ++ rest → inv done now →
      Wp (Program.each body rest) (fun _ => inv items) now := by
    intro rest
    induction rest with
    | nil =>
      intro done now whole held
      rw [List.append_nil] at whole
      exact (wp_pure _).mpr (whole ▸ held)
    | cons item rest ih =>
      intro done now whole held
      rw [Program.each]
      apply Wp.bind
      apply (keeps done item rest now whole held).mono
      intro _ later kept
      exact ih (done ++ [item]) later (by simpa using whole) kept
  exact from_done items [] now rfl start

theorem Wp.each {body : β → Program δ σ Unit} {inv : σ → Prop} {items : List β} (start : inv now)
    (keeps : ∀ item ∈ items, ∀ now, inv now → Wp (body item) (fun _ => inv) now) :
    Wp (each body items) (fun _ => inv) now := by
  apply Wp.each_done start
  intro done item rest now whole held
  exact keeps item (by simp [whole]) now held

/-- An invariant of the attempts; the one that succeeds establishes `post`. -/
theorem Wp.untilSome {attempt : Program δ σ (Option α)} {inv : σ → Prop} (start : inv now)
    (tries : ∀ now, inv now →
      Wp attempt (fun found later => found.elim (inv later) fun value => post value later) now) :
    Wp (untilSome attempt) post now := by
  have fueled : ∀ fuel now, inv now → Wp (attempts attempt fuel) post now := by
    intro fuel
    induction fuel with
    | zero => intro _ _ _; rfl
    | succ fuel ih =>
      intro now held
      rw [attempts]
      apply Wp.bind
      apply (tries now held).mono
      intro found later goes
      cases found with
      | none => exact ih later goes
      | some value => exact (wp_pure value).mpr goes
  exact fun draws => fueled _ now start draws

/-- What `Wp` says of a whole run. -/
theorem Wp.exec {program : Program δ σ α} {post : σ → Prop} (goes : Wp program (fun _ => post) now)
    (draws : List δ) :
    (∀ later, exec program draws now = .ok later → post later) ∧
      ∀ stop, exec program draws now = .error stop → stop = .drawing := by
  have good := goes draws
  rw [Program.exec]
  cases ran : program (now, draws) with
  | error stop =>
    rw [ran] at good
    constructor
    · intro later runs
      cases runs
    · intro other stops
      obtain rfl : stop = other := by simpa [Except.map] using stops
      exact good
  | ok result =>
    rw [ran] at good
    constructor
    · intro later runs
      obtain rfl : result.2.1 = later := by simpa [Except.map] using runs
      exact good
    · intro stop stops
      cases stops

end ComputerSystems.Data
