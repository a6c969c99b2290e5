import ComputerSystems.Data.Footprint

/-! # What programs do not look at

`Ignores veil program post now` says that a program does with a changed state what it does
with the state itself, so that what `veil` changes is neither read nor written.  What the
program may look at can depend on what it has done before, so `post` says what holds where it
returns.
-/

namespace ComputerSystems.Data

open Program

variable {δ σ α β : Type} {veil : σ → σ} {program : Program δ σ α} {post post' : α → σ → Prop} {now : σ}

/-- From `now` and from the state that `veil` makes of it, the program returns the same, and the
    states where it returns differ as those where it began; or it stops in the same way. -/
def Ignores (veil : σ → σ) (program : Program δ σ α) (post : α → σ → Prop) (now : σ) : Prop :=
  ∀ draws, match program (now, draws) with
    | .ok (value, later, rest) => program (veil now, draws) = .ok (value, veil later, rest) ∧ post value later
    | .error stop => program (veil now, draws) = .error stop

namespace Ignores

theorem mono (goes : Ignores veil program post now) (weaker : ∀ value later, post value later → post' value later) :
    Ignores veil program post' now := by
  intro draws
  have good := goes draws
  cases ran : program (now, draws) with
  | error stop =>
    rw [ran] at good
    exact good
  | ok result =>
    rw [ran] at good
    exact ⟨good.1, weaker _ _ good.2⟩

theorem wlp (goes : Ignores veil program post now) : Wlp program post now := by
  apply Wlp.of_returns
  intro draws value later rest ran
  have good := goes draws
  rw [ran] at good
  exact good.2

/-- More is known of where the program returns. -/
theorem and (goes : Ignores veil program post now) (more : Wlp program post' now) :
    Ignores veil program (fun value later => post value later ∧ post' value later) now := by
  intro draws
  have good := goes draws
  have known := more draws
  cases ran : program (now, draws) with
  | error stop =>
    rw [ran] at good
    exact good
  | ok result =>
    rw [ran] at good known
    exact ⟨good.1, good.2, known⟩

theorem pure {value : α} (holds : post value now) : Ignores veil (Pure.pure value : Program δ σ α) post now :=
  fun _ => ⟨rfl, holds⟩

theorem halt (stop : Stop) : Ignores veil (Program.halt stop : Program δ σ α) post now := fun _ => rfl

theorem update {post : Unit → σ → Prop} {change : σ → σ} (commutes : change (veil now) = veil (change now))
    (holds : post () (change now)) : Ignores veil (Program.update change : Program δ σ Unit) post now := by
  intro draws
  refine ⟨?_, holds⟩
  change Except.ok ((), change (veil now), draws) = _
  rw [commutes]

theorem change {step : σ → α × σ} (commutes : step (veil now) = ((step now).1, veil (step now).2))
    (holds : post (step now).1 (step now).2) : Ignores veil (Program.change step : Program δ σ α) post now := by
  intro draws
  refine ⟨?_, holds⟩
  change Except.ok ((step (veil now)).1, (step (veil now)).2, draws) = _
  rw [commutes]

theorem look {read : σ → Except Stop α} (same : read (veil now) = read now)
    (holds : ∀ value, read now = .ok value → post value now) : Ignores veil (Program.look read : Program δ σ α) post now := by
  intro draws
  cases isRead : read now with
  | error stop =>
    rw [isRead] at same
    simp [Program.look, isRead, same, Except.map]
  | ok value =>
    rw [isRead] at same
    simpa [Program.look, isRead, same, Except.map] using holds value isRead

theorem draw {post : δ → σ → Prop} (holds : ∀ value, post value now) :
    Ignores veil (Program.draw : Program δ σ δ) post now := by
  intro draws
  cases draws with
  | nil => rfl
  | cons value rest => exact ⟨rfl, holds value⟩

theorem bind {next : α → Program δ σ β} {post : β → σ → Prop}
    (goes : Ignores veil program (fun value => Ignores veil (next value) post) now) :
    Ignores veil (program >>= next) post now := by
  intro draws
  have good := goes draws
  have unfolded : ∀ start, (program >>= next) start = (program start).bind fun first => next first.1 first.2 :=
    fun _ => rfl
  rw [unfolded, unfolded]
  cases ran : program (now, draws) with
  | error stop =>
    rw [ran] at good
    simp only at good
    rw [good]
    rfl
  | ok result =>
    rw [ran] at good
    simp only at good
    rw [good.1]
    exact good.2 result.2.2

theorem state_bind {next : σ → Program δ σ β} {post : β → σ → Prop} (same : next (veil now) = next now)
    (goes : Ignores veil (next now) post now) : Ignores veil (Program.state >>= next) post now := by
  intro draws
  have unfolded : ∀ start : σ × List δ, (Program.state >>= next) start = next start.1 start := fun _ => rfl
  rw [unfolded, unfolded]
  simp only [same]
  exact goes draws

theorem update_bind {next : Unit → Program δ σ β} {post : β → σ → Prop} {change : σ → σ}
    (commutes : change (veil now) = veil (change now)) (goes : Ignores veil (next ()) post (change now)) :
    Ignores veil (Program.update change >>= next) post now :=
  bind (update commutes goes)

/-- An invariant of the items that are still to come. -/
theorem each {body : β → Program δ σ Unit} {inv : List β → σ → Prop} {items : List β} (start : inv items now)
    (keeps : ∀ item items now, inv (item :: items) now → Ignores veil (body item) (fun _ => inv items) now) :
    Ignores veil (Program.each body items) (fun _ => inv []) now := by
  induction items generalizing now with
  | nil => exact pure start
  | cons item items ih => exact bind ((keeps item items now start).mono fun _ _ kept => ih kept)

theorem untilSome {attempt : Program δ σ (Option α)} {inv : σ → Prop} (start : inv now)
    (tries : ∀ now, inv now →
      Ignores veil attempt (fun found later => found.elim (inv later) fun value => post value later) now) :
    Ignores veil (Program.untilSome attempt) post now := by
  have fueled : ∀ fuel now, inv now → Ignores veil (attempts attempt fuel) post now := by
    intro fuel
    induction fuel with
    | zero => exact fun _ _ => halt _
    | succ fuel ih =>
      intro now held
      refine bind ((tries now held).mono ?_)
      intro found later goes
      cases found with
      | none => exact ih later goes
      | some value => exact pure goes
  exact fun draws => fueled _ now start draws

end Ignores

/-- A program that only draws. -/
def Rolls (program : Program δ σ α) : Prop :=
  ∀ veil now post, (∀ value, post value now) → Ignores veil program post now

namespace Rolls

theorem pure (value : α) : Rolls (Pure.pure value : Program δ σ α) := fun _ _ _ holds => .pure (holds value)

theorem draw : Rolls (Program.draw : Program δ σ δ) := fun _ _ _ holds => .draw holds

theorem bind {next : α → Program δ σ β} (first : Rolls program) (rest : ∀ value, Rolls (next value)) :
    Rolls (program >>= next) :=
  fun veil now post holds => .bind (first veil now _ fun value => rest value veil now post holds)

end Rolls

theorem Ignores.bind_rolls {next : α → Program δ σ β} {post : β → σ → Prop} (rolls : Rolls program)
    (goes : ∀ value, Ignores veil (next value) post now) : Ignores veil (program >>= next) post now :=
  .bind (rolls veil now _ goes)

end ComputerSystems.Data
