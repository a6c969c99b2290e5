import Mathlib.Logic.Relation
import ComputerSystems.Data.Program

/-! # What programs do to the state

`Wlp program post now` is what `Wp` says without the promise to return: wherever the
program returns, `post` holds.  `Makes step program` says that a program changes the
state by steps of a relation only, so that what every step keeps the program keeps.
-/

namespace ComputerSystems.Data

open Program Relation

variable {δ σ α β : Type} {program : Program δ σ α} {post post' : α → σ → Prop} {now : σ}

/-! ## Partial correctness -/

/-- Wherever the program returns from `now`, `post` holds of what it returns and where. -/
def Wlp (program : Program δ σ α) (post : α → σ → Prop) (now : σ) : Prop :=
  ∀ draws, match program (now, draws) with
    | .ok (value, later, _) => post value later
    | .error _ => True

theorem Wlp.of_returns (goes : ∀ draws value later rest, program (now, draws) = .ok (value, later, rest) → post value later) :
    Wlp program post now := by
  intro draws
  cases ran : program (now, draws) with
  | error stop => trivial
  | ok result => exact goes draws _ _ _ ran

theorem Wlp.returns (goes : Wlp program post now) {draws rest : List δ} {value : α} {later : σ}
    (ran : program (now, draws) = .ok (value, later, rest)) : post value later := by
  have good := goes draws
  rw [ran] at good
  exact good

/-- A sequence that returns has returned from its first part. -/
theorem bind_eq_ok {next : α → Program δ σ β} {draws : List δ} {result : β × σ × List δ} :
    (program >>= next) (now, draws) = .ok result ↔
      ∃ value mid rest, program (now, draws) = .ok (value, mid, rest) ∧ next value (mid, rest) = .ok result := by
  change (program (now, draws) >>= fun first => next first.1 first.2) = .ok result ↔ _
  cases ran : program (now, draws) with
  | error stop => simp [bind, Except.bind]
  | ok first =>
    obtain ⟨value, mid, rest⟩ := first
    simp [bind, Except.bind]

/-- Sequences that begin alike and go on alike. -/
theorem bind_congr_at {program' : Program δ σ α} {next next' : α → Program δ σ β} {start : σ × List δ}
    (first : program start = program' start)
    (rest : ∀ value mid left, program start = .ok (value, mid, left) → next value (mid, left) = next' value (mid, left)) :
    (program >>= next) start = (program' >>= next') start := by
  change (program start >>= fun done => next done.1 done.2) = (program' start >>= fun done => next' done.1 done.2)
  rw [← first]
  cases ran : program start with
  | error stop => rfl
  | ok done => exact rest _ _ _ ran

theorem look_eq_ok {read : σ → Except Stop α} {later : σ} {draws rest : List δ} {value : α} :
    Program.look read (now, draws) = .ok (value, later, rest) ↔ read now = .ok value ∧ now = later ∧ draws = rest := by
  cases isRead : read now with
  | error stop => simp [Program.look, isRead, Except.map]
  | ok seen => simp [Program.look, isRead, Except.map]

/-- A whole run that ends has returned something. -/
theorem exec_eq_ok {draws : List δ} {later : σ} :
    exec program draws now = .ok later ↔ ∃ value rest, program (now, draws) = .ok (value, later, rest) := by
  rw [exec]
  cases ran : program (now, draws) with
  | error stop => simp [Except.map]
  | ok result =>
    obtain ⟨value, last, rest⟩ := result
    simp [Except.map]

theorem Program.run_state_bind {next : σ → Program δ σ β} {draws : List δ} :
    (Program.state >>= next) (now, draws) = next now (now, draws) := rfl

theorem Program.run_change_bind {step : σ → α × σ} {next : α → Program δ σ β} {draws : List δ} :
    (Program.change step >>= next) (now, draws) = next (step now).1 ((step now).2, draws) := rfl

theorem Wp.wlp (goes : Wp program post now) : Wlp program post now := by
  apply Wlp.of_returns
  intro draws value later rest ran
  have good := goes draws
  rw [ran] at good
  exact good

theorem Wlp.mono (goes : Wlp program post now) (weaker : ∀ value later, post value later → post' value later) :
    Wlp program post' now :=
  .of_returns fun _ value later _ ran => weaker value later (goes.returns ran)

theorem Wlp.and (first : Wlp program post now) (second : Wlp program post' now) :
    Wlp program (fun value later => post value later ∧ post' value later) now :=
  .of_returns fun _ _ _ _ ran => ⟨first.returns ran, second.returns ran⟩

@[simp] theorem wlp_pure (value : α) : Wlp (pure value : Program δ σ α) post now ↔ post value now :=
  ⟨fun goes => goes [], fun holds _ => holds⟩

@[simp] theorem wlp_update {post : Unit → σ → Prop} (change : σ → σ) :
    Wlp (update change : Program δ σ Unit) post now ↔ post () (change now) :=
  ⟨fun goes => goes [], fun holds _ => holds⟩

@[simp] theorem wlp_change (step : σ → α × σ) :
    Wlp (change step : Program δ σ α) post now ↔ post (step now).1 (step now).2 :=
  ⟨fun goes => goes [], fun holds _ => holds⟩

@[simp] theorem wlp_state_bind {next : σ → Program δ σ β} {post : β → σ → Prop} :
    Wlp (state >>= next) post now ↔ Wlp (next now) post now := Iff.rfl

@[simp] theorem wlp_update_bind {next : Unit → Program δ σ β} {post : β → σ → Prop} (change : σ → σ) :
    Wlp (update change >>= next) post now ↔ Wlp (next ()) post (change now) := Iff.rfl

/-- Nothing is promised of a program that stops. -/
@[simp] theorem wlp_halt (stop : Stop) : Wlp (halt stop : Program δ σ α) post now := fun _ => trivial

theorem Wlp.bind {next : α → Program δ σ β} {post : β → σ → Prop}
    (goes : Wlp program (fun value => Wlp (next value) post) now) : Wlp (program >>= next) post now := by
  apply Wlp.of_returns
  intro draws value later rest ran
  obtain ⟨first, mid, left, before, after⟩ := bind_eq_ok.mp ran
  exact (goes.returns before).returns after

theorem Wlp.look {read : σ → Except Stop α} (holds : ∀ value, read now = .ok value → post value now) :
    Wlp (look read : Program δ σ α) post now := by
  apply Wlp.of_returns
  intro draws value later rest ran
  obtain ⟨isRead, rfl, rfl⟩ := look_eq_ok.mp ran
  exact holds value isRead

theorem Wlp.draw {post : δ → σ → Prop} (holds : ∀ value, post value now) : Wlp (draw : Program δ σ δ) post now :=
  (Wp.draw holds).wlp

theorem OnlyDraws.wlp (draws : OnlyDraws program) (holds : ∀ value, post value now) : Wlp program post now :=
  (draws now post holds).wlp

theorem Wlp.bind_draws {next : α → Program δ σ β} {post : β → σ → Prop} (draws : OnlyDraws program)
    (goes : ∀ value, Wlp (next value) post now) : Wlp (program >>= next) post now :=
  Wlp.bind (draws.wlp goes)

theorem Wlp.each {body : β → Program δ σ Unit} {inv : σ → Prop} {items : List β} (start : inv now)
    (keeps : ∀ item ∈ items, ∀ now, inv now → Wlp (body item) (fun _ => inv) now) :
    Wlp (each body items) (fun _ => inv) now := by
  induction items generalizing now with
  | nil => exact (wlp_pure _).mpr start
  | cons item items ih =>
    rw [Program.each]
    apply Wlp.bind
    apply (keeps item List.mem_cons_self now start).mono
    intro _ later kept
    exact ih kept fun other isIn => keeps other (List.mem_cons_of_mem item isIn)

/-- What `Wlp` says of a whole run. -/
theorem Wlp.exec {post : σ → Prop} (goes : Wlp program (fun _ => post) now) {draws : List δ} {later : σ}
    (runs : exec program draws now = .ok later) : post later := by
  obtain ⟨_, _, ran⟩ := exec_eq_ok.mp runs
  exact goes.returns ran

/-! ## What is drawn -/

/-- As `Wlp`, from a state and the values to draw; `post` is also of those that are left. -/
def WlpWith (program : Program δ σ α) (post : α → σ → List δ → Prop) (start : σ × List δ) : Prop :=
  ∀ value later rest, program start = .ok (value, later, rest) → post value later rest

section Draws

variable {draws : List δ} {post post' : α → σ → List δ → Prop}

theorem Wlp.with {kept : α → σ → Prop} (goes : Wlp program kept now) :
    WlpWith program (fun value later _ => kept value later) (now, draws) :=
  fun _ _ _ ran => goes.returns ran

theorem WlpWith.mono (goes : WlpWith program post (now, draws))
    (weaker : ∀ value later rest, post value later rest → post' value later rest) : WlpWith program post' (now, draws) :=
  fun value later rest ran => weaker value later rest (goes value later rest ran)

theorem WlpWith.and (first : WlpWith program post (now, draws)) (second : WlpWith program post' (now, draws)) :
    WlpWith program (fun value later rest => post value later rest ∧ post' value later rest) (now, draws) :=
  fun value later rest ran => ⟨first value later rest ran, second value later rest ran⟩

@[simp] theorem wlpWith_pure (value : α) :
    WlpWith (pure value : Program δ σ α) post (now, draws) ↔ post value now draws := by
  constructor
  · intro goes
    exact goes value now draws rfl
  · rintro holds _ _ _ ⟨rfl⟩
    exact holds

@[simp] theorem wlpWith_update {post : Unit → σ → List δ → Prop} (change : σ → σ) :
    WlpWith (update change : Program δ σ Unit) post (now, draws) ↔ post () (change now) draws := by
  constructor
  · intro goes
    exact goes () (change now) draws rfl
  · rintro holds _ _ _ ⟨rfl⟩
    exact holds

@[simp] theorem wlpWith_change (step : σ → α × σ) :
    WlpWith (change step : Program δ σ α) post (now, draws) ↔ post (step now).1 (step now).2 draws := by
  constructor
  · intro goes
    exact goes _ _ draws rfl
  · rintro holds _ _ _ ⟨rfl⟩
    exact holds

@[simp] theorem wlpWith_state_bind {next : σ → Program δ σ β} {post : β → σ → List δ → Prop} :
    WlpWith (state >>= next) post (now, draws) ↔ WlpWith (next now) post (now, draws) := Iff.rfl

@[simp] theorem wlpWith_update_bind {next : Unit → Program δ σ β} {post : β → σ → List δ → Prop} (change : σ → σ) :
    WlpWith (update change >>= next) post (now, draws) ↔ WlpWith (next ()) post (change now, draws) := Iff.rfl

theorem WlpWith.bind {next : α → Program δ σ β} {post : β → σ → List δ → Prop}
    (goes : WlpWith program (fun value mid left => WlpWith (next value) post (mid, left)) (now, draws)) :
    WlpWith (program >>= next) post (now, draws) := by
  intro value later rest ran
  obtain ⟨first, mid, left, before, after⟩ := bind_eq_ok.mp ran
  exact goes first mid left before value later rest after

theorem WlpWith.draw {post : δ → σ → List δ → Prop} (holds : ∀ value rest, draws = value :: rest → post value now rest) :
    WlpWith Program.draw post (now, draws) := by
  cases draws with
  | nil => exact nofun
  | cons drawn left =>
    rintro _ _ _ ⟨rfl⟩
    exact holds _ _ rfl

theorem WlpWith.look {read : σ → Except Stop α} (holds : ∀ value, read now = .ok value → post value now draws) :
    WlpWith (Program.look read) post (now, draws) := by
  intro value later rest ran
  obtain ⟨isRead, rfl, rfl⟩ := look_eq_ok.mp ran
  exact holds value isRead

theorem WlpWith.exec {post : σ → Prop} (goes : WlpWith program (fun _ later _ => post later) (now, draws)) {later : σ}
    (runs : exec program draws now = .ok later) : post later := by
  obtain ⟨_, _, ran⟩ := exec_eq_ok.mp runs
  exact goes _ _ _ ran

end Draws

/-! ## Steps of a relation -/

/-- Whatever the program does, it does by steps of the relation. -/
def Makes (step : σ → σ → Prop) (program : Program δ σ α) : Prop :=
  ∀ now, Wlp program (fun _ later => ReflTransGen step now later) now

namespace Makes

variable {step step' : σ → σ → Prop} {body : β → Program δ σ Unit}

theorem pure (value : α) : Makes step (Pure.pure value : Program δ σ α) := fun _ => (wlp_pure value).mpr .refl

theorem halt (stop : Stop) : Makes step (Program.halt stop : Program δ σ α) := fun _ => wlp_halt stop

theorem of_draws (draws : OnlyDraws program) : Makes step program := fun _ => draws.wlp fun _ => .refl

theorem look {read : σ → Except Stop α} : Makes step (Program.look read : Program δ σ α) :=
  fun _ => Wlp.look fun _ _ => .refl

theorem update {change : σ → σ} (steps : ∀ now, ReflTransGen step now (change now)) :
    Makes step (Program.update change : Program δ σ Unit) :=
  fun now => (wlp_update change).mpr (steps now)

theorem change {changes : σ → α × σ} (steps : ∀ now, ReflTransGen step now (changes now).2) :
    Makes step (Program.change changes : Program δ σ α) :=
  fun now => (wlp_change changes).mpr (steps now)

/-- A program that does its part and then goes on. -/
theorem wlp_bind {next : α → Program δ σ β} {post : β → σ → Prop} (makes : Makes step program)
    (goes : ∀ value later, ReflTransGen step now later → Wlp (next value) post later) :
    Wlp (program >>= next) post now :=
  Wlp.bind ((makes now).mono goes)

theorem bind {next : α → Program δ σ β} (first : Makes step program) (rest : ∀ value, Makes step (next value)) :
    Makes step (program >>= next) := by
  intro now
  apply first.wlp_bind
  intro value mid before
  exact (rest value mid).mono fun _ _ after => before.trans after

/-- As `bind`, with something known of the result of the first part. -/
theorem bind_of {next : α → Program δ σ β} {known : α → Prop}
    (first : ∀ now, Wlp program (fun value later => known value ∧ ReflTransGen step now later) now)
    (rest : ∀ value, known value → Makes step (next value)) : Makes step (program >>= next) := by
  intro now
  apply Wlp.bind
  apply (first now).mono
  rintro value mid ⟨isKnown, before⟩
  exact (rest value isKnown mid).mono fun _ _ after => before.trans after

theorem state_bind {next : σ → Program δ σ β} (rest : ∀ now, Makes step (next now)) :
    Makes step (state >>= next) :=
  fun now => rest now now

theorem each {items : List β} (all : ∀ item ∈ items, Makes step (body item)) : Makes step (Program.each body items) := by
  intro now
  apply Wlp.each .refl
  intro item isIn later before
  exact (all item isIn later).mono fun _ _ after => before.trans after

theorem mono (makes : Makes step program) (weaker : ∀ now later, step now later → step' now later) :
    Makes step' program :=
  fun now => (makes now).mono fun _ _ steps => Relation.ReflTransGen.mono weaker _ _ steps

/-- What every step keeps the program keeps. -/
theorem keeps {inv : σ → Prop} (makes : Makes step program)
    (kept : ∀ now later, step now later → inv now → inv later) (start : inv now) :
    Wlp program (fun _ later => inv later) now := by
  apply (makes now).mono
  intro _ later steps
  induction steps with
  | refl => exact start
  | tail _ last ih => exact kept _ _ last ih

end Makes

end ComputerSystems.Data
