import ComputerSystems.Verified.TimerList

/-! # Callbacks that re-enter the timer service

`TimerPoll` keeps a pointer to the slot of the timer it fires while the callback
runs.  A slot can hold one timer before the callback and another one after it, so
timers are told apart here by their serial number and not by their slot.

The calls of a callback are booked as they are made: `scheduledBy` are the timers
it scheduled, `cancelledBy` those it cancelled.  `timerCalls_holds` says that the
pending timers follow these books.  `TimerPoll` does so too unless the callback
left another timer in the slot that fired and returned `TASK_FINISHED`, which
then cancels that timer (`timer_poll_accounts_iff`).
-/

namespace ComputerSystems.Verified

open ComputerSystems.Data ComputerSystems.System

variable {timers timers' : Timers} {nodes : List TimerSlot} {serial : Nat}

/-- The timer of that serial number is pending, in whichever slot. -/
def holds (timers : Timers) (serial : Nat) : Prop :=
  ∃ timer, timers.pending timer ∧ (timers.tasks timer).serial = serial

instance : Decidable (holds timers serial) := inferInstanceAs (Decidable (∃ _, _))

/-! ## The books of a callback -/

/-- The timer that a call schedules successfully. -/
def schedules (timers : Timers) : TimerCall → Option Nat
  | .schedule now usec poll data context =>
    (timerSchedule now usec poll data context timers).bind fun result =>
      result.2.map fun timer => (result.1.tasks timer).serial
  | .cancel _ => none
  | .serviceCancel _ _ => none

/-- The slot whose timer a call cancels. -/
def target (timers : Timers) : TimerCall → Option TimerSlot
  | .schedule _ _ _ _ _ => none
  | .cancel timer => timer
  | .serviceCancel poll data =>
    (follow (nextOf timers.list.links) maxTimerTasks timers.list.start).find? (serves timers poll data)

/-- The pending timer that a call cancels. -/
def cancels (timers : Timers) (call : TimerCall) : Option Nat :=
  ((target timers call).filter timers.pending).map fun timer => (timers.tasks timer).serial

def scheduledBy : List TimerCall → Timers → List Nat
  | [], _ => []
  | call :: calls, timers =>
    (schedules timers call).toList ++ ((call.perform timers).map (scheduledBy calls)).getD []

def cancelledBy : List TimerCall → Timers → List Nat
  | [], _ => []
  | call :: calls, timers =>
    (cancels timers call).toList ++ ((call.perform timers).map (cancelledBy calls)).getD []

/-- `TimerPoll` leaves pending what was pending before, without the timers that
    the callback cancelled and without the fired one if the callback finished, and
    the timers that the callback scheduled and did not cancel. -/
def PollAccounts (now : Nat) (callback : TimerCallback) (timers : Timers) : Prop :=
  ∃ called after, timerPoll now callback timers = some (called, after) ∧
    match called with
    | [] => ∀ serial, holds after serial ↔ holds timers serial
    | fired :: _ => ∀ serial, holds after serial ↔
      (holds timers serial ∧ serial ∉ cancelledBy callback.calls timers ∧
        ¬ (callback.status = taskFinished ∧ serial = (timers.tasks fired).serial)) ∨
      (serial ∈ scheduledBy callback.calls timers ∧ serial ∉ cancelledBy callback.calls timers)

/-- A timer fires, its callback leaves another timer in its slot and returns
    `TASK_FINISHED`. -/
def SlotHandedOver (now : Nat) (callback : TimerCallback) (timers : Timers) : Prop :=
  callback.status = taskFinished ∧
    ∃ fired ∈ timers.list.start, timerRemaining (timers.tasks fired).expire now = 0 ∧
      ∃ after ∈ callback.calls.foldlM TimerCall.perform timers,
        after.pending fired ∧ (after.tasks fired).serial ≠ (timers.tasks fired).serial

/-! ## One call -/

/-- What a call can do: nothing, cancel the timer of a slot, or fill a free slot
    with a timer that has the next serial number. -/
theorem timerCall_cases (inv : TimerInv timers nodes) (call : TimerCall) :
    (call.perform timers = some timers ∧ schedules timers call = none ∧ target timers call = none) ∨
    (∃ timer, call.perform timers = some (timerCancel (some timer) timers) ∧
      schedules timers call = none ∧ target timers call = some timer) ∨
    ∃ slot newTimer timers', call.perform timers = some timers' ∧
      timers'.tasks = Function.update timers.tasks slot newTimer ∧
      timers'.scheduled = timers.scheduled + 1 ∧ ¬ timers.pending slot ∧ newTimer.poll.isSome ∧
      newTimer.serial = timers.scheduled ∧ schedules timers call = some timers.scheduled ∧
      target timers call = none := by
  cases call with
  | schedule now usec poll data context =>
    cases timerSchedule_cases inv now usec poll data context with
    | inl full => exact .inl ⟨by simp [TimerCall.perform, full.2], by simp [schedules, full.2], rfl⟩
    -- A slot that is found free is not pending, so that the new timer replaces none.
    | inr created =>
      obtain ⟨slot, timers', -, free, returns, -, count, tasks⟩ := created
      have unused : ¬ timers.pending slot := by
        rw [Timers.freeTimer] at free
        have found := List.find?_some free
        simpa [Timers.pending] using found
      exact .inr (.inr ⟨slot, _, timers', by simp [TimerCall.perform, returns], tasks, count, unused, rfl,
        rfl, by simp [schedules, returns, tasks], rfl⟩)
  | cancel timer =>
    cases timer with
    | none => exact .inl ⟨rfl, rfl, rfl⟩
    | some timer => exact .inr (.inl ⟨timer, rfl, rfl, rfl⟩)
  | serviceCancel poll data =>
    have returns := timerServiceCancel_eq inv poll data
    have walked := inv.linked.chain.follow_eq inv.length_le
    cases found : nodes.find? (serves timers poll data) with
    | none =>
      exact .inl ⟨by simp [TimerCall.perform, returns, found], rfl, by simp [target, walked, found]⟩
    | some timer =>
      exact .inr (.inl ⟨timer, by simp [TimerCall.perform, returns, found], rfl,
        by simp [target, walked, found]⟩)

theorem timerCancel_holds (inv : TimerInv timers nodes) (timer : TimerSlot) :
    holds (timerCancel (some timer) timers) serial ↔
      holds timers serial ∧ ¬ (timers.pending timer ∧ (timers.tasks timer).serial = serial) := by
  have others : ∀ other ≠ timer, (timerCancel (some timer) timers).tasks other = timers.tasks other :=
    fun other apart => Function.update_of_ne apart _ _
  constructor
  · rintro ⟨other, pending, numbered⟩
    by_cases equal : other = timer
    · simp [equal, timerCancel, Timers.pending] at pending
    · simp only [Timers.pending, others other equal] at pending numbered
      refine ⟨⟨other, pending, numbered⟩, fun same => equal ?_⟩
      exact inv.distinct other ((inv.pending other).mpr pending) timer ((inv.pending timer).mpr same.1)
        (numbered.trans same.2.symm)
  · rintro ⟨⟨other, pending, numbered⟩, unlike⟩
    have apart : other ≠ timer := fun equal => unlike (equal ▸ ⟨pending, numbered⟩)
    exact ⟨other, by simpa [Timers.pending, others other apart] using pending,
      by rw [others other apart, numbered]⟩

theorem schedule_holds {slot : TimerSlot} {newTimer : TimerTask}
    (tasks : timers'.tasks = Function.update timers.tasks slot newTimer)
    (unused : ¬ timers.pending slot) (active : newTimer.poll.isSome) :
    holds timers' serial ↔ holds timers serial ∨ serial = newTimer.serial := by
  have others : ∀ other ≠ slot, timers'.tasks other = timers.tasks other := by
    intro other apart
    rw [tasks, Function.update_of_ne apart]
  have here : timers'.tasks slot = newTimer := by rw [tasks, Function.update_self]
  constructor
  · rintro ⟨other, pending, numbered⟩
    by_cases equal : other = slot
    · rw [equal, here] at numbered
      exact .inr numbered.symm
    · simp only [Timers.pending, others other equal] at pending numbered
      exact .inl ⟨other, pending, numbered⟩
  · intro either
    cases either with
    | inl before =>
      obtain ⟨other, pending, numbered⟩ := before
      have apart : other ≠ slot := fun equal => unused (equal ▸ pending)
      exact ⟨other, by simpa [Timers.pending, others other apart] using pending,
        by rw [others other apart, numbered]⟩
    | inr isNew => exact ⟨slot, by simp [Timers.pending, here, active], by rw [here, isNew]⟩

/-- Over one call the pending timers follow the books. -/
theorem timerCall_holds (inv : TimerInv timers nodes) (call : TimerCall)
    (performs : call.perform timers = some timers') :
    holds timers' serial ↔
      (holds timers serial ∨ serial ∈ schedules timers call) ∧ serial ∉ cancels timers call := by
  obtain ⟨same, nothing, nobody⟩ | ⟨timer, cancelled, nothing, aimed⟩ |
    ⟨slot, newTimer, created, creates, tasks, -, unused, active, numbered, scheduled, nobody⟩ :=
    timerCall_cases inv call
  · obtain rfl : timers = timers' := Option.some.inj (same.symm.trans performs)
    simp [nothing, cancels, nobody]
  · obtain rfl : timerCancel (some timer) timers = timers' := Option.some.inj (cancelled.symm.trans performs)
    rw [timerCancel_holds inv timer]
    simp [nothing, cancels, aimed, Option.filter_some]
  · obtain rfl : created = timers' := Option.some.inj (creates.symm.trans performs)
    rw [schedule_holds tasks unused active, numbered]
    simp [scheduled, cancels, nobody, eq_comm]

/-- A call moves no timer to another slot. -/
theorem timerCall_slot (inv : TimerInv timers nodes) (call : TimerCall) {timer : TimerSlot}
    (performs : call.perform timers = some timers') (pending : timers'.pending timer) :
    timers'.tasks timer = timers.tasks timer ∨ timers.scheduled ≤ (timers'.tasks timer).serial := by
  obtain ⟨same, -, -⟩ | ⟨cancelled, cancels, -, -⟩ |
    ⟨slot, newTimer, created, creates, tasks, -, -, -, numbered, -, -⟩ :=
    timerCall_cases inv call
  · obtain rfl : timers = timers' := Option.some.inj (same.symm.trans performs)
    exact .inl rfl
  · obtain rfl : timerCancel (some cancelled) timers = timers' := Option.some.inj (cancels.symm.trans performs)
    by_cases equal : timer = cancelled
    · simp [equal, timerCancel, Timers.pending] at pending
    · exact .inl (Function.update_of_ne equal _ _)
  · obtain rfl : created = timers' := Option.some.inj (creates.symm.trans performs)
    by_cases equal : timer = slot
    · exact .inr (by rw [equal, tasks, Function.update_self, numbered])
    · exact .inl (by rw [tasks, Function.update_of_ne equal])

theorem timerCall_scheduled (inv : TimerInv timers nodes) (call : TimerCall)
    (performs : call.perform timers = some timers') :
    timers.scheduled ≤ timers'.scheduled ∧ ∀ serial ∈ schedules timers call, timers.scheduled ≤ serial := by
  obtain ⟨same, nothing, -⟩ | ⟨cancelled, cancels, nothing, -⟩ |
    ⟨slot, newTimer, created, creates, -, count, -, -, -, scheduled, -⟩ :=
    timerCall_cases inv call
  · obtain rfl : timers = timers' := Option.some.inj (same.symm.trans performs)
    simp [nothing]
  · obtain rfl : timerCancel (some cancelled) timers = timers' := Option.some.inj (cancels.symm.trans performs)
    simp [nothing, timerCancel]
  · obtain rfl : created = timers' := Option.some.inj (creates.symm.trans performs)
    simp [count, scheduled]

theorem holds_lt (inv : TimerInv timers nodes) (pending : holds timers serial) :
    serial < timers.scheduled := by
  obtain ⟨timer, pending, rfl⟩ := pending
  exact inv.serial timer ((inv.pending timer).mpr pending)

theorem cancels_lt (inv : TimerInv timers nodes) {call : TimerCall} (cancelled : serial ∈ cancels timers call) :
    serial < timers.scheduled := by
  obtain ⟨timer, aimed, numbered⟩ := Option.map_eq_some_iff.mp cancelled
  have pending := (Option.filter_eq_some_iff.mp aimed).2
  exact holds_lt inv ⟨timer, pending, numbered⟩

/-! ## The calls of a callback -/

theorem scheduledBy_ge (inv : TimerInv timers nodes) (calls : List TimerCall)
    (member : serial ∈ scheduledBy calls timers) : timers.scheduled ≤ serial := by
  induction calls generalizing timers nodes with
  | nil => simp [scheduledBy] at member
  | cons call calls ih =>
    obtain ⟨timers', nodes', performs, inv'⟩ := timerCall_inv inv call
    obtain ⟨grows, fresh⟩ := timerCall_scheduled inv call performs
    rw [scheduledBy, performs] at member
    cases List.mem_append.mp member with
    | inl here => exact fresh serial (by simpa using here)
    | inr later => exact Nat.le_trans grows (ih inv' later)

/-- Over the calls of a callback the pending timers follow the books. -/
theorem timerCalls_holds (inv : TimerInv timers nodes) (calls : List TimerCall)
    (returns : calls.foldlM TimerCall.perform timers = some timers') :
    holds timers' serial ↔
      (holds timers serial ∨ serial ∈ scheduledBy calls timers) ∧ serial ∉ cancelledBy calls timers := by
  induction calls generalizing timers nodes with
  | nil =>
    obtain rfl : timers = timers' := Option.some.inj returns
    simp [scheduledBy, cancelledBy]
  | cons call calls ih =>
    obtain ⟨middle, nodes', performs, inv'⟩ := timerCall_inv inv call
    rw [List.foldlM_cons, performs] at returns
    have grows := (timerCall_scheduled inv call performs).1
    have step : holds middle serial ↔ _ := timerCall_holds inv call performs
    have rest := ih inv' returns
    -- what is scheduled later has a larger number than what was cancelled earlier
    have apart : serial ∈ scheduledBy calls middle → serial ∉ cancels timers call := by
      intro scheduled cancelled
      have upper := cancels_lt inv cancelled
      have lower := scheduledBy_ge inv' calls scheduled
      omega
    rw [rest, step, scheduledBy, cancelledBy, performs]
    simp only [Option.map_some, Option.getD_some, List.mem_append, Option.mem_toList, not_or, ← or_assoc]
    constructor
    · rintro ⟨⟨before, kept⟩ | later, keptLater⟩
      · exact ⟨.inl before, kept, keptLater⟩
      · exact ⟨.inr later, apart later, keptLater⟩
    · rintro ⟨before | later, kept, keptLater⟩
      · exact ⟨.inl ⟨before, kept⟩, keptLater⟩
      · exact ⟨.inr later, keptLater⟩

/-- A timer that is pending after the calls and is not newer than them was pending
    in the same slot before. -/
theorem timerCalls_slot (inv : TimerInv timers nodes) (calls : List TimerCall)
    (returns : calls.foldlM TimerCall.perform timers = some timers') {timer : TimerSlot}
    (pending : timers'.pending timer) (older : (timers'.tasks timer).serial < timers.scheduled) :
    timers'.tasks timer = timers.tasks timer := by
  induction calls generalizing timers nodes with
  | nil =>
    obtain rfl : timers = timers' := Option.some.inj returns
    rfl
  | cons call calls ih =>
    obtain ⟨middle, nodes', performs, inv'⟩ := timerCall_inv inv call
    rw [List.foldlM_cons, performs] at returns
    have grows := (timerCall_scheduled inv call performs).1
    have later := ih inv' returns (by omega)
    rw [later] at older ⊢
    rw [Timers.pending, later] at pending
    cases timerCall_slot inv call performs pending with
    | inl same => exact same
    | inr newer => omega

/-! ## The poll -/

/-- The timer that fired and the one found in its slot after the callback's calls:
    cancelling the slot removes the former exactly when the slot holds no other. -/
theorem cancel_fired_iff (inv : TimerInv timers nodes) {nodes' : List TimerSlot}
    (inv' : TimerInv timers' nodes') (calls : List TimerCall)
    (returns : calls.foldlM TimerCall.perform timers = some timers') {fired : TimerSlot}
    (pending : timers.pending fired) :
    (∀ serial, holds (timerCancel (some fired) timers') serial ↔
        holds timers' serial ∧ serial ≠ (timers.tasks fired).serial) ↔
      ¬ (timers'.pending fired ∧ (timers'.tasks fired).serial ≠ (timers.tasks fired).serial) := by
  constructor
  · rintro exactly ⟨occupied, other⟩
    have left : ¬ holds (timerCancel (some fired) timers') (timers'.tasks fired).serial := by
      rw [timerCancel_holds inv' fired]
      exact fun kept => kept.2 ⟨occupied, rfl⟩
    exact left ((exactly _).mpr ⟨⟨fired, occupied, rfl⟩, other⟩)
  · intro same serial
    rw [timerCancel_holds inv' fired]
    refine and_congr_right fun held => not_congr ?_
    constructor
    · rintro ⟨occupied, rfl⟩
      exact not_not.mp fun other => same ⟨occupied, other⟩
    · rintro rfl
      -- it is still pending, and a timer never changes its slot
      obtain ⟨timer, occupied, numbered⟩ := held
      have firedOn := (inv.pending fired).mpr pending
      have unmoved := timerCalls_slot inv calls returns occupied (numbered ▸ inv.serial fired firedOn)
      have before : timers.pending timer := by simpa [Timers.pending, unmoved] using occupied
      obtain rfl : timer = fired := by
        apply inv.distinct timer ((inv.pending timer).mpr before) fired firedOn
        rw [← unmoved, numbered]
      exact ⟨occupied, numbered⟩

theorem pollAccounts_iff (inv : TimerInv timers nodes) (now : Nat) (callback : TimerCallback) :
    PollAccounts now callback timers ↔ ¬ SlotHandedOver now callback timers := by
  cases timerPoll_cases inv now callback with
  | inl idle =>
    have accounts : PollAccounts now callback timers := ⟨[], timers, idle, fun serial => Iff.rfl⟩
    refine iff_of_true accounts ?_
    rintro ⟨-, fired, first, expired, after, returns, -⟩
    rw [Option.mem_def] at first returns
    simp [timerPoll, first, expired, returns] at idle
  | inr ran =>
    obtain ⟨fired, rest, timers', nodes', after, rfl, reached, returns, inv', afterEq, polls⟩ := ran
    have start : timers.list.start = some fired := inv.linked.chain.1
    have pending := (inv.pending fired).mp (by simp)
    have expired : timerRemaining (timers.tasks fired).expire now = 0 := by
      rw [timerRemaining]
      split <;> omega
    have handed : SlotHandedOver now callback timers ↔ callback.status = taskFinished ∧
        timers'.pending fired ∧ (timers'.tasks fired).serial ≠ (timers.tasks fired).serial := by
      simp [SlotHandedOver, start, expired, returns]
    -- the fired timer is none of those that the callback scheduled
    have unscheduled : ∀ serial ∈ scheduledBy callback.calls timers, serial ≠ (timers.tasks fired).serial := by
      intro serial scheduled equal
      have upper := inv.serial fired (by simp)
      have lower := scheduledBy_ge inv callback.calls scheduled
      omega
    have books : ∀ serial, holds timers' serial ↔ _ := fun serial =>
      timerCalls_holds inv callback.calls returns
    have finishes : ∀ serial, holds timers' serial ∧ serial ≠ (timers.tasks fired).serial ↔
        (holds timers serial ∧ serial ∉ cancelledBy callback.calls timers ∧
          ¬ serial = (timers.tasks fired).serial) ∨
        serial ∈ scheduledBy callback.calls timers ∧ serial ∉ cancelledBy callback.calls timers := by
      intro serial
      rw [books]
      constructor
      · rintro ⟨⟨held | scheduled, kept⟩, other⟩
        · exact .inl ⟨held, kept, other⟩
        · exact .inr ⟨scheduled, kept⟩
      · rintro (⟨held, kept, other⟩ | ⟨scheduled, kept⟩)
        · exact ⟨⟨.inl held, kept⟩, other⟩
        · exact ⟨⟨.inr scheduled, kept⟩, unscheduled serial scheduled⟩
    simp only [PollAccounts, polls, Option.some.injEq, Prod.mk.injEq, handed]
    by_cases finished : callback.status = taskFinished
    · rw [if_pos finished] at afterEq
      have cancel := cancel_fired_iff inv inv' callback.calls returns pending
      simp only [finished, true_and]
      rw [← cancel]
      constructor
      · rintro ⟨called, after', ⟨rfl, rfl⟩, accounts⟩ serial
        rw [← afterEq, accounts, finishes]
      · intro exactly
        refine ⟨[fired], after, ⟨rfl, rfl⟩, fun serial => ?_⟩
        rw [afterEq, exactly, finishes]
    · rw [if_neg finished] at afterEq
      refine iff_of_true ⟨[fired], after, ⟨rfl, rfl⟩, fun serial => ?_⟩ (by simp [finished])
      rw [afterEq, books]
      simp only [finished, false_and, not_false_eq_true, and_true]
      exact or_and_right

/-- In every reachable state, for every callback, `TimerPoll` leaves the right
    timers pending unless the callback hands its own slot to another timer and
    then returns `TASK_FINISHED`. -/
theorem timer_poll_accounts_iff (events : List TimerEvent) :
    ∃ timers, runTimers events timerInit = some timers ∧
      ∀ now callback, PollAccounts now callback timers ↔ ¬ SlotHandedOver now callback timers := by
  obtain ⟨timers, nodes, returns, inv⟩ := runTimers_inv timerInit_inv events
  exact ⟨timers, returns, pollAccounts_iff inv⟩

/-- A callback that cancels its own timer, schedules another one and returns
    `TASK_FINISHED` loses the timer it scheduled. -/
theorem timer_poll_cancels_successor :
    ∃ timers, runTimers [.call (.schedule 0 0 100 none none)] timerInit = some timers ∧
      ¬ PollAccounts 0 ⟨[.cancel (some 0), .schedule 0 5 101 none none], taskFinished⟩ timers := by
  have observed : (runTimers [.call (.schedule 0 0 100 none none)] timerInit).map (fun timers =>
      (timerPoll 0 ⟨[.cancel (some 0), .schedule 0 5 101 none none], taskFinished⟩ timers).map fun result =>
        (result.1, decide (holds result.2 1),
          scheduledBy [.cancel (some 0), .schedule 0 5 101 none none] timers,
          cancelledBy [.cancel (some 0), .schedule 0 5 101 none none] timers)) =
      some (some ([0], false, [1], [0])) := by decide +kernel
  obtain ⟨timers, run, seen⟩ := Option.map_eq_some_iff.mp observed
  obtain ⟨⟨called, after⟩, polls, seen⟩ := Option.map_eq_some_iff.mp seen
  simp only [Prod.mk.injEq, decide_eq_false_iff_not] at seen
  obtain ⟨rfl, lost, scheduled, cancelled⟩ := seen
  refine ⟨timers, run, ?_⟩
  rintro ⟨called', after', polls', accounts⟩
  obtain ⟨rfl, rfl⟩ := Prod.mk.inj (Option.some.inj (polls.symm.trans polls'))
  exact lost ((accounts 1).mpr (.inr (by simp [scheduled, cancelled])))

end ComputerSystems.Verified
