import ComputerSystems.Verified.TaskList

/-! # Slots of tasks that have stopped

`TaskNew` takes a slot only if both `poll` and `data` are `NULL`.  `TaskEnd` clears
both; a task that returns `TASK_FINISHED` loses only its `poll`, and `TaskEnd` then
refuses it.  If its `data` was not `NULL` its slot is lost for good.

No call ever loses or finds a slot (`perform_lost`), so that the slots that are lost
are exactly those of the tasks that finished with data (`task_slots_iff`).
-/

namespace ComputerSystems.Verified

open ComputerSystems.Data ComputerSystems.System

variable {maxTasks : Nat} {os : Os maxTasks}

/-- A slot that is neither in use nor free. -/
def Lost (os : Os maxTasks) (task : Fin maxTasks) : Prop :=
  (os.tasks task).poll = none ∧ (os.tasks task).data ≠ none

/-- The number of live tasks. -/
def liveTasks (os : Os maxTasks) : Nat := (List.finRange maxTasks).countP os.live

/-- Every task that has stopped has given its slot back, and `TaskNew` returns a task
    while not all slots are live. -/
structure SlotsGivenBack (os : Os maxTasks) : Prop where
  none : ∀ task, ¬ Lost os task
  new : liveTasks os < maxTasks → ∀ priority poll data,
    ∃ os' task, taskNew priority poll data os = some (os', some task)

/-! ## Runs in which tasks finish without data -/

/-- If the poll function finishes its task, the `data` of the task is `NULL` then. -/
def PollReleases (current : Fin maxTasks) (poll : PollRun maxTasks) (os : Os maxTasks) : Prop :=
  ∀ os' ∈ poll.calls.foldlM TaskCall.perform
      { os with stdioState := (os.tasks current).stdio <|> os.stdioState },
    poll.status = taskFinished → (os'.tasks current).data = none

/-- Every task that finishes during a tick does so without data. -/
def OsTickReleases : List (PollRun maxTasks) → Option (Fin maxTasks) → Os maxTasks → Prop
  | _, none, _ => True
  | [], some _, _ => True
  | poll :: polls, some current, os =>
    if os.live current then
      PollReleases current poll os ∧
      ∀ os' ∈ pollTask current poll os,
        poll.status ≠ taskReady → OsTickReleases polls (os'.list.links current).next os'
    else
      OsTickReleases polls (os.list.links current).next os

def OsEventReleases (os : Os maxTasks) : OsEvent maxTasks → Prop
  | .call _ => True
  | .osTick polls => OsTickReleases polls os.list.start os

/-- Every task that finishes during a run does so without data. -/
def OsRunReleases : List (OsEvent maxTasks) → Os maxTasks → Prop
  | [], _ => True
  | event :: events, os => OsEventReleases os event ∧ ∀ os' ∈ event.perform os, OsRunReleases events os'

/-! ## Calls -/

/-- `TaskNew` returns the slot that it found, and fills it. -/
theorem taskNew_slot {priority : Int} {poll : Address} {data : Option Address} {os' : Os maxTasks}
    {task : Option (Fin maxTasks)} (returns : taskNew priority poll data os = some (os', task)) :
    task = os.freeTask ∧
      (os'.tasks = os.tasks ∨ ∃ slot newTask, os.freeTask = some slot ∧ newTask.poll = some poll ∧
        os'.tasks = Function.update os.tasks slot newTask) := by
  rw [taskNew] at returns
  cases free : os.freeTask with
  | none =>
    simp only [free, Option.some.injEq, Prod.mk.injEq] at returns
    obtain ⟨rfl, rfl⟩ := returns
    exact ⟨rfl, .inl rfl⟩
  | some slot =>
    simp only [free] at returns
    split at returns
    · simp only [Option.some.injEq, Prod.mk.injEq] at returns
      obtain ⟨rfl, rfl⟩ := returns
      exact ⟨rfl, .inr ⟨slot, _, rfl, rfl, rfl⟩⟩
    · rw [Option.map_eq_some_iff] at returns
      obtain ⟨list, -, same⟩ := returns
      simp only [Prod.mk.injEq] at same
      obtain ⟨rfl, rfl⟩ := same
      exact ⟨rfl, .inr ⟨slot, _, rfl, rfl, rfl⟩⟩

theorem freeTask_free {slot : Fin maxTasks} (found : os.freeTask = some slot) :
    (os.tasks slot).poll = none ∧ (os.tasks slot).data = none := by
  have free := List.find?_some found
  simpa using free

/-- A call takes a slot that is free or frees one that is live. -/
theorem perform_lost {call : TaskCall maxTasks} {os' : Os maxTasks} (performs : call.perform os = some os')
    (task : Fin maxTasks) : Lost os' task ↔ Lost os task := by
  cases call with
  | new priority poll data =>
    rw [TaskCall.perform, Option.map_eq_some_iff] at performs
    obtain ⟨⟨next, taken⟩, returns, rfl⟩ := performs
    obtain ⟨-, same | ⟨slot, newTask, found, used, same⟩⟩ := taskNew_slot returns
    · simp only [Lost, same]
    · by_cases equal : task = slot
      · subst equal
        simp [Lost, same, used, (freeTask_free found).2]
      · simp [Lost, same, equal]
  | finish ending =>
    obtain rfl := Option.some.inj performs
    cases ending with
    | none => exact Iff.rfl
    | some slot =>
      by_cases dead : (os.tasks slot).poll = none
      · simp [taskEnd, dead]
      · by_cases equal : task = slot
        · subst equal
          simp [taskEnd, dead, Lost]
        · simp [taskEnd, dead, Lost, equal]

theorem calls_lost {calls : List (TaskCall maxTasks)} {os' : Os maxTasks}
    (performs : calls.foldlM TaskCall.perform os = some os') (task : Fin maxTasks) :
    Lost os' task ↔ Lost os task := by
  induction calls generalizing os with
  | nil =>
    obtain rfl : os = os' := Option.some.inj performs
    exact Iff.rfl
  | cons call calls ih =>
    rw [List.foldlM_cons, Option.bind_eq_bind, Option.bind_eq_some_iff] at performs
    obtain ⟨middle, first, later⟩ := performs
    exact (ih later).trans (perform_lost first task)

/-! ## Ticks -/

/-- A poll function loses at most the slot of its own task. -/
theorem pollTask_lost {current : Fin maxTasks} {poll : PollRun maxTasks} {os' : Os maxTasks}
    (polled : pollTask current poll os = some os') :
    (∀ task, ¬ Lost os' task) ↔ (∀ task, ¬ Lost os task) ∧ PollReleases current poll os := by
  rw [pollTask, Option.bind_eq_bind, Option.bind_eq_some_iff] at polled
  obtain ⟨called, calls, polled⟩ := polled
  -- What the task calls does not lose a slot; that it finishes with data does.
  have unchanged : ∀ task, Lost called task ↔ Lost os task := by
    intro task
    have same := calls_lost calls task
    exact same
  have releases : PollReleases current poll os ↔
      (poll.status = taskFinished → (called.tasks current).data = none) := by
    rw [PollReleases, calls]
    simp
  rw [releases]
  by_cases finished : poll.status = taskFinished
  · rw [if_pos finished] at polled
    obtain rfl := Option.some.inj polled
    constructor
    · intro kept
      have own := kept current
      refine ⟨?_, fun _ => by simpa [Lost] using own⟩
      intro task lost
      apply kept task
      have before := (unchanged task).mpr lost
      by_cases equal : task = current
      · subst equal
        simpa [Lost] using before.2
      · simpa [Lost, equal] using before
    · rintro ⟨kept, own⟩ task lost
      by_cases equal : task = current
      · subst equal
        simp [Lost, own finished] at lost
      · exact kept task ((unchanged task).mp (by simpa [Lost, equal] using lost))
  · rw [if_neg finished] at polled
    obtain rfl := Option.some.inj polled
    simp [unchanged, finished]

theorem osTickFrom_lost {polls : List (PollRun maxTasks)} {current : Option (Fin maxTasks)}
    {status status' : Int} {os' : Os maxTasks}
    (returns : osTickFrom polls current status os = some (status', os')) :
    (∀ task, ¬ Lost os' task) ↔ (∀ task, ¬ Lost os task) ∧ OsTickReleases polls current os := by
  -- By induction on the polls: each one loses nothing if and only if it releases.
  induction polls generalizing current status os with
  | nil =>
    cases current with
    | none =>
      simp only [osTickFrom, Option.some.injEq, Prod.mk.injEq] at returns
      obtain ⟨-, rfl⟩ := returns
      simp [OsTickReleases]
    | some current => simp [osTickFrom] at returns
  | cons poll polls ih =>
    cases current with
    | none =>
      simp only [osTickFrom, Option.some.injEq, Prod.mk.injEq] at returns
      obtain ⟨-, rfl⟩ := returns
      simp [OsTickReleases]
    | some current =>
      rw [osTickFrom] at returns
      rw [OsTickReleases]
      by_cases live : os.live current = true
      · rw [if_pos live] at returns ⊢
        rw [Option.bind_eq_bind, Option.bind_eq_some_iff] at returns
        obtain ⟨middle, polled, returns⟩ := returns
        have first := pollTask_lost polled
        by_cases ready : poll.status = taskReady
        · simp only [ready, if_true, Option.some.injEq, Prod.mk.injEq] at returns
          obtain ⟨-, rfl⟩ := returns
          simp [first, ready]
        · rw [if_neg ready] at returns
          rw [ih returns, first]
          simp [polled, ready, and_assoc]
      · rw [if_neg live] at returns ⊢
        exact ih returns

/-! ## Runs -/

theorem event_lost {event : OsEvent maxTasks} {os' : Os maxTasks} (returns : event.perform os = some os') :
    (∀ task, ¬ Lost os' task) ↔ (∀ task, ¬ Lost os task) ∧ OsEventReleases os event := by
  cases event with
  | call request =>
    have unchanged : ∀ task, Lost os' task ↔ Lost os task := perform_lost returns
    simp [unchanged, OsEventReleases]
  | osTick polls =>
    simp only [OsEvent.perform, osTick, Option.map_eq_some_iff, Prod.exists, exists_eq_right] at returns
    obtain ⟨status, returns⟩ := returns
    exact osTickFrom_lost returns

theorem runOs_lost {events : List (OsEvent maxTasks)} {os' : Os maxTasks}
    (returns : runOs events os = some os') :
    (∀ task, ¬ Lost os' task) ↔ (∀ task, ¬ Lost os task) ∧ OsRunReleases events os := by
  induction events generalizing os with
  | nil =>
    obtain rfl : os = os' := Option.some.inj returns
    simp [OsRunReleases]
  | cons event events ih =>
    rw [runOs, List.foldlM_cons, Option.bind_eq_bind, Option.bind_eq_some_iff] at returns
    obtain ⟨middle, first, later⟩ := returns
    rw [ih later, event_lost first, OsRunReleases]
    simp [first, and_assoc]

/-! ## `TaskNew` -/

/-- The walk through a list that ends comes to an end. -/
theorem insertOrdered_returns {ι : Type} [DecidableEq ι] (before : ι → Bool) (item : ι)
    (list : LinkedList ι) {nodes : List ι} {current : Option ι} {fuel : Nat}
    (chain : Chain (nextOf list.links) current nodes) (enough : nodes.length ≤ fuel) :
    ∃ list', insertOrdered before item fuel current list = some list' := by
  induction nodes generalizing current fuel with
  | nil =>
    obtain rfl : current = none := chain
    exact ⟨list, by rw [insertOrdered]⟩
  | cons node nodes ih =>
    obtain ⟨rfl, rest⟩ := chain_cons.mp chain
    obtain _ | fuel := fuel
    · simp at enough
    · rw [insertOrdered]
      split
      · exact ⟨_, rfl⟩
      · split
        · exact ⟨_, rfl⟩
        · exact ih rest (by simpa using enough)

/-- A list ends at a node whose links have been cleared. -/
theorem chain_cleared {links : Fin maxTasks → DoubleLink (Fin maxTasks)} {start : Option (Fin maxTasks)}
    {nodes : List (Fin maxTasks)} (slot : Fin maxTasks) (chain : Chain (nextOf links) start nodes) :
    ∃ shorter, Chain (nextOf (Function.update links slot {})) start shorter ∧
      shorter.length ≤ nodes.length := by
  induction nodes generalizing start with
  | nil => exact ⟨[], chain, Nat.le_refl _⟩
  | cons node nodes ih =>
    obtain ⟨rfl, rest⟩ := chain_cons.mp chain
    by_cases equal : node = slot
    · subst equal
      refine ⟨[node], ?_, by simp⟩
      simp [nextOf]
    · obtain ⟨shorter, continues, bound⟩ := ih rest
      refine ⟨node :: shorter, chain_cons.mpr ⟨rfl, ?_⟩, by simpa using bound⟩
      rw [nextOf, Function.update_of_ne equal]
      exact continues

/-- `TaskNew` returns if the task list ends. -/
theorem taskNew_returns {nodes : List (Fin maxTasks)} (inv : TaskListInv os nodes) (priority : Int)
    (poll : Address) (data : Option Address) :
    ∃ os' task, taskNew priority poll data os = some (os', task) := by
  rw [taskNew]
  cases free : os.freeTask with
  | none => exact ⟨os, none, rfl⟩
  | some slot =>
    obtain ⟨shorter, chain, bound⟩ := chain_cleared slot inv.linked.chain
    simp only
    split
    · exact ⟨_, _, rfl⟩
    · obtain ⟨list, inserted⟩ := insertOrdered_returns _ slot
        ⟨os.list.start, Function.update os.list.links slot {}⟩ chain (Nat.le_trans bound inv.length_le)
      rw [inserted]
      exact ⟨_, _, rfl⟩

/-- Without lost slots, a slot that is not live is free. -/
theorem freeTask_found (none : ∀ task, ¬ Lost os task) (fewer : liveTasks os < maxTasks) :
    ∃ slot, os.freeTask = some slot := by
  rw [← Option.isSome_iff_exists]
  by_contra full
  rw [Os.freeTask, List.find?_isSome] at full
  have all : liveTasks os = (List.finRange maxTasks).length := by
    rw [liveTasks, List.countP_eq_length]
    intro task member
    by_contra dead
    have stopped : (os.tasks task).poll = .none := by simpa [Os.live] using dead
    apply full
    refine ⟨task, member, ?_⟩
    have released := none task
    simp only [Lost, stopped, true_and, ne_eq, not_not] at released
    simp [stopped, released]
  rw [List.length_finRange] at all
  omega

/-- In a run in which each `TaskNew` leaves the task list well formed, every task that
    has stopped gives its slot back, and `TaskNew` returns a task while not all slots
    are live, exactly if every task that finishes has no data. -/
theorem task_slots_iff (stdioState : Option Shell) (events : List (OsEvent maxTasks)) (os : Os maxTasks)
    (safe : OsRunSafe events (osInit stdioState)) (returns : runOs events (osInit stdioState) = some os) :
    SlotsGivenBack os ↔ OsRunReleases events (osInit stdioState) := by
  have start : ∀ task, ¬ Lost (osInit stdioState : Os maxTasks) task := by
    intro task lost
    exact lost.2 rfl
  constructor
  · intro given
    exact ((runOs_lost returns).mp given.none).2
  · intro releases
    have none := (runOs_lost returns).mpr ⟨start, releases⟩
    refine ⟨none, ?_⟩
    intro fewer priority poll data
    obtain ⟨nodes, inv⟩ := runOs_inv (osInit_inv stdioState) safe (List.prefix_refl _) returns
    obtain ⟨slot, found⟩ := freeTask_found none fewer
    obtain ⟨os', task, news⟩ := taskNew_returns inv priority poll data
    obtain ⟨same, -⟩ := taskNew_slot news
    rw [found] at same
    exact ⟨os', slot, same ▸ news⟩

/-- Two tasks, one of which finishes without data. -/
theorem task_slots_iff_finished :
    ∃ os, runOs [.call (.new 0 100 (some 1)), .call (.new 1 101 none),
        .osTick [⟨[], taskIdle⟩, ⟨[], taskFinished⟩]] (osInit none : Os 13) = some os ∧
      (SlotsGivenBack os ↔ OsRunReleases [.call (.new 0 100 (some 1)), .call (.new 1 101 none),
        .osTick [⟨[], taskIdle⟩, ⟨[], taskFinished⟩]] (osInit none : Os 13)) := by
  obtain ⟨os, run⟩ := Option.isSome_iff_exists.mp (by decide : (runOs
    [.call (.new 0 100 (some 1)), .call (.new 1 101 none),
      .osTick [⟨[], taskIdle⟩, ⟨[], taskFinished⟩]] (osInit none : Os 13)).isSome)
  exact ⟨os, run, task_slots_iff none _ os (by decide) run⟩

/-- Every slot is given to a task with data, and all tasks finish in one tick. -/
def allFinish : List (OsEvent 13) :=
  List.replicate 13 (.call (.new 0 100 (some 1))) ++ [.osTick (List.replicate 13 ⟨[], taskFinished⟩)]

/-- No task is live afterwards, and there is no slot for a new one. -/
theorem task_slots_lost :
    ¬ ∀ (stdioState : Option Shell) (events : List (OsEvent 13)) (os : Os 13),
      OsRunSafe events (osInit stdioState) → runOs events (osInit stdioState) = some os →
        liveTasks os < 13 → ∀ priority poll data,
          ∃ os' task, taskNew priority poll data os = some (os', some task) := by
  intro holds
  have observed : (runOs allFinish (osInit none)).map (fun os => (liveTasks os, os.freeTask)) =
      some (0, none) := by decide +kernel
  obtain ⟨os, run, seen⟩ := Option.map_eq_some_iff.mp observed
  obtain ⟨live, free⟩ := Prod.mk.inj seen
  obtain ⟨os', task, news⟩ := holds none allFinish os (by decide +kernel) run (by omega) 0 100 none
  obtain ⟨same, -⟩ := taskNew_slot news
  rw [free] at same
  cases same

end ComputerSystems.Verified
