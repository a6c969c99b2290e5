import ComputerSystems.System.Os
import ComputerSystems.Verified.OrderedList
import Mathlib.Data.Fintype.Card
import Mathlib.Data.List.Find

/-! # The task list

`TaskListWellFormed` is what the scheduler relies on: the list that starts at
`TasksStart` ends, meets every live task once, and meets them by priority and
then by age.

`TaskEnd` does not move `TasksStart` and `OsTick` does not unlink a finished
task, so dead tasks can stay on the list.  They do no harm until `TaskNew` hands
their slot out again, or inserts before a task whose `previous` link such an end
has cleared.  `TaskNewSafe` excludes these two cases and nothing else; in a run
in which every call of `TaskNew` is safe the list stays well formed
(`task_list_well_formed`).
-/

namespace ComputerSystems.Verified

open ComputerSystems.Data ComputerSystems.System

variable {maxTasks : Nat} {os : Os maxTasks} {nodes : List (Fin maxTasks)}

/-- The order in which `OsTick` meets two tasks: by priority, then by creation. -/
def TaskBefore (os : Os maxTasks) : Fin maxTasks → Fin maxTasks → Prop :=
  Precedes (fun task => (os.tasks task).priority) fun task => (os.tasks task).created

/-- Following `list.next` from `TasksStart` reaches `NULL`, visits every live task
    exactly once, and visits the live tasks in order. -/
def TaskListWellFormed (os : Os maxTasks) : Prop :=
  ∃ visited, Chain (nextOf os.list.links) os.list.start visited ∧
    (∀ task, os.live task → visited.count task = 1) ∧
    (visited.filter os.live).Pairwise (TaskBefore os)

/-- The tasks that are on the list, dead ones included. -/
def linkedTasks (os : Os maxTasks) : List (Fin maxTasks) :=
  follow (nextOf os.list.links) maxTasks os.list.start

/-- The slot that `TaskNew` is about to take is not on the list any more, and the
    task that the new one goes before starts the list or has kept its `previous`
    link. -/
def TaskNewSafe (priority : Int) (os : Os maxTasks) : Prop :=
  ∀ slot ∈ os.freeTask, slot ∉ linkedTasks os ∧
    ∀ task ∈ (linkedTasks os).find? fun task => priority < (os.tasks task).priority,
      os.list.start = some task ∨ (os.list.links task).previous ≠ none

/-! ## Safe runs -/

def TaskCallSafe (os : Os maxTasks) : TaskCall maxTasks → Prop
  | .new priority _ _ => TaskNewSafe priority os
  | .finish _ => True

/-- Every call of the sequence is safe in the state it is made in. -/
def TaskCallsSafe : List (TaskCall maxTasks) → Os maxTasks → Prop
  | [], _ => True
  | call :: calls, os => TaskCallSafe os call ∧ ∀ os' ∈ call.perform os, TaskCallsSafe calls os'

/-- Every call that the poll functions make during a tick is safe. -/
def OsTickSafe : List (PollRun maxTasks) → Option (Fin maxTasks) → Os maxTasks → Prop
  | _, none, _ => True
  | [], some _, _ => True
  | poll :: polls, some current, os =>
    if os.live current then
      TaskCallsSafe poll.calls { os with stdioState := (os.tasks current).stdio <|> os.stdioState } ∧
      ∀ os' ∈ pollTask current poll os,
        poll.status ≠ taskReady → OsTickSafe polls (os'.list.links current).next os'
    else
      OsTickSafe polls (os.list.links current).next os

/-- Every call of a run, made directly or by a poll function, is safe. -/
def OsRunSafe : List (OsEvent maxTasks) → Os maxTasks → Prop
  | [], _ => True
  | event :: events, os =>
    (match event with
      | .call request => TaskCallSafe os request
      | .osTick polls => OsTickSafe polls os.list.start os) ∧
    ∀ os' ∈ event.perform os, OsRunSafe events os'

instance decidableNewSafe (priority : Int) (os : Os maxTasks) : Decidable (TaskNewSafe priority os) :=
  inferInstanceAs (Decidable (∀ slot ∈ os.freeTask, _ ∧ ∀ task ∈ List.find? _ _, _))

instance (os : Os maxTasks) : ∀ call : TaskCall maxTasks, Decidable (TaskCallSafe os call)
  | .new priority _ _ => inferInstanceAs (Decidable (TaskNewSafe priority os))
  | .finish _ => inferInstanceAs (Decidable True)

instance decidableCallsSafe : ∀ calls (os : Os maxTasks), Decidable (TaskCallsSafe calls os)
  | [], _ => inferInstanceAs (Decidable True)
  | call :: calls, os =>
    have := decidableCallsSafe calls
    inferInstanceAs (Decidable (TaskCallSafe os call ∧ ∀ os' ∈ call.perform os, TaskCallsSafe calls os'))

instance decidableTickSafe : ∀ polls current (os : Os maxTasks), Decidable (OsTickSafe polls current os)
  | [], none, _ => inferInstanceAs (Decidable True)
  | _ :: _, none, _ => inferInstanceAs (Decidable True)
  | [], some _, _ => inferInstanceAs (Decidable True)
  | _ :: polls, some current, os =>
    have := decidableTickSafe polls
    inferInstanceAs (Decidable (if os.live current then _ else _))

instance decidableRunSafe : ∀ events (os : Os maxTasks), Decidable (OsRunSafe events os)
  | [], _ => inferInstanceAs (Decidable True)
  | .call request :: events, os =>
    have := decidableRunSafe events
    inferInstanceAs (Decidable (TaskCallSafe os request ∧ ∀ os' ∈ OsEvent.perform os _, OsRunSafe events os'))
  | .osTick polls :: events, os =>
    have := decidableRunSafe events
    inferInstanceAs (Decidable (OsTickSafe polls os.list.start os ∧
      ∀ os' ∈ OsEvent.perform os _, OsRunSafe events os'))

/-! ## The invariant -/

/-- `nodes` are on the list, the live tasks among them, in order and all created
    before now. -/
structure TaskListInv (os : Os maxTasks) (nodes : List (Fin maxTasks)) : Prop where
  linked : Linked True os.list nodes
  live : ∀ task, os.live task → task ∈ nodes
  sorted : nodes.Pairwise (TaskBefore os)
  created : ∀ task ∈ nodes, (os.tasks task).created < os.taskCount

theorem TaskListInv.wellFormed (inv : TaskListInv os nodes) : TaskListWellFormed os := by
  refine ⟨nodes, inv.linked.chain, fun task live => ?_, inv.sorted.filter _⟩
  exact List.count_eq_one_of_mem inv.linked.chain.nodup (inv.live task live)

theorem TaskListInv.length_le (inv : TaskListInv os nodes) : nodes.length ≤ maxTasks := by
  simpa using List.Nodup.length_le_card inv.linked.chain.nodup

theorem TaskListInv.linked_eq (inv : TaskListInv os nodes) : linkedTasks os = nodes :=
  inv.linked.chain.follow_eq inv.length_le

theorem osInit_inv (stdioState : Option Shell) :
    TaskListInv (osInit stdioState : Os maxTasks) [] where
  linked := ⟨rfl, by simp, by simp⟩
  live task live := by simp [osInit, Os.live] at live
  sorted := List.Pairwise.nil
  created := by simp

/-- Tasks may leave the list or die as long as the live ones stay on it, and the
    priorities and creation times stay what they were. -/
theorem TaskListInv.shrink {os' : Os maxTasks} {nodes' : List (Fin maxTasks)}
    (inv : TaskListInv os nodes) (linked : Linked True os'.list nodes') (sub : nodes'.Sublist nodes)
    (live : ∀ task, os'.live task → task ∈ nodes')
    (count : os'.taskCount = os.taskCount)
    (priority : ∀ task, (os'.tasks task).priority = (os.tasks task).priority)
    (created : ∀ task, (os'.tasks task).created = (os.tasks task).created) :
    TaskListInv os' nodes' where
  linked := linked
  live := live
  sorted := (inv.sorted.sublist sub).imp fun before => by
    simpa only [TaskBefore, Precedes, priority, created] using before
  created task member := by rw [created, count]; exact inv.created task (sub.subset member)

/-- The invariant after a new task was linked where its priority belongs. -/
theorem inserted_inv {slot : Fin maxTasks} (leading trailing : List (Fin maxTasks))
    (inv : TaskListInv os (leading ++ trailing)) (fresh : slot ∉ leading ++ trailing)
    (newTask : Task) (created : newTask.created = os.taskCount) (list : LinkedList (Fin maxTasks))
    (linked : Linked True list (leading ++ slot :: trailing))
    (behind : ∀ task ∈ leading, ¬ newTask.priority < (os.tasks task).priority)
    (ahead : ∀ task ∈ trailing.head?, newTask.priority < (os.tasks task).priority) :
    TaskListInv { os with tasks := Function.update os.tasks slot newTask, list,
                          taskCount := os.taskCount + 1 } (leading ++ slot :: trailing) where
  linked := linked
  live task live := by
    by_cases equal : task = slot
    · simp [equal]
    · have member := inv.live task (by simpa [Os.live, equal] using live)
      obtain member | member := List.mem_append.mp member <;> simp [member]
  sorted := by
    refine precedes_insert inv.sorted (fun task member => ?_) (fun task member => ?_)
      (by simpa using behind) (by simpa using ahead)
    · have other : task ≠ slot := fun equal => fresh (equal ▸ member)
      simp [other]
    · simpa [created] using inv.created task (by simp [member])
  created task member := by
    by_cases equal : task = slot
    · simp [equal, created]
    · have older := inv.created task (by simp_all)
      simp only [Function.update_of_ne equal]
      omega

/-! ## The operations keep it -/

theorem taskNew_inv (inv : TaskListInv os nodes) {priority : Int} (safe : TaskNewSafe priority os)
    (poll : Address) (data : Option Address) :
    ∃ os' task nodes', taskNew priority poll data os = some (os', task) ∧ TaskListInv os' nodes' := by
  rw [taskNew]
  cases free : os.freeTask with
  | none => exact ⟨os, none, nodes, rfl, inv⟩
  | some slot =>
    obtain ⟨fresh, attached⟩ := safe slot free
    rw [inv.linked_eq] at fresh attached
    have apart : ∀ task ∈ nodes, task ≠ slot := fun task member equal => fresh (equal ▸ member)
    have linked : Linked True { start := os.list.start, links := Function.update os.list.links slot {} }
        nodes :=
      inv.linked.congr rfl fun task member => Function.update_of_ne (apart task member) _ _
    cases nodes with
    | nil =>
      have empty : os.list.start = none := inv.linked.chain
      simp only [empty, ↓reduceIte]
      refine ⟨_, _, [slot], rfl, ?_⟩
      exact inserted_inv [] [] inv fresh _ rfl _
        ⟨by simp [nextOf], by simp, by simp⟩ (by simp) (by simp)
    | cons head tail =>
      have start : os.list.start = some head := inv.linked.chain.1
      simp only [start, reduceCtorEq, ↓reduceIte]
      -- the slots compared with are other ones than the slot just written
      have unread : ∀ newTask : Task, ∀ task ∈ head :: tail,
          Function.update os.tasks slot newTask task = os.tasks task :=
        fun newTask task member => Function.update_of_ne (apart task member) _ _
      obtain ⟨list', leading, trailing, inserted, split, behind, ahead, linked', -⟩ :=
        insertOrdered_linked (fun current => decide (priority < (Function.update os.tasks slot
          { data, poll := some poll, priority, created := os.taskCount
            stdio := some (os.stdioState.getD .uart0) } current).priority))
          [] _ linked (by simpa using fresh) (by simp) inv.length_le (by simp)
          (by
            intro task found
            rw [List.find?_congr fun task member => by rw [unread _ task member]] at found
            have member := List.mem_of_find?_eq_some found
            simpa only [Function.update_of_ne (apart task member)] using attached task found)
      rw [List.head?_cons, start] at inserted
      rw [inserted]
      refine ⟨_, _, leading ++ slot :: trailing, rfl, ?_⟩
      rw [List.nil_append] at split
      rw [← split] at inv fresh unread
      refine inserted_inv leading trailing inv fresh _ rfl list' linked' ?_ ?_
      · intro task member
        simpa [unread _ task (by simp [member])] using behind task member
      · intro task member
        simpa [unread _ task (by simp [List.mem_of_mem_head? member])] using ahead task member

theorem taskEnd_inv (inv : TaskListInv os nodes) (task : Option (Fin maxTasks)) :
    ∃ nodes', TaskListInv (taskEnd task os).2 nodes' := by
  cases task with
  | none => exact ⟨nodes, inv⟩
  | some task =>
    by_cases dead : (os.tasks task).poll = none
    · exact ⟨nodes, by simpa [taskEnd, dead] using inv⟩
    · simp only [taskEnd, dead, ↓reduceIte]
      obtain ⟨front, back, rfl⟩ := List.append_of_mem
        (inv.live task (by simpa [Os.live, Option.isSome_iff_ne_none] using dead))
      have stillOn : ∀ other, (Function.update os.tasks task { os.tasks task with
          data := none, poll := none, stdio := none } other).poll.isSome →
          other ∈ front ++ back := by
        intro other live
        by_cases equal : other = task
        · simp [equal] at live
        · have member := inv.live other (by simpa [Os.live, equal] using live)
          simpa [equal] using member
      have priority : ∀ other, (Function.update os.tasks task { os.tasks task with
          data := none, poll := none, stdio := none } other).priority = (os.tasks other).priority := by
        intro other
        by_cases equal : other = task <;> simp [equal]
      have created : ∀ other, (Function.update os.tasks task { os.tasks task with
          data := none, poll := none, stdio := none } other).created = (os.tasks other).created := by
        intro other
        by_cases equal : other = task <;> simp [equal]
      obtain ⟨detached, -⟩ | ⟨rest, before, rfl, attached⟩ := inv.linked.previous_eq
      · -- the start of the list, or a task behind an ended one: it stays linked
        refine ⟨front ++ task :: back, inv.shrink (linked_remove_detached inv.linked detached)
          (List.Sublist.refl _) ?_ rfl priority created⟩
        intro other live
        obtain member | member := List.mem_append.mp (stillOn other live) <;> simp [member]
      · refine ⟨rest ++ before :: back, inv.shrink
          (linked_remove_inner (by simpa using inv.linked) attached) (by simp) ?_ rfl priority created⟩
        intro other live
        simpa using stillOn other live

theorem perform_inv (inv : TaskListInv os nodes) (call : TaskCall maxTasks)
    (safe : TaskCallSafe os call) :
    ∃ os' nodes', call.perform os = some os' ∧ TaskListInv os' nodes' := by
  cases call with
  | new priority poll data =>
    obtain ⟨os', task, nodes', returns, inv'⟩ := taskNew_inv inv safe poll data
    exact ⟨os', nodes', by simp [TaskCall.perform, returns], inv'⟩
  | finish task =>
    obtain ⟨nodes', inv'⟩ := taskEnd_inv inv task
    exact ⟨_, nodes', rfl, inv'⟩

/-- A safe sequence of calls returns and keeps the invariant. -/
theorem calls_inv (inv : TaskListInv os nodes) (calls : List (TaskCall maxTasks))
    (safe : TaskCallsSafe calls os) :
    ∃ os' nodes', calls.foldlM TaskCall.perform os = some os' ∧ TaskListInv os' nodes' := by
  induction calls generalizing os nodes with
  | nil => exact ⟨os, nodes, rfl, inv⟩
  | cons call calls ih =>
    obtain ⟨os', nodes', returns, inv'⟩ := perform_inv inv call safe.1
    obtain ⟨final, finalNodes, rest, finalInv⟩ := ih inv' (safe.2 os' returns)
    refine ⟨final, finalNodes, ?_, finalInv⟩
    rw [List.foldlM_cons, returns]
    exact rest

theorem pollTask_inv (inv : TaskListInv os nodes) (current : Fin maxTasks) (poll : PollRun maxTasks)
    (safe : TaskCallsSafe poll.calls
      { os with stdioState := (os.tasks current).stdio <|> os.stdioState }) :
    ∃ os' nodes', pollTask current poll os = some os' ∧ TaskListInv os' nodes' := by
  have entered : TaskListInv { os with stdioState := (os.tasks current).stdio <|> os.stdioState } nodes :=
    inv.shrink inv.linked (List.Sublist.refl _) inv.live rfl (fun _ => rfl) (fun _ => rfl)
  obtain ⟨os', nodes', returns, inv'⟩ := calls_inv entered poll.calls safe
  simp only [pollTask, returns, Option.bind_eq_bind, Option.bind_some]
  by_cases finished : poll.status = taskFinished
  · rw [if_pos finished]
    refine ⟨_, nodes', rfl, inv'.shrink inv'.linked (List.Sublist.refl _) ?_ rfl ?_ ?_⟩
    · intro task live
      refine inv'.live task ?_
      by_cases equal : task = current <;> simp_all [Os.live]
    all_goals
      intro task
      by_cases equal : task = current <;> simp [equal]
  · rw [if_neg finished]
    exact ⟨os', nodes', rfl, inv'⟩

/-- The loop of `OsTick` keeps the invariant, wherever it stands: `current` may
    be a task that a poll function has ended in the meantime. -/
theorem osTickFrom_inv {os' : Os maxTasks} {status status' : Int} (polls : List (PollRun maxTasks))
    (current : Option (Fin maxTasks)) (inv : TaskListInv os nodes)
    (safe : OsTickSafe polls current os)
    (returns : osTickFrom polls current status os = some (status', os')) :
    ∃ nodes', TaskListInv os' nodes' := by
  induction polls generalizing current status os nodes with
  | nil =>
    cases current with
    | none => simp only [osTickFrom, Option.some.injEq, Prod.mk.injEq] at returns
              exact ⟨nodes, returns.2 ▸ inv⟩
    | some current => simp [osTickFrom] at returns
  | cons poll polls ih =>
    cases current with
    | none => simp only [osTickFrom, Option.some.injEq, Prod.mk.injEq] at returns
              exact ⟨nodes, returns.2 ▸ inv⟩
    | some current =>
      rw [osTickFrom] at returns
      rw [OsTickSafe] at safe
      by_cases live : os.live current = true
      · rw [if_pos live] at safe returns
        obtain ⟨polled, nodes', polledEq, inv'⟩ := pollTask_inv inv current poll safe.1
        simp only [polledEq, Option.bind_eq_bind, Option.bind_some] at returns
        by_cases ready : poll.status = taskReady
        · simp only [ready, ↓reduceIte, Option.some.injEq, Prod.mk.injEq] at returns
          exact ⟨nodes', returns.2 ▸ inv'⟩
        · rw [if_neg ready] at returns
          exact ih _ inv' (safe.2 polled polledEq ready) returns
      · rw [if_neg live] at safe returns
        exact ih _ inv safe returns

theorem event_inv {os' : Os maxTasks} (inv : TaskListInv os nodes) (event : OsEvent maxTasks)
    (events : List (OsEvent maxTasks)) (safe : OsRunSafe (event :: events) os)
    (returns : event.perform os = some os') : ∃ nodes', TaskListInv os' nodes' := by
  cases event with
  | call request =>
    obtain ⟨performed, nodes', performedEq, inv'⟩ := perform_inv inv request safe.1
    obtain rfl : performed = os' := Option.some.inj (performedEq.symm.trans returns)
    exact ⟨nodes', inv'⟩
  | osTick polls =>
    simp only [OsEvent.perform, osTick, Option.map_eq_some_iff, Prod.exists,
      exists_eq_right] at returns
    obtain ⟨status, returns⟩ := returns
    exact osTickFrom_inv polls os.list.start inv safe.1 returns

/-- A prefix of a safe run keeps the invariant. -/
theorem runOs_inv {os' : Os maxTasks} {past events : List (OsEvent maxTasks)}
    (inv : TaskListInv os nodes) (safe : OsRunSafe events os) (reached : past <+: events)
    (returns : runOs past os = some os') : ∃ nodes', TaskListInv os' nodes' := by
  induction past generalizing events os nodes with
  | nil =>
    obtain rfl : os = os' := Option.some.inj returns
    exact ⟨nodes, inv⟩
  | cons event past ih =>
    obtain ⟨rest, rfl⟩ := reached
    rw [runOs, List.foldlM_cons, Option.bind_eq_bind, Option.bind_eq_some_iff] at returns
    obtain ⟨middle, first, later⟩ := returns
    obtain ⟨nodes', inv'⟩ := event_inv inv event (past ++ rest) safe first
    exact ih inv' (safe.2 middle first) (List.prefix_append past rest) later

/-- In every state of a run in which each `TaskNew` is safe, the task list is
    well formed. -/
theorem task_list_well_formed (stdioState : Option Shell) (events : List (OsEvent maxTasks))
    (safe : OsRunSafe events (osInit stdioState)) (past : List (OsEvent maxTasks)) (os : Os maxTasks)
    (reached : past <+: events) (returns : runOs past (osInit stdioState) = some os) :
    TaskListWellFormed os := by
  obtain ⟨nodes, inv⟩ := runOs_inv (osInit_inv stdioState) safe reached returns
  exact inv.wellFormed

/-- Three tasks of different priorities and a tick in which the second is ended
    and the third finishes: a safe run. -/
theorem task_list_well_formed_after_tick :
    ∃ os, runOs [.call (.new 0 100 (some 1)), .call (.new 12 101 (some 2)),
        .call (.new 1 102 (some 3)),
        .osTick [⟨[], taskIdle⟩, ⟨[.finish (some 2)], taskIdle⟩, ⟨[], taskFinished⟩]] (osInit none : Os 13)
      = some os ∧ TaskListWellFormed os := by
  obtain ⟨os, run⟩ := Option.isSome_iff_exists.mp (show Option.isSome (runOs
    [.call (.new 0 100 (some 1)), .call (.new 12 101 (some 2)), .call (.new 1 102 (some 3)),
      .osTick [⟨[], taskIdle⟩, ⟨[.finish (some 2)], taskIdle⟩, ⟨[], taskFinished⟩]] (osInit none : Os 13))
    by decide)
  exact ⟨os, run, task_list_well_formed none _ (by decide) _ os (List.prefix_refl _) run⟩

/-- Ending the only task and creating another one leaves a task list that never
    ends: the slot is handed out again while `TasksStart` still leads to it. -/
theorem task_list_loops_after_end_of_head :
    ∃ os, runOs
        [.call (.new 0 100 none), .call (.finish (some 0)), .call (.new 0 100 none)] (osInit none : Os 13)
      = some os ∧ ¬ TaskListWellFormed os := by
  have observed : (runOs
      [.call (.new 0 100 none), .call (.finish (some 0)), .call (.new 0 100 none)] (osInit none : Os 13)).map
      (fun os => (os.list.start, nextOf os.list.links 0)) = some (some 0, some 0) := by decide
  obtain ⟨os, run, seen⟩ := Option.map_eq_some_iff.mp observed
  obtain ⟨start, loop⟩ := Prod.mk.inj seen
  refine ⟨os, run, ?_⟩
  rintro ⟨visited, chain, -, -⟩
  rw [start] at chain
  exact not_chain_of_loop loop chain

end ComputerSystems.Verified
