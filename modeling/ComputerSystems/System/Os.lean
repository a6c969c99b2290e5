import ComputerSystems.System.DoubleLink
import Mathlib.Data.List.FinRange

/-! # The priority loop scheduler

The functions of `os.c` over the global array `Tasks` and the list that starts
at `TasksStart`.  The number of slots is the configuration's `MAX_TASKS`
(`maxTasks` below), a task is the index of its slot, and `Address` stands for
the non-null function and data pointers that the scheduler only compares with
`NULL` and passes on.

Poll functions belong to the applications.  What one call of a poll function
does to the scheduler, the calls it makes of `TaskNew` and `TaskEnd` and the
status it returns, is a `PollRun`.
-/

namespace ComputerSystems.System

/-- A non-null pointer. -/
abbrev Address := Nat

/-- The shell states a task's `stdio` can point to. -/
inductive Shell where
  | uart0 | uart1 | console
deriving DecidableEq, Repr

/-! ## Polled task return values -/

def taskIdle : Int := 0
def taskReady : Int := 1
def taskFinished : Int := 2

/-- `struct task`, without its links.  `created` is a ghost field: the number of
    tasks created before this one. -/
structure Task where
  priority : Int := 0
  poll : Option Address := none
  data : Option Address := none
  stdio : Option Shell := none
  created : Nat := 0

/-- The globals of the scheduler.  `list` holds `TasksStart` and the links of the
    tasks; `taskCount` is a ghost counter of the tasks created. -/
structure Os (maxTasks : Nat) where
  tasks : Fin maxTasks → Task
  list : LinkedList (Fin maxTasks)
  stdioState : Option Shell
  taskCount : Nat

variable {maxTasks : Nat}

/-- A task is live while its poll function is not `NULL`. -/
def Os.live (os : Os maxTasks) (task : Fin maxTasks) : Bool := (os.tasks task).poll.isSome

/-- `OsInit`: no task, and every slot cleared. -/
def osInit (stdioState : Option Shell) : Os maxTasks where
  tasks _ := {}
  list := { start := none, links := fun _ => {} }
  stdioState
  taskCount := 0

/-- The slot search of `TaskNew`: the first slot with neither `poll` nor `data`. -/
def Os.freeTask (os : Os maxTasks) : Option (Fin maxTasks) :=
  (List.finRange maxTasks).find? fun i =>
    (os.tasks i).poll.isNone && (os.tasks i).data.isNone

/-- `TaskNew`: create a new task.  The result is the scheduler afterwards and the
    task, `none` when no slot is free.  The walk through the list makes at most
    `maxTasks` steps unless it runs in a circle; then `TaskNew` does not return,
    and neither does the model. -/
def taskNew (priority : Int) (poll : Address) (data : Option Address) (os : Os maxTasks) :
    Option (Os maxTasks × Option (Fin maxTasks)) :=
  match os.freeTask with
  | none => some (os, none)
  | some i =>
    let newTask : Task :=
      { data, poll := some poll, priority, created := os.taskCount
        -- a task created before any shell runs talks to the primary UART
        stdio := some (os.stdioState.getD .uart0) }
    let tasks := Function.update os.tasks i newTask
    let list := { os.list with links := Function.update os.list.links i {} }
    let os : Os maxTasks := { os with tasks, list, taskCount := os.taskCount + 1 }
    if os.list.start = none then
      some ({ os with list := { os.list with start := some i } }, some i)
    else
      (insertOrdered (fun current => decide (priority < (tasks current).priority)) i maxTasks
        os.list.start os.list).map fun list => ({ os with list }, some i)

/-- `TaskEnd`: end an existing task. -/
def taskEnd (endingTask : Option (Fin maxTasks)) (os : Os maxTasks) : Int × Os maxTasks :=
  match endingTask with
  | none => (-1, os)
  | some task =>
    if (os.tasks task).poll = none then (-1, os)
    else
      let tasks := Function.update os.tasks task
        { os.tasks task with data := none, poll := none, stdio := none }
      let list := { os.list with links := listRemove (os.list.links task) os.list.links }
      (0, { os with tasks, list })

/-- A call of the task interface. -/
inductive TaskCall (maxTasks : Nat) where
  | new (priority : Int) (poll : Address) (data : Option Address)
  | finish (task : Option (Fin maxTasks))

/-- The scheduler after a call, `none` when the call does not return. -/
def TaskCall.perform (os : Os maxTasks) : TaskCall maxTasks → Option (Os maxTasks)
  | .new priority poll data => (taskNew priority poll data os).map Prod.fst
  | .finish task => some (taskEnd task os).2

/-- One call of a poll function: the calls it makes, in order, and its status. -/
structure PollRun (maxTasks : Nat) where
  calls : List (TaskCall maxTasks)
  status : Int

/-- The body of `OsTick`'s loop for a task whose poll function is called. -/
def pollTask (current : Fin maxTasks) (poll : PollRun maxTasks) (os : Os maxTasks) :
    Option (Os maxTasks) := do
  let os := { os with stdioState := (os.tasks current).stdio <|> os.stdioState }
  let os ← poll.calls.foldlM TaskCall.perform os
  -- stop and free this task in the list if finished
  if poll.status = taskFinished then
    some { os with tasks := Function.update os.tasks current { os.tasks current with poll := none } }
  else
    some os

/-- The loop of `OsTick` from `current` on.  The list gives, iteration by
    iteration, what a poll function does if one is called there; `none` stands
    for a loop that makes more iterations, or for a call that does not return. -/
def osTickFrom : List (PollRun maxTasks) → Option (Fin maxTasks) → Int → Os maxTasks →
    Option (Int × Os maxTasks)
  | _, none, status, os => some (status, os)
  | [], some _, _, _ => none
  | poll :: polls, some current, status, os =>
    if os.live current then do
      let os ← pollTask current poll os
      -- if ready, break out of the loop to reexecute high priority
      if poll.status = taskReady then some (poll.status, os)
      else osTickFrom polls (os.list.links current).next poll.status os
    else
      osTickFrom polls (os.list.links current).next status os

/-- `OsTick`: step through the scheduler once. -/
def osTick (polls : List (PollRun maxTasks)) (os : Os maxTasks) : Option (Int × Os maxTasks) :=
  osTickFrom polls os.list.start (-1) os

/-- What happens to the scheduler from outside. -/
inductive OsEvent (maxTasks : Nat) where
  | call (request : TaskCall maxTasks)
  | osTick (polls : List (PollRun maxTasks))

def OsEvent.perform (os : Os maxTasks) : OsEvent maxTasks → Option (Os maxTasks)
  | .call request => request.perform os
  | .osTick polls => (System.osTick polls os).map Prod.snd

/-- The scheduler after a sequence of events, `none` when one does not return. -/
def runOs (events : List (OsEvent maxTasks)) (os : Os maxTasks) : Option (Os maxTasks) :=
  events.foldlM OsEvent.perform os

end ComputerSystems.System
