import ComputerSystems.System.Os
import Mathlib.Algebra.Order.Ring.Nat

/-! # System timers

The functions of `timers.c` over the global array `TimerTasks` and the list that
starts at `TimerStart`.  A timer is the index of its slot.  Clock readings are
arguments: `now` stands for the value `TimerNow` and `TimerRemaining` read, a
64-bit count of microseconds.

What a call of a timer's callback does to the timers, the calls it makes of the
timer interface and the status it returns, is a `TimerCallback`.
-/

namespace ComputerSystems.System

def maxTimerTasks : Nat := 32

instance : NeZero maxTimerTasks := ⟨by decide⟩

/-- A pointer into `TimerTasks`. -/
abbrev TimerSlot := Fin maxTimerTasks

/-- `struct timer`. -/
structure Timer where
  expire : Nat := 0
  last : Nat := 0

/-- `struct timer_task`, without its links.  `serial` is a ghost field: the number
    of timers scheduled before this one. -/
structure TimerTask where
  expire : Timer := {}
  poll : Option Address := none
  data : Option Address := none
  context : Option Address := none
  serial : Nat := 0

/-- `TimerStart`, the links and the rest of `TimerTasks`, and a ghost counter of
    the timers scheduled. -/
structure Timers where
  tasks : TimerSlot → TimerTask
  list : LinkedList TimerSlot
  scheduled : Nat

/-- A timer is pending while its poll function is not `NULL`. -/
def Timers.pending (timers : Timers) (timer : TimerSlot) : Bool := (timers.tasks timer).poll.isSome

/-- `TimerInit`: initialize the system timers. -/
def timerInit : Timers where
  tasks _ := {}
  list := { start := none, links := fun _ => {} }
  scheduled := 0

/-- `TimerRegister`: register an expiration time. -/
def timerRegister (microseconds now : Nat) : Timer := { expire := (now + microseconds) % 2 ^ 64 }

/-- `TimerRemaining`: zero or microseconds until timer expiration. -/
def timerRemaining (tw : Timer) (now : Nat) : Nat :=
  if now > tw.expire then 0 else tw.expire - now

/-- `TimerCancel`: cancel a scheduled timer. -/
def timerCancel (cancel : Option TimerSlot) (timers : Timers) : Timers :=
  match cancel with
  | none => timers
  | some timer =>
    -- special handling to maintain top of the list
    let start := if timers.list.start = some timer then (timers.list.links timer).next
      else timers.list.start
    let links := listRemove (timers.list.links timer) timers.list.links
    { timers with
      tasks := Function.update timers.tasks timer {}
      list := { start, links := Function.update links timer {} } }

/-- The slot search of `TimerSchedule`. -/
def Timers.freeTimer (timers : Timers) : Option TimerSlot :=
  (List.finRange maxTimerTasks).find? fun i => (timers.tasks i).poll.isNone

/-- `TimerSchedule`: schedule a timer `usec` microseconds from now.  The result is
    the timers afterwards and the created timer, `none` when no slot is free.  As
    in `taskNew`, a walk in a circle does not return. -/
def timerSchedule (now : Nat) (usec : UInt32) (poll : Address) (data context : Option Address)
    (timers : Timers) : Option (Timers × Option TimerSlot) :=
  let tw : Timer := { expire := (now + usec.toNat) % 2 ^ 64, last := now }
  match timers.freeTimer with
  | none => some (timers, none)
  | some i =>
    let newTimer : TimerTask :=
      { expire := tw, poll := some poll, data, context, serial := timers.scheduled }
    let tasks := Function.update timers.tasks i newTimer
    let list := { timers.list with links := Function.update timers.list.links i {} }
    let timers : Timers := { tasks, list, scheduled := timers.scheduled + 1 }
    if timers.list.start = none then
      some ({ timers with list := { timers.list with start := some i } }, some i)
    else
      (insertOrdered (fun tt => decide (tw.expire < (tasks tt).expire.expire)) i maxTimerTasks
        timers.list.start timers.list).map fun list => ({ timers with list }, some i)

/-- The search loop of `TimerServiceCancel` from `current` on. -/
def timerServiceCancelFrom (poll data : Option Address) (timers : Timers) :
    Nat → Option TimerSlot → Option (Int × Timers)
  | _, none => some (-1, timers)
  | 0, some _ => none
  | fuel + 1, some current =>
    if (timers.tasks current).poll = poll ∧ (timers.tasks current).data = data then
      some (0, timerCancel (some current) timers)
    else
      timerServiceCancelFrom poll data timers fuel (timers.list.links current).next

/-- `TimerServiceCancel`: cancel previously scheduled timer by callback. -/
def timerServiceCancel (poll data : Option Address) (timers : Timers) : Option (Int × Timers) :=
  timerServiceCancelFrom poll data timers maxTimerTasks timers.list.start

/-- A call of the timer interface. -/
inductive TimerCall where
  | schedule (now : Nat) (usec : UInt32) (poll : Address) (data context : Option Address)
  | cancel (timer : Option TimerSlot)
  | serviceCancel (poll data : Option Address)

/-- The timers after a call, `none` when the call does not return. -/
def TimerCall.perform (timers : Timers) : TimerCall → Option Timers
  | .schedule now usec poll data context =>
    (timerSchedule now usec poll data context timers).map Prod.fst
  | .cancel timer => some (timerCancel timer timers)
  | .serviceCancel poll data => (timerServiceCancel poll data timers).map Prod.snd

/-- One call of a timer's callback: the calls it makes, in order, and its status. -/
structure TimerCallback where
  calls : List TimerCall
  status : Int

/-- `TimerPoll`: poll scheduled timers and execute any expired.  The result is the
    list of the timers whose callback was called and the timers afterwards; the
    function itself always returns `TASK_IDLE`. -/
def timerPoll (now : Nat) (callback : TimerCallback) (timers : Timers) :
    Option (List TimerSlot × Timers) :=
  match timers.list.start with
  | none => some ([], timers)
  | some current =>
    if timerRemaining (timers.tasks current).expire now = 0 then do
      let timers ← callback.calls.foldlM TimerCall.perform timers
      -- cancel the timer if poll returned finished
      let timers := if callback.status = taskFinished then timerCancel (some current) timers else timers
      some ([current], timers)
    else
      -- no more expired timers in the ordered list
      some ([], timers)

/-- What happens to the timers. -/
inductive TimerEvent where
  | call (request : TimerCall)
  | poll (now : Nat) (callback : TimerCallback)

def TimerEvent.perform (timers : Timers) : TimerEvent → Option Timers
  | .call request => request.perform timers
  | .poll now callback => (timerPoll now callback timers).map Prod.snd

/-- The timers after a sequence of events. -/
def runTimers (events : List TimerEvent) (timers : Timers) : Option Timers :=
  events.foldlM TimerEvent.perform timers

end ComputerSystems.System
