import ComputerSystems.System.Timers
import ComputerSystems.Verified.OrderedList
import Mathlib.Data.Fintype.Card

/-! # The timer list

`TimerCancel` keeps `TimerStart` at the top of the list and clears the slot it
frees, so unlike the task list the timer list has no dead nodes and no lost
links.  `TimerInv` holds after `TimerInit` and is kept by every call of the timer
interface, by callbacks that make such calls, and so by every run.
-/

namespace ComputerSystems.Verified

open ComputerSystems.Data ComputerSystems.System

variable {timers : Timers} {nodes : List TimerSlot}

/-- The order of the list: by expiration time, then by order of scheduling. -/
def TimerBefore (timers : Timers) : TimerSlot → TimerSlot → Prop :=
  Precedes (fun timer => (timers.tasks timer).expire.expire) fun timer => (timers.tasks timer).serial

/-- The list from `TimerStart` ends, its `previous` links are the inverse of its
    `next` links, it is in order, and it holds every pending timer once and
    nothing else. -/
def TimerListWellFormed (timers : Timers) : Prop :=
  ∃ visited, Chain (nextOf timers.list.links) timers.list.start visited ∧
    (∀ timer ∈ timers.list.start, (timers.list.links timer).previous = none) ∧
    (visited.IsChain fun before timer => (timers.list.links timer).previous = some before) ∧
    visited.Pairwise (TimerBefore timers) ∧
    ∀ timer, visited.count timer = if timers.pending timer then 1 else 0

structure TimerInv (timers : Timers) (nodes : List TimerSlot) : Prop where
  linked : Linked False timers.list nodes
  pending : ∀ timer, timer ∈ nodes ↔ timers.pending timer
  sorted : nodes.Pairwise (TimerBefore timers)
  -- the serial number identifies a pending timer
  serial : ∀ timer ∈ nodes, (timers.tasks timer).serial < timers.scheduled
  distinct : ∀ first ∈ nodes, ∀ second ∈ nodes,
    (timers.tasks first).serial = (timers.tasks second).serial → first = second
  -- slots that are not pending have been cleared
  cleared : ∀ timer, timer ∉ nodes → timers.list.links timer = {}

theorem TimerInv.wellFormed (inv : TimerInv timers nodes) : TimerListWellFormed timers := by
  refine ⟨nodes, inv.linked.chain, ?_, ?_, inv.sorted, ?_⟩
  · intro timer first
    rw [inv.linked.chain.start_eq] at first
    exact inv.linked.head timer first
  · exact inv.linked.back.imp fun before timer link => by simpa using link
  · intro timer
    by_cases pending : timers.pending timer = true
    · rw [if_pos pending]
      exact List.count_eq_one_of_mem inv.linked.chain.nodup ((inv.pending timer).mpr pending)
    · rw [if_neg pending]
      exact List.count_eq_zero_of_not_mem fun member => pending ((inv.pending timer).mp member)

theorem TimerInv.length_le (inv : TimerInv timers nodes) : nodes.length ≤ maxTimerTasks := by
  simpa using List.Nodup.length_le_card inv.linked.chain.nodup

theorem timerInit_inv : TimerInv timerInit [] where
  linked := ⟨rfl, by simp, by simp⟩
  pending timer := by simp [timerInit, Timers.pending]
  sorted := List.Pairwise.nil
  serial := by simp
  distinct := by simp
  cleared _ _ := rfl

/-! ## Cancelling -/

/-- Timers leave the list, and nothing else changes about those that stay. -/
theorem TimerInv.shrink {timers' : Timers} {nodes' : List TimerSlot} (inv : TimerInv timers nodes)
    (linked : Linked False timers'.list nodes') (sub : nodes'.Sublist nodes)
    (pending : ∀ timer, timer ∈ nodes' ↔ timers'.pending timer)
    (kept : ∀ timer ∈ nodes', timers'.tasks timer = timers.tasks timer)
    (scheduled : timers'.scheduled = timers.scheduled)
    (cleared : ∀ timer, timer ∉ nodes' → timers'.list.links timer = {}) :
    TimerInv timers' nodes' where
  linked := linked
  pending := pending
  sorted := (inv.sorted.sublist sub).imp_of_mem fun {first second} memberFirst memberSecond before => by
    simpa only [TimerBefore, Precedes, kept first memberFirst, kept second memberSecond] using before
  serial timer member := by
    rw [kept timer member, scheduled]
    exact inv.serial timer (sub.subset member)
  distinct first memberFirst second memberSecond equal := by
    rw [kept first memberFirst, kept second memberSecond] at equal
    exact inv.distinct first (sub.subset memberFirst) second (sub.subset memberSecond) equal
  cleared := cleared

/-- `TimerCancel` takes a timer off the list, wherever it stands on it. -/
theorem linked_cancel {timer : TimerSlot} (linked : Linked False timers.list nodes)
    (cleared : timer ∉ nodes → timers.list.links timer = {}) :
    Linked False (timerCancel (some timer) timers).list (nodes.erase timer) := by
  have nodup := linked.chain.nodup
  by_cases member : timer ∈ nodes
  · obtain ⟨front, back, rfl⟩ := List.append_of_mem member
    have absent : timer ∉ front ++ back := (List.nodup_middle.mp nodup).notMem
    have erased : (front ++ timer :: back).erase timer = front ++ back := by
      rw [List.erase_append_right _ fun again => absent (by simp [again]), List.erase_cons_head]
    have others : ∀ other ∈ front ++ back, (timerCancel (some timer) timers).list.links other =
        listRemove (timers.list.links timer) timers.list.links other := by
      intro other on
      have apart : other ≠ timer := fun equal => absent (equal ▸ on)
      exact Function.update_of_ne apart _ _
    rw [erased]
    cases linked.previous_eq with
    | inl detached =>
      -- without lost links only the head has no predecessor
      obtain rfl : front = [] := by simpa using detached.2
      have first : timers.list.start = some timer := linked.chain.1
      exact (linked_remove_head linked).congr (by simp [timerCancel, first]) others
    | inr attached =>
      obtain ⟨rest, before, rfl, link⟩ := attached
      have notFirst : timers.list.start ≠ some timer := by
        rw [linked.chain.start_eq]
        cases rest with
        | nil => simp at absent; simp [Ne.symm absent.1]
        | cons node rest => simp at absent; simp [Ne.symm absent.1]
      have removed := linked_remove_inner (by simpa using linked) link
      rw [List.append_cons] at removed
      exact removed.congr (by simp [timerCancel, notFirst]) others
  · -- an already cancelled slot has no links left to follow
    have null := cleared member
    have notFirst : timers.list.start ≠ some timer := by
      rw [linked.chain.start_eq]
      exact fun first => member (List.mem_of_mem_head? first)
    rw [List.erase_of_not_mem member]
    refine linked.congr (by simp [timerCancel, notFirst]) fun other on => ?_
    have apart : other ≠ timer := fun equal => member (equal ▸ on)
    simp [timerCancel, null, listRemove, apart]

theorem timerCancel_inv (inv : TimerInv timers nodes) (timer : TimerSlot) :
    TimerInv (timerCancel (some timer) timers) (nodes.erase timer) := by
  have nodup := inv.linked.chain.nodup
  have pending : ∀ other, other ∈ nodes.erase timer ↔
      (timerCancel (some timer) timers).pending other := by
    intro other
    rw [nodup.mem_erase_iff, inv.pending other]
    by_cases equal : other = timer
    · simp [equal, timerCancel, Timers.pending]
    · simp [equal, timerCancel, Timers.pending]
  have kept : ∀ other ∈ nodes.erase timer,
      (timerCancel (some timer) timers).tasks other = timers.tasks other := by
    intro other member
    exact Function.update_of_ne (nodup.mem_erase_iff.mp member).1 _ _
  refine inv.shrink (linked_cancel inv.linked ?_) List.erase_sublist pending kept rfl ?_
  · exact inv.cleared timer
  · intro other outside
    by_cases equal : other = timer
    · simp [equal, timerCancel]
    · have absent : other ∉ nodes := fun member => outside (nodup.mem_erase_iff.mpr ⟨equal, member⟩)
      have untouched : listRemove (timers.list.links timer) timers.list.links other =
          timers.list.links other := by
        by_cases member : timer ∈ nodes
        · obtain ⟨front, back, rfl⟩ := List.append_of_mem member
          exact remove_frame inv.linked absent
        · simp [inv.cleared timer member, listRemove]
      simpa [timerCancel, equal, untouched] using inv.cleared other absent

/-- The timer that `TimerServiceCancel` looks for. -/
def serves (timers : Timers) (poll data : Option Address) (timer : TimerSlot) : Bool :=
  (timers.tasks timer).poll = poll ∧ (timers.tasks timer).data = data

theorem timerServiceCancelFrom_eq {poll data : Option Address} {rest : List TimerSlot}
    {current : Option TimerSlot} {fuel : Nat} (chain : Chain (nextOf timers.list.links) current rest)
    (enough : rest.length ≤ fuel) :
    timerServiceCancelFrom poll data timers fuel current =
      match rest.find? (serves timers poll data) with
      | none => some (-1, timers)
      | some timer => some (0, timerCancel (some timer) timers) := by
  induction rest generalizing current fuel with
  | nil =>
    obtain rfl : current = none := chain
    cases fuel <;> rfl
  | cons timer rest ih =>
    obtain ⟨rfl, chain⟩ := chain
    cases fuel with
    | zero => simp at enough
    | succ fuel =>
      rw [timerServiceCancelFrom, List.find?_cons]
      by_cases found : (timers.tasks timer).poll = poll ∧ (timers.tasks timer).data = data
      · simp [serves, found]
      · rw [if_neg found, ih chain (by simpa using enough)]
        simp [serves, found]

/-- `TimerServiceCancel` cancels the first timer of the list that it looks for. -/
theorem timerServiceCancel_eq (inv : TimerInv timers nodes) (poll data : Option Address) :
    timerServiceCancel poll data timers =
      match nodes.find? (serves timers poll data) with
      | none => some (-1, timers)
      | some timer => some (0, timerCancel (some timer) timers) :=
  timerServiceCancelFrom_eq inv.linked.chain inv.length_le

/-! ## Scheduling -/

/-- The invariant after a new timer was linked where its expiration belongs. -/
theorem TimerInv.inserted {slot : TimerSlot} (leading trailing : List TimerSlot)
    (inv : TimerInv timers (leading ++ trailing)) (fresh : slot ∉ leading ++ trailing)
    (newTimer : TimerTask) (active : newTimer.poll.isSome) (numbered : newTimer.serial = timers.scheduled)
    (list : LinkedList TimerSlot) (linked : Linked False list (leading ++ slot :: trailing))
    (behind : ∀ timer ∈ leading, ¬ newTimer.expire.expire < (timers.tasks timer).expire.expire)
    (ahead : ∀ timer ∈ trailing.head?, newTimer.expire.expire < (timers.tasks timer).expire.expire)
    (frame : ∀ timer, timer ∉ leading ++ slot :: trailing → list.links timer = timers.list.links timer) :
    TimerInv { tasks := Function.update timers.tasks slot newTimer, list,
               scheduled := timers.scheduled + 1 } (leading ++ slot :: trailing) := by
  have others : ∀ timer ∈ leading ++ slot :: trailing, timer ≠ slot → timer ∈ leading ++ trailing := by
    intro timer member other
    simpa [other] using member
  have kept : ∀ timer ≠ slot, Function.update timers.tasks slot newTimer timer = timers.tasks timer :=
    fun timer other => Function.update_of_ne other _ _
  refine ⟨linked, ?_, ?_, ?_, ?_, ?_⟩
  · intro timer
    by_cases equal : timer = slot
    · simp [equal, Timers.pending, active]
    · have before := inv.pending timer
      simp only [Timers.pending, kept timer equal]
      simpa [equal, Timers.pending] using before
  · refine precedes_insert inv.sorted (fun timer member => ?_) (fun timer member => ?_)
      (by simpa using behind) (by simpa using ahead)
    · have other : timer ≠ slot := fun equal => fresh (equal ▸ member)
      simp [other]
    · simpa [numbered] using inv.serial timer (by simp [member])
  · intro timer member
    by_cases equal : timer = slot
    · simp [equal, numbered]
    · simp only [kept timer equal]
      exact Nat.lt_succ_of_lt (inv.serial timer (others timer member equal))
  · -- the new serial number is larger than those given out before
    intro first memberFirst second memberSecond same
    by_cases isFirst : first = slot <;> by_cases isSecond : second = slot
    · rw [isFirst, isSecond]
    · have older := inv.serial second (others second memberSecond isSecond)
      simp [isFirst, isSecond, numbered] at same
      omega
    · have older := inv.serial first (others first memberFirst isFirst)
      simp [isFirst, isSecond, numbered] at same
      omega
    · simp only [kept first isFirst, kept second isSecond] at same
      exact inv.distinct first (others first memberFirst isFirst) second
        (others second memberSecond isSecond) same
  · intro timer outside
    have absent : timer ∉ leading ++ trailing := fun member => outside (by
      cases List.mem_append.mp member with
      | inl member => simp [member]
      | inr member => simp [member])
    exact (frame timer outside).trans (inv.cleared timer absent)

/-- `TimerSchedule` returns: without a free slot it changes nothing, else it fills
    the first free slot and links it. -/
theorem timerSchedule_cases (inv : TimerInv timers nodes) (now : Nat) (usec : UInt32) (poll : Address)
    (data context : Option Address) :
    timers.freeTimer = none ∧ timerSchedule now usec poll data context timers = some (timers, none) ∨
      ∃ slot timers' nodes', timers.freeTimer = some slot ∧
        timerSchedule now usec poll data context timers = some (timers', some slot) ∧
        TimerInv timers' nodes' ∧ timers'.scheduled = timers.scheduled + 1 ∧
        timers'.tasks = Function.update timers.tasks slot
          { expire := { expire := (now + usec.toNat) % 2 ^ 64, last := now }, poll := some poll, data,
            context, serial := timers.scheduled } := by
  rw [timerSchedule]
  cases free : timers.freeTimer with
  | none => exact .inl ⟨rfl, rfl⟩
  | some slot =>
    right
    have unused : (timers.tasks slot).poll.isNone := by
      rw [Timers.freeTimer] at free
      simpa using List.find?_some free
    have fresh : slot ∉ nodes := fun member => by
      have pending := (inv.pending slot).mp member
      rw [Timers.pending, Option.isSome_iff_ne_none] at pending
      exact pending (by simpa using unused)
    have apart : ∀ timer ∈ nodes, timer ≠ slot := fun timer member equal => fresh (equal ▸ member)
    have linked : Linked False { start := timers.list.start, links := Function.update timers.list.links slot {} }
        nodes :=
      inv.linked.congr rfl fun timer member => Function.update_of_ne (apart timer member) _ _
    have frame : ∀ timer, timer ∉ nodes → timer ≠ slot →
        Function.update timers.list.links slot {} timer = timers.list.links timer :=
      fun timer _ other => Function.update_of_ne other _ _
    cases nodes with
    | nil =>
      have empty : timers.list.start = none := inv.linked.chain
      simp only [empty, ↓reduceIte]
      refine ⟨slot, _, [slot], rfl, rfl, ?_, rfl, rfl⟩
      refine TimerInv.inserted [] [] inv fresh _ rfl rfl _
        ⟨by simp [nextOf], by simp, by simp⟩ (by simp) (by simp) fun timer outside => ?_
      exact frame timer (by simp) (by simpa using outside)
    | cons head tail =>
      have start : timers.list.start = some head := inv.linked.chain.1
      simp only [start, reduceCtorEq, ↓reduceIte]
      -- the slots compared with are other ones than the slot just written
      have unread : ∀ newTimer : TimerTask, ∀ timer ∈ head :: tail,
          Function.update timers.tasks slot newTimer timer = timers.tasks timer :=
        fun newTimer timer member => Function.update_of_ne (apart timer member) _ _
      obtain ⟨list', leading, trailing, inserted, split, behind, ahead, linked', frame'⟩ :=
        insertOrdered_linked (fun tt => decide ((now + usec.toNat) % 2 ^ 64 <
            (Function.update timers.tasks slot
              { expire := { expire := (now + usec.toNat) % 2 ^ 64, last := now }
                poll := some poll, data, context, serial := timers.scheduled } tt).expire.expire))
          [] _ linked (by simpa using fresh) (by simp) inv.length_le (by simp)
          (fun timer found => linked.attached (List.mem_of_find?_eq_some found))
      rw [List.head?_cons, start] at inserted
      rw [inserted]
      refine ⟨slot, _, leading ++ slot :: trailing, rfl, rfl, ?_, rfl, rfl⟩
      rw [List.nil_append] at split frame'
      rw [← split] at inv fresh unread frame' frame
      refine TimerInv.inserted leading trailing inv fresh _ rfl rfl list' linked' ?_ ?_ ?_
      · intro timer member
        simpa [unread _ timer (by simp [member])] using behind timer member
      · intro timer member
        simpa [unread _ timer (by simp [List.mem_of_mem_head? member])] using ahead timer member
      · intro timer outside
        have other : timer ≠ slot := fun equal => outside (by simp [equal])
        have absent : timer ∉ leading ++ trailing := fun member => outside (by
          simpa [other] using member)
        exact (frame' timer absent other).trans (frame timer absent other)

/-! ## Runs -/

theorem timerCall_inv (inv : TimerInv timers nodes) (call : TimerCall) :
    ∃ timers' nodes', call.perform timers = some timers' ∧ TimerInv timers' nodes' := by
  cases call with
  | schedule now usec poll data context =>
    cases timerSchedule_cases inv now usec poll data context with
    | inl full => exact ⟨timers, nodes, by simp [TimerCall.perform, full.2], inv⟩
    | inr created =>
      obtain ⟨slot, timers', nodes', -, returns, inv', -, -⟩ := created
      exact ⟨timers', nodes', by simp [TimerCall.perform, returns], inv'⟩
  | cancel timer =>
    cases timer with
    | none => exact ⟨timers, nodes, rfl, inv⟩
    | some timer => exact ⟨_, nodes.erase timer, rfl, timerCancel_inv inv timer⟩
  | serviceCancel poll data =>
    have returns := timerServiceCancel_eq inv poll data
    cases found : nodes.find? (serves timers poll data) with
    | none => exact ⟨timers, nodes, by simp [TimerCall.perform, returns, found], inv⟩
    | some timer =>
      refine ⟨_, nodes.erase timer, ?_, timerCancel_inv inv timer⟩
      simp [TimerCall.perform, returns, found]

theorem timerCalls_inv (inv : TimerInv timers nodes) (calls : List TimerCall) :
    ∃ timers' nodes', calls.foldlM TimerCall.perform timers = some timers' ∧ TimerInv timers' nodes' := by
  induction calls generalizing timers nodes with
  | nil => exact ⟨timers, nodes, rfl, inv⟩
  | cons call calls ih =>
    obtain ⟨timers', nodes', returns, inv'⟩ := timerCall_inv inv call
    obtain ⟨final, finalNodes, rest, finalInv⟩ := ih inv'
    refine ⟨final, finalNodes, ?_, finalInv⟩
    rw [List.foldlM_cons, returns]
    exact rest

/-- `TimerPoll` returns; it calls no callback, or that of the timer the list
    starts with, whose expiration the clock has reached. -/
theorem timerPoll_cases (inv : TimerInv timers nodes) (now : Nat) (callback : TimerCallback) :
    timerPoll now callback timers = some ([], timers) ∨
      ∃ fired rest timers' nodes' after, nodes = fired :: rest ∧
        (timers.tasks fired).expire.expire ≤ now ∧
        callback.calls.foldlM TimerCall.perform timers = some timers' ∧ TimerInv timers' nodes' ∧
        after = (if callback.status = taskFinished then timerCancel (some fired) timers' else timers') ∧
        timerPoll now callback timers = some ([fired], after) := by
  rw [timerPoll]
  cases nodes with
  | nil =>
    have empty : timers.list.start = none := inv.linked.chain
    exact .inl (by simp [empty])
  | cons fired rest =>
    have start : timers.list.start = some fired := inv.linked.chain.1
    simp only [start]
    by_cases expired : timerRemaining (timers.tasks fired).expire now = 0
    · obtain ⟨timers', nodes', returns, inv'⟩ := timerCalls_inv inv callback.calls
      have reached : (timers.tasks fired).expire.expire ≤ now := by
        rw [timerRemaining] at expired
        split at expired <;> omega
      rw [if_pos expired, returns]
      exact .inr ⟨fired, rest, timers', nodes', _, rfl, reached, rfl, inv', rfl, rfl⟩
    · rw [if_neg expired]
      exact .inl rfl

theorem timerEvent_inv (inv : TimerInv timers nodes) (event : TimerEvent) :
    ∃ timers' nodes', event.perform timers = some timers' ∧ TimerInv timers' nodes' := by
  cases event with
  | call request => exact timerCall_inv inv request
  | poll now callback =>
    cases timerPoll_cases inv now callback with
    | inl idle => exact ⟨timers, nodes, by simp [TimerEvent.perform, idle], inv⟩
    | inr ran =>
      obtain ⟨fired, rest, timers', nodes', after, -, -, -, inv', afterEq, polls⟩ := ran
      have performs : TimerEvent.perform timers (.poll now callback) = some after := by
        simp [TimerEvent.perform, polls]
      by_cases finished : callback.status = taskFinished
      · rw [if_pos finished] at afterEq
        exact ⟨after, nodes'.erase fired, performs, afterEq ▸ timerCancel_inv inv' fired⟩
      · rw [if_neg finished] at afterEq
        exact ⟨after, nodes', performs, afterEq ▸ inv'⟩

theorem runTimers_inv (inv : TimerInv timers nodes) (events : List TimerEvent) :
    ∃ timers' nodes', runTimers events timers = some timers' ∧ TimerInv timers' nodes' := by
  induction events generalizing timers nodes with
  | nil => exact ⟨timers, nodes, rfl, inv⟩
  | cons event events ih =>
    obtain ⟨timers', nodes', returns, inv'⟩ := timerEvent_inv inv event
    obtain ⟨final, finalNodes, rest, finalInv⟩ := ih inv'
    refine ⟨final, finalNodes, ?_, finalInv⟩
    rw [runTimers, List.foldlM_cons, returns]
    exact rest

/-- Every run of the timer service returns with a well-formed list, also when
    callbacks call the timer interface and whatever the clock reads.  A
    `TimerPoll` then calls at most one callback, that of a pending timer that has
    expired and that no pending timer precedes. -/
theorem timer_list_well_formed (events : List TimerEvent) :
    ∃ timers, runTimers events timerInit = some timers ∧ TimerListWellFormed timers ∧
      ∀ now callback, ∃ called after, timerPoll now callback timers = some (called, after) ∧
        called.length ≤ 1 ∧
        ∀ fired ∈ called, timers.pending fired ∧ (timers.tasks fired).expire.expire ≤ now ∧
          ∀ timer, timers.pending timer →
            (timers.tasks fired).expire.expire ≤ (timers.tasks timer).expire.expire := by
  obtain ⟨timers, nodes, returns, inv⟩ := runTimers_inv timerInit_inv events
  refine ⟨timers, returns, inv.wellFormed, fun now callback => ?_⟩
  cases timerPoll_cases inv now callback with
  | inl idle => exact ⟨[], timers, idle, by simp, by simp⟩
  | inr ran =>
    obtain ⟨first, rest, -, -, after, rfl, reached, -, -, -, polls⟩ := ran
    refine ⟨[first], after, polls, by simp, fun fired member => ?_⟩
    obtain rfl : fired = first := by simpa using member
    refine ⟨(inv.pending fired).mp (by simp), reached, fun timer pending => ?_⟩
    cases List.mem_cons.mp ((inv.pending timer).mpr pending) with
    | inl equal => rw [equal]
    | inr member =>
      cases (List.pairwise_cons.mp inv.sorted).1 timer member with
      | inl earlier => exact Nat.le_of_lt earlier
      | inr tie => exact Nat.le_of_eq tie.1

end ComputerSystems.Verified
