import ComputerSystems.Verified.TransferAccounting

/-! # The schedule of split transactions

Two state machines pace a split transfer: the state of the stage, and the state of its
frame scheduler.  They agree (`Agree`), so that the scheduler is only ever asked what its
switches have a case for.

A start split is followed by one complete split and by one more for every try that is left.
A transaction whose channel has only halted is started again without a try, as often as that
happens.
-/

namespace ComputerSystems.Verified

open ComputerSystems.Data ComputerSystems.Usb

variable {endpoint : Endpoint} {hardware : Hardware} {stage after : TransferStageData}
  {scheduler : FrameScheduler} {status packetsLeft bytesLeft : BitVec 32}

/-! ## The switches of the frame schedulers -/

/-- A status word that tells how the transaction went. -/
def answeredWord (status : BitVec 32) : Bool := anySet status (hcIntXferComp ||| hcIntNyet ||| hcIntAck ||| hcIntNak)

/-- The switch of `transactionComplete` has a case for the state, and that of a complete split
    has one for the status. -/
def handlesTransaction (status : BitVec 32) (scheduler : FrameScheduler) : Bool :=
  match scheduler.kind, scheduler.state with
  | .nosplit, _ => false
  | _, .startSplit => true
  | _, .completeSplit => answeredWord status
  | _, .completeRetry => answeredWord status
  | _, _ => false

/-- The switch of `completeSplit` has one.  That of the periodic scheduler has none for
    `CompleteSplit`. -/
def handlesComplete (scheduler : FrameScheduler) : Bool :=
  match scheduler.kind, scheduler.state with
  | .nosplit, _ => false
  | _, .startSplitComplete => true
  | .nonperiodic, .completeSplit => true
  | _, .completeRetry => true
  | _, .completeSplitComplete => true
  | _, .completeSplitFailed => true
  | _, _ => false

/-- A try that is left is taken, or the complete splits are over. -/
inductive Tried (before : FrameScheduler) : FrameScheduler → Prop where
  | ends {state : SchedulerState} (tries : BitVec 32)
      (last : state = .completeSplitComplete ∨ state = .completeSplitFailed) :
      Tried before { before with state, tries }
  | retries (left : before.tries ≠ 0) :
      Tried before { before with state := .completeRetry, tries := before.tries - 1 }

theorem retry_tried : Tried scheduler scheduler.retry := by
  rw [FrameScheduler.retry]
  by_cases none : scheduler.tries = 0
  · rw [if_pos none]
    exact .ends _ (.inr rfl)
  · rw [if_neg none]
    exact .retries none

/-- The transaction of a complete split, for both schedulers. -/
theorem transactionComplete_complete (kind : scheduler.kind ≠ .nosplit)
    (state : scheduler.state = .completeSplit ∨ scheduler.state = .completeRetry) :
    scheduler.transactionComplete status =
      if anySet status hcIntXferComp then { scheduler with state := .completeSplitComplete }
      else if anySet status (hcIntNyet ||| hcIntAck) then scheduler.retry
      else if anySet status hcIntNak then
        if scheduler.kind = .periodic then { scheduler with state := .completeSplitFailed } else scheduler.retry
      else scheduler := by
  obtain ⟨isKind, isState, tries, nextFrame⟩ := scheduler
  cases isKind with
  | nosplit => exact absurd rfl kind
  | periodic =>
    obtain rfl | rfl := state
    · rfl
    · rfl
  | nonperiodic =>
    obtain rfl | rfl := state
    · rfl
    · rfl

theorem transactionComplete_tried (kind : scheduler.kind ≠ .nosplit)
    (state : scheduler.state = .completeSplit ∨ scheduler.state = .completeRetry) (answered : answeredWord status = true) :
    Tried scheduler (scheduler.transactionComplete status) := by
  rw [transactionComplete_complete kind state]
  split
  · exact .ends _ (.inl rfl)
  · split
    · exact retry_tried
    · split
      · split
        · exact .ends _ (.inr rfl)
        · exact retry_tried
      · rename_i xferComp retried nak
        simp only [answeredWord, anySet_or, Bool.or_eq_true] at answered retried
        tauto

/-- After the transaction of a start split. -/
theorem transactionComplete_start (kind : scheduler.kind ≠ .nosplit) (state : scheduler.state = .startSplit) :
    scheduler.transactionComplete status = { scheduler with state := .startSplitComplete } := by
  obtain ⟨isKind, isState, tries, nextFrame⟩ := scheduler
  cases isKind with
  | nosplit => exact absurd rfl kind
  | periodic =>
    obtain rfl := state
    rfl
  | nonperiodic =>
    obtain rfl := state
    rfl

/-- A complete split is asked for: what it may cost, and the frame it is for. -/
structure Asked (before after : FrameScheduler) : Prop where
  kind : after.kind = before.kind
  state : after.state = .completeSplit ∨ after.state = .completeRetry
  frame : after.kind = .periodic → after.nextFrame ≤ 7

theorem frame_le (frame : BitVec 32) : frame &&& 7 ≤ 7 := by
  rw [BitVec.le_def, BitVec.toNat_and]
  exact Nat.and_le_right

/-- The first complete split after a start split leaves three tries at most. -/
theorem complete_started (kind : scheduler.kind ≠ .nosplit) (state : scheduler.state = .startSplitComplete) :
    ∃ asked, scheduler.complete = (true, asked) ∧ Asked scheduler asked ∧ asked.tries ≤ 3 := by
  obtain ⟨isKind, isState, tries, nextFrame⟩ := scheduler
  obtain rfl := state
  cases isKind with
  | nosplit => exact absurd rfl kind
  | periodic =>
    refine ⟨_, rfl, ⟨rfl, .inl rfl, fun _ => frame_le _⟩, ?_⟩
    simp only
    split
    · decide
    · decide
  | nonperiodic => exact ⟨_, rfl, ⟨rfl, .inl rfl, fun other => by cases other⟩, BitVec.le_refl _⟩

/-- A complete split is tried again. -/
theorem complete_retried (kind : scheduler.kind ≠ .nosplit) (state : scheduler.state = .completeRetry) :
    ∃ asked, scheduler.complete = (true, asked) ∧ Asked scheduler asked ∧ asked.tries = scheduler.tries := by
  obtain ⟨isKind, isState, tries, nextFrame⟩ := scheduler
  obtain rfl := state
  cases isKind with
  | nosplit => exact absurd rfl kind
  | periodic => exact ⟨_, rfl, ⟨rfl, .inr rfl, fun _ => frame_le _⟩, rfl⟩
  | nonperiodic => exact ⟨_, rfl, ⟨rfl, .inr rfl, fun other => by cases other⟩, rfl⟩

/-- No complete split is asked for when they are over. -/
theorem complete_over (state : scheduler.state = .completeSplitComplete ∨ scheduler.state = .completeSplitFailed) :
    scheduler.complete = (false, scheduler) := by
  obtain ⟨isKind, isState, tries, nextFrame⟩ := scheduler
  obtain rfl | rfl := state
  · cases isKind with
    | periodic => rfl
    | nonperiodic => rfl
    | nosplit => rfl
  · cases isKind with
    | periodic => rfl
    | nonperiodic => rfl
    | nosplit => rfl

/-! ## Runs -/

/-- A stage of a split transfer with the complete splits that have been started since the last
    start split, and how many of them were started again because the channel had halted. -/
structure SplitRun where
  stage : TransferStageData
  completes : Nat := 0
  restarts : Nat := 0

/-- An interrupt starts a transaction again that has only halted. -/
def restarts (stage : TransferStageData) : Bool :=
  stage.subState == .waitForTransactionComplete && stage.state == .completeSplit

def splitStep (endpoint : Endpoint) (run : SplitRun) : StageEvent → Option SplitRun
  | .interrupt status packetsLeft bytesLeft hardware =>
    (stageStep endpoint run.stage (.interrupt status packetsLeft bytesLeft hardware)).map fun stage =>
      if reports status run.stage then
        if stage.state = .completeSplit then { run with stage, completes := run.completes + 1 } else { stage }
      else if restarts run.stage then
        { stage, completes := run.completes + 1, restarts := run.restarts + 1 }
      else { run with stage }
  | .interval hardware => (stageStep endpoint run.stage (.interval hardware)).map fun stage => { stage }

/-- Interrupts of which the status word has no error.  It tells how the transaction went, or
    says only that the channel has halted. -/
def NonError : StageEvent → Prop
  | .interrupt status _ _ _ =>
    anySet status hcIntErrorMask = false ∧ (status = hcIntChHltd ∨ answeredWord status = true)
  | .interval _ => True

/-- Whether the driver asks the scheduler what follows. -/
def asksScheduler (status : BitVec 32) (stage : TransferStageData) : Bool :=
  reports status stage &&
    match stage.state with
    | .startSplit => !anySet status (hcIntErrorMask ||| hcIntNak ||| hcIntNyet)
    | .completeSplit => !anySet status hcIntErrorMask
    | _ => false

/-- The scheduler is there, and its switches have a case for the two calls. -/
def Handled (run : SplitRun) : StageEvent → Prop
  | .interrupt status _ _ _ =>
    asksScheduler status run.stage = true → ∃ scheduler, run.stage.frameScheduler = some scheduler ∧
      handlesTransaction status scheduler = true ∧ handlesComplete (scheduler.transactionComplete status) = true
  | .interval _ => True

/-- When a transaction is started, the frame that the periodic scheduler waits for exists. -/
def WaitsForFrame (stage : TransferStageData) : Prop :=
  stage.subState = .waitForTransactionComplete →
    ∀ scheduler, stage.frameScheduler = some scheduler → scheduler.kind = .periodic → scheduler.nextFrame ≤ 7

/-- What is asked of an event: four complete splits at most for a start split, but for those
    that are started again. -/
structure Scheduled (endpoint : Endpoint) (run : SplitRun) (event : StageEvent) : Prop where
  handled : Handled run event
  completes : ∀ next ∈ splitStep endpoint run event, next.completes ≤ 4 + next.restarts
  frames : ∀ next ∈ splitStep endpoint run event, WaitsForFrame next.stage

/-! ## The invariant -/

def kindOf (endpoint : Endpoint) : SchedulerKind := if isPeriodic endpoint then .periodic else .nonperiodic

/-- The states of a stage, with what they say about the scheduler and about the complete splits
    that may still be started. -/
inductive Phase (run : SplitRun) (scheduler : FrameScheduler) : Prop where
  | start (state : run.stage.state = .startSplit) (starts : scheduler.state = .startSplit)
      (first : run.completes = 0) (frame : scheduler.kind = .periodic → scheduler.nextFrame ≤ framePeriodicMax)
  | complete (state : run.stage.state = .completeSplit)
      (tries : scheduler.state = .completeSplit ∨ scheduler.state = .completeRetry)
      (left : run.completes + scheduler.tries.toNat ≤ 4 + run.restarts)
      (frame : scheduler.kind = .periodic → scheduler.nextFrame ≤ 7)
  | delay (state : run.stage.state = .periodicDelay) (first : run.completes = 0)

/-- The stage and its scheduler agree. -/
structure Agree (endpoint : Endpoint) (run : SplitRun) (scheduler : FrameScheduler) : Prop where
  split : run.stage.splitTransaction = true
  has : run.stage.frameScheduler = some scheduler
  kind : scheduler.kind = kindOf endpoint
  phase : Phase run scheduler

structure ScheduleInv (endpoint : Endpoint) (run : SplitRun) : Prop where
  agree : ∃ scheduler, Agree endpoint run scheduler
  frames : WaitsForFrame run.stage

theorem kindOf_ne : kindOf endpoint ≠ .nosplit := by
  rw [kindOf]
  split
  · decide
  · decide

theorem Phase.completes_le {run : SplitRun} (phase : Phase run scheduler) : run.completes ≤ 4 + run.restarts := by
  cases phase with
  | start _ _ first _ => omega
  | complete _ _ left _ => omega
  | delay _ first => omega

/-! ## Starting a transaction -/

/-- The frame that the wait loop compares with. -/
theorem wait_frame (frame : BitVec 32) (kind : scheduler.kind = .periodic)
    (known : scheduler.nextFrame ≤ framePeriodicMax) : (scheduler.wait frame).nextFrame ≤ 7 := by
  rw [FrameScheduler.wait, kind]
  by_cases max : scheduler.nextFrame = framePeriodicMax
  · simp only [max, if_true]
    split
    · decide
    · exact frame_le _
  · simp only [max, if_false]
    simp only [framePeriodicMax] at known max
    bv_omega

theorem wait_same (frame : BitVec 32) :
    (scheduler.wait frame).kind = scheduler.kind ∧ (scheduler.wait frame).state = scheduler.state ∧
      (scheduler.wait frame).tries = scheduler.tries := by
  obtain ⟨isKind, isState, tries, nextFrame⟩ := scheduler
  cases isKind with
  | periodic =>
    simp only [FrameScheduler.wait]
    split
    · exact ⟨rfl, rfl, rfl⟩
    · exact ⟨rfl, rfl, rfl⟩
  | nonperiodic => exact ⟨rfl, rfl, rfl⟩
  | nosplit => exact ⟨rfl, rfl, rfl⟩

/-- A stage that is not delayed waits for a frame that exists once it is started. -/
theorem Agree.started {run : SplitRun} (agree : Agree endpoint run scheduler)
    (awake : run.stage.state ≠ .periodicDelay) (hardware : Hardware) :
    ScheduleInv endpoint { run with stage := startedStage hardware run.stage } := by
  obtain ⟨split, has, kind, phase⟩ := agree
  have frame : scheduler.kind = .periodic → scheduler.nextFrame ≤ framePeriodicMax := by
    intro periodic
    cases phase with
    | start _ _ _ frame => exact frame periodic
    | complete _ _ _ frame =>
      have := frame periodic
      rw [framePeriodicMax]
      bv_omega
    | delay state _ => exact absurd state awake
  cases enabled : hardware.charEnabled with
  | true =>
    -- the transaction is put off, and nothing is waited for
    have same : startedStage hardware run.stage = { run.stage with subState := .waitForChannelDisable } := by
      simp [startedStage, enabled]
    rw [same]
    refine ⟨⟨scheduler, split, has, kind, ?_⟩, fun waits => by cases waits⟩
    cases phase with
    | start state starts first frame => exact .start state starts first frame
    | complete state tries left frame => exact .complete state tries left frame
    | delay state first => exact .delay state first
  | false =>
    -- The scheduler has waited for its frame, and the transaction is started.
    have same : startedStage hardware run.stage = { run.stage with
        subState := .waitForTransactionComplete
        frameScheduler := some (scheduler.wait hardware.frame) } := by
      simp [startedStage, enabled, has]
    obtain ⟨sameKind, sameState, sameTries⟩ := @wait_same scheduler hardware.frame
    have waited : (scheduler.wait hardware.frame).kind = .periodic → (scheduler.wait hardware.frame).nextFrame ≤ 7 :=
      fun periodic => wait_frame _ (sameKind ▸ periodic) (frame (sameKind ▸ periodic))
    rw [same]
    refine ⟨⟨_, split, rfl, sameKind.trans kind, ?_⟩, ?_⟩
    · cases phase with
      | start state starts first _ =>
        refine .start state (sameState.trans starts) first fun periodic => ?_
        have := waited periodic
        rw [framePeriodicMax]
        bv_omega
      | complete state tries left _ =>
        refine .complete state (sameState.symm ▸ tries) ?_ waited
        rw [sameTries]
        exact left
      | delay state _ => exact absurd state awake
    · intro _ other has periodic
      obtain rfl := Option.some.inj has
      exact waited periodic

/-- `startSplit` of a scheduler that splits. -/
theorem start_starts (kind : scheduler.kind ≠ .nosplit) :
    scheduler.start.state = .startSplit ∧ scheduler.start.kind = scheduler.kind ∧
      (scheduler.start.kind = .periodic → scheduler.start.nextFrame ≤ framePeriodicMax) := by
  obtain ⟨isKind, isState, tries, nextFrame⟩ := scheduler
  cases isKind with
  | periodic => exact ⟨rfl, rfl, fun _ => BitVec.le_refl _⟩
  | nonperiodic => exact ⟨rfl, rfl, fun other => by cases other⟩
  | nosplit => exact absurd rfl kind

/-- A round starts with a start split. -/
theorem agree_start (split : stage.splitTransaction = true) (state : stage.state = .startSplit)
    (has : stage.frameScheduler = some scheduler.start) (kind : scheduler.kind = kindOf endpoint) :
    Agree endpoint { stage } scheduler.start := by
  obtain ⟨starts, sameKind, frame⟩ := start_starts (kind ▸ kindOf_ne)
  exact ⟨split, has, sameKind.trans kind, .start state starts rfl frame⟩

/-! ## What follows a transaction -/

/-- The schedule goes on as the invariant says. -/
def SplitGoesOn (endpoint : Endpoint) (run : SplitRun) : StageNext → Prop
  | .transaction stage =>
    ∃ scheduler, stage.state ≠ .periodicDelay ∧
      Agree endpoint
        (if stage.state = .completeSplit then { run with stage, completes := run.completes + 1 } else { stage })
        scheduler
  | .delay stage => ScheduleInv endpoint { stage } ∧ stage.state = .periodicDelay
  | .leave .. => True
  | .nothing => False

/-- A complete split is started. -/
theorem goesOn_asked {run : SplitRun} {asked : FrameScheduler} (split : stage.splitTransaction = true)
    (state : stage.state = .completeSplit) (has : stage.frameScheduler = some asked)
    (kind : asked.kind = kindOf endpoint) (asks : Asked scheduler asked)
    (left : run.completes + 1 + asked.tries.toNat ≤ 4 + run.restarts) :
    SplitGoesOn endpoint run (.transaction stage) := by
  refine ⟨asked, ?_, ?_⟩
  · rw [state]
    decide
  · rw [if_pos state]
    exact ⟨split, has, kind, .complete state asks.state left asks.frame⟩

/-- The complete splits are over: there is nothing left, or the next round starts. -/
theorem goesOn_over {run : SplitRun} (split : stage.splitTransaction = true)
    (has : stage.frameScheduler = some scheduler) (kind : scheduler.kind = kindOf endpoint)
    (frame : scheduler.kind = .periodic → scheduler.nextFrame ≤ 7) :
    SplitGoesOn endpoint run (leaveCompleteSplit endpoint stage) := by
  rw [leaveCompleteSplit]
  split
  · cases periodic : isPeriodic endpoint with
    | true =>
      refine ⟨⟨⟨scheduler, split, has, kind, .delay rfl rfl⟩, ?_⟩, rfl⟩
      intro _ other has' isKind
      obtain rfl := Option.some.inj (has.symm.trans has')
      exact frame isKind
    | false =>
      refine ⟨scheduler.start, StageState.noConfusion, ?_⟩
      rw [if_neg StageState.noConfusion]
      exact agree_start split rfl (congrArg (Option.map _) has) kind
  · trivial

/-- Behind a start split. -/
theorem goesOn_start {run : SplitRun} (split : stage.splitTransaction = true) (state : stage.state = .completeSplit)
    (has : stage.frameScheduler = some scheduler) (kind : scheduler.kind = kindOf endpoint)
    (starts : scheduler.state = .startSplit) (first : run.completes = 0) :
    SplitGoesOn endpoint run (nextSplit endpoint stage) := by
  have splits : scheduler.kind ≠ .nosplit := kind ▸ kindOf_ne
  obtain ⟨asked, complete, asks, tries⟩ :=
    @complete_started { scheduler with state := .startSplitComplete } splits rfl
  simp only [nextSplit, has, transactionComplete_start splits starts, complete, if_true]
  refine goesOn_asked split state rfl (asks.kind.trans kind) asks ?_
  have three : asked.tries.toNat ≤ 3 := tries
  rw [first]
  omega

/-- Behind a complete split. -/
theorem goesOn_complete {run : SplitRun} (split : stage.splitTransaction = true)
    (state : stage.state = .completeSplit) (has : stage.frameScheduler = some scheduler)
    (kind : scheduler.kind = kindOf endpoint)
    (tries : scheduler.state = .completeSplit ∨ scheduler.state = .completeRetry)
    (left : run.completes + scheduler.tries.toNat ≤ 4 + run.restarts)
    (frame : scheduler.kind = .periodic → scheduler.nextFrame ≤ 7) (answered : answeredWord stage.transactionStatus = true) :
    SplitGoesOn endpoint run (nextSplit endpoint stage) := by
  have splits : scheduler.kind ≠ .nosplit := kind ▸ kindOf_ne
  simp only [nextSplit, has]
  have tried := transactionComplete_tried splits tries answered
  generalize scheduler.transactionComplete stage.transactionStatus = result at tried
  cases tried with
  | ends last isOver =>
    rw [complete_over isOver]
    exact goesOn_over split rfl kind frame
  | retries some =>
    obtain ⟨asked, complete, asks, same⟩ :=
      @complete_retried { scheduler with state := .completeRetry, tries := scheduler.tries - 1 } splits rfl
    rw [complete]
    refine goesOn_asked split state rfl (asks.kind.trans kind) asks ?_
    rw [same]
    bv_omega

theorem countTransaction_schedule :
    (countTransaction status packetsLeft bytesLeft stage).state = stage.state ∧
      (countTransaction status packetsLeft bytesLeft stage).transactionStatus = status ∧
      (countTransaction status packetsLeft bytesLeft stage).splitTransaction = stage.splitTransaction ∧
      (countTransaction status packetsLeft bytesLeft stage).frameScheduler = stage.frameScheduler := by
  rw [countTransaction, transactionComplete]
  split
  · exact ⟨rfl, rfl, rfl, rfl⟩
  · exact ⟨rfl, rfl, rfl, rfl⟩

/-- What follows a transaction that has been reported without an error. -/
theorem Agree.goesOn {run : SplitRun} (agree : Agree endpoint run scheduler)
    (awake : run.stage.state ≠ .periodicDelay) (clean : anySet status hcIntErrorMask = false)
    (answered : answeredWord status = true) :
    SplitGoesOn endpoint run (stageNext endpoint (countTransaction status packetsLeft bytesLeft run.stage)) := by
  obtain ⟨split, has, kind, phase⟩ := agree
  obtain ⟨sameState, isStatus, sameSplit, sameScheduler⟩ :=
    @countTransaction_schedule run.stage status packetsLeft bytesLeft
  generalize countTransaction status packetsLeft bytesLeft run.stage = stage at *
  cases phase with
  | start state starts first frame =>
    simp only [stageNext, sameState.trans state]
    split
    · trivial
    · exact goesOn_start (sameSplit.trans split) rfl (sameScheduler.trans has) kind starts first
  | complete state tries left frame =>
    simp only [stageNext, sameState.trans state, isStatus, clean, Bool.false_eq_true, if_false]
    exact goesOn_complete (sameSplit.trans split) (sameState.trans state) (sameScheduler.trans has) kind tries left
      frame (isStatus.symm ▸ answered)
  | delay state _ => exact absurd state awake

/-! ## One event -/

/-- The scheduler has a case for what it is asked. -/
theorem Agree.handled {run : SplitRun} {event : StageEvent} (agree : Agree endpoint run scheduler)
    (nonError : NonError event) : Handled run event := by
  cases event with
  | interval hardware => trivial
  | interrupt status packetsLeft bytesLeft hardware =>
    intro asks
    obtain ⟨_, has, kind, phase⟩ := agree
    have splits : scheduler.kind ≠ .nosplit := kind ▸ kindOf_ne
    refine ⟨scheduler, has, ?_⟩
    simp only [asksScheduler, reports, Bool.and_eq_true, bne_iff_ne] at asks
    have answered := nonError.2.resolve_left asks.1.2
    cases phase with
    | start state starts first frame =>
      rw [transactionComplete_start splits starts]
      obtain ⟨isKind, isState, tries, nextFrame⟩ := scheduler
      obtain rfl := starts
      cases isKind with
      | nosplit => exact absurd rfl splits
      | periodic => exact ⟨rfl, rfl⟩
      | nonperiodic => exact ⟨rfl, rfl⟩
    | complete state tries left frame =>
      -- Whatever the answer was, the next state is one that `complete_split` handles.
      have tried := transactionComplete_tried splits tries answered
      generalize scheduler.transactionComplete status = result at tried
      obtain ⟨isKind, isState, count, nextFrame⟩ := scheduler
      constructor
      · cases isKind with
        | nosplit => exact absurd rfl splits
        | periodic =>
          obtain rfl | rfl := tries
          · exact answered
          · exact answered
        | nonperiodic =>
          obtain rfl | rfl := tries
          · exact answered
          · exact answered
      · cases tried with
        | ends last isOver =>
          cases isKind with
          | nosplit => exact absurd rfl splits
          | periodic =>
            obtain rfl | rfl := isOver
            · rfl
            · rfl
          | nonperiodic =>
            obtain rfl | rfl := isOver
            · rfl
            · rfl
        | retries some =>
          cases isKind with
          | nosplit => exact absurd rfl splits
          | periodic => rfl
          | nonperiodic => rfl
    | delay state first => exact absurd state asks.1.1.1

/-- What follows a transaction keeps the invariant. -/
theorem SplitGoesOn.kept {run : SplitRun} {following : StageNext} (goesOn : SplitGoesOn endpoint run following)
    (stays : following.stage hardware stage = some after) :
    ScheduleInv endpoint
      (if after.state = .completeSplit then { run with stage := after, completes := run.completes + 1 }
        else { stage := after }) := by
  cases following with
  | transaction started =>
    obtain ⟨scheduler, awake, agree⟩ := goesOn
    obtain rfl := Option.some.inj stays
    rw [startedStage_state]
    -- Only a complete split is counted, and only a start split sets the count back.
    by_cases complete : started.state = .completeSplit
    · rw [if_pos complete] at agree ⊢
      exact agree.started awake hardware
    · rw [if_neg complete] at agree ⊢
      exact agree.started awake hardware
  | delay delayed =>
    obtain ⟨inv, state⟩ := goesOn
    obtain rfl := Option.some.inj stays
    rw [if_neg (by simp [state])]
    exact inv
  | leave status resultLen complete messages => cases stays
  | nothing => exact absurd goesOn id

/-- A transaction that is not reported is started as it was, a complete split for one restart more. -/
theorem Agree.again {run : SplitRun} (agree : Agree endpoint run scheduler)
    (awake : run.stage.state ≠ .periodicDelay) (hardware : Hardware) :
    ScheduleInv endpoint
      (if restarts run.stage then
        ⟨startedStage hardware run.stage, run.completes + 1, run.restarts + 1⟩
      else { run with stage := startedStage hardware run.stage }) := by
  split
  · rename_i restarted
    obtain ⟨split, has, kind, phase⟩ := agree
    simp only [restarts, Bool.and_eq_true, beq_iff_eq] at restarted
    -- A restart counts on both sides of the bound.
    have once : Agree endpoint ⟨run.stage, run.completes + 1, run.restarts + 1⟩ scheduler := by
      refine ⟨split, has, kind, ?_⟩
      cases phase with
      | start state _ _ _ => simp [state] at restarted
      | complete state tries left frame =>
        refine .complete state tries ?_ frame
        show run.completes + 1 + scheduler.tries.toNat ≤ 4 + (run.restarts + 1)
        omega
      | delay state _ => exact absurd state awake
    exact once.started awake hardware
  · exact agree.started awake hardware

/-- Every event keeps the invariant. -/
theorem ScheduleInv.step {run next : SplitRun} {event : StageEvent} (inv : ScheduleInv endpoint run)
    (nonError : NonError event) (step : splitStep endpoint run event = some next) : ScheduleInv endpoint next := by
  obtain ⟨⟨scheduler, agree⟩, _⟩ := inv
  cases event with
  | interval hardware =>
    rw [splitStep, Option.map_eq_some_iff] at step
    obtain ⟨stage, step, rfl⟩ := step
    rw [stageStep] at step
    split at step
    · obtain rfl := Option.some.inj step
      have split := agree.split
      -- After the delay the stage begins again, with a start split.
      have begun : beginStage run.stage = { run.stage with
          state := .startSplit
          splitComplete := false
          frameScheduler := some scheduler.start } := by
        simp [beginStage, split, agree.has]
      have starts : Agree endpoint { stage := beginStage run.stage } scheduler.start := by
        rw [begun]
        exact agree_start split rfl rfl agree.kind
      apply starts.started _ hardware
      rw [begun]
      exact StageState.noConfusion
    · cases step
  | interrupt status packetsLeft bytesLeft hardware =>
    rw [splitStep, Option.map_eq_some_iff] at step
    obtain ⟨stage, step, rfl⟩ := step
    rw [stageStep] at step
    split at step
    · cases step
    rename_i awake
    by_cases reported : reports status run.stage = true
    · rw [if_pos reported] at step ⊢
      have answered : answeredWord status = true := by
        apply nonError.2.resolve_left
        simp only [reports, Bool.and_eq_true, bne_iff_ne] at reported
        exact reported.2
      exact (agree.goesOn awake nonError.1 answered).kept step
    · rw [if_neg reported] at step ⊢
      split at step
      · cases step
      · obtain rfl := Option.some.inj step
        exact agree.again awake hardware

/-- The invariant holds when the stage of a split transfer has been put on its channel. -/
theorem stageStart_scheduleInv {nextPID : PID} {channel : Nat} {urb : Fin maxUsbRequests}
    {request : Request} {isIn statusStage : Bool} (splitting : splits endpoint = true)
    (start : stageStart endpoint nextPID channel urb request isIn statusStage hardware = some stage) :
    ScheduleInv endpoint { stage } := by
  rw [stageStart, Option.map_eq_some_iff] at start
  obtain ⟨attached, attach, rfl⟩ := start
  have attached_split : attached.splitTransaction = true ∧ attached.frameScheduler = attachScheduler endpoint := by
    rw [transferStageDataAttach] at attach
    split at attach
    · obtain rfl := Option.some.inj attach
      exact ⟨splitting, rfl⟩
    · rw [Option.map_eq_some_iff] at attach
      obtain ⟨packets, _, rfl⟩ := attach
      exact ⟨splitting, rfl⟩
  obtain ⟨split, attachedScheduler⟩ := attached_split
  obtain ⟨scheduler, found, kind⟩ : ∃ scheduler, attachScheduler endpoint = some scheduler ∧
      scheduler.kind = kindOf endpoint := by
    rw [attachScheduler, if_pos splitting, kindOf]
    split
    · exact ⟨_, rfl, rfl⟩
    · exact ⟨_, rfl, rfl⟩
  -- `transfer_stage_async` starts the scheduler.
  have begun : beginStage attached = { attached with
      state := .startSplit
      splitComplete := false
      frameScheduler := some scheduler.start } := by
    simp [beginStage, split, attachedScheduler, found]
  have starts : Agree endpoint { stage := beginStage attached } scheduler.start := by
    rw [begun]
    exact agree_start split rfl rfl kind
  apply starts.started _ hardware
  rw [begun]
  exact StageState.noConfusion

/-- The schedule of a split transfer, along every run of interrupts without errors. -/
theorem split_schedule (endpoint : Endpoint) (nextPID : PID) (channel : Nat) (urb : Fin maxUsbRequests)
    (request : Request) (isIn statusStage : Bool) (hardware : Hardware) (stage : TransferStageData)
    (splitting : splits endpoint = true)
    (start : stageStart endpoint nextPID channel urb request isIn statusStage hardware = some stage)
    (events : List StageEvent) (nonError : ∀ event ∈ events, NonError event) :
    WaitsForFrame stage ∧ Along (splitStep endpoint) (Scheduled endpoint) events { stage } := by
  have first := stageStart_scheduleInv splitting start
  refine ⟨first.frames, ?_⟩
  apply (Along.of_forall_mem nonError).invariant (ScheduleInv endpoint) first
  intro run event inv nonError
  have kept : ∀ next ∈ splitStep endpoint run event, ScheduleInv endpoint next :=
    fun next step => inv.step nonError step
  obtain ⟨scheduler, agree⟩ := inv.agree
  refine ⟨⟨agree.handled nonError, ?_, fun next step => (kept next step).frames⟩, kept⟩
  intro next step
  obtain ⟨other, agree⟩ := (kept next step).agree
  exact agree.phase.completes_le

/-- The interrupt with which a channel reports a status. -/
def reported (status : BitVec 32) : StageEvent := .interrupt (status ||| hcIntChHltd) 1 64 {}

instance : ∀ event, Decidable (NonError event)
  | .interrupt _ _ _ _ => inferInstanceAs (Decidable (_ ∧ _))
  | .interval _ => inferInstanceAs (Decidable True)

/-- A start split with all the tries of its complete split, one of which halts. -/
theorem split_schedule_read :
    WaitsForFrame ((readBehindHub 64).get (by decide)) ∧
      Along (splitStep bulkBehindHub) (Scheduled bulkBehindHub)
        [reported hcIntAck, reported hcIntNyet, reported 0, reported hcIntNak, reported hcIntNyet,
          reported hcIntNyet, reported hcIntAck]
        { stage := (readBehindHub 64).get (by decide) } :=
  split_schedule bulkBehindHub .data0 0 firstSlot _ true false {} _ (by decide) (Option.some_get _).symm _
    (by decide)

/-- A complete split is started five times when its channel only halts. -/
theorem split_schedule_restarts :
    ¬ ∀ (endpoint : Endpoint) (nextPID : PID) (channel : Nat) (urb : Fin maxUsbRequests) (request : Request)
      (isIn statusStage : Bool) (hardware : Hardware) (stage : TransferStageData), splits endpoint = true →
      stageStart endpoint nextPID channel urb request isIn statusStage hardware = some stage →
      ∀ events : List StageEvent, (∀ event ∈ events, NonError event) → ∀ run ∈ events.foldlM (splitStep endpoint) { stage },
        run.completes ≤ 4 := by
  intro bounded
  have four := bounded bulkBehindHub .data0 0 firstSlot _ true false {} _ (by decide)
    (Option.some_get (x := readBehindHub 64) (by decide)).symm
    [reported hcIntAck, reported 0, reported 0, reported 0, reported 0] (by decide) _ rfl
  exact absurd four (by decide)

end ComputerSystems.Verified
