import ComputerSystems.Verified.RequestSlots
import ComputerSystems.Verified.StageWaits

/-! # Control transfers

The stages of a control transfer as the bus expects them, and what the history of a
request has to do with them (`follows`).  The driver keeps to it as long as a stage
ends in one of the ways it is ready for (`Outcome`): the number of the next stage
travels in the completion routine, and the PID of the next stage in the endpoint.
-/

namespace ComputerSystems.Verified

open ComputerSystems.Usb ComputerSystems.System ComputerSystems.Data

variable {config : HostConfig} {hardware : Hardware} {host next : HostState}
  {urb other : Fin maxUsbRequests} {index : Fin maxUsbRequests} {channel : Nat}

/-! ## The protocol -/

def setupStage : IssuedStage := ⟨false, .setup, .setup, 8⟩

def dataStage (request : Request) (setup : SetupData) : IssuedStage :=
  ⟨decide (DataIn setup), .data1, .data request.buffer, request.bufLen⟩

def statusStage (setup : SetupData) : IssuedStage := ⟨!decide (DataIn setup), .data1, .temp, 0⟩

/-- The stages of a control transfer. -/
def controlStages (request : Request) (setup : SetupData) : List IssuedStage :=
  if request.bufLen = 0 then [setupStage, statusStage setup]
  else [setupStage, dataStage request setup, statusStage setup]

/-- How far a request is: `ready` for the next of the stages that are left, or at one. -/
inductive TransferPhase where
  | idle
  | ready (request : Request) (stages : List IssuedStage)
  | running (request : Request) (stages : List IssuedStage)
  | failed (request : Request)
  /-- Not a control transfer. -/
  | other
deriving DecidableEq

def isControl (config : HostConfig) (request : Request) : Bool :=
  match request.endpoint with
  | some address => (config.endpoint address).type == .control
  | none => false

/-- The protocol of one request buffer: requests one after the other, each with its
    stages in order and each stage only when the one before has succeeded, and at the
    end the completion routine that the request was submitted with. -/
def follows (config : HostConfig) : TransferPhase → HostAction → Option TransferPhase
  | .idle, .submitted _ request =>
    match isControl config request, request.setupData with
    | true, some setup => some (.ready request (controlStages request setup))
    | _, _ => some .other
  | .ready request (stage :: stages), .issued _ issued =>
    if issued = stage then some (.running request stages) else none
  | .running request stages, .left _ succeeded =>
    some (if succeeded then .ready request stages else .failed request)
  | .ready request [], .completed _ completion =>
    if completion = request.completion then some .idle else none
  | .failed request, .completed _ completion =>
    if completion = request.completion then some .idle else none
  | .other, .issued _ _ => some .other
  | .other, .left _ _ => some .other
  | .other, .completed _ _ => some .idle
  | _, _ => none

/-- The phase that a request has come to, if its history keeps to the protocol. -/
def phase (config : HostConfig) (host : HostState) (urb : Fin maxUsbRequests) : Option TransferPhase :=
  (history urb host.log).foldlM (follows config) .idle

/-- One more action of a request. -/
theorem phase_append {actions : List HostAction} (log : history urb next.log = history urb host.log ++ actions) :
    phase config next urb = (phase config host urb).bind (actions.foldlM (follows config)) := by
  rw [phase, log, List.foldlM_append]
  rfl

/-! ## The stages that the driver issues -/

/-- What does not change of a request while its stages are carried out. -/
structure Stems (original : Request) (setup : SetupData) (request : Request) : Prop where
  setupData : request.setupData = some setup
  buffer : request.buffer = original.buffer
  bufLen : request.bufLen = original.bufLen
  positive : DataIn setup → original.bufLen ≠ 0
  own : Completion.Own original.completion

/-- The stage with a number is due, and these stages are left. -/
inductive Due (original : Request) (setup : SetupData) (pid : PID) (request : Request) :
    Nat → List IssuedStage → Prop where
  | first (fresh : pid = .setup) (full : request.zlb = false)
      (completion : request.completion = original.completion) :
      Due original setup pid request 0 (controlStages original setup)
  | data (long : original.bufLen ≠ 0) (toggled : pid = .data1)
      (full : ¬ DataIn setup → request.zlb = false) (saved : request.saved = original.completion) :
      Due original setup pid request 1 [dataStage original setup, statusStage setup]
  | short (isOut : ¬ DataIn setup) (zlb : request.zlb = true)
      (saved : request.saved = original.completion) :
      Due original setup pid request 1 [statusStage setup]
  | status (full : ¬ DataIn setup → request.zlb = false) (saved : request.saved = original.completion) :
      Due original setup pid request 2 [statusStage setup]

/-- A stage is under way, and these stages are left after it. -/
inductive UnderWay (original : Request) (setup : SetupData) (pid : PID) (stage : TransferStageData)
    (request : Request) : List IssuedStage → Prop where
  | setup (stages : List IssuedStage) (buffer : stage.bufferPointer = .setup)
      (status : stage.statusStage = false) (fresh : pid = .setup)
      (completion : request.completion = nextStage 1) (due : Due original setup .data1 request 1 stages) :
      UnderWay original setup pid stage request stages
  | data (stages : List IssuedStage) (buffer : stage.bufferPointer = .data original.buffer)
      (status : stage.statusStage = false)
      (completion : request.completion = nextStage 2) (due : Due original setup pid request 2 stages) :
      UnderWay original setup pid stage request stages
  | status (buffer : stage.bufferPointer = .temp) (status : stage.statusStage = true)
      (completion : request.completion = original.completion) :
      UnderWay original setup pid stage request []

theorem transferStageDataAttach_status {endpoint : Endpoint} {pid : PID} {request : Request} {isIn : Bool}
    {stage : TransferStageData}
    (attached : transferStageDataAttach endpoint pid channel urb request isIn true = some stage) :
    stage.bufferPointer = .temp ∧ stage.statusStage = true ∧ stage.transferSize = 0 := by
  cases attached
  exact ⟨rfl, rfl, rfl⟩

theorem transferStageDataAttach_setup {endpoint : Endpoint} {request : Request} {isIn : Bool}
    {stage : TransferStageData}
    (attached : transferStageDataAttach endpoint .setup channel urb request isIn false = some stage) :
    stage.bufferPointer = .setup ∧ stage.statusStage = false ∧ stage.transferSize = 8 := by
  simp only [transferStageDataAttach, Bool.false_eq_true, if_false, Option.map_eq_some_iff] at attached
  obtain ⟨packets, _, rfl⟩ := attached
  exact ⟨rfl, rfl, rfl⟩

theorem transferStageDataAttach_data {endpoint : Endpoint} {request : Request} {isIn : Bool}
    {stage : TransferStageData} (long : request.bufLen ≠ 0)
    (attached : transferStageDataAttach endpoint .data1 channel urb request isIn false = some stage) :
    stage.bufferPointer = .data request.buffer ∧ stage.statusStage = false ∧
      stage.transferSize = request.bufLen := by
  simp only [transferStageDataAttach, Bool.false_eq_true, if_false, Option.map_eq_some_iff] at attached
  obtain ⟨packets, _, rfl⟩ := attached
  simpa [endpointGetNextPID] using long

/-- The stage that is due is issued. -/
theorem Due.underWay {original request after : Request} {setup : SetupData} {pid : PID} {state : Nat}
    {stages : List IssuedStage} {endpoint : Endpoint} {isIn isStatus : Bool} {stage : TransferStageData}
    (stems : Stems original setup request) (due : Due original setup pid request state stages)
    (staged : ControlStage setup request state (after, isIn, isStatus))
    (attached : transferStageDataAttach endpoint pid channel urb after isIn isStatus = some stage) :
    Stems original setup after ∧ ∃ rest,
      stages = ⟨isIn, endpointGetNextPID pid isStatus, stage.bufferPointer, stage.transferSize⟩ :: rest ∧
      UnderWay original setup pid stage after rest := by
  obtain ⟨_, sameSetup, sameBuffer, sameLength⟩ := staged.same
  refine ⟨⟨sameSetup.trans stems.setupData, sameBuffer.trans stems.buffer, sameLength.trans stems.bufLen,
    stems.positive, stems.own⟩, ?_⟩
  -- Which stages are due, and which the request is left for, agree: the other combinations are
  -- contradictory.
  cases due with
  | first fresh full completion =>
    subst fresh
    cases staged with
    | inSetup isIn =>
      obtain ⟨pointer, status, size⟩ := transferStageDataAttach_setup attached
      have long := stems.positive isIn
      refine ⟨[dataStage original setup, statusStage setup], ?_, ?_⟩
      · rw [controlStages, if_neg long, pointer, size]
        rfl
      · exact .setup _ pointer status rfl rfl (.data long rfl (fun isOut => absurd isIn isOut) completion)
    | shortSetup isOut short =>
      obtain ⟨pointer, status, size⟩ := transferStageDataAttach_setup attached
      have empty : original.bufLen = 0 := by
        rw [← stems.bufLen]
        exact short.resolve_left (by simp [full])
      refine ⟨[statusStage setup], ?_, ?_⟩
      · rw [controlStages, if_pos empty, pointer, size]
        rfl
      · exact .setup _ pointer status rfl rfl (.short isOut rfl completion)
    | outSetup isOut _ long =>
      obtain ⟨pointer, status, size⟩ := transferStageDataAttach_setup attached
      rw [stems.bufLen] at long
      refine ⟨[dataStage original setup, statusStage setup], ?_, ?_⟩
      · rw [controlStages, if_neg long, pointer, size]
        rfl
      · exact .setup _ pointer status rfl rfl (.data long rfl (fun _ => rfl) completion)
  | data long toggled full saved =>
    subst toggled
    have long' : request.bufLen ≠ 0 := stems.bufLen ▸ long
    cases staged with
    | inData isIn =>
      obtain ⟨pointer, status, size⟩ := transferStageDataAttach_data long' attached
      refine ⟨[statusStage setup], ?_, ?_⟩
      · rw [pointer, size, dataStage, stems.buffer, stems.bufLen, decide_eq_true isIn]
        rfl
      · exact .data _ (pointer.trans (by rw [stems.buffer])) status rfl (.status full saved)
    | shortStatus isOut zlb => exact absurd (zlb.symm.trans (full isOut)) (by decide)
    | outData isOut _ =>
      obtain ⟨pointer, status, size⟩ := transferStageDataAttach_data long' attached
      refine ⟨[statusStage setup], ?_, ?_⟩
      · rw [pointer, size, dataStage, stems.buffer, stems.bufLen, decide_eq_false isOut]
        rfl
      · exact .data _ (pointer.trans (by rw [stems.buffer])) status rfl (.status full saved)
  | short isOut zlb saved =>
    cases staged with
    | inData isIn => exact absurd isIn isOut
    | shortStatus _ _ =>
      obtain ⟨pointer, status, size⟩ := transferStageDataAttach_status attached
      refine ⟨[], ?_, .status pointer status saved⟩
      rw [pointer, size, statusStage, decide_eq_false isOut]
      rfl
    | outData _ full => exact absurd (zlb.symm.trans full) (by decide)
  | status full saved =>
    cases staged with
    | inStatus isIn =>
      obtain ⟨pointer, status, size⟩ := transferStageDataAttach_status attached
      refine ⟨[], ?_, .status pointer status saved⟩
      rw [pointer, size, statusStage, decide_eq_true isIn]
      rfl
    | outStatus isOut _ =>
      obtain ⟨pointer, status, size⟩ := transferStageDataAttach_status attached
      refine ⟨[], ?_, .status pointer status saved⟩
      rw [pointer, size, statusStage, decide_eq_false isOut]
      rfl

/-! ## How a stage ends -/

@[simp] theorem anySet_or (status first second : BitVec 32) :
    anySet status (first ||| second) = (anySet status first || anySet status second) := by
  simp [anySet, BitVec.and_or_distrib_left, bne, Bool.beq_eq_decide_eq, BitVec.or_eq_zero_iff]

/-- The split transactions of a control transfer, as the frame scheduler has them. -/
inductive SplitState (stage : TransferStageData) : Prop where
  | whole (split : stage.splitTransaction = false) (state : stage.state = .noSplitTransfer)
  | start (scheduler : FrameScheduler) (split : stage.splitTransaction = true)
      (state : stage.state = .startSplit) (complete : stage.splitComplete = false)
      (has : stage.frameScheduler = some scheduler) (kind : scheduler.kind = .nonperiodic)
      (starts : scheduler.state = .startSplit)
  | complete (scheduler : FrameScheduler) (split : stage.splitTransaction = true)
      (state : stage.state = .completeSplit) (complete : stage.splitComplete = true)
      (has : stage.frameScheduler = some scheduler) (kind : scheduler.kind = .nonperiodic)
      (tries : scheduler.state = .completeSplit ∨ scheduler.state = .completeRetry)

/-- The channel reports an outcome of the transaction that the driver is ready for. -/
def Outcome (stage : TransferStageData) (status packetsLeft : BitVec 32) : Prop :=
  match stage.state with
  | .noSplitTransfer =>
    if anySet status hcIntErrorMask then stage.bufferPointer = .setup
    else anySet status (hcIntNak ||| hcIntNyet) = false
  | .startSplit => anySet status (hcIntErrorMask ||| hcIntNak ||| hcIntNyet) = false
  | .completeSplit =>
    anySet status hcIntErrorMask = false ∧
      if anySet status (hcIntNak ||| hcIntNyet) then
        stage.packets ≠ 0 ∨ stage.bufferPointer ≠ .setup ∧ stage.statusStage = false
      else stage.bufferPointer = .setup →
        anySet status hcIntXferComp = true ∧ packetsMoved packetsLeft stage = stage.packets
  | .periodicDelay | .unknown => True

/-- What becomes of a stage of a control transfer, and of the PID of its endpoint. -/
inductive StageEnds (pid pid' : PID) (stage : TransferStageData) : StageNext → Prop where
  | goesOn (after : TransferStageData) (split : SplitState after)
      (kept : stage.bufferPointer = .setup → pid' = pid) : StageEnds pid pid' stage (.transaction after)
  | succeeds (resultLen : Option (BitVec 32))
      (setup : stage.bufferPointer = .setup → pid = .setup → pid' = .data1)
      (status : stage.statusStage = true → pid' = .setup) :
      StageEnds pid pid' stage (.leave 1 resultLen true [])
  | fails (status : Int) (messages : List HostAction) (setup : stage.bufferPointer = .setup)
      (kept : pid' = pid) (failed : status ≠ 1) :
      StageEnds pid pid' stage (.leave status none false messages)

/-- The next complete split of a transfer that is not periodic. -/
theorem complete_nonperiodic {scheduler : FrameScheduler} {status : BitVec 32}
    (kind : scheduler.kind = .nonperiodic)
    (tries : scheduler.state = .completeSplit ∨ scheduler.state = .completeRetry) :
    let result := (scheduler.transactionComplete status).complete
    result.2.kind = .nonperiodic ∧
      (result.1 = true → result.2.state = .completeSplit ∨ result.2.state = .completeRetry) ∧
      (anySet status hcIntXferComp = true → result.1 = false) := by
  have moved : (scheduler.transactionComplete status).kind = .nonperiodic ∧
      ((scheduler.transactionComplete status).state = .completeSplit ∨
        (scheduler.transactionComplete status).state = .completeRetry ∨
        (scheduler.transactionComplete status).state = .completeSplitFailed ∨
        (scheduler.transactionComplete status).state = .completeSplitComplete) ∧
      (anySet status hcIntXferComp = true →
        (scheduler.transactionComplete status).state = .completeSplitComplete) := by
    unfold FrameScheduler.transactionComplete FrameScheduler.retry
    obtain state | state := tries
    · rw [kind, state]
      grind
    · rw [kind, state]
      grind
  obtain ⟨sameKind, states, done⟩ := moved
  dsimp only
  unfold FrameScheduler.complete
  rw [sameKind]
  -- A retry goes on, and what has failed or is complete ends.
  obtain state | state | state | state := states
  · have unfinished : anySet status hcIntXferComp = false := by
      apply Bool.of_not_eq_true
      intro xfer
      simp [done xfer] at state
    simp [state, sameKind, unfinished]
  · have unfinished : anySet status hcIntXferComp = false := by
      apply Bool.of_not_eq_true
      intro xfer
      simp [done xfer] at state
    simp [state, sameKind, unfinished]
  · simp [state, sameKind]
  · simp [state, sameKind]

/-- What a transaction makes of the PID. -/
theorem transactionComplete_pid {status packetsLeft bytesLeft : BitVec 32} {before stage : TransferStageData}
    {pid pid' : PID}
    (completes : transactionComplete status packetsLeft bytesLeft before pid = (stage, pid')) :
    if anySet status (hcIntErrorMask ||| hcIntNak ||| hcIntNyet) then
      stage.packets = before.packets ∧ pid' = pid
    else stage.packets = before.packets - packetsMoved packetsLeft before ∧
      pid' = if !before.splitTransaction || before.splitComplete then
        endpointSkipPID pid (packetsMoved packetsLeft before) before.statusStage else pid := by
  rw [transactionComplete] at completes
  split at completes
  next unclean =>
    cases completes
    simp [unclean]
  next clean =>
    cases completes
    simp [clean]

theorem leaveCompleteSplit_ends {endpoint : Endpoint} {pid pid' : PID} {stage before : TransferStageData}
    {scheduler : FrameScheduler} (control : isPeriodic endpoint = false)
    (split : stage.splitTransaction = true) (has : stage.frameScheduler = some scheduler)
    (kind : scheduler.kind = .nonperiodic)
    (goes : stage.packets ≠ 0 → before.bufferPointer = .setup → pid' = pid)
    (setup : stage.packets = 0 → before.bufferPointer = .setup → pid = .setup → pid' = .data1)
    (status : stage.packets = 0 → before.statusStage = true → pid' = .setup) :
    StageEnds pid pid' before (leaveCompleteSplit endpoint stage) := by
  rw [leaveCompleteSplit]
  split
  next more =>
    rw [if_neg (by simp [control])]
    refine .goesOn _ (.start scheduler.start split rfl rfl ?_ ?_ ?_) (goes more)
    · simp [has]
    · simp [FrameScheduler.start, kind]
    · simp [FrameScheduler.start, kind]
  next none =>
    have ended : stage.packets = 0 := by simpa using none
    exact .succeeds _ (setup ended) (status ended)

section StageEnds

variable {endpoint : Endpoint} {status packetsLeft bytesLeft : BitVec 32} {pid pid' : PID}
  {before stage : TransferStageData} {scheduler : FrameScheduler}

/-- The PID behind a stage that has moved its packets. -/
theorem skipPID_ends {packets : BitVec 32} (kinds : before.bufferPointer = .setup → before.statusStage = false)
    (moved : pid' = endpointSkipPID pid packets before.statusStage) :
    (before.bufferPointer = .setup → pid = .setup → pid' = .data1) ∧ (before.statusStage = true → pid' = .setup) := by
  constructor
  · intro setup fresh
    rw [moved, kinds setup, fresh]
    rfl
  · intro isStatus
    rw [moved, isStatus]
    rfl

/-- A transaction that is not split. -/
theorem stageNext_ends_whole (control : isPeriodic endpoint = false) (split : before.splitTransaction = false)
    (state : before.state = .noSplitTransfer) (outcome : Outcome before status packetsLeft)
    (kinds : before.bufferPointer = .setup → before.statusStage = false)
    (completes : transactionComplete status packetsLeft bytesLeft before pid = (stage, pid')) :
    StageEnds pid pid' before (stageNext endpoint stage) := by
  obtain ⟨_, sameState, _, status', _⟩ := transactionComplete_same completes
  have pids := transactionComplete_pid completes
  simp only [Outcome, state] at outcome
  simp only [stageNext, sameState.trans state, status']
  by_cases failed : anySet status hcIntErrorMask = true
  · -- the status that is reported is that of the channel, which is not 1 if it is an error
    rw [if_pos failed] at outcome
    rw [if_pos failed]
    rw [if_pos (by simp [failed])] at pids
    refine .fails _ _ outcome pids.2 ?_
    intro one
    have value : status = 1 := by
      apply BitVec.eq_of_toInt_eq
      rw [one]
      rfl
    rw [value] at failed
    exact absurd failed (by decide)
  · have passed := Bool.of_not_eq_true failed
    rw [if_neg failed] at outcome
    have clean : anySet status (hcIntErrorMask ||| hcIntNak ||| hcIntNyet) = false := by
      simp only [anySet_or, Bool.or_eq_false_iff] at outcome ⊢
      exact ⟨⟨passed, outcome.1⟩, outcome.2⟩
    rw [if_neg (by simp [clean])] at pids
    rw [if_neg failed, if_neg (by simp [control])]
    have moved : pid' = endpointSkipPID pid (packetsMoved packetsLeft before) before.statusStage := by
      simpa [split] using pids.2
    obtain ⟨setup, isStatus⟩ := skipPID_ends kinds moved
    exact .succeeds _ setup isStatus

/-- A start of a split transaction: the complete split follows. -/
theorem stageNext_ends_start (split : before.splitTransaction = true) (state : before.state = .startSplit)
    (complete : before.splitComplete = false) (has : before.frameScheduler = some scheduler)
    (kind : scheduler.kind = .nonperiodic) (starts : scheduler.state = .startSplit)
    (outcome : Outcome before status packetsLeft)
    (completes : transactionComplete status packetsLeft bytesLeft before pid = (stage, pid')) :
    StageEnds pid pid' before (stageNext endpoint stage) := by
  obtain ⟨same, sameState, _, status', sameScheduler⟩ := transactionComplete_same completes
  have pids := transactionComplete_pid completes
  simp only [Outcome, state] at outcome
  rw [if_neg (by simp [outcome])] at pids
  have kept : pid' = pid := by simpa [split, complete] using pids.2
  have passed : (anySet status hcIntErrorMask || anySet status hcIntNak || anySet status hcIntNyet) = false := by
    simpa using outcome
  have next : (scheduler.transactionComplete status).complete =
      (true, { scheduler with state := .completeSplit, tries := 3 }) := by
    simp [FrameScheduler.transactionComplete, FrameScheduler.complete, kind, starts]
  simp only [stageNext, sameState.trans state, status', passed, Bool.false_eq_true, if_false, nextSplit,
    sameScheduler.trans has, next, if_true]
  exact .goesOn _ (.complete _ (same.splitTransaction.trans split) rfl rfl rfl kind (.inl rfl)) fun _ => kept

/-- A complete split, which is made again or is the last. -/
theorem stageNext_ends_complete (control : isPeriodic endpoint = false) (split : before.splitTransaction = true)
    (state : before.state = .completeSplit) (complete : before.splitComplete = true)
    (has : before.frameScheduler = some scheduler) (kind : scheduler.kind = .nonperiodic)
    (tries : scheduler.state = .completeSplit ∨ scheduler.state = .completeRetry)
    (outcome : Outcome before status packetsLeft)
    (kinds : before.bufferPointer = .setup → before.statusStage = false)
    (completes : transactionComplete status packetsLeft bytesLeft before pid = (stage, pid')) :
    StageEnds pid pid' before (stageNext endpoint stage) := by
  obtain ⟨same, sameState, sameComplete, status', sameScheduler⟩ := transactionComplete_same completes
  have pids := transactionComplete_pid completes
  simp only [Outcome, state] at outcome
  obtain ⟨passed, outcome⟩ := outcome
  obtain ⟨kind', more, ended⟩ := @complete_nonperiodic scheduler status kind tries
  simp only [stageNext, sameState.trans state, status', passed, Bool.false_eq_true, if_false, nextSplit,
    sameScheduler.trans has]
  have sameSplit := same.splitTransaction.trans split
  by_cases refused : anySet status (hcIntNak ||| hcIntNyet) = true
  · -- The transaction is made again: the PID stays, and no packet has been moved.
    rw [if_pos refused] at outcome
    have unclean : anySet status (hcIntErrorMask ||| hcIntNak ||| hcIntNyet) = true := by
      simp only [anySet_or, Bool.or_eq_true] at refused ⊢
      exact refused.imp_left .inr
    rw [if_pos unclean] at pids
    split
    next again =>
      exact .goesOn _ (.complete _ sameSplit rfl (sameComplete.trans complete) rfl kind'
        (more again)) fun _ => pids.2
    next =>
      refine leaveCompleteSplit_ends control ?_ rfl kind' ?_ ?_ ?_
      · exact sameSplit
      · exact fun _ _ => pids.2
      · intro none setup
        have none' : before.packets = 0 := pids.1.symm.trans none
        exact absurd setup (outcome.resolve_left (fun left => left none')).1
      · intro none isStatus
        have none' : before.packets = 0 := pids.1.symm.trans none
        have notStatus := (outcome.resolve_left (fun left => left none')).2
        exact absurd (notStatus.symm.trans isStatus) (by decide)
  · rw [if_neg refused] at outcome
    have refused' := Bool.of_not_eq_true refused
    have clean : anySet status (hcIntErrorMask ||| hcIntNak ||| hcIntNyet) = false := by
      simp only [anySet_or, Bool.or_eq_false_iff] at refused' ⊢
      exact ⟨⟨passed, refused'.1⟩, refused'.2⟩
    rw [if_neg (by simp [clean])] at pids
    have moved : pid' = endpointSkipPID pid (packetsMoved packetsLeft before) before.statusStage := by
      simpa [complete] using pids.2
    obtain ⟨setup, isStatus⟩ := skipPID_ends kinds moved
    split
    next again =>
      refine .goesOn _ (.complete _ sameSplit rfl (sameComplete.trans complete) rfl kind'
        (more again)) ?_
      intro setup
      exact absurd (again.symm.trans (ended (outcome setup).1)) (by decide)
    next =>
      refine leaveCompleteSplit_ends control ?_ rfl kind' ?_ (fun _ => setup) (fun _ => isStatus)
      · exact sameSplit
      · intro left setup
        have none : stage.packets = 0 := by
          rw [pids.1, (outcome setup).2]
          exact BitVec.sub_self _
        exact absurd none left

/-- The driver is ready for the outcome. -/
theorem stageNext_ends (control : isPeriodic endpoint = false) (split : SplitState before)
    (outcome : Outcome before status packetsLeft)
    (kinds : before.bufferPointer = .setup → before.statusStage = false)
    (completes : transactionComplete status packetsLeft bytesLeft before pid = (stage, pid')) :
    StageEnds pid pid' before (stageNext endpoint stage) := by
  cases split with
  | whole split state => exact stageNext_ends_whole control split state outcome kinds completes
  | start scheduler split state complete has kind starts =>
    exact stageNext_ends_start split state complete has kind starts outcome completes
  | complete scheduler split state complete has kind tries =>
    exact stageNext_ends_complete control split state complete has kind tries outcome kinds completes

end StageEnds

/-! ## The invariant -/

/-- What is known of a request by its stage: of a control transfer, the stages that
    are left. -/
def InPhase (config : HostConfig) (host : HostState) (urb : Fin maxUsbRequests)
    (stage : TransferStageData) : Prop :=
  ∀ address, stage.endpoint = some address →
    if (config.endpoint address).type = .control then
      SplitState stage ∧ ∃ original setup stages, phase config host urb = some (.running original stages) ∧
        Stems original setup (host.requests urb) ∧
        UnderWay original setup (host.nextPID address) stage (host.requests urb) stages
    else phase config host urb = some .other

structure ControlSlot (config : HostConfig) (host : HostState) (urb : Fin maxUsbRequests) : Prop where
  keeps : (phase config host urb).isSome
  idle : pending host urb = false → phase config host urb = some .idle
  stage : ∀ index, (host.stages index).urb = some urb → InPhase config host urb (host.stages index)

/-- A stage at the endpoint. -/
def StageAt (host : HostState) (address : Address) (index : Fin maxUsbRequests) : Prop :=
  (host.stages index).urb.isSome ∧ (host.stages index).endpoint = some address

structure ControlInv (config : HostConfig) (host : HostState) : Prop where
  slots : ∀ urb, ControlSlot config host urb
  single : ∀ address, (config.endpoint address).type = .control → ∀ first second,
    StageAt host address first → StageAt host address second → first = second
  ready : ∀ address, (config.endpoint address).type = .control → (∀ index, ¬ StageAt host address index) →
    host.nextPID address = .setup

/-- Only one request is at the endpoint of a control transfer that is under way. -/
theorem ControlInv.alone {address : Address} (inv : ControlInv config host)
    (carries : (host.stages index).urb = some urb) (endpoint : (host.stages index).endpoint = some address)
    (control : (config.endpoint address).type = .control) :
    ∀ index' other, other ≠ urb → (host.stages index').urb = some other →
      (host.stages index').endpoint ≠ some address := by
  intro index' other ne carries' endpoint'
  have same := inv.single address control index' index ⟨by rw [carries']; rfl, endpoint'⟩
    ⟨by rw [carries]; rfl, endpoint⟩
  rw [same, carries] at carries'
  exact ne (Option.some.inj carries').symm

/-- An event about one request, at the endpoint `address`. -/
structure AtEndpoint (config : HostConfig) (urb : Fin maxUsbRequests) (address : Address)
    (host next : HostState) : Prop extends Frame urb host next where
  pids : ∀ address' ≠ address, next.nextPID address' = host.nextPID address'
  alone : (config.endpoint address).type = .control → ∀ index other, other ≠ urb →
    (host.stages index).urb = some other → (host.stages index).endpoint ≠ some address
  before : ∀ index, (host.stages index).urb = some urb → (host.stages index).endpoint = some address
  after : ∀ index, (next.stages index).urb = some urb → (next.stages index).endpoint = some address

theorem ControlInv.frame {address : Address} (inv : ControlInv config host)
    (event : AtEndpoint config urb address host next) (slots : SlotsInv config next)
    (here : ControlSlot config next urb)
    (fresh : (config.endpoint address).type = .control → ¬ InFlight next urb →
      next.nextPID address = .setup) : ControlInv config next := by
  -- Whoever else has a stage at a control endpoint had it before, elsewhere.
  have others : ∀ address' other index, other ≠ urb → (config.endpoint address').type = .control →
      (next.stages index).urb = some other → (next.stages index).endpoint = some address' →
      address' ≠ address ∧ next.stages index = host.stages index := by
    intro address' other index ne control carries endpoint
    have carries' := (event.carries other ne index).mp carries
    have same := event.stages other ne index carries'
    refine ⟨?_, same⟩
    rintro rfl
    rw [same] at endpoint
    exact event.alone control index other ne carries' endpoint
  constructor
  · intro other
    by_cases ne : other = urb
    · exact ne ▸ here
    · have slot := inv.slots other
      have samePhase : phase config next other = phase config host other := by
        rw [phase, event.logs other ne, phase]
      constructor
      · rw [samePhase]
        exact slot.keeps
      · intro done
        rw [pending, event.requests other ne, event.held other ne] at done
        rw [samePhase]
        exact slot.idle done
      · intro index carries address' endpoint
        have carries' := (event.carries other ne index).mp carries
        have same := event.stages other ne index carries'
        have inPhase := slot.stage index carries' address' (same ▸ endpoint)
        rw [samePhase, event.requests other ne, same]
        split at inPhase
        next control =>
          rw [if_pos control, event.pids address' (others address' other index ne control carries endpoint).1]
          exact inPhase
        next elsewhere =>
          rw [if_neg elsewhere]
          exact inPhase
  · rintro address' control first second ⟨carried, endpoint⟩ ⟨carried', endpoint'⟩
    obtain ⟨one, carries⟩ := Option.isSome_iff_exists.mp carried
    obtain ⟨two, carries'⟩ := Option.isSome_iff_exists.mp carried'
    by_cases mine : one = urb
    · subst mine
      obtain rfl : address' = address :=
        Option.some.inj (endpoint.symm.trans (event.after first carries))
      by_cases mine' : two = one
      · subst mine'
        exact (slots two).single first second carries carries'
      · exact absurd rfl (others address' two second mine' control carries' endpoint').1
    · obtain ⟨elsewhere, same⟩ := others address' one first mine control carries endpoint
      by_cases mine' : two = urb
      · subst mine'
        exact absurd (Option.some.inj (endpoint'.symm.trans (event.after second carries'))) elsewhere
      · obtain ⟨_, same'⟩ := others address' two second mine' control carries' endpoint'
        rw [same] at carried endpoint
        rw [same'] at carried' endpoint'
        exact inv.single address' control first second ⟨carried, endpoint⟩ ⟨carried', endpoint'⟩
  · intro address' control none
    by_cases here' : address' = address
    · subst here'
      apply fresh control
      rintro ⟨index, carries⟩
      exact none index ⟨by rw [carries]; rfl, event.after index carries⟩
    · rw [event.pids address' here']
      apply inv.ready address' control
      rintro index ⟨carried, endpoint⟩
      obtain ⟨other, carries⟩ := Option.isSome_iff_exists.mp carried
      by_cases mine : other = urb
      · subst mine
        exact here' (Option.some.inj (endpoint.symm.trans (event.before index carries)))
      · have same := event.stages other mine index carries
        exact none index ⟨by rw [same]; exact carried, by rw [same]; exact endpoint⟩

/-! ## Stages of one request -/

theorem SplitState.congr {stage after : TransferStageData} (split : SplitState stage)
    (sameSplit : after.splitTransaction = stage.splitTransaction) (sameState : after.state = stage.state)
    (sameComplete : after.splitComplete = stage.splitComplete)
    (scheduled : ∀ scheduler, scheduler.kind = .nonperiodic → stage.frameScheduler = some scheduler →
      after.frameScheduler = some scheduler) : SplitState after := by
  cases split with
  | whole split state => exact .whole (sameSplit.trans split) (sameState.trans state)
  | start scheduler split state complete has kind starts =>
    exact .start scheduler (sameSplit.trans split) (sameState.trans state) (sameComplete.trans complete)
      (scheduled scheduler kind has) kind starts
  | complete scheduler split state complete has kind tries =>
    exact .complete scheduler (sameSplit.trans split) (sameState.trans state) (sameComplete.trans complete)
      (scheduled scheduler kind has) kind tries

theorem SplitState.startTransaction (config : HostConfig) (hardware : Hardware)
    (split : SplitState (host.stages index)) :
    SplitState ((Usb.startTransaction config hardware index host).stages index) := by
  rw [Usb.startTransaction]
  split
  · apply split.congr
    · simp [HostState.setStage]
    · simp [HostState.setStage]
    · simp [HostState.setStage]
    · intro scheduler _ has
      simpa [HostState.setStage] using has
  · apply split.congr
    · simp [HostState.setStage]
    · simp [HostState.setStage]
    · simp [HostState.setStage]
    · intro scheduler kind has
      simp [HostState.setStage, has, FrameScheduler.wait, kind]

theorem startTransaction_nextPID (config : HostConfig) (hardware : Hardware) (index : Fin maxUsbRequests)
    (host : HostState) : (startTransaction config hardware index host).nextPID = host.nextPID := by
  rw [startTransaction]
  split
  · rfl
  · rfl

theorem startTransaction_sameStage (config : HostConfig) (hardware : Hardware) (index : Fin maxUsbRequests)
    (host : HostState) :
    ((startTransaction config hardware index host).stages index).bufferPointer =
        (host.stages index).bufferPointer ∧
      ((startTransaction config hardware index host).stages index).statusStage =
        (host.stages index).statusStage := by
  rw [startTransaction]
  split
  · simp [HostState.setStage]
  · simp [HostState.setStage]

/-- The stage at which the transfer is stays what it is for the protocol. -/
theorem UnderWay.congr {original request : Request} {setup : SetupData} {pid pid' : PID}
    {stage after : TransferStageData} {stages : List IssuedStage}
    (underWay : UnderWay original setup pid stage request stages)
    (buffer : after.bufferPointer = stage.bufferPointer) (status : after.statusStage = stage.statusStage)
    (kept : stage.bufferPointer = .setup → pid' = pid) :
    UnderWay original setup pid' after request stages := by
  cases underWay with
  | setup _ pointer isStatus fresh completion due =>
    exact .setup _ (buffer.trans pointer) (status.trans isStatus) ((kept pointer).trans fresh) completion due
  | data _ pointer isStatus completion due =>
    refine .data _ (buffer.trans pointer) (status.trans isStatus) completion ?_
    cases due with
    | status full saved => exact .status full saved
  | status pointer isStatus completion => exact .status (buffer.trans pointer) (status.trans isStatus) completion

theorem beginStage_buffer (stage : TransferStageData) :
    (beginStage stage).bufferPointer = stage.bufferPointer ∧
      (beginStage stage).statusStage = stage.statusStage := by
  rw [beginStage]
  split
  · exact ⟨rfl, rfl⟩
  · exact ⟨rfl, rfl⟩

/-- The next transaction of a stage is started. -/
theorem InPhase.startTransaction (inPhase : InPhase config host urb (host.stages index)) :
    InPhase config (Usb.startTransaction config hardware index host) urb
      ((Usb.startTransaction config hardware index host).stages index) := by
  have same := startTransaction_sameSlots config hardware index host
  have samePhase : phase config (Usb.startTransaction config hardware index host) urb =
      phase config host urb := by rw [phase, same.logs, phase]
  intro address endpoint
  rw [same.endpoint] at endpoint
  have known := inPhase address endpoint
  rw [samePhase, same.requests, startTransaction_nextPID]
  split at known
  next control =>
    obtain ⟨split, original, setup, stages, running, stems, underWay⟩ := known
    obtain ⟨buffer, status⟩ := startTransaction_sameStage config hardware index host
    rw [if_pos control]
    exact ⟨split.startTransaction config hardware, original, setup, stages, running, stems,
      underWay.congr buffer status fun _ => rfl⟩
  next other =>
    rw [if_neg other]
    exact known

theorem Due.congr {original request request' : Request} {setup : SetupData} {pid : PID} {state : Nat}
    {stages : List IssuedStage} (due : Due original setup pid request state stages)
    (zlb : request'.zlb = request.zlb) (saved : request'.saved = request.saved)
    (completion : request'.completion = request.completion) :
    Due original setup pid request' state stages := by
  cases due with
  | first fresh full called => exact .first fresh (zlb.trans full) (completion.trans called)
  | data long toggled full called =>
    exact .data long toggled (fun isOut => zlb.trans (full isOut)) (saved.trans called)
  | short isOut isShort called => exact .short isOut (zlb.trans isShort) (saved.trans called)
  | status full called => exact .status (fun isOut => zlb.trans (full isOut)) (saved.trans called)

theorem Due.hasStage {original request : Request} {setup : SetupData} {pid : PID} {state : Nat}
    {stages : List IssuedStage} (due : Due original setup pid request state stages) :
    (controlStage setup state request).isSome := by
  cases due with
  | first => exact controlStage_zero setup request
  | data long toggled full saved =>
    rw [Option.isSome_iff_exists]
    by_cases isIn : DataIn setup
    · exact ⟨_, controlStage_iff.mpr (.inData isIn)⟩
    · exact ⟨_, controlStage_iff.mpr (.outData isIn (full isIn))⟩
  | short isOut zlb saved =>
    exact Option.isSome_iff_exists.mpr ⟨_, controlStage_iff.mpr (.shortStatus isOut zlb)⟩
  | status full saved =>
    rw [Option.isSome_iff_exists]
    by_cases isIn : DataIn setup
    · exact ⟨_, controlStage_iff.mpr (.inStatus isIn)⟩
    · exact ⟨_, controlStage_iff.mpr (.outStatus isIn (full isIn))⟩

/-- A stage of a control transfer begins. -/
theorem beginStage_split {endpoint : Endpoint} {pid : PID} {request : Request} {isIn isStatus : Bool}
    {stage : TransferStageData} (control : isPeriodic endpoint = false)
    (attached : transferStageDataAttach endpoint pid channel urb request isIn isStatus = some stage) :
    SplitState (beginStage stage) := by
  obtain ⟨split, scheduler, _⟩ := transferStageDataAttach_equipped attached
  cases splits' : splits endpoint with
  | false =>
    have whole : stage.splitTransaction = false := split.trans splits'
    rw [beginStage, if_neg (by simp [whole])]
    exact .whole whole rfl
  | true =>
    have isSplit : stage.splitTransaction = true := split.trans splits'
    rw [attachScheduler, if_pos splits', if_neg (by simp [control])] at scheduler
    rw [beginStage, if_pos isSplit]
    refine .start (FrameScheduler.start { kind := .nonperiodic }) isSplit rfl rfl ?_ rfl rfl
    rw [scheduler]
    rfl

theorem isPeriodic_control {endpoint : Endpoint} (control : endpoint.type = .control) :
    isPeriodic endpoint = false := by
  simp [isPeriodic, control]

theorem transferStageAsync_keeps {isIn isStatus started : Bool}
    (runs : transferStageAsync config hardware urb isIn isStatus host = some (started, next)) :
    next.requests = host.requests ∧ next.held = host.held ∧ next.nextPID = host.nextPID := by
  obtain ⟨_, _, rfl⟩ | ⟨_, channel, index, address, stage, _, _, _, _, rfl⟩ := transferStageAsync_cases runs
  · exact ⟨rfl, rfl, rfl⟩
  · have same := startTransaction_sameSlots config hardware index
      ((enterChannel channel index (beginStage stage) host).note [.issued urb ⟨isIn,
        endpointGetNextPID (host.nextPID address) isStatus, stage.bufferPointer, stage.transferSize⟩])
    exact ⟨same.requests, same.held, startTransaction_nextPID _ _ _ _⟩

/-- The request has no stage but the one that it has just got. -/
theorem transferStageAsync_only {isIn isStatus started : Bool} (idle : ¬ InFlight host urb)
    (runs : transferStageAsync config hardware urb isIn isStatus host = some (started, next))
    (carries : (next.stages index).urb = some urb) :
    ∃ channel address stage, (host.requests urb).endpoint = some address ∧
      transferStageDataAttach (config.endpoint address) (host.nextPID address) channel urb
        (host.requests urb) isIn isStatus = some stage ∧
      next = startTransaction config hardware index
        ((enterChannel channel index (beginStage stage) host).note
          [.issued urb ⟨isIn, endpointGetNextPID (host.nextPID address) isStatus, stage.bufferPointer,
            stage.transferSize⟩]) := by
  obtain ⟨_, _, rfl⟩ | ⟨_, channel, index', address, stage, _, _, endpoint, attached, rfl⟩ :=
    transferStageAsync_cases runs
  · exact absurd ⟨index, carries⟩ idle
  · rw [(startTransaction_same _ _ _ _).urb] at carries
    by_cases here : index = index'
    · subst here
      exact ⟨channel, address, stage, endpoint, attached, rfl⟩
    · simp only [HostState.note, enterChannel, Function.update_of_ne here] at carries
      exact absurd ⟨index, carries⟩ idle

/-! ## Requests are submitted -/

/-- A request that gets no channel is where it was. -/
theorem transferStageAsync_phase {isIn isStatus started : Bool}
    (runs : transferStageAsync config hardware urb isIn isStatus host = some (started, next))
    (idle : ¬ InFlight next urb) : phase config next urb = phase config host urb := by
  cases found : newChannel config host.channelAllocated with
  | some channel => exact absurd (transferStageAsync_flies runs (by rw [found]; rfl)).2 idle
  | none =>
    obtain ⟨_, _, rfl⟩ | ⟨_, _, _, _, _, found', _⟩ := transferStageAsync_cases runs
    · simp [phase, HostState.note, actionUrb]
    · simp [found] at found'

/-- What `HostSubmitAsyncRequest` makes of a request at the endpoint. -/
structure SubmitsAt (config : HostConfig) (urb : Fin maxUsbRequests) (address : Address)
    (host next : HostState) : Prop where
  slot : ControlSlot config next urb
  nextPID : next.nextPID = host.nextPID
  after : ∀ index, (next.stages index).urb = some urb → (next.stages index).endpoint = some address
  flies : (newChannel config host.channelAllocated).isSome → InFlight next urb

/-- The stage of a control transfer that is due is started, or no channel is free. -/
theorem transferStageAsync_control {isIn isStatus started : Bool} {original request : Request}
    {setup : SetupData} {address : Address} {state : Nat} {stages : List IssuedStage}
    (runs : transferStageAsync config hardware urb isIn isStatus host = some (started, next))
    (control : (config.endpoint address).type = .control)
    (idle : ¬ InFlight host urb) (waits : pending host urb = true)
    (endpoint : (host.requests urb).endpoint = some address)
    (stems : Stems original setup request)
    (due : Due original setup (host.nextPID address) request state stages)
    (staged : ControlStage setup request state (host.requests urb, isIn, isStatus))
    (ready : phase config host urb = some (.ready original stages)) :
    SubmitsAt config urb address host next := by
  obtain ⟨sameRequests, sameHeld, sameNext⟩ := transferStageAsync_keeps runs
  have waits' : pending next urb = true := by
    rw [pending, sameRequests, sameHeld]
    exact waits
  -- With a channel the phase is the next, without one it stays.
  have known : ∀ index, (next.stages index).urb = some urb →
      (next.stages index).endpoint = some address ∧ InPhase config next urb (next.stages index) := by
    intro index carries
    obtain ⟨channel, address', stage, endpoint', attached, rfl⟩ := transferStageAsync_only idle runs carries
    obtain rfl : address = address' := Option.some.inj (endpoint.symm.trans endpoint')
    obtain ⟨stems', rest, rfl, underWay⟩ := due.underWay stems staged attached
    obtain ⟨_, carried, stageEndpoint⟩ := transferStageDataAttach_fields attached
    obtain ⟨_, _, sameEndpoint⟩ := beginStage_fields stage
    have at_ : (beginStage stage).endpoint = some address :=
      sameEndpoint.trans (stageEndpoint.trans endpoint)
    let entered := (enterChannel channel index (beginStage stage) host).note [.issued urb ⟨isIn,
      endpointGetNextPID (host.nextPID address) isStatus, stage.bufferPointer, stage.transferSize⟩]
    have here : entered.stages index = beginStage stage := by
      simp [entered, HostState.note, enterChannel]
    constructor
    · rw [(startTransaction_same _ _ _ _).endpoint, here]
      exact at_
    · apply InPhase.startTransaction
      intro address' endpoint''
      rw [here, at_] at endpoint''
      obtain rfl : address = address' := Option.some.inj endpoint''
      rw [if_pos control, here]
      refine ⟨beginStage_split (isPeriodic_control control) attached, original, setup, rest, ?_, stems', ?_⟩
      · have log : history urb entered.log = history urb host.log ++ [.issued urb ⟨isIn,
            endpointGetNextPID (host.nextPID address) isStatus, stage.bufferPointer,
            stage.transferSize⟩] := by
          simp [entered, HostState.note, enterChannel, actionUrb]
        rw [phase_append log, ready]
        simp [follows]
      · obtain ⟨buffer, status⟩ := beginStage_buffer stage
        exact underWay.congr buffer status fun _ => rfl
  refine ⟨⟨?_, ?_, fun index carries => (known index carries).2⟩, sameNext,
    fun index carries => (known index carries).1, fun found => (transferStageAsync_flies runs found).2⟩
  · by_cases flies : InFlight next urb
    · obtain ⟨index, carries⟩ := flies
      obtain ⟨at_, inPhase⟩ := known index carries
      have running := inPhase address at_
      rw [if_pos control] at running
      obtain ⟨_, original', _, rest, running, _⟩ := running
      rw [running]
      rfl
    · rw [transferStageAsync_phase runs flies, ready]
      rfl
  · intro done
    exact absurd (done.symm.trans waits') (by decide)

theorem SubmitsAt.control {original : Request} {setup : SetupData} {address : Address} {state : Nat}
    {stages : List IssuedStage}
    (runs : hostSubmitAsyncRequest config hardware urb state host = some next)
    (control : (config.endpoint address).type = .control)
    (idle : ¬ InFlight host urb) (waits : pending host urb = true)
    (endpoint : (host.requests urb).endpoint = some address)
    (stems : Stems original setup (host.requests urb))
    (due : Due original setup (host.nextPID address) (host.requests urb) state stages)
    (ready : phase config host urb = some (.ready original stages)) :
    SubmitsAt config urb address host next := by
  have stems' : Stems original setup (submitted host urb) :=
    ⟨stems.setupData, stems.buffer, stems.bufLen, stems.positive, stems.own⟩
  have due' : Due original setup (host.nextPID address) (submitted host urb) state stages :=
    due.congr rfl rfl rfl
  -- The endpoint and the setup data are those of the request, so that the control stage is started.
  cases hostSubmitAsyncRequest_submits runs with
  | nothing address' setup' endpoint' type data stage =>
    obtain rfl : setup = setup' := Option.some.inj (stems.setupData.symm.trans data)
    have has := due'.hasStage
    rw [stage] at has
    cases has
  | control address' setup' request isIn isStatus started next endpoint' type data stage starts =>
    obtain rfl : setup = setup' := Option.some.inj (stems.setupData.symm.trans data)
    have staged := controlStage_iff.mp stage
    have here : (host.setRequest urb request).requests urb = request := by simp [HostState.setRequest]
    have sameEndpoint : request.endpoint = (host.requests urb).endpoint := staged.same.1
    have result : SubmitsAt config urb address (host.setRequest urb request) next := by
      refine transferStageAsync_control starts control idle ?_ ?_ stems' due' ?_ ready
      · exact (pending_setRequest sameEndpoint).trans waits
      · rw [here, sameEndpoint]
        exact endpoint
      · rw [here]
        exact staged
    exact ⟨result.slot, result.nextPID, result.after, result.flies⟩
  | other address' started middle endpoint' type starts =>
    obtain rfl : address = address' := Option.some.inj (endpoint.symm.trans endpoint')
    exact absurd control type

/-- Nothing that the protocol is about changes. -/
theorem ControlSlot.congr (slot : ControlSlot config host urb)
    (log : history urb next.log = history urb host.log) (requests : next.requests urb = host.requests urb)
    (held : next.held urb = host.held urb) (stages : next.stages = host.stages)
    (nextPID : next.nextPID = host.nextPID) : ControlSlot config next urb := by
  have samePhase : phase config next urb = phase config host urb := by rw [phase, log, phase]
  constructor
  · rw [samePhase]
    exact slot.keeps
  · rw [samePhase, pending, requests, held]
    exact slot.idle
  · intro index carries address endpoint
    rw [stages] at carries endpoint ⊢
    rw [samePhase, requests, nextPID]
    exact slot.stage index carries address endpoint

theorem transferStageAsync_other {isIn isStatus started : Bool} {address : Address}
    (runs : transferStageAsync config hardware urb isIn isStatus host = some (started, next))
    (elsewhere : (config.endpoint address).type ≠ .control)
    (idle : ¬ InFlight host urb) (waits : pending host urb = true)
    (endpoint : (host.requests urb).endpoint = some address)
    (ready : phase config host urb = some .other) :
    SubmitsAt config urb address host next := by
  obtain ⟨sameRequests, sameHeld, sameNext⟩ := transferStageAsync_keeps runs
  have waits' : pending next urb = true := by
    rw [pending, sameRequests, sameHeld]
    exact waits
  have samePhase : phase config next urb = some .other := by
    obtain ⟨_, _, rfl⟩ | ⟨_, channel, index, address', stage, _, _, _, _, rfl⟩ := transferStageAsync_cases runs
    · rw [← ready]
      simp [phase, HostState.note, actionUrb]
    · rw [phase, (startTransaction_sameSlots _ _ _ _).logs]
      simp only [HostState.note, enterChannel, history_append, history_single, actionUrb, if_true]
      rw [List.foldlM_append, ← phase, ready]
      rfl
  -- The only stage with the request is the one that is started.
  have known : ∀ index, (next.stages index).urb = some urb →
      (next.stages index).endpoint = some address := by
    intro index carries
    obtain ⟨channel, address', stage, endpoint', attached, rfl⟩ := transferStageAsync_only idle runs carries
    obtain rfl : address = address' := Option.some.inj (endpoint.symm.trans endpoint')
    obtain ⟨_, _, stageEndpoint⟩ := transferStageDataAttach_fields attached
    obtain ⟨_, _, sameEndpoint⟩ := beginStage_fields stage
    rw [(startTransaction_same _ _ _ _).endpoint]
    simpa [HostState.note, enterChannel] using sameEndpoint.trans (stageEndpoint.trans endpoint)
  refine ⟨⟨by rw [samePhase]; rfl, ?_, ?_⟩, sameNext, known,
    fun found => (transferStageAsync_flies runs found).2⟩
  · intro done
    exact absurd (done.symm.trans waits') (by decide)
  · intro index carries address' endpoint'
    obtain rfl : address = address' := Option.some.inj ((known index carries).symm.trans endpoint')
    rw [if_neg elsewhere]
    exact samePhase

/-- A transfer at another endpoint. -/
theorem SubmitsAt.elsewhere {address : Address} {state : Nat}
    (runs : hostSubmitAsyncRequest config hardware urb state host = some next)
    (elsewhere : (config.endpoint address).type ≠ .control)
    (idle : ¬ InFlight host urb) (waits : pending host urb = true)
    (endpoint : (host.requests urb).endpoint = some address)
    (ready : phase config host urb = some .other) :
    SubmitsAt config urb address host next := by
  cases hostSubmitAsyncRequest_submits runs with
  | nothing address' setup' endpoint' type data stage =>
    obtain rfl : address = address' := Option.some.inj (endpoint.symm.trans endpoint')
    exact absurd type elsewhere
  | control address' setup' request isIn isStatus started next endpoint' type data stage starts =>
    obtain rfl : address = address' := Option.some.inj (endpoint.symm.trans endpoint')
    exact absurd type elsewhere
  | other address' started middle endpoint' type starts =>
    obtain rfl : address = address' := Option.some.inj (endpoint.symm.trans endpoint')
    have here : ((host.setRequest urb (submitted host urb)).requests urb).endpoint = some address := by
      simpa [HostState.setRequest, submitted] using endpoint
    have waits' : pending (host.setRequest urb (submitted host urb)) urb = true :=
      (pending_setRequest (show (submitted host urb).endpoint = _ from rfl)).trans waits
    have result := transferStageAsync_other starts elsewhere idle waits' here ready
    cases started with
    | true => exact ⟨result.slot, result.nextPID, result.after, result.flies⟩
    | false =>
      refine ⟨result.slot.congr ?_ rfl rfl rfl rfl, result.nextPID, result.after, result.flies⟩
      simp [HostState.note, actionUrb]

/-! ## Stages leave their channels -/

theorem finishStage_phase {status : Int} {resultLen : Option (BitVec 32)} {messages : List HostAction}
    (silent : Silent messages) :
    phase config (finishStage channel index urb status resultLen messages host) urb =
      (phase config host urb).bind fun before => follows config before (.left urb (status == 1)) := by
  have log : history urb (finishStage channel index urb status resultLen messages host).log =
      history urb host.log ++ [.left urb (status == 1)] := by
    simp [history_silent silent, actionUrb]
  rw [phase_append log]
  congr
  funext before
  simp

/-- The caller is called. -/
theorem requestCallCompletionRoutine_own (own : Completion.Own (host.requests urb).completion)
    (runs : requestCallCompletionRoutine config hardware urb host = some next) :
    history urb next.log = history urb host.log ++ [.completed urb (host.requests urb).completion] ∧
      next.stages = host.stages ∧ next.nextPID = host.nextPID ∧ pending next urb = false := by
  rw [requestCallCompletionRoutine] at runs
  cases routine : (host.requests urb).completion.routine with
  | none => simp [routine] at runs
  | some routine' =>
    rw [routine] at runs
    cases routine' with
    | hostSubmitAsyncRequest => exact absurd routine own.2
    | transferComplete =>
      obtain rfl := Option.some.inj runs
      simp [HostState.note, HostState.setRequest, actionUrb, pending, freeRequest]
    | client address =>
      obtain rfl := Option.some.inj runs
      simp [HostState.note, actionUrb, pending]

/-- The request has been answered. -/
theorem ControlSlot.answered {before : TransferPhase} (own : Completion.Own (host.requests urb).completion)
    (idle : ¬ InFlight host urb) (at_ : phase config host urb = some before)
    (ends : follows config before (.completed urb (host.requests urb).completion) = some .idle)
    (runs : requestCallCompletionRoutine config hardware urb host = some next) :
    ControlSlot config next urb ∧ ¬ InFlight next urb ∧ next.nextPID = host.nextPID := by
  obtain ⟨log, stages, nextPID, done⟩ := requestCallCompletionRoutine_own own runs
  have idle' : ¬ InFlight next urb := by
    rintro ⟨index, carries⟩
    rw [stages] at carries
    exact idle ⟨index, carries⟩
  have ended : phase config next urb = some .idle := by
    rw [phase_append log, at_]
    simpa using ends
  refine ⟨⟨by rw [ended]; rfl, fun _ => ended, ?_⟩, idle', nextPID⟩
  intro index carries
  exact absurd ⟨index, carries⟩ idle'

/-- What becomes of a request whose stage leaves its channel. -/
structure LeavesAt (config : HostConfig) (urb : Fin maxUsbRequests) (address : Address)
    (host next : HostState) : Prop where
  slot : ControlSlot config next urb
  pids : next.nextPID = host.nextPID
  after : ∀ index, (next.stages index).urb = some urb → (next.stages index).endpoint = some address
  fresh : (config.endpoint address).type = .control → ¬ InFlight next urb →
    host.nextPID address = .setup

theorem UnderWay.completes {original : Request} {setup : SetupData} {pid : PID} {address : Address}
    {stage : TransferStageData} {stages : List IssuedStage} (control : (config.endpoint address).type = .control)
    (between : Between config host urb) (endpoint : (host.requests urb).endpoint = some address)
    (stems : Stems original setup (host.requests urb))
    (underWay : UnderWay original setup pid stage (host.requests urb) stages)
    (moves : stage.bufferPointer = .setup → pid = .setup → host.nextPID address = .data1)
    (resets : stage.statusStage = true → host.nextPID address = .setup)
    (ready : phase config host urb = some (.ready original stages))
    (found : (newChannel config host.channelAllocated).isSome)
    (runs : requestCallCompletionRoutine config hardware urb host = some next) :
    LeavesAt config urb address host next := by
  -- Behind the setup and the data stage the next one is submitted; the status stage answers.
  have continues : ∀ state, (host.requests urb).completion = nextStage state →
      Due original setup (host.nextPID address) (host.requests urb) state stages →
      LeavesAt config urb address host next := by
    intro state completion due
    rw [requestCallCompletionRoutine, completion] at runs
    have result := SubmitsAt.control runs control between.idle between.waits endpoint stems due ready
    exact ⟨result.slot, result.nextPID, result.after, fun _ idle => absurd (result.flies found) idle⟩
  cases underWay with
  | setup _ pointer status fresh completion due =>
    apply continues 1 completion
    rw [moves pointer fresh]
    exact due
  | data _ pointer status completion due =>
    apply continues 2 completion
    cases due with
    | status full saved => exact .status full saved
  | status pointer status completion =>
    have own : Completion.Own (host.requests urb).completion := completion ▸ stems.own
    obtain ⟨slot, idle, nextPID⟩ := ControlSlot.answered own between.idle ready (by simp [follows, completion]) runs
    refine ⟨slot, nextPID, fun index carries => absurd ⟨index, carries⟩ idle, fun _ _ => resets status⟩

/-- At another endpoint the caller is called at once. -/
theorem LeavesAt.elsewhere {address : Address} (elsewhere : (config.endpoint address).type ≠ .control)
    (between : Between config host urb) (endpoint : (host.requests urb).endpoint = some address)
    (ready : phase config host urb = some .other)
    (runs : requestCallCompletionRoutine config hardware urb host = some next) :
    LeavesAt config urb address host next := by
  have own : Completion.Own (host.requests urb).completion := by
    obtain ⟨own, more⟩ := between.continues
    by_cases routine : (host.requests urb).completion.routine = some .hostSubmitAsyncRequest
    · obtain ⟨_, address', _, endpoint', type, _⟩ := more routine
      obtain rfl : address = address' := Option.some.inj (endpoint.symm.trans endpoint')
      exact absurd type elsewhere
    · rwa [caller, if_neg routine] at own
  obtain ⟨slot, idle, nextPID⟩ := ControlSlot.answered own between.idle ready rfl runs
  exact ⟨slot, nextPID, fun index carries => absurd ⟨index, carries⟩ idle,
    fun control => absurd control elsewhere⟩

/-! ## Interrupts -/

theorem ControlInv.of_eq (inv : ControlInv config host)
    (logs : ∀ urb, history urb next.log = history urb host.log) (requests : next.requests = host.requests)
    (held : next.held = host.held) (stages : next.stages = host.stages)
    (nextPID : next.nextPID = host.nextPID) : ControlInv config next := by
  constructor
  · intro urb
    exact (inv.slots urb).congr (logs urb) (by rw [requests]) (by rw [held]) stages nextPID
  · simp only [StageAt, stages]
    exact inv.single
  · simp only [StageAt, stages, nextPID]
    exact inv.ready

/-- The endpoint of a request that is under way. -/
theorem SlotInv.stage_endpoint (slot : SlotInv config host urb)
    (carries : (host.stages index).urb = some urb) : ∃ address, (host.stages index).endpoint = some address ∧
      (host.requests urb).endpoint = some address ∧
      ∀ index', (host.stages index').urb = some urb → (host.stages index').endpoint = some address := by
  have waits := slot.waits ⟨index, carries⟩
  simp only [pending, Bool.and_eq_true] at waits
  obtain ⟨address, endpoint⟩ := Option.isSome_iff_exists.mp waits.1
  refine ⟨address, (slot.endpoint index carries).trans endpoint, endpoint, ?_⟩
  intro index' carries'
  exact (slot.endpoint index' carries').trans endpoint

/-- A stage is changed, but not the endpoint that it is at. -/
theorem ControlInv.setStage {stage : TransferStageData} {pid : PID} {address : Address}
    (inv : ControlInv config host) (slots : SlotsInv config host)
    (carries : (host.stages index).urb = some urb)
    (endpoint : (host.stages index).endpoint = some address)
    (channel : stage.channel = (host.stages index).channel)
    (sameUrb : stage.urb = (host.stages index).urb)
    (sameEndpoint : stage.endpoint = (host.stages index).endpoint)
    (inPhase : InPhase config { host.setStage index stage with
      nextPID := Function.update host.nextPID address pid } urb stage) :
    ControlInv config { host.setStage index stage with
      nextPID := Function.update host.nextPID address pid } := by
  let moved : HostState :=
    { host.setStage index stage with nextPID := Function.update host.nextPID address pid }
  have here : moved.stages index = stage := by simp [moved, HostState.setStage]
  have same : SameSlots host moved :=
    .of_eq (.trans (.setStage channel sameUrb sameEndpoint) (.of_eq rfl rfl rfl)) rfl rfl rfl
  obtain ⟨address', endpoint', _, only⟩ := (slots urb).stage_endpoint carries
  obtain rfl : address = address' := Option.some.inj (endpoint.symm.trans endpoint')
  have set := @setStage_frame host urb index stage carries sameUrb
  have event : AtEndpoint config urb address host moved := by
    refine ⟨⟨set.requests, set.held, set.carries, set.stages, set.logs⟩, ?_, ?_, only, ?_⟩
    · intro address' ne
      simp [moved, ne]
    · exact fun control => inv.alone carries endpoint control
    · intro index' carries'
      rw [same.urb] at carries'
      rw [same.toSamePools.endpoint]
      exact only index' carries'
  have flies : InFlight moved urb := ⟨index, by rw [here]; exact sameUrb.trans carries⟩
  apply inv.frame event (slots.congr same) _ (fun _ idle => absurd flies idle)
  constructor
  · exact (inv.slots urb).keeps
  · exact (inv.slots urb).idle
  · intro index' carries'
    rw [same.urb] at carries'
    rw [(slots urb).single index' index carries' carries, here]
    exact inPhase

theorem ControlInv.startTransaction (inv : ControlInv config host) (slots : SlotsInv config host)
    (carries : (host.stages index).urb = some urb) :
    ControlInv config (Usb.startTransaction config hardware index host) := by
  have same := startTransaction_sameSlots config hardware index host
  obtain ⟨address, endpoint, _, only⟩ := (slots urb).stage_endpoint carries
  have event : AtEndpoint config urb address host (Usb.startTransaction config hardware index host) := by
    refine ⟨startTransaction_frame config hardware carries, ?_, ?_, only, ?_⟩
    · intro address' _
      rw [startTransaction_nextPID]
    · exact fun control => inv.alone carries endpoint control
    · intro index' carries'
      rw [same.urb] at carries'
      rw [same.toSamePools.endpoint]
      exact only index' carries'
  have flies : InFlight (Usb.startTransaction config hardware index host) urb :=
    same.inFlight.mpr ⟨index, carries⟩
  apply inv.frame event (slots.congr same) _ (fun _ idle => absurd flies idle)
  have samePhase : phase config (Usb.startTransaction config hardware index host) urb =
      phase config host urb := by rw [phase, same.logs, phase]
  constructor
  · rw [samePhase]
    exact (inv.slots urb).keeps
  · rw [samePhase, pending, same.requests, same.held]
    exact (inv.slots urb).idle
  · intro index' carries'
    rw [same.urb] at carries'
    rw [(slots urb).single index' index carries' carries]
    exact ((inv.slots urb).stage index carries).startTransaction

/-- A request leaves its channel, and is submitted again or answered. -/
theorem ControlInv.leaves {finished : HostState} {address : Address} (inv : ControlInv config host)
    (slots : SlotsInv config host) (slots' : SlotsInv config next) (frame : Frame urb host next)
    (carries : (host.stages index).urb = some urb)
    (endpoint : (host.stages index).endpoint = some address)
    (pids : ∀ address' ≠ address, finished.nextPID address' = host.nextPID address')
    (leaves : LeavesAt config urb address finished next) : ControlInv config next := by
  obtain ⟨address', endpoint', _, only⟩ := (slots urb).stage_endpoint carries
  obtain rfl : address = address' := Option.some.inj (endpoint.symm.trans endpoint')
  have event : AtEndpoint config urb address host next := by
    refine ⟨frame, ?_, fun control => inv.alone carries endpoint control, only, leaves.after⟩
    intro address' ne
    rw [leaves.pids]
    exact pids address' ne
  apply inv.frame event slots' leaves.slot
  intro control idle
  rw [leaves.pids]
  exact leaves.fresh control idle

/-- A stage that leaves its channel without a call leaves the request behind. -/
theorem LeavesAt.lost {address : Address} {before : TransferPhase} (between : Between config host urb)
    (at_ : phase config host urb = some before)
    (fresh : (config.endpoint address).type = .control → host.nextPID address = .setup) :
    LeavesAt config urb address host host := by
  refine ⟨⟨by rw [at_]; rfl, ?_, ?_⟩, rfl, ?_, fun control _ => fresh control⟩
  · intro done
    exact absurd (done.symm.trans between.waits) (by decide)
  · intro index carries
    exact absurd ⟨index, carries⟩ between.idle
  · intro index carries
    exact absurd ⟨index, carries⟩ between.idle

/-- Neither the status nor the result length matters to the stages that are left. -/
theorem UnderWay.request_congr {original request request' : Request} {setup : SetupData} {pid : PID}
    {stage : TransferStageData} {stages : List IssuedStage}
    (underWay : UnderWay original setup pid stage request stages)
    (zlb : request'.zlb = request.zlb) (saved : request'.saved = request.saved)
    (completion : request'.completion = request.completion) :
    UnderWay original setup pid stage request' stages := by
  cases underWay with
  | setup _ pointer status fresh called due =>
    exact .setup _ pointer status fresh (completion.trans called) (due.congr zlb saved completion)
  | data _ pointer status called due =>
    exact .data _ pointer status (completion.trans called) (due.congr zlb saved completion)
  | status pointer status called => exact .status pointer status (completion.trans called)

theorem UnderWay.kinds {original request : Request} {setup : SetupData} {pid : PID}
    {stage : TransferStageData} {stages : List IssuedStage}
    (underWay : UnderWay original setup pid stage request stages) (pointer : stage.bufferPointer = .setup) :
    stage.statusStage = false ∧ pid = .setup := by
  cases underWay with
  | setup _ _ status fresh => exact ⟨status, fresh⟩
  | data _ pointer' => simp [pointer'] at pointer
  | status pointer' => simp [pointer'] at pointer

theorem InPhase.control {address : Address} {stage : TransferStageData} {original : Request} {setup : SetupData}
    {stages : List IssuedStage} (endpoint : stage.endpoint = some address)
    (control : (config.endpoint address).type = .control) (split : SplitState stage)
    (running : phase config host urb = some (.running original stages))
    (stems : Stems original setup (host.requests urb))
    (underWay : UnderWay original setup (host.nextPID address) stage (host.requests urb) stages) :
    InPhase config host urb stage := by
  intro address' endpoint'
  obtain rfl : address = address' := Option.some.inj (endpoint.symm.trans endpoint')
  rw [if_pos control]
  exact ⟨split, original, setup, stages, running, stems, underWay⟩

theorem InPhase.elsewhere {address : Address} {stage : TransferStageData} (endpoint : stage.endpoint = some address)
    (other : (config.endpoint address).type ≠ .control) (isOther : phase config host urb = some .other) :
    InPhase config host urb stage := by
  intro address' endpoint'
  obtain rfl : address = address' := Option.some.inj (endpoint.symm.trans endpoint')
  rw [if_neg other]
  exact isOther

/-! ### The end of a transaction -/

/-- The host when a transaction is over: the stage has changed, and so has the next PID of the
    endpoint. -/
def transacted (index : Fin maxUsbRequests) (stage : TransferStageData) (address : Address) (pid : PID)
    (host : HostState) : HostState :=
  { host.setStage index stage with nextPID := Function.update host.nextPID address pid }

/-- A transaction of a request at an endpoint is ended. -/
structure Transacted (config : HostConfig) (host : HostState) (channel : Nat) (index urb : Fin maxUsbRequests)
    (address : Address) (stage : TransferStageData) : Prop where
  inv : ControlInv config host
  pools : PoolInv config host
  slots : SlotsInv config host
  has : host.stageData channel = some index
  carries : (host.stages index).urb = some urb
  endpoint : (host.stages index).endpoint = some address
  same : SameStage (host.stages index) stage

namespace Transacted

variable {address : Address} {stage after : TransferStageData} {pid : PID} {status : Int}
  {resultLen : Option (BitVec 32)} {messages : List HostAction}

theorem here : (transacted index stage address pid host).stages index = stage := by
  simp [transacted, HostState.setStage]

theorem sameSlots (ended : Transacted config host channel index urb address stage) :
    SameSlots host (transacted index stage address pid host) :=
  .of_eq (.trans (.setStage ended.same.channel ended.same.urb ended.same.endpoint) (.of_eq rfl rfl rfl)) rfl rfl rfl

theorem slotsInv (ended : Transacted config host channel index urb address stage) :
    SlotsInv config (transacted index stage address pid host) :=
  ended.slots.congr ended.sameSlots

theorem stillCarries (ended : Transacted config host channel index urb address stage) :
    ((transacted index stage address pid host).stages index).urb = some urb :=
  here ▸ ended.same.urb.trans ended.carries

theorem frame (ended : Transacted config host channel index urb address stage) :
    Frame urb host (transacted index stage address pid host) := by
  have set := @setStage_frame host urb index stage ended.carries ended.same.urb
  exact ⟨set.requests, set.held, set.carries, set.stages, set.logs⟩

theorem requestEndpoint (ended : Transacted config host channel index urb address stage) :
    (host.requests urb).endpoint = some address :=
  ((ended.slots urb).endpoint index ended.carries).symm.trans ended.endpoint

/-- The stage stays in its channel. -/
theorem stays (ended : Transacted config host channel index urb address stage) (keeps : SameStage stage after)
    (inPhase : InPhase config (transacted index after address pid host) urb after) :
    ControlInv config ((transacted index stage address pid host).setStage index after) := by
  have again : (transacted index stage address pid host).setStage index after =
      transacted index after address pid host := by
    simp [transacted, HostState.setStage]
  have same := ended.same.trans keeps
  rw [again]
  exact ended.inv.setStage ended.slots ended.carries ended.endpoint same.channel same.urb same.endpoint inPhase

/-- The stage goes on with another transaction. -/
theorem goesOn (ended : Transacted config host channel index urb address stage) (keeps : SameStage stage after)
    (inPhase : InPhase config (transacted index after address pid host) urb after) :
    ControlInv config
      (startTransaction config hardware index ((transacted index stage address pid host).setStage index after)) := by
  have slots : SlotsInv config ((transacted index stage address pid host).setStage index after) := by
    rw [← @here host index address stage pid] at keeps
    exact ended.slotsInv.congr (.setStage keeps.channel keeps.urb keeps.endpoint)
  have carries : (((transacted index stage address pid host).setStage index after).stages index).urb = some urb := by
    simpa [HostState.setStage] using keeps.urb.trans (ended.same.urb.trans ended.carries)
  exact (ended.stays keeps inPhase).startTransaction slots carries

/-- The stage leaves its channel. -/
theorem between (ended : Transacted config host channel index urb address stage) (silent : Silent messages) :
    Between config (finishStage channel index urb status resultLen messages (transacted index stage address pid host)) urb :=
  ((ended.slotsInv urb).finishStage channel status resultLen silent ended.stillCarries).2

theorem finished_request : (finishStage channel index urb status resultLen messages
    (transacted index stage address pid host)).requests urb =
      { host.requests urb with status, resultLen := resultLen.getD (host.requests urb).resultLen } := by
  simp [finishStage, HostState.note, leaveChannel, HostState.setRequest, transacted, HostState.setStage]

theorem finished_pid : (finishStage channel index urb status resultLen messages
    (transacted index stage address pid host)).nextPID address = pid := by
  simp [finishStage, HostState.note, leaveChannel, HostState.setRequest, transacted]

theorem leaves (ended : Transacted config host channel index urb address stage) (slots : SlotsInv config next)
    (frame : Frame urb host next)
    (leaves : LeavesAt config urb address
      (finishStage channel index urb status resultLen messages (transacted index stage address pid host)) next) :
    ControlInv config next := by
  refine ended.inv.leaves ended.slots slots frame ended.carries ended.endpoint ?_ leaves
  intro address' ne
  simp [finishStage, HostState.note, leaveChannel, HostState.setRequest, transacted, ne]

variable {original : Request} {setup : SetupData} {stages : List IssuedStage}

/-- A stage of a control transfer has succeeded, and the request goes on to the next one or is
    answered. -/
theorem succeeds (ended : Transacted config host channel index urb address stage)
    (control : (config.endpoint address).type = .control)
    (running : phase config host urb = some (.running original stages))
    (stems : Stems original setup (host.requests urb))
    (underWay : UnderWay original setup (host.nextPID address) (host.stages index) (host.requests urb) stages)
    (moves : (host.stages index).bufferPointer = .setup → host.nextPID address = .setup → pid = .data1)
    (resets : (host.stages index).statusStage = true → pid = .setup)
    (runs : requestCallCompletionRoutine config hardware urb
      (finishStage channel index urb 1 resultLen [] (transacted index stage address pid host)) = some next) :
    LeavesAt config urb address
      (finishStage channel index urb 1 resultLen [] (transacted index stage address pid host)) next := by
  have silent : Silent [] := nofun
  have same : phase config (transacted index stage address pid host) urb = phase config host urb := rfl
  have request := @finished_request host urb index channel address stage pid 1 resultLen []
  have nextPID := @finished_pid host urb index channel address stage pid 1 resultLen []
  have ready : phase config (finishStage channel index urb 1 resultLen [] (transacted index stage address pid host)) urb =
      some (.ready original stages) := by
    rw [finishStage_phase silent, same, running]
    rfl
  have moved : SameSlots host (transacted index stage address pid host) := ended.sameSlots
  have found := @finishStage_channel config _ urb index channel (ended.pools.congr moved.toSamePools) ended.has
    1 resultLen []
  -- The request is the same but for its status, and the endpoint has the PID behind the stage.
  have stems' : Stems original setup ((finishStage channel index urb 1 resultLen []
      (transacted index stage address pid host)).requests urb) := by
    rw [request]
    exact ⟨stems.setupData, stems.buffer, stems.bufLen, stems.positive, stems.own⟩
  have underWay' : UnderWay original setup (host.nextPID address) (host.stages index)
      ((finishStage channel index urb 1 resultLen [] (transacted index stage address pid host)).requests urb) stages := by
    rw [request]
    exact underWay.request_congr rfl rfl rfl
  refine UnderWay.completes control (ended.between silent) ?_ stems' underWay' ?_ ?_ ready found runs
  · rw [request]
    exact ended.requestEndpoint
  · intro pointer fresh
    rw [nextPID]
    exact moves pointer fresh
  · intro isStatus
    rw [nextPID]
    exact resets isStatus

/-- A stage has failed, and the request is left behind. -/
theorem fails (ended : Transacted config host channel index urb address stage) (silent : Silent messages)
    (running : phase config host urb = some (.running original stages)) (failed : status ≠ 1) (fresh : pid = .setup) :
    LeavesAt config urb address
      (finishStage channel index urb status resultLen messages (transacted index stage address pid host))
      (finishStage channel index urb status resultLen messages (transacted index stage address pid host)) := by
  have same : phase config (transacted index stage address pid host) urb = phase config host urb := rfl
  have left : phase config (finishStage channel index urb status resultLen messages
      (transacted index stage address pid host)) urb = some (.failed original) := by
    rw [finishStage_phase silent, same, running]
    simp [follows, failed]
  refine LeavesAt.lost (ended.between silent) left ?_
  intro _
  rw [finished_pid]
  exact fresh

/-- At another endpoint the caller is called, or the request is left behind. -/
theorem leavesElsewhere (ended : Transacted config host channel index urb address stage) (silent : Silent messages)
    (other : (config.endpoint address).type ≠ .control) (isOther : phase config host urb = some .other)
    {complete : Bool}
    (applies : applyNext config hardware channel index urb (transacted index stage address pid host)
      (.leave status resultLen complete messages) = some next) :
    LeavesAt config urb address
      (finishStage channel index urb status resultLen messages (transacted index stage address pid host)) next := by
  have same : phase config (transacted index stage address pid host) urb = phase config host urb := rfl
  have left : phase config (finishStage channel index urb status resultLen messages
      (transacted index stage address pid host)) urb = some .other := by
    rw [finishStage_phase silent, same, isOther]
    rfl
  cases complete with
  | true =>
    refine LeavesAt.elsewhere other (ended.between silent) ?_ left applies
    rw [finished_request]
    exact ended.requestEndpoint
  | false =>
    obtain rfl := Option.some.inj applies
    exact LeavesAt.lost (ended.between silent) left fun control => absurd control other

end Transacted

theorem ControlInv.transaction {status packetsLeft bytesLeft : BitVec 32} {address : Address}
    {stage : TransferStageData} {pid : PID} (inv : ControlInv config host) (pools : PoolInv config host)
    (slots : SlotsInv config host) (slots' : SlotsInv config next)
    (has : host.stageData channel = some index) (carries : (host.stages index).urb = some urb)
    (endpoint : (host.stages index).endpoint = some address)
    (outcome : (config.endpoint address).type = .control → Outcome (host.stages index) status packetsLeft)
    (completes : transactionComplete status packetsLeft bytesLeft (host.stages index)
      (host.nextPID address) = (stage, pid))
    (applies : applyNext config hardware channel index urb
      (transacted index stage address pid host)
      (stageNext (config.endpoint address) stage) = some next) : ControlInv config next := by
  obtain ⟨same, _⟩ := transactionComplete_same completes
  have ended : Transacted config host channel index urb address stage :=
    ⟨inv, pools, slots, has, carries, endpoint, same⟩
  have keeps := stageNext_keeps (config.endpoint address) stage
  have silent := stageNext_silent (config.endpoint address) stage
  have frame : Frame urb host next := by
    apply ended.frame.trans
    apply applyNext_frame ended.stillCarries _ silent applies
    rw [Transacted.here]
    exact keeps
  have inPhase := (inv.slots urb).stage index carries address endpoint
  split at inPhase
  -- On a control endpoint what comes next depends on the kind of the stage.
  next control =>
    obtain ⟨split, original, setup, stages, running, stems, underWay⟩ := inPhase
    have ends := stageNext_ends (isPeriodic_control control) split (outcome control)
      (fun pointer => (underWay.kinds pointer).1) completes
    generalize stageNext (config.endpoint address) stage = following at ends applies keeps silent
    cases ends with
    | goesOn after splitAfter kept =>
      obtain rfl := Option.some.inj applies
      have same' := same.trans keeps
      have nextPID : (transacted index after address pid host).nextPID address = pid := Function.update_self ..
      refine ended.goesOn keeps (.control (same'.endpoint.trans endpoint) control splitAfter running stems ?_)
      rw [nextPID]
      exact underWay.congr same'.bufferPointer same'.statusStage kept
    | succeeds resultLen moves resets =>
      exact ended.leaves slots' frame (ended.succeeds control running stems underWay moves resets applies)
    | fails status messages pointer kept failed =>
      obtain rfl := Option.some.inj applies
      exact ended.leaves slots' frame (ended.fails silent running failed (kept.trans (underWay.kinds pointer).2))
  -- Elsewhere nothing is promised, but the stage has to stay with its request.
  next other =>
    generalize stageNext (config.endpoint address) stage = following at applies keeps silent
    have stillOther : ∀ after, SameStage stage after →
        InPhase config (transacted index after address pid host) urb after := by
      intro after keeps
      exact .elsewhere ((same.trans keeps).endpoint.trans endpoint) other inPhase
    cases following with
    | transaction after =>
      obtain rfl := Option.some.inj applies
      exact ended.goesOn keeps (stillOther after keeps)
    | delay after =>
      obtain rfl := Option.some.inj applies
      exact (ended.stays keeps (stillOther after keeps)).of_eq (fun _ => rfl) rfl rfl rfl rfl
    | leave status resultLen complete messages =>
      exact ended.leaves slots' frame (ended.leavesElsewhere silent other inPhase applies)
    | nothing =>
      obtain rfl := Option.some.inj applies
      exact inv.setStage slots carries endpoint same.channel same.urb same.endpoint
        (stillOther stage ⟨rfl, rfl, rfl, rfl, rfl, rfl, rfl⟩)

/-! ## Runs -/

/-- What the driver is ready for: control requests with data in that ask for some, one
    at a time at an endpoint, and outcomes of their stages that it is ready for. -/
def Obeyed (config : HostConfig) (host : HostState) : HostEvent × Hardware → Prop
  | (.control endpoint setup _ _ _, _) =>
    findRequest host.requests = none ∨
      ((config.endpoint endpoint).type = .control →
        (DataIn setup → setup.length ≠ 0) ∧ ∀ index, ¬ StageAt host endpoint index)
  | (.transfer _ _ _ _, _) => True
  | (.resubmit urb _ _ _ _ _ _, _) => host.held urb = true
  | (.free urb, _) => host.held urb = true
  | (.interrupt channel status packetsLeft _, _) =>
    ∀ index ∈ host.stageData channel, ∀ address ∈ (host.stages index).endpoint,
      (config.endpoint address).type = .control →
      (host.stages index).subState = .waitForTransactionComplete → status ≠ hcIntChHltd →
      Outcome (host.stages index) status packetsLeft
  | (.interval _, _) => True

theorem Obeyed.owns {event : HostEvent × Hardware} (obeyed : Obeyed config host event) :
    Owns host event := by
  obtain ⟨event, hardware⟩ := event
  cases event with
  | control | transfer | interrupt | interval => trivial
  | resubmit => exact obeyed
  | free => exact obeyed

/-- A request that is submitted at a control endpoint is one with setup data, and the
    only one there. -/
def Proper (config : HostConfig) (host : HostState) (request : Request) (address : Address) : Prop :=
  (config.endpoint address).type = .control → ∀ setup, request.setupData = some setup →
    (DataIn setup → request.bufLen ≠ 0) ∧ ∀ index, ¬ StageAt host address index

/-- A request is attached and submitted. -/
theorem ControlInv.submit {request : Request} {address : Address} (inv : ControlInv config host)
    (slots : SlotsInv config host) (slots' : SlotsInv config next) (done : pending host urb = false)
    (endpoint : request.endpoint = some address) (own : Completion.Own request.completion)
    (full : request.zlb = false) (proper : Proper config host request address)
    (runs : submitRequest config hardware urb request (dropHeld urb host) = some next) :
    ControlInv config next := by
  let attached := attachRequest urb request (dropHeld urb host)
  have submits : hostSubmitAsyncRequest config hardware urb 0 attached = some next := runs
  obtain ⟨_, ready⟩ := slots.attached done (by rw [endpoint]; rfl) own
  have here : attached.requests urb = request := attachRequest_requests urb request _
  have here' : (attached.requests urb).endpoint = some address := here ▸ endpoint
  have frame : Frame urb host next :=
    (attachRequest_frame urb request host).trans (hostSubmitAsyncRequest_frame submits)
  have idle := ((slots urb).settled done).1
  have log : history urb attached.log = history urb host.log ++ [.submitted urb request] := by
    simp [attached, attachRequest, dropHeld, HostState.note, HostState.setRequest, actionUrb]
  have phased : phase config attached urb = follows config .idle (.submitted urb request) := by
    rw [phase_append log, (inv.slots urb).idle done]
    simp
  have event : SubmitsAt config urb address attached next → (∀ control :
      (config.endpoint address).type = .control, ∀ index, ¬ StageAt host address index) →
      ControlInv config next := by
    intro result unused
    have at_ : AtEndpoint config urb address host next := by
      refine ⟨frame, ?_, ?_, ?_, result.after⟩
      · intro address' _
        rw [result.nextPID]
        rfl
      · intro control index other _ carries endpoint'
        exact unused control index ⟨by rw [carries]; rfl, endpoint'⟩
      · intro index carries
        exact absurd ⟨index, carries⟩ idle
    apply inv.frame at_ slots' result.slot
    intro control _
    rw [result.nextPID]
    exact inv.ready address control (unused control)
  by_cases control : (config.endpoint address).type = .control
  · have isControl' : isControl config request = true := by simp [isControl, endpoint, control]
    cases data : request.setupData with
    | none =>
      -- The driver would read the setup data through a null pointer.
      cases hostSubmitAsyncRequest_submits submits with
      | nothing _ _ _ _ data' => simp [here, data] at data'
      | control _ _ _ _ _ _ _ _ _ data' => simp [here, data] at data'
      | other address' _ _ endpoint' type =>
        obtain rfl : address = address' := Option.some.inj (here'.symm.trans endpoint')
        exact absurd control type
    | some setup =>
      obtain ⟨positive, unused⟩ := proper control setup data
      have stems : Stems request setup (attached.requests urb) := by
        rw [here]
        exact ⟨data, rfl, rfl, positive, own⟩
      have due : Due request setup (attached.nextPID address) (attached.requests urb) 0
          (controlStages request setup) := by
        rw [here]
        exact .first (inv.ready address control unused) full rfl
      have started : phase config attached urb = some (.ready request (controlStages request setup)) := by
        rw [phased]
        simp [follows, isControl', data]
      exact event (.control submits control ready.idle ready.waits here' stems due started) fun _ => unused
  · refine event (SubmitsAt.elsewhere submits control ready.idle ready.waits here' (phased.trans ?_))
      fun control' => absurd control' control
    have isOther : isControl config request = false := by simp [isControl, endpoint, control]
    simp [follows, isOther]

theorem ControlInv.free (inv : ControlInv config host) (held : host.held urb = true) :
    ControlInv config (dropHeld urb (host.setRequest urb (freeRequest (host.requests urb)))) := by
  have frame : Frame urb host (dropHeld urb (host.setRequest urb (freeRequest (host.requests urb)))) :=
    .trans (.setRequest _) (dropHeld_frame urb _)
  have idle := (inv.slots urb).idle (by simp [pending, held])
  refine ⟨?_, inv.single, inv.ready⟩
  intro other
  by_cases ne : other = urb
  · subst ne
    refine ⟨(inv.slots other).keeps, fun _ => idle, ?_⟩
    intro index carries address endpoint
    have known := (inv.slots other).stage index carries address endpoint
    split at known
    next =>
      obtain ⟨_, _, _, _, running, _⟩ := known
      rw [idle] at running
      cases running
    next =>
      rw [idle] at known
      cases known
  · exact (inv.slots other).congr rfl (frame.requests other ne) (frame.held other ne) rfl rfl

/-- Both calls make requests that are new. -/
theorem HostEvent.request_full {event : HostEvent} {request : Request}
    (calls : HostEvent.request event = some request) : request.zlb = false := by
  cases event with
  | control | transfer =>
    obtain rfl := Option.some.inj calls
    rfl
  | resubmit | free | interrupt | interval => cases calls

theorem Obeyed.proper {event : HostEvent} {request : Request} {address : Address}
    (obeyed : Obeyed config host (event, hardware)) (calls : HostEvent.request event = some request)
    (found : findRequest host.requests = some urb) (endpoint : request.endpoint = some address) :
    Proper config host request address := by
  cases event with
  | control endpoint' setup data complete param =>
    obtain rfl := Option.some.inj calls
    obtain rfl : endpoint' = address := Option.some.inj endpoint
    intro control setup' data'
    obtain rfl : setup = setup' := Option.some.inj data'
    obtain full | known := obeyed
    · simp [found] at full
    · obtain ⟨positive, unused⟩ := known control
      refine ⟨?_, unused⟩
      intro isIn zero
      apply positive isIn
      have value := congrArg BitVec.toNat zero
      simp only [requestSetCompletionRoutine, requestAttach, BitVec.toNat_setWidth] at value
      apply BitVec.eq_of_toNat_eq
      have small := setup.length.isLt
      simp at value ⊢
      omega
  | transfer endpoint' buffer bufSize complete =>
    obtain rfl := Option.some.inj calls
    intro _ setup data
    cases data
  | resubmit | free | interrupt | interval => cases calls

/-- Only periodic transfers wait for timers. -/
theorem ControlInv.interval {position : Nat} (inv : ControlInv config host) (slots : SlotsInv config host)
    (await : AwaitInv config False host) (expires : host.intervals[position]? = some index) :
    ControlInv config (stageInterval config hardware index
      { host with intervals := host.intervals.eraseIdx position }) := by
  obtain ⟨isDelayed, _⟩ := await.expires expires
  simp only [delayed, Bool.and_eq_true, beq_iff_eq] at isDelayed
  obtain ⟨carried, state⟩ := isDelayed
  obtain ⟨urb, carries⟩ := Option.isSome_iff_exists.mp carried
  obtain ⟨address, endpoint, _⟩ := (slots urb).stage_endpoint carries
  obtain ⟨sameChannel, sameUrb, sameEndpoint⟩ := beginStage_fields (host.stages index)
  let erased : HostState := { host with intervals := host.intervals.eraseIdx position }
  have slots' : SlotsInv config erased := slots.congr (.of_eq (.of_eq rfl rfl rfl) rfl rfl rfl)
  have inv' : ControlInv config erased := inv.of_eq (fun _ => rfl) rfl rfl rfl rfl
  have again : erased.setStage index (beginStage (host.stages index)) =
      { erased.setStage index (beginStage (host.stages index)) with
        nextPID := Function.update erased.nextPID address (erased.nextPID address) } := by
    rw [Function.update_eq_self]
    rfl
  -- No stage of a control endpoint is in the state that waits for the timer.
  have begun : ControlInv config (erased.setStage index (beginStage (host.stages index))) := by
    rw [again]
    apply inv'.setStage slots' carries endpoint sameChannel sameUrb sameEndpoint
    intro address' endpoint'
    obtain rfl : address = address' :=
      Option.some.inj (endpoint.symm.trans (sameEndpoint.symm.trans endpoint'))
    have known := (inv.slots urb).stage index carries address endpoint
    split at known
    next =>
      obtain ⟨split, _⟩ := known
      cases split with
      | whole _ state' => simp [state'] at state
      | start _ _ state' => simp [state'] at state
      | complete _ _ state' => simp [state'] at state
    next elsewhere =>
      rw [if_neg elsewhere]
      exact known
  have begunSlots := slots'.congr (.setStage sameChannel sameUrb sameEndpoint)
  have carries' : ((erased.setStage index (beginStage (host.stages index))).stages index).urb = some urb := by
    simpa [HostState.setStage] using sameUrb.trans carries
  exact begun.startTransaction begunSlots carries'

theorem ControlInv.interrupt {status packetsLeft bytesLeft : BitVec 32} (inv : ControlInv config host)
    (pools : PoolInv config host) (slots : SlotsInv config host)
    (outcome : ∀ index ∈ host.stageData channel, ∀ address ∈ (host.stages index).endpoint,
      (config.endpoint address).type = .control →
      (host.stages index).subState = .waitForTransactionComplete → status ≠ hcIntChHltd →
      Outcome (host.stages index) status packetsLeft)
    (interrupts : Interrupts config hardware channel status packetsLeft bytesLeft host next) :
    ControlInv config next := by
  have slots' := slots.interrupt interrupts
  cases interrupts with
  | disabled index has =>
    obtain ⟨urb, carries⟩ := Option.isSome_iff_exists.mp (pools.attached channel index has).2
    exact inv.startTransaction slots carries
  | halted index has =>
    obtain ⟨urb, carries⟩ := Option.isSome_iff_exists.mp (pools.attached channel index has).2
    have noted : SameSlots host (host.note [.puts "Transaction halted, restarting."]) :=
      .note (by simp [Silent, actionUrb])
    have inv' := inv.of_eq noted.logs rfl rfl rfl rfl
    exact inv'.startTransaction (slots.congr noted) carries
  | transaction index urb address stage nextPID next has carries waits ended endpoint completes applies =>
    exact inv.transaction pools slots slots' has carries endpoint
      (fun control => outcome index has address endpoint control waits ended) completes applies

/-- What is kept in a run that the driver is ready for. -/
structure ObeyedInv (config : HostConfig) (host : HostState) : Prop where
  pools : PoolInv config host
  slots : SlotsInv config host
  await : AwaitInv config False host
  control : ControlInv config host

theorem ObeyedInv.step {event : HostEvent × Hardware} (inv : ObeyedInv config host)
    (obeyed : Obeyed config host event) (steps : hostStep config host event = some next) :
    ObeyedInv config next := by
  have slots := inv.slots.step obeyed.owns steps
  refine ⟨inv.pools.step steps, slots, inv.await.step inv.pools steps, ?_⟩
  cases hostStep_steps steps with
  | refused event hardware request text calls full =>
    exact inv.control.of_eq (fun _ => by simp [HostState.note, actionUrb]) rfl rfl rfl rfl
  | call event hardware urb request next calls found submits =>
    obtain ⟨done, same⟩ := inv.slots.found found
    obtain ⟨claimed, own⟩ := HostEvent.request_own calls
    obtain ⟨address, endpoint⟩ := Option.isSome_iff_exists.mp claimed
    exact inv.control.submit inv.slots slots done endpoint own (HostEvent.request_full calls)
      (obeyed.proper calls found endpoint) (same.symm ▸ submits)
  | resubmit hardware urb endpoint buffer bufLen complete param context next submits =>
    have held : host.held urb = true := obeyed
    refine inv.control.submit inv.slots slots (by simp [pending, held]) rfl
      ⟨rfl, by simp [resubmitted, requestSetCompletionRoutine]⟩ rfl ?_ submits
    intro _ setup data
    cases data
  | free hardware urb => exact inv.control.free obeyed
  | interrupt hardware channel status packetsLeft bytesLeft next enabled unmasked interrupts =>
    have masked : SameSlots host
        { host with interruptMask := Function.update host.interruptMask channel 0 } :=
      .of_eq (.of_eq rfl rfl rfl) rfl rfl rfl
    have inv' : ControlInv config
        { host with interruptMask := Function.update host.interruptMask channel 0 } :=
      inv.control.of_eq masked.logs rfl rfl rfl rfl
    exact inv'.interrupt (inv.pools.congr masked.toSamePools) (inv.slots.congr masked) obeyed interrupts
  | interval hardware position index expires => exact inv.control.interval inv.slots inv.await expires

/-- The driver after `HostEnable`, with the endpoints as they are set up. -/
def controlStart (config : HostConfig) : HostState :=
  hostStart fun address => startPID (config.endpoint address)

theorem controlStart_inv (config : HostConfig) : ControlInv config (controlStart config) := by
  have idle : ∀ urb index, ((controlStart config).stages index).urb ≠ some urb := by
    intro urb index carries
    cases carries
  refine ⟨?_, ?_, ?_⟩
  · intro urb
    exact ⟨rfl, fun _ => rfl, fun index carries => absurd carries (idle urb index)⟩
  · intro address _ first _ ⟨carried, _⟩
    cases carried
  · intro address control _
    exact if_pos control

/-- In a run that the driver is ready for, every request buffer keeps to the protocol
    of control transfers. -/
theorem hostController_controlTransfers (config : HostConfig) (events : List (HostEvent × Hardware))
    (host : HostState)
    (obeyed : Along (hostStep config) (Obeyed config) events (controlStart config))
    (run : events.foldlM (hostStep config) (controlStart config) = some host) (urb : Fin maxUsbRequests) :
    (phase config host urb).isSome := by
  have start : ObeyedInv config (controlStart config) :=
    ⟨hostStart_poolInv _, hostStart_slotsInv _, hostStart_awaitInv _, controlStart_inv config⟩
  have inv : ObeyedInv config host :=
    obeyed.reached (ObeyedInv config) start (fun _ _ inv obeyed _ steps => inv.step obeyed steps) run
  exact (inv.control.slots urb).keeps

instance (stage : TransferStageData) (status packetsLeft : BitVec 32) :
    Decidable (Outcome stage status packetsLeft) :=
  match state : stage.state with
  | .noSplitTransfer =>
    decidable_of_iff (if anySet status hcIntErrorMask then stage.bufferPointer = .setup
      else anySet status (hcIntNak ||| hcIntNyet) = false) (by rw [Outcome, state])
  | .startSplit =>
    decidable_of_iff (anySet status (hcIntErrorMask ||| hcIntNak ||| hcIntNyet) = false)
      (by rw [Outcome, state])
  | .completeSplit =>
    decidable_of_iff (anySet status hcIntErrorMask = false ∧
      if anySet status (hcIntNak ||| hcIntNyet) then
        stage.packets ≠ 0 ∨ stage.bufferPointer ≠ .setup ∧ stage.statusStage = false
      else stage.bufferPointer = .setup →
        anySet status hcIntXferComp = true ∧ packetsMoved packetsLeft stage = stage.packets)
      (by rw [Outcome, state])
  | .periodicDelay => isTrue (by rw [Outcome, state]; trivial)
  | .unknown => isTrue (by rw [Outcome, state]; trivial)

instance (host : HostState) (address : Address) (index : Fin maxUsbRequests) :
    Decidable (StageAt host address index) :=
  inferInstanceAs (Decidable (_ ∧ _))

instance (host : HostState) : ∀ event, Decidable (Obeyed config host event)
  | (.control endpoint _ _ _ _, _) =>
    inferInstanceAs (Decidable (_ ∨ (_ → (_ → _) ∧ ∀ index, ¬ StageAt host endpoint index)))
  | (.transfer _ _ _ _, _) => inferInstanceAs (Decidable True)
  | (.resubmit _ _ _ _ _ _ _, _) => inferInstanceAs (Decidable (_ = _))
  | (.free _, _) => inferInstanceAs (Decidable (_ = _))
  | (.interrupt channel status packetsLeft _, _) =>
    inferInstanceAs (Decidable (∀ index ∈ host.stageData channel, ∀ address ∈ (host.stages index).endpoint,
      (config.endpoint address).type = .control →
      (host.stages index).subState = .waitForTransactionComplete → status ≠ hcIntChHltd →
      Outcome (host.stages index) status packetsLeft))
  | (.interval _, _) => inferInstanceAs (Decidable True)

def transferDone : BitVec 32 := hcIntXferComp ||| hcIntChHltd

def transactionError : BitVec 32 := hcIntChHltd ||| 0x80

/-- A descriptor is read, and then an address is set. -/
def descriptorThenAddress : List (HostEvent × Hardware) :=
  [(.control 100 getDescriptor (some 200) (some 300) 0, {}), (.interrupt 0 transferDone 0 0, {}),
    (.interrupt 0 transferDone 0 0, {}), (.interrupt 0 transferDone 0 0, {}), (.free firstSlot, {}),
    (.control 100 ⟨0, 5, 1, 0, 0⟩ none (some 304) 0, {}), (.interrupt 0 transferDone 0 0, {}),
    (.interrupt 0 transferDone 0 0, {})]

theorem hostController_controlTransfers_descriptorThenAddress :
    ∃ host, descriptorThenAddress.foldlM (hostStep rootHubHost) (controlStart rootHubHost) = some host ∧
      completions (history firstSlot host.log) =
        [⟨some (.client 300), 0, hostAddress⟩, ⟨some (.client 304), 0, hostAddress⟩] ∧
      (phase rootHubHost host firstSlot).isSome := by
  have called : (descriptorThenAddress.foldlM (hostStep rootHubHost) (controlStart rootHubHost)).map
      (fun host => completions (history firstSlot host.log)) =
        some [⟨some (.client 300), 0, hostAddress⟩, ⟨some (.client 304), 0, hostAddress⟩] := by decide
  obtain ⟨host, run, called⟩ := Option.map_eq_some_iff.mp called
  have obeyed : Along (hostStep rootHubHost) (Obeyed rootHubHost) descriptorThenAddress
      (controlStart rootHubHost) := by decide
  exact ⟨host, run, called,
    hostController_controlTransfers rootHubHost descriptorThenAddress host obeyed run firstSlot⟩

/-- The data stage fails, and the next request at the endpoint starts without a SETUP
    stage: with the PID `DATA1`, and with its data in place of the setup bytes. -/
theorem hostController_setup_skipped :
    ∃ host, [(HostEvent.control 100 getDescriptor (some 200) (some 300) 0, ({} : Hardware)),
        (.interrupt 0 transferDone 0 0, {}), (.interrupt 0 transactionError 0 0, {}),
        (.control 100 getDescriptor (some 200) (some 304) 0, {})].foldlM (hostStep rootHubHost)
          (controlStart rootHubHost) = some host ∧
      HostAction.issued secondSlot ⟨false, .data1, .data (some 200), 18⟩ ∈ host.log ∧
      ¬ (phase rootHubHost host secondSlot).isSome := by
  have skipped : ([(HostEvent.control 100 getDescriptor (some 200) (some 300) 0, ({} : Hardware)),
      (.interrupt 0 transferDone 0 0, {}), (.interrupt 0 transactionError 0 0, {}),
      (.control 100 getDescriptor (some 200) (some 304) 0, {})].foldlM (hostStep rootHubHost)
        (controlStart rootHubHost)).map (fun host =>
          (decide (HostAction.issued secondSlot ⟨false, .data1, .data (some 200), 18⟩ ∈ host.log),
            (phase rootHubHost host secondSlot).isSome)) = some (true, false) := by decide
  obtain ⟨host, run, facts⟩ := Option.map_eq_some_iff.mp skipped
  simp only [Prod.mk.injEq, decide_eq_true_eq] at facts
  exact ⟨host, run, facts.1, by simp [facts.2]⟩

end ComputerSystems.Verified
