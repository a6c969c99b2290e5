import ComputerSystems.Verified.ChannelPools

/-! # What the host controller does to one request

Every event is about one request, and leaves the others as they are (`Frame`): their
buffers, their stages, and what the log says about them.
-/

namespace ComputerSystems.Verified

open ComputerSystems.Usb ComputerSystems.System ComputerSystems.Data

variable {config : HostConfig} {hardware : Hardware} {host next : HostState}
  {urb other : Fin maxUsbRequests} {index : Fin maxUsbRequests} {channel : Nat}

/-! ## Histories -/

/-- The request that an action is about. -/
def actionUrb : HostAction → Option (Fin maxUsbRequests)
  | .submitted urb _ => some urb
  | .issued urb _ => some urb
  | .left urb _ => some urb
  | .completed urb _ => some urb
  | .puts _ => none
  | .printf _ _ => none

/-- What the log says about one request. -/
def history (urb : Fin maxUsbRequests) (log : List HostAction) : List HostAction :=
  log.filter fun action => actionUrb action = some urb

@[simp] theorem history_append (urb : Fin maxUsbRequests) (log actions : List HostAction) :
    history urb (log ++ actions) = history urb log ++ history urb actions :=
  List.filter_append ..

@[simp] theorem history_single (urb : Fin maxUsbRequests) (action : HostAction) :
    history urb [action] = if actionUrb action = some urb then [action] else [] := by
  simp [history, List.filter_singleton]

/-- Actions that are about no request. -/
def Silent (actions : List HostAction) : Prop := ∀ action ∈ actions, actionUrb action = none

theorem history_silent {actions : List HostAction} (silent : Silent actions) :
    history urb actions = [] := by
  apply List.filter_eq_nil_iff.mpr
  intro action member
  simp [silent action member]

/-- The completion routines with which requests were submitted. -/
def submissions (actions : List HostAction) : List Completion :=
  actions.filterMap fun action =>
    match action with
    | .submitted _ request => some request.completion
    | _ => none

/-- The completion routines that were called. -/
def completions (actions : List HostAction) : List Completion :=
  actions.filterMap fun action =>
    match action with
    | .completed _ completion => some completion
    | _ => none

@[simp] theorem submissions_append (past actions : List HostAction) :
    submissions (past ++ actions) = submissions past ++ submissions actions :=
  List.filterMap_append

@[simp] theorem completions_append (past actions : List HostAction) :
    completions (past ++ actions) = completions past ++ completions actions :=
  List.filterMap_append

/-! ## Frames -/

/-- A stage of the request is under way. -/
def InFlight (host : HostState) (urb : Fin maxUsbRequests) : Prop :=
  ∃ index, (host.stages index).urb = some urb

/-- Nothing of the other requests changes. -/
structure Frame (urb : Fin maxUsbRequests) (host next : HostState) : Prop where
  requests : ∀ other ≠ urb, next.requests other = host.requests other
  held : ∀ other ≠ urb, next.held other = host.held other
  carries : ∀ other ≠ urb, ∀ index,
    (next.stages index).urb = some other ↔ (host.stages index).urb = some other
  stages : ∀ other ≠ urb, ∀ index, (host.stages index).urb = some other →
    next.stages index = host.stages index
  logs : ∀ other ≠ urb, history other next.log = history other host.log

theorem Frame.refl (urb : Fin maxUsbRequests) (host : HostState) : Frame urb host host :=
  ⟨fun _ _ => rfl, fun _ _ => rfl, fun _ _ _ => Iff.rfl, fun _ _ _ _ => rfl, fun _ _ => rfl⟩

theorem Frame.trans {last : HostState} (first : Frame urb host next) (second : Frame urb next last) :
    Frame urb host last where
  requests other ne := (second.requests other ne).trans (first.requests other ne)
  held other ne := (second.held other ne).trans (first.held other ne)
  carries other ne index := (second.carries other ne index).trans (first.carries other ne index)
  stages other ne index carries :=
    (second.stages other ne index ((first.carries other ne index).mpr carries)).trans
      (first.stages other ne index carries)
  logs other ne := (second.logs other ne).trans (first.logs other ne)

theorem Frame.inFlight (frame : Frame urb host next) (ne : other ≠ urb) :
    InFlight next other ↔ InFlight host other := by
  simp only [InFlight, frame.carries other ne]

/-- The pools and the log change, but only for one request. -/
theorem Frame.of_stage (index : Fin maxUsbRequests) {stage : TransferStageData}
    (requests : next.requests = host.requests)
    (held : next.held = host.held) (stages : next.stages = Function.update host.stages index stage)
    (before : ∀ other ≠ urb, (host.stages index).urb ≠ some other)
    (after : ∀ other ≠ urb, stage.urb ≠ some other)
    (log : ∀ other ≠ urb, history other next.log = history other host.log) : Frame urb host next := by
  refine ⟨fun _ _ => by rw [requests], fun _ _ => by rw [held], ?_, ?_, log⟩
  · intro other ne index'
    by_cases here : index' = index
    · subst here
      simp [stages, before other ne, after other ne]
    · simp [stages, here]
  · intro other ne index' carries
    have here : index' ≠ index := fun same => before other ne (same ▸ carries)
    simp [stages, here]

theorem Frame.setRequest (request : Request) : Frame urb host (host.setRequest urb request) := by
  refine ⟨?_, fun _ _ => rfl, fun _ _ _ => Iff.rfl, fun _ _ _ _ => rfl, fun _ _ => rfl⟩
  intro other ne
  simp [HostState.setRequest, ne]

theorem Frame.note {actions : List HostAction}
    (about : ∀ action ∈ actions, ∀ other ≠ urb, actionUrb action ≠ some other) :
    Frame urb host (host.note actions) := by
  refine ⟨fun _ _ => rfl, fun _ _ => rfl, fun _ _ _ => Iff.rfl, fun _ _ _ _ => rfl, ?_⟩
  intro other ne
  have none : history other actions = [] := by
    apply List.filter_eq_nil_iff.mpr
    intro action member
    simpa using about action member other ne
  simp [HostState.note, none]

theorem Frame.silent {actions : List HostAction} (silent : Silent actions) :
    Frame urb host (host.note actions) :=
  .note fun action member other _ => by simp [silent action member]

/-! ## What keeps all requests as they are -/

/-- Nothing changes but the stages, and what these belong to stays. -/
structure SameSlots (host next : HostState) : Prop extends SamePools host next where
  requests : next.requests = host.requests
  held : next.held = host.held
  logs : ∀ urb, history urb next.log = history urb host.log

theorem SameSlots.inFlight (same : SameSlots host next) : InFlight next urb ↔ InFlight host urb := by
  simp only [InFlight, same.urb]

theorem SameSlots.setStage {stage : TransferStageData}
    (channel : stage.channel = (host.stages index).channel) (carries : stage.urb = (host.stages index).urb)
    (endpoint : stage.endpoint = (host.stages index).endpoint) :
    SameSlots host (host.setStage index stage) where
  toSamePools := .setStage channel carries endpoint
  requests := rfl
  held := rfl
  logs _ := rfl

theorem SameSlots.note {actions : List HostAction} (silent : Silent actions) :
    SameSlots host (host.note actions) where
  toSamePools := .note actions
  requests := rfl
  held := rfl
  logs urb := by simp [HostState.note, history_silent silent]

/-- Registers, timers and the PIDs of endpoints change. -/
theorem SameSlots.of_eq (pools : SamePools host next) (requests : next.requests = host.requests)
    (held : next.held = host.held) (log : next.log = host.log) : SameSlots host next :=
  ⟨pools, requests, held, fun _ => by rw [log]⟩

theorem startTransaction_sameSlots (config : HostConfig) (hardware : Hardware)
    (index : Fin maxUsbRequests) (host : HostState) :
    SameSlots host (startTransaction config hardware index host) := by
  have pools := startTransaction_same config hardware index host
  revert pools
  rw [startTransaction]
  split
  · intro pools
    refine ⟨pools, rfl, rfl, ?_⟩
    intro urb
    simp [HostState.setStage, actionUrb]
  · intro pools
    exact .of_eq pools rfl rfl rfl

/-! ## Frames of the driver's functions -/

theorem setStage_frame {stage : TransferStageData} (carries : (host.stages index).urb = some urb)
    (same : stage.urb = (host.stages index).urb) : Frame urb host (host.setStage index stage) := by
  refine .of_stage index rfl rfl rfl ?_ ?_ (fun _ _ => rfl)
  · intro other ne
    simpa [carries] using Ne.symm ne
  · intro other ne
    simpa [same, carries] using Ne.symm ne

theorem startTransaction_frame (config : HostConfig) (hardware : Hardware)
    (carries : (host.stages index).urb = some urb) :
    Frame urb host (startTransaction config hardware index host) := by
  have logs := (startTransaction_sameSlots config hardware index host).logs
  revert logs
  rw [startTransaction]
  split
  · intro logs
    have set := @setStage_frame host urb index
      { host.stages index with subState := .waitForChannelDisable } carries rfl
    exact ⟨set.requests, set.held, set.carries, set.stages, fun other _ => logs other⟩
  · intro logs
    have set := @setStage_frame host urb index
      { host.stages index with
        subState := .waitForTransactionComplete
        frameScheduler := (host.stages index).frameScheduler.map (.wait hardware.frame) } carries rfl
    exact ⟨set.requests, set.held, set.carries, set.stages, fun other _ => logs other⟩

@[simp] theorem finishStage_log (status : Int) (resultLen : Option (BitVec 32)) (messages : List HostAction) :
    (finishStage channel index urb status resultLen messages host).log =
      host.log ++ (messages ++ [.left urb (status == 1)]) := rfl

theorem finishStage_frame (status : Int) (resultLen : Option (BitVec 32)) {messages : List HostAction}
    (silent : Silent messages) (carries : (host.stages index).urb = some urb) :
    Frame urb host (finishStage channel index urb status resultLen messages host) := by
  refine .trans (.setRequest { host.requests urb with
    status, resultLen := resultLen.getD (host.requests urb).resultLen }) ?_
  refine .of_stage index rfl rfl rfl ?_ ?_ ?_
  · intro other ne
    simpa [HostState.setRequest, carries] using Ne.symm ne
  · intro other ne
    simp [transferStageDataRelease]
  · intro other ne
    simp [HostState.setRequest, history_silent silent, actionUrb, Ne.symm ne]

theorem newStageData_urb (found : newStageData host.stages = some index) :
    (host.stages index).urb = none := by
  have free := newStageData_some found
  simp only [TransferStageData.free, Bool.and_eq_true, Option.isNone_iff_eq_none] at free
  exact free.2

theorem enterChannel_frame {stage : TransferStageData} (carries : stage.urb = some urb)
    (found : newStageData host.stages = some index) (issued : IssuedStage) :
    Frame urb host ((enterChannel channel index stage host).note [.issued urb issued]) := by
  refine .of_stage index rfl rfl rfl ?_ ?_ ?_
  · intro other ne
    simp [newStageData_urb found]
  · intro other ne
    simpa [carries] using Ne.symm ne
  · intro other ne
    simp [HostState.note, enterChannel, actionUrb, Ne.symm ne]

theorem transferStageAsync_frame {isIn statusStage started : Bool}
    (runs : transferStageAsync config hardware urb isIn statusStage host = some (started, next)) :
    Frame urb host next := by
  obtain ⟨_, _, rfl⟩ | ⟨_, channel, index, address, stage, found, stageFound, endpoint, attached, rfl⟩ :=
    transferStageAsync_cases runs
  · exact .silent (by simp [Silent, actionUrb])
  · obtain ⟨_, carries, _⟩ := transferStageDataAttach_fields attached
    obtain ⟨_, sameUrb, _⟩ := beginStage_fields stage
    have carries' := sameUrb.trans carries
    refine .trans (enterChannel_frame carries' stageFound _) (startTransaction_frame _ _ ?_)
    simpa [HostState.note, enterChannel] using carries'

/-- A stage is started where a channel is found. -/
theorem transferStageAsync_flies {isIn statusStage started : Bool}
    (runs : transferStageAsync config hardware urb isIn statusStage host = some (started, next))
    (found : (newChannel config host.channelAllocated).isSome) :
    started = true ∧ InFlight next urb := by
  obtain ⟨_, full, _⟩ | ⟨started, channel, index, address, stage, _, stageFound, _, attached, rfl⟩ :=
    transferStageAsync_cases runs
  · simp [full] at found
  · obtain ⟨_, carries, _⟩ := transferStageDataAttach_fields attached
    obtain ⟨_, sameUrb, _⟩ := beginStage_fields stage
    refine ⟨started, index, ?_⟩
    rw [(startTransaction_same _ _ _ _).urb]
    simpa [HostState.note, enterChannel] using sameUrb.trans carries

theorem hostSubmitAsyncRequest_frame {state : Nat}
    (runs : hostSubmitAsyncRequest config hardware urb state host = some next) : Frame urb host next := by
  cases hostSubmitAsyncRequest_submits runs with
  | nothing => exact .setRequest _
  | control address setup request isIn statusStage started next endpoint type data stage starts =>
    exact .trans (.setRequest request) (transferStageAsync_frame starts)
  | other address started middle endpoint type starts =>
    refine .trans (.setRequest _) (.trans (transferStageAsync_frame starts) ?_)
    cases started with
    | true => exact .refl _ _
    | false => exact .silent (by simp [Silent, actionUrb])

theorem completed_about (completion : Completion) :
    ∀ action ∈ [HostAction.completed urb completion], ∀ other ≠ urb, actionUrb action ≠ some other := by
  intro action member other ne
  rw [List.mem_singleton] at member
  subst member
  simpa [actionUrb] using Ne.symm ne

theorem requestCallCompletionRoutine_frame
    (runs : requestCallCompletionRoutine config hardware urb host = some next) : Frame urb host next := by
  rw [requestCallCompletionRoutine] at runs
  cases routine : (host.requests urb).completion.routine with
  | none => simp [routine] at runs
  | some routine' =>
    rw [routine] at runs
    cases routine' with
    | hostSubmitAsyncRequest => exact hostSubmitAsyncRequest_frame runs
    | transferComplete =>
      obtain rfl := Option.some.inj runs
      exact .trans (.setRequest _) (.note (completed_about _))
    | client address =>
      obtain rfl := Option.some.inj runs
      have noted : Frame urb host (host.note [.completed urb (host.requests urb).completion]) :=
        .note (completed_about _)
      exact ⟨noted.requests, fun other ne => by simp [ne], noted.carries, noted.stages, noted.logs⟩

/-- The messages of a stage that leaves its channel are about no request. -/
def SilentNext : StageNext → Prop
  | .leave _ _ _ messages => Silent messages
  | .transaction _ | .delay _ | .nothing => True

theorem leaveCompleteSplit_silent (endpoint : Endpoint) (stage : TransferStageData) :
    SilentNext (leaveCompleteSplit endpoint stage) := by
  rw [leaveCompleteSplit]
  split
  · split
    · trivial
    · trivial
  · simp [SilentNext, Silent]

theorem nextSplit_silent (endpoint : Endpoint) (stage : TransferStageData) :
    SilentNext (nextSplit endpoint stage) := by
  rw [nextSplit]
  cases stage.frameScheduler with
  | none => trivial
  | some scheduler =>
    dsimp only
    split
    · trivial
    · exact leaveCompleteSplit_silent _ _

theorem stageNext_silent (endpoint : Endpoint) (stage : TransferStageData) :
    SilentNext (stageNext endpoint stage) := by
  rw [stageNext]
  cases stage.state with
  | noSplitTransfer =>
    dsimp only
    split
    · simp [SilentNext, Silent, actionUrb]
    · split
      · trivial
      · simp [SilentNext, Silent]
  | startSplit =>
    dsimp only
    split
    · simp [SilentNext, Silent, actionUrb]
    · exact nextSplit_silent _ _
  | completeSplit =>
    dsimp only
    split
    · simp [SilentNext, Silent, actionUrb]
    · exact nextSplit_silent _ _
  | periodicDelay => trivial
  | unknown => trivial

theorem applyNext_frame (carries : (host.stages index).urb = some urb)
    {following : StageNext} (keeps : KeepsStage (host.stages index) following)
    (silent : SilentNext following)
    (applies : applyNext config hardware channel index urb host following = some next) :
    Frame urb host next := by
  cases following with
  | transaction stage =>
    obtain rfl := Option.some.inj applies
    refine .trans (setStage_frame carries keeps.urb) (startTransaction_frame _ _ ?_)
    simpa [HostState.setStage] using keeps.urb.trans carries
  | delay stage =>
    obtain rfl := Option.some.inj applies
    have set := setStage_frame carries keeps.urb
    exact ⟨set.requests, set.held, set.carries, set.stages, set.logs⟩
  | leave status resultLen complete messages =>
    have finished : Frame urb host (finishStage channel index urb status resultLen messages host) :=
      finishStage_frame status resultLen silent carries
    cases complete with
    | true => exact finished.trans (requestCallCompletionRoutine_frame applies)
    | false =>
      obtain rfl := Option.some.inj applies
      exact finished
  | nothing =>
    obtain rfl := Option.some.inj applies
    exact .refl _ _

/-- A client gives up a request, if it has it. -/
def dropHeld (urb : Fin maxUsbRequests) (host : HostState) : HostState :=
  { host with held := Function.update host.held urb false }

theorem dropHeld_frame (urb : Fin maxUsbRequests) (host : HostState) : Frame urb host (dropHeld urb host) :=
  ⟨fun _ _ => rfl, fun other ne => by simp [dropHeld, ne], fun _ _ _ => Iff.rfl, fun _ _ _ _ => rfl,
    fun _ _ => rfl⟩

/-- A request as it is attached and logged. -/
def attachRequest (urb : Fin maxUsbRequests) (request : Request) (host : HostState) : HostState :=
  (host.setRequest urb request).note [.submitted urb request]

theorem attachRequest_requests (urb : Fin maxUsbRequests) (request : Request) (host : HostState) :
    (attachRequest urb request host).requests urb = request := by
  simp [attachRequest, HostState.note, HostState.setRequest]

theorem attachRequest_frame (urb : Fin maxUsbRequests) (request : Request) (host : HostState) :
    Frame urb host (attachRequest urb request (dropHeld urb host)) := by
  refine .trans (dropHeld_frame urb host) (.trans (.setRequest request) (.note ?_))
  intro action member other ne
  rw [List.mem_singleton] at member
  subst member
  simpa [actionUrb] using Ne.symm ne

/-! ## The stages of control transfers -/

/-- The completion that starts the stage behind the next one. -/
def nextStage (state : Nat) : Completion := ⟨some .hostSubmitAsyncRequest, hostAddress, state⟩

/-- The request sends data to the host. -/
def DataIn (setup : SetupData) : Prop := setup.requestType &&& requestIn ≠ 0

instance (setup : SetupData) : Decidable (DataIn setup) :=
  inferInstanceAs (Decidable (_ ≠ _))

/-- The stages of control transfers: in three stages with data in, in two without
    data, and in three with data out. -/
inductive ControlStage (setup : SetupData) (request : Request) : Nat → Request × Bool × Bool → Prop where
  | inSetup (isIn : DataIn setup) :
      ControlStage setup request 0
        ({ request with saved := request.completion, completion := nextStage 1 }, false, false)
  | inData (isIn : DataIn setup) :
      ControlStage setup request 1 ({ request with completion := nextStage 2 }, true, false)
  | inStatus (isIn : DataIn setup) :
      ControlStage setup request 2 ({ request with completion := request.saved }, false, true)
  | shortSetup (isOut : ¬ DataIn setup) (short : request.zlb = true ∨ request.bufLen = 0) :
      ControlStage setup request 0
        ({ request with saved := request.completion, zlb := true, completion := nextStage 1 }, false, false)
  | shortStatus (isOut : ¬ DataIn setup) (short : request.zlb = true) :
      ControlStage setup request 1 ({ request with completion := request.saved }, true, true)
  | outSetup (isOut : ¬ DataIn setup) (full : request.zlb = false) (long : request.bufLen ≠ 0) :
      ControlStage setup request 0
        ({ request with saved := request.completion, zlb := false, completion := nextStage 1 }, false, false)
  | outData (isOut : ¬ DataIn setup) (full : request.zlb = false) :
      ControlStage setup request 1 ({ request with completion := nextStage 2 }, false, false)
  | outStatus (isOut : ¬ DataIn setup) (full : request.zlb = false) :
      ControlStage setup request 2 ({ request with completion := request.saved }, true, true)

theorem controlStage_iff {setup : SetupData} {state : Nat} {request : Request} {staged : Request × Bool × Bool} :
    controlStage setup state request = some staged ↔ ControlStage setup request state staged := by
  constructor
  · intro stage
    unfold controlStage at stage
    split at stage
    next isIn =>
      split at stage
      · obtain rfl := Option.some.inj stage
        exact .inSetup isIn
      · obtain rfl := Option.some.inj stage
        exact .inData isIn
      · obtain rfl := Option.some.inj stage
        exact .inStatus isIn
      · cases stage
    next isOut =>
      split at stage
      next short =>
        simp only [Bool.or_eq_true, Bool.and_eq_true, beq_iff_eq] at short
        split at stage
        · obtain rfl := Option.some.inj stage
          exact .shortSetup isOut (short.imp_right And.right)
        · obtain rfl := Option.some.inj stage
          exact .shortStatus isOut (by simpa using short)
        · cases stage
      next full =>
        simp only [Bool.or_eq_true, Bool.and_eq_true, beq_iff_eq, not_or, not_and, Bool.not_eq_true] at full
        split at stage
        · obtain rfl := Option.some.inj stage
          exact .outSetup isOut full.1 (full.2 rfl)
        · obtain rfl := Option.some.inj stage
          exact .outData isOut full.1
        · obtain rfl := Option.some.inj stage
          exact .outStatus isOut full.1
        · cases stage
  · intro stage
    -- on the way back each case is one branch of the function
    cases stage with
    | inSetup isIn => exact if_pos isIn
    | inData isIn => exact if_pos isIn
    | inStatus isIn => exact if_pos isIn
    | shortSetup isOut short =>
      have short' : (request.zlb || ((0 : Nat) == 0 && request.bufLen == 0)) = true := by simpa using short
      exact (if_neg isOut).trans (if_pos short')
    | shortStatus isOut short =>
      have short' : (request.zlb || ((1 : Nat) == 0 && request.bufLen == 0)) = true := by simp [short]
      exact (if_neg isOut).trans (if_pos short')
    | outSetup isOut full long =>
      have full' : ¬ (request.zlb || ((0 : Nat) == 0 && request.bufLen == 0)) = true := by simpa [full] using long
      exact (if_neg isOut).trans (if_neg full')
    | outData isOut full =>
      have full' : ¬ (request.zlb || ((1 : Nat) == 0 && request.bufLen == 0)) = true := by simp [full]
      exact (if_neg isOut).trans (if_neg full')
    | outStatus isOut full =>
      have full' : ¬ (request.zlb || ((2 : Nat) == 0 && request.bufLen == 0)) = true := by simp [full]
      exact (if_neg isOut).trans (if_neg full')

theorem ControlStage.same {setup : SetupData} {state : Nat} {request after : Request}
    {isIn statusStage : Bool} (stage : ControlStage setup request state (after, isIn, statusStage)) :
    after.endpoint = request.endpoint ∧ after.setupData = request.setupData ∧
      after.buffer = request.buffer ∧ after.bufLen = request.bufLen := by
  cases stage <;> exact ⟨rfl, rfl, rfl, rfl⟩

theorem controlStage_isSome_congr {setup : SetupData} {state : Nat} {request request' : Request}
    (zlb : request'.zlb = request.zlb) (bufLen : request'.bufLen = request.bufLen) :
    (controlStage setup state request').isSome = (controlStage setup state request).isSome := by
  unfold controlStage
  rw [zlb, bufLen]
  grind

theorem controlStage_zero (setup : SetupData) (request : Request) :
    (controlStage setup 0 request).isSome := by
  rw [Option.isSome_iff_exists]
  by_cases isIn : DataIn setup
  · exact ⟨_, controlStage_iff.mpr (.inSetup isIn)⟩
  · by_cases short : request.zlb = true ∨ request.bufLen = 0
    · exact ⟨_, controlStage_iff.mpr (.shortSetup isIn short)⟩
    · obtain ⟨full, long⟩ := not_or.mp short
      exact ⟨_, controlStage_iff.mpr (.outSetup isIn (Bool.of_not_eq_true full) long)⟩

end ComputerSystems.Verified
