import ComputerSystems.Verified.RequestSlots
import ComputerSystems.Verified.StageWaits

/-! # Answers to requests

A request that is under way has a stage, and the stage is waited for.  A request is
lost in two ways only.  `HostSubmitAsyncRequest` does not look at whether a stage was
started, and a transaction without splits that fails leaves its channel without
calling the completion routine.
-/

namespace ComputerSystems.Verified

open ComputerSystems.Usb ComputerSystems.System ComputerSystems.Data

variable {config : HostConfig} {hardware : Hardware} {host next : HostState}
  {urb other : Fin maxUsbRequests} {index : Fin maxUsbRequests} {channel : Nat}

/-! ## Requests that are under way have a stage -/

def NoneLost (host : HostState) : Prop := ∀ urb, pending host urb = true → InFlight host urb

theorem NoneLost.frame (noneLost : NoneLost host) (frame : Frame urb host next)
    (here : pending next urb = true → InFlight next urb) : NoneLost next := by
  intro other waits
  by_cases ne : other = urb
  · subst ne
    exact here waits
  · have same : pending next other = pending host other := by
      rw [pending, pending, frame.requests other ne, frame.held other ne]
    rw [same] at waits
    exact (frame.inFlight ne).mpr (noneLost other waits)

theorem NoneLost.congr (noneLost : NoneLost host) (same : SameSlots host next) : NoneLost next := by
  intro urb waits
  rw [pending, same.requests, same.held] at waits
  exact same.inFlight.mpr (noneLost urb waits)

/-- The control transfer of a request has a stage of the number. -/
def HasStage (request : Request) (state : Nat) : Prop :=
  ∀ setup, request.setupData = some setup → (controlStage setup state request).isSome

theorem hostSubmitAsyncRequest_flies {state : Nat} (found : (newChannel config host.channelAllocated).isSome)
    (stages : HasStage (host.requests urb) state)
    (runs : hostSubmitAsyncRequest config hardware urb state host = some next) : InFlight next urb := by
  cases hostSubmitAsyncRequest_submits runs with
  | nothing address setup endpoint type data stage =>
    have same : (controlStage setup state (submitted host urb)).isSome =
        (controlStage setup state (host.requests urb)).isSome := controlStage_isSome_congr rfl rfl
    rw [stage, stages setup data] at same
    cases same
  | control address setup request isIn statusStage started next endpoint type data stage starts =>
    exact (transferStageAsync_flies starts found).2
  | other address started middle endpoint type starts =>
    obtain ⟨rfl, flies⟩ := transferStageAsync_flies starts found
    exact flies

/-- A request is given up, or its next stage is started. -/
theorem requestCallCompletionRoutine_flies (between : Between config host urb)
    (found : (newChannel config host.channelAllocated).isSome)
    (runs : requestCallCompletionRoutine config hardware urb host = some next) :
    pending next urb = true → InFlight next urb := by
  rw [requestCallCompletionRoutine] at runs
  cases routine : (host.requests urb).completion.routine with
  | none => simp [routine] at runs
  | some routine' =>
    rw [routine] at runs
    cases routine' with
    | hostSubmitAsyncRequest =>
      intro _
      obtain ⟨_, _, setup, _, _, data, has⟩ := between.continues.2 routine
      refine hostSubmitAsyncRequest_flies found ?_ runs
      intro setup' data'
      obtain rfl : setup = setup' := Option.some.inj (data.symm.trans data')
      exact has
    | transferComplete =>
      obtain rfl := Option.some.inj runs
      simp [pending, HostState.note, HostState.setRequest, freeRequest]
    | client address =>
      obtain rfl := Option.some.inj runs
      simp [pending]

/-! ## The condition -/

/-- A request is submitted where a channel is free, at an endpoint that it can be
    sent to. -/
def Sendable (config : HostConfig) (host : HostState) (endpoint : Address) : Prop :=
  (newChannel config host.channelAllocated).isSome ∧ (config.endpoint endpoint).maxPacketSize ≠ 0

/-- What the driver serves.  A call finds a channel, unless there is no request buffer
    and it returns an error; a transaction without splits does not fail; and a timer is
    found when a periodic transfer may ask for one. -/
def Served (config : HostConfig) (host : HostState) : HostEvent × Hardware → Prop
  | (.control endpoint _ _ _ _, _) => findRequest host.requests = none ∨ Sendable config host endpoint
  | (.transfer endpoint _ _ _, _) =>
    findRequest host.requests = none ∨
      Sendable config host endpoint ∧ (config.endpoint endpoint).type ≠ .control
  | (.resubmit urb endpoint _ _ _ _ _, _) =>
    host.held urb = true ∧ Sendable config host endpoint ∧ (config.endpoint endpoint).type ≠ .control
  | (.free urb, _) => host.held urb = true
  | (.interrupt channel status _ _, hardware) =>
    ∀ index ∈ host.stageData channel,
      ((host.stages index).state = .noSplitTransfer →
        (host.stages index).subState = .waitForTransactionComplete → anySet status hcIntErrorMask = false) ∧
      ∀ address ∈ (host.stages index).endpoint,
        hardware.timer = true ∨ isPeriodic (config.endpoint address) = false
  | (.interval _, _) => True

instance (host : HostState) : ∀ event, Decidable (Served config host event)
  | (.control _ _ _ _ _, _) => inferInstanceAs (Decidable (_ ∨ (_ ∧ _)))
  | (.transfer _ _ _ _, _) => inferInstanceAs (Decidable (_ ∨ ((_ ∧ _) ∧ _)))
  | (.resubmit _ _ _ _ _ _ _, _) => inferInstanceAs (Decidable (_ ∧ (_ ∧ _) ∧ _))
  | (.free _, _) => inferInstanceAs (Decidable (_ = _))
  | (.interrupt channel status _ _, hardware) =>
    inferInstanceAs (Decidable (∀ index ∈ host.stageData channel,
      ((host.stages index).state = .noSplitTransfer →
        (host.stages index).subState = .waitForTransactionComplete → anySet status hcIntErrorMask = false) ∧
      ∀ address ∈ (host.stages index).endpoint,
        hardware.timer = true ∨ isPeriodic (config.endpoint address) = false))
  | (.interval _, _) => inferInstanceAs (Decidable True)

theorem Served.owns {event : HostEvent × Hardware} (served : Served config host event) : Owns host event := by
  obtain ⟨event, hardware⟩ := event
  cases event with
  | control | transfer | interrupt | interval => trivial
  | resubmit => exact served.1
  | free => exact served

structure ServedInv (config : HostConfig) (host : HostState) : Prop where
  pools : PoolInv config host
  slots : SlotsInv config host
  await : AwaitInv config True host
  noneLost : NoneLost host

/-- Without a failed transaction, the completion routine is called by every stage that
    leaves its channel. -/
def Completes : StageNext → Prop
  | .leave _ _ complete _ => complete = true
  | .transaction _ | .delay _ | .nothing => True

theorem stageNext_completes (endpoint : Endpoint) {stage : TransferStageData}
    (passes : stage.state = .noSplitTransfer → anySet stage.transactionStatus hcIntErrorMask = false) :
    Completes (stageNext endpoint stage) := by
  -- The only way out without a call is the error of a stage that is not split.
  have leaves : ∀ stage, Completes (leaveCompleteSplit endpoint stage) := by
    intro stage
    rw [leaveCompleteSplit]
    split
    · split
      · trivial
      · trivial
    · rfl
  have splits : ∀ stage, Completes (nextSplit endpoint stage) := by
    intro stage
    rw [nextSplit]
    cases stage.frameScheduler with
    | none => trivial
    | some scheduler =>
      dsimp only
      split
      · trivial
      · exact leaves _
  rw [stageNext]
  cases state : stage.state with
  | noSplitTransfer =>
    simp only [passes state, Bool.false_eq_true, if_false]
    split
    · trivial
    · rfl
  | startSplit =>
    dsimp only
    split
    · rfl
    · exact splits _
  | completeSplit =>
    dsimp only
    split
    · rfl
    · exact splits _
  | periodicDelay => trivial
  | unknown => trivial

theorem NoneLost.applyNext {following : StageNext} (pools : PoolInv config host) (slots : SlotsInv config host)
    (noneLost : NoneLost host) (has : host.stageData channel = some index)
    (carries : (host.stages index).urb = some urb) (keeps : KeepsStage (host.stages index) following)
    (silent : SilentNext following) (complete : Completes following)
    (applies : Usb.applyNext config hardware channel index urb host following = some next) :
    NoneLost next := by
  apply noneLost.frame (applyNext_frame carries keeps silent applies)
  intro waits
  cases following with
  | transaction stage =>
    obtain rfl := Option.some.inj applies
    refine ⟨index, ?_⟩
    rw [(startTransaction_same _ _ _ _).urb]
    simpa [HostState.setStage] using keeps.urb.trans carries
  | delay stage =>
    obtain rfl := Option.some.inj applies
    refine ⟨index, ?_⟩
    simpa [HostState.setStage] using keeps.urb.trans carries
  | leave status resultLen calls messages =>
    obtain rfl : calls = true := complete
    obtain ⟨_, between⟩ := (slots urb).finishStage channel status resultLen silent carries
    have found : (newChannel config
        (finishStage channel index urb status resultLen messages host).channelAllocated).isSome :=
      finishStage_channel pools has status resultLen messages
    exact requestCallCompletionRoutine_flies between found applies waits
  | nothing =>
    obtain rfl := Option.some.inj applies
    exact ⟨index, carries⟩

/-! ## Runs -/

/-- What is known of the stage on a channel whose interrupt is taken: a failed
    transaction is not one without splits, and a timer is found if it is asked for. -/
structure TransactionPasses (config : HostConfig) (hardware : Hardware) (status : BitVec 32)
    (stage : TransferStageData) : Prop where
  passes : stage.state = .noSplitTransfer → stage.subState = .waitForTransactionComplete →
    anySet status hcIntErrorMask = false
  timer : ∀ address ∈ stage.endpoint, hardware.timer = true ∨ isPeriodic (config.endpoint address) = false

theorem ServedInv.interrupt {status packetsLeft bytesLeft : BitVec 32} (pools : PoolInv config host)
    (slots : SlotsInv config host) (noneLost : NoneLost host) (taken : Interrupted config True host channel index)
    (passes : TransactionPasses config hardware status (host.stages index))
    (interrupts : Interrupts config hardware channel status packetsLeft bytesLeft host next) :
    ServedInv config next := by
  refine ⟨pools.interrupt interrupts, slots.interrupt interrupts, ?_, ?_⟩
  · apply taken.interrupt pools (fun _ => passes.timer) _ interrupts
    intro _ urb carries address endpoint
    have same := (slots urb).endpoint index carries
    obtain ⟨address', endpoint', usable⟩ := taken.equipped.endpoint
    rw [same] at endpoint'
    obtain rfl : address' = address := Option.some.inj (endpoint'.symm.trans endpoint)
    exact usable trivial
  · cases interrupts with
    | disabled index' has => exact noneLost.congr (startTransaction_sameSlots _ _ _ _)
    | halted index' has =>
      exact (noneLost.congr (.note (by simp [Silent, actionUrb]))).congr (startTransaction_sameSlots _ _ _ _)
    | transaction index' urb address stage nextPID next has carries waits ended endpoint completes applies =>
      obtain rfl : index' = index := Option.some.inj (has.symm.trans taken.has)
      obtain ⟨same, state, _, status', _⟩ := transactionComplete_same completes
      let moved : HostState :=
        { host.setStage index' stage with nextPID := Function.update host.nextPID address nextPID }
      have sameSlots : SameSlots host moved :=
        .of_eq (.trans (.setStage same.channel same.urb same.endpoint) (.of_eq rfl rfl rfl)) rfl rfl rfl
      have stageHere : moved.stages index' = stage := by simp [moved, HostState.setStage]
      refine NoneLost.applyNext (pools.congr sameSlots.toSamePools) (slots.congr sameSlots)
        (noneLost.congr sameSlots) has ?_ ?_ (stageNext_silent _ _) (stageNext_completes _ ?_) applies
      · rw [stageHere]
        exact same.urb.trans carries
      · rw [stageHere]
        exact stageNext_keeps _ stage
      · intro state'
        rw [status']
        exact passes.passes (state.symm.trans state') waits

/-- A request that is submitted where it can be sent is under way. -/
theorem ServedInv.submitRequest {request : Request} {endpoint : Address} (pools : PoolInv config host)
    (await : AwaitInv config True host) (noneLost : NoneLost host) (attached : request.endpoint = some endpoint)
    (sendable : Sendable config host endpoint)
    (runs : Usb.submitRequest config hardware urb request (dropHeld urb host) = some next) :
    AwaitInv config True next ∧ NoneLost next := by
  let attached' := attachRequest urb request (dropHeld urb host)
  have here : attached'.requests urb = request := attachRequest_requests urb request _
  have submits : hostSubmitAsyncRequest config hardware urb 0 attached' = some next := runs
  constructor
  · have await' : AwaitInv config True attached' := await.of_eq rfl rfl rfl rfl rfl
    have pools' : PoolInv config attached' := pools.congr (.of_eq rfl rfl rfl)
    refine await'.submit pools' ?_ submits
    rw [here]
    intro _ address endpoint'
    obtain rfl : endpoint = address := Option.some.inj (attached.symm.trans endpoint')
    exact sendable.2
  · apply noneLost.frame ((attachRequest_frame urb request host).trans (hostSubmitAsyncRequest_frame submits))
    intro _
    refine hostSubmitAsyncRequest_flies ?_ (fun setup _ => controlStage_zero setup _) submits
    exact sendable.1

/-- A call that finds a request buffer can send the request. -/
theorem Served.sendable {event : HostEvent} {request : Request}
    (served : Served config host (event, hardware)) (calls : HostEvent.request event = some request)
    (found : findRequest host.requests = some urb) :
    ∃ endpoint, request.endpoint = some endpoint ∧ Sendable config host endpoint ∧
      ((config.endpoint endpoint).type = .control → request.setupData.isSome) := by
  cases event with
  | control endpoint setup data complete param =>
    obtain rfl := Option.some.inj calls
    obtain full | sendable := served
    · simp [found] at full
    · exact ⟨endpoint, rfl, sendable, fun _ => rfl⟩
  | transfer endpoint buffer bufSize complete =>
    obtain rfl := Option.some.inj calls
    obtain full | ⟨sendable, other⟩ := served
    · simp [found] at full
    · exact ⟨endpoint, rfl, sendable, fun control => absurd control other⟩
  | resubmit | free | interrupt | interval => cases calls

theorem ServedInv.step {event : HostEvent × Hardware} (inv : ServedInv config host)
    (served : Served config host event) (steps : hostStep config host event = some next) :
    ServedInv config next := by
  have pools := inv.pools.step steps
  have slots := inv.slots.step served.owns steps
  cases hostStep_steps steps with
  | refused event hardware request text calls full =>
    exact ⟨pools, slots, inv.await.of_eq rfl rfl rfl rfl rfl,
      inv.noneLost.congr (.note (by simp [Silent, actionUrb]))⟩
  | call event hardware urb request next calls found submits =>
    obtain ⟨endpoint, attached, sendable, _⟩ := served.sendable calls found
    have same := (inv.slots.found found).2
    obtain ⟨await, noneLost⟩ := ServedInv.submitRequest inv.pools inv.await inv.noneLost attached sendable
      (same.symm ▸ submits)
    exact ⟨pools, slots, await, noneLost⟩
  | resubmit hardware urb endpoint buffer bufLen complete param context next submits =>
    obtain ⟨await, noneLost⟩ := ServedInv.submitRequest inv.pools inv.await inv.noneLost rfl served.2.1 submits
    exact ⟨pools, slots, await, noneLost⟩
  | free hardware urb =>
    refine ⟨pools, slots, inv.await.of_eq rfl rfl rfl rfl rfl, ?_⟩
    apply inv.noneLost.frame (.trans (.setRequest _) (dropHeld_frame urb _))
    intro waits
    simp [pending, dropHeld, HostState.setRequest, freeRequest] at waits
  | interrupt hardware channel status packetsLeft bytesLeft next enabled unmasked interrupts =>
    have has := (inv.await.enabled channel).symm.trans enabled
    obtain ⟨index, has⟩ := Option.isSome_iff_exists.mp has
    have masked : SameSlots host
        { host with interruptMask := Function.update host.interruptMask channel 0 } :=
      .of_eq (.of_eq rfl rfl rfl) rfl rfl rfl
    obtain ⟨passes, timer⟩ := served index has
    exact ServedInv.interrupt (inv.pools.congr masked.toSamePools) (inv.slots.congr masked)
      (inv.noneLost.congr masked) (inv.await.interrupted inv.pools has unmasked) ⟨passes, timer⟩ interrupts
  | interval hardware position index expires =>
    obtain ⟨sameChannel, sameUrb, sameEndpoint⟩ := beginStage_fields (host.stages index)
    have erased : SameSlots host { host with intervals := host.intervals.eraseIdx position } :=
      .of_eq (.of_eq rfl rfl rfl) rfl rfl rfl
    refine ⟨pools, slots, inv.await.interval inv.pools expires, ?_⟩
    exact ((inv.noneLost.congr erased).congr (.setStage sameChannel sameUrb sameEndpoint)).congr
      (startTransaction_sameSlots _ _ _ _)

/-! ## The driver goes on -/

/-- A request without a stage finds one: otherwise every stage would carry a request
    of its own, and so every request would have one. -/
theorem SlotsInv.finds_stage (pools : PoolInv config host) (slots : SlotsInv config host)
    (idle : ¬ InFlight host urb) : (newStageData host.stages).isSome := by
  rw [newStageData, List.find?_isSome]
  by_contra none
  have taken : ∀ index, ∃ urb, (host.stages index).urb = some urb := by
    intro index
    have used : (host.stages index).free = false := by
      apply Bool.of_not_eq_true
      intro free
      exact none ⟨index, List.mem_finRange index, free⟩
    exact Option.isSome_iff_exists.mp (pools.attached _ index (pools.used index used)).2
  choose carries carried using taken
  have injective : Function.Injective carries := by
    intro first second same
    exact (slots (carries first)).single first second (carried first) (same ▸ carried second)
  obtain ⟨index, reaches⟩ := Finite.surjective_of_injective injective urb
  exact idle ⟨index, reaches ▸ carried index⟩

theorem packetCount_isSome {maxPacketSize : BitVec 32} (positive : maxPacketSize ≠ 0)
    (transferSize : BitVec 32) : (packetCount transferSize maxPacketSize).isSome := by
  rw [packetCount, if_neg]
  · rfl
  · exact fun stuck => positive stuck.1

theorem transferStageDataAttach_isSome {endpoint : Endpoint} {nextPID : PID} {request : Request}
    {isIn statusStage : Bool} (positive : endpoint.maxPacketSize ≠ 0) :
    (transferStageDataAttach endpoint nextPID channel urb request isIn statusStage).isSome := by
  cases statusStage with
  | true => rfl
  | false =>
    simp only [transferStageDataAttach, Bool.false_eq_true, if_false, Option.isSome_map]
    exact packetCount_isSome positive _

theorem transferStageAsync_isSome {isIn statusStage : Bool} (pools : PoolInv config host)
    (slots : SlotsInv config host) (idle : ¬ InFlight host urb)
    (claimed : (host.requests urb).endpoint.isSome) (usable : Usable config (host.requests urb)) :
    (transferStageAsync config hardware urb isIn statusStage host).isSome := by
  rw [transferStageAsync]
  split
  · rfl
  · obtain ⟨index, stageFound⟩ := Option.isSome_iff_exists.mp (slots.finds_stage pools idle)
    obtain ⟨address, endpoint⟩ := Option.isSome_iff_exists.mp claimed
    obtain ⟨stage, attached⟩ := Option.isSome_iff_exists.mp
      (transferStageDataAttach_isSome (usable address endpoint))
    simp only [stageFound, endpoint, Option.bind_eq_bind, Option.bind_some]
    rw [attached]
    rfl

theorem hostSubmitAsyncRequest_isSome {state : Nat} (pools : PoolInv config host)
    (slots : SlotsInv config host) (ready : Submittable config host urb state)
    (usable : Usable config (host.requests urb))
    (setup : ∀ address, (host.requests urb).endpoint = some address →
      (config.endpoint address).type = .control → (host.requests urb).setupData.isSome) :
    (hostSubmitAsyncRequest config hardware urb state host).isSome := by
  have claimed : (host.requests urb).endpoint.isSome := by
    have waits := ready.waits
    simp only [pending, Bool.and_eq_true] at waits
    exact waits.1
  -- any stage of this request can be started, whichever of its fields the stage has set
  have starts : ∀ (request : Request) (isIn statusStage : Bool),
      request.endpoint = (host.requests urb).endpoint → request.buffer = (host.requests urb).buffer →
      caller request = caller (host.requests urb) →
      (transferStageAsync config hardware urb isIn statusStage (host.setRequest urb request)).isSome := by
    intro request isIn statusStage endpoint buffer sameCaller
    have here : (host.setRequest urb request).requests urb = request := by simp [HostState.setRequest]
    have slots' : SlotsInv config (host.setRequest urb request) :=
      slots.frame (.setRequest request) ((slots urb).setRequest ready.idle endpoint buffer sameCaller)
    have pools' : PoolInv config (host.setRequest urb request) := pools.congr (.of_eq rfl rfl rfl)
    apply transferStageAsync_isSome pools' slots' ready.idle
    · rw [here, endpoint]
      exact claimed
    · rw [here]
      intro address endpoint'
      exact usable address (endpoint.symm.trans endpoint')
  obtain ⟨address, endpoint⟩ := Option.isSome_iff_exists.mp claimed
  by_contra stops
  simp only [hostSubmitAsyncRequest, Option.bind_eq_bind, Option.not_isSome_iff_eq_none,
    Option.bind_eq_none_iff] at stops
  replace stops := stops address endpoint
  by_cases control : (config.endpoint address).type = .control
  · obtain ⟨setup', data⟩ := Option.isSome_iff_exists.mp (setup address endpoint control)
    rw [if_pos control, Option.bind_eq_none_iff] at stops
    replace stops := stops setup' data
    split at stops
    · cases stops
    next request isIn statusStage stage =>
      have staged : ControlStage setup' (submitted host urb) state (request, isIn, statusStage) :=
        controlStage_iff.mp stage
      have own : Completion.Own (callerAt state (submitted host urb)) := ready.own
      have endpoint' : (submitted host urb).endpoint = some address := endpoint
      obtain ⟨sameCaller, _⟩ := staged.continues own endpoint' control data
      obtain ⟨sameEndpoint, _, sameBuffer, _⟩ := staged.same
      have runs := starts request isIn statusStage sameEndpoint sameBuffer
        (sameCaller.trans ready.caller.symm)
      rw [Option.map_eq_none_iff] at stops
      simp [stops] at runs
  · rw [if_neg control, Option.bind_eq_none_iff] at stops
    obtain ⟨⟨started, last⟩, runs⟩ := Option.isSome_iff_exists.mp
      (starts (submitted host urb) (config.endpoint address).directionIn false rfl rfl rfl)
    replace stops := stops (started, last) runs
    cases started with
    | true => cases stops
    | false => cases stops

theorem requestCallCompletionRoutine_isSome (pools : PoolInv config host) (slots : SlotsInv config host)
    (between : Between config host urb) (usable : Usable config (host.requests urb)) :
    (requestCallCompletionRoutine config hardware urb host).isSome := by
  rw [requestCallCompletionRoutine]
  cases routine : (host.requests urb).completion.routine with
  | none =>
    have own := between.continues.1
    rw [caller, routine] at own
    simp [Completion.Own, routine] at own
  | some routine' =>
    cases routine' with
    | hostSubmitAsyncRequest =>
      obtain ⟨own, more⟩ := between.continues
      obtain ⟨later, address, setup, endpoint, type, data, _⟩ := more routine
      have same : caller (host.requests urb) = callerAt (host.requests urb).completion.context
          (host.requests urb) := by
        rw [caller, if_pos routine, callerAt, if_neg later]
      apply hostSubmitAsyncRequest_isSome pools slots
        ⟨between.idle, between.waits, same, same ▸ own, fun _ => ⟨address, endpoint, type⟩⟩ usable
      intro _ _ _
      rw [data]
      rfl
    | transferComplete => rfl
    | client address => rfl

theorem applyNext_isSome {following : StageNext} (pools : PoolInv config host) (slots : SlotsInv config host)
    (has : host.stageData channel = some index) (carries : (host.stages index).urb = some urb)
    (usable : Usable config (host.requests urb)) (silent : SilentNext following) :
    (applyNext config hardware channel index urb host following).isSome := by
  cases following with
  | transaction | delay | nothing => rfl
  | leave status resultLen complete messages =>
    cases complete with
    | false => rfl
    | true =>
      obtain ⟨here, between⟩ := (slots urb).finishStage channel status resultLen silent carries
      apply requestCallCompletionRoutine_isSome (pools.finishStage has status resultLen messages)
        (slots.frame (finishStage_frame status resultLen silent carries) here) between
      intro address endpoint
      apply usable address
      simpa [finishStage, HostState.note, leaveChannel, HostState.setRequest] using endpoint

/-- The interrupt of a stage that waits for it is served. -/
theorem processChannelInterrupt_isSome {status packetsLeft bytesLeft : BitVec 32}
    (pools : PoolInv config host) (slots : SlotsInv config host)
    (taken : Interrupted config True host channel index) :
    (processChannelInterrupt config hardware channel status packetsLeft bytesLeft host).isSome := by
  obtain ⟨urb, carries⟩ := Option.isSome_iff_exists.mp (pools.attached channel index taken.has).2
  obtain ⟨address, endpoint, positive⟩ := taken.equipped.endpoint
  simp only [processChannelInterrupt, taken.has, carries, Option.bind_eq_bind, Option.bind_some]
  cases waits : (host.stages index).subState with
  | waitForChannelDisable => rfl
  | unknown => exact absurd waits (taken.rest.known index)
  | waitForTransactionComplete =>
    dsimp only
    split
    · rfl
    · simp only [endpoint, Option.bind_some]
      have same := (transactionComplete_same (Prod.eta (transactionComplete status packetsLeft bytesLeft
        (host.stages index) (host.nextPID address))).symm).1
      refine applyNext_isSome (pools.congr (.trans (.setStage same.channel same.urb same.endpoint)
        (.of_eq rfl rfl rfl))) (slots.congr (.of_eq (.trans (.setStage same.channel same.urb same.endpoint)
        (.of_eq rfl rfl rfl)) rfl rfl rfl)) taken.has ?_ ?_ (stageNext_silent _ _)
      · simpa [HostState.setStage] using same.urb.trans carries
      · intro address' endpoint'
        have same' := (slots urb).endpoint index carries
        rw [endpoint] at same'
        obtain rfl : address = address' := Option.some.inj (same'.trans endpoint')
        exact positive trivial

theorem submitRequest_isSome {request : Request} {endpoint : Address} (inv : ServedInv config host)
    (done : pending host urb = false) (attached : request.endpoint = some endpoint)
    (own : Completion.Own request.completion) (sendable : Sendable config host endpoint)
    (setup : (config.endpoint endpoint).type = .control → request.setupData.isSome) :
    (submitRequest config hardware urb request (dropHeld urb host)).isSome := by
  obtain ⟨slots, ready⟩ := inv.slots.attached done (by rw [attached]; rfl) own
  have here := attachRequest_requests urb request (dropHeld urb host)
  have pools : PoolInv config (attachRequest urb request (dropHeld urb host)) :=
    inv.pools.congr (.of_eq rfl rfl rfl)
  apply hostSubmitAsyncRequest_isSome pools slots ready
  · rw [here]
    intro address endpoint'
    obtain rfl : endpoint = address := Option.some.inj (attached.symm.trans endpoint')
    exact sendable.2
  · rw [here]
    intro address endpoint'
    obtain rfl : endpoint = address := Option.some.inj (attached.symm.trans endpoint')
    exact setup

/-- The event can happen: an interrupt is enabled and not masked, and a timer runs. -/
def Deliverable (host : HostState) : HostEvent × Hardware → Prop
  | (.interrupt channel status _ _, _) =>
    host.channelEnabled channel = true ∧ anySet status (host.interruptMask channel) = true
  | (.interval position, _) => position < host.intervals.length
  | _ => True

theorem ServedInv.goes_on {event : HostEvent × Hardware} (inv : ServedInv config host)
    (served : Served config host event) (deliverable : Deliverable host event) :
    (hostStep config host event).isSome := by
  obtain ⟨event, hardware⟩ := event
  -- The slot that a call finds is attached at once, so the claim of it leaves no trace.
  have calls : ∀ {request : Request} {requests : Requests} {urb : Fin maxUsbRequests},
      HostEvent.request event = some request → newRequest host.requests = some (urb, requests) →
      (Usb.submitRequest config hardware urb request { host with requests }).isSome := by
    intro request requests urb calls found
    obtain ⟨found, same⟩ := newRequest_setRequest found request
    obtain ⟨endpoint, attached, sendable, setup⟩ := served.sendable calls found
    obtain ⟨done, unheld⟩ := inv.slots.found found
    have runs : (Usb.submitRequest config hardware urb request (dropHeld urb host)).isSome :=
      submitRequest_isSome inv done attached (HostEvent.request_own calls).2 sendable setup
    rw [Usb.submitRequest, same]
    rw [unheld] at runs
    exact runs
  cases event with
  | control endpoint setup data complete param =>
    simp only [hostStep, hostEndpointControlMessage]
    split
    · rfl
    next urb requests found =>
      rw [Option.isSome_map, Option.isSome_map]
      exact calls rfl found
  | transfer endpoint buffer bufSize complete =>
    simp only [hostStep, hostEndpointTransfer]
    split
    · rfl
    next urb requests found =>
      rw [Option.isSome_map, Option.isSome_map]
      exact calls rfl found
  | resubmit urb endpoint buffer bufLen complete param context =>
    obtain ⟨held, sendable, other⟩ := served
    exact submitRequest_isSome inv (by simp [pending, held]) rfl ⟨rfl, by simp [requestSetCompletionRoutine]⟩
      sendable (fun control => absurd control other)
  | free urb => rfl
  | interrupt channel status packetsLeft bytesLeft =>
    obtain ⟨enabled, unmasked⟩ := deliverable
    have has := (inv.await.enabled channel).symm.trans enabled
    obtain ⟨index, has⟩ := Option.isSome_iff_exists.mp has
    simp only [hostStep, enabled, unmasked, Bool.and_self, if_true]
    exact processChannelInterrupt_isSome (inv.pools.congr (.of_eq rfl rfl rfl))
      (inv.slots.congr (.of_eq (.of_eq rfl rfl rfl) rfl rfl rfl))
      (inv.await.interrupted inv.pools has unmasked)
  | interval position =>
    have inside : position < host.intervals.length := deliverable
    simp [hostStep, inside]

/-! ## The answers -/

/-- Every request that was submitted has been answered once, by the completion routine
    that it was submitted with, or is under way.  A slot that is claimed is under way or
    held by a client, and a request that is under way is waited for. -/
structure RequestsAnswered (host : HostState) : Prop where
  answered : ∀ urb, ¬ InFlight host urb →
    submissions (history urb host.log) = completions (history urb host.log)
  underWay : ∀ urb, InFlight host urb → ∃ completion,
    submissions (history urb host.log) = completions (history urb host.log) ++ [completion]
  claimed : ∀ urb, (host.requests urb).free = false → InFlight host urb ∨ host.held urb = true
  awaited : ∀ index, (host.stages index).urb.isSome →
    host.stageData (host.stages index).channel = some index ∧
      (host.channelEnabled (host.stages index).channel = true ∧
        host.interruptMask (host.stages index).channel ≠ 0 ∨ index ∈ host.intervals)

theorem ServedInv.answers (inv : ServedInv config host) : RequestsAnswered host := by
  constructor
  · intro urb idle
    have done : pending host urb = false := by
      apply Bool.of_not_eq_true
      exact fun waits => idle (inv.noneLost urb waits)
    exact ((inv.slots urb).settled done).2
  · intro urb flies
    have answered := (inv.slots urb).answered
    rw [if_pos ((inv.slots urb).waits flies)] at answered
    exact ⟨_, answered⟩
  · intro urb claimed
    have endpoint : (host.requests urb).endpoint.isSome := by
      by_contra none
      rw [Option.not_isSome_iff_eq_none] at none
      simp [Request.free, none, (inv.slots urb).freed none] at claimed
    cases held : host.held urb with
    | true => exact .inr rfl
    | false => exact .inl (inv.noneLost urb (by simp [pending, endpoint, held]))
  · intro index carries
    have has := inv.pools.used index (free_of_urb carries)
    refine ⟨has, ?_⟩
    obtain ⟨state, _⟩ | ⟨_, mask⟩ := inv.await.waits index carries
    · right
      exact inv.await.timed trivial index (by simp [delayed, carries, state])
    · left
      refine ⟨?_, mask⟩
      rw [inv.await.enabled, has]
      rfl

/-- In a run of which the driver serves every event, every request is answered, and
    the driver goes on at every event that can happen. -/
theorem hostController_requestsAnswered (config : HostConfig) (nextPID : Address → PID)
    (events : List (HostEvent × Hardware)) (host : HostState)
    (served : Along (hostStep config) (Served config) events (hostStart nextPID))
    (run : events.foldlM (hostStep config) (hostStart nextPID) = some host) :
    RequestsAnswered host ∧
      ∀ event, Served config host event → Deliverable host event →
        (hostStep config host event).isSome := by
  have start : ServedInv config (hostStart nextPID) := by
    refine ⟨hostStart_poolInv nextPID, hostStart_slotsInv nextPID, hostStart_awaitInv nextPID, ?_⟩
    intro urb waits
    cases waits
  have inv : ServedInv config host :=
    served.reached (ServedInv config) start (fun _ _ inv served _ steps => inv.step served steps) run
  exact ⟨inv.answers, fun _ served deliverable => inv.goes_on served deliverable⟩

/-- A descriptor is asked for and read, and the client frees the request. -/
def descriptorRead : List (HostEvent × Hardware) :=
  [(.control 100 getDescriptor (some 200) (some 300) 0, {}),
    (.interrupt 0 (hcIntXferComp ||| hcIntChHltd) 0 0, {}),
    (.interrupt 0 (hcIntXferComp ||| hcIntChHltd) 0 0, {}),
    (.interrupt 0 (hcIntXferComp ||| hcIntChHltd) 0 0, {}),
    (.free firstSlot, {})]

theorem hostController_requestsAnswered_descriptorRead :
    ∃ host, descriptorRead.foldlM (hostStep rootHubHost) (hostStart fun _ => .setup) = some host ∧
      completions (history firstSlot host.log) = [⟨some (.client 300), 0, hostAddress⟩] ∧
      RequestsAnswered host := by
  have called : (descriptorRead.foldlM (hostStep rootHubHost) (hostStart fun _ => .setup)).map
      (fun host => completions (history firstSlot host.log)) = some [⟨some (.client 300), 0, hostAddress⟩] := by
    decide
  obtain ⟨host, run, called⟩ := Option.map_eq_some_iff.mp called
  have served : Along (hostStep rootHubHost) (Served rootHubHost) descriptorRead
      (hostStart fun _ => .setup) := by decide
  exact ⟨host, run, called,
    (hostController_requestsAnswered rootHubHost (fun _ => .setup) descriptorRead host served run).1⟩

/-- The setup stage fails: the request is neither answered nor under way. -/
theorem hostController_request_lost :
    ∃ host, [(HostEvent.control 100 getDescriptor (some 200) (some 300) 0, ({} : Hardware)),
        (.interrupt 0 (hcIntChHltd ||| 0x8) 0 0, {})].foldlM (hostStep rootHubHost)
          (hostStart fun _ => .setup) = some host ∧
      (host.requests firstSlot).free = false ∧ ¬ InFlight host firstSlot ∧ host.held firstSlot = false ∧
      completions (history firstSlot host.log) = [] ∧ ¬ RequestsAnswered host := by
  have lost : ([(HostEvent.control 100 getDescriptor (some 200) (some 300) 0, ({} : Hardware)),
      (.interrupt 0 (hcIntChHltd ||| 0x8) 0 0, {})].foldlM (hostStep rootHubHost)
        (hostStart fun _ => .setup)).map (fun host => ((host.requests firstSlot).free,
          (List.finRange maxUsbRequests).all fun index => (host.stages index).urb ≠ some firstSlot,
          host.held firstSlot, completions (history firstSlot host.log))) = some (false, true, false, []) := by decide
  obtain ⟨host, run, facts⟩ := Option.map_eq_some_iff.mp lost
  simp only [Prod.mk.injEq, List.all_eq_true, decide_eq_true_eq] at facts
  obtain ⟨claimed, idle, unheld, none⟩ := facts
  have idle' : ¬ InFlight host firstSlot := fun ⟨index, carries⟩ => idle index (List.mem_finRange index) carries
  refine ⟨host, run, claimed, idle', unheld, none, ?_⟩
  intro answers
  obtain flies | held := answers.claimed firstSlot claimed
  · exact idle' flies
  · simp [unheld] at held

end ComputerSystems.Verified
