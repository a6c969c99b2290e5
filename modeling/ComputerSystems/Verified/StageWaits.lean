import ComputerSystems.Verified.RequestFrames
import Mathlib.Data.List.Perm.Basic

/-! # Stages are waited for

A stage on a channel takes the interrupts of the channel, or waits for a timer to
start it again, and never both (`AwaitInv`).
-/

namespace ComputerSystems.Verified

open ComputerSystems.Usb ComputerSystems.System ComputerSystems.Data

variable {config : HostConfig} {assured : Prop} {hardware : Hardware} {host next : HostState}
  {urb other : Fin maxUsbRequests} {index : Fin maxUsbRequests} {channel : Nat}

/-! ## The invariant -/

/-- A timer is to start the stage again. -/
def delayed (stage : TransferStageData) : Bool := stage.urb.isSome && stage.state == .periodicDelay

/-- The stage is at an endpoint, and has a frame scheduler if it splits transactions.
    Packets can be sent to the endpoint if that is assured. -/
structure Equipped (config : HostConfig) (assured : Prop) (stage : TransferStageData) : Prop where
  endpoint : ∃ address, stage.endpoint = some address ∧
    (assured → (config.endpoint address).maxPacketSize ≠ 0)
  scheduler : stage.splitTransaction = true → stage.frameScheduler.isSome

/-- The stage is in a state in which it takes an interrupt. -/
def Works (stage : TransferStageData) : Prop :=
  if stage.splitTransaction then stage.state = .startSplit ∨ stage.state = .completeSplit
  else stage.state = .noSplitTransfer

theorem Works.awake {stage : TransferStageData} (works : Works stage) : delayed stage = false := by
  have working : stage.state ≠ .periodicDelay := by
    unfold Works at works
    split at works
    · obtain state | state := works
      · simp [state]
      · simp [state]
    · simp [works]
  simp [delayed, working]

/-- An interrupt of the channel is to come, or a timer is to expire. -/
def Waits (host : HostState) (stage : TransferStageData) : Prop :=
  stage.state = .periodicDelay ∧ host.interruptMask stage.channel = 0 ∨
    Works stage ∧ host.interruptMask stage.channel ≠ 0

/-- Every stage is waited for, but for one that is worked on. -/
structure AwaitOther (config : HostConfig) (assured : Prop) (index : Fin maxUsbRequests) (host : HostState) : Prop where
  known : ∀ other, (host.stages other).subState ≠ .unknown
  enabled : ∀ channel, host.channelEnabled channel = (host.stageData channel).isSome
  timers : ∀ other ≠ index, host.intervals.count other ≤ if delayed (host.stages other) then 1 else 0
  timed : assured → ∀ other ≠ index, delayed (host.stages other) = true → other ∈ host.intervals
  equipped : ∀ other ≠ index, (host.stages other).urb.isSome → Equipped config assured (host.stages other)
  waits : ∀ other ≠ index, (host.stages other).urb.isSome → Waits host (host.stages other)

structure AwaitInv (config : HostConfig) (assured : Prop) (host : HostState) : Prop where
  known : ∀ index, (host.stages index).subState ≠ .unknown
  enabled : ∀ channel, host.channelEnabled channel = (host.stageData channel).isSome
  timers : ∀ index, host.intervals.count index ≤ if delayed (host.stages index) then 1 else 0
  timed : assured → ∀ index, delayed (host.stages index) = true → index ∈ host.intervals
  equipped : ∀ index, (host.stages index).urb.isSome → Equipped config assured (host.stages index)
  waits : ∀ index, (host.stages index).urb.isSome → Waits host (host.stages index)

theorem hostStart_awaitInv (nextPID : Address → PID) : AwaitInv config assured (hostStart nextPID) := by
  constructor
  · intro index
    simp [hostStart]
  · intro channel
    rfl
  · intro index
    exact Nat.le_refl 0
  · intro _ index isDelayed
    cases isDelayed
  · intro index carries
    simp [hostStart] at carries
  · intro index carries
    simp [hostStart] at carries

theorem AwaitInv.except (inv : AwaitInv config assured host) (index : Fin maxUsbRequests) :
    AwaitOther config assured index host :=
  ⟨inv.known, inv.enabled, fun other _ => inv.timers other, fun given other _ => inv.timed given other,
    fun other _ => inv.equipped other, fun other _ => inv.waits other⟩

/-- The stage that was worked on is waited for as well. -/
theorem AwaitOther.all (rest : AwaitOther config assured index host)
    (timers : host.intervals.count index ≤ if delayed (host.stages index) then 1 else 0)
    (timed : assured → delayed (host.stages index) = true → index ∈ host.intervals)
    (here : (host.stages index).urb.isSome → Equipped config assured (host.stages index) ∧
      Waits host (host.stages index)) : AwaitInv config assured host := by
  constructor
  · exact rest.known
  · exact rest.enabled
  · intro other
    by_cases same : other = index
    · exact same ▸ timers
    · exact rest.timers other same
  · intro given other
    by_cases same : other = index
    · exact same ▸ timed given
    · exact rest.timed given other same
  · intro other carries
    by_cases same : other = index
    · subst same
      exact (here carries).1
    · exact rest.equipped other same carries
  · intro other carries
    by_cases same : other = index
    · subst same
      exact (here carries).2
    · exact rest.waits other same carries

/-- Only the stage that is worked on and its channel change. -/
theorem AwaitOther.congr (rest : AwaitOther config assured index host)
    (known : (next.stages index).subState ≠ .unknown)
    (enabled : ∀ channel, next.channelEnabled channel = (next.stageData channel).isSome)
    (stages : ∀ other ≠ index, next.stages other = host.stages other)
    (timers : ∀ other ≠ index, next.intervals.count other = host.intervals.count other)
    (masks : ∀ other ≠ index, (host.stages other).urb.isSome →
      next.interruptMask (host.stages other).channel = host.interruptMask (host.stages other).channel) :
    AwaitOther config assured index next := by
  constructor
  · intro other
    by_cases same : other = index
    · exact same ▸ known
    · rw [stages other same]
      exact rest.known other
  · exact enabled
  · intro other ne
    rw [timers other ne, stages other ne]
    exact rest.timers other ne
  · intro given other ne isDelayed
    rw [stages other ne] at isDelayed
    have member := rest.timed given other ne isDelayed
    rw [← List.count_pos_iff, timers other ne, List.count_pos_iff]
    exact member
  · intro other ne
    rw [stages other ne]
    exact rest.equipped other ne
  · intro other ne
    rw [stages other ne]
    intro carries
    have waits := rest.waits other ne carries
    rw [Waits, masks other ne carries]
    exact waits

/-- The stages of other requests are on other channels. -/
theorem PoolInv.other_channel (inv : PoolInv config host) (has : host.stageData channel = some index)
    (ne : other ≠ index) (carries : (host.stages other).urb.isSome) :
    (host.stages other).channel ≠ channel := by
  intro same
  have has' := inv.used other (free_of_urb carries)
  rw [same, has] at has'
  exact ne (Option.some.inj has').symm

/-- The pools, the registers and the timers stay as they are. -/
theorem AwaitInv.of_eq (inv : AwaitInv config assured host) (stages : next.stages = host.stages)
    (stageData : next.stageData = host.stageData) (enabled : next.channelEnabled = host.channelEnabled)
    (masks : next.interruptMask = host.interruptMask) (intervals : next.intervals = host.intervals) :
    AwaitInv config assured next := by
  constructor
  · rw [stages]
    exact inv.known
  · rw [enabled, stageData]
    exact inv.enabled
  · rw [intervals, stages]
    exact inv.timers
  · rw [intervals, stages]
    exact inv.timed
  · rw [stages]
    exact inv.equipped
  · intro index carries
    rw [stages] at carries ⊢
    rw [Waits, masks]
    exact inv.waits index carries

/-! ## Transactions -/

theorem statusMask_ne_zero (endpoint : Endpoint) (stage : TransferStageData) :
    statusMask endpoint stage ≠ 0 := by
  rw [statusMask]
  split
  · decide
  · decide

/-- What `start_transaction` does to the stage, its channel and the rest. -/
structure Started (index : Fin maxUsbRequests) (host next : HostState) : Prop where
  known : (next.stages index).subState ≠ .unknown
  state : (next.stages index).state = (host.stages index).state
  split : (next.stages index).splitTransaction = (host.stages index).splitTransaction
  scheduler : (next.stages index).frameScheduler.isSome = (host.stages index).frameScheduler.isSome
  mask : (host.stages index).endpoint.isSome → next.interruptMask (host.stages index).channel ≠ 0
  stages : ∀ other ≠ index, next.stages other = host.stages other
  masks : ∀ channel ≠ (host.stages index).channel, next.interruptMask channel = host.interruptMask channel
  enabled : next.channelEnabled = host.channelEnabled
  intervals : next.intervals = host.intervals

theorem startTransaction_started (config : HostConfig) (hardware : Hardware)
    (index : Fin maxUsbRequests) (host : HostState) :
    Started index host (startTransaction config hardware index host) := by
  rw [startTransaction]
  split
  · constructor
    · simp [HostState.setStage]
    · simp [HostState.setStage]
    · simp [HostState.setStage]
    · simp [HostState.setStage]
    · intro _
      simp [HostState.setStage, hcIntChHltd]
    · intro other ne
      simp [HostState.setStage, ne]
    · intro channel ne
      simp [HostState.setStage, ne]
    · rfl
    · rfl
  · constructor
    · simp [HostState.setStage]
    · simp [HostState.setStage]
    · simp [HostState.setStage]
    · simp [HostState.setStage]
    · intro endpoint
      obtain ⟨address, endpoint⟩ := Option.isSome_iff_exists.mp endpoint
      simpa [HostState.setStage, endpoint] using statusMask_ne_zero _ _
    · intro other ne
      simp [HostState.setStage, ne]
    · intro channel ne
      simp [HostState.setStage, ne]
    · rfl
    · rfl

/-- A stage is waited for when a transaction of it has been started. -/
theorem AwaitOther.startTransaction (pools : PoolInv config host) (rest : AwaitOther config assured index host)
    (carries : (host.stages index).urb.isSome) (equipped : Equipped config assured (host.stages index))
    (works : Works (host.stages index)) (untimed : host.intervals.count index = 0) :
    AwaitInv config assured (Usb.startTransaction config hardware index host) := by
  have started := startTransaction_started config hardware index host
  have same := startTransaction_same config hardware index host
  obtain ⟨address, endpoint, positive⟩ := equipped.endpoint
  have has := pools.used index (free_of_urb carries)
  have rest' : AwaitOther config assured index (Usb.startTransaction config hardware index host) := by
    apply rest.congr started.known _ started.stages
    · intro other _
      rw [started.intervals]
    · intro other ne carries'
      exact started.masks _ (pools.other_channel has ne carries')
    · intro channel
      rw [started.enabled, same.stageData]
      exact rest.enabled channel
  have works' : Works ((Usb.startTransaction config hardware index host).stages index) := by
    rw [Works, started.split, started.state]
    exact works
  -- The stage works and its channel has a mask, so that it waits for an interrupt.
  apply rest'.all
  · rw [started.intervals, untimed]
    exact Nat.zero_le _
  · intro _ isDelayed
    exact absurd (works'.awake.symm.trans isDelayed) (by decide)
  · intro _
    constructor
    · refine ⟨⟨address, ?_, positive⟩, ?_⟩
      · rw [same.endpoint, endpoint]
      · rw [started.split, started.scheduler]
        exact equipped.scheduler
    · right
      refine ⟨works', ?_⟩
      rw [same.channel]
      exact started.mask (by rw [endpoint]; rfl)

/-! ## Stages get channels and leave them -/

/-- Packets can be sent to the endpoint of a request. -/
def Usable (config : HostConfig) (request : Request) : Prop :=
  ∀ address, request.endpoint = some address → (config.endpoint address).maxPacketSize ≠ 0

theorem transferStageDataAttach_equipped {endpoint : Endpoint} {nextPID : PID} {request : Request}
    {isIn statusStage : Bool} {stage : TransferStageData}
    (attached : transferStageDataAttach endpoint nextPID channel urb request isIn statusStage = some stage) :
    stage.splitTransaction = splits endpoint ∧ stage.frameScheduler = attachScheduler endpoint ∧
      stage.subState = .waitForChannelDisable ∧ stage.statusStage = statusStage ∧ stage.isIn = isIn := by
  cases statusStage with
  | true =>
    cases attached
    exact ⟨rfl, rfl, rfl, rfl, rfl⟩
  | false =>
    simp only [transferStageDataAttach, Bool.false_eq_true, if_false, Option.map_eq_some_iff] at attached
    obtain ⟨packets, _, rfl⟩ := attached
    exact ⟨rfl, rfl, rfl, rfl, rfl⟩

theorem attachScheduler_isSome {endpoint : Endpoint} (split : splits endpoint = true) :
    (attachScheduler endpoint).isSome := by
  rw [attachScheduler, if_pos split]
  split
  · rfl
  · rfl

/-- A stage begins in a state in which it takes interrupts. -/
theorem beginStage_works (stage : TransferStageData) :
    Works (beginStage stage) ∧ (beginStage stage).subState = stage.subState ∧
      (beginStage stage).splitTransaction = stage.splitTransaction ∧
      (beginStage stage).frameScheduler.isSome = stage.frameScheduler.isSome := by
  rw [beginStage]
  split
  next split => simp [Works, split]
  next split => simp [Works, split]

theorem AwaitInv.transferStageAsync {isIn statusStage started : Bool} (pools : PoolInv config host)
    (inv : AwaitInv config assured host) (usable : assured → Usable config (host.requests urb))
    (runs : Usb.transferStageAsync config hardware urb isIn statusStage host = some (started, next)) :
    AwaitInv config assured next := by
  obtain ⟨_, _, rfl⟩ | ⟨_, channel, index, address, stage, found, stageFound, endpoint, attached, rfl⟩ :=
    transferStageAsync_cases runs
  · exact inv.of_eq rfl rfl rfl rfl rfl
  · obtain ⟨onChannel, carries, stageEndpoint⟩ := transferStageDataAttach_fields attached
    obtain ⟨sameChannel, sameUrb, sameEndpoint⟩ := beginStage_fields stage
    obtain ⟨split, scheduler, subState, _⟩ := transferStageDataAttach_equipped attached
    obtain ⟨works, sameSub, sameSplit, sameScheduler⟩ := beginStage_works stage
    -- The stage on its channel, before its first transaction is started.
    let entered := (enterChannel channel index (beginStage stage) host).note
      [.issued urb ⟨isIn, endpointGetNextPID (host.nextPID address) statusStage, stage.bufferPointer,
        stage.transferSize⟩]
    have here : entered.stages index = beginStage stage := by
      simp [entered, HostState.note, enterChannel]
    have pools' : PoolInv config entered :=
      (pools.enter found stageFound (sameChannel.trans onChannel) (sameUrb.trans carries)).congr (.note _)
    have rest : AwaitOther config assured index entered := by
      apply (inv.except index).congr
      · rw [here, sameSub, subState]
        decide
      · intro channel'
        by_cases same : channel' = channel
        · subst same
          simp [entered, HostState.note, enterChannel]
        · simpa [entered, HostState.note, enterChannel, same] using inv.enabled channel'
      · intro other ne
        simp [entered, HostState.note, enterChannel, ne]
      · intro other ne
        rfl
      · intro other ne _
        rfl
    apply rest.startTransaction pools'
    · rw [here, sameUrb, carries]
      rfl
    · rw [here]
      refine ⟨⟨address, ?_, fun given => usable given address endpoint⟩, ?_⟩
      · rw [sameEndpoint, stageEndpoint, endpoint]
      · rw [sameSplit, split, sameScheduler, scheduler]
        exact attachScheduler_isSome
    · rw [here]
      exact works
    · -- A stage without a request has no timer.
      have timers := inv.timers index
      rw [delayed, newStageData_urb stageFound] at timers
      exact Nat.le_zero.mp timers

theorem AwaitInv.submit {state : Nat} (pools : PoolInv config host) (inv : AwaitInv config assured host)
    (usable : assured → Usable config (host.requests urb))
    (runs : hostSubmitAsyncRequest config hardware urb state host = some next) :
    AwaitInv config assured next := by
  have changed : ∀ request : Request, PoolInv config (host.setRequest urb request) ∧
      AwaitInv config assured (host.setRequest urb request) ∧
      (request.endpoint = (host.requests urb).endpoint →
        assured → Usable config ((host.setRequest urb request).requests urb)) := by
    intro request
    refine ⟨pools.congr (.of_eq rfl rfl rfl), inv.of_eq rfl rfl rfl rfl rfl, ?_⟩
    intro endpoint given address
    simpa [HostState.setRequest, endpoint] using usable given address
  cases hostSubmitAsyncRequest_submits runs with
  | nothing => exact (changed _).2.1
  | control address setup request isIn statusStage started next endpoint type data stage starts =>
    obtain ⟨pools', inv', usable'⟩ := changed request
    exact inv'.transferStageAsync pools' (usable' (controlStage_iff.mp stage).same.1) starts
  | other address started middle endpoint type starts =>
    obtain ⟨pools', inv', usable'⟩ := changed (submitted host urb)
    have kept := inv'.transferStageAsync pools' (usable' rfl) starts
    cases started with
    | true => exact kept
    | false => exact kept.of_eq rfl rfl rfl rfl rfl

theorem AwaitInv.completes (pools : PoolInv config host) (inv : AwaitInv config assured host)
    (usable : assured → Usable config (host.requests urb))
    (runs : requestCallCompletionRoutine config hardware urb host = some next) :
    AwaitInv config assured next := by
  rw [requestCallCompletionRoutine] at runs
  cases routine : (host.requests urb).completion.routine with
  | none => simp [routine] at runs
  | some routine' =>
    rw [routine] at runs
    cases routine' with
    | hostSubmitAsyncRequest => exact inv.submit pools usable runs
    | transferComplete =>
      obtain rfl := Option.some.inj runs
      exact inv.of_eq rfl rfl rfl rfl rfl
    | client address =>
      obtain rfl := Option.some.inj runs
      exact inv.of_eq rfl rfl rfl rfl rfl

/-- A stage that leaves its channel need not be waited for. -/
theorem AwaitOther.finishStage (rest : AwaitOther config assured index host)
    (untimed : host.intervals.count index = 0)
    (status : Int) (resultLen : Option (BitVec 32)) (messages : List HostAction) :
    AwaitInv config assured (Usb.finishStage channel index urb status resultLen messages host) := by
  let finished := Usb.finishStage channel index urb status resultLen messages host
  have here : finished.stages index = transferStageDataRelease (host.stages index) := by
    simp [finished, Usb.finishStage, HostState.note, leaveChannel, HostState.setRequest]
  have rest' : AwaitOther config assured index finished := by
    apply rest.congr
    · rw [here]
      exact rest.known index
    · intro channel'
      by_cases same : channel' = channel
      · subst same
        simp [finished, Usb.finishStage, HostState.note, leaveChannel]
      · simpa [finished, Usb.finishStage, HostState.note, leaveChannel, HostState.setRequest, same]
          using rest.enabled channel'
    · intro other ne
      simp [finished, Usb.finishStage, HostState.note, leaveChannel, HostState.setRequest, ne]
    · intro other ne
      rfl
    · intro other ne _
      rfl
  -- A released stage is neither delayed nor with a request.
  apply rest'.all
  · rw [show finished.intervals = host.intervals from rfl, untimed]
    exact Nat.zero_le _
  · intro _ isDelayed
    rw [here] at isDelayed
    cases isDelayed
  · intro carries
    rw [here] at carries
    cases carries

/-! ## Interrupts and timers -/

/-- What is made of a stage that takes an interrupt: a stage that takes the next, or
    one that a timer starts again. -/
def NextWaits (config : HostConfig) (assured : Prop) (endpoint : Endpoint) : StageNext → Prop
  | .transaction stage => Equipped config assured stage ∧ Works stage
  | .delay stage => Equipped config assured stage ∧ stage.state = .periodicDelay ∧ isPeriodic endpoint = true
  | .leave _ _ _ _ => True
  | .nothing => False

theorem leaveCompleteSplit_waits (endpoint : Endpoint) {stage : TransferStageData}
    (equipped : Equipped config assured stage) (split : stage.splitTransaction = true) :
    NextWaits config assured endpoint (leaveCompleteSplit endpoint stage) := by
  rw [leaveCompleteSplit]
  split
  · split
    next periodic => exact ⟨⟨equipped.endpoint, equipped.scheduler⟩, rfl, periodic⟩
    next =>
      refine ⟨⟨equipped.endpoint, ?_⟩, ?_⟩
      · intro split
        rw [Option.isSome_map]
        exact equipped.scheduler split
      · simp [Works, split]
  · trivial

theorem nextSplit_waits (endpoint : Endpoint) {stage : TransferStageData}
    (equipped : Equipped config assured stage) (split : stage.splitTransaction = true)
    (state : stage.state = .completeSplit) : NextWaits config assured endpoint (nextSplit endpoint stage) := by
  obtain ⟨scheduler, has⟩ := Option.isSome_iff_exists.mp (equipped.scheduler split)
  rw [nextSplit, has]
  dsimp only
  split
  · refine ⟨⟨equipped.endpoint, fun _ => rfl⟩, ?_⟩
    simp [Works, split, state]
  · exact leaveCompleteSplit_waits endpoint ⟨equipped.endpoint, fun _ => rfl⟩ split

theorem stageNext_waits (endpoint : Endpoint) {stage : TransferStageData}
    (equipped : Equipped config assured stage) (works : Works stage) :
    NextWaits config assured endpoint (stageNext endpoint stage) := by
  rw [stageNext]
  unfold Works at works
  split at works
  next split =>
    obtain state | state := works
    · rw [state]
      dsimp only
      split
      · trivial
      · exact nextSplit_waits endpoint ⟨equipped.endpoint, equipped.scheduler⟩ split rfl
    · rw [state]
      dsimp only
      split
      · trivial
      · exact nextSplit_waits endpoint equipped split state
  next =>
    rw [works]
    dsimp only
    split
    · trivial
    · split
      next delays =>
        exact ⟨⟨equipped.endpoint, equipped.scheduler⟩, rfl, (Bool.and_eq_true_iff.mp delays).2⟩
      next => trivial

/-- The stage on a channel whose interrupt is taken. -/
structure Interrupted (config : HostConfig) (assured : Prop) (host : HostState) (channel : Nat)
    (index : Fin maxUsbRequests) : Prop where
  rest : AwaitOther config assured index host
  has : host.stageData channel = some index
  masked : host.interruptMask channel = 0
  equipped : Equipped config assured (host.stages index)
  works : Works (host.stages index)
  untimed : host.intervals.count index = 0

/-- The interrupt of a channel is only taken while its stage waits for it. -/
theorem AwaitInv.interrupted {status : BitVec 32} (pools : PoolInv config host) (inv : AwaitInv config assured host)
    (has : host.stageData channel = some index)
    (unmasked : anySet status (host.interruptMask channel) = true) :
    Interrupted config assured { host with interruptMask := Function.update host.interruptMask channel 0 } channel
      index := by
  obtain ⟨onChannel, carries⟩ := pools.attached channel index has
  have works : Works (host.stages index) := by
    obtain ⟨_, masked⟩ | ⟨works, _⟩ := inv.waits index carries
    · rw [onChannel] at masked
      simp [masked, anySet] at unmasked
    · exact works
  refine ⟨?_, has, by simp, inv.equipped index carries, works, ?_⟩
  · refine (inv.except index).congr (inv.known index) inv.enabled (fun _ _ => rfl) (fun _ _ => rfl) ?_
    intro other ne carries'
    have other_channel := pools.other_channel has ne carries'
    simp [other_channel]
  · have timers := inv.timers index
    rw [works.awake] at timers
    exact Nat.le_zero.mp timers

/-- The stage that is interrupted may change, and the others wait as before. -/
theorem Interrupted.setStage {stage : TransferStageData} (taken : Interrupted config assured host channel index)
    (subState : stage.subState = (host.stages index).subState) :
    AwaitOther config assured index (host.setStage index stage) := by
  apply taken.rest.congr
  · simpa [HostState.setStage, subState] using taken.rest.known index
  · exact taken.rest.enabled
  · intro other ne
    simp [HostState.setStage, ne]
  · intro other ne
    rfl
  · intro other ne _
    rfl

/-- A stage that is to be delayed waits for a timer, if there was one. -/
theorem Interrupted.delay {endpoint : Endpoint} {stage : TransferStageData} (pools : PoolInv config host)
    (taken : Interrupted config assured host channel index) (keeps : SameStage (host.stages index) stage)
    (waits : NextWaits config assured endpoint (.delay stage))
    (timer : assured → hardware.timer = true ∨ isPeriodic endpoint = false) :
    AwaitInv config assured { host.setStage index stage with
      intervals := if hardware.timer then host.intervals ++ [index] else host.intervals } := by
  obtain ⟨onChannel, carries⟩ := pools.attached channel index taken.has
  obtain ⟨equipped, state, periodic⟩ := waits
  have set := taken.setStage keeps.subState
  let intervals := if hardware.timer then host.intervals ++ [index] else host.intervals
  have count : ∀ other, intervals.count other =
      host.intervals.count other + if hardware.timer ∧ other = index then 1 else 0 := by
    intro other
    cases found : hardware.timer with
    | true =>
      by_cases same : other = index
      · simp [intervals, found, same]
      · simp [intervals, found, same, Ne.symm same]
    | false => simp [intervals, found]
  have rest : AwaitOther config assured index { host.setStage index stage with intervals } := by
    refine set.congr (set.known index) set.enabled (fun _ _ => rfl) ?_ (fun _ _ _ => rfl)
    intro other ne
    rw [count other, if_neg (fun here => ne here.2)]
    rfl
  have here : (host.setStage index stage).stages index = stage := by simp [HostState.setStage]
  have isDelayed : delayed stage = true := by
    rw [delayed, keeps.urb, state]
    simp [carries]
  refine rest.all ?_ ?_ ?_
  · rw [count index, taken.untimed, here, isDelayed]
    split
    · exact Nat.le_refl 1
    · exact Nat.zero_le 1
  · intro given _
    have found : hardware.timer = true := (timer given).resolve_right (by simp [periodic])
    simp [intervals, found]
  · intro _
    refine ⟨here.symm ▸ equipped, .inl ?_⟩
    constructor
    · rw [here]
      exact state
    · rw [here, keeps.channel, onChannel]
      exact taken.masked

theorem Interrupted.applyNext {endpoint : Endpoint} {following : StageNext} (pools : PoolInv config host)
    (taken : Interrupted config assured host channel index) (keeps : KeepsStage (host.stages index) following)
    (waits : NextWaits config assured endpoint following)
    (timer : assured → hardware.timer = true ∨ isPeriodic endpoint = false)
    (usable : assured → Usable config (host.requests urb))
    (applies : Usb.applyNext config hardware channel index urb host following = some next) :
    AwaitInv config assured next := by
  cases following with
  | transaction stage =>
    obtain rfl := Option.some.inj applies
    have here : (host.setStage index stage).stages index = stage := by simp [HostState.setStage]
    apply (taken.setStage keeps.subState).startTransaction
      (pools.congr (.setStage keeps.channel keeps.urb keeps.endpoint))
    · rw [here, keeps.urb]
      exact (pools.attached channel index taken.has).2
    · rw [here]
      exact waits.1
    · rw [here]
      exact waits.2
    · exact taken.untimed
  | delay stage =>
    obtain rfl := Option.some.inj applies
    exact taken.delay pools keeps waits timer
  -- The channel is free, and the completion routine may start another stage on it.
  | leave status resultLen complete messages =>
    have finished : AwaitInv config assured (finishStage channel index urb status resultLen messages host) :=
      taken.rest.finishStage taken.untimed status resultLen messages
    cases complete with
    | true =>
      refine finished.completes (pools.finishStage taken.has status resultLen messages) ?_ applies
      intro given address endpoint
      apply usable given address
      simpa [finishStage, HostState.note, leaveChannel, HostState.setRequest] using endpoint
    | false =>
      obtain rfl := Option.some.inj applies
      exact finished
  | nothing => exact absurd waits id

/-- The timer that expires was the only one of its stage. -/
theorem AwaitInv.expires {position : Nat} (inv : AwaitInv config assured host)
    (expires : host.intervals[position]? = some index) :
    delayed (host.stages index) = true ∧ (host.intervals.eraseIdx position).count index = 0 ∧
      ∀ other ≠ index, (host.intervals.eraseIdx position).count other = host.intervals.count other := by
  obtain ⟨inside, rfl⟩ := List.getElem?_eq_some_iff.mp expires
  have counts := fun other => (List.getElem_cons_eraseIdx_perm inside).count_eq other
  have timers := inv.timers host.intervals[position]
  have here := counts host.intervals[position]
  rw [List.count_cons_self] at here
  split at timers
  next isDelayed =>
    refine ⟨isDelayed, by omega, ?_⟩
    intro other ne
    rw [← counts other, List.count_cons_of_ne (Ne.symm ne)]
  next => omega

theorem AwaitInv.interval {position : Nat} (pools : PoolInv config host) (inv : AwaitInv config assured host)
    (expires : host.intervals[position]? = some index) :
    AwaitInv config assured (stageInterval config hardware index
      { host with intervals := host.intervals.eraseIdx position }) := by
  obtain ⟨isDelayed, untimed, others⟩ := inv.expires expires
  have carries := (Bool.and_eq_true_iff.mp isDelayed).1
  obtain ⟨sameChannel, sameUrb, sameEndpoint⟩ := beginStage_fields (host.stages index)
  obtain ⟨works, sameSub, sameSplit, sameScheduler⟩ := beginStage_works (host.stages index)
  let begun := ({ host with intervals := host.intervals.eraseIdx position } : HostState).setStage index
    (beginStage (host.stages index))
  have here : begun.stages index = beginStage (host.stages index) := by simp [begun, HostState.setStage]
  have pools' : PoolInv config begun :=
    (pools.congr (.setStage sameChannel sameUrb sameEndpoint)).congr (.of_eq rfl rfl rfl)
  have rest : AwaitOther config assured index begun := by
    refine (inv.except index).congr ?_ inv.enabled ?_ others (fun _ _ _ => rfl)
    · rw [here, sameSub]
      exact inv.known index
    · intro other ne
      simp [begun, HostState.setStage, ne]
  apply rest.startTransaction pools'
  · rw [here, sameUrb]
    exact carries
  · rw [here]
    have equipped := inv.equipped index carries
    refine ⟨sameEndpoint.symm ▸ equipped.endpoint, ?_⟩
    rw [sameSplit, sameScheduler]
    exact equipped.scheduler
  · rw [here]
    exact works
  · exact untimed

theorem Interrupted.interrupt {status packetsLeft bytesLeft : BitVec 32} (pools : PoolInv config host)
    (taken : Interrupted config assured host channel index)
    (timer : assured → ∀ address ∈ (host.stages index).endpoint,
      hardware.timer = true ∨ isPeriodic (config.endpoint address) = false)
    (usable : assured → ∀ urb, (host.stages index).urb = some urb → Usable config (host.requests urb))
    (interrupts : Interrupts config hardware channel status packetsLeft bytesLeft host next) :
    AwaitInv config assured next := by
  have here : ∀ index', host.stageData channel = some index' → index' = index :=
    fun index' has => Option.some.inj (has.symm.trans taken.has)
  have carried := (pools.attached channel index taken.has).2
  -- The channel is started again, or the transaction is counted and the stage goes on.
  cases interrupts with
  | disabled index' has =>
    obtain rfl := here index' has
    exact taken.rest.startTransaction pools carried taken.equipped taken.works taken.untimed
  | halted index' has =>
    obtain rfl := here index' has
    have rest : AwaitOther config assured index' (host.note [.puts "Transaction halted, restarting."]) :=
      taken.rest.congr (taken.rest.known index') taken.rest.enabled (fun _ _ => rfl) (fun _ _ => rfl)
        (fun _ _ _ => rfl)
    exact rest.startTransaction (pools.congr (.note _)) carried taken.equipped taken.works taken.untimed
  | transaction index' urb address stage nextPID next has carries waits ended endpoint completes applies =>
    obtain rfl := here index' has
    obtain ⟨same, state, _, _, scheduler⟩ := transactionComplete_same completes
    let moved : HostState :=
      { host.setStage index' stage with nextPID := Function.update host.nextPID address nextPID }
    have pools' : PoolInv config moved :=
      (pools.congr (.setStage same.channel same.urb same.endpoint)).congr (.of_eq rfl rfl rfl)
    have stageHere : moved.stages index' = stage := by simp [moved, HostState.setStage]
    have equipped : Equipped config assured stage := by
      refine ⟨same.endpoint ▸ taken.equipped.endpoint, ?_⟩
      rw [same.splitTransaction, scheduler]
      exact taken.equipped.scheduler
    have works : Works stage := by
      rw [Works, same.splitTransaction, state]
      exact taken.works
    have taken' : Interrupted config assured moved channel index' := by
      refine ⟨?_, taken.has, taken.masked, stageHere ▸ equipped, stageHere ▸ works, taken.untimed⟩
      refine taken.rest.congr ?_ taken.rest.enabled ?_ (fun _ _ => rfl) (fun _ _ _ => rfl)
      · rw [stageHere, same.subState]
        exact taken.rest.known index'
      · intro other ne
        simp [moved, HostState.setStage, ne]
    apply taken'.applyNext pools' _ (stageNext_waits (config.endpoint address) equipped works)
      (fun given => timer given address endpoint) _ applies
    · rw [stageHere]
      exact stageNext_keeps _ stage
    · exact fun given => usable given urb carries

/-- Every run keeps the invariant, if nothing more is assured. -/
theorem AwaitInv.step {event : HostEvent × Hardware} (pools : PoolInv config host)
    (inv : AwaitInv config False host) (steps : hostStep config host event = some next) :
    AwaitInv config False next := by
  have attaches : ∀ {hardware urb request host}, PoolInv config host → AwaitInv config False host →
      submitRequest config hardware urb request host = some next → AwaitInv config False next := by
    intro hardware urb request host pools inv submits
    have inv' : AwaitInv config False (attachRequest urb request host) := inv.of_eq rfl rfl rfl rfl rfl
    have pools' : PoolInv config (attachRequest urb request host) := pools.congr (.of_eq rfl rfl rfl)
    exact inv'.submit pools' False.elim submits
  cases hostStep_steps steps with
  | refused event hardware request text calls full => exact inv.of_eq rfl rfl rfl rfl rfl
  | call event hardware urb request next calls found submits => exact attaches pools inv submits
  | resubmit hardware urb endpoint buffer bufLen complete param context next submits =>
    have inv' : AwaitInv config False (dropHeld urb host) := inv.of_eq rfl rfl rfl rfl rfl
    have pools' : PoolInv config (dropHeld urb host) := pools.congr (.of_eq rfl rfl rfl)
    exact attaches pools' inv' submits
  | free hardware urb => exact inv.of_eq rfl rfl rfl rfl rfl
  | interrupt hardware channel status packetsLeft bytesLeft next enabled unmasked interrupts =>
    obtain ⟨index, has⟩ := Option.isSome_iff_exists.mp ((inv.enabled channel).symm.trans enabled)
    have masked : PoolInv config
        { host with interruptMask := Function.update host.interruptMask channel 0 } :=
      pools.congr (.of_eq rfl rfl rfl)
    exact (inv.interrupted pools has unmasked).interrupt masked False.elim False.elim interrupts
  | interval hardware position index expires => exact inv.interval pools expires

end ComputerSystems.Verified
