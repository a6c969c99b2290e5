import ComputerSystems.Usb.HostController
import ComputerSystems.Data.Run
import Mathlib.Data.Fintype.EquivFin

/-! # Channels and stages of the host controller

A channel is allocated in a bit mask, a table of pointers and a pool of stages.
`PoolInv` says that the three agree.  It holds whatever the clients do with their
requests: most of what the driver does leaves the pools alone (`SamePools`), and the
rest is one way in (`transferStageAsync`) and one way out (`leaveChannel`).
-/

namespace ComputerSystems.Verified

open ComputerSystems.Usb ComputerSystems.System ComputerSystems.Data

variable {config : HostConfig} {hardware : Hardware} {host next : HostState}
  {urb : Fin maxUsbRequests} {index : Fin maxUsbRequests} {channel : Nat}

/-! ## The invariant -/

structure PoolInv (config : HostConfig) (host : HostState) : Prop where
  allocated : ∀ channel, host.channelAllocated.getLsbD channel = (host.stageData channel).isSome
  inside : ∀ channel, (host.stageData channel).isSome → channel < config.channels
  attached : ∀ channel index, host.stageData channel = some index →
    (host.stages index).channel = channel ∧ (host.stages index).urb.isSome
  used : ∀ index, (host.stages index).free = false →
    host.stageData (host.stages index).channel = some index

/-- The pools agree: what holds of every channel between two events. -/
structure PoolsAgree (config : HostConfig) (host : HostState) : Prop where
  allocated : ∀ channel < config.channels,
    (host.channelAllocated.getLsbD channel = true ↔ (host.stageData channel).isSome)
  attached : ∀ channel < config.channels, ∀ index, host.stageData channel = some index →
    (host.stages index).channel = channel
  distinct : ∀ first < config.channels, ∀ second < config.channels, ∀ index,
    host.stageData first = some index → host.stageData second = some index → first = second
  used : ∀ index, (host.stages index).free = false ↔
    ∃ channel < config.channels, host.stageData channel = some index

theorem free_of_urb {stage : TransferStageData} (none : stage.urb.isSome) : stage.free = false := by
  cases stage with
  | mk _ urb =>
    cases urb with
    | none => simp at none
    | some urb => simp [TransferStageData.free]

theorem PoolInv.agree (inv : PoolInv config host) : PoolsAgree config host := by
  constructor
  · intro channel _
    rw [inv.allocated channel]
  · intro channel _ index has
    exact (inv.attached channel index has).1
  · intro first _ second _ index has has'
    exact (inv.attached first index has).1.symm.trans (inv.attached second index has').1
  · intro index
    constructor
    · intro used
      have has := inv.used index used
      exact ⟨_, inv.inside _ (by rw [has]; rfl), has⟩
    · rintro ⟨channel, _, has⟩
      exact free_of_urb (inv.attached channel index has).2

theorem hostStart_poolInv (nextPID : Address → PID) : PoolInv config (hostStart nextPID) := by
  constructor
  · intro channel
    simp [hostStart]
  · intro channel has
    simp [hostStart] at has
  · intro channel index has
    simp [hostStart] at has
  · intro index used
    simp [hostStart, TransferStageData.free] at used

/-! ## What leaves the pools alone -/

/-- The same channels, and the same request on every stage. -/
structure SamePools (host next : HostState) : Prop where
  channelAllocated : next.channelAllocated = host.channelAllocated
  stageData : next.stageData = host.stageData
  channel : ∀ index, (next.stages index).channel = (host.stages index).channel
  urb : ∀ index, (next.stages index).urb = (host.stages index).urb
  endpoint : ∀ index, (next.stages index).endpoint = (host.stages index).endpoint

/-- The pools themselves are the same. -/
theorem SamePools.of_eq (channelAllocated : next.channelAllocated = host.channelAllocated)
    (stageData : next.stageData = host.stageData) (stages : next.stages = host.stages) :
    SamePools host next :=
  ⟨channelAllocated, stageData, fun _ => by rw [stages], fun _ => by rw [stages], fun _ => by rw [stages]⟩

theorem SamePools.trans {last : HostState} (first : SamePools host next) (second : SamePools next last) :
    SamePools host last where
  channelAllocated := second.channelAllocated.trans first.channelAllocated
  stageData := second.stageData.trans first.stageData
  channel index := (second.channel index).trans (first.channel index)
  urb index := (second.urb index).trans (first.urb index)
  endpoint index := (second.endpoint index).trans (first.endpoint index)

theorem PoolInv.congr (inv : PoolInv config host) (same : SamePools host next) : PoolInv config next := by
  have free : ∀ index, (next.stages index).free = (host.stages index).free := by
    intro index
    rw [TransferStageData.free, TransferStageData.free, same.urb, same.endpoint]
  constructor
  · rw [same.channelAllocated, same.stageData]
    exact inv.allocated
  · rw [same.stageData]
    exact inv.inside
  · intro channel index has
    rw [same.stageData] at has
    rw [same.channel, same.urb]
    exact inv.attached channel index has
  · intro index used
    rw [free] at used
    rw [same.stageData, same.channel]
    exact inv.used index used

/-- A stage is changed, but not what it belongs to. -/
theorem SamePools.setStage {stage : TransferStageData} (channel : stage.channel = (host.stages index).channel)
    (urb : stage.urb = (host.stages index).urb) (endpoint : stage.endpoint = (host.stages index).endpoint) :
    SamePools host (host.setStage index stage) := by
  have kept : ∀ {α : Type} (field : TransferStageData → α), field stage = field (host.stages index) →
      ∀ other, field ((host.setStage index stage).stages other) = field (host.stages other) := by
    intro α field same other
    by_cases here : other = index
    · subst here
      simpa [HostState.setStage] using same
    · simp [HostState.setStage, here]
  exact ⟨rfl, rfl, kept _ channel, kept _ urb, kept _ endpoint⟩

theorem SamePools.note (actions : List HostAction) : SamePools host (host.note actions) :=
  .of_eq rfl rfl rfl

theorem startTransaction_same (config : HostConfig) (hardware : Hardware) (index : Fin maxUsbRequests)
    (host : HostState) : SamePools host (startTransaction config hardware index host) := by
  rw [startTransaction]
  split
  · have same := @SamePools.setStage host index
      { host.stages index with subState := .waitForChannelDisable } rfl rfl rfl
    exact same.trans (.of_eq rfl rfl rfl)
  · have same := @SamePools.setStage host index
      { host.stages index with
        subState := .waitForTransactionComplete
        frameScheduler := (host.stages index).frameScheduler.map (.wait hardware.frame) } rfl rfl rfl
    exact same.trans (.of_eq rfl rfl rfl)

/-! ## The way in and the way out -/

theorem getLsbD_set (mask : BitVec 32) {channel : Nat} (inside : channel < 32) (bit : Nat) :
    (mask ||| BitVec.twoPow 32 channel).getLsbD bit = (mask.getLsbD bit || decide (channel = bit)) := by
  simp [BitVec.getLsbD_twoPow, inside]

theorem getLsbD_clear (mask : BitVec 32) (channel bit : Nat) :
    (mask &&& ~~~ BitVec.twoPow 32 channel).getLsbD bit =
      (mask.getLsbD bit && !decide (channel = bit)) := by
  by_cases inside : bit < 32
  · by_cases here : channel = bit
    · simp [here, inside]
    · simp [here, inside, Ne.symm here]
  · simp [BitVec.getLsbD_of_ge _ _ (Nat.not_lt.mp inside)]

theorem newChannel_some {mask : BitVec 32} (found : newChannel config mask = some channel) :
    channel < config.channels ∧ mask.getLsbD channel = false := by
  have member := List.mem_of_find?_eq_some found
  have unset := List.find?_some found
  exact ⟨List.mem_range.mp member, by simpa using unset⟩

/-- A channel is found unless all are allocated. -/
theorem newChannel_of_unset {mask : BitVec 32} (inside : channel < config.channels)
    (unset : mask.getLsbD channel = false) : (newChannel config mask).isSome := by
  rw [newChannel, List.find?_isSome]
  exact ⟨channel, List.mem_range.mpr inside, by simp [unset]⟩

theorem newStageData_some {stages : Fin maxUsbRequests → TransferStageData}
    (found : newStageData stages = some index) :
    (stages index).free = true := by
  have free := List.find?_some found
  exact free

/-- With no more channels than stages, a stage is found for every channel that is. -/
theorem PoolInv.finds_stage (inv : PoolInv config host) (few : config.channels ≤ maxUsbRequests)
    (found : newChannel config host.channelAllocated = some channel) :
    (newStageData host.stages).isSome := by
  obtain ⟨inside, unset⟩ := newChannel_some found
  rw [newStageData, List.find?_isSome]
  by_contra none
  have taken : ∀ index, host.stageData (host.stages index).channel = some index := by
    intro index
    apply inv.used index
    apply Bool.of_not_eq_true
    intro free
    exact none ⟨index, List.mem_finRange index, free⟩
  -- Every stage has a channel of its own, so that all channels are taken.
  let onto : Fin maxUsbRequests → Fin maxUsbRequests := fun index =>
    ⟨(host.stages index).channel,
      Nat.lt_of_lt_of_le (inv.inside _ (by rw [taken index]; rfl)) few⟩
  have injective : Function.Injective onto := by
    intro first second same
    have channels : (host.stages first).channel = (host.stages second).channel := Fin.mk.inj same
    have taken' := taken first
    rw [channels, taken second] at taken'
    exact (Option.some.inj taken').symm
  obtain ⟨index, reaches⟩ :=
    Finite.surjective_of_injective injective ⟨channel, Nat.lt_of_lt_of_le inside few⟩
  have here : (host.stages index).channel = channel := Fin.mk.inj reaches
  have allocated := inv.allocated channel
  rw [← here, taken index, here, unset] at allocated
  cases allocated

/-- `transfer_stage_async` finds no channel, or issues a stage on one. -/
theorem transferStageAsync_cases {isIn statusStage started : Bool}
    (runs : transferStageAsync config hardware urb isIn statusStage host = some (started, next)) :
    (started = false ∧ newChannel config host.channelAllocated = none ∧
      next = host.note [.puts "new_channel() failed"]) ∨
    (started = true ∧ ∃ channel index address stage,
      newChannel config host.channelAllocated = some channel ∧
      newStageData host.stages = some index ∧
      (host.requests urb).endpoint = some address ∧
      transferStageDataAttach (config.endpoint address) (host.nextPID address) channel urb
        (host.requests urb) isIn statusStage = some stage ∧
      next = startTransaction config hardware index
        ((enterChannel channel index (beginStage stage) host).note
          [.issued urb ⟨isIn, endpointGetNextPID (host.nextPID address) statusStage, stage.bufferPointer,
            stage.transferSize⟩])) := by
  rw [transferStageAsync] at runs
  cases found : newChannel config host.channelAllocated with
  | none =>
    rw [found] at runs
    cases runs
    exact .inl ⟨rfl, rfl, rfl⟩
  | some channel =>
    simp only [found, Option.bind_eq_bind, Option.bind_eq_some_iff, Option.some.injEq,
      Prod.mk.injEq] at runs
    obtain ⟨index, stageFound, address, endpoint, stage, attached, rfl, rfl⟩ := runs
    exact .inr ⟨rfl, channel, index, address, stage, rfl, stageFound, endpoint, attached, rfl⟩

/-- What a stage carries when it has been attached. -/
theorem transferStageDataAttach_fields {endpoint : Endpoint} {nextPID : PID} {request : Request}
    {isIn statusStage : Bool} {stage : TransferStageData}
    (attached : transferStageDataAttach endpoint nextPID channel urb request isIn statusStage = some stage) :
    stage.channel = channel ∧ stage.urb = some urb ∧ stage.endpoint = request.endpoint := by
  cases statusStage with
  | true =>
    cases attached
    exact ⟨rfl, rfl, rfl⟩
  | false =>
    simp only [transferStageDataAttach, Bool.false_eq_true, if_false, Option.map_eq_some_iff] at attached
    obtain ⟨packets, _, rfl⟩ := attached
    exact ⟨rfl, rfl, rfl⟩

theorem beginStage_fields (stage : TransferStageData) :
    (beginStage stage).channel = stage.channel ∧ (beginStage stage).urb = stage.urb ∧
      (beginStage stage).endpoint = stage.endpoint := by
  rw [beginStage]
  split
  · exact ⟨rfl, rfl, rfl⟩
  · exact ⟨rfl, rfl, rfl⟩

/-- A stage is put on a channel that was free. -/
theorem PoolInv.enter {stage : TransferStageData} (inv : PoolInv config host)
    (found : newChannel config host.channelAllocated = some channel)
    (stageFound : newStageData host.stages = some index)
    (onChannel : stage.channel = channel) (carries : stage.urb = some urb) :
    PoolInv config (enterChannel channel index stage host) := by
  obtain ⟨inside, unset⟩ := newChannel_some found
  have narrow : channel < 32 := Nat.lt_of_lt_of_le inside (Nat.le_trans config.channels_le (by decide))
  -- Neither the channel nor the element has been in use.
  have empty : host.stageData channel = none := by
    have agrees := inv.allocated channel
    rw [unset] at agrees
    exact Option.isNone_iff_eq_none.mp (by simpa using agrees.symm)
  have unused : ∀ channel', host.stageData channel' ≠ some index := by
    intro channel' has
    have used := free_of_urb (inv.attached channel' index has).2
    rw [newStageData_some stageFound] at used
    cases used
  constructor
  · intro bit
    rw [enterChannel, getLsbD_set _ narrow, inv.allocated bit]
    by_cases here : bit = channel
    · subst here
      simp
    · simp [here, Ne.symm here]
  · intro channel' has
    by_cases here : channel' = channel
    · exact here ▸ inside
    · simp only [enterChannel, Function.update_of_ne here] at has
      exact inv.inside channel' has
  · intro channel' index' has
    by_cases here : channel' = channel
    · subst here
      simp only [enterChannel, Function.update_self, Option.some.injEq] at has
      subst has
      simp [enterChannel, onChannel, carries]
    · simp only [enterChannel, Function.update_of_ne here] at has
      have other : index' ≠ index := fun same => unused channel' (same ▸ has)
      simp only [enterChannel, Function.update_of_ne other]
      exact inv.attached channel' index' has
  · intro index' used
    by_cases here : index' = index
    · subst here
      simp [enterChannel, onChannel]
    · simp only [enterChannel, Function.update_of_ne here] at used ⊢
      have has := inv.used index' used
      have other : (host.stages index').channel ≠ channel := by
        intro same
        rw [same, empty] at has
        cases has
      rw [Function.update_of_ne other]
      exact has

/-- A channel is given up together with its stage. -/
theorem PoolInv.leave (inv : PoolInv config host) (has : host.stageData channel = some index) :
    PoolInv config (leaveChannel channel index host) := by
  have onChannel := (inv.attached channel index has).1
  constructor
  · intro bit
    rw [leaveChannel, getLsbD_clear, inv.allocated bit]
    by_cases here : bit = channel
    · subst here
      simp
    · simp [here, Ne.symm here]
  · intro channel' has'
    by_cases here : channel' = channel
    · simp [leaveChannel, here] at has'
    · simp only [leaveChannel, Function.update_of_ne here] at has'
      exact inv.inside channel' has'
  · intro channel' index' has'
    by_cases here : channel' = channel
    · simp [leaveChannel, here] at has'
    · simp only [leaveChannel, Function.update_of_ne here] at has'
      have other : index' ≠ index := by
        intro same
        subst same
        exact here ((inv.attached channel' index' has').1.symm.trans onChannel)
      simp only [leaveChannel, Function.update_of_ne other]
      exact inv.attached channel' index' has'
  · intro index' used
    by_cases here : index' = index
    · subst here
      simp [leaveChannel, transferStageDataRelease, TransferStageData.free] at used
    · simp only [leaveChannel, Function.update_of_ne here] at used ⊢
      have has' := inv.used index' used
      have other : (host.stages index').channel ≠ channel := by
        intro same
        rw [same, has] at has'
        exact here (Option.some.inj has').symm
      rw [Function.update_of_ne other]
      exact has'

/-! ## Submitting and completing requests -/

theorem PoolInv.transferStageAsync {isIn statusStage started : Bool} (inv : PoolInv config host)
    (runs : Usb.transferStageAsync config hardware urb isIn statusStage host = some (started, next)) :
    PoolInv config next := by
  obtain ⟨_, _, rfl⟩ | ⟨_, channel, index, address, stage, found, stageFound, endpoint, attached, rfl⟩ :=
    transferStageAsync_cases runs
  · exact inv.congr (.of_eq rfl rfl rfl)
  · obtain ⟨onChannel, carries, _⟩ := transferStageDataAttach_fields attached
    obtain ⟨sameChannel, sameUrb, _⟩ := beginStage_fields stage
    have entered := inv.enter found stageFound (sameChannel.trans onChannel) (sameUrb.trans carries)
    apply entered.congr
    exact .trans (.note _) (startTransaction_same config hardware index _)

/-- The request as `HostSubmitAsyncRequest` begins with it. -/
def submitted (host : HostState) (urb : Fin maxUsbRequests) : Request :=
  { host.requests urb with status := 0 }

/-- What `HostSubmitAsyncRequest` does: on a control endpoint the stage that comes
    next, elsewhere the only one. -/
inductive Submits (config : HostConfig) (hardware : Hardware) (urb : Fin maxUsbRequests) (state : Nat)
    (host : HostState) : HostState → Prop where
  | nothing (address : Address) (setup : SetupData)
      (endpoint : (host.requests urb).endpoint = some address)
      (type : (config.endpoint address).type = .control)
      (data : (host.requests urb).setupData = some setup)
      (stage : controlStage setup state (submitted host urb) = none) :
      Submits config hardware urb state host (host.setRequest urb (submitted host urb))
  | control (address : Address) (setup : SetupData) (request : Request) (isIn statusStage started : Bool)
      (next : HostState)
      (endpoint : (host.requests urb).endpoint = some address)
      (type : (config.endpoint address).type = .control)
      (data : (host.requests urb).setupData = some setup)
      (stage : controlStage setup state (submitted host urb) = some (request, isIn, statusStage))
      (runs : transferStageAsync config hardware urb isIn statusStage (host.setRequest urb request) =
        some (started, next)) :
      Submits config hardware urb state host next
  | other (address : Address) (started : Bool) (next : HostState)
      (endpoint : (host.requests urb).endpoint = some address)
      (type : (config.endpoint address).type ≠ .control)
      (runs : transferStageAsync config hardware urb (config.endpoint address).directionIn false
        (host.setRequest urb (submitted host urb)) = some (started, next)) :
      Submits config hardware urb state host (if started then next
        else next.note [.puts "HostSubmitAsyncRequest TransferStageAsync failed"])

theorem hostSubmitAsyncRequest_submits {state : Nat}
    (runs : hostSubmitAsyncRequest config hardware urb state host = some next) :
    Submits config hardware urb state host next := by
  simp only [hostSubmitAsyncRequest, Option.bind_eq_bind, Option.bind_eq_some_iff] at runs
  obtain ⟨address, endpoint, runs⟩ := runs
  by_cases control : (config.endpoint address).type = .control
  · rw [if_pos control, Option.bind_eq_some_iff] at runs
    obtain ⟨setup, data, runs⟩ := runs
    cases stage : controlStage setup state (submitted host urb) with
    | none =>
      simp only [submitted] at stage
      rw [stage] at runs
      obtain rfl := Option.some.inj runs
      exact .nothing address setup endpoint control data stage
    | some found =>
      obtain ⟨request, isIn, statusStage⟩ := found
      simp only [submitted] at stage
      rw [stage, Option.map_eq_some_iff] at runs
      obtain ⟨⟨started, last⟩, runs, rfl⟩ := runs
      exact .control address setup request isIn statusStage started last endpoint control data stage runs
  · rw [if_neg control, Option.bind_eq_some_iff] at runs
    obtain ⟨⟨started, middle⟩, runs, last⟩ := runs
    have result : next = if started then middle
        else middle.note [.puts "HostSubmitAsyncRequest TransferStageAsync failed"] := by
      cases started with
      | true => exact (Option.some.inj last).symm
      | false => exact (Option.some.inj last).symm
    rw [result]
    exact .other address started middle endpoint control runs
theorem PoolInv.submit {state : Nat} (inv : PoolInv config host)
    (runs : hostSubmitAsyncRequest config hardware urb state host = some next) : PoolInv config next := by
  have changed : ∀ request, PoolInv config (host.setRequest urb request) :=
    fun _ => inv.congr (.of_eq rfl rfl rfl)
  cases hostSubmitAsyncRequest_submits runs with
  | nothing => exact changed _
  | control address setup request isIn statusStage started next endpoint type data stage starts =>
    exact (changed request).transferStageAsync starts
  | other address started middle endpoint type starts =>
    have kept := (changed _).transferStageAsync starts
    cases started with
    | true => exact kept
    | false => exact kept.congr (.of_eq rfl rfl rfl)

theorem PoolInv.submitRequest {request : Request} (inv : PoolInv config host)
    (runs : Usb.submitRequest config hardware urb request host = some next) : PoolInv config next := by
  have changed : PoolInv config ((host.setRequest urb request).note [.submitted urb request]) :=
    inv.congr (.of_eq rfl rfl rfl)
  exact changed.submit runs

theorem PoolInv.completes (inv : PoolInv config host)
    (runs : requestCallCompletionRoutine config hardware urb host = some next) :
    PoolInv config next := by
  rw [requestCallCompletionRoutine] at runs
  cases routine : (host.requests urb).completion.routine with
  | none => simp [routine] at runs
  | some routine' =>
    cases routine' with
    | hostSubmitAsyncRequest =>
      rw [routine] at runs
      exact inv.submit runs
    | transferComplete =>
      rw [routine] at runs
      obtain rfl := Option.some.inj runs
      exact inv.congr (.of_eq rfl rfl rfl)
    | client address =>
      rw [routine] at runs
      obtain rfl := Option.some.inj runs
      exact inv.congr (.of_eq rfl rfl rfl)

/-! ## Interrupts -/

/-- What the interrupt of a channel does with the stage on it. -/
inductive Interrupts (config : HostConfig) (hardware : Hardware) (channel : Nat)
    (status packetsLeft bytesLeft : BitVec 32) (host : HostState) : HostState → Prop where
  | disabled (index : Fin maxUsbRequests) (has : host.stageData channel = some index) :
      Interrupts config hardware channel status packetsLeft bytesLeft host
        (startTransaction config hardware index host)
  | halted (index : Fin maxUsbRequests) (has : host.stageData channel = some index) :
      Interrupts config hardware channel status packetsLeft bytesLeft host
        (startTransaction config hardware index (host.note [.puts "Transaction halted, restarting."]))
  | transaction (index urb : Fin maxUsbRequests) (address : Address) (stage : TransferStageData)
      (nextPID : PID) (next : HostState)
      (has : host.stageData channel = some index) (carries : (host.stages index).urb = some urb)
      (waits : (host.stages index).subState = .waitForTransactionComplete) (ended : status ≠ hcIntChHltd)
      (endpoint : (host.stages index).endpoint = some address)
      (completes : transactionComplete status packetsLeft bytesLeft (host.stages index)
        (host.nextPID address) = (stage, nextPID))
      (applies : applyNext config hardware channel index urb
        { host.setStage index stage with nextPID := Function.update host.nextPID address nextPID }
        (stageNext (config.endpoint address) stage) = some next) :
      Interrupts config hardware channel status packetsLeft bytesLeft host next

theorem processChannelInterrupt_interrupts {status packetsLeft bytesLeft : BitVec 32}
    (runs : processChannelInterrupt config hardware channel status packetsLeft bytesLeft host = some next) :
    Interrupts config hardware channel status packetsLeft bytesLeft host next := by
  simp only [processChannelInterrupt, Option.bind_eq_bind, Option.bind_eq_some_iff] at runs
  obtain ⟨index, has, urb, carries, runs⟩ := runs
  cases waits : (host.stages index).subState with
  | waitForChannelDisable =>
    rw [waits] at runs
    obtain rfl := Option.some.inj runs
    exact .disabled index has
  | unknown => simp [waits] at runs
  | waitForTransactionComplete =>
    rw [waits] at runs
    by_cases halted : status = hcIntChHltd
    · simp only [if_pos halted] at runs
      obtain rfl := Option.some.inj runs
      exact .halted index has
    · simp only [if_neg halted, Option.bind_eq_some_iff] at runs
      obtain ⟨address, endpoint, applies⟩ := runs
      exact .transaction index urb address _ _ next has carries waits halted endpoint rfl applies

/-- What a stage keeps on its channel. -/
structure SameStage (stage after : TransferStageData) : Prop where
  channel : after.channel = stage.channel
  urb : after.urb = stage.urb
  endpoint : after.endpoint = stage.endpoint
  subState : after.subState = stage.subState
  statusStage : after.statusStage = stage.statusStage
  splitTransaction : after.splitTransaction = stage.splitTransaction
  bufferPointer : after.bufferPointer = stage.bufferPointer

/-- What a transaction leaves of a stage. -/
theorem transactionComplete_same {status packetsLeft bytesLeft : BitVec 32}
    {before stage : TransferStageData} {pid nextPID : PID}
    (completes : transactionComplete status packetsLeft bytesLeft before pid = (stage, nextPID)) :
    SameStage before stage ∧ stage.state = before.state ∧ stage.splitComplete = before.splitComplete ∧
      stage.transactionStatus = status ∧ stage.frameScheduler = before.frameScheduler := by
  rw [transactionComplete] at completes
  split at completes
  · cases completes
    exact ⟨⟨rfl, rfl, rfl, rfl, rfl, rfl, rfl⟩, rfl, rfl, rfl, rfl⟩
  · cases completes
    exact ⟨⟨rfl, rfl, rfl, rfl, rfl, rfl, rfl⟩, rfl, rfl, rfl, rfl⟩

/-- The stage that goes on is still on its channel. -/
def KeepsStage (stage : TransferStageData) : StageNext → Prop
  | .transaction after | .delay after => SameStage stage after
  | .leave _ _ _ _ | .nothing => True

theorem SameStage.trans {stage middle after : TransferStageData} (first : SameStage stage middle)
    (second : SameStage middle after) : SameStage stage after where
  channel := second.channel.trans first.channel
  urb := second.urb.trans first.urb
  endpoint := second.endpoint.trans first.endpoint
  subState := second.subState.trans first.subState
  statusStage := second.statusStage.trans first.statusStage
  splitTransaction := second.splitTransaction.trans first.splitTransaction
  bufferPointer := second.bufferPointer.trans first.bufferPointer

theorem KeepsStage.of_same {stage middle : TransferStageData} {following : StageNext}
    (keeps : KeepsStage middle following) (same : SameStage stage middle) : KeepsStage stage following := by
  cases following with
  | transaction after => exact same.trans keeps
  | delay after => exact same.trans keeps
  | leave | nothing => trivial

theorem leaveCompleteSplit_keeps (endpoint : Endpoint) (stage : TransferStageData) :
    KeepsStage stage (leaveCompleteSplit endpoint stage) := by
  rw [leaveCompleteSplit]
  split
  · split
    · exact ⟨rfl, rfl, rfl, rfl, rfl, rfl, rfl⟩
    · exact ⟨rfl, rfl, rfl, rfl, rfl, rfl, rfl⟩
  · trivial

theorem nextSplit_keeps (endpoint : Endpoint) (stage : TransferStageData) :
    KeepsStage stage (nextSplit endpoint stage) := by
  rw [nextSplit]
  cases stage.frameScheduler with
  | none => trivial
  | some scheduler =>
    dsimp only
    split
    · exact ⟨rfl, rfl, rfl, rfl, rfl, rfl, rfl⟩
    · exact KeepsStage.of_same (leaveCompleteSplit_keeps endpoint _) ⟨rfl, rfl, rfl, rfl, rfl, rfl, rfl⟩

theorem stageNext_keeps (endpoint : Endpoint) (stage : TransferStageData) :
    KeepsStage stage (stageNext endpoint stage) := by
  rw [stageNext]
  cases stage.state with
  | noSplitTransfer =>
    dsimp only
    split
    · trivial
    · split
      · exact ⟨rfl, rfl, rfl, rfl, rfl, rfl, rfl⟩
      · trivial
  | startSplit =>
    dsimp only
    split
    · trivial
    · exact KeepsStage.of_same (nextSplit_keeps endpoint _) ⟨rfl, rfl, rfl, rfl, rfl, rfl, rfl⟩
  | completeSplit =>
    dsimp only
    split
    · trivial
    · exact nextSplit_keeps endpoint stage
  | periodicDelay => trivial
  | unknown => trivial

theorem PoolInv.finishStage (inv : PoolInv config host) (has : host.stageData channel = some index)
    (status : Int) (resultLen : Option (BitVec 32)) (messages : List HostAction) :
    PoolInv config (Usb.finishStage channel index urb status resultLen messages host) := by
  have changed : ∀ request, PoolInv config (host.setRequest urb request) :=
    fun _ => inv.congr (.of_eq rfl rfl rfl)
  exact ((changed _).leave has).congr (.of_eq rfl rfl rfl)

/-- The channel that a stage has left is found again. -/
theorem finishStage_channel (pools : PoolInv config host) (has : host.stageData channel = some index)
    (status : Int) (resultLen : Option (BitVec 32)) (messages : List HostAction) :
    (newChannel config
      (finishStage channel index urb status resultLen messages host).channelAllocated).isSome := by
  apply newChannel_of_unset (pools.inside channel (by rw [has]; rfl))
  have finished : PoolInv config (finishStage channel index urb status resultLen messages host) :=
    pools.finishStage has status resultLen messages
  rw [finished.allocated channel]
  simp [finishStage, HostState.note, leaveChannel]

theorem PoolInv.applyNext (inv : PoolInv config host) (has : host.stageData channel = some index)
    {following : StageNext} (keeps : KeepsStage (host.stages index) following)
    (applies : Usb.applyNext config hardware channel index urb host following = some next) :
    PoolInv config next := by
  cases following with
  | transaction stage =>
    obtain rfl := Option.some.inj applies
    exact (inv.congr (.setStage keeps.channel keeps.urb keeps.endpoint)).congr (startTransaction_same _ _ _ _)
  | delay stage =>
    obtain rfl := Option.some.inj applies
    exact (inv.congr (.setStage keeps.channel keeps.urb keeps.endpoint)).congr (.of_eq rfl rfl rfl)
  | leave status resultLen complete messages =>
    have finished : PoolInv config (Usb.finishStage channel index urb status resultLen messages host) :=
      inv.finishStage has status resultLen messages
    cases complete with
    | true => exact finished.completes applies
    | false =>
      obtain rfl := Option.some.inj applies
      exact finished
  | nothing =>
    obtain rfl := Option.some.inj applies
    exact inv

theorem PoolInv.interrupt {status packetsLeft bytesLeft : BitVec 32} (inv : PoolInv config host)
    (interrupts : Interrupts config hardware channel status packetsLeft bytesLeft host next) :
    PoolInv config next := by
  cases interrupts with
  | disabled index has => exact inv.congr (startTransaction_same _ _ _ _)
  | halted index has =>
    apply inv.congr
    exact .trans (.note _) (startTransaction_same config hardware index _)
  | transaction index urb address stage nextPID next has carries waits ended endpoint completes applies =>
    have same := (transactionComplete_same completes).1
    have kept : PoolInv config
        { host.setStage index stage with nextPID := Function.update host.nextPID address nextPID } :=
      (inv.congr (.setStage same.channel same.urb same.endpoint)).congr (.of_eq rfl rfl rfl)
    apply kept.applyNext has _ applies
    simpa [HostState.setStage] using stageNext_keeps _ stage

/-! ## Runs -/

/-- The request that a call makes. -/
def HostEvent.request : HostEvent → Option Request
  | .control endpoint setup data complete param =>
    some (requestSetCompletionRoutine (callCompletion complete param)
      (requestAttach endpoint data (setup.length.setWidth 32) (some setup) {}))
  | .transfer endpoint buffer bufSize complete =>
    some (requestSetCompletionRoutine (callCompletion complete endpoint)
      (requestAttach endpoint buffer bufSize none {}))
  | _ => none

/-- The request as a client attaches it again. -/
def resubmitted (endpoint : Address) (buffer : Option Address) (bufLen : BitVec 32) (complete : Address)
    (param context : Nat) : Request :=
  requestSetCompletionRoutine ⟨some (.client complete), param, context⟩
    (requestAttach endpoint buffer bufLen none {})

/-- What one event does. -/
inductive HostSteps (config : HostConfig) (host : HostState) : HostEvent × Hardware → HostState → Prop where
  | refused (event : HostEvent) (hardware : Hardware) (request : Request) (text : String)
      (calls : HostEvent.request event = some request) (full : newRequest host.requests = none) :
      HostSteps config host (event, hardware) (host.note [.puts text])
  | call (event : HostEvent) (hardware : Hardware) (urb : Fin maxUsbRequests) (request : Request)
      (next : HostState) (calls : HostEvent.request event = some request)
      (found : findRequest host.requests = some urb)
      (submits : submitRequest config hardware urb request host = some next) :
      HostSteps config host (event, hardware) next
  | resubmit (hardware : Hardware) (urb : Fin maxUsbRequests) (endpoint : Address)
      (buffer : Option Address) (bufLen : BitVec 32) (complete : Address) (param context : Nat)
      (next : HostState)
      (submits : submitRequest config hardware urb
        (resubmitted endpoint buffer bufLen complete param context)
        { host with held := Function.update host.held urb false } = some next) :
      HostSteps config host (.resubmit urb endpoint buffer bufLen complete param context, hardware) next
  | free (hardware : Hardware) (urb : Fin maxUsbRequests) :
      HostSteps config host (.free urb, hardware)
        { host.setRequest urb (freeRequest (host.requests urb)) with
          held := Function.update host.held urb false }
  | interrupt (hardware : Hardware) (channel : Nat) (status packetsLeft bytesLeft : BitVec 32)
      (next : HostState) (enabled : host.channelEnabled channel = true)
      (unmasked : anySet status (host.interruptMask channel) = true)
      (interrupts : Interrupts config hardware channel status packetsLeft bytesLeft
        { host with interruptMask := Function.update host.interruptMask channel 0 } next) :
      HostSteps config host (.interrupt channel status packetsLeft bytesLeft, hardware) next
  | interval (hardware : Hardware) (position : Nat) (index : Fin maxUsbRequests)
      (expires : host.intervals[position]? = some index) :
      HostSteps config host (.interval position, hardware)
        (stageInterval config hardware index
          { host with intervals := host.intervals.eraseIdx position })

/-- The slot that `NewRequest` claims is attached at once. -/
theorem newRequest_setRequest {requests : Requests} (found : newRequest host.requests = some (urb, requests))
    (request : Request) :
    findRequest host.requests = some urb ∧
      ({ host with requests } : HostState).setRequest urb request = host.setRequest urb request := by
  simp only [newRequest, Option.map_eq_some_iff, Prod.mk.injEq] at found
  obtain ⟨slot, found, rfl, rfl⟩ := found
  exact ⟨found, by simp [HostState.setRequest]⟩

theorem hostStep_steps {event : HostEvent × Hardware} (steps : hostStep config host event = some next) :
    HostSteps config host event next := by
  obtain ⟨event, hardware⟩ := event
  cases event with
  | control endpoint setup data complete param =>
    simp only [hostStep, hostEndpointControlMessage] at steps
    split at steps
    next full =>
      obtain rfl := Option.some.inj steps
      exact .refused _ hardware _ _ rfl full
    next urb requests found =>
      simp only [Option.map_map, Option.map_eq_some_iff] at steps
      obtain ⟨_, submits, rfl⟩ := steps
      obtain ⟨found, same⟩ := newRequest_setRequest found
        (requestSetCompletionRoutine (callCompletion complete param)
          (requestAttach endpoint data (setup.length.setWidth 32) (some setup) {}))
      refine .call _ hardware urb _ _ rfl found ?_
      rw [submitRequest, ← same]
      exact submits
  | transfer endpoint buffer bufSize complete =>
    simp only [hostStep, hostEndpointTransfer] at steps
    split at steps
    next full =>
      obtain rfl := Option.some.inj steps
      exact .refused _ hardware _ _ rfl full
    next urb requests found =>
      simp only [Option.map_map, Option.map_eq_some_iff] at steps
      obtain ⟨_, submits, rfl⟩ := steps
      obtain ⟨found, same⟩ := newRequest_setRequest found
        (requestSetCompletionRoutine (callCompletion complete endpoint)
          (requestAttach endpoint buffer bufSize none {}))
      refine .call _ hardware urb _ _ rfl found ?_
      rw [submitRequest, ← same]
      exact submits
  | resubmit urb endpoint buffer bufLen complete param context =>
    exact .resubmit hardware urb endpoint buffer bufLen complete param context next steps
  | free urb =>
    obtain rfl := Option.some.inj steps
    exact .free hardware urb
  | interrupt channel status packetsLeft bytesLeft =>
    simp only [hostStep, Option.ite_none_right_eq_some, Bool.and_eq_true] at steps
    obtain ⟨⟨enabled, unmasked⟩, interrupts⟩ := steps
    exact .interrupt hardware channel status packetsLeft bytesLeft next enabled unmasked
      (processChannelInterrupt_interrupts interrupts)
  | interval position =>
    simp only [hostStep, Option.bind_eq_bind, Option.bind_eq_some_iff, Option.some.injEq] at steps
    obtain ⟨index, expires, rfl⟩ := steps
    exact .interval hardware position index expires

theorem PoolInv.step {event : HostEvent × Hardware} (inv : PoolInv config host)
    (steps : hostStep config host event = some next) : PoolInv config next := by
  cases hostStep_steps steps with
  | refused event hardware request text calls full => exact inv.congr (.of_eq rfl rfl rfl)
  | call event hardware urb request next calls found submits => exact inv.submitRequest submits
  | resubmit hardware urb endpoint buffer bufLen complete param context next submits =>
    have unheld : PoolInv config { host with held := Function.update host.held urb false } :=
      inv.congr (.of_eq rfl rfl rfl)
    exact unheld.submitRequest submits
  | free hardware urb => exact inv.congr (.of_eq rfl rfl rfl)
  | interrupt hardware channel status packetsLeft bytesLeft next enabled unmasked interrupts =>
    have masked : PoolInv config
        { host with interruptMask := Function.update host.interruptMask channel 0 } :=
      inv.congr (.of_eq rfl rfl rfl)
    exact masked.interrupt interrupts
  | interval hardware position index expires =>
    obtain ⟨sameChannel, sameUrb, sameEndpoint⟩ := beginStage_fields (host.stages index)
    have erased : PoolInv config { host with intervals := host.intervals.eraseIdx position } :=
      inv.congr (.of_eq rfl rfl rfl)
    exact (erased.congr (.setStage sameChannel sameUrb sameEndpoint)).congr (startTransaction_same _ _ _ _)

theorem PoolInv.run {events : List (HostEvent × Hardware)} (inv : PoolInv config host)
    (run : events.foldlM (hostStep config) host = some next) : PoolInv config next := by
  induction events generalizing host with
  | nil =>
    obtain rfl : host = next := Option.some.inj run
    exact inv
  | cons event events ih =>
    rw [List.foldlM_cons, Option.bind_eq_bind, Option.bind_eq_some_iff] at run
    obtain ⟨middle, steps, run⟩ := run
    exact ih (inv.step steps) run

/-- After every run the mask, the table and the pool agree.  A stage is found for
    every channel, if the hardware has no more of these than there are stages. -/
theorem hostController_poolsAgree (config : HostConfig) (nextPID : Address → PID)
    (events : List (HostEvent × Hardware)) (host : HostState)
    (run : events.foldlM (hostStep config) (hostStart nextPID) = some host) :
    PoolsAgree config host ∧
      (config.channels ≤ maxUsbRequests → (newChannel config host.channelAllocated).isSome →
        (newStageData host.stages).isSome) := by
  have inv := (hostStart_poolInv nextPID).run run
  constructor
  · exact inv.agree
  · intro few found
    obtain ⟨channel, found⟩ := Option.isSome_iff_exists.mp found
    exact inv.finds_stage few found

/-- Eight channels, and endpoints as those of a hub at the root port. -/
def rootHubHost : HostConfig where
  channels := 8
  endpoint _ :=
    { type := .control, directionIn := false, maxPacketSize := 64, interval := 1, speed := .high
      hubAddress := 0 }
  channels_le := by decide

def getDescriptor : SetupData := ⟨0x80, 6, 0x100, 0, 18⟩

def firstSlot : Fin maxUsbRequests := ⟨0, by decide⟩

def secondSlot : Fin maxUsbRequests := ⟨1, by decide⟩

/-- A descriptor is asked for, and the setup stage is over. -/
def descriptorAsked : List (HostEvent × Hardware) :=
  [(.control 100 getDescriptor (some 200) (some 300) 0, {}),
    (.interrupt 0 (hcIntXferComp ||| hcIntChHltd) 0 0, {})]

theorem hostController_poolsAgree_descriptorAsked :
    ∃ host, descriptorAsked.foldlM (hostStep rootHubHost) (hostStart fun _ => .setup) = some host ∧
      host.channelAllocated = 1 ∧ PoolsAgree rootHubHost host ∧ (newStageData host.stages).isSome := by
  have allocated : (descriptorAsked.foldlM (hostStep rootHubHost) (hostStart fun _ => .setup)).map
      (·.channelAllocated) = some 1 := by decide
  obtain ⟨host, run, allocated⟩ := Option.map_eq_some_iff.mp allocated
  obtain ⟨agree, finds⟩ := hostController_poolsAgree rootHubHost (fun _ => .setup) descriptorAsked host run
  exact ⟨host, run, allocated, agree, finds (by decide) (by rw [allocated]; decide)⟩

end ComputerSystems.Verified
