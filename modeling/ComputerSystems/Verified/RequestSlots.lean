import ComputerSystems.Verified.RequestFrames

/-! # Request buffers of the host controller

A request buffer is free, under way, or in the hands of a client.  As long as the
clients free and submit again only requests that they hold (`Owns`), a buffer that
is under way has one stage, and its history says which completion routine is still
to be called (`SlotInv`).
-/

namespace ComputerSystems.Verified

open ComputerSystems.Usb ComputerSystems.System ComputerSystems.Data

variable {config : HostConfig} {hardware : Hardware} {host next : HostState}
  {urb other : Fin maxUsbRequests} {index : Fin maxUsbRequests} {channel : Nat}

/-! ## The invariant -/

/-- The completion routine of the caller: it is put aside while stages of a control
    transfer are left. -/
def caller (request : Request) : Completion :=
  if request.completion.routine = some .hostSubmitAsyncRequest then request.saved
  else request.completion

/-- A completion routine that a request was submitted with. -/
def Completion.Own (completion : Completion) : Prop :=
  completion.routine.isSome ∧ completion.routine ≠ some .hostSubmitAsyncRequest

/-- The completion routine of a request is that of the caller, or starts the next
    stage of a control transfer. -/
def Continues (config : HostConfig) (request : Request) : Prop :=
  Completion.Own (caller request) ∧
    (request.completion.routine = some .hostSubmitAsyncRequest →
      request.completion.context ≠ 0 ∧
      ∃ address setup, request.endpoint = some address ∧ (config.endpoint address).type = .control ∧
        request.setupData = some setup ∧ (controlStage setup request.completion.context request).isSome)

/-- A request is claimed, and no client holds it. -/
def pending (host : HostState) (urb : Fin maxUsbRequests) : Bool :=
  (host.requests urb).endpoint.isSome && !host.held urb

structure SlotInv (config : HostConfig) (host : HostState) (urb : Fin maxUsbRequests) : Prop where
  single : ∀ first second, (host.stages first).urb = some urb → (host.stages second).urb = some urb →
    first = second
  waits : InFlight host urb → pending host urb = true
  endpoint : ∀ index, (host.stages index).urb = some urb →
    (host.stages index).endpoint = (host.requests urb).endpoint
  continues : InFlight host urb → Continues config (host.requests urb)
  holds : host.held urb = true → (host.requests urb).endpoint.isSome
  freed : (host.requests urb).endpoint = none → (host.requests urb).buffer = none
  answered : submissions (history urb host.log) = completions (history urb host.log) ++
    if pending host urb then [caller (host.requests urb)] else []

def SlotsInv (config : HostConfig) (host : HostState) : Prop := ∀ urb, SlotInv config host urb

theorem hostStart_slotsInv (nextPID : Address → PID) : SlotsInv config (hostStart nextPID) := by
  intro urb
  have idle : ¬ InFlight (hostStart nextPID) urb := by
    rintro ⟨index, carries⟩
    simp [hostStart] at carries
  constructor
  · intro first second carries
    exact absurd ⟨first, carries⟩ idle
  · intro flies
    exact absurd flies idle
  · intro index carries
    exact absurd ⟨index, carries⟩ idle
  · intro flies
    exact absurd flies idle
  · intro held
    simp [hostStart] at held
  · intro _
    rfl
  · rfl

theorem SlotInv.frame (inv : SlotInv config host other) (frame : Frame urb host next) (ne : other ≠ urb) :
    SlotInv config next other := by
  have same := frame.requests other ne
  have pendingSame : pending next other = pending host other := by
    rw [pending, pending, same, frame.held other ne]
  constructor
  · intro first second carries carries'
    exact inv.single first second ((frame.carries other ne first).mp carries)
      ((frame.carries other ne second).mp carries')
  · intro flies
    rw [pendingSame]
    exact inv.waits ((frame.inFlight ne).mp flies)
  · intro index carries
    have carries' := (frame.carries other ne index).mp carries
    rw [frame.stages other ne index carries', same]
    exact inv.endpoint index carries'
  · intro flies
    rw [same]
    exact inv.continues ((frame.inFlight ne).mp flies)
  · rw [same, frame.held other ne]
    exact inv.holds
  · rw [same]
    exact inv.freed
  · rw [same, frame.logs other ne, pendingSame]
    exact inv.answered

/-- One request is left to look at. -/
theorem SlotsInv.frame (inv : SlotsInv config host) (frame : Frame urb host next)
    (here : SlotInv config next urb) : SlotsInv config next := by
  intro other
  by_cases ne : other = urb
  · exact ne ▸ here
  · exact (inv other).frame frame ne

theorem SlotInv.congr (inv : SlotInv config host urb) (same : SameSlots host next) :
    SlotInv config next urb := by
  have pendingSame : pending next urb = pending host urb := by
    rw [pending, pending, same.requests, same.held]
  constructor
  · intro first second carries carries'
    rw [same.urb] at carries carries'
    exact inv.single first second carries carries'
  · intro flies
    rw [pendingSame]
    exact inv.waits (same.inFlight.mp flies)
  · intro index carries
    rw [same.urb] at carries
    rw [same.toSamePools.endpoint, same.requests]
    exact inv.endpoint index carries
  · intro flies
    rw [same.requests]
    exact inv.continues (same.inFlight.mp flies)
  · rw [same.requests, same.held]
    exact inv.holds
  · rw [same.requests]
    exact inv.freed
  · rw [same.requests, same.logs, pendingSame]
    exact inv.answered

theorem SlotsInv.congr (inv : SlotsInv config host) (same : SameSlots host next) : SlotsInv config next :=
  fun urb => (inv urb).congr same

/-! ## A stage leaves its channel -/

theorem Continues.status {request : Request} (continues : Continues config request) (status : Int)
    (resultLen : BitVec 32) : Continues config { request with status, resultLen } := by
  obtain ⟨own, more⟩ := continues
  refine ⟨own, ?_⟩
  intro routine
  obtain ⟨context, address, setup, endpoint, type, data, stage⟩ := more routine
  refine ⟨context, address, setup, endpoint, type, data, ?_⟩
  rw [← stage]
  exact controlStage_isSome_congr rfl rfl

/-- A request between two of its stages: it is claimed and has no stage. -/
structure Between (config : HostConfig) (host : HostState) (urb : Fin maxUsbRequests) : Prop where
  idle : ¬ InFlight host urb
  waits : pending host urb = true
  continues : Continues config (host.requests urb)

theorem SlotInv.finishStage (channel : Nat) (inv : SlotInv config host urb) (status : Int)
    (resultLen : Option (BitVec 32)) {messages : List HostAction} (silent : Silent messages)
    (carries : (host.stages index).urb = some urb) :
    let finished := Usb.finishStage channel index urb status resultLen messages host
    SlotInv config finished urb ∧ Between config finished urb := by
  intro finished
  have request : finished.requests urb = { host.requests urb with
      status, resultLen := resultLen.getD (host.requests urb).resultLen } := by
    simp [finished, Usb.finishStage, HostState.note, leaveChannel, HostState.setRequest]
  -- Only one stage has carried the request, and it is released.
  have idle : ¬ InFlight finished urb := by
    rintro ⟨index', carries'⟩
    by_cases here : index' = index
    · subst here
      simp [finished, Usb.finishStage, HostState.note, leaveChannel, transferStageDataRelease] at carries'
    · simp only [finished, Usb.finishStage, HostState.note, leaveChannel, HostState.setRequest,
        Function.update_of_ne here] at carries'
      exact here (inv.single index' index carries' carries)
  have waits : pending finished urb = pending host urb := by
    rw [pending, pending, request]
    rfl
  have callerSame : caller (finished.requests urb) = caller (host.requests urb) := by
    rw [request]
    rfl
  have log : submissions (history urb finished.log) = submissions (history urb host.log) ∧
      completions (history urb finished.log) = completions (history urb host.log) := by
    simp [finished, history_silent silent, actionUrb, submissions, completions]
  constructor
  · constructor
    · intro first second carries'
      exact absurd ⟨first, carries'⟩ idle
    · intro flies
      exact absurd flies idle
    · intro index' carries'
      exact absurd ⟨index', carries'⟩ idle
    · intro flies
      exact absurd flies idle
    · intro held
      rw [request]
      exact inv.holds held
    · rw [request]
      exact inv.freed
    · rw [log.1, log.2, waits, callerSame]
      exact inv.answered
  · refine ⟨idle, ?_, ?_⟩
    · rw [waits]
      exact inv.waits ⟨index, carries⟩
    · rw [request]
      exact (inv.continues ⟨index, carries⟩).status _ _

/-! ## A stage gets a channel -/

theorem SlotInv.enter (channel : Nat) (index : Fin maxUsbRequests) {stage : TransferStageData}
    (inv : SlotInv config host urb) (between : Between config host urb) (endpoint : stage.endpoint = (host.requests urb).endpoint)
    (issued : IssuedStage) :
    SlotInv config ((enterChannel channel index stage host).note [.issued urb issued]) urb := by
  have only : ∀ index', (((enterChannel channel index stage host).note [.issued urb issued]).stages
      index').urb = some urb → index' = index := by
    intro index' carries'
    by_contra here
    simp only [HostState.note, enterChannel, Function.update_of_ne here] at carries'
    exact between.idle ⟨index', carries'⟩
  constructor
  · intro first second carries' carries''
    exact (only first carries').trans (only second carries'').symm
  · intro _
    exact between.waits
  · intro index' carries'
    rw [only index' carries']
    simpa [HostState.note, enterChannel] using endpoint
  · intro _
    exact between.continues
  · exact inv.holds
  · exact inv.freed
  · have same : pending ((enterChannel channel index stage host).note [.issued urb issued]) urb =
        pending host urb := rfl
    rw [same]
    simpa [HostState.note, enterChannel, actionUrb, submissions, completions] using inv.answered

/-- A request between two stages starts the next, or is left without one. -/
theorem SlotsInv.transferStageAsync {isIn statusStage started : Bool} (inv : SlotsInv config host)
    (between : Between config host urb)
    (runs : Usb.transferStageAsync config hardware urb isIn statusStage host = some (started, next)) :
    SlotsInv config next := by
  obtain ⟨_, _, rfl⟩ | ⟨_, channel, index, address, stage, found, stageFound, endpoint, attached, rfl⟩ :=
    transferStageAsync_cases runs
  · exact inv.congr (.note (by simp [Silent, actionUrb]))
  · obtain ⟨_, carries, stageEndpoint⟩ := transferStageDataAttach_fields attached
    obtain ⟨_, sameUrb, sameEndpoint⟩ := beginStage_fields stage
    have entered := (inv urb).enter channel index between
      (sameEndpoint.trans stageEndpoint) ⟨isIn, endpointGetNextPID (host.nextPID address) statusStage,
        stage.bufferPointer, stage.transferSize⟩
    have all := inv.frame (enterChannel_frame (sameUrb.trans carries) stageFound _) entered
    exact all.congr (startTransaction_sameSlots _ _ _ _)

/-! ## Requests are submitted and completed -/

/-- The completion routine of the caller, before a stage is started: it has been put
    aside unless this is the first stage. -/
def callerAt (state : Nat) (request : Request) : Completion :=
  if state = 0 then request.completion else request.saved

/-- The request with which a stage is started goes on as its completion routine says. -/
theorem ControlStage.continues {setup : SetupData} {state : Nat} {request after : Request}
    {isIn statusStage : Bool} {address : Address} (own : Completion.Own (callerAt state request))
    (endpoint : request.endpoint = some address) (type : (config.endpoint address).type = .control)
    (data : request.setupData = some setup)
    (stage : ControlStage setup request state (after, isIn, statusStage)) :
    caller after = callerAt state request ∧ Continues config after := by
  -- Behind the last stage the completion routine is that of the caller,
  have last : ∀ completion, Completion.Own completion →
      caller { request with completion } = completion ∧ Continues config { request with completion } := by
    intro completion own
    have same : caller { request with completion } = completion := if_neg own.2
    refine ⟨same, ?_, ?_⟩
    · rw [same]
      exact own
    · intro routine
      exact absurd routine own.2
  -- and behind the others it is `HostSubmitAsyncRequest`, with a stage to start.
  have more : ∀ (after : Request) (state' : Nat) (staged : Request × Bool × Bool),
      after.completion = nextStage state' → Completion.Own after.saved → state' ≠ 0 →
      after.endpoint = request.endpoint → after.setupData = request.setupData →
      ControlStage setup after state' staged → caller after = after.saved ∧ Continues config after := by
    intro after state' staged completion own later sameEndpoint sameData following
    have same : caller after = after.saved := by
      rw [caller, completion]
      exact if_pos rfl
    refine ⟨same, ?_, ?_⟩
    · rw [same]
      exact own
    · intro _
      refine ⟨?_, address, setup, sameEndpoint.trans endpoint, type, sameData.trans data, ?_⟩
      · rw [completion]
        exact later
      · rw [completion]
        exact Option.isSome_iff_exists.mpr ⟨staged, controlStage_iff.mpr following⟩
  cases stage with
  | inSetup isIn => exact more _ 1 _ rfl own Nat.one_ne_zero rfl rfl (.inData isIn)
  | inData isIn => exact more _ 2 _ rfl own (by decide) rfl rfl (.inStatus isIn)
  | inStatus isIn => exact last _ own
  | shortSetup isOut short => exact more _ 1 _ rfl own Nat.one_ne_zero rfl rfl (.shortStatus isOut rfl)
  | shortStatus isOut short => exact last _ own
  | outSetup isOut full long => exact more _ 1 _ rfl own Nat.one_ne_zero rfl rfl (.outData isOut rfl)
  | outData isOut full => exact more _ 2 _ rfl own (by decide) rfl rfl (.outStatus isOut full)
  | outStatus isOut full => exact last _ own

/-- A request that may start a stage. -/
structure Submittable (config : HostConfig) (host : HostState) (urb : Fin maxUsbRequests) (state : Nat) :
    Prop where
  idle : ¬ InFlight host urb
  waits : pending host urb = true
  caller : caller (host.requests urb) = callerAt state (host.requests urb)
  own : Completion.Own (callerAt state (host.requests urb))
  later : state ≠ 0 → ∃ address, (host.requests urb).endpoint = some address ∧
    (config.endpoint address).type = .control

/-- A request without a stage may be changed, if its caller is still called. -/
theorem SlotInv.setRequest {request : Request} (inv : SlotInv config host urb) (idle : ¬ InFlight host urb)
    (endpoint : request.endpoint = (host.requests urb).endpoint)
    (buffer : request.buffer = (host.requests urb).buffer)
    (sameCaller : caller request = caller (host.requests urb)) :
    SlotInv config (host.setRequest urb request) urb := by
  have here : (host.setRequest urb request).requests urb = request := by simp [HostState.setRequest]
  have pendingSame : pending (host.setRequest urb request) urb = pending host urb := by
    rw [pending, pending, here, endpoint]
    rfl
  constructor
  · exact inv.single
  · intro flies
    exact absurd flies idle
  · intro index carries
    exact absurd ⟨index, carries⟩ idle
  · intro flies
    exact absurd flies idle
  · rw [here, endpoint]
    exact inv.holds
  · rw [here, endpoint, buffer]
    exact inv.freed
  · rw [here, pendingSame, sameCaller]
    exact inv.answered

theorem pending_setRequest {request : Request} (endpoint : request.endpoint = (host.requests urb).endpoint) :
    pending (host.setRequest urb request) urb = pending host urb := by
  simp [pending, HostState.setRequest, endpoint]

theorem SlotsInv.submit {state : Nat} (inv : SlotsInv config host)
    (ready : Submittable config host urb state)
    (runs : hostSubmitAsyncRequest config hardware urb state host = some next) :
    SlotsInv config next := by
  have changed : ∀ request : Request, request.endpoint = (host.requests urb).endpoint →
      request.buffer = (host.requests urb).buffer → caller request = caller (host.requests urb) →
      SlotsInv config (host.setRequest urb request) := by
    intro request endpoint buffer sameCaller
    exact inv.frame (.setRequest request) ((inv urb).setRequest ready.idle endpoint buffer sameCaller)
  have between : ∀ request : Request, request.endpoint = (host.requests urb).endpoint →
      Continues config request → Between config (host.setRequest urb request) urb := by
    intro request endpoint continues
    refine ⟨ready.idle, (pending_setRequest endpoint).trans ready.waits, ?_⟩
    simpa [HostState.setRequest] using continues
  cases hostSubmitAsyncRequest_submits runs with
  | nothing address setup endpoint type data stage => exact changed _ rfl rfl rfl
  | control address setup request isIn statusStage started next endpoint type data stage starts =>
    have stage' := controlStage_iff.mp stage
    have own : Completion.Own (callerAt state (submitted host urb)) := ready.own
    have endpoint' : (submitted host urb).endpoint = some address := endpoint
    obtain ⟨sameCaller, continues⟩ := stage'.continues own endpoint' type data
    obtain ⟨sameEndpoint, _, sameBuffer, _⟩ := stage'.same
    have kept := changed request sameEndpoint sameBuffer (sameCaller.trans ready.caller.symm)
    exact kept.transferStageAsync (between request sameEndpoint continues) starts
  | other address started middle endpoint type starts =>
    -- Only control transfers have a second stage, so the caller's routine is in place.
    have first : state = 0 := by
      by_contra later
      obtain ⟨address', endpoint', type'⟩ := ready.later later
      obtain rfl : address = address' := Option.some.inj (endpoint.symm.trans endpoint')
      exact type type'
    subst first
    have continues : Continues config (submitted host urb) := by
      refine ⟨?_, fun routine => absurd routine ready.own.2⟩
      rw [show caller (submitted host urb) = caller (host.requests urb) from rfl, ready.caller]
      exact ready.own
    have kept := (changed (submitted host urb) rfl rfl rfl).transferStageAsync
      (between (submitted host urb) rfl continues) starts
    cases started with
    | true => exact kept
    | false => exact kept.congr (.note (by simp [Silent, actionUrb]))

/-- The completion routine of the caller has been called. -/
theorem SlotInv.answer (inv : SlotInv config host urb) (between : Between config host urb)
    (stages : next.stages = host.stages)
    (log : next.log = host.log ++ [.completed urb (caller (host.requests urb))])
    (done : pending next urb = false)
    (holds : next.held urb = true → (next.requests urb).endpoint.isSome)
    (freed : (next.requests urb).endpoint = none → (next.requests urb).buffer = none) :
    SlotInv config next urb := by
  have idle : ¬ InFlight next urb := by
    rintro ⟨index, carries⟩
    rw [stages] at carries
    exact between.idle ⟨index, carries⟩
  have answered := inv.answered
  rw [if_pos between.waits] at answered
  constructor
  · intro first second carries
    exact absurd ⟨first, carries⟩ idle
  · intro flies
    exact absurd flies idle
  · intro index carries
    exact absurd ⟨index, carries⟩ idle
  · intro flies
    exact absurd flies idle
  · exact holds
  · exact freed
  · rw [log, done, history_append, submissions_append, completions_append, answered]
    simp [actionUrb, submissions, completions]

/-- The completion routine of a request whose stage has left its channel is called:
    the next stage is started, the buffer is freed, or a client gets it. -/
theorem SlotsInv.completes (inv : SlotsInv config host) (between : Between config host urb)
    (runs : requestCallCompletionRoutine config hardware urb host = some next) :
    SlotsInv config next := by
  have waits := between.waits
  simp only [pending, Bool.and_eq_true, Bool.not_eq_true'] at waits
  obtain ⟨claimed, held⟩ := waits
  rw [requestCallCompletionRoutine] at runs
  cases routine : (host.requests urb).completion.routine with
  | none => simp [routine] at runs
  | some routine' =>
    have called : routine' ≠ .hostSubmitAsyncRequest →
        caller (host.requests urb) = (host.requests urb).completion := by
      intro other
      rw [caller, routine]
      exact if_neg (by simpa using other)
    rw [routine] at runs
    cases routine' with
    -- The request is not answered, but submitted for its next stage.
    | hostSubmitAsyncRequest =>
      obtain ⟨own, more⟩ := between.continues
      obtain ⟨later, address, setup, endpoint, type, _, _⟩ := more routine
      have same : caller (host.requests urb) = callerAt (host.requests urb).completion.context
          (host.requests urb) := by
        rw [caller, if_pos routine, callerAt, if_neg later]
      refine inv.submit ⟨between.idle, between.waits, same, same ▸ own, ?_⟩ runs
      exact fun _ => ⟨address, endpoint, type⟩
    -- `transfer_complete` frees the request.
    | transferComplete =>
      obtain rfl := Option.some.inj runs
      refine inv.frame ((Frame.setRequest _).trans (.note (completed_about _))) ?_
      apply (inv urb).answer between
      · rfl
      · rw [called (by decide)]
        rfl
      · simp [pending, HostState.note, HostState.setRequest, freeRequest]
      · intro held'
        exact absurd (held.symm.trans held') (by decide)
      · intro _
        simp [HostState.note, HostState.setRequest, freeRequest]
    -- The client is handed the request, and frees it later.
    | client address =>
      obtain rfl := Option.some.inj runs
      have noted : Frame urb host (host.note [.completed urb (host.requests urb).completion]) :=
        .note (completed_about _)
      have frame : Frame urb host { host.note [.completed urb (host.requests urb).completion] with
          held := Function.update host.held urb true } :=
        ⟨noted.requests, fun other ne => by simp [ne], noted.carries, noted.stages, noted.logs⟩
      refine inv.frame frame ?_
      apply (inv urb).answer between
      · rfl
      · rw [called (by simp)]
        rfl
      · simp [pending]
      · intro _
        exact claimed
      · exact (inv urb).freed

/-! ## Interrupts -/

theorem SlotsInv.applyNext (inv : SlotsInv config host) (carries : (host.stages index).urb = some urb)
    {following : StageNext} (keeps : KeepsStage (host.stages index) following)
    (silent : SilentNext following)
    (applies : Usb.applyNext config hardware channel index urb host following = some next) :
    SlotsInv config next := by
  cases following with
  | transaction stage =>
    obtain rfl := Option.some.inj applies
    exact (inv.congr (.setStage keeps.channel keeps.urb keeps.endpoint)).congr
      (startTransaction_sameSlots _ _ _ _)
  | delay stage =>
    obtain rfl := Option.some.inj applies
    exact inv.congr (.of_eq (.trans (.setStage keeps.channel keeps.urb keeps.endpoint)
      (.of_eq rfl rfl rfl)) rfl rfl rfl)
  | leave status resultLen complete messages =>
    obtain ⟨here, between⟩ := (inv urb).finishStage channel status resultLen silent carries
    have finished := inv.frame (finishStage_frame status resultLen silent carries) here
    cases complete with
    | true => exact finished.completes between applies
    | false =>
      obtain rfl := Option.some.inj applies
      exact finished
  | nothing =>
    obtain rfl := Option.some.inj applies
    exact inv

theorem SlotsInv.interrupt {status packetsLeft bytesLeft : BitVec 32} (inv : SlotsInv config host)
    (interrupts : Interrupts config hardware channel status packetsLeft bytesLeft host next) :
    SlotsInv config next := by
  cases interrupts with
  | disabled index has => exact inv.congr (startTransaction_sameSlots _ _ _ _)
  | halted index has =>
    exact (inv.congr (.note (by simp [Silent, actionUrb]))).congr (startTransaction_sameSlots _ _ _ _)
  | transaction index urb address stage nextPID next has carries waits ended endpoint completes applies =>
    have same := (transactionComplete_same completes).1
    have kept : SlotsInv config
        { host.setStage index stage with nextPID := Function.update host.nextPID address nextPID } :=
      inv.congr (.of_eq (.trans (.setStage same.channel same.urb same.endpoint) (.of_eq rfl rfl rfl))
        rfl rfl rfl)
    apply kept.applyNext _ _ (stageNext_silent _ _) applies
    · simpa [HostState.setStage] using same.urb.trans carries
    · simpa [HostState.setStage] using stageNext_keeps _ stage

/-! ## Runs -/

/-- Clients free and submit again only what they hold. -/
def Owns (host : HostState) : HostEvent × Hardware → Prop
  | (.free urb, _) => host.held urb = true
  | (.resubmit urb _ _ _ _ _ _, _) => host.held urb = true
  | _ => True

/-- A request that is free or held is neither under way nor waited for. -/
theorem SlotInv.settled (inv : SlotInv config host urb) (done : pending host urb = false) :
    ¬ InFlight host urb ∧ submissions (history urb host.log) = completions (history urb host.log) := by
  constructor
  · intro flies
    exact absurd (done.symm.trans (inv.waits flies)) (by decide)
  · have answered := inv.answered
    rw [done] at answered
    simpa using answered

theorem findRequest_free (found : findRequest host.requests = some urb) :
    (host.requests urb).endpoint = none := by
  have free := List.find?_some found
  simp only [Request.free, Bool.and_eq_true, Option.isNone_iff_eq_none] at free
  exact free.1

/-- A request that is free or held can be attached and submitted. -/
theorem SlotsInv.attached {request : Request} (inv : SlotsInv config host)
    (done : pending host urb = false) (endpoint : request.endpoint.isSome)
    (own : Completion.Own request.completion) :
    SlotsInv config (attachRequest urb request (dropHeld urb host)) ∧
      Submittable config (attachRequest urb request (dropHeld urb host)) urb 0 := by
  obtain ⟨idle, answered⟩ := (inv urb).settled done
  let attached := attachRequest urb request (dropHeld urb host)
  have here : attached.requests urb = request := attachRequest_requests urb request _
  have unheld : attached.held urb = false := by
    simp [attached, attachRequest, HostState.note, HostState.setRequest, dropHeld]
  -- From here on the request has an answer to come.
  have waits : pending attached urb = true := by
    rw [pending, here, endpoint, unheld]
    rfl
  have called : caller request = request.completion := if_neg own.2
  have slot : SlotInv config attached urb := by
    constructor
    · exact (inv urb).single
    · intro flies
      exact absurd flies idle
    · intro index carries
      exact absurd ⟨index, carries⟩ idle
    · intro flies
      exact absurd flies idle
    · intro held
      exact absurd (unheld.symm.trans held) (by decide)
    · intro none
      rw [here] at none
      simp [none] at endpoint
    · rw [here, waits, called]
      simp [attached, attachRequest, HostState.note, HostState.setRequest, dropHeld, actionUrb, submissions,
        completions] at answered ⊢
      exact answered
  refine ⟨inv.frame (attachRequest_frame urb request host) slot, idle, waits, ?_, ?_, fun later => absurd rfl later⟩
  · rw [attachRequest_requests, called]
    rfl
  · rw [attachRequest_requests]
    exact own

theorem SlotsInv.submitRequest {request : Request} (inv : SlotsInv config host)
    (done : pending host urb = false) (endpoint : request.endpoint.isSome)
    (own : Completion.Own request.completion)
    (runs : Usb.submitRequest config hardware urb request (dropHeld urb host) = some next) :
    SlotsInv config next := by
  obtain ⟨attached, ready⟩ := inv.attached done endpoint own
  exact attached.submit ready runs

/-- A client frees a request that it holds. -/
theorem SlotsInv.free (inv : SlotsInv config host) (held : host.held urb = true) :
    SlotsInv config (dropHeld urb (host.setRequest urb (freeRequest (host.requests urb)))) := by
  obtain ⟨idle, answered⟩ := (inv urb).settled (by simp [pending, held])
  refine inv.frame (.trans (.setRequest _) (dropHeld_frame urb _)) ?_
  constructor
  · exact (inv urb).single
  · intro flies
    exact absurd flies idle
  · intro index carries
    exact absurd ⟨index, carries⟩ idle
  · intro flies
    exact absurd flies idle
  · intro held'
    simp [dropHeld] at held'
  · intro _
    simp [dropHeld, HostState.setRequest, freeRequest]
  · simpa [pending, dropHeld, HostState.setRequest, freeRequest] using answered

theorem HostEvent.request_own {event : HostEvent} {request : Request}
    (calls : HostEvent.request event = some request) :
    request.endpoint.isSome ∧ Completion.Own request.completion := by
  have own : ∀ complete param, Completion.Own (callCompletion complete param) := by
    intro complete param
    cases complete with
    | none => exact ⟨rfl, by simp [callCompletion]⟩
    | some address => exact ⟨rfl, by simp [callCompletion]⟩
  cases event with
  | control endpoint setup data complete param =>
    obtain rfl := Option.some.inj calls
    exact ⟨rfl, own complete param⟩
  | transfer endpoint buffer bufSize complete =>
    obtain rfl := Option.some.inj calls
    exact ⟨rfl, own complete endpoint⟩
  | resubmit | free | interrupt | interval => cases calls

/-- A request that `NewRequest` finds is not held. -/
theorem SlotsInv.found (inv : SlotsInv config host) (found : findRequest host.requests = some urb) :
    pending host urb = false ∧ dropHeld urb host = host := by
  have unclaimed := findRequest_free found
  have unheld : host.held urb = false := by
    apply Bool.of_not_eq_true
    intro held
    have claimed := (inv urb).holds held
    simp [unclaimed] at claimed
  exact ⟨by simp [pending, unclaimed], by rw [dropHeld, ← unheld, Function.update_eq_self]⟩

theorem SlotsInv.step {event : HostEvent × Hardware} (inv : SlotsInv config host)
    (owns : Owns host event) (steps : hostStep config host event = some next) : SlotsInv config next := by
  cases hostStep_steps steps with
  | refused event hardware request text calls full => exact inv.congr (.note (by simp [Silent, actionUrb]))
  | call event hardware urb request next calls found submits =>
    obtain ⟨endpoint, own⟩ := HostEvent.request_own calls
    obtain ⟨done, same⟩ := inv.found found
    exact inv.submitRequest done endpoint own (same.symm ▸ submits)
  | resubmit hardware urb endpoint buffer bufLen complete param context next submits =>
    have held : host.held urb = true := owns
    exact inv.submitRequest (by simp [pending, held]) rfl ⟨rfl, by simp [resubmitted,
      requestSetCompletionRoutine]⟩ submits
  | free hardware urb => exact inv.free owns
  | interrupt hardware channel status packetsLeft bytesLeft next enabled unmasked interrupts =>
    have masked : SlotsInv config
        { host with interruptMask := Function.update host.interruptMask channel 0 } :=
      inv.congr (.of_eq (.of_eq rfl rfl rfl) rfl rfl rfl)
    exact masked.interrupt interrupts
  | interval hardware position index expires =>
    obtain ⟨sameChannel, sameUrb, sameEndpoint⟩ := beginStage_fields (host.stages index)
    have erased : SlotsInv config { host with intervals := host.intervals.eraseIdx position } :=
      inv.congr (.of_eq (.of_eq rfl rfl rfl) rfl rfl rfl)
    exact (erased.congr (.setStage sameChannel sameUrb sameEndpoint)).congr
      (startTransaction_sameSlots _ _ _ _)

end ComputerSystems.Verified
