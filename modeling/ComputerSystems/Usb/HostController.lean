import ComputerSystems.Usb.Transfer

/-! # The host controller driver

`host.c` of the DWC host controller: requests are carried out stage by stage, each
stage on a channel of its own, by the interrupts of the channels and by timers.

In every function that calls a completion routine the call comes last, so a routine
of a client is not run here: the call is logged, and what the client does next is a
later event.  `held` says which requests a client has been handed back by its
completion routine; nothing in the driver keeps it from freeing or submitting others.

Functions return nothing where the driver would go on through a `NULL` pointer or
not at all.
-/

namespace ComputerSystems.Usb

open ComputerSystems.System

def maxChannels : Nat := 16

/-- The number of channels that the hardware reports, and the endpoints. -/
structure HostConfig where
  channels : Nat
  endpoint : Address → Endpoint
  channels_le : channels ≤ maxChannels

/-- What is decided elsewhere while an event is handled: whether the channel on which
    a transaction is started is still enabled, the number of the frame, and whether
    `TimerSchedule` finds a timer. -/
structure Hardware where
  charEnabled : Bool := false
  frame : BitVec 32 := 0
  timer : Bool := true
deriving DecidableEq

/-- The address of `HostController`. -/
def hostAddress : Nat := 1

/-- A stage as it is issued. -/
structure IssuedStage where
  isIn : Bool
  pid : PID
  buffer : StageBuffer
  size : BitVec 32
deriving DecidableEq

inductive HostAction where
  /-- A request is submitted for its first stage. -/
  | submitted (urb : Fin maxUsbRequests) (request : Request)
  /-- A stage of a request has got a channel. -/
  | issued (urb : Fin maxUsbRequests) (stage : IssuedStage)
  /-- A stage leaves its channel. -/
  | left (urb : Fin maxUsbRequests) (succeeded : Bool)
  /-- The completion routine of a request is called. -/
  | completed (urb : Fin maxUsbRequests) (completion : Completion)
  | puts (text : String)
  | printf (format : String) (arguments : List Int)
deriving DecidableEq

/-- The host, the pools and the registers of the channels.  `intervals` are the
    stages for which a timer runs. -/
structure HostState where
  requests : Requests
  held : Fin maxUsbRequests → Bool
  stages : Fin maxUsbRequests → TransferStageData
  channelAllocated : BitVec 32
  stageData : Nat → Option (Fin maxUsbRequests)
  nextPID : Address → PID
  channelEnabled : Nat → Bool
  interruptMask : Nat → BitVec 32
  intervals : List (Fin maxUsbRequests)
  log : List HostAction

variable (config : HostConfig) (hardware : Hardware)

def HostState.note (actions : List HostAction) (host : HostState) : HostState :=
  { host with log := host.log ++ actions }

def HostState.setStage (index : Fin maxUsbRequests) (stage : TransferStageData) (host : HostState) :
    HostState :=
  { host with stages := Function.update host.stages index stage }

def HostState.setRequest (urb : Fin maxUsbRequests) (request : Request) (host : HostState) : HostState :=
  { host with requests := Function.update host.requests urb request }

/-! ## Channels and stages -/

def TransferStageData.free (stage : TransferStageData) : Bool :=
  stage.endpoint.isNone && stage.urb.isNone

/-- The element that `new_stage_data` finds. -/
def newStageData (stages : Fin maxUsbRequests → TransferStageData) : Option (Fin maxUsbRequests) :=
  (List.finRange maxUsbRequests).find? fun index => (stages index).free

/-- The channel that `new_channel` finds. -/
def newChannel (channelAllocated : BitVec 32) : Option Nat :=
  (List.range config.channels).find? fun channel => !channelAllocated.getLsbD channel

/-- `start_transaction`. -/
def startTransaction (index : Fin maxUsbRequests) (host : HostState) : HostState :=
  let stage := host.stages index
  -- the interrupt of the disabled channel starts the transaction anew
  if hardware.charEnabled then
    let host := host.setStage index { stage with subState := .waitForChannelDisable }
    { host with
      interruptMask := Function.update host.interruptMask stage.channel hcIntChHltd
      log := host.log ++ [.printf "Channel %d disabled\n" [stage.channel]] }
  else
    let host := host.setStage index
      { stage with
        subState := .waitForTransactionComplete
        frameScheduler := stage.frameScheduler.map (.wait hardware.frame) }
    let mask :=
      match stage.endpoint with
      | some endpoint => statusMask (config.endpoint endpoint) stage
      | none => 0
    { host with interruptMask := Function.update host.interruptMask stage.channel mask }

/-- The state in which a stage, or one more round of it, starts. -/
def beginStage (stage : TransferStageData) : TransferStageData :=
  if stage.splitTransaction then
    { stage with
      state := .startSplit
      splitComplete := false
      frameScheduler := stage.frameScheduler.map .start }
  else { stage with state := .noSplitTransfer }

/-- The way into a channel that `new_channel` has found: the stage is attached to it
    and its interrupts are enabled. -/
def enterChannel (channel : Nat) (index : Fin maxUsbRequests) (stage : TransferStageData)
    (host : HostState) : HostState :=
  { host with
    channelAllocated := host.channelAllocated ||| BitVec.twoPow 32 channel
    stages := Function.update host.stages index stage
    stageData := Function.update host.stageData channel (some index)
    channelEnabled := Function.update host.channelEnabled channel true }

/-- `transfer_stage_async`. -/
def transferStageAsync (urb : Fin maxUsbRequests) (isIn statusStage : Bool) (host : HostState) :
    Option (Bool × HostState) :=
  match newChannel config host.channelAllocated with
  | none => some (false, host.note [.puts "new_channel() failed"])
  | some channel => do
    let index ← newStageData host.stages
    let request := host.requests urb
    let endpoint ← request.endpoint
    let nextPID := host.nextPID endpoint
    let stage ← transferStageDataAttach (config.endpoint endpoint) nextPID channel urb request isIn
      statusStage
    let issued : IssuedStage :=
      ⟨isIn, endpointGetNextPID nextPID statusStage, stage.bufferPointer, stage.transferSize⟩
    some (true, startTransaction config hardware index
      ((enterChannel channel index (beginStage stage) host).note [.issued urb issued]))

/-- The way out of a channel: its interrupts are disabled, and the stage and the
    channel are free again. -/
def leaveChannel (channel : Nat) (index : Fin maxUsbRequests) (host : HostState) : HostState :=
  { host with
    channelEnabled := Function.update host.channelEnabled channel false
    stages := Function.update host.stages index (transferStageDataRelease (host.stages index))
    stageData := Function.update host.stageData channel none
    channelAllocated := host.channelAllocated &&& ~~~ BitVec.twoPow 32 channel }

/-! ## Submitting requests -/

/-- The stage that `HostSubmitAsyncRequest` starts on a control endpoint: the request
    as it is left, whether the stage is in, and whether it is the status stage. -/
def controlStage (setup : SetupData) (state : Nat) (request : Request) : Option (Request × Bool × Bool) :=
  let next (state : Nat) : Completion := ⟨some .hostSubmitAsyncRequest, hostAddress, state⟩
  if setup.requestType &&& requestIn ≠ 0 then
    match state with
    | 0 => some ({ request with saved := request.completion, completion := next 1 }, false, false)
    | 1 => some ({ request with completion := next 2 }, true, false)
    | 2 => some ({ request with completion := request.saved }, false, true)
    | _ => none
  else if request.zlb || (state == 0 && request.bufLen == 0) then
    match state with
    | 0 =>
      some ({ request with saved := request.completion, zlb := true, completion := next 1 }, false, false)
    | 1 => some ({ request with completion := request.saved }, true, true)
    | _ => none
  else
    match state with
    | 0 =>
      some ({ request with saved := request.completion, zlb := false, completion := next 1 }, false, false)
    | 1 => some ({ request with completion := next 2 }, false, false)
    | 2 => some ({ request with completion := request.saved }, true, true)
    | _ => none

/-- `HostSubmitAsyncRequest`. -/
def hostSubmitAsyncRequest (urb : Fin maxUsbRequests) (state : Nat) (host : HostState) :
    Option HostState := do
  let request := { host.requests urb with status := 0 }
  let address ← request.endpoint
  let endpoint := config.endpoint address
  if endpoint.type = .control then
    let setup ← request.setupData
    match controlStage setup state request with
    | none => some (host.setRequest urb request)
    | some (request, isIn, statusStage) =>
      (transferStageAsync config hardware urb isIn statusStage (host.setRequest urb request)).map (·.2)
  else
    let (started, host) ←
      transferStageAsync config hardware urb endpoint.directionIn false (host.setRequest urb request)
    if started then some host
    else some (host.note [.puts "HostSubmitAsyncRequest TransferStageAsync failed"])

/-- `RequestCallCompletionRoutine`. -/
def requestCallCompletionRoutine (urb : Fin maxUsbRequests) (host : HostState) : Option HostState :=
  let request := host.requests urb
  match request.completion.routine with
  -- a call through `NULL`
  | none => none
  | some .hostSubmitAsyncRequest =>
    hostSubmitAsyncRequest config hardware urb request.completion.context host
  | some .transferComplete =>
    some ((host.setRequest urb (freeRequest (requestRelease request))).note
      [.completed urb request.completion])
  | some (.client _) =>
    some { host.note [.completed urb request.completion] with
      held := Function.update host.held urb true }

/-- The completion routine of a call: that of the caller, or `transfer_complete`. -/
def callCompletion (complete : Option Address) (param : Nat) : Completion :=
  ⟨some (match complete with | some address => .client address | none => .transferComplete), param,
    hostAddress⟩

/-- A request that has been attached is submitted for its first stage. -/
def submitRequest (urb : Fin maxUsbRequests) (request : Request) (host : HostState) : Option HostState :=
  hostSubmitAsyncRequest config hardware urb 0
    ((host.setRequest urb request).note [.submitted urb request])

/-- `HostEndpointControlMessage`; the length in the setup data is that of the data. -/
def hostEndpointControlMessage (endpoint : Address) (setup : SetupData) (data : Option Address)
    (complete : Option Address) (param : Nat) (host : HostState) : Option (Int × HostState) :=
  match newRequest host.requests with
  | none => some (-1, host.note [.puts "HostEndpointControlMessage - URB or Setup invalid"])
  | some (urb, requests) =>
    let request := requestSetCompletionRoutine (callCompletion complete param)
      (requestAttach endpoint data (setup.length.setWidth 32) (some setup) (requests urb))
    (submitRequest config hardware urb request { host with requests }).map (1, ·)

/-- `HostEndpointTransfer`. -/
def hostEndpointTransfer (endpoint : Address) (buffer : Option Address) (bufSize : BitVec 32)
    (complete : Option Address) (host : HostState) : Option (Int × HostState) :=
  match newRequest host.requests with
  | none => some (-1, host.note [.puts "USBNewReqest failed!"])
  | some (urb, requests) =>
    let request := requestSetCompletionRoutine (callCompletion complete endpoint)
      (requestAttach endpoint buffer bufSize none (requests urb))
    (submitRequest config hardware urb request { host with requests }).map (0, ·)

/-! ## Interrupts and timers -/

/-- What `process_channel_interrupt` does with a stage when a transaction is over. -/
inductive StageNext where
  /-- The next transaction of the stage is started. -/
  | transaction (stage : TransferStageData)
  /-- A timer is to start the stage again. -/
  | delay (stage : TransferStageData)
  /-- The stage leaves the channel with the status and the result length of the
      request, and the completion routine is called unless it says not to. -/
  | leave (status : Int) (resultLen : Option (BitVec 32)) (complete : Bool) (messages : List HostAction)
  /-- No case of the switch applies. -/
  | nothing

/-- The result length is only set outside the status stage. -/
def stageResult (stage : TransferStageData) : Option (BitVec 32) :=
  if stage.statusStage then none else some (resultLen stage)

/-- The label `LeaveCompleteSplit`. -/
def leaveCompleteSplit (endpoint : Endpoint) (stage : TransferStageData) : StageNext :=
  if stage.packets ≠ 0 then
    if isPeriodic endpoint then .delay { stage with state := .periodicDelay }
    else
      .transaction { stage with
        state := .startSplit
        splitComplete := false
        frameScheduler := stage.frameScheduler.map .start }
  else .leave 1 (stageResult stage) true []

/-- The complete split that the frame scheduler asks for, if it does. -/
def nextSplit (endpoint : Endpoint) (stage : TransferStageData) : StageNext :=
  match stage.frameScheduler with
  | none => .nothing
  | some scheduler =>
    let (more, scheduler) := (scheduler.transactionComplete stage.transactionStatus).complete
    let stage := { stage with frameScheduler := some scheduler }
    if more then .transaction stage else leaveCompleteSplit endpoint stage

/-- The switch on the state of the stage in `process_channel_interrupt`. -/
def stageNext (endpoint : Endpoint) (stage : TransferStageData) : StageNext :=
  let status := stage.transactionStatus
  match stage.state with
  | .noSplitTransfer =>
    -- here no completion routine is called
    if anySet status hcIntErrorMask then
      .leave status.toInt none false
        [.printf "No split Transaction failed (status 0x%X)\n" [status.toNat]]
    else if anySet status (hcIntNak ||| hcIntNyet) && isPeriodic endpoint then
      .delay { stage with state := .periodicDelay }
    else .leave 1 (stageResult stage) true []
  | .startSplit =>
    if anySet status hcIntErrorMask || anySet status hcIntNak || anySet status hcIntNyet then
      .leave 0 none true [.puts "StartSplit Transaction failed"]
    else nextSplit endpoint { stage with state := .completeSplit, splitComplete := true }
  | .completeSplit =>
    if anySet status hcIntErrorMask then .leave 0 none true [.puts "Complete split Transaction failed"]
    else nextSplit endpoint stage
  | .periodicDelay | .unknown => .nothing

/-- A stage leaves its channel, with the status and the result length of the request. -/
def finishStage (channel : Nat) (index urb : Fin maxUsbRequests) (status : Int)
    (resultLen : Option (BitVec 32)) (messages : List HostAction) (host : HostState) : HostState :=
  let request := { host.requests urb with
    status, resultLen := resultLen.getD (host.requests urb).resultLen }
  (leaveChannel channel index (host.setRequest urb request)).note
    (messages ++ [.left urb (status == 1)])

/-- What follows from `stageNext`. -/
def applyNext (channel : Nat) (index urb : Fin maxUsbRequests) (host : HostState) :
    StageNext → Option HostState
  | .transaction stage => some (startTransaction config hardware index (host.setStage index stage))
  | .delay stage =>
    some { host.setStage index stage with
      intervals := if hardware.timer then host.intervals ++ [index] else host.intervals }
  | .leave status resultLen complete messages =>
    -- the stage and its channel are free before the completion routine is called
    let host := finishStage channel index urb status resultLen messages host
    if complete then requestCallCompletionRoutine config hardware urb host else some host
  | .nothing => some host

/-- `process_channel_interrupt`, where the channel reports `status` and what is left of
    the transaction. -/
def processChannelInterrupt (channel : Nat) (status packetsLeft bytesLeft : BitVec 32) (host : HostState) :
    Option HostState := do
  let index ← host.stageData channel
  let stage := host.stages index
  let urb ← stage.urb
  match stage.subState with
  | .waitForChannelDisable => some (startTransaction config hardware index host)
  | .waitForTransactionComplete =>
    -- halted and nothing else
    if status = hcIntChHltd then
      some (startTransaction config hardware index (host.note [.puts "Transaction halted, restarting."]))
    else
      let address ← stage.endpoint
      let (stage, nextPID) := transactionComplete status packetsLeft bytesLeft stage (host.nextPID address)
      let host := { host.setStage index stage with nextPID := Function.update host.nextPID address nextPID }
      applyNext config hardware channel index urb host (stageNext (config.endpoint address) stage)
  | .unknown => none

/-- `stage_interval`. -/
def stageInterval (index : Fin maxUsbRequests) (host : HostState) : HostState :=
  startTransaction config hardware index (host.setStage index (beginStage (host.stages index)))

/-! ## Runs -/

inductive HostEvent where
  | control (endpoint : Address) (setup : SetupData) (data complete : Option Address) (param : Nat)
  | transfer (endpoint : Address) (buffer : Option Address) (bufSize : BitVec 32) (complete : Option Address)
  /-- A client attaches a request again and submits it. -/
  | resubmit (urb : Fin maxUsbRequests) (endpoint : Address) (buffer : Option Address) (bufLen : BitVec 32)
      (complete : Address) (param context : Nat)
  /-- A client frees a request. -/
  | free (urb : Fin maxUsbRequests)
  /-- The interrupt of a channel, which is delivered if it is enabled and not masked. -/
  | interrupt (channel : Nat) (status packetsLeft bytesLeft : BitVec 32)
  /-- The timer of a stage expires. -/
  | interval (position : Nat)

/-- One event, with what is decided elsewhere while it is handled. -/
def hostStep (host : HostState) : HostEvent × Hardware → Option HostState
  | (.control endpoint setup data complete param, hardware) =>
    (hostEndpointControlMessage config hardware endpoint setup data complete param host).map (·.2)
  | (.transfer endpoint buffer bufSize complete, hardware) =>
    (hostEndpointTransfer config hardware endpoint buffer bufSize complete host).map (·.2)
  | (.resubmit urb endpoint buffer bufLen complete param context, hardware) =>
    let request := requestSetCompletionRoutine ⟨some (.client complete), param, context⟩
      (requestAttach endpoint buffer bufLen none (requestRelease (host.requests urb)))
    submitRequest config hardware urb request { host with held := Function.update host.held urb false }
  | (.free urb, _) =>
    some { host.setRequest urb (freeRequest (host.requests urb)) with
      held := Function.update host.held urb false }
  | (.interrupt channel status packetsLeft bytesLeft, hardware) =>
    if host.channelEnabled channel && anySet status (host.interruptMask channel) then
      processChannelInterrupt config hardware channel status packetsLeft bytesLeft
        { host with interruptMask := Function.update host.interruptMask channel 0 }
    else none
  | (.interval position, hardware) => do
    let index ← host.intervals[position]?
    some (stageInterval config hardware index
      { host with intervals := host.intervals.eraseIdx position })

/-- After `HostEnable` and `RequestInit`: every pool is empty. -/
def hostStart (nextPID : Address → PID) : HostState where
  requests _ := {}
  held _ := false
  stages _ := {}
  channelAllocated := 0
  stageData _ := none
  nextPID
  channelEnabled _ := false
  interruptMask _ := 0
  intervals := []
  log := []

end ComputerSystems.Usb
