import ComputerSystems.Data.Loop
import ComputerSystems.Usb.Request
import Mathlib.Algebra.Order.Ring.Nat

/-! # Transfer stages

`transfer.c` of the DWC host controller: the stage of a transfer that is under way
on a channel, and the frame schedulers that pace split transactions.

A failed `assert` only prints, so a branch that asserts falsehood does nothing.
-/

namespace ComputerSystems.Usb

open ComputerSystems.Data ComputerSystems.System

/-! ## Channel status -/

def hcIntXferComp : BitVec 32 := 0x001
def hcIntChHltd : BitVec 32 := 0x002
def hcIntNak : BitVec 32 := 0x010
def hcIntAck : BitVec 32 := 0x020
def hcIntNyet : BitVec 32 := 0x040

/-- AHB error, stall, transaction error, babble, frame overrun, data toggle error. -/
def hcIntErrorMask : BitVec 32 := 0x78C

/-- Some bit of the mask is set. -/
def anySet (status mask : BitVec 32) : Bool := status &&& mask != 0

/-! ## Frame schedulers -/

inductive SchedulerKind where
  | periodic
  | nonperiodic
  | nosplit
deriving DecidableEq, Repr

inductive SchedulerState where
  | startSplit
  | startSplitComplete
  | completeSplit
  | completeRetry
  | completeSplitComplete
  | completeSplitFailed
  | unknown
deriving DecidableEq, Repr

def framePeriodicMax : BitVec 32 := 8

/-- The three frame schedulers, with the fields of all of them. -/
structure FrameScheduler where
  kind : SchedulerKind
  state : SchedulerState := .unknown
  tries : BitVec 32 := 0
  nextFrame : BitVec 32 := 0
deriving DecidableEq, Repr

/-- `startSplit`. -/
def FrameScheduler.start (scheduler : FrameScheduler) : FrameScheduler :=
  match scheduler.kind with
  | .periodic => { scheduler with state := .startSplit, nextFrame := framePeriodicMax }
  | .nonperiodic => { scheduler with state := .startSplit }
  | .nosplit => scheduler

/-- `completeSplit`: whether a complete split is to be made. -/
def FrameScheduler.complete (scheduler : FrameScheduler) : Bool × FrameScheduler :=
  match scheduler.kind, scheduler.state with
  | .nonperiodic, .startSplitComplete => (true, { scheduler with state := .completeSplit, tries := 3 })
  | .nonperiodic, .completeSplit => (true, scheduler)
  | .nonperiodic, .completeRetry => (true, scheduler)
  | .periodic, .startSplitComplete =>
    (true, { scheduler with
      state := .completeSplit
      tries := if scheduler.nextFrame ≠ 5 then 3 else 2
      nextFrame := (scheduler.nextFrame + 2) &&& 7 })
  | .periodic, .completeRetry =>
    (true, { scheduler with nextFrame := (scheduler.nextFrame + 1) &&& 7 })
  | _, _ => (false, scheduler)

/-- One try less: the complete split has failed when there was none left. -/
def FrameScheduler.retry (scheduler : FrameScheduler) : FrameScheduler :=
  { scheduler with
    state := if scheduler.tries = 0 then .completeSplitFailed else .completeRetry
    tries := scheduler.tries - 1 }

/-- `transactionComplete`. -/
def FrameScheduler.transactionComplete (status : BitVec 32) (scheduler : FrameScheduler) : FrameScheduler :=
  match scheduler.kind, scheduler.state with
  | .nosplit, _ => scheduler
  | _, .startSplit => { scheduler with state := .startSplitComplete }
  | kind, .completeSplit | kind, .completeRetry =>
    if anySet status hcIntXferComp then { scheduler with state := .completeSplitComplete }
    else if anySet status (hcIntNyet ||| hcIntAck) then scheduler.retry
    else if anySet status hcIntNak then
      match kind with
      | .periodic => { scheduler with state := .completeSplitFailed }
      | _ => scheduler.retry
    else scheduler
  | _, _ => scheduler

/-- `waitForFrame`, where `frame` is the number of the current frame. -/
def FrameScheduler.wait (frame : BitVec 32) (scheduler : FrameScheduler) : FrameScheduler :=
  match scheduler.kind with
  | .periodic =>
    if scheduler.nextFrame = framePeriodicMax then
      let next := (frame + 1) &&& 7
      { scheduler with nextFrame := if next = 6 then 7 else next }
    else scheduler
  | .nonperiodic => scheduler
  | .nosplit => { scheduler with nextFrame := (frame + 1) &&& 0x3FFF }

/-! ## Stages -/

inductive StageState where
  | noSplitTransfer
  | startSplit
  | completeSplit
  | periodicDelay
  | unknown
deriving DecidableEq, Repr

inductive StageSubState where
  | waitForChannelDisable
  | waitForTransactionComplete
  | unknown
deriving DecidableEq, Repr

/-- What the buffer of a stage is: the setup data or the buffer of the request, or
    the stage's own `TempBuffer`. -/
inductive StageBuffer where
  | null
  | setup
  | data (buffer : Option Address)
  | temp
deriving DecidableEq, Repr

/-- `struct TransferStageData`.  `bufferOffset` is how far `bufferPointer` has moved. -/
structure TransferStageData where
  channel : Nat := 0
  urb : Option (Fin maxUsbRequests) := none
  isIn : Bool := false
  statusStage : Bool := false
  splitTransaction : Bool := false
  splitComplete : Bool := false
  endpoint : Option Address := none
  maxPacketSize : BitVec 32 := 0
  transferSize : BitVec 32 := 0
  packets : BitVec 32 := 0
  bytesPerTransaction : BitVec 32 := 0
  packetsPerTransaction : BitVec 32 := 0
  totalBytesTransfered : BitVec 32 := 0
  state : StageState := .noSplitTransfer
  subState : StageSubState := .waitForChannelDisable
  transactionStatus : BitVec 32 := 0
  bufferPointer : StageBuffer := .null
  bufferOffset : BitVec 32 := 0
  frameScheduler : Option FrameScheduler := none
deriving DecidableEq

/-- `TransferStageDataIsPeriodic`. -/
def isPeriodic (endpoint : Endpoint) : Bool :=
  endpoint.type == .interrupt || endpoint.type == .isochronous

/-- The loop that counts the packets, with `size` and `packets`.  The comparison is
    unsigned. -/
def packetPass (maxPacketSize : BitVec 32) : BitVec 32 × BitVec 32 → Pass (BitVec 32 × BitVec 32) (BitVec 32)
  | (size, packets) => if maxPacketSize < size then .again (size - maxPacketSize, packets + 1) else .leave packets

/-- Where the loop starts. -/
def packetStart (transferSize maxPacketSize : BitVec 32) : BitVec 32 × BitVec 32 :=
  (transferSize + maxPacketSize - 1, 0)

/-- What the loop that counts the packets comes to: it takes `maxPacketSize` off `transferSize +
    maxPacketSize - 1` while more than that is left, and does not end if it is 0. -/
def packetCount (transferSize maxPacketSize : BitVec 32) : Option (BitVec 32) :=
  let size := (transferSize + maxPacketSize - 1).toNat
  if maxPacketSize = 0 ∧ 0 < size then none
  else some (BitVec.ofNat 32 ((size - 1) / maxPacketSize.toNat))

/-- `splitTransaction`. -/
def splits (endpoint : Endpoint) : Bool := endpoint.hubAddress != 0 && endpoint.speed != .high

/-- The frame scheduler that `TransferStageDataAttach` sets up. -/
def attachScheduler (endpoint : Endpoint) : Option FrameScheduler :=
  if splits endpoint then
    if isPeriodic endpoint then some { kind := .periodic, nextFrame := framePeriodicMax }
    else some { kind := .nonperiodic }
  else if endpoint.hubAddress = 0 ∧ endpoint.speed ≠ .high then
    some { kind := .nosplit, nextFrame := 0x4000 }
  else none

/-- `TransferStageDataAttach`; nothing if it does not return. -/
def transferStageDataAttach (endpoint : Endpoint) (nextPID : PID) (channel : Nat)
    (urb : Fin maxUsbRequests) (request : Request) (isIn statusStage : Bool) :
    Option TransferStageData :=
  let stage : TransferStageData :=
    { channel, urb := some urb, isIn, statusStage
      endpoint := request.endpoint
      maxPacketSize := endpoint.maxPacketSize
      splitTransaction := splits endpoint
      frameScheduler := attachScheduler endpoint }
  if statusStage then
    some { stage with packets := 1, packetsPerTransaction := 1, bufferPointer := .temp }
  else
    let setup := endpointGetNextPID nextPID statusStage = .setup
    let transferSize := if setup then 8 else request.bufLen
    let bufferPointer := if setup then .setup else .data request.buffer
    (packetCount transferSize endpoint.maxPacketSize).map fun packets =>
      { stage with
        transferSize, packets
        bytesPerTransaction :=
          if splits endpoint && decide (endpoint.maxPacketSize < transferSize) then endpoint.maxPacketSize
          else transferSize
        packetsPerTransaction := if splits endpoint then 1 else packets
        bufferPointer := if transferSize = 0 then .temp else bufferPointer }

/-- `TransferStageDataRelease` and `free_stage_data`. -/
def transferStageDataRelease (stage : TransferStageData) : TransferStageData :=
  { stage with frameScheduler := none, bufferPointer := .null, endpoint := none, urb := none }

/-- The packets that a transaction has moved, by what the channel reports as left. -/
def packetsMoved (packetsLeft : BitVec 32) (stage : TransferStageData) : BitVec 32 :=
  stage.packetsPerTransaction - packetsLeft

/-- `TransferStageDataTransactionComplete`, with the endpoint's next PID. -/
def transactionComplete (status packetsLeft bytesLeft : BitVec 32) (stage : TransferStageData)
    (nextPID : PID) : TransferStageData × PID :=
  let packetsTransfered := packetsMoved packetsLeft stage
  let bytesTransfered := stage.bytesPerTransaction - bytesLeft
  let stage := { stage with transactionStatus := status }
  if anySet status (hcIntErrorMask ||| hcIntNak ||| hcIntNyet) then (stage, nextPID)
  else
    let bytesTransfered :=
      if stage.splitTransaction && stage.splitComplete && bytesTransfered == 0 &&
          decide (0 < stage.bytesPerTransaction) then stage.maxPacketSize * packetsTransfered
      else bytesTransfered
    let totalBytesTransfered := stage.totalBytesTransfered + bytesTransfered
    let left := stage.transferSize - totalBytesTransfered
    ({ stage with
        totalBytesTransfered
        bufferOffset := stage.bufferOffset + bytesTransfered
        packets := stage.packets - packetsTransfered
        bytesPerTransaction := if left < stage.bytesPerTransaction then left else stage.bytesPerTransaction },
      if !stage.splitTransaction || stage.splitComplete then
        endpointSkipPID nextPID packetsTransfered stage.statusStage
      else nextPID)

/-- `TransferStageDataGetStatusMask`. -/
def statusMask (endpoint : Endpoint) (stage : TransferStageData) : BitVec 32 :=
  let mask := hcIntXferComp ||| hcIntChHltd ||| hcIntErrorMask
  if stage.splitTransaction || isPeriodic endpoint then mask ||| hcIntAck ||| hcIntNak ||| hcIntNyet
  else mask

/-- `TransferStageDataGetResultLen`. -/
def resultLen (stage : TransferStageData) : BitVec 32 :=
  if stage.transferSize < stage.totalBytesTransfered then stage.transferSize
  else stage.totalBytesTransfered

end ComputerSystems.Usb
