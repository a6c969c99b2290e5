import ComputerSystems.Usb.HostController

/-! # A stage on its own

What `host.c` does with one stage while it has a channel: the interrupts of the
channel and the timer of `stage_interval` are its events, and it stops when the stage
leaves the channel.  `Verified.StageRuns` relates this to the whole driver.
-/

namespace ComputerSystems.Usb

inductive StageEvent where
  /-- The interrupt of the channel, with what it reports. -/
  | interrupt (status packetsLeft bytesLeft : BitVec 32) (hardware : Hardware)
  /-- The timer of the stage expires. -/
  | interval (hardware : Hardware)
deriving DecidableEq

/-- What `start_transaction` does to the stage. -/
def startedStage (hardware : Hardware) (stage : TransferStageData) : TransferStageData :=
  if hardware.charEnabled then { stage with subState := .waitForChannelDisable }
  else
    { stage with
      subState := .waitForTransactionComplete
      frameScheduler := stage.frameScheduler.map (.wait hardware.frame) }

/-- The stage as `transfer_stage_async` leaves it on its channel. -/
def stageStart (endpoint : Endpoint) (nextPID : PID) (channel : Nat) (urb : Fin maxUsbRequests)
    (request : Request) (isIn statusStage : Bool) (hardware : Hardware) : Option TransferStageData :=
  (transferStageDataAttach endpoint nextPID channel urb request isIn statusStage).map
    fun stage => startedStage hardware (beginStage stage)

/-- The stage behind `TransferStageDataTransactionComplete`, which does not depend on the PID. -/
def countTransaction (status packetsLeft bytesLeft : BitVec 32) (stage : TransferStageData) :
    TransferStageData :=
  (transactionComplete status packetsLeft bytesLeft stage .setup).1

/-- Whether an interrupt gets past the switch on the sub state: a channel that was to
    be disabled, and a transaction that has only halted, are started again.  No interrupt
    is delivered while the timer runs, as the mask of the channel is clear. -/
def reports (status : BitVec 32) (stage : TransferStageData) : Bool :=
  stage.state != .periodicDelay && stage.subState == .waitForTransactionComplete && status != hcIntChHltd

/-- The stage that is left on the channel by `stageNext`. -/
def StageNext.stage (hardware : Hardware) (stage : TransferStageData) : StageNext → Option TransferStageData
  | .transaction stage => some (startedStage hardware stage)
  | .delay stage => some stage
  | .leave .. => none
  | .nothing => some stage

/-- One event; nothing when the stage has left the channel or the event cannot happen. -/
def stageStep (endpoint : Endpoint) (stage : TransferStageData) : StageEvent → Option TransferStageData
  | .interrupt status packetsLeft bytesLeft hardware =>
    if stage.state = .periodicDelay then none
    else if reports status stage then
      let stage := countTransaction status packetsLeft bytesLeft stage
      (stageNext endpoint stage).stage hardware stage
    else if stage.subState = .unknown then none
    else some (startedStage hardware stage)
  | .interval hardware =>
    if stage.state = .periodicDelay then some (startedStage hardware (beginStage stage)) else none

end ComputerSystems.Usb
