import ComputerSystems.Usb.Driver

/-! # Bringing up a mass storage device

`configure_complete` of `massstorage.c`: it is called when the configuration of the
device has been set and again whenever one of the commands that it sends completes,
and sends the next command.  In both cases it takes its context for a command status
wrapper; the first time the context is the host.

The delay before `READ CAPACITY` and the release of the request of the first call are
left out.  The function that the hub registered does not touch this device.
-/

namespace ComputerSystems.Usb

open ComputerSystems.System

def stateInquiry : Int := 0
def stateTestStart : Int := 1
def stateTestEnd : Int := 2
def stateReadCapacity : Int := 3
def stateFinished : Int := 4

def scsiOpInquiry : UInt8 := 0x12
def scsiPdtDirectAccessBlock : BitVec 5 := 0x00
def scsiRequestSense : UInt8 := 0x03
def scsiOpTestUnitReady : UInt8 := 0x00
def scsiOpReadCapacity10 : UInt8 := 0x25

/-- The sizes of the responses. -/
def inquiryResponseSize : Nat := 36
def requestSenseResponseSize : Nat := 18
def readCapacityResponseSize : Nat := 8

/-- The addresses of `InquiryResponse`, `RequestSenseResponse7x` and
    `ReadCapacityResponse`. -/
def inquiryResponse : Address := 1
def requestSenseResponse : Address := 2
def readCapacityResponse : Address := 3

/-- A command of `configure_complete`. -/
def configurationCommand (cmd : List UInt8) (buffer : Option Address) (bufLen : Nat) (isInEndpoint : Bool) :
    Command :=
  { cmd, buffer, bufLen := BitVec.ofNat 32 bufLen, isInEndpoint, complete := .configureComplete }

def inquiry : Command :=
  configurationCommand [scsiOpInquiry, 0, 0, 0, UInt8.ofNat inquiryResponseSize, scsiControl]
    (some inquiryResponse) inquiryResponseSize true

def testUnitReady : Command :=
  configurationCommand [scsiOpTestUnitReady, 0, 0, 0, 0, scsiControl] none 0 false

def requestSense : Command :=
  configurationCommand [scsiRequestSense, 0, 0, 0, UInt8.ofNat requestSenseResponseSize, scsiControl]
    (some requestSenseResponse) requestSenseResponseSize true

def readCapacity : Command :=
  configurationCommand [scsiOpReadCapacity10, 0, 0, 0, 0, 0, 0, 0, 0, scsiControl]
    (some readCapacityResponse) readCapacityResponseSize true

/-- What happens while a device is brought up. -/
inductive ConfigurationAction where
  | driver (action : StorageAction)
  /-- `configure_complete` goes to the branch of `state`. -/
  | branch (state : Int)
  /-- The device is not supported; the driver prints `message` and gives it up. -/
  | unsupported (message : StorageAction)
  /-- The function that the hub registered is called. -/
  | deviceComplete (complete : Address)
  /-- `MS1` is set. -/
  | ms1

/-- The fields of the responses that `configure_complete` reads. -/
structure Responses where
  peripheralDeviceType : BitVec 5
  returnedLogicalBlockAddress : BitVec 32
  blockLengthInBytes : BitVec 32

/-- The device and the static variables while it is brought up, its outstanding
    transfers and what happened. -/
structure Configuration where
  device : MassStorageDevice
  configurationState : Int
  responses : Responses
  blockCount : BitVec 32
  complete : Option Address
  ms1 : Bool
  outstanding : List Transfer
  log : List ConfigurationAction

def Configuration.note (config : Configuration) (action : ConfigurationAction) : Configuration :=
  { config with log := config.log ++ [action] }

def Configuration.absorb (config : Configuration) (effect : Effect) : Configuration :=
  { config with
    device := effect.device
    outstanding := config.outstanding ++ effect.actions.filterMap startedTransfer
    log := config.log ++ effect.actions.map .driver }

/-- Send a command and advance to the next state; if the command is not accepted,
    print `failure` and stay. -/
def sendCommand (request : Command) (failure : String) (starts : Bool) (config : Configuration) :
    Configuration :=
  let (result, effect) := command request starts config.device
  let config := config.absorb effect
  if result < 0 then config.note (.driver (.puts failure))
  else { config with configurationState := config.configurationState + 1 }

/-- The branch of `STATE_FINISHED`. -/
def finishConfiguration (config : Configuration) : Configuration :=
  let size := le2be32 config.responses.blockLengthInBytes
  if size ≠ BitVec.ofNat 32 blockSize then
    config.note (.unsupported (.printf "Unsupported block size: %u\n" [size.toNat]))
  else
    let blockCount := le2be32 config.responses.returnedLogicalBlockAddress
    let config := { config with blockCount }
    if blockCount = -1 then config.note (.unsupported (.puts "Unsupported disk size > 2TB"))
    else
      let blockCount := blockCount + 1
      let config := { config with blockCount }.note (.driver (.printf "Capacity is %u MByte\n"
        [((blockCount * BitVec.ofNat 32 blockSize) / 0x100000).toNat]))
      -- if registered complete function assigned by hub, call it
      let config :=
        match config.complete with
        | some complete => { config.note (.deviceComplete complete) with complete := none }
        | none => config
      { config with ms1 := true }.note .ms1

/-- The branches of `configure_complete`. -/
def configureBranch (starts : Bool) (config : Configuration) : Configuration :=
  if config.configurationState = stateInquiry then
    sendCommand inquiry "Device does not respond" starts
      { config with device := { config.device with commandComplete := some .configureComplete } }
  else if config.configurationState = stateTestStart then
    if config.responses.peripheralDeviceType ≠ scsiPdtDirectAccessBlock then
      config.note (.unsupported (.printf "Unsupported device type: 0x%02X\n"
        [config.responses.peripheralDeviceType.toNat]))
    else sendCommand testUnitReady "Test unit failed" starts config
  else if config.configurationState = stateTestEnd then
    sendCommand requestSense "Request sense failed" starts config
  else if config.configurationState = stateReadCapacity then
    sendCommand readCapacity "Read capacity failed" starts config
  else if config.configurationState = stateFinished then finishConfiguration config
  else { config with configurationState := config.configurationState + 1 }

/-- `configure_complete`; `context` is what it takes for the status wrapper, and
    `starts` says whether the wrapper of the command that it sends starts. -/
def configureComplete (context : CommandStatusWrapper) (starts : Bool) (config : Configuration) :
    Configuration :=
  let config :=
    if context.status ≠ cswStatusPassed then
      { config with configurationState := config.configurationState - 1 }.note
        (.driver (.printf "  csw status 'not passed', retrying state %d.\n" [config.configurationState - 1]))
    else config
  let config := { config with device := { config.device with commandComplete := none } }
  configureBranch starts (config.note (.branch config.configurationState))

/-! ## Runs -/

/-- A transfer has completed; the data of a response are in its buffer when the data
    transfer of the command completes. -/
def Configuration.receive (config : Configuration) (received : Responses) : Configuration :=
  if config.device.commandState = stateCswTransfer then
    if config.device.commandBuffer = some inquiryResponse then
      { config with
        responses := { config.responses with peripheralDeviceType := received.peripheralDeviceType } }
    else if config.device.commandBuffer = some readCapacityResponse then
      { config with
        responses := { received with peripheralDeviceType := config.responses.peripheralDeviceType } }
    else config
  else config

/-- The completion of the transfer at `index` of the outstanding ones: the status
    wrapper holds `csw` afterwards, and `received` is what the device sends as data.
    `starts` says whether the next transfer starts. -/
structure ConfigurationEvent where
  index : Nat
  csw : CommandStatusWrapper
  received : Responses
  starts : Bool

/-- `command_complete`.  Calling the complete routine is the last thing it does. -/
def configurationStep (config : Configuration) (event : ConfigurationEvent) : Option Configuration :=
  if event.index < config.outstanding.length then
    let config := { config with outstanding := config.outstanding.eraseIdx event.index }.receive event.received
    let next := config.absorb (commandComplete event.csw event.starts (fun device => { device }) config.device)
    if finishes event.csw config.device ∧ config.device.commandComplete = some .configureComplete then
      some (configureComplete event.csw event.starts next)
    else some next
  else none

/-- The device as `MassStorageAttach` leaves it. -/
def configurationStart (device : MassStorageDevice) (responses : Responses) (complete : Option Address) :
    Configuration where
  device := massStorageAttach device
  configurationState := 0
  responses
  blockCount := 0
  complete
  ms1 := false
  outstanding := []
  log := []

end ComputerSystems.Usb
