import ComputerSystems.System.Os
import Mathlib.Algebra.Order.Ring.Nat

/-! # The mass storage driver

The command state machine of `massstorage.c` and the read and write operations
over it.  A function returns the device afterwards and the list of what it did
meanwhile: the transfers it handed to `HostEndpointTransfer`, the callbacks it
called and the messages it printed.

Whether `HostEndpointTransfer` accepts a transfer is an argument (`starts`), as is
what a callback does to the device while it runs.
-/

namespace ComputerSystems.Usb

open ComputerSystems.System

def blockSize : Nat := 512
def blockMask : Nat := blockSize - 1
def blockShift : Nat := 9
def maxOffset : Nat := 0x1FFFFFFFFFF

def stateCbwTransfer : Nat := 0
def stateDataTransfer : Nat := 1
def stateCswTransfer : Nat := 2
def stateCmdFinished : Nat := 3

def cbwSignature : BitVec 32 := 0x43425355
def cbwFlagsDataIn : UInt8 := 0x80
def cbwLun : Nat := 0
def cswSignature : BitVec 32 := 0x53425355
def cswStatusPassed : UInt8 := 0x00

def scsiControl : UInt8 := 0x00
def scsiOpRead : UInt8 := 0x28
def scsiOpWrite : UInt8 := 0x2A
def scsiWriteFua : UInt8 := 0x08

/-- `struct CommandBlockWrapper`. -/
structure CommandBlockWrapper where
  signature : BitVec 32
  tag : BitVec 32
  dataTransferLength : BitVec 32
  flags : UInt8
  lun : Nat
  cbLength : BitVec 5
  cb : List UInt8
deriving DecidableEq

/-- `struct CommandStatusWrapper`. -/
structure CommandStatusWrapper where
  signature : BitVec 32
  tag : BitVec 32
  dataResidue : BitVec 32
  status : UInt8
deriving DecidableEq

/-- The routines that are passed to `command` as `complete`. -/
inductive CommandRoutine where
  | opComplete
  | configureComplete
  | other (address : Address)
deriving DecidableEq

/-- The fields of `struct MassStorageDevice` that the commands use. -/
structure MassStorageDevice where
  commandState : Nat
  commandIn : Bool
  commandBuffer : Option Address
  commandBufferLen : BitVec 32
  commandComplete : Option CommandRoutine
  operationCallback : Option Address
  operationPayload : Option Address
  tag : BitVec 32
  offset : BitVec 64
deriving DecidableEq

inductive BulkEndpoint where
  | endpointIn
  | endpointOut
deriving DecidableEq

/-- The buffer of a transfer: a command block wrapper, the buffer of a command, or
    the command status wrapper. -/
inductive TransferBuffer where
  | cbw (wrapper : CommandBlockWrapper)
  | data (buffer : Option Address)
  | csw
deriving DecidableEq

/-- The arguments of `HostEndpointTransfer`. -/
structure Transfer where
  endpoint : BulkEndpoint
  buffer : TransferBuffer
  length : BitVec 32
deriving DecidableEq

/-- The arguments of `command`. -/
structure Command where
  cmd : List UInt8
  buffer : Option Address
  bufLen : BitVec 32
  isInEndpoint : Bool
  complete : CommandRoutine
deriving DecidableEq

/-- The arguments of `MassStorageRead` and `MassStorageWrite`. -/
structure Operation where
  buffer : Option Address
  count : BitVec 32
  callback : Option Address
  payload : Option Address
deriving DecidableEq

/-- What happens while the driver runs, besides changes of the device. -/
inductive StorageAction where
  /-- `MassStorageRead` or `MassStorageWrite` is called. -/
  | request (operation : Operation)
  /-- `command` hands its command block wrapper over. -/
  | start (request : Command) (transfer : Transfer) (starts : Bool)
  /-- `command_complete` hands the next transfer over. -/
  | transfer (transfer : Transfer) (starts : Bool)
  /-- The complete routine of a command is called. -/
  | complete (routine : Option CommandRoutine) (csw : CommandStatusWrapper)
  /-- The callback of an operation is called. -/
  | operation (callback : Address) (buffer : Option Address) (length : BitVec 32)
      (payload : Option Address)
  | puts (text : String)
  | printf (format : String) (arguments : List Int)
deriving DecidableEq

/-- The device after a function and what the function did. -/
structure Effect where
  device : MassStorageDevice
  actions : List StorageAction := []
deriving DecidableEq

/-- The wrapper that `command` sends. -/
def commandWrapper (request : Command) (tag : BitVec 32) : CommandBlockWrapper where
  signature := cbwSignature
  tag := tag
  dataTransferLength := request.bufLen
  flags := if request.isInEndpoint then cbwFlagsDataIn else 0
  lun := cbwLun
  cbLength := BitVec.ofNat 5 request.cmd.length
  cb := request.cmd ++ List.replicate (16 - request.cmd.length) 0

def cbwTransfer (request : Command) (tag : BitVec 32) : Transfer where
  endpoint := .endpointOut
  buffer := .cbw (commandWrapper request tag)
  length := 31

def cswTransfer : Transfer := { endpoint := .endpointIn, buffer := .csw, length := 13 }

/-- `command`: start a command.  The result is negative unless it was accepted. -/
def command (request : Command) (starts : Bool) (massStorage : MassStorageDevice) : Int × Effect :=
  if massStorage.commandState = stateCbwTransfer then
    let tag := massStorage.tag + 1
    let transfer := cbwTransfer request tag
    -- save the command state: end callback, isIn and buffer
    let massStorage := { massStorage with
      tag, commandComplete := some request.complete, commandIn := request.isInEndpoint
      commandBuffer := request.buffer, commandBufferLen := request.bufLen }
    if starts then
      (0, { device := { massStorage with commandState := massStorage.commandState + 1 }
            actions := [.start request transfer true] })
    else
      (-1, { device := { massStorage with commandState := 0 }
             actions := [.start request transfer false, .puts "MS CBW transfer failed to start"] })
  else
    (-2, { device := massStorage
           actions := [.puts "USB mass storage command already in progress"] })

/-- The label `csw` of `command_complete`. -/
def commandCsw (starts : Bool) (massStorage : MassStorageDevice) : Effect :=
  if starts then
    { device := { massStorage with commandState := massStorage.commandState + 1 }
      actions := [.transfer cswTransfer true] }
  else
    { device := { massStorage with commandState := 0 }
      actions := [.transfer cswTransfer false, .puts "CSW transfer failed"] }

/-- `command_complete`: a transfer of a command has completed.  `csw` is the
    content of the status wrapper, and `callback` what the complete routine does
    to the device. -/
def commandComplete (csw : CommandStatusWrapper) (starts : Bool)
    (callback : MassStorageDevice → Effect) (massStorage : MassStorageDevice) : Effect :=
  if massStorage.commandState = stateDataTransfer then
    -- skip data transfer if zero bytes
    if massStorage.commandBufferLen.toInt ≤ 0 then
      commandCsw starts { massStorage with commandState := massStorage.commandState + 1 }
    else
      let transfer : Transfer :=
        { endpoint := if massStorage.commandIn then .endpointIn else .endpointOut
          buffer := .data massStorage.commandBuffer
          length := massStorage.commandBufferLen }
      if starts then
        { device := { massStorage with commandState := massStorage.commandState + 1 }
          actions := [.transfer transfer true] }
      else
        { device := { massStorage with commandState := 0 }
          actions := [.transfer transfer false, .puts "Data transfer failed"] }
  else if massStorage.commandState = stateCswTransfer then
    commandCsw starts massStorage
  else if massStorage.commandState = stateCmdFinished then
    if csw.signature ≠ cswSignature then
      { device := { massStorage with commandState := 0 }, actions := [.puts "invalid CSW signature"] }
    else if csw.tag ≠ massStorage.tag then
      { device := { massStorage with commandState := 0 }, actions := [.puts "CSW tag incorrect"] }
    else
      -- reset the command state and invoke the command complete callback
      let effect := callback { massStorage with commandState := 0 }
      { effect with actions := .complete massStorage.commandComplete csw :: effect.actions }
  else
    { device := { massStorage with commandState := massStorage.commandState + 1 } }

/-! ## Operations -/

/-- The length that `op_complete` reports. -/
def opLength (csw : CommandStatusWrapper) (commandBufferLen : BitVec 32) : BitVec 32 :=
  let length :=
    if csw.status ≠ cswStatusPassed then -BitVec.ofNat 32 csw.status.toNat else commandBufferLen
  -- if there is data left over, reduce the amount; the comparison is unsigned
  if 0 < csw.dataResidue.toNat ∧ csw.dataResidue.toNat ≤ length.toNat then length - csw.dataResidue
  else length

def opMessage (csw : CommandStatusWrapper) : List StorageAction :=
  if csw.status ≠ cswStatusPassed then
    [.printf "  csw status 'not passed', read failed %d.\n" [csw.status.toNat]]
  else []

/-- The device when the callback of an operation is called. -/
def opResult (csw : CommandStatusWrapper) (massStorage : MassStorageDevice) : MassStorageDevice :=
  { massStorage with commandComplete := none, commandBufferLen := opLength csw massStorage.commandBufferLen }

/-- Clear the buffer and increment the offset for the next command. -/
def opNext (massStorage : MassStorageDevice) : MassStorageDevice :=
  { massStorage with
    commandBuffer := none, commandBufferLen := 0, offset := massStorage.offset + BitVec.ofNat 64 blockSize }

/-- `op_complete`: user level operation callback for mass storage.  `user` is what
    the callback of the operation does to the device. -/
def opComplete (csw : CommandStatusWrapper) (user : MassStorageDevice → Effect)
    (massStorage : MassStorageDevice) : Effect :=
  let massStorage := opResult csw massStorage
  match massStorage.operationCallback with
  | some callback =>
    let effect := user massStorage
    { device := opNext effect.device
      actions := opMessage csw ++ .operation callback massStorage.commandBuffer massStorage.commandBufferLen
        massStorage.operationPayload :: effect.actions }
  | none => { device := opNext massStorage, actions := opMessage csw }

def le2be16 (value : BitVec 16) : BitVec 16 :=
  ((value &&& 0x00FF) <<< 8) ||| ((value &&& 0xFF00) >>> 8)

def le2be32 (value : BitVec 32) : BitVec 32 :=
  ((value &&& 0x000000FF) <<< 24) ||| ((value &&& 0x0000FF00) <<< 8) |||
    ((value &&& 0x00FF0000) >>> 8) ||| ((value &&& 0xFF000000) >>> 24)

/-- The bytes of a field as the processor stores it. -/
def fieldBytes (size : Nat) (value : Nat) : List UInt8 :=
  (List.range size).map fun i => UInt8.ofNat (value / 256 ^ i)

/-- `struct SCSIRead10` and `struct SCSIWrite10`. -/
def scsiTransfer10 (operationCode flags : UInt8) (blockAddress : BitVec 32) (transferLength : BitVec 16) :
    List UInt8 :=
  [operationCode, flags] ++ fieldBytes 4 (le2be32 blockAddress).toNat ++ [0] ++
    fieldBytes 2 (le2be16 transferLength).toNat ++ [scsiControl]

/-- The common body of `read` and `write`. -/
def transferBlocks (operationCode flags : UInt8) (isInEndpoint : Bool) (message : String)
    (buffer : Option Address) (count : BitVec 32) (starts : Bool) (device : MassStorageDevice) :
    Int × Effect :=
  if device.offset.toNat % blockSize ≠ 0 then
    (-1, { device, actions :=
      [.printf "Offset %d invalid (... & %x, > %x)" [device.offset.toNat, blockMask, maxOffset]] })
  else if count.toNat % blockSize ≠ 0 then
    (-1, { device, actions := [.printf "Count %d invalid (... & %x)" [count.toNat, blockMask]] })
  else
    let blockAddress := BitVec.ofNat 32 (device.offset.toNat / 2 ^ blockShift)
    let transferLength := BitVec.ofNat 16 (count.toNat / 2 ^ blockShift)
    let (result, effect) := command
      { cmd := scsiTransfer10 operationCode flags blockAddress transferLength
        buffer, bufLen := count, isInEndpoint, complete := .opComplete } starts device
    if result < 0 then (-1, { effect with actions := effect.actions ++ [.puts message] })
    else (count.toInt, effect)

/-- `read`. -/
def read : Option Address → BitVec 32 → Bool → MassStorageDevice → Int × Effect :=
  transferBlocks scsiOpRead 0 true "MS read failed"

/-- `write`. -/
def write : Option Address → BitVec 32 → Bool → MassStorageDevice → Int × Effect :=
  transferBlocks scsiOpWrite scsiWriteFua false "Write command failed to initiate"

/-- `MassStorageRead`. -/
def massStorageRead (buffer : Option Address) (count : BitVec 32) (callback payload : Option Address)
    (starts : Bool) (device : MassStorageDevice) : Int × Effect :=
  read buffer count starts { device with operationCallback := callback, operationPayload := payload }

/-- `MassStorageWrite`. -/
def massStorageWrite (buffer : Option Address) (count : BitVec 32) (callback payload : Option Address)
    (starts : Bool) (device : MassStorageDevice) : Int × Effect :=
  write buffer count starts { device with operationCallback := callback, operationPayload := payload }

/-- `MassStorageSeek`: the offset that was set, or 0 if it is not that of a block. -/
def massStorageSeek (offset : BitVec 64) (device : MassStorageDevice) : BitVec 64 × Effect :=
  if offset.toNat % blockSize ≠ 0 then
    (0, { device, actions :=
      [.printf "Offset %x invalid (... & %x, > %x)" [offset.toNat, blockMask, maxOffset]] })
  else
    (offset, { device := { device with offset } })

/-- The command fields as `MassStorageAttach` sets them. -/
def massStorageAttach (device : MassStorageDevice) : MassStorageDevice :=
  { device with commandState := 0, tag := 0, offset := 0 }

end ComputerSystems.Usb
