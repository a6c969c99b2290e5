import ComputerSystems.Usb.Configuration
import ComputerSystems.Usb.Hub

/-! # Initialising a device

`DeviceInitialize`, `initialize_complete` and `DeviceCopy` of `usb/device.c`, with the
descriptors that a device sends.  `Usb.Hub` has the same functions among the other
devices of the bus, where only the validity of a descriptor is known.

The bytes behind a descriptor pointer are those found when a function reads them: a
device may have sent any of them.  A failed `assert` prints and goes on.
-/

namespace ComputerSystems.Usb

def defaultAddress : Nat := 0
def defaultMaxPacketSize : BitVec 32 := 8
def maxConfigDescSize : Nat := 512

def descriptorDevice : UInt8 := 1
def sizeofDeviceDescriptor : UInt8 := 18

/-- `struct Device` with the `maxPacketSize` of its control endpoint. -/
structure ControlDevice extends Device where
  maxPacketSize : BitVec 32
deriving DecidableEq

/-- `DeviceAttach`, with `EndpointControl`, and with what is to be called at the end. -/
def ControlDevice.deviceAttach (speed : Speed) (hubAddress hubPortNumber : Nat)
    (complete : Option DeviceComplete) : ControlDevice where
  attached := true
  speed
  address := defaultAddress
  hubAddress
  hubPortNumber
  deviceDesc := false
  configDesc := false
  configParser := false
  complete
  state := .getDescriptorLength
  maxPacketSize := defaultMaxPacketSize

/-! ## Descriptors -/

/-- The test of the device descriptor. -/
def validDeviceDescriptor (deviceDesc : Nat → UInt8) : Bool :=
  (headerAt deviceDesc 0).length == sizeofDeviceDescriptor &&
    (headerAt deviceDesc 0).descriptorType == descriptorDevice

/-- `deviceDesc->maxPacketSize`, the byte behind the protocol. -/
def descriptorMaxPacketSize (deviceDesc : Nat → UInt8) : BitVec 32 := (deviceDesc 7).toBitVec.setWidth 32

/-- The test of the first nine bytes of a configuration descriptor. -/
def validConfigurationLength (configDesc : Nat → UInt8) : Bool :=
  (headerAt configDesc 0).length == sizeofConfigurationDescriptor &&
    (headerAt configDesc 0).descriptorType == descriptorConfiguration &&
    decide (totalLength configDesc ≤ maxConfigDescSize)

/-! ## `DeviceInitialize` -/

/-- What is decided elsewhere while a function runs: the descriptors as they are found, the next
    address, and whether the host accepts the request that is made. -/
structure InitializeCall where
  deviceDesc : Nat → UInt8
  configDesc : Nat → UInt8
  nextAddress : Nat
  accepted : Bool

/-- A request, by which function is called when it has been answered. -/
inductive InitializeRequest where
  | getDescriptor (type : UInt8) (size : Nat)
  | setAddress (address : Nat)
  /-- The completion routine of this one is `initialize_complete`. -/
  | getConfiguration (size : Nat)
deriving DecidableEq

/-- How the function returns: with a request that is under way, or giving up with a message. -/
inductive Initialized where
  | requested (request : InitializeRequest) (device : ControlDevice)
  | gaveUp (message : String) (device : ControlDevice)
deriving DecidableEq

/-- A request is made; the device is left in one of two ways. -/
def submitInitialize (accepted : Bool) (request : InitializeRequest) (message : String)
    (sent failed : ControlDevice) : Initialized :=
  if accepted then .requested request sent else .gaveUp message failed

/-- `DeviceInitialize`. -/
def ControlDevice.deviceInitialize (call : InitializeCall) (device : ControlDevice) : Initialized :=
  match device.state with
  | .getDescriptorLength =>
    let device := { device with deviceDesc := true }
    submitInitialize call.accepted (.getDescriptor descriptorDevice defaultMaxPacketSize.toNat)
      "Cannot get device descriptor (short)" { device with state := .getDescriptor }
      { device with deviceDesc := false, state := .getDescriptorLength }
  | .getDescriptor =>
    if !validDeviceDescriptor call.deviceDesc then
      .gaveUp "Invalid device descriptor (0x%x, 0x%x) len %d, type %d"
        { device with deviceDesc := false, state := .getDescriptorLength }
    else
      let device := { device with maxPacketSize := descriptorMaxPacketSize call.deviceDesc }
      submitInitialize call.accepted (.getDescriptor descriptorDevice sizeofDeviceDescriptor.toNat)
        "Cannot get device descriptor" { device with state := .setEndpointAddress }
        -- the size of the packets stays that of the descriptor
        { device with deviceDesc := false, state := .getDescriptorLength }
  | .setEndpointAddress =>
    if maxAddress < call.nextAddress then
      .gaveUp "Too many devices" { device with state := .getDescriptorLength }
    else
      submitInitialize call.accepted (.setAddress call.nextAddress) "Cannot set address"
        { device with state := .getConfigurationLength } { device with state := .getDescriptorLength }
  | .getConfigurationLength =>
    let device := { device with address := call.nextAddress, configDesc := true }
    submitInitialize call.accepted (.getDescriptor descriptorConfiguration sizeofConfigurationDescriptor.toNat)
      "Cannot get configuration descriptor (short)" { device with state := .getConfiguration }
      { device with configDesc := false, state := .getDescriptorLength }
  | .getConfiguration =>
    if !validConfigurationLength call.configDesc then
      .gaveUp "Invalid configuration descriptor" { device with configDesc := false, state := .getDescriptorLength }
    else
      submitInitialize call.accepted (.getConfiguration (totalLength call.configDesc))
        "Cannot get configuration descriptor" { device with state := .getDescriptorLength }
        { device with configDesc := false, state := .getDescriptorLength }

/-! ## `initialize_complete` -/

/-- `initialize_complete` of a device: whether the routine that waits for it is called, and
    nothing if `parser_attach` does not return. -/
def ControlDevice.initializeComplete (fuel : Nat) (configDesc : Nat → UInt8) (device : ControlDevice) :
    Option (Bool × ControlDevice) :=
  if device.configDesc then
    (parserAttach fuel configDesc (totalLength configDesc)).map fun (parser, _) =>
      (parser.valid, { device with configParser := true })
  else some (false, device)

/-- The bytes that `parser_attach` takes for the device's: none if it refuses their number, the
    test of the first four if it refuses those, and all that it walks through otherwise. -/
def parsedBytes (configDesc : Nat → UInt8) : Nat :=
  if totalLength configDesc < 4 ∨ 512 < totalLength configDesc then 0
  else if startsConfiguration configDesc (totalLength configDesc) then totalLength configDesc
  else 4

/-- The bytes that `DeviceCopy` copies of a configuration descriptor. -/
def copiedBytes (device : ControlDevice) (configDesc : Nat → UInt8) : Nat :=
  if device.configDesc then totalLength configDesc else 0

/-- The descriptor when a response has been received over what was there. -/
def storeResponse (response : List UInt8) (descriptor : Nat → UInt8) : Nat → UInt8 :=
  fun offset => response.getD offset (descriptor offset)

end ComputerSystems.Usb
