import ComputerSystems.Data.Loop
import ComputerSystems.Usb.Request

/-! # Devices, hubs and the root port

`usb/device.c`, `usb/hub.c` and `usb/rootport.c`.  A device is initialised and
configured by control requests, each sent from the completion routine of the one
before, and the hub driver goes from port to port in the same way.

Requests are sent and completed as wholes here; `Usb.HostController` has their
stages.  What the devices answer is decided elsewhere: a function that reads it is
given `Answers`.  A failed `assert` prints and goes on, so none is modelled.

A function returns nothing where the driver would go on through a `NULL` pointer or
past the end of `HubDevice`.
-/

namespace ComputerSystems.Usb

open ComputerSystems.System

def maxHubs : Nat := 2
def maxPorts : Nat := 8
def firstAddress : Nat := 1
def maxAddress : Nat := 127

def requestOut : UInt8 := 0
def requestClass : UInt8 := 0x20
def requestToInterface : UInt8 := 1
def requestToOther : UInt8 := 3

def portReset : BitVec 16 := 4
def portPower : BitVec 16 := 8

def portConnectionMask : BitVec 16 := 1 <<< 0
def portEnableMask : BitVec 16 := 1 <<< 1
def portLowSpeedMask : BitVec 16 := 1 <<< 9
def portHighSpeedMask : BitVec 16 := 1 <<< 10

/-! ## Control messages -/

/-- `HostGetEndpointDescriptor`. -/
def getDescriptorMessage (type : Nat) (size : BitVec 16) (requestType : UInt8) : SetupData :=
  ⟨requestType, 6, BitVec.ofNat 16 (type <<< 8), 0, size⟩

/-- `HostSetEndpointAddress`. -/
def setAddressMessage (address : Nat) : SetupData :=
  ⟨requestOut, 5, BitVec.ofNat 16 address, 0, 0⟩

/-- `HostSetEndpointConfiguration`. -/
def setConfigurationMessage (value : UInt8) : SetupData :=
  ⟨requestOut, 9, BitVec.ofNat 16 value.toNat, 0, 0⟩

def setInterfaceMessage (alternateSetting interfaceNumber : UInt8) : SetupData :=
  ⟨requestOut ||| requestToInterface, 11, BitVec.ofNat 16 alternateSetting.toNat,
    BitVec.ofNat 16 interfaceNumber.toNat, 0⟩

/-- `SET_FEATURE` of the port with index `port`. -/
def setPortFeatureMessage (feature : BitVec 16) (port : Nat) : SetupData :=
  ⟨requestOut ||| requestClass ||| requestToOther, 3, feature, BitVec.ofNat 16 (port + 1), 0⟩

def getPortStatusMessage (port : Nat) : SetupData :=
  ⟨requestIn ||| requestClass ||| requestToOther, 0, 0, BitVec.ofNat 16 (port + 1), 4⟩

/-! ## Devices -/

/-- The structures for devices: `RootDevice`, an element of `Devices` of a hub, and
    the device that a hub is. -/
inductive DeviceAt where
  | root
  | port (hub port : Nat)
  | hub (hub : Nat)
deriving DecidableEq

/-- Where `Endpoint0` of a structure is. -/
def DeviceAt.endpoint0 : DeviceAt → Address
  | .root => 1
  | .hub index => 2 + index
  | .port index number => 2 + maxHubs + index * maxPorts + number

/-- Where the requests of a device read to. -/
def DeviceAt.data (device : DeviceAt) : Address := 0x1000 + device.endpoint0

inductive DeviceState where
  | getDescriptorLength
  | getDescriptor
  | setEndpointAddress
  | getConfigurationLength
  | getConfiguration
deriving DecidableEq

/-- `complete` of a device, with `comp_dev`. -/
inductive DeviceComplete where
  | rootInitializeComplete
  | enumeratePortsComplete (hub : Nat)
deriving DecidableEq

/-- `struct Device`.  Of the pointers only whether they are set is kept, and `host`
    and `endpoint0` are set and cleared together. -/
structure Device where
  attached : Bool := false
  speed : Speed := .unknown
  address : Nat := 0
  hubAddress : Nat := 0
  hubPortNumber : Nat := 0
  deviceDesc : Bool := false
  configDesc : Bool := false
  configParser : Bool := false
  complete : Option DeviceComplete := none
  state : DeviceState := .getDescriptorLength
deriving DecidableEq

/-- What `new_device` reads of the descriptors of a device. -/
structure Identity where
  interfaceClass : UInt8 := 0
  interfaceSubClass : UInt8 := 0
  interfaceProtocol : UInt8 := 0
  idVendor : BitVec 16 := 0
  idProduct : BitVec 16 := 0
  deviceClass : UInt8 := 0
deriving DecidableEq

inductive DeviceDriver where
  | keyboard
  | mouse
  | massStorage
  | lan
  | hub
deriving DecidableEq

def DeviceDriver.text : DeviceDriver → String
  | .keyboard => "Keyboard detected"
  | .mouse => "Mouse detected"
  | .massStorage => "Mass Storage (Bulk Only) detected"
  | .lan => "Ethernet (lan95xx) detected"
  | .hub => "Standard Hub detected"

/-- The driver that `new_device` finds.  The Ethernet device is the one of the boards
    before the third. -/
def newDevice (identity : Identity) : Option DeviceDriver :=
  if identity.interfaceClass = 3 ∧ identity.interfaceSubClass = 1 ∧ identity.interfaceProtocol = 1 then
    some .keyboard
  else if identity.interfaceClass = 3 ∧ identity.interfaceSubClass = 1 ∧
      identity.interfaceProtocol = 2 then some .mouse
  else if identity.interfaceClass = 8 ∧ identity.interfaceSubClass = 6 ∧
      identity.interfaceProtocol = 0x50 then some .massStorage
  else if identity.idVendor = 0x424 ∧ identity.idProduct = 0xEC00 then some .lan
  else if identity.deviceClass = 9 then some .hub
  else none

/-- A device as `DeviceCreate` and `configure` of its driver find it.  `refuses` is the
    message with which `configure` refuses its descriptors. -/
structure Found where
  identity : Identity := {}
  refuses : Option String := none
  configurationValue : UInt8 := 1
  alternateSetting : UInt8 := 0
  interfaceNumber : UInt8 := 0
deriving DecidableEq

/-- What `configure_complete` of a driver other than the hub driver does next. -/
inductive DriverStep where
  | message (setup : SetupData)
  | complete
  | stop
deriving DecidableEq

/-- What the devices answer while an event is handled: whether the descriptors that
    have been read are valid, the status of a port, and what a device turns out to be.
    `found device true` is a device that has been made specific before. -/
structure Answers where
  deviceDescriptor : Bool := true
  configDescriptor : Bool := true
  totalLength : BitVec 16 := 32
  configuration : Bool := true
  numPorts : Nat := 0
  portStatus : BitVec 16 := 0
  found : DeviceAt → Bool → Found := fun _ _ => {}
  driver : DriverStep := .stop

/-! ## The bus -/

/-- A completion routine of a request, with its parameter. -/
inductive Callback where
  | deviceInitialize (device : DeviceAt)
  | initializeComplete (device : DeviceAt)
  | hubConfigureComplete (hub : Nat)
  | enumeratePortsComplete (hub : Nat)
  | driverConfigureComplete (device : DeviceAt)
deriving DecidableEq

inductive BusAction where
  | newRequest (urb : Fin maxUsbRequests)
  | freeRequest (urb : Fin maxUsbRequests)
  | submitted (urb : Fin maxUsbRequests) (setup : SetupData)
  /-- The completion routine of a request is called. -/
  | completed (urb : Fin maxUsbRequests)
  | deviceAttach (device : DeviceAt) (speed : Speed)
  /-- The initialisation of a device has ended well. -/
  | initialized (device : DeviceAt)
  | deviceCreate (device : DeviceAt)
  /-- A message of the enumeration of a hub. -/
  | enumeration (hub : Nat) (text : String)
  | puts (text : String)
  | printf (format : String) (arguments : List Nat)
deriving DecidableEq

/-- An element of `devices` of a hub that is not `NULL`. -/
inductive PortDevice where
  | generic
  | specific
deriving DecidableEq

/-- `struct Hub`. -/
structure Hub where
  device : Device := {}
  ports : Nat := 0
  initState : Nat := 0
  alternateSetting : UInt8 := 0
  interfaceNumber : UInt8 := 0
  devices : Nat → Option PortDevice := fun _ => none

/-- The requests, with the routine of each and whether it is in flight, and the
    variables of the three files. -/
structure Bus where
  requests : Requests
  callbacks : Fin maxUsbRequests → Option Callback
  flight : Fin maxUsbRequests → Bool
  devices : DeviceAt → Device
  hubs : Nat → Hub
  hubIndex : Nat
  nextAddress : Nat
  log : List BusAction

/-- The bus after `RequestInit` and `DeviceInit`. -/
def busInit : Bus where
  requests := fun _ => {}
  callbacks := fun _ => none
  flight := fun _ => false
  devices := fun _ => {}
  hubs := fun _ => {}
  hubIndex := 0
  nextAddress := firstAddress
  log := []

def Bus.note (actions : List BusAction) (bus : Bus) : Bus := { bus with log := bus.log ++ actions }

def Bus.setDevice (device : DeviceAt) (value : Device) (bus : Bus) : Bus :=
  { bus with devices := Function.update bus.devices device value }

def Bus.setHub (hub : Nat) (value : Hub) (bus : Bus) : Bus :=
  { bus with hubs := Function.update bus.hubs hub value }

def Bus.setInitState (hub initState : Nat) (bus : Bus) : Bus :=
  bus.setHub hub { bus.hubs hub with initState }

def Bus.setPort (hub port : Nat) (device : Option PortDevice) (bus : Bus) : Bus :=
  bus.setHub hub { bus.hubs hub with devices := Function.update (bus.hubs hub).devices port device }

/-- `++hub->init_state`. -/
def Bus.advance (hub : Nat) (bus : Bus) : Bus := bus.setInitState hub ((bus.hubs hub).initState + 1)

/-- `FreeRequest`, where the request is not `NULL`. -/
def Bus.freeUrb (urb : Option (Fin maxUsbRequests)) (bus : Bus) : Bus :=
  match urb with
  | none => bus
  | some urb =>
    { bus with
      requests := Function.update bus.requests urb (freeRequest (bus.requests urb))
      log := bus.log ++ [.freeRequest urb] }

/-- A request that `NewRequest` has found is filled in and submitted. -/
def Bus.submit (urb : Fin maxUsbRequests) (device : DeviceAt) (setup : SetupData)
    (buffer : Option Address) (callback : Callback) (bus : Bus) : Bus :=
  { bus with
    requests := Function.update bus.requests urb
      (requestAttach device.endpoint0 buffer (setup.length.setWidth 32) (some setup) (bus.requests urb))
    callbacks := Function.update bus.callbacks urb (some callback)
    flight := Function.update bus.flight urb true
    log := bus.log ++ [.newRequest urb, .submitted urb setup] }

/-- `HostEndpointControlMessage`; whether it succeeds. -/
def Bus.hostEndpointControlMessage (device : DeviceAt) (setup : SetupData) (buffer : Option Address)
    (callback : Callback) (bus : Bus) : Bool × Bus :=
  match findRequest bus.requests with
  | none => (false, bus.note [.puts "HostEndpointControlMessage - URB or Setup invalid"])
  | some urb => (true, bus.submit urb device setup buffer callback)

/-- A control message, with what is done when it has been sent and when it has not. -/
def Bus.send (device : DeviceAt) (setup : SetupData) (buffer : Option Address) (callback : Callback)
    (sent failed : Bus → Bus) (bus : Bus) : Bus :=
  match Bus.hostEndpointControlMessage device setup buffer callback bus with
  | (true, bus) => sent bus
  | (false, bus) => failed bus

/-! ## device.c -/

/-- `DeviceAttach`. -/
def deviceAttach (device : DeviceAt) (speed : Speed) (hubAddress hubPortNumber : Nat) (bus : Bus) : Bus :=
  (bus.setDevice device { attached := true, speed, hubAddress, hubPortNumber }).note
    [.deviceAttach device speed]

/-- `DeviceRelease`. -/
def deviceRelease (device : DeviceAt) (bus : Bus) : Bus :=
  bus.setDevice device
    { bus.devices device with attached := false, deviceDesc := false, configDesc := false,
                              configParser := false }

/-- `device->state`, and a message before it is set. -/
def Bus.setState (device : DeviceAt) (state : DeviceState) (bus : Bus) : Bus :=
  bus.setDevice device { bus.devices device with state }

/-- The end of an initialisation that has failed while the device descriptor was read. -/
def Bus.dropDeviceDesc (device : DeviceAt) (bus : Bus) : Bus :=
  bus.setDevice device { bus.devices device with deviceDesc := false, state := .getDescriptorLength }

/-- The end of one that has failed while the configuration descriptor was read. -/
def Bus.dropConfigDesc (device : DeviceAt) (bus : Bus) : Bus :=
  bus.setDevice device { bus.devices device with configDesc := false, state := .getDescriptorLength }

/-- `DeviceInitialize`. -/
def deviceInitialize (urb : Option (Fin maxUsbRequests)) (device : DeviceAt) (answers : Answers)
    (bus : Bus) : Bus :=
  let bus := bus.freeUrb urb
  let read type size callback sent failed bus :=
    Bus.send device (getDescriptorMessage type size requestIn) (some device.data) callback sent failed bus
  match (bus.devices device).state with
  | .getDescriptorLength =>
    let bus := bus.setDevice device { bus.devices device with deviceDesc := true }
    read 1 8 (.deviceInitialize device) (·.setState device .getDescriptor)
      (fun bus => (bus.note [.puts "Cannot get device descriptor (short)"]).dropDeviceDesc device) bus
  | .getDescriptor =>
    if answers.deviceDescriptor then
      read 1 18 (.deviceInitialize device) (·.setState device .setEndpointAddress)
        (fun bus => (bus.note [.puts "Cannot get device descriptor"]).dropDeviceDesc device) bus
    else
      (bus.note [.printf "Invalid device descriptor (0x%x, 0x%x) len %d, type %d" []]).dropDeviceDesc device
  | .setEndpointAddress =>
    if maxAddress < bus.nextAddress then
      (bus.note [.puts "Too many devices"]).setState device .getDescriptorLength
    else
      bus.send device (setAddressMessage bus.nextAddress) none (.deviceInitialize device)
        (·.setState device .getConfigurationLength)
        (fun bus => (bus.note [.puts "Cannot set address"]).setState device .getDescriptorLength)
  | .getConfigurationLength =>
    let bus := bus.setDevice device
      { bus.devices device with address := bus.nextAddress, configDesc := true }
    let bus := { bus with nextAddress := bus.nextAddress + 1 }
    read 2 9 (.deviceInitialize device) (·.setState device .getConfiguration)
      (fun bus => (bus.note [.puts "Cannot get configuration descriptor (short)"]).dropConfigDesc device) bus
  | .getConfiguration =>
    if answers.configDescriptor then
      read 2 answers.totalLength (.initializeComplete device) (·.setState device .getDescriptorLength)
        (fun bus => (bus.note [.puts "Cannot get configuration descriptor"]).dropConfigDesc device) bus
    else (bus.note [.puts "Invalid configuration descriptor"]).dropConfigDesc device

/-- `DeviceConfigure` of a device that has its configuration descriptor, with what the
    driver that calls it prints. -/
def deviceConfigure (device : DeviceAt) (configurationValue : UInt8) (callback : Callback) (bus : Bus) :
    Bool × Bus :=
  match Bus.hostEndpointControlMessage device (setConfigurationMessage configurationValue) none callback bus with
  | (true, bus) => (true, bus)
  | (false, bus) => (false, bus.note [.puts "Failed to set configuration", .puts "Cannot set configuration"])

/-! ## Specific devices -/

/-- `HubAttach`. -/
def hubAttach (device : DeviceAt) (bus : Bus) : Option (Option Nat × Bus) :=
  if maxHubs < bus.hubIndex then some (none, bus.note [.puts "Maximum hubs exceeded."])
  -- the bound admits one hub more than `HubDevice` holds
  else if bus.hubIndex = maxHubs then none
  else
    some (some bus.hubIndex,
      { bus.setHub bus.hubIndex { device := bus.devices device } with hubIndex := bus.hubIndex + 1 })

/-- The device of a port is released and its pointer cleared.  A device that has been made
    specific is released in the structure of its driver. -/
def releasePort (hub : Nat) (bus : Bus) (port : Nat) : Bus :=
  match (bus.hubs hub).devices port with
  | none => bus
  | some .generic => (deviceRelease (.port hub port) bus).setPort hub port none
  | some .specific => bus.setPort hub port none

/-- `HubRelease`. -/
def hubRelease (hub : Nat) (bus : Bus) : Bus :=
  let bus := (List.range (bus.hubs hub).ports).foldl (releasePort hub) bus
  bus.setHub hub { bus.hubs hub with
    ports := 0
    device := { (bus.hubs hub).device with attached := false, deviceDesc := false, configDesc := false,
                                           configParser := false } }

/-- What `DeviceCreate` returns. -/
inductive Child where
  | driver
  | hub (index : Nat)
deriving DecidableEq

/-- `DeviceCreate`; `again` when the device has been made specific before. -/
def deviceCreate (device : DeviceAt) (again : Bool) (answers : Answers) (bus : Bus) :
    Option (Option Child × Bus) :=
  let bus := bus.note [.deviceCreate device]
  match newDevice (answers.found device again).identity with
  | none =>
    some (none, bus.note [.puts "Device [class subclass protocol] detected but no driver",
      .puts "Create device: device not known or init failed"])
  | some .hub =>
    match hubAttach device (bus.note [.puts (DeviceDriver.text .hub)]) with
    | none => none
    | some (none, bus) => some (none, bus.note [.puts "Create device: device not known or init failed"])
    | some (some hub, bus) => some (some (.hub hub), bus)
  | some driver => some (some .driver, bus.note [.puts driver.text])

/-- `configure` of a hub. -/
def hubConfigure (hub : Nat) (found : Found) (bus : Bus) : Bool × Bus :=
  match found.refuses with
  | some text => (false, bus.note [.puts text])
  | none =>
    deviceConfigure (.hub hub) found.configurationValue (.hubConfigureComplete hub)
      (bus.setHub hub { bus.hubs hub with alternateSetting := found.alternateSetting,
                                          interfaceNumber := found.interfaceNumber })

/-- `configure` of another driver. -/
def driverConfigure (device : DeviceAt) (found : Found) (bus : Bus) : Bool × Bus :=
  match found.refuses with
  | some text => (false, bus.note [.puts text])
  | none => deviceConfigure device found.configurationValue (.driverConfigureComplete device) bus

/-- `(*child->configure)(child, NULL, NULL)`. -/
def configure (device : DeviceAt) (child : Child) (found : Found) (bus : Bus) : Bool × Bus :=
  match child with
  | .hub hub => hubConfigure hub found bus
  | .driver => driverConfigure device found bus

/-! ## hub.c -/

/-- A control message of `enumerate_ports_complete`. -/
def enumerateSend (hub : Nat) (setup : SetupData) (buffer : Option Address) (failure : BusAction)
    (bus : Bus) : Bus :=
  bus.send (.hub hub) setup buffer (.enumeratePortsComplete hub) (·.advance hub)
    fun bus => (bus.note [failure]).setInitState hub 0

def portSpeed (status : BitVec 16) : Speed :=
  if status &&& portLowSpeedMask ≠ 0 then .low
  else if status &&& portHighSpeedMask ≠ 0 then .high
  else .full

/-- A state of the enumeration, in a pass of `enumerate_ports_complete`: the request
    that has not been freed, and the bus. -/
abbrev Enumerating := Option (Fin maxUsbRequests) × Bus

/-- `STATE_ENUM_DEVICE`. -/
def enumerateDevice (answers : Answers) (hub port : Nat) (urb : Option (Fin maxUsbRequests)) (bus : Bus) :
    Data.Pass Enumerating (Option Bus) :=
  let status := answers.portStatus
  if status &&& portConnectionMask = 0 then
    .again (urb, (bus.note [.printf "Port %d is not connected 0x%x\n" [port, status.toNat]]).advance hub)
  else if status &&& portEnableMask = 0 then
    .again (urb, (bus.note [.printf "Port %d is not enabled 0x%x\n" [port, status.toNat]]).advance hub)
  else
    let address := (bus.hubs hub).device.address
    let bus := (bus.setPort hub port (some .generic)).note
      [.printf "Attach port %d, address %d\n" [port, address]]
    let bus := deviceAttach (.port hub port) (portSpeed status) address (port + 1) bus
    let bus := bus.setDevice (.port hub port)
      { bus.devices (.port hub port) with complete := some (.enumeratePortsComplete hub) }
    .leave (some ((deviceInitialize none (.port hub port) answers bus).advance hub))

/-- The four states of the enumeration of a port. -/
def enumeratePort (answers : Answers) (hub port : Nat) (urb : Option (Fin maxUsbRequests)) (bus : Bus) :
    Nat → Data.Pass Enumerating (Option Bus)
  | 0 => .leave (some (enumerateSend hub (getPortStatusMessage port) (some (DeviceAt.data (.hub hub)))
      (.puts "Cannot get status of port") bus))
  | 1 => .leave (some (enumerateSend hub (setPortFeatureMessage portReset port) none
      (.puts "Cannot reset port") bus))
  | 2 => .leave (some (enumerateSend hub (getPortStatusMessage port) (some (DeviceAt.data (.hub hub)))
      (.puts "ERROR - HostEndpointControlMessage failed for port enable") bus))
  | _ => enumerateDevice answers hub port urb bus

/-- The specific device of a port is created and configured. -/
def configurePort (answers : Answers) (hub port : Nat) (urb : Option (Fin maxUsbRequests)) (bus : Bus) :
    Data.Pass Enumerating (Option Bus) :=
  match (bus.hubs hub).devices port with
  | none => .again (urb, bus.advance hub)
  | some device =>
    let again := device == .specific
    match deviceCreate (.port hub port) again answers bus with
    | none => .leave none
    | some (none, bus) =>
      let bus := bus.note [.printf "Port %u: Device is not supported\n" [port]]
      .again (urb, ((deviceRelease (.port hub port) bus).setPort hub port none).advance hub)
    | some (some child, bus) =>
      let bus := (deviceRelease (.port hub port) bus).setPort hub port (some .specific)
      match configure (.port hub port) child (answers.found (.port hub port) again) bus with
      | (true, bus) => .leave (some (bus.advance hub))
      | (false, bus) => .again (urb, (bus.note [.puts "Port: Cannot configure device"]).advance hub)

/-- `enumerate_ports_complete` from `begin` to the next `goto begin`. -/
def enumeratePass (answers : Answers) (hub : Nat) : Enumerating → Data.Pass Enumerating (Option Bus)
  | (urb, bus) =>
    let ports := (bus.hubs hub).ports
    let initState := (bus.hubs hub).initState
    if initState < ports then
      .leave (some (enumerateSend hub (setPortFeatureMessage portPower initState) none
        (.printf "Cannot power port %u" [initState + 1]) (bus.freeUrb urb)))
    else
      let step := (initState - ports) % 4
      let urb' := if step = 0 then urb else none
      let bus := if step = 0 then bus else bus.freeUrb urb
      let port := (initState - ports) / 4
      if port < ports then enumeratePort answers hub port urb' bus step
      else if (ports + 1) * 4 - 1 ≤ initState then
        -- a negative port number counts as the first one, as the subtraction has it
        let back := initState - (ports + 1) * 4
        if back < ports then configurePort answers hub (ports - 1 - back) urb' bus
        else .leave (some ((bus.setInitState hub 0).note [.enumeration hub "Hub Enumeration Complete"]))
      else .leave (some ((bus.note [.enumeration hub "Hub Enumeration Failed"]).setInitState hub 0))

/-- `enumerate_ports_complete`.  Every `goto begin` comes with a higher `init_state`, so
    there is fuel for all of them. -/
def enumeratePortsComplete (answers : Answers) (hub : Nat) (urb : Option (Fin maxUsbRequests)) (bus : Bus) :
    Option Bus :=
  if (bus.hubs hub).device.attached then
    (Data.iterate (enumeratePass answers hub) (5 * (bus.hubs hub).ports + 5) (urb, bus)).join
  else some bus

/-- `enumerate_ports`, and what `configure_complete` does when it fails. -/
def enumeratePorts (hub : Nat) (bus : Bus) : Bus :=
  (bus.setInitState hub 0).send (.hub hub) (setPortFeatureMessage portPower 0) none
    (.enumeratePortsComplete hub) id
    fun bus => (bus.note [.puts "Cannot send control message to power port 0",
      .puts "Port enumeration failed"]).setInitState hub 0

/-- `configure_complete` of a hub. -/
def hubConfigureComplete (urb : Fin maxUsbRequests) (hub : Nat) (answers : Answers) (bus : Bus) : Bus :=
  let bus := bus.freeUrb (some urb)
  let value := bus.hubs hub
  if value.initState = 0 ∧ value.alternateSetting ≠ 0 then
    bus.send (.hub hub) (setInterfaceMessage value.alternateSetting value.interfaceNumber) none
      (.hubConfigureComplete hub) (·.setInitState hub 1) (·.note [.puts "Cannot set interface"])
  else if value.initState ≤ 1 then
    bus.send (.hub hub) (getDescriptorMessage 0x29 9 (requestIn ||| requestClass))
      (some (DeviceAt.data (.hub hub))) (.hubConfigureComplete hub) (·.setInitState hub 2)
      fun bus => (bus.note [.puts "Cannot get hub descriptor"]).setInitState hub 0
  else if value.initState = 2 then
    let bus := bus.setHub hub { value with ports := answers.numPorts }
    if maxPorts < answers.numPorts then (bus.note [.puts "Too many ports"]).setInitState hub 0
    else
      enumeratePorts hub
        (bus.note [.printf "Begin USB hub enumeration of %d ports...\n" [answers.numPorts]])
  else bus

/-! ## rootport.c -/

/-- `initialize_complete` of the root port. -/
def rootInitializeComplete (urb : Fin maxUsbRequests) (device : DeviceAt) (answers : Answers) (bus : Bus) :
    Option Bus :=
  match deviceCreate device false answers bus with
  | none => none
  | some (none, bus) =>
    some ((deviceRelease device (bus.note [.puts "  Device is not supported"])).freeUrb (some urb))
  | some (some child, bus) =>
    match configure device child (answers.found device false) (deviceRelease device bus) with
    | (true, bus) => some (bus.freeUrb (some urb))
    | (false, bus) =>
      let bus := bus.note [.puts "  Cannot configure device"]
      match child with
      | .driver => some (bus.freeUrb (some urb))
      | .hub hub =>
        let value := bus.hubs hub
        some ((bus.setHub hub { value with device := { value.device with attached := false } }).freeUrb
          (some urb))

/-- `RootPortInitialize`. -/
def rootPortInitialize (speed : Speed) (bus : Bus) : Bus :=
  if speed = .unknown then bus.note [.puts "Cannot detect port speed"]
  else
    let bus := deviceAttach .root speed 0 1 bus
    let bus := bus.setDevice .root { bus.devices .root with complete := some .rootInitializeComplete }
    deviceInitialize none .root {} bus

/-- `initialize_complete` of a device. -/
def initializeComplete (urb : Fin maxUsbRequests) (device : DeviceAt) (answers : Answers) (bus : Bus) :
    Option Bus :=
  if (bus.devices device).configDesc then
    let bus := bus.setDevice device { bus.devices device with configParser := true }
    if answers.configuration then
      let bus := bus.note [.initialized device]
      let completed :=
        match (bus.devices device).complete with
        | none => some bus
        | some .rootInitializeComplete => rootInitializeComplete urb device answers bus
        | some (.enumeratePortsComplete hub) => enumeratePortsComplete answers hub (some urb) bus
      completed.map (·.freeUrb (some urb))
    else some ((bus.note [.puts "USB device configuration parser not valid"]).freeUrb (some urb))
  else some (bus.freeUrb (some urb))

/-- `configure_complete` of a driver.  It passes no request to the routine that the hub
    has registered; what the root port has registered is called without a device. -/
def driverConfigureComplete (urb : Fin maxUsbRequests) (device : DeviceAt) (answers : Answers) (bus : Bus) :
    Option Bus :=
  let bus := bus.freeUrb (some urb)
  match answers.driver with
  | .message setup =>
    some (bus.send device setup (if setup.length = 0 then none else some device.data)
      (.driverConfigureComplete device) id id)
  | .complete =>
    match device with
    | .port hub _ => enumeratePortsComplete answers hub none bus
    | _ => none
  | .stop => some bus

/-! ## Runs -/

/-- A request in flight is completed. -/
structure RequestCompletion where
  urb : Fin maxUsbRequests
  answers : Answers

/-- The request is no longer in flight. -/
def Bus.land (urb : Fin maxUsbRequests) (bus : Bus) : Bus :=
  { bus with flight := Function.update bus.flight urb false, log := bus.log ++ [.completed urb] }

/-- The completion routine of a request is called. -/
def completionRoutine (urb : Fin maxUsbRequests) (answers : Answers) (bus : Bus) : Callback → Option Bus
  | .deviceInitialize device => some (deviceInitialize (some urb) device answers bus)
  | .initializeComplete device => initializeComplete urb device answers bus
  | .hubConfigureComplete hub => some (hubConfigureComplete urb hub answers bus)
  | .enumeratePortsComplete hub => enumeratePortsComplete answers hub (some urb) bus
  | .driverConfigureComplete device => driverConfigureComplete urb device answers bus

/-- `RequestCallCompletionRoutine` of a request in flight. -/
def busStep (bus : Bus) (event : RequestCompletion) : Option Bus :=
  if bus.flight event.urb then
    (bus.callbacks event.urb).bind (completionRoutine event.urb event.answers (bus.land event.urb))
  else none

end ComputerSystems.Usb
