import ComputerSystems.Usb.Hub

/-! # What is attached to the hubs

A `Wiring` says what is attached to the ports of each hub.  With it the whole run of
the bus is known: every request in flight completes, and the devices answer what the
wiring has.  All devices are initialised, and a driver that has accepted its device
sends its messages and then calls the routine that the hub has registered.
-/

namespace ComputerSystems.Usb

open ComputerSystems.Data

/-- What is attached to a port: its status once it has been reset, the device as it is
    found (and as it is found when it has been made specific before), and the length of
    its configuration. -/
structure Attached where
  status : BitVec 16 := 0
  found : Bool → Found := fun _ => {}
  totalLength : BitVec 16 := 32

/-- The ports of each hub by its index in `HubDevice`, of which the first is the hub at the
    root port, and the messages that each driver sends once its device is configured. -/
structure Wiring where
  ports : Nat → Nat
  attached : Nat → Nat → Attached
  messages : DeviceAt → List SetupData
  ports_pos : 0 < ports 0
  ports_le : ports 0 ≤ maxPorts

/-- A port with a device that is connected and enabled. -/
def Attached.enabled (attached : Attached) : Bool :=
  attached.status &&& portConnectionMask ≠ 0 ∧ attached.status &&& portEnableMask ≠ 0

/-- The bus, and the messages that the drivers have yet to send. -/
structure HubRun where
  bus : Bus
  messages : DeviceAt → List SetupData

/-- The hub that a completion routine works for. -/
def Callback.hub : Callback → Nat
  | .deviceInitialize (.port hub _) | .initializeComplete (.port hub _)
  | .driverConfigureComplete (.port hub _) => hub
  | .hubConfigureComplete hub | .enumeratePortsComplete hub => hub
  | _ => 0

def Callback.device : Callback → DeviceAt
  | .deviceInitialize device | .initializeComplete device | .driverConfigureComplete device => device
  | .hubConfigureComplete hub | .enumeratePortsComplete hub => .hub hub

def Wiring.found (wiring : Wiring) : DeviceAt → Bool → Found
  | .port hub port => (wiring.attached hub port).found
  | _ => fun _ => {}

/-- What is read while a completion routine runs. -/
def Wiring.answers (wiring : Wiring) (run : HubRun) (callback : Callback) : Answers where
  totalLength :=
    match callback.device with
    | .port hub port => (wiring.attached hub port).totalLength
    | _ => 32
  numPorts := wiring.ports callback.hub
  portStatus :=
    let hub := run.bus.hubs callback.hub
    (wiring.attached callback.hub ((hub.initState - hub.ports) / 4)).status
  found := wiring.found
  driver :=
    match run.messages callback.device with
    | [] => .complete
    | setup :: _ => .message setup

/-- The messages that are left when a completion routine has run. -/
def HubRun.later (run : HubRun) : Callback → DeviceAt → List SetupData
  | .driverConfigureComplete device => Function.update run.messages device (run.messages device).tail
  | _ => run.messages

/-- The request in flight completes.  The run ends when there is none. -/
def Wiring.pass (wiring : Wiring) (run : HubRun) : Pass HubRun (Option Bus) :=
  match (List.finRange maxUsbRequests).find? run.bus.flight with
  | none => .leave (some run.bus)
  | some urb =>
    match run.bus.callbacks urb with
    | none => .leave none
    | some callback =>
      match busStep run.bus { urb, answers := wiring.answers run callback } with
      | none => .leave none
      | some bus => .again { bus, messages := run.later callback }

/-- The hub at the root port has sent the request for its descriptor. -/
def hubStart : Bus :=
  let bus := { busInit with hubIndex := 1, nextAddress := firstAddress + 1 }
  let bus := bus.setHub 0 { device := { attached := true, address := firstAddress }, initState := 2 }
  bus.send (.hub 0) (getDescriptorMessage 0x29 9 (requestIn ||| requestClass))
    (some (DeviceAt.data (.hub 0))) (.hubConfigureComplete 0) id id

def Wiring.start (wiring : Wiring) : HubRun := { bus := hubStart, messages := wiring.messages }

/-! ## What the enumeration has done -/

/-- The ports of the first hub whose devices have been initialised. -/
def initialised (log : List BusAction) : List Nat :=
  log.filterMap fun
    | .initialized (.port 0 port) => some port
    | _ => none

/-- The ports of the first hub whose devices have been passed to `DeviceCreate`. -/
def created (log : List BusAction) : List Nat :=
  log.filterMap fun
    | .deviceCreate (.port 0 port) => some port
    | _ => none

def enumerationComplete : BusAction := .enumeration 0 "Hub Enumeration Complete"

/-- The ports of the first hub with a device that is connected and enabled. -/
def Wiring.enabledPorts (wiring : Wiring) : List Nat :=
  (List.range (wiring.ports 0)).filter fun port => (wiring.attached 0 port).enabled

/-- The enumeration has ended, and before that every device that is connected and enabled
    was initialised once and passed to `DeviceCreate` once, the highest port first. -/
def Wiring.Covered (wiring : Wiring) (log : List BusAction) : Prop :=
  ∃ past later, log = past ++ enumerationComplete :: later ∧
    (initialised past).Perm wiring.enabledPorts ∧ created past = wiring.enabledPorts.reverse ∧
    initialised later = [] ∧ created later = []

end ComputerSystems.Usb
