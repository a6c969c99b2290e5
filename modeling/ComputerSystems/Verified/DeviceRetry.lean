import ComputerSystems.Data.Run
import ComputerSystems.Usb.DeviceInitialize

/-! # Initialising a device again

`DeviceInitialize` returns in one of its states with what the states before it have set
up.  Every exit undoes only some of it by hand.  A device is as it was attached again
after the exits of the first state, and after those of the second as long as the packet
size has not been changed; from the third on the device descriptor stays assigned.
-/

namespace ComputerSystems.Verified

open ComputerSystems.Data ComputerSystems.Usb

variable {fuel : Nat} {attached device : ControlDevice} {call : InitializeCall}

/-! ## Runs -/

/-- A device that is being initialised, and whether the next function to be called for it is
    `initialize_complete`. -/
structure Enumeration where
  device : ControlDevice
  last : Bool := false

/-- How a call ends. -/
inductive CallEnds where
  | pending (next : Enumeration)
  | gaveUp (device : ControlDevice)
  /-- The device is handed on to its driver. -/
  | initialized

/-- A request that is under way is completed by one of the two functions. -/
def Initialized.ends : Initialized → CallEnds
  | .requested (.getConfiguration _) device => .pending ⟨device, true⟩
  | .requested _ device => .pending ⟨device, false⟩
  | .gaveUp _ device => .gaveUp device

/-- The next completion of a request; nothing if it does not return. -/
def callEnds (fuel : Nat) (enumeration : Enumeration) (call : InitializeCall) : Option CallEnds :=
  if enumeration.last then
    (enumeration.device.initializeComplete fuel call.configDesc).map fun (valid, device) =>
      if valid then .initialized else .gaveUp device
  else some (Initialized.ends (enumeration.device.deviceInitialize call))

/-- After giving up, `DeviceInitialize` is called again. -/
def initializeStep (fuel : Nat) (enumeration : Enumeration) (call : InitializeCall) : Option Enumeration :=
  match callEnds fuel enumeration call with
  | some (.pending next) => some next
  | some (.gaveUp device) => some { device }
  | some .initialized => none
  | none => none

/-- A device that can be initialised as if it had just been attached: it is the same. -/
structure Restored (attached device : ControlDevice) : Prop where
  deviceDesc : device.deviceDesc = false
  configDesc : device.configDesc = false
  configParser : device.configParser = false
  maxPacketSize : device.maxPacketSize = defaultMaxPacketSize
  fresh : device = attached

/-- What is asked of a call that gives up. -/
def RestoredAfter (fuel : Nat) (attached : ControlDevice) (enumeration : Enumeration) (call : InitializeCall) :
    Prop :=
  ∀ device, callEnds fuel enumeration call = some (.gaveUp device) → Restored attached device

/-- A call gives up at most where the device descriptor is still being read, and there not
    with the packet size of the descriptor. -/
def Undoes (fuel : Nat) (enumeration : Enumeration) (call : InitializeCall) : Prop :=
  if enumeration.last then
    ∀ parser outcome, parserAttach fuel call.configDesc (totalLength call.configDesc) = some (parser, outcome) →
      parser.valid = true
  else
    match enumeration.device.state with
    | .getDescriptorLength => True
    | .getDescriptor =>
      validDeviceDescriptor call.deviceDesc = true → call.accepted = false →
        descriptorMaxPacketSize call.deviceDesc = defaultMaxPacketSize
    | .setEndpointAddress => call.nextAddress ≤ maxAddress ∧ call.accepted = true
    | .getConfigurationLength => call.accepted = true
    | .getConfiguration => validConfigurationLength call.configDesc = true ∧ call.accepted = true

/-! ## The states -/

/-- What each state has set up, as long as every call that gave up has undone it. -/
inductive Progress (attached : ControlDevice) : Enumeration → Prop where
  | attached : Progress attached { device := attached }
  | getDescriptor : Progress attached
      { device := { attached with deviceDesc := true, state := .getDescriptor } }
  | setEndpointAddress (maxPacketSize : BitVec 32) : Progress attached
      { device := { attached with deviceDesc := true, maxPacketSize, state := .setEndpointAddress } }
  | getConfigurationLength (maxPacketSize : BitVec 32) : Progress attached
      { device := { attached with deviceDesc := true, maxPacketSize, state := .getConfigurationLength } }
  | getConfiguration (maxPacketSize : BitVec 32) (address : Nat) : Progress attached
      { device := { attached with
          deviceDesc := true, maxPacketSize, address, configDesc := true, state := .getConfiguration } }
  | last (maxPacketSize : BitVec 32) (address : Nat) : Progress attached
      { device := { attached with deviceDesc := true, maxPacketSize, address, configDesc := true }
        last := true }

/-- A device as `DeviceAttach` leaves it. -/
structure AsAttached (attached : ControlDevice) : Prop where
  deviceDesc : attached.deviceDesc = false
  configDesc : attached.configDesc = false
  configParser : attached.configParser = false
  maxPacketSize : attached.maxPacketSize = defaultMaxPacketSize
  state : attached.state = .getDescriptorLength

/-- What giving up the device descriptor leaves. -/
theorem AsAttached.undone (fresh : AsAttached attached) :
    { attached with deviceDesc := false, state := DeviceState.getDescriptorLength } = attached := by
  rw [← fresh.deviceDesc, ← fresh.state]

theorem AsAttached.restored (fresh : AsAttached attached) : Restored attached attached :=
  ⟨fresh.deviceDesc, fresh.configDesc, fresh.configParser, fresh.maxPacketSize, rfl⟩

/-- Where the device descriptor is assigned nothing is restored. -/
theorem not_restored (assigned : device.deviceDesc = true) : ¬ Restored attached device := by
  intro restored
  rw [restored.deviceDesc] at assigned
  cases assigned

/-- What one call does: if it gives up, the device is restored exactly where the call undoes what
    has been set up; otherwise the next state has been reached. -/
def CallDoes (attached : ControlDevice) (undoes : Prop) : Option CallEnds → Prop
  | some (.pending next) => Progress attached next ∧ undoes
  | some (.gaveUp device) => Restored attached device ↔ undoes
  | some .initialized => undoes
  | none => undoes

def EnumerationCompletes (fuel : Nat) (attached : ControlDevice) (enumeration : Enumeration)
    (call : InitializeCall) : Prop :=
  CallDoes attached (Undoes fuel enumeration call) (callEnds fuel enumeration call)

/-- The request of a state is accepted, or the state gives up. -/
theorem submit_does {accepted : Bool} {request : InitializeRequest} {message : String}
    {sent failed : ControlDevice} {undoes : Prop} (whole : ∀ size, request ≠ .getConfiguration size)
    (progress : Progress attached { device := sent }) (keeps : accepted = true → undoes)
    (fails : accepted = false → (Restored attached failed ↔ undoes)) :
    CallDoes attached undoes (some (Initialized.ends (submitInitialize accepted request message sent failed))) := by
  cases accepted with
  | true =>
    cases request with
    | getDescriptor type size => exact ⟨progress, keeps rfl⟩
    | setAddress address => exact ⟨progress, keeps rfl⟩
    | getConfiguration size => exact absurd rfl (whole size)
  | false => exact fails rfl

/-- An exit that leaves the device descriptor assigned. -/
theorem leaves_assigned {undoes : Prop} (assigned : device.deviceDesc = true) (refused : ¬ undoes) :
    Restored attached device ↔ undoes :=
  ⟨fun restored => absurd restored (not_restored assigned), fun holds => absurd holds refused⟩

/-- The first bytes of the device descriptor are asked for. -/
theorem attached_does (fresh : AsAttached attached) (call : InitializeCall) :
    EnumerationCompletes fuel attached { device := attached } call := by
  simp only [EnumerationCompletes, callEnds, ControlDevice.deviceInitialize, fresh.state, Bool.false_eq_true, if_false]
  apply submit_does
  · intro size other
    cases other
  · exact .getDescriptor
  · intro _
    simp [Undoes, fresh.state]
  · intro _
    -- the descriptor pointer is cleared again
    rw [fresh.undone]
    simp [Undoes, fresh.state, fresh.restored]

/-- The device descriptor is checked, and the address 0 is given up. -/
theorem getDescriptor_does (fresh : AsAttached attached) (call : InitializeCall) :
    EnumerationCompletes fuel attached
      { device := { attached with deviceDesc := true, state := .getDescriptor } } call := by
  simp only [EnumerationCompletes, callEnds, ControlDevice.deviceInitialize, Bool.false_eq_true, if_false]
  cases valid : validDeviceDescriptor call.deviceDesc with
  | false =>
    simp only [Bool.not_false, if_true, Initialized.ends, CallDoes]
    rw [fresh.undone]
    simp [Undoes, valid, fresh.restored]
  | true =>
    simp only [Bool.not_true, Bool.false_eq_true, if_false]
    apply submit_does
    · intro size other
      cases other
    · exact .setEndpointAddress _
    · intro accepted
      simp [Undoes, accepted]
    · intro refused
      simp only [Undoes, valid, refused, Bool.false_eq_true, if_false, forall_const]
      constructor
      · intro restored
        exact restored.maxPacketSize
      · intro size
        have same : { attached with
            deviceDesc := false
            maxPacketSize := descriptorMaxPacketSize call.deviceDesc
            state := DeviceState.getDescriptorLength } = attached := by
          rw [size, ← fresh.maxPacketSize, ← fresh.deviceDesc, ← fresh.state]
        rw [same]
        exact fresh.restored

/-- The next address is given to the device, if there is one. -/
theorem setEndpointAddress_does {maxPacketSize : BitVec 32} (call : InitializeCall) :
    EnumerationCompletes fuel attached
      { device := { attached with deviceDesc := true, maxPacketSize, state := .setEndpointAddress } } call := by
  simp only [EnumerationCompletes, callEnds, ControlDevice.deviceInitialize, Bool.false_eq_true, if_false]
  split
  · rename_i exhausted
    apply leaves_assigned rfl
    intro undoes
    simp only [Undoes, Bool.false_eq_true, if_false] at undoes
    omega
  · rename_i enough
    apply submit_does
    · intro size other
      cases other
    · exact .getConfigurationLength _
    · intro accepted
      simp [Undoes, accepted, Nat.not_lt.mp enough]
    · intro refused
      apply leaves_assigned rfl
      simp [Undoes, refused]

/-- The first bytes of the configuration descriptor are asked for. -/
theorem getConfigurationLength_does {maxPacketSize : BitVec 32} (call : InitializeCall) :
    EnumerationCompletes fuel attached
      { device := { attached with deviceDesc := true, maxPacketSize, state := .getConfigurationLength } } call := by
  simp only [EnumerationCompletes, callEnds, ControlDevice.deviceInitialize, Bool.false_eq_true, if_false]
  apply submit_does
  · intro size other
    cases other
  · exact .getConfiguration _ _
  · intro accepted
    simp [Undoes, accepted]
  · intro refused
    apply leaves_assigned rfl
    simp [Undoes, refused]

/-- The length of the configuration descriptor is checked, and the whole is asked for. -/
theorem getConfiguration_does {maxPacketSize : BitVec 32} {address : Nat} (fresh : AsAttached attached)
    (call : InitializeCall) :
    EnumerationCompletes fuel attached
      { device := { attached with
          deviceDesc := true, maxPacketSize, address, configDesc := true, state := .getConfiguration } } call := by
  simp only [EnumerationCompletes, callEnds, ControlDevice.deviceInitialize, Bool.false_eq_true, if_false]
  cases valid : validConfigurationLength call.configDesc with
  | false =>
    simp only [Bool.not_false, if_true, Initialized.ends, CallDoes]
    apply leaves_assigned rfl
    simp [Undoes, valid]
  | true =>
    simp only [Bool.not_true, Bool.false_eq_true, if_false, submitInitialize]
    cases accepted : call.accepted with
    | true =>
      refine ⟨?_, by simp [Undoes, valid, accepted]⟩
      rw [← fresh.state]
      exact .last _ _
    | false =>
      apply leaves_assigned rfl
      simp [Undoes, accepted]

/-- The configuration descriptor is parsed. -/
theorem last_does {maxPacketSize : BitVec 32} {address : Nat} (call : InitializeCall) :
    EnumerationCompletes fuel attached
      { device := { attached with deviceDesc := true, maxPacketSize, address, configDesc := true }, last := true }
      call := by
  simp only [EnumerationCompletes, callEnds, ControlDevice.initializeComplete, if_true]
  cases parsed : parserAttach fuel call.configDesc (totalLength call.configDesc) with
  | none => simp [CallDoes, Undoes, parsed]
  | some result =>
    obtain ⟨parser, outcome⟩ := result
    cases valid : parser.valid with
    | true => simp [CallDoes, Undoes, parsed, valid]
    | false =>
      simp only [Option.map_some, valid, Bool.false_eq_true, if_false, CallDoes]
      apply leaves_assigned rfl
      simp [Undoes, parsed, valid]

theorem deviceAttach_attached (speed : Speed) (hubAddress hubPortNumber : Nat) (complete : Option DeviceComplete) :
  AsAttached (.deviceAttach speed hubAddress hubPortNumber complete) := ⟨rfl, rfl, rfl, rfl, rfl⟩

/-- One call, in every state. -/
theorem Progress.completes {enumeration : Enumeration} (progress : Progress attached enumeration)
    (fresh : AsAttached attached) (call : InitializeCall) :
    CallDoes attached (Undoes fuel enumeration call) (callEnds fuel enumeration call) := by
  cases progress with
  | attached => exact attached_does fresh call
  | getDescriptor => exact getDescriptor_does fresh call
  | setEndpointAddress maxPacketSize => exact setEndpointAddress_does call
  | getConfigurationLength maxPacketSize => exact getConfigurationLength_does call
  | getConfiguration maxPacketSize address => exact getConfiguration_does fresh call
  | last maxPacketSize address => exact last_does call

/-- Along every run of an attached device, every call that gives up leaves it restored if and only
    if every call undoes what has been set up. -/
theorem device_restored_iff (speed : Speed) (hubAddress hubPortNumber : Nat) (complete : Option DeviceComplete)
    (fuel : Nat) (calls : List InitializeCall) :
    Along (initializeStep fuel) (RestoredAfter fuel (.deviceAttach speed hubAddress hubPortNumber complete)) calls
        { device := .deviceAttach speed hubAddress hubPortNumber complete } ↔
      Along (initializeStep fuel) (Undoes fuel) calls
        { device := .deviceAttach speed hubAddress hubPortNumber complete } := by
  have fresh := deviceAttach_attached speed hubAddress hubPortNumber complete
  generalize ControlDevice.deviceAttach speed hubAddress hubPortNumber complete = attached at fresh ⊢
  have all : Along (initializeStep fuel) (fun _ _ => True) calls { device := attached } :=
    .of_forall_mem fun _ _ => trivial
  apply all.congr (Progress attached) .attached
  intro enumeration call progress _
  have completes := @Progress.completes fuel attached enumeration progress fresh call
  rw [RestoredAfter]
  simp only [initializeStep]
  cases ends : callEnds fuel enumeration call with
  | none =>
    rw [ends] at completes
    exact ⟨⟨fun _ => completes, fun _ _ other => by cases other⟩, fun _ _ steps => by cases steps⟩
  | some result =>
    rw [ends] at completes
    cases result with
    | pending next =>
      refine ⟨⟨fun _ => completes.2, fun _ _ other => by cases other⟩, fun _ _ steps => ?_⟩
      obtain rfl := Option.some.inj steps
      exact completes.1
    | gaveUp device =>
      -- The device that gave up is the one that is asked about.
      have restored : (∀ other, some (CallEnds.gaveUp device) = some (.gaveUp other) → Restored attached other) ↔
          Restored attached device := by
        constructor
        · intro all
          exact all device rfl
        · rintro restored _ ⟨⟩
          exact restored
      rw [restored]
      refine ⟨completes, fun restored next steps => ?_⟩
      obtain rfl := Option.some.inj steps
      rw [restored.fresh]
      exact .attached
    | initialized => exact ⟨⟨fun _ => completes, fun _ _ other => by cases other⟩, fun _ _ steps => by cases steps⟩

/-! ## A full set of addresses -/

/-- A device that has sent its device descriptor, when there is no address left. -/
def fullBus : InitializeCall where
  deviceDesc := fun offset => if offset = 0 then 18 else if offset = 1 then 1 else if offset = 7 then 8 else 0
  configDesc := fun _ => 0
  nextAddress := 128
  accepted := true

/-- It gives up with the device descriptor assigned. -/
theorem device_not_restored :
    ¬ ∀ (speed : Speed) (hubAddress hubPortNumber : Nat) (complete : Option DeviceComplete) (fuel : Nat)
      (calls : List InitializeCall),
      Along (initializeStep fuel) (RestoredAfter fuel (.deviceAttach speed hubAddress hubPortNumber complete)) calls
        { device := .deviceAttach speed hubAddress hubPortNumber complete } := by
  intro restored
  have third := (((restored .full 0 1 none 0 [fullBus, fullBus, fullBus]).2 _ rfl).2 _ rfl).1 _ rfl
  exact absurd third.deviceDesc (by decide)

end ComputerSystems.Verified
