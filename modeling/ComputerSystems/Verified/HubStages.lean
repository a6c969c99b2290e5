import ComputerSystems.Verified.SecondHub
import ComputerSystems.Verified.RequestOwners

/-! # The stages of an enumeration

What a call of `enumerate_ports_complete` comes to is told backwards.  `Calls wiring stage
outcome` says that from every call at a stage the run ends well exactly if `outcome`
holds, and each kind of pass carries that from the next stage to its own: a message about
a port (`Calls.request`), a device that is initialised (`Calls.new_device`), and a device
that is created and configured (`Calls.unsupported`, `Calls.driver`, `Calls.refused_hub`).
-/

namespace ComputerSystems.Verified

open ComputerSystems.Data ComputerSystems.System ComputerSystems.Usb

variable {wiring : Wiring} {bus next : Bus} {run : HubRun} {urb : Fin maxUsbRequests}

/-! ## Runs -/

/-- The run from here ends and has covered every port. -/
def Enumerates (wiring : Wiring) (run : HubRun) : Prop :=
  ∃ bus, Ends wiring.pass run (some bus) ∧ wiring.Covered bus.log

/-- The same of what a completion routine leaves. -/
def EnumeratesAfter (wiring : Wiring) (messages : DeviceAt → List SetupData) (result : Option Bus) : Prop :=
  ∃ bus, result = some bus ∧ Enumerates wiring { bus, messages }

/-- The only request in flight. -/
structure OneFlight (urb : Fin maxUsbRequests) (callback : Callback) (bus : Bus) : Prop where
  flight : ∀ other, bus.flight other = decide (other = urb)
  registered : bus.callbacks urb = some callback

theorem OneFlight.found {callback : Callback} (flying : OneFlight urb callback bus) :
    (List.finRange maxUsbRequests).find? bus.flight = some urb := by
  cases found : (List.finRange maxUsbRequests).find? bus.flight with
  | none =>
    have none := List.find?_eq_none.mp found urb (List.mem_finRange urb)
    simp [flying.flight] at none
  | some other =>
    have flies := List.find?_some found
    rw [flying.flight, decide_eq_true_eq] at flies
    rw [flies]

/-- The request in flight completes. -/
theorem OneFlight.enumerates_iff {callback : Callback} (flying : OneFlight urb callback run.bus) :
    Enumerates wiring run ↔ EnumeratesAfter wiring (run.later callback)
      (completionRoutine urb (wiring.answers run callback) (run.bus.land urb) callback) := by
  have steps : busStep run.bus { urb, answers := wiring.answers run callback } =
      completionRoutine urb (wiring.answers run callback) (run.bus.land urb) callback := by
    simp [busStep, flying.flight, flying.registered]
  cases result : completionRoutine urb (wiring.answers run callback) (run.bus.land urb) callback with
  | none =>
    have passes : wiring.pass run = .leave none := by
      simp only [Wiring.pass, flying.found, flying.registered, steps, result]
    constructor
    · rintro ⟨bus, ends, -⟩
      cases ends with
      | leave leaves => cases passes.symm.trans leaves
      | again goes => cases passes.symm.trans goes
    · rintro ⟨bus, same, -⟩
      cases same
  | some after =>
    have passes : wiring.pass run = .again { bus := after, messages := run.later callback } := by
      simp only [Wiring.pass, flying.found, flying.registered, steps, result]
    constructor
    · rintro ⟨bus, ends, covered⟩
      cases ends with
      | leave leaves => cases passes.symm.trans leaves
      | again goes ends =>
        cases passes.symm.trans goes
        exact ⟨after, rfl, bus, ends, covered⟩
    · rintro ⟨bus, same, last, ends, covered⟩
      obtain rfl := Option.some.inj same
      exact ⟨last, .again passes ends, covered⟩

theorem Landed.enumerates_iff (landed : Landed run.bus) : Enumerates wiring run ↔ wiring.Covered run.bus.log := by
  have none : (List.finRange maxUsbRequests).find? run.bus.flight = none := by
    rw [List.find?_eq_none]
    intro urb _
    simp [landed urb]
  have passes : wiring.pass run = .leave (some run.bus) := by
    simp only [Wiring.pass, none]
  constructor
  · rintro ⟨bus, ends, covered⟩
    cases ends with
    | leave leaves =>
      cases passes.symm.trans leaves
      exact covered
    | again goes => cases passes.symm.trans goes
  · intro covered
    exact ⟨run.bus, .leave passes, covered⟩

theorem covered_completes {log : List BusAction} (covered : wiring.Covered log) :
    enumerationComplete ∈ log := by
  obtain ⟨past, later, rfl, -⟩ := covered
  simp

/-- Once another hub has taken over, the first one does not come to an end. -/
theorem Inner.not_enumerates (inner : Inner run.bus) : ¬ Enumerates wiring run := by
  rintro ⟨bus, ends, covered⟩
  generalize last : some bus = result at ends
  -- By induction on the passes: each one keeps `Inner`, under which the message is never noted.
  induction ends with
  | leave leaves =>
    rw [Wiring.pass] at leaves
    split at leaves
    · cases leaves
      cases last
      exact inner.silent (covered_completes covered)
    · split at leaves
      · cases leaves
        cases last
      · split at leaves
        · cases leaves
          cases last
        · cases leaves
  | again goes _ ih =>
    rw [Wiring.pass] at goes
    split at goes
    · cases goes
    · split at goes
      · cases goes
      · split at goes
        · cases goes
        next steps =>
          cases goes
          exact ih (inner.step steps) last

/-! ## Requests -/

section Requests

variable {slots : List (Fin maxUsbRequests)}

/-- The requests in use are among these. -/
structure Claimed (slots : List (Fin maxUsbRequests)) (bus : Bus) : Prop where
  used : ∀ urb, (bus.requests urb).free = false → urb ∈ slots

theorem Claimed.finds (claimed : Claimed slots bus) (few : slots.length < maxUsbRequests) :
    ∃ urb, findRequest bus.requests = some urb := by
  cases found : findRequest bus.requests with
  | some urb => exact ⟨urb, rfl⟩
  | none =>
    rw [findRequest, List.find?_eq_none] at found
    -- All requests would be in use, and so among the slots.
    have all : List.finRange maxUsbRequests ⊆ slots := by
      intro urb member
      exact claimed.used urb (by simpa using found urb member)
    have count := (List.subperm_of_subset (List.nodup_finRange maxUsbRequests) all).length_le
    rw [List.length_finRange] at count
    omega

theorem Claimed.of_eq (claimed : Claimed slots bus) (requests : next.requests = bus.requests) :
    Claimed slots next := by
  constructor
  intro urb used
  rw [requests] at used
  exact claimed.used urb used

theorem Claimed.mono {held : List (Fin maxUsbRequests)} (claimed : Claimed held bus)
    (kept : ∀ urb ∈ held, urb ∈ slots) : Claimed slots bus :=
  ⟨fun urb used => kept urb (claimed.used urb used)⟩

/-- A request that is freed is not in use. -/
theorem Claimed.frees {held : List (Fin maxUsbRequests)} {free : Option (Fin maxUsbRequests)}
    (claimed : Claimed held bus) (kept : ∀ urb ∈ held, urb ∈ slots ∨ free = some urb) :
    Claimed slots (bus.freeUrb free) := by
  constructor
  intro urb used
  cases free with
  | none => simpa using kept urb (claimed.used urb used)
  | some freed =>
    by_cases same : urb = freed
    · subst same
      simp [Bus.freeUrb, freeRequest, Request.free] at used
    · simp only [Bus.freeUrb, Function.update_of_ne same] at used
      have member := kept urb (claimed.used urb used)
      simpa [Ne.symm same] using member

theorem Claimed.freeUrb (claimed : Claimed slots bus) (free : Option (Fin maxUsbRequests)) :
    Claimed slots (bus.freeUrb free) :=
  claimed.frees fun _ => .inl

theorem Claimed.submit (claimed : Claimed slots bus) (urb : Fin maxUsbRequests) (device : DeviceAt)
    (setup : SetupData) (buffer : Option Address) (callback : Callback) :
    Claimed (urb :: slots) (bus.submit urb device setup buffer callback) := by
  constructor
  intro other used
  by_cases same : other = urb
  · exact same ▸ List.mem_cons_self
  · simp only [Bus.submit, Function.update_of_ne same] at used
    exact List.mem_cons_of_mem _ (claimed.used other used)

theorem Landed.submit (landed : Landed bus) (urb : Fin maxUsbRequests) (device : DeviceAt) (setup : SetupData)
    (buffer : Option Address) (callback : Callback) :
    OneFlight urb callback (bus.submit urb device setup buffer callback) := by
  constructor
  · intro other
    by_cases same : other = urb
    · simp [Bus.submit, same]
    · simp [Bus.submit, same, landed other]
  · simp [Bus.submit]

theorem OneFlight.land {callback : Callback} (flying : OneFlight urb callback bus) : Landed (bus.land urb) := by
  intro other
  by_cases same : other = urb
  · simp [Bus.land, same]
  · simp [Bus.land, flying.flight, same]

theorem OneFlight.of_eq {callback : Callback} (flying : OneFlight urb callback bus) (flight : next.flight = bus.flight)
    (callbacks : next.callbacks = bus.callbacks) : OneFlight urb callback next :=
  ⟨fun other => flight ▸ flying.flight other, callbacks ▸ flying.registered⟩

theorem Landed.of_eq (landed : Landed bus) (flight : next.flight = bus.flight) : Landed next :=
  fun urb => flight ▸ landed urb

theorem freeUrb_callbacks (free : Option (Fin maxUsbRequests)) (bus : Bus) :
    (bus.freeUrb free).callbacks = bus.callbacks := by
  cases free <;> rfl

end Requests

/-! ## Stages of the enumeration -/

/-- What the enumeration of the first hub has come to. -/
structure Stage where
  initState : Nat
  devices : Nat → Option PortDevice
  hubIndex : Nat
  addresses : Nat
  initialised : List Nat
  created : List Nat

def Stage.advance (stage : Stage) : Stage := { stage with initState := stage.initState + 1 }

/-- The first hub is at a stage of its enumeration, and no other hub has devices. -/
structure HubAt (wiring : Wiring) (stage : Stage) (bus : Bus) : Prop where
  attached : (bus.hubs 0).device.attached = true
  ports : (bus.hubs 0).ports = wiring.ports 0
  initState : (bus.hubs 0).initState = stage.initState
  devices : (bus.hubs 0).devices = stage.devices
  hubIndex : bus.hubIndex = stage.hubIndex
  address : bus.nextAddress ≤ stage.addresses
  others : ∀ hub port, hub ≠ 0 → (bus.devices (.port hub port)).complete = none
  initialised : initialised bus.log = stage.initialised
  created : created bus.log = stage.created
  silent : enumerationComplete ∉ bus.log

/-- Actions that are no steps of the enumeration of the first hub. -/
def unseen : BusAction → Bool
  | .initialized (.port 0 _) | .deviceCreate (.port 0 _) => false
  | action => action ≠ enumerationComplete

/-- What the stage of the first hub does not depend on. -/
structure Unseen (bus next : Bus) : Prop where
  hubs : next.hubs = bus.hubs
  hubIndex : next.hubIndex = bus.hubIndex
  address : next.nextAddress = bus.nextAddress
  others : ∀ hub port, hub ≠ 0 → (next.devices (.port hub port)).complete = (bus.devices (.port hub port)).complete
  log : ∃ actions, next.log = bus.log ++ actions ∧ ∀ action ∈ actions, unseen action

section Unseen

variable {mid : Bus} {stage : Stage}

theorem Unseen.refl (bus : Bus) : Unseen bus bus :=
  ⟨rfl, rfl, rfl, fun _ _ _ => rfl, [], by simp, by simp⟩

theorem Unseen.trans (first : Unseen bus mid) (second : Unseen mid next) : Unseen bus next := by
  obtain ⟨before, logged, quietly⟩ := first.log
  obtain ⟨after, logged', quietly'⟩ := second.log
  refine ⟨second.hubs.trans first.hubs, second.hubIndex.trans first.hubIndex,
    second.address.trans first.address, ?_, before ++ after, by rw [logged', logged, List.append_assoc], ?_⟩
  · intro hub port other
    exact (second.others hub port other).trans (first.others hub port other)
  · intro action member
    rcases List.mem_append.mp member with member | member
    · exact quietly action member
    · exact quietly' action member

theorem Unseen.note (bus : Bus) {actions : List BusAction} (quietly : ∀ action ∈ actions, unseen action) :
    Unseen bus (bus.note actions) :=
  ⟨rfl, rfl, rfl, fun _ _ _ => rfl, actions, rfl, quietly⟩

theorem Unseen.single (bus : Bus) {action : BusAction} (silent : unseen action = true) :
    Unseen bus (bus.note [action]) :=
  .note bus (by simpa using silent)

theorem Unseen.freeUrb (bus : Bus) (free : Option (Fin maxUsbRequests)) : Unseen bus (bus.freeUrb free) := by
  cases free with
  | none => exact ⟨rfl, rfl, rfl, fun _ _ _ => rfl, [], by simp [Bus.freeUrb], by simp⟩
  | some urb => exact ⟨rfl, rfl, rfl, fun _ _ _ => rfl, [.freeRequest urb], rfl, by simp [unseen, enumerationComplete]⟩

theorem Unseen.land (bus : Bus) (urb : Fin maxUsbRequests) : Unseen bus (bus.land urb) :=
  ⟨rfl, rfl, rfl, fun _ _ _ => rfl, [.completed urb], rfl, by simp [unseen, enumerationComplete]⟩

theorem Unseen.submit (bus : Bus) (urb : Fin maxUsbRequests) (device : DeviceAt) (setup : SetupData)
    (buffer : Option Address) (callback : Callback) :
    Unseen bus (bus.submit urb device setup buffer callback) :=
  ⟨rfl, rfl, rfl, fun _ _ _ => rfl, [.newRequest urb, .submitted urb setup], rfl,
    by simp [unseen, enumerationComplete]⟩

/-- A device at a port of the first hub is changed. -/
theorem Unseen.setDevice (bus : Bus) (port : Nat) (value : Device) :
    Unseen bus (bus.setDevice (.port 0 port) value) := by
  refine ⟨rfl, rfl, rfl, ?_, [], by simp [Bus.setDevice], by simp⟩
  intro hub number other
  have apart : DeviceAt.port hub number ≠ .port 0 port := by simp [other]
  simp [Bus.setDevice, Function.update_of_ne apart]

theorem Unseen.deviceAttach (bus : Bus) (port : Nat) (speed : Speed) (hubAddress hubPortNumber : Nat) :
    Unseen bus (Usb.deviceAttach (.port 0 port) speed hubAddress hubPortNumber bus) :=
  (Unseen.setDevice bus port _).trans (.note _ (by simp [unseen, enumerationComplete]))

theorem initialised_append (past later : List BusAction) :
    initialised (past ++ later) = initialised past ++ initialised later :=
  List.filterMap_append

theorem created_append (past later : List BusAction) : created (past ++ later) = created past ++ created later :=
  List.filterMap_append

theorem initialised_unseen {actions : List BusAction} (quietly : ∀ action ∈ actions, unseen action) :
    initialised actions = [] := by
  rw [initialised, List.filterMap_eq_nil_iff]
  intro action member
  have silent := quietly action member
  split
  · simp [unseen] at silent
  · rfl

theorem created_unseen {actions : List BusAction} (quietly : ∀ action ∈ actions, unseen action) :
    created actions = [] := by
  rw [created, List.filterMap_eq_nil_iff]
  intro action member
  have silent := quietly action member
  split
  · simp [unseen] at silent
  · rfl

theorem not_mem_unseen {actions : List BusAction} (quietly : ∀ action ∈ actions, unseen action) :
    enumerationComplete ∉ actions := by
  intro member
  have silent := quietly _ member
  simp [unseen, enumerationComplete] at silent

theorem HubAt.unseen (state : HubAt wiring stage bus) (unseen : Unseen bus next) : HubAt wiring stage next := by
  obtain ⟨actions, logged, quietly⟩ := unseen.log
  exact {
    attached := by rw [unseen.hubs]; exact state.attached
    ports := by rw [unseen.hubs]; exact state.ports
    initState := by rw [unseen.hubs]; exact state.initState
    devices := by rw [unseen.hubs]; exact state.devices
    hubIndex := unseen.hubIndex.trans state.hubIndex
    address := by rw [unseen.address]; exact state.address
    others := fun hub port other => (unseen.others hub port other).trans (state.others hub port other)
    initialised := by rw [logged, initialised_append, initialised_unseen quietly, List.append_nil, state.initialised]
    created := by rw [logged, created_append, created_unseen quietly, List.append_nil, state.created]
    silent := by
      rw [logged, List.mem_append, not_or]
      exact ⟨state.silent, not_mem_unseen quietly⟩ }

theorem HubAt.advance (state : HubAt wiring stage bus) : HubAt wiring stage.advance (bus.advance 0) where
  attached := by simpa [Bus.advance, Bus.setInitState, Bus.setHub] using state.attached
  ports := by simpa [Bus.advance, Bus.setInitState, Bus.setHub] using state.ports
  initState := by simp [Bus.advance, Bus.setInitState, Bus.setHub, state.initState, Stage.advance]
  devices := by simpa [Bus.advance, Bus.setInitState, Bus.setHub, Stage.advance] using state.devices
  hubIndex := state.hubIndex
  address := state.address
  others := state.others
  initialised := state.initialised
  created := state.created
  silent := state.silent

theorem HubAt.setPort (state : HubAt wiring stage bus) (port : Nat) (device : Option PortDevice) :
    HubAt wiring { stage with devices := Function.update stage.devices port device } (bus.setPort 0 port device) where
  attached := by simpa [Bus.setPort, Bus.setHub] using state.attached
  ports := by simpa [Bus.setPort, Bus.setHub] using state.ports
  initState := by simpa [Bus.setPort, Bus.setHub] using state.initState
  devices := by simp [Bus.setPort, Bus.setHub, state.devices]
  hubIndex := state.hubIndex
  address := state.address
  others := state.others
  initialised := state.initialised
  created := state.created
  silent := state.silent

end Unseen

/-! ## Calls of the completion routine -/

/-- `enumerate_ports_complete` is called at a stage.  `urb` is the request it is given and
    `free` the one that its caller frees afterwards; beside that one no more than one
    request is in use. -/
structure Called (wiring : Wiring) (stage : Stage) (answers : Answers) (urb free : Option (Fin maxUsbRequests))
    (fuel : Nat) (bus : Bus) : Prop where
  state : HubAt wiring stage bus
  landed : Landed bus
  claimed : ∃ lost, Claimed (lost :: free.toList) bus
  given : urb = none ∨ urb = free
  found : answers.found = wiring.found
  status : stage.initState < 5 * wiring.ports 0 → (stage.initState - wiring.ports 0) % 4 = 3 →
    answers.portStatus = (wiring.attached 0 ((stage.initState - wiring.ports 0) / 4)).status
  fuel : 5 * wiring.ports 0 + 4 < fuel + stage.initState

/-- What comes of a call at a stage. -/
def Calls (wiring : Wiring) (stage : Stage) (outcome : Prop) : Prop :=
  ∀ answers urb free fuel bus messages, Called wiring stage answers urb free fuel bus →
    (EnumeratesAfter wiring messages
      ((iterate (enumeratePass answers 0) fuel (urb, bus)).join.map (·.freeUrb free)) ↔ outcome)

section Calls

variable {stage : Stage} {answers : Answers} {given free : Option (Fin maxUsbRequests)} {fuel : Nat}
  {messages : DeviceAt → List SetupData} {outcome : Prop} {slots : List (Fin maxUsbRequests)}

theorem send_found {device : DeviceAt} {setup : SetupData} {buffer : Option Address} {callback : Callback}
    {sent failed : Bus → Bus} (found : findRequest bus.requests = some urb) :
    bus.send device setup buffer callback sent failed = sent (bus.submit urb device setup buffer callback) := by
  rw [Bus.send, Bus.hostEndpointControlMessage, found]

/-- A message of the enumeration. -/
theorem HubAt.enumerateSend (state : HubAt wiring stage bus) (landed : Landed bus) (claimed : Claimed slots bus)
    (few : slots.length < maxUsbRequests) (setup : SetupData) (buffer : Option Address) (failure : BusAction) :
    ∃ urb, HubAt wiring stage.advance (Usb.enumerateSend 0 setup buffer failure bus) ∧
      OneFlight urb (.enumeratePortsComplete 0) (Usb.enumerateSend 0 setup buffer failure bus) ∧
      Claimed (urb :: slots) (Usb.enumerateSend 0 setup buffer failure bus) := by
  obtain ⟨urb, found⟩ := claimed.finds few
  refine ⟨urb, ?_⟩
  rw [Usb.enumerateSend, send_found found]
  have flying := landed.submit urb (.hub 0) setup buffer (.enumeratePortsComplete 0)
  have claims := claimed.submit urb (.hub 0) setup buffer (.enumeratePortsComplete 0)
  exact ⟨(state.unseen (.submit ..)).advance, flying.of_eq rfl rfl, claims.of_eq rfl⟩

theorem Called.few {lost : Fin maxUsbRequests} : (lost :: free.toList).length < maxUsbRequests := by
  cases free with
  | none => exact (by decide : 1 < 10)
  | some freed => exact (by decide : 2 < 10)

/-- The call ends with the pass. -/
theorem Called.leaves (called : Called wiring stage answers given free fuel bus)
    (within : stage.initState ≤ 5 * wiring.ports 0 + 4) {result : Option Bus}
    (leaves : enumeratePass answers 0 (given, bus) = .leave result) :
    (iterate (enumeratePass answers 0) fuel (given, bus)).join = result := by
  have enough := called.fuel
  obtain ⟨less, rfl⟩ : ∃ less, fuel = less + 1 := ⟨fuel - 1, by omega⟩
  rw [iterate, leaves]
  rfl

/-- The call goes on with the next stage. -/
theorem Called.goes_on {later : Stage} {kept : Option (Fin maxUsbRequests)}
    (called : Called wiring stage answers given free fuel bus)
    (within : stage.initState ≤ 5 * wiring.ports 0 + 4)
    (goes : enumeratePass answers 0 (given, bus) = .again (kept, next)) (state : HubAt wiring later next)
    (step : later.initState = stage.initState + 1)
    (landed : Landed next) (requests : ∀ slots, Claimed slots bus → Claimed slots next)
    (keeps : kept = none ∨ kept = given)
    (ready : later.initState < 5 * wiring.ports 0 → (later.initState - wiring.ports 0) % 4 ≠ 3)
    (calls : Calls wiring later outcome) :
    EnumeratesAfter wiring messages
      ((iterate (enumeratePass answers 0) fuel (given, bus)).join.map (·.freeUrb free)) ↔ outcome := by
  have enough := called.fuel
  obtain ⟨less, rfl⟩ : ∃ less, fuel = less + 1 := ⟨fuel - 1, by omega⟩
  have once : iterate (enumeratePass answers 0) (less + 1) (given, bus) =
      iterate (enumeratePass answers 0) less (kept, next) := by
    rw [iterate, goes]
  rw [once]
  obtain ⟨lost, claimed⟩ := called.claimed
  apply calls
  exact {
    state
    landed
    claimed := ⟨lost, requests _ claimed⟩
    given := by
      rcases keeps with rfl | rfl
      · exact .inl rfl
      · exact called.given
    found := called.found
    status := fun inside third => absurd third (ready inside)
    fuel := by omega }

/-- A pass frees the request that it is given before it does anything else. -/
theorem enumeratePass_frees (releases : Releases (bus.hubs 0)) :
    enumeratePass answers 0 (given, bus) = enumeratePass answers 0 (none, bus.freeUrb given) := by
  have none (bus : Bus) : bus.freeUrb none = bus := rfl
  simp only [enumeratePass, freeUrb_hubs, none]
  by_cases powering : (bus.hubs 0).initState < (bus.hubs 0).ports
  · simp only [powering, if_true]
  · have later := releases.resolve_left powering
    simp only [powering, later, if_false]

theorem iterate_congr {σ ρ : Type*} {pass : σ → Pass σ ρ} {state other : σ} (same : pass state = pass other)
    (fuel : Nat) : iterate pass fuel state = iterate pass fuel other := by
  cases fuel with
  | zero => rfl
  | succ fuel => rw [iterate, iterate, same]

/-- The completion of a message of the enumeration. -/
theorem HubAt.completes (state : HubAt wiring stage bus) (flying : OneFlight urb (.enumeratePortsComplete 0) bus) :
    Enumerates wiring { bus, messages } ↔ EnumeratesAfter wiring messages
      (iterate (enumeratePass (wiring.answers { bus, messages } (.enumeratePortsComplete 0)) 0)
        (5 * wiring.ports 0 + 5) (some urb, bus.land urb)).join := by
  have landed := state.unseen (.land bus urb)
  rw [flying.enumerates_iff]
  simp only [completionRoutine, enumeratePortsComplete, landed.attached, landed.ports, if_true]
  exact Iff.rfl

/-- The messages of the enumeration, but for the first one about the first port, are freed
    when they complete. -/
theorem HubAt.resumes (state : HubAt wiring stage bus) (flying : OneFlight urb (.enumeratePortsComplete 0) bus)
    {lost : Fin maxUsbRequests} (claimed : Claimed [urb, lost] bus)
    (step : (stage.initState - wiring.ports 0) % 4 ≠ 0) (calls : Calls wiring stage outcome) :
    Enumerates wiring { bus, messages } ↔ outcome := by
  rw [state.completes flying]
  have landed := state.unseen (.land bus urb)
  have releases : Releases ((bus.land urb).hubs 0) := by
    right
    rw [landed.initState, landed.ports]
    exact step
  -- The pass frees the request itself, as if that had been done before the call.
  rw [iterate_congr (enumeratePass_frees releases)]
  have freed := landed.unseen (.freeUrb _ (some urb))
  have once := calls (wiring.answers { bus, messages } (.enumeratePortsComplete 0)) none none
    (5 * wiring.ports 0 + 5) ((bus.land urb).freeUrb (some urb)) messages {
      state := freed
      landed := flying.land.of_eq rfl
      claimed := ⟨lost, Claimed.frees (claimed.of_eq rfl) (by simp [or_comm, eq_comm])⟩
      given := .inl rfl
      found := rfl
      status := by
        intro _ _
        simp only [Wiring.answers, Callback.hub, state.initState, state.ports]
      fuel := by omega }
  simpa [Bus.freeUrb] using once

/-- The bus once the request that a pass was given has been freed, where it is. -/
def settled (given : Option (Fin maxUsbRequests)) (step : Nat) (bus : Bus) : Bus :=
  if step = 0 then bus else bus.freeUrb given

theorem Unseen.settled (bus : Bus) (given : Option (Fin maxUsbRequests)) (step : Nat) :
    Unseen bus (settled given step bus) := by
  rw [Verified.settled]
  split
  · exact .refl bus
  · exact .freeUrb bus given

theorem Landed.settled (landed : Landed bus) (given : Option (Fin maxUsbRequests)) (step : Nat) :
    Landed (settled given step bus) := by
  rw [Verified.settled]
  split
  · exact landed
  · exact landed.of_eq (freeUrb_flight given bus)

theorem Claimed.settled (claimed : Claimed slots bus) (given : Option (Fin maxUsbRequests)) (step : Nat) :
    Claimed slots (settled given step bus) := by
  rw [Verified.settled]
  split
  · exact claimed
  · exact claimed.freeUrb given

/-- The call has sent a request, and its caller frees the one that has completed. -/
theorem Called.sent {later : Stage} {callback : Callback} {lost : Fin maxUsbRequests} {sent : Bus}
    (called : Called wiring stage answers given free fuel bus)
    (within : stage.initState ≤ 5 * wiring.ports 0 + 4)
    (leaves : enumeratePass answers 0 (given, bus) = .leave (some sent)) (state : HubAt wiring later sent)
    (flying : OneFlight urb callback sent) (claims : Claimed (urb :: lost :: free.toList) sent)
    (messages : DeviceAt → List SetupData) :
    ∃ next, HubAt wiring later next ∧ next.devices = sent.devices ∧ OneFlight urb callback next ∧
      Claimed [urb, lost] next ∧
      (EnumeratesAfter wiring messages
        ((iterate (enumeratePass answers 0) fuel (given, bus)).join.map (·.freeUrb free)) ↔
        Enumerates wiring { bus := next, messages }) := by
  refine ⟨sent.freeUrb free, state.unseen (.freeUrb sent free), freeUrb_devices free sent,
    flying.of_eq (freeUrb_flight free sent) (freeUrb_callbacks free sent), ?_, ?_⟩
  · apply claims.frees
    intro other member
    simpa [or_assoc] using member
  · rw [called.leaves within leaves]
    simp only [Option.map_some, EnumeratesAfter, Option.some.injEq, exists_eq_left']

/-- A call that has sent the next message. -/
theorem Called.sends (called : Called wiring stage answers given free fuel bus)
    (within : stage.initState ≤ 5 * wiring.ports 0 + 4) {setup : SetupData} {buffer : Option Address}
    {failure : BusAction} {number : Nat}
    (leaves : enumeratePass answers 0 (given, bus) =
      .leave (some (Usb.enumerateSend 0 setup buffer failure (settled given number bus))))
    (step : (stage.initState + 1 - wiring.ports 0) % 4 ≠ 0) (calls : Calls wiring stage.advance outcome) :
    EnumeratesAfter wiring messages
      ((iterate (enumeratePass answers 0) fuel (given, bus)).join.map (·.freeUrb free)) ↔ outcome := by
  obtain ⟨lost, claimed⟩ := called.claimed
  obtain ⟨urb, state, flying, claims⟩ :=
    (called.state.unseen (.settled bus given number)).enumerateSend (called.landed.settled given number)
      (claimed.settled given number) Called.few setup buffer failure
  obtain ⟨next, state, -, flying, claims, sent⟩ := called.sent within leaves state flying claims messages
  rw [sent]
  exact state.resumes flying claims step calls

/-- A pass behind the first phase. -/
theorem HubAt.pass (state : HubAt wiring stage bus) (behind : wiring.ports 0 ≤ stage.initState) :
    enumeratePass answers 0 (given, bus) =
      let step := (stage.initState - wiring.ports 0) % 4
      let kept := if step = 0 then given else none
      let port := (stage.initState - wiring.ports 0) / 4
      if port < wiring.ports 0 then enumeratePort answers 0 port kept (settled given step bus) step
      else if (wiring.ports 0 + 1) * 4 - 1 ≤ stage.initState then
        let back := stage.initState - (wiring.ports 0 + 1) * 4
        if back < wiring.ports 0 then
          configurePort answers 0 (wiring.ports 0 - 1 - back) kept (settled given step bus)
        else .leave (some (((settled given step bus).setInitState 0 0).note [enumerationComplete]))
      else .leave (some (((settled given step bus).note [.enumeration 0 "Hub Enumeration Failed"]).setInitState 0 0)) := by
  simp only [enumeratePass, state.ports, state.initState, Nat.not_lt.mpr behind, if_false]
  rfl

/-- The messages about a port. -/
theorem Calls.request (calls : Calls wiring stage.advance outcome) (behind : wiring.ports 0 ≤ stage.initState)
    (inside : (stage.initState - wiring.ports 0) / 4 < wiring.ports 0)
    (step : (stage.initState - wiring.ports 0) % 4 ≠ 3) : Calls wiring stage outcome := by
  intro answers given free fuel bus messages called
  have later : (stage.initState + 1 - wiring.ports 0) % 4 ≠ 0 := by omega
  have pass : enumeratePass answers 0 (given, bus) = _ := called.state.pass behind
  simp only [inside, if_true] at pass
  -- The messages differ in what they say, and not in what comes of them.
  match first : (stage.initState - wiring.ports 0) % 4 with
  | 0 | 1 | 2 =>
    rw [first] at pass
    exact called.sends (by omega) pass later calls
  | 3 => exact absurd first step
  | more + 4 => omega

end Calls

/-! ## The initialisation of a device -/

section Initialisation

variable {stage : Stage} {port : Nat} {device : Device} {callback : Callback} {lost : Fin maxUsbRequests}
  {slots : List (Fin maxUsbRequests)} {messages : DeviceAt → List SetupData} {outcome : Prop}

/-- A request of the device at a port is in flight. -/
structure Sent (wiring : Wiring) (stage : Stage) (port : Nat) (device : Device) (callback : Callback)
    (bus : Bus) : Prop where
  state : HubAt wiring stage bus
  device : bus.devices (.port 0 port) = device
  flying : ∃ urb lost, OneFlight urb callback bus ∧ Claimed [urb, lost] bus

theorem HubAt.send_raw (state : HubAt wiring stage bus) (landed : Landed bus) (claimed : Claimed slots bus)
    (few : slots.length < maxUsbRequests) (same : bus.devices (.port 0 port) = device) (setup : SetupData)
    (buffer : Option Address) (callback : Callback) (deviceState : DeviceState) (failed : Bus → Bus) :
    ∃ urb sent, bus.send (.port 0 port) setup buffer callback (·.setState (.port 0 port) deviceState) failed = sent ∧
      HubAt wiring stage sent ∧ sent.devices (.port 0 port) = { device with state := deviceState } ∧
      OneFlight urb callback sent ∧ Claimed (urb :: slots) sent := by
  obtain ⟨urb, found⟩ := claimed.finds few
  refine ⟨urb, _, send_found found, ?_⟩
  have flying := landed.submit urb (.port 0 port) setup buffer callback
  have claims := claimed.submit urb (.port 0 port) setup buffer callback
  refine ⟨(state.unseen (.submit ..)).unseen (.setDevice ..), ?_, flying.of_eq rfl rfl, claims.of_eq rfl⟩
  simp [Bus.setState, Bus.setDevice, Bus.submit, same]

theorem HubAt.send (state : HubAt wiring stage bus) (landed : Landed bus) (claimed : Claimed [lost] bus)
    (same : bus.devices (.port 0 port) = device) (setup : SetupData) (buffer : Option Address)
    (callback : Callback) (deviceState : DeviceState) (failed : Bus → Bus) :
    Sent wiring stage port { device with state := deviceState } callback
      (bus.send (.port 0 port) setup buffer callback (·.setState (.port 0 port) deviceState) failed) := by
  obtain ⟨urb, sent, rfl, state, device, flying, claims⟩ := state.send_raw landed claimed
    (show 1 < 10 by decide) same setup buffer callback deviceState failed
  exact ⟨state, device, urb, lost, flying, claims⟩

/-- A request of a device completes, and its initialisation goes on. -/
theorem Sent.goes_on (sent : Sent wiring stage port device (.deviceInitialize (.port 0 port)) bus)
    (messages : DeviceAt → List SetupData) :
    ∃ urb lost, HubAt wiring stage (((bus.land urb).freeUrb (some urb))) ∧
      Landed ((bus.land urb).freeUrb (some urb)) ∧ Claimed [lost] ((bus.land urb).freeUrb (some urb)) ∧
      ((bus.land urb).freeUrb (some urb)).devices (.port 0 port) = device ∧
      (Enumerates wiring { bus, messages } ↔ Enumerates wiring
        { bus := deviceInitialize (some urb) (.port 0 port)
            (wiring.answers { bus, messages } (.deviceInitialize (.port 0 port))) (bus.land urb)
          messages }) := by
  obtain ⟨urb, lost, flying, claimed⟩ := sent.flying
  refine ⟨urb, lost, (sent.state.unseen (.land bus urb)).unseen (.freeUrb ..), flying.land.of_eq rfl,
    Claimed.frees (claimed.of_eq rfl) (by simp [or_comm, eq_comm]), sent.device, ?_⟩
  rw [flying.enumerates_iff]
  simp [EnumeratesAfter, completionRoutine, HubRun.later]

theorem Sent.getDescriptor (sent : Sent wiring stage port device (.deviceInitialize (.port 0 port)) bus)
    (reached : device.state = .getDescriptor) (messages : DeviceAt → List SetupData) :
    ∃ next, Sent wiring stage port { device with state := .setEndpointAddress }
        (.deviceInitialize (.port 0 port)) next ∧
      (Enumerates wiring { bus, messages } ↔ Enumerates wiring { bus := next, messages }) := by
  obtain ⟨urb, lost, state, landed, claimed, same, enumerates⟩ := sent.goes_on messages
  rw [deviceInitialize, same, reached] at enumerates
  exact ⟨_, state.send landed claimed same .., enumerates⟩

theorem Sent.setEndpointAddress (sent : Sent wiring stage port device (.deviceInitialize (.port 0 port)) bus)
    (reached : device.state = .setEndpointAddress) (low : stage.addresses ≤ maxAddress)
    (messages : DeviceAt → List SetupData) :
    ∃ next, Sent wiring stage port { device with state := .getConfigurationLength }
        (.deviceInitialize (.port 0 port)) next ∧
      (Enumerates wiring { bus, messages } ↔ Enumerates wiring { bus := next, messages }) := by
  obtain ⟨urb, lost, state, landed, claimed, same, enumerates⟩ := sent.goes_on messages
  have address := Nat.not_lt.mpr (Nat.le_trans state.address low)
  rw [deviceInitialize, same, reached] at enumerates
  simp only [address, if_false] at enumerates
  exact ⟨_, state.send landed claimed same .., enumerates⟩

theorem Sent.getConfigurationLength (sent : Sent wiring stage port device (.deviceInitialize (.port 0 port)) bus)
    (reached : device.state = .getConfigurationLength) (messages : DeviceAt → List SetupData) :
    ∃ next address, Sent wiring { stage with addresses := stage.addresses + 1 } port
        { device with address, configDesc := true, state := .getConfiguration }
        (.deviceInitialize (.port 0 port)) next ∧
      (Enumerates wiring { bus, messages } ↔ Enumerates wiring { bus := next, messages }) := by
  obtain ⟨urb, lost, state, landed, claimed, same, enumerates⟩ := sent.goes_on messages
  rw [deviceInitialize, same, reached] at enumerates
  dsimp only at enumerates
  generalize freed : (bus.land urb).freeUrb (some urb) = before at state landed claimed same enumerates
  have known := state.unseen
    (.setDevice before port { device with address := before.nextAddress, configDesc := true })
  have counted : HubAt wiring { stage with addresses := stage.addresses + 1 }
      { before.setDevice (.port 0 port) { device with address := before.nextAddress, configDesc := true } with
        nextAddress := before.nextAddress + 1 } :=
    { known with address := Nat.succ_le_succ state.address }
  have written : (before.setDevice (.port 0 port)
      { device with address := before.nextAddress, configDesc := true }).devices (.port 0 port) =
      { device with address := before.nextAddress, configDesc := true } := by
    simp [Bus.setDevice]
  exact ⟨_, before.nextAddress, counted.send (landed.of_eq rfl) (claimed.of_eq rfl) written .., enumerates⟩

theorem Sent.getConfiguration (sent : Sent wiring stage port device (.deviceInitialize (.port 0 port)) bus)
    (reached : device.state = .getConfiguration) (messages : DeviceAt → List SetupData) :
    ∃ next, Sent wiring stage port { device with state := .getDescriptorLength }
        (.initializeComplete (.port 0 port)) next ∧
      (Enumerates wiring { bus, messages } ↔ Enumerates wiring { bus := next, messages }) := by
  obtain ⟨urb, lost, state, landed, claimed, same, enumerates⟩ := sent.goes_on messages
  rw [deviceInitialize, same, reached] at enumerates
  exact ⟨_, state.send landed claimed same .., enumerates⟩

/-- The initialisation has ended, and the hub goes on. -/
theorem Sent.initializeComplete (sent : Sent wiring stage port device (.initializeComplete (.port 0 port)) bus)
    (described : device.configDesc = true) (registered : device.complete = some (.enumeratePortsComplete 0))
    (step : (stage.initState - wiring.ports 0) % 4 ≠ 3)
    (calls : Calls wiring { stage with initialised := stage.initialised ++ [port] } outcome) :
    Enumerates wiring { bus, messages } ↔ outcome := by
  obtain ⟨urb, lost, flying, claimed⟩ := sent.flying
  have same : (bus.land urb).devices (.port 0 port) = device := sent.device
  have landed := sent.state.unseen (.land bus urb)
  rw [flying.enumerates_iff]
  simp only [completionRoutine, Usb.initializeComplete, same, described, if_true]
  generalize parsed : Bus.note [.initialized (.port 0 port)] _ = ready
  have known := landed.unseen
    (.setDevice (bus.land urb) port { device with configDesc := true, configParser := true })
  have logged : HubAt wiring { stage with initialised := stage.initialised ++ [port] } ready := by
    rw [← parsed]
    exact { known with
      initialised := by
        rw [Bus.note, initialised_append, known.initialised]
        rfl
      created := by
        rw [Bus.note, created_append, known.created]
        exact List.append_nil _
      silent := by
        simpa [Bus.note, enumerationComplete] using known.silent }
  have complete : (ready.devices (.port 0 port)).complete = some (.enumeratePortsComplete 0) := by
    simp [← parsed, Bus.note, Bus.setDevice, registered]
  simp only [complete, enumeratePortsComplete, logged.attached, logged.ports, if_true]
  apply calls
  exact {
    state := logged
    landed := flying.land.of_eq (by rw [← parsed]; rfl)
    claimed := ⟨lost, Claimed.mono (claimed.of_eq (by rw [← parsed]; rfl)) (by simp [or_comm])⟩
    given := .inr rfl
    found := rfl
    status := fun _ third => absurd third step
    fuel := by simp only; omega }

/-- A device is initialised, and the hub goes on. -/
theorem Sent.initializes (sent : Sent wiring stage port device (.deviceInitialize (.port 0 port)) bus)
    (reached : device.state = .getDescriptor) (registered : device.complete = some (.enumeratePortsComplete 0))
    (low : stage.addresses ≤ maxAddress) (step : (stage.initState - wiring.ports 0) % 4 ≠ 3)
    (calls : Calls wiring { stage with addresses := stage.addresses + 1,
                                       initialised := stage.initialised ++ [port] } outcome) :
    Enumerates wiring { bus, messages } ↔ outcome := by
  obtain ⟨_, sent, first⟩ := sent.getDescriptor reached messages
  obtain ⟨_, sent, second⟩ := sent.setEndpointAddress rfl low messages
  obtain ⟨_, _, sent, third⟩ := sent.getConfigurationLength rfl messages
  obtain ⟨_, sent, fourth⟩ := sent.getConfiguration rfl messages
  rw [first, second, third, fourth]
  exact sent.initializeComplete rfl registered step calls

variable {answers : Answers} {given free : Option (Fin maxUsbRequests)} {fuel : Nat}

theorem enabled_iff (attached : Attached) : attached.enabled = true ↔
    ¬ attached.status &&& portConnectionMask = 0 ∧ ¬ attached.status &&& portEnableMask = 0 := by
  simp [Attached.enabled]

/-- The pass in which a device is found or not. -/
theorem Called.device_pass (called : Called wiring stage answers given free fuel bus)
    (behind : wiring.ports 0 ≤ stage.initState)
    (inside : (stage.initState - wiring.ports 0) / 4 < wiring.ports 0)
    (third : (stage.initState - wiring.ports 0) % 4 = 3) :
    enumeratePass answers 0 (given, bus) =
      enumerateDevice answers 0 ((stage.initState - wiring.ports 0) / 4) none (settled given 3 bus) := by
  have pass : enumeratePass answers 0 (given, bus) = _ := called.state.pass behind
  simp only [inside, if_true, third] at pass
  exact pass

/-- No device is attached where none is enabled. -/
theorem Calls.no_device (calls : Calls wiring stage.advance outcome) (behind : wiring.ports 0 ≤ stage.initState)
    (inside : (stage.initState - wiring.ports 0) / 4 < wiring.ports 0)
    (third : (stage.initState - wiring.ports 0) % 4 = 3)
    (disabled : (wiring.attached 0 ((stage.initState - wiring.ports 0) / 4)).enabled = false) :
    Calls wiring stage outcome := by
  intro answers given free fuel bus messages called
  have pass := called.device_pass behind inside third
  have status := called.status (by omega) third
  have goes : ∃ text arguments, enumeratePass answers 0 (given, bus) =
      .again (none, ((settled given 3 bus).note [.printf text arguments]).advance 0) := by
    rw [pass, enumerateDevice, status]
    dsimp only
    split
    · exact ⟨_, _, rfl⟩
    · split
      · exact ⟨_, _, rfl⟩
      next connected enabled =>
        rw [(enabled_iff _).mpr ⟨connected, enabled⟩] at disabled
        cases disabled
  obtain ⟨text, arguments, goes⟩ := goes
  have settledState := called.state.unseen (.settled bus given 3)
  have noted := settledState.unseen (.note _ (by simp [unseen, enumerationComplete] : ∀ action ∈ [.printf text arguments], unseen action))
  refine called.goes_on (by omega) goes noted.advance rfl ((called.landed.settled given 3).of_eq rfl) ?_ (.inl rfl) ?_ calls
  · exact fun slots claimed => Claimed.of_eq (claimed.settled given 3) rfl
  · intro _
    simp only [Stage.advance]
    omega

/-- The first request of the initialisation. -/
theorem HubAt.initialize (state : HubAt wiring stage bus) (landed : Landed bus) (claimed : Claimed slots bus)
    (few : slots.length < maxUsbRequests) (same : bus.devices (.port 0 port) = device)
    (fresh : device.state = .getDescriptorLength) (answers : Answers) :
    ∃ urb sent, deviceInitialize none (.port 0 port) answers bus = sent ∧ HubAt wiring stage sent ∧
      sent.devices (.port 0 port) = { device with deviceDesc := true, state := .getDescriptor } ∧
      OneFlight urb (.deviceInitialize (.port 0 port)) sent ∧ Claimed (urb :: slots) sent := by
  have known := state.unseen (.setDevice bus port { device with deviceDesc := true })
  have written : (bus.setDevice (.port 0 port) { device with deviceDesc := true }).devices (.port 0 port) =
      { device with deviceDesc := true } := by
    simp [Bus.setDevice]
  have sends := known.send_raw (landed.of_eq rfl) (claimed.of_eq rfl) few written
    (getDescriptorMessage 1 8 requestIn) (some (DeviceAt.data (.port 0 port))) (.deviceInitialize (.port 0 port))
    .getDescriptor fun bus => (bus.note [.puts "Cannot get device descriptor (short)"]).dropDeviceDesc (.port 0 port)
  have none : bus.freeUrb none = bus := rfl
  rw [deviceInitialize, none, same, fresh]
  exact sends

/-- A device that is enabled is attached and initialised. -/
theorem Calls.new_device {number : Nat}
    (calls : Calls wiring { stage.advance with devices := Function.update stage.devices number (some .generic),
                                               addresses := stage.addresses + 1,
                                               initialised := stage.initialised ++ [number] } outcome)
    (behind : wiring.ports 0 ≤ stage.initState) (inside : number < wiring.ports 0)
    (numbered : number = (stage.initState - wiring.ports 0) / 4)
    (third : (stage.initState - wiring.ports 0) % 4 = 3) (enabled : (wiring.attached 0 number).enabled = true)
    (low : stage.addresses ≤ maxAddress) : Calls wiring stage outcome := by
  intro answers given free fuel bus messages called
  subst numbered
  have within : stage.initState ≤ 5 * wiring.ports 0 + 4 := by omega
  have pass := called.device_pass behind inside third
  have status := called.status (by omega) third
  obtain ⟨connected, ready⟩ := (enabled_iff _).mp enabled
  obtain ⟨lost, claimed⟩ := called.claimed
  rw [enumerateDevice, status] at pass
  simp only [connected, ready, if_false] at pass
  generalize (stage.initState - wiring.ports 0) / 4 = number at *
  have known := (called.state.unseen (.settled bus given 3)).setPort number (some .generic)
  -- The device is attached, and its first message is sent with the hub at the next stage.
  generalize attaches : Bus.setDevice (.port 0 number) _ (deviceAttach (.port 0 number) _ _ _ _) = ready at pass
  have opened : HubAt wiring { stage with devices := Function.update stage.devices number (some .generic) } ready := by
    rw [← attaches]
    refine ((known.unseen (.note _ ?_)).unseen (.deviceAttach ..)).unseen (.setDevice ..)
    simp [unseen, enumerationComplete]
  have landed : Landed ready := (called.landed.settled given 3).of_eq (by rw [← attaches]; rfl)
  have claims : Claimed (lost :: free.toList) ready := (claimed.settled given 3).of_eq (by rw [← attaches]; rfl)
  have fresh : (ready.devices (.port 0 number)).state = .getDescriptorLength ∧
      (ready.devices (.port 0 number)).complete = some (.enumeratePortsComplete 0) := by
    simp [← attaches, Bus.setDevice, deviceAttach, Bus.note]
  obtain ⟨urb, sent, initializes, state, device, flying, claims⟩ :=
    opened.initialize landed claims Called.few rfl fresh.1 answers
  rw [initializes] at pass
  -- Then its initialisation takes its course, until the hub is called again.
  obtain ⟨next, state, devices, flying, claims, enumerates⟩ :=
    called.sent within pass state.advance (flying.of_eq rfl rfl) (claims.of_eq rfl) messages
  have waits : Sent wiring _ number
      { ready.devices (.port 0 number) with deviceDesc := true, state := .getDescriptor }
      (.deviceInitialize (.port 0 number)) next :=
    ⟨state, (congrFun devices _).trans device, urb, lost, flying, claims⟩
  rw [enumerates]
  exact waits.initializes rfl fresh.2 low (by simp only [Stage.advance]; omega) calls

end Initialisation

/-! ## The configuration of a device -/

section Configuration

variable {stage : Stage} {port : Nat} {callback : Callback} {lost : Fin maxUsbRequests}
  {slots : List (Fin maxUsbRequests)} {messages : DeviceAt → List SetupData} {outcome : Prop}
  {answers : Answers} {given free : Option (Fin maxUsbRequests)} {fuel : Nat}

/-- A driver sends its messages and calls the routine of the hub. -/
theorem HubAt.configures (state : HubAt wiring stage bus)
    (flying : OneFlight urb (.driverConfigureComplete (.port 0 port)) bus) (claimed : Claimed [urb, lost] bus)
    (last : 5 * wiring.ports 0 ≤ stage.initState) (within : stage.initState ≤ 5 * wiring.ports 0 + 4)
    (calls : Calls wiring stage outcome) : Enumerates wiring { bus, messages } ↔ outcome := by
  generalize left : messages (.port 0 port) = setups
  induction setups generalizing bus urb messages with
  | nil =>
    rw [flying.enumerates_iff]
    have freed := (state.unseen (.land bus urb)).unseen (.freeUrb _ (some urb))
    simp only [completionRoutine, driverConfigureComplete, Wiring.answers, Callback.device, left,
      enumeratePortsComplete, freed.attached, freed.ports, if_true]
    have once := calls (wiring.answers { bus, messages } (.driverConfigureComplete (.port 0 port))) none none
      (5 * wiring.ports 0 + 5) ((bus.land urb).freeUrb (some urb))
      (HubRun.later { bus, messages } (.driverConfigureComplete (.port 0 port))) {
        state := freed
        landed := flying.land.of_eq rfl
        claimed := ⟨lost, Claimed.frees (claimed.of_eq rfl) (by simp [or_comm, eq_comm])⟩
        given := .inl rfl
        found := rfl
        status := fun inside => absurd inside (Nat.not_lt.mpr last)
        fuel := by omega }
    simpa [Bus.freeUrb, Wiring.answers, Callback.device, left] using once
  | cons setup rest ih =>
    rw [flying.enumerates_iff]
    have freed := (state.unseen (.land bus urb)).unseen (.freeUrb _ (some urb))
    have landed : Landed ((bus.land urb).freeUrb (some urb)) := flying.land.of_eq rfl
    have held : Claimed [lost] ((bus.land urb).freeUrb (some urb)) :=
      Claimed.frees (claimed.of_eq rfl) (by simp [or_comm, eq_comm])
    obtain ⟨new, found⟩ := held.finds (show 1 < 10 by decide)
    simp only [completionRoutine, driverConfigureComplete, Wiring.answers, Callback.device, left, send_found found,
      id, EnumeratesAfter, Option.some.injEq, exists_eq_left']
    refine ih (freed.unseen (.submit ..)) (landed.submit ..) (held.submit ..) ?_
    simp [HubRun.later, left]

/-- Which port is tried at a stage of the last phase. -/
structure Tries (wiring : Wiring) (stage : Stage) (port : Nat) : Prop where
  many : 3 ≤ wiring.ports 0
  last : 5 * wiring.ports 0 ≤ stage.initState
  inside : stage.initState - (wiring.ports 0 + 1) * 4 < wiring.ports 0
  port : port = wiring.ports 0 - 1 - (stage.initState - (wiring.ports 0 + 1) * 4)

theorem Tries.within (tries : Tries wiring stage port) : stage.initState ≤ 5 * wiring.ports 0 + 4 := by
  have inside := tries.inside
  omega

/-- The pass in which a port is tried, with the bus once the request has been freed. -/
theorem Called.tries (called : Called wiring stage answers given free fuel bus) (tries : Tries wiring stage port) :
    ∃ kept ready, (kept = none ∨ kept = given) ∧ HubAt wiring stage ready ∧ Landed ready ∧
      (∀ slots, Claimed slots bus → Claimed slots ready) ∧
      enumeratePass answers 0 (given, bus) = configurePort answers 0 port kept ready := by
  obtain ⟨many, last, inside, rfl⟩ := tries
  have pass : enumeratePass answers 0 (given, bus) = _ := called.state.pass (by omega)
  have past : ¬ (stage.initState - wiring.ports 0) / 4 < wiring.ports 0 := by omega
  have later : (wiring.ports 0 + 1) * 4 - 1 ≤ stage.initState := by omega
  simp only [past, later, inside, if_true, if_false] at pass
  refine ⟨_, _, ?_, called.state.unseen (.settled bus given _), called.landed.settled given _,
    fun _ claimed => claimed.settled given _, pass⟩
  split
  · exact .inr rfl
  · exact .inl rfl

/-- The port that is tried is not used any further in this call. -/
theorem Called.goes_on_trying {later : Stage} {kept : Option (Fin maxUsbRequests)} {ready mid : Bus}
    (called : Called wiring stage answers given free fuel bus) (tries : Tries wiring stage port)
    (goes : enumeratePass answers 0 (given, bus) = .again (kept, mid.advance 0)) (state : HubAt wiring later mid)
    (step : later.initState = stage.initState) (landed : Landed ready)
    (requests : ∀ slots, Claimed slots bus → Claimed slots ready) (flight : mid.flight = ready.flight)
    (sameRequests : mid.requests = ready.requests) (keeps : kept = none ∨ kept = given)
    (calls : Calls wiring later.advance outcome) :
    EnumeratesAfter wiring messages
      ((iterate (enumeratePass answers 0) fuel (given, bus)).join.map (·.freeUrb free)) ↔ outcome := by
  have last := tries.last
  refine called.goes_on tries.within goes state.advance (by rw [Stage.advance, step]) (landed.of_eq flight) ?_ keeps
    ?_ calls
  · exact fun slots claimed => (requests slots claimed).of_eq sameRequests
  · intro inside
    simp only [Stage.advance, step] at inside
    omega

theorem Calls.no_port (calls : Calls wiring stage.advance outcome) (tries : Tries wiring stage port)
    (empty : stage.devices port = none) : Calls wiring stage outcome := by
  intro answers given free fuel bus messages called
  obtain ⟨kept, ready, keeps, state, landed, requests, pass⟩ := called.tries tries
  rw [configurePort, state.devices, empty] at pass
  exact called.goes_on_trying tries pass state rfl landed requests rfl rfl keeps calls

/-- The specific device of a port is being created. -/
theorem HubAt.creates (state : HubAt wiring stage bus) (port : Nat) :
    HubAt wiring { stage with created := stage.created ++ [port] } (bus.note [.deviceCreate (.port 0 port)]) :=
  { state with
    initialised := by
      rw [Bus.note, initialised_append, state.initialised]
      exact List.append_nil _
    created := by
      rw [Bus.note, created_append, state.created]
      rfl
    silent := by
      simpa [Bus.note, enumerationComplete] using state.silent }

/-- The stage once the device of a port has been created. -/
def Stage.tried (stage : Stage) (port : Nat) (device : Option PortDevice) : Stage :=
  { stage with devices := Function.update stage.devices port device, created := stage.created ++ [port] }

theorem HubAt.replaces (state : HubAt wiring { stage with created := stage.created ++ [port] } bus)
    (device : Option PortDevice) :
    HubAt wiring (stage.tried port device) ((deviceRelease (.port 0 port) bus).setPort 0 port device) :=
  (state.unseen (.setDevice ..)).setPort port device

/-- `DeviceCreate` finds no driver. -/
theorem Calls.unsupported {device : PortDevice} (calls : Calls wiring (stage.tried port none).advance outcome)
    (tries : Tries wiring stage port) (present : stage.devices port = some device)
    (unknown : newDevice ((wiring.attached 0 port).found (device == .specific)).identity = none) :
    Calls wiring stage outcome := by
  intro answers given free fuel bus messages called
  obtain ⟨kept, ready, keeps, state, landed, requests, pass⟩ := called.tries tries
  rw [configurePort, state.devices, present] at pass
  simp only [deviceCreate, called.found, Wiring.found, unknown] at pass
  have noted := ((state.creates port).unseen (.note _ (by simp [unseen, enumerationComplete] : ∀ action ∈
      [.puts "Device [class subclass protocol] detected but no driver",
        .puts "Create device: device not known or init failed"], unseen action))).unseen
    (.single _ (by simp [unseen, enumerationComplete] : unseen (.printf "Port %u: Device is not supported\n" [port])))
  exact called.goes_on_trying tries pass (noted.replaces none) rfl landed requests rfl rfl keeps calls

/-- `configure` refuses the device. -/
theorem configure_refuses {child : Child} {found : Found} {text : String} (refuses : found.refuses = some text)
    (device : DeviceAt) (bus : Bus) : configure device child found bus = (false, bus.note [.puts text]) := by
  cases child with
  | hub index => rw [configure, hubConfigure, refuses]
  | driver => rw [configure, driverConfigure, refuses]

/-- `DeviceCreate` finds a driver other than that of hubs. -/
theorem deviceCreate_driver {again : Bool} {driver : DeviceDriver} {device : DeviceAt}
    (known : newDevice (answers.found device again).identity = some driver) (leaf : driver ≠ .hub) :
    deviceCreate device again answers bus =
      some (some .driver, (bus.note [.deviceCreate device]).note [.puts driver.text]) := by
  rw [deviceCreate, known]
  cases driver with
  | hub => exact absurd rfl leaf
  | keyboard | mouse | massStorage | lan => rfl

/-- `DeviceCreate` finds a driver, and goes on whether that accepts its device or not. -/
theorem Calls.driver {device : PortDevice} {driver : DeviceDriver}
    (calls : Calls wiring (stage.tried port (some .specific)).advance outcome) (tries : Tries wiring stage port)
    (present : stage.devices port = some device)
    (known : newDevice ((wiring.attached 0 port).found (device == .specific)).identity = some driver)
    (leaf : driver ≠ .hub) : Calls wiring stage outcome := by
  intro answers given free fuel bus messages called
  obtain ⟨kept, ready, keeps, state, landed, requests, pass⟩ := called.tries tries
  have found : newDevice (answers.found (.port 0 port) (device == .specific)).identity = some driver := by
    rw [called.found]
    exact known
  rw [configurePort, state.devices, present] at pass
  simp only [deviceCreate_driver found leaf] at pass
  have noted := (state.creates port).unseen (.single _ (by simp [unseen, enumerationComplete] : unseen (.puts driver.text)))
  have placed := noted.replaces (some .specific)
  generalize replaced : Bus.setPort 0 port (some .specific) (deviceRelease (.port 0 port)
    (((ready.note [.deviceCreate (.port 0 port)])).note [.puts driver.text])) = settling at pass placed
  have flight : settling.flight = ready.flight := by rw [← replaced]; rfl
  have sameRequests : settling.requests = ready.requests := by rw [← replaced]; rfl
  -- If the driver refuses the device the same call goes on; otherwise it is called when the device has
  -- been configured.
  cases refuses : (answers.found (.port 0 port) (device == .specific)).refuses with
  | some text =>
    simp only [configure_refuses refuses] at pass
    have refused := (placed.unseen (.single _ (by simp [unseen, enumerationComplete] : unseen (.puts text)))).unseen
      (.single _ (by simp [unseen, enumerationComplete] : unseen (.puts "Port: Cannot configure device")))
    exact called.goes_on_trying tries pass refused rfl landed requests flight sameRequests keeps calls
  | none =>
    obtain ⟨lost, claimed⟩ := called.claimed
    have claims := (requests _ claimed).of_eq sameRequests
    obtain ⟨urb, slot⟩ := claims.finds Called.few
    simp only [configure, driverConfigure, refuses, deviceConfigure, Bus.hostEndpointControlMessage, slot] at pass
    have flying := (landed.of_eq flight).submit urb (.port 0 port)
      (setConfigurationMessage (answers.found (.port 0 port) (device == .specific)).configurationValue) none
      (.driverConfigureComplete (.port 0 port))
    obtain ⟨next, state, -, flying, claims, enumerates⟩ := called.sent tries.within pass
      (placed.unseen (.submit ..)).advance (flying.of_eq rfl rfl)
      (Claimed.of_eq (claims.submit _ _ _ _ (.driverConfigureComplete (.port 0 port))) rfl) messages
    rw [enumerates]
    have last := tries.last
    have inside := tries.inside
    refine state.configures flying claims ?_ ?_ calls
    · exact Nat.le_succ_of_le last
    · simp only [Stage.advance, Stage.tried]
      omega

/-- There is no place for a third hub. -/
theorem Calls.third_hub {device : PortDevice} (tries : Tries wiring stage port)
    (present : stage.devices port = some device)
    (known : newDevice ((wiring.attached 0 port).found (device == .specific)).identity = some .hub)
    (full : stage.hubIndex = maxHubs) : Calls wiring stage False := by
  intro answers given free fuel bus messages called
  obtain ⟨kept, ready, keeps, state, landed, requests, pass⟩ := called.tries tries
  rw [configurePort, state.devices, present] at pass
  have index : ready.hubIndex = maxHubs := state.hubIndex.trans full
  simp only [deviceCreate, called.found, Wiring.found, known, hubAttach, Bus.note, index, Nat.lt_irrefl, if_false,
    if_true] at pass
  rw [called.leaves tries.within pass]
  simp [EnumeratesAfter]

/-- A second hub is created. -/
theorem deviceCreate_hub {again : Bool} {device : DeviceAt}
    (known : newDevice (answers.found device again).identity = some .hub) (room : bus.hubIndex < maxHubs) :
    deviceCreate device again answers bus = some (some (.hub bus.hubIndex),
      { ((bus.note [.deviceCreate device]).note [.puts (DeviceDriver.text .hub)]).setHub bus.hubIndex
          { device := bus.devices device } with hubIndex := bus.hubIndex + 1 }) := by
  have few : ¬ maxHubs < bus.hubIndex := by omega
  have other : bus.hubIndex ≠ maxHubs := by omega
  rw [deviceCreate, known]
  simp only [hubAttach, Bus.note, few, other, if_false]

theorem HubAt.attaches (state : HubAt wiring stage bus) (second : 0 < stage.hubIndex) (value : Hub) :
    HubAt wiring { stage with hubIndex := stage.hubIndex + 1 }
      { bus.setHub bus.hubIndex value with hubIndex := bus.hubIndex + 1 } := by
  have other : (0 : Nat) ≠ bus.hubIndex := by
    rw [state.hubIndex]
    omega
  exact { state with
    attached := by simpa [Bus.setHub, Function.update_of_ne other] using state.attached
    ports := by simpa [Bus.setHub, Function.update_of_ne other] using state.ports
    initState := by simpa [Bus.setHub, Function.update_of_ne other] using state.initState
    devices := by simpa [Bus.setHub, Function.update_of_ne other] using state.devices
    hubIndex := congrArg (· + 1) state.hubIndex }

/-- The pass that creates a second hub. -/
theorem Called.second_hub {device : PortDevice} (called : Called wiring stage answers given free fuel bus)
    (tries : Tries wiring stage port) (present : stage.devices port = some device)
    (known : newDevice ((wiring.attached 0 port).found (device == .specific)).identity = some .hub)
    (second : 0 < stage.hubIndex) (room : stage.hubIndex < maxHubs) :
    ∃ kept ready mid, (kept = none ∨ kept = given) ∧ Landed ready ∧
      (∀ slots, Claimed slots bus → Claimed slots ready) ∧
      HubAt wiring { stage.tried port (some .specific) with hubIndex := stage.hubIndex + 1 } mid ∧
      mid.flight = ready.flight ∧ mid.requests = ready.requests ∧
      ∀ accepts configured,
        hubConfigure stage.hubIndex ((wiring.attached 0 port).found (device == .specific)) mid =
          (accepts, configured) →
        enumeratePass answers 0 (given, bus) =
          if accepts then .leave (some (configured.advance 0))
          else .again (kept, (configured.note [.puts "Port: Cannot configure device"]).advance 0) := by
  obtain ⟨kept, ready, keeps, state, landed, requests, pass⟩ := called.tries tries
  have found : newDevice (answers.found (.port 0 port) (device == .specific)).identity = some .hub := by
    rw [called.found]
    exact known
  have room' : ready.hubIndex < maxHubs := by
    rw [state.hubIndex]
    exact room
  rw [configurePort, state.devices, present] at pass
  simp only [deviceCreate_hub found room', configure, called.found, Wiring.found] at pass
  generalize replaced : Bus.setPort 0 port (some .specific) (deviceRelease (.port 0 port) _) = mid at pass
  have noted := (state.creates port).unseen
    (.single _ (by simp [unseen, enumerationComplete] : unseen (.puts (DeviceDriver.text .hub))))
  have placed := @HubAt.replaces wiring _ { stage with hubIndex := stage.hubIndex + 1 } port
    (noted.attaches second { device := ready.devices (.port 0 port) }) (some .specific)
  refine ⟨kept, ready, mid, keeps, landed, requests, ?_, ?_, ?_, ?_⟩
  · rw [← replaced]
    exact placed
  · rw [← replaced]
    rfl
  · rw [← replaced]
    rfl
  · intro accepts configured configures
    rw [← state.hubIndex] at configures
    rw [pass, configures]
    cases accepts <;> rfl

/-- The second hub refuses its device. -/
theorem Calls.refused_hub {device : PortDevice} {text : String}
    (calls : Calls wiring { (stage.tried port (some .specific)).advance with hubIndex := stage.hubIndex + 1 } outcome)
    (tries : Tries wiring stage port) (present : stage.devices port = some device)
    (known : newDevice ((wiring.attached 0 port).found (device == .specific)).identity = some .hub)
    (refuses : ((wiring.attached 0 port).found (device == .specific)).refuses = some text)
    (second : 0 < stage.hubIndex) (room : stage.hubIndex < maxHubs) : Calls wiring stage outcome := by
  intro answers given free fuel bus messages called
  obtain ⟨kept, ready, mid, keeps, landed, requests, state, flight, sameRequests, pass⟩ :=
    called.second_hub tries present known second room
  have goes := pass false (mid.note [.puts text]) (by rw [hubConfigure, refuses])
  have refused := (state.unseen (.single _ (by simp [unseen, enumerationComplete] : unseen (.puts text)))).unseen
      (.single _ (by simp [unseen, enumerationComplete] : unseen (.puts "Port: Cannot configure device")))
  exact called.goes_on_trying tries goes refused rfl landed requests flight sameRequests keeps calls

theorem HubAt.inner (state : HubAt wiring stage bus) (landed : Landed bus) (some : 0 < stage.hubIndex) :
    Inner bus where
  hubIndex := state.hubIndex ▸ some
  silent := state.silent
  complete := by
    intro hub port other routine registered
    rw [state.others hub port other] at registered
    cases registered
  away := by
    intro urb flies
    rw [landed urb] at flies
    cases flies

/-- The second hub accepts its device, and goes on instead of the first. -/
theorem Calls.accepted_hub {device : PortDevice} (tries : Tries wiring stage port)
    (present : stage.devices port = some device)
    (known : newDevice ((wiring.attached 0 port).found (device == .specific)).identity = some .hub)
    (accepts : ((wiring.attached 0 port).found (device == .specific)).refuses = none)
    (second : 0 < stage.hubIndex) (room : stage.hubIndex < maxHubs) : Calls wiring stage False := by
  intro answers given free fuel bus messages called
  obtain ⟨kept, ready, mid, keeps, landed, requests, state, flight, sameRequests, pass⟩ :=
    called.second_hub tries present known second room
  obtain ⟨lost, claimed⟩ := called.claimed
  have claims := (requests _ claimed).of_eq sameRequests
  obtain ⟨urb, slot⟩ := claims.finds Called.few
  have inner := state.inner (landed.of_eq flight) (Nat.succ_pos _)
  have succeeds := configure_succeeds (.port 0 port) (.hub stage.hubIndex)
    ((wiring.attached 0 port).found (device == .specific)) mid
  rw [accepts, slot, configure] at succeeds
  -- The next call is one for the second hub.
  have taken : Inner (hubConfigure stage.hubIndex ((wiring.attached 0 port).found (device == .specific)) mid).2 := by
    rw [hubConfigure, accepts]
    exact (inner.setHub _).deviceConfigure _ _ (Nat.ne_of_gt second)
  have leaves := pass true _ (Prod.ext succeeds rfl)
  rw [called.leaves tries.within leaves]
  simp only [Option.map_some, EnumeratesAfter, Option.some.injEq, exists_eq_left', iff_false]
  exact Inner.not_enumerates ((taken.setHub _).freeUrb free)

end Configuration

end ComputerSystems.Verified
