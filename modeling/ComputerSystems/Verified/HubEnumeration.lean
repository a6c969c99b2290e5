import ComputerSystems.Verified.HubStages

/-! # The enumeration of a hub

A hub is enumerated in three phases, which `init_state` numbers: the power of each port is
turned on, each port is reset and its device initialised, and the specific devices are
created and configured from the highest port down.

With `p` ports the second phase ends at `5 * p`, but the third one takes itself to begin
at `(p + 1) * 4`.  So it begins at the fourth port whatever `p` is, has already ended when
there are one or two ports, and looks at the third of three ports twice
(`hub_enumeration_iff`).
-/

namespace ComputerSystems.Verified

open ComputerSystems.Data ComputerSystems.System ComputerSystems.Usb

variable {wiring : Wiring} {bus : Bus} {urb : Fin maxUsbRequests}

/-! ## The end of the enumeration -/

section Ending

variable {stage : Stage} {outcome : Prop} {messages : DeviceAt → List SetupData}

theorem Calls.congr {other : Prop} (calls : Calls wiring stage outcome) (same : outcome ↔ other) :
    Calls wiring stage other := by
  intro answers given free fuel bus messages called
  rw [← same]
  exact calls answers given free fuel bus messages called

/-- With three ports or more the enumeration ends with its message. -/
theorem Calls.complete (many : 3 ≤ wiring.ports 0) (last : stage.initState = 5 * wiring.ports 0 + 4)
    (all : stage.initialised = wiring.enabledPorts) :
    Calls wiring stage (stage.created = wiring.enabledPorts.reverse) := by
  intro answers given free fuel bus messages called
  have pass : enumeratePass answers 0 (given, bus) = _ := called.state.pass (by omega)
  have past : ¬ (stage.initState - wiring.ports 0) / 4 < wiring.ports 0 := by omega
  have later : (wiring.ports 0 + 1) * 4 - 1 ≤ stage.initState := by omega
  have done : ¬ stage.initState - (wiring.ports 0 + 1) * 4 < wiring.ports 0 := by omega
  simp only [past, later, done, if_true, if_false] at pass
  have state := called.state.unseen (.settled bus given ((stage.initState - wiring.ports 0) % 4))
  have landed := called.landed.settled given ((stage.initState - wiring.ports 0) % 4)
  generalize settled given ((stage.initState - wiring.ports 0) % 4) bus = ready at pass state landed
  rw [called.leaves (by omega) pass]
  simp only [Option.map_some, EnumeratesAfter, Option.some.injEq, exists_eq_left']
  obtain ⟨actions, logged, quietly⟩ :=
    (Unseen.freeUrb ((ready.setInitState 0 0).note [enumerationComplete]) free).log
  have ended : (((ready.setInitState 0 0).note [enumerationComplete]).freeUrb free).log =
      ready.log ++ enumerationComplete :: actions := by
    rw [logged]
    exact List.append_assoc ..
  rw [Landed.enumerates_iff (landed.of_eq (freeUrb_flight free _)), Wiring.Covered]
  simp only [ended]
  -- The message is noted once, so that what is before it is what has been created.
  constructor
  · rintro ⟨before, after, split, -, created, -, none⟩
    have count := congrArg Usb.created split
    rw [created_append, created_append, state.created] at count
    have skips (actions : List BusAction) : Usb.created (enumerationComplete :: actions) = Usb.created actions := rfl
    rw [skips, skips, created_unseen quietly, created, none, List.append_nil, List.append_nil] at count
    exact count
  · intro created
    refine ⟨ready.log, actions, rfl, ?_, ?_, initialised_unseen quietly, created_unseen quietly⟩
    · rw [state.initialised, all]
    · rw [state.created, created]

/-- With one or two ports the last phase is behind its end when it begins. -/
theorem Calls.failed (few : wiring.ports 0 ≤ 2) (last : stage.initState = 5 * wiring.ports 0) :
    Calls wiring stage False := by
  intro answers given free fuel bus messages called
  have some := wiring.ports_pos
  have pass : enumeratePass answers 0 (given, bus) = _ := called.state.pass (by omega)
  have past : ¬ (stage.initState - wiring.ports 0) / 4 < wiring.ports 0 := by omega
  have later : ¬ (wiring.ports 0 + 1) * 4 - 1 ≤ stage.initState := by omega
  simp only [past, later, if_false] at pass
  have state := called.state.unseen (.settled bus given ((stage.initState - wiring.ports 0) % 4))
  have landed := called.landed.settled given ((stage.initState - wiring.ports 0) % 4)
  generalize settled given ((stage.initState - wiring.ports 0) % 4) bus = ready at pass state landed
  rw [called.leaves (by omega) pass]
  simp only [Option.map_some, EnumeratesAfter, Option.some.injEq, exists_eq_left']
  have noted := state.unseen (.single _
    (by simp [unseen, enumerationComplete] : unseen (.enumeration 0 "Hub Enumeration Failed")))
  rw [Landed.enumerates_iff (landed.of_eq (freeUrb_flight free _)), iff_false]
  intro covered
  obtain ⟨actions, logged, quietly⟩ := (Unseen.freeUrb
    ((ready.note [.enumeration 0 "Hub Enumeration Failed"]).setInitState 0 0) free).log
  have member := covered_completes covered
  rw [logged, List.mem_append] at member
  rcases member with member | member
  · exact noted.silent member
  · exact not_mem_unseen quietly member

end Ending

/-! ## The last phase -/

section LastPhase

variable {stage : Stage} {port count : Nat} {outcome : Prop}

/-- The ports below a number with a device that is enabled. -/
def enabledBelow (wiring : Wiring) (count : Nat) : List Nat :=
  (List.range count).filter fun port => (wiring.attached 0 port).enabled

/-- Those of them with a hub. -/
def hubsBelow (wiring : Wiring) (count : Nat) : List Nat :=
  (enabledBelow wiring count).filter fun port =>
    newDevice ((wiring.attached 0 port).found false).identity = some .hub

theorem enabledBelow_succ (wiring : Wiring) (count : Nat) : enabledBelow wiring (count + 1) =
    enabledBelow wiring count ++ if (wiring.attached 0 count).enabled then [count] else [] := by
  rw [enabledBelow, List.range_succ, List.filter_append, enabledBelow]
  by_cases enabled : (wiring.attached 0 count).enabled = true <;> simp [enabled]

theorem hubsBelow_succ (wiring : Wiring) (count : Nat) : hubsBelow wiring (count + 1) =
    hubsBelow wiring count ++ if (wiring.attached 0 count).enabled ∧
      newDevice ((wiring.attached 0 count).found false).identity = some .hub then [count] else [] := by
  rw [hubsBelow, enabledBelow_succ, List.filter_append, hubsBelow]
  by_cases enabled : (wiring.attached 0 count).enabled = true
  · by_cases hub : newDevice ((wiring.attached 0 count).found false).identity = some .hub <;> simp [enabled, hub]
  · simp [enabled]

/-- The ports below a number are all that is left to be created, and the hubs among them
    refuse their devices and find a place. -/
structure Rest (wiring : Wiring) (count : Nat) (created : List Nat) (hubIndex : Nat) : Prop where
  created : created ++ (enabledBelow wiring count).reverse = wiring.enabledPorts.reverse
  refuse : ∀ port ∈ hubsBelow wiring count, ((wiring.attached 0 port).found false).refuses.isSome
  room : hubIndex + (hubsBelow wiring count).length ≤ maxHubs

theorem rest_disabled (disabled : (wiring.attached 0 count).enabled = false) (created : List Nat) (hubIndex : Nat) :
    Rest wiring count created hubIndex ↔ Rest wiring (count + 1) created hubIndex := by
  have same : enabledBelow wiring (count + 1) = enabledBelow wiring count := by
    simp [enabledBelow_succ, disabled]
  have sameHubs : hubsBelow wiring (count + 1) = hubsBelow wiring count := by
    simp [hubsBelow_succ, disabled]
  constructor
  · rintro ⟨created, refuse, room⟩
    exact ⟨same ▸ created, sameHubs ▸ refuse, sameHubs ▸ room⟩
  · rintro ⟨created, refuse, room⟩
    exact ⟨same ▸ created, sameHubs ▸ refuse, sameHubs ▸ room⟩

theorem rest_leaf (enabled : (wiring.attached 0 count).enabled = true)
    (leaf : newDevice ((wiring.attached 0 count).found false).identity ≠ some .hub) (created : List Nat)
    (hubIndex : Nat) :
    Rest wiring count (created ++ [count]) hubIndex ↔ Rest wiring (count + 1) created hubIndex := by
  have more : (enabledBelow wiring (count + 1)).reverse = count :: (enabledBelow wiring count).reverse := by
    simp [enabledBelow_succ, enabled]
  have sameHubs : hubsBelow wiring (count + 1) = hubsBelow wiring count := by
    simp [hubsBelow_succ, leaf]
  constructor
  · rintro ⟨created, refuse, room⟩
    refine ⟨?_, sameHubs ▸ refuse, sameHubs ▸ room⟩
    rw [more, ← created, List.append_assoc, List.singleton_append]
  · rintro ⟨created, refuse, room⟩
    refine ⟨?_, sameHubs ▸ refuse, sameHubs ▸ room⟩
    rw [← created, more, List.append_assoc, List.singleton_append]

theorem rest_hub (enabled : (wiring.attached 0 count).enabled = true)
    (hub : newDevice ((wiring.attached 0 count).found false).identity = some .hub) (created : List Nat)
    (hubIndex : Nat) : Rest wiring (count + 1) created hubIndex ↔
      ((wiring.attached 0 count).found false).refuses.isSome ∧
        Rest wiring count (created ++ [count]) (hubIndex + 1) := by
  have more : (enabledBelow wiring (count + 1)).reverse = count :: (enabledBelow wiring count).reverse := by
    simp [enabledBelow_succ, enabled]
  have moreHubs : hubsBelow wiring (count + 1) = hubsBelow wiring count ++ [count] := by
    simp [hubsBelow_succ, hub, enabled]
  constructor
  · rintro ⟨created, refuse, room⟩
    rw [moreHubs] at refuse room
    refine ⟨refuse count (by simp), ?_, fun port member => refuse port (by simp [member]), ?_⟩
    · rw [← created, more, List.append_assoc, List.singleton_append]
    · rw [List.length_append, List.length_singleton] at room
      omega
  · rintro ⟨refuses, created, refuse, room⟩
    refine ⟨?_, ?_, ?_⟩
    · rw [more, ← created, List.append_assoc, List.singleton_append]
    · rw [moreHubs]
      intro port member
      rcases List.mem_append.mp member with member | member
      · exact refuse port member
      · obtain rfl := List.mem_singleton.mp member
        exact refuses
    · rw [moreHubs, List.length_append, List.length_singleton]
      omega

/-- From the fourth port down each port is tried once. -/
theorem Calls.ports_left (many : 3 ≤ wiring.ports 0) (below : count ≤ wiring.ports 0) (low : count ≤ 4)
    (reached : stage.initState + count = 5 * wiring.ports 0 + 4)
    (fresh : ∀ port < count, stage.devices port =
      if (wiring.attached 0 port).enabled then some .generic else none)
    (hubs : 0 < stage.hubIndex ∧ stage.hubIndex ≤ maxHubs) (all : stage.initialised = wiring.enabledPorts) :
    Calls wiring stage (Rest wiring count stage.created stage.hubIndex) := by
  induction count generalizing stage with
  | zero =>
    refine (Calls.complete many reached all).congr ⟨fun created => ⟨?_, ?_, ?_⟩, fun rest => ?_⟩
    · simpa [enabledBelow] using created
    · simp [hubsBelow, enabledBelow]
    · simpa [hubsBelow, enabledBelow] using hubs.2
    · simpa [enabledBelow] using rest.created
  | succ port ih =>
    have tries : Tries wiring stage port := ⟨many, by omega, by omega, by omega⟩
    have present := fresh port (Nat.lt_succ_self port)
    have next (device : Option PortDevice) (hubIndex : Nat) (bounds : 0 < hubIndex ∧ hubIndex ≤ maxHubs) :
        Calls wiring { (stage.tried port device).advance with hubIndex }
          (Rest wiring port (stage.created ++ [port]) hubIndex) := by
      refine ih (by omega) (by omega) ?_ ?_ bounds all
      · simp only [Stage.advance, Stage.tried]
        omega
      · intro other less
        simp only [Stage.advance, Stage.tried]
        rw [Function.update_of_ne (by omega)]
        exact fresh other (by omega)
    by_cases enabled : (wiring.attached 0 port).enabled = true
    · rw [if_pos enabled] at present
      cases known : newDevice ((wiring.attached 0 port).found false).identity with
      | none =>
        have leaf := rest_leaf enabled (by simp [known]) stage.created stage.hubIndex
        exact Calls.congr ((next none stage.hubIndex hubs).unsupported tries present known) leaf
      | some driver =>
        -- a hub takes a place in the table, which is never given back
        by_cases hub : driver = .hub
        · subst hub
          have more := rest_hub enabled known stage.created stage.hubIndex
          by_cases full : stage.hubIndex = maxHubs
          · refine (Calls.third_hub tries present known full).congr ?_
            rw [more, false_iff]
            rintro ⟨-, -, -, room⟩
            omega
          · cases refuses : ((wiring.attached 0 port).found false).refuses with
            | some text =>
              have later := next (some .specific) (stage.hubIndex + 1) (by omega)
              refine (later.refused_hub tries present known refuses hubs.1 (by omega)).congr ?_
              rw [more, refuses]
              simp
            | none =>
              refine (Calls.accepted_hub tries present known refuses hubs.1 (by omega)).congr ?_
              rw [more, refuses]
              simp
        · have leaf := rest_leaf enabled (by simp [known, hub]) stage.created stage.hubIndex
          exact Calls.congr ((next (some .specific) stage.hubIndex hubs).driver tries present known hub) leaf
    · rw [if_neg enabled] at present
      have disabled : (wiring.attached 0 port).enabled = false := by simpa using enabled
      have later : Calls wiring stage.advance (Rest wiring port stage.created stage.hubIndex) := by
        refine ih (by omega) (by omega) ?_ ?_ hubs all
        · simp only [Stage.advance]
          omega
        · exact fun other less => fresh other (by omega)
      exact (later.no_port tries present).congr (rest_disabled disabled _ _)

/-- A device that has been created cannot be covered when what follows is not. -/
theorem Calls.not_covered {device : PortDevice} (tries : Tries wiring stage port)
    (present : stage.devices port = some device) (hubs : 0 < stage.hubIndex ∧ stage.hubIndex ≤ maxHubs)
    (unknown : newDevice ((wiring.attached 0 port).found (device == .specific)).identity = none →
      Calls wiring (stage.tried port none).advance False)
    (later : ∀ hubIndex, 0 < hubIndex ∧ hubIndex ≤ maxHubs →
      Calls wiring { (stage.tried port (some .specific)).advance with hubIndex } False) :
    Calls wiring stage False := by
  cases known : newDevice ((wiring.attached 0 port).found (device == .specific)).identity with
  | none => exact (unknown known).unsupported tries present known
  | some driver =>
    by_cases hub : driver = .hub
    · subst hub
      by_cases full : stage.hubIndex = maxHubs
      · exact Calls.third_hub tries present known full
      · cases refuses : ((wiring.attached 0 port).found (device == .specific)).refuses with
        | some text =>
          exact (later (stage.hubIndex + 1) (by omega)).refused_hub tries present known refuses hubs.1 (by omega)
        | none => exact Calls.accepted_hub tries present known refuses hubs.1 (by omega)
    · exact Calls.driver (later stage.hubIndex hubs) tries present known hub

/-- The hubs of the first hub. -/
def hubPorts (wiring : Wiring) : List Nat :=
  wiring.enabledPorts.filter fun port => newDevice ((wiring.attached 0 port).found false).identity = some .hub

/-- The last phase gets to every port: there are three ports or more, and of more than four
    only the first four have a device that is enabled; the device at the third of three
    ports is not known; at most one port has a hub, and that refuses its device. -/
structure Coverable (wiring : Wiring) : Prop where
  ports : 3 ≤ wiring.ports 0
  low : ∀ port ∈ wiring.enabledPorts, port < 4
  third : wiring.ports 0 = 3 → (wiring.attached 0 2).enabled →
    newDevice ((wiring.attached 0 2).found false).identity = none
  refuse : ∀ port ∈ hubPorts wiring, ((wiring.attached 0 port).found false).refuses.isSome
  few : (hubPorts wiring).length ≤ 1

theorem enabledBelow_of_low (more : 4 ≤ count) (low : ∀ port ∈ enabledBelow wiring count, port < 4) :
    enabledBelow wiring count = enabledBelow wiring 4 := by
  induction count, more using Nat.le_induction with
  | base => rfl
  | succ count more ih =>
    rw [enabledBelow_succ] at low ⊢
    by_cases enabled : (wiring.attached 0 count).enabled = true
    · have last := low count (by simp [enabled])
      omega
    · simp only [enabled, Bool.false_eq_true, if_false, List.append_nil] at low ⊢
      exact ih low

theorem enabledBelow_lt {count port : Nat} (member : port ∈ enabledBelow wiring count) : port < count := by
  rw [enabledBelow, List.mem_filter, List.mem_range] at member
  exact member.1

theorem rest_four_iff (many : 4 ≤ wiring.ports 0) : Rest wiring 4 [] 1 ↔ Coverable wiring := by
  have hubs : hubPorts wiring = hubsBelow wiring (wiring.ports 0) := rfl
  constructor
  · rintro ⟨created, refuse, room⟩
    have same : enabledBelow wiring 4 = wiring.enabledPorts := List.reverse_injective created
    have sameHubs : hubsBelow wiring 4 = hubPorts wiring := by
      rw [hubsBelow, same, hubPorts]
    rw [sameHubs] at refuse room
    refine ⟨by omega, ?_, fun three => absurd three (by omega), refuse, ?_⟩
    · intro port member
      rw [← same] at member
      exact enabledBelow_lt member
    · rw [maxHubs] at room
      omega
  · rintro ⟨-, low, -, refuse, few⟩
    have same : wiring.enabledPorts = enabledBelow wiring 4 := enabledBelow_of_low many low
    have sameHubs : hubPorts wiring = hubsBelow wiring 4 := by
      rw [hubPorts, same, hubsBelow]
    rw [sameHubs] at refuse few
    refine ⟨by rw [same, List.nil_append], refuse, ?_⟩
    rw [maxHubs]
    omega

theorem rest_three_iff (three : wiring.ports 0 = 3)
    (third : (wiring.attached 0 2).enabled → newDevice ((wiring.attached 0 2).found false).identity = none) :
    Rest wiring 3 [] 1 ↔ Coverable wiring := by
  have same : wiring.enabledPorts = enabledBelow wiring 3 := by
    rw [Wiring.enabledPorts, three, enabledBelow]
  have sameHubs : hubPorts wiring = hubsBelow wiring 3 := by
    rw [hubPorts, same, hubsBelow]
  constructor
  · rintro ⟨-, refuse, room⟩
    refine ⟨by omega, ?_, fun _ => third, sameHubs ▸ refuse, ?_⟩
    · intro port member
      rw [same] at member
      have less := enabledBelow_lt member
      omega
    · rw [sameHubs]
      rw [maxHubs] at room
      omega
  · rintro ⟨-, -, -, refuse, few⟩
    rw [sameHubs] at refuse few
    refine ⟨by rw [same, List.nil_append], refuse, ?_⟩
    rw [maxHubs]
    omega

theorem enabledPorts_nodup (wiring : Wiring) : wiring.enabledPorts.Nodup :=
  List.nodup_range.filter _

/-- A port that has been created twice is too much. -/
theorem not_rest_twice {created : List Nat} {hubIndex : Nat} :
    ¬ Rest wiring count (created ++ [port] ++ [port]) hubIndex := by
  intro rest
  have nodup := List.nodup_reverse.mpr (enabledPorts_nodup wiring)
  rw [← rest.created] at nodup
  have twice := (List.nodup_append.mp nodup).1
  simp [List.nodup_append] at twice

/-- With three ports the last phase begins with the third, and goes on with the third. -/
theorem Calls.third_port (three : wiring.ports 0 = 3) (reached : stage.initState = 15)
    (fresh : ∀ port < 3, stage.devices port = if (wiring.attached 0 port).enabled then some .generic else none)
    (first : stage.hubIndex = 1) (new : stage.created = []) (all : stage.initialised = wiring.enabledPorts) :
    Calls wiring stage (Coverable wiring) := by
  have many : 3 ≤ wiring.ports 0 := Nat.le_of_eq three.symm
  have tries : Tries wiring stage 2 := ⟨many, by omega, by omega, by omega⟩
  have again : Tries wiring (stage.tried 2 none).advance 2 := by
    refine ⟨many, ?_, ?_, ?_⟩ <;>
    · simp only [Stage.advance, Stage.tried]
      omega
  have hubs : 0 < stage.hubIndex ∧ stage.hubIndex ≤ maxHubs := by
    rw [first, maxHubs]
    omega
  have present := fresh 2 (by omega)
  by_cases enabled : (wiring.attached 0 2).enabled = true
  · rw [if_pos enabled] at present
    -- what is left once the third port has been tried twice
    have left (later : Stage) (last : later.initState = 17) (devices : ∀ port < 2, later.devices port = stage.devices port)
        (bounds : 0 < later.hubIndex ∧ later.hubIndex ≤ maxHubs) (same : later.initialised = stage.initialised) :
        Calls wiring later (Rest wiring 2 later.created later.hubIndex) := by
      refine ports_left many (by omega) (by omega) (by omega) ?_ bounds (same.trans all)
      intro port less
      rw [devices port less]
      exact fresh port (by omega)
    cases known : newDevice ((wiring.attached 0 2).found false).identity with
    | none =>
      have later := left (stage.tried 2 none).advance.advance (by simp [Stage.advance, Stage.tried, reached])
        (fun port less => Function.update_of_ne (by omega) ..) hubs rfl
      have empty : (stage.tried 2 none).advance.devices 2 = none := by simp [Stage.advance, Stage.tried]
      refine ((later.no_port again empty).unsupported tries present known).congr ?_
      have leaf := rest_leaf enabled (by simp [known]) stage.created stage.hubIndex
      rw [new, first] at leaf
      simp only [Stage.advance, Stage.tried, new, first]
      exact leaf.trans (rest_three_iff three fun _ => known)
    | some driver =>
      have twice (device : Option PortDevice) (hubIndex : Nat) (bounds : 0 < hubIndex ∧ hubIndex ≤ maxHubs) :
          Calls wiring { ((stage.tried 2 (some .specific)).advance.tried 2 device).advance with hubIndex } False := by
        have later := left { ((stage.tried 2 (some .specific)).advance.tried 2 device).advance with hubIndex }
          (by simp [Stage.advance, Stage.tried, reached]) ?_ bounds rfl
        · refine later.congr ((iff_false _).mpr ?_)
          intro rest
          exact not_rest_twice rest
        · intro port less
          simp only [Stage.advance, Stage.tried]
          rw [Function.update_of_ne (by omega), Function.update_of_ne (by omega)]
      have calls : Calls wiring stage False := by
        refine not_covered tries present hubs ?_ ?_
        · intro unknown
          exact absurd (known.symm.trans unknown) (by simp)
        · intro hubIndex bounds
          have retries : Tries wiring { (stage.tried 2 (some .specific)).advance with hubIndex } 2 := by
            refine ⟨many, ?_, ?_, ?_⟩ <;>
            · simp only [Stage.advance, Stage.tried]
              omega
          have specific : (stage.tried 2 (some .specific)).advance.devices 2 = some .specific := by
            simp [Stage.advance, Stage.tried]
          refine not_covered retries specific bounds ?_ ?_
          · exact fun _ => twice none hubIndex bounds
          · exact fun hubIndex bounds => twice (some .specific) hubIndex bounds
      refine calls.congr ((false_iff _).mpr ?_)
      intro coverable
      exact absurd (known.symm.trans (coverable.third three enabled)) (by simp)
  · rw [if_neg enabled] at present
    have disabled : (wiring.attached 0 2).enabled = false := by simpa using enabled
    have later : Calls wiring stage.advance (Rest wiring 3 stage.created stage.hubIndex) := by
      refine ports_left many (by omega) (by omega) ?_ fresh hubs all
      simp only [Stage.advance]
      omega
    rw [new, first] at later
    exact (later.no_port tries present).congr (rest_three_iff three fun other => absurd other enabled)

end LastPhase

/-! ## The first two phases -/

section Phases

variable {stage : Stage} {count : Nat} {outcome : Prop} {messages : DeviceAt → List SetupData}

/-- The ports below a number have been looked at. -/
def portStage (wiring : Wiring) (count : Nat) : Stage where
  initState := wiring.ports 0 + 4 * count
  devices port := if port < count ∧ (wiring.attached 0 port).enabled then some .generic else none
  hubIndex := 1
  addresses := 2 + count
  initialised := enabledBelow wiring count
  created := []

theorem Calls.fewer_addresses {addresses : Nat} (calls : Calls wiring { stage with addresses } outcome)
    (more : stage.addresses ≤ addresses) : Calls wiring stage outcome := by
  intro answers given free fuel bus messages called
  have state : HubAt wiring { stage with addresses } bus :=
    { called.state with address := Nat.le_trans called.state.address more }
  exact calls answers given free fuel bus messages { called with state }

theorem Calls.of_portStage {after : Stage} (calls : Calls wiring (portStage wiring (count + 1)) outcome)
    (reached : after.initState = wiring.ports 0 + 4 * (count + 1))
    (devices : ∀ port, after.devices port =
      if port < count + 1 ∧ (wiring.attached 0 port).enabled then some .generic else none)
    (hubIndex : after.hubIndex = 1) (addresses : after.addresses = 2 + (count + 1))
    (initialised : after.initialised = enabledBelow wiring (count + 1)) (created : after.created = []) :
    Calls wiring after outcome := by
  have same : after = portStage wiring (count + 1) := by
    cases after
    simp only at reached devices hubIndex addresses initialised created
    simp only [portStage, reached, hubIndex, addresses, initialised, created, funext devices]
  rw [same]
  exact calls

/-- One port. -/
theorem Calls.next_port (calls : Calls wiring (portStage wiring (count + 1)) outcome)
    (inside : count < wiring.ports 0) : Calls wiring (portStage wiring count) outcome := by
  have few := wiring.ports_le
  rw [maxPorts] at few
  have numbered : count = ((portStage wiring count).advance.advance.advance.initState - wiring.ports 0) / 4 := by
    simp only [Stage.advance, portStage]
    omega
  have third : ((portStage wiring count).advance.advance.advance.initState - wiring.ports 0) % 4 = 3 := by
    simp only [Stage.advance, portStage]
    omega
  have behind : wiring.ports 0 ≤ (portStage wiring count).advance.advance.advance.initState := by
    simp only [Stage.advance, portStage]
    omega
  have reset : Calls wiring (portStage wiring count).advance.advance.advance outcome := by
    by_cases enabled : (wiring.attached 0 count).enabled = true
    · refine Calls.new_device ?_ behind inside numbered third enabled ?_
      · refine calls.of_portStage ?_ ?_ rfl ?_ ?_ rfl
        · simp only [Stage.advance, portStage]
          omega
        · intro port
          simp only [Stage.advance, portStage]
          by_cases same : port = count
          · subst same
            simp [enabled]
          · rw [Function.update_of_ne same]
            congr 2
            exact propext ⟨by omega, by omega⟩
        · simp only [Stage.advance, portStage]
          omega
        · simp only [Stage.advance, portStage]
          rw [enabledBelow_succ, if_pos enabled]
      · simp only [Stage.advance, portStage, maxAddress]
        omega
    · have disabled : (wiring.attached 0 count).enabled = false := by simpa using enabled
      have later : Calls wiring { (portStage wiring count).advance.advance.advance.advance with
          addresses := 2 + (count + 1) } outcome := by
        refine calls.of_portStage ?_ ?_ rfl rfl ?_ rfl
        · simp only [Stage.advance, portStage]
          omega
        · intro port
          simp only [Stage.advance, portStage]
          by_cases same : port = count
          · subst same
            simp [disabled]
          · congr 2
            exact propext ⟨by omega, by omega⟩
        · simp only [Stage.advance, portStage]
          rw [enabledBelow_succ, if_neg enabled, List.append_nil]
      refine Calls.no_device (later.fewer_addresses ?_) behind (numbered ▸ inside) third (numbered ▸ disabled)
      simp only [Stage.advance, portStage]
      omega
  refine Calls.request (Calls.request (Calls.request reset ?_ ?_ ?_) ?_ ?_ ?_) ?_ ?_ ?_ <;>
  · simp only [Stage.advance, portStage]
    omega

theorem Calls.ports (calls : Calls wiring (portStage wiring (wiring.ports 0)) outcome)
    (inside : count ≤ wiring.ports 0) : Calls wiring (portStage wiring count) outcome := by
  induction inside using Nat.decreasingInduction with
  | self => exact calls
  | of_succ count less ih => exact ih.next_port less

/-- The power of the ports is turned on.  The request of the last one is not freed. -/
theorem HubAt.powers (state : HubAt wiring stage bus) (flying : OneFlight urb (.enumeratePortsComplete 0) bus)
    (claimed : Claimed [urb] bus) (more : stage.initState + count = wiring.ports 0)
    (calls : Calls wiring { stage with initState := wiring.ports 0 } outcome) :
    Enumerates wiring { bus, messages } ↔ outcome := by
  -- By induction on the ports that are still to be powered.
  induction count generalizing bus urb stage with
  | zero =>
    rw [Nat.add_zero] at more
    have some := wiring.ports_pos
    have landed := state.unseen (.land bus urb)
    have first (given : Option (Fin maxUsbRequests)) (answers : Answers) :
        enumeratePass answers 0 (given, bus.land urb) = enumeratePort answers 0 0 given (bus.land urb) 0 := by
      have pass : enumeratePass answers 0 (given, bus.land urb) = _ := landed.pass (Nat.le_of_eq more.symm)
      simpa [more, some, settled] using pass
    -- The first message about a port does not depend on the request that the pass is given.
    have same (answers : Answers) : enumeratePass answers 0 (.some urb, bus.land urb) =
        enumeratePass answers 0 (none, bus.land urb) := by
      rw [first, first]
      rfl
    rw [state.completes flying, iterate_congr (same _)]
    have once := calls (wiring.answers { bus, messages } (.enumeratePortsComplete 0)) none none
      (5 * wiring.ports 0 + 5) (bus.land urb) messages {
        state := { landed with initState := landed.initState.trans more }
        landed := flying.land
        claimed := ⟨urb, claimed.of_eq rfl⟩
        given := .inl rfl
        found := rfl
        status := by simp
        fuel := by simp only; omega }
    simpa [Bus.freeUrb] using once
  | succ count ih =>
    have landed := state.unseen (.land bus urb)
    have releases : Releases ((bus.land urb).hubs 0) := by
      left
      rw [landed.initState, landed.ports]
      omega
    rw [state.completes flying, iterate_congr (enumeratePass_frees releases)]
    have freed := landed.unseen (.freeUrb _ (some urb))
    have held : Claimed [] ((bus.land urb).freeUrb (some urb)) :=
      Claimed.frees (claimed.of_eq rfl) (by simp [eq_comm])
    have grounded : Landed ((bus.land urb).freeUrb (some urb)) := flying.land.of_eq rfl
    generalize (bus.land urb).freeUrb (some urb) = ready at freed held grounded
    have less : stage.initState < wiring.ports 0 := by omega
    have pass (answers : Answers) : enumeratePass answers 0 (none, ready) =
        .leave (some (Usb.enumerateSend 0 (setPortFeatureMessage portPower stage.initState) none
          (.printf "Cannot power port %u" [stage.initState + 1]) ready)) := by
      simp only [enumeratePass, freed.ports, freed.initState, less, if_true]
      rfl
    obtain ⟨new, sent, flies, claims⟩ := freed.enumerateSend grounded held (show 0 < 10 by decide)
      (setPortFeatureMessage portPower stage.initState) none (.printf "Cannot power port %u" [stage.initState + 1])
    rw [iterate, pass]
    simp only [Option.join_some, EnumeratesAfter, Option.some.injEq, exists_eq_left']
    refine ih sent flies claims ?_ calls
    simp only [Stage.advance]
    omega

/-! ### The beginning -/

/-- The hub has been attached when it asks for its descriptor. -/
def hubAttached : Bus :=
  { busInit with hubIndex := 1, nextAddress := firstAddress + 1 }.setHub 0
    { device := { attached := true, address := firstAddress }, initState := 2 }

theorem hubAttached_landed : Landed hubAttached := fun _ => rfl

theorem hubAttached_claimed : Claimed [] hubAttached := ⟨fun _ used => by cases used⟩

/-- Its request is the only one in flight. -/
theorem hubStart_flight : ∃ slot, OneFlight slot (.hubConfigureComplete 0) hubStart ∧ Claimed [slot] hubStart ∧
    Unseen hubAttached ((hubStart.land slot).freeUrb (some slot)) := by
  obtain ⟨slot, found⟩ := hubAttached_claimed.finds (show 0 < 10 by decide)
  have started : hubStart = hubAttached.submit slot (.hub 0) (getDescriptorMessage 0x29 9 (requestIn ||| requestClass))
      (some (DeviceAt.data (.hub 0))) (.hubConfigureComplete 0) := by
    rw [hubStart]
    exact send_found found
  rw [started]
  exact ⟨slot, hubAttached_landed.submit .., hubAttached_claimed.submit ..,
    ((Unseen.submit ..).trans (.land ..)).trans (.freeUrb ..)⟩

/-- With the number of ports known the enumeration begins. -/
def portsOpened (wiring : Wiring) (bus : Bus) : Bus :=
  ((bus.setHub 0 { device := { attached := true, address := firstAddress }, ports := wiring.ports 0, initState := 2 }).note
    [.printf "Begin USB hub enumeration of %d ports...\n" [wiring.ports 0]]).setInitState 0 0

/-- Nothing has been initialised then. -/
theorem hubAt_portsOpened (kept : Unseen hubAttached bus) :
    HubAt wiring { portStage wiring 0 with initState := 0 } (portsOpened wiring bus) := by
  obtain ⟨actions, logged, quietly⟩ := kept.log
  have nothing : bus.log = actions := logged
  have log : (portsOpened wiring bus).log =
      bus.log ++ [.printf "Begin USB hub enumeration of %d ports...\n" [wiring.ports 0]] := rfl
  constructor
  case attached => simp [portsOpened, Bus.setInitState, Bus.setHub, Bus.note]
  case ports => simp [portsOpened, Bus.setInitState, Bus.setHub, Bus.note]
  case initState => simp [portsOpened, Bus.setInitState, Bus.setHub]
  case devices => simp [portsOpened, Bus.setInitState, Bus.setHub, Bus.note, portStage]
  case hubIndex => exact kept.hubIndex
  case address => exact Nat.le_of_eq kept.address
  case others =>
    intro hub port other
    exact kept.others hub port other
  case initialised =>
    rw [log, initialised_append, nothing, initialised_unseen quietly]
    rfl
  case created =>
    rw [log, created_append, nothing, created_unseen quietly]
    rfl
  case silent =>
    rw [log, nothing]
    simpa [enumerationComplete] using not_mem_unseen quietly

/-- The hub has its descriptor, and sends the first message of its enumeration. -/
theorem start_enumerates (wiring : Wiring) : ∃ bus urb, HubAt wiring { portStage wiring 0 with initState := 0 } bus ∧
    OneFlight urb (.enumeratePortsComplete 0) bus ∧ Claimed [urb] bus ∧
    (Enumerates wiring wiring.start ↔ Enumerates wiring { bus, messages := wiring.messages }) := by
  obtain ⟨slot, flying, claimed, kept⟩ := hubStart_flight
  have landed : Landed ((hubStart.land slot).freeUrb (some slot)) := flying.land.of_eq rfl
  have freed : Claimed [] ((hubStart.land slot).freeUrb (some slot)) :=
    Claimed.frees (claimed.of_eq rfl) (by simp [eq_comm])
  -- its request is the only one in flight, so its answer comes first
  have first : OneFlight slot (.hubConfigureComplete 0) wiring.start.bus := flying
  rw [first.enumerates_iff]
  simp only [completionRoutine, hubConfigureComplete, EnumeratesAfter, Option.some.injEq, exists_eq_left']
  generalize same : (wiring.start.bus.land slot).freeUrb (some slot) = ready
  change (hubStart.land slot).freeUrb (some slot) = ready at same
  rw [same] at kept landed freed
  have few := Nat.not_lt.mpr wiring.ports_le
  have ports : (wiring.answers wiring.start (.hubConfigureComplete 0)).numPorts = wiring.ports 0 := rfl
  have value : ready.hubs 0 = { device := { attached := true, address := firstAddress }, initState := 2 } := by
    rw [kept.hubs]
    simp [hubAttached, Bus.setHub]
  have second : ¬ (2 : Nat) = 0 := by decide
  have third : ¬ (2 : Nat) ≤ 1 := by decide
  simp only [value, ports, few, enumeratePorts, second, third, false_and, if_false, if_true]
  -- the request for the first port takes the only place that is used
  have grounded : Landed (portsOpened wiring ready) := landed.of_eq rfl
  have held : Claimed [] (portsOpened wiring ready) := freed.of_eq rfl
  obtain ⟨urb, available⟩ := held.finds (show 0 < 10 by decide)
  change ∃ bus urb, _ ∧ _ ∧ _ ∧ (Enumerates wiring { bus := (portsOpened wiring ready).send .., messages := _ } ↔ _)
  rw [send_found available]
  exact ⟨_, urb, (hubAt_portsOpened kept).unseen (.submit ..), grounded.submit .., held.submit .., Iff.rfl⟩

/-- The whole enumeration. -/
theorem start_enumerates_iff (wiring : Wiring) : Enumerates wiring wiring.start ↔ Coverable wiring := by
  have last : Calls wiring (portStage wiring (wiring.ports 0)) (Coverable wiring) := by
    have fresh : ∀ port < wiring.ports 0, (portStage wiring (wiring.ports 0)).devices port =
        if (wiring.attached 0 port).enabled then some .generic else none := by
      intro port less
      simp [portStage, less]
    by_cases few : wiring.ports 0 ≤ 2
    · refine (Calls.failed few ?_).congr ((false_iff _).mpr ?_)
      · simp only [portStage]
        omega
      · intro coverable
        have ports := coverable.ports
        omega
    · by_cases three : wiring.ports 0 = 3
      · refine Calls.third_port three ?_ (three ▸ fresh) rfl rfl rfl
        simp only [portStage]
        omega
      · refine (Calls.ports_left (by omega) (by omega) (Nat.le_refl 4) ?_ ?_ ?_ rfl).congr
          (rest_four_iff (by omega))
        · simp only [portStage]
          omega
        · exact fun port less => fresh port (by omega)
        · exact ⟨Nat.one_pos, (by decide : 1 ≤ 2)⟩
  obtain ⟨bus, urb, state, flying, claimed, enumerates⟩ := start_enumerates wiring
  rw [enumerates]
  exact state.powers flying claimed (Nat.zero_add _) (last.ports (Nat.zero_le _))

/-- The enumeration of the hub at the root port covers every port exactly if the last phase
    gets to every port. -/
theorem hub_enumeration_iff (wiring : Wiring) :
    (∃ bus, Ends wiring.pass wiring.start (some bus) ∧ wiring.Covered bus.log) ↔ Coverable wiring :=
  start_enumerates_iff wiring

/-- A hub with one port, and nothing attached to it. -/
def onePort : Wiring where
  ports _ := 1
  attached _ _ := {}
  messages _ := []
  ports_pos := Nat.one_pos
  ports_le := Nat.le_of_ble_eq_true rfl

theorem hub_enumeration_one_port :
    ¬ ∀ wiring : Wiring, ∃ bus, Ends wiring.pass wiring.start (some bus) ∧ wiring.Covered bus.log := by
  intro holds
  have coverable := (start_enumerates_iff onePort).mp (holds onePort)
  exact absurd coverable.ports (by decide)

end Phases

end ComputerSystems.Verified
