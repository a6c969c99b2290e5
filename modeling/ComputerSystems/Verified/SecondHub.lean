import ComputerSystems.Usb.Wiring

/-! # A hub at a port of a hub

The first hub hands on to the second one: when the second hub is configured, the request
in flight is one of the second hub.  From then on only requests of that hub and of the
devices at its ports follow one another, and nothing calls the routine that the first hub
has registered.  So the first hub does not end its enumeration (`Inner.step`).
-/

namespace ComputerSystems.Verified

open ComputerSystems.Data ComputerSystems.System ComputerSystems.Usb

/-- The routine works for a hub other than the first. -/
def Away : Callback → Prop
  | .deviceInitialize (.port hub _) | .initializeComplete (.port hub _)
  | .driverConfigureComplete (.port hub _) => hub ≠ 0
  | .hubConfigureComplete hub | .enumeratePortsComplete hub => hub ≠ 0
  | _ => False

/-- Another hub than the first goes on. -/
structure Inner (bus : Bus) : Prop where
  hubIndex : 0 < bus.hubIndex
  silent : enumerationComplete ∉ bus.log
  complete : ∀ hub port, hub ≠ 0 → ∀ routine, (bus.devices (.port hub port)).complete = some routine →
    ∃ other, other ≠ 0 ∧ routine = .enumeratePortsComplete other
  away : ∀ urb, bus.flight urb = true → ∀ callback, bus.callbacks urb = some callback → Away callback

/-- What a pass of the enumeration leaves. -/
def InnerPass : Pass Enumerating (Option Bus) → Prop
  | .again (_, next) => Inner next
  | .leave (some next) => Inner next
  | .leave none => True

namespace Inner

variable {bus : Bus} {hub port : Nat} {answers : Answers}

/-! ## The parts of the bus -/

theorem note (inner : Inner bus) {actions : List BusAction} (silent : enumerationComplete ∉ actions) :
    Inner (bus.note actions) := by
  refine ⟨inner.hubIndex, ?_, inner.complete, inner.away⟩
  intro member
  rcases List.mem_append.mp member with member | member
  · exact inner.silent member
  · exact silent member

theorem setHub (inner : Inner bus) (value : Hub) : Inner (bus.setHub hub value) :=
  ⟨inner.hubIndex, inner.silent, inner.complete, inner.away⟩

theorem setAddress (inner : Inner bus) (nextAddress : Nat) : Inner { bus with nextAddress } :=
  ⟨inner.hubIndex, inner.silent, inner.complete, inner.away⟩

/-- The routine that a device has registered does not change, or is one of a hub other
    than the first. -/
theorem setDevice (inner : Inner bus) {device : DeviceAt} {value : Device}
    (registered : value.complete = (bus.devices device).complete ∨ value.complete = none ∨
      ∃ other, other ≠ 0 ∧ value.complete = some (.enumeratePortsComplete other)) :
    Inner (bus.setDevice device value) := by
  refine ⟨inner.hubIndex, inner.silent, ?_, inner.away⟩
  intro hub port other routine set
  by_cases same : DeviceAt.port hub port = device
  · subst same
    simp only [Bus.setDevice, Function.update_self] at set
    obtain kept | cleared | ⟨registrant, away, new⟩ := registered
    · exact inner.complete hub port other routine (kept ▸ set)
    · rw [cleared] at set
      cases set
    · rw [new] at set
      exact ⟨registrant, away, (Option.some.inj set).symm⟩
  · simp only [Bus.setDevice, Function.update_of_ne same] at set
    exact inner.complete hub port other routine set

theorem freeUrb (inner : Inner bus) (urb : Option (Fin maxUsbRequests)) : Inner (bus.freeUrb urb) := by
  cases urb with
  | none => exact inner
  | some urb =>
    refine ⟨inner.hubIndex, ?_, inner.complete, inner.away⟩
    simpa [Bus.freeUrb, enumerationComplete] using inner.silent

theorem land (inner : Inner bus) (urb : Fin maxUsbRequests) : Inner (bus.land urb) := by
  refine ⟨inner.hubIndex, by simpa [Bus.land, enumerationComplete] using inner.silent, inner.complete, ?_⟩
  intro other flies
  by_cases same : other = urb
  · simp [Bus.land, same] at flies
  · simp only [Bus.land, Function.update_of_ne same] at flies
    exact inner.away other flies

theorem submit (inner : Inner bus) (urb : Fin maxUsbRequests) (device : DeviceAt) (setup : SetupData)
    (buffer : Option Address) {callback : Callback} (away : Away callback) :
    Inner (bus.submit urb device setup buffer callback) := by
  refine ⟨inner.hubIndex, by simpa [Bus.submit, enumerationComplete] using inner.silent, inner.complete, ?_⟩
  intro other flies registered set
  by_cases same : other = urb
  · subst same
    simp only [Bus.submit, Function.update_self] at set
    exact Option.some.inj set ▸ away
  · simp only [Bus.submit, Function.update_of_ne same] at flies set
    exact inner.away other flies registered set

theorem send (inner : Inner bus) (device : DeviceAt) (setup : SetupData) (buffer : Option Address)
    {callback : Callback} {sent failed : Bus → Bus} (away : Away callback)
    (afterSent : ∀ bus, Inner bus → Inner (sent bus)) (afterFailed : ∀ bus, Inner bus → Inner (failed bus)) :
    Inner (bus.send device setup buffer callback sent failed) := by
  rw [Bus.send, Bus.hostEndpointControlMessage]
  cases findRequest bus.requests with
  | none => exact afterFailed _ (inner.note (by simp [enumerationComplete]))
  | some urb => exact afterSent _ (inner.submit urb device setup buffer away)

/-! ## Devices -/

theorem deviceInitialize (inner : Inner bus) (urb : Option (Fin maxUsbRequests)) (answers : Answers)
    (other : hub ≠ 0) : Inner (Usb.deviceInitialize urb (.port hub port) answers bus) := by
  have freed := inner.freeUrb urb
  have fails (action : BusAction) (silent : action ≠ enumerationComplete) (mid : Bus) (inner : Inner mid) :
      Inner (mid.note [action]) :=
    inner.note (by simpa using silent.symm)
  rw [Usb.deviceInitialize]
  cases ((bus.freeUrb urb).devices (.port hub port)).state with
  | getDescriptorLength =>
    refine send ?_ _ _ _ ?_ ?_ ?_
    · exact freed.setDevice (.inl rfl)
    · exact other
    · exact fun mid inner => inner.setDevice (.inl rfl)
    · exact fun mid inner => (fails _ (by simp [enumerationComplete]) mid inner).setDevice (.inl rfl)
  | getDescriptor =>
    dsimp only
    split
    · refine freed.send _ _ _ ?_ ?_ ?_
      · exact other
      · exact fun mid inner => inner.setDevice (.inl rfl)
      · exact fun mid inner => (fails _ (by simp [enumerationComplete]) mid inner).setDevice (.inl rfl)
    · exact (fails _ (by simp [enumerationComplete]) _ freed).setDevice (.inl rfl)
  | setEndpointAddress =>
    dsimp only
    split
    · exact (fails _ (by simp [enumerationComplete]) _ freed).setDevice (.inl rfl)
    · refine freed.send _ _ _ ?_ ?_ ?_
      · exact other
      · exact fun mid inner => inner.setDevice (.inl rfl)
      · exact fun mid inner => (fails _ (by simp [enumerationComplete]) mid inner).setDevice (.inl rfl)
  | getConfigurationLength =>
    refine send (setAddress ?_ _) _ _ _ ?_ ?_ ?_
    · exact freed.setDevice (.inl rfl)
    · exact other
    · exact fun mid inner => inner.setDevice (.inl rfl)
    · exact fun mid inner => (fails _ (by simp [enumerationComplete]) mid inner).setDevice (.inl rfl)
  | getConfiguration =>
    dsimp only
    split
    · refine freed.send _ _ _ ?_ ?_ ?_
      · exact other
      · exact fun mid inner => inner.setDevice (.inl rfl)
      · exact fun mid inner => (fails _ (by simp [enumerationComplete]) mid inner).setDevice (.inl rfl)
    · exact (fails _ (by simp [enumerationComplete]) _ freed).setDevice (.inl rfl)

theorem deviceAttach (inner : Inner bus) (device : DeviceAt) (speed : Speed) (hubAddress hubPortNumber : Nat) :
    Inner (Usb.deviceAttach device speed hubAddress hubPortNumber bus) :=
  (inner.setDevice (.inr (.inl rfl))).note (by simp [enumerationComplete])

theorem deviceRelease (inner : Inner bus) (device : DeviceAt) : Inner (Usb.deviceRelease device bus) :=
  inner.setDevice (.inl rfl)

theorem hubAttach (inner : Inner bus) {device : DeviceAt} {index : Option Nat} {next : Bus}
    (attaches : Usb.hubAttach device bus = some (index, next)) : Inner next ∧ ∀ hub ∈ index, hub ≠ 0 := by
  rw [Usb.hubAttach] at attaches
  split at attaches
  · obtain ⟨rfl, rfl⟩ := Prod.mk.inj (Option.some.inj attaches)
    exact ⟨inner.note (by simp [enumerationComplete]), by simp⟩
  · split at attaches
    · cases attaches
    · obtain ⟨rfl, rfl⟩ := Prod.mk.inj (Option.some.inj attaches)
      have index := inner.hubIndex
      refine ⟨⟨Nat.succ_pos _, inner.silent, inner.complete, inner.away⟩, ?_⟩
      rintro hub ⟨⟩
      exact Nat.ne_of_gt index

/-- A hub that is created is not the first one. -/
theorem deviceCreate (inner : Inner bus) {device : DeviceAt} {again : Bool} {child : Option Child} {next : Bus}
    (creates : Usb.deviceCreate device again answers bus = some (child, next)) :
    Inner next ∧ ∀ hub, child = some (.hub hub) → hub ≠ 0 := by
  have noted : Inner (bus.note [.deviceCreate device]) := inner.note (by simp [enumerationComplete])
  rw [Usb.deviceCreate] at creates
  cases driver : newDevice (answers.found device again).identity with
  | none =>
    rw [driver] at creates
    obtain ⟨rfl, rfl⟩ := Prod.mk.inj (Option.some.inj creates)
    exact ⟨noted.note (by simp [enumerationComplete]), by simp⟩
  | some found =>
    rw [driver] at creates
    cases found with
    | hub =>
      dsimp only at creates
      split at creates
      next => cases creates
      next mid attaches =>
        obtain ⟨attached, -⟩ := (noted.note (by simp [enumerationComplete])).hubAttach attaches
        obtain ⟨rfl, rfl⟩ := Prod.mk.inj (Option.some.inj creates)
        exact ⟨attached.note (by simp [enumerationComplete]), by simp⟩
      next index mid attaches =>
        obtain ⟨attached, fresh⟩ := (noted.note (by simp [enumerationComplete])).hubAttach attaches
        obtain ⟨rfl, rfl⟩ := Prod.mk.inj (Option.some.inj creates)
        refine ⟨attached, ?_⟩
        rintro hub ⟨⟩
        exact fresh index rfl
    | keyboard | mouse | massStorage | lan =>
      obtain ⟨rfl, rfl⟩ := Prod.mk.inj (Option.some.inj creates)
      exact ⟨noted.note (by simp [enumerationComplete]), by simp⟩

theorem deviceConfigure (inner : Inner bus) (device : DeviceAt) (configurationValue : UInt8) {callback : Callback}
    (away : Away callback) : Inner (Usb.deviceConfigure device configurationValue callback bus).2 := by
  rw [Usb.deviceConfigure, Bus.hostEndpointControlMessage]
  cases findRequest bus.requests with
  | none => exact (inner.note (by simp [enumerationComplete])).note (by simp [enumerationComplete])
  | some urb => exact inner.submit urb _ _ _ away

theorem configure (inner : Inner bus) (other : hub ≠ 0) {child : Child} (found : Found)
    (fresh : ∀ hub, child = .hub hub → hub ≠ 0) :
    Inner (Usb.configure (.port hub port) child found bus).2 := by
  cases child with
  | hub index =>
    rw [Usb.configure, hubConfigure]
    cases found.refuses with
    | some text => exact inner.note (by simp [enumerationComplete])
    | none => exact (inner.setHub _).deviceConfigure _ _ (fresh index rfl)
  | driver =>
    rw [Usb.configure, driverConfigure]
    cases found.refuses with
    | some text => exact inner.note (by simp [enumerationComplete])
    | none => exact inner.deviceConfigure _ _ other

/-! ## The enumeration of another hub -/

theorem enumerateSend (inner : Inner bus) (other : hub ≠ 0) (setup : SetupData) (buffer : Option Address)
    {failure : BusAction} (silent : failure ≠ enumerationComplete) :
    Inner (Usb.enumerateSend hub setup buffer failure bus) := by
  refine inner.send _ _ _ ?_ ?_ ?_
  · exact other
  · exact fun mid inner => inner.setHub _
  · exact fun mid inner => (inner.note (by simpa using silent.symm)).setHub _

theorem enumerateDevice (inner : Inner bus) (other : hub ≠ 0) (urb : Option (Fin maxUsbRequests)) :
    InnerPass (Usb.enumerateDevice answers hub port urb bus) := by
  rw [Usb.enumerateDevice]
  dsimp only
  split
  · exact (inner.note (by simp [enumerationComplete])).setHub _
  · split
    · exact (inner.note (by simp [enumerationComplete])).setHub _
    · refine setHub (deviceInitialize (setDevice (deviceAttach (note (inner.setHub _) ?_) _ _ _ _) ?_) none
        answers other) _
      · simp [enumerationComplete]
      · exact .inr (.inr ⟨hub, other, rfl⟩)

theorem enumeratePort (inner : Inner bus) (other : hub ≠ 0) (urb : Option (Fin maxUsbRequests)) (step : Nat) :
    InnerPass (Usb.enumeratePort answers hub port urb bus step) := by
  match step with
  | 0 | 1 | 2 => exact inner.enumerateSend other _ _ (by simp [enumerationComplete])
  | more + 3 => exact inner.enumerateDevice other urb

theorem configurePort (inner : Inner bus) (other : hub ≠ 0) (urb : Option (Fin maxUsbRequests)) :
    InnerPass (Usb.configurePort answers hub port urb bus) := by
  rw [Usb.configurePort]
  cases (bus.hubs hub).devices port with
  | none => exact inner.setHub _
  | some device =>
    dsimp only
    cases creates : Usb.deviceCreate (.port hub port) (device == .specific) answers bus with
    | none => trivial
    | some result =>
      obtain ⟨child, mid⟩ := result
      obtain ⟨made, fresh⟩ := inner.deviceCreate creates
      cases child with
      | none =>
        exact (((made.note (by simp [enumerationComplete])).deviceRelease _).setHub _).setHub _
      | some child =>
        dsimp only
        generalize placed : Bus.setPort hub port (some .specific) (Usb.deviceRelease (.port hub port) mid) = ready
        have settled : Inner ready := placed ▸ (made.deviceRelease _).setHub _
        have configured : Inner (Usb.configure (.port hub port) child
            (answers.found (.port hub port) (device == .specific)) ready).2 :=
          settled.configure other _ fun index same => fresh index (same ▸ rfl)
        split
        next next configures =>
          have same := congrArg Prod.snd configures
          exact (same ▸ configured).setHub _
        next next configures =>
          have same := congrArg Prod.snd configures
          exact ((same ▸ configured).note (by simp [enumerationComplete])).setHub _

theorem enumeratePass (inner : Inner bus) (other : hub ≠ 0) (urb : Option (Fin maxUsbRequests)) :
    InnerPass (Usb.enumeratePass answers hub (urb, bus)) := by
  rw [Usb.enumeratePass]
  dsimp only
  split
  · exact (inner.freeUrb urb).enumerateSend other _ _ (by simp [enumerationComplete])
  · generalize freed : (if ((bus.hubs hub).initState - (bus.hubs hub).ports) % 4 = 0 then bus
      else bus.freeUrb urb) = settled
    have settledInner : Inner settled := by
      rw [← freed]
      split
      · exact inner
      · exact inner.freeUrb urb
    split
    · exact settledInner.enumeratePort other _ _
    · split
      · split
        · exact settledInner.configurePort other _
        · exact (settledInner.setHub _).note (by simp [enumerationComplete, other.symm])
      · exact (settledInner.note (by simp [enumerationComplete])).setHub _

theorem iterate (inner : Inner bus) (other : hub ≠ 0) {fuel : Nat} {urb : Option (Fin maxUsbRequests)}
    {next : Bus} (ends : Data.iterate (Usb.enumeratePass answers hub) fuel (urb, bus) = some (some next)) :
    Inner next := by
  induction fuel generalizing bus urb with
  | zero => cases ends
  | succ fuel ih =>
    have once : InnerPass (Usb.enumeratePass answers hub (urb, bus)) := inner.enumeratePass other urb
    rw [Data.iterate] at ends
    cases one : Usb.enumeratePass answers hub (urb, bus) with
    | again state =>
      rw [one] at once ends
      exact ih once ends
    | leave result =>
      rw [one] at once ends
      obtain rfl : result = some next := Option.some.inj ends
      exact once

theorem enumeratePortsComplete (inner : Inner bus) (other : hub ≠ 0) {urb : Option (Fin maxUsbRequests)}
    {next : Bus} (runs : Usb.enumeratePortsComplete answers hub urb bus = some next) : Inner next := by
  rw [Usb.enumeratePortsComplete] at runs
  split at runs
  · exact inner.iterate other (Option.join_eq_some_iff.mp runs)
  · exact Option.some.inj runs ▸ inner

theorem hubConfigureComplete (inner : Inner bus) (other : hub ≠ 0) (urb : Fin maxUsbRequests) :
    Inner (Usb.hubConfigureComplete urb hub answers bus) := by
  have freed := inner.freeUrb (some urb)
  rw [Usb.hubConfigureComplete]
  dsimp only
  split
  · refine freed.send _ _ _ ?_ ?_ ?_
    · exact other
    · exact fun mid inner => inner.setHub _
    · exact fun mid inner => inner.note (by simp [enumerationComplete])
  · split
    · refine freed.send _ _ _ ?_ ?_ ?_
      · exact other
      · exact fun mid inner => inner.setHub _
      · exact fun mid inner => (inner.note (by simp [enumerationComplete])).setHub _
    · split
      · split
        · exact ((freed.setHub _).note (by simp [enumerationComplete])).setHub _
        · refine send (setHub (note (freed.setHub _) ?_) _) _ _ _ ?_ ?_ ?_
          · simp [enumerationComplete]
          · exact other
          · exact fun mid inner => inner
          · exact fun mid inner => (inner.note (by simp [enumerationComplete])).setHub _
      · exact freed

theorem initializeComplete (inner : Inner bus) (other : hub ≠ 0) {urb : Fin maxUsbRequests} {next : Bus}
    (runs : Usb.initializeComplete urb (.port hub port) answers bus = some next) : Inner next := by
  rw [Usb.initializeComplete] at runs
  split at runs
  · dsimp only at runs
    split at runs
    · generalize parsed : Bus.note [.initialized (.port hub port)] _ = ready at runs
      have readyInner : Inner ready := by
        rw [← parsed]
        refine note ?_ ?_
        · exact inner.setDevice (.inl rfl)
        · simp [enumerationComplete]
      obtain ⟨mid, completes, rfl⟩ := Option.map_eq_some_iff.mp runs
      apply freeUrb
      split at completes
      next => exact Option.some.inj completes ▸ readyInner
      next registered =>
        obtain ⟨_, _, wrong⟩ := readyInner.complete hub port other _ registered
        cases wrong
      next index registered =>
        obtain ⟨_, away, same⟩ := readyInner.complete hub port other _ registered
        cases same
        exact readyInner.enumeratePortsComplete away completes
    · obtain rfl := Option.some.inj runs
      refine freeUrb (note ?_ ?_) _
      · exact inner.setDevice (.inl rfl)
      · simp [enumerationComplete]
  · exact Option.some.inj runs ▸ inner.freeUrb _

theorem driverConfigureComplete (inner : Inner bus) (other : hub ≠ 0) {urb : Fin maxUsbRequests} {next : Bus}
    (runs : Usb.driverConfigureComplete urb (.port hub port) answers bus = some next) : Inner next := by
  have freed := inner.freeUrb (some urb)
  rw [Usb.driverConfigureComplete] at runs
  split at runs
  · obtain rfl := Option.some.inj runs
    refine freed.send _ _ _ ?_ ?_ ?_
    · exact other
    · exact fun mid inner => inner
    · exact fun mid inner => inner
  · exact freed.enumeratePortsComplete other runs
  · exact Option.some.inj runs ▸ freed

/-- The first hub does not get back to its enumeration. -/
theorem step (inner : Inner bus) {event : RequestCompletion} {next : Bus} (steps : busStep bus event = some next) :
    Inner next := by
  rw [busStep, Option.ite_none_right_eq_some, Option.bind_eq_some_iff] at steps
  obtain ⟨flies, callback, registered, runs⟩ := steps
  have landed := inner.land event.urb
  have away := inner.away event.urb flies callback registered
  cases callback with
  | deviceInitialize device =>
    cases device with
    | port hub port => exact Option.some.inj runs ▸ landed.deviceInitialize _ _ away
    | root | hub => cases away
  | initializeComplete device =>
    cases device with
    | port hub port => exact landed.initializeComplete away runs
    | root | hub => cases away
  | hubConfigureComplete hub => exact Option.some.inj runs ▸ landed.hubConfigureComplete away _
  | enumeratePortsComplete hub => exact landed.enumeratePortsComplete away runs
  | driverConfigureComplete device =>
    cases device with
    | port hub port => exact landed.driverConfigureComplete away runs
    | root | hub => cases away

end Inner

end ComputerSystems.Verified
