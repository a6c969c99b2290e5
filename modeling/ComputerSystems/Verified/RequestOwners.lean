import ComputerSystems.Usb.Hub
import ComputerSystems.Data.Run

/-! # Who owns a request buffer

`NewRequest` gives a request buffer to the driver, which lends it to the controller
while the request is in flight and gives it back by `FreeRequest`.  `owned` follows a
buffer through a log and stops at a `FreeRequest` by someone who does not own it.

`initialize_complete` of a device hands its request to another routine and then frees
it.  The root port frees it as well, and so does a hub that goes on to a further port
before it returns; between the two the buffer may have been given to a new request.
-/

namespace ComputerSystems.Verified

open ComputerSystems.Usb ComputerSystems.System ComputerSystems.Data

variable {bus mid next : Bus} {urb : Fin maxUsbRequests} {hub : Nat} {answers : Answers}

/-! ## Ownership -/

inductive Owner where
  | nobody
  | driver
  | controller
deriving DecidableEq

/-- The owner of the request after an action. -/
def transfer (urb : Fin maxUsbRequests) (owner : Owner) : BusAction → Option Owner
  | .newRequest other => some (if other = urb then .driver else owner)
  | .submitted other _ => some (if other = urb then .controller else owner)
  | .completed other => some (if other = urb then .driver else owner)
  | .freeRequest other =>
    if other = urb then
      if owner = .driver then some .nobody else none
    else some owner
  | _ => some owner

/-- The owner of the request after a log, if only its owner has freed it. -/
def owned (urb : Fin maxUsbRequests) (log : List BusAction) : Option Owner :=
  log.foldlM (transfer urb) .nobody

/-- No request was freed twice, and none while it was in flight. -/
def OneOwner (log : List BusAction) : Prop := ∀ urb, (owned urb log).isSome

instance (log : List BusAction) : Decidable (OneOwner log) :=
  inferInstanceAs (Decidable (∀ urb, (owned urb log).isSome))

theorem owned_append (urb : Fin maxUsbRequests) (log actions : List BusAction) :
    owned urb (log ++ actions) = (owned urb log).bind fun owner => actions.foldlM (transfer urb) owner :=
  List.foldlM_append

/-- Whom the table and the controller say that a request belongs to. -/
def ownerOf (bus : Bus) (urb : Fin maxUsbRequests) : Owner :=
  if bus.flight urb then .controller
  else if (bus.requests urb).free then .nobody
  else .driver

def Ledger (bus : Bus) : Prop := ∀ urb, owned urb bus.log = some (ownerOf bus urb)

theorem Ledger.oneOwner (ledger : Ledger bus) : OneOwner bus.log := by
  intro urb
  rw [ledger urb]
  rfl

/-! ## What leaves the requests alone -/

/-- Actions that are about no request. -/
def quiet : BusAction → Bool
  | .newRequest _ | .freeRequest _ | .submitted _ _ | .completed _ => false
  | _ => true

structure Quiet (bus next : Bus) : Prop where
  requests : next.requests = bus.requests
  callbacks : next.callbacks = bus.callbacks
  flight : next.flight = bus.flight
  log : ∃ actions, next.log = bus.log ++ actions ∧ ∀ action ∈ actions, quiet action

theorem Quiet.of_eq (requests : next.requests = bus.requests) (callbacks : next.callbacks = bus.callbacks)
    (flight : next.flight = bus.flight) (log : next.log = bus.log) : Quiet bus next :=
  ⟨requests, callbacks, flight, [], by simp [log], by simp⟩

theorem Quiet.refl (bus : Bus) : Quiet bus bus := .of_eq rfl rfl rfl rfl

theorem Quiet.trans (first : Quiet bus mid) (second : Quiet mid next) : Quiet bus next := by
  obtain ⟨before, logged, quietly⟩ := first.log
  obtain ⟨after, logged', quietly'⟩ := second.log
  refine ⟨second.requests.trans first.requests, second.callbacks.trans first.callbacks,
    second.flight.trans first.flight, before ++ after, by rw [logged', logged, List.append_assoc], ?_⟩
  intro action member
  rcases List.mem_append.mp member with member | member
  · exact quietly action member
  · exact quietly' action member

theorem Quiet.note (bus : Bus) {actions : List BusAction} (quietly : ∀ action ∈ actions, quiet action) :
    Quiet bus (bus.note actions) :=
  ⟨rfl, rfl, rfl, actions, rfl, quietly⟩

theorem Quiet.single (bus : Bus) {action : BusAction} (silent : quiet action = true) :
    Quiet bus (bus.note [action]) :=
  .note bus (by simpa using silent)

theorem Quiet.setDevice (bus : Bus) (device : DeviceAt) (value : Device) :
    Quiet bus (bus.setDevice device value) :=
  .of_eq rfl rfl rfl rfl

theorem Quiet.setHub (bus : Bus) (hub : Nat) (value : Hub) : Quiet bus (bus.setHub hub value) :=
  .of_eq rfl rfl rfl rfl

theorem foldlM_quiet {actions : List BusAction} (quietly : ∀ action ∈ actions, quiet action)
    (owner : Owner) : actions.foldlM (transfer urb) owner = some owner := by
  induction actions with
  | nil => rfl
  | cons action actions ih =>
    have first : transfer urb owner action = some owner := by
      have := quietly action (List.mem_cons_self ..)
      cases action <;> first | rfl | simp [quiet] at this
    rw [List.foldlM_cons, first]
    exact ih fun action member => quietly action (List.mem_cons_of_mem _ member)

theorem Quiet.ownerOf (quietly : Quiet bus next) : ownerOf next = ownerOf bus := by
  funext urb
  rw [Verified.ownerOf, Verified.ownerOf, quietly.flight, quietly.requests]

theorem Quiet.owned (quietly : Quiet bus next) : owned urb next.log = owned urb bus.log := by
  obtain ⟨actions, logged, none⟩ := quietly.log
  rw [logged, owned_append]
  cases Verified.owned urb bus.log with
  | none => rfl
  | some owner => exact foldlM_quiet none owner

theorem Quiet.ledger (quietly : Quiet bus next) (ledger : Ledger bus) : Ledger next := by
  intro urb
  rw [quietly.owned, ledger urb, quietly.ownerOf]

/-! ## Freeing and sending -/

theorem not_flying (mine : ownerOf bus urb = .driver) : bus.flight urb = false := by
  cases flies : bus.flight urb with
  | false => rfl
  | true => simp [ownerOf, flies] at mine

theorem Ledger.freeUrb (ledger : Ledger bus) (mine : ownerOf bus urb = .driver) :
    Ledger (bus.freeUrb (some urb)) := by
  intro other
  have logged : (bus.freeUrb (some urb)).log = bus.log ++ [.freeRequest urb] := rfl
  have landed := not_flying mine
  rw [logged, owned_append, ledger other]
  by_cases same : urb = other
  · subst same
    rw [mine]
    simp [transfer, ownerOf, Bus.freeUrb, landed, freeRequest, Request.free]
  · simp [transfer, same, ownerOf, Bus.freeUrb, Function.update_of_ne (Ne.symm same)]

/-- A request that somebody else frees. -/
theorem Ledger.freed_twice (ledger : Ledger bus) (other : ownerOf bus urb ≠ .driver) :
    ¬ OneOwner (bus.freeUrb (some urb)).log := by
  intro one
  have logged : (bus.freeUrb (some urb)).log = bus.log ++ [.freeRequest urb] := rfl
  have kept := one urb
  rw [logged, owned_append, ledger urb] at kept
  simp [transfer, other] at kept

theorem ownerOf_freeUrb (landed : bus.flight urb = false) :
    ownerOf (bus.freeUrb (some urb)) urb = .nobody := by
  simp [ownerOf, Bus.freeUrb, landed, freeRequest, Request.free]

theorem ownerOf_landed (landed : bus.flight urb = false) (claimed : (bus.requests urb).free = false) :
    ownerOf bus urb = .driver := by
  simp [ownerOf, landed, claimed]

/-- What `next` has done with the requests of `bus`: nothing, or sent one of them. -/
inductive Sends (allowed : Callback → Prop) (bus next : Bus) : Prop where
  | quiet (quietly : Quiet bus next)
  | sent (mid : Bus) (urb : Fin maxUsbRequests) (device : DeviceAt) (setup : SetupData)
      (buffer : Option Address) (callback : Callback) (before : Quiet bus mid)
      (found : findRequest mid.requests = some urb) (allows : allowed callback)
      (after : Quiet (mid.submit urb device setup buffer callback) next)

theorem Ledger.submit (ledger : Ledger bus) (urb : Fin maxUsbRequests) (device : DeviceAt)
    (setup : SetupData) (buffer : Option Address) (callback : Callback) :
    Ledger (bus.submit urb device setup buffer callback) := by
  intro other
  have logged : (bus.submit urb device setup buffer callback).log =
      bus.log ++ [.newRequest urb, .submitted urb setup] := rfl
  rw [logged, owned_append, ledger other]
  by_cases same : urb = other
  · subst same
    simp [transfer, ownerOf, Bus.submit]
  · simp [transfer, same, ownerOf, Bus.submit, Function.update_of_ne (Ne.symm same)]

variable {allowed : Callback → Prop}

theorem Sends.before (sends : Sends allowed mid next) (quietly : Quiet bus mid) : Sends allowed bus next := by
  cases sends with
  | quiet quietly' => exact .quiet (quietly.trans quietly')
  | sent mid' urb device setup buffer callback before found allows after =>
    exact .sent mid' urb device setup buffer callback (quietly.trans before) found allows after

theorem Sends.after (sends : Sends allowed bus mid) (quietly : Quiet mid next) : Sends allowed bus next := by
  cases sends with
  | quiet quietly' => exact .quiet (quietly'.trans quietly)
  | sent mid' urb device setup buffer callback before found allows after =>
    exact .sent mid' urb device setup buffer callback before found allows (after.trans quietly)

theorem Sends.mono {wider : Callback → Prop} (sends : Sends allowed bus next)
    (allows : ∀ callback, allowed callback → wider callback) : Sends wider bus next := by
  cases sends with
  | quiet quietly => exact .quiet quietly
  | sent mid urb device setup buffer callback before found allows' after =>
    exact .sent mid urb device setup buffer callback before found (allows callback allows') after

theorem hostEndpointControlMessage_sends (device : DeviceAt) (setup : SetupData)
    (buffer : Option Address) {callback : Callback} (bus : Bus) (allows : allowed callback) :
    Sends allowed bus (Bus.hostEndpointControlMessage device setup buffer callback bus).2 := by
  cases found : findRequest bus.requests with
  | none =>
    rw [Bus.hostEndpointControlMessage, found]
    exact .quiet (.note bus (by simp [quiet]))
  | some urb =>
    rw [Bus.hostEndpointControlMessage, found]
    exact .sent bus urb device setup buffer callback (.refl bus) found allows (.refl _)

theorem send_sends (device : DeviceAt) (setup : SetupData) (buffer : Option Address)
    {callback : Callback} {sent failed : Bus → Bus} (bus : Bus) (allows : allowed callback)
    (quietSent : ∀ bus, Quiet bus (sent bus)) (quietFailed : ∀ bus, Quiet bus (failed bus)) :
    Sends allowed bus (bus.send device setup buffer callback sent failed) := by
  have sends := hostEndpointControlMessage_sends device setup buffer bus allows
  rw [Bus.send]
  cases one : Bus.hostEndpointControlMessage device setup buffer callback bus with
  | mk succeeds mid =>
    rw [one] at sends
    cases succeeds with
    | true => exact sends.after (quietSent mid)
    | false => exact sends.after (quietFailed mid)

theorem Sends.ledger (sends : Sends allowed bus next) (ledger : Ledger bus) : Ledger next := by
  cases sends with
  | quiet quietly => exact quietly.ledger ledger
  | sent mid urb device setup buffer callback before found allows after =>
    exact after.ledger ((before.ledger ledger).submit urb device setup buffer callback)

/-- `NewRequest` does not find a request that is owned. -/
theorem Sends.keeps (sends : Sends allowed bus next) (mine : ownerOf bus urb = .driver) :
    ownerOf next urb = .driver := by
  cases sends with
  | quiet quietly =>
    rw [quietly.ownerOf]
    exact mine
  | sent mid slot device setup buffer callback before found allows after =>
    rw [← before.ownerOf] at mine
    have free : (mid.requests slot).free = true := by simpa using List.find?_some found
    have other : urb ≠ slot := by
      rintro rfl
      simp [ownerOf, not_flying mine, free] at mine
    rw [after.ownerOf]
    rw [ownerOf] at mine ⊢
    simpa [Bus.submit, Function.update_of_ne other] using mine

/-- A request that has been freed is nobody's, or in flight again. -/
theorem Sends.not_driver (sends : Sends allowed bus next) (gone : ownerOf bus urb = .nobody) :
    ownerOf next urb ≠ .driver := by
  cases sends with
  | quiet quietly =>
    rw [quietly.ownerOf, gone]
    decide
  | sent mid slot device setup buffer callback before found allows after =>
    rw [← before.ownerOf] at gone
    rw [after.ownerOf]
    by_cases same : urb = slot
    · subst same
      simp [ownerOf, Bus.submit]
    · rw [ownerOf] at gone ⊢
      simp [Bus.submit, Function.update_of_ne same, gone]

/-! ## The invariant -/

/-- The hub waits for the initialisation of a device at one of its ports. -/
structure AwaitsDevice (hub : Hub) : Prop where
  ports : hub.ports ≤ hub.initState
  step : (hub.initState - hub.ports) % 4 = 0
  last : hub.initState ≤ 5 * hub.ports

/-- What holds while a request with this routine is in flight. -/
def Fits (bus : Bus) : Callback → Prop
  | .deviceInitialize device | .initializeComplete device =>
    ∀ hub, (bus.devices device).complete = some (.enumeratePortsComplete hub) →
      hub < bus.hubIndex ∧ AwaitsDevice (bus.hubs hub)
  | .hubConfigureComplete hub | .enumeratePortsComplete hub => hub < bus.hubIndex
  | .driverConfigureComplete (.port hub _) => hub < bus.hubIndex
  | .driverConfigureComplete _ => True

/-- At most one request is in flight. -/
structure Flies (bus : Bus) : Prop where
  claimed : ∀ urb, bus.flight urb = true → (bus.requests urb).free = false
  single : ∀ first second, bus.flight first = true → bus.flight second = true → first = second
  fits : ∀ urb, bus.flight urb = true → ∀ callback, bus.callbacks urb = some callback → Fits bus callback

structure BusInv (bus : Bus) : Prop extends Flies bus where
  ledger : Ledger bus

/-- No request is in flight. -/
def Landed (bus : Bus) : Prop := ∀ urb, bus.flight urb = false

theorem Sends.flies (sends : Sends (Fits next) bus next) (landed : Landed bus) : Flies next := by
  cases sends with
  | quiet quietly =>
    have none : ∀ urb, next.flight urb ≠ true := by
      intro urb
      rw [quietly.flight, landed urb]
      decide
    constructor
    · intro urb flies
      exact absurd flies (none urb)
    · intro first second flies
      exact absurd flies (none first)
    · intro urb flies
      exact absurd flies (none urb)
  | sent mid slot device setup buffer callback before found allows after =>
    have only : ∀ urb, next.flight urb = true → urb = slot := by
      intro urb flies
      by_contra other
      rw [after.flight] at flies
      simp [Bus.submit, Function.update_of_ne other, before.flight, landed urb] at flies
    constructor
    · intro urb flies
      obtain rfl := only urb flies
      rw [after.requests]
      simp [Bus.submit, requestAttach, Request.free]
    · intro first second flies flies'
      exact (only first flies).trans (only second flies').symm
    · intro urb flies callback' registered
      obtain rfl := only urb flies
      rw [after.callbacks] at registered
      obtain rfl : callback = callback' := by simpa [Bus.submit] using registered
      exact allows

theorem Sends.inv (sends : Sends (Fits next) bus next) (landed : Landed bus) (ledger : Ledger bus) :
    BusInv next :=
  ⟨sends.flies landed, sends.ledger ledger⟩

/-! ## Devices -/

theorem freeUrb_hubs (urb : Option (Fin maxUsbRequests)) (bus : Bus) : (bus.freeUrb urb).hubs = bus.hubs := by
  cases urb <;> rfl

theorem freeUrb_devices (urb : Option (Fin maxUsbRequests)) (bus : Bus) :
    (bus.freeUrb urb).devices = bus.devices := by
  cases urb <;> rfl

theorem freeUrb_flight (urb : Option (Fin maxUsbRequests)) (bus : Bus) :
    (bus.freeUrb urb).flight = bus.flight := by
  cases urb <;> rfl

theorem deviceAttach_quiet (device : DeviceAt) (speed : Speed) (hubAddress hubPortNumber : Nat) (bus : Bus) :
    Quiet bus (deviceAttach device speed hubAddress hubPortNumber bus) := by
  exact (Quiet.setDevice bus device _).trans (.single _ rfl)

/-- What the initialisation of a device does between two requests. -/
structure Tends (device : DeviceAt) (bus next : Bus) : Prop extends Quiet bus next where
  hubs : next.hubs = bus.hubs
  hubIndex : next.hubIndex = bus.hubIndex
  complete : (next.devices device).complete = (bus.devices device).complete

variable {device : DeviceAt}

theorem Tends.trans (first : Tends device bus mid) (second : Tends device mid next) : Tends device bus next :=
  ⟨first.toQuiet.trans second.toQuiet, second.hubs.trans first.hubs,
    second.hubIndex.trans first.hubIndex, second.complete.trans first.complete⟩

theorem Tends.note (bus : Bus) {actions : List BusAction} (quietly : ∀ action ∈ actions, quiet action) :
    Tends device bus (bus.note actions) :=
  ⟨.note bus quietly, rfl, rfl, rfl⟩

theorem Tends.setDevice (bus : Bus) {value : Device} (keeps : value.complete = (bus.devices device).complete) :
    Tends device bus (bus.setDevice device value) :=
  ⟨.of_eq rfl rfl rfl rfl, rfl, rfl, by simpa [Bus.setDevice] using keeps⟩

/-- The device that is being initialised, and the routines of its requests. -/
structure Tended (device : DeviceAt) (bus next : Bus) : Prop where
  sends : Sends (fun callback => callback = .deviceInitialize device ∨ callback = .initializeComplete device)
    bus next
  hubs : next.hubs = bus.hubs
  hubIndex : next.hubIndex = bus.hubIndex
  complete : (next.devices device).complete = (bus.devices device).complete

theorem Tends.tended (tends : Tends device bus next) : Tended device bus next :=
  ⟨.quiet tends.toQuiet, tends.hubs, tends.hubIndex, tends.complete⟩

theorem Tended.before (tended : Tended device mid next) (tends : Tends device bus mid) :
    Tended device bus next :=
  ⟨tended.sends.before tends.toQuiet, tended.hubs.trans tends.hubs,
    tended.hubIndex.trans tends.hubIndex, tended.complete.trans tends.complete⟩

theorem send_tended (setup : SetupData) (buffer : Option Address) {callback : Callback}
    {sent failed : Bus → Bus} (bus : Bus)
    (allows : callback = .deviceInitialize device ∨ callback = .initializeComplete device)
    (afterSent : ∀ bus, Tends device bus (sent bus)) (afterFailed : ∀ bus, Tends device bus (failed bus)) :
    Tended device bus (bus.send device setup buffer callback sent failed) := by
  rw [Bus.send, Bus.hostEndpointControlMessage]
  cases found : findRequest bus.requests with
  | none => exact ((Tends.note bus (by simp [quiet])).trans (afterFailed _)).tended
  | some urb =>
    have tends := afterSent (bus.submit urb device setup buffer callback)
    exact ⟨.sent bus urb device setup buffer callback (.refl bus) found allows tends.toQuiet,
      tends.hubs, tends.hubIndex, tends.complete⟩

theorem deviceInitialize_tended (urb : Option (Fin maxUsbRequests)) (device : DeviceAt) (answers : Answers)
    (bus : Bus) : Tended device (bus.freeUrb urb) (deviceInitialize urb device answers bus) := by
  have fails (action : BusAction) (silent : quiet action = true) (mid : Bus) :
      Tends device mid (mid.note [action]) :=
    .note mid (by simpa using silent)
  rw [deviceInitialize]
  -- In every state one message is sent, or the initialisation fails without one.
  cases ((bus.freeUrb urb).devices device).state with
  | getDescriptorLength =>
    refine .before (send_tended _ _ _ (.inl rfl) ?_ ?_) (.setDevice _ rfl)
    · intro mid
      exact .setDevice mid rfl
    · intro mid
      exact (fails _ rfl mid).trans (.setDevice _ rfl)
  | getDescriptor =>
    dsimp only
    split
    · refine send_tended _ _ _ (.inl rfl) ?_ ?_
      · intro mid
        exact .setDevice mid rfl
      · intro mid
        exact (fails _ rfl mid).trans (.setDevice _ rfl)
    · exact Tends.tended (Tends.trans (fails _ rfl _) (.setDevice _ rfl))
  | setEndpointAddress =>
    dsimp only
    split
    · exact Tends.tended (Tends.trans (fails _ rfl _) (.setDevice _ rfl))
    · refine send_tended _ _ _ (.inl rfl) ?_ ?_
      · intro mid
        exact .setDevice mid rfl
      · intro mid
        exact (fails _ rfl mid).trans (.setDevice _ rfl)
  | getConfigurationLength =>
    refine .before (send_tended _ _ _ (.inl rfl) ?_ ?_) ⟨.of_eq rfl rfl rfl rfl, rfl, rfl, ?_⟩
    · intro mid
      exact .setDevice mid rfl
    · intro mid
      exact (fails _ rfl mid).trans (.setDevice _ rfl)
    · simp [Bus.setDevice]
  | getConfiguration =>
    dsimp only
    split
    · refine send_tended _ _ _ (.inr rfl) ?_ ?_
      · intro mid
        exact .setDevice mid rfl
      · intro mid
        exact (fails _ rfl mid).trans (.setDevice _ rfl)
    · exact Tends.tended (Tends.trans (fails _ rfl _) (.setDevice _ rfl))

/-! ## Hubs -/

theorem deviceConfigure_sends (device : DeviceAt) (configurationValue : UInt8) {callback : Callback}
    (bus : Bus) (allows : allowed callback) :
    Sends allowed bus (deviceConfigure device configurationValue callback bus).2 := by
  have sends := hostEndpointControlMessage_sends device (setConfigurationMessage configurationValue) none
    bus allows
  rw [deviceConfigure]
  cases one : Bus.hostEndpointControlMessage device (setConfigurationMessage configurationValue) none callback bus with
  | mk succeeds mid =>
    rw [one] at sends
    cases succeeds with
    | true => exact sends
    | false => exact sends.after (.note mid (by simp [quiet]))

/-- The routine with which a specific device is configured. -/
def configureCallback (device : DeviceAt) : Child → Callback
  | .hub hub => .hubConfigureComplete hub
  | .driver => .driverConfigureComplete device

theorem configure_sends (device : DeviceAt) (child : Child) (found : Found) (bus : Bus)
    (allows : allowed (configureCallback device child)) :
    Sends allowed bus (configure device child found bus).2 := by
  cases child with
  | hub hub =>
    rw [configure, hubConfigure]
    cases found.refuses with
    | some text => exact .quiet (.note bus (by simp [quiet]))
    | none => exact .before (deviceConfigure_sends _ _ _ allows) (.of_eq rfl rfl rfl rfl)
  | driver =>
    rw [configure, driverConfigure]
    cases found.refuses with
    | some text => exact .quiet (.note bus (by simp [quiet]))
    | none => exact deviceConfigure_sends _ _ _ allows

/-- `configure` fails for the descriptors, and when there is no request. -/
theorem configure_succeeds (device : DeviceAt) (child : Child) (found : Found) (bus : Bus) :
    (configure device child found bus).1 = (found.refuses.isNone && (findRequest bus.requests).isSome) := by
  cases child with
  | hub hub =>
    rw [configure, hubConfigure]
    cases found.refuses with
    | some text => rfl
    | none =>
      cases slot : findRequest bus.requests <;>
        simp [deviceConfigure, Bus.hostEndpointControlMessage, Bus.setHub, slot]
  | driver =>
    rw [configure, driverConfigure]
    cases found.refuses with
    | some text => rfl
    | none =>
      cases slot : findRequest bus.requests <;>
        simp [deviceConfigure, Bus.hostEndpointControlMessage, slot]

theorem deviceConfigure_fails {configurationValue : UInt8} {callback : Callback}
    (fails : deviceConfigure device configurationValue callback bus = (false, next)) : Quiet bus next := by
  rw [deviceConfigure, Bus.hostEndpointControlMessage] at fails
  cases slot : findRequest bus.requests with
  | none =>
    obtain rfl : _ = next := by simpa [slot] using fails
    exact (Quiet.note bus (by simp [quiet])).trans (.note _ (by simp [quiet]))
  | some urb => simp [slot] at fails

/-- A request is sent only if `configure` succeeds. -/
theorem configure_fails {child : Child} {found : Found}
    (fails : configure device child found bus = (false, next)) : Quiet bus next := by
  cases child with
  | hub hub =>
    rw [configure, hubConfigure] at fails
    cases refuses : found.refuses with
    | some text =>
      obtain rfl : _ = next := by simpa [refuses] using fails
      exact .note bus (by simp [quiet])
    | none =>
      rw [refuses] at fails
      refine Quiet.trans ?_ (deviceConfigure_fails fails)
      exact .of_eq rfl rfl rfl rfl
  | driver =>
    rw [configure, driverConfigure] at fails
    cases refuses : found.refuses with
    | some text =>
      obtain rfl : _ = next := by simpa [refuses] using fails
      exact .note bus (by simp [quiet])
    | none =>
      rw [refuses] at fails
      exact deviceConfigure_fails fails

/-- What `configure` leaves alone. -/
theorem configure_same (device : DeviceAt) (child : Child) (found : Found) (bus : Bus) :
    (configure device child found bus).2.hubIndex = bus.hubIndex ∧
      ∀ hub, child ≠ .hub hub → (configure device child found bus).2.hubs hub = bus.hubs hub := by
  cases child with
  | hub index =>
    rw [configure, hubConfigure]
    cases found.refuses with
    | some text => exact ⟨rfl, fun _ _ => rfl⟩
    | none =>
      cases slot : findRequest bus.requests <;>
        simp +contextual [deviceConfigure, Bus.hostEndpointControlMessage, Bus.setHub, Bus.submit, Bus.note, slot,
          eq_comm]
  | driver =>
    rw [configure, driverConfigure]
    cases found.refuses with
    | some text => exact ⟨rfl, fun _ _ => rfl⟩
    | none =>
      cases slot : findRequest bus.requests <;>
        simp [deviceConfigure, Bus.hostEndpointControlMessage, Bus.submit, Bus.note, slot]

/-- What `DeviceCreate` leaves alone: the requests, and the hubs that exist. -/
structure Creates (bus next : Bus) (child : Option Child) : Prop extends Quiet bus next where
  hubs : ∀ hub < bus.hubIndex, next.hubs hub = bus.hubs hub
  hubIndex : bus.hubIndex ≤ next.hubIndex
  fresh : ∀ hub, child = some (.hub hub) → bus.hubIndex ≤ hub ∧ hub < next.hubIndex

theorem Creates.note (bus : Bus) {actions : List BusAction} (quietly : ∀ action ∈ actions, quiet action)
    {child : Option Child} (none : ∀ hub, child ≠ some (.hub hub)) : Creates bus (bus.note actions) child :=
  ⟨.note bus quietly, fun _ _ => rfl, le_rfl, fun hub same => absurd same (none hub)⟩

theorem Creates.before {child : Option Child} (creates : Creates mid next child) (quietly : Quiet bus mid)
    (hubs : mid.hubs = bus.hubs) (hubIndex : mid.hubIndex = bus.hubIndex) : Creates bus next child := by
  refine ⟨quietly.trans creates.toQuiet, ?_, hubIndex ▸ creates.hubIndex, hubIndex ▸ creates.fresh⟩
  intro hub inside
  rw [creates.hubs hub (hubIndex ▸ inside), hubs]

theorem hubAttach_creates {index : Option Nat} (attaches : hubAttach device bus = some (index, next)) :
    Creates bus next (index.map .hub) := by
  rw [hubAttach] at attaches
  split at attaches
  · obtain ⟨rfl, rfl⟩ := Prod.mk.inj (Option.some.inj attaches)
    exact .note bus (by simp [quiet]) (by simp)
  · split at attaches
    · contradiction
    · obtain ⟨rfl, rfl⟩ := Prod.mk.inj (Option.some.inj attaches)
      refine ⟨.of_eq rfl rfl rfl rfl, ?_, Nat.le_succ _, ?_⟩
      · intro hub inside
        simp [Bus.setHub, Function.update_of_ne (Nat.ne_of_lt inside)]
      · intro hub same
        obtain rfl : bus.hubIndex = hub := by simpa using same
        exact ⟨le_rfl, Nat.lt_succ_self _⟩

theorem deviceCreate_creates {again : Bool} {child : Option Child}
    (creates : deviceCreate device again answers bus = some (child, next)) : Creates bus next child := by
  have logged : Quiet bus (bus.note [.deviceCreate device]) := .note bus (by simp [quiet])
  rw [deviceCreate] at creates
  cases driver : newDevice (answers.found device again).identity with
  | none =>
    rw [driver] at creates
    obtain ⟨rfl, rfl⟩ := Prod.mk.inj (Option.some.inj creates)
    exact (Creates.note _ (by simp [quiet]) (by simp)).before logged rfl rfl
  | some found =>
    rw [driver] at creates
    cases found with
    | hub =>
      dsimp only at creates
      cases attaches : hubAttach device ((bus.note [.deviceCreate device]).note [.puts (DeviceDriver.text .hub)]) with
      | none => simp [attaches] at creates
      | some result =>
        have noted : Quiet bus ((bus.note [.deviceCreate device]).note [.puts (DeviceDriver.text .hub)]) :=
          logged.trans (.note _ (by simp [quiet]))
        obtain ⟨index, mid⟩ := result
        have attached := (hubAttach_creates attaches).before noted rfl rfl
        cases index with
        | none =>
          obtain ⟨rfl, rfl⟩ : none = child ∧ _ = next := by simpa [attaches] using creates
          exact ⟨attached.toQuiet.trans (.note _ (by simp [quiet])), attached.hubs, attached.hubIndex, by simp⟩
        | some index =>
          obtain ⟨rfl, rfl⟩ : some (.hub index) = child ∧ mid = next := by simpa [attaches] using creates
          exact attached
    | keyboard | mouse | massStorage | lan =>
      obtain ⟨rfl, rfl⟩ := Prod.mk.inj (Option.some.inj creates)
      exact (Creates.note _ (by simp [quiet]) (by simp)).before logged rfl rfl

/-! ## One pass of the enumeration -/

/-- The pass frees the request that it is given. -/
def Releases (hub : Hub) : Prop := hub.initState < hub.ports ∨ (hub.initState - hub.ports) % 4 ≠ 0

instance (hub : Hub) : Decidable (Releases hub) :=
  inferInstanceAs (Decidable (hub.initState < hub.ports ∨ (hub.initState - hub.ports) % 4 ≠ 0))

/-- The bus after that. -/
def released (hub : Nat) (urb : Option (Fin maxUsbRequests)) (bus : Bus) : Bus :=
  if Releases (bus.hubs hub) then bus.freeUrb urb else bus

theorem released_hubs (hub : Nat) (urb : Option (Fin maxUsbRequests)) (bus : Bus) :
    (released hub urb bus).hubs = bus.hubs ∧ (released hub urb bus).hubIndex = bus.hubIndex := by
  rw [released]
  split
  · cases urb <;> exact ⟨rfl, rfl⟩
  · exact ⟨rfl, rfl⟩

theorem enumerateSend_sends (hub : Nat) (setup : SetupData) (buffer : Option Address) {failure : BusAction}
    (silent : quiet failure = true) (bus : Bus) (inside : hub < bus.hubIndex) :
    Sends (Fits (enumerateSend hub setup buffer failure bus)) bus
      (enumerateSend hub setup buffer failure bus) := by
  have index : (enumerateSend hub setup buffer failure bus).hubIndex = bus.hubIndex := by
    rw [enumerateSend, Bus.send, Bus.hostEndpointControlMessage]
    cases findRequest bus.requests <;> rfl
  refine send_sends _ _ _ _ (by rw [Fits, index]; exact inside) ?_ ?_
  · intro mid
    exact .of_eq rfl rfl rfl rfl
  · intro mid
    exact (Quiet.note mid (by simpa using silent)).trans (.of_eq rfl rfl rfl rfl)

/-- The enumeration goes on to the next state. -/
structure GoesOn (hub : Nat) (bus next : Bus) : Prop extends Quiet bus next where
  ports : (next.hubs hub).ports = (bus.hubs hub).ports
  initState : (next.hubs hub).initState = (bus.hubs hub).initState + 1
  hubIndex : bus.hubIndex ≤ next.hubIndex

theorem GoesOn.advance (hub : Nat) (quietly : Quiet bus next)
    (ports : (next.hubs hub).ports = (bus.hubs hub).ports)
    (initState : (next.hubs hub).initState = (bus.hubs hub).initState)
    (hubIndex : bus.hubIndex ≤ next.hubIndex) : GoesOn hub bus (next.advance hub) := by
  refine ⟨quietly.trans (.of_eq rfl rfl rfl rfl), ?_, ?_, hubIndex⟩
  · simpa [Bus.advance, Bus.setInitState, Bus.setHub] using ports
  · simpa [Bus.advance, Bus.setInitState, Bus.setHub] using initState

/-- What a pass does to the requests, once the one that it was given is settled. -/
def Passing (hub : Nat) (urb : Option (Fin maxUsbRequests)) (bus : Bus) :
    Pass Enumerating (Option Bus) → Prop
  | .again (kept, next) => kept = urb ∧ GoesOn hub bus next
  | .leave (some next) => Sends (Fits next) bus next
  | .leave none => True

theorem enumerateDevice_passing (port : Nat) (kept : Option (Fin maxUsbRequests)) (inside : hub < bus.hubIndex)
    (behind : (bus.hubs hub).ports ≤ (bus.hubs hub).initState)
    (step : ((bus.hubs hub).initState - (bus.hubs hub).ports) % 4 = 3)
    (within : ((bus.hubs hub).initState - (bus.hubs hub).ports) / 4 < (bus.hubs hub).ports) :
    Passing hub kept bus (enumerateDevice answers hub port kept bus) := by
  rw [enumerateDevice]
  dsimp only
  split
  · exact ⟨rfl, .advance hub (.note bus (by simp [quiet])) rfl rfl le_rfl⟩
  · split
    · exact ⟨rfl, .advance hub (.note bus (by simp [quiet])) rfl rfl le_rfl⟩
    · -- the device is attached, and its initialisation sends the next request
      generalize attaches : Bus.setDevice (.port hub port) _ _ = attached
      have quietly : Quiet bus attached := by
        rw [← attaches]
        exact (((Quiet.setHub bus hub _).trans (.single _ rfl)).trans (deviceAttach_quiet _ _ _ _ _)).trans
          (.setDevice _ _ _)
      have complete : (attached.devices (.port hub port)).complete = some (.enumeratePortsComplete hub) := by
        simp [← attaches, Bus.setDevice]
      have sameHub : (attached.hubs hub).ports = (bus.hubs hub).ports ∧
          (attached.hubs hub).initState = (bus.hubs hub).initState ∧
          attached.hubIndex = bus.hubIndex := by
        simp [← attaches, Bus.setDevice, deviceAttach, Bus.note, Bus.setPort, Bus.setHub]
      have tended := deviceInitialize_tended none (.port hub port) answers attached
      generalize deviceInitialize none (.port hub port) answers attached = initialized at tended
      refine .before (.after (tended.sends.mono ?_) (.of_eq rfl rfl rfl rfl)) quietly
      have waits : AwaitsDevice ((initialized.advance hub).hubs hub) := by
        have hubs : initialized.hubs = attached.hubs := tended.hubs
        constructor <;>
          simp only [Bus.advance, Bus.setInitState, Bus.setHub, Function.update_self, hubs, sameHub.1,
            sameHub.2.1] <;> omega
      have fits : ∀ hub', (initialized.devices (.port hub port)).complete = some (.enumeratePortsComplete hub') →
          hub' < initialized.hubIndex ∧ AwaitsDevice ((initialized.advance hub).hubs hub') := by
        intro hub' registered
        have same : (initialized.devices (.port hub port)).complete = some (.enumeratePortsComplete hub) :=
          tended.complete.trans complete
        obtain rfl : hub = hub' := by simpa [same] using registered
        have index : initialized.hubIndex = attached.hubIndex := tended.hubIndex
        exact ⟨by omega, waits⟩
      rintro callback (rfl | rfl)
      · exact fits
      · exact fits

theorem configurePort_passing (port : Nat) (kept : Option (Fin maxUsbRequests)) (inside : hub < bus.hubIndex) :
    Passing hub kept bus (configurePort answers hub port kept bus) := by
  rw [configurePort]
  cases (bus.hubs hub).devices port with
  | none => exact ⟨rfl, .advance hub (.refl bus) rfl rfl le_rfl⟩
  | some device =>
    dsimp only
    cases creates : deviceCreate (.port hub port) (device == .specific) answers bus with
    | none => trivial
    | some result =>
      obtain ⟨child, created⟩ := result
      have creates := deviceCreate_creates creates
      have sameHub := creates.hubs hub inside
      cases child with
      | none =>
        refine ⟨rfl, .advance hub (creates.toQuiet.trans ((Quiet.note created (by simp [quiet])).trans
          (.of_eq rfl rfl rfl rfl))) ?_ ?_ creates.hubIndex⟩ <;>
        simp [Bus.setPort, Bus.setHub, deviceRelease, Bus.setDevice, Bus.note, sameHub]
      | some child =>
        dsimp only
        generalize placed : Bus.setPort hub port (some .specific) (deviceRelease (.port hub port) created) = ready
        have quietly : Quiet bus ready := creates.toQuiet.trans (placed ▸ .of_eq rfl rfl rfl rfl)
        have sameReady : (ready.hubs hub).ports = (bus.hubs hub).ports ∧
            (ready.hubs hub).initState = (bus.hubs hub).initState ∧ ready.hubIndex = created.hubIndex := by
          simp [← placed, Bus.setPort, Bus.setHub, deviceRelease, Bus.setDevice, sameHub]
        obtain ⟨sameIndex, sameHubs⟩ := configure_same (.port hub port) child
          (answers.found (.port hub port) (device == .specific)) ready
        -- a hub that is created takes a new place in the table, so it is not the one being enumerated
        have other : child ≠ .hub hub := by
          rintro rfl
          have := (creates.fresh hub rfl).1
          omega
        cases configures : configure (.port hub port) child
            (answers.found (.port hub port) (device == .specific)) ready with
        | mk succeeds configured =>
          rw [configures] at sameIndex sameHubs
          have allowed : Fits (configured.advance hub) (configureCallback (.port hub port) child) := by
            have index : (configured.advance hub).hubIndex = created.hubIndex :=
              sameIndex.trans sameReady.2.2
            cases child with
            | driver =>
              have := creates.hubIndex
              exact show hub < (configured.advance hub).hubIndex by omega
            | hub fresh =>
              have := (creates.fresh fresh rfl).2
              exact show fresh < (configured.advance hub).hubIndex by omega
          cases succeeds with
          | true =>
            have sends := configure_sends (.port hub port) child
              (answers.found (.port hub port) (device == .specific)) ready allowed
            rw [configures] at sends
            exact .before (.after sends (.of_eq rfl rfl rfl rfl)) quietly
          | false =>
            have same : configured.hubs hub = ready.hubs hub := sameHubs hub other
            have index : configured.hubIndex = ready.hubIndex := sameIndex
            have := creates.hubIndex
            refine ⟨rfl, .advance hub (quietly.trans ((configure_fails configures).trans
              (.note configured (by simp [quiet])))) ?_ ?_ ?_⟩
            · simp [Bus.note, same, sameReady.1]
            · simp [Bus.note, same, sameReady.2.1]
            · exact show bus.hubIndex ≤ configured.hubIndex by omega

theorem enumeratePass_passing (urb : Option (Fin maxUsbRequests)) (inside : hub < bus.hubIndex) :
    Passing hub (if Releases (bus.hubs hub) then none else urb) (released hub urb bus)
      (enumeratePass answers hub (urb, bus)) := by
  obtain ⟨sameHubs, sameIndex⟩ := released_hubs hub urb bus
  -- The pass frees its request first, but for the first message about a port.
  have inside' : hub < (released hub urb bus).hubIndex := sameIndex ▸ inside
  rw [enumeratePass]
  dsimp only
  by_cases powering : (bus.hubs hub).initState < (bus.hubs hub).ports
  · have freed : bus.freeUrb urb = released hub urb bus := (if_pos (.inl powering)).symm
    rw [if_pos powering, freed]
    exact enumerateSend_sends hub _ _ rfl _ inside'
  · have settled : (if ((bus.hubs hub).initState - (bus.hubs hub).ports) % 4 = 0 then bus
        else bus.freeUrb urb) = released hub urb bus := by
      by_cases first : ((bus.hubs hub).initState - (bus.hubs hub).ports) % 4 = 0
      · rw [released, if_pos first, if_neg (by simp [Releases, first, powering])]
      · rw [released, if_neg first, if_pos (.inr first)]
    have kept : (if ((bus.hubs hub).initState - (bus.hubs hub).ports) % 4 = 0 then urb else none) =
        if Releases (bus.hubs hub) then none else urb := by
      by_cases first : ((bus.hubs hub).initState - (bus.hubs hub).ports) % 4 = 0
      · rw [if_pos first, if_neg (by simp [Releases, first, powering])]
      · rw [if_neg first, if_pos (.inr first)]
    rw [if_neg powering, settled, kept]
    generalize (if Releases (bus.hubs hub) then none else urb) = keeps
    split
    next within =>
      have := Nat.mod_lt ((bus.hubs hub).initState - (bus.hubs hub).ports) (show 0 < 4 by decide)
      match step : ((bus.hubs hub).initState - (bus.hubs hub).ports) % 4 with
      | 0 | 1 | 2 => exact enumerateSend_sends hub _ _ rfl _ inside'
      | 3 =>
        refine enumerateDevice_passing _ _ inside' ?_ ?_ ?_ <;> rw [sameHubs]
        · omega
        · exact step
        · exact within
      | more + 4 => omega
    next =>
      split
      · split
        · exact configurePort_passing _ _ inside'
        · refine .quiet (Quiet.trans ?_ (.single _ rfl))
          exact .of_eq rfl rfl rfl rfl
      · exact .quiet (Quiet.trans (.single _ rfl) (.of_eq rfl rfl rfl rfl))

/-! ## The enumeration -/

theorem released_none (hub : Nat) (bus : Bus) : released hub none bus = bus := by
  rw [released]
  split <;> rfl

/-- The first pass of an enumeration ends it, or the other passes do. -/
theorem enumeratePass_once {fuel : Nat} {urb : Option (Fin maxUsbRequests)} (inside : hub < bus.hubIndex)
    (ends : iterate (enumeratePass answers hub) (fuel + 1) (urb, bus) = some (some next)) :
    (enumeratePass answers hub (urb, bus) = .leave (some next) ∧
      Sends (Fits next) (released hub urb bus) next) ∨
    ∃ onward,
      enumeratePass answers hub (urb, bus) =
        .again (if Releases (bus.hubs hub) then none else urb, onward) ∧
      iterate (enumeratePass answers hub) fuel
        (if Releases (bus.hubs hub) then none else urb, onward) = some (some next) ∧
      GoesOn hub (released hub urb bus) onward ∧ hub < onward.hubIndex := by
  have passing : Passing hub _ _ (enumeratePass answers hub (urb, bus)) := enumeratePass_passing urb inside
  rw [iterate] at ends
  cases one : enumeratePass answers hub (urb, bus) with
  | leave result =>
    rw [one] at ends passing
    obtain rfl : result = some next := Option.some.inj ends
    exact .inl ⟨rfl, passing⟩
  | again state =>
    obtain ⟨kept, onward⟩ := state
    rw [one] at ends passing
    obtain ⟨rfl, goes⟩ := passing
    have index := goes.hubIndex
    rw [(released_hubs hub urb bus).2] at index
    exact .inr ⟨onward, rfl, ends, goes, Nat.lt_of_lt_of_le inside index⟩

/-- Without a request of its own, the enumeration frees none. -/
theorem enumeratePass_none {fuel : Nat} (inside : hub < bus.hubIndex)
    (ends : iterate (enumeratePass answers hub) fuel (none, bus) = some (some next)) :
    Sends (Fits next) bus next := by
  induction fuel generalizing bus with
  | zero => simp [iterate] at ends
  | succ fuel ih =>
    have once := enumeratePass_once inside ends
    rw [released_none, ite_self] at once
    rcases once with ⟨_, sends⟩ | ⟨onward, _, ends, goes, inside'⟩
    · exact sends
    · exact (ih inside' ends).before goes.toQuiet

theorem enumeratePass_releases {fuel : Nat} {urb : Option (Fin maxUsbRequests)} (inside : hub < bus.hubIndex)
    (releases : Releases (bus.hubs hub))
    (ends : iterate (enumeratePass answers hub) (fuel + 1) (urb, bus) = some (some next)) :
    Sends (Fits next) (bus.freeUrb urb) next := by
  have once := enumeratePass_once inside ends
  rw [released, if_pos releases, if_pos releases] at once
  rcases once with ⟨_, sends⟩ | ⟨onward, _, ends, goes, inside'⟩
  · exact sends
  · exact (enumeratePass_none inside' ends).before goes.toQuiet

/-- The request that the enumeration was given is still the caller's, or it has been
    freed on the way. -/
theorem enumeratePass_runs {fuel : Nat} {urb : Option (Fin maxUsbRequests)} (inside : hub < bus.hubIndex)
    (ends : iterate (enumeratePass answers hub) fuel (urb, bus) = some (some next)) :
    Sends (Fits next) bus next ∨ ∃ mid, Quiet bus mid ∧ Sends (Fits next) (mid.freeUrb urb) next := by
  induction fuel generalizing bus with
  | zero => simp [iterate] at ends
  | succ fuel ih =>
    by_cases releases : Releases (bus.hubs hub)
    · exact .inr ⟨bus, .refl bus, enumeratePass_releases inside releases ends⟩
    · have once := enumeratePass_once inside ends
      rw [released, if_neg releases, if_neg releases] at once
      rcases once with ⟨_, sends⟩ | ⟨onward, _, ends, goes, inside'⟩
      · exact .inl sends
      · rcases ih inside' ends with sends | ⟨mid, quietly, sends⟩
        · exact .inl (sends.before goes.toQuiet)
        · exact .inr ⟨mid, goes.toQuiet.trans quietly, sends⟩

/-- `DeviceCreate` finds no driver, or no room for another hub. -/
def Unsupported (found : Found) (bus : Bus) : Prop :=
  newDevice found.identity = none ∨ newDevice found.identity = some .hub ∧ maxHubs < bus.hubIndex

instance (found : Found) (bus : Bus) : Decidable (Unsupported found bus) :=
  inferInstanceAs (Decidable (_ ∨ _))

/-- The enumeration does not stay at a port to configure a device there: the port is
    empty, or its device is not supported or not configured. -/
def LeavesPort (answers : Answers) (hub port : Nat) (bus : Bus) : Prop :=
  ∀ device ∈ (bus.hubs hub).devices port,
    Unsupported (answers.found (.port hub port) (device == .specific)) bus ∨
      (answers.found (.port hub port) (device == .specific)).refuses.isSome ∨
      findRequest bus.requests = none

instance (answers : Answers) (hub port : Nat) (bus : Bus) : Decidable (LeavesPort answers hub port bus) :=
  inferInstanceAs (Decidable (∀ device ∈ _, _ ∨ _))

theorem deviceCreate_unsupported {again : Bool} {child : Option Child}
    (creates : deviceCreate device again answers bus = some (child, next)) :
    child = none ↔ Unsupported (answers.found device again) bus := by
  rw [deviceCreate] at creates
  rw [Unsupported]
  cases driver : newDevice (answers.found device again).identity with
  | none =>
    rw [driver] at creates
    obtain ⟨rfl, rfl⟩ := Prod.mk.inj (Option.some.inj creates)
    simp
  | some found =>
    rw [driver] at creates
    cases found with
    | hub =>
      have first := congrArg (Option.map Prod.fst) creates
      by_cases full : maxHubs < bus.hubIndex
      · obtain rfl : none = child := by simpa [hubAttach, full, Bus.note] using first
        simp [full]
      · by_cases last : bus.hubIndex = maxHubs
        · simp [hubAttach, last, Bus.note] at first
        · obtain rfl : some (.hub bus.hubIndex) = child := by simpa [hubAttach, full, last, Bus.note] using first
          simp [full]
    | keyboard | mouse | massStorage | lan =>
      obtain ⟨rfl, rfl⟩ := Prod.mk.inj (Option.some.inj creates)
      simp

theorem configurePort_again_iff {port : Nat} {kept : Option (Fin maxUsbRequests)}
    (defined : configurePort answers hub port kept bus ≠ .leave none) :
    (∃ state, configurePort answers hub port kept bus = .again state) ↔ LeavesPort answers hub port bus := by
  rw [configurePort] at defined ⊢
  rw [LeavesPort]
  cases present : (bus.hubs hub).devices port with
  | none => simp
  | some device =>
    rw [present] at defined
    dsimp only at defined ⊢
    cases creates : deviceCreate (.port hub port) (device == .specific) answers bus with
    | none => simp [creates] at defined
    | some result =>
      obtain ⟨child, created⟩ := result
      have unsupported := deviceCreate_unsupported creates
      have sameRequests : created.requests = bus.requests := (deviceCreate_creates creates).requests
      cases child with
      | none =>
        have gone := unsupported.mp rfl
        simp [gone]
      | some child =>
        -- A driver has been found: `configure` decides.
        have supported : ¬ Unsupported (answers.found (.port hub port) (device == .specific)) bus := by
          intro gone
          simpa using unsupported.mpr gone
        dsimp only
        have succeeds := configure_succeeds (.port hub port) child
          (answers.found (.port hub port) (device == .specific))
          (Bus.setPort hub port (some .specific) (deviceRelease (.port hub port) created))
        have same : (Bus.setPort hub port (some .specific)
            (deviceRelease (.port hub port) created)).requests = bus.requests := sameRequests
        rw [same] at succeeds
        cases configures : configure (.port hub port) child
            (answers.found (.port hub port) (device == .specific))
            (Bus.setPort hub port (some .specific) (deviceRelease (.port hub port) created)) with
        | mk ok configured =>
          rw [configures] at succeeds
          cases ok with
          | true =>
            obtain ⟨accepts, room⟩ : _ ∧ _ := by simpa using succeeds.symm
            simp [supported, accepts, Option.isSome_iff_ne_none.mp room]
          | false =>
            have : (answers.found (.port hub port) (device == .specific)).refuses.isSome ∨
                findRequest bus.requests = none := by
              cases refuses : (answers.found (.port hub port) (device == .specific)).refuses with
              | some text => simp
              | none => simpa [refuses] using succeeds
            simp [this]

/-- A device at the last port has been initialised, and the enumeration does not stay
    at the port with which the configuration begins. -/
def TriesNext (answers : Answers) (hub : Nat) (bus : Bus) : Prop :=
  let value := bus.hubs hub
  value.device.attached = true ∧ 3 ≤ value.ports ∧ value.initState = 5 * value.ports ∧
    LeavesPort answers hub (min (value.ports - 1) 3) bus

instance (answers : Answers) (hub : Nat) (bus : Bus) : Decidable (TriesNext answers hub bus) :=
  inferInstanceAs (Decidable (_ ∧ _))

theorem enumeratePass_configures (kept : Option (Fin maxUsbRequests)) (some3 : 3 ≤ (bus.hubs hub).ports)
    (last : (bus.hubs hub).initState = 5 * (bus.hubs hub).ports) :
    enumeratePass answers hub (kept, bus) =
      configurePort answers hub (min ((bus.hubs hub).ports - 1) 3) kept bus := by
  have step : ((bus.hubs hub).initState - (bus.hubs hub).ports) % 4 = 0 := by omega
  have port : (bus.hubs hub).ports - 1 - ((bus.hubs hub).initState - ((bus.hubs hub).ports + 1) * 4) =
      min ((bus.hubs hub).ports - 1) 3 := by omega
  rw [enumeratePass]
  dsimp only
  rw [if_neg (by omega), if_neg (by omega), if_pos (by omega), if_pos (by omega), if_pos step, if_pos step, port]

theorem enumeratePass_awaiting {state : Enumerating} (kept : Option (Fin maxUsbRequests))
    (awaits : AwaitsDevice (bus.hubs hub)) (goes : enumeratePass answers hub (kept, bus) = .again state) :
    3 ≤ (bus.hubs hub).ports ∧ (bus.hubs hub).initState = 5 * (bus.hubs hub).ports := by
  obtain ⟨ports, step, last⟩ := awaits
  rw [enumeratePass] at goes
  dsimp only at goes
  rw [if_neg (by omega), step] at goes
  split at goes
  · simp [enumeratePort] at goes
  · split at goes
    · omega
    · contradiction

theorem iterate_defined {σ ρ : Type*} {pass : σ → Pass σ (Option ρ)} {fuel : Nat} {state : σ} {result : ρ}
    (ends : iterate pass (fuel + 1) state = some (some result)) : pass state ≠ .leave none := by
  intro leaves
  simp [iterate, leaves] at ends

/-- Whether the caller's request is freed while the device at a port is initialised. -/
theorem enumeratePortsComplete_awaiting (inside : hub < bus.hubIndex) (awaits : AwaitsDevice (bus.hubs hub))
    (ends : enumeratePortsComplete answers hub (some urb) bus = some next) :
    (¬ TriesNext answers hub bus ∧ Sends (Fits next) bus next) ∨
      TriesNext answers hub bus ∧ ∃ mid, Quiet bus mid ∧ Sends (Fits next) (mid.freeUrb (some urb)) next := by
  rw [enumeratePortsComplete] at ends
  by_cases attached : (bus.hubs hub).device.attached = true
  · rw [if_pos attached, Option.join_eq_some_iff] at ends
    have kept : ¬ Releases (bus.hubs hub) := by
      rintro (powering | later)
      · exact absurd awaits.ports (Nat.not_le_of_lt powering)
      · exact later awaits.step
    have defined := iterate_defined ends
    have once := enumeratePass_once inside ends
    rw [released, if_neg kept, if_neg kept] at once
    rcases once with ⟨leaves, sends⟩ | ⟨onward, goes, ends, step, inside'⟩
    · refine .inl ⟨?_, sends⟩
      rintro ⟨_, some3, last, left⟩
      rw [enumeratePass_configures _ some3 last] at leaves defined
      obtain ⟨state, goes⟩ := (configurePort_again_iff defined).mpr left
      rw [leaves] at goes
      contradiction
    · obtain ⟨some3, last⟩ := enumeratePass_awaiting _ awaits goes
      rw [enumeratePass_configures _ some3 last] at goes defined
      have left := (configurePort_again_iff defined).mp ⟨_, goes⟩
      -- the next pass is not the first of a port, so it frees the request
      have releases : Releases (onward.hubs hub) := by
        right
        rw [step.ports, step.initState, last]
        omega
      obtain ⟨fuel, more⟩ : ∃ fuel, 5 * (bus.hubs hub).ports + 4 = fuel + 1 := ⟨_, rfl⟩
      rw [more] at ends
      exact .inr ⟨⟨attached, some3, last, left⟩, onward, step.toQuiet,
        enumeratePass_releases inside' releases ends⟩
  · rw [if_neg attached] at ends
    obtain rfl := Option.some.inj ends
    exact .inl ⟨fun tries => attached tries.1, .quiet (.refl bus)⟩

theorem enumeratePortsComplete_none (inside : hub < bus.hubIndex)
    (ends : enumeratePortsComplete answers hub none bus = some next) : Sends (Fits next) bus next := by
  rw [enumeratePortsComplete] at ends
  split at ends
  · exact enumeratePass_none inside (Option.join_eq_some_iff.mp ends)
  · obtain rfl := Option.some.inj ends
    exact .quiet (.refl bus)

theorem enumeratePortsComplete_runs (inside : hub < bus.hubIndex)
    (ends : enumeratePortsComplete answers hub (some urb) bus = some next) :
    Sends (Fits next) bus next ∨
      ∃ mid, Quiet bus mid ∧ Sends (Fits next) (mid.freeUrb (some urb)) next := by
  rw [enumeratePortsComplete] at ends
  split at ends
  · exact enumeratePass_runs inside (Option.join_eq_some_iff.mp ends)
  · obtain rfl := Option.some.inj ends
    exact .inl (.quiet (.refl bus))

/-! ## The other routines -/

/-- A control message of a hub after which the hub still exists. -/
theorem send_hub (setup : SetupData) (buffer : Option Address) {callback : Callback} {sent failed : Bus → Bus}
    (bus : Bus) (inside : hub < bus.hubIndex)
    (allows : ∀ next, hub < next.hubIndex → Fits next callback)
    (afterSent : ∀ bus, Quiet bus (sent bus) ∧ (sent bus).hubIndex = bus.hubIndex)
    (afterFailed : ∀ bus, Quiet bus (failed bus) ∧ (failed bus).hubIndex = bus.hubIndex) :
    Sends (Fits (bus.send device setup buffer callback sent failed)) bus
      (bus.send device setup buffer callback sent failed) := by
  refine send_sends _ _ _ _ (allows _ ?_) (fun bus => (afterSent bus).1) (fun bus => (afterFailed bus).1)
  rw [Bus.send, Bus.hostEndpointControlMessage]
  cases findRequest bus.requests with
  | none =>
    show hub < (failed _).hubIndex
    rw [(afterFailed _).2]
    exact inside
  | some slot =>
    show hub < (sent _).hubIndex
    rw [(afterSent _).2]
    exact inside

theorem hubConfigureComplete_sends (urb : Fin maxUsbRequests) (answers : Answers) (bus : Bus)
    (inside : hub < bus.hubIndex) :
    Sends (Fits (hubConfigureComplete urb hub answers bus)) (bus.freeUrb (some urb))
      (hubConfigureComplete urb hub answers bus) := by
  have moved (initState : Nat) (bus : Bus) :
      Quiet bus (bus.setInitState hub initState) ∧ (bus.setInitState hub initState).hubIndex = bus.hubIndex :=
    ⟨.of_eq rfl rfl rfl rfl, rfl⟩
  have noted (action : BusAction) (silent : quiet action = true) (bus : Bus) :
      Quiet bus ((bus.note [action]).setInitState hub 0) ∧
        ((bus.note [action]).setInitState hub 0).hubIndex = bus.hubIndex :=
    ⟨(Quiet.single bus silent).trans (.of_eq rfl rfl rfl rfl), rfl⟩
  rw [hubConfigureComplete]
  dsimp only
  split
  · exact send_hub _ _ _ inside (fun _ inside => inside) (moved 1) (fun bus => ⟨.single bus rfl, rfl⟩)
  · split
    · exact send_hub _ _ _ inside (fun _ inside => inside) (moved 2) (noted _ rfl)
    · split
      · split
        · refine .quiet (Quiet.trans ?_ (noted _ rfl _).1)
          exact .of_eq rfl rfl rfl rfl
        · rw [enumeratePorts]
          refine Sends.before (send_hub _ _ _ inside (fun _ inside => inside) (fun bus => ⟨.refl bus, rfl⟩) ?_) ?_
          · intro bus
            exact ⟨(Quiet.note bus (by simp [quiet])).trans (.of_eq rfl rfl rfl rfl), rfl⟩
          · refine Quiet.trans (Quiet.trans ?_ (.single _ rfl)) (moved 0 _).1
            exact .of_eq rfl rfl rfl rfl
      · exact .quiet (.refl _)

/-- The root port frees the request that it is given. -/
theorem rootInitializeComplete_frees
    (ends : rootInitializeComplete urb device answers bus = some next) :
    ∃ mid, Sends (fun _ => True) bus mid ∧ next = mid.freeUrb (some urb) := by
  rw [rootInitializeComplete] at ends
  cases creates : deviceCreate device false answers bus with
  | none => simp [creates] at ends
  | some result =>
    obtain ⟨child, created⟩ := result
    have quietly := (deviceCreate_creates creates).toQuiet
    rw [creates] at ends
    cases child with
    | none =>
      refine ⟨_, .quiet ?_, (Option.some.inj ends).symm⟩
      exact quietly.trans ((Quiet.single _ rfl).trans (.of_eq rfl rfl rfl rfl))
    | some child =>
      have sends : Sends (fun _ => True) bus
          (configure device child (answers.found device false) (deviceRelease device created)).2 := by
        refine .before (configure_sends device child _ _ trivial) (quietly.trans ?_)
        exact .of_eq rfl rfl rfl rfl
      dsimp only at ends
      cases configures : configure device child (answers.found device false) (deviceRelease device created) with
      | mk succeeds configured =>
        rw [configures] at ends sends
        cases succeeds with
        | true => exact ⟨configured, sends, (Option.some.inj ends).symm⟩
        | false =>
          cases child with
          | driver => exact ⟨_, sends.after (.single _ rfl), (Option.some.inj ends).symm⟩
          | hub hub =>
            refine ⟨_, sends.after ?_, (Option.some.inj ends).symm⟩
            exact (Quiet.single _ rfl).trans (.of_eq rfl rfl rfl rfl)

/-! ## Runs -/

/-- The device whose initialisation ends. -/
def initializedDevice : Callback → Option DeviceAt
  | .initializeComplete device => some device
  | _ => none

/-- The routine that a device has been given frees the request that it is called with. -/
def FreesRequest (answers : Answers) (bus : Bus) : DeviceComplete → Prop
  | .rootInitializeComplete => True
  | .enumeratePortsComplete hub => TriesNext answers hub bus

instance (answers : Answers) (bus : Bus) : ∀ routine, Decidable (FreesRequest answers bus routine)
  | .rootInitializeComplete => inferInstanceAs (Decidable True)
  | .enumeratePortsComplete hub => inferInstanceAs (Decidable (TriesNext answers hub bus))

/-- The event in which a request is freed by two routines: a device with a valid
    configuration has been initialised, and the routine that is told so frees the
    request itself. -/
def FreesTwice (bus : Bus) (event : RequestCompletion) : Prop :=
  ∃ device ∈ (bus.callbacks event.urb).bind initializedDevice,
    ((bus.devices device).configDesc = true ∧ event.answers.configuration = true) ∧
      ∃ routine ∈ (bus.devices device).complete, FreesRequest event.answers bus routine

instance (bus : Bus) (event : RequestCompletion) : Decidable (FreesTwice bus event) :=
  inferInstanceAs (Decidable (∃ device ∈ _, (_ ∧ _) ∧ ∃ routine ∈ _, _))

theorem freesTwice_iff {event : RequestCompletion}
    (registered : bus.callbacks event.urb = some (.initializeComplete device)) :
    FreesTwice bus event ↔
      ((bus.devices device).configDesc = true ∧ event.answers.configuration = true) ∧
        ∃ routine ∈ (bus.devices device).complete, FreesRequest event.answers bus routine := by
  simp [FreesTwice, registered, initializedDevice]

theorem not_freesTwice {event : RequestCompletion} {callback : Callback}
    (registered : bus.callbacks event.urb = some callback) (other : initializedDevice callback = none) :
    ¬ FreesTwice bus event := by
  simp [FreesTwice, registered, other]

theorem TriesNext.congr (tries : TriesNext answers hub bus) (hubs : next.hubs = bus.hubs)
    (hubIndex : next.hubIndex = bus.hubIndex) (requests : next.requests = bus.requests) :
    TriesNext answers hub next := by
  obtain ⟨attached, some3, last, left⟩ := tries
  refine ⟨hubs ▸ attached, hubs ▸ some3, hubs ▸ last, ?_⟩
  rw [LeavesPort] at left ⊢
  rw [hubs, requests]
  simpa only [Unsupported, hubIndex] using left

/-- What a completion routine finds. -/
structure Landing (urb : Fin maxUsbRequests) (bus : Bus) : Prop where
  ledger : Ledger bus
  landed : Landed bus
  mine : ownerOf bus urb = .driver

theorem BusInv.landing (inv : BusInv bus) (flies : bus.flight urb = true) : Landing urb (bus.land urb) := by
  have claimed := inv.claimed urb flies
  refine ⟨?_, ?_, ?_⟩
  · intro other
    have logged : (bus.land urb).log = bus.log ++ [.completed urb] := rfl
    rw [logged, owned_append, inv.ledger other]
    by_cases same : urb = other
    · subst same
      simp [transfer, ownerOf, Bus.land, claimed]
    · have elsewhere : (bus.land urb).flight other = bus.flight other := Function.update_of_ne (Ne.symm same) ..
      rw [ownerOf, ownerOf, elsewhere]
      simp [transfer, same, Bus.land]
      rfl
  · intro other
    by_cases same : other = urb
    · subst same
      simp [Bus.land]
    · have : bus.flight other ≠ true := fun flies' => same (inv.single other urb flies' flies)
      simpa [Bus.land, Function.update_of_ne same] using this
  · exact ownerOf_landed (by simp [Bus.land]) claimed

theorem Landing.quiet (landing : Landing urb bus) (quietly : Quiet bus next) : Landing urb next := by
  refine ⟨quietly.ledger landing.ledger, ?_, ?_⟩
  · intro other
    rw [quietly.flight]
    exact landing.landed other
  · rw [quietly.ownerOf]
    exact landing.mine

/-- The routine frees its request and goes on. -/
theorem Landing.frees (landing : Landing urb bus) (sends : Sends (Fits next) (bus.freeUrb (some urb)) next) :
    BusInv next :=
  sends.inv landing.landed (landing.ledger.freeUrb landing.mine)

/-- The routine goes on before its request is freed. -/
theorem Landing.frees_after (landing : Landing urb bus) (sends : Sends (Fits next) bus next) :
    BusInv (next.freeUrb (some urb)) := by
  have ledger := sends.ledger landing.ledger
  have mine := sends.keeps landing.mine
  have flies := sends.flies landing.landed
  refine ⟨⟨?_, flies.single, flies.fits⟩, ledger.freeUrb mine⟩
  intro other lifted
  have ne : other ≠ urb := by
    rintro rfl
    have lifted : next.flight other = true := lifted
    rw [not_flying mine] at lifted
    contradiction
  simpa [Bus.freeUrb, Function.update_of_ne ne] using flies.claimed other lifted

theorem Landing.freed_twice (landing : Landing urb bus) {allowed : Callback → Prop}
    (sends : Sends allowed (bus.freeUrb (some urb)) next) : ¬ OneOwner (next.freeUrb (some urb)).log := by
  have ledger := sends.ledger (landing.ledger.freeUrb landing.mine)
  exact ledger.freed_twice (sends.not_driver (ownerOf_freeUrb (landing.landed urb)))

theorem initializeComplete_outcome {event : RequestCompletion} (inv : BusInv bus) (flies : bus.flight event.urb = true)
    (registered : bus.callbacks event.urb = some (.initializeComplete device))
    (ends : initializeComplete event.urb device event.answers (bus.land event.urb) = some next) :
    (¬ FreesTwice bus event ∧ BusInv next) ∨ (FreesTwice bus event ∧ ¬ OneOwner next.log) := by
  have landing := inv.landing flies
  have fits := inv.fits event.urb flies _ registered
  rw [freesTwice_iff registered]
  rw [initializeComplete] at ends
  have same : (bus.land event.urb).devices = bus.devices := rfl
  rw [same] at ends
  by_cases hasConfig : (bus.devices device).configDesc = true
  · by_cases valid : event.answers.configuration = true
    · rw [if_pos hasConfig] at ends
      dsimp only at ends
      rw [if_pos valid] at ends
      generalize ready : Bus.note [.initialized device] _ = told at ends
      have quietly : Quiet (bus.land event.urb) told := by
        rw [← ready]
        refine Quiet.trans ?_ (.single _ rfl)
        exact .of_eq rfl rfl rfl rfl
      have complete : (told.devices device).complete = (bus.devices device).complete := by
        simp [← ready, Bus.note, Bus.setDevice, same]
      have hubs : told.hubs = bus.hubs := ready ▸ rfl
      have hubIndex : told.hubIndex = bus.hubIndex := ready ▸ rfl
      have requests : told.requests = bus.requests := ready ▸ rfl
      have landing := landing.quiet quietly
      rw [complete] at ends
      cases known : (bus.devices device).complete with
      | none =>
        rw [known] at ends
        obtain rfl := Option.some.inj ends
        exact .inl ⟨by simp, landing.frees_after (.quiet (.refl told))⟩
      | some routine =>
        rw [known] at ends
        cases routine with
        -- the root's routine frees the request, and so does the one that has called it
        | rootInitializeComplete =>
          obtain ⟨freed, frees, rfl⟩ := Option.map_eq_some_iff.mp ends
          obtain ⟨mid, sends, rfl⟩ := rootInitializeComplete_frees frees
          have mine := sends.keeps landing.mine
          have ledger := (sends.ledger landing.ledger).freeUrb mine
          refine .inr ⟨⟨⟨hasConfig, valid⟩, _, rfl, trivial⟩, ledger.freed_twice ?_⟩
          rw [ownerOf_freeUrb (not_flying mine)]
          decide
        | enumeratePortsComplete hub =>
          obtain ⟨inside, awaits⟩ := fits hub known
          obtain ⟨after, completes, rfl⟩ := Option.map_eq_some_iff.mp ends
          rcases enumeratePortsComplete_awaiting (hubIndex ▸ inside) (hubs ▸ awaits) completes with
            ⟨stays, sends⟩ | ⟨tries, mid, quietly', sends⟩
          · refine .inl ⟨?_, landing.frees_after sends⟩
            rintro ⟨_, routine, here, tries⟩
            obtain rfl := Option.mem_some_iff.mp here
            exact stays (TriesNext.congr tries hubs hubIndex requests)
          · refine .inr ⟨⟨⟨hasConfig, valid⟩, _, rfl,
              tries.congr hubs.symm hubIndex.symm requests.symm⟩, ?_⟩
            exact (landing.quiet quietly').freed_twice sends
    · rw [if_pos hasConfig] at ends
      dsimp only at ends
      rw [if_neg valid] at ends
      obtain rfl := Option.some.inj ends
      refine .inl ⟨fun twice => valid twice.1.2, ?_⟩
      refine Landing.frees_after (landing.quiet ?_) (.quiet (.refl _))
      refine Quiet.trans ?_ (.single _ rfl)
      exact .of_eq rfl rfl rfl rfl
  · rw [if_neg hasConfig] at ends
    obtain rfl := Option.some.inj ends
    exact .inl ⟨fun twice => hasConfig twice.1.1, landing.frees_after (.quiet (.refl _))⟩

theorem driverConfigureComplete_sends (fits : Fits bus (.driverConfigureComplete device))
    (ends : driverConfigureComplete urb device answers bus = some next) :
    Sends (Fits next) (bus.freeUrb (some urb)) next := by
  cases does : answers.driver with
  | message setup =>
    simp only [driverConfigureComplete, does] at ends
    obtain rfl := Option.some.inj ends
    refine send_sends _ _ _ _ ?_ Quiet.refl Quiet.refl
    cases device with
    | port hub port =>
      rw [Fits, Bus.send, Bus.hostEndpointControlMessage]
      cases findRequest (bus.freeUrb (some urb)).requests with
      | none => exact fits
      | some slot => exact fits
    | root => trivial
    | hub hub => trivial
  | complete =>
    cases device with
    | port hub port =>
      simp only [driverConfigureComplete, does] at ends
      exact enumeratePortsComplete_none fits ends
    | root => simp [driverConfigureComplete, does] at ends
    | hub hub => simp [driverConfigureComplete, does] at ends
  | stop =>
    simp only [driverConfigureComplete, does] at ends
    obtain rfl := Option.some.inj ends
    exact .quiet (.refl _)

theorem BusInv.step {event : RequestCompletion} (inv : BusInv bus) (steps : busStep bus event = some next) :
    (¬ FreesTwice bus event ∧ BusInv next) ∨ (FreesTwice bus event ∧ ¬ OneOwner next.log) := by
  rw [busStep, Option.ite_none_right_eq_some, Option.bind_eq_some_iff] at steps
  obtain ⟨flies, callback, registered, completes⟩ := steps
  have landing := inv.landing flies
  have fits := inv.fits event.urb flies _ registered
  -- Only the routine that ends the initialisation of a device can free twice.
  cases callback with
  | initializeComplete device =>
    rw [completionRoutine] at completes
    exact initializeComplete_outcome inv flies registered completes
  | deviceInitialize device =>
    obtain rfl := Option.some.inj completes
    refine .inl ⟨not_freesTwice registered rfl, landing.frees ?_⟩
    have tended := deviceInitialize_tended (some event.urb) device event.answers (bus.land event.urb)
    refine tended.sends.mono ?_
    generalize deviceInitialize (some event.urb) device event.answers (bus.land event.urb) = after at tended ⊢
    have kept : ∀ hub, (after.devices device).complete = some (.enumeratePortsComplete hub) →
        hub < after.hubIndex ∧ AwaitsDevice (after.hubs hub) := by
      rw [tended.complete, tended.hubIndex, tended.hubs]
      exact fits
    rintro callback (rfl | rfl)
    · exact kept
    · exact kept
  | hubConfigureComplete hub =>
    obtain rfl := Option.some.inj completes
    refine .inl ⟨not_freesTwice registered rfl, landing.frees ?_⟩
    exact hubConfigureComplete_sends event.urb event.answers (bus.land event.urb) fits
  | enumeratePortsComplete hub =>
    refine .inl ⟨not_freesTwice registered rfl, ?_⟩
    rw [completionRoutine] at completes
    have inside : hub < (bus.land event.urb).hubIndex := fits
    rcases enumeratePortsComplete_runs inside completes with sends | ⟨mid, quietly, sends⟩
    · exact sends.inv landing.landed landing.ledger
    · exact (landing.quiet quietly).frees sends
  | driverConfigureComplete device =>
    refine .inl ⟨not_freesTwice registered rfl, landing.frees ?_⟩
    rw [completionRoutine] at completes
    have fits' : Fits (bus.land event.urb) (.driverConfigureComplete device) := by
      cases device <;> exact fits
    exact driverConfigureComplete_sends fits' completes

/-- Where the runs start: a device has been found at the root port, or a hub that has
    been attached is configured. -/
inductive BusStart where
  | rootPort (speed : Speed)
  | hub (device : Device) (found : Found)

def busStart : BusStart → Bus
  | .rootPort speed => rootPortInitialize speed busInit
  | .hub device found =>
    (hubConfigure 0 found { busInit with hubs := fun _ => { device }, hubIndex := 1 }).2

theorem idle_ledger (idle : Landed bus) (unused : ∀ urb, (bus.requests urb).free = true) (log : bus.log = []) :
    Ledger bus := by
  intro urb
  simp [ownerOf, idle urb, unused urb, log, owned]

theorem BusStart.inv (start : BusStart) : BusInv (busStart start) := by
  cases start with
  | rootPort speed =>
    rw [busStart, rootPortInitialize]
    split
    · refine Sends.inv (.quiet (.single busInit rfl)) (fun _ => rfl) ?_
      exact idle_ledger (fun _ => rfl) (fun _ => rfl) rfl
    · dsimp only
      generalize attaches : Bus.setDevice .root _ _ = attached
      have quietly : Quiet busInit attached := by
        rw [← attaches]
        exact (deviceAttach_quiet .root speed 0 1 busInit).trans (.setDevice _ _ _)
      have complete : (attached.devices .root).complete = some .rootInitializeComplete := by
        simp [← attaches, Bus.setDevice]
      have tended := deviceInitialize_tended none .root {} attached
      refine Sends.inv (.before (tended.sends.mono ?_) quietly) (fun _ => rfl) ?_
      · generalize deviceInitialize none .root {} attached = after at tended ⊢
        -- The root device is not called for by a hub.
        have elsewhere : ∀ hub, (after.devices .root).complete ≠ some (.enumeratePortsComplete hub) := by
          intro hub
          rw [tended.complete, freeUrb_devices, complete]
          simp
        rintro callback (rfl | rfl)
        · exact fun hub registered => absurd registered (elsewhere hub)
        · exact fun hub registered => absurd registered (elsewhere hub)
      · exact idle_ledger (fun _ => rfl) (fun _ => rfl) rfl
  | hub device found =>
    have idle : Ledger { busInit with hubs := fun _ => { device }, hubIndex := 1 } :=
      idle_ledger (fun _ => rfl) (fun _ => rfl) rfl
    refine Sends.inv (configure_sends .root (.hub 0) found _ ?_) (fun _ => rfl) idle
    have same := (configure_same .root (.hub 0) found
      { busInit with hubs := fun _ => { device }, hubIndex := 1 }).1
    exact show 0 < _ from same ▸ Nat.one_pos

/-- No request is freed twice, or while it is in flight, in any state of a run, if and
    only if no event of the run is of the kind that frees one twice. -/
theorem requests_oneOwner_iff (start : BusStart) (events : List RequestCompletion) (last : Bus)
    (run : events.foldlM busStep (busStart start) = some last) :
    (∀ past, past <+: events → ∀ bus, past.foldlM busStep (busStart start) = some bus → OneOwner bus.log) ↔
      Along busStep (fun bus event => ¬ FreesTwice bus event) events (busStart start) := by
  have inv := start.inv
  generalize (busStart start) = first at run inv ⊢
  -- By induction on the events: `BusInv` holds until a request is freed twice, and then an owner is
  -- lost at once.
  induction events generalizing first with
  | nil =>
    refine ⟨fun _ => along_nil, ?_⟩
    intro _ past before bus reached
    obtain rfl := List.prefix_nil.mp before
    obtain rfl : first = bus := Option.some.inj reached
    exact inv.ledger.oneOwner
  | cons event events ih =>
    rw [List.foldlM_cons, Option.bind_eq_bind, Option.bind_eq_some_iff] at run
    obtain ⟨next, steps, run⟩ := run
    constructor
    · intro every
      rcases inv.step steps with ⟨once, inv⟩ | ⟨_, lost⟩
      · refine along_cons.mpr ⟨once, ?_⟩
        intro next' steps'
        obtain rfl : next = next' := Option.some.inj (steps.symm.trans steps')
        refine (ih next run inv).mp ?_
        intro past before bus reached
        refine every (event :: past) ((List.prefix_cons_inj event).mpr before) bus ?_
        rw [List.foldlM_cons, steps]
        exact reached
      · refine absurd (every [event] ?_ next ?_) lost
        · exact ⟨events, rfl⟩
        · rw [List.foldlM_cons, steps]
          rfl
    · rintro ⟨once, along⟩ past before bus reached
      rcases inv.step steps with ⟨_, inv'⟩ | ⟨twice, _⟩
      · cases past with
        | nil =>
          obtain rfl : first = bus := Option.some.inj reached
          exact inv.ledger.oneOwner
        | cons event' past =>
          obtain ⟨rfl, within⟩ := List.cons_prefix_cons.mp before
          rw [List.foldlM_cons, steps] at reached
          exact (ih next run inv').mpr (along next steps) past within bus reached
      · exact absurd twice once

def slotAt (index : Fin 10) : Fin maxUsbRequests := index

/-- A keyboard at the first of four ports. -/
def keyboardAnswers (portStatus : BitVec 16) : Answers where
  numPorts := 4
  portStatus
  found _ _ := { identity := { interfaceClass := 3, interfaceSubClass := 1, interfaceProtocol := 1 } }
  driver := .complete

/-- The requests of the enumeration of that hub, one after another. -/
def keyboardEvents : List RequestCompletion :=
  List.replicate 7 ⟨slotAt 0, keyboardAnswers 0⟩ ++
    List.replicate 2 ⟨slotAt 1, keyboardAnswers 0⟩ ++
    List.replicate 6 ⟨slotAt 1, keyboardAnswers 0x103⟩ ++
    [⟨slotAt 2, keyboardAnswers 0⟩] ++
    List.replicate 9 ⟨slotAt 1, keyboardAnswers 0⟩

theorem requests_oneOwner_iff_keyboard :
    ∃ last, keyboardEvents.foldlM busStep (busStart (.hub { attached := true } {})) = some last ∧
      BusAction.enumeration 0 "Hub Enumeration Complete" ∈ last.log ∧ OneOwner last.log := by
  have completes : (keyboardEvents.foldlM busStep (busStart (.hub { attached := true } {}))).map
      (fun last => decide (BusAction.enumeration 0 "Hub Enumeration Complete" ∈ last.log)) = some true := by
    decide +kernel
  obtain ⟨last, run, completes⟩ := Option.map_eq_some_iff.mp completes
  have once : Along busStep (fun bus event => ¬ FreesTwice bus event) keyboardEvents
      (busStart (.hub { attached := true } {})) := by decide +kernel
  exact ⟨last, run, of_decide_eq_true completes,
    (requests_oneOwner_iff _ keyboardEvents last run).mpr once keyboardEvents List.prefix_rfl last run⟩

/-- Whatever is at the root port, its request is freed by the root port and by the
    device. -/
theorem requests_freed_twice :
    ∃ last, (List.replicate 5 ⟨slotAt 0, {}⟩ : List RequestCompletion).foldlM busStep
        (busStart (.rootPort .high)) = some last ∧ ¬ OneOwner last.log := by
  have lost : ((List.replicate 5 ⟨slotAt 0, {}⟩ : List RequestCompletion).foldlM busStep
      (busStart (.rootPort .high))).map (fun last => decide (OneOwner last.log)) = some false := by decide +kernel
  obtain ⟨last, run, lost⟩ := Option.map_eq_some_iff.mp lost
  exact ⟨last, run, of_decide_eq_false lost⟩

end ComputerSystems.Verified
