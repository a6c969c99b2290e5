import ComputerSystems.Data.Run
import ComputerSystems.Network.Lan
import ComputerSystems.Usb.HostController

/-! # Transmitted packets

`low_level_output` makes a frame of each `pbuf` of a packet.  All frames go through the one
transmit buffer, from which the controller takes them after `LanDeviceSendFrame` has returned.

A packet goes out as one frame if it is one `pbuf` and nothing is on its way out of the buffer when
it comes.
-/

namespace ComputerSystems.Verified

open ComputerSystems.Data ComputerSystems.System ComputerSystems.Usb ComputerSystems.Network

variable {driver : LanDriver} {packet : List UInt8} {pbuf : Pbuf} {lan next : LanTransmit}

/-! ## Runs -/

/-- The frame that is to be made of a packet, with the words in front of it. -/
def frameOf (driver : LanDriver) (packet : List UInt8) : List UInt8 := driver.txHeader packet.length ++ packet

/-- The driver, and the packets that it has been given. -/
structure Sending where
  lan : LanTransmit
  packets : List (List UInt8) := []

inductive LanEvent where
  | output (chain : List Pbuf)
  | packetMoved (position room : Nat)
deriving DecidableEq

def sendStep (driver : LanDriver) (sending : Sending) : LanEvent → Option Sending
  | .output chain => some
      { lan := (lowLevelOutput driver chain sending.lan).2
        packets := sending.packets ++ [chain.flatMap (·.payload)] }
  | .packetMoved position room =>
    (packetMoved position room sending.lan).map fun lan => { sending with lan }

/-- The frame of a `pbuf` is short enough, and a transfer of it has been submitted. -/
def frameAccepted (driver : LanDriver) (pbuf : Pbuf) : Bool :=
  !driver.tooLong pbuf.payload.length && pbuf.answer = .submitted

/-- The device has received one frame for each packet, but for those that are on their way. -/
structure Intact (driver : LanDriver) (sending : Sending) : Prop where
  in_order : sending.lan.received <+: sending.packets.map (frameOf driver)
  complete : sending.lan.transfers = [] → sending.lan.received = sending.packets.map (frameOf driver)

/-- What is asked of a step: `ERR_OK` is returned for what has been accepted, and packets are intact. -/
structure DeliversFrames (driver : LanDriver) (sending : Sending) (event : LanEvent) : Prop where
  accepted : ∀ chain, event = .output chain → (lowLevelOutput driver chain sending.lan).1 = .ok →
    ∀ pbuf ∈ chain, frameAccepted driver pbuf
  intact : ∀ next ∈ sendStep driver sending event, Intact driver next

/-- A packet is one `pbuf` that is accepted, and comes when nothing is on its way. -/
def SentAlone (driver : LanDriver) (sending : Sending) : LanEvent → Prop
  | .output chain =>
    sending.lan.transfers = [] ∧ chain.length = 1 ∧ ∀ pbuf ∈ chain, frameAccepted driver pbuf = true
  | .packetMoved _ _ => True

instance decidableSentAlone (driver : LanDriver) (sending : Sending) :
    ∀ event, Decidable (SentAlone driver sending event)
  | .output _ => inferInstanceAs (Decidable (_ ∧ _ ∧ _))
  | .packetMoved _ _ => inferInstanceAs (Decidable True)

/-! ## The transfer of a frame -/

/-- The frame is in the transmit buffer. -/
def Holds (lan : LanTransmit) (frame : List UInt8) : Prop :=
  ∀ offset (within : offset < frame.length), lan.txBuffer offset = frame[offset]

/-- Nothing is on its way, or the last packet is, and its frame is still in the buffer. -/
inductive SendInv (driver : LanDriver) : Sending → Prop
  | idle (sending : Sending) (transfers : sending.lan.transfers = [])
      (received : sending.lan.received = sending.packets.map (frameOf driver)) : SendInv driver sending
  | underWay (sending : Sending) (earlier : List (List UInt8)) (packet : List UInt8) (moved : Nat)
      (packets : sending.packets = earlier ++ [packet])
      (received : sending.lan.received = earlier.map (frameOf driver))
      (transfers : sending.lan.transfers = [⟨(frameOf driver packet).length, (frameOf driver packet).take moved⟩])
      (rest : moved < (frameOf driver packet).length)
      (buffer : Holds sending.lan (frameOf driver packet)) : SendInv driver sending

theorem SendInv.intact {sending : Sending} (inv : SendInv driver sending) : Intact driver sending := by
  cases inv with
  | idle transfers received => exact ⟨received ▸ List.prefix_rfl, fun _ => received⟩
  | underWay earlier packet moved packets received transfers =>
    constructor
    · rw [received, packets, List.map_append]
      exact List.prefix_append _ _
    · intro idle
      rw [transfers] at idle
      exact absurd idle (List.cons_ne_nil _ _)

theorem length_txHeader (length : Nat) : (driver.txHeader length).length = txHeaderSize := by
  cases driver <;> rfl

theorem length_frameOf : (frameOf driver packet).length = packet.length + txHeaderSize := by
  rw [frameOf, List.length_append, length_txHeader, Nat.add_comm]

/-- The bytes that are moved are the next ones of the frame. -/
theorem Holds.move {frame : List UInt8} {moved room : Nat} (holds : Holds lan frame) (within : moved ≤ frame.length) :
    LanTransfer.move lan.txBuffer room ⟨frame.length, frame.take moved⟩ =
      ⟨frame.length, frame.take (moved + min room (frame.length - moved))⟩ := by
  have start : (frame.take moved).length = moved := List.length_take_of_le within
  have bytes : (List.range' moved (min room (frame.length - moved))).map lan.txBuffer =
      (frame.drop moved).take (min room (frame.length - moved)) := by
    apply List.ext_getElem
    · simp
    · intro index below _
      rw [List.length_map, List.length_range'] at below
      rw [List.getElem_map, List.getElem_range', List.getElem_take, List.getElem_drop, Nat.one_mul]
      exact holds _ (by omega)
  simp only [LanTransfer.move, start]
  rw [bytes, List.take_add]

/-- A bulk transfer is refused if and only if there is no request for it.  Whether the controller has
    started it, or has found no channel, is not told. -/
theorem hostEndpointTransfer_result {config : HostConfig} {hardware : Hardware} {endpoint : Address}
    {buffer complete : Option Address} {bufSize : BitVec 32} {host after : HostState} {result : Int}
    (runs : hostEndpointTransfer config hardware endpoint buffer bufSize complete host = some (result, after)) :
    0 ≤ result ↔ (newRequest host.requests).isSome := by
  rw [hostEndpointTransfer] at runs
  cases found : newRequest host.requests with
  | none =>
    rw [found] at runs
    obtain ⟨rfl, _⟩ := Prod.mk.inj (Option.some.inj runs)
    simp
  | some claimed =>
    rw [found] at runs
    obtain ⟨_, _, same⟩ := Option.map_eq_some_iff.mp runs
    obtain ⟨rfl, _⟩ := Prod.mk.inj same
    simp

/-! ## One step -/

theorem SendInv.packetMoved {sending : Sending} {position room : Nat} (inv : SendInv driver sending)
    (moves : Network.packetMoved position room sending.lan = some next) :
    SendInv driver { sending with lan := next } := by
  rw [Network.packetMoved, Option.map_eq_some_iff] at moves
  obtain ⟨transfer, found, rfl⟩ := moves
  cases inv with
  | idle transfers received => simp [transfers] at found
  | underWay earlier packet moved packets received transfers rest buffer =>
    -- There is one transfer only, so it is the one that moves.
    obtain rfl : position = 0 := by
      have bound := (List.getElem?_eq_some_iff.mp found).1
      rw [transfers, List.length_singleton] at bound
      omega
    obtain rfl : _ = transfer := by simpa [transfers] using found
    have length : (frameOf driver packet).length - moved + moved = (frameOf driver packet).length := by omega
    simp only [buffer.move rest.le, List.length_take]
    split
    -- The last bytes: the device has the frame.
    next complete =>
      have whole : moved + min room ((frameOf driver packet).length - moved) = (frameOf driver packet).length := by
        omega
      refine .idle _ ?_ ?_
      · simp [transfers]
      · simp only [whole, List.take_length, received, packets, List.map_append, List.map_singleton]
    -- The rest of the frame is still in the buffer.
    next incomplete =>
      refine .underWay _ earlier packet (moved + min room ((frameOf driver packet).length - moved)) packets received
        ?_ ?_ buffer
      · simp [transfers]
      · omega

/-- What `LanDeviceSendFrame` does with a frame that is accepted. -/
theorem lanDeviceSendFrame_accepted (accepted : frameAccepted driver pbuf = true) :
    (lanDeviceSendFrame driver pbuf.payload pbuf.answer lan).2 =
      { lan with
        txBuffer := fun offset => (frameOf driver pbuf.payload).getD offset (lan.txBuffer offset)
        transfers := lan.transfers ++ [⟨(frameOf driver pbuf.payload).length, []⟩] } := by
  rw [frameAccepted, Bool.and_eq_true, Bool.not_eq_true', decide_eq_true_iff] at accepted
  obtain ⟨short, submitted⟩ := accepted
  simp only [lanDeviceSendFrame, short, submitted, Bool.false_eq_true, if_false]
  rw [length_frameOf, frameOf]

theorem SendInv.output {sending : Sending} (inv : SendInv driver sending) (idle : sending.lan.transfers = [])
    (accepted : frameAccepted driver pbuf = true) :
    SendInv driver
      { lan := (lowLevelOutput driver [pbuf] sending.lan).2
        packets := sending.packets ++ [[pbuf].flatMap (·.payload)] } := by
  have received := inv.intact.complete idle
  simp only [lowLevelOutput, List.foldl_cons, List.foldl_nil, List.flatMap_singleton]
  rw [lanDeviceSendFrame_accepted accepted]
  refine .underWay _ sending.packets pbuf.payload 0 rfl received ?_ ?_ ?_
  · simp [idle]
  · rw [length_frameOf, txHeaderSize]
    omega
  · intro offset within
    simp [within]

/-! ## A run -/

/-- If each packet is one `pbuf`, accepted, and comes when the one before has gone out, then the
    device receives the packets in their order, each as one frame of its own bytes. -/
theorem frames_intact (driver : LanDriver) (txBuffer : Nat → UInt8) (events : List LanEvent)
    (alone : Along (sendStep driver) (SentAlone driver) events { lan := { txBuffer } }) :
    Along (sendStep driver) (DeliversFrames driver) events { lan := { txBuffer } } := by
  -- Each step keeps the invariant, from which what is asked of the step follows.
  refine alone.invariant (SendInv driver) (.idle _ rfl rfl) ?_
  intro sending event inv sent
  have kept : ∀ next ∈ sendStep driver sending event, SendInv driver next := by
    intro next steps
    cases event with
    | output chain =>
      obtain ⟨idle, single, accepted⟩ := sent
      obtain ⟨pbuf, rfl⟩ := List.length_eq_one_iff.mp single
      obtain rfl := Option.some.inj steps
      exact inv.output idle (accepted pbuf List.mem_cons_self)
    | packetMoved position room =>
      obtain ⟨lan, moves, rfl⟩ := Option.map_eq_some_iff.mp steps
      exact inv.packetMoved moves
  refine ⟨⟨?_, fun next steps => (kept next steps).intact⟩, kept⟩
  rintro chain rfl -
  exact sent.2.2

/-! ## Two packets, and a packet of two -/

def helloFrames : List LanEvent :=
  [.output [⟨[72, 105], .submitted⟩], .packetMoved 0 8, .packetMoved 0 64, .output [⟨[33], .submitted⟩],
    .packetMoved 0 512]

theorem frames_intact_hello :
    Along (sendStep .lan95xx) (DeliversFrames .lan95xx) helloFrames { lan := { txBuffer := fun _ => 0 } } :=
  frames_intact .lan95xx (fun _ => 0) helloFrames (by decide)

/-- A packet of two `pbuf`s. -/
def splitPayload : List Pbuf := [⟨[72], .submitted⟩, ⟨[105], .submitted⟩]

/-- The first frame that the device receives has only the second byte. -/
theorem frames_not_intact :
    ¬ ∀ (driver : LanDriver) (txBuffer : Nat → UInt8) (events : List LanEvent),
      Along (sendStep driver) (DeliversFrames driver) events { lan := { txBuffer } } := by
  intro intact
  have along := intact .lan95xx (fun _ => 0) [.output splitPayload, .packetMoved 0 64]
  have first := ((along.2 _ rfl).1.intact _ rfl).in_order
  have received : [frameOf .lan95xx [105]] <+: [frameOf .lan95xx [72, 105]] := first
  exact absurd received (by decide)

end ComputerSystems.Verified
