import ComputerSystems.Data.Run
import ComputerSystems.Verified.XmodemReceiver
import Mathlib.Order.Interval.Finset.Nat

/-! # XMODEM over a line that loses and damages packets

A standard sender repeats a block until it hears `ACK`, then goes on to the next
one, and ends with `EOT`.  The line delivers a packet intact, damaged or not at
all, and delivers or loses the receiver's reply.  The bytes of a packet arrive one
by one, with polls that find nothing between them; what has arrived when a poll
finds that the packet timer has expired is flushed.

Between packets the receiver has stored the blocks it has acknowledged and waits
for the next one; the sender is at that block or, when an `ACK` was lost, at the
one before.  The receiver compares 8-bit numbers, and so refuses a repetition
whose number is 255 when the next number is 0.  `LinkSafe` excludes this, the
overflow of the block index, packets that the receiver takes for something else
and a receiver that gives up, and nothing else (`xmodem_delivers`).
-/

namespace ComputerSystems.Verified

open ComputerSystems.Data ComputerSystems.System

/-! ## The sender and the line -/

/-- A block of a file. -/
structure XmodemBlock where
  bytes : List UInt8
  size : bytes.length = xmodemDataSize

/-- The packet in which a sender sends block `number` of a file. -/
def blockPacket (number : Nat) (block : XmodemBlock) : List UInt8 :=
  [soh, UInt8.ofNat number, 0xFF - UInt8.ofNat number] ++ block.bytes ++ [block.bytes.foldl (· + ·) 0]

/-- The packet buffer that holds `bytes`. -/
def bufferOf (bytes : List UInt8) (index : Nat) : UInt8 := bytes.getD index 0

/-- A packet that was damaged so that its header, its complement or its checksum
    is wrong. -/
structure DamagedPacket where
  bytes : List UInt8
  size : bytes.length = xmodemPacketSize
  damaged : ¬ PacketIntact (bufferOf bytes)

/-- What the line does to a packet. -/
inductive PacketFate where
  | intact
  | lost
  | damaged (packet : DamagedPacket)

def PacketFate.IsIntact : PacketFate → Prop
  | .intact => True
  | _ => False

/-- What a receiver does in a sequence of polls.  `running` says that it did not
    end the session. -/
structure Delivery where
  state : XmodemState
  calls : List ShellCall
  running : Bool

/-- The character that a poll finds: one that is there when the timer has expired
    is flushed. -/
def XmodemInput.found (state : XmodemState) (input : XmodemInput) : Option UInt8 :=
  if timerRemaining state.packetTimer input.now = 0 then none else input.available

/-- Poll the receiver. -/
def deliver : List XmodemInput → XmodemState → Delivery
  | [], state => { state, calls := [], running := true }
  | input :: inputs, state =>
    let result := xmodemPoll input.now (input.found state) state
    if result.status = taskFinished then
      { state := result.state, calls := result.calls, running := false }
    else
      let delivery := deliver inputs result.state
      { delivery with calls := result.calls ++ delivery.calls }

/-- The bytes arrive in these polls, the last one in the last poll. -/
def Brings (inputs : List XmodemInput) (bytes : List UInt8) : Prop :=
  inputs.filterMap XmodemInput.available = bytes ∧ ∀ input ∈ inputs.getLast?, input.available.isSome

instance (inputs : List XmodemInput) (bytes : List UInt8) : Decidable (Brings inputs bytes) :=
  inferInstanceAs (Decidable (_ ∧ _))

/-- Sender and receiver.  `sending` is the number of the block that the sender
    sends, counted from 1, and `acked` are the blocks that the receiver has
    acknowledged. -/
structure XmodemLink where
  receiver : XmodemState
  running : Bool
  sending : Nat
  acked : Finset Nat

/-- What happens on the line: the sender sends its block or, behind the last one,
    `EOT`, which arrives in some polls of the receiver, and hears the reply or does
    not; or the receiver is polled without anything arriving. -/
inductive LinkEvent where
  | block (inputs : List XmodemInput) (fate : PacketFate) (heard : Bool)
  | eot (inputs : List XmodemInput) (lost heard : Bool)
  | wait (now : Nat)

/-- The polls of a receiver, which is no longer polled when the session is over. -/
def XmodemLink.receive (link : XmodemLink) (inputs : List XmodemInput) : Delivery :=
  if link.running then deliver inputs link.receiver
  else { state := link.receiver, calls := [], running := false }

def PacketFate.arriving (packet : List UInt8) : PacketFate → List UInt8
  | .intact => packet
  | .lost => []
  | .damaged damagedPacket => damagedPacket.bytes

/-- The line after an event, `none` when the sender does not send this now or the
    polls do not bring it. -/
def linkStep (file : List XmodemBlock) (link : XmodemLink) : LinkEvent → Option XmodemLink
  | .block inputs fate heard =>
    match file[link.sending - 1]? with
    | none => none
    | some block =>
      if Brings inputs (fate.arriving (blockPacket link.sending block)) then
        let delivery := link.receive inputs
        let acknowledged := ShellCall.putc ack ∈ delivery.calls
        some {
          receiver := delivery.state
          running := delivery.running
          sending := if heard ∧ acknowledged then link.sending + 1 else link.sending
          acked := match fate with
            | .intact => if acknowledged then insert link.sending link.acked else link.acked
            | _ => link.acked }
      else none
  | .eot inputs lost heard =>
    if file.length < link.sending ∧ Brings inputs (if lost then [] else [eot]) then
      let delivery := link.receive inputs
      some { link with
        receiver := delivery.state
        running := delivery.running
        sending := if heard ∧ ShellCall.putc ack ∈ delivery.calls then link.sending + 1 else link.sending }
    else none
  | .wait now =>
    let delivery := link.receive [⟨now, none⟩]
    some { link with receiver := delivery.state, running := delivery.running }

/-- A sender at the first block of its file and a receiver. -/
def linkStart (receiver : XmodemState) : XmodemLink :=
  { receiver, running := true, sending := 1, acked := ∅ }

/-! ## Delivery -/

/-- The memory holds `blocks` one behind the other. -/
def HoldsBlocks (destination : Memory) (blocks : List XmodemBlock) : Prop :=
  destination.Holds xmodemDataSize (blocks.map XmodemBlock.bytes)

/-- The destination has the blocks that were acknowledged, which are the first ones.
    After a block was sent the receiver expects the next one, and one that arrived
    intact was acknowledged. -/
def LinkDelivers (file : List XmodemBlock) (link : XmodemLink) (event : LinkEvent) : Prop :=
  ∀ next ∈ linkStep file link event,
    next.acked = Finset.Icc 1 next.acked.card ∧
      HoldsBlocks next.receiver.destination (file.take next.acked.card) ∧
      match event with
      | .block inputs fate _ =>
        next.receiver.block.toNat = next.acked.card + 1 ∧
          (fate.IsIntact → (link.receive inputs).calls.getLast? = some (.putc ack))
      | _ => True

/-- While a packet arrives its timer does not expire.  One that arrives intact is not
    the repetition of a stored block with number 255, and its index fits an `int`; one
    that is damaged does not begin with `EOT`.  And as long as there is a block to send
    the receiver has not counted so many timeouts that it gives up. -/
def LinkSafe (file : List XmodemBlock) (link : XmodemLink) : LinkEvent → Prop
  | .block inputs fate _ =>
    (∀ input ∈ inputs, timerRemaining link.receiver.packetTimer input.now ≠ 0) ∧
      match fate with
      | .intact => link.sending ≤ 2 ^ 24 ∧ ¬ (link.sending ∈ link.acked ∧ link.sending % 256 = 255)
      | .lost => True
      | .damaged packet => packet.bytes.head? ≠ some eot
  | .eot _ _ _ => True
  | .wait now =>
    link.sending ≤ file.length → timerRemaining link.receiver.packetTimer now = 0 →
      link.receiver.retry < xmodemDataRetry

/-! ## A packet is collected -/

variable {now : Nat} {bytes : List UInt8} {inputs : List XmodemInput} {state : XmodemState}

/-- The receiver with all `bytes` in its packet buffer. -/
def fill (bytes : List UInt8) (state : XmodemState) : XmodemState :=
  bytes.foldl (fun state byte => collect byte state) state

@[simp] theorem fill_nil : fill [] state = state := rfl

@[simp] theorem fill_cons {byte : UInt8} : fill (byte :: bytes) state = fill bytes (collect byte state) := rfl

@[simp] theorem fill_block : (fill bytes state).block = state.block := by
  induction bytes generalizing state with
  | nil => rfl
  | cons byte bytes ih => rw [fill_cons, ih, collect]

@[simp] theorem fill_destination : (fill bytes state).destination = state.destination := by
  induction bytes generalizing state with
  | nil => rfl
  | cons byte bytes ih => rw [fill_cons, ih, collect]

theorem fill_packet (index : Nat) :
    (fill bytes state).packet index =
      if state.i ≤ index ∧ index < state.i + bytes.length then bufferOf bytes (index - state.i)
      else state.packet index := by
  induction bytes generalizing state with
  | nil => rw [fill_nil, if_neg (by simp only [List.length_nil]; omega)]
  | cons byte bytes ih =>
    rw [fill_cons, ih, collect_i, collect_packet, List.length_cons]
    by_cases later : state.i + 1 ≤ index ∧ index < state.i + 1 + bytes.length
    · rw [if_pos later, if_pos (by omega)]
      obtain ⟨step, rfl⟩ : ∃ step, index = state.i + 1 + step := ⟨index - (state.i + 1), by omega⟩
      rw [show state.i + 1 + step - state.i = step + 1 by omega, Nat.add_sub_cancel_left]
      rfl
    · rw [if_neg later]
      by_cases here : index = state.i
      · rw [if_pos (by omega), here, Function.update_self, Nat.sub_self]
        rfl
      · rw [if_neg (by omega), Function.update_of_ne here]

/-- Without a timeout the receiver collects the bytes up to the end of the packet
    and then treats the packet. -/
theorem deliver_unexpired (unexpired : ∀ input ∈ inputs, timerRemaining state.packetTimer input.now ≠ 0)
    (brings : Brings inputs bytes) (inhabited : bytes ≠ []) (entire : state.i + bytes.length = xmodemPacketSize)
    (begins : ¬ (state.i = 0 ∧ bytes.head? = some eot)) :
    ∃ input ∈ inputs, deliver inputs state =
      { state := (xmodemPacket input.now (fill bytes state)).state
        calls := (xmodemPacket input.now (fill bytes state)).calls, running := true } := by
  -- By induction on the polls: the last byte ends the packet.
  induction inputs generalizing state bytes with
  | nil =>
    obtain rfl : [] = bytes := brings.1
    exact absurd rfl inhabited
  | cons input inputs ih =>
    have running := unexpired input List.mem_cons_self
    have later : ∀ input ∈ inputs, timerRemaining state.packetTimer input.now ≠ 0 := fun other isIn =>
      unexpired other (List.mem_cons_of_mem input isIn)
    obtain ⟨now, available⟩ := input
    obtain ⟨rfl, last⟩ := brings
    have polls : xmodemPoll now (XmodemInput.found state ⟨now, available⟩) state = xmodemRead now available state := by
      rw [XmodemInput.found, if_neg running, xmodemPoll, if_neg running]
    rw [deliver, polls]
    cases available with
    | none =>
      have some_left : inputs ≠ [] := by
        rintro rfl
        exact inhabited rfl
      have brings : Brings inputs (inputs.filterMap XmodemInput.available) :=
        ⟨rfl, by rwa [List.getLast?_cons_of_ne_nil some_left] at last⟩
      obtain ⟨final, isIn, step⟩ := ih later brings inhabited entire begins
      exact ⟨final, List.mem_cons_of_mem _ isIn, by simp [xmodemRead, taskIdle, taskFinished, step]⟩
    | some byte =>
      have inner : ¬ (state.i = 0 ∧ byte = eot) := by simpa using begins
      by_cases ends : inputs = []
      · subst ends
        have ready : (xmodemPacket now (collect byte state)).status ≠ taskFinished := by
          cases xmodemPacket_cases now (collect byte state) with
          | inl accepted =>
            obtain ⟨block, -, -, -, result⟩ := accepted
            simp [result, taskReady, taskFinished]
          | inr refused => simp [refused.2, taskReady, taskFinished]
        refine ⟨_, List.mem_cons_self, ?_⟩
        rw [xmodemRead_entire inner entire]
        simp [ready, deliver]
      · have brings : Brings inputs (inputs.filterMap XmodemInput.available) :=
          ⟨rfl, by rwa [List.getLast?_cons_of_ne_nil ends] at last⟩
        have more : inputs.filterMap XmodemInput.available ≠ [] := by
          intro none
          obtain ⟨final, isLast⟩ := List.getLast?_isSome.mpr ends |> Option.isSome_iff_exists.mp
          have found := brings.2 final isLast
          obtain ⟨character, some⟩ := Option.isSome_iff_exists.mp found
          have isIn : character ∈ inputs.filterMap XmodemInput.available :=
            List.mem_filterMap.mpr ⟨final, List.mem_of_getLast? isLast, some⟩
          rw [none] at isIn
          cases isIn
        have size : (collect byte state).i + (inputs.filterMap XmodemInput.available).length = xmodemPacketSize := by
          simp only [List.filterMap_cons, List.length_cons] at entire
          rw [collect_i]
          omega
        have partway : state.i + 1 ≠ xmodemPacketSize := by
          have positive := List.length_pos_iff.mpr more
          rw [collect_i] at size
          omega
        obtain ⟨final, isIn, step⟩ := @ih _ (collect byte state) later brings more size (by simp)
        refine ⟨final, List.mem_cons_of_mem _ isIn, ?_⟩
        rw [xmodemRead_partway inner partway]
        simp [taskReady, taskFinished, step]

/-- A receiver between two packets that is sent 132 bytes within the time treats them as
    a packet, unless they begin with `EOT`. -/
theorem deliver_packet (size : bytes.length = xmodemPacketSize) (between : state.i = 0)
    (unexpired : ∀ input ∈ inputs, timerRemaining state.packetTimer input.now ≠ 0)
    (brings : Brings inputs bytes) (begins : bytes.head? ≠ some eot) :
    ∃ input ∈ inputs, ∃ entry, entry.block = state.block ∧ entry.destination = state.destination ∧
      (∀ index < xmodemPacketSize, entry.packet index = bufferOf bytes index) ∧
      deliver inputs state =
        { state := (xmodemPacket input.now entry).state, calls := (xmodemPacket input.now entry).calls
          running := true } := by
  have inhabited : bytes ≠ [] := by
    rintro rfl
    exact absurd size (by decide)
  obtain ⟨input, isIn, delivered⟩ := deliver_unexpired unexpired brings inhabited (by omega) (by simp [begins])
  refine ⟨input, isIn, fill bytes state, fill_block, fill_destination, ?_, delivered⟩
  intro index below
  rw [fill_packet, between, if_pos (by omega), Nat.sub_zero]

/-! ## The packet of a block -/

variable {file : List XmodemBlock} {link : XmodemLink} {block : XmodemBlock}

theorem blockPacket_length (number : Nat) (block : XmodemBlock) :
    (blockPacket number block).length = xmodemPacketSize := by
  simp [blockPacket, block.size, xmodemDataSize, xmodemPacketSize]

theorem blockPacket_data (number : Nat) (block : XmodemBlock) :
    ((List.range xmodemDataSize).map fun i => bufferOf (blockPacket number block) (3 + i)) = block.bytes := by
  apply List.ext_getElem
  · simp [block.size]
  · intro i below within
    have here : bufferOf (blockPacket number block) (3 + i) = block.bytes.getD i 0 := by
      rw [bufferOf, blockPacket, List.getD_append _ _ _ _ (by simp; omega),
        List.getD_append_right _ _ _ _ (by simp)]
      simp
    rw [List.getElem_map, List.getElem_range, here, List.getD_eq_getElem _ _ within]

theorem blockPacket_intact (number : Nat) (block : XmodemBlock) :
    PacketIntact (bufferOf (blockPacket number block)) := by
  refine ⟨rfl, rfl, ?_⟩
  have sum : xmodemChecksum (bufferOf (blockPacket number block)) = block.bytes.foldl (· + ·) 0 := by
    rw [xmodemChecksum, ← List.foldl_map (g := fun sum byte => sum + byte)
      (f := fun i => bufferOf (blockPacket number block) (3 + i)), blockPacket_data]
  have last : bufferOf (blockPacket number block) (xmodemPacketSize - 1) = block.bytes.foldl (· + ·) 0 := by
    rw [bufferOf, blockPacket, List.getD_append_right _ _ _ _ (by simp [block.size, xmodemDataSize, xmodemPacketSize])]
    simp [block.size, xmodemDataSize, xmodemPacketSize]
  rw [sum, last]

theorem HoldsBlocks.store {destination : Memory} {count n : Nat}
    (holds : HoldsBlocks destination (file.take count)) (found : file[n]? = some block) (next : n ≤ count) :
    HoldsBlocks (destination.write (n * xmodemDataSize : Nat) block.bytes)
      (file.take (max count (n + 1))) := by
  have sizes : ∀ bytes ∈ file.map XmodemBlock.bytes, bytes.length ≤ xmodemDataSize := by
    intro bytes member
    obtain ⟨source, -, rfl⟩ := List.mem_map.mp member
    exact Nat.le_of_eq source.size
  rw [HoldsBlocks, List.map_take] at holds ⊢
  exact holds.store sizes (by simp [found]) next

/-! ## The invariant -/

/-- The receiver is between two packets and holds the blocks acknowledged, which
    are the first ones.  The sender is at the next block or repeats the last. -/
structure LinkInv (file : List XmodemBlock) (link : XmodemLink) : Prop where
  between : link.receiver.i = 0
  acked : link.acked = Finset.Icc 1 link.acked.card
  small : link.acked.card ≤ 2 ^ 24
  block : link.receiver.block.toNat = link.acked.card + 1
  sending : link.sending = link.acked.card + 1 ∨ link.sending = link.acked.card ∧ 1 ≤ link.acked.card
  holds : HoldsBlocks link.receiver.destination (file.take link.acked.card)

theorem LinkInv.mem_acked (inv : LinkInv file link) : link.sending ∈ link.acked ↔
    link.sending = link.acked.card := by
  have sending := inv.sending
  rw [inv.acked, Finset.mem_Icc]
  simp only [Nat.card_Icc]
  omega

/-- The blocks acknowledged after the sender's block was acknowledged. -/
theorem LinkInv.insert_acked (inv : LinkInv file link) :
    insert link.sending link.acked = Finset.Icc 1 (max link.acked.card link.sending) := by
  have sending := inv.sending
  ext n
  rw [Finset.mem_insert, inv.acked, Finset.mem_Icc, Finset.mem_Icc]
  simp only [Nat.card_Icc]
  omega

/-- The receiver accepts an intact packet and stores its block where it belongs. -/
theorem packet_accepted (now : Nat) (inv : LinkInv file link) {entry : XmodemState}
    (found : file[link.sending - 1]? = some block)
    (sameBlock : entry.block = link.receiver.block)
    (sameDestination : entry.destination = link.receiver.destination)
    (packet : ∀ index < xmodemPacketSize,
      entry.packet index = bufferOf (blockPacket link.sending block) index)
    (fits : link.sending ≤ 2 ^ 24) (wrap : ¬ (link.sending ∈ link.acked ∧ link.sending % 256 = 255)) :
    (xmodemPacket now entry).calls = [.putc ack] ∧
      (xmodemPacket now entry).state.i = 0 ∧
      (xmodemPacket now entry).state.packetTimer = timerRegister xmodemDataTimeo now ∧
      (xmodemPacket now entry).state.block.toNat = max link.acked.card link.sending + 1 ∧
      HoldsBlocks (xmodemPacket now entry).state.destination
        (file.take (max link.acked.card link.sending)) := by
  rw [inv.mem_acked] at wrap
  have position := inv.sending
  have counter : entry.block.toNat = link.acked.card + 1 := by rw [sameBlock, inv.block]
  have number : (entry.packet 1).toNat = link.sending % 256 := by
    rw [packet 1 (by decide)]
    simp [bufferOf, blockPacket]
  have intact : PacketIntact entry.packet := (packetIntact_congr packet).mpr (blockPacket_intact _ _)
  -- The number in the packet has eight bits; merged with the counter it is that of the block.
  have merged : (mergeBlock (entry.packet 1) entry.block).toNat = link.sending := by
    rw [mergeBlock_toNat]
    omega
  obtain ⟨accepted, -, below, rfl, result⟩ | ⟨refused, -⟩ := xmodemPacket_cases now entry
  · have data : ((List.range xmodemDataSize).map fun i => entry.packet (3 + i)) = block.bytes := by
      rw [← blockPacket_data link.sending block]
      apply List.map_congr_left
      intro i member
      rw [List.mem_range] at member
      exact packet (3 + i) (by simp only [xmodemDataSize, xmodemPacketSize] at *; omega)
    have offset : blockOffset (mergeBlock (entry.packet 1) entry.block) =
        ((link.sending - 1) * xmodemDataSize : Nat) := by
      rw [blockOffset_eq (by omega) (by omega), merged, xmodemDataSize]
      omega
    have advance : (mergeBlock (entry.packet 1) entry.block + 1).toNat = link.sending + 1 := by bv_omega
    have stored := inv.holds.store found (by omega)
    rw [result, offset, data, sameDestination]
    refine ⟨rfl, rfl, rfl, ?_, ?_⟩
    · change (mergeBlock (entry.packet 1) entry.block + 1).toNat = _
      omega
    · rwa [Nat.sub_add_cancel (by omega)] at stored
  · exact absurd ⟨intact, by omega⟩ refused

theorem linkStart_inv (receiver : XmodemState) (between : receiver.i = 0) (first : receiver.block = 1) :
    LinkInv file (linkStart receiver) where
  between := between
  acked := by simp [linkStart]
  small := by simp [linkStart]
  block := by simp [linkStart, first]
  sending := .inl rfl
  holds := by simp [HoldsBlocks, linkStart]

/-- The invariant does not depend on the packet, the timer and the retries. -/
theorem LinkInv.congr {next : XmodemLink} (inv : LinkInv file link) (between : next.receiver.i = 0)
    (sameBlock : next.receiver.block = link.receiver.block)
    (sameDestination : next.receiver.destination = link.receiver.destination)
    (sending : next.sending = link.sending) (acked : next.acked = link.acked) : LinkInv file next := by
  refine ⟨between, ?_, ?_, ?_, ?_, ?_⟩
  · rw [acked]
    exact inv.acked
  · rw [acked]
    exact inv.small
  · rw [acked, sameBlock]
    exact inv.block
  · rw [acked, sending]
    exact inv.sending
  · rw [acked, sameDestination]
    exact inv.holds

/-- The invariant after the sender's block was acknowledged. -/
theorem LinkInv.acknowledge (inv : LinkInv file link) {receiver : XmodemState} (between : receiver.i = 0)
    (counter : receiver.block.toNat = max link.acked.card link.sending + 1)
    (holds : HoldsBlocks receiver.destination (file.take (max link.acked.card link.sending)))
    (fits : link.sending ≤ 2 ^ 24) (heard : Bool) :
    LinkInv file
      { receiver, running := true, sending := if heard then link.sending + 1 else link.sending
        acked := insert link.sending link.acked } := by
  have card : (insert link.sending link.acked).card = max link.acked.card link.sending := by
    rw [inv.insert_acked]
    simp
  have position := inv.sending
  have small := inv.small
  refine ⟨between, ?_, ?_, ?_, ?_, ?_⟩
  · rw [card, inv.insert_acked]
  · rw [card]
    omega
  · rw [card]
    exact counter
  · rw [card]
    cases heard with
    | true =>
      simp only [↓reduceIte]
      omega
    | false =>
      simp only [Bool.false_eq_true, ↓reduceIte]
      omega
  · rw [card]
    exact holds

/-! ## Events -/

theorem brings_nil (brings : Brings inputs []) : inputs = [] := by
  by_contra inhabited
  obtain ⟨final, isLast⟩ := Option.isSome_iff_exists.mp (List.getLast?_isSome.mpr inhabited)
  obtain ⟨character, found⟩ := Option.isSome_iff_exists.mp (brings.2 final isLast)
  have isIn : character ∈ inputs.filterMap XmodemInput.available :=
    List.mem_filterMap.mpr ⟨final, List.mem_of_getLast? isLast, found⟩
  rw [brings.1] at isIn
  cases isIn

/-- Sending a block over a line that delivers it. -/
theorem send_intact (inv : LinkInv file link) (running : link.running = true)
    (found : file[link.sending - 1]? = some block)
    (unexpired : ∀ input ∈ inputs, timerRemaining link.receiver.packetTimer input.now ≠ 0)
    (brings : Brings inputs (blockPacket link.sending block))
    (fits : link.sending ≤ 2 ^ 24) (wrap : ¬ (link.sending ∈ link.acked ∧ link.sending % 256 = 255))
    (heard : Bool) :
    ∃ next, linkStep file link (.block inputs .intact heard) = some next ∧
      next.running = true ∧ LinkInv file next ∧
      (∃ input ∈ inputs, next.receiver.packetTimer = timerRegister xmodemDataTimeo input.now) ∧
      next.acked = insert link.sending link.acked ∧
      next.sending = (if heard then link.sending + 1 else link.sending) ∧
      (link.receive inputs).calls.getLast? = some (.putc ack) := by
  have arrives : link.receive inputs = deliver inputs link.receiver := by rw [XmodemLink.receive, if_pos running]
  have begins : (blockPacket link.sending block).head? ≠ some eot := by simp [blockPacket, soh, eot]
  obtain ⟨input, isIn, entry, sameBlock, sameDestination, packet, delivered⟩ :=
    deliver_packet (blockPacket_length link.sending block) inv.between unexpired brings begins
  obtain ⟨calls, between, timer, counter, holds⟩ :=
    packet_accepted input.now inv found sameBlock sameDestination packet fits wrap
  refine ⟨_, by rw [linkStep, found]; exact if_pos brings, ?_⟩
  rw [calls] at delivered
  simp only [arrives, delivered, List.mem_singleton, and_true, ↓reduceIte, List.getLast?_singleton, true_and]
  exact ⟨inv.acknowledge between counter holds fits heard, input, isIn, timer⟩

/-- A damaged packet is refused. -/
theorem send_damaged (inv : LinkInv file link) (packet : DamagedPacket)
    (unexpired : ∀ input ∈ inputs, timerRemaining link.receiver.packetTimer input.now ≠ 0)
    (brings : Brings inputs packet.bytes) (begins : packet.bytes.head? ≠ some eot) :
    (deliver inputs link.receiver).running = true ∧
      ShellCall.putc ack ∉ (deliver inputs link.receiver).calls ∧
      (deliver inputs link.receiver).state.i = 0 ∧
      (deliver inputs link.receiver).state.block = link.receiver.block ∧
      (deliver inputs link.receiver).state.destination = link.receiver.destination := by
  obtain ⟨input, -, entry, sameBlock, sameDestination, buffered, delivered⟩ :=
    deliver_packet packet.size inv.between unexpired brings begins
  cases xmodemPacket_cases input.now entry with
  | inl accepted =>
    obtain ⟨-, intact, -⟩ := accepted
    exact absurd ((packetIntact_congr buffered).mp intact) packet.damaged
  | inr refused =>
    have other : ShellCall.putc ack ≠ .putc nak := by decide
    simp [delivered, refused.2, sameBlock, sameDestination, other]

/-- A poll between two packets that finds nothing or an `EOT`. -/
theorem poll_silent {input : XmodemInput} (between : state.i = 0)
    (silent : input.available = none ∨ input.available = some eot) :
    let result := xmodemPoll input.now (input.found state) state
    result.state.destination = state.destination ∧
      (result.status ≠ taskFinished →
        result.state.i = 0 ∧ result.state.block = state.block ∧ ShellCall.putc ack ∉ result.calls) := by
  obtain ⟨running, polls⟩ | ⟨expired, -, polls⟩ | ⟨-, -, polls⟩ := xmodemPoll_cases input.now (input.found state) state
  · have found : input.found state = input.available := if_neg running
    rw [polls, found]
    obtain none | ends := silent
    · simp [none, xmodemRead, between]
    · simp [ends, xmodemRead, between, xmodemFinish]
  · have found : input.found state = none := if_pos expired
    rw [polls, found]
    simp [xmodemRead, restart, System.ack, nak]
  · simp [polls]

/-- Polls that find nothing but an `EOT` change none of the stored blocks. -/
theorem deliver_silent (between : state.i = 0)
    (silent : ∀ input ∈ inputs, input.available = none ∨ input.available = some eot) :
    (deliver inputs state).state.destination = state.destination ∧
      ((deliver inputs state).running = true →
        (deliver inputs state).state.i = 0 ∧ (deliver inputs state).state.block = state.block ∧
          ShellCall.putc ack ∉ (deliver inputs state).calls) := by
  induction inputs generalizing state with
  | nil => exact ⟨rfl, fun _ => ⟨between, rfl, List.not_mem_nil⟩⟩
  | cons input inputs ih =>
    obtain ⟨destination, goesOn⟩ := poll_silent between (silent input List.mem_cons_self)
    by_cases ends : (xmodemPoll input.now (input.found state) state).status = taskFinished
    · simp [deliver, ends, destination]
    · obtain ⟨between', block, quiet⟩ := goesOn ends
      obtain ⟨kept, rest⟩ := ih between' fun other isIn => silent other (List.mem_cons_of_mem input isIn)
      simp only [deliver, if_neg ends]
      refine ⟨kept.trans destination, fun running => ?_⟩
      obtain ⟨again, same, quiet'⟩ := rest running
      exact ⟨again, same.trans block, by simp [quiet, quiet']⟩

/-- A receiver that has not counted too many timeouts goes on waiting. -/
theorem wait_running (patient : timerRemaining state.packetTimer now = 0 → state.retry < xmodemDataRetry) :
    (deliver [⟨now, none⟩] state).running = true := by
  have found : XmodemInput.found state ⟨now, none⟩ = none := ite_self none
  obtain ⟨-, polls⟩ | ⟨-, -, polls⟩ | ⟨expired, exhausted, -⟩ := xmodemPoll_cases now none state
  · simp [deliver, found, polls, xmodemRead, taskIdle, taskFinished]
  · simp [deliver, found, polls, xmodemRead, taskIdle, taskFinished]
  · exact absurd (patient expired) (by omega)

/-! ## Runs -/

/-- The session is over, and the sender has sent all blocks. -/
structure LinkOver (file : List XmodemBlock) (link : XmodemLink) : Prop where
  sending : file.length < link.sending
  acked : link.acked = Finset.Icc 1 link.acked.card
  holds : HoldsBlocks link.receiver.destination (file.take link.acked.card)

def LinkReached (file : List XmodemBlock) (link : XmodemLink) : Prop :=
  link.running = true ∧ LinkInv file link ∨ link.running = false ∧ LinkOver file link

theorem LinkReached.acked (reached : LinkReached file link) : link.acked = Finset.Icc 1 link.acked.card := by
  obtain ⟨-, inv⟩ | ⟨-, past⟩ := reached
  · exact inv.acked
  · exact past.acked

theorem LinkReached.holds (reached : LinkReached file link) :
    HoldsBlocks link.receiver.destination (file.take link.acked.card) := by
  obtain ⟨-, inv⟩ | ⟨-, past⟩ := reached
  · exact inv.holds
  · exact past.holds

/-- As long as there is a block to send the receiver is polled. -/
theorem LinkReached.active (reached : LinkReached file link) (more : link.sending ≤ file.length) :
    link.running = true ∧ LinkInv file link := by
  obtain active | ⟨-, past⟩ := reached
  · exact active
  · exact absurd past.sending (by omega)

/-- The polls bring nothing but an `EOT`, if anything, when all blocks have been sent. -/
theorem LinkReached.silent (reached : LinkReached file link)
    (silent : ∀ input ∈ inputs, input.available = none ∨ input.available = some eot)
    (stays : link.sending ≤ file.length → (link.receive inputs).running = true) (heard : Bool) :
    LinkReached file { link with
      receiver := (link.receive inputs).state
      running := (link.receive inputs).running
      sending := if heard ∧ ShellCall.putc ack ∈ (link.receive inputs).calls then link.sending + 1 else link.sending } := by
  obtain ⟨running, inv⟩ | ⟨ended, past⟩ := reached
  · rw [XmodemLink.receive, if_pos running] at stays ⊢
    obtain ⟨destination, kept⟩ := deliver_silent inv.between silent
    by_cases goesOn : (deliver inputs link.receiver).running = true
    · obtain ⟨between, block, quiet⟩ := kept goesOn
      exact .inl ⟨goesOn, inv.congr between block destination (by simp [quiet]) rfl⟩
    · refine .inr ⟨by simpa using goesOn, ?_, inv.acked, by simpa only [destination] using inv.holds⟩
      have sent : file.length < link.sending := by
        by_contra more
        exact goesOn (stays (by omega))
      simp only
      split <;> omega
  · rw [XmodemLink.receive, if_neg (by simp [ended])]
    exact .inr ⟨rfl, by simpa using past.sending, past.acked, past.holds⟩

/-- What an event does. -/
theorem linkStep_reached (link : XmodemLink) (event : LinkEvent) (reached : LinkReached file link)
    (safe : LinkSafe file link event) :
    LinkDelivers file link event ∧ ∀ next ∈ linkStep file link event, LinkReached file next := by
  cases event with
  | block inputs fate heard =>
    cases found : file[link.sending - 1]? with
    | none => simp [LinkDelivers, linkStep, found]
    | some block =>
      have below := (List.getElem?_eq_some_iff.mp found).1
      obtain ⟨running, inv⟩ := reached.active (by omega)
      obtain ⟨unexpired, safe⟩ := safe
      -- What is asked follows from the invariant of the next state.
      have suffices_next (goes : ∀ next ∈ linkStep file link (.block inputs fate heard),
          next.running = true ∧ LinkInv file next ∧
            (fate.IsIntact → (link.receive inputs).calls.getLast? = some (.putc ack))) :
          LinkDelivers file link (.block inputs fate heard) ∧
            ∀ next ∈ linkStep file link (.block inputs fate heard), LinkReached file next := by
        refine ⟨fun next steps => ?_, fun next steps => .inl ⟨(goes next steps).1, (goes next steps).2.1⟩⟩
        obtain ⟨-, inv', acknowledged⟩ := goes next steps
        exact ⟨inv'.acked, inv'.holds, inv'.block, acknowledged⟩
      apply suffices_next
      intro next steps
      have step := steps
      rw [linkStep, found, Option.mem_def] at step
      obtain ⟨brings, step⟩ := Option.ite_none_right_eq_some.mp step
      obtain rfl := Option.some.inj step
      have arrives : link.receive inputs = deliver inputs link.receiver := if_pos running
      cases fate with
      | intact =>
        obtain ⟨next, steps', goesOn, inv', -, -, -, acknowledged⟩ :=
          send_intact inv running found unexpired brings safe.1 safe.2 heard
        obtain rfl := Option.some.inj (steps'.symm.trans steps)
        exact ⟨goesOn, inv', fun _ => acknowledged⟩
      | lost =>
        obtain rfl := brings_nil brings
        refine ⟨by simp [arrives, deliver], ?_, False.elim⟩
        simp only [arrives, deliver, List.not_mem_nil, and_false]
        exact inv.congr inv.between rfl rfl rfl rfl
      | damaged packet =>
        obtain ⟨goesOn, silent, between, sameBlock, sameDestination⟩ := send_damaged inv packet unexpired brings safe
        rw [← arrives] at goesOn silent between sameBlock sameDestination
        exact ⟨goesOn, inv.congr between sameBlock sameDestination (by simp [silent]) rfl, False.elim⟩
  | eot inputs lost heard =>
    have kept : ∀ next ∈ linkStep file link (.eot inputs lost heard), LinkReached file next := by
      intro next steps
      rw [linkStep, Option.mem_def] at steps
      obtain ⟨⟨sent, brings⟩, step⟩ := Option.ite_none_right_eq_some.mp steps
      obtain rfl := Option.some.inj step
      refine reached.silent ?_ (fun more => absurd sent (by omega)) heard
      intro input isIn
      cases available : input.available with
      | none => exact .inl rfl
      | some character =>
        have brought : character ∈ inputs.filterMap XmodemInput.available := List.mem_filterMap.mpr ⟨input, isIn, available⟩
        rw [brings.1] at brought
        split at brought
        · cases brought
        · exact .inr (congrArg some (List.mem_singleton.mp brought))
    exact ⟨fun next steps => ⟨(kept next steps).acked, (kept next steps).holds, trivial⟩, kept⟩
  | wait now =>
    have kept : ∀ next ∈ linkStep file link (.wait now), LinkReached file next := by
      intro next steps
      obtain rfl := Option.some.inj steps
      have silent : ∀ input ∈ [(⟨now, none⟩ : XmodemInput)], input.available = none ∨ input.available = some eot := by simp
      have goes := reached.silent silent (fun more => ?_) false
      · simpa using goes
      · obtain ⟨running, -⟩ := reached.active more
        rw [XmodemLink.receive, if_pos running]
        exact wait_running (safe more)
    exact ⟨fun next steps => ⟨(kept next steps).acked, (kept next steps).holds, trivial⟩, kept⟩

/-- A receiver after `XmodemStart` and a sender at the start of any file: the blocks
    arrive, as long as no stored block with number 255 is repeated. -/
theorem xmodem_delivers (file : List XmodemBlock) (idle : XmodemState) (destination : Memory)
    (length : BitVec 32) (receiver : XmodemState)
    (start : xmodemStart destination length idle = some receiver) (events : List LinkEvent)
    (safe : Along (linkStep file) (LinkSafe file) events (linkStart receiver)) :
    Along (linkStep file) (LinkDelivers file) events (linkStart receiver) := by
  rw [xmodemStart, Option.ite_none_left_eq_some] at start
  obtain rfl := Option.some.inj start.2
  exact safe.invariant (LinkReached file) (.inl ⟨rfl, linkStart_inv _ rfl rfl⟩) linkStep_reached

instance (file : List XmodemBlock) (link : XmodemLink) : ∀ event, Decidable (LinkSafe file link event)
  | .block _ .intact _ => inferInstanceAs (Decidable (_ ∧ _ ∧ _))
  | .block _ .lost _ => inferInstanceAs (Decidable (_ ∧ True))
  | .block _ (.damaged _) _ => inferInstanceAs (Decidable (_ ∧ _))
  | .eot _ _ _ => inferInstanceAs (Decidable True)
  | .wait _ => inferInstanceAs (Decidable (_ → _ → _))

/-- A block of zeros. -/
def zeroBlock : XmodemBlock := ⟨List.replicate 128 0, rfl⟩

/-- A file of two blocks, of which the first is sent again because its `ACK` was
    lost. -/
theorem xmodem_delivers_two_blocks :
    ∃ receiver, xmodemStart (fun _ => 0) 256 xmodemInit = some receiver ∧
      Along (linkStep [zeroBlock, zeroBlock]) (LinkDelivers [zeroBlock, zeroBlock])
        [.wait 0, .block [] .lost true, .block (⟨8, none⟩ :: receive 9 (blockPacket 1 zeroBlock)) .intact false,
          .wait 2000000, .block (receive 2000001 (blockPacket 1 zeroBlock)) .intact true,
          .block (receive 2000002 (blockPacket 2 zeroBlock)) .intact true, .eot (receive 2000003 [eot]) false true]
        (linkStart receiver) := by
  refine ⟨_, rfl, xmodem_delivers _ xmodemInit _ _ _ rfl _ ?_⟩
  decide +kernel

/-! ## The block that is refused -/

theorem brings_receive (now : Nat) (bytes : List UInt8) : Brings (receive now bytes) bytes := by
  refine ⟨?_, ?_⟩
  · simp [receive, List.filterMap_map]
  · intro input isLast
    obtain ⟨byte, -, rfl⟩ := List.mem_map.mp (List.mem_of_getLast? isLast)
    rfl

/-- The timer that a packet has started does not expire at the same time. -/
theorem unexpired_receive (bytes : List UInt8) (timer : state.packetTimer = timerRegister xmodemDataTimeo now)
    (clock : now + xmodemDataTimeo < 2 ^ 64) :
    ∀ input ∈ receive now bytes, timerRemaining state.packetTimer input.now ≠ 0 := by
  intro input isIn
  obtain ⟨byte, -, rfl⟩ := List.mem_map.mp isIn
  have running := @restart_running state now clock
  rwa [restart, ← timer] at running

/-- The packets of the first `count` blocks, all of which arrive and are heard of. -/
def sendAll (file : List XmodemBlock) (count : Nat) : List LinkEvent :=
  (List.range count).map fun n => .block (receive 0 (blockPacket (n + 1) (file.getD n zeroBlock))) .intact true

/-- Blocks that are sent and acknowledged one after the other. -/
theorem send_all {file : List XmodemBlock} {link : XmodemLink} (count : Nat)
    (inv : LinkInv file link) (running : link.running = true) (start : link.sending = 1) (none : link.acked.card = 0)
    (timer : link.receiver.packetTimer = timerRegister xmodemDataTimeo 0)
    (blocks : count ≤ file.length) (few : count ≤ 255) :
    ∃ next, (sendAll file count).foldlM (linkStep file) link = some next ∧ next.running = true ∧
      LinkInv file next ∧ next.receiver.packetTimer = timerRegister xmodemDataTimeo 0 ∧
      next.sending = count + 1 ∧ next.acked.card = count := by
  induction count with
  | zero => exact ⟨link, rfl, running, inv, timer, start, none⟩
  | succ count ih =>
    obtain ⟨link', run, running', inv', timer', sending, card⟩ := ih (by omega) (by omega)
    have found : file[link'.sending - 1]? = some file[count] := by
      rw [sending, Nat.add_sub_cancel]
      exact List.getElem?_eq_getElem _
    have here : file.getD count zeroBlock = file[count] := List.getD_eq_getElem _ _ (by omega)
    have position := inv'.mem_acked
    obtain ⟨next, steps, running'', inv'', ⟨input, isIn, timer''⟩, acked, nextSending, -⟩ :=
      send_intact inv' running' found (unexpired_receive _ timer' (by decide)) (brings_receive 0 _) (by omega)
        (by rw [position]; omega) true
    refine ⟨next, ?_, running'', inv'', ?_, by simp [nextSending, sending], ?_⟩
    · rw [sendAll, List.range_succ, List.map_append, List.foldlM_append, ← sendAll, run, Option.bind_eq_bind,
        Option.bind_some]
      rw [sending, ← here] at steps
      rw [List.map_singleton, List.foldlM_cons, steps]
      rfl
    · obtain ⟨byte, -, rfl⟩ := List.mem_map.mp isIn
      exact timer''
    · rw [acked, inv'.insert_acked, Nat.card_Icc]
      omega

/-- The repetition of a stored block with number 255 is refused. -/
theorem repetition_refused (inv : LinkInv file link) (running : link.running = true)
    (found : file[link.sending - 1]? = some block)
    (unexpired : ∀ input ∈ inputs, timerRemaining link.receiver.packetTimer input.now ≠ 0)
    (brings : Brings inputs (blockPacket link.sending block)) (repeated : link.sending ∈ link.acked)
    (wrap : link.sending % 256 = 255) (heard : Bool) :
    ¬ LinkDelivers file link (.block inputs .intact heard) := by
  intro delivers
  rw [inv.mem_acked] at repeated
  have arrives : link.receive inputs = deliver inputs link.receiver := by rw [XmodemLink.receive, if_pos running]
  have begins : (blockPacket link.sending block).head? ≠ some eot := by simp [blockPacket, soh, eot]
  obtain ⟨input, -, entry, sameBlock, -, packet, delivered⟩ :=
    deliver_packet (blockPacket_length link.sending block) inv.between unexpired brings begins
  have number : (entry.packet 1).toNat = link.sending % 256 := by
    rw [packet 1 (by decide)]
    simp [bufferOf, blockPacket]
  have counter : entry.block.toNat = link.sending + 1 := by rw [sameBlock, inv.block, repeated]
  cases xmodemPacket_cases input.now entry with
  | inl accepted =>
    obtain ⟨-, -, below, -⟩ := accepted
    omega
  | inr refused =>
    have replies := (delivers _ (by rw [linkStep, found]; exact if_pos brings)).2.2.2 trivial
    rw [arrives, delivered, refused.2] at replies
    simp [System.ack, nak] at replies

/-- In every file with a block 255: the block arrives, its `ACK` is lost, and its
    repetition is refused, as the receiver waits for number 0. -/
theorem refuses_block_255 {receiver : XmodemState} (between : receiver.i = 0) (first : receiver.block = 1)
    (expired : timerRemaining receiver.packetTimer 0 = 0) (patient : receiver.retry < xmodemDataRetry)
    (enough : 255 ≤ file.length) :
    ¬ Along (linkStep file) (LinkDelivers file)
      (.wait 0 :: sendAll file 254 ++
        .block (receive 0 (blockPacket 255 (file.getD 254 zeroBlock))) .intact false ::
          [.block (receive 0 (blockPacket 255 (file.getD 254 zeroBlock))) .intact true])
      (linkStart receiver) := by
  intro delivers
  obtain ⟨waiting, steps₀, running, inv, timer, sending, card⟩ : ∃ waiting,
      linkStep file (linkStart receiver) (.wait 0) = some waiting ∧ waiting.running = true ∧ LinkInv file waiting ∧
        waiting.receiver.packetTimer = timerRegister xmodemDataTimeo 0 ∧ waiting.sending = 1 ∧ waiting.acked.card = 0 := by
    have found : XmodemInput.found receiver ⟨0, none⟩ = none := ite_self none
    obtain ⟨running, -⟩ | ⟨-, -, polls⟩ | ⟨-, exhausted, -⟩ := xmodemPoll_cases 0 none receiver
    · exact absurd expired running
    · refine ⟨_, rfl, ?_, ?_, ?_, rfl, rfl⟩
      · simp [linkStart, XmodemLink.receive, deliver, found, polls, xmodemRead, taskIdle, taskFinished]
      · refine (linkStart_inv receiver between first).congr ?_ ?_ ?_ rfl rfl <;>
          simp [linkStart, XmodemLink.receive, deliver, found, polls, xmodemRead, taskIdle, taskFinished, restart]
      · simp [linkStart, XmodemLink.receive, deliver, found, polls, xmodemRead, taskIdle, taskFinished, restart]
    · omega
  obtain ⟨link, run, running, inv, timer, sending, card⟩ :=
    send_all 254 inv running sending card timer (by omega) (by decide)
  have found : file[link.sending - 1]? = some file[254] := by
    rw [sending]
    exact List.getElem?_eq_getElem _
  have here : file.getD 254 zeroBlock = file[254] := List.getD_eq_getElem _ _ (by omega)
  rw [here] at delivers
  obtain ⟨next, steps, nextRunning, nextInv, ⟨input, isIn, timer'⟩, acked, nextSending, -⟩ :=
    send_intact inv running found (unexpired_receive _ timer (by decide)) (brings_receive 0 _) (by omega)
      (by rw [inv.mem_acked]; omega) false
  obtain ⟨byte, -, rfl⟩ := List.mem_map.mp isIn
  simp only [Bool.false_eq_true, ↓reduceIte] at nextSending
  have reached : (LinkEvent.wait 0 :: sendAll file 254 ++
      [LinkEvent.block (receive 0 (blockPacket 255 file[254])) .intact false]).foldlM
      (linkStep file) (linkStart receiver) = some next := by
    rw [sending] at steps
    rw [List.cons_append, List.foldlM_cons, steps₀, Option.bind_eq_bind, Option.bind_some, List.foldlM_append, run]
    simpa using steps
  have repeated : next.sending ∈ next.acked := by
    rw [acked, nextSending]
    exact Finset.mem_insert_self _ _
  rw [List.append_cons] at delivers
  have last := delivers.at_event reached
  have number : next.sending = 255 := by omega
  refine repetition_refused nextInv nextRunning (by rw [nextSending]; exact found) ?_ ?_ repeated (by omega) true last
  · exact unexpired_receive _ timer' (by decide)
  · rw [number]
    exact brings_receive 0 _

/-- The blocks of a file of 256 blocks do not all arrive when the `ACK` of block
    255 is lost. -/
theorem xmodem_refuses_repetition :
    ∃ receiver, xmodemStart (fun _ => 0) 32768 xmodemInit = some receiver ∧
      ¬ Along (linkStep (List.replicate 256 zeroBlock)) (LinkDelivers (List.replicate 256 zeroBlock))
        (.wait 0 :: sendAll (List.replicate 256 zeroBlock) 254 ++
          .block (receive 0 (blockPacket 255 zeroBlock)) .intact false ::
            [.block (receive 0 (blockPacket 255 zeroBlock)) .intact true])
        (linkStart receiver) := by
  have last : (List.replicate 256 zeroBlock).getD 254 zeroBlock = zeroBlock := by
    rw [List.getD_eq_getElem _ _ (by rw [List.length_replicate]; decide), List.getElem_replicate]
  have refused := @refuses_block_255 (List.replicate 256 zeroBlock)
    { xmodemInit with block := 1, length := 32768 } rfl rfl (by decide) (by decide) (by rw [List.length_replicate]; decide)
  rw [last] at refused
  exact ⟨_, rfl, refused⟩

end ComputerSystems.Verified
