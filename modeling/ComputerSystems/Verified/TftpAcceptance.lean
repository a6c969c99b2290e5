import ComputerSystems.Board.Rpi
import ComputerSystems.Network.TftpGet
import ComputerSystems.Verified.TftpDownload

/-! # Which packets the TFTP client accepts

A datagram is accepted as the next block, acknowledged as a repetition of the last one,
or it changes nothing but the status and the timer.  The number of the last block is
computed as an `int` from the low half of the counter, so that no packet repeats a block
in front of a multiple of 65536.

An accepted block is copied with the length of its packet to the place that its number
gives.
-/

namespace ComputerSystems.Verified

open ComputerSystems.Board ComputerSystems.Data ComputerSystems.System ComputerSystems.Network

variable {tftp : TftpCb} {now : Nat} {allocates : Bool} {payload : List UInt8} {datagram : Datagram}

/-! ## What an acknowledgement does -/

theorem tftpAcknowledge_acked (wire : BitVec 16) (nbytes : Nat) (result : TftpResult) :
    (tftpAcknowledge now allocates wire nbytes result).acked = if allocates then some wire else none := by
  rw [tftpAcknowledge]
  split
  · rfl
  · split <;> rfl

/-- The status becomes end-of-file at a short block, and at no other. -/
theorem tftpAcknowledge_status (wire : BitVec 16) (nbytes : Nat) (result : TftpResult) :
    (nbytes < tftpBlockSize → (tftpAcknowledge now allocates wire nbytes result).tftp.status = tftpEof) ∧
      ((tftpAcknowledge now allocates wire nbytes result).tftp.status = tftpEof → result.tftp.status ≠ tftpEof →
        nbytes < tftpBlockSize) := by
  by_cases short : nbytes < tftpBlockSize
  · simp [tftpAcknowledge, short, tftpKill]
  · refine ⟨fun isShort => absurd isShort short, ?_⟩
    intro ends other
    cases allocates with
    | true =>
      have going : tftpOk ≠ tftpSysErr := by decide
      simp only [tftpAcknowledge, short, going, ↓reduceIte] at ends
      exact absurd ends other
    | false => simp [tftpAcknowledge, short, tftpKill, tftpSysErr, tftpEof] at ends

/-! ## One datagram -/

/-- A `DATA` packet with this number. -/
def IsData (payload : List UInt8) (number : BitVec 16) : Prop :=
  4 ≤ payload.length ∧ (net2hs payload 0).toNat = tftpOpcodeData ∧ net2hs payload 2 = number

/-- The packet of the next block. -/
def IsNext (payload : List UInt8) (tftp : TftpCb) : Prop := IsData payload (tftp.nextBlockNumber.setWidth 16)

instance {number : BitVec 16} : Decidable (IsData payload number) := inferInstanceAs (Decidable (_ ∧ _ ∧ _))

instance : Decidable (IsNext payload tftp) := inferInstanceAs (Decidable (IsData _ _))

/-- The next block is copied to the place that its number gives, and acknowledged. -/
structure BlockAccepted (payload : List UInt8) (allocates : Bool) (tftp : TftpCb) (result : TftpResult) : Prop where
  copied : result.copied = some ((((net2hs payload 2).toNat : Int) - 1) * tftpBlockSize, payload.drop 4)
  next : result.tftp.nextBlockNumber = tftp.nextBlockNumber + 1
  ends : (payload.drop 4).length < tftpBlockSize → result.tftp.status = tftpEof
  short : result.tftp.status = tftpEof → tftp.status ≠ tftpEof → (payload.drop 4).length < tftpBlockSize

theorem tftpPacket_accepts (next : IsNext payload tftp) :
    BlockAccepted payload allocates tftp (tftpPacket now allocates payload tftp) := by
  obtain ⟨long, opcode, number⟩ := next
  have goes : ¬ (payload.length < 4 ∨ (net2hs payload 0).toNat ≠ tftpOpcodeData ∨
      (net2hs payload 2 ≠ tftp.nextBlockNumber.setWidth 16 ∧ (tftp.nextBlockNumber = 1 ∨
        ((net2hs payload 2).toNat : Int) ≠ ((tftp.nextBlockNumber.setWidth 16).toNat : Int) - 1))) := by
    rintro (short | other | other)
    · omega
    · exact other opcode
    · exact other.1 number
  simp only [tftpPacket, if_neg goes, if_pos number]
  constructor
  · exact (tftpAcknowledge_kept _ _ _).1
  · exact (tftpAcknowledge_kept _ _ _).2.2
  · exact (tftpAcknowledge_status _ _ _).1
  · exact (tftpAcknowledge_status _ _ _).2

/-- A packet that repeats the last block is acknowledged. -/
def IsRepeated (payload : List UInt8) (tftp : TftpCb) : Prop :=
  4 ≤ payload.length ∧ (net2hs payload 0).toNat = tftpOpcodeData ∧ tftp.nextBlockNumber ≠ 1 ∧
    ((net2hs payload 2).toNat : Int) = ((tftp.nextBlockNumber.setWidth 16).toNat : Int) - 1

theorem tftpPacket_repeats (repeated : IsRepeated payload tftp) :
    tftpPacket now allocates payload tftp =
      tftpAcknowledge now allocates (net2hs payload 2) tftpBlockSize { tftp } := by
  obtain ⟨long, opcode, later, number⟩ := repeated
  have short : ¬ payload.length < 4 := Nat.not_lt.mpr long
  have other : net2hs payload 2 ≠ tftp.nextBlockNumber.setWidth 16 := by
    intro same
    rw [same] at number
    omega
  simp only [tftpPacket, short, opcode, later, number, other, ne_eq, not_true_eq_false, not_false_eq_true, and_false,
    or_self, ↓reduceIte]

/-- Any other packet is ignored, or reports an error. -/
theorem tftpPacket_ignores (next : ¬ IsNext payload tftp) (repeated : ¬ IsRepeated payload tftp) :
    tftpPacket now allocates payload tftp = { tftp } ∨
      tftpPacket now allocates payload tftp = { tftp := tftpKill now tftpSysErr tftp } := by
  have bad : payload.length < 4 ∨ (net2hs payload 0).toNat ≠ tftpOpcodeData ∨
      (net2hs payload 2 ≠ tftp.nextBlockNumber.setWidth 16 ∧ (tftp.nextBlockNumber = 1 ∨
        ((net2hs payload 2).toNat : Int) ≠ ((tftp.nextBlockNumber.setWidth 16).toNat : Int) - 1)) := by
    by_contra good
    simp only [not_or, not_and, ne_eq, not_not, Nat.not_lt] at good
    obtain ⟨long, opcode, number⟩ := good
    have other : net2hs payload 2 ≠ tftp.nextBlockNumber.setWidth 16 := fun same => next ⟨long, opcode, same⟩
    exact repeated ⟨long, opcode, number other⟩
  simp only [tftpPacket, if_pos bad]
  split
  · exact .inr rfl
  · exact .inl rfl

/-- The datagrams that are treated as packets: the first must come from the server. -/
def Heard (datagram : Datagram) (tftp : TftpCb) : Prop :=
  tftp.nextBlockNumber = 1 → tftp.serverIp = datagram.address

instance : Decidable (Heard datagram tftp) := inferInstanceAs (Decidable (_ → _))

/-- Connecting to the server changes nothing that a packet depends on. -/
theorem tftpRecv_heard (heard : Heard datagram tftp) :
    ∃ udpdev bnum, tftpRecv now allocates datagram tftp =
      tftpPacket now allocates datagram.payload { tftp with udpdev, bnum } := by
  by_cases first : tftp.nextBlockNumber = 1
  · refine ⟨udpConnect datagram.address datagram.port tftp.udpdev, 0, ?_⟩
    simp only [tftpRecv, first, heard first, udpConnect, ne_eq, not_true_eq_false, ↓reduceIte]
  · exact ⟨tftp.udpdev, tftp.bnum, by rw [tftpRecv, if_neg first]⟩

theorem tftpRecv_unheard (unheard : ¬ Heard datagram tftp) : tftpRecv now allocates datagram tftp = { tftp } := by
  obtain ⟨first, other⟩ := Classical.not_imp.mp unheard
  rw [tftpRecv, if_pos first, if_pos other]

/-! ## Places -/

/-- A datagram that arrives. -/
structure Reception where
  now : Nat
  allocates : Bool
  datagram : Datagram

def receptionStep (tftp : TftpCb) (reception : Reception) : Option TftpCb :=
  some (tftpRecv reception.now reception.allocates reception.datagram tftp).tftp

/-- What is copied stays inside the slot of its block and inside the load area, and the
    status becomes end-of-file exactly at a block that is short. -/
def StaysInPlace (tftp : TftpCb) (reception : Reception) : Prop :=
  let result := tftpRecv reception.now reception.allocates reception.datagram tftp
  (∀ offset data, result.copied = some (offset, data) → ∀ cell, offset ≤ cell → cell < offset + data.length →
    ((tftp.nextBlockNumber.toNat : Int) - 1) * tftpBlockSize ≤ cell ∧
      cell < (tftp.nextBlockNumber.toNat : Int) * tftpBlockSize ∧ 0 ≤ cell ∧ cell < runSize) ∧
    (∀ offset data, result.copied = some (offset, data) → data.length < tftpBlockSize → result.tftp.status = tftpEof) ∧
    (result.tftp.status = tftpEof → tftp.status ≠ tftpEof →
      ∃ offset data, result.copied = some (offset, data) ∧ data.length < tftpBlockSize)

/-- A packet that is accepted holds at most a block, and the load area has room for it. -/
def HasRoom (tftp : TftpCb) (reception : Reception) : Prop :=
  Heard reception.datagram tftp → IsNext reception.datagram.payload tftp → 4 < reception.datagram.payload.length →
    reception.datagram.payload.length - 4 ≤ tftpBlockSize ∧ 1 ≤ tftp.nextBlockNumber.toNat ∧
      (tftp.nextBlockNumber.toNat - 1) * tftpBlockSize + (reception.datagram.payload.length - 4) ≤ runSize

instance {reception : Reception} : Decidable (HasRoom tftp reception) := inferInstanceAs (Decidable (_ → _ → _ → _))

/-- The bytes of an accepted block are all in place if and only if there is room. -/
theorem slot_iff {number length : Nat} :
    (∀ cell : Int, (((number % 2 ^ 16 : Nat) : Int) - 1) * 512 ≤ cell →
        cell < (((number % 2 ^ 16 : Nat) : Int) - 1) * 512 + length →
        ((number : Int) - 1) * 512 ≤ cell ∧ cell < (number : Int) * 512 ∧ 0 ≤ cell ∧ cell < 16744448) ↔
      (0 < length → length ≤ 512 ∧ 1 ≤ number ∧ (number - 1) * 512 + length ≤ 16744448) := by
  constructor
  · intro inside positive
    have first := inside ((((number % 2 ^ 16 : Nat) : Int) - 1) * 512) (by omega) (by omega)
    have last := inside ((((number % 2 ^ 16 : Nat) : Int) - 1) * 512 + (length - 1)) (by omega) (by omega)
    omega
  · intro room cell lower upper
    have fits := room (by omega)
    omega

/-- Nothing is copied, and the status does not become end-of-file. -/
structure BlockRefused (tftp : TftpCb) (result : TftpResult) : Prop where
  copied : result.copied = none
  next : result.tftp.nextBlockNumber = tftp.nextBlockNumber
  destination : result.tftp.destination = tftp.destination
  status : result.tftp.status = tftpEof → tftp.status = tftpEof

theorem tftpPacket_unaccepted (next : ¬ IsNext payload tftp) :
    BlockRefused tftp (tftpPacket now allocates payload tftp) := by
  by_cases repeated : IsRepeated payload tftp
  · rw [tftpPacket_repeats repeated]
    obtain ⟨copied, destination, kept⟩ := @tftpAcknowledge_kept now allocates (net2hs payload 2) tftpBlockSize { tftp }
    refine ⟨copied, kept, destination, ?_⟩
    intro ends
    by_contra other
    have short := (tftpAcknowledge_status _ _ _).2 ends other
    omega
  · have apart : tftpSysErr ≠ tftpEof := by decide
    cases @tftpPacket_ignores tftp now allocates payload next repeated with
    | inl ignored =>
      rw [ignored]
      exact ⟨rfl, rfl, rfl, id⟩
    | inr failed =>
      rw [failed]
      exact ⟨rfl, rfl, rfl, fun ends => absurd ends apart⟩

/-- A datagram is accepted as the next block or it is not. -/
theorem tftpRecv_cases (now : Nat) (allocates : Bool) (datagram : Datagram) (tftp : TftpCb) :
    (Heard datagram tftp ∧ IsNext datagram.payload tftp ∧
      BlockAccepted datagram.payload allocates tftp (tftpRecv now allocates datagram tftp)) ∨
    (¬ (Heard datagram tftp ∧ IsNext datagram.payload tftp) ∧ BlockRefused tftp (tftpRecv now allocates datagram tftp)) := by
  by_cases heard : Heard datagram tftp
  · obtain ⟨udpdev, bnum, recv⟩ := @tftpRecv_heard tftp now allocates datagram heard
    rw [recv]
    by_cases next : IsNext datagram.payload tftp
    · have same : IsNext datagram.payload { tftp with udpdev, bnum } := next
      obtain ⟨copied, counted, ends, short⟩ := @tftpPacket_accepts _ now allocates datagram.payload same
      exact .inl ⟨heard, next, copied, counted, ends, short⟩
    · have same : ¬ IsNext datagram.payload { tftp with udpdev, bnum } := next
      obtain ⟨copied, counted, destination, status⟩ := @tftpPacket_unaccepted _ now allocates datagram.payload same
      exact .inr ⟨fun both => next both.2, copied, counted, destination, status⟩
  · rw [tftpRecv_unheard heard]
    exact .inr ⟨fun both => heard both.1, rfl, rfl, rfl, id⟩

/-- One datagram stays in place exactly if there is room for it. -/
theorem staysInPlace_iff (tftp : TftpCb) (reception : Reception) :
    StaysInPlace tftp reception ↔ HasRoom tftp reception := by
  obtain ⟨now, allocates, datagram⟩ := reception
  cases tftpRecv_cases now allocates datagram tftp with
  | inr unaccepted =>
    obtain ⟨notNext, result⟩ := unaccepted
    constructor
    · intro _ heard next
      exact absurd ⟨heard, next⟩ notNext
    · intro _
      refine ⟨?_, ?_, ?_⟩
      · intro offset data copied
        rw [result.copied] at copied
        cases copied
      · intro offset data copied
        rw [result.copied] at copied
        cases copied
      · exact fun ends other => absurd (result.status ends) other
  | inl accepted =>
    obtain ⟨heard, next, result⟩ := accepted
    -- the offset comes from the number in the packet, which has only 16 bits
    have number : (net2hs datagram.payload 2).toNat = tftp.nextBlockNumber.toNat % 2 ^ 16 := by
      rw [next.2.2, BitVec.toNat_setWidth]
    have length : (datagram.payload.drop 4).length = datagram.payload.length - 4 := List.length_drop
    have slot := @slot_iff tftp.nextBlockNumber.toNat (datagram.payload.length - 4)
    constructor
    · rintro ⟨places, _, _⟩ _ _ positive
      refine slot.mp ?_ (Nat.sub_pos_of_lt positive)
      intro cell lower upper
      refine places _ _ result.copied cell ?_ ?_
      · rw [number]
        exact lower
      · rw [number, length]
        exact upper
    · intro room
      refine ⟨?_, ?_, ?_⟩
      · intro offset data copied cell lower upper
        rw [result.copied] at copied
        obtain ⟨rfl, rfl⟩ := Prod.mk.inj (Option.some.inj copied)
        rw [number] at lower upper
        rw [length] at upper
        exact slot.mpr (fun positive => room heard next (Nat.lt_of_sub_pos positive)) cell lower upper
      · intro offset data copied
        rw [result.copied] at copied
        obtain ⟨rfl, rfl⟩ := Prod.mk.inj (Option.some.inj copied)
        exact result.ends
      · exact fun ends other => ⟨_, _, result.copied, result.short ends other⟩

/-- A client stays in place in a run exactly if there is room for every block that it
    accepts. -/
theorem tftp_writes_in_place_iff (tftp : TftpCb) (receptions : List Reception) :
    Along receptionStep StaysInPlace receptions tftp ↔ Along receptionStep HasRoom receptions tftp := by
  induction receptions generalizing tftp with
  | nil => exact Iff.rfl
  | cons reception receptions ih =>
    rw [along_cons, along_cons, staysInPlace_iff]
    exact and_congr_right fun _ => forall₂_congr fun next _ => ih next

theorem dataPacket_length {number : Nat} {data : List UInt8} : (dataPacket number data).length = data.length + 4 :=
  rfl

/-- A packet of the server with 513 bytes of data. -/
def oversizedBlock : Reception where
  now := 0
  allocates := true
  datagram := { address := 0xC0A80103, port := 50001, payload := dataPacket 1 (List.replicate 513 0) }

/-- The last byte of a packet with 513 bytes lands in the slot of the next block. -/
theorem tftp_leaves_slot :
    ¬ Along receptionStep StaysInPlace [oversizedBlock] (tftpStart 0xC0A80103 ⟨50000, 0, 0⟩ 0 (fun _ => 0) 0) := by
  intro along
  have room := (staysInPlace_iff _ _).mp along.1
  have next : IsNext oversizedBlock.datagram.payload (tftpStart 0xC0A80103 ⟨50000, 0, 0⟩ 0 (fun _ => 0) 0) :=
    ⟨Nat.not_lt.mp dataPacket_long, dataPacket_opcode, dataPacket_number⟩
  have length : oversizedBlock.datagram.payload.length = 513 + 4 :=
    dataPacket_length.trans (congrArg (· + 4) List.length_replicate)
  have fits := (room (fun _ => rfl) next (by omega)).1
  rw [length] at fits
  exact absurd fits (by decide)

/-! ## Repetitions -/

/-- A packet that repeats block `number` is acknowledged and changes neither the counter
    nor what is stored. -/
def Reacknowledged (now : Nat) (allocates : Bool) (number : Nat) (address : BitVec 32) (port : BitVec 16)
    (data : List UInt8) (tftp : TftpCb) : Prop :=
  let result := tftpRecv now allocates { address, port, payload := dataPacket number data } tftp
  result.acked = some (BitVec.ofNat 16 number) ∧ result.tftp.nextBlockNumber = tftp.nextBlockNumber ∧
    result.tftp.destination = tftp.destination

/-- The client counts the blocks that it accepts. -/
def CountsBlocks (transfer : TftpTransfer) : Prop :=
  transfer.task.tftp.nextBlockNumber = BitVec.ofNat 32 (transfer.accepted + 1)

/-- A poll never changes the counter. -/
theorem tftpPoll_next (env : TftpPollEnv) (task : TftpTask) :
    (tftpPoll env task).task.tftp.nextBlockNumber = task.tftp.nextBlockNumber := by
  have get : (tftpGet env task).task.tftp.nextBlockNumber = task.tftp.nextBlockNumber := by
    fun_cases tftpGet env task <;> try rfl
    fun_cases tftpAgain <;> rfl
  rw [tftpPoll]
  split
  · exact get
  · exact get

theorem transferStep_counts {transfer : TftpTransfer} (event : TftpEvent) (counts : CountsBlocks transfer) :
    CountsBlocks (transferStep transfer event) := by
  cases event with
  | poll env =>
    rw [transferStep]
    split
    · exact (tftpPoll_next env transfer.task).trans counts
    · exact counts
  | datagram now allocates datagram =>
    by_cases registered : transfer.task.recvUdpdev.isSome
    · simp only [transferStep, registered, ↓reduceIte, CountsBlocks]
      cases tftpRecv_cases now allocates datagram transfer.task.tftp with
      | inl accepted =>
        obtain ⟨_, _, result⟩ := accepted
        rw [result.next, result.copied, Option.isSome_some, if_pos rfl, counts, BitVec.ofNat_add (transfer.accepted + 1)]
        rfl
      | inr unaccepted =>
        obtain ⟨_, result⟩ := unaccepted
        rw [result.next, result.copied]
        exact counts
    · rw [transferStep, if_neg registered]
      exact counts

theorem transfer_counts {transfer : TftpTransfer} (events : List TftpEvent) (counts : CountsBlocks transfer) :
    CountsBlocks (events.foldl transferStep transfer) := by
  induction events generalizing transfer with
  | nil => exact counts
  | cons event events ih => exact ih (transferStep_counts event counts)

/-- The packet of the last block is recognised if the low half of the counter is not 0 and
    the counter has not come round to 1. -/
theorem isRepeated_iff {accepted : Nat} {data : List UInt8}
    (counts : tftp.nextBlockNumber = BitVec.ofNat 32 (accepted + 1)) :
    IsRepeated (dataPacket accepted data) tftp ↔ (accepted + 1) % 2 ^ 16 ≠ 0 ∧ accepted % 2 ^ 32 ≠ 0 := by
  have low : ((tftp.nextBlockNumber.setWidth 16).toNat : Int) = ((accepted + 1) % 2 ^ 16 : Nat) := by
    rw [counts, BitVec.toNat_setWidth, BitVec.toNat_ofNat]
    omega
  have number : (net2hs (dataPacket accepted data) 2).toNat = accepted % 2 ^ 16 := by
    rw [dataPacket_number, BitVec.toNat_ofNat]
  have one : (1 : BitVec 32).toNat = 1 := rfl
  have first : tftp.nextBlockNumber = 1 ↔ accepted % 2 ^ 32 = 0 := by
    rw [counts, ← BitVec.toNat_inj, BitVec.toNat_ofNat, one]
    omega
  rw [IsRepeated, low, number, ne_eq, first]
  constructor
  · rintro ⟨_, _, later, same⟩
    exact ⟨by omega, later⟩
  · rintro ⟨positive, later⟩
    exact ⟨Nat.not_lt.mp dataPacket_long, dataPacket_opcode, later, by omega⟩

/-- The packet of the last block never has the number of the next one. -/
theorem not_isNext_last {accepted : Nat} {data : List UInt8}
    (counts : tftp.nextBlockNumber = BitVec.ofNat 32 (accepted + 1)) : ¬ IsNext (dataPacket accepted data) tftp := by
  rintro ⟨_, _, number⟩
  rw [dataPacket_number, number_expected_iff, counts, BitVec.toNat_ofNat] at number
  omega

/-- Nothing but a repetition of the last block makes the client acknowledge a packet that
    is not the next block. -/
theorem tftpPacket_acked (next : ¬ IsNext payload tftp) {number : BitVec 16}
    (acked : (tftpPacket now allocates payload tftp).acked = some number) : allocates = true ∧ IsRepeated payload tftp := by
  by_cases repeated : IsRepeated payload tftp
  · rw [tftpPacket_repeats repeated, tftpAcknowledge_acked] at acked
    cases allocates with
    | true => exact ⟨rfl, repeated⟩
    | false => cases acked
  · cases @tftpPacket_ignores tftp now allocates payload next repeated with
    | inl ignored =>
      rw [ignored] at acked
      cases acked
    | inr failed =>
      rw [failed] at acked
      cases acked

theorem reacknowledged_iff {accepted : Nat} {data : List UInt8} {address : BitVec 32} {port : BitVec 16}
    (counts : tftp.nextBlockNumber = BitVec.ofNat 32 (accepted + 1)) :
    Reacknowledged now allocates accepted address port data tftp ↔
      allocates = true ∧ (accepted + 1) % 2 ^ 16 ≠ 0 ∧ accepted % 2 ^ 32 ≠ 0 := by
  have repeats := @isRepeated_iff tftp accepted data counts
  have notNext := @not_isNext_last tftp accepted data counts
  constructor
  · rintro ⟨acked, _, _⟩
    by_cases heard : Heard { address, port, payload := dataPacket accepted data } tftp
    · obtain ⟨udpdev, bnum, recv⟩ := @tftpRecv_heard tftp now allocates _ heard
      rw [recv] at acked
      obtain ⟨allocated, repeated⟩ := @tftpPacket_acked { tftp with udpdev, bnum } _ _ _ notNext _ acked
      exact ⟨allocated, repeats.mp repeated⟩
    · rw [tftpRecv_unheard heard] at acked
      cases acked
  · rintro ⟨allocated, recognised⟩
    have repeated : IsRepeated (dataPacket accepted data) tftp := repeats.mpr recognised
    have heard : Heard { address, port, payload := dataPacket accepted data } tftp :=
      fun first => absurd first repeated.2.2.1
    obtain ⟨udpdev, bnum, recv⟩ := @tftpRecv_heard tftp now allocates _ heard
    have again := @tftpPacket_repeats { tftp with udpdev, bnum } now allocates _ repeated
    obtain ⟨_, destination, next⟩ := @tftpAcknowledge_kept now allocates (net2hs (dataPacket accepted data) 2)
      tftpBlockSize { tftp := { tftp with udpdev, bnum } }
    rw [Reacknowledged, recv, again]
    refine ⟨?_, next, destination⟩
    rw [tftpAcknowledge_acked, allocated, if_pos rfl, dataPacket_number]

variable {serverIp : BitVec 32} {udpdev : UdpPcb} {destination : Memory} {bnum : BitVec 16} {filename : List UInt8}
  {pcb : Nat}

theorem transferStart_counts :
    CountsBlocks (transferStart (tftpStart serverIp udpdev now destination bnum) filename pcb) := rfl

/-- In every state that a transfer reaches, a repetition of the last block is acknowledged
    exactly if there is a buffer, the number of the next block is not a multiple of
    65536 and the counter of 32 bits has not come round. -/
theorem tftp_duplicates_acknowledged_iff (serverIp : BitVec 32) (udpdev : UdpPcb) (start : Nat) (destination : Memory)
    (bnum : BitVec 16) (filename : List UInt8) (pcb : Nat) (events : List TftpEvent) (now : Nat) (allocates : Bool)
    (address : BitVec 32) (port : BitVec 16) (data : List UInt8) :
    let transfer := events.foldl transferStep
      (transferStart (tftpStart serverIp udpdev start destination bnum) filename pcb)
    Reacknowledged now allocates transfer.accepted address port data transfer.task.tftp ↔
      allocates = true ∧ (transfer.accepted + 1) % 2 ^ 16 ≠ 0 ∧ transfer.accepted % 2 ^ 32 ≠ 0 :=
  reacknowledged_iff (transfer_counts events transferStart_counts)

/-- A datagram that is the next block is counted. -/
theorem transferStep_accepts {transfer : TftpTransfer} (registered : transfer.task.recvUdpdev = some pcb)
    (heard : Heard datagram transfer.task.tftp) (next : IsNext datagram.payload transfer.task.tftp) :
    (transferStep transfer (.datagram now allocates datagram)).accepted = transfer.accepted + 1 ∧
      (transferStep transfer (.datagram now allocates datagram)).task.recvUdpdev = some pcb := by
  have copied : (tftpRecv now allocates datagram transfer.task.tftp).copied.isSome = true := by
    cases tftpRecv_cases now allocates datagram transfer.task.tftp with
    | inl accepted => rw [accepted.2.2.copied, Option.isSome_some]
    | inr unaccepted => exact absurd ⟨heard, next⟩ unaccepted.1
  simp only [transferStep, registered, copied, Option.isSome_some, ↓reduceIte, and_self]

/-- The packet of block `number` of a file of zeros. -/
def zeroData (address : BitVec 32) (number : Nat) : Datagram :=
  { address, port := 50001, payload := dataPacket number (List.replicate tftpBlockSize 0) }

/-- The first `count` blocks arrive in order. -/
def blocksInOrder (address : BitVec 32) (count : Nat) : List TftpEvent :=
  (List.range count).map fun n => .datagram 0 true (zeroData address (n + 1))

/-- They are all accepted, unless the counter comes round. -/
theorem blocksInOrder_accepted {count : Nat} (few : count < 2 ^ 32) :
    let transfer := (blocksInOrder serverIp count).foldl transferStep
      (transferStart (tftpStart serverIp udpdev now destination bnum) filename pcb)
    transfer.accepted = count ∧ transfer.task.recvUdpdev = some pcb := by
  induction count with
  | zero => exact ⟨rfl, rfl⟩
  | succ count ih =>
    obtain ⟨accepted, registered⟩ := ih (Nat.lt_of_succ_lt few)
    have counts := transfer_counts (blocksInOrder serverIp count)
      (@transferStart_counts now serverIp udpdev destination bnum filename pcb)
    rw [CountsBlocks, accepted] at counts
    have one : (1 : BitVec 32).toNat = 1 := rfl
    have heard : Heard (zeroData serverIp (count + 1)) ((blocksInOrder serverIp count).foldl transferStep
        (transferStart (tftpStart serverIp udpdev now destination bnum) filename pcb)).task.tftp := by
      intro first
      rw [counts, ← BitVec.toNat_inj, BitVec.toNat_ofNat, one] at first
      obtain rfl : count = 0 := by omega
      rfl
    have next : IsNext (zeroData serverIp (count + 1)).payload ((blocksInOrder serverIp count).foldl transferStep
        (transferStart (tftpStart serverIp udpdev now destination bnum) filename pcb)).task.tftp := by
      refine ⟨Nat.not_lt.mp dataPacket_long, dataPacket_opcode, ?_⟩
      rw [zeroData, dataPacket_number, number_expected_iff, counts, BitVec.toNat_ofNat]
      omega
    obtain ⟨counted, still⟩ := @transferStep_accepts 0 true _ pcb _ registered heard next
    rw [blocksInOrder, List.range_succ, List.map_append, List.foldl_append]
    exact ⟨counted.trans (congrArg (· + 1) accepted), still⟩

/-- In front of a multiple of 65536 a repetition is ignored. -/
theorem blocksInOrder_ignores {count : Nat} (few : count < 2 ^ 32) (multiple : (count + 1) % 2 ^ 16 = 0)
    (port : BitVec 16) (data : List UInt8) :
    let transfer := (blocksInOrder serverIp count).foldl transferStep
      (transferStart (tftpStart serverIp udpdev now destination bnum) filename pcb)
    transfer.accepted = count ∧ transfer.task.recvUdpdev = some pcb ∧
      ¬ Reacknowledged now true count serverIp port data transfer.task.tftp := by
  obtain ⟨accepted, registered⟩ := @blocksInOrder_accepted now serverIp udpdev destination bnum filename pcb count few
  refine ⟨accepted, registered, ?_⟩
  have counts := transfer_counts (blocksInOrder serverIp count)
    (@transferStart_counts now serverIp udpdev destination bnum filename pcb)
  rw [CountsBlocks, accepted] at counts
  rw [reacknowledged_iff counts]
  exact fun recognised => recognised.2.1 multiple

/-- A repetition of block 65535 is ignored. -/
theorem tftp_ignores_duplicate :
    let transfer := (blocksInOrder 0xC0A80103 65535).foldl transferStep
      (transferStart (tftpStart 0xC0A80103 ⟨50000, 0, 0⟩ 0 (fun _ => 0) 0) [97] 0)
    transfer.accepted = 65535 ∧ transfer.task.recvUdpdev = some 0 ∧
      ¬ Reacknowledged 0 true 65535 0xC0A80103 50001 (List.replicate tftpBlockSize 0) transfer.task.tftp :=
  blocksInOrder_ignores (by decide) (by decide) 50001 _

end ComputerSystems.Verified
