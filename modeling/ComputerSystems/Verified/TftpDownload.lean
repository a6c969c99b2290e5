import ComputerSystems.Data.Run
import ComputerSystems.Network.Tftp
import Mathlib.Data.List.FinRange

/-! # A TFTP download

The server serves a file in blocks of 512 bytes, the last of which is shorter.
The number in a `DATA` packet is the number of the block modulo `2 ^ 16`.  The
network delivers the packets of the file in any order, any number of times or
not at all.

The client compares the number with the low half of its counter, but computes the
place of the block from the number alone.  The two agree as long as no number is
used twice, which is exactly when the file has at most 65535 blocks
(`tftp_stores_blocks_iff`).
-/

namespace ComputerSystems.Verified

open ComputerSystems.Data ComputerSystems.System ComputerSystems.Network

/-- A file as a server cuts it: full blocks and a shorter one, which is empty when
    the length of the file is a multiple of 512. -/
structure TftpFile where
  full : List (List UInt8)
  last : List UInt8
  sizes : ∀ block ∈ full, block.length = tftpBlockSize
  short : last.length < tftpBlockSize

def TftpFile.blocks (file : TftpFile) : List (List UInt8) := file.full ++ [file.last]

/-- The `DATA` packet of a block. -/
def dataPacket (number : Nat) (data : List UInt8) : List UInt8 :=
  [0, 3, UInt8.ofNat (number / 256), UInt8.ofNat number] ++ data

/-- The arrival of a packet of the file at the client. -/
structure Arrival (file : TftpFile) where
  block : Fin file.blocks.length
  port : BitVec 16 := 0
  now : Nat := 0
  allocates : Bool := true

/-- The client, and everything that it has copied to its destination. -/
structure Download where
  tftp : TftpCb
  writes : List (Int × List UInt8)

/-- A packet of the server arrives. -/
def downloadStep (file : TftpFile) (download : Download) (arrival : Arrival file) : Option Download :=
  let datagram : Datagram :=
    { address := download.tftp.serverIp, port := arrival.port
      payload := dataPacket (arrival.block + 1) (file.blocks.get arrival.block) }
  let result := tftpRecv arrival.now arrival.allocates datagram download.tftp
  some { tftp := result.tftp, writes := download.writes ++ result.copied.toList }

/-- Block `n + 1` goes to the index `n * 512`. -/
def blockWrites (blocks : List (List UInt8)) : List (Int × List UInt8) :=
  blocks.mapIdx fun n block => ((n * tftpBlockSize : Nat), block)

/-- After the packet the client holds the blocks before the one it waits for, and
    has written each of them once, in its place and in order. -/
def StoresBlocks (file : TftpFile) (download : Download) (arrival : Arrival file) : Prop :=
  ∀ next ∈ downloadStep file download arrival, ∃ count ≤ file.blocks.length,
    next.tftp.nextBlockNumber.toNat = count + 1 ∧ next.writes = blockWrites (file.blocks.take count) ∧
      next.tftp.destination.Holds tftpBlockSize (file.blocks.take count)

/-! ## One packet -/

variable {file : TftpFile} {tftp : TftpCb} {now number : Nat} {allocates : Bool} {data : List UInt8}

theorem TftpFile.block_le (file : TftpFile) : ∀ block ∈ file.blocks, block.length ≤ tftpBlockSize := by
  intro block member
  cases List.mem_append.mp member with
  | inl full => exact Nat.le_of_eq (file.sizes block full)
  | inr last =>
    rw [List.mem_singleton.mp last]
    exact Nat.le_of_lt file.short

theorem dataPacket_number : net2hs (dataPacket number data) 2 = BitVec.ofNat 16 number := by
  apply BitVec.eq_of_toNat_eq
  simp [net2hs, dataPacket]
  omega

/-- Acknowledging a block touches neither the stored blocks nor the counter. -/
theorem tftpAcknowledge_kept (wire : BitVec 16) (nbytes : Nat) (result : TftpResult) :
    (tftpAcknowledge now allocates wire nbytes result).copied = result.copied ∧
      (tftpAcknowledge now allocates wire nbytes result).tftp.destination = result.tftp.destination ∧
      (tftpAcknowledge now allocates wire nbytes result).tftp.nextBlockNumber =
        result.tftp.nextBlockNumber := by
  by_cases short : nbytes < tftpBlockSize
  · simp [tftpAcknowledge, short, tftpKill]
  · cases allocates with
    | true => simp [tftpAcknowledge, short, tftpOk, tftpSysErr]
    | false => simp [tftpAcknowledge, short, tftpKill]

theorem dataPacket_opcode : (net2hs (dataPacket number data) 0).toNat = tftpOpcodeData := by
  simp [net2hs, dataPacket, tftpOpcodeData]

theorem dataPacket_long : ¬ (dataPacket number data).length < 4 := by simp [dataPacket]

theorem number_expected_iff : BitVec.ofNat 16 number = tftp.nextBlockNumber.setWidth 16 ↔
    number % 2 ^ 16 = tftp.nextBlockNumber.toNat % 2 ^ 16 := by
  rw [← BitVec.toNat_inj, BitVec.toNat_ofNat, BitVec.toNat_setWidth]

/-- A packet whose number is the low half of the counter is stored. -/
theorem tftpPacket_next (now : Nat) (allocates : Bool) (data : List UInt8)
    (expected : number % 2 ^ 16 = tftp.nextBlockNumber.toNat % 2 ^ 16) :
    (tftpPacket now allocates (dataPacket number data) tftp).copied =
        some (((number % 2 ^ 16 : Nat) - 1 : Int) * tftpBlockSize, data) ∧
      (tftpPacket now allocates (dataPacket number data) tftp).tftp.destination =
        tftp.destination.write (((number % 2 ^ 16 : Nat) - 1 : Int) * tftpBlockSize) data ∧
      (tftpPacket now allocates (dataPacket number data) tftp).tftp.nextBlockNumber =
        tftp.nextBlockNumber + 1 := by
  have isNext := number_expected_iff.mpr expected
  have content : (dataPacket number data).drop 4 = data := rfl
  have place : (BitVec.ofNat 16 number).toNat = number % 2 ^ 16 := BitVec.toNat_ofNat _ _
  simp only [tftpPacket, dataPacket_number, dataPacket_long, dataPacket_opcode, ← isNext, ne_eq,
    not_true_eq_false, false_and, or_self, ↓reduceIte, content, place]
  exact tftpAcknowledge_kept _ _ _

/-- Any other packet of the file is acknowledged or ignored. -/
theorem tftpPacket_other (now : Nat) (allocates : Bool) (data : List UInt8)
    (other : number % 2 ^ 16 ≠ tftp.nextBlockNumber.toNat % 2 ^ 16) :
    (tftpPacket now allocates (dataPacket number data) tftp).copied = none ∧
      (tftpPacket now allocates (dataPacket number data) tftp).tftp.destination = tftp.destination ∧
      (tftpPacket now allocates (dataPacket number data) tftp).tftp.nextBlockNumber =
        tftp.nextBlockNumber := by
  have notNext : BitVec.ofNat 16 number ≠ tftp.nextBlockNumber.setWidth 16 :=
    fun same => other (number_expected_iff.mp same)
  have noError : tftpOpcodeData ≠ tftpOpcodeError := by decide
  simp only [tftpPacket, dataPacket_number, dataPacket_long, dataPacket_opcode, notNext, noError, ne_eq,
    not_true_eq_false, not_false_eq_true, true_and, false_or, and_false, ↓reduceIte]
  split
  · exact ⟨rfl, rfl, rfl⟩
  · exact tftpAcknowledge_kept _ _ _

/-- Connecting to the server changes nothing that a packet depends on. -/
theorem tftpRecv_eq (now : Nat) (allocates : Bool) (number : Nat) (data : List UInt8) (port : BitVec 16)
    (tftp : TftpCb) :
    ∃ tftp', tftp'.destination = tftp.destination ∧ tftp'.nextBlockNumber = tftp.nextBlockNumber ∧
      tftpRecv now allocates { address := tftp.serverIp, port, payload := dataPacket number data } tftp =
        tftpPacket now allocates (dataPacket number data) tftp' := by
  by_cases first : tftp.nextBlockNumber = 1
  · refine ⟨{ tftp with udpdev := udpConnect tftp.serverIp port tftp.udpdev, bnum := 0 }, rfl, rfl, ?_⟩
    simp only [tftpRecv, first, udpConnect, ne_eq, not_true_eq_false, ↓reduceIte]
  · exact ⟨tftp, rfl, rfl, by rw [tftpRecv, if_neg first]⟩

/-- The place to which the client copies a block, computed from its number. -/
def wirePlace (number : Nat) : Int := ((number % 2 ^ 16 : Nat) - 1 : Int) * tftpBlockSize

/-- What the arrival of a packet can do. -/
theorem downloadStep_cases (download : Download) (arrival : Arrival file) :
    ∃ next, downloadStep file download arrival = some next ∧
      ((arrival.block.val + 1) % 2 ^ 16 = download.tftp.nextBlockNumber.toNat % 2 ^ 16 ∧
        next.tftp.nextBlockNumber = download.tftp.nextBlockNumber + 1 ∧
        next.writes = download.writes ++
          [(wirePlace (arrival.block + 1), file.blocks.get arrival.block)] ∧
        next.tftp.destination = download.tftp.destination.write (wirePlace (arrival.block + 1))
          (file.blocks.get arrival.block) ∨
      (arrival.block.val + 1) % 2 ^ 16 ≠ download.tftp.nextBlockNumber.toNat % 2 ^ 16 ∧
        next.tftp.nextBlockNumber = download.tftp.nextBlockNumber ∧ next.writes = download.writes ∧
        next.tftp.destination = download.tftp.destination) := by
  refine ⟨_, rfl, ?_⟩
  obtain ⟨tftp, destination, counter, recv⟩ := tftpRecv_eq arrival.now arrival.allocates
    (arrival.block + 1) (file.blocks.get arrival.block) arrival.port download.tftp
  simp only [recv, ← counter, ← destination]
  by_cases expected : (arrival.block.val + 1) % 2 ^ 16 = tftp.nextBlockNumber.toNat % 2 ^ 16
  · obtain ⟨copied, stored, advanced⟩ := tftpPacket_next arrival.now arrival.allocates
      (file.blocks.get arrival.block) expected
    exact .inl ⟨expected, advanced, by rw [copied]; rfl, stored⟩
  · obtain ⟨copied, stored, waiting⟩ := tftpPacket_other arrival.now arrival.allocates
      (file.blocks.get arrival.block) expected
    exact .inr ⟨expected, waiting, by rw [copied]; simp, stored⟩

/-! ## The invariant -/

/-- The client waits for block `count + 1` and has the blocks before it. -/
structure DownloadInv (file : TftpFile) (count : Nat) (download : Download) : Prop where
  bound : count ≤ file.blocks.length
  next : download.tftp.nextBlockNumber.toNat = count + 1
  writes : download.writes = blockWrites (file.blocks.take count)
  holds : download.tftp.destination.Holds tftpBlockSize (file.blocks.take count)

variable {download : Download} {count : Nat}

theorem blockWrites_take_succ {blocks : List (List UInt8)} (below : count < blocks.length) :
    blockWrites (blocks.take (count + 1)) =
      blockWrites (blocks.take count) ++ [(((count * tftpBlockSize : Nat) : Int), blocks[count])] := by
  rw [List.take_succ_eq_append_getElem below, blockWrites, List.mapIdx_append]
  simp [blockWrites, Nat.min_eq_left (Nat.le_of_lt below)]

theorem wirePlace_small (small : count + 1 < 2 ^ 16) :
    wirePlace (count + 1) = (count * tftpBlockSize : Nat) := by
  rw [wirePlace, Nat.mod_eq_of_lt small]
  push_cast
  rw [Int.add_sub_cancel]

/-- The next block is stored, if its number is not a reused one. -/
theorem DownloadInv.store (inv : DownloadInv file count download) {next : Download}
    (small : count + 1 < 2 ^ 16) (below : count < file.blocks.length)
    (counter : next.tftp.nextBlockNumber = download.tftp.nextBlockNumber + 1)
    (writes : next.writes = download.writes ++ [(wirePlace (count + 1), file.blocks[count])])
    (destination : next.tftp.destination =
      download.tftp.destination.write (wirePlace (count + 1)) file.blocks[count]) :
    DownloadInv file (count + 1) next := by
  have waiting := inv.next
  refine ⟨below, ?_, ?_, ?_⟩
  · rw [counter]
    bv_omega
  · rw [writes, inv.writes, blockWrites_take_succ below, wirePlace_small small]
  · have stored := inv.holds.store file.block_le (List.getElem?_eq_getElem below) (Nat.le_refl count)
    rw [Nat.max_eq_right (Nat.le_succ count)] at stored
    rw [destination, wirePlace_small small]
    exact stored

/-- In a file without reused numbers every packet keeps the invariant. -/
theorem downloadStep_inv (few : file.blocks.length < 2 ^ 16) (inv : DownloadInv file count download)
    (arrival : Arrival file) :
    ∃ next count', downloadStep file download arrival = some next ∧ DownloadInv file count' next := by
  obtain ⟨next, steps, stored | ignored⟩ := downloadStep_cases download arrival
  · obtain ⟨expected, counter, writes, destination⟩ := stored
    have here := arrival.block.isLt
    have bound := inv.bound
    rw [inv.next] at expected
    -- the number is that of the block the counter stands for
    have isNext : arrival.block.val = count := by omega
    refine ⟨next, count + 1, steps, ?_⟩
    simp only [isNext, List.get_eq_getElem] at writes destination
    exact inv.store (by omega) (by omega) counter writes destination
  · obtain ⟨-, counter, writes, destination⟩ := ignored
    exact ⟨next, count, steps, inv.bound, by rw [counter]; exact inv.next, by rw [writes]; exact inv.writes,
      by rw [destination]; exact inv.holds⟩

/-! ## Downloads -/

/-- A client that has just sent its request. -/
def downloadStart (serverIp : BitVec 32) (udpdev : UdpPcb) (now : Nat) (destination : Memory)
    (bnum : BitVec 16) : Download :=
  { tftp := tftpStart serverIp udpdev now destination bnum, writes := [] }

theorem downloadStart_inv (serverIp : BitVec 32) (udpdev : UdpPcb) (now : Nat) (destination : Memory)
    (bnum : BitVec 16) : DownloadInv file 0 (downloadStart serverIp udpdev now destination bnum) where
  bound := Nat.zero_le _
  next := rfl
  writes := rfl
  holds := by simp

/-- The packets of a file in order, each of them once. -/
def inOrder (file : TftpFile) : List (Arrival file) :=
  (List.finRange file.blocks.length).map fun block => { block }

theorem inOrder_take_succ (below : count < file.blocks.length) :
    (inOrder file).take (count + 1) = (inOrder file).take count ++ [{ block := ⟨count, below⟩ }] := by
  rw [List.take_succ_eq_append_getElem (by simpa [inOrder] using below)]
  simp [inOrder]

/-- The first 65535 blocks arrive in order. -/
theorem inOrder_inv (start : DownloadInv file 0 download) (bound : count ≤ file.blocks.length)
    (small : count < 2 ^ 16) :
    ∃ reached, ((inOrder file).take count).foldlM (downloadStep file) download = some reached ∧
      DownloadInv file count reached := by
  induction count with
  | zero => exact ⟨download, rfl, start⟩
  | succ count ih =>
    obtain ⟨reached, run, inv⟩ := ih (by omega) (by omega)
    have waiting := inv.next
    obtain ⟨next, steps, stored | ignored⟩ := downloadStep_cases reached { block := ⟨count, bound⟩ }
    · obtain ⟨-, counter, writes, destination⟩ := stored
      refine ⟨next, ?_, inv.store small bound counter writes destination⟩
      rw [inOrder_take_succ bound, List.foldlM_append, run]
      simpa using steps
    · rw [waiting] at ignored
      exact absurd rfl ignored.1

/-- Block 65536 has number 0 and is copied in front of the destination. -/
theorem inOrder_wraps (start : DownloadInv file 0 download) (below : 65535 < file.blocks.length) :
    ¬ Along (downloadStep file) (StoresBlocks file) ((inOrder file).take (65535 + 1)) download := by
  intro stores
  obtain ⟨reached, run, inv⟩ := inOrder_inv start (Nat.le_of_lt below) (by decide)
  have waiting := inv.next
  rw [inOrder_take_succ below] at stores
  have last := stores.at_event run
  obtain ⟨next, steps, stored | ignored⟩ := downloadStep_cases reached { block := ⟨65535, below⟩ }
  · obtain ⟨-, counter, writes, -⟩ := stored
    obtain ⟨count, bound, after, expected, -⟩ := last next steps
    obtain rfl : count = 65535 + 1 := by
      rw [counter] at after
      bv_omega
    rw [writes, inv.writes, blockWrites_take_succ below] at expected
    have places := List.append_cancel_left expected
    simp [wirePlace, tftpBlockSize] at places
  · rw [waiting] at ignored
    exact absurd rfl ignored.1

/-- Whatever order the packets of a file arrive in, its blocks are stored, if and
    only if it has at most 65535 blocks. -/
theorem tftp_stores_blocks_iff (file : TftpFile) (serverIp : BitVec 32) (udpdev : UdpPcb) (now : Nat)
    (destination : Memory) (bnum : BitVec 16) :
    (∀ arrivals, Along (downloadStep file) (StoresBlocks file) arrivals
        (downloadStart serverIp udpdev now destination bnum)) ↔
      file.blocks.length ≤ 65535 := by
  constructor
  · intro stores
    refine Nat.le_of_lt_succ (Nat.lt_of_not_le fun many => ?_)
    exact inOrder_wraps (downloadStart_inv serverIp udpdev now destination bnum) many (stores _)
  · intro few arrivals
    refine Along.of_invariant (fun download => ∃ count, DownloadInv file count download)
      ⟨0, downloadStart_inv serverIp udpdev now destination bnum⟩ fun download arrival kept => ?_
    obtain ⟨count, inv⟩ := kept
    obtain ⟨next, count', steps, inv'⟩ := downloadStep_inv (Nat.lt_succ_of_le few) inv arrival
    constructor
    · intro next' steps'
      obtain rfl : next = next' := Option.some.inj (steps.symm.trans steps')
      exact ⟨count', inv'.bound, inv'.next, inv'.writes, inv'.holds⟩
    · intro next' steps'
      obtain rfl : next = next' := Option.some.inj (steps.symm.trans steps')
      exact ⟨count', inv'⟩

/-- A file of 65535 full blocks and one more byte, all of them zero. -/
def zeroFile : TftpFile where
  full := List.replicate 65535 (List.replicate 512 0)
  last := [0]
  sizes block member := by
    rw [List.eq_of_mem_replicate member, List.length_replicate]
    rfl
  short := by decide

theorem zeroFile_blocks_length : zeroFile.blocks.length = 65535 + 1 := by
  have full : zeroFile.full.length = 65535 := List.length_replicate
  rw [TftpFile.blocks, List.length_append, full, List.length_singleton]

/-- The 65536 blocks of a file arrive in order, without a loss, and the last one is
    not stored in its place. -/
theorem tftp_wraps_around :
    ¬ Along (downloadStep zeroFile) (StoresBlocks zeroFile) ((inOrder zeroFile).take 65536)
      (downloadStart 0xC0A80103 ⟨50000, 0, 0⟩ 0 (fun _ => 0) 0) := by
  refine inOrder_wraps (downloadStart_inv _ _ _ _ _) ?_
  rw [zeroFile_blocks_length]
  exact Nat.lt_succ_self 65535

end ComputerSystems.Verified
