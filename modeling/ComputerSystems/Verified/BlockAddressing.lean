import ComputerSystems.Verified.BlockOperations
import Mathlib.Data.Nat.Digits.Lemmas
import Mathlib.Tactic.IntervalCases

/-! # The addresses in the commands

What a device reads out of the command blocks that the driver sends.  `read` and
`write` narrow the offset to a 32 bit block address and the count to a 16 bit number
of blocks, and check neither (`blockCommand_agrees_iff`).  The block device of the
file system computes the offset of a block with 32 bits, so that it reaches the
first 2^23 blocks only (`sdcard_addresses_iff`).
-/

namespace ComputerSystems.Verified

open ComputerSystems.System ComputerSystems.Usb ComputerSystems.Fat

/-! ## Decoding -/

/-- The number that bytes are with the most significant one first. -/
def bigEndian (bytes : List UInt8) : Nat :=
  Nat.ofDigits 256 (bytes.reverse.map UInt8.toNat)

/-- The fields of a READ(10) or WRITE(10) command as the device reads them. -/
structure BlockCommand where
  operationCode : UInt8
  logicalBlockAddress : Nat
  transferLength : Nat
deriving DecidableEq

def decodeBlockCommand (cb : List UInt8) : BlockCommand where
  operationCode := cb.headD 0
  logicalBlockAddress := bigEndian ((cb.drop 2).take 4)
  transferLength := bigEndian ((cb.drop 7).take 2)

/-- The wrapper that a transfer carries. -/
def carriedWrapper (transfer : Transfer) : Option CommandBlockWrapper :=
  match transfer.buffer with
  | .cbw wrapper => some wrapper
  | _ => none

/-- The wrappers that a list of actions sends. -/
def sentWrappers (actions : List StorageAction) : List CommandBlockWrapper :=
  (actions.filterMap startedTransfer).filterMap carriedWrapper

theorem le2be32_byte (value : BitVec 32) {index : Nat} (inside : index < 4) :
    (le2be32 value).extractLsb' (8 * index) 8 = value.extractLsb' (8 * (3 - index)) 8 := by
  apply BitVec.eq_of_getLsbD_eq
  intro bit low
  interval_cases index <;> interval_cases bit <;> simp [le2be32]

theorem le2be16_byte (value : BitVec 16) {index : Nat} (inside : index < 2) :
    (le2be16 value).extractLsb' (8 * index) 8 = value.extractLsb' (8 * (1 - index)) 8 := by
  apply BitVec.eq_of_getLsbD_eq
  intro bit low
  interval_cases index <;> interval_cases bit <;> simp [le2be16]

theorem fieldBytes_eq {width : Nat} (size : Nat) (value : BitVec width) :
    fieldBytes size value.toNat =
      (List.range size).map fun index => UInt8.ofBitVec (value.extractLsb' (8 * index) 8) := by
  apply List.map_congr_left
  intro index _
  apply UInt8.toNat_inj.mp
  simp [Nat.shiftRight_eq_div_pow, pow_mul]

/-- A swapped address is read as the address. -/
theorem bigEndian_le2be32 (value : BitVec 32) :
    bigEndian (fieldBytes 4 (le2be32 value).toNat) = value.toNat := by
  have bytes : fieldBytes 4 (le2be32 value).toNat =
      [UInt8.ofBitVec (value.extractLsb' 24 8), UInt8.ofBitVec (value.extractLsb' 16 8),
        UInt8.ofBitVec (value.extractLsb' 8 8), UInt8.ofBitVec (value.extractLsb' 0 8)] := by
    rw [fieldBytes_eq, ← le2be32_byte value (by omega : 0 < 4), ← le2be32_byte value (by omega : 1 < 4),
      ← le2be32_byte value (by omega : 2 < 4), ← le2be32_byte value (by omega : 3 < 4)]
    rfl
  have small := value.isLt
  rw [bytes]
  simp only [bigEndian, List.reverse_cons, List.reverse_nil, List.nil_append, List.cons_append, List.map_cons,
    List.map_nil, Nat.ofDigits_cons, Nat.ofDigits_nil, UInt8.toNat_ofBitVec, BitVec.extractLsb'_toNat,
    Nat.shiftRight_eq_div_pow]
  push_cast
  omega

/-- A swapped number of blocks is read as the number. -/
theorem bigEndian_le2be16 (value : BitVec 16) :
    bigEndian (fieldBytes 2 (le2be16 value).toNat) = value.toNat := by
  have bytes : fieldBytes 2 (le2be16 value).toNat =
      [UInt8.ofBitVec (value.extractLsb' 8 8), UInt8.ofBitVec (value.extractLsb' 0 8)] := by
    rw [fieldBytes_eq, ← le2be16_byte value (by omega : 0 < 2), ← le2be16_byte value (by omega : 1 < 2)]
    rfl
  have small := value.isLt
  rw [bytes]
  simp only [bigEndian, List.reverse_cons, List.reverse_nil, List.nil_append, List.cons_append, List.map_cons,
    List.map_nil, Nat.ofDigits_cons, Nat.ofDigits_nil, UInt8.toNat_ofBitVec, BitVec.extractLsb'_toNat,
    Nat.shiftRight_eq_div_pow]
  push_cast
  omega

theorem fieldBytes_length (size value : Nat) : (fieldBytes size value).length = size := by
  simp [fieldBytes]

/-- The device reads the fields that `read` and `write` wrote. -/
theorem decode_scsiTransfer10 (operationCode flags : UInt8) (blockAddress : BitVec 32)
    (transferLength : BitVec 16) (padding : List UInt8) :
    decodeBlockCommand (scsiTransfer10 operationCode flags blockAddress transferLength ++ padding) =
      ⟨operationCode, blockAddress.toNat, transferLength.toNat⟩ := by
  have address : (fieldBytes 4 (le2be32 blockAddress).toNat).length = 4 := fieldBytes_length 4 _
  have blocks : (fieldBytes 2 (le2be16 transferLength).toNat).length = 2 := fieldBytes_length 2 _
  simp [decodeBlockCommand, scsiTransfer10, List.drop_append, address, blocks, bigEndian_le2be32,
    bigEndian_le2be16, List.drop_eq_nil_of_le]

/-! ## Transfers of blocks -/

section Transfers

variable {operationCode flags : UInt8} {isInEndpoint : Bool} {message : String} {buffer : Option Address}
  {count : BitVec 32} {starts : Bool} {device : MassStorageDevice}

/-- A transfer that is accepted sends one wrapper. -/
theorem transferBlocks_sends
    (accepted : (transferBlocks operationCode flags isInEndpoint message buffer count starts device).1 ≠ -1) :
    aligned device count ∧ device.commandState = stateCbwTransfer ∧ ∃ wrapper,
      sentWrappers
        (transferBlocks operationCode flags isInEndpoint message buffer count starts device).2.actions =
          [wrapper] ∧
      wrapper.dataTransferLength = count ∧
      decodeBlockCommand wrapper.cb =
        ⟨operationCode, device.offset.toNat / 512 % 2 ^ 32, count.toNat / 512 % 2 ^ 16⟩ := by
  by_cases offset : device.offset.toNat % blockSize = 0
  case neg => simp [transferBlocks, offset] at accepted
  by_cases whole : count.toNat % blockSize = 0
  case neg => simp [transferBlocks, offset, whole] at accepted
  by_cases idle : device.commandState = stateCbwTransfer
  case neg => simp [transferBlocks, offset, whole, command, idle] at accepted
  cases starts with
  | false => simp [transferBlocks, offset, whole, command, idle] at accepted
  | true =>
    let request : Command :=
      { cmd := scsiTransfer10 operationCode flags (BitVec.ofNat 32 (device.offset.toNat / 2 ^ blockShift))
          (BitVec.ofNat 16 (count.toNat / 2 ^ blockShift))
        buffer, bufLen := count, isInEndpoint, complete := .opComplete }
    refine ⟨⟨offset, whole⟩, idle, commandWrapper request (device.tag + 1), ?_, rfl, ?_⟩
    · simp [transferBlocks, offset, whole, command, idle, sentWrappers, startedTransfer, carriedWrapper,
        cbwTransfer, request]
    · simp only [commandWrapper, request, decode_scsiTransfer10, BitVec.toNat_ofNat, blockShift]
      rfl

end Transfers

/-- The command block asks for the bytes at the offset, as many as the wrapper
    announces and as the caller asked for. -/
def Agrees (device : MassStorageDevice) (count : BitVec 32) (wrapper : CommandBlockWrapper) : Prop :=
  (decodeBlockCommand wrapper.cb).logicalBlockAddress * blockSize = device.offset.toNat ∧
  (decodeBlockCommand wrapper.cb).transferLength * blockSize = count.toNat ∧
  wrapper.dataTransferLength = count

instance (device : MassStorageDevice) (count : BitVec 32) (wrapper : CommandBlockWrapper) :
    Decidable (Agrees device count wrapper) :=
  inferInstanceAs (Decidable (_ ∧ _ ∧ _))

/-- `read` and `write`. -/
def transferOf : SdcardBlockOperation → Option Address → BitVec 32 → Bool → MassStorageDevice → Int × Effect
  | .read => Usb.read
  | .write => Usb.write

/-- The command block of a transfer that `read` or `write` accepts agrees with the
    transfer if the block address fits in 32 bits and the number of blocks in 16. -/
theorem blockCommand_agrees_iff (operation : SdcardBlockOperation) (buffer : Option Address)
    (count : BitVec 32) (starts : Bool) (device : MassStorageDevice)
    (accepted : (transferOf operation buffer count starts device).1 ≠ -1) :
    (∃ wrapper, sentWrappers (transferOf operation buffer count starts device).2.actions = [wrapper] ∧
        Agrees device count wrapper) ↔
      device.offset.toNat < 2 ^ 41 ∧ count.toNat < 2 ^ 25 := by
  -- The block number has 32 bits in the command, and the number of blocks 16.
  have sends : aligned device count ∧ ∃ wrapper code,
      sentWrappers (transferOf operation buffer count starts device).2.actions = [wrapper] ∧
      wrapper.dataTransferLength = count ∧
      decodeBlockCommand wrapper.cb =
        ⟨code, device.offset.toNat / 512 % 2 ^ 32, count.toNat / 512 % 2 ^ 16⟩ := by
    cases operation with
    | read =>
      obtain ⟨whole, -, wrapper, sent⟩ := transferBlocks_sends accepted
      exact ⟨whole, wrapper, _, sent⟩
    | write =>
      obtain ⟨whole, -, wrapper, sent⟩ := transferBlocks_sends accepted
      exact ⟨whole, wrapper, _, sent⟩
  obtain ⟨⟨offset, whole⟩, wrapper, code, sent, announced, decoded⟩ := sends
  rw [blockSize] at offset whole
  have agrees : Agrees device count wrapper ↔
      device.offset.toNat / 512 % 2 ^ 32 * 512 = device.offset.toNat ∧
        count.toNat / 512 % 2 ^ 16 * 512 = count.toNat := by
    simp only [Agrees, decoded, announced, blockSize, and_true]
  constructor
  · rintro ⟨other, alone, agreed⟩
    obtain rfl : wrapper = other := by simpa [sent] using alone
    have fits := agrees.mp agreed
    omega
  · intro small
    exact ⟨wrapper, sent, agrees.mpr (by omega)⟩

/-- A read of the first block. -/
theorem blockCommand_agrees_iff_first :
    (transferOf .read (some 0) 512 true freshDevice).1 ≠ -1 ∧
      ((∃ wrapper, sentWrappers (transferOf .read (some 0) 512 true freshDevice).2.actions = [wrapper] ∧
          Agrees freshDevice 512 wrapper) ↔
        freshDevice.offset.toNat < 2 ^ 41 ∧ (512 : BitVec 32).toNat < 2 ^ 25) :=
  ⟨by decide, blockCommand_agrees_iff .read (some 0) 512 true freshDevice (by decide)⟩

/-- A read of 32 MByte asks the device for no block at all. -/
theorem blockCommand_asks_nothing :
    ¬ ∀ (operation : SdcardBlockOperation) (buffer : Option Address) (count : BitVec 32) (starts : Bool)
      (device : MassStorageDevice), (transferOf operation buffer count starts device).1 ≠ -1 →
        ∃ wrapper, sentWrappers (transferOf operation buffer count starts device).2.actions = [wrapper] ∧
          Agrees device count wrapper := by
  intro holds
  obtain ⟨wrapper, sent, agreed⟩ := holds .read (some 0) 0x2000000 true freshDevice (by decide)
  have nothing : sentWrappers (transferOf .read (some 0) 0x2000000 true freshDevice).2.actions |>.all
      fun wrapper => ¬ Agrees freshDevice 0x2000000 wrapper := by decide +kernel
  rw [sent, List.all_cons, Bool.and_eq_true, decide_eq_true_iff] at nothing
  exact nothing.1 agreed

/-! ## Calls of the file system -/

def operationCode : SdcardBlockOperation → UInt8
  | .read => scsiOpRead
  | .write => scsiOpWrite

/-- The commands that a call sends to the device. -/
def sentCommands (call : BlockCall) (card : SdCard) : List BlockCommand :=
  (sentWrappers ((sdcardBlock call card).2.actions.drop card.actions.length)).map fun wrapper =>
    decodeBlockCommand wrapper.cb

theorem blockByteOffset_toNat (blockIndex : BitVec 32) :
    (blockByteOffset blockIndex).toNat = blockIndex.toNat * 512 % 2 ^ 32 := by
  have small : (blockIndex * BitVec.ofNat 32 blockSize).toNat < 2 ^ 64 := by omega
  rw [blockByteOffset, BitVec.toNat_setWidth, Nat.mod_eq_of_lt small, BitVec.toNat_mul]
  rfl

theorem startTransfer_sends {operation : SdcardBlockOperation} {buffer : Option Address}
    {slot : Fin maxOperations} {starts : Bool} {device : MassStorageDevice}
    (accepted : ¬ (startTransfer operation buffer slot starts device).1 < 0) : ∃ wrapper,
    sentWrappers (startTransfer operation buffer slot starts device).2.actions = [wrapper] ∧
    decodeBlockCommand wrapper.cb = ⟨operationCode operation, device.offset.toNat / 512 % 2 ^ 32, 1⟩ := by
  have accepts : ∀ result : Int, ¬ result < 0 → result ≠ -1 := by omega
  cases operation with
  | read =>
    obtain ⟨-, -, wrapper, sent, -, decoded⟩ := transferBlocks_sends (accepts _ accepted)
    exact ⟨wrapper, sent, decoded⟩
  | write =>
    obtain ⟨-, -, wrapper, sent, -, decoded⟩ := transferBlocks_sends (accepts _ accepted)
    exact ⟨wrapper, sent, decoded⟩

/-- An accepted call reads or writes the block that its index is modulo 2^23. -/
theorem sdcardBlock_sends {call : BlockCall} {card : SdCard} (accepted : (sdcardBlock call card).1 = 1) :
    sentCommands call card = [⟨operationCode call.operation, call.blockIndex.toNat % 2 ^ 23, 1⟩] := by
  cases free : newOp card.operations with
  | none => simp [sdcardBlock, free] at accepted
  | some slot =>
    have taken : ¬ (startTransfer call.operation call.buffer slot call.starts
        { card.device with offset := blockByteOffset call.blockIndex }).1 < 0 := by
      intro refused
      simp [sdcardBlock, free, massStorageSeek_block, SdCard.absorb, refused] at accepted
    obtain ⟨wrapper, sent, decoded⟩ := startTransfer_sends taken
    have block : (blockByteOffset call.blockIndex).toNat / 512 % 2 ^ 32 = call.blockIndex.toNat % 2 ^ 23 := by
      rw [blockByteOffset_toNat]
      omega
    simp only [sentCommands, sdcardBlock, free, massStorageSeek_block, SdCard.absorb, ne_eq,
      not_true_eq_false, if_false, List.append_nil, List.drop_left, sent, List.map_cons, List.map_nil,
      decoded, block]

/-- An accepted call sends the command for its own block if the index is below 2^23,
    and two accepted calls reach the same block whenever their indexes agree modulo
    2^23. -/
theorem sdcard_addresses_iff (call : BlockCall) (card : SdCard)
    (accepted : (sdcardBlock call card).1 = 1) :
    (sentCommands call card = [⟨operationCode call.operation, call.blockIndex.toNat, 1⟩] ↔
      call.blockIndex.toNat < 2 ^ 23) ∧
    ∀ (other : BlockCall) (later : SdCard), (sdcardBlock other later).1 = 1 →
      ((sentCommands call card).map BlockCommand.logicalBlockAddress =
          (sentCommands other later).map BlockCommand.logicalBlockAddress ↔
        call.blockIndex.toNat % 2 ^ 23 = other.blockIndex.toNat % 2 ^ 23) := by
  rw [sdcardBlock_sends accepted]
  constructor
  · simp only [List.cons.injEq, BlockCommand.mk.injEq, true_and, and_true]
    omega
  · intro other later also
    rw [sdcardBlock_sends also]
    simp

/-- Two reads of an idle card. -/
theorem sdcard_addresses_iff_reads :
    (sdcardBlock (blockRead 5) (cardStart freshDevice)).1 = 1 ∧
      (sentCommands (blockRead 5) (cardStart freshDevice) = [⟨scsiOpRead, 5, 1⟩] ↔ 5 < 2 ^ 23) ∧
      ((sentCommands (blockRead 5) (cardStart freshDevice)).map BlockCommand.logicalBlockAddress =
          (sentCommands (blockRead 6) (cardStart freshDevice)).map BlockCommand.logicalBlockAddress ↔
        5 % 2 ^ 23 = 6 % 2 ^ 23) := by
  have accepted : (sdcardBlock (blockRead 5) (cardStart freshDevice)).1 = 1 := by decide
  have also : (sdcardBlock (blockRead 6) (cardStart freshDevice)).1 = 1 := by decide
  have addresses := sdcard_addresses_iff (blockRead 5) (cardStart freshDevice) accepted
  exact ⟨accepted, addresses.1, addresses.2 (blockRead 6) (cardStart freshDevice) also⟩

/-- A read of the block 2^23 reads the first block of the disk. -/
theorem sdcard_addresses_wrap :
    ¬ ∀ (call : BlockCall) (card : SdCard), (sdcardBlock call card).1 = 1 →
      sentCommands call card = [⟨operationCode call.operation, call.blockIndex.toNat, 1⟩] := by
  intro holds
  have wraps : sentCommands (blockRead 0x800000) (cardStart freshDevice) = [⟨scsiOpRead, 0, 1⟩] :=
    sdcardBlock_sends (by decide)
  have own := holds (blockRead 0x800000) (cardStart freshDevice) (by decide)
  rw [wraps] at own
  exact absurd own (by decide)

end ComputerSystems.Verified
