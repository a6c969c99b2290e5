import Mathlib.Logic.Function.Basic

/-! # The Ethernet drivers

`lan95xx.c` and `lan78xx.c`, and the two functions of `ethernetif.c` between them and the
network stack.  The drivers differ in the words before a frame, which `LanDriver` says, and
not in what they do with them.

A frame is received in, and sent from, one buffer of the driver.
-/

namespace ComputerSystems.Network

def frameBufferSize : Nat := 1600
def txHeaderSize : Nat := 8

/-- `sizeof(struct eth_hdr)`. -/
def sizeofEthHdr : Nat := 14

inductive LanDriver where
  | lan95xx
  | lan78xx
deriving DecidableEq, Repr

/-! ## Receiving -/

/-- The 32 bit word at an offset. -/
def wordAt (buffer : Nat → UInt8) (offset : Nat) : BitVec 32 :=
  ((buffer (offset + 3)).toBitVec ++ (buffer (offset + 2)).toBitVec ++ (buffer (offset + 1)).toBitVec ++
    (buffer offset).toBitVec)

/-- What is in front of a frame: at least so many bytes have to be received. -/
def LanDriver.rxHeaderSize : LanDriver → Nat
  | .lan95xx => 4
  | .lan78xx => 10

/-- `RX_STAT_ERROR_MASK`, and `RX_CMD_A_RED`. -/
def LanDriver.rxErrorMask : LanDriver → BitVec 32
  | .lan95xx => 0x400098DE
  | .lan78xx => 0x00400000

/-- `RX_STAT_FRM_LENGTH`, and what `RX_CMD_A_LEN_MASK` masks. -/
def LanDriver.rxFrameLength (rxStatus : BitVec 32) : LanDriver → BitVec 32
  | .lan95xx => (rxStatus >>> 16) &&& 0x3FFF
  | .lan78xx => rxStatus &&& 0x00003FFF

/-- A length of at most 4 is refused; the older driver only asserts that it is larger. -/
def LanDriver.refusesShort : LanDriver → Bool
  | .lan95xx => false
  | .lan78xx => true

/-- `receive_complete`: where the frame that is passed to `NetIn` starts in the receive buffer, and
    its length, which `NetIn` takes as an `int`. -/
def receiveComplete (driver : LanDriver) (rxBuffer : Nat → UInt8) (resultLen : BitVec 32) :
    Option (Nat × Int) :=
  let rxStatus := wordAt rxBuffer 0
  let frameLength := driver.rxFrameLength rxStatus
  if resultLen.toNat < driver.rxHeaderSize then none
  else if rxStatus &&& driver.rxErrorMask ≠ 0 then none
  else if driver.refusesShort ∧ frameLength ≤ 4 then none
  -- Without the checksum; the difference is negative for a length below 4.
  else some (driver.rxHeaderSize, (frameLength - 4).toInt)

/-! ## Sending -/

/-- The four bytes of a word. -/
def wordBytes (word : BitVec 32) : List UInt8 :=
  [.ofBitVec (word.extractLsb' 0 8), .ofBitVec (word.extractLsb' 8 8), .ofBitVec (word.extractLsb' 16 8),
    .ofBitVec (word.extractLsb' 24 8)]

/-- The length is refused. -/
def LanDriver.tooLong (length : Nat) : LanDriver → Bool
  | .lan95xx => decide (frameBufferSize - 8 ≤ length)
  | .lan78xx => decide (frameBufferSize - txHeaderSize < length)

/-- The two words in front of a frame: the bits of the first and the last segment with the length
    and the length again, or the length with `TX_CMD_A_FCS` and 0. -/
def LanDriver.txHeader (length : Nat) : LanDriver → List UInt8
  | .lan95xx => wordBytes (0x2000 ||| 0x1000 ||| BitVec.ofNat 32 length) ++ wordBytes (BitVec.ofNat 32 length)
  | .lan78xx => wordBytes ((BitVec.ofNat 32 length &&& 0x000FFFFF) ||| 0x00400000) ++ wordBytes 0

/-- What becomes of a bulk transfer that `HostEndpointTransfer` is asked for: it is submitted, there
    is no request for it, or there is no channel, which the caller does not learn. -/
inductive HostAnswer where
  | submitted
  | noRequest
  | noChannel
deriving DecidableEq, Repr

/-- A transfer from the transmit buffer: its size, and the bytes of it that the controller has taken
    out of the buffer. -/
structure LanTransfer where
  size : Nat
  moved : List UInt8 := []
deriving DecidableEq

/-- The transmit buffer, the transfers from it that are under way, and the frames that the device
    has received. -/
structure LanTransmit where
  txBuffer : Nat → UInt8
  transfers : List LanTransfer := []
  received : List (List UInt8) := []

/-- `LanDeviceSendFrame`. -/
def lanDeviceSendFrame (driver : LanDriver) (frame : List UInt8) (answer : HostAnswer) (lan : LanTransmit) :
    Bool × LanTransmit :=
  if driver.tooLong frame.length then (false, lan)
  else
    let bytes := driver.txHeader frame.length ++ frame
    -- The buffer is written even if a transfer from it is under way.
    let lan := { lan with txBuffer := fun offset => bytes.getD offset (lan.txBuffer offset) }
    match answer with
    | .submitted => (true, { lan with transfers := lan.transfers ++ [{ size := frame.length + txHeaderSize }] })
    | .noRequest => (false, lan)
    | .noChannel => (true, lan)

/-- A `pbuf` of a chain, with what becomes of the transfer that is made of it. -/
structure Pbuf where
  payload : List UInt8
  answer : HostAnswer
deriving DecidableEq

inductive ErrT where
  | ok
  | mem
deriving DecidableEq, Repr

/-- `low_level_output`, which returns the same whatever has become of the frames. -/
def lowLevelOutput (driver : LanDriver) (chain : List Pbuf) (lan : LanTransmit) : ErrT × LanTransmit :=
  (.ok, chain.foldl (fun lan pbuf => (lanDeviceSendFrame driver pbuf.payload pbuf.answer lan).2) lan)

/-- The controller takes the next bytes of a transfer, as many as it has room for, out of the
    transmit buffer. -/
def LanTransfer.move (txBuffer : Nat → UInt8) (room : Nat) (transfer : LanTransfer) : LanTransfer :=
  let count := min room (transfer.size - transfer.moved.length)
  { transfer with
    moved := transfer.moved ++ (List.range' transfer.moved.length count).map txBuffer }

/-- A packet of one of the transfers goes out.  With the last one the device has received a frame. -/
def packetMoved (position room : Nat) (lan : LanTransmit) : Option LanTransmit :=
  lan.transfers[position]?.map fun transfer =>
    let transfer := transfer.move lan.txBuffer room
    if transfer.moved.length = transfer.size then
      { lan with
        transfers := lan.transfers.eraseIdx position
        received := lan.received ++ [transfer.moved] }
    else { lan with transfers := lan.transfers.set position transfer }

end ComputerSystems.Network
