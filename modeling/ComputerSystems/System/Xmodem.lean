import ComputerSystems.Data.Memory
import ComputerSystems.System.Timers

/-! # The XMODEM receiver

The functions of `xmodem.c`.  `int` fields on which the code does bit arithmetic
are 32-bit vectors.  The destination buffer is a `Memory` whose address 0 is
`destination[0]`, so that a copy to a negative index is a write before it.

What `XmodemPoll` gets from its environment are arguments: the clock reading
`now`, and the character that `check` and `getc` find, which is `none` when no
character is available.  Characters that `flush` throws away are never read and
do not appear.  What it does to the shell is part of its result.
-/

namespace ComputerSystems.System

open ComputerSystems.Data

def xmodemPacketSize : Nat := 132
def xmodemDataSize : Nat := 128
def xmodemDataTimeo : Nat := 1000000
def xmodemDataRetry : Nat := 30

def soh : UInt8 := 0x01
def eot : UInt8 := 0x04
def ack : UInt8 := 0x06
def nak : UInt8 := 0x15
def cpmEof : UInt8 := 0x1A

/-- `struct xmodem_state`, with the memory at `destination` and without `shell`. -/
structure XmodemState where
  destination : Memory
  packet : Nat → UInt8
  block : BitVec 32
  rcvd : Int
  retry : Nat
  i : Nat
  length : BitVec 32
  packetTimer : Timer

/-- A call of the shell interface. -/
inductive ShellCall where
  | puts (text : String)
  | putc (character : UInt8)
  | flush
deriving DecidableEq

/-- What a call of `XmodemPoll` does.  `stored` is the index of the packet byte it
    writes and `copied` the index in `destination` to which it copies a block. -/
structure XmodemResult where
  state : XmodemState
  calls : List ShellCall := []
  stored : Option Nat := none
  copied : Option Int := none
  status : Int

/-- The checksum of a packet, the sum of its data bytes. -/
def xmodemChecksum (packet : Nat → UInt8) : UInt8 :=
  (List.range xmodemDataSize).foldl (fun checksum i => checksum + packet (3 + i)) 0

/-- `process_xmodem`: the block number of a packet, or the text of the error for
    which the source returns -1. -/
def processXmodem (packet : Nat → UInt8) (block : BitVec 32) : Except String UInt8 :=
  if packet 0 ≠ soh then .error "first byte not SOH"
  else if packet 2 ≠ 0xFF - packet 1 then .error "inverse block mismatch"
  else if (packet 1).toNat > block.toNat then .error "packet block breater then expected"
  else if xmodemChecksum packet ≠ packet (xmodemPacketSize - 1) then .error "packet checksum invalid"
  else .ok (packet 1)

/-- `XmodemInit`: initialize the Xmodem protocol. -/
def xmodemInit : XmodemState where
  destination _ := 0
  packet _ := 0
  block := 0
  rcvd := 0
  retry := 0
  i := 0
  length := 0
  packetTimer := {}

/-- `XmodemStart`: start an Xmodem transfer, `none` while one is in progress. -/
def xmodemStart (destination : Memory) (length : BitVec 32) (state : XmodemState) : Option XmodemState :=
  if state.block ≠ 0 then none
  else some { state with block := 1, rcvd := 0, retry := 0, i := 0, destination, length }

/-- The number with the low byte of a received number and the upper bytes of the
    current block. -/
def mergeBlock (number : UInt8) (block : BitVec 32) : BitVec 32 :=
  BitVec.ofNat 32 number.toNat ||| (block &&& 0xFFFFFF00)

/-- The index in `destination` of a block. -/
def blockOffset (block : BitVec 32) : Int := ((block - 1) * 128).toInt

/-- What `XmodemPoll` does with an entire packet. -/
def xmodemPacket (now : Nat) (state : XmodemState) : XmodemResult :=
  let packetTimer := timerRegister xmodemDataTimeo now
  match processXmodem state.packet (state.block &&& 0xFF) with
  | .ok number =>
    -- preserve previous block overflows but adjust for resends
    let block := mergeBlock number state.block
    let data := (List.range xmodemDataSize).map fun i => state.packet (3 + i)
    { state := { state with
        destination := state.destination.write (blockOffset block) data
        block := block + 1, packetTimer, retry := 0, i := 0 }
      calls := [.putc ack]
      copied := some (blockOffset block)
      status := taskReady }
  | .error _ =>
    -- on failure flush and send NAK
    { state := { state with packetTimer, retry := 0, i := 0 }
      calls := [.flush, .putc nak]
      status := taskReady }

/-- Trim end-of-file markers: the loop of `XmodemPoll` that decrements `rcvd`. -/
def trimEof (destination : Memory) : Nat → Nat
  | 0 => 0
  | rcvd + 1 => if destination rcvd = cpmEof then trimEof destination rcvd else rcvd + 1

/-- The indices that this loop reads. -/
def trimReads (destination : Memory) : Nat → List Nat
  | 0 => []
  | rcvd + 1 => if destination rcvd = cpmEof then rcvd :: trimReads destination rcvd else [rcvd]

/-- What `XmodemPoll` does when a packet starts with `EOT`. -/
def xmodemFinish (state : XmodemState) : XmodemResult :=
  -- received size, in blocks minus start and end frames
  let rcvd := ((state.block - 2) * 132).toInt
  let rcvd := if rcvd > 0 then (trimEof state.destination rcvd.toNat : Int) else rcvd
  { state := { state with rcvd, block := 0 }
    calls := [.putc ack, .puts "Download complete,'run' to execute the application"]
    status := taskFinished }

/-- The part of `XmodemPoll` that reads a character. -/
def xmodemRead (now : Nat) (available : Option UInt8) (state : XmodemState) : XmodemResult :=
  match available with
  | none => { state, status := taskIdle }
  | some character =>
    if state.i = 0 ∧ character = eot then xmodemFinish state
    else
      let state' := { state with packet := Function.update state.packet state.i character, i := state.i + 1 }
      let result := if state'.i = xmodemPacketSize then xmodemPacket now state'
        else { state := state', status := taskReady }
      { result with stored := some state.i }

/-- `XmodemPoll`: poll the Xmodem download. -/
def xmodemPoll (now : Nat) (available : Option UInt8) (state : XmodemState) : XmodemResult :=
  if timerRemaining state.packetTimer now = 0 then
    let state := { state with retry := state.retry + 1 }
    if state.retry > xmodemDataRetry then
      { state := { state with block := 0 }, calls := [.puts "Timeout"], status := taskFinished }
    else
      -- on timeout restart timer and index, flush and send NAK
      let state := { state with packetTimer := timerRegister xmodemDataTimeo now, i := 0 }
      let result := xmodemRead now available state
      { result with calls := .flush :: .putc nak :: result.calls }
  else
    xmodemRead now available state

end ComputerSystems.System
