import ComputerSystems.Data.Memory
import ComputerSystems.System.Timers

/-! # The TFTP client

`tftp_recv` of `tftp_clnt.c`, in the build that stores the blocks it receives
(`ENABLE_BOOTLOADER`), and the state in which `Tftp` leaves the control block when
it registers it.  From then on `send_udpdev` and `recv_udpdev` are the same UDP
control block.  Address 0 of the destination is `destination[0]`.

A datagram comes with the address and the port it was sent from.  The clock
reading and whether lwIP has a buffer for the acknowledgement are arguments.
-/

namespace ComputerSystems.Network

open ComputerSystems.Data ComputerSystems.System

def tftpOpcodeData : Nat := 3
def tftpOpcodeError : Nat := 5
def tftpBlockSize : Nat := 512
def tftpBlockTimeout : Nat := 10000000
def tftpInitBlockTimeout : Nat := 3000000

def tftpOk : Int := 0
def tftpSysErr : Int := -1
def tftpEof : Int := -3

/-- The fields of lwIP's `struct udp_pcb` that the client reads. -/
structure UdpPcb where
  localPort : BitVec 16
  remoteIp : BitVec 32
  remotePort : BitVec 16

/-- `udp_connect` on a control block that is bound to a local port. -/
def udpConnect (ipaddr : BitVec 32) (port : BitVec 16) (pcb : UdpPcb) : UdpPcb :=
  { pcb with remoteIp := ipaddr, remotePort := port }

/-- `struct tftpcb`, with the memory at `destination`, and the static variable
    `bnum` of `tftp_recv`. -/
structure TftpCb where
  serverIp : BitVec 32
  udpdev : UdpPcb
  numRreqsSent : Nat
  blockRecvTries : Nat
  nextBlockNumber : BitVec 32
  status : Int
  blockMaxEndTimer : Timer
  destination : Memory
  bnum : BitVec 16

/-- A UDP datagram as lwIP hands it over. -/
structure Datagram where
  address : BitVec 32
  port : BitVec 16
  payload : List UInt8

/-- What a call of `tftp_recv` does: the control block afterwards, the block it
    acknowledges, the bytes it copies and the index it copies them to, and the
    numbers of the message that it is out of sync. -/
structure TftpResult where
  tftp : TftpCb
  acked : Option (BitVec 16) := none
  copied : Option (Int × List UInt8) := none
  outOfSync : Option (Int × Int) := none

/-- A 16-bit field in network byte order. -/
def net2hs (payload : List UInt8) (index : Nat) : BitVec 16 :=
  BitVec.ofNat 16 ((payload.getD index 0).toNat * 256 + (payload.getD (index + 1) 0).toNat)

/-- The control block when `Tftp` has sent the request and registered
    `tftp_recv`. -/
def tftpStart (serverIp : BitVec 32) (udpdev : UdpPcb) (now : Nat) (destination : Memory)
    (bnum : BitVec 16) : TftpCb where
  serverIp := serverIp
  udpdev := udpdev
  numRreqsSent := 1
  blockRecvTries := 0
  nextBlockNumber := 1
  status := 0
  blockMaxEndTimer := timerRegister tftpInitBlockTimeout now
  destination := destination
  bnum := bnum

/-- The label `out_kill_recv_thread`: schedule an immediate time out. -/
def tftpKill (now : Nat) (status : Int) (tftp : TftpCb) : TftpCb :=
  { tftp with status, blockMaxEndTimer := timerRegister 0 now }

/-- The part of `tftp_recv` behind the block it has received: acknowledge it and
    finish at a short block. -/
def tftpAcknowledge (now : Nat) (allocates : Bool) (number : BitVec 16) (nbytes : Nat)
    (result : TftpResult) : TftpResult :=
  let retval := if allocates then tftpOk else tftpSysErr
  let acked := if allocates then some number else none
  if nbytes < tftpBlockSize then { result with acked, tftp := tftpKill now tftpEof result.tftp }
  else if retval = tftpSysErr then { result with acked, tftp := tftpKill now tftpSysErr result.tftp }
  else { result with
    acked, tftp := { result.tftp with blockMaxEndTimer := timerRegister tftpBlockTimeout now } }

/-- The part of `tftp_recv` that treats a packet. -/
def tftpPacket (now : Nat) (allocates : Bool) (payload : List UInt8) (tftp : TftpCb) : TftpResult :=
  let opcode := (net2hs payload 0).toNat
  let number := net2hs payload 2
  let expected := tftp.nextBlockNumber.setWidth 16
  if payload.length < 4 ∨ opcode ≠ tftpOpcodeData ∨
      (number ≠ expected ∧
        (tftp.nextBlockNumber = 1 ∨ (number.toNat : Int) ≠ (expected.toNat : Int) - 1)) then
    if payload.length ≥ 2 ∧ opcode = tftpOpcodeError then
      { tftp := tftpKill now tftpSysErr tftp }
    else
      -- ignore the bad packet and try receiving again
      { tftp }
  else if number = expected then
    let data := payload.drop 4
    let offset := ((number.toNat : Int) - 1) * tftpBlockSize
    let bnum := tftp.bnum + 1
    tftpAcknowledge now allocates number data.length
      { tftp := { tftp with
          bnum, destination := tftp.destination.write offset data
          nextBlockNumber := tftp.nextBlockNumber + 1, blockRecvTries := 0 }
        copied := some (offset, data)
        outOfSync := if bnum ≠ number then some ((bnum.toNat : Int) - 1, (number.toNat : Int) - 1)
          else none }
  else
    tftpAcknowledge now allocates number tftpBlockSize { tftp }

/-- `tftp_recv`: the callback for received datagrams. -/
def tftpRecv (now : Nat) (allocates : Bool) (datagram : Datagram) (tftp : TftpCb) : TftpResult :=
  if tftp.nextBlockNumber = 1 then
    if tftp.serverIp ≠ datagram.address then { tftp }
    else
      -- connect after first packet
      let tftp := { tftp with udpdev := udpConnect datagram.address datagram.port tftp.udpdev }
      if tftp.udpdev.remotePort ≠ datagram.port then { tftp }
      else tftpPacket now allocates datagram.payload { tftp with bnum := 0 }
  else
    tftpPacket now allocates datagram.payload tftp

end ComputerSystems.Network
