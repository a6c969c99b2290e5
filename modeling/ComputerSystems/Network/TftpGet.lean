import ComputerSystems.Network.Tftp

/-! # The TFTP task

`tftpGet` of `tftp_clnt.c` and the poll of `Tftp` that calls it, once a transfer has
been registered, and the runs of a transfer: datagrams and polls in any order.

What a poll finds is an argument: whether the network is up, the clock, whether lwIP has
a buffer for a request, which control block `udp_new` returns, and whether `udp_bind`
succeeds.  A control block has just been removed when `udp_new` is called, so that it
finds one.  The calls that a poll makes to lwIP are part of its result.
-/

namespace ComputerSystems.Network

open ComputerSystems.Data ComputerSystems.System

def tftpInitBlockMaxRetries : Nat := 5
def portTftp : BitVec 16 := 69

/-- A call to lwIP, with the control block it is for. -/
inductive UdpCall where
  | connect (pcb : Nat) (ipaddr : BitVec 32) (port : BitVec 16)
  | sendRrq (pcb : Nat)
  | disconnect (pcb : Nat)
  | remove (pcb : Nat)
  | bind (pcb : Nat) (port : BitVec 16)
  | recv (pcb : Nat)
deriving DecidableEq

/-- `TFtpCB` with its file name and its pointers to control blocks, and whether `Data`
    points to it. -/
structure TftpTask where
  tftp : TftpCb
  filename : List UInt8
  sendUdpdev : Option Nat
  recvUdpdev : Option Nat
  data : Bool

/-- What a poll finds. -/
structure TftpPollEnv where
  netUp : Bool
  now : Nat
  buffer : Bool
  pcb : Nat
  binds : Bool

/-- What a poll does. -/
structure TftpPollResult where
  task : TftpTask
  calls : List UdpCall := []
  status : Int

/-- `tftpSendRRQ`: whether a request is sent. -/
def tftpSendRRQ (filename : List UInt8) (buffer : Bool) : Int :=
  if filename.length = 0 ∨ 256 ≤ filename.length then tftpSysErr
  else if buffer then tftpOk else tftpSysErr

/-- `tftp->send_udpdev = tftp->recv_udpdev = NULL`. -/
def TftpTask.close (task : TftpTask) : TftpTask := { task with sendUdpdev := none, recvUdpdev := none }

/-- The part of `tftpGet` that sends the request again, on the control block `pcb`. -/
def tftpAgain (env : TftpPollEnv) (pcb : Nat) (task : TftpTask) : TftpPollResult :=
  let tftp := { task.tftp with udpdev := udpConnect task.tftp.serverIp portTftp task.tftp.udpdev }
  let connected := [UdpCall.connect pcb task.tftp.serverIp portTftp]
  if tftpSendRRQ task.filename env.buffer = tftpSysErr then
    { task := { task.close with tftp, data := false }
      calls := connected ++ [.remove pcb]
      status := taskFinished }
  else
    let localPort := tftp.udpdev.localPort
    let tftp := { tftp with
      blockRecvTries := 0
      numRreqsSent := tftp.numRreqsSent + 1
      blockMaxEndTimer := timerRegister tftpInitBlockTimeout env.now
      udpdev := { localPort, remoteIp := 0, remotePort := 0 } }
    -- `recv_udpdev` is removed as well, if there is one
    let calls := connected ++ [.sendRrq pcb, .remove pcb] ++ task.recvUdpdev.toList.map UdpCall.remove ++
      [.bind env.pcb localPort]
    if env.binds then
      { task := { task with tftp, sendUdpdev := some env.pcb, recvUdpdev := some env.pcb }
        calls := calls ++ [.recv env.pcb]
        status := taskIdle }
    else
      { task := { task.close with tftp := { tftp with status := tftpSysErr }, data := false }
        calls := calls ++ [.remove env.pcb]
        status := taskFinished }

/-- `tftpGet`. -/
def tftpGet (env : TftpPollEnv) (task : TftpTask) : TftpPollResult :=
  if !env.netUp then { task, status := taskFinished }
  else if task.filename = [] then { task, status := taskFinished }
  else
    match task.sendUdpdev with
    | none => { task, status := taskIdle }
    | some pcb =>
      if timerRemaining task.tftp.blockMaxEndTimer env.now = 0 then
        if task.tftp.status ≠ 0 then
          { task := { task.close with data := false }, calls := [.remove pcb], status := taskFinished }
        else if task.tftp.nextBlockNumber = 1 ∧ task.tftp.numRreqsSent < tftpInitBlockMaxRetries then
          tftpAgain env pcb task
        else if tftpInitBlockMaxRetries ≤ task.tftp.numRreqsSent then
          { task := task.close
            calls := task.recvUdpdev.toList.flatMap fun recv => [.disconnect recv, .remove recv]
            status := taskFinished }
        else { task, status := taskIdle }
      else { task, status := taskIdle }

/-- `Tftp` while a transfer is in progress. -/
def tftpPoll (env : TftpPollEnv) (task : TftpTask) : TftpPollResult :=
  let result := tftpGet env task
  if result.status = taskFinished then { result with task := { result.task with data := false } } else result

/-! ## Transfers -/

/-- A datagram that arrives, or a poll. -/
inductive TftpEvent where
  | datagram (now : Nat) (allocates : Bool) (datagram : Datagram)
  | poll (env : TftpPollEnv)

/-- A transfer, with the number of blocks it has accepted. -/
structure TftpTransfer where
  task : TftpTask
  accepted : Nat

/-- lwIP calls `tftp_recv` for a control block that is registered, and the shell polls a
    transfer until it is finished. -/
def transferStep (transfer : TftpTransfer) : TftpEvent → TftpTransfer
  | .datagram now allocates datagram =>
    if transfer.task.recvUdpdev.isSome then
      let result := tftpRecv now allocates datagram transfer.task.tftp
      { task := { transfer.task with tftp := result.tftp }
        accepted := if result.copied.isSome then transfer.accepted + 1 else transfer.accepted }
    else transfer
  | .poll env =>
    if transfer.task.data then { transfer with task := (tftpPoll env transfer.task).task } else transfer

/-- The transfer when `Tftp` has sent the first request and registered `pcb`. -/
def transferStart (tftp : TftpCb) (filename : List UInt8) (pcb : Nat) : TftpTransfer where
  task := { tftp, filename, sendUdpdev := some pcb, recvUdpdev := some pcb, data := true }
  accepted := 0

end ComputerSystems.Network
