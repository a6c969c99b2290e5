import ComputerSystems.System.Os
import Mathlib.Data.List.FinRange

/-! # Endpoints and request buffers

`usb/endpoint.c` and `usb/request.c`.  An endpoint is named by its address; what
the host controller reads of an endpoint and of its device does not change while
transfers run, except for the PID of the next transfer.

A request buffer is a slot of the array `Requests`.  It is free while both its
endpoint and its buffer are `NULL`.
-/

namespace ComputerSystems.Usb

open ComputerSystems.System

def maxUsbRequests : Nat := 10

def requestIn : UInt8 := 0x80

inductive EndpointType where
  | control
  | bulk
  | interrupt
  | isochronous
deriving DecidableEq, Repr

inductive PID where
  | setup
  | data0
  | data1
deriving DecidableEq, Repr

inductive Speed where
  | low
  | full
  | high
  | unknown
deriving DecidableEq, Repr

/-- What the controller reads of `struct Endpoint` and of the endpoint's device. -/
structure Endpoint where
  type : EndpointType
  directionIn : Bool
  maxPacketSize : BitVec 32
  interval : BitVec 32
  speed : Speed
  hubAddress : UInt8
deriving DecidableEq

/-- `maxPacketSize` as `EndpointFromDescr` reads it of an endpoint descriptor.  A device
    descriptor has only the lower byte. -/
def descriptorPacketSize (maxPacketSize maxPacketSize2 : UInt8) : BitVec 32 :=
  BitVec.ofNat 32 ((maxPacketSize2.toNat <<< 8) + maxPacketSize.toNat)

/-- The PID with which `EndpointControl` and `EndpointFromDescr` set up an endpoint. -/
def startPID (endpoint : Endpoint) : PID :=
  if endpoint.type = .control then .setup else .data0

/-- `EndpointGetNextPID`. -/
def endpointGetNextPID (nextPID : PID) (statusStage : Bool) : PID :=
  if statusStage then .data1 else nextPID

/-- `EndpointSkipPID`. -/
def endpointSkipPID (nextPID : PID) (packets : BitVec 32) (statusStage : Bool) : PID :=
  if statusStage then .setup
  else
    match nextPID with
    | .setup => .data1
    | .data0 => if packets &&& 1 ≠ 0 then .data1 else .data0
    | .data1 => if packets &&& 1 ≠ 0 then .data0 else .data1

/-! ## Requests -/

/-- `struct SetupData`. -/
structure SetupData where
  requestType : UInt8
  request : UInt8
  value : BitVec 16
  index : BitVec 16
  length : BitVec 16
deriving DecidableEq

/-- The completion routines that the controller installs itself, and those of its
    clients. -/
inductive Routine where
  | hostSubmitAsyncRequest
  | transferComplete
  | client (address : Address)
deriving DecidableEq

/-- A completion routine with the two values that it is called with.  Pointers are
    numbers here, 0 for `NULL`: the context of a control transfer is its stage. -/
structure Completion where
  routine : Option Routine := none
  param : Nat := 0
  context : Nat := 0
deriving DecidableEq

/-- `struct Request`. -/
structure Request where
  endpoint : Option Address := none
  setupData : Option SetupData := none
  buffer : Option Address := none
  bufLen : BitVec 32 := 0
  status : Int := 0
  resultLen : BitVec 32 := 0
  zlb : Bool := false
  saved : Completion := {}
  completion : Completion := {}
deriving DecidableEq

abbrev Requests := Fin maxUsbRequests → Request

/-- The address -1, by which `NewRequest` claims a slot. -/
def claimedAddress : Address := 0xFFFFFFFF

def Request.free (request : Request) : Bool := request.endpoint.isNone && request.buffer.isNone

/-- The slot that `NewRequest` finds. -/
def findRequest (requests : Requests) : Option (Fin maxUsbRequests) :=
  (List.finRange maxUsbRequests).find? fun slot => (requests slot).free

/-- `NewRequest`. -/
def newRequest (requests : Requests) : Option (Fin maxUsbRequests × Requests) :=
  (findRequest requests).map fun slot =>
    (slot, Function.update requests slot { requests slot with endpoint := some claimedAddress })

/-- `FreeRequest`. -/
def freeRequest (request : Request) : Request := { request with endpoint := none, buffer := none }

/-- `RequestAttach`. -/
def requestAttach (endpoint : Address) (buffer : Option Address) (bufLen : BitVec 32)
    (setupData : Option SetupData) (_request : Request) : Request where
  endpoint := some endpoint
  setupData
  buffer
  bufLen

/-- `RequestRelease`. -/
def requestRelease (request : Request) : Request :=
  { request with
    endpoint := none
    setupData := none
    buffer := none
    completion := { request.completion with routine := none } }

/-- `RequestSetCompletionRoutine`. -/
def requestSetCompletionRoutine (completion : Completion) (request : Request) : Request :=
  { request with completion }

end ComputerSystems.Usb
