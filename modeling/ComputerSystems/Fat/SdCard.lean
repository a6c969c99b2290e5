import ComputerSystems.Usb.Driver
import Mathlib.Data.List.FinRange

/-! # The block device of the file system

`sdcard.c`: reads and writes of single blocks over the mass storage driver, with a
table of the operations whose callbacks are still to be called.

The payload that the driver keeps for an operation is the address of its slot in
the table, and the callback one of `ms_readBlockCallback` and
`ms_writeBlockCallback`.  The callback of an operation belongs to the file system;
what it does to this module is the list of calls that it makes.
-/

namespace ComputerSystems.Fat

open ComputerSystems.System ComputerSystems.Usb

def maxOperations : Nat := 8

inductive SdcardBlockOperation where
  | read
  | write
deriving DecidableEq, Repr

/-- `sdcardOperationStatus_e`, by the numbers that its members have. -/
inductive SdcardOperationStatus where
  | inProgress
  | busy
  | success
  | failure
deriving DecidableEq, Repr

/-- The status that an integer returned as `sdcardOperationStatus_e` is. -/
def operationStatus : Nat → SdcardOperationStatus
  | 0 => .inProgress
  | 1 => .busy
  | 2 => .success
  | _ => .failure

/-- `struct OpCallback`; a slot is free while its callback is `NULL`. -/
structure OpCallback where
  callback : Option Address := none
  callbackData : BitVec 32 := 0
  blockIndex : BitVec 32 := 0
deriving DecidableEq

/-- `Operations`. -/
abbrev Operations := Fin maxOperations → OpCallback

/-- `NewOp`. -/
def newOp (operations : Operations) : Option (Fin maxOperations) :=
  (List.finRange maxOperations).find? fun slot => (operations slot).callback.isNone

/-- `sdcard_poll`. -/
def sdcardPoll (operations : Operations) : Bool :=
  (List.finRange maxOperations).any fun slot => (operations slot).callback.isNone

/-- The addresses of `ms_readBlockCallback` and `ms_writeBlockCallback`. -/
def blockCallback : SdcardBlockOperation → Address
  | .read => 0
  | .write => 1

def blockOperationAt : Address → SdcardBlockOperation
  | 0 => .read
  | _ => .write

/-- The address of a slot. -/
def opAddress (slot : Fin maxOperations) : Address := slot.val

def opAt (address : Address) : Option (Fin maxOperations) :=
  if inside : address < maxOperations then some ⟨address, inside⟩ else none

/-- A call of `sdcard_readBlock` or `sdcard_writeBlock`.  `starts` says whether
    `HostEndpointTransfer` accepts the command block wrapper, if it comes to that. -/
structure BlockCall where
  operation : SdcardBlockOperation
  blockIndex : BitVec 32
  buffer : Option Address
  callback : Address
  callbackData : BitVec 32
  starts : Bool
deriving DecidableEq

/-- What the file system sees: a call that returned, with the table before and after
    it, and a callback that was called. -/
inductive CardEvent where
  | returned (call : BlockCall) (result : Nat) (before after : Operations)
  | invoked (operation : SdcardBlockOperation) (blockIndex : BitVec 32) (buffer : Option Address)
      (callback : Address) (callbackData : BitVec 32)

/-- The table, the mass storage device below it and its outstanding transfers, what
    the driver did and what the file system saw. -/
structure SdCard where
  device : MassStorageDevice
  operations : Operations
  outstanding : List Transfer
  actions : List StorageAction
  history : List CardEvent

def SdCard.absorb (card : SdCard) (effect : Effect) : SdCard :=
  { card with
    device := effect.device
    outstanding := card.outstanding ++ effect.actions.filterMap startedTransfer
    actions := card.actions ++ effect.actions }

/-! ## Calls -/

/-- `blockIndex * BLOCK_SIZE`, a 32 bit product. -/
def blockByteOffset (blockIndex : BitVec 32) : BitVec 64 :=
  (blockIndex * BitVec.ofNat 32 blockSize).setWidth 64

/-- `MassStorageRead` or `MassStorageWrite` of a block. -/
def startTransfer (operation : SdcardBlockOperation) (buffer : Option Address)
    (slot : Fin maxOperations) (starts : Bool) (device : MassStorageDevice) : Int × Effect :=
  let count := BitVec.ofNat 32 blockSize
  match operation with
  | .read => massStorageRead buffer count (some (blockCallback .read)) (some (opAddress slot)) starts device
  | .write =>
    massStorageWrite buffer count (some (blockCallback .write)) (some (opAddress slot)) starts device

/-- The body of `sdcard_readBlock` and `sdcard_writeBlock`, which differ in the
    operation and in how the caller reads the result. -/
def sdcardBlock (call : BlockCall) (card : SdCard) : Nat × SdCard :=
  match newOp card.operations with
  | none => (0, card)
  | some slot =>
    let card := { card with
      operations := Function.update card.operations slot
        { callback := some call.callback, callbackData := call.callbackData
          blockIndex := call.blockIndex } }
    -- seek to the block
    let (offset, effect) := massStorageSeek (blockByteOffset call.blockIndex) card.device
    let card := card.absorb effect
    if offset ≠ blockByteOffset call.blockIndex then (0, card)
    else
      let (result, effect) := startTransfer call.operation call.buffer slot call.starts card.device
      (if result < 0 then 0 else 1, card.absorb effect)

/-- A call and its entry in the history. -/
def blockCall (card : SdCard) (call : BlockCall) : SdCard :=
  let (result, next) := sdcardBlock call card
  { next with
    history := next.history ++ [.returned call result card.operations next.operations] }

/-! ## Completions -/

/-- `ms_readBlockCallback` and `ms_writeBlockCallback`: the operation's callback, which
    makes `calls`, and then the slot is cleared.  A `NULL` callback is not called. -/
def msBlockCallback (operation : SdcardBlockOperation) (buffer : Option Address)
    (slot : Fin maxOperations) (calls : List BlockCall) (card : SdCard) : SdCard :=
  let op := card.operations slot
  match op.callback with
  | none => card
  | some callback =>
    let card := { card with
      history := card.history ++ [.invoked operation op.blockIndex buffer callback op.callbackData] }
    let card := calls.foldl blockCall card
    { card with operations := Function.update card.operations slot {} }

/-- The callback that `op_complete` calls, entered with `device`. -/
def operationCallback (calls : List BlockCall) (card : SdCard) (device : MassStorageDevice) : SdCard :=
  let card := { card with device, outstanding := [], actions := [] }
  match device.operationCallback, device.operationPayload.bind opAt with
  | some callback, some slot =>
    msBlockCallback (blockOperationAt callback) device.commandBuffer slot calls card
  | _, _ => card

/-- The device with which the callback of the operation is entered when a transfer
    completes; nothing when it is not called. -/
def enteredDevice (csw : CommandStatusWrapper) (device : MassStorageDevice) : Option MassStorageDevice :=
  if finishes csw device ∧ device.commandComplete = some .opComplete ∧ device.operationCallback.isSome then
    some (opResult csw { device with commandState := stateCbwTransfer })
  else none

/-- The complete routine of the card's commands, `op_complete`. -/
def cardRoutine (csw : CommandStatusWrapper) (calls : List BlockCall) (card : SdCard)
    (device : MassStorageDevice) : Effect :=
  match device.commandComplete with
  | some .opComplete =>
    opComplete csw (fun device =>
      { device := (operationCallback calls card device).device
        actions := (operationCallback calls card device).actions }) device
  | _ => { device }

/-- The completion of a transfer: `command_complete` and what it calls. -/
def cardComplete (csw : CommandStatusWrapper) (starts : Bool) (calls : List BlockCall) (card : SdCard) :
    SdCard :=
  let next := card.absorb (commandComplete csw starts (cardRoutine csw calls card) card.device)
  match enteredDevice csw card.device with
  | none => next
  | some device =>
    { next with
      operations := (operationCallback calls card device).operations
      history := (operationCallback calls card device).history }

/-! ## Runs -/

/-- A call from outside, or the completion of the transfer at `index` of the
    outstanding ones: `starts` says whether the next transfer of the command starts,
    and `calls` are what the callback of the operation calls if it is called. -/
inductive BlockEvent where
  | call (made : BlockCall)
  | complete (index : Nat) (csw : CommandStatusWrapper) (starts : Bool) (calls : List BlockCall)

def BlockEvent.calls : BlockEvent → List BlockCall
  | .call made => [made]
  | .complete _ _ _ calls => calls

def cardStep (card : SdCard) : BlockEvent → Option SdCard
  | .call made => some (blockCall card made)
  | .complete index csw starts calls =>
    if index < card.outstanding.length then
      some (cardComplete csw starts calls
        { card with outstanding := card.outstanding.eraseIdx index })
    else none

/-- No operation, over a device that has been attached. -/
def cardStart (device : MassStorageDevice) : SdCard where
  device := massStorageAttach device
  operations _ := {}
  outstanding := []
  actions := []
  history := []

end ComputerSystems.Fat
