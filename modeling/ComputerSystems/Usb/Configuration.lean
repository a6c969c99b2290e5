import ComputerSystems.Data.Loop

/-! # The configuration descriptor parser

`parser_attach` and `DeviceGetDescriptor` of `usb/device.c`.  The buffer is what a
device sent: a byte for every offset from its start, of which the first `bufLen`
are the device's.  A position is an offset into it.

The loop of `parser_attach` advances by a length byte that the device chose, so it
runs on fuel; both functions return nothing when it runs out.
-/

namespace ComputerSystems.Usb

open ComputerSystems.Data

def descriptorConfiguration : UInt8 := 2
def descriptorInterface : UInt8 := 4
def descriptorEndpoint : UInt8 := 5

def sizeofConfigurationDescriptor : UInt8 := 9
def sizeofInterfaceDescriptor : UInt8 := 9
def sizeofEndpointDescriptor : UInt8 := 7

/-- The `Header` of the `Descriptor` union. -/
structure Header where
  length : UInt8
  descriptorType : UInt8
deriving DecidableEq, Repr

/-- The header of the descriptor at a position. -/
def headerAt (buffer : Nat → UInt8) (position : Nat) : Header :=
  ⟨buffer position, buffer (position + 1)⟩

/-- `Configuration.totalLength` of the descriptor at the start of the buffer. -/
def totalLength (buffer : Nat → UInt8) : Nat := (buffer 2).toNat + 256 * (buffer 3).toNat

/-- `struct ConfigurationParser`. -/
structure ConfigurationParser where
  buffer : Nat → UInt8
  bufLen : Nat
  valid : Bool
  endPosition : Nat
  currentPosition : Nat

/-- The returns of `parser_attach` that leave `valid` FALSE. -/
inductive Rejection where
  | bufferLength
  | notConfiguration
  | exceedsParser
  | outOfPlace
  | descriptorLength
  | notTheEnd
deriving DecidableEq, Repr

/-- What `parser_attach` prints; a descriptor out of place is refused silently. -/
def Rejection.message : Rejection → Option String
  | .bufferLength => some "Parser with invalid buffer length"
  | .notConfiguration => some "Not a valid configuration descriptor"
  | .exceedsParser => some "Descriptor exceeds parser position"
  | .outOfPlace => none
  | .descriptorLength => some "Descriptor length invalid"
  | .notTheEnd => some "Current position not the end"

/-! ## `parser_attach` -/

/-- The switch on the descriptor type: the expected length, 0 for a type it does
    not know, and nothing where it returns. -/
def expectedLen (lastDescType descType : UInt8) : Option UInt8 :=
  if descType = descriptorConfiguration then
    if lastDescType ≠ 0 then none else some sizeofConfigurationDescriptor
  else if descType = descriptorInterface then
    if lastDescType = 0 then none else some sizeofInterfaceDescriptor
  else if descType = descriptorEndpoint then
    if lastDescType = 0 ∨ lastDescType = descriptorConfiguration then none
    else some sizeofEndpointDescriptor
  else some 0

/-- The variables of the loop. -/
structure Walk where
  currentPosition : Nat
  lastDescType : UInt8

/-- One pass through the loop, with what follows the loop where its guard fails. -/
def parserPass (buffer : Nat → UInt8) (endPosition : Nat) (walk : Walk) :
    Pass Walk (Except Rejection Unit) :=
  if walk.currentPosition + 2 < endPosition then
    let header := headerAt buffer walk.currentPosition
    let descEnd := walk.currentPosition + header.length.toNat
    if endPosition < descEnd then .leave (.error .exceedsParser)
    else
      match expectedLen walk.lastDescType header.descriptorType with
      | none => .leave (.error .outOfPlace)
      | some expected =>
        if expected ≠ 0 ∧ header.length ≠ expected then .leave (.error .descriptorLength)
        else .again ⟨descEnd, header.descriptorType⟩
  else if walk.currentPosition ≠ endPosition then .leave (.error .notTheEnd)
  else .leave (.ok ())

/-- The test of the header at the start of the buffer. -/
def startsConfiguration (buffer : Nat → UInt8) (bufLen : Nat) : Bool :=
  (headerAt buffer 0).length == sizeofConfigurationDescriptor
    && (headerAt buffer 0).descriptorType == descriptorConfiguration
    && decide (totalLength buffer ≤ bufLen)

/-- The end position that the walk goes up to. -/
def parserEnd (buffer : Nat → UInt8) (bufLen : Nat) : Nat :=
  if totalLength buffer < bufLen then totalLength buffer else bufLen

/-- `parser_attach`: the parser as it is left, and how the function returned. -/
def parserAttach (fuel : Nat) (buffer : Nat → UInt8) (bufLen : Nat) :
    Option (ConfigurationParser × Except Rejection Unit) :=
  let parser : ConfigurationParser :=
    { buffer, bufLen, valid := false, endPosition := bufLen, currentPosition := 0 }
  if bufLen < 4 ∨ 512 < bufLen then some (parser, .error .bufferLength)
  else if !startsConfiguration buffer bufLen then some (parser, .error .notConfiguration)
  else
    let parser := { parser with endPosition := parserEnd buffer bufLen }
    match iterate (parserPass buffer parser.endPosition) fuel ⟨0, 0⟩ with
    | none => none
    | some (.error rejection) => some (parser, .error rejection)
    | some (.ok ()) => some ({ parser with valid := true }, .ok ())

/-! ## `DeviceGetDescriptor` -/

/-- One pass through the loop of `DeviceGetDescriptor`, which moves the parser's
    own position: the result is the position of the descriptor found. -/
def searchPass (type : UInt8) (parser : ConfigurationParser) :
    Pass ConfigurationParser (Option Nat × ConfigurationParser) :=
  if parser.currentPosition < parser.endPosition then
    let header := headerAt parser.buffer parser.currentPosition
    let descEnd := parser.currentPosition + header.length.toNat
    if type = descriptorEndpoint ∧ header.descriptorType = descriptorInterface then
      .leave (none, parser)
    else if header.descriptorType = type then
      .leave (some parser.currentPosition, { parser with currentPosition := descEnd })
    else .again { parser with currentPosition := descEnd }
  else .leave (none, parser)

/-- `DeviceGetDescriptor`: the descriptor found and the parser as it is left. -/
def deviceGetDescriptor (fuel : Nat) (parser : ConfigurationParser) (type : UInt8) :
    Option (Option Nat × ConfigurationParser) :=
  iterate (searchPass type) fuel parser

/-- Successive calls on one parser: what each of them returned, and the parser. -/
def deviceGetDescriptors (fuel : Nat) (parser : ConfigurationParser) :
    List UInt8 → Option (List (Option Nat) × ConfigurationParser)
  | [] => some ([], parser)
  | type :: types =>
    match deviceGetDescriptor fuel parser type with
    | none => none
    | some (result, next) =>
      (deviceGetDescriptors fuel next types).map fun (results, last) => (result :: results, last)

end ComputerSystems.Usb
