import ComputerSystems.Usb.DeviceInitialize
import ComputerSystems.Verified.DescriptorParser

/-! # The configuration descriptor that is parsed

The length of a configuration descriptor is checked in a first response of nine bytes and
used for the request of the whole descriptor.  `initialize_complete` and `DeviceCopy` read
it again from what the second response has left, and neither looks at how much of it was
received.
-/

namespace ComputerSystems.Verified

open ComputerSystems.Usb

variable {device short next : ControlDevice} {shortCall fullCall : InitializeCall} {size fuel : Nat}
  {first second : List UInt8} {initial : Nat → UInt8}

/-- The two requests for the descriptor, and what the device answers. -/
structure TwoReads (device next : ControlDevice) (size : Nat) (first second : List UInt8)
    (initial : Nat → UInt8) : Prop where
  reads : ∃ shortCall fullCall : InitializeCall, ∃ short : ControlDevice,
    device.deviceInitialize shortCall = .requested (.getDescriptor descriptorConfiguration 9) short ∧
      fullCall.configDesc = storeResponse first initial ∧
      short.deviceInitialize fullCall = .requested (.getConfiguration size) next
  received : second.length ≤ size

/-- What the driver finds when both responses have been received. -/
def fullDescriptor (first second : List UInt8) (initial : Nat → UInt8) : Nat → UInt8 :=
  storeResponse second (storeResponse first initial)

/-- What is parsed, and what is copied once the parser has accepted it, has been asked for and
    has been received. -/
structure Trusted (next : ControlDevice) (size : Nat) (second : List UInt8) (full : Nat → UInt8) : Prop where
  parsed_requested : parsedBytes full ≤ size
  parsed_received : parsedBytes full ≤ second.length
  copied : ∀ fuel after, next.initializeComplete fuel full = some (true, after) →
    copiedBytes after full ≤ size ∧ copiedBytes after full ≤ second.length

/-- The length that the second response leaves is refused by the parser; or the response has the
    four bytes of its own header, and is as long as that says if it is a configuration descriptor. -/
def AsLongAsSaid (second : List UInt8) (full : Nat → UInt8) : Prop :=
  totalLength full < 4 ∨ 512 < totalLength full ∨
    4 ≤ second.length ∧ (startsConfiguration full (totalLength full) = true → totalLength full ≤ second.length)

theorem parsedBytes_le_iff {full : Nat → UInt8} : parsedBytes full ≤ second.length ↔ AsLongAsSaid second full := by
  rw [parsedBytes, AsLongAsSaid]
  by_cases refused : totalLength full < 4 ∨ 512 < totalLength full
  · rw [if_pos refused]
    simp only [Nat.zero_le, true_iff]
    tauto
  · rw [if_neg refused]
    cases starts : startsConfiguration full (totalLength full) with
    | true =>
      simp only [if_true, true_implies]
      omega
    | false =>
      simp only [Bool.false_eq_true, if_false, false_implies, and_true]
      tauto

/-- What is copied has been parsed. -/
theorem copiedBytes_le {after : ControlDevice} {full : Nat → UInt8}
    (completes : next.initializeComplete fuel full = some (true, after)) : copiedBytes after full ≤ parsedBytes full := by
  rw [ControlDevice.initializeComplete] at completes
  split at completes
  · rw [Option.map_eq_some_iff] at completes
    obtain ⟨⟨parser, outcome⟩, attached, same⟩ := completes
    rw [Prod.mk.injEq] at same
    obtain ⟨_, headers, checked, _⟩ := parserAttach_valid attached same.1
    have least := checked.least
    have most := checked.most
    have allowed : ¬ (totalLength full < 4 ∨ 512 < totalLength full) := by omega
    rw [copiedBytes, parsedBytes, if_neg allowed, if_pos checked.starts]
    split
    · exact Nat.le_refl _
    · exact Nat.zero_le _
  · simp at completes

/-- Whatever a device answers to the two requests, only what has been asked for and received is
    parsed and copied if and only if the second response is as long as it says. -/
theorem descriptor_trusted_iff (device next : ControlDevice) (size : Nat) (first second : List UInt8)
    (initial : Nat → UInt8) (reads : TwoReads device next size first second initial) :
    Trusted next size second (fullDescriptor first second initial) ↔
      AsLongAsSaid second (fullDescriptor first second initial) := by
  rw [← parsedBytes_le_iff]
  constructor
  · intro trusted
    exact trusted.parsed_received
  · intro parsed
    refine ⟨parsed.trans reads.received, parsed, fun fuel after completes => ?_⟩
    have copied := copiedBytes_le completes
    exact ⟨copied.trans (parsed.trans reads.received), copied.trans parsed⟩

/-! ## A descriptor that grows -/

/-- A device whose addresses have been set. -/
def addressedDevice : ControlDevice :=
  { ControlDevice.deviceAttach .full 0 1 none with deviceDesc := true, state := .getConfigurationLength }

def configurationRead : ControlDevice :=
  { addressedDevice with address := 1, configDesc := true, state := .getDescriptorLength }

/-- The first nine bytes of a configuration descriptor of so many bytes. -/
def configurationHeader (length : UInt8) : List UInt8 := [9, 2, length, 0, 1, 1, 0, 128, 50]

theorem twoReads_nine (second : List UInt8) (received : second.length ≤ 9) :
    TwoReads addressedDevice configurationRead 9 (configurationHeader 9) second fun _ => 0 :=
  ⟨⟨⟨fun _ => 0, fun _ => 0, 1, true⟩, ⟨fun _ => 0, storeResponse (configurationHeader 9) fun _ => 0, 1, true⟩, _, rfl, rfl,
    rfl⟩, received⟩

/-- A device that gives the same answer twice. -/
theorem descriptor_trusted_same :
    Trusted configurationRead 9 (configurationHeader 9)
        (fullDescriptor (configurationHeader 9) (configurationHeader 9) fun _ => 0) ↔
      AsLongAsSaid (configurationHeader 9)
        (fullDescriptor (configurationHeader 9) (configurationHeader 9) fun _ => 0) :=
  descriptor_trusted_iff addressedDevice configurationRead 9 _ _ _ (twoReads_nine _ (by decide))

/-- A device that first says nine bytes and then 200, of which nine were asked for and sent. -/
theorem descriptor_not_trusted :
    ¬ ∀ (device next : ControlDevice) (size : Nat) (first second : List UInt8) (initial : Nat → UInt8),
      TwoReads device next size first second initial →
        Trusted next size second (fullDescriptor first second initial) := by
  intro trusted
  have parsed := (trusted addressedDevice configurationRead 9 (configurationHeader 9) (configurationHeader 200) (fun _ => 0)
    (twoReads_nine _ (by decide))).parsed_received
  exact absurd parsed (by decide)

end ComputerSystems.Verified
