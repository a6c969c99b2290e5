import ComputerSystems.Data.Run
import ComputerSystems.Usb.Hub

/-! # The elements of `HubDevice`

`HubAttach` goes by a counter of its own, which `HubRelease` leaves alone: the elements are
given out once, and the call after the last of them goes past the array.
-/

namespace ComputerSystems.Verified

open ComputerSystems.Data ComputerSystems.Usb

variable {bus : Bus} {hub : Nat}

/-! ## Releasing a hub -/

theorem releasePort_hubIndex (port : Nat) : (releasePort hub bus port).hubIndex = bus.hubIndex := by
  rw [releasePort]
  split
  · rfl
  · rfl
  · rfl

theorem releasePorts_hubIndex (ports : List Nat) :
    (ports.foldl (releasePort hub) bus).hubIndex = bus.hubIndex := by
  induction ports generalizing bus with
  | nil => rfl
  | cons port ports ih =>
    rw [List.foldl_cons, ih]
    exact releasePort_hubIndex port

theorem hubRelease_hubIndex : (hubRelease hub bus).hubIndex = bus.hubIndex := releasePorts_hubIndex _

/-! ## Histories -/

/-- Hubs are plugged in and out. -/
inductive HubCall where
  | attach (device : DeviceAt)
  | release (hub : Nat)
deriving DecidableEq

def HubCall.attaches : HubCall → Bool
  | .attach _ => true
  | .release _ => false

/-- The bus with the hubs that are attached. -/
structure Plugged where
  bus : Bus
  attached : List Nat

/-- One call.  Nothing is known once a hub lies behind the array. -/
def hubCallStep (plugged : Plugged) : HubCall → Option Plugged
  | .attach device =>
    (hubAttach device plugged.bus).map fun (result, bus) => ⟨bus, result.toList ++ plugged.attached⟩
  | .release hub => some ⟨hubRelease hub plugged.bus, plugged.attached.erase hub⟩

/-- Only hubs that are attached are released. -/
def ReleasesAttached (plugged : Plugged) : HubCall → Prop
  | .attach _ => True
  | .release hub => hub ∈ plugged.attached

instance (plugged : Plugged) : ∀ call, Decidable (ReleasesAttached plugged call)
  | .attach _ => inferInstanceAs (Decidable True)
  | .release hub => inferInstanceAs (Decidable (hub ∈ plugged.attached))

/-- The result of `HubAttach` is a free element of the array, and `NULL` only if there is none. -/
def FreeElement (plugged : Plugged) : HubCall → Prop
  | .attach device =>
    match hubAttach device plugged.bus with
    | some (some hub, _) => hub < maxHubs ∧ hub ∉ plugged.attached
    | some (none, _) => ∀ hub < maxHubs, hub ∈ plugged.attached
    | none => False
  | .release _ => True

/-- The hubs that are attached are among those that have been given out. -/
theorem freeElement_iff (plugged : Plugged) (calls : List HubCall) (room : plugged.bus.hubIndex ≤ maxHubs)
    (given : ∀ hub ∈ plugged.attached, hub < plugged.bus.hubIndex) :
    Along hubCallStep FreeElement calls plugged ↔ plugged.bus.hubIndex + calls.countP HubCall.attaches ≤ maxHubs := by
  induction calls generalizing plugged with
  | nil => simpa using room
  | cons call calls ih =>
    obtain ⟨bus, attached⟩ := plugged
    simp only at room given
    cases call with
    | attach device =>
      rw [List.countP_cons_of_pos rfl, along_cons]
      simp only [FreeElement, hubCallStep, hubAttach, Nat.not_lt.mpr room, if_false]
      by_cases full : bus.hubIndex = maxHubs
      · -- the bound of `HubAttach` lets it go past the last element
        simp only [full, if_true, false_and, false_iff]
        omega
      -- The index only grows, so that what it names has never been given.
      · have free : bus.hubIndex ∉ attached := fun mem => Nat.lt_irrefl _ (given _ mem)
        have next := ih ⟨{ bus.setHub bus.hubIndex { device := bus.devices device } with hubIndex := bus.hubIndex + 1 },
            bus.hubIndex :: attached⟩ (by simp only; omega) (by
          intro hub mem
          obtain rfl | mem := List.mem_cons.mp mem
          · exact Nat.lt_succ_self _
          · exact Nat.lt_succ_of_lt (given hub mem))
        have below : bus.hubIndex < maxHubs := Nat.lt_of_le_of_ne room full
        simp only [full, if_false, below, free, not_false_eq_true, and_self, true_and, Option.map_some,
          Option.mem_def, Option.some.injEq, forall_eq', Option.toList_some, List.cons_append, List.nil_append]
        rw [next]
        simp only
        omega
    | release hub =>
      rw [List.countP_cons_of_neg Bool.false_ne_true, along_cons]
      simp only [FreeElement, hubCallStep, true_and, Option.mem_def, Option.some.injEq, forall_eq']
      rw [ih]
      · rw [hubRelease_hubIndex]
      · rw [hubRelease_hubIndex]
        exact room
      · rw [hubRelease_hubIndex]
        intro other mem
        exact given other (List.mem_of_mem_erase mem)

/-- In a history of plugging in and out, every result is a free element, and `NULL` only where
    there is none, if and only if `HubAttach` is called as often at most as there are elements. -/
theorem hub_slots_iff (calls : List HubCall) :
    Along hubCallStep FreeElement calls ⟨busInit, []⟩ ↔ calls.countP HubCall.attaches ≤ maxHubs := by
  rw [freeElement_iff ⟨busInit, []⟩ calls (Nat.zero_le _) (fun _ mem => absurd mem List.not_mem_nil)]
  rw [show busInit.hubIndex = 0 from rfl, Nat.zero_add]

/-- The third time there is no element, though no hub is attached. -/
theorem hub_slots_used_up :
    ¬ ∀ calls : List HubCall, Along hubCallStep ReleasesAttached calls ⟨busInit, []⟩ →
      Along hubCallStep FreeElement calls ⟨busInit, []⟩ := by
  intro free
  have third := free [.attach .root, .release 0, .attach .root, .release 1, .attach .root] (by decide)
  exact ((((third.2 _ rfl).2 _ rfl).2 _ rfl).2 _ rfl).1

end ComputerSystems.Verified
