import Mathlib.Data.Fintype.Card
import Mathlib.Order.Basic
import Mathlib.Logic.Function.Basic

/-! # Write-back caches over a store

A cache has slots that hold blocks of a store, one transfer between the two is under way
at a time, and a block that was changed in its slot is written back later.  What the two
levels hold together at an address is `content`: the block of the slot that has the
address, and otherwise what is stored.

A `Step` is one thing that may happen, with its `Deed`.  The slots need not name
different addresses, but in a sound cache one that is in use is the first with its
address.  Every step keeps that (`Step.sound`) and changes the content as its deed says
(`Step.content`); so does every `Path` of steps.
-/

namespace ComputerSystems.Data

/-- What a slot is doing. -/
inductive Phase where
  | empty
  | clean
  | reading
  | writing
  | dirty
deriving DecidableEq, Repr

/-- The slot has a block that may be used. -/
def Phase.Valid (phase : Phase) : Prop := phase = .clean ∨ phase = .writing ∨ phase = .dirty

instance decidableValid (phase : Phase) : Decidable phase.Valid := inferInstanceAs (Decidable (_ ∨ _))

theorem Phase.Valid.used {phase : Phase} (valid : phase.Valid) : phase ≠ .empty := by
  rintro rfl
  obtain clean | writing | dirty := valid
  all_goals contradiction

/-- A transfer between a slot and the store. -/
structure Flight (ι α : Type*) where
  slot : ι
  address : α
  writes : Bool
deriving DecidableEq

/-- The two levels, and the transfer under way. -/
structure WriteBack (ι α β : Type*) where
  address : ι → α
  phase : ι → Phase
  block : ι → β
  store : α → β
  flight : Option (Flight ι α)

/-- What a step does to the content. -/
inductive Deed (ι α β : Type*) where
  | keeps
  /-- The slot is given to another address. -/
  | claims (slot : ι)
  | sets (address : α) (block : β)

/-- The content that a deed makes of another one. -/
def Deed.apply {ι α β : Type*} [DecidableEq α] (content : α → β) : Deed ι α β → α → β
  | .keeps => content
  | .claims _ => content
  | .sets address block => Function.update content address block

namespace WriteBack

variable {ι α β : Type*} {c c' : WriteBack ι α β} {slot other : ι} {address : α} {deed : Deed ι α β}

/-- The slot has the block of an address. -/
def Holds (c : WriteBack ι α β) (slot : ι) (address : α) : Prop :=
  c.address slot = address ∧ (c.phase slot).Valid

open Classical in
/-- The block at an address. -/
noncomputable def content (c : WriteBack ι α β) (address : α) : β :=
  if held : ∃ slot, c.Holds slot address then c.block held.choose else c.store address

theorem content_of_free (free : ∀ slot, ¬ c.Holds slot address) : c.content address = c.store address :=
  dif_neg fun ⟨slot, holds⟩ => free slot holds

/-! ## Changes -/

section Changes

variable [DecidableEq ι] [DecidableEq α]

def setPhase (c : WriteBack ι α β) (slot : ι) (phase : Phase) : WriteBack ι α β :=
  { c with phase := Function.update c.phase slot phase }

def setFlight (c : WriteBack ι α β) (flight : Option (Flight ι α)) : WriteBack ι α β :=
  { c with flight }

def setBlock (c : WriteBack ι α β) (slot : ι) (block : β) : WriteBack ι α β :=
  { c with block := Function.update c.block slot block }

def setStore (c : WriteBack ι α β) (address : α) (block : β) : WriteBack ι α β :=
  { c with store := Function.update c.store address block }

end Changes

/-! ## Soundness -/

section Ordered

variable [LinearOrder ι]

/-- What holds of every cache that is used as it should be. -/
structure Sound (c : WriteBack ι α β) : Prop where
  first : ∀ slot, c.phase slot ≠ .empty → ∀ other < slot, c.address other ≠ c.address slot
  clean : ∀ slot, c.phase slot = .clean → c.store (c.address slot) = c.block slot
  reading : ∀ slot, c.phase slot = .reading → c.flight = some ⟨slot, c.address slot, false⟩
  writing : ∀ slot, c.phase slot = .writing → c.flight = some ⟨slot, c.address slot, true⟩
  read : ∀ flight, c.flight = some flight → flight.writes = false →
    c.address flight.slot = flight.address ∧ c.phase flight.slot = .reading
  write : ∀ flight, c.flight = some flight → flight.writes = true →
    c.address flight.slot = flight.address ∧
      (c.phase flight.slot = .writing ∨ c.phase flight.slot = .dirty)

/-- The slot is empty, and the first with its address, and no other slot uses it. -/
def Vacant (c : WriteBack ι α β) (slot : ι) (address : α) : Prop :=
  ∀ other, c.address other = address → c.phase other = .empty ∧ slot ≤ other

theorem Sound.unique (sound : c.Sound) (used : c.phase slot ≠ .empty) (used' : c.phase other ≠ .empty)
    (same : c.address slot = c.address other) : slot = other := by
  obtain before | here | behind := lt_trichotomy slot other
  · exact absurd same (sound.first other used' slot before)
  · exact here
  · exact absurd same.symm (sound.first slot used other behind)

theorem Sound.content_of_holds (sound : c.Sound) (holds : c.Holds slot address) :
    c.content address = c.block slot := by
  have held : ∃ slot, c.Holds slot address := ⟨slot, holds⟩
  rw [content, dif_pos held]
  have chosen := held.choose_spec
  rw [sound.unique chosen.2.used holds.2.used (chosen.1.trans holds.1.symm)]

/-- The block at an address, without a choice. -/
theorem Sound.content_eq_iff (sound : c.Sound) {block : β} :
    c.content address = block ↔
      (∃ slot, c.Holds slot address ∧ c.block slot = block) ∨
        (∀ slot, ¬ c.Holds slot address) ∧ c.store address = block := by
  by_cases held : ∃ slot, c.Holds slot address
  · obtain ⟨slot, holds⟩ := held
    rw [sound.content_of_holds holds]
    constructor
    · intro same
      exact .inl ⟨slot, holds, same⟩
    · rintro (⟨other, holds', same⟩ | ⟨free, -⟩)
      · rw [← same, sound.unique holds.2.used holds'.2.used (holds.1.trans holds'.1.symm)]
      · exact absurd holds (free slot)
  · have free : ∀ slot, ¬ c.Holds slot address := not_exists.mp held
    simp [content_of_free free, free]

/-- With nothing left to write the store has the content. -/
theorem Sound.settled (sound : c.Sound) (settled : ∀ slot, c.phase slot ≠ .dirty ∧ c.phase slot ≠ .writing) :
    c.store = c.content := by
  funext address
  symm
  rw [sound.content_eq_iff]
  by_cases held : ∃ slot, c.Holds slot address
  · obtain ⟨slot, same, clean | writing | dirty⟩ := held
    · exact .inl ⟨slot, ⟨same, .inl clean⟩, by rw [← sound.clean slot clean, same]⟩
    · exact absurd writing (settled slot).2
    · exact absurd dirty (settled slot).1
  · exact .inr ⟨not_exists.mp held, rfl⟩

/-! ## Steps -/

variable [DecidableEq α]

/-- What may happen to a cache. -/
inductive Step : WriteBack ι α β → Deed ι α β → WriteBack ι α β → Prop
  | claim {c : WriteBack ι α β} (slot address) (free : c.phase slot = .empty ∨ c.phase slot = .clean)
      (vacant : c.Vacant slot address) :
      Step c (.claims slot)
        { c.setPhase slot .empty with address := Function.update c.address slot address }
  | beginRead {c : WriteBack ι α β} (slot) (vacant : c.Vacant slot (c.address slot)) (idle : c.flight = none) :
      Step c .keeps ((c.setPhase slot .reading).setFlight (some ⟨slot, c.address slot, false⟩))
  -- a block that is to be overwritten need not be read
  | scratch {c : WriteBack ι α β} (slot) (vacant : c.Vacant slot (c.address slot)) :
      Step c (.sets (c.address slot) (c.block slot)) (c.setPhase slot .dirty)
  | soil {c : WriteBack ι α β} (slot) (valid : (c.phase slot).Valid) : Step c .keeps (c.setPhase slot .dirty)
  | modify {c : WriteBack ι α β} (slot block) (dirty : c.phase slot = .dirty) :
      Step c (.sets (c.address slot) block) (c.setBlock slot block)
  | beginWrite {c : WriteBack ι α β} (slot) (dirty : c.phase slot = .dirty) (idle : c.flight = none) :
      Step c .keeps ((c.setPhase slot .writing).setFlight (some ⟨slot, c.address slot, true⟩))
  | writeNow {c : WriteBack ι α β} (slot) (dirty : c.phase slot = .dirty) (idle : c.flight = none) :
      Step c .keeps ((c.setPhase slot .clean).setStore (c.address slot) (c.block slot))
  | reject {c : WriteBack ι α β} (slot stored) (dirty : c.phase slot = .dirty) (idle : c.flight = none) :
      Step c .keeps (c.setStore (c.address slot) stored)
  | endRead {c : WriteBack ι α β} (slot address) (flying : c.flight = some ⟨slot, address, false⟩) :
      Step c .keeps (((c.setPhase slot .clean).setBlock slot (c.store address)).setFlight none)
  | failRead {c : WriteBack ι α β} (slot address block) (flying : c.flight = some ⟨slot, address, false⟩) :
      Step c .keeps (((c.setPhase slot .empty).setBlock slot block).setFlight none)
  | endWrite {c : WriteBack ι α β} (slot address) (flying : c.flight = some ⟨slot, address, true⟩)
      (writing : c.phase slot = .writing) :
      Step c .keeps (((c.setPhase slot .clean).setStore address (c.block slot)).setFlight none)
  -- the block was changed while it was being written
  | endStale {c : WriteBack ι α β} (slot address stored) (flying : c.flight = some ⟨slot, address, true⟩)
      (dirty : c.phase slot = .dirty) :
      Step c .keeps ((c.setStore address stored).setFlight none)
  | failWrite {c : WriteBack ι α β} (slot address stored) (flying : c.flight = some ⟨slot, address, true⟩)
      (writing : c.phase slot = .writing) :
      Step c .keeps (((c.setPhase slot .dirty).setStore address stored).setFlight none)

theorem Step.sound (step : Step c deed c') (sound : c.Sound) : c'.Sound := by
  obtain ⟨first, clean, reading, writing, read, write⟩ := sound
  cases step with
  | claim slot address free vacant =>
    constructor <;> simp only [setPhase, Function.update_apply] <;> grind [Vacant]
  | beginRead slot vacant idle =>
    constructor <;> simp only [setPhase, setFlight, Function.update_apply] <;> grind [Vacant]
  | scratch slot vacant =>
    constructor <;> simp only [setPhase, Function.update_apply] <;> grind [Vacant]
  | soil slot valid =>
    constructor <;> simp only [setPhase, Function.update_apply] <;> grind [Phase.Valid]
  | modify slot block dirty =>
    constructor <;> simp only [setBlock, Function.update_apply] <;> grind
  | beginWrite slot dirty idle =>
    constructor <;> simp only [setPhase, setFlight, Function.update_apply] <;> grind
  | writeNow slot dirty idle =>
    constructor <;> simp only [setPhase, setStore, Function.update_apply] <;> grind
  | reject slot stored dirty idle =>
    constructor <;> simp only [setStore, Function.update_apply] <;> grind
  | endRead slot address flying =>
    constructor <;> simp only [setPhase, setBlock, setFlight, Function.update_apply] <;> grind
  | failRead slot address block flying =>
    constructor <;> simp only [setPhase, setBlock, setFlight, Function.update_apply] <;> grind
  | endWrite slot address flying writing =>
    constructor <;> simp only [setPhase, setStore, setFlight, Function.update_apply] <;> grind
  | endStale slot address stored flying dirty =>
    constructor <;> simp only [setStore, setFlight, Function.update_apply] <;> grind
  | failWrite slot address stored flying writing =>
    constructor <;> simp only [setPhase, setStore, setFlight, Function.update_apply] <;> grind

/-- The content changes as the deed says. -/
theorem Step.content (step : Step c deed c') (sound : c.Sound) : c'.content = deed.apply c.content := by
  have sound' := step.sound sound
  funext address
  have before := sound.content_eq_iff.mp (rfl : c.content address = c.content address)
  rw [sound'.content_eq_iff]
  obtain ⟨first, clean, reading, writing, read, write⟩ := sound
  cases step with
  | claim slot address' free vacant =>
    simp only [Holds, Deed.apply, setPhase, Function.update_apply] at before ⊢
    grind [Vacant, Phase.Valid]
  | beginRead slot vacant idle =>
    simp only [Holds, Deed.apply, setPhase, setFlight, Function.update_apply] at before ⊢
    grind [Vacant, Phase.Valid]
  | scratch slot vacant =>
    simp only [Holds, Deed.apply, setPhase, Function.update_apply] at before ⊢
    grind [Vacant, Phase.Valid]
  | soil slot valid =>
    simp only [Holds, Deed.apply, setPhase, Function.update_apply] at before ⊢
    grind [Phase.Valid]
  | modify slot block dirty =>
    simp only [Holds, Deed.apply, setBlock, Function.update_apply] at before ⊢
    grind [Phase.Valid]
  | beginWrite slot dirty idle =>
    simp only [Holds, Deed.apply, setPhase, setFlight, Function.update_apply] at before ⊢
    grind [Phase.Valid]
  | writeNow slot dirty idle =>
    simp only [Holds, Deed.apply, setPhase, setStore, Function.update_apply] at before ⊢
    grind [Phase.Valid]
  | reject slot stored dirty idle =>
    simp only [Holds, Deed.apply, setStore, Function.update_apply] at before ⊢
    grind [Phase.Valid]
  | endRead slot address flying =>
    simp only [Holds, Deed.apply, setPhase, setBlock, setFlight, Function.update_apply] at before ⊢
    grind [Phase.Valid]
  | failRead slot address block flying =>
    simp only [Holds, Deed.apply, setPhase, setBlock, setFlight, Function.update_apply] at before ⊢
    grind [Phase.Valid]
  | endWrite slot address flying writing =>
    simp only [Holds, Deed.apply, setPhase, setStore, setFlight, Function.update_apply] at before ⊢
    grind [Phase.Valid]
  | endStale slot address stored flying dirty =>
    simp only [Holds, Deed.apply, setStore, setFlight, Function.update_apply] at before ⊢
    grind [Phase.Valid]
  | failWrite slot address stored flying writing =>
    simp only [Holds, Deed.apply, setPhase, setStore, setFlight, Function.update_apply] at before ⊢
    grind [Phase.Valid]

/-- A slot with a block keeps it for its address until it is claimed. -/
theorem Step.holds (step : Step c deed c') (sound : c.Sound) (holds : c.Holds slot address)
    (kept : deed ≠ .claims slot) : c'.Holds slot address := by
  have read := sound.read
  cases step
  all_goals
    simp only [Holds, Vacant, Phase.Valid, setPhase, setBlock, setStore, setFlight,
      Function.update_apply] at *
    grind

/-! ## Paths -/

/-- Steps one after the other, with their deeds. -/
inductive Path : WriteBack ι α β → List (Deed ι α β) → WriteBack ι α β → Prop
  | nil (c : WriteBack ι α β) : Path c [] c
  | cons {c c' c'' : WriteBack ι α β} {deed deeds} (step : Step c deed c') (path : Path c' deeds c'') :
      Path c (deed :: deeds) c''

namespace Path

variable {c'' : WriteBack ι α β} {deeds more : List (Deed ι α β)}

theorem single (step : Step c deed c') : Path c [deed] c' := cons step (nil c')

theorem append (path : Path c deeds c') (path' : Path c' more c'') : Path c (deeds ++ more) c'' := by
  induction path with
  | nil => exact path'
  | cons step _ ih => exact cons step (ih path')

theorem sound (path : Path c deeds c') (sound : c.Sound) : c'.Sound := by
  induction path with
  | nil => exact sound
  | cons step _ ih => exact ih (step.sound sound)

theorem content (path : Path c deeds c') (sound : c.Sound) : c'.content = deeds.foldl Deed.apply c.content := by
  induction path with
  | nil => rfl
  | cons step _ ih => rw [List.foldl_cons, ih (step.sound sound), step.content sound]

theorem holds (path : Path c deeds c') (sound : c.Sound) (holds : c.Holds slot address)
    (kept : .claims slot ∉ deeds) : c'.Holds slot address := by
  induction path with
  | nil => exact holds
  | cons step _ ih =>
    rw [List.mem_cons, not_or] at kept
    exact ih (step.sound sound) (step.holds sound holds (Ne.symm kept.1)) kept.2

end Path

end Ordered

/-! ## Counting -/

section Counting

variable [Fintype ι] {phase : Phase}

/-- How many blocks are still to be written. -/
def dirtyCount (c : WriteBack ι α β) : Nat := (Finset.univ.filter fun slot => c.phase slot = .dirty).card

theorem dirtyCount_congr (same : c'.phase = c.phase) : c'.dirtyCount = c.dirtyCount := by
  rw [dirtyCount, dirtyCount, same]

theorem dirtyCount_eq_zero : c.dirtyCount = 0 ↔ ∀ slot, c.phase slot ≠ .dirty := by
  simp [dirtyCount, Finset.filter_eq_empty_iff]

variable [DecidableEq ι]

theorem dirtyCount_soil (other : c.phase slot ≠ .dirty) :
    (c.setPhase slot .dirty).dirtyCount = c.dirtyCount + 1 := by
  have inserted : (Finset.univ.filter fun other => (c.setPhase slot .dirty).phase other = .dirty) =
      insert slot (Finset.univ.filter fun other => c.phase other = .dirty) := by
    ext other
    simp only [setPhase, Function.update_apply, Finset.mem_filter, Finset.mem_insert]
    grind
  rw [dirtyCount, inserted, Finset.card_insert_of_notMem (by simpa using other), dirtyCount]

theorem dirtyCount_settle (dirty : c.phase slot = .dirty) (other : phase ≠ .dirty) :
    (c.setPhase slot phase).dirtyCount + 1 = c.dirtyCount := by
  have erased : (Finset.univ.filter fun other => (c.setPhase slot phase).phase other = .dirty) =
      (Finset.univ.filter fun other => c.phase other = .dirty).erase slot := by
    ext other
    simp only [setPhase, Function.update_apply, Finset.mem_filter, Finset.mem_erase]
    grind
  rw [dirtyCount, erased, Finset.card_erase_add_one (by simpa using dirty), dirtyCount]

theorem dirtyCount_setPhase (clean : c.phase slot ≠ .dirty) (other : phase ≠ .dirty) :
    (c.setPhase slot phase).dirtyCount = c.dirtyCount := by
  rw [dirtyCount, dirtyCount]
  congr 1
  ext other
  simp only [setPhase, Function.update_apply, Finset.mem_filter]
  grind

end Counting

end WriteBack

end ComputerSystems.Data
