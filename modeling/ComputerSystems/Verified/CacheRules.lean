import ComputerSystems.Data.Footprint
import ComputerSystems.Fat.SectorCache

/-! # What the sector cache does

The cache of the file system is a write-back cache over the card (`Volume.writeBack`).
Each of its functions has one rule: it takes the abstract cache along a path of steps
(`Moves`), of which none claims a slot whose sector must stay.  What
`afatfs_cacheSector` returns besides is `Opened`.
-/

namespace ComputerSystems.Fat

open ComputerSystems.Data Program

/-! ## The abstract cache -/

def CacheBlockState.phase : CacheBlockState → Phase
  | .empty => .empty
  | .inSync => .clean
  | .reading => .reading
  | .writing => .writing
  | .dirty => .dirty

/-- The cache and the card as a write-back cache. -/
def Volume.writeBack (volume : Volume) : WriteBack Slot Word Sector where
  address slot := (volume.afatfs.cacheDescriptor slot).sectorIndex
  phase slot := (volume.afatfs.cacheDescriptor slot).state.phase
  block := volume.afatfs.cache
  store := volume.store
  flight := volume.flight

/-- What is not the cache's own. -/
def Afatfs.outside (afatfs : Afatfs) : Afatfs :=
  { afatfs with
    cache := fun _ _ => 0
    cacheDescriptor := fun _ => {}
    cacheTimer := 0
    cacheDirtyEntries := 0
    cacheFlushInProgress := false
    lastError := .none
    filesystemState := .unknown }

/-- What depends on nothing of the cache stays with the rest. -/
theorem Afatfs.congr_outside {α : Sort*} (value : Afatfs → α) {afatfs later : Afatfs}
    (own : ∀ afatfs, value afatfs.outside = value afatfs) (same : later.outside = afatfs.outside) :
    value later = value afatfs := by
  rw [← own later, same, own]

/-- How far the counter of dirty sectors is from their number. -/
def Volume.balance (volume : Volume) : Int :=
  volume.afatfs.cacheDirtyEntries - volume.writeBack.dirtyCount

/-- A flush is in progress while the card writes. -/
def Volume.FlushOk (volume : Volume) : Prop :=
  volume.afatfs.cacheFlushInProgress = volume.flight.any Flight.writes

variable {volume later : Volume} {slot : Slot} {descriptor : CacheBlockDescriptor} {sector : Word}

@[simp] theorem phase_eq_empty {state : CacheBlockState} : state.phase = .empty ↔ state = .empty := by
  cases state <;> decide

@[simp] theorem phase_eq_clean {state : CacheBlockState} : state.phase = .clean ↔ state = .inSync := by
  cases state <;> decide

@[simp] theorem phase_eq_reading {state : CacheBlockState} : state.phase = .reading ↔ state = .reading := by
  cases state <;> decide

@[simp] theorem phase_eq_writing {state : CacheBlockState} : state.phase = .writing ↔ state = .writing := by
  cases state <;> decide

@[simp] theorem phase_eq_dirty {state : CacheBlockState} : state.phase = .dirty ↔ state = .dirty := by
  cases state <;> decide

/-- A new descriptor in a slot. -/
theorem writeBack_of_descriptor (descriptor : CacheBlockDescriptor)
    (changed : later.afatfs.cacheDescriptor = Function.update volume.afatfs.cacheDescriptor slot descriptor)
    (memory : later.afatfs.cache = volume.afatfs.cache) (store : later.store = volume.store)
    (flight : later.flight = volume.flight) :
    later.writeBack =
      { volume.writeBack.setPhase slot descriptor.state.phase with
        address := Function.update volume.writeBack.address slot descriptor.sectorIndex } := by
  simp only [Volume.writeBack, WriteBack.setPhase, changed, memory, store, flight]
  congr 1
  all_goals
    funext other
    by_cases same : other = slot
    · subst same
      simp
    · simp [same]

/-- A new descriptor for the sector that the slot has. -/
theorem writeBack_of_state
    (changed : later.afatfs.cacheDescriptor = Function.update volume.afatfs.cacheDescriptor slot descriptor)
    (memory : later.afatfs.cache = volume.afatfs.cache) (store : later.store = volume.store)
    (flight : later.flight = volume.flight)
    (same : descriptor.sectorIndex = (volume.afatfs.cacheDescriptor slot).sectorIndex) :
    later.writeBack = volume.writeBack.setPhase slot descriptor.state.phase := by
  rw [writeBack_of_descriptor descriptor changed memory store flight, same]
  simp [WriteBack.setPhase, Volume.writeBack]

theorem writeBack_of_kept
    (changed : later.afatfs.cacheDescriptor = Function.update volume.afatfs.cacheDescriptor slot descriptor)
    (memory : later.afatfs.cache = volume.afatfs.cache) (store : later.store = volume.store)
    (flight : later.flight = volume.flight)
    (same : descriptor.sectorIndex = (volume.afatfs.cacheDescriptor slot).sectorIndex)
    (state : descriptor.state = (volume.afatfs.cacheDescriptor slot).state) :
    later.writeBack = volume.writeBack := by
  rw [writeBack_of_state changed memory store flight same, state]
  simp [WriteBack.setPhase, Volume.writeBack]

/-! ## Allocation -/

section Scan

variable {descriptors : Slot → CacheBlockDescriptor} {slots : List Slot} {scan scan' : CacheScan}

theorem scanCache_cached (ends : scanCache sector descriptors slots scan = .cached slot) :
    (descriptors slot).sectorIndex = sector ∧ (descriptors slot).state ≠ .empty := by
  induction slots generalizing scan with
  | nil => cases ends
  | cons i rest ih =>
    rw [scanCache] at ends
    split_ifs at ends with same empty
    · cases ends
      exact ⟨same, empty⟩
    · exact ih ends

/-- The loop ends at an empty descriptor of the sector, or it has seen no descriptor of it. -/
theorem scanCache_scanned (ends : scanCache sector descriptors slots scan = .scanned scan')
    (sorted : slots.Pairwise (· < ·)) :
    (∃ i, scan'.emptyIndex = some i ∧ (descriptors i).sectorIndex = sector ∧ (descriptors i).state = .empty ∧
        ∀ other ∈ slots, (descriptors other).sectorIndex = sector → i ≤ other) ∨
      (∀ other ∈ slots, (descriptors other).sectorIndex ≠ sector) ∧
        scan' = slots.foldl (fun scan i => scan.consider i (descriptors i)) scan := by
  induction slots generalizing scan with
  | nil =>
    cases ends
    exact .inr ⟨by simp, rfl⟩
  | cons i rest ih =>
    rw [List.pairwise_cons] at sorted
    rw [scanCache] at ends
    split_ifs at ends with same empty
    · cases ends
      refine .inl ⟨i, rfl, same, empty, ?_⟩
      intro other isIn _
      obtain rfl | behind := List.mem_cons.mp isIn
      · exact le_rfl
      · exact (sorted.1 other behind).le
    · obtain ⟨found, isEmpty, has, state, first⟩ | ⟨missed, scanned⟩ := ih ends sorted.2
      · refine .inl ⟨found, isEmpty, has, state, ?_⟩
        intro other isIn hasOther
        obtain rfl | behind := List.mem_cons.mp isIn
        · exact absurd hasOther same
        · exact first other behind hasOther
      · refine .inr ⟨?_, scanned⟩
        intro other isIn
        obtain rfl | behind := List.mem_cons.mp isIn
        · exact same
        · exact missed other behind

/-- The slot may be given to another sector. -/
def CacheBlockDescriptor.Evictable (descriptor : CacheBlockDescriptor) : Prop :=
  descriptor.state = .empty ∨
    descriptor.state = .inSync ∧ descriptor.locked = false ∧ descriptor.retainCount = 0

/-- Whatever a scan has chosen may be taken. -/
def CacheScan.Takes (descriptors : Slot → CacheBlockDescriptor) (scan : CacheScan) : Prop :=
  (∀ i ∈ scan.emptyIndex, (descriptors i).state = .empty) ∧
    (∀ i ∈ scan.discardableIndex, (descriptors i).Evictable) ∧
      ∀ i ∈ scan.oldestSyncedSectorIndex, (descriptors i).Evictable

theorem CacheScan.Takes.consider (takes : scan.Takes descriptors) (i : Slot) :
    (scan.consider i (descriptors i)).Takes descriptors := by
  unfold CacheScan.consider
  obtain ⟨empty, discardable, oldest⟩ := takes
  split
  · exact ⟨by simpa, discardable, oldest⟩
  · split_ifs with free
    · exact ⟨empty, by simp_all [CacheBlockDescriptor.Evictable], oldest⟩
    · exact ⟨empty, discardable, by simp_all [CacheBlockDescriptor.Evictable]⟩
    · exact ⟨empty, discardable, oldest⟩
    · exact ⟨empty, discardable, oldest⟩
  · exact ⟨empty, discardable, oldest⟩

theorem CacheScan.Takes.foldl (takes : scan.Takes descriptors) :
    (slots.foldl (fun scan i => scan.consider i (descriptors i)) scan).Takes descriptors := by
  induction slots generalizing scan with
  | nil => exact takes
  | cons i rest ih => exact ih (takes.consider i)

theorem CacheScan.Takes.allocateIndex (takes : scan.Takes descriptors) (takesIt : scan.allocateIndex = some slot) :
    (descriptors slot).Evictable := by
  obtain ⟨empty, discardable, oldest⟩ := takes
  rw [CacheScan.allocateIndex] at takesIt
  split at takesIt
  next i isEmpty =>
    cases takesIt
    exact .inl (empty _ isEmpty)
  next i isEmpty isDiscardable =>
    cases takesIt
    exact discardable _ isDiscardable
  next => exact oldest slot takesIt

end Scan

/-- What `afatfs_allocateCacheSector` does, in a cache where a slot in use is the first of its
    sector. -/
inductive Allocates (sector : Word) (volume : Volume) : Option Slot → Volume → Prop
  | outOfVolume (outside : volume.afatfs.sectorInVolume sector = false) :
      Allocates sector volume none { volume with afatfs := volume.afatfs.assertFails }
  | full (inside : volume.afatfs.sectorInVolume sector = true)
      (missing : ∀ slot, (volume.afatfs.cacheDescriptor slot).sectorIndex ≠ sector) :
      Allocates sector volume none volume
  | cached (slot : Slot) (inside : volume.afatfs.sectorInVolume sector = true)
      (same : (volume.afatfs.cacheDescriptor slot).sectorIndex = sector)
      (used : (volume.afatfs.cacheDescriptor slot).state ≠ .empty) :
      Allocates sector volume (some slot) { volume with afatfs := volume.afatfs.touch slot }
  | claimed (slot : Slot) (inside : volume.afatfs.sectorInVolume sector = true)
      (evictable : (volume.afatfs.cacheDescriptor slot).Evictable) (vacant : volume.writeBack.Vacant slot sector) :
      Allocates sector volume (some slot)
        { volume with afatfs := volume.afatfs.cacheSectorInit slot sector false }

theorem wp_afatfsAssert {condition : Bool} {post : Bool → Volume → Prop} (holds : condition = true → post true volume)
    (fails : condition = false → post false { volume with afatfs := volume.afatfs.assertFails }) :
    Wp (afatfsAssert condition) post volume := by
  cases condition with
  | true => exact (wp_pure true).mpr (holds rfl)
  | false => exact (wp_pure false).mpr (fails rfl)

theorem wp_allocateCacheSector (sound : volume.writeBack.Sound) :
    Wp (allocateCacheSector sector) (Allocates sector volume) volume := by
  rw [allocateCacheSector, wp_get_bind]
  apply Wp.bind
  apply wp_afatfsAssert
  · intro inside
    have sorted : (List.finRange numCacheSectors).Pairwise (· < ·) := List.pairwise_lt_finRange _
    simp only [Bool.not_true, Bool.false_eq_true, if_false]
    cases ends : scanCache sector volume.afatfs.cacheDescriptor (List.finRange numCacheSectors) {} with
    | cached slot =>
      obtain ⟨same, used⟩ := scanCache_cached ends
      exact (wp_pure _).mpr (.cached slot inside same used)
    | scanned scan =>
      have takes : ({} : CacheScan).Takes volume.afatfs.cacheDescriptor := ⟨nofun, nofun, nofun⟩
      obtain ⟨i, isEmpty, has, empty, least⟩ | ⟨missed, scanned⟩ := scanCache_scanned ends sorted
      · have chosen : scan.allocateIndex = some i := by rw [CacheScan.allocateIndex, isEmpty]
        simp only [chosen]
        refine (wp_modify_bind _).mpr ((wp_pure _).mpr (.claimed i inside (.inl empty) ?_))
        intro other hasOther
        have behind := least other (List.mem_finRange other) hasOther
        refine ⟨?_, behind⟩
        by_contra used
        obtain before | rfl := lt_or_eq_of_le behind
        · exact sound.first other used i before (has.trans hasOther.symm)
        · exact used (phase_eq_empty.mpr empty)
      · have missing : ∀ slot, (volume.afatfs.cacheDescriptor slot).sectorIndex ≠ sector := fun slot =>
          missed slot (List.mem_finRange slot)
        cases chosen : scan.allocateIndex with
        | none =>
          simp only [chosen]
          exact (wp_pure none).mpr (.full inside missing)
        | some slot =>
          simp only [chosen]
          refine (wp_modify_bind _).mpr ((wp_pure _).mpr (.claimed slot inside ?_ ?_))
          · rw [scanned] at chosen
            exact takes.foldl.allocateIndex chosen
          · exact fun other hasOther => absurd hasOther (missing other)
  · intro outside
    exact (wp_pure none).mpr (.outOfVolume outside)

/-! ## What a function of the cache does -/

/-- A descriptor whose sector was not given away: the locks on it are as before, and a locked sector that
    is dirty stays so. -/
structure CacheBlockDescriptor.Stays (before after : CacheBlockDescriptor) : Prop where
  locked : after.locked = before.locked
  dirty : before.locked = true → before.state = .dirty → after.state = .dirty
  retained : after.retainCount = before.retainCount

theorem CacheBlockDescriptor.Stays.refl (descriptor : CacheBlockDescriptor) : descriptor.Stays descriptor :=
  ⟨rfl, fun _ => id, rfl⟩

theorem CacheBlockDescriptor.Stays.trans {first second third : CacheBlockDescriptor} (before : first.Stays second)
    (after : second.Stays third) : first.Stays third :=
  ⟨after.locked.trans before.locked,
    fun locked dirty => after.dirty (before.locked.trans locked) (before.dirty locked dirty),
    after.retained.trans before.retained⟩

/-- A file relies on the slot: the sector in it is locked or retained. -/
def CacheBlockDescriptor.Pinned (descriptor : CacheBlockDescriptor) : Prop :=
  descriptor.locked = true ∨ descriptor.retainCount ≠ 0

theorem CacheBlockDescriptor.Stays.pinned {before after : CacheBlockDescriptor} (stays : before.Stays after) :
    after.Pinned ↔ before.Pinned := by
  rw [Pinned, Pinned, stays.locked, stays.retained]

/-- A path of the abstract cache on which nothing but the cache's own variables has changed. -/
structure Travels (volume : Volume) (deeds : List (Deed Slot Word Sector)) (later : Volume) : Prop where
  path : WriteBack.Path volume.writeBack deeds later.writeBack
  outside : later.afatfs.outside = volume.afatfs.outside
  balance : later.balance = volume.balance
  flushing : volume.FlushOk → later.FlushOk

/-- Such a path that claims no slot whose sector must stay. -/
structure Moves (volume : Volume) (deeds : List (Deed Slot Word Sector)) (later : Volume) : Prop
    extends Travels volume deeds later where
  claims : ∀ slot, .claims slot ∈ deeds → (volume.afatfs.cacheDescriptor slot).Evictable
  fresh : ∀ slot, .claims slot ∈ deeds → ¬ (later.afatfs.cacheDescriptor slot).Pinned
  stays : ∀ slot, .claims slot ∉ deeds →
    (volume.afatfs.cacheDescriptor slot).Stays (later.afatfs.cacheDescriptor slot)
  state : later.afatfs.filesystemState = volume.afatfs.filesystemState ∨ later.afatfs.filesystemState = .fatal

/-- Only the descriptor of a slot, and the variables that count, have changed. -/
structure Sets (slot : Slot) (descriptor : CacheBlockDescriptor) (volume later : Volume) : Prop where
  changed : later.afatfs.cacheDescriptor = Function.update volume.afatfs.cacheDescriptor slot descriptor
  outside : later.afatfs.outside = volume.afatfs.outside
  state : later.afatfs.filesystemState = volume.afatfs.filesystemState

namespace Moves

variable {mid : Volume} {deeds more : List (Deed Slot Word Sector)} {deed : Deed Slot Word Sector}

theorem refl (volume : Volume) : Moves volume [] volume :=
  ⟨⟨.nil _, rfl, rfl, id⟩, by simp, by simp, fun _ _ => .refl _, .inl rfl⟩

theorem assertFails (volume : Volume) : Moves volume [] { volume with afatfs := volume.afatfs.assertFails } :=
  ⟨⟨.nil _, rfl, rfl, id⟩, by simp, by simp, fun _ _ => .refl _, .inr rfl⟩

/-- The second part claims nothing. -/
theorem trans (first : Moves volume deeds mid) (second : Moves mid more later)
    (keeps : ∀ slot, .claims slot ∉ more) : Moves volume (deeds ++ more) later where
  path := first.path.append second.path
  claims slot claimed := by
    obtain claimed | claimed := List.mem_append.mp claimed
    · exact first.claims slot claimed
    · exact absurd claimed (keeps slot)
  fresh slot claimed := by
    rw [(second.stays slot (keeps slot)).pinned]
    obtain claimed | claimed := List.mem_append.mp claimed
    · exact first.fresh slot claimed
    · exact absurd claimed (keeps slot)
  stays slot unclaimed := by
    rw [List.mem_append, not_or] at unclaimed
    exact (first.stays slot unclaimed.1).trans (second.stays slot unclaimed.2)
  outside := second.outside.trans first.outside
  balance := second.balance.trans first.balance
  flushing := second.flushing ∘ first.flushing
  state := by
    obtain same | fatal := second.state
    · rw [same]
      exact first.state
    · exact .inr fatal

/-- A descriptor that changes in what the abstract cache does not see. -/
theorem of_kept (sets : Sets slot descriptor volume later) (memory : later.afatfs.cache = volume.afatfs.cache)
    (store : later.store = volume.store) (flight : later.flight = volume.flight)
    (same : descriptor.sectorIndex = (volume.afatfs.cacheDescriptor slot).sectorIndex)
    (state : descriptor.state = (volume.afatfs.cacheDescriptor slot).state)
    (stays : (volume.afatfs.cacheDescriptor slot).Stays descriptor)
    (count : later.afatfs.cacheDirtyEntries = volume.afatfs.cacheDirtyEntries)
    (flushing : volume.FlushOk → later.FlushOk) : Moves volume [] later where
  path := by
    rw [writeBack_of_kept sets.changed memory store flight same state]
    exact .nil _
  claims := by simp
  fresh := by simp
  stays other _ := by
    rw [sets.changed]
    by_cases here : other = slot
    · subst here
      simpa using stays
    · simpa [here] using CacheBlockDescriptor.Stays.refl _
  outside := sets.outside
  balance := by
    rw [Volume.balance, Volume.balance, count,
      writeBack_of_kept sets.changed memory store flight same state]
  flushing := flushing
  state := .inl sets.state

/-- A step that claims nothing. -/
theorem of_step (step : WriteBack.Step volume.writeBack deed later.writeBack) (keeps : ∀ slot, deed ≠ .claims slot)
    (sets : Sets slot descriptor volume later)
    (stays : (volume.afatfs.cacheDescriptor slot).Stays descriptor) (balance : later.balance = volume.balance)
    (flushing : volume.FlushOk → later.FlushOk) : Moves volume [deed] later where
  path := .single step
  claims slot claimed := absurd (List.mem_singleton.mp claimed).symm (keeps slot)
  fresh slot claimed := absurd (List.mem_singleton.mp claimed).symm (keeps slot)
  stays other _ := by
    rw [sets.changed]
    by_cases here : other = slot
    · subst here
      simpa using stays
    · simpa [here] using CacheBlockDescriptor.Stays.refl _
  outside := sets.outside
  balance := balance
  flushing := flushing
  state := .inl sets.state

end Moves

/-! ### Marking dirty -/

/-- The file system after `afatfs_cacheSectorMarkDirty`. -/
def Volume.markDirty (slot : Slot) (volume : Volume) : Volume :=
  { volume with afatfs := volume.afatfs.cacheSectorMarkDirty slot }

theorem markDirty_of_dirty (dirty : (volume.afatfs.cacheDescriptor slot).state = .dirty) :
    volume.markDirty slot = volume := by
  simp [Volume.markDirty, Afatfs.cacheSectorMarkDirty, dirty]

theorem sets_markDirty (other : (volume.afatfs.cacheDescriptor slot).state ≠ .dirty) :
    Sets slot { volume.afatfs.cacheDescriptor slot with
        writeTimestamp := volume.afatfs.cacheTimer + 1, state := .dirty } volume (volume.markDirty slot) := by
  constructor <;> simp [Volume.markDirty, Afatfs.cacheSectorMarkDirty, other, Afatfs.setDescriptor, Afatfs.outside]

@[simp] theorem markDirty_cache : (volume.markDirty slot).afatfs.cache = volume.afatfs.cache := by
  by_cases dirty : (volume.afatfs.cacheDescriptor slot).state = .dirty
  · rw [markDirty_of_dirty dirty]
  · simp [Volume.markDirty, Afatfs.cacheSectorMarkDirty, dirty, Afatfs.setDescriptor]

theorem writeBack_markDirty : (volume.markDirty slot).writeBack = volume.writeBack.setPhase slot .dirty := by
  by_cases dirty : (volume.afatfs.cacheDescriptor slot).state = .dirty
  · rw [markDirty_of_dirty dirty]
    simp only [WriteBack.setPhase, Volume.writeBack]
    congr 1
    rw [eq_comm, Function.update_eq_self_iff, phase_eq_dirty.mpr dirty]
  · have sets := sets_markDirty dirty
    exact writeBack_of_state sets.changed markDirty_cache rfl rfl rfl

theorem balance_markDirty : (volume.markDirty slot).balance = volume.balance := by
  by_cases dirty : (volume.afatfs.cacheDescriptor slot).state = .dirty
  · rw [markDirty_of_dirty dirty]
  · have counted : (volume.markDirty slot).afatfs.cacheDirtyEntries = volume.afatfs.cacheDirtyEntries + 1 := by
      simp [Volume.markDirty, Afatfs.cacheSectorMarkDirty, dirty]
    have more := WriteBack.dirtyCount_soil (c := volume.writeBack) (mt phase_eq_dirty.mp dirty)
    rw [Volume.balance, Volume.balance, counted, writeBack_markDirty, more]
    omega

@[simp] theorem markDirty_state : ((volume.markDirty slot).afatfs.cacheDescriptor slot).state = .dirty := by
  by_cases dirty : (volume.afatfs.cacheDescriptor slot).state = .dirty
  · rw [markDirty_of_dirty dirty, dirty]
  · rw [(sets_markDirty dirty).changed]
    simp

@[simp] theorem markDirty_store : (volume.markDirty slot).store = volume.store := rfl

theorem flushOk_markDirty (ok : volume.FlushOk) : (volume.markDirty slot).FlushOk := by
  by_cases dirty : (volume.afatfs.cacheDescriptor slot).state = .dirty
  · rwa [markDirty_of_dirty dirty]
  · simpa [Volume.FlushOk, Volume.markDirty, Afatfs.cacheSectorMarkDirty, dirty, Afatfs.setDescriptor] using ok

theorem Moves.markDirty {deed : Deed Slot Word Sector} (keeps : ∀ slot, deed ≠ .claims slot)
    (step : WriteBack.Step volume.writeBack deed (volume.writeBack.setPhase slot .dirty)) :
    Moves volume [deed] (volume.markDirty slot) := by
  rw [← writeBack_markDirty] at step
  by_cases dirty : (volume.afatfs.cacheDescriptor slot).state = .dirty
  · rw [markDirty_of_dirty dirty] at step ⊢
    have sets : Sets slot (volume.afatfs.cacheDescriptor slot) volume volume := by
      constructor <;> simp
    exact .of_step step keeps sets (.refl _) rfl id
  · exact .of_step step keeps (sets_markDirty dirty) ⟨rfl, fun _ _ => rfl, rfl⟩ balance_markDirty
      flushOk_markDirty

/-! ### Locking and retaining -/

def Volume.lock (slot : Slot) (volume : Volume) : Volume :=
  { volume with
    afatfs := volume.afatfs.setDescriptor slot { volume.afatfs.cacheDescriptor slot with locked := true } }

def Volume.retain (slot : Slot) (volume : Volume) : Volume :=
  { volume with
    afatfs := volume.afatfs.setDescriptor slot
      { volume.afatfs.cacheDescriptor slot with
        retainCount := (volume.afatfs.cacheDescriptor slot).retainCount + 1 } }

theorem sets_lock :
    Sets slot { volume.afatfs.cacheDescriptor slot with locked := true } volume (volume.lock slot) :=
  ⟨rfl, rfl, rfl⟩

theorem sets_retain :
    Sets slot { volume.afatfs.cacheDescriptor slot with
      retainCount := (volume.afatfs.cacheDescriptor slot).retainCount + 1 } volume (volume.retain slot) :=
  ⟨rfl, rfl, rfl⟩

@[simp] theorem writeBack_lock : (volume.lock slot).writeBack = volume.writeBack :=
  writeBack_of_kept sets_lock.changed rfl rfl rfl rfl rfl

@[simp] theorem writeBack_retain : (volume.retain slot).writeBack = volume.writeBack :=
  writeBack_of_kept sets_retain.changed rfl rfl rfl rfl rfl

/-- The sector is locked if it is to be. -/
def Volume.lockFor (slot : Slot) (flags : CacheFlags) (volume : Volume) : Volume :=
  if flags.lock then volume.lock slot else volume

def Volume.retainFor (slot : Slot) (flags : CacheFlags) (volume : Volume) : Volume :=
  if flags.retain then volume.retain slot else volume

theorem wp_cacheSectorSuccess {flags : CacheFlags} {post : OperationStatus × Option Slot → Volume → Prop} :
    Wp (cacheSectorSuccess slot flags) post volume ↔
      post (.success, some slot) ((volume.lockFor slot flags).retainFor slot flags) := by
  obtain ⟨read, write, lock, discardable, retain⟩ := flags
  cases lock <;> cases retain <;> exact wp_pure _

@[simp] theorem writeBack_lockFor {flags : CacheFlags} : (volume.lockFor slot flags).writeBack = volume.writeBack := by
  rw [Volume.lockFor]
  split <;> simp

@[simp] theorem writeBack_retainFor {flags : CacheFlags} : (volume.retainFor slot flags).writeBack = volume.writeBack := by
  rw [Volume.retainFor]
  split <;> simp

/-! ### Opening a sector -/

/-- What `afatfs_cacheSector` may do to the content: a sector that is to be written only gets what
    its slot has held. -/
def OpenDeed (sector : Word) (flags : CacheFlags) : Deed Slot Word Sector → Prop
  | .keeps => True
  | .claims _ => True
  | .sets address _ => address = sector ∧ flags.read = false ∧ flags.write = true

/-- The content is not changed by it. -/
def Quiet (deed : Deed Slot Word Sector) : Prop := ∀ address block, deed ≠ .sets address block

/-- What `afatfs_cacheSector` returns and does. -/
structure Opened (sector : Word) (flags : CacheFlags) (volume : Volume)
    (result : OperationStatus × Option Slot) (later : Volume) : Prop where
  moves : ∃ deeds mid, Moves volume deeds mid ∧ (∀ deed ∈ deeds, OpenDeed sector flags deed) ∧
    (result.2 = none → ∀ deed ∈ deeds, Quiet deed) ∧
    match result.2 with
    | none => later = mid
    | some slot => later = (mid.lockFor slot flags).retainFor slot flags
  memory : later.afatfs.cache = volume.afatfs.cache
  store : later.store = volume.store
  failure : result.1 = .failure ↔ flags.write = true ∧ sector = 0
  missed : result.1 ≠ .success → result.2 = none
  hit : result.1 = .success → ∃ slot, result.2 = some slot ∧
    (flags.read = true ∨ flags.write = true → later.writeBack.Holds slot sector) ∧
    (flags.write = true → (later.afatfs.cacheDescriptor slot).state = .dirty) ∧
    (flags.lock = true → (later.afatfs.cacheDescriptor slot).locked = true)

section Opening

variable {flags : CacheFlags} {mid : Volume} {deeds : List (Deed Slot Word Sector)}

theorem openDeed_of_quiet {deed : Deed Slot Word Sector} (quiet : Quiet deed) : OpenDeed sector flags deed := by
  cases deed with
  | keeps => trivial
  | claims => trivial
  | sets address block => exact absurd rfl (quiet address block)

theorem Opened.of_pending (moves : Moves volume deeds later) (quiet : ∀ deed ∈ deeds, Quiet deed)
    (memory : later.afatfs.cache = volume.afatfs.cache) (store : later.store = volume.store)
    (legal : ¬ (flags.write = true ∧ sector = 0)) : Opened sector flags volume (.inProgress, none) later where
  moves := ⟨deeds, later, moves, fun deed isIn => openDeed_of_quiet (quiet deed isIn), fun _ => quiet, rfl⟩
  memory := memory
  store := store
  failure := by simpa using legal
  missed _ := rfl
  hit success := by cases success

theorem lockFor_state : ((volume.lockFor slot flags).afatfs.cacheDescriptor slot).state =
    (volume.afatfs.cacheDescriptor slot).state := by
  rw [Volume.lockFor]
  split <;> simp [Volume.lock, Afatfs.setDescriptor]

theorem retainFor_state : ((volume.retainFor slot flags).afatfs.cacheDescriptor slot).state =
    (volume.afatfs.cacheDescriptor slot).state := by
  rw [Volume.retainFor]
  split <;> simp [Volume.retain, Afatfs.setDescriptor]

theorem retainFor_locked : ((volume.retainFor slot flags).afatfs.cacheDescriptor slot).locked =
    (volume.afatfs.cacheDescriptor slot).locked := by
  rw [Volume.retainFor]
  split <;> simp [Volume.retain, Afatfs.setDescriptor]

theorem lockFor_locked (locks : flags.lock = true) :
    ((volume.lockFor slot flags).afatfs.cacheDescriptor slot).locked = true := by
  simp [Volume.lockFor, locks, Volume.lock, Afatfs.setDescriptor]

/-- The sector is in the cache. -/
theorem Opened.of_success (moves : Moves volume deeds mid) (allowed : ∀ deed ∈ deeds, OpenDeed sector flags deed)
    (memory : mid.afatfs.cache = volume.afatfs.cache) (store : mid.store = volume.store)
    (legal : ¬ (flags.write = true ∧ sector = 0))
    (holds : flags.read = true ∨ flags.write = true → mid.writeBack.Holds slot sector)
    (dirty : flags.write = true → (mid.afatfs.cacheDescriptor slot).state = .dirty) :
    Wp (cacheSectorSuccess slot flags) (Opened sector flags volume) mid := by
  rw [wp_cacheSectorSuccess]
  refine ⟨⟨deeds, mid, moves, allowed, nofun, rfl⟩, ?_, ?_, ?_, ?_, ?_⟩
  · rw [← memory, Volume.retainFor, Volume.lockFor]
    split <;> split <;> rfl
  · rw [← store, Volume.retainFor, Volume.lockFor]
    split <;> split <;> rfl
  · simpa using legal
  · exact fun missed => absurd rfl missed
  · intro _
    refine ⟨slot, rfl, ?_, ?_, ?_⟩
    · intro opened
      rw [writeBack_retainFor, writeBack_lockFor]
      exact holds opened
    · intro writes
      rw [retainFor_state, lockFor_state]
      exact dirty writes
    · intro locks
      rw [retainFor_locked]
      exact lockFor_locked locks

/-- A card that is idle may start to read. -/
theorem wp_sdcardReadBlock {post : Bool → Volume → Prop}
    (starts : volume.flight = none → post true { volume with flight := some ⟨slot, sector, false⟩ })
    (refuses : post false volume) : Wp (sdcardReadBlock sector slot) post volume := by
  apply Wp.bind
  apply Wp.draw
  intro answer
  rw [wp_state_bind]
  split_ifs with accepted
  · rw [wp_update_bind, wp_pure]
    simp only [Bool.and_eq_true, Option.isNone_iff_eq_none] at accepted
    exact starts accepted.1
  · exact (wp_pure false).mpr refuses

/-- A state that changes, and nothing else of the descriptor. -/
theorem writeBack_setState {state : CacheBlockState} :
    ({ volume with afatfs := volume.afatfs.setState slot state } : Volume).writeBack =
      volume.writeBack.setPhase slot state.phase :=
  show _ = volume.writeBack.setPhase slot ({ volume.afatfs.cacheDescriptor slot with state } : CacheBlockDescriptor).state.phase
  from writeBack_of_state rfl rfl rfl rfl rfl

/-- A vacant slot whose sector is being read. -/
theorem Moves.read (vacant : volume.writeBack.Vacant slot sector)
    (has : (volume.afatfs.cacheDescriptor slot).sectorIndex = sector) (idle : volume.flight = none) :
    Moves volume [.keeps]
      { volume with
        flight := some ⟨slot, sector, false⟩
        afatfs := volume.afatfs.setState slot .reading } := by
  have empty : (volume.afatfs.cacheDescriptor slot).state = .empty := phase_eq_empty.mp (vacant slot has).1
  have reads : ({ volume with
      flight := some ⟨slot, sector, false⟩
      afatfs := volume.afatfs.setState slot .reading } : Volume).writeBack =
      (volume.writeBack.setPhase slot .reading).setFlight (some ⟨slot, sector, false⟩) :=
    congrArg (fun c : WriteBack Slot Word Sector => c.setFlight (some ⟨slot, sector, false⟩)) writeBack_setState
  refine .of_step ?_ (by simp) ⟨rfl, rfl, rfl⟩ ⟨rfl, by simp [empty], rfl⟩ ?_ ?_
  · rw [reads, ← has]
    exact .beginRead slot (by rwa [show volume.writeBack.address slot = sector from has]) idle
  · have same : (volume.writeBack.setPhase slot .reading).dirtyCount = volume.writeBack.dirtyCount :=
      WriteBack.dirtyCount_setPhase (by simp [Volume.writeBack, empty, CacheBlockState.phase]) (by decide)
    rw [Volume.balance, Volume.balance, reads, ← same]
    rfl
  · intro ok
    exact ok.trans (by rw [idle]; rfl)

theorem wp_startReading (moves : Moves volume deeds mid) (quiet : ∀ deed ∈ deeds, Quiet deed)
    (memory : mid.afatfs.cache = volume.afatfs.cache) (store : mid.store = volume.store)
    (legal : ¬ (flags.write = true ∧ sector = 0))
    (has : (mid.afatfs.cacheDescriptor slot).sectorIndex = sector) (vacant : mid.writeBack.Vacant slot sector) :
    Wp (startReading sector slot) (Opened sector flags volume) mid := by
  apply Wp.bind
  apply wp_sdcardReadBlock
  · intro idle
    rw [wp_modify_bind, wp_pure]
    refine .of_pending (moves.trans (.read vacant has idle) (by simp)) ?_ memory store legal
    intro deed isIn
    obtain isIn | isIn := List.mem_append.mp isIn
    · exact quiet deed isIn
    · rw [List.mem_singleton.mp isIn]
      exact nofun
  · rw [wp_modify_bind, wp_pure]
    exact .of_pending moves quiet memory store legal

/-- A sector that is ready to be marked dirty, by a step of the abstract cache. -/
theorem wp_markDirtyFor (deed : Deed Slot Word Sector) (moves : Moves volume deeds mid)
    (allowed : ∀ deed ∈ deeds, OpenDeed sector flags deed) (memory : mid.afatfs.cache = volume.afatfs.cache)
    (store : mid.store = volume.store) (legal : ¬ (flags.write = true ∧ sector = 0))
    (has : (mid.afatfs.cacheDescriptor slot).sectorIndex = sector)
    (valid : flags.read = true → (mid.writeBack.phase slot).Valid)
    (keeps : ∀ slot, deed ≠ .claims slot) (opens : flags.write = true → OpenDeed sector flags deed)
    (step : WriteBack.Step mid.writeBack deed (mid.writeBack.setPhase slot .dirty)) :
    Wp (do
      markDirtyFor slot flags
      cacheSectorSuccess slot flags) (Opened sector flags volume) mid := by
  rw [markDirtyFor]
  split_ifs with writes
  · rw [wp_modify_bind]
    have marked : Moves mid [deed] (mid.markDirty slot) := .markDirty keeps step
    refine Opened.of_success (moves.trans marked (by simpa using fun slot => (keeps slot).symm)) ?_
      (markDirty_cache.trans memory) store legal ?_ (fun _ => markDirty_state)
    · intro other isIn
      obtain isIn | isIn := List.mem_append.mp isIn
      · exact allowed other isIn
      · rw [List.mem_singleton.mp isIn]
        exact opens writes
    · intro _
      refine ⟨?_, .inr (.inr (phase_eq_dirty.mpr markDirty_state))⟩
      exact (congrFun (congrArg WriteBack.address writeBack_markDirty) slot).trans has
  · refine Opened.of_success moves allowed memory store legal ?_ (fun is => absurd is writes)
    rintro (reads | is)
    · exact ⟨has, valid reads⟩
    · exact absurd is writes

theorem wp_cacheSectorSwitch (moves : Moves volume deeds mid) (quiet : ∀ deed ∈ deeds, Quiet deed)
    (memory : mid.afatfs.cache = volume.afatfs.cache) (store : mid.store = volume.store)
    (legal : ¬ (flags.write = true ∧ sector = 0))
    (has : (mid.afatfs.cacheDescriptor slot).sectorIndex = sector)
    (ready : (mid.afatfs.cacheDescriptor slot).state = .empty → mid.writeBack.Vacant slot sector) :
    Wp (cacheSectorSwitch sector flags slot) (Opened sector flags volume) mid := by
  have allowed : ∀ deed ∈ deeds, OpenDeed sector flags deed := fun deed isIn => openDeed_of_quiet (quiet deed isIn)
  rw [cacheSectorSwitch, wp_get_bind]
  -- a sector that is in sync or being written
  have marks : (mid.writeBack.phase slot).Valid →
      Wp (do
        markDirtyFor slot flags
        cacheSectorSuccess slot flags) (Opened sector flags volume) mid := fun valid =>
    wp_markDirtyFor .keeps moves allowed memory store legal has (fun _ => valid) (by simp)
      (fun _ => trivial) (.soil slot valid)
  cases state : (mid.afatfs.cacheDescriptor slot).state with
  | reading => exact (wp_pure _).mpr (.of_pending moves quiet memory store legal)
  | writing => exact marks (.inr (.inl (phase_eq_writing.mpr state)))
  | inSync => exact marks (.inl (phase_eq_clean.mpr state))
  | dirty =>
    refine Opened.of_success moves allowed memory store legal (fun _ => ⟨has, ?_⟩) (fun _ => state)
    exact .inr (.inr (phase_eq_dirty.mpr state))
  | empty =>
    have vacant := ready state
    dsimp only
    split_ifs with reads
    · exact wp_startReading moves quiet memory store legal has vacant
    · rw [wp_modify_bind]
      have hinted : Sets slot { mid.afatfs.cacheDescriptor slot with discardable := flags.discardable } mid
          { mid with
            afatfs := mid.afatfs.setDescriptor slot
              { mid.afatfs.cacheDescriptor slot with discardable := flags.discardable } } :=
        ⟨rfl, rfl, rfl⟩
      have discards := Moves.of_kept hinted rfl rfl rfl rfl rfl ⟨rfl, fun _ => id, rfl⟩ rfl id
      have same := writeBack_of_kept hinted.changed rfl rfl rfl rfl rfl
      have scratches : WriteBack.Step mid.writeBack (.sets sector (mid.afatfs.cache slot))
          (mid.writeBack.setPhase slot .dirty) := by
        rw [← has]
        exact .scratch slot (by rwa [show mid.writeBack.address slot = sector from has])
      refine wp_markDirtyFor (.sets sector (mid.afatfs.cache slot)) (by simpa using moves.trans discards (by simp))
        allowed memory store legal ?_ (fun is => absurd is reads) (by simp) ?_ (by rwa [same])
      · simpa [Afatfs.setDescriptor] using has
      · exact fun writes => ⟨rfl, by simpa using reads, writes⟩

/-- A slot that is given to another sector. -/
theorem Moves.claim (evictable : (volume.afatfs.cacheDescriptor slot).Evictable)
    (vacant : volume.writeBack.Vacant slot sector) :
    Moves volume [.claims slot] { volume with afatfs := volume.afatfs.cacheSectorInit slot sector false } := by
  have claimed : ({ volume with afatfs := volume.afatfs.cacheSectorInit slot sector false } : Volume).writeBack =
      { volume.writeBack.setPhase slot .empty with
        address := Function.update volume.writeBack.address slot sector } :=
    writeBack_of_descriptor
      { sectorIndex := sector, accessTimestamp := volume.afatfs.cacheTimer + 1
        writeTimestamp := volume.afatfs.cacheTimer + 1, state := .empty, locked := false
        retainCount := 0, discardable := false } rfl rfl rfl rfl
  have free : volume.writeBack.phase slot = .empty ∨ volume.writeBack.phase slot = .clean := by
    obtain empty | ⟨inSync, -, -⟩ := evictable
    · exact .inl (phase_eq_empty.mpr empty)
    · exact .inr (phase_eq_clean.mpr inSync)
  refine ⟨⟨?_, rfl, ?_, id⟩, ?_, ?_, ?_, .inl rfl⟩
  · rw [claimed]
    exact .single (.claim slot sector free vacant)
  · have clean : volume.writeBack.phase slot ≠ .dirty := by
      obtain empty | clean := free
      · simp [empty]
      · simp [clean]
    have same : (volume.writeBack.setPhase slot .empty).dirtyCount = volume.writeBack.dirtyCount :=
      WriteBack.dirtyCount_setPhase clean (by decide)
    rw [Volume.balance, Volume.balance, claimed, ← same]
    rfl
  · intro other isClaimed
    obtain rfl : other = slot := by simpa using isClaimed
    exact evictable
  · intro other isClaimed
    obtain rfl : other = slot := by simpa using isClaimed
    simp [Afatfs.cacheSectorInit, Afatfs.setDescriptor, CacheBlockDescriptor.Pinned]
  · intro other unclaimed
    have elsewhere : other ≠ slot := by simpa using unclaimed
    simpa [Afatfs.cacheSectorInit, Afatfs.setDescriptor, elsewhere] using CacheBlockDescriptor.Stays.refl _

/-- The rule of `afatfs_cacheSector`. -/
theorem wp_cacheSector (sound : volume.writeBack.Sound) :
    Wp (cacheSector sector flags) (Opened sector flags volume) volume := by
  rw [cacheSector]
  apply Wp.bind
  apply wp_afatfsAssert
  · intro allowed
    have legal : ¬ (flags.write = true ∧ sector = 0) := by
      rintro ⟨writes, rfl⟩
      simp [writes] at allowed
    simp only [Bool.not_true, Bool.false_eq_true, if_false]
    apply Wp.bind
    apply (wp_allocateCacheSector sound).mono
    intro found later allocates
    cases allocates with
    | outOfVolume => exact (wp_pure _).mpr (.of_pending (.assertFails volume) (by simp) rfl rfl legal)
    | full => exact (wp_pure _).mpr (.of_pending (.refl volume) (by simp) rfl rfl legal)
    | cached slot inside same used =>
      have bumped : Sets slot
          { volume.afatfs.cacheDescriptor slot with accessTimestamp := volume.afatfs.cacheTimer + 1 } volume
          { volume with afatfs := volume.afatfs.touch slot } := ⟨rfl, rfl, rfl⟩
      refine wp_cacheSectorSwitch (.of_kept bumped rfl rfl rfl rfl rfl ⟨rfl, fun _ => id, rfl⟩ rfl id) (by simp) rfl rfl legal ?_ ?_
      · simpa [Afatfs.touch, Afatfs.setDescriptor] using same
      · intro empty
        exact absurd (by simpa [Afatfs.touch, Afatfs.setDescriptor] using empty) used
    | claimed slot inside evictable vacant =>
      have claims := Moves.claim evictable vacant
      refine wp_cacheSectorSwitch claims (by simp [Quiet]) rfl rfl legal ?_ ?_
      · simp [Afatfs.cacheSectorInit, Afatfs.setDescriptor]
      · intro _ other hasOther
        by_cases here : other = slot
        · subst here
          simp [Volume.writeBack, Afatfs.cacheSectorInit, Afatfs.setDescriptor, CacheBlockState.phase]
        · have kept : volume.writeBack.address other = sector := by
            simpa [Volume.writeBack, Afatfs.cacheSectorInit, Afatfs.setDescriptor, here] using hasOther
          simpa [Volume.writeBack, Afatfs.cacheSectorInit, Afatfs.setDescriptor, here] using vacant other kept
  · intro refused
    have illegal : flags.write = true ∧ sector = 0 := by simpa using refused
    refine (wp_pure _).mpr ⟨⟨[], _, .assertFails volume, by simp, by simp, rfl⟩, rfl, rfl, by simpa using illegal, fun _ => rfl, ?_⟩
    intro success
    cases success

/-- A sector that is in the cache is returned at once. -/
theorem wp_cacheSector_held (sound : volume.writeBack.Sound) (held : volume.writeBack.Holds slot sector)
    (inside : volume.afatfs.sectorInVolume sector = true) (legal : ¬ (flags.write = true ∧ sector = 0)) :
    Wp (cacheSector sector flags) (fun result _ => result = (.success, some slot)) volume := by
  rw [cacheSector]
  apply Wp.bind
  apply wp_afatfsAssert
  · intro _
    simp only [Bool.not_true, Bool.false_eq_true, if_false]
    apply Wp.bind
    apply (wp_allocateCacheSector sound).mono
    intro found later allocates
    cases allocates with
    | outOfVolume outside => simp [inside] at outside
    | full _ missing => exact absurd held.1 (missing slot)
    | cached other _ same used =>
      obtain rfl : slot = other :=
        sound.unique held.2.used (mt phase_eq_empty.mp used) (held.1.trans same.symm)
      have state := held.2
      simp only [Volume.writeBack, Phase.Valid, phase_eq_clean, phase_eq_writing, phase_eq_dirty] at state
      simp only [cacheSectorSwitch, wp_get_bind, Afatfs.touch, Afatfs.setDescriptor, Function.update_self]
      have succeeds : ∀ now, Wp (do
          markDirtyFor slot flags
          cacheSectorSuccess slot flags) (fun result _ => result = (.success, some slot)) now := by
        intro now
        rw [markDirtyFor]
        split_ifs
        · exact wp_cacheSectorSuccess.mpr rfl
        · exact wp_cacheSectorSuccess.mpr rfl
      obtain state | state | state := state
      · simp only [state]
        exact succeeds _
      · simp only [state]
        exact succeeds _
      · simp only [state]
        exact wp_cacheSectorSuccess.mpr rfl
    | claimed _ _ _ vacant => exact absurd (vacant slot held.1).1 held.2.used
  · intro refused
    exact absurd (by simpa using refused) legal

end Opening

/-! ## Writing back -/

/-- The sector may be written. -/
def CacheBlockDescriptor.Writable (descriptor : CacheBlockDescriptor) : Prop :=
  descriptor.state = .dirty ∧ descriptor.locked = false

/-- The loop keeps a sector that may be written, and no later than those it has passed. -/
theorem earlierSector_foldl {afatfs : Afatfs} (slots : List Slot) (earliest : Option Slot)
    (holds : ∀ i ∈ earliest, (afatfs.cacheDescriptor i).Writable) :
    (∀ i ∈ slots.foldl afatfs.earlierSector earliest, (afatfs.cacheDescriptor i).Writable) ∧
      ∀ j, j ∈ earliest ∨ j ∈ slots ∧ (afatfs.cacheDescriptor j).Writable →
        ∃ i ∈ slots.foldl afatfs.earlierSector earliest,
          (afatfs.cacheDescriptor i).writeTimestamp ≤ (afatfs.cacheDescriptor j).writeTimestamp := by
  induction slots generalizing earliest with
  | nil =>
    refine ⟨holds, ?_⟩
    rintro j (isIt | ⟨isIn, -⟩)
    · exact ⟨j, isIt, BitVec.le_refl _⟩
    · cases isIn
  | cons i rest ih =>
    rw [List.foldl_cons]
    -- the body takes a sector that may be written, and none is earlier that it leaves behind
    have body : (∀ k ∈ afatfs.earlierSector earliest i, (afatfs.cacheDescriptor k).Writable) ∧
        ∀ j, j ∈ earliest ∨ j = i ∧ (afatfs.cacheDescriptor j).Writable →
          ∃ k ∈ afatfs.earlierSector earliest i,
            (afatfs.cacheDescriptor k).writeTimestamp ≤ (afatfs.cacheDescriptor j).writeTimestamp := by
      rw [Afatfs.earlierSector]
      split_ifs with takes
      · obtain ⟨dirty, unlocked, before⟩ := takes
        constructor
        · rintro _ ⟨rfl⟩
          exact ⟨dirty, by simpa using unlocked⟩
        · rintro j (isIt | ⟨rfl, -⟩)
          · rw [Option.mem_def] at isIt
            simp only [isIt, Option.all_some, decide_eq_true_eq] at before
            exact ⟨i, rfl, BitVec.le_of_lt before⟩
          · exact ⟨j, rfl, BitVec.le_refl _⟩
      · refine ⟨holds, ?_⟩
        rintro j (isIt | ⟨rfl, dirty, unlocked⟩)
        · exact ⟨j, isIt, BitVec.le_refl _⟩
        · cases earliest with
          | none => simp [dirty, unlocked] at takes
          | some other =>
            simp only [dirty, unlocked, Bool.not_false, Option.all_some, decide_eq_true_eq, true_and,
              BitVec.not_lt] at takes
            exact ⟨other, rfl, takes⟩
    obtain ⟨writable, least⟩ := ih _ body.1
    refine ⟨writable, ?_⟩
    rintro j (isIt | ⟨isIn, may⟩)
    · obtain ⟨k, isK, before⟩ := body.2 j (.inl isIt)
      obtain ⟨l, isL, before'⟩ := least k (.inl isK)
      exact ⟨l, isL, BitVec.le_trans before' before⟩
    · obtain rfl | behind := List.mem_cons.mp isIn
      · obtain ⟨k, isK, before⟩ := body.2 j (.inr ⟨rfl, may⟩)
        obtain ⟨l, isL, before'⟩ := least k (.inl isK)
        exact ⟨l, isL, BitVec.le_trans before' before⟩
      · exact least j (.inr ⟨behind, may⟩)

/-- The sector that is written may be, and it is the one that was marked dirty first. -/
theorem earliestSector_some {afatfs : Afatfs} (chosen : afatfs.earliestSector = some slot) :
    (afatfs.cacheDescriptor slot).Writable ∧ ∀ other, (afatfs.cacheDescriptor other).Writable →
      (afatfs.cacheDescriptor slot).writeTimestamp ≤ (afatfs.cacheDescriptor other).writeTimestamp := by
  obtain ⟨writable, least⟩ := earlierSector_foldl (List.finRange numCacheSectors) none nofun
  refine ⟨writable slot chosen, ?_⟩
  intro other may
  obtain ⟨i, isIt, before⟩ := least other (.inr ⟨List.mem_finRange other, may⟩)
  obtain rfl : slot = i := Option.some.inj (chosen.symm.trans isIt)
  exact before

theorem earliestSector_none {afatfs : Afatfs} (missed : afatfs.earliestSector = none) (other : Slot) :
    ¬ (afatfs.cacheDescriptor other).Writable := by
  intro may
  obtain ⟨-, least⟩ := earlierSector_foldl (List.finRange numCacheSectors) none nofun
  obtain ⟨i, isIt, -⟩ := least other (.inr ⟨List.mem_finRange other, may⟩)
  cases missed.symm.trans isIt

/-- A descriptor of a dirty sector that is not locked may take any state. -/
theorem stays_setState {state : CacheBlockState} (unlocked : descriptor.locked = false) :
    descriptor.Stays { descriptor with state } :=
  ⟨rfl, by simp [unlocked], rfl⟩

theorem wp_sdcardWriteBlock {post : SdcardOperationStatus → Volume → Prop} (busy : post .busy volume)
    (starts : volume.flight = none → post .inProgress { volume with flight := some ⟨slot, sector, true⟩ })
    (stores : volume.flight = none → post .success
      { volume with store := Function.update volume.store sector (volume.afatfs.cache slot) })
    (rejects : volume.flight = none → ∀ stored, post .failure
      { volume with store := Function.update volume.store sector stored }) :
    Wp (sdcardWriteBlock sector slot) post volume := by
  apply Wp.bind
  apply Wp.draw
  intro answer
  rw [wp_state_bind]
  split_ifs with flying
  · exact (wp_pure _).mpr busy
  · have idle : volume.flight = none := by simpa using flying
    cases status : answer.writeStatus with
    | inProgress => exact (wp_pure _).mpr (starts idle)
    | busy => exact (wp_pure _).mpr busy
    | success => exact (wp_pure _).mpr (stores idle)
    | failure => exact (wp_pure _).mpr (rejects idle answer.stored)

/-- A change of a state that the counter follows. -/
theorem balance_of_phase (state : CacheBlockState) (change : Int)
    (phases : later.writeBack.phase = (volume.writeBack.setPhase slot state.phase).phase)
    (entries : later.afatfs.cacheDirtyEntries = volume.afatfs.cacheDirtyEntries + change)
    (counted : ((volume.writeBack.setPhase slot state.phase).dirtyCount : Int) = volume.writeBack.dirtyCount + change) :
    later.balance = volume.balance := by
  rw [Volume.balance, Volume.balance, entries, WriteBack.dirtyCount_congr phases, counted]
  omega

/-- What a flush does to a dirty sector that is not locked. -/
theorem wp_cacheFlushSector (dirty : (volume.afatfs.cacheDescriptor slot).state = .dirty)
    (unlocked : (volume.afatfs.cacheDescriptor slot).locked = false) :
    Wp (cacheFlushSector slot) (fun _ later => ∃ deeds, Moves volume deeds later ∧ ∀ deed ∈ deeds, deed = .keeps)
      volume := by
  have isDirty : volume.writeBack.phase slot = .dirty := phase_eq_dirty.mpr dirty
  have fewer : ∀ phase, phase ≠ .dirty →
      ((volume.writeBack.setPhase slot phase).dirtyCount : Int) = volume.writeBack.dirtyCount + (-1) := by
    intro phase other
    have counted := WriteBack.dirtyCount_settle isDirty other
    omega
  rw [cacheFlushSector, wp_get_bind]
  apply Wp.bind
  apply wp_sdcardWriteBlock
  · exact (wp_pure _).mpr ⟨[], .refl volume, by simp⟩
  · intro idle
    rw [wp_modify]
    have writes : ({ volume with
        flight := some ⟨slot, (volume.afatfs.cacheDescriptor slot).sectorIndex, true⟩
        afatfs := volume.afatfs.writeBegins slot } : Volume).writeBack =
        (volume.writeBack.setPhase slot .writing).setFlight (some ⟨slot, volume.writeBack.address slot, true⟩) :=
      congrArg (fun c : WriteBack Slot Word Sector => c.setFlight (some ⟨slot, volume.writeBack.address slot, true⟩))
        writeBack_setState
    refine ⟨[.keeps], .of_step (writes ▸ .beginWrite slot isDirty idle) (by simp)
      ⟨rfl, rfl, rfl⟩ (stays_setState unlocked) ?_ (fun _ => rfl), by simp⟩
    have phases := (congrArg WriteBack.phase writes).trans
      (rfl : _ = (volume.writeBack.setPhase slot CacheBlockState.writing.phase).phase)
    exact balance_of_phase _ _ phases rfl (fewer _ (by decide))
  · intro idle
    rw [wp_modify]
    have writes : ({ volume with
        store := Function.update volume.store (volume.afatfs.cacheDescriptor slot).sectorIndex (volume.afatfs.cache slot)
        afatfs := volume.afatfs.writeEnds slot } : Volume).writeBack =
        (volume.writeBack.setPhase slot .clean).setStore (volume.writeBack.address slot)
          (volume.writeBack.block slot) :=
      congrArg (fun c : WriteBack Slot Word Sector =>
        c.setStore (volume.writeBack.address slot) (volume.writeBack.block slot)) writeBack_setState
    refine ⟨[.keeps], .of_step (writes ▸ .writeNow slot isDirty idle) (by simp)
      ⟨rfl, rfl, rfl⟩ (stays_setState unlocked) ?_ id, by simp⟩
    have phases := (congrArg WriteBack.phase writes).trans
      (rfl : _ = (volume.writeBack.setPhase slot CacheBlockState.inSync.phase).phase)
    exact balance_of_phase _ _ phases rfl (fewer _ (by decide))
  · intro idle stored
    rw [wp_pure]
    have kept : Sets slot (volume.afatfs.cacheDescriptor slot) volume
        { volume with
          store := Function.update volume.store (volume.afatfs.cacheDescriptor slot).sectorIndex stored } :=
      ⟨by simp, rfl, rfl⟩
    exact ⟨[.keeps], .of_step (.reject slot stored isDirty idle) (by simp) kept (.refl _) rfl id, by simp⟩

/-- The rule of `afatfs_flush`. -/
theorem wp_flush :
    Wp flush (fun _ later => ∃ deeds, Moves volume deeds later ∧ ∀ deed ∈ deeds, deed = .keeps) volume := by
  have nothing : ∃ deeds, Moves volume deeds volume ∧ ∀ deed ∈ deeds, deed = .keeps := ⟨[], .refl volume, by simp⟩
  rw [flush, wp_get_bind]
  split_ifs
  · cases chosen : volume.afatfs.earliestSector with
    | none => exact (wp_pure _).mpr nothing
    | some slot =>
      obtain ⟨⟨dirty, unlocked⟩, -⟩ := earliestSector_some chosen
      apply Wp.bind
      apply (wp_cacheFlushSector dirty unlocked).mono
      intro _ later moves
      exact (wp_pure false).mpr moves
  · exact (wp_pure true).mpr nothing

/-! ## Completions -/

/-- The search for a slot of which there is only one. -/
theorem find?_slot {select : Slot → Bool} (selects : select slot = true)
    (only : ∀ other, select other = true → other = slot) :
    (List.finRange numCacheSectors).find? select = some slot := by
  cases found : (List.finRange numCacheSectors).find? select with
  | none => exact absurd selects (List.find?_eq_none.mp found slot (List.mem_finRange slot))
  | some other => rw [only other (List.find?_some found)]

/-- A change of a state that does not matter for the counter. -/
theorem balance_of_clean (state : CacheBlockState) (clean : (volume.afatfs.cacheDescriptor slot).state ≠ .dirty)
    (other : state ≠ .dirty) (phases : later.writeBack.phase = (volume.writeBack.setPhase slot state.phase).phase)
    (entries : later.afatfs.cacheDirtyEntries = volume.afatfs.cacheDirtyEntries) : later.balance = volume.balance := by
  apply balance_of_phase state 0 phases (by omega)
  rw [WriteBack.dirtyCount_setPhase (mt phase_eq_dirty.mp clean) (mt phase_eq_dirty.mp other)]
  omega

/-- The end of a read finds the sector that is being read. -/
theorem wp_readCompletes {success : Bool} {stored : Sector} (sound : volume.writeBack.Sound)
    (flying : volume.flight = some ⟨slot, sector, false⟩) :
    Wp (cardCompletes success stored) (fun _ later => Moves volume [.keeps] later) volume := by
  obtain ⟨has, isReading⟩ := sound.read _ flying rfl
  have reading : (volume.afatfs.cacheDescriptor slot).state = .reading := phase_eq_reading.mp isReading
  have found : (volume.afatfs.setMemory slot (if success then volume.store sector else stored)).readSlot sector =
      some slot := by
    apply find?_slot
    · exact decide_eq_true ⟨by simp [Afatfs.setMemory, reading], has⟩
    · intro other selected
      obtain selected := of_decide_eq_true selected
      exact sound.unique (mt phase_eq_empty.mp selected.1) (by simp [isReading]) (selected.2.trans has.symm)
  rw [cardCompletes, wp_state_bind, flying]
  simp only [Bool.false_eq_true, if_false, wp_update_bind, wp_modify_bind]
  rw [sdcardReadComplete, wp_get_bind, found]
  cases success with
  | true =>
    simp only [if_true]
    apply Wp.bind
    apply wp_afatfsAssert
    · intro _
      rw [wp_modify]
      have reads : ({ volume with
          flight := none
          afatfs := (volume.afatfs.setMemory slot (volume.store sector)).setState slot .inSync } : Volume).writeBack =
          ((volume.writeBack.setPhase slot .clean).setBlock slot (volume.writeBack.store sector)).setFlight none :=
        congrArg (fun c : WriteBack Slot Word Sector => (c.setBlock slot (volume.writeBack.store sector)).setFlight none)
          writeBack_setState
      refine .of_step (reads ▸ .endRead slot sector flying) (by simp) ⟨rfl, rfl, rfl⟩ ⟨rfl, by simp [reading], rfl⟩ ?_
        (fun ok => ok.trans (by rw [flying]; rfl))
      exact balance_of_clean .inSync (by simp [reading]) (by decide)
        ((congrArg WriteBack.phase reads).trans rfl) rfl
    · intro fails
      simp [Afatfs.setMemory, reading] at fails
  | false =>
    simp only [Bool.false_eq_true, if_false]
    rw [wp_modify]
    have fails : ({ volume with
        flight := none
        afatfs := (volume.afatfs.setMemory slot stored).setState slot .empty } : Volume).writeBack =
        ((volume.writeBack.setPhase slot .empty).setBlock slot stored).setFlight none :=
      congrArg (fun c : WriteBack Slot Word Sector => (c.setBlock slot stored).setFlight none) writeBack_setState
    refine .of_step (fails ▸ .failRead slot sector stored flying) (by simp) ⟨rfl, rfl, rfl⟩ ⟨rfl, by simp [reading], rfl⟩ ?_
      (fun ok => ok.trans (by rw [flying]; rfl))
    exact balance_of_clean .empty (by simp [reading]) (by decide)
      ((congrArg WriteBack.phase fails).trans rfl) rfl

theorem used_of_writing (writing : (volume.afatfs.cacheDescriptor slot).state = .writing) :
    volume.writeBack.phase slot ≠ .empty :=
  mt phase_eq_empty.mp (by simp [writing])

/-- The end of a write finds the sector if it is still counted on. -/
theorem wp_writeCompletes {success : Bool} {stored : Sector} (sound : volume.writeBack.Sound)
    (flying : volume.flight = some ⟨slot, sector, true⟩) :
    Wp (cardCompletes success stored) (fun _ later => Moves volume [.keeps] later) volume := by
  obtain ⟨has, isWriting | isDirty⟩ := sound.write _ flying rfl
  · have writing : (volume.afatfs.cacheDescriptor slot).state = .writing := phase_eq_writing.mp isWriting
    have found : volume.afatfs.flushEnds.writeSlot sector = some slot := by
      apply find?_slot
      · exact decide_eq_true ⟨has, writing⟩
      · intro other selected
        obtain selected := of_decide_eq_true selected
        exact sound.unique (used_of_writing selected.2) (used_of_writing writing) (selected.1.trans has.symm)
    rw [cardCompletes, wp_state_bind, flying]
    simp only [if_true, wp_update_bind]
    rw [sdcardWriteComplete, wp_modify_bind, wp_get_bind, found]
    cases success with
    | true =>
      simp only [writing, and_self, if_true]
      apply Wp.bind
      apply wp_afatfsAssert
      · intro _
        rw [wp_modify]
        have writes : ({ volume with
            flight := none
            store := Function.update volume.store sector (volume.afatfs.cache slot)
            afatfs := volume.afatfs.flushEnds.setState slot .inSync } :
            Volume).writeBack =
            ((volume.writeBack.setPhase slot .clean).setStore sector (volume.writeBack.block slot)).setFlight none :=
          congrArg (fun c : WriteBack Slot Word Sector =>
            (c.setStore sector (volume.writeBack.block slot)).setFlight none) writeBack_setState
        refine .of_step (writes ▸ .endWrite slot sector flying isWriting) (by simp) ⟨rfl, rfl, rfl⟩ ⟨rfl, by simp [writing], rfl⟩ ?_
          (fun _ => rfl)
        exact balance_of_clean .inSync (by simp [writing]) (by decide)
          ((congrArg WriteBack.phase writes).trans rfl) rfl
      · intro fails
        simp at fails
    | false =>
      simp only [Bool.false_eq_true, false_and, if_false]
      rw [wp_modify]
      have fails : ({ volume with
          flight := none
          store := Function.update volume.store sector stored
          afatfs := volume.afatfs.flushEnds.writeFails slot } :
          Volume).writeBack =
          ((volume.writeBack.setPhase slot .dirty).setStore sector stored).setFlight none :=
        congrArg (fun c : WriteBack Slot Word Sector => (c.setStore sector stored).setFlight none) writeBack_setState
      refine .of_step (fails ▸ .failWrite slot sector stored flying isWriting) (by simp) ⟨rfl, rfl, rfl⟩ ⟨rfl, fun _ _ => rfl, rfl⟩ ?_
        (fun _ => rfl)
      have more : (volume.writeBack.setPhase slot .dirty).dirtyCount = volume.writeBack.dirtyCount + 1 :=
        WriteBack.dirtyCount_soil (by simp [isWriting])
      exact balance_of_phase .dirty 1 ((congrArg WriteBack.phase fails).trans rfl) rfl
        (by simp [CacheBlockState.phase, more])
  · have dirty : (volume.afatfs.cacheDescriptor slot).state = .dirty := phase_eq_dirty.mp isDirty
    have missed : volume.afatfs.flushEnds.writeSlot sector = none := by
      rw [Afatfs.writeSlot, List.find?_eq_none]
      intro other _ selected
      obtain ⟨same, writing⟩ := of_decide_eq_true selected
      have here : other = slot := sound.unique (used_of_writing writing) (by simp [isDirty]) (same.trans has.symm)
      subst here
      exact absurd (dirty.symm.trans writing) (by decide)
    rw [cardCompletes, wp_state_bind, flying]
    simp only [if_true, wp_update_bind]
    rw [sdcardWriteComplete, wp_modify_bind, wp_get_bind, missed, wp_pure]
    have kept : Sets slot (volume.afatfs.cacheDescriptor slot) volume
        { volume with
          flight := none
          store := Function.update volume.store sector
            (if success = true ∧ (volume.afatfs.cacheDescriptor slot).state = .writing then volume.afatfs.cache slot
            else stored)
          afatfs := volume.afatfs.flushEnds } :=
      ⟨by simp [Afatfs.flushEnds], rfl, rfl⟩
    exact .of_step (.endStale slot sector _ flying isDirty) (by simp) kept (.refl _) rfl fun _ => rfl

/-- The rule of the card's completions. -/
theorem wp_cardCompletes {success : Bool} {stored : Sector} (sound : volume.writeBack.Sound) :
    Wp (cardCompletes success stored)
      (fun _ later => ∃ deeds, Moves volume deeds later ∧ ∀ deed ∈ deeds, deed = .keeps) volume := by
  cases flying : volume.flight with
  | none =>
    rw [cardCompletes, wp_state_bind, flying]
    exact (wp_pure _).mpr ⟨[], .refl volume, by simp⟩
  | some flight =>
    obtain ⟨slot, sector, writes⟩ := flight
    cases writes with
    | false => exact (wp_readCompletes sound flying).mono fun _ _ moves => ⟨_, moves, by simp⟩
    | true => exact (wp_writeCompletes sound flying).mono fun _ _ moves => ⟨_, moves, by simp⟩

end ComputerSystems.Fat
