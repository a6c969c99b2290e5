import ComputerSystems.Data.Run
import ComputerSystems.Verified.CacheRules

/-! # Coherence of the sector cache

In every run of the cache over a card that does what `sdcard.h` says, whatever order its
sectors are opened, changed and written back in and whatever reads and writes fail, the
cache and the card together hold what was last written: `Volume.content`.
-/

namespace ComputerSystems.Fat

open ComputerSystems.Data Program

/-- What is in a sector: its block in the cache, and else on the card. -/
noncomputable def Volume.content (volume : Volume) : Word → Sector := volume.writeBack.content

/-- The invariant of the cache. -/
structure Volume.Coherent (volume : Volume) : Prop where
  sound : volume.writeBack.Sound
  balance : volume.balance = 0
  flushing : volume.FlushOk

variable {volume later : Volume} {slot : Slot} {sector : Word} {flags : CacheFlags} {event : CacheEvent}
  {deeds : List (Deed Slot Word Sector)} {result : OperationStatus × Option Slot}

theorem Travels.coherent (travels : Travels volume deeds later) (coherent : volume.Coherent) : later.Coherent :=
  ⟨travels.path.sound coherent.sound, travels.balance.trans coherent.balance, travels.flushing coherent.flushing⟩

/-- Without a changing deed the content stays. -/
theorem Travels.content (travels : Travels volume deeds later) (sound : volume.writeBack.Sound)
    (keeps : ∀ deed ∈ deeds, ∀ address block, deed ≠ .sets address block) : later.content = volume.content := by
  rw [Volume.content, travels.path.content sound]
  have kept : ∀ content : Word → Sector, deeds.foldl Deed.apply content = content := by
    clear travels
    induction deeds with
    | nil => exact fun _ => rfl
    | cons deed deeds ih =>
      intro content
      rw [List.foldl_cons, ih fun other isIn => keeps other (List.mem_cons_of_mem deed isIn)]
      cases deed with
      | keeps => rfl
      | claims => rfl
      | sets address block => exact absurd rfl (keeps _ List.mem_cons_self address block)
  exact kept _

/-- Deeds at one address change the content only there. -/
theorem Travels.content_other (travels : Travels volume deeds later) (sound : volume.writeBack.Sound)
    (there : ∀ address block, .sets address block ∈ deeds → address = sector) {other : Word} (elsewhere : other ≠ sector) :
    later.content other = volume.content other := by
  rw [Volume.content, travels.path.content sound]
  have kept : ∀ content : Word → Sector, deeds.foldl Deed.apply content other = content other := by
    clear travels
    induction deeds with
    | nil => exact fun _ => rfl
    | cons deed deeds ih =>
      intro content
      rw [List.foldl_cons, ih fun address block isIn => there address block (List.mem_cons_of_mem deed isIn)]
      cases deed with
      | keeps => rfl
      | claims => rfl
      | sets address block =>
        obtain rfl := there address block List.mem_cons_self
        exact Function.update_of_ne elsewhere block content
  exact kept _

/-! ## Opening -/

/-- The locks on a sector are the files' own. -/
theorem travels_lockFor : Travels volume [] (volume.lockFor slot flags) where
  path := by
    rw [writeBack_lockFor]
    exact .nil _
  outside := by rw [Volume.lockFor]; split <;> rfl
  balance := by
    rw [Volume.balance, Volume.balance, writeBack_lockFor, Volume.lockFor]
    split <;> rfl
  flushing := by rw [Volume.lockFor]; split <;> exact id

theorem travels_retainFor : Travels volume [] (volume.retainFor slot flags) where
  path := by
    rw [writeBack_retainFor]
    exact .nil _
  outside := by rw [Volume.retainFor]; split <;> rfl
  balance := by
    rw [Volume.balance, Volume.balance, writeBack_retainFor, Volume.retainFor]
    split <;> rfl
  flushing := by rw [Volume.retainFor]; split <;> exact id

theorem Travels.trans {mid : Volume} {more : List (Deed Slot Word Sector)} (first : Travels volume deeds mid)
    (second : Travels mid more later) : Travels volume (deeds ++ more) later :=
  ⟨first.path.append second.path, second.outside.trans first.outside, second.balance.trans first.balance,
    second.flushing ∘ first.flushing⟩

theorem Opened.travels (opened : Opened sector flags volume result later) :
    ∃ deeds, Travels volume deeds later ∧ ∀ deed ∈ deeds, OpenDeed sector flags deed := by
  obtain ⟨deeds, mid, moves, allowed, -, ends⟩ := opened.moves
  refine ⟨deeds, ?_, allowed⟩
  cases found : result.2 with
  | none =>
    simp only [found] at ends
    exact ends ▸ moves.toTravels
  | some slot =>
    simp only [found] at ends
    rw [ends]
    simpa using (moves.toTravels.trans travels_lockFor).trans travels_retainFor

theorem Opened.coherent (opened : Opened sector flags volume result later) (coherent : volume.Coherent) :
    later.Coherent := by
  obtain ⟨deeds, travels, -⟩ := opened.travels
  exact travels.coherent coherent

theorem Opened.content (opened : Opened sector flags volume result later) (sound : volume.writeBack.Sound)
    (reads : flags.read = true) : later.content = volume.content := by
  obtain ⟨deeds, travels, allowed⟩ := opened.travels
  apply travels.content sound
  rintro _ isIn address block rfl
  have deed := allowed _ isIn
  rw [OpenDeed, reads] at deed
  exact absurd deed.2.1 (by decide)

theorem Opened.content_other (opened : Opened sector flags volume result later) (sound : volume.writeBack.Sound)
    {other : Word} (elsewhere : other ≠ sector) : later.content other = volume.content other := by
  obtain ⟨deeds, travels, allowed⟩ := opened.travels
  exact travels.content_other sound (fun address block isIn => (allowed _ isIn).1) elsewhere

/-! ## Events -/

/-- What an event makes of the content.  A sector that is opened to be written but not read may then
    hold anything. -/
def CacheEvent.Contents (volume later : Volume) : CacheEvent → Prop
  | .cacheSector sector flags =>
    if flags.read then later.content = volume.content
    else ∀ other, other ≠ sector → later.content other = volume.content other
  | .change slot block =>
    later.content = Function.update volume.content (volume.afatfs.cacheDescriptor slot).sectorIndex block
  | _ => later.content = volume.content

/-- A sector that was opened is in the slot, and one that was opened to be read as it should be. -/
def CacheEvent.Shows (event : CacheEvent) (answer : CacheAnswer) (later : Volume) : Prop :=
  match event, answer with
  | .cacheSector sector flags, .opened .success slot =>
    ∃ i, slot = some i ∧ later.writeBack.Holds i sector ∧ later.afatfs.cache i = later.content sector ∧
      (flags.write = true → (later.afatfs.cacheDescriptor i).state = .dirty)
  | _, _ => True

theorem Volume.Coherent.content_of_holds (coherent : volume.Coherent) (holds : volume.writeBack.Holds slot sector) :
    volume.content sector = volume.afatfs.cache slot :=
  coherent.sound.content_of_holds holds

/-- A dirty sector that is changed. -/
theorem travels_change (block : Sector) (dirty : (volume.afatfs.cacheDescriptor slot).state = .dirty) :
    Travels volume [.sets (volume.afatfs.cacheDescriptor slot).sectorIndex block]
      { volume with afatfs := volume.afatfs.setMemory slot block } :=
  ⟨.single (.modify slot block (phase_eq_dirty.mpr dirty)), rfl, rfl, id⟩

theorem valid_of_state (used : (volume.afatfs.cacheDescriptor slot).state ≠ .empty)
    (read : (volume.afatfs.cacheDescriptor slot).state ≠ .reading) : (volume.writeBack.phase slot).Valid := by
  simp only [Volume.writeBack, Phase.Valid, phase_eq_clean, phase_eq_writing, phase_eq_dirty]
  cases state : (volume.afatfs.cacheDescriptor slot).state with
  | empty => exact absurd state used
  | reading => exact absurd state read
  | inSync => exact .inl rfl
  | writing => exact .inr (.inl rfl)
  | dirty => exact .inr (.inr rfl)

/-- A descriptor that changes only in its locks. -/
theorem writeBack_setDescriptor {descriptor : CacheBlockDescriptor}
    (same : descriptor.sectorIndex = (volume.afatfs.cacheDescriptor slot).sectorIndex)
    (state : descriptor.state = (volume.afatfs.cacheDescriptor slot).state) :
    ({ volume with afatfs := volume.afatfs.setDescriptor slot descriptor } : Volume).writeBack = volume.writeBack :=
  writeBack_of_kept rfl rfl rfl rfl same state

theorem travels_setDescriptor {descriptor : CacheBlockDescriptor}
    (same : descriptor.sectorIndex = (volume.afatfs.cacheDescriptor slot).sectorIndex)
    (state : descriptor.state = (volume.afatfs.cacheDescriptor slot).state) :
    Travels volume [] { volume with afatfs := volume.afatfs.setDescriptor slot descriptor } := by
  have kept := writeBack_setDescriptor same state
  refine ⟨by rw [kept]; exact .nil _, rfl, ?_, id⟩
  rw [Volume.balance, Volume.balance, kept]
  rfl

/-- The rule of an event. -/
theorem wp_event (coherent : volume.Coherent) (allowed : event.Allowed volume) :
    Wp event.run (fun answer later => later.Coherent ∧ event.Contents volume later ∧ event.Shows answer later) volume := by
  have sound := coherent.sound
  -- of all events only a change of a sector changes a content, and a sector that is got for writing only
  cases event with
  | cacheSector sector flags =>
    apply Wp.bind
    apply (wp_cacheSector sound).mono
    intro result later opened
    have after := opened.coherent coherent
    refine (wp_pure _).mpr ⟨after, ?_, ?_⟩
    · rw [CacheEvent.Contents]
      split_ifs with reads
      · exact opened.content sound reads
      · exact fun other elsewhere => opened.content_other sound elsewhere
    · obtain ⟨status, slot⟩ := result
      cases status with
      | success =>
        obtain ⟨i, isSlot, holds, dirty, -⟩ := opened.hit rfl
        exact ⟨i, isSlot, holds allowed, (after.content_of_holds (holds allowed)).symm, dirty⟩
      | inProgress => trivial
      | failure => trivial
  | change slot block =>
    have travels := travels_change block allowed
    refine (wp_modify_bind _).mpr ((wp_pure _).mpr ⟨travels.coherent coherent, ?_, trivial⟩)
    exact travels.path.content sound
  | markDirty slot =>
    have moves : Moves volume [.keeps] (volume.markDirty slot) :=
      .markDirty (by simp) (.soil slot (valid_of_state allowed.1 allowed.2))
    refine (wp_modify_bind _).mpr ((wp_pure _).mpr ⟨moves.toTravels.coherent coherent, ?_, trivial⟩)
    exact moves.toTravels.content sound (by simp)
  | unlock slot =>
    have travels : Travels volume [] { volume with afatfs := volume.afatfs.unlock slot } := travels_setDescriptor rfl rfl
    refine (wp_modify_bind _).mpr ((wp_pure _).mpr ⟨travels.coherent coherent, ?_, trivial⟩)
    exact travels.content sound (by simp)
  | release slot =>
    have travels : Travels volume [] { volume with afatfs := volume.afatfs.release slot } := travels_setDescriptor rfl rfl
    refine (wp_modify_bind _).mpr ((wp_pure _).mpr ⟨travels.coherent coherent, ?_, trivial⟩)
    exact travels.content sound (by simp)
  | flush =>
    apply Wp.bind
    apply wp_flush.mono
    rintro all later ⟨deeds, moves, keeps⟩
    refine (wp_pure _).mpr ⟨moves.toTravels.coherent coherent, ?_, trivial⟩
    exact moves.toTravels.content sound (by rintro _ isIn _ _ rfl; cases keeps _ isIn)
  | completes success stored =>
    apply Wp.bind
    apply (wp_cardCompletes sound).mono
    rintro _ later ⟨deeds, moves, keeps⟩
    refine (wp_pure _).mpr ⟨moves.toTravels.coherent coherent, ?_, trivial⟩
    exact moves.toTravels.content sound (by rintro _ isIn _ _ rfl; cases keeps _ isIn)

/-! ## Runs -/

@[simp] theorem phase_start (store : Word → Sector) : (Volume.start store).writeBack.phase slot = .empty := rfl

theorem coherent_start (store : Word → Sector) : (Volume.start store).Coherent where
  sound := by
    constructor
    · simp
    · simp
    · simp
    · simp
    · intro flight flying
      cases flying
    · intro flight flying
      cases flying
  balance := by
    have clean : (Volume.start store).writeBack.dirtyCount = 0 := WriteBack.dirtyCount_eq_zero.mpr (by simp)
    rw [Volume.balance, clean]
    rfl
  flushing := rfl

/-- What a step of the machine is. -/
theorem cacheStep_eq_some {draws : List CardAnswer} (steps : cacheStep volume (event, draws) = some later) :
    event.Allowed volume ∧ ∃ answer rest, event.run (volume, draws) = .ok (answer, later, rest) := by
  rw [cacheStep] at steps
  split_ifs at steps with allowed
  refine ⟨allowed, ?_⟩
  cases ran : exec event.run draws volume with
  | error stop => simp [ran] at steps
  | ok reached =>
    obtain rfl : reached = later := by simpa [ran] using steps
    exact exec_eq_ok.mp ran

theorem coherent_step {event : CacheEvent × List CardAnswer} (coherent : volume.Coherent)
    (steps : cacheStep volume event = some later) : later.Coherent := by
  obtain ⟨allowed, answer, rest, ran⟩ := cacheStep_eq_some steps
  exact ((wp_event coherent allowed).wlp.returns ran).1

theorem coherent_run {events : List (CacheEvent × List CardAnswer)} (coherent : volume.Coherent)
    (run : events.foldlM cacheStep volume = some later) : later.Coherent :=
  Along.reached (Along.of_invariant (fun _ => True) trivial fun _ _ _ => ⟨trivial, fun _ _ => trivial⟩)
    Volume.Coherent coherent (fun _ _ coherent _ _ steps => coherent_step coherent steps) run

/-- What was last written to a sector is what is read from it: nothing but a change of a sector, or
    opening it to be overwritten, changes the content of any, and a sector that was opened is in its slot. -/
theorem cache_coherent (store : Word → Sector) (events : List (CacheEvent × List CardAnswer)) :
    (Volume.start store).content = store ∧
      Along cacheStep (fun volume event => event.1.Allowed volume →
        ∀ answer later rest, event.1.run (volume, event.2) = .ok (answer, later, rest) →
          event.1.Contents volume later ∧ event.1.Shows answer later) events (Volume.start store) := by
  have start := coherent_start store
  constructor
  · exact (start.sound.settled (by simp)).symm
  · apply Along.of_invariant Volume.Coherent start
    intro volume event coherent
    refine ⟨?_, fun later steps => coherent_step coherent steps⟩
    intro allowed answer later rest ran
    exact ((wp_event coherent allowed).wlp.returns ran).2

/-! ## Durability -/

/-- `afatfs_flush` returns true only where every dirty sector is locked, and then it has done nothing. -/
theorem wp_flush_all (coherent : volume.Coherent) :
    Wp flush (fun all later => all = true →
      later = volume ∧ ∀ slot, ¬ (volume.afatfs.cacheDescriptor slot).Writable) volume := by
  rw [flush, wp_get_bind]
  split_ifs with some
  · cases chosen : volume.afatfs.earliestSector with
    | none => exact (wp_pure _).mpr fun _ => ⟨rfl, earliestSector_none chosen⟩
    | some slot =>
      obtain ⟨⟨dirty, unlocked⟩, -⟩ := earliestSector_some chosen
      apply Wp.bind
      apply (wp_cacheFlushSector dirty unlocked).mono
      intro _ later _
      exact (wp_pure false).mpr (by simp)
  · refine (wp_pure true).mpr fun _ => ⟨rfl, ?_⟩
    intro slot writable
    have counted : volume.writeBack.dirtyCount = 0 := by
      have balance := coherent.balance
      rw [Volume.balance] at balance
      omega
    exact WriteBack.dirtyCount_eq_zero.mp counted slot (phase_eq_dirty.mpr writable.1)

/-- With nothing locked, no flush in progress and nothing left to flush the card has the content: what
    `afatfs_destroy` waits for before it forgets the cache. -/
theorem flush_durable {store : Word → Sector} {events : List (CacheEvent × List CardAnswer)}
    (run : events.foldlM cacheStep (Volume.start store) = some volume)
    (unlocked : ∀ slot, (volume.afatfs.cacheDescriptor slot).locked = false)
    (idle : volume.afatfs.cacheFlushInProgress = false) {draws rest : List CardAnswer}
    (flushed : flush (volume, draws) = .ok (true, later, rest)) :
    later = volume ∧ volume.afatfs.cacheDirtyEntries = 0 ∧ volume.store = volume.content := by
  have coherent := coherent_run (coherent_start store) run
  obtain ⟨rfl, clean⟩ := (wp_flush_all coherent).wlp.returns flushed rfl
  have notDirty : ∀ slot, later.writeBack.phase slot ≠ .dirty := fun slot dirty =>
    clean slot ⟨phase_eq_dirty.mp dirty, unlocked slot⟩
  have notWriting : ∀ slot, later.writeBack.phase slot ≠ .writing := by
    intro slot writing
    have flushing : later.afatfs.cacheFlushInProgress = later.flight.any Flight.writes := coherent.flushing
    rw [show later.flight = _ from coherent.sound.writing slot writing, idle] at flushing
    cases flushing
  refine ⟨rfl, ?_, coherent.sound.settled fun slot => ⟨notDirty slot, notWriting slot⟩⟩
  have balance := coherent.balance
  rw [Volume.balance, WriteBack.dirtyCount_eq_zero.mpr notDirty] at balance
  omega

/-- The card begins to write. -/
def cardWrites : CardAnswer := ⟨true, .inProgress, fun _ => 0⟩

/-- A sector is opened in the last slot, changed and written to the card. -/
def writesSector : List (CacheEvent × List CardAnswer) :=
  [(.cacheSector 3 { write := true }, []), (.change (Fin.last 7) fun _ => 7, []),
    (.flush, [cardWrites]), (.completes true fun _ => 0, [])]

theorem flush_durable_writesSector :
    ∃ volume later rest, writesSector.foldlM cacheStep (Volume.start fun _ _ => 0) = some volume ∧
      flush (volume, []) = .ok (true, later, rest) ∧
      later = volume ∧ volume.afatfs.cacheDirtyEntries = 0 ∧ volume.store = volume.content := by
  obtain ⟨volume, later, rest, run, unlocked, idle, flushed⟩ : ∃ volume later rest,
      writesSector.foldlM cacheStep (Volume.start fun _ _ => 0) = some volume ∧
        (∀ slot, (volume.afatfs.cacheDescriptor slot).locked = false) ∧
        volume.afatfs.cacheFlushInProgress = false ∧ flush (volume, []) = .ok (true, later, rest) :=
    ⟨_, _, _, rfl, by decide, rfl, rfl⟩
  exact ⟨volume, later, rest, run, flushed, flush_durable run unlocked idle flushed⟩

/-! ## Pins -/

/-- The slot has the sector for a file. -/
structure Volume.Pins (volume : Volume) (slot : Slot) (sector : Word) : Prop where
  holds : volume.writeBack.Holds slot sector
  pinned : (volume.afatfs.cacheDescriptor slot).Pinned

/-- The files do not give up the slot, and no 64 of them retain it. -/
def CacheEvent.Respects (slot : Slot) (volume : Volume) : CacheEvent → Prop
  | .unlock other => other ≠ slot
  | .release other => other ≠ slot
  | .cacheSector _ flags => flags.retain = true → (volume.afatfs.cacheDescriptor slot).retainCount ≠ 63
  | _ => True

/-- A slot with the sector of a file is not taken. -/
theorem Moves.pins (moves : Moves volume deeds later) (sound : volume.writeBack.Sound) (pins : volume.Pins slot sector) :
    later.Pins slot sector ∧
      (later.afatfs.cacheDescriptor slot).retainCount = (volume.afatfs.cacheDescriptor slot).retainCount := by
  obtain ⟨holds, pinned⟩ := pins
  have kept : .claims slot ∉ deeds := by
    intro claimed
    obtain empty | ⟨-, unlocked, unretained⟩ := moves.claims slot claimed
    · exact holds.2.used (phase_eq_empty.mpr empty)
    · obtain locked | retained := pinned
      · simp [unlocked] at locked
      · exact retained unretained
  have stays := moves.stays slot kept
  exact ⟨⟨moves.path.holds sound holds kept, stays.pinned.mpr pinned⟩, stays.retained⟩

/-- A slot that is not the one of the event keeps its locks. -/
theorem pins_of_setDescriptor {descriptor : CacheBlockDescriptor} {other : Slot} (pins : volume.Pins slot sector)
    (elsewhere : other ≠ slot) (same : descriptor.sectorIndex = (volume.afatfs.cacheDescriptor other).sectorIndex)
    (state : descriptor.state = (volume.afatfs.cacheDescriptor other).state) :
    Volume.Pins { volume with afatfs := volume.afatfs.setDescriptor other descriptor } slot sector := by
  obtain ⟨holds, pinned⟩ := pins
  refine ⟨?_, by simpa [Afatfs.setDescriptor, elsewhere.symm] using pinned⟩
  rw [writeBack_setDescriptor same state]
  exact holds

theorem pins_retain {other : Slot} (pins : volume.Pins slot sector)
    (room : (volume.afatfs.cacheDescriptor slot).retainCount ≠ 63) : (volume.retain other).Pins slot sector := by
  by_cases here : other = slot
  · subst here
    refine ⟨by simpa using pins.holds, .inr ?_⟩
    simp only [Volume.retain, Afatfs.setDescriptor, Function.update_self]
    intro overflows
    apply room
    bv_omega
  · exact pins_of_setDescriptor pins here rfl rfl

theorem lockFor_retainCount {other : Slot} :
    ((volume.lockFor other flags).afatfs.cacheDescriptor slot).retainCount =
      (volume.afatfs.cacheDescriptor slot).retainCount := by
  rw [Volume.lockFor]
  split
  · by_cases here : slot = other
    · subst here
      simp [Volume.lock, Afatfs.setDescriptor]
    · simp [Volume.lock, Afatfs.setDescriptor, here]
  · rfl

theorem pins_lockFor {other : Slot} (pins : volume.Pins slot sector) : (volume.lockFor other flags).Pins slot sector := by
  refine ⟨by rw [writeBack_lockFor]; exact pins.holds, ?_⟩
  obtain locked | retained := pins.pinned
  · refine .inl ?_
    rw [Volume.lockFor]
    split
    · by_cases here : slot = other
      · subst here
        simp [Volume.lock, Afatfs.setDescriptor]
      · simpa [Volume.lock, Afatfs.setDescriptor, here] using locked
    · exact locked
  · exact .inr (by rwa [lockFor_retainCount])

theorem wp_event_pins (coherent : volume.Coherent) (allowed : event.Allowed volume) (respects : event.Respects slot volume)
    (pins : volume.Pins slot sector) : Wp event.run (fun _ later => later.Pins slot sector) volume := by
  have sound := coherent.sound
  cases event with
  | cacheSector other flags =>
    apply Wp.bind
    apply (wp_cacheSector sound).mono
    intro result later opened
    refine (wp_pure _).mpr ?_
    obtain ⟨deeds, mid, moves, -, -, ends⟩ := opened.moves
    obtain ⟨kept, count⟩ := moves.pins sound pins
    cases found : result.2 with
    | none =>
      simp only [found] at ends
      exact ends ▸ kept
    | some i =>
      simp only [found] at ends
      rw [ends, Volume.retainFor]
      have locked : (mid.lockFor i flags).Pins slot sector := pins_lockFor kept
      split_ifs with retains
      · refine pins_retain locked ?_
        rw [lockFor_retainCount, count]
        exact respects retains
      · exact locked
  | change other block =>
    refine (wp_modify_bind _).mpr ((wp_pure _).mpr ⟨?_, pins.pinned⟩)
    exact (travels_change _ allowed).path.holds sound pins.holds (by simp)
  | markDirty other =>
    have moves : Moves volume [.keeps] (volume.markDirty other) :=
      .markDirty (by simp) (.soil other (valid_of_state allowed.1 allowed.2))
    exact (wp_modify_bind _).mpr ((wp_pure _).mpr (moves.pins sound pins).1)
  | unlock other =>
    exact (wp_modify_bind _).mpr ((wp_pure _).mpr (pins_of_setDescriptor pins respects rfl rfl))
  | release other =>
    exact (wp_modify_bind _).mpr ((wp_pure _).mpr (pins_of_setDescriptor pins respects rfl rfl))
  | flush =>
    apply Wp.bind
    apply wp_flush.mono
    rintro all later ⟨deeds, moves, -⟩
    exact (wp_pure _).mpr (moves.pins sound pins).1
  | completes success stored =>
    apply Wp.bind
    apply (wp_cardCompletes sound).mono
    rintro _ later ⟨deeds, moves, -⟩
    exact (wp_pure _).mpr (moves.pins sound pins).1

/-- A sector that a file has locked or retained stays in its slot, with what was last written to it,
    whatever the other files and the card do meanwhile. -/
theorem pinned_sector_stays {store : Word → Sector} {before after : List (CacheEvent × List CardAnswer)}
    (reached : before.foldlM cacheStep (Volume.start store) = some volume) (pins : volume.Pins slot sector)
    (respects : Along cacheStep (fun volume event => event.1.Respects slot volume) after volume)
    (run : after.foldlM cacheStep volume = some later) :
    later.Pins slot sector ∧ later.afatfs.cache slot = later.content sector := by
  have kept : later.Coherent ∧ later.Pins slot sector := by
    apply respects.reached (fun volume => volume.Coherent ∧ volume.Pins slot sector)
      ⟨coherent_run (coherent_start store) reached, pins⟩ _ run
    rintro volume ⟨event, draws⟩ ⟨coherent, pins⟩ respects next steps
    refine ⟨coherent_step coherent steps, ?_⟩
    obtain ⟨allowed, answer, rest, ran⟩ := cacheStep_eq_some steps
    exact (wp_event_pins coherent allowed respects pins).wlp.returns ran
  exact ⟨kept.2, (kept.1.content_of_holds kept.2.holds).symm⟩

/-- A sector is locked in the last slot and changed. -/
def locksSector : List (CacheEvent × List CardAnswer) :=
  [(.cacheSector 3 { write := true, lock := true }, []), (.change (Fin.last 7) fun _ => 7, [])]

theorem pinned_sector_stays_locksSector :
    ∃ volume later, locksSector.foldlM cacheStep (Volume.start fun _ _ => 0) = some volume ∧
      writesSector.foldlM cacheStep volume = some later ∧
      later.Pins (Fin.last 7) 3 ∧ later.afatfs.cache (Fin.last 7) = later.content 3 := by
  obtain ⟨volume, later, reached, pins, run⟩ : ∃ volume later,
      locksSector.foldlM cacheStep (Volume.start fun _ _ => 0) = some volume ∧ volume.Pins (Fin.last 7) 3 ∧
        writesSector.foldlM cacheStep volume = some later :=
    ⟨_, _, rfl, ⟨⟨rfl, .inr (.inr rfl)⟩, .inl rfl⟩, rfl⟩
  exact ⟨volume, later, reached, run, pinned_sector_stays reached pins (by simp [writesSector, CacheEvent.Respects]) run⟩

/-! ## Use by the files -/

/-- Nothing is taken from the files: what they have locked or retained stays so, and nothing else is
    locked or retained. -/
structure Keeps (volume later : Volume) : Prop where
  pins : ∀ slot sector, volume.Pins slot sector → later.Pins slot sector
  dirty : ∀ slot sector, volume.Pins slot sector → (volume.afatfs.cacheDescriptor slot).locked = true →
    (volume.afatfs.cacheDescriptor slot).state = .dirty → (later.afatfs.cacheDescriptor slot).state = .dirty
  locks : ∀ slot, (later.afatfs.cacheDescriptor slot).Pinned →
    (later.afatfs.cacheDescriptor slot).locked = (volume.afatfs.cacheDescriptor slot).locked ∧
      (later.afatfs.cacheDescriptor slot).retainCount = (volume.afatfs.cacheDescriptor slot).retainCount

theorem Keeps.refl (volume : Volume) : Keeps volume volume :=
  ⟨fun _ _ => id, fun _ _ _ _ => id, fun _ _ => ⟨rfl, rfl⟩⟩

theorem Keeps.trans {mid : Volume} (first : Keeps volume mid) (second : Keeps mid later) : Keeps volume later where
  pins slot sector pins := second.pins slot sector (first.pins slot sector pins)
  dirty slot sector pins locked dirty := by
    have between := first.pins slot sector pins
    refine second.dirty slot sector between ?_ (first.dirty slot sector pins locked dirty)
    rw [(first.locks slot between.pinned).1, locked]
  locks slot pinned := by
    obtain ⟨locked, retained⟩ := second.locks slot pinned
    have between : (mid.afatfs.cacheDescriptor slot).Pinned := by
      rwa [CacheBlockDescriptor.Pinned, ← locked, ← retained]
    obtain ⟨locked', retained'⟩ := first.locks slot between
    exact ⟨locked.trans locked', retained.trans retained'⟩

theorem Moves.keeps (moves : Moves volume deeds later) (sound : volume.writeBack.Sound) : Keeps volume later where
  pins slot sector pins := (moves.pins sound pins).1
  dirty slot sector pins locked dirty := by
    by_cases claimed : .claims slot ∈ deeds
    · exact absurd (moves.pins sound pins).1.pinned (moves.fresh slot claimed)
    · exact (moves.stays slot claimed).dirty locked dirty
  locks slot pinned := by
    by_cases claimed : .claims slot ∈ deeds
    · exact absurd pinned (moves.fresh slot claimed)
    · exact ⟨(moves.stays slot claimed).locked, (moves.stays slot claimed).retained⟩

/-- The cache has gone on from `volume` to `later`, where the sectors have this content. -/
structure Turns (volume : Volume) (content : Word → Sector) (later : Volume) : Prop where
  coherent : later.Coherent
  content : later.content = content
  outside : later.afatfs.outside = volume.afatfs.outside
  keeps : Keeps volume later

namespace Turns

variable {mid : Volume} {content content' : Word → Sector}

theorem refl (coherent : volume.Coherent) : Turns volume volume.content volume := ⟨coherent, rfl, rfl, .refl volume⟩

theorem trans (first : Turns volume content mid) (second : Turns mid content' later) : Turns volume content' later :=
  ⟨second.coherent, second.content, second.outside.trans first.outside, first.keeps.trans second.keeps⟩

/-- What is not the cache's own has stayed. -/
theorem same {α : Sort*} (turns : Turns volume content later) (value : Afatfs → α)
    (own : ∀ afatfs, value afatfs.outside = value afatfs) : value later.afatfs = value volume.afatfs :=
  Afatfs.congr_outside value own turns.outside

/-- A sector that is dirty is changed in the cache. -/
theorem change {block : Sector} (turns : Turns volume content later) (holds : later.writeBack.Holds slot sector)
    (dirty : (later.afatfs.cacheDescriptor slot).state = .dirty) :
    Turns volume (Function.update content sector block)
      { later with afatfs := later.afatfs.setMemory slot block } := by
  have travels := travels_change block dirty
  refine ⟨travels.coherent turns.coherent, ?_, turns.outside, ?_⟩
  · have changed := travels.path.content turns.coherent.sound
    rw [List.foldl_cons, List.foldl_nil] at changed
    change Volume.content _ = Function.update later.content (later.afatfs.cacheDescriptor slot).sectorIndex block at changed
    rw [changed, turns.content]
    congr 1
    exact holds.1
  · refine turns.keeps.trans ⟨?_, fun _ _ _ _ => id, fun _ _ => ⟨rfl, rfl⟩⟩
    exact fun _ _ pins => ⟨travels.path.holds turns.coherent.sound pins.holds (by simp), pins.pinned⟩

end Turns

/-- What opening a sector does before it is locked and retained. -/
theorem Opened.mid (opened : Opened sector flags volume result later) (coherent : volume.Coherent) :
    ∃ mid content, Turns volume content mid ∧ (flags.read = true ∨ result.2 = none → content = volume.content) ∧
      (∀ other, other ≠ sector → content other = volume.content other) ∧
      match result.2 with
      | none => later = mid
      | some slot => later = (mid.lockFor slot flags).retainFor slot flags := by
  obtain ⟨deeds, mid, moves, allowed, quiet, ends⟩ := opened.moves
  have sound := coherent.sound
  have travels := moves.toTravels
  refine ⟨mid, mid.content, ⟨travels.coherent coherent, rfl, travels.outside, moves.keeps sound⟩, ?_, ?_, ends⟩
  · rintro (reads | missed)
    · apply travels.content sound
      rintro _ isIn address block rfl
      have deed := allowed _ isIn
      rw [OpenDeed, reads] at deed
      exact absurd deed.2.1 (by decide)
    · exact travels.content sound (quiet missed)
  · intro other elsewhere
    exact travels.content_other sound (fun address block isIn => (allowed _ isIn).1) elsewhere

/-- A sector that is opened to be read, and neither locked nor retained. -/
theorem Opened.turns (opened : Opened sector flags volume result later) (coherent : volume.Coherent)
    (reads : flags.read = true) (unlocked : flags.lock = false) (unretained : flags.retain = false) :
    Turns volume volume.content later := by
  obtain ⟨mid, content, turns, same, -, ends⟩ := opened.mid coherent
  obtain rfl := same (.inl reads)
  cases found : result.2 with
  | none =>
    simp only [found] at ends
    exact ends ▸ turns
  | some slot =>
    simp only [found, Volume.lockFor, Volume.retainFor, unlocked, unretained, Bool.false_eq_true, if_false] at ends
    exact ends ▸ turns

end ComputerSystems.Fat
