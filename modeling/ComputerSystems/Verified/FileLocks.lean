import ComputerSystems.Verified.ClusterAllocation

/-! # Sectors that a file has locked

A file locks the sector at its cursor while it writes to it and retains it while it reads
it.  As the chains of the files are separate, no slot of the cache is locked or retained
by two of them, and a file may let go of its slots without regard to the others.
-/

namespace ComputerSystems.Fat

open ComputerSystems.Data Program

variable {volume later : Volume} {chains chains' : Owner → List Word} {file other : FileRef}
  {written : Word → Prop} {slot : Slot} {sector : Word}

/-! ## The sector at the cursor -/

/-- A file that has a sector locked is not about to change its chain. -/
theorem OperationOk.atRest {link : Word → Option Word} {size limit : Nat} {chain pending : List Word} {f : AfatfsFile}
    (good : OperationOk link size limit chain pending f) (locked : ¬ f.Unlocked) : AtRest link size chain pending f := by
  rw [OperationOk] at good
  split at good
  · exact good
  · exact absurd good.2 locked
  · exact good
  · exact absurd good.2.1 locked
  · exact absurd good.2 locked
  · exact absurd good.2 locked
  · exact absurd good.2 locked

/-- The cursor is in a cluster of the chain. -/
theorem CursorAt.inside {link : Word → Option Word} {size k : Nat} {chain : List Word} {f : AfatfsFile}
    (cursor : CursorAt link size chain f k) (leads : link f.cursorCluster ≠ none) : ∃ inside : k < chain.length,
      link f.cursorCluster = some chain[k] := by
  have here := cursor.here
  by_cases inside : k < chain.length
  · exact ⟨inside, by rw [here, List.getElem?_eq_getElem inside]⟩
  · rw [List.getElem?_eq_none (by omega)] at here
    exact absurd here leads

theorem FilesOk.isCluster (ok : FilesOk volume chains) {owner : Owner} {cluster : Word}
    (isIn : cluster ∈ chains owner) : volume.afatfs.IsCluster cluster :=
  (Afatfs.fatTable_ne_none ((ok.separate.threads owner).used cluster isIn)).1

/-- The sector at the cursor of a file is in one of its clusters. -/
theorem FilesOk.cursor_inCluster (ok : FilesOk volume chains) (normal : (volume.afatfs.files file).HasChain file)
    (rest : AtRest volume.afatfs.link volume.afatfs.clusterSize.toNat (chains (.file file)) (chains (.pending file))
      (volume.afatfs.files file)) (leads : volume.afatfs.link (volume.afatfs.files file).cursorCluster ≠ none) :
    (volume.afatfs.files file).cursorCluster ∈ chains (.file file) ∧
      volume.afatfs.InCluster (volume.afatfs.files file).cursorCluster (volume.afatfs.fileGetCursorPhysicalSector file) := by
  obtain ⟨-, k, cursor⟩ := rest
  obtain ⟨inside, here⟩ := cursor.inside leads
  have isIn : (volume.afatfs.files file).cursorCluster ∈ chains (.file file) := by
    rw [Afatfs.link_eq_some here]
    exact List.getElem_mem inside
  refine ⟨isIn, ?_⟩
  rw [fileGetCursorPhysicalSector_eq, Afatfs.cursorSector, if_neg normal.not_root]
  exact ok.geometry.inCluster_physical (ok.isCluster isIn) ok.geometry.sectorIndexInCluster_lt

/-- The slot is locked or retained by the file. -/
def AfatfsFile.Has (f : AfatfsFile) (slot : Slot) : Prop :=
  f.writeLockedCacheIndex = some slot ∨ f.readRetainCacheIndex = some slot

theorem AfatfsFile.Has.locked {f : AfatfsFile} (has : f.Has slot) : ¬ f.Unlocked := by
  rintro ⟨write, read⟩
  rcases has with locks | retains
  · rw [write] at locks
    cases locks
  · rw [read] at retains
    cases retains

theorem LocksOk.pins (locks : LocksOk volume file) (has : (volume.afatfs.files file).Has slot) :
    volume.Pins slot (volume.afatfs.fileGetCursorPhysicalSector file) := by
  rcases has with writes | reads
  · exact (locks.write slot writes).1
  · exact (locks.read slot reads).1

/-- The sector is one of the file. -/
def Volume.Inside (volume : Volume) (chains : Owner → List Word) (file : FileRef) (sector : Word) : Prop :=
  (volume.afatfs.files file).HasChain file ∧
      (∃ cluster ∈ chains (.file file), volume.afatfs.InCluster cluster sector) ∨
    (volume.afatfs.files file).IsRoot file ∧ volume.afatfs.InRoot sector

/-- The cursor is in front of the end of the file. -/
def Volume.Stands (volume : Volume) (file : FileRef) : Prop :=
  (volume.afatfs.files file).HasChain file ∧ volume.afatfs.link (volume.afatfs.files file).cursorCluster ≠ none ∨
    (volume.afatfs.files file).IsRoot file ∧ volume.afatfs.InRoot (volume.afatfs.fileGetCursorPhysicalSector file)

theorem Volume.Stands.hasSectors (stands : volume.Stands file) : (volume.afatfs.files file).HasSectors file :=
  stands.imp And.left And.left

theorem AfatfsFile.IsRoot.not_hasChain {f : AfatfsFile} (isRoot : f.IsRoot file) : ¬ f.HasChain file :=
  fun chained => chained.not_root isRoot.2

/-- The root directory has no clusters, and is not in the table. -/
theorem Afatfs.InCluster.not_inRoot {afatfs : Afatfs} {cluster : Word} (inside : afatfs.InCluster cluster sector) :
    ¬ afatfs.InRoot sector := by
  rintro ⟨-, high⟩
  have low := inside.1
  have more := Nat.le_add_right afatfs.clusterStartSector.toNat ((cluster.toNat - 2) * afatfs.sectorsPerCluster.toNat)
  omega

theorem Afatfs.InRoot.not_inTable {afatfs : Afatfs} (inside : afatfs.InRoot sector) : ¬ afatfs.InTable sector := by
  rintro ⟨-, high⟩
  have low := inside.1
  omega

theorem FilesOk.rootOk (ok : FilesOk volume chains) (isRoot : (volume.afatfs.files file).IsRoot file) : RootOk volume :=
  (ok.idle file isRoot.not_hasChain).root isRoot

theorem FilesOk.locksOk (ok : FilesOk volume chains) (isOpen : (volume.afatfs.files file).HasSectors file) :
    LocksOk volume file := by
  rcases isOpen with chained | isRoot
  · exact (ok.isOpen file chained).locks
  · have root := ok.rootOk isRoot
    obtain rfl := isRoot.1
    exact root.locks

theorem FilesOk.stands_inside (ok : FilesOk volume chains) (stands : volume.Stands file)
    (idle : (volume.afatfs.files file).operation = .none) :
    volume.Inside chains file (volume.afatfs.fileGetCursorPhysicalSector file) := by
  refine stands.imp (fun ⟨chained, leads⟩ => ⟨chained, ?_⟩) id
  have good := (ok.isOpen file chained).shape.operation
  rw [OperationOk, idle] at good
  exact ⟨_, ok.cursor_inCluster chained good leads⟩

/-- A file that has a slot is not behind its end. -/
theorem FilesOk.stands_of_has (ok : FilesOk volume chains) (isOpen : (volume.afatfs.files file).HasSectors file)
    (has : (volume.afatfs.files file).Has slot) : volume.Stands file := by
  refine isOpen.imp (fun chained => ⟨chained, ?_⟩) fun isRoot => ⟨isRoot, ?_⟩
  · exact (ok.isOpen file chained).shape.inside.resolve_left has.locked
  · have root := ok.rootOk isRoot
    obtain rfl := isRoot.1
    exact root.inside.resolve_left fun free => has.locked ⟨root.write, free⟩

/-- A file that has a slot is not being opened. -/
theorem FilesOk.opening_of_has (ok : FilesOk volume chains) (chained : (volume.afatfs.files file).HasChain file)
    (has : (volume.afatfs.files file).Has slot) : (volume.afatfs.files file).operation.opening = false := by
  have good := (ok.isOpen file chained).shape.operation
  cases operation : (volume.afatfs.files file).operation with
  | createFile opState =>
    rw [OperationOk, operation] at good
    exact absurd good.2 has.locked
  | _ => rfl

/-- What a slot that a file has holds is one of its sectors. -/
theorem FilesOk.has_inside (ok : FilesOk volume chains) (isOpen : (volume.afatfs.files file).HasSectors file)
    (has : (volume.afatfs.files file).Has slot) :
    volume.Inside chains file (volume.afatfs.fileGetCursorPhysicalSector file) := by
  obtain ⟨chained, leads⟩ | atRoot := ok.stands_of_has isOpen has
  · have rest := (ok.isOpen file chained).shape.operation.atRest has.locked
    exact .inl ⟨chained, _, ok.cursor_inCluster chained rest leads⟩
  · exact .inr atRoot

theorem FilesOk.has_inCluster (ok : FilesOk volume chains) (normal : (volume.afatfs.files file).HasChain file)
    (has : (volume.afatfs.files file).Has slot) :
    ∃ cluster ∈ chains (.file file), volume.afatfs.InCluster cluster (volume.afatfs.fileGetCursorPhysicalSector file) :=
  ((ok.has_inside (.inl normal) has).resolve_right fun atRoot => atRoot.1.not_hasChain normal).2

/-- A sector that two files have is in none. -/
theorem FilesOk.same_file (ok : FilesOk volume chains) (inside : volume.Inside chains file sector)
    (inside' : volume.Inside chains other sector) : file = other := by
  rcases inside with ⟨-, cluster, isIn, here⟩ | ⟨isRoot, here⟩
  · rcases inside' with ⟨-, cluster', isIn', there⟩ | ⟨-, there⟩
    · obtain rfl := ok.geometry.inCluster_unique (ok.isCluster isIn) (ok.isCluster isIn') here there
      by_contra different
      exact ok.separate.disjoint (.file file) (.file other) (by simpa using different) isIn isIn'
    · exact absurd there here.not_inRoot
  · rcases inside' with ⟨-, cluster', isIn', there⟩ | ⟨isRoot', -⟩
    · exact absurd here there.not_inRoot
    · exact isRoot.1.trans isRoot'.1.symm

/-- No slot is had by two files. -/
theorem FilesOk.has_unique (ok : FilesOk volume chains) (isOpen : (volume.afatfs.files file).HasSectors file)
    (isOpen' : (volume.afatfs.files other).HasSectors other) (has : (volume.afatfs.files file).Has slot)
    (has' : (volume.afatfs.files other).Has slot) : file = other := by
  have here := ((ok.locksOk isOpen).pins has).holds.1
  have there := ((ok.locksOk isOpen').pins has').holds.1
  apply ok.same_file (ok.has_inside isOpen has)
  rw [← here, there]
  exact ok.has_inside isOpen' has'

/-! ## Taking and letting go -/

/-- Two records that differ in their locks only. -/
def AfatfsFile.OtherLocks (f f' : AfatfsFile) : Prop :=
  ∃ writeLockedCacheIndex readRetainCacheIndex, f' = { f with writeLockedCacheIndex, readRetainCacheIndex }

theorem cursorSector_otherLocks (disk : later.afatfs.disk = volume.afatfs.disk)
    (record : (volume.afatfs.files file).OtherLocks (later.afatfs.files file)) :
    later.afatfs.fileGetCursorPhysicalSector file = volume.afatfs.fileGetCursorPhysicalSector file := by
  obtain ⟨write, read, record⟩ := record
  rw [fileGetCursorPhysicalSector_eq, fileGetCursorPhysicalSector_eq, record]
  exact Afatfs.congr_disk (fun afatfs => afatfs.cursorSector
    { volume.afatfs.files file with writeLockedCacheIndex := write, readRetainCacheIndex := read }) (fun _ => rfl) disk

/-- The file has taken slots or let go of slots, and nothing else has changed. -/
structure Relocks (file : FileRef) (volume later : Volume) : Prop where
  writeBack : later.writeBack = volume.writeBack
  entries : later.afatfs.cacheDirtyEntries = volume.afatfs.cacheDirtyEntries
  flushing : later.afatfs.cacheFlushInProgress = volume.afatfs.cacheFlushInProgress
  disk : later.afatfs.disk = volume.afatfs.disk
  hint : later.afatfs.lastClusterAllocated = volume.afatfs.lastClusterAllocated
  others : ∀ other, other ≠ file → later.afatfs.files other = volume.afatfs.files other
  record : (volume.afatfs.files file).OtherLocks (later.afatfs.files file)
  elsewhere : ∀ slot, ¬ (volume.afatfs.files file).Has slot → ¬ (later.afatfs.files file).Has slot →
    later.afatfs.cacheDescriptor slot = volume.afatfs.cacheDescriptor slot
  locks : ∀ slot, (later.afatfs.cacheDescriptor slot).locked = true →
    (volume.afatfs.cacheDescriptor slot).locked = true ∧ (volume.afatfs.files file).writeLockedCacheIndex ≠ some slot ∨
      (later.afatfs.files file).writeLockedCacheIndex = some slot
  retains : ∀ slot, (later.afatfs.cacheDescriptor slot).retainCount ≠ 0 →
    (later.afatfs.cacheDescriptor slot).retainCount = (volume.afatfs.cacheDescriptor slot).retainCount ∧
        (volume.afatfs.files file).readRetainCacheIndex ≠ some slot ∨
      (later.afatfs.cacheDescriptor slot).retainCount = 1 ∧ (later.afatfs.files file).readRetainCacheIndex = some slot

/-- What the operation of a file says of its cursor does not depend on its locks. -/
theorem OperationOk.congr {link : Word → Option Word} {size limit : Nat} {chain pending : List Word} {f f' : AfatfsFile}
    (good : OperationOk link size limit chain pending f) (operation : f'.operation = f.operation)
    (cluster : f'.cursorCluster = f.cursorCluster) (previous : f'.cursorPreviousCluster = f.cursorPreviousCluster)
    (offset : f'.cursorOffset = f.cursorOffset) (unlocked : f'.Unlocked ∨ f.operation = .none) :
    OperationOk link size limit chain pending f' := by
  rcases unlocked with unlocked | idle
  · rw [OperationOk] at good ⊢
    rw [operation]
    split at good
    · exact good.congr cluster previous offset
    · exact ⟨⟨good.1.1, good.1.2.1, good.1.2.2.1.congr cluster previous offset, good.1.2.2.2⟩, unlocked⟩
    · exact good.congr cluster previous offset
    · exact ⟨good.1.congr cluster previous offset, unlocked, by rw [offset]; exact good.2.2⟩
    · exact ⟨⟨⟨good.1.1.1, good.1.1.2.congr cluster previous offset⟩, good.1.2⟩, unlocked⟩
    · exact ⟨⟨⟨good.1.1.1, good.1.1.2.congr cluster previous offset⟩, good.1.2⟩, unlocked⟩
    · exact ⟨good.1.congr cluster previous offset, unlocked⟩
  · rw [OperationOk, idle] at good
    rw [OperationOk, operation, idle]
    exact good.congr cluster previous offset

namespace Relocks

theorem same_content (relocks : Relocks file volume later) : later.content = volume.content := by
  rw [Volume.content, Volume.content, relocks.writeBack]

theorem kind (relocks : Relocks file volume later) : SameKind (volume.afatfs.files file) (later.afatfs.files file) := by
  obtain ⟨write, read, record⟩ := relocks.record
  rw [record]
  exact ⟨rfl, rfl⟩

theorem isRoot (relocks : Relocks file volume later) :
    (later.afatfs.files file).IsRoot file ↔ (volume.afatfs.files file).IsRoot file := by
  rw [AfatfsFile.IsRoot, AfatfsFile.IsRoot, relocks.kind.type]

theorem coherent (relocks : Relocks file volume later) (coherent : volume.Coherent) : later.Coherent where
  sound := relocks.writeBack ▸ coherent.sound
  balance := by
    rw [Volume.balance, relocks.entries, relocks.writeBack]
    exact coherent.balance
  flushing := by
    have flight : later.flight = volume.flight := congrArg WriteBack.flight relocks.writeBack
    rw [Volume.FlushOk, relocks.flushing, flight]
    exact coherent.flushing

/-- The slots of the other files are theirs. -/
theorem apart (relocks : Relocks file volume later) (ok : FilesOk volume chains)
    (isOpen : (volume.afatfs.files file).HasSectors file) (isOpen' : (volume.afatfs.files other).HasSectors other)
    (mine : ∀ slot, (later.afatfs.files file).Has slot → volume.Inside chains file (volume.writeBack.address slot))
    (here : other ≠ file) (has : (volume.afatfs.files other).Has slot) :
    later.afatfs.cacheDescriptor slot = volume.afatfs.cacheDescriptor slot := by
  refine relocks.elsewhere slot (fun has' => here (ok.has_unique isOpen' isOpen has has')) fun has' => here ?_
  refine ok.same_file (ok.has_inside isOpen' has) ?_
  rw [← ((ok.locksOk isOpen').pins has).holds.1]
  exact mine slot has'

theorem locksOk_other (relocks : Relocks file volume later) (ok : FilesOk volume chains)
    (isOpen' : (volume.afatfs.files other).HasSectors other) (here : other ≠ file)
    (apart : ∀ slot, (volume.afatfs.files other).Has slot →
      later.afatfs.cacheDescriptor slot = volume.afatfs.cacheDescriptor slot) : LocksOk later other := by
  have same := relocks.others other here
  have locks := ok.locksOk isOpen'
  have pins : ∀ slot, (volume.afatfs.files other).Has slot →
      later.Pins slot (later.afatfs.fileGetCursorPhysicalSector other) := by
    intro slot has
    obtain ⟨holds, pinned⟩ := locks.pins has
    rw [cursorSector_congr relocks.disk same]
    exact ⟨relocks.writeBack ▸ holds, apart slot has ▸ pinned⟩
  constructor
  · intro slot writes
    rw [same] at writes
    refine ⟨pins slot (.inl writes), ?_⟩
    rw [apart slot (.inl writes)]
    exact (locks.write slot writes).2
  · intro slot reads
    rw [same] at reads
    refine ⟨pins slot (.inr reads), ?_⟩
    rw [apart slot (.inr reads)]
    exact (locks.read slot reads).2

/-- The file itself, if it has a chain. -/
theorem openOk (relocks : Relocks file volume later) (isOpen : OpenOk volume chains file) (locks : LocksOk later file)
    (inside : (later.afatfs.files file).Unlocked ∨
      (volume.afatfs.files file).operation = .none ∧ volume.afatfs.link (volume.afatfs.files file).cursorCluster ≠ none) :
    OpenOk later chains file := by
  obtain ⟨write, read, record⟩ := relocks.record
  have shape := isOpen.shape
  refine ⟨FileShape.congr ⟨?_, ?_, ?_, ?_, ?_, ?_⟩ relocks.disk, locks, ?_⟩
  · exact shape.operation.congr (by rw [record]) (by rw [record]) (by rw [record]) (by rw [record])
      (inside.imp id fun idle => idle.1)
  · rw [record]
    exact shape.physical
  · rw [record]
    exact shape.room
  · rw [record]
    exact shape.logical
  · rw [record]
    exact shape.directory
  · refine inside.imp id fun idle => ?_
    rw [record]
    exact idle.2
  · rw [record]
    exact fun opened => (isOpen.entry opened).congr relocks.disk (.refl chains)

/-- The file itself, if it is the root directory. -/
theorem idleOk (relocks : Relocks file volume later) (idle : IdleOk volume chains file)
    (isRoot : (volume.afatfs.files file).IsRoot file) (root : RootOk later) : IdleOk later chains file := by
  obtain ⟨write, read, record⟩ := relocks.record
  refine ⟨?_, idle.pending, fun elsewhere => absurd isRoot.1 elsewhere, fun _ => root⟩
  rw [record]
  exact idle.operation

/-- Another file, if it has a chain. -/
theorem openOk_other (relocks : Relocks file volume later) (isOpen : OpenOk volume chains other) (here : other ≠ file)
    (locks : LocksOk later other) : OpenOk later chains other := by
  have same := relocks.others other here
  refine ⟨?_, locks, ?_⟩
  · rw [same]
    exact isOpen.shape.congr relocks.disk
  · rw [same]
    exact fun opened => (isOpen.entry opened).congr relocks.disk (.refl chains)

/-- Another file, if it has none. -/
theorem idleOk_other (relocks : Relocks file volume later) (idle : IdleOk volume chains other) (here : other ≠ file)
    (locks : (volume.afatfs.files other).IsRoot other → LocksOk later other) : IdleOk later chains other := by
  have disk := relocks.disk
  have same := relocks.others other here
  refine ⟨by rw [same]; exact idle.operation, idle.pending, fun elsewhere used => ?_, fun isRoot => ?_⟩
  · rw [same] at used ⊢
    exact (idle.handle elsewhere used).congr disk (.refl chains)
  · rw [same] at isRoot
    have root := idle.root isRoot
    have locks' := locks isRoot
    obtain rfl := isRoot.1
    refine ⟨locks', by rw [same]; exact root.write, ?_⟩
    rw [same, cursorSector_congr disk same, Afatfs.congr_disk Afatfs.InRoot (fun _ => rfl) disk]
    exact root.inside

/-- A slot is locked by the file that has it. -/
theorem isLocked (relocks : Relocks file volume later) (ok : FilesOk volume chains)
    (writes : (later.afatfs.files file).writeLockedCacheIndex = none ∨ (volume.afatfs.files file).HasChain file)
    (locked : (later.afatfs.cacheDescriptor slot).locked = true) : ∃ file, later.Writes file slot := by
  obtain ⟨before, notOwn⟩ | own := relocks.locks slot locked
  · obtain ⟨other, chained, locks⟩ := ok.locked slot before
    have same := relocks.others other (by rintro rfl; exact notOwn locks)
    exact ⟨other, by rw [Volume.Writes, same]; exact ⟨chained, locks⟩⟩
  · refine ⟨file, relocks.kind.hasChain.mpr (writes.resolve_left fun none => ?_), own⟩
    rw [none] at own
    cases own

/-- A slot is retained once, by the file that has it. -/
theorem isRetained (relocks : Relocks file volume later) (ok : FilesOk volume chains)
    (isOpen : (volume.afatfs.files file).HasSectors file) (retained : (later.afatfs.cacheDescriptor slot).retainCount ≠ 0) :
    (later.afatfs.cacheDescriptor slot).retainCount = 1 ∧ ∃ file, later.Reads file slot := by
  obtain ⟨before, notOwn⟩ | ⟨once, own⟩ := relocks.retains slot retained
  · rw [before] at retained ⊢
    obtain ⟨once, other, isOpen', reads⟩ := ok.retained slot retained
    have same := relocks.others other (by rintro rfl; exact notOwn reads)
    exact ⟨once, other, by rw [Volume.Reads, same]; exact ⟨isOpen', reads⟩⟩
  · exact ⟨once, file, isOpen.imp relocks.kind.hasChain.mpr relocks.isRoot.mpr, own⟩

/-- What the file is to have taken is at its cursor. -/
theorem mine (relocks : Relocks file volume later) (ok : FilesOk volume chains) (locks : LocksOk later file)
    (inside : (later.afatfs.files file).Unlocked ∨ (volume.afatfs.files file).operation = .none ∧ volume.Stands file)
    (has : (later.afatfs.files file).Has slot) : volume.Inside chains file (volume.writeBack.address slot) := by
  obtain ⟨idle, stands⟩ := inside.resolve_left has.locked
  have holds := (locks.pins has).holds.1
  rw [relocks.writeBack, cursorSector_otherLocks relocks.disk relocks.record] at holds
  rw [holds]
  exact ok.stands_inside stands idle

end Relocks

/-- A file takes slots or lets go of slots, which does not concern the others. -/
theorem FilesOk.relocks (ok : FilesOk volume chains) (isOpen : (volume.afatfs.files file).HasSectors file)
    (relocks : Relocks file volume later) (locks : LocksOk later file)
    (writes : (later.afatfs.files file).writeLockedCacheIndex = none ∨ (volume.afatfs.files file).HasChain file)
    (inside : (later.afatfs.files file).Unlocked ∨
      (volume.afatfs.files file).operation = .none ∧ volume.Stands file) :
    Works file written volume chains later chains := by
  obtain ⟨write, read, record⟩ := relocks.record
  have disk := relocks.disk
  have content := relocks.same_content
  have hasChain : (later.afatfs.files file).HasChain file ↔ (volume.afatfs.files file).HasChain file := relocks.kind.hasChain
  have sectors : ∀ sector, volume.afatfs.InTable sector → later.content sector = volume.content sector :=
    fun sector _ => congrFun content sector
  -- no other file has a slot whose lock or count changes
  have apart {other : FileRef} (here : other ≠ file) (isOpen' : (volume.afatfs.files other).HasSectors other) :
      LocksOk later other :=
    relocks.locksOk_other ok isOpen' here fun slot =>
      relocks.apart ok isOpen isOpen' (fun _ has => relocks.mine ok locks inside has) here
  refine ⟨⟨relocks.coherent ok.coherent, ok.geometry.congr_disk disk, ?_, ?_, ?_, ?_, ?_, ?_,
      fun slot locked => relocks.isLocked ok writes locked, fun slot retained => relocks.isRetained ok isOpen retained⟩, disk,
    relocks.others, fun _ _ _ => rfl, by rw [record], by rw [record], by rw [record], fun sector _ _ _ _ => by rw [content],
    fun sector _ _ _ => by rw [content]; exact .refl _ _, ?_, fun _ => fatTable_congr ok.geometry disk sectors ▸ id⟩
  · rw [fatValue_congr ok.geometry disk sectors (by rw [show BitVec.toNat (1 : Word) = 1 from rfl]; omega)]
    exact ok.reserved
  · rw [relocks.hint, Afatfs.congr_disk (·.numClusters) (fun _ => rfl) disk]
    exact ok.hint
  · rw [fatTable_congr ok.geometry disk sectors, Afatfs.starts_same disk relocks.others hasChain (by rw [record])
      (by rw [record])]
    exact ok.separate
  · by_cases here : .currentDirectory = file
    · subst here
      rw [record]
      exact ok.still
    · rw [relocks.others _ here]
      exact ok.still
  · intro other chained
    by_cases here : other = file
    · subst here
      rw [hasChain] at chained
      refine relocks.openOk (ok.isOpen other chained) locks (inside.imp id fun ⟨idle, stands⟩ => ⟨idle, ?_⟩)
      exact (stands.resolve_right fun atRoot => atRoot.1.not_hasChain chained).2
    · rw [relocks.others other here] at chained
      exact relocks.openOk_other (ok.isOpen other chained) here (apart here (.inl chained))
  · intro other unchained
    by_cases here : other = file
    · subst here
      rw [hasChain] at unchained
      have isRoot := isOpen.resolve_left unchained
      refine relocks.idleOk (ok.idle other unchained) isRoot ?_
      obtain rfl := isRoot.1
      refine ⟨locks, writes.resolve_right unchained, ?_⟩
      rw [cursorSector_otherLocks disk relocks.record, Afatfs.congr_disk Afatfs.InRoot (fun _ => rfl) disk]
      exact inside.imp And.right fun ⟨_, stands⟩ => (stands.resolve_left fun atChain => unchained atChain.1).2
    · rw [relocks.others other here] at unchained
      exact relocks.idleOk_other (ok.idle other unchained) here fun isRoot => apart here (.inr isRoot)
  · intro records unsaved
    rw [record] at unsaved
    exact (records unsaved).keeps disk (by rw [record]) (fun _ => by rw [content]) (.inl (by rw [record]))

/-! ### Letting go -/

/-- The descriptor of a slot that the file may have. -/
def AfatfsFile.letGo (f : AfatfsFile) (slot : Slot) (descriptor : CacheBlockDescriptor) : CacheBlockDescriptor :=
  { descriptor with
    locked := if f.writeLockedCacheIndex = some slot then false else descriptor.locked
    retainCount :=
      if f.readRetainCacheIndex = some slot ∧ descriptor.retainCount ≠ 0 then descriptor.retainCount - 1
      else descriptor.retainCount }

theorem fileUnlockCacheSector_eq {afatfs : Afatfs} : afatfs.fileUnlockCacheSector file =
    { afatfs with
      cacheDescriptor := fun slot => (afatfs.files file).letGo slot (afatfs.cacheDescriptor slot)
      files := Function.update afatfs.files file
        { afatfs.files file with writeLockedCacheIndex := none, readRetainCacheIndex := none } } := by
  have unlocks : afatfs.unlockForWrite file =
      { afatfs with
        cacheDescriptor := fun slot => { afatfs.cacheDescriptor slot with
          locked := if (afatfs.files file).writeLockedCacheIndex = some slot then false
            else (afatfs.cacheDescriptor slot).locked }
        files := Function.update afatfs.files file { afatfs.files file with writeLockedCacheIndex := none } } := by
    rw [Afatfs.unlockForWrite]
    cases write : (afatfs.files file).writeLockedCacheIndex with
    | none =>
      simp only [reduceCtorEq, if_false]
      rw [← write, Function.update_eq_self]
    | some slot =>
      simp only [Afatfs.unlock, Afatfs.setDescriptor, Afatfs.updateFile]
      congr 1
      funext other
      by_cases here : other = slot
      · subst here
        simp
      · simp [here, Ne.symm here]
  -- the lock is gone when the count is lowered, so both are seen in one descriptor
  rw [Afatfs.fileUnlockCacheSector, unlocks, Afatfs.releaseForRead]
  simp only [Function.update_self]
  cases read : (afatfs.files file).readRetainCacheIndex with
  | none =>
    simp only [AfatfsFile.letGo, read, reduceCtorEq, false_and, if_false]
  | some slot =>
    simp only [Afatfs.release, Afatfs.setDescriptor, Afatfs.updateFile, AfatfsFile.letGo, read, Function.update_self,
      Function.update_idem]
    congr 1
    funext other
    by_cases here : other = slot
    · subst here
      simp
      split_ifs with zero
      · exact zero.symm
      · rfl
    · simp [here, Ne.symm here]

theorem relocks_fileUnlockCacheSector (once : ∀ slot, (volume.afatfs.cacheDescriptor slot).retainCount ≠ 0 →
    (volume.afatfs.cacheDescriptor slot).retainCount = 1) :
    Relocks file volume { volume with afatfs := volume.afatfs.fileUnlockCacheSector file } := by
  rw [fileUnlockCacheSector_eq]
  refine ⟨rfl, rfl, rfl, rfl, rfl, fun _ elsewhere => Function.update_of_ne elsewhere _ _,
    ⟨none, none, Function.update_self ..⟩, ?_, ?_, ?_⟩
  · intro slot hasNot _
    rw [AfatfsFile.Has, not_or] at hasNot
    simp only [AfatfsFile.letGo, hasNot.1, hasNot.2, if_false, false_and]
  · intro slot locked
    simp only [AfatfsFile.letGo] at locked
    split_ifs at locked with here
    exact .inl ⟨locked, here⟩
  · intro slot retained
    simp only [AfatfsFile.letGo] at retained ⊢
    split_ifs at retained ⊢ with here
    · rw [once slot here.2] at retained
      exact absurd rfl retained
    · exact .inl ⟨rfl, fun reads => here ⟨reads, retained⟩⟩

/-- The record of a file that has let go of its slots. -/
theorem fileUnlockCacheSector_file (file : FileRef) (afatfs : Afatfs) : (afatfs.fileUnlockCacheSector file).files file =
    { afatfs.files file with writeLockedCacheIndex := none, readRetainCacheIndex := none } := by
  rw [fileUnlockCacheSector_eq]
  exact Function.update_self ..

theorem fileUnlockCacheSector_content :
    ({ volume with afatfs := volume.afatfs.fileUnlockCacheSector file } : Volume).content = volume.content := by
  rw [fileUnlockCacheSector_eq]
  rfl

/-- The rule of `afatfs_fileUnlockCacheSector`. -/
theorem FilesOk.fileUnlockCacheSector (ok : FilesOk volume chains)
    (isOpen : (volume.afatfs.files file).HasSectors file) :
    Works file written volume chains { volume with afatfs := volume.afatfs.fileUnlockCacheSector file } chains := by
  have unlocked : ((volume.afatfs.fileUnlockCacheSector file).files file).Unlocked := by
    rw [fileUnlockCacheSector_file]
    exact ⟨rfl, rfl⟩
  exact ok.relocks isOpen (relocks_fileUnlockCacheSector fun slot retained => (ok.retained slot retained).1)
    (.of_unlocked unlocked) (.inl unlocked.1) (.inl unlocked)

/-! ### Taking -/

/-- The sector of the slot is locked for the file. -/
def Volume.lockBy (file : FileRef) (slot : Slot) (volume : Volume) : Volume :=
  { volume.lock slot with
    afatfs := (volume.lock slot).afatfs.updateFile file fun f => { f with writeLockedCacheIndex := some slot } }

def Volume.retainBy (file : FileRef) (slot : Slot) (volume : Volume) : Volume :=
  { volume.retain slot with
    afatfs := (volume.retain slot).afatfs.updateFile file fun f => { f with readRetainCacheIndex := some slot } }

@[simp] theorem lockBy_file : (volume.lockBy file slot).afatfs.files file =
    { volume.afatfs.files file with writeLockedCacheIndex := some slot } := by
  simp [Volume.lockBy, Volume.lock, Afatfs.setDescriptor]

@[simp] theorem retainBy_file : (volume.retainBy file slot).afatfs.files file =
    { volume.afatfs.files file with readRetainCacheIndex := some slot } := by
  simp [Volume.retainBy, Volume.retain, Afatfs.setDescriptor]

theorem lockBy_other (elsewhere : other ≠ file) :
    (volume.lockBy file slot).afatfs.files other = volume.afatfs.files other := by
  simp [Volume.lockBy, Volume.lock, Afatfs.setDescriptor, Afatfs.updateFile_other elsewhere]

theorem retainBy_other (elsewhere : other ≠ file) :
    (volume.retainBy file slot).afatfs.files other = volume.afatfs.files other := by
  simp [Volume.retainBy, Volume.retain, Afatfs.setDescriptor, Afatfs.updateFile_other elsewhere]

theorem lockBy_descriptor {i : Slot} : (volume.lockBy file slot).afatfs.cacheDescriptor i =
    { volume.afatfs.cacheDescriptor i with locked := i = slot ∨ (volume.afatfs.cacheDescriptor i).locked } := by
  by_cases here : i = slot
  · subst here
    simp [Volume.lockBy, Volume.lock, Afatfs.setDescriptor, Afatfs.updateFile]
  · simp [Volume.lockBy, Volume.lock, Afatfs.setDescriptor, Afatfs.updateFile, here]

theorem retainBy_descriptor {i : Slot} : (volume.retainBy file slot).afatfs.cacheDescriptor i =
    { volume.afatfs.cacheDescriptor i with
      retainCount := (volume.afatfs.cacheDescriptor i).retainCount + if i = slot then 1 else 0 } := by
  by_cases here : i = slot
  · subst here
    simp [Volume.retainBy, Volume.retain, Afatfs.setDescriptor, Afatfs.updateFile]
  · simp [Volume.retainBy, Volume.retain, Afatfs.setDescriptor, Afatfs.updateFile, here]

theorem FilesOk.lockBy (ok : FilesOk volume chains) (normal : (volume.afatfs.files file).HasChain file)
    (idle : (volume.afatfs.files file).operation = .none)
    (free : (volume.afatfs.files file).writeLockedCacheIndex = none)
    (leads : volume.afatfs.link (volume.afatfs.files file).cursorCluster ≠ none)
    (holds : volume.writeBack.Holds slot (volume.afatfs.fileGetCursorPhysicalSector file))
    (dirty : (volume.afatfs.cacheDescriptor slot).state = .dirty) :
    Works file written volume chains (volume.lockBy file slot) chains := by
  have writeBack : (volume.lockBy file slot).writeBack = volume.writeBack := writeBack_lock
  have isOpen := ok.isOpen file normal
  have cursor : (volume.lockBy file slot).afatfs.fileGetCursorPhysicalSector file =
      volume.afatfs.fileGetCursorPhysicalSector file := cursorSector_otherLocks rfl ⟨_, _, lockBy_file⟩
  refine ok.relocks (.inl normal) ⟨writeBack, rfl, rfl, rfl, rfl, fun _ => lockBy_other,
    ⟨_, _, lockBy_file⟩, ?_, ?_, ?_⟩ ⟨?_, ?_⟩ (.inr normal) (.inr ⟨idle, .inl ⟨normal, leads⟩⟩)
  · intro i _ hasNot
    have apart : i ≠ slot := by
      rintro rfl
      exact hasNot (.inl (by rw [lockBy_file]))
    rw [lockBy_descriptor]
    simp [apart]
  · intro i locked
    rw [lockBy_descriptor] at locked
    rw [lockBy_file]
    by_cases here : i = slot
    · exact .inr (by rw [here])
    · exact .inl ⟨by simpa [here] using locked, by simp [free]⟩
  · intro i retained
    rw [lockBy_descriptor] at retained ⊢
    rw [lockBy_file]
    by_cases own : (volume.afatfs.files file).readRetainCacheIndex = some i
    · exact .inr ⟨(ok.retained i retained).1, own⟩
    · exact .inl ⟨rfl, own⟩
  · intro i writes
    rw [lockBy_file] at writes
    obtain rfl : slot = i := Option.some.inj writes
    refine ⟨⟨?_, .inl ?_⟩, ?_, ?_⟩
    · rw [writeBack, cursor]
      exact holds
    · rw [lockBy_descriptor]
      simp
    · rw [lockBy_descriptor]
      simp
    · rw [lockBy_descriptor]
      exact dirty
  · intro i reads
    rw [lockBy_file] at reads
    obtain ⟨⟨holds', pinned⟩, retained⟩ := isOpen.locks.read i reads
    refine ⟨⟨?_, .inr ?_⟩, ?_⟩
    · rw [writeBack, cursor]
      exact holds'
    · rw [lockBy_descriptor]
      exact retained
    · rw [lockBy_descriptor]
      exact retained

/-- A sector that a file has not retained yet is not retained by another one. -/
theorem FilesOk.retainCount_zero (ok : FilesOk volume chains) (stands : volume.Stands file)
    (idle : (volume.afatfs.files file).operation = .none) (free : (volume.afatfs.files file).readRetainCacheIndex = none)
    (holds : volume.writeBack.Holds slot (volume.afatfs.fileGetCursorPhysicalSector file)) :
    (volume.afatfs.cacheDescriptor slot).retainCount = 0 := by
  by_contra retained
  obtain ⟨-, other, isOpen', reads⟩ := ok.retained slot retained
  have there := ((ok.locksOk isOpen').read slot reads).1.holds.1
  obtain rfl : file = other := by
    apply ok.same_file (ok.stands_inside stands idle)
    rw [← holds.1, there]
    exact ok.has_inside isOpen' (.inr reads)
  rw [free] at reads
  cases reads

theorem FilesOk.retainBy (ok : FilesOk volume chains) (stands : volume.Stands file)
    (idle : (volume.afatfs.files file).operation = .none) (free : (volume.afatfs.files file).readRetainCacheIndex = none)
    (holds : volume.writeBack.Holds slot (volume.afatfs.fileGetCursorPhysicalSector file)) :
    Works file written volume chains (volume.retainBy file slot) chains := by
  have writeBack : (volume.retainBy file slot).writeBack = volume.writeBack := writeBack_retain
  have locks := ok.locksOk stands.hasSectors
  have zero := ok.retainCount_zero stands idle free holds
  have cursor : (volume.retainBy file slot).afatfs.fileGetCursorPhysicalSector file =
      volume.afatfs.fileGetCursorPhysicalSector file := cursorSector_otherLocks rfl ⟨_, _, retainBy_file⟩
  have once : ((volume.retainBy file slot).afatfs.cacheDescriptor slot).retainCount = 1 := by
    rw [retainBy_descriptor]
    simp [zero]
  -- a root directory has no chain, but it is not written either
  have writes : ((volume.retainBy file slot).afatfs.files file).writeLockedCacheIndex = none ∨
      (volume.afatfs.files file).HasChain file := by
    refine stands.symm.imp (fun ⟨isRoot, _⟩ => ?_) And.left
    have root := ok.rootOk isRoot
    obtain rfl := isRoot.1
    rw [retainBy_file]
    exact root.write
  refine ok.relocks stands.hasSectors
    ⟨writeBack, rfl, rfl, rfl, rfl, fun _ => retainBy_other, ⟨_, _, retainBy_file⟩, ?_, ?_, ?_⟩
    ⟨?_, ?_⟩ writes (.inr ⟨idle, stands⟩)
  · intro i _ hasNot
    have apart : i ≠ slot := by
      rintro rfl
      exact hasNot (.inr (by rw [retainBy_file]))
    rw [retainBy_descriptor]
    simp [apart]
  · intro i locked
    rw [retainBy_descriptor] at locked
    rw [retainBy_file]
    by_cases own : (volume.afatfs.files file).writeLockedCacheIndex = some i
    · exact .inr own
    · exact .inl ⟨locked, own⟩
  · intro i retained
    rw [retainBy_file]
    by_cases here : i = slot
    · subst here
      exact .inr ⟨once, rfl⟩
    · rw [retainBy_descriptor]
      exact .inl ⟨by simp [here], by simp [free]⟩
  · intro i writes
    rw [retainBy_file] at writes
    obtain ⟨⟨holds', -⟩, locked, dirty⟩ := locks.write i writes
    rw [retainBy_descriptor]
    refine ⟨⟨?_, .inl ?_⟩, locked, dirty⟩
    · rw [writeBack, cursor]
      exact holds'
    · rw [retainBy_descriptor]
      exact locked
  · intro i reads
    rw [retainBy_file] at reads
    obtain rfl : slot = i := Option.some.inj reads
    refine ⟨⟨?_, .inr ?_⟩, ?_⟩
    · rw [writeBack, cursor]
      exact holds
    · rw [once]
      decide
    · rw [once]
      decide

/-! ## The sector at the cursor in the cache -/

theorem isEndOfAllocatedFile_iff (normal : (volume.afatfs.files file).HasChain file) :
    volume.afatfs.isEndOfAllocatedFile file = true ↔
      volume.afatfs.link (volume.afatfs.files file).cursorCluster = none := by
  simp only [Afatfs.isEndOfAllocatedFile, normal.not_root, if_false, decide_eq_true_eq, Afatfs.link]
  split_ifs with ends
  · simpa using ends
  · simpa using ends

/-- In front of the end of the root directory the cursor is in it. -/
theorem FilesOk.cursor_inRoot (ok : FilesOk volume chains) (isRoot : (volume.afatfs.files file).IsRoot file)
    (before : volume.afatfs.isEndOfAllocatedFile file = false) :
    volume.afatfs.InRoot (volume.afatfs.fileGetCursorPhysicalSector file) := by
  have clusters := ok.geometry.clusters
  have few := volume.afatfs.clusterStartSector.isLt
  simp only [Afatfs.isEndOfAllocatedFile, isRoot.2, if_true, decide_eq_false_iff_not, BitVec.not_le] at before
  have low : (volume.afatfs.files file).cursorOffset.toNat < 512 * volume.afatfs.rootDirectorySectors.toNat := by
    refine (BitVec.lt_def.mp before).trans_le ?_
    rw [BitVec.toNat_mul]
    exact Nat.mod_le _ _
  have index : ((volume.afatfs.files file).cursorOffset / 512).toNat < volume.afatfs.rootDirectorySectors.toNat := by
    rw [BitVec.toNat_udiv]
    exact Nat.div_lt_of_lt_mul low
  have copies : (BitVec.ofNat 32 numFats * volume.afatfs.fatSectors).toNat = 2 * volume.afatfs.fatSectors.toNat := by
    rw [show BitVec.ofNat 32 numFats = 2 from rfl, BitVec.toNat_mul, show BitVec.toNat (2 : Word) = 2 from rfl]
    exact Nat.mod_eq_of_lt (by omega)
  have place : (volume.afatfs.fileGetCursorPhysicalSector file).toNat = volume.afatfs.fatStartSector.toNat +
      2 * volume.afatfs.fatSectors.toNat + ((volume.afatfs.files file).cursorOffset / 512).toNat := by
    rw [Afatfs.fileGetCursorPhysicalSector, if_pos isRoot.2, BitVec.toNat_add, BitVec.toNat_add, copies,
      Nat.mod_eq_of_lt (by omega), Nat.mod_eq_of_lt (by omega)]
  rw [Afatfs.InRoot, place]
  omega

theorem FilesOk.stands (ok : FilesOk volume chains) (isOpen : (volume.afatfs.files file).HasSectors file)
    (before : volume.afatfs.isEndOfAllocatedFile file = false) : volume.Stands file := by
  refine isOpen.imp (fun chained => ⟨chained, ?_⟩) fun isRoot => ⟨isRoot, ok.cursor_inRoot isRoot before⟩
  rw [Ne, ← isEndOfAllocatedFile_iff chained, before]
  decide

/-- A sector of a file is not in the table. -/
theorem FilesOk.inside_not_inTable (ok : FilesOk volume chains) (inside : volume.Inside chains file sector) :
    ¬ volume.afatfs.InTable sector := by
  rcases inside with ⟨-, cluster, -, inside⟩ | ⟨-, inside⟩
  · exact ok.geometry.not_inTable inside
  · exact inside.not_inTable

theorem FilesOk.inside_ne_zero (ok : FilesOk volume chains) (inside : volume.Inside chains file sector) : sector ≠ 0 := by
  rcases inside with ⟨-, cluster, -, inside⟩ | ⟨-, inside⟩
  · exact ok.geometry.sector_ne_zero inside
  · rintro rfl
    have start := ok.geometry.start
    have low := inside.1
    rw [show BitVec.toNat (0 : Word) = 0 from rfl] at low
    omega

theorem Volume.Stands.congr (stands : volume.Stands file) (disk : later.afatfs.disk = volume.afatfs.disk)
    (same : later.afatfs.files file = volume.afatfs.files file) : later.Stands file := by
  have link : later.afatfs.link = volume.afatfs.link := Afatfs.congr_disk Afatfs.link (fun _ => rfl) disk
  rw [Volume.Stands, same, link, cursorSector_congr disk same, Afatfs.congr_disk Afatfs.InRoot (fun _ => rfl) disk]
  exact stands

/-- The entry of a file is in none of its own sectors. -/
theorem FilesOk.entry_apart (ok : FilesOk volume chains) (inside : volume.Inside chains file sector)
    (notCurrent : file ≠ .currentDirectory) (opened : (volume.afatfs.files file).operation.opening = false)
    (entered : (volume.afatfs.files file).directoryEntryPos.sectorNumberPhysical ≠ 0) :
    (volume.afatfs.files file).directoryEntryPos.sectorNumberPhysical ≠ sector := by
  rintro rfl
  obtain ⟨chained, cluster, isIn, here⟩ | ⟨isRoot, -⟩ := inside
  · obtain ⟨-, -, owned⟩ := ((ok.isOpen file chained).entry opened).resolve_left entered
    obtain ⟨owner, isDirectory, isIn'⟩ := owned cluster (ok.isCluster isIn) here
    refine ok.separate.disjoint (.file file) owner ?_ isIn isIn'
    rintro rfl
    exact notCurrent isDirectory
  · exact notCurrent isRoot.1

/-- The sector at the cursor is opened, and nothing that matters changes before it is taken. -/
theorem FilesOk.opened {flags : CacheFlags} {result : OperationStatus × Option Slot} (ok : FilesOk volume chains)
    (stands : volume.Stands file) (idle : (volume.afatfs.files file).operation = .none)
    (ordinary : flags.read = true ∨ file ≠ .currentDirectory)
    (opened : Opened (volume.afatfs.fileGetCursorPhysicalSector file) flags volume result later) :
    ∃ mid, Works file (fun sector => sector = volume.afatfs.fileGetCursorPhysicalSector file ∧
        flags.read = false ∧ result.2 ≠ none) volume chains mid chains ∧ mid.afatfs.files = volume.afatfs.files ∧
      (∀ sector, sector ≠ volume.afatfs.fileGetCursorPhysicalSector file ∨ flags.read = true ∨ result.2 = none →
        mid.content sector = volume.content sector) ∧
      match result.2 with
      | none => later = mid
      | some slot => later = (mid.lockFor slot flags).retainFor slot flags := by
  obtain ⟨mid, content, turns, reads, elsewhere, ends⟩ := opened.mid ok.coherent
  have kept : ∀ sector, sector ≠ volume.afatfs.fileGetCursorPhysicalSector file ∨ flags.read = true ∨ result.2 = none →
      content sector = volume.content sector := by
    rintro sector (apart | read)
    · exact elsewhere sector apart
    · rw [reads read]
  refine ⟨mid, ok.works_turns turns ?_ ?_ ?_ ?_, turns.files, fun sector same => by rw [turns.content]; exact kept sector same, ends⟩
  · intro sector inTable
    apply elsewhere
    rintro rfl
    exact ok.inside_not_inTable (ok.stands_inside stands idle) inTable
  · intro sector cell _ unwritten
    refine congrFun (kept sector ?_) cell
    by_contra written
    rw [not_or, not_or, not_not] at written
    exact unwritten ⟨written.1, by simpa using written.2.1, written.2.2⟩
  · intro sector _ unwritten
    rw [kept sector]
    · exact .refl _ _
    · by_contra written
      rw [not_or, not_or, not_not] at written
      exact unwritten ⟨written.1, by simpa using written.2.1, written.2.2⟩
  · refine turns.records fun entered => kept _ ?_
    rcases ordinary with read | notCurrent
    · exact .inr (.inl read)
    · exact .inl (ok.entry_apart (ok.stands_inside stands idle) notCurrent (by rw [idle]; rfl) entered)

/-- The rule of the end of `afatfs_fileRetainCursorSectorForRead`. -/
theorem wp_retainCursorSector (ok : FilesOk volume chains) (stands : volume.Stands file)
    (idle : (volume.afatfs.files file).operation = .none)
    (free : (volume.afatfs.files file).readRetainCacheIndex = none) :
    Wp (retainCursorSector file) (fun found later => Works file NoSector volume chains later chains ∧
      later.content = volume.content ∧ (volume.afatfs.files file).OtherLocks (later.afatfs.files file) ∧
      ∀ slot, found = some slot → later.writeBack.Holds slot (volume.afatfs.fileGetCursorPhysicalSector file)) volume := by
  have notZero := ok.inside_ne_zero (ok.stands_inside stands idle)
  have positive : 0 < volume.afatfs.fileGetCursorPhysicalSector file := by bv_omega
  rw [retainCursorSector, wp_get_bind]
  apply Wp.bind
  apply wp_afatfsAssert
  · intro _
    apply Wp.bind
    apply (wp_cacheSector ok.coherent.sound).mono
    rintro ⟨status, found⟩ afterwards opened
    obtain ⟨mid, opens, files, agrees, ends⟩ := ok.opened stands idle (.inl rfl) opened
    have works : Works file NoSector volume chains mid chains := opens.mono fun _ ⟨_, unread, _⟩ => by cases unread
    have content : mid.content = volume.content := funext fun sector => agrees sector (.inr (.inl rfl))
    cases found with
    | none =>
      obtain rfl : afterwards = mid := ends
      refine (wp_pure _).mpr ⟨works, content, ⟨_, _, by rw [files]⟩, by simp⟩
    | some slot =>
      obtain rfl : afterwards = mid.retain slot := ends
      have held : mid.writeBack.Holds slot (volume.afatfs.fileGetCursorPhysicalSector file) := by
        cases status with
        | success =>
          obtain ⟨slot', same, holds, -⟩ := opened.hit rfl
          obtain rfl : slot = slot' := Option.some.inj same
          simpa using holds (.inl rfl)
        | inProgress => cases opened.missed (by simp)
        | failure => cases opened.missed (by simp)
      have cursor := cursorSector_congr works.disk (congrFun files file)
      have taken : Works file NoSector mid chains (mid.retainBy file slot) chains :=
        works.ok.retainBy (stands.congr works.disk (congrFun files file)) (by rw [files, idle]) (by rw [files, free])
          (by rw [cursor]; exact held)
      have same : (mid.retainBy file slot).writeBack = mid.writeBack := writeBack_retain
      refine (wp_modify_bind _).mpr ((wp_pure _).mpr ⟨works.trans taken, ?_, ?_, ?_⟩)
      · change (mid.retainBy file slot).content = volume.content
        rw [Volume.content, same]
        exact content
      · rw [← files]
        exact ⟨_, _, retainBy_file⟩
      · intro slot' same'
        obtain rfl : slot = slot' := Option.some.inj same'
        change (mid.retainBy file slot).writeBack.Holds slot _
        rw [same]
        exact held
  -- the sector is not the first of the card, so the assertion does not fail
  · intro fails
    exact absurd positive (of_decide_eq_false fails)

/-- The rule of `afatfs_fileRetainCursorSectorForRead`: the sector at the cursor, if it gives one. -/
theorem wp_fileRetainCursorSectorForRead (ok : FilesOk volume chains)
    (isOpen : (volume.afatfs.files file).HasSectors file) (idle : (volume.afatfs.files file).operation = .none) :
    Wp (fileRetainCursorSectorForRead file) (fun found later => Works file NoSector volume chains later chains ∧
      later.content = volume.content ∧ (volume.afatfs.files file).OtherLocks (later.afatfs.files file) ∧
      (∀ slot, found = some slot → volume.Stands file ∧
        later.writeBack.Holds slot (volume.afatfs.fileGetCursorPhysicalSector file))) volume := by
  rw [fileRetainCursorSectorForRead, wp_get_bind]
  cases read : (volume.afatfs.files file).readRetainCacheIndex with
  | some slot =>
    have has : (volume.afatfs.files file).Has slot := .inr read
    obtain ⟨holds, -⟩ := (ok.locksOk isOpen).pins has
    apply Wp.bind
    apply wp_afatfsAssert
    · intro _
      refine (wp_pure _).mpr ⟨.refl ok, rfl, ⟨_, _, rfl⟩, ?_⟩
      intro slot' same
      obtain rfl : slot = slot' := Option.some.inj same
      exact ⟨ok.stands_of_has isOpen has, holds⟩
    · intro fails
      exact absurd holds.1.symm (of_decide_eq_false fails)
  | none =>
    by_cases ends : volume.afatfs.isEndOfAllocatedFile file = true
    · simp only [ends, if_true]
      exact (wp_pure _).mpr ⟨.refl ok, rfl, ⟨_, _, rfl⟩, nofun⟩
    · have stands := ok.stands isOpen (Bool.not_eq_true _ ▸ ends)
      simp only [ends, Bool.false_eq_true, if_false]
      apply (wp_retainCursorSector ok stands idle read).mono
      rintro found later ⟨works, content, record, holds⟩
      exact ⟨works, content, record, fun slot same => ⟨stands, holds slot same⟩⟩

/-! ## Locking the sector to write it -/

/-- How `afatfs_fileLockCursorSectorForWrite` leaves a file: with a sector locked at the cursor, or not yet.
    What was in the sector is lost if it is not read before it is written. -/
structure LocksCursor (file : FileRef) (volume : Volume) (chains : Owner → List Word)
    (found : Option Slot) (later : Volume) (chains' : Owner → List Word) : Prop
    extends Works file (fun sector => sector = later.afatfs.fileGetCursorPhysicalSector file ∧
      (volume.afatfs.files file).writeLockedCacheIndex = none ∧ (volume.afatfs.files file).writeFlags.read = false ∧
      found ≠ none)
      volume chains later chains' where
  grows : chains (.file file) <+: chains' (.file file)
  kind : SameKind (volume.afatfs.files file) (later.afatfs.files file)
  offset : (later.afatfs.files file).cursorOffset = (volume.afatfs.files file).cursorOffset
  logical : (later.afatfs.files file).logicalSize = (volume.afatfs.files file).logicalSize
  found : ∀ slot, found = some slot → (later.afatfs.files file).writeLockedCacheIndex = some slot ∧
    (later.afatfs.files file).operation = .none
  waits : (later.afatfs.files file).operation = .none ∨
    ∃ opState, (later.afatfs.files file).operation = .appendFreeCluster opState

/-- The rule of the end of `afatfs_fileLockCursorSectorForWrite`. -/
theorem wp_lockCursorSector (ok : FilesOk volume chains) (normal : (volume.afatfs.files file).HasChain file)
    (notCurrent : file ≠ .currentDirectory) (idle : (volume.afatfs.files file).operation = .none)
    (free : (volume.afatfs.files file).writeLockedCacheIndex = none)
    (leads : volume.afatfs.link (volume.afatfs.files file).cursorCluster ≠ none) :
    Wp (lockCursorSector file) (fun found later => LocksCursor file volume chains found later chains) volume := by
  rw [lockCursorSector, wp_get_bind]
  apply Wp.bind
  apply (wp_cacheSector ok.coherent.sound).mono
  rintro ⟨status, found⟩ afterwards opened
  obtain ⟨mid, works, files, -, ends⟩ := ok.opened (.inl ⟨normal, leads⟩) idle (.inr notCurrent) opened
  have link : mid.afatfs.link = volume.afatfs.link := Afatfs.congr_disk Afatfs.link (fun _ => rfl) works.disk
  have cursor := cursorSector_congr works.disk (congrFun files file)
  cases found with
  | none =>
    obtain rfl : afterwards = mid := ends
    refine (wp_pure _).mpr ⟨works.mono ?_, List.prefix_rfl, .of_eq (congrFun files file), by rw [files], by rw [files], nofun,
      .inl (by rw [files, idle])⟩
    rintro sector ⟨-, -, isNot⟩
    exact absurd rfl isNot
  | some slot =>
    obtain rfl : afterwards = mid.lock slot := ends
    obtain ⟨held, dirty⟩ : mid.writeBack.Holds slot (volume.afatfs.fileGetCursorPhysicalSector file) ∧
        (mid.afatfs.cacheDescriptor slot).state = .dirty := by
      cases status with
      | success =>
        obtain ⟨slot', same, holds, dirty, -⟩ := opened.hit rfl
        obtain rfl : slot = slot' := Option.some.inj same
        refine ⟨by simpa using holds (.inr rfl), ?_⟩
        simpa [Volume.lock, Afatfs.setDescriptor] using dirty rfl
      | inProgress => cases opened.missed (by simp)
      | failure => cases opened.missed (by simp)
    have taken : Works file (fun sector => sector = volume.afatfs.fileGetCursorPhysicalSector file ∧
        (volume.afatfs.files file).writeFlags.read = false ∧ some slot ≠ none) mid chains (mid.lockBy file slot) chains :=
      works.ok.lockBy (files ▸ normal) (by rw [files, idle]) (by rw [files, free]) (by rw [link, files]; exact leads)
        (by rw [cursor]; exact held) dirty
    have cursor' : (mid.lockBy file slot).afatfs.fileGetCursorPhysicalSector file =
        volume.afatfs.fileGetCursorPhysicalSector file := by
      have locks : (mid.afatfs.files file).OtherLocks ((mid.lockBy file slot).afatfs.files file) := ⟨_, _, lockBy_file⟩
      exact (cursorSector_otherLocks (show (mid.lockBy file slot).afatfs.disk = mid.afatfs.disk from rfl) locks).trans cursor
    refine (wp_modify_bind _).mpr ((wp_pure _).mpr ?_)
    change LocksCursor file volume chains (some slot) (mid.lockBy file slot) chains
    refine ⟨(works.trans taken).mono ?_, List.prefix_rfl, ⟨by simp [files], by simp [files]⟩, by simp [files], by simp [files], ?_,
      .inl (by simp [files, idle])⟩
    · rintro sector ⟨rfl, unread, isSome⟩
      exact ⟨cursor'.symm, free, unread, isSome⟩
    · intro slot' same
      obtain rfl : slot = slot' := Option.some.inj same
      simp [files, idle]

/-- The rule of `afatfs_fileLockCursorSectorForWrite`, for a cursor that has a cluster more before it than
    32 bits can count. -/
theorem wp_fileLockCursorSectorForWrite (ok : FilesOk volume chains)
    (normal : (volume.afatfs.files file).HasChain file) (notCurrent : file ≠ .currentDirectory)
    (idle : (volume.afatfs.files file).operation = .none)
    (room : (volume.afatfs.files file).cursorOffset.toNat + volume.afatfs.clusterSize.toNat < 2 ^ 32) :
    Wp (fileLockCursorSectorForWrite file)
      (fun found later => ∃ chains', LocksCursor file volume chains found later chains') volume := by
  have isOpen := ok.isOpen file normal
  have good := isOpen.shape.operation
  rw [OperationOk, idle] at good
  rw [fileLockCursorSectorForWrite, wp_get_bind]
  cases write : (volume.afatfs.files file).writeLockedCacheIndex with
  | some slot =>
    have has : (volume.afatfs.files file).Has slot := .inl write
    obtain ⟨holds, -⟩ := isOpen.locks.pins has
    apply Wp.bind
    apply wp_afatfsAssert
    · intro _
      refine (wp_pure _).mpr ⟨chains, .refl ok, List.prefix_rfl, .refl _, rfl, rfl, ?_, .inl idle⟩
      intro slot' same
      obtain rfl : slot = slot' := Option.some.inj same
      exact ⟨write, idle⟩
    · intro fails
      exact absurd holds.1.symm (of_decide_eq_false fails)
  | none =>
    apply Wp.bind
    rw [extendAtEnd, wp_get_bind]
    -- at the end of the chain the file gets a cluster first
    by_cases ends : volume.afatfs.isEndOfAllocatedFile file = true
    · simp only [ends, if_true]
      rw [isEndOfAllocatedFile_iff normal] at ends
      obtain ⟨nothing, k, cursor⟩ := good
      obtain rfl : k = (chains (.file file)).length := by
        have here := cursor.here
        rw [ends] at here
        have behind := List.getElem?_eq_none_iff.mp here.symm
        have := cursor.bound
        omega
      have unlocked := isOpen.shape.inside.resolve_right (not_not.mpr ends)
      apply Wp.bind
      apply (wp_appendRegularFreeCluster ok normal idle notCurrent unlocked nothing cursor ?_).mono
      · rintro status mid ⟨between, appended⟩
        refine (wp_pure _).mpr ?_
        have flags : (mid.afatfs.files file).writeFlags = (volume.afatfs.files file).writeFlags := by
          rw [AfatfsFile.writeFlags, AfatfsFile.writeFlags, appended.offset, appended.logical]
        have noCluster {found : Option Slot} (none : found = none) :
            LocksCursor file volume chains found mid between := by
          refine ⟨appended.toWorks.mono (fun _ => False.elim), appended.grows, appended.kind, appended.offset,
            appended.logical, ?_, ?_⟩
          · simp [none]
          · by_cases waiting : status = .inProgress
            · exact .inr (appended.waits waiting)
            · exact .inl (appended.ended waiting)
        cases status with
        | success =>
          obtain ⟨free, leads⟩ := appended.ready rfl
          simp only [decide_true, Bool.not_true, Bool.false_eq_true, if_false]
          apply (wp_lockCursorSector appended.ok (appended.kind.hasChain.mpr normal) notCurrent (appended.ended (by simp)) free.1 leads).mono
          intro found later locks
          refine ⟨between, (appended.toWorks.mono (fun _ => False.elim)).trans (locks.toWorks.mono ?_),
            appended.grows.trans locks.grows, appended.kind.trans locks.kind, locks.offset.trans appended.offset,
            locks.logical.trans appended.logical, locks.found, locks.waits⟩
          rintro sector ⟨here, -, unread, isSome⟩
          exact ⟨here, write, flags ▸ unread, isSome⟩
        | inProgress =>
          simp only [reduceCtorEq, decide_false, Bool.not_false, if_true]
          exact (wp_pure _).mpr ⟨between, noCluster rfl⟩
        | failure =>
          simp only [reduceCtorEq, decide_false, Bool.not_false, if_true]
          exact (wp_pure _).mpr ⟨between, noCluster rfl⟩
      · rw [Nat.succ_mul, ← cursor.stop rfl]
        exact room
    · simp only [ends, Bool.false_eq_true, if_false]
      rw [isEndOfAllocatedFile_iff normal] at ends
      refine (wp_pure _).mpr ?_
      simp only [Bool.not_true, Bool.false_eq_true, if_false]
      exact (wp_lockCursorSector ok normal notCurrent idle write ends).mono fun found later locks => ⟨chains, locks⟩

end ComputerSystems.Fat
