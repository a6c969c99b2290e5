import ComputerSystems.Verified.OpenFiles

/-! # Appending clusters

Appending a cluster to a file, in whatever parts the card lets it be done: each part keeps
the invariant of the file system (`Works`).  A cluster that was found free is marked in
the table at once, as the sector of its entry is in the cache, so that no other file can
find it.
-/

namespace ComputerSystems.Fat

open ComputerSystems.Data Program

variable {volume later : Volume} {chains chains' : Owner → List Word} {file : FileRef}
  {written : Word → Prop} {change : AfatfsFile → AfatfsFile}

/-- Nothing is written but the table and the entry of the file. -/
def NoSector : Word → Prop := fun _ => False

/-- A change of the record of a file that has no sector locked or stays in the one that it has. -/
theorem FilesOk.record (ok : FilesOk volume chains) (normal : (volume.afatfs.files file).HasChain file)
    (still : (volume.afatfs.files file).Unlocked ∨
      volume.afatfs.cursorSector (change (volume.afatfs.files file)) = volume.afatfs.cursorSector (volume.afatfs.files file))
    (locks : SameLocks (volume.afatfs.files file) (change (volume.afatfs.files file)))
    (position : (change (volume.afatfs.files file)).directoryEntryPos = (volume.afatfs.files file).directoryEntryPos)
    (mode : (change (volume.afatfs.files file)).mode = (volume.afatfs.files file).mode)
    (idle : file = .currentDirectory → (change (volume.afatfs.files file)).operation = .none)
    (opening : (change (volume.afatfs.files file)).operation.opening = (volume.afatfs.files file).operation.opening)
    (first : volume.afatfs.link (change (volume.afatfs.files file)).firstCluster =
      volume.afatfs.link (volume.afatfs.files file).firstCluster)
    (pending : volume.afatfs.link (change (volume.afatfs.files file)).operation.pendingCluster =
      volume.afatfs.link (volume.afatfs.files file).operation.pendingCluster)
    (saved : (change (volume.afatfs.files file)).operation.unsaved = false →
      (volume.afatfs.files file).operation.unsaved = false ∨ volume.Saved file (chains (.file file)))
    (logical : (change (volume.afatfs.files file)).operation.closing = false ∨
      (change (volume.afatfs.files file)).logicalSize = (volume.afatfs.files file).logicalSize ∨
      (change (volume.afatfs.files file)).logicalSize.toNat ≤
        (chains (.file file)).length * volume.afatfs.clusterSize.toNat)
    (shape : FileShape volume.afatfs.link volume.afatfs.clusterSize.toNat (volume.afatfs.numClusters.toNat + 2)
      (chains (.file file)) (chains (.pending file)) (change (volume.afatfs.files file))) :
    Works file written volume chains { volume with afatfs := volume.afatfs.updateFile file change } chains := by
  have serves := serves_updateFile ok.coherent locks
  have record : (volume.afatfs.updateFile file change).files file = change (volume.afatfs.files file) := Afatfs.updateFile_self
  have entry := (ok.isOpen file normal).entry
  have chained : (volume.afatfs.updateFile file change).files file |>.HasChain file := by
    rw [record, locks.hasChain]
    exact normal
  refine ⟨ok.serves serves (fun _ _ _ => rfl) (fun here => ⟨rfl, record ▸ idle here⟩) ok.reserved ok.hint ?_ ?_ ?_, rfl,
    serves.files, fun _ _ _ => rfl, by simpa using position, by simpa using mode, by simpa using opening,
    fun _ _ _ _ _ => rfl, fun _ _ _ _ => .refl _ _, fun records unsaved => ?_, fun _ => id⟩
  · rw [Afatfs.starts_same serves.disk serves.files (iff_of_true chained normal) (by rw [record]; exact first)
      (by rw [record]; exact pending)]
    exact ok.separate
  · intro _
    refine ⟨record ▸ shape.congr rfl, ?_, ?_⟩
    · rcases still with unlocked | still
      · apply LocksOk.of_unlocked
        rw [record, AfatfsFile.Unlocked, locks.write, locks.read]
        exact unlocked
      · apply (ok.isOpen file normal).locks.keeps serves.keeps
        · rw [fileGetCursorPhysicalSector_eq, fileGetCursorPhysicalSector_eq, record]
          exact still
        · exact record ▸ locks
    · rw [record, position, opening]
      exact fun opened => (entry opened).congr rfl (.refl chains)
  · exact fun unchained => absurd chained unchained
  · rw [record] at unsaved
    have before := (saved unsaved).elim records id
    refine before.keeps serves.disk (by rw [record, position]) (fun _ => rfl) ?_
    rw [record]
    rcases logical with goesOn | logical
    · exact .inr (shape.logical goesOn)
    · exact logical

/-- A change of the variables of the file system. -/
theorem FilesOk.sameFiles (ok : FilesOk volume chains) (same : SameCache volume later)
    (disk : later.afatfs.disk = volume.afatfs.disk) (files : later.afatfs.files = volume.afatfs.files)
    (hint : 1 ≤ later.afatfs.lastClusterAllocated.toNat ∧
      later.afatfs.lastClusterAllocated.toNat ≤ volume.afatfs.numClusters.toNat + 2) :
    Works file written volume chains later chains := by
  have unchanged : ∀ other, later.afatfs.files other = volume.afatfs.files other := congrFun files
  have serves : Serves file volume later := same.serves ok.coherent disk (fun other _ => unchanged other)
    (by rw [unchanged]; exact ⟨rfl, rfl, rfl, rfl⟩)
  have content := same.same_content
  have count : later.afatfs.numClusters = volume.afatfs.numClusters :=
    Afatfs.congr_disk (·.numClusters) (fun _ => rfl) disk
  have table : later.fatTable = volume.fatTable := fatTable_congr ok.geometry disk fun sector _ => congrFun content sector
  refine ⟨ok.serves serves (fun _ _ _ => rfl) ?_ ?_ (count ▸ hint) ?_ ?_ ?_, disk, serves.files, fun _ _ _ => rfl,
    by rw [unchanged], by rw [unchanged], by rw [unchanged], fun sector _ _ _ _ => by rw [content],
    fun sector _ _ _ => by rw [content]; exact .refl _ _, fun records unsaved => ?_, fun _ => table ▸ id⟩
  · rintro rfl
    exact ⟨rfl, by rw [unchanged]; exact ok.still⟩
  · rw [fatValue_congr ok.geometry disk (fun sector _ => congrFun content sector)
      (by rw [show BitVec.toNat (1 : Word) = 1 from rfl]; omega)]
    exact ok.reserved
  · rw [table, Afatfs.starts_same disk serves.files (by rw [unchanged]) (by rw [unchanged]) (by rw [unchanged])]
    exact ok.separate
  · intro normal
    rw [unchanged] at normal
    exact (ok.isOpen file normal).keeps serves.keeps disk (unchanged file) rfl rfl (.refl chains)
  · intro closed
    rw [unchanged] at closed
    exact (ok.idle file closed).keeps serves.keeps disk (unchanged file) rfl (.refl chains)
  · rw [unchanged] at unsaved
    exact (records unsaved).keeps disk (by rw [unchanged]) (fun _ => by rw [content]) (.inl (by rw [unchanged]))

/-- The cache goes on, and the entry of the file is not changed. -/
theorem Turns.records {content : Word → Sector} (turns : Turns volume content later)
    (same : (volume.afatfs.files file).directoryEntryPos.sectorNumberPhysical ≠ 0 →
      content (volume.afatfs.files file).directoryEntryPos.sectorNumberPhysical =
        volume.content (volume.afatfs.files file).directoryEntryPos.sectorNumberPhysical)
    (records : volume.Records chains file) : later.Records chains file := by
  intro unsaved
  rw [turns.files] at unsaved
  refine (records unsaved).keeps turns.disk (by rw [turns.files]) (fun entered => ?_) (.inl (by rw [turns.files]))
  rw [turns.content, same entered]

/-- The cache goes on, and only the entry of the file is changed. -/
theorem FilesOk.works_turns {content : Word → Sector} (ok : FilesOk volume chains) (turns : Turns volume content later)
    (table : ∀ sector, volume.afatfs.InTable sector → content sector = volume.content sector)
    (elsewhere : ∀ sector cell, ¬ (volume.afatfs.files file).directoryEntryPos.Covers sector cell → ¬ written sector →
      content sector cell = volume.content sector cell)
    (name : ∀ sector, sector = (volume.afatfs.files file).directoryEntryPos.sectorNumberPhysical → ¬ written sector →
      KeepsName (volume.afatfs.files file).directoryEntryPos.entryIndex (volume.content sector) (content sector))
    (records : volume.Records chains file → later.Records chains file) :
    Works file written volume chains later chains where
  ok := ok.turns turns table
  disk := turns.disk
  files other _ := congrFun turns.files other
  elsewhere _ _ _ := rfl
  position := by rw [turns.files]
  mode := by rw [turns.files]
  opening := by rw [turns.files]
  content sector cell _ notEntry unwritten := by
    rw [turns.content]
    exact elsewhere sector cell notEntry unwritten
  name sector here _ unwritten := by
    rw [turns.content]
    exact name sector here unwritten
  records := records
  strays cluster stray := by
    have same := fatTable_congr ok.geometry turns.disk fun sector inTable => by
      rw [turns.content]
      exact table sector inTable
    rwa [same] at stray

/-- The cache goes on, and nothing is written. -/
theorem FilesOk.works_turns_same (ok : FilesOk volume chains) (turns : Turns volume volume.content later) :
    Works file written volume chains later chains :=
  ok.works_turns turns (fun _ _ => rfl) (fun _ _ _ _ => rfl) (fun _ _ _ => .refl _ _)
    (turns.records fun _ => rfl)

/-- An entry of the table is written on behalf of a file that has no sector locked, and its record is
    brought up to date. -/
theorem FilesOk.setEntry {cluster next : Word} (ok : FilesOk volume chains)
    (normal : (volume.afatfs.files file).HasChain file) (isCluster : volume.afatfs.IsCluster cluster)
    (serves : Serves file volume later) (content : later.content = volume.afatfs.setFatEntry volume.content cluster next)
    (position : (later.afatfs.files file).directoryEntryPos = (volume.afatfs.files file).directoryEntryPos)
    (mode : (later.afatfs.files file).mode = (volume.afatfs.files file).mode)
    (hint : 1 ≤ later.afatfs.lastClusterAllocated.toNat ∧
      later.afatfs.lastClusterAllocated.toNat ≤ volume.afatfs.numClusters.toNat + 2)
    (elsewhere : ∀ owner, owner ≠ .file file → owner ≠ .pending file → chains' owner = chains owner)
    (notCurrent : file ≠ .currentDirectory)
    (opening : (later.afatfs.files file).operation.opening = (volume.afatfs.files file).operation.opening)
    (separate : Separate (Function.update volume.fatTable cluster (volume.afatfs.entryOf (volume.afatfs.storedEntry next)))
      (later.afatfs.starts chains') chains')
    (strays : ∀ node, Stray (Function.update volume.fatTable cluster
      (volume.afatfs.entryOf (volume.afatfs.storedEntry next))) chains' node → Stray volume.fatTable chains node)
    (unlocked : (later.afatfs.files file).Unlocked)
    (saved : (later.afatfs.files file).operation.unsaved = false →
      (volume.afatfs.files file).operation.unsaved = false ∧ chains' (.file file) = chains (.file file))
    (logical : (later.afatfs.files file).logicalSize = (volume.afatfs.files file).logicalSize)
    (shape : FileShape volume.afatfs.link volume.afatfs.clusterSize.toNat (volume.afatfs.numClusters.toNat + 2)
      (chains' (.file file)) (chains' (.pending file)) (later.afatfs.files file)) :
    Works file written volume chains later chains' := by
  have disk := serves.disk
  have outside : ∀ sector, ¬ volume.afatfs.InTable sector → later.content sector = volume.content sector := by
    intro sector outside
    rw [content, Afatfs.setFatEntry, Function.update_of_ne]
    rintro rfl
    exact outside (ok.geometry.inTable_fatSector isCluster.2)
  have table : later.fatTable =
      Function.update volume.fatTable cluster (volume.afatfs.entryOf (volume.afatfs.storedEntry next)) := by
    have same : later.afatfs.fatTable later.content = volume.afatfs.fatTable later.content :=
      Afatfs.congr_disk (·.fatTable later.content) (fun _ => rfl) disk
    rw [Volume.fatTable, same, content]
    exact ok.geometry.fatTable_setFatEntry isCluster
  have reserved : later.fatValue 1 = volume.fatValue 1 := by
    have one : BitVec.toNat (1 : Word) = 1 := rfl
    have same : later.afatfs.fatValue later.content 1 = volume.afatfs.fatValue later.content 1 :=
      Afatfs.congr_disk (·.fatValue later.content 1) (fun _ => rfl) disk
    rw [Volume.fatValue, same, content, ok.geometry.fatValue_setFatEntry _ isCluster.2 (by omega), if_neg]
    · rfl
    · rintro rfl
      exact absurd isCluster.1 (by decide)
  have count : later.afatfs.numClusters = volume.afatfs.numClusters :=
    Afatfs.congr_disk (·.numClusters) (fun _ => rfl) disk
  refine ⟨ok.serves serves elsewhere (fun here => absurd here notCurrent) (reserved ▸ ok.reserved) (count ▸ hint)
    (table ▸ separate) ?_ ?_, disk, serves.files, elsewhere, position, mode, opening,
    fun sector _ isOutside _ _ => by rw [outside sector isOutside],
    fun sector _ isOutside _ => by rw [outside sector isOutside]; exact .refl _ _, fun records unsaved => ?_, table ▸ strays⟩
  · intro _
    apply OpenOk.of_unlocked (shape.congr disk) unlocked
    rw [position, opening]
    exact fun opened => ((ok.isOpen file normal).entry opened).congr disk
      (sameDirectories_of elsewhere fun here => absurd here notCurrent)
  · intro closed
    rw [serves.locks.hasChain] at closed
    exact absurd normal closed
  · obtain ⟨unsaved, chain⟩ := saved unsaved
    rw [chain]
    refine (records unsaved).keeps disk position (fun entered => outside _ ?_) (.inl logical)
    exact (((ok.isOpen file normal).entry (opening_of_saved unsaved)).resolve_left entered).2.1

/-! ## The directory entry -/

/-- The sectors once the entry of the file was saved. -/
noncomputable def Volume.savedEntry (file : FileRef) (mode : SaveDirectoryEntryMode) (volume : Volume) : Word → Sector :=
  let position := (volume.afatfs.files file).directoryEntryPos
  if position.sectorNumberPhysical = 0 then volume.content
  else Function.update volume.content position.sectorNumberPhysical
    (saveEntry mode position.entryIndex (volume.afatfs.files file) (volume.content position.sectorNumberPhysical))

theorem saveEntry_outside {mode : SaveDirectoryEntryMode} {entryIndex cell : Int} {f : AfatfsFile} {block : Sector}
    (outside : cell < directoryEntrySize * entryIndex ∨ directoryEntrySize * entryIndex + directoryEntrySize ≤ cell) :
    saveEntry mode entryIndex f block cell = block cell := by
  rw [directoryEntrySize] at outside
  rw [saveEntry, directoryEntrySize, Memory.write16_outside (by omega), Memory.write16_outside (by omega),
    Memory.write32_outside (by omega)]
  split
  · exact Memory.write_outside (by simp; omega)
  · rfl

theorem savedEntry_other {mode : SaveDirectoryEntryMode} {sector : Word}
    (elsewhere : sector ≠ (volume.afatfs.files file).directoryEntryPos.sectorNumberPhysical) :
    volume.savedEntry file mode sector = volume.content sector := by
  rw [Volume.savedEntry]
  split
  · rfl
  · exact Function.update_of_ne elsewhere _ _

theorem savedEntry_outside {mode : SaveDirectoryEntryMode} {sector : Word} {cell : Int}
    (outside : ¬ (volume.afatfs.files file).directoryEntryPos.Covers sector cell) :
    volume.savedEntry file mode sector cell = volume.content sector cell := by
  by_cases here : sector = (volume.afatfs.files file).directoryEntryPos.sectorNumberPhysical
  · rw [Volume.savedEntry]
    split
    · rfl
    · rw [← here, Function.update_self]
      apply saveEntry_outside
      by_contra inside
      exact outside ⟨here, by omega, by omega⟩
  · rw [savedEntry_other here]

/-- The first letter of the name is kept, or it is the mark of a file that is deleted. -/
theorem saveEntry_first {mode : SaveDirectoryEntryMode} {entryIndex : Int} {f : AfatfsFile} {block : Sector} :
    saveEntry mode entryIndex f block (directoryEntrySize * entryIndex) =
      if mode = .deleted then 0xE5 else block (directoryEntrySize * entryIndex) := by
  rw [saveEntry, Memory.write16_outside (by omega), Memory.write16_outside (by omega), Memory.write32_outside (by omega)]
  split_ifs
  · simp [Memory.write]
  · rfl

theorem saveEntry_name (mode : SaveDirectoryEntryMode) (entryIndex : Int) (f : AfatfsFile) (block : Sector) :
    KeepsName entryIndex block (saveEntry mode entryIndex f block) := by
  by_cases deleted : mode = .deleted
  · refine .inr ?_
    rw [IsDeleted, saveEntry_first, if_pos deleted]
  · refine .inl fun i inside => ?_
    rw [filenameLength] at inside
    rw [saveEntry, Memory.write16_outside (by omega), Memory.write16_outside (by omega), Memory.write32_outside (by omega),
      if_neg deleted]

/-- Saving the entry of a file does not change its name. -/
theorem savedEntry_name {sector : Word} (mode : SaveDirectoryEntryMode) :
    KeepsName (volume.afatfs.files file).directoryEntryPos.entryIndex (volume.content sector)
      (volume.savedEntry file mode sector) := by
  by_cases here : sector = (volume.afatfs.files file).directoryEntryPos.sectorNumberPhysical
  · rw [Volume.savedEntry]
    split
    · exact .refl _ _
    · subst here
      rw [Function.update_self]
      exact saveEntry_name mode _ _ _
  · rw [savedEntry_other here]
    exact .refl _ _

/-- The rule of `afatfs_saveDirectoryEntry`. -/
theorem wp_saveDirectoryEntry {mode : SaveDirectoryEntryMode} (coherent : volume.Coherent)
    (entry : EntryOk volume.afatfs chains (volume.afatfs.files file).directoryEntryPos) :
    Wp (saveDirectoryEntry file mode) (fun status later =>
      status = .success ∧ Turns volume (volume.savedEntry file mode) later ∨
        status = .inProgress ∧ Turns volume volume.content later) volume := by
  rw [saveDirectoryEntry, wp_get_bind]
  dsimp only
  split_ifs with root
  · refine (wp_pure _).mpr (.inl ⟨rfl, ?_⟩)
    rw [Volume.savedEntry, if_pos root]
    exact .refl coherent
  · obtain root' | ⟨index, -, -⟩ := entry
    · exact absurd root' root
    apply Wp.bind
    apply (wp_cacheSector coherent.sound).mono
    rintro ⟨status, sector⟩ later opened
    have turns := opened.turns coherent rfl rfl rfl
    cases status with
    | success =>
      obtain ⟨slot, isSlot, holds, dirty, -⟩ := opened.hit rfl
      obtain rfl : sector = some slot := isSlot
      have holds := holds (.inl rfl)
      have memory := turns.coherent.content_of_holds holds
      rw [turns.content] at memory
      apply Wp.bind
      apply wp_afatfsAssert
      · intro _
        simp only [Bool.not_true, Bool.false_eq_true, if_false]
        rw [wp_modify_bind, wp_pure]
        refine .inl ⟨rfl, ?_⟩
        rw [← memory, turns.files, Volume.savedEntry, if_neg root]
        exact turns.change holds (dirty rfl)
      · intro fails
        exact absurd index (of_decide_eq_false fails)
    | inProgress =>
      obtain rfl : sector = none := opened.missed (by simp)
      exact (wp_pure _).mpr (.inr ⟨rfl, turns⟩)
    | failure => exact absurd (opened.failure.mp rfl).2 root

theorem saveEntry_cluster (mode : SaveDirectoryEntryMode) (entryIndex : Int) (f : AfatfsFile) (block : Sector) :
    entryCluster (saveEntry mode entryIndex f block) entryIndex = f.firstCluster := by
  have first := f.firstCluster.isLt
  rw [entryCluster, saveEntry, Memory.read16_write16_self, Memory.read16_write16_of_disjoint (by omega), Memory.read16_write16_self]
  apply BitVec.eq_of_toNat_eq
  rw [BitVec.toNat_or, BitVec.toNat_shiftLeft, BitVec.toNat_ofNat, BitVec.toNat_ofNat, Nat.shiftLeft_eq,
    Nat.mod_eq_of_lt (by omega), Nat.mod_eq_of_lt (by omega), ← Nat.shiftLeft_eq,
    ← Nat.shiftLeft_add_eq_or_of_lt (by omega), Nat.shiftLeft_eq]
  omega

theorem saveEntry_size (mode : SaveDirectoryEntryMode) (entryIndex : Int) (f : AfatfsFile) (block : Sector) :
    (saveEntry mode entryIndex f block).read32 (directoryEntrySize * entryIndex + 28) = (f.entryFileSize mode).toNat := by
  rw [saveEntry, Memory.read32_congr (fun cell _ _ => Memory.write16_outside (by omega)),
    Memory.read32_congr (fun cell _ _ => Memory.write16_outside (by omega)),
    Memory.read32_write32_self (f.entryFileSize mode).isLt]

theorem entryFileSize_le (f : AfatfsFile) (mode : SaveDirectoryEntryMode) :
    (f.entryFileSize mode).toNat ≤ if mode = .normal then f.physicalSize.toNat else f.logicalSize.toNat := by
  rw [AfatfsFile.entryFileSize.eq_def]
  split_ifs with isDirectory
  · exact Nat.zero_le _
  · exact Nat.zero_le _
  · rename_i normal
    rw [normal]
  · cases mode with
    | normal => contradiction
    | forClose => exact le_rfl
    | deleted => exact le_rfl

/-- The entry that was saved is right. -/
theorem FilesOk.saved_savedEntry {mode : SaveDirectoryEntryMode} (ok : FilesOk volume chains)
    (normal : (volume.afatfs.files file).HasChain file) (content : later.content = volume.savedEntry file mode)
    (disk : later.afatfs.disk = volume.afatfs.disk)
    (position : (later.afatfs.files file).directoryEntryPos = (volume.afatfs.files file).directoryEntryPos)
    (logical : (later.afatfs.files file).logicalSize = (volume.afatfs.files file).logicalSize)
    (whole : (volume.afatfs.files file).operation.appending = 0)
    (fits : mode = .deleted ∨ (volume.afatfs.files file).logicalSize.toNat ≤
      (chains (.file file)).length * volume.afatfs.clusterSize.toNat) : later.Saved file (chains (.file file)) := by
  have shape := (ok.isOpen file normal).shape
  have physical := shape.physical
  have room := shape.room
  rw [whole, Nat.add_zero] at physical room
  rw [Volume.Saved, position, content, logical, Volume.savedEntry]
  by_cases root : (volume.afatfs.files file).directoryEntryPos.sectorNumberPhysical = 0
  · exact .inl root
  · simp only [if_neg root, Function.update_self]
    rcases fits with rfl | fits
    · refine .inr (.inl ?_)
      rw [IsDeleted, saveEntry_first]
      rfl
    · refine .inr (.inr ⟨⟨?_, ?_, ?_⟩, ?_⟩)
      · have start := (ok.separate.threads (.file file)).start_eq
        rw [Afatfs.starts, if_pos normal] at start
        rw [saveEntry_cluster, Afatfs.congr_disk Afatfs.link (fun _ => rfl) disk]
        exact start
      · rw [saveEntry_size, Afatfs.congr_disk Afatfs.clusterSize (fun _ => rfl) disk]
        cases mode with
        | normal => exact (entryFileSize_le _ _).trans physical
        | forClose => exact (entryFileSize_le _ _).trans fits
        | deleted => exact (entryFileSize_le _ _).trans fits
      · rw [Afatfs.congr_disk Afatfs.clusterSize (fun _ => rfl) disk]
        exact room
      · rw [Afatfs.congr_disk Afatfs.clusterSize (fun _ => rfl) disk]
        exact fits

/-- Saving the entry of a file changes nothing that the invariant is about. -/
theorem wp_saveDirectoryEntry_works {mode : SaveDirectoryEntryMode} (ok : FilesOk volume chains)
    (normal : (volume.afatfs.files file).HasChain file) (opened : (volume.afatfs.files file).operation.opening = false)
    (closes : (volume.afatfs.files file).operation.unsaved = true ∨ (volume.afatfs.files file).operation = .close) :
    Wp (saveDirectoryEntry file mode) (fun status later => Works file NoSector volume chains later chains ∧
      later.afatfs.files = volume.afatfs.files ∧ (status = .success ∨ status = .inProgress) ∧
      (status = .success → later.content = volume.savedEntry file mode) ∧
      (status = .inProgress → later.content = volume.content)) volume := by
  have entry := (ok.isOpen file normal).entry opened
  apply (wp_saveDirectoryEntry ok.coherent entry).mono
  rintro status later (⟨rfl, turns⟩ | ⟨rfl, turns⟩)
  · refine ⟨ok.works_turns turns ?_ (fun _ _ outside _ => savedEntry_outside outside) (fun _ _ _ => savedEntry_name _)
      fun records unsaved => ?_, turns.files, .inl rfl, fun _ => turns.content, nofun⟩
    intro sector inTable
    obtain root | ⟨-, outside, -⟩ := entry
    · rw [Volume.savedEntry, if_pos root]
    · exact savedEntry_other fun same => outside (same ▸ inTable)
    · rw [turns.files] at unsaved
      have closing := closes.resolve_left (by rw [unsaved]; decide)
      have whole : (volume.afatfs.files file).operation.appending = 0 := by rw [closing]; rfl
      rcases records unsaved with root | deleted | ⟨-, fits⟩
      · exact .inl (by rw [turns.files]; exact root)
      · refine .inr (.inl ?_)
        rw [turns.files, turns.content]
        exact (savedEntry_name mode).isDeleted deleted
      · exact ok.saved_savedEntry normal turns.content turns.disk (by rw [turns.files]) (by rw [turns.files]) whole (.inr fits)
  · exact ⟨ok.works_turns_same turns, turns.files, .inr rfl, nofun, fun _ => turns.content⟩

/-! ## Appending -/

section

variable {link : Word → Option Word} {size limit k : Nat} {chain pending : List Word} {f f' : AfatfsFile}

theorem CursorAt.congr (cursor : CursorAt link size chain f k) (cluster : f'.cursorCluster = f.cursorCluster)
    (previous : f'.cursorPreviousCluster = f.cursorPreviousCluster) (offset : f'.cursorOffset = f.cursorOffset) :
    CursorAt link size chain f' k := by
  obtain ⟨bound, here, before, low, high, stop⟩ := cursor
  exact ⟨bound, by rwa [cluster], by rwa [previous], by rwa [offset], by rwa [offset], by rwa [offset]⟩

theorem AtRest.congr (rest : AtRest link size chain pending f) (cluster : f'.cursorCluster = f.cursorCluster)
    (previous : f'.cursorPreviousCluster = f.cursorPreviousCluster) (offset : f'.cursorOffset = f.cursorOffset) :
    AtRest link size chain pending f' :=
  ⟨rest.1, rest.2.imp fun _ cursor => cursor.congr cluster previous offset⟩

theorem AppendOk.congr {opState : AppendFreeCluster} (good : AppendOk link size limit chain pending f opState)
    (cluster : f'.cursorCluster = f.cursorCluster) (previous : f'.cursorPreviousCluster = f.cursorPreviousCluster)
    (offset : f'.cursorOffset = f.cursorOffset) : AppendOk link size limit chain pending f' opState := by
  rw [AppendOk] at good ⊢
  split at good
  · obtain ⟨nothing, cursor, before, more⟩ := good
    exact ⟨nothing, cursor.congr cluster previous offset, by rwa [previous], more⟩
  · rwa [cluster, previous, offset]
  · exact ⟨good.1, good.2.imp fun _ inside => ⟨inside.1, inside.2.congr cluster previous offset⟩⟩
  · exact ⟨good.1, good.2.imp fun _ inside => ⟨inside.1, inside.2.congr cluster previous offset⟩⟩
  · exact good.congr cluster previous offset
  · exact good

/-- The file has got a cluster more, and the cursor is at the beginning of that. -/
theorem FileShape.appended {cluster : Word} {opState : AppendFreeCluster} (positive : 0 < size)
    (here : link f.cursorCluster = some cluster) (previous : f.cursorPreviousCluster = chain.getLast?.getD 0)
    (offset : f.cursorOffset.toNat = chain.length * size) (physical : f.physicalSize.toNat ≤ (chain.length + 1) * size) (room : (chain.length + 1) * size < 2 ^ 32)
    (logical : f.logicalSize.toNat ≤ chain.length * size) (directory : f.mode.retainDirectory = false)
    (unlocked : f.Unlocked) (operation : f.operation = .appendFreeCluster opState)
    (phase : opState.phase = .updateFileDirectory) : FileShape link size limit (chain ++ [cluster]) [] f := by
  have next : (chain.length + 1) * size = chain.length * size + size := Nat.succ_mul _ _
  have cursor : CursorAt link size (chain ++ [cluster]) f chain.length := by
    refine ⟨by simp, by simpa using here, by simpa using previous, offset.ge, fun _ => by omega, ?_⟩
    intro last
    simp at last
  have appending : f.operation.appending = 0 := by simp [operation, FileOperation.appending, phase]
  refine ⟨?_, ?_, ?_, fun _ => ?_, directory, .inl unlocked⟩
  · simp only [OperationOk, operation, AppendOk, phase]
    exact ⟨⟨trivial, chain.length, by simp, cursor⟩, unlocked⟩
  · simpa [appending] using physical
  · simpa [appending] using room
  · simp only [List.length_append, List.length_singleton]
    omega

end

/-- A file whose operation is given a new state. -/
theorem FilesOk.setOperation (ok : FilesOk volume chains) (normal : (volume.afatfs.files file).HasChain file)
    (unlocked : (volume.afatfs.files file).Unlocked) {operation : FileOperation}
    (pending : volume.afatfs.link operation.pendingCluster =
      volume.afatfs.link (volume.afatfs.files file).operation.pendingCluster)
    (appending : operation.appending = (volume.afatfs.files file).operation.appending)
    (closing : operation.closing = false → (volume.afatfs.files file).operation.closing = false)
    (busy : operation = .none ∨ file ≠ .currentDirectory)
    (opening : operation.opening = (volume.afatfs.files file).operation.opening)
    (saved : operation.unsaved = false →
      (volume.afatfs.files file).operation.unsaved = false ∨ volume.Saved file (chains (.file file)))
    (good : OperationOk volume.afatfs.link volume.afatfs.clusterSize.toNat (volume.afatfs.numClusters.toNat + 2)
      (chains (.file file)) (chains (.pending file)) { volume.afatfs.files file with operation }) :
    Works file written volume chains
      { volume with afatfs := volume.afatfs.updateFile file fun f => { f with operation } } chains := by
  have shape := (ok.isOpen file normal).shape
  refine ok.record normal (.inl unlocked) ⟨rfl, rfl, rfl, rfl⟩ rfl rfl busy.neg_resolve_right opening rfl pending
    saved (.inr (.inl rfl)) ?_
  exact ⟨good, by rw [appending]; exact shape.physical, by rw [appending]; exact shape.room,
    fun goesOn => shape.logical (closing goesOn), shape.directory, .inl unlocked⟩

/-- The state of an operation that appends a cluster. -/
def Volume.appendState (file : FileRef) (opState : AppendFreeCluster) (volume : Volume) : Volume :=
  { volume with
    afatfs := volume.afatfs.updateFile file fun f => { f with operation := .appendFreeCluster opState } }

/-- How an operation that appends a cluster is left. -/
structure Appended (file : FileRef) (volume : Volume) (chains : Owner → List Word)
    (status : OperationStatus) (later : Volume) (chains' : Owner → List Word) : Prop
    extends Works file NoSector volume chains later chains' where
  grows : chains (.file file) <+: chains' (.file file)
  kind : SameKind (volume.afatfs.files file) (later.afatfs.files file)
  offset : (later.afatfs.files file).cursorOffset = (volume.afatfs.files file).cursorOffset
  logical : (later.afatfs.files file).logicalSize = (volume.afatfs.files file).logicalSize
  ended : status ≠ .inProgress → (later.afatfs.files file).operation = .none
  waits : status = .inProgress → ∃ opState, (later.afatfs.files file).operation = .appendFreeCluster opState
  ready : status = .success → (later.afatfs.files file).Unlocked ∧
    later.afatfs.link (later.afatfs.files file).cursorCluster ≠ none

/-- What was done before is put in front. -/
theorem Appended.after {mid : Volume} {between : Owner → List Word} {status : OperationStatus}
    (works : Works file NoSector volume chains mid between) (grows : chains (.file file) <+: between (.file file))
    (kind : SameKind (volume.afatfs.files file) (mid.afatfs.files file))
    (offset : (mid.afatfs.files file).cursorOffset = (volume.afatfs.files file).cursorOffset)
    (logical : (mid.afatfs.files file).logicalSize = (volume.afatfs.files file).logicalSize)
    (appended : Appended file mid between status later chains') :
    Appended file volume chains status later chains' where
  toWorks := works.trans appended.toWorks
  grows := grows.trans appended.grows
  kind := kind.trans appended.kind
  offset := appended.offset.trans offset
  logical := appended.logical.trans logical
  ended := appended.ended
  waits := appended.waits
  ready := appended.ready

section Phases

variable {opState : AppendFreeCluster} {n : Nat}

theorem wp_append_complete (ok : FilesOk volume chains) (normal : (volume.afatfs.files file).HasChain file)
    (operation : (volume.afatfs.files file).operation = .appendFreeCluster opState) (phase : opState.phase = .complete) :
    Wp (repeated (appendPhase file) (n + 1) opState)
      (fun status later => ∃ chains', Appended file volume chains status later chains') volume := by
  have shape := (ok.isOpen file normal).shape
  have good := shape.operation
  simp only [OperationOk, operation, AppendOk, phase] at good
  obtain ⟨⟨nothing, k, inside, cursor⟩, unlocked⟩ := good
  rw [repeated]
  apply Wp.bind
  simp only [appendPhase, phase]
  refine (wp_modify_bind _).mpr ((wp_pure _).mpr ((wp_pure _).mpr ⟨chains, ?_⟩))
  have works : Works file NoSector volume chains
      { volume with afatfs := volume.afatfs.updateFile file fun f => { f with operation := .none } } chains := by
    refine ok.setOperation normal unlocked ?_ ?_ (by simp [operation, FileOperation.closing]) (.inl rfl)
      (by simp [operation, FileOperation.opening]) (fun _ => .inl (by simp [operation, FileOperation.unsaved, phase]))
      ⟨nothing, k, cursor.congr rfl rfl rfl⟩
    · simp [operation, FileOperation.pendingCluster, phase]
    · simp [operation, FileOperation.appending, phase]
  refine ⟨works, List.prefix_rfl, ⟨by simp, by simp⟩, by simp, by simp, by simp, by simp, fun _ => ⟨?_, ?_⟩⟩
  · simpa [AfatfsFile.Unlocked] using unlocked
  · have here := cursor.here
    rw [List.getElem?_eq_getElem inside] at here
    simp only [Afatfs.updateFile_self]
    exact fun missing => by cases missing.symm.trans here

/-- The operation has got to another phase, in which no more and no less is pending. -/
theorem works_appendState {before : AppendFreeCluster} (ok : FilesOk volume chains)
    (normal : (volume.afatfs.files file).HasChain file)
    (operation : (volume.afatfs.files file).operation = .appendFreeCluster before)
    (unlocked : (volume.afatfs.files file).Unlocked)
    (second : opState.phase = .updateFat2 ↔ before.phase = .updateFat2)
    (search : opState.phase = .updateFat2 → opState.searchCluster = before.searchCluster)
    (saved : opState.phase ≠ .updateFileDirectory →
      before.phase ≠ .updateFileDirectory ∨ volume.Saved file (chains (.file file)))
    (good : AppendOk volume.afatfs.link volume.afatfs.clusterSize.toNat (volume.afatfs.numClusters.toNat + 2)
      (chains (.file file)) (chains (.pending file)) (volume.afatfs.files file) opState) :
    Works file written volume chains (volume.appendState file opState) chains := by
  have notCurrent : file ≠ .currentDirectory := ok.elsewhere_of_busy (by simp [operation])
  refine ok.setOperation normal unlocked ?_ ?_ (by simp [operation, FileOperation.closing]) (.inr notCurrent)
    (by simp [operation, FileOperation.opening]) ?_ ⟨good.congr rfl rfl rfl, unlocked⟩
  · apply congrArg
    simp only [operation, FileOperation.pendingCluster, second]
    split_ifs with is
    · exact search (second.mpr is)
    · rfl
  · simp only [operation, FileOperation.appending, second]
  · simpa [operation, FileOperation.unsaved] using saved

@[simp] theorem appendState_file : (volume.appendState file opState).afatfs.files file =
    { volume.afatfs.files file with operation := .appendFreeCluster opState } := by
  simp [Volume.appendState]

theorem appendState_hasChain :
    ((volume.appendState file opState).afatfs.files file).HasChain file ↔ (volume.afatfs.files file).HasChain file :=
  SameKind.hasChain ⟨by simp, by simp⟩

/-- The operation waits. -/
theorem appended_waiting {before : AppendFreeCluster} (ok : FilesOk volume chains)
    (normal : (volume.afatfs.files file).HasChain file)
    (operation : (volume.afatfs.files file).operation = .appendFreeCluster before)
    (unlocked : (volume.afatfs.files file).Unlocked)
    (second : opState.phase = .updateFat2 ↔ before.phase = .updateFat2)
    (search : opState.phase = .updateFat2 → opState.searchCluster = before.searchCluster)
    (saved : opState.phase ≠ .updateFileDirectory →
      before.phase ≠ .updateFileDirectory ∨ volume.Saved file (chains (.file file)))
    (good : AppendOk volume.afatfs.link volume.afatfs.clusterSize.toNat (volume.afatfs.numClusters.toNat + 2)
      (chains (.file file)) (chains (.pending file)) (volume.afatfs.files file) opState) :
    Appended file volume chains .inProgress (volume.appendState file opState) chains :=
  ⟨works_appendState ok normal operation unlocked second search saved good, List.prefix_rfl, ⟨by simp, by simp⟩, by simp, by simp,
    by simp, fun _ => ⟨opState, by simp⟩, nofun⟩

theorem wp_append_directory (ok : FilesOk volume chains) (normal : (volume.afatfs.files file).HasChain file)
    (operation : (volume.afatfs.files file).operation = .appendFreeCluster opState)
    (phase : opState.phase = .updateFileDirectory) :
    Wp (repeated (appendPhase file) (n + 2) opState)
      (fun status later => ∃ chains', Appended file volume chains status later chains') volume := by
  rw [repeated]
  apply Wp.bind
  simp only [appendPhase, phase]
  apply Wp.bind
  apply (wp_saveDirectoryEntry_works ok normal (by simp [operation, FileOperation.opening])
    (.inl (by simp [operation, FileOperation.unsaved, phase]))).mono
  rintro status mid ⟨works, files, which, content, -⟩
  have same := congrFun files file
  have normal' : (mid.afatfs.files file).HasChain file := same ▸ normal
  have operation' : (mid.afatfs.files file).operation = .appendFreeCluster opState := by rw [same, operation]
  have after {status' : OperationStatus} {later : Volume} {chains' : Owner → List Word}
      (appended : Appended file mid chains status' later chains') :
      Appended file volume chains status' later chains' :=
    appended.after works List.prefix_rfl (.of_eq same) (by rw [same]) (by rw [same])
  obtain ⟨good, unlocked⟩ : AppendOk mid.afatfs.link mid.afatfs.clusterSize.toNat (mid.afatfs.numClusters.toNat + 2)
      (chains (.file file)) (chains (.pending file)) (mid.afatfs.files file) opState ∧ (mid.afatfs.files file).Unlocked := by
    have shaped := (works.ok.isOpen file normal').shape.operation
    rwa [OperationOk, operation'] at shaped
  obtain rfl | rfl := which
  · refine (wp_modify_bind _).mpr ((wp_pure _).mpr ?_)
    have saved : mid.Saved file (chains (.file file)) := by
      refine ok.saved_savedEntry normal (content rfl) works.disk (by rw [same]) (by rw [same]) ?_ (.inr ?_)
      · simp [operation, FileOperation.appending, phase]
      · exact (ok.isOpen file normal).shape.logical (by simp [operation, FileOperation.closing])
    have completes : Works file NoSector mid chains (mid.appendState file { opState with phase := .complete }) chains :=
      works_appendState works.ok normal' operation' unlocked (by simp [phase]) (by simp) (fun _ => .inr saved)
        (by simpa only [AppendOk, phase] using good)
    apply (wp_append_complete completes.ok (appendState_hasChain.mpr normal') (by simp) rfl).mono
    rintro status later ⟨chains', appended⟩
    exact ⟨chains', after (appended.after completes List.prefix_rfl ⟨by simp, by simp⟩ (by simp) (by simp))⟩
  · refine (wp_modify_bind _).mpr ((wp_pure _).mpr ((wp_pure _).mpr ⟨chains, after ?_⟩))
    exact appended_waiting works.ok normal' operation' unlocked Iff.rfl (fun _ => rfl) .inl good

/-- The new cluster is behind the last one of the chain, and the entry of the file is next. -/
theorem works_linked {mid : Volume} {front : List Word} (ok : FilesOk volume chains)
    (normal : (volume.afatfs.files file).HasChain file)
    (operation : (volume.afatfs.files file).operation = .appendFreeCluster opState) (phase : opState.phase = .updateFat2)
    (ends : chains (.file file) = front ++ [opState.previousCluster])
    (isCluster : volume.afatfs.IsCluster opState.previousCluster) (isCluster' : volume.afatfs.IsCluster opState.searchCluster)
    (turns : Turns volume (volume.afatfs.setFatEntry volume.content opState.previousCluster opState.searchCluster) mid) :
    Works file NoSector volume chains (mid.appendState file { opState with phase := .updateFileDirectory })
      (Function.update (Function.update chains (.file file) (front ++ [opState.previousCluster] ++ [opState.searchCluster]))
        (.pending file) []) := by
  have shape := (ok.isOpen file normal).shape
  have good := shape.operation
  simp only [OperationOk, operation, AppendOk, phase] at good
  obtain ⟨⟨single, -, leads, here, -, before, offset⟩, unlocked⟩ := good
  have files := turns.files
  have serves : Serves file volume (mid.appendState file { opState with phase := .updateFileDirectory }) :=
    turns.toServes.trans (serves_updateFile turns.coherent ⟨rfl, rfl, rfl, rfl⟩)
  have elsewhere : ∀ owner, owner ≠ .file file → owner ≠ .pending file →
      Function.update (Function.update chains (.file file) (front ++ [opState.previousCluster] ++ [opState.searchCluster]))
        (.pending file) [] owner = chains owner := by
    intro owner notFile notPending
    rw [Function.update_of_ne notPending, Function.update_of_ne notFile]
  apply ok.setEntry normal isCluster serves
  · exact turns.content
  · rw [appendState_file, files]
  · rw [appendState_file, files]
  · have hint := turns.same (·.lastClusterAllocated) fun _ => rfl
    exact hint ▸ ok.hint
  · exact elsewhere
  · exact ok.elsewhere_of_busy (by simp [operation])
  · simp [operation, FileOperation.opening]
  · have first : volume.afatfs.link (volume.afatfs.files file).firstCluster = volume.afatfs.starts chains (.file file) :=
      (if_pos normal).symm
    rw [Afatfs.starts_eq serves.disk serves.files elsewhere (serves.locks.hasChain.mpr normal), appendState_file, files,
      first, Function.update_eq_self, ok.geometry.entryOf_stored isCluster']
    exact ok.separate.link (by simp) ends single
  · rw [ok.geometry.entryOf_stored isCluster']
    exact fun _ => Stray.of_link (by simp) ends single
  · rw [appendState_file, files]
    exact unlocked
  · simp [FileOperation.unsaved]
  · rw [appendState_file, files]
  · rw [appendState_file, files, Function.update_self, Function.update_of_ne (by simp), Function.update_self, ← ends]
    apply FileShape.appended ok.geometry.clusterSize_pos
    · simpa [here] using leads
    · exact before
    · exact offset
    · simpa [operation, FileOperation.appending, phase] using shape.physical
    · simpa [operation, FileOperation.appending, phase] using shape.room
    · exact shape.logical (by simp [operation, FileOperation.closing])
    · exact shape.directory
    · exact unlocked
    · rfl
    · rfl

theorem wp_append_second (ok : FilesOk volume chains) (normal : (volume.afatfs.files file).HasChain file)
    (operation : (volume.afatfs.files file).operation = .appendFreeCluster opState) (phase : opState.phase = .updateFat2) :
    Wp (repeated (appendPhase file) (n + 3) opState)
      (fun status later => ∃ chains', Appended file volume chains status later chains') volume := by
  have good := (ok.isOpen file normal).shape.operation
  simp only [OperationOk, operation, AppendOk, phase] at good
  obtain ⟨⟨single, used, -, -, previous, -, -⟩, -⟩ := good
  -- the cluster is appended to the last one of the chain
  obtain ⟨front, last, ends⟩ := (List.eq_nil_or_concat' _).resolve_left used
  have isLast : last ∈ chains (.file file) := by simp [ends]
  have isPlace : opState.searchCluster ∈ chains (.pending file) := by simp [single]
  have isCluster := (Afatfs.fatTable_ne_none ((ok.separate.threads (.file file)).used last isLast)).1
  have isCluster' := (Afatfs.fatTable_ne_none ((ok.separate.threads (.pending file)).used _ isPlace)).1
  obtain rfl : last = opState.previousCluster := by simpa [ends] using previous.symm
  rw [repeated]
  apply Wp.bind
  simp only [appendPhase, phase]
  apply Wp.bind
  apply (wp_fatSetNextCluster ok.coherent ok.geometry isCluster).mono
  rintro status mid (⟨rfl, turns⟩ | ⟨rfl, turns, -⟩)
  · refine (wp_modify_bind _).mpr ((wp_pure _).mpr ?_)
    have files := turns.files
    have normal' : (mid.afatfs.files file).HasChain file := files ▸ normal
    have works := works_linked ok normal operation phase ends isCluster isCluster' turns
    apply (wp_append_directory works.ok (appendState_hasChain.mpr normal') (by simp) rfl).mono
    rintro status later ⟨chains', appended⟩
    refine ⟨chains', appended.after works ?_ ⟨by simp [files], by simp [files]⟩ (by simp [files]) (by simp [files])⟩
    simp [ends]
  · have files := turns.files
    have works : Works file NoSector volume chains mid chains :=
      ok.works_turns_same turns
    have normal' : (mid.afatfs.files file).HasChain file := files ▸ normal
    have operation' : (mid.afatfs.files file).operation = .appendFreeCluster opState := by rw [files, operation]
    obtain ⟨good, unlocked⟩ : AppendOk mid.afatfs.link mid.afatfs.clusterSize.toNat (mid.afatfs.numClusters.toNat + 2)
        (chains (.file file)) (chains (.pending file)) (mid.afatfs.files file) opState ∧ (mid.afatfs.files file).Unlocked := by
      have shaped := (works.ok.isOpen file normal').shape.operation
      rwa [OperationOk, operation'] at shaped
    refine (wp_modify_bind _).mpr ((wp_pure _).mpr ((wp_pure _).mpr ⟨chains, ?_⟩))
    exact (appended_waiting works.ok normal' operation' unlocked Iff.rfl (fun _ => rfl) .inl good).after works
      List.prefix_rfl (.of_eq (congrFun files file)) (by rw [files]) (by rw [files])

/-! ### The cluster that was found -/

/-- The free cluster that was found is the file's, but its entry is not written yet. -/
def Volume.taken (file : FileRef) (opState : AppendFreeCluster) (volume : Volume) : Volume :=
  { volume with
    afatfs := (volume.afatfs.takeCluster file opState).updateFile file fun f =>
      { f with operation := .appendFreeCluster { opState with phase := .updateFat1 } } }

@[simp] theorem taken_file : (volume.taken file opState).afatfs.files file =
    { volume.afatfs.files file with
      cursorCluster := opState.searchCluster
      physicalSize := (volume.afatfs.files file).physicalSize + volume.afatfs.clusterSize
      firstCluster := if opState.previousCluster = 0 then opState.searchCluster else (volume.afatfs.files file).firstCluster
      operation := .appendFreeCluster { opState with phase := .updateFat1 } } := by
  simp [Volume.taken, Afatfs.takeCluster]

theorem serves_taken (coherent : volume.Coherent) : Serves file volume (volume.taken file opState) := by
  refine SameCache.serves ⟨rfl, rfl, rfl, rfl, rfl, rfl⟩ coherent rfl ?_ ?_
  · intro other elsewhere
    simp [Volume.taken, Afatfs.takeCluster, Afatfs.updateFile_other elsewhere]
  · rw [taken_file]
    exact ⟨rfl, rfl, rfl, rfl⟩

section Take

variable {mid : Volume}

/-- A free cluster was found for the file, and its entry is in the cache. -/
structure Found (file : FileRef) (opState : AppendFreeCluster) (volume : Volume) (chains : Owner → List Word) : Prop where
  ok : FilesOk volume chains
  normal : (volume.afatfs.files file).HasChain file
  notCurrent : file ≠ .currentDirectory
  pending : (volume.afatfs.files file).operation.pendingCluster = 0
  appending : (volume.afatfs.files file).operation.appending = 0
  closing : (volume.afatfs.files file).operation.closing = false
  saved : (volume.afatfs.files file).operation.unsaved = false
  unlocked : (volume.afatfs.files file).Unlocked
  isCluster : volume.afatfs.IsCluster opState.searchCluster
  free : volume.fatValue opState.searchCluster = 0
  good : AppendOk volume.afatfs.link volume.afatfs.clusterSize.toNat (volume.afatfs.numClusters.toNat + 2)
    (chains (.file file)) (chains (.pending file)) (volume.afatfs.files file) { opState with phase := .findFreespace }

namespace Found

theorem shape (found : Found file opState volume chains) : FileShape volume.afatfs.link volume.afatfs.clusterSize.toNat (volume.afatfs.numClusters.toNat + 2)
    (chains (.file file)) (chains (.pending file)) (volume.afatfs.files file) :=
  (found.ok.isOpen file found.normal).shape

theorem last (found : Found file opState volume chains) :
    (volume.afatfs.files file).cursorPreviousCluster = (chains (.file file)).getLast?.getD 0 := by
  simpa using found.good.2.1.previous

/-- Only the first cluster of a file has none before it. -/
theorem first (found : Found file opState volume chains) :
    opState.previousCluster = 0 ↔ chains (.file file) = [] := by
  have before : opState.previousCluster = _ := found.good.2.2.1
  rw [before, found.last]
  constructor
  · intro zero
    by_contra used
    obtain ⟨front, cluster, ends⟩ := (List.eq_nil_or_concat' _).resolve_left used
    have threads := found.ok.separate.threads (.file file)
    have isIn := (Afatfs.fatTable_ne_none (threads.used cluster (by simp [ends]))).1.1
    obtain rfl : cluster = 0 := by simpa [ends] using zero
    exact absurd isIn (by decide)
  · intro none
    rw [none]
    rfl

theorem physical (found : Found file opState volume chains) : ((volume.afatfs.files file).physicalSize + volume.afatfs.clusterSize).toNat ≤
    ((chains (.file file)).length + 1) * volume.afatfs.clusterSize.toNat := by
  have before := found.shape.physical
  rw [found.appending, Nat.add_zero] at before
  rw [Nat.succ_mul, BitVec.toNat_add]
  exact (Nat.mod_le _ _).trans (Nat.add_le_add_right before _)

/-- Where the chains begin once the file has the cluster. -/
theorem starts {content : Word → Sector} {phase : AppendFreeClusterPhase} (found : Found file opState volume chains)
    (turns : Turns (volume.taken file opState) content mid)
    (elsewhere : ∀ owner, owner ≠ .file file → owner ≠ .pending file → chains' owner = chains owner) :
    (mid.appendState file { opState with phase }).afatfs.starts chains' = Function.update (Function.update
      (volume.afatfs.starts chains) (.file file)
        (volume.afatfs.link (if opState.previousCluster = 0 then opState.searchCluster
          else (volume.afatfs.files file).firstCluster)))
      (.pending file) (volume.afatfs.link (FileOperation.appendFreeCluster { opState with phase }).pendingCluster) := by
  have serves : Serves file volume (mid.appendState file { opState with phase }) :=
    ((serves_taken found.ok.coherent).trans turns.toServes).trans (serves_updateFile turns.coherent ⟨rfl, rfl, rfl, rfl⟩)
  rw [Afatfs.starts_eq serves.disk serves.files elsewhere (serves.locks.hasChain.mpr found.normal)]
  simp [Volume.appendState, turns.files]

/-- The entry of the cluster is written, and the operation goes on. -/
theorem works {phase : AppendFreeClusterPhase} {key : Owner} (found : Found file opState volume chains)
    (turns : Turns (volume.taken file opState)
      (volume.afatfs.setFatEntry volume.content opState.searchCluster 0xFFFFFFFF) mid)
    (own : key = .file file ∧ phase = .updateFileDirectory ∨ key = .pending file) (empty : chains key = [])
    (starts : (mid.appendState file { opState with phase }).afatfs.starts
        (Function.update chains key [opState.searchCluster]) =
      Function.update (volume.afatfs.starts chains) key (some opState.searchCluster))
    (shape : FileShape volume.afatfs.link volume.afatfs.clusterSize.toNat (volume.afatfs.numClusters.toNat + 2)
      (Function.update chains key [opState.searchCluster] (.file file))
      (Function.update chains key [opState.searchCluster] (.pending file))
      ((mid.appendState file { opState with phase }).afatfs.files file)) :
    Works file NoSector volume chains (mid.appendState file { opState with phase })
      (Function.update chains key [opState.searchCluster]) := by
  have ok := found.ok
  have files := turns.files
  apply ok.setEntry found.normal found.isCluster
  · exact ((serves_taken ok.coherent).trans turns.toServes).trans
      (serves_updateFile turns.coherent ⟨rfl, rfl, rfl, rfl⟩)
  · exact turns.content
  · rw [appendState_file, files, taken_file]
  · rw [appendState_file, files, taken_file]
  · have hint : (mid.appendState file { opState with phase }).afatfs.lastClusterAllocated = opState.searchCluster :=
      turns.same (·.lastClusterAllocated) fun _ => rfl
    obtain ⟨low, high⟩ := found.isCluster
    rw [hint]
    omega
  · intro owner notFile notPending
    rw [Function.update_of_ne]
    rintro rfl
    exact own.elim (fun both => notFile both.1) notPending
  · exact found.notCurrent
  · rw [opening_of_saved found.saved]
    simp [FileOperation.opening]
  · have table : volume.fatTable opState.searchCluster = none := Afatfs.fatTable_of_free found.isCluster found.free
    rw [starts, Afatfs.entryOf_end ok.geometry]
    exact ok.separate.mark table empty
  · rw [Afatfs.entryOf_end ok.geometry]
    exact fun _ => Stray.of_mark empty
  · rw [appendState_file, files, taken_file]
    exact found.unlocked
  · intro saved
    rcases own with ⟨-, rfl⟩ | rfl
    · simp [FileOperation.unsaved] at saved
    · exact ⟨found.saved, Function.update_of_ne (by simp) _ _⟩
  · rw [appendState_file, files, taken_file]
  · exact shape

/-- It is the first one of the file. -/
theorem works_first (found : Found file opState volume chains) (turns : Turns (volume.taken file opState)
      (volume.afatfs.setFatEntry volume.content opState.searchCluster 0xFFFFFFFF) mid)
    (chainless : chains (.file file) = []) :
    Works file NoSector volume chains (mid.appendState file { opState with phase := .updateFileDirectory })
      (Function.update chains (.file file) [opState.searchCluster]) := by
  have ok := found.ok
  have leads := ok.geometry.link_cluster found.isCluster
  have linkless : volume.afatfs.link 0 = none := if_pos (.inl rfl)
  apply found.works turns (.inl ⟨rfl, rfl⟩) chainless
  · have idle : volume.afatfs.starts chains (.pending file) = none := by
      rw [Afatfs.starts, found.pending, linkless]
    rw [found.starts turns fun owner notFile _ => Function.update_of_ne notFile _ _, if_pos (found.first.mpr chainless),
      leads, Function.update_eq_self_iff, Function.update_of_ne (by simp), idle]
    exact linkless
  · rw [appendState_file, turns.files, taken_file, Function.update_self, Function.update_of_ne (by simp), found.good.1]
    change FileShape _ _ _ ([] ++ [opState.searchCluster]) _ _
    apply FileShape.appended ok.geometry.clusterSize_pos
    · exact leads
    · simpa [chainless] using found.last
    · simpa [chainless] using found.good.2.1.stop rfl
    · simpa [chainless] using found.physical
    · simpa [chainless] using found.good.2.2.2.2.2
    · simpa [chainless] using found.shape.logical found.closing
    · exact found.shape.directory
    · exact found.unlocked
    · rfl
    · rfl

/-- It is to be appended to the chain that the file has. -/
theorem works_next (found : Found file opState volume chains) (turns : Turns (volume.taken file opState)
      (volume.afatfs.setFatEntry volume.content opState.searchCluster 0xFFFFFFFF) mid)
    (chained : chains (.file file) ≠ []) :
    Works file NoSector volume chains (mid.appendState file { opState with phase := .updateFat2 })
      (Function.update chains (.pending file) [opState.searchCluster]) := by
  have ok := found.ok
  have leads := ok.geometry.link_cluster found.isCluster
  obtain ⟨nothing, cursor, before, -, -, room⟩ := found.good
  apply found.works turns (.inr rfl) nothing
  · have same : volume.afatfs.link (volume.afatfs.files file).firstCluster = volume.afatfs.starts chains (.file file) :=
      (if_pos found.normal).symm
    rw [found.starts turns fun owner _ notPending => Function.update_of_ne notPending _ _,
      if_neg (mt found.first.mp chained), same, Function.update_eq_self]
    exact congrArg _ leads
  · rw [appendState_file, turns.files, taken_file, Function.update_self, Function.update_of_ne (by simp)]
    refine ⟨?_, found.physical, room, fun _ => found.shape.logical found.closing, found.shape.directory,
      .inl found.unlocked⟩
    exact ⟨⟨rfl, chained, leads, rfl, found.last ▸ before, found.last, cursor.stop rfl⟩, found.unlocked⟩

end Found

/-- The first phase that writes to the table.  The sector of the entry is in the cache since the search. -/
theorem wp_append_first {slot : Slot} (found : Found file opState volume chains)
    (holds : volume.writeBack.Holds slot (volume.afatfs.fatSector opState.searchCluster)) :
    Wp (repeated (appendPhase file) (n + 4) { opState with phase := .updateFat1 })
      (fun status later => ∃ chains', Appended file volume chains status later chains')
      (volume.taken file opState) := by
  have serves : Serves file volume (volume.taken file opState) := serves_taken found.ok.coherent
  have content : (volume.taken file opState).content = volume.content :=
    SameCache.same_content ⟨rfl, rfl, rfl, rfl, rfl, rfl⟩
  have geometry := found.ok.geometry.congr_disk serves.disk
  rw [repeated]
  apply Wp.bind
  simp only [appendPhase]
  apply Wp.bind
  apply (wp_fatSetNextCluster serves.coherent geometry found.isCluster).mono
  rintro status mid (⟨rfl, turns⟩ | ⟨-, -, missing⟩)
  · rw [content] at turns
    have files := turns.files
    have normal' : (mid.afatfs.files file).HasChain file := by
      rw [files, taken_file]
      exact found.normal
    refine (wp_modify_bind _).mpr ((wp_pure _).mpr ?_)
    by_cases chainless : chains (.file file) = []
    · have works := found.works_first turns chainless
      rw [if_neg (not_not.mpr (found.first.mpr chainless))]
      apply (wp_append_directory (n := n + 1) works.ok (appendState_hasChain.mpr normal') (by simp) rfl).mono
      rintro status later ⟨chains', appended⟩
      exact ⟨chains', appended.after works (by simp [chainless]) ⟨by simp [files], by simp [files]⟩ (by simp [files]) (by simp [files])⟩
    · have works := found.works_next turns chainless
      rw [if_pos (mt found.first.mp chainless)]
      apply (wp_append_second works.ok (appendState_hasChain.mpr normal') (by simp) rfl).mono
      rintro status later ⟨chains', appended⟩
      exact ⟨chains', appended.after works (by simp) ⟨by simp [files], by simp [files]⟩ (by simp [files]) (by simp [files])⟩
  · exact absurd holds (missing slot)

end Take

theorem wp_append_failure (ok : FilesOk volume chains) (normal : (volume.afatfs.files file).HasChain file)
    (operation : (volume.afatfs.files file).operation = .appendFreeCluster opState) (phase : opState.phase = .failure) :
    Wp (repeated (appendPhase file) (n + 1) opState)
      (fun status later => ∃ chains', Appended file volume chains status later chains') volume := by
  have good := (ok.isOpen file normal).shape.operation
  simp only [OperationOk, operation, AppendOk, phase] at good
  obtain ⟨rest, unlocked⟩ := good
  rw [repeated]
  apply Wp.bind
  simp only [appendPhase, phase]
  refine (wp_modify_bind _).mpr ((wp_modify_bind _).mpr ((wp_pure _).mpr ((wp_pure _).mpr ⟨chains, ?_⟩)))
  have ends : Works file NoSector volume chains
      { volume with afatfs := volume.afatfs.updateFile file fun f => { f with operation := .none } } chains := by
    refine ok.setOperation normal unlocked ?_ ?_ (by simp [operation, FileOperation.closing]) (.inl rfl)
      (by simp [operation, FileOperation.opening]) (fun _ => .inl (by simp [operation, FileOperation.unsaved, phase]))
      (rest.congr rfl rfl rfl)
    · simp [operation, FileOperation.pendingCluster, phase]
    · simp [operation, FileOperation.appending, phase]
  have works : Works file NoSector volume chains
      { volume with
        afatfs := { volume.afatfs.updateFile file fun f => { f with operation := .none } with filesystemFull := true } } chains :=
    ends.trans (ends.ok.sameFiles ⟨rfl, rfl, rfl, rfl, rfl, rfl⟩ rfl rfl ok.hint)
  exact ⟨works, List.prefix_rfl, ⟨by simp, by simp⟩, by simp, by simp, by simp, by simp, by simp⟩

theorem wp_append_find (ok : FilesOk volume chains) (normal : (volume.afatfs.files file).HasChain file)
    (operation : (volume.afatfs.files file).operation = .appendFreeCluster opState) (phase : opState.phase = .findFreespace) :
    Wp (repeated (appendPhase file) (n + 5) opState)
      (fun status later => ∃ chains', Appended file volume chains status later chains') volume := by
  have good := (ok.isOpen file normal).shape.operation
  simp only [OperationOk, operation, AppendOk, phase] at good
  obtain ⟨⟨nothing, cursor, before, low, high, room⟩, unlocked⟩ := good
  have few := ok.geometry.numClusters_lt
  have limit : (volume.afatfs.numClusters + smallestLegalClusterNumber).toNat = volume.afatfs.numClusters.toNat + 2 := by
    rw [smallestLegalClusterNumber]
    bv_omega
  rw [repeated]
  apply Wp.bind
  simp only [appendPhase, phase]
  rw [wp_get_bind]
  apply Wp.bind
  apply (wp_findClusterWithCondition (by simp) ok.coherent ok.geometry limit.le (by bv_omega)).mono
  rintro ⟨status, cluster⟩ mid ⟨turns, finds, held⟩
  have files := turns.files
  have works : Works file NoSector volume chains mid chains :=
    ok.works_turns_same turns
  have after {status' : OperationStatus} {later : Volume} {chains' : Owner → List Word}
      (appended : Appended file mid chains status' later chains') :
      Appended file volume chains status' later chains' :=
    appended.after works List.prefix_rfl (.of_eq (congrFun files file)) (by rw [files]) (by rw [files])
  have normal' : (mid.afatfs.files file).HasChain file := files ▸ normal
  have operation' : (mid.afatfs.files file).operation = .appendFreeCluster opState := by rw [files, operation]
  have shape' := (works.ok.isOpen file normal').shape
  obtain ⟨good, unlocked⟩ : AppendOk mid.afatfs.link mid.afatfs.clusterSize.toNat (mid.afatfs.numClusters.toNat + 2)
      (chains (.file file)) (chains (.pending file)) (mid.afatfs.files file) opState ∧ (mid.afatfs.files file).Unlocked := by
    have shaped := shape'.operation
    rwa [OperationOk, operation'] at shaped
  have behind := finds.behind
  have inside := finds.inside
  have count : mid.afatfs.numClusters = volume.afatfs.numClusters := turns.same (·.numClusters) fun _ => rfl
  cases status with
  | found =>
    obtain ⟨below, free⟩ := finds.ends
    obtain ⟨slot, holds⟩ := held rfl
    have zero : volume.fatValue cluster = 0 := by simpa [fatIsFreeSpace] using free
    have isCluster : mid.afatfs.IsCluster cluster := by
      have notReserved : cluster ≠ 1 := by
        rintro rfl
        exact ok.reserved zero
      rw [Afatfs.IsCluster, count]
      bv_omega
    have zero' : mid.fatValue cluster = 0 := by
      rw [fatValue_congr ok.geometry turns.disk (fun sector _ => congrFun turns.content sector) (count ▸ isCluster.2), zero]
    have sector : mid.afatfs.fatSector cluster = volume.afatfs.fatSector cluster :=
      turns.same (·.fatSector cluster) fun _ => rfl
    simp only [AppendOk, phase] at good
    obtain ⟨nothing, cursor, before, -, -, room⟩ := good
    have found : Found file { opState with searchCluster := cluster } mid chains := by
      refine ⟨works.ok, normal', works.ok.elsewhere_of_busy (by simp [operation']), ?_, ?_, ?_, ?_, unlocked, isCluster,
        zero', ⟨nothing, cursor, before, Nat.le_of_succ_le isCluster.1, isCluster.2.le, room⟩⟩
      · simp [operation', FileOperation.pendingCluster, phase]
      · simp [operation', FileOperation.appending, phase]
      · simp [operation', FileOperation.closing]
      · simp [operation', FileOperation.unsaved, phase]
    refine (wp_modify_bind _).mpr ((wp_modify_bind _).mpr ((wp_pure _).mpr ?_))
    apply (wp_append_first found (sector ▸ holds)).mono
    rintro status' later ⟨chains', appended⟩
    exact ⟨chains', after appended⟩
  | notFound =>
    refine (wp_modify_bind _).mpr ((wp_pure _).mpr ?_)
    simp only [AppendOk, phase] at good
    have fails : Works file NoSector mid chains
        (mid.appendState file { opState with searchCluster := cluster, phase := .failure }) chains :=
      works_appendState works.ok normal' operation' unlocked (by simp [phase]) (by simp)
        (fun _ => .inl (by simp [phase])) ⟨good.1, _, good.2.1⟩
    apply (wp_append_failure (n := n + 3) fails.ok (appendState_hasChain.mpr normal') (by simp) rfl).mono
    rintro status' later ⟨chains', appended⟩
    exact ⟨chains', after (appended.after fails List.prefix_rfl ⟨by simp, by simp⟩ (by simp) (by simp))⟩
  | inProgress =>
    refine (wp_modify_bind _).mpr ((wp_pure _).mpr ((wp_pure _).mpr ⟨chains, after ?_⟩))
    apply appended_waiting works.ok
      normal' operation' unlocked (by simp [phase]) (by simp) (fun _ => .inl (by simp [phase]))
    simp only [AppendOk, phase] at good ⊢
    obtain ⟨nothing, cursor, before, -, -, room⟩ := good
    exact ⟨nothing, cursor, before, by bv_omega, by rw [count]; bv_omega, room⟩
  | fatal => exact finds.ends.elim

/-- The rule of `afatfs_appendRegularFreeClusterContinue`. -/
theorem wp_appendRegularFreeClusterContinue (ok : FilesOk volume chains)
    (normal : (volume.afatfs.files file).HasChain file)
    (operation : (volume.afatfs.files file).operation = .appendFreeCluster opState) :
    Wp (appendRegularFreeClusterContinue file opState)
      (fun status later => ∃ chains', Appended file volume chains status later chains') volume := by
  cases phase : opState.phase with
  | findFreespace => exact wp_append_find ok normal operation phase
  | updateFat1 =>
    have good := (ok.isOpen file normal).shape.operation
    simp [OperationOk, operation, AppendOk, phase] at good
  | updateFat2 => exact wp_append_second ok normal operation phase
  | updateFileDirectory => exact wp_append_directory ok normal operation phase
  | complete => exact wp_append_complete ok normal operation phase
  | failure => exact wp_append_failure ok normal operation phase

/-- The rule of `afatfs_appendRegularFreeCluster`, for a file that is not busy and whose cursor is behind
    its last cluster. -/
theorem wp_appendRegularFreeCluster (ok : FilesOk volume chains)
    (normal : (volume.afatfs.files file).HasChain file) (idle : (volume.afatfs.files file).operation = .none)
    (notCurrent : file ≠ .currentDirectory) (unlocked : (volume.afatfs.files file).Unlocked) (nothing : chains (.pending file) = [])
    (cursor : CursorAt volume.afatfs.link volume.afatfs.clusterSize.toNat (chains (.file file)) (volume.afatfs.files file)
      (chains (.file file)).length)
    (room : ((chains (.file file)).length + 1) * volume.afatfs.clusterSize.toNat < 2 ^ 32) :
    Wp (appendRegularFreeCluster file)
      (fun status later => ∃ chains', Appended file volume chains status later chains') volume := by
  rw [appendRegularFreeCluster, wp_get_bind]
  simp only [idle]
  split_ifs with refused
  · exact (wp_pure _).mpr ⟨chains, .refl ok, List.prefix_rfl, .refl _, rfl, rfl, fun _ => idle, nofun, nofun⟩
  · have starts : Works file NoSector volume chains
        (volume.appendState file
          { previousCluster := (volume.afatfs.files file).cursorPreviousCluster
            searchCluster := volume.afatfs.lastClusterAllocated }) chains := by
      refine ok.setOperation normal unlocked ?_ ?_ (by simp [idle, FileOperation.closing]) (.inr notCurrent)
        (by simp [idle, FileOperation.opening]) (fun _ => .inl (by rw [idle]; rfl)) ⟨?_, unlocked⟩
      · simp [idle, FileOperation.pendingCluster]
      · simp [idle, FileOperation.appending]
      · exact ⟨nothing, cursor.congr rfl rfl rfl, rfl, ok.hint.1, ok.hint.2, room⟩
    apply (wp_appendRegularFreeClusterContinue starts.ok (appendState_hasChain.mpr normal) (by simp)).mono
    rintro status later ⟨chains', appended⟩
    exact ⟨chains', appended.after starts List.prefix_rfl ⟨by simp, by simp⟩ (by simp) (by simp)⟩

end Phases

end ComputerSystems.Fat
