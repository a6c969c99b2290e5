import ComputerSystems.Verified.FileHandles

/-! # The search through a directory

A file that is being opened has no clusters until its entry is found (`Finding`).  The
current directory is gone through for that, one sector after the other, and nothing else
changes meanwhile (`Searched`).  The entry that is taken has the name that was given, is no
terminator and is in the current directory (`Finds`).
-/

namespace ComputerSystems.Fat

open ComputerSystems.Data Program

variable {volume later : Volume} {chains chains' : Owner → List Word} {file other : FileRef} {slot : Slot}
  {mode : FileMode} {filename : List UInt8} {opState opState' : CreateFile} {position position' : DirEntryPointer}

/-! ## A file that is being opened -/

/-- The record of a file that is being opened. -/
def AfatfsFile.creating (mode : FileMode) (opState : CreateFile) (position : DirEntryPointer) : AfatfsFile where
  type := .normal
  mode := mode
  attrib := attributeArchive
  directoryEntryPos := position
  operation := .createFile opState

theorem attributeArchive_file : decide (attributeArchive &&& 0x10 ≠ 0) = false := by decide

theorem creating_hasChain : (AfatfsFile.creating mode opState position).HasChain file :=
  ⟨.inl rfl, .inr attributeArchive_file⟩

theorem creating_shape {link : Word → Option Word} {size limit : Nat} (nothing : link 0 = none)
    (goesOn : opState.phase ≠ .success) (directory : mode.retainDirectory = false) :
    FileShape link size limit [] [] (.creating mode opState position) where
  operation := by
    refine ⟨⟨rfl, rfl, ?_, goesOn⟩, rfl, rfl⟩
    exact ⟨Nat.zero_le _, nothing, rfl, by simp, by simp, fun _ => by simp [AfatfsFile.creating]⟩
  physical := by simp [AfatfsFile.creating]
  room := by simp [AfatfsFile.creating, FileOperation.appending]
  logical _ := by simp [AfatfsFile.creating]
  directory := directory
  inside := .inl ⟨rfl, rfl⟩

/-- A handle without clusters becomes that of a file that is being opened. -/
theorem FilesOk.creates (ok : FilesOk volume chains) (notCurrent : file ≠ .currentDirectory)
    (free : ¬ (volume.afatfs.files file).HasSectors file ∨ (volume.afatfs.files file).Unlocked)
    (nothing : chains (.file file) = []) (pending : chains (.pending file) = [])
    (goesOn : opState.phase ≠ .success) (directory : mode.retainDirectory = false) :
    FilesOk (volume.withRecord file (.creating mode opState position)) chains := by
  refine ok.withRecord free ⟨rfl, rfl⟩ (fun here => absurd here notCurrent) pending rfl (fun _ => ?_) (fun _ => ?_)
    (fun _ => nofun) (fun unchained => absurd creating_hasChain unchained) fun unchained => absurd creating_hasChain unchained
  · rw [nothing]
    rfl
  · rw [nothing]
    exact creating_shape rfl goesOn directory

/-- What is known of a file that is being opened. -/
theorem FilesOk.creating_chains (ok : FilesOk volume chains)
    (here : volume.afatfs.files file = .creating mode opState position) :
    file ≠ .currentDirectory ∧ chains (.file file) = [] ∧ chains (.pending file) = [] ∧ mode.retainDirectory = false := by
  have shape := (ok.isOpen file (by rw [here]; exact creating_hasChain)).shape
  rw [here] at shape
  obtain ⟨⟨pending, nothing, -⟩, -⟩ := shape.operation
  exact ⟨ok.elsewhere_of_busy (by rw [here]; nofun), nothing, pending, shape.directory⟩

/-- The search goes on at another entry. -/
theorem FilesOk.creating (ok : FilesOk volume chains) (here : volume.afatfs.files file = .creating mode opState position)
    (goesOn : opState'.phase ≠ .success) : FilesOk (volume.withRecord file (.creating mode opState' position')) chains := by
  obtain ⟨notCurrent, nothing, pending, directory⟩ := ok.creating_chains here
  exact ok.creates notCurrent (.inr (by rw [here]; exact ⟨rfl, rfl⟩)) nothing pending goesOn directory

/-! ## What a search changes -/

/-- The current directory has been gone through for the file, and nothing else has changed. -/
structure Searched (file : FileRef) (volume : Volume) (chains : Owner → List Word) (later : Volume) : Prop where
  ok : FilesOk later chains
  disk : later.afatfs.disk = volume.afatfs.disk
  content : later.content = volume.content
  files : ∀ other, other ≠ file → other ≠ .currentDirectory → later.afatfs.files other = volume.afatfs.files other
  directory : SameKind (volume.afatfs.files .currentDirectory) (later.afatfs.files .currentDirectory)

theorem Searched.trans {mid : Volume} (first : Searched file volume chains mid) (second : Searched file mid chains later) :
    Searched file volume chains later where
  ok := second.ok
  disk := second.disk.trans first.disk
  content := second.content.trans first.content
  files other notFile notCurrent := (second.files other notFile notCurrent).trans (first.files other notFile notCurrent)
  directory := first.directory.trans second.directory

/-- Something is done for the current directory. -/
theorem Works.searched {written : Word → Prop} (works : Works .currentDirectory written volume chains later chains)
    (content : later.content = volume.content)
    (kind : SameKind (volume.afatfs.files .currentDirectory) (later.afatfs.files .currentDirectory)) :
    Searched file volume chains later :=
  ⟨works.ok, works.disk, content, fun other _ notCurrent => works.files other notCurrent, kind⟩

/-- The record of the file has changed. -/
theorem Searched.of_record {record : AfatfsFile} (ok : FilesOk (volume.withRecord file record) chains)
    (notCurrent : file ≠ .currentDirectory) : Searched file volume chains (volume.withRecord file record) :=
  ⟨ok, rfl, rfl, fun _ notFile _ => withRecord_other notFile, .of_eq (withRecord_other notCurrent.symm)⟩

theorem AfatfsFile.OtherLocks.kind {f f' : AfatfsFile} (record : f.OtherLocks f') : SameKind f f' := by
  obtain ⟨write, read, same⟩ := record
  rw [same]
  exact ⟨rfl, rfl⟩

theorem SameKind.hasSectors {f f' : AfatfsFile} (kind : SameKind f f') : f'.HasSectors file ↔ f.HasSectors file := by
  rw [AfatfsFile.HasSectors, AfatfsFile.HasSectors, kind.hasChain, AfatfsFile.IsRoot, AfatfsFile.IsRoot, kind.type]

/-- The file is searched in the current directory: the entry before the next one is in the sector at the cursor
    of that, unless the sector has not been looked at. -/
structure Finding (file : FileRef) (mode : FileMode) (filename : List UInt8) (volume : Volume)
    (chains : Owner → List Word) : Prop where
  ok : FilesOk volume chains
  here : ∃ position, volume.afatfs.files file = .creating mode ⟨filename, .findFile⟩ position
  sectors : (volume.afatfs.files .currentDirectory).HasSectors .currentDirectory
  few : volume.afatfs.rootDirectorySectors.toNat ≤ 4096
  aligned : (volume.afatfs.files .currentDirectory).cursorOffset.toNat % 512 = 0
  low : -1 ≤ (volume.afatfs.files file).directoryEntryPos.entryIndex
  high : (volume.afatfs.files file).directoryEntryPos.entryIndex < 16
  stands : 0 ≤ (volume.afatfs.files file).directoryEntryPos.entryIndex → volume.Stands .currentDirectory

theorem Finding.notCurrent (finding : Finding file mode filename volume chains) : file ≠ .currentDirectory := by
  obtain ⟨position, here⟩ := finding.here
  exact (finding.ok.creating_chains here).1

/-- The cursor of the directory is not behind its last sector. -/
theorem FilesOk.before_end (ok : FilesOk volume chains) (stands : volume.Stands .currentDirectory)
    (few : volume.afatfs.rootDirectorySectors.toNat ≤ 4096)
    (aligned : (volume.afatfs.files .currentDirectory).cursorOffset.toNat % 512 = 0) :
    (volume.afatfs.files .currentDirectory).cursorOffset.toNat + 512 < 2 ^ 32 ∧
      ((volume.afatfs.files .currentDirectory).HasChain .currentDirectory →
        (volume.afatfs.files .currentDirectory).cursorOffset.toNat + 512 ≤
          (chains (.file .currentDirectory)).length * volume.afatfs.clusterSize.toNat) := by
  -- a directory in clusters ends with its chain, the root directory of FAT16 with its sectors
  rcases stands with ⟨chained, leads⟩ | ⟨isRoot, inside⟩
  · have shape := (ok.isOpen _ chained).shape
    have good := shape.operation
    rw [OperationOk, ok.still] at good
    obtain ⟨-, k, cursor⟩ := good
    have inside : k < (chains (.file .currentDirectory)).length := by
      by_contra behind
      exact leads (cursor.here.trans (List.getElem?_eq_none (by omega)))
    have high := cursor.high inside
    have more : (k + 1) * volume.afatfs.clusterSize.toNat ≤
        (chains (.file .currentDirectory)).length * volume.afatfs.clusterSize.toNat := Nat.mul_le_mul_right _ inside
    have room := ok.length_size chained (by rw [ok.still]; rfl)
    have fits : (volume.afatfs.files .currentDirectory).cursorOffset.toNat + 512 ≤
        (chains (.file .currentDirectory)).length * volume.afatfs.clusterSize.toNat := by
      simp only [ok.geometry.size_eq] at high more ⊢
      omega
    exact ⟨by omega, fun _ => fits⟩
  · refine ⟨?_, fun chained => absurd chained isRoot.not_hasChain⟩
    have clusters := ok.geometry.clusters
    have bound := volume.afatfs.clusterStartSector.isLt
    obtain ⟨low, high⟩ := inside
    have copies : (BitVec.ofNat 32 numFats * volume.afatfs.fatSectors).toNat = 2 * volume.afatfs.fatSectors.toNat := by
      rw [show BitVec.ofNat 32 numFats = 2 from rfl, BitVec.toNat_mul, show BitVec.toNat (2 : Word) = 2 from rfl]
      exact Nat.mod_eq_of_lt (by omega)
    rw [Afatfs.fileGetCursorPhysicalSector, if_pos isRoot.2, BitVec.toNat_add, BitVec.toNat_add, copies,
      Nat.mod_eq_of_lt (show _ + 2 * _ < 2 ^ 32 by omega), BitVec.toNat_udiv, show BitVec.toNat (512 : Word) = 512 from rfl] at low high
    have offset := (volume.afatfs.files .currentDirectory).cursorOffset.isLt
    omega

/-- How many entries have been looked at. -/
def Volume.place (volume : Volume) (file : FileRef) : Int :=
  (volume.afatfs.files .currentDirectory).cursorOffset.toNat / 32 +
    ((volume.afatfs.files file).directoryEntryPos.entryIndex + 1)

theorem Finding.place_le (finding : Finding file mode filename volume chains) : volume.place file ≤ 2 ^ 27 := by
  have high := finding.high
  rw [Volume.place]
  by_cases before : (volume.afatfs.files file).directoryEntryPos.entryIndex < 0
  · have offset := (volume.afatfs.files .currentDirectory).cursorOffset.isLt
    omega
  · have last := (finding.ok.before_end (finding.stands (by omega)) finding.few finding.aligned).1
    have aligned := finding.aligned
    omega

/-! ## The next sector -/

theorem Finding.idle (finding : Finding file mode filename volume chains) :
    (volume.afatfs.files .currentDirectory).operation = .none :=
  finding.ok.still

/-- The cursor of a root directory that has no clusters is moved. -/
theorem FilesOk.movesRoot (cursorOffset : Word) (ok : FilesOk volume chains)
    (isRoot : (volume.afatfs.files .currentDirectory).IsRoot .currentDirectory)
    (unlocked : (volume.afatfs.files .currentDirectory).Unlocked) :
    FilesOk (volume.withRecord .currentDirectory { volume.afatfs.files .currentDirectory with cursorOffset }) chains := by
  have unchained : ¬ ({ volume.afatfs.files .currentDirectory with cursorOffset } : AfatfsFile).HasChain .currentDirectory :=
    isRoot.not_hasChain
  refine ok.withRecord (.inr unlocked) unlocked (fun _ => ok.still) (ok.idle _ isRoot.not_hasChain).pending ?_
    (fun chained => absurd chained unchained) (fun chained => absurd chained unchained) (fun chained => absurd chained unchained)
    (fun _ => .inl ok.still) fun _ elsewhere => absurd rfl elsewhere
  change volume.afatfs.link (volume.afatfs.files .currentDirectory).operation.pendingCluster = none
  rw [ok.still]
  rfl

/-- The rule of the step to the next sector of the current directory, which may have to wait for the table. -/
theorem wp_nextSector (finding : Finding file mode filename volume chains)
    (looked : 0 ≤ (volume.afatfs.files file).directoryEntryPos.entryIndex) :
    Wp (fseekAtomic .currentDirectory 512) (fun done later => Searched file volume chains later ∧
      later.afatfs.files file = volume.afatfs.files file ∧
      (later.afatfs.files .currentDirectory).cursorOffset.toNat =
        (volume.afatfs.files .currentDirectory).cursorOffset.toNat + (if done then 512 else 0) ∧
      (done = false → later.Stands .currentDirectory)) volume := by
  have stands := finding.stands looked
  obtain ⟨small, inside⟩ := finding.ok.before_end stands finding.few finding.aligned
  have sector : BitVec.toNat (512 : Word) = 512 := rfl
  rcases stands with ⟨chained, leads⟩ | ⟨isRoot, -⟩
  -- the cursor follows the chain, for which the table may have to be read
  · have bound : (volume.afatfs.files .currentDirectory).cursorOffset.toNat + BitVec.toNat (512 : Word) ≤
        (chains (.file .currentDirectory)).length * volume.afatfs.clusterSize.toNat := inside chained
    apply (wp_fseekAtomic finding.ok chained finding.idle bound).mono
    rintro done later ⟨goes, waits⟩
    cases done with
    | true =>
      obtain ⟨sought, ended⟩ := goes rfl
      have target := sought.target
      rw [target_of_idle ended] at target
      exact ⟨sought.toWorks.searched sought.same sought.kind, sought.files file finding.notCurrent, target, nofun⟩
    | false =>
      have stays := waits rfl
      obtain ⟨write, read, record⟩ := stays.record
      have kind := stays.record.kind
      refine ⟨stays.toWorks.searched stays.same kind, stays.files file finding.notCurrent, by rw [record]; rfl, fun _ => .inl ?_⟩
      refine ⟨kind.hasChain.mpr chained, ?_⟩
      rw [record, Afatfs.congr_disk Afatfs.link (fun _ => rfl) stays.disk]
      exact leads
  -- the sectors of the FAT16 root directory are in a row, and nothing is waited for
  · have works : Works .currentDirectory NoSector volume chains _ chains := finding.ok.fileUnlockCacheSector (.inr isRoot)
    have record := fileUnlockCacheSector_file .currentDirectory volume.afatfs
    have far : ¬ (512 : Word) + (volume.afatfs.files .currentDirectory).cursorOffset % 512 < 512 := by
      have low := Nat.mod_lt (volume.afatfs.files .currentDirectory).cursorOffset.toNat (show 0 < 512 by decide)
      rw [BitVec.lt_def, BitVec.toNat_add, BitVec.toNat_umod, sector, Nat.mod_eq_of_lt (by omega)]
      omega
    rw [fseekAtomic, wp_get_bind, if_neg far, wp_modify_bind, fseekOutside, wp_get_bind]
    simp only [record, isRoot.2, if_true]
    refine wp_modifyFile_bind.mpr ((wp_pure true).mpr ?_)
    have moved := works.ok.movesRoot
      (((volume.afatfs.fileUnlockCacheSector .currentDirectory).files .currentDirectory).cursorOffset + 512) (by rw [record]; exact isRoot) (by rw [record]; exact ⟨rfl, rfl⟩)
    have unlocks : Searched file volume chains _ :=
      works.searched fileUnlockCacheSector_content (by rw [record]; exact ⟨rfl, rfl⟩)
    have sum : ((volume.afatfs.files .currentDirectory).cursorOffset + 512).toNat =
        (volume.afatfs.files .currentDirectory).cursorOffset.toNat + 512 := by
      rw [BitVec.toNat_add, sector, Nat.mod_eq_of_lt small]
    refine ⟨unlocks.trans ⟨moved, rfl, rfl, fun _ _ elsewhere => withRecord_other elsewhere, ?_⟩, ?_, ?_, nofun⟩
    · rw [withRecord_file]
      exact ⟨rfl, rfl⟩
    · rw [withRecord_other finding.notCurrent]
      exact works.files file finding.notCurrent
    · rw [withRecord_file, record]
      exact sum

/-! ## The next entry -/

theorem Volume.Stands.otherLocks (stands : volume.Stands file) (disk : later.afatfs.disk = volume.afatfs.disk)
    (record : (volume.afatfs.files file).OtherLocks (later.afatfs.files file)) : later.Stands file := by
  have kind := record.kind
  rw [Volume.Stands, kind.hasChain, AfatfsFile.IsRoot, kind.type, cursorSector_otherLocks disk record,
    Afatfs.congr_disk Afatfs.InRoot (fun _ => rfl) disk, Afatfs.congr_disk Afatfs.link (fun _ => rfl) disk]
  obtain ⟨write, read, same⟩ := record
  rwa [same]

/-- What a search has done: its place is behind the next entry, which is in the slot, or it goes on later. -/
structure Looks (file : FileRef) (mode : FileMode) (filename : List UInt8) (volume : Volume) (chains : Owner → List Word)
    (result : OperationStatus × Option Slot) (later : Volume) : Prop extends Searched file volume chains later where
  finding : Finding file mode filename later chains
  noFailure : result.1 ≠ .failure
  taken : ∀ slot, result.2 = some slot → later.place file = volume.place file + 1 ∧
    0 ≤ (later.afatfs.files file).directoryEntryPos.entryIndex ∧
    (later.afatfs.files file).directoryEntryPos.sectorNumberPhysical =
      later.afatfs.fileGetCursorPhysicalSector .currentDirectory ∧
    later.writeBack.Holds slot (later.afatfs.fileGetCursorPhysicalSector .currentDirectory)

/-- The search goes on where it is. -/
theorem Finding.stays (finding : Finding file mode filename volume chains) (searched : Searched file volume chains later)
    (same : later.afatfs.files file = volume.afatfs.files file)
    (aligned : (later.afatfs.files .currentDirectory).cursorOffset.toNat % 512 = 0)
    (stands : 0 ≤ (volume.afatfs.files file).directoryEntryPos.entryIndex → later.Stands .currentDirectory) :
    Finding file mode filename later chains where
  ok := searched.ok
  here := by
    rw [same]
    exact finding.here
  sectors := searched.directory.hasSectors.mpr finding.sectors
  few := by
    rw [Afatfs.congr_disk (·.rootDirectorySectors) (fun _ => rfl) searched.disk]
    exact finding.few
  aligned := aligned
  low := by
    rw [same]
    exact finding.low
  high := by
    rw [same]
    exact finding.high
  stands := by
    rw [same]
    exact stands

/-- The search goes on at another entry of a sector, or before the first one. -/
theorem FilesOk.finding (ok : FilesOk volume chains) (here : volume.afatfs.files file = .creating mode opState position)
    (sectors : (volume.afatfs.files .currentDirectory).HasSectors .currentDirectory)
    (few : volume.afatfs.rootDirectorySectors.toNat ≤ 4096)
    (aligned : (volume.afatfs.files .currentDirectory).cursorOffset.toNat % 512 = 0)
    (low : -1 ≤ position'.entryIndex) (high : position'.entryIndex < 16)
    (stands : 0 ≤ position'.entryIndex → volume.Stands .currentDirectory) :
    Searched file volume chains (volume.withRecord file (.creating mode ⟨filename, .findFile⟩ position')) ∧
      Finding file mode filename (volume.withRecord file (.creating mode ⟨filename, .findFile⟩ position')) chains := by
  have moved : FilesOk (volume.withRecord file (.creating mode ⟨filename, .findFile⟩ position')) chains :=
    ok.creating here nofun
  have notCurrent := (ok.creating_chains here).1
  have directory : (volume.withRecord file (.creating mode ⟨filename, .findFile⟩ position')).afatfs.files .currentDirectory =
      volume.afatfs.files .currentDirectory := withRecord_other notCurrent.symm
  refine ⟨.of_record moved notCurrent, moved, ⟨position', withRecord_file⟩, ?_, few, ?_, ?_, ?_, ?_⟩
  · rw [directory]
    exact sectors
  · rw [directory]
    exact aligned
  · rw [withRecord_file]
    exact low
  · rw [withRecord_file]
    exact high
  · rw [withRecord_file]
    exact fun looked => (stands looked).congr rfl directory

/-- The rule of `findHere`, where there are more entries in the sector. -/
theorem wp_findHere (finding : Finding file mode filename volume chains)
    (more : (volume.afatfs.files file).directoryEntryPos.entryIndex < 15) :
    Wp (findHere .currentDirectory file) (Looks file mode filename volume chains) volume := by
  rw [findHere]
  apply Wp.bind
  apply (wp_fileRetainCursorSectorForRead finding.ok finding.sectors finding.idle).mono
  rintro found mid ⟨works, content, record, holds⟩
  have searched : Searched file volume chains mid := works.searched content record.kind
  have same : mid.afatfs.files file = volume.afatfs.files file := works.files file finding.notCurrent
  have offset : (mid.afatfs.files .currentDirectory).cursorOffset = (volume.afatfs.files .currentDirectory).cursorOffset := by
    obtain ⟨write, read, changed⟩ := record
    rw [changed]
  have stays : Finding file mode filename mid chains :=
    finding.stays searched same (offset ▸ finding.aligned) fun looked => (finding.stands looked).otherLocks works.disk record
  cases found with
  | none =>
    rw [wp_get_bind]
    split_ifs
    · exact (wp_pure _).mpr ⟨searched, stays, nofun, nofun⟩
    · exact (wp_pure _).mpr ⟨searched, stays, nofun, nofun⟩
  | some slot =>
    obtain ⟨before, held⟩ := holds slot rfl
    have stands : mid.Stands .currentDirectory := before.otherLocks works.disk record
    obtain ⟨position, here⟩ := finding.here
    have low := finding.low
    rw [here] at low more
    change -1 ≤ position.entryIndex at low
    change position.entryIndex < 15 at more
    -- the finder takes the entry behind the one it has looked at
    have goes : Searched file mid chains (mid.withRecord file (.creating mode ⟨filename, .findFile⟩
          ⟨mid.afatfs.fileGetCursorPhysicalSector .currentDirectory, position.entryIndex + 1⟩)) ∧ Finding .. :=
      stays.ok.finding (same.trans here) stays.sectors stays.few stays.aligned (by simp only; omega) (by simp only; omega)
        fun _ => stands
    obtain ⟨next, isNext⟩ : ∃ next, next = mid.withRecord file (.creating mode ⟨filename, .findFile⟩
        ⟨mid.afatfs.fileGetCursorPhysicalSector .currentDirectory, position.entryIndex + 1⟩) := ⟨_, rfl⟩
    have directory : next.afatfs.files .currentDirectory = mid.afatfs.files .currentDirectory := by
      rw [isNext, withRecord_other finding.notCurrent.symm]
    have cursor : next.afatfs.fileGetCursorPhysicalSector .currentDirectory =
        mid.afatfs.fileGetCursorPhysicalSector .currentDirectory := cursorSector_congr (by rw [isNext]; rfl) directory
    rw [wp_get_bind]
    refine wp_modifyFile_bind.mpr ((wp_pure _).mpr ?_)
    rw [same, here]
    change Looks file mode filename volume chains (.success, some slot) (mid.withRecord file (.creating mode ⟨filename, .findFile⟩
      ⟨mid.afatfs.fileGetCursorPhysicalSector .currentDirectory, position.entryIndex + 1⟩))
    rw [← isNext] at goes ⊢
    refine ⟨searched.trans goes.1, goes.2, nofun, ?_⟩
    rintro slot' ⟨⟩
    have own : (next.afatfs.files file).directoryEntryPos =
        ⟨mid.afatfs.fileGetCursorPhysicalSector .currentDirectory, position.entryIndex + 1⟩ := by
      rw [isNext, withRecord_file]
      rfl
    refine ⟨?_, ?_, ?_, ?_⟩
    · rw [Volume.place, Volume.place, directory, offset, own, here]
      change _ + (position.entryIndex + 1 + 1) = _ + (position.entryIndex + 1) + 1
      omega
    · rw [own]
      simp only
      omega
    · rw [own, cursor]
    · rw [cursor, cursorSector_otherLocks works.disk record, isNext]
      exact held

/-- The rule of `afatfs_findNext`. -/
theorem wp_findNext (finding : Finding file mode filename volume chains) :
    Wp (findNext .currentDirectory file) (Looks file mode filename volume chains) volume := by
  have high := finding.high
  rw [findNext, wp_get_bind]
  -- behind the last entry of a sector the finder begins again in the next
  split_ifs with last
  · have isLast : (volume.afatfs.files file).directoryEntryPos.entryIndex = 15 := last
    apply Wp.bind
    apply (wp_nextSector finding (by omega)).mono
    rintro done mid ⟨searched, same, offset, waits⟩
    have aligned := finding.aligned
    cases done with
    | false =>
      refine (wp_pure _).mpr ⟨searched, finding.stays searched same ?_ fun _ => waits rfl, nofun, nofun⟩
      simp only [Bool.false_eq_true, if_false] at offset
      omega
    | true =>
      obtain ⟨position, here⟩ := finding.here
      simp only [if_true] at offset
      have few : mid.afatfs.rootDirectorySectors.toNat ≤ 4096 := by
        rw [Afatfs.congr_disk (·.rootDirectorySectors) (fun _ => rfl) searched.disk]
        exact finding.few
      have goes : Searched file mid chains (mid.withRecord file (.creating mode ⟨filename, .findFile⟩
            ⟨position.sectorNumberPhysical, -1⟩)) ∧ Finding .. :=
        searched.ok.finding (same.trans here) (searched.directory.hasSectors.mpr finding.sectors) few
          (by omega) (by simp only; omega) (by simp only; omega) (by simp)
      obtain ⟨next, isNext⟩ : ∃ next, next = mid.withRecord file (.creating mode ⟨filename, .findFile⟩
        ⟨position.sectorNumberPhysical, -1⟩) := ⟨_, rfl⟩
      have own : (next.afatfs.files file).directoryEntryPos.entryIndex = -1 := by
        rw [isNext, withRecord_file]
        rfl
      have directory : next.afatfs.files .currentDirectory = mid.afatfs.files .currentDirectory := by
        rw [isNext, withRecord_other finding.notCurrent.symm]
      refine wp_modifyFile_bind.mpr ?_
      rw [same, here]
      change Wp (findHere .currentDirectory file) _ (mid.withRecord file (.creating mode ⟨filename, .findFile⟩
        ⟨position.sectorNumberPhysical, -1⟩))
      rw [← isNext] at goes ⊢
      apply (wp_findHere goes.2 (by omega)).mono
      intro result later looks
      refine ⟨(searched.trans goes.1).trans looks.toSearched, looks.finding, looks.noFailure, fun slot same' => ?_⟩
      obtain ⟨more, rest⟩ := looks.taken slot same'
      refine ⟨?_, rest⟩
      rw [more, Volume.place, Volume.place, directory, offset, own, isLast]
      omega
  · have inside : (volume.afatfs.files file).directoryEntryPos.entryIndex ≠ 15 := last
    exact wp_findHere finding (by omega)

/-! ## The end of a search -/

/-- The current directory has let go of its sector. -/
def Volume.unlockDirectory (volume : Volume) : Volume :=
  { volume with afatfs := volume.afatfs.fileUnlockCacheSector .currentDirectory }

theorem unlockDirectory_other (notCurrent : file ≠ .currentDirectory) :
    volume.unlockDirectory.afatfs.files file = volume.afatfs.files file := by
  rw [Volume.unlockDirectory, fileUnlockCacheSector_eq]
  exact Function.update_of_ne notCurrent _ _

theorem unlockDirectory_disk : volume.unlockDirectory.afatfs.disk = volume.afatfs.disk := by
  rw [Volume.unlockDirectory, fileUnlockCacheSector_eq]
  rfl

theorem unlockDirectory_withRecord {record record' : AfatfsFile} (notCurrent : file ≠ .currentDirectory) :
    (volume.withRecord file record).unlockDirectory.withRecord file record' =
      volume.unlockDirectory.withRecord file record' := by
  simp only [Volume.withRecord, Volume.unlockDirectory, fileUnlockCacheSector_eq, Afatfs.updateFile]
  rw [Function.update_of_ne notCurrent.symm, Function.update_comm notCurrent, Function.update_idem]

/-- The record of a file whose entry was found. -/
def AfatfsFile.opened (mode : FileMode) (position : DirEntryPointer) (block : Sector) (clusterSize : Word) : AfatfsFile where
  type := .normal
  mode := mode
  attrib := block (directoryEntrySize * position.entryIndex + 11)
  directoryEntryPos := position
  firstCluster := entryCluster block position.entryIndex
  cursorCluster := entryCluster block position.entryIndex
  logicalSize := BitVec.ofNat 32 (block.read32 (directoryEntrySize * position.entryIndex + 28))
  physicalSize := roundUpTo (BitVec.ofNat 32 (block.read32 (directoryEntrySize * position.entryIndex + 28))) clusterSize

theorem toStart_loaded {block : Sector} {clusterSize : Word} :
    { ({ AfatfsFile.loadDirectoryEntry block position.entryIndex clusterSize (.creating mode opState position) with
      operation := .createFile opState' } : AfatfsFile).toStart with operation := .none } =
        AfatfsFile.opened mode position block clusterSize := by
  have size (logicalSize : Word) : (if logicalSize > 0 then logicalSize else 0) = logicalSize := by
    split_ifs with more
    · rfl
    · bv_omega
  simp only [AfatfsFile.toStart, AfatfsFile.updateFilesize, AfatfsFile.loadDirectoryEntry, AfatfsFile.creating,
    AfatfsFile.opened, entryCluster]
  congr 1
  exact size _

/-- The entry at which the search is has the name. -/
structure Matches (file : FileRef) (filename : List UInt8) (volume : Volume) (chains : Owner → List Word)
    (position : DirEntryPointer) (block : Sector) : Prop where
  here : (volume.afatfs.files file).directoryEntryPos = position
  holds : volume.content position.sectorNumberPhysical = block
  low : 0 ≤ position.entryIndex
  inside : volume.Inside chains .currentDirectory position.sectorNumberPhysical
  used : fatIsDirectoryEntryTerminator block position.entryIndex = false
  named : hasFilename block position.entryIndex filename = true

/-- How a search ends: it goes on later, or it has come to the end of the directory, or to the entry. -/
inductive Ends (file : FileRef) (mode : FileMode) (filename : List UInt8) (volume : Volume) (chains : Owner → List Word) :
    Volume → Prop where
  | waits : Ends file mode filename volume chains volume
  | fails (position : DirEntryPointer) : Ends file mode filename volume chains
      (volume.unlockDirectory.withRecord file { AfatfsFile.creating mode ⟨filename, .failure⟩ position with type := .none })
  | opens (position : DirEntryPointer) (block : Sector) (matching : Matches file filename volume chains position block) :
      Ends file mode filename volume chains
        (volume.unlockDirectory.withRecord file (.opened mode position block volume.afatfs.clusterSize))

variable {fuel : Nat}

theorem wp_createFile_fails (opState : CreateFile) (failed : opState.phase = .failure) :
    Wp (repeated (createFilePhase file) (fuel + 1) opState) (fun _ later =>
      later = volume.withRecord file { volume.afatfs.files file with type := .none }) volume := by
  rw [repeated]
  apply Wp.bind
  rw [createFilePhase, failed]
  exact wp_modifyFile_bind.mpr ((wp_pure _).mpr ((wp_pure _).mpr rfl))

theorem wp_createFile_succeeds (opState : CreateFile) (succeeded : opState.phase = .success)
    (unlocked : (volume.afatfs.files file).Unlocked) :
    Wp (repeated (createFilePhase file) (fuel + 1) opState) (fun _ later =>
      later = volume.withRecord file { (volume.afatfs.files file).toStart with operation := .none }) volume := by
  rw [repeated]
  apply Wp.bind
  rw [createFilePhase, succeeded]
  apply Wp.bind
  apply (wp_seekStart unlocked).mono
  rintro _ later rfl
  refine wp_modifyFile_bind.mpr ((wp_pure _).mpr ((wp_pure _).mpr ?_))
  rw [withRecord_withRecord, withRecord_file]

theorem wp_findLast (notCurrent : file ≠ .currentDirectory) :
    Wp (do
      findLast .currentDirectory
      goOnCreating file opState) (fun pass later => pass = .again opState ∧ later =
        volume.unlockDirectory.withRecord file { volume.afatfs.files file with operation := .createFile opState }) volume := by
  refine (wp_modify_bind _).mpr (wp_modifyFile_bind.mpr ((wp_pure _).mpr ⟨rfl, ?_⟩))
  change volume.unlockDirectory.withRecord file
    { volume.unlockDirectory.afatfs.files file with operation := .createFile opState } = _
  rw [unlockDirectory_other notCurrent]

/-- The search has come to the end of the directory. -/
theorem wp_ends_fails (here : ∃ position, volume.afatfs.files file = .creating mode opState position)
    (notCurrent : file ≠ .currentDirectory) :
    Wp (do
      findLast .currentDirectory
      goOnCreating file ⟨filename, .failure⟩) (fun pass => Wp (match pass with
        | .again next => repeated (createFilePhase file) (fuel + 1) next
        | .leave result => pure result) fun _ later => Ends file mode filename volume chains later) volume := by
  obtain ⟨position, here⟩ := here
  apply (wp_findLast notCurrent).mono
  rintro _ mid ⟨rfl, rfl⟩
  apply (wp_createFile_fails _ rfl).mono
  rintro _ later rfl
  rw [withRecord_withRecord, withRecord_file, here]
  exact .fails position

/-- The entry is taken at which the search is. -/
theorem wp_ends_opens {block : Sector} (here : volume.afatfs.files file = .creating mode opState position)
    (notCurrent : file ≠ .currentDirectory) (matching : Matches file filename volume chains position block) :
    Wp (do
      modifyFile file (AfatfsFile.loadDirectoryEntry block position.entryIndex volume.afatfs.clusterSize)
      findLast .currentDirectory
      goOnCreating file ⟨filename, .success⟩) (fun pass => Wp (match pass with
        | .again next => repeated (createFilePhase file) (fuel + 1) next
        | .leave result => pure result) fun _ later => Ends file mode filename volume chains later) volume := by
  refine wp_modifyFile_bind.mpr ((wp_findLast notCurrent).mono ?_)
  rintro _ mid ⟨rfl, rfl⟩
  apply (wp_createFile_succeeds _ rfl ?_).mono
  · rintro _ later rfl
    rw [withRecord_withRecord, withRecord_file, unlockDirectory_withRecord notCurrent, withRecord_file, here]
    change Ends file mode filename volume chains (volume.unlockDirectory.withRecord file { ({ AfatfsFile.loadDirectoryEntry
      block position.entryIndex volume.afatfs.clusterSize (.creating mode opState position) with
      operation := .createFile ⟨filename, .success⟩ } : AfatfsFile).toStart with operation := .none })
    rw [toStart_loaded]
    exact .opens position block matching
  · rw [withRecord_file, withRecord_file, here]
    exact ⟨rfl, rfl⟩

/-- The rule of the loop of `afatfs_createFileContinue`.  No directory has more entries than are in 4 GiB. -/
theorem wp_findFile (finding : Finding file mode filename volume chains) (enough : 2 ^ 27 + 3 ≤ fuel + volume.place file) :
    Wp (repeated (createFilePhase file) fuel ⟨filename, .findFile⟩) (fun _ later =>
      ∃ mid, Searched file volume chains mid ∧ Finding file mode filename mid chains ∧
        Ends file mode filename mid chains later) volume := by
  have place := finding.place_le
  -- on the fuel: each entry is one place further, and no place is behind 4 GiB
  induction fuel generalizing volume with
  | zero => omega
  | succ fuel ih =>
    obtain ⟨rest, rfl⟩ : ∃ rest, fuel = rest + 1 := ⟨fuel - 1, by omega⟩
    rw [repeated]
    apply Wp.bind
    rw [createFilePhase]
    simp only
    apply Wp.bind
    apply (wp_findNext finding).mono
    rintro ⟨status, found⟩ mid looks
    have ends : ∀ later, Ends file mode filename mid chains later → ∃ mid, Searched file volume chains mid ∧
        Finding file mode filename mid chains ∧ Ends file mode filename mid chains later :=
      fun later ends => ⟨mid, looks.toSearched, looks.finding, ends⟩
    obtain ⟨position, here⟩ := looks.finding.here
    have fails : Wp (do
        findLast .currentDirectory
        goOnCreating file ⟨filename, .failure⟩) (fun pass => Wp (match pass with
          | .again next => repeated (createFilePhase file) (rest + 1) next
          | .leave result => pure result) _) mid :=
      (wp_ends_fails ⟨position, here⟩ finding.notCurrent).mono fun _ _ goes => goes.mono fun _ => ends
    cases status with
    | failure => exact absurd rfl looks.noFailure
    | inProgress => exact (wp_pure _).mpr ((wp_pure _).mpr (ends mid .waits))
    | success =>
      cases found with
      -- behind the last sector there is no such file
      | none => exact fails
      | some slot =>
        obtain ⟨more, low, sector, held⟩ := looks.taken slot rfl
        have sector' := looks.ok.coherent.content_of_holds held
        rw [wp_get_bind]
        split_ifs with terminator named
        · exact fails
        · have stands := looks.finding.stands low
          rw [here] at low sector named terminator
          have matching : Matches file filename mid chains position (mid.afatfs.cache slot) := by
            refine ⟨by rw [here]; rfl, ?_, low, ?_, Bool.not_eq_true _ ▸ terminator, named⟩
            · rw [← sector']
              exact congrArg mid.content sector
            · have inside := looks.ok.stands_inside stands looks.ok.still
              rwa [← sector] at inside
          have opens : Wp (do
              modifyFile file (AfatfsFile.loadDirectoryEntry (mid.afatfs.cache slot) position.entryIndex mid.afatfs.clusterSize)
              findLast .currentDirectory
              goOnCreating file ⟨filename, .success⟩) (fun pass => Wp (match pass with
                | .again next => repeated (createFilePhase file) (rest + 1) next
                | .leave result => pure result) _) mid :=
            (wp_ends_opens here finding.notCurrent matching).mono fun _ _ goes => goes.mono fun _ => ends
          rw [here]
          exact opens
        -- the entry of another file, behind which the search goes on
        · refine (wp_pure _).mpr ((ih looks.finding (by omega) looks.finding.place_le).mono ?_)
          rintro _ later ⟨last, searched, ends⟩
          exact ⟨last, looks.toSearched.trans searched, ends⟩

/-! ## The beginning of a search -/

/-- Nothing is pending for a file without such an operation. -/
theorem FilesOk.pending_nil (ok : FilesOk volume chains) (none : (volume.afatfs.files file).operation.pendingCluster = 0) :
    chains (.pending file) = [] := by
  have start := (ok.separate.threads (.pending file)).start_eq
  rw [Afatfs.starts, none] at start
  exact List.head?_eq_none_iff.mp start.symm

theorem FilesOk.directory_pending (ok : FilesOk volume chains) : chains (.pending .currentDirectory) = [] :=
  ok.pending_nil (by rw [ok.still]; rfl)

/-- The current directory is sought to its beginning. -/
theorem FilesOk.directoryToStart (ok : FilesOk volume chains)
    (unlocked : (volume.afatfs.files .currentDirectory).Unlocked) :
    FilesOk (volume.withRecord .currentDirectory (volume.afatfs.files .currentDirectory).toStart) chains := by
  have kind : SameKind (volume.afatfs.files .currentDirectory) (volume.afatfs.files .currentDirectory).toStart := ⟨rfl, rfl⟩
  refine ok.withRecord (.inr unlocked) unlocked (fun _ => ok.still) ok.directory_pending ?_ (fun chained => ?_)
    (fun chained => ?_) (fun chained opened => ?_) (fun _ => .inl ok.still) fun _ elsewhere => absurd rfl elsewhere
  · change volume.afatfs.link (volume.afatfs.files .currentDirectory).operation.pendingCluster = none
    rw [ok.still]
    rfl
  · have start := (ok.separate.threads (.file .currentDirectory)).start_eq
    rwa [Afatfs.starts, if_pos (kind.hasChain.mp chained)] at start
  · have before := kind.hasChain.mp chained
    have start := (ok.separate.threads (.file .currentDirectory)).start_eq
    rw [Afatfs.starts, if_pos before] at start
    have shape := (ok.isOpen _ before).shape
    have good := shape.operation
    rw [OperationOk, ok.still] at good
    obtain ⟨-, k, cursor⟩ := good
    have logical := shape.logical (by rw [ok.still]; rfl)
    have offset := cursor.le
    have physical := shape.physical
    rw [ok.still] at physical
    refine .of_start ok.geometry.clusterSize_pos start rfl rfl rfl ok.still physical
      (ok.length_size before (by rw [ok.still]; rfl)) ?_ shape.directory unlocked
    change (volume.afatfs.files .currentDirectory).updateFilesize.logicalSize.toNat ≤ _
    rw [updateFilesize_toNat]
    omega
  · exact (ok.isOpen _ (kind.hasChain.mp chained)).entry opened

/-- How a search begins. -/
structure Begins (file : FileRef) (mode : FileMode) (filename : List UInt8) (volume : Volume) (chains : Owner → List Word) :
    Prop where
  ok : FilesOk volume chains
  here : ∃ position, volume.afatfs.files file = .creating mode ⟨filename, .initial⟩ position
  unlocked : (volume.afatfs.files .currentDirectory).Unlocked
  sectors : (volume.afatfs.files .currentDirectory).HasSectors .currentDirectory
  few : volume.afatfs.rootDirectorySectors.toNat ≤ 4096

/-- The rule of the first phase of `afatfs_createFileContinue`. -/
theorem wp_createFile_begins (begins : Begins file mode filename volume chains) :
    Wp (createFilePhase file ⟨filename, .initial⟩) (fun pass later => pass = .again ⟨filename, .findFile⟩ ∧
      Searched file volume chains later ∧ Finding file mode filename later chains) volume := by
  obtain ⟨position, here⟩ := begins.here
  have notCurrent := (begins.ok.creating_chains here).1
  have directory := begins.ok.directoryToStart begins.unlocked
  have kind : SameKind (volume.afatfs.files .currentDirectory) (volume.afatfs.files .currentDirectory).toStart := ⟨rfl, rfl⟩
  rw [createFilePhase]
  simp only
  -- no sector of the directory is locked, so the seek to its start is done at once
  rw [findFirst, bind_assoc]
  apply Wp.bind
  apply (wp_seekStart begins.unlocked).mono
  rintro _ mid rfl
  have same : (volume.withRecord .currentDirectory (volume.afatfs.files .currentDirectory).toStart).afatfs.files file =
      .creating mode ⟨filename, .initial⟩ position := (withRecord_other notCurrent).trans here
  have goes : Searched file (volume.withRecord .currentDirectory (volume.afatfs.files .currentDirectory).toStart) chains
      ((volume.withRecord .currentDirectory (volume.afatfs.files .currentDirectory).toStart).withRecord file
        (.creating mode ⟨filename, .findFile⟩ ⟨position.sectorNumberPhysical, -1⟩)) ∧ Finding file mode filename _ chains :=
    directory.finding same
      (by rw [withRecord_file]; exact kind.hasSectors.mpr begins.sectors) begins.few (by rw [withRecord_file]; rfl) (by simp) (by simp) (by simp)
  refine wp_modifyFile_bind.mpr (wp_modifyFile_bind.mpr ((wp_pure _).mpr ⟨rfl, ?_⟩))
  rw [withRecord_withRecord, withRecord_file, same]
  refine ⟨.trans ⟨directory, rfl, rfl, fun _ _ elsewhere => withRecord_other elsewhere, ?_⟩ goes.1, goes.2⟩
  rw [withRecord_file]
  exact kind

theorem Finding.place_nonneg (finding : Finding file mode filename volume chains) : 0 ≤ volume.place file := by
  have low := finding.low
  rw [Volume.place]
  omega

/-- The rule of `afatfs_createFileContinue`, where the search goes on. -/
theorem wp_createFileContinue (finding : Finding file mode filename volume chains) :
    Wp (createFileContinue file ⟨filename, .findFile⟩) (fun _ later => ∃ mid, Searched file volume chains mid ∧
      Finding file mode filename mid chains ∧ Ends file mode filename mid chains later) volume := by
  have place := finding.place_nonneg
  exact wp_findFile finding (by omega)

/-- The rule of `afatfs_createFileContinue`, where the search begins. -/
theorem wp_createFileBegins (begins : Begins file mode filename volume chains) :
    Wp (createFileContinue file ⟨filename, .initial⟩) (fun _ later => ∃ mid, Searched file volume chains mid ∧
      Finding file mode filename mid chains ∧ Ends file mode filename mid chains later) volume := by
  rw [createFileContinue, show 2 ^ 28 = (2 ^ 28 - 1) + 1 from rfl, repeated]
  apply Wp.bind
  apply (wp_createFile_begins begins).mono
  rintro _ mid ⟨rfl, searched, finding⟩
  have place := finding.place_nonneg
  apply (wp_findFile finding (by omega)).mono
  rintro _ later ⟨last, searched', rest⟩
  exact ⟨last, searched.trans searched', rest⟩

end ComputerSystems.Fat
