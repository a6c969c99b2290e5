import ComputerSystems.Verified.FileOpening

/-! # The current directory

`afatfs_chdir` gives the record of a directory to the current one, which then owns the
chain of that directory (`SystemOk.enters`), and a handle of a directory is closed without
anything else.
-/

namespace ComputerSystems.Fat

open ComputerSystems.Data ComputerSystems.System Program

variable {volume later mid : Volume} {chains chains' : Owner → List Word} {file other : FileRef}
  {names : List UInt8 → Prop} {record : AfatfsFile}

/-! ## Changing it -/

theorem Owner.IsDirectory.goesTo {owner : Owner} (isDirectory : owner.IsDirectory) : owner.GoesTo .currentDirectory := by
  cases owner with
  | file other => exact isDirectory
  | directory n => rfl
  | _ => exact isDirectory.elim

/-- The directories have kept their chains when two of them have changed their owners. -/
theorem swap_others {owner : Owner} (isDirectory : owner.IsDirectory) :
    SameDirectories (chains ∘ Equiv.swap (.file .currentDirectory) owner) chains := by
  have again : (chains ∘ Equiv.swap (.file .currentDirectory) owner) ∘ Equiv.swap (.file .currentDirectory) owner = chains := by
    funext one
    simp
  have same : SameDirectories (chains ∘ Equiv.swap (.file .currentDirectory) owner) _ := isDirectory.goesTo.directories
  rwa [again] at same

/-- The current directory gets the record of a directory. -/
theorem FilesOk.enters (ok : FilesOk volume chains) (unlocked : (volume.afatfs.files .currentDirectory).Unlocked)
    (handle : HandleOk volume.afatfs chains record) (idle : record.operation = .none) :
    ∃ owner : Owner, owner.IsDirectory ∧ FilesOk (volume.withRecord .currentDirectory record)
      (chains ∘ Equiv.swap (.file .currentDirectory) owner) := by
  have nothing : volume.afatfs.link record.operation.pendingCluster = none := by
    rw [idle]
    rfl
  rcases handle.chain with isRoot | ⟨notRoot, owner, isDirectory, first, shape⟩
  · have unchained : ¬ record.HasChain .currentDirectory := fun chained => chained.not_root isRoot
    have goesTo : (Owner.file .currentDirectory).GoesTo .currentDirectory := rfl
    exact ⟨.file .currentDirectory, rfl, ok.takes goesTo (.inr unlocked) handle.unlocked (fun _ => idle) ok.directory_pending
      nothing (fun chained => absurd chained unchained) (fun chained => absurd chained unchained)
      (fun chained => absurd chained unchained) (fun _ => .inl idle) fun _ elsewhere => absurd rfl elsewhere⟩
  · exact ⟨owner, isDirectory, ok.takes isDirectory.goesTo (.inr unlocked) handle.unlocked (fun _ => idle) ok.directory_pending
      nothing (fun _ => first) (fun _ => shape) (fun _ _ => handle.entry) (fun _ => .inl idle)
      fun _ elsewhere => absurd rfl elsewhere⟩

/-- The invariant when the current directory has the record of another directory. -/
theorem SystemOk.enters (about : FileRef → Prop) (system : SystemOk names volume chains) (calm : volume.afatfs.Calm)
    (handle : HandleOk volume.afatfs chains record) (idle : record.operation = .none) (used : record.type ≠ .none)
    (isDirectory : record.type = .normal → record.isDirectory = true) :
    ∃ chains', SystemOk names (volume.withRecord .currentDirectory record) chains' ∧
      Passes about volume chains (volume.withRecord .currentDirectory record) chains' := by
  obtain ⟨owner, owned, ok⟩ := system.toFilesOk.enters (system.calm (system.not_opens calm)) handle idle
  have others {file : FileRef} (notCurrent : file ≠ .currentDirectory) :
      (volume.withRecord .currentDirectory record).afatfs.files file = volume.afatfs.files file := withRecord_other notCurrent
  have chain {file : FileRef} (notCurrent : file ≠ .currentDirectory) :
      (chains ∘ Equiv.swap (.file .currentDirectory) owner) (.file file) = chains (.file file) := by
    refine swap_of_ne (by simp [notCurrent]) ?_
    rintro rfl
    exact notCurrent owned
  have entry (position : DirEntryPointer) :
      (chains ∘ Equiv.swap (.file .currentDirectory) owner) (.entry position) = chains (.entry position) := by
    refine swap_of_ne (by simp) ?_
    rintro rfl
    exact owned
  -- the chain of the old directory and that of the new one change places
  have same : SameEntries volume chains (volume.withRecord .currentDirectory record)
      (chains ∘ Equiv.swap (.file .currentDirectory) owner) := by
    refine ⟨rfl, rfl, fun file isFile => ?_, fun file isFile => others isFile.notCurrent, fun file => chain, entry,
      owned.goesTo.directories, swap_others owned, fun file unchained notCurrent => ?_⟩
    · rwa [others isFile.notCurrent] at isFile
    · rw [others notCurrent] at unchained
      exact system.spare file unchained notCurrent
  have none (file : FileRef) : ¬ ((volume.withRecord .currentDirectory record).afatfs.files file).Opens := by
    intro opens
    rw [others (ok.opens_notCurrent opens)] at opens
    exact system.not_opens calm file opens
  refine ⟨_, ⟨ok, system.toEntriesOk.congr same, ?_, ?_, fun file opens => absurd opens (none file),
    fun file _ opens => absurd opens (none file), fun _ => ?_⟩, ?_⟩
  · rw [withRecord_file]
    rcases handle.chain with isRoot | ⟨notRoot, -⟩
    · exact .inr ⟨rfl, isRoot⟩
    · refine .inl ⟨?_, .inl rfl⟩
      cases type : record.type with
      | none => exact absurd type used
      | normal => exact .inl rfl
      | fat16RootDirectory => exact absurd type notRoot
      | directory => exact .inr ⟨rfl, rfl⟩
  · rw [withRecord_file]
    exact isDirectory
  · rw [withRecord_file]
    exact handle.unlocked
  · refine .of_same about rfl rfl (fun n => ?_) (fun cluster stray => (stray_comp _).mp stray)
      fun file isFile => ⟨others isFile.notCurrent, chain isFile.notCurrent⟩
    refine swap_of_ne (by simp) ?_
    rintro rfl
    exact owned

/-- The record of the root directory is that of a directory. -/
theorem SystemOk.rootOk (system : SystemOk names volume chains) :
    HandleOk volume.afatfs chains volume.afatfs.rootDirectory.toStart := by
  have unlocked : volume.afatfs.rootDirectory.toStart.Unlocked := ⟨rfl, rfl⟩
  refine ⟨.inl rfl, unlocked, rfl, ?_⟩
  by_cases fat16 : volume.afatfs.filesystemType = .fat16
  · exact .inl (if_pos fat16)
  · obtain ⟨owner, isDirectory, first, room⟩ := system.root fat16
    have notRoot : volume.afatfs.rootDirectory.toStart.type ≠ .fat16RootDirectory := by
      change (if volume.afatfs.filesystemType = .fat16 then FileType.fat16RootDirectory else .directory) ≠ _
      rw [if_neg fat16]
      nofun
    refine .inr ⟨notRoot, owner, isDirectory, first, ?_⟩
    exact .of_start system.geometry.clusterSize_pos first rfl rfl rfl rfl (Nat.zero_le _) room (Nat.zero_le _) rfl unlocked

/-- A handle of a directory. -/
theorem FilesOk.directoryHandle (ok : FilesOk volume chains) (isDirectory : (volume.afatfs.files file).IsDirectory file) :
    ¬ (volume.afatfs.files file).HasChain file ∧ (volume.afatfs.files file).operation = .none ∧
      HandleOk volume.afatfs chains (volume.afatfs.files file) := by
  obtain ⟨used, directory, notCurrent⟩ := isDirectory
  have unchained : ¬ (volume.afatfs.files file).HasChain file := by
    rintro ⟨type, ordinary⟩
    have isDirectory := directory (type.resolve_right fun both => notCurrent both.1)
    rw [ordinary.resolve_left notCurrent] at isDirectory
    cases isDirectory
  have idle := ok.idle file unchained
  exact ⟨unchained, idle.operation.resolve_right fun both => used both.1, idle.handle notCurrent used⟩

/-- The rule of `afatfs_chdir`. -/
theorem wp_chdir {directory : Option FileRef} (about : FileRef → Prop) (system : SystemOk names volume chains)
    (calm : volume.afatfs.Calm) (isDirectory : ∀ file, directory = some file → (volume.afatfs.files file).IsDirectory file) :
    Wp (chdir directory) (fun _ later =>
      ∃ chains', SystemOk names later chains' ∧ Passes about volume chains later chains') volume := by
  rw [chdir, wp_get_bind]
  simp only [AfatfsFile.isBusy, system.still, ne_eq, not_true_eq_false, decide_false, Bool.false_eq_true, if_false]
  cases directory with
  | some file =>
    obtain ⟨-, idle, handle⟩ := system.directoryHandle (isDirectory file rfl)
    simp only [idle, not_true_eq_false, decide_false, Bool.false_eq_true, if_false]
    refine wp_modifyFile_bind.mpr ((wp_pure _).mpr ?_)
    exact system.enters about calm handle idle (isDirectory file rfl).1 (isDirectory file rfl).2.1
  | none =>
    -- the root directory, from its start
    simp only
    rw [wp_modifyFile_bind]
    apply Wp.bind
    apply (wp_seekStart (by rw [withRecord_file]; exact ⟨rfl, rfl⟩)).mono
    rintro _ later rfl
    refine (wp_pure _).mpr ?_
    rw [withRecord_withRecord, withRecord_file]
    refine system.enters about calm system.rootOk rfl ?_ ?_
    · change (if _ then FileType.fat16RootDirectory else .directory) ≠ _
      split_ifs <;> rintro ⟨⟩
    · change (if _ then FileType.fat16RootDirectory else .directory) = _ → _
      split_ifs <;> rintro ⟨⟩

/-! ## Closing a handle -/

/-- A handle of a directory is free again. -/
theorem FilesOk.frees (ok : FilesOk volume chains) (isDirectory : (volume.afatfs.files file).IsDirectory file)
    (free : record.type = .none) (idle : record.operation = .none) (unlocked : record.Unlocked) :
    FilesOk (volume.withRecord file record) chains := by
  obtain ⟨unchained, -, -⟩ := ok.directoryHandle isDirectory
  have notCurrent := isDirectory.2.2
  have unchained' : ¬ record.HasChain file := fun chained => chained.not_none free
  have noSectors : ¬ (volume.afatfs.files file).HasSectors file :=
    fun sectors => sectors.elim unchained fun isRoot => notCurrent isRoot.1
  exact ok.withRecord (.inl noSectors) unlocked (fun same => absurd same notCurrent) (ok.idle file unchained).pending
    (by rw [idle]; rfl) (fun chained => absurd chained unchained') (fun chained => absurd chained unchained')
    (fun chained => absurd chained unchained') (fun _ => .inl idle) fun _ _ used => absurd free used

/-- The invariant when a handle of a directory is free again. -/
theorem SystemOk.frees (about : FileRef → Prop) (system : SystemOk names volume chains)
    (isDirectory : (volume.afatfs.files file).IsDirectory file) (free : record.type = .none) (idle : record.operation = .none)
    (unlocked : record.Unlocked) :
    SystemOk names (volume.withRecord file record) chains ∧ Passes about volume chains (volume.withRecord file record) chains := by
  obtain ⟨unchained, -, -⟩ := system.directoryHandle isDirectory
  have notCurrent := isDirectory.2.2
  have unchained' : ¬ record.HasChain file := fun chained => chained.not_none free
  have closed : ¬ (volume.afatfs.files file).IsFile file := fun isFile => unchained isFile.hasChain
  have nothing := system.spare file unchained notCurrent
  have aside : Aside file volume (volume.withRecord file record) := .withRecord notCurrent
  have directory : (volume.withRecord file record).afatfs.files .currentDirectory = volume.afatfs.files .currentDirectory :=
    withRecord_other notCurrent.symm
  have ok := system.toFilesOk.frees isDirectory free idle unlocked
  have same : SameEntries volume chains (volume.withRecord file record) chains := by
    refine aside.entries system closed ?_ nothing
    rw [withRecord_file]
    exact fun isFile => unchained' isFile.hasChain
  -- a handle that is free is not being opened
  have elsewhere {other : FileRef} (opens : ((volume.withRecord file record).afatfs.files other).Opens) : other ≠ file := by
    rintro rfl
    rw [withRecord_file] at opens
    exact opens.1 free
  have before {other : FileRef} (opens : ((volume.withRecord file record).afatfs.files other).Opens) :
      (volume.afatfs.files other).Opens := by
    rwa [withRecord_other (elsewhere opens)] at opens
  refine ⟨⟨ok, system.toEntriesOk.congr same, ?_, ?_, fun other opens => ?_,
    fun one other opens opens' => system.single one other (before opens) (before opens'), fun none => ?_⟩,
    aside.passes about system.toFilesOk closed⟩
  · rw [directory]
    exact system.directory
  · rw [directory]
    exact system.isDirectory
  · obtain ⟨mode, filename, isName, fresh, finding⟩ := system.searches other (before opens)
    exact ⟨mode, filename, isName, same.fresh fresh, finding.keeps ok rfl (withRecord_other (elsewhere opens)) directory⟩
  · rw [directory]
    refine system.calm fun other opens => none other ?_
    rw [withRecord_other]
    · exact opens
    · rintro rfl
      have opening := opens.2
      rw [(system.directoryHandle isDirectory).2.1] at opening
      cases opening

/-- The handle of a directory is free, and as it was otherwise. -/
structure Freed (file : FileRef) (volume : Volume) (record : AfatfsFile) : Prop where
  free : record.type = .none
  idle : record.operation = .none
  unlocked : record.Unlocked
  position : record.directoryEntryPos = (volume.afatfs.files file).directoryEntryPos

/-- The rule of `afatfs_fclose` for a handle of a directory that does not save an entry. -/
theorem wp_fclose_handle (ok : FilesOk volume chains) (isDirectory : (volume.afatfs.files file).IsDirectory file)
    (unsaved : (volume.afatfs.files file).savesEntry = false) :
    Wp (fclose file) (fun _ later => ∃ record, Freed file volume record ∧ later = volume.withRecord file record) volume := by
  obtain ⟨-, idle, handle⟩ := ok.directoryHandle isDirectory
  rw [fclose, wp_get_bind]
  simp only [isDirectory.1, AfatfsFile.isBusy, idle, ne_eq, not_true_eq_false, decide_false, Bool.false_eq_true, if_false]
  rw [wp_modifyFile_bind, setOperation, wp_modifyFile_bind, withRecord_withRecord, withRecord_file]
  change Wp _ _ (volume.withRecord file (volume.afatfs.files file).closing)
  have saves : (volume.afatfs.files file).closing.savesEntry = false := unsaved
  -- a handle of a directory holds neither its entry nor a sector
  have released : (volume.withRecord file (volume.afatfs.files file).closing).afatfs.releaseDirectory file =
      (volume.withRecord file (volume.afatfs.files file).closing).afatfs := by
    apply releaseDirectory_of_not
    rw [withRecord_file]
    exact handle.directory
  have unlocks : (volume.withRecord file (volume.afatfs.files file).closing).afatfs.fileUnlockCacheSector file =
      (volume.withRecord file (volume.afatfs.files file).closing).afatfs := by
    apply fileUnlockCacheSector_unlocked
    rw [withRecord_file]
    exact handle.unlocked
  apply Wp.bind
  rw [fcloseContinue, wp_get_bind, withRecord_file, saves]
  simp only [Bool.false_eq_true, if_false]
  rw [releaseFile, wp_modify_bind, released, wp_modify_bind, unlocks]
  refine wp_modifyFile.mpr ((wp_pure _).mpr ?_)
  change ∃ record, Freed file volume record ∧
    (volume.withRecord file _).withRecord file _ = volume.withRecord file record
  rw [withRecord_withRecord, withRecord_file]
  exact ⟨(volume.afatfs.files file).closing.closed, ⟨rfl, rfl, handle.unlocked, rfl⟩, rfl⟩

/-- The invariant when a handle of a directory is closed. -/
theorem wp_fclose_directory (about : FileRef → Prop) (system : SystemOk names volume chains)
    (isDirectory : (volume.afatfs.files file).IsDirectory file) (unsaved : (volume.afatfs.files file).savesEntry = false) :
    Wp (fclose file) (fun _ later =>
      ∃ chains', SystemOk names later chains' ∧ Passes about volume chains later chains') volume := by
  apply (wp_fclose_handle system.toFilesOk isDirectory unsaved).mono
  rintro _ later ⟨record, freed, rfl⟩
  exact ⟨chains, system.frees about isDirectory freed.free freed.idle freed.unlocked⟩

end ComputerSystems.Fat
