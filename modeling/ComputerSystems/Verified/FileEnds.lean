import ComputerSystems.Verified.ClusterRelease
import ComputerSystems.Verified.FileWrites

/-! # Truncating, closing and deleting

`afatfs_ftruncate` and `afatfs_funlink` take the chain of a file away at once, and it is
given back to the table later.  A file that is closed lets go of its sectors, and its
directory entry says how long it is and where it begins.
-/

namespace ComputerSystems.Fat

open ComputerSystems.Data Program

variable {volume later : Volume} {chains chains' : Owner → List Word} {file other : FileRef}
  {written : Word → Prop} {deletes : Bool}

/-! ## Giving up the chain -/

/-- The record of a file that has given up its clusters.  Its size is where the cursor was. -/
def AfatfsFile.dropped (deletes : Bool) (f : AfatfsFile) : AfatfsFile :=
  { f.rewound with
    logicalSize := f.cursorOffset
    physicalSize := 0
    cursorCluster := 0
    firstCluster := 0
    operation := .truncating deletes { currentCluster := f.firstCluster } }

/-- How `afatfs_ftruncate` and `afatfs_funlink` leave a file that is not busy. -/
def Volume.dropped (file : FileRef) (deletes : Bool) (volume : Volume) : Volume :=
  { volume with
    afatfs := (volume.afatfs.fileUnlockCacheSector file).updateFile file fun _ => (volume.afatfs.files file).dropped deletes }

@[simp] theorem dropped_file : (volume.dropped file deletes).afatfs.files file = (volume.afatfs.files file).dropped deletes := by
  simp [Volume.dropped]

/-- The chain of the file, or what is pending, is the other one of the two. -/
def Owner.exchange (file : FileRef) : Owner → Owner := Equiv.swap (.file file) (.pending file)

@[simp] theorem exchange_file : Owner.exchange file (.file file) = .pending file := Equiv.swap_apply_left _ _

@[simp] theorem exchange_pending : Owner.exchange file (.pending file) = .file file := Equiv.swap_apply_right _ _

theorem exchange_of_ne {owner : Owner} (notFile : owner ≠ .file file) (notPending : owner ≠ .pending file) :
    Owner.exchange file owner = owner := Equiv.swap_apply_of_ne_of_ne notFile notPending

/-- The chain of the file is pending then. -/
theorem FilesOk.dropped (ok : FilesOk volume chains) (normal : (volume.afatfs.files file).HasChain file)
    (notCurrent : file ≠ .currentDirectory) (idle : (volume.afatfs.files file).operation = .none)
    (atStart : deletes = false → (volume.afatfs.files file).cursorOffset = 0) :
    Works file written volume chains (volume.dropped file deletes) (chains ∘ Owner.exchange file) := by
  have unlocks : Works file written volume chains _ chains := ok.fileUnlockCacheSector (.inl normal)
  have record := fileUnlockCacheSector_file file volume.afatfs
  have good := (ok.isOpen file normal).shape.operation
  rw [OperationOk, idle] at good
  have elsewhere : ∀ owner, owner ≠ .file file → owner ≠ .pending file → (chains ∘ Owner.exchange file) owner = chains owner :=
    fun owner notFile notPending => congrArg chains (exchange_of_ne notFile notPending)
  have serves : Serves file { volume with afatfs := volume.afatfs.fileUnlockCacheSector file } (volume.dropped file deletes) :=
    serves_updateFile unlocks.ok.coherent (by rw [record]; exact ⟨rfl, rfl, rfl, rfl⟩)
  have linkless : volume.afatfs.link 0 = none := if_pos (.inl rfl)
  have unlockedChain : ((volume.afatfs.fileUnlockCacheSector file).files file).HasChain file := by
    rw [record]
    exact normal
  have chained : ((volume.dropped file deletes).afatfs.files file).HasChain file := serves.locks.hasChain.mpr unlockedChain
  have starts : (volume.dropped file deletes).afatfs.starts (chains ∘ Owner.exchange file) =
      (volume.afatfs.fileUnlockCacheSector file).starts chains ∘ Owner.exchange file := by
    have begins : (volume.dropped file deletes).afatfs.starts (chains ∘ Owner.exchange file) = _ :=
      Afatfs.starts_eq serves.disk serves.files elsewhere chained
    rw [dropped_file] at begins
    refine Eq.trans begins ?_
    funext owner
    by_cases isPending : owner = .pending file
    · subst isPending
      rw [Function.update_self, Function.comp_apply, exchange_pending, Afatfs.starts, if_pos unlockedChain, record]
      simp [AfatfsFile.dropped, AfatfsFile.rewound]
    · rw [Function.update_of_ne isPending]
      by_cases isFile : owner = .file file
      · subst isFile
        rw [Function.update_self, Function.comp_apply, exchange_file, Afatfs.starts, record, idle]
        rfl
      · rw [Function.update_of_ne isFile, Function.comp_apply, exchange_of_ne isFile isPending]
  apply unlocks.trans
  refine ⟨unlocks.ok.serves serves elsewhere (fun here => absurd here notCurrent) unlocks.ok.reserved unlocks.ok.hint
    ?_ ?_ ?_, rfl, serves.files, elsewhere, ?_, ?_, ?_, fun _ _ _ _ _ => rfl, fun _ _ _ _ => .refl _ _, fun _ unsaved => ?_, ?_⟩
  · exact starts ▸ unlocks.ok.separate.comp (Equiv.injective _)
  · intro _
    have shape := (ok.isOpen file normal).shape
    have entry := (unlocks.ok.isOpen file unlockedChain).entry (by rw [record]; exact opening_of_idle idle)
    rw [record] at entry
    have unlocked : ((volume.afatfs.files file).dropped deletes).Unlocked := ⟨rfl, rfl⟩
    apply OpenOk.of_unlocked
    · rw [dropped_file, Function.comp_apply, Function.comp_apply, exchange_file, exchange_pending, good.1]
      refine ⟨TruncateOk.operationOk ⟨⟨rfl, ?_⟩, .inl rfl⟩ unlocked, ?_, ?_, ?_, shape.directory, .inl unlocked⟩
      · exact ⟨le_rfl, if_pos (.inl rfl), rfl, Nat.le_of_eq (Nat.zero_mul _), fun inside => absurd inside (Nat.lt_irrefl 0),
          fun _ => (Nat.zero_mul _).symm⟩
      · simp [AfatfsFile.dropped]
      · simp [AfatfsFile.dropped]
      · intro closing
        rw [AfatfsFile.dropped, closing_truncating] at closing
        simp [AfatfsFile.dropped, atStart closing]
    · rw [dropped_file]
      exact unlocked
    · rw [dropped_file]
      exact fun _ => entry.congr rfl (sameDirectories_of elsewhere fun here => absurd here notCurrent)
  · exact fun unchained => absurd chained unchained
  · rw [dropped_file, record]
    rfl
  · rw [dropped_file, record]
    rfl
  · rw [dropped_file, record]
    exact opening_truncating.trans (opening_of_idle idle).symm
  · rw [dropped_file] at unsaved
    simp [AfatfsFile.dropped] at unsaved
  · rintro cluster ⟨used, outside⟩
    refine ⟨used, fun owner => ?_⟩
    have same := outside (Owner.exchange file owner)
    rwa [Function.comp_apply, Owner.exchange, Equiv.swap_apply_self] at same

theorem fileUnlockCacheSector_updateFile {afatfs : Afatfs} {change : AfatfsFile → AfatfsFile}
    (locks : SameLocks (afatfs.files file) (change (afatfs.files file))) :
    (afatfs.updateFile file change).fileUnlockCacheSector file = (afatfs.fileUnlockCacheSector file).updateFile file
      fun _ => { change (afatfs.files file) with writeLockedCacheIndex := none, readRetainCacheIndex := none } := by
  rw [fileUnlockCacheSector_eq, fileUnlockCacheSector_eq]
  simp [Afatfs.updateFile, AfatfsFile.letGo, locks.write, locks.read]

/-- The rule of `afatfs_ftruncate`, for a file that is not busy. -/
theorem wp_ftruncate (idle : (volume.afatfs.files file).operation = .none) :
    Wp (ftruncate file) (fun done later => done = true ∧ later = volume.dropped file false) volume := by
  rw [ftruncate, wp_get_bind]
  simp only [AfatfsFile.isBusy, idle, ne_eq, not_true_eq_false, decide_false, Bool.false_eq_true, if_false]
  refine (wp_modify_bind _).mpr ((wp_modify_bind _).mpr (Wp.bind ((wp_modify_bind _).mpr ?_)))
  rw [wp_get_bind]
  simp only [Afatfs.updateFile_updateFile]
  refine Wp.bind ((wp_modify_bind _).mpr ((wp_modify _).mpr ?_))
  rw [fileUnlockCacheSector_updateFile (by exact ⟨rfl, rfl, rfl, rfl⟩), Afatfs.updateFile_updateFile, wp_get_bind, fseekInternal]
  apply Wp.bind
  rw [fseekAtomic, wp_get_bind]
  have least (size : Word) : minimum 0 size = 0 := by
    apply BitVec.eq_of_toNat_eq
    rw [minimum_toNat]
    exact Nat.zero_min _
  simp only [Afatfs.updateFile_self, Function.comp_apply]
  rw [least, if_pos (by decide)]
  refine (wp_modify_bind _).mpr ((wp_pure _).mpr ((wp_pure _).mpr ((wp_pure _).mpr ⟨rfl, ?_⟩)))
  rw [Volume.dropped, Afatfs.updateFile_updateFile]
  rfl

/-- The rule of `afatfs_funlink`, for a file that is not busy. -/
theorem wp_funlink (normal : (volume.afatfs.files file).HasChain file)
    (idle : (volume.afatfs.files file).operation = .none) :
    Wp (funlink file) (fun done later => done = true ∧ later = volume.dropped file true) volume := by
  rw [funlink, wp_get_bind]
  simp only [normal.not_none, if_false]
  apply Wp.bind
  apply (wp_ftruncate idle).mono
  rintro _ mid ⟨rfl, rfl⟩
  refine (wp_modify_bind _).mpr ((wp_pure _).mpr ⟨rfl, ?_⟩)
  rw [Volume.dropped, Volume.dropped, Afatfs.updateFile_updateFile]
  rfl

/-! ## Closing -/

/-- A handle that has a chain no more leaves it where it begins. -/
theorem FilesOk.starts_unchained {afatfs : Afatfs} (ok : FilesOk volume chains)
    (chained : (volume.afatfs.files file).HasChain file) (unchained : ¬ (afatfs.files file).HasChain file)
    (files : ∀ other, other ≠ file → afatfs.files other = volume.afatfs.files other)
    (pending : (afatfs.files file).operation.pendingCluster = (volume.afatfs.files file).operation.pendingCluster)
    (disk : afatfs.disk = volume.afatfs.disk) : afatfs.starts chains = volume.afatfs.starts chains := by
  have link : afatfs.link = volume.afatfs.link := Afatfs.congr_disk Afatfs.link (fun _ => rfl) disk
  funext owner
  cases owner with
  | file other =>
    by_cases here : other = file
    · subst here
      rw [(ok.separate.threads (.file other)).start_eq, Afatfs.starts, if_neg unchained]
    · rw [Afatfs.starts, Afatfs.starts, files other here, link]
  | pending other =>
    by_cases here : other = file
    · subst here
      rw [Afatfs.starts, Afatfs.starts, pending, link]
    · rw [Afatfs.starts, Afatfs.starts, files other here, link]
  | directory n => rfl
  | entry position => rfl
  | other n => rfl

/-- The handle of a file that has no sector locked is given up. -/
theorem FilesOk.closed (ok : FilesOk volume chains) (normal : (volume.afatfs.files file).HasChain file)
    (unlocked : (volume.afatfs.files file).Unlocked) (closes : (volume.afatfs.files file).operation = .close) :
    Works file written volume chains
      { volume with afatfs := volume.afatfs.updateFile file AfatfsFile.closed } chains := by
  have record : (volume.afatfs.updateFile file AfatfsFile.closed).files file = (volume.afatfs.files file).closed :=
    Afatfs.updateFile_self
  have files : ∀ other, other ≠ file → (volume.afatfs.updateFile file AfatfsFile.closed).files other =
      volume.afatfs.files other := fun _ elsewhere => Afatfs.updateFile_other elsewhere
  have same : SameCache volume { volume with afatfs := volume.afatfs.updateFile file AfatfsFile.closed } :=
    ⟨rfl, rfl, rfl, rfl, rfl, rfl⟩
  have good := (ok.isOpen file normal).shape.operation
  rw [OperationOk, closes] at good
  -- the slots are those of the other files
  have apart : ∀ other slot, (volume.afatfs.files other).Has slot → other ≠ file := by
    rintro other slot has rfl
    exact has.locked unlocked
  have notCurrent : file ≠ .currentDirectory := ok.elsewhere_of_busy (by simp [closes])
  have unchained : ¬ ((volume.afatfs.updateFile file AfatfsFile.closed).files file).HasChain file := by
    rw [record]
    exact fun chained => chained.not_none rfl
  refine ⟨⟨same.coherent ok.coherent, ok.geometry.congr_disk rfl, ok.reserved, ok.hint, ?_, ?_, ?_, ?_, ?_, ?_⟩, rfl, files,
    fun _ _ _ => rfl, by rw [record]; rfl, by rw [record]; rfl, by rw [record, closes]; rfl,
    fun _ _ _ _ _ => rfl, fun _ _ _ _ => .refl _ _, fun records _ => ?_, fun _ => id⟩
  · have starts : (volume.afatfs.updateFile file AfatfsFile.closed).starts chains = volume.afatfs.starts chains :=
      ok.starts_unchained normal unchained files (by rw [record, closes]; rfl) rfl
    change Separate volume.fatTable ((volume.afatfs.updateFile file AfatfsFile.closed).starts chains) chains
    rw [starts]
    exact ok.separate
  · exact (congrArg AfatfsFile.operation (files _ notCurrent.symm)).trans ok.still
  · intro other chained
    by_cases here : other = file
    · subst here
      exact absurd chained unchained
    · rw [files other here] at chained
      exact (ok.isOpen other chained).keeps same.keeps rfl (files other here) rfl rfl (.refl chains)
  · intro other idle
    by_cases here : other = file
    · subst here
      refine ⟨.inl (by rw [record]; rfl), good.1, fun _ used => absurd (by rw [record]; rfl) used, fun isRoot => ?_⟩
      exact absurd isRoot.1 notCurrent
    · rw [files other here] at idle
      exact (ok.idle other idle).keeps same.keeps rfl (files other here) rfl (.refl chains)
  · intro slot locked
    obtain ⟨other, writes⟩ := ok.locked slot locked
    exact ⟨other, by rw [Volume.Writes, files other (apart other slot (.inl writes.2))]; exact writes⟩
  · intro slot retained
    obtain ⟨once, other, reads⟩ := ok.retained slot retained
    exact ⟨once, other, by rw [Volume.Reads, files other (apart other slot (.inr reads.2))]; exact reads⟩
  · refine (records (by rw [closes]; rfl)).keeps rfl (by rw [record]; rfl) (fun _ => rfl) (.inl (by rw [record]; rfl))

/-- A file that has not retained its directory has nothing to release there. -/
theorem releaseDirectory_of_not {afatfs : Afatfs} (retains : (afatfs.files file).mode.retainDirectory = false) :
    afatfs.releaseDirectory file = afatfs := by
  rw [Afatfs.releaseDirectory, retains]
  rfl

/-- The rule of the end of `afatfs_fcloseContinue`. -/
theorem wp_releaseFile (ok : FilesOk volume chains) (normal : (volume.afatfs.files file).HasChain file)
    (closes : (volume.afatfs.files file).operation = .close) :
    Wp (releaseFile file) (fun _ later => Works file NoSector volume chains later chains ∧
      later.content = volume.content ∧ (later.afatfs.files file).type = .none ∧
      (later.afatfs.files file).target = (volume.afatfs.files file).cursorOffset.toNat ∧
      (later.afatfs.files file).logicalSize = (volume.afatfs.files file).logicalSize ∧
      (later.afatfs.files file).firstCluster = (volume.afatfs.files file).firstCluster) volume := by
  have released : volume.afatfs.releaseDirectory file = volume.afatfs :=
    releaseDirectory_of_not (ok.isOpen file normal).shape.directory
  have unlocks : Works file NoSector volume chains _ chains := ok.fileUnlockCacheSector (.inl normal)
  have record := fileUnlockCacheSector_file file volume.afatfs
  have closed : Works file NoSector _ chains _ chains := unlocks.ok.closed (by rw [record]; exact normal)
    (by rw [record]; exact ⟨rfl, rfl⟩) (by rw [record]; exact closes)
  rw [releaseFile, wp_modify_bind, released]
  refine (wp_modify_bind _).mpr ((wp_modify _).mpr ⟨unlocks.trans closed, fileUnlockCacheSector_content, ?_, ?_, ?_, ?_⟩)
  · rw [Afatfs.updateFile_self]
    rfl
  · rw [Afatfs.updateFile_self, record]
    rfl
  · rw [Afatfs.updateFile_self, record]
    rfl
  · rw [Afatfs.updateFile_self, record]
    rfl

/-- How a file that is being closed is left: with its handle free and its entry saved, or as it was. -/
structure Closes (file : FileRef) (volume : Volume) (chains : Owner → List Word)
    (later : Volume) : Prop extends Works file NoSector volume chains later chains where
  place : (later.afatfs.files file).target = (volume.afatfs.files file).cursorOffset.toNat
  logical : (later.afatfs.files file).logicalSize = (volume.afatfs.files file).logicalSize
  first : (later.afatfs.files file).firstCluster = (volume.afatfs.files file).firstCluster
  ends : (later.afatfs.files file).type = .none ∧
      ((volume.afatfs.files file).savesEntry = true → later.content = volume.savedEntry file .forClose) ∨
    later.afatfs.files file = volume.afatfs.files file ∧ later.content = volume.content

/-- The rule of `afatfs_fcloseContinue`. -/
theorem wp_fcloseContinue (ok : FilesOk volume chains) (normal : (volume.afatfs.files file).HasChain file)
    (closes : (volume.afatfs.files file).operation = .close) :
    Wp (fcloseContinue file) (fun _ later => Closes file volume chains later) volume := by
  rw [fcloseContinue, wp_get_bind]
  split_ifs with saves
  · apply Wp.bind
    apply (wp_saveDirectoryEntry_works ok normal (by rw [closes]; rfl) (.inr closes)).mono
    rintro status mid ⟨works, files, rfl | rfl, saved, waits⟩
    · apply (wp_releaseFile works.ok (by rw [files]; exact normal) (by rw [files]; exact closes)).mono
      rintro _ later ⟨releases, content, free, place, logical, first⟩
      exact ⟨works.trans releases, by rw [place, files], by rw [logical, files], by rw [first, files],
        .inl ⟨free, fun _ => content.trans (saved rfl)⟩⟩
    · refine (wp_pure _).mpr ⟨works, ?_, by rw [files], by rw [files], .inr ⟨congrFun files file, waits rfl⟩⟩
      rw [files, AfatfsFile.target, closes]
  · apply (wp_releaseFile ok normal closes).mono
    rintro _ later ⟨releases, -, free, place, logical, first⟩
    exact ⟨releases, place, logical, first, .inl ⟨free, fun saves' => absurd saves' saves⟩⟩

/-- The record of a file that is about to be closed. -/
def AfatfsFile.closing (f : AfatfsFile) : AfatfsFile := { f.updateFilesize with operation := .close }

/-- The closing of the file has begun. -/
def Volume.closing (file : FileRef) (volume : Volume) : Volume :=
  { volume with afatfs := volume.afatfs.updateFile file AfatfsFile.closing }

@[simp] theorem closing_file : (volume.closing file).afatfs.files file = (volume.afatfs.files file).closing := by
  simp [Volume.closing]

theorem FilesOk.closing (ok : FilesOk volume chains) (normal : (volume.afatfs.files file).HasChain file)
    (notCurrent : file ≠ .currentDirectory)
    (rests : (volume.afatfs.files file).operation = .none ∨ (volume.afatfs.files file).operation = .close) :
    Works file written volume chains (volume.closing file) chains := by
  have shape := (ok.isOpen file normal).shape
  have good : AtRest volume.afatfs.link volume.afatfs.clusterSize.toNat (chains (.file file)) (chains (.pending file))
      (volume.afatfs.files file) := by
    have good := shape.operation
    rw [OperationOk] at good
    rcases rests with idle | closes
    · rwa [idle] at good
    · rwa [closes] at good
  have same {α : Type} (value : FileOperation → α) (both : value .none = value .close) :
      value .close = value (volume.afatfs.files file).operation := by
    rcases rests with idle | closes
    · rw [idle, both]
    · rw [closes]
  refine ok.record normal (.inr rfl) ⟨rfl, rfl, rfl, rfl⟩ rfl rfl (fun here => absurd here notCurrent) ?_ rfl ?_
    (fun _ => .inl ?_) (.inr ?_) ⟨good.congr rfl rfl rfl, ?_, ?_, by rintro ⟨⟩, shape.directory, shape.inside⟩
  · exact same FileOperation.opening rfl
  · exact congrArg _ (same FileOperation.pendingCluster rfl)
  · rw [← same FileOperation.unsaved rfl]
    rfl
  · obtain ⟨-, k, cursor⟩ := good
    have here := cursor.le
    have bigger : ((volume.afatfs.files file).updateFilesize.logicalSize).toNat = _ := updateFilesize_toNat
    rw [max_def] at bigger
    split_ifs at bigger
    · refine .inr ?_
      change ((volume.afatfs.files file).updateFilesize.logicalSize).toNat ≤ _
      rwa [bigger]
    · exact .inl (BitVec.eq_of_toNat_eq bigger)
  · have physical := shape.physical
    rw [← same FileOperation.appending rfl] at physical
    exact physical
  · have room := shape.room
    rw [← same FileOperation.appending rfl] at room
    exact room

theorem wp_fclose_of_closing (ok : FilesOk (volume.closing file) chains)
    (normal : (volume.afatfs.files file).HasChain file) (idle : (volume.afatfs.files file).operation = .none) :
    Wp (fclose file) (fun done later => done = true ∧ Closes file (volume.closing file) chains later) volume := by
  rw [fclose, wp_get_bind]
  simp only [normal.not_none, if_false, AfatfsFile.isBusy, idle, ne_eq, not_true_eq_false, decide_false,
    Bool.false_eq_true]
  refine (wp_modify_bind _).mpr ((wp_modify_bind _).mpr (Wp.bind ?_))
  rw [Afatfs.updateFile_updateFile]
  apply (wp_fcloseContinue ok (by rw [closing_file]; exact normal) (by rw [closing_file]; rfl)).mono
  intro _ later closes
  exact (wp_pure _).mpr ⟨rfl, closes⟩

/-- The rule of `afatfs_fclose`, for a file that is not busy. -/
theorem wp_fclose (ok : FilesOk volume chains) (normal : (volume.afatfs.files file).HasChain file)
    (notCurrent : file ≠ .currentDirectory) (idle : (volume.afatfs.files file).operation = .none) :
    Wp (fclose file) (fun done later => done = true ∧ Closes file (volume.closing file) chains later) volume :=
  have closing : Works file NoSector volume chains (volume.closing file) chains := ok.closing normal notCurrent (.inl idle)
  wp_fclose_of_closing closing.ok normal idle

/-- The rule of `afatfs_funlinkContinue`: some clusters are freed, or all of them and the file is closed. -/
theorem wp_funlinkContinue {opState : TruncateFile} (ok : FilesOk volume chains)
    (normal : (volume.afatfs.files file).HasChain file)
    (operation : (volume.afatfs.files file).operation = .unlink opState) :
    Wp (funlinkContinue file opState) (fun _ later =>
      (∃ chains' opState', Truncated file volume chains later chains' ∧
        (later.afatfs.files file).operation = .unlink opState') ∨
      ∃ mid chains', Truncated file volume chains mid chains' ∧ (mid.afatfs.files file).operation = .close ∧
        chains' (.pending file) = [] ∧ Closes file (mid.closing file) chains' later) volume := by
  rw [funlinkContinue]
  apply Wp.bind
  have unlinking : (volume.afatfs.files file).operation = .truncating true opState := operation
  apply (wp_ftruncateContinue ok normal unlinking fun _ => rfl).mono
  rintro status mid (⟨rfl, chains', opState', truncated, operation'⟩ | ⟨rfl, ⟨chains', truncated, nothing⟩, -⟩)
  · exact (wp_pure _).mpr (.inl ⟨chains', opState', truncated, operation'⟩)
  · have closes : ((mid.ended file true).afatfs.files file).operation = .close := by
      rw [ended_file]
      rfl
    have normal' : ((mid.ended file true).afatfs.files file).HasChain file := by
      rw [truncated.record]
      exact normal
    have closing : Works file NoSector _ chains' _ chains' := truncated.ok.closing normal'
      (truncated.ok.elsewhere_of_busy (by rw [closes]; decide)) (.inr closes)
    have same : ({ mid with afatfs := mid.afatfs.updateFile file fun f => { f with operation := .none } } : Volume).closing file =
        (mid.ended file true).closing file := by
      rw [Volume.closing, Volume.ended, Volume.closing]
      simp only [Afatfs.updateFile_updateFile]
      rfl
    refine (wp_modify_bind _).mpr (Wp.bind ?_)
    apply (wp_fclose_of_closing (same ▸ closing.ok) ?_ ?_).mono
    · rintro _ later ⟨-, ends⟩
      exact (wp_pure _).mpr (.inr ⟨mid.ended file true, chains', truncated, closes, nothing, same ▸ ends⟩)
    · rw [ended_file] at normal'
      rw [Afatfs.updateFile_self]
      exact normal'
    · rw [Afatfs.updateFile_self]

end ComputerSystems.Fat
