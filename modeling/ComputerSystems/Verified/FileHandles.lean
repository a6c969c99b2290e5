import ComputerSystems.Verified.FileSteps

/-! # Handles

A handle that has no sector of the cache gets another record (`FilesOk.replace`): while a
file is opened, when the current directory is changed and when a handle of a directory is
closed.  The chain of a file that is not open is owned by its entry, and goes to the handle
when the file is opened (`FilesOk.swap`).
-/

namespace ComputerSystems.Fat

open ComputerSystems.Data Program

variable {volume later : Volume} {chains chains' : Owner → List Word} {file other : FileRef} {record : AfatfsFile}

/-! ## Records -/

/-- The handle has another record. -/
def Volume.withRecord (file : FileRef) (record : AfatfsFile) (volume : Volume) : Volume :=
  { volume with afatfs := volume.afatfs.updateFile file fun _ => record }

@[simp] theorem withRecord_file : (volume.withRecord file record).afatfs.files file = record := by
  simp [Volume.withRecord]

theorem withRecord_other (elsewhere : other ≠ file) :
    (volume.withRecord file record).afatfs.files other = volume.afatfs.files other := by
  simp [Volume.withRecord, Afatfs.updateFile_other elsewhere]

@[simp] theorem withRecord_disk : (volume.withRecord file record).afatfs.disk = volume.afatfs.disk := rfl

@[simp] theorem withRecord_content : (volume.withRecord file record).content = volume.content := rfl

theorem withRecord_withRecord {record' : AfatfsFile} :
    (volume.withRecord file record).withRecord file record' = volume.withRecord file record' := by
  simp [Volume.withRecord, Afatfs.updateFile]

theorem wp_modifyFile {change : AfatfsFile → AfatfsFile} {post : Unit → Volume → Prop} :
    Wp (modifyFile file change) post volume ↔ post () (volume.withRecord file (change (volume.afatfs.files file))) :=
  wp_modify _

theorem wp_modifyFile_bind {α : Type} {change : AfatfsFile → AfatfsFile} {next : Unit → Fs α} {post : α → Volume → Prop} :
    Wp (modifyFile file change >>= next) post volume ↔
      Wp (next ()) post (volume.withRecord file (change (volume.afatfs.files file))) :=
  wp_modify_bind _

/-- The invariant after the record of a handle without sectors has been replaced, if what belongs to the new
    one is in order. -/
theorem FilesOk.replace (ok : FilesOk volume chains)
    (free : ¬ (volume.afatfs.files file).HasSectors file ∨ (volume.afatfs.files file).Unlocked)
    (unlocked : record.Unlocked) (still : file = .currentDirectory → record.operation = .none)
    (separate : Separate volume.fatTable ((volume.withRecord file record).afatfs.starts chains') chains')
    (same : ∀ other, other ≠ file → (volume.afatfs.files other).HasChain other → chains' (.file other) = chains (.file other))
    (pending : ∀ other, other ≠ file → chains' (.pending other) = chains (.pending other))
    (directories : SameDirectories chains chains')
    (shape : record.HasChain file → FileShape volume.afatfs.link volume.afatfs.clusterSize.toNat
      (volume.afatfs.numClusters.toNat + 2) (chains' (.file file)) (chains' (.pending file)) record)
    (entry : record.HasChain file → record.operation.opening = false →
      EntryOk volume.afatfs chains' record.directoryEntryPos)
    (idle : ¬ record.HasChain file →
      record.operation = .none ∨ record.type = .none ∧ record.operation.opening = true)
    (nothing : ¬ record.HasChain file → chains' (.pending file) = [])
    (handle : ¬ record.HasChain file → file ≠ .currentDirectory → record.type ≠ .none →
      HandleOk volume.afatfs chains' record) : FilesOk (volume.withRecord file record) chains' := by
  have cache : SameCache volume (volume.withRecord file record) := ⟨rfl, rfl, rfl, rfl, rfl, rfl⟩
  have files {other : FileRef} (elsewhere : other ≠ file) :
      (volume.withRecord file record).afatfs.files other = volume.afatfs.files other := withRecord_other elsewhere
  -- a slot that is locked or retained is one of another file
  have apart {other : FileRef} {slot : Slot} (isOpen : (volume.afatfs.files other).HasSectors other)
      (has : (volume.afatfs.files other).Has slot) : other ≠ file := by
    rintro rfl
    rcases free with none | free
    · exact none isOpen
    · exact has.locked free
  refine ⟨cache.coherent ok.coherent, ok.geometry.congr_disk rfl, ok.reserved, ok.hint, separate, ?_, ?_, ?_, ?_, ?_⟩
  · by_cases here : .currentDirectory = file
    · subst here
      rw [withRecord_file]
      exact still rfl
    · rw [files here]
      exact ok.still
  · intro other chained
    by_cases here : other = file
    · subst here
      rw [withRecord_file] at chained
      apply OpenOk.of_unlocked
      · rw [withRecord_file]
        exact (shape chained).congr withRecord_disk
      · rw [withRecord_file]
        exact unlocked
      · rw [withRecord_file]
        exact fun opened => (entry chained opened).congr rfl (.refl chains')
    · rw [files here] at chained
      exact (ok.isOpen other chained).keeps cache.keeps rfl (files here) (same other here chained) (pending other here) directories
  · intro other unchained
    by_cases here : other = file
    · subst here
      rw [withRecord_file] at unchained
      refine ⟨by rw [withRecord_file]; exact idle unchained, nothing unchained, ?_, ?_⟩
      · rw [withRecord_file]
        exact fun elsewhere used => (handle unchained elsewhere used).congr rfl (.refl chains')
      · rintro ⟨rfl, -⟩
        refine ⟨.of_unlocked ?_, ?_, .inl ?_⟩
        · rw [withRecord_file]
          exact unlocked
        · rw [withRecord_file]
          exact unlocked.1
        · rw [withRecord_file]
          exact unlocked.2
    · rw [files here] at unchained
      exact (ok.idle other unchained).keeps cache.keeps rfl (files here) (pending other here) directories
  · intro slot locked
    obtain ⟨other, chained, writes⟩ := ok.locked slot locked
    exact ⟨other, by rw [Volume.Writes, files (apart (.inl chained) (.inl writes))]; exact ⟨chained, writes⟩⟩
  · intro slot retained
    obtain ⟨once, other, isOpen, reads⟩ := ok.retained slot retained
    exact ⟨once, other, by rw [Volume.Reads, files (apart isOpen (.inr reads))]; exact ⟨isOpen, reads⟩⟩

/-! ## Owners -/

/-- The chain is not that of an open file, of an operation or of a directory. -/
def Volume.Spare (volume : Volume) : Owner → Prop
  | .file file => file ≠ .currentDirectory ∧ ¬ (volume.afatfs.files file).HasChain file
  | .entry _ => True
  | _ => False

theorem Volume.Spare.not_directory {owner : Owner} (spare : volume.Spare owner) : ¬ owner.IsDirectory := by
  cases owner with
  | file file => exact spare.1
  | entry position => exact not_false
  | _ => exact spare.elim

theorem Volume.Spare.not_pending {owner : Owner} (spare : volume.Spare owner) (file : FileRef) :
    owner ≠ .pending file := by
  rintro rfl
  exact spare

theorem Volume.Spare.not_file {owner : Owner} (spare : volume.Spare owner)
    (chained : (volume.afatfs.files file).HasChain file) : owner ≠ .file file := by
  rintro rfl
  exact spare.2 chained

theorem starts_spare {owner : Owner} (spare : volume.Spare owner) :
    volume.afatfs.starts chains owner = (chains owner).head? := by
  cases owner with
  | file file => exact if_neg spare.2
  | entry position => rfl
  | _ => exact spare.elim

theorem starts_congr {afatfs : Afatfs} {owner : Owner} (same : chains' owner = chains owner) :
    afatfs.starts chains' owner = afatfs.starts chains owner := by
  cases owner with
  | pending file => rfl
  | _ => simp only [Afatfs.starts, same]

theorem swap_of_ne {owner a b : Owner} (first : owner ≠ a) (second : owner ≠ b) :
    (chains ∘ Equiv.swap a b) owner = chains owner :=
  congrArg chains (Equiv.swap_apply_of_ne_of_ne first second)

/-- The chains of the directories stay where they are when two others are exchanged. -/
theorem swap_directories {a b : Owner} (first : ¬ a.IsDirectory) (second : ¬ b.IsDirectory) :
    SameDirectories chains (chains ∘ Equiv.swap a b) := by
  intro owner isDirectory
  refine ⟨owner, isDirectory, swap_of_ne ?_ ?_⟩
  · rintro rfl
    exact first isDirectory
  · rintro rfl
    exact second isDirectory

/-- Two chains that are in no use change their owners. -/
theorem FilesOk.swap {a b : Owner} (ok : FilesOk volume chains) (first : volume.Spare a) (second : volume.Spare b) :
    FilesOk volume (chains ∘ Equiv.swap a b) := by
  have keeps : Keeps volume volume := SameCache.keeps ⟨rfl, rfl, rfl, rfl, rfl, rfl⟩
  have directories : SameDirectories chains _ := swap_directories first.not_directory second.not_directory
  have pending (file : FileRef) : (chains ∘ Equiv.swap a b) (.pending file) = chains (.pending file) :=
    swap_of_ne (first.not_pending file).symm (second.not_pending file).symm
  have starts : volume.afatfs.starts (chains ∘ Equiv.swap a b) = volume.afatfs.starts chains ∘ Equiv.swap a b := by
    funext owner
    rw [Function.comp_apply]
    by_cases isFirst : owner = a
    · rw [isFirst, starts_spare first, Function.comp_apply, Equiv.swap_apply_left, starts_spare second]
    · by_cases isSecond : owner = b
      · rw [isSecond, starts_spare second, Function.comp_apply, Equiv.swap_apply_right, starts_spare first]
      · rw [Equiv.swap_apply_of_ne_of_ne isFirst isSecond]
        exact starts_congr (swap_of_ne isFirst isSecond)
  refine ⟨ok.coherent, ok.geometry, ok.reserved, ok.hint, ?_, ok.still, ?_, ?_, ok.locked, ok.retained⟩
  · rw [starts]
    exact ok.separate.comp (Equiv.injective _)
  · intro file chained
    exact (ok.isOpen file chained).keeps keeps rfl rfl
      (swap_of_ne (first.not_file chained).symm (second.not_file chained).symm) (pending file) directories
  · intro file unchained
    exact (ok.idle file unchained).keeps keeps rfl rfl (pending file) directories

/-- No place is lost when chains change their owners. -/
theorem stray_comp {table : Table Word} {cluster : Word} (rename : Equiv.Perm Owner) :
    Stray table (chains ∘ rename) cluster ↔ Stray table chains cluster := by
  refine ⟨fun stray => ⟨stray.used, fun owner => ?_⟩, fun stray => ⟨stray.used, fun owner => stray.outside _⟩⟩
  have outside := stray.outside (rename.symm owner)
  rwa [Function.comp_apply, Equiv.apply_symm_apply] at outside

/-! ## A handle and its chain -/

/-- The handle may get the chain: it has it already, or it is that of a file that is not open, or of a directory
    in the case of the current one. -/
def Owner.GoesTo (file : FileRef) : Owner → Prop
  | .file other => other = file
  | .entry _ => file ≠ .currentDirectory
  | .directory _ => file = .currentDirectory
  | _ => False

theorem Owner.GoesTo.isDirectory {owner : Owner} (goesTo : owner.GoesTo file) :
    owner.IsDirectory ↔ file = .currentDirectory := by
  cases owner with
  | file other =>
    obtain rfl : other = file := goesTo
    exact Iff.rfl
  | entry position => exact iff_of_false not_false goesTo
  | directory n => exact iff_of_true trivial goesTo
  | _ => exact goesTo.elim

theorem Owner.GoesTo.not_pending {owner : Owner} (goesTo : owner.GoesTo file) (other : FileRef) :
    owner ≠ .pending other := by
  rintro rfl
  exact goesTo

theorem Owner.GoesTo.not_file {owner : Owner} (goesTo : owner.GoesTo file) (elsewhere : other ≠ file) :
    owner ≠ .file other := by
  rintro rfl
  exact elsewhere goesTo

/-- Where a chain begins is known from its handle only if that is not the one that is replaced. -/
theorem starts_head {owner : Owner} (goesTo : owner.GoesTo file) (notFile : owner ≠ .file file) {afatfs : Afatfs} :
    afatfs.starts chains owner = (chains owner).head? := by
  cases owner with
  | file other => exact absurd (congrArg Owner.file goesTo) notFile
  | entry position => rfl
  | directory n => rfl
  | _ => exact goesTo.elim

/-- The handles of directories are still those of directories. -/
theorem Owner.GoesTo.directories {owner : Owner} (goesTo : owner.GoesTo file) :
    SameDirectories chains (chains ∘ Equiv.swap (.file file) owner) := by
  intro one isDirectory
  refine ⟨Equiv.swap (.file file) owner one, ?_, by simp⟩
  by_cases isFile : one = .file file
  · subst isFile
    rw [Equiv.swap_apply_left]
    exact goesTo.isDirectory.mpr isDirectory
  · by_cases isOwner : one = owner
    · subst isOwner
      rw [Equiv.swap_apply_right]
      exact goesTo.isDirectory.mp isDirectory
    · rwa [Equiv.swap_apply_of_ne_of_ne isFile isOwner]

/-- The handle gets another record and the chain that belongs to that, if all of it is in order. -/
theorem FilesOk.takes {owner : Owner} (ok : FilesOk volume chains) (goesTo : owner.GoesTo file)
    (free : ¬ (volume.afatfs.files file).HasSectors file ∨ (volume.afatfs.files file).Unlocked)
    (unlocked : record.Unlocked) (still : file = .currentDirectory → record.operation = .none)
    (nothing : chains (.pending file) = []) (pending : volume.afatfs.link record.operation.pendingCluster = none)
    (first : record.HasChain file → volume.afatfs.link record.firstCluster = (chains owner).head?)
    (shape : record.HasChain file → FileShape volume.afatfs.link volume.afatfs.clusterSize.toNat
      (volume.afatfs.numClusters.toNat + 2) (chains owner) [] record)
    (entry : record.HasChain file → record.operation.opening = false →
      EntryOk volume.afatfs chains record.directoryEntryPos)
    (idle : ¬ record.HasChain file →
      record.operation = .none ∨ record.type = .none ∧ record.operation.opening = true)
    (handle : ¬ record.HasChain file → file ≠ .currentDirectory → record.type ≠ .none →
      HandleOk volume.afatfs chains record) :
    FilesOk (volume.withRecord file record) (chains ∘ Equiv.swap (.file file) owner) := by
  have rest {one : Owner} (notFile : one ≠ .file file) (notOwner : one ≠ owner) :
      (chains ∘ Equiv.swap (.file file) owner) one = chains one := swap_of_ne notFile notOwner
  have own : (chains ∘ Equiv.swap (.file file) owner) (.file file) = chains owner :=
    congrArg chains (Equiv.swap_apply_left _ _)
  have queued (other : FileRef) : (chains ∘ Equiv.swap (.file file) owner) (.pending other) = chains (.pending other) :=
    rest nofun (goesTo.not_pending other).symm
  -- where the chains start changes places like the chains
  have starts : (volume.withRecord file record).afatfs.starts (chains ∘ Equiv.swap (.file file) owner) =
      volume.afatfs.starts chains ∘ Equiv.swap (.file file) owner := by
    funext one
    rw [Function.comp_apply, (ok.separate.threads _).start_eq]
    change _ = ((chains ∘ Equiv.swap (.file file) owner) one).head?
    by_cases isFile : one = .file file
    · subst isFile
      rw [Afatfs.starts, withRecord_file]
      split_ifs with chained
      · rw [own]
        exact first chained
      · rfl
    · by_cases isOwner : one = owner
      · subst isOwner
        exact starts_head goesTo isFile
      · rw [rest isFile isOwner, ← (ok.separate.threads one).start_eq]
        cases one with
        | file other =>
          have elsewhere : other ≠ file := fun same => isFile (by rw [same])
          rw [Afatfs.starts, withRecord_other elsewhere, Afatfs.starts, rest isFile isOwner]
          rfl
        | pending other =>
          by_cases here : other = file
          · subst here
            rw [Afatfs.starts, withRecord_file, (ok.separate.threads _).start_eq, nothing]
            exact pending
          · rw [Afatfs.starts, withRecord_other here]
            rfl
        | _ => exact congrArg List.head? (rest isFile isOwner)
  refine ok.replace free unlocked still ?_ (fun other elsewhere _ => rest (by simp [elsewhere]) (goesTo.not_file elsewhere).symm)
    (fun other _ => queued other) goesTo.directories ?_ (fun chained opened => (entry chained opened).congr rfl goesTo.directories)
    idle (fun _ => (queued file).trans nothing) fun unchained elsewhere used =>
      (handle unchained elsewhere used).congr rfl goesTo.directories
  · rw [starts]
    exact ok.separate.comp (Equiv.injective _)
  · intro chained
    rw [own, queued, nothing]
    exact shape chained

/-- The handle gets another record, and keeps its chain. -/
theorem FilesOk.withRecord (ok : FilesOk volume chains)
    (free : ¬ (volume.afatfs.files file).HasSectors file ∨ (volume.afatfs.files file).Unlocked)
    (unlocked : record.Unlocked) (still : file = .currentDirectory → record.operation = .none)
    (nothing : chains (.pending file) = []) (pending : volume.afatfs.link record.operation.pendingCluster = none)
    (first : record.HasChain file → volume.afatfs.link record.firstCluster = (chains (.file file)).head?)
    (shape : record.HasChain file → FileShape volume.afatfs.link volume.afatfs.clusterSize.toNat
      (volume.afatfs.numClusters.toNat + 2) (chains (.file file)) [] record)
    (entry : record.HasChain file → record.operation.opening = false →
      EntryOk volume.afatfs chains record.directoryEntryPos)
    (idle : ¬ record.HasChain file →
      record.operation = .none ∨ record.type = .none ∧ record.operation.opening = true)
    (handle : ¬ record.HasChain file → file ≠ .currentDirectory → record.type ≠ .none →
      HandleOk volume.afatfs chains record) : FilesOk (volume.withRecord file record) chains := by
  have goesTo : (Owner.file file).GoesTo file := rfl
  have same : chains ∘ Equiv.swap (.file file) (.file file) = chains := by rw [Equiv.swap_self]; rfl
  rw [← same]
  exact ok.takes goesTo free unlocked still nothing pending first shape entry idle handle

/-! ## The beginning of a file -/

/-- A file that is at its beginning, and nothing is queued for it. -/
theorem FileShape.of_start {link : Word → Option Word} {size limit : Nat} {chain : List Word} {f : AfatfsFile}
    (positive : 0 < size) (first : link f.firstCluster = chain.head?) (cluster : f.cursorCluster = f.firstCluster)
    (previous : f.cursorPreviousCluster = 0) (offset : f.cursorOffset = 0) (idle : f.operation = .none)
    (physical : f.physicalSize.toNat ≤ chain.length * size) (room : chain.length * size < 2 ^ 32)
    (logical : f.logicalSize.toNat ≤ chain.length * size) (directory : f.mode.retainDirectory = false)
    (unlocked : f.Unlocked) : FileShape link size limit chain [] f := by
  have here : link f.cursorCluster = chain[0]? := by rw [cluster, first, List.head?_eq_getElem?]
  have cursor : CursorAt link size chain f 0 :=
    ⟨Nat.zero_le _, here, previous, by simp, fun _ => by simpa [offset] using positive, fun _ => by simp [offset]⟩
  refine ⟨?_, by rwa [idle], by rwa [idle], fun _ => logical, directory, .inl unlocked⟩
  rw [OperationOk, idle]
  exact ⟨rfl, 0, cursor⟩

/-- The record of a file that was sought to its beginning. -/
def AfatfsFile.toStart (f : AfatfsFile) : AfatfsFile :=
  { f.updateFilesize with
    cursorPreviousCluster := 0
    cursorCluster := f.firstCluster
    cursorOffset := 0 }

/-- A file that has no sector has none to let go. -/
theorem fileUnlockCacheSector_unlocked {afatfs : Afatfs} (unlocked : (afatfs.files file).Unlocked) :
    afatfs.fileUnlockCacheSector file = afatfs := by
  have write := unlocked.1
  have read := unlocked.2
  have descriptors (slot : Slot) : (afatfs.files file).letGo slot (afatfs.cacheDescriptor slot) = afatfs.cacheDescriptor slot := by
    simp [AfatfsFile.letGo, write, read]
  have record : ({ afatfs.files file with writeLockedCacheIndex := none, readRetainCacheIndex := none } : AfatfsFile) =
      afatfs.files file := by
    cases same : afatfs.files file
    rw [same] at write read
    obtain rfl := write
    obtain rfl := read
    rfl
  rw [fileUnlockCacheSector_eq, record, Function.update_eq_self]
  simp only [descriptors]

theorem minimum_zero (size : Word) : minimum 0 size = 0 := by
  apply BitVec.eq_of_toNat_eq
  rw [minimum_toNat]
  exact Nat.zero_min _

/-- The rule of `afatfs_fseek` to the beginning of a file that has no sector: it is done at once. -/
theorem wp_seekStart (unlocked : (volume.afatfs.files file).Unlocked) : Wp (fseek file 0 .seekSet) (fun _ later =>
    later = volume.withRecord file (volume.afatfs.files file).toStart) volume := by
  have unlocked' : ((volume.withRecord file (volume.afatfs.files file).updateFilesize).afatfs.files file).Unlocked := by
    rw [withRecord_file]
    exact unlocked
  rw [fseek, wp_modifyFile_bind, wp_get_bind]
  simp only
  rw [seekFromStart, rewind, bind_assoc, wp_modify_bind, fileUnlockCacheSector_unlocked unlocked', wp_modifyFile_bind,
    wp_get_bind, minimum_zero, fseekInternal, fseekAtomic, bind_assoc, wp_get_bind, if_pos (by simp)]
  simp only [bind_assoc, pure_bind, if_true]
  refine wp_modifyFile_bind.mpr ((wp_pure _).mpr ?_)
  rw [withRecord_withRecord, withRecord_withRecord, withRecord_file, withRecord_file]
  congr 1

end ComputerSystems.Fat
