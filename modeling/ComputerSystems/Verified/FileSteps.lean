import ComputerSystems.Verified.DirectoryEntries

/-! # Files that are left alone

What is done to one file leaves the others as they are (`Undisturbed`), and what gets done
of an operation that was queued (`Goes`) leaves the file itself as it is, as far as one can
tell by reading it.
-/

namespace ComputerSystems.Fat

open ComputerSystems.Data Program

variable {volume later : Volume} {chains chains' : Owner → List Word} {file other : FileRef}
  {written : Word → Prop} {i : Nat}

/-! ## Files that are left alone -/

/-- The size of a file, also where it is not brought up to date yet. -/
def AfatfsFile.extent (f : AfatfsFile) : Nat := max f.logicalSize.toNat f.target

/-- The file has the bytes that it had, and is where it was; it may have more clusters. -/
structure Undisturbed (file : FileRef) (volume : Volume) (chains : Owner → List Word) (later : Volume)
    (chains' : Owner → List Word) : Prop where
  disk : later.afatfs.disk = volume.afatfs.disk
  grows : chains (.file file) <+: chains' (.file file)
  place : (later.afatfs.files file).target = (volume.afatfs.files file).target
  extent : (later.afatfs.files file).extent = (volume.afatfs.files file).extent
  bytes : ∀ i < (chains (.file file)).length * volume.afatfs.clusterSize.toNat,
    later.byteAt (chains' (.file file)) i = volume.byteAt (chains (.file file)) i

theorem Undisturbed.refl (file : FileRef) (volume : Volume) (chains : Owner → List Word) :
    Undisturbed file volume chains volume chains := ⟨rfl, List.prefix_rfl, rfl, rfl, fun _ _ => rfl⟩

theorem Undisturbed.trans {mid : Volume} {between : Owner → List Word} (first : Undisturbed file volume chains mid between)
    (second : Undisturbed file mid between later chains') : Undisturbed file volume chains later chains' where
  disk := second.disk.trans first.disk
  grows := first.grows.trans second.grows
  place := second.place.trans first.place
  extent := second.extent.trans first.extent
  bytes i inside := by
    have size : mid.afatfs.clusterSize = volume.afatfs.clusterSize :=
      Afatfs.congr_disk Afatfs.clusterSize (fun _ => rfl) first.disk
    rw [second.bytes i, first.bytes i inside]
    rw [size]
    exact inside.trans_le (Nat.mul_le_mul_right _ first.grows.length_le)

/-- A file is left alone by what is done for another one. -/
theorem Works.undisturbed (works : Works file (volume.afatfs.InFile chains' file) volume chains later chains')
    (ok : FilesOk volume chains) (isFile : (volume.afatfs.files file).IsFile file) (elsewhere : other ≠ file)
    (ordinary : other ≠ .currentDirectory) : Undisturbed other volume chains later chains' where
  disk := works.disk
  grows := by rw [works.elsewhere _ (by simp [elsewhere]) (by simp)]
  place := by rw [works.files other elsewhere]
  extent := by rw [works.files other elsewhere]
  bytes _ inside := works.byteAt_other ok isFile.hasChain isFile.opened elsewhere ordinary inside

/-- What part of a queued operation does for a file: what can be read of it stays. -/
structure Continues (file : FileRef) (volume : Volume) (chains : Owner → List Word)
    (later : Volume) (chains' : Owner → List Word) : Prop
    extends Works file NoSector volume chains later chains' where
  grows : chains (.file file) <+: chains' (.file file)
  place : (later.afatfs.files file).target = (volume.afatfs.files file).target
  extent : (later.afatfs.files file).extent = (volume.afatfs.files file).extent

theorem Continues.refl (ok : FilesOk volume chains) : Continues file volume chains volume chains :=
  ⟨.refl ok, List.prefix_rfl, rfl, rfl⟩

theorem Continues.trans {mid : Volume} {between : Owner → List Word} (first : Continues file volume chains mid between)
    (second : Continues file mid between later chains') : Continues file volume chains later chains' :=
  ⟨first.toWorks.trans second.toWorks, first.grows.trans second.grows, second.place.trans first.place,
    second.extent.trans first.extent⟩

theorem Continues.undisturbed (continues : Continues file volume chains later chains')
    (ok : FilesOk volume chains) (isFile : (volume.afatfs.files file).IsFile file) (ordinary : other ≠ .currentDirectory) :
    Undisturbed other volume chains later chains' := by
  by_cases here : other = file
  · subst here
    refine ⟨continues.disk, continues.grows, continues.place, continues.extent, fun _ inside => ?_⟩
    exact continues.byteAt ok isFile.hasChain isFile.opened ordinary continues.grows inside not_false
  · exact (continues.toWorks.mono fun _ => False.elim).undisturbed ok isFile here ordinary

/-! ## Polling -/

theorem target_of_not_seeking {f : AfatfsFile} (still : ∀ seekOffset, f.operation ≠ .seek seekOffset) :
    f.target = f.cursorOffset.toNat := by
  rw [AfatfsFile.target]
  split
  · rename_i seekOffset seeks
    exact absurd seeks (still seekOffset)
  · rfl

theorem Appended.continues {status : OperationStatus} {opState : AppendFreeCluster}
    (appended : Appended file volume chains status later chains')
    (operation : (volume.afatfs.files file).operation = .appendFreeCluster opState) :
    Continues file volume chains later chains' := by
  have place : (later.afatfs.files file).target = (volume.afatfs.files file).target := by
    rw [target_of_not_seeking (f := volume.afatfs.files file) (by simp [operation]), ← appended.offset]
    apply target_of_not_seeking
    intro seekOffset seeks
    by_cases waiting : status = .inProgress
    · obtain ⟨opState', appends⟩ := appended.waits waiting
      rw [appends] at seeks
      cases seeks
    · rw [appended.ended waiting] at seeks
      cases seeks
  exact ⟨appended.toWorks, appended.grows, place, by rw [AfatfsFile.extent, AfatfsFile.extent, place, appended.logical]⟩

theorem Advanced.continues (advanced : Advanced file volume chains later) :
    Continues file volume chains later chains := by
  refine ⟨advanced.toWorks, List.prefix_rfl, advanced.target, ?_⟩
  rw [AfatfsFile.extent, AfatfsFile.extent, advanced.target]
  rcases advanced.logical with ⟨size, -⟩ | ⟨size, -⟩
  · rw [size]
    omega
  · rw [size]

theorem Truncated.continues (truncated : Truncated file volume chains later chains')
    (still : ∀ seekOffset, (volume.afatfs.files file).operation ≠ .seek seekOffset)
    (still' : ∀ seekOffset, (later.afatfs.files file).operation ≠ .seek seekOffset) :
    Continues file volume chains later chains' := by
  have place : (later.afatfs.files file).target = (volume.afatfs.files file).target := by
    rw [target_of_not_seeking still, target_of_not_seeking still', truncated.record]
  refine ⟨truncated.toWorks, by rw [truncated.chain], place, ?_⟩
  rw [AfatfsFile.extent, AfatfsFile.extent, place, truncated.record]

theorem Truncated.kind (truncated : Truncated file volume chains later chains') :
    SameKind (volume.afatfs.files file) (later.afatfs.files file) := by
  rw [truncated.record]
  exact ⟨rfl, rfl⟩

theorem Closes.continues (closes : Closes file volume chains later)
    (still : ∀ seekOffset, (volume.afatfs.files file).operation ≠ .seek seekOffset) :
    Continues file volume chains later chains := by
  have place : (later.afatfs.files file).target = (volume.afatfs.files file).target := by
    rw [target_of_not_seeking still, closes.place]
  exact ⟨closes.toWorks, List.prefix_rfl, place, by rw [AfatfsFile.extent, AfatfsFile.extent, place, closes.logical]⟩

theorem FilesOk.closing_continues (ok : FilesOk volume chains) (normal : (volume.afatfs.files file).HasChain file)
    (notCurrent : file ≠ .currentDirectory) (rests : (volume.afatfs.files file).operation = .none ∨ (volume.afatfs.files file).operation = .close) :
    Continues file volume chains (volume.closing file) chains := by
  have place : (volume.afatfs.files file).target = (volume.afatfs.files file).cursorOffset.toNat := by
    apply target_of_not_seeking
    intro seekOffset seeks
    rcases rests with idle | closes
    · rw [idle] at seeks
      cases seeks
    · rw [closes] at seeks
      cases seeks
  refine ⟨ok.closing normal notCurrent rests, List.prefix_rfl, ?_, ?_⟩
  · rw [closing_file, place]
    rfl
  · rw [closing_file, AfatfsFile.extent, AfatfsFile.extent, place]
    change max (volume.afatfs.files file).updateFilesize.logicalSize.toNat (volume.afatfs.files file).cursorOffset.toNat = _
    rw [updateFilesize_toNat]
    omega

/-- A file that is no other kind of file now is open still. -/
theorem Works.isOpen (works : Works file written volume chains later chains')
    (isFile : (volume.afatfs.files file).IsFile file) (kind : SameKind (volume.afatfs.files file) (later.afatfs.files file))
    (closing : (later.afatfs.files file).operation.closing = false) : (later.afatfs.files file).IsOpen file := by
  refine ⟨⟨kind.type.trans isFile.1, ?_, isFile.notCurrent, works.opening.trans isFile.opened⟩, closing⟩
  rw [AfatfsFile.isDirectory, kind.attrib]
  exact isFile.2.1

/-- What the queued operation of a file does for the file itself. -/
structure Goes (file : FileRef) (volume : Volume) (chains : Owner → List Word)
    (later : Volume) (chains' : Owner → List Word) : Prop
    extends Continues file volume chains later chains' where
  settled : volume.Enters chains file → (volume.afatfs.files file).Rests → Settled file volume chains later chains'
  stays : (volume.afatfs.files file).operation.closing = false → (later.afatfs.files file).IsOpen file

/-- An operation that does not close the file. -/
theorem Continues.goes (continues : Continues file volume chains later chains')
    (busy : ¬ (volume.afatfs.files file).Rests)
    (stays : (volume.afatfs.files file).operation.closing = false → (later.afatfs.files file).IsOpen file) :
    Goes file volume chains later chains' :=
  ⟨continues, fun _ rests => absurd rests busy, stays⟩

theorem Goes.settles (goes : Goes file volume chains later chains') (isFile : (volume.afatfs.files file).IsFile file)
    (other : FileRef) : Settles other volume chains later chains' := by
  by_cases here : other = file
  · subst here
    exact ⟨goes.disk, goes.sameOthers isFile.notCurrent, goes.positions, goes.isFile isFile, goes.settled⟩
  · exact (goes.toWorks.mono fun _ => False.elim).settles isFile here

/-- What the rules of the operations say of the file that they are about. -/
theorem wp_operation_continues (ok : FilesOk volume chains) (isFile : (volume.afatfs.files file).IsFile file) :
    Wp (fileOperationContinue file) (fun _ later => ∃ chains', Goes file volume chains later chains') volume := by
  have normal := isFile.hasChain
  rw [fileOperationContinue, wp_get_bind]
  simp only [isFile.1, reduceCtorEq, if_false]
  cases operation : (volume.afatfs.files file).operation with
  | none => exact (wp_pure _).mpr ⟨chains, .refl ok, fun _ _ => .refl file volume chains, fun closing => ⟨isFile, operation ▸ closing⟩⟩
  | createFile opState =>
    have opened := isFile.opened
    rw [operation] at opened
    cases opened
  | seek seekOffset =>
    apply Wp.bind
    apply (wp_fseekInternalContinue ok normal operation).mono
    intro _ later advanced
    refine (wp_pure _).mpr ⟨chains, advanced.continues.goes (by simp [AfatfsFile.Rests, operation]) fun _ => ?_⟩
    apply advanced.toWorks.isOpen isFile advanced.kind
    rcases advanced.moving with idle | ⟨seekOffset, seeks⟩
    · rw [idle]
      rfl
    · rw [seeks]
      rfl
  | close =>
    apply (wp_fcloseContinue ok normal operation).mono
    intro _ later closes
    exact ⟨chains, closes.continues (by simp [operation]), fun enters _ => closes.settled operation enters,
      fun closing => by rw [operation] at closing; cases closing⟩
  | unlink opState =>
    have busy : ¬ (volume.afatfs.files file).Rests := by simp [AfatfsFile.Rests, operation]
    have ends {f : AfatfsFile} (closing : (volume.afatfs.files file).operation.closing = false) : f.IsOpen file := by
      rw [operation] at closing
      cases closing
    apply (wp_funlinkContinue ok normal operation).mono
    -- the truncation is still under way, or it is over and the file is closed at once
    rintro _ later (⟨chains', opState', truncated, operation'⟩ | ⟨mid, chains', truncated, closing, -, closes⟩)
    · exact ⟨chains', (truncated.continues (by simp [operation]) (by simp [operation'])).goes busy ends⟩
    · have normal' : (mid.afatfs.files file).HasChain file := by
        rw [truncated.record]
        exact normal
      have first := truncated.continues (by simp [operation]) (by simp [closing])
      have second := truncated.ok.closing_continues normal' isFile.notCurrent (.inr closing)
      exact ⟨chains', ((first.trans second).trans (closes.continues (by simp [AfatfsFile.closing]))).goes busy ends⟩
  | truncate opState =>
    have busy : ¬ (volume.afatfs.files file).Rests := by simp [AfatfsFile.Rests, operation]
    apply Wp.bind
    have truncating : (volume.afatfs.files file).operation = .truncating false opState := operation
    apply (wp_ftruncateContinue ok normal truncating nofun).mono
    rintro status later (⟨rfl, chains', opState', truncated, operation'⟩ | ⟨rfl, ⟨chains', truncated, -⟩, same⟩)
    · refine (wp_pure _).mpr ⟨chains', (truncated.continues (by simp [operation]) ?_).goes busy fun _ => ?_⟩
      · simp [operation', FileOperation.truncating]
      · exact truncated.toWorks.isOpen isFile truncated.kind (by rw [operation']; rfl)
    · have ends := same rfl
      have operation' : (later.afatfs.files file).operation = .none := by
        rw [← ends, ended_file]
        rfl
      rw [ends] at truncated
      refine (wp_pure _).mpr ⟨chains', (truncated.continues (by simp [operation]) (by simp [operation'])).goes busy fun _ => ?_⟩
      exact truncated.toWorks.isOpen isFile truncated.kind (by rw [operation']; rfl)
  | appendFreeCluster opState =>
    apply Wp.bind
    apply (wp_appendRegularFreeClusterContinue ok normal operation).mono
    rintro status later ⟨chains', appended⟩
    refine (wp_pure _).mpr ⟨chains', (appended.continues operation).goes (by simp [AfatfsFile.Rests, operation]) fun _ => ?_⟩
    apply appended.toWorks.isOpen isFile appended.kind
    by_cases waiting : status = .inProgress
    · obtain ⟨opState', appends⟩ := appended.waits waiting
      rw [appends]
      rfl
    · rw [appended.ended waiting]
      rfl

/-! ## Events -/

theorem wp_ftruncate_busy (busy : (volume.afatfs.files file).operation ≠ .none) :
    Wp (ftruncate file) (fun done later => done = false ∧ later = volume) volume := by
  rw [ftruncate, wp_get_bind]
  simp only [AfatfsFile.isBusy, busy, ne_eq, not_false_eq_true, decide_true, if_true]
  exact (wp_pure _).mpr ⟨rfl, rfl⟩

/-- The rule of an event that is about an open file. -/
theorem wp_fileEvent {event : FileEvent} (ok : FilesOk volume chains) (allowed : event.Allowed volume.afatfs)
    (about : event.file = some file) (isFile : (volume.afatfs.files file).IsFile file) :
    Wp event.run (fun _ later => ∃ chains', Works file (volume.afatfs.InFile chains' file) volume chains later chains')
      volume := by
  have normal := isFile.hasChain
  have notCurrent := isFile.notCurrent
  have alone {later : Volume} {chains' : Owner → List Word} (works : Works file NoSector volume chains later chains') :
      ∃ chains', Works file (volume.afatfs.InFile chains' file) volume chains later chains' :=
    ⟨chains', works.mono fun _ => False.elim⟩
  have same : ∃ chains', Works file (volume.afatfs.InFile chains' file) volume chains volume chains' := ⟨chains, .refl ok⟩
  -- a busy file turns a truncation, a close or a deletion down, and nothing has happened
  cases event with
  | fopen filename mode => cases about
  | chdir directory => cases about
  | poll => cases about
  | completes success stored => cases about
  | fseek other offset whence =>
    obtain rfl := Option.some.inj about
    obtain ⟨-, idle, inside⟩ := allowed
    apply Wp.bind
    apply (wp_fseek ok normal notCurrent idle inside).mono
    intro status later seeks
    exact (wp_pure _).mpr (alone seeks.toWorks)
  | fread other len =>
    obtain rfl := Option.some.inj about
    apply Wp.bind
    apply (wp_fread ok normal notCurrent).mono
    intro bytes later reads
    exact (wp_pure _).mpr (alone reads.toWorks)
  | fwrite other buffer =>
    obtain rfl := Option.some.inj about
    apply Wp.bind
    apply (wp_fwrite ok normal notCurrent allowed.2).mono
    rintro count later ⟨chains', writes⟩
    exact (wp_pure _).mpr ⟨chains', writes.toWorks⟩
  | fputc other c =>
    obtain rfl := Option.some.inj about
    obtain ⟨-, closing, room⟩ := allowed
    apply Wp.bind
    apply (wp_fputc ok normal notCurrent closing room).mono
    rintro _ later ⟨chains', count, writes⟩
    exact (wp_pure _).mpr ⟨chains', writes.toWorks⟩
  | ftruncate other =>
    obtain rfl := Option.some.inj about
    apply Wp.bind
    by_cases idle : (volume.afatfs.files other).operation = .none
    · apply (wp_ftruncate idle).mono
      rintro _ later ⟨rfl, rfl⟩
      exact (wp_pure _).mpr (alone (ok.dropped normal notCurrent idle fun _ => allowed.2 (by simp [AfatfsFile.isBusy, idle])))
    · apply (wp_ftruncate_busy idle).mono
      rintro _ later ⟨rfl, rfl⟩
      exact (wp_pure _).mpr same
  | fclose other =>
    obtain rfl := Option.some.inj about
    apply Wp.bind
    by_cases idle : (volume.afatfs.files other).operation = .none
    · apply (wp_fclose ok normal notCurrent idle).mono
      rintro _ later ⟨-, closes⟩
      exact (wp_pure _).mpr (alone ((ok.closing normal notCurrent (.inl idle)).trans closes.toWorks))
    · rw [fclose, wp_get_bind]
      simp only [isFile.1, reduceCtorEq, if_false, AfatfsFile.isBusy, idle, ne_eq, not_false_eq_true, decide_true, if_true]
      exact (wp_pure _).mpr ((wp_pure _).mpr same)
  | funlink other =>
    obtain rfl := Option.some.inj about
    apply Wp.bind
    by_cases idle : (volume.afatfs.files other).operation = .none
    · apply (wp_funlink normal idle).mono
      rintro _ later ⟨rfl, rfl⟩
      exact (wp_pure _).mpr (alone (ok.dropped normal notCurrent idle (by simp)))
    · rw [funlink, wp_get_bind]
      simp only [isFile.1, reduceCtorEq, if_false]
      apply Wp.bind
      apply (wp_ftruncate_busy idle).mono
      rintro _ later ⟨rfl, rfl⟩
      exact (wp_pure _).mpr ((wp_pure _).mpr same)

end ComputerSystems.Fat
