import ComputerSystems.Verified.FileContents

/-! # Closed files

What is left of a file when it has been closed, by operations on other files and polls:
while no file is being opened (`Calm`), a file that is closed is left alone until its handle
is free, and then it has been recorded in its entry.
-/

namespace ComputerSystems.Fat

open ComputerSystems.Data Program

variable {volume mid later : Volume} {chains chains' : Owner → List Word} {file other : FileRef}
  {names : List UInt8 → Prop} {events : List (FileEvent × List CardAnswer)} {event : FileEvent} {draws : List CardAnswer}

/-! ## Runs in which nothing is opened -/

/-- What is left by steps that are about some of the files: the invariant of the open files, and the others as
    they were. -/
structure Leaves (about : FileRef → Prop) (volume : Volume) (chains : Owner → List Word)
    (later : Volume) (chains' : Owner → List Word) : Prop where
  ok : FilesOk later chains'
  calm : later.afatfs.Calm
  files : ∀ file, ¬ about file → file ≠ .currentDirectory → Undisturbed file volume chains later chains'
  settles : ∀ file, ¬ about file → Settles file volume chains later chains'

theorem Leaves.refl (ok : FilesOk volume chains) (calm : volume.afatfs.Calm) (about : FileRef → Prop) :
    Leaves about volume chains volume chains :=
  ⟨ok, calm, fun file _ _ => .refl file volume chains, fun file _ => .refl file volume chains⟩

theorem Leaves.trans {about : FileRef → Prop} {between : Owner → List Word}
    (first : Leaves about volume chains mid between) (second : Leaves about mid between later chains') :
    Leaves about volume chains later chains' where
  ok := second.ok
  calm := second.calm
  files file elsewhere ordinary := (first.files file elsewhere ordinary).trans (second.files file elsewhere ordinary)
  settles file elsewhere := (first.settles file elsewhere).trans (second.settles file elsewhere)

theorem Leaves.mono {about about' : FileRef → Prop} (leaves : Leaves about volume chains later chains')
    (more : ∀ file, about file → about' file) : Leaves about' volume chains later chains' :=
  { leaves with
    files := fun file elsewhere => leaves.files file (mt (more file) elsewhere)
    settles := fun file elsewhere => leaves.settles file (mt (more file) elsewhere) }

/-- No file is being opened when something was done for an open one. -/
theorem Works.calm {written : Word → Prop} (works : Works file written volume chains later chains')
    (isFile : (volume.afatfs.files file).IsFile file) (calm : volume.afatfs.Calm) : later.afatfs.Calm := by
  intro i opens
  by_cases here : .openFile i = file
  · have opening := opens.2
    rw [here, works.opening, isFile.opened] at opening
    cases opening
  · rw [works.files _ here] at opens
    exact calm i opens

theorem Works.leaves (works : Works file (volume.afatfs.InFile chains' file) volume chains later chains')
    (ok : FilesOk volume chains) (isFile : (volume.afatfs.files file).IsFile file) (calm : volume.afatfs.Calm) :
    Leaves (some file = some ·) volume chains later chains' where
  ok := works.ok
  calm := works.calm isFile calm
  files other elsewhere ordinary := works.undisturbed ok isFile (fun same => elsewhere (by rw [same])) ordinary
  settles other elsewhere := works.settles isFile fun same => elsewhere (by rw [same])

theorem Goes.leaves (goes : Goes file volume chains later chains') (ok : FilesOk volume chains)
    (isFile : (volume.afatfs.files file).IsFile file) (calm : volume.afatfs.Calm) (about : FileRef → Prop) :
    Leaves about volume chains later chains' :=
  ⟨goes.ok, goes.toWorks.calm isFile calm, fun _ _ => goes.toContinues.undisturbed ok isFile,
    fun other _ => goes.settles isFile other⟩

/-- The cache goes on, and nothing is written. -/
theorem Turns.leaves (turns : Turns volume volume.content later) (ok : FilesOk volume chains) (calm : volume.afatfs.Calm)
    (about : FileRef → Prop) : Leaves about volume chains later chains where
  ok := ok.turns turns fun _ _ => rfl
  calm := by
    rw [Afatfs.Calm, turns.files]
    exact calm
  files file _ _ := by
    have sectors : later.afatfs.sectorOf = volume.afatfs.sectorOf :=
      Afatfs.congr_disk Afatfs.sectorOf (fun _ => rfl) turns.disk
    refine ⟨turns.disk, List.prefix_rfl, by rw [turns.files], by rw [turns.files], fun i _ => ?_⟩
    rw [Volume.byteAt, Volume.byteAt, sectors, turns.content]
  settles file _ := by
    refine ⟨turns.disk, .refl chains, fun other => by rw [turns.files], fun other => by rw [turns.files]; exact id, fun _ _ => ?_⟩
    refine ⟨rfl, by rw [turns.files], by rw [turns.files], .inl ⟨by rw [turns.files], fun sector cell _ => ?_⟩⟩
    rw [turns.content]

/-- A handle of a directory is closed. -/
theorem Freed.leaves {record : AfatfsFile} (freed : Freed file volume record) (ok : FilesOk volume chains)
    (isDirectory : (volume.afatfs.files file).IsDirectory file) (calm : volume.afatfs.Calm) :
    Leaves (some file = some ·) volume chains (volume.withRecord file record) chains := by
  have others {other : FileRef} (elsewhere : ¬ some file = some other) :
      (volume.withRecord file record).afatfs.files other = volume.afatfs.files other :=
    withRecord_other fun same => elsewhere (by rw [same])
  refine ⟨ok.frees isDirectory freed.free freed.idle freed.unlocked, fun i opens => ?_, fun other elsewhere _ => ?_,
    fun other elsewhere => ⟨rfl, .refl chains, fun one => ?_, fun one isFile => ?_, fun _ _ => ?_⟩⟩
  · by_cases here : .openFile i = file
    · rw [here, withRecord_file] at opens
      exact opens.1 freed.free
    · rw [withRecord_other here] at opens
      exact calm i opens
  · exact ⟨rfl, List.prefix_rfl, by rw [others elsewhere], by rw [others elsewhere], fun _ _ => rfl⟩
  · by_cases here : one = file
    · rw [here, withRecord_file]
      exact freed.position
    · rw [withRecord_other here]
  · by_cases here : one = file
    · rw [here, withRecord_file] at isFile
      exact absurd freed.free isFile.hasChain.not_none
    · rwa [withRecord_other here] at isFile
  · exact ⟨rfl, by rw [others elsewhere], by rw [others elsewhere], .inl ⟨others elsewhere, fun _ _ _ => rfl⟩⟩

theorem wp_fileOperationContinue_leaves (about : FileRef → Prop) (ok : FilesOk volume chains) (calm : volume.afatfs.Calm) :
    Wp (fileOperationContinue file) (fun _ later => ∃ chains', Leaves about volume chains later chains') volume := by
  by_cases isFile : (volume.afatfs.files file).IsFile file
  · apply (wp_operation_continues ok isFile).mono
    rintro _ later ⟨chains', goes⟩
    exact ⟨chains', goes.leaves ok isFile calm about⟩
  · have still : ¬ (volume.afatfs.files file).Opens := by
      cases file with
      | currentDirectory => exact fun opens => ok.opens_notCurrent opens rfl
      | openFile i => exact calm i
    rw [fileOperationContinue, wp_get_bind]
    rcases ok.still_handle isFile still with free | idle
    · simp only [free, if_true]
      exact (wp_pure _).mpr ⟨chains, .refl ok calm about⟩
    · simp only [idle]
      split_ifs <;> exact (wp_pure _).mpr ⟨chains, .refl ok calm about⟩

theorem wp_poll_leaves (about : FileRef → Prop) (ok : FilesOk volume chains) (calm : volume.afatfs.Calm) :
    Wp poll (fun _ later => ∃ chains', Leaves about volume chains later chains') volume := by
  rw [poll]
  apply Wp.bind
  apply wp_flush.mono
  rintro _ mid ⟨deeds, moves, keeps⟩
  have turns := moves.turns ok.coherent (by rintro _ isIn _ _ rfl; cases keeps _ isIn)
  have first := turns.leaves ok calm about
  rw [wp_get_bind]
  split_ifs
  · rw [fileOperationsPoll]
    apply Wp.bind
    apply (wp_fileOperationContinue_leaves about first.ok first.calm).mono
    rintro _ mid' ⟨between, second⟩
    apply Wp.each ⟨between, first.trans second⟩
    rintro file - mid'' ⟨between', third⟩
    apply (wp_fileOperationContinue_leaves about third.ok third.calm).mono
    rintro _ later ⟨chains', fourth⟩
    exact ⟨chains', third.trans fourth⟩
  · exact (wp_pure _).mpr ⟨chains, first⟩

/-- The event opens a file, or changes the current directory. -/
def FileEvent.opens : FileEvent → Bool
  | .fopen _ _ => true
  | .chdir _ => true
  | _ => false

theorem wp_event_leaves (ok : FilesOk volume chains) (calm : volume.afatfs.Calm) (allowed : event.Allowed volume.afatfs)
    (opens : event.opens = false) : Wp event.run (fun _ later =>
      ∃ chains', Leaves (event.file = some ·) volume chains later chains') volume := by
  by_cases about : ∃ file, event.file = some file
  · obtain ⟨file, about⟩ := about
    -- the event is about a regular file, or it closes a handle of a directory
    rcases allowed.isFile about with isFile | ⟨rfl, isDirectory, unsaved⟩
    · apply (wp_fileEvent ok allowed about isFile).mono
      rintro _ later ⟨chains', works⟩
      rw [about]
      exact ⟨chains', works.leaves ok isFile calm⟩
    · apply Wp.bind
      apply (wp_fclose_handle ok isDirectory unsaved).mono
      rintro _ later ⟨record, freed, rfl⟩
      exact (wp_pure _).mpr ⟨chains, freed.leaves ok isDirectory calm⟩
  · cases event with
    | fopen filename mode => cases opens
    | chdir directory => cases opens
    | poll =>
      apply Wp.bind
      apply (wp_poll_leaves _ ok calm).mono
      exact fun _ later goes => (wp_pure _).mpr goes
    | completes success stored =>
      apply Wp.bind
      apply (wp_cardCompletes ok.coherent.sound).mono
      rintro _ later ⟨deeds, moves, keeps⟩
      have turns := moves.turns ok.coherent (by rintro _ isIn _ _ rfl; cases keeps _ isIn)
      exact (wp_pure _).mpr ⟨chains, turns.leaves ok calm _⟩
    | _ => exact absurd ⟨_, rfl⟩ about

/-- What a run leaves in which nothing is opened. -/
theorem leaves_run (about : FileRef → Prop) (ok : FilesOk volume chains) (calm : volume.afatfs.Calm)
    (run : events.foldlM fileStep volume = some later)
    (only : ∀ event ∈ events, event.1.opens = false ∧ ∀ file, event.1.file = some file → about file) :
    ∃ chains', Leaves about volume chains later chains' := by
  have along : Along fileStep (fun _ event => event.1.opens = false ∧ ∀ file, event.1.file = some file → about file)
      events volume := .of_forall_mem only
  apply along.reached (fun reached => ∃ between, Leaves about volume chains reached between) ⟨chains, .refl ok calm about⟩ _ run
  rintro reached event ⟨between, leaves⟩ ⟨opens, more⟩ next steps
  obtain ⟨allowed, answer, rest, ran⟩ := fileStep_eq_some steps
  obtain ⟨chains', leaves'⟩ := (wp_event_leaves leaves.ok leaves.calm allowed opens).wlp.returns ran
  exact ⟨chains', leaves.trans (leaves'.mono more)⟩

/-! ## Closing -/

/-- An open file has an entry of its own. -/
theorem SystemOk.enters_file (system : SystemOk names volume chains) (isFile : (volume.afatfs.files file).IsFile file) :
    volume.Enters chains file :=
  ⟨system.entered file isFile, system.entryOk isFile,
    fun other elsewhere isFile' same => elsewhere (system.apart other file isFile' isFile same)⟩

theorem Volume.Enters.closing (enters : volume.Enters chains file) : (volume.closing file).Enters chains file := by
  have same : ∀ other, ((volume.closing file).afatfs.files other).directoryEntryPos =
        (volume.afatfs.files other).directoryEntryPos ∧
      (((volume.closing file).afatfs.files other).IsFile other → (volume.afatfs.files other).IsFile other ∨ other = file) := by
    intro other
    by_cases here : other = file
    · subst here
      rw [closing_file]
      exact ⟨rfl, fun _ => .inr rfl⟩
    · rw [Volume.closing, Afatfs.updateFile_other here]
      exact ⟨rfl, .inl⟩
  refine ⟨?_, ?_, fun other elsewhere isFile => ?_⟩
  · rw [(same file).1]
    exact enters.entered
  · rw [(same file).1]
    exact enters.entry.congr rfl (.refl chains)
  · rw [(same other).1, (same file).1]
    exact enters.alone other elsewhere (((same other).2 isFile).resolve_right elsewhere)

/-- What `afatfs_fclose` has left when it comes back, of a file that was not busy. -/
theorem fclose_leaves {answer : FileAnswer} {rest : List CardAnswer} (ok : FilesOk volume chains)
    (isFile : (volume.afatfs.files file).IsFile file) (idle : (volume.afatfs.files file).operation = .none)
    (calm : volume.afatfs.Calm) (ran : (FileEvent.fclose file).run (volume, draws) = .ok (answer, mid, rest)) :
    FilesOk mid chains ∧ mid.afatfs.Calm ∧ Settles file (volume.closing file) chains mid chains ∧
      Undisturbed file volume chains mid chains := by
  have normal := isFile.hasChain
  have notCurrent := isFile.notCurrent
  have closed : Wp (FileEvent.fclose file).run
      (fun _ reached => Closes file (volume.closing file) chains reached) volume := by
    apply Wp.bind
    apply (wp_fclose ok normal notCurrent idle).mono
    rintro _ reached ⟨-, closes⟩
    exact (wp_pure _).mpr closes
  have closes := closed.wlp.returns ran
  have begins : Works file NoSector volume chains (volume.closing file) chains := ok.closing normal notCurrent (.inl idle)
  have closing : ((volume.closing file).afatfs.files file).operation = .close := by
    rw [closing_file]
    rfl
  have isFile' : ((volume.closing file).afatfs.files file).IsFile file := by
    rw [closing_file]
    exact ⟨isFile.1, isFile.2.1, notCurrent, rfl⟩
  -- `afatfs_fclose` goes on at once like a poll
  have goes : Goes file (volume.closing file) chains mid chains :=
    ⟨closes.continues fun _ => by rw [closing]; exact nofun, fun enters _ => closes.settled closing enters,
      fun open' => by rw [closing] at open'; cases open'⟩
  exact ⟨closes.ok, (begins.trans goes.toWorks).calm isFile calm, goes.settles isFile' file,
    (ok.closing_continues normal notCurrent (.inl idle)).undisturbed ok isFile notCurrent |>.trans
      (goes.undisturbed begins.ok isFile' notCurrent)⟩

/-- A file that was closed can be found again.  Once its handle is free, whatever polls it took and whatever is
    done to other open files meanwhile, its entry has its size and the cluster where its chain begins, and the chain
    has the bytes that it had. -/
theorem closed_file_is_recorded (system : SystemOk names volume chains) (calm : volume.afatfs.Calm)
    (isFile : (volume.afatfs.files file).IsFile file)
    (writes : (volume.afatfs.files file).mode.append = true ∨ (volume.afatfs.files file).mode.write = true)
    (idle : (volume.afatfs.files file).operation = .none)
    (run : ((.fclose file, draws) :: events).foldlM fileStep volume = some later)
    (elsewhere : ∀ event ∈ events, event.1.opens = false ∧ event.1.file ≠ some file)
    (free : (later.afatfs.files file).type = .none) :
    let position := (volume.afatfs.files file).directoryEntryPos
    let block := later.content position.sectorNumberPhysical
    block.read32 (directoryEntrySize * position.entryIndex + 28) = (volume.afatfs.files file).extent ∧
      Threads later.fatTable (later.afatfs.link (entryCluster block position.entryIndex)) (chains (.file file)) ∧
      ∀ i < (chains (.file file)).length * volume.afatfs.clusterSize.toNat,
        later.byteAt (chains (.file file)) i = volume.byteAt (chains (.file file)) i := by
  have ok := system.toFilesOk
  have normal := isFile.hasChain
  have notCurrent := isFile.notCurrent
  rw [List.foldlM_cons] at run
  obtain ⟨mid, step, run'⟩ := Option.bind_eq_some_iff.mp run
  obtain ⟨-, answer, rest, ran⟩ := fileStep_eq_some step
  obtain ⟨ok', calm', settles', stays'⟩ := fclose_leaves ok isFile idle calm ran
  obtain ⟨chains', leaves⟩ := leaves_run (· ≠ file) ok' calm' run' fun event isIn =>
    ⟨(elsewhere event isIn).1, fun other about same => (elsewhere event isIn).2 (same ▸ about)⟩
  have settles := settles'.trans (leaves.settles file (not_not.mpr rfl))
  have stays := stays'.trans (leaves.files file (not_not.mpr rfl) notCurrent)
  have settled := settles.settled (system.enters_file isFile).closing (.inr (by rw [closing_file]; rfl))
  -- the handle was in use before, so closing has come to its end, and that saves the entry
  obtain ⟨size, first⟩ : later.Recorded file := by
    rcases settled.ends with ⟨record, -⟩ | ⟨-, -, -, recorded⟩
    · rw [record, closing_file] at free
      exact absurd free normal.not_none
    · apply recorded
      rw [AfatfsFile.savesEntry, closing_file]
      exact decide_eq_true ⟨fun directory => FileType.noConfusion (isFile.1.symm.trans directory), normal.not_root, writes⟩
  have position : (later.afatfs.files file).directoryEntryPos = (volume.afatfs.files file).directoryEntryPos := by
    rw [settles.positions, closing_file]
    rfl
  rw [position] at size first
  have logical : (later.afatfs.files file).logicalSize.toNat = (volume.afatfs.files file).extent := by
    rw [settled.logical, closing_file, ← size_of_idle idle]
    rfl
  refine ⟨size.trans logical, ?_, ?_⟩
  · have before := (ok.separate.threads (.file file)).start_eq
    rw [Afatfs.starts, if_pos normal] at before
    have threads := leaves.ok.separate.threads (.file file)
    have start : later.afatfs.link (later.afatfs.files file).firstCluster = (chains (.file file)).head? := by
      rw [settled.first, closing_file, Afatfs.congr_disk Afatfs.link (fun _ => rfl) settles.disk]
      exact before
    rw [first, start]
    rwa [threads.start_eq, settled.chain] at threads
  · intro i inside
    rw [← stays.bytes i inside, settled.chain]

theorem closed_file_is_recorded_small :
    ∃ later, [(FileEvent.fclose smallFile, []), (.poll, [cardWrites])].foldlM fileStep smallVolume = some later ∧
      (later.content 5).read32 28 = 512 ∧ later.byteAt [2] 9 = smallVolume.byteAt [2] 9 := by
  obtain ⟨later, run, free⟩ : ∃ later,
      [(FileEvent.fclose smallFile, []), (.poll, [cardWrites])].foldlM fileStep smallVolume = some later ∧
        (later.afatfs.files smallFile).type = .none := ⟨_, rfl, by rfl⟩
  obtain ⟨size, -, bytes⟩ := closed_file_is_recorded system_small (by decide) (by decide) (.inr rfl) rfl run
    (by simp [FileEvent.file, FileEvent.opens]) free
  exact ⟨later, run, size, bytes 9 (by decide)⟩

end ComputerSystems.Fat
