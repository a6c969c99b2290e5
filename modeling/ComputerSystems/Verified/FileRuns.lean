import ComputerSystems.Verified.CurrentDirectory

/-! # Runs of the file system

Whatever applications do to files and to the current directory, whatever the polls between
get done and whatever the card does meanwhile, the invariant of the file system is kept
(`SystemOk`).  The open files that all this is not about are left as they are, and a poll
leaves all of them so.
-/

namespace ComputerSystems.Fat

open ComputerSystems.Data ComputerSystems.System Program

variable {volume later : Volume} {chains chains' : Owner → List Word} {file other : FileRef}
  {names : List UInt8 → Prop}

/-! ## Polling -/

/-- What is queued for an open file leaves all of them alone. -/
theorem Goes.passes (goes : Goes file volume chains later chains') (ok : FilesOk volume chains)
    (isFile : (volume.afatfs.files file).IsFile file) (about : FileRef → Prop) :
    Passes about volume chains later (later.givesBack file chains') := by
  have passes := (goes.toWorks.mono fun _ => False.elim).passes ok isFile
  refine ⟨passes.disk, passes.rest, passes.strays, fun other _ isOpen => ?_⟩
  by_cases here : other = file
  · subst here
    have stays := goes.stays isOpen.2
    rw [givesBack_open stays.1.hasChain]
    exact ⟨stays, goes.toContinues.undisturbed ok isFile isFile.notCurrent⟩
  · exact passes.files other (fun same => here (Option.some.inj same).symm) isOpen

/-- Nothing is queued for a handle that is not that of an open file, or of one that is being opened. -/
theorem FilesOk.still_handle (ok : FilesOk volume chains) (closed : ¬ (volume.afatfs.files file).IsFile file)
    (still : ¬ (volume.afatfs.files file).Opens) :
    (volume.afatfs.files file).type = .none ∨ (volume.afatfs.files file).operation = .none := by
  by_cases used : (volume.afatfs.files file).type = .none
  · exact .inl used
  · refine .inr ?_
    by_cases chained : (volume.afatfs.files file).HasChain file
    · by_cases directory : file = .currentDirectory
      · rw [directory]
        exact ok.still
      · have opened : (volume.afatfs.files file).operation.opening = false := by
          by_contra opening
          exact still ⟨used, Bool.not_eq_false _ ▸ opening⟩
        exact absurd (chained.isFile directory opened) closed
    · exact (ok.idle file chained).operation.resolve_right fun both => used both.1

/-- The rule of `afatfs_fileOperationContinue`. -/
theorem wp_fileOperationContinue (about : FileRef → Prop) (system : SystemOk names volume chains) :
    Wp (fileOperationContinue file) (fun _ later =>
      ∃ chains', SystemOk names later chains' ∧ Passes about volume chains later chains') volume := by
  by_cases isFile : (volume.afatfs.files file).IsFile file
  · apply (wp_operation_continues system.toFilesOk isFile).mono
    rintro _ later ⟨chains', goes⟩
    exact ⟨_, system.works (goes.toWorks.mono fun _ => False.elim) isFile, goes.passes system.toFilesOk isFile about⟩
  by_cases opens : (volume.afatfs.files file).Opens
  · exact wp_opening_continues about system opens
  · have same : ∃ chains', SystemOk names volume chains' ∧ Passes about volume chains volume chains' :=
      ⟨chains, system, .refl about volume chains⟩
    rw [fileOperationContinue, wp_get_bind]
    rcases system.toFilesOk.still_handle isFile opens with free | idle
    · simp only [free, if_true]
      exact (wp_pure _).mpr same
    · simp only [idle]
      split_ifs <;> exact (wp_pure _).mpr same

theorem wp_each_fileOperationContinue {files : List (Fin maxOpenFiles)} (about : FileRef → Prop)
    (system : SystemOk names volume chains) :
    Wp (each (fun i => fileOperationContinue (.openFile i)) files) (fun _ later =>
      ∃ chains', SystemOk names later chains' ∧ Passes about volume chains later chains') volume := by
  apply Wp.each ⟨chains, system, .refl about volume chains⟩
  rintro file - mid ⟨between, first, passes⟩
  apply (wp_fileOperationContinue about first).mono
  rintro _ later ⟨chains', second, passes'⟩
  exact ⟨chains', second, passes.trans passes'⟩

theorem Moves.turns {deeds : List (Deed Slot Word Sector)} (moves : Moves volume deeds later) (coherent : volume.Coherent)
    (quiet : ∀ deed ∈ deeds, ∀ address block, deed ≠ .sets address block) : Turns volume volume.content later :=
  ⟨moves.toTravels.coherent coherent, moves.toTravels.content coherent.sound quiet, moves.toTravels.outside,
    moves.keeps coherent.sound⟩

/-- The cache goes on, and nothing is written. -/
theorem Turns.passes (turns : Turns volume volume.content later) (ok : FilesOk volume chains) (about : FileRef → Prop) :
    Passes about volume chains later chains := by
  refine .of_same about turns.disk turns.content (fun _ => rfl) (fun cluster stray => ?_) fun file _ => ⟨by rw [turns.files], rfl⟩
  rwa [fatTable_congr ok.geometry turns.disk fun sector _ => congrFun turns.content sector] at stray

/-- The rule of `afatfs_poll`. -/
theorem wp_poll (about : FileRef → Prop) (system : SystemOk names volume chains) :
    Wp poll (fun _ later =>
      ∃ chains', SystemOk names later chains' ∧ Passes about volume chains later chains') volume := by
  rw [poll]
  apply Wp.bind
  apply wp_flush.mono
  rintro _ mid ⟨deeds, moves, keeps⟩
  have turns := moves.turns system.coherent (by rintro _ isIn _ _ rfl; cases keeps _ isIn)
  have first := system.turns turns
  have passes := turns.passes system.toFilesOk about
  rw [wp_get_bind]
  split_ifs
  · rw [fileOperationsPoll]
    apply Wp.bind
    apply (wp_fileOperationContinue about first).mono
    rintro _ mid' ⟨between, second, passes'⟩
    apply (wp_each_fileOperationContinue about second).mono
    rintro _ later ⟨chains', third, passes''⟩
    exact ⟨chains', third, (passes.trans passes').trans passes''⟩
  · exact (wp_pure _).mpr ⟨chains, first, passes⟩

/-! ## Events -/

/-- A file is opened by one of the names that are looked at, and not twice. -/
def FileEvent.Asks (names : List UInt8 → Prop) (volume : Volume) : FileEvent → Prop
  | .fopen filename _ => volume.Asks names filename
  | _ => True

/-- What is allowed of an event that is about a file. -/
theorem FileEvent.Allowed.isFile {event : FileEvent} {afatfs : Afatfs} (allowed : event.Allowed afatfs)
    (about : event.file = some file) : (afatfs.files file).IsFile file ∨
      event = .fclose file ∧ (afatfs.files file).IsDirectory file ∧ (afatfs.files file).savesEntry = false := by
  cases event with
  | fopen filename mode => cases about
  | chdir directory => cases about
  | poll => cases about
  | completes success stored => cases about
  | fclose other =>
    obtain rfl := Option.some.inj about
    exact allowed.imp id fun isDirectory => ⟨rfl, isDirectory⟩
  | fread other len =>
    obtain rfl := Option.some.inj about
    exact .inl allowed
  | funlink other =>
    obtain rfl := Option.some.inj about
    exact .inl allowed
  | _ =>
    obtain rfl := Option.some.inj about
    exact .inl allowed.1

/-- The rule of an event. -/
theorem wp_systemEvent {event : FileEvent} (system : SystemOk names volume chains) (allowed : event.Allowed volume.afatfs)
    (asks : event.Asks names volume) : Wp event.run (fun _ later =>
      ∃ chains', SystemOk names later chains' ∧ Passes (event.file = some ·) volume chains later chains') volume := by
  by_cases about : ∃ file, event.file = some file
  · obtain ⟨file, about⟩ := about
    -- the event is about a regular file, or it closes a handle of a directory
    rcases allowed.isFile about with isFile | ⟨rfl, isDirectory, unsaved⟩
    · apply (wp_fileEvent system.toFilesOk allowed about isFile).mono
      rintro _ later ⟨chains', works⟩
      rw [about]
      exact ⟨_, system.works works isFile, works.passes system.toFilesOk isFile⟩
    · apply Wp.bind
      apply (wp_fclose_directory _ system isDirectory unsaved).mono
      exact fun _ later goes => (wp_pure _).mpr goes
  · cases event with
    | fopen filename mode =>
      apply Wp.bind
      apply (wp_fopen _ system allowed asks).mono
      exact fun _ later goes => (wp_pure _).mpr goes
    | chdir directory =>
      apply Wp.bind
      refine (wp_chdir _ system ?_ ?_).mono fun _ later goes => (wp_pure _).mpr goes
      · cases directory with
        | none => exact allowed
        | some file => exact allowed.1
      · rintro file rfl
        exact allowed.2
    | poll =>
      apply Wp.bind
      apply (wp_poll _ system).mono
      exact fun _ later goes => (wp_pure _).mpr goes
    | completes success stored =>
      apply Wp.bind
      apply (wp_cardCompletes system.coherent.sound).mono
      rintro _ later ⟨deeds, moves, keeps⟩
      have turns := moves.turns system.coherent (by rintro _ isIn _ _ rfl; cases keeps _ isIn)
      exact (wp_pure _).mpr ⟨chains, system.turns turns, turns.passes system.toFilesOk _⟩
    | _ => exact absurd ⟨_, rfl⟩ about

/-! ## Runs -/

section Runs

variable {events : List (FileEvent × List CardAnswer)} {about : FileRef → Prop}

/-- What a step of the machine is. -/
theorem fileStep_eq_some {event : FileEvent × List CardAnswer} (steps : fileStep volume event = some later) :
    event.1.Allowed volume.afatfs ∧ ∃ answer rest, event.1.run (volume, event.2) = .ok (answer, later, rest) := by
  rw [fileStep] at steps
  split_ifs at steps with allowed
  refine ⟨allowed, ?_⟩
  cases ran : exec event.1.run event.2 volume with
  | error stop => simp [ran] at steps
  | ok reached =>
    obtain rfl : reached = later := by simpa [ran] using steps
    exact exec_eq_ok.mp ran

theorem system_step {event : FileEvent × List CardAnswer} (system : SystemOk names volume chains)
    (asks : event.1.Asks names volume) (steps : fileStep volume event = some later) :
    ∃ chains', SystemOk names later chains' ∧ Passes (event.1.file = some ·) volume chains later chains' := by
  obtain ⟨allowed, answer, rest, ran⟩ := fileStep_eq_some steps
  exact (wp_systemEvent system allowed asks).wlp.returns ran

/-- The files that a run opens are opened by the names that are looked at. -/
def AsksAlong (names : List UInt8 → Prop) (events : List (FileEvent × List CardAnswer)) (volume : Volume) : Prop :=
  Along fileStep (fun volume event => event.1.Asks names volume) events volume

/-- What a run keeps, and what it leaves alone. -/
theorem system_run (about : FileRef → Prop) (system : SystemOk names volume chains)
    (run : events.foldlM fileStep volume = some later) (asks : AsksAlong names events volume)
    (only : ∀ event ∈ events, ∀ file, event.1.file = some file → about file) :
    ∃ chains', SystemOk names later chains' ∧ Passes about volume chains later chains' := by
  have along := asks.and (Along.of_forall_mem only)
  apply along.reached (fun reached => ∃ between, SystemOk names reached between ∧ Passes about volume chains reached between)
    ⟨chains, system, .refl about volume chains⟩ _ run
  rintro reached event ⟨between, system', passes⟩ ⟨asks', more⟩ next steps
  obtain ⟨chains', system'', passes'⟩ := system_step system' asks' steps
  exact ⟨chains', system'', passes.trans (passes'.mono more)⟩

end Runs

end ComputerSystems.Fat
