import ComputerSystems.Verified.MountedVolume

/-! # What the files hold

What programs can rely on when they use several files at once: that the files stay apart,
that a seek arrives, that a file has what was written to it and that a truncation gives its
clusters back.  All this is said of files that are open where the invariant of the file
system holds, which is so in every state that a mounted volume gets to.
-/

namespace ComputerSystems.Fat

open ComputerSystems.Data ComputerSystems.System Program

variable {volume volume' mid later last : Volume} {chains chains' : Owner → List Word} {file other : FileRef}
  {events events' : List (FileEvent × List CardAnswer)} {event : FileEvent} {draws draws' rest rest' : List CardAnswer}
  {status : OperationStatus} {offset len place : Word} {whence : Whence} {buffer bytes : List UInt8} {count i : Nat}
  {names : List UInt8 → Prop}

/-! ## Runs -/

/-- From a mounted volume the invariant is kept in every run: the chains of the files, of what their operations add
    or give back and of everything else on the volume stay apart, those of the latter as they are, and no cluster
    gets lost: one that is used is in a chain, or it was used and in none before. -/
theorem chains_stay_separate (mounted : Mounted names volume chains) (run : events.foldlM fileStep volume = some later)
    (asks : AsksAlong names events volume) :
    ∃ chains', SystemOk names later chains' ∧ (∀ n, chains' (.other n) = chains (.other n)) ∧
      ∀ cluster, Stray later.fatTable chains' cluster → Stray volume.fatTable chains cluster := by
  obtain ⟨chains', system, passes⟩ := system_run (fun _ => True) mounted.system run asks fun _ _ _ _ => trivial
  exact ⟨chains', system, passes.rest, passes.strays⟩

/-- Of other events than the opening of files nothing is asked. -/
theorem asksAlong_of_not_fopen (others : ∀ event ∈ events, ∀ filename mode, event.1 ≠ .fopen filename mode) :
    AsksAlong names events volume := by
  rw [AsksAlong]
  induction events generalizing volume with
  | nil => exact along_nil
  | cons event events ih =>
    refine ⟨?_, fun next _ => ih fun event' isIn => others event' (List.mem_cons_of_mem _ isIn)⟩
    obtain ⟨event, draws⟩ := event
    cases event with
    | fopen filename mode => exact absurd rfl (others _ List.mem_cons_self filename mode)
    | _ => trivial

/-- The card begins to read. -/
def cardReads : CardAnswer := { readStarts := true, writeStatus := .success, stored := fun _ => 0 }

theorem smallName_terminated : 0 ∉ ([97] : List UInt8) := by decide

/-- The name of the one file of the mounted volume. -/
def smallName : CString := ⟨[97], smallName_terminated⟩

/-- It is opened. -/
def openingEvents : List (FileEvent × List CardAnswer) :=
  [(.fopen smallName .rPlus, [cardReads]), (.completes true fun _ => 0, []), (.poll, [cardReads])]

theorem asks_opening : AsksAlong IsFilename openingEvents mountedVolume := by
  refine ⟨.inr ⟨⟨65, _, rfl, by decide, by decide⟩, fun file isFile => (mounted_small.not_isFile isFile).elim⟩, fun next _ => ?_⟩
  exact asksAlong_of_not_fopen (by simp)

theorem chains_stay_separate_mounted : ∃ later chains', openingEvents.foldlM fileStep mountedVolume = some later ∧
    (later.afatfs.files smallFile).IsOpen smallFile ∧ SystemOk IsFilename later chains' := by
  have opens : (openingEvents.foldlM fileStep mountedVolume).any fun later =>
      (later.afatfs.files smallFile).IsOpen smallFile := by decide +kernel
  obtain ⟨later, run, isOpen⟩ := (Option.any_eq_true _ _).mp opens
  obtain ⟨chains', system, -⟩ := chains_stay_separate mounted_small run asks_opening
  exact ⟨later, chains', run, of_decide_eq_true isOpen, system⟩

/-- A run that is not about the file. -/
theorem undisturbed_run (system : SystemOk names volume chains) (isOpen : (volume.afatfs.files file).IsOpen file)
    (run : events.foldlM fileStep volume = some later) (asks : AsksAlong names events volume)
    (elsewhere : ∀ event ∈ events, event.1.file ≠ some file) :
    ∃ chains', SystemOk names later chains' ∧ (later.afatfs.files file).IsOpen file ∧
      Undisturbed file volume chains later chains' := by
  obtain ⟨chains', system', passes⟩ := system_run (· ≠ file) system run asks fun event isIn other about same =>
    elsewhere event isIn (same ▸ about)
  exact ⟨chains', system', passes.files file (not_not.mpr rfl) isOpen⟩

/-- Whatever is done to the other files, whatever is opened and whatever polls and the card do, a file that is open
    stays open, keeps its bytes, its place and its size, and may only get more clusters. -/
theorem untouched_file_stays (system : SystemOk names volume chains) (isOpen : (volume.afatfs.files file).IsOpen file)
    (run : events.foldlM fileStep volume = some later) (asks : AsksAlong names events volume)
    (elsewhere : ∀ event ∈ events, event.1.file ≠ some file) :
    ∃ chains', SystemOk names later chains' ∧ (later.afatfs.files file).IsOpen file ∧
      chains (.file file) <+: chains' (.file file) ∧
      (later.afatfs.files file).target = (volume.afatfs.files file).target ∧
      (later.afatfs.files file).extent = (volume.afatfs.files file).extent ∧
      ∀ i < (chains (.file file)).length * volume.afatfs.clusterSize.toNat,
        later.byteAt (chains' (.file file)) i = volume.byteAt (chains (.file file)) i := by
  obtain ⟨chains', system', isOpen', undisturbed⟩ := undisturbed_run system isOpen run asks elsewhere
  exact ⟨chains', system', isOpen', undisturbed.grows, undisturbed.place, undisturbed.extent, undisturbed.bytes⟩

theorem untouched_file_stays_small :
    ∃ later, ∃ chains' : Owner → List Word, [(FileEvent.chdir none, []), (.poll, [])].foldlM fileStep smallVolume = some later ∧
      [2] <+: chains' (.file smallFile) ∧ (later.afatfs.files smallFile).target = 0 ∧
      ∀ i < 512, later.byteAt (chains' (.file smallFile)) i = smallVolume.byteAt [2] i := by
  obtain ⟨later, run⟩ : ∃ later, [(FileEvent.chdir none, []), (.poll, [])].foldlM fileStep smallVolume = some later := ⟨_, rfl⟩
  have elsewhere : ∀ event ∈ [((FileEvent.chdir none, []) : FileEvent × List CardAnswer), (.poll, [])],
      event.1.file ≠ some smallFile := by
    simp [FileEvent.file]
  obtain ⟨chains', -, -, grows, place, -, bytes⟩ :=
    untouched_file_stays system_small (by decide) run (asksAlong_of_not_fopen (by simp)) elsewhere
  exact ⟨later, chains', run, grows, place, bytes⟩

theorem Seeks.isOpen {target : Nat} (seeks : Seeks file volume chains target status later)
    (isFile : (volume.afatfs.files file).IsFile file) : (later.afatfs.files file).IsOpen file :=
  seeks.toWorks.isOpen isFile seeks.kind seeks.closing

/-- The invariant after a seek. -/
theorem Seeks.system {target : Nat} (seeks : Seeks file volume chains target status later)
    (system : SystemOk names volume chains) (isFile : (volume.afatfs.files file).IsFile file) : SystemOk names later chains := by
  have goes := system.works (seeks.toWorks.mono fun _ => False.elim) isFile
  rwa [givesBack_open (seeks.isOpen isFile).1.hasChain] at goes

/-- Wherever `afatfs_ftell` gives a place after a seek, it is the one that was sought, whatever was done to
    other files meanwhile; a seek forward from the cursor goes on from there by what should be its place. -/
theorem seek_arrives (system : SystemOk names volume chains)
    (allowed : (FileEvent.fseek file offset whence).Allowed volume.afatfs)
    (sought : fseek file offset whence (volume, draws) = .ok (status, mid, rest))
    (run : events.foldlM fileStep mid = some later) (asks : AsksAlong names events mid)
    (elsewhere : ∀ event ∈ events, event.1.file ≠ some file) (tells : (later.afatfs.files file).ftell = some place) :
    place.toNat = (volume.afatfs.files file).seekTarget offset whence := by
  obtain ⟨isFile, idle, inside⟩ := allowed
  have seeks := (wp_fseek system.toFilesOk isFile.hasChain isFile.notCurrent idle inside).wlp.returns sought
  obtain ⟨chains', -, -, undisturbed⟩ :=
    undisturbed_run (seeks.system system isFile) (seeks.isOpen isFile) run asks elsewhere
  rw [AfatfsFile.ftell] at tells
  split_ifs at tells with busy
  have idle' : (later.afatfs.files file).operation = .none := by simpa [AfatfsFile.isBusy] using busy
  obtain rfl := Option.some.inj tells
  rw [← target_of_idle idle', undisturbed.place, seeks.target]

theorem seek_arrives_small :
    ∃ mid later rest, fseek smallFile 9 .seekSet (smallVolume, []) = .ok (.success, mid, rest) ∧
      [(FileEvent.poll, [cardWrites])].foldlM fileStep mid = some later ∧ (later.afatfs.files smallFile).ftell = some 9 ∧
      (9 : Word).toNat = (smallVolume.afatfs.files smallFile).seekTarget 9 .seekSet := by
  obtain ⟨mid, later, rest, sought, run, tells⟩ : ∃ mid later rest,
      fseek smallFile 9 .seekSet (smallVolume, []) = .ok (.success, mid, rest) ∧
        [(FileEvent.poll, [cardWrites])].foldlM fileStep mid = some later ∧
        (later.afatfs.files smallFile).ftell = some 9 := ⟨_, _, _, rfl, rfl, by rfl⟩
  exact ⟨mid, later, rest, sought, run, tells, seek_arrives system_small (by decide) sought run
    (asksAlong_of_not_fopen (by simp)) (by simp [FileEvent.file]) tells⟩

/-! ## Bytes -/

theorem ReadsBytes.getD {most : Nat} (reads : ReadsBytes file volume chains most bytes later) (below : i < bytes.length) :
    bytes.getD i 0 = volume.byteAt (chains (.file file)) ((volume.afatfs.files file).target + i) := by
  rw [reads.read, Volume.bytes, List.getD_eq_getElem?_getD, List.getElem?_map, List.getElem?_range (by simpa using below)]
  rfl

/-- `afatfs_fread` gives the bytes of the file from its place on, no more than there are, and changes
    nothing that any file holds. -/
theorem fread_gives_bytes (system : SystemOk names volume chains) (isFile : (volume.afatfs.files file).IsFile file)
    (ran : fread file len (volume, draws) = .ok (bytes, later, rest)) :
    bytes.length ≤ min ((volume.afatfs.files file).logicalSize.toNat - (volume.afatfs.files file).target) len.toNat ∧
      (∀ i < bytes.length, bytes.getD i 0 =
        volume.byteAt (chains (.file file)) ((volume.afatfs.files file).target + i)) ∧
      (later.afatfs.files file).target = (volume.afatfs.files file).target + bytes.length ∧
      later.content = volume.content ∧ SystemOk names later chains := by
  have reads := (wp_fread system.toFilesOk isFile.hasChain isFile.notCurrent).wlp.returns ran
  have system' := system.works (reads.toWorks.mono fun _ => False.elim) isFile
  rw [givesBack_open reads.chained] at system'
  exact ⟨reads.count, fun i below => reads.getD below, reads.target, reads.same, system'⟩

theorem fread_gives_bytes_small :
    ∃ later rest, fread smallFile 9 (smallVolume, []) = .ok (List.replicate 9 0, later, rest) ∧
      (∀ i < 9, (List.replicate 9 (0 : UInt8)).getD i 0 = smallVolume.byteAt [2] (0 + i)) ∧
      (later.afatfs.files smallFile).target = 9 := by
  obtain ⟨later, rest, ran⟩ : ∃ later rest,
      fread smallFile 9 (smallVolume, []) = .ok (List.replicate 9 0, later, rest) := ⟨_, _, rfl⟩
  obtain ⟨-, bytes, place, -⟩ := fread_gives_bytes system_small (by decide) ran
  exact ⟨later, rest, ran, bytes, place⟩

/-- The invariant after bytes were written. -/
theorem WritesBytes.system (writes : WritesBytes file volume chains buffer count later chains')
    (system : SystemOk names volume chains) (isFile : (volume.afatfs.files file).IsFile file) : SystemOk names later chains' := by
  have goes := system.works writes.toWorks isFile
  rwa [givesBack_open writes.chained] at goes

/-- The bytes that `afatfs_fwrite` has taken are in the file from its place on, and it goes on behind them.
    The other bytes of the file stay, but for those behind the last one that was written, in the last sector
    of the file and if the first byte of that was written too. -/
theorem fwrite_stores (system : SystemOk names volume chains)
    (allowed : (FileEvent.fwrite file buffer).Allowed volume.afatfs)
    (ran : fwrite file buffer (volume, draws) = .ok (count, later, rest)) :
    ∃ chains', SystemOk names later chains' ∧ chains (.file file) <+: chains' (.file file) ∧ count ≤ buffer.length ∧
      (later.afatfs.files file).target = (volume.afatfs.files file).target + count ∧
      (∀ i < count, later.byteAt (chains' (.file file)) ((volume.afatfs.files file).target + i) = buffer.getD i 0) ∧
      ∀ j < (chains (.file file)).length * volume.afatfs.clusterSize.toNat,
        j < (volume.afatfs.files file).target ∨ (volume.afatfs.files file).target + count ≤ j →
          ¬ (volume.afatfs.files file).Overlooked (volume.afatfs.files file).target count j →
            later.byteAt (chains' (.file file)) j = volume.byteAt (chains (.file file)) j := by
  obtain ⟨isFile, room⟩ := allowed
  obtain ⟨chains', writes⟩ := (wp_fwrite system.toFilesOk isFile.hasChain isFile.notCurrent room).wlp.returns ran
  exact ⟨chains', writes.system system isFile, writes.grows, writes.most, writes.target, writes.stored, writes.kept⟩

theorem fwrite_stores_small :
    ∃ later rest, ∃ chains' : Owner → List Word, fwrite smallFile [7, 8] (smallVolume, []) = .ok (2, later, rest) ∧
      later.byteAt (chains' (.file smallFile)) 0 = 7 ∧ later.byteAt (chains' (.file smallFile)) 1 = 8 := by
  obtain ⟨later, rest, ran⟩ : ∃ later rest,
      fwrite smallFile [7, 8] (smallVolume, []) = .ok (2, later, rest) := ⟨_, _, rfl⟩
  obtain ⟨chains', -, -, -, -, stored, -⟩ := fwrite_stores system_small (by decide) ran
  exact ⟨later, rest, chains', ran, stored 0 (by decide), stored 1 (by decide)⟩

theorem size_of_idle {f : AfatfsFile} (idle : f.operation = .none) : f.updateFilesize.logicalSize.toNat = f.extent := by
  rw [updateFilesize_toNat, AfatfsFile.extent, target_of_idle idle]

/-- A file that is being closed takes no bytes. -/
theorem fwrite_closing (closing : (volume.afatfs.files file).operation.closing = true)
    (wrote : fwrite file buffer (volume, draws) = .ok (count, later, rest)) : count = 0 := by
  have busy : (volume.afatfs.files file).isBusy = true := by
    rw [AfatfsFile.isBusy, decide_eq_true_eq]
    intro idle
    rw [idle] at closing
    cases closing
  have nothing : Wp (fwrite file buffer) (fun count _ => count = 0) volume := by
    rw [fwrite, wp_get_bind]
    simp only [busy, or_true, if_true]
    exact (wp_pure _).mpr rfl
  exact nothing.wlp.returns wrote

theorem WritesBytes.isOpen (writes : WritesBytes file volume chains buffer count later chains')
    (isOpen : (volume.afatfs.files file).IsOpen file) : (later.afatfs.files file).IsOpen file :=
  ⟨writes.chained.isFile isOpen.1.notCurrent (writes.opening.trans isOpen.1.opened), writes.stays isOpen.2⟩

/-- What was written to a file is what is read from it once it is sought there, whatever was done to other
    files before and after the seek. -/
theorem written_is_read {later' : Volume} {rest'' draws'' : List CardAnswer} (system : SystemOk names volume chains)
    (allowed : (FileEvent.fwrite file buffer).Allowed volume.afatfs)
    (wrote : fwrite file buffer (volume, draws) = .ok (count, mid, rest))
    (run : events.foldlM fileStep mid = some later) (asks : AsksAlong names events mid)
    (elsewhere : ∀ event ∈ events, event.1.file ≠ some file)
    (allowed' : (FileEvent.fseek file (BitVec.ofNat 32 (volume.afatfs.files file).target) .seekSet).Allowed later.afatfs)
    (sought : fseek file (BitVec.ofNat 32 (volume.afatfs.files file).target) .seekSet (later, draws') = .ok (status, later', rest'))
    (run' : events'.foldlM fileStep later' = some last) (asks' : AsksAlong names events' later')
    (elsewhere' : ∀ event ∈ events', event.1.file ≠ some file)
    (read : fread file len (last, draws'') = .ok (bytes, volume', rest'')) :
    ∀ i < count, i < bytes.length → bytes.getD i 0 = buffer.getD i 0 := by
  intro i written below
  obtain ⟨isFile, room⟩ := allowed
  have isOpen : (volume.afatfs.files file).IsOpen file := by
    refine ⟨isFile, ?_⟩
    by_contra closing
    rw [fwrite_closing (Bool.not_eq_false _ ▸ closing) wrote] at written
    exact absurd written (Nat.not_lt_zero i)
  obtain ⟨between, writes⟩ := (wp_fwrite system.toFilesOk isFile.hasChain isFile.notCurrent room).wlp.returns wrote
  obtain ⟨chains', system', isOpen', stays⟩ :=
    undisturbed_run (writes.system system isFile) (writes.isOpen isOpen) run asks elsewhere
  obtain ⟨isFile', idle, inside⟩ := allowed'
  have seeks := (wp_fseek system'.toFilesOk isFile'.hasChain isFile'.notCurrent idle inside).wlp.returns sought
  obtain ⟨chains'', system'', isOpen'', stays'⟩ :=
    undisturbed_run (seeks.system system' isFile') (seeks.isOpen isFile') run' asks' elsewhere'
  have reads := (wp_fread system''.toFilesOk isOpen''.1.hasChain isOpen''.1.notCurrent).wlp.returns read
  -- the seek is to where the writing began, which is not behind the end of the file
  have size : (volume.afatfs.files file).target ≤ (later.afatfs.files file).updateFilesize.logicalSize.toNat := by
    rw [size_of_idle idle, stays.extent, AfatfsFile.extent, writes.target]
    omega
  have place : (last.afatfs.files file).target = (volume.afatfs.files file).target := by
    rw [stays'.place, seeks.target]
    change min (BitVec.ofNat 32 (volume.afatfs.files file).target).toNat _ = _
    rw [BitVec.toNat_ofNat, Nat.mod_eq_of_lt (by omega), Nat.min_eq_left size]
  have bound := writes.ok.target_le writes.chained
  rw [writes.target] at bound
  have bound' := bound.trans (Nat.mul_le_mul_right _ stays.grows.length_le)
  have unit : later'.afatfs.clusterSize = mid.afatfs.clusterSize :=
    Afatfs.congr_disk Afatfs.clusterSize (fun _ => rfl) (seeks.disk.trans stays.disk)
  have sectors : later'.afatfs.sectorOf = later.afatfs.sectorOf :=
    Afatfs.congr_disk Afatfs.sectorOf (fun _ => rfl) seeks.disk
  rw [reads.getD below, place, stays'.bytes _ (by rw [unit]; omega)]
  calc later'.byteAt (chains' (.file file)) ((volume.afatfs.files file).target + i)
      = later.byteAt (chains' (.file file)) ((volume.afatfs.files file).target + i) := by
        rw [Volume.byteAt, Volume.byteAt, sectors, seeks.same]
    _ = mid.byteAt (between (.file file)) ((volume.afatfs.files file).target + i) := stays.bytes _ (by omega)
    _ = buffer.getD i 0 := writes.stored i written

theorem written_is_read_small :
    ∃ mid later later' last volume' rest rest' rest'', fwrite smallFile [7] (smallVolume, []) = .ok (1, mid, rest) ∧
      [(FileEvent.poll, [])].foldlM fileStep mid = some later ∧
      fseek smallFile 0 .seekSet (later, []) = .ok (.success, later', rest') ∧
      [(FileEvent.poll, [cardWrites])].foldlM fileStep later' = some last ∧
      fread smallFile 1 (last, []) = .ok ([7], volume', rest'') ∧ [(7 : UInt8)].getD 0 0 = [7].getD 0 0 := by
  obtain ⟨mid, later, later', last, volume', rest, rest', rest'', wrote, run, allowed, sought, run', read⟩ :
      ∃ mid later later' last volume' rest rest' rest'', fwrite smallFile [7] (smallVolume, []) = .ok (1, mid, rest) ∧
        [(FileEvent.poll, [])].foldlM fileStep mid = some later ∧
        (FileEvent.fseek smallFile 0 .seekSet).Allowed later.afatfs ∧
        fseek smallFile 0 .seekSet (later, []) = .ok (.success, later', rest') ∧
        [(FileEvent.poll, [cardWrites])].foldlM fileStep later' = some last ∧
        fread smallFile 1 (last, []) = .ok ([7], volume', rest'') :=
    ⟨_, _, _, _, _, _, _, _, rfl, rfl, by decide, rfl, rfl, by rfl⟩
  exact ⟨mid, later, later', last, volume', rest, rest', rest'', wrote, run, sought, run', read,
    written_is_read system_small (by decide) wrote run (asksAlong_of_not_fopen (by simp)) (by simp [FileEvent.file]) allowed
      sought run' (asksAlong_of_not_fopen (by simp)) (by simp [FileEvent.file]) read 0 (by decide) (by decide)⟩

/-! ## Truncating -/

/-- A truncation, also the one of a deletion, gives clusters back from the first one on: what is left of those that
    were pending is the end of their chain, and nothing when it is over, and the others are free.  Every other chain
    is as it was, and no cluster is in use that was not. -/
theorem truncate_frees {deletes : Bool} {opState : TruncateFile} (system : SystemOk names volume chains)
    (isFile : (volume.afatfs.files file).IsFile file)
    (operation : (volume.afatfs.files file).operation = .truncating deletes opState)
    (ran : ftruncateContinue file deletes opState (volume, draws) = .ok (status, later, rest)) :
    ∃ left : List Word, left <:+ chains (.pending file) ∧ (status ≠ .inProgress → left = []) ∧
      (status = .inProgress → Threads later.fatTable (later.afatfs.link (later.afatfs.files file).operation.pendingCluster) left) ∧
      (∀ cluster ∈ chains (.pending file), cluster ∈ left ∨ later.fatTable cluster = none) ∧
      (∀ cluster, later.fatTable cluster ≠ none → volume.fatTable cluster ≠ none) ∧
      ∀ owner, owner ≠ .pending file → Threads later.fatTable (volume.afatfs.starts chains owner) (chains owner) := by
  have goes := (wp_ftruncateContinue system.toFilesOk isFile.hasChain operation id).wlp.returns ran
  -- a truncation that is over has still to be ended, which changes nothing on the volume
  obtain ⟨reached, chains', truncated, table, ended, waits⟩ : ∃ reached chains', Truncated file volume chains reached chains' ∧
      reached.fatTable = later.fatTable ∧ (status ≠ .inProgress → chains' (.pending file) = []) ∧
        (status = .inProgress → reached = later) := by
    rcases goes with ⟨rfl, chains', opState', truncated, -⟩ | ⟨rfl, ⟨chains', truncated, nothing⟩, -⟩
    · exact ⟨later, chains', truncated, rfl, fun ended => absurd rfl ended, fun _ => rfl⟩
    · exact ⟨_, chains', truncated, rfl, fun _ => nothing, nofun⟩
  have stays : ∀ owner, owner ≠ .pending file → chains' owner = chains owner := by
    intro owner notPending
    by_cases here : owner = .file file
    · rw [here, truncated.chain]
    · exact truncated.elsewhere owner here notPending
  have used : ∀ cluster, later.fatTable cluster ≠ none →
      volume.fatTable cluster ≠ none ∧ (cluster ∈ chains (.pending file) → cluster ∈ chains' (.pending file)) := by
    intro cluster used
    rw [← table] at used
    by_cases isIn : ∃ owner, cluster ∈ chains' owner
    · obtain ⟨owner, isIn⟩ := isIn
      by_cases isPending : owner = .pending file
      · rw [isPending] at isIn
        exact ⟨(system.separate.threads _).used cluster (truncated.left.subset isIn), fun _ => isIn⟩
      · rw [stays owner isPending] at isIn
        exact ⟨(system.separate.threads owner).used cluster isIn,
          fun pending => (system.separate.disjoint owner (.pending file) isPending isIn pending).elim⟩
    · have stray := truncated.strays cluster ⟨used, not_exists.mp isIn⟩
      exact ⟨stray.used, fun pending => absurd pending (stray.outside _)⟩
  refine ⟨chains' (.pending file), truncated.left, ended, ?_, ?_, fun cluster isUsed => (used cluster isUsed).1, ?_⟩
  · intro waiting
    obtain rfl := waits waiting
    exact truncated.ok.separate.threads (.pending file)
  · intro cluster pending
    by_cases free : later.fatTable cluster = none
    · exact .inr free
    · exact .inl ((used cluster free).2 pending)
  · intro owner notPending
    have threads := truncated.ok.separate.threads owner
    rwa [threads.start_eq, stays owner notPending, ← (system.separate.threads owner).start_eq, table] at threads

theorem truncate_frees_small :
    ∃ later rest,
      ftruncateContinue smallFile false { currentCluster := 2 } (smallVolume.dropped smallFile false, []) =
        .ok (.success, later, rest) ∧
      later.fatTable 2 = none := by
  obtain ⟨later, rest, ran⟩ : ∃ later rest,
      ftruncateContinue smallFile false { currentCluster := 2 } (smallVolume.dropped smallFile false, []) =
        .ok (.success, later, rest) := ⟨_, _, rfl⟩
  have dropped : Works smallFile NoSector smallVolume smallChains (smallVolume.dropped smallFile false) _ :=
    filesOk_small.dropped (by decide) (by decide) rfl fun _ => rfl
  have operation : ((smallVolume.dropped smallFile false).afatfs.files smallFile).operation =
      .truncating false { currentCluster := 2 } := rfl
  have system := system_small.works (dropped.mono fun _ => False.elim) (by decide)
  obtain ⟨left, -, ended, -, freed, -⟩ := truncate_frees system (by decide) operation ran
  have free := freed 2 (by decide)
  rw [ended (by decide)] at free
  exact ⟨later, rest, ran, free.resolve_left nofun⟩

end ComputerSystems.Fat
