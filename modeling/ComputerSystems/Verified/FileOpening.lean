import ComputerSystems.Verified.FileSystem

/-! # Opening files

The invariant of the file system is kept when a file is opened, whatever becomes of it, when
the current directory is changed and when a handle of a directory is closed.  A file that is
opened gets the chain of its entry, and the handle of a directory gets none.
-/

namespace ComputerSystems.Fat

open ComputerSystems.Data ComputerSystems.System Program

variable {volume later mid : Volume} {chains chains' : Owner → List Word} {file other : FileRef}
  {names : List UInt8 → Prop} {position : DirEntryPointer} {filename : List UInt8} {mode : FileMode}

/-! ## While a file is searched -/

/-- All but one file and the current directory are as they were, and nothing is written. -/
structure Aside (file : FileRef) (volume later : Volume) : Prop where
  disk : later.afatfs.disk = volume.afatfs.disk
  content : later.content = volume.content
  files : ∀ other, other ≠ file → other ≠ .currentDirectory → later.afatfs.files other = volume.afatfs.files other
  directory : SameKind (volume.afatfs.files .currentDirectory) (later.afatfs.files .currentDirectory)

theorem Aside.trans (first : Aside file volume mid) (second : Aside file mid later) : Aside file volume later where
  disk := second.disk.trans first.disk
  content := second.content.trans first.content
  files other notFile notCurrent := (second.files other notFile notCurrent).trans (first.files other notFile notCurrent)
  directory := first.directory.trans second.directory

theorem Searched.aside (searched : Searched file volume chains later) : Aside file volume later :=
  ⟨searched.disk, searched.content, searched.files, searched.directory⟩

theorem Aside.withRecord {record : AfatfsFile} (notCurrent : file ≠ .currentDirectory) :
    Aside file volume (volume.withRecord file record) :=
  ⟨rfl, rfl, fun _ notFile _ => withRecord_other notFile, .of_eq (withRecord_other notCurrent.symm)⟩

/-- The handle is not that of an open file before, and not after it. -/
theorem Aside.entries (aside : Aside file volume later) (system : SystemOk names volume chains)
    (notFile : ¬ (volume.afatfs.files file).IsFile file) (notFile' : ¬ (later.afatfs.files file).IsFile file)
    (nothing : chains (.file file) = []) : SameEntries volume chains later chains := by
  have same : ∀ other, other ≠ .currentDirectory → other ≠ file → later.afatfs.files other = volume.afatfs.files other :=
    fun other notCurrent elsewhere => aside.files other elsewhere notCurrent
  refine ⟨aside.disk, aside.content, fun other isFile => ?_, fun other isFile => ?_, fun _ _ => rfl, fun _ => rfl, .refl chains,
    .refl chains, fun other unchained notCurrent => ?_⟩
  · by_cases here : other = file
    · subst here
      exact absurd isFile notFile'
    · rwa [same other isFile.notCurrent here] at isFile
  · refine same other isFile.notCurrent ?_
    rintro rfl
    exact notFile isFile
  · by_cases here : other = file
    · rw [here]
      exact nothing
    · rw [same other notCurrent here] at unchained
      exact system.spare other unchained notCurrent

theorem SameEntries.fresh (same : SameEntries volume chains later chains') (fresh : volume.Fresh filename) :
    later.Fresh filename := by
  intro other isFile
  have before := same.isFile other isFile
  rw [same.files other before, same.content]
  exact fresh other before

theorem FilesOk.opens_notCurrent (ok : FilesOk volume chains) (opens : (volume.afatfs.files file).Opens) :
    file ≠ .currentDirectory := by
  rintro rfl
  have still := opens.2
  rw [ok.still] at still
  cases still

/-- The invariant while the file is searched. -/
theorem SystemOk.finding (system : SystemOk names volume chains) (aside : Aside file volume mid)
    (notFile : ¬ (volume.afatfs.files file).IsFile file)
    (only : ∀ other, other ≠ file → ¬ (volume.afatfs.files other).Opens) (isName : names filename)
    (fresh : volume.Fresh filename) (finding : Finding file mode filename mid chains) : SystemOk names mid chains := by
  obtain ⟨position, here⟩ := finding.here
  obtain ⟨notCurrent, nothing, -, -⟩ := finding.ok.creating_chains here
  have opening : (mid.afatfs.files file).operation.opening = true := by
    rw [here]
    rfl
  have entries := aside.entries system notFile (fun isFile => by simp [isFile.opened] at opening) nothing
  -- only this file is being opened, since the others are as they were
  have opens : ∀ other, (mid.afatfs.files other).Opens → other = file := by
    intro other isOpening
    by_contra elsewhere
    rw [aside.files other elsewhere (finding.ok.opens_notCurrent isOpening)] at isOpening
    exact only other elsewhere isOpening
  refine ⟨finding.ok, system.toEntriesOk.congr entries, finding.sectors, ?_, ?_, ?_, ?_⟩
  · rw [aside.directory.type, AfatfsFile.isDirectory, aside.directory.attrib]
    exact system.isDirectory
  · intro other isOpening
    obtain rfl := opens other isOpening
    exact ⟨mode, filename, isName, entries.fresh fresh, finding⟩
  · exact fun one other isOpening isOpening' => (opens one isOpening).trans (opens other isOpening').symm
  · intro none
    refine absurd ⟨?_, opening⟩ (none file)
    rw [here]
    rintro ⟨⟩

/-! ## When a search is over -/

theorem Finding.opens (finding : Finding file mode filename volume chains) : (volume.afatfs.files file).Opens := by
  obtain ⟨position, here⟩ := finding.here
  rw [here]
  exact ⟨nofun, rfl⟩

theorem Finding.not_isFile (finding : Finding file mode filename volume chains) : ¬ (volume.afatfs.files file).IsFile file := by
  intro isFile
  have opens := finding.opens.2
  rw [isFile.opened] at opens
  cases opens

/-- The current directory lets go of its sector. -/
theorem Finding.unlockDirectory (finding : Finding file mode filename volume chains) :
    FilesOk volume.unlockDirectory chains ∧ Aside file volume volume.unlockDirectory ∧
      (volume.unlockDirectory.afatfs.files .currentDirectory).Unlocked := by
  have works : Works .currentDirectory NoSector volume chains volume.unlockDirectory chains :=
    finding.ok.fileUnlockCacheSector finding.sectors
  have record : volume.unlockDirectory.afatfs.files .currentDirectory = _ :=
    fileUnlockCacheSector_file .currentDirectory volume.afatfs
  refine ⟨works.ok, ⟨works.disk, fileUnlockCacheSector_content, fun other _ notCurrent => works.files other notCurrent, ?_⟩, ?_⟩
  · rw [record]
    exact ⟨rfl, rfl⟩
  · rw [record]
    exact ⟨rfl, rfl⟩

/-- The invariant once the file is searched no more, if the file is in order. -/
theorem SystemOk.found (system : SystemOk names volume chains) (aside : Aside file volume later)
    (only : ∀ other, other ≠ file → ¬ (volume.afatfs.files other).Opens) (ok : FilesOk later chains')
    (entries : EntriesOk names later chains') (still : ¬ (later.afatfs.files file).Opens)
    (unlocked : (later.afatfs.files .currentDirectory).Unlocked) : SystemOk names later chains' := by
  have none : ∀ other, ¬ (later.afatfs.files other).Opens := by
    intro other opens
    by_cases here : other = file
    · subst here
      exact still opens
    · rw [aside.files other here (ok.opens_notCurrent opens)] at opens
      exact only other here opens
  refine ⟨ok, entries, aside.directory.hasSectors.mpr system.directory, ?_, fun other opens => absurd opens (none other),
    fun other _ opens => absurd opens (none other), fun _ => unlocked⟩
  rw [aside.directory.type, AfatfsFile.isDirectory, aside.directory.attrib]
  exact system.isDirectory

/-- The invariant when the file is not there. -/
theorem SystemOk.fails (system : SystemOk names volume chains) (finding : Finding file mode filename volume chains) :
    SystemOk names (volume.unlockDirectory.withRecord file
      { AfatfsFile.creating mode ⟨filename, .failure⟩ position with type := .none }) chains := by
  obtain ⟨position', here⟩ := finding.here
  obtain ⟨notCurrent, nothing, pending, -⟩ := finding.ok.creating_chains here
  obtain ⟨unlocks, aside, unlocked⟩ := finding.unlockDirectory
  have free : (volume.unlockDirectory.afatfs.files file).Unlocked := by
    rw [unlockDirectory_other notCurrent, here]
    exact ⟨rfl, rfl⟩
  -- the handle is given back, and so it has no chain
  have unchained : ¬ ({ AfatfsFile.creating mode ⟨filename, .failure⟩ position with type := .none } : AfatfsFile).HasChain file :=
    fun chained => chained.not_none rfl
  have aside' : Aside file volume (volume.unlockDirectory.withRecord file
      { AfatfsFile.creating mode ⟨filename, .failure⟩ position with type := .none }) := aside.trans (.withRecord notCurrent)
  have ok : FilesOk (volume.unlockDirectory.withRecord file
      { AfatfsFile.creating mode ⟨filename, .failure⟩ position with type := .none }) chains :=
    unlocks.withRecord (.inr free) ⟨rfl, rfl⟩ (fun same => absurd same notCurrent) pending rfl
      (fun chained => absurd chained unchained) (fun chained => absurd chained unchained)
      (fun chained => absurd chained unchained) (fun _ => .inr ⟨rfl, rfl⟩) fun _ _ used => absurd rfl used
  refine system.found aside' (fun other elsewhere opens => elsewhere (system.single other file opens finding.opens)) ok
    (system.toEntriesOk.congr (aside'.entries system finding.not_isFile ?_ nothing)) ?_ ?_
  · rw [withRecord_file]
    exact fun isFile => unchained isFile.hasChain
  · rw [withRecord_file]
    exact fun opens => opens.1 rfl
  · rw [withRecord_other notCurrent.symm]
    exact unlocked

/-! ## A file that is there -/

/-- A size that fits in a number of clusters does so when it is rounded up. -/
theorem Afatfs.Geometry.roundUpTo_le {afatfs : Afatfs} (geometry : afatfs.Geometry) {value : Word} {n : Nat}
    (fits : value.toNat ≤ n * afatfs.clusterSize.toNat) (room : n * afatfs.clusterSize.toNat < 2 ^ 32) :
    (roundUpTo value afatfs.clusterSize).toNat ≤ n * afatfs.clusterSize.toNat := by
  have positive := geometry.clusterSize_pos
  -- 4 GiB are a multiple of a cluster, so one more cluster does not go past them
  have more : (n + 1) * afatfs.clusterSize.toNat ≤ 2 ^ 32 := by
    obtain ⟨k, small, size⟩ := geometry.size
    have clusters : 2 ^ 32 = 2 ^ (23 - k) * (512 * 2 ^ k) := by
      rw [show 512 = 2 ^ 9 from rfl, ← pow_add, ← pow_add]
      congr 1
      omega
    rw [geometry.clusterSize_toNat, size, clusters] at room ⊢
    exact Nat.mul_le_mul_right _ (Nat.lt_of_mul_lt_mul_right room)
  have mask : afatfs.clusterSize - 1 = afatfs.byteInClusterMask := by
    have sum := geometry.mask
    rw [← geometry.clusterSize_toNat] at sum
    bv_omega
  have total : (value + afatfs.clusterSize - 1).toNat = value.toNat + afatfs.clusterSize.toNat - 1 := by
    rw [Nat.add_mul, Nat.one_mul] at more
    bv_omega
  -- the mask splits the sum into whole clusters and what is left
  have apart : ((value + afatfs.clusterSize - 1) &&& ~~~afatfs.byteInClusterMask) &&&
      (afatfs.byteInClusterMask &&& (value + afatfs.clusterSize - 1)) = 0 := by
    ext i
    simp
    grind
  have whole : ((value + afatfs.clusterSize - 1) &&& ~~~afatfs.byteInClusterMask) +
      (afatfs.byteInClusterMask &&& (value + afatfs.clusterSize - 1)) = value + afatfs.clusterSize - 1 := by
    rw [BitVec.add_eq_or_of_and_eq_zero _ _ apart]
    ext i
    simp
    grind
  have rest : (afatfs.byteInClusterMask &&& (value + afatfs.clusterSize - 1)).toNat =
      (value.toNat + afatfs.clusterSize.toNat - 1) % afatfs.clusterSize.toNat := by
    rw [← total]
    exact geometry.byteIndexInCluster_toNat _
  have sum := BitVec.toNat_add_of_and_eq_zero apart
  rw [whole, rest, total] at sum
  rw [roundUpTo, mask]
  have parts := Nat.div_add_mod (value.toNat + afatfs.clusterSize.toNat - 1) afatfs.clusterSize.toNat
  have few : (value.toNat + afatfs.clusterSize.toNat - 1) / afatfs.clusterSize.toNat ≤ n := by
    apply Nat.le_of_lt_succ
    rw [Nat.div_lt_iff_lt_mul positive, Nat.succ_mul]
    omega
  calc _ = afatfs.clusterSize.toNat * ((value.toNat + afatfs.clusterSize.toNat - 1) / afatfs.clusterSize.toNat) := by omega
    _ ≤ n * afatfs.clusterSize.toNat := by
      rw [Nat.mul_comm]
      exact Nat.mul_le_mul_right _ few
section Opened

variable {block : Sector}

theorem isDirectory_opened {clusterSize : Word} : (AfatfsFile.opened mode position block clusterSize).isDirectory = true ↔
    IsDirectoryEntry block position.entryIndex := decide_eq_true_iff

theorem hasChain_opened {clusterSize : Word} (notCurrent : file ≠ .currentDirectory) :
    (AfatfsFile.opened mode position block clusterSize).HasChain file ↔ ¬ IsDirectoryEntry block position.entryIndex := by
  have isDirectory : (AfatfsFile.opened mode position block clusterSize).isDirectory = true ↔ _ := isDirectory_opened
  rw [← isDirectory, Bool.not_eq_true]
  exact ⟨fun chained => chained.2.resolve_left notCurrent, fun ordinary => ⟨.inl rfl, .inr ordinary⟩⟩

theorem Describes.size_le {link : Word → Option Word} {size : Nat} {entryIndex : Int} {chain : List Word}
    (describes : Describes link size block entryIndex chain) :
    (BitVec.ofNat 32 (block.read32 (directoryEntrySize * entryIndex + 28))).toNat ≤ chain.length * size := by
  rw [BitVec.toNat_ofNat]
  exact (Nat.mod_le _ _).trans describes.fits

/-- A file that was opened is in order if its entry fits to the chain. -/
theorem Describes.shape {afatfs : Afatfs} {chain : List Word} {limit : Nat} (geometry : afatfs.Geometry)
    (describes : Describes afatfs.link afatfs.clusterSize.toNat block position.entryIndex chain)
    (directory : mode.retainDirectory = false) :
    FileShape afatfs.link afatfs.clusterSize.toNat limit chain [] (.opened mode position block afatfs.clusterSize) :=
  .of_start geometry.clusterSize_pos describes.first rfl rfl rfl rfl (geometry.roundUpTo_le describes.size_le describes.room)
    describes.room describes.size_le directory ⟨rfl, rfl⟩

/-- The entry that is found is not that of an open file. -/
theorem Matches.ready (matching : Matches file filename volume chains position block) (system : SystemOk names volume chains)
    (isName : names filename) (fresh : volume.Fresh filename) (high : position.entryIndex < 16) :
    volume.Ready chains position := by
  obtain ⟨here, rfl, low, inside, used, named⟩ := matching
  refine (system.entries position inside.inDirectory ⟨low, high, used, filename, isName, named⟩).resolve_left ?_
  rintro ⟨other, isFile, rfl⟩
  rw [fresh other isFile] at named
  cases named

/-- What is known when the entry is found that a file is opened by. -/
structure Opening (file : FileRef) (mode : FileMode) (position : DirEntryPointer) (block : Sector) (volume : Volume)
    (chains : Owner → List Word) (later : Volume) : Prop where
  notCurrent : file ≠ .currentDirectory
  nothing : chains (.file file) = []
  pending : chains (.pending file) = []
  directory : mode.retainDirectory = false
  closed : ¬ (volume.afatfs.files file).IsFile file
  entered : position.sectorNumberPhysical ≠ 0
  entry : EntryOk volume.afatfs chains position
  holds : volume.content position.sectorNumberPhysical = block
  unshared : ∀ other, (volume.afatfs.files other).IsFile other → (volume.afatfs.files other).directoryEntryPos ≠ position
  unlocks : FilesOk volume.unlockDirectory chains
  free : (volume.unlockDirectory.afatfs.files file).Unlocked
  ends : later = volume.unlockDirectory.withRecord file (.opened mode position block volume.afatfs.clusterSize)
  aside : Aside file volume later

theorem Opening.record (opening : Opening file mode position block volume chains later) :
    later.afatfs.files file = .opened mode position block volume.afatfs.clusterSize := by
  rw [opening.ends, withRecord_file]

/-- The files that are open then are those that were, and the one that is opened. -/
theorem Opening.isFile (opening : Opening file mode position block volume chains later)
    (isFile : (later.afatfs.files other).IsFile other) (elsewhere : other ≠ file) :
    later.afatfs.files other = volume.afatfs.files other ∧ (volume.afatfs.files other).IsFile other := by
  have same := opening.aside.files other elsewhere isFile.notCurrent
  exact ⟨same, by rwa [same] at isFile⟩

/-- The chain of a file is taken from its entry. -/
theorem Opening.ok_file (opening : Opening file mode position block volume chains later)
    (ordinary : ¬ IsDirectoryEntry block position.entryIndex)
    (describes : Describes volume.afatfs.link volume.afatfs.clusterSize.toNat block position.entryIndex (chains (.entry position))) :
    FilesOk later (chains ∘ Equiv.swap (.file file) (.entry position)) := by
  have disk : volume.unlockDirectory.afatfs.disk = volume.afatfs.disk := unlockDirectory_disk
  have goesTo : (Owner.entry position).GoesTo file := opening.notCurrent
  rw [opening.ends]
  refine opening.unlocks.takes goesTo (.inr opening.free) ⟨rfl, rfl⟩ (fun same => absurd same opening.notCurrent) opening.pending
    rfl (fun _ => ?_) (fun _ => ?_) (fun _ _ => opening.entry.congr disk (.refl chains)) (fun unchained => ?_) fun unchained => ?_
  · rw [Afatfs.congr_disk Afatfs.link (fun _ => rfl) disk]
    exact describes.first
  · exact (describes.shape (opening.unlocks.geometry.congr_disk disk.symm) opening.directory).congr disk
  · exact absurd ((hasChain_opened opening.notCurrent).mpr ordinary) unchained
  · exact absurd ((hasChain_opened opening.notCurrent).mpr ordinary) unchained

/-- The entry of a file that has been opened is as it should be. -/
theorem Opening.saved {chain : List Word} (opening : Opening file mode position block volume chains later)
    (describes : Describes volume.afatfs.link volume.afatfs.clusterSize.toNat block position.entryIndex chain) :
    later.Saved file chain := by
  have disk := opening.aside.disk
  rw [Volume.Saved, opening.record, opening.aside.content, Afatfs.congr_disk Afatfs.link (fun _ => rfl) disk,
    Afatfs.congr_disk Afatfs.clusterSize (fun _ => rfl) disk]
  exact .inr (.inr ⟨opening.holds.symm ▸ describes, describes.size_le⟩)

theorem Opening.isFile_own (opening : Opening file mode position block volume chains later)
    (ordinary : ¬ IsDirectoryEntry block position.entryIndex) : (later.afatfs.files file).IsFile file := by
  rw [opening.record]
  exact ⟨rfl, by rw [← Bool.not_eq_true, isDirectory_opened]; exact ordinary, opening.notCurrent, rfl⟩

theorem Opening.position_own (opening : Opening file mode position block volume chains later) :
    (later.afatfs.files file).directoryEntryPos = position := by
  rw [opening.record]
  rfl

/-! The chain of the entry becomes that of the file, and every other one is as it was. -/

theorem swap_file (elsewhere : other ≠ file) :
    (chains ∘ Equiv.swap (.file file) (.entry position)) (.file other) = chains (.file other) :=
  swap_of_ne (by simp [elsewhere]) (by simp)

theorem swap_entry {q : DirEntryPointer} (apart : q ≠ position) :
    (chains ∘ Equiv.swap (.file file) (.entry position)) (.entry q) = chains (.entry q) :=
  swap_of_ne (by simp) (by simp [apart])

theorem swap_directory {owner : Owner} (notCurrent : file ≠ .currentDirectory) (isDirectory : owner.IsDirectory) :
    (chains ∘ Equiv.swap (.file file) (.entry position)) owner = chains owner := by
  apply swap_of_ne
  · rintro rfl
    exact notCurrent isDirectory
  · rintro rfl
    exact isDirectory

/-- No two open files have the same entry. -/
theorem Opening.apart {one : FileRef} (opening : Opening file mode position block volume chains later)
    (system : SystemOk names volume chains) (isFile : (later.afatfs.files one).IsFile one)
    (isFile' : (later.afatfs.files other).IsFile other)
    (shared : (later.afatfs.files one).directoryEntryPos = (later.afatfs.files other).directoryEntryPos) : one = other := by
  by_cases here : one = file
  · by_cases there : other = file
    · exact here.trans there.symm
    · obtain ⟨same, before⟩ := opening.isFile isFile' there
      rw [here, opening.position_own, same] at shared
      exact absurd shared.symm (opening.unshared other before)
  · obtain ⟨same, before⟩ := opening.isFile isFile here
    by_cases there : other = file
    · rw [there, opening.position_own, same] at shared
      exact absurd shared (opening.unshared one before)
    · obtain ⟨same', before'⟩ := opening.isFile isFile' there
      rw [same, same'] at shared
      exact system.apart one other before before' shared

/-- What is recorded of the open files is so. -/
theorem Opening.records (opening : Opening file mode position block volume chains later)
    (system : SystemOk names volume chains)
    (describes : Describes volume.afatfs.link volume.afatfs.clusterSize.toNat block position.entryIndex (chains (.entry position)))
    (isFile : (later.afatfs.files other).IsFile other) :
    later.Records (chains ∘ Equiv.swap (.file file) (.entry position)) other := by
  have content := opening.aside.content
  by_cases here : other = file
  · subst here
    intro _
    have chain : (chains ∘ Equiv.swap (.file other) (.entry position)) (.file other) = chains (.entry position) :=
      congrArg chains (Equiv.swap_apply_left _ _)
    rw [chain]
    exact opening.saved describes
  · obtain ⟨same, before⟩ := opening.isFile isFile here
    intro saved
    rw [same] at saved
    rw [swap_file here]
    exact (system.records other before saved).keeps opening.aside.disk (by rw [same]) (fun _ => by rw [content])
      (.inl (by rw [same]))

/-- The entries when a file has been opened. -/
theorem Opening.entries_file (opening : Opening file mode position block volume chains later)
    (system : SystemOk names volume chains) (ordinary : ¬ IsDirectoryEntry block position.entryIndex)
    (describes : Describes volume.afatfs.link volume.afatfs.clusterSize.toNat block position.entryIndex (chains (.entry position))) :
    EntriesOk names later (chains ∘ Equiv.swap (.file file) (.entry position)) := by
  have content := opening.aside.content
  have disk := opening.aside.disk
  have own := opening.position_own
  have directories : SameDirectories chains (chains ∘ Equiv.swap (.file file) (.entry position)) :=
    fun owner isDirectory => ⟨owner, isDirectory, swap_directory opening.notCurrent isDirectory⟩
  -- the file takes the chain of its entry: the two owners change places
  refine ⟨system.filenames, ?_, fun _ _ isFile isFile' => opening.apart system isFile isFile',
    fun _ => opening.records system describes, ?_, ?_, ?_, ?_, ?_, ?_⟩
  · intro other isFile
    by_cases here : other = file
    · rw [here, own]
      exact opening.entered
    · obtain ⟨same, before⟩ := opening.isFile isFile here
      rw [same]
      exact system.entered other before
  · intro other isFile
    by_cases here : other = file
    · subst here
      simp only
      rw [own, content, opening.holds]
      exact .inr ordinary
    · obtain ⟨same, before⟩ := opening.isFile isFile here
      rw [same, content]
      exact system.ordinary other before
  · intro other unchained notCurrent
    by_cases here : other = file
    · subst here
      exact absurd (opening.isFile_own ordinary).hasChain unchained
    · rw [swap_file here]
      rw [opening.aside.files other here notCurrent] at unchained
      exact system.spare other unchained notCurrent
  · intro other isFile
    by_cases here : other = file
    · rw [here, own]
      exact (congrArg chains (Equiv.swap_apply_right _ _)).trans opening.nothing
    · obtain ⟨same, before⟩ := opening.isFile isFile here
      rw [same, swap_entry (opening.unshared other before)]
      exact system.free other before
  · intro q inside named
    by_cases isOwn : q = position
    · exact .inl ⟨file, opening.isFile_own ordinary, own.trans isOwn.symm⟩
    · have bytes : SameBytes q.entryIndex (volume.content q.sectorNumberPhysical) (later.content q.sectorNumberPhysical) :=
        .of_eq (by rw [content])
      have inside' : volume.InDirectory chains q.sectorNumberPhysical :=
        inside.congr disk.symm fun owner isDirectory =>
          ⟨owner, isDirectory, (swap_directory opening.notCurrent isDirectory).symm⟩
      refine system.keepsEntry disk inside' named bytes (swap_entry isOwn) directories fun other isFile here => ?_
      refine opening.aside.files other ?_ isFile.notCurrent
      rintro rfl
      exact opening.closed isFile
  · exact system.keepsRoot disk directories
  · exact system.keepsFew disk

/-- The handle of a directory. -/
theorem Opening.ok_directory {owner : Owner} (opening : Opening file mode position block volume chains later)
    (directory : IsDirectoryEntry block position.entryIndex) (isDirectory : owner.IsDirectory)
    (describes : Describes volume.afatfs.link volume.afatfs.clusterSize.toNat block position.entryIndex (chains owner)) :
    FilesOk later chains := by
  have disk : volume.unlockDirectory.afatfs.disk = volume.afatfs.disk := unlockDirectory_disk
  have unchained : ¬ (AfatfsFile.opened mode position block volume.afatfs.clusterSize).HasChain file :=
    fun chained => (hasChain_opened opening.notCurrent).mp chained directory
  have shape := (describes.shape (opening.unlocks.geometry.congr_disk disk.symm) opening.directory).congr disk
  rw [opening.ends]
  refine opening.unlocks.withRecord (.inr opening.free) ⟨rfl, rfl⟩ (fun same => absurd same opening.notCurrent) opening.pending
    rfl (fun chained => absurd chained unchained) (fun chained => absurd chained unchained)
    (fun chained => absurd chained unchained) (fun _ => .inl rfl) fun _ _ _ => ?_
  refine ⟨opening.entry.congr disk (.refl chains), ⟨rfl, rfl⟩, opening.directory, .inr ⟨nofun, owner, isDirectory, ?_, shape⟩⟩
  rw [Afatfs.congr_disk Afatfs.link (fun _ => rfl) disk]
  exact describes.first

end Opened

theorem Aside.fatTable (aside : Aside file volume later) (ok : FilesOk volume chains) : later.fatTable = volume.fatTable :=
  fatTable_congr ok.geometry aside.disk fun sector _ => by rw [aside.content]

/-- The open files are left alone while a handle that is free gets another record. -/
theorem Aside.passes (about : FileRef → Prop) (aside : Aside file volume later) (ok : FilesOk volume chains)
    (closed : ¬ (volume.afatfs.files file).IsFile file) : Passes about volume chains later chains := by
  refine .of_same about aside.disk aside.content (fun _ => rfl) (fun cluster stray => ?_) fun other isFile => ⟨?_, rfl⟩
  · rwa [aside.fatTable ok] at stray
  · refine aside.files other ?_ isFile.notCurrent
    rintro rfl
    exact closed isFile

theorem Opening.passes {block : Sector} (about : FileRef → Prop) (opening : Opening file mode position block volume chains later)
    (ok : FilesOk volume chains) :
    Passes about volume chains later (chains ∘ Equiv.swap (.file file) (.entry position)) := by
  have elsewhere {other : FileRef} (isFile : (volume.afatfs.files other).IsFile other) : other ≠ file := by
    rintro rfl
    exact opening.closed isFile
  refine .of_same about opening.aside.disk opening.aside.content (fun _ => swap_of_ne (by simp) (by simp))
    (fun cluster stray => ?_) fun other isFile => ⟨opening.aside.files other (elsewhere isFile) isFile.notCurrent, ?_⟩
  · rw [opening.aside.fatTable ok] at stray
    exact (stray_comp _).mp stray
  · exact swap_of_ne (by simp [elsewhere isFile]) (by simp)

/-- What is known when the search has come to the entry. -/
theorem Finding.opening {block : Sector} (finding : Finding file mode filename volume chains)
    (system : SystemOk names volume chains) (fresh : volume.Fresh filename)
    (matching : Matches file filename volume chains position block) :
    Opening file mode position block volume chains
      (volume.unlockDirectory.withRecord file (.opened mode position block volume.afatfs.clusterSize)) := by
  obtain ⟨position', here⟩ := finding.here
  obtain ⟨notCurrent, nothing, pending, directory⟩ := finding.ok.creating_chains here
  obtain ⟨unlocks, aside, -⟩ := finding.unlockDirectory
  have inside := matching.inside.inDirectory
  refine ⟨notCurrent, nothing, pending, directory, finding.not_isFile, system.inDirectory_ne_zero inside,
    system.toFilesOk.entryOk matching.low inside, matching.holds, ?_, unlocks, ?_, rfl, aside.trans (.withRecord notCurrent)⟩
  · rintro other isFile rfl
    have named := matching.named
    rw [← matching.holds, fresh other isFile] at named
    cases named
  · rw [unlockDirectory_other notCurrent, here]
    exact ⟨rfl, rfl⟩

/-- However a search ends, the invariant is kept. -/
theorem SystemOk.ends (about : FileRef → Prop) (system : SystemOk names volume chains)
    (finding : Finding file mode filename volume chains) (isName : names filename) (fresh : volume.Fresh filename)
    (ends : Ends file mode filename volume chains later) :
    ∃ chains', SystemOk names later chains' ∧ Passes about volume chains later chains' := by
  have only (other : FileRef) (elsewhere : other ≠ file) : ¬ (volume.afatfs.files other).Opens :=
    fun opens => elsewhere (system.single other file opens finding.opens)
  cases ends with
  | waits => exact ⟨chains, system, .refl about volume chains⟩
  | fails position =>
    refine ⟨chains, system.fails finding, ?_⟩
    exact (finding.unlockDirectory.2.1.trans (.withRecord finding.notCurrent)).passes about system.toFilesOk finding.not_isFile
  | opens position block matching =>
    have opening := finding.opening system fresh matching
    have high : position.entryIndex < 16 := matching.here ▸ finding.high
    obtain ⟨owner, isDirectory, isEntry, describes⟩ := matching.ready system isName fresh high
    rw [matching.holds] at isDirectory isEntry describes
    have still : ¬ ((volume.unlockDirectory.withRecord file
        (.opened mode position block volume.afatfs.clusterSize)).afatfs.files file).Opens := by
      rw [withRecord_file]
      exact fun opens => absurd opens.2 Bool.false_ne_true
    have unlocked : ((volume.unlockDirectory.withRecord file
        (.opened mode position block volume.afatfs.clusterSize)).afatfs.files .currentDirectory).Unlocked := by
      rw [withRecord_other opening.notCurrent.symm]
      exact finding.unlockDirectory.2.2
    -- a directory leaves the chain with its owner, and a file takes it over
    by_cases directory : IsDirectoryEntry block position.entryIndex
    · have ok := opening.ok_directory directory (isDirectory directory) describes
      have entries := opening.aside.entries system opening.closed (fun isFile => ?_) opening.nothing
      · exact ⟨chains, system.found opening.aside only ok (system.toEntriesOk.congr entries) still unlocked,
          opening.aside.passes about system.toFilesOk opening.closed⟩
      · rw [withRecord_file] at isFile
        exact (hasChain_opened opening.notCurrent).mp isFile.hasChain directory
    · obtain rfl := isEntry directory
      exact ⟨_, system.found opening.aside only (opening.ok_file directory describes)
        (opening.entries_file system directory describes) still unlocked, opening.passes about system.toFilesOk⟩

/-- What the search for a file does to the file system. -/
theorem SystemOk.searched (about : FileRef → Prop) (system : SystemOk names volume chains) (aside : Aside file volume mid)
    (closed : ¬ (volume.afatfs.files file).IsFile file)
    (only : ∀ other, other ≠ file → ¬ (volume.afatfs.files other).Opens) (isName : names filename)
    (fresh : volume.Fresh filename) (finding : Finding file mode filename mid chains)
    (ends : Ends file mode filename mid chains later) :
    ∃ chains', SystemOk names later chains' ∧ Passes about volume chains later chains' := by
  have system' := system.finding aside closed only isName fresh finding
  obtain ⟨position, here⟩ := finding.here
  have same := aside.entries system closed finding.not_isFile (finding.ok.creating_chains here).2.1
  obtain ⟨chains', ok, passes⟩ := system'.ends about finding isName (same.fresh fresh) ends
  exact ⟨chains', ok, (aside.passes about system.toFilesOk closed).trans passes⟩

/-- The rule of `afatfs_fileOperationContinue` for a file that is being opened. -/
theorem wp_opening_continues (about : FileRef → Prop) (system : SystemOk names volume chains)
    (opens : (volume.afatfs.files file).Opens) : Wp (fileOperationContinue file) (fun _ later =>
      ∃ chains', SystemOk names later chains' ∧ Passes about volume chains later chains') volume := by
  obtain ⟨mode, filename, isName, fresh, finding⟩ := system.searches file opens
  obtain ⟨position, here⟩ := finding.here
  have continues : Wp (createFileContinue file ⟨filename, .findFile⟩) (fun _ later =>
      ∃ chains', SystemOk names later chains' ∧ Passes about volume chains later chains') volume := by
    apply (wp_createFileContinue finding).mono
    rintro _ later ⟨mid, searched, finding', ends⟩
    exact system.searched about searched.aside finding.not_isFile
      (fun other elsewhere isOpening => elsewhere (system.single other file isOpening opens)) isName fresh finding' ends
  rw [fileOperationContinue, wp_get_bind, here]
  exact continues

/-! ## `afatfs_fopen` -/

theorem OpenMode.retainDirectory (mode : OpenMode) : mode.fileMode.retainDirectory = false := by
  cases mode <;> rfl

theorem allocateFileHandle_some {afatfs : Afatfs} (allocated : afatfs.allocateFileHandle = some file) :
    (afatfs.files file).type = .none ∧ file ≠ .currentDirectory := by
  rw [Afatfs.allocateFileHandle] at allocated
  refine ⟨by simpa using List.find?_some allocated, ?_⟩
  rintro rfl
  have isIn := List.mem_of_find?_eq_some allocated
  simp at isIn

/-- A handle that is free. -/
theorem SystemOk.free_handle (system : SystemOk names volume chains) (free : (volume.afatfs.files file).type = .none)
    (notCurrent : file ≠ .currentDirectory) : ¬ (volume.afatfs.files file).HasSectors file ∧
      chains (.file file) = [] ∧ chains (.pending file) = [] := by
  have unchained : ¬ (volume.afatfs.files file).HasChain file := fun chained => chained.not_none free
  exact ⟨fun sectors => sectors.elim unchained fun isRoot => notCurrent isRoot.1, system.spare file unchained notCurrent,
    (system.idle file unchained).pending⟩

/-- While no file is being opened. -/
theorem SystemOk.not_opens (system : SystemOk names volume chains) (calm : volume.afatfs.Calm) (file : FileRef) :
    ¬ (volume.afatfs.files file).Opens := by
  intro opens
  cases file with
  | currentDirectory => exact system.opens_notCurrent opens rfl
  | openFile i => exact calm i opens

/-- A handle of the current directory. -/
def AfatfsFile.handle (directory : AfatfsFile) (mode : FileMode) : AfatfsFile where
  type := directory.type
  mode := mode
  attrib := directory.attrib
  firstCluster := directory.firstCluster
  cursorCluster := directory.firstCluster
  logicalSize := directory.logicalSize
  physicalSize := directory.physicalSize

theorem toStart_asDirectory {directory : AfatfsFile} {operation : FileOperation} :
    { ({ directory.asDirectory { mode } with operation } : AfatfsFile).toStart with operation := .none } =
      directory.handle mode := by
  have size (logicalSize : Word) : (if logicalSize > 0 then logicalSize else 0) = logicalSize := by
    split_ifs with more
    · rfl
    · bv_omega
  simp only [AfatfsFile.toStart, AfatfsFile.updateFilesize, AfatfsFile.asDirectory, AfatfsFile.handle]
  congr 1
  exact size _

/-- A handle of the current directory is in order. -/
theorem SystemOk.handleOk (system : SystemOk names volume chains) (directory : mode.retainDirectory = false) :
    HandleOk volume.afatfs chains ((volume.afatfs.files .currentDirectory).handle mode) where
  entry := .inl rfl
  unlocked := ⟨rfl, rfl⟩
  directory := directory
  chain := by
    rcases system.directory with chained | isRoot
    · have start := (system.separate.threads (.file .currentDirectory)).start_eq
      rw [Afatfs.starts, if_pos chained] at start
      have shape := (system.isOpen _ chained).shape
      have physical := shape.physical
      have room := shape.room
      have logical := shape.logical (by rw [system.still]; rfl)
      rw [system.still] at physical room
      exact .inr ⟨chained.not_root, .file .currentDirectory, rfl, start,
        .of_start system.geometry.clusterSize_pos start rfl rfl rfl rfl physical room logical directory ⟨rfl, rfl⟩⟩
    · exact .inl isRoot.2

/-- The invariant when a handle that was free has become that of the current directory. -/
theorem SystemOk.opens_dot (about : FileRef → Prop) (system : SystemOk names volume chains) (calm : volume.afatfs.Calm)
    (free : (volume.afatfs.files file).type = .none) (notCurrent : file ≠ .currentDirectory)
    (directory : mode.retainDirectory = false) :
    SystemOk names (volume.withRecord file ((volume.afatfs.files .currentDirectory).handle mode)) chains ∧
      Passes about volume chains (volume.withRecord file ((volume.afatfs.files .currentDirectory).handle mode)) chains := by
  obtain ⟨noSectors, nothing, pending⟩ := system.free_handle free notCurrent
  have closed : ¬ (volume.afatfs.files file).IsFile file := fun isFile => isFile.hasChain.not_none free
  -- the handle has the attributes of a directory, and so no chain of its own
  have unchained : ¬ ((volume.afatfs.files .currentDirectory).handle mode).HasChain file := by
    rintro ⟨type, ordinary⟩
    have isDirectory := system.isDirectory (type.resolve_right fun both => notCurrent both.1)
    have ordinary := ordinary.resolve_left notCurrent
    change (volume.afatfs.files .currentDirectory).isDirectory = false at ordinary
    rw [isDirectory] at ordinary
    cases ordinary
  have aside : Aside file volume (volume.withRecord file ((volume.afatfs.files .currentDirectory).handle mode)) :=
    .withRecord notCurrent
  have ok : FilesOk (volume.withRecord file ((volume.afatfs.files .currentDirectory).handle mode)) chains :=
    system.withRecord (.inl noSectors) ⟨rfl, rfl⟩ (fun same => absurd same notCurrent) pending rfl
      (fun chained => absurd chained unchained) (fun chained => absurd chained unchained)
      (fun chained => absurd chained unchained) (fun _ => .inl rfl) fun _ _ _ => system.handleOk directory
  refine ⟨system.found aside (fun other _ => system.not_opens calm other) ok
    (system.toEntriesOk.congr (aside.entries system closed ?_ nothing)) ?_ ?_, aside.passes about system.toFilesOk closed⟩
  · rw [withRecord_file]
    exact fun isFile => unchained isFile.hasChain
  · rw [withRecord_file]
    exact fun opens => absurd opens.2 Bool.false_ne_true
  · rw [withRecord_other notCurrent.symm]
    exact system.calm (system.not_opens calm)

/-- What is asked of the name that a file is opened by: it is that of the current directory, or one of those that
    are looked at, and no open file has it. -/
def Volume.Asks (names : List UInt8 → Prop) (volume : Volume) (filename : CString) : Prop :=
  strcmp filename .dot = some 0 ∨
    names (fatConvertFilenameToFatStyle filename) ∧ volume.Fresh (fatConvertFilenameToFatStyle filename)

/-- The rule of `afatfs_createFile`. -/
theorem wp_createFile {name : CString} (about : FileRef → Prop) (system : SystemOk names volume chains)
    (calm : volume.afatfs.Calm) (free : (volume.afatfs.files file).type = .none) (notCurrent : file ≠ .currentDirectory)
    (directory : mode.retainDirectory = false) (asks : volume.Asks names name) :
    Wp (createFile file name mode) (fun _ later =>
      ∃ chains', SystemOk names later chains' ∧ Passes about volume chains later chains') volume := by
  have notFile : ¬ (volume.afatfs.files file).IsFile file := fun isFile => isFile.hasChain.not_none free
  rw [createFile, initFileHandle, wp_modifyFile_bind, wp_get_bind]
  simp only
  -- what `strcmp` takes for `.` is not searched
  split_ifs with dot
  · rw [wp_modifyFile_bind, setOperation, wp_modifyFile_bind, withRecord_other notCurrent.symm]
    simp only [withRecord_withRecord, withRecord_file]
    rw [createFileContinue, show 2 ^ 28 = (2 ^ 28 - 1) + 1 from rfl]
    apply (wp_createFile_succeeds _ rfl ?_).mono
    · rintro _ later rfl
      rw [withRecord_withRecord, withRecord_file, toStart_asDirectory]
      exact ⟨chains, system.opens_dot about calm free notCurrent directory⟩
    · rw [withRecord_file]
      exact ⟨rfl, rfl⟩
  · rw [wp_modifyFile_bind, setOperation, wp_modifyFile_bind]
    simp only [withRecord_withRecord, withRecord_file]
    obtain ⟨isName, fresh⟩ := asks.resolve_left dot
    obtain ⟨noSectors, nothing, pending⟩ := system.free_handle free notCurrent
    have creates : FilesOk (volume.withRecord file
        (.creating mode ⟨fatConvertFilenameToFatStyle name, .initial⟩ {})) chains :=
      system.creates notCurrent (.inl noSectors) nothing pending (by rintro ⟨⟩) directory
    have others : (volume.withRecord file (.creating mode ⟨fatConvertFilenameToFatStyle name, .initial⟩ {})).afatfs.files
        .currentDirectory = volume.afatfs.files .currentDirectory := withRecord_other notCurrent.symm
    have begins : Begins file mode (fatConvertFilenameToFatStyle name) (volume.withRecord file
        (.creating mode ⟨fatConvertFilenameToFatStyle name, .initial⟩ {})) chains := by
      refine ⟨creates, ⟨_, withRecord_file⟩, ?_, ?_, system.few⟩
      · rw [others]
        exact system.calm (system.not_opens calm)
      · rw [others]
        exact system.directory
    apply (wp_createFileBegins begins).mono
    rintro _ later ⟨mid, searched, finding, ends⟩
    exact system.searched about ((Aside.withRecord notCurrent).trans searched.aside) notFile
      (fun other _ => system.not_opens calm other) isName fresh finding ends

/-- The rule of `afatfs_fopen`. -/
theorem wp_fopen {filename : CString} {mode : OpenMode} (about : FileRef → Prop) (system : SystemOk names volume chains)
    (calm : volume.afatfs.Calm) (asks : volume.Asks names filename) :
    Wp (fopen filename mode) (fun _ later =>
      ∃ chains', SystemOk names later chains' ∧ Passes about volume chains later chains') volume := by
  rw [fopen, wp_get_bind]
  cases allocated : volume.afatfs.allocateFileHandle with
  | none => exact (wp_pure _).mpr ⟨chains, system, .refl about volume chains⟩
  | some file =>
    obtain ⟨free, notCurrent⟩ := allocateFileHandle_some allocated
    apply Wp.bind
    apply (wp_createFile about system calm free notCurrent mode.retainDirectory asks).mono
    exact fun _ later goes => (wp_pure _).mpr goes

end ComputerSystems.Fat
