import ComputerSystems.Verified.DirectorySearch
import ComputerSystems.Verified.StringOrder

/-! # The file system

The invariant of the whole file system, `SystemOk`, for files that are opened by one of
some names.  Besides `FilesOk` it says what is in the directories: an entry with such a name
is that of an open file, or it is `Ready`, which means that a chain belongs to it that is
large enough for its size.  The chain of a file that is not open is owned by the entry, and
the entry of an open file fits to the chain of its handle whenever the file may be closed.

What is done for an open file keeps all that (`SystemOk.works`); if the file is closed its
chain goes back to the entry.
-/

namespace ComputerSystems.Fat

open ComputerSystems.Data ComputerSystems.System Program

variable {volume later mid : Volume} {chains chains' : Owner → List Word} {file other : FileRef}
  {names : List UInt8 → Prop} {position : DirEntryPointer} {sector : Word} {filename : List UInt8}

/-! ## Entries -/

/-- `FAT_FILE_ATTRIBUTE_DIRECTORY` in an entry. -/
def IsDirectoryEntry (block : Sector) (entryIndex : Int) : Prop :=
  block (directoryEntrySize * entryIndex + 11) &&& 0x10 ≠ 0

instance decidableIsDirectoryEntry (block : Sector) (entryIndex : Int) : Decidable (IsDirectoryEntry block entryIndex) :=
  inferInstanceAs (Decidable (_ ≠ _))

/-- Two sectors have the same entry. -/
def SameBytes (entryIndex : Int) (block later : Sector) : Prop :=
  ∀ cell, directoryEntrySize * entryIndex ≤ cell → cell < directoryEntrySize * entryIndex + directoryEntrySize →
    later cell = block cell

section

variable {entryIndex : Int} {block block' : Sector}

theorem SameBytes.cell (same : SameBytes entryIndex block block') (i : Nat) (inside : i < 32) :
    block' (directoryEntrySize * entryIndex + i) = block (directoryEntrySize * entryIndex + i) := by
  have length : directoryEntrySize = 32 := rfl
  exact same _ (by omega) (by omega)

theorem SameBytes.terminator (same : SameBytes entryIndex block block') :
    fatIsDirectoryEntryTerminator block' entryIndex = fatIsDirectoryEntryTerminator block entryIndex := by
  have first := same.cell 0 (by decide)
  rw [Int.natCast_zero, add_zero] at first
  rw [fatIsDirectoryEntryTerminator, fatIsDirectoryEntryTerminator, first]

theorem SameBytes.isDeleted (same : SameBytes entryIndex block block') : IsDeleted block' entryIndex ↔ IsDeleted block entryIndex := by
  have first := same.cell 0 (by decide)
  rw [Int.natCast_zero, add_zero] at first
  rw [IsDeleted, IsDeleted, first]

theorem SameBytes.isDirectoryEntry (same : SameBytes entryIndex block block') :
    IsDirectoryEntry block' entryIndex ↔ IsDirectoryEntry block entryIndex := by
  have attrib := same.cell 11 (by decide)
  rw [IsDirectoryEntry, IsDirectoryEntry]
  exact iff_of_eq (congrArg (· &&& 0x10 ≠ 0) attrib)

theorem hasFilename_congr (same : ∀ i : Nat, i ≤ filenameLength →
    block' (directoryEntrySize * entryIndex + i) = block (directoryEntrySize * entryIndex + i)) :
    hasFilename block' entryIndex filename = hasFilename block entryIndex filename := by
  have names : (List.range filenameLength).map (fun i : Nat => block' (directoryEntrySize * entryIndex + i)) =
      (List.range filenameLength).map (fun i : Nat => block (directoryEntrySize * entryIndex + i)) :=
    List.map_congr_left fun i isIn => same i (List.mem_range.mp isIn).le
  rw [hasFilename, hasFilename, names]

theorem SameBytes.hasFilename (same : SameBytes entryIndex block block') :
    hasFilename block' entryIndex filename = Fat.hasFilename block entryIndex filename :=
  hasFilename_congr fun i inside => same.cell i (inside.trans_lt (by decide))

theorem SameBytes.describes {link : Word → Option Word} {size : Nat} {chain : List Word}
    (same : SameBytes entryIndex block block') (describes : Describes link size block entryIndex chain) :
    Describes link size block' entryIndex chain := by
  obtain ⟨cluster, length⟩ := entryCluster_congr same
  exact ⟨by rw [cluster]; exact describes.first, by rw [length]; exact describes.fits, describes.room⟩

/-- A name that files are opened by: it does not begin like an entry that is empty or deleted. -/
def IsFilename (filename : List UInt8) : Prop := ∃ c rest, filename = c :: rest ∧ c ≠ 0 ∧ c ≠ 0xE5

theorem stringOf_cons {c : UInt8} {rest : List UInt8} (nonzero : c ≠ 0) :
    (stringOf (c :: rest)).chars = c :: (stringOf rest).chars := by
  simp [stringOf, nonzero]

/-- An entry that is deleted has no such name. -/
theorem not_deleted (isName : IsFilename filename) (named : hasFilename block entryIndex filename = true) :
    ¬ IsDeleted block entryIndex := by
  obtain ⟨c, rest, rfl, nonzero, notMark⟩ := isName
  intro deleted
  have start : block (directoryEntrySize * entryIndex + (0 : Nat)) = 0xE5 := by rwa [Int.natCast_zero, add_zero]
  have prefixes := Verified.strcmp_eq_zero_iff.mp (of_decide_eq_true named)
  rw [filenameLength, List.range_succ_eq_map, List.map_cons, start, stringOf_cons (by decide), stringOf_cons nonzero] at prefixes
  rcases prefixes with begins | begins
  · exact notMark (List.cons_prefix_cons.mp begins).1.symm
  · exact notMark (List.cons_prefix_cons.mp begins).1

/-- An entry that keeps its name and has such a one now had it before. -/
theorem KeepsName.named (keeps : KeepsName entryIndex block block') (isName : IsFilename filename)
    (named : hasFilename block' entryIndex filename = true) :
    hasFilename block entryIndex filename = true ∧ ¬ IsDeleted block' entryIndex := by
  have alive := not_deleted isName named
  have same := keeps.resolve_right alive
  rw [hasFilename_congr same] at named
  exact ⟨named, alive⟩

end

/-! ## What is in the directories -/

/-- The sector is one of a directory. -/
def Volume.InDirectory (volume : Volume) (chains : Owner → List Word) (sector : Word) : Prop :=
  (∃ owner : Owner, owner.IsDirectory ∧ ∃ cluster ∈ chains owner, volume.afatfs.InCluster cluster sector) ∨
    volume.afatfs.InRoot sector

/-- The entry has one of the names. -/
structure Volume.Named (volume : Volume) (names : List UInt8 → Prop) (position : DirEntryPointer) : Prop where
  low : 0 ≤ position.entryIndex
  high : position.entryIndex < 16
  used : fatIsDirectoryEntryTerminator (volume.content position.sectorNumberPhysical) position.entryIndex = false
  named : ∃ filename, names filename ∧
    hasFilename (volume.content position.sectorNumberPhysical) position.entryIndex filename = true

/-- A file or a directory can be opened by the entry. -/
def Volume.Ready (volume : Volume) (chains : Owner → List Word) (position : DirEntryPointer) : Prop :=
  let block := volume.content position.sectorNumberPhysical
  ∃ owner : Owner, (IsDirectoryEntry block position.entryIndex → owner.IsDirectory) ∧
    (¬ IsDirectoryEntry block position.entryIndex → owner = .entry position) ∧
    Describes volume.afatfs.link volume.afatfs.clusterSize.toNat block position.entryIndex (chains owner)

/-- What is the case of the entries in the directories and of those of the open files. -/
structure EntriesOk (names : List UInt8 → Prop) (volume : Volume) (chains : Owner → List Word) : Prop where
  filenames : ∀ filename, names filename → IsFilename filename
  entered : ∀ file, (volume.afatfs.files file).IsFile file →
    (volume.afatfs.files file).directoryEntryPos.sectorNumberPhysical ≠ 0
  apart : ∀ file other, (volume.afatfs.files file).IsFile file → (volume.afatfs.files other).IsFile other →
    (volume.afatfs.files file).directoryEntryPos = (volume.afatfs.files other).directoryEntryPos → file = other
  records : ∀ file, (volume.afatfs.files file).IsFile file → volume.Records chains file
  ordinary : ∀ file, (volume.afatfs.files file).IsFile file →
    let position := (volume.afatfs.files file).directoryEntryPos
    let block := volume.content position.sectorNumberPhysical
    IsDeleted block position.entryIndex ∨ ¬ IsDirectoryEntry block position.entryIndex
  spare : ∀ file, ¬ (volume.afatfs.files file).HasChain file → file ≠ .currentDirectory → chains (.file file) = []
  free : ∀ file, (volume.afatfs.files file).IsFile file → chains (.entry (volume.afatfs.files file).directoryEntryPos) = []
  entries : ∀ position, volume.InDirectory chains position.sectorNumberPhysical → volume.Named names position →
    (∃ file, (volume.afatfs.files file).IsFile file ∧ (volume.afatfs.files file).directoryEntryPos = position) ∨
      volume.Ready chains position
  root : volume.afatfs.filesystemType ≠ .fat16 → ∃ owner : Owner, owner.IsDirectory ∧
    volume.afatfs.link volume.afatfs.rootDirectoryCluster = (chains owner).head? ∧
      (chains owner).length * volume.afatfs.clusterSize.toNat < 2 ^ 32
  few : volume.afatfs.rootDirectorySectors.toNat ≤ 4096

/-- No open file has an entry with the name. -/
def Volume.Fresh (volume : Volume) (filename : List UInt8) : Prop :=
  ∀ file, (volume.afatfs.files file).IsFile file →
    hasFilename (volume.content (volume.afatfs.files file).directoryEntryPos.sectorNumberPhysical)
      (volume.afatfs.files file).directoryEntryPos.entryIndex filename = false

/-- The invariant of the file system. -/
structure SystemOk (names : List UInt8 → Prop) (volume : Volume) (chains : Owner → List Word) : Prop
    extends FilesOk volume chains, EntriesOk names volume chains where
  directory : (volume.afatfs.files .currentDirectory).HasSectors .currentDirectory
  isDirectory : (volume.afatfs.files .currentDirectory).type = .normal →
    (volume.afatfs.files .currentDirectory).isDirectory = true
  searches : ∀ file, (volume.afatfs.files file).Opens → ∃ mode filename, names filename ∧ volume.Fresh filename ∧
    Finding file mode filename volume chains
  single : ∀ file other, (volume.afatfs.files file).Opens → (volume.afatfs.files other).Opens → file = other
  calm : (∀ file, ¬ (volume.afatfs.files file).Opens) → (volume.afatfs.files .currentDirectory).Unlocked

/-! ## Sectors of directories -/

theorem Volume.Inside.inDirectory (inside : volume.Inside chains .currentDirectory sector) : volume.InDirectory chains sector :=
  inside.imp (fun ⟨_, isIn⟩ => ⟨.file .currentDirectory, rfl, isIn⟩) And.right

theorem FilesOk.inDirectory_ne_zero (ok : FilesOk volume chains) (inside : volume.InDirectory chains sector) : sector ≠ 0 := by
  rcases inside with ⟨owner, -, cluster, -, inside⟩ | inside
  · exact ok.geometry.sector_ne_zero inside
  · rintro rfl
    have start := ok.geometry.start
    have low := inside.1
    rw [show BitVec.toNat (0 : Word) = 0 from rfl] at low
    omega

/-- An entry in a directory is where an entry may be. -/
theorem FilesOk.entryOk (ok : FilesOk volume chains) (low : 0 ≤ position.entryIndex)
    (inside : volume.InDirectory chains position.sectorNumberPhysical) : EntryOk volume.afatfs chains position := by
  rcases inside with ⟨owner, isDirectory, cluster, isIn, inside⟩ | inside
  · refine .inr ⟨low, ok.geometry.not_inTable inside, fun cluster' isCluster inside' => ⟨owner, isDirectory, ?_⟩⟩
    obtain rfl := ok.geometry.inCluster_unique isCluster (ok.isCluster isIn) inside' inside
    exact isIn
  · exact .inr ⟨low, inside.not_inTable, fun cluster _ inside' => absurd inside inside'.not_inRoot⟩

theorem Volume.InDirectory.congr (inside : volume.InDirectory chains sector) (disk : later.afatfs.disk = volume.afatfs.disk)
    (directories : SameDirectories chains chains') : later.InDirectory chains' sector := by
  rw [Volume.InDirectory, Afatfs.congr_disk Afatfs.InRoot (fun _ => rfl) disk, Afatfs.congr_disk Afatfs.InCluster (fun _ => rfl) disk]
  refine inside.imp ?_ id
  rintro ⟨owner, isDirectory, cluster, isIn, inside⟩
  obtain ⟨owner', isDirectory', same⟩ := directories owner isDirectory
  exact ⟨owner', isDirectory', cluster, same ▸ isIn, inside⟩

/-! ## Nothing happens to the files -/

/-- The open files and the entries are as they were, and the chains are those of the same. -/
structure SameEntries (volume : Volume) (chains : Owner → List Word) (later : Volume) (chains' : Owner → List Word) :
    Prop where
  disk : later.afatfs.disk = volume.afatfs.disk
  content : later.content = volume.content
  isFile : ∀ file, (later.afatfs.files file).IsFile file → (volume.afatfs.files file).IsFile file
  files : ∀ file, (volume.afatfs.files file).IsFile file → later.afatfs.files file = volume.afatfs.files file
  chain : ∀ file, file ≠ .currentDirectory → chains' (.file file) = chains (.file file)
  entry : ∀ position, chains' (.entry position) = chains (.entry position)
  directories : SameDirectories chains chains'
  others : SameDirectories chains' chains
  unchained : ∀ file, ¬ (later.afatfs.files file).HasChain file → file ≠ .currentDirectory → chains (.file file) = []

theorem Volume.Ready.congr (ready : volume.Ready chains position) (disk : later.afatfs.disk = volume.afatfs.disk)
    (same : SameBytes position.entryIndex (volume.content position.sectorNumberPhysical)
      (later.content position.sectorNumberPhysical))
    (entry : chains' (.entry position) = chains (.entry position)) (directories : SameDirectories chains chains') :
    later.Ready chains' position := by
  obtain ⟨owner, isDirectory, isEntry, describes⟩ := ready
  rw [Volume.Ready, Afatfs.congr_disk Afatfs.link (fun _ => rfl) disk, Afatfs.congr_disk Afatfs.clusterSize (fun _ => rfl) disk,
    same.isDirectoryEntry]
  have describes' := same.describes describes
  by_cases directory : IsDirectoryEntry (volume.content position.sectorNumberPhysical) position.entryIndex
  · obtain ⟨owner', isDirectory', chain⟩ := directories owner (isDirectory directory)
    exact ⟨owner', fun _ => isDirectory', fun not => absurd directory not, chain ▸ describes'⟩
  · obtain rfl := isEntry directory
    exact ⟨.entry position, fun is => absurd is directory, fun _ => rfl, entry ▸ describes'⟩

theorem Volume.Named.congr (named : later.Named names position)
    (same : SameBytes position.entryIndex (volume.content position.sectorNumberPhysical)
      (later.content position.sectorNumberPhysical)) : volume.Named names position where
  low := named.low
  high := named.high
  used := same.terminator ▸ named.used
  named := by
    obtain ⟨filename, isName, has⟩ := named.named
    exact ⟨filename, isName, same.hasFilename ▸ has⟩

theorem SameBytes.of_eq {entryIndex : Int} {block block' : Sector} (same : block' = block) : SameBytes entryIndex block block' :=
  fun _ _ _ => by rw [same]

/-- An entry of which nothing has changed. -/
theorem EntriesOk.keepsEntry (entries : EntriesOk names volume chains) (disk : later.afatfs.disk = volume.afatfs.disk)
    (inside : volume.InDirectory chains position.sectorNumberPhysical) (named : later.Named names position)
    (same : SameBytes position.entryIndex (volume.content position.sectorNumberPhysical)
      (later.content position.sectorNumberPhysical))
    (entry : chains' (.entry position) = chains (.entry position)) (directories : SameDirectories chains chains')
    (files : ∀ file, (volume.afatfs.files file).IsFile file → (volume.afatfs.files file).directoryEntryPos = position →
      later.afatfs.files file = volume.afatfs.files file) :
    (∃ file, (later.afatfs.files file).IsFile file ∧ (later.afatfs.files file).directoryEntryPos = position) ∨
      later.Ready chains' position := by
  rcases entries.entries position inside (named.congr same) with ⟨file, isFile, here⟩ | ready
  · refine .inl ⟨file, ?_⟩
    rw [files file isFile here]
    exact ⟨isFile, here⟩
  · exact .inr (ready.congr disk same entry directories)

theorem EntriesOk.keepsRoot (entries : EntriesOk names volume chains) (disk : later.afatfs.disk = volume.afatfs.disk)
    (directories : SameDirectories chains chains') (notFat16 : later.afatfs.filesystemType ≠ .fat16) :
    ∃ owner : Owner, owner.IsDirectory ∧ later.afatfs.link later.afatfs.rootDirectoryCluster = (chains' owner).head? ∧
      (chains' owner).length * later.afatfs.clusterSize.toNat < 2 ^ 32 := by
  rw [Afatfs.congr_disk Afatfs.link (fun _ => rfl) disk, Afatfs.congr_disk (·.rootDirectoryCluster) (fun _ => rfl) disk,
    Afatfs.congr_disk Afatfs.clusterSize (fun _ => rfl) disk]
  rw [Afatfs.congr_disk (·.filesystemType) (fun _ => rfl) disk] at notFat16
  obtain ⟨owner, isDirectory, rest⟩ := entries.root notFat16
  obtain ⟨owner', isDirectory', chain⟩ := directories owner isDirectory
  exact ⟨owner', isDirectory', chain ▸ rest⟩

theorem EntriesOk.keepsFew (entries : EntriesOk names volume chains) (disk : later.afatfs.disk = volume.afatfs.disk) :
    later.afatfs.rootDirectorySectors.toNat ≤ 4096 := by
  rw [Afatfs.congr_disk (·.rootDirectorySectors) (fun _ => rfl) disk]
  exact entries.few

theorem EntriesOk.congr (entries : EntriesOk names volume chains) (same : SameEntries volume chains later chains') :
    EntriesOk names later chains' where
  filenames := entries.filenames
  entered file isFile := by
    rw [same.files file (same.isFile file isFile)]
    exact entries.entered file (same.isFile file isFile)
  apart file other isFile isFile' := by
    rw [same.files file (same.isFile file isFile), same.files other (same.isFile other isFile')]
    exact entries.apart file other (same.isFile file isFile) (same.isFile other isFile')
  records file isFile := by
    have before := same.isFile file isFile
    have record := same.files file before
    intro saved
    rw [record] at saved
    rw [same.chain file before.notCurrent]
    exact (entries.records file before saved).keeps same.disk (by rw [record]) (fun _ => by rw [same.content]) (.inl (by rw [record]))
  ordinary file isFile := by
    have before := same.isFile file isFile
    rw [same.files file before, same.content]
    exact entries.ordinary file before
  spare file unchained notCurrent := (same.chain file notCurrent).trans (same.unchained file unchained notCurrent)
  free file isFile := by
    have before := same.isFile file isFile
    rw [same.files file before, same.entry]
    exact entries.free file before
  entries position inside named :=
    entries.keepsEntry same.disk (inside.congr same.disk.symm same.others) named (.of_eq (by rw [same.content]))
      (same.entry position) same.directories fun file isFile _ => same.files file isFile
  root := entries.keepsRoot same.disk same.directories
  few := entries.keepsFew same.disk

/-- The search goes on as the rest does. -/
theorem Finding.keeps {mode : FileMode} (finding : Finding file mode filename volume chains) (ok : FilesOk later chains')
    (disk : later.afatfs.disk = volume.afatfs.disk) (own : later.afatfs.files file = volume.afatfs.files file)
    (directory : later.afatfs.files .currentDirectory = volume.afatfs.files .currentDirectory) :
    Finding file mode filename later chains' where
  ok := ok
  here := own ▸ finding.here
  sectors := directory ▸ finding.sectors
  few := by
    rw [Afatfs.congr_disk (·.rootDirectorySectors) (fun _ => rfl) disk]
    exact finding.few
  aligned := directory ▸ finding.aligned
  low := own ▸ finding.low
  high := own ▸ finding.high
  stands looked := (finding.stands (own ▸ looked)).congr disk directory

theorem SameEntries.of_files (spare : ∀ file, ¬ (volume.afatfs.files file).HasChain file → file ≠ .currentDirectory →
      chains (.file file) = [])
    (disk : later.afatfs.disk = volume.afatfs.disk) (content : later.content = volume.content)
    (files : later.afatfs.files = volume.afatfs.files) : SameEntries volume chains later chains where
  disk := disk
  content := content
  isFile file := by
    rw [files]
    exact id
  files file _ := by rw [files]
  chain _ _ := rfl
  entry _ := rfl
  directories := .refl chains
  others := .refl chains
  unchained file := by
    rw [files]
    exact spare file

/-- The cache goes on. -/
theorem SystemOk.turns (system : SystemOk names volume chains) (turns : Turns volume volume.content later) :
    SystemOk names later chains := by
  have ok := system.toFilesOk.turns turns fun _ _ => rfl
  have same : SameEntries volume chains later chains := .of_files system.spare turns.disk turns.content turns.files
  refine ⟨ok, system.toEntriesOk.congr same, ?_, ?_, ?_, ?_, ?_⟩
  · rw [turns.files]
    exact system.directory
  · rw [turns.files]
    exact system.isDirectory
  · intro file opens
    rw [turns.files] at opens
    obtain ⟨mode, filename, isName, fresh, finding⟩ := system.searches file opens
    refine ⟨mode, filename, isName, ?_, finding.keeps ok turns.disk (by rw [turns.files]) (by rw [turns.files])⟩
    rw [Volume.Fresh, turns.files, turns.content]
    exact fresh
  · rw [turns.files]
    exact system.single
  · rw [turns.files]
    exact system.calm

/-! ## What is done for an open file -/

section Works

variable (works : Works file (volume.afatfs.InFile chains' file) volume chains later chains')
  (isFile : (volume.afatfs.files file).IsFile file)

include works isFile

/-- The other entries are as they were. -/
theorem Works.sameBytes (entered : position.sectorNumberPhysical ≠ 0) (entry : EntryOk volume.afatfs chains position)
    (apart : position ≠ (volume.afatfs.files file).directoryEntryPos) :
    SameBytes position.entryIndex (volume.content position.sectorNumberPhysical)
      (later.content position.sectorNumberPhysical) :=
  fun _ low high => works.entry isFile.notCurrent entered entry (Ne.symm apart) ⟨rfl, low, high⟩

/-- The entry of the file has kept its name. -/
theorem Works.keepsName (entered : (volume.afatfs.files file).directoryEntryPos.sectorNumberPhysical ≠ 0)
    (entry : EntryOk volume.afatfs chains (volume.afatfs.files file).directoryEntryPos) :
    KeepsName (volume.afatfs.files file).directoryEntryPos.entryIndex
      (volume.content (volume.afatfs.files file).directoryEntryPos.sectorNumberPhysical)
      (later.content (volume.afatfs.files file).directoryEntryPos.sectorNumberPhysical) := by
  obtain ⟨-, outside, owned⟩ := entry.resolve_left entered
  exact works.name _ rfl outside (works.unwritten isFile.notCurrent owned)

end Works

/-- The entry of a file is still right if its bytes are as they were. -/
theorem Volume.Saved.sameBytes {chain : List Word} (saved : volume.Saved file chain)
    (disk : later.afatfs.disk = volume.afatfs.disk) (record : later.afatfs.files file = volume.afatfs.files file)
    (same : (volume.afatfs.files file).directoryEntryPos.sectorNumberPhysical ≠ 0 →
      SameBytes (volume.afatfs.files file).directoryEntryPos.entryIndex
        (volume.content (volume.afatfs.files file).directoryEntryPos.sectorNumberPhysical)
        (later.content (volume.afatfs.files file).directoryEntryPos.sectorNumberPhysical)) : later.Saved file chain := by
  rw [Volume.Saved] at saved ⊢
  rw [record, Afatfs.congr_disk Afatfs.clusterSize (fun _ => rfl) disk, Afatfs.congr_disk Afatfs.link (fun _ => rfl) disk]
  by_cases root : (volume.afatfs.files file).directoryEntryPos.sectorNumberPhysical = 0
  · exact .inl root
  · have bytes := same root
    exact saved.imp id (Or.imp bytes.isDeleted.mpr (And.imp_left bytes.describes))

/-- The chains where the chain of a file that has been closed has gone back to its entry. -/
def Volume.givesBack (file : FileRef) (chains : Owner → List Word) (volume : Volume) : Owner → List Word :=
  if (volume.afatfs.files file).HasChain file then chains
  else chains ∘ Equiv.swap (.file file) (.entry (volume.afatfs.files file).directoryEntryPos)

section GivesBack

theorem givesBack_open (chained : (volume.afatfs.files file).HasChain file) : volume.givesBack file chains = chains :=
  if_pos chained

theorem givesBack_other {owner : Owner} (notFile : owner ≠ .file file)
    (notEntry : owner ≠ .entry (volume.afatfs.files file).directoryEntryPos) :
    volume.givesBack file chains owner = chains owner := by
  rw [Volume.givesBack]
  split_ifs
  · rfl
  · exact swap_of_ne notFile notEntry

theorem givesBack_file (unchained : ¬ (volume.afatfs.files file).HasChain file) :
    volume.givesBack file chains (.file file) = chains (.entry (volume.afatfs.files file).directoryEntryPos) := by
  rw [Volume.givesBack, if_neg unchained]
  exact congrArg chains (Equiv.swap_apply_left _ _)

theorem givesBack_entry (unchained : ¬ (volume.afatfs.files file).HasChain file) :
    volume.givesBack file chains (.entry (volume.afatfs.files file).directoryEntryPos) = chains (.file file) := by
  rw [Volume.givesBack, if_neg unchained]
  exact congrArg chains (Equiv.swap_apply_right _ _)

theorem FilesOk.givesBack (ok : FilesOk volume chains) (notCurrent : file ≠ .currentDirectory) :
    FilesOk volume (volume.givesBack file chains) := by
  rw [Volume.givesBack]
  split_ifs with chained
  · exact ok
  · exact ok.swap ⟨notCurrent, chained⟩ trivial

/-- The directories have kept their chains. -/
theorem givesBack_directories (works : Works file (volume.afatfs.InFile chains' file) volume chains later chains')
    (notCurrent : file ≠ .currentDirectory) : SameDirectories chains (later.givesBack file chains') ∧
      SameDirectories (later.givesBack file chains') chains := by
  have same {owner : Owner} (isDirectory : owner.IsDirectory) : later.givesBack file chains' owner = chains owner := by
    rw [givesBack_other, (works.sameOthers notCurrent).directory isDirectory]
    · rintro rfl
      exact notCurrent isDirectory
    · rintro rfl
      exact isDirectory
  exact ⟨fun owner isDirectory => ⟨owner, isDirectory, same isDirectory⟩,
    fun owner isDirectory => ⟨owner, isDirectory, (same isDirectory).symm⟩⟩

end GivesBack

/-- The entry of an open file is where an entry may be. -/
theorem SystemOk.entryOk (system : SystemOk names volume chains) (isFile : (volume.afatfs.files file).IsFile file) :
    EntryOk volume.afatfs chains (volume.afatfs.files file).directoryEntryPos :=
  (system.isOpen file isFile.hasChain).entry isFile.opened

/-- The entry of an open file is not made that of a directory. -/
theorem Works.ordinary (works : Works file (volume.afatfs.InFile chains' file) volume chains later chains')
    (system : SystemOk names volume chains) (isFile : (volume.afatfs.files file).IsFile file) :
    IsDeleted (later.content (volume.afatfs.files file).directoryEntryPos.sectorNumberPhysical)
        (volume.afatfs.files file).directoryEntryPos.entryIndex ∨
      ¬ IsDirectoryEntry (later.content (volume.afatfs.files file).directoryEntryPos.sectorNumberPhysical)
        (volume.afatfs.files file).directoryEntryPos.entryIndex := by
  have keeps := works.keepsName isFile (system.entered file isFile) (system.entryOk isFile)
  rcases system.ordinary file isFile with deleted | ordinary
  · exact .inl (keeps.isDeleted deleted)
  · rcases keeps with same | deleted
    · refine .inr fun directory => ordinary ?_
      have attrib := same 11 (by decide)
      rwa [IsDirectoryEntry, show ((11 : Int)) = ((11 : Nat) : Int) from rfl, attrib] at directory
    · exact .inl deleted

/-- The entry of a file that is closed is one by which it can be opened again. -/
theorem Works.ready (works : Works file (volume.afatfs.InFile chains' file) volume chains later chains')
    (system : SystemOk names volume chains) (isFile : (volume.afatfs.files file).IsFile file)
    (unchained : ¬ (later.afatfs.files file).HasChain file)
    (named : later.Named names (volume.afatfs.files file).directoryEntryPos) :
    later.Ready (later.givesBack file chains') (volume.afatfs.files file).directoryEntryPos := by
  obtain ⟨filename, isName, has⟩ := named.named
  have alive := not_deleted (system.filenames filename isName) has
  have ended : (later.afatfs.files file).operation = .none := by
    refine (works.ok.idle file unchained).operation.resolve_right fun opens => ?_
    rw [works.opening, isFile.opened] at opens
    exact absurd opens.2 (by decide)
  have saved : later.Saved file (chains' (.file file)) := works.records (system.records file isFile) (by rw [ended]; rfl)
  rw [Volume.Saved] at saved
  rw [works.position] at saved
  obtain ⟨describes, -⟩ := (saved.resolve_left (system.entered file isFile)).resolve_left alive
  have ordinary := (works.ordinary system isFile).resolve_left alive
  refine ⟨.entry (volume.afatfs.files file).directoryEntryPos, fun is => absurd is ordinary, fun _ => rfl, ?_⟩
  rw [← works.position, givesBack_entry unchained, works.position]
  exact describes

/-- What is done for an open file keeps the entries. -/
theorem SystemOk.entries_works (system : SystemOk names volume chains)
    (works : Works file (volume.afatfs.InFile chains' file) volume chains later chains')
    (isFile : (volume.afatfs.files file).IsFile file) : EntriesOk names later (later.givesBack file chains') := by
  have notCurrent := isFile.notCurrent
  have position := works.position
  have before : ∀ other, (later.afatfs.files other).IsFile other → (volume.afatfs.files other).IsFile other := works.isFile isFile
  have entered := system.entered file isFile
  have differ {other : FileRef} (isFile' : (volume.afatfs.files other).IsFile other) (elsewhere : other ≠ file) :
      (volume.afatfs.files other).directoryEntryPos ≠ (volume.afatfs.files file).directoryEntryPos :=
    fun same => elsewhere (system.apart other file isFile' isFile same)
  have bytes {other : FileRef} (isFile' : (volume.afatfs.files other).IsFile other) (elsewhere : other ≠ file) :=
    works.sameBytes isFile (system.entered other isFile') (system.entryOk isFile') (differ isFile' elsewhere)
  have nothing : chains' (.entry (volume.afatfs.files file).directoryEntryPos) = [] := by
    rw [works.elsewhere _ (by simp) (by simp)]
    exact system.free file isFile
  have files {other : FileRef} (here : other ≠ file) : later.givesBack file chains' (.file other) = chains (.file other) := by
    rw [givesBack_other (by simp [here]) (by simp), works.elsewhere _ (by simp [here]) (by simp)]
  have entries {q : DirEntryPointer} (apart : q ≠ (volume.afatfs.files file).directoryEntryPos) :
      later.givesBack file chains' (.entry q) = chains (.entry q) := by
    rw [givesBack_other (by simp) (by rw [position]; simp [apart]), works.elsewhere _ (by simp) (by simp)]
  have directories := givesBack_directories works notCurrent
  -- the file itself, which gives its chain back to the entry when it is closed, and all others
  refine ⟨system.filenames, ?_, ?_, ?_, ?_, ?_, ?_, ?_, ?_, ?_⟩
  · intro other isFile'
    rw [works.positions]
    exact system.entered other (before other isFile')
  · intro one other isFile' isFile''
    rw [works.positions, works.positions]
    exact system.apart one other (before one isFile') (before other isFile'')
  · intro other isFile'
    by_cases here : other = file
    · subst here
      rw [givesBack_open isFile'.hasChain]
      exact works.records (system.records other isFile)
    · have record := works.files other here
      have isFile'' := before other isFile'
      intro saved
      rw [record] at saved
      rw [files here]
      exact (system.records other isFile'' saved).sameBytes works.disk record fun _ => bytes isFile'' here
  · intro other isFile'
    simp only
    rw [works.positions]
    by_cases here : other = file
    · subst here
      exact works.ordinary system isFile
    · have isFile'' := before other isFile'
      rw [(bytes isFile'' here).isDeleted, (bytes isFile'' here).isDirectoryEntry]
      exact system.ordinary other isFile''
  · intro other unchained notCurrent'
    by_cases here : other = file
    · subst here
      rw [givesBack_file unchained, position, nothing]
    · rw [files here]
      exact system.spare other (by rwa [works.files other here] at unchained) notCurrent'
  · intro other isFile'
    rw [works.positions]
    by_cases here : other = file
    · subst here
      rw [givesBack_open isFile'.hasChain]
      exact nothing
    · have isFile'' := before other isFile'
      rw [entries (differ isFile'' here)]
      exact system.free other isFile''
  · intro q inside named
    by_cases own : q = (volume.afatfs.files file).directoryEntryPos
    · subst own
      by_cases chained : (later.afatfs.files file).HasChain file
      · exact .inl ⟨file, chained.isFile notCurrent (works.opening.trans isFile.opened), position⟩
      · exact .inr (works.ready system isFile chained named)
    · have inside' : volume.InDirectory chains q.sectorNumberPhysical := inside.congr works.disk.symm directories.2
      have same := works.sameBytes isFile (system.inDirectory_ne_zero inside') (system.toFilesOk.entryOk named.low inside') own
      refine system.keepsEntry works.disk inside' named same (entries own) directories.1 fun other _ here => works.files other ?_
      rintro rfl
      exact own here.symm
  · exact system.keepsRoot works.disk directories.1
  · exact system.keepsFew works.disk

/-- No open file gets a name. -/
theorem Works.fresh (works : Works file (volume.afatfs.InFile chains' file) volume chains later chains')
    (system : SystemOk names volume chains) (isFile : (volume.afatfs.files file).IsFile file) (isName : names filename)
    (fresh : volume.Fresh filename) : later.Fresh filename := by
  intro other isFile'
  have before := works.isFile isFile other isFile'
  rw [works.positions, ← fresh other before]
  by_cases here : other = file
  · subst here
    by_contra differ
    have named := works.keepsName isFile (system.entered other isFile) (system.entryOk isFile)
    rw [fresh other before, Bool.not_eq_false] at differ
    have had := (named.named (system.filenames filename isName) differ).1
    rw [fresh other before] at had
    cases had
  · have apart : (volume.afatfs.files other).directoryEntryPos ≠ (volume.afatfs.files file).directoryEntryPos :=
      fun same => here (system.apart other file before isFile same)
    exact (works.sameBytes isFile (system.entered other before) (system.entryOk before) apart).hasFilename

/-- What is done for an open file keeps the invariant.  If that is closed its chain goes back to its entry. -/
theorem SystemOk.works (system : SystemOk names volume chains)
    (works : Works file (volume.afatfs.InFile chains' file) volume chains later chains')
    (isFile : (volume.afatfs.files file).IsFile file) : SystemOk names later (later.givesBack file chains') := by
  have notCurrent := isFile.notCurrent
  have directory := works.files .currentDirectory notCurrent.symm
  have ok := works.ok.givesBack notCurrent
  -- what is done to an open file opens none
  have still : ∀ other, (later.afatfs.files other).Opens → other ≠ file := by
    rintro other ⟨-, opens⟩ rfl
    rw [works.opening, isFile.opened] at opens
    cases opens
  have opens : ∀ other, (later.afatfs.files other).Opens → (volume.afatfs.files other).Opens := by
    intro other opens
    rwa [works.files other (still other opens)] at opens
  refine ⟨ok, system.entries_works works isFile, ?_, ?_, ?_, ?_, ?_⟩
  · rw [directory]
    exact system.directory
  · rw [directory]
    exact system.isDirectory
  · intro other isOpening
    obtain ⟨mode, filename, isName, fresh, finding⟩ := system.searches other (opens other isOpening)
    exact ⟨mode, filename, isName, works.fresh system isFile isName fresh,
      finding.keeps ok works.disk (works.files other (still other isOpening)) directory⟩
  · exact fun one other isOpening isOpening' => system.single one other (opens one isOpening) (opens other isOpening')
  · intro none
    rw [directory]
    refine system.calm fun other isOpening => none other ?_
    rwa [works.files other]
    rintro rfl
    rw [AfatfsFile.Opens, isFile.opened] at isOpening
    exact absurd isOpening.2 (by decide)

/-! ## What is left alone -/

/-- Steps that are about some of the files: the other open files stay open and as they were. -/
structure Passes (about : FileRef → Prop) (volume : Volume) (chains : Owner → List Word) (later : Volume)
    (chains' : Owner → List Word) : Prop where
  disk : later.afatfs.disk = volume.afatfs.disk
  rest : ∀ n, chains' (.other n) = chains (.other n)
  strays : ∀ cluster, Stray later.fatTable chains' cluster → Stray volume.fatTable chains cluster
  files : ∀ file, ¬ about file → (volume.afatfs.files file).IsOpen file →
    (later.afatfs.files file).IsOpen file ∧ Undisturbed file volume chains later chains'

theorem Passes.refl (about : FileRef → Prop) (volume : Volume) (chains : Owner → List Word) :
    Passes about volume chains volume chains :=
  ⟨rfl, fun _ => rfl, fun _ => id, fun file _ isOpen => ⟨isOpen, .refl file volume chains⟩⟩

theorem Passes.trans {about : FileRef → Prop} {between : Owner → List Word} (first : Passes about volume chains mid between)
    (second : Passes about mid between later chains') : Passes about volume chains later chains' where
  disk := second.disk.trans first.disk
  rest n := (second.rest n).trans (first.rest n)
  strays cluster stray := first.strays cluster (second.strays cluster stray)
  files file elsewhere isOpen := by
    obtain ⟨isOpen', stays⟩ := first.files file elsewhere isOpen
    obtain ⟨isOpen'', stays'⟩ := second.files file elsewhere isOpen'
    exact ⟨isOpen'', stays.trans stays'⟩

theorem Passes.mono {about about' : FileRef → Prop} (passes : Passes about volume chains later chains')
    (more : ∀ file, about file → about' file) : Passes about' volume chains later chains' :=
  { passes with files := fun file elsewhere => passes.files file (mt (more file) elsewhere) }

/-- Nothing is written, and the open files keep their chains. -/
theorem Passes.of_same (about : FileRef → Prop) (disk : later.afatfs.disk = volume.afatfs.disk)
    (content : later.content = volume.content) (rest : ∀ n, chains' (.other n) = chains (.other n))
    (strays : ∀ cluster, Stray later.fatTable chains' cluster → Stray volume.fatTable chains cluster)
    (files : ∀ file, (volume.afatfs.files file).IsFile file →
      later.afatfs.files file = volume.afatfs.files file ∧ chains' (.file file) = chains (.file file)) :
    Passes about volume chains later chains' := by
  refine ⟨disk, rest, strays, fun file _ isOpen => ?_⟩
  obtain ⟨record, chain⟩ := files file isOpen.1
  have sectors : later.afatfs.sectorOf = volume.afatfs.sectorOf := Afatfs.congr_disk Afatfs.sectorOf (fun _ => rfl) disk
  refine ⟨by rwa [record], disk, by rw [chain], by rw [record], by rw [record], fun i _ => ?_⟩
  rw [Volume.byteAt, Volume.byteAt, sectors, content, chain]

/-- The chains of a volume are all that is in use, and only their owners may change. -/
theorem stray_givesBack {cluster : Word} (stray : Stray later.fatTable (later.givesBack file chains') cluster) :
    Stray later.fatTable chains' cluster := by
  rw [Volume.givesBack] at stray
  split_ifs at stray
  · exact stray
  · exact (stray_comp _).mp stray

/-- What is done for an open file leaves the others alone. -/
theorem Works.passes (works : Works file (volume.afatfs.InFile chains' file) volume chains later chains')
    (ok : FilesOk volume chains) (isFile : (volume.afatfs.files file).IsFile file) :
    Passes (some file = some ·) volume chains later (later.givesBack file chains') where
  disk := works.disk
  rest n := by
    rw [givesBack_other (by simp) (by simp)]
    exact works.elsewhere _ (by simp) (by simp)
  strays cluster stray := works.strays cluster (stray_givesBack stray)
  files other elsewhere isOpen := by
    have apart : other ≠ file := fun same => elsewhere (by rw [same])
    have stays := works.undisturbed ok isFile apart isOpen.1.notCurrent
    have chain : later.givesBack file chains' (.file other) = chains' (.file other) := givesBack_other (by simp [apart]) (by simp)
    refine ⟨by rwa [works.files other apart], stays.disk, ?_, stays.place, stays.extent, ?_⟩
    · rw [chain]
      exact stays.grows
    · rw [chain]
      exact stays.bytes

/-! ## A small volume -/

/-- The one entry in the directory of the small volume. -/
theorem entry_smallDirectory {entryIndex : Int} (used : fatIsDirectoryEntryTerminator smallDirectory entryIndex = false) :
    entryIndex = 0 := by
  by_contra later
  rw [fatIsDirectoryEntryTerminator, decide_eq_false_iff_not, smallDirectory, directoryEntrySize] at used
  apply used
  rw [if_neg (by omega), if_neg (by omega), if_neg (by omega), if_neg (by omega)]

theorem isFile_small {file : FileRef} : (smallVolume.afatfs.files file).IsFile file ↔ file = smallFile := by
  constructor
  · intro isFile
    exact (chained_small.mp isFile.hasChain).resolve_right isFile.notCurrent
  · rintro rfl
    decide

theorem opens_small (file : FileRef) : ¬ (smallVolume.afatfs.files file).Opens := by
  by_cases chained : (smallVolume.afatfs.files file).HasChain file
  · rcases chained_small.mp chained with rfl | rfl
    · decide
    · decide
  · rw [chained_small, not_or] at chained
    rw [closed_small chained.1 chained.2]
    decide

theorem content_small : smallVolume.content 5 = smallDirectory := by
  have holds : smallVolume.writeBack.Holds ⟨1, by decide⟩ 5 := ⟨rfl, .inl rfl⟩
  exact coherent_small.content_of_holds holds

/-- The one sector of its directory. -/
theorem inDirectory_small {sector : Word} (inside : smallVolume.InDirectory smallChains sector) : sector = 5 := by
  rcases inside with ⟨owner, isDirectory, cluster, isIn, low, high⟩ | ⟨low, high⟩
  · rcases mem_small isIn with ⟨rfl, rfl⟩ | ⟨rfl, rfl⟩
    · exact absurd isDirectory (by rw [Owner.IsDirectory]; decide)
    · have start : 5 ≤ sector.toNat := low
      have ends : sector.toNat < 6 := high
      bv_omega
  · have start : 3 ≤ sector.toNat := low
    have ends : sector.toNat < 3 := high
    omega

theorem entries_small : EntriesOk IsFilename smallVolume smallChains := by
  have block : smallVolume.content (smallVolume.afatfs.files smallFile).directoryEntryPos.sectorNumberPhysical = smallDirectory :=
    content_small
  refine ⟨fun _ => id, ?_, ?_, ?_, ?_, ?_, ?_, ?_, fun notFat16 => absurd rfl notFat16, by decide⟩
  · intro file isFile
    rw [isFile_small.mp isFile]
    decide
  · intro file other isFile isFile' _
    rw [isFile_small.mp isFile, isFile_small.mp isFile']
  · intro file isFile
    rw [isFile_small.mp isFile]
    intro _
    rw [Volume.Saved, block]
    exact .inr (.inr ⟨⟨by decide, by decide, by decide⟩, by decide⟩)
  · intro file isFile
    rw [isFile_small.mp isFile]
    simp only [block]
    exact .inr (by decide)
  · intro file unchained notCurrent
    rw [chained_small, not_or] at unchained
    rw [smallChains, if_neg unchained.1, if_neg notCurrent]
  · exact fun _ _ => rfl
  · rintro ⟨sector, entryIndex⟩ inside named
    obtain rfl : sector = 5 := inDirectory_small inside
    have used := named.used
    rw [content_small] at used
    obtain rfl : entryIndex = 0 := entry_smallDirectory used
    exact .inl ⟨smallFile, isFile_small.mpr rfl, rfl⟩

/-- The invariant of the file system holds on the small volume. -/
theorem system_small : SystemOk IsFilename smallVolume smallChains :=
  ⟨filesOk_small, entries_small, .inl (chained_small.mpr (.inr rfl)), nofun, fun file opens => absurd opens (opens_small file),
    fun file _ opens => absurd opens (opens_small file), fun _ => ⟨rfl, rfl⟩⟩

end ComputerSystems.Fat
