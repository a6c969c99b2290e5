import ComputerSystems.Verified.ClusterChains

/-! # Open files

The invariant of the file system, `FilesOk`: the chains of all files are separate, the
cursor of every open file stands in its chain where its offset says, an operation that is
queued has got as far as its phase says, and the sectors that a file has locked are those
at its cursor.  The current directory is such a file too, unless it is the root of a FAT16
volume; other handles of directories have no chain of their own.

`Works` says what a function does on behalf of one file: the invariant is kept, the other
files and their chains are as before, and so is every sector that is not in the table, not
the file's directory entry and not written by it.
-/

namespace ComputerSystems.Fat

open ComputerSystems.Data Program

/-! ## Chains and their owners -/

/-- The handle has a chain of its own: one of an open file that is no directory, and the current directory
    where that is in clusters. -/
def AfatfsFile.HasChain (f : AfatfsFile) (file : FileRef) : Prop :=
  (f.type = .normal ∨ file = .currentDirectory ∧ f.type = .directory) ∧
    (file = .currentDirectory ∨ f.isDirectory = false)

instance AfatfsFile.decidableHasChain (f : AfatfsFile) (file : FileRef) : Decidable (f.HasChain file) :=
  inferInstanceAs (Decidable (_ ∧ _))

/-- The current directory is the root of a FAT16 volume. -/
def AfatfsFile.IsRoot (f : AfatfsFile) (file : FileRef) : Prop :=
  file = .currentDirectory ∧ f.type = .fat16RootDirectory

theorem AfatfsFile.IsFile.hasChain {f : AfatfsFile} {file : FileRef} (isFile : f.IsFile file) : f.HasChain file :=
  ⟨.inl isFile.1, .inr isFile.2.1⟩

theorem AfatfsFile.IsFile.notCurrent {f : AfatfsFile} {file : FileRef} (isFile : f.IsFile file) :
    file ≠ .currentDirectory :=
  isFile.2.2.1

theorem AfatfsFile.IsFile.opened {f : AfatfsFile} {file : FileRef} (isFile : f.IsFile file) :
    f.operation.opening = false :=
  isFile.2.2.2

/-- The handle may lock sectors. -/
def AfatfsFile.HasSectors (f : AfatfsFile) (file : FileRef) : Prop := f.HasChain file ∨ f.IsRoot file

/-- Whose a chain of clusters is. -/
inductive Owner where
  /-- Of a file that is open, or of the current directory. -/
  | file (file : FileRef)
  /-- What an operation of the file adds to it or gives back. -/
  | pending (file : FileRef)
  | directory (n : Nat)
  /-- Of a file that is not open, and has its entry there. -/
  | entry (position : DirEntryPointer)
  /-- Of anything else. -/
  | other (n : Nat)
deriving DecidableEq, Repr

/-- The chain is that of a directory. -/
def Owner.IsDirectory : Owner → Prop
  | .file handle => handle = .currentDirectory
  | .pending _ => False
  | .directory _ => True
  | .entry _ => False
  | .other _ => False

/-- The number at which the chain of an operation begins. -/
def FileOperation.pendingCluster : FileOperation → Word
  | .appendFreeCluster opState => if opState.phase = .updateFat2 then opState.searchCluster else 0
  | .truncate opState => opState.currentCluster
  | .unlink opState => opState.currentCluster
  | _ => 0

/-- Where the chains begin. -/
def Afatfs.starts (chains : Owner → List Word) (afatfs : Afatfs) : Owner → Option Word
  | .file file =>
    if (afatfs.files file).HasChain file then afatfs.link (afatfs.files file).firstCluster
    else (chains (.file file)).head?
  | .pending file => afatfs.link (afatfs.files file).operation.pendingCluster
  | .directory n => (chains (.directory n)).head?
  | .entry position => (chains (.entry position)).head?
  | .other n => (chains (.other n)).head?

noncomputable def Volume.fatTable (volume : Volume) : Table Word := volume.afatfs.fatTable volume.content

/-! ## A file and its chain -/

section Shape

variable (link : Word → Option Word) (size limit : Nat) (chain pending : List Word) (file : AfatfsFile)

/-- The cursor is in the `k`th cluster of the chain, or behind its end. -/
structure CursorAt (k : Nat) : Prop where
  bound : k ≤ chain.length
  here : link file.cursorCluster = chain[k]?
  previous : file.cursorPreviousCluster = (chain.take k).getLast?.getD 0
  low : k * size ≤ file.cursorOffset.toNat
  high : k < chain.length → file.cursorOffset.toNat < (k + 1) * size
  stop : k = chain.length → file.cursorOffset.toNat = k * size

/-- The file has no sector locked or retained. -/
def AfatfsFile.Unlocked : Prop := file.writeLockedCacheIndex = none ∧ file.readRetainCacheIndex = none

/-- Nothing is pending, and the cursor is somewhere in the chain. -/
def AtRest : Prop := pending = [] ∧ ∃ k, CursorAt link size chain file k

/-- How far an operation that appends a cluster has got. -/
def AppendOk (opState : AppendFreeCluster) : Prop :=
  match opState.phase with
  | .findFreespace =>
    pending = [] ∧ CursorAt link size chain file chain.length ∧ opState.previousCluster = file.cursorPreviousCluster ∧
      1 ≤ opState.searchCluster.toNat ∧ opState.searchCluster.toNat ≤ limit ∧ (chain.length + 1) * size < 2 ^ 32
  | .updateFat2 =>
    pending = [opState.searchCluster] ∧ chain ≠ [] ∧ link opState.searchCluster = some opState.searchCluster ∧
      file.cursorCluster = opState.searchCluster ∧ opState.previousCluster = chain.getLast?.getD 0 ∧
      file.cursorPreviousCluster = chain.getLast?.getD 0 ∧ file.cursorOffset.toNat = chain.length * size
  | .updateFileDirectory => pending = [] ∧ ∃ k < chain.length, CursorAt link size chain file k
  | .complete => pending = [] ∧ ∃ k < chain.length, CursorAt link size chain file k
  | .failure => AtRest link size chain pending file
  -- this phase is over before anything else can happen
  | .updateFat1 => False

/-- How far a truncation has got: the file has lost its chain, and what is left of that is pending. -/
def TruncateOk (opState : TruncateFile) : Prop :=
  (chain = [] ∧ CursorAt link size chain file 0) ∧
    (opState.phase = .updateDirectory ∨ opState.phase = .eraseFatChainNormal ∧ opState.currentCluster ≠ 0)

/-- A file that is being opened has no chain until its entry is found, and then that is over at once. -/
def CreateOk (opState : CreateFile) : Prop :=
  pending = [] ∧ chain = [] ∧ CursorAt link size chain file 0 ∧ opState.phase ≠ .success

/-- An operation has got as far as its phase says. -/
def OperationOk : Prop :=
  match file.operation with
  | .none => AtRest link size chain pending file
  | .createFile opState => CreateOk link size chain pending file opState ∧ file.Unlocked
  | .close => AtRest link size chain pending file
  | .seek seekOffset =>
    AtRest link size chain pending file ∧ file.Unlocked ∧
      file.cursorOffset.toNat + seekOffset.toNat ≤ chain.length * size
  | .truncate opState => TruncateOk link size chain file opState ∧ file.Unlocked
  | .unlink opState => TruncateOk link size chain file opState ∧ file.Unlocked
  | .appendFreeCluster opState => AppendOk link size limit chain pending file opState ∧ file.Unlocked

/-- The clusters that a file has besides its chain: the one that is being appended. -/
def FileOperation.appending : FileOperation → Nat
  | .appendFreeCluster opState => if opState.phase = .updateFat2 then 1 else 0
  | _ => 0

/-- The entry of the file is behind the file in the operation. -/
def FileOperation.unsaved : FileOperation → Bool
  | .createFile _ => true
  | .appendFreeCluster opState => opState.phase = .updateFileDirectory
  | .truncate opState => opState.phase = .updateDirectory
  | .unlink opState => opState.phase = .updateDirectory
  | _ => false

theorem opening_of_saved {operation : FileOperation} (saved : operation.unsaved = false) : operation.opening = false := by
  cases operation with
  | createFile opState => cases saved
  | _ => rfl

/-- What is the case of an open file apart from the cache.  Its chain may be longer than its size needs. -/
structure FileShape : Prop where
  operation : OperationOk link size limit chain pending file
  physical : file.physicalSize.toNat ≤ (chain.length + file.operation.appending) * size
  room : (chain.length + file.operation.appending) * size < 2 ^ 32
  logical : file.operation.closing = false → file.logicalSize.toNat ≤ chain.length * size
  directory : file.mode.retainDirectory = false
  inside : file.Unlocked ∨ link file.cursorCluster ≠ none

end Shape

/-! ## The invariant -/

/-- The sectors that the file has locked or retained are the one at its cursor. -/
structure LocksOk (volume : Volume) (file : FileRef) : Prop where
  write : ∀ slot, (volume.afatfs.files file).writeLockedCacheIndex = some slot →
    volume.Pins slot (volume.afatfs.fileGetCursorPhysicalSector file) ∧
      (volume.afatfs.cacheDescriptor slot).locked = true ∧ (volume.afatfs.cacheDescriptor slot).state = .dirty
  read : ∀ slot, (volume.afatfs.files file).readRetainCacheIndex = some slot →
    volume.Pins slot (volume.afatfs.fileGetCursorPhysicalSector file) ∧
      (volume.afatfs.cacheDescriptor slot).retainCount ≠ 0

/-- The directory entry is not in the table and not in a file: if it is in a cluster, in one of a
    directory. -/
def EntryOk (afatfs : Afatfs) (chains : Owner → List Word) (position : DirEntryPointer) : Prop :=
  position.sectorNumberPhysical = 0 ∨
    0 ≤ position.entryIndex ∧ ¬ afatfs.InTable position.sectorNumberPhysical ∧
      ∀ cluster, afatfs.IsCluster cluster → afatfs.InCluster cluster position.sectorNumberPhysical →
        ∃ owner : Owner, owner.IsDirectory ∧ cluster ∈ chains owner

/-- An open file. -/
structure OpenOk (volume : Volume) (chains : Owner → List Word) (file : FileRef) : Prop where
  shape : FileShape volume.afatfs.link volume.afatfs.clusterSize.toNat (volume.afatfs.numClusters.toNat + 2)
    (chains (.file file)) (chains (.pending file)) (volume.afatfs.files file)
  locks : LocksOk volume file
  entry : (volume.afatfs.files file).operation.opening = false →
    EntryOk volume.afatfs chains (volume.afatfs.files file).directoryEntryPos

/-- What is in the root directory of a FAT16 volume. -/
def Afatfs.InRoot (afatfs : Afatfs) (sector : Word) : Prop :=
  afatfs.fatStartSector.toNat + 2 * afatfs.fatSectors.toNat ≤ sector.toNat ∧
    sector.toNat < afatfs.clusterStartSector.toNat

/-- The root directory of a FAT16 volume as the current directory. -/
structure RootOk (volume : Volume) : Prop where
  locks : LocksOk volume .currentDirectory
  write : (volume.afatfs.files .currentDirectory).writeLockedCacheIndex = none
  inside : (volume.afatfs.files .currentDirectory).readRetainCacheIndex = none ∨
    volume.afatfs.InRoot (volume.afatfs.fileGetCursorPhysicalSector .currentDirectory)

/-- A record that may become that of the current directory. -/
structure HandleOk (afatfs : Afatfs) (chains : Owner → List Word) (f : AfatfsFile) : Prop where
  entry : EntryOk afatfs chains f.directoryEntryPos
  unlocked : f.Unlocked
  directory : f.mode.retainDirectory = false
  chain : f.type = .fat16RootDirectory ∨ f.type ≠ .fat16RootDirectory ∧ ∃ owner : Owner, owner.IsDirectory ∧
    afatfs.link f.firstCluster = (chains owner).head? ∧
      FileShape afatfs.link afatfs.clusterSize.toNat (afatfs.numClusters.toNat + 2) (chains owner) [] f

/-- A handle that has no chain: one that is free, or of a directory. -/
structure IdleOk (volume : Volume) (chains : Owner → List Word) (file : FileRef) : Prop where
  operation : (volume.afatfs.files file).operation = .none ∨ (volume.afatfs.files file).type = .none ∧
    (volume.afatfs.files file).operation.opening = true
  pending : chains (.pending file) = []
  handle : file ≠ .currentDirectory → (volume.afatfs.files file).type ≠ .none →
    HandleOk volume.afatfs chains (volume.afatfs.files file)
  root : (volume.afatfs.files file).IsRoot file → RootOk volume

/-- The slot is locked or retained by an open file. -/
def Volume.Writes (volume : Volume) (file : FileRef) (slot : Slot) : Prop :=
  (volume.afatfs.files file).HasChain file ∧ (volume.afatfs.files file).writeLockedCacheIndex = some slot

def Volume.Reads (volume : Volume) (file : FileRef) (slot : Slot) : Prop :=
  (volume.afatfs.files file).HasSectors file ∧ (volume.afatfs.files file).readRetainCacheIndex = some slot

/-- The invariant of the file system. -/
structure FilesOk (volume : Volume) (chains : Owner → List Word) : Prop where
  coherent : volume.Coherent
  geometry : volume.afatfs.Geometry
  reserved : volume.fatValue 1 ≠ 0
  hint : 1 ≤ volume.afatfs.lastClusterAllocated.toNat ∧
    volume.afatfs.lastClusterAllocated.toNat ≤ volume.afatfs.numClusters.toNat + 2
  separate : Separate volume.fatTable (volume.afatfs.starts chains) chains
  still : (volume.afatfs.files .currentDirectory).operation = .none
  isOpen : ∀ file, (volume.afatfs.files file).HasChain file → OpenOk volume chains file
  idle : ∀ file, ¬ (volume.afatfs.files file).HasChain file → IdleOk volume chains file
  locked : ∀ slot, (volume.afatfs.cacheDescriptor slot).locked = true → ∃ file, volume.Writes file slot
  retained : ∀ slot, (volume.afatfs.cacheDescriptor slot).retainCount ≠ 0 →
    (volume.afatfs.cacheDescriptor slot).retainCount = 1 ∧ ∃ file, volume.Reads file slot

/-! ## What stays -/

/-- What is written on the volume and does not change. -/
def Afatfs.disk (afatfs : Afatfs) : Afatfs :=
  { afatfs.outside with
    files := fun _ => {}
    lastClusterAllocated := 0
    filesystemFull := false }

section

variable {volume later : Volume} {chains chains' : Owner → List Word} {file other : FileRef}
  {slot : Slot} {content : Word → Sector} {sector cluster : Word}

theorem Afatfs.congr_disk {α : Sort*} (value : Afatfs → α) {afatfs later : Afatfs}
    (own : ∀ afatfs, value afatfs.disk = value afatfs) (same : later.disk = afatfs.disk) : value later = value afatfs := by
  rw [← own later, same, own]

theorem Turns.disk (turns : Turns volume content later) : later.afatfs.disk = volume.afatfs.disk :=
  turns.same Afatfs.disk fun _ => rfl

theorem Turns.files (turns : Turns volume content later) : later.afatfs.files = volume.afatfs.files :=
  turns.same (·.files) fun _ => rfl

theorem Afatfs.Geometry.congr_disk {afatfs later : Afatfs} (geometry : afatfs.Geometry) (same : later.disk = afatfs.disk) :
    later.Geometry := by
  obtain ⟨type, numbers, table, start, clusters, size, mask, ends⟩ := geometry
  have kept {α : Sort _} (value : Afatfs → α) (own : ∀ afatfs, value afatfs.disk = value afatfs) :
    value later = value afatfs := Afatfs.congr_disk value own same
  constructor
  · rwa [kept (·.filesystemType) fun _ => rfl]
  · rwa [kept (·.numClusters) fun _ => rfl, kept Afatfs.firstMarker fun _ => rfl]
  · rwa [kept (·.numClusters) fun _ => rfl, kept (·.fatSectors) fun _ => rfl,
      kept Afatfs.entriesPerSector fun _ => rfl]
  · rwa [kept (·.fatStartSector) fun _ => rfl]
  · rwa [kept (·.fatStartSector) fun _ => rfl, kept (·.fatSectors) fun _ => rfl,
      kept (·.rootDirectorySectors) fun _ => rfl, kept (·.clusterStartSector) fun _ => rfl]
  · rwa [kept (·.sectorsPerCluster) fun _ => rfl]
  · rwa [kept (·.byteInClusterMask) fun _ => rfl, kept (·.sectorsPerCluster) fun _ => rfl]
  · rwa [kept (·.clusterStartSector) fun _ => rfl, kept (·.numClusters) fun _ => rfl,
      kept (·.sectorsPerCluster) fun _ => rfl]

/-- The sector at the cursor of a file. -/
def Afatfs.cursorSector (afatfs : Afatfs) (file : AfatfsFile) : Word :=
  if file.type = .fat16RootDirectory then
    afatfs.fatStartSector + BitVec.ofNat 32 numFats * afatfs.fatSectors + file.cursorOffset / 512
  else afatfs.fileClusterToPhysical file.cursorCluster (afatfs.sectorIndexInCluster file.cursorOffset)

theorem fileGetCursorPhysicalSector_eq :
    volume.afatfs.fileGetCursorPhysicalSector file = volume.afatfs.cursorSector (volume.afatfs.files file) := rfl

theorem cursorSector_congr (disk : later.afatfs.disk = volume.afatfs.disk)
    (same : later.afatfs.files file = volume.afatfs.files file) :
    later.afatfs.fileGetCursorPhysicalSector file = volume.afatfs.fileGetCursorPhysicalSector file := by
  rw [fileGetCursorPhysicalSector_eq, fileGetCursorPhysicalSector_eq, same]
  exact Afatfs.congr_disk (·.cursorSector (volume.afatfs.files file)) (fun _ => rfl) disk

/-- Two records of the same kind with the same locks. -/
structure SameLocks (f f' : AfatfsFile) : Prop where
  type : f'.type = f.type
  attrib : f'.attrib = f.attrib
  write : f'.writeLockedCacheIndex = f.writeLockedCacheIndex
  read : f'.readRetainCacheIndex = f.readRetainCacheIndex

theorem AfatfsFile.HasChain.congr {f f' : AfatfsFile} (type : f'.type = f.type) (attrib : f'.attrib = f.attrib) :
    f'.HasChain file ↔ f.HasChain file := by
  rw [HasChain, HasChain, isDirectory, isDirectory, type, attrib]

/-- Two records of the same kind. -/
structure SameKind (f f' : AfatfsFile) : Prop where
  type : f'.type = f.type
  attrib : f'.attrib = f.attrib

theorem SameKind.refl (f : AfatfsFile) : SameKind f f := ⟨rfl, rfl⟩

theorem SameKind.of_eq {f f' : AfatfsFile} (same : f' = f) : SameKind f f' := same ▸ .refl f

theorem SameKind.trans {f f' f'' : AfatfsFile} (first : SameKind f f') (second : SameKind f' f'') : SameKind f f'' :=
  ⟨second.type.trans first.type, second.attrib.trans first.attrib⟩

theorem SameKind.hasChain {f f' : AfatfsFile} (kind : SameKind f f') : f'.HasChain file ↔ f.HasChain file :=
  AfatfsFile.HasChain.congr kind.type kind.attrib

theorem AfatfsFile.HasChain.not_root {f : AfatfsFile} (chained : f.HasChain file) : f.type ≠ .fat16RootDirectory := by
  rcases chained.1 with type | ⟨-, type⟩ <;> simp [type]

theorem AfatfsFile.HasChain.not_none {f : AfatfsFile} (chained : f.HasChain file) : f.type ≠ .none := by
  rcases chained.1 with type | ⟨-, type⟩ <;> simp [type]

theorem AfatfsFile.HasChain.isFile {f : AfatfsFile} (chained : f.HasChain file) (notCurrent : file ≠ .currentDirectory)
    (opened : f.operation.opening = false) : f.IsFile file :=
  ⟨chained.1.resolve_right fun directory => notCurrent directory.1, chained.2.resolve_left notCurrent, notCurrent, opened⟩

/-- A file that has kept its locks and whose cursor is in the same sector. -/
theorem LocksOk.keeps (locks : LocksOk volume file) (keeps : Keeps volume later)
    (cursor : later.afatfs.fileGetCursorPhysicalSector file = volume.afatfs.fileGetCursorPhysicalSector file)
    (same : SameLocks (volume.afatfs.files file) (later.afatfs.files file)) : LocksOk later file := by
  constructor
  · intro slot locks'
    rw [same.write] at locks'
    obtain ⟨pins, locked, dirty⟩ := locks.write slot locks'
    have kept := keeps.pins slot _ pins
    exact ⟨cursor ▸ kept, (keeps.locks slot kept.pinned).1.trans locked, keeps.dirty slot _ pins locked dirty⟩
  · intro slot retains
    rw [same.read] at retains
    obtain ⟨pins, retained⟩ := locks.read slot retains
    have kept := keeps.pins slot _ pins
    exact ⟨cursor ▸ kept, by rwa [(keeps.locks slot kept.pinned).2]⟩

theorem LocksOk.of_unlocked (unlocked : (volume.afatfs.files file).Unlocked) : LocksOk volume file where
  write slot locks := by
    rw [unlocked.1] at locks
    cases locks
  read slot retains := by
    rw [unlocked.2] at retains
    cases retains

/-- The chains of the directories are as they were, whosever they are now. -/
def SameDirectories (chains chains' : Owner → List Word) : Prop :=
  ∀ owner : Owner, owner.IsDirectory → ∃ owner' : Owner, owner'.IsDirectory ∧ chains' owner' = chains owner

theorem SameDirectories.refl (chains : Owner → List Word) : SameDirectories chains chains :=
  fun owner isDirectory => ⟨owner, isDirectory, rfl⟩

theorem EntryOk.congr {afatfs afatfs' : Afatfs} {position : DirEntryPointer} (entry : EntryOk afatfs chains position)
    (disk : afatfs'.disk = afatfs.disk) (directories : SameDirectories chains chains') :
    EntryOk afatfs' chains' position := by
  have same : EntryOk afatfs' chains position = EntryOk afatfs chains position :=
    Afatfs.congr_disk (EntryOk · chains position) (fun _ => rfl) disk
  rw [← same] at entry
  obtain root | ⟨index, outside, owned⟩ := entry
  · exact .inl root
  · refine .inr ⟨index, outside, ?_⟩
    intro cluster isCluster inside
    obtain ⟨owner, isDirectory, isIn⟩ := owned cluster isCluster inside
    obtain ⟨owner', isDirectory', same⟩ := directories owner isDirectory
    exact ⟨owner', isDirectory', same ▸ isIn⟩

theorem FileShape.congr {afatfs afatfs' : Afatfs} {chain pending : List Word} {f : AfatfsFile}
    (shape : FileShape afatfs.link afatfs.clusterSize.toNat (afatfs.numClusters.toNat + 2) chain pending f)
    (disk : afatfs'.disk = afatfs.disk) :
    FileShape afatfs'.link afatfs'.clusterSize.toNat (afatfs'.numClusters.toNat + 2) chain pending f := by
  have link : afatfs'.link = afatfs.link := Afatfs.congr_disk Afatfs.link (fun _ => rfl) disk
  have size : afatfs'.clusterSize = afatfs.clusterSize := Afatfs.congr_disk Afatfs.clusterSize (fun _ => rfl) disk
  have count : afatfs'.numClusters = afatfs.numClusters := Afatfs.congr_disk (·.numClusters) (fun _ => rfl) disk
  rwa [link, size, count]

/-- A file of which nothing has changed. -/
theorem OpenOk.keeps (isOpen : OpenOk volume chains file) (keeps : Keeps volume later)
    (disk : later.afatfs.disk = volume.afatfs.disk) (same : later.afatfs.files file = volume.afatfs.files file)
    (chain : chains' (.file file) = chains (.file file)) (pending : chains' (.pending file) = chains (.pending file))
    (directories : SameDirectories chains chains') : OpenOk later chains' file where
  shape := by
    rw [same, chain, pending]
    exact isOpen.shape.congr disk
  locks := isOpen.locks.keeps keeps (cursorSector_congr disk same) (by rw [same]; exact ⟨rfl, rfl, rfl, rfl⟩)
  entry := by
    rw [same]
    exact fun opened => (isOpen.entry opened).congr disk directories

theorem HandleOk.congr {afatfs afatfs' : Afatfs} {f : AfatfsFile} (handle : HandleOk afatfs chains f)
    (disk : afatfs'.disk = afatfs.disk) (directories : SameDirectories chains chains') : HandleOk afatfs' chains' f where
  entry := handle.entry.congr disk directories
  unlocked := handle.unlocked
  directory := handle.directory
  chain := by
    refine handle.chain.imp id fun ⟨notRoot, owner, isDirectory, first, shape⟩ => ?_
    obtain ⟨owner', isDirectory', same⟩ := directories owner isDirectory
    have link : afatfs'.link = afatfs.link := Afatfs.congr_disk Afatfs.link (fun _ => rfl) disk
    refine ⟨notRoot, owner', isDirectory', ?_, ?_⟩
    · rw [same, link]
      exact first
    · rw [same]
      exact shape.congr disk

theorem RootOk.keeps (root : RootOk volume) (keeps : Keeps volume later) (disk : later.afatfs.disk = volume.afatfs.disk)
    (same : later.afatfs.files .currentDirectory = volume.afatfs.files .currentDirectory) : RootOk later where
  locks := root.locks.keeps keeps (cursorSector_congr disk same) (by rw [same]; exact ⟨rfl, rfl, rfl, rfl⟩)
  write := by
    rw [same]
    exact root.write
  inside := by
    rw [same, cursorSector_congr disk same, Afatfs.congr_disk Afatfs.InRoot (fun _ => rfl) disk]
    exact root.inside

/-- A handle without a chain of which nothing has changed. -/
theorem IdleOk.keeps (idle : IdleOk volume chains file) (keeps : Keeps volume later)
    (disk : later.afatfs.disk = volume.afatfs.disk) (same : later.afatfs.files file = volume.afatfs.files file)
    (pending : chains' (.pending file) = chains (.pending file)) (directories : SameDirectories chains chains') :
    IdleOk later chains' file where
  operation := by
    rw [same]
    exact idle.operation
  pending := pending.trans idle.pending
  handle elsewhere used := by
    rw [same] at used ⊢
    exact (idle.handle elsewhere used).congr disk directories
  root isRoot := by
    rw [same] at isRoot
    obtain rfl := isRoot.1
    exact (idle.root isRoot).keeps keeps disk same

/-- A step on behalf of one file, by which no sector is locked or released. -/
structure Serves (file : FileRef) (volume later : Volume) : Prop where
  coherent : later.Coherent
  disk : later.afatfs.disk = volume.afatfs.disk
  files : ∀ other, other ≠ file → later.afatfs.files other = volume.afatfs.files other
  keeps : Keeps volume later
  locks : SameLocks (volume.afatfs.files file) (later.afatfs.files file)

theorem SameLocks.hasChain {f f' : AfatfsFile} (locks : SameLocks f f') : f'.HasChain file ↔ f.HasChain file :=
  AfatfsFile.HasChain.congr locks.type locks.attrib

theorem SameLocks.isRoot {f f' : AfatfsFile} (locks : SameLocks f f') : f'.IsRoot file ↔ f.IsRoot file := by
  rw [AfatfsFile.IsRoot, AfatfsFile.IsRoot, locks.type]

/-- What is done for one file is not done to a directory, but for what is done for the current one. -/
theorem sameDirectories_of
    (elsewhere : ∀ owner, owner ≠ .file file → owner ≠ .pending file → chains' owner = chains owner)
    (own : file = .currentDirectory → chains' (.file file) = chains (.file file)) : SameDirectories chains chains' := by
  intro owner isDirectory
  refine ⟨owner, isDirectory, ?_⟩
  by_cases here : owner = .file file
  · subst here
    exact own isDirectory
  · refine elsewhere owner here ?_
    rintro rfl
    exact isDirectory

/-- The current directory is never busy. -/
theorem FilesOk.elsewhere_of_busy (ok : FilesOk volume chains) (busy : (volume.afatfs.files file).operation ≠ .none) :
    file ≠ .currentDirectory := by
  rintro rfl
  exact busy ok.still

/-- The invariant after such a step, if what belongs to the file is in order. -/
theorem FilesOk.serves (ok : FilesOk volume chains) (serves : Serves file volume later)
    (elsewhere : ∀ owner, owner ≠ .file file → owner ≠ .pending file → chains' owner = chains owner)
    (own : file = .currentDirectory →
      chains' (.file file) = chains (.file file) ∧ (later.afatfs.files file).operation = .none)
    (reserved : later.fatValue 1 ≠ 0)
    (hint : 1 ≤ later.afatfs.lastClusterAllocated.toNat ∧
      later.afatfs.lastClusterAllocated.toNat ≤ later.afatfs.numClusters.toNat + 2)
    (separate : Separate later.fatTable (later.afatfs.starts chains') chains')
    (isOpen : (later.afatfs.files file).HasChain file → OpenOk later chains' file)
    (idle : ¬ (later.afatfs.files file).HasChain file → IdleOk later chains' file) : FilesOk later chains' where
  coherent := serves.coherent
  geometry := ok.geometry.congr_disk serves.disk
  reserved := reserved
  hint := hint
  separate := separate
  still := by
    by_cases here : .currentDirectory = file
    · subst here
      exact (own rfl).2
    · rw [serves.files _ here]
      exact ok.still
  isOpen other chained := by
    by_cases here : other = file
    · subst here
      exact isOpen chained
    · have same := serves.files other here
      rw [same] at chained
      exact (ok.isOpen other chained).keeps serves.keeps serves.disk same (elsewhere _ (by simp [here]) (by simp))
        (elsewhere _ (by simp) (by simp [here])) (sameDirectories_of elsewhere fun isCurrent => (own isCurrent).1)
  idle other unchained := by
    by_cases here : other = file
    · subst here
      exact idle unchained
    · have same := serves.files other here
      rw [same] at unchained
      exact (ok.idle other unchained).keeps serves.keeps serves.disk same (elsewhere _ (by simp) (by simp [here]))
        (sameDirectories_of elsewhere fun isCurrent => (own isCurrent).1)
  locked slot locked := by
    have before := (serves.keeps.locks slot (.inl locked)).1
    obtain ⟨other, writes⟩ := ok.locked slot (before ▸ locked)
    refine ⟨other, ?_⟩
    by_cases here : other = file
    · subst here
      rwa [Volume.Writes, serves.locks.hasChain, serves.locks.write]
    · rwa [Volume.Writes, serves.files other here]
  retained slot retained := by
    have before := (serves.keeps.locks slot (.inr retained)).2
    rw [before] at retained ⊢
    obtain ⟨once, other, reads⟩ := ok.retained slot retained
    refine ⟨once, other, ?_⟩
    by_cases here : other = file
    · subst here
      rwa [Volume.Reads, AfatfsFile.HasSectors, serves.locks.hasChain, serves.locks.isRoot, serves.locks.read]
    · rwa [Volume.Reads, serves.files other here]

/-- Two states between which nothing of the cache has changed. -/
structure SameCache (volume later : Volume) : Prop where
  descriptors : later.afatfs.cacheDescriptor = volume.afatfs.cacheDescriptor
  cache : later.afatfs.cache = volume.afatfs.cache
  entries : later.afatfs.cacheDirtyEntries = volume.afatfs.cacheDirtyEntries
  flushing : later.afatfs.cacheFlushInProgress = volume.afatfs.cacheFlushInProgress
  store : later.store = volume.store
  flight : later.flight = volume.flight

theorem SameCache.writeBack (same : SameCache volume later) : later.writeBack = volume.writeBack := by
  rw [Volume.writeBack, Volume.writeBack, same.descriptors, same.cache, same.store, same.flight]

theorem SameCache.same_content (same : SameCache volume later) : later.content = volume.content := by
  rw [Volume.content, Volume.content, same.writeBack]

theorem SameCache.coherent (same : SameCache volume later) (coherent : volume.Coherent) : later.Coherent where
  sound := same.writeBack ▸ coherent.sound
  balance := by
    rw [Volume.balance, same.entries, same.writeBack]
    exact coherent.balance
  flushing := by
    rw [Volume.FlushOk, same.flushing, same.flight]
    exact coherent.flushing

theorem SameCache.keeps (same : SameCache volume later) : Keeps volume later where
  pins slot sector pins := ⟨same.writeBack ▸ pins.holds, by rw [same.descriptors]; exact pins.pinned⟩
  dirty slot sector _ _ dirty := by rwa [same.descriptors]
  locks slot _ := by simp only [same.descriptors, and_self]

/-- The cache goes on, and then the file's record and the variables of the file system are changed. -/
theorem Turns.serves {mid : Volume} (turns : Turns volume content mid) (same : SameCache mid later)
    (disk : later.afatfs.disk = mid.afatfs.disk)
    (files : ∀ other, other ≠ file → later.afatfs.files other = mid.afatfs.files other)
    (locks : SameLocks (mid.afatfs.files file) (later.afatfs.files file)) : Serves file volume later where
  coherent := same.coherent turns.coherent
  disk := disk.trans turns.disk
  files other elsewhere := (files other elsewhere).trans (congrFun turns.files other)
  keeps := turns.keeps.trans same.keeps
  locks := by rwa [turns.files] at locks

theorem Serves.trans {mid : Volume} (first : Serves file volume mid) (second : Serves file mid later) :
    Serves file volume later where
  coherent := second.coherent
  disk := second.disk.trans first.disk
  files other elsewhere := (second.files other elsewhere).trans (first.files other elsewhere)
  keeps := first.keeps.trans second.keeps
  locks := ⟨second.locks.type.trans first.locks.type, second.locks.attrib.trans first.locks.attrib,
    second.locks.write.trans first.locks.write, second.locks.read.trans first.locks.read⟩

/-- The record of the file is changed, and the cache is not. -/
theorem SameCache.serves (same : SameCache volume later) (coherent : volume.Coherent)
    (disk : later.afatfs.disk = volume.afatfs.disk)
    (files : ∀ other, other ≠ file → later.afatfs.files other = volume.afatfs.files other)
    (locks : SameLocks (volume.afatfs.files file) (later.afatfs.files file)) : Serves file volume later :=
  (Turns.refl coherent).serves same disk files locks

/-- The table depends on nothing but its sectors. -/
theorem fatTable_congr (geometry : volume.afatfs.Geometry) (disk : later.afatfs.disk = volume.afatfs.disk)
    (agree : ∀ sector, volume.afatfs.InTable sector → later.content sector = volume.content sector) :
    later.fatTable = volume.fatTable := by
  have same : later.afatfs.fatTable later.content = volume.afatfs.fatTable later.content :=
    Afatfs.congr_disk (·.fatTable later.content) (fun _ => rfl) disk
  rw [Volume.fatTable, same]
  exact geometry.fatTable_congr agree

theorem fatValue_congr (geometry : volume.afatfs.Geometry) (disk : later.afatfs.disk = volume.afatfs.disk)
    (agree : ∀ sector, volume.afatfs.InTable sector → later.content sector = volume.content sector)
    (below : cluster.toNat < volume.afatfs.numClusters.toNat + 2) : later.fatValue cluster = volume.fatValue cluster := by
  have same : later.afatfs.fatValue later.content cluster = volume.afatfs.fatValue later.content cluster :=
    Afatfs.congr_disk (·.fatValue later.content cluster) (fun _ => rfl) disk
  rw [Volume.fatValue, same]
  exact geometry.fatValue_congr agree below

/-- The cache goes on, and no entry of the table is changed. -/
theorem FilesOk.turns (ok : FilesOk volume chains) (turns : Turns volume content later)
    (agree : ∀ sector, volume.afatfs.InTable sector → content sector = volume.content sector) :
    FilesOk later chains := by
  have same : ∀ sector, volume.afatfs.InTable sector → later.content sector = volume.content sector := by
    rw [turns.content]
    exact agree
  have disk := turns.disk
  have files := turns.files
  have count := turns.same (·.numClusters) fun _ => rfl
  have serves : Serves .currentDirectory volume later :=
    turns.serves ⟨rfl, rfl, rfl, rfl, rfl, rfl⟩ rfl (fun _ _ => rfl) ⟨rfl, rfl, rfl, rfl⟩
  refine ok.serves serves (fun _ _ _ => rfl) (fun _ => ⟨rfl, by rw [files]; exact ok.still⟩) ?_ ?_ ?_ ?_ ?_
  · rw [fatValue_congr ok.geometry disk same (by rw [show BitVec.toNat (1 : Word) = 1 from rfl]; omega)]
    exact ok.reserved
  · rw [turns.same (·.lastClusterAllocated) fun _ => rfl, count]
    exact ok.hint
  · rw [fatTable_congr ok.geometry disk same, turns.same (Afatfs.starts chains) fun _ => rfl]
    exact ok.separate
  · intro chained
    rw [files] at chained
    exact (ok.isOpen _ chained).keeps turns.keeps disk (congrFun files _) rfl rfl (.refl chains)
  · intro unchained
    rw [files] at unchained
    exact (ok.idle _ unchained).keeps turns.keeps disk (congrFun files _) rfl (.refl chains)

/-! ## What a function does for a file -/

namespace Afatfs

variable {afatfs : Afatfs} {change : AfatfsFile → AfatfsFile}

@[simp] theorem updateFile_self : (afatfs.updateFile file change).files file = change (afatfs.files file) := by
  simp [updateFile]

theorem updateFile_other (elsewhere : other ≠ file) :
    (afatfs.updateFile file change).files other = afatfs.files other := by
  simp [updateFile, elsewhere]

theorem updateFile_congr {change' : AfatfsFile → AfatfsFile}
    (same : change (afatfs.files file) = change' (afatfs.files file)) :
    afatfs.updateFile file change = afatfs.updateFile file change' := by
  rw [updateFile, updateFile, same]

theorem updateFile_updateFile {change' : AfatfsFile → AfatfsFile} :
    (afatfs.updateFile file change).updateFile file change' = afatfs.updateFile file (change' ∘ change) := by
  simp [updateFile]

/-- Where the chains begin once the record of a file has changed. -/
theorem starts_eq {later : Afatfs} (disk : later.disk = afatfs.disk)
    (files : ∀ other, other ≠ file → later.files other = afatfs.files other)
    (elsewhere : ∀ owner, owner ≠ .file file → owner ≠ .pending file → chains' owner = chains owner)
    (chained : (later.files file).HasChain file) : later.starts chains' =
    Function.update (Function.update (afatfs.starts chains) (.file file) (afatfs.link (later.files file).firstCluster))
      (.pending file) (afatfs.link (later.files file).operation.pendingCluster) := by
  have link : later.link = afatfs.link := congr_disk Afatfs.link (fun _ => rfl) disk
  funext owner
  cases owner with
  | file other =>
    rw [Function.update_of_ne (by simp)]
    by_cases here : other = file
    · subst here
      rw [Function.update_self, starts, link, if_pos chained]
    · rw [Function.update_of_ne (by simp [here]), starts, starts, files other here, link,
        elsewhere _ (by simp [here]) (by simp)]
  | pending other =>
    by_cases here : other = file
    · subst here
      rw [Function.update_self, starts, link]
    · rw [Function.update_of_ne (by simp [here]), Function.update_of_ne (by simp), starts, starts, files other here, link]
  | directory n =>
    rw [Function.update_of_ne (by simp), Function.update_of_ne (by simp), starts, starts, elsewhere _ (by simp) (by simp)]
  | entry position =>
    rw [Function.update_of_ne (by simp), Function.update_of_ne (by simp), starts, starts, elsewhere _ (by simp) (by simp)]
  | other n =>
    rw [Function.update_of_ne (by simp), Function.update_of_ne (by simp), starts, starts, elsewhere _ (by simp) (by simp)]

/-- They begin where they did if the file's own two do. -/
theorem starts_same {later : Afatfs} (disk : later.disk = afatfs.disk)
    (files : ∀ other, other ≠ file → later.files other = afatfs.files other)
    (chained : (later.files file).HasChain file ↔ (afatfs.files file).HasChain file)
    (first : afatfs.link (later.files file).firstCluster = afatfs.link (afatfs.files file).firstCluster)
    (pending : afatfs.link (later.files file).operation.pendingCluster =
      afatfs.link (afatfs.files file).operation.pendingCluster) : later.starts chains = afatfs.starts chains := by
  have link : later.link = afatfs.link := congr_disk Afatfs.link (fun _ => rfl) disk
  funext owner
  cases owner with
  | file other =>
    by_cases here : other = file
    · subst here
      rw [starts, starts, link, first]
      simp only [chained]
    · rw [starts, starts, files other here, link]
  | pending other =>
    by_cases here : other = file
    · subst here
      rw [starts, starts, link, pending]
    · rw [starts, starts, files other here, link]
  | directory n => rfl
  | entry position => rfl
  | other n => rfl

end Afatfs

theorem serves_updateFile {change : AfatfsFile → AfatfsFile} (coherent : volume.Coherent)
    (locks : SameLocks (volume.afatfs.files file) (change (volume.afatfs.files file))) :
    Serves file volume { volume with afatfs := volume.afatfs.updateFile file change } :=
  SameCache.serves ⟨rfl, rfl, rfl, rfl, rfl, rfl⟩ coherent rfl (fun _ elsewhere => Afatfs.updateFile_other elsewhere)
    (Afatfs.updateFile_self ▸ locks)

theorem Turns.toServes (turns : Turns volume content later) : Serves file volume later :=
  turns.serves ⟨rfl, rfl, rfl, rfl, rfl, rfl⟩ rfl (fun _ _ => rfl) ⟨rfl, rfl, rfl, rfl⟩

/-- The bytes of a directory entry. -/
def DirEntryPointer.Covers (position : DirEntryPointer) (sector : Word) (cell : Int) : Prop :=
  sector = position.sectorNumberPhysical ∧ directoryEntrySize * position.entryIndex ≤ cell ∧
    cell < directoryEntrySize * position.entryIndex + directoryEntrySize

/-- An entry is marked as deleted. -/
def IsDeleted (block : Sector) (entryIndex : Int) : Prop := block (directoryEntrySize * entryIndex) = 0xE5

/-- Where the chain of a file begins according to its entry. -/
def entryCluster (block : Sector) (entryIndex : Int) : Word :=
  let entry := directoryEntrySize * entryIndex
  BitVec.ofNat 32 (block.read16 (entry + 20)) <<< 16 ||| BitVec.ofNat 32 (block.read16 (entry + 26))

/-- An entry fits to a chain of clusters, which may be longer than the size needs. -/
structure Describes (link : Word → Option Word) (size : Nat) (block : Sector) (entryIndex : Int) (chain : List Word) :
    Prop where
  first : link (entryCluster block entryIndex) = chain.head?
  fits : block.read32 (directoryEntrySize * entryIndex + 28) ≤ chain.length * size
  room : chain.length * size < 2 ^ 32

/-- The entry of the file fits to its chain, if it has one and is not deleted. -/
def Volume.Saved (volume : Volume) (file : FileRef) (chain : List Word) : Prop :=
  let f := volume.afatfs.files file
  let position := f.directoryEntryPos
  let block := volume.content position.sectorNumberPhysical
  position.sectorNumberPhysical = 0 ∨ IsDeleted block position.entryIndex ∨
    Describes volume.afatfs.link volume.afatfs.clusterSize.toNat block position.entryIndex chain ∧
      f.logicalSize.toNat ≤ chain.length * volume.afatfs.clusterSize.toNat

/-- The entry of the file is as it should be while the operation of the file is where it is. -/
def Volume.Records (volume : Volume) (chains : Owner → List Word) (file : FileRef) : Prop :=
  (volume.afatfs.files file).operation.unsaved = false → volume.Saved file (chains (.file file))

/-- The entry has the name and the attributes that it had, or is marked as deleted. -/
def KeepsName (entryIndex : Int) (block later : Sector) : Prop :=
  (∀ i : Nat, i ≤ filenameLength → later (directoryEntrySize * entryIndex + i) = block (directoryEntrySize * entryIndex + i)) ∨
    IsDeleted later entryIndex

theorem KeepsName.refl (entryIndex : Int) (block : Sector) : KeepsName entryIndex block block := .inl fun _ _ => rfl

theorem KeepsName.isDeleted {entryIndex : Int} {block later : Sector} (keeps : KeepsName entryIndex block later)
    (deleted : IsDeleted block entryIndex) : IsDeleted later entryIndex := by
  rcases keeps with same | deleted'
  · have start := same 0 (Nat.zero_le _)
    rw [IsDeleted] at deleted ⊢
    simpa [deleted] using start
  · exact deleted'

theorem KeepsName.trans {entryIndex : Int} {block mid later : Sector} (first : KeepsName entryIndex block mid)
    (second : KeepsName entryIndex mid later) : KeepsName entryIndex block later := by
  rcases second with same | deleted
  · rcases first with same' | deleted
    · exact .inl fun i inside => (same i inside).trans (same' i inside)
    · exact .inr (KeepsName.isDeleted (.inl same) deleted)
  · exact .inr deleted

/-- The entry of a file is still right if neither the entry nor the chain has changed. -/
theorem Volume.Saved.keeps {chain : List Word} (saved : volume.Saved file chain)
    (disk : later.afatfs.disk = volume.afatfs.disk)
    (position : (later.afatfs.files file).directoryEntryPos = (volume.afatfs.files file).directoryEntryPos)
    (content : (volume.afatfs.files file).directoryEntryPos.sectorNumberPhysical ≠ 0 →
      later.content (volume.afatfs.files file).directoryEntryPos.sectorNumberPhysical =
        volume.content (volume.afatfs.files file).directoryEntryPos.sectorNumberPhysical)
    (logical : (later.afatfs.files file).logicalSize = (volume.afatfs.files file).logicalSize ∨
      (later.afatfs.files file).logicalSize.toNat ≤ chain.length * volume.afatfs.clusterSize.toNat) :
    later.Saved file chain := by
  have size : later.afatfs.clusterSize = volume.afatfs.clusterSize :=
    Afatfs.congr_disk Afatfs.clusterSize (fun _ => rfl) disk
  rw [Volume.Saved] at saved ⊢
  rw [position, size, Afatfs.congr_disk Afatfs.link (fun _ => rfl) disk]
  by_cases root : (volume.afatfs.files file).directoryEntryPos.sectorNumberPhysical = 0
  · exact .inl root
  · rw [content root]
    refine saved.imp id (Or.imp id fun ⟨describes, fits⟩ => ⟨describes, ?_⟩)
    rcases logical with same | fits'
    · rwa [same]
    · exact fits'

/-- What is done on behalf of one file: the invariant is kept, and nothing else on the volume has changed
    but for the table, the entry of the file, without its name, and the sectors that are written. -/
structure Works (file : FileRef) (written : Word → Prop) (volume : Volume)
    (chains : Owner → List Word) (later : Volume) (chains' : Owner → List Word) : Prop where
  ok : FilesOk later chains'
  disk : later.afatfs.disk = volume.afatfs.disk
  files : ∀ other, other ≠ file → later.afatfs.files other = volume.afatfs.files other
  elsewhere : ∀ owner, owner ≠ .file file → owner ≠ .pending file → chains' owner = chains owner
  position : (later.afatfs.files file).directoryEntryPos = (volume.afatfs.files file).directoryEntryPos
  mode : (later.afatfs.files file).mode = (volume.afatfs.files file).mode
  opening : (later.afatfs.files file).operation.opening = (volume.afatfs.files file).operation.opening
  content : ∀ sector cell, ¬ volume.afatfs.InTable sector →
    ¬ (volume.afatfs.files file).directoryEntryPos.Covers sector cell → ¬ written sector →
      later.content sector cell = volume.content sector cell
  name : ∀ sector, sector = (volume.afatfs.files file).directoryEntryPos.sectorNumberPhysical →
    ¬ volume.afatfs.InTable sector → ¬ written sector →
      KeepsName (volume.afatfs.files file).directoryEntryPos.entryIndex (volume.content sector) (later.content sector)
  records : volume.Records chains file → later.Records chains' file
  strays : ∀ cluster, Stray later.fatTable chains' cluster → Stray volume.fatTable chains cluster

namespace Works

variable {written : Word → Prop} {mid : Volume} {between : Owner → List Word}

theorem refl (ok : FilesOk volume chains) : Works file written volume chains volume chains :=
  ⟨ok, rfl, fun _ _ => rfl, fun _ _ _ => rfl, rfl, rfl, rfl, fun _ _ _ _ _ => rfl, fun _ _ _ _ => .refl _ _, id, fun _ => id⟩

theorem trans (first : Works file written volume chains mid between)
    (second : Works file written mid between later chains') : Works file written volume chains later chains' where
  ok := second.ok
  disk := second.disk.trans first.disk
  files other elsewhere := (second.files other elsewhere).trans (first.files other elsewhere)
  elsewhere owner notFile notPending := (second.elsewhere owner notFile notPending).trans (first.elsewhere owner notFile notPending)
  position := second.position.trans first.position
  mode := second.mode.trans first.mode
  opening := second.opening.trans first.opening
  content sector cell outside notEntry unwritten := by
    have table : mid.afatfs.InTable sector = volume.afatfs.InTable sector :=
      Afatfs.congr_disk (·.InTable sector) (fun _ => rfl) first.disk
    rw [second.content sector cell (table ▸ outside) (first.position ▸ notEntry) unwritten]
    exact first.content sector cell outside notEntry unwritten
  name sector here outside unwritten := by
    have table : mid.afatfs.InTable sector = volume.afatfs.InTable sector :=
      Afatfs.congr_disk (·.InTable sector) (fun _ => rfl) first.disk
    apply (first.name sector here outside unwritten).trans
    rw [← first.position]
    exact second.name sector (first.position ▸ here) (table ▸ outside) unwritten
  records := second.records ∘ first.records
  strays cluster stray := first.strays cluster (second.strays cluster stray)

theorem mono {written' : Word → Prop} (works : Works file written volume chains later chains')
    (more : ∀ sector, written sector → written' sector) : Works file written' volume chains later chains' :=
  { works with
    content := fun sector cell outside notEntry unwritten =>
      works.content sector cell outside notEntry (mt (more sector) unwritten)
    name := fun sector here outside unwritten => works.name sector here outside (mt (more sector) unwritten) }

end Works

/-- A file without locks is in order if its record is. -/
theorem OpenOk.of_unlocked
    (shape : FileShape volume.afatfs.link volume.afatfs.clusterSize.toNat (volume.afatfs.numClusters.toNat + 2)
      (chains (.file file)) (chains (.pending file)) (volume.afatfs.files file))
    (unlocked : (volume.afatfs.files file).Unlocked)
    (entry : (volume.afatfs.files file).operation.opening = false →
      EntryOk volume.afatfs chains (volume.afatfs.files file).directoryEntryPos) : OpenOk volume chains file :=
  ⟨shape, .of_unlocked unlocked, entry⟩

end

/-! ## A small volume -/

/-- Besides the file there is the directory. -/
def smallChains : Owner → List Word
  | .file file => if file = smallFile then [2] else if file = .currentDirectory then [4] else []
  | _ => []

/-- The entries of the small volume. -/
theorem fatValue_small {cluster : Word} (isIn : cluster ∈ [(1 : Word), 2, 3, 4, 5]) :
    smallVolume.fatValue cluster = smallVolume.afatfs.readFatEntry smallTable cluster := by
  have holds : smallVolume.writeBack.Holds ⟨2, by decide⟩ 1 := ⟨rfl, .inl rfl⟩
  have place : smallVolume.afatfs.fatSector cluster = 1 ∧ smallVolume.afatfs.fatSectorEntryIndex cluster = cluster := by
    simp only [List.mem_cons, List.not_mem_nil, or_false] at isIn
    rcases isIn with rfl | rfl | rfl | rfl | rfl <;> exact ⟨rfl, rfl⟩
  rw [Volume.fatValue, Afatfs.fatValue, place.1, place.2, coherent_small.content_of_holds holds]
  rfl

theorem fatTable_small {cluster : Word} : smallVolume.fatTable cluster =
    if cluster = 2 ∨ cluster = 4 then some none else none := by
  have entry {cluster : Word} (isIn : cluster ∈ [(1 : Word), 2, 3, 4, 5]) :
      smallVolume.afatfs.fatValue smallVolume.content cluster = _ := fatValue_small isIn
  rw [Volume.fatTable, Afatfs.fatTable]
  by_cases isCluster : smallVolume.afatfs.IsCluster cluster
  · rw [if_pos isCluster]
    obtain ⟨low, high⟩ : 2 ≤ cluster.toNat ∧ cluster.toNat < 6 := isCluster
    have oneOf : cluster = 2 ∨ cluster = 3 ∨ cluster = 4 ∨ cluster = 5 := by bv_omega
    rcases oneOf with rfl | rfl | rfl | rfl
    · rw [entry (by decide)]
      decide
    · rw [entry (by decide)]
      decide
    · rw [entry (by decide)]
      decide
    · rw [entry (by decide)]
      decide
  · rw [if_neg isCluster, if_neg]
    rintro (rfl | rfl)
    · exact isCluster (by decide)
    · exact isCluster (by decide)

theorem next_small (cluster : Word) : smallVolume.fatTable.next cluster = none := by
  rw [Table.next, fatTable_small]
  split_ifs
  · rfl
  · rfl

theorem closed_small {file : FileRef} (elsewhere : file ≠ smallFile) (notDirectory : file ≠ .currentDirectory) :
    smallVolume.afatfs.files file = {} :=
  (if_neg elsewhere).trans (if_neg notDirectory)

theorem chained_small {file : FileRef} :
    (smallVolume.afatfs.files file).HasChain file ↔ file = smallFile ∨ file = .currentDirectory := by
  by_cases here : file = smallFile
  · subst here
    decide
  · by_cases directory : file = .currentDirectory
    · subst directory
      decide
    · rw [closed_small here directory]
      simp [AfatfsFile.HasChain, here, directory]

theorem threads_small (cluster : Word) (used : cluster = 2 ∨ cluster = 4) :
    Threads smallVolume.fatTable (some cluster) [cluster] := by
  refine ⟨⟨rfl, next_small cluster⟩, ?_⟩
  intro node isIn
  rw [List.mem_singleton.mp isIn, fatTable_small, if_pos used]
  exact Option.some_ne_none none

/-- The chains of the small volume. -/
theorem mem_small {owner : Owner} {cluster : Word} (isIn : cluster ∈ smallChains owner) :
    cluster = 2 ∧ owner = .file smallFile ∨ cluster = 4 ∧ owner = .file .currentDirectory := by
  rcases owner with file | file | n | position | n
  · rw [smallChains] at isIn
    split_ifs at isIn with here directory
    · exact .inl ⟨List.mem_singleton.mp isIn, by rw [here]⟩
    · exact .inr ⟨List.mem_singleton.mp isIn, by rw [directory]⟩
    · cases isIn
  · cases isIn
  · cases isIn
  · cases isIn
  · cases isIn

theorem separate_small : Separate smallVolume.fatTable (smallVolume.afatfs.starts smallChains) smallChains := by
  constructor
  · rintro (file | file | n | position | n)
    · by_cases here : file = smallFile
      · subst here
        exact threads_small 2 (.inl rfl)
      · by_cases directory : file = .currentDirectory
        · subst directory
          exact threads_small 4 (.inr rfl)
        · rw [Afatfs.starts, if_neg (by simp [chained_small, here, directory]), smallChains, if_neg here, if_neg directory]
          exact .nil _
    · by_cases here : file = smallFile
      · subst here
        exact .nil _
      · by_cases directory : file = .currentDirectory
        · subst directory
          exact .nil _
        · rw [Afatfs.starts, closed_small here directory]
          exact .nil _
    · exact .nil _
    · exact .nil _
    · exact .nil _
  · intro owner other different cluster isIn isIn'
    rcases mem_small isIn with ⟨rfl, rfl⟩ | ⟨rfl, rfl⟩
    · rcases mem_small isIn' with ⟨-, rfl⟩ | ⟨four, -⟩
      · exact different rfl
      · exact absurd four (by decide)
    · rcases mem_small isIn' with ⟨two, -⟩ | ⟨-, rfl⟩
      · exact absurd two (by decide)
      · exact different rfl

theorem entry_small : EntryOk smallVolume.afatfs smallChains { sectorNumberPhysical := 5 } := by
  have isFour : smallVolume.afatfs.IsCluster 4 := ⟨by decide, by decide⟩
  have inside : smallVolume.afatfs.InCluster 4 5 := ⟨by decide, by decide⟩
  refine .inr ⟨by decide, geometry_small.not_inTable inside, ?_⟩
  intro cluster isCluster inside'
  obtain rfl := geometry_small.inCluster_unique isCluster isFour inside' inside
  exact ⟨.file .currentDirectory, rfl, List.mem_singleton.mpr rfl⟩

theorem openOk_small : OpenOk smallVolume smallChains smallFile := by
  refine ⟨⟨⟨rfl, 0, ?_⟩, by decide, by decide, fun _ => by decide, rfl, .inr (by decide)⟩, ⟨?_, by rintro _ ⟨⟩⟩,
    fun _ => entry_small⟩
  · exact ⟨by decide, rfl, rfl, by decide, fun _ => by decide, by decide⟩
  · rintro slot same
    obtain rfl : firstSlot = slot := Option.some.inj same
    exact ⟨⟨⟨rfl, .inr (.inr rfl)⟩, .inl rfl⟩, rfl, rfl⟩

theorem openOk_smallDirectory : OpenOk smallVolume smallChains .currentDirectory := by
  refine ⟨⟨⟨rfl, 0, ?_⟩, by decide, by decide, fun _ => by decide, rfl, .inl ⟨rfl, rfl⟩⟩,
    .of_unlocked ⟨rfl, rfl⟩, fun _ => .inl rfl⟩
  exact ⟨by decide, rfl, rfl, by decide, fun _ => by decide, by decide⟩

theorem filesOk_small : FilesOk smallVolume smallChains := by
  refine ⟨coherent_small, geometry_small, ?_, by decide, separate_small, rfl, ?_, ?_, ?_, ?_⟩
  · rw [fatValue_small (by decide)]
    decide
  · intro file chained
    rcases chained_small.mp chained with rfl | rfl
    · exact openOk_small
    · exact openOk_smallDirectory
  · intro file unchained
    rw [chained_small, not_or] at unchained
    have closed := closed_small unchained.1 unchained.2
    refine ⟨.inl (by rw [closed]), ?_, fun _ used => absurd (by rw [closed]) used, ?_⟩
    · rfl
    · rintro ⟨rfl, -⟩
      exact absurd rfl unchained.2
  · intro slot locked
    have isFirst : slot = firstSlot := by
      revert slot
      decide
    exact ⟨smallFile, chained_small.mpr (.inl rfl), by rw [isFirst]; rfl⟩
  · intro slot retained
    exact absurd (by revert slot; decide) retained

end ComputerSystems.Fat
