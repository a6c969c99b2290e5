import ComputerSystems.Verified.FileRuns

/-! # A volume that is mounted

Where the runs of the file system begin: no file is open, what is on the volume is as it
should be (`Formatted`), and `afatfs_chdir(NULL)` has made the root directory the current
one (`Mounted`).  The invariant holds there (`Mounted.system`), and so in every state that is
reached from there.
-/

namespace ComputerSystems.Fat

open ComputerSystems.Data ComputerSystems.System Program

variable {volume later : Volume} {chains chains' : Owner → List Word} {file : FileRef} {names : List UInt8 → Prop}

/-- A volume on which no file is open: every chain in its table is that of one owner, and the entries that files are
    opened by fit to the chains. -/
structure Formatted (names : List UInt8 → Prop) (volume : Volume) (chains : Owner → List Word) : Prop where
  coherent : volume.Coherent
  geometry : volume.afatfs.Geometry
  reserved : volume.fatValue 1 ≠ 0
  hint : 1 ≤ volume.afatfs.lastClusterAllocated.toNat ∧
    volume.afatfs.lastClusterAllocated.toNat ≤ volume.afatfs.numClusters.toNat + 2
  unlocked : ∀ slot, (volume.afatfs.cacheDescriptor slot).locked = false ∧ (volume.afatfs.cacheDescriptor slot).retainCount = 0
  closed : ∀ i, (volume.afatfs.files (.openFile i)).type = .none ∧ (volume.afatfs.files (.openFile i)).operation = .none
  separate : Separate volume.fatTable (fun owner => (chains owner).head?) chains
  nothing : ∀ i, chains (.file (.openFile i)) = []
  pending : ∀ file, chains (.pending file) = []
  root : volume.afatfs.filesystemType ≠ .fat16 →
    volume.afatfs.link volume.afatfs.rootDirectoryCluster = (chains (.file .currentDirectory)).head? ∧
      (chains (.file .currentDirectory)).length * volume.afatfs.clusterSize.toNat < 2 ^ 32
  few : volume.afatfs.rootDirectorySectors.toNat ≤ 4096
  filenames : ∀ filename, names filename → IsFilename filename
  entries : ∀ position, volume.InDirectory chains position.sectorNumberPhysical → volume.Named names position →
    volume.Ready chains position

/-- A volume as it is when it has been mounted: the root directory is the current one. -/
structure Mounted (names : List UInt8 → Prop) (volume : Volume) (chains : Owner → List Word) : Prop
    extends Formatted names volume chains where
  directory : volume.afatfs.files .currentDirectory = volume.afatfs.rootDirectory.toStart

/-- `afatfs_chdir(NULL)`, which `afatfs_initContinue` ends with, mounts the volume. -/
theorem wp_chdir_mounts (formatted : Formatted names volume chains)
    (idle : (volume.afatfs.files .currentDirectory).operation = .none) :
    Wp (chdir none) (fun done later => done = true ∧ Mounted names later chains) volume := by
  rw [chdir, wp_get_bind]
  simp only [AfatfsFile.isBusy, idle, ne_eq, not_true_eq_false, decide_false, Bool.false_eq_true, if_false]
  rw [wp_modifyFile_bind]
  apply Wp.bind
  apply (wp_seekStart (by rw [withRecord_file]; exact ⟨rfl, rfl⟩)).mono
  rintro _ later rfl
  refine (wp_pure _).mpr ⟨rfl, ?_⟩
  rw [withRecord_withRecord, withRecord_file]
  -- only the handle of the current directory has changed
  have cache : SameCache volume (volume.withRecord .currentDirectory volume.afatfs.rootDirectory.toStart) :=
    ⟨rfl, rfl, rfl, rfl, rfl, rfl⟩
  refine ⟨{ formatted with coherent := cache.coherent formatted.coherent, geometry := formatted.geometry.congr_disk rfl,
                           closed := fun i => ?_, entries := fun position inside named => ?_ }, withRecord_file⟩
  · have elsewhere : FileRef.openFile i ≠ .currentDirectory := by rintro ⟨⟩
    rw [withRecord_other elsewhere]
    exact formatted.closed i
  · exact formatted.entries position inside (named.congr (.of_eq rfl))

namespace Mounted

theorem isOpen (mounted : Mounted names volume chains) (chained : (volume.afatfs.files file).HasChain file) :
    file = .currentDirectory ∧ volume.afatfs.filesystemType ≠ .fat16 := by
  cases file with
  | openFile i => exact absurd (mounted.closed i).1 chained.not_none
  | currentDirectory =>
    refine ⟨rfl, fun fat16 => chained.not_root ?_⟩
    rw [mounted.directory]
    exact if_pos fat16

theorem idle (mounted : Mounted names volume chains) (file : FileRef) : (volume.afatfs.files file).operation = .none := by
  cases file with
  | openFile i => exact (mounted.closed i).2
  | currentDirectory =>
    rw [mounted.directory]
    rfl

theorem free (mounted : Mounted names volume chains) : (volume.afatfs.files .currentDirectory).Unlocked := by
  rw [mounted.directory]
  exact ⟨rfl, rfl⟩

theorem not_isFile (mounted : Mounted names volume chains) (isFile : (volume.afatfs.files file).IsFile file) : False :=
  isFile.notCurrent (mounted.isOpen isFile.hasChain).1

theorem starts (mounted : Mounted names volume chains) (owner : Owner) :
    volume.afatfs.starts chains owner = (chains owner).head? := by
  cases owner with
  | file file =>
    rw [Afatfs.starts]
    split_ifs with chained
    · obtain ⟨rfl, notFat16⟩ := mounted.isOpen chained
      rw [mounted.directory]
      exact (mounted.root notFat16).1
    · rfl
  | pending file =>
    rw [Afatfs.starts, mounted.idle, mounted.pending]
    rfl
  | _ => rfl

/-- The root directory as the current one. -/
theorem directoryOk (mounted : Mounted names volume chains) (notFat16 : volume.afatfs.filesystemType ≠ .fat16) :
    OpenOk volume chains .currentDirectory := by
  obtain ⟨first, room⟩ := mounted.root notFat16
  refine .of_unlocked ?_ mounted.free fun _ => ?_
  · rw [mounted.pending, mounted.directory]
    exact .of_start mounted.geometry.clusterSize_pos first rfl rfl rfl rfl (Nat.zero_le _) room (Nat.zero_le _) rfl ⟨rfl, rfl⟩
  · rw [mounted.directory]
    exact .inl rfl

theorem filesOk (mounted : Mounted names volume chains) : FilesOk volume chains := by
  have starts : volume.afatfs.starts chains = fun owner => (chains owner).head? := funext mounted.starts
  refine ⟨mounted.coherent, mounted.geometry, mounted.reserved, mounted.hint, ?_, mounted.idle _, fun file chained => ?_,
    fun file unchained => ?_, fun slot locked => ?_, fun slot retained => absurd (mounted.unlocked slot).2 retained⟩
  · rw [starts]
    exact mounted.separate
  · obtain ⟨rfl, notFat16⟩ := mounted.isOpen chained
    exact mounted.directoryOk notFat16
  · refine ⟨.inl (mounted.idle file), mounted.pending file, fun notCurrent used => absurd ?_ used, ?_⟩
    · cases file with
      | openFile i => exact (mounted.closed i).1
      | currentDirectory => exact absurd rfl notCurrent
    · rintro ⟨rfl, -⟩
      exact ⟨.of_unlocked mounted.free, mounted.free.1, .inl mounted.free.2⟩
  · rw [(mounted.unlocked slot).1] at locked
    cases locked

/-- The invariant of the file system holds when it has been mounted. -/
theorem system (mounted : Mounted names volume chains) : SystemOk names volume chains := by
  have closed (file : FileRef) : ¬ (volume.afatfs.files file).IsFile file := fun isFile => mounted.not_isFile isFile
  have still (file : FileRef) : ¬ (volume.afatfs.files file).Opens := by
    intro opens
    have opening := opens.2
    rw [mounted.idle] at opening
    cases opening
  have entries : EntriesOk names volume chains := by
    refine ⟨mounted.filenames, fun file isFile => absurd isFile (closed file), fun file _ isFile => absurd isFile (closed file),
      fun file isFile => absurd isFile (closed file), fun file isFile => absurd isFile (closed file), fun file _ notCurrent => ?_,
      fun file isFile => absurd isFile (closed file), fun position inside named => .inr (mounted.entries position inside named),
      fun notFat16 => ⟨.file .currentDirectory, rfl, mounted.root notFat16⟩, mounted.few⟩
    cases file with
    | openFile i => exact mounted.nothing i
    | currentDirectory => exact absurd rfl notCurrent
  have type : (volume.afatfs.files .currentDirectory).type =
      if volume.afatfs.filesystemType = .fat16 then .fat16RootDirectory else .directory := by
    rw [mounted.directory]
    rfl
  refine ⟨mounted.filesOk, entries, ?_, ?_, fun file opens => absurd opens (still file),
    fun file _ opens => absurd opens (still file), fun _ => mounted.free⟩
  · by_cases fat16 : volume.afatfs.filesystemType = .fat16
    · exact .inr ⟨rfl, by rw [type, if_pos fat16]⟩
    · exact .inl ⟨.inr ⟨rfl, by rw [type, if_neg fat16]⟩, .inl rfl⟩
  · rw [type]
    split_ifs <;> nofun

end Mounted

/-! ## A small volume -/

/-- The table of the mounted volume: the clusters 2 and 4 end chains. -/
def mountedTable : Sector := fun cell => if 4 ≤ cell ∧ cell < 12 ∨ 16 ≤ cell ∧ cell < 20 then 0xFF else 0

/-- A FAT32 volume with four clusters of one sector; the root directory is in cluster 4, with one file. -/
def mountedVolume : Volume where
  afatfs := { Afatfs.zeroed.init with
    filesystemType := .fat32
    filesystemState := .ready
    files := fun file =>
      if file = .currentDirectory then
        { type := .directory, mode := { read := true, write := true }, attrib := 0x10, firstCluster := 4, cursorCluster := 4 }
      else Afatfs.zeroed.files file
    fatStartSector := 1
    fatSectors := 1
    numClusters := 4
    clusterStartSector := 3
    sectorsPerCluster := 1
    byteInClusterMask := 511
    rootDirectoryCluster := 4 }
  store := fun sector => if sector = 1 then mountedTable else if sector = 5 then smallDirectory else fun _ => 0
  flight := none

def mountedChains : Owner → List Word
  | .file file => if file = .currentDirectory then [4] else []
  | .entry position => if position = { sectorNumberPhysical := 5 } then [2] else []
  | _ => []

@[simp] theorem phase_mounted (slot : Slot) : mountedVolume.writeBack.phase slot = .empty := rfl

theorem content_mounted (sector : Word) : mountedVolume.content sector = mountedVolume.store sector :=
  WriteBack.content_of_free fun slot holds => by simp [WriteBack.Holds, Phase.Valid] at holds

theorem coherent_mounted : mountedVolume.Coherent where
  sound := by
    constructor
    · simp
    · simp
    · simp
    · simp
    · rintro flight ⟨⟩
    · rintro flight ⟨⟩
  balance := by
    have clean : mountedVolume.writeBack.dirtyCount = 0 := WriteBack.dirtyCount_eq_zero.mpr (by simp)
    rw [Volume.balance, clean]
    rfl
  flushing := rfl

theorem geometry_mounted : mountedVolume.afatfs.Geometry :=
  ⟨.inr rfl, by decide, by decide, by decide, by decide, ⟨0, by decide, by decide⟩, by decide, by decide⟩

theorem fatValue_mounted {cluster : Word} (isIn : cluster ∈ [(1 : Word), 2, 3, 4, 5]) :
    mountedVolume.fatValue cluster = mountedVolume.afatfs.readFatEntry mountedTable cluster := by
  have place : mountedVolume.afatfs.fatSector cluster = 1 ∧ mountedVolume.afatfs.fatSectorEntryIndex cluster = cluster := by
    simp only [List.mem_cons, List.not_mem_nil, or_false] at isIn
    rcases isIn with rfl | rfl | rfl | rfl | rfl <;> exact ⟨rfl, rfl⟩
  rw [Volume.fatValue, Afatfs.fatValue, place.1, place.2, content_mounted]
  rfl

theorem fatTable_mounted {cluster : Word} (used : cluster = 2 ∨ cluster = 4) : mountedVolume.fatTable cluster = some none := by
  have entry {cluster : Word} (isIn : cluster ∈ [(1 : Word), 2, 3, 4, 5]) :
      mountedVolume.afatfs.fatValue mountedVolume.content cluster = _ := fatValue_mounted isIn
  rw [Volume.fatTable, Afatfs.fatTable]
  rcases used with rfl | rfl
  · rw [if_pos (by decide), entry (by decide)]
    decide
  · rw [if_pos (by decide), entry (by decide)]
    decide

theorem threads_mounted {cluster : Word} (used : cluster = 2 ∨ cluster = 4) :
    Threads mountedVolume.fatTable (some cluster) [cluster] := by
  have entry : mountedVolume.fatTable cluster = some none := fatTable_mounted used
  refine ⟨⟨rfl, by rw [Table.next, entry]; rfl⟩, ?_⟩
  intro node isIn
  rw [List.mem_singleton.mp isIn, entry]
  exact Option.some_ne_none none

theorem mem_mounted {owner : Owner} {cluster : Word} (isIn : cluster ∈ mountedChains owner) :
    cluster = 4 ∧ owner = .file .currentDirectory ∨ cluster = 2 ∧ owner = .entry { sectorNumberPhysical := 5 } := by
  rcases owner with file | file | n | position | n
  · rw [mountedChains] at isIn
    split_ifs at isIn with directory
    · exact .inl ⟨List.mem_singleton.mp isIn, by rw [directory]⟩
    · cases isIn
  · cases isIn
  · cases isIn
  · rw [mountedChains] at isIn
    split_ifs at isIn with here
    · exact .inr ⟨List.mem_singleton.mp isIn, by rw [here]⟩
    · cases isIn
  · cases isIn

theorem separate_mounted : Separate mountedVolume.fatTable (fun owner => (mountedChains owner).head?) mountedChains := by
  constructor
  · intro owner
    rcases chain : mountedChains owner with _ | ⟨cluster, rest⟩
    · exact .nil _
    · have isIn : cluster ∈ mountedChains owner := chain ▸ List.mem_cons_self
      rcases mem_mounted isIn with ⟨rfl, rfl⟩ | ⟨rfl, rfl⟩
      · cases chain
        exact threads_mounted (.inr rfl)
      · cases chain
        exact threads_mounted (.inl rfl)
  · intro owner other different cluster isIn isIn'
    rcases mem_mounted isIn with ⟨rfl, rfl⟩ | ⟨rfl, rfl⟩
    · rcases mem_mounted isIn' with ⟨-, rfl⟩ | ⟨two, -⟩
      · exact different rfl
      · exact absurd two (by decide)
    · rcases mem_mounted isIn' with ⟨four, -⟩ | ⟨-, rfl⟩
      · exact absurd four (by decide)
      · exact different rfl

/-- The one sector of a directory. -/
theorem inDirectory_mounted {sector : Word} (inside : mountedVolume.InDirectory mountedChains sector) : sector = 5 := by
  rcases inside with ⟨owner, isDirectory, cluster, isIn, low, high⟩ | ⟨low, high⟩
  · rcases mem_mounted isIn with ⟨rfl, rfl⟩ | ⟨rfl, rfl⟩
    · have start : 5 ≤ sector.toNat := low
      have ends : sector.toNat < 6 := high
      bv_omega
    · exact isDirectory.elim
  · have start : 3 ≤ sector.toNat := low
    have ends : sector.toNat < 3 := high
    omega

theorem mounted_small : Mounted IsFilename mountedVolume mountedChains := by
  refine ⟨⟨coherent_mounted, geometry_mounted, ?_, by decide, by decide, by decide, separate_mounted, fun _ => rfl, fun _ => rfl,
    fun _ => ⟨by decide, by decide⟩, by decide, fun _ => id, fun position inside named => ?_⟩, rfl⟩
  · rw [fatValue_mounted (by decide)]
    decide
  · obtain ⟨sector, entryIndex⟩ := position
    obtain rfl : sector = 5 := inDirectory_mounted inside
    have block : mountedVolume.content 5 = smallDirectory := (content_mounted 5).trans rfl
    have used := named.used
    rw [block] at used
    obtain rfl : entryIndex = 0 := entry_smallDirectory used
    rw [Volume.Ready]
    simp only [block]
    exact ⟨.entry { sectorNumberPhysical := 5 }, fun directory => absurd directory (by decide), fun _ => rfl,
      by decide, by decide, by decide⟩

end ComputerSystems.Fat
