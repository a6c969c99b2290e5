import ComputerSystems.Verified.FileEnds

/-! # Directory entries

The entry of a file has its size and its first cluster once the file is closed
(`Volume.Recorded`).  `Settles` says what becomes of a file that nothing is queued for, or
only that it is closed: it is as it was, its entry too, or it is closed now and recorded.
For this no other file may have its entry at the same place (`Volume.Enters`), as two
handles of one file would.
-/

namespace ComputerSystems.Fat

open ComputerSystems.Data Program

variable {volume later : Volume} {chains chains' : Owner → List Word} {file other : FileRef}
  {written : Word → Prop} {sector : Word} {cell : Int} {position : DirEntryPointer}

/-! ## What an entry has -/

/-- The entry of the file has its size and its first cluster. -/
def Volume.Recorded (file : FileRef) (volume : Volume) : Prop :=
  let f := volume.afatfs.files file
  let sector := volume.content f.directoryEntryPos.sectorNumberPhysical
  sector.read32 (directoryEntrySize * f.directoryEntryPos.entryIndex + 28) = f.logicalSize.toNat ∧
    entryCluster sector f.directoryEntryPos.entryIndex = f.firstCluster

theorem recorded_savedEntry (entered : (volume.afatfs.files file).directoryEntryPos.sectorNumberPhysical ≠ 0)
    (saves : (volume.afatfs.files file).savesEntry = true) (saved : later.content = volume.savedEntry file .forClose)
    (position : (later.afatfs.files file).directoryEntryPos = (volume.afatfs.files file).directoryEntryPos)
    (logical : (later.afatfs.files file).logicalSize = (volume.afatfs.files file).logicalSize)
    (first : (later.afatfs.files file).firstCluster = (volume.afatfs.files file).firstCluster) : later.Recorded file := by
  have noDirectory : (volume.afatfs.files file).type ≠ .directory := by
    have both := of_decide_eq_true saves
    exact both.1
  have size : (volume.afatfs.files file).entryFileSize .forClose = (volume.afatfs.files file).logicalSize :=
    if_neg noDirectory
  rw [Volume.Recorded, position, logical, first, saved, Volume.savedEntry]
  simp only [if_neg entered, Function.update_self]
  exact ⟨(saveEntry_size ..).trans (congrArg BitVec.toNat size), saveEntry_cluster ..⟩

/-- Two sectors that agree on an entry. -/
theorem entryCluster_congr {block block' : Sector} {entryIndex : Int}
    (same : ∀ cell, directoryEntrySize * entryIndex ≤ cell → cell < directoryEntrySize * entryIndex + directoryEntrySize →
      block' cell = block cell) :
    entryCluster block' entryIndex = entryCluster block entryIndex ∧
      block'.read32 (directoryEntrySize * entryIndex + 28) = block.read32 (directoryEntrySize * entryIndex + 28) := by
  have length : directoryEntrySize = 32 := rfl
  rw [entryCluster, entryCluster,
    Memory.read16_congr (fun cell behind below => same cell (by omega) (by omega)),
    Memory.read16_congr (fun cell behind below => same cell (by omega) (by omega)),
    Memory.read32_congr (fun cell behind below => same cell (by omega) (by omega))]
  exact ⟨rfl, rfl⟩

/-- The entry of the file is as it was. -/
def SameEntry (file : FileRef) (volume later : Volume) : Prop :=
  ∀ sector cell, (volume.afatfs.files file).directoryEntryPos.Covers sector cell →
    later.content sector cell = volume.content sector cell

theorem Volume.Recorded.same (recorded : volume.Recorded file) (record : later.afatfs.files file = volume.afatfs.files file)
    (entry : SameEntry file volume later) : later.Recorded file := by
  obtain ⟨size, first⟩ := recorded
  obtain ⟨cluster', size'⟩ := entryCluster_congr fun cell behind below => entry _ cell ⟨rfl, behind, below⟩
  rw [Volume.Recorded, record]
  exact ⟨size'.trans size, cluster'.trans first⟩

/-! ## Entries that are not written -/

/-- The chains of all but the files are as they were. -/
def SameOthers (chains chains' : Owner → List Word) : Prop :=
  ∀ owner, (∀ file, file ≠ .currentDirectory → owner ≠ .file file) → (∀ file, owner ≠ .pending file) →
    chains' owner = chains owner

theorem SameOthers.refl (chains : Owner → List Word) : SameOthers chains chains := fun _ _ _ => rfl

theorem SameOthers.trans {between : Owner → List Word} (first : SameOthers chains between)
    (second : SameOthers between chains') : SameOthers chains chains' :=
  fun owner notFile notPending => (second owner notFile notPending).trans (first owner notFile notPending)

theorem SameOthers.directory (same : SameOthers chains chains') {owner : Owner} (isDirectory : owner.IsDirectory) :
    chains' owner = chains owner := by
  apply same owner
  · rintro file notCurrent rfl
    exact notCurrent isDirectory
  · rintro file rfl
    exact isDirectory

theorem SameOthers.directories (same : SameOthers chains chains') : SameDirectories chains chains' :=
  fun owner isDirectory => ⟨owner, isDirectory, same.directory isDirectory⟩

theorem Works.sameOthers (works : Works file written volume chains later chains')
    (notCurrent : file ≠ .currentDirectory) : SameOthers chains chains' :=
  fun owner notFile notPending => works.elsewhere owner (notFile file notCurrent) (notPending file)

/-- No sector of a directory is one of the file. -/
theorem Works.unwritten (works : Works file (volume.afatfs.InFile chains' file) volume chains later chains')
    (notCurrent : file ≠ .currentDirectory)
    (owned : ∀ cluster, volume.afatfs.IsCluster cluster → volume.afatfs.InCluster cluster sector →
      ∃ owner : Owner, owner.IsDirectory ∧ cluster ∈ chains owner) : ¬ volume.afatfs.InFile chains' file sector := by
  rintro ⟨cluster, isIn, here⟩
  have same : later.afatfs.IsCluster cluster = volume.afatfs.IsCluster cluster :=
    Afatfs.congr_disk (·.IsCluster cluster) (fun _ => rfl) works.disk
  obtain ⟨owner, isDirectory, isIn'⟩ := owned cluster (same ▸ works.ok.isCluster isIn) here
  rw [← (works.sameOthers notCurrent).directory isDirectory] at isIn'
  refine works.ok.separate.disjoint (.file file) owner ?_ isIn isIn'
  rintro rfl
  exact notCurrent isDirectory

/-- What is done for a file changes no sector of a directory but for the entry of the file. -/
theorem Works.directory (works : Works file (volume.afatfs.InFile chains' file) volume chains later chains')
    (notCurrent : file ≠ .currentDirectory) (outside : ¬ volume.afatfs.InTable sector)
    (owned : ∀ cluster, volume.afatfs.IsCluster cluster → volume.afatfs.InCluster cluster sector →
      ∃ owner : Owner, owner.IsDirectory ∧ cluster ∈ chains owner)
    (apart : ¬ (volume.afatfs.files file).directoryEntryPos.Covers sector cell) :
    later.content sector cell = volume.content sector cell :=
  works.content _ _ outside apart (works.unwritten notCurrent owned)

/-- Two entries have no byte in common. -/
theorem DirEntryPointer.Covers.unique {position' : DirEntryPointer} (covers : position.Covers sector cell)
    (covers' : position'.Covers sector cell) : position = position' := by
  obtain ⟨rfl, low, high⟩ := covers
  obtain ⟨same, low', high'⟩ := covers'
  have index : position.entryIndex = position'.entryIndex := by
    rw [directoryEntrySize] at low high low' high'
    omega
  rw [DirEntryPointer.mk.injEq]
  exact ⟨same, index⟩

/-- What is done for a file does not change the entry of another one. -/
theorem Works.entry (works : Works file (volume.afatfs.InFile chains' file) volume chains later chains')
    (notCurrent : file ≠ .currentDirectory) (entered : position.sectorNumberPhysical ≠ 0)
    (entry : EntryOk volume.afatfs chains position) (apart : (volume.afatfs.files file).directoryEntryPos ≠ position)
    (covers : position.Covers sector cell) : later.content sector cell = volume.content sector cell := by
  obtain ⟨-, outside, owned⟩ := entry.resolve_left entered
  obtain rfl := covers.1
  exact works.directory notCurrent outside owned fun own => apart (own.unique covers)

/-- The file has an entry of its own. -/
structure Volume.Enters (volume : Volume) (chains : Owner → List Word) (file : FileRef) : Prop where
  entered : (volume.afatfs.files file).directoryEntryPos.sectorNumberPhysical ≠ 0
  entry : EntryOk volume.afatfs chains (volume.afatfs.files file).directoryEntryPos
  alone : ∀ other, other ≠ file → (volume.afatfs.files other).IsFile other →
    (volume.afatfs.files other).directoryEntryPos ≠ (volume.afatfs.files file).directoryEntryPos

/-- Nothing is queued for the file, or only that it is closed. -/
def AfatfsFile.Rests (f : AfatfsFile) : Prop := f.operation = .none ∨ f.operation = .close

/-- The file is as it was and its entry too, or it is closed now and recorded. -/
structure Settled (file : FileRef) (volume : Volume) (chains : Owner → List Word) (later : Volume)
    (chains' : Owner → List Word) : Prop where
  chain : chains' (.file file) = chains (.file file)
  logical : (later.afatfs.files file).logicalSize = (volume.afatfs.files file).logicalSize
  first : (later.afatfs.files file).firstCluster = (volume.afatfs.files file).firstCluster
  ends : later.afatfs.files file = volume.afatfs.files file ∧ SameEntry file volume later ∨
    (volume.afatfs.files file).operation = .close ∧ (later.afatfs.files file).operation = .none ∧
      (later.afatfs.files file).type = .none ∧ ((volume.afatfs.files file).savesEntry = true → later.Recorded file)

theorem Settled.refl (file : FileRef) (volume : Volume) (chains : Owner → List Word) :
    Settled file volume chains volume chains :=
  ⟨rfl, rfl, rfl, .inl ⟨rfl, fun _ _ _ => rfl⟩⟩

theorem Settled.rests (settled : Settled file volume chains later chains') (rests : (volume.afatfs.files file).Rests) :
    (later.afatfs.files file).Rests := by
  rcases settled.ends with ⟨record, -⟩ | ⟨-, ended, -⟩
  · rwa [record]
  · exact .inl ended

theorem Settled.trans {mid : Volume} {between : Owner → List Word} (first : Settled file volume chains mid between)
    (second : Settled file mid between later chains') : Settled file volume chains later chains' := by
  refine ⟨second.chain.trans first.chain, second.logical.trans first.logical, second.first.trans first.first, ?_⟩
  rcases first.ends with ⟨record, entry⟩ | ⟨closes, ended, free, recorded⟩
  · rcases second.ends with ⟨record', entry'⟩ | ⟨closes, ends⟩
    · refine .inl ⟨record'.trans record, fun sector cell covers => ?_⟩
      rw [entry' sector cell (by rw [record]; exact covers), entry sector cell covers]
    · rw [record] at closes ends
      exact .inr ⟨closes, ends⟩
  · rcases second.ends with ⟨record', entry'⟩ | ⟨closes', -⟩
    · refine .inr ⟨closes, by rw [record', ended], by rw [record', free], ?_⟩
      exact fun saves => (recorded saves).same record' entry'
    · rw [ended] at closes'
      cases closes'

/-- What becomes of a file, wherever it has its entry. -/
structure Settles (file : FileRef) (volume : Volume) (chains : Owner → List Word) (later : Volume)
    (chains' : Owner → List Word) : Prop where
  disk : later.afatfs.disk = volume.afatfs.disk
  rest : SameOthers chains chains'
  positions : ∀ other, (later.afatfs.files other).directoryEntryPos = (volume.afatfs.files other).directoryEntryPos
  files : ∀ other, (later.afatfs.files other).IsFile other → (volume.afatfs.files other).IsFile other
  settled : volume.Enters chains file → (volume.afatfs.files file).Rests → Settled file volume chains later chains'

theorem Settles.refl (file : FileRef) (volume : Volume) (chains : Owner → List Word) :
    Settles file volume chains volume chains :=
  ⟨rfl, .refl chains, fun _ => rfl, fun _ => id, fun _ _ => .refl file volume chains⟩

theorem Settles.enters (settles : Settles file volume chains later chains') (enters : volume.Enters chains file) :
    later.Enters chains' file where
  entered := by
    rw [settles.positions]
    exact enters.entered
  entry := by
    rw [settles.positions]
    exact enters.entry.congr settles.disk settles.rest.directories
  alone other elsewhere isFile := by
    rw [settles.positions, settles.positions]
    exact enters.alone other elsewhere (settles.files other isFile)

theorem Settles.trans {mid : Volume} {between : Owner → List Word} (first : Settles file volume chains mid between)
    (second : Settles file mid between later chains') : Settles file volume chains later chains' where
  disk := second.disk.trans first.disk
  rest := first.rest.trans second.rest
  positions other := (second.positions other).trans (first.positions other)
  files other := first.files other ∘ second.files other
  settled enters rests := by
    have before := first.settled enters rests
    exact before.trans (second.settled (first.enters enters) (before.rests rests))

theorem Works.positions (works : Works file written volume chains later chains') (other : FileRef) :
    (later.afatfs.files other).directoryEntryPos = (volume.afatfs.files other).directoryEntryPos := by
  by_cases here : other = file
  · subst here
    exact works.position
  · rw [works.files other here]

/-- No other handle becomes that of an open file. -/
theorem Works.isFile (works : Works file written volume chains later chains')
    (isFile : (volume.afatfs.files file).IsFile file) (other : FileRef)
    (isFile' : (later.afatfs.files other).IsFile other) : (volume.afatfs.files other).IsFile other := by
  by_cases here : other = file
  · rw [here]
    exact isFile
  · rwa [works.files other here] at isFile'

/-- A file settles while something is done for another one. -/
theorem Works.settles (works : Works file (volume.afatfs.InFile chains' file) volume chains later chains')
    (isFile : (volume.afatfs.files file).IsFile file) (elsewhere : other ≠ file) :
    Settles other volume chains later chains' where
  disk := works.disk
  rest := works.sameOthers isFile.notCurrent
  positions := works.positions
  files := works.isFile isFile
  settled enters _ := by
    have record := works.files other elsewhere
    refine ⟨works.elsewhere _ (by simp [elsewhere]) (by simp), by rw [record], by rw [record], .inl ⟨record, ?_⟩⟩
    intro sector cell covers
    exact works.entry isFile.notCurrent enters.entered enters.entry (enters.alone file (Ne.symm elsewhere) isFile) covers

/-- The file settles when it is closed. -/
theorem Closes.settled (closes : Closes file volume chains later)
    (closing : (volume.afatfs.files file).operation = .close) (enters : volume.Enters chains file) :
    Settled file volume chains later chains := by
  refine ⟨rfl, closes.logical, closes.first, ?_⟩
  rcases closes.ends with ⟨free, saved⟩ | ⟨record, content⟩
  · have unchained : ¬ (later.afatfs.files file).HasChain file := fun chained => chained.not_none free
    have opening := closes.opening
    rw [closing] at opening
    have ended := (closes.ok.idle file unchained).operation.resolve_right fun both => by
      rw [both.2] at opening
      cases opening
    refine .inr ⟨closing, ended, free, fun saves => ?_⟩
    exact recorded_savedEntry enters.entered saves (saved saves) closes.position closes.logical closes.first
  · exact .inl ⟨record, fun sector cell _ => by rw [content]⟩

end ComputerSystems.Fat
