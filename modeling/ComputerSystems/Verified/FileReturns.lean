import ComputerSystems.Data.Draws
import ComputerSystems.Verified.FileContents

/-! # Operations return

Every operation on a file asks the card so many things at most, wherever it begins, so that
it comes back if the card answers that often: it neither faults nor loops where the invariant
of the file system holds.
-/

namespace ComputerSystems.Fat

open ComputerSystems.Data ComputerSystems.System Program

variable {volume later : Volume} {chains : Owner → List Word} {names : List UInt8 → Prop} {file : FileRef} {n : Nat}
  {events : List (FileEvent × List CardAnswer)} {event : FileEvent}

/-! ## The cache -/

theorem draws_get : Draws n get := fun _ draws => Nat.le_add_right draws.length n

theorem draws_modify (change : Afatfs → Afatfs) : Draws n (modify change) := .update _

theorem draws_modifyFile (change : AfatfsFile → AfatfsFile) : Draws n (modifyFile file change) := draws_modify _

theorem draws_setOperation (operation : FileOperation) : Draws n (setOperation file operation) := draws_modifyFile _

theorem draws_assert (condition : Bool) : Draws n (afatfsAssert condition) := by
  rw [afatfsAssert]
  split_ifs
  · exact .after (draws_modify _) fun _ => .pure _
  · exact .pure _

theorem draws_sdcardReadBlock (blockIndex : Word) (buffer : Slot) : Draws 1 (sdcardReadBlock blockIndex buffer) := by
  refine .bind .draw fun answer => .after .state fun volume => ?_
  split_ifs
  · exact .after (.update _) fun _ => .pure _
  · exact .pure _

theorem draws_sdcardWriteBlock (blockIndex : Word) (buffer : Slot) : Draws 1 (sdcardWriteBlock blockIndex buffer) := by
  refine .bind .draw fun answer => .after .state fun volume => ?_
  split_ifs
  · exact .pure _
  · split
    · exact .after (.update _) fun _ => .pure _
    · exact .pure _
    · exact .after (.update _) fun _ => .pure _
    · exact .after (.update _) fun _ => .pure _

theorem draws_cacheFlushSector (cacheIndex : Slot) : Draws 1 (cacheFlushSector cacheIndex) := by
  refine .after draws_get fun afatfs => .bind (draws_sdcardWriteBlock _ _) fun status => ?_
  cases status with
  | inProgress => exact draws_modify _
  | success => exact draws_modify _
  | busy => exact .pure _
  | failure => exact .pure _

theorem draws_flush : Draws 1 flush := by
  refine .after draws_get fun afatfs => ?_
  split_ifs
  · split
    · exact .bind (draws_cacheFlushSector _) fun _ => .pure _
    · exact .pure _
  · exact .pure _

theorem draws_allocateCacheSector (sectorIndex : Word) : Draws n (allocateCacheSector sectorIndex) := by
  refine .after draws_get fun afatfs => .after (draws_assert _) fun holds => ?_
  split_ifs
  · exact .pure _
  · split
    · exact .after (draws_modify _) fun _ => .pure _
    · split
      · exact .after (draws_modify _) fun _ => .pure _
      · exact .pure _

theorem draws_cacheSectorSuccess (slot : Slot) (flags : CacheFlags) : Draws n (cacheSectorSuccess slot flags) := by
  rw [cacheSectorSuccess]
  split_ifs
  · exact .after (draws_modify _) fun _ => .after (draws_modify _) fun _ => .pure _
  · exact .after (draws_modify _) fun _ => .pure _
  · exact .after (draws_modify _) fun _ => .pure _
  · exact .pure _

theorem draws_markDirtyFor (slot : Slot) (flags : CacheFlags) : Draws n (markDirtyFor slot flags) := by
  rw [markDirtyFor]
  split_ifs
  · exact draws_modify _
  · exact .pure _

theorem draws_cacheSector (sector : Word) (flags : CacheFlags) : Draws 1 (cacheSector sector flags) := by
  refine .after (draws_assert _) fun holds => ?_
  split_ifs
  · exact .pure _
  refine .after (draws_allocateCacheSector _) fun allocated => ?_
  cases allocated with
  | none => exact .pure _
  | some slot =>
    refine .after draws_get fun afatfs => ?_
    split
    · exact .pure _
    · split_ifs
      · exact .bind (draws_sdcardReadBlock _ _) fun starts => .after (draws_modify _) fun _ => .pure _
      · exact .after (draws_modify _) fun _ => .after (draws_markDirtyFor _ _) fun _ => draws_cacheSectorSuccess _ _
    · exact .after (draws_markDirtyFor _ _) fun _ => draws_cacheSectorSuccess _ _
    · exact .after (draws_markDirtyFor _ _) fun _ => draws_cacheSectorSuccess _ _
    · exact draws_cacheSectorSuccess _ _

/-! ## The table -/

theorem draws_fatGetNextCluster (fatIndex : Nat) (cluster : Word) : Draws 1 (fatGetNextCluster fatIndex cluster) := by
  refine .after draws_get fun afatfs => .bind (draws_cacheSector _ _) fun result => ?_
  obtain ⟨status, found⟩ := result
  dsimp only
  split
  · exact .after draws_get fun _ => .pure _
  · exact .pure _

theorem draws_fatSetNextCluster (startCluster nextCluster : Word) : Draws 1 (fatSetNextCluster startCluster nextCluster) := by
  refine .after (draws_assert _) fun holds => ?_
  split_ifs
  · exact .pure _
  · refine .after draws_get fun afatfs => .bind (draws_cacheSector _ _) fun result => ?_
    obtain ⟨status, found⟩ := result
    dsimp only
    split
    · exact .after (draws_modify _) fun _ => .pure _
    · exact .pure _

theorem draws_searchPass (lookingForFree : Bool) (jump searchLimit : Word) (search : ClusterSearch) :
    Draws 1 (searchPass lookingForFree jump searchLimit search) := by
  rw [searchPass]
  split_ifs
  · refine .after draws_get fun afatfs => .bind (draws_cacheSector _ _) fun result => ?_
    obtain ⟨status, found⟩ := result
    dsimp only
    split
    · refine .after draws_get fun afatfs => ?_
      split_ifs
      · split
        · exact .pure _
        · exact .pure _
      · exact .pure _
    · exact .pure _
    · exact .pure _
  · exact .pure _

/-- A search looks at each cluster once at most. -/
theorem draws_findClusterWithCondition (condition : ClusterSearchCondition) (cluster searchLimit : Word) :
    Draws (2 ^ 32) (findClusterWithCondition condition cluster searchLimit) := by
  have search (lookingForFree : Bool) (jump : Word) (search : ClusterSearch) :
      Draws (2 ^ 32) (repeated (searchPass lookingForFree jump searchLimit) (searchLimit.toNat + 1) search) :=
    (Draws.repeated (draws_searchPass lookingForFree jump searchLimit) _ search).mono (by bv_omega)
  refine .after draws_get fun afatfs => ?_
  cases condition with
  | freeAtBeginningOfFatSector =>
    refine .after (draws_assert _) fun holds => ?_
    split_ifs
    · exact .pure _
    · exact search _ _ _
  | free => exact search _ _ _
  | occupied => exact search _ _ _

/-! ## Files -/

theorem draws_saveDirectoryEntry (mode : SaveDirectoryEntryMode) : Draws 1 (saveDirectoryEntry file mode) := by
  refine .after draws_get fun afatfs => ?_
  dsimp only
  split_ifs
  · exact .pure _
  · refine .bind (draws_cacheSector _ _) fun result => ?_
    obtain ⟨status, found⟩ := result
    dsimp only
    split
    · refine .after (draws_assert _) fun holds => ?_
      split_ifs
      · exact .pure _
      · exact .after (draws_modify _) fun _ => .pure _
    · exact .pure _

theorem draws_appendPhase (opState : AppendFreeCluster) : Draws (2 ^ 32) (appendPhase file opState) := by
  have goesOn (opState : AppendFreeCluster) : Draws 0 (goOnAppending file opState) :=
    .after (draws_setOperation _) fun _ => .pure _
  have waits (opState : AppendFreeCluster) : Draws 0 (waitAppending file opState) :=
    .after (draws_setOperation _) fun _ => .pure _
  -- the first phase looks through the table, and the others access one sector each
  rw [appendPhase]
  split
  · refine .after draws_get fun afatfs => .before (draws_findClusterWithCondition _ _ _) fun result => ?_
    obtain ⟨status, found⟩ := result
    dsimp only
    split
    · exact .after (draws_modify _) fun _ => goesOn _
    · exact goesOn _
    · exact goesOn _
    · exact waits _
  · refine (Draws.bind (draws_fatSetNextCluster _ _) fun status => ?_).mono (show 0 + 1 ≤ 2 ^ 32 by decide)
    split
    · exact goesOn _
    · exact waits _
  · refine (Draws.bind (draws_fatSetNextCluster _ _) fun status => ?_).mono (show 0 + 1 ≤ 2 ^ 32 by decide)
    split
    · exact goesOn _
    · exact waits _
  · refine (Draws.bind (draws_saveDirectoryEntry _) fun status => ?_).mono (show 0 + 1 ≤ 2 ^ 32 by decide)
    split
    · exact goesOn _
    · exact waits _
  · exact .after (draws_setOperation _) fun _ => .pure _
  · exact .after (draws_setOperation _) fun _ => .after (draws_modify _) fun _ => .pure _

theorem draws_appendRegularFreeClusterContinue (opState : AppendFreeCluster) :
    Draws (7 * 2 ^ 32) (appendRegularFreeClusterContinue file opState) :=
  .repeated draws_appendPhase 7 opState

theorem draws_appendRegularFreeCluster : Draws (7 * 2 ^ 32) (appendRegularFreeCluster file) := by
  refine .after draws_get fun afatfs => ?_
  split
  · exact .pure _
  · split_ifs
    · exact .pure _
    · exact .after (draws_setOperation _) fun _ => draws_appendRegularFreeClusterContinue _

theorem draws_fileRetainCursorSectorForRead : Draws 1 (fileRetainCursorSectorForRead file) := by
  refine .after draws_get fun afatfs => ?_
  split
  · refine .after (draws_assert _) fun holds => ?_
    split_ifs
    · exact .pure _
    · exact .pure _
  · split_ifs
    · exact .pure _
    · refine .after draws_get fun afatfs => .after (draws_assert _) fun _ => .bind (draws_cacheSector _ _) fun result => ?_
      obtain ⟨status, found⟩ := result
      dsimp only
      split
      · exact .after (draws_modifyFile _) fun _ => .pure _
      · exact .pure _

theorem draws_extendAtEnd : Draws (7 * 2 ^ 32) (extendAtEnd file) := by
  refine .after draws_get fun afatfs => ?_
  split_ifs
  · exact .before draws_appendRegularFreeCluster fun status => .pure _
  · exact .pure _

theorem draws_lockCursorSector : Draws 1 (lockCursorSector file) := by
  refine .after draws_get fun afatfs => .bind (draws_cacheSector _ _) fun result => ?_
  obtain ⟨status, found⟩ := result
  dsimp only
  split
  · exact .after (draws_modifyFile _) fun _ => .pure _
  · exact .pure _

theorem draws_fileLockCursorSectorForWrite : Draws (1 + 7 * 2 ^ 32) (fileLockCursorSectorForWrite file) := by
  refine .after draws_get fun afatfs => ?_
  split
  · refine .after (draws_assert _) fun holds => ?_
    split_ifs
    · exact .pure _
    · exact .pure _
  · refine .bind draws_extendAtEnd fun extended => ?_
    split_ifs
    · exact .pure _
    · exact draws_lockCursorSector

/-! ## Seeking -/

theorem draws_seekInCluster (offset : Word) : Draws n (seekInCluster file offset) := draws_modify _

theorem draws_fseekAtomic (offset : Word) : Draws 1 (fseekAtomic file offset) := by
  refine .after draws_get fun afatfs => ?_
  split_ifs
  · exact .after (draws_modifyFile _) fun _ => .pure _
  refine .after (draws_modify _) fun _ => .after draws_get fun afatfs => ?_
  dsimp only
  split_ifs
  · exact .after (draws_modifyFile _) fun _ => .pure _
  · exact .pure _
  · refine .bind (draws_fatGetNextCluster _ _) fun result => ?_
    obtain ⟨status, found⟩ := result
    split
    · exact .after (draws_modifyFile _) fun _ => .after (draws_seekInCluster _) fun _ => .pure _
    · exact .pure _
  · exact .after (draws_seekInCluster _) fun _ => .pure _

theorem draws_seekPass (loop : SeekLoop) : Draws 1 (seekPass file loop) := by
  refine .after draws_get fun afatfs => ?_
  split_ifs
  · refine .bind (draws_fatGetNextCluster _ _) fun result => ?_
    obtain ⟨status, found⟩ := result
    dsimp only
    split
    · exact .after (draws_modifyFile _) fun _ => .after (draws_setOperation _) fun _ => .pure _
    · exact .pure _
  · exact .after (draws_seekInCluster _) fun _ => .after (draws_modifyFile _) fun _ => .after (draws_setOperation _) fun _ => .pure _

theorem draws_fseekInternalContinue (seekOffset : Word) : Draws (2 ^ 32 + 1) (fseekInternalContinue file seekOffset) :=
  .after draws_get fun _ => (Draws.repeated draws_seekPass _ _).mono (by bv_omega)

theorem draws_fseekInternal (offset : Word) : Draws 1 (fseekInternal file offset) := by
  refine .bind (draws_fseekAtomic offset) fun done => ?_
  split_ifs
  · exact .pure _
  · refine .after draws_get fun afatfs => ?_
    split_ifs
    · exact .pure _
    · exact .after (draws_setOperation _) fun _ => .pure _

theorem draws_seekFromStart (offset : Word) : Draws 1 (seekFromStart file offset) :=
  .after (.after (draws_modify _) fun _ => draws_modifyFile _) fun _ => .after draws_get fun _ => draws_fseekInternal _

theorem draws_fseek (offset : Word) (whence : Whence) : Draws 1 (fseek file offset whence) := by
  refine .after (draws_modifyFile _) fun _ => .after draws_get fun afatfs => ?_
  cases whence with
  | seekSet => exact draws_seekFromStart _
  | seekCur =>
    dsimp only
    split_ifs
    · exact draws_fseekInternal _
    · exact draws_seekFromStart _
  | seekEnd =>
    dsimp only
    split_ifs
    · exact .pure _
    · exact draws_seekFromStart _

/-! ## Truncating and closing -/

theorem draws_truncatePhase (markDeleted : Bool) (opState : TruncateFile) : Draws 2 (truncatePhase file markDeleted opState) := by
  have goesOn (opState : TruncateFile) : Draws 1 (goOnTruncating file opState) :=
    .after (draws_modifyFile _) fun _ => .pure _
  rw [truncatePhase]
  split
  · refine .bind (draws_saveDirectoryEntry _) fun status => ?_
    split
    · exact goesOn _
    · exact .after (draws_modifyFile _) fun _ => .pure _
    · exact .pure _
  · refine .after draws_get fun afatfs => ?_
    split_ifs
    · exact (goesOn _).mono (by decide)
    · refine .bind (draws_fatGetNextCluster _ _) fun result => ?_
      obtain ⟨status, found⟩ := result
      split
      · refine .bind (draws_fatSetNextCluster _ _) fun status => ?_
        split
        · exact .after (draws_modify _) fun _ => .after (draws_modifyFile _) fun _ => .pure _
        · exact .pure _
      · exact .pure _
  · exact .after (draws_modifyFile _) fun _ => .pure _

theorem draws_ftruncateContinue (markDeleted : Bool) (opState : TruncateFile) :
    Draws ((2 ^ 28 + 4) * 2) (ftruncateContinue file markDeleted opState) :=
  .repeated (draws_truncatePhase markDeleted) _ opState

theorem draws_ftruncate : Draws 1 (ftruncate file) := by
  refine .after draws_get fun afatfs => ?_
  split_ifs
  · exact .pure _
  · exact .after (draws_setOperation _) fun _ => .after (draws_modifyFile _) fun _ => .bind (draws_fseek _ _) fun _ => .pure _

theorem draws_releaseFile : Draws n (releaseFile file) :=
  .after (draws_modify _) fun _ => .after (draws_modify _) fun _ => draws_modifyFile _

theorem draws_fcloseContinue : Draws 1 (fcloseContinue file) := by
  refine .after draws_get fun afatfs => ?_
  split_ifs
  · refine .bind (draws_saveDirectoryEntry _) fun status => ?_
    split
    · exact draws_releaseFile
    · exact .pure _
  · exact draws_releaseFile

theorem draws_fclose : Draws 1 (fclose file) := by
  refine .after draws_get fun afatfs => ?_
  split_ifs
  · exact .pure _
  · exact .pure _
  · exact .after (draws_modifyFile _) fun _ => .after (draws_setOperation _) fun _ => .bind draws_fcloseContinue fun _ => .pure _

theorem draws_funlinkContinue (opState : TruncateFile) : Draws (1 + (2 ^ 28 + 4) * 2) (funlinkContinue file opState) := by
  refine .bind (draws_ftruncateContinue _ _) fun status => ?_
  split
  · exact .after (draws_setOperation _) fun _ => .bind draws_fclose fun _ => .pure _
  · exact .pure _

theorem draws_funlink : Draws 1 (funlink file) := by
  refine .after draws_get fun afatfs => ?_
  split_ifs
  · exact .pure _
  · refine .bind draws_ftruncate fun done => ?_
    split_ifs
    · exact .after (draws_modifyFile _) fun _ => .pure _
    · exact .pure _

/-! ## Reading and writing -/

theorem draws_readPass (loop : ReadLoop) : Draws 2 (readPass file loop) := by
  rw [readPass]
  split_ifs
  · refine .bind draws_fileRetainCursorSectorForRead fun found => ?_
    split
    · exact .pure _
    · refine .after draws_get fun afatfs => .bind (draws_fseekInternal _) fun status => ?_
      split
      · exact .pure _
      · exact .pure _
  · exact .pure _

theorem draws_fread (len : Word) : Draws (2 ^ 32 * 2) (fread file len) := by
  refine .after draws_get fun afatfs => ?_
  dsimp only
  split_ifs
  · exact .pure _
  · exact (Draws.repeated draws_readPass _ _).mono (by bv_omega)

theorem draws_writePass (loop : WriteLoop) : Draws (8 * 2 ^ 32) (writePass file loop) := by
  rw [writePass]
  split_ifs
  · refine (Draws.bind draws_fileLockCursorSectorForWrite fun found => ?_).mono (show 1 + (1 + 7 * 2 ^ 32) ≤ 8 * 2 ^ 32 by decide)
    split
    · exact .pure _
    · refine .after (draws_modify _) fun _ => .bind (draws_fseekInternal _) fun status => ?_
      split
      · exact .pure _
      · exact .pure _
  · exact .pure _

theorem draws_fwrite (buffer : List UInt8) : Draws ((buffer.length + 1) * (8 * 2 ^ 32)) (fwrite file buffer) := by
  refine .after draws_get fun afatfs => ?_
  dsimp only
  split_ifs
  · exact .pure _
  · exact .repeated draws_writePass _ _

theorem draws_fputc (c : UInt8) : Draws (2 * (8 * 2 ^ 32)) (fputc file c) := by
  have writes : Draws (2 * (8 * 2 ^ 32)) (fwrite file [c]) := draws_fwrite [c]
  refine .after draws_get fun afatfs => ?_
  dsimp only
  split
  · split_ifs
    · exact .after (draws_modify _) fun _ => draws_modifyFile _
    · exact .before writes fun _ => .pure _
  · exact .before writes fun _ => .pure _

/-! ## Opening -/

theorem draws_findHere (directory : FileRef) : Draws 1 (findHere directory file) := by
  refine .bind draws_fileRetainCursorSectorForRead fun found => ?_
  split
  · exact .after draws_get fun _ => .after (draws_modifyFile _) fun _ => .pure _
  · refine .after draws_get fun afatfs => ?_
    split_ifs
    · exact .pure _
    · exact .pure _

theorem draws_findNext (directory : FileRef) : Draws 2 (findNext directory file) := by
  refine .after draws_get fun afatfs => ?_
  split_ifs
  · refine .bind (draws_fseekAtomic _) fun done => ?_
    split_ifs
    · exact .after (draws_modifyFile _) fun _ => draws_findHere directory
    · exact .pure _
  · exact (draws_findHere directory).mono (by decide)

theorem draws_createFilePhase (opState : CreateFile) : Draws 2 (createFilePhase file opState) := by
  have goesOn {n : Nat} (opState : CreateFile) : Draws n (goOnCreating file opState) :=
    .after (draws_setOperation _) fun _ => .pure _
  rw [createFilePhase]
  split
  · have first : Draws 1 (findFirst .currentDirectory file) := .bind (draws_fseek _ _) fun _ => draws_modifyFile _
    exact first.bind fun _ => goesOn _
  · refine .before (draws_findNext _) fun found => ?_
    split
    · exact .after (draws_modify _) fun _ => goesOn _
    · refine .after draws_get fun afatfs => ?_
      dsimp only
      split_ifs
      · exact .after (draws_modify _) fun _ => goesOn _
      · exact .after (draws_modifyFile _) fun _ => .after (draws_modify _) fun _ => goesOn _
      · exact .pure _
    · exact .after (draws_modify _) fun _ => goesOn _
    · exact .pure _
  · exact .bind (draws_fseek _ _) fun _ => .after (draws_setOperation _) fun _ => .pure _
  · exact .after (draws_modifyFile _) fun _ => .pure _

theorem draws_createFileContinue (opState : CreateFile) : Draws (2 ^ 28 * 2) (createFileContinue file opState) :=
  .repeated draws_createFilePhase _ opState

theorem draws_fopen (filename : CString) (mode : OpenMode) : Draws (2 ^ 28 * 2) (fopen filename mode) := by
  refine .after draws_get fun afatfs => ?_
  split
  · refine .before (.after (draws_modifyFile _) fun _ => .after draws_get fun afatfs => ?_) fun _ => .pure _
    dsimp only
    split_ifs
    · exact .after (draws_modifyFile _) fun _ => .after (draws_setOperation _) fun _ => draws_createFileContinue _
    · exact .after (draws_modifyFile _) fun _ => .after (draws_setOperation _) fun _ => draws_createFileContinue _
  · exact .pure _

theorem draws_chdir (directory : Option FileRef) : Draws 1 (chdir directory) := by
  refine .after draws_get fun afatfs => ?_
  split_ifs
  · exact .pure _
  · split
    · split_ifs
      · exact .pure _
      · exact .after (draws_modifyFile _) fun _ => .pure _
    · exact .after (draws_modifyFile _) fun _ => .bind (draws_fseek _ _) fun _ => .pure _

/-! ## Polling -/

theorem draws_fileOperationContinue : Draws (7 * 2 ^ 32) (fileOperationContinue file) := by
  refine .after draws_get fun afatfs => ?_
  dsimp only
  split_ifs
  · exact .pure _
  · split
    · exact .pure _
    · exact (draws_createFileContinue _).mono (by decide)
    · exact (Draws.before (draws_fseekInternalContinue _) fun _ => .pure _).mono (by decide)
    · exact draws_fcloseContinue.mono (by decide)
    · exact (draws_funlinkContinue _).mono (by decide)
    · exact (Draws.before (draws_ftruncateContinue _ _) fun _ => .pure _).mono (by decide)
    · exact .before (draws_appendRegularFreeClusterContinue _) fun _ => .pure _

theorem draws_poll : Draws ((maxOpenFiles + 2) * (7 * 2 ^ 32)) poll := by
  have files : Draws (maxOpenFiles * (7 * 2 ^ 32))
      (each (fun i => fileOperationContinue (.openFile i)) (List.finRange maxOpenFiles)) :=
    .each (fun i => draws_fileOperationContinue) (List.finRange maxOpenFiles)
  refine (Draws.bind draws_flush fun _ => .after draws_get fun afatfs => ?_).mono
    (show (maxOpenFiles + 1) * (7 * 2 ^ 32) + 1 ≤ (maxOpenFiles + 2) * (7 * 2 ^ 32) by decide)
  split_ifs
  · exact (draws_fileOperationContinue.bind fun _ => files).mono (by decide)
  · exact .pure _

theorem draws_sdcardReadComplete (sectorIndex : Word) (buffer : Option Slot) : Draws 0 (sdcardReadComplete sectorIndex buffer) := by
  refine .after draws_get fun afatfs => ?_
  split
  · exact .pure _
  · split
    · exact draws_modify _
    · exact .after (draws_assert _) fun _ => draws_modify _

theorem draws_sdcardWriteComplete (sectorIndex : Word) (buffer : Option Slot) : Draws 0 (sdcardWriteComplete sectorIndex buffer) := by
  refine .after (draws_modify _) fun _ => .after draws_get fun afatfs => ?_
  split
  · exact .pure _
  · split
    · exact draws_modify _
    · exact .after (draws_assert _) fun _ => draws_modify _

theorem draws_cardCompletes (success : Bool) (stored : Sector) : Draws 0 (cardCompletes success stored) := by
  refine .after .state fun volume => ?_
  split
  · exact .pure _
  · refine .after (.update _) fun _ => ?_
    split
    · exact .after (.update _) fun _ => draws_sdcardWriteComplete _ _
    · exact .after (draws_modify _) fun _ => draws_sdcardReadComplete _ _

/-! ## Events -/

theorem FileEvent.draws_run (event : FileEvent) : ∃ n, Draws n event.run := by
  cases event with
  | fopen filename mode => exact ⟨_, .before (draws_fopen filename mode) fun _ => .pure _⟩
  | chdir directory => exact ⟨_, .before (draws_chdir directory) fun _ => .pure _⟩
  | fseek file offset whence => exact ⟨_, .before (draws_fseek offset whence) fun _ => .pure _⟩
  | fread file len => exact ⟨_, .before (draws_fread len) fun _ => .pure _⟩
  | fwrite file buffer => exact ⟨_, .before (draws_fwrite buffer) fun _ => .pure _⟩
  | fputc file c => exact ⟨_, .before (draws_fputc c) fun _ => .pure _⟩
  | ftruncate file => exact ⟨_, .before draws_ftruncate fun _ => .pure _⟩
  | fclose file => exact ⟨_, .before draws_fclose fun _ => .pure _⟩
  | funlink file => exact ⟨_, .before draws_funlink fun _ => .pure _⟩
  | poll => exact ⟨_, .before draws_poll fun _ => .pure _⟩
  | completes success stored => exact ⟨_, .before (draws_cardCompletes success stored) fun _ => .pure _⟩

/-- In every state that is reached an operation comes back, unless the card has no answer left; and there is a number
    of answers that is always enough for it: the loops over sectors and over the chains of the table all end. -/
theorem operation_returns (system : SystemOk names volume chains) (run : events.foldlM fileStep volume = some later)
    (asks : AsksAlong names events volume) (allowed : event.Allowed later.afatfs) (asks' : event.Asks names later) :
    (∀ draws, exec event.run draws later = .error .drawing ∨ ∃ last, exec event.run draws later = .ok last) ∧
      ∃ n, ∀ draws : List CardAnswer, n ≤ draws.length → ∃ last, exec event.run draws later = .ok last := by
  obtain ⟨between, system', -⟩ := system_run (fun _ => True) system run asks fun _ _ _ _ => trivial
  have goes := wp_systemEvent system' allowed asks'
  obtain ⟨n, few⟩ := event.draws_run
  constructor
  · intro draws
    have goes := goes draws
    rw [exec]
    cases ran : event.run (later, draws) with
    | error stop =>
      rw [ran] at goes
      exact .inl (by rw [goes]; rfl)
    | ok result => exact .inr ⟨_, rfl⟩
  · refine ⟨n, fun draws enough => ?_⟩
    obtain ⟨answer, last, rest, ran⟩ := few.returns goes enough
    exact ⟨last, exec_eq_ok.mpr ⟨answer, rest, ran⟩⟩

theorem operation_returns_small :
    ∃ later, [(FileEvent.poll, [])].foldlM fileStep smallVolume = some later ∧
      (∀ draws, exec (FileEvent.fread smallFile 9).run draws later = .error .drawing ∨
        ∃ last, exec (FileEvent.fread smallFile 9).run draws later = .ok last) ∧
      ∃ n, ∀ draws : List CardAnswer, n ≤ draws.length → ∃ last, exec (FileEvent.fread smallFile 9).run draws later = .ok last := by
  obtain ⟨later, run, allowed⟩ : ∃ later, [(FileEvent.poll, [])].foldlM fileStep smallVolume = some later ∧
      (FileEvent.fread smallFile 9).Allowed later.afatfs := ⟨_, rfl, by decide⟩
  exact ⟨later, run, operation_returns system_small run (asksAlong_of_not_fopen (by simp)) allowed trivial⟩

end ComputerSystems.Fat
