import ComputerSystems.Verified.ClusterAllocation

/-! # Truncating

The clusters of a file that is truncated or deleted are given back one after the other.
What is still to be given back is pending; the first of it is cleared in the table, so
that the rest is a chain again (`Separate.pop`).
-/

namespace ComputerSystems.Fat

open ComputerSystems.Data Program

variable {volume later : Volume} {chains chains' : Owner → List Word} {file : FileRef}

/-- The operation that truncates a file, or that of a file that is deleted. -/
def FileOperation.truncating (deletes : Bool) (opState : TruncateFile) : FileOperation :=
  if deletes then .unlink opState else .truncate opState

section Truncate

variable {deletes : Bool} {opState : TruncateFile}

@[simp] theorem pendingCluster_truncating :
    (FileOperation.truncating deletes opState).pendingCluster = opState.currentCluster := by
  cases deletes <;> rfl

@[simp] theorem appending_truncating : (FileOperation.truncating deletes opState).appending = 0 := by
  cases deletes <;> rfl

@[simp] theorem closing_truncating : (FileOperation.truncating deletes opState).closing = deletes := by
  cases deletes <;> rfl

@[simp] theorem opening_truncating : (FileOperation.truncating deletes opState).opening = false := by
  cases deletes <;> rfl

@[simp] theorem unsaved_truncating :
    (FileOperation.truncating deletes opState).unsaved = decide (opState.phase = .updateDirectory) := by
  cases deletes <;> rfl

@[simp] theorem truncating_ne_none : FileOperation.truncating deletes opState ≠ .none := by
  cases deletes <;> simp [FileOperation.truncating]

theorem operationOk_truncating {link : Word → Option Word} {size limit : Nat} {chain pending : List Word} {f : AfatfsFile}
    (operation : f.operation = .truncating deletes opState) :
    OperationOk link size limit chain pending f ↔ TruncateOk link size chain f opState ∧ f.Unlocked := by
  cases deletes <;> simp [OperationOk, operation, FileOperation.truncating]

theorem TruncateOk.operationOk {link : Word → Option Word} {size limit : Nat} {chain pending : List Word} {f : AfatfsFile}
    (good : TruncateOk link size chain f opState) (unlocked : f.Unlocked) :
    OperationOk link size limit chain pending { f with operation := .truncating deletes opState } := by
  apply (operationOk_truncating (f := { f with operation := .truncating deletes opState }) rfl).mpr
  exact ⟨⟨⟨good.1.1, good.1.2.congr rfl rfl rfl⟩, good.2⟩, unlocked⟩

/-- The file's operation is at this state of a truncation. -/
def Volume.truncateState (file : FileRef) (deletes : Bool) (opState : TruncateFile) (volume : Volume) : Volume :=
  { volume with
    afatfs := volume.afatfs.updateFile file fun f => { f with operation := .truncating deletes opState } }

/-- The operation that the file has after it was truncated. -/
def FileOperation.truncated (deletes : Bool) : FileOperation := if deletes then .close else .none

/-- The truncation of the file is over. -/
def Volume.ended (file : FileRef) (deletes : Bool) (volume : Volume) : Volume :=
  { volume with afatfs := volume.afatfs.updateFile file fun f => { f with operation := .truncated deletes } }

@[simp] theorem truncateState_file : (volume.truncateState file deletes opState).afatfs.files file =
    { volume.afatfs.files file with operation := .truncating deletes opState } := by
  simp [Volume.truncateState]

@[simp] theorem ended_file : (volume.ended file deletes).afatfs.files file =
    { volume.afatfs.files file with operation := .truncated deletes } := by
  simp [Volume.ended]

@[simp] theorem ended_truncateState :
    (volume.truncateState file deletes opState).ended file deletes = volume.ended file deletes := by
  simp only [Volume.ended, Volume.truncateState, Afatfs.updateFile_updateFile]
  rfl

/-- How far a truncation has got: what is still to be freed is pending. -/
structure Truncated (file : FileRef) (volume : Volume) (chains : Owner → List Word)
    (later : Volume) (chains' : Owner → List Word) : Prop
    extends Works file NoSector volume chains later chains' where
  chain : chains' (.file file) = chains (.file file)
  left : chains' (.pending file) <:+ chains (.pending file)
  record : later.afatfs.files file = { volume.afatfs.files file with operation := (later.afatfs.files file).operation }

/-- How it is left. -/
def TruncateEnds (deletes : Bool) (file : FileRef) (volume : Volume)
    (chains : Owner → List Word) (status : OperationStatus) (later : Volume) : Prop :=
  status = .inProgress ∧ (∃ chains' opState, Truncated file volume chains later chains' ∧
      (later.afatfs.files file).operation = .truncating deletes opState) ∨
    status = .success ∧ (∃ chains', Truncated file volume chains (later.ended file deletes) chains' ∧
      chains' (.pending file) = []) ∧ (deletes = false → later.ended file deletes = later)

variable {mid : Volume} {between : Owner → List Word} {markDeleted : Bool} {n : Nat}

theorem Truncated.trans (first : Truncated file volume chains mid between)
    (second : Truncated file mid between later chains') : Truncated file volume chains later chains' where
  toWorks := first.toWorks.trans second.toWorks
  chain := second.chain.trans first.chain
  left := second.left.trans first.left
  record := by rw [second.record, first.record]

theorem wp_goOnTruncating {before : TruncateFile} {post : Pass TruncateFile OperationStatus → Volume → Prop}
    (operation : (volume.afatfs.files file).operation = .truncating deletes before) :
    Wp (goOnTruncating file opState) post volume ↔ post (.again opState) (volume.truncateState file deletes opState) := by
  rw [goOnTruncating, saveTruncate, modifyFile, wp_modify_bind, wp_pure, Volume.truncateState]
  rw [Afatfs.updateFile_congr]
  cases deletes <;> simp [operation, FileOperation.truncating]

theorem wp_truncate_success (phase : opState.phase = .success)
    (operation : (mid.afatfs.files file).operation = .truncating deletes opState)
    (truncated : Truncated file volume chains (mid.ended file deletes) between) (nothing : between (.pending file) = []) :
    Wp (repeated (truncatePhase file markDeleted) (n + 1) opState) (TruncateEnds deletes file volume chains) mid := by
  rw [repeated]
  apply Wp.bind
  simp only [truncatePhase, phase]
  have ends : ({ mid with afatfs := mid.afatfs.updateFile file AfatfsFile.endTruncate } : Volume).ended file deletes =
      mid.ended file deletes := by
    simp only [Volume.ended, Afatfs.updateFile_updateFile]
    rw [Afatfs.updateFile_congr]
    cases deletes <;> simp [AfatfsFile.endTruncate, operation, FileOperation.truncating]
  refine (wp_modify_bind _).mpr ((wp_pure _).mpr ((wp_pure _).mpr (.inr ⟨rfl, ⟨between, ?_, nothing⟩, ?_⟩)))
  · rw [ends]
    exact truncated
  · rintro rfl
    rw [ends, Volume.ended, Afatfs.updateFile_congr]
    simp [AfatfsFile.endTruncate, operation, FileOperation.truncating, FileOperation.truncated]

/-- The number that a truncation has got to leads to the first of the clusters that are pending. -/
theorem link_truncating (ok : FilesOk mid between)
    (operation : (mid.afatfs.files file).operation = .truncating deletes opState) :
    mid.afatfs.link opState.currentCluster = (between (.pending file)).head? := by
  rw [← (ok.separate.threads (.pending file)).start_eq, Afatfs.starts, operation, pendingCluster_truncating]

/-- Nothing is left to be freed. -/
theorem wp_truncate_freed (truncated : Truncated file volume chains mid between)
    (normal : (mid.afatfs.files file).HasChain file)
    (operation : (mid.afatfs.files file).operation = .truncating deletes opState) (nothing : between (.pending file) = [])
    (saved : opState.phase ≠ .updateDirectory ∨ mid.Saved file (between (.file file))) :
    Wp (repeated (truncatePhase file markDeleted) (n + 1) { opState with phase := .success })
      (TruncateEnds deletes file volume chains) (mid.truncateState file deletes { opState with phase := .success }) := by
  have good := (truncated.ok.isOpen file normal).shape.operation
  rw [operationOk_truncating operation] at good
  obtain ⟨⟨⟨chainless, cursor⟩, -⟩, unlocked⟩ := good
  have start : mid.afatfs.link opState.currentCluster = none := by
    rw [link_truncating truncated.ok operation, nothing]
    rfl
  apply wp_truncate_success rfl (by simp)
  · have rest : AtRest mid.afatfs.link mid.afatfs.clusterSize.toNat (between (.file file)) (between (.pending file))
        (mid.afatfs.files file) := ⟨nothing, 0, cursor⟩
    rw [ended_truncateState]
    have notCurrent : file ≠ .currentDirectory := truncated.ok.elsewhere_of_busy (by simp [operation])
    refine truncated.trans ⟨truncated.ok.setOperation normal unlocked ?_ ?_ ?_ (.inr notCurrent) ?_ ?_ ?_, rfl,
      List.suffix_rfl, by simp⟩
    · rw [operation, pendingCluster_truncating, start]
      cases deletes <;> exact if_pos (.inl rfl)
    · rw [operation, appending_truncating]
      cases deletes <;> rfl
    · rw [operation, closing_truncating]
      cases deletes <;> simp [FileOperation.truncated, FileOperation.closing]
    · rw [operation, opening_truncating]
      cases deletes <;> rfl
    · rw [operation, unsaved_truncating, decide_eq_false_iff_not]
      exact fun _ => saved
    · cases deletes <;> exact rest.congr rfl rfl rfl
  · exact nothing

/-- What the entry of the first pending cluster has leads to the next one, and is the number of no cluster below 2. -/
theorem FilesOk.pending_next {cluster : Word} {rest : List Word} (ok : FilesOk mid between)
    (pending : between (.pending file) = cluster :: rest) :
    mid.afatfs.link (mid.fatValue cluster) = mid.fatTable.next cluster ∧ 2 ≤ (mid.fatValue cluster).toNat := by
  have inTable := (ok.separate.threads (.pending file)).used cluster (by simp [pending])
  obtain ⟨isCluster, used⟩ := Afatfs.fatTable_ne_none inTable
  have leads : mid.afatfs.link (mid.fatValue cluster) = mid.fatTable.next cluster := Afatfs.link_fatValue inTable
  refine ⟨leads, ?_⟩
  have follows : mid.fatTable.next cluster = rest.head? := by
    have threads := ok.separate.threads (.pending file)
    rw [pending] at threads
    exact Chain.start_eq threads.chain.2
  cases rest with
  | nil =>
    rw [follows, List.head?_nil, Afatfs.link] at leads
    split_ifs at leads with ends
    exact Afatfs.two_le_of_marker (ends.resolve_left used)
  | cons next rest =>
    rw [follows, List.head?_cons] at leads
    rw [Afatfs.link_eq_some leads]
    exact (Afatfs.fatTable_ne_none ((ok.separate.threads (.pending file)).used next (by simp [pending]))).1.1

/-- The table after the entry of the first pending cluster was cleared. -/
theorem Truncated.freed {cluster : Word} {rest : List Word} (truncated : Truncated file volume chains mid between)
    (normal : (mid.afatfs.files file).HasChain file)
    (operation : (mid.afatfs.files file).operation = .truncating deletes opState) (phase : opState.phase = .eraseFatChainNormal)
    (pending : between (.pending file) = cluster :: rest)
    (turns : Turns mid (mid.afatfs.setFatEntry mid.content cluster 0) later) :
    Truncated file volume chains
      (({ later with afatfs := later.afatfs.clusterFreed (mid.fatValue cluster) } : Volume).truncateState file deletes
        { opState with currentCluster := mid.fatValue cluster })
      (Function.update between (.pending file) rest) := by
  have ok := truncated.ok
  have shape := (ok.isOpen file normal).shape
  have good := shape.operation
  rw [operationOk_truncating operation] at good
  obtain ⟨⟨chainless, -⟩, unlocked⟩ := good
  obtain ⟨isCluster, used⟩ := Afatfs.fatTable_ne_none
    ((ok.separate.threads (.pending file)).used cluster (by simp [pending]))
  obtain ⟨leads, large⟩ := ok.pending_next pending
  have files := turns.files
  have serves : Serves file mid
      (({ later with afatfs := later.afatfs.clusterFreed (mid.fatValue cluster) } : Volume).truncateState file deletes
        { opState with currentCluster := mid.fatValue cluster }) := by
    refine turns.toServes.trans (SameCache.serves ⟨rfl, rfl, rfl, rfl, rfl, rfl⟩ turns.coherent rfl ?_ ?_)
    · intro other elsewhere
      simp [Volume.truncateState, Afatfs.clusterFreed, Afatfs.updateFile_other elsewhere]
    · rw [truncateState_file]
      exact ⟨rfl, rfl, rfl, rfl⟩
  -- only the chain that is still to be freed gets shorter
  have elsewhere : ∀ owner, owner ≠ .file file → owner ≠ .pending file →
      Function.update between (.pending file) rest owner = between owner :=
    fun owner _ notPending => Function.update_of_ne notPending _ _
  refine truncated.trans ⟨ok.setEntry normal isCluster serves turns.content ?_ ?_ ?_ elsewhere ?_ ?_ ?_ ?_ ?_ ?_ ?_ ?_,
    ?_, ?_, ?_⟩
  · simp [Afatfs.clusterFreed, files]
  · simp [Afatfs.clusterFreed, files]
  · have hint := ok.hint
    change 1 ≤ (minimum later.afatfs.lastClusterAllocated (mid.fatValue cluster - 1)).toNat ∧
      (minimum later.afatfs.lastClusterAllocated (mid.fatValue cluster - 1)).toNat ≤ mid.afatfs.numClusters.toNat + 2
    rw [turns.same (·.lastClusterAllocated) fun _ => rfl, minimum]
    split_ifs
    · exact hint
    · bv_omega
  · exact ok.elsewhere_of_busy (by simp [operation])
  · simp [operation]
  · have first : mid.afatfs.link (mid.afatfs.files file).firstCluster = mid.afatfs.starts between (.file file) :=
      (if_pos normal).symm
    rw [Afatfs.entryOf_zero, Afatfs.starts_eq serves.disk serves.files elsewhere (serves.locks.hasChain.mpr normal)]
    simp only [Afatfs.clusterFreed, truncateState_file, files, pendingCluster_truncating, leads, first,
      Function.update_eq_self]
    exact ok.separate.pop pending
  · rw [Afatfs.entryOf_zero]
    exact fun _ => Stray.of_pop pending
  · rw [truncateState_file]
    change (later.afatfs.files file).Unlocked
    rwa [files]
  · intro _
    exact ⟨by simp [operation, phase], Function.update_of_ne (by simp) _ _⟩
  · simp [Afatfs.clusterFreed, files]
  · rw [Function.update_of_ne (by simp), Function.update_self, truncateState_file]
    change FileShape _ _ _ _ _ { later.afatfs.files file with operation := _ }
    rw [files]
    refine ⟨TruncateOk.operationOk ⟨chainless, .inr ⟨phase, used⟩⟩ unlocked, ?_, ?_, ?_, shape.directory, .inl unlocked⟩
    · have physical := shape.physical
      rw [operation, appending_truncating] at physical
      rw [appending_truncating]
      exact physical
    · have room := shape.room
      rw [operation, appending_truncating] at room
      rw [appending_truncating]
      exact room
    · have logical := shape.logical
      rw [operation, closing_truncating] at logical
      rw [closing_truncating]
      exact logical
  · simp
  · rw [Function.update_self, pending]
    exact List.suffix_cons cluster rest
  · simp [Afatfs.clusterFreed, files]

theorem wp_truncate_erase {l : List Word} (truncated : Truncated file volume chains mid between)
    (normal : (mid.afatfs.files file).HasChain file)
    (operation : (mid.afatfs.files file).operation = .truncating deletes opState) (phase : opState.phase = .eraseFatChainNormal)
    (pending : between (.pending file) = l) (enough : l.length + 2 ≤ n) :
    Wp (repeated (truncatePhase file markDeleted) n opState) (TruncateEnds deletes file volume chains) mid := by
  -- on what is still to be freed: every pass gives its first cluster back
  induction l generalizing mid between opState n with
  | nil =>
    obtain ⟨m, rfl⟩ : ∃ m, n = m + 1 + 1 := ⟨n - 2, by rw [List.length_nil] at enough; omega⟩
    have good := (truncated.ok.isOpen file normal).shape.operation
    rw [operationOk_truncating operation] at good
    have marker : mid.afatfs.fatIsEndOfChainMarker opState.currentCluster = true := by
      have leads := link_truncating truncated.ok operation
      rw [pending, List.head?_nil, Afatfs.link] at leads
      simp only [TruncateOk, phase, reduceCtorEq, false_or, true_and] at good
      split_ifs at leads with ends
      exact ends.resolve_left good.1.2
    rw [repeated]
    apply Wp.bind
    simp only [truncatePhase, phase]
    rw [wp_get_bind]
    simp only [marker, if_true]
    exact (wp_goOnTruncating operation).mpr (wp_truncate_freed truncated normal operation pending (.inl (by simp [phase])))
  | cons cluster rest ih =>
    obtain ⟨m, rfl⟩ : ∃ m, n = m + 1 := ⟨n - 1, by rw [List.length_cons] at enough; omega⟩
    have ok := truncated.ok
    have leads := link_truncating ok operation
    rw [pending, List.head?_cons] at leads
    have here := Afatfs.link_eq_some leads
    have isCluster := (Afatfs.fatTable_ne_none ((ok.separate.threads (.pending file)).used cluster (by simp [pending]))).1
    rw [repeated]
    apply Wp.bind
    simp only [truncatePhase, phase, here]
    rw [wp_get_bind]
    simp only [ok.geometry.not_marker isCluster, Bool.false_eq_true, if_false]
    apply Wp.bind
    apply (wp_fatGetNextCluster ok.coherent).mono
    rintro _ looked ⟨turns, rfl | rfl⟩
    · have works : Works file NoSector mid between looked between :=
        ok.works_turns_same turns
      have looks := truncated.trans ⟨works, rfl, List.suffix_rfl, by rw [turns.files]⟩
      have operation' : (looked.afatfs.files file).operation = .truncating deletes opState := by rw [turns.files, operation]
      have same : looked.fatValue cluster = mid.fatValue cluster :=
        fatValue_congr ok.geometry turns.disk (fun sector _ => congrFun turns.content sector) isCluster.2
      apply Wp.bind
      apply (wp_fatSetNextCluster looks.ok.coherent looks.ok.geometry ?_).mono
      · rintro status later (⟨rfl, turns'⟩ | ⟨rfl, turns', -⟩)
        · have freed := looks.freed (turns.files ▸ normal) operation' phase pending turns'
          rw [same, phase] at freed
          have operation'' : ({ later with afatfs := later.afatfs.clusterFreed (mid.fatValue cluster) } :
              Volume).afatfs.files file = looked.afatfs.files file := congrFun turns'.files file
          rw [← operation''] at operation'
          refine (wp_modify_bind _).mpr ((wp_goOnTruncating operation').mpr ?_)
          · apply ih freed
            · refine (SameKind.hasChain ⟨?_, ?_⟩).mpr normal
              · simp [Afatfs.clusterFreed, turns'.files, turns.files]
              · simp [Afatfs.clusterFreed, turns'.files, turns.files]
            · simp
            · rfl
            · simp
            · rw [List.length_cons] at enough
              omega
        · refine (wp_pure _).mpr ((wp_pure _).mpr (.inl ⟨rfl, between, opState, looks.trans ⟨?_, rfl, List.suffix_rfl, by rw [turns'.files]⟩,
            by rw [turns'.files, operation']⟩))
          exact looks.ok.works_turns_same turns'
      · have count : looked.afatfs.numClusters = mid.afatfs.numClusters := turns.same (·.numClusters) fun _ => rfl
        rw [Afatfs.IsCluster, count]
        exact isCluster
    · refine (wp_pure _).mpr ((wp_pure _).mpr (.inl ⟨rfl, between, opState, truncated.trans ⟨?_, rfl, List.suffix_rfl, by rw [turns.files]⟩,
        by rw [turns.files, operation]⟩))
      exact ok.works_turns_same turns

theorem wp_truncate_directory (ok : FilesOk volume chains) (normal : (volume.afatfs.files file).HasChain file)
    (operation : (volume.afatfs.files file).operation = .truncating deletes opState) (phase : opState.phase = .updateDirectory)
    (marks : deletes = true → markDeleted = true) (enough : (chains (.pending file)).length + 3 ≤ n) :
    Wp (repeated (truncatePhase file markDeleted) n opState) (TruncateEnds deletes file volume chains) volume := by
  obtain ⟨m, rfl⟩ : ∃ m, n = m + 1 + 1 := ⟨n - 2, by omega⟩
  rw [repeated]
  apply Wp.bind
  simp only [truncatePhase, phase]
  apply Wp.bind
  apply (wp_saveDirectoryEntry_works ok normal (by simp [operation]) (.inl (by simp [operation, phase]))).mono
  rintro status mid ⟨works, files, rfl | rfl, content, -⟩
  · have truncated : Truncated file volume chains mid chains := ⟨works, rfl, List.suffix_rfl, by rw [files]⟩
    have normal' : (mid.afatfs.files file).HasChain file := files ▸ normal
    have operation' : (mid.afatfs.files file).operation = .truncating deletes opState := by rw [files, operation]
    have saved : mid.Saved file (chains (.file file)) := by
      refine ok.saved_savedEntry normal (content rfl) works.disk (by rw [files]) (by rw [files]) (by simp [operation]) ?_
      cases deletes with
      | true => exact .inl (if_pos (marks rfl))
      | false => exact .inr ((ok.isOpen file normal).shape.logical (by simp [operation]))
    refine (wp_goOnTruncating operation').mpr ?_
    -- an empty file has no cluster to give back
    by_cases empty : opState.currentCluster = 0
    · rw [if_pos empty]
      refine wp_truncate_freed truncated normal' operation' ?_ (.inr saved)
      have leads := link_truncating works.ok operation'
      rw [empty, Afatfs.link, if_pos (.inl rfl)] at leads
      exact List.head?_eq_none_iff.mp leads.symm
    · rw [if_neg empty]
      have good := (works.ok.isOpen file normal').shape.operation
      rw [operationOk_truncating operation'] at good
      have erases : Works file NoSector mid chains
          (mid.truncateState file deletes { opState with phase := .eraseFatChainNormal }) chains := by
        have notCurrent : file ≠ .currentDirectory := works.ok.elsewhere_of_busy (by simp [operation'])
        refine works.ok.setOperation normal' good.2 ?_ ?_ (by simp [operation']) (.inr notCurrent) (by simp [operation'])
          (fun _ => .inr saved) (TruncateOk.operationOk ⟨good.1.1, .inr ⟨rfl, empty⟩⟩ good.2)
        · simp [operation']
        · simp [operation']
      exact wp_truncate_erase (truncated.trans ⟨erases, rfl, List.suffix_rfl, by simp⟩) ((SameKind.hasChain ⟨by simp, by simp⟩).mpr normal') (by simp)
        rfl rfl (by omega)
  · exact (wp_pure _).mpr ((wp_pure _).mpr (.inl ⟨rfl, chains, opState, ⟨works, rfl, List.suffix_rfl, by rw [files]⟩,
      by rw [files, operation]⟩))

/-- There are no more clusters than numbers of 28 bits. -/
theorem length_chain_le (ok : FilesOk volume chains) (owner : Owner) : (chains owner).length ≤ 2 ^ 28 := by
  have few := ok.geometry.numClusters_lt
  have below : ∀ cluster ∈ chains owner, cluster.toNat < 2 ^ 28 := by
    intro cluster isIn
    have isCluster := (Afatfs.fatTable_ne_none ((ok.separate.threads owner).used cluster isIn)).1
    have := isCluster.2
    omega
  have nodup : ((chains owner).map BitVec.toNat).Nodup :=
    (ok.separate.threads owner).nodup.map fun _ _ same => BitVec.eq_of_toNat_eq same
  have inRange : (chains owner).map BitVec.toNat ⊆ List.range (2 ^ 28) := by
    intro number isIn
    obtain ⟨cluster, isCluster, rfl⟩ := List.mem_map.mp isIn
    exact List.mem_range.mpr (below cluster isCluster)
  have short := (nodup.subperm inRange).length_le
  rwa [List.length_map, List.length_range] at short

/-- The rule of `afatfs_ftruncateContinue`. -/
theorem wp_ftruncateContinue (ok : FilesOk volume chains) (normal : (volume.afatfs.files file).HasChain file)
    (operation : (volume.afatfs.files file).operation = .truncating deletes opState)
    (marks : deletes = true → markDeleted = true) :
    Wp (ftruncateContinue file markDeleted opState) (TruncateEnds deletes file volume chains) volume := by
  have short := length_chain_le ok (.pending file)
  have good := (ok.isOpen file normal).shape.operation
  rw [operationOk_truncating operation] at good
  obtain ⟨⟨-, phase | ⟨phase, -⟩⟩, -⟩ := good
  · exact wp_truncate_directory ok normal operation phase marks (by omega)
  · exact wp_truncate_erase ⟨.refl ok, rfl, List.suffix_rfl, rfl⟩ normal operation phase rfl (by omega)

end Truncate

end ComputerSystems.Fat
