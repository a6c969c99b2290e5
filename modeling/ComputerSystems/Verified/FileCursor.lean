import ComputerSystems.Verified.FileLocks

/-! # Seeking

The cursor of a file goes through its clusters one after the other, and waits where the
table is not in the cache.  `AfatfsFile.target` is where the file is, or where it is on
its way to: no part of a seek changes it.
-/

namespace ComputerSystems.Fat

open ComputerSystems.Data Program

variable {volume later : Volume} {chains chains' : Owner → List Word} {file other : FileRef}
  {written : Word → Prop} {offset : Word}

theorem target_of_idle {f : AfatfsFile} (idle : f.operation = .none) : f.target = f.cursorOffset.toNat := by
  rw [AfatfsFile.target, idle]

theorem opening_of_idle {f : AfatfsFile} (idle : f.operation = .none) : f.operation.opening = false := by
  rw [idle]
  rfl

/-! ## Offsets -/

theorem minimum_toNat (a b : Word) : (minimum a b).toNat = min a.toNat b.toNat := by
  rw [minimum]
  split_ifs with less
  · exact (min_eq_left (by bv_omega)).symm
  · exact (min_eq_right (by bv_omega)).symm

theorem Afatfs.Geometry.size_eq {afatfs : Afatfs} (geometry : afatfs.Geometry) (n : Nat) :
    n * afatfs.clusterSize.toNat = 512 * (n * afatfs.sectorsPerCluster.toNat) := by
  rw [geometry.clusterSize_toNat]
  exact Nat.mul_left_comm _ _ _

/-- The sector of the cluster is that of every offset in it. -/
theorem Afatfs.Geometry.sectorIndex_of_div {afatfs : Afatfs} (geometry : afatfs.Geometry) {a b : Word}
    (same : a.toNat / 512 = b.toNat / 512) : afatfs.sectorIndexInCluster a = afatfs.sectorIndexInCluster b := by
  apply BitVec.eq_of_toNat_eq
  rw [geometry.sectorIndexInCluster_toNat, geometry.sectorIndexInCluster_toNat, geometry.clusterSize_toNat,
    Nat.mod_mul_right_div_self, Nat.mod_mul_right_div_self, same]

/-- The clusters of a file have no more bytes than 32 bits count. -/
theorem FilesOk.length_size (ok : FilesOk volume chains) (normal : (volume.afatfs.files file).HasChain file)
    (idle : (volume.afatfs.files file).operation.appending = 0) :
    (chains (.file file)).length * volume.afatfs.clusterSize.toNat < 2 ^ 32 := by
  have room := (ok.isOpen file normal).shape.room
  rwa [idle, Nat.add_zero] at room

section Cursor

variable {link : Word → Option Word} {size k : Nat} {chain : List Word} {f : AfatfsFile}

/-- The cursor is moved within its cluster. -/
theorem CursorAt.move {f' : AfatfsFile} (cursor : CursorAt link size chain f k) (cluster : f'.cursorCluster = f.cursorCluster)
    (previous : f'.cursorPreviousCluster = f.cursorPreviousCluster) (low : k * size ≤ f'.cursorOffset.toNat)
    (high : k < chain.length → f'.cursorOffset.toNat < (k + 1) * size)
    (stop : k = chain.length → f'.cursorOffset.toNat = k * size) : CursorAt link size chain f' k :=
  ⟨cursor.bound, by rw [cluster]; exact cursor.here, by rw [previous]; exact cursor.previous, low, high, stop⟩

/-- The number of the cluster is that of the offset. -/
theorem CursorAt.div (cursor : CursorAt link size chain f k) (inside : k < chain.length) :
    f.cursorOffset.toNat / size = k := by
  apply Nat.div_eq_of_lt_le cursor.low
  exact cursor.high inside

end Cursor

/-- The cursor of a file that is not busy is moved within its cluster, and its slots stay at it. -/
theorem FilesOk.moveCursor {k : Nat} {change : AfatfsFile → AfatfsFile}
    (ok : FilesOk volume chains)
    (normal : (volume.afatfs.files file).HasChain file) (idle : (volume.afatfs.files file).operation = .none)
    (changed : change (volume.afatfs.files file) = { volume.afatfs.files file with cursorOffset := offset })
    (cursor : CursorAt volume.afatfs.link volume.afatfs.clusterSize.toNat (chains (.file file))
      { volume.afatfs.files file with cursorOffset := offset } k)
    (still : (volume.afatfs.files file).Unlocked ∨ offset.toNat / 512 = (volume.afatfs.files file).cursorOffset.toNat / 512) :
    Works file written volume chains { volume with afatfs := volume.afatfs.updateFile file change } chains := by
  have shape := (ok.isOpen file normal).shape
  have good := shape.operation
  rw [OperationOk, idle] at good
  refine ok.record normal ?_ (by rw [changed]; exact ⟨rfl, rfl, rfl, rfl⟩) (by rw [changed]) (by rw [changed])
    (fun _ => by rw [changed]; exact idle) (by rw [changed]) (by rw [changed]) (by rw [changed])
    (fun _ => .inl (by rw [idle]; rfl)) (.inr (.inl (by rw [changed]))) ?_
  · refine still.imp id fun same => ?_
    rw [changed, Afatfs.cursorSector, Afatfs.cursorSector]
    simp only [normal.not_root, if_false]
    rw [ok.geometry.sectorIndex_of_div same]
  · rw [changed]
    refine ⟨?_, shape.physical, shape.room, shape.logical, shape.directory, shape.inside⟩
    simp only [OperationOk, idle]
    exact ⟨good.1, k, cursor.congr rfl rfl rfl⟩

/-! ## A seek at once -/

/-- What a seek has made of a file: nothing on the volume has changed, and the file is where it is to be
    or on its way to there. -/
structure Sought (file : FileRef) (volume : Volume) (chains : Owner → List Word) (target : Nat)
    (later : Volume) : Prop extends Works file NoSector volume chains later chains where
  same : later.content = volume.content
  target : (later.afatfs.files file).target = target
  kind : SameKind (volume.afatfs.files file) (later.afatfs.files file)
  logical : (later.afatfs.files file).logicalSize = (volume.afatfs.files file).logicalSize
  moving : (later.afatfs.files file).operation = .none ∨ ∃ seekOffset, (later.afatfs.files file).operation = .seek seekOffset

/-- A seek does not close the file. -/
theorem Sought.closing {target : Nat} (sought : Sought file volume chains target later) :
    (later.afatfs.files file).operation.closing = false := by
  rcases sought.moving with idle | ⟨seekOffset, seeks⟩
  · rw [idle]
    rfl
  · rw [seeks]
    rfl

theorem Sought.after {mid : Volume} {target : Nat} (works : Works file NoSector volume chains mid chains)
    (same : mid.content = volume.content) (kind : SameKind (volume.afatfs.files file) (mid.afatfs.files file))
    (logical : (mid.afatfs.files file).logicalSize = (volume.afatfs.files file).logicalSize)
    (sought : Sought file mid chains target later) : Sought file volume chains target later where
  toWorks := works.trans sought.toWorks
  same := sought.same.trans same
  target := sought.target
  kind := kind.trans sought.kind
  logical := sought.logical.trans logical
  moving := sought.moving

/-- The rest of a seek within the cluster. -/
theorem seekInCluster_sought {k : Nat} (ok : FilesOk volume chains)
    (normal : (volume.afatfs.files file).HasChain file) (idle : (volume.afatfs.files file).operation = .none)
    (unlocked : (volume.afatfs.files file).Unlocked)
    (cursor : CursorAt volume.afatfs.link volume.afatfs.clusterSize.toNat (chains (.file file)) (volume.afatfs.files file) k)
    (high : k < (chains (.file file)).length →
      (volume.afatfs.files file).cursorOffset.toNat + offset.toNat < (k + 1) * volume.afatfs.clusterSize.toNat)
    (stop : k = (chains (.file file)).length → offset = 0) :
    Wp (seekInCluster file offset) (fun _ later => Sought file volume chains
      ((volume.afatfs.files file).cursorOffset.toNat + offset.toNat) later ∧
        (later.afatfs.files file).operation = .none) volume := by
  have short := ok.length_size normal (by rw [idle]; rfl)
  rw [seekInCluster, wp_modify]
  split_ifs with ends
  · rw [isEndOfAllocatedFile_iff normal] at ends
    have last : k = (chains (.file file)).length := by
      have here := cursor.here
      rw [ends] at here
      exact le_antisymm cursor.bound (List.getElem?_eq_none_iff.mp here.symm)
    refine ⟨⟨.refl ok, rfl, ?_, .refl _, rfl, .inl idle⟩, idle⟩
    rw [target_of_idle idle, stop last]
    rfl
  · rw [isEndOfAllocatedFile_iff normal] at ends
    obtain ⟨inside, -⟩ := cursor.inside ends
    have below := high inside
    have bound : (k + 1) * volume.afatfs.clusterSize.toNat ≤
        (chains (.file file)).length * volume.afatfs.clusterSize.toNat := Nat.mul_le_mul_right _ inside
    have sum : ((volume.afatfs.files file).cursorOffset + offset).toNat =
        (volume.afatfs.files file).cursorOffset.toNat + offset.toNat := by
      rw [BitVec.toNat_add, Nat.mod_eq_of_lt (by omega)]
    have low := cursor.low
    have moved : CursorAt volume.afatfs.link volume.afatfs.clusterSize.toNat (chains (.file file))
        { volume.afatfs.files file with cursorOffset := (volume.afatfs.files file).cursorOffset + offset } k := by
      refine cursor.move rfl rfl ?_ ?_ ?_
      · rw [sum]
        omega
      · intro _
        rw [sum]
        exact below
      · intro last
        omega
    have works : Works file NoSector volume chains { volume with
        afatfs := volume.afatfs.updateFile file fun f => { f with cursorOffset := f.cursorOffset + offset } } chains :=
      ok.moveCursor normal idle rfl moved (.inl unlocked)
    refine ⟨⟨works, rfl, ?_, ⟨by simp, by simp⟩, by simp, .inl (by simpa using idle)⟩, by simpa using idle⟩
    rw [target_of_idle (by simpa using idle)]
    simpa using sum

/-- The cursor goes to the beginning of the cluster that follows. -/
theorem FilesOk.enterCluster {k : Nat} {cluster bytesToSeek : Word} {f : AfatfsFile} (ok : FilesOk volume chains)
    (isCluster : (chains (.file file))[k]? = some cluster)
    (cursor : CursorAt volume.afatfs.link volume.afatfs.clusterSize.toNat (chains (.file file)) f k)
    (sum : (f.cursorOffset + bytesToSeek).toNat = (k + 1) * volume.afatfs.clusterSize.toNat) :
    CursorAt volume.afatfs.link volume.afatfs.clusterSize.toNat (chains (.file file))
      (f.enterCluster (volume.fatValue cluster) bytesToSeek) (k + 1) := by
  obtain ⟨inside, isCluster⟩ := List.getElem?_eq_some_iff.mp isCluster
  have threads := ok.separate.threads (.file file)
  have next := threads.next_getElem inside
  rw [isCluster] at next
  have used : volume.fatTable cluster ≠ none := by
    rw [next]
    simp
  have positive := ok.geometry.clusterSize_pos
  have here : volume.afatfs.link f.cursorCluster = some cluster := by
    rw [cursor.here, List.getElem?_eq_getElem inside, isCluster]
  refine ⟨inside, ?_, ?_, sum.ge, ?_, fun _ => sum⟩
  · have leads : volume.afatfs.link (volume.fatValue cluster) = volume.fatTable.next cluster := Afatfs.link_fatValue used
    rw [AfatfsFile.enterCluster, leads, Table.next, next]
    rfl
  · rw [AfatfsFile.enterCluster, Afatfs.link_eq_some here, List.take_succ_eq_append_getElem inside, isCluster]
    simp
  · intro _
    change (f.cursorOffset + bytesToSeek).toNat < _
    rw [sum, Nat.succ_mul (k + 1)]
    omega

/-- A file that is not busy, or only with a seek, has its cursor in its chain. -/
theorem OperationOk.seeking {link : Word → Option Word} {size limit : Nat} {chain pending : List Word} {f : AfatfsFile}
    (good : OperationOk link size limit chain pending f)
    (seeks : f.operation = .none ∨ ∃ seekOffset, f.operation = .seek seekOffset) : AtRest link size chain pending f := by
  rw [OperationOk] at good
  rcases seeks with idle | ⟨seekOffset, seeks⟩
  · rwa [idle] at good
  · rw [seeks] at good
    exact good.1

/-- The cursor of a file enters the next cluster, and the file goes on seeking or does not. -/
theorem FilesOk.enter {k : Nat} {cluster bytesToSeek : Word} {operation : FileOperation} {change : AfatfsFile → AfatfsFile}
    (ok : FilesOk volume chains) (normal : (volume.afatfs.files file).HasChain file)
    (unlocked : (volume.afatfs.files file).Unlocked)
    (changed : change (volume.afatfs.files file) =
      { (volume.afatfs.files file).enterCluster (volume.fatValue cluster) bytesToSeek with operation })
    (busy : file = .currentDirectory → operation = .none)
    (seeks : (volume.afatfs.files file).operation = .none ∨ ∃ seekOffset, (volume.afatfs.files file).operation = .seek seekOffset)
    (goesOn : operation = .none ∨ ∃ seekOffset, operation = .seek seekOffset ∧
      ((volume.afatfs.files file).cursorOffset + bytesToSeek).toNat + seekOffset.toNat ≤
        (chains (.file file)).length * volume.afatfs.clusterSize.toNat)
    (isCluster : (chains (.file file))[k]? = some cluster)
    (cursor : CursorAt volume.afatfs.link volume.afatfs.clusterSize.toNat (chains (.file file)) (volume.afatfs.files file) k)
    (sum : ((volume.afatfs.files file).cursorOffset + bytesToSeek).toNat = (k + 1) * volume.afatfs.clusterSize.toNat) :
    Works file written volume chains { volume with afatfs := volume.afatfs.updateFile file change } chains := by
  have shape := (ok.isOpen file normal).shape
  have nothing := (shape.operation.seeking seeks).1
  have entered := ok.enterCluster isCluster cursor sum
  have rest : AtRest volume.afatfs.link volume.afatfs.clusterSize.toNat (chains (.file file)) (chains (.pending file))
      { (volume.afatfs.files file).enterCluster (volume.fatValue cluster) bytesToSeek with operation } :=
    ⟨nothing, k + 1, entered.congr rfl rfl rfl⟩
  have idle {α : Type} (value : FileOperation → α) (same : ∀ seekOffset, value (.seek seekOffset) = value .none)
      {operation : FileOperation} (seeks : operation = .none ∨ ∃ seekOffset, operation = .seek seekOffset) :
      value operation = value .none := by
    rcases seeks with rfl | ⟨seekOffset, rfl⟩
    · rfl
    · exact same seekOffset
  have goesOn' : operation = .none ∨ ∃ seekOffset, operation = .seek seekOffset :=
    goesOn.imp id fun ⟨seekOffset, seeks, _⟩ => ⟨seekOffset, seeks⟩
  refine ok.record normal (.inl unlocked) (by rw [changed]; exact ⟨rfl, rfl, rfl, rfl⟩) (by rw [changed]; rfl)
    (by rw [changed]; rfl) (by rw [changed]; exact busy) ?_ (by rw [changed]; rfl) ?_
    (fun _ => .inl (idle FileOperation.unsaved (fun _ => rfl) seeks)) (.inr (.inl (by rw [changed]; rfl))) ?_
  · rw [changed, idle FileOperation.opening (fun _ => rfl) seeks, idle FileOperation.opening (fun _ => rfl) goesOn']
  · rw [changed, idle FileOperation.pendingCluster (fun _ => rfl) seeks,
      idle FileOperation.pendingCluster (fun _ => rfl) goesOn']
  · rw [changed]
    refine ⟨?_, ?_, ?_, ?_, shape.directory, .inl unlocked⟩
    · rcases goesOn with rfl | ⟨seekOffset, rfl, bound⟩
      · exact rest
      · exact ⟨rest, unlocked, bound⟩
    · have physical := shape.physical
      rw [idle FileOperation.appending (fun _ => rfl) seeks] at physical
      rw [idle FileOperation.appending (fun _ => rfl) goesOn']
      exact physical
    · have room := shape.room
      rw [idle FileOperation.appending (fun _ => rfl) seeks] at room
      rw [idle FileOperation.appending (fun _ => rfl) goesOn']
      exact room
    · have logical := shape.logical
      rw [idle FileOperation.closing (fun _ => rfl) seeks] at logical
      rw [idle FileOperation.closing (fun _ => rfl) goesOn']
      exact logical

/-- The number of the next cluster is looked up, and the cursor enters it. -/
theorem FilesOk.entered {k : Nat} {cluster bytesToSeek : Word} {operation : FileOperation} {change : AfatfsFile → AfatfsFile}
    {looked : Volume} (ok : FilesOk volume chains) (normal : (volume.afatfs.files file).HasChain file)
    (unlocked : (volume.afatfs.files file).Unlocked) (turns : Turns volume volume.content looked)
    (changed : change (volume.afatfs.files file) =
      { (volume.afatfs.files file).enterCluster (volume.fatValue cluster) bytesToSeek with operation })
    (busy : file = .currentDirectory → operation = .none)
    (seeks : (volume.afatfs.files file).operation = .none ∨ ∃ seekOffset, (volume.afatfs.files file).operation = .seek seekOffset)
    (goesOn : operation = .none ∨ ∃ seekOffset, operation = .seek seekOffset ∧
      ((volume.afatfs.files file).cursorOffset + bytesToSeek).toNat + seekOffset.toNat ≤
        (chains (.file file)).length * volume.afatfs.clusterSize.toNat)
    (isCluster : (chains (.file file))[k]? = some cluster)
    (cursor : CursorAt volume.afatfs.link volume.afatfs.clusterSize.toNat (chains (.file file)) (volume.afatfs.files file) k)
    (sum : ((volume.afatfs.files file).cursorOffset + bytesToSeek).toNat = (k + 1) * volume.afatfs.clusterSize.toNat) :
    Works file written volume chains { looked with afatfs := looked.afatfs.updateFile file change } chains := by
  have files := turns.files
  have works : Works file written volume chains looked chains :=
    ok.works_turns_same turns
  have link : looked.afatfs.link = volume.afatfs.link := turns.same Afatfs.link fun _ => rfl
  have size : looked.afatfs.clusterSize = volume.afatfs.clusterSize := turns.same Afatfs.clusterSize fun _ => rfl
  have legal := ok.isCluster (List.mem_of_getElem? isCluster)
  have value : looked.fatValue cluster = volume.fatValue cluster :=
    fatValue_congr ok.geometry turns.disk (fun sector _ => congrFun turns.content sector) legal.2
  apply works.trans
  apply works.ok.enter (k := k)
  · rw [files]
    exact normal
  · rw [files]
    exact unlocked
  · rw [files, value]
    exact changed
  · exact busy
  · rw [files]
    exact seeks
  · rw [files, size]
    exact goesOn
  · exact isCluster
  · rw [link, size, files]
    exact cursor
  · rw [files, size]
    exact sum

/-- The cluster of a cursor that is in the chain. -/
theorem CursorAt.cluster {afatfs : Afatfs} {size k : Nat} {chain : List Word} {f : AfatfsFile}
    (cursor : CursorAt afatfs.link size chain f k) (inside : k < chain.length) : chain[k]? = some f.cursorCluster := by
  have here := cursor.here
  rw [List.getElem?_eq_getElem inside] at here
  rw [List.getElem?_eq_getElem inside, Afatfs.link_eq_some here]

/-- A seek that is not done at once leaves the file where it was. -/
structure Stays (file : FileRef) (volume : Volume) (chains : Owner → List Word)
    (later : Volume) : Prop extends Works file NoSector volume chains later chains where
  same : later.content = volume.content
  record : (volume.afatfs.files file).OtherLocks (later.afatfs.files file)
  unlocked : (later.afatfs.files file).Unlocked

/-- A seek that is neither backwards nor over more than a cluster, in the numbers of C. -/
theorem le_of_not_slt {size offset offsetInCluster : Word} (small : size.toNat ≤ 65536)
    (inside : offsetInCluster.toNat < size.toNat) (room : offset.toNat + offsetInCluster.toNat < 2 ^ 32)
    (forward : ¬ size.slt offset) (backward : ¬ offset.slt (-offsetInCluster)) : offset.toNat ≤ size.toNat := by
  rw [BitVec.slt_iff_toInt_lt, BitVec.toInt_eq_toNat_cond, BitVec.toInt_eq_toNat_cond] at forward backward
  rw [BitVec.toNat_neg] at backward
  split_ifs at forward backward <;> omega

/-- Where the cursor is in its cluster, and that the rest of the cluster leads to the beginning of the next one. -/
theorem CursorAt.in_cluster {afatfs : Afatfs} {chain : List Word} {f : AfatfsFile} {k : Nat} (geometry : afatfs.Geometry)
    (cursor : CursorAt afatfs.link afatfs.clusterSize.toNat chain f k) (inside : k < chain.length)
    (short : chain.length * afatfs.clusterSize.toNat < 2 ^ 32) :
    k * afatfs.clusterSize.toNat + (afatfs.byteIndexInCluster f.cursorOffset).toNat = f.cursorOffset.toNat ∧
      (afatfs.clusterSize - afatfs.byteIndexInCluster f.cursorOffset).toNat =
        afatfs.clusterSize.toNat - (afatfs.byteIndexInCluster f.cursorOffset).toNat ∧
      (f.cursorOffset + (afatfs.clusterSize - afatfs.byteIndexInCluster f.cursorOffset)).toNat =
        (k + 1) * afatfs.clusterSize.toNat := by
  have inCluster := geometry.byteIndexInCluster_toNat f.cursorOffset
  have place := Nat.div_add_mod f.cursorOffset.toNat afatfs.clusterSize.toNat
  rw [cursor.div inside, Nat.mul_comm, ← inCluster] at place
  have below := cursor.high inside
  have next : (k + 1) * afatfs.clusterSize.toNat = k * afatfs.clusterSize.toNat + afatfs.clusterSize.toNat :=
    Nat.succ_mul _ _
  have least : (k + 1) * afatfs.clusterSize.toNat ≤ chain.length * afatfs.clusterSize.toNat := Nat.mul_le_mul_right _ inside
  have rest : (afatfs.clusterSize - afatfs.byteIndexInCluster f.cursorOffset).toNat =
      afatfs.clusterSize.toNat - (afatfs.byteIndexInCluster f.cursorOffset).toNat := by
    bv_omega
  refine ⟨place, rest, ?_⟩
  rw [BitVec.toNat_add, rest, Nat.mod_eq_of_lt (by omega)]
  omega

/-- If there are bytes behind the cursor, it is in a cluster. -/
theorem CursorAt.inside_of_room {link : Word → Option Word} {size k n : Nat} {chain : List Word} {f : AfatfsFile}
    (cursor : CursorAt link size chain f k) (more : 0 < n) (bound : f.cursorOffset.toNat + n ≤ chain.length * size) :
    k < chain.length := by
  by_contra outside
  have last : k = chain.length := le_antisymm cursor.bound (by omega)
  have stop := cursor.stop last
  rw [last] at stop
  omega

section Outside

variable {k : Nat}

/-- The cursor enters the next cluster, whose number was found, and goes on within that. -/
theorem wp_seekNext {looked : Volume} (ok : FilesOk volume chains) (normal : (volume.afatfs.files file).HasChain file)
    (idle : (volume.afatfs.files file).operation = .none) (unlocked : (volume.afatfs.files file).Unlocked)
    (cursor : CursorAt volume.afatfs.link volume.afatfs.clusterSize.toNat (chains (.file file)) (volume.afatfs.files file) k)
    (inside : k < (chains (.file file)).length) (turns : Turns volume volume.content looked)
    (bound : (volume.afatfs.files file).cursorOffset.toNat + offset.toNat ≤
      (chains (.file file)).length * volume.afatfs.clusterSize.toNat)
    (near : offset.toNat ≤ volume.afatfs.clusterSize.toNat)
    (beyond : volume.afatfs.clusterSize ≤ volume.afatfs.byteIndexInCluster (volume.afatfs.files file).cursorOffset + offset) :
    Wp (seekInCluster file (offset - (volume.afatfs.clusterSize -
        volume.afatfs.byteIndexInCluster (volume.afatfs.files file).cursorOffset)))
      (fun _ later => Sought file volume chains ((volume.afatfs.files file).cursorOffset.toNat + offset.toNat) later ∧
        (later.afatfs.files file).operation = .none)
      { looked with
        afatfs := looked.afatfs.updateFile file (AfatfsFile.enterCluster
          (volume.fatValue (volume.afatfs.files file).cursorCluster)
          (volume.afatfs.clusterSize - volume.afatfs.byteIndexInCluster (volume.afatfs.files file).cursorOffset)) } := by
  have short := ok.length_size normal (by rw [idle]; rfl)
  have few := ok.geometry.sectorsPerCluster_le
  have size := ok.geometry.clusterSize_toNat
  have isCluster := cursor.cluster inside
  obtain ⟨place, rest, sum⟩ := cursor.in_cluster ok.geometry inside short
  have below := cursor.high inside
  have next : (k + 1) * volume.afatfs.clusterSize.toNat =
    k * volume.afatfs.clusterSize.toNat + volume.afatfs.clusterSize.toNat := Nat.succ_mul _ _
  -- what is left of the seek behind the cluster
  have left : (offset - (volume.afatfs.clusterSize -
      volume.afatfs.byteIndexInCluster (volume.afatfs.files file).cursorOffset)).toNat + (k + 1) * volume.afatfs.clusterSize.toNat =
        (volume.afatfs.files file).cursorOffset.toNat + offset.toNat := by
    rw [BitVec.toNat_sub_of_le (by bv_omega), rest]
    bv_omega
  have files := turns.files
  have link : looked.afatfs.link = volume.afatfs.link := turns.same Afatfs.link fun _ => rfl
  have size' : looked.afatfs.clusterSize = volume.afatfs.clusterSize := turns.same Afatfs.clusterSize fun _ => rfl
  have enters : Works file NoSector volume chains
      { looked with
        afatfs := looked.afatfs.updateFile file (AfatfsFile.enterCluster
          (volume.fatValue (volume.afatfs.files file).cursorCluster)
          (volume.afatfs.clusterSize - volume.afatfs.byteIndexInCluster (volume.afatfs.files file).cursorOffset)) } chains :=
    ok.entered normal unlocked turns (by rw [AfatfsFile.enterCluster, idle]) (fun _ => rfl) (.inl idle) (.inl rfl) isCluster
      cursor sum
  have kind : SameKind (volume.afatfs.files file) ((looked.afatfs.updateFile file (AfatfsFile.enterCluster
      (volume.fatValue (volume.afatfs.files file).cursorCluster)
      (volume.afatfs.clusterSize - volume.afatfs.byteIndexInCluster (volume.afatfs.files file).cursorOffset))).files file) :=
    ⟨by simp [files, AfatfsFile.enterCluster], by simp [files, AfatfsFile.enterCluster]⟩
  have here : ((looked.afatfs.updateFile file (AfatfsFile.enterCluster
      (volume.fatValue (volume.afatfs.files file).cursorCluster)
      (volume.afatfs.clusterSize - volume.afatfs.byteIndexInCluster (volume.afatfs.files file).cursorOffset))).files
      file).cursorOffset.toNat = (k + 1) * volume.afatfs.clusterSize.toNat := by
    rw [Afatfs.updateFile_self, files]
    exact sum
  apply (seekInCluster_sought (k := k + 1) enters.ok (kind.hasChain.mpr normal)
    (by simpa [files, AfatfsFile.enterCluster] using idle)
    (by simpa [files, AfatfsFile.enterCluster, AfatfsFile.Unlocked] using unlocked) ?_ ?_ ?_).mono
  · rintro _ later ⟨sought, done⟩
    rw [here, Nat.add_comm, left] at sought
    exact ⟨sought.after enters turns.content kind (by simp [files, AfatfsFile.enterCluster]), done⟩
  · change CursorAt looked.afatfs.link looked.afatfs.clusterSize.toNat _ _ _
    rw [link, size']
    exact (ok.enterCluster isCluster cursor sum).congr (by simp [files]) (by simp [files]) (by simp [files])
  · intro _
    change _ < (k + 1 + 1) * looked.afatfs.clusterSize.toNat
    rw [here, size', Nat.succ_mul (k + 1)]
    omega
  · intro last
    rw [← last] at bound
    bv_omega

/-- The part of a seek that is for other sectors, of a file that is not busy and has no sector locked. -/
theorem wp_fseekOutside (ok : FilesOk volume chains) (normal : (volume.afatfs.files file).HasChain file)
    (idle : (volume.afatfs.files file).operation = .none) (unlocked : (volume.afatfs.files file).Unlocked)
    (nonzero : offset ≠ 0) (bound : (volume.afatfs.files file).cursorOffset.toNat + offset.toNat ≤
      (chains (.file file)).length * volume.afatfs.clusterSize.toNat) :
    Wp (fseekOutside file offset) (fun done later =>
      (done = true → Sought file volume chains ((volume.afatfs.files file).cursorOffset.toNat + offset.toNat) later ∧
        (later.afatfs.files file).operation = .none) ∧
      (done = false → Stays file volume chains later)) volume := by
  have short := ok.length_size normal (by rw [idle]; rfl)
  have few := ok.geometry.sectorsPerCluster_le
  have size := ok.geometry.clusterSize_toNat
  have good := (ok.isOpen file normal).shape.operation
  rw [OperationOk, idle] at good
  obtain ⟨-, k, cursor⟩ := good
  have inside := cursor.inside_of_room (by bv_omega) bound
  obtain ⟨place, -, -⟩ := cursor.in_cluster ok.geometry inside short
  have below := cursor.high inside
  have next : (k + 1) * volume.afatfs.clusterSize.toNat =
    k * volume.afatfs.clusterSize.toNat + volume.afatfs.clusterSize.toNat := Nat.succ_mul _ _
  rw [fseekOutside, wp_get_bind]
  simp only [normal.not_root, if_false]
  -- further than the next cluster, in it, or still in this one
  split_ifs with far beyond
  · exact (wp_pure _).mpr ⟨by simp, fun _ => ⟨.refl ok, rfl, ⟨_, _, rfl⟩, unlocked⟩⟩
  · rw [not_or] at far
    have near := le_of_not_slt (by omega) (by omega) (by omega) far.1 far.2
    apply Wp.bind
    apply (wp_fatGetNextCluster ok.coherent).mono
    rintro _ looked ⟨turns, rfl | rfl⟩
    · refine (wp_modify_bind _).mpr (Wp.bind ?_)
      apply (wp_seekNext ok normal idle unlocked cursor inside turns bound near beyond).mono
      intro _ later sought
      exact (wp_pure true).mpr ⟨fun _ => sought, by simp⟩
    · have files := turns.files
      refine (wp_pure _).mpr ⟨by simp, fun _ => ⟨?_, turns.content, ⟨_, _, by rw [files]⟩, by rw [files]; exact unlocked⟩⟩
      exact ok.works_turns_same turns
  · rw [not_or] at far
    have near := le_of_not_slt (by omega) (by omega) (by omega) far.1 far.2
    apply Wp.bind
    apply (seekInCluster_sought ok normal idle unlocked cursor (fun _ => ?_) fun last => absurd inside (by omega)).mono
    · intro _ later sought
      exact (wp_pure true).mpr ⟨fun _ => sought, by simp⟩
    · bv_omega

end Outside

theorem Stays.after {mid : Volume} (works : Works file NoSector volume chains mid chains)
    (same : mid.content = volume.content) (record : (volume.afatfs.files file).OtherLocks (mid.afatfs.files file))
    (stays : Stays file mid chains later) : Stays file volume chains later where
  toWorks := works.trans stays.toWorks
  same := stays.same.trans same
  record := by
    obtain ⟨_, _, before⟩ := record
    obtain ⟨write, read, after⟩ := stays.record
    exact ⟨write, read, by rw [after, before]⟩
  unlocked := stays.unlocked

/-- The rule of `afatfs_fseekAtomic`. -/
theorem wp_fseekAtomic (ok : FilesOk volume chains) (normal : (volume.afatfs.files file).HasChain file)
    (idle : (volume.afatfs.files file).operation = .none)
    (bound : (volume.afatfs.files file).cursorOffset.toNat + offset.toNat ≤
      (chains (.file file)).length * volume.afatfs.clusterSize.toNat) :
    Wp (fseekAtomic file offset) (fun done later =>
      (done = true → Sought file volume chains ((volume.afatfs.files file).cursorOffset.toNat + offset.toNat) later ∧
        (later.afatfs.files file).operation = .none) ∧
      (done = false → Stays file volume chains later)) volume := by
  have short := ok.length_size normal (by rw [idle]; rfl)
  have inSector : (offset + (volume.afatfs.files file).cursorOffset % 512).toNat =
      offset.toNat + (volume.afatfs.files file).cursorOffset.toNat % 512 := by
    rw [BitVec.toNat_add, BitVec.toNat_umod, show BitVec.toNat (512 : Word) = 512 from rfl, Nat.mod_eq_of_lt (by omega)]
  rw [fseekAtomic, wp_get_bind]
  -- within the sector it may stay locked, and further on it is let go first
  split_ifs with near
  · have near : offset.toNat + (volume.afatfs.files file).cursorOffset.toNat % 512 < 512 := inSector ▸ near
    have good := (ok.isOpen file normal).shape.operation
    rw [OperationOk, idle] at good
    obtain ⟨-, k, cursor⟩ := good
    have sum : ((volume.afatfs.files file).cursorOffset + offset).toNat =
        (volume.afatfs.files file).cursorOffset.toNat + offset.toNat := by
      rw [BitVec.toNat_add, Nat.mod_eq_of_lt (by omega)]
    have moved : CursorAt volume.afatfs.link volume.afatfs.clusterSize.toNat (chains (.file file))
        { volume.afatfs.files file with cursorOffset := (volume.afatfs.files file).cursorOffset + offset } k := by
      refine cursor.move rfl rfl ?_ ?_ ?_
      · have low := cursor.low
        rw [sum]
        omega
      · intro inside
        have high := cursor.high inside
        rw [sum]
        rw [ok.geometry.size_eq] at high ⊢
        omega
      · intro last
        have stop := cursor.stop last
        rw [← last] at bound
        rw [sum]
        omega
    have works : Works file NoSector volume chains { volume with
        afatfs := volume.afatfs.updateFile file fun f => { f with cursorOffset := f.cursorOffset + offset } } chains :=
      ok.moveCursor normal idle rfl moved (.inr (by rw [sum]; omega))
    refine (wp_modify_bind _).mpr ((wp_pure true).mpr ⟨fun _ => ⟨⟨works, rfl, ?_, ⟨by simp, by simp⟩, by simp,
      .inl (by simpa using idle)⟩, by simpa using idle⟩, by simp⟩)
    rw [target_of_idle (by simpa using idle)]
    simpa using sum
  · rw [wp_modify_bind]
    have works : Works file NoSector volume chains _ chains := ok.fileUnlockCacheSector (.inl normal)
    have record := fileUnlockCacheSector_file file volume.afatfs
    have nonzero : offset ≠ 0 := by
      rintro rfl
      apply near
      rw [BitVec.lt_def, inSector, show BitVec.toNat (0 : Word) = 0 from rfl, show BitVec.toNat (512 : Word) = 512 from rfl]
      omega
    apply (wp_fseekOutside works.ok (by rw [record]; exact normal) (by rw [record]; exact idle)
      (by rw [record]; exact ⟨rfl, rfl⟩) nonzero ?_).mono
    · rintro done later ⟨sought, stays⟩
      refine ⟨fun isDone => ?_, fun isNot => ?_⟩
      · obtain ⟨goes, ended⟩ := sought isDone
        rw [record] at goes
        exact ⟨goes.after works fileUnlockCacheSector_content (by rw [record]; exact ⟨rfl, rfl⟩) (by rw [record]), ended⟩
      · exact (stays isNot).after works fileUnlockCacheSector_content ⟨none, none, record⟩
    · rw [record, Afatfs.congr_disk Afatfs.clusterSize (fun _ => rfl) works.disk]
      exact bound

/-! ## A seek that may have to wait -/

/-- The rule of `afatfs_fseekInternal`: the seek is done or queued. -/
theorem wp_fseekInternal (ok : FilesOk volume chains) (normal : (volume.afatfs.files file).HasChain file)
    (notCurrent : file ≠ .currentDirectory) (idle : (volume.afatfs.files file).operation = .none)
    (bound : (volume.afatfs.files file).cursorOffset.toNat + offset.toNat ≤
      (chains (.file file)).length * volume.afatfs.clusterSize.toNat) :
    Wp (fseekInternal file offset) (fun status later =>
      Sought file volume chains ((volume.afatfs.files file).cursorOffset.toNat + offset.toNat) later ∧
        (status = .success ∧ (later.afatfs.files file).operation = .none ∨ status = .inProgress)) volume := by
  rw [fseekInternal]
  apply Wp.bind
  apply (wp_fseekAtomic ok normal idle bound).mono
  intro done mid goes
  cases done with
  | true =>
    obtain ⟨sought, ended⟩ := goes.1 rfl
    exact (wp_pure _).mpr ⟨sought, .inl ⟨rfl, ended⟩⟩
  | false =>
    have stays := goes.2 rfl
    obtain ⟨write, read, record⟩ := stays.record
    have idle' : (mid.afatfs.files file).operation = .none := by rw [record]; exact idle
    have normal' : (mid.afatfs.files file).HasChain file := by rw [record]; exact normal
    have good := (stays.ok.isOpen file normal').shape.operation
    rw [OperationOk, idle'] at good
    have size : mid.afatfs.clusterSize = volume.afatfs.clusterSize :=
      Afatfs.congr_disk Afatfs.clusterSize (fun _ => rfl) stays.disk
    -- what cannot be done at once is queued from where the cursor is
    have queued : Works file NoSector mid chains
        { mid with afatfs := mid.afatfs.updateFile file fun f => { f with operation := .seek offset } } chains := by
      refine stays.ok.setOperation normal' stays.unlocked ?_ ?_ ?_ (.inr notCurrent) ?_ (fun _ => .inl (by rw [idle']; rfl))
        ⟨good.congr rfl rfl rfl, stays.unlocked, ?_⟩
      · rw [idle']
        rfl
      · rw [idle']
        rfl
      · rw [idle']
        exact fun _ => rfl
      · rw [idle']
        rfl
      · rw [record, size]
        exact bound
    simp only [Bool.false_eq_true, if_false]
    rw [wp_get_bind]
    simp only [AfatfsFile.isBusy, idle', ne_eq, not_true_eq_false, decide_false, Bool.false_eq_true, if_false]
    refine (wp_modify_bind _).mpr ((wp_pure _).mpr ⟨⟨stays.toWorks.trans queued, stays.same, ?_, ?_, ?_, ?_⟩, .inr rfl⟩)
    · simp [AfatfsFile.target, record]
    · exact ⟨by simp [record], by simp [record]⟩
    · simp [record]
    · simp

/-- What a part of a seek that was queued has made of a file. -/
structure Advanced (file : FileRef) (volume : Volume) (chains : Owner → List Word)
    (later : Volume) : Prop extends Works file NoSector volume chains later chains where
  same : later.content = volume.content
  target : (later.afatfs.files file).target = (volume.afatfs.files file).target
  kind : SameKind (volume.afatfs.files file) (later.afatfs.files file)
  moving : (later.afatfs.files file).operation = .none ∨ ∃ seekOffset, (later.afatfs.files file).operation = .seek seekOffset
  logical : (later.afatfs.files file).logicalSize.toNat = max (volume.afatfs.files file).logicalSize.toNat
      (volume.afatfs.files file).target ∧ (later.afatfs.files file).operation = .none ∨
    (later.afatfs.files file).logicalSize = (volume.afatfs.files file).logicalSize ∧
      (later.afatfs.files file).operation ≠ .none

theorem Advanced.after {mid : Volume} (works : Works file NoSector volume chains mid chains)
    (same : mid.content = volume.content) (target : (mid.afatfs.files file).target = (volume.afatfs.files file).target)
    (kind : SameKind (volume.afatfs.files file) (mid.afatfs.files file))
    (logical : (mid.afatfs.files file).logicalSize = (volume.afatfs.files file).logicalSize)
    (advanced : Advanced file mid chains later) : Advanced file volume chains later where
  toWorks := works.trans advanced.toWorks
  same := advanced.same.trans same
  target := advanced.target.trans target
  kind := kind.trans advanced.kind
  moving := advanced.moving
  logical := by
    rw [← logical, ← target]
    exact advanced.logical

/-- The end of a seek that was queued. -/
def AfatfsFile.endSeek (seekOffset : Word) (f : AfatfsFile) : AfatfsFile :=
  { ({ f with cursorOffset := f.cursorOffset + seekOffset } : AfatfsFile).updateFilesize with operation := .none }

theorem updateFilesize_toNat {f : AfatfsFile} :
    f.updateFilesize.logicalSize.toNat = max f.logicalSize.toNat f.cursorOffset.toNat := by
  rw [AfatfsFile.updateFilesize]
  dsimp only
  split_ifs with more
  · exact (max_eq_left (by bv_omega)).symm
  · exact (max_eq_right (by bv_omega)).symm

theorem endSeek_advanced {k : Nat} {seekOffset : Word} (ok : FilesOk volume chains)
    (normal : (volume.afatfs.files file).HasChain file) (seeks : (volume.afatfs.files file).operation = .seek seekOffset)
    (cursor : CursorAt volume.afatfs.link volume.afatfs.clusterSize.toNat (chains (.file file)) (volume.afatfs.files file) k)
    (high : k < (chains (.file file)).length →
      (volume.afatfs.files file).cursorOffset.toNat + seekOffset.toNat < (k + 1) * volume.afatfs.clusterSize.toNat) :
    Advanced file volume chains
      { volume with afatfs := volume.afatfs.updateFile file (AfatfsFile.endSeek seekOffset) } := by
  have shape := (ok.isOpen file normal).shape
  have good := shape.operation
  rw [OperationOk, seeks] at good
  obtain ⟨⟨nothing, -⟩, unlocked, bound⟩ := good
  have short := ok.length_size normal (by rw [seeks]; rfl)
  have sum : ((volume.afatfs.files file).cursorOffset + seekOffset).toNat =
      (volume.afatfs.files file).cursorOffset.toNat + seekOffset.toNat := by
    rw [BitVec.toNat_add, Nat.mod_eq_of_lt (by omega)]
  have target : (volume.afatfs.files file).target = (volume.afatfs.files file).cursorOffset.toNat + seekOffset.toNat := by
    rw [AfatfsFile.target, seeks]
  have logical : ((volume.afatfs.files file).endSeek seekOffset).logicalSize.toNat =
      max (volume.afatfs.files file).logicalSize.toNat (volume.afatfs.files file).target := by
    rw [AfatfsFile.endSeek, updateFilesize_toNat, sum, target]
  have moved : CursorAt volume.afatfs.link volume.afatfs.clusterSize.toNat (chains (.file file))
      ((volume.afatfs.files file).endSeek seekOffset) k := by
    refine cursor.move rfl rfl ?_ ?_ ?_
    · have low := cursor.low
      change _ ≤ ((volume.afatfs.files file).cursorOffset + seekOffset).toNat
      rw [sum]
      omega
    · intro inside
      change ((volume.afatfs.files file).cursorOffset + seekOffset).toNat < _
      rw [sum]
      exact high inside
    · intro last
      have stop := cursor.stop last
      change ((volume.afatfs.files file).cursorOffset + seekOffset).toNat = _
      rw [← last] at bound
      rw [sum]
      omega
  refine ⟨ok.record normal (.inl unlocked) ⟨rfl, rfl, rfl, rfl⟩ rfl rfl (fun _ => rfl) ?_ rfl ?_
    (fun _ => .inl (by rw [seeks]; rfl)) (.inl rfl) ⟨⟨nothing, k, moved⟩, ?_, short, ?_, shape.directory, .inl unlocked⟩, rfl, ?_, ⟨?_, ?_⟩, .inl ?_, .inl ⟨?_, ?_⟩⟩
  · rw [seeks]
    rfl
  · rw [seeks]
    rfl
  · have physical := shape.physical
    rw [seeks] at physical
    exact physical
  · intro _
    have before := shape.logical (by rw [seeks]; rfl)
    rw [logical, target]
    omega
  · rw [Afatfs.updateFile_self, target]
    exact sum
  · rw [Afatfs.updateFile_self]
    rfl
  · rw [Afatfs.updateFile_self]
    rfl
  · rw [Afatfs.updateFile_self]
    rfl
  · rw [Afatfs.updateFile_self]
    exact logical
  · rw [Afatfs.updateFile_self]
    rfl

section Pass

variable {loop : SeekLoop} {k : Nat}

/-- What a pass leaves to the next one. -/
structure SeekGoesOn (file : FileRef) (volume : Volume) (chains : Owner → List Word) (loop loop' : SeekLoop)
    (later : Volume) : Prop extends Works file NoSector volume chains later chains where
  same : later.content = volume.content
  target : (later.afatfs.files file).target = (volume.afatfs.files file).target
  kind : SameKind (volume.afatfs.files file) (later.afatfs.files file)
  logical : (later.afatfs.files file).logicalSize = (volume.afatfs.files file).logicalSize
  seeks : (later.afatfs.files file).operation = .seek loop'.seekOffset
  place : loop'.offsetInCluster = later.afatfs.byteIndexInCluster (later.afatfs.files file).cursorOffset
  less : loop'.seekOffset.toNat < loop.seekOffset.toNat

/-- The number of the next cluster was found. -/
theorem seekGoesOn {looked : Volume} (ok : FilesOk volume chains) (normal : (volume.afatfs.files file).HasChain file)
    (seeks : (volume.afatfs.files file).operation = .seek loop.seekOffset)
    (place : loop.offsetInCluster = volume.afatfs.byteIndexInCluster (volume.afatfs.files file).cursorOffset)
    (cursor : CursorAt volume.afatfs.link volume.afatfs.clusterSize.toNat (chains (.file file)) (volume.afatfs.files file) k)
    (inside : k < (chains (.file file)).length) (turns : Turns volume volume.content looked)
    (beyond : volume.afatfs.clusterSize ≤ loop.offsetInCluster + loop.seekOffset) :
    SeekGoesOn file volume chains loop
      { seekOffset := loop.seekOffset - (volume.afatfs.clusterSize - loop.offsetInCluster), offsetInCluster := 0 }
      { looked with
        afatfs := looked.afatfs.updateFile file fun f =>
          { f.enterCluster (volume.fatValue (volume.afatfs.files file).cursorCluster)
              (volume.afatfs.clusterSize - loop.offsetInCluster) with
            operation := .seek (loop.seekOffset - (volume.afatfs.clusterSize - loop.offsetInCluster)) } } := by
  have good := (ok.isOpen file normal).shape.operation
  rw [OperationOk, seeks] at good
  obtain ⟨-, unlocked, bound⟩ := good
  have short := ok.length_size normal (by rw [seeks]; rfl)
  have few := ok.geometry.sectorsPerCluster_le
  have size := ok.geometry.clusterSize_toNat
  obtain ⟨here, rest, sum⟩ := cursor.in_cluster ok.geometry inside short
  rw [← place] at here rest sum
  have below := cursor.high inside
  have next : (k + 1) * volume.afatfs.clusterSize.toNat =
    k * volume.afatfs.clusterSize.toNat + volume.afatfs.clusterSize.toNat := Nat.succ_mul _ _
  have covers : volume.afatfs.clusterSize.toNat ≤ loop.offsetInCluster.toNat + loop.seekOffset.toNat := by bv_omega
  have left : (loop.seekOffset - (volume.afatfs.clusterSize - loop.offsetInCluster)).toNat =
      loop.seekOffset.toNat - (volume.afatfs.clusterSize.toNat - loop.offsetInCluster.toNat) := by
    rw [BitVec.toNat_sub_of_le (by bv_omega), rest]
  have files := turns.files
  have notCurrent : file ≠ .currentDirectory := ok.elsewhere_of_busy (by simp [seeks])
  have enters : Works file NoSector volume chains
      { looked with
        afatfs := looked.afatfs.updateFile file fun f =>
          { f.enterCluster (volume.fatValue (volume.afatfs.files file).cursorCluster)
              (volume.afatfs.clusterSize - loop.offsetInCluster) with
            operation := .seek (loop.seekOffset - (volume.afatfs.clusterSize - loop.offsetInCluster)) } } chains :=
    ok.entered normal unlocked turns rfl (fun here => absurd here notCurrent) (.inr ⟨_, seeks⟩) (.inr ⟨_, rfl, by omega⟩)
      (cursor.cluster inside) cursor sum
  refine ⟨enters, turns.content, ?_, ⟨?_, ?_⟩, ?_, ?_, ?_, ?_⟩
  · simp only [Afatfs.updateFile_self, files, AfatfsFile.target, seeks]
    change ((volume.afatfs.files file).cursorOffset + _).toNat + _ = _
    omega
  · simp [files, AfatfsFile.enterCluster]
  · simp [files, AfatfsFile.enterCluster]
  · simp [files, AfatfsFile.enterCluster]
  · simp
  · apply BitVec.eq_of_toNat_eq
    rw [enters.ok.geometry.byteIndexInCluster_toNat]
    change 0 = _ % looked.afatfs.clusterSize.toNat
    rw [Afatfs.updateFile_self, files, turns.same Afatfs.clusterSize fun _ => rfl]
    change 0 = ((volume.afatfs.files file).cursorOffset + _).toNat % _
    rw [sum, Nat.mul_mod_left]
  · change (loop.seekOffset - _).toNat < _
    omega

/-- The last pass. -/
theorem wp_seekLast (ok : FilesOk volume chains) (normal : (volume.afatfs.files file).HasChain file)
    (seeks : (volume.afatfs.files file).operation = .seek loop.seekOffset)
    (place : loop.offsetInCluster = volume.afatfs.byteIndexInCluster (volume.afatfs.files file).cursorOffset)
    (cursor : CursorAt volume.afatfs.link volume.afatfs.clusterSize.toNat (chains (.file file)) (volume.afatfs.files file) k)
    (last : ¬ (volume.afatfs.clusterSize ≤ loop.offsetInCluster + loop.seekOffset ∧
      (!volume.afatfs.isEndOfAllocatedFile file) = true)) :
    Wp (do
        seekInCluster file loop.seekOffset
        modifyFile file AfatfsFile.updateFilesize
        setOperation file .none
        pure (.leave true : Pass SeekLoop Bool))
      (fun pass later => pass = .leave true ∧ Advanced file volume chains later) volume := by
  have good := (ok.isOpen file normal).shape.operation
  rw [OperationOk, seeks] at good
  obtain ⟨-, -, bound⟩ := good
  have short := ok.length_size normal (by rw [seeks]; rfl)
  have few := ok.geometry.sectorsPerCluster_le
  have size := ok.geometry.clusterSize_toNat
  have inCluster := ok.geometry.byteIndexInCluster_toNat (volume.afatfs.files file).cursorOffset
  rw [← place] at inCluster
  -- at the end of the chain there is nothing left to move
  have ends : (if volume.afatfs.isEndOfAllocatedFile file then volume.afatfs else volume.afatfs.updateFile file
      fun f => { f with cursorOffset := f.cursorOffset + loop.seekOffset }) =
      volume.afatfs.updateFile file fun f => { f with cursorOffset := f.cursorOffset + loop.seekOffset } := by
    split_ifs with ends
    · rw [isEndOfAllocatedFile_iff normal, cursor.here] at ends
      have isLast : k = (chains (.file file)).length := le_antisymm cursor.bound (List.getElem?_eq_none_iff.mp ends)
      have stop := cursor.stop isLast
      rw [← isLast] at bound
      have zero : loop.seekOffset = 0 := by bv_omega
      simp [Afatfs.updateFile, zero]
    · rfl
  rw [seekInCluster, wp_modify_bind, modifyFile, wp_modify_bind, setOperation, modifyFile, wp_modify_bind, ends]
  refine (wp_pure _).mpr ⟨rfl, ?_⟩
  simp only [Afatfs.updateFile_updateFile]
  apply endSeek_advanced ok normal seeks cursor
  intro inside
  have notEnd : volume.afatfs.isEndOfAllocatedFile file = false := by
    rw [← Bool.not_eq_true, isEndOfAllocatedFile_iff normal, cursor.here, List.getElem?_eq_getElem inside]
    simp
  have place := Nat.div_add_mod (volume.afatfs.files file).cursorOffset.toNat volume.afatfs.clusterSize.toNat
  rw [cursor.div inside, Nat.mul_comm, ← inCluster] at place
  have near : ¬ volume.afatfs.clusterSize ≤ loop.offsetInCluster + loop.seekOffset := by simpa [notEnd] using last
  rw [Nat.succ_mul]
  bv_omega

/-- The rule of a pass of the loop. -/
theorem wp_seekPass (ok : FilesOk volume chains) (normal : (volume.afatfs.files file).HasChain file)
    (seeks : (volume.afatfs.files file).operation = .seek loop.seekOffset)
    (place : loop.offsetInCluster = volume.afatfs.byteIndexInCluster (volume.afatfs.files file).cursorOffset) :
    Wp (seekPass file loop) (fun pass later => (∃ loop', pass = .again loop' ∧ SeekGoesOn file volume chains loop loop' later) ∨
      (∃ done, pass = .leave done) ∧ Advanced file volume chains later) volume := by
  have good := (ok.isOpen file normal).shape.operation
  rw [OperationOk, seeks] at good
  obtain ⟨⟨-, k, cursor⟩, -⟩ := good
  rw [seekPass, wp_get_bind]
  split_ifs with more
  · have leads : volume.afatfs.link (volume.afatfs.files file).cursorCluster ≠ none := by
      have notEnd := more.2
      rw [Bool.not_eq_true', ← Bool.not_eq_true, isEndOfAllocatedFile_iff normal] at notEnd
      exact notEnd
    obtain ⟨inside, -⟩ := cursor.inside leads
    apply Wp.bind
    apply (wp_fatGetNextCluster ok.coherent).mono
    rintro _ looked ⟨turns, rfl | rfl⟩
    · refine (wp_modify_bind _).mpr ((wp_modify_bind _).mpr ((wp_pure _).mpr (.inl ⟨_, rfl, ?_⟩)))
      rw [Afatfs.updateFile_updateFile]
      exact seekGoesOn ok normal seeks place cursor inside turns more.1
    · have files := turns.files
      refine (wp_pure _).mpr (.inr ⟨⟨_, rfl⟩, ok.works_turns_same turns, turns.content,
        by rw [files], .of_eq (congrFun files file), .inr ⟨_, by rw [files]; exact seeks⟩, .inr ⟨by rw [files], ?_⟩⟩)
      rw [files, seeks]
      simp
  · apply (wp_seekLast ok normal seeks place cursor more).mono
    rintro _ later ⟨rfl, advanced⟩
    exact .inr ⟨⟨_, rfl⟩, advanced⟩

/-- The passes of the loop. -/
theorem wp_seekPasses {fuel : Nat} (ok : FilesOk volume chains) (normal : (volume.afatfs.files file).HasChain file)
    (seeks : (volume.afatfs.files file).operation = .seek loop.seekOffset)
    (place : loop.offsetInCluster = volume.afatfs.byteIndexInCluster (volume.afatfs.files file).cursorOffset)
    (enough : loop.seekOffset.toNat < fuel) :
    Wp (repeated (seekPass file) fuel loop) (fun _ later => Advanced file volume chains later) volume := by
  induction fuel generalizing volume loop with
  | zero => omega
  | succ fuel ih =>
    rw [repeated]
    apply Wp.bind
    apply (wp_seekPass ok normal seeks place).mono
    rintro _ mid (⟨loop', rfl, goesOn⟩ | ⟨⟨done, rfl⟩, advanced⟩)
    · have less := goesOn.less
      apply (ih goesOn.ok (goesOn.kind.hasChain.mpr normal) goesOn.seeks goesOn.place (by omega)).mono
      intro _ later advanced
      exact advanced.after goesOn.toWorks goesOn.same goesOn.target goesOn.kind goesOn.logical
    · exact (wp_pure _).mpr advanced

end Pass

/-- The rule of `afatfs_fseekInternalContinue`. -/
theorem wp_fseekInternalContinue {seekOffset : Word} (ok : FilesOk volume chains)
    (normal : (volume.afatfs.files file).HasChain file) (seeks : (volume.afatfs.files file).operation = .seek seekOffset) :
    Wp (fseekInternalContinue file seekOffset) (fun _ later => Advanced file volume chains later) volume := by
  rw [fseekInternalContinue, wp_get_bind]
  exact wp_seekPasses ok normal seeks rfl (Nat.lt_add_of_pos_right Nat.two_pos)

/-! ## `afatfs_fseek` -/

/-- The record of a file whose cursor is at its beginning. -/
def AfatfsFile.rewound (f : AfatfsFile) : AfatfsFile :=
  { f with
    writeLockedCacheIndex := none
    readRetainCacheIndex := none
    cursorPreviousCluster := 0
    cursorCluster := f.firstCluster
    cursorOffset := 0 }

/-- The cursor goes to the beginning of the file. -/
theorem wp_rewind (ok : FilesOk volume chains) (normal : (volume.afatfs.files file).HasChain file)
    (idle : (volume.afatfs.files file).operation = .none) :
    Wp (rewind file) (fun _ later => Works file NoSector volume chains later chains ∧
      later.content = volume.content ∧ later.afatfs.files file = (volume.afatfs.files file).rewound) volume := by
  have works : Works file NoSector volume chains _ chains := ok.fileUnlockCacheSector (.inl normal)
  have record := fileUnlockCacheSector_file file volume.afatfs
  have shape := (works.ok.isOpen file (by rw [record]; exact normal)).shape
  have good := shape.operation
  rw [OperationOk, record] at good
  simp only [idle] at good
  have start := (works.ok.separate.threads (.file file)).start_eq
  have chained : ((volume.afatfs.fileUnlockCacheSector file).files file).HasChain file := by
    rw [record]
    exact normal
  rw [Afatfs.starts, if_pos chained, record] at start
  rw [rewind, wp_modify_bind, modifyFile, wp_modify]
  refine ⟨works.trans ?_, ?_, ?_⟩
  · refine works.ok.record chained (.inl (by rw [record]; exact ⟨rfl, rfl⟩)) ⟨rfl, rfl, rfl, rfl⟩ rfl rfl
      (fun _ => by rw [record]; exact idle) rfl rfl rfl (fun unsaved => .inl unsaved) (.inr (.inl rfl))
      ⟨?_, shape.physical, shape.room, shape.logical, shape.directory, .inl (by rw [record]; exact ⟨rfl, rfl⟩)⟩
    rw [OperationOk, record]
    simp only [idle]
    refine ⟨good.1, 0, Nat.zero_le _, ?_, rfl, ?_, fun _ => ?_, fun _ => ?_⟩
    · rw [start, List.head?_eq_getElem?]
    · simp
    · simpa using works.ok.geometry.clusterSize_pos
    · simp
  · exact fileUnlockCacheSector_content
  · rw [Afatfs.updateFile_self, record]
    rfl

/-- A seek from the beginning of the file, not behind its end. -/
theorem wp_seekFromStart (ok : FilesOk volume chains) (normal : (volume.afatfs.files file).HasChain file)
    (notCurrent : file ≠ .currentDirectory) (idle : (volume.afatfs.files file).operation = .none) :
    Wp (seekFromStart file offset) (fun status later => Sought file volume chains
        (min offset.toNat (volume.afatfs.files file).logicalSize.toNat) later ∧
      (status = .success → (later.afatfs.files file).operation = .none)) volume := by
  rw [seekFromStart]
  apply Wp.bind
  apply (wp_rewind ok normal idle).mono
  rintro _ mid ⟨works, content, record⟩
  have least := minimum_toNat offset (volume.afatfs.files file).logicalSize
  have logical := (ok.isOpen file normal).shape.logical (by rw [idle]; rfl)
  have size : mid.afatfs.clusterSize = volume.afatfs.clusterSize :=
    Afatfs.congr_disk Afatfs.clusterSize (fun _ => rfl) works.disk
  rw [wp_get_bind, record]
  apply (wp_fseekInternal works.ok (by rw [record]; exact normal) notCurrent (by rw [record]; exact idle) ?_).mono
  · rintro status later ⟨sought, done⟩
    rw [record] at sought
    have here : ((volume.afatfs.files file).rewound.cursorOffset.toNat +
        (minimum offset (volume.afatfs.files file).rewound.logicalSize).toNat) =
        min offset.toNat (volume.afatfs.files file).logicalSize.toNat := by
      rw [← least]
      exact Nat.zero_add _
    rw [here] at sought
    refine ⟨sought.after works content (by rw [record]; exact ⟨rfl, rfl⟩) (by rw [record]; rfl), fun succeeds => ?_⟩
    rcases done with ⟨-, ended⟩ | waits
    · exact ended
    · rw [succeeds] at waits
      cases waits
  · rw [record, size]
    change 0 + (minimum offset (volume.afatfs.files file).logicalSize).toNat ≤ _
    rw [least]
    omega

theorem CursorAt.le {link : Word → Option Word} {size k : Nat} {chain : List Word} {f : AfatfsFile}
    (cursor : CursorAt link size chain f k) : f.cursorOffset.toNat ≤ chain.length * size := by
  by_cases inside : k < chain.length
  · exact (cursor.high inside).le.trans (Nat.mul_le_mul_right _ inside)
  · have last : k = chain.length := le_antisymm cursor.bound (by omega)
    rw [cursor.stop last, last]

/-- The size is brought up to date. -/
theorem FilesOk.updateFilesize (ok : FilesOk volume chains) (normal : (volume.afatfs.files file).HasChain file)
    (idle : (volume.afatfs.files file).operation = .none) :
    Works file written volume chains
      { volume with afatfs := volume.afatfs.updateFile file AfatfsFile.updateFilesize } chains := by
  have shape := (ok.isOpen file normal).shape
  have good := shape.operation
  rw [OperationOk, idle] at good
  obtain ⟨nothing, k, cursor⟩ := good
  refine ok.record normal (.inr rfl) ⟨rfl, rfl, rfl, rfl⟩ rfl rfl (fun _ => idle) rfl rfl rfl .inl
    (.inl (by rw [AfatfsFile.updateFilesize, idle]; rfl)) ⟨?_, shape.physical, shape.room, ?_, shape.directory, shape.inside⟩
  · simp only [OperationOk, AfatfsFile.updateFilesize, idle]
    exact ⟨nothing, k, cursor.congr rfl rfl rfl⟩
  · intro closing
    have before := shape.logical closing
    have here := cursor.le
    rw [updateFilesize_toNat]
    omega

/-- What a seek has made of a file when it returns. -/
structure Seeks (file : FileRef) (volume : Volume) (chains : Owner → List Word) (target : Nat)
    (status : OperationStatus) (later : Volume) : Prop extends Works file NoSector volume chains later chains where
  same : later.content = volume.content
  target : (later.afatfs.files file).target = target
  kind : SameKind (volume.afatfs.files file) (later.afatfs.files file)
  closing : (later.afatfs.files file).operation.closing = false
  logical : (later.afatfs.files file).logicalSize = (volume.afatfs.files file).updateFilesize.logicalSize
  ended : status = .success → (later.afatfs.files file).operation = .none

/-- The rule of `afatfs_fseek`, for a file that is not busy; of a forward seek from the cursor it is asked
    that it does not lead behind the clusters of the file. -/
theorem wp_fseek {whence : Whence} (ok : FilesOk volume chains) (normal : (volume.afatfs.files file).HasChain file)
    (notCurrent : file ≠ .currentDirectory) (idle : (volume.afatfs.files file).operation = .none)
    (inside : (volume.afatfs.files file).seekTarget offset whence ≤ (volume.afatfs.files file).physicalSize.toNat) :
    Wp (fseek file offset whence) (fun status later =>
      Seeks file volume chains ((volume.afatfs.files file).seekTarget offset whence) status later) volume := by
  have works : Works file NoSector volume chains _ chains := ok.updateFilesize normal idle
  have record : (volume.afatfs.updateFile file AfatfsFile.updateFilesize).files file =
      (volume.afatfs.files file).updateFilesize := Afatfs.updateFile_self
  have kind : SameKind (volume.afatfs.files file) ((volume.afatfs.updateFile file AfatfsFile.updateFilesize).files file) := by
    rw [record]
    exact ⟨rfl, rfl⟩
  have normal' := kind.hasChain.mpr normal
  have idle' : ((volume.afatfs.updateFile file AfatfsFile.updateFilesize).files file).operation = .none := by
    rw [record]
    exact idle
  have done {target : Nat} {status : OperationStatus} {later : Volume}
      (same : target = (volume.afatfs.files file).seekTarget offset whence)
      (sought : Sought file { volume with afatfs := volume.afatfs.updateFile file AfatfsFile.updateFilesize } chains
        target later) (ended : status = .success → (later.afatfs.files file).operation = .none) :
      Seeks file volume chains ((volume.afatfs.files file).seekTarget offset whence) status later :=
    ⟨works.trans sought.toWorks, sought.same, same ▸ sought.target, kind.trans sought.kind, sought.closing,
      sought.logical.trans (by rw [record]), ended⟩
  rw [fseek, modifyFile, wp_modify_bind, wp_get_bind, record]
  -- a seek is relative to the cursor only where the code does not begin at the start of the file
  cases whence with
  | seekCur =>
    dsimp only
    split_ifs with forward
    · have physical := (ok.isOpen file normal).shape.physical
      rw [idle] at physical
      apply (wp_fseekInternal works.ok normal' notCurrent idle' ?_).mono
      · rintro status later ⟨sought, ends⟩
        refine done ?_ sought ?_
        · rw [record, AfatfsFile.seekTarget, minimum_toNat]
          simp only [forward, if_true]
          rfl
        · intro succeeds
          rcases ends with ⟨-, ended⟩ | waits
          · exact ended
          · rw [succeeds] at waits
            cases waits
      · rw [record, minimum_toNat]
        rw [AfatfsFile.seekTarget] at inside
        simp only [forward, if_true] at inside
        exact inside.trans physical
    · apply (wp_seekFromStart works.ok normal' notCurrent idle').mono
      rintro status later ⟨sought, ended⟩
      refine done ?_ sought ended
      rw [record, AfatfsFile.seekTarget]
      simp only [forward]
      rfl
  | seekEnd =>
    dsimp only
    split_ifs with here
    · refine (wp_pure _).mpr (done ?_ ⟨.refl works.ok, rfl, rfl, .refl _, rfl, .inl idle'⟩ fun _ => idle')
      rw [target_of_idle idle', record, AfatfsFile.seekTarget]
      exact (if_pos here).symm
    · apply (wp_seekFromStart works.ok normal' notCurrent idle').mono
      rintro status later ⟨sought, ended⟩
      refine done ?_ sought ended
      rw [record, AfatfsFile.seekTarget]
      exact (if_neg here).symm
  | seekSet =>
    apply (wp_seekFromStart works.ok normal' notCurrent idle').mono
    rintro status later ⟨sought, ended⟩
    refine done ?_ sought ended
    rw [record]
    rfl

end ComputerSystems.Fat
