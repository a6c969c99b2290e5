import ComputerSystems.Verified.FileCursor

/-! # The bytes of a file

What a file holds are the bytes in the sectors of its clusters, one cluster after the
other (`Volume.byteAt`).  Nothing that is done for another file changes them, and
`afatfs_fread` gives those from the cursor on.
-/

namespace ComputerSystems.Fat

open ComputerSystems.Data Program

variable {volume later : Volume} {chains chains' : Owner → List Word} {file other : FileRef}
  {written : Word → Prop} {chain : List Word} {cluster sector : Word} {i j : Nat}

/-- The sector with a byte of a chain. -/
def Afatfs.sectorOf (afatfs : Afatfs) (chain : List Word) (i : Nat) : Word :=
  afatfs.fileClusterToPhysical (chain.getD (i / afatfs.clusterSize.toNat) 0)
    (BitVec.ofNat 32 (i % afatfs.clusterSize.toNat / 512))

/-- A byte of a chain. -/
noncomputable def Volume.byteAt (volume : Volume) (chain : List Word) (i : Nat) : UInt8 :=
  volume.content (volume.afatfs.sectorOf chain i) (i % 512 : Nat)

/-! ## Where the bytes are -/

namespace Afatfs

variable {afatfs : Afatfs}

theorem Geometry.div_size (geometry : afatfs.Geometry) :
    i / afatfs.clusterSize.toNat = i / 512 / afatfs.sectorsPerCluster.toNat := by
  rw [geometry.clusterSize_toNat, Nat.div_div_eq_div_mul]

theorem Geometry.mod_size (geometry : afatfs.Geometry) :
    i % afatfs.clusterSize.toNat / 512 = i / 512 % afatfs.sectorsPerCluster.toNat := by
  rw [geometry.clusterSize_toNat, Nat.mod_mul_right_div_self]

/-- The bytes of a sector are together. -/
theorem Geometry.sectorOf_of_div (geometry : afatfs.Geometry) (same : i / 512 = j / 512) :
    afatfs.sectorOf chain i = afatfs.sectorOf chain j := by
  rw [sectorOf, sectorOf, geometry.div_size, geometry.div_size, geometry.mod_size, geometry.mod_size, same]

theorem Geometry.sectorIndex_lt (geometry : afatfs.Geometry) :
    (BitVec.ofNat 32 (i % afatfs.clusterSize.toNat / 512) : Word).toNat = i / 512 % afatfs.sectorsPerCluster.toNat ∧
      i / 512 % afatfs.sectorsPerCluster.toNat < afatfs.sectorsPerCluster.toNat := by
  have below := Nat.mod_lt (i / 512) geometry.sectorsPerCluster_pos
  have few := geometry.sectorsPerCluster_le
  refine ⟨?_, below⟩
  rw [geometry.mod_size, BitVec.toNat_ofNat, Nat.mod_eq_of_lt (by omega)]

theorem Geometry.sectorOf_inCluster (geometry : afatfs.Geometry) (isCluster : afatfs.IsCluster cluster)
    (here : chain[i / afatfs.clusterSize.toNat]? = some cluster) : afatfs.InCluster cluster (afatfs.sectorOf chain i) := by
  obtain ⟨index, below⟩ := geometry.sectorIndex_lt (i := i)
  rw [sectorOf, List.getD_eq_getElem?_getD, here]
  exact geometry.inCluster_physical isCluster (index ▸ below)

theorem Geometry.sectorOf_toNat (geometry : afatfs.Geometry) (isCluster : afatfs.IsCluster cluster)
    (here : chain[i / afatfs.clusterSize.toNat]? = some cluster) : (afatfs.sectorOf chain i).toNat =
      afatfs.clusterStartSector.toNat + (cluster.toNat - 2) * afatfs.sectorsPerCluster.toNat +
        i / 512 % afatfs.sectorsPerCluster.toNat := by
  obtain ⟨index, below⟩ := geometry.sectorIndex_lt (i := i)
  rw [sectorOf, List.getD_eq_getElem?_getD, here]
  exact index ▸ geometry.fileClusterToPhysical_toNat isCluster (index ▸ below)

/-- A longer chain has the same bytes at its beginning. -/
theorem sectorOf_prefix {chain' : List Word} (grows : chain <+: chain')
    (inside : i < chain.length * afatfs.clusterSize.toNat) : afatfs.sectorOf chain' i = afatfs.sectorOf chain i := by
  have below : i / afatfs.clusterSize.toNat < chain.length := Nat.div_lt_of_lt_mul (by rwa [Nat.mul_comm])
  obtain ⟨rest, rfl⟩ := grows
  rw [sectorOf, sectorOf, List.getD_append _ _ _ _ below]

end Afatfs

theorem FilesOk.sectorOf_inCluster (ok : FilesOk volume chains) {owner : Owner}
    (inside : i < (chains owner).length * volume.afatfs.clusterSize.toNat) :
    ∃ cluster ∈ chains owner, volume.afatfs.InCluster cluster (volume.afatfs.sectorOf (chains owner) i) := by
  have below : i / volume.afatfs.clusterSize.toNat < (chains owner).length :=
    Nat.div_lt_of_lt_mul (by rwa [Nat.mul_comm])
  have isIn := List.getElem_mem below
  exact ⟨_, isIn, ok.geometry.sectorOf_inCluster (ok.isCluster isIn) (List.getElem?_eq_getElem below)⟩

/-- Two bytes of a file are in one sector only if they are together. -/
theorem FilesOk.sectorOf_inj (ok : FilesOk volume chains) {owner : Owner}
    (inside : i < (chains owner).length * volume.afatfs.clusterSize.toNat)
    (inside' : j < (chains owner).length * volume.afatfs.clusterSize.toNat)
    (same : volume.afatfs.sectorOf (chains owner) i = volume.afatfs.sectorOf (chains owner) j) : i / 512 = j / 512 := by
  have below : i / volume.afatfs.clusterSize.toNat < (chains owner).length :=
    Nat.div_lt_of_lt_mul (by rwa [Nat.mul_comm])
  have below' : j / volume.afatfs.clusterSize.toNat < (chains owner).length :=
    Nat.div_lt_of_lt_mul (by rwa [Nat.mul_comm])
  have here := List.getElem?_eq_getElem below
  have there := List.getElem?_eq_getElem below'
  have isCluster := ok.isCluster (List.getElem_mem below)
  have isCluster' := ok.isCluster (List.getElem_mem below')
  have place := ok.geometry.sectorOf_toNat isCluster here
  have place' := ok.geometry.sectorOf_toNat isCluster' there
  have inside := ok.geometry.sectorOf_inCluster isCluster here
  have inside' := ok.geometry.sectorOf_inCluster isCluster' there
  have cluster := ok.geometry.inCluster_unique isCluster isCluster' inside (same ▸ inside')
  -- no cluster comes twice in a chain
  have index := (List.Nodup.getElem_inj_iff (ok.separate.threads owner).nodup).mp cluster
  rw [same, place', cluster] at place
  rw [ok.geometry.div_size, ok.geometry.div_size] at index
  rw [← Nat.div_add_mod (i / 512) volume.afatfs.sectorsPerCluster.toNat,
    ← Nat.div_add_mod (j / 512) volume.afatfs.sectorsPerCluster.toNat, index]
  omega

/-- The sector at the cursor has the byte at the cursor. -/
theorem FilesOk.cursorSector_sectorOf (ok : FilesOk volume chains)
    (normal : (volume.afatfs.files file).HasChain file) {k : Nat}
    (cursor : CursorAt volume.afatfs.link volume.afatfs.clusterSize.toNat (chains (.file file)) (volume.afatfs.files file) k)
    (inside : k < (chains (.file file)).length) : volume.afatfs.fileGetCursorPhysicalSector file =
      volume.afatfs.sectorOf (chains (.file file)) (volume.afatfs.files file).cursorOffset.toNat := by
  rw [fileGetCursorPhysicalSector_eq, Afatfs.cursorSector, if_neg normal.not_root, Afatfs.sectorOf, cursor.div inside,
    List.getD_eq_getElem?_getD, cursor.cluster inside]
  congr 1
  apply BitVec.eq_of_toNat_eq
  obtain ⟨index, -⟩ := ok.geometry.sectorIndex_lt (i := (volume.afatfs.files file).cursorOffset.toNat)
  rw [ok.geometry.sectorIndexInCluster_toNat, index, ok.geometry.mod_size]

/-- The bytes of a chain from an offset on. -/
noncomputable def Volume.bytes (volume : Volume) (chain : List Word) (start count : Nat) : List UInt8 :=
  (List.range count).map fun i => volume.byteAt chain (start + i)

@[simp] theorem length_bytes {start count : Nat} : (volume.bytes chain start count).length = count := by
  simp [Volume.bytes]

theorem bytes_append {start count more : Nat} :
    volume.bytes chain start count ++ volume.bytes chain (start + count) more = volume.bytes chain start (count + more) := by
  simp [Volume.bytes, List.range_add, Nat.add_assoc]

theorem bytes_congr {start count : Nat} (same : later.content = volume.content)
    (disk : later.afatfs.disk = volume.afatfs.disk) : later.bytes chain start count = volume.bytes chain start count := by
  have sectors : later.afatfs.sectorOf = volume.afatfs.sectorOf := Afatfs.congr_disk Afatfs.sectorOf (fun _ => rfl) disk
  simp only [Volume.bytes, Volume.byteAt, sectors, same]

/-- A byte of a file is as before if its sector is not written. -/
theorem Works.byteAt (works : Works file written volume chains later chains') (ok : FilesOk volume chains)
    (normal : (volume.afatfs.files file).HasChain file) (opened : (volume.afatfs.files file).operation.opening = false)
    (ordinary : other ≠ .currentDirectory) (grows : chains (.file other) <+: chains' (.file other))
    (inside : i < (chains (.file other)).length * volume.afatfs.clusterSize.toNat)
    (unwritten : ¬ written (volume.afatfs.sectorOf (chains (.file other)) i)) :
    later.byteAt (chains' (.file other)) i = volume.byteAt (chains (.file other)) i := by
  obtain ⟨cluster, isIn, here⟩ := ok.sectorOf_inCluster inside
  have sectors : later.afatfs.sectorOf = volume.afatfs.sectorOf :=
    Afatfs.congr_disk Afatfs.sectorOf (fun _ => rfl) works.disk
  rw [Volume.byteAt, Volume.byteAt, sectors, Afatfs.sectorOf_prefix grows inside,
    works.content _ _ (ok.geometry.not_inTable here) ?_ unwritten]
  -- the entry of the file is in no file but for a directory
  rintro ⟨same, -⟩
  obtain root | ⟨-, -, owned⟩ := (ok.isOpen file normal).entry opened
  · exact ok.geometry.sector_ne_zero here (same.trans root)
  · obtain ⟨owner, isDirectory, isIn'⟩ := owned cluster (ok.isCluster isIn) (same ▸ here)
    refine ok.separate.disjoint (.file other) owner ?_ isIn isIn'
    rintro rfl
    exact ordinary isDirectory

/-- The sectors of a file. -/
def Afatfs.InFile (afatfs : Afatfs) (chains : Owner → List Word) (file : FileRef) (sector : Word) : Prop :=
  ∃ cluster ∈ chains (.file file), afatfs.InCluster cluster sector

/-- What is done for a file does not change the bytes of another one. -/
theorem Works.byteAt_other (works : Works file (volume.afatfs.InFile chains' file) volume chains later chains')
    (ok : FilesOk volume chains) (normal : (volume.afatfs.files file).HasChain file)
    (opened : (volume.afatfs.files file).operation.opening = false) (elsewhere : other ≠ file)
    (ordinary : other ≠ .currentDirectory)
    (inside : i < (chains (.file other)).length * volume.afatfs.clusterSize.toNat) :
    later.byteAt (chains' (.file other)) i = volume.byteAt (chains (.file other)) i := by
  have same : chains' (.file other) = chains (.file other) := works.elsewhere _ (by simp [elsewhere]) (by simp)
  apply works.byteAt ok normal opened ordinary (by rw [same]) inside
  rintro ⟨cluster, isIn, here⟩
  obtain ⟨cluster', isIn', there⟩ := ok.sectorOf_inCluster inside
  have isCluster : volume.afatfs.IsCluster cluster = later.afatfs.IsCluster cluster :=
    (Afatfs.congr_disk (·.IsCluster cluster) (fun _ => rfl) works.disk).symm
  obtain rfl := ok.geometry.inCluster_unique (isCluster ▸ works.ok.isCluster isIn) (ok.isCluster isIn') here there
  exact works.ok.separate.disjoint (.file file) (.file other) (by simpa using elsewhere.symm) isIn (same ▸ isIn')

/-- What a slot with the sector at the cursor has from the cursor on are the bytes of the file. -/
theorem FilesOk.bytesAt_cursor {slot : Slot} (count : Nat) (ok : FilesOk volume chains)
    (normal : (volume.afatfs.files file).HasChain file) (idle : (volume.afatfs.files file).operation = .none)
    (leads : volume.afatfs.link (volume.afatfs.files file).cursorCluster ≠ none)
    (holds : volume.writeBack.Holds slot (volume.afatfs.fileGetCursorPhysicalSector file))
    (short : (volume.afatfs.files file).cursorOffset.toNat % 512 + count ≤ 512) :
    bytesAt (volume.afatfs.cache slot) ((volume.afatfs.files file).cursorOffset.toNat % 512) count =
      volume.bytes (chains (.file file)) (volume.afatfs.files file).cursorOffset.toNat count := by
  have good := (ok.isOpen file normal).shape.operation
  rw [OperationOk, idle] at good
  obtain ⟨-, k, cursor⟩ := good
  obtain ⟨inside, -⟩ := cursor.inside leads
  have block : volume.afatfs.cache slot = volume.content (volume.afatfs.fileGetCursorPhysicalSector file) :=
    (ok.coherent.content_of_holds holds).symm
  rw [bytesAt, Volume.bytes, block, ok.cursorSector_sectorOf normal cursor inside]
  apply List.map_congr_left
  intro i isIn
  have below := List.mem_range.mp isIn
  have index : ((volume.afatfs.files file).cursorOffset.toNat + i) % 512 =
      (volume.afatfs.files file).cursorOffset.toNat % 512 + i := by
    omega
  rw [Volume.byteAt, index, ok.geometry.sectorOf_of_div (i := (volume.afatfs.files file).cursorOffset.toNat + i)
    (j := (volume.afatfs.files file).cursorOffset.toNat) (by omega)]

/-! ## Reading -/

/-- What `afatfs_fread` has got when it returns: the bytes from the cursor on, and the cursor behind them. -/
structure ReadsBytes (file : FileRef) (volume : Volume) (chains : Owner → List Word) (most : Nat)
    (bytes : List UInt8) (later : Volume) : Prop extends Works file NoSector volume chains later chains where
  same : later.content = volume.content
  chained : (later.afatfs.files file).HasChain file
  logical : (later.afatfs.files file).logicalSize = (volume.afatfs.files file).logicalSize
  count : bytes.length ≤ most
  read : bytes = volume.bytes (chains (.file file)) (volume.afatfs.files file).target bytes.length
  target : (later.afatfs.files file).target = (volume.afatfs.files file).target + bytes.length

/-- The invariant of its loop. -/
structure Reading (file : FileRef) (volume : Volume) (chains : Owner → List Word) (total : Nat)
    (loop : ReadLoop) (now : Volume) : Prop extends ReadsBytes file volume chains total loop.buffer now where
  idle : (now.afatfs.files file).operation = .none
  left : loop.buffer.length + loop.len.toNat = total
  place : loop.len = 0 ∨ loop.cursorOffsetInSector.toNat = (now.afatfs.files file).cursorOffset.toNat % 512

/-- So many bytes more are read once the cursor is behind them. -/
theorem Reading.more {total count : Nat} {loop : ReadLoop} {mid afterwards : Volume}
    (reading : Reading file volume chains total loop later) (between : Works file NoSector volume chains mid chains)
    (kept : mid.content = volume.content) (locks : (later.afatfs.files file).OtherLocks (mid.afatfs.files file))
    (sought : Sought file mid chains ((mid.afatfs.files file).cursorOffset.toNat + count) afterwards)
    (few : loop.buffer.length + count ≤ total) :
    ReadsBytes file volume chains total
      (volume.bytes (chains (.file file)) (volume.afatfs.files file).target (loop.buffer.length + count)) afterwards := by
  obtain ⟨write, read, record⟩ := locks
  have here := reading.target
  rw [target_of_idle reading.idle] at here
  refine ⟨between.trans sought.toWorks, sought.same.trans kept, sought.kind.hasChain.mpr ?_, ?_, ?_, ?_, ?_⟩
  · rw [record]
    exact reading.chained
  · rw [sought.logical, record]
    exact reading.logical
  · rwa [length_bytes]
  · rw [length_bytes]
  · rw [sought.target, length_bytes, record, here, Nat.add_assoc]

/-- The loop goes on in the next sector, if there is more to be read. -/
theorem Reading.next {total : Nat} {loop : ReadLoop} {part : Word} {afterwards : Volume}
    (reading : Reading file volume chains total loop later)
    (place : loop.cursorOffsetInSector.toNat = (later.afatfs.files file).cursorOffset.toNat % 512)
    (count : part.toNat = min (512 - loop.cursorOffsetInSector.toNat) loop.len.toNat)
    (bytes : ReadsBytes file volume chains total
      (volume.bytes (chains (.file file)) (volume.afatfs.files file).target (loop.buffer.length + part.toNat)) afterwards)
    (idle : (afterwards.afatfs.files file).operation = .none) :
    Reading file volume chains total
      { len := loop.len - part
        buffer := volume.bytes (chains (.file file)) (volume.afatfs.files file).target (loop.buffer.length + part.toNat)
        cursorOffsetInSector := 0 } afterwards := by
  have here := reading.target
  rw [target_of_idle reading.idle] at here
  have left := reading.left
  have next := bytes.target
  rw [target_of_idle idle, length_bytes] at next
  have rest : (loop.len - part).toNat = loop.len.toNat - part.toNat := BitVec.toNat_sub_of_le (BitVec.le_def.mpr (by omega))
  refine ⟨bytes, idle, ?_, ?_⟩
  · rw [length_bytes, rest]
    omega
  · rw [show BitVec.toNat (0 : Word) = 0 from rfl, next, ← BitVec.toNat_inj, rest, show BitVec.toNat (0 : Word) = 0 from rfl]
    omega

/-- A pass of the loop. -/
theorem wp_readPass {total : Nat} {loop : ReadLoop} (reading : Reading file volume chains total loop later)
    (notCurrent : file ≠ .currentDirectory)
    (inside : (volume.afatfs.files file).target + total ≤
      (chains (.file file)).length * volume.afatfs.clusterSize.toNat) :
    Wp (readPass file loop) (fun done afterwards => done.Meets
      (fun next => Reading file volume chains total next afterwards ∧ next.len.toNat < loop.len.toNat)
      fun bytes => ReadsBytes file volume chains total bytes afterwards) later := by
  have here := reading.target
  rw [target_of_idle reading.idle] at here
  have left := reading.left
  rw [readPass]
  split_ifs with more
  · have place : loop.cursorOffsetInSector.toNat = (later.afatfs.files file).cursorOffset.toNat % 512 :=
      reading.place.resolve_left (by bv_omega)
    have count : (minimum (512 - loop.cursorOffsetInSector) loop.len).toNat =
        min (512 - loop.cursorOffsetInSector.toNat) loop.len.toNat := by
      rw [minimum_toNat, BitVec.toNat_sub_of_le (by bv_omega)]
      rfl
    apply Wp.bind
    apply (wp_fileRetainCursorSectorForRead reading.ok (.inl reading.chained) reading.idle).mono
    rintro found mid ⟨works, same, ⟨write, read, record⟩, holds⟩
    have kept : mid.content = volume.content := same.trans reading.same
    have between := reading.toWorks.trans works
    cases found with
    | none =>
      refine (wp_pure _).mpr ⟨between, kept, ?_, ?_, reading.count, reading.read, ?_⟩
      · rw [record]
        exact reading.chained
      · rw [record]
        exact reading.logical
      · rw [record]
        exact reading.target
    | some slot =>
      obtain ⟨stands, held⟩ := holds slot rfl
      have leads := (stands.resolve_right fun atRoot => atRoot.1.not_hasChain reading.chained).2
      have link : mid.afatfs.link = later.afatfs.link := Afatfs.congr_disk Afatfs.link (fun _ => rfl) works.disk
      have size : mid.afatfs.clusterSize = volume.afatfs.clusterSize :=
        Afatfs.congr_disk Afatfs.clusterSize (fun _ => rfl) between.disk
      have normal' : (mid.afatfs.files file).HasChain file := by
        rw [record]
        exact reading.chained
      have idle' : (mid.afatfs.files file).operation = .none := by
        rw [record]
        exact reading.idle
      have offset : (mid.afatfs.files file).cursorOffset = (later.afatfs.files file).cursorOffset := by rw [record]
      have got := works.ok.bytesAt_cursor (minimum (512 - loop.cursorOffsetInSector) loop.len).toNat normal' idle'
        (by rw [link, record]; exact leads)
        (by rw [cursorSector_otherLocks works.disk ⟨write, read, record⟩]; exact held) (by rw [offset, count]; omega)
      rw [bytes_congr kept between.disk, offset, here, ← here, ← place, here] at got
      rw [wp_get_bind, got]
      have appended : loop.buffer ++ volume.bytes (chains (.file file))
          ((volume.afatfs.files file).target + loop.buffer.length)
          (minimum (512 - loop.cursorOffsetInSector) loop.len).toNat = volume.bytes (chains (.file file))
          (volume.afatfs.files file).target
          (loop.buffer.length + (minimum (512 - loop.cursorOffsetInSector) loop.len).toNat) := by
        rw [← bytes_append, ← reading.read]
      rw [appended]
      apply Wp.bind
      apply (wp_fseekInternal works.ok normal' notCurrent idle' ?_).mono
      · rintro status afterwards ⟨sought, done⟩
        have bytes := reading.more between kept ⟨write, read, record⟩ sought (by omega)
        rcases done with ⟨rfl, idle⟩ | rfl
        · refine (wp_pure _).mpr ⟨reading.next place count bytes idle, ?_⟩
          change (loop.len - minimum (512 - loop.cursorOffsetInSector) loop.len).toNat < loop.len.toNat
          rw [BitVec.toNat_sub_of_le (BitVec.le_def.mpr (by omega)), count]
          bv_omega
        · exact (wp_pure _).mpr bytes
      · rw [offset, here, count, size]
        omega
  · exact (wp_pure _).mpr reading.toReadsBytes

/-- The rule of `afatfs_fread`. -/
theorem wp_fread {len : Word} (ok : FilesOk volume chains) (normal : (volume.afatfs.files file).HasChain file)
    (notCurrent : file ≠ .currentDirectory) :
    Wp (fread file len) (fun bytes later => ReadsBytes file volume chains
      (min ((volume.afatfs.files file).logicalSize.toNat - (volume.afatfs.files file).target) len.toNat) bytes later) volume := by
  rw [fread, wp_get_bind]
  dsimp only
  split_ifs with refused
  · exact (wp_pure _).mpr ⟨.refl ok, rfl, normal, rfl, Nat.zero_le _, rfl, rfl⟩
  · rw [not_or, not_or] at refused
    obtain ⟨-, notBusy, before⟩ := refused
    have idle : (volume.afatfs.files file).operation = .none := by simpa [AfatfsFile.isBusy] using notBusy
    have logical := (ok.isOpen file normal).shape.logical (by rw [idle]; rfl)
    have size : ((volume.afatfs.files file).logicalSize - (volume.afatfs.files file).cursorOffset).toNat =
        (volume.afatfs.files file).logicalSize.toNat - (volume.afatfs.files file).cursorOffset.toNat :=
      BitVec.toNat_sub_of_le (by bv_omega)
    have before : (volume.afatfs.files file).cursorOffset.toNat < (volume.afatfs.files file).logicalSize.toNat := by bv_omega
    have total := minimum_toNat ((volume.afatfs.files file).logicalSize - (volume.afatfs.files file).cursorOffset) len
    rw [size, ← target_of_idle idle] at total
    have here := target_of_idle idle
    apply Wp.repeated (fun loop now => Reading file volume chains _ loop now) (fun loop => loop.len.toNat)
    · intro loop now reading
      apply wp_readPass reading notCurrent
      omega
    · refine ⟨⟨.refl ok, rfl, normal, rfl, Nat.zero_le _, rfl, rfl⟩, idle, ?_, .inr ?_⟩
      · rw [total]
        exact Nat.zero_add _
      · exact BitVec.toNat_umod
    · rw [total]
      omega

end ComputerSystems.Fat
