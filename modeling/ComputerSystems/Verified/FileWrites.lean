import ComputerSystems.Verified.FileBytes

/-! # Writing to a file

`afatfs_fwrite` goes through the sectors of a file: it locks the one at the cursor,
changes it in the cache and goes on to the next, with a new cluster where the file ends.

The bytes that it has written are those of the buffer.  The others stay but for one case
(`Overlooked`): a sector that is written from its beginning is not read before if the size
that the file had when it was opened or sought last ends in it, and what it had behind the
new bytes is lost.
-/

namespace ComputerSystems.Fat

open ComputerSystems.Data Program

variable {volume later : Volume} {chains chains' : Owner → List Word} {file other : FileRef}
  {written : Word → Prop} {slot : Slot} {buffer chunk : List UInt8} {i j : Nat}

/-! ## In one sector -/

/-- The sector that a file has locked is changed. -/
theorem FilesOk.writeLocked (ok : FilesOk volume chains) (normal : (volume.afatfs.files file).HasChain file)
    (notCurrent : file ≠ .currentDirectory)
    (locked : (volume.afatfs.files file).writeLockedCacheIndex = some slot) (block : Sector) :
    Works file (· = volume.afatfs.fileGetCursorPhysicalSector file) volume chains
        { volume with afatfs := volume.afatfs.setMemory slot block } chains ∧
      ({ volume with afatfs := volume.afatfs.setMemory slot block } : Volume).content =
        Function.update volume.content (volume.afatfs.fileGetCursorPhysicalSector file) block := by
  obtain ⟨pins, -, dirty⟩ := (ok.isOpen file normal).locks.write slot locked
  obtain ⟨cluster, -, inside⟩ := ok.has_inCluster normal (.inl locked)
  have turns : Turns volume _ { volume with afatfs := volume.afatfs.setMemory slot block } :=
    (Turns.refl ok.coherent).change pins.holds dirty
  have here : volume.Inside chains file (volume.afatfs.fileGetCursorPhysicalSector file) := ok.has_inside (.inl normal) (.inl locked)
  refine ⟨ok.works_turns turns ?_ ?_ ?_ ?_, turns.content⟩
  · intro sector inTable
    apply Function.update_of_ne
    rintro rfl
    exact ok.geometry.not_inTable inside inTable
  · intro sector _ _ unwritten
    rw [Function.update_of_ne unwritten]
  · intro sector _ unwritten
    rw [Function.update_of_ne unwritten]
    exact .refl _ _
  · exact turns.records fun entered => Function.update_of_ne (ok.entry_apart here notCurrent (ok.opening_of_has normal (.inl locked)) entered) _ _

/-- The bytes of the file once some from the cursor on are changed in its sector. -/
theorem FilesOk.byteAt_writeLocked (ok : FilesOk volume chains) (normal : (volume.afatfs.files file).HasChain file)
    (notCurrent : file ≠ .currentDirectory)
    (locked : (volume.afatfs.files file).writeLockedCacheIndex = some slot)
    (short : (volume.afatfs.files file).cursorOffset.toNat % 512 + chunk.length ≤ 512)
    (inside : j < (chains (.file file)).length * volume.afatfs.clusterSize.toNat) :
    ({ volume with afatfs := volume.afatfs.setMemory slot ((volume.afatfs.cache slot).write
        ((volume.afatfs.files file).cursorOffset.toNat % 512 : Nat) chunk) } : Volume).byteAt (chains (.file file)) j =
      if (volume.afatfs.files file).cursorOffset.toNat ≤ j ∧ j < (volume.afatfs.files file).cursorOffset.toNat + chunk.length then
        chunk.getD (j - (volume.afatfs.files file).cursorOffset.toNat) 0
      else volume.byteAt (chains (.file file)) j := by
  have isOpen := ok.isOpen file normal
  have has : (volume.afatfs.files file).Has slot := .inl locked
  obtain ⟨-, k, cursor⟩ := isOpen.shape.operation.atRest has.locked
  obtain ⟨within, -⟩ := cursor.inside (isOpen.shape.inside.resolve_left has.locked)
  have here := ok.cursorSector_sectorOf normal cursor within
  have below : (volume.afatfs.files file).cursorOffset.toNat <
      (chains (.file file)).length * volume.afatfs.clusterSize.toNat :=
    (cursor.high within).trans_le (Nat.mul_le_mul_right _ within)
  have block : volume.content (volume.afatfs.fileGetCursorPhysicalSector file) = volume.afatfs.cache slot :=
    ok.coherent.content_of_holds (isOpen.locks.pins has).holds
  rw [Volume.byteAt, (ok.writeLocked normal notCurrent locked _).2]
  change Function.update volume.content _ _ (volume.afatfs.sectorOf (chains (.file file)) j) _ = _
  by_cases together : j / 512 = (volume.afatfs.files file).cursorOffset.toNat / 512
  · rw [here, ok.geometry.sectorOf_of_div together, Function.update_self]
    split_ifs with changed
    · rw [Memory.write_inside (by omega) (by omega)]
      congr 1
      omega
    · rw [Memory.write_outside (by omega), ← block, here, Volume.byteAt, ok.geometry.sectorOf_of_div together]
  · rw [Function.update_of_ne, if_neg (by omega)]
    · rfl
    · rw [here]
      exact fun same => together (ok.sectorOf_inj inside below same)

/-! ## Sectors that are not read -/

/-- The place of a file is within its clusters. -/
theorem FilesOk.target_le (ok : FilesOk volume chains) (normal : (volume.afatfs.files file).HasChain file) :
    (volume.afatfs.files file).target ≤ (chains (.file file)).length * volume.afatfs.clusterSize.toNat := by
  have good := (ok.isOpen file normal).shape.operation
  rw [OperationOk] at good
  rw [AfatfsFile.target]
  split at good <;> rename_i operation <;> simp only [operation]
  · obtain ⟨-, k, cursor⟩ := good
    exact cursor.le
  · exact good.1.2.2.1.le
  · obtain ⟨-, k, cursor⟩ := good
    exact cursor.le
  · exact good.2.2
  · exact good.1.1.2.le
  · exact good.1.1.2.le
  · obtain ⟨good, -⟩ := good
    rw [AppendOk] at good
    split at good
    · exact good.2.1.le
    · exact good.2.2.2.2.2.2.le
    · obtain ⟨-, k, -, cursor⟩ := good
      exact cursor.le
    · obtain ⟨-, k, -, cursor⟩ := good
      exact cursor.le
    · obtain ⟨-, k, cursor⟩ := good
      exact cursor.le
    · exact good.elim

/-- What is the case when a sector is locked without being read. -/
theorem writeFlags_unread {f : AfatfsFile} (unread : f.writeFlags.read = false) :
    f.cursorOffset.toNat % 512 = 0 ∧ f.logicalSize.toNat ≤ f.cursorOffset.toNat + 512 := by
  have flags := of_decide_eq_false unread
  rw [not_or] at flags
  have start : f.cursorOffset.toNat % 512 = 0 := by
    have first := flags.1
    rw [BitVec.lt_def, BitVec.toNat_umod, show BitVec.toNat (512 : Word) = 512 from rfl] at first
    exact Nat.eq_zero_of_not_pos first
  have low : f.cursorOffset &&& 511 = 0 := by
    apply BitVec.eq_of_toNat_eq
    rw [BitVec.toNat_and]
    exact (Nat.and_two_pow_sub_one_eq_mod _ 9).trans start
  have whole : f.cursorOffset &&& ~~~511 = f.cursorOffset := by
    calc f.cursorOffset &&& ~~~511 = (f.cursorOffset &&& 511) ||| (f.cursorOffset &&& ~~~511) := by rw [low]; exact BitVec.zero_or.symm
      _ = f.cursorOffset &&& (511 ||| ~~~511) := BitVec.and_or_distrib_left.symm
      _ = f.cursorOffset &&& BitVec.allOnes 32 := rfl
      _ = f.cursorOffset := BitVec.and_allOnes
  refine ⟨start, ?_⟩
  have last := flags.2
  rw [whole] at last
  bv_omega

/-- The bytes of the file once the sector at its cursor is locked. -/
theorem LocksCursor.byteAt {found : Option Slot} (locks : LocksCursor file volume chains found later chains')
    (ok : FilesOk volume chains) (normal : (volume.afatfs.files file).HasChain file)
    (notCurrent : file ≠ .currentDirectory) (idle : (volume.afatfs.files file).operation = .none)
    (inside : j < (chains (.file file)).length * volume.afatfs.clusterSize.toNat)
    (noticed : found = none ∨ ¬ ((volume.afatfs.files file).cursorOffset.toNat % 512 = 0 ∧
      j / 512 = (volume.afatfs.files file).cursorOffset.toNat / 512 ∧
      (volume.afatfs.files file).logicalSize.toNat ≤ (volume.afatfs.files file).cursorOffset.toNat + 512)) :
    later.byteAt (chains' (.file file)) j = volume.byteAt (chains (.file file)) j := by
  apply locks.toWorks.byteAt ok normal (opening_of_idle idle) notCurrent locks.grows inside
  rintro ⟨here, -, unread, isSome⟩
  obtain ⟨slot, isSlot⟩ := Option.ne_none_iff_exists'.mp isSome
  obtain ⟨start, short⟩ := writeFlags_unread unread
  refine noticed.resolve_left isSome ⟨start, ?_, short⟩
  have normal' := locks.kind.hasChain.mpr normal
  have isOpen := locks.ok.isOpen file normal'
  have has : (later.afatfs.files file).Has slot := .inl (locks.found slot isSlot).1
  obtain ⟨-, k, cursor⟩ := isOpen.shape.operation.atRest has.locked
  obtain ⟨within, -⟩ := cursor.inside (isOpen.shape.inside.resolve_left has.locked)
  have size : later.afatfs.clusterSize = volume.afatfs.clusterSize :=
    Afatfs.congr_disk Afatfs.clusterSize (fun _ => rfl) locks.disk
  have sectors : later.afatfs.sectorOf = volume.afatfs.sectorOf :=
    Afatfs.congr_disk Afatfs.sectorOf (fun _ => rfl) locks.disk
  have below : (later.afatfs.files file).cursorOffset.toNat <
      (chains' (.file file)).length * later.afatfs.clusterSize.toNat :=
    (cursor.high within).trans_le (Nat.mul_le_mul_right _ within)
  have longer : (chains (.file file)).length * volume.afatfs.clusterSize.toNat ≤
      (chains' (.file file)).length * later.afatfs.clusterSize.toNat := by
    rw [size]
    exact Nat.mul_le_mul_right _ locks.grows.length_le
  rw [← Afatfs.sectorOf_prefix locks.grows inside, ← sectors, locks.ok.cursorSector_sectorOf normal' cursor within] at here
  rw [← locks.offset]
  exact locks.ok.sectorOf_inj (inside.trans_le longer) below here

/-! ## The loop -/

/-- The byte is behind those that are written, in a sector of which the first one is among them, and the file
    had its end there or before. -/
def AfatfsFile.Overlooked (f : AfatfsFile) (start count j : Nat) : Prop :=
  start + count ≤ j ∧ start ≤ j / 512 * 512 ∧ j / 512 * 512 < start + count ∧ f.logicalSize.toNat ≤ j / 512 * 512 + 512

/-- That so many bytes of a buffer are written to a file. -/
structure WritesBytes (file : FileRef) (volume : Volume) (chains : Owner → List Word)
    (buffer : List UInt8) (count : Nat) (later : Volume) (chains' : Owner → List Word) : Prop
    extends Works file (volume.afatfs.InFile chains' file) volume chains later chains' where
  grows : chains (.file file) <+: chains' (.file file)
  chained : (later.afatfs.files file).HasChain file
  stays : (volume.afatfs.files file).operation.closing = false → (later.afatfs.files file).operation.closing = false
  logical : (later.afatfs.files file).logicalSize = (volume.afatfs.files file).logicalSize
  most : count ≤ buffer.length
  target : (later.afatfs.files file).target = (volume.afatfs.files file).target + count
  stored : ∀ i < count, later.byteAt (chains' (.file file)) ((volume.afatfs.files file).target + i) = buffer.getD i 0
  kept : ∀ j < (chains (.file file)).length * volume.afatfs.clusterSize.toNat,
    j < (volume.afatfs.files file).target ∨ (volume.afatfs.files file).target + count ≤ j →
      ¬ (volume.afatfs.files file).Overlooked (volume.afatfs.files file).target count j →
        later.byteAt (chains' (.file file)) j = volume.byteAt (chains (.file file)) j

theorem Afatfs.InFile.mono {afatfs : Afatfs} {sector : Word} (inFile : afatfs.InFile chains file sector)
    (grows : chains (.file file) <+: chains' (.file file)) : afatfs.InFile chains' file sector := by
  obtain ⟨cluster, isIn, here⟩ := inFile
  exact ⟨cluster, grows.subset isIn, here⟩

/-- Some bytes are written and then some more. -/
theorem WritesBytes.trans {mid : Volume} {between : Owner → List Word} {rest : List UInt8} {count more : Nat}
    (first : WritesBytes file volume chains buffer count mid between) (left : rest = buffer.drop count)
    (second : WritesBytes file mid between rest more later chains') :
    WritesBytes file volume chains buffer (count + more) later chains' where
  toWorks := by
    have same : mid.afatfs.InFile = volume.afatfs.InFile := Afatfs.congr_disk Afatfs.InFile (fun _ => rfl) first.disk
    exact (first.toWorks.mono fun sector inFile => inFile.mono second.grows).trans (same ▸ second.toWorks)
  grows := first.grows.trans second.grows
  chained := second.chained
  stays isOpen := second.stays (first.stays isOpen)
  logical := second.logical.trans first.logical
  most := by
    have most := second.most
    have before := first.most
    rw [left, List.length_drop] at most
    omega
  target := by rw [second.target, first.target, Nat.add_assoc]
  stored := by
    have fits := first.ok.target_le first.chained
    rw [first.target] at fits
    intro i below
    by_cases early : i < count
    · rw [second.kept _ (by omega) (.inl (by rw [first.target]; omega)), first.stored i early]
      rintro ⟨behind, -⟩
      rw [first.target] at behind
      omega
    · have stored := second.stored (i - count) (by omega)
      rw [first.target, Nat.add_assoc, Nat.add_sub_cancel' (by omega)] at stored
      rw [stored, left, List.getD_eq_getElem?_getD, List.getD_eq_getElem?_getD, List.getElem?_drop,
        Nat.add_sub_cancel' (by omega)]
  kept := by
    have size : mid.afatfs.clusterSize = volume.afatfs.clusterSize :=
      Afatfs.congr_disk Afatfs.clusterSize (fun _ => rfl) first.disk
    intro j inside outside noticed
    have longer := Nat.mul_le_mul_right volume.afatfs.clusterSize.toNat first.grows.length_le
    rw [second.kept j (by rw [size]; omega) (by rw [first.target]; omega), first.kept j inside (by omega)]
    · rintro ⟨behind, start, here, short⟩
      exact noticed ⟨by omega, start, by omega, short⟩
    · rintro ⟨behind, start, here, short⟩
      rw [first.target] at behind start here
      rw [first.logical] at short
      exact noticed ⟨by omega, by omega, by omega, short⟩

/-- Nothing is written yet. -/
theorem WritesBytes.refl (ok : FilesOk volume chains) (normal : (volume.afatfs.files file).HasChain file) :
    WritesBytes file volume chains buffer 0 volume chains :=
  ⟨.refl ok, List.prefix_rfl, normal, id, rfl, Nat.zero_le _, rfl, fun _ below => absurd below (Nat.not_lt_zero _),
    fun _ _ _ _ => rfl⟩

theorem LocksCursor.target {found : Option Slot} (locks : LocksCursor file volume chains found later chains') :
    (later.afatfs.files file).target = (volume.afatfs.files file).cursorOffset.toNat := by
  rw [AfatfsFile.target, ← locks.offset]
  rcases locks.waits with idle | ⟨opState, appends⟩
  · rw [idle]
  · rw [appends]

/-- The sector at the cursor could not be locked. -/
theorem LocksCursor.nothing (locks : LocksCursor file volume chains none later chains')
    (ok : FilesOk volume chains) (normal : (volume.afatfs.files file).HasChain file)
    (notCurrent : file ≠ .currentDirectory) (idle : (volume.afatfs.files file).operation = .none) :
    WritesBytes file volume chains buffer 0 later chains' where
  toWorks := locks.toWorks.mono fun _ ⟨_, _, _, isSome⟩ => absurd rfl isSome
  grows := locks.grows
  chained := locks.kind.hasChain.mpr normal
  stays _ := by
    rcases locks.waits with idle | ⟨opState, appends⟩
    · rw [idle]
      rfl
    · rw [appends]
      rfl
  logical := locks.logical
  most := Nat.zero_le _
  target := by rw [locks.target, target_of_idle idle, Nat.add_zero]
  stored _ below := absurd below (Nat.not_lt_zero _)
  kept _ inside _ _ := locks.byteAt ok normal notCurrent idle inside (.inl rfl)

/-- The sector at the cursor was locked, some bytes were put there, and the cursor went on behind them. -/
theorem LocksCursor.stores {mid : Volume} {count : Nat}
    (locks : LocksCursor file volume chains (some slot) mid chains')
    (ok : FilesOk volume chains) (normal : (volume.afatfs.files file).HasChain file)
    (notCurrent : file ≠ .currentDirectory) (idle : (volume.afatfs.files file).operation = .none) (positive : 0 < count) (most : count ≤ buffer.length)
    (short : (volume.afatfs.files file).cursorOffset.toNat % 512 + count ≤ 512)
    (sought : Sought file { mid with afatfs := mid.afatfs.setMemory slot ((mid.afatfs.cache slot).write
      ((volume.afatfs.files file).cursorOffset.toNat % 512 : Nat) (buffer.take count)) } chains'
      ((volume.afatfs.files file).cursorOffset.toNat + count) later) :
    WritesBytes file volume chains buffer count later chains' := by
  have normal' := locks.kind.hasChain.mpr normal
  obtain ⟨locked, idle'⟩ := locks.found slot rfl
  have length : (buffer.take count).length = count := by rw [List.length_take, min_eq_left most]
  have inFile := locks.ok.has_inCluster normal' (.inl locked)
  have writes := (locks.ok.writeLocked normal' notCurrent locked ((mid.afatfs.cache slot).write
    ((volume.afatfs.files file).cursorOffset.toNat % 512 : Nat) (buffer.take count))).1
  have same : mid.afatfs.InFile = volume.afatfs.InFile := Afatfs.congr_disk Afatfs.InFile (fun _ => rfl) locks.disk
  have size : mid.afatfs.clusterSize = volume.afatfs.clusterSize :=
    Afatfs.congr_disk Afatfs.clusterSize (fun _ => rfl) locks.disk
  -- the bytes that are written are in the sector at the cursor
  have changed {j : Nat} (inside : j < (chains' (.file file)).length * mid.afatfs.clusterSize.toNat) :
      later.byteAt (chains' (.file file)) j = if (volume.afatfs.files file).cursorOffset.toNat ≤ j ∧
          j < (volume.afatfs.files file).cursorOffset.toNat + count then
        (buffer.take count).getD (j - (volume.afatfs.files file).cursorOffset.toNat) 0
      else mid.byteAt (chains' (.file file)) j := by
    have stored := locks.ok.byteAt_writeLocked normal' notCurrent locked
      (by rw [locks.offset, length]; exact short) inside
    rw [locks.offset, length] at stored
    rw [← stored, sought.toWorks.byteAt writes.ok normal' (opening_of_idle idle') notCurrent List.prefix_rfl inside not_false]
  have inside : (volume.afatfs.files file).cursorOffset.toNat + count ≤
      (chains' (.file file)).length * mid.afatfs.clusterSize.toNat := by
    have fits := sought.ok.target_le (sought.kind.hasChain.mpr normal')
    rwa [sought.target, Afatfs.congr_disk Afatfs.clusterSize (fun _ => rfl) sought.disk] at fits
  refine ⟨?_, locks.grows, sought.kind.hasChain.mpr normal', fun _ => sought.closing, sought.logical.trans locks.logical, most, ?_, ?_, ?_⟩
  · refine (locks.toWorks.mono ?_).trans ((writes.mono ?_).trans (sought.toWorks.mono fun _ => False.elim))
    · rintro sector ⟨rfl, -⟩
      exact same ▸ inFile
    · rintro sector rfl
      exact same ▸ inFile
  · rw [sought.target, target_of_idle idle]
  · intro i below
    rw [target_of_idle idle, changed (by omega), if_pos (by omega), Nat.add_sub_cancel_left,
      List.getD_eq_getElem?_getD, List.getD_eq_getElem?_getD, List.getElem?_take_of_lt below]
  · intro j inside outside noticed
    rw [target_of_idle idle] at outside noticed
    have longer := Nat.mul_le_mul_right volume.afatfs.clusterSize.toNat locks.grows.length_le
    rw [changed (by rw [size]; omega), if_neg (by omega)]
    apply locks.byteAt ok normal notCurrent idle inside
    refine .inr fun ⟨start, together, short⟩ => noticed ?_
    have sector : j / 512 * 512 = (volume.afatfs.files file).cursorOffset.toNat := by omega
    refine ⟨by omega, by omega, by omega, by omega⟩

/-- The invariant of the loop. -/
structure Writing (file : FileRef) (volume : Volume) (chains : Owner → List Word)
    (buffer : List UInt8) (loop : WriteLoop) (now : Volume) (between : Owner → List Word) : Prop
    extends WritesBytes file volume chains buffer loop.writtenBytes now between where
  idle : (now.afatfs.files file).operation = .none
  left : loop.buffer = buffer.drop loop.writtenBytes
  place : loop.buffer = [] ∨ loop.cursorOffsetInSector.toNat = (now.afatfs.files file).cursorOffset.toNat % 512

/-- A pass of the loop. -/
theorem wp_writePass {loop : WriteLoop} {now : Volume} {between : Owner → List Word}
    (writing : Writing file volume chains buffer loop now between) (notCurrent : file ≠ .currentDirectory)
    (room : (volume.afatfs.files file).target + buffer.length + volume.afatfs.clusterSize.toNat < 2 ^ 32) :
    Wp (writePass file loop) (fun done later => done.Meets
      (fun next => (∃ chains', Writing file volume chains buffer next later chains') ∧
        next.buffer.length < loop.buffer.length)
      fun count => ∃ chains', WritesBytes file volume chains buffer count later chains') now := by
  have here := writing.target
  rw [target_of_idle writing.idle] at here
  have left := congrArg List.length writing.left
  rw [List.length_drop] at left
  have most := writing.most
  have size : now.afatfs.clusterSize = volume.afatfs.clusterSize :=
    Afatfs.congr_disk Afatfs.clusterSize (fun _ => rfl) writing.disk
  rw [writePass]
  split_ifs with more
  · have positive := List.length_pos_iff.mpr more
    have place := writing.place.resolve_left more
    have count : (minimum (512 - loop.cursorOffsetInSector) (BitVec.ofNat 32 loop.buffer.length)).toNat =
        min (512 - loop.cursorOffsetInSector.toNat) loop.buffer.length := by
      rw [minimum_toNat, BitVec.toNat_sub_of_le (by bv_omega), BitVec.toNat_ofNat, Nat.mod_eq_of_lt (by omega)]
      rfl
    apply Wp.bind
    apply (wp_fileLockCursorSectorForWrite writing.ok writing.chained notCurrent writing.idle (by rw [size]; omega)).mono
    rintro found mid ⟨chains', locks⟩
    -- without the sector no more is written in this call
    cases found with
    | none =>
      refine (wp_pure _).mpr ⟨chains', ?_⟩
      exact writing.toWritesBytes.trans writing.left (locks.nothing writing.ok writing.chained notCurrent writing.idle)
    | some slot =>
      have normal' := locks.kind.hasChain.mpr writing.chained
      obtain ⟨locked, idle⟩ := locks.found slot rfl
      have has : (mid.afatfs.files file).Has slot := .inl locked
      have isOpen := locks.ok.isOpen file normal'
      obtain ⟨-, k, cursor⟩ := isOpen.shape.operation.atRest has.locked
      obtain ⟨within, -⟩ := cursor.inside (isOpen.shape.inside.resolve_left has.locked)
      have high := cursor.high within
      have longer : (k + 1) * mid.afatfs.clusterSize.toNat ≤
          (chains' (.file file)).length * mid.afatfs.clusterSize.toNat := Nat.mul_le_mul_right _ within
      have whole := locks.ok.geometry.size_eq (k + 1)
      rw [locks.offset] at high
      have writes := (locks.ok.writeLocked normal' notCurrent locked ((mid.afatfs.cache slot).write
        ((now.afatfs.files file).cursorOffset.toNat % 512 : Nat) (loop.buffer.take
          (minimum (512 - loop.cursorOffsetInSector) (BitVec.ofNat 32 loop.buffer.length)).toNat))).1
      rw [place, wp_modify_bind]
      apply Wp.bind
      apply (wp_fseekInternal writes.ok normal' notCurrent idle ?_).mono
      · rintro status later ⟨sought, done⟩
        change Sought file _ chains' ((mid.afatfs.files file).cursorOffset.toNat + _) later at sought
        rw [locks.offset, BitVec.ofNat_toNat, BitVec.setWidth_eq] at sought
        have stores := locks.stores writing.ok writing.chained notCurrent writing.idle (by omega) (by omega) (by omega) sought
        have both := writing.toWritesBytes.trans writing.left stores
        rcases done with ⟨rfl, ended⟩ | rfl
        · have next := both.target
          rw [target_of_idle ended] at next
          refine (wp_pure _).mpr ⟨⟨chains', both, ended, ?_, ?_⟩, ?_⟩
          · rw [writing.left, List.drop_drop]
          · rw [List.drop_eq_nil_iff, next, show BitVec.toNat (0 : Word) = 0 from rfl]
            omega
          · rw [List.length_drop]
            omega
        · exact (wp_pure _).mpr ⟨chains', both⟩
      · change (mid.afatfs.files file).cursorOffset.toNat + _ ≤ _ * mid.afatfs.clusterSize.toNat
        rw [locks.offset, BitVec.ofNat_toNat, BitVec.setWidth_eq]
        omega
  · exact (wp_pure _).mpr ⟨between, writing.toWritesBytes⟩

/-- The rule of `afatfs_fwrite`: so many bytes as it returns are written, and a file of more than 32 bits
    count has no room for them. -/
theorem wp_fwrite (ok : FilesOk volume chains) (normal : (volume.afatfs.files file).HasChain file)
    (notCurrent : file ≠ .currentDirectory)
    (room : (volume.afatfs.files file).target + buffer.length + volume.afatfs.clusterSize.toNat < 2 ^ 32) :
    Wp (fwrite file buffer)
      (fun count later => ∃ chains', WritesBytes file volume chains buffer count later chains') volume := by
  rw [fwrite, wp_get_bind]
  dsimp only
  split_ifs with refused
  · exact (wp_pure _).mpr ⟨chains, .refl ok normal⟩
  · rw [not_or] at refused
    have idle : (volume.afatfs.files file).operation = .none := by simpa [AfatfsFile.isBusy] using refused.2
    apply Wp.repeated (fun loop now => ∃ between, Writing file volume chains buffer loop now between)
      (fun loop => loop.buffer.length)
    · rintro loop now ⟨between, writing⟩
      exact wp_writePass writing notCurrent room
    · exact ⟨chains, .refl ok normal, idle, rfl, .inr BitVec.toNat_umod⟩
    · exact Nat.lt_succ_self _

/-- A file that has slots and is not being closed is not busy. -/
theorem FilesOk.idle_of_has (ok : FilesOk volume chains) (normal : (volume.afatfs.files file).HasChain file)
    (has : (volume.afatfs.files file).Has slot) (closing : (volume.afatfs.files file).operation.closing = false) :
    (volume.afatfs.files file).operation = .none := by
  have good := (ok.isOpen file normal).shape.operation
  rw [OperationOk] at good
  split at good <;> rename_i operation
  · exact operation
  · exact absurd good.2 has.locked
  · rw [operation] at closing
    cases closing
  · exact absurd good.2.1 has.locked
  · exact absurd good.2 has.locked
  · exact absurd good.2 has.locked
  · exact absurd good.2 has.locked

/-- The cursor goes on by a byte and stays in its sector, and so in its cluster. -/
theorem FilesOk.cursor_next {k : Nat} (ok : FilesOk volume chains) (normal : (volume.afatfs.files file).HasChain file)
    (idle : (volume.afatfs.files file).operation = .none)
    (cursor : CursorAt volume.afatfs.link volume.afatfs.clusterSize.toNat (chains (.file file)) (volume.afatfs.files file) k)
    (within : k < (chains (.file file)).length)
    (notLast : (volume.afatfs.files file).cursorOffset.toNat % 512 ≠ 511) :
    ((volume.afatfs.files file).cursorOffset + 1).toNat = (volume.afatfs.files file).cursorOffset.toNat + 1 ∧
      CursorAt volume.afatfs.link volume.afatfs.clusterSize.toNat (chains (.file file))
        { volume.afatfs.files file with cursorOffset := (volume.afatfs.files file).cursorOffset + 1 } k := by
  have high := cursor.high within
  have low := cursor.low
  have whole := ok.geometry.size_eq (k + 1)
  have most := ok.length_size normal (by rw [idle]; rfl)
  have longer : (k + 1) * volume.afatfs.clusterSize.toNat ≤
      (chains (.file file)).length * volume.afatfs.clusterSize.toNat := Nat.mul_le_mul_right _ within
  have sum : ((volume.afatfs.files file).cursorOffset + 1).toNat = (volume.afatfs.files file).cursorOffset.toNat + 1 := by
    bv_omega
  refine ⟨sum, cursor.move rfl rfl ?_ (fun _ => ?_) fun last => absurd within (by omega)⟩
  · rw [sum]
    omega
  · rw [sum]
    omega

/-- A byte is put in the sector that is locked, and it is not the last one of it. -/
theorem FilesOk.writes_putc {c : UInt8} (ok : FilesOk volume chains)
    (normal : (volume.afatfs.files file).HasChain file) (notCurrent : file ≠ .currentDirectory)
    (closing : (volume.afatfs.files file).operation.closing = false)
    (locked : (volume.afatfs.files file).writeLockedCacheIndex = some slot)
    (notLast : (volume.afatfs.files file).cursorOffset % 512 ≠ 511) :
    WritesBytes file volume chains [c] 1 { volume with
      afatfs := (volume.afatfs.setMemory slot ((volume.afatfs.cache slot).write
          (((volume.afatfs.files file).cursorOffset % 512).toNat : Nat) [c])).updateFile file
        fun f => { f with cursorOffset := f.cursorOffset + 1 } } chains := by
  have isOpen := ok.isOpen file normal
  have has : (volume.afatfs.files file).Has slot := .inl locked
  have idle := ok.idle_of_has normal has closing
  obtain ⟨-, k, cursor⟩ := isOpen.shape.operation.atRest has.locked
  obtain ⟨within, -⟩ := cursor.inside (isOpen.shape.inside.resolve_left has.locked)
  have before : (volume.afatfs.files file).cursorOffset.toNat % 512 ≠ 511 := by
    intro last
    apply notLast
    apply BitVec.eq_of_toNat_eq
    rw [BitVec.toNat_umod]
    exact last
  obtain ⟨sum, moved⟩ := ok.cursor_next normal idle cursor within before
  have high := cursor.high within
  have longer : (k + 1) * volume.afatfs.clusterSize.toNat ≤
      (chains (.file file)).length * volume.afatfs.clusterSize.toNat := Nat.mul_le_mul_right _ within
  rw [BitVec.toNat_umod, show BitVec.toNat (512 : Word) = 512 from rfl]
  have together : ((volume.afatfs.files file).cursorOffset + 1).toNat / 512 =
      (volume.afatfs.files file).cursorOffset.toNat / 512 := by
    rw [sum]
    omega
  obtain ⟨writes, -⟩ := ok.writeLocked normal notCurrent locked ((volume.afatfs.cache slot).write
    ((volume.afatfs.files file).cursorOffset.toNat % 512 : Nat) [c])
  have moves : Works file NoSector _ chains
      { volume with
        afatfs := Afatfs.updateFile file (fun f => { f with cursorOffset := f.cursorOffset + 1 })
          (volume.afatfs.setMemory slot ((volume.afatfs.cache slot).write
            ((volume.afatfs.files file).cursorOffset.toNat % 512 : Nat) [c])) } chains :=
    writes.ok.moveCursor normal idle rfl moved (.inr together)
  have record : (Afatfs.updateFile file (fun f => { f with cursorOffset := f.cursorOffset + 1 })
      (volume.afatfs.setMemory slot ((volume.afatfs.cache slot).write
        ((volume.afatfs.files file).cursorOffset.toNat % 512 : Nat) [c]))).files file =
      { volume.afatfs.files file with cursorOffset := (volume.afatfs.files file).cursorOffset + 1 } := Afatfs.updateFile_self
  have short : (volume.afatfs.files file).cursorOffset.toNat % 512 + [c].length ≤ 512 := by
    rw [List.length_singleton]
    omega
  have changed {j : Nat} (inside : j < (chains (.file file)).length * volume.afatfs.clusterSize.toNat) :=
    ok.byteAt_writeLocked normal notCurrent locked short inside
  refine ⟨(writes.mono ?_).trans (moves.mono fun _ => False.elim), List.prefix_rfl, ?_, fun _ => ?_, ?_, le_rfl, ?_, ?_, ?_⟩
  · rintro sector rfl
    exact ok.has_inCluster normal has
  · rw [record]
    exact normal
  · rw [record]
    exact closing
  · rw [record]
  · rw [record, target_of_idle idle]
    exact (target_of_idle (f := { volume.afatfs.files file with
      cursorOffset := (volume.afatfs.files file).cursorOffset + 1 }) idle).trans sum
  · intro i below
    obtain rfl : i = 0 := by omega
    rw [target_of_idle idle, moves.byteAt writes.ok normal (opening_of_idle idle) notCurrent List.prefix_rfl (by change _ < _ * volume.afatfs.clusterSize.toNat; omega) not_false,
      changed (by omega), if_pos (by rw [List.length_singleton]; omega), Nat.add_zero, Nat.sub_self]
  · intro j inside outside _
    rw [target_of_idle idle] at outside
    rw [moves.byteAt writes.ok normal (opening_of_idle idle) notCurrent List.prefix_rfl inside not_false, changed inside,
      if_neg (by rw [List.length_singleton]; omega)]

/-- The rule of `afatfs_fputc`, for a file that is not about to be closed. -/
theorem wp_fputc {c : UInt8} (ok : FilesOk volume chains) (normal : (volume.afatfs.files file).HasChain file)
    (notCurrent : file ≠ .currentDirectory) (closing : (volume.afatfs.files file).operation.closing = false)
    (room : (volume.afatfs.files file).target + 1 + volume.afatfs.clusterSize.toNat < 2 ^ 32) :
    Wp (fputc file c)
      (fun _ later => ∃ chains' count, WritesBytes file volume chains [c] count later chains') volume := by
  have writes : Wp (fwrite file [c])
      (fun count later => ∃ chains', WritesBytes file volume chains [c] count later chains') volume :=
    wp_fwrite ok normal notCurrent room
  rw [fputc, wp_get_bind]
  dsimp only
  cases locked : (volume.afatfs.files file).writeLockedCacheIndex with
  | none =>
    apply Wp.bind
    apply writes.mono
    rintro count later ⟨chains', wrote⟩
    exact (wp_pure _).mpr ⟨chains', count, wrote⟩
  | some slot =>
    dsimp only
    split_ifs with notLast
    · exact (wp_modify_bind _).mpr ((wp_modify _).mpr ⟨chains, 1, ok.writes_putc normal notCurrent closing locked notLast⟩)
    · apply Wp.bind
      apply writes.mono
      rintro count later ⟨chains', wrote⟩
      exact (wp_pure _).mpr ⟨chains', count, wrote⟩

end ComputerSystems.Fat
