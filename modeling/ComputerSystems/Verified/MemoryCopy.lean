import ComputerSystems.System.Strings

/-! # `memcpy` copies bytes

After every pass of its loop `memcpy` has copied the bytes below `bytes`, by whatever
words.  The paths for words leave `bytes` one short, on an address that is not aligned,
so that the last byte of a run of double words is copied once more by itself.
-/

namespace ComputerSystems.Verified

open ComputerSystems.Data ComputerSystems.System

variable {memory : Memory} {dst src : Int} {length bytes : BitVec 32} {size : Nat}

/-! ## Words -/

theorem moveWord_inside {cell : Int} (lower : dst ≤ cell) (upper : cell < dst + size) :
    moveWord size dst src memory cell = memory (src + (cell - dst)) := by
  have index : (cell - dst).toNat < size := by omega
  have offset : ((cell - dst).toNat : Int) = cell - dst := by omega
  rw [moveWord, Memory.write_inside lower (by simpa using upper), List.getD_eq_getElem?_getD, List.getElem?_map,
    List.getElem?_range index]
  simp only [Option.map_some, Option.getD_some, offset]

theorem moveWord_outside {cell : Int} (outside : cell < dst ∨ dst + size ≤ cell) :
    moveWord size dst src memory cell = memory cell :=
  Memory.write_outside (by simpa using outside)

/-- Source and destination of `total` bytes do not overlap. -/
def Apart (dst src : Int) (total : Nat) : Prop := dst + total ≤ src ∨ src + total ≤ dst

/-- A word at the end of what has been copied, or inside it. -/
theorem moveWord_moveWord {total copied offset : Nat} (apart : Apart dst src total) (near : offset ≤ copied)
    (inside : offset + size ≤ total) (copiedInside : copied ≤ total) :
    moveWord size (dst + offset) (src + offset) (moveWord copied dst src memory) =
      moveWord (max copied (offset + size)) dst src memory := by
  funext cell
  simp only [Apart] at apart
  by_cases inWord : dst + offset ≤ cell ∧ cell < dst + offset + size
  · have source : src + offset + (cell - (dst + offset)) = src + (cell - dst) := by omega
    rw [moveWord_inside inWord.1 inWord.2, source, moveWord_outside (by omega),
      moveWord_inside (by omega) (by omega)]
  · rw [moveWord_outside (by omega)]
    by_cases inCopied : dst ≤ cell ∧ cell < dst + copied
    · rw [moveWord_inside inCopied.1 inCopied.2, moveWord_inside (by omega) (by omega)]
    · rw [moveWord_outside (by omega), moveWord_outside (by omega)]

/-- A run of words behind what has been copied. -/
theorem copyWords_moveWord {total copied : Nat} (apart : Apart dst src total) (count : Nat)
    (inside : copied + count * size ≤ total) :
    copyWords size (dst + copied) (src + copied) count (moveWord copied dst src memory) =
      moveWord (copied + count * size) dst src memory := by
  induction count with
  | zero => simp [copyWords]
  | succ count ih =>
    have smaller : copied + count * size ≤ total := by
      rw [Nat.succ_mul] at inside
      omega
    have before := ih smaller
    rw [copyWords, List.range_succ, List.foldl_append, List.foldl_cons, List.foldl_nil]
    rw [copyWords] at before
    rw [before, Int.add_assoc, Int.add_assoc, ← Int.natCast_add, Nat.succ_mul]
    rw [Nat.succ_mul] at inside
    rw [moveWord_moveWord apart (Nat.le_refl _) (by omega) smaller]
    congr 1
    omega

/-! ## Passes -/

/-- The state of the loop when `copied` bytes have been copied. -/
def copyState (dst src : Int) (memory : Memory) (copied : Nat) : BitVec 32 × Memory :=
  (BitVec.ofNat 32 copied, moveWord copied dst src memory)

/-- An index below 2 ^ 31 is not negative. -/
theorem toInt_small {copied : Nat} (small : copied < 2 ^ 31) : (BitVec.ofNat 32 copied).toInt = copied := by
  rw [BitVec.toInt_eq_toNat_of_lt]
  · rw [BitVec.toNat_ofNat, Nat.mod_eq_of_lt (by omega)]
  · rw [BitVec.toNat_ofNat, Nat.mod_eq_of_lt (by omega)]
    omega

/-- How many bytes remain. -/
theorem remaining_toNat {copied : Nat} (inside : copied ≤ length.toNat) :
    (length - BitVec.ofNat 32 copied).toNat = length.toNat - copied := by
  have bound := length.isLt
  rw [BitVec.toNat_sub_of_le]
  · rw [BitVec.toNat_ofNat, Nat.mod_eq_of_lt (by omega)]
  · rw [BitVec.le_def, BitVec.toNat_ofNat, Nat.mod_eq_of_lt (by omega)]
    exact inside

/-- The paths for words: at least one word is copied, and `bytes` is left on the last
    byte that has been. -/
theorem copyAligned_copies {copied : Nat} (positive : 0 < size) (word : size ≤ 8) (small : length.toNat < 2 ^ 31)
    (apart : Apart dst src length.toNat) (fits : wordFits size (dst + copied) (src + copied) (length - BitVec.ofNat 32 copied))
    (inside : copied < length.toNat) :
    ∃ count, 0 < count ∧ copied + count * size ≤ length.toNat ∧
      copyAligned size dst src length (BitVec.ofNat 32 copied) (moveWord copied dst src memory) =
        (BitVec.ofNat 32 (copied + count * size - 1), moveWord (copied + count * size) dst src memory) := by
  have remaining := remaining_toNat (Nat.le_of_lt inside)
  have divisor : (BitVec.ofNat 32 size).toNat = size := by
    rw [BitVec.toNat_ofNat, Nat.mod_eq_of_lt (by omega)]
  have quotient : ((length - BitVec.ofNat 32 copied) / BitVec.ofNat 32 size).toNat = (length.toNat - copied) / size := by
    rw [BitVec.toNat_udiv, remaining, divisor]
  have enough : size ≤ length.toNat - copied := by
    simp only [wordFits, remaining, decide_eq_true_eq] at fits
    omega
  have whole : (length.toNat - copied) / size * size ≤ length.toNat - copied := Nat.div_mul_le_self _ _
  have some_word : 0 < (length.toNat - copied) / size := Nat.div_pos enough positive
  have covered : size ≤ (length.toNat - copied) / size * size := Nat.le_mul_of_pos_left size some_word
  -- the index is left one before the end, for the increment of the loop
  refine ⟨(length.toNat - copied) / size, some_word, by omega, ?_⟩
  simp only [copyAligned, quotient, toInt_small (Nat.lt_trans inside small)]
  rw [copyWords_moveWord apart _ (by omega)]
  congr 1
  apply BitVec.eq_of_toNat_eq
  have product : ((length - BitVec.ofNat 32 copied) / BitVec.ofNat 32 size * BitVec.ofNat 32 size).toNat =
      (length.toNat - copied) / size * size := by
    rw [BitVec.toNat_mul, quotient, divisor, Nat.mod_eq_of_lt (by omega)]
  rw [BitVec.toNat_add, BitVec.toNat_sub_of_le, product, BitVec.toNat_ofNat, BitVec.toNat_ofNat]
  · have one : (1 : BitVec 32).toNat = 1 := rfl
    rw [one]
    omega
  · rw [BitVec.le_def, product]
    have one : (1 : BitVec 32).toNat = 1 := rfl
    omega

/-- The last byte that has been copied is incremented to the next. -/
theorem ofNat_pred_add_one {copied : Nat} (positive : 0 < copied) :
    BitVec.ofNat 32 (copied - 1) + 1 = BitVec.ofNat 32 copied := by
  rw [show (1 : BitVec 32) = BitVec.ofNat 32 1 from rfl, ← BitVec.ofNat_add, Nat.sub_add_cancel positive]

/-- Behind a run of double words the address is odd. -/
theorem not_wordFits_behind {copied count : Nat} {remaining : BitVec 32} (aligned : (dst + copied) % 8 = 0)
    (some_word : 0 < count) :
    wordFits 4 (dst + (copied + count * 8 - 1 : Nat)) src remaining = false := by
  simp only [wordFits, decide_eq_false_iff_not]
  omega

/-- A pass copies some more bytes. -/
theorem memcpyPass_copies {copied : Nat} (small : length.toNat < 2 ^ 31) (apart : Apart dst src length.toNat)
    (inside : copied < length.toNat) :
    ∃ more, copied < more ∧ more ≤ length.toNat ∧
      memcpyPass dst src length (copyState dst src memory copied) = .again (copyState dst src memory more) := by
  have goes : BitVec.ofNat 32 copied < length := by
    rw [BitVec.lt_def, BitVec.toNat_ofNat, Nat.mod_eq_of_lt (by omega)]
    exact inside
  have index := toInt_small (Nat.lt_trans inside small)
  simp only [memcpyPass, copyState, if_pos goes, index]
  by_cases double : wordFits 8 (dst + copied) (src + copied) (length - BitVec.ofNat 32 copied) = true
  · obtain ⟨count, some_word, fits, copies⟩ := @copyAligned_copies memory dst src length 8 copied (by decide) (by decide)
      small apart double inside
    refine ⟨copied + count * 8, by omega, fits, ?_⟩
    have last := toInt_small (by omega : copied + count * 8 - 1 < 2 ^ 31)
    -- too few bytes are left for another word, so the check for 4 bytes fails
    have aligned : (dst + copied) % 8 = 0 := by
      simp only [wordFits, decide_eq_true_eq] at double
      exact double.2.1
    rw [if_pos double, copies]
    simp only [last, not_wordFits_behind aligned some_word, Bool.false_eq_true, if_false]
    -- the last byte is copied once more
    rw [moveWord_moveWord apart (Nat.sub_le _ _) (by omega) fits, ofNat_pred_add_one (by omega)]
    congr 3
    omega
  · rw [if_neg double]
    simp only [index]
    by_cases single : wordFits 4 (dst + copied) (src + copied) (length - BitVec.ofNat 32 copied) = true
    · obtain ⟨count, some_word, fits, copies⟩ := @copyAligned_copies memory dst src length 4 copied (by decide) (by decide)
        small apart single inside
      refine ⟨copied + count * 4, by omega, fits, ?_⟩
      rw [if_pos single, copies]
      simp only [ofNat_pred_add_one (by omega : 0 < copied + count * 4)]
    · refine ⟨copied + 1, by omega, inside, ?_⟩
      rw [if_neg single]
      simp only [moveWord_moveWord apart (Nat.le_refl copied) (by omega : copied + 1 ≤ length.toNat) (Nat.le_of_lt inside)]
      rw [Nat.max_eq_right (by omega), BitVec.ofNat_add]
      rfl

/-- The loop has copied everything when it ends. -/
theorem memcpyPass_done :
    memcpyPass dst src length (copyState dst src memory length.toNat) = .leave (moveWord length.toNat dst src memory) := by
  have same : BitVec.ofNat 32 length.toNat = length := BitVec.ofNat_toNat ..
  simp [memcpyPass, copyState, same]

/-- Every pass copies at least one byte, so that the fuel is enough. -/
theorem iterate_memcpyPass {copied fuel : Nat} (small : length.toNat < 2 ^ 31) (apart : Apart dst src length.toNat)
    (inside : copied ≤ length.toNat) (enough : length.toNat - copied < fuel) :
    iterate (memcpyPass dst src length) fuel (copyState dst src memory copied) =
      some (moveWord length.toNat dst src memory) := by
  induction fuel generalizing copied with
  | zero => omega
  | succ fuel ih =>
    rw [iterate]
    by_cases done : copied = length.toNat
    · rw [done, memcpyPass_done]
    · obtain ⟨more, further, bound, goes⟩ := @memcpyPass_copies memory dst src length copied small apart (by omega)
      rw [goes]
      exact ih bound (by omega)

/-- `memcpy` of ranges that do not overlap is one move of all bytes. -/
theorem memcpy_eq_moveWord (small : length.toNat < 2 ^ 31) (apart : Apart dst src length.toNat) :
    memcpy dst src length memory = some (moveWord length.toNat dst src memory) := by
  have start : ((0, memory) : BitVec 32 × Memory) = copyState dst src memory 0 := by
    have nothing : moveWord 0 dst src memory = memory := by
      funext cell
      exact moveWord_outside (by omega)
    rw [copyState, nothing]
    rfl
  rw [memcpy, start]
  exact iterate_memcpyPass small apart (Nat.zero_le _) (by omega)

/-- `memcpy` of ranges that do not overlap copies their bytes and changes nothing else. -/
theorem memcpy_copies_bytes (dst src : Int) (length : BitVec 32) (memory : Memory) (small : length.toNat < 2 ^ 31)
    (apart : dst + length.toNat ≤ src ∨ src + length.toNat ≤ dst) :
    ∃ result, memcpy dst src length memory = some result ∧
      (∀ i : Nat, i < length.toNat → result (dst + i) = memory (src + i)) ∧
      ∀ cell, cell < dst ∨ dst + length.toNat ≤ cell → result cell = memory cell := by
  refine ⟨moveWord length.toNat dst src memory, memcpy_eq_moveWord small apart, ?_, ?_⟩
  · intro i below
    rw [moveWord_inside (by omega) (by omega)]
    congr 1
    omega
  · intro cell outside
    exact moveWord_outside outside

/-- Eleven bytes, of which eight are a double word. -/
theorem memcpy_copies_eleven :
    ∃ result, memcpy 64 32 11 (fun cell => UInt8.ofNat cell.toNat) = some result ∧
      (∀ i : Nat, i < (11 : BitVec 32).toNat → result (64 + i) = UInt8.ofNat ((32 : Int) + i).toNat) ∧
      ∀ cell, cell < 64 ∨ 64 + ((11 : BitVec 32).toNat : Int) ≤ cell → result cell = UInt8.ofNat cell.toNat :=
  memcpy_copies_bytes 64 32 11 (fun cell => UInt8.ofNat cell.toNat) (by decide) (.inr (by decide))

end ComputerSystems.Verified
