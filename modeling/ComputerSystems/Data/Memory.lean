import Mathlib.Data.List.GetD
import Mathlib.Algebra.Order.Ring.Nat

/-! # Byte memory

A memory gives every integer address a byte.  Addresses are integers and not
naturals so that a place before the start of a buffer is an address like any
other.  `write` stores a run of bytes, `read32` and `write32` a little-endian
word.  What a read sees after a write is decided by whether the two ranges
overlap.
-/

namespace ComputerSystems.Data

/-- The byte at every address. -/
abbrev Memory := Int → UInt8

namespace Memory

/-- Store `bytes` from `address` on. -/
def write (memory : Memory) (address : Int) (bytes : List UInt8) : Memory := fun cell =>
  if address ≤ cell ∧ cell < address + bytes.length then bytes.getD (cell - address).toNat 0
  else memory cell

/-- The little-endian word at `address`. -/
def read32 (memory : Memory) (address : Int) : Nat :=
  (memory address).toNat + 2 ^ 8 * (memory (address + 1)).toNat +
    2 ^ 16 * (memory (address + 2)).toNat + 2 ^ 24 * (memory (address + 3)).toNat

/-- The little-endian half word at `address`. -/
def read16 (memory : Memory) (address : Int) : Nat :=
  (memory address).toNat + 2 ^ 8 * (memory (address + 1)).toNat

/-- Store a little-endian half word. -/
def write16 (memory : Memory) (address : Int) (value : Nat) : Memory :=
  memory.write address [UInt8.ofNat value, UInt8.ofNat (value / 2 ^ 8)]

/-- Store a little-endian word. -/
def write32 (memory : Memory) (address : Int) (value : Nat) : Memory :=
  memory.write address [UInt8.ofNat value, UInt8.ofNat (value / 2 ^ 8), UInt8.ofNat (value / 2 ^ 16),
    UInt8.ofNat (value / 2 ^ 24)]

variable {memory memory' : Memory} {address cell : Int} {bytes : List UInt8}

theorem write_outside (outside : cell < address ∨ address + bytes.length ≤ cell) :
    memory.write address bytes cell = memory cell :=
  if_neg (by omega)

theorem write_inside (lower : address ≤ cell) (upper : cell < address + bytes.length) :
    memory.write address bytes cell = bytes.getD (cell - address).toNat 0 :=
  if_pos ⟨lower, upper⟩

theorem write32_outside {value : Nat} (outside : cell < address ∨ address + 4 ≤ cell) :
    memory.write32 address value cell = memory cell :=
  write_outside (by simpa using outside)

/-- A word depends only on its own four bytes. -/
theorem read32_congr (agree : ∀ cell, address ≤ cell → cell < address + 4 → memory' cell = memory cell) :
    memory'.read32 address = memory.read32 address := by
  simp only [read32, agree address (by omega) (by omega), agree (address + 1) (by omega) (by omega),
    agree (address + 2) (by omega) (by omega), agree (address + 3) (by omega) (by omega)]

@[simp] theorem read32_write32_self {value : Nat} (bound : value < 2 ^ 32) :
    (memory.write32 address value).read32 address = value := by
  have inside : ∀ cell (offset : Nat), cell = address + offset → offset < 4 →
      memory.write32 address value cell =
        [UInt8.ofNat value, UInt8.ofNat (value / 2 ^ 8), UInt8.ofNat (value / 2 ^ 16),
          UInt8.ofNat (value / 2 ^ 24)].getD offset 0 := by
    rintro cell offset rfl below
    rw [write32, write_inside (by omega) (by simp; omega)]
    congr 1
    omega
  rw [read32, inside address 0 (by simp) (by omega), inside (address + 1) 1 rfl (by omega),
    inside (address + 2) 2 rfl (by omega), inside (address + 3) 3 rfl (by omega)]
  simp only [List.getD_cons_zero, List.getD_cons_succ, UInt8.toNat_ofNat']
  omega

theorem read32_write32_of_disjoint {other : Int} {value : Nat}
    (disjoint : other + 4 ≤ address ∨ address + 4 ≤ other) :
    (memory.write32 address value).read32 other = memory.read32 other :=
  read32_congr fun _ _ _ => write32_outside (by omega)

/-! ## Half words -/

theorem write16_outside {value : Nat} (outside : cell < address ∨ address + 2 ≤ cell) :
    memory.write16 address value cell = memory cell :=
  write_outside (by simpa using outside)

theorem read16_congr (agree : ∀ cell, address ≤ cell → cell < address + 2 → memory' cell = memory cell) :
    memory'.read16 address = memory.read16 address := by
  simp only [read16, agree address (by omega) (by omega), agree (address + 1) (by omega) (by omega)]

theorem read16_write16_of_disjoint {other : Int} {value : Nat}
    (disjoint : other + 2 ≤ address ∨ address + 2 ≤ other) :
    (memory.write16 address value).read16 other = memory.read16 other :=
  read16_congr fun _ _ _ => write16_outside (by omega)

/-- What is read back are the lower 16 bits. -/
@[simp] theorem read16_write16_self {value : Nat} :
    (memory.write16 address value).read16 address = value % 2 ^ 16 := by
  have first : memory.write16 address value address = UInt8.ofNat value := by
    rw [write16, write_inside (by omega) (by simp)]
    simp
  have second : memory.write16 address value (address + 1) = UInt8.ofNat (value / 2 ^ 8) := by
    rw [write16, write_inside (by omega) (by simp), show (address + 1 - address).toNat = 1 by omega]
    rfl
  rw [read16, first, second]
  simp only [UInt8.toNat_ofNat']
  omega

/-! ## Blocks -/

/-- The memory holds `blocks` from address 0 on, one in every `size` bytes. -/
def Holds (memory : Memory) (size : Nat) (blocks : List (List UInt8)) : Prop :=
  ∀ n block, blocks[n]? = some block → ∀ j < block.length, memory (n * size + j : Nat) = block.getD j 0

@[simp] theorem holds_nil {size : Nat} : memory.Holds size [] := by
  intro n block found
  simp at found

/-- Storing the next block, or one that is stored already, at its place. -/
theorem Holds.store {size count n : Nat} {blocks : List (List UInt8)} {block : List UInt8}
    (holds : memory.Holds size (blocks.take count)) (sizes : ∀ block ∈ blocks, block.length ≤ size)
    (found : blocks[n]? = some block) (next : n ≤ count) :
    (memory.write (n * size : Nat) block).Holds size (blocks.take (max count (n + 1))) := by
  intro other block' found' j below
  rw [List.getElem?_take, Option.ite_none_right_eq_some] at found'
  by_cases same : other = n
  · subst same
    obtain rfl : block = block' := Option.some.inj (found.symm.trans found'.2)
    rw [write_inside (by omega) (by omega)]
    congr 1
    omega
  · have limit := sizes block (List.mem_of_getElem? found)
    have limit' := sizes block' (List.mem_of_getElem? found'.2)
    have apart : other * size + size ≤ n * size ∨ n * size + size ≤ other * size := by
      rw [← Nat.succ_mul, ← Nat.succ_mul]
      cases Nat.lt_or_gt_of_ne same with
      | inl before => exact .inl (Nat.mul_le_mul_right size before)
      | inr behind => exact .inr (Nat.mul_le_mul_right size behind)
    rw [write_outside (by omega)]
    refine holds other block' ?_ j below
    rw [List.getElem?_take, if_pos (by omega)]
    exact found'.2

end Memory

end ComputerSystems.Data
