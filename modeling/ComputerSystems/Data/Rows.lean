import ComputerSystems.Data.Memory

/-! # Rows of a picture in memory

A picture is kept row by row: row `row` starts `row * pitch` bytes behind its base.  What
is moved or filled of a row is its first `length` bytes; `moveRows` moves rows up by a
number of rows, one after the other from the first on.
-/

namespace ComputerSystems.Data

variable {base : Int} {pitch length up first count row other : Nat} {memory : Memory} {cell : Int}

/-- Where a row starts. -/
def rowStart (base : Int) (pitch row : Nat) : Int := base + (row * pitch : Nat)

/-- The cell is one of the first `length` bytes of the row. -/
def InRow (base : Int) (pitch length row : Nat) (cell : Int) : Prop :=
  rowStart base pitch row ≤ cell ∧ cell < rowStart base pitch row + length

instance : Decidable (InRow base pitch length row cell) := inferInstanceAs (Decidable (_ ∧ _))

theorem rowStart_add : rowStart base pitch (row + up) = rowStart base pitch row + (up * pitch : Nat) := by
  simp only [rowStart, Nat.add_mul]
  omega

/-- A lower row starts behind an upper one. -/
theorem rowStart_lower (lower : row < other) (fits : length ≤ pitch) :
    rowStart base pitch row + length ≤ rowStart base pitch other := by
  have steps : (row + 1) * pitch ≤ other * pitch := Nat.mul_le_mul_right pitch lower
  rw [Nat.succ_mul] at steps
  simp only [rowStart]
  omega

/-- A cell is in one row. -/
theorem InRow.unique (inside : InRow base pitch length row cell) (inside' : InRow base pitch length other cell)
    (fits : length ≤ pitch) : row = other := by
  obtain ⟨lower, upper⟩ := inside
  obtain ⟨lower', upper'⟩ := inside'
  by_contra different
  obtain above | below := Nat.lt_or_gt_of_ne different
  · have apart := @rowStart_lower base pitch length row other above fits
    omega
  · have apart := @rowStart_lower base pitch length other row below fits
    omega

/-! ## Moving -/

/-- The first bytes of the row that is `up` rows below. -/
def moveRow (base : Int) (pitch length up : Nat) (memory : Memory) (row : Nat) : Memory := fun cell =>
  if InRow base pitch length row cell then memory (cell + (up * pitch : Nat)) else memory cell

/-- The rows from `first` on, one after the other. -/
def moveRows (base : Int) (pitch length up first count : Nat) (memory : Memory) : Memory :=
  (List.range' first count).foldl (moveRow base pitch length up) memory

theorem moveRows_succ :
    moveRows base pitch length up first (count + 1) memory =
      moveRow base pitch length up (moveRows base pitch length up first count memory) (first + count) := by
  rw [moveRows, List.range'_1_concat, List.foldl_append]
  rfl

theorem moveRows_add {more : Nat} :
    moveRows base pitch length up (first + count) more (moveRows base pitch length up first count memory) =
      moveRows base pitch length up first (count + more) memory := by
  rw [moveRows, moveRows, moveRows, ← List.foldl_append, ← List.range'_append_1]

/-- Some of these rows has the cell. -/
def InRows (base : Int) (pitch length first count : Nat) (cell : Int) : Prop :=
  ∃ row, first ≤ row ∧ row < first + count ∧ InRow base pitch length row cell

theorem inRows_succ :
    InRows base pitch length first (count + 1) cell ↔
      InRows base pitch length first count cell ∨ InRow base pitch length (first + count) cell := by
  constructor
  · rintro ⟨row, lower, upper, inside⟩
    by_cases last : row = first + count
    · exact .inr (last ▸ inside)
    · exact .inl ⟨row, lower, by omega, inside⟩
  · rintro (⟨row, lower, upper, inside⟩ | inside)
    · exact ⟨row, lower, by omega, inside⟩
    · exact ⟨first + count, by omega, by omega, inside⟩

/-- What lies `up` rows below has not been overwritten. -/
theorem not_inRows_below (inside : InRow base pitch length (first + count) cell) (fits : length ≤ pitch) :
    ¬ InRows base pitch length first count (cell + (up * pitch : Nat)) := by
  rintro ⟨row, _, upper, above⟩
  have apart := @rowStart_lower base pitch length row (first + count) upper fits
  obtain ⟨lower, _⟩ := inside
  obtain ⟨_, within⟩ := above
  omega

open Classical in
/-- The cells of the rows come from `up` rows below, and the others stay. -/
theorem moveRows_apply (fits : length ≤ pitch) :
    moveRows base pitch length up first count memory cell =
      if InRows base pitch length first count cell then memory (cell + (up * pitch : Nat)) else memory cell := by
  induction count generalizing cell with
  | zero =>
    have nothing : ¬ InRows base pitch length first 0 cell := by
      rintro ⟨row, lower, upper, _⟩
      omega
    rw [if_neg nothing]
    rfl
  | succ count ih =>
    rw [moveRows_succ, moveRow]
    by_cases inside : InRow base pitch length (first + count) cell
    · rw [if_pos inside, if_pos (inRows_succ.mpr (.inr inside)), ih, if_neg (not_inRows_below inside fits)]
    · rw [if_neg inside, ih]
      simp only [inRows_succ, inside, or_false]

end ComputerSystems.Data
