import ComputerSystems.Data.Run
import ComputerSystems.System.Screen

/-! # The cursor and the console

Going left does not look at the offsets of the console, and going right lets the cursor
stand before a part of a column.  The cell at the cursor stays in the console in exactly
those runs in which neither happens (`cellKept_iff`), so that a console lets every text
stay inside if and only if it begins in the corner of the screen and is a number of
columns wide.
-/

namespace ComputerSystems.Verified

open ComputerSystems.Data ComputerSystems.System ScreenDevice

variable {screen : ScreenDevice} {ch : UInt8}

/-! ## The console -/

/-- The console holds a column and two rows of characters. -/
structure HoldsRows (screen : ScreenDevice) : Prop where
  column : screen.cursorOffsetX.toNat + characterWidth.toNat ≤ screen.cursorWidth.toNat
  rows : screen.cursorOffsetY.toNat + 2 * characterHeight.toNat ≤ screen.cursorHeight.toNat

/-- The character cell at the cursor lies inside the console. -/
structure CellInside (screen : ScreenDevice) : Prop where
  left : screen.cursorOffsetX.toNat ≤ screen.cursorX.toNat
  right : screen.cursorX.toNat + characterWidth.toNat ≤ screen.cursorWidth.toNat
  top : screen.cursorOffsetY.toNat ≤ screen.cursorY.toNat
  bottom : screen.cursorY.toNat + characterHeight.toNat ≤ screen.cursorHeight.toNat

/-- A run: one character after the other. -/
def consoleStep (screen : ScreenDevice) (ch : UInt8) : Option ScreenDevice := some (screen.displayCharacter ch)

/-- The character leaves the cursor in the console. -/
def CellKept (screen : ScreenDevice) (ch : UInt8) : Prop := CellInside (screen.displayCharacter ch)

/-- There is another row, or the test for one does not overflow. -/
def RowBelow (screen : ScreenDevice) : Prop := screen.cursorY.toNat + 2 * characterHeight.toNat < 2 ^ 32

/-- What is to the left is a column of the console, or there is no column of the screen and above
    is a row of the console, or nothing is to the left or above. -/
def RoomBefore (screen : ScreenDevice) : Prop :=
  if characterWidth ≤ screen.cursorX then
    screen.cursorOffsetX.toNat + characterWidth.toNat ≤ screen.cursorX.toNat
  else
    characterHeight ≤ screen.cursorY → screen.cursorOffsetY.toNat + characterHeight.toNat ≤ screen.cursorY.toNat

/-- What is to the right is a whole column, or nothing. -/
def RoomBehind (screen : ScreenDevice) : Prop :=
  if screen.cursorX.toNat + characterWidth.toNat < screen.cursorWidth.toNat then
    screen.cursorX.toNat + 2 * characterWidth.toNat ≤ screen.cursorWidth.toNat
  else RowBelow screen

/-- There is room for what the character does. -/
def CursorFits (screen : ScreenDevice) (ch : UInt8) : Prop :=
  if ch = backspace then RoomBefore screen
  else if ch = lineFeed then RowBelow screen
  else if ch = System.carriageReturn then True
  else space ≤ ch ∧ ch ≤ tilde → RoomBehind screen

/-! ## Moves -/

@[simp] theorem characterWidth_toNat : characterWidth.toNat = 8 := rfl

@[simp] theorem characterHeight_toNat : characterHeight.toNat = 20 := rfl

/-- The cursor of a console at some pixel. -/
theorem cellInside_at {x y : BitVec 32} :
    CellInside { screen with cursorX := x, cursorY := y } ↔
      (screen.cursorOffsetX.toNat ≤ x.toNat ∧ x.toNat + 8 ≤ screen.cursorWidth.toNat) ∧
        screen.cursorOffsetY.toNat ≤ y.toNat ∧ y.toNat + 20 ≤ screen.cursorHeight.toNat :=
  ⟨fun inside => ⟨⟨inside.left, inside.right⟩, inside.top, inside.bottom⟩,
    fun inside => ⟨inside.1.1, inside.1.2, inside.2.1, inside.2.2⟩⟩

theorem toNat_add_of_lt {a b : BitVec 32} (small : a.toNat + b.toNat < 2 ^ 32) : (a + b).toNat = a.toNat + b.toNat := by
  rw [BitVec.toNat_add, Nat.mod_eq_of_lt small]

theorem lineBelow_cursorY (bottom : screen.cursorY.toNat + characterHeight.toNat ≤ screen.cursorHeight.toNat) :
    screen.lineBelow.cursorY.toNat = screen.cursorY.toNat + characterHeight.toNat :=
  toNat_add_of_lt (Nat.lt_of_le_of_lt bottom screen.cursorHeight.isLt)

/-- The test for room, which passes when it overflows. -/
theorem atBottom_lineBelow (bottom : screen.cursorY.toNat + characterHeight.toNat ≤ screen.cursorHeight.toNat) :
    screen.lineBelow.atBottom ↔
      RowBelow screen ∧ screen.cursorHeight.toNat ≤ screen.cursorY.toNat + 2 * characterHeight.toNat := by
  have below := lineBelow_cursorY bottom
  have height := screen.cursorHeight.isLt
  have same : screen.lineBelow.cursorHeight = screen.cursorHeight := rfl
  rw [atBottom, ge_iff_le, BitVec.le_def, BitVec.toNat_add, below, same, RowBelow]
  simp only [characterHeight_toNat] at bottom ⊢
  omega

/-- Scrolling takes the cursor back to where it was. -/
theorem scrollCursor_lineBelow : screen.lineBelow.scrollCursor = screen := by
  rw [scrollCursor, lineBelow, BitVec.add_sub_cancel]

/-- Going down stays in the console unless the test for room overflows. -/
theorem cellInside_cursorDown (inside : CellInside screen) : CellInside screen.cursorDown ↔ RowBelow screen := by
  have bottomed := atBottom_lineBelow inside.bottom
  have below : (screen.cursorY + characterHeight).toNat = screen.cursorY.toNat + 20 := lineBelow_cursorY inside.bottom
  have height := screen.cursorHeight.isLt
  rw [cursorDown]
  by_cases full : screen.lineBelow.atBottom
  · rw [if_pos full, scrollCursor_lineBelow]
    exact ⟨fun _ => (bottomed.mp full).1, fun _ => inside⟩
  · rw [if_neg full]
    rw [bottomed, RowBelow, characterHeight_toNat] at full
    obtain ⟨left, right, top, bottom⟩ := inside
    rw [characterWidth_toNat] at right
    rw [characterHeight_toNat] at bottom
    rw [lineBelow, cellInside_at, below, RowBelow, characterHeight_toNat]
    omega

/-- A new line begins at the offset, wherever the cursor is. -/
theorem newLine_cursorX {x : BitVec 32} : newLine { screen with cursorX := x } = screen.newLine := rfl

theorem cellInside_carriageReturn (holds : HoldsRows screen) (inside : CellInside screen) :
    CellInside screen.carriageReturn :=
  ⟨Nat.le_refl _, holds.column, inside.top, inside.bottom⟩

theorem cellInside_newLine (holds : HoldsRows screen) (inside : CellInside screen) :
    CellInside screen.newLine ↔ RowBelow screen :=
  cellInside_cursorDown (cellInside_carriageReturn holds inside)

/-- Going left stays in the console where there is room before the cursor. -/
theorem cellInside_cursorLeft (holds : HoldsRows screen) (inside : CellInside screen) :
    CellInside screen.cursorLeft ↔ RoomBefore screen := by
  have column := holds.column
  obtain ⟨left, right, top, bottom⟩ := id inside
  rw [characterWidth_toNat] at column right
  rw [characterHeight_toNat] at bottom
  rw [cursorLeft, RoomBefore, characterWidth_toNat, characterHeight_toNat]
  by_cases column_before : characterWidth ≤ screen.cursorX
  · have before : (screen.cursorX - characterWidth).toNat = screen.cursorX.toNat - 8 :=
      BitVec.toNat_sub_of_le column_before
    have some_column : 8 ≤ screen.cursorX.toNat := column_before
    rw [if_pos column_before, if_pos column_before, cellInside_at, before]
    omega
  · rw [if_neg column_before, if_neg column_before]
    by_cases row_above : characterHeight ≤ screen.cursorY
    · have above : (screen.cursorY - characterHeight).toNat = screen.cursorY.toNat - 20 :=
        BitVec.toNat_sub_of_le row_above
      have some_row : 20 ≤ screen.cursorY.toNat := row_above
      have none_before : ¬ 8 ≤ screen.cursorX.toNat := column_before
      have wide : characterWidth ≤ screen.cursorWidth := by
        rw [BitVec.le_def, characterWidth_toNat]
        omega
      have last : (screen.cursorWidth - characterWidth).toNat = screen.cursorWidth.toNat - 8 :=
        BitVec.toNat_sub_of_le wide
      rw [if_pos row_above, cellInside_at, above, last]
      simp only [row_above, true_implies]
      omega
    · rw [if_neg row_above]
      exact ⟨fun _ above => absurd above row_above, fun _ => inside⟩

/-- Going right stays in the console where there is room behind the cursor. -/
theorem cellInside_cursorRight (holds : HoldsRows screen) (inside : CellInside screen) :
    CellInside screen.cursorRight ↔ RoomBehind screen := by
  have width := screen.cursorWidth.isLt
  have next : (screen.cursorX + characterWidth).toNat = screen.cursorX.toNat + 8 :=
    toNat_add_of_lt (Nat.lt_of_le_of_lt inside.right width)
  have last : screen.cursorX + characterWidth ≥ screen.cursorWidth ↔
      ¬ screen.cursorX.toNat + 8 < screen.cursorWidth.toNat := by
    rw [ge_iff_le, BitVec.le_def, next, Nat.not_lt]
  rw [cursorRight, RoomBehind, characterWidth_toNat]
  by_cases behind : screen.cursorX.toNat + 8 < screen.cursorWidth.toNat
  · rw [if_pos behind]
    simp only [last, not_not_intro behind, if_false]
    obtain ⟨left, right, top, bottom⟩ := inside
    rw [characterHeight_toNat] at bottom
    rw [cellInside_at, next]
    omega
  · rw [if_neg behind]
    simp only [last, behind, not_false_eq_true, if_true]
    rw [newLine_cursorX]
    exact cellInside_newLine holds inside

/-- A character leaves the cursor in the console if and only if there is room. -/
theorem cellKept_iff_cursorFits (holds : HoldsRows screen) (inside : CellInside screen) :
    CellKept screen ch ↔ CursorFits screen ch := by
  rw [CellKept, displayCharacter, CursorFits]
  by_cases left : ch = backspace
  · rw [if_pos left, if_pos left]
    exact cellInside_cursorLeft holds inside
  rw [if_neg left, if_neg left]
  by_cases line : ch = lineFeed
  · rw [if_pos line, if_pos line]
    exact cellInside_newLine holds inside
  rw [if_neg line, if_neg line]
  by_cases returned : ch = System.carriageReturn
  · rw [if_pos returned, if_pos returned]
    exact iff_true_intro (cellInside_carriageReturn holds inside)
  rw [if_neg returned, if_neg returned, displayChar]
  by_cases printable : space ≤ ch ∧ ch ≤ tilde
  · rw [if_pos printable]
    simp only [printable, and_self, true_implies]
    exact cellInside_cursorRight holds inside
  · rw [if_neg printable]
    exact ⟨fun _ shown => absurd shown printable, fun _ => inside⟩

/-! ## Runs -/

/-- The console is the same; only the cursor has moved. -/
def SameConsole (screen other : ScreenDevice) : Prop :=
  ∃ x y, other = { screen with cursorX := x, cursorY := y }

theorem sameConsole_cursorDown : SameConsole screen screen.cursorDown := by
  rw [cursorDown]
  split
  · exact ⟨_, _, rfl⟩
  · exact ⟨_, _, rfl⟩

theorem sameConsole_newLine : SameConsole screen screen.newLine := by
  obtain ⟨x, y, moved⟩ := @sameConsole_cursorDown screen.carriageReturn
  exact ⟨x, y, moved⟩

theorem sameConsole_displayCharacter : SameConsole screen (screen.displayCharacter ch) := by
  have stays : SameConsole screen screen := ⟨_, _, rfl⟩
  rw [displayCharacter]
  split
  · rw [cursorLeft]
    repeat' split
    · exact ⟨_, _, rfl⟩
    · exact ⟨_, _, rfl⟩
    · exact stays
  · split
    · exact sameConsole_newLine
    · split
      · exact ⟨_, _, rfl⟩
      · rw [displayChar]
        split
        · rw [cursorRight]
          split
          · rw [newLine_cursorX]
            exact sameConsole_newLine
          · exact ⟨_, _, rfl⟩
        · exact stays

theorem HoldsRows.displayCharacter (holds : HoldsRows screen) : HoldsRows (screen.displayCharacter ch) := by
  obtain ⟨x, y, moved⟩ := @sameConsole_displayCharacter screen ch
  rw [moved]
  exact ⟨holds.column, holds.rows⟩

/-- The cell at the cursor stays in the console in exactly the runs in which every character has
    room. -/
theorem along_cellKept_iff (holds : HoldsRows screen) (inside : CellInside screen) (chars : List UInt8) :
    Along consoleStep CellKept chars screen ↔ Along consoleStep CursorFits chars screen := by
  have anything : Along consoleStep (fun _ _ => True) chars screen := Along.of_forall_mem fun _ _ => trivial
  refine anything.congr (fun screen => HoldsRows screen ∧ CellInside screen) ⟨holds, inside⟩ ?_
  intro screen ch ⟨holds, inside⟩ _
  refine ⟨cellKept_iff_cursorFits holds inside, fun stays next steps => ?_⟩
  obtain rfl : screen.displayCharacter ch = next := Option.some.inj steps
  exact ⟨holds.displayCharacter, stays⟩

/-! ## Consoles -/

/-- The console begins in the corner of the screen, is a number of columns wide, and behind no row
    but the last the test for room overflows. -/
structure WholeColumns (screen : ScreenDevice) : Prop where
  offsetX : screen.cursorOffsetX.toNat = 0
  offsetY : screen.cursorOffsetY.toNat < 20
  columns : screen.cursorWidth.toNat % 8 = 0
  rows : ∀ row, row % 20 = screen.cursorOffsetY.toNat → row + 20 < screen.cursorHeight.toNat → row + 40 < 2 ^ 32

/-- The cursor is at a column and a row of characters, with more than the row below. -/
structure OnGrid (screen : ScreenDevice) : Prop where
  console : WholeColumns screen
  column : screen.cursorX.toNat % 8 = 0
  row : screen.cursorY.toNat % 20 = screen.cursorOffsetY.toNat
  bottom : screen.cursorY.toNat + 20 < screen.cursorHeight.toNat

theorem OnGrid.moved {x y : BitVec 32} (grid : OnGrid screen) (column : x.toNat % 8 = 0) (row : y.toNat % 20 = screen.cursorOffsetY.toNat)
    (bottom : y.toNat + 20 < screen.cursorHeight.toNat) : OnGrid { screen with cursorX := x, cursorY := y } :=
  ⟨⟨grid.console.offsetX, grid.console.offsetY, grid.console.columns, grid.console.rows⟩, column, row, bottom⟩

theorem OnGrid.rowBelow (grid : OnGrid screen) : RowBelow screen :=
  grid.console.rows _ grid.row grid.bottom

theorem OnGrid.cursorFits (grid : OnGrid screen) : CursorFits screen ch := by
  have below := grid.rowBelow
  obtain ⟨⟨offsetX, offsetY, columns, _⟩, column, row, bottom⟩ := grid
  have before : RoomBefore screen := by
    simp only [RoomBefore, BitVec.le_def, characterWidth_toNat, characterHeight_toNat]
    split
    · omega
    · omega
  have behind : RoomBehind screen := by
    rw [RoomBehind, characterWidth_toNat]
    split
    · omega
    · exact below
  rw [CursorFits]
  split
  · exact before
  · split
    · exact below
    · split
      · trivial
      · exact fun _ => behind

theorem OnGrid.cursorDown (grid : OnGrid screen) : OnGrid screen.cursorDown := by
  have bottom : screen.cursorY.toNat + characterHeight.toNat ≤ screen.cursorHeight.toNat := Nat.le_of_lt grid.bottom
  have below : (screen.cursorY + characterHeight).toNat = screen.cursorY.toNat + 20 := lineBelow_cursorY bottom
  have row := grid.row
  rw [ScreenDevice.cursorDown]
  by_cases full : screen.lineBelow.atBottom
  · rw [if_pos full, scrollCursor_lineBelow]
    exact grid
  · rw [if_neg full]
    rw [atBottom_lineBelow bottom, and_iff_right grid.rowBelow, characterHeight_toNat] at full
    refine grid.moved grid.column ?row ?bottom
    case row =>
      rw [below]
      omega
    case bottom =>
      rw [below]
      omega

theorem OnGrid.carriageReturn (grid : OnGrid screen) : OnGrid screen.carriageReturn :=
  grid.moved (by rw [grid.console.offsetX]) grid.row grid.bottom

theorem OnGrid.newLine (grid : OnGrid screen) : OnGrid screen.newLine := grid.carriageReturn.cursorDown

theorem OnGrid.cursorLeft (grid : OnGrid screen) (holds : HoldsRows screen) : OnGrid screen.cursorLeft := by
  have column := grid.column
  have row := grid.row
  have bottom := grid.bottom
  have offset := grid.console.offsetY
  have columns := grid.console.columns
  have wide := holds.column
  rw [characterWidth_toNat] at wide
  rw [ScreenDevice.cursorLeft]
  by_cases column_before : characterWidth ≤ screen.cursorX
  · have before : (screen.cursorX - characterWidth).toNat = screen.cursorX.toNat - 8 :=
      BitVec.toNat_sub_of_le column_before
    rw [if_pos column_before]
    exact grid.moved (by omega) row bottom
  · rw [if_neg column_before]
    by_cases row_above : characterHeight ≤ screen.cursorY
    · have above : (screen.cursorY - characterHeight).toNat = screen.cursorY.toNat - 20 :=
        BitVec.toNat_sub_of_le row_above
      have some_row : 20 ≤ screen.cursorY.toNat := row_above
      have last : (screen.cursorWidth - characterWidth).toNat = screen.cursorWidth.toNat - 8 :=
        BitVec.toNat_sub_of_le (by rw [BitVec.le_def, characterWidth_toNat]; omega)
      rw [if_pos row_above]
      exact grid.moved (by omega) (by omega) (by omega)
    · rw [if_neg row_above]
      exact grid

theorem OnGrid.cursorRight (grid : OnGrid screen) (inside : CellInside screen) : OnGrid screen.cursorRight := by
  have column := grid.column
  have next : (screen.cursorX + characterWidth).toNat = screen.cursorX.toNat + 8 :=
    toNat_add_of_lt (Nat.lt_of_le_of_lt inside.right screen.cursorWidth.isLt)
  rw [ScreenDevice.cursorRight]
  split
  · rw [newLine_cursorX]
    exact grid.newLine
  · exact grid.moved (by omega) grid.row grid.bottom

theorem OnGrid.displayCharacter (grid : OnGrid screen) (holds : HoldsRows screen) (inside : CellInside screen) :
    OnGrid (screen.displayCharacter ch) := by
  rw [ScreenDevice.displayCharacter]
  split
  · exact grid.cursorLeft holds
  · split
    · exact grid.newLine
    · split
      · exact grid.carriageReturn
      · rw [displayChar]
        split
        · exact grid.cursorRight inside
        · exact grid

/-- Whatever the text, the cursor stays inside of a console with whole columns. -/
theorem OnGrid.cellKept (grid : OnGrid screen) (holds : HoldsRows screen) (inside : CellInside screen)
    (chars : List UInt8) : Along consoleStep CellKept chars screen := by
  refine Along.of_invariant (fun screen => OnGrid screen ∧ HoldsRows screen ∧ CellInside screen)
    ⟨grid, holds, inside⟩ ?_
  intro screen ch ⟨grid, holds, inside⟩
  have stays : CellKept screen ch := (cellKept_iff_cursorFits holds inside).mpr grid.cursorFits
  refine ⟨stays, fun next steps => ?_⟩
  obtain rfl : screen.displayCharacter ch = next := Option.some.inj steps
  exact ⟨grid.displayCharacter holds inside, holds.displayCharacter, stays⟩

/-! ## Consoles that are left -/

/-- Whatever the text, the cursor stays in the console. -/
def AlwaysInside (screen : ScreenDevice) : Prop := ∀ chars, Along consoleStep CellKept chars screen

theorem AlwaysInside.next (always : AlwaysInside screen) : AlwaysInside (screen.displayCharacter ch) :=
  fun chars => (always (ch :: chars)).2 _ rfl

theorem AlwaysInside.stays (always : AlwaysInside screen) : CellKept screen ch := (always [ch]).1

/-- What is known of a state that a text reaches in such a console. -/
structure ConsoleReached (start screen : ScreenDevice) : Prop where
  always : AlwaysInside screen
  holds : HoldsRows screen
  inside : CellInside screen
  same : SameConsole start screen

theorem ConsoleReached.cursorFits {start : ScreenDevice} (reached : ConsoleReached start screen) : CursorFits screen ch :=
  (cellKept_iff_cursorFits reached.holds reached.inside).mp reached.always.stays

theorem ConsoleReached.next {start : ScreenDevice} (reached : ConsoleReached start screen) :
    ConsoleReached start (screen.displayCharacter ch) := by
  obtain ⟨_, _, rfl⟩ := reached.same
  obtain ⟨x, y, moved⟩ := @sameConsole_displayCharacter { start with cursorX := _, cursorY := _ } ch
  exact ⟨reached.always.next, reached.holds.displayCharacter, reached.always.stays, ⟨x, y, moved⟩⟩

/-- A space moves the cursor to the right. -/
theorem displayCharacter_space (inside : CellInside screen)
    (behind : screen.cursorX.toNat + 8 < screen.cursorWidth.toNat) :
    (screen.displayCharacter space).cursorX.toNat = screen.cursorX.toNat + 8 := by
  have next : (screen.cursorX + characterWidth).toNat = screen.cursorX.toNat + 8 :=
    toNat_add_of_lt (Nat.lt_of_le_of_lt inside.right screen.cursorWidth.isLt)
  have right : screen.displayCharacter space = screen.cursorRight := rfl
  have not_last : ¬ screen.cursorX + characterWidth ≥ screen.cursorWidth := by
    rw [ge_iff_le, BitVec.le_def, next]
    omega
  rw [right, cursorRight]
  simp only [not_last, if_false, next]

/-- A new line moves the cursor down. -/
theorem displayCharacter_lineFeed (below : screen.cursorY.toNat + 40 < screen.cursorHeight.toNat) :
    (screen.displayCharacter lineFeed).cursorY.toNat = screen.cursorY.toNat + 20 := by
  have bottom : screen.carriageReturn.cursorY.toNat + characterHeight.toNat ≤
      screen.carriageReturn.cursorHeight.toNat := by
    simp only [ScreenDevice.carriageReturn, characterHeight_toNat]
    omega
  have down : screen.displayCharacter lineFeed = screen.carriageReturn.cursorDown := rfl
  have not_full : ¬ screen.carriageReturn.lineBelow.atBottom := by
    rw [atBottom_lineBelow bottom]
    simp only [ScreenDevice.carriageReturn, characterHeight_toNat]
    omega
  rw [down, cursorDown, if_neg not_full]
  exact lineBelow_cursorY bottom

/-- With spaces the cursor comes to every whole column. -/
theorem exists_reached_column {start : ScreenDevice} (reached : ConsoleReached start start) (begins : start.cursorX.toNat = 0)
    (column : Nat) (inside : 8 * column + 8 ≤ start.cursorWidth.toNat) :
    ∃ screen, ConsoleReached start screen ∧ screen.cursorX.toNat = 8 * column := by
  induction column with
  | zero => exact ⟨start, reached, begins⟩
  | succ column ih =>
    obtain ⟨screen, reached, place⟩ := ih (by omega)
    have same : screen.cursorWidth = start.cursorWidth := by
      obtain ⟨_, _, rfl⟩ := reached.same
      rfl
    refine ⟨screen.displayCharacter space, reached.next, ?_⟩
    rw [displayCharacter_space reached.inside (by rw [same]; omega), place]
    omega

/-- With new lines the cursor comes to every row. -/
theorem exists_reached_row {start : ScreenDevice} (reached : ConsoleReached start start) (row : Nat)
    (inside : start.cursorY.toNat + 20 * row + 20 < start.cursorHeight.toNat) :
    ∃ screen, ConsoleReached start screen ∧ screen.cursorY.toNat = start.cursorY.toNat + 20 * row := by
  induction row with
  | zero => exact ⟨start, reached, rfl⟩
  | succ row ih =>
    obtain ⟨screen, reached, place⟩ := ih (by omega)
    have same : screen.cursorHeight = start.cursorHeight := by
      obtain ⟨_, _, rfl⟩ := reached.same
      rfl
    refine ⟨screen.displayCharacter lineFeed, reached.next, ?_⟩
    rw [displayCharacter_lineFeed (by rw [same]; omega), place]
    omega

/-! ## From the start -/

section

variable (config : ScreenConfig) (pixelWidth pixelHeight : BitVec 32) (frameBuffer : FrameBuffer)

/-- The cursor starts at the offset, which is a number of columns. -/
theorem initialized_cursor {start : ScreenDevice} (starts : start = initialized config pixelWidth pixelHeight frameBuffer) :
    start.cursorX = start.cursorOffsetX ∧ start.cursorY = start.cursorOffsetY ∧
      start.cursorOffsetX.toNat % 8 = 0 := by
  subst starts
  refine ⟨rfl, rfl, ?_⟩
  have product : (config.consoleXOrientation * characterWidth).toNat =
      config.consoleXOrientation.toNat * 8 % 2 ^ 32 := BitVec.toNat_mul ..
  simp only [initialized, screenDeviceInit, screenInit, product]
  omega

theorem cellInside_initialized (holds : HoldsRows (initialized config pixelWidth pixelHeight frameBuffer)) :
    CellInside (initialized config pixelWidth pixelHeight frameBuffer) := by
  obtain ⟨atX, atY, _⟩ := initialized_cursor config pixelWidth pixelHeight frameBuffer rfl
  have rows := holds.rows
  refine ⟨by rw [atX], by rw [atX]; exact holds.column, by rw [atY], ?_⟩
  rw [atY]
  rw [characterHeight_toNat] at rows ⊢
  omega

/-- A console in which the cursor always stays begins in the corner and has whole columns. -/
theorem wholeColumns_of_alwaysInside (holds : HoldsRows (initialized config pixelWidth pixelHeight frameBuffer))
    (always : AlwaysInside (initialized config pixelWidth pixelHeight frameBuffer)) :
    WholeColumns (initialized config pixelWidth pixelHeight frameBuffer) := by
  have inside := cellInside_initialized config pixelWidth pixelHeight frameBuffer holds
  obtain ⟨atX, atY, columns⟩ := initialized_cursor config pixelWidth pixelHeight frameBuffer rfl
  generalize initialized config pixelWidth pixelHeight frameBuffer = start at *
  have reached : ConsoleReached start start := ⟨always, holds, inside, ⟨_, _, rfl⟩⟩
  -- a backspace right at the start must find room before the cursor
  have before : RoomBefore start := (reached.cursorFits : CursorFits start backspace)
  simp only [RoomBefore, BitVec.le_def, characterWidth_toNat, characterHeight_toNat, atX, atY] at before
  have offsetX : start.cursorOffsetX.toNat = 0 := by
    split at before
    · omega
    · omega
  refine ⟨offsetX, ?offsetY, ?columns, ?rows⟩
  case offsetY =>
    rw [if_neg (by omega)] at before
    omega
  -- a space in the last column of a row must fit
  case columns =>
    have column := holds.column
    rw [characterWidth_toNat] at column
    obtain ⟨screen, last, place⟩ := exists_reached_column reached (by rw [atX, offsetX])
      (start.cursorWidth.toNat / 8 - 1) (by omega)
    have behind : RoomBehind screen := (last.cursorFits : CursorFits screen space) (by decide)
    obtain ⟨_, _, rfl⟩ := last.same
    rw [RoomBehind, characterWidth_toNat, place] at behind
    simp only at behind
    split at behind
    · omega
    · omega
  -- and so must a line feed in the last row that fits
  case rows =>
    intro row aligned bottom
    have begins : start.cursorY.toNat = start.cursorOffsetY.toNat := by rw [atY]
    obtain ⟨screen, last, place⟩ := exists_reached_row reached (row / 20) (by omega)
    have below : RowBelow screen := (last.cursorFits : CursorFits screen lineFeed)
    rw [RowBelow, characterHeight_toNat, place] at below
    omega

theorem onGrid_initialized (holds : HoldsRows (initialized config pixelWidth pixelHeight frameBuffer))
    (whole : WholeColumns (initialized config pixelWidth pixelHeight frameBuffer)) :
    OnGrid (initialized config pixelWidth pixelHeight frameBuffer) := by
  obtain ⟨atX, atY, _⟩ := initialized_cursor config pixelWidth pixelHeight frameBuffer rfl
  have rows := holds.rows
  rw [characterHeight_toNat] at rows
  refine ⟨whole, by rw [atX, whole.offsetX], by rw [atY, Nat.mod_eq_of_lt whole.offsetY], ?_⟩
  rw [atY]
  omega

/-- A console that holds a column and two rows starts with the cell at the cursor inside.  A text
    leaves it inside if and only if every character of it has room, and every text does if and only
    if the console begins in the corner and has whole columns. -/
theorem cellKept_iff (holds : HoldsRows (initialized config pixelWidth pixelHeight frameBuffer)) :
    CellInside (initialized config pixelWidth pixelHeight frameBuffer) ∧
      (∀ chars, Along consoleStep CellKept chars (initialized config pixelWidth pixelHeight frameBuffer) ↔
        Along consoleStep CursorFits chars (initialized config pixelWidth pixelHeight frameBuffer)) ∧
      ((∀ chars, Along consoleStep CellKept chars (initialized config pixelWidth pixelHeight frameBuffer)) ↔
        WholeColumns (initialized config pixelWidth pixelHeight frameBuffer)) := by
  have inside := cellInside_initialized config pixelWidth pixelHeight frameBuffer holds
  refine ⟨inside, along_cellKept_iff holds inside, ?_⟩
  constructor
  · exact wholeColumns_of_alwaysInside config pixelWidth pixelHeight frameBuffer holds
  · intro whole
    exact (onGrid_initialized config pixelWidth pixelHeight frameBuffer holds whole).cellKept holds inside

end

/-- The console of the game: a quarter of the width, below ten lines. -/
def gameConsole : ScreenConfig := { consoleXDivisor := 4, consoleYOrientation := 10 }

/-- A frame buffer of 640 by 480 pixels. -/
def frame480 : FrameBuffer := { width := 640, height := 480, buffer := 0x3c100000, bufferSize := 614400 }

/-- The full screen has whole columns. -/
theorem cellKept_full_screen :
    Along consoleStep CellKept [lineFeed, backspace, questionMark] (initialized {} 640 480 frame480) := by
  have whole : WholeColumns (initialized {} 640 480 frame480) := by
    refine ⟨by decide, by decide, by decide, fun row _ bottom => ?_⟩
    have height : (initialized {} 640 480 frame480).cursorHeight.toNat = 480 := by decide
    omega
  exact (cellKept_iff {} 640 480 frame480 ⟨by decide, by decide⟩).2.2.mpr whole _

/-- A backspace at the start leaves the console of the game. -/
theorem cellKept_not_always :
    HoldsRows (initialized gameConsole 640 480 frame480) ∧
      ¬ ∀ chars, Along consoleStep CellKept chars (initialized gameConsole 640 480 frame480) := by
  refine ⟨⟨by decide, by decide⟩, fun always => ?_⟩
  have left := (always [backspace]).1.top
  exact absurd left (by decide)

end ComputerSystems.Verified
