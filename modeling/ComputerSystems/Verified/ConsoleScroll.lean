import ComputerSystems.Data.Rows
import ComputerSystems.Verified.ConsoleCursor
import ComputerSystems.Verified.MemoryCopy

/-! # Scrolling the console

`scroll` starts each row `CONSOLE_X_ORIENTATION` pixels from the left, where the console
starts as many characters from the left, moves as many pixels as the console would have
at the left, and erases the new row only if something has been moved and nothing close to
the end of the frame buffer would be.  It moves the console and nothing else if and only
if the console is at the left, has rows above the cursor and passes the test for every
line of the row (`scroll_moves_console_iff`).
-/

namespace ComputerSystems.Verified

open ComputerSystems.Data ComputerSystems.System ScreenDevice

variable {config : ScreenConfig} {frameBuffer : FrameBuffer} {screen : ScreenDevice} {memory : Memory}
  {row lines : BitVec 32} {cell : Int}

/-! ## The console on the screen -/

/-- What the firmware gives: the pixels are in the frame buffer and the frame buffer is in memory. -/
structure InMemory (config : ScreenConfig) (frameBuffer : FrameBuffer) : Prop where
  pixels : frameBuffer.width.toNat * frameBuffer.height.toNat * config.colorDepth.bytes.toNat ≤
    frameBuffer.bufferSize.toNat
  memory : frameBuffer.buffer.toNat + frameBuffer.bufferSize.toNat ≤ 2 ^ 32

/-- The console is a part of the screen, with the cursor on one of its rows. -/
structure OnScreen (config : ScreenConfig) (frameBuffer : FrameBuffer) (screen : ScreenDevice) : Prop where
  inMemory : InMemory config frameBuffer
  holds : HoldsRows screen
  offset : screen.cursorOffsetX.toNat = 8 * config.consoleXOrientation.toNat
  width : screen.cursorWidth.toNat ≤ frameBuffer.width.toNat
  height : screen.cursorHeight.toNat ≤ frameBuffer.height.toNat
  bottom : screen.cursorY.toNat + 20 ≤ screen.cursorHeight.toNat
  rows : ∃ count, screen.cursorY.toNat = screen.cursorOffsetY.toNat + 20 * count

/-- The bytes of a row of pixels. -/
def pitch (config : ScreenConfig) (frameBuffer : FrameBuffer) : Nat :=
  frameBuffer.width.toNat * config.colorDepth.bytes.toNat

/-- The bytes that are moved of a row. -/
def moved (config : ScreenConfig) (screen : ScreenDevice) : Nat :=
  screen.cursorWidth.toNat * config.colorDepth.bytes.toNat

/-- Where what is moved of the first row starts. -/
def copyBase (config : ScreenConfig) (frameBuffer : FrameBuffer) : Int :=
  frameBuffer.buffer.toNat + (config.consoleXOrientation.toNat * config.colorDepth.bytes.toNat : Nat)

theorem toNat_mul_of_lt {a b : BitVec 32} (small : a.toNat * b.toNat < 2 ^ 32) : (a * b).toNat = a.toNat * b.toNat := by
  rw [BitVec.toNat_mul, Nat.mod_eq_of_lt small]

theorem bytes_positive : 0 < config.colorDepth.bytes.toNat := by
  cases config.colorDepth with
  | bits16 => decide
  | bits32 => decide

namespace OnScreen

/-- What the console has to the left of it, and what is moved, is less than a row. -/
theorem narrow (on : OnScreen config frameBuffer screen) :
    config.consoleXOrientation.toNat < screen.cursorWidth.toNat ∧ 0 < screen.cursorWidth.toNat := by
  have column := on.holds.column
  have offset := on.offset
  rw [characterWidth_toNat] at column
  omega

theorem moved_le (on : OnScreen config frameBuffer screen) : moved config screen ≤ pitch config frameBuffer :=
  Nat.mul_le_mul_right _ on.width

theorem moved_positive (on : OnScreen config frameBuffer screen) : 0 < moved config screen :=
  Nat.mul_pos on.narrow.2 bytes_positive

/-- The rows of the screen are in the frame buffer. -/
theorem rows_le (on : OnScreen config frameBuffer screen) :
    frameBuffer.height.toNat * pitch config frameBuffer ≤ frameBuffer.bufferSize.toNat := by
  have pixels := on.inMemory.pixels
  rw [pitch, Nat.mul_left_comm, ← Nat.mul_assoc]
  exact pixels

/-- A row of the screen ends in the frame buffer. -/
theorem row_le (on : OnScreen config frameBuffer screen) {y : Nat} (inside : y < frameBuffer.height.toNat) :
    y * pitch config frameBuffer + pitch config frameBuffer ≤ frameBuffer.bufferSize.toNat := by
  have rows := on.rows_le
  have some_rows : (y + 1) * pitch config frameBuffer ≤ frameBuffer.height.toNat * pitch config frameBuffer :=
    Nat.mul_le_mul_right _ inside
  rw [Nat.succ_mul] at some_rows
  omega

/-- No row starts behind the memory. -/
theorem rowPointer_toNat (on : OnScreen config frameBuffer screen) (inside : row.toNat < frameBuffer.height.toNat) :
    ((rowPointer config frameBuffer row).toNat : Int) =
      rowStart (copyBase config frameBuffer) (pitch config frameBuffer) row.toNat := by
  have fits := on.row_le inside
  have limit := on.inMemory.memory
  have narrow : config.consoleXOrientation.toNat * config.colorDepth.bytes.toNat < pitch config frameBuffer :=
    Nat.mul_lt_mul_of_pos_right (Nat.lt_of_lt_of_le on.narrow.1 on.width) bytes_positive
  have bytes : (config.consoleXOrientation.toNat + row.toNat * frameBuffer.width.toNat) * config.colorDepth.bytes.toNat =
      config.consoleXOrientation.toNat * config.colorDepth.bytes.toNat + row.toNat * pitch config frameBuffer := by
    rw [Nat.add_mul, Nat.mul_assoc, pitch]
  have pixels : config.consoleXOrientation.toNat + row.toNat * frameBuffer.width.toNat ≤
      config.consoleXOrientation.toNat * config.colorDepth.bytes.toNat + row.toNat * pitch config frameBuffer := by
    rw [← bytes]
    exact Nat.le_mul_of_pos_right _ bytes_positive
  have below : (row * frameBuffer.width).toNat = row.toNat * frameBuffer.width.toNat := toNat_mul_of_lt (by omega)
  have pixel : (config.consoleXOrientation + row * frameBuffer.width).toNat =
      config.consoleXOrientation.toNat + row.toNat * frameBuffer.width.toNat := by
    rw [toNat_add_of_lt (by rw [below]; omega), below]
  have offset : ((config.consoleXOrientation + row * frameBuffer.width) * config.colorDepth.bytes).toNat =
      config.consoleXOrientation.toNat * config.colorDepth.bytes.toNat + row.toNat * pitch config frameBuffer := by
    rw [toNat_mul_of_lt (by rw [pixel, bytes]; omega), pixel, bytes]
  rw [rowPointer, toNat_add_of_lt (by rw [offset]; omega), offset, rowStart, copyBase]
  omega

theorem rowSize_toNat (on : OnScreen config frameBuffer screen) :
    (rowSize config screen).toNat = moved config screen ∧ moved config screen < 2 ^ 31 := by
  have rows := on.rows_le
  have limit := on.inMemory.memory
  have moves := on.moved_le
  have two_rows := on.holds.rows
  have height := on.height
  rw [characterHeight_toNat] at two_rows
  have many : 2 * pitch config frameBuffer ≤ frameBuffer.height.toNat * pitch config frameBuffer :=
    Nat.mul_le_mul_right _ (by omega)
  have size := frameBuffer.bufferSize.isLt
  have small : moved config screen < 2 ^ 31 := by omega
  refine ⟨toNat_mul_of_lt ?_, small⟩
  rw [moved] at small
  omega

/-- A line of a row above the cursor is moved up from one character below. -/
theorem copyLine_eq (on : OnScreen config frameBuffer screen) {cursorY : BitVec 32}
    (above : cursorY.toNat + 20 ≤ screen.cursorY.toNat) (inside : lines.toNat < 20) :
    copyLine config frameBuffer screen cursorY memory lines =
      some (moveRow (copyBase config frameBuffer) (pitch config frameBuffer) (moved config screen) 20 memory
        (cursorY.toNat + lines.toNat)) := by
  have bottom := on.bottom
  have height := on.height
  have limit := frameBuffer.height.isLt
  obtain ⟨size, small⟩ := on.rowSize_toNat
  have line : (lines + cursorY).toNat = cursorY.toNat + lines.toNat := by
    rw [toNat_add_of_lt (by omega)]
    omega
  have below : (lines + cursorY + characterHeight).toNat = cursorY.toNat + lines.toNat + 20 := by
    rw [toNat_add_of_lt (by rw [line, characterHeight_toNat]; omega), line, characterHeight_toNat]
  have dst := @rowPointer_toNat config frameBuffer screen (lines + cursorY) on (by omega)
  have src := @rowPointer_toNat config frameBuffer screen (lines + cursorY + characterHeight) on (by omega)
  rw [line] at dst
  rw [below, rowStart_add] at src
  have whole : pitch config frameBuffer ≤ 20 * pitch config frameBuffer := Nat.le_mul_of_pos_left _ (by decide)
  have moves := on.moved_le
  rw [copyLine, dst, src, memcpy_eq_moveWord (by rw [size]; exact small) (.inl (by rw [size]; omega)), size]
  congr 1
  funext other
  rw [moveRow]
  -- the copy of a whole row is one of its words, byte by byte
  by_cases covered : InRow (copyBase config frameBuffer) (pitch config frameBuffer) (moved config screen)
      (cursorY.toNat + lines.toNat) other
  · rw [if_pos covered, moveWord_inside covered.1 covered.2]
    congr 1
    omega
  · rw [if_neg covered, moveWord_outside (by rw [InRow] at covered; omega)]

/-- All lines of a row above the cursor are moved. -/
theorem copyLines_eq (on : OnScreen config frameBuffer screen) {cursorY : BitVec 32}
    (above : cursorY.toNat + 20 ≤ screen.cursorY.toNat) :
    characterLines.foldlM (copyLine config frameBuffer screen cursorY) memory =
      some (moveRows (copyBase config frameBuffer) (pitch config frameBuffer) (moved config screen) 20 cursorY.toNat 20
        memory) := by
  have some_lines : ∀ count ≤ 20,
      ((List.range count).map (BitVec.ofNat 32)).foldlM (copyLine config frameBuffer screen cursorY) memory =
        some (moveRows (copyBase config frameBuffer) (pitch config frameBuffer) (moved config screen) 20 cursorY.toNat
          count memory) := by
    intro count bound
    induction count with
    | zero => rfl
    | succ count ih =>
      have last : (BitVec.ofNat 32 count).toNat = count := by
        rw [BitVec.toNat_ofNat, Nat.mod_eq_of_lt (by omega)]
      rw [List.range_succ, List.map_append, List.foldlM_append, ih (by omega), moveRows_succ]
      have line := @copyLine_eq config frameBuffer screen
        (moveRows (copyBase config frameBuffer) (pitch config frameBuffer) (moved config screen) 20 cursorY.toNat
          count memory) (BitVec.ofNat 32 count) on cursorY above (by omega)
      rw [last] at line
      simp only [List.map_singleton, List.foldlM_cons, List.foldlM_nil, Option.bind_eq_bind, Option.bind_some, line,
        Option.pure_def]
  exact some_lines 20 (Nat.le_refl _)

/-- The loop over the characters moves all rows above the cursor. -/
theorem iterate_scrollPass (on : OnScreen config frameBuffer screen) {cursorY source : BitVec 32} {fuel count : Nat}
    (rows : screen.cursorY.toNat = cursorY.toNat + 20 * count) (enough : count < fuel) :
    ∃ last, iterate (scrollPass config frameBuffer screen) fuel { cursorY, source, memory } =
        some (some
          { cursorY := screen.cursorY
            source := last
            memory := moveRows (copyBase config frameBuffer) (pitch config frameBuffer) (moved config screen) 20
              cursorY.toNat (20 * count) memory }) ∧
      (count = 0 → last = source) ∧ (0 < count → last ≠ 0) := by
  -- on the rows that are left: a pass copies one row of characters
  induction count generalizing cursorY source fuel memory with
  | zero =>
    obtain ⟨fuel, rfl⟩ : ∃ rest, fuel = rest + 1 := ⟨fuel - 1, by omega⟩
    obtain rfl : screen.cursorY = cursorY := BitVec.eq_of_toNat_eq rows
    refine ⟨source, ?_, fun _ => rfl, fun some_rows => absurd some_rows (Nat.lt_irrefl 0)⟩
    simp [iterate, scrollPass, moveRows]
  | succ count ih =>
    obtain ⟨fuel, rfl⟩ : ∃ rest, fuel = rest + 1 := ⟨fuel - 1, by omega⟩
    have bottom := on.bottom
    have height := on.height
    have limit := frameBuffer.height.isLt
    have goes : cursorY < screen.cursorY := by
      rw [BitVec.lt_def]
      omega
    have below : (cursorY + characterHeight).toNat = cursorY.toNat + 20 :=
      toNat_add_of_lt (by rw [characterHeight_toNat]; omega)
    have lastLine : (characterHeight - 1).toNat = 19 := rfl
    have lowest : (characterHeight - 1 + cursorY + characterHeight).toNat = cursorY.toNat + 39 := by
      have line : (characterHeight - 1 + cursorY).toNat = cursorY.toNat + 19 := by
        rw [toNat_add_of_lt (by rw [lastLine]; omega), lastLine, Nat.add_comm]
      rw [toNat_add_of_lt (by rw [line, characterHeight_toNat]; omega), line, characterHeight_toNat]
    have copied : rowPointer config frameBuffer (characterHeight - 1 + cursorY + characterHeight) ≠ 0 := by
      intro null
      have start : ((rowPointer config frameBuffer (characterHeight - 1 + cursorY + characterHeight)).toNat : Int) = _ :=
        on.rowPointer_toNat (by omega)
      have wide := Nat.lt_of_lt_of_le on.moved_positive on.moved_le
      have some_bytes : 0 < (cursorY.toNat + 39) * pitch config frameBuffer := Nat.mul_pos (by omega) wide
      have zero : ((0 : BitVec 32).toNat : Int) = 0 := rfl
      rw [null, zero, lowest, rowStart, copyBase] at start
      omega
    have moves := @copyLines_eq config frameBuffer screen memory on cursorY (by omega)
    obtain ⟨last, runs, none_copied, some_copied⟩ := @ih
      (moveRows (copyBase config frameBuffer) (pitch config frameBuffer) (moved config screen) 20 cursorY.toNat 20 memory)
      (cursorY + characterHeight) (rowPointer config frameBuffer (characterHeight - 1 + cursorY + characterHeight)) fuel
      (by rw [below]; omega) (by omega)
    refine ⟨last, ?_, fun none => absurd none (Nat.succ_ne_zero count), fun _ => ?_⟩
    · rw [iterate, scrollPass, if_pos goes, moves]
      rw [below, moveRows_add, Nat.add_comm 20 (20 * count)] at runs
      exact runs
    · obtain none | some_rows := Nat.eq_zero_or_pos count
      · rw [none_copied none]
        exact copied
      · exact some_copied some_rows

/-! ## Erasing -/

/-- A line of the row of the cursor. -/
theorem linePointer (on : OnScreen config frameBuffer screen) (inside : lines.toNat < 20) :
    ((rowPointer config frameBuffer (lines + screen.cursorY)).toNat : Int) =
      rowStart (copyBase config frameBuffer) (pitch config frameBuffer) (screen.cursorY.toNat + lines.toNat) := by
  have bottom := on.bottom
  have height := on.height
  have limit := frameBuffer.height.isLt
  have line : (lines + screen.cursorY).toNat = screen.cursorY.toNat + lines.toNat := by
    rw [toNat_add_of_lt (by omega)]
    omega
  rw [on.rowPointer_toNat (by omega), line]

theorem blacken_inside {dst : Int} {length : BitVec 32} (lower : dst ≤ cell) (upper : cell < dst + length.toNat) :
    blacken dst length memory cell = 0 := by
  rw [blacken, Memory.write_inside lower (by simpa using upper)]
  have index : (cell - dst).toNat < length.toNat := by omega
  simp [index]

theorem blacken_outside {dst : Int} {length : BitVec 32} (outside : cell < dst ∨ dst + length.toNat ≤ cell) :
    blacken dst length memory cell = memory cell :=
  Memory.write_outside (by simpa using outside)

/-- The line of the row of the cursor has the cell. -/
def InLine (config : ScreenConfig) (frameBuffer : FrameBuffer) (screen : ScreenDevice) (lines : BitVec 32) (cell : Int) :
    Prop :=
  InRow (copyBase config frameBuffer) (pitch config frameBuffer) (moved config screen)
    (screen.cursorY.toNat + lines.toNat) cell

instance (cell : Int) : Decidable (InLine config frameBuffer screen lines cell) :=
  inferInstanceAs (Decidable (InRow _ _ _ _ _))

/-- A line that is erased. -/
theorem blacken_line (on : OnScreen config frameBuffer screen) (inside : lines.toNat < 20) :
    blacken (rowPointer config frameBuffer (lines + screen.cursorY)).toNat (rowSize config screen) memory cell =
      if InLine config frameBuffer screen lines cell then 0 else memory cell := by
  have start := @linePointer config frameBuffer screen lines on inside
  have size := on.rowSize_toNat.1
  by_cases covered : InLine config frameBuffer screen lines cell
  · rw [if_pos covered, blacken_inside (by rw [start]; exact covered.1) (by rw [start, size]; exact covered.2)]
  · rw [if_neg covered, blacken_outside]
    rw [start, size]
    simp only [InLine, InRow] at covered
    omega

/-- A cell keeps what it has, unless it is in a line that is erased. -/
theorem eraseLines_or (on : OnScreen config frameBuffer screen) {list : List (BitVec 32)}
    (inside : ∀ lines ∈ list, lines.toNat < 20) :
    (eraseLines config frameBuffer screen list memory).1 cell = memory cell ∨
      (eraseLines config frameBuffer screen list memory).1 cell = 0 ∧
        ∃ lines ∈ list, eraseOverflows config frameBuffer screen lines = false ∧
          InLine config frameBuffer screen lines cell := by
  induction list generalizing memory with
  | nil => exact .inl rfl
  | cons lines rest ih =>
    rw [eraseLines]
    by_cases overflow : eraseOverflows config frameBuffer screen lines = true
    · rw [if_pos overflow]
      exact .inl rfl
    · rw [if_neg overflow]
      have first := inside lines List.mem_cons_self
      obtain kept | ⟨black, other, mem, fits, covered⟩ :=
        @ih (blacken (rowPointer config frameBuffer (lines + screen.cursorY)).toNat (rowSize config screen) memory)
          fun other mem => inside other (List.mem_cons_of_mem lines mem)
      · rw [kept, blacken_line on first]
        by_cases covered : InLine config frameBuffer screen lines cell
        · rw [if_pos covered]
          exact .inr ⟨rfl, lines, List.mem_cons_self, Bool.eq_false_iff.mpr overflow, covered⟩
        · rw [if_neg covered]
          exact .inl rfl
      · exact .inr ⟨black, other, List.mem_cons_of_mem lines mem, fits, covered⟩

/-- If all lines pass the test, they are erased. -/
theorem eraseLines_inside (on : OnScreen config frameBuffer screen) {list : List (BitVec 32)}
    (inside : ∀ lines ∈ list, lines.toNat < 20)
    (fit : ∀ lines ∈ list, eraseOverflows config frameBuffer screen lines = false)
    (covered : ∃ lines ∈ list, InLine config frameBuffer screen lines cell) :
    (eraseLines config frameBuffer screen list memory).1 cell = 0 := by
  induction list generalizing memory with
  | nil =>
    obtain ⟨_, mem, _⟩ := covered
    exact absurd mem List.not_mem_nil
  | cons lines rest ih =>
    have first := inside lines List.mem_cons_self
    have others : ∀ other ∈ rest, other.toNat < 20 := fun other mem => inside other (List.mem_cons_of_mem lines mem)
    rw [eraseLines, fit lines List.mem_cons_self]
    by_cases later : ∃ other ∈ rest, InLine config frameBuffer screen other cell
    · exact ih others (fun other mem => fit other (List.mem_cons_of_mem lines mem)) later
    · -- the cell is in the first line only, which is erased and then kept
      have now : InLine config frameBuffer screen lines cell := by
        obtain ⟨other, mem, covered⟩ := covered
        obtain rfl | mem := List.mem_cons.mp mem
        · exact covered
        · exact absurd ⟨other, mem, covered⟩ later
      obtain kept | ⟨black, _⟩ := @eraseLines_or config frameBuffer screen
        (blacken (rowPointer config frameBuffer (lines + screen.cursorY)).toNat (rowSize config screen) memory) cell on
        rest others
      · exact kept.trans (by rw [blacken_line on first, if_pos now])
      · exact black

theorem mem_characterLines : ∀ lines ∈ characterLines, lines.toNat < 20 := by
  intro lines mem
  obtain ⟨line, inside, rfl⟩ := List.mem_map.mp mem
  have small : line < 20 := List.mem_range.mp inside
  rw [BitVec.toNat_ofNat, Nat.mod_eq_of_lt (by omega)]
  exact small

theorem exists_characterLine {line : Nat} (inside : line < 20) : ∃ lines ∈ characterLines, lines.toNat = line := by
  refine ⟨BitVec.ofNat 32 line, List.mem_map.mpr ⟨line, List.mem_range.mpr inside, rfl⟩, ?_⟩
  rw [BitVec.toNat_ofNat, Nat.mod_eq_of_lt (by omega)]

/-! ## What `scroll` leaves -/

/-- The memory after the rows above the cursor have been moved. -/
def movedUp (config : ScreenConfig) (frameBuffer : FrameBuffer) (screen : ScreenDevice) (memory : Memory) : Memory :=
  moveRows (copyBase config frameBuffer) (pitch config frameBuffer) (moved config screen) 20 screen.cursorOffsetY.toNat
    (screen.cursorY.toNat - screen.cursorOffsetY.toNat) memory

/-- `scroll` moves the rows above the cursor, and then erases the row of the cursor if there were
    any. -/
theorem scroll_eq (on : OnScreen config frameBuffer screen) :
    ∃ overflow, scroll config frameBuffer screen.lineBelow memory = some
      { screen, overflow,
        memory :=
          if screen.cursorOffsetY < screen.cursorY then
            (eraseLines config frameBuffer screen characterLines (movedUp config frameBuffer screen memory)).1
          else memory } := by
  obtain ⟨count, rows⟩ := on.rows
  obtain ⟨last, runs, none_copied, some_copied⟩ := @iterate_scrollPass config frameBuffer screen memory on
    screen.cursorOffsetY 0 (screen.cursorY.toNat + 1) count rows (by omega)
  have all : 20 * count = screen.cursorY.toNat - screen.cursorOffsetY.toNat := by omega
  rw [all, ← movedUp] at runs
  simp only [scroll, scrollCursor_lineBelow, runs]
  by_cases above : screen.cursorOffsetY < screen.cursorY
  · have some_rows : 0 < count := by
      rw [BitVec.lt_def] at above
      omega
    simp only [if_pos above, some_copied some_rows, ne_eq, not_false_eq_true, if_true]
    exact ⟨_, rfl⟩
  · have none : count = 0 := by
      rw [BitVec.lt_def] at above
      omega
    have nothing : movedUp config frameBuffer screen memory = memory := by
      rw [movedUp, ← all, none]
      rfl
    simp only [if_neg above, none_copied none, ne_eq, not_true_eq_false, if_false, nothing]
    exact ⟨_, rfl⟩

end OnScreen

/-! ## What it should do -/

/-- The address of a pixel. -/
def pixelAddress (config : ScreenConfig) (frameBuffer : FrameBuffer) (x y : Nat) : Int :=
  frameBuffer.buffer.toNat + ((y * frameBuffer.width.toNat + x) * config.colorDepth.bytes.toNat : Nat)

/-- The pixel is in the console. -/
def InConsole (screen : ScreenDevice) (x y : Nat) : Prop :=
  (screen.cursorOffsetX.toNat ≤ x ∧ x < screen.cursorWidth.toNat) ∧
    screen.cursorOffsetY.toNat ≤ y ∧ y < screen.cursorHeight.toNat

/-- The rows of the console above the new row of the cursor come from one character below, that row
    is black, and the rest of the screen and of the memory is as before. -/
structure MovesConsole (config : ScreenConfig) (frameBuffer : FrameBuffer) (screen : ScreenDevice)
    (before after : Memory) : Prop where
  moved : ∀ x y byte, InConsole screen x y → y < screen.cursorY.toNat → byte < config.colorDepth.bytes.toNat →
    after (pixelAddress config frameBuffer x y + byte) = before (pixelAddress config frameBuffer x (y + 20) + byte)
  black : ∀ x y byte, InConsole screen x y → screen.cursorY.toNat ≤ y → y < screen.cursorY.toNat + 20 →
    byte < config.colorDepth.bytes.toNat → after (pixelAddress config frameBuffer x y + byte) = 0
  others : ∀ x y byte, x < frameBuffer.width.toNat → y < frameBuffer.height.toNat →
    byte < config.colorDepth.bytes.toNat → ¬ InConsole screen x y →
      after (pixelAddress config frameBuffer x y + byte) = before (pixelAddress config frameBuffer x y + byte)
  outside : ∀ cell : Int,
    cell < frameBuffer.buffer.toNat ∨ (frameBuffer.buffer.toNat : Int) + frameBuffer.bufferSize.toNat ≤ cell →
      after cell = before cell

/-- `scroll` returns and has moved the console and nothing else. -/
def ScrollsConsole (config : ScreenConfig) (frameBuffer : FrameBuffer) (screen : ScreenDevice) (memory : Memory) :
    Prop :=
  ∃ scrolled, scroll config frameBuffer screen memory = some scrolled ∧
    MovesConsole config frameBuffer scrolled.screen memory scrolled.memory

/-- The console is at the left of the screen, has rows above that of the cursor, and all lines of
    that row pass the test. -/
structure MovesAll (config : ScreenConfig) (frameBuffer : FrameBuffer) (screen : ScreenDevice) : Prop where
  atLeft : config.consoleXOrientation = 0
  above : screen.cursorOffsetY < screen.cursorY
  passes : ∀ lines ∈ characterLines, eraseOverflows config frameBuffer screen lines = false

theorem pixelAddress_eq {x y : Nat} :
    pixelAddress config frameBuffer x y =
      rowStart frameBuffer.buffer.toNat (pitch config frameBuffer) y + (x * config.colorDepth.bytes.toNat : Nat) := by
  rw [pixelAddress, rowStart, pitch, Nat.add_mul, Nat.mul_assoc]
  omega

theorem pixelAddress_below {x y : Nat} :
    pixelAddress config frameBuffer x (y + 20) = pixelAddress config frameBuffer x y + (20 * pitch config frameBuffer : Nat) := by
  rw [pixelAddress_eq, pixelAddress_eq, rowStart_add]
  omega

/-- A byte of a pixel is before the pixel behind. -/
theorem pixel_lt {x width byte : Nat} (inside : x < width) (small : byte < config.colorDepth.bytes.toNat) :
    x * config.colorDepth.bytes.toNat + byte < width * config.colorDepth.bytes.toNat := by
  have next : (x + 1) * config.colorDepth.bytes.toNat ≤ width * config.colorDepth.bytes.toNat :=
    Nat.mul_le_mul_right _ inside
  rw [Nat.succ_mul] at next
  omega

/-- A pixel of the screen is in one row. -/
theorem pixel_inRow {x y byte row : Nat} (inside : x < frameBuffer.width.toNat)
    (small : byte < config.colorDepth.bytes.toNat) (narrow : screen.cursorWidth.toNat ≤ frameBuffer.width.toNat) :
    InRow frameBuffer.buffer.toNat (pitch config frameBuffer) (moved config screen) row
        (pixelAddress config frameBuffer x y + byte) ↔ row = y ∧ x < screen.cursorWidth.toNat := by
  have fits : moved config screen ≤ pitch config frameBuffer := Nat.mul_le_mul_right _ narrow
  have whole : InRow frameBuffer.buffer.toNat (pitch config frameBuffer) (pitch config frameBuffer) y
      (pixelAddress config frameBuffer x y + byte) := by
    have short := pixel_lt inside small
    rw [← pitch] at short
    rw [InRow, pixelAddress_eq]
    omega
  constructor
  · rintro ⟨lower, upper⟩
    obtain rfl : row = y := InRow.unique ⟨lower, by omega⟩ whole (Nat.le_refl _)
    refine ⟨rfl, ?_⟩
    rw [pixelAddress_eq, moved] at upper
    by_contra behind
    have wide : screen.cursorWidth.toNat * config.colorDepth.bytes.toNat ≤ x * config.colorDepth.bytes.toNat :=
      Nat.mul_le_mul_right _ (Nat.le_of_not_lt behind)
    omega
  · rintro ⟨rfl, within⟩
    have short := pixel_lt within small
    rw [← moved] at short
    rw [InRow, pixelAddress_eq]
    omega

/-! ## When it does -/

namespace OnScreen

theorem copyBase_atLeft (atLeft : config.consoleXOrientation = 0) :
    copyBase config frameBuffer = frameBuffer.buffer.toNat := by
  have zero : config.consoleXOrientation.toNat = 0 := by
    rw [atLeft]
    rfl
  rw [copyBase, zero, Nat.zero_mul]
  omega

/-- The rows that are moved or erased are in the frame buffer. -/
theorem inRow_inside (on : OnScreen config frameBuffer screen) (atLeft : config.consoleXOrientation = 0) {y : Nat}
    (inside : y < frameBuffer.height.toNat)
    (covered : InRow (copyBase config frameBuffer) (pitch config frameBuffer) (moved config screen) y cell) :
    (frameBuffer.buffer.toNat : Int) ≤ cell ∧ cell < (frameBuffer.buffer.toNat : Int) + frameBuffer.bufferSize.toNat := by
  have row := on.row_le inside
  have moves := on.moved_le
  obtain ⟨lower, upper⟩ := covered
  rw [copyBase_atLeft atLeft, rowStart] at lower upper
  omega

/-- A cell that is in no row from the first to that of the cursor stays. -/
theorem untouched (on : OnScreen config frameBuffer screen)
    (apart : ∀ y, screen.cursorOffsetY.toNat ≤ y → y < screen.cursorY.toNat + 20 →
      ¬ InRow (copyBase config frameBuffer) (pitch config frameBuffer) (moved config screen) y cell) :
    (eraseLines config frameBuffer screen characterLines (movedUp config frameBuffer screen memory)).1 cell =
      memory cell := by
  obtain ⟨count, rows⟩ := on.rows
  have not_moved : movedUp config frameBuffer screen memory cell = memory cell := by
    rw [movedUp, moveRows_apply on.moved_le, if_neg]
    rintro ⟨y, lower, upper, covered⟩
    exact apart y lower (by omega) covered
  obtain kept | ⟨_, lines, mem, _, covered⟩ := @eraseLines_or config frameBuffer screen
    (movedUp config frameBuffer screen memory) cell on characterLines mem_characterLines
  · exact kept.trans not_moved
  · have small := mem_characterLines lines mem
    exact absurd covered (apart _ (by omega) (by omega))

/-- The console is moved if it is at the left and all lines pass the test. -/
theorem movesConsole (on : OnScreen config frameBuffer screen) (all : MovesAll config frameBuffer screen) :
    MovesConsole config frameBuffer screen memory
      (eraseLines config frameBuffer screen characterLines (movedUp config frameBuffer screen memory)).1 := by
  obtain ⟨atLeft, above, passes⟩ := all
  have base : copyBase config frameBuffer = frameBuffer.buffer.toNat := copyBase_atLeft atLeft
  have bottom := on.bottom
  have height := on.height
  have offset := on.offset
  have above' : screen.cursorOffsetY.toNat < screen.cursorY.toNat := above
  have offsetX : screen.cursorOffsetX.toNat = 0 := by
    rw [offset, atLeft]
    rfl
  refine ⟨?moved, ?black, ?others, ?outside⟩
  case moved =>
    intro x y byte ⟨⟨_, right⟩, top, _⟩ higher small
    have place : ∀ row, InRow (copyBase config frameBuffer) (pitch config frameBuffer) (moved config screen) row
        (pixelAddress config frameBuffer x y + byte) ↔ row = y ∧ x < screen.cursorWidth.toNat := by
      intro row
      rw [base]
      exact pixel_inRow (Nat.lt_of_lt_of_le right on.width) small on.width
    obtain kept | ⟨_, lines, _, _, covered⟩ := @eraseLines_or config frameBuffer screen
      (movedUp config frameBuffer screen memory) (pixelAddress config frameBuffer x y + byte) on characterLines
      mem_characterLines
    · rw [kept, movedUp, moveRows_apply on.moved_le, if_pos ⟨y, top, by omega, (place y).mpr ⟨rfl, right⟩⟩,
        pixelAddress_below]
      congr 1
      omega
    · have row := ((place _).mp covered).1
      omega
  case black =>
    intro x y byte ⟨⟨_, right⟩, _⟩ lower upper small
    obtain ⟨lines, mem, line⟩ := @exists_characterLine (y - screen.cursorY.toNat) (by omega)
    refine eraseLines_inside on mem_characterLines passes ⟨lines, mem, ?_⟩
    rw [InLine, base, line]
    exact (pixel_inRow (Nat.lt_of_lt_of_le right on.width) small on.width).mpr ⟨by omega, right⟩
  case others =>
    intro x y byte inside _ small elsewhere
    apply on.untouched
    intro row lower upper covered
    rw [base] at covered
    obtain ⟨rfl, right⟩ := (pixel_inRow inside small on.width).mp covered
    exact elsewhere ⟨⟨by omega, right⟩, lower, by omega⟩
  case outside =>
    intro cell outside
    apply on.untouched
    intro row _ upper covered
    have inside := on.inRow_inside atLeft (by omega) covered
    omega

/-- What `scroll` leaves, where it moves the console. -/
theorem movesConsole_of_scrolls (on : OnScreen config frameBuffer screen)
    (scrolls : ScrollsConsole config frameBuffer screen.lineBelow memory) :
    MovesConsole config frameBuffer screen memory
      (if screen.cursorOffsetY < screen.cursorY then
        (eraseLines config frameBuffer screen characterLines (movedUp config frameBuffer screen memory)).1
      else memory) := by
  obtain ⟨overflow, runs⟩ := @scroll_eq config frameBuffer screen memory on
  obtain ⟨scrolled, runs', moves⟩ := scrolls
  rw [runs] at runs'
  obtain rfl := Option.some.inj runs'
  exact moves

/-- The test passes where four times the width of the console is in the frame buffer behind the
    start of the last line. -/
theorem passes_of_room (on : OnScreen config frameBuffer screen) (atLeft : config.consoleXOrientation = 0)
    (room : (screen.cursorY.toNat + 19) * pitch config frameBuffer + 4 * moved config screen ≤
      frameBuffer.bufferSize.toNat) :
    ∀ lines ∈ characterLines, eraseOverflows config frameBuffer screen lines = false := by
  intro lines mem
  have small := mem_characterLines lines mem
  have start := @linePointer config frameBuffer screen lines on small
  have size := on.rowSize_toNat.1
  have limit := frameBuffer.bufferSize.isLt
  have before : (screen.cursorY.toNat + lines.toNat) * pitch config frameBuffer ≤
      (screen.cursorY.toNat + 19) * pitch config frameBuffer := Nat.mul_le_mul_right _ (by omega)
  rw [copyBase_atLeft atLeft, rowStart] at start
  have offset : (rowPointer config frameBuffer (lines + screen.cursorY) - frameBuffer.buffer).toNat =
      (screen.cursorY.toNat + lines.toNat) * pitch config frameBuffer := by
    rw [BitVec.toNat_sub_of_le (by rw [BitVec.le_def]; omega)]
    omega
  have four : (4 : BitVec 32).toNat = 4 := rfl
  have widths : (rowSize config screen * 4).toNat = moved config screen * 4 := by
    rw [toNat_mul_of_lt (by rw [size, four]; omega), size, four]
  rw [eraseOverflows, decide_eq_false_iff_not, gt_iff_lt, BitVec.lt_def, toNat_add_of_lt (by omega), offset, widths]
  omega

/-- A memory in which every byte is 1, so that what is erased differs. -/
def ones : Memory := fun _ => 1

theorem movedUp_ones (on : OnScreen config frameBuffer screen) : movedUp config frameBuffer screen ones cell = 1 := by
  rw [movedUp, moveRows_apply on.moved_le]
  split
  · rfl
  · rfl

/-- The row of the cursor is in the console. -/
theorem inConsole_cursor (on : OnScreen config frameBuffer screen) {line : Nat} (inside : line < 20) :
    InConsole screen screen.cursorOffsetX.toNat (screen.cursorY.toNat + line) := by
  obtain ⟨count, rows⟩ := on.rows
  have column := on.holds.column
  have bottom := on.bottom
  rw [characterWidth_toNat] at column
  exact ⟨⟨Nat.le_refl _, by omega⟩, by omega, by omega⟩

/-- Without a row above nothing is erased. -/
theorem above_of_scrolls (on : OnScreen config frameBuffer screen)
    (scrolls : ScrollsConsole config frameBuffer screen.lineBelow ones) : screen.cursorOffsetY < screen.cursorY := by
  have moves := on.movesConsole_of_scrolls scrolls
  by_contra none
  rw [if_neg none] at moves
  have black := moves.black _ _ 0 (on.inConsole_cursor (show 0 < 20 by decide)) (Nat.le_refl _) (by omega) bytes_positive
  exact absurd (show (1 : UInt8) = 0 from black) (by decide)

/-- A console that is not at the left is moved with pixels that are to the left of it. -/
theorem atLeft_of_scrolls (on : OnScreen config frameBuffer screen)
    (scrolls : ∀ memory, ScrollsConsole config frameBuffer screen.lineBelow memory) :
    config.consoleXOrientation = 0 := by
  have above := on.above_of_scrolls (scrolls ones)
  by_contra elsewhere
  have right : 0 < config.consoleXOrientation.toNat := by
    have different : config.consoleXOrientation.toNat ≠ 0 := fun zero => elsewhere (BitVec.eq_of_toNat_eq zero)
    omega
  have offset := on.offset
  have narrow := Nat.lt_of_lt_of_le on.narrow.1 on.width
  have bottom := on.bottom
  have height := on.height
  have lower : screen.cursorOffsetY.toNat < screen.cursorY.toNat := above
  have wide := Nat.lt_of_lt_of_le on.moved_positive on.moved_le
  -- the pixel that is taken for the first of the console
  have first : pixelAddress config frameBuffer config.consoleXOrientation.toNat screen.cursorOffsetY.toNat =
      rowStart (copyBase config frameBuffer) (pitch config frameBuffer) screen.cursorOffsetY.toNat := by
    rw [pixelAddress_eq, rowStart, rowStart, copyBase]
    omega
  have moves := on.movesConsole_of_scrolls (scrolls fun cell =>
    if cell = pixelAddress config frameBuffer config.consoleXOrientation.toNat screen.cursorOffsetY.toNat then 1 else 0)
  rw [if_pos above] at moves
  have kept := moves.others config.consoleXOrientation.toNat screen.cursorOffsetY.toNat 0 narrow (by omega) bytes_positive (fun inside => by
    have left := inside.1.1
    omega)
  have positive := on.moved_positive
  obtain same | ⟨black, _⟩ := @eraseLines_or config frameBuffer screen
    (movedUp config frameBuffer screen fun cell =>
      if cell = pixelAddress config frameBuffer config.consoleXOrientation.toNat screen.cursorOffsetY.toNat then 1 else 0)
    (pixelAddress config frameBuffer config.consoleXOrientation.toNat screen.cursorOffsetY.toNat + (0 : Nat)) on
    characterLines mem_characterLines
  · have below : movedUp config frameBuffer screen (fun cell =>
        if cell = pixelAddress config frameBuffer config.consoleXOrientation.toNat screen.cursorOffsetY.toNat then 1
        else 0) (pixelAddress config frameBuffer config.consoleXOrientation.toNat screen.cursorOffsetY.toNat +
          (0 : Nat)) = 0 := by
      rw [movedUp, moveRows_apply on.moved_le,
        if_pos ⟨_, Nat.le_refl _, by omega, by rw [first]; exact ⟨by omega, by omega⟩⟩, if_neg (by omega)]
    rw [same, below] at kept
    simp at kept
  · rw [black] at kept
    simp at kept

/-- A line that does not pass the test is not erased. -/
theorem passes_of_scrolls (on : OnScreen config frameBuffer screen) (atLeft : config.consoleXOrientation = 0)
    (scrolls : ScrollsConsole config frameBuffer screen.lineBelow ones) :
    ∀ lines ∈ characterLines, eraseOverflows config frameBuffer screen lines = false := by
  intro lines mem
  have above := on.above_of_scrolls scrolls
  have moves := on.movesConsole_of_scrolls scrolls
  have small := mem_characterLines lines mem
  have inside := on.inConsole_cursor small
  rw [if_pos above] at moves
  have black := moves.black _ _ 0 inside (by omega) (by omega) bytes_positive
  obtain same | ⟨_, other, mem', fits, covered⟩ := @eraseLines_or config frameBuffer screen
    (movedUp config frameBuffer screen ones)
    (pixelAddress config frameBuffer screen.cursorOffsetX.toNat (screen.cursorY.toNat + lines.toNat) + (0 : Nat)) on
    characterLines mem_characterLines
  · rw [same, on.movedUp_ones] at black
    exact absurd black (by decide)
  · rw [InLine, copyBase_atLeft atLeft,
      pixel_inRow (Nat.lt_of_lt_of_le inside.1.2 on.width) bytes_positive on.width] at covered
    obtain rfl : other = lines := BitVec.eq_of_toNat_eq (by omega)
    exact fits

/-- `scroll` moves the console and nothing else, whatever is on the screen, if and only if the
    console is at the left, has rows above the cursor and all lines of its row pass the test. -/
theorem scrolls_iff (on : OnScreen config frameBuffer screen) :
    (∀ memory, ScrollsConsole config frameBuffer screen.lineBelow memory) ↔ MovesAll config frameBuffer screen := by
  constructor
  · intro scrolls
    have atLeft := on.atLeft_of_scrolls scrolls
    exact ⟨atLeft, on.above_of_scrolls (scrolls ones), on.passes_of_scrolls atLeft (scrolls ones)⟩
  · intro all memory
    obtain ⟨overflow, runs⟩ := @scroll_eq config frameBuffer screen memory on
    rw [if_pos all.above] at runs
    exact ⟨_, runs, on.movesConsole all⟩

end OnScreen

/-! ## Runs -/

/-- The cursor is on a row of the screen, be it above the console. -/
structure OnRow (screen : ScreenDevice) : Prop where
  bottom : screen.cursorY.toNat + 20 ≤ screen.cursorHeight.toNat
  row : screen.cursorY.toNat % 20 = screen.cursorOffsetY.toNat % 20

namespace OnRow

theorem placed {x y : BitVec 32} (bottom : y.toNat + 20 ≤ screen.cursorHeight.toNat)
    (row : y.toNat % 20 = screen.cursorOffsetY.toNat % 20) : OnRow { screen with cursorX := x, cursorY := y } :=
  ⟨bottom, row⟩

theorem cursorDown (on : OnRow screen) (low : screen.cursorHeight.toNat + 40 < 2 ^ 32) : OnRow screen.cursorDown := by
  obtain ⟨bottom, row⟩ := id on
  have below : (screen.cursorY + characterHeight).toNat = screen.cursorY.toNat + 20 := lineBelow_cursorY bottom
  rw [ScreenDevice.cursorDown]
  by_cases full : screen.lineBelow.atBottom
  · rw [if_pos full, scrollCursor_lineBelow]
    exact on
  · rw [if_neg full]
    rw [atBottom_lineBelow bottom, RowBelow, characterHeight_toNat] at full
    exact placed (by rw [below]; omega) (by rw [below]; omega)

theorem newLine (on : OnRow screen) (low : screen.cursorHeight.toNat + 40 < 2 ^ 32) : OnRow screen.newLine := by
  have returned : OnRow screen.carriageReturn := ⟨on.bottom, on.row⟩
  exact returned.cursorDown low

theorem cursorLeft (on : OnRow screen) : OnRow screen.cursorLeft := by
  obtain ⟨bottom, row⟩ := id on
  rw [ScreenDevice.cursorLeft]
  split
  · exact ⟨bottom, row⟩
  · split
    next above =>
      have some_row : 20 ≤ screen.cursorY.toNat := above
      have higher : (screen.cursorY - characterHeight).toNat = screen.cursorY.toNat - 20 :=
        BitVec.toNat_sub_of_le above
      exact placed (by omega) (by omega)
    next => exact on

theorem displayCharacter {ch : UInt8} (on : OnRow screen) (low : screen.cursorHeight.toNat + 40 < 2 ^ 32) :
    OnRow (screen.displayCharacter ch) := by
  rw [ScreenDevice.displayCharacter]
  split
  · exact on.cursorLeft
  · split
    · exact on.newLine low
    · split
      · exact ⟨on.bottom, on.row⟩
      · rw [displayChar]
        split
        · rw [cursorRight]
          split
          · rw [newLine_cursorX]
            exact on.newLine low
          · exact ⟨on.bottom, on.row⟩
        · exact on

/-- Every run keeps to the rows of the console it starts with. -/
theorem run {start : ScreenDevice} {chars : List UInt8} (on : OnRow start)
    (low : start.cursorHeight.toNat + 40 < 2 ^ 32) (runs : chars.foldlM consoleStep start = some screen) :
    SameConsole start screen ∧ OnRow screen := by
  have anything : Along consoleStep (fun _ _ => True) chars start := Along.of_forall_mem fun _ _ => trivial
  refine anything.reached (fun screen => SameConsole start screen ∧ OnRow screen) ⟨⟨_, _, rfl⟩, on⟩ ?_ runs
  intro screen ch ⟨same, on⟩ _ next steps
  obtain rfl : screen.displayCharacter ch = next := Option.some.inj steps
  obtain ⟨_, _, rfl⟩ := same
  obtain ⟨x, y, moved⟩ := @sameConsole_displayCharacter { start with cursorX := _, cursorY := _ } ch
  exact ⟨⟨x, y, moved⟩, on.displayCharacter low⟩

end OnRow

section

variable (config : ScreenConfig) (pixelWidth pixelHeight : BitVec 32) (frameBuffer : FrameBuffer)

/-- The lines of a screen in memory are few. -/
theorem low_of_inMemory (valid : InMemory config frameBuffer)
    (holds : HoldsRows (initialized config pixelWidth pixelHeight frameBuffer)) :
    (initialized config pixelWidth pixelHeight frameBuffer).cursorHeight.toNat ≤ frameBuffer.height.toNat ∧
      (initialized config pixelWidth pixelHeight frameBuffer).cursorWidth.toNat ≤ frameBuffer.width.toNat ∧
      frameBuffer.height.toNat + 40 < 2 ^ 32 := by
  have column := holds.column
  have height : (initialized config pixelWidth pixelHeight frameBuffer).cursorHeight.toNat ≤
      frameBuffer.height.toNat := by
    rw [initialized, screenDeviceInit, BitVec.toNat_udiv]
    exact Nat.div_le_self _ _
  have width : (initialized config pixelWidth pixelHeight frameBuffer).cursorWidth.toNat ≤
      frameBuffer.width.toNat := by
    rw [initialized, screenDeviceInit, BitVec.toNat_udiv]
    exact Nat.div_le_self _ _
  refine ⟨height, width, ?_⟩
  rw [characterWidth_toNat] at column
  have pixels := valid.pixels
  have size := frameBuffer.bufferSize.isLt
  have columns : 8 * frameBuffer.height.toNat ≤ frameBuffer.width.toNat * frameBuffer.height.toNat :=
    Nat.mul_le_mul_right _ (by omega)
  have bytes : frameBuffer.width.toNat * frameBuffer.height.toNat ≤
      frameBuffer.width.toNat * frameBuffer.height.toNat * config.colorDepth.bytes.toNat :=
    Nat.le_mul_of_pos_right _ bytes_positive
  omega

/-- Wherever a text has taken the cursor, scrolling finds it on a row of the console. -/
theorem onScreen_of_run (valid : InMemory config frameBuffer)
    (holds : HoldsRows (initialized config pixelWidth pixelHeight frameBuffer))
    (offset : 8 * config.consoleXOrientation.toNat < 2 ^ 32) {chars : List UInt8}
    (runs : chars.foldlM consoleStep (initialized config pixelWidth pixelHeight frameBuffer) = some screen)
    (full : screen.lineBelow.atBottom) : OnScreen config frameBuffer screen := by
  obtain ⟨height, width, low⟩ := low_of_inMemory config pixelWidth pixelHeight frameBuffer valid holds
  have inside := cellInside_initialized config pixelWidth pixelHeight frameBuffer holds
  have begins := (initialized_cursor config pixelWidth pixelHeight frameBuffer rfl).2.1
  have rows := holds.rows
  have start : OnRow (initialized config pixelWidth pixelHeight frameBuffer) := ⟨inside.bottom, by rw [begins]⟩
  obtain ⟨⟨x, y, rfl⟩, bottom, row⟩ := start.run (by omega) runs
  have atBottom := ((atBottom_lineBelow bottom).mp full).2
  simp only [characterHeight_toNat] at bottom row atBottom rows
  refine ⟨valid, ⟨holds.column, holds.rows⟩, ?offset, width, height, bottom, ?rows⟩
  case offset =>
    have product : (config.consoleXOrientation * characterWidth).toNat = config.consoleXOrientation.toNat * 8 := by
      rw [toNat_mul_of_lt (by rw [characterWidth_toNat]; omega), characterWidth_toNat]
    simp only [initialized, screenDeviceInit, screenInit, product, Nat.mul_comm]
  case rows =>
    refine ⟨(y.toNat - (initialized config pixelWidth pixelHeight frameBuffer).cursorOffsetY.toNat) / 20, ?_⟩
    simp only
    omega

/-- Wherever a text has taken the cursor, scrolling moves the console and nothing else, whatever is
    on the screen, if and only if the console is at the left, has rows above the cursor and all
    lines of its row pass the test. -/
theorem scroll_moves_console_iff (valid : InMemory config frameBuffer)
    (holds : HoldsRows (initialized config pixelWidth pixelHeight frameBuffer))
    (offset : 8 * config.consoleXOrientation.toNat < 2 ^ 32) (chars : List UInt8) (screen : ScreenDevice)
    (runs : chars.foldlM consoleStep (initialized config pixelWidth pixelHeight frameBuffer) = some screen)
    (full : screen.lineBelow.atBottom) :
    (∀ memory, ScrollsConsole config frameBuffer screen.lineBelow memory) ↔ MovesAll config frameBuffer screen :=
  (onScreen_of_run config pixelWidth pixelHeight frameBuffer valid holds offset runs full).scrolls_iff

end

/-- A screen of 640 by 480 pixels, of which the console has a part, after two lines. -/
def twoLines (config : ScreenConfig) : ScreenDevice :=
  [lineFeed, lineFeed].foldl displayCharacter (initialized config 640 480 frame480)

theorem inMemory_frame480 {config : ScreenConfig} (depth : config.colorDepth = .bits16) : InMemory config frame480 := by
  refine ⟨?_, by decide⟩
  rw [depth]
  decide

/-- A console of four rows. -/
def topConsole : ScreenConfig := { consoleYDivisor := 6 }

/-- The console at the top of the screen is moved. -/
theorem scroll_moves_top :
    (twoLines topConsole).lineBelow.atBottom ∧ ScrollsConsole topConsole frame480 (twoLines topConsole).lineBelow OnScreen.ones := by
  have holds : HoldsRows (initialized topConsole 640 480 frame480) := ⟨by decide, by decide⟩
  have full : (twoLines topConsole).lineBelow.atBottom := by decide
  have on : OnScreen topConsole frame480 (twoLines topConsole) :=
    onScreen_of_run topConsole 640 480 frame480 (inMemory_frame480 rfl) holds (by decide)
      (show [lineFeed, lineFeed].foldlM consoleStep _ = _ from rfl) full
  have all : MovesAll topConsole frame480 (twoLines topConsole) :=
    ⟨rfl, by decide, on.passes_of_room rfl (by decide)⟩
  refine ⟨full, ?_⟩
  exact (scroll_moves_console_iff topConsole 640 480 frame480 (inMemory_frame480 rfl) holds (by decide)
    [lineFeed, lineFeed] (twoLines topConsole) rfl full).mpr all OnScreen.ones

/-- A console of four rows that starts one character from the left. -/
def sideConsole : ScreenConfig := { consoleXOrientation := 1, consoleYDivisor := 6 }

/-- Scrolling it also moves what is to the left of it. -/
theorem scroll_not_console :
    HoldsRows (initialized sideConsole 640 480 frame480) ∧ (twoLines sideConsole).lineBelow.atBottom ∧
      ¬ ∀ memory, ScrollsConsole sideConsole frame480 (twoLines sideConsole).lineBelow memory := by
  have holds : HoldsRows (initialized sideConsole 640 480 frame480) := ⟨by decide, by decide⟩
  have full : (twoLines sideConsole).lineBelow.atBottom := by decide
  have on : OnScreen sideConsole frame480 (twoLines sideConsole) :=
    onScreen_of_run sideConsole 640 480 frame480 (inMemory_frame480 rfl) holds (by decide)
      (show [lineFeed, lineFeed].foldlM consoleStep _ = _ from rfl) full
  refine ⟨holds, full, fun always => ?_⟩
  have atLeft := (on.scrolls_iff.mp always).atLeft
  exact absurd atLeft (by decide)

end ComputerSystems.Verified
