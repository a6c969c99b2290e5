import ComputerSystems.System.Shell
import ComputerSystems.System.Strings

/-! # The video console

`screen.c`: the cursor and scrolling.  The drawing of the characters is left out, as it does
not move the cursor.
-/

namespace ComputerSystems.System

open ComputerSystems.Data

/-- `CharacterWidth`. -/
def characterWidth : BitVec 32 := 8

/-- `CharacterHeight`: the lines of the font and those between. -/
def characterHeight : BitVec 32 := 14 + 6

/-- The last character that is displayed. -/
def tilde : UInt8 := 126

/-- `COLOR_DEPTH_BITS`. -/
inductive ColorDepth where
  | bits16
  | bits32
deriving DecidableEq, Repr

/-- `sizeof(ScreenColor)`. -/
def ColorDepth.bytes : ColorDepth → BitVec 32
  | .bits16 => 2
  | .bits32 => 4

/-- What is configured of the console. -/
structure ScreenConfig where
  colorDepth : ColorDepth := .bits16
  consoleXDivisor : BitVec 32 := 1
  consoleYDivisor : BitVec 32 := 1
  /-- In number of characters. -/
  consoleXOrientation : BitVec 32 := 0
  /-- In number of lines. -/
  consoleYOrientation : BitVec 32 := 0
deriving DecidableEq

/-- `VideoCoreFrameBuffer`, with the address that `FrameBufferGetBuffer` returns. -/
structure FrameBuffer where
  width : BitVec 32
  height : BitVec 32
  buffer : BitVec 32
  bufferSize : BitVec 32
deriving DecidableEq

/-- `ScreenDevice`. -/
structure ScreenDevice where
  initWidth : BitVec 32
  initHeight : BitVec 32
  cursorX : BitVec 32
  cursorY : BitVec 32
  cursorOffsetX : BitVec 32
  cursorOffsetY : BitVec 32
  cursorHeight : BitVec 32
  cursorWidth : BitVec 32
deriving DecidableEq

namespace ScreenDevice

/-- `screen_init`. -/
def screenInit (config : ScreenConfig) (width height : BitVec 32) : ScreenDevice :=
  let cursorX := config.consoleXOrientation * characterWidth
  let cursorY := config.consoleYOrientation * characterHeight
  let cursorWidth := width / config.consoleXDivisor
  let cursorHeight := height / config.consoleYDivisor
  { initWidth := width
    initHeight := height
    cursorX, cursorY
    cursorOffsetX := cursorX
    cursorOffsetY := cursorY
    cursorWidth := if cursorX + cursorWidth > width then width - cursorX else cursorWidth
    cursorHeight := if cursorY + cursorHeight > height then height - cursorY else cursorHeight }

/-- `screen_device_init` with the frame buffer that it gets.  The sizes of the console are not
    trimmed again. -/
def screenDeviceInit (config : ScreenConfig) (frameBuffer : FrameBuffer) (screen : ScreenDevice) : ScreenDevice :=
  { screen with
    cursorWidth := frameBuffer.width / config.consoleXDivisor
    cursorHeight := frameBuffer.height / config.consoleYDivisor }

/-- `ScreenInit` for the size that is configured. -/
def initialized (config : ScreenConfig) (pixelWidth pixelHeight : BitVec 32) (frameBuffer : FrameBuffer) :
    ScreenDevice :=
  (screenInit config pixelWidth pixelHeight).screenDeviceInit config frameBuffer

/-! ## The cursor -/

/-- The first statement of `scroll`, which is all that it does to the cursor. -/
def scrollCursor (screen : ScreenDevice) : ScreenDevice :=
  { screen with cursorY := screen.cursorY - characterHeight }

def carriageReturn (screen : ScreenDevice) : ScreenDevice := { screen with cursorX := screen.cursorOffsetX }

/-- There is not enough room for another line. -/
def atBottom (screen : ScreenDevice) : Prop := screen.cursorY + characterHeight ≥ screen.cursorHeight

instance (screen : ScreenDevice) : Decidable screen.atBottom := inferInstanceAs (Decidable (_ ≥ _))

/-- The line below, before scrolling. -/
def lineBelow (screen : ScreenDevice) : ScreenDevice := { screen with cursorY := screen.cursorY + characterHeight }

def cursorDown (screen : ScreenDevice) : ScreenDevice :=
  if screen.lineBelow.atBottom then screen.lineBelow.scrollCursor else screen.lineBelow

def newLine (screen : ScreenDevice) : ScreenDevice := screen.carriageReturn.cursorDown

def cursorLeft (screen : ScreenDevice) : ScreenDevice :=
  if screen.cursorX ≥ characterWidth then { screen with cursorX := screen.cursorX - characterWidth }
  else if screen.cursorY ≥ characterHeight then
    { screen with
      cursorX := screen.cursorWidth - characterWidth
      cursorY := screen.cursorY - characterHeight }
  else screen

def cursorRight (screen : ScreenDevice) : ScreenDevice :=
  let screen := { screen with cursorX := screen.cursorX + characterWidth }
  if screen.cursorX ≥ screen.cursorWidth then screen.newLine else screen

/-- `DisplayChar`, without the drawing. -/
def displayChar (screen : ScreenDevice) (ascii : UInt8) : ScreenDevice :=
  if space ≤ ascii ∧ ascii ≤ tilde then screen.cursorRight else screen

/-- `DisplayCharacter`. -/
def displayCharacter (screen : ScreenDevice) (ch : UInt8) : ScreenDevice :=
  if ch = backspace then screen.cursorLeft
  else if ch = lineFeed then screen.newLine
  else if ch = System.carriageReturn then screen.carriageReturn
  else screen.displayChar ch

/-! ## Scrolling -/

/-- The address in a row at which `scroll` starts.  The orientation is used in number of pixels. -/
def rowPointer (config : ScreenConfig) (frameBuffer : FrameBuffer) (row : BitVec 32) : BitVec 32 :=
  frameBuffer.buffer + (config.consoleXOrientation + row * frameBuffer.width) * config.colorDepth.bytes

/-- `size`. -/
def rowSize (config : ScreenConfig) (screen : ScreenDevice) : BitVec 32 := screen.cursorWidth * config.colorDepth.bytes

/-- The values of `lines` in a loop over a character. -/
def characterLines : List (BitVec 32) := (List.range characterHeight.toNat).map (BitVec.ofNat 32)

/-- One line of a character is moved up. -/
def copyLine (config : ScreenConfig) (frameBuffer : FrameBuffer) (screen : ScreenDevice) (cursorY : BitVec 32)
    (memory : Memory) (lines : BitVec 32) : Option Memory :=
  memcpy (rowPointer config frameBuffer (lines + cursorY)).toNat
    (rowPointer config frameBuffer (lines + cursorY + characterHeight)).toNat (rowSize config screen) memory

/-- The variables of the loop over the characters. -/
structure ScrollState where
  cursorY : BitVec 32
  /-- `from`, 0 for `NULL`. -/
  source : BitVec 32
  memory : Memory

/-- One pass of the loop over the characters, which does not return if `memcpy` does not. -/
def scrollPass (config : ScreenConfig) (frameBuffer : FrameBuffer) (screen : ScreenDevice) (state : ScrollState) :
    Pass ScrollState (Option ScrollState) :=
  if state.cursorY < screen.cursorY then
    match characterLines.foldlM (copyLine config frameBuffer screen state.cursorY) state.memory with
    | some memory =>
      .again
        { cursorY := state.cursorY + characterHeight
          source := rowPointer config frameBuffer (characterHeight - 1 + state.cursorY + characterHeight)
          memory }
    | none => .leave none
  else
    .leave (some state)

/-- The test for what is erased of the new row. -/
def eraseOverflows (config : ScreenConfig) (frameBuffer : FrameBuffer) (screen : ScreenDevice) (lines : BitVec 32) :
    Bool :=
  rowPointer config frameBuffer (lines + screen.cursorY) - frameBuffer.buffer + rowSize config screen * 4 >
    frameBuffer.bufferSize

/-- `memset` to `COLOR_BLACK`. -/
def blacken (dst : Int) (length : BitVec 32) (memory : Memory) : Memory :=
  memory.write dst (List.replicate length.toNat 0)

/-- The lines are erased, up to one that does not pass the test. -/
def eraseLines (config : ScreenConfig) (frameBuffer : FrameBuffer) (screen : ScreenDevice) :
    List (BitVec 32) → Memory → Memory × Option (BitVec 32)
  | [], memory => (memory, none)
  | lines :: rest, memory =>
    if eraseOverflows config frameBuffer screen lines then (memory, some lines)
    else
      eraseLines config frameBuffer screen rest
        (blacken (rowPointer config frameBuffer (lines + screen.cursorY)).toNat (rowSize config screen) memory)

/-- What `scroll` leaves, and the line that is printed with the message of an overflow. -/
structure Scrolled where
  screen : ScreenDevice
  memory : Memory
  overflow : Option (BitVec 32)

/-- `scroll`, with fuel for one pass a line and the last. -/
def scroll (config : ScreenConfig) (frameBuffer : FrameBuffer) (screen : ScreenDevice) (memory : Memory) :
    Option Scrolled :=
  let screen := screen.scrollCursor
  match iterate (scrollPass config frameBuffer screen) (screen.cursorY.toNat + 1)
      { cursorY := screen.cursorOffsetY, source := 0, memory } with
  | some (some state) =>
    -- Nothing has been copied if `from` is NULL.
    let erased :=
      if state.source ≠ 0 then eraseLines config frameBuffer screen characterLines state.memory
      else (state.memory, none)
    some { screen, memory := erased.1, overflow := erased.2 }
  | _ => none

end ScreenDevice

end ComputerSystems.System
