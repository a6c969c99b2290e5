import Mathlib.Algebra.Order.Ring.Nat
import Mathlib.Logic.Function.Basic

/-! # The keyboard driver

`usb/keyboard.c`: what the completion routine makes of the boot reports of a keyboard.

`KeyMap` is indexed without a check of the column, so a column past the second reads a
later row or what lies behind the table, `beyond`.
-/

namespace ComputerSystems.Usb

def reportSize : BitVec 32 := 8
def leftShiftModifier : UInt8 := 2
def rightShiftModifier : UInt8 := 0x20
def defaultModifier : UInt8 := 1

/-- The letters, in both columns. -/
def keyMapLetters : List (UInt8 × UInt8) :=
  (List.range 26).map fun letter => (UInt8.ofNat (97 + letter), UInt8.ofNat (65 + letter))

/-- `KeyMap`, by the codes of the characters. -/
def keyMap : List (UInt8 × UInt8) :=
  [(0, 0), (0, 0), (0, 0), (0, 0)] ++ keyMapLetters ++
  -- the digits from 0x1E on
  [(0x31, 0x21), (0x32, 0x40), (0x33, 0x23), (0x34, 0x24), (0x35, 0x25), (0x36, 0x5E), (0x37, 0x26),
    (0x38, 0x2A), (0x39, 0x28), (0x30, 0x29)] ++
  -- line feed, escape, backspace, tab and space from 0x28 on
  [(0x0A, 0x0A), (0x1B, 0x1B), (0x08, 0x08), (0x09, 0x09), (0x20, 0x20)] ++
  -- punctuation from 0x2D on, and caps lock
  [(0x2D, 0x5F), (0x3D, 0x2B), (0x5B, 0x7B), (0x5D, 0x7D), (0x5C, 0x7C), (0x23, 0x7E), (0x3B, 0x3A),
    (0x27, 0x22), (0x60, 0x7E), (0x2C, 0x3C), (0x2E, 0x3E), (0x2F, 0x3F), (0x01, 0x01)]

/-- The byte of `KeyMap[row][column]`: the rows lie one behind the other. -/
def keyMapAt (beyond : Nat → UInt8) (row : UInt8) (column : Nat) : UInt8 :=
  let offset := 2 * row.toNat + column
  match keyMap[offset / 2]? with
  | some pair => if offset % 2 = 0 then pair.1 else pair.2
  | none => beyond (offset - 2 * keyMap.length)

/-- The eight bytes of a boot report: the modifiers, a reserved byte and six key codes. -/
abbrev Report := Fin 8 → UInt8

instance neZeroReport : NeZero 8 := Nat.instNeZeroSucc

/-- `struct KeyboardDevice`, without its endpoints and its request. -/
structure KeyboardDevice where
  keyPressed : Bool := false
  reportBuffer : Report := fun _ => 0
  lastPhyCode : UInt8 := 0
  tmr : BitVec 32 := 0
  capsLock : Bool := false

/-- `modifiers - 1`, by which `generate_key_event` reads the row of a key. -/
def keyColumn (phyCode : UInt8) (keyboard : KeyboardDevice) : Nat :=
  let modifiers := keyboard.reportBuffer 0
  let modifiers :=
    if keyboard.capsLock ∧ phyCode ≤ 0x1D then 2
    else if modifiers = rightShiftModifier then leftShiftModifier
    else if modifiers = 0 then defaultModifier
    else modifiers
  modifiers.toNat - 1

/-- `generate_key_event`: the characters that are sent to `key_pressed`. -/
def generateKeyEvent (beyond : Nat → UInt8) (phyCode : UInt8) (keyboard : KeyboardDevice) :
    List UInt8 × KeyboardDevice :=
  if phyCode ≤ 0x39 then
    let asciiCode := keyMapAt beyond phyCode (keyColumn phyCode keyboard)
    if asciiCode = 1 then ([], { keyboard with capsLock := !keyboard.capsLock })
    else (if keyboard.keyPressed then [asciiCode] else [], keyboard)
  else ([], keyboard)

/-- `get_key_code`: the last key code that is not 0. -/
def getKeyCode (report : Report) : UInt8 :=
  ((([7, 6, 5, 4, 3, 2] : List (Fin 8)).map report).find? (· != 0)).getD 0

/-- The key code of the report, or 0 if it is the one of the report before. -/
def newKeyCode (keyboard : KeyboardDevice) : UInt8 × KeyboardDevice :=
  let keyCode := getKeyCode keyboard.reportBuffer
  if keyCode = keyboard.lastPhyCode then (0, keyboard) else (keyCode, { keyboard with lastPhyCode := keyCode })

/-- `completion`, but for the request, which is submitted again. -/
def keyboardCompletion (beyond : Nat → UInt8) (status : Int) (resultLen : BitVec 32) (keyboard : KeyboardDevice) :
    List UInt8 × KeyboardDevice :=
  if status ≠ 0 ∧ resultLen = reportSize then
    let (keyCode, keyboard) := newKeyCode keyboard
    if keyCode ≠ 0 then generateKeyEvent beyond keyCode keyboard
    else ([], { keyboard with tmr := 0 })
  else ([], keyboard)

/-- A keyboard that `KeyboardAttach` and `KeyboardUp` have set up. -/
def keyboardUp : KeyboardDevice := { keyPressed := true }

end ComputerSystems.Usb
