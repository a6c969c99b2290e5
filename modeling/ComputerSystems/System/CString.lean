import ComputerSystems.Data.Loop

/-! # Strings

The functions of `string.c` for strings that end with a NUL character.  A `char` is
unsigned.
-/

namespace ComputerSystems.System

open ComputerSystems.Data

/-- A string: its characters before the NUL. -/
structure CString where
  chars : List UInt8
  terminated : 0 ∉ chars

namespace CString

variable {string : CString}

instance : DecidableEq CString := fun string other =>
  decidable_of_iff (string.chars = other.chars) ⟨fun same => by cases string; cases other; congr, congrArg chars⟩

/-- The string without characters. -/
def empty : CString := ⟨[], List.not_mem_nil⟩

/-- `string[index]`. -/
def char (string : CString) (index : Nat) : UInt8 := string.chars.getD index 0

/-- The string from an index on. -/
def drop (string : CString) (index : Nat) : CString :=
  ⟨string.chars.drop index, fun mem => string.terminated (List.mem_of_mem_drop mem)⟩

/-- `strcat`, without the bound of the buffer. -/
def append (string other : CString) : CString :=
  ⟨string.chars ++ other.chars, by simpa using ⟨string.terminated, other.terminated⟩⟩

@[ext] theorem ext {other : CString} (same : string.chars = other.chars) : string = other := by
  cases string
  cases other
  congr

end CString

theorem slash_terminated : 0 ∉ ([47] : List UInt8) := by decide

theorem dot_terminated : 0 ∉ ([46] : List UInt8) := by decide

theorem dotDot_terminated : 0 ∉ ([46, 46] : List UInt8) := by decide

namespace CString

/-- `"/"`. -/
def slash : CString := ⟨[47], slash_terminated⟩

/-- `"."`. -/
def dot : CString := ⟨[46], dot_terminated⟩

/-- `".."`. -/
def dotDot : CString := ⟨[46, 46], dotDot_terminated⟩

end CString

/-- `strlen`. -/
def strlen (string : CString) : Nat := string.chars.length

/-- `strchr`: the string from the first occurrence on. -/
def strchr (string : CString) (find : UInt8) : Option CString :=
  let length := string.chars.findIdx (· = find)
  if string.char length ≠ 0 then some (string.drop length) else none

/-- One pass of the loop of `strcmp`. -/
def strcmpPass (string1 string2 : CString) (length : Nat) : Pass Nat Nat :=
  if string1.char length ≠ 0 ∧ string2.char length ≠ 0 then
    if string1.char length ≠ string2.char length then .leave length
    else .again (length + 1)
  else
    .leave length

/-- What `strcmp` returns where its loop is left. -/
def strcmpResult (string1 string2 : CString) (length : Nat) : Int :=
  if string1.char length ≠ 0 ∧ string2.char length ≠ 0 then
    if string1.char length > string2.char length then 1
    else if string1.char length < string2.char length then -1
    else 0
  else
    0

/-- `strcmp`, with fuel for one pass a character and the last. -/
def strcmp (string1 string2 : CString) : Option Int :=
  (iterate (strcmpPass string1 string2) (strlen string1 + 1) 0).map (strcmpResult string1 string2)

end ComputerSystems.System
