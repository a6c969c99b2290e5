import ComputerSystems.Data.Loop
import ComputerSystems.Data.Memory

/-! # Copying memory

`memcpy` of `string.c`, on a memory whose addresses are integers.  The loop variable
`bytes` is an `int` that is compared with the unsigned `length`; as an index it may be
negative.
-/

namespace ComputerSystems.System

open ComputerSystems.Data

/-- Load a word of `size` bytes at `src` and store it at `dst`. -/
def moveWord (size : Nat) (dst src : Int) (memory : Memory) : Memory :=
  memory.write dst ((List.range size).map fun offset : Nat => memory (src + offset))

/-- `for (i = 0; i < count; ++i) dest[i] = src[i]` for words of `size` bytes. -/
def copyWords (size : Nat) (dst src : Int) (count : Nat) (memory : Memory) : Memory :=
  (List.range count).foldl (fun memory i => moveWord size (dst + (i * size : Nat)) (src + (i * size : Nat)) memory) memory

/-- The test for a word of `size` bytes: enough bytes remain, and both sides are
    aligned. -/
def wordFits (size : Nat) (dst src : Int) (remaining : BitVec 32) : Bool :=
  size - 1 < remaining.toNat ∧ dst % size = 0 ∧ src % size = 0

/-- What is copied by words of `size` bytes: `bytes` is set to the last of them. -/
def copyAligned (size : Nat) (dst src : Int) (length : BitVec 32) (bytes : BitVec 32) (memory : Memory) :
    BitVec 32 × Memory :=
  let i := (length - bytes) / BitVec.ofNat 32 size
  (bytes + (i * BitVec.ofNat 32 size - 1),
    copyWords size (dst + bytes.toInt) (src + bytes.toInt) i.toNat memory)

/-- One pass of the loop of `memcpy`. -/
def memcpyPass (dst src : Int) (length : BitVec 32) : BitVec 32 × Memory → Pass (BitVec 32 × Memory) Memory
  | (bytes, memory) =>
    if bytes < length then
      let (bytes, memory) :=
        if wordFits 8 (dst + bytes.toInt) (src + bytes.toInt) (length - bytes) then
          copyAligned 8 dst src length bytes memory
        else (bytes, memory)
      let (bytes, memory) :=
        if wordFits 4 (dst + bytes.toInt) (src + bytes.toInt) (length - bytes) then
          copyAligned 4 dst src length bytes memory
        else (bytes, moveWord 1 (dst + bytes.toInt) (src + bytes.toInt) memory)
      .again (bytes + 1, memory)
    else
      .leave memory

/-- `memcpy`, with fuel for one pass a byte and the last. -/
def memcpy (dst src : Int) (length : BitVec 32) (memory : Memory) : Option Memory :=
  iterate (memcpyPass dst src length) (length.toNat + 1) (0, memory)

end ComputerSystems.System
