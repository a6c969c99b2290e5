import ComputerSystems.Data.Memory
import ComputerSystems.Data.Chain
import Mathlib.Data.List.FinRange

/-! # Heap based memory allocation

The allocator of `malloc.c`: a pointer that moves up through the heap, and one
list of freed blocks for each of eight block sizes, threaded through the headers
of the blocks themselves.  Pointers and sizes are 32-bit values, held as naturals
and reduced where the source adds; the null pointer is 0.

A block starts with a 12-byte header: the words `tag`, `size` and `next` at
offsets 0, 4 and 8.
-/

namespace ComputerSystems.System

open ComputerSystems.Data

def blockAlign : Nat := 4
def blockTag : Nat := 0x900DF00D
def numBlocks : Nat := 8

/-- `sizeof(BlockHeader)`. -/
def headerSize : Nat := 12

/-- `MEM_HEAP_START` of an application: the run location and `KERNEL_MAX_SIZE`. -/
def memHeapStart : Nat := 0x8000 + 2 * 0x100000

/-- `struct Block`: a block size and the freed blocks of that size. -/
structure Block where
  size : Nat
  freeList : Nat

/-- The globals `NextBlock`, `BlockLimit` and `Blocks`, and the memory. -/
structure Heap where
  nextBlock : Nat
  blockLimit : Nat
  blocks : Fin numBlocks → Block
  memory : Memory

/-- The sizes that `MallocInit` gives the blocks. -/
def blockSizes (i : Fin numBlocks) : Nat :=
  [0x0040, 0x0080, 0x0100, 0x0400, 0x0800, 0x1000, 0x4000, 0x8000].getD i 0

/-- `MallocInit`: initialize the heap memory allocation. -/
def mallocInit (base size : Nat) (memory : Memory) : Heap :=
  let base := if base < memHeapStart then memHeapStart else base
  { nextBlock := base
    blockLimit := (base + size) % 2 ^ 32
    blocks := fun i => { size := blockSizes i, freeList := 0 }
    memory }

/-- `MallocRemaining`: size of the remaining heap. -/
def mallocRemaining (heap : Heap) : Nat :=
  (heap.blockLimit + 2 ^ 32 - heap.nextBlock) % 2 ^ 32

/-- The search loop of `malloc`: the first block size that is big enough. -/
def Heap.blockFor (heap : Heap) (size : Nat) : Option (Fin numBlocks) :=
  (List.finRange numBlocks).find? fun i => decide (size ≤ (heap.blocks i).size)

/-- The bytes by which `NextBlock` moves up for a block of `size` bytes. -/
def blockBytes (size : Nat) : Nat :=
  -- `& ~(BLOCK_ALIGN - 1)` clears the low bits
  (headerSize + size + blockAlign - 1) % 2 ^ 32 / blockAlign * blockAlign

/-- `malloc` where a freed block of the size is at hand. -/
def Heap.reuse (heap : Heap) (i : Fin numBlocks) : Heap × Nat :=
  let blockHeader := (heap.blocks i).freeList
  -- check if the block header tag is valid
  if heap.memory.read32 blockHeader ≠ blockTag then (heap, 0)
  else
    let next := heap.memory.read32 (blockHeader + 8)
    ({ heap with
        blocks := Function.update heap.blocks i { heap.blocks i with freeList := next }
        memory := heap.memory.write32 (blockHeader + 8) 0 },
      (blockHeader + headerSize) % 2 ^ 32)

/-- `malloc` where the block is taken from the rest of the heap. -/
def Heap.extend (heap : Heap) (size : Nat) : Heap × Nat :=
  let blockHeader := heap.nextBlock
  let nextBlock := (heap.nextBlock + blockBytes size) % 2 ^ 32
  if nextBlock > heap.blockLimit then ({ heap with nextBlock }, 0)
  else
    ({ heap with
        nextBlock
        memory := ((heap.memory.write32 blockHeader blockTag).write32 (blockHeader + 4) size).write32
          (blockHeader + 8) 0 },
      (blockHeader + headerSize) % 2 ^ 32)

/-- `malloc`: allocate a portion of memory from the heap. -/
def malloc (size : Nat) (heap : Heap) : Heap × Nat :=
  match heap.blockFor size with
  | some i =>
    if (heap.blocks i).freeList ≠ 0 ∧ (heap.blocks i).size > 0 then heap.reuse i
    else heap.extend (heap.blocks i).size
  | none => heap.extend size

/-- `free`: free, or deallocate, a previously allocated pointer. -/
def free (ptr : Nat) (heap : Heap) : Heap :=
  let blockHeader := ptr - headerSize
  if heap.memory.read32 blockHeader ≠ blockTag then heap
  else
    match (List.finRange numBlocks).find? fun i =>
      decide (heap.memory.read32 (blockHeader + 4) = (heap.blocks i).size) with
    | some i =>
      { heap with
        blocks := Function.update heap.blocks i { heap.blocks i with freeList := blockHeader }
        memory := heap.memory.write32 (blockHeader + 8) (heap.blocks i).freeList }
    | none => heap

/-! ## Callers -/

/-- The heap, and the pointers that callers hold with the sizes they asked for. -/
structure HeapRun where
  heap : Heap
  live : List (Nat × Nat)

inductive HeapEvent where
  | malloc (size : UInt32)
  | free (ptr : Nat)
  /-- a caller writes a byte of a block it holds -/
  | store (ptr offset : Nat) (value : UInt8)

/-- One event, `none` when a caller frees or writes what it does not hold.  Blocks share a
    pointer only where the rounded size of one has wrapped around to no bytes, and one call
    of `free` ends all of them: their callers hold the same header. -/
def HeapRun.step (run : HeapRun) : HeapEvent → Option HeapRun
  | .malloc size =>
    let (heap, ptr) := malloc size.toNat run.heap
    some { heap, live := if ptr = 0 then run.live else (ptr, size.toNat) :: run.live }
  | .free ptr =>
    if ptr ∈ run.live.map Prod.fst then
      some { heap := free ptr run.heap, live := run.live.filter fun block => block.1 ≠ ptr }
    else none
  | .store ptr offset value =>
    if ∃ block ∈ run.live, block.1 = ptr ∧ offset < block.2 then
      some { run with heap := { run.heap with memory := run.heap.memory.write (ptr + offset) [value] } }
    else none

/-- The heap after `MallocInit` and a sequence of events. -/
def runHeap (events : List HeapEvent) (run : HeapRun) : Option HeapRun :=
  events.foldlM HeapRun.step run

end ComputerSystems.System
