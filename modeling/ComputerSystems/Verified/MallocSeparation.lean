import ComputerSystems.System.Malloc
import Mathlib.Tactic.FinCases

/-! # Blocks of the heap are separate

Every block that `malloc` has ever cut off the heap is held by a caller, is on
the free list of its size, or was freed without a free list to go to.  `HeapInv`
says of the first two kinds that their headers are intact and that no two of
them overlap; the bytes that callers write lie behind the headers.

The 32-bit sums of `malloc` wrap around for large requests, and then a block is
handed out that reaches past the end of the heap.  `MallocFits` excludes the wrap
and nothing else.
-/

namespace ComputerSystems.Verified

open ComputerSystems.Data ComputerSystems.System

/-- A pointer to a header, `none` for the null pointer. -/
def headerLink (pointer : Nat) : Option Nat := if pointer = 0 then none else some pointer

/-- The header that `next` of a header leads to. -/
def nextHeader (memory : Memory) (header : Nat) : Option Nat :=
  headerLink (memory.read32 (header + 8))

/-- The block that `malloc` returns for a request is aligned, lies in the heap
    with its header, and overlaps neither a block that a caller holds nor one
    that is on a free list. -/
def Separated (base size : Nat) (before : HeapRun) (request : Nat) (after : Heap) (ptr : Nat) : Prop :=
  ptr % blockAlign = 0 ∧ base + headerSize ≤ ptr ∧ ptr + request ≤ base + size ∧
  (∀ block ∈ before.live, headerSize ≤ block.1 ∧
    (ptr + request ≤ block.1 - headerSize ∨ block.1 + block.2 ≤ ptr - headerSize)) ∧
  ∃ freed : Fin numBlocks → List Nat,
    (∀ i, Chain (nextHeader after.memory) (headerLink (after.blocks i).freeList) (freed i)) ∧
    ∀ i, ∀ header ∈ freed i, ptr + request ≤ header ∨
      header + headerSize + (after.blocks i).size ≤ ptr - headerSize

/-- Moving `NextBlock` past a block of `size` bytes stays in the address space. -/
def ExtendFits (heap : Heap) (size : Nat) : Prop :=
  heap.nextBlock + (headerSize + size + blockAlign - 1) / blockAlign * blockAlign < 2 ^ 32

/-- If the request is not met from a free list, it fits in the address space. -/
def MallocFits (size : Nat) (heap : Heap) : Prop :=
  match heap.blockFor size with
  | some i => (heap.blocks i).freeList = 0 → ExtendFits heap (heap.blocks i).size
  | none => ExtendFits heap size

/-- Every request of a run fits in the address space when it is made. -/
def HeapRunFits : List HeapEvent → HeapRun → Prop
  | [], _ => True
  | event :: events, run =>
    (match event with
      | .malloc size => MallocFits size.toNat run.heap
      | .free _ | .store _ _ _ => True) ∧
    ∀ run' ∈ run.step event, HeapRunFits events run'

instance (heap : Heap) (size : Nat) : Decidable (ExtendFits heap size) :=
  inferInstanceAs (Decidable (_ < 2 ^ 32))

instance (size : Nat) (heap : Heap) : Decidable (MallocFits size heap) := by
  unfold MallocFits
  cases heap.blockFor size <;> infer_instance

instance decidableRunFits : ∀ events run, Decidable (HeapRunFits events run)
  | [], _ => inferInstanceAs (Decidable True)
  | .malloc size :: events, run =>
    have := decidableRunFits events
    inferInstanceAs (Decidable (MallocFits size.toNat run.heap ∧
      ∀ run' ∈ run.step (.malloc size), HeapRunFits events run'))
  | .free ptr :: events, run =>
    have := decidableRunFits events
    inferInstanceAs (Decidable (True ∧ ∀ run' ∈ run.step (.free ptr), HeapRunFits events run'))
  | .store ptr offset value :: events, run =>
    have := decidableRunFits events
    inferInstanceAs (Decidable (True ∧ ∀ run' ∈ run.step (.store ptr offset value), HeapRunFits events run'))

/-! ## The invariant -/

/-- The block at `header` is held by a caller or is on a free list. -/
def Owned (live : List (Nat × Nat)) (freed : Fin numBlocks → List Nat) (header : Nat) : Prop :=
  (∃ request, (header + 12, request) ∈ live) ∨ ∃ i, header ∈ freed i

structure HeapInv (base size : Nat) (run : HeapRun) (freed : Fin numBlocks → List Nat)
    (capacity : Nat → Nat) : Prop where
  sizes : ∀ i, (run.heap.blocks i).size = blockSizes i
  limit : run.heap.blockLimit = (base + size) % 2 ^ 32
  low : base ≤ run.heap.nextBlock
  high : run.heap.nextBlock < 2 ^ 32
  aligned : run.heap.nextBlock % 4 = 0
  -- owned blocks lie in the part of the heap that was cut off, and in the heap
  inside : ∀ header, Owned run.live freed header → base ≤ header ∧ header % 4 = 0 ∧
    header + 12 + capacity header ≤ run.heap.nextBlock ∧ header + 12 + capacity header ≤ base + size
  header : ∀ header : Nat, Owned run.live freed header →
    run.heap.memory.read32 header = blockTag ∧ run.heap.memory.read32 (header + 4) = capacity header
  apart : ∀ first second, Owned run.live freed first → Owned run.live freed second → first ≠ second →
    first + 12 + capacity first ≤ second ∨ second + 12 + capacity second ≤ first
  live : ∀ block ∈ run.live, 12 ≤ block.1 ∧ block.2 ≤ capacity (block.1 - 12)
  exclusive : ∀ i, ∀ header ∈ freed i, ∀ request, (header + 12, request) ∉ run.live
  capacity_eq : ∀ i, ∀ header ∈ freed i, capacity header = blockSizes i
  chains : ∀ i, Chain (nextHeader run.heap.memory) (headerLink (run.heap.blocks i).freeList) (freed i)

theorem blockSizes_injective {i j : Fin numBlocks} (equal : blockSizes i = blockSizes j) : i = j := by
  revert i j
  decide

theorem blockSizes_pos (i : Fin numBlocks) : blockSizes i > 0 := by
  revert i
  decide

variable {base size : Nat} {run : HeapRun} {freed : Fin numBlocks → List Nat} {capacity : Nat → Nat}

/-- The twelve bytes of a header are the same in both memories. -/
def SameHeader (memory memory' : Memory) (header : Nat) : Prop :=
  ∀ cell : Int, header ≤ cell → cell < header + 12 → memory' cell = memory cell

namespace SameHeader

variable {memory memory' : Memory} {header : Nat}

theorem tag (same : SameHeader memory memory' header) :
    memory'.read32 header = memory.read32 header :=
  Memory.read32_congr fun cell _ _ => same cell (by omega) (by omega)

theorem sizeWord (same : SameHeader memory memory' header) :
    memory'.read32 (header + 4) = memory.read32 (header + 4) :=
  Memory.read32_congr fun cell _ _ => same cell (by omega) (by omega)

theorem next (same : SameHeader memory memory' header) :
    nextHeader memory' header = nextHeader memory header := by
  rw [nextHeader, nextHeader, Memory.read32_congr fun cell _ _ => same cell (by omega) (by omega)]

end SameHeader

theorem mallocInit_inv (bottom : memHeapStart ≤ base) (aligned : base % 4 = 0) (word : base < 2 ^ 32)
    (memory : Memory) :
    HeapInv base size { heap := mallocInit base size memory, live := [] } (fun _ => []) (fun _ => 0) where
  sizes _ := rfl
  limit := by simp [mallocInit, Nat.not_lt.mpr bottom]
  low := by simp [mallocInit, Nat.not_lt.mpr bottom]
  high := by simp only [mallocInit, Nat.not_lt.mpr bottom, ↓reduceIte]; omega
  aligned := by simp [mallocInit, Nat.not_lt.mpr bottom, aligned]
  inside _ owned := by simp [Owned] at owned
  header _ owned := by simp [Owned] at owned
  apart _ _ owned := by simp [Owned] at owned
  live := by simp
  exclusive := by simp
  capacity_eq := by simp
  chains _ := rfl

/-- Owned blocks other than `header` keep their headers when only bytes of the
    block at `header` change. -/
theorem HeapInv.sameHeader (inv : HeapInv base size run freed capacity) {header other : Nat}
    (owned : Owned run.live freed header) (otherOwned : Owned run.live freed other)
    (different : other ≠ header) {memory' : Memory}
    (changed : ∀ cell : Int, cell < header ∨ header + 12 + capacity header ≤ cell →
      memory' cell = run.heap.memory cell) : SameHeader run.heap.memory memory' other := by
  intro cell lower upper
  obtain before | after := inv.apart _ _ otherOwned owned different
  · exact changed cell (.inl (by omega))
  · exact changed cell (.inr (by omega))

/-- A caller's write lies behind the header of its own block, and in no other
    owned block. -/
theorem store_inv (inv : HeapInv base size run freed capacity) {ptr offset request : Nat}
    (held : (ptr, request) ∈ run.live) (below : offset < request) (value : UInt8) :
    HeapInv base size
      { run with heap := { run.heap with memory := run.heap.memory.write (ptr + offset) [value] } }
      freed capacity := by
  obtain ⟨behind, fits⟩ : 12 ≤ ptr ∧ request ≤ capacity (ptr - 12) := inv.live _ held
  have owner : Owned run.live freed (ptr - 12) := .inl ⟨request, by rwa [Nat.sub_add_cancel behind]⟩
  have same : ∀ header, Owned run.live freed header →
      SameHeader run.heap.memory (run.heap.memory.write (ptr + offset) [value]) header := by
    intro header owned
    by_cases own : header = ptr - 12
    · intro cell lower upper
      exact Memory.write_outside (.inl (by omega))
    · refine inv.sameHeader owner owned own fun cell outside => Memory.write_outside ?_
      rw [List.length_singleton]
      omega
  exact {
    inv with
    header := fun header owned => by
      rw [(same header owned).tag, (same header owned).sizeWord]
      exact inv.header header owned
    chains := fun i => (inv.chains i).congr fun header member => (same header (.inr ⟨i, member⟩)).next }

/-- Without a wrap, `NextBlock` moves up by the header and the bytes, rounded up
    to a multiple of four. -/
theorem extend_next {heap : Heap} {bytes : Nat}
    (aligned : heap.nextBlock % 4 = 0) (fits : ExtendFits heap bytes) :
    ∃ next, (heap.nextBlock + blockBytes bytes) % 2 ^ 32 = next ∧ next < 2 ^ 32 ∧ next % 4 = 0 ∧
      heap.nextBlock + 12 + bytes ≤ next := by
  simp only [ExtendFits, headerSize, blockAlign] at fits
  refine ⟨_, rfl, Nat.mod_lt _ (by omega), ?_, ?_⟩ <;>
  · simp only [blockBytes, headerSize, blockAlign]
    omega

theorem extend_fails_inv (inv : HeapInv base size run freed capacity) {next : Nat}
    (grows : run.heap.nextBlock ≤ next) (bound : next < 2 ^ 32) (aligned : next % 4 = 0) :
    HeapInv base size { run with heap := { run.heap with nextBlock := next } } freed capacity :=
  { inv with
    low := le_trans inv.low grows
    high := bound
    aligned
    inside := fun header owned => by
      obtain ⟨low, multiple, cut, heap⟩ := inv.inside header owned
      exact ⟨low, multiple, le_trans cut grows, heap⟩ }

/-! ### A block at the end of the heap -/

/-- The header of a new block of `bytes` bytes. -/
def newHeader (memory : Memory) (header bytes : Nat) : Memory :=
  ((memory.write32 header blockTag).write32 (header + 4) bytes).write32 (header + 8) 0

theorem newHeader_outside {memory : Memory} {header bytes : Nat} {cell : Int} (outside : cell < header) :
    newHeader memory header bytes cell = memory cell := by
  rw [newHeader, Memory.write32_outside (by omega), Memory.write32_outside (by omega), Memory.write32_outside (by omega)]

theorem read_newHeader {memory : Memory} {header bytes : Nat} (fits : bytes < 2 ^ 32) :
    (newHeader memory header bytes).read32 header = blockTag ∧ (newHeader memory header bytes).read32 (header + 4) = bytes := by
  constructor
  · rw [newHeader, Memory.read32_write32_of_disjoint (by omega), Memory.read32_write32_of_disjoint (by omega),
      Memory.read32_write32_self (by decide)]
  · rw [newHeader, Memory.read32_write32_of_disjoint (by omega), Memory.read32_write32_self fits]

section Extended

variable {request bytes header : Nat}

/-- The blocks cut off so far lie below `NextBlock`. -/
theorem HeapInv.below (inv : HeapInv base size run freed capacity) (owned : Owned run.live freed header) :
    header + 12 + capacity header ≤ run.heap.nextBlock :=
  (inv.inside header owned).2.2.1

/-- The new block is owned by its caller alone, and every other one lies below it. -/
theorem HeapInv.owned_extended (inv : HeapInv base size run freed capacity)
    (owned : Owned ((run.heap.nextBlock + 12, request) :: run.live) freed header) :
    header = run.heap.nextBlock ∨ header ≠ run.heap.nextBlock ∧ Owned run.live freed header := by
  obtain ⟨asked, member⟩ | ⟨i, member⟩ := owned
  · obtain new | member := List.mem_cons.mp member
    · exact .inl (by simpa using congrArg Prod.fst new)
    · have := inv.below (.inl ⟨asked, member⟩)
      exact .inr ⟨by omega, .inl ⟨asked, member⟩⟩
  · have := inv.below (.inr ⟨i, member⟩)
    exact .inr ⟨by omega, .inr ⟨i, member⟩⟩

/-- The new header is above all others. -/
theorem HeapInv.sameHeader_extended (inv : HeapInv base size run freed capacity) (owned : Owned run.live freed header) :
    SameHeader run.heap.memory (newHeader run.heap.memory run.heap.nextBlock bytes) header := by
  intro cell lower upper
  have := inv.below owned
  exact newHeader_outside (by omega)

/-- The new block is apart from all others. -/
theorem HeapInv.apart_extended (inv : HeapInv base size run freed capacity) {first second : Nat}
    (firstOwned : Owned ((run.heap.nextBlock + 12, request) :: run.live) freed first)
    (secondOwned : Owned ((run.heap.nextBlock + 12, request) :: run.live) freed second) (different : first ≠ second) :
    first + 12 + Function.update capacity run.heap.nextBlock bytes first ≤ second ∨
      second + 12 + Function.update capacity run.heap.nextBlock bytes second ≤ first := by
  obtain rfl | ⟨firstOld, firstOwned⟩ := inv.owned_extended firstOwned <;>
    obtain rfl | ⟨secondOld, secondOwned⟩ := inv.owned_extended secondOwned
  · exact absurd rfl different
  · rw [Function.update_of_ne secondOld]
    exact .inr (inv.below secondOwned)
  · rw [Function.update_of_ne firstOld]
    exact .inl (inv.below firstOwned)
  · rw [Function.update_of_ne firstOld, Function.update_of_ne secondOld]
    exact inv.apart first second firstOwned secondOwned different

/-- Every block that is held has the bytes that were asked for. -/
theorem HeapInv.live_extended (inv : HeapInv base size run freed capacity) (enough : request ≤ bytes) {block : Nat × Nat}
    (member : block ∈ (run.heap.nextBlock + 12, request) :: run.live) :
    12 ≤ block.1 ∧ block.2 ≤ Function.update capacity run.heap.nextBlock bytes (block.1 - 12) := by
  obtain rfl | member := List.mem_cons.mp member
  · simpa using enough
  · obtain ⟨behind, fits⟩ := inv.live block member
    have := inv.below (.inl ⟨block.2, by rwa [Nat.sub_add_cancel behind]⟩)
    rw [Function.update_of_ne (by omega)]
    exact ⟨behind, fits⟩

/-- The block behind `NextBlock` is given to a caller. -/
theorem extend_succeeds_inv (inv : HeapInv base size run freed capacity) {next : Nat} (enough : request ≤ bytes)
    (bound : next < 2 ^ 32) (aligned : next % 4 = 0) (room : run.heap.nextBlock + 12 + bytes ≤ next)
    (inHeap : next ≤ base + size) :
    HeapInv base size
      { heap := { run.heap with nextBlock := next, memory := newHeader run.heap.memory run.heap.nextBlock bytes }
        live := (run.heap.nextBlock + 12, request) :: run.live }
      freed (Function.update capacity run.heap.nextBlock bytes) where
  sizes := inv.sizes
  limit := inv.limit
  low := by
    have := inv.low
    simp only
    omega
  high := bound
  aligned := aligned
  inside header owned := by
    obtain rfl | ⟨different, owned⟩ := inv.owned_extended owned
    · rw [Function.update_self]
      exact ⟨inv.low, inv.aligned, room, by omega⟩
    · obtain ⟨low, multiple, cut, inside⟩ := inv.inside header owned
      rw [Function.update_of_ne different]
      exact ⟨low, multiple, by simp only; omega, inside⟩
  header header owned := by
    obtain rfl | ⟨different, owned⟩ := inv.owned_extended owned
    · rw [Function.update_self]
      exact read_newHeader (by omega)
    · have same := @HeapInv.sameHeader_extended _ _ _ _ _ bytes _ inv owned
      rw [Function.update_of_ne different, same.tag, same.sizeWord]
      exact inv.header header owned
  apart _ _ firstOwned secondOwned different := inv.apart_extended firstOwned secondOwned different
  live _ member := inv.live_extended enough member
  exclusive i header member asked held := by
    have := inv.below (.inr ⟨i, member⟩)
    obtain new | held := List.mem_cons.mp held
    · have := congrArg Prod.fst new
      simp only at this
      omega
    · exact inv.exclusive i header member asked held
  capacity_eq i header member := by
    have := inv.below (.inr ⟨i, member⟩)
    rw [Function.update_of_ne (by omega)]
    exact inv.capacity_eq i header member
  chains i := (inv.chains i).congr fun _ member => (inv.sameHeader_extended (.inr ⟨i, member⟩)).next

end Extended

/-- Headers on different free lists differ, as their sizes do. -/
theorem HeapInv.freed_disjoint (inv : HeapInv base size run freed capacity) {i j : Fin numBlocks}
    {header : Nat} (first : header ∈ freed i) (second : header ∈ freed j) : i = j :=
  blockSizes_injective ((inv.capacity_eq i header first).symm.trans (inv.capacity_eq j header second))

theorem HeapInv.freed_cons (inv : HeapInv base size run freed capacity) {i : Fin numBlocks}
    (available : (run.heap.blocks i).freeList ≠ 0) :
    ∃ rest, freed i = (run.heap.blocks i).freeList :: rest := by
  have chain := inv.chains i
  rw [headerLink, if_neg available] at chain
  cases list : freed i with
  | nil => simp [list] at chain
  | cons first rest =>
    rw [list] at chain
    exact ⟨rest, by rw [Option.some.inj chain.1]⟩

/-- The owned block at `header` is linked anew: its `next` becomes `word`, and the
    free list of size `i` starts at `start`.  No other header changes. -/
theorem HeapInv.relink (inv : HeapInv base size run freed capacity) {header word start : Nat}
    {i : Fin numBlocks} {live' : List (Nat × Nat)} {freed' : Fin numBlocks → List Nat}
    (owned : Owned run.live freed header)
    (split : ∀ other, Owned live' freed' other → Owned run.live freed other)
    (live : ∀ block ∈ live', 12 ≤ block.1 ∧ block.2 ≤ capacity (block.1 - 12))
    (exclusive : ∀ j, ∀ other ∈ freed' j, ∀ request, (other + 12, request) ∉ live')
    (capacity_eq : ∀ j, ∀ other ∈ freed' j, capacity other = blockSizes j)
    (chains : (∀ other, Owned run.live freed other → other ≠ header →
        nextHeader (run.heap.memory.write32 (header + 8) word) other = nextHeader run.heap.memory other) →
      ∀ j, Chain (nextHeader (run.heap.memory.write32 (header + 8) word))
        (headerLink (Function.update run.heap.blocks i { run.heap.blocks i with freeList := start } j).freeList)
        (freed' j)) :
    HeapInv base size
      { heap := { run.heap with
          blocks := Function.update run.heap.blocks i { run.heap.blocks i with freeList := start }
          memory := run.heap.memory.write32 (header + 8) word }
        live := live' }
      freed' capacity := by
  -- The word is within one header, and the other headers are apart from it.
  have same : ∀ other, Owned run.live freed other → other ≠ header →
      SameHeader run.heap.memory (run.heap.memory.write32 (header + 8) word) other :=
    fun other otherOwned different => inv.sameHeader owned otherOwned different
      fun cell outside => Memory.write32_outside (by omega)
  refine {
    sizes := ?_
    limit := inv.limit
    low := inv.low
    high := inv.high
    aligned := inv.aligned
    inside := fun other otherOwned => inv.inside other (split other otherOwned)
    header := ?_
    apart := fun first second firstOwned secondOwned =>
      inv.apart first second (split first firstOwned) (split second secondOwned)
    live
    exclusive
    capacity_eq
    chains := chains fun other otherOwned different => (same other otherOwned different).next }
  · intro j
    by_cases equal : j = i
    · simpa [equal] using inv.sizes i
    · simpa [equal] using inv.sizes j
  · intro other otherOwned
    by_cases equal : other = header
    · subst equal
      rw [Memory.read32_write32_of_disjoint (by omega), Memory.read32_write32_of_disjoint (by omega)]
      exact inv.header other owned
    · have kept := same other (split other otherOwned) equal
      rw [kept.tag, kept.sizeWord]
      exact inv.header other (split other otherOwned)

/-- The first block of a free list changes hands. -/
theorem takeFirst_inv (inv : HeapInv base size run freed capacity) {i : Fin numBlocks}
    {header request : Nat} {rest : List Nat} (list : freed i = header :: rest)
    (enough : request ≤ blockSizes i) :
    HeapInv base size
      { heap := { run.heap with
          blocks := Function.update run.heap.blocks i
            { run.heap.blocks i with freeList := run.heap.memory.read32 (header + 8) }
          memory := run.heap.memory.write32 (header + 8) 0 }
        live := (header + 12, request) :: run.live }
      (Function.update freed i rest) capacity := by
  have member : header ∈ freed i := by simp [list]
  have owned : Owned run.live freed header := .inr ⟨i, member⟩
  have chain := inv.chains i
  rw [list] at chain
  have absent : header ∉ rest := (List.nodup_cons.mp chain.nodup).1
  have onList : ∀ j other, other ∈ Function.update freed i rest j → other ∈ freed j ∧ other ≠ header := by
    intro j other listed
    by_cases same : j = i
    · subst same
      rw [Function.update_self] at listed
      exact ⟨by simp [list, listed], fun equal => absent (equal ▸ listed)⟩
    · rw [Function.update_of_ne same] at listed
      exact ⟨listed, fun equal => same (inv.freed_disjoint (equal ▸ listed) member)⟩
  apply inv.relink owned
  -- the same blocks are owned as before
  · rintro other (⟨asked, held⟩ | ⟨j, listed⟩)
    · cases List.mem_cons.mp held with
      | inl new =>
        obtain rfl : other = header := by simpa using congrArg Prod.fst new
        exact owned
      | inr held => exact .inl ⟨asked, held⟩
    · exact .inr ⟨j, (onList j other listed).1⟩
  · intro block held
    cases List.mem_cons.mp held with
    | inl new =>
      subst new
      simpa [inv.capacity_eq i header member] using enough
    | inr held => exact inv.live block held
  · intro j other listed asked held
    obtain ⟨wasListed, different⟩ := onList j other listed
    cases List.mem_cons.mp held with
    | inl new => exact different (by simpa using congrArg Prod.fst new)
    | inr held => exact inv.exclusive j other wasListed asked held
  · exact fun j other listed => inv.capacity_eq j other (onList j other listed).1
  · intro next j
    have kept : ∀ other ∈ Function.update freed i rest j,
        nextHeader (run.heap.memory.write32 (header + 8) 0) other = nextHeader run.heap.memory other :=
      fun other listed => next other (.inr ⟨j, (onList j other listed).1⟩) (onList j other listed).2
    by_cases equal : j = i
    · subst equal
      simp only [Function.update_self] at kept ⊢
      exact Chain.congr chain.2 kept
    · simp only [Function.update_of_ne equal] at kept ⊢
      exact (inv.chains j).congr kept

/-- A freed block goes to the front of the free list of its size. -/
theorem giveBack_inv (inv : HeapInv base size run freed capacity) (bottom : 0 < base)
    {header request : Nat} {i : Fin numBlocks} (held : (header + 12, request) ∈ run.live)
    (sizeEq : capacity header = blockSizes i) :
    HeapInv base size
      { heap := { run.heap with
          blocks := Function.update run.heap.blocks i { run.heap.blocks i with freeList := header }
          memory := run.heap.memory.write32 (header + 8) (run.heap.blocks i).freeList }
        live := run.live.filter fun block => block.1 ≠ header + 12 }
      (Function.update freed i (header :: freed i)) capacity := by
  have owned : Owned run.live freed header := .inl ⟨request, held⟩
  have unlisted : ∀ j, header ∉ freed j := fun j listed => inv.exclusive j header listed request held
  have onList : ∀ j other, other ∈ Function.update freed i (header :: freed i) j →
      other = header ∧ j = i ∨ other ∈ freed j := by
    intro j other listed
    by_cases equal : j = i
    · subst equal
      simpa using listed
    · exact .inr (by simpa [equal] using listed)
  apply inv.relink owned
  · rintro other (⟨asked, member⟩ | ⟨j, listed⟩)
    · exact .inl ⟨asked, List.mem_of_mem_filter member⟩
    · obtain ⟨rfl, -⟩ | listed := onList j other listed
      · exact owned
      · exact .inr ⟨j, listed⟩
  · exact fun block member => inv.live block (List.mem_of_mem_filter member)
  · intro j other listed asked member
    obtain ⟨rfl, -⟩ | listed := onList j other listed
    · simp at member
    · exact inv.exclusive j other listed asked (List.mem_of_mem_filter member)
  · intro j other listed
    obtain ⟨rfl, rfl⟩ | listed := onList j other listed
    · exact sizeEq
    · exact inv.capacity_eq j other listed
  · intro next j
    have tail := (inv.chains j).congr fun other listed =>
      next other (.inr ⟨j, listed⟩) fun equal => unlisted j (equal ▸ listed)
    by_cases equal : j = i
    · subst equal
      obtain ⟨low, -, cut, -⟩ := inv.inside header owned
      have high := inv.high
      -- the word just stored is the old start of the list, which is a 32-bit value
      have word : (run.heap.blocks j).freeList < 2 ^ 32 := by
        by_cases null : (run.heap.blocks j).freeList = 0
        · omega
        · obtain ⟨rest, list⟩ := inv.freed_cons null
          obtain ⟨-, -, cut, -⟩ := inv.inside (run.heap.blocks j).freeList (.inr ⟨j, by simp [list]⟩)
          omega
      simp only [Function.update_self]
      refine ⟨by rw [headerLink, if_neg (by omega)], ?_⟩
      rw [nextHeader, Memory.read32_write32_self word]
      exact tail
    · simp only [Function.update_of_ne equal]
      exact tail

/-- A block whose size has no free list is lost when it is freed. -/
theorem drop_inv (inv : HeapInv base size run freed capacity) (ptr : Nat) :
    HeapInv base size { run with live := run.live.filter fun block => block.1 ≠ ptr } freed capacity := by
  have split : ∀ other, Owned (run.live.filter fun block => block.1 ≠ ptr) freed other →
      Owned run.live freed other := by
    rintro other (⟨asked, member⟩ | listed)
    · exact .inl ⟨asked, List.mem_of_mem_filter member⟩
    · exact .inr listed
  exact {
    inv with
    inside := fun other owned => inv.inside other (split other owned)
    header := fun other owned => inv.header other (split other owned)
    apart := fun first second firstOwned secondOwned =>
      inv.apart first second (split first firstOwned) (split second secondOwned)
    live := fun block member => inv.live block (List.mem_of_mem_filter member)
    exclusive := fun i other listed asked member =>
      inv.exclusive i other listed asked (List.mem_of_mem_filter member) }

/-! ## The operations -/

theorem free_inv (inv : HeapInv base size run freed capacity) (bottom : 0 < base) {ptr request : Nat}
    (held : (ptr, request) ∈ run.live) :
    ∃ freed', HeapInv base size
      { heap := free ptr run.heap, live := run.live.filter fun block => block.1 ≠ ptr }
      freed' capacity := by
  obtain ⟨behind, -⟩ : 12 ≤ ptr ∧ request ≤ capacity (ptr - 12) := inv.live _ held
  obtain ⟨header, rfl⟩ : ∃ header, ptr = header + 12 := ⟨ptr - 12, by omega⟩
  obtain ⟨tag, sizeWord⟩ := inv.header header (.inl ⟨request, held⟩)
  simp only [free, headerSize, Nat.add_sub_cancel, tag, ne_eq, not_true_eq_false, ↓reduceIte, sizeWord]
  split
  next i found =>
    have sizeEq : capacity header = blockSizes i := by
      simpa [inv.sizes] using List.find?_some found
    exact ⟨_, giveBack_inv inv bottom held sizeEq⟩
  next => exact ⟨freed, drop_inv inv (header + 12)⟩

/-- What a call of `malloc` leaves behind: the invariant, with the new block held
    by its caller if there is one, and held by no other caller. -/
def Allocated (base size : Nat) (run : HeapRun) (request : Nat) (result : Heap × Nat) : Prop :=
  (∃ freed capacity, HeapInv base size
    { heap := result.1, live := if result.2 = 0 then run.live else (result.2, request) :: run.live }
    freed capacity) ∧
  ∀ block ∈ run.live, result.2 ≠ 0 → block.1 ≠ result.2

theorem extend_allocated (inv : HeapInv base size run freed capacity) (bottom : 0 < base)
    (small : base + size ≤ 2 ^ 32) {request bytes : Nat} (enough : request ≤ bytes)
    (fits : ExtendFits run.heap bytes) : Allocated base size run request (run.heap.extend bytes) := by
  obtain ⟨next, nextEq, bound, aligned, room⟩ := extend_next inv.aligned fits
  have low := inv.low
  simp only [Heap.extend, nextEq, headerSize]
  by_cases full : next > run.heap.blockLimit
  · simp only [full, ↓reduceIte]
    exact ⟨⟨freed, capacity, extend_fails_inv inv (by omega) bound aligned⟩, by simp⟩
  · simp only [full, ↓reduceIte]
    have inHeap : next ≤ base + size := by
      have limit := inv.limit
      omega
    rw [Nat.mod_eq_of_lt (by omega)]
    refine ⟨⟨freed, _, by simpa [newHeader] using extend_succeeds_inv inv enough bound aligned room inHeap⟩, ?_⟩
    intro block member _ equal
    obtain ⟨behind, -⟩ := inv.live block member
    have owned : Owned run.live freed (block.1 - 12) :=
      .inl ⟨block.2, by rwa [Nat.sub_add_cancel behind]⟩
    obtain ⟨-, -, below, -⟩ := inv.inside _ owned
    simp only at equal
    omega

theorem reuse_allocated (inv : HeapInv base size run freed capacity) {i : Fin numBlocks} {request : Nat}
    (available : (run.heap.blocks i).freeList ≠ 0) (enough : request ≤ blockSizes i) :
    Allocated base size run request (run.heap.reuse i) := by
  obtain ⟨rest, list⟩ := inv.freed_cons available
  have member : (run.heap.blocks i).freeList ∈ freed i := by simp [list]
  obtain ⟨tag, -⟩ := inv.header _ (.inr ⟨i, member⟩)
  obtain ⟨-, -, cut, -⟩ := inv.inside _ (.inr ⟨i, member⟩)
  have high := inv.high
  simp only [Heap.reuse, tag, ne_eq, not_true_eq_false, ↓reduceIte, headerSize]
  rw [Nat.mod_eq_of_lt (by omega)]
  refine ⟨⟨_, capacity, by simpa using takeFirst_inv inv list enough⟩, ?_⟩
  rintro ⟨ptr, asked⟩ held _ rfl
  exact inv.exclusive i _ member asked held

theorem malloc_allocated (inv : HeapInv base size run freed capacity) (bottom : 0 < base)
    (small : base + size ≤ 2 ^ 32) {request : Nat} (fits : MallocFits request run.heap) :
    Allocated base size run request (malloc request run.heap) := by
  rw [MallocFits] at fits
  rw [malloc]
  cases found : run.heap.blockFor request with
  | none =>
    simp only [found] at fits ⊢
    exact extend_allocated inv bottom small (le_refl request) fits
  | some i =>
    simp only [found] at fits ⊢
    have enough : request ≤ blockSizes i := by
      simpa [inv.sizes] using List.find?_some found
    have positive : (run.heap.blocks i).size > 0 := by
      rw [inv.sizes]
      exact blockSizes_pos i
    by_cases empty : (run.heap.blocks i).freeList = 0
    · simp only [empty, ne_eq, not_true_eq_false, false_and, ↓reduceIte]
      exact extend_allocated inv bottom small (by rwa [inv.sizes]) (fits empty)
    · simp only [ne_eq, empty, not_false_eq_true, positive, and_self, ↓reduceIte]
      exact reuse_allocated inv empty enough

theorem Allocated.separated {request ptr : Nat} {after : Heap}
    (allocated : Allocated base size run request (after, ptr)) (found : ptr ≠ 0) :
    Separated base size run request after ptr := by
  obtain ⟨⟨freed, capacity, inv⟩, unheld⟩ := allocated
  simp only [found, ↓reduceIte] at inv
  obtain ⟨behind, fits⟩ : 12 ≤ ptr ∧ request ≤ capacity (ptr - 12) := inv.live (ptr, request) (by simp)
  -- The new block is owned, as those that are held and those that are free, and owned blocks are apart.
  have owned : ∀ block ∈ (ptr, request) :: run.live,
      Owned ((ptr, request) :: run.live) freed (block.1 - 12) := by
    intro block member
    obtain ⟨behind, -⟩ := inv.live block member
    exact .inl ⟨block.2, by rwa [Nat.sub_add_cancel behind]⟩
  have own := owned (ptr, request) (by simp)
  obtain ⟨low, multiple, -, inside⟩ := inv.inside _ own
  simp only [Separated, blockAlign, headerSize]
  simp only at low multiple inside
  refine ⟨by omega, by omega, by omega, ?_, freed, inv.chains, ?_⟩
  · intro block member
    obtain ⟨blockBehind, blockFits⟩ := inv.live block (by simp [member])
    have different := unheld block member found
    have apart := inv.apart (ptr - 12) (block.1 - 12) own (owned block (by simp [member]))
      (by simp only at different; omega)
    exact ⟨blockBehind, by omega⟩
  · intro i header listed
    have different : ptr - 12 ≠ header := by
      intro equal
      refine inv.exclusive i header listed request ?_
      simp [← equal, Nat.sub_add_cancel behind]
    have apart := inv.apart (ptr - 12) header own (.inr ⟨i, listed⟩) different
    have capacityEq := inv.capacity_eq i header listed
    have sizeEq := inv.sizes i
    simp only at sizeEq
    omega

/-! ## Runs -/

theorem step_inv {run' : HeapRun} (inv : HeapInv base size run freed capacity) (bottom : 0 < base)
    (small : base + size ≤ 2 ^ 32) (event : HeapEvent) (events : List HeapEvent)
    (fits : HeapRunFits (event :: events) run) (stepped : run.step event = some run') :
    ∃ freed' capacity', HeapInv base size run' freed' capacity' := by
  cases event with
  | malloc request =>
    obtain rfl := Option.some.inj stepped
    exact (malloc_allocated inv bottom small fits.1).1
  | free ptr =>
    simp only [HeapRun.step] at stepped
    split at stepped
    next listed =>
      obtain ⟨⟨_, request⟩, held, rfl⟩ := List.mem_map.mp listed
      obtain rfl := Option.some.inj stepped
      obtain ⟨freed', inv'⟩ := free_inv inv bottom held
      exact ⟨freed', capacity, inv'⟩
    next => cases stepped
  | store ptr offset value =>
    simp only [HeapRun.step] at stepped
    split at stepped
    next held =>
      obtain ⟨⟨_, request⟩, held, rfl, below⟩ := held
      obtain rfl := Option.some.inj stepped
      exact ⟨freed, capacity, store_inv inv held below value⟩
    next => cases stepped

theorem runHeap_inv {run' : HeapRun} {past events : List HeapEvent}
    (inv : HeapInv base size run freed capacity) (bottom : 0 < base) (small : base + size ≤ 2 ^ 32)
    (fits : HeapRunFits (past ++ events) run) (reached : runHeap past run = some run') :
    (∃ freed' capacity', HeapInv base size run' freed' capacity') ∧ HeapRunFits events run' := by
  induction past generalizing run freed capacity with
  | nil =>
    obtain rfl := Option.some.inj reached
    exact ⟨⟨freed, capacity, inv⟩, fits⟩
  | cons event past ih =>
    rw [runHeap, List.foldlM_cons, Option.bind_eq_bind, Option.bind_eq_some_iff] at reached
    obtain ⟨middle, first, later⟩ := reached
    obtain ⟨freed', capacity', inv'⟩ := step_inv inv bottom small event (past ++ events) fits first
    exact ih inv' (fits.2 middle first) later

/-- In a run from `MallocInit` in which every request fits in the address space,
    every block that `malloc` returns is separate from all others. -/
theorem malloc_separated (bottom : memHeapStart ≤ base) (aligned : base % blockAlign = 0)
    (word : base < 2 ^ 32) (small : base + size ≤ 2 ^ 32) (memory : Memory)
    (past later : List HeapEvent) (request : UInt32)
    (fits : HeapRunFits (past ++ .malloc request :: later)
      { heap := mallocInit base size memory, live := [] })
    (reached : runHeap past { heap := mallocInit base size memory, live := [] } = some run)
    (found : (malloc request.toNat run.heap).2 ≠ 0) :
    Separated base size run request.toNat (malloc request.toNat run.heap).1
      (malloc request.toNat run.heap).2 := by
  have positive : 0 < base := lt_of_lt_of_le (by decide) bottom
  obtain ⟨⟨freed, capacity, inv⟩, rest⟩ :=
    runHeap_inv (mallocInit_inv bottom aligned word memory) positive small fits reached
  exact (malloc_allocated inv positive small rest.1).separated found

/-- A block is freed and asked for again next to another one. -/
theorem malloc_separated_after_free :
    ∃ run, runHeap [.malloc 100, .malloc 40, .store 0x20800C 99 7, .free 0x20800C]
        { heap := mallocInit memHeapStart 0x200000 fun _ => 0, live := [] } = some run ∧
      (malloc 128 run.heap).2 = 0x20800C ∧
      Separated memHeapStart 0x200000 run 128 (malloc 128 run.heap).1 (malloc 128 run.heap).2 := by
  have observed : (runHeap [.malloc 100, .malloc 40, .store 0x20800C 99 7, .free 0x20800C]
      { heap := mallocInit memHeapStart 0x200000 fun _ => 0, live := [] }).map
      (fun run => (malloc 128 run.heap).2) = some 0x20800C := by decide
  obtain ⟨run, reached, found⟩ := Option.map_eq_some_iff.mp observed
  refine ⟨run, reached, found, ?_⟩
  exact malloc_separated (by decide) (by decide) (by decide) (by decide) _ _ [] 128 (by decide) reached
    (by change (malloc 128 run.heap).2 ≠ 0; omega)

/-- A request of almost the whole address space succeeds on a fresh heap of two
    megabytes: the sum wraps around and `NextBlock` moves down by four. -/
theorem malloc_wraps_around :
    (malloc 0xFFFFFFF0 (mallocInit memHeapStart 0x200000 fun _ => 0)).2 = 0x20800C ∧
    ¬ Separated memHeapStart 0x200000
      { heap := mallocInit memHeapStart 0x200000 fun _ => 0, live := [] } 0xFFFFFFF0
      (malloc 0xFFFFFFF0 (mallocInit memHeapStart 0x200000 fun _ => 0)).1
      (malloc 0xFFFFFFF0 (mallocInit memHeapStart 0x200000 fun _ => 0)).2 := by
  have wrapped : (malloc 0xFFFFFFF0 (mallocInit memHeapStart 0x200000 fun _ => 0)).2 = 0x20800C := by
    decide
  refine ⟨wrapped, ?_⟩
  rintro ⟨-, -, inside, -⟩
  rw [wrapped] at inside
  exact absurd inside (by decide)

end ComputerSystems.Verified
