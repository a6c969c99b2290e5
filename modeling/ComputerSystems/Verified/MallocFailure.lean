import ComputerSystems.Verified.MallocSeparation
import ComputerSystems.Data.Run

/-! # Requests that fail

`malloc` moves `NextBlock` before it compares it with `BlockLimit`, and leaves it
there when it returns `NULL`.  From then on `NextBlock` lies behind the limit: no
request is met from the rest of the heap any more, and `MallocRemaining` is the
difference of the wrong sign.  A failure is never harmless; a run is, as long as
every request is met from a free list or moves `NextBlock` to a place in the heap
(`malloc_harmless_iff`).
-/

namespace ComputerSystems.Verified

open ComputerSystems.Data ComputerSystems.System

/-- A request that returns the null pointer leaves everything as it was, and not more
    remains of the heap than there is. -/
def Harmless (size : Nat) (run : HeapRun) : HeapEvent → Prop
  | .malloc request =>
    ((malloc request.toNat run.heap).2 = 0 → (malloc request.toNat run.heap).1 = run.heap) ∧
      mallocRemaining (malloc request.toNat run.heap).1 ≤ size
  | _ => True

/-- `NextBlock` behind a block of `bytes` is in the heap that starts at `base`.  The sum
    is the one that the processor computes. -/
def ExtendsInHeap (base : Nat) (heap : Heap) (bytes : Nat) : Prop :=
  base ≤ (heap.nextBlock + blockBytes bytes) % 2 ^ 32 ∧
    (heap.nextBlock + blockBytes bytes) % 2 ^ 32 ≤ heap.blockLimit

/-- The first block of a free list is not the one whose pointer would be null.  This can
    only be if the list is corrupt. -/
def HeadUsable (heap : Heap) (i : Fin numBlocks) : Prop :=
  heap.memory.read32 (heap.blocks i).freeList = blockTag →
    ((heap.blocks i).freeList + headerSize) % 2 ^ 32 ≠ 0

/-- A request is met from a free list, or from the rest of the heap. -/
def MetInHeap (base : Nat) (run : HeapRun) : HeapEvent → Prop
  | .malloc request =>
    match run.heap.blockFor request.toNat with
    | some i =>
      if (run.heap.blocks i).freeList ≠ 0 then HeadUsable run.heap i
      else ExtendsInHeap base run.heap (run.heap.blocks i).size
    | none => ExtendsInHeap base run.heap request.toNat
  | _ => True

/-- `NextBlock` is in the heap. -/
structure InHeap (base size : Nat) (run : HeapRun) : Prop where
  sizes : ∀ i, (run.heap.blocks i).size = blockSizes i
  limit : run.heap.blockLimit = base + size
  low : base ≤ run.heap.nextBlock
  high : run.heap.nextBlock ≤ base + size

section Requests

variable {base size : Nat} {run : HeapRun}

theorem mallocRemaining_le_iff {heap : Heap} (small : base + size < 2 ^ 32)
    (limit : heap.blockLimit = base + size) (next : heap.nextBlock < 2 ^ 32) :
    mallocRemaining heap ≤ size ↔ base ≤ heap.nextBlock ∧ heap.nextBlock ≤ heap.blockLimit := by
  rw [mallocRemaining, limit]
  omega

/-- The rest of the heap: the failure moves `NextBlock`, and a block that does not fail
    may still take it below the heap. -/
theorem extend_harmless_iff (inv : InHeap base size run) (small : base + size + headerSize < 2 ^ 32)
    (bytes : Nat) :
    (((run.heap.extend bytes).2 = 0 → (run.heap.extend bytes).1 = run.heap) ∧
        mallocRemaining (run.heap.extend bytes).1 ≤ size) ↔
      ExtendsInHeap base run.heap bytes := by
  have high := inv.high
  have limit := inv.limit
  rw [headerSize] at small
  simp only [Heap.extend, ExtendsInHeap]
  generalize moved : (run.heap.nextBlock + blockBytes bytes) % 2 ^ 32 = next
  have word : next < 2 ^ 32 := by
    rw [← moved]
    exact Nat.mod_lt _ (by decide)
  by_cases full : next > run.heap.blockLimit
  · simp only [full, if_true, true_implies]
    constructor
    · rintro ⟨unchanged, -⟩
      have same : next = run.heap.nextBlock := congrArg Heap.nextBlock unchanged
      omega
    · intro within
      omega
  · simp only [full, if_false]
    have pointer : (run.heap.nextBlock + headerSize) % 2 ^ 32 ≠ 0 := by
      rw [headerSize]
      omega
    have whole : base + size < 2 ^ 32 := by omega
    rw [mallocRemaining_le_iff whole (by exact limit) (by exact word)]
    simp only [pointer, false_implies, true_and]

theorem reuse_harmless_iff (inv : InHeap base size run) (small : base + size + headerSize < 2 ^ 32)
    {i : Fin numBlocks} (available : (run.heap.blocks i).freeList ≠ 0) :
    (((run.heap.reuse i).2 = 0 → (run.heap.reuse i).1 = run.heap) ∧
        mallocRemaining (run.heap.reuse i).1 ≤ size) ↔
      HeadUsable run.heap i := by
  have high := inv.high
  rw [headerSize] at small
  have remaining : mallocRemaining run.heap ≤ size :=
    (mallocRemaining_le_iff (by omega) inv.limit (by omega)).mpr ⟨inv.low, by rw [inv.limit]; omega⟩
  by_cases tag : run.heap.memory.read32 (run.heap.blocks i).freeList = blockTag
  · simp only [Heap.reuse, HeadUsable, tag, ne_eq, not_true_eq_false, if_false, true_implies]
    constructor
    · rintro ⟨unchanged, -⟩ null
      -- the list would start with the word that was just cleared
      have same := unchanged null
      have start : run.heap.memory.read32 ((run.heap.blocks i).freeList + 8) =
          (run.heap.blocks i).freeList := by
        have head := congrArg (fun heap => (heap.blocks i).freeList) same
        simpa using head
      have cleared : run.heap.memory.read32 ((run.heap.blocks i).freeList + 8) = 0 := by
        have memory : run.heap.memory.write32 _ _ = run.heap.memory := congrArg Heap.memory same
        rw [← memory, Memory.read32_write32_self (by decide)]
      exact available (start.symm.trans cleared)
    · intro usable
      exact ⟨fun null => absurd null usable, remaining⟩
  · simp [Heap.reuse, HeadUsable, tag, remaining]

theorem malloc_harmless_step (inv : InHeap base size run) (small : base + size + headerSize < 2 ^ 32)
    (event : HeapEvent) : Harmless size run event ↔ MetInHeap base run event := by
  cases event with
  | free ptr => exact Iff.rfl
  | store ptr offset value => exact Iff.rfl
  | malloc request =>
    simp only [Harmless, MetInHeap, malloc]
    cases found : run.heap.blockFor request.toNat with
    | none => exact extend_harmless_iff inv small request.toNat
    | some i =>
      have positive : (run.heap.blocks i).size > 0 := by
        rw [inv.sizes]
        exact blockSizes_pos i
      by_cases empty : (run.heap.blocks i).freeList = 0
      · simp only [empty, ne_eq, not_true_eq_false, false_and, if_false]
        exact extend_harmless_iff inv small _
      · simp only [ne_eq, empty, not_false_eq_true, positive, and_self, if_true]
        exact reuse_harmless_iff inv small empty

/-! ## Runs -/

/-- The sizes and the limit of the heap never change. -/
structure SameLayout (heap heap' : Heap) : Prop where
  sizes : ∀ i, (heap'.blocks i).size = (heap.blocks i).size
  limit : heap'.blockLimit = heap.blockLimit

theorem update_size (heap : Heap) (i : Fin numBlocks) (start : Nat) (j : Fin numBlocks) :
    (Function.update heap.blocks i { heap.blocks i with freeList := start } j).size =
      (heap.blocks j).size := by
  by_cases same : j = i
  · subst same
    rw [Function.update_self]
  · rw [Function.update_of_ne same]

theorem reuse_layout (heap : Heap) (i : Fin numBlocks) : SameLayout heap (heap.reuse i).1 := by
  simp only [Heap.reuse]
  split_ifs
  · exact ⟨fun _ => rfl, rfl⟩
  · exact ⟨update_size heap i _, rfl⟩

theorem extend_layout (heap : Heap) (bytes : Nat) : SameLayout heap (heap.extend bytes).1 := by
  simp only [Heap.extend]
  split_ifs
  · exact ⟨fun _ => rfl, rfl⟩
  · exact ⟨fun _ => rfl, rfl⟩

theorem malloc_layout (request : Nat) (heap : Heap) : SameLayout heap (malloc request heap).1 := by
  rw [malloc]
  split
  next i _ =>
    split_ifs
    · exact reuse_layout heap i
    · exact extend_layout heap _
  next => exact extend_layout heap request

theorem free_layout (ptr : Nat) (heap : Heap) : SameLayout heap (free ptr heap) := by
  simp only [free]
  split_ifs
  · exact ⟨fun _ => rfl, rfl⟩
  · split
    next i _ => exact ⟨update_size heap i _, rfl⟩
    next => exact ⟨fun _ => rfl, rfl⟩

theorem free_nextBlock (ptr : Nat) (heap : Heap) : (free ptr heap).nextBlock = heap.nextBlock := by
  simp only [free]
  split_ifs
  · rfl
  · split <;> rfl

theorem malloc_word (inv : InHeap base size run) (small : base + size < 2 ^ 32) (request : Nat) :
    (malloc request run.heap).1.nextBlock < 2 ^ 32 := by
  have high := inv.high
  have extends' : ∀ bytes, (run.heap.extend bytes).1.nextBlock < 2 ^ 32 := by
    intro bytes
    simp only [Heap.extend]
    split_ifs
    · exact Nat.mod_lt _ (by decide)
    · exact Nat.mod_lt _ (by decide)
  rw [malloc]
  split
  next i _ =>
    split_ifs
    · simp only [Heap.reuse]
      split_ifs <;> simp only <;> omega
    · exact extends' _
  next => exact extends' request

/-- What remains of the heap after a harmless request says where `NextBlock` is. -/
theorem InHeap.step (inv : InHeap base size run) (small : base + size < 2 ^ 32) {event : HeapEvent}
    (harmless : Harmless size run event) {next : HeapRun} (steps : run.step event = some next) :
    InHeap base size next := by
  cases event with
  | malloc request =>
    obtain rfl := Option.some.inj steps
    have layout := malloc_layout request.toNat run.heap
    have limit := layout.limit.trans inv.limit
    have word : (malloc request.toNat run.heap).1.nextBlock < 2 ^ 32 := malloc_word inv small request.toNat
    obtain ⟨low, high⟩ := (mallocRemaining_le_iff small limit word).mp harmless.2
    exact ⟨fun i => (layout.sizes i).trans (inv.sizes i), limit, low, limit ▸ high⟩
  | free ptr =>
    rw [HeapRun.step, Option.ite_none_right_eq_some] at steps
    obtain rfl := Option.some.inj steps.2
    have layout := free_layout ptr run.heap
    have next := free_nextBlock ptr run.heap
    exact ⟨fun i => (layout.sizes i).trans (inv.sizes i), layout.limit.trans inv.limit,
      next ▸ inv.low, next ▸ inv.high⟩
  | store ptr offset value =>
    rw [HeapRun.step, Option.ite_none_right_eq_some] at steps
    obtain rfl := Option.some.inj steps.2
    exact ⟨inv.sizes, inv.limit, inv.low, inv.high⟩

end Requests

/-- In every run from `MallocInit`, failed requests change nothing and no more remains
    than there is, exactly if every request is met from a free list or moves
    `NextBlock` to a place in the heap. -/
theorem malloc_harmless_iff {base size : Nat} (bottom : memHeapStart ≤ base)
    (small : base + size + headerSize < 2 ^ 32) (memory : Memory) (events : List HeapEvent) :
    Along HeapRun.step (Harmless size) events { heap := mallocInit base size memory, live := [] } ↔
      Along HeapRun.step (MetInHeap base) events { heap := mallocInit base size memory, live := [] } := by
  have start : InHeap base size { heap := mallocInit base size memory, live := [] } := by
    rw [headerSize] at small
    refine ⟨fun _ => rfl, ?_, ?_, ?_⟩ <;> simp [mallocInit, Nat.not_lt.mpr bottom]
    omega
  apply (Along.of_invariant (fun _ => True) trivial fun _ _ _ => ⟨trivial, fun _ _ => trivial⟩ :
    Along HeapRun.step (fun _ _ => True) events _).congr (InHeap base size) start
  intro run event inv _
  exact ⟨malloc_harmless_step inv small event,
    fun harmless next steps => inv.step (by omega) harmless steps⟩

/-- A small request on the heap of the kernel. -/
theorem malloc_harmless_iff_small :
    Along HeapRun.step (Harmless 0x200000) [.malloc 64]
        { heap := mallocInit memHeapStart 0x200000 fun _ => 0, live := [] } ↔
      Along HeapRun.step (MetInHeap memHeapStart) [.malloc 64]
        { heap := mallocInit memHeapStart 0x200000 fun _ => 0, live := [] } :=
  malloc_harmless_iff (by decide) (by decide) (fun _ => 0) [.malloc 64]

/-- A request for the whole heap of the kernel fails, and afterwards almost the whole
    address space seems to remain. -/
theorem malloc_failure_moves :
    ¬ ∀ (base size : Nat) (memory : Memory) (events : List HeapEvent), memHeapStart ≤ base →
      base + size + headerSize < 2 ^ 32 →
        Along HeapRun.step (Harmless size) events { heap := mallocInit base size memory, live := [] } := by
  intro holds
  have harmless := (holds memHeapStart 0x200000 (fun _ => 0) [.malloc 0x200000] (by decide) (by decide)).1
  exact absurd harmless.2 (by decide)

end ComputerSystems.Verified
