import ComputerSystems.Verified.MallocFailure
import Mathlib.Algebra.BigOperators.Fin

/-! # What the heap is used for

A block that was cut off the heap stays in its class of sizes: it is held by a
caller or waits on the free list of the class, and is used for the next request of
that class.  So a class has as many blocks as were held of it at the same time, and
`NextBlock` has moved past just these (`heap_use_peak`).

Requests above the largest class have no class.  Their blocks are cut to measure and
cannot be had again (`heap_reuse_iff`).
-/

namespace ComputerSystems.Verified

open ComputerSystems.Data ComputerSystems.System

/-- The class of a request: the first block size that is big enough. -/
def sizeClass (request : Nat) : Option (Fin numBlocks) :=
  (List.finRange numBlocks).find? fun i => decide (request ≤ blockSizes i)

/-- The number of blocks of a class that callers hold. -/
def liveOf (i : Fin numBlocks) (live : List (Nat × Nat)) : Nat :=
  live.countP fun block => sizeClass block.2 = some i

/-- The largest number of blocks of a class that callers held at the same time. -/
def peak (i : Fin numBlocks) : List HeapEvent → HeapRun → Nat
  | [], run => liveOf i run.live
  | event :: events, run =>
    match run.step event with
    | some next => max (liveOf i run.live) (peak i events next)
    | none => liveOf i run.live

/-- No request fails, and none is above the largest class. -/
def SmallSuccess (run : HeapRun) : HeapEvent → Prop
  | .malloc request => request.toNat ≤ 0x8000 ∧ (malloc request.toNat run.heap).2 ≠ 0
  | _ => True

/-- The blocks of each class are held or free, and `NextBlock` has moved past them. -/
structure HeapAccount (base size : Nat) (run : HeapRun) (freed : Fin numBlocks → List Nat)
    (capacity : Nat → Nat) (top : Fin numBlocks → Nat) : Prop where
  heap : HeapInv base size run freed capacity
  classes : ∀ block ∈ run.live, ∃ i, sizeClass block.2 = some i ∧ capacity (block.1 - 12) = blockSizes i
  distinct : (run.live.map Prod.fst).Nodup
  balance : ∀ i, liveOf i run.live + (freed i).length = top i
  cut : run.heap.nextBlock = base + ∑ i, (blockSizes i + headerSize) * top i
  within : run.heap.nextBlock ≤ base + size

section Classes

variable {request : Nat} {i : Fin numBlocks}

theorem sizeClass_enough (found : sizeClass request = some i) : request ≤ blockSizes i := by
  simpa using List.find?_some found

theorem sizeClass_small (small : request ≤ 0x8000) : ∃ i, sizeClass request = some i := by
  rw [← Option.isSome_iff_exists, sizeClass, List.find?_isSome]
  exact ⟨⟨7, by decide⟩, List.mem_finRange _, decide_eq_true small⟩

theorem sizeClass_large (large : 0x8000 < request) : sizeClass request = none := by
  rw [sizeClass, List.find?_eq_none]
  intro i _
  have bound : blockSizes i ≤ 0x8000 := by
    revert i
    decide
  simp only [decide_eq_true_eq]
  omega

theorem blockFor_eq {heap : Heap} (sizes : ∀ i, (heap.blocks i).size = blockSizes i) (request : Nat) :
    heap.blockFor request = sizeClass request := by
  simp only [Heap.blockFor, sizeClass, sizes]

/-- The blocks of the classes need no rounding. -/
theorem blockBytes_class (i : Fin numBlocks) : blockBytes (blockSizes i) = blockSizes i + headerSize := by
  revert i
  decide

theorem blockSizes_le (i : Fin numBlocks) : blockSizes i ≤ 0x8000 := by
  revert i
  decide

theorem blockSizes_multiple (i : Fin numBlocks) : blockSizes i % 4 = 0 := by
  revert i
  decide

/-- `free` finds the class of a block by its size. -/
theorem class_of_size (i : Fin numBlocks) :
    (List.finRange numBlocks).find? (fun j => decide (blockSizes i = blockSizes j)) = some i := by
  revert i
  decide

end Classes

/-! ## The blocks that callers hold -/

section Live

variable {live : List (Nat × Nat)} {block : Nat × Nat}

theorem liveOf_cons (i : Fin numBlocks) (block : Nat × Nat) (live : List (Nat × Nat)) :
    liveOf i (block :: live) = liveOf i live + if sizeClass block.2 = some i then 1 else 0 := by
  by_cases same : sizeClass block.2 = some i
  · simp [liveOf, same]
  · simp [liveOf, same]

/-- One more block of a class is held. -/
theorem liveOf_cons_class {address request : Nat} {i : Fin numBlocks} (fits : sizeClass request = some i)
    (j : Fin numBlocks) : liveOf j ((address, request) :: live) = liveOf j live + if j = i then 1 else 0 := by
  rw [liveOf_cons, fits]
  simp [eq_comm]

/-- A block is the only one with its pointer. -/
theorem live_perm (distinct : (live.map Prod.fst).Nodup) (held : block ∈ live) :
    live.Perm (block :: live.filter fun other => other.1 ≠ block.1) := by
  induction live with
  | nil => cases held
  | cons first rest ih =>
    rw [List.map_cons, List.nodup_cons] at distinct
    obtain ⟨apart, distinct⟩ := distinct
    obtain rfl | held := List.mem_cons.mp held
    · have others : rest.filter (fun other => other.1 ≠ block.1) = rest := by
        rw [List.filter_eq_self]
        intro other member
        simp only [decide_eq_true_eq]
        intro same
        exact apart (same ▸ List.mem_map_of_mem member)
      simp only [ne_eq, decide_not] at others
      simp [others]
    · have other : first.1 ≠ block.1 := fun same => apart (same ▸ List.mem_map_of_mem held)
      rw [List.filter_cons_of_pos (by simpa using other)]
      exact ((ih distinct held).cons first).trans (List.Perm.swap block first _)

theorem liveOf_filter (i : Fin numBlocks) (distinct : (live.map Prod.fst).Nodup) (held : block ∈ live) :
    liveOf i live =
      liveOf i (live.filter fun other => other.1 ≠ block.1) +
        if sizeClass block.2 = some i then 1 else 0 := by
  rw [← liveOf_cons]
  exact (live_perm distinct held).countP_eq _

end Live

/-! ## The operations -/

section Operations

variable {base size : Nat} {run : HeapRun} {freed : Fin numBlocks → List Nat} {capacity : Nat → Nat}
  {top : Fin numBlocks → Nat} {i : Fin numBlocks} {request : Nat}

theorem HeapAccount.live_le (account : HeapAccount base size run freed capacity top) (i : Fin numBlocks) :
    liveOf i run.live ≤ top i := by
  have balance := account.balance i
  omega

theorem unheld {header : Nat} (new : ∀ request, (header + 12, request) ∉ run.live) : header + 12 ∉ run.live.map Prod.fst := by
  intro listed
  obtain ⟨⟨ptr, asked⟩, held, rfl⟩ := List.mem_map.mp listed
  exact new asked held

/-- A class with a free block meets a request without moving `NextBlock`. -/
theorem HeapAccount.reuses (account : HeapAccount base size run freed capacity top)
    (fits : sizeClass request = some i) (available : freed i ≠ []) :
    (malloc request run.heap).2 ≠ 0 ∧ (malloc request run.heap).1.nextBlock = run.heap.nextBlock ∧
      HeapAccount base size
        { heap := (malloc request run.heap).1, live := ((malloc request run.heap).2, request) :: run.live }
        (Function.update freed i (freed i).tail) capacity top := by
  have inv := account.heap
  have positive : (run.heap.blocks i).size > 0 := by
    rw [inv.sizes]
    exact blockSizes_pos i
  -- The first free block of the class is there, and its header is valid.
  have start : (run.heap.blocks i).freeList ≠ 0 := by
    intro null
    have chain := inv.chains i
    rw [headerLink, if_pos null] at chain
    cases list : freed i with
    | nil => exact available list
    | cons first rest =>
      rw [list] at chain
      cases chain.1
  obtain ⟨rest, list⟩ := inv.freed_cons start
  have member : (run.heap.blocks i).freeList ∈ freed i := by simp [list]
  obtain ⟨tag, -⟩ := inv.header _ (.inr ⟨i, member⟩)
  obtain ⟨-, -, cut, -⟩ := inv.inside _ (.inr ⟨i, member⟩)
  have high := inv.high
  have found : malloc request run.heap =
      ({ run.heap with
          blocks := Function.update run.heap.blocks i { run.heap.blocks i with
            freeList := run.heap.memory.read32 ((run.heap.blocks i).freeList + 8) }
          memory := run.heap.memory.write32 ((run.heap.blocks i).freeList + 8) 0 },
        (run.heap.blocks i).freeList + 12) := by
    simp only [malloc, blockFor_eq inv.sizes, fits, start, positive, Heap.reuse, tag, ne_eq,
      not_false_eq_true, not_true_eq_false, and_self, if_true, if_false, headerSize]
    rw [Nat.mod_eq_of_lt (by omega)]
  -- One block less is free, and one more is held.
  rw [found]
  refine ⟨by omega, rfl, ?_⟩
  rw [show (freed i).tail = rest by rw [list, List.tail_cons]]
  exact {
    heap := takeFirst_inv inv list (sizeClass_enough fits)
    classes := by
      intro block held
      obtain rfl | held := List.mem_cons.mp held
      · exact ⟨i, fits, inv.capacity_eq i _ member⟩
      · exact account.classes block held
    distinct := List.nodup_cons.mpr
      ⟨unheld fun asked => inv.exclusive i _ member asked, account.distinct⟩
    balance := by
      intro j
      have balance := account.balance j
      rw [liveOf_cons_class fits]
      by_cases same : j = i
      · subst same
        rw [list, List.length_cons] at balance
        rw [Function.update_self, if_pos rfl]
        omega
      · rw [Function.update_of_ne same, if_neg same]
        exact balance
    cut := account.cut
    within := account.within }

/-- One more block of a class moves `NextBlock` by its size and header. -/
theorem sum_update (top : Fin numBlocks → Nat) (i : Fin numBlocks) :
    ∑ j, (blockSizes j + headerSize) * Function.update top i (top i + 1) j =
      ∑ j, (blockSizes j + headerSize) * top j + (blockSizes i + headerSize) := by
  have one : ∀ j, (blockSizes j + headerSize) * Function.update top i (top i + 1) j =
      (blockSizes j + headerSize) * top j + if j = i then blockSizes j + headerSize else 0 := by
    intro j
    by_cases same : j = i
    · subst same
      rw [Function.update_self, if_pos rfl, Nat.mul_succ]
    · rw [Function.update_of_ne same, if_neg same, Nat.add_zero]
  rw [Finset.sum_congr rfl fun j _ => one j, Finset.sum_add_distrib, Finset.sum_ite_eq' Finset.univ i,
    if_pos (Finset.mem_univ i)]

theorem freeList_null (inv : HeapInv base size run freed capacity) (empty : freed i = []) :
    (run.heap.blocks i).freeList = 0 := by
  by_contra start
  obtain ⟨rest, list⟩ := inv.freed_cons start
  rw [empty] at list
  cases list

/-- A class without a free block gets one more. -/
theorem HeapAccount.grows (account : HeapAccount base size run freed capacity top)
    (small : base + size + 0x8000 + headerSize < 2 ^ 32) (fits : sizeClass request = some i)
    (empty : freed i = []) (success : (malloc request run.heap).2 ≠ 0) :
    ∃ capacity', HeapAccount base size
      { heap := (malloc request run.heap).1, live := ((malloc request run.heap).2, request) :: run.live }
      freed capacity' (Function.update top i (top i + 1)) := by
  have inv := account.heap
  have within := account.within
  have class_le := blockSizes_le i
  have limit := inv.limit
  have multiple := blockSizes_multiple i
  have aligned := inv.aligned
  rw [headerSize] at small
  have moved : (run.heap.nextBlock + blockBytes (blockSizes i)) % 2 ^ 32 =
      run.heap.nextBlock + 12 + blockSizes i := by
    rw [blockBytes_class, headerSize, Nat.mod_eq_of_lt (by omega)]
    omega
  have cutOff : malloc request run.heap = run.heap.extend (blockSizes i) := by
    simp only [malloc, blockFor_eq inv.sizes, fits, freeList_null inv empty, inv.sizes, ne_eq,
      not_true_eq_false, false_and, if_false]
  rw [cutOff] at success ⊢
  simp only [Heap.extend, moved] at success ⊢
  have inside : ¬ run.heap.nextBlock + 12 + blockSizes i > run.heap.blockLimit := by
    intro full
    simp [full] at success
  simp only [inside, if_false, headerSize]
  rw [Nat.mod_eq_of_lt (by omega)]
  -- the block is cut off at the end of the heap, so no block that is held has its pointer
  have new : ∀ asked, (run.heap.nextBlock + 12, asked) ∉ run.live := by
    intro asked held
    obtain ⟨-, -, below, -⟩ := inv.inside run.heap.nextBlock (.inl ⟨asked, held⟩)
    omega
  refine ⟨Function.update capacity run.heap.nextBlock (blockSizes i), ?_⟩
  exact {
    heap := extend_succeeds_inv inv (sizeClass_enough fits) (by omega) (by omega) (Nat.le_refl _) (by omega)
    classes := by
      intro block held
      obtain rfl | held := List.mem_cons.mp held
      · exact ⟨i, fits, by simp⟩
      · obtain ⟨j, asked, cut⟩ := account.classes block held
        refine ⟨j, asked, ?_⟩
        rw [Function.update_of_ne, cut]
        intro same
        have behind := (inv.live block held).1
        apply new block.2
        rwa [← same, Nat.sub_add_cancel behind]
    distinct := List.nodup_cons.mpr ⟨unheld new, account.distinct⟩
    balance := by
      intro j
      have balance := account.balance j
      rw [liveOf_cons_class fits]
      by_cases same : j = i
      · subst same
        rw [Function.update_self, if_pos rfl]
        omega
      · rw [Function.update_of_ne same, if_neg same]
        exact balance
    cut := by
      have cut := account.cut
      have grown := sum_update top i
      rw [grown, headerSize]
      rw [headerSize] at cut
      simp only
      omega
    within := by
      simp only
      omega }

/-- A block that is freed waits on the free list of its class. -/
theorem HeapAccount.frees (account : HeapAccount base size run freed capacity top) (bottom : 0 < base)
    {ptr : Nat} (held : (ptr, request) ∈ run.live) : ∃ freed', HeapAccount base size
      { heap := free ptr run.heap, live := run.live.filter fun block => block.1 ≠ ptr }
      freed' capacity top := by
  have inv := account.heap
  obtain ⟨i, asked, cut⟩ := account.classes _ held
  simp only at asked cut
  obtain ⟨behind, -⟩ : 12 ≤ ptr ∧ request ≤ capacity (ptr - 12) := inv.live _ held
  obtain ⟨header, rfl⟩ : ∃ header, ptr = header + 12 := ⟨ptr - 12, by omega⟩
  rw [Nat.add_sub_cancel] at cut
  obtain ⟨tag, sizeWord⟩ := inv.header header (.inl ⟨request, held⟩)
  -- The class is found by the size word of the header, which is still that of the request.
  have list : (List.finRange numBlocks).find? (fun j => decide (capacity header = (run.heap.blocks j).size)) =
      some i := by
    simp only [cut, inv.sizes]
    exact class_of_size i
  refine ⟨Function.update freed i (header :: freed i), ?_⟩
  simp only [free, headerSize, Nat.add_sub_cancel, tag, ne_eq, not_true_eq_false, if_false, sizeWord, list]
  exact {
    heap := giveBack_inv inv bottom held cut
    classes := fun block member => account.classes block (List.mem_of_mem_filter member)
    distinct := account.distinct.sublist (List.Sublist.map _ List.filter_sublist)
    balance := by
      intro j
      have balance := account.balance j
      rw [liveOf_filter j account.distinct held] at balance
      by_cases same : j = i
      · subst same
        rw [if_pos asked] at balance
        simp only [Function.update_self, List.length_cons]
        simp only [ne_eq] at balance
        omega
      · have other : sizeClass request ≠ some j := by
          rw [asked]
          simpa using fun equal => same equal.symm
        rw [if_neg other] at balance
        simp only [Function.update_of_ne same]
        exact balance
    cut := account.cut
    within := account.within }

end Operations

/-! ## Runs -/

section Runs

variable {base size : Nat} {run : HeapRun} {freed : Fin numBlocks → List Nat} {capacity : Nat → Nat}
  {top : Fin numBlocks → Nat}

/-- The account of a heap, with the most blocks of each class so far. -/
def Accounted (base size : Nat) (run : HeapRun) (top : Fin numBlocks → Nat) : Prop :=
  ∃ freed capacity, HeapAccount base size run freed capacity top

theorem Accounted.allocates (accounted : Accounted base size run top)
    (small : base + size + 0x8000 + headerSize < 2 ^ 32) {request : Nat} (class_le : request ≤ 0x8000)
    (success : (malloc request run.heap).2 ≠ 0) :
    let live := ((malloc request run.heap).2, request) :: run.live
    Accounted base size { heap := (malloc request run.heap).1, live }
      fun i => max (top i) (liveOf i live) := by
  intro live
  obtain ⟨freed, capacity, account⟩ := accounted
  obtain ⟨i, fits⟩ := sizeClass_small class_le
  -- A freed block is reused; only if there is none the heap grows, and then all blocks of the class
  -- are held.
  cases list : freed i with
  | cons first rest =>
    obtain ⟨-, -, reused⟩ := account.reuses fits (by simp [list])
    refine ⟨Function.update freed i (freed i).tail, capacity, ?_⟩
    have same : (fun j => max (top j) (liveOf j live)) = top :=
      funext fun j => Nat.max_eq_left (reused.live_le j)
    rw [same]
    exact reused
  | nil =>
    obtain ⟨capacity', grown⟩ := account.grows small fits list success
    refine ⟨freed, capacity', ?_⟩
    have same : (fun j => max (top j) (liveOf j live)) = Function.update top i (top i + 1) := by
      funext j
      have balance : liveOf j live + (freed j).length = Function.update top i (top i + 1) j :=
        grown.balance j
      by_cases equal : j = i
      · subst equal
        rw [list, List.length_nil, Nat.add_zero, Function.update_self] at balance
        rw [Function.update_self, balance]
        exact Nat.max_eq_right (Nat.le_succ _)
      · have bound := grown.live_le j
        rw [Function.update_of_ne equal] at bound ⊢
        exact Nat.max_eq_left bound
    rw [same]
    exact grown

theorem Accounted.step (accounted : Accounted base size run top) (bottom : 0 < base)
    (small : base + size + 0x8000 + headerSize < 2 ^ 32) {event : HeapEvent}
    (success : SmallSuccess run event) {next : HeapRun} (steps : run.step event = some next) :
    Accounted base size next fun i => max (top i) (liveOf i next.live) := by
  cases event with
  | malloc request =>
    obtain ⟨class_le, found⟩ := success
    have stepped : run.step (.malloc request) = some
        { heap := (malloc request.toNat run.heap).1
          live := ((malloc request.toNat run.heap).2, request.toNat) :: run.live } := by
      simp only [HeapRun.step, found, if_false]
    obtain rfl := Option.some.inj (stepped.symm.trans steps)
    exact accounted.allocates small class_le found
  -- The most that has been held is not more than before.
  | free ptr =>
    rw [HeapRun.step, Option.ite_none_right_eq_some] at steps
    obtain ⟨listed, steps⟩ := steps
    obtain rfl := Option.some.inj steps
    obtain ⟨⟨_, request⟩, held, rfl⟩ := List.mem_map.mp listed
    obtain ⟨freed, capacity, account⟩ := accounted
    obtain ⟨freed', freeing⟩ := account.frees bottom held
    refine ⟨freed', capacity, ?_⟩
    have same := funext fun i => Nat.max_eq_left (freeing.live_le i)
    rw [same]
    exact freeing
  | store ptr offset value =>
    rw [HeapRun.step, Option.ite_none_right_eq_some] at steps
    obtain ⟨⟨⟨_, request⟩, held, rfl, below⟩, steps⟩ := steps
    obtain rfl := Option.some.inj steps
    obtain ⟨freed, capacity, account⟩ := accounted
    refine ⟨freed, capacity, ?_⟩
    have same : (fun i => max (top i) (liveOf i run.live)) = top :=
      funext fun i => Nat.max_eq_left (account.live_le i)
    rw [same]
    exact { account with heap := store_inv account.heap held below value }

theorem peak_cons {event : HeapEvent} {events : List HeapEvent} {next : HeapRun}
    (steps : run.step event = some next) (i : Fin numBlocks) :
    peak i (event :: events) run = max (liveOf i run.live) (peak i events next) := by
  rw [peak, steps]

theorem liveOf_le_peak (i : Fin numBlocks) (events : List HeapEvent) (run : HeapRun) :
    liveOf i run.live ≤ peak i events run := by
  cases events with
  | nil => exact Nat.le_refl _
  | cons event events =>
    rw [peak]
    split
    · exact Nat.le_max_left _ _
    · exact Nat.le_refl _

/-- The most blocks of each class over a run. -/
theorem Accounted.along {events : List HeapEvent} {last : HeapRun} (accounted : Accounted base size run top)
    (bottom : 0 < base) (small : base + size + 0x8000 + headerSize < 2 ^ 32)
    (success : Along HeapRun.step SmallSuccess events run) (reached : runHeap events run = some last) :
    Accounted base size last fun i => max (top i) (peak i events run) := by
  induction events generalizing run top with
  | nil =>
    obtain rfl := Option.some.inj reached
    obtain ⟨freed, capacity, account⟩ := accounted
    have same : (fun i => max (top i) (peak i [] run)) = top :=
      funext fun i => Nat.max_eq_left (account.live_le i)
    rw [same]
    exact ⟨freed, capacity, account⟩
  | cons event events ih =>
    rw [runHeap, List.foldlM_cons, Option.bind_eq_bind, Option.bind_eq_some_iff] at reached
    obtain ⟨next, steps, reached⟩ := reached
    have later := ih (accounted.step bottom small success.1 steps) (success.2 next steps) reached
    have same : (fun i => max (top i) (peak i (event :: events) run)) =
        fun i => max (max (top i) (liveOf i next.live)) (peak i events next) := by
      funext i
      obtain ⟨freed, capacity, account⟩ := accounted
      have held := account.live_le i
      have past := liveOf_le_peak i events next
      rw [peak_cons steps]
      omega
    rw [same]
    exact later

theorem mallocInit_accounted (bottom : memHeapStart ≤ base) (aligned : base % blockAlign = 0)
    (word : base < 2 ^ 32) (memory : Memory) :
    Accounted base size { heap := mallocInit base size memory, live := [] } fun _ => 0 := by
  refine ⟨fun _ => [], fun _ => 0, ?_⟩
  exact {
    heap := mallocInit_inv bottom aligned word memory
    classes := by simp
    distinct := List.nodup_nil
    balance := fun _ => rfl
    cut := by simp [mallocInit, Nat.not_lt.mpr bottom]
    within := by simp [mallocInit, Nat.not_lt.mpr bottom] }

/-- In a run from `MallocInit` in which no request fails or is above the largest class,
    `NextBlock` has moved past as many blocks of each class as callers held at the
    same time. -/
theorem heap_use_peak (bottom : memHeapStart ≤ base) (aligned : base % blockAlign = 0)
    (small : base + size + 0x8000 + headerSize < 2 ^ 32) (memory : Memory) (events : List HeapEvent)
    (last : HeapRun)
    (success : Along HeapRun.step SmallSuccess events { heap := mallocInit base size memory, live := [] })
    (reached : runHeap events { heap := mallocInit base size memory, live := [] } = some last) :
    last.heap.nextBlock = base + ∑ i, (blockSizes i + headerSize) *
      peak i events { heap := mallocInit base size memory, live := [] } := by
  have positive : 0 < base := Nat.lt_of_lt_of_le (by decide) bottom
  obtain ⟨freed, capacity, account⟩ :=
    (mallocInit_accounted bottom aligned (by omega) memory).along positive small success reached
  simpa using account.cut

instance (run : HeapRun) : ∀ event, Decidable (SmallSuccess run event)
  | .malloc _ => inferInstanceAs (Decidable (_ ∧ _))
  | .free _ => inferInstanceAs (Decidable True)
  | .store _ _ _ => inferInstanceAs (Decidable True)

/-- Three requests, of which the last is met by the block that was freed. -/
def freedAndReused : List HeapEvent := [.malloc 100, .malloc 40, .free 0x20800C, .malloc 128]

theorem heap_use_peak_reused :
    ∃ last, runHeap freedAndReused { heap := mallocInit memHeapStart 0x200000 fun _ => 0, live := [] } =
        some last ∧
      last.heap.nextBlock = memHeapStart + ∑ i, (blockSizes i + headerSize) *
        peak i freedAndReused { heap := mallocInit memHeapStart 0x200000 fun _ => 0, live := [] } := by
  obtain ⟨last, reached⟩ := Option.isSome_iff_exists.mp
    (by decide : (runHeap freedAndReused
      { heap := mallocInit memHeapStart 0x200000 fun _ => 0, live := [] }).isSome)
  exact ⟨last, reached, heap_use_peak (by decide) (by decide) (by decide) (fun _ => 0) freedAndReused last
    (by decide) reached⟩

/-! ## The same requests once more -/

def mallocs (sizes : List UInt32) : List HeapEvent := sizes.map .malloc

def frees (pointers : List Nat) : List HeapEvent := pointers.map .free

def Succeeds (run : HeapRun) : HeapEvent → Prop
  | .malloc request => (malloc request.toNat run.heap).2 ≠ 0
  | _ => True

instance (run : HeapRun) : ∀ event, Decidable (Succeeds run event)
  | .malloc _ => inferInstanceAs (Decidable (_ ≠ _))
  | .free _ => inferInstanceAs (Decidable True)
  | .store _ _ _ => inferInstanceAs (Decidable True)

/-- A request succeeds without moving `NextBlock`. -/
def ReusesBlock (run : HeapRun) : HeapEvent → Prop
  | .malloc request =>
    (malloc request.toNat run.heap).2 ≠ 0 ∧
      (malloc request.toNat run.heap).1.nextBlock = run.heap.nextBlock
  | _ => True

theorem step_malloc {request : UInt32} (success : (malloc request.toNat run.heap).2 ≠ 0) :
    run.step (.malloc request) = some
      { heap := (malloc request.toNat run.heap).1
        live := ((malloc request.toNat run.heap).2, request.toNat) :: run.live } := by
  simp only [HeapRun.step, success, if_false]

/-- A block without a class is always cut off the rest of the heap. -/
theorem malloc_large_moves {heap : Heap} (sizes : ∀ i, (heap.blocks i).size = blockSizes i) {request : Nat}
    (large : 0x8000 < request) (block : blockBytes request ≠ 0) :
    (malloc request heap).1.nextBlock ≠ heap.nextBlock := by
  have word : blockBytes request < 2 ^ 32 := by
    simp only [blockBytes, headerSize, blockAlign]
    omega
  have moved : (malloc request heap).1.nextBlock = (heap.nextBlock + blockBytes request) % 2 ^ 32 := by
    simp only [malloc, blockFor_eq sizes, sizeClass_large large, Heap.extend]
    split_ifs <;> rfl
  rw [moved]
  omega

/-- A sequence that only reuses blocks has only requests with a class, and such whose
    block has no bytes. -/
theorem reuses_classed {requests : List UInt32} (sizes : ∀ i, (run.heap.blocks i).size = blockSizes i)
    (reuses : Along HeapRun.step ReusesBlock (mallocs requests) run) :
    ∀ request ∈ requests, request.toNat ≤ 0x8000 ∨ blockBytes request.toNat = 0 := by
  induction requests generalizing run with
  | nil => simp
  | cons first rest ih =>
    obtain ⟨⟨success, unmoved⟩, later⟩ := reuses
    have layout := malloc_layout first.toNat run.heap
    have rest_classed := ih (fun i => (layout.sizes i).trans (sizes i)) (later _ (step_malloc success))
    intro request member
    obtain rfl | member := List.mem_cons.mp member
    · by_contra unclassed
      obtain ⟨large, block⟩ := not_or.mp unclassed
      exact malloc_large_moves sizes (Nat.lt_of_not_le large) block unmoved
    · exact rest_classed request member

/-- The blocks held after a sequence of requests. -/
theorem mallocs_live {requests : List UInt32} {held : HeapRun} (i : Fin numBlocks)
    (success : Along HeapRun.step Succeeds (mallocs requests) run)
    (reached : runHeap (mallocs requests) run = some held) :
    liveOf i held.live = liveOf i run.live +
      requests.countP fun request => sizeClass request.toNat = some i := by
  induction requests generalizing run with
  | nil =>
    obtain rfl := Option.some.inj reached
    rfl
  | cons first rest ih =>
    obtain ⟨found, later⟩ := success
    rw [runHeap, mallocs, List.map_cons, List.foldlM_cons, step_malloc found] at reached
    rw [ih (later _ (step_malloc found)) reached, liveOf_cons, List.countP_cons]
    simp only [decide_eq_true_eq]
    omega

theorem step_layout {event : HeapEvent} {next : HeapRun} (steps : run.step event = some next) :
    SameLayout run.heap next.heap := by
  cases event with
  | malloc request =>
    obtain rfl := Option.some.inj steps
    exact malloc_layout request.toNat run.heap
  | free ptr =>
    rw [HeapRun.step, Option.ite_none_right_eq_some] at steps
    obtain rfl := Option.some.inj steps.2
    exact free_layout ptr run.heap
  | store ptr offset value =>
    rw [HeapRun.step, Option.ite_none_right_eq_some] at steps
    obtain rfl := Option.some.inj steps.2
    exact ⟨fun _ => rfl, rfl⟩

theorem runHeap_sizes {events : List HeapEvent} {last : HeapRun}
    (sizes : ∀ i, (run.heap.blocks i).size = blockSizes i) (reached : runHeap events run = some last) :
    ∀ i, (last.heap.blocks i).size = blockSizes i := by
  induction events generalizing run with
  | nil =>
    obtain rfl := Option.some.inj reached
    exact sizes
  | cons event events ih =>
    rw [runHeap, List.foldlM_cons, Option.bind_eq_bind, Option.bind_eq_some_iff] at reached
    obtain ⟨next, steps, reached⟩ := reached
    exact ih (fun i => ((step_layout steps).sizes i).trans (sizes i)) reached

/-! ## Blocks of no bytes

The bytes of a block are rounded up in 32 bits.  Up to 15 bytes below 2^32 that is
nothing: `malloc` writes a header where the next block will be cut off, and does not
move `NextBlock`.
-/

/-- The blocks that have a class. -/
def classed (live : List (Nat × Nat)) : List (Nat × Nat) :=
  live.filter fun block => (sizeClass block.2).isSome

theorem classed_cons {request ptr : Nat} {i : Fin numBlocks} (live : List (Nat × Nat))
    (fits : sizeClass request = some i) : classed ((ptr, request) :: live) = (ptr, request) :: classed live := by
  rw [classed, List.filter_cons_of_pos (by simp [fits]), classed]

theorem classed_cons_none {request ptr : Nat} (live : List (Nat × Nat)) (without : sizeClass request = none) :
    classed ((ptr, request) :: live) = classed live := by
  rw [classed, List.filter_cons_of_neg (by simp [without]), classed]

theorem liveOf_classed (i : Fin numBlocks) (live : List (Nat × Nat)) :
    liveOf i (classed live) = liveOf i live := by
  rw [liveOf, classed, List.countP_filter]
  apply List.countP_congr
  intro block _
  simp only [Bool.and_eq_true, decide_eq_true_eq, and_iff_left_iff_imp]
  intro fits
  rw [fits]
  rfl

theorem classed_filter (ptr : Nat) (live : List (Nat × Nat)) :
    classed (live.filter fun block => block.1 ≠ ptr) = (classed live).filter fun block => block.1 ≠ ptr :=
  List.filter_comm _ _ _

/-- The account of the blocks that have a class.  A block of no bytes has its header
    where the next block is cut off, and later the pointer of that block. -/
structure ClassedAccount (base size : Nat) (run : HeapRun) (top : Fin numBlocks → Nat) : Prop where
  account : Accounted base size { run with live := classed run.live } top
  others : ∀ block ∈ run.live, sizeClass block.2 = none →
    block.1 ∈ (classed run.live).map Prod.fst ∨
      block.1 = run.heap.nextBlock + 12 ∧ 0x8000 < run.heap.memory.read32 (run.heap.nextBlock + 4)

/-- Nothing that is accounted for lies above `NextBlock`. -/
theorem HeapAccount.write_above (account : HeapAccount base size run freed capacity top) {memory' : Memory}
    (below : ∀ cell : Int, cell < run.heap.nextBlock → memory' cell = run.heap.memory cell) :
    HeapAccount base size { run with heap := { run.heap with memory := memory' } } freed capacity top := by
  have inv := account.heap
  have same : ∀ header, Owned run.live freed header → SameHeader run.heap.memory memory' header := by
    intro header owned cell lower upper
    obtain ⟨-, -, cut, -⟩ := inv.inside header owned
    exact below cell (by omega)
  have heap : HeapInv base size { run with heap := { run.heap with memory := memory' } } freed capacity := {
    inv with
    header := by
      intro header owned
      rw [(same header owned).tag, (same header owned).sizeWord]
      exact inv.header header owned
    chains := fun i => (inv.chains i).congr fun header member => (same header (.inr ⟨i, member⟩)).next }
  exact { account with heap }

/-- What `malloc` leaves behind for a block of no bytes. -/
def markNext (heap : Heap) (request : Nat) : Heap :=
  { heap with
    memory := ((heap.memory.write32 heap.nextBlock blockTag).write32 (heap.nextBlock + 4) request).write32
      (heap.nextBlock + 8) 0 }

theorem blockBytes_zero {request : Nat} (empty : blockBytes request = 0) : 0x8000 < request := by
  simp only [blockBytes, headerSize, blockAlign] at empty
  omega

theorem HeapAccount.malloc_empty (account : HeapAccount base size run freed capacity top)
    (small : base + size + 0x8000 + headerSize < 2 ^ 32) {request : Nat} (empty : blockBytes request = 0) :
    malloc request run.heap = (markNext run.heap request, run.heap.nextBlock + 12) := by
  have inv := account.heap
  have within := account.within
  have limit := inv.limit
  have without := sizeClass_large (blockBytes_zero empty)
  rw [headerSize] at small
  have inside : ¬ run.heap.nextBlock > run.heap.blockLimit := by omega
  simp only [malloc, blockFor_eq inv.sizes, without, Heap.extend, empty, Nat.add_zero,
    Nat.mod_eq_of_lt inv.high, inside, if_false, headerSize, markNext]
  rw [Nat.mod_eq_of_lt (by omega)]

theorem HeapAccount.marked (account : HeapAccount base size run freed capacity top) (request : Nat) :
    HeapAccount base size { run with heap := markNext run.heap request } freed capacity top := by
  apply account.write_above
  intro cell below
  rw [Memory.write32_outside (by omega), Memory.write32_outside (by omega),
    Memory.write32_outside (by omega)]

/-- A request with a class is met by the block above `NextBlock`, or leaves the header
    there alone. -/
theorem HeapAccount.next_header (account : HeapAccount base size run freed capacity top)
    (small : base + size + 0x8000 + headerSize < 2 ^ 32) {request : Nat} {i : Fin numBlocks}
    (fits : sizeClass request = some i) (success : (malloc request run.heap).2 ≠ 0) :
    (malloc request run.heap).2 = run.heap.nextBlock + 12 ∨
      (malloc request run.heap).1.nextBlock = run.heap.nextBlock ∧
        (malloc request run.heap).1.memory.read32 (run.heap.nextBlock + 4) =
          run.heap.memory.read32 (run.heap.nextBlock + 4) := by
  have inv := account.heap
  have within := account.within
  rw [headerSize] at small
  simp only [malloc, blockFor_eq inv.sizes, fits] at success ⊢
  by_cases available : (run.heap.blocks i).freeList ≠ 0 ∧ (run.heap.blocks i).size > 0
  · obtain ⟨rest, list⟩ := inv.freed_cons available.1
    have member : (run.heap.blocks i).freeList ∈ freed i := by simp [list]
    obtain ⟨tag, -⟩ := inv.header _ (.inr ⟨i, member⟩)
    obtain ⟨-, -, cut, -⟩ := inv.inside _ (.inr ⟨i, member⟩)
    rw [if_pos available, Heap.reuse, if_neg (by simp [tag])]
    exact .inr ⟨rfl, Memory.read32_write32_of_disjoint (by omega)⟩
  · rw [if_neg available, Heap.extend] at success ⊢
    split_ifs at success ⊢ with full
    · exact absurd rfl success
    · left
      simp only [headerSize]
      exact Nat.mod_eq_of_lt (by omega)

/-- A block whose size word is no class is dropped by `free`. -/
theorem free_unclassed {heap : Heap} (sizes : ∀ i, (heap.blocks i).size = blockSizes i) {header : Nat}
    (large : 0x8000 < heap.memory.read32 (header + 4)) : free (header + 12) heap = heap := by
  have without : (List.finRange numBlocks).find? (fun i =>
      decide (heap.memory.read32 (header + 4) = (heap.blocks i).size)) = none := by
    rw [List.find?_eq_none]
    intro i _
    have bound := blockSizes_le i
    rw [sizes, decide_eq_true_eq]
    omega
  simp only [free, headerSize, Nat.add_sub_cancel, without]
  split <;> rfl

/-- `free` writes no more than the `next` word of the block. -/
theorem free_above {heap : Heap} {ptr : Nat} {cell : Int} (above : ptr ≤ cell) (behind : 12 ≤ ptr) :
    (free ptr heap).memory cell = heap.memory cell := by
  rw [free]
  split_ifs
  · rfl
  · split
    · rw [headerSize]
      exact Memory.write32_outside (by omega)
    · rfl

theorem ClassedAccount.allocates (accounted : ClassedAccount base size run top)
    (small : base + size + 0x8000 + headerSize < 2 ^ 32) {request : Nat} (word : request < 2 ^ 32)
    (fits : request ≤ 0x8000 ∨ blockBytes request = 0) (success : (malloc request run.heap).2 ≠ 0) :
    ∃ top', ClassedAccount base size
      { heap := (malloc request run.heap).1, live := ((malloc request run.heap).2, request) :: run.live } top' := by
  obtain ⟨freed, capacity, account⟩ := accounted.account
  obtain class_le | empty := fits
  · obtain ⟨i, fits⟩ := sizeClass_small class_le
    have allocated := accounted.account.allocates small class_le success
    refine ⟨_, by rw [classed_cons _ fits]; exact allocated, ?_⟩
    intro block held without
    rw [classed_cons _ fits, List.map_cons, List.mem_cons]
    obtain rfl | held := List.mem_cons.mp held
    · rw [fits] at without
      cases without
    · obtain shared | ⟨above, large⟩ := accounted.others block held without
      · exact .inl (.inr shared)
      · obtain cut | ⟨unmoved, same⟩ := account.next_header small fits success
        · exact .inl (.inl (above.trans cut.symm))
        · refine .inr ⟨by rw [unmoved]; exact above, ?_⟩
          rw [unmoved, same]
          exact large
  · -- The request has no class, and the block is cut without any bytes: only a header is marked.
    have without := sizeClass_large (blockBytes_zero empty)
    have met : malloc request run.heap = (markNext run.heap request, run.heap.nextBlock + 12) :=
      account.malloc_empty small empty
    rw [met]
    have written : (markNext run.heap request).memory.read32 (run.heap.nextBlock + 4) = request := by
      simp only [markNext]
      rw [Memory.read32_write32_of_disjoint (by omega), Memory.read32_write32_self word]
    refine ⟨top, ?_, ?_⟩
    · rw [classed_cons_none _ without]
      exact ⟨freed, capacity, account.marked request⟩
    · intro block held unclassed
      rw [classed_cons_none _ without]
      have large : 0x8000 < (markNext run.heap request).memory.read32 (run.heap.nextBlock + 4) := by
        rw [written]
        exact blockBytes_zero empty
      obtain rfl | held := List.mem_cons.mp held
      · exact .inr ⟨rfl, large⟩
      · exact (accounted.others block held unclassed).imp_right fun above => ⟨above.1, large⟩

theorem ClassedAccount.gives_back (accounted : ClassedAccount base size run top) (bottom : 0 < base) {ptr : Nat}
    (listed : ptr ∈ run.live.map Prod.fst) : ClassedAccount base size
      { heap := free ptr run.heap, live := run.live.filter fun block => block.1 ≠ ptr } top := by
  obtain ⟨freed, capacity, account⟩ := accounted.account
  by_cases shared : ptr ∈ (classed run.live).map Prod.fst
  · obtain ⟨⟨_, request⟩, held, rfl⟩ := List.mem_map.mp shared
    obtain ⟨freed', freeing⟩ := account.frees bottom held
    refine ⟨by rw [classed_filter]; exact ⟨freed', capacity, freeing⟩, ?_⟩
    intro block member without
    obtain ⟨member, other⟩ := List.mem_filter.mp member
    rw [classed_filter]
    obtain classedToo | ⟨above, large⟩ := accounted.others block member without
    · obtain ⟨same, sameHeld, equal⟩ := List.mem_map.mp classedToo
      refine .inl (List.mem_map.mpr ⟨same, List.mem_filter.mpr ⟨sameHeld, ?_⟩, equal⟩)
      rw [equal]
      exact other
    · obtain ⟨behind, -⟩ := account.heap.live _ held
      obtain ⟨-, -, cut, -⟩ := account.heap.inside _ (.inl ⟨request, by rwa [Nat.sub_add_cancel behind]⟩)
      simp only at behind cut
      right
      rw [free_nextBlock]
      refine ⟨above, ?_⟩
      rw [Memory.read32_congr fun cell lower _ => free_above (by omega) behind]
      exact large
  · -- the pointer is that of a block of no bytes alone
    obtain ⟨⟨_, request⟩, held, rfl⟩ := List.mem_map.mp listed
    have without : sizeClass request = none := by
      rw [Option.eq_none_iff_forall_ne_some]
      intro i fits
      exact shared (List.mem_map_of_mem (List.mem_filter.mpr ⟨held, by simp [fits]⟩))
    obtain sharedToo | ⟨above, large⟩ := accounted.others _ held without
    · exact absurd sharedToo shared
    simp only at above shared ⊢
    subst above
    rw [free_unclassed account.heap.sizes large]
    have kept : classed (run.live.filter fun block => block.1 ≠ run.heap.nextBlock + 12) = classed run.live := by
      rw [classed_filter, List.filter_eq_self]
      intro block member
      rw [decide_eq_true_eq]
      intro equal
      exact shared (equal ▸ List.mem_map_of_mem member)
    refine ⟨by rw [kept]; exact ⟨freed, capacity, account⟩, ?_⟩
    intro block member
    rw [kept]
    exact accounted.others block (List.mem_of_mem_filter member)

theorem ClassedAccount.along_mallocs {requests : List UInt32} {held : HeapRun}
    (accounted : ClassedAccount base size run top) (small : base + size + 0x8000 + headerSize < 2 ^ 32)
    (fits : ∀ request ∈ requests, request.toNat ≤ 0x8000 ∨ blockBytes request.toNat = 0)
    (success : Along HeapRun.step Succeeds (mallocs requests) run)
    (reached : runHeap (mallocs requests) run = some held) : ∃ top', ClassedAccount base size held top' := by
  induction requests generalizing run top with
  | nil =>
    obtain rfl := Option.some.inj reached
    exact ⟨top, accounted⟩
  | cons first rest ih =>
    obtain ⟨found, later⟩ := success
    obtain ⟨top', next⟩ :=
      accounted.allocates small first.toNat_lt (fits first List.mem_cons_self) found
    rw [runHeap, mallocs, List.map_cons, List.foldlM_cons, step_malloc found] at reached
    exact ih next (fun request member => fits request (List.mem_cons_of_mem _ member))
      (later _ (step_malloc found)) reached

theorem ClassedAccount.along_frees {pointers : List Nat} {emptied : HeapRun}
    (accounted : ClassedAccount base size run top) (bottom : 0 < base)
    (reached : runHeap (frees pointers) run = some emptied) : ClassedAccount base size emptied top := by
  induction pointers generalizing run with
  | nil =>
    obtain rfl := Option.some.inj reached
    exact accounted
  | cons ptr pointers ih =>
    rw [runHeap, frees, List.map_cons, List.foldlM_cons, Option.bind_eq_bind, Option.bind_eq_some_iff] at reached
    obtain ⟨next, steps, reached⟩ := reached
    rw [HeapRun.step, Option.ite_none_right_eq_some] at steps
    obtain ⟨listed, steps⟩ := steps
    obtain rfl := Option.some.inj steps
    exact ih (accounted.gives_back bottom listed) reached

/-- Requests of which there are as many free blocks in each class reuse these. -/
theorem HeapAccount.reuses_all {requests : List UInt32}
    (account : HeapAccount base size { run with live := classed run.live } freed capacity top)
    (small : base + size + 0x8000 + headerSize < 2 ^ 32)
    (fits : ∀ request ∈ requests, request.toNat ≤ 0x8000 ∨ blockBytes request.toNat = 0)
    (enough : ∀ i, requests.countP (fun request => sizeClass request.toNat = some i) ≤ (freed i).length) :
    Along HeapRun.step ReusesBlock (mallocs requests) run := by
  -- By induction on the requests: each one takes a free block of its class, and what is left is enough
  -- for those behind it.
  induction requests generalizing run freed with
  | nil => exact along_nil
  | cons first rest ih =>
    have others := fun request member => fits request (List.mem_cons_of_mem first member)
    obtain class_le | empty := fits first List.mem_cons_self
    · obtain ⟨i, fits⟩ := sizeClass_small class_le
      have available : freed i ≠ [] := by
        intro none
        have count := enough i
        simp [none, fits] at count
      obtain ⟨found, unmoved, reused⟩ := account.reuses fits available
      have success : (malloc first.toNat run.heap).2 ≠ 0 := found
      refine ⟨⟨success, unmoved⟩, ?_⟩
      intro next steps
      obtain rfl := Option.some.inj ((step_malloc success).symm.trans steps)
      refine ih (by rw [classed_cons _ fits]; exact reused) others ?_
      intro j
      have count := enough j
      rw [List.countP_cons] at count
      by_cases same : j = i
      · subst same
        simp only [fits, decide_true, if_true] at count
        rw [Function.update_self, List.length_tail]
        omega
      · rw [Function.update_of_ne same]
        omega
    · -- A request whose bytes wrap to nothing takes no block of a class.
      have met : malloc first.toNat run.heap = (markNext run.heap first.toNat, run.heap.nextBlock + 12) :=
        account.malloc_empty small empty
      have success : (malloc first.toNat run.heap).2 ≠ 0 := by simp [met]
      refine ⟨⟨success, by rw [met]; rfl⟩, ?_⟩
      intro next steps
      obtain rfl := Option.some.inj ((step_malloc success).symm.trans steps)
      have without := sizeClass_large (blockBytes_zero empty)
      have marked := account.marked first.toNat
      refine ih (by rw [classed_cons_none _ without, met]; exact marked) others ?_
      intro j
      have count := enough j
      rw [List.countP_cons] at count
      omega

/-- After a sequence of requests that all succeed, and after all blocks were freed in
    any order, the same requests are met without moving `NextBlock` exactly if each of
    them has a class, or is so close to 2^32 that its block wraps around to nothing. -/
theorem heap_reuse_iff (bottom : memHeapStart ≤ base) (aligned : base % blockAlign = 0)
    (small : base + size + 0x8000 + headerSize < 2 ^ 32) (memory : Memory) (requests : List UInt32)
    (pointers : List Nat) (held emptied : HeapRun)
    (success : Along HeapRun.step Succeeds (mallocs requests)
      { heap := mallocInit base size memory, live := [] })
    (allocated : runHeap (mallocs requests) { heap := mallocInit base size memory, live := [] } = some held)
    (released : runHeap (frees pointers) held = some emptied) (empty : emptied.live = []) :
    Along HeapRun.step ReusesBlock (mallocs requests) emptied ↔
      ∀ request ∈ requests, request.toNat ≤ 0x8000 ∨ blockBytes request.toNat = 0 := by
  constructor
  · exact reuses_classed (runHeap_sizes (runHeap_sizes (fun _ => rfl) allocated) released)
  · intro fits
    have positive : 0 < base := Nat.lt_of_lt_of_le (by decide) bottom
    have start : ClassedAccount base size { heap := mallocInit base size memory, live := [] } fun _ => 0 :=
      ⟨mallocInit_accounted bottom aligned (by omega) memory, by simp⟩
    obtain ⟨top, full⟩ := start.along_mallocs small fits success allocated
    -- Of each class as many blocks have been held at once as are asked for again.
    have counted : ∀ i, requests.countP (fun request => sizeClass request.toNat = some i) ≤ top i := by
      intro i
      obtain ⟨freed, capacity, account⟩ := full.account
      have live := mallocs_live i success allocated
      have bound := account.live_le i
      have none : liveOf i [] = 0 := rfl
      rw [liveOf_classed] at bound
      omega
    obtain ⟨freed, capacity, account⟩ := (full.along_frees positive released).account
    apply account.reuses_all small fits
    intro i
    have balance := account.balance i
    have count := counted i
    have none : liveOf i [] = 0 := rfl
    rw [liveOf_classed, empty, none] at balance
    omega

/-- Two small requests. -/
theorem heap_reuse_iff_small :
    ∃ held emptied, runHeap (mallocs [100, 40])
        { heap := mallocInit memHeapStart 0x200000 fun _ => 0, live := [] } = some held ∧
      runHeap (frees [0x20800C, 0x208098]) held = some emptied ∧
      (Along HeapRun.step ReusesBlock (mallocs [100, 40]) emptied ↔
        ∀ request ∈ ([100, 40] : List UInt32), request.toNat ≤ 0x8000 ∨ blockBytes request.toNat = 0) := by
  obtain ⟨emptied, runs⟩ := Option.isSome_iff_exists.mp (by decide : ((runHeap (mallocs [100, 40])
    { heap := mallocInit memHeapStart 0x200000 fun _ => 0, live := [] }).bind fun held =>
      (runHeap (frees [0x20800C, 0x208098]) held).filter fun run => run.live.isEmpty).isSome)
  obtain ⟨held, allocated, later⟩ := Option.bind_eq_some_iff.mp runs
  obtain ⟨released, empty⟩ := Option.filter_eq_some_iff.mp later
  exact ⟨held, emptied, allocated, released, heap_reuse_iff (by decide) (by decide) (by decide) (fun _ => 0)
    [100, 40] [0x20800C, 0x208098] held emptied (by decide) allocated released
    (List.isEmpty_iff.mp empty)⟩

/-- A block of 0x8004 bytes is lost when it is freed. -/
theorem heap_reuse_large_lost :
    ¬ ∀ (base size : Nat) (memory : Memory) (requests : List UInt32) (pointers : List Nat)
      (held emptied : HeapRun), memHeapStart ≤ base → base % blockAlign = 0 →
      base + size + 0x8000 + headerSize < 2 ^ 32 →
      Along HeapRun.step Succeeds (mallocs requests) { heap := mallocInit base size memory, live := [] } →
      runHeap (mallocs requests) { heap := mallocInit base size memory, live := [] } = some held →
      runHeap (frees pointers) held = some emptied → emptied.live = [] →
        Along HeapRun.step ReusesBlock (mallocs requests) emptied := by
  intro holds
  obtain ⟨emptied, runs⟩ := Option.isSome_iff_exists.mp (by decide : ((runHeap (mallocs [0x8004])
    { heap := mallocInit memHeapStart 0x200000 fun _ => 0, live := [] }).bind fun held =>
      (runHeap (frees [0x20800C]) held).filter fun run => run.live.isEmpty).isSome)
  obtain ⟨held, allocated, later⟩ := Option.bind_eq_some_iff.mp runs
  obtain ⟨released, empty⟩ := Option.filter_eq_some_iff.mp later
  have reuses := holds memHeapStart 0x200000 (fun _ => 0) [0x8004] [0x20800C] held emptied (by decide) (by decide)
    (by decide) (by decide) allocated released (List.isEmpty_iff.mp empty)
  have sizes := runHeap_sizes (runHeap_sizes (fun _ => rfl) allocated) released
  have classes := reuses_classed sizes reuses 0x8004 List.mem_cons_self
  exact absurd classes (by decide)

end Runs

end ComputerSystems.Verified
