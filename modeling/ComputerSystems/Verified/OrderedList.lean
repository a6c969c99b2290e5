import ComputerSystems.System.DoubleLink
import Mathlib.Order.Lattice

/-! # What the list functions do to a linked list

`Linked loose list nodes` says that `list` holds `nodes` through its `next`
links and that each `previous` link is the inverse of a `next` link.  With
`loose` some `previous` links may also be null, as they are behind a node that
was removed without the list's start being moved.

`insertOrdered_linked` and the three `listRemove` lemmas are the only facts
about the list functions that the task list and the timer list use.  `Precedes`
is the order in which both lists are kept: by a key, and by age among equal keys.
-/

namespace ComputerSystems.Verified

open ComputerSystems.Data ComputerSystems.System

variable {ι : Type} {loose : Prop} {list : LinkedList ι} {nodes front back : List ι}
  {item current : ι}

/-- The `next` link of every node. -/
abbrev nextOf (links : ι → DoubleLink ι) (node : ι) : Option ι := (links node).next

/-- `list` holds exactly `nodes`, with inverse `previous` links. -/
structure Linked (loose : Prop) (list : LinkedList ι) (nodes : List ι) : Prop where
  chain : Chain (nextOf list.links) list.start nodes
  head : ∀ node ∈ nodes.head?, (list.links node).previous = none
  back : nodes.IsChain fun before node =>
    (list.links node).previous = some before ∨ loose ∧ (list.links node).previous = none

/-- Every `previous` link of a linked list leads to its predecessor or is null. -/
theorem Linked.previous_eq (linked : Linked loose list (front ++ current :: back)) :
    (list.links current).previous = none ∧ (front = [] ∨ loose) ∨
      ∃ rest before, front = rest ++ [before] ∧ (list.links current).previous = some before := by
  obtain rfl | ⟨rest, before, rfl⟩ := List.eq_nil_or_concat front
  · exact .inl ⟨linked.head current (by simp), .inl rfl⟩
  · have step := linked.back
    rw [List.concat_eq_append, List.append_assoc, List.singleton_append,
      List.isChain_append_cons_cons] at step
    obtain link | ⟨isLoose, null⟩ := step.2.1
    · exact .inr ⟨rest, before, by simp, link⟩
    · exact .inl ⟨null, .inr isLoose⟩

/-- The inverse links of a list depend only on the `previous` links of its nodes
    after the first. -/
theorem back_congr {links links' : ι → DoubleLink ι}
    (chained : nodes.IsChain fun before node =>
      (links node).previous = some before ∨ loose ∧ (links node).previous = none)
    (agree : ∀ node ∈ nodes.tail, (links' node).previous = (links node).previous) :
    nodes.IsChain fun before node =>
      (links' node).previous = some before ∨ loose ∧ (links' node).previous = none := by
  refine chained.imp_of_mem_tail_imp fun before node _ member => ?_
  rw [agree node member]
  exact id

/-- Linking depends only on the start and on the links of the nodes held. -/
theorem Linked.congr {list' : LinkedList ι} (linked : Linked loose list nodes)
    (start : list'.start = list.start) (agree : ∀ node ∈ nodes, list'.links node = list.links node) :
    Linked loose list' nodes := by
  refine ⟨?_, ?_, ?_⟩
  · rw [start]
    exact linked.chain.congr fun node member => by rw [nextOf, agree node member]
  · intro node first
    rw [agree node (List.mem_of_mem_head? first)]
    exact linked.head node first
  · exact back_congr linked.back fun node member => by rw [agree node (List.mem_of_mem_tail member)]

/-- Every node of a list without lost links starts it or has a predecessor. -/
theorem Linked.attached (linked : Linked False list nodes) {node : ι} (member : node ∈ nodes) :
    list.start = some node ∨ (list.links node).previous ≠ none := by
  obtain ⟨front, back, rfl⟩ := List.append_of_mem member
  obtain ⟨-, first | lost⟩ | ⟨rest, before, rfl, link⟩ := linked.previous_eq
  · subst first
    exact .inl linked.chain.1
  · exact lost.elim
  · exact .inr (by simp [link])

/-! ## Order -/

/-- `first` comes before `second`: its key is smaller, or the keys are equal and
    it is older. -/
def Precedes {κ : Type} [LT κ] (key : ι → κ) (age : ι → Nat) (first second : ι) : Prop :=
  key first < key second ∨ key first = key second ∧ age first < age second

/-- An item younger than the others goes behind those of its own key, so a list
    that is split where its key belongs stays sorted around it. -/
theorem precedes_insert {κ : Type} [LinearOrder κ] {key key' : ι → κ} {age age' : ι → Nat}
    {leading trailing : List ι} (sorted : (leading ++ trailing).Pairwise (Precedes key age))
    (kept : ∀ node ∈ leading ++ trailing, key' node = key node ∧ age' node = age node)
    (younger : ∀ node ∈ leading, age node < age' item)
    (behind : ∀ node ∈ leading, ¬ key' item < key node)
    (ahead : ∀ node ∈ trailing.head?, key' item < key node) :
    (leading ++ item :: trailing).Pairwise (Precedes key' age') := by
  have transfer : ∀ first ∈ leading ++ trailing, ∀ second ∈ leading ++ trailing,
      Precedes key age first second → Precedes key' age' first second := by
    intro first memberFirst second memberSecond precedes
    rw [Precedes, (kept first memberFirst).1, (kept first memberFirst).2, (kept second memberSecond).1,
      (kept second memberSecond).2]
    exact precedes
  obtain ⟨sortedLeading, sortedTrailing, across⟩ := List.pairwise_append.mp sorted
  rw [List.pairwise_append, List.pairwise_cons]
  refine ⟨?_, ⟨?_, ?_⟩, ?_⟩
  · exact sortedLeading.imp_of_mem fun first second precedes =>
      transfer _ (by simp [first]) _ (by simp [second]) precedes
  · intro node member
    left
    rw [(kept node (by simp [member])).1]
    cases trailing with
    | nil => simp at member
    | cons head tail =>
      have above := ahead head rfl
      cases List.mem_cons.mp member with
      | inl isHead => rwa [isHead]
      | inr member =>
        -- the rest of the list comes behind its head, which is already ahead
        cases (List.pairwise_cons.mp sortedTrailing).1 node member with
        | inl smaller => exact lt_trans above smaller
        | inr equal => exact equal.1 ▸ above
  · exact sortedTrailing.imp_of_mem fun first second precedes =>
      transfer _ (by simp [first]) _ (by simp [second]) precedes
  · intro first memberFirst second memberSecond
    cases List.mem_cons.mp memberSecond with
    | inl isItem =>
      subst isItem
      rw [Precedes, (kept first (by simp [memberFirst])).1, (kept first (by simp [memberFirst])).2]
      cases lt_or_eq_of_le (not_lt.mp (behind first memberFirst)) with
      | inl smaller => exact .inl smaller
      | inr equal => exact .inr ⟨equal, younger first memberFirst⟩
    | inr memberSecond =>
      exact transfer _ (by simp [memberFirst]) _ (by simp [memberSecond])
        (across first memberFirst second memberSecond)

/-! ## Insertion -/

section Insertion

variable [DecidableEq ι]

theorem linked_insertBefore_head (linked : Linked loose list (current :: back))
    (fresh : item ∉ current :: back) :
    Linked loose { start := some item, links := listInsertBefore item current list.links }
      (item :: current :: back) := by
  obtain ⟨apart, absent⟩ : item ≠ current ∧ item ∉ back := by simpa using fresh
  have outside : current ∉ back := (List.nodup_cons.mp linked.chain.nodup).1
  have null : (list.links current).previous = none := linked.head current rfl
  have next := listInsertBefore_next list.links apart (by simp [null])
  have previous := listInsertBefore_previous list.links apart
  simp only [null, reduceCtorEq, ↓reduceIte] at next previous
  have rest : Chain (nextOf (listInsertBefore item current list.links)) list.start (current :: back) := by
    refine linked.chain.congr fun node member => ?_
    have notItem : node ≠ item := fun same => fresh (same ▸ member)
    simp [next, notItem]
  refine ⟨⟨rfl, by simp [next], rest.2⟩, ?_, ?_⟩
  · simp [previous, apart]
  · refine List.isChain_cons_cons.mpr ⟨.inl (by simp [previous]), back_congr linked.back ?_⟩
    intro node member
    have notCurrent : node ≠ current := fun same => outside (same ▸ member)
    have notItem : node ≠ item := fun same => absent (same ▸ member)
    simp [previous, notCurrent, notItem]

theorem linked_insertBefore_inner {before : ι}
    (linked : Linked loose list (front ++ before :: current :: back))
    (fresh : item ∉ front ++ before :: current :: back)
    (attached : (list.links current).previous = some before) :
    Linked loose { list with links := listInsertBefore item current list.links }
      (front ++ before :: item :: current :: back) := by
  have nodup := linked.chain.nodup
  obtain ⟨freshFront, notBefore, apart, freshBack⟩ :
      item ∉ front ∧ item ≠ before ∧ item ≠ current ∧ item ∉ back := by simpa using fresh
  have next := listInsertBefore_next list.links apart (by simp [attached, notBefore.symm])
  have previous := listInsertBefore_previous list.links apart
  simp only [attached, Option.some.injEq] at next previous
  -- Only the links beside the new item change.
  have sameNext : ∀ node ∈ front ++ current :: back,
      nextOf (listInsertBefore item current list.links) node = nextOf list.links node := by
    intro node member
    rw [nextOf, next, if_neg (by grind), if_neg (by grind)]
  have samePrevious : ∀ node ∈ front ++ before :: back,
      (listInsertBefore item current list.links node).previous = (list.links node).previous := by
    intro node member
    rw [previous, if_neg (by grind), if_neg (by grind)]
  have chain := linked.chain
  rw [List.append_cons] at chain
  obtain ⟨middle, leading, rfl, trailing⟩ := chain_append.mp chain
  refine ⟨?_, ?_, ?_⟩
  · rw [List.append_cons]
    refine chain_append.mpr ⟨some item, leading.redirect ?_ ?_, rfl, ?_, ?_⟩
    · exact fun node member => sameNext node (by simp [member])
    · simp [next, notBefore.symm]
    · simp [next]
    · change Chain _ (nextOf (listInsertBefore item current list.links) current) back
      rw [sameNext current (by simp)]
      exact Chain.congr trailing fun node member => sameNext node (by simp [member])
  · intro node first
    have member : node ∈ (front ++ before :: current :: back).head? := by cases front <;> simpa using first
    rw [samePrevious node (by cases front <;> simp_all)]
    exact linked.head node member
  · obtain ⟨leadingBack, -, trailingBack⟩ := List.isChain_append_cons_cons.mp linked.back
    refine List.isChain_append_cons_cons.mpr ⟨back_congr leadingBack ?_, .inl (by simp [previous, apart]), ?_⟩
    · intro node member
      exact samePrevious node (by have := List.mem_of_mem_tail member; grind)
    · refine List.isChain_cons_cons.mpr ⟨.inl (by simp [previous]), back_congr trailingBack ?_⟩
      exact fun node member => samePrevious node (by simp at member; simp [member])

theorem linked_insertAfter (linked : Linked loose list (front ++ [current]))
    (fresh : item ∉ front ++ [current]) :
    Linked loose { list with links := listInsertAfter item current list.links }
      (front ++ [current, item]) := by
  have nodup := linked.chain.nodup
  obtain ⟨freshFront, apart⟩ : item ∉ front ∧ item ≠ current := by simpa using fresh
  have last : (list.links current).next = none := Segment.last linked.chain
  have next := listInsertAfter_next list.links apart
  have previous := listInsertAfter_previous list.links apart
  simp only [last, reduceCtorEq, ↓reduceIte] at next previous
  have samePrevious : ∀ node ∈ front ++ [current],
      (listInsertAfter item current list.links node).previous = (list.links node).previous := by
    intro node member
    rw [previous, if_neg (by grind)]
  refine ⟨?_, ?_, ?_⟩
  · rw [List.append_cons]
    refine chain_append.mpr ⟨some item, Segment.redirect linked.chain ?_ (by simp [next]), rfl, ?_⟩
    · intro node member
      rw [nextOf, next, if_neg (by grind), if_neg (by grind)]
    · simp [next, apart]
  · intro node first
    have member : node ∈ (front ++ [current]).head? := by cases front <;> simpa using first
    rw [samePrevious node (List.mem_of_mem_head? member)]
    exact linked.head node member
  · refine List.isChain_append_cons_cons.mpr ⟨back_congr linked.back ?_, .inl (by simp [previous]), by simp⟩
    exact fun node member => samePrevious node (List.mem_of_mem_tail member)

/-- `ListInsertBefore` as the search loop calls it, at the start of the list or
    behind the node that `previous` leads to. -/
theorem linked_insertBefore (linked : Linked loose list (front ++ current :: back))
    (fresh : item ∉ front ++ current :: back)
    (attached : list.start = some current ∨ (list.links current).previous ≠ none) :
    Linked loose
      { start := if list.start = some current then some item else list.start
        links := listInsertBefore item current list.links }
      (front ++ item :: current :: back) := by
  obtain ⟨null, -⟩ | ⟨rest, before, rfl, link⟩ := linked.previous_eq
  · have first : list.start = some current := attached.resolve_right (absurd null)
    have headed := linked.chain.start_eq
    rw [first] at headed
    cases front with
    | nil => simpa [first] using linked_insertBefore_head linked fresh
    | cons node front =>
      have nodup := linked.chain.nodup
      simp_all
  · have inner := linked_insertBefore_inner (by simpa using linked) (by simpa using fresh) link
    have headed := linked.chain.start_eq
    have nodup := linked.chain.nodup
    have notFirst : list.start ≠ some current := by
      rw [headed]
      cases rest <;> simp_all [List.nodup_cons]
    simpa [notFirst] using inner

theorem insertBefore_frame (linked : Linked loose list (front ++ current :: back)) {node : ι}
    (fresh : item ∉ front ++ current :: back)
    (outside : node ∉ front ++ current :: back) (other : node ≠ item) :
    listInsertBefore item current list.links node = list.links node := by
  have apart : item ≠ current := fun same => fresh (by simp [same])
  have notCurrent : node ≠ current := fun same => outside (by simp [same])
  have within : ∀ link, (list.links current).previous = some link → link ∈ front := by
    intro link found
    obtain ⟨null, -⟩ | ⟨rest, before, rfl, here⟩ := linked.previous_eq
    · simp [null] at found
    · simp_all
  have detached : ∀ link, link ∉ front ++ current :: back → (list.links current).previous ≠ some link :=
    fun link absent found => absent (by simp [within link found])
  ext1
  · rw [listInsertBefore_next list.links apart (detached item fresh), if_neg other,
      if_neg (detached node outside)]
  · rw [listInsertBefore_previous list.links apart, if_neg notCurrent, if_neg other]

/-- The search loop puts `item` behind the nodes that `before` does not select
    and in front of the first one it selects.  In a loose list that node must
    have kept its `previous` link, unless the list starts with it. -/
theorem insertOrdered_linked (before : ι → Bool) (front rest : List ι) {fuel : Nat}
    (linked : Linked loose list (front ++ rest)) (fresh : item ∉ front ++ rest)
    (inhabited : rest ≠ []) (enough : rest.length ≤ fuel)
    (skipped : ∀ node ∈ front, before node = false)
    (attached : ∀ node ∈ rest.find? before,
      list.start = some node ∨ (list.links node).previous ≠ none) :
    ∃ list' leading trailing,
      insertOrdered before item fuel rest.head? list = some list' ∧
      leading ++ trailing = front ++ rest ∧
      (∀ node ∈ leading, before node = false) ∧ (∀ node ∈ trailing.head?, before node = true) ∧
      Linked loose list' (leading ++ item :: trailing) ∧
      ∀ node, node ∉ front ++ rest → node ≠ item → list'.links node = list.links node := by
  -- By induction on what is still to be walked; what has been is in front.
  induction rest generalizing front fuel with
  | nil => exact absurd rfl inhabited
  | cons current back ih =>
    obtain ⟨fuel, rfl⟩ : ∃ n, fuel = n + 1 := ⟨fuel - 1, by simp at enough; omega⟩
    simp only [List.head?_cons, insertOrdered]
    by_cases selected : before current = true
    · simp only [selected, ↓reduceIte]
      refine ⟨_, front, current :: back, rfl, rfl, skipped, by simpa using selected, ?_, ?_⟩
      · exact linked_insertBefore linked fresh (attached current (by simp [selected]))
      · exact fun node outside other => insertBefore_frame linked fresh outside other
    · -- The walk goes on, or the item is put behind the last one.
      have passed : before current = false := by simpa using selected
      simp only [passed, Bool.false_eq_true, ↓reduceIte]
      cases back with
      | nil =>
        have last : (list.links current).next = none := Segment.last linked.chain
        have apart : item ≠ current := fun same => fresh (by simp [same])
        simp only [last, ↓reduceIte]
        refine ⟨_, front ++ [current], [], rfl, by simp, ?_, by simp, ?_, ?_⟩
        · intro node member
          obtain member | member := List.mem_append.mp member
          · exact skipped node member
          · rw [List.mem_singleton.mp member, passed]
        · simpa using linked_insertAfter linked fresh
        · intro node outside other
          have notCurrent : node ≠ current := fun same => outside (by simp [same])
          ext1
          · rw [listInsertAfter_next list.links apart, if_neg notCurrent, if_neg other]
          · rw [listInsertAfter_previous list.links apart, if_neg (by simp [last]), if_neg other]
      | cons successor back =>
        obtain ⟨middle, -, -, here, -⟩ := chain_append.mp linked.chain
        have advance : (list.links current).next = some successor := here
        simp only [advance, reduceCtorEq, ↓reduceIte]
        have step := ih (front ++ [current]) (by simpa using linked) (by simpa using fresh)
          (by simp) (Nat.le_of_succ_le_succ enough)
          (by
            intro node member
            obtain member | member := List.mem_append.mp member
            · exact skipped node member
            · rw [List.mem_singleton.mp member, passed])
          (fun node found => attached node (by simpa [List.find?_cons, passed] using found))
        simpa using step

end Insertion

/-! ## Removal -/

section Removal

variable [DecidableEq ι]

/-- `ListRemove` on a node whose `previous` link is its predecessor. -/
theorem linked_remove_inner {before : ι} (linked : Linked loose list (front ++ before :: current :: back))
    (attached : (list.links current).previous = some before) :
    Linked loose { list with links := listRemove (list.links current) list.links }
      (front ++ before :: back) := by
  have nodup := linked.chain.nodup
  have next := listRemove_next (list.links current) list.links
  have previous := listRemove_previous (list.links current) list.links
  have chain := linked.chain
  rw [List.append_cons] at chain
  obtain ⟨middle, leading, rfl, trailing⟩ := chain_append.mp chain
  have following : (list.links current).next = back.head? := Chain.start_eq trailing
  simp only [attached, Option.some.injEq, following] at next previous
  -- Only the next one has another predecessor.
  have samePrevious : ∀ node, back.head? ≠ some node →
      (listRemove (list.links current) list.links node).previous = (list.links node).previous :=
    fun node notNext => by rw [previous, if_neg notNext]
  refine ⟨?_, ?_, ?_⟩
  · rw [List.append_cons]
    refine chain_append.mpr ⟨back.head?, leading.redirect ?_ (by simp [next]), ?_⟩
    · intro node member
      rw [nextOf, next, if_neg (by grind)]
    · have tail : Chain (nextOf list.links) back.head? back := following ▸ trailing
      exact tail.congr fun node member => by rw [nextOf, next, if_neg (by grind)]
  · intro node first
    have member : node ∈ (front ++ before :: current :: back).head? := by cases front <;> simpa using first
    have outside : back.head? ≠ some node := by
      intro later
      have := List.mem_of_mem_head? later
      cases front <;> simp_all
    rw [samePrevious node outside]
    exact linked.head node member
  · obtain ⟨leadingBack, -, trailingBack⟩ := List.isChain_append_cons_cons.mp linked.back
    refine List.isChain_split.mpr ⟨back_congr leadingBack fun node member => samePrevious node ?_, ?_⟩
    · have := List.mem_of_mem_tail member
      intro later
      have := List.mem_of_mem_head? later
      grind
    · cases back with
      | nil => simp
      | cons successor back =>
        refine List.isChain_cons_cons.mpr ⟨.inl (by simp [previous]), ?_⟩
        refine back_congr (List.isChain_cons_cons.mp trailingBack).2 fun node member => samePrevious node ?_
        simp only [List.tail_cons] at member
        simp only [List.head?_cons, ne_eq, Option.some.injEq]
        grind

/-- `ListRemove` on the first node, after the start was moved to its successor. -/
theorem linked_remove_head (linked : Linked loose list (current :: back)) :
    Linked loose
      { start := (list.links current).next
        links := listRemove (list.links current) list.links } back := by
  have nodup := linked.chain.nodup
  have next := listRemove_next (list.links current) list.links
  have previous := listRemove_previous (list.links current) list.links
  have null : (list.links current).previous = none := linked.head current rfl
  have following : (list.links current).next = back.head? := Chain.start_eq linked.chain.2
  simp only [null, reduceCtorEq, ↓reduceIte, following] at next previous
  refine ⟨?_, ?_, ?_⟩
  · exact Chain.congr linked.chain.2 fun node _ => next node
  · intro node first
    exact (previous node).trans (if_pos first)
  · refine back_congr (List.IsChain.tail linked.back) fun node member => ?_
    refine (previous node).trans (if_neg ?_)
    cases back with
    | nil => simp at member
    | cons successor back =>
      simp only [List.tail_cons] at member
      simp only [List.head?_cons, Option.some.injEq]
      grind

/-- `ListRemove` on a node whose `previous` link is null unlinks nothing: the
    node stays on the list and its successor loses its `previous` link. -/
theorem linked_remove_detached (linked : Linked True list (front ++ current :: back))
    (detached : (list.links current).previous = none) :
    Linked True { list with links := listRemove (list.links current) list.links }
      (front ++ current :: back) := by
  have next := listRemove_next (list.links current) list.links
  have previous := listRemove_previous (list.links current) list.links
  simp only [detached, reduceCtorEq, ↓reduceIte] at next previous
  have weaker : ∀ node target, (list.links node).previous = target ∨
      (list.links node).previous = none → (listRemove (list.links current) list.links node).previous = target ∨
        (listRemove (list.links current) list.links node).previous = none := by
    intro node target link
    rw [previous]
    split
    · exact .inr rfl
    · exact link
  refine ⟨linked.chain.congr fun node _ => next node, ?_, ?_⟩
  · intro node first
    simpa using weaker node none (.inl (linked.head node first))
  · refine linked.back.imp fun before node link => ?_
    simpa using weaker node (some before) (by simpa using link)

/-- `ListRemove` on a node of a list touches no node that is not on it. -/
theorem remove_frame (linked : Linked loose list (front ++ current :: back)) {node : ι}
    (outside : node ∉ front ++ current :: back) :
    listRemove (list.links current) list.links node = list.links node := by
  have notPrevious : (list.links current).previous ≠ some node := by
    obtain ⟨null, -⟩ | ⟨rest, before, rfl, here⟩ := linked.previous_eq
    · simp [null]
    · rw [here]
      grind
  have notNext : (list.links current).next ≠ some node := by
    obtain ⟨middle, -, rfl, trailing⟩ := chain_append.mp linked.chain
    have following : (list.links current).next = back.head? := Chain.start_eq trailing
    rw [following]
    intro found
    have := List.mem_of_mem_head? found
    grind
  ext1
  · rw [listRemove_next, if_neg notPrevious]
  · rw [listRemove_previous, if_neg notNext]

end Removal

end ComputerSystems.Verified
