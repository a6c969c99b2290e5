import Mathlib.Data.List.Chain
import Mathlib.Data.List.Nodup
import Mathlib.Logic.Function.Basic

/-! # Rings of links

A circular doubly linked list over an arbitrary type of nodes: `next` and `previous`
give each node its neighbours, if it has any.  `Ring next previous head nodes` says
that from `head` the links lead through `nodes`, in order, and back to `head`, and
that the two directions are inverse there.

`Rings` is a family of rings that share no node.  Unlinking a node and linking one in
before a head change one ring and leave the others (`Rings.unlink`, `Rings.append`).
The walks that a program makes along a ring end (`Ring.lastBefore`, `Ring.findOn`).
-/

namespace ComputerSystems.Data

variable {ι κ : Type*} {next next' previous previous' : ι → Option ι} {head : ι} {nodes : List ι}

/-- The two nodes are neighbours. -/
def Linked (next previous : ι → Option ι) (left right : ι) : Prop :=
  next left = some right ∧ previous right = some left

structure Ring (next previous : ι → Option ι) (head : ι) (nodes : List ι) : Prop where
  linked : (head :: (nodes ++ [head])).IsChain (Linked next previous)
  nodup : (head :: nodes).Nodup

/-- A head that is its own neighbour. -/
theorem Ring.single (forward : next head = some head) (backward : previous head = some head) :
    Ring next previous head [] where
  linked := by simp [Linked, forward, backward]
  nodup := by simp

/-- A chain of neighbours reads `next` of all nodes but the last and `previous` of all
    but the first. -/
theorem isChain_linked_congr {chain : List ι} (linked : chain.IsChain (Linked next previous))
    (forward : ∀ node ∈ chain.dropLast, next' node = next node)
    (backward : ∀ node ∈ chain.tail, previous' node = previous node) :
    chain.IsChain (Linked next' previous') := by
  induction chain with
  | nil => exact .nil
  | cons first rest ih =>
    cases rest with
    | nil => exact .singleton first
    | cons second rest =>
      rw [List.isChain_cons_cons] at linked ⊢
      obtain ⟨⟨here, there⟩, linked⟩ := linked
      refine ⟨⟨?_, ?_⟩, ih linked ?_ ?_⟩
      · rw [forward first (by simp), here]
      · rw [backward second (by simp), there]
      · intro node isIn
        exact forward node (by simp [isIn])
      · intro node isIn
        exact backward node (List.mem_cons_of_mem second isIn)

theorem Ring.congr (ring : Ring next previous head nodes)
    (forward : ∀ node ∈ head :: nodes, next' node = next node)
    (backward : ∀ node ∈ head :: nodes, previous' node = previous node) :
    Ring next' previous' head nodes where
  linked := by
    apply isChain_linked_congr ring.linked
    · intro node isIn
      rw [← List.cons_append, List.dropLast_concat] at isIn
      exact forward node isIn
    · intro node isIn
      exact backward node (by simpa [or_comm] using isIn)
  nodup := ring.nodup

/-- The neighbours of a node of the ring. -/
theorem Ring.neighbours {front back : List ι} {node : ι} (ring : Ring next previous head (front ++ node :: back)) :
    ∃ before after leading trailing, head :: front = leading ++ [before] ∧
      back ++ [head] = after :: trailing ∧
      (leading ++ [before]).IsChain (Linked next previous) ∧
      Linked next previous before node ∧ Linked next previous node after ∧
      (after :: trailing).IsChain (Linked next previous) := by
  obtain ⟨leading, before, isLeft⟩ : ∃ leading before, head :: front = leading ++ [before] :=
    ⟨_, _, (List.dropLast_concat_getLast (List.cons_ne_nil head front)).symm⟩
  obtain ⟨after, trailing, isRight⟩ : ∃ after trailing, back ++ [head] = after :: trailing := by
    cases back with
    | nil => exact ⟨head, [], rfl⟩
    | cons first rest => exact ⟨first, rest ++ [head], rfl⟩
  have whole : head :: (front ++ node :: back ++ [head]) = (leading ++ [before]) ++ node :: (after :: trailing) := by
    rw [← isLeft, ← isRight]
    simp
  have linked := ring.linked
  rw [whole, List.isChain_split] at linked
  obtain ⟨left, right⟩ := linked
  rw [List.append_assoc, List.singleton_append, List.isChain_append_cons_cons] at left
  rw [List.isChain_cons_cons] at right
  exact ⟨before, after, leading, trailing, isLeft, isRight, left.1, left.2.1, right.1, right.2⟩

/-- Unlinking a node by its own links. -/
theorem Ring.unlink {front back : List ι} {node : ι} (ring : Ring next previous head (front ++ node :: back))
    (forward : ∀ other, previous node ≠ some other → next' other = next other)
    (backward : ∀ other, next node ≠ some other → previous' other = previous other)
    (before : ∀ other, previous node = some other → next' other = next node)
    (after : ∀ other, next node = some other → previous' other = previous node) :
    Ring next' previous' head (front ++ back) := by
  obtain ⟨left, right, leading, trailing, isLeft, isRight, chainLeft, ⟨_, toLeft⟩, ⟨toRight, _⟩, chainRight⟩ :=
    ring.neighbours
  have nodup : (head :: (front ++ back)).Nodup := by
    have whole := ring.nodup
    rw [← List.cons_append] at whole ⊢
    exact (List.nodup_middle.mp whole).of_cons
  have nodupLeft : (leading ++ [left]).Nodup := by
    rw [← isLeft]
    exact nodup.sublist (List.sublist_append_left (head :: front) back)
  have nodupRight : (right :: trailing).Nodup := by
    rw [← isRight]
    have inner : (head :: back).Nodup := nodup.sublist (List.Sublist.cons_cons head (List.sublist_append_right front back))
    exact (List.perm_append_singleton head back).nodup_iff.mpr inner
  -- the part before the node keeps its links but for `next` of its last node
  have keepsLeft : (leading ++ [left]).IsChain (Linked next' previous') := by
    apply isChain_linked_congr chainLeft
    · intro other isIn
      apply forward
      rintro same
      rw [toLeft] at same
      rw [List.dropLast_concat] at isIn
      obtain rfl := Option.some.inj same
      exact (List.nodup_append.mp nodupLeft).2.2 left isIn left (by simp) rfl
    · intro other isIn
      apply backward
      intro same
      rw [toRight] at same
      obtain rfl := Option.some.inj same
      rw [← isLeft, List.tail_cons] at isIn
      have met : right ∈ back ++ [head] := by rw [isRight]; simp
      rw [List.nodup_cons, List.nodup_append] at nodup
      simp only [List.mem_append, List.mem_singleton] at met
      cases met with
      | inl inBack => exact nodup.2.2.2 right isIn right inBack rfl
      | inr isHead => exact nodup.1 (by simp [← isHead, isIn])
  have keepsRight : (right :: trailing).IsChain (Linked next' previous') := by
    apply isChain_linked_congr chainRight
    · intro other isIn
      apply forward
      intro same
      rw [toLeft] at same
      obtain rfl := Option.some.inj same
      rw [← isRight, List.dropLast_concat] at isIn
      have met : left ∈ head :: front := by rw [isLeft]; simp
      rw [← List.cons_append, List.nodup_append] at nodup
      exact nodup.2.2 left met left isIn rfl
    · intro other isIn
      apply backward
      intro same
      rw [toRight] at same
      obtain rfl := Option.some.inj same
      exact (List.nodup_cons.mp nodupRight).1 isIn
  refine ⟨?_, nodup⟩
  rw [List.append_assoc, ← List.cons_append, isLeft, isRight, List.append_assoc, List.singleton_append,
    List.isChain_append_cons_cons]
  refine ⟨keepsLeft, ⟨?_, ?_⟩, keepsRight⟩
  · rw [before left toLeft, toRight]
  · rw [after right toRight, toLeft]

/-- The node before the head. -/
theorem Ring.last (ring : Ring next previous head nodes) :
    Linked next previous ((head :: nodes).getLast (List.cons_ne_nil head nodes)) head := by
  have linked := ring.linked
  rw [← List.cons_append, ← List.dropLast_concat_getLast (List.cons_ne_nil head nodes), List.append_assoc,
    List.singleton_append, List.isChain_append_cons_cons] at linked
  exact linked.2.1

/-- Linking `item` in between the last node and the head. -/
theorem Ring.append {item last : ι} (ring : Ring next previous head nodes)
    (isLast : (head :: nodes).getLast (List.cons_ne_nil head nodes) = last) (fresh : item ∉ head :: nodes)
    (forward : ∀ other ∈ head :: nodes, other ≠ last → next' other = next other)
    (backward : ∀ other ∈ nodes, previous' other = previous other)
    (into : Linked next' previous' last item) (back : Linked next' previous' item head) :
    Ring next' previous' head (nodes ++ [item]) := by
  have nodup : (head :: (nodes ++ [item])).Nodup := by
    rw [← List.cons_append]
    refine List.nodup_append.mpr ⟨ring.nodup, List.nodup_singleton item, ?_⟩
    rintro node isIn other isItem rfl
    exact fresh (List.mem_singleton.mp isItem ▸ isIn)
  have split := List.dropLast_concat_getLast (List.cons_ne_nil head nodes)
  rw [isLast] at split
  have keeps : ((head :: nodes).dropLast ++ [last]).IsChain (Linked next' previous') := by
    have linked := ring.linked
    rw [← List.cons_append, ← split, List.append_assoc, List.singleton_append, List.isChain_append_cons_cons] at linked
    apply isChain_linked_congr linked.1
    · intro node isIn
      rw [List.dropLast_concat] at isIn
      apply forward node (List.dropLast_subset _ isIn)
      rintro rfl
      have apart := ring.nodup
      rw [← split] at apart
      exact (List.nodup_append.mp apart).2.2 node isIn node (by simp) rfl
    · intro node isIn
      rw [split, List.tail_cons] at isIn
      exact backward node isIn
  refine ⟨?_, nodup⟩
  rw [← List.cons_append, ← List.cons_append, ← split, List.append_assoc, List.append_assoc]
  simp only [List.cons_append, List.nil_append, List.isChain_append_cons_cons, List.isChain_cons_cons]
  exact ⟨keeps, into, back, .singleton head⟩

/-! ## Walks -/

/-- The last node on the way from `node` to `head`, or to the end of the links;
    nothing where the walk makes more than `fuel` steps. -/
def lastBefore [DecidableEq ι] (next : ι → Option ι) (head : ι) : Nat → ι → Option ι
  | 0, _ => none
  | fuel + 1, node =>
    match next node with
    | none => some node
    | some after => if after = head then some node else lastBefore next head fuel after

/-- The first node before `head` or the end of the links that `select` takes, if there
    is one; nothing where the walk makes more than `fuel` steps. -/
def findOn [DecidableEq ι] (next : ι → Option ι) (head : ι) (select : ι → Bool) :
    Nat → Option ι → Option (Option ι)
  | _, none => some none
  | 0, some _ => none
  | fuel + 1, some node =>
    if node = head then some none
    else if select node then some (some node)
    else findOn next head select fuel (next node)

section Walks

variable [DecidableEq ι] {fuel : Nat}

theorem lastBefore_chain {node : ι} (linked : (node :: (nodes ++ [head])).IsChain (Linked next previous))
    (apart : head ∉ nodes) (enough : nodes.length < fuel) :
    lastBefore next head fuel node = some ((node :: nodes).getLast (List.cons_ne_nil node nodes)) := by
  induction nodes generalizing node fuel with
  | nil =>
    obtain ⟨fuel, rfl⟩ : ∃ rest, fuel = rest + 1 := ⟨fuel - 1, by simp at enough; omega⟩
    have here := (List.isChain_cons_cons.mp linked).1.1
    simp [lastBefore, here]
  | cons after nodes ih =>
    obtain ⟨fuel, rfl⟩ : ∃ rest, fuel = rest + 1 := ⟨fuel - 1, by simp at enough; omega⟩
    obtain ⟨⟨here, _⟩, linked⟩ := List.isChain_cons_cons.mp linked
    have other : after ≠ head := fun same => apart (by simp [same])
    have rest := ih linked (fun isIn => apart (List.mem_cons_of_mem after isIn)) (by simpa using enough)
    rw [lastBefore, here]
    simp only [other, if_false, rest, List.getLast_cons (List.cons_ne_nil after nodes)]

/-- The walk around a ring ends at its last node. -/
theorem Ring.lastBefore (ring : Ring next previous head nodes) (enough : nodes.length < fuel) :
    lastBefore next head fuel head = some ((head :: nodes).getLast (List.cons_ne_nil head nodes)) :=
  lastBefore_chain ring.linked (List.nodup_cons.mp ring.nodup).1 enough

/-- Whatever the links are, a search finds what it selects. -/
theorem findOn_selects {select : ι → Bool} {start : Option ι} {found : ι}
    (finds : findOn next head select fuel start = some (some found)) : select found = true := by
  induction fuel generalizing start with
  | zero => cases start <;> simp [findOn] at finds
  | succ fuel ih =>
    cases start with
    | none => simp [findOn] at finds
    | some node =>
      rw [findOn] at finds
      split at finds
      · simp at finds
      · split at finds
        next selected =>
          obtain rfl : node = found := by simpa using finds
          exact selected
        · exact ih finds

theorem findOn_chain {select : ι → Bool} {node : ι}
    (linked : (node :: (nodes ++ [head])).IsChain (Linked next previous)) (apart : head ∉ nodes)
    (enough : nodes.length < fuel) :
    findOn next head select fuel (next node) = some (nodes.find? select) := by
  induction nodes generalizing node fuel with
  | nil =>
    obtain ⟨fuel, rfl⟩ : ∃ rest, fuel = rest + 1 := ⟨fuel - 1, by simp at enough; omega⟩
    have here := (List.isChain_cons_cons.mp linked).1.1
    simp [findOn, here]
  | cons after nodes ih =>
    obtain ⟨fuel, rfl⟩ : ∃ rest, fuel = rest + 1 := ⟨fuel - 1, by simp at enough; omega⟩
    obtain ⟨⟨here, _⟩, linked⟩ := List.isChain_cons_cons.mp linked
    have other : after ≠ head := fun same => apart (by simp [same])
    have rest := ih linked (fun isIn => apart (List.mem_cons_of_mem after isIn)) (by simpa using enough)
    rw [here, findOn, if_neg other, List.find?_cons]
    cases select after with
    | true => rfl
    | false => exact rest

/-- The search around a ring ends, and finds what a search of its nodes finds. -/
theorem Ring.findOn (ring : Ring next previous head nodes) (select : ι → Bool) (enough : nodes.length < fuel) :
    findOn next head select fuel (next head) = some (nodes.find? select) :=
  findOn_chain ring.linked (List.nodup_cons.mp ring.nodup).1 enough

end Walks

/-! ## Families of rings -/

/-- Rings that share no node, one for every `κ`. -/
structure Rings (next previous : ι → Option ι) (heads : κ → ι) (contents : κ → List ι) : Prop where
  ring : ∀ key, Ring next previous (heads key) (contents key)
  apart : ∀ {key other node}, node ∈ heads key :: contents key → node ∈ heads other :: contents other →
    key = other

namespace Rings

variable {heads : κ → ι} {contents : κ → List ι} {key : κ} {node : ι}

/-- Unlinking a node by its own links takes it out of its ring. -/
theorem unlink [DecidableEq κ] [DecidableEq ι] (rings : Rings next previous heads contents) (isIn : node ∈ contents key)
    (forward : ∀ other, next' other = if previous node = some other then next node else next other)
    (backward : ∀ other, previous' other = if next node = some other then previous node else previous other) :
    Rings next' previous' heads (Function.update contents key ((contents key).erase node)) := by
  obtain ⟨front, back, split⟩ := List.append_of_mem isIn
  have whole := rings.ring key
  rw [split] at whole
  have erased : (contents key).erase node = front ++ back := by
    have fresh : node ∉ front := by
      have nodup := whole.nodup.of_cons
      intro isIn
      exact (List.nodup_append.mp nodup).2.2 node isIn node (by simp) rfl
    rw [split, List.erase_append_right _ fresh, List.erase_cons_head]
  obtain ⟨left, right, leading, trailing, isLeft, isRight, _, ⟨_, toLeft⟩, ⟨toRight, _⟩, _⟩ := whole.neighbours
  -- The neighbours are on the same ring, so that the links of the others stay.
  have leftHere : left ∈ heads key :: contents key := by
    have met : left ∈ heads key :: front := by rw [isLeft]; simp
    rw [split]
    simp only [List.mem_cons, List.mem_append] at met ⊢
    tauto
  have rightHere : right ∈ heads key :: contents key := by
    have met : right ∈ back ++ [heads key] := by rw [isRight]; simp
    rw [split]
    simp only [List.mem_cons, List.mem_append, List.not_mem_nil, or_false] at met ⊢
    tauto
  constructor
  · intro other
    by_cases same : other = key
    · subst same
      rw [Function.update_self, erased]
      apply whole.unlink
      · intro node apart
        rw [forward, if_neg apart]
      · intro node apart
        rw [backward, if_neg apart]
      · intro node same
        rw [forward, if_pos same]
      · intro node same
        rw [backward, if_pos same]
    · rw [Function.update_of_ne same]
      apply (rings.ring other).congr
      · intro met isIn
        rw [forward, if_neg]
        rintro isLeft
        rw [toLeft] at isLeft
        exact same (rings.apart isIn (Option.some.inj isLeft ▸ leftHere))
      · intro met isIn
        rw [backward, if_neg]
        rintro isRight
        rw [toRight] at isRight
        exact same (rings.apart isIn (Option.some.inj isRight ▸ rightHere))
  · intro first second met here there
    have shrinks : ∀ other, Function.update contents key ((contents key).erase node) other ⊆ contents other := by
      intro other
      by_cases same : other = key
      · subst same
        rw [Function.update_self]
        exact List.erase_subset
      · rw [Function.update_of_ne same]
        exact List.Subset.refl _
    exact rings.apart (List.cons_subset_cons _ (shrinks first) here)
      (List.cons_subset_cons _ (shrinks second) there)

/-- Linking a new node in before the head of a ring. -/
theorem append [DecidableEq κ] [DecidableEq ι] {item last : ι} (rings : Rings next previous heads contents)
    (fresh : ∀ other, item ∉ heads other :: contents other)
    (isLast : (heads key :: contents key).getLast (List.cons_ne_nil _ _) = last)
    (forward : ∀ other, next' other =
      if other = last then some item else if other = item then next last else next other)
    (backward : ∀ other, previous' other =
      if next last = some other then some item else if other = item then some last else previous other) :
    Rings next' previous' heads (Function.update contents key (contents key ++ [item])) := by
  have lastHere : last ∈ heads key :: contents key := isLast ▸ List.getLast_mem _
  have closes : next last = some (heads key) := by
    rw [← isLast]
    exact (rings.ring key).last.1
  have other_item : ∀ other node, node ∈ heads other :: contents other → node ≠ item := by
    rintro other node isIn rfl
    exact fresh other isIn
  -- Only the ring of the key grows, and the links of the others are not among those that change.
  constructor
  · intro other
    by_cases same : other = key
    · subst same
      rw [Function.update_self]
      apply (rings.ring other).append isLast (fresh other)
      · intro node isIn apart
        rw [forward, if_neg apart, if_neg (other_item other node isIn)]
      · intro node isIn
        have inside := List.mem_cons_of_mem (heads other) isIn
        rw [backward, if_neg, if_neg (other_item other node inside)]
        rw [closes]
        rintro isHead
        have nodup := (rings.ring other).nodup
        rw [Option.some.inj isHead] at nodup
        exact (List.nodup_cons.mp nodup).1 isIn
      · refine ⟨by rw [forward, if_pos rfl], ?_⟩
        rw [backward, if_neg, if_pos rfl]
        rw [closes]
        rintro isHead
        exact fresh other (by simp [Option.some.inj isHead])
      · refine ⟨?_, by rw [backward, if_pos closes]⟩
        rw [forward, if_neg (other_item other last lastHere).symm, if_pos rfl, closes]
    · rw [Function.update_of_ne same]
      apply (rings.ring other).congr
      · intro node isIn
        rw [forward, if_neg, if_neg (other_item other node isIn)]
        rintro rfl
        exact same (rings.apart isIn lastHere)
      · intro node isIn
        rw [backward, if_neg, if_neg (other_item other node isIn)]
        rw [closes]
        rintro isHead
        exact same (rings.apart isIn (by simp [Option.some.inj isHead]))
  · -- A node that two rings share has been shared before, or is the new one.
    intro first second met here there
    have grows : ∀ other, met ∈ heads other :: Function.update contents key (contents key ++ [item]) other →
        met ∈ heads other :: contents other ∨ (met = item ∧ other = key) := by
      intro other isIn
      by_cases same : other = key
      · subst same
        simp only [Function.update_self, List.mem_cons, List.mem_append, List.not_mem_nil, or_false] at isIn ⊢
        tauto
      · rw [Function.update_of_ne same] at isIn
        exact .inl isIn
    cases grows first here with
    | inl before =>
      cases grows second there with
      | inl after => exact rings.apart before after
      | inr after => exact absurd (after.1 ▸ before) (fresh first)
    | inr before =>
      cases grows second there with
      | inl after => exact absurd (before.1 ▸ after) (fresh second)
      | inr after => exact before.2.trans after.2.symm

end Rings

end ComputerSystems.Data
