import ComputerSystems.System.DoubleLink

/-! # Lists that stay among some nodes

Links that do not lead out of a set of nodes: the list functions of `system.h` keep them there
when they are called with nodes of the set, also where the lists are no longer what they should
be.  So they neither read nor write the links of other nodes.
-/

namespace ComputerSystems.Verified

open ComputerSystems.Data ComputerSystems.System

variable {ι : Type} [DecidableEq ι] {inside keep : ι → Prop} [DecidablePred keep]
variable {links others : ι → DoubleLink ι} {item current node : ι}

/-- The links of these nodes lead to these nodes only. -/
structure Closed (inside : ι → Prop) (links : ι → DoubleLink ι) : Prop where
  next : ∀ {node after}, inside node → (links node).next = some after → inside after
  previous : ∀ {node before}, inside node → (links node).previous = some before → inside before

/-- The links of the nodes that are kept, and others for the rest. -/
def mixLinks (keep : ι → Prop) [DecidablePred keep] (others links : ι → DoubleLink ι) : ι → DoubleLink ι :=
  fun node => if keep node then links node else others node

omit [DecidableEq ι] in
theorem mixLinks_kept (kept : keep node) : mixLinks keep others links node = links node := if_pos kept

/-! ## Walks -/

section Walks

variable {next next' : ι → Option ι} {head : ι} {select select' : ι → Bool} {fuel : Nat} {last found : ι}

theorem lastBefore_inside (closed : ∀ {node after}, inside node → next node = some after → inside after)
    (start : inside node) (ends : lastBefore next head fuel node = some last) : inside last := by
  induction fuel generalizing node with
  | zero => cases ends
  | succ fuel ih =>
    rw [lastBefore] at ends
    split at ends
    · obtain rfl : node = last := Option.some.inj ends
      exact start
    next after isNext =>
      split at ends
      · obtain rfl : node = last := Option.some.inj ends
        exact start
      · exact ih (closed start isNext) ends

theorem lastBefore_congr_inside (closed : ∀ {node after}, inside node → next node = some after → inside after)
    (same : ∀ {node}, inside node → next' node = next node) (start : inside node) :
    lastBefore next' head fuel node = lastBefore next head fuel node := by
  induction fuel generalizing node with
  | zero => rfl
  | succ fuel ih =>
    rw [lastBefore, lastBefore, same start]
    cases isNext : next node with
    | none => rfl
    | some after => simp only [ih (closed start isNext)]

theorem findOn_inside (closed : ∀ {node after}, inside node → next node = some after → inside after)
    {start : Option ι} (begins : ∀ node, start = some node → inside node)
    (finds : findOn next head select fuel start = some (some found)) : inside found := by
  induction fuel generalizing start with
  | zero => cases start <;> cases finds
  | succ fuel ih =>
    cases start with
    | none => cases finds
    | some node =>
      have here := begins node rfl
      rw [findOn] at finds
      split at finds
      · cases finds
      · split at finds
        · obtain rfl : node = found := Option.some.inj (Option.some.inj finds)
          exact here
        · exact ih (fun after isNext => closed here isNext) finds

theorem findOn_congr_inside (closed : ∀ {node after}, inside node → next node = some after → inside after)
    (same : ∀ {node}, inside node → next' node = next node) (selects : ∀ {node}, inside node → select' node = select node)
    {start : Option ι} (begins : ∀ node, start = some node → inside node) :
    findOn next' head select' fuel start = findOn next head select fuel start := by
  induction fuel generalizing start with
  | zero => cases start <;> rfl
  | succ fuel ih =>
    cases start with
    | none => rfl
    | some node =>
      have here := begins node rfl
      rw [findOn, findOn, same here, selects here, ih fun after isNext => closed here isNext]

end Walks

/-! ## Links that are set -/

theorem setNext_mix (kept : keep node) (target : Option ι) :
    setNext node target (mixLinks keep others links) = mixLinks keep others (setNext node target links) := by
  funext other
  by_cases same : other = node
  · subst same
    simp [setNext, mixLinks, kept]
  · simp [setNext, mixLinks, Function.update_of_ne same]

theorem setPrevious_mix (kept : keep node) (target : Option ι) :
    setPrevious node target (mixLinks keep others links) = mixLinks keep others (setPrevious node target links) := by
  funext other
  by_cases same : other = node
  · subst same
    simp [setPrevious, mixLinks, kept]
  · simp [setPrevious, mixLinks, Function.update_of_ne same]

theorem update_mix (kept : keep node) (value : DoubleLink ι) :
    Function.update (mixLinks keep others links) node value = mixLinks keep others (Function.update links node value) := by
  funext other
  by_cases same : other = node
  · subst same
    simp [mixLinks, kept]
  · simp [mixLinks, Function.update_of_ne same]

theorem Closed.setNext (closed : Closed inside links) {target : Option ι} (leads : ∀ after, target = some after → inside after) :
    Closed inside (System.setNext node target links) where
  next {other after} isIn isNext := by
    rw [setNext_next] at isNext
    split at isNext
    · exact leads after isNext
    · exact closed.next isIn isNext
  previous {other before} isIn isPrevious := by
    rw [setNext_previous] at isPrevious
    exact closed.previous isIn isPrevious

theorem Closed.setPrevious (closed : Closed inside links) {target : Option ι}
    (leads : ∀ before, target = some before → inside before) : Closed inside (System.setPrevious node target links) where
  next {other after} isIn isNext := by
    rw [setPrevious_next] at isNext
    exact closed.next isIn isNext
  previous {other before} isIn isPrevious := by
    rw [setPrevious_previous] at isPrevious
    split at isPrevious
    · exact leads before isPrevious
    · exact closed.previous isIn isPrevious

/-- A node whose links are cleared. -/
theorem Closed.clear (closed : Closed inside links) : Closed inside (Function.update links node {}) where
  next {other after} isIn isNext := by
    by_cases same : other = node
    · rw [same, Function.update_self] at isNext
      cases isNext
    · rw [Function.update_of_ne same] at isNext
      exact closed.next isIn isNext
  previous {other before} isIn isPrevious := by
    by_cases same : other = node
    · rw [same, Function.update_self] at isPrevious
      cases isPrevious
    · rw [Function.update_of_ne same] at isPrevious
      exact closed.previous isIn isPrevious

/-! ## The list functions -/

theorem Closed.listRemove (closed : Closed inside links) {item : DoubleLink ι}
    (after : ∀ node, item.next = some node → inside node) (before : ∀ node, item.previous = some node → inside node) :
    Closed inside (System.listRemove item links) := by
  rw [System.listRemove]
  split
  · split
    · exact (closed.setNext after).setPrevious before
    · exact closed.setNext after
  · split
    · exact closed.setPrevious (by simp)
    · exact closed

theorem listRemove_mix {item : DoubleLink ι} (after : ∀ node, item.next = some node → keep node)
    (before : ∀ node, item.previous = some node → keep node) :
    listRemove item (mixLinks keep others links) = mixLinks keep others (listRemove item links) := by
  cases isPrevious : item.previous with
  | none =>
    cases isNext : item.next with
    | none => simp only [listRemove, isPrevious, isNext]
    | some node => simp only [listRemove, isPrevious, isNext, setPrevious_mix (after node isNext)]
  | some node =>
    cases isNext : item.next with
    | none => simp only [listRemove, isPrevious, isNext, setNext_mix (before node isPrevious)]
    | some behind =>
      simp only [listRemove, isPrevious, isNext, setNext_mix (before node isPrevious), setPrevious_mix (after behind isNext)]

/-- The nodes with one more. -/
def WithNode (inside : ι → Prop) (item : ι) (node : ι) : Prop := inside node ∨ node = item

/-- The links of a node that is inserted, before those of its neighbours are set. -/
def attachAfter (item current : ι) (links : ι → DoubleLink ι) : ι → DoubleLink ι :=
  setNext current (some item) (setPrevious item (some current) (setNext item (links current).next links))

theorem Closed.attachAfter (closed : Closed inside links) (isIn : inside current) :
    Closed (WithNode inside item) (attachAfter item current links) := by
  refine Closed.setNext ?_ fun _ same => .inr (Option.some.inj same).symm
  constructor
  · intro node after isNode isNext
    rw [setPrevious_next, setNext_next] at isNext
    split at isNext
    · exact .inl (closed.next isIn isNext)
    next other => exact .inl (closed.next (isNode.resolve_right other) isNext)
  · intro node before isNode isPrevious
    rw [setPrevious_previous] at isPrevious
    split at isPrevious
    · exact .inl (Option.some.inj isPrevious ▸ isIn)
    next other =>
      rw [setNext_previous] at isPrevious
      exact .inl (closed.previous (isNode.resolve_right other) isPrevious)

theorem Closed.insertAfter (closed : Closed inside links) (isIn : inside current) :
    Closed (WithNode inside item) (listInsertAfter item current links) := by
  have attached : Closed (WithNode inside item) (Verified.attachAfter item current links) := closed.attachAfter isIn
  simp only [listInsertAfter]
  split
  · exact attached.setPrevious fun _ same => .inr (Option.some.inj same).symm
  · exact attached

theorem listInsertAfter_mix (closed : Closed inside links) (isIn : inside current) (keeps : ∀ node, inside node → keep node)
    (kept : keep item) :
    listInsertAfter item current (mixLinks keep others links) = mixLinks keep others (listInsertAfter item current links) := by
  have attached : Closed (WithNode inside item) (attachAfter item current links) := closed.attachAfter isIn
  have same : ∀ links, mixLinks keep others links item = links item := fun _ => mixLinks_kept kept
  simp only [listInsertAfter, mixLinks_kept (keeps current isIn), setNext_mix kept, setPrevious_mix kept,
    setNext_mix (keeps current isIn), same]
  split
  next node isNext =>
    rw [setPrevious_mix]
    cases attached.next (.inr rfl) isNext with
    | inl isIn => exact keeps node isIn
    | inr isItem => exact isItem ▸ kept
  · rfl

variable {fuel : Nat} {list : ι} {links' : ι → DoubleLink ι}

theorem Closed.append (closed : Closed inside links) (isIn : inside list)
    (appends : listAppend fuel item list links = some links') : Closed (WithNode inside item) links' := by
  obtain ⟨last, walk, rfl⟩ := Option.map_eq_some_iff.mp appends
  exact closed.insertAfter (lastBefore_inside closed.next isIn walk)

theorem listAppend_mix (closed : Closed inside links) (isIn : inside list) (keeps : ∀ node, inside node → keep node)
    (kept : keep item) :
    listAppend fuel item list (mixLinks keep others links) = (listAppend fuel item list links).map (mixLinks keep others) := by
  have walk : lastBefore (fun node => (mixLinks keep others links node).next) list fuel list =
      lastBefore (fun node => (links node).next) list fuel list := by
    apply lastBefore_congr_inside closed.next _ isIn
    intro node isNode
    rw [mixLinks_kept (keeps node isNode)]
  rw [listAppend, listAppend, walk, Option.map_map]
  cases ends : lastBefore (fun node => (links node).next) list fuel list with
  | none => rfl
  | some last =>
    have inserted := @listInsertAfter_mix _ _ _ _ _ links others item last closed
      (lastBefore_inside closed.next isIn ends) keeps kept
    simp only [Option.map_some, Function.comp, inserted]

end ComputerSystems.Verified
