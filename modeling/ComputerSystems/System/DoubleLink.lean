import ComputerSystems.Data.Chain
import ComputerSystems.Data.Ring

/-! # The double linked list functions

`struct double_link` of `system.h` and its inline functions, over an arbitrary
type `ι` of nodes.  A node's links are embedded in the structure it belongs to;
here they are a map `ι → DoubleLink ι`, and a null pointer is `none`.  Each
function performs the assignments of the source one after the other, so that the
cases in which two of its pointers are the same node come out as in the source.
-/

namespace ComputerSystems.System

open ComputerSystems.Data

/-- `struct double_link`. -/
@[ext]
structure DoubleLink (ι : Type) where
  next : Option ι := none
  previous : Option ι := none
deriving DecidableEq

/-- A list threaded through the nodes: the global that holds its first node, and
    the links of every node. -/
structure LinkedList (ι : Type) where
  start : Option ι
  links : ι → DoubleLink ι

variable {ι : Type} [DecidableEq ι]

/-- `node->next = target`. -/
def setNext (node : ι) (target : Option ι) (links : ι → DoubleLink ι) : ι → DoubleLink ι :=
  Function.update links node { links node with next := target }

/-- `node->previous = target`. -/
def setPrevious (node : ι) (target : Option ι) (links : ι → DoubleLink ι) : ι → DoubleLink ι :=
  Function.update links node { links node with previous := target }

/-- `ListInsertAfter`: insert after a list element. -/
def listInsertAfter (item current : ι) (links : ι → DoubleLink ι) : ι → DoubleLink ι :=
  let links := setNext item (links current).next links
  let links := setPrevious item (some current) links
  let links := setNext current (some item) links
  match (links item).next with
  | some node => setPrevious node (some item) links
  | none => links

/-- `ListInsertBefore`: insert before a list element. -/
def listInsertBefore (item current : ι) (links : ι → DoubleLink ι) : ι → DoubleLink ι :=
  let links := setNext item (some current) links
  let links := setPrevious item (links current).previous links
  let links := setPrevious current (some item) links
  match (links item).previous with
  | some node => setNext node (some item) links
  | none => links

/-- `ListRemove`: remove from a list.  The argument is a copy of the item's
    links, so the item keeps its own. -/
def listRemove (item : DoubleLink ι) (links : ι → DoubleLink ι) : ι → DoubleLink ι :=
  match item.previous with
  | some before =>
    let links := setNext before item.next links
    match item.next with
    | some after => setPrevious after item.previous links
    | none => links
  | none =>
    match item.next with
    | some after => setPrevious after none links
    | none => links

/-- `ListAppend`: append to the end of a list, `NULL` ending or circular.  `none` stands
    for a walk that makes more than `fuel` steps. -/
def listAppend (fuel : Nat) (item list : ι) (links : ι → DoubleLink ι) : Option (ι → DoubleLink ι) :=
  (lastBefore (fun node => (links node).next) list fuel list).map fun last => listInsertAfter item last links

/-- The search loop of `TaskNew` and `TimerSchedule`: walk the list and insert
    `item` before the first node that `before` selects, else after the last one.
    `none` stands for a walk that makes more than `fuel` steps. -/
def insertOrdered (before : ι → Bool) (item : ι) :
    Nat → Option ι → LinkedList ι → Option (LinkedList ι)
  | _, none, list => some list
  | 0, some _, _ => none
  | fuel + 1, some current, list =>
    if before current then
      some { start := if list.start = some current then some item else list.start
             links := listInsertBefore item current list.links }
    else if (list.links current).next = none then
      some { list with links := listInsertAfter item current list.links }
    else
      insertOrdered before item fuel (list.links current).next list

/-! ## Reading the links back -/

@[simp] theorem setNext_next (node other : ι) (target : Option ι) (links : ι → DoubleLink ι) :
    (setNext node target links other).next = if other = node then target else (links other).next := by
  by_cases same : other = node <;> simp [setNext, same]

@[simp] theorem setNext_previous (node other : ι) (target : Option ι) (links : ι → DoubleLink ι) :
    (setNext node target links other).previous = (links other).previous := by
  by_cases same : other = node <;> simp [setNext, same]

@[simp] theorem setPrevious_next (node other : ι) (target : Option ι) (links : ι → DoubleLink ι) :
    (setPrevious node target links other).next = (links other).next := by
  by_cases same : other = node <;> simp [setPrevious, same]

@[simp] theorem setPrevious_previous (node other : ι) (target : Option ι) (links : ι → DoubleLink ι) :
    (setPrevious node target links other).previous =
      if other = node then target else (links other).previous := by
  by_cases same : other = node <;> simp [setPrevious, same]

theorem listInsertBefore_next {item current : ι} (links : ι → DoubleLink ι) (apart : item ≠ current)
    (detached : (links current).previous ≠ some item) (node : ι) :
    (listInsertBefore item current links node).next =
      if node = item then some current
      else if (links current).previous = some node then some item
      else (links node).next := by
  cases previous : (links current).previous with
  | none => simp [listInsertBefore, previous, apart]
  | some before =>
    have other : item ≠ before := by rintro rfl; exact detached previous
    simp only [listInsertBefore, previous, apart, setNext_next, setNext_previous,
      setPrevious_next, setPrevious_previous, ↓reduceIte, Option.some.injEq]
    by_cases isBefore : node = before
    · simp [isBefore, other.symm]
    · simp [isBefore, Ne.symm isBefore]

theorem listInsertBefore_previous {item current : ι} (links : ι → DoubleLink ι)
    (apart : item ≠ current) (node : ι) :
    (listInsertBefore item current links node).previous =
      if node = current then some item
      else if node = item then (links current).previous
      else (links node).previous := by
  cases previous : (links current).previous with
  | none => simp [listInsertBefore, previous, apart]
  | some before => simp [listInsertBefore, previous, apart]

theorem listInsertAfter_next {item current : ι} (links : ι → DoubleLink ι) (apart : item ≠ current)
    (node : ι) :
    (listInsertAfter item current links node).next =
      if node = current then some item
      else if node = item then (links current).next
      else (links node).next := by
  cases next : (links current).next with
  | none => simp [listInsertAfter, next, apart]
  | some after => simp [listInsertAfter, next, apart]

theorem listInsertAfter_previous {item current : ι} (links : ι → DoubleLink ι) (apart : item ≠ current)
    (node : ι) :
    (listInsertAfter item current links node).previous =
      if (links current).next = some node then some item
      else if node = item then some current
      else (links node).previous := by
  cases next : (links current).next with
  | none => simp [listInsertAfter, next, apart]
  | some after => simp [listInsertAfter, next, apart, eq_comm]

theorem listRemove_next (item : DoubleLink ι) (links : ι → DoubleLink ι) (node : ι) :
    (listRemove item links node).next =
      if item.previous = some node then item.next else (links node).next := by
  obtain ⟨next, previous⟩ := item
  cases previous <;> cases next <;> simp [listRemove, eq_comm]

theorem listRemove_previous (item : DoubleLink ι) (links : ι → DoubleLink ι) (node : ι) :
    (listRemove item links node).previous =
      if item.next = some node then item.previous else (links node).previous := by
  obtain ⟨next, previous⟩ := item
  cases previous <;> cases next <;> simp [listRemove, eq_comm]

end ComputerSystems.System
