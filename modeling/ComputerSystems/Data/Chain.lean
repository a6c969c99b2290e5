import Mathlib.Data.List.Chain
import Mathlib.Data.List.Nodup
import Mathlib.Logic.Function.Basic

/-! # Chains of links

A singly linked list over an arbitrary type of nodes is a function `next` that
gives each node its successor, if it has one.  `Segment next start nodes stop`
says that following `next` from `start` visits exactly `nodes` and then stands
on `stop`; a `Chain` is a segment that ends at the null link.

Segments compose (`segment_append`), depend only on the links of the nodes they
visit (`Segment.congr`), and a chain is determined by its first link
(`Chain.unique`), so that it can visit no node twice (`Chain.nodup`).
-/

namespace ComputerSystems.Data

variable {ι : Type*} {next next' : ι → Option ι} {start stop : Option ι} {nodes : List ι}

/-- Following `next` from `start` visits `nodes`, in order, and arrives at `stop`. -/
def Segment (next : ι → Option ι) : Option ι → List ι → Option ι → Prop
  | start, [], stop => start = stop
  | start, node :: nodes, stop => start = some node ∧ Segment next (next node) nodes stop

/-- A segment that ends at the null link. -/
def Chain (next : ι → Option ι) (start : Option ι) (nodes : List ι) : Prop :=
  Segment next start nodes none

@[simp] theorem segment_nil : Segment next start [] stop ↔ start = stop := Iff.rfl

@[simp] theorem segment_cons {node : ι} :
    Segment next start (node :: nodes) stop ↔ start = some node ∧ Segment next (next node) nodes stop :=
  Iff.rfl

@[simp] theorem chain_nil : Chain next start [] ↔ start = none := Iff.rfl

@[simp] theorem chain_cons {node : ι} :
    Chain next start (node :: nodes) ↔ start = some node ∧ Chain next (next node) nodes :=
  Iff.rfl

theorem segment_append {front back : List ι} :
    Segment next start (front ++ back) stop ↔
      ∃ middle, Segment next start front middle ∧ Segment next middle back stop := by
  induction front generalizing start with
  | nil => simp
  | cons node front ih => simp [ih, and_assoc]

theorem chain_append {front back : List ι} :
    Chain next start (front ++ back) ↔
      ∃ middle, Segment next start front middle ∧ Chain next middle back :=
  segment_append

/-- A segment reads only the links of the nodes it visits. -/
theorem Segment.congr (segment : Segment next start nodes stop)
    (agree : ∀ node ∈ nodes, next' node = next node) : Segment next' start nodes stop := by
  induction nodes generalizing start with
  | nil => exact segment
  | cons node nodes ih =>
    obtain ⟨here, rest⟩ := segment
    refine ⟨here, ?_⟩
    rw [agree node (by simp)]
    exact ih rest (fun other member => agree other (by simp [member]))

theorem Chain.congr (chain : Chain next start nodes)
    (agree : ∀ node ∈ nodes, next' node = next node) : Chain next' start nodes :=
  Segment.congr chain agree

theorem Chain.start_eq (chain : Chain next start nodes) : start = nodes.head? := by
  cases nodes with
  | nil => exact chain
  | cons node nodes => exact chain.1

/-- The last node of a segment is the one whose link leads to its end. -/
theorem Segment.last {node : ι} (segment : Segment next start (nodes ++ [node]) stop) :
    next node = stop := by
  obtain ⟨middle, -, here, arrived⟩ := segment_append.mp segment
  exact arrived

/-- Redirecting the last link of a segment leads it to another end. -/
theorem Segment.redirect {node : ι} {stop' : Option ι}
    (segment : Segment next start (nodes ++ [node]) stop)
    (agree : ∀ other ∈ nodes, next' other = next other) (redirected : next' node = stop') :
    Segment next' start (nodes ++ [node]) stop' := by
  obtain ⟨middle, front, here, -⟩ := segment_append.mp segment
  exact segment_append.mpr ⟨middle, front.congr agree, here, redirected⟩

/-- The null-terminated list read from a link is unique. -/
theorem Chain.unique {other : List ι} (chain : Chain next start nodes)
    (chain' : Chain next start other) : nodes = other := by
  induction nodes generalizing start other with
  | nil =>
    cases other with
    | nil => rfl
    | cons node other => cases chain.symm.trans chain'.1
  | cons node nodes ih =>
    cases other with
    | nil => cases chain.1.symm.trans chain'
    | cons node' other =>
      obtain rfl : node = node' := Option.some.inj (chain.1.symm.trans chain'.1)
      rw [ih chain.2 chain'.2]

/-- A chain visits no node twice: from the second visit on it would repeat the
    list that follows the first one, which is longer. -/
theorem Chain.nodup (chain : Chain next start nodes) : nodes.Nodup := by
  induction nodes generalizing start with
  | nil => exact List.nodup_nil
  | cons node nodes ih =>
    refine List.nodup_cons.mpr ⟨fun member => ?_, ih chain.2⟩
    obtain ⟨front, back, rfl⟩ := List.append_of_mem member
    have rest : Chain next (next node) (front ++ node :: back) := chain.2
    obtain ⟨middle, -, -, tail⟩ := chain_append.mp rest
    have same := rest.unique tail
    have lengths := congrArg List.length same
    simp only [List.length_append, List.length_cons] at lengths
    omega

/-- No null-terminated list leaves a node whose link leads back to it. -/
theorem not_chain_of_loop {node : ι} (loop : next node = some node) :
    ¬ Chain next (some node) nodes := by
  induction nodes with
  | nil => exact nofun
  | cons other nodes ih =>
    rintro ⟨here, rest⟩
    cases here
    exact ih (loop ▸ rest)

/-! ## Reading a chain -/

/-- The nodes met on the first `fuel` links from `start`. -/
def follow (next : ι → Option ι) : Nat → Option ι → List ι
  | 0, _ => []
  | _, none => []
  | fuel + 1, some node => node :: follow next fuel (next node)

theorem Chain.follow_eq {fuel : Nat} (chain : Chain next start nodes) (enough : nodes.length ≤ fuel) :
    follow next fuel start = nodes := by
  induction nodes generalizing start fuel with
  | nil => obtain rfl : start = none := chain; cases fuel <;> rfl
  | cons node nodes ih =>
    obtain ⟨rfl, rest⟩ := chain
    cases fuel with
    | zero => simp at enough
    | succ fuel => rw [follow, ih rest (by simpa using enough)]

end ComputerSystems.Data
