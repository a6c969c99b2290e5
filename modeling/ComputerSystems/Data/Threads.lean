import ComputerSystems.Data.Chain

/-! # Lists threaded through a table

A table has an entry for every place: `none` where the place is free, and else the place
that follows it, if there is one.  Several lists are threaded through one table.

`Threads table start nodes` says that `nodes`, all in use, are the list that begins at
`start`, and `Separate` that no two lists of a family have a place in common.  A family
stays so when a free place becomes a list of its own (`Separate.mark`), when such a list
is appended to another one (`Separate.link`) and when the first place of a list is given
back (`Separate.pop`).
-/

namespace ComputerSystems.Data

/-- The entries of the places. -/
abbrev Table (ι : Type*) := ι → Option (Option ι)

variable {ι κ : Type*} {table table' : Table ι} {start : Option ι} {nodes : List ι} {place node : ι}

/-- The place that follows. -/
def Table.next (table : Table ι) (place : ι) : Option ι := (table place).join

/-- The list that begins at `start`. -/
structure Threads (table : Table ι) (start : Option ι) (nodes : List ι) : Prop where
  chain : Chain table.next start nodes
  used : ∀ node ∈ nodes, table node ≠ none

namespace Threads

theorem nil (table : Table ι) : Threads table none [] := ⟨rfl, by simp⟩

theorem congr (threads : Threads table start nodes) (agree : ∀ node ∈ nodes, table' node = table node) :
    Threads table' start nodes := by
  refine ⟨threads.chain.congr ?_, ?_⟩
  · intro node isIn
    rw [Table.next, Table.next, agree node isIn]
  · intro node isIn
    rw [agree node isIn]
    exact threads.used node isIn

theorem nodup (threads : Threads table start nodes) : nodes.Nodup := threads.chain.nodup

theorem start_eq (threads : Threads table start nodes) : start = nodes.head? := threads.chain.start_eq

/-- A free place is in no list. -/
theorem not_mem (threads : Threads table start nodes) (free : table place = none) : place ∉ nodes :=
  fun isIn => threads.used place isIn free

/-- The place that follows the `n`th one. -/
theorem next_getElem {n : Nat} (threads : Threads table start nodes) (inside : n < nodes.length) :
    table nodes[n] = some nodes[n + 1]? := by
  have split : nodes = nodes.take n ++ nodes[n] :: nodes.drop (n + 1) := by
    rw [List.getElem_cons_drop inside, List.take_append_drop]
  obtain ⟨middle, -, -, rest⟩ := chain_append.mp (split ▸ threads.chain)
  have follows : table.next nodes[n] = nodes[n + 1]? := by
    rw [Chain.start_eq rest, List.head?_drop]
  cases entry : table nodes[n] with
  | none => exact absurd entry (threads.used _ (List.getElem_mem inside))
  | some after =>
    rw [Table.next, entry] at follows
    exact congrArg some follows

end Threads

/-! ## Families -/

/-- Lists with no place in common. -/
structure Separate (table : Table ι) (starts : κ → Option ι) (lists : κ → List ι) : Prop where
  threads : ∀ key, Threads table (starts key) (lists key)
  disjoint : ∀ key other, key ≠ other → (lists key).Disjoint (lists other)

namespace Separate

variable {starts : κ → Option ι} {lists : κ → List ι} {key other : κ}

/-- The lists by other keys. -/
theorem comp {μ : Type*} {rename : μ → κ} (separate : Separate table starts lists) (injective : rename.Injective) :
    Separate table (starts ∘ rename) (lists ∘ rename) :=
  ⟨fun key => separate.threads (rename key), fun _ _ different => separate.disjoint _ _ (injective.ne different)⟩

variable [DecidableEq ι] [DecidableEq κ]

/-- A free place becomes a list. -/
theorem mark (separate : Separate table starts lists) (free : table place = none) (empty : lists key = []) :
    Separate (Function.update table place (some none)) (Function.update starts key (some place))
      (Function.update lists key [place]) := by
  have elsewhere : ∀ other, place ∉ lists other := fun other => (separate.threads other).not_mem free
  constructor
  · intro other
    by_cases here : other = key
    · subst here
      simp only [Function.update_self]
      exact ⟨⟨rfl, by simp [Table.next]⟩, by simp⟩
    · simp only [Function.update_of_ne here]
      apply (separate.threads other).congr
      intro node isIn
      exact Function.update_of_ne (ne_of_mem_of_not_mem isIn (elsewhere other)) _ _
  -- the new place was free, so it is in no other list
  · intro first second different
    by_cases here : first = key
    · subst here
      rw [Function.update_self, Function.update_of_ne different.symm]
      simpa using elsewhere second
    · rw [Function.update_of_ne here]
      by_cases there : second = key
      · subst there
        rw [Function.update_self]
        simpa using elsewhere first
      · rw [Function.update_of_ne there]
        exact separate.disjoint first second different

/-- A list of one place is appended to another list. -/
theorem link {front : List ι} {last : ι} (separate : Separate table starts lists) (different : key ≠ other)
    (ends : lists key = front ++ [last]) (single : lists other = [place]) :
    Separate (Function.update table last (some (some place))) (Function.update starts other none)
      (Function.update (Function.update lists key (front ++ [last] ++ [place])) other []) := by
  have isLast : last ∈ lists key := by simp [ends]
  have isPlace : place ∈ lists other := by simp [single]
  have apart : last ≠ place := fun same => separate.disjoint key other different isLast (same ▸ isPlace)
  -- only the extended list has the cell that is redirected
  have beyond : ∀ third, third ≠ key → last ∉ lists third := fun third elsewhere isIn =>
    separate.disjoint third key elsewhere isIn isLast
  have lonely := separate.threads other
  rw [single] at lonely
  constructor
  · intro third
    -- the list that is emptied, the one that is extended, and the rest
    by_cases there : third = other
    · subst there
      simp only [Function.update_self]
      exact .nil _
    · rw [Function.update_of_ne there, Function.update_of_ne there]
      by_cases here : third = key
      · subst here
        have threads := separate.threads third
        rw [ends] at threads
        rw [Function.update_self]
        have unlike : ∀ node ∈ front, node ≠ last := by
          have nodup := threads.nodup
          intro node isIn same
          rw [List.nodup_append] at nodup
          exact nodup.2.2 node isIn last (by simp) same
        constructor
        · have placed : Chain (Table.next (Function.update table last (some (some place)))) (some place) [place] := by
            refine ⟨rfl, ?_⟩
            rw [Table.next, Function.update_of_ne apart.symm]
            exact lonely.chain.2
          rw [chain_append]
          refine ⟨some place, Segment.redirect threads.chain ?_ ?_, placed⟩
          · intro node isIn
            rw [Table.next, Table.next, Function.update_of_ne (unlike node isIn)]
          · simp [Table.next]
        · intro node isIn
          by_cases same : node = last
          · simp [same]
          · rw [Function.update_of_ne same]
            rcases List.mem_append.mp isIn with inside | isPlaced
            · exact threads.used node inside
            · rw [List.mem_singleton.mp isPlaced]
              exact lonely.used place (by simp)
      · rw [Function.update_of_ne here]
        apply (separate.threads third).congr
        intro node isIn
        exact Function.update_of_ne (ne_of_mem_of_not_mem isIn (beyond third here)) _ _
  · -- the new place was in no other list but its own
    have inKey : ∀ third, third ≠ key → third ≠ other → (front ++ [last] ++ [place]).Disjoint (lists third) := by
      intro third notKey notOther
      rw [List.disjoint_append_left]
      refine ⟨ends ▸ separate.disjoint key third notKey.symm, ?_⟩
      simpa using fun isIn => separate.disjoint third other notOther isIn isPlace
    intro first second unlike
    by_cases first_other : first = other
    · subst first_other
      simp
    · rw [Function.update_of_ne first_other]
      by_cases second_other : second = other
      · subst second_other
        simp
      · rw [Function.update_of_ne second_other]
        by_cases first_key : first = key
        · subst first_key
          rw [Function.update_self, Function.update_of_ne unlike.symm]
          exact inKey second unlike.symm second_other
        · rw [Function.update_of_ne first_key]
          by_cases second_key : second = key
          · subst second_key
            rw [Function.update_self]
            exact fun node isIn isIn' => inKey first first_key first_other isIn' isIn
          · rw [Function.update_of_ne second_key]
            exact separate.disjoint first second unlike

/-- The first place of a list is given back. -/
theorem pop {rest : List ι} (separate : Separate table starts lists) (begins : lists key = place :: rest) :
    Separate (Function.update table place none) (Function.update starts key (table.next place))
      (Function.update lists key rest) := by
  have threads := separate.threads key
  rw [begins] at threads
  have outside : place ∉ rest := (List.nodup_cons.mp threads.nodup).1
  have beyond : ∀ other, other ≠ key → place ∉ lists other := fun other elsewhere isIn =>
    separate.disjoint other key elsewhere isIn (by simp [begins])
  constructor
  · intro other
    by_cases here : other = key
    · subst here
      simp only [Function.update_self]
      have tail : Threads table (table.next place) rest :=
        ⟨threads.chain.2, fun node isIn => threads.used node (List.mem_cons_of_mem place isIn)⟩
      apply tail.congr
      intro node isIn
      exact Function.update_of_ne (ne_of_mem_of_not_mem isIn outside) _ _
    · simp only [Function.update_of_ne here]
      apply (separate.threads other).congr
      intro node isIn
      exact Function.update_of_ne (ne_of_mem_of_not_mem isIn (beyond other here)) _ _
  -- every list is a part of what it was
  · have smaller : ∀ other, Function.update lists key rest other ⊆ lists other := by
      intro other
      by_cases here : other = key
      · subst here
        rw [Function.update_self, begins]
        exact List.subset_cons_self place rest
      · rw [Function.update_of_ne here]
        exact List.Subset.refl _
    intro first second different node isIn isIn'
    exact separate.disjoint first second different (smaller first isIn) (smaller second isIn')

end Separate

/-! ## Places in no list -/

/-- The place is in use and in no list. -/
structure Stray (table : Table ι) (lists : κ → List ι) (place : ι) : Prop where
  used : table place ≠ none
  outside : ∀ key, place ∉ lists key

namespace Stray

variable [DecidableEq ι] {lists lists' : κ → List ι} {key other : κ} {entry : Option (Option ι)}

/-- What is stray after one entry has changed was stray before. -/
theorem of_update (stray : Stray (Function.update table place entry) lists' node)
    (own : entry ≠ none → ∃ key, place ∈ lists' key)
    (kept : ∀ key, node ∈ lists key → node ≠ place → ∃ key, node ∈ lists' key) : Stray table lists node := by
  have elsewhere : node ≠ place := by
    rintro rfl
    have used := stray.used
    rw [Function.update_self] at used
    obtain ⟨key, isIn⟩ := own used
    exact stray.outside key isIn
  constructor
  · have used := stray.used
    rwa [Function.update_of_ne elsewhere] at used
  · intro key isIn
    obtain ⟨key', isIn'⟩ := kept key isIn elsewhere
    exact stray.outside key' isIn'

variable [DecidableEq κ]

theorem of_mark (empty : lists key = [])
    (stray : Stray (Function.update table place (some none)) (Function.update lists key [place]) node) :
    Stray table lists node := by
  apply stray.of_update
  · intro _
    exact ⟨key, by simp⟩
  · intro other isIn _
    have different : other ≠ key := by
      rintro rfl
      simp [empty] at isIn
    exact ⟨other, by rwa [Function.update_of_ne different]⟩

theorem of_link {front : List ι} {last : ι} (different : key ≠ other) (ends : lists key = front ++ [last])
    (single : lists other = [place]) (stray : Stray (Function.update table last (some (some place)))
      (Function.update (Function.update lists key (front ++ [last] ++ [place])) other []) node) :
    Stray table lists node := by
  have longer : Function.update (Function.update lists key (front ++ [last] ++ [place])) other [] key =
      front ++ [last] ++ [place] := by
    rw [Function.update_of_ne different, Function.update_self]
  apply stray.of_update
  · intro _
    exact ⟨key, by rw [longer]; simp⟩
  · intro third isIn _
    by_cases here : third = key
    · subst here
      refine ⟨third, ?_⟩
      rw [longer, ← ends]
      exact List.mem_append_left _ isIn
    · by_cases there : third = other
      · subst there
        refine ⟨key, ?_⟩
        rw [longer, ← single]
        exact List.mem_append_right _ isIn
      · exact ⟨third, by rwa [Function.update_of_ne there, Function.update_of_ne here]⟩

theorem of_pop {rest : List ι} (begins : lists key = place :: rest)
    (stray : Stray (Function.update table place none) (Function.update lists key rest) node) : Stray table lists node := by
  apply stray.of_update
  · intro used
    exact absurd rfl used
  · intro other isIn elsewhere
    by_cases here : other = key
    · subst here
      rw [begins] at isIn
      exact ⟨other, by simpa using (List.mem_cons.mp isIn).resolve_left elsewhere⟩
    · exact ⟨other, by rwa [Function.update_of_ne here]⟩

end Stray

end ComputerSystems.Data
