import ComputerSystems.Verified.DescriptorParser
import Mathlib.Order.Monotone.Basic

/-! # Searching an accepted configuration

`DeviceGetDescriptor` trusts the lengths that `parser_attach` has read, but stops
its walk by another guard.  In an accepted buffer both walks stand on the same
boundaries (`boundary_cases`), from which every search ends where it should
(`ExactSearch`), after any sequence of earlier searches.
-/

namespace ComputerSystems.Verified

open ComputerSystems.Data ComputerSystems.Usb

variable {buffer : Nat → UInt8} {bufLen finish : Nat}

/-! ## Boundaries -/

/-- The start of the `n`th descriptor from the start of the buffer; the end position
    when there are fewer. -/
def boundary (buffer : Nat → UInt8) (finish : Nat) : Nat → Nat
  | 0 => 0
  | n + 1 =>
    if boundary buffer finish n < finish then after buffer (boundary buffer finish n)
    else boundary buffer finish n

def IsBoundary (buffer : Nat → UInt8) (finish position : Nat) : Prop :=
  ∃ n, boundary buffer finish n = position

theorem IsBoundary.start : IsBoundary buffer finish 0 := ⟨0, rfl⟩

theorem IsBoundary.after {position : Nat} (stands : IsBoundary buffer finish position)
    (room : position < finish) : IsBoundary buffer finish (after buffer position) := by
  obtain ⟨n, rfl⟩ := stands
  exact ⟨n + 1, if_pos room⟩

theorem boundary_le_succ (n : Nat) :
    boundary buffer finish n ≤ boundary buffer finish (n + 1) := by
  rw [boundary]
  split
  · exact Nat.le_add_right _ _
  · exact Nat.le_refl _

theorem boundary_monotone : Monotone (boundary buffer finish) :=
  monotone_nat_of_le_succ boundary_le_succ

/-- No boundary lies inside a descriptor. -/
theorem IsBoundary.after_le {position later : Nat} (stands : IsBoundary buffer finish position)
    (stands' : IsBoundary buffer finish later) (room : position < finish)
    (less : position < later) : Verified.after buffer position ≤ later := by
  obtain ⟨m, rfl⟩ := stands
  obtain ⟨n, rfl⟩ := stands'
  have further : m + 1 ≤ n := by
    apply Nat.lt_of_not_le
    intro before
    exact absurd (boundary_monotone before) (Nat.not_le.mpr less)
  calc Verified.after buffer (boundary buffer finish m)
      = boundary buffer finish (m + 1) := (if_pos room).symm
    _ ≤ boundary buffer finish n := boundary_monotone further

/-- A walk to the end stands there or has one more descriptor to pass. -/
theorem Passed.end_or_more {walk : Walk} {headers : List Header} {last : UInt8}
    (passed : Passed buffer finish walk headers ⟨finish, last⟩) :
    walk.currentPosition = finish ∨
      (walk.currentPosition + 2 < finish ∧ Verified.after buffer walk.currentPosition ≤ finish ∧
        (headerAt buffer walk.currentPosition).length ≠ 0 ∧
        Passes walk.lastDescType (headerAt buffer walk.currentPosition) ∧
        ∃ rest, Passed buffer finish ⟨Verified.after buffer walk.currentPosition,
          (headerAt buffer walk.currentPosition).descriptorType⟩ rest ⟨finish, last⟩) := by
  have positive := passed.positive
  generalize reached : (⟨finish, last⟩ : Walk) = target at passed
  cases passed with
  | none => exact .inl (by rw [← reached])
  | more room inside passes passed =>
    subst reached
    exact .inr ⟨room, inside, positive _ List.mem_cons_self, passes, _, passed⟩

/-- In a buffer that the walk passes to its end, every boundary is a state of that walk. -/
theorem Passed.reaches_boundary {headers : List Header} {last : UInt8}
    (passed : Passed buffer finish ⟨0, 0⟩ headers ⟨finish, last⟩) (n : Nat) :
    ∃ type rest, Passed buffer finish ⟨boundary buffer finish n, type⟩ rest ⟨finish, last⟩ := by
  induction n with
  | zero => exact ⟨0, headers, passed⟩
  | succ n ih =>
    obtain ⟨type, rest, passed⟩ := ih
    rw [boundary]
    split
    · rename_i room
      obtain atEnd | ⟨_, _, _, _, rest, passed⟩ := passed.end_or_more
      · exact absurd atEnd (Nat.ne_of_lt room)
      · exact ⟨_, rest, passed⟩
    · exact ⟨type, rest, passed⟩

/-- The size of the descriptor at a position, where the parser knows its type. -/
def KnownSize (header : Header) : Prop :=
  (header.descriptorType = descriptorConfiguration →
    header.length = sizeofConfigurationDescriptor) ∧
  (header.descriptorType = descriptorInterface → header.length = sizeofInterfaceDescriptor) ∧
  (header.descriptorType = descriptorEndpoint → header.length = sizeofEndpointDescriptor)

theorem Passes.knownSize {last : UInt8} {header : Header} (passes : Passes last header) :
    KnownSize header :=
  ⟨fun type => (passes.configuration type).2, passes.interface,
    fun type => (passes.endpoint type).2.2⟩

/-- A descriptor lies at the position: its header and all its bytes are inside. -/
structure Whole (buffer : Nat → UInt8) (finish position : Nat) : Prop where
  header : position + 2 < finish
  long : position < after buffer position
  inside : after buffer position ≤ finish
  size : KnownSize (headerAt buffer position)

/-- A boundary is the end position or the start of a whole descriptor. -/
theorem Acceptable.boundary_cases {headers : List Header} {position : Nat}
    (acceptable : Acceptable buffer bufLen headers)
    (stands : IsBoundary buffer (parserEnd buffer bufLen) position) :
    position = parserEnd buffer bufLen ∨ Whole buffer (parserEnd buffer bufLen) position := by
  obtain ⟨_, last, passed⟩ := acceptable
  obtain ⟨n, rfl⟩ := stands
  obtain ⟨type, rest, passed⟩ := passed.reaches_boundary n
  obtain atEnd | ⟨room, inside, long, passes, _⟩ := passed.end_or_more
  · exact .inl atEnd
  · exact .inr ⟨room, lt_after long, inside, passes.knownSize⟩

/-! ## One search -/

/-- What a search for `type` does from a parser that stands on a boundary. -/
structure ExactSearch (parser : ConfigurationParser) (type : UInt8) (result : Option Nat)
    (next : ConfigurationParser) : Prop where
  moves : next = { parser with currentPosition := next.currentPosition }
  forward : parser.currentPosition ≤ next.currentPosition
  stands : IsBoundary parser.buffer parser.endPosition next.currentPosition
  bound : next.currentPosition ≤ parser.endPosition
  passedOver : ∀ position, IsBoundary parser.buffer parser.endPosition position →
    parser.currentPosition ≤ position → position < result.getD next.currentPosition →
    (headerAt parser.buffer position).descriptorType ≠ type ∧
      (type = descriptorEndpoint →
        (headerAt parser.buffer position).descriptorType ≠ descriptorInterface)
  found : ∀ position ∈ result, IsBoundary parser.buffer parser.endPosition position ∧
    parser.currentPosition ≤ position ∧ Whole parser.buffer parser.endPosition position ∧
    (headerAt parser.buffer position).descriptorType = type ∧
    next.currentPosition = after parser.buffer position
  stopped : result = none → next.currentPosition = parser.endPosition ∨
    (type = descriptorEndpoint ∧ next.currentPosition < parser.endPosition ∧
      (headerAt parser.buffer next.currentPosition).descriptorType = descriptorInterface)

/-- Where the loop of a search can stand: on a boundary behind which nothing was
    passed over that it should have stopped at. -/
structure Searching (parser : ConfigurationParser) (type : UInt8) (now : ConfigurationParser) :
    Prop where
  moves : now = { parser with currentPosition := now.currentPosition }
  forward : parser.currentPosition ≤ now.currentPosition
  stands : IsBoundary parser.buffer parser.endPosition now.currentPosition
  passedOver : ∀ position, IsBoundary parser.buffer parser.endPosition position →
    parser.currentPosition ≤ position → position < now.currentPosition →
    (headerAt parser.buffer position).descriptorType ≠ type ∧
      (type = descriptorEndpoint →
        (headerAt parser.buffer position).descriptorType ≠ descriptorInterface)

section Search

variable {headers : List Header} {parser : ConfigurationParser} {type : UInt8}

theorem searchPass_again {now next : ConfigurationParser}
    (goes : searchPass type now = .again next) :
    now.currentPosition < now.endPosition ∧
      ¬ (type = descriptorEndpoint ∧
        (headerAt now.buffer now.currentPosition).descriptorType = descriptorInterface) ∧
      (headerAt now.buffer now.currentPosition).descriptorType ≠ type ∧
      next = { now with currentPosition := after now.buffer now.currentPosition } := by
  unfold searchPass at goes
  split at goes
  · rename_i room
    dsimp only at goes
    split at goes
    · cases goes
    · rename_i crosses
      split at goes
      · cases goes
      · rename_i other
        cases goes
        exact ⟨room, crosses, other, rfl⟩
  · cases goes

theorem searchPass_leave {now next : ConfigurationParser} {result : Option Nat}
    (leaves : searchPass type now = .leave (result, next)) :
    (now.endPosition ≤ now.currentPosition ∧ result = none ∧ next = now) ∨
    (now.currentPosition < now.endPosition ∧ type = descriptorEndpoint ∧
      (headerAt now.buffer now.currentPosition).descriptorType = descriptorInterface ∧
      result = none ∧ next = now) ∨
    (now.currentPosition < now.endPosition ∧
      (headerAt now.buffer now.currentPosition).descriptorType = type ∧
      result = some now.currentPosition ∧
      next = { now with currentPosition := after now.buffer now.currentPosition }) := by
  unfold searchPass at leaves
  split at leaves
  · rename_i room
    dsimp only at leaves
    split at leaves
    · rename_i crosses
      cases leaves
      exact .inr (.inl ⟨room, crosses.1, crosses.2, rfl, rfl⟩)
    · split at leaves
      · rename_i same
        cases leaves
        exact .inr (.inr ⟨room, same, rfl, rfl⟩)
      · cases leaves
  · rename_i stop
    cases leaves
    exact .inl ⟨Nat.not_lt.mp stop, rfl, rfl⟩

/-- Every boundary of the parser's buffer is its end or the start of a descriptor. -/
def Walkable (parser : ConfigurationParser) : Prop :=
  ∀ position, IsBoundary parser.buffer parser.endPosition position →
    position = parser.endPosition ∨ Whole parser.buffer parser.endPosition position

theorem Walkable.le (walkable : Walkable parser) {position : Nat}
    (stands : IsBoundary parser.buffer parser.endPosition position) :
    position ≤ parser.endPosition := by
  obtain atEnd | whole := walkable position stands
  · exact Nat.le_of_eq atEnd
  · exact Nat.le_trans (Nat.le_of_lt whole.long) whole.inside

theorem Walkable.whole (walkable : Walkable parser) {position : Nat}
    (stands : IsBoundary parser.buffer parser.endPosition position)
    (room : position < parser.endPosition) : Whole parser.buffer parser.endPosition position :=
  (walkable position stands).resolve_left (Nat.ne_of_lt room)

theorem Searching.again (walkable : Walkable parser) {now next : ConfigurationParser}
    (searching : Searching parser type now) (goes : searchPass type now = .again next) :
    Searching parser type next ∧
      parser.endPosition - next.currentPosition < parser.endPosition - now.currentPosition := by
  obtain ⟨moves, forward, stands, passedOver⟩ := searching
  generalize now.currentPosition = position at moves forward stands passedOver
  subst moves
  obtain ⟨room, crosses, other, rfl⟩ := searchPass_again goes
  dsimp only at room crosses other ⊢
  have whole := walkable.whole stands room
  refine ⟨⟨rfl, Nat.le_trans forward (Nat.le_of_lt whole.long), stands.after room, ?_⟩, ?_⟩
  · intro earlier stands' later less
    by_cases before : earlier < position
    · exact passedOver earlier stands' later before
    · -- nothing but the descriptor itself starts between its start and its end
      have same : earlier = position := by
        apply Nat.le_antisymm _ (Nat.not_lt.mp before)
        apply Nat.not_lt.mp
        intro inside
        exact absurd (stands.after_le stands' room inside) (Nat.not_le.mpr less)
      subst same
      exact ⟨other, fun endpoint interface => crosses ⟨endpoint, interface⟩⟩
  · have long := whole.long
    omega

theorem Searching.leave (walkable : Walkable parser) {now next : ConfigurationParser}
    {result : Option Nat} (searching : Searching parser type now)
    (leaves : searchPass type now = .leave (result, next)) :
    ExactSearch parser type result next := by
  obtain ⟨moves, forward, stands, passedOver⟩ := searching
  generalize now.currentPosition = position at moves forward stands passedOver
  subst moves
  obtain ⟨stop, rfl, rfl⟩ | ⟨room, endpoint, interface, rfl, rfl⟩ | ⟨room, same, rfl, rfl⟩ :=
    searchPass_leave leaves
  · have bound := walkable.le stands
    exact
      { moves := rfl, forward, stands, passedOver, bound
        found := by simp
        stopped := fun _ => .inl (Nat.le_antisymm bound stop) }
  · exact
      { moves := rfl, forward, stands, passedOver
        bound := walkable.le stands
        found := by simp
        stopped := fun _ => .inr ⟨endpoint, room, interface⟩ }
  · have whole := walkable.whole stands room
    exact
      { moves := rfl, passedOver
        forward := Nat.le_trans forward (Nat.le_of_lt whole.long)
        stands := stands.after room
        bound := whole.inside
        found := by
          intro found is
          obtain rfl : position = found := Option.some.inj is
          exact ⟨stands, forward, whole, same, rfl⟩
        stopped := by simp }

/-- From a boundary every search ends, where it should. -/
theorem Walkable.search (walkable : Walkable parser)
    (stands : IsBoundary parser.buffer parser.endPosition parser.currentPosition) (type : UInt8) :
    ∃ fuel result next, deviceGetDescriptor fuel parser type = some (result, next) ∧
      ExactSearch parser type result next := by
  have start : Searching parser type parser :=
    ⟨rfl, Nat.le_refl _, stands, fun _ _ later less => absurd later (Nat.not_le.mpr less)⟩
  obtain ⟨⟨result, next⟩, ends, exact'⟩ := Ends.of_invariant (Searching parser type)
    (fun now => parser.endPosition - now.currentPosition)
    (fun (result, next) => ExactSearch parser type result next)
    (fun _ _ searching => searching.again walkable)
    (fun _ _ searching => searching.leave walkable) start
  obtain ⟨fuel, runs⟩ := ends.iterate
  exact ⟨fuel, result, next, runs, exact'⟩

end Search

/-! ## Sequences of searches -/

theorem ExactSearch.walkable {parser next : ConfigurationParser} {type : UInt8}
    {result : Option Nat} (search : ExactSearch parser type result next)
    (walkable : Walkable parser) : Walkable next := by
  rw [search.moves]
  exact walkable

theorem ExactSearch.stands_next {parser next : ConfigurationParser} {type : UInt8}
    {result : Option Nat} (search : ExactSearch parser type result next) :
    IsBoundary next.buffer next.endPosition next.currentPosition := by
  have stands := search.stands
  rw [search.moves]
  exact stands

theorem deviceGetDescriptors_mono {fuel more : Nat} {parser last : ConfigurationParser}
    {types : List UInt8} {results : List (Option Nat)}
    (runs : deviceGetDescriptors fuel parser types = some (results, last)) (enough : fuel ≤ more) :
    deviceGetDescriptors more parser types = some (results, last) := by
  induction types generalizing parser results with
  | nil => exact runs
  | cons type types ih =>
    rw [deviceGetDescriptors] at runs ⊢
    cases one : deviceGetDescriptor fuel parser type with
    | none => simp [one] at runs
    | some pair =>
      obtain ⟨result, next⟩ := pair
      rw [one] at runs
      obtain ⟨⟨later, last'⟩, rest, same⟩ := Option.map_eq_some_iff.mp runs
      cases same
      have again : deviceGetDescriptor more parser type = some (result, next) :=
        iterate_mono one enough
      simp [again, ih rest]

/-- What a sequence of searches leaves: the parser on a boundary behind every result. -/
structure Searched (parser : ConfigurationParser) (results : List (Option Nat))
    (last : ConfigurationParser) : Prop where
  moves : last = { parser with currentPosition := last.currentPosition }
  stands : IsBoundary last.buffer last.endPosition last.currentPosition
  forward : parser.currentPosition ≤ last.currentPosition
  behind : ∀ position, some position ∈ results →
    position < after parser.buffer position ∧ after parser.buffer position ≤ last.currentPosition

theorem Walkable.searches {parser : ConfigurationParser} (walkable : Walkable parser)
    (stands : IsBoundary parser.buffer parser.endPosition parser.currentPosition)
    (types : List UInt8) :
    ∃ fuel results last, deviceGetDescriptors fuel parser types = some (results, last) ∧
      Searched parser results last := by
  induction types generalizing parser with
  | nil => exact ⟨0, [], parser, rfl, rfl, stands, Nat.le_refl _, by simp⟩
  | cons type types ih =>
    obtain ⟨fuel, result, next, runs, search⟩ := walkable.search stands type
    obtain ⟨fuel', results, last, runs', searched⟩ := ih (search.walkable walkable) search.stands_next
    have runs : deviceGetDescriptor (max fuel fuel') parser type = some (result, next) :=
      iterate_mono runs (Nat.le_max_left _ _)
    have runs' := deviceGetDescriptors_mono runs' (Nat.le_max_right fuel fuel')
    refine ⟨max fuel fuel', result :: results, last, by simp [deviceGetDescriptors, runs, runs'], ?_⟩
    refine ⟨?_, searched.stands, Nat.le_trans search.forward searched.forward, ?_⟩
    · rw [searched.moves, search.moves]
    · intro position mem
      have sameBuffer : next.buffer = parser.buffer := by rw [search.moves]
      obtain now | later := List.mem_cons.mp mem
      · obtain ⟨_, _, whole, _, behind⟩ := search.found position now.symm
        exact ⟨whole.long, behind ▸ searched.forward⟩
      · exact sameBuffer ▸ searched.behind position later

theorem Acceptable.walkable {headers : List Header} (acceptable : Acceptable buffer bufLen headers) :
    Walkable (attachedParser buffer bufLen) :=
  fun _ stands => acceptable.boundary_cases stands

/-- After any sequence of searches in an accepted buffer, the next search ends and is
    exact, and what it finds lies behind all that was found before. -/
theorem deviceGetDescriptor_exact (fuel : Nat) (buffer : Nat → UInt8) (bufLen : Nat)
    (parser : ConfigurationParser) (outcome : Except Rejection Unit)
    (attached : parserAttach fuel buffer bufLen = some (parser, outcome))
    (valid : parser.valid = true) (types : List UInt8) (type : UInt8) :
    ∃ fuel results now result next,
      deviceGetDescriptors fuel parser types = some (results, now) ∧
      deviceGetDescriptor fuel now type = some (result, next) ∧
      now = { parser with currentPosition := now.currentPosition } ∧
      IsBoundary buffer parser.endPosition now.currentPosition ∧
      now.currentPosition ≤ parser.endPosition ∧
      ExactSearch now type result next ∧
      ∀ position ∈ result, ∀ earlier, some earlier ∈ results →
        earlier < position ∧ after buffer earlier ≤ position := by
  obtain ⟨rfl, headers, acceptable⟩ := parserAttach_valid attached valid
  have walkable := acceptable.walkable
  -- The searches before leave the parser at a boundary, from which this one goes on.
  obtain ⟨fuel, results, now, runs, searched⟩ := walkable.searches .start types
  have walkableNow : Walkable now := by
    rw [searched.moves]
    exact walkable
  obtain ⟨fuel', result, next, runs', search⟩ := walkableNow.search searched.stands type
  refine ⟨max fuel fuel', results, now, result, next,
    deviceGetDescriptors_mono runs (Nat.le_max_left _ _),
    iterate_mono runs' (Nat.le_max_right _ _), searched.moves, ?_, ?_, search, ?_⟩
  · have stands := searched.stands
    rw [searched.moves] at stands
    exact stands
  · have bound := walkableNow.le searched.stands
    rw [searched.moves] at bound
    exact bound
  · intro position found earlier mem
    obtain ⟨long, behind⟩ := searched.behind earlier mem
    obtain ⟨_, forward, _⟩ := search.found position found
    have apart := Nat.le_trans behind forward
    exact ⟨Nat.lt_of_lt_of_le long apart, apart⟩

/-- A configuration with one interface and its endpoint. -/
def endpointBuffer (position : Nat) : UInt8 :=
  [9, 2, 25, 0, 1, 1, 0, 128, 50, 9, 4, 0, 0, 1, 8, 6, 80, 0, 7, 5, 129, 2, 64, 0, 0].getD position 0

theorem deviceGetDescriptor_exact_endpointBuffer :
    ∃ fuel results now result next,
      deviceGetDescriptors fuel (attachedParser endpointBuffer 25) [2, 4] = some (results, now) ∧
      deviceGetDescriptor fuel now 5 = some (result, next) ∧ ExactSearch now 5 result next := by
  have attached :
      parserAttach 4 endpointBuffer 25 = some (attachedParser endpointBuffer 25, .ok ()) := rfl
  obtain ⟨fuel, results, now, result, next, runs, runs', _, _, _, search, _⟩ :=
    deviceGetDescriptor_exact 4 endpointBuffer 25 _ _ attached rfl [2, 4] 5
  exact ⟨fuel, results, now, result, next, runs, runs', search⟩

end ComputerSystems.Verified
