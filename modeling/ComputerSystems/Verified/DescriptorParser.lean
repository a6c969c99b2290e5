import ComputerSystems.Usb.Configuration
import Mathlib.Data.List.Induction

/-! # What the configuration descriptor parser accepts

`Passed` follows the walk of `parser_attach` over a run of descriptors that each
pass the switch in their place.  The walk ends unless such a run leads to a
descriptor of an unknown type whose length byte is 0 (`parserAttach_returns_iff`),
and it accepts exactly the buffers that are such a run up to the end position.

`SoundRegion` is what a caller wants of an accepted buffer.  The switch compares
with the type of the descriptor before only, and unknown types pass it with any
length, so it holds unless one of four layouts is met (`Clear`).
-/

namespace ComputerSystems.Verified

open ComputerSystems.Data ComputerSystems.Usb

variable {buffer : Nat → UInt8} {bufLen finish : Nat}

/-! ## The walk -/

/-- The switch lets a descriptor pass behind one of type `last`. -/
def Passes (last : UInt8) (header : Header) : Prop :=
  ∃ expected, expectedLen last header.descriptorType = some expected ∧
    (expected = 0 ∨ header.length = expected)

/-- The types that have a case of their own in the switch. -/
def Known (type : UInt8) : Prop :=
  type = descriptorConfiguration ∨ type = descriptorInterface ∨ type = descriptorEndpoint

instance (type : UInt8) : Decidable (Known type) := inferInstanceAs (Decidable (_ ∨ _ ∨ _))

/-- The position behind the descriptor at a position. -/
def after (buffer : Nat → UInt8) (position : Nat) : Nat :=
  position + (headerAt buffer position).length.toNat

/-- The walk goes over the descriptors `headers` from one state to another. -/
inductive Passed (buffer : Nat → UInt8) (finish : Nat) : Walk → List Header → Walk → Prop where
  | none (walk : Walk) : Passed buffer finish walk [] walk
  | more {walk last : Walk} {rest : List Header}
      (room : walk.currentPosition + 2 < finish)
      (inside : after buffer walk.currentPosition ≤ finish)
      (passes : Passes walk.lastDescType (headerAt buffer walk.currentPosition))
      (passed : Passed buffer finish
        ⟨after buffer walk.currentPosition,
          (headerAt buffer walk.currentPosition).descriptorType⟩ rest last) :
      Passed buffer finish walk (headerAt buffer walk.currentPosition :: rest) last

theorem parserPass_again_iff {walk next : Walk} :
    parserPass buffer finish walk = .again next ↔
      walk.currentPosition + 2 < finish ∧ after buffer walk.currentPosition ≤ finish ∧
        Passes walk.lastDescType (headerAt buffer walk.currentPosition) ∧
        next = ⟨after buffer walk.currentPosition,
          (headerAt buffer walk.currentPosition).descriptorType⟩ := by
  unfold parserPass Passes after
  split
  · rename_i room
    simp only [room, true_and]
    split
    · rename_i outside
      simp [Nat.not_le.mpr outside]
    · rename_i inside
      cases expects : expectedLen walk.lastDescType
          (headerAt buffer walk.currentPosition).descriptorType with
      | none => simp
      | some expected =>
        by_cases wrong : expected ≠ 0 ∧ (headerAt buffer walk.currentPosition).length ≠ expected
        · simp [wrong]
        · have right : expected = 0 ∨ (headerAt buffer walk.currentPosition).length = expected := by
            grind
          simp only [if_neg wrong, Pass.again.injEq, Option.some.injEq, exists_eq_left', right,
            Nat.not_lt.mp inside, true_and]
          exact eq_comm
  · rename_i stop
    simp only [stop, false_and, iff_false]
    split <;> simp

theorem parserPass_ok_iff {walk : Walk} :
    parserPass buffer finish walk = .leave (.ok ()) ↔ walk.currentPosition = finish := by
  unfold parserPass
  split
  · rename_i room
    have short : walk.currentPosition ≠ finish := by omega
    simp only [short, iff_false]
    grind
  · by_cases stands : walk.currentPosition = finish
    · simp [stands]
    · simp [stands]

theorem Passed.ends {walk last : Walk} {headers : List Header} {outcome : Except Rejection Unit}
    (passed : Passed buffer finish walk headers last) :
    Ends (parserPass buffer finish) walk outcome ↔ Ends (parserPass buffer finish) last outcome := by
  induction passed with
  | none => exact Iff.rfl
  | more room inside passes _ ih =>
    have goes := parserPass_again_iff.mpr ⟨room, inside, passes, rfl⟩
    rw [← ih]
    constructor
    · intro ends
      cases ends with
      | leave leaves => simp [goes] at leaves
      | again goes' ends =>
        rw [goes] at goes'
        cases goes'
        exact ends
    · exact .again goes

/-- The walk accepts exactly what it passes over up to the end position. -/
theorem ends_ok_iff {walk : Walk} :
    Ends (parserPass buffer finish) walk (.ok ()) ↔
      ∃ headers last, Passed buffer finish walk headers ⟨finish, last⟩ := by
  constructor
  · intro ends
    generalize accepted : Except.ok () = outcome at ends
    induction ends with
    | @leave walk _ leaves =>
      subst accepted
      have stands := parserPass_ok_iff.mp leaves
      exact ⟨[], walk.lastDescType, stands ▸ .none walk⟩
    | again goes _ ih =>
      obtain ⟨room, inside, passes, rfl⟩ := parserPass_again_iff.mp goes
      obtain ⟨headers, last, passed⟩ := ih accepted
      exact ⟨_, last, .more room inside passes passed⟩
  · intro ⟨headers, last, passed⟩
    exact passed.ends.mpr (.leave (parserPass_ok_iff.mpr rfl))

/-! ## Where the walk stalls -/

/-- The walk stands at a descriptor of an unknown type whose length byte is 0. -/
def Stalled (buffer : Nat → UInt8) (finish : Nat) (walk : Walk) : Prop :=
  walk.currentPosition + 2 < finish ∧ (headerAt buffer walk.currentPosition).length = 0 ∧
    ¬ Known (headerAt buffer walk.currentPosition).descriptorType

theorem expectedLen_unknown {last type : UInt8} (unknown : ¬ Known type) :
    expectedLen last type = some 0 := by
  simp only [Known, not_or] at unknown
  simp [expectedLen, unknown]

theorem passes_unknown {last : UInt8} {header : Header} (unknown : ¬ Known header.descriptorType) :
    Passes last header :=
  ⟨0, expectedLen_unknown unknown, .inl rfl⟩

theorem Passes.configuration {last : UInt8} {header : Header} (passes : Passes last header)
    (type : header.descriptorType = descriptorConfiguration) :
    last = 0 ∧ header.length = sizeofConfigurationDescriptor := by
  obtain ⟨expected, expects, fits⟩ := passes
  by_cases first : last = 0
  · simp [expectedLen, type, first] at expects
    subst expects
    exact ⟨first, fits.resolve_left (by decide)⟩
  · simp [expectedLen, type, first] at expects

theorem Passes.interface {last : UInt8} {header : Header} (passes : Passes last header)
    (type : header.descriptorType = descriptorInterface) :
    header.length = sizeofInterfaceDescriptor := by
  have other : descriptorInterface ≠ descriptorConfiguration := by decide
  obtain ⟨expected, expects, fits⟩ := passes
  by_cases first : last = 0
  · simp [expectedLen, type, first, other] at expects
  · simp [expectedLen, type, first, other] at expects
    subst expects
    exact fits.resolve_left (by decide)

theorem Passes.endpoint {last : UInt8} {header : Header} (passes : Passes last header)
    (type : header.descriptorType = descriptorEndpoint) :
    last ≠ 0 ∧ last ≠ descriptorConfiguration ∧ header.length = sizeofEndpointDescriptor := by
  have other : descriptorEndpoint ≠ descriptorConfiguration := by decide
  have another : descriptorEndpoint ≠ descriptorInterface := by decide
  obtain ⟨expected, expects, fits⟩ := passes
  by_cases refused : last = 0 ∨ last = descriptorConfiguration
  · simp [expectedLen, type, refused, other, another] at expects
  · simp [expectedLen, type, refused, other, another] at expects
    subst expects
    obtain ⟨notFirst, notBehind⟩ := not_or.mp refused
    exact ⟨notFirst, notBehind, fits.resolve_left (by decide)⟩

/-- A descriptor that passes with length 0 is of an unknown type. -/
theorem Passes.unknown_of_zero {last : UInt8} {header : Header} (passes : Passes last header)
    (zero : header.length = 0) : ¬ Known header.descriptorType := by
  intro known
  obtain type | type | type := known
  · obtain ⟨_, length⟩ := passes.configuration type
    exact absurd (zero.symm.trans length) (by decide)
  · exact absurd (zero.symm.trans (passes.interface type)) (by decide)
  · obtain ⟨_, _, length⟩ := passes.endpoint type
    exact absurd (zero.symm.trans length) (by decide)

theorem after_of_zero {position : Nat} (zero : (headerAt buffer position).length = 0) :
    after buffer position = position := by
  simp [after, zero]

theorem lt_after {position : Nat} (long : (headerAt buffer position).length ≠ 0) :
    position < after buffer position := by
  have positive : (headerAt buffer position).length.toNat ≠ 0 := by
    intro zero
    exact long (UInt8.toNat_inj.mp zero)
  rw [after]
  omega

/-- From a stalled state the loop never ends: the next pass stalls at the same place. -/
theorem Stalled.not_ends {walk : Walk} {outcome : Except Rejection Unit}
    (stalled : Stalled buffer finish walk) : ¬ Ends (parserPass buffer finish) walk outcome := by
  apply not_ends_of_stuck (Stalled buffer finish) _ stalled
  intro walk ⟨room, zero, unknown⟩
  have stays := after_of_zero zero
  have goes : parserPass buffer finish walk = .again ⟨walk.currentPosition,
      (headerAt buffer walk.currentPosition).descriptorType⟩ := by
    rw [parserPass_again_iff, stays]
    exact ⟨room, by omega, passes_unknown unknown, rfl⟩
  exact ⟨_, goes, room, zero, unknown⟩

theorem Passed.snoc {walk last : Walk} {headers : List Header}
    (passed : Passed buffer finish walk headers last)
    (room : last.currentPosition + 2 < finish)
    (inside : after buffer last.currentPosition ≤ finish)
    (passes : Passes last.lastDescType (headerAt buffer last.currentPosition)) :
    Passed buffer finish walk (headers ++ [headerAt buffer last.currentPosition])
      ⟨after buffer last.currentPosition,
        (headerAt buffer last.currentPosition).descriptorType⟩ := by
  induction passed with
  | none walk => exact .more room inside passes (.none _)
  | more room' inside' passes' _ ih => exact .more room' inside' passes' (ih room inside passes)

/-- The walk ends unless it comes to a stalled state. -/
theorem ends_iff_never_stalled {start : Walk} :
    (∃ outcome, Ends (parserPass buffer finish) start outcome) ↔
      ∀ headers walk, Passed buffer finish start headers walk → ¬ Stalled buffer finish walk := by
  constructor
  · intro ⟨outcome, ends⟩ headers walk passed stalled
    exact stalled.not_ends (passed.ends.mp ends)
  · intro free
    -- what is left of the buffer shrinks while the walk moves over what it can reach
    apply Ends.of_measure (fun walk => ∃ headers, Passed buffer finish start headers walk)
      (fun walk => finish - walk.currentPosition) _ ⟨[], .none start⟩
    intro walk next ⟨headers, passed⟩ goes
    obtain ⟨room, inside, passes, rfl⟩ := parserPass_again_iff.mp goes
    have long : (headerAt buffer walk.currentPosition).length ≠ 0 := by
      intro zero
      exact free headers walk passed ⟨room, zero, passes.unknown_of_zero zero⟩
    have moves := lt_after long
    exact ⟨⟨_, passed.snoc room inside passes⟩, by dsimp only; omega⟩

/-! ## `parser_attach` -/

/-- The tests that `parser_attach` makes before the loop. -/
structure Checked (buffer : Nat → UInt8) (bufLen : Nat) : Prop where
  least : 4 ≤ bufLen
  most : bufLen ≤ 512
  starts : startsConfiguration buffer bufLen = true

instance : Decidable (Checked buffer bufLen) :=
  decidable_of_iff (4 ≤ bufLen ∧ bufLen ≤ 512 ∧ startsConfiguration buffer bufLen = true)
    ⟨fun ⟨least, most, starts⟩ => ⟨least, most, starts⟩,
      fun checked => ⟨checked.least, checked.most, checked.starts⟩⟩

/-- The parser of an accepted buffer. -/
def attachedParser (buffer : Nat → UInt8) (bufLen : Nat) : ConfigurationParser :=
  { buffer, bufLen, valid := true, endPosition := parserEnd buffer bufLen, currentPosition := 0 }

theorem parserAttach_of_checked (checked : Checked buffer bufLen) (fuel : Nat) :
    parserAttach fuel buffer bufLen =
      (iterate (parserPass buffer (parserEnd buffer bufLen)) fuel ⟨0, 0⟩).map fun outcome =>
        ({ attachedParser buffer bufLen with valid := outcome.isOk }, outcome) := by
  have length : ¬ (bufLen < 4 ∨ 512 < bufLen) := by
    have := checked.least
    have := checked.most
    omega
  simp only [parserAttach, length, checked.starts, if_false, Bool.not_true, Bool.false_eq_true]
  cases iterate (parserPass buffer (parserEnd buffer bufLen)) fuel ⟨0, 0⟩ with
  | none => rfl
  | some outcome =>
    cases outcome with
    | error rejection => rfl
    | ok => rfl

/-- A buffer that fails a test before the loop is refused at once. -/
theorem parserAttach_of_not_checked (refused : ¬ Checked buffer bufLen) (fuel : Nat) :
    ∃ parser outcome, parserAttach fuel buffer bufLen = some (parser, outcome) ∧
      parser.valid = false := by
  unfold parserAttach
  by_cases length : bufLen < 4 ∨ 512 < bufLen
  · rw [if_pos length]
    exact ⟨_, _, rfl, rfl⟩
  · rw [if_neg length]
    by_cases starts : startsConfiguration buffer bufLen = true
    · exact absurd ⟨by omega, by omega, starts⟩ refused
    · simp only [starts]
      exact ⟨_, _, rfl, rfl⟩

/-- `parser_attach` returns unless the descriptors it passes lead to one of an
    unknown type with length byte 0, at least three bytes before the end. -/
theorem parserAttach_returns_iff (buffer : Nat → UInt8) (bufLen : Nat) :
    (∃ fuel, (parserAttach fuel buffer bufLen).isSome) ↔
      (Checked buffer bufLen → ∀ headers walk,
        Passed buffer (parserEnd buffer bufLen) ⟨0, 0⟩ headers walk →
        ¬ Stalled buffer (parserEnd buffer bufLen) walk) := by
  by_cases checked : Checked buffer bufLen
  · simp only [checked, true_imp_iff, ← ends_iff_never_stalled, ← iterate_iff_ends,
      parserAttach_of_checked checked, Option.isSome_map, Option.isSome_iff_exists]
    exact exists_comm
  · obtain ⟨parser, outcome, returns, _⟩ := parserAttach_of_not_checked checked 0
    simp only [checked, false_imp_iff, iff_true]
    exact ⟨0, by rw [returns]; rfl⟩

/-- A configuration descriptor followed by a descriptor of type 3 with length byte 0. -/
def stallingBuffer (position : Nat) : UInt8 :=
  [9, 2, 12, 0, 1, 1, 0, 128, 50, 0, 3, 0].getD position 0

theorem parserAttach_stallingBuffer :
    ¬ ∃ fuel, (parserAttach fuel stallingBuffer 12).isSome := by
  intro ⟨fuel, returns⟩
  rw [parserAttach_of_checked (by decide), Option.isSome_map, Option.isSome_iff_exists] at returns
  obtain ⟨outcome, runs⟩ := returns
  have passed : Passed stallingBuffer 12 ⟨0, 0⟩ [headerAt stallingBuffer 0] ⟨9, 2⟩ :=
    .more (by decide) (by decide) ⟨9, by decide, .inr rfl⟩ (.none _)
  have stalled : Stalled stallingBuffer 12 ⟨9, 2⟩ := by
    refine ⟨by decide, by decide, by decide⟩
  exact stalled.not_ends (passed.ends.mp (.of_iterate runs))

/-- The checks are passed and the descriptors `headers` make up the buffer up to the
    end position, each of them let through behind the one before it. -/
def Acceptable (buffer : Nat → UInt8) (bufLen : Nat) (headers : List Header) : Prop :=
  Checked buffer bufLen ∧ ∃ last,
    Passed buffer (parserEnd buffer bufLen) ⟨0, 0⟩ headers ⟨parserEnd buffer bufLen, last⟩

theorem parserAttach_valid {fuel : Nat} {parser : ConfigurationParser}
    {outcome : Except Rejection Unit}
    (attached : parserAttach fuel buffer bufLen = some (parser, outcome))
    (valid : parser.valid = true) :
    parser = attachedParser buffer bufLen ∧ ∃ headers, Acceptable buffer bufLen headers := by
  by_cases checked : Checked buffer bufLen
  · rw [parserAttach_of_checked checked, Option.map_eq_some_iff] at attached
    obtain ⟨outcome', runs, same⟩ := attached
    cases same
    cases outcome with
    | error rejection => simp [Except.isOk, Except.toBool] at valid
    | ok =>
      obtain ⟨headers, last, passed⟩ := ends_ok_iff.mp (.of_iterate runs)
      exact ⟨rfl, headers, checked, last, passed⟩
  · obtain ⟨refused, _, returns, invalid⟩ := parserAttach_of_not_checked checked fuel
    rw [attached, Option.some.injEq, Prod.mk.injEq] at returns
    obtain ⟨rfl, _⟩ := returns
    simp [valid] at invalid

theorem Acceptable.attaches {headers : List Header} (acceptable : Acceptable buffer bufLen headers) :
    ∃ fuel, parserAttach fuel buffer bufLen = some (attachedParser buffer bufLen, .ok ()) := by
  obtain ⟨checked, last, passed⟩ := acceptable
  obtain ⟨fuel, runs⟩ := (ends_ok_iff.mpr ⟨headers, last, passed⟩).iterate
  exact ⟨fuel, by rw [parserAttach_of_checked checked, runs]; rfl⟩

/-! ## Soundness -/

/-- The bytes from a position to `finish` are exactly the descriptors `headers`. -/
def Tiles (buffer : Nat → UInt8) (finish : Nat) : Nat → List Header → Prop
  | position, [] => position = finish
  | position, header :: rest =>
    headerAt buffer position = header ∧ Tiles buffer finish (after buffer position) rest

/-- What a list of descriptors must be to describe a configuration. -/
structure WellFormed (headers : List Header) : Prop where
  sizes : ∀ header ∈ headers, 2 ≤ header.length.toNat
  first : ∃ rest, headers = ⟨sizeofConfigurationDescriptor, descriptorConfiguration⟩ :: rest ∧
    ∀ header ∈ rest, header.descriptorType ≠ descriptorConfiguration
  interfaces : ∀ header ∈ headers, header.descriptorType = descriptorInterface →
    header.length = sizeofInterfaceDescriptor
  endpoints : ∀ header ∈ headers, header.descriptorType = descriptorEndpoint →
    header.length = sizeofEndpointDescriptor
  preceded : ∀ before header behind, headers = before ++ header :: behind →
    header.descriptorType = descriptorEndpoint →
    ∃ earlier ∈ before, earlier.descriptorType = descriptorInterface

/-- What a caller wants of the region up to the end position. -/
structure SoundRegion (buffer : Nat → UInt8) (bufLen endPosition : Nat) : Prop where
  inside : endPosition ≤ bufLen
  nonempty : 0 < endPosition
  described : ∃ headers, Tiles buffer endPosition 0 headers ∧ WellFormed headers

/-- None of the layouts that the switch lets through by mistake: no descriptor at
    all, one of length 1, a configuration descriptor right behind one of type 0, or,
    before the first interface, an endpoint right behind one of an unknown type. -/
structure Clear (headers : List Header) : Prop where
  some : headers ≠ []
  long : ∀ header ∈ headers, header.length ≠ 1
  single : ∀ before last header behind, headers = before ++ last :: header :: behind →
    last.descriptorType = 0 → header.descriptorType ≠ descriptorConfiguration
  inPlace : ∀ before last header behind, headers = before ++ last :: header :: behind →
    (∀ earlier ∈ before, earlier.descriptorType ≠ descriptorInterface) →
    ¬ Known last.descriptorType → header.descriptorType ≠ descriptorEndpoint

theorem Passed.tiles {walk : Walk} {last : UInt8} {headers : List Header}
    (passed : Passed buffer finish walk headers ⟨finish, last⟩) :
    Tiles buffer finish walk.currentPosition headers := by
  generalize reached : (⟨finish, last⟩ : Walk) = target at passed
  induction passed with
  | none walk =>
    subst reached
    exact rfl
  | more _ _ _ _ ih => exact ⟨rfl, ih reached⟩

/-- A walk that comes to a descriptor of length 0 stays there. -/
theorem Passed.stays {walk target : Walk} {headers : List Header}
    (passed : Passed buffer finish walk headers target)
    (zero : (headerAt buffer walk.currentPosition).length = 0) :
    target.currentPosition = walk.currentPosition := by
  induction passed with
  | none => rfl
  | more _ _ _ _ ih =>
    have stays := after_of_zero zero
    rw [stays] at ih
    exact ih zero

theorem Passed.positive {walk : Walk} {last : UInt8} {headers : List Header}
    (passed : Passed buffer finish walk headers ⟨finish, last⟩) :
    ∀ header ∈ headers, header.length ≠ 0 := by
  generalize reached : (⟨finish, last⟩ : Walk) = target at passed
  induction passed with
  | none => simp
  | @more walk _ _ room inside passes passed ih =>
    simp only [List.mem_cons, forall_eq_or_imp]
    refine ⟨?_, ih reached⟩
    intro zero
    have stays := (Passed.more room inside passes passed).stays zero
    subst reached
    dsimp only at stays
    omega

theorem Tiles.le {position : Nat} {headers : List Header}
    (tiles : Tiles buffer finish position headers) : position ≤ finish := by
  induction headers generalizing position with
  | nil => exact Nat.le_of_eq tiles
  | cons header rest ih => exact Nat.le_trans (Nat.le_add_right _ _) (ih tiles.2)

theorem Tiles.lt_of_cons {position : Nat} {header : Header} {rest : List Header}
    (tiles : Tiles buffer finish position (header :: rest)) (long : header.length ≠ 0) :
    position < finish := by
  have moves := lt_after (tiles.1.symm ▸ long)
  exact Nat.lt_of_lt_of_le moves tiles.2.le

/-- Two tilings of one region by descriptors of positive length are the same. -/
theorem Tiles.unique {position : Nat} {headers others : List Header}
    (tiles : Tiles buffer finish position headers) (tiles' : Tiles buffer finish position others)
    (positive : ∀ header ∈ headers, header.length ≠ 0)
    (positive' : ∀ header ∈ others, header.length ≠ 0) : headers = others := by
  induction headers generalizing position others with
  | nil =>
    cases others with
    | nil => rfl
    | cons header rest =>
      have before := tiles'.lt_of_cons (positive' header List.mem_cons_self)
      exact absurd tiles (Nat.ne_of_lt before)
  | cons header headers ih =>
    cases others with
    | nil =>
      have before := tiles.lt_of_cons (positive header List.mem_cons_self)
      exact absurd tiles' (Nat.ne_of_lt before)
    | cons other others =>
      have same := tiles.1.symm.trans tiles'.1
      have rest := ih tiles.2 tiles'.2 (fun later mem => positive later (List.mem_cons_of_mem _ mem))
        (fun later mem => positive' later (List.mem_cons_of_mem _ mem))
      rw [same, rest]

/-- Every descriptor passed over stands behind some type that lets it through. -/
theorem Passed.passes_of_mem {walk target : Walk} {headers : List Header} {header : Header}
    (passed : Passed buffer finish walk headers target) (mem : header ∈ headers) :
    ∃ last, Passes last header := by
  induction passed with
  | none => simp at mem
  | more _ _ passes _ ih =>
    obtain rfl | later := List.mem_cons.mp mem
    · exact ⟨_, passes⟩
    · exact ih later

theorem Passed.passes_head {walk target : Walk} {header : Header} {headers : List Header}
    (passed : Passed buffer finish walk (header :: headers) target) :
    Passes walk.lastDescType header := by
  cases passed with
  | more _ _ passes _ => exact passes

/-- Two neighbours: the second is let through behind the type of the first. -/
theorem Passed.passes_behind {walk target : Walk} {before behind : List Header}
    {last header : Header}
    (passed : Passed buffer finish walk (before ++ last :: header :: behind) target) :
    Passes last.descriptorType header := by
  induction before generalizing walk with
  | nil =>
    cases passed with
    | more _ _ _ passed => exact passed.passes_head
  | cons first before ih =>
    cases passed with
    | more _ _ _ passed => exact ih passed

theorem Passed.head {walk target : Walk} {header : Header} {headers : List Header}
    (passed : Passed buffer finish walk (header :: headers) target) :
    header = headerAt buffer walk.currentPosition := by
  cases passed with
  | more => rfl

theorem Checked.header (checked : Checked buffer bufLen) :
    headerAt buffer 0 = ⟨sizeofConfigurationDescriptor, descriptorConfiguration⟩ := by
  have starts := checked.starts
  simp only [startsConfiguration, Bool.and_eq_true, beq_iff_eq] at starts
  exact Header.mk.injEq .. ▸ ⟨starts.1.1, starts.1.2⟩

theorem parserEnd_le : parserEnd buffer bufLen ≤ bufLen := by
  rw [parserEnd]
  split
  · omega
  · exact Nat.le_refl _

/-- In a list that the walk passes, an endpoint before every interface goes back to
    one that stands right behind a descriptor of an unknown type. -/
theorem Clear.interface_before {walk target : Walk} {headers : List Header} (clear : Clear headers)
    (passed : Passed buffer finish walk headers target) (start : walk.lastDescType = 0)
    {before behind : List Header} {header : Header} (split : headers = before ++ header :: behind)
    (endpoint : header.descriptorType = descriptorEndpoint) :
    ∃ earlier ∈ before, earlier.descriptorType = descriptorInterface := by
  by_contra without
  simp only [not_exists, not_and] at without
  induction before using List.reverseRecOn generalizing header behind with
  | nil =>
    subst split
    exact (passed.passes_head.endpoint endpoint).1 start
  | append_singleton before last ih =>
    rw [List.append_assoc, List.singleton_append] at split
    have passes : Passes last.descriptorType header := (split ▸ passed).passes_behind
    obtain ⟨_, notConfiguration, _⟩ := passes.endpoint endpoint
    have notInterface : last.descriptorType ≠ descriptorInterface := without last (by simp)
    have earlier : ∀ earlier ∈ before, earlier.descriptorType ≠ descriptorInterface :=
      fun earlier mem => without earlier (by simp [mem])
    by_cases another : last.descriptorType = descriptorEndpoint
    · exact ih split another earlier
    · have unknown : ¬ Known last.descriptorType := by
        simp [Known, notConfiguration, notInterface, another]
      exact clear.inPlace before last header behind split earlier unknown endpoint

theorem Acceptable.wellFormed {headers : List Header} (acceptable : Acceptable buffer bufLen headers)
    (clear : Clear headers) : WellFormed headers := by
  obtain ⟨checked, last, passed⟩ := acceptable
  refine
    { sizes := ?_
      first := ?_
      interfaces := ?_
      endpoints := ?_
      preceded := fun before header behind split => clear.interface_before passed rfl split }
  · intro header mem
    -- The parser refuses the length 0; that no length is 1 it does not see.
    have notZero : header.length.toNat ≠ 0 := fun zero =>
      passed.positive header mem (UInt8.toNat_inj.mp zero)
    have notOne : header.length.toNat ≠ 1 := fun one =>
      clear.long header mem (UInt8.toNat_inj.mp one)
    omega
  · cases headers with
    | nil => exact absurd rfl clear.some
    | cons first rest =>
      refine ⟨rest, by rw [passed.head, checked.header], ?_⟩
      intro header mem type
      obtain ⟨before, behind, rfl⟩ := List.append_of_mem mem
      obtain ⟨start, last', split⟩ : ∃ start last', first :: before = start ++ [last'] :=
        ⟨_, _, (List.dropLast_concat_getLast (List.cons_ne_nil first before)).symm⟩
      have split' : first :: (before ++ header :: behind) = start ++ last' :: header :: behind := by
        rw [← List.cons_append, split, List.append_assoc, List.singleton_append]
      have behindZero := ((split' ▸ passed).passes_behind.configuration type).1
      exact clear.single start last' header behind split' behindZero type
  · intro header mem type
    obtain ⟨_, passes⟩ := passed.passes_of_mem mem
    exact passes.interface type
  · intro header mem type
    obtain ⟨_, passes⟩ := passed.passes_of_mem mem
    exact (passes.endpoint type).2.2

theorem WellFormed.clear {headers : List Header} (wellFormed : WellFormed headers) :
    Clear headers := by
  obtain ⟨rest, cons, others⟩ := wellFormed.first
  refine
    { some := by simp [cons]
      long := ?_
      single := ?_
      inPlace := ?_ }
  · intro header mem one
    have size := wellFormed.sizes header mem
    rw [one] at size
    exact absurd size (by decide)
  · intro before last header behind split _ type
    rw [cons] at split
    have later : header ∈ rest := by
      cases before with
      | nil =>
        simp only [List.nil_append, List.cons.injEq] at split
        simp [split.2]
      | cons first before =>
        simp only [List.cons_append, List.cons.injEq] at split
        simp [split.2]
    exact others header later type
  · intro before last header behind split without unknown endpoint
    obtain ⟨earlier, mem, interface⟩ :=
      wellFormed.preceded (before ++ [last]) header behind (by simp [split]) endpoint
    obtain early | same := List.mem_append.mp mem
    · exact without earlier early interface
    · rw [List.mem_singleton.mp same] at interface
      exact unknown (.inr (.inl interface))

/-- The region of an accepted buffer is sound exactly when its descriptors have none
    of the four layouts. -/
theorem Acceptable.sound_iff {headers : List Header}
    (acceptable : Acceptable buffer bufLen headers) :
    SoundRegion buffer bufLen (parserEnd buffer bufLen) ↔ Clear headers := by
  obtain ⟨_, last, passed⟩ := id acceptable
  constructor
  · intro sound
    obtain ⟨others, tiles, wellFormed⟩ := sound.described
    have positive : ∀ header ∈ others, header.length ≠ 0 := by
      intro header mem zero
      have size := wellFormed.sizes header mem
      rw [zero] at size
      exact absurd size (by decide)
    rw [passed.tiles.unique tiles passed.positive positive]
    exact wellFormed.clear
  · intro clear
    have nonempty : 0 < parserEnd buffer bufLen := by
      cases headers with
      | nil => exact absurd rfl clear.some
      | cons header rest =>
        exact passed.tiles.lt_of_cons (passed.positive header List.mem_cons_self)
    exact ⟨parserEnd_le, nonempty, headers, passed.tiles, acceptable.wellFormed clear⟩

/-- What `parser_attach` accepts is sound exactly when the descriptors that make up
    the buffer have none of the four layouts. -/
theorem parserAttach_sound_iff (buffer : Nat → UInt8) (bufLen : Nat) :
    (∀ fuel parser outcome, parserAttach fuel buffer bufLen = some (parser, outcome) →
      parser.valid = true → SoundRegion buffer bufLen parser.endPosition) ↔
      ∀ headers, Acceptable buffer bufLen headers → Clear headers := by
  constructor
  · intro sound headers acceptable
    obtain ⟨fuel, attached⟩ := acceptable.attaches
    exact acceptable.sound_iff.mp (sound fuel _ _ attached rfl)
  · intro clear fuel parser outcome attached valid
    obtain ⟨rfl, headers, acceptable⟩ := parserAttach_valid attached valid
    exact acceptable.sound_iff.mpr (clear headers acceptable)

/-- A configuration descriptor, one of type 36 and an endpoint: no interface. -/
def orphanEndpointBuffer (position : Nat) : UInt8 :=
  [9, 2, 19, 0, 1, 1, 0, 128, 50, 3, 36, 0, 7, 5, 129, 2, 64, 0, 0].getD position 0

theorem parserAttach_orphanEndpointBuffer :
    ∃ fuel parser, parserAttach fuel orphanEndpointBuffer 19 = some (parser, .ok ()) ∧
      parser.valid = true ∧ ¬ SoundRegion orphanEndpointBuffer 19 parser.endPosition := by
  have passed : Passed orphanEndpointBuffer 19 ⟨0, 0⟩ [⟨9, 2⟩, ⟨3, 36⟩, ⟨7, 5⟩] ⟨19, 5⟩ :=
    .more (by decide) (by decide) ⟨9, by decide, .inr rfl⟩
      (.more (by decide) (by decide) ⟨0, by decide, .inl rfl⟩
        (.more (by decide) (by decide) ⟨7, by decide, .inr rfl⟩ (.none _)))
  have acceptable : Acceptable orphanEndpointBuffer 19 [⟨9, 2⟩, ⟨3, 36⟩, ⟨7, 5⟩] :=
    ⟨by decide, 5, passed⟩
  obtain ⟨fuel, attached⟩ := acceptable.attaches
  refine ⟨fuel, _, attached, rfl, ?_⟩
  intro sound
  have clear := acceptable.sound_iff.mp sound
  exact clear.inPlace [⟨9, 2⟩] ⟨3, 36⟩ ⟨7, 5⟩ [] rfl (by decide) (by decide) rfl

end ComputerSystems.Verified
