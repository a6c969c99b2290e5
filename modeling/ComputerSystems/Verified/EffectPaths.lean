import Mathlib.Logic.Function.Iterate
import Mathlib.Tactic.IntervalCases
import Mathlib.Tactic.LinearCombination
import Mathlib.Tactic.Ring
import ComputerSystems.VirtualWorld.Pixels
import ComputerSystems.Verified.GridTouches

/-! # The ways of effects

`TileEffectStart` gives an effect the delta of one step, and every `TileEffectNext` counts a
step, until the effect is at its destination after the last one.  So an effect arrives in the
number of steps that it was given whatever its delta is, while it is drawn where its delta
has brought it.

The delta should be the distance divided by the number of steps.  It is the distance shifted
by half that number, which is the same for one, two and four steps but not for eight or sixteen.
-/

namespace ComputerSystems.Verified

open ComputerSystems.VirtualWorld

variable {game : Game} {place : EffectAt} {effect : EffectTile} {newX newY : Int} {total step : Nat}

/-! ## Counting -/

theorem tileEffectNext_goesOn (goesOn : effect.count + 1 < effect.total) :
    tileEffectNext effect = { effect with count := effect.count + 1 } :=
  if_neg (Nat.not_le.mpr goesOn)

theorem tileEffectNext_last (last : effect.total ≤ effect.count + 1) :
    tileEffectNext effect =
      { effect with locationX := effect.destinationX, locationY := effect.destinationY, count := 0 } :=
  if_pos last

/-- Before its last step an effect has only counted. -/
theorem iterate_goesOn {steps : Nat} (goesOn : effect.count + steps < effect.total) :
    tileEffectNext^[steps] effect = { effect with count := effect.count + steps } := by
  induction steps with
  | zero => rfl
  | succ steps ih =>
    have before := ih (by omega)
    rw [Function.iterate_succ_apply', before, tileEffectNext_goesOn (by simpa [Nat.add_assoc] using goesOn)]
    rfl

/-- The step that reaches the number of steps ends the effect at its destination. -/
theorem iterate_last {steps : Nat} (last : effect.count + steps + 1 = effect.total) :
    tileEffectNext^[steps + 1] effect =
      { effect with locationX := effect.destinationX, locationY := effect.destinationY, count := 0 } := by
  rw [Function.iterate_succ_apply', iterate_goesOn (by omega), tileEffectNext_last (by simpa using last.ge)]

/-! ## Positions -/

/-- The position of the steps of an effect that is sent to a tile: `TileEffectStart` draws the
    first one, and every `TileEffectNext` another one. -/
def stepPosition (newX newY : Int) (effect : EffectTile) : Nat → Pixel
  | 0 => effect.current.onScreen
  | 1 => (effectStart newX newY effect).startPosition
  | steps + 2 => (tileEffectNext^[steps] (effectStart newX newY effect)).nextPosition

/-- What a step draws. -/
def stepDraws (place : EffectAt) (newX newY : Int) (game : Game) : Nat → List Drawing
  | 0 => []
  | 1 => tileEffectStartDraws place newX newY game
  | steps + 2 => tileEffectNextDraws game (tileEffectNext^[steps] (effectStart newX newY (game.effect place)))

theorem drawn_at_nextPosition {position : Pixel} (drawn : .effect position ∈ tileEffectNextDraws game effect) :
    position = effect.nextPosition := by
  simp only [tileEffectNextDraws, List.mem_append, List.mem_ite_nil_right, List.mem_cons, List.not_mem_nil, reduceCtorEq,
    Drawing.effect.injEq, or_false, false_or, and_false] at drawn
  exact drawn.2

/-- The effect is drawn at the position of the step and nowhere else. -/
theorem drawn_at_stepPosition {position : Pixel}
    (drawn : .effect position ∈ stepDraws place newX newY game step) :
    position = stepPosition newX newY (game.effect place) step := by
  match step with
  | 0 => cases drawn
  | 1 =>
    simp only [stepDraws, tileEffectStartDraws] at drawn
    split at drawn
    · rw [List.mem_ite_nil_right, List.mem_singleton] at drawn
      exact Drawing.effect.inj drawn.2
    · cases drawn
  | steps + 2 => exact drawn_at_nextPosition drawn

/-- What is added to a coordinate in a step: the distance in tiles, by this many pixels. -/
def stride (total : Nat) : Nat := tileWidth >>> (total >>> 1)

/-- One coordinate of a step, in pixels. -/
def wayCoordinate (start : Nat) (origin target : Int) (total step : Nat) : Int :=
  start + origin * tileWidth + (target - origin) * stride total * step

/-- A negative delta is added in unsigned numbers as it is in signed ones. -/
theorem word_coordinate (start size count : Nat) (location delta : Int) :
    BitVec.ofNat 32 start + (BitVec.ofInt 32 (location * size) + BitVec.ofInt 32 delta * BitVec.ofNat 32 count) =
      BitVec.ofInt 32 (start + location * size + delta * count) := by
  rw [BitVec.ofInt_add, BitVec.ofInt_add, BitVec.ofInt_mul delta, BitVec.ofInt_natCast, BitVec.ofInt_natCast,
    BitVec.add_assoc]

theorem stepPosition_eq (first : 1 ≤ step) (bound : step ≤ effect.total) :
    stepPosition newX newY effect step =
      { x := BitVec.ofInt 32 (wayCoordinate gameGridStartX effect.locationX newX effect.total step)
        y := BitVec.ofInt 32 (wayCoordinate gameGridStartY effect.locationY newY effect.total step) } := by
  match step with
  | 1 => simp [stepPosition, EffectTile.startPosition, wayCoordinate, stride, effectStart, tileWidth, tileHeight]
  | steps + 2 =>
    have goesOn : (effectStart newX newY effect).count + steps < (effectStart newX newY effect).total := by
      change 1 + steps < effect.total
      omega
    have counted : (effectStart newX newY effect).count + steps + 1 = steps + 2 := by
      change 1 + steps + 1 = steps + 2
      omega
    simp only [stepPosition, iterate_goesOn goesOn, EffectTile.nextPosition, EffectTile.current, Pixel.onScreen,
      word_coordinate, counted]
    rfl

/-! ## Ways -/

/-- A coordinate in pixels is `step / total` of the way from one tile to another. -/
def PartOfWay (start : Nat) (origin target : Int) (total step : Nat) (coordinate : BitVec 32) : Prop :=
  total * ((coordinate.toNat : Int) - (start + origin * tileWidth)) = step * ((target - origin) * tileWidth)

/-- The numbers of steps that the source allows. -/
theorem strides (power : ∃ exponent, total = 2 ^ exponent) (bounded : total ≤ tileWidth) :
    total * stride total ≤ tileWidth ∧ (total * stride total = tileWidth ↔ total ≤ 4) := by
  obtain ⟨exponent, rfl⟩ := power
  have small : exponent ≤ 4 := (Nat.pow_le_pow_iff_right Nat.one_lt_two).mp bounded
  interval_cases exponent <;> decide

/-- Between two coordinates of the grid a step stays on it, and in the range of the unsigned numbers. -/
theorem wayCoordinate_bounds {start size : Nat} {origin target : Int} (from_grid : 0 ≤ origin ∧ origin < size)
    (to_grid : 0 ≤ target ∧ target < size) (short : total * stride total ≤ tileWidth) (bound : step ≤ total) :
    (start : Int) ≤ wayCoordinate start origin target total step ∧
      wayCoordinate start origin target total step ≤ start + size * tileWidth := by
  have part : stride total * step ≤ tileWidth := by
    calc stride total * step ≤ stride total * total := Nat.mul_le_mul_left _ bound
      _ = total * stride total := Nat.mul_comm _ _
      _ ≤ tileWidth := short
  -- the coordinate is a mean of the two, weighted with what has been passed and what has not
  have mean : wayCoordinate start origin target total step =
      start + origin * (tileWidth - (stride total * step : Nat)) + target * (stride total * step : Nat) := by
    rw [wayCoordinate]
    push_cast
    ring
  generalize stride total * step = passed at mean part
  obtain ⟨ahead, isAhead⟩ := Nat.exists_eq_add_of_le part
  have rest : (tileWidth : Int) - passed = ahead := by omega
  have whole : (size : Int) * tileWidth = size * ahead + size * passed := by
    rw [isAhead]
    push_cast
    ring
  rw [mean, rest, whole]
  have low : 0 ≤ origin * ahead ∧ 0 ≤ target * passed :=
    ⟨mul_nonneg from_grid.1 (Int.natCast_nonneg _), mul_nonneg to_grid.1 (Int.natCast_nonneg _)⟩
  have high : origin * ahead ≤ size * ahead ∧ target * passed ≤ size * passed :=
    ⟨mul_le_mul_of_nonneg_right from_grid.2.le (Int.natCast_nonneg _),
      mul_le_mul_of_nonneg_right to_grid.2.le (Int.natCast_nonneg _)⟩
  omega

theorem toNat_word {value : Int} (low : 0 ≤ value) (high : value < 2 ^ 32) : ((BitVec.ofInt 32 value).toNat : Int) = value := by
  rw [BitVec.toNat_ofInt, Int.toNat_of_nonneg (Int.emod_nonneg _ (by decide))]
  exact Int.emod_eq_of_lt low high

/-- A step is where it should be if the steps fill a tile, or if there is no way to go. -/
theorem partOfWay_iff {start size : Nat} {origin target : Int} (from_grid : 0 ≤ origin ∧ origin < size)
    (to_grid : 0 ≤ target ∧ target < size) (onScreen : start + size * tileWidth < 2 ^ 32)
    (short : total * stride total ≤ tileWidth) (first : 1 ≤ step) (bound : step ≤ total) :
    PartOfWay start origin target total step (BitVec.ofInt 32 (wayCoordinate start origin target total step)) ↔
      total * stride total = tileWidth ∨ target = origin := by
  have bounds : (start : Int) ≤ wayCoordinate start origin target total step ∧
      wayCoordinate start origin target total step ≤ start + size * tileWidth :=
    wayCoordinate_bounds from_grid to_grid short bound
  obtain ⟨low, high⟩ := bounds
  have isCoordinate := toNat_word (by omega) (by omega : wayCoordinate start origin target total step < 2 ^ 32)
  have stepped : ((step : Nat) : Int) ≠ 0 := by omega
  rw [PartOfWay, isCoordinate, wayCoordinate]
  constructor
  · intro part
    have balanced : (step : Int) * (((total * stride total : Nat) : Int) - tileWidth) * (target - origin) = 0 := by
      push_cast
      linear_combination part
    rcases mul_eq_zero.mp balanced with steps | still
    · left
      have filled := (mul_eq_zero.mp steps).resolve_left stepped
      omega
    · exact .inr (sub_eq_zero.mp still)
  · rintro (filled | still)
    · have filled' : (total : Int) * stride total = tileWidth := by exact_mod_cast filled
      linear_combination (step : Int) * (target - origin) * filled'
    · rw [still]
      ring

/-! ## Arriving -/

theorem effect_setEffect : (game.setEffect place effect).effect place = effect := by
  cases place with
  | sprite sprite => simp only [Game.effect, Game.setEffect, sprite_setSprite_self]
  | action sprite attack => simp only [Game.effect, Game.setEffect, sprite_setSprite_self, action_setAction]

/-- The effect after `TileEffectStart`. -/
def sentEffect (place : EffectAt) (newX newY : Int) (game : Game) : EffectTile :=
  (tileEffectStart place newX newY game).2.effect place

theorem gameGridTile_inside {x y : Int} (width : game.world.x = gameGridWidth) (height : game.world.y = gameGridHeight)
    (inside : Board.Inside x y) : ∃ tile, gameGridTile game x y = some tile := by
  obtain ⟨tile, isTile⟩ := Board.tileAt_inside inside
  exact ⟨tile, (Board.gridTile_inside width height inside).trans isTile⟩

/-- An effect of one step is at its destination at once. -/
theorem sentEffect_eq (width : game.world.x = gameGridWidth) (height : game.world.y = gameGridHeight)
    (inside : Board.Inside (game.effect place).locationX (game.effect place).locationY) (target : Board.Inside newX newY)
    (idle : (game.effect place).count = 0) :
    sentEffect place newX newY game =
      if (game.effect place).total ≤ 1 then
        { effectStart newX newY (game.effect place) with count := 0, locationX := newX, locationY := newY }
      else effectStart newX newY (game.effect place) := by
  obtain ⟨here, isHere⟩ := gameGridTile_inside width height inside
  obtain ⟨there, isThere⟩ := gameGridTile_inside width height target
  have total : (effectStart newX newY (game.effect place)).total = (game.effect place).total := rfl
  have count : (effectStart newX newY (game.effect place)).count = 1 := rfl
  simp only [sentEffect, tileEffectStart, isHere, isThere, idle, total, count, ne_eq, not_true_eq_false, if_false]
  split
  · exact effect_setEffect
  · split
    next poll _ =>
      obtain ⟨timers, same⟩ := @timerSchedule_frame
        (game.setEffect place (effectStart newX newY (game.effect place))) (.effect poll place there)
      rw [same]
      have kept : ∀ now : Game, { now with timers }.effect place = now.effect place := by
        intro now
        cases place with
        | sprite sprite => cases sprite <;> rfl
        | action sprite attack => cases sprite <;> rfl
      exact (kept _).trans effect_setEffect
    · exact effect_setEffect

/-- An effect arrives where it is sent: it is under way for one step less than it was given, ends
    at its destination, and is drawn along the straight way to it. -/
structure EffectArrives (place : EffectAt) (newX newY : Int) (game : Game) : Prop where
  underWay : ∀ steps, steps + 1 < (game.effect place).total →
    (tileEffectNext^[steps] (sentEffect place newX newY game)).count ≠ 0
  ends : (tileEffectNext^[(game.effect place).total - 1] (sentEffect place newX newY game)).count = 0
  endsX : (tileEffectNext^[(game.effect place).total - 1] (sentEffect place newX newY game)).locationX = newX
  endsY : (tileEffectNext^[(game.effect place).total - 1] (sentEffect place newX newY game)).locationY = newY
  wayX : ∀ step, 1 ≤ step → step ≤ (game.effect place).total →
    PartOfWay gameGridStartX (game.effect place).locationX newX (game.effect place).total step
      (stepPosition newX newY (game.effect place) step).x
  wayY : ∀ step, 1 ≤ step → step ≤ (game.effect place).total →
    PartOfWay gameGridStartY (game.effect place).locationY newY (game.effect place).total step
      (stepPosition newX newY (game.effect place) step).y
  reachesX : ((stepPosition newX newY (game.effect place) (game.effect place).total).x.toNat : Int) =
    gameGridStartX + newX * tileWidth
  reachesY : ((stepPosition newX newY (game.effect place) (game.effect place).total).y.toNat : Int) =
    gameGridStartY + newY * tileHeight

/-- The last part of the way is at the tile. -/
theorem PartOfWay.reaches {start : Nat} {origin target : Int} {coordinate : BitVec 32}
    (part : PartOfWay start origin target total total coordinate) (some_steps : 1 ≤ total) :
    (coordinate.toNat : Int) = start + target * tileWidth := by
  have stepped : (total : Int) ≠ 0 := by omega
  have same : (coordinate.toNat : Int) - (start + origin * tileWidth) = (target - origin) * tileWidth :=
    mul_left_cancel₀ stepped part
  linear_combination same

/-- An effect counts its steps and ends at its destination whatever its deltas are. -/
theorem sentEffect_counts (width : game.world.x = gameGridWidth) (height : game.world.y = gameGridHeight)
    (inside : Board.Inside (game.effect place).locationX (game.effect place).locationY) (target : Board.Inside newX newY)
    (idle : (game.effect place).count = 0) (some_steps : 1 ≤ (game.effect place).total) :
    (∀ steps, steps + 1 < (game.effect place).total →
      (tileEffectNext^[steps] (sentEffect place newX newY game)).count ≠ 0) ∧
    tileEffectNext^[(game.effect place).total - 1] (sentEffect place newX newY game) =
      { effectStart newX newY (game.effect place) with count := 0, locationX := newX, locationY := newY } := by
  rw [sentEffect_eq width height inside target idle]
  have total : (effectStart newX newY (game.effect place)).total = (game.effect place).total := rfl
  have count : (effectStart newX newY (game.effect place)).count = 1 := rfl
  split
  next one =>
    have isOne : (game.effect place).total - 1 = 0 := by omega
    constructor
    · intro steps before
      omega
    · rw [isOne]
      rfl
  next more =>
    obtain ⟨steps, isTotal⟩ : ∃ steps, (game.effect place).total - 1 = steps + 1 := ⟨(game.effect place).total - 2, by omega⟩
    constructor
    · intro steps before
      rw [iterate_goesOn (by omega)]
      simp [count]
    · rw [isTotal, iterate_last (by omega)]
      rfl

/-- An effect that is sent from a tile of the grid to another one, in one step or a power of two
    up to the size of a tile, arrives where it is sent if and only if it takes at most four steps
    or has no way to go. -/
theorem effect_arrives_iff (width : game.world.x = gameGridWidth) (height : game.world.y = gameGridHeight)
    (inside : Board.Inside (game.effect place).locationX (game.effect place).locationY) (target : Board.Inside newX newY)
    (idle : (game.effect place).count = 0) (power : ∃ exponent, (game.effect place).total = 2 ^ exponent)
    (bounded : (game.effect place).total ≤ tileWidth) :
    EffectArrives place newX newY game ↔
      (game.effect place).total ≤ 4 ∨
        newX = (game.effect place).locationX ∧ newY = (game.effect place).locationY := by
  have some_steps : 1 ≤ (game.effect place).total := by
    obtain ⟨exponent, isPower⟩ := power
    rw [isPower]
    exact Nat.one_le_two_pow
  obtain ⟨short, filled⟩ := strides power bounded
  have position := fun step first bound => @stepPosition_eq (game.effect place) newX newY step first bound
  obtain ⟨left, right, top, bottom⟩ := inside
  obtain ⟨left', right', top', bottom'⟩ := target
  have ways : ∀ step, 1 ≤ step → step ≤ (game.effect place).total →
      (PartOfWay gameGridStartX (game.effect place).locationX newX (game.effect place).total step
          (stepPosition newX newY (game.effect place) step).x ↔
        (game.effect place).total ≤ 4 ∨ newX = (game.effect place).locationX) ∧
      (PartOfWay gameGridStartY (game.effect place).locationY newY (game.effect place).total step
          (stepPosition newX newY (game.effect place) step).y ↔
        (game.effect place).total ≤ 4 ∨ newY = (game.effect place).locationY) := by
    intro step first bound
    rw [position step first bound, ← filled]
    exact ⟨partOfWay_iff ⟨left, right⟩ ⟨left', right'⟩ (by decide) short first bound,
      partOfWay_iff ⟨top, bottom⟩ ⟨top', bottom'⟩ (by decide) short first bound⟩
  constructor
  · intro arrives
    have first := ways 1 le_rfl some_steps
    have alongX := first.1.mp (arrives.wayX 1 le_rfl some_steps)
    have alongY := first.2.mp (arrives.wayY 1 le_rfl some_steps)
    tauto
  · intro holds
    have alongX : (game.effect place).total ≤ 4 ∨ newX = (game.effect place).locationX := holds.imp_right And.left
    have alongY : (game.effect place).total ≤ 4 ∨ newY = (game.effect place).locationY := holds.imp_right And.right
    obtain ⟨counts, ends⟩ := sentEffect_counts width height ⟨left, right, top, bottom⟩ ⟨left', right', top', bottom'⟩ idle
      some_steps
    have last := ways _ some_steps le_rfl
    refine ⟨counts, by rw [ends], by rw [ends], by rw [ends], fun step first bound => (ways step first bound).1.mpr alongX,
      fun step first bound => (ways step first bound).2.mpr alongY, ?_, ?_⟩
    · exact (last.1.mpr alongX).reaches some_steps
    · exact (last.2.mpr alongY).reaches some_steps

/-- A grid on which the player's attack is to be sent in this number of steps. -/
def sendingGame (total : Nat) : Game where
  world := { x := gameGridWidth, y := gameGridHeight }
  character := { player := { stats := { first := { effect := { total, locationX := 1, locationY := 1 } } } } }

/-- An attack to the next tile in four steps. -/
theorem effect_arrives_in_four :
    (∃ exponent, ((sendingGame 4).effect (.action .player .first)).total = 2 ^ exponent) ∧
      EffectArrives (.action .player .first) 2 1 (sendingGame 4) :=
  ⟨⟨2, rfl⟩, (effect_arrives_iff rfl rfl (by decide) (by decide) rfl ⟨2, rfl⟩ (by decide)).mpr (.inl (by decide))⟩

/-- An attack to the next tile in eight steps is only half way there when it ends. -/
theorem effect_in_eight_stays_behind :
    (∃ exponent, ((sendingGame 8).effect (.action .player .first)).total = 2 ^ exponent) ∧
      ¬ EffectArrives (.action .player .first) 2 1 (sendingGame 8) := by
  refine ⟨⟨3, rfl⟩, fun arrives => ?_⟩
  have reached := arrives.reachesX
  have drawn : (stepPosition 2 1 ((sendingGame 8).effect (.action .player .first)) 8).x = 204 := by decide
  have eight : ((sendingGame 8).effect (.action .player .first)).total = 8 := rfl
  rw [eight, drawn] at reached
  exact absurd reached (by decide)

end ComputerSystems.Verified
