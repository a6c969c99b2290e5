import ComputerSystems.Verified.GridBoard

/-! # What moves and attacks do to the board

Most of what the game does leaves its board as it is: timers, the effects of attacks,
hiding and showing a sprite.  The start of a move changes only where a sprite is sent,
and its end takes the sprite from one list to another; an attack may take the attacked
off the grid and leave an item in its place.
-/

namespace ComputerSystems.Verified

open ComputerSystems.Data ComputerSystems.VirtualWorld
open ComputerSystems.System (DoubleLink listRemove listAppend)

variable {game : Game} {sprite other : Sprite} {setting : Board.Setting}

/-! ## Flags -/

/-- The flags that say what a sprite is. -/
def kindMask : BitVec 32 := isItem ||| isCreature ||| isPlayer ||| isDead

/-- The flags say the same. -/
def SameKind (flags flags' : BitVec 32) : Prop := flags' &&& kindMask = flags &&& kindMask

theorem and_or_of_disjoint {flags mask part : BitVec 32} (disjoint : mask &&& part = 0) :
    (flags ||| mask) &&& part = flags &&& part := by
  rw [BitVec.and_or_distrib_right, disjoint]
  simp

theorem and_not_of_disjoint {flags mask part : BitVec 32} (disjoint : mask &&& part = 0) :
    (flags &&& ~~~mask) &&& part = flags &&& part := by
  ext i inside
  have bit := congrArg (fun value => value[i]) disjoint
  simp only [BitVec.getElem_and, BitVec.getElem_not] at bit ⊢
  grind

namespace SameKind

variable {flags flags' flags'' : BitVec 32}

theorem refl : SameKind flags flags := rfl

theorem trans (first : SameKind flags flags') (second : SameKind flags' flags'') : SameKind flags flags'' :=
  Eq.trans second first

theorem or {mask : BitVec 32} (disjoint : mask &&& kindMask = 0) : SameKind flags (flags ||| mask) :=
  and_or_of_disjoint disjoint

theorem andNot {mask : BitVec 32} (disjoint : mask &&& kindMask = 0) : SameKind flags (flags &&& ~~~mask) :=
  and_not_of_disjoint disjoint

theorem has (same : SameKind flags flags') (mask : BitVec 32) (part : kindMask &&& mask = mask) :
    has flags' mask = has flags mask := by
  have whole : ∀ flags : BitVec 32, flags &&& mask = (flags &&& kindMask) &&& mask := by
    intro flags
    rw [BitVec.and_assoc, part]
  rw [VirtualWorld.has, VirtualWorld.has, whole flags', whole flags, show flags' &&& kindMask = flags &&& kindMask from same]

end SameKind

theorem has_or_self {flags mask : BitVec 32} (nonzero : mask ≠ 0) : has (flags ||| mask) mask = true := by
  have whole : (flags ||| mask) &&& mask = mask := by
    ext i inside
    simp only [BitVec.getElem_and, BitVec.getElem_or]
    grind
  rw [has, whole]
  exact bne_iff_ne.mpr nonzero

/-! ## Standing -/

/-- A sprite with other flags that say the same. -/
theorem standing_flags {value : SpriteTile} {flags : BitVec 32} (same : SameKind value.effect.tile.flags flags) :
    standing { value with effect := { value.effect with tile := { value.effect.tile with flags } } } = standing value := by
  simp only [standing, same.has isItem (by decide), same.has isCreature (by decide), same.has isPlayer (by decide),
    same.has isDead (by decide)]

theorem standing_setAction {value : SpriteTile} {attack : Attack} {action : ActionTile} :
    standing (value.setAction attack action) = standing value := by
  cases attack <;> rfl

theorem standing_prepareMove {value : SpriteTile} {poll : EffectPoll} :
    standing (value.prepareMove poll) = standing value := by
  have same : SameKind value.effect.tile.flags (value.effect.tile.flags &&& ~~~isVisible ||| isVisible) :=
    SameKind.trans (.andNot (by decide)) (.or (by decide))
  exact standing_flags same

/-- Turning the bitmap of a sprite, or not. -/
theorem SameKind.turn {flags mask : BitVec 32} {keeps sets : Prop} [Decidable keeps] [Decidable sets]
    (disjoint : mask &&& kindMask = 0) :
    SameKind flags (if keeps then flags else if sets then flags ||| mask else flags &&& ~~~mask) := by
  split
  · exact .refl
  · split
    · exact .or disjoint
    · exact .andNot disjoint

theorem effectStart_flags {effect : EffectTile} {x y : Int} :
    SameKind effect.tile.flags (effectStart x y effect).tile.flags :=
  SameKind.trans (.turn (by decide : showReverse &&& kindMask = 0)) (.turn (by decide : showFlipped &&& kindMask = 0))

/-- A sprite that is sent somewhere. -/
theorem standing_effectStart {value : SpriteTile} {x y : Int} :
    standing { value with effect := effectStart x y value.effect } =
      { standing value with destinationX := x, destinationY := y } := by
  have same := @effectStart_flags value.effect x y
  simp only [standing, same.has isItem (by decide), same.has isCreature (by decide), same.has isPlayer (by decide),
    same.has isDead (by decide)]
  rfl

/-! ## What leaves the board as it is -/

theorem sprite_setSprite {value : SpriteTile} :
    (game.setSprite sprite value).sprite other = if other = sprite then value else game.sprite other := by
  cases sprite with
  | player => cases other <;> simp [Game.setSprite, Game.sprite]
  | creature i =>
    cases other with
    | player => simp [Game.setSprite, Game.sprite]
    | creature j =>
      by_cases same : j = i
      · simp [Game.setSprite, Game.sprite, same]
      · simp [Game.setSprite, Game.sprite, same]

@[simp] theorem sprite_setSprite_self {value : SpriteTile} : (game.setSprite sprite value).sprite sprite = value := by
  rw [sprite_setSprite, if_pos rfl]

theorem board_setSprite {value : SpriteTile} :
    board (game.setSprite sprite value) = (board game).setSprite sprite (standing value) := by
  have sprites : (fun other => standing ((game.setSprite sprite value).sprite other)) =
      Function.update (fun other => standing (game.sprite other)) sprite (standing value) := by
    funext other
    rw [sprite_setSprite]
    by_cases same : other = sprite
    · rw [same, if_pos rfl, Function.update_self]
    · rw [if_neg same, Function.update_of_ne same]
  cases sprite with
  | player => simp only [board, Board.setSprite, ← sprites]; rfl
  | creature i => simp only [board, Board.setSprite, ← sprites]; rfl

/-- A sprite that is changed where the board does not look. -/
theorem board_setSprite_same {value : SpriteTile} (same : standing value = standing (game.sprite sprite)) :
    board (game.setSprite sprite value) = board game := by
  rw [board_setSprite, same]
  exact Board.setSprite_self

theorem board_setFlags {flags : BitVec 32} (same : SameKind (game.flags sprite) flags) :
    board (game.setFlags sprite flags) = board game :=
  board_setSprite_same (standing_flags same)

theorem board_setAction {attack : Attack} {effect : EffectTile} :
    board (game.setEffect (.action sprite attack) effect) = board game :=
  board_setSprite_same standing_setAction

/-- A timer that fits takes an element that is free. -/
theorem board_timerSchedule {timer : GameTimer} (fits : GameTimer.fits timer = true) :
    board (timerSchedule timer game).2 = board game := by
  rw [timerSchedule]
  split
  next slot found =>
    have free : game.timers slot = .free := by simpa using List.find?_some found
    have same : (∀ other, TimerSlot.fits (Function.update game.timers slot (.game timer) other) = true) =
        ∀ other, TimerSlot.fits (game.timers other) = true := by
      rw [eq_iff_iff, Function.forall_update_iff game.timers fun _ taken => TimerSlot.fits taken = true]
      constructor
      · rintro ⟨_, others⟩ other
        by_cases isSlot : other = slot
        · rw [isSlot, free]
          rfl
        · exact others other isSlot
      · intro all
        exact ⟨fits, fun other _ => all other⟩
    simp only [board, same]
    rfl
  · rfl

/-- An element of `TimerTasks` that fits takes the place of one that did. -/
theorem board_setTimer {slot : Fin maxTimerTasks} {timer : TimerSlot} (fits : (board game).timersFit)
    (fit : TimerSlot.fits timer = true) :
    board { game with timers := Function.update game.timers slot timer } = board game := by
  have all : ∀ other, TimerSlot.fits (game.timers other) = true := fits
  have same : (∀ other, TimerSlot.fits (Function.update game.timers slot timer other) = true) =
      ∀ other, TimerSlot.fits (game.timers other) = true := by
    rw [eq_iff_iff, Function.forall_update_iff game.timers fun _ taken => TimerSlot.fits taken = true]
    exact ⟨fun _ => all, fun _ => ⟨fit, fun other _ => all other⟩⟩
  simp only [board, same]
  rfl

theorem board_timerCancel {slot : Option (Fin maxTimerTasks)} (fits : (board game).timersFit) :
    board (timerCancel slot game) = board game := by
  cases slot with
  | none => rfl
  | some slot => exact board_setTimer fits rfl

theorem board_scheduleRound : board game.scheduleRound = board game := by
  have scheduled := @board_timerSchedule game .round rfl
  have same : (timerSchedule .round game).2.world = game.world := by
    rw [timerSchedule]
    split <;> rfl
  rw [← scheduled]
  rfl

theorem board_cancelRound (fits : (board game).timersFit) : board game.cancelRound = board game := by
  have cancelled := @board_timerCancel game game.world.round fits
  have same : (timerCancel game.world.round game).world = game.world := by
    cases game.world.round <;> rfl
  rw [← cancelled]
  simp only [Game.cancelRound, board, same]
  rfl

theorem board_show : board (game.show sprite) = board game := board_setFlags (.or (by decide))

theorem board_again {poll : EffectPoll} {place : EffectAt} {context : TileIndex}
    (fits : GameTimer.fits (.effect poll place context) = true) : board (game.again poll place context) = board game :=
  board_timerSchedule fits

theorem board_setScratch {scratch : UInt8} : board (game.setScratch sprite scratch) = board game :=
  board_setSprite_same rfl

/-! ## Starting effects -/

@[simp] theorem world_setSprite {value : SpriteTile} : (game.setSprite sprite value).world = game.world := by
  cases sprite <;> rfl

theorem tileUnder_eq : game.tileUnder sprite = (board game).under sprite := rfl

/-- The effect of an attack. -/
theorem board_startAction {attack : Attack} {x y : Int}
    (polls : (game.effect (.action sprite attack)).poll = some .attack) :
    board (tileEffectStart (.action sprite attack) x y game).2 = board game := by
  simp only [tileEffectStart]
  split
  · split
    · rfl
    · split
      · exact board_setAction
      · have same : (effectStart x y (game.effect (.action sprite attack))).poll = some .attack := polls
        rw [same]
        exact (board_timerSchedule rfl).trans board_setAction
  · rfl

theorem action_setAction {value : SpriteTile} {attack : Attack} {action : ActionTile} :
    (value.setAction attack action).action attack = action := by
  cases attack <;> rfl

theorem board_launch {attack : Attack} {attacked : Sprite} :
    board (game.launch sprite attack attacked).2 = board game := by
  refine (board_startAction ?_).trans board_setAction
  simp only [Game.effect, Game.setEffect, sprite_setSprite_self, action_setAction]

/-- A place that `GameGridTile` finds. -/
theorem inside_of_gameGridTile (facts : (board game).Facts setting) {x y : Int} {tile : TileIndex}
    (found : gameGridTile game x y = some tile) : Board.Inside x y := by
  have width : game.world.x = gameGridWidth := facts.width
  have height : game.world.y = gameGridHeight := facts.height
  rw [gameGridTile, width, height] at found
  by_cases outside : (gameGridWidth : Int) ≤ x ∨ (gameGridHeight : Int) ≤ y ∨ x < 0 ∨ y < 0
  · rw [if_pos outside] at found
    cases found
  · simp only [Board.Inside]
    omega

/-- The start of a move is refused, or the sprite is sent to a place on the grid. -/
theorem startMove_cases {poll : EffectPoll} (sprite : Sprite) (x y : Int) (game : Game)
    (timerFits : ∀ context, GameTimer.fits (.effect poll (.sprite sprite) context) = true) :
    let started := tileEffectStart (.sprite sprite) x y (game.setSprite sprite ((game.sprite sprite).prepareMove poll))
    (started.1 = .refused ∧ board started.2 = board game) ∨
      (started.1 = .scheduled ∧ (gameGridTile game x y).isSome ∧
        board started.2 = (board game).setSprite sprite
          { standing (game.sprite sprite) with destinationX := x, destinationY := y }) := by
  have prepared := @board_setSprite_same game sprite ((game.sprite sprite).prepareMove poll) standing_prepareMove
  have grid : ∀ x y, gameGridTile (game.setSprite sprite ((game.sprite sprite).prepareMove poll)) x y =
      gameGridTile game x y := by
    intro x y
    rw [gameGridTile, gameGridTile, world_setSprite]
  have sent : board ((game.setSprite sprite ((game.sprite sprite).prepareMove poll)).setEffect (.sprite sprite)
      (effectStart x y ((game.sprite sprite).prepareMove poll).effect)) = (board game).setSprite sprite
        { standing (game.sprite sprite) with destinationX := x, destinationY := y } := by
    rw [Game.setEffect, board_setSprite, prepared, sprite_setSprite_self, standing_effectStart, standing_prepareMove]
  simp only [tileEffectStart, Game.effect, sprite_setSprite_self, grid]
  split
  next target _ found =>
    have polls : (effectStart x y ((game.sprite sprite).prepareMove poll).effect).poll = some poll := rfl
    split
    · exact .inl ⟨rfl, prepared⟩
    · -- a move has four steps, so the first is not the last
      rw [if_neg (by simp [effectStart, SpriteTile.prepareMove]), polls, found]
      exact .inr ⟨rfl, rfl, (board_timerSchedule (timerFits _)).trans sent⟩
  · exact .inl ⟨rfl, prepared⟩

/-! ## Moves -/

/-- A sprite that is on the grid or not as before, and at the same place. -/
theorem standsOn_setSprite_self {board : Board} {value : Standing}
    (remains : value.remains (board.takes sprite) = (board.sprites sprite).remains (board.takes sprite))
    (place : value.tile board.width board.height = (board.sprites sprite).tile board.width board.height) :
    (board.setSprite sprite value).standsOn sprite = board.standsOn sprite := by
  have on : (board.setSprite sprite value).onGrid sprite = board.onGrid sprite := by
    rw [Board.onGrid, Board.onGrid, Board.setSprite_inPlay, Board.setSprite_sprites, Function.update_self]
    exact congrArg _ remains
  rw [Board.standsOn, Board.standsOn, on, Board.under, Board.under, Board.setSprite_sprites, Function.update_self]
  exact congrArg (fun tile => if board.onGrid sprite = true then tile else none) place

theorem wp_startMove (sound : (board game).Sound setting) {poll : EffectPoll} {x y : Int}
    (timerFits : ∀ context, GameTimer.fits (.effect poll (.sprite sprite) context) = true) :
    Wp (startMove poll sprite x y)
      (fun started later => (∀ context, started ≠ .polls context) ∧ (board later).Sound setting) game := by
  rw [startMove, wp_change]
  cases startMove_cases sprite x y game timerFits with
  | inl refused => exact ⟨by simp [refused.1], refused.2 ▸ sound⟩
  | inr sent =>
    obtain ⟨scheduled, found, sent⟩ := sent
    obtain ⟨tile, found⟩ := Option.isSome_iff_exists.mp found
    refine ⟨by simp [scheduled], ?_⟩
    rw [sent]
    apply sound.setSprite
    · intro plays
      have fits := sound.facts.fits sprite plays
      exact { fits with destination := inside_of_gameGridTile sound.facts found }
    · exact standsOn_setSprite_self rfl rfl

theorem wp_spriteMove (sound : (board game).Sound setting) {x y : Int} :
    Wp (spriteMove sprite x y) (fun _ later => (board later).Sound setting) game := by
  simp only [spriteMove, wp_state_bind]
  split
  · exact (wp_pure _).mpr sound
  · apply Wp.bind
    apply (wp_startMove sound fun _ => rfl).mono
    intro started later goes
    cases started with
    | refused => exact (wp_pure _).mpr goes.2
    | scheduled => exact (wp_pure _).mpr goes.2
    | polls context => exact absurd rfl (goes.1 context)

theorem randomOffset_draws : OnlyDraws randomOffset := .bind .draw fun _ => .pure _

theorem wp_spriteMoveRandom (sound : (board game).Sound setting) :
    Wp (spriteMoveRandom sprite) (fun _ later => (board later).Sound setting) game := by
  simp only [spriteMoveRandom, wp_state_bind]
  split
  · exact (wp_pure _).mpr sound
  · apply Wp.bind_draws randomOffset_draws
    intro randX
    apply Wp.bind_draws randomOffset_draws
    intro randY
    split
    · apply Wp.bind
      apply (wp_spriteMove sound).mono
      intro _ later kept
      exact (wp_pure _).mpr kept
    · exact (wp_pure _).mpr sound

/-- `ListAppend` to a tile where that is possible. -/
theorem wp_append {node : Node} {tile : TileIndex} (links : Node → DoubleLink Node) {post : Unit → Game → Prop}
    (appends : listAppend nodeCount node (.tile tile) game.links = some links)
    (holds : post () { game with links }) : Wp (append node tile) post game := by
  rw [VirtualWorld.append]
  apply Wp.bind
  refine @Wp.look _ _ _ _ _ _ links (by rw [appends]) ?_
  rw [wp_update]
  exact holds

/-- The end of a move: a sprite that is on the grid, and perhaps at a new place, goes to
    the list of its tile. -/
theorem wp_relink {before : Board} {value : Standing} (sound : before.Sound setting) (on : before.onGrid sprite = true)
    (now : board game = before.setSprite sprite value) (fits : Board.Fits before.taken setting sprite value)
    (remains : value.remains (before.takes sprite) = true) :
    Wp (relink sprite)
      (fun _ later => ∃ links, later = { game with links } ∧ (board later).Sound setting ∧
        ∀ (select : Node → Bool) (game' : Game) (searched : TileIndex), select (.sprite sprite) = false →
          game'.links = before.links → findTile select searched later = findTile select searched game') game := by
  have plays := Board.onGrid_inPlay on
  have facts := sound.facts.setSprite (fun _ => fits)
  have on' : (before.setSprite sprite value).onGrid sprite = true := by
    rw [Board.onGrid, Board.setSprite_inPlay, plays, Board.setSprite_sprites, Function.update_self]
    exact remains
  obtain ⟨here, standsHere⟩ := sound.facts.standsOn on
  obtain ⟨there, standsThere⟩ := facts.standsOn on'
  obtain ⟨links, appends, agrees, searches⟩ := sound.agrees.move standsHere standsThere
    fun other apart => Board.standsOn_setSprite_of_ne apart
  have same : game.links = before.links := congrArg Board.links now
  -- unlinking changes no location, so the list that is appended to is that of the new tile
  have under : (game.unlink (.sprite sprite)).tileUnder sprite = some there := by
    have inside : (board game).under sprite = some there := now ▸ (Board.standsOn_iff.mp standsThere).2
    exact inside
  simp only [relink, wp_update_bind, wp_state_bind, under]
  apply wp_append links
  · rw [← appends, ← same]
    rfl
  · have later : board { game.unlink (.sprite sprite) with links } = { before.setSprite sprite value with links } := by
      rw [← now]
      rfl
    refine ⟨links, rfl, ?_, ?_⟩
    · rw [later]
      exact ⟨{ facts with }, agrees⟩
    · intro select game' searched skips isBefore
      exact searches select game' _ searched skips isBefore rfl

/-- Whether the next step of an effect is its last. -/
def completes (effect : EffectTile) : Bool := effect.count = 0 ∨ effect.total ≤ effect.count + 1

/-- A sprite that has arrived. -/
def arrived (value : Standing) : Standing :=
  { value with locationX := value.destinationX, locationY := value.destinationY }

/-- The next step of a move: it goes on, or the sprite has arrived if it was moving. -/
theorem advance_cases (sprite : Sprite) (game : Game) :
    let advanced := game.advance (.sprite sprite)
    let effect := (game.sprite sprite).effect
    ((advanced.sprite sprite).effect.count ≠ 0 ∧ completes effect = false ∧ board advanced = board game) ∨
      ((advanced.sprite sprite).effect.count = 0 ∧ completes effect = true ∧
        ∃ value, board advanced = (board game).setSprite sprite value ∧
          (value = standing (game.sprite sprite) ∨ value = arrived (standing (game.sprite sprite)))) := by
  by_cases active : (game.sprite sprite).effect.count = 0
  · have still : game.advance (.sprite sprite) = game := if_neg (not_not.mpr active)
    simp only [still]
    exact .inr ⟨active, by simp [completes, active], _, Board.setSprite_self.symm, .inl rfl⟩
  · have steps : game.advance (.sprite sprite) = game.setSprite sprite
        { game.sprite sprite with effect := tileEffectNext (game.sprite sprite).effect } := if_pos active
    simp only [steps, sprite_setSprite_self]
    by_cases last : (game.sprite sprite).effect.total ≤ (game.sprite sprite).effect.count + 1
    · right
      simp only [tileEffectNext, if_pos last]
      exact ⟨trivial, by simp [completes, last], _, board_setSprite, .inr rfl⟩
    · left
      simp only [tileEffectNext, if_neg last]
      exact ⟨by simp, by simpa [completes, active] using last, board_setSprite_same rfl⟩

/-- Arriving does not change what a sprite is. -/
theorem fits_arrived {taken : CreatureIndex → Bool} {before value : Standing}
    (isValue : value = before ∨ value = arrived before) (fits : Board.Fits taken setting sprite before) :
    Board.Fits taken setting sprite value := by
  cases isValue with
  | inl same => exact same ▸ fits
  | inr moved =>
    subst moved
    exact { fits with location := fits.destination, destination := fits.destination }

/-- A sprite of the grid remains on it when it arrives. -/
theorem remains_arrived {board : Board} {value : Standing} (on : board.onGrid sprite = true)
    (isValue : value = board.sprites sprite ∨ value = arrived (board.sprites sprite)) :
    value.remains (board.takes sprite) = true := by
  simp only [Board.onGrid, Bool.and_eq_true] at on
  cases isValue with
  | inl same => exact same ▸ on.2
  | inr moved =>
    subst moved
    exact on.2

/-- `sprite_move_callback` of a sprite that is on the grid if this is its last step. -/
theorem wp_spriteMoveCallback (sound : (board game).Sound setting) {context : TileIndex}
    (on : completes (game.sprite sprite).effect = true → (board game).onGrid sprite = true) :
    Wp (spriteMoveCallback sprite context) (fun _ later => (board later).Sound setting) game := by
  simp only [spriteMoveCallback, wp_update_bind, wp_state_bind]
  cases advance_cases sprite game with
  | inl goesOn =>
    rw [if_pos goesOn.1, wp_update, board_again rfl, goesOn.2.2]
    exact sound
  | inr last =>
    obtain ⟨done, completes, value, now, isValue⟩ := last
    have onGrid := on completes
    have fits := fits_arrived isValue (sound.facts.fits sprite (Board.onGrid_inPlay onGrid))
    rw [if_neg (by simpa using done)]
    apply (wp_relink sound onGrid now fits (remains_arrived onGrid isValue)).mono
    rintro _ _ ⟨_, _, kept, _⟩
    exact kept

/-! ## Attacks -/

theorem d20_draws : OnlyDraws d20 := .bind .draw fun _ => .pure _

theorem d16_draws : OnlyDraws d16 := .bind .draw fun _ => .pure _

theorem dice_draws : ∀ count, OnlyDraws (dice count)
  | 0 => .pure 0
  | count + 1 => .bind .draw fun _ => .bind (dice_draws count) fun _ => .pure _

theorem rollItem_draws {score : Nat} : OnlyDraws (rollItem score) := by
  refine .bind d16_draws fun roll => ?_
  split
  · exact .pure _
  · exact .bind d16_draws fun _ => .pure _

theorem attackRoll_draws {attacker : Sprite} : OnlyDraws (attackRoll attacker) := by
  refine .bind d20_draws fun roll => .state_bind fun now => ?_
  split
  · exact .pure _
  · exact .bind d20_draws fun _ => .pure _

/-- The damage is rolled, and the attacker shows itself. -/
theorem wp_rollDamage {attacker : Sprite} {affect : Nat} {post : Nat → Game → Prop}
    (holds : ∀ damage later, board later = board game → post damage later) :
    Wp (rollDamage attacker affect) post game := by
  apply Wp.bind_draws (dice_draws affect)
  intro damage
  rw [wp_state_bind]
  split
  · exact (wp_pure _).mpr (holds _ _ rfl)
  · apply Wp.bind_draws (dice_draws affect)
    intro more
    rw [wp_update_bind, wp_pure]
    exact holds _ _ board_show

/-- What an attack may be made on: a sprite of the grid that is no item. -/
structure Attackable (board : Board) (attacker attacked : Sprite) : Prop where
  plays : board.inPlay attacker = true
  on : board.onGrid attacked = true
  item : (board.sprites attacked).item = false
  apart : attacked ≠ attacker

/-- A sprite that has been killed. -/
def slain (value : Standing) : Standing := { value with killed := true, spent := true, dead := true }

/-- A killed sprite that has left an item. -/
def dropped (value : Standing) : Standing := { value with item := true, creature := false, player := false, dead := false }

theorem board_unlink {node : Node} :
    board (game.unlink node) = { board game with links := listRemove (game.links node) game.links } := rfl

theorem standing_dead {value : SpriteTile} :
    standing { value with effect := { value.effect with
      tile := { value.effect.tile with flags := value.effect.tile.flags ||| isDead } } } =
      { standing value with dead := true } := by
  simp only [standing, has, and_or_of_disjoint (by decide : isDead &&& isItem = 0),
    and_or_of_disjoint (by decide : isDead &&& isCreature = 0), and_or_of_disjoint (by decide : isDead &&& isPlayer = 0)]
  congr 1
  exact has_or_self (by decide)

/-- The death of a sprite. -/
theorem board_die {hp : Int} (negative : hp < 0) :
    board ((game.setHp sprite hp).die sprite) =
      { (board game).setSprite sprite (slain (standing (game.sprite sprite))) with
        links := listRemove (game.links (.sprite sprite)) game.links } := by
  have links : (game.setHp sprite hp).links = game.links := by
    cases sprite <;> rfl
  have hit : (game.setHp sprite hp).sprite sprite =
      { game.sprite sprite with stats := { (game.sprite sprite).stats with hp } } := sprite_setSprite_self
  have struck : { standing ((game.setHp sprite hp).sprite sprite) with dead := true } =
      slain (standing (game.sprite sprite)) := by
    simp [hit, standing, slain, negative, Int.le_of_lt negative]
  have unlinked : ((game.setHp sprite hp).unlink (.sprite sprite)).sprite sprite = (game.setHp sprite hp).sprite sprite := by
    cases sprite <;> rfl
  rw [Game.die, Game.setFlags, board_setSprite, unlinked, Game.flags, standing_dead, struck, board_unlink, links,
    Game.setHp, board_setSprite]
  simp only [Board.setSprite, Function.update_idem]

/-- A killed creature leaves an item. -/
theorem board_becomeItem {tileNum : Int} :
    board (game.becomeItem sprite tileNum) =
      { (board game).setSprite sprite (dropped (standing (game.sprite sprite))) with
        links := Function.update game.links (.sprite sprite) {} } := by
  have left : standing { game.sprite sprite with effect := { (game.sprite sprite).effect with
      tile := { bitmap := some .equipment, tileNum, flags := isItem ||| isVisible } } } =
        dropped (standing (game.sprite sprite)) := by
    simp only [standing, dropped]
    congr 1
  have changed := @board_setSprite game sprite { game.sprite sprite with effect := { (game.sprite sprite).effect with
      tile := { bitmap := some .equipment, tileNum, flags := isItem ||| isVisible } } }
  rw [left] at changed
  rw [← changed]
  rfl

/-- Facts do not depend on the links. -/
theorem Board.Facts.relinked {board : Board} (facts : board.Facts setting) (links : Node → DoubleLink Node) :
    ({ board with links } : Board).Facts setting :=
  { facts with }

theorem Board.onGrid_setSprite_self {board : Board} {value : Standing} :
    (board.setSprite sprite value).onGrid sprite = (board.inPlay sprite && value.remains (board.takes sprite)) := by
  rw [Board.onGrid, Board.setSprite_inPlay, Board.setSprite_sprites, Function.update_self]
  rfl

/-- A creature that has not been taken for an item, since it was none. -/
theorem Board.Facts.not_taken {board : Board} (facts : board.Facts setting) (plays : board.inPlay sprite = true)
    (plain : (board.sprites sprite).item = false) : board.takes sprite = false := by
  cases sprite with
  | player => rfl
  | creature i =>
    by_contra taken
    have item := (facts.fits _ plays).taken i rfl (by simpa [Board.takes] using taken)
    rw [plain] at item
    cases item

/-- An item is dropped where a creature has been killed. -/
theorem wp_defeatCreature (sound : (board game).Sound setting) (plays : (board game).inPlay sprite = true)
    (creature : sprite ≠ .player) (killed : ((board game).sprites sprite).killed = true)
    (spent : ((board game).sprites sprite).spent = true) (plain : ((board game).sprites sprite).item = false) :
    Wp (defeatCreature sprite) (fun _ later => (board later).Sound setting) game := by
  have fits := sound.facts.fits sprite plays
  have untaken := sound.facts.not_taken plays plain
  have fits' : Board.Fits (board game).taken setting sprite (dropped ((board game).sprites sprite)) := {
    location := fits.location
    destination := fits.destination
    player := by simp [dropped, creature]
    item := by simp [dropped]
    killed := by simp [dropped]
    taken := by simp [dropped]
    world := fits.world
    cleric := fits.cleric
    idle := fun _ => .inl spent }
  -- the killed creature is in no list, so its links may be cleared before it is appended
  have absent : (board game).standsOn sprite = none := by
    rw [Board.standsOn, Board.onGrid, plays, Standing.remains, plain, killed]
    rfl
  have facts := sound.facts.setSprite fun _ => fits'
  have on : ((board game).setSprite sprite (dropped ((board game).sprites sprite))).onGrid sprite = true := by
    rw [Board.onGrid_setSprite_self, plays, untaken]
    rfl
  obtain ⟨tile, there⟩ := facts.standsOn on
  obtain ⟨links, appends, agrees⟩ := sound.agrees.enter absent (.inr ⟨{}, rfl⟩) there
    fun other apart => Board.standsOn_setSprite_of_ne apart
  rw [defeatCreature, wp_update_bind]
  apply Wp.bind_draws d16_draws
  intro roll
  split
  · rw [wp_state_bind]
    apply Wp.bind_draws rollItem_draws
    intro item
    rw [wp_update_bind, wp_state_bind]
    have scored : board { game with world := { game.world with score := game.world.score + 1 } } = board game := rfl
    have dropping := @board_becomeItem { game with world := { game.world with score := game.world.score + 1 } } sprite item
    rw [scored] at dropping
    have under := congrArg (fun now : Board => now.under sprite) dropping
    rw [tileUnder_eq, under.trans (Board.standsOn_iff.mp there).2]
    apply wp_append links
    · rw [← appends]
      exact congrArg (listAppend nodeCount (.sprite sprite) (.tile tile)) (congrArg Board.links dropping)
    · have later : board { Game.becomeItem sprite item { game with world := { game.world with score := game.world.score + 1 } }
          with links } = { (board game).setSprite sprite (dropped ((board game).sprites sprite)) with links } :=
        congrArg (fun now : Board => { now with links }) dropping
      rw [later]
      exact ⟨facts.relinked links, agrees⟩
  · exact (wp_pure _).mpr sound

/-- A sprite that has been hit and is still on the grid. -/
theorem Sound.hurt (sound : (board game).Sound setting) {hp : Int} (less : hp ≤ (game.sprite sprite).stats.hp)
    (alive : 0 ≤ hp) : (board (game.setHp sprite hp)).Sound setting := by
  have before : 0 ≤ (game.sprite sprite).stats.hp := Int.le_trans alive less
  have hit : standing { game.sprite sprite with stats := { (game.sprite sprite).stats with hp } } =
      { (board game).sprites sprite with spent := decide (hp ≤ 0) } := by
    have same : decide (hp < 0) = decide ((game.sprite sprite).stats.hp < 0) := by
      rw [decide_eq_false (by omega), decide_eq_false (by omega)]
    simp only [standing, board, same]
  rw [Game.setHp, board_setSprite, hit]
  apply sound.setSprite
  · intro plays
    have fits := sound.facts.fits sprite plays
    -- hit points only get fewer, so who could not act still cannot
    refine { fits with idle := ?_ }
    intro isIdle
    cases fits.idle isIdle with
    | inl spent =>
      have low : (game.sprite sprite).stats.hp ≤ 0 := of_decide_eq_true spent
      exact .inl (decide_eq_true (by omega))
    | inr dead => exact .inr dead
  · exact standsOn_setSprite_self rfl rfl

/-- The death of a sprite that is on the grid takes it off. -/
theorem Sound.slay {board : Board} (sound : board.Sound setting) (on : board.onGrid sprite = true)
    (plain : (board.sprites sprite).item = false) :
    Board.Sound setting { board.setSprite sprite (slain (board.sprites sprite)) with
      links := listRemove (board.links (.sprite sprite)) board.links } := by
  have plays := Board.onGrid_inPlay on
  have fits := sound.facts.fits sprite plays
  obtain ⟨tile, there⟩ := sound.facts.standsOn on
  have fits' : Board.Fits board.taken setting sprite (slain (board.sprites sprite)) :=
    { fits with killed := fun _ => .inl rfl, idle := fun _ => .inl rfl }
  have facts := sound.facts.setSprite fun _ => fits'
  refine ⟨facts.relinked _, sound.agrees.leave there rfl ?_ ?_⟩
  · change (board.setSprite sprite (slain (board.sprites sprite))).standsOn sprite = none
    rw [Board.standsOn, Board.onGrid_setSprite_self, Standing.remains, slain, plain]
    simp
  · intro other apart
    change (board.setSprite sprite (slain (board.sprites sprite))).standsOn other = board.standsOn other
    exact Board.standsOn_setSprite_of_ne apart

/-- A hit, which may kill. -/
theorem wp_strike {attacker attacked : Sprite} {affect modifier : Nat} (sound : (board game).Sound setting)
    (attackable : Attackable (board game) attacker attacked) :
    Wp (strike attacker affect modifier attacked) (fun _ later => (board later).Sound setting) game := by
  rw [strike]
  apply Wp.bind
  apply wp_rollDamage
  intro damage struck same
  rw [← same] at sound attackable
  simp only [wp_update_bind, wp_state_bind]
  have hp : ((struck.setHp attacked ((struck.sprite attacked).stats.hp - (damage + modifier : Nat))).sprite attacked).stats.hp =
      (struck.sprite attacked).stats.hp - (damage + modifier : Nat) := by
    rw [Game.setHp, sprite_setSprite_self]
  rw [hp]
  split
  next negative =>
    -- the attacked dies, and a creature that the player has killed may leave an item
    have dies := @board_die struck attacked _ negative
    have slainSound : (board ((struck.setHp attacked
        ((struck.sprite attacked).stats.hp - (damage + modifier : Nat))).die attacked)).Sound setting := by
      rw [dies]
      exact Sound.slay sound attackable.on attackable.item
    rw [wp_update_bind, wp_state_bind]
    split
    next byPlayer =>
      have isPlayer : attacker = .player := by
        have fits := slainSound.facts.fits attacker (by rw [dies]; exact attackable.plays)
        exact fits.player.mp byPlayer
      have creature : attacked ≠ .player := isPlayer ▸ attackable.apart
      have killed : (board ((struck.setHp attacked
          ((struck.sprite attacked).stats.hp - (damage + modifier : Nat))).die attacked)).sprites attacked =
            slain ((board struck).sprites attacked) := by
        rw [dies]
        exact Function.update_self ..
      apply wp_defeatCreature slainSound _ creature (by rw [killed]; rfl) (by rw [killed]; rfl)
      · rw [killed]
        exact attackable.item
      · rw [dies]
        have plays := Board.onGrid_inPlay attackable.on
        exact plays
    · exact (wp_pure _).mpr slainSound
  next alive =>
    rw [wp_pure]
    exact Sound.hurt sound (by omega) (by omega)

theorem board_advanceAction {attack : Attack} : board (game.advance (.action sprite attack)) = board game := by
  rw [Game.advance]
  split
  · exact board_setAction
  · rfl

theorem wp_attackCallback {attack : Attack} {context : TileIndex} :
    Wp (attackCallback sprite attack context) (fun _ later => board later = board game) game := by
  have same : board (if ((game.advance (.action sprite attack)).effect (.action sprite attack)).count ≠ 0 then
      (game.advance (.action sprite attack)).again .attack (.action sprite attack) context
      else game.advance (.action sprite attack)) = board game := by
    split
    · exact (board_again rfl).trans board_advanceAction
    · exact board_advanceAction
  rw [attackCallback, wp_update]
  exact same

/-- `creature_attack` on a sprite of the grid. -/
theorem wp_creatureAttack {attacker attacked : Sprite} {attack : Attack} (sound : (board game).Sound setting)
    (attackable : Attackable (board game) attacker attacked) :
    Wp (creatureAttack attacker attack attacked) (fun _ later => (board later).Sound setting) game := by
  -- however the effect of the attack was started, the board is as before when it hits
  have strikes : ∀ now affect modifier (hits : Prop) [Decidable hits], board now = board game →
      Wp (if hits then do
          strike attacker affect modifier attacked
          Program.update (Game.show attacker)
        else Program.update (Game.show attacker)) (fun _ later => (board later).Sound setting) now := by
    intro now affect modifier hits _ same
    split
    · apply Wp.bind
      apply (wp_strike (same ▸ sound) (same ▸ attackable)).mono
      intro _ later kept
      rw [wp_update, board_show]
      exact kept
    · rw [wp_update, board_show, same]
      exact sound
  simp only [creatureAttack, wp_state_bind]
  split
  · exact (wp_pure _).mpr sound
  · apply Wp.bind_draws attackRoll_draws
    intro roll
    apply Wp.bind
    rw [wp_change]
    split
    · apply Wp.bind
      apply wp_attackCallback.mono
      intro _ later same
      exact strikes _ _ _ _ (same.trans board_launch)
    · exact strikes _ _ _ _ board_launch
    · exact strikes _ _ _ _ board_launch

end ComputerSystems.Verified
