import ComputerSystems.Data.Ignores
import ComputerSystems.Verified.ClosedLists
import ComputerSystems.Verified.CreatureSetup

/-! # The creatures of a level

What `game_start` and `game_round` do depends on the creatures of the level only, and changes no
others: with other creatures behind the last one of the level, and other links of these, they do
the same.  The sprites that they come to along the links are of the level as the lists are closed
under the links, whether or not they are still the lists of the tiles.

Not so the counter of a cleric, which is the creature behind the last one.  And only the first
seven creatures are initialized.
-/

namespace ComputerSystems.Verified

open ComputerSystems.Data ComputerSystems.VirtualWorld
open ComputerSystems.System (DoubleLink listRemove listAppend)

variable {game : Game} {sprite : Sprite} {level : Nat}

/-! ## Other creatures -/

/-- The nodes of a level: no creature behind the last one. -/
def NodeOfLevel (level : Nat) : Node → Prop
  | .sprite (.creature i) => i.val ≤ level
  | .tile _ | .sprite .player | .exit => True

instance : DecidablePred (NodeOfLevel level)
  | .sprite (.creature i) => inferInstanceAs (Decidable (i.val ≤ level))
  | .tile _ | .sprite .player | .exit => .isTrue trivial

/-- The sprites of a level. -/
abbrev OfLevel (level : Nat) (sprite : Sprite) : Prop := NodeOfLevel level (.sprite sprite)

/-- What the creatures behind the last one of the level could be instead. -/
structure OtherCreatures where
  creatures : CreatureIndex → SpriteTile
  links : Node → DoubleLink Node

/-- The game with other creatures behind the last one of the level. -/
def withOthers (level : Nat) (others : OtherCreatures) (game : Game) : Game :=
  { game with
    creatures := fun i => if i.val ≤ level then game.creatures i else others.creatures i
    links := mixLinks (NodeOfLevel level) others.links game.links }

variable {others : OtherCreatures}

theorem sprite_withOthers (of : OfLevel level sprite) : (withOthers level others game).sprite sprite = game.sprite sprite := by
  cases sprite with
  | player => rfl
  | creature i => exact if_pos of

theorem links_withOthers {node : Node} (of : NodeOfLevel level node) :
    (withOthers level others game).links node = game.links node :=
  mixLinks_kept of

theorem tileOf_withOthers {node : Node} (of : NodeOfLevel level node) :
    (withOthers level others game).tileOf node = game.tileOf node := by
  cases node with
  | tile index => rfl
  | exit => rfl
  | sprite sprite => exact congrArg (fun value : SpriteTile => value.effect.tile) (sprite_withOthers of)

theorem setSprite_withOthers (of : OfLevel level sprite) (value : SpriteTile) :
    (withOthers level others game).setSprite sprite value = withOthers level others (game.setSprite sprite value) := by
  cases sprite with
  | player => rfl
  | creature i =>
    have inside : i.val ≤ level := of
    have same : Function.update (fun i : CreatureIndex => if i.val ≤ level then game.creatures i else others.creatures i) i value =
        fun j : CreatureIndex => if j.val ≤ level then Function.update game.creatures i value j else others.creatures j := by
      funext j
      by_cases isThis : j = i
      · subst isThis
        simp [inside]
      · simp [Function.update_of_ne isThis]
    simp only [Game.setSprite, withOthers, same]

theorem clear_withOthers {node : Node} (of : NodeOfLevel level node) :
    Function.update (withOthers level others game).links node {} =
      mixLinks (NodeOfLevel level) others.links (Function.update game.links node {}) :=
  update_mix of {}

section Commutes

variable {place : EffectAt}

theorem effect_withOthers (of : OfLevel level (effectOwner place)) :
    (withOthers level others game).effect place = game.effect place := by
  cases place with
  | sprite sprite => exact congrArg (fun value : SpriteTile => value.effect) (sprite_withOthers of)
  | action sprite attack => exact congrArg (fun value : SpriteTile => (value.action attack).effect) (sprite_withOthers of)

theorem setEffect_withOthers (of : OfLevel level (effectOwner place)) (effect : EffectTile) :
    (withOthers level others game).setEffect place effect = withOthers level others (game.setEffect place effect) := by
  cases place with
  | sprite sprite =>
    have of : OfLevel level sprite := of
    simp only [Game.setEffect, sprite_withOthers of, setSprite_withOthers of]
  | action sprite attack =>
    have of : OfLevel level sprite := of
    simp only [Game.setEffect, sprite_withOthers of, setSprite_withOthers of]

theorem flags_withOthers (of : OfLevel level sprite) : (withOthers level others game).flags sprite = game.flags sprite := by
  rw [Game.flags, Game.flags, sprite_withOthers of]

theorem setFlags_withOthers (of : OfLevel level sprite) (flags : BitVec 32) :
    (withOthers level others game).setFlags sprite flags = withOthers level others (game.setFlags sprite flags) := by
  simp only [Game.setFlags, sprite_withOthers of, setSprite_withOthers of]

theorem setHp_withOthers (of : OfLevel level sprite) (hp : Int) :
    (withOthers level others game).setHp sprite hp = withOthers level others (game.setHp sprite hp) := by
  simp only [Game.setHp, sprite_withOthers of, setSprite_withOthers of]

theorem setScratch_withOthers (of : OfLevel level sprite) (scratch : UInt8) :
    (withOthers level others game).setScratch sprite scratch = withOthers level others (game.setScratch sprite scratch) := by
  simp only [Game.setScratch, sprite_withOthers of, setSprite_withOthers of]

theorem show_withOthers (of : OfLevel level sprite) :
    (withOthers level others game).show sprite = withOthers level others (game.show sprite) := by
  simp only [Game.show, flags_withOthers of, setFlags_withOthers of]

theorem tileUnder_withOthers (of : OfLevel level sprite) :
    (withOthers level others game).tileUnder sprite = game.tileUnder sprite := by
  rw [Game.tileUnder, Game.tileUnder, sprite_withOthers of]
  rfl

theorem timerSchedule_withOthers (timer : GameTimer) :
    timerSchedule timer (withOthers level others game) =
      ((timerSchedule timer game).1, withOthers level others (timerSchedule timer game).2) := by
  simp only [timerSchedule]
  have same : (withOthers level others game).timers = game.timers := rfl
  rw [same]
  split <;> rfl

theorem again_withOthers {poll : EffectPoll} {context : TileIndex} :
    (withOthers level others game).again poll place context = withOthers level others (game.again poll place context) := by
  rw [Game.again, timerSchedule_withOthers]
  rfl

theorem advance_withOthers (of : OfLevel level (effectOwner place)) :
    (withOthers level others game).advance place = withOthers level others (game.advance place) := by
  rw [Game.advance, Game.advance, effect_withOthers of]
  split
  · exact setEffect_withOthers of _
  · rfl

theorem tileEffectStart_withOthers (of : OfLevel level (effectOwner place)) (x y : Int) :
    tileEffectStart place x y (withOthers level others game) =
      ((tileEffectStart place x y game).1, withOthers level others (tileEffectStart place x y game).2) := by
  have grid : ∀ x y, gameGridTile (withOthers level others game) x y = gameGridTile game x y := fun _ _ => rfl
  simp only [tileEffectStart, effect_withOthers of, grid]
  split
  · split
    · rfl
    · split
      · simp only [setEffect_withOthers of]
      · split
        · simp only [setEffect_withOthers of, timerSchedule_withOthers]
        · simp only [setEffect_withOthers of]
  · rfl

theorem unlink_withOthers {inside : Node → Prop} {node : Node} (closed : Closed inside game.links) (isIn : inside node)
    (keeps : ∀ node, inside node → NodeOfLevel level node) :
    (withOthers level others game).unlink node = withOthers level others (game.unlink node) := by
  rw [Game.unlink, links_withOthers (keeps node isIn)]
  have same : listRemove (game.links node) (withOthers level others game).links =
      mixLinks (NodeOfLevel level) others.links (listRemove (game.links node) game.links) :=
    listRemove_mix (fun after isNext => keeps after (closed.next isIn isNext))
      fun before isPrevious => keeps before (closed.previous isIn isPrevious)
  rw [same]
  rfl

end Commutes

/-! ## What holds on a level -/

/-- A creature that does not act, or a player who does not heal as a cleric. -/
def Rested : Sprite → Standing → Prop
  | .player, value => value.cleric = false ∨ value.spent = true
  | .creature _, value => value.spent = true ∨ value.dead = true

/-- The links of the level lead to nodes of the level, and who rests goes on to do so. -/
structure Woven (level : Nat) (idle : Sprite → Prop) (board : Board) : Prop where
  closed : Closed (NodeOfLevel level) board.links
  rested : ∀ sprite, idle sprite → Rested sprite (board.sprites sprite)

variable {idle : Sprite → Prop} {before : Board} {value : Standing}

theorem Woven.relinked {links : Node → DoubleLink Node} (woven : Woven level idle before)
    (closed : Closed (NodeOfLevel level) links) : Woven level idle { before with links } :=
  ⟨closed, woven.rested⟩

theorem Woven.setSprite (woven : Woven level idle before) (rested : idle sprite → Rested sprite value) :
    Woven level idle (before.setSprite sprite value) := by
  refine ⟨woven.closed, fun other isIdle => ?_⟩
  rw [Board.setSprite_sprites]
  by_cases same : other = sprite
  · subst same
    rw [Function.update_self]
    exact rested isIdle
  · rw [Function.update_of_ne same]
    exact woven.rested other isIdle

/-- A sprite that is sent somewhere or arrives. -/
theorem Rested.moved {before value : Standing} (rested : Rested sprite before) (cleric : value.cleric = before.cleric)
    (spent : value.spent = before.spent) (dead : value.dead = before.dead) : Rested sprite value := by
  cases sprite with
  | player =>
    rw [Rested, cleric, spent]
    exact rested
  | creature i =>
    rw [Rested, spent, dead]
    exact rested

/-- A sprite without hit points rests. -/
theorem Rested.of_spent (spent : value.spent = true) : Rested sprite value := by
  cases sprite with
  | player => exact .inr spent
  | creature i => exact .inl spent

/-! ## Lists and moves -/

section Moves

variable {context : TileIndex} {node : Node}

theorem withNode_self {inside : Node → Prop} (isIn : inside node) : WithNode inside node = inside := by
  funext other
  rw [WithNode, eq_iff_iff]
  constructor
  · rintro (isOther | rfl)
    · exact isOther
    · exact isIn
  · exact .inl

/-- A program that appends a node, in a state. -/
theorem run_append (node : Node) (tile : TileIndex) (game : Game) (draws : List (BitVec 32)) :
    append node tile (game, draws) =
      match listAppend nodeCount node (.tile tile) game.links with
      | some links => .ok ((), { game with links }, draws)
      | none => .error .loop := by
  rw [append]
  change (Program.look _ (game, draws) >>= _) = _
  rw [Program.look]
  dsimp only
  cases listAppend nodeCount node (.tile tile) game.links with
  | none => rfl
  | some links => rfl

/-- `ListAppend` of a node of the level. -/
theorem ignores_append {inside : Node → Prop} {tile : TileIndex} (closed : Closed inside game.links) (isIn : inside (.tile tile))
    (keeps : ∀ node, inside node → NodeOfLevel level node) (of : NodeOfLevel level node) :
    Ignores (withOthers level others) (append node tile)
      (fun _ later => ∃ links, later = { game with links } ∧ Closed (WithNode inside node) links) game := by
  have same : listAppend nodeCount node (.tile tile) (withOthers level others game).links =
      (listAppend nodeCount node (.tile tile) game.links).map (mixLinks (NodeOfLevel level) others.links) :=
    listAppend_mix closed isIn keeps of
  intro draws
  rw [run_append, run_append, same]
  cases appends : listAppend nodeCount node (.tile tile) game.links with
  | none => rfl
  | some links => exact ⟨rfl, links, rfl, closed.append isIn appends⟩

/-- A sprite whose links do not lead out of some nodes of the level is relinked among them. -/
theorem ignores_relink_inside {inside : Node → Prop} (closed : Closed inside game.links) (isIn : inside (.sprite sprite))
    (tiles : ∀ tile, inside (.tile tile)) (keeps : ∀ node, inside node → NodeOfLevel level node) :
    Ignores (withOthers level others) (relink sprite)
      (fun _ later => ∃ links, later = { game with links } ∧ Closed inside links) game := by
  have of : OfLevel level sprite := keeps _ isIn
  have left : Closed inside (game.unlink (.sprite sprite)).links :=
    closed.listRemove (fun _ => closed.next isIn) fun _ => closed.previous isIn
  rw [relink]
  refine .update_bind (unlink_withOthers closed isIn keeps) (.state_bind ?_ ?_)
  · simp only [tileUnder_withOthers of]
  · split
    next tile _ =>
      refine (ignores_append left (tiles tile) keeps of).mono ?_
      rintro _ _ ⟨links, rfl, linked⟩
      rw [withNode_self isIn] at linked
      exact ⟨links, rfl, linked⟩
    · exact .pure ⟨_, rfl, left⟩

/-- The lists are as woven as before where a sprite of the level is relinked. -/
theorem ignores_relink (woven : Woven level idle (board game)) (of : OfLevel level sprite) :
    Ignores (withOthers level others) (relink sprite) (fun _ later => Woven level idle (board later)) game := by
  refine (ignores_relink_inside woven.closed of (fun _ => trivial) fun _ => id).mono ?_
  rintro _ _ ⟨links, rfl, linked⟩
  exact woven.relinked linked

theorem Woven.advanced (woven : Woven level idle (board game)) :
    Woven level idle (board (game.advance (.sprite sprite))) := by
  cases advance_cases sprite game with
  | inl goesOn =>
    rw [goesOn.2.2]
    exact woven
  | inr last =>
    obtain ⟨_, _, value, same, isValue⟩ := last
    rw [same]
    apply woven.setSprite
    intro isIdle
    have rested := woven.rested sprite isIdle
    obtain rfl | rfl := isValue
    · exact rested
    · exact rested.moved rfl rfl rfl

theorem ignores_spriteMoveCallback (woven : Woven level idle (board game)) (of : OfLevel level sprite) :
    Ignores (withOthers level others) (spriteMoveCallback sprite context)
      (fun _ later => Woven level idle (board later)) game := by
  have advanced := @Woven.advanced game sprite level idle woven
  rw [spriteMoveCallback]
  refine .update_bind (advance_withOthers of) (.state_bind ?_ ?_)
  · simp only [sprite_withOthers of]
  · split
    · refine .update again_withOthers ?_
      rw [board_again rfl]
      exact advanced
    · exact ignores_relink advanced of

theorem ignores_startMove {poll : EffectPoll} {x y : Int} (woven : Woven level idle (board game)) (of : OfLevel level sprite)
    (fits : ∀ context, GameTimer.fits (.effect poll (.sprite sprite) context) = true) :
    Ignores (withOthers level others) (startMove poll sprite x y)
      (fun _ later => Woven level idle (board later)) game := by
  rw [startMove]
  refine .change ?_ ?_
  · rw [sprite_withOthers of, setSprite_withOthers of]
    exact tileEffectStart_withOthers of x y
  · cases startMove_cases sprite x y game fits with
    | inl refused =>
      rw [refused.2]
      exact woven
    | inr sent =>
      rw [sent.2.2]
      exact woven.setSprite fun isIdle => (woven.rested sprite isIdle).moved rfl rfl rfl

theorem ignores_spriteMove {x y : Int} (woven : Woven level idle (board game)) (of : OfLevel level sprite) :
    Ignores (withOthers level others) (spriteMove sprite x y) (fun _ later => Woven level idle (board later)) game := by
  rw [spriteMove]
  refine .state_bind ?_ ?_
  · simp only [sprite_withOthers of]
    rfl
  · simp only
    split
    · exact .pure woven
    · refine .bind ((ignores_startMove woven of fun _ => rfl).mono ?_)
      intro started later kept
      cases started with
      | refused => exact .pure kept
      | scheduled => exact .pure kept
      | polls context => exact .bind ((ignores_spriteMoveCallback kept of).mono fun _ _ kept => .pure kept)

theorem randomOffset_rolls : Rolls randomOffset := .bind .draw fun _ => .pure _

theorem ignores_spriteMoveRandom (woven : Woven level idle (board game)) (of : OfLevel level sprite) :
    Ignores (withOthers level others) (spriteMoveRandom sprite) (fun _ later => Woven level idle (board later)) game := by
  rw [spriteMoveRandom]
  refine .state_bind ?_ ?_
  · simp only [sprite_withOthers of]
  · simp only
    split
    · exact .pure woven
    · refine .bind_rolls randomOffset_rolls fun randX => .bind_rolls randomOffset_rolls fun randY => ?_
      split
      · exact .bind ((ignores_spriteMove woven of).mono fun _ _ kept => .pure kept)
      · exact .pure woven

end Moves

/-! ## Attacks -/

section Attacks

variable {attacker attacked : Sprite} {attack : Attack} {context : TileIndex}

theorem d20_rolled : Rolls d20 := .bind .draw fun _ => .pure _

theorem d16_rolled : Rolls d16 := .bind .draw fun _ => .pure _

theorem dice_rolled : ∀ count, Rolls (dice count)
  | 0 => .pure 0
  | count + 1 => .bind .draw fun _ => .bind (dice_rolled count) fun _ => .pure _

theorem rollItem_rolled {score : Nat} : Rolls (rollItem score) := by
  refine .bind d16_rolled fun roll => ?_
  split
  · exact .pure _
  · exact .bind d16_rolled fun _ => .pure _

theorem terrainUnder_withOthers (of : OfLevel level sprite) :
    terrainUnder (withOthers level others game) sprite = terrainUnder game sprite := by
  rw [terrainUnder, terrainUnder, tileUnder_withOthers of]
  rfl

theorem attackRange_withOthers (attacks : OfLevel level attacker) (hit : OfLevel level attacked) :
    attackRange attacker attacked (withOthers level others game) = attackRange attacker attacked game := by
  have character : (withOthers level others game).character = game.character := rfl
  simp only [attackRange, sprite_withOthers attacks, sprite_withOthers hit, terrainUnder_withOthers attacks,
    terrainUnder_withOthers hit, character]

theorem attackModifier_withOthers (attacks : OfLevel level attacker) :
    attackModifier attacker attack (withOthers level others game) = attackModifier attacker attack game := by
  have score : (withOthers level others game).world = game.world := rfl
  simp only [attackModifier, sprite_withOthers attacks, score]

theorem launch_withOthers (attacks : OfLevel level attacker) (hit : OfLevel level attacked) :
    (withOthers level others game).launch attacker attack attacked =
      ((game.launch attacker attack attacked).1, withOthers level others (game.launch attacker attack attacked).2) := by
  have place : OfLevel level (effectOwner (.action attacker attack)) := attacks
  simp only [Game.launch, sprite_withOthers attacks, effect_withOthers place, setEffect_withOthers place,
    sprite_withOthers hit, tileEffectStart_withOthers place]

theorem ignores_attackCallback (woven : Woven level idle (board game)) (attacks : OfLevel level attacker) :
    Ignores (withOthers level others) (attackCallback attacker attack context)
      (fun _ later => Woven level idle (board later)) game := by
  have place : OfLevel level (effectOwner (.action attacker attack)) := attacks
  rw [attackCallback]
  refine .update ?_ ?_
  · simp only [advance_withOthers place, effect_withOthers place, again_withOthers]
    split <;> rfl
  · simp only
    split
    · rw [board_again rfl, board_advanceAction]
      exact woven
    · rw [board_advanceAction]
      exact woven

theorem ignores_attackRoll (attacks : OfLevel level attacker) :
    Ignores (withOthers level others) (attackRoll attacker) (fun _ later => later = game) game := by
  rw [attackRoll]
  refine .bind_rolls d20_rolled fun roll => .state_bind ?_ ?_
  · simp only [flags_withOthers attacks]
  · split
    · exact .pure rfl
    · exact .bind_rolls d20_rolled fun second => .pure rfl

theorem ignores_rollDamage {affect : Nat} (attacks : OfLevel level attacker) :
    Ignores (withOthers level others) (rollDamage attacker affect) (fun _ later => board later = board game) game := by
  rw [rollDamage]
  refine .bind_rolls (dice_rolled affect) fun damage => .state_bind ?_ ?_
  · simp only [flags_withOthers attacks]
  · split
    · exact .pure rfl
    · exact .bind_rolls (dice_rolled affect) fun more => .update_bind (show_withOthers attacks) (.pure board_show)

theorem becomeItem_withOthers {tileNum : Int} (of : OfLevel level sprite) :
    (withOthers level others game).becomeItem sprite tileNum = withOthers level others (game.becomeItem sprite tileNum) := by
  have place : OfLevel level (effectOwner (.sprite sprite)) := of
  simp only [Game.becomeItem, sprite_withOthers of, setEffect_withOthers place]
  rw [clear_withOthers of]
  rfl

theorem ignores_defeatCreature (woven : Woven level idle (board game)) (hit : OfLevel level attacked)
    (spent : ((board game).sprites attacked).spent = true) :
    Ignores (withOthers level others) (defeatCreature attacked) (fun _ later => Woven level idle (board later)) game := by
  have scored : Woven level idle (board { game with world := { game.world with score := game.world.score + 1 } }) := woven
  rw [defeatCreature]
  refine .update_bind rfl (.bind_rolls d16_rolled fun roll => ?_)
  split
  · refine .state_bind rfl (.bind_rolls rollItem_rolled fun item => ?_)
    refine .update_bind (becomeItem_withOthers hit) (.state_bind ?_ ?_)
    · simp only [tileUnder_withOthers hit]
    · have dropping : Woven level idle (board (Game.becomeItem attacked item
          { game with world := { game.world with score := game.world.score + 1 } })) := by
        rw [board_becomeItem]
        exact Woven.relinked (scored.setSprite fun _ => Rested.of_spent spent) woven.closed.clear
      split
      · refine (ignores_append dropping.closed trivial (fun _ => id) hit).mono ?_
        rintro _ _ ⟨links, rfl, linked⟩
        rw [withNode_self hit] at linked
        exact dropping.relinked linked
      · exact .pure dropping
  · exact .pure scored

/-- A hit, of which who rests does not recover. -/
theorem ignores_strike {affect modifier : Nat} (woven : Woven level idle (board game)) (attacks : OfLevel level attacker)
    (hit : OfLevel level attacked) :
    Ignores (withOthers level others) (strike attacker affect modifier attacked)
      (fun _ later => Woven level idle (board later)) game := by
  rw [strike]
  refine .bind ((ignores_rollDamage attacks).mono ?_)
  intro damage struck same
  rw [← same] at woven
  have hp : ((struck.setHp attacked ((struck.sprite attacked).stats.hp - (damage + modifier : Nat))).sprite attacked).stats.hp =
      (struck.sprite attacked).stats.hp - (damage + modifier : Nat) := by
    rw [Game.setHp, sprite_setSprite_self]
  refine .update_bind ?_ (.state_bind ?_ ?_)
  · simp only [sprite_withOthers hit, setHp_withOthers hit]
  · simp only [sprite_withOthers hit]
  · rw [hp]
    split
    next negative =>
      have dies := @board_die struck attacked _ negative
      -- the neighbours of a sprite of the level are of the level too, so the unlinking stays among them
      have closed : Closed (NodeOfLevel level) (struck.setHp attacked ((struck.sprite attacked).stats.hp -
          (damage + modifier : Nat))).links := by
        cases attacked <;> exact woven.closed
      have dead : Woven level idle (board ((struck.setHp attacked ((struck.sprite attacked).stats.hp -
          (damage + modifier : Nat))).die attacked)) := by
        rw [dies]
        apply Woven.relinked (woven.setSprite fun _ => Rested.of_spent rfl)
        exact woven.closed.listRemove (fun _ => woven.closed.next hit) fun _ => woven.closed.previous hit
      refine .update_bind ?_ (.state_bind ?_ ?_)
      · simp only [Game.die, flags_withOthers hit, unlink_withOthers closed hit fun _ => id, setFlags_withOthers hit]
      · simp only [flags_withOthers attacks]
      · split
        · refine ignores_defeatCreature dead hit ?_
          rw [dies]
          change (Function.update (board struck).sprites attacked (slain ((board struck).sprites attacked)) attacked).spent = true
          rw [Function.update_self]
          rfl
        · exact .pure dead
    next alive =>
      apply Ignores.pure
      rw [Game.setHp, board_setSprite]
      apply woven.setSprite
      intro isIdle
      have before := woven.rested attacked isIdle
      have less : (struck.sprite attacked).stats.hp - (damage + modifier : Nat) ≤ (struck.sprite attacked).stats.hp := by
        omega
      cases attacked with
      | player =>
        cases before with
        | inl cleric => exact .inl cleric
        | inr spent => exact .inr (decide_eq_true (Int.le_trans less (of_decide_eq_true spent)))
      | creature i =>
        cases before with
        | inl spent => exact .inl (decide_eq_true (Int.le_trans less (of_decide_eq_true spent)))
        | inr dead => exact .inr dead

theorem ignores_show (woven : Woven level idle (board game)) (of : OfLevel level sprite) :
    Ignores (withOthers level others) (Program.update (Game.show sprite) : Play Unit)
      (fun _ later => Woven level idle (board later)) game := by
  refine .update (show_withOthers of) ?_
  rw [board_show]
  exact woven

theorem ignores_creatureAttack (woven : Woven level idle (board game)) (attacks : OfLevel level attacker)
    (hit : OfLevel level attacked) :
    Ignores (withOthers level others) (creatureAttack attacker attack attacked)
      (fun _ later => Woven level idle (board later)) game := by
  have strikes : ∀ now affect modifier (hits : Prop) [Decidable hits], Woven level idle (board now) →
      Ignores (withOthers level others) (if hits then do
          strike attacker affect modifier attacked
          Program.update (Game.show attacker)
        else Program.update (Game.show attacker)) (fun _ later => Woven level idle (board later)) now := by
    intro now affect modifier hits _ woven
    split
    · exact .bind ((ignores_strike woven attacks hit).mono fun _ _ kept => ignores_show kept attacks)
    · exact ignores_show woven attacks
  rw [creatureAttack]
  refine .state_bind ?_ ?_
  · simp only [sprite_withOthers attacks, sprite_withOthers hit, attackModifier_withOthers attacks]
  · simp only
    split
    · exact .pure woven
    · refine .bind ((ignores_attackRoll attacks).mono ?_)
      rintro roll now same
      rw [same]
      have launched : Woven level idle (board (game.launch attacker attack attacked).2) := by
        rw [board_launch]
        exact woven
      refine .bind (.change (launch_withOthers attacks hit) ?_)
      split
      · exact .bind ((ignores_attackCallback launched attacks).mono fun _ _ kept => strikes _ _ _ _ kept)
      · exact strikes _ _ _ _ launched
      · exact strikes _ _ _ _ launched

end Attacks

/-! ## Rounds -/

section Rounds

variable {nearest found : Sprite} {tile : TileIndex} {select select' : Node → Bool}

theorem findTile_withOthers (closed : Closed (NodeOfLevel level) game.links)
    (selects : ∀ {node}, NodeOfLevel level node → select' node = select node) :
    findTile select' tile (withOthers level others game) = findTile select tile game := by
  have isTile : NodeOfLevel level (.tile tile) := trivial
  have same : findOn (fun node => ((withOthers level others game).links node).next) (.tile tile) select' nodeCount
      ((withOthers level others game).links (.tile tile)).next =
        findOn (fun node => (game.links node).next) (.tile tile) select nodeCount (game.links (.tile tile)).next := by
    rw [links_withOthers isTile]
    apply findOn_congr_inside closed.next _ selects fun node isNext => closed.next isTile isNext
    intro node of
    rw [links_withOthers of]
  rw [findTile, findTile, same]

/-- What a search comes to is of the level. -/
theorem findTile_ofLevel {node : Node} (closed : Closed (NodeOfLevel level) game.links)
    (finds : findTile select tile game = .ok (some node)) : NodeOfLevel level node := by
  have isTile : NodeOfLevel level (.tile tile) := trivial
  rw [findTile] at finds
  split at finds
  next met isMet =>
    obtain rfl : met = some node := Except.ok.inj finds
    exact findOn_inside closed.next (fun node isNext => closed.next isTile isNext) isMet
  · cases finds

theorem searchTile_withOthers (closed : Closed (NodeOfLevel level) game.links) (sprite : Sprite) (place : Int × Int) :
    searchTile sprite place (withOthers level others game) = searchTile sprite place game := by
  have selects : ∀ {node}, NodeOfLevel level node →
      noticed (withOthers level others game) sprite node = noticed game sprite node := by
    intro node of
    rw [noticed, noticed, tileOf_withOthers of]
  simp only [searchTile, findTile_withOthers closed selects]

theorem searchTile_ofLevel (closed : Closed (NodeOfLevel level) game.links) {place : Int × Int}
    (finds : searchTile sprite place game = .ok (some found)) : OfLevel level found := by
  rw [searchTile] at finds
  split at finds
  · cases finds
  · split at finds
    · cases finds
    · cases finds
    next met isMet =>
      obtain rfl : met = found := Option.some.inj (Except.ok.inj finds)
      exact findTile_ofLevel closed isMet
    · cases finds

theorem searchTiles_withOthers (closed : Closed (NodeOfLevel level) game.links) (sprite : Sprite) (places : List (Int × Int)) :
    searchTiles sprite (withOthers level others game) places = searchTiles sprite game places := by
  induction places with
  | nil => rfl
  | cons place places ih => rw [searchTiles, searchTiles, searchTile_withOthers closed, ih]

theorem searchTiles_ofLevel (closed : Closed (NodeOfLevel level) game.links) {places : List (Int × Int)}
    (finds : searchTiles sprite game places = .ok (some found)) : OfLevel level found := by
  induction places with
  | nil => cases finds
  | cons place places ih =>
    rw [searchTiles] at finds
    split at finds
    · cases finds
    next met isMet =>
      obtain rfl : met = found := Option.some.inj (Except.ok.inj finds)
      exact searchTile_ofLevel closed isMet
    · exact ih finds

theorem spriteFindNearest_withOthers (closed : Closed (NodeOfLevel level) game.links) (of : OfLevel level sprite) :
    spriteFindNearest sprite (withOthers level others game) = spriteFindNearest sprite game := by
  simp only [spriteFindNearest, sprite_withOthers of, searchTiles_withOthers closed]

theorem spriteFindNearest_ofLevel (closed : Closed (NodeOfLevel level) game.links)
    (finds : spriteFindNearest sprite game = .ok (some found)) : OfLevel level found := by
  rw [spriteFindNearest] at finds
  split at finds
  · exact searchTiles_ofLevel closed finds
  · cases finds

theorem hidesInTown_withOthers (acts : OfLevel level sprite) (near : OfLevel level nearest) :
    hidesInTown sprite nearest (withOthers level others game) = hidesInTown sprite nearest game := by
  have terrain : (withOthers level others game).terrain = game.terrain := rfl
  simp only [hidesInTown, sprite_withOthers acts, sprite_withOthers near, terrain]

theorem ignores_spriteAction (woven : Woven level idle (board game)) (acts : OfLevel level sprite)
    (near : OfLevel level nearest) :
    Ignores (withOthers level others) (spriteAction sprite nearest) (fun _ later => Woven level idle (board later)) game := by
  rw [spriteAction]
  refine .bind (.look (attackRange_withOthers acts near) fun attack _ => ?_)
  refine .bind (.look (hidesInTown_withOthers acts near) fun hidden _ => ?_)
  refine .state_bind ?_ ?_
  · simp only [sprite_withOthers acts, sprite_withOthers near]
  · simp only
    split
    · exact .pure woven
    · split
      · cases attack with
        | some attack => exact .bind ((ignores_creatureAttack woven acts near).mono fun _ _ kept => .pure kept)
        | none => exact .bind ((ignores_spriteMove woven acts).mono fun _ _ kept => .pure kept)
      · exact .pure woven

theorem ignores_wander (woven : Woven level idle (board game)) (acts : OfLevel level sprite) :
    Ignores (withOthers level others) (wander sprite) (fun _ later => Woven level idle (board later)) game := by
  rw [wander]
  refine .state_bind ?_ ?_
  · simp only [sprite_withOthers acts]
  · simp only
    split
    · refine .update ?_ ?_
      · simp only [flags_withOthers acts, setFlags_withOthers acts, setScratch_withOthers acts]
        split
        · rfl
        · split <;> rfl
      · split
        · rw [board_hide]
          exact woven
        · split
          · rw [board_setScratch]
            exact woven
          · exact woven
    · exact ignores_spriteMoveRandom woven acts

/-- The turn of a creature of the level. -/
theorem ignores_creatureTurn {i : CreatureIndex} (woven : Woven level idle (board game)) (of : i.val ≤ level) :
    Ignores (withOthers level others) (creatureTurn i) (fun _ later => Woven level idle (board later)) game := by
  have acts : OfLevel level (.creature i) := of
  have same : (withOthers level others game).creatures i = game.creatures i := @sprite_withOthers game (.creature i) level others acts
  rw [creatureTurn]
  refine .state_bind ?_ ?_
  · simp only [flags_withOthers acts, same]
  · split
    · exact .pure woven
    · split
      · refine .bind (.look (spriteFindNearest_withOthers woven.closed acts) fun found finds => ?_)
        cases found with
        | none => exact ignores_wander woven acts
        | some nearby =>
          have near := spriteFindNearest_ofLevel woven.closed finds
          refine .bind ((ignores_spriteAction woven acts near).mono fun acted _ kept => ?_)
          split
          · exact .pure kept
          · exact ignores_wander kept acts
      · refine .update ?_ ?_
        · simp only [flags_withOthers acts, setFlags_withOthers acts]
        · rw [Game.setFlags, board_setSprite, Game.flags, standing_dead]
          exact woven.setSprite fun _ => .inr rfl

theorem scoutRound_withOthers : (withOthers level others game).scoutRound = withOthers level others game.scoutRound := by
  have player : OfLevel level .player := trivial
  have hides : ∀ counted : Game, (if 3 < (withOthers level others counted).character.player.stats.scratch then
        (withOthers level others counted).setFlags .player ((withOthers level others counted).flags .player &&& ~~~isVisible)
      else withOthers level others counted).remember =
      withOthers level others (if 3 < counted.character.player.stats.scratch then
        counted.setFlags .player (counted.flags .player &&& ~~~isVisible) else counted).remember := by
    intro counted
    rw [flags_withOthers player, setFlags_withOthers player]
    have scratch : (withOthers level others counted).character = counted.character := rfl
    rw [scratch]
    split <;> rfl
  have stays : stayed (withOthers level others game) = stayed game := rfl
  have character : (withOthers level others game).character = game.character := rfl
  simp only [Game.scoutRound, stays, character, setScratch_withOthers player, show_withOthers player]
  cases stayed game with
  | true => exact hides _
  | false => exact hides _

theorem scheduleRound_withOthers :
    (withOthers level others game).scheduleRound = withOthers level others game.scheduleRound := by
  rw [Game.scheduleRound, timerSchedule_withOthers]
  rfl

theorem cancelRound_withOthers : (withOthers level others game).cancelRound = withOthers level others game.cancelRound := by
  rw [Game.cancelRound, Game.cancelRound]
  have round : (withOthers level others game).world = game.world := rfl
  rw [round]
  cases game.world.round <;> rfl

theorem links_scheduleRound : game.scheduleRound.links = game.links := by
  obtain ⟨timers, same⟩ := @timerSchedule_frame game .round
  simp only [Game.scheduleRound, same]

theorem links_cancelRound : game.cancelRound.links = game.links := by
  obtain ⟨timers, same⟩ := @timerCancel_frame game game.world.round
  rw [Game.cancelRound, same]

theorem ignores_creaturesOf (count : Nat) :
    Ignores (withOthers level others) (creaturesOf count)
      (fun creatures later => later = game ∧ ∀ i, i ∈ creatures ↔ i.val ≤ count) game := by
  rw [creaturesOf]
  split
  · refine .pure ⟨rfl, fun i => ?_⟩
    simp only [List.mem_filter, List.mem_finRange, true_and, decide_eq_true_eq]
    omega
  · exact .halt _

/-- The creatures of the level take their turns. -/
theorem ignores_turns {creatures : List CreatureIndex} (of : ∀ i ∈ creatures, i.val ≤ level)
    (woven : Woven level idle (board game)) :
    Ignores (withOthers level others) (Program.each creatureTurn creatures)
      (fun _ later => Woven level idle (board later)) game := by
  have start : (∀ i ∈ creatures, i.val ≤ level) ∧ Woven level idle (board game) := ⟨of, woven⟩
  refine (@Ignores.each _ _ _ _ game creatureTurn
    (fun creatures now => (∀ i ∈ creatures, i.val ≤ level) ∧ Woven level idle (board now)) creatures start ?_).mono
    fun _ _ kept => kept.2
  rintro i creatures now ⟨of, woven⟩
  have rest : ∀ i ∈ creatures, i.val ≤ level := fun other isIn => of other (List.mem_cons_of_mem i isIn)
  exact (ignores_creatureTurn woven (of i List.mem_cons_self)).mono fun _ _ kept => ⟨rest, kept⟩

/-- A round whose player is no cleric who heals. -/
theorem ignores_gameRound (isLevel : game.world.level = level) (woven : Woven level idle (board game))
    (rests : idle .player) :
    Ignores (withOthers level others) gameRound (fun _ later => Closed (NodeOfLevel level) later.links) game := by
  rw [gameRound]
  refine .state_bind rfl ?_
  simp only [isLevel]
  split
  swap
  · exact .bind (.halt _)
  refine .bind ((ignores_creaturesOf level).mono ?_)
  rintro creatures now ⟨same, members⟩
  rw [same]
  refine .bind ((ignores_turns (fun i => (members i).mp) woven).mono ?_)
  intro _ now woven
  refine .state_bind rfl ?_
  split
  next alive =>
    -- the counter of a cleric is not reached: the player is none or has no hit points left
    have rested : Rested .player ((board now).sprites .player) := woven.rested .player rests
    have noCleric : has now.character.player.stats.flags classCleric = false := by
      cases rested with
      | inl cleric => exact cleric
      | inr spent => exact absurd (of_decide_eq_true spent) (Int.not_le.mpr alive)
    have character : Ignores (withOthers level others) (characterRound level)
        (fun _ later => Woven level idle (board later)) now := by
      rw [characterRound]
      refine .state_bind rfl ?_
      rw [if_neg (by simp [noCleric])]
      split
      · refine .update scoutRound_withOthers ?_
        rw [board_scoutRound]
        exact woven
      · exact .pure woven
    refine .bind (character.mono fun _ last woven => .update scheduleRound_withOthers ?_)
    rw [links_scheduleRound]
    exact woven.closed
  · refine .update cancelRound_withOthers ?_
    rw [links_cancelRound]
    exact woven.closed

end Rounds

/-! ## Creation -/

section Creation

variable {coasts : Coasts} {tile : TileIndex}

theorem coin_rolled {mask : BitVec 32} : Rolls (coin mask) := .bind .draw fun _ => .pure _

theorem rollTerrain_rolled {random : BitVec 32} : Rolls (rollTerrain random) := by
  rw [rollTerrain]
  repeat' split
  all_goals first | exact .pure _ | exact .bind .draw fun _ => .pure _

theorem flipTerrain_rolled {terrain : Int} : Rolls (flipTerrain terrain) := by
  rw [flipTerrain]
  split
  · refine .bind coin_rolled fun toss => ?_
    split
    · split
      · exact coin_rolled
      · exact .pure _
    · exact .pure _
  · exact .pure _

theorem threeDice_rolled : Rolls threeDice :=
  .bind .draw fun _ => .bind .draw fun _ => .bind .draw fun _ => .pure _

theorem ignores_chooseTerrain {x y : Nat} :
    Ignores (withOthers level others) (chooseTerrain coasts x y) (fun _ _ => True) game := by
  rw [chooseTerrain]
  refine .bind_rolls .draw fun random => ?_
  split
  · exact .pure trivial
  · refine .bind_rolls rollTerrain_rolled fun terrain => .state_bind rfl ?_
    split
    · exact .pure trivial
    · exact .pure trivial

theorem setTerrain_withOthers {terrain : Int} :
    (withOthers level others game).setTerrain tile terrain = withOthers level others (game.setTerrain tile terrain) := by
  have isTile : NodeOfLevel level (.tile tile) := trivial
  have links : Function.update (withOthers level others game).links (.tile tile)
      { next := some (.tile tile), previous := some (.tile tile) } = mixLinks (NodeOfLevel level) others.links
        (Function.update game.links (.tile tile) { next := some (.tile tile), previous := some (.tile tile) }) :=
    update_mix isTile _
  rw [Game.setTerrain, links]
  rfl

theorem ignores_createTile : Ignores (withOthers level others) (createTile coasts tile) (fun _ _ => True) game := by
  rw [createTile]
  refine .bind (ignores_chooseTerrain.mono fun terrain _ _ => .update_bind setTerrain_withOthers ?_)
  refine .bind_rolls coin_rolled fun reverse => .update_bind ?_ ?_
  · cases reverse <;> rfl
  · refine .bind_rolls flipTerrain_rolled fun flipped => .update ?_ trivial
    cases flipped <;> rfl

/-- The tiles, which are not linked to anything yet. -/
theorem ignores_worldCreateRandom : Ignores (withOthers level others) (worldCreateRandom coasts)
    (fun _ later => ∃ terrain links, later = { game with terrain, links } ∧ ∀ tile, Alone links tile) game := by
  have tiles : Ignores (withOthers level others) (worldCreateRandom coasts) (fun _ _ => True) game := by
    rw [worldCreateRandom_eq]
    exact @Ignores.each _ _ _ _ game (createTile coasts) (fun _ _ => True) _ trivial fun _ _ _ _ => ignores_createTile
  exact (tiles.and wp_worldCreateRandom.wlp).mono fun _ _ both => both.2

/-- A random place depends on the terrain only. -/
theorem ignores_randomPlace {suits : Int → Int → Int → Bool} :
    Ignores (withOthers level others) (randomPlace suits) (fun _ later => later = game) game := by
  have coordinate : ∀ size, Rolls (randomCoordinate size) := fun size => .bind .draw fun _ => .pure _
  refine @Ignores.untilSome _ _ _ _ _ game _ (fun now => now = game) rfl ?_
  rintro now same
  refine .bind_rolls (coordinate _) fun x => .bind_rolls (coordinate _) fun y => .bind (.look rfl fun terrain _ => ?_)
  refine .pure ?_
  split <;> exact same

end Creation

/-! ## Linking -/

section Linking

variable {inside : Node → Prop} {links : Node → DoubleLink Node} {node : Node} {i : CreatureIndex}

/-- Nodes of the level whose links do not lead elsewhere, with all the tiles. -/
structure Linking (level : Nat) (inside : Node → Prop) (links : Node → DoubleLink Node) : Prop where
  closed : Closed inside links
  tiles : ∀ tile, inside (.tile tile)
  keeps : ∀ node, inside node → NodeOfLevel level node

theorem Linking.clear (linking : Linking level inside links) : Linking level inside (Function.update links node {}) :=
  ⟨linking.closed.clear, linking.tiles, linking.keeps⟩

/-- The tiles before anything is linked to them. -/
theorem Linking.of_alone (alone : ∀ tile, Alone links tile) : Linking level (∃ tile, · = Node.tile tile) links where
  closed := by
    constructor
    · rintro _ after ⟨tile, rfl⟩ isNext
      rw [alone tile] at isNext
      exact ⟨tile, (Option.some.inj isNext).symm⟩
    · rintro _ before ⟨tile, rfl⟩ isPrevious
      rw [alone tile] at isPrevious
      exact ⟨tile, (Option.some.inj isPrevious).symm⟩
  tiles tile := ⟨tile, rfl⟩
  keeps := by
    rintro _ ⟨tile, rfl⟩
    trivial

theorem ignores_appendAt {tile : Option TileIndex} (linking : Linking level inside game.links) (of : NodeOfLevel level node) :
    Ignores (withOthers level others) (appendAt node tile)
      (fun _ later => ∃ links, later = { game with links } ∧ Linking level (WithNode inside node) links) game := by
  cases tile with
  | none => exact .halt _
  | some tile =>
    refine (ignores_append linking.closed (linking.tiles tile) linking.keeps of).mono ?_
    rintro _ _ ⟨links, rfl, closed⟩
    refine ⟨links, rfl, closed, fun tile => .inl (linking.tiles tile), ?_⟩
    rintro other (isIn | rfl)
    · exact linking.keeps other isIn
    · exact of

theorem initializeSprite_withOthers (of : OfLevel level sprite) :
    (withOthers level others game).initializeSprite sprite = withOthers level others (game.initializeSprite sprite) := by
  rw [Game.initializeSprite, sprite_withOthers of, setSprite_withOthers of, clear_withOthers of]
  rfl

theorem place_withOthers (of : OfLevel level sprite) {x y : Int} :
    (withOthers level others game).place sprite x y = withOthers level others (game.place sprite x y) := by
  rw [Game.place, sprite_withOthers of, setEffect_withOthers of]
  rfl

theorem links_setSprite {value : SpriteTile} : (game.setSprite sprite value).links = game.links := by
  cases sprite <;> rfl

/-- A sprite is linked where it has been placed, whatever its links were. -/
theorem ignores_placed {x y : Int} {tile : Option TileIndex} (linking : Linking level inside game.links)
    (of : OfLevel level sprite) :
    Ignores (withOthers level others) (appendAt (.sprite sprite) tile)
      (fun _ later => Linking level (WithNode inside (.sprite sprite)) later.links) (game.place sprite x y) := by
  have kept : (game.place sprite x y).links = game.links := links_setSprite
  rw [← kept] at linking
  refine (ignores_appendAt linking of).mono ?_
  rintro _ _ ⟨links, rfl, linked⟩
  exact linked

theorem ignores_createCreature (linking : Linking level inside game.links) (of : i.val ≤ level) :
    Ignores (withOthers level others) (createCreature i)
      (fun _ later => Linking level (WithNode inside (.sprite (.creature i))) later.links) game := by
  have of : OfLevel level (.creature i) := of
  have creature : ∀ game : Game, (withOthers level others game).creatures i = game.creatures i :=
    fun game => @sprite_withOthers game (.creature i) level others of
  rw [createCreature]
  refine .bind_rolls .draw fun roll => .update_bind ?_ (.update_bind ?_ (.state_bind ?_ ?_))
  · rw [initializeSprite_withOthers of]
    split <;> rfl
  · rw [creature, setSprite_withOthers of]
    rfl
  · simp only [creature]
  · have kept : Linking level inside (if i.val < 7 then game.initializeSprite (.creature i) else game).links := by
      split
      · exact linking.clear
      · exact linking
    refine .bind (ignores_randomPlace.mono ?_)
    rintro ⟨x, y⟩ now rfl
    exact .update_bind (place_withOthers of) (.state_bind rfl (ignores_placed kept of))

theorem ignores_createExit (linking : Linking level inside game.links) :
    Ignores (withOthers level others) createExit (fun _ later => Linking level (WithNode inside .exit) later.links) game := by
  have isExit : NodeOfLevel level .exit := trivial
  have marked : ∀ (tile : Option TileIndex) (now : Game), Linking level inside now.links → Linking level inside
      (tile.elim now fun tile => now.setTerrainFlags tile ((now.terrain tile).flags ||| worldExit)).links := by
    intro tile now linking
    cases tile <;> exact linking
  rw [createExit]
  refine .bind (ignores_randomPlace.mono ?_)
  rintro ⟨x, y⟩ now rfl
  refine .update_bind ?_ (.update_bind ?_ ?_)
  · rw [clear_withOthers isExit]
    rfl
  · cases tileAt x y <;> rfl
  · refine (ignores_appendAt (marked _ _ linking.clear) isExit).mono ?_
    rintro _ _ ⟨links, rfl, linked⟩
    exact linked

theorem ignores_placePlayer (linking : Linking level inside game.links) :
    Ignores (withOthers level others) placePlayer
      (fun _ later => Linking level (WithNode inside (.sprite .player)) later.links) game := by
  have isPlayer : OfLevel level .player := trivial
  rw [placePlayer]
  refine .bind (ignores_randomPlace.mono ?_)
  rintro ⟨x, y⟩ now rfl
  exact .update_bind rfl (.update_bind (place_withOthers isPlayer) (ignores_placed linking isPlayer))

theorem ignores_playerLook :
    Ignores (withOthers level others) playerLook (fun _ later => Looked game later) game := by
  have looks : ∀ place now, Ignores (withOthers level others) (lookAt place) (fun _ _ => True) now := by
    intro place now
    refine .state_bind rfl ?_
    split
    · exact .update rfl trivial
    · exact .halt _
  have all : Ignores (withOthers level others) playerLook (fun _ _ => True) game := by
    rw [playerLook]
    refine .state_bind rfl ?_
    exact @Ignores.each _ _ _ _ game lookAt (fun _ _ => True) _ trivial fun place _ now _ => looks place now
  exact (all.and wlp_playerLook).mono fun _ _ both => both.2

theorem ignores_creatures {creatures : List CreatureIndex} (of : ∀ i ∈ creatures, i.val ≤ level)
    (linking : Linking level inside game.links) :
    Ignores (withOthers level others) (Program.each createCreature creatures)
      (fun _ later => ∃ inside, Linking level inside later.links ∧ ∀ i ∈ creatures, inside (.sprite (.creature i))) game := by
  refine (@Ignores.each _ _ _ _ game createCreature
    (fun rest now => (∀ i ∈ rest, i.val ≤ level) ∧ ∃ inside, Linking level inside now.links ∧
      ∀ i ∈ creatures, i ∈ rest ∨ inside (.sprite (.creature i))) creatures
    ⟨of, inside, linking, fun i isIn => .inl isIn⟩ ?_).mono ?_
  · rintro i rest now ⟨of, inside, linking, linked⟩
    refine (ignores_createCreature linking (of i List.mem_cons_self)).mono fun _ later linking => ?_
    refine ⟨fun other isIn => of other (List.mem_cons_of_mem i isIn), _, linking, fun other isIn => ?_⟩
    obtain isRest | isInside := linked other isIn
    · obtain rfl | isRest := List.mem_cons.mp isRest
      · exact .inr (.inr rfl)
      · exact .inl isRest
    · exact .inr (.inl isInside)
  · rintro _ later ⟨_, inside, linking, linked⟩
    exact ⟨inside, linking, fun i isIn => (linked i isIn).resolve_left List.not_mem_nil⟩

/-- A level as `game_start` leaves it. -/
structure LevelBegun (level : Nat) (game : Game) : Prop where
  isLevel : game.world.level = level
  closed : Closed (NodeOfLevel level) game.links
  setUp : ∀ i, i.val ≤ level → i.val < 7 → SetUp (game.creatures i)

theorem wlp_gameStart_begins (isLevel : game.world.level = level) :
    Wlp gameStart (fun _ later => later.world.level = level ∧
      ∀ i, i.val ≤ level → i.val < 7 → SetUp (later.creatures i)) game := by
  apply Wlp.of_returns
  intro draws _ later rest ran
  obtain ⟨mid, steps, rfl⟩ := wlp_gameStart.returns ran
  refine ⟨?_, fun i plays early => ?_⟩
  · rw [rests_scheduleRound.level, Touches.level_eq steps, isLevel]
  · rw [← isLevel] at plays
    exact (wlp_gameStart_setUp plays early).returns ran

/-- The creatures of the level, the exit and the player are linked one after the other. -/
theorem ignores_gameStart (isLevel : game.world.level = level) (alone : ∀ tile, Alone game.links tile) :
    Ignores (withOthers level others) gameStart (fun _ later => LevelBegun level later) game := by
  have links : Ignores (withOthers level others) gameStart (fun _ later => Closed (NodeOfLevel level) later.links) game := by
    rw [gameStart]
    refine .state_bind rfl ?_
    rw [isLevel]
    refine .bind ((ignores_creaturesOf level).mono ?_)
    rintro creatures now ⟨same, members⟩
    rw [same]
    refine .bind ((ignores_creatures (fun i => (members i).mp) (.of_alone alone)).mono ?_)
    rintro _ created ⟨inside, linking, linked⟩
    refine .bind ((ignores_createExit linking).mono fun _ left linking => ?_)
    refine .bind ((ignores_placePlayer linking).mono fun _ placed linking => ?_)
    refine .bind (ignores_playerLook.mono ?_)
    rintro _ _ ⟨terrain, rfl, _⟩
    refine .update scheduleRound_withOthers ?_
    rw [links_scheduleRound]
    -- with the exit and the player all nodes of the level are linked
    have all : WithNode (WithNode inside .exit) (.sprite .player) = NodeOfLevel level := by
      funext node
      rw [eq_iff_iff]
      refine ⟨linking.keeps node, fun of => ?_⟩
      cases node with
      | tile tile => exact linking.tiles tile
      | sprite sprite =>
        cases sprite with
        | creature i => exact .inl (.inl (linked i ((members i).mpr of)))
        | player => exact .inr rfl
      | exit => exact .inl (.inr rfl)
    rw [← all]
    exact linking.closed
  refine (links.and (wlp_gameStart_begins isLevel)).mono ?_
  rintro _ later ⟨closed, level, setUp⟩
  exact ⟨level, closed, setUp⟩

end Linking

/-! ## Levels -/

section Levels

variable {context : TileIndex}

theorem ignores_stopRound {next : Unit → Play Unit} {post : Unit → Game → Prop}
    (goes : Ignores (withOthers level others) (next ()) post (Game.stopRound game)) :
    Ignores (withOthers level others)
      (Program.update (fun game => if game.world.round.isSome then game.cancelRound else game) >>= next) post game := by
  refine .update_bind ?_ goes
  rw [cancelRound_withOthers]
  have round : (withOthers level others game).world = game.world := rfl
  rw [round]
  split <;> rfl

theorem level_stopRound : (Game.stopRound game).world.level = game.world.level := by
  rw [Game.stopRound]
  split <;> rfl

theorem bound_nextLevel (bound : game.world.level < maxCreatures) : nextLevel game.world.level < maxCreatures := by
  rw [nextLevel]
  split <;> omega

/-- The links that there were before do not matter. -/
theorem ignores_gameLevelUp (isNext : nextLevel game.world.level = level) :
    Ignores (withOthers level others) gameLevelUp (fun _ later => LevelBegun level later) game := by
  have levels : (fun game : Game => if game.world.level < maxCreatures - 1 then
      { game with world := { game.world with level := game.world.level + 1 } } else game) =
        fun game : Game => { game with world := { game.world with level := nextLevel game.world.level } } := by
    funext game
    rw [nextLevel]
    split <;> rfl
  rw [gameLevelUp, levels]
  refine ignores_stopRound (.update_bind rfl (.update_bind rfl (.state_bind rfl ?_)))
  refine .bind (ignores_worldCreateRandom.mono ?_)
  rintro _ _ ⟨terrain, links, rfl, alone⟩
  apply ignores_gameStart _ alone
  change nextLevel (Game.stopRound game).world.level = level
  rw [level_stopRound]
  exact isNext

theorem NodeOfLevel.mono {lower higher : Nat} (less : lower ≤ higher) {node : Node} (of : NodeOfLevel lower node) :
    NodeOfLevel higher node := by
  match node with
  | .sprite (.creature i) => exact Nat.le_trans (of : i.val ≤ lower) less
  | .tile _ | .sprite .player | .exit => trivial

theorem links_advance {place : EffectAt} : (game.advance place).links = game.links := by
  rw [Game.advance]
  split
  · cases place <;> exact links_setSprite
  · rfl

/-- The player goes through the exit, and the sprites of the old level are of the new one. -/
theorem ignores_leavesLevel (closed : Closed (NodeOfLevel game.world.level) game.links) (leaves : LeavesLevel context game)
    (isNext : nextLevel game.world.level = level) :
    Ignores (withOthers level others) (playerMoveCallback context) (fun _ later => LevelBegun level later) game := by
  have less : game.world.level ≤ level := by
    rw [← isNext, nextLevel]
    split <;> omega
  have isPlayer : OfLevel game.world.level .player := trivial
  have ends : (game.advance (.sprite .player)).character.player.effect.count = 0 := (count_advance game).mpr leaves.1
  have world : (game.advance (.sprite .player)).world = game.world := by
    rw [Game.advance]
    split
    · exact world_setEffect
    · rfl
  have exits : has ((game.advance (.sprite .player)).terrain context).flags worldExit = true := by
    rw [terrain_advance]
    exact leaves.2
  rw [← @links_advance game (.sprite .player)] at closed
  rw [← world] at isNext
  rw [playerMoveCallback]
  refine .update_bind (advance_withOthers isPlayer) (.state_bind rfl ?_)
  rw [if_pos ends]
  refine .bind ((ignores_relink_inside closed isPlayer (fun _ => trivial) fun node => NodeOfLevel.mono less).mono ?_)
  rintro _ _ ⟨links, rfl, _⟩
  refine .bind (ignores_playerLook.mono ?_)
  rintro _ _ ⟨terrain, rfl, same⟩
  refine .state_bind rfl ?_
  rw [if_pos ((same context).trans exits)]
  exact ignores_gameLevelUp isNext

/-- The other creatures do not matter to a new player. -/
theorem ignores_playerCreateRandom :
    Ignores (withOthers level others) playerCreateRandom
      (fun _ later => ∃ player, later = Game.enroll player game) game := by
  have isPlayer : OfLevel level .player := trivial
  refine .bind_rolls threeDice_rolled fun str => .bind_rolls threeDice_rolled fun dex => ?_
  refine .bind_rolls threeDice_rolled fun con => .bind_rolls threeDice_rolled fun intel => ?_
  refine .bind_rolls threeDice_rolled fun wis => .bind_rolls .draw fun _ => .update ?_ ⟨_, rfl⟩
  rw [clear_withOthers isPlayer]
  rfl

theorem ignores_gameStartCommand (up : game.screenUp = true) :
    Ignores (withOthers 1 others) gameStartCommand (fun _ later => LevelBegun 1 later) game := by
  rw [gameStartCommand]
  refine .state_bind rfl ?_
  rw [if_pos up]
  refine ignores_stopRound (.update_bind rfl (.bind (ignores_worldCreateRandom.mono ?_)))
  rintro _ _ ⟨terrain, links, rfl, alone⟩
  refine .bind (ignores_playerCreateRandom.mono ?_)
  rintro _ _ ⟨player, rfl⟩
  have stillAlone : ∀ tile, Alone (Function.update links (.sprite .player) {}) tile := by
    intro tile
    rw [Alone, Function.update_of_ne (by simp)]
    exact alone tile
  refine .bind ((ignores_gameStart rfl stillAlone).mono fun _ _ begun => .update rfl ?_)
  exact ⟨begun.isLevel, begun.closed, begun.setUp⟩

end Levels

end ComputerSystems.Verified
