import Mathlib.Algebra.GroupWithZero.Nat
import Mathlib.Data.Fintype.Basic
import Mathlib.Data.Finset.Card
import ComputerSystems.Verified.GridReturns
import ComputerSystems.Verified.RoundTimer

/-! # The deaths of creatures

A creature that the player's attack brings below zero hit points leaves the grid at once and
counts once in the score of its level; from then on it stays where it is, attacks nobody and
is found by no search, as the lists of the grid lead past it.

This takes two things.  An attack that leaves exactly no hit points is none that kills, so that
the creature stays on the grid.  And a move that was under way when its creature died puts
the creature back on the grid when it ends.
-/

namespace ComputerSystems.Verified

open ComputerSystems.Data ComputerSystems.VirtualWorld Relation

variable {game mid later : Game} {sprite other : Sprite} {scope : Scope} {i j : CreatureIndex} {setting : Board.Setting}

/-! ## What is not touched -/

theorem sprite_setEffect {place : EffectAt} {effect : EffectTile} (apart : other ≠ effectOwner place) :
    (game.setEffect place effect).sprite other = game.sprite other := by
  cases place with
  | sprite sprite => exact sprite_setSprite.trans (if_neg apart)
  | action sprite attack => exact sprite_setSprite.trans (if_neg apart)

theorem sprite_tileEffectStart {place : EffectAt} {x y : Int} (apart : other ≠ effectOwner place) :
    (tileEffectStart place x y game).2.sprite other = game.sprite other := by
  obtain same | ⟨effect, _, _, sprites⟩ := tileEffectStart_cases place x y game
  · rw [same]
  · rw [sprites, sprite_setEffect apart]

theorem sprite_setSprite_of_ne {value : SpriteTile} (apart : other ≠ sprite) :
    (game.setSprite sprite value).sprite other = game.sprite other :=
  sprite_setSprite.trans (if_neg apart)

theorem sprite_again {poll : EffectPoll} {place : EffectAt} {context : TileIndex} :
    (game.again poll place context).sprite other = game.sprite other := by
  obtain ⟨timers, same⟩ := @timerSchedule_frame game (.effect poll place context)
  rw [Game.again, same]
  exact sprite_congr rfl rfl other

theorem sprite_advance {place : EffectAt} (apart : other ≠ effectOwner place) :
    (game.advance place).sprite other = game.sprite other := by
  rw [Game.advance]
  split
  · exact sprite_setEffect apart
  · rfl

/-- A sprite that is not in the scope stays as it is. -/
theorem Touch.sprite_eq (touch : Touch scope game later) (outside : ¬ scope.sprite other) :
    later.sprite other = game.sprite other := by
  have apart : ∀ {sprite}, scope.sprite sprite → other ≠ sprite := by
    rintro _ inside rfl
    exact outside inside
  cases touch with
  | other same => exact sprite_congr same.creatures same.player other
  | sprite inside _ => exact sprite_setSprite_of_ne (apart inside)
  | advance inside => exact sprite_advance (apart inside)
  | place inside _ => exact sprite_setSprite_of_ne (apart inside)
  | @renew i inside _ =>
    have set : (game.setSprite (.creature i) (spriteInitialize (game.sprite (.creature i)))).sprite other =
        game.sprite other := sprite_setSprite_of_ne (apart inside)
    exact (sprite_congr rfl rfl other).trans set
  | enter inside => exact sprite_setSprite_of_ne (apart inside)
  | score _ => exact sprite_congr rfl rfl other
  | again _ _ => exact sprite_again
  | @start sprite poll _ _ _ inside _ =>
    have apart : other ≠ sprite := apart inside
    exact (sprite_tileEffectStart apart).trans (sprite_setSprite_of_ne apart)
  | @launch attacker _ attack _ inside =>
    have apart : other ≠ attacker := apart inside
    exact (sprite_tileEffectStart apart).trans (sprite_setEffect apart)

theorem Touches.sprite_eq (steps : Touches scope game later) (outside : ¬ scope.sprite other) :
    later.sprite other = game.sprite other := by
  induction steps with
  | refl => rfl
  | tail _ last ih => exact (Touch.sprite_eq last outside).trans ih

/-- Of the world a step changes the score, if it counts. -/
theorem Touch.world_cases (touch : Touch scope game later) :
    later.world = game.world ∨ scope.scored ∧ ∃ score, later.world = { game.world with score } := by
  have started : ∀ place x y (game : Game), (tileEffectStart place x y game).2.world = game.world := by
    intro place x y game
    obtain same | ⟨_, _, world, _⟩ := tileEffectStart_cases place x y game
    · rw [same]
    · exact world
  cases touch with
  | other same => exact .inl same.world
  | sprite _ _ => exact .inl world_setSprite
  | advance _ =>
    rw [Game.advance]
    split
    · exact .inl world_setEffect
    · exact .inl rfl
  | place _ _ => exact .inl world_setEffect
  | renew _ _ => exact .inl (@world_setSprite game _ _)
  | enter _ => exact .inl world_setSprite
  | score scored => exact .inr ⟨scored, _, rfl⟩
  | @again poll place context _ _ =>
    obtain ⟨timers, same⟩ := @timerSchedule_frame game (.effect poll place context)
    rw [Game.again, same]
    exact .inl rfl
  | start _ _ _ => exact .inl ((started _ _ _ _).trans world_setSprite)
  | launch _ _ => exact .inl ((started _ _ _ _).trans world_setEffect)

/-- Steps that do not count change nothing of the world. -/
theorem Touches.world_eq (steps : Touches scope game later) (unscored : ¬ scope.scored) : later.world = game.world := by
  induction steps with
  | refl => rfl
  | tail _ last ih =>
    cases Touch.world_cases last with
    | inl same => exact same.trans ih
    | inr scores => exact absurd scores.1 unscored

/-- The level goes on. -/
theorem Touches.level_eq (steps : Touches scope game later) : later.world.level = game.world.level := by
  induction steps with
  | refl => rfl
  | tail _ last ih =>
    obtain same | ⟨_, score, same⟩ := Touch.world_cases last
    · rw [same, ih]
    · rw [same, ih]

/-! ## Creatures that have fallen -/

/-- A creature of the level that has been brought below zero hit points. -/
def Fallen (game : Game) (i : CreatureIndex) : Prop := i.val ≤ game.world.level ∧ (game.creatures i).stats.hp < 0

/-- An effect goes on, and no other is started. -/
def EffectGoesOn : EffectTile → EffectTile → Prop := ReflTransGen fun before after => before.count ≠ 0 ∧ after = tileEffectNext before

/-- A sprite that has not been moved or attacked and has not attacked. -/
structure Stays (before after : SpriteTile) : Prop where
  hp : after.stats.hp = before.stats.hp
  locationX : after.effect.locationX = before.effect.locationX
  locationY : after.effect.locationY = before.effect.locationY
  destinationX : after.effect.destinationX = before.effect.destinationX
  destinationY : after.effect.destinationY = before.effect.destinationY
  attacks : ∀ attack, EffectGoesOn (before.action attack).effect (after.action attack).effect

theorem Stays.refl {value : SpriteTile} : Stays value value := ⟨rfl, rfl, rfl, rfl, rfl, fun _ => .refl⟩

theorem Stays.trans {first second third : SpriteTile} (before : Stays first second) (after : Stays second third) :
    Stays first third where
  hp := after.hp.trans before.hp
  locationX := after.locationX.trans before.locationX
  locationY := after.locationY.trans before.locationY
  destinationX := after.destinationX.trans before.destinationX
  destinationY := after.destinationY.trans before.destinationY
  attacks attack := (before.attacks attack).trans (after.attacks attack)

/-- Which creatures have fallen between two states of a level: they have not been among the
    fallen, each counts once, and those that were stay. -/
structure Counts (felled : Finset CreatureIndex) (game later : Game) : Prop where
  score : later.world.score = game.world.score + felled.card
  level : later.world.level = game.world.level
  fresh : ∀ i ∈ felled, ¬ Fallen game i
  fallen : ∀ i ∈ felled, Fallen later i
  stays : ∀ i, Fallen game i → Stays (game.creatures i) (later.creatures i)

namespace Counts

variable {felled felled' : Finset CreatureIndex}

theorem keeps (counts : Counts felled game later) (before : Fallen game i) : Fallen later i := by
  obtain ⟨level, hp⟩ := before
  refine ⟨counts.level ▸ level, ?_⟩
  rw [(counts.stays i ⟨level, hp⟩).hp]
  exact hp

theorem trans (first : Counts felled game mid) (second : Counts felled' mid later) :
    Counts (felled ∪ felled') game later where
  score := by
    have apart : Disjoint felled felled' := by
      rw [Finset.disjoint_left]
      intro i isFirst isSecond
      exact second.fresh i isSecond (first.fallen i isFirst)
    rw [second.score, first.score, Finset.card_union_of_disjoint apart, Nat.add_assoc]
  level := second.level.trans first.level
  fresh i isIn before := by
    cases Finset.mem_union.mp isIn with
    | inl isFirst => exact first.fresh i isFirst before
    | inr isSecond => exact second.fresh i isSecond (first.keeps before)
  fallen i isIn := by
    cases Finset.mem_union.mp isIn with
    | inl isFirst => exact second.keeps (first.fallen i isFirst)
    | inr isSecond => exact second.fallen i isSecond
  stays i before := (first.stays i before).trans (second.stays i (first.keeps before))

end Counts

/-- Nobody falls. -/
abbrev Rests : Game → Game → Prop := Counts ∅

theorem Rests.of_stays (score : later.world.score = game.world.score) (level : later.world.level = game.world.level)
    (stays : ∀ i, Fallen game i → Stays (game.creatures i) (later.creatures i)) : Rests game later where
  score := score
  level := level
  fresh i isIn := absurd isIn (Finset.notMem_empty i)
  fallen i isIn := absurd isIn (Finset.notMem_empty i)
  stays := stays

theorem Rests.refl : Rests game game := .of_stays rfl rfl fun _ _ => .refl

theorem Rests.trans (first : Rests game mid) (second : Rests mid later) : Rests game later := by
  have both := Counts.trans first second
  rwa [Finset.union_idempotent] at both

/-- Sprites that act without counting. -/
def Scope.uncounted (sprites : Sprite → Prop) : Scope where
  sprite := sprites
  timed := True
  scored := False

/-- Nobody falls where only others are touched. -/
theorem Rests.of_touches (steps : Touches scope game later) (unscored : ¬ scope.scored)
    (apart : ∀ i, Fallen game i → ¬ scope.sprite (.creature i)) : Rests game later := by
  have world := Touches.world_eq steps unscored
  refine .of_stays (by rw [world]) (by rw [world]) fun i before => ?_
  have same : later.sprite (.creature i) = game.sprite (.creature i) := Touches.sprite_eq steps (apart i before)
  have isSame : later.creatures i = game.creatures i := same
  rw [isSame]
  exact .refl

/-! ## Attacks of creatures -/

section Attacks

variable {attacker attacked nearest : Sprite}

theorem wlp_rollDamage_shows {affect : Nat} (attacks : scope.sprite attacker) :
    Wlp (rollDamage attacker affect) (fun _ later => board later = board game ∧ Touches scope game later) game := by
  have same : Wlp (rollDamage attacker affect) (fun _ later => board later = board game) game :=
    (wp_rollDamage fun _ _ same => same).wlp
  exact same.and (makes_rollDamage attacks game)

/-- The hit of a sprite that is not the player does not count. -/
theorem wlp_strike_unscored {affect modifier : Nat} (noPlayer : ((board game).sprites attacker).player = false)
    (attacks : scope.sprite attacker) (hit : scope.sprite attacked) :
    Wlp (strike attacker affect modifier attacked) (fun _ later => Touches scope game later) game := by
  rw [strike]
  apply Wlp.bind
  apply (wlp_rollDamage_shows attacks).mono
  rintro damage struck ⟨same, steps⟩
  simp only [wlp_update_bind, wlp_state_bind]
  have hurt : Touches scope game
      (struck.setHp attacked ((struck.sprite attacked).stats.hp - (damage + modifier : Nat))) := steps.tail (.setHp hit)
  have hp : ((struck.setHp attacked ((struck.sprite attacked).stats.hp - (damage + modifier : Nat))).sprite attacked).stats.hp =
      (struck.sprite attacked).stats.hp - (damage + modifier : Nat) := by
    rw [Game.setHp, sprite_setSprite_self]
  rw [hp]
  split
  next negative =>
    -- the sprite is killed, and only the player scores for that
    have dies := @board_die struck attacked _ negative
    have still : ((board ((struck.setHp attacked
        ((struck.sprite attacked).stats.hp - (damage + modifier : Nat))).die attacked)).sprites attacker).player = false := by
      rw [dies]
      change (Function.update (board struck).sprites attacked (slain ((board struck).sprites attacked)) attacker).player = false
      rw [← same] at noPlayer
      by_cases itself : attacker = attacked
      · subst itself
        rw [Function.update_self]
        exact noPlayer
      · rw [Function.update_of_ne itself]
        exact noPlayer
    rw [wlp_update_bind, wlp_state_bind]
    split
    next byPlayer => exact absurd (byPlayer.symm.trans still) (by simp)
    · rw [wlp_pure]
      exact hurt.trans (touches_die hit)
  · rw [wlp_pure]
    exact hurt

theorem wlp_creatureAttack_unscored {attack : Attack} (noPlayer : ((board game).sprites attacker).player = false)
    (timed : scope.timed) (attacks : scope.sprite attacker) (hit : scope.sprite attacked) :
    Wlp (creatureAttack attacker attack attacked) (fun _ later => Touches scope game later) game := by
  -- the blow follows the launch, whether the effect polls at once or not
  have strikes : ∀ now affect modifier (hits : Prop) [Decidable hits], board now = board game → Touches scope game now →
      Wlp (if hits then do
          strike attacker affect modifier attacked
          Program.update (Game.show attacker)
        else Program.update (Game.show attacker)) (fun _ later => Touches scope game later) now := by
    intro now affect modifier hits _ same steps
    split
    · apply Wlp.bind
      apply (wlp_strike_unscored (same ▸ noPlayer) attacks hit).mono
      intro _ later struck
      rw [wlp_update]
      exact (steps.trans struck).tail (.setFlags attacks)
    · rw [wlp_update]
      exact steps.tail (.setFlags attacks)
  have launched : Touches scope game (game.launch attacker attack attacked).2 := .single (.launch timed attacks)
  simp only [creatureAttack, wlp_state_bind]
  split
  · exact (wlp_pure _).mpr .refl
  · apply Wlp.bind_draws attackRoll_draws
    intro roll
    apply Wlp.bind
    rw [wlp_change]
    split
    · apply Wlp.bind
      apply (wp_attackCallback.wlp.and (makes_attackCallback timed attacks _)).mono
      rintro _ later ⟨same, steps⟩
      exact strikes _ _ _ _ (same.trans board_launch) (launched.trans steps)
    · exact strikes _ _ _ _ board_launch launched
    · exact strikes _ _ _ _ board_launch launched

theorem wlp_spriteAction_unscored (noPlayer : ((board game).sprites sprite).player = false) (timed : scope.timed)
    (acts : scope.sprite sprite) (hit : scope.sprite nearest) :
    Wlp (spriteAction sprite nearest) (fun _ later => Touches scope game later) game := by
  rw [spriteAction]
  apply Wlp.bind
  apply Wlp.look
  intro attack _
  apply Wlp.bind
  apply Wlp.look
  intro hidden _
  simp only [wlp_state_bind]
  split
  · exact (wlp_pure _).mpr .refl
  · split
    · cases attack with
      | some attack =>
        apply Wlp.bind
        apply (wlp_creatureAttack_unscored noPlayer timed acts hit).mono
        intro _ later steps
        exact (wlp_pure _).mpr steps
      | none =>
        apply Wlp.bind
        apply (makes_spriteMove timed acts game).mono
        intro _ later steps
        exact (wlp_pure _).mpr steps
    · exact (wlp_pure _).mpr .refl

end Attacks

/-! ## Rounds -/

theorem stays_setFlags {flags : BitVec 32} : Stays (game.creatures j) ((game.setFlags (.creature i) flags).creatures j) := by
  by_cases same : j = i
  · subst same
    have flagged : (game.setFlags (.creature j) flags).creatures j =
        { game.creatures j with effect := { (game.creatures j).effect with
          tile := { (game.creatures j).effect.tile with flags } } } := Function.update_self ..
    rw [flagged]
    exact ⟨rfl, rfl, rfl, rfl, rfl, fun _ => .refl⟩
  · have other : (game.setFlags (.creature i) flags).creatures j = game.creatures j := Function.update_of_ne same ..
    rw [other]
    exact .refl

/-- What can be noticed has not fallen. -/
theorem Noticeable.not_fallen {found : Sprite} (noticeable : Noticeable (board game) sprite found) :
    0 ≤ (game.sprite found).stats.hp := by
  have on := noticeable.on
  rw [Board.onGrid, Standing.remains, noticeable.item, Bool.and_eq_true] at on
  have killed : ((board game).sprites found).killed = false := by simpa using on.2
  exact Int.not_lt.mp (of_decide_eq_false killed)

/-- Nobody falls in a creature's turn who counts, and who has fallen has no turn. -/
theorem wlp_creatureTurn_rests (sound : (board game).Sound setting) (plays : i.val ≤ setting.level) :
    Wlp (creatureTurn i) (fun _ later => Rests game later) game := by
  have noPlayer : ((board game).sprites (.creature i)).player = false := by
    rw [← sound.facts.level] at plays
    have fits := sound.facts.fits (.creature i) (decide_eq_true plays)
    exact fits.not_player
  rw [creatureTurn, wlp_state_bind]
  split
  · exact (wlp_pure _).mpr .refl
  · split
    next conscious =>
      apply Wlp.bind
      apply Wlp.look
      intro found finds
      have world : (game.sprite (.creature i)).currentWorld = true := by
        by_contra without
        rw [spriteFindNearest, if_neg without] at finds
        cases finds
      -- alone the creature fells nobody: it has hit points left itself
      have alone : ∀ {later}, Touches (.uncounted (· = .creature i)) game later → Rests game later := by
        intro later steps
        refine .of_touches steps not_false ?_
        rintro j ⟨_, negative⟩ isThis
        obtain rfl : j = i := Sprite.creature.inj isThis
        exact absurd negative (Int.not_lt.mpr (Int.le_of_lt conscious))
      cases found with
      | none =>
        have acts : (Scope.uncounted (· = Sprite.creature i)).sprite (.creature i) := rfl
        exact (makes_wander trivial acts game).mono fun _ _ steps => alone steps
      | some nearby =>
        obtain ⟨met, isMet, noticeable⟩ := spriteFindNearest_finds sound world
        obtain rfl : met = some nearby := Except.ok.inj (isMet.symm.trans finds)
        have standing := (noticeable nearby rfl).not_fallen
        -- whom it attacks is standing, so no sprite falls twice
        have both : ∀ {later}, Touches (.uncounted fun sprite => sprite = .creature i ∨ sprite = nearby) game later →
            Rests game later := by
          intro later steps
          refine .of_touches steps not_false ?_
          rintro j ⟨_, negative⟩ (isThis | rfl)
          · obtain rfl : j = i := Sprite.creature.inj isThis
            exact absurd negative (Int.not_lt.mpr (Int.le_of_lt conscious))
          · exact absurd negative (Int.not_lt.mpr standing)
        have acts : (Scope.uncounted fun sprite => sprite = .creature i ∨ sprite = nearby).sprite (.creature i) := .inl rfl
        apply Wlp.bind
        apply (wlp_spriteAction_unscored noPlayer trivial acts (.inr rfl)).mono
        intro acted mid steps
        split
        · exact (wlp_pure _).mpr (both steps)
        · exact (makes_wander trivial acts mid).mono fun _ _ wanders => both (steps.trans wanders)
    · rw [wlp_update]
      exact .of_stays rfl rfl fun j _ => stays_setFlags

theorem rests_timers {timers : Fin maxTimerTasks → TimerSlot} : Rests game { game with timers } :=
  .of_stays rfl rfl fun _ _ => .refl

theorem rests_scheduleRound : Rests game game.scheduleRound := by
  obtain ⟨timers, same⟩ := @timerSchedule_frame game .round
  simp only [Game.scheduleRound, same]
  exact .of_stays rfl rfl fun _ _ => .refl

theorem rests_cancelRound : Rests game game.cancelRound := by
  obtain ⟨timers, same⟩ := @timerCancel_frame game game.world.round
  rw [Game.cancelRound, same]
  exact .of_stays rfl rfl fun _ _ => .refl

/-- What the player does in a round, and the counter behind the creatures of the level. -/
theorem wlp_characterRound_rests {level : Nat} (isLevel : game.world.level = level) :
    Wlp (characterRound level) (fun _ later => Rests game later) game := by
  rw [characterRound, wlp_state_bind]
  split
  · split
    next inside =>
      have counts : Makes (Touch (.uncounted fun sprite => sprite = .player ∨ sprite = .creature ⟨level + 1, inside⟩))
          (clericRound ⟨level + 1, inside⟩) := makes_clericRound (.inl rfl) (.inr rfl)
      apply (counts game).mono
      intro _ later steps
      refine .of_touches steps not_false ?_
      rintro i ⟨plays, _⟩ (isPlayer | isCounter)
      · cases isPlayer
      · obtain rfl := Sprite.creature.inj isCounter
        rw [isLevel] at plays
        exact absurd plays (Nat.not_succ_le_self level)
    · exact wlp_halt _
  · split
    · rw [wlp_update]
      have hides : Touches (.uncounted (· = .player)) game game.scoutRound := touches_scoutRound rfl
      exact .of_touches hides not_false fun i _ isPlayer => Sprite.noConfusion isPlayer
    · exact (wlp_pure _).mpr .refl

theorem wlp_gameRound_rests (playing : (board game).Playing) : Wlp gameRound (fun _ later => Rests game later) game := by
  have sound : (board game).Sound _ := playing
  simp only [gameRound, wlp_state_bind]
  split
  · apply Wlp.bind
    apply wlp_creaturesOf
    intro creatures members
    apply Wlp.bind
    have turns := @Wlp.each _ _ _ game creatureTurn (fun now => (board now).Sound _ ∧ Rests game now) creatures
      ⟨sound, .refl⟩ fun i isIn now kept => by
        have turn := (wlp_creatureTurn kept.1 ((members i).mp isIn)).and
          (wlp_creatureTurn_rests kept.1 ((members i).mp isIn))
        exact turn.mono fun _ _ both => ⟨both.1, kept.2.trans both.2⟩
    apply turns.mono
    intro _ mid ⟨_, rests⟩
    rw [wlp_state_bind]
    split
    · apply Wlp.bind
      apply (wlp_characterRound_rests rests.level).mono
      intro _ last character
      rw [wlp_update]
      exact rests.trans (character.trans rests_scheduleRound)
    · rw [wlp_update]
      exact rests.trans rests_cancelRound
  · exact Wlp.bind (wlp_halt _)

/-! ## Effects that go on -/

theorem rests_again {poll : EffectPoll} {place : EffectAt} {context : TileIndex} :
    Rests game (game.again poll place context) := by
  obtain ⟨timers, same⟩ := @timerSchedule_frame game (.effect poll place context)
  rw [Game.again, same]
  exact rests_timers

theorem rests_setSprite {value : SpriteTile} (stays : Stays (game.sprite sprite) value) :
    Rests game (game.setSprite sprite value) := by
  refine .of_stays (by rw [world_setSprite]) (by rw [world_setSprite]) fun i _ => ?_
  have isIt : (game.setSprite sprite value).creatures i = _ := @sprite_setSprite game sprite (.creature i) value
  rw [isIt]
  split
  next same =>
    subst same
    exact stays
  · exact .refl

/-- The attacks that were made before go on. -/
theorem rests_advanceAction {attack : Attack} : Rests game (game.advance (.action sprite attack)) := by
  rw [Game.advance]
  split
  next active =>
    apply rests_setSprite
    have goesOn : ∀ other, EffectGoesOn ((game.sprite sprite).action other).effect
        (((game.sprite sprite).setAction attack { (game.sprite sprite).action attack with
          effect := tileEffectNext ((game.sprite sprite).action attack).effect }).action other).effect := by
      intro other
      cases attack with
      | first =>
        cases other with
        | first => exact .single ⟨active, rfl⟩
        | second => exact .refl
      | second =>
        cases other with
        | first => exact .refl
        | second => exact .single ⟨active, rfl⟩
    cases attack with
    | first => exact ⟨rfl, rfl, rfl, rfl, rfl, goesOn⟩
    | second => exact ⟨rfl, rfl, rfl, rfl, rfl, goesOn⟩
  · exact .refl

theorem wlp_attackCallback_rests {attack : Attack} {context : TileIndex} :
    Wlp (attackCallback sprite attack context) (fun _ later => Rests game later) game := by
  rw [attackCallback, wlp_update]
  dsimp only
  split
  · exact rests_advanceAction.trans rests_again
  · exact rests_advanceAction

/-- A move that does not end yet. -/
theorem rests_advance (goesOn : completes (game.sprite sprite).effect = false) :
    Rests game (game.advance (.sprite sprite)) := by
  rw [Game.advance]
  split
  · apply rests_setSprite
    obtain ⟨_, more⟩ : (game.sprite sprite).effect.count ≠ 0 ∧
        ¬ (game.sprite sprite).effect.total ≤ (game.sprite sprite).effect.count + 1 := by
      simpa [completes] using goesOn
    have next : tileEffectNext (game.effect (.sprite sprite)) =
        { (game.sprite sprite).effect with count := (game.sprite sprite).effect.count + 1 } := if_neg more
    rw [next]
    exact ⟨rfl, rfl, rfl, rfl, rfl, fun _ => .refl⟩
  · exact .refl

/-- The moves of who has fallen do not end. -/
theorem wlp_spriteMoveCallback_rests {context : TileIndex}
    (living : completes (game.sprite sprite).effect = true → 0 ≤ (game.sprite sprite).stats.hp) :
    Wlp (spriteMoveCallback sprite context) (fun _ later => Rests game later) game := by
  by_cases completed : completes (game.sprite sprite).effect = true
  · have moves : Makes (Touch (.uncounted (· = sprite))) (spriteMoveCallback sprite context) :=
      makes_spriteMoveCallback trivial rfl
    apply (moves game).mono
    intro _ later steps
    refine .of_touches steps not_false ?_
    rintro i ⟨_, negative⟩ rfl
    exact absurd negative (Int.not_lt.mpr (living completed))
  · have goesOn := Bool.eq_false_iff.mpr completed
    simp only [spriteMoveCallback, wlp_update_bind, wlp_state_bind]
    cases advance_cases sprite game with
    | inl active =>
      rw [if_pos active.1, wlp_update]
      exact (rests_advance goesOn).trans rests_again
    | inr last => exact absurd last.2.1 completed

/-! ## The player's attack -/

/-- The roll that a random number stands for. -/
def rollOf (random : BitVec 32) : Nat :=
  let roll := (random % 31).toNat
  if roll = 0 ∨ 20 < roll then 20 else roll

/-- The highest of some rolls. -/
def bestOf (randoms : List (BitVec 32)) : Nat := (randoms.map rollOf).foldr max 0

/-- The sum of some dice. -/
def sumOf (randoms : List (BitVec 32)) : Nat := (randoms.map fun random => (random % 6).toNat + 1).sum

/-- How often a sprite rolls: twice from an ambush. -/
def throws (attacker : Sprite) (game : Game) : Nat := if has (game.flags attacker) isVisible then 1 else 2

section Rolls

variable {attacker attacked : Sprite} {draws : List (BitVec 32)}

theorem d20_rolls : WlpWith d20
    (fun roll later rest => later = game ∧ ∃ random, draws = random :: rest ∧ roll = rollOf random) (game, draws) := by
  rw [d20]
  apply WlpWith.bind
  apply WlpWith.draw
  rintro random rest rfl
  rw [wlpWith_pure]
  exact ⟨rfl, random, rfl, rfl⟩

theorem dice_rolls (count : Nat) : ∀ draws, WlpWith (dice count)
    (fun total later rest => later = game ∧ total = sumOf (draws.take count) ∧ rest = draws.drop count) (game, draws) := by
  induction count with
  | zero =>
    intro draws
    rw [dice, wlpWith_pure]
    exact ⟨rfl, rfl, rfl⟩
  | succ count ih =>
    intro draws
    rw [dice]
    apply WlpWith.bind
    apply WlpWith.draw
    rintro random rest rfl
    apply WlpWith.bind
    refine (ih rest).mono ?_
    rintro total _ _ ⟨rfl, rfl, rfl⟩
    rw [wlpWith_pure]
    exact ⟨rfl, rfl, rfl⟩

theorem attackRoll_rolls : WlpWith (attackRoll attacker)
    (fun roll later rest => later = game ∧ roll = bestOf (draws.take (throws attacker game)) ∧
      rest = draws.drop (throws attacker game)) (game, draws) := by
  rw [attackRoll]
  apply WlpWith.bind
  refine d20_rolls.mono ?_
  rintro roll _ rest ⟨rfl, random, rfl, rfl⟩
  rw [wlpWith_state_bind, throws]
  split
  · rw [wlpWith_pure]
    simp [bestOf]
  · apply WlpWith.bind
    refine d20_rolls.mono ?_
    rintro second _ rest ⟨rfl, other, rfl, rfl⟩
    rw [wlpWith_pure]
    simp [bestOf]

theorem rollDamage_rolls {affect : Nat} : WlpWith (rollDamage attacker affect)
    (fun damage later _ => (later = game ∨ later = game.show attacker) ∧
      damage = sumOf (draws.take (throws attacker game * affect))) (game, draws) := by
  rw [rollDamage]
  apply WlpWith.bind
  refine (dice_rolls affect draws).mono ?_
  rintro damage _ _ ⟨rfl, rfl, rfl⟩
  rw [wlpWith_state_bind, throws]
  split
  · rw [wlpWith_pure, Nat.one_mul]
    exact ⟨.inl rfl, rfl⟩
  · apply WlpWith.bind
    refine (dice_rolls affect _).mono ?_
    rintro more _ _ ⟨rfl, rfl, rfl⟩
    rw [wlpWith_update_bind, wlpWith_pure, Nat.two_mul, List.take_add]
    exact ⟨.inr rfl, by simp [sumOf]⟩

end Rolls

/-! ### What it does -/

theorem stats_setFlags {flags : BitVec 32} : ((game.setFlags sprite flags).sprite other).stats = (game.sprite other).stats := by
  rw [Game.setFlags, sprite_setSprite]
  split
  next same => rw [same]
  · rfl

theorem stats_becomeItem {tileNum : Int} :
    ((game.becomeItem sprite tileNum).sprite other).stats = (game.sprite other).stats := by
  have left : (game.becomeItem sprite tileNum).sprite other = (game.setSprite sprite { game.sprite sprite with
      effect := { (game.sprite sprite).effect with
        tile := { bitmap := some .equipment, tileNum, flags := isItem ||| isVisible } } }).sprite other :=
    sprite_congr rfl rfl other
  rw [left, sprite_setSprite]
  split
  next same => rw [same]
  · rfl

theorem stats_die : ((game.die sprite).sprite other).stats = (game.sprite other).stats := by
  rw [Game.die, stats_setFlags]
  exact congrArg _ (sprite_congr rfl rfl other)

theorem wlp_append {node : Node} {tile : TileIndex} :
    Wlp (append node tile) (fun _ later => ∃ links, later = { game with links }) game := by
  apply Wlp.bind
  apply Wlp.look
  intro links _
  exact (wlp_update _).mpr ⟨links, rfl⟩

/-- A defeated creature counts once. -/
theorem wlp_defeatCreature :
    Wlp (defeatCreature sprite) (fun _ later => later.world.score = game.world.score + 1 ∧
      ∀ other, (later.sprite other).stats = (game.sprite other).stats) game := by
  rw [defeatCreature, wlp_update_bind]
  apply Wlp.bind_draws d16_draws
  intro roll
  split
  · rw [wlp_state_bind]
    apply Wlp.bind_draws rollItem_draws
    intro item
    rw [wlp_update_bind, wlp_state_bind]
    have counted : ∀ {now : Game}, (∃ links, now = { Game.becomeItem sprite item
        { game with world := { game.world with score := game.world.score + 1 } } with links }) →
        now.world.score = game.world.score + 1 ∧ ∀ other, (now.sprite other).stats = (game.sprite other).stats := by
      rintro _ ⟨links, rfl⟩
      refine ⟨?_, fun other => ?_⟩
      · exact congrArg World.score (@world_setSprite { game with world := { game.world with score := game.world.score + 1 } } sprite _)
      · refine (congrArg _ (sprite_congr rfl rfl other)).trans (@stats_becomeItem _ sprite other item |>.trans ?_)
        exact congrArg _ (sprite_congr rfl rfl other)
    split
    · exact wlp_append.mono fun _ _ appended => counted appended
    · exact (wlp_pure _).mpr (counted ⟨_, rfl⟩)
  · rw [wlp_pure]
    exact ⟨rfl, fun other => congrArg _ (sprite_congr rfl rfl other)⟩

/-- The player's hit takes what is rolled, and counts if it kills. -/
theorem strike_counts {affect modifier : Nat} {draws : List (BitVec 32)}
    (byPlayer : ((board game).sprites .player).player = true) :
    WlpWith (strike .player affect modifier (.creature j)) (fun _ later _ =>
      (later.creatures j).stats.hp =
          (game.creatures j).stats.hp - (sumOf (draws.take (throws .player game * affect)) + modifier : Nat) ∧
        later.world.score = game.world.score + if (later.creatures j).stats.hp < 0 then 1 else 0) (game, draws) := by
  rw [strike]
  apply WlpWith.bind
  refine (rollDamage_rolls.and (Wlp.with (wp_rollDamage fun _ _ same => same).wlp)).mono ?_
  rintro damage struck rest ⟨⟨shown, isDamage⟩, same⟩
  have before : struck.creatures = game.creatures ∧ struck.world = game.world := by
    obtain rfl | rfl := shown
    · exact ⟨rfl, rfl⟩
    · exact ⟨rfl, rfl⟩
  rw [← same] at byPlayer
  simp only [wlpWith_update_bind, wlpWith_state_bind, ← before.1, ← before.2, ← isDamage]
  have hp : ∀ hp, ((struck.setHp (.creature j) hp).sprite (.creature j)).stats.hp = hp := by
    intro hp
    rw [Game.setHp, sprite_setSprite_self]
  have taken := hp ((struck.sprite (.creature j)).stats.hp - (damage + modifier : Nat))
  have unscored : ∀ hp, (struck.setHp (.creature j) hp).world = struck.world := fun _ => world_setSprite
  rw [hp]
  split
  next negative =>
    have dies := @board_die struck (.creature j) _ negative
    -- the blow kills, and it is one of the player
    have still : ((board ((struck.setHp (.creature j) ((struck.sprite (.creature j)).stats.hp - (damage + modifier : Nat))).die (.creature j))).sprites .player).player =
          true := by
      rw [dies]
      exact byPlayer
    rw [wlpWith_update_bind, wlpWith_state_bind]
    split
    · refine (Wlp.with wlp_defeatCreature).mono ?_
      rintro _ later _ ⟨score, stats⟩
      have isHp : (later.creatures j).stats.hp = (struck.sprite (.creature j)).stats.hp - (damage + modifier : Nat) :=
        (congrArg SpriteStats.hp ((stats (.creature j)).trans stats_die)).trans taken
      refine ⟨isHp, ?_⟩
      rw [isHp, if_pos negative, score]
      rfl
    next notPlayer => exact absurd still notPlayer
  next alive =>
    rw [wlpWith_pure]
    refine ⟨taken, ?_⟩
    have isHp : ((struck.setHp (.creature j) ((struck.sprite (.creature j)).stats.hp - (damage + modifier : Nat))).creatures j).stats.hp = _ := taken
    rw [isHp, if_neg alive, unscored]
    rfl

/-- The effect of an attack has four steps, so the first is not the last. -/
theorem launch_not_polls {attacker attacked : Sprite} {attack : Attack} {context : TileIndex} :
    (game.launch attacker attack attacked).1 ≠ .polls context := by
  have total : ((game.setEffect (.action attacker attack) { game.effect (.action attacker attack) with
      total := 4
      locationX := (game.sprite attacker).effect.locationX
      locationY := (game.sprite attacker).effect.locationY
      poll := some .attack }).effect (.action attacker attack)).total = 4 := by
    simp only [Game.effect, Game.setEffect, sprite_setSprite_self, action_setAction]
  simp only [Game.launch, tileEffectStart]
  split
  · split
    · exact EffectStarted.noConfusion
    · split
      next ends =>
        change _ ≤ 1 at ends
        rw [effectStart, total] at ends
        omega
      · split <;> exact EffectStarted.noConfusion
  · exact EffectStarted.noConfusion

/-- An attack is launched from where the attacker is, which stays as it is. -/
theorem effect_launch {attacker attacked : Sprite} {attack : Attack} :
    ((game.launch attacker attack attacked).2.sprite other).effect = (game.sprite other).effect := by
  have kept : ∀ (game : Game) effect, ((game.setEffect (.action attacker attack) effect).sprite other).effect =
      (game.sprite other).effect := by
    intro game effect
    rw [Game.setEffect, sprite_setSprite]
    split
    next same =>
      rw [same]
      cases attack <;> rfl
    · rfl
  rw [Game.launch]
  obtain same | ⟨effect, _, _, sprites⟩ := tileEffectStart_cases (.action attacker attack)
    (((game.setEffect (.action attacker attack) _).sprite attacked).effect.locationX)
    (((game.setEffect (.action attacker attack) _).sprite attacked).effect.locationY)
    (game.setEffect (.action attacker attack) _)
  · rw [same, kept]
  · rw [sprites, kept, kept]

/-- The hit points that an attack of the player takes. -/
def attackLoss (attack : Attack) (attacked : Sprite) (game : Game) (draws : List (BitVec 32)) : Nat :=
  let thrown := throws .player game
  let modifier := attackModifier .player attack game
  if (game.sprite attacked).stats.ac.toNat ≤ bestOf (draws.take thrown) + modifier then
    sumOf ((draws.drop thrown).take (thrown * (game.character.player.action attack).affect)) + modifier
  else 0

/-- An attack of the player takes what it takes, and counts if it kills. -/
theorem attack_counts {attack : Attack} {draws : List (BitVec 32)}
    (byPlayer : ((board game).sprites .player).player = true)
    (idle : (game.character.player.action attack).effect.count = 0) (standing : 0 ≤ (game.creatures j).stats.hp) :
    WlpWith (creatureAttack .player attack (.creature j)) (fun _ later _ =>
      (later.creatures j).stats.hp = (game.creatures j).stats.hp - attackLoss attack (.creature j) game draws ∧
        later.world.score = game.world.score + if (later.creatures j).stats.hp < 0 then 1 else 0) (game, draws) := by
  have launched : Touches (.uncounted (· = .player)) game (game.launch .player attack (.creature j)).2 :=
    .single (.launch trivial rfl)
  have outside : ¬ (Scope.uncounted (· = .player)).sprite (.creature j) := Sprite.noConfusion
  have same : (game.launch .player attack (.creature j)).2.creatures j = game.creatures j :=
    Touches.sprite_eq launched outside
  have world := Touches.world_eq launched not_false
  have again : throws .player (game.launch .player attack (.creature j)).2 = throws .player game := by
    rw [throws, throws, Game.flags, Game.flags, effect_launch]
  have byPlayer' : ((board (game.launch .player attack (.creature j)).2).sprites .player).player = true := by
    rw [board_launch]
    exact byPlayer
  have notActive : ¬ ((game.sprite .player).action attack).effect.count ≠ 0 := not_not.mpr idle
  simp only [creatureAttack, wlpWith_state_bind]
  rw [if_neg notActive]
  apply WlpWith.bind
  refine attackRoll_rolls.mono ?_
  rintro roll now rest ⟨isNow, rfl, rfl⟩
  rw [isNow]
  apply WlpWith.bind
  rw [wlpWith_change]
  -- the launch changes neither the creature nor the score, so the blow counts as it does alone
  have strikes : WlpWith (if (game.sprite (.creature j)).stats.ac.toNat ≤ bestOf (draws.take (throws .player game)) +
      attackModifier .player attack game then do
        strike .player ((game.sprite .player).action attack).affect (attackModifier .player attack game) (.creature j)
        Program.update (Game.show .player)
      else Program.update (Game.show .player)) (fun _ later _ =>
        (later.creatures j).stats.hp = (game.creatures j).stats.hp - attackLoss attack (.creature j) game draws ∧
          later.world.score = game.world.score + if (later.creatures j).stats.hp < 0 then 1 else 0)
      ((game.launch .player attack (.creature j)).2, draws.drop (throws .player game)) := by
    rw [attackLoss]
    split
    · apply WlpWith.bind
      refine (strike_counts byPlayer').mono ?_
      rintro _ later _ ⟨hp, score⟩
      rw [wlpWith_update]
      rw [again, same] at hp
      rw [world] at score
      exact ⟨hp, score⟩
    · rw [wlpWith_update]
      have isHp : ((Game.show .player (game.launch .player attack (.creature j)).2).creatures j).stats.hp =
          (game.creatures j).stats.hp := congrArg (fun value : SpriteTile => value.stats.hp) same
      have isScore : (Game.show .player (game.launch .player attack (.creature j)).2).world.score = game.world.score :=
        congrArg World.score world
      rw [isHp, isScore, if_neg (Int.not_lt.mpr standing)]
      exact ⟨(Int.sub_zero _).symm, rfl⟩
  split
  next polls => exact absurd polls launch_not_polls
  · exact strikes
  · exact strikes

/-! ### Who falls -/

/-- The creatures that have lost hit points between two states and have none left. -/
def felledIn (game later : Game) : Finset CreatureIndex :=
  Finset.univ.filter fun i =>
    (later.creatures i).stats.hp < (game.creatures i).stats.hp ∧ (later.creatures i).stats.hp ≤ 0

/-- The player's attack takes exactly the hit points that a creature has left. -/
def LeavesNothing (game : Game) (draws : List (BitVec 32)) : Prop :=
  ∃ nearby attack, spriteFindNearest .player game = .ok (some nearby) ∧
    attackRange .player nearby game = .ok (some attack) ∧
    (game.character.player.action attack).effect.count = 0 ∧
    0 < (game.sprite nearby).stats.hp ∧ (game.sprite nearby).stats.hp = attackLoss attack nearby game draws

/-- Nobody falls where no creature loses its last hit points. -/
theorem Rests.counts (rests : Rests game later)
    (same : ∀ i, (later.creatures i).stats.hp < (game.creatures i).stats.hp → 0 < (later.creatures i).stats.hp) :
    Counts (felledIn game later) game later := by
  have nobody : felledIn game later = ∅ := by
    apply Finset.eq_empty_of_forall_notMem
    intro i isIn
    obtain ⟨less, none⟩ := (Finset.mem_filter.mp isIn).2
    exact absurd none (Int.not_le.mpr (same i less))
  rw [nobody]
  exact rests

/-- The creature that the player attacks falls, or nobody does. -/
theorem counts_of_attack (steps : Touches ⟨fun sprite => sprite = .player ∨ sprite = .creature j, True, True⟩ game later)
    (plays : j.val ≤ game.world.level) (standing : 0 ≤ (game.creatures j).stats.hp)
    (score : later.world.score = game.world.score + if (later.creatures j).stats.hp < 0 then 1 else 0)
    (some : (later.creatures j).stats.hp < (game.creatures j).stats.hp → (later.creatures j).stats.hp ≠ 0) :
    Counts (felledIn game later) game later := by
  have others : ∀ {i}, i ≠ j → later.creatures i = game.creatures i := by
    intro i apart
    have same : later.sprite (.creature i) = game.sprite (.creature i) := Touches.sprite_eq steps (by simp [apart])
    exact same
  have spared : ∀ {i}, Fallen game i → i ≠ j := by
    rintro _ ⟨_, negative⟩ rfl
    exact absurd negative (Int.not_lt.mpr standing)
  have stays : ∀ i, Fallen game i → Stays (game.creatures i) (later.creatures i) := by
    intro i before
    rw [others (spared before)]
    exact .refl
  -- the creature that was hit is the one that falls, or none does
  by_cases falls : (later.creatures j).stats.hp < 0
  · have only : felledIn game later = {j} := by
      ext i
      simp only [felledIn, Finset.mem_filter, Finset.mem_univ, true_and, Finset.mem_singleton]
      constructor
      · rintro ⟨less, _⟩
        by_contra apart
        rw [others apart] at less
        exact absurd less (Int.lt_irrefl _)
      · rintro rfl
        exact ⟨Int.lt_of_lt_of_le falls standing, Int.le_of_lt falls⟩
    rw [if_pos falls] at score
    rw [only]
    refine ⟨by rw [score, Finset.card_singleton], Touches.level_eq steps, ?_, ?_, stays⟩
    · intro i isIn before
      exact spared before (Finset.mem_singleton.mp isIn)
    · intro i isIn
      obtain rfl := Finset.mem_singleton.mp isIn
      exact ⟨(Touches.level_eq steps).symm ▸ plays, falls⟩
  · rw [if_neg falls] at score
    apply Rests.counts (.of_stays score (Touches.level_eq steps) stays)
    intro i less
    by_cases isThis : i = j
    · subst isThis
      have notNothing := some less
      omega
    · rw [others isThis] at less
      exact absurd less (Int.lt_irrefl _)

/-- `Action`, unless it leaves exactly nothing. -/
theorem action_counts {draws : List (BitVec 32)} (playing : (board game).Playing)
    (well : game.gameUp = true → ¬ LeavesNothing game draws) :
    WlpWith action (fun _ later _ => Counts (felledIn game later) game later) (game, draws) := by
  have nothing : Counts (felledIn game game) game game := Rests.refl.counts fun _ less => absurd less (Int.lt_irrefl _)
  have sound : (board game).Sound _ := playing
  rw [action, wlpWith_state_bind]
  split
  next up =>
    apply WlpWith.bind
    apply WlpWith.look
    intro found finds
    cases found with
    | none =>
      rw [wlpWith_pure]
      exact nothing
    | some nearby =>
      apply WlpWith.bind
      apply WlpWith.look
      intro attack reaches
      cases attack with
      | none =>
        rw [wlpWith_pure]
        exact nothing
      | some attack =>
        have world : (game.sprite .player).currentWorld = true := by
          by_contra without
          rw [spriteFindNearest, if_neg without] at finds
          cases finds
        obtain ⟨met, isMet, noticeable⟩ := spriteFindNearest_finds sound world
        obtain rfl : met = some nearby := Except.ok.inj (isMet.symm.trans finds)
        have noticed := noticeable nearby rfl
        cases nearby with
        | player => exact absurd rfl noticed.apart
        | creature j =>
          have standing : 0 ≤ (game.creatures j).stats.hp := noticed.not_fallen
          have plays : j.val ≤ game.world.level := of_decide_eq_true (Board.onGrid_inPlay noticed.on)
          -- an attack of which the effect is still in progress is not made
          by_cases idle : (game.character.player.action attack).effect.count = 0
          · have byPlayer : ((board game).sprites .player).player = true := (sound.player).player.mpr rfl
            have touches : Makes (Touch ⟨fun sprite => sprite = .player ∨ sprite = .creature j, True, True⟩)
                (creatureAttack .player attack (.creature j)) := makes_creatureAttack trivial (.inl rfl) (.inr rfl) trivial
            refine ((attack_counts byPlayer idle standing).and (touches game).with).mono ?_
            rintro _ later _ ⟨⟨hp, score⟩, steps⟩
            refine counts_of_attack steps plays standing score fun less isZero => well up ?_
            refine ⟨_, attack, finds, reaches, idle, ?_, ?_⟩
            · rw [isZero] at less
              exact less
            · rw [isZero] at hp
              exact Int.sub_eq_zero.mp hp.symm
          · simp only [creatureAttack, wlpWith_state_bind]
            have active : ((game.sprite .player).action attack).effect.count ≠ 0 := idle
            rw [if_pos active, wlpWith_pure]
            exact nothing
  · rw [wlpWith_pure]
    exact nothing

/-! ## Runs on a level -/

/-- The sprite of a move that ends is on the grid and has not fallen. -/
def MovesLiving : GameEvent → Game → Prop
  | .fire slot, game => ∀ timer, game.timers slot = .game timer →
    match timer with
    | .effect .spriteMove (.sprite sprite) _ =>
      completes (game.sprite sprite).effect = true → Present game sprite ∧ 0 ≤ (game.sprite sprite).stats.hp
    | .effect .playerMove _ _ => completes game.character.player.effect = true → Present game .player
    | _ => True
  | .command _, _ | .others _ _, _ => True

/-- What has to hold before a step for the deaths to be counted. -/
structure FallsWell (game : Game) (step : GameEvent × List (BitVec 32)) : Prop where
  moves : MovesLiving step.1 game
  attacks : step.1 = .command .action → game.gameUp = true → ¬ LeavesNothing game step.2

theorem MovesLiving.present {event : GameEvent} (living : MovesLiving event game) : MovesPresent event game := by
  cases event with
  | command typed => trivial
  | others slot busy => trivial
  | fire slot =>
    intro timer fires
    have holds := living timer fires
    cases timer with
    | round => trivial
    | effect poll data context =>
      cases poll with
      | attack => trivial
      | playerMove => exact holds
      | spriteMove =>
        cases data with
        | action => trivial
        | sprite sprite => exact fun completed => (holds completed).1

/-- A step that begins a level. -/
def BeginsLevel (event : GameEvent) (game : Game) : Prop :=
  event = .command .gameStart ∨
    ∃ slot data context, event = .fire slot ∧ game.timers slot = .game (.effect .playerMove data context) ∧
      LeavesLevel context game

/-- The creatures that fall by a step: only the player's attacks are asked about. -/
def fellsIn (game : Game) (step : GameEvent × List (BitVec 32)) (later : Game) : Finset CreatureIndex :=
  if step.1 = .command .action then felledIn game later else ∅

theorem wlp_moveCommand_rests {x y : Int} : Wlp (moveCommand x y) (fun _ later => Rests game later) game := by
  have moves : Makes (Touch (.uncounted (· = .player))) (moveCommand x y) := makes_moveCommand rfl trivial
  apply (moves game).mono
  intro _ later steps
  exact .of_touches steps not_false fun i _ isPlayer => Sprite.noConfusion isPlayer

theorem rests_gamePause : Rests game (gamePause game) := by
  have up : ∀ {later : Game} {gameUp : Bool}, Rests game later → Rests game { later with gameUp } := by
    intro later gameUp rests
    exact rests.trans (.of_stays rfl rfl fun _ _ => .refl)
  rw [gamePause]
  split
  · exact up rests_cancelRound
  · exact up rests_scheduleRound

theorem wlp_callback_rests (playing : (board game).Playing) {timer : GameTimer} {slot : Fin maxTimerTasks}
    (fires : game.timers slot = .game timer) (living : MovesLiving (.fire slot) game)
    (onLevel : ¬ BeginsLevel (.fire slot) game) : Wlp timer.callback (fun _ later => Rests game later) game := by
  have living := living timer fires
  apply wlp_callback_of
  · exact fun _ => wlp_gameRound_rests playing
  · rintro sprite context rfl
    exact wlp_spriteMoveCallback_rests fun completed => (living completed).2
  · rintro context rfl
    have acts : (Scope.uncounted (· = Sprite.player)).sprite .player := rfl
    apply (wlp_playerMoveCallback acts trivial).mono
    rintro _ later (⟨leaves, _⟩ | ⟨_, steps⟩)
    · exact absurd (.inr ⟨slot, _, context, rfl, fires, leaves⟩) onLevel
    · exact .of_touches steps not_false fun i _ isPlayer => Sprite.noConfusion isPlayer
  · exact fun _ _ _ _ => wlp_attackCallback_rests

/-- A step on a level by which no creature falls. -/
theorem wlp_event_rests (playing : (board game).Playing) {event : GameEvent} (other : event ≠ .command .action)
    (living : MovesLiving event game) (onLevel : ¬ BeginsLevel event game) :
    Wlp event.play (fun _ later => Rests game later) game := by
  apply wlp_event_of
  · exact fun _ _ => .refl
  · rintro typed rfl
    apply wlp_command_of
    · rintro rfl
      exact absurd (.inl rfl) onLevel
    · exact fun _ => rests_gamePause
    · rintro rfl
      exact absurd rfl other
    · exact fun _ _ => wlp_moveCommand_rests
  · rintro slot timer rfl fires
    apply (wlp_callback_rests playing fires living onLevel).mono
    intro _ mid kept
    obtain ⟨timers, same⟩ := @timerCancel_frame mid (some slot)
    rw [same]
    exact kept.trans rests_timers
  · exact fun _ _ _ _ => rests_timers

/-- A step on a level counts who falls by it. -/
theorem counts_of_step {step : GameEvent × List (BitVec 32)} (playing : (board game).Playing) (well : FallsWell game step)
    (onLevel : ¬ BeginsLevel step.1 game) (runs : gameStep game step = .ok later) :
    Counts (fellsIn game step later) game later := by
  obtain ⟨event, draws⟩ := step
  by_cases attacks : event = .command .action
  · subst attacks
    rw [fellsIn, if_pos rfl]
    exact (action_counts playing (well.attacks rfl)).exec runs
  · rw [fellsIn, if_neg attacks]
    exact (wlp_event_rests playing attacks well.moves onLevel).exec runs

/-- Something that is asked of every step of a run. -/
def Throughout (asked : Game → GameEvent × List (BitVec 32) → Prop) (game : Game) :
    List (GameEvent × List (BitVec 32)) → Prop
  | [] => True
  | step :: steps => asked game step ∧ ∀ later, gameStep game step = .ok later → Throughout asked later steps

/-- The first step of a run. -/
theorem play_cons {step : GameEvent × List (BitVec 32)} {steps : List (GameEvent × List (BitVec 32))} :
    play game (step :: steps) = .ok later ↔ ∃ mid, gameStep game step = .ok mid ∧ play mid steps = .ok later := by
  have unfolded : play game (step :: steps) = (gameStep game step).bind fun next => play next steps := List.foldlM_cons
  rw [unfolded]
  cases gameStep game step <;> simp [Except.bind]

theorem throughout_append {asked : Game → GameEvent × List (BitVec 32) → Prop}
    {steps part : List (GameEvent × List (BitVec 32))} :
    Throughout asked game (steps ++ part) ↔
      Throughout asked game steps ∧ ∀ later, play game steps = .ok later → Throughout asked later part := by
  induction steps generalizing game with
  | nil =>
    constructor
    · rintro all
      refine ⟨trivial, ?_⟩
      rintro _ ⟨rfl⟩
      exact all
    · exact fun all => all.2 game rfl
  | cons step steps ih =>
    simp only [List.cons_append, Throughout, ih, play_cons]
    grind

/-- The creatures that fall by the player's attacks in a run. -/
def felled (game : Game) : List (GameEvent × List (BitVec 32)) → Finset CreatureIndex
  | [] => ∅
  | step :: steps =>
    match gameStep game step with
    | .ok later => fellsIn game step later ∪ felled later steps
    | .error _ => ∅

theorem playing_of_step {step : GameEvent × List (BitVec 32)} (playing : (board game).Playing) (well : FallsWell game step)
    (runs : gameStep game step = .ok later) : (board later).Playing :=
  (wlp_event_playing playing well.moves.present).exec runs

theorem playing_of_play {steps : List (GameEvent × List (BitVec 32))} (playing : (board game).Playing)
    (well : Throughout FallsWell game steps) (runs : play game steps = .ok later) : (board later).Playing := by
  induction steps generalizing game with
  | nil =>
    obtain rfl : game = later := Except.ok.inj runs
    exact playing
  | cons step steps ih =>
    obtain ⟨mid, first, rest⟩ := play_cons.mp runs
    exact ih (playing_of_step playing well.1 first) (well.2 mid first) rest

/-- Along a level. -/
theorem counts_of_play {steps : List (GameEvent × List (BitVec 32))} (playing : (board game).Playing)
    (well : Throughout FallsWell game steps) (onLevel : Throughout (fun now step => ¬ BeginsLevel step.1 now) game steps)
    (runs : play game steps = .ok later) : Counts (felled game steps) game later := by
  induction steps generalizing game with
  | nil =>
    obtain rfl : game = later := Except.ok.inj runs
    exact Rests.refl
  | cons step steps ih =>
    obtain ⟨mid, first, rest⟩ := play_cons.mp runs
    rw [felled, first]
    have counts := counts_of_step playing well.1 onLevel.1 first
    exact counts.trans (ih (playing_of_step playing well.1 first) (well.2 mid first) (onLevel.2 mid first) rest)

/-! ## Deaths -/

/-- A creature is in no list, unless as an item, and no search finds it. -/
structure Gone (game : Game) (i : CreatureIndex) : Prop where
  unlisted : ∃ contents, TileLists game.links contents ∧ ∀ tile, .sprite (.creature i) ∈ contents tile →
    has (game.flags (.creature i)) isItem = true ∧ has (game.flags (.creature i)) isCreature = false
  unseen : ∀ sprite, spriteFindNearest sprite game ≠ .ok (some (.creature i))

/-- Who has fallen is gone. -/
theorem Board.Playing.gone (playing : (board game).Playing) (fell : Fallen game i) : Gone game i := by
  obtain ⟨plays, negative⟩ := fell
  have sound : (board game).Sound _ := playing
  have killed : ((board game).sprites (.creature i)).killed = true := decide_eq_true negative
  constructor
  · obtain ⟨place, ⟨contents, lists, members⟩, agree⟩ := sound.agrees
    refine ⟨contents, lists, ?_⟩
    intro tile isIn
    have stands := (agree _).symm.trans ((members _ tile).mp isIn)
    have on := (Board.standsOn_iff.mp stands).1
    have item : ((board game).sprites (.creature i)).item = true := by
      by_contra plain
      rw [Board.onGrid, Standing.remains, if_neg plain, killed] at on
      simp at on
    have inPlay : (board game).inPlay (.creature i) = true := decide_eq_true plays
    exact ⟨item, ((sound.facts.fits _ inPlay).item item).1⟩
  · intro sprite finds
    have world : (game.sprite sprite).currentWorld = true := by
      by_contra without
      rw [spriteFindNearest, if_neg without] at finds
      cases finds
    obtain ⟨found, isFound, noticeable⟩ := spriteFindNearest_finds sound world
    obtain rfl : found = some (.creature i) := Except.ok.inj (isFound.symm.trans finds)
    exact absurd negative (Int.not_lt.mpr (noticeable _ rfl).not_fallen)

/-- Who falls by the player's attacks on a level counts once and is gone. -/
structure DeathsCounted (begun : Game) (part : List (GameEvent × List (BitVec 32))) (later : Game) : Prop where
  counts : Counts (felled begun part) begun later
  gone : ∀ i, Fallen later i → Gone later i

/-- Along every part of a game on one level that goes well. -/
theorem deaths_are_counted {nullTileNum : Int} {timers : Fin maxTimerTasks → Bool}
    {before steps part : List (GameEvent × List (BitVec 32))} {draws : List (BitVec 32)} {started begun : Game}
    (starts : play (boot nullTileNum timers) (before ++ [(.command .gameStart, draws)]) = .ok started)
    (begins : play started steps = .ok begun) (well : Throughout FallsWell started (steps ++ part))
    (onLevel : Throughout (fun now step => ¬ BeginsLevel step.1 now) begun part) (runs : play begun part = .ok later) :
    DeathsCounted begun part later := by
  obtain ⟨game, toGame, start⟩ := play_append.mp starts
  have startPlaying := ((wp_gameStartCommand (timersFit_of_play toGame) (width_of_play toGame).1).exec draws).1 started start
  obtain ⟨wellBefore, wellPart⟩ := throughout_append.mp well
  have playing := playing_of_play startPlaying wellBefore begins
  have wellPart := wellPart begun begins
  have last := playing_of_play playing wellPart runs
  exact ⟨counts_of_play playing wellPart onLevel runs, fun i fell => last.gone fell⟩

/-- The random numbers of a start on a meadow with a creature of some kind next to a wizard. -/
def duelDraws (roll : BitVec 32) : List (BitVec 32) :=
  meadowTerrain ++ [0, 0, 0, 0, 0, 0, 0, 0, 0, 5, 5, 5, 0, 0, 0, 0] ++ [roll, 11, 10, 50, 20, 20, 1, 1, 12, 10]

/-- The wizard kills a bat. -/
theorem deaths_are_counted_of_bat :
    ∃ started later, play (boot 0 fun _ => false) [(.command .gameStart, duelDraws 50)] = .ok started ∧
      play started [(.command .action, [20, 5, 0])] = .ok later ∧ (later.creatures ⟨0, by decide⟩).stats.hp < 0 ∧
      DeathsCounted started [(.command .action, [20, 5, 0])] later := by
  have passes : (gameStep (boot 0 fun _ => false) (.command .gameStart, duelDraws 50)).toOption.any (fun started =>
      ((spriteFindNearest .player started).toOption == some (some (.creature ⟨0, by decide⟩)) &&
        (attackRange .player (.creature ⟨0, by decide⟩) started).toOption == some (some .first) &&
        decide ((started.creatures ⟨0, by decide⟩).stats.hp ≠
          attackLoss .first (.creature ⟨0, by decide⟩) started [20, 5, 0])) &&
        (play started [(.command .action, [20, 5, 0])]).toOption.any fun later =>
          decide ((later.creatures ⟨0, by decide⟩).stats.hp < 0)) = true := by
    delta play gameStep GameEvent.play Command.run gameStartCommand
    rw [worldCreateRandom_evenly]
    decide +kernel
  obtain ⟨started, starts, checked⟩ := exists_of_any passes
  rw [Bool.and_eq_true, Bool.and_eq_true, Bool.and_eq_true] at checked
  obtain ⟨⟨⟨finds, reaches⟩, apart⟩, checked⟩ := checked
  obtain ⟨later, attacks, killed⟩ := exists_of_any checked
  have finds := eq_of_beq finds
  have reaches := eq_of_beq reaches
  have well : FallsWell started (.command .action, [20, 5, 0]) := by
    refine ⟨trivial, fun _ _ => ?_⟩
    rintro ⟨nearby, attack, isNearby, isAttack, _, _, exactly⟩
    rw [isNearby] at finds
    obtain rfl : nearby = .creature ⟨0, by decide⟩ := Option.some.inj (Option.some.inj finds)
    rw [isAttack] at reaches
    obtain rfl : attack = .first := Option.some.inj (Option.some.inj reaches)
    exact of_decide_eq_true apart exactly
  have onLevel : ¬ BeginsLevel (.command .action) started := by
    rintro (starts | ⟨_, _, _, fires, _⟩)
    · cases starts
    · cases fires
  have reached := play_single.trans starts
  exact ⟨started, later, reached, attacks, of_decide_eq_true killed,
    @deaths_are_counted later 0 (fun _ => false) [] [] _ _ started started reached rfl ⟨well, fun _ _ => trivial⟩
      ⟨onLevel, fun _ _ => trivial⟩ attacks⟩

/-- A beetle is left without hit points, stays and does not count. -/
theorem deaths_are_not_counted :
    ∃ started later, play (boot 0 fun _ => false) [(.command .gameStart, duelDraws 7)] = .ok started ∧
      play started [(.command .action, [20, 2])] = .ok later ∧
      ¬ DeathsCounted started [(.command .action, [20, 2])] later := by
  have passes : (gameStep (boot 0 fun _ => false) (.command .gameStart, duelDraws 7)).toOption.any (fun started =>
      (gameStep started (.command .action, [20, 2])).toOption.any fun later =>
        decide ((started.creatures ⟨0, by decide⟩).stats.hp = 9 ∧ (later.creatures ⟨0, by decide⟩).stats.hp = 0 ∧
          later.world.score = started.world.score)) = true := by
    delta gameStep GameEvent.play Command.run gameStartCommand
    rw [worldCreateRandom_evenly]
    decide +kernel
  obtain ⟨started, starts, checked⟩ := exists_of_any passes
  obtain ⟨later, attacks, checked⟩ := exists_of_any checked
  obtain ⟨before, after, score⟩ := of_decide_eq_true checked
  refine ⟨started, later, play_single.trans starts, play_single.trans attacks, ?_⟩
  rintro ⟨counts, _⟩
  have fell : (⟨0, by decide⟩ : CreatureIndex) ∈ felled started [(.command .action, [20, 2])] := by
    simp only [felled, attacks, fellsIn, if_pos, Finset.union_empty]
    refine Finset.mem_filter.mpr ⟨Finset.mem_univ _, ?_⟩
    rw [before, after]
    decide
  have positive := Finset.card_pos.mpr ⟨_, fell⟩
  have counted := counts.score
  omega

end ComputerSystems.Verified
