import ComputerSystems.Data.Faultless
import ComputerSystems.Verified.CreatureRounds
import ComputerSystems.Verified.Inventory

/-! # Steps that stay in the tables of the game

The sprites are on the grid in every state that a run reaches.  What is left is whether a run
reaches a state behind each of its steps.  The functions of the game leave its tables in three
places only: a creature acts that `game_start` has given no world, the counter of a cleric is
behind the last creature of all, and a seventeenth item is stored.  Where a step meets none of
them it does not fault, in whatever lists the sprites are.
-/

namespace ComputerSystems.Verified

open ComputerSystems.Data ComputerSystems.VirtualWorld Relation

variable {game later : Game} {sprite attacker attacked nearest : Sprite} {context : TileIndex}

/-! ## A game that has been opened -/

/-- The grid has its size. -/
structure Sized (game : Game) : Prop where
  width : game.world.x = gameGridWidth
  height : game.world.y = gameGridHeight

/-- A grid with a player on it. -/
structure GridOpened (game : Game) : Prop extends Sized game where
  player : game.character.player.currentWorld = true
  ground : PlainGround game
  placed : Placed game
  timers : (board game).timersFit

/-- The creatures of the level that are initialized have a world. -/
structure LevelReady (game : Game) : Prop where
  bound : game.world.level < maxCreatures
  worlds : ∀ i : CreatureIndex, i.val ≤ game.world.level → i.val < 7 → (game.creatures i).currentWorld = true

theorem PlainGround.same (plain : PlainGround game) (terrain : later.terrain = game.terrain)
    (exit : later.exitTile = game.exitTile) : PlainGround later := by
  refine ⟨?_, ?_⟩
  · rw [terrain]
    exact plain.terrain
  · rw [exit]
    exact plain.exit

theorem PlainGround.setSprite {value : SpriteTile} (plain : PlainGround game) : PlainGround (game.setSprite sprite value) := by
  cases sprite <;> exact plain.same rfl rfl

theorem PlainGround.setEffect {place : EffectAt} {effect : EffectTile} (plain : PlainGround game) :
    PlainGround (game.setEffect place effect) := by
  cases place <;> exact plain.setSprite

theorem PlainGround.schedule {timer : GameTimer} (plain : PlainGround game) : PlainGround (timerSchedule timer game).2 := by
  obtain ⟨timers, same⟩ := @timerSchedule_frame game timer
  rw [same]
  exact plain.same rfl rfl

theorem PlainGround.start {place : EffectAt} {x y : Int} (plain : PlainGround game) :
    PlainGround (tileEffectStart place x y game).2 := by
  simp only [tileEffectStart]
  repeat' split
  all_goals first | exact plain | exact plain.setEffect | exact plain.setEffect.schedule

theorem Touch.ground {scope : Scope} (touch : Touch scope game later) (plain : PlainGround game) : PlainGround later := by
  cases touch with
  | other same => exact same.ground plain
  | sprite _ _ => exact plain.setSprite
  | advance _ =>
    rw [Game.advance]
    split
    · exact plain.setEffect
    · exact plain
  | place _ _ => exact plain.setEffect
  | @renew i _ _ =>
    have kept : PlainGround (game.setSprite (.creature i) (spriteInitialize (game.creatures i))) := plain.setSprite
    exact kept.same rfl rfl
  | enter _ => exact plain.setSprite
  | score _ => exact plain.same rfl rfl
  | again _ _ => exact plain.schedule
  | start _ _ _ => exact plain.setSprite.start
  | launch _ _ => exact plain.setEffect.start

/-- Who has a world keeps it. -/
theorem Touch.keepsWorld {scope : Scope} (touch : Touch scope game later) (world : (game.sprite sprite).currentWorld = true) :
    (later.sprite sprite).currentWorld = true := by
  cases touch with
  | other same => rwa [sprite_congr same.creatures same.player]
  | sprite _ same => rwa [currentWorld_setSprite same.world]
  | advance _ =>
    rw [Game.advance]
    split
    · rwa [currentWorld_setEffect]
    · exact world
  | place _ _ => rwa [Game.place, currentWorld_setEffect]
  | @renew i _ _ =>
    have kept : (game.initializeSprite (.creature i)).sprite sprite =
        (game.setSprite (.creature i) (spriteInitialize (game.sprite (.creature i)))).sprite sprite := sprite_congr rfl rfl sprite
    rw [kept, sprite_setSprite]
    split
    · rfl
    · exact world
  | enter _ =>
    rw [sprite_setSprite]
    split
    · rfl
    · exact world
  | score _ => exact world
  | again _ _ => rwa [sprite_again]
  | @start sprite poll _ _ _ _ _ =>
    have same : ((game.sprite sprite).prepareMove poll).currentWorld = (game.sprite sprite).currentWorld := rfl
    rwa [currentWorld_tileEffectStart, currentWorld_setSprite same]
  | launch _ _ => rwa [Game.launch, currentWorld_tileEffectStart, currentWorld_setEffect]

theorem Sized.touch {scope : Scope} (sized : Sized game) (touch : Touch scope game later) : Sized later := by
  obtain same | ⟨_, score, same⟩ := Touch.world_cases touch
  · exact ⟨same ▸ sized.width, same ▸ sized.height⟩
  · refine ⟨?_, ?_⟩
    · rw [same]
      exact sized.width
    · rw [same]
      exact sized.height

theorem Sized.touches {scope : Scope} (sized : Sized game) (steps : Touches scope game later) : Sized later := by
  induction steps with
  | refl => exact sized
  | tail _ last ih => exact ih.touch last

theorem Change.ground {starts : Prop} (change : Change starts game later) (plain : PlainGround game) : PlainGround later := by
  cases change with
  | touch touch => exact Touch.ground touch plain
  | clock same => exact same.ground plain
  | openGrid _ => exact plain.same rfl rfl
  | enroll _ => exact plain.same rfl rfl

/-- What no step but the start of a game changes. -/
theorem GridOpened.change (opened : GridOpened game) (change : Change False game later) : GridOpened later := by
  have placed := opened.placed.change change
  have timers := Change.timersFit change opened.timers
  have ground := Change.ground change opened.ground
  cases change with
  | touch touch =>
    have player : (later.sprite .player).currentWorld = true := Touch.keepsWorld touch opened.player
    exact ⟨opened.toSized.touch touch, player, ground, placed, timers⟩
  | clock same =>
    refine ⟨⟨same.width.trans opened.width, same.height.trans opened.height⟩, ?_, ground, placed, timers⟩
    rw [same.player]
    exact opened.player
  | openGrid start => exact start.elim
  | enroll start => exact start.elim

theorem GridOpened.touches {scope : Scope} (opened : GridOpened game) (steps : Touches scope game later) : GridOpened later := by
  have changes : Changes False game later := Touches.changes steps
  clear steps
  induction changes with
  | refl => exact opened
  | tail _ last ih => exact ih.change last

theorem LevelReady.same (ready : LevelReady game) (level : later.world.level = game.world.level)
    (creatures : later.creatures = game.creatures) : LevelReady later := by
  refine ⟨?_, ?_⟩
  · rw [level]
    exact ready.bound
  · rw [level, creatures]
    exact ready.worlds

theorem LevelReady.touches {scope : Scope} (ready : LevelReady game) (steps : Touches scope game later) : LevelReady later := by
  have level := Touches.level_eq steps
  refine ⟨level ▸ ready.bound, fun i plays early => ?_⟩
  have world : (game.sprite (.creature i)).currentWorld = true := ready.worlds i (level ▸ plays) early
  have kept : (later.sprite (.creature i)).currentWorld = true := by
    clear level plays
    induction steps with
    | refl => exact world
    | tail _ last ih => exact Touch.keepsWorld last ih
  exact kept

theorem LevelBegun.ready {level : Nat} (begun : LevelBegun level game) (bound : level < maxCreatures) : LevelReady game := by
  refine ⟨?_, ?_⟩
  · rw [begun.isLevel]
    exact bound
  · rw [begun.isLevel]
    exact fun i plays early => (begun.setUp i plays early).world

/-! ## What is read -/

theorem GridOpened.under (opened : GridOpened game) (sprite : Sprite) : ∃ tile, game.tileUnder sprite = some tile := by
  obtain ⟨tile, isTile⟩ := Board.tileAt_inside (opened.placed.sprites sprite).effect.location
  refine ⟨tile, ?_⟩
  rw [Game.tileUnder, gameGridTile, Board.gridTile_inside opened.width opened.height
    (opened.placed.sprites sprite).effect.location]
  exact isTile

theorem GridOpened.terrainUnder (opened : GridOpened game) (sprite : Sprite) :
    ∃ terrain, VirtualWorld.terrainUnder game sprite = .ok terrain := by
  obtain ⟨tile, under⟩ := opened.under sprite
  exact ⟨(game.terrain tile).tileNum, by rw [VirtualWorld.terrainUnder, under]⟩

theorem GridOpened.attackRange (opened : GridOpened game) : VirtualWorld.attackRange attacker attacked game ≠ .error .fault := by
  obtain ⟨here, isHere⟩ := opened.terrainUnder attacker
  obtain ⟨there, isThere⟩ := opened.terrainUnder attacked
  obtain ⟨attack, ranges⟩ := attackRange_of_terrain isHere isThere
  rw [ranges]
  rintro ⟨⟩

theorem GridOpened.hidesInTown (opened : GridOpened game) (world : (game.sprite sprite).currentWorld = true) :
    VirtualWorld.hidesInTown sprite nearest game ≠ .error .fault := by
  obtain ⟨tile, isTile⟩ := Board.tileAt_inside (opened.placed.sprites nearest).effect.location
  rw [VirtualWorld.hidesInTown, if_pos world, isTile]
  rintro ⟨⟩

/-- What is flagged as a creature or as the player is a sprite, whatever list it is found in. -/
theorem GridOpened.searchTile (opened : GridOpened game) {place : Int × Int} (inside : Board.Inside place.1 place.2) :
    VirtualWorld.searchTile sprite place game ≠ .error .fault := by
  obtain ⟨tile, isTile⟩ := Board.tileAt_inside inside
  rw [VirtualWorld.searchTile, isTile]
  simp only
  cases finds : findTile (noticed game sprite) tile game with
  | error stop =>
    rw [findTile] at finds
    split at finds
    · cases finds
    · obtain rfl : Stop.loop = stop := Except.error.inj finds
      rintro ⟨⟩
  | ok found =>
    cases found with
    | none => rintro ⟨⟩
    | some node =>
      have selected : noticed game sprite node = true := by
        rw [findTile] at finds
        split at finds
        next other isFound =>
          obtain rfl : other = some node := Except.ok.inj finds
          exact findOn_selects isFound
        · cases finds
      rw [noticed, Bool.and_eq_true] at selected
      cases node with
      | sprite nearby => rintro ⟨⟩
      | tile index => exact absurd (selected.2.symm.trans (opened.ground.terrain index)) (by decide)
      | exit => exact absurd (selected.2.symm.trans opened.ground.exit) (by decide)

theorem GridOpened.searchTiles (opened : GridOpened game) {places : List (Int × Int)}
    (inside : ∀ place ∈ places, Board.Inside place.1 place.2) :
    VirtualWorld.searchTiles sprite game places ≠ .error .fault := by
  induction places with
  | nil => rintro ⟨⟩
  | cons place places ih =>
    have here := @GridOpened.searchTile game sprite opened place (inside place List.mem_cons_self)
    rw [VirtualWorld.searchTiles]
    cases finds : VirtualWorld.searchTile sprite place game with
    | error stop =>
      rw [finds] at here
      exact fun faults => here (congrArg Except.error (Except.error.inj faults))
    | ok found =>
      cases found with
      | none => exact ih fun other isIn => inside other (List.mem_cons_of_mem place isIn)
      | some nearby => rintro ⟨⟩

theorem GridOpened.findNearest (opened : GridOpened game) (world : (game.sprite sprite).currentWorld = true) :
    spriteFindNearest sprite game ≠ .error .fault := by
  rw [spriteFindNearest, if_pos world]
  exact opened.searchTiles fun _ isIn => searched_inside isIn

/-! ## Moves and attacks -/

/-- A list that has no end is walked for ever, and nothing behind it is read. -/
theorem faultless_append {node : Node} {tile : TileIndex} : Faultless (append node tile) game := by
  refine .bind_look ?_ fun links _ => .update
  split
  · rintro ⟨⟩
  · rintro ⟨⟩

theorem faultless_relink : Faultless (relink sprite) game := by
  refine .update_bind (.state_bind ?_)
  split
  · exact faultless_append
  · exact .pure _

theorem faultless_spriteMoveCallback : Faultless (spriteMoveCallback sprite context) game := by
  refine .update_bind (.state_bind ?_)
  split
  · exact .update
  · exact faultless_relink

theorem faultless_spriteMove {x y : Int} : Faultless (spriteMove sprite x y) game := by
  refine .state_bind ?_
  simp only
  split
  · exact .pure _
  · refine .bind_any .change fun started mid => ?_
    cases started with
    | refused => exact .pure _
    | scheduled => exact .pure _
    | polls context => exact .bind_any faultless_spriteMoveCallback fun _ _ => .pure _

theorem faultless_spriteMoveRandom : Faultless (spriteMoveRandom sprite) game := by
  refine .state_bind ?_
  simp only
  split
  · exact .pure _
  · refine .bind_draws randomOffset_draws fun randX => .bind_draws randomOffset_draws fun randY => ?_
    split
    · exact .bind_any faultless_spriteMove fun _ _ => .pure _
    · exact .pure _

theorem faultless_wander : Faultless (wander sprite) game := by
  refine .state_bind ?_
  simp only
  split
  · exact .update
  · exact faultless_spriteMoveRandom

theorem faultless_rollDamage {affect : Nat} : Faultless (rollDamage attacker affect) game := by
  refine .bind_draws (dice_draws affect) fun damage => .state_bind ?_
  split
  · exact .pure _
  · exact .bind_draws (dice_draws affect) fun more => .update_bind (.pure _)

theorem faultless_defeatCreature : Faultless (defeatCreature attacked) game := by
  refine .update_bind (.bind_draws d16_draws fun roll => ?_)
  split
  · refine .state_bind (.bind_draws rollItem_draws fun item => .update_bind (.state_bind ?_))
    split
    · exact faultless_append
    · exact .pure _
  · exact .pure _

theorem faultless_strike {affect modifier : Nat} : Faultless (strike attacker affect modifier attacked) game := by
  refine .bind_any faultless_rollDamage fun damage mid => .update_bind (.state_bind ?_)
  split
  · refine .update_bind (.state_bind ?_)
    split
    · exact faultless_defeatCreature
    · exact .pure _
  · exact .pure _

theorem faultless_creatureAttack {attack : Attack} : Faultless (creatureAttack attacker attack attacked) game := by
  have strikes : ∀ (now : Game) affect modifier (hits : Prop) [Decidable hits], Faultless (if hits then do
      strike attacker affect modifier attacked
      Program.update (Game.show attacker)
    else Program.update (Game.show attacker) : Play Unit) now := by
    intro now affect modifier hits _
    split
    · exact .bind_any faultless_strike fun _ _ => .update
    · exact .update
  refine .state_bind ?_
  simp only
  split
  · exact .pure _
  · refine .bind_draws attackRoll_draws fun roll => .bind_any .change fun started mid => ?_
    cases started with
    | refused => exact strikes _ _ _ _
    | scheduled => exact strikes _ _ _ _
    | polls context => exact .update_bind (strikes _ _ _ _)

theorem faultless_spriteAction (opened : GridOpened game) (world : (game.sprite sprite).currentWorld = true) :
    Faultless (spriteAction sprite nearest) game := by
  refine .bind_look opened.attackRange fun attack _ => .bind_look (opened.hidesInTown world) fun hidden _ => .state_bind ?_
  simp only
  split
  · exact .pure _
  · split
    · cases attack with
      | some attack => exact .bind_any faultless_creatureAttack fun _ _ => .pure _
      | none => exact .bind_any faultless_spriteMove fun _ _ => .pure _
    · exact .pure _

/-! ## Rounds -/

theorem faultless_creatureTurn {i : CreatureIndex} (opened : GridOpened game) (ready : LevelReady game)
    (plays : i.val ≤ game.world.level)
    (rests : 7 ≤ i.val → has (game.flags (.creature i)) isDead = true ∨ (game.creatures i).stats.hp ≤ 0) :
    Faultless (creatureTurn i) game := by
  refine .state_bind ?_
  split
  · exact .pure _
  next alive =>
    split
    next conscious =>
      have early : i.val < 7 := by
        by_contra late
        rcases rests (Nat.le_of_not_lt late) with dead | spent
        · exact alive dead
        · omega
      have world : (game.sprite (.creature i)).currentWorld = true := ready.worlds i plays early
      refine .bind_look (opened.findNearest world) fun found _ => ?_
      cases found with
      | none => exact faultless_wander
      | some nearby =>
        refine .bind_any (faultless_spriteAction opened world) fun acted mid => ?_
        split
        · exact .pure _
        · exact faultless_wander
    · exact .update

/-- Who does not act in a round that stays in the tables. -/
def RestsInRound (game : Game) : Sprite → Prop
  | .player => ¬ game.world.level + 1 < maxCreatures
  | .creature i => 7 ≤ i.val ∧ i.val ≤ game.world.level

/-- No creature acts that has no world, and no cleric counts behind the last creature of all. -/
structure RoundInTables (game : Game) : Prop where
  behind : ∀ i : CreatureIndex, 7 ≤ i.val → i.val ≤ game.world.level →
    has (game.flags (.creature i)) isDead = true ∨ (game.creatures i).stats.hp ≤ 0
  counter : game.world.level + 1 < maxCreatures ∨ has game.character.player.stats.flags classCleric = false ∨
    game.character.player.stats.hp ≤ 0

/-- The lists may lead to any node here, also to those behind the level. -/
theorem RoundInTables.woven (inTables : RoundInTables game) : Woven (maxCreatures - 1) (RestsInRound game) (board game) := by
  have all : ∀ node, NodeOfLevel (maxCreatures - 1) node := by
    rintro (_ | (_ | i) | _)
    · trivial
    · trivial
    · exact Nat.le_sub_one_of_lt i.isLt
    · trivial
  refine ⟨⟨fun {_ after} _ _ => all after, fun {_ before} _ _ => all before⟩, fun sprite rests => ?_⟩
  cases sprite with
  | player =>
    rcases inTables.counter with inside | other | spent
    · exact absurd inside rests
    · exact .inl other
    · exact .inr (decide_eq_true spent)
  | creature i =>
    cases inTables.behind i rests.1 rests.2 with
    | inl dead => exact .inr dead
    | inr spent => exact .inl (decide_eq_true spent)

/-- What goes on from turn to turn. -/
structure Turning (begun game : Game) : Prop extends GridOpened game, LevelReady game where
  level : game.world.level = begun.world.level
  woven : Woven (maxCreatures - 1) (RestsInRound begun) (board game)

theorem Turning.turn {begun : Game} {i : CreatureIndex} (turning : Turning begun game) :
    Wlp (creatureTurn i) (fun _ later => Turning begun later) game := by
  have of : i.val ≤ maxCreatures - 1 := Nat.le_sub_one_of_lt i.isLt
  have turns : Makes (Touch .whole) (creatureTurn i) :=
    makes_of_edits (edits_creatureTurn trivial (fun _ => trivial) trivial)
  have weaves : Ignores (withOthers (maxCreatures - 1) ⟨fun _ => {}, fun _ => {}⟩) (creatureTurn i)
      (fun _ later => Woven (maxCreatures - 1) (RestsInRound begun) (board later)) game := ignores_creatureTurn turning.woven of
  apply ((turns game).and weaves.wlp).mono
  rintro _ later ⟨steps, woven⟩
  exact ⟨turning.toGridOpened.touches steps, turning.toLevelReady.touches steps,
    (Touches.level_eq steps).trans turning.level, woven⟩

theorem Turning.faultless {begun : Game} {i : CreatureIndex} (turning : Turning begun game)
    (plays : i.val ≤ begun.world.level) : Faultless (creatureTurn i) game := by
  refine faultless_creatureTurn turning.toGridOpened turning.toLevelReady (turning.level ▸ plays) fun late => ?_
  cases turning.woven.rested (.creature i) ⟨late, plays⟩ with
  | inl spent => exact .inr (of_decide_eq_true spent)
  | inr dead => exact .inl dead

theorem faultless_clericRound {counter : CreatureIndex} : Faultless (clericRound counter) game := by
  refine .update_bind (.bind_any .update fun _ mid => .state_bind ?_)
  simp only
  split
  · exact .bind_draws .draw fun random => .bind_any .update fun _ _ => .update
  · exact .update

theorem Turning.characterRound {begun : Game} (turning : Turning begun game) (alive : 0 < game.character.player.stats.hp) :
    Faultless (VirtualWorld.characterRound begun.world.level) game := by
  refine .state_bind ?_
  split
  next cleric =>
    split
    · exact faultless_clericRound
    next behind =>
      cases turning.woven.rested .player behind with
      | inl other => exact absurd (cleric.symm.trans other) (by decide)
      | inr spent => exact absurd (of_decide_eq_true spent) (Int.not_le.mpr alive)
  · split
    · exact .update
    · exact .pure _

theorem faultless_gameRound (opened : GridOpened game) (ready : LevelReady game) (inTables : RoundInTables game) :
    Faultless gameRound game := by
  refine .state_bind ?_
  simp only [if_pos opened.player]
  have counts : ∀ {post}, (∀ creatures, (∀ i, i ∈ creatures ↔ i.val ≤ game.world.level) → post creatures game) →
      Wp (creaturesOf game.world.level) post game :=
    fun holds => wp_creaturesOf ready.bound fun creatures _ members => holds creatures members
  have turning : Turning game game := ⟨opened, ready, rfl, inTables.woven⟩
  refine .bind (@counts (fun _ _ => True) fun _ _ => trivial).faultless (counts ?_).wlp
  intro creatures members
  refine .bind ?_ ?_
  · exact .each turning (fun i isIn _ turning => turning.faultless ((members i).mp isIn)) fun _ _ _ turning => turning.turn
  · apply (Wlp.each turning fun _ _ _ turning => turning.turn).mono
    intro _ mid turning
    refine .state_bind ?_
    split
    next alive => exact .bind_any (turning.characterRound alive) fun _ _ => .update
    · exact .update

/-! ## Levels -/

theorem Sized.tile (sized : Sized game) {x y : Int} (inside : Board.Inside x y) : ∃ tile, gameGridTile game x y = some tile := by
  obtain ⟨tile, isTile⟩ := Board.tileAt_inside inside
  refine ⟨tile, ?_⟩
  rw [gameGridTile, Board.gridTile_inside sized.width sized.height inside]
  exact isTile

theorem faultless_playerLook (sized : Sized game) : Faultless playerLook game := by
  refine .state_bind (.each sized ?_ ?_)
  · intro place isIn now sized
    obtain ⟨tile, isTile⟩ := sized.tile (around_inside isIn)
    refine .state_bind ?_
    rw [isTile]
    exact .update
  · intro place isIn now sized
    rw [lookAt, wlp_state_bind]
    split
    · exact (wlp_update _).mpr ⟨sized.width, sized.height⟩
    · exact wlp_halt _

/-- A program that goes on with a random place. -/
theorem faultless_randomPlace {suits : Int → Int → Int → Bool} {next : Int × Int → Play Unit}
    (goes : ∀ x y, Board.Inside x y → Faultless (next (x, y)) game) : Faultless (randomPlace suits >>= next) game :=
  .bind (@wp_randomPlace _ _ (fun _ _ => True) fun _ _ _ => trivial).faultless (wp_randomPlace goes).wlp

theorem faultless_appendAt {node : Node} {tile : Option TileIndex} (isTile : ∃ there, tile = some there) :
    Faultless (appendAt node tile) game := by
  obtain ⟨there, rfl⟩ := isTile
  exact faultless_append

theorem faultless_createCreature {i : CreatureIndex} (sized : Sized game) : Faultless (createCreature i) game := by
  refine .bind_draws .draw fun roll => .update_bind (.update_bind (.state_bind ?_))
  have initial : Sized (if i.val < 7 then game.initializeSprite (.creature i) else game) := by
    split
    · exact ⟨sized.width, sized.height⟩
    · exact sized
  generalize (if i.val < 7 then game.initializeSprite (.creature i) else game) = now at initial
  refine faultless_randomPlace fun x y inside => .update_bind (.state_bind (faultless_appendAt ?_))
  exact Sized.tile ⟨initial.width, initial.height⟩ inside

theorem faultless_createExit : Faultless createExit game := by
  refine faultless_randomPlace fun x y inside => .update_bind (.update_bind (faultless_appendAt ?_))
  exact Board.tileAt_inside inside

theorem faultless_placePlayer : Faultless placePlayer game := by
  refine faultless_randomPlace fun x y inside => .update_bind (.update_bind (faultless_appendAt ?_))
  exact Board.tileAt_inside inside

theorem faultless_gameStart (sized : Sized game) (bound : game.world.level < maxCreatures) : Faultless gameStart game := by
  have creates : ∀ i, Makes (Touch .quiet) (createCreature i) := fun _ => makes_createCreature trivial
  have leaves : Makes (Touch .quiet) createExit := makes_createExit
  have places : Makes (Touch .quiet) placePlayer := makes_placePlayer trivial
  refine .state_bind (.bind (@wp_creaturesOf _ _ bound (fun _ _ => True) fun _ _ _ => trivial).faultless ?_)
  refine (wp_creaturesOf bound fun creatures _ _ => ?_).wlp
  refine .bind (.each sized (fun i _ _ sized => faultless_createCreature sized) ?_) ?_
  · exact fun i _ now sized => (creates i now).mono fun _ _ steps => sized.touches steps
  · apply (Wlp.each sized fun i _ now sized => (creates i now).mono fun _ _ steps => sized.touches steps).mono
    intro _ created sized
    refine .bind faultless_createExit ((leaves created).mono fun _ left toLeft => ?_)
    refine .bind faultless_placePlayer ((places left).mono fun _ placed toPlaced => ?_)
    exact .bind_any (faultless_playerLook ((sized.touches toLeft).touches toPlaced)) fun _ _ => .update

theorem Sized.stopRound (sized : Sized game) : Sized (Game.stopRound game) := by
  rw [Game.stopRound]
  split
  · obtain ⟨timers, same⟩ := @timerCancel_frame game game.world.round
    rw [Game.cancelRound, same]
    exact ⟨sized.width, sized.height⟩
  · exact sized

theorem faultless_gameLevelUp (sized : Sized game) (bound : game.world.level < maxCreatures) : Faultless gameLevelUp game := by
  have stopped := sized.stopRound
  have sameLevel : (Game.stopRound game).world.level = game.world.level := by
    rw [Game.stopRound]
    split
    · exact rests_cancelRound.level
    · rfl
  refine .update_bind (.update_bind (.update_bind (.state_bind (.bind wp_worldCreateRandom.faultless ?_))))
  apply wp_worldCreateRandom.wlp.mono
  rintro _ _ ⟨terrain, links, rfl, _⟩
  change Sized (if game.world.round.isSome then game.cancelRound else game) at stopped
  change (if game.world.round.isSome then game.cancelRound else game).world.level = game.world.level at sameLevel
  generalize (if game.world.round.isSome then game.cancelRound else game) = now at stopped sameLevel
  rw [← sameLevel] at bound
  apply faultless_gameStart
  · refine ⟨?_, ?_⟩
    · dsimp only
      split
      · exact stopped.width
      · exact stopped.width
    · dsimp only
      split
      · exact stopped.height
      · exact stopped.height
  · dsimp only
    split
    next below => exact Nat.add_lt_of_lt_sub below
    · exact bound

/-! ## The player -/

theorem makes_arrive : Makes (Touch .whole) arrive := by
  have relinks : Makes (Touch .whole) (relink .player) := makes_of_edits edits_relink
  exact .bind (.update fun _ => .single (.advance trivial)) fun _ => .bind relinks fun _ => makes_playerLook

theorem faultless_arrive (opened : GridOpened game) : Faultless arrive game := by
  have relinks : Makes (Touch .whole) (relink .player) := makes_of_edits edits_relink
  have advanced : GridOpened (game.advance (.sprite .player)) := opened.change (.touch (.advance trivial))
  refine .update_bind (.bind faultless_relink ((relinks _).mono fun _ linked steps => ?_))
  exact faultless_playerLook (advanced.touches steps).toSized

theorem faultless_storeItem {item : Tile} (room : game.character.items.length < maxItems) :
    Faultless (storeItem item) game := by
  refine .state_bind ?_
  rw [if_pos room]
  exact .update

/-- An item is picked up where there is room for it. -/
theorem faultless_pickUp (room : ∀ node, findItem context game = .ok (some node) → (game.tileOf node).tileNum ≠ itemPotion →
      carries (game.tileOf node).tileNum game.character = false → game.character.items.length < maxItems) :
    Faultless (pickUp context) game := by
  refine .state_bind ?_
  simp only
  split
  · refine .bind_look ?_ fun found finds => ?_
    · rw [findItem, findTile]
      split
      · rintro ⟨⟩
      · rintro ⟨⟩
    · cases found with
      | none => exact .pure _
      | some node =>
        simp only
        split
        · exact .pure _
        next missing =>
          refine .state_bind ?_
          simp only
          split
          · exact .update_bind (.update_bind .update)
          next noPotion =>
            have inside := room node finds noPotion (Bool.eq_false_iff.mpr missing)
            exact .update_bind (.bind_any (faultless_storeItem inside) fun _ _ => .update_bind .update)
  · exact .pure _

/-- The last step of a move finds room, unless it finds the last kind. -/
theorem playerMoveCallback_ne_fault (opened : GridOpened game) (ready : LevelReady game) (stocked : Stocked game)
    {draws : List (BitVec 32)}
    (good : completes game.character.player.effect = true → ∀ arrived node, Program.exec arrive draws game = .ok arrived →
      has (arrived.terrain context).flags worldExit = false → findItem context arrived = .ok (some node) →
      ¬ LastKind (arrived.tileOf node) arrived.character) : playerMoveCallback context (game, draws) ≠ .error .fault := by
  rw [← playerMoveCallbackOr_fault]
  by_cases ends : completes game.character.player.effect = true
  · rw [playerMoveCallbackOr_ends ends]
    refine bind_ne_fault (faultless_arrive opened draws) ?_
    intro _ arrived left arrives
    have steps := (makes_arrive game).returns arrives
    refine bind_ne_fault (by rintro ⟨⟩) ?_
    rintro _ _ _ ⟨rfl⟩
    split
    · exact faultless_gameLevelUp (opened.touches steps).toSized (ready.touches steps).bound left
    next noExit =>
      have kept : Stocked arrived := stocked.keeps ((KeepsItems.of_makes keeps_arrive game).returns arrives)
      rw [pickUpOr_fault]
      refine faultless_pickUp (fun node finds noPotion missing => ?_) left
      have last := good ends arrived node (exec_eq_ok.mpr ⟨_, _, arrives⟩) (Bool.eq_false_iff.mpr noExit) finds
      rw [kept.lastKind_iff (kept.dropped node (findItem_isItem finds)) noPotion missing] at last
      exact Nat.lt_of_not_le last
  · rw [playerMoveCallbackOr_goesOn ends]
    rintro ⟨⟩

/-- A move of the player has more than one step. -/
theorem faultless_moveCommand {x y : Int} : Faultless (moveCommand x y) game := by
  have starts : ∀ tileX tileY, Faultless (playerMove tileX tileY) game := by
    intro tileX tileY
    have timerFits : ∀ context, GameTimer.fits (.effect .playerMove (.sprite .player) context) = true := fun _ => rfl
    refine .state_bind ?_
    simp only
    split
    · exact .pure _
    · refine .change_bind ?_
      cases startMove_cases .player tileX tileY game timerFits with
      | inl refused =>
        rw [refused.1]
        exact .pure _
      | inr sent =>
        rw [sent.1]
        exact .pure _
  refine .state_bind ?_
  simp only
  split
  · exact .bind_any (starts _ _) fun _ _ => .pure _
  · exact .pure _

theorem faultless_action (opened : GridOpened game) : Faultless action game := by
  refine .state_bind ?_
  split
  · refine .bind_look (opened.findNearest opened.player) fun found _ => ?_
    cases found with
    | none => exact .pure _
    | some nearby =>
      refine .bind_look opened.attackRange fun attack _ => ?_
      cases attack with
      | none => exact .pure _
      | some attack => exact faultless_creatureAttack
  · exact .pure _

/-! ## Steps -/

theorem faultless_command (opened : GridOpened game) (typed : Command) : Faultless typed.run game := by
  cases typed with
  | gameStart =>
    by_cases up : game.screenUp = true
    · exact (wp_gameStartCommand opened.timers up).faultless
    · refine .state_bind ?_
      rw [if_neg up]
      exact .pure _
  | gamePause => exact .update
  | action => exact faultless_action opened
  | north => exact faultless_moveCommand
  | south => exact faultless_moveCommand
  | east => exact faultless_moveCommand
  | west => exact faultless_moveCommand
  | northEast => exact faultless_moveCommand
  | northWest => exact faultless_moveCommand
  | southEast => exact faultless_moveCommand
  | southWest => exact faultless_moveCommand

/-- What has to hold before a step. -/
structure StaysInTables (game : Game) (step : GameEvent × List (BitVec 32)) : Prop where
  round : ∀ slot, step.1 = .fire slot → game.timers slot = .game .round → RoundInTables game
  item : ¬ FindsLastKind game step

theorem gameStep_ne_fault {step : GameEvent × List (BitVec 32)} (opened : GridOpened game) (ready : LevelReady game)
    (stocked : Stocked game) (stays : StaysInTables game step) : gameStep game step ≠ .error .fault := by
  obtain ⟨event, draws⟩ := step
  have allFit : ∀ slot, TimerSlot.fits (game.timers slot) = true := opened.timers
  have goes : event.play (game, draws) ≠ .error .fault := by
    cases event with
    | command typed => exact faultless_command opened typed draws
    | others slot busy => rintro ⟨⟩
    | fire slot =>
      rw [GameEvent.play, Program.run_state_bind]
      cases fires : game.timers slot with
      | free => rintro ⟨⟩
      | other => rintro ⟨⟩
      | game timer =>
        -- the timer is freed behind its callback, which does not fault
        refine bind_ne_fault ?_ fun _ _ _ _ => by rintro ⟨⟩
        have fits := allFit slot
        rw [fires] at fits
        cases timer with
        | round => exact faultless_gameRound opened ready (stays.round slot rfl fires) draws
        | effect poll data context =>
          cases poll with
          | spriteMove =>
            cases data with
            | sprite sprite => exact faultless_spriteMoveCallback draws
            | action => cases fits
          | playerMove =>
            cases data with
            | action => cases fits
            | sprite sprite =>
              cases sprite with
              | creature => cases fits
              | player =>
                apply playerMoveCallback_ne_fault opened ready stocked
                intro ends arrived node arrives noExit finds last
                exact stays.item ⟨slot, context, arrived, node, rfl, fires, ends, arrives, noExit, finds, last⟩
          | attack =>
            cases data with
            | sprite => cases fits
            | action sprite attack =>
              rw [GameTimer.callback, attackCallback]
              rintro ⟨⟩
  intro faults
  rw [gameStep, Program.exec] at faults
  cases ran : event.play (game, draws) with
  | ok result => simp [ran, Except.map] at faults
  | error stop =>
    simp only [ran, Except.map, Except.error.injEq] at faults
    exact goes (faults ▸ ran)

/-- A game that has just been started. -/
theorem Board.Playing.opened (playing : (board game).Playing) (ground : PlainGround game) (placed : Placed game) :
    GridOpened game ∧ LevelReady game := by
  have facts := playing.facts
  have level : game.world.level = (board game).level := rfl
  refine ⟨⟨⟨facts.width, facts.height⟩, ?player, ground, placed, facts.timers⟩, ?bound, ?worlds⟩
  case player => exact (facts.fits .player rfl).world (by simp)
  case bound =>
    rw [level, facts.level]
    exact facts.bound
  case worlds =>
    intro i plays early
    refine (facts.fits (.creature i) (decide_eq_true plays)).world ?_
    rintro j ⟨rfl⟩
    exact early

/-- `GameStart` opens the grid, whatever the game was before. -/
theorem wlp_gameStartCommand_opened (up : game.screenUp = true) (ground : PlainGround game) (placed : Placed game)
    (timers : (board game).timersFit) : Wlp gameStartCommand (fun _ later => GridOpened later ∧ LevelReady later) game := by
  have changes : Makes (Change True) gameStartCommand :=
    (makes_command .gameStart).mono fun _ _ change => change.mono fun _ => trivial
  have grounds := changes.keeps (fun _ _ change => Change.ground change) ground
  have places := changes.keeps (fun _ _ change placed => Placed.change placed change) placed
  apply (((wp_gameStartCommand timers up).wlp.and grounds).and places).mono
  rintro _ later ⟨⟨playing, ground⟩, placed⟩
  exact playing.opened ground placed

theorem LevelReady.cancelled (ready : LevelReady game) {slot : Option (Fin maxTimerTasks)} :
    LevelReady (timerCancel slot game) := by
  obtain ⟨timers, same⟩ := @timerCancel_frame game slot
  rw [same]
  exact ready.same rfl rfl

theorem LevelReady.scheduleRound (ready : LevelReady game) : LevelReady game.scheduleRound := by
  obtain ⟨timers, same⟩ := @timerSchedule_frame game .round
  simp only [Game.scheduleRound, same]
  exact ready.same rfl rfl

theorem LevelReady.cancelRound (ready : LevelReady game) : LevelReady game.cancelRound := by
  obtain ⟨timers, same⟩ := @timerCancel_frame game game.world.round
  rw [Game.cancelRound, same]
  exact ready.same rfl rfl

/-- A step keeps the creatures of the level ready, or makes those of a new level ready. -/
theorem wlp_event_ready (opened : GridOpened game) (up : game.screenUp = true) (ready : LevelReady game) (event : GameEvent) :
    Wlp event.play (fun _ later => LevelReady later) game := by
  have touches : ∀ {program : Play Unit}, Makes (Touch .whole) program → Wlp program (fun _ later => LevelReady later) game :=
    fun makes => (makes game).mono fun _ _ steps => ready.touches steps
  apply wlp_event_of
  · exact fun _ _ => ready
  · intro typed _
    apply wlp_command_of
    · intro _
      exact (wlp_gameStartCommand_opened up opened.ground opened.placed opened.timers).mono fun _ _ begun => begun.2
    · intro _
      rw [gamePause]
      split
      · exact ready.cancelRound.same rfl rfl
      · exact ready.scheduleRound.same rfl rfl
    · exact fun _ => touches (makes_action (fun _ => trivial) trivial trivial)
    · exact fun _ _ => touches (makes_moveCommand trivial trivial)
  · intro slot timer _ _
    apply wlp_callback_of
    · intro _
      apply wlp_gameRound.mono
      rintro _ later ⟨mid, steps, rfl | rfl⟩
      · exact (ready.touches steps).scheduleRound.cancelled
      · exact (ready.touches steps).cancelRound.cancelled
    · intro sprite context _
      exact (touches (makes_spriteMoveCallback trivial trivial)).mono fun _ _ ready => ready.cancelled
    · intro context _
      have moves : Wlp (playerMoveCallback context) (fun _ later => LevelReady later) game := by
        rw [← playerMoveCallbackOr_fault]
        apply Wlp.of_returns
        intro draws _ later rest ran
        -- when the move is over the player may be on the exit, and a level begins
        by_cases ends : completes game.character.player.effect = true
        · rw [playerMoveCallbackOr_ends ends, bind_eq_ok] at ran
          obtain ⟨_, arrived, left, arrives, ran⟩ := ran
          have arrivedReady := ready.touches ((makes_arrive game).returns arrives)
          rw [Program.run_state_bind] at ran
          split at ran
          · have rises : Ignores (withOthers (nextLevel arrived.world.level) ⟨fun _ => {}, fun _ => {}⟩) gameLevelUp
                (fun _ later => LevelBegun (nextLevel arrived.world.level) later) arrived := ignores_gameLevelUp rfl
            exact (rises.wlp.returns ran).ready (bound_nextLevel arrivedReady.bound)
          · have picks : Makes (Touch .whole) (pickUp context) := makes_pickUp trivial
            rw [pickUpOr_fault] at ran
            exact arrivedReady.touches ((picks arrived).returns ran)
        · rw [playerMoveCallbackOr_goesOn ends] at ran
          obtain ⟨rfl⟩ := ran
          have advanced : LevelReady (game.advance (.sprite .player)) :=
            @LevelReady.touches _ _ .whole ready (.single (.advance trivial))
          exact @LevelReady.touches _ _ .whole advanced (.single (.again trivial rfl))
      exact moves.mono fun _ _ ready => ready.cancelled
    · intro sprite attack context _
      exact (touches (makes_attackCallback trivial trivial)).mono fun _ _ ready => ready.cancelled
  · exact fun _ _ _ _ => ready.same rfl rfl

theorem wlp_event_opened (opened : GridOpened game) (up : game.screenUp = true) (event : GameEvent) :
    Wlp event.play (fun _ later => GridOpened later) game := by
  by_cases start : event = .command .gameStart
  · subst start
    exact (wlp_gameStartCommand_opened up opened.ground opened.placed opened.timers).mono fun _ _ begun => begun.1
  · have changes : Makes (Change False) event.play := (makes_event event).mono fun _ _ change => change.mono start
    exact changes.keeps (fun _ _ change opened => GridOpened.change opened change) opened

/-! ## Runs -/

/-- The player, the creatures and the effects of their attacks are on the grid and go to places on
    the grid, and so `tiles` has an element at each of their indices. -/
def SpritesInside (game : Game) : Prop :=
  ∀ place, EffectInside (game.effect place) ∧
    (tileAt (game.effect place).locationX (game.effect place).locationY).isSome ∧
    (tileAt (game.effect place).destinationX (game.effect place).destinationY).isSome

/-- A run leads to a state with all sprites on the grid, or to none because its last step has not
    returned.  It does not leave the tables of the game. -/
def StaysOnGrid (game : Game) (steps : List (GameEvent × List (BitVec 32))) : Prop :=
  match play game steps with
  | .ok now => SpritesInside now
  | .error stop => stop ≠ .fault

theorem Placed.spritesInside (placed : Placed game) : SpritesInside game := by
  intro place
  have inside : EffectInside (game.effect place) := by
    cases place with
    | sprite sprite => exact (placed.sprites sprite).effect
    | action sprite attack => exact (placed.sprites sprite).action attack
  obtain ⟨here, isHere⟩ := Board.tileAt_inside inside.location
  obtain ⟨there, isThere⟩ := Board.tileAt_inside inside.destination
  exact ⟨inside, Option.isSome_iff_exists.mpr ⟨here, isHere⟩, Option.isSome_iff_exists.mpr ⟨there, isThere⟩⟩

theorem play_ne_fault {steps : List (GameEvent × List (BitVec 32))} (opened : GridOpened game) (ready : LevelReady game)
    (stocked : Stocked game) (up : game.screenUp = true) (stays : Throughout StaysInTables game steps) :
    play game steps ≠ .error .fault := by
  induction steps generalizing game with
  | nil => rintro ⟨⟩
  | cons step steps ih =>
    have unfolded : play game (step :: steps) = (gameStep game step).bind fun next => play next steps := List.foldlM_cons
    have goes := gameStep_ne_fault opened ready stocked stays.1
    rw [unfolded]
    cases ran : gameStep game step with
    | error stop =>
      rw [ran] at goes
      exact fun faults => goes (congrArg Except.error (Except.error.inj faults))
    | ok next =>
      exact ih ((wlp_event_opened opened up step.1).exec ran) ((wlp_event_ready opened up ready step.1).exec ran)
        ((wlp_event_stocked stocked step.1).exec ran) ((wlp_width up step.1).exec ran).1 (stays.2 next ran)

/-- In every run all sprites are on the grid in every state that is reached.  And after a `GameStart`
    a run whose steps stay in the tables of the game reaches a state behind each step that returns. -/
theorem sprites_stay_inside {nullTileNum : Int} {timers : Fin maxTimerTasks → Bool}
    {before steps : List (GameEvent × List (BitVec 32))} {draws : List (BitVec 32)} {started : Game}
    (reached : play (boot nullTileNum timers) before = .ok game)
    (starts : gameStep game (.command .gameStart, draws) = .ok started) :
    (∀ now, play started steps = .ok now → SpritesInside now) ∧
      (Throughout StaysInTables started steps → StaysOnGrid started steps) := by
  have begins : play (boot nullTileNum timers) (before ++ [(.command .gameStart, draws)]) = .ok started :=
    play_append.mpr ⟨game, reached, starts⟩
  have inside : ∀ now, play started steps = .ok now → SpritesInside now := by
    intro now runs
    have placed : Placed now := play_keeps (fun _ _ change placed => Placed.change placed change) (placed_of_play begins) runs
    exact placed.spritesInside
  refine ⟨inside, fun stays => ?_⟩
  have up := (width_of_play reached).1
  have plain : has 0 (isCreature ||| isPlayer) = false := by decide
  have ground : PlainGround game := play_keeps (fun _ _ change => Change.ground change) ⟨fun _ => plain, plain⟩ reached
  have opens := wlp_gameStartCommand_opened up ground (placed_of_play reached) (timersFit_of_play reached)
  obtain ⟨opened, ready⟩ := opens.exec starts
  have goes := play_ne_fault opened ready (stocked_of_play begins) (width_of_play begins).1 stays
  rw [StaysOnGrid]
  split
  next now runs => exact inside now runs
  next stop stops => exact fun faults => goes (stops.trans (congrArg _ faults))

theorem sprites_stay_inside_on_meadow :
    ∃ started, gameStep (boot 0 fun _ => false) (.command .gameStart, meadowDraws) = .ok started ∧
      StaysOnGrid started [(.fire (timerTask 0), [])] := by
  have passes : (gameStep (boot 0 fun _ => false) (.command .gameStart, meadowDraws)).toOption.any (fun started =>
      decide (started.world.level = 1 ∧ started.timers (timerTask 0) = .game .round)) = true := by
    delta gameStep GameEvent.play Command.run gameStartCommand
    rw [worldCreateRandom_evenly]
    decide +kernel
  obtain ⟨started, starts, checked⟩ := exists_of_any passes
  obtain ⟨level, isRound⟩ := of_decide_eq_true checked
  have stays : StaysInTables started (.fire (timerTask 0), []) := by
    refine ⟨fun _ _ _ => ⟨fun i isLate plays => ?_, .inl ?_⟩, ?_⟩
    · omega
    · rw [level]
      decide
    · rintro ⟨slot, context, arrived, node, ⟨rfl⟩, isMove, _⟩
      cases isRound.symm.trans isMove
  have holds := @sprites_stay_inside (boot 0 fun _ => false) 0 (fun _ => false) [] [(.fire (timerTask 0), [])] _ started rfl starts
  exact ⟨started, starts, holds.2 ⟨stays, fun _ _ => trivial⟩⟩

/-- A run that has been checked to fault. -/
theorem exists_not_staysOnGrid {start : Except Stop Game} {steps : List (GameEvent × List (BitVec 32))}
    (passes : start.toOption.any (fun started => stopsAs .fault (play started steps)) = true) :
    ∃ started, start = .ok started ∧ ¬ StaysOnGrid started steps := by
  obtain ⟨started, starts, faults⟩ := exists_of_any passes
  refine ⟨started, starts, fun stays => ?_⟩
  rw [StaysOnGrid] at stays
  cases runs : play started steps with
  | ok now =>
    rw [runs] at faults
    cases faults
  | error stop =>
    rw [runs] at faults stays
    exact stays (of_decide_eq_true faults)

/-- The random numbers of a level on a meadow: the creatures on one tile, and the player beside
    the exit. -/
def portalBeside (creatures : Nat) : List (BitVec 32) :=
  (List.replicate creatures [7, 5, 5]).flatten ++ [19, 10, 20, 10]

/-- A wizard goes from exit to exit, up to the first level with an eighth creature. -/
def eightCreatures : List (GameEvent × List (BitVec 32)) :=
  [3, 4, 5, 6, 7, 8].flatMap fun creatures => (.command .west, []) :: fires (meadowTerrain ++ portalBeside creatures)

/-- The random numbers of its start. -/
def portalDraws : List (BitVec 32) := meadowTerrain ++ [0, 0, 0, 0, 0, 0, 0, 0, 0, 5, 5, 5, 0, 0, 0, 0] ++ portalBeside 2

/-- In the first round there the others attack and miss, and the eighth creature reads the tiles of a world that it does not have. -/
theorem eighth_creature_has_no_world :
    ∃ started, gameStep (boot 0 fun _ => false) (.command .gameStart, portalDraws) = .ok started ∧
      ¬ StaysOnGrid started (eightCreatures ++ [(.fire (timerTask 0), List.replicate 7 1)]) := by
  have passes : (gameStep (boot 0 fun _ => false) (.command .gameStart, portalDraws)).toOption.any (fun started =>
      stopsAs .fault (play started (eightCreatures ++ [(.fire (timerTask 0), List.replicate 7 1)]))) = true := by
    delta play gameStep GameEvent.play Command.run gameStartCommand GameTimer.callback playerMoveCallback gameLevelUp
    rw [worldCreateRandom_evenly]
    decide +kernel
  exact exists_not_staysOnGrid passes

end ComputerSystems.Verified
