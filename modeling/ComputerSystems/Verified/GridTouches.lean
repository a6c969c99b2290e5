import ComputerSystems.Verified.GridItems

/-! # What a game changes

Every function of the game changes it by a few kinds of steps: a sprite that stays where
it is, the next step of an effect, the start of an effect, a sprite that is placed.
`Touch scope` are those that change the sprites of a scope only, and `Makes (Touch scope)`
says of a function that it does nothing else, in whatever state it is called and whether or
not it goes well.  An invariant that every kind of step keeps holds in all runs.  Most functions
leave the items of the player alone as well: they make `Edit` steps.

The round timer is left out: where a level or a round ends it is scheduled or cancelled.
-/

namespace ComputerSystems.Verified

open ComputerSystems.Data ComputerSystems.VirtualWorld Relation
open ComputerSystems.System (DoubleLink)

variable {game later : Game} {sprite : Sprite}

/-! ## Kinds of steps -/

/-- The sprite that an effect belongs to. -/
def effectOwner : EffectAt → Sprite
  | .sprite sprite => sprite
  | .action sprite _ => sprite

/-- An effect is where it was and goes where it went. -/
structure SamePath (effect before : EffectTile) : Prop where
  count : effect.count = before.count
  locationX : effect.locationX = before.locationX
  locationY : effect.locationY = before.locationY
  destinationX : effect.destinationX = before.destinationX
  destinationY : effect.destinationY = before.destinationY

/-- A sprite stays where it is. -/
structure SameMotion (value before : SpriteTile) : Prop where
  effect : SamePath value.effect before.effect
  action : ∀ attack, SamePath (value.action attack).effect (before.action attack).effect
  world : value.currentWorld = before.currentWorld

/-- Neither a tile of the grid nor the exit passes for a creature or for the player. -/
structure PlainGround (game : Game) : Prop where
  terrain : ∀ tile, has (game.terrain tile).flags (isCreature ||| isPlayer) = false
  exit : has game.exitTile.flags (isCreature ||| isPlayer) = false

/-- The tiles of the grid are replaced by others that are plain as well. -/
theorem PlainGround.terrain_of {terrain : TileIndex → Tile} (plain : PlainGround game)
    (others : ∀ tile, has (game.terrain tile).flags (isCreature ||| isPlayer) = false →
      has (terrain tile).flags (isCreature ||| isPlayer) = false) : PlainGround { game with terrain } :=
  ⟨fun tile => others tile (plain.terrain tile), plain.exit⟩

/-- What beside the sprites and the timers changes. -/
structure SameMoving (game later : Game) : Prop where
  ground : PlainGround game → PlainGround later
  creatures : later.creatures = game.creatures
  player : later.character.player = game.character.player
  world : later.world = game.world
  timers : later.timers = game.timers
  gameUp : later.gameUp = game.gameUp
  screenUp : later.screenUp = game.screenUp

/-- What may be changed: which sprites, whether timers are scheduled and whether the score
    counts. -/
structure Scope where
  sprite : Sprite → Prop
  timed : Prop
  scored : Prop

/-- One step of a change. -/
inductive Touch (scope : Scope) : Game → Game → Prop where
  | other {game later : Game} (same : SameMoving game later) : Touch scope game later
  | sprite {game : Game} {sprite : Sprite} {value : SpriteTile} (inside : scope.sprite sprite)
      (same : SameMotion value (game.sprite sprite)) : Touch scope game (game.setSprite sprite value)
  | advance {game : Game} {place : EffectAt} (inside : scope.sprite (effectOwner place)) :
      Touch scope game (game.advance place)
  | place {game : Game} {sprite : Sprite} {x y : Int} (inside : scope.sprite sprite) (grid : Board.Inside x y) :
      Touch scope game (game.place sprite x y)
  | renew {game : Game} {i : CreatureIndex} (inside : scope.sprite (.creature i)) (early : i.val < 7) :
      Touch scope game (game.initializeSprite (.creature i))
  | enter {game : Game} (inside : scope.sprite .player) :
      Touch scope game (game.setSprite .player { game.character.player with currentWorld := true })
  | score {game : Game} {score : Nat} (scored : scope.scored) :
      Touch scope game { game with world := { game.world with score } }
  | again {game : Game} {poll : EffectPoll} {place : EffectAt} {context : TileIndex} (timed : scope.timed)
      (fits : GameTimer.fits (.effect poll place context) = true) : Touch scope game (game.again poll place context)
  | start {game : Game} {sprite : Sprite} {poll : EffectPoll} {x y : Int} (timed : scope.timed)
      (inside : scope.sprite sprite) (fits : ∀ context, GameTimer.fits (.effect poll (.sprite sprite) context) = true) :
      Touch scope game (tileEffectStart (.sprite sprite) x y
        (game.setSprite sprite ((game.sprite sprite).prepareMove poll))).2
  | launch {game : Game} {attacker attacked : Sprite} {attack : Attack} (timed : scope.timed)
      (inside : scope.sprite attacker) : Touch scope game (game.launch attacker attack attacked).2

namespace SamePath

variable {effect before : EffectTile}

theorem refl : SamePath effect effect := ⟨rfl, rfl, rfl, rfl, rfl⟩

/-- The tile of an effect may change. -/
theorem tile {tile : Tile} : SamePath { effect with tile } effect := ⟨rfl, rfl, rfl, rfl, rfl⟩

end SamePath

namespace SameMotion

variable {value : SpriteTile}

theorem refl : SameMotion value value := ⟨.refl, fun _ => .refl, rfl⟩

theorem tile {tile : Tile} : SameMotion { value with effect := { value.effect with tile } } value :=
  ⟨.tile, fun _ => .refl, rfl⟩

/-- The abilities of a sprite may change, and what its actions do. -/
theorem stats {stats : SpriteStats} (first : SamePath stats.first.effect value.stats.first.effect)
    (second : SamePath stats.second.effect value.stats.second.effect) : SameMotion { value with stats } value where
  effect := .refl
  action attack := by
    cases attack with
    | first => exact first
    | second => exact second
  world := rfl

end SameMotion

namespace Touch

variable {scope : Scope}

theorem setFlags {flags : BitVec 32} (inside : scope.sprite sprite) : Touch scope game (game.setFlags sprite flags) :=
  .sprite inside .tile

theorem setHp {hp : Int} (inside : scope.sprite sprite) : Touch scope game (game.setHp sprite hp) :=
  .sprite inside (.stats .refl .refl)

theorem relinked {links : Node → DoubleLink Node} : Touch scope game { game with links } :=
  .other ⟨fun plain => ⟨plain.terrain, plain.exit⟩, rfl, rfl, rfl, rfl, rfl, rfl⟩

theorem terrain {terrain : TileIndex → Tile} (others : ∀ tile, has (game.terrain tile).flags (isCreature ||| isPlayer) = false →
    has (terrain tile).flags (isCreature ||| isPlayer) = false) : Touch scope game { game with terrain } :=
  .other ⟨fun plain => plain.terrain_of others, rfl, rfl, rfl, rfl, rfl, rfl⟩

end Touch

/-- A wider scope. -/
theorem Touch.mono {scope wider : Scope} (touch : Touch scope game later)
    (sprites : ∀ sprite, scope.sprite sprite → wider.sprite sprite) (timed : scope.timed → wider.timed)
    (scored : scope.scored → wider.scored) : Touch wider game later := by
  cases touch with
  | other same => exact .other same
  | sprite inside same => exact .sprite (sprites _ inside) same
  | advance inside => exact .advance (sprites _ inside)
  | place inside grid => exact .place (sprites _ inside) grid
  | renew inside early => exact .renew (sprites _ inside) early
  | enter inside => exact .enter (sprites _ inside)
  | score counts => exact .score (scored counts)
  | again schedules fits => exact .again (timed schedules) fits
  | start schedules inside fits => exact .start (timed schedules) (sprites _ inside) fits
  | launch schedules inside => exact .launch (timed schedules) (sprites _ inside)

/-- A step that leaves the items of the player as they are. -/
structure Edit (scope : Scope) (game later : Game) : Prop where
  touch : Touch scope game later
  items : KeepsItems game later

namespace Edit

variable {scope : Scope}

theorem setSprite {value : SpriteTile} (inside : scope.sprite sprite) (same : SameMotion value (game.sprite sprite))
    (kind : KeepsKind (game.sprite sprite).effect.tile value.effect.tile) : Edit scope game (game.setSprite sprite value) :=
  ⟨.sprite inside same, .setSprite kind⟩

theorem setFlags {flags : BitVec 32} (inside : scope.sprite sprite)
    (kind : KeepsKind (game.sprite sprite).effect.tile { (game.sprite sprite).effect.tile with flags }) :
    Edit scope game (game.setFlags sprite flags) :=
  .setSprite inside .tile kind

/-- Flags of a sprite are set that have nothing to do with items. -/
theorem setMask {mask : BitVec 32} (inside : scope.sprite sprite) (disjoint : mask &&& isItem = 0 := by decide) :
    Edit scope game (game.setFlags sprite (game.flags sprite ||| mask)) :=
  .setFlags inside (.setMask disjoint)

theorem clearMask {mask : BitVec 32} (inside : scope.sprite sprite) (disjoint : mask &&& isItem = 0 := by decide) :
    Edit scope game (game.setFlags sprite (game.flags sprite &&& ~~~mask)) :=
  .setFlags inside (.clearMask disjoint)

theorem setHp {hp : Int} (inside : scope.sprite sprite) : Edit scope game (game.setHp sprite hp) :=
  .setSprite inside (.stats .refl .refl) .refl

theorem setScratch {scratch : UInt8} (inside : scope.sprite sprite) : Edit scope game (game.setScratch sprite scratch) :=
  .setSprite inside (.stats .refl .refl) .refl

/-- No tile is changed. -/
theorem other (same : SameMoving game later) (items : later.character.items = game.character.items)
    (tiles : ∀ node, later.tileOf node = game.tileOf node) : Edit scope game later :=
  ⟨.other same, .of_same items tiles⟩

theorem relinked {links : Node → DoubleLink Node} : Edit scope game { game with links } :=
  ⟨.relinked, .of_same rfl fun _ => rfl⟩

/-- A tile of the grid is replaced by one that is neither an item nor a creature. -/
theorem renewTile {tile : TileIndex} {value : Tile} (noItem : has value.flags isItem = false)
    (noSprite : has value.flags (isCreature ||| isPlayer) = false) :
    Edit scope game { game with terrain := Function.update game.terrain tile value } := by
  refine ⟨.terrain fun other plain => ?_, .terrain fun other => ?_⟩
  · by_cases same : other = tile
    · rw [same, Function.update_self]
      exact noSprite
    · rw [Function.update_of_ne same]
      exact plain
  · by_cases same : other = tile
    · rw [same, Function.update_self]
      exact .plain noItem
    · rw [Function.update_of_ne same]
      exact .refl

/-- A flag of a tile of the grid is set. -/
theorem reveal {tile : TileIndex} {mask : BitVec 32} (disjoint : mask &&& isItem = 0)
    (noSprite : mask &&& (isCreature ||| isPlayer) = 0) :
    Edit scope game (game.setTerrainFlags tile ((game.terrain tile).flags ||| mask)) := by
  refine ⟨.terrain fun other plain => ?_, .setTerrainFlags disjoint⟩
  by_cases same : other = tile
  · rw [same, Function.update_self, has, and_or_of_disjoint noSprite]
    rw [same] at plain
    exact plain
  · rw [Function.update_of_ne same]
    exact plain

/-- The tile of the exit is no item. -/
theorem openExit {exitTile : Tile} {links : Node → DoubleLink Node} (noItem : has exitTile.flags isItem = false)
    (noSprite : has exitTile.flags (isCreature ||| isPlayer) = false) : Edit scope game { game with exitTile, links } := by
  refine ⟨.other ⟨fun plain => ⟨plain.terrain, noSprite⟩, rfl, rfl, rfl, rfl, rfl, rfl⟩, rfl, fun node => ?_⟩
  cases node with
  | exit => exact .plain noItem
  | tile index => exact .refl
  | sprite sprite => exact .refl

theorem advance {place : EffectAt} (inside : scope.sprite (effectOwner place)) : Edit scope game (game.advance place) :=
  ⟨.advance inside, .advance⟩

theorem place {x y : Int} (inside : scope.sprite sprite) (grid : Board.Inside x y) : Edit scope game (game.place sprite x y) :=
  ⟨.place inside grid, .setEffect .refl⟩

theorem renew {i : CreatureIndex} (inside : scope.sprite (.creature i)) (early : i.val < 7) :
    Edit scope game (game.initializeSprite (.creature i)) := by
  have kept : KeepsItems game (game.setSprite (.creature i) (spriteInitialize (game.sprite (.creature i)))) :=
    .setSprite fun item => .inr ⟨item, rfl⟩
  exact ⟨.renew inside early, kept.trans (.of_same rfl fun _ => rfl)⟩

theorem enter (inside : scope.sprite .player) :
    Edit scope game (game.setSprite .player { game.character.player with currentWorld := true }) :=
  ⟨.enter inside, .setSprite .refl⟩

theorem score {score : Nat} (scored : scope.scored) : Edit scope game { game with world := { game.world with score } } :=
  ⟨.score scored, .of_same rfl fun _ => rfl⟩

theorem again {poll : EffectPoll} {place : EffectAt} {context : TileIndex} (timed : scope.timed)
    (fits : GameTimer.fits (.effect poll place context) = true) : Edit scope game (game.again poll place context) :=
  ⟨.again timed fits, .timerSchedule⟩

theorem start {poll : EffectPoll} {x y : Int} (timed : scope.timed) (inside : scope.sprite sprite)
    (fits : ∀ context, GameTimer.fits (.effect poll (.sprite sprite) context) = true) :
    Edit scope game (tileEffectStart (.sprite sprite) x y (game.setSprite sprite ((game.sprite sprite).prepareMove poll))).2 :=
  ⟨.start timed inside fits, KeepsItems.prepareMove.trans .tileEffectStart⟩

theorem launch {attacker attacked : Sprite} {attack : Attack} (timed : scope.timed) (inside : scope.sprite attacker) :
    Edit scope game (game.launch attacker attack attacked).2 :=
  ⟨.launch timed inside, .launch⟩

end Edit

theorem makes_of_edits {α : Type} {scope : Scope} {program : Play α} (edits : Makes (Edit scope) program) :
    Makes (Touch scope) program :=
  edits.mono fun _ _ edit => edit.touch

theorem touches_of_edits {scope : Scope} (edits : ReflTransGen (Edit scope) game later) :
    ReflTransGen (Touch scope) game later :=
  ReflTransGen.mono (fun _ _ edit => edit.touch) _ _ edits

/-! ## Moves and attacks -/

section Functions

variable {scope : Scope} {attacker attacked nearest : Sprite} {context : TileIndex}

theorem edits_append {node : Node} {tile : TileIndex} : Makes (Edit scope) (append node tile) :=
  .bind .look fun _ => .update fun _ => .single .relinked

theorem edits_unlink {node : Node} : Makes (Edit scope) (Program.update (Game.unlink node) : Play Unit) :=
  .update fun _ => .single .relinked

theorem edits_relink : Makes (Edit scope) (relink sprite) := by
  refine .bind edits_unlink fun _ => .state_bind fun now => ?_
  split
  · exact edits_append
  · exact .pure _

theorem wlp_append_terrain {node : Node} {tile : TileIndex} :
    Wlp (append node tile) (fun _ later => later.terrain = game.terrain) game := by
  apply Wlp.bind
  apply Wlp.look
  intro links _
  exact (wlp_update _).mpr rfl

theorem wlp_relink_terrain : Wlp (relink sprite) (fun _ later => later.terrain = game.terrain) game := by
  simp only [relink, wlp_update_bind, wlp_state_bind]
  split
  · exact wlp_append_terrain
  · exact (wlp_pure _).mpr rfl

theorem edits_spriteMoveCallback (timed : scope.timed) (inside : scope.sprite sprite) :
    Makes (Edit scope) (spriteMoveCallback sprite context) := by
  refine .bind (.update fun _ => .single (.advance inside)) fun _ => .state_bind fun now => ?_
  split
  · exact .update fun _ => .single (.again timed rfl)
  · exact edits_relink

theorem edits_startMove {poll : EffectPoll} {x y : Int} (timed : scope.timed) (inside : scope.sprite sprite)
    (fits : ∀ context, GameTimer.fits (.effect poll (.sprite sprite) context) = true) :
    Makes (Edit scope) (startMove poll sprite x y) :=
  .change fun _ => .single (.start timed inside fits)

theorem edits_spriteMove {x y : Int} (timed : scope.timed) (inside : scope.sprite sprite) :
    Makes (Edit scope) (spriteMove sprite x y) := by
  refine .state_bind fun now => ?_
  simp only
  split
  · exact .pure _
  · refine .bind (edits_startMove timed inside fun _ => rfl) fun started => ?_
    cases started with
    | refused => exact .pure _
    | scheduled => exact .pure _
    | polls context => exact .bind (edits_spriteMoveCallback timed inside) fun _ => .pure _

theorem edits_spriteMoveRandom (timed : scope.timed) (inside : scope.sprite sprite) :
    Makes (Edit scope) (spriteMoveRandom sprite) := by
  refine .state_bind fun now => ?_
  simp only
  split
  · exact .pure _
  · refine .bind (.of_draws randomOffset_draws) fun randX => .bind (.of_draws randomOffset_draws) fun randY => ?_
    split
    · exact .bind (edits_spriteMove timed inside) fun _ => .pure _
    · exact .pure _

theorem edits_attackCallback {attack : Attack} (timed : scope.timed) (inside : scope.sprite attacker) :
    Makes (Edit scope) (attackCallback attacker attack context) := by
  refine .update fun now => ?_
  have advanced : Edit scope now (now.advance (.action attacker attack)) := .advance inside
  simp only
  split
  · exact .tail (.single advanced) (.again timed rfl)
  · exact .single advanced

theorem edits_show (inside : scope.sprite sprite) : Makes (Edit scope) (Program.update (Game.show sprite) : Play Unit) :=
  .update fun _ => .single (.setMask inside)

theorem edits_rollDamage {affect : Nat} (inside : scope.sprite attacker) :
    Makes (Edit scope) (rollDamage attacker affect) := by
  refine .bind (.of_draws (dice_draws affect)) fun damage => .state_bind fun now => ?_
  split
  · exact .pure _
  · exact .bind (.of_draws (dice_draws affect)) fun more => .bind (edits_show inside) fun _ => .pure _

theorem edits_die (inside : scope.sprite sprite) : ReflTransGen (Edit scope) game (game.die sprite) :=
  .tail (.single .relinked) (.setMask inside)

theorem edits_becomeItem {tileNum : Int} (inside : scope.sprite sprite) (dropped : Treasure tileNum) :
    ReflTransGen (Edit scope) game (game.becomeItem sprite tileNum) := by
  have becomes : Edit scope game (game.setEffect (.sprite sprite) { (game.sprite sprite).effect with
      tile := { bitmap := some .equipment, tileNum, flags := isItem ||| isVisible } }) :=
    .setSprite inside .tile fun _ => .inl dropped
  exact .tail (.single becomes) .relinked

theorem edits_defeatCreature (inside : scope.sprite attacked) (scored : scope.scored) :
    Makes (Edit scope) (defeatCreature attacked) := by
  refine .bind (.update fun _ => .single (.score scored)) fun _ => .bind (.of_draws d16_draws) fun roll => ?_
  split
  · have rolls : ∀ score now, Wlp (rollItem score)
        (fun item later => Treasure item ∧ ReflTransGen (Edit scope) now later) now := by
      intro score now
      apply rollItem_treasure.mono
      rintro item _ ⟨dropped, rfl⟩
      exact ⟨dropped, .refl⟩
    refine .state_bind fun now => .bind_of (rolls _) fun item dropped => ?_
    refine .bind (.update fun _ => edits_becomeItem inside dropped) fun _ => .state_bind fun now => ?_
    split
    · exact edits_append
    · exact .pure _
  · exact .pure _

theorem edits_strike {affect modifier : Nat} (attacks : scope.sprite attacker) (hit : scope.sprite attacked)
    (scored : scope.scored) : Makes (Edit scope) (strike attacker affect modifier attacked) := by
  refine .bind (edits_rollDamage attacks) fun damage => ?_
  refine .bind (.update fun _ => .single (.setHp hit)) fun _ => .state_bind fun now => ?_
  split
  · refine .bind (.update fun _ => edits_die hit) fun _ => .state_bind fun now => ?_
    split
    · exact edits_defeatCreature hit scored
    · exact .pure _
  · exact .pure _

theorem edits_creatureAttack {attack : Attack} (timed : scope.timed) (attacks : scope.sprite attacker)
    (hit : scope.sprite attacked) (scored : scope.scored) :
    Makes (Edit scope) (creatureAttack attacker attack attacked) := by
  -- the attack strikes, or misses, and in either case shows the attacker
  have strikes : ∀ affect modifier (hits : Prop) [Decidable hits], Makes (Edit scope) (if hits then do
      strike attacker affect modifier attacked
      Program.update (Game.show attacker)
    else Program.update (Game.show attacker)) := by
    intro affect modifier hits _
    split
    · exact .bind (edits_strike attacks hit scored) fun _ => edits_show attacks
    · exact edits_show attacks
  refine .state_bind fun now => ?_
  simp only
  split
  · exact .pure _
  · refine .bind (.of_draws attackRoll_draws) fun roll => ?_
    refine .bind (.change fun _ => .single (.launch timed attacks)) fun started => ?_
    cases started with
    | refused => exact strikes _ _ _
    | scheduled => exact strikes _ _ _
    | polls context => exact .bind (edits_attackCallback timed attacks) fun _ => strikes _ _ _

/-! ## Turns -/

theorem edits_spriteAction (timed : scope.timed) (acts : scope.sprite sprite) (hit : scope.sprite nearest)
    (scored : scope.scored) : Makes (Edit scope) (spriteAction sprite nearest) := by
  refine .bind .look fun attack => .bind .look fun hidden => .state_bind fun now => ?_
  simp only
  split
  · exact .pure _
  · split
    · cases attack with
      | some attack => exact .bind (edits_creatureAttack timed acts hit scored) fun _ => .pure _
      | none => exact .bind (edits_spriteMove timed acts) fun _ => .pure _
    · exact .pure _

theorem edits_wander (timed : scope.timed) (acts : scope.sprite sprite) : Makes (Edit scope) (wander sprite) := by
  refine .state_bind fun now => ?_
  simp only
  split
  · refine .update fun now => ?_
    split
    · exact .single (.clearMask acts)
    · split
      · exact .single (.setScratch acts)
      · exact .refl
  · exact edits_spriteMoveRandom timed acts

theorem edits_creatureTurn {i : CreatureIndex} (timed : scope.timed) (all : ∀ sprite, scope.sprite sprite)
    (scored : scope.scored) : Makes (Edit scope) (creatureTurn i) := by
  refine .state_bind fun now => ?_
  split
  · exact .pure _
  · split
    · refine .bind .look fun found => ?_
      cases found with
      | none => exact edits_wander timed (all _)
      | some nearby =>
        refine .bind (edits_spriteAction timed (all _) (all _) scored) fun acted => ?_
        split
        · exact .pure _
        · exact edits_wander timed (all _)
    · exact .update fun _ => .single (.setMask (all _))

theorem edits_clericRound {counter : CreatureIndex} (player : scope.sprite .player)
    (counts : scope.sprite (.creature counter)) : Makes (Edit scope) (clericRound counter) := by
  have remembered : Makes (Edit scope) (Program.update Game.remember : Play Unit) :=
    .update fun _ => .single (.other ⟨fun plain => ⟨plain.terrain, plain.exit⟩, rfl, rfl, rfl, rfl, rfl, rfl⟩ rfl fun _ => rfl)
  refine .bind (.update fun _ => .single (.other ⟨fun plain => ⟨plain.terrain, plain.exit⟩, rfl, rfl, rfl, rfl, rfl, rfl⟩ rfl
    fun _ => rfl)) fun _ => ?_
  refine .bind (.update fun _ => .single (.setScratch counts)) fun _ => .state_bind fun now => ?_
  simp only
  split
  · refine .bind (.of_draws .draw) fun random => ?_
    exact .bind (.update fun _ => .tail (.single (.setHp player)) (.setScratch counts)) fun _ => remembered
  · exact remembered

theorem edits_scoutRound (player : scope.sprite .player) : ReflTransGen (Edit scope) game game.scoutRound := by
  have hides : ∀ counted, ReflTransGen (Edit scope) game counted → ReflTransGen (Edit scope) game
      (if 3 < counted.character.player.stats.scratch then
        counted.setFlags .player (counted.flags .player &&& ~~~isVisible) else counted).remember := by
    intro counted steps
    have remembered : ∀ now : Game, Edit scope now now.remember :=
      fun _ => .other ⟨fun plain => ⟨plain.terrain, plain.exit⟩, rfl, rfl, rfl, rfl, rfl, rfl⟩ rfl fun _ => rfl
    refine .tail ?_ (remembered _)
    split
    · exact .tail steps (.clearMask player)
    · exact steps
  rw [Game.scoutRound]
  apply hides
  split
  · exact .single (.setScratch player)
  · exact .tail (.single (.setScratch player)) (.setMask player)

theorem edits_characterRound {level : Nat} (all : ∀ sprite, scope.sprite sprite) :
    Makes (Edit scope) (characterRound level) := by
  refine .state_bind fun now => ?_
  split
  · split
    · exact edits_clericRound (all _) (all _)
    · exact .halt _
  · split
    · exact .update fun _ => edits_scoutRound (all _)
    · exact .pure _

/-! ## Creation -/

theorem edits_createTile {coasts : Coasts} {tile : TileIndex} : Makes (Edit scope) (createTile coasts tile) := by
  have noItem : has 0 isItem = false := by decide
  have noSprite : has 0 (isCreature ||| isPlayer) = false := by decide
  have created : ∀ now terrain, ReflTransGen (Edit scope) now (Game.setTerrain tile terrain now) :=
    fun now terrain => .tail (.single (.renewTile noItem noSprite)) .relinked
  have flagged : ∀ now (sets : Bool) (flags : BitVec 32), has flags isItem = false →
      has flags (isCreature ||| isPlayer) = false →
        ReflTransGen (Edit scope) now (if sets then now.setTerrainFlags tile flags else now) := by
    intro now sets flags noItem noSprite
    split
    · exact .single (.renewTile noItem noSprite)
    · exact .refl
  refine .bind (.of_draws chooseTerrain_draws) fun terrain => .bind (.update fun now => created now terrain) fun _ => ?_
  refine .bind (.of_draws coin_draws) fun reverse =>
    .bind (.update fun now => flagged now _ _ (by decide) (by decide)) fun _ => ?_
  exact .bind (.of_draws flipTerrain_draws) fun flipped => .update fun now => flagged now _ _ (by decide) (by decide)

theorem edits_worldCreateRandom {coasts : Coasts} : Makes (Edit scope) (worldCreateRandom coasts) := by
  have all : ∀ tiles, Makes (Edit scope) (Program.each (createTile coasts) tiles) :=
    fun _ => .each fun _ _ => edits_createTile
  rw [worldCreateRandom_eq]
  exact all _

/-- A player who looks around, wherever it is. -/
theorem wlp_playerLook : Wlp playerLook (fun _ later => Looked game later) game := by
  simp only [playerLook, wlp_state_bind]
  refine @Wlp.each _ _ _ game lookAt (Looked game) _ ⟨game.terrain, rfl, fun _ => rfl⟩ ?_
  intro place _ now looked
  simp only [lookAt, wlp_state_bind]
  split
  · rw [wlp_update]
    exact looked.reveal _
  · exact wlp_halt _

theorem edits_playerLook : Makes (Edit scope) playerLook := by
  refine .state_bind fun now => .each fun place _ => .state_bind fun now => ?_
  split
  · exact .update fun _ => .single (.reveal (by decide) (by decide))
  · exact .halt _

theorem edits_appendAt {node : Node} {tile : Option TileIndex} : Makes (Edit scope) (appendAt node tile) := by
  cases tile with
  | none => exact .halt _
  | some tile => exact edits_append

/-- A program that goes on with a random place. -/
theorem edits_randomPlace {suits : Int → Int → Int → Bool} {next : Int × Int → Play Unit}
    (goes : ∀ x y, Board.Inside x y → Makes (Edit scope) (next (x, y))) :
    Makes (Edit scope) (randomPlace suits >>= next) := by
  have places : ∀ now, Wlp (randomPlace suits)
      (fun place later => Board.Inside place.1 place.2 ∧ ReflTransGen (Edit scope) now later) now := by
    intro now
    apply Wp.wlp
    apply wp_randomPlace
    intro x y grid
    exact ⟨grid, .refl⟩
  exact .bind_of places fun place grid => goes place.1 place.2 grid

theorem sameMotion_assign {kind : CreatureKind} {value : SpriteTile} : SameMotion (kind.assign value) value where
  effect := .tile
  action attack := by
    cases attack with
    | first => exact .tile
    | second => exact .refl
  world := rfl

theorem creatureKind_noItem (i : Nat) (roll : BitVec 32) : has (creatureKind i roll).tileFlags isItem = false := by
  simp only [creatureKind]
  repeat' split
  all_goals simp only [giantBeetle, bat, landSquid, whiteShark, manticore, giantRat, dragonWasp]
  all_goals decide

theorem edits_createCreature {i : CreatureIndex} (inside : scope.sprite (.creature i)) :
    Makes (Edit scope) (createCreature i) := by
  refine .bind (.of_draws .draw) fun roll => ?_
  refine .bind (.update fun now => ?initial) fun _ => .bind (.update fun now => ?kind) fun _ => .state_bind fun now => ?_
  case initial =>
    split
    next early => exact .single (.renew inside early)
    · exact .refl
  case kind =>
    have assigned : Edit scope now
        (now.setSprite (.creature i) ((creatureKind i roll).assign (now.creatures i))) :=
      .setSprite inside sameMotion_assign (.plain (creatureKind_noItem i roll))
    exact .tail (.single assigned) (.other ⟨fun plain => ⟨plain.terrain, plain.exit⟩, rfl, rfl, rfl, rfl, rfl, rfl⟩ rfl fun _ => rfl)
  apply edits_randomPlace
  intro x y grid
  refine .bind (.update fun _ => .single (.place inside grid)) fun _ => .state_bind fun now => ?_
  exact edits_appendAt

theorem edits_createExit : Makes (Edit scope) createExit := by
  apply edits_randomPlace
  intro x y _
  refine .bind (.update fun _ => .single (.openExit (by decide) (by decide))) fun _ => ?_
  refine .bind (.update fun now => ?_) fun _ => edits_appendAt
  cases tileAt x y with
  | none => exact .refl
  | some tile => exact .single (.reveal (by decide) (by decide))

theorem edits_placePlayer (inside : scope.sprite .player) : Makes (Edit scope) placePlayer := by
  apply edits_randomPlace
  intro x y grid
  refine .bind (.update fun _ => .single (.enter inside)) fun _ => ?_
  exact .bind (.update fun _ => .single (.place inside grid)) fun _ => edits_appendAt

theorem edits_creaturesOf {level : Nat} : Makes (Edit scope) (creaturesOf level) := by
  rw [creaturesOf]
  split
  · exact .pure _
  · exact .halt _

/-! ## Touches -/

theorem makes_spriteMoveCallback (timed : scope.timed) (inside : scope.sprite sprite) :
    Makes (Touch scope) (spriteMoveCallback sprite context) :=
  makes_of_edits (edits_spriteMoveCallback timed inside)

theorem makes_spriteMove {x y : Int} (timed : scope.timed) (inside : scope.sprite sprite) :
    Makes (Touch scope) (spriteMove sprite x y) :=
  makes_of_edits (edits_spriteMove timed inside)

theorem makes_attackCallback {attack : Attack} (timed : scope.timed) (inside : scope.sprite attacker) :
    Makes (Touch scope) (attackCallback attacker attack context) :=
  makes_of_edits (edits_attackCallback timed inside)

theorem makes_rollDamage {affect : Nat} (inside : scope.sprite attacker) :
    Makes (Touch scope) (rollDamage attacker affect) :=
  makes_of_edits (edits_rollDamage inside)

theorem touches_die (inside : scope.sprite sprite) : ReflTransGen (Touch scope) game (game.die sprite) :=
  touches_of_edits (edits_die inside)

theorem makes_creatureAttack {attack : Attack} (timed : scope.timed) (attacks : scope.sprite attacker)
    (hit : scope.sprite attacked) (scored : scope.scored) :
    Makes (Touch scope) (creatureAttack attacker attack attacked) :=
  makes_of_edits (edits_creatureAttack timed attacks hit scored)

theorem makes_wander (timed : scope.timed) (acts : scope.sprite sprite) : Makes (Touch scope) (wander sprite) :=
  makes_of_edits (edits_wander timed acts)

theorem makes_clericRound {counter : CreatureIndex} (player : scope.sprite .player)
    (counts : scope.sprite (.creature counter)) : Makes (Touch scope) (clericRound counter) :=
  makes_of_edits (edits_clericRound player counts)

theorem touches_scoutRound (player : scope.sprite .player) : ReflTransGen (Touch scope) game game.scoutRound :=
  touches_of_edits (edits_scoutRound player)

theorem makes_playerLook : Makes (Touch scope) playerLook := makes_of_edits edits_playerLook

theorem makes_createCreature {i : CreatureIndex} (inside : scope.sprite (.creature i)) :
    Makes (Touch scope) (createCreature i) :=
  makes_of_edits (edits_createCreature inside)

theorem makes_createExit : Makes (Touch scope) createExit := makes_of_edits edits_createExit

theorem makes_placePlayer (inside : scope.sprite .player) : Makes (Touch scope) placePlayer :=
  makes_of_edits (edits_placePlayer inside)

end Functions

/-- All sprites, but neither a timer nor the score. -/
def Scope.quiet : Scope where
  sprite _ := True
  timed := False
  scored := False

def Scope.whole : Scope where
  sprite _ := True
  timed := True
  scored := True

abbrev Touches (scope : Scope) : Game → Game → Prop := ReflTransGen (Touch scope)

/-- What `game_start` does: the level is created, and then the round timer is scheduled. -/
def Begins (game later : Game) : Prop := ∃ mid, Touches .quiet game mid ∧ later = mid.scheduleRound

theorem wlp_gameStart : Wlp gameStart (fun _ later => Begins game later) game := by
  have counts : Makes (Touch .quiet) (creaturesOf game.world.level) := makes_of_edits edits_creaturesOf
  have creates : ∀ creatures, Makes (Touch .quiet) (Program.each createCreature creatures) :=
    fun creatures => .each fun i _ => makes_createCreature trivial
  have leaves : Makes (Touch .quiet) createExit := makes_createExit
  have places : Makes (Touch .quiet) placePlayer := makes_placePlayer trivial
  have looks : Makes (Touch .quiet) playerLook := makes_playerLook
  simp only [gameStart, wlp_state_bind]
  refine counts.wlp_bind fun creatures first toFirst => ?_
  refine (creates creatures).wlp_bind fun _ second toSecond => ?_
  refine leaves.wlp_bind fun _ third toThird => ?_
  refine places.wlp_bind fun _ fourth toFourth => ?_
  refine looks.wlp_bind fun _ last toLast => ?_
  rw [wlp_update]
  exact ⟨last, toFirst.trans (toSecond.trans (toThird.trans (toFourth.trans toLast))), rfl⟩

/-! ## Levels and rounds -/

theorem sameMotion_wizardLevel {score : Nat} {player : SpriteTile} : SameMotion (wizardLevel score player) player := by
  rw [wizardLevel]
  split
  · refine .stats .refl ?_
    dsimp only
    split
    · split
      · exact .tile
      · exact .refl
    · exact .refl
  · exact .refl

/-- The level behind a level. -/
def nextLevel (level : Nat) : Nat := if level < maxCreatures - 1 then level + 1 else level

/-- The round timer is cancelled, if there is one. -/
def Game.stopRound (game : Game) : Game := if game.world.round.isSome then game.cancelRound else game

/-- What `game_level_up` does: the level is counted between changes of the player and of the terrain. -/
def LevelsUp (game later : Game) : Prop :=
  ∃ before, Touches .quiet (Game.stopRound game) before ∧
    Begins { before with world := { before.world with level := nextLevel before.world.level } } later

theorem wlp_gameLevelUp : Wlp gameLevelUp (fun _ later => LevelsUp game later) game := by
  have levels : ∀ now : Game, (if now.world.level < maxCreatures - 1 then
      { now with world := { now.world with level := now.world.level + 1 } } else now) =
        { now with world := { now.world with level := nextLevel now.world.level } } := by
    intro now
    rw [nextLevel]
    split <;> rfl
  rw [gameLevelUp]
  simp only [wlp_update_bind, levels, wlp_state_bind]
  have creates : ∀ coasts, Makes (Touch .quiet) (worldCreateRandom coasts) := fun _ => makes_of_edits edits_worldCreateRandom
  refine (creates _).wlp_bind fun _ created steps => ?_
  apply wlp_gameStart.mono
  rintro _ later ⟨mid, begins, rfl⟩
  refine ⟨_, .single (.sprite trivial sameMotion_wizardLevel), mid, steps.trans begins, rfl⟩

theorem wlp_gameRound :
    Wlp gameRound (fun _ later => ∃ mid, Touches .whole game mid ∧ (later = mid.scheduleRound ∨ later = mid.cancelRound))
      game := by
  have counts : Makes (Touch .whole) (creaturesOf game.world.level) := makes_of_edits edits_creaturesOf
  have turns : ∀ creatures, Makes (Touch .whole) (Program.each creatureTurn creatures) :=
    fun creatures => .each fun i _ => makes_of_edits (edits_creatureTurn trivial (fun _ => trivial) trivial)
  have character : Makes (Touch .whole) (characterRound game.world.level) :=
    makes_of_edits (edits_characterRound fun _ => trivial)
  simp only [gameRound, wlp_state_bind]
  split
  · refine counts.wlp_bind fun creatures first toFirst => ?_
    refine (turns creatures).wlp_bind fun _ second toSecond => ?_
    rw [wlp_state_bind]
    split
    · refine character.wlp_bind fun _ last toLast => ?_
      rw [wlp_update]
      exact ⟨last, toFirst.trans (toSecond.trans toLast), .inl rfl⟩
    · rw [wlp_update]
      exact ⟨second, toFirst.trans toSecond, .inr rfl⟩
  · exact Wlp.bind (wlp_halt _)

/-! ## The player -/

section Player

variable {scope : Scope} {context : TileIndex}

theorem path_strengthen {attack : Attack} {affect range : Nat} {tileNum : Int} {stats : SpriteStats} :
    SamePath (stats.strengthen attack affect range tileNum).first.effect stats.first.effect ∧
      SamePath (stats.strengthen attack affect range tileNum).second.effect stats.second.effect := by
  cases attack with
  | first => exact ⟨.tile, .refl⟩
  | second => exact ⟨.refl, .tile⟩

/-- The actions of a player with other abilities are where they were. -/
def KeepsPaths (change : SpriteStats → SpriteStats) : Prop :=
  ∀ stats, SamePath (change stats).first.effect stats.first.effect ∧
    SamePath (change stats).second.effect stats.second.effect

theorem paths_wearArmour (tileNum : Int) : KeepsPaths (wearArmour tileNum) := by
  intro stats
  simp only [wearArmour]
  repeat' split
  all_goals exact ⟨.refl, .refl⟩

theorem paths_wieldWeapon (tileNum : Int) : KeepsPaths (wieldWeapon tileNum) := by
  intro stats
  simp only [wieldWeapon]
  repeat' split
  all_goals first | exact ⟨.refl, .refl⟩ | exact path_strengthen

theorem paths_channelMagic : KeepsPaths channelMagic := fun _ => ⟨.tile, .tile⟩

theorem SamePath.trans {first second third : EffectTile} (after : SamePath third second) (before : SamePath second first) :
    SamePath third first where
  count := after.count.trans before.count
  locationX := after.locationX.trans before.locationX
  locationY := after.locationY.trans before.locationY
  destinationX := after.destinationX.trans before.destinationX
  destinationY := after.destinationY.trans before.destinationY

theorem KeepsPaths.comp {change change' : SpriteStats → SpriteStats} (after : KeepsPaths change')
    (before : KeepsPaths change) : KeepsPaths fun stats => change' (change stats) := by
  intro stats
  exact ⟨(after _).1.trans (before stats).1, (after _).2.trans (before stats).2⟩

/-- What an item does, in the two parts in which it does it. -/
theorem paths_equip (tileNum : Int) : KeepsPaths (equip tileNum) := by
  have worn : KeepsPaths fun stats =>
      if tileNum = itemArmourLeather then { stats with ac := stats.ac + 1 }
      else if ¬ has stats.flags classWizard then wieldWeapon tileNum (wearArmour tileNum stats)
      else if tileNum = itemPowerStaff then channelMagic stats
      else stats := by
    intro stats
    dsimp only
    repeat' split
    · exact ⟨.refl, .refl⟩
    · exact (paths_wieldWeapon tileNum).comp (paths_wearArmour tileNum) stats
    · exact paths_channelMagic stats
    · exact ⟨.refl, .refl⟩
  have blessed : KeepsPaths fun stats =>
      if tileNum = itemHelmet then { stats with ac := stats.ac + 1 }
      else if tileNum = itemLightningSword ∧ has stats.flags classCleric then channelMagic stats
      else stats := by
    intro stats
    dsimp only
    repeat' split
    · exact ⟨.refl, .refl⟩
    · exact paths_channelMagic stats
    · exact ⟨.refl, .refl⟩
  exact blessed.comp worn

theorem touch_setStats {stats : SpriteStats} (inside : scope.sprite .player)
    (first : SamePath stats.first.effect game.character.player.stats.first.effect)
    (second : SamePath stats.second.effect game.character.player.stats.second.effect) :
    Touch scope game (game.setStats stats) :=
  .sprite inside (.stats first second)

theorem makes_storeItem {item : Tile} : Makes (Touch scope) (storeItem item) := by
  refine .state_bind fun now => ?_
  split
  · exact .update fun _ => .single (.other ⟨fun plain => ⟨plain.terrain, plain.exit⟩, rfl, rfl, rfl, rfl, rfl, rfl⟩)
  · exact .halt _

/-- An item that is taken is drunk or stored, and then leaves the list of its tile. -/
theorem wlp_takeItem_of {post : Game → Prop} {node : Node}
    (drinks : post (game.setStats { game.character.player.stats with hp := game.character.player.stats.hp + 8 }))
    (stores : (game.tileOf node).tileNum ≠ itemPotion → Wlp (storeItem (game.tileOf node)) (fun _ => post)
      (game.setStats (equip (game.tileOf node).tileNum game.character.player.stats)))
    (leaves : ∀ now taken, post now → post { now.unlink node with taken }) : Wlp (takeItem node) (fun _ => post) game := by
  have left : ∀ {now : Game} {mark : Game → Game}, (∀ now, ∃ taken, mark now = { now with taken }) → post now →
      Wlp ((Program.update (Game.unlink node) : Play Unit) >>= fun _ => Program.update mark) (fun _ => post) now := by
    intro now mark marks held
    obtain ⟨taken, same⟩ := marks (now.unlink node)
    rw [wlp_update_bind, wlp_update, same]
    exact leaves now taken held
  simp only [takeItem, wlp_state_bind]
  split
  · rw [wlp_update_bind]
    refine left (fun now => ?_) drinks
    split <;> exact ⟨_, rfl⟩
  next noPotion =>
    rw [wlp_update_bind]
    apply Wlp.bind
    apply (stores noPotion).mono
    intro _ mid stored
    refine left (fun now => ?_) stored
    split <;> exact ⟨_, rfl⟩

/-- The player takes the first item of the tile if it carries none like it, or leaves all as it is. -/
theorem wlp_pickUp_of {post : Game → Prop} (stays : post game)
    (takes : ∀ node, findItem context game = .ok (some node) → carries (game.tileOf node).tileNum game.character = false →
      Wlp (takeItem node) (fun _ => post) game) : Wlp (pickUp context) (fun _ => post) game := by
  simp only [pickUp, wlp_state_bind]
  split
  · apply Wlp.bind
    apply Wlp.look
    intro found finds
    cases found with
    | none => exact (wlp_pure _).mpr stays
    | some node =>
      simp only
      split
      · exact (wlp_pure _).mpr stays
      next missing => exact takes node finds (Bool.eq_false_iff.mpr missing)
  · exact (wlp_pure _).mpr stays

theorem makes_takeItem {node : Node} (inside : scope.sprite .player) : Makes (Touch scope) (takeItem node) := by
  have stores : ∀ item, Makes (Touch scope) (storeItem item) := fun _ => makes_storeItem
  intro now
  apply wlp_takeItem_of
  · exact .single (touch_setStats inside .refl .refl)
  · intro _
    obtain ⟨first, second⟩ := paths_equip (now.tileOf node).tileNum now.character.player.stats
    exact (stores _ _).mono fun _ mid stored => .head (touch_setStats inside first second) stored
  · intro mid taken steps
    have unlinked : ReflTransGen (Touch scope) now (mid.unlink node) := steps.tail .relinked
    exact unlinked.tail (.other ⟨fun plain => ⟨plain.terrain, plain.exit⟩, rfl, rfl, rfl, rfl, rfl, rfl⟩)

theorem makes_pickUp (inside : scope.sprite .player) : Makes (Touch scope) (pickUp context) :=
  fun now => wlp_pickUp_of .refl fun _ _ _ => makes_takeItem inside now

/-- Whether the end of a move of the player is at an exit. -/
def LeavesLevel (context : TileIndex) (game : Game) : Prop :=
  completes game.character.player.effect = true ∧ has (game.terrain context).flags worldExit = true

/-- Nothing but the sprites changes when an effect goes on. -/
theorem terrain_advance {place : EffectAt} : (game.advance place).terrain = game.terrain := by
  rw [Game.advance]
  split
  · cases place with
    | sprite sprite => cases sprite <;> rfl
    | action sprite attack => cases sprite <;> rfl
  · rfl

/-- The last step of an effect leaves it inactive. -/
theorem count_advance (game : Game) :
    (game.advance (.sprite .player)).character.player.effect.count = 0 ↔
      completes game.character.player.effect = true := by
  cases advance_cases .player game with
  | inl goesOn => exact ⟨fun zero => absurd zero goesOn.1, fun done => absurd (done.symm.trans goesOn.2.1) (by simp)⟩
  | inr last => exact ⟨fun _ => last.2.1, fun _ => last.1⟩

/-- `player_move_callback`: a move ends at the exit, or the level goes on. -/
theorem wlp_playerMoveCallback (inside : scope.sprite .player) (timed : scope.timed) :
    Wlp (playerMoveCallback context) (fun _ later =>
      (LeavesLevel context game ∧ ∃ mid, ReflTransGen (Touch ⟨scope.sprite, False, False⟩) game mid ∧ LevelsUp mid later) ∨
        (¬ LeavesLevel context game ∧ ReflTransGen (Touch scope) game later)) game := by
  have relinks : Makes (Touch ⟨scope.sprite, False, False⟩) (relink .player) := makes_of_edits edits_relink
  have picks : Makes (Touch scope) (pickUp context) := makes_pickUp inside
  have advanced : Touch ⟨scope.sprite, False, False⟩ game (game.advance (.sprite .player)) := .advance inside
  have widen : ∀ {now later : Game}, ReflTransGen (Touch ⟨scope.sprite, False, False⟩) now later →
      ReflTransGen (Touch scope) now later :=
    fun steps => ReflTransGen.mono (fun _ _ touch => touch.mono (fun _ => id) False.elim False.elim) _ _ steps
  simp only [playerMoveCallback, wlp_update_bind, wlp_state_bind]
  split
  next ends =>
    have done := (count_advance game).mp ends
    -- neither the links nor looking around changes where the exit is
    have relinked : Wlp (relink .player) (fun _ later => later.terrain = game.terrain ∧
        ReflTransGen (Touch ⟨scope.sprite, False, False⟩) game later) (game.advance (.sprite .player)) := by
      refine Wlp.and ?_ ((relinks _).mono fun _ _ steps => .head advanced steps)
      exact wlp_relink_terrain.mono fun _ later same => same.trans terrain_advance
    apply Wlp.bind
    apply relinked.mono
    rintro _ placed ⟨terrain, steps⟩
    have looks : Makes (Touch ⟨scope.sprite, False, False⟩) playerLook := makes_playerLook
    apply Wlp.bind
    apply (wlp_playerLook.and (looks placed)).mono
    rintro _ _ ⟨⟨revealed, rfl, exits⟩, more⟩
    have looked : ReflTransGen (Touch ⟨scope.sprite, False, False⟩) game { placed with terrain := revealed } :=
      steps.trans more
    rw [wlp_state_bind]
    rw [terrain] at exits
    by_cases leaves : has (revealed context).flags worldExit = true
    · rw [if_pos leaves]
      refine wlp_gameLevelUp.mono fun _ later levels => .inl ⟨⟨done, ?_⟩, _, looked, levels⟩
      rw [← exits]
      exact leaves
    · rw [if_neg leaves]
      refine (picks _).mono fun _ later picked => .inr ⟨?_, (widen looked).trans picked⟩
      rintro ⟨_, isExit⟩
      exact leaves ((exits context).trans isExit)
  next goesOn =>
    rw [wlp_update]
    refine .inr ⟨?_, (widen (.single advanced)).tail (.again timed rfl)⟩
    rintro ⟨done, _⟩
    exact goesOn ((count_advance game).mpr done)

/-- `player_move`, which never ends at once: a move has more than one step. -/
theorem edits_playerMove {x y : Int} (inside : scope.sprite .player) (timed : scope.timed) :
    Makes (Edit scope) (playerMove x y) := by
  refine .state_bind fun now => ?_
  simp only
  split
  · exact .pure _
  · have starts : ∀ now, Wlp (startMove .playerMove .player x y) (fun started later =>
        (∀ context, started ≠ .polls context) ∧ ReflTransGen (Edit scope) now later) now := by
      intro now
      rw [startMove, wlp_change]
      have timerFits : ∀ context, GameTimer.fits (.effect .playerMove (.sprite .player) context) = true := fun _ => rfl
      refine ⟨?_, .single (.start timed inside timerFits)⟩
      cases startMove_cases .player x y now timerFits with
      | inl refused => simp [refused.1]
      | inr sent => simp [sent.1]
    refine .bind_of starts fun started notPolls => ?_
    cases started with
    | refused => exact .pure _
    | scheduled => exact .pure _
    | polls context => exact absurd rfl (notPolls context)

theorem edits_moveCommand {x y : Int} (inside : scope.sprite .player) (timed : scope.timed) :
    Makes (Edit scope) (moveCommand x y) := by
  refine .state_bind fun now => ?_
  simp only
  split
  · exact .bind (edits_playerMove inside timed) fun _ => .pure _
  · exact .pure _

theorem edits_action (all : ∀ sprite, scope.sprite sprite) (timed : scope.timed) (scored : scope.scored) :
    Makes (Edit scope) action := by
  refine .state_bind fun now => ?_
  split
  · refine .bind .look fun found => ?_
    cases found with
    | none => exact .pure _
    | some nearby =>
      refine .bind .look fun attack => ?_
      cases attack with
      | none => exact .pure _
      | some attack => exact edits_creatureAttack timed (all _) (all _) scored
  · exact .pure _

theorem makes_moveCommand {x y : Int} (inside : scope.sprite .player) (timed : scope.timed) :
    Makes (Touch scope) (moveCommand x y) :=
  makes_of_edits (edits_moveCommand inside timed)

theorem makes_action (all : ∀ sprite, scope.sprite sprite) (timed : scope.timed) (scored : scope.scored) :
    Makes (Touch scope) action :=
  makes_of_edits (edits_action all timed scored)

end Player

/-! ## Starting a game -/

/-- The grid of a game that starts. -/
def Game.openGrid (game : Game) : Game :=
  { game with world := { game.world with x := gameGridWidth, y := gameGridHeight, level := 0, score := 0 } }

/-- A new player. -/
def Game.enroll (player : SpriteTile) (game : Game) : Game :=
  { game with
    links := Function.update game.links (.sprite .player) {}
    character := { player, items := [] }
    world := { game.world with level := 1, score := 0 } }

theorem wlp_playerCreateRandom :
    Wlp playerCreateRandom (fun _ later =>
      ∃ str dex con intel wis, later = Game.enroll (rolledPlayer str dex con intel wis) game) game := by
  apply Wlp.bind_draws threeDice_draws
  intro str
  apply Wlp.bind_draws threeDice_draws
  intro dex
  apply Wlp.bind_draws threeDice_draws
  intro con
  apply Wlp.bind_draws threeDice_draws
  intro intel
  apply Wlp.bind_draws threeDice_draws
  intro wis
  apply Wlp.bind
  apply Wlp.draw
  intro _
  rw [wlp_update]
  exact ⟨str, dex, con, intel, wis, rfl⟩

/-- What `GameStart` does. -/
def StartsGame (game later : Game) : Prop :=
  ∃ created str dex con intel wis last, Touches .quiet (Game.openGrid (Game.stopRound game)) created ∧
    Begins (Game.enroll (rolledPlayer str dex con intel wis) created) last ∧ later = { last with gameUp := true }

theorem wlp_gameStartCommand :
    Wlp gameStartCommand (fun _ later =>
      (game.screenUp = true ∧ StartsGame game later) ∨ (game.screenUp = false ∧ later = game)) game := by
  have creates : Makes (Touch .quiet) (worldCreateRandom {}) := makes_of_edits edits_worldCreateRandom
  rw [gameStartCommand, wlp_state_bind]
  split
  next up =>
    rw [wlp_update_bind, wlp_update_bind]
    refine creates.wlp_bind fun _ created steps => ?_
    apply Wlp.bind
    apply wlp_playerCreateRandom.mono
    rintro _ _ ⟨str, dex, con, intel, wis, rfl⟩
    apply Wlp.bind
    apply wlp_gameStart.mono
    intro _ last begins
    rw [wlp_update]
    exact .inl ⟨up, created, str, dex, con, intel, wis, last, steps, begins, rfl⟩
  next down =>
    rw [wlp_pure]
    exact .inr ⟨by simpa using down, rfl⟩

/-! ## Steps -/

section Steps

variable {post : Game → Prop}

/-- The commands start the game, pause it, attack or move the player. -/
theorem wlp_command_of {typed : Command} (starts : typed = .gameStart → Wlp gameStartCommand (fun _ => post) game)
    (pauses : typed = .gamePause → post (gamePause game)) (attacks : typed = .action → Wlp action (fun _ => post) game)
    (moves : ∀ x y, Wlp (moveCommand x y) (fun _ => post) game) : Wlp typed.run (fun _ => post) game := by
  cases typed with
  | gameStart => exact starts rfl
  | gamePause => exact (wlp_update _).mpr (pauses rfl)
  | action => exact attacks rfl
  | north => exact moves _ _
  | south => exact moves _ _
  | east => exact moves _ _
  | west => exact moves _ _
  | northEast => exact moves _ _
  | northWest => exact moves _ _
  | southEast => exact moves _ _
  | southWest => exact moves _ _

/-- The timers of the game call one of four functions. -/
theorem wlp_callback_of {timer : GameTimer} (round : timer = .round → Wlp gameRound (fun _ => post) game)
    (moves : ∀ sprite context, timer = .effect .spriteMove (.sprite sprite) context →
      Wlp (spriteMoveCallback sprite context) (fun _ => post) game)
    (player : ∀ context, timer = .effect .playerMove (.sprite .player) context →
      Wlp (playerMoveCallback context) (fun _ => post) game)
    (attacks : ∀ sprite attack context, timer = .effect .attack (.action sprite attack) context →
      Wlp (attackCallback sprite attack context) (fun _ => post) game) : Wlp timer.callback (fun _ => post) game := by
  cases timer with
  | round => exact round rfl
  | effect poll data context =>
    cases poll with
    | spriteMove =>
      cases data with
      | sprite sprite => exact moves sprite context rfl
      | action => exact wlp_halt _
    | playerMove =>
      cases data with
      | action => exact wlp_halt _
      | sprite sprite =>
        cases sprite with
        | creature => exact wlp_halt _
        | player => exact player context rfl
    | attack =>
      cases data with
      | sprite => exact wlp_halt _
      | action sprite attack => exact attacks sprite attack context rfl

/-- A step is a command, the firing of a timer of the game, or another timer that is taken or freed. -/
theorem wlp_event_of {event : GameEvent}
    (still : (∀ typed, event ≠ .command typed) → (∀ slot timer, event = .fire slot → game.timers slot ≠ .game timer) → post game)
    (command : ∀ typed, event = .command typed → Wlp typed.run (fun _ => post) game)
    (fire : ∀ slot timer, event = .fire slot → game.timers slot = .game timer →
      Wlp timer.callback (fun _ later => post (timerCancel (some slot) later)) game)
    (others : ∀ slot busy, event = .others slot busy → (∀ timer, game.timers slot ≠ .game timer) →
      post { game with timers := Function.update game.timers slot (if busy then .other else .free) }) :
    Wlp event.play (fun _ => post) game := by
  cases event with
  | command typed => exact command typed rfl
  | fire slot =>
    have waits : (∀ timer, game.timers slot ≠ .game timer) → post game := by
      intro noTimer
      apply still (by simp)
      rintro _ timer ⟨rfl⟩
      exact noTimer timer
    rw [GameEvent.play, wlp_state_bind]
    cases fires : game.timers slot with
    | game timer => exact Wlp.bind ((fire slot timer rfl fires).mono fun _ _ kept => (wlp_update _).mpr kept)
    | free => exact (wlp_pure _).mpr (waits (by simp [fires]))
    | other => exact (wlp_pure _).mpr (waits (by simp [fires]))
  | others slot busy =>
    rw [GameEvent.play, wlp_update]
    cases taken : game.timers slot with
    | game timer => exact still (by simp) (by simp)
    | free => exact others slot busy rfl (by simp [taken])
    | other => exact others slot busy rfl (by simp [taken])

end Steps

/-! ## Events -/

/-- What changes neither the sprites nor the size of the grid, and lets the timers fit. -/
structure SameSetup (game later : Game) : Prop where
  ground : PlainGround game → PlainGround later
  creatures : later.creatures = game.creatures
  player : later.character.player = game.character.player
  width : later.world.x = game.world.x
  height : later.world.y = game.world.y
  screenUp : later.screenUp = game.screenUp
  fits : (board game).timersFit → (board later).timersFit

/-- A step of the game in a run: it touches the sprites, or changes nothing of them and of the
    size of the grid, or starts a game. -/
inductive Change (starts : Prop) : Game → Game → Prop where
  | touch {game later : Game} (touch : Touch .whole game later) : Change starts game later
  | clock {game later : Game} (same : SameSetup game later) : Change starts game later
  | openGrid {game : Game} (start : starts) : Change starts game (Game.openGrid game)
  | enroll {game : Game} {str dex con intel wis : UInt8} (start : starts) :
      Change starts game (Game.enroll (rolledPlayer str dex con intel wis) game)

abbrev Changes (starts : Prop) : Game → Game → Prop := ReflTransGen (Change starts)

section Changes

variable {starts : Prop}

theorem Change.mono {wider : Prop} (change : Change starts game later) (weaker : starts → wider) : Change wider game later := by
  cases change with
  | touch touch => exact .touch touch
  | clock same => exact .clock same
  | openGrid start => exact .openGrid (weaker start)
  | enroll start => exact .enroll (weaker start)

theorem Touches.changes {scope : Scope} (steps : Touches scope game later) : Changes starts game later := by
  have widen : ∀ now later, Touch scope now later → Change starts now later := by
    intro now later touch
    exact .touch (touch.mono (fun _ _ => trivial) (fun _ => trivial) fun _ => trivial)
  exact ReflTransGen.mono widen _ _ steps

theorem timerSchedule_frame {timer : GameTimer} :
    ∃ timers, (timerSchedule timer game).2 = { game with timers } := by
  rw [timerSchedule]
  split
  · exact ⟨_, rfl⟩
  · exact ⟨game.timers, rfl⟩

theorem timerCancel_frame {slot : Option (Fin maxTimerTasks)} : ∃ timers, timerCancel slot game = { game with timers } := by
  cases slot with
  | none => exact ⟨game.timers, rfl⟩
  | some slot => exact ⟨_, rfl⟩

theorem change_scheduleRound : Change starts game game.scheduleRound := by
  have fits : (board game).timersFit → (board game.scheduleRound).timersFit := by
    rw [board_scheduleRound]
    exact id
  obtain ⟨timers, same⟩ := @timerSchedule_frame game .round
  simp only [Game.scheduleRound, same] at fits ⊢
  exact .clock ⟨fun plain => ⟨plain.terrain, plain.exit⟩, rfl, rfl, rfl, rfl, rfl, fits⟩

theorem change_cancelRound : Change starts game game.cancelRound := by
  have fits : (board game).timersFit → (board game.cancelRound).timersFit := by
    intro fits
    rw [board_cancelRound fits]
    exact fits
  obtain ⟨timers, same⟩ := @timerCancel_frame game game.world.round
  rw [Game.cancelRound, same] at fits ⊢
  exact .clock ⟨fun plain => ⟨plain.terrain, plain.exit⟩, rfl, rfl, rfl, rfl, rfl, fits⟩

theorem changes_stopRound : Changes starts game (Game.stopRound game) := by
  rw [Game.stopRound]
  split
  · exact .single change_cancelRound
  · exact .refl

theorem Begins.changes (begins : Begins game later) : Changes starts game later := by
  obtain ⟨mid, steps, rfl⟩ := begins
  exact (Touches.changes steps).tail change_scheduleRound

theorem LevelsUp.changes (levels : LevelsUp game later) : Changes starts game later := by
  obtain ⟨before, steps, begins⟩ := levels
  have counted : Change starts before { before with world := { before.world with level := nextLevel before.world.level } } :=
    .clock ⟨fun plain => ⟨plain.terrain, plain.exit⟩, rfl, rfl, rfl, rfl, rfl, id⟩
  exact changes_stopRound.trans ((Touches.changes steps).trans (.head counted begins.changes))

theorem StartsGame.changes (begun : StartsGame game later) (start : starts) : Changes starts game later := by
  obtain ⟨created, str, dex, con, intel, wis, last, steps, begins, rfl⟩ := begun
  have up : Change starts last { last with gameUp := true } := .clock ⟨fun plain => ⟨plain.terrain, plain.exit⟩, rfl, rfl, rfl, rfl, rfl, id⟩
  have created := (changes_stopRound.tail (Change.openGrid start)).trans (Touches.changes steps)
  exact ((created.tail (.enroll start)).trans begins.changes).tail up

theorem changes_gamePause : Changes starts game (gamePause game) := by
  rw [gamePause]
  split
  · exact .tail (.single change_cancelRound) (.clock ⟨fun plain => ⟨plain.terrain, plain.exit⟩, rfl, rfl, rfl, rfl, rfl, id⟩)
  · exact .tail (.single change_scheduleRound) (.clock ⟨fun plain => ⟨plain.terrain, plain.exit⟩, rfl, rfl, rfl, rfl, rfl, id⟩)

theorem makes_touches {program : Play Unit} (makes : Makes (Touch .whole) program) : Makes (Change starts) program :=
  makes.mono fun _ _ touch => .touch touch

theorem makes_command (typed : Command) : Makes (Change (typed = .gameStart)) typed.run := by
  have attacks : Makes (Change (typed = .gameStart)) action :=
    makes_touches (makes_action (fun _ => trivial) trivial trivial)
  have moves : ∀ x y, Makes (Change (typed = .gameStart)) (moveCommand x y) :=
    fun _ _ => makes_touches (makes_moveCommand trivial trivial)
  intro now
  apply wlp_command_of
  · intro isStart
    apply wlp_gameStartCommand.mono
    rintro _ later (⟨_, starts⟩ | ⟨_, rfl⟩)
    · exact starts.changes isStart
    · exact .refl
  · exact fun _ => changes_gamePause
  · exact fun _ => attacks now
  · exact fun x y => moves x y now

theorem makes_callback (timer : GameTimer) : Makes (Change starts) timer.callback := by
  have whole : Scope.whole.sprite .player := trivial
  have moves : ∀ sprite context, Makes (Change starts) (spriteMoveCallback sprite context) :=
    fun _ _ => makes_touches (makes_spriteMoveCallback trivial trivial)
  have attacks : ∀ sprite attack context, Makes (Change starts) (attackCallback sprite attack context) :=
    fun _ _ _ => makes_touches (makes_attackCallback trivial trivial)
  intro now
  apply wlp_callback_of
  · intro _
    apply wlp_gameRound.mono
    rintro _ _ ⟨mid, steps, rfl | rfl⟩
    · exact (Touches.changes steps).tail change_scheduleRound
    · exact (Touches.changes steps).tail change_cancelRound
  · exact fun sprite context _ => moves sprite context now
  · intro context _
    apply (wlp_playerMoveCallback whole trivial).mono
    rintro _ later (⟨_, mid, steps, levels⟩ | ⟨_, steps⟩)
    · exact (Touches.changes steps).trans levels.changes
    · exact Touches.changes steps
  · exact fun sprite attack context _ => attacks sprite attack context now

theorem makes_event (event : GameEvent) : Makes (Change (event = .command .gameStart)) event.play := by
  intro now
  apply wlp_event_of
  · exact fun _ _ => .refl
  · intro typed isCommand
    exact (makes_command typed).mono (fun _ _ change => change.mono fun isStart => isCommand.trans (congrArg _ isStart)) now
  · intro slot timer _ _
    refine (makes_callback timer now).mono fun _ mid steps => steps.tail ?_
    have fits : (board mid).timersFit → (board (timerCancel (some slot) mid)).timersFit := by
      intro fits
      rw [board_timerCancel fits]
      exact fits
    obtain ⟨timers, same⟩ := @timerCancel_frame mid (some slot)
    rw [same] at fits ⊢
    exact .clock ⟨fun plain => ⟨plain.terrain, plain.exit⟩, rfl, rfl, rfl, rfl, rfl, fits⟩
  · intro slot busy _ _
    have fits : (board now).timersFit →
        (board { now with timers := Function.update now.timers slot (if busy then .other else .free) }).timersFit := by
      intro fits
      have fit : TimerSlot.fits (if busy then .other else .free) = true := by
        cases busy <;> rfl
      rw [board_setTimer fits fit]
      exact fits
    exact .single (.clock ⟨fun plain => ⟨plain.terrain, plain.exit⟩, rfl, rfl, rfl, rfl, rfl, fits⟩)

end Changes

/-- An invariant of all steps holds in all runs. -/
theorem play_keeps {inv : Game → Prop} (kept : ∀ now later, Change True now later → inv now → inv later)
    {steps : List (GameEvent × List (BitVec 32))} (start : inv game) (runs : play game steps = .ok later) : inv later := by
  induction steps generalizing game with
  | nil =>
    obtain rfl : game = later := Except.ok.inj runs
    exact start
  | cons step steps ih =>
    have unfolded : play game (step :: steps) = (gameStep game step).bind fun next => play next steps := List.foldlM_cons
    rw [unfolded] at runs
    cases ran : gameStep game step with
    | error stop =>
      rw [ran] at runs
      cases runs
    | ok next =>
      rw [ran] at runs
      have makes := (makes_event step.1).mono fun _ _ change => change.mono fun _ => trivial
      exact ih ((makes.keeps kept start).exec ran) runs

/-! ## Timers -/

theorem timers_setSprite {value : SpriteTile} : (game.setSprite sprite value).timers = game.timers := by
  cases sprite <;> rfl

theorem timers_setEffect {place : EffectAt} {effect : EffectTile} : (game.setEffect place effect).timers = game.timers := by
  cases place <;> exact timers_setSprite

theorem Touch.timersFit {scope : Scope} (touch : Touch scope game later) (fits : (board game).timersFit) :
    (board later).timersFit := by
  have all : ∀ slot, TimerSlot.fits (game.timers slot) = true := fits
  have of_timers : ∀ now : Game, now.timers = game.timers → (board now).timersFit := by
    intro now same slot
    rw [same]
    exact all slot
  cases touch with
  | other same => exact of_timers _ same.timers
  | sprite _ _ => exact of_timers _ timers_setSprite
  | advance _ =>
    rw [Game.advance]
    split
    · exact of_timers _ timers_setEffect
    · exact fits
  | place _ _ => exact of_timers _ timers_setEffect
  | @renew i _ _ => exact of_timers _ (@timers_setSprite game (.creature i) (spriteInitialize (game.sprite (.creature i))))
  | enter _ => exact of_timers _ timers_setSprite
  | score _ => exact fits
  | again _ timerFits =>
    rw [board_again timerFits]
    exact fits
  | @start sprite _ x y _ _ timerFits =>
    cases startMove_cases sprite x y game timerFits with
    | inl refused =>
      rw [refused.2]
      exact fits
    | inr sent =>
      rw [sent.2.2]
      exact fits
  | launch _ _ =>
    rw [board_launch]
    exact fits

theorem Change.timersFit {starts : Prop} (change : Change starts game later) (fits : (board game).timersFit) :
    (board later).timersFit := by
  cases change with
  | touch touch => exact Touch.timersFit touch fits
  | clock same => exact same.fits fits
  | openGrid _ => exact fits
  | enroll _ => exact fits

/-- The timers of a game fit what they are for. -/
theorem timersFit_of_play {nullTileNum : Int} {timers : Fin maxTimerTasks → Bool} {steps : List (GameEvent × List (BitVec 32))}
    (runs : play (boot nullTileNum timers) steps = .ok later) : (board later).timersFit := by
  refine play_keeps (fun _ _ change => Change.timersFit change) ?_ runs
  intro slot
  change TimerSlot.fits (if timers slot then .other else .free) = true
  cases timers slot <;> rfl

end ComputerSystems.Verified
