import ComputerSystems.Verified.GridTouches
import ComputerSystems.Verified.GridLists

/-! # Where the sprites are

In every run of the game all sprites and the effects of their attacks are on the grid and
go to places on the grid, so that every index computed from their coordinates is one of a
tile.  No timer and no order of the commands changes that, as coordinates are only set to
places that have been drawn for the grid or that `GameGridTile` has found.

An effect that is not under way has arrived.  So `player_move` starts exactly the moves that
it should, but for one slip: an item that was picked up first does not count.
-/

namespace ComputerSystems.Verified

open ComputerSystems.Data ComputerSystems.VirtualWorld Relation

variable {game later : Game} {sprite : Sprite}

/-! ## Sprites on the grid -/

/-- An effect is on the grid, and so is where it goes. -/
structure EffectInside (effect : EffectTile) : Prop where
  location : Board.Inside effect.locationX effect.locationY
  destination : Board.Inside effect.destinationX effect.destinationY

/-- A sprite and its attacks are on the grid, and the sprite has arrived unless it moves. -/
structure SpritePlaced (value : SpriteTile) : Prop where
  effect : EffectInside value.effect
  action : ∀ attack, EffectInside (value.action attack).effect
  restsX : value.effect.count = 0 → value.effect.locationX = value.effect.destinationX
  restsY : value.effect.count = 0 → value.effect.locationY = value.effect.destinationY

/-- The grid has no size before the first game, and then the same for ever. -/
structure Placed (game : Game) : Prop where
  width : game.world.x = 0 ∨ game.world.x = gameGridWidth
  height : game.world.y = 0 ∨ game.world.y = gameGridHeight
  sprites : ∀ sprite, SpritePlaced (game.sprite sprite)

theorem EffectInside.same {effect before : EffectTile} (same : SamePath effect before) (inside : EffectInside before) :
    EffectInside effect where
  location := by
    rw [same.locationX, same.locationY]
    exact inside.location
  destination := by
    rw [same.destinationX, same.destinationY]
    exact inside.destination

theorem SpritePlaced.same {value before : SpriteTile} (same : SameMotion value before) (placed : SpritePlaced before) :
    SpritePlaced value where
  effect := placed.effect.same same.effect
  action attack := (placed.action attack).same (same.action attack)
  restsX rests := by
    rw [same.effect.locationX, same.effect.destinationX]
    exact placed.restsX (same.effect.count.symm.trans rests)
  restsY rests := by
    rw [same.effect.locationY, same.effect.destinationY]
    exact placed.restsY (same.effect.count.symm.trans rests)

theorem EffectInside.next {effect : EffectTile} (inside : EffectInside effect) : EffectInside (tileEffectNext effect) := by
  simp only [tileEffectNext]
  split
  · exact ⟨inside.destination, inside.destination⟩
  · exact ⟨inside.location, inside.destination⟩

/-- The next step of an effect that is under way ends it at its destination or leaves it under way. -/
theorem SpritePlaced.next {value : SpriteTile} (placed : SpritePlaced value) :
    SpritePlaced { value with effect := tileEffectNext value.effect } where
  effect := placed.effect.next
  action := placed.action
  restsX := by
    simp only [tileEffectNext]
    split
    · exact fun _ => rfl
    · exact fun rests => absurd rests (Nat.succ_ne_zero _)
  restsY := by
    simp only [tileEffectNext]
    split
    · exact fun _ => rfl
    · exact fun rests => absurd rests (Nat.succ_ne_zero _)

theorem SpritePlaced.setAction {value : SpriteTile} {attack : Attack} {action : ActionTile} (placed : SpritePlaced value)
    (inside : EffectInside action.effect) : SpritePlaced (value.setAction attack action) := by
  cases attack with
  | first =>
    refine ⟨placed.effect, fun other => ?_, placed.restsX, placed.restsY⟩
    cases other with
    | first => exact inside
    | second => exact placed.action .second
  | second =>
    refine ⟨placed.effect, fun other => ?_, placed.restsX, placed.restsY⟩
    cases other with
    | first => exact placed.action .first
    | second => exact inside

theorem inside_zero : Board.Inside 0 0 := ⟨by decide, by decide, by decide, by decide⟩

/-- `sprite_initialize` keeps the vertical coordinates of the attacks. -/
theorem SpritePlaced.initialized {value : SpriteTile} (placed : SpritePlaced value) :
    SpritePlaced (spriteInitialize value) where
  effect := ⟨inside_zero, inside_zero⟩
  action attack := by
    obtain ⟨location, destination⟩ := placed.action attack
    have corner : ∀ {x y : Int}, Board.Inside x y → Board.Inside 0 y :=
      fun inside => ⟨by decide, by decide, inside.2.2.1, inside.2.2.2⟩
    cases attack with
    | first => exact ⟨corner location, corner destination⟩
    | second => exact ⟨corner location, corner destination⟩
  restsX _ := rfl
  restsY _ := rfl

theorem SpritePlaced.empty : SpritePlaced {} := by
  refine ⟨⟨inside_zero, inside_zero⟩, fun attack => ?_, fun _ => rfl, fun _ => rfl⟩
  cases attack with
  | first => exact ⟨inside_zero, inside_zero⟩
  | second => exact ⟨inside_zero, inside_zero⟩

/-- A race does not change the actions. -/
theorem chooseRace_actions (stats : SpriteStats) :
    (chooseRace stats).first = stats.first ∧ (chooseRace stats).second = stats.second := by
  rw [chooseRace]
  repeat' split
  all_goals exact ⟨rfl, rfl⟩

theorem SpritePlaced.rolled {str dex con intel wis : UInt8} : SpritePlaced (rolledPlayer str dex con intel wis) := by
  constructor
  case effect =>
    simp only [rolledPlayer]
    exact ⟨inside_zero, inside_zero⟩
  case action =>
    intro attack
    cases attack with
    | first =>
      simp only [rolledPlayer, SpriteTile.action, chooseRace_actions]
      exact ⟨inside_zero, inside_zero⟩
    | second =>
      simp only [rolledPlayer, SpriteTile.action, chooseRace_actions]
      exact ⟨inside_zero, inside_zero⟩
  case restsX =>
    simp only [rolledPlayer]
    exact fun _ => rfl
  case restsY =>
    simp only [rolledPlayer]
    exact fun _ => rfl

/-! ## Steps -/

/-- The same sprites on a grid of the same size. -/
theorem Placed.congr (placed : Placed game) (width : later.world.x = game.world.x) (height : later.world.y = game.world.y)
    (sprites : ∀ sprite, later.sprite sprite = game.sprite sprite) : Placed later where
  width := by
    rw [width]
    exact placed.width
  height := by
    rw [height]
    exact placed.height
  sprites sprite := by
    rw [sprites]
    exact placed.sprites sprite

theorem Placed.setSprite {value : SpriteTile} (placed : Placed game) (fits : SpritePlaced value) :
    Placed (game.setSprite sprite value) where
  width := by
    rw [world_setSprite]
    exact placed.width
  height := by
    rw [world_setSprite]
    exact placed.height
  sprites other := by
    rw [sprite_setSprite]
    split
    · exact fits
    · exact placed.sprites other

theorem sprite_congr (creatures : later.creatures = game.creatures) (player : later.character.player = game.character.player)
    (sprite : Sprite) : later.sprite sprite = game.sprite sprite := by
  cases sprite with
  | player => exact player
  | creature i => exact congrFun creatures i

theorem Placed.found {x y : Int} {tile : TileIndex} (placed : Placed game) (found : gameGridTile game x y = some tile) :
    Board.Inside x y := by
  have width := placed.width
  have height := placed.height
  rw [gameGridTile] at found
  split at found
  · cases found
  · simp only [Board.Inside, gameGridWidth, gameGridHeight] at *
    omega

theorem world_setEffect {place : EffectAt} {effect : EffectTile} : (game.setEffect place effect).world = game.world := by
  cases place with
  | sprite sprite => exact world_setSprite
  | action sprite attack => exact world_setSprite

/-- An effect that has been started goes to a place on the grid, or is already there. -/
structure SentTo (game : Game) (x y : Int) (before effect : EffectTile) : Prop where
  found : ∃ tile, gameGridTile game x y = some tile
  destinationX : effect.destinationX = x
  destinationY : effect.destinationY = y
  location : (effect.count ≠ 0 ∧ effect.locationX = before.locationX ∧ effect.locationY = before.locationY) ∨
    (effect.locationX = x ∧ effect.locationY = y)

/-- What `TileEffectStart` does to the sprites. -/
theorem tileEffectStart_cases (place : EffectAt) (x y : Int) (game : Game) :
    (tileEffectStart place x y game).2 = game ∨
      ∃ effect, SentTo game x y (game.effect place) effect ∧
        (tileEffectStart place x y game).2.world = game.world ∧
        ∀ sprite, (tileEffectStart place x y game).2.sprite sprite = (game.setEffect place effect).sprite sprite := by
  simp only [tileEffectStart]
  split
  next tile _ found =>
    have started : SentTo game x y (game.effect place) (effectStart x y (game.effect place)) :=
      ⟨⟨tile, found⟩, rfl, rfl, .inl ⟨Nat.one_ne_zero, rfl, rfl⟩⟩
    split
    · exact .inl rfl
    · right
      split
      · exact ⟨_, ⟨⟨tile, found⟩, rfl, rfl, .inr ⟨rfl, rfl⟩⟩, world_setEffect, fun _ => rfl⟩
      · split
        next poll _ =>
          obtain ⟨timers, same⟩ := @timerSchedule_frame
            (game.setEffect place (effectStart x y (game.effect place))) (.effect poll place tile)
          refine ⟨_, started, ?_, ?_⟩
          · simp only [same]
            exact world_setEffect
          · intro sprite
            simp only [same]
            exact sprite_congr rfl rfl sprite
        · exact ⟨_, started, world_setEffect, fun _ => rfl⟩
  · exact .inl rfl

theorem SentTo.inside {x y : Int} {before effect : EffectTile} (sent : SentTo game x y before effect) (placed : Placed game)
    (inside : EffectInside before) : EffectInside effect := by
  obtain ⟨⟨tile, found⟩, toX, toY, location⟩ := sent
  have target := placed.found found
  constructor
  · rcases location with ⟨_, hereX, hereY⟩ | ⟨hereX, hereY⟩
    · rw [hereX, hereY]
      exact inside.location
    · rw [hereX, hereY]
      exact target
  · rw [toX, toY]
    exact target

/-- A sprite that starts to move. -/
theorem Placed.startSprite {x y : Int} (placed : Placed game) : Placed (tileEffectStart (.sprite sprite) x y game).2 := by
  obtain same | ⟨effect, sent, world, sprites⟩ := tileEffectStart_cases (.sprite sprite) x y game
  · rw [same]
    exact placed
  · have before := placed.sprites sprite
    have after : SpritePlaced { game.sprite sprite with effect } := by
      refine ⟨sent.inside placed before.effect, before.action, fun rests => ?_, fun rests => ?_⟩
      · rcases sent.location with ⟨moves, _⟩ | ⟨hereX, _⟩
        · exact absurd rests moves
        · rw [hereX, sent.destinationX]
      · rcases sent.location with ⟨moves, _⟩ | ⟨_, hereY⟩
        · exact absurd rests moves
        · rw [hereY, sent.destinationY]
    have sent : Placed (game.setSprite sprite { game.sprite sprite with effect }) := placed.setSprite after
    refine sent.congr ?_ ?_ sprites
    · rw [world, world_setSprite]
    · rw [world, world_setSprite]

/-- An attack that is started. -/
theorem Placed.startAction {attack : Attack} {x y : Int} (placed : Placed game) :
    Placed (tileEffectStart (.action sprite attack) x y game).2 := by
  obtain same | ⟨effect, sent, world, sprites⟩ := tileEffectStart_cases (.action sprite attack) x y game
  · rw [same]
    exact placed
  · have before := placed.sprites sprite
    have after : Placed (game.setEffect (.action sprite attack) effect) :=
      placed.setSprite (before.setAction (sent.inside placed (before.action attack)))
    refine after.congr ?_ ?_ sprites
    · rw [world, world_setEffect]
    · rw [world, world_setEffect]

/-- The timers of effects change no sprite. -/
theorem Placed.again {poll : EffectPoll} {place : EffectAt} {context : TileIndex} (placed : Placed game) :
    Placed (game.again poll place context) := by
  obtain ⟨timers, same⟩ := @timerSchedule_frame game (.effect poll place context)
  rw [Game.again, same]
  exact placed.congr rfl rfl (sprite_congr rfl rfl)

theorem Placed.advance {place : EffectAt} (placed : Placed game) : Placed (game.advance place) := by
  rw [Game.advance]
  split
  · cases place with
    | sprite sprite => exact placed.setSprite (placed.sprites sprite).next
    | action sprite attack =>
      have before := placed.sprites sprite
      exact placed.setSprite (before.setAction (before.action attack).next)
  · exact placed

theorem Placed.launch {attack : Attack} {attacked : Sprite} (placed : Placed game) :
    Placed (game.launch sprite attack attacked).2 := by
  have before := placed.sprites sprite
  refine Placed.startAction (placed.setSprite (before.setAction ?_))
  exact ⟨before.effect.location, (before.action attack).destination⟩

/-- Every step of a run keeps the sprites on the grid. -/
theorem Placed.change (placed : Placed game) {starts : Prop} (change : Change starts game later) : Placed later := by
  -- only the start and the completion of an effect change a place, and a start is to a tile
  cases change with
  | touch touch =>
    cases touch with
    | other same =>
      have world := same.world
      exact placed.congr (by rw [world]) (by rw [world]) (sprite_congr same.creatures same.player)
    | sprite _ same => exact placed.setSprite ((placed.sprites _).same same)
    | advance _ => exact placed.advance
    | @place sprite _ _ _ grid =>
      have before := placed.sprites sprite
      exact placed.setSprite ⟨⟨grid, grid⟩, before.action, fun _ => rfl, fun _ => rfl⟩
    | @renew i _ _ =>
      have renewed : Placed (game.setSprite (.creature i) _) := placed.setSprite (placed.sprites (.creature i)).initialized
      exact renewed.congr rfl rfl (sprite_congr rfl rfl)
    | enter _ =>
      have before := placed.sprites .player
      exact placed.setSprite ⟨before.effect, before.action, before.restsX, before.restsY⟩
    | score _ => exact placed.congr rfl rfl (sprite_congr rfl rfl)
    | again _ _ => exact placed.again
    | @start sprite _ _ _ _ _ _ =>
      have before := placed.sprites sprite
      exact Placed.startSprite (placed.setSprite ⟨⟨before.effect.location, before.effect.destination⟩, before.action,
        before.restsX, before.restsY⟩)
    | launch _ _ => exact placed.launch
  | clock same => exact placed.congr same.width same.height (sprite_congr same.creatures same.player)
  | openGrid _ => exact ⟨.inr rfl, .inr rfl, placed.sprites⟩
  | @enroll str dex con intel wis _ =>
    have rolled : Placed (game.setSprite .player (rolledPlayer str dex con intel wis)) :=
      placed.setSprite SpritePlaced.rolled
    exact rolled.congr rfl rfl (sprite_congr rfl rfl)

theorem placed_boot (nullTileNum : Int) (timers : Fin maxTimerTasks → Bool) : Placed (boot nullTileNum timers) where
  width := .inl rfl
  height := .inl rfl
  sprites sprite := by
    cases sprite with
    | player => exact .empty
    | creature i => exact .empty

theorem placed_of_play {nullTileNum : Int} {timers : Fin maxTimerTasks → Bool} {steps : List (GameEvent × List (BitVec 32))}
    (runs : play (boot nullTileNum timers) steps = .ok game) : Placed game :=
  play_keeps (fun _ _ change placed => Placed.change placed change) (placed_boot nullTileNum timers) runs

/-- A run of one step. -/
theorem play_single {step : GameEvent × List (BitVec 32)} : play game [step] = gameStep game step := by
  rw [play, List.foldlM_cons]
  exact bind_pure _

/-- A start on the meadow. -/
theorem meadow_starts : ∃ started, play (boot 0 fun _ => false) [(.command .gameStart, meadowDraws)] = .ok started ∧
    started.character.items = [] := by
  have passes : (gameStep (boot 0 fun _ => false) (.command .gameStart, meadowDraws)).toOption.any (fun started =>
      decide (started.character.items = [])) = true := by
    delta gameStep GameEvent.play Command.run gameStartCommand
    rw [worldCreateRandom_evenly]
    decide +kernel
  obtain ⟨started, starts, checked⟩ := exists_of_any passes
  exact ⟨started, play_single.trans starts, of_decide_eq_true checked⟩

/-! ## Moves of the player -/

/-- The terrain of a place on the grid. -/
def terrainAt (game : Game) (x y : Int) : Option Int :=
  (gameGridTile game x y).map fun tile => (game.terrain tile).tileNum

/-- What a move of the player takes: no other is under way, the target is on the grid, and the
    player carries what its terrain asks for. -/
structure MayMove (game : Game) (x y : Int) : Prop where
  idle : game.character.player.effect.count = 0
  grid : 0 ≤ x ∧ x < game.world.x ∧ 0 ≤ y ∧ y < game.world.y
  boots : terrainAt game x y = some terrainMountains → carries itemMagicBoots game.character = true
  belt : terrainAt game x y = some terrainWater → carries itemMagicBelt game.character = true

/-- `player_move` starts the move, or returns -1 and leaves the player where it is. -/
def MovesIfMay (game : Game) (x y : Int) : Prop :=
  ∀ draws, ∃ value later, playerMove x y (game, draws) = .ok (value, later, draws) ∧
    (value = 0 ↔ MayMove game x y) ∧
    (MayMove game x y → later.character.player.effect.count = 1 ∧
      later.character.player.effect.destinationX = x ∧ later.character.player.effect.destinationY = y) ∧
    (¬ MayMove game x y → value = -1 ∧ later.timers = game.timers ∧
      SamePath later.character.player.effect game.character.player.effect)

/-- The item that was picked up first has this tile number. -/
def FirstItem (tileNum : Int) (game : Game) : Prop := game.character.items.head?.map Tile.tileNum = some tileNum

/-- The move takes an item that was picked up first. -/
def TakesFirstItem (game : Game) (x y : Int) : Prop :=
  game.character.player.effect.count = 0 ∧
    ((terrainAt game x y = some terrainMountains ∧ FirstItem itemMagicBoots game) ∨
      (terrainAt game x y = some terrainWater ∧ FirstItem itemMagicBelt game))

/-- The search for an item misses the one that it looks for if that is the first. -/
theorem carriesBehindFirst_iff {tileNum : Int} :
    carriesBehindFirst tileNum game.character = true ↔
      carries tileNum game.character = true ∧ ¬ FirstItem tileNum game := by
  cases items : game.character.items with
  | nil => simp [carriesBehindFirst, FirstItem, carries, items]
  | cons item rest =>
    simp only [carriesBehindFirst, FirstItem, items, List.head?_cons, Option.elim_some, Option.map_some, Option.some.injEq,
      Bool.and_eq_true, decide_eq_true_eq]
    exact and_comm

theorem FirstItem.carries {tileNum : Int} (first : FirstItem tileNum game) : carries tileNum game.character = true := by
  cases items : game.character.items with
  | nil => simp [FirstItem, items] at first
  | cons item rest =>
    have same : item.tileNum = tileNum := by simpa [FirstItem, items] using first
    simp [VirtualWorld.carries, items, same]

/-- Whether the player may enter a terrain, for the items that it carries. -/
theorem playerEnters_iff {terrain : Int} :
    playerEnters terrain game.character = true ↔
      (terrain = terrainMountains → VirtualWorld.carries itemMagicBoots game.character = true ∧ ¬ FirstItem itemMagicBoots game) ∧
        (terrain = terrainWater → VirtualWorld.carries itemMagicBelt game.character = true ∧ ¬ FirstItem itemMagicBelt game) := by
  have apart : terrainMountains ≠ terrainWater := by decide
  rw [playerEnters]
  split
  next mountain =>
    subst mountain
    simp [carriesBehindFirst_iff, apart]
  next plain =>
    split
    next water => simp [carriesBehindFirst_iff, water, apart.symm]
    next dry => simp [plain, dry]

/-- A move to no tile of the grid is refused. -/
theorem tileEffectStart_nowhere {poll : EffectPoll} {x y : Int} (nowhere : gameGridTile game x y = none) :
    tileEffectStart (.sprite sprite) x y (game.setSprite sprite ((game.sprite sprite).prepareMove poll)) =
      (.refused, game.setSprite sprite ((game.sprite sprite).prepareMove poll)) := by
  have gone : gameGridTile (game.setSprite sprite ((game.sprite sprite).prepareMove poll)) x y = none := by
    rw [gameGridTile, world_setSprite]
    exact nowhere
  simp only [tileEffectStart, gone]
  split
  next never => cases never
  · rfl

/-- A move from one tile to another is started when none is under way. -/
theorem tileEffectStart_somewhere {poll : EffectPoll} {x y : Int} {here tile : TileIndex}
    (under : game.tileUnder sprite = some here) (found : gameGridTile game x y = some tile)
    (idle : (game.sprite sprite).effect.count = 0) :
    ∃ timers, tileEffectStart (.sprite sprite) x y (game.setSprite sprite ((game.sprite sprite).prepareMove poll)) =
      (.scheduled, { game.setSprite sprite
        { (game.sprite sprite).prepareMove poll with
          effect := effectStart x y ((game.sprite sprite).prepareMove poll).effect } with timers }) := by
  have grid : ∀ x y, gameGridTile (game.setSprite sprite ((game.sprite sprite).prepareMove poll)) x y =
      gameGridTile game x y := by
    intro x y
    rw [gameGridTile, gameGridTile, world_setSprite]
  have from_here : gameGridTile game ((game.sprite sprite).prepareMove poll).effect.locationX
      ((game.sprite sprite).prepareMove poll).effect.locationY = some here := under
  have rests : ((game.sprite sprite).prepareMove poll).effect.count = 0 := idle
  have polls : (effectStart x y ((game.sprite sprite).prepareMove poll).effect).poll = some poll := rfl
  -- an effect takes more than one count, so it does not complete at once
  have goesOn : ¬ (effectStart x y ((game.sprite sprite).prepareMove poll).effect).total ≤
      (effectStart x y ((game.sprite sprite).prepareMove poll).effect).count := by
    simp [effectStart, SpriteTile.prepareMove]
  have idempotent : ∀ value, (game.setSprite sprite ((game.sprite sprite).prepareMove poll)).setSprite sprite value =
      game.setSprite sprite value := by
    intro value
    cases sprite with
    | player => rfl
    | creature i => simp [Game.setSprite]
  simp only [tileEffectStart, Game.effect, Game.setEffect, sprite_setSprite_self, grid, from_here, found, rests, ne_eq,
    not_true_eq_false, if_false, if_neg goesOn, polls, idempotent]
  obtain ⟨timers, same⟩ := @timerSchedule_frame (game.setSprite sprite
    { (game.sprite sprite).prepareMove poll with
      effect := effectStart x y ((game.sprite sprite).prepareMove poll).effect }) (.effect poll (.sprite sprite) tile)
  exact ⟨timers, by rw [same]⟩

/-- The places that `GameGridTile` finds are those of the grid. -/
theorem Placed.gameGridTile_isSome (placed : Placed game) {x y : Int} :
    (gameGridTile game x y).isSome ↔ 0 ≤ x ∧ x < game.world.x ∧ 0 ≤ y ∧ y < game.world.y := by
  have width := placed.width
  have height := placed.height
  rw [gameGridTile]
  split
  next outside =>
    simp only [Option.isSome_none, Bool.false_eq_true, false_iff]
    omega
  next inside =>
    have grid : Board.Inside x y := by
      simp only [Board.Inside, gameGridWidth, gameGridHeight] at *
      omega
    obtain ⟨tile, isTile⟩ := Board.tileAt_inside grid
    simp only [isTile, Option.isSome_some, true_iff]
    omega

/-- Where there is a tile at all there is one under every sprite. -/
theorem Placed.under (placed : Placed game) {x y : Int} {tile : TileIndex} (found : gameGridTile game x y = some tile)
    (sprite : Sprite) : ∃ here, game.tileUnder sprite = some here := by
  have target := placed.gameGridTile_isSome.mp (Option.isSome_iff_exists.mpr ⟨tile, found⟩)
  have inside := (placed.sprites sprite).effect.location
  have width := placed.width
  have height := placed.height
  rw [← Option.isSome_iff_exists, Game.tileUnder, placed.gameGridTile_isSome]
  simp only [Board.Inside, gameGridWidth, gameGridHeight] at *
  omega

/-- What `player_move` asks for. -/
def StartsMove (game : Game) (x y : Int) : Prop :=
  game.character.player.effect.count = 0 ∧
    ∃ tile, gameGridTile game x y = some tile ∧ playerEnters (game.terrain tile).tileNum game.character = true

theorem SpritePlaced.underWay_iff {value : SpriteTile} (placed : SpritePlaced value) :
    value.effect.underWay = true ↔ value.effect.count ≠ 0 := by
  have rests := placed.restsX
  simp only [EffectTile.underWay, decide_eq_true_eq]
  constructor
  · rintro (apart | moves)
    · exact fun zero => apart (rests zero)
    · exact moves
  · exact .inr

/-- `player_move` where nothing stops it. -/
theorem run_playerMove {x y : Int} {started : EffectStarted} {later : Game} {draws : List (BitVec 32)}
    (enters : ¬ (game.character.player.effect.underWay || !playerEnters ((gameGridTile game x y).elim game.nullTileNum
      fun tile => (game.terrain tile).tileNum) game.character) = true) :
    tileEffectStart (.sprite .player) x y
      (game.setSprite .player ((game.sprite .player).prepareMove .playerMove)) = (started, later) →
    playerMove x y (game, draws) = (match started with
      | .refused => pure (-1)
      | .scheduled => pure 0
      | .polls context => do
        playerMoveCallback context
        pure 0 : Play Int) (later, draws) := by
  intro starts
  rw [playerMove, Program.run_state_bind]
  rw [if_neg enters, startMove, Program.run_change_bind]
  cases started <;> simp only [starts]

/-- How `player_move` ends when it asks for what it does. -/
theorem playerMove_ends (placed : Placed game) (x y : Int) (draws : List (BitVec 32)) :
    ∃ value later, playerMove x y (game, draws) = .ok (value, later, draws) ∧
      ((StartsMove game x y ∧ value = 0 ∧ later.character.player.effect.count = 1 ∧
          later.character.player.effect.destinationX = x ∧ later.character.player.effect.destinationY = y) ∨
        (¬ StartsMove game x y ∧ value = -1 ∧ later.timers = game.timers ∧
          SamePath later.character.player.effect game.character.player.effect)) := by
  have player := placed.sprites .player
  -- under way or before a terrain that it may not enter, the player stays
  by_cases stops : (game.character.player.effect.underWay || !playerEnters ((gameGridTile game x y).elim game.nullTileNum
      fun tile => (game.terrain tile).tileNum) game.character) = true
  · refine ⟨-1, game, ?_, .inr ⟨?_, rfl, rfl, .refl⟩⟩
    · rw [playerMove, Program.run_state_bind]
      simp only [if_pos stops]
      rfl
    · rintro ⟨idle, tile, found, enters⟩
      rw [found] at stops
      simp only [Option.elim_some, enters, Bool.not_true, Bool.or_false] at stops
      exact player.underWay_iff.mp stops idle
  · have idle : game.character.player.effect.count = 0 := by
      by_contra moves
      have busy : game.character.player.effect.underWay = true := player.underWay_iff.mpr moves
      exact stops (by rw [busy, Bool.true_or])
    cases target : gameGridTile game x y with
    | none =>
      refine ⟨-1, _, run_playerMove stops (tileEffectStart_nowhere target), .inr ⟨?_, rfl, rfl, ⟨rfl, rfl, rfl, rfl, rfl⟩⟩⟩
      rintro ⟨_, tile, found, _⟩
      rw [target] at found
      cases found
    | some tile =>
      have enters : playerEnters (game.terrain tile).tileNum game.character = true := by
        by_contra never
        exact stops (by simp [target, never])
      obtain ⟨here, under⟩ := placed.under target .player
      obtain ⟨timers, starts⟩ := tileEffectStart_somewhere under target idle
      exact ⟨0, _, run_playerMove stops starts, .inl ⟨⟨idle, tile, target, enters⟩, rfl, rfl, rfl, rfl⟩⟩

theorem terrainAt_eq_some {x y terrain : Int} :
    terrainAt game x y = some terrain ↔ ∃ tile, gameGridTile game x y = some tile ∧ (game.terrain tile).tileNum = terrain :=
  Option.map_eq_some_iff

/-- `player_move` asks for what a move takes, but not for an item that was picked up first. -/
theorem Placed.startsMove_iff (placed : Placed game) {x y : Int} :
    StartsMove game x y ↔ MayMove game x y ∧ ¬ TakesFirstItem game x y := by
  constructor
  · rintro ⟨idle, tile, found, enters⟩
    obtain ⟨boots, belt⟩ := playerEnters_iff.mp enters
    have terrain : ∀ {kind}, terrainAt game x y = some kind → (game.terrain tile).tileNum = kind := by
      intro kind isKind
      simpa [terrainAt, found] using isKind
    refine ⟨⟨idle, ?grid, ?boots, ?belt⟩, ?others⟩
    case grid => exact placed.gameGridTile_isSome.mp (Option.isSome_iff_exists.mpr ⟨tile, found⟩)
    case boots => exact fun mountain => (boots (terrain mountain)).1
    case belt => exact fun water => (belt (terrain water)).1
    case others =>
      rintro ⟨_, ⟨mountain, first⟩ | ⟨water, first⟩⟩
      · exact (boots (terrain mountain)).2 first
      · exact (belt (terrain water)).2 first
  · rintro ⟨⟨idle, grid, boots, belt⟩, others⟩
    obtain ⟨tile, found⟩ := Option.isSome_iff_exists.mp (placed.gameGridTile_isSome.mpr grid)
    refine ⟨idle, tile, found, playerEnters_iff.mpr ⟨fun isMountain => ?_, fun isWater => ?_⟩⟩
    · have mountain : terrainAt game x y = some terrainMountains := terrainAt_eq_some.mpr ⟨tile, found, isMountain⟩
      exact ⟨boots mountain, fun first => others ⟨idle, .inl ⟨mountain, first⟩⟩⟩
    · have water : terrainAt game x y = some terrainWater := terrainAt_eq_some.mpr ⟨tile, found, isWater⟩
      exact ⟨belt water, fun first => others ⟨idle, .inr ⟨water, first⟩⟩⟩

/-- The first item is one that the player carries, so a move that takes it is one that it may make. -/
theorem TakesFirstItem.mayMove {x y : Int} (placed : Placed game) (takes : TakesFirstItem game x y) : MayMove game x y := by
  have apart : terrainMountains ≠ terrainWater := by decide
  have onGrid : ∀ {kind}, terrainAt game x y = some kind → 0 ≤ x ∧ x < game.world.x ∧ 0 ≤ y ∧ y < game.world.y := by
    intro kind isKind
    obtain ⟨tile, found, _⟩ := terrainAt_eq_some.mp isKind
    exact placed.gameGridTile_isSome.mp (Option.isSome_iff_exists.mpr ⟨tile, found⟩)
  obtain ⟨idle, ⟨mountain, first⟩ | ⟨water, first⟩⟩ := takes
  · refine ⟨idle, onGrid mountain, fun _ => first.carries, fun water => ?_⟩
    exact absurd (Option.some.inj (mountain.symm.trans water)) apart
  · refine ⟨idle, onGrid water, fun mountain => ?_, fun _ => first.carries⟩
    exact absurd (Option.some.inj (mountain.symm.trans water)) apart

/-- A move that takes the first item is refused, though the player may make it. -/
theorem TakesFirstItem.not_moves {x y : Int} (placed : Placed game) (takes : TakesFirstItem game x y) :
    ¬ MovesIfMay game x y := by
  intro moves
  obtain ⟨value, later, ends, zero, _⟩ := moves []
  obtain ⟨_, _, ends', ⟨started, _⟩ | ⟨_, minus, _⟩⟩ := playerMove_ends placed x y []
  · exact (placed.startsMove_iff.mp started).2 takes
  · rw [ends, minus, zero.mpr (takes.mayMove placed)] at ends'
    cases ends'

/-- In every state that a run reaches, `player_move` starts exactly the moves that the player may
    make, unless the move takes boots or a belt that were picked up first. -/
theorem player_move_iff (nullTileNum : Int) (timers : Fin maxTimerTasks → Bool)
    (steps : List (GameEvent × List (BitVec 32))) (runs : play (boot nullTileNum timers) steps = .ok game) (x y : Int) :
    MovesIfMay game x y ↔ ¬ TakesFirstItem game x y := by
  have placed := placed_of_play runs
  have starts := @Placed.startsMove_iff game placed x y
  constructor
  · exact fun moves takes => takes.not_moves placed moves
  · intro others draws
    obtain ⟨value, later, ends, outcome⟩ := playerMove_ends placed x y draws
    have same : StartsMove game x y ↔ MayMove game x y := by
      rw [starts]
      exact and_iff_left others
    rw [same] at outcome
    refine ⟨value, later, ends, ?_⟩
    rcases outcome with ⟨may, zero, sent⟩ | ⟨mayNot, minus, stays⟩
    · exact ⟨⟨fun _ => may, fun _ => zero⟩, fun _ => sent, fun mayNot => absurd may mayNot⟩
    · refine ⟨⟨fun zero => ?_, fun may => absurd may mayNot⟩, fun may => absurd may mayNot, fun _ => ⟨minus, stays⟩⟩
      rw [minus] at zero
      cases zero

/-- Without items the player makes every move that it may make. -/
theorem player_move_on_meadow :
    ∃ started, play (boot 0 fun _ => false) [(.command .gameStart, meadowDraws)] = .ok started ∧
      MovesIfMay started 11 10 := by
  obtain ⟨started, starts, items⟩ := meadow_starts
  have others : ¬ TakesFirstItem started 11 10 := by
    rintro ⟨_, ⟨_, first⟩ | ⟨_, first⟩⟩
    · simp [FirstItem, items] at first
    · simp [FirstItem, items] at first
  exact ⟨started, starts, (player_move_iff 0 (fun _ => false) _ starts 11 10).mpr others⟩

/-- The random numbers of a start on a meadow with one mountain: a bat between it and a wizard. -/
def mountainDraws : List (BitVec 32) :=
  List.replicate (4 * 290) 7 ++ [0, 7, 7] ++ List.replicate (4 * 493) 7 ++
    [0, 0, 0, 0, 0, 0, 0, 0, 0, 5, 5, 5, 0, 0, 0, 0] ++ [50, 11, 10, 7, 20, 20, 1, 1, 12, 10]

/-- The wizard kills the bat, which leaves boots, and goes to pick them up. -/
def findBoots : List (GameEvent × List (BitVec 32)) :=
  [(.command .gameStart, mountainDraws), (.command .action, [20, 5, 6, 8, 5]),
    (.command .west, []), (.fire (timerTask 2), []), (.fire (timerTask 3), []), (.fire (timerTask 2), [])]

/-- The boots are of no use to the wizard before the mountain. -/
theorem player_move_misses_boots :
    ∃ game, play (boot 0 fun _ => false) findBoots = .ok game ∧ ¬ MovesIfMay game 10 10 := by
  have passes : (play (boot 0 fun _ => false) findBoots).toOption.any (fun game =>
      decide (game.character.player.effect.count = 0 ∧ terrainAt game 10 10 = some terrainMountains ∧
        game.character.items.head?.map Tile.tileNum = some itemMagicBoots)) = true := by
    delta play gameStep GameEvent.play Command.run gameStartCommand GameTimer.callback playerMoveCallback gameLevelUp
    rw [worldCreateRandom_evenly]
    decide +kernel
  obtain ⟨game, reached, checked⟩ := exists_of_any passes
  obtain ⟨idle, mountain, first⟩ := of_decide_eq_true checked
  have placed := placed_of_play reached
  have takes : TakesFirstItem game 10 10 := ⟨idle, .inl ⟨mountain, first⟩⟩
  exact ⟨game, reached, takes.not_moves placed⟩

end ComputerSystems.Verified
