import ComputerSystems.Data.Footprint
import ComputerSystems.Verified.GridRounds

/-! # Creating a level makes the board sound

`world_create_random` links every tile to itself, whatever the lists were before.  From
there `game_start` places the creatures, the exit and the player one after the other,
and each enters the list of its tile.
-/

namespace ComputerSystems.Verified

open ComputerSystems.Data ComputerSystems.VirtualWorld
open ComputerSystems.System (DoubleLink listAppend)

variable {game : Game} {sprite : Sprite} {setting : Board.Setting}

/-! ## Terrain -/

theorem rollTerrain_draws {random : BitVec 32} : OnlyDraws (rollTerrain random) := by
  simp only [rollTerrain]
  split
  · exact .pure _
  split
  · exact .pure _
  split
  · exact .pure _
  split
  · exact .pure _
  split
  · exact .bind .draw fun _ => .pure _
  split
  · exact .pure _
  · exact .pure _

theorem chooseTerrain_draws {coasts : Coasts} {x y : Nat} : OnlyDraws (chooseTerrain coasts x y) := by
  refine .bind .draw fun random => ?_
  split
  · exact .pure _
  · refine .bind rollTerrain_draws fun terrain => .state_bind fun now => ?_
    split
    · exact .pure _
    · exact .pure _

theorem coin_draws {mask : BitVec 32} : OnlyDraws (coin mask) := .bind .draw fun _ => .pure _

theorem flipTerrain_draws {terrain : Int} : OnlyDraws (flipTerrain terrain) := by
  simp only [flipTerrain]
  split
  · refine .bind coin_draws fun flipped => ?_
    split
    · split
      · exact coin_draws
      · exact .pure _
    · exact .pure _
  · exact .pure _

/-- A tile without tiles that are linked to it. -/
def Alone (links : Node → DoubleLink Node) (tile : TileIndex) : Prop :=
  links (.tile tile) = { next := some (.tile tile), previous := some (.tile tile) }

/-- A game after some of its tiles have been created anew. -/
def Renewed (game : Game) (tiles : List TileIndex) (later : Game) : Prop :=
  ∃ terrain links, later = { game with terrain, links } ∧ ∀ tile ∈ tiles, Alone links tile

theorem Renewed.setTerrain {tiles : List TileIndex} {now : Game} (renewed : Renewed game tiles now) (tile : TileIndex)
    (terrain : Int) : Renewed game (tiles ++ [tile]) (now.setTerrain tile terrain) := by
  obtain ⟨terrains, links, rfl, alone⟩ := renewed
  refine ⟨_, _, rfl, ?_⟩
  intro other isIn
  by_cases same : other = tile
  · rw [same, Alone, Function.update_self]
  · have before : other ∈ tiles := by simpa [same] using isIn
    rw [Alone, Function.update_of_ne (by simpa using same)]
    exact alone other before

theorem Renewed.setTerrainFlags {tiles : List TileIndex} {now : Game} (renewed : Renewed game tiles now) (sets : Bool)
    (tile : TileIndex) (flags : BitVec 32) :
    Renewed game tiles (if sets then now.setTerrainFlags tile flags else now) := by
  obtain ⟨terrains, links, rfl, alone⟩ := renewed
  cases sets with
  | false => exact ⟨terrains, links, rfl, alone⟩
  | true => exact ⟨_, links, rfl, alone⟩

theorem wp_createTile {coasts : Coasts} {tiles : List TileIndex} {tile : TileIndex} {now : Game}
    (renewed : Renewed game tiles now) :
    Wp (createTile coasts tile) (fun _ => Renewed game (tiles ++ [tile])) now := by
  apply Wp.bind_draws chooseTerrain_draws
  intro terrain
  rw [wp_update_bind]
  apply Wp.bind_draws coin_draws
  intro reverse
  rw [wp_update_bind]
  apply Wp.bind_draws flipTerrain_draws
  intro flipped
  rw [wp_update]
  exact ((renewed.setTerrain tile terrain).setTerrainFlags reverse tile showReverse).setTerrainFlags flipped tile showFlipped

theorem wp_createTiles {coasts : Coasts} {tiles : List TileIndex} (all : ∀ tile, tile ∈ tiles) :
    Wp (Program.each (createTile coasts) tiles)
      (fun _ later => ∃ terrain links, later = { game with terrain, links } ∧ ∀ tile, Alone links tile) game := by
  have start : Renewed game [] game := ⟨game.terrain, game.links, rfl, fun _ isIn => absurd isIn List.not_mem_nil⟩
  have renews : Wp (Program.each (createTile coasts) tiles) (fun _ => Renewed game tiles) game := by
    apply Wp.each_done start
    intro done tile _ now _ renewed
    exact wp_createTile renewed
  apply renews.mono
  intro _ later renewed
  obtain ⟨terrain, links, same, alone⟩ := renewed
  exact ⟨terrain, links, same, fun tile => alone tile (all tile)⟩

theorem worldCreateRandom_eq (coasts : Coasts) :
    worldCreateRandom coasts = Program.each (createTile coasts) (List.finRange _) := by
  unfold worldCreateRandom
  rfl

/-- `world_create_random` empties the lists of all tiles. -/
theorem wp_worldCreateRandom {coasts : Coasts} :
    Wp (worldCreateRandom coasts)
      (fun _ later => ∃ terrain links, later = { game with terrain, links } ∧ ∀ tile, Alone links tile) game := by
  have all : ∀ tile, tile ∈ List.finRange (gameGridWidth * gameGridHeight) := List.mem_finRange
  rw [worldCreateRandom_eq]
  revert all
  generalize List.finRange (gameGridWidth * gameGridHeight) = tiles
  exact wp_createTiles

/-! ## Even ground

Where all tiles draw 7, each is a coast or a grassland and draws four times.  So it is known what
`world_create_random` leaves there, and a run from such a ground is evaluated without creating
the tiles in turn.
-/

/-- The terrain of a tile that has drawn 7. -/
def evenTerrain (coasts : Coasts) (x y : Nat) : Int :=
  if (coasts.north ∧ y = 0) ∨ (coasts.south ∧ gameGridHeight - 2 ≤ y) ∨
      (coasts.west ∧ x = 0) ∨ (coasts.east ∧ gameGridWidth - 2 ≤ x) then terrainWater
  else terrainGrasslands

/-- A tile that has drawn 7 four times. -/
def evenTile (coasts : Coasts) (tile : TileIndex) : Tile where
  bitmap := some .terrainCharacters
  tileNum := evenTerrain coasts (tile.val % gameGridWidth) (tile.val / gameGridWidth)
  flags := showFlipped

/-- A game in which some tiles have drawn 7 four times. -/
def evened (coasts : Coasts) (made : List TileIndex) (game : Game) : Game :=
  { game with
    terrain := fun tile => if tile ∈ made then evenTile coasts tile else game.terrain tile
    links := fun node =>
      match node with
      | .tile tile =>
        if tile ∈ made then { next := some (.tile tile), previous := some (.tile tile) } else game.links (.tile tile)
      | other => game.links other }

theorem chooseTerrain_even {coasts : Coasts} {x y : Nat} {draws : List (BitVec 32)} :
    chooseTerrain coasts x y (game, 7 :: draws) = .ok (evenTerrain coasts x y, game, draws) := by
  have rolls : rollTerrain 7 = pure terrainGrasslands := rfl
  have continues : ∀ above left right, continueTerrain coasts above left right terrainGrasslands = terrainGrasslands :=
    fun _ _ _ => if_pos rfl
  refine bind_eq_ok.mpr ⟨7, game, draws, rfl, ?_⟩
  rw [evenTerrain]
  split
  · rfl
  · rw [rolls, pure_bind, Program.run_state_bind]
    simp only [continues, ite_self]
    rfl

theorem flipTerrain_even {coasts : Coasts} {x y : Nat} {draws : List (BitVec 32)} :
    flipTerrain (evenTerrain coasts x y) (game, 7 :: 7 :: draws) = .ok (true, game, draws) := by
  rw [evenTerrain]
  split <;> rfl

theorem evened_tile {coasts : Coasts} {tile : TileIndex} :
    ((game.setTerrain tile (evenTerrain coasts (tile.val % gameGridWidth) (tile.val / gameGridWidth))).setTerrainFlags
      tile showReverse).setTerrainFlags tile showFlipped = evened coasts [tile] game := by
  simp only [Game.setTerrainFlags, Game.setTerrain, Function.update_self, Function.update_idem, evened, Game.mk.injEq,
    and_true]
  constructor
  · funext node
    cases node with
    | tile other => by_cases same : other = tile <;> simp [same]
    | sprite | exit => rfl
  · funext other
    by_cases same : other = tile <;> simp [same, evenTile]

theorem evened_evened {coasts : Coasts} {made tiles : List TileIndex} :
    evened coasts tiles (evened coasts made game) = evened coasts (made ++ tiles) game := by
  simp only [evened, List.mem_append, Game.mk.injEq, and_true]
  constructor
  · funext node
    cases node with
    | tile tile => by_cases isTile : tile ∈ tiles <;> simp [isTile]
    | sprite | exit => rfl
  · funext tile
    by_cases isTile : tile ∈ tiles <;> simp [isTile]

theorem evened_nil {coasts : Coasts} : evened coasts [] game = game := by
  simp only [evened, List.not_mem_nil, if_false]
  obtain ⟨links, terrain⟩ := game
  congr 1
  funext node
  cases node <;> rfl

/-- A tile that draws 7 draws four times. -/
theorem createTile_even {coasts : Coasts} {tile : TileIndex} {draws : List (BitVec 32)} :
    createTile coasts tile (game, 7 :: 7 :: 7 :: 7 :: draws) = .ok ((), evened coasts [tile] game, draws) := by
  rw [← evened_tile]
  refine bind_eq_ok.mpr ⟨_, _, _, chooseTerrain_even, ?_⟩
  refine bind_eq_ok.mpr ⟨_, _, _, rfl, ?_⟩
  refine bind_eq_ok.mpr ⟨true, _, 7 :: 7 :: draws, rfl, ?_⟩
  refine bind_eq_ok.mpr ⟨_, _, _, rfl, ?_⟩
  exact bind_eq_ok.mpr ⟨_, _, _, flipTerrain_even, rfl⟩

theorem createTiles_even {coasts : Coasts} {tiles : List TileIndex} {count : Nat} {draws : List (BitVec 32)}
    (counts : tiles.length = count) :
    Program.each (createTile coasts) tiles (game, List.replicate (4 * count) 7 ++ draws) =
      .ok ((), evened coasts tiles game, draws) := by
  subst counts
  induction tiles generalizing game with
  | nil =>
    rw [evened_nil]
    rfl
  | cons tile tiles ih =>
    have split : evened coasts (tile :: tiles) game = evened coasts tiles (evened coasts [tile] game) := by
      rw [evened_evened, List.singleton_append]
    rw [split]
    exact bind_eq_ok.mpr ⟨_, _, _, createTile_even, ih⟩

/-- What `world_create_random` leaves where all tiles draw 7. -/
def evenGround (coasts : Coasts) (game : Game) : Game :=
  { game with
    terrain := evenTile coasts
    links := fun node =>
      match node with
      | .tile tile => { next := some (.tile tile), previous := some (.tile tile) }
      | other => game.links other }

/-- `world_create_random` with a look ahead at its draws. -/
def createEvenly (coasts : Coasts) : Play Unit := fun (game, draws) =>
  match (List.replicate (4 * (gameGridWidth * gameGridHeight)) 7).isPrefixOf? draws with
  | some rest => .ok ((), evenGround coasts game, rest)
  | none => worldCreateRandom coasts (game, draws)

theorem worldCreateRandom_even {coasts : Coasts} {draws : List (BitVec 32)} :
    worldCreateRandom coasts (game, List.replicate (4 * (gameGridWidth * gameGridHeight)) 7 ++ draws) =
      .ok ((), evenGround coasts game, draws) := by
  have tiles : evened coasts (List.finRange (gameGridWidth * gameGridHeight)) game = evenGround coasts game := by
    simp only [evened, List.mem_finRange, if_true, evenGround]
  rw [worldCreateRandom_eq, ← tiles]
  exact createTiles_even List.length_finRange

theorem worldCreateRandom_evenly : worldCreateRandom = createEvenly := by
  funext coasts start
  obtain ⟨game, draws⟩ := start
  rw [createEvenly]
  split
  next rest even =>
    rw [← List.isPrefixOf?_eq_some_iff_append_eq.mp even]
    exact worldCreateRandom_even
  next => rfl

/-! ## Places -/

theorem randomCoordinate_inside {size : Nat} (wide : size = 28) {post : Int → Game → Prop}
    (holds : ∀ coordinate : Int, 0 ≤ coordinate → coordinate < size → post coordinate game) :
    Wp (randomCoordinate size) post game := by
  apply Wp.bind
  apply Wp.draw
  intro random
  have masked : BitVec.ofNat 32 (gameGridWidth - 1) ||| 0xF = 31#32 := by decide
  have small : (random &&& 31#32).toNat ≤ 31 := by
    rw [BitVec.toNat_and]
    exact Nat.and_le_right
  have positive : (random &&& 31#32).toInt = (random &&& 31#32).toNat := by
    apply BitVec.toInt_eq_toNat_of_lt
    omega
  rw [masked, wp_pure, positive]
  split
  · apply holds
    · omega
    · omega
  · apply holds
    · omega
    · omega

/-- A random place is on the grid. -/
theorem wp_randomPlace {suits : Int → Int → Int → Bool} {post : Int × Int → Game → Prop}
    (holds : ∀ x y, Board.Inside x y → post (x, y) game) : Wp (randomPlace suits) post game := by
  refine @Wp.untilSome _ _ _ post game _ (fun now => now = game) rfl ?_
  rintro _ rfl
  apply Wp.bind
  apply randomCoordinate_inside rfl
  intro x left right
  apply Wp.bind
  apply randomCoordinate_inside rfl
  intro y top bottom
  have inside : Board.Inside x y := ⟨left, right, top, bottom⟩
  obtain ⟨tile, isTile⟩ := Board.tileAt_inside inside
  apply Wp.bind
  refine Wp.look (by rw [isTile]) ?_
  rw [wp_pure]
  split
  · exact holds x y inside
  · rfl

/-! ## Entering the grid -/

namespace Board

/-- A board on which some sprites have been placed, and perhaps the exit. -/
structure Settled (setting : Setting) (placed : List Sprite) (exit : Bool) (board : Board) : Prop where
  width : board.width = gameGridWidth
  height : board.height = gameGridHeight
  level : board.level = setting.level
  bound : setting.level < maxCreatures
  timers : board.timersFit
  flags : exit = true → has board.exitFlags isItem = false ∧ has board.exitFlags (isCreature ||| isPlayer) = false
  fits : ∀ sprite ∈ placed, board.onGrid sprite = true ∧ Fits board.taken setting sprite (board.sprites sprite)
  listed : ∃ place, Listed board.links place ∧ (exit = false → place .exit = none) ∧
    ∀ sprite, place (.sprite sprite) = if sprite ∈ placed then board.under sprite else none

variable {before : Board} {placed : List Sprite} {exit : Bool} {value : Standing} {taken : CreatureIndex → Bool}
  {links : Node → DoubleLink Node}

/-- A sprite that is created anew and appended to the list of its tile. -/
theorem Settled.enter (settled : before.Settled setting placed exit) (absent : sprite ∉ placed)
    (plays : before.inPlay sprite = true) (fits : Fits taken setting sprite value) (killed : value.killed = false)
    (item : value.item = false) (others : ∀ i, .creature i ≠ sprite → taken i = before.taken i)
    (before_links : links = before.links ∨ ∃ link, links = Function.update before.links (.sprite sprite) link) :
    ∃ tile links', value.tile before.width before.height = some tile ∧
      listAppend nodeCount (.sprite sprite) (.tile tile) links = some links' ∧
      Settled setting (sprite :: placed) exit { before.setSprite sprite value with taken, links := links' } := by
  obtain ⟨place, listed, atExit, agree⟩ := settled.listed
  have nowhere : place (.sprite sprite) = none := by rw [agree, if_neg absent]
  -- a sprite that is in no list may have had its links cleared
  have listed' : Listed links place := by
    cases before_links with
    | inl same => rwa [same]
    | inr scrubbed =>
      obtain ⟨link, rfl⟩ := scrubbed
      exact listed.scrub nowhere (fun _ => Node.noConfusion) link
  obtain ⟨tile, isTile⟩ := tileAt_inside fits.location
  have there : value.tile before.width before.height = some tile :=
    (gridTile_inside settled.width settled.height fits.location).trans isTile
  obtain ⟨links', appends, entered⟩ := listed'.enter nowhere (fun _ => Node.noConfusion) tile
  refine ⟨tile, links', there, appends, ?_⟩
  constructor
  case width => exact settled.width
  case height => exact settled.height
  case level => exact settled.level
  case bound => exact settled.bound
  case timers => exact settled.timers
  case flags => exact settled.flags
  case fits =>
    intro other isIn
    by_cases same : other = sprite
    · subst same
      simp only [setSprite_sprites, Function.update_self]
      refine ⟨?_, fits⟩
      simp only [onGrid, Function.update_self, Standing.remains, item, killed]
      cases other with
      | player => rfl
      | creature i =>
        simp only [inPlay, Bool.and_eq_true] at plays ⊢
        exact ⟨plays, rfl⟩
    · have inPlaced : other ∈ placed := by simpa [same] using isIn
      obtain ⟨on, fitsOther⟩ := settled.fits other inPlaced
      simp only [setSprite_sprites, Function.update_of_ne same]
      have sameTaken : ∀ i, other = .creature i → taken i = before.taken i := by
        rintro i rfl
        exact others i same
      constructor
      · rw [← on]
        refine onGrid_congr ?_ rfl sameTaken
        exact Function.update_of_ne same ..
      · refine { fitsOther with taken := ?_ }
        intro i isCreature isTaken
        exact fitsOther.taken i isCreature ((sameTaken i isCreature).symm.trans isTaken)
  case listed =>
    refine ⟨_, entered, ?_, ?_⟩
    · intro isFalse
      rw [Function.update_of_ne (by simp), atExit isFalse]
    · intro other
      by_cases same : other = sprite
      · subst same
        simp only [Function.update_self, List.mem_cons, true_or, if_true, under, setSprite_sprites]
        exact there.symm
      · rw [Function.update_of_ne (by simpa using same), agree]
        simp only [List.mem_cons, same, false_or, under, setSprite_sprites, Function.update_of_ne same]
        rfl

end Board

/-! ## Creatures -/

/-- What all kinds of creatures have in common. -/
theorem creatureKind_facts (i : Nat) (roll : BitVec 32) :
    has (creatureKind i roll).tileFlags isPlayer = false ∧ has (creatureKind i roll).tileFlags isItem = false ∧
      0 < (creatureKind i roll).hp := by
  simp only [creatureKind]
  repeat' split
  all_goals
    simp only [giantBeetle, bat, landSquid, whiteShark, manticore, giantRat, dragonWasp]
    exact ⟨by decide, by decide, by omega⟩

/-- A creature at its first place. -/
def newborn (kind : CreatureKind) (x y : Int) (before : SpriteTile) : Standing :=
  { standing (kind.assign before) with locationX := x, locationY := y, destinationX := x, destinationY := y }

theorem fits_newborn {i : CreatureIndex} {roll : BitVec 32} {x y : Int} {before : SpriteTile}
    {taken : CreatureIndex → Bool} (inside : Board.Inside x y) (untaken : taken i = false)
    (world : i.val < 7 → before.currentWorld = true) (active : ¬ setting.idle (.creature i)) :
    Board.Fits taken setting (.creature i) (newborn (creatureKind i roll) x y before) ∧
      (newborn (creatureKind i roll) x y before).killed = false ∧
      (newborn (creatureKind i roll) x y before).item = false := by
  obtain ⟨noPlayer, noItem, hp⟩ := creatureKind_facts i roll
  have item : (newborn (creatureKind i roll) x y before).item = false := noItem
  have player : (newborn (creatureKind i roll) x y before).player = false := noPlayer
  have killed : (newborn (creatureKind i roll) x y before).killed = false := decide_eq_false (Int.not_lt.mpr (Int.le_of_lt hp))
  refine ⟨?_, killed, item⟩
  constructor
  case location => exact inside
  case destination => exact inside
  case player => simp [player]
  case item => simp [item]
  case killed => simp [killed]
  case taken =>
    rintro _ ⟨rfl⟩ isTaken
    rw [untaken] at isTaken
    cases isTaken
  case world => exact fun early => world (early i rfl)
  case cleric => simp
  case idle => exact fun isIdle => absurd isIdle active

/-- A creature of a kind, at its first place. -/
def Game.born (i : CreatureIndex) (kind : CreatureKind) (x y : Int) (game : Game) : Game :=
  Game.place (.creature i) x y { game.setSprite (.creature i) (kind.assign (game.creatures i)) with
    taken := Function.update game.taken i false }

theorem board_born {i : CreatureIndex} (kind : CreatureKind) (x y : Int) :
    board (Game.born i kind x y game) =
      { (board game).setSprite (.creature i) (newborn kind x y (game.creatures i)) with
        taken := Function.update game.taken i false } := by
  have assigned : board { game.setSprite (.creature i) (kind.assign (game.creatures i)) with
      taken := Function.update game.taken i false } =
        { (board game).setSprite (.creature i) (standing (kind.assign (game.creatures i))) with
          taken := Function.update game.taken i false } := by
    rw [← board_setSprite]
    rfl
  rw [Game.born, Game.place, Game.setEffect, board_setSprite, assigned]
  have self : ({ game.setSprite (.creature i) (kind.assign (game.creatures i)) with
      taken := Function.update game.taken i false } : Game).sprite (.creature i) = kind.assign (game.creatures i) :=
    Function.update_self ..
  rw [self]
  simp only [Board.setSprite, Function.update_idem]
  rfl

theorem board_initializeSprite :
    board (game.initializeSprite sprite) =
      { (board game).setSprite sprite (standing (spriteInitialize (game.sprite sprite))) with
        links := Function.update game.links (.sprite sprite) {} } := by
  rw [← board_setSprite]
  rfl

/-- Only the first creatures are initialised, and nothing else changes. -/
theorem initializeSprite_cases (i : CreatureIndex) (game : Game) :
    let now := if i.val < 7 then game.initializeSprite (.creature i) else game
    (∃ value links, board now = { (board game).setSprite (.creature i) value with links } ∧
      (links = game.links ∨ ∃ link, links = Function.update game.links (.sprite (.creature i)) link)) ∧
    (i.val < 7 → (now.creatures i).currentWorld = true) ∧ now.character = game.character := by
  by_cases early : i.val < 7
  · simp only [if_pos early]
    refine ⟨⟨_, _, board_initializeSprite, .inr ⟨{}, rfl⟩⟩, ?_, rfl⟩
    intro _
    change ((game.setSprite (.creature i) (spriteInitialize (game.sprite (.creature i)))).sprite
      (.creature i)).currentWorld = true
    rw [sprite_setSprite_self]
    rfl
  · simp only [if_neg early]
    refine ⟨⟨standing (game.creatures i), game.links, ?_, .inl rfl⟩, fun isEarly => absurd isEarly early, trivial⟩
    exact Board.setSprite_self.symm

/-- A creature of the loop of `game_start` enters the grid. -/
theorem wp_createCreature {placed : List Sprite} {i : CreatureIndex}
    (settled : (board game).Settled setting placed false) (absent : .creature i ∉ placed)
    (plays : i.val ≤ setting.level) (active : ¬ setting.idle (.creature i)) :
    Wp (createCreature i)
      (fun _ later => (board later).Settled setting (.creature i :: placed) false ∧
        later.character = game.character) game := by
  obtain ⟨⟨value, links, isBoard, isLinks⟩, world, character⟩ := initializeSprite_cases i game
  apply Wp.bind
  apply Wp.draw
  intro roll
  rw [wp_update_bind]
  -- from here on only the board of the game matters, and that this creature has a world
  revert isBoard world character
  generalize (if i.val < 7 then game.initializeSprite (.creature i) else game) = now
  intro isBoard world character
  rw [wp_update_bind, wp_state_bind]
  apply Wp.bind
  apply wp_randomPlace
  intro x y inside
  rw [wp_update_bind, wp_state_bind]
  change Wp (appendAt _ (gameGridTile (Game.born i (creatureKind i roll) x y now) x y)) _
    (Game.born i (creatureKind i roll) x y now)
  have inPlay : (board game).inPlay (.creature i) = true := by
    rw [← settled.level] at plays
    exact decide_eq_true plays
  have taken : now.taken = game.taken := congrArg Board.taken isBoard
  obtain ⟨fits, killed, item⟩ := @fits_newborn setting i roll x y (now.creatures i)
    (Function.update game.taken i false) inside (Function.update_self ..) world active
  obtain ⟨tile, links', there, appends, entered⟩ := settled.enter absent inPlay fits killed item
    (fun j apart => Function.update_of_ne (by simpa using apart) ..) isLinks
  have born := @board_born now i (creatureKind i roll) x y
  rw [isBoard, taken] at born
  have grid : gameGridTile (Game.born i (creatureKind i roll) x y now) x y = some tile := by
    have width : now.world.x = game.world.x := congrArg Board.width isBoard
    have height : now.world.y = game.world.y := congrArg Board.height isBoard
    have world : (Game.born i (creatureKind i roll) x y now).world = now.world := rfl
    rw [← there, gameGridTile, world, width, height]
    rfl
  rw [grid]
  apply wp_append links'
  · rw [← appends]
    exact congrArg (listAppend nodeCount _ _) (congrArg Board.links born)
  · refine ⟨?_, character⟩
    have later : board { Game.born i (creatureKind i roll) x y now with links := links' } =
        { (board game).setSprite (.creature i) (newborn (creatureKind i roll) x y (now.creatures i)) with
          taken := Function.update game.taken i false, links := links' } := by
      have relinked := congrArg (fun board : Board => { board with links := links' }) born
      refine Eq.trans relinked ?_
      simp only [Board.setSprite, Function.update_idem]
    rw [later]
    exact entered

/-- The loop of `game_start` over the creatures. -/
theorem wp_createCreatures {creatures : List CreatureIndex} (settled : (board game).Settled setting [] false)
    (nodup : creatures.Nodup) (plays : ∀ i ∈ creatures, i.val ≤ setting.level) (active : ∀ sprite, ¬ setting.idle sprite) :
    Wp (Program.each createCreature creatures)
      (fun _ later => (board later).Settled setting (creatures.map Sprite.creature).reverse false ∧
        later.character = game.character) game := by
  have start : (board game).Settled setting (([] : List CreatureIndex).map Sprite.creature).reverse false ∧
      game.character = game.character := ⟨settled, rfl⟩
  refine @Wp.each_done _ _ _ game createCreature (fun done now =>
    (board now).Settled setting (done.map Sprite.creature).reverse false ∧ now.character = game.character) creatures start ?_
  rintro done i rest now whole ⟨settledNow, character⟩
  have absent : Sprite.creature i ∉ (done.map Sprite.creature).reverse := by
    rw [whole] at nodup
    have apart := (List.nodup_append.mp nodup).2.2
    simp only [List.mem_reverse, List.mem_map, Sprite.creature.injEq, exists_eq_right]
    intro isDone
    exact apart i isDone i List.mem_cons_self rfl
  apply (wp_createCreature settledNow absent (plays i (by simp [whole])) (active _)).mono
  rintro _ later ⟨entered, same⟩
  rw [List.map_append, List.reverse_append]
  exact ⟨entered, same.trans character⟩

/-! ## The exit and the player -/

theorem wp_createExit {placed : List Sprite} (settled : (board game).Settled setting placed false) :
    Wp createExit
      (fun _ later => (board later).Settled setting placed true ∧ later.character = game.character) game := by
  apply Wp.bind
  apply wp_randomPlace
  intro x y inside
  obtain ⟨tile, isTile⟩ := Board.tileAt_inside inside
  obtain ⟨place, listed, atExit, agree⟩ := settled.listed
  have scrubbed := listed.scrub (atExit rfl) (fun _ => Node.noConfusion) {}
  obtain ⟨links, appends, entered⟩ := scrubbed.enter (atExit rfl) (fun _ => Node.noConfusion) tile
  simp only [wp_update_bind, isTile]
  apply wp_append links appends
  refine ⟨?_, rfl⟩
  constructor
  case width => exact settled.width
  case height => exact settled.height
  case level => exact settled.level
  case bound => exact settled.bound
  case timers => exact settled.timers
  case flags =>
    have item : has isVisible isItem = false := by decide
    have kind : has isVisible (isCreature ||| isPlayer) = false := by decide
    exact fun _ => ⟨item, kind⟩
  case fits => exact settled.fits
  case listed =>
    refine ⟨_, entered, fun isFalse => absurd isFalse (by simp), ?_⟩
    intro sprite
    rw [Function.update_of_ne (by simp), agree]
    rfl

/-- A player that can be placed. -/
structure Ready (setting : Board.Setting) (value : Standing) : Prop where
  player : value.player = true
  item : value.item = false
  killed : value.killed = false
  cleric : value.cleric = setting.cleric

/-- The player at its first place. -/
def arriving (x y : Int) (value : Standing) : Standing :=
  { value with world := true, locationX := x, locationY := y, destinationX := x, destinationY := y }

theorem Ready.fits {value : Standing} {taken : CreatureIndex → Bool} {x y : Int} (ready : Ready setting value)
    (inside : Board.Inside x y) (active : ¬ setting.idle .player) :
    Board.Fits taken setting .player (arriving x y value) := by
  have player : (arriving x y value).player = true := ready.player
  have item : (arriving x y value).item = false := ready.item
  have killed : (arriving x y value).killed = false := ready.killed
  constructor
  case location => exact inside
  case destination => exact inside
  case player => simp [player]
  case item => simp [item]
  case killed => simp [killed]
  case taken => simp
  case world => exact fun _ => rfl
  case cleric => exact fun _ => ready.cleric
  case idle => exact fun isIdle => absurd isIdle active

theorem board_arriving {x y : Int} :
    board (Game.place .player x y (game.setSprite .player { game.character.player with currentWorld := true })) =
      (board game).setSprite .player (arriving x y (standing game.character.player)) := by
  rw [Game.place, Game.setEffect, board_setSprite, board_setSprite, sprite_setSprite_self]
  simp only [Board.setSprite, Function.update_idem]
  rfl

theorem wp_placePlayer {placed : List Sprite} (settled : (board game).Settled setting placed true)
    (absent : .player ∉ placed) (ready : Ready setting (standing game.character.player))
    (active : ¬ setting.idle .player) :
    Wp placePlayer (fun _ later => (board later).Settled setting (.player :: placed) true) game := by
  apply Wp.bind
  apply wp_randomPlace
  intro x y inside
  obtain ⟨tile, links, isTile, appends, entered⟩ :=
    settled.enter absent rfl (ready.fits inside active) ready.killed ready.item (fun _ _ => rfl) (.inl rfl)
  have there : tileAt x y = some tile := (Board.gridTile_inside settled.width settled.height inside).symm.trans isTile
  simp only [wp_update_bind, there]
  have arrives := @board_arriving game x y
  apply wp_append links
  · rw [← appends]
    exact congrArg (listAppend nodeCount _ _) (congrArg Board.links arrives)
  · have later := congrArg (fun board : Board => { board with links }) arrives
    have isLater : board { Game.place .player x y (game.setSprite .player
        { game.character.player with currentWorld := true }) with links } =
          { (board game).setSprite .player (arriving x y (standing game.character.player)) with links } := later
    rw [isLater]
    exact entered

/-- A game in which the player has looked around: some tiles are visible that were not. -/
def Looked (game later : Game) : Prop :=
  ∃ terrain, later = { game with terrain } ∧
    ∀ tile, has (terrain tile).flags worldExit = has (game.terrain tile).flags worldExit

theorem Looked.reveal {now : Game} (looked : Looked game now) (tile : TileIndex) : Looked game (now.reveal tile) := by
  obtain ⟨terrain, rfl, exits⟩ := looked
  refine ⟨_, rfl, ?_⟩
  intro other
  have disjoint : isVisible &&& worldExit = 0 := by decide
  by_cases same : other = tile
  · subst same
    rw [Function.update_self, ← exits, has, has, and_or_of_disjoint disjoint]
  · rw [Function.update_of_ne same, exits]

theorem wp_lookAt {place : Int × Int} {now : Game} (facts : (board game).Facts setting) (looked : Looked game now)
    (inside : Board.Inside place.1 place.2) : Wp (lookAt place) (fun _ later => Looked game later) now := by
  obtain ⟨tile, isTile⟩ := Board.tileAt_inside inside
  have width : now.world.x = gameGridWidth := by
    obtain ⟨_, rfl, _⟩ := looked
    exact facts.width
  have height : now.world.y = gameGridHeight := by
    obtain ⟨_, rfl, _⟩ := looked
    exact facts.height
  have found : gameGridTile now place.1 place.2 = some tile :=
    (Board.gridTile_inside width height inside).trans isTile
  simp only [lookAt, wp_state_bind, found, wp_update]
  exact looked.reveal tile

/-- `player_look`. -/
theorem wp_playerLook (facts : (board game).Facts setting) :
    Wp playerLook (fun _ later => Looked game later) game := by
  simp only [playerLook, wp_state_bind]
  refine @Wp.each _ _ _ game lookAt (Looked game) _ ⟨game.terrain, rfl, fun _ => rfl⟩ ?_
  intro place isIn now looked
  exact wp_lookAt facts looked (around_inside isIn)

/-! ## Levels -/

/-- When all sprites of the level have been placed, the lists agree with the board. -/
theorem Board.Settled.sound {board : Board} {placed : List Sprite} (settled : board.Settled setting placed true)
    (all : ∀ sprite, board.inPlay sprite = true → sprite ∈ placed) : board.Sound setting := by
  obtain ⟨place, listed, _, agree⟩ := settled.listed
  constructor
  · exact {
      width := settled.width
      height := settled.height
      level := settled.level
      bound := settled.bound
      exit := settled.flags rfl
      timers := settled.timers
      fits := fun sprite plays => (settled.fits sprite (all sprite plays)).2 }
  · refine ⟨place, listed, ?_⟩
    intro sprite
    rw [agree, Board.standsOn]
    by_cases isIn : sprite ∈ placed
    · rw [if_pos isIn, if_pos (settled.fits sprite isIn).1]
    · have off : ¬ board.onGrid sprite = true := fun on => isIn (all sprite (Board.onGrid_inPlay on))
      rw [if_neg isIn, if_neg off]

/-- `game_start` on tiles that are all alone. -/
theorem wp_gameStart (settled : (board game).Settled setting [] false)
    (ready : Ready setting (standing game.character.player)) (active : ∀ sprite, ¬ setting.idle sprite) :
    Wp gameStart (fun _ later => (board later).Sound setting) game := by
  have level : game.world.level = setting.level := settled.level
  rw [gameStart, wp_state_bind]
  apply Wp.bind
  apply wp_creaturesOf (level ▸ settled.bound)
  intro creatures nodup members
  apply Wp.bind
  apply (wp_createCreatures settled nodup (fun i isIn => level ▸ (members i).mp isIn) active).mono
  rintro _ peopled ⟨peopledSettled, sameCharacter⟩
  apply Wp.bind
  apply (wp_createExit peopledSettled).mono
  rintro _ left ⟨leftSettled, stillSame⟩
  have absent : Sprite.player ∉ (creatures.map Sprite.creature).reverse := by simp
  have leftReady : Ready setting (standing left.character.player) := by
    rw [stillSame, sameCharacter]
    exact ready
  apply Wp.bind
  apply (wp_placePlayer leftSettled absent leftReady (active _)).mono
  intro _ placed placedSettled
  -- all sprites of the level have been placed
  have sound : (board placed).Sound setting := by
    apply placedSettled.sound
    intro sprite plays
    cases sprite with
    | player => exact List.mem_cons_self
    | creature i =>
      have low : i.val ≤ (board placed).level := of_decide_eq_true plays
      rw [placedSettled.level, ← level] at low
      simpa using (members i).mpr low
  apply Wp.bind
  apply (wp_playerLook sound.facts).mono
  rintro _ looked ⟨terrain, rfl, _⟩
  rw [wp_update, board_scheduleRound]
  exact sound

/-- The invariant between two steps of a game: nothing is known of who can act. -/
def Board.Playing (board : Board) : Prop :=
  board.Sound { level := board.level, cleric := (board.sprites .player).cleric, idle := fun _ => False }

theorem Board.Sound.playing {board : Board} (sound : board.Sound setting) : board.Playing := by
  have facts := sound.facts
  refine ⟨?_, sound.agrees⟩
  exact {
    width := facts.width
    height := facts.height
    level := rfl
    bound := facts.level ▸ facts.bound
    exit := facts.exit
    timers := facts.timers
    fits := fun sprite plays =>
      { facts.fits sprite plays with
        cleric := by
          rintro rfl
          rfl
        idle := False.elim } }

/-- A world in which there is nothing yet. -/
theorem settled_alone (alone : ∀ tile, Alone game.links tile) (width : game.world.x = gameGridWidth)
    (height : game.world.y = gameGridHeight) (level : game.world.level = setting.level)
    (bound : setting.level < maxCreatures) (timers : (board game).timersFit) :
    (board game).Settled setting [] false := by
  constructor
  case width => exact width
  case height => exact height
  case level => exact level
  case bound => exact bound
  case timers => exact timers
  case flags => exact fun isTrue => absurd isTrue (by simp)
  case fits => exact fun _ isIn => absurd isIn List.not_mem_nil
  case listed => exact ⟨fun _ => none, Listed.empty alone, fun _ => rfl, fun _ => rfl⟩

/-- A portal does nothing to a wizard that the board shows. -/
theorem standing_wizardLevel {score : Nat} {player : SpriteTile} :
    standing (wizardLevel score player) = standing player := by
  rw [wizardLevel]
  split
  · rfl
  · rfl

/-- The player, while it has not been killed. -/
theorem Board.Sound.ready {board : Board} (sound : board.Sound setting) (on : board.onGrid .player = true) :
    Ready setting (board.sprites .player) := by
  have fits := sound.player
  have player : (board.sprites .player).player = true := fits.player.mpr rfl
  have item := sound.player_plain
  refine ⟨player, item, ?_, fits.cleric rfl⟩
  simpa [Board.onGrid, Board.inPlay, Standing.remains, item] using on

/-- A level that is created for a player who can be placed. -/
theorem wp_createLevel {coasts : Coasts} (width : game.world.x = gameGridWidth) (height : game.world.y = gameGridHeight)
    (bound : game.world.level < maxCreatures) (timers : (board game).timersFit)
    (ready : Ready setting (standing game.character.player)) :
    Wp (do worldCreateRandom coasts; gameStart) (fun _ later => (board later).Playing) game := by
  apply Wp.bind
  apply wp_worldCreateRandom.mono
  rintro _ later ⟨terrain, links, rfl, alone⟩
  have settled : (board { game with terrain, links }).Settled
      { level := game.world.level, cleric := setting.cleric, idle := fun _ => False } [] false :=
    settled_alone alone width height rfl bound timers
  apply (wp_gameStart settled ⟨ready.player, ready.item, ready.killed, ready.cleric⟩ fun _ => not_false).mono
  intro _ last sound
  exact sound.playing

/-- `game_level_up`. -/
theorem wp_gameLevelUp (sound : (board game).Sound setting) (on : (board game).onGrid .player = true) :
    Wp gameLevelUp (fun _ later => (board later).Playing) game := by
  have ready := sound.ready on
  have cancelled : board (if game.world.round.isSome then game.cancelRound else game) = board game := by
    split
    · exact board_cancelRound sound.facts.timers
    · rfl
  rw [gameLevelUp, wp_update_bind]
  revert cancelled
  generalize (if game.world.round.isSome then game.cancelRound else game) = now
  intro cancelled
  -- neither the timer nor what a wizard learns is on the board
  have learned : board (now.setSprite .player (wizardLevel now.world.score now.character.player)) = board game :=
    (board_setSprite_same standing_wizardLevel).trans cancelled
  rw [wp_update_bind]
  revert learned
  generalize now.setSprite .player (wizardLevel now.world.score now.character.player) = taught
  intro learned
  have width : taught.world.x = gameGridWidth := (congrArg Board.width learned).trans sound.facts.width
  have height : taught.world.y = gameGridHeight := (congrArg Board.height learned).trans sound.facts.height
  have level : taught.world.level = setting.level := (congrArg Board.level learned).trans sound.facts.level
  have bound := sound.facts.bound
  have timers : (board taught).timersFit := learned ▸ sound.facts.timers
  have player : standing taught.character.player = (board game).sprites .player :=
    congrArg (fun board : Board => board.sprites .player) learned
  have taughtReady : Ready setting (standing taught.character.player) := player ▸ ready
  rw [wp_update_bind, wp_state_bind]
  split
  next more =>
    refine wp_createLevel width height ?_ timers taughtReady
    change taught.world.level + 1 < maxCreatures
    omega
  · exact wp_createLevel width height (level ▸ bound) timers taughtReady

/-! ## Starting a game -/

theorem threeDice_draws : OnlyDraws threeDice :=
  .bind .draw fun _ => .bind .draw fun _ => .bind .draw fun _ => .pure _

/-- The hit points of a class. -/
theorem chooseClass_hp (stats : SpriteStats) : 0 < (chooseClass stats).2.2 := by
  rw [chooseClass]
  repeat' split
  all_goals decide

/-- A race does not change the hit points. -/
theorem chooseRace_hp (stats : SpriteStats) : (chooseRace stats).hp = stats.hp := by
  rw [chooseRace]
  repeat' split
  all_goals rfl

/-- A player that has just been rolled can be placed. -/
theorem ready_rolledPlayer (str dex con intel wis : UInt8) (level : Nat) :
    Ready { level, cleric := (standing (rolledPlayer str dex con intel wis)).cleric, idle := fun _ => False }
      (standing (rolledPlayer str dex con intel wis)) := by
  have hp : 0 < (rolledPlayer str dex con intel wis).stats.hp := by
    simp only [rolledPlayer, chooseRace_hp]
    exact chooseClass_hp _
  have flags : (rolledPlayer str dex con intel wis).effect.tile.flags = isPlayer ||| isVisible ||| noFlip := by
    simp only [rolledPlayer]
  have player : has (isPlayer ||| isVisible ||| noFlip) isPlayer = true := by decide
  have item : has (isPlayer ||| isVisible ||| noFlip) isItem = false := by decide
  refine ⟨?_, ?_, ?_, rfl⟩
  · rw [standing, flags]
    exact player
  · rw [standing, flags]
    exact item
  · exact decide_eq_false (Int.not_lt.mpr (Int.le_of_lt hp))

/-- `GameStart`, whatever there was before. -/
theorem wp_gameStartCommand (timers : (board game).timersFit) (up : game.screenUp = true) :
    Wp gameStartCommand (fun _ later => (board later).Playing) game := by
  have cancelled : board (if game.world.round.isSome then game.cancelRound else game) = board game := by
    split
    · exact board_cancelRound timers
    · rfl
  rw [gameStartCommand, wp_state_bind, if_pos up, wp_update_bind]
  revert cancelled
  generalize (if game.world.round.isSome then game.cancelRound else game) = now
  intro cancelled
  -- nothing is needed of the lists that were there before: all tiles are created anew
  have timersNow : (board now).timersFit := cancelled ▸ timers
  rw [wp_update_bind]
  apply Wp.bind
  apply wp_worldCreateRandom.mono
  rintro _ later ⟨terrain, links, rfl, alone⟩
  apply Wp.bind
  apply Wp.bind_draws threeDice_draws
  intro str
  apply Wp.bind_draws threeDice_draws
  intro dex
  apply Wp.bind_draws threeDice_draws
  intro con
  apply Wp.bind_draws threeDice_draws
  intro intel
  apply Wp.bind_draws threeDice_draws
  intro wis
  apply Wp.bind
  apply Wp.draw
  intro _
  rw [wp_update]
  apply Wp.bind
  refine Wp.mono (wp_gameStart (settled_alone ?_ ?_ ?_ ?_ ?_ ?_) (ready_rolledPlayer str dex con intel wis 1) fun _ => not_false) ?_
  · intro tile
    simp only [Alone, Function.update_of_ne (Node.noConfusion : Node.tile tile ≠ .sprite .player)]
    exact alone tile
  · rfl
  · rfl
  · rfl
  · exact (by decide : 1 < maxCreatures)
  · exact timersNow
  · intro _ last sound
    rw [wp_update]
    have same : board { last with gameUp := true } = board last := rfl
    rw [same]
    exact sound.playing

end ComputerSystems.Verified
