import ComputerSystems.VirtualWorld.Grid

/-! # Creating the world

The functions of `virtual_world.c` that create the terrain, the player and the
creatures of a level, with the tile numbers of `denzi_data.h`.  They place sprites at
random until a place suits, which draws random numbers; `srand` starts others.
-/

namespace ComputerSystems.VirtualWorld

open ComputerSystems.Data ComputerSystems.System

/-! ## Tile numbers -/

def itemPotion : Int := 0
def itemWeaponSword : Int := 1
def itemArmourSheild : Int := 2
def itemArmourLeather : Int := 3
def itemWeaponBow : Int := 5
def itemWeaponArrow : Int := 6
def itemMagicBoots : Int := 7
def itemGauntlets : Int := 12
def itemHelmet : Int := 15
def itemChainmail : Int := 19
def itemBattleaxe : Int := 25
def itemPlatemail : Int := 32
def itemSplintmail : Int := 33
def itemDart : Int := 41
def itemMagicBelt : Int := 42
def itemPowerStaff : Int := 48
def itemBall : Int := 67
def itemSparkleSword : Int := 78
def itemFlamingSword : Int := 79
def itemLightningSword : Int := 80
def itemPowerSword : Int := 81

def creatureBat : Int := 1
def creatureGiantBug : Int := 9
def creatureLandSquid : Int := 18
def creatureManticore : Int := 23
def creatureShark : Int := 26
def creatureGiantRat : Int := 32
def creatureDragonFly : Int := 70

def terrainCrags : Int := 8
def terrainHills : Int := 9
def terrainGrasslands : Int := 10
def terrainWater : Int := 20
def terrainMountains : Int := 90
def terrainOakForest : Int := 91
def terrainPinePrairie : Int := 94
def structureDoorOpen : Int := 5
def structureTown : Int := 87

def characterBarbarian : Int := 160
def characterWizard : Int := 161
def characterCleric : Int := 164
def characterScout : Int := 211

/-! ## Terrain -/

/-- The preferences that `world_create_random` is given. -/
structure Coasts where
  west : Bool := false
  east : Bool := false
  north : Bool := false
  south : Bool := false
  mountainous : Bool := false

/-- The terrain that a random number stands for; one of them rolls for a town. -/
def rollTerrain (random : BitVec 32) : Play Int := do
  let random := (((random &&& 0xF) ^^^ ((random &&& 0xF0) >>> 8)) &&& 0xF).toNat + 90
  if random = 95 then pure terrainCrags
  else if random = 96 then pure terrainHills
  else if random = 97 then pure terrainGrasslands
  else if random = 98 ∨ random = 99 then pure terrainWater
  else if random = 100 then
    let town ← Program.draw
    pure (if town &&& 0xF = 0xF then structureTown else terrainWater)
  else if 101 ≤ random then pure (random - 11 : Nat)
  else pure random

/-- The terrain of a tile below the first row, changed to continue that above it. -/
def continueTerrain (coasts : Coasts) (above left right terrain : Int) : Int :=
  if terrain = terrainGrasslands then terrain
  else if terrain ≠ terrainWater ∧
      (((coasts.west ∨ coasts.north) ∧ above = terrainWater ∧ left = terrainWater) ∨
        ((coasts.east ∨ coasts.south) ∧ above = terrainWater ∧ right = terrainWater)) then terrainWater
  else if terrain ≠ terrainMountains ∧ coasts.mountainous ∧
      above = terrainMountains ∧ left = terrainMountains then terrainMountains
  else terrain

/-- The tile number at a place, 0 beside the grid. -/
def tileNumAt (game : Game) (x y : Int) : Int :=
  if x < 0 ∨ gameGridWidth ≤ x then 0 else (tileAt x y).elim 0 fun tile => (game.terrain tile).tileNum

/-- The terrain that `world_create_random` chooses for a tile. -/
def chooseTerrain (coasts : Coasts) (x y : Nat) : Play Int := do
  let random ← Program.draw
  if (coasts.north ∧ y = 0) ∨ (coasts.south ∧ gameGridHeight - 2 ≤ y) ∨
      (coasts.west ∧ x = 0) ∨ (coasts.east ∧ gameGridWidth - 2 ≤ x) then
    pure terrainWater
  else
    let terrain ← rollTerrain random
    let game ← Program.state
    if 0 < y then
      pure (continueTerrain coasts (tileNumAt game x (y - 1)) (tileNumAt game (x - 1) (y - 1))
        (tileNumAt game (x + 1) (y - 1)) terrain)
    else
      pure terrain

/-- `!= 0` of a random number and a mask. -/
def coin (mask : BitVec 32) : Play Bool := do
  let random ← Program.draw
  pure (has random mask)

/-- Whether a tile of this terrain is flipped: only some are, and those toss twice. -/
def flipTerrain (terrain : Int) : Play Bool := do
  if (terrain < terrainOakForest ∨ terrainPinePrairie < terrain) ∧ terrain ≠ structureTown then
    if ← coin (1 <<< 1) then
      if terrain ≠ terrainMountains then coin (1 <<< 1) else pure false
    else pure false
  else pure false

/-- A tile of the grid, with no tile linked to it. -/
def Game.setTerrain (tile : TileIndex) (terrain : Int) (game : Game) : Game :=
  { game with
    terrain := Function.update game.terrain tile { bitmap := some .terrainCharacters, tileNum := terrain, flags := 0 }
    links := Function.update game.links (.tile tile)
      { next := some (.tile tile), previous := some (.tile tile) } }

def Game.setTerrainFlags (tile : TileIndex) (flags : BitVec 32) (game : Game) : Game :=
  { game with terrain := Function.update game.terrain tile { game.terrain tile with flags } }

/-- One tile of `world_create_random`. -/
def createTile (coasts : Coasts) (tile : TileIndex) : Play Unit := do
  let terrain ← chooseTerrain coasts (tile.val % gameGridWidth) (tile.val / gameGridWidth)
  Program.update (Game.setTerrain tile terrain)
  let reverse ← coin (1 <<< 0)
  Program.update fun game => if reverse then game.setTerrainFlags tile showReverse else game
  let flipped ← flipTerrain terrain
  Program.update fun game => if flipped then game.setTerrainFlags tile showFlipped else game

/-- `world_create_random`: the tiles row by row. -/
@[irreducible] def worldCreateRandom (coasts : Coasts) : Play Unit :=
  Program.each (createTile coasts) (List.finRange _)

/-! ## Looking around -/

/-- The coordinates from `centre - distance` to `centre + distance` that are on a grid
    of that size. -/
def span (centre : Int) (distance size : Nat) : List Int :=
  let start := max (centre - distance) 0
  let stop := min (centre + distance) (size - 1)
  (List.range (stop - start + 1).toNat).map fun offset : Nat => start + offset

/-- The places within a distance, row by row. -/
def around (x y : Int) (distance : Nat) : List (Int × Int) :=
  (span y distance gameGridHeight).flatMap fun y => (span x distance gameGridWidth).map fun x => (x, y)

/-- How far a sprite can see. -/
def perception (sprite : SpriteTile) : Nat :=
  if has sprite.stats.flags tracking then 5 else if has sprite.stats.flags vision then 3 else 1

def Game.reveal (tile : TileIndex) (game : Game) : Game :=
  game.setTerrainFlags tile ((game.terrain tile).flags ||| isVisible)

/-- One tile of `player_look`. -/
def lookAt (place : Int × Int) : Play Unit := do
  let game ← Program.state
  match gameGridTile game place.1 place.2 with
  | some tile => Program.update (Game.reveal tile)
  | none => Program.halt .fault

/-- `player_look`. -/
def playerLook : Play Unit := do
  let game ← Program.state
  let player := game.character.player
  Program.each lookAt (around player.effect.locationX player.effect.locationY (perception player))

/-! ## Creatures -/

/-- `sprite_initialize`, but for the links. -/
def spriteInitialize (sprite : SpriteTile) : SpriteTile :=
  let cleared (tileNum : Int) (effect : EffectTile) : EffectTile :=
    { effect with
      tile := { bitmap := some .equipment, tileNum, flags := isVisible }
      count := 0, total := 0, locationX := 0, destinationX := 0 }
  { sprite with
    currentWorld := true
    effect := { sprite.effect with
      tile := { sprite.effect.tile with bitmap := some .creatures }
      locationX := 0, destinationX := 0, locationY := 0, destinationY := 0, count := 0 }
    stats := { sprite.stats with
      first := { sprite.stats.first with effect := cleared itemGauntlets sprite.stats.first.effect }
      second := { sprite.stats.second with effect := cleared itemDart sprite.stats.second.effect }
      scratch := 0 } }

/-- `sprite_initialize` of a sprite, with its links. -/
def Game.initializeSprite (sprite : Sprite) (game : Game) : Game :=
  { game.setSprite sprite (spriteInitialize (game.sprite sprite)) with
    links := Function.update game.links (.sprite sprite) {} }

/-- What `game_start` assigns to a creature of a kind. -/
structure CreatureKind where
  tileFlags : BitVec 32
  tileNum : Int
  ac : UInt8
  hp : Int
  str : UInt8
  dex : UInt8
  intel : UInt8 := 4
  con : UInt8 := 10
  wis : UInt8 := 3
  flags : BitVec 32
  firstTileNum : Option Int := none
  firstAffect : Nat
  secondAffect : Nat := 0
  secondRange : Nat := 0

def giantBeetle (i : Nat) : CreatureKind where
  tileFlags := isVisible ||| isCreature ||| noFlip
  tileNum := creatureGiantBug
  ac := 15
  hp := 9 + i
  str := 16
  dex := 12
  flags := aggressive ||| vision ||| tracking
  firstAffect := if 5 < i then 2 else 1

def bat (i : Nat) : CreatureKind where
  tileFlags := isVisible ||| isCreature
  tileNum := creatureBat
  firstTileNum := some itemSparkleSword
  ac := 12
  hp := 6 + i
  str := 8
  dex := 16
  flags := cautious ||| vision ||| flying
  firstAffect := 1

def landSquid (i : Nat) : CreatureKind where
  tileFlags := isCreature ||| noFlip
  tileNum := creatureLandSquid
  ac := 12
  hp := 10 + i
  str := 16
  dex := 9
  flags := aggressive ||| ambush ||| vision
  firstAffect := 2

def whiteShark (i : Nat) : CreatureKind where
  tileFlags := isCreature
  tileNum := creatureShark
  ac := 14
  hp := 15 + i
  str := 18
  dex := 16
  flags := aggressive ||| ambush ||| tracking
  firstAffect := 2

def manticore (i : Nat) : CreatureKind where
  tileFlags := isVisible ||| isCreature ||| noFlip
  tileNum := creatureManticore
  ac := 20
  hp := i
  str := 16
  dex := 16
  flags := aggressive ||| flying ||| vision ||| ambush
  firstAffect := 2
  secondAffect := 2
  secondRange := 3

def giantRat (i : Nat) : CreatureKind where
  tileFlags := isVisible ||| isCreature ||| noFlip
  tileNum := creatureGiantRat
  ac := 14
  hp := 15 + i
  str := 16
  dex := 16
  flags := aggressive ||| vision
  firstAffect := 3

def dragonWasp (i : Nat) : CreatureKind where
  tileFlags := isVisible ||| isCreature
  tileNum := creatureDragonFly
  ac := 24
  hp := 25 + i
  str := 18
  dex := 18
  intel := 10
  con := 18
  wis := 13
  flags := aggressive ||| flying ||| vision ||| tracking
  firstAffect := 5
  secondAffect := 3
  secondRange := 5

/-- The kind of the creature at an index; `roll % 100` of a signed `roll`. -/
def creatureKind (i : Nat) (roll : BitVec 32) : CreatureKind :=
  let percent := roll.toInt.tmod 100
  if i < 7 then if percent < 50 then giantBeetle i else bat i
  else if i < 16 then if percent < 50 then landSquid i else whiteShark i
  else if percent < 45 then manticore i
  else if percent < 90 then giantRat i
  else dragonWasp i

def CreatureKind.assign (kind : CreatureKind) (sprite : SpriteTile) : SpriteTile :=
  { sprite with
    effect := { sprite.effect with
      tile := { sprite.effect.tile with tileNum := kind.tileNum, flags := kind.tileFlags } }
    stats := { sprite.stats with
      ac := kind.ac, hp := kind.hp, str := kind.str, dex := kind.dex
      intel := kind.intel, con := kind.con, wis := kind.wis, flags := kind.flags
      first := { sprite.stats.first with
        affect := kind.firstAffect
        range := 1
        effect := { sprite.stats.first.effect with
          tile := { sprite.stats.first.effect.tile with
            tileNum := kind.firstTileNum.getD sprite.stats.first.effect.tile.tileNum } } }
      second := { sprite.stats.second with affect := kind.secondAffect, range := kind.secondRange } } }

/-! ## Places -/

/-- A random coordinate on a side of the grid. -/
def randomCoordinate (size : Nat) : Play Int := do
  let random ← Program.draw
  let coordinate := (random &&& (BitVec.ofNat 32 (gameGridWidth - 1) ||| 0xF)).toInt
  pure (if (size : Int) - 1 < coordinate then coordinate - 5 else coordinate)

/-- A random place that suits, given the tile number there. -/
def randomPlace (suits : Int → Int → Int → Bool) : Play (Int × Int) :=
  Program.untilSome do
    let x ← randomCoordinate gameGridWidth
    let y ← randomCoordinate gameGridHeight
    let terrain ← Program.look fun game =>
      match tileAt x y with
      | some tile => .ok (game.terrain tile).tileNum
      | none => .error .fault
    pure (if suits terrain x y then some (x, y) else none)

/-- Whether a creature may be placed on a terrain. -/
def creatureSuits (creature : SpriteTile) (terrain : Int) : Bool :=
  let kind := creature.effect.tile.tileNum
  if has creature.stats.flags flying then true
  else if terrain = terrainMountains ∧ kind = creatureLandSquid then false
  else if terrain = terrainWater then kind = creatureShark ∨ kind ≠ creatureGiantBug
  else kind ≠ creatureShark

/-- The exit is not in the mountains, in the water or on the edge. -/
def exitSuits (terrain x y : Int) : Bool :=
  terrain ≠ terrainMountains ∧ terrain ≠ terrainWater ∧ x ≠ 0 ∧ y ≠ 0 ∧
    x ≠ gameGridWidth - 1 ∧ y ≠ gameGridHeight - 1

def playerSuits (terrain : Int) : Bool := terrain ≠ terrainMountains ∧ terrain ≠ terrainWater

/-- `locationX = destinationX = x` and the same for `y`. -/
def Game.place (sprite : Sprite) (x y : Int) (game : Game) : Game :=
  game.setEffect (.sprite sprite) { (game.sprite sprite).effect with
    locationX := x, destinationX := x, locationY := y, destinationY := y }

/-- `ListAppend` of a sprite to the tile where it has been placed. -/
def appendAt (node : Node) (tile : Option TileIndex) : Play Unit :=
  match tile with
  | some tile => append node tile
  | none => Program.halt .fault

/-- A creature of the loop of `game_start`: only the first seven are initialised. -/
def createCreature (i : CreatureIndex) : Play Unit := do
  let roll ← Program.draw
  -- the later ones keep the effect and the links that they had, and have no world
  Program.update fun game => if i.val < 7 then game.initializeSprite (.creature i) else game
  Program.update fun game =>
    { game.setSprite (.creature i) ((creatureKind i roll).assign (game.creatures i)) with
      taken := Function.update game.taken i false }
  let game ← Program.state
  let (x, y) ← randomPlace fun terrain _ _ => creatureSuits (game.creatures i) terrain
  Program.update (Game.place (.creature i) x y)
  let game ← Program.state
  appendAt (.sprite (.creature i)) (gameGridTile game x y)

/-- The elements of `TheCreatures` that a level has; `level` is below `MAX_CREATURES`. -/
def creaturesOf (level : Nat) : Play (List CreatureIndex) :=
  if level + 1 ≤ maxCreatures then pure ((List.finRange maxCreatures).filter fun i => i.val < level + 1)
  else Program.halt .fault

/-- The exit of the level. -/
def createExit : Play Unit := do
  let (x, y) ← randomPlace exitSuits
  Program.update fun game =>
    { game with
      exitTile := { bitmap := some .terrainCharacters, tileNum := structureDoorOpen, flags := isVisible }
      links := Function.update game.links .exit {} }
  Program.update fun game =>
    (tileAt x y).elim game fun tile => game.setTerrainFlags tile ((game.terrain tile).flags ||| worldExit)
  appendAt .exit (tileAt x y)

/-- The player's place on a new level. -/
def placePlayer : Play Unit := do
  let (x, y) ← randomPlace fun terrain _ _ => playerSuits terrain
  Program.update fun game =>
    game.setSprite .player { game.character.player with currentWorld := true }
  Program.update (Game.place .player x y)
  appendAt (.sprite .player) (tileAt x y)

/-- `TheWorld.round = TimerSchedule(..., game_round, ...)`. -/
def Game.scheduleRound (game : Game) : Game :=
  let (round, game) := timerSchedule .round game
  { game with world := { game.world with round } }

/-- `TimerCancel(TheWorld.round)`, `TheWorld.round = NULL`. -/
def Game.cancelRound (game : Game) : Game :=
  { timerCancel game.world.round game with world := { game.world with round := none } }

/-- `game_start`. -/
def gameStart : Play Unit := do
  let game ← Program.state
  let creatures ← creaturesOf game.world.level
  Program.each createCreature creatures
  createExit
  placePlayer
  playerLook
  Program.update Game.scheduleRound

/-! ## Levels -/

/-- What the portal does for a wizard. -/
def wizardLevel (score : Nat) (player : SpriteTile) : SpriteTile :=
  if has player.stats.flags classWizard then
    let first : ActionTile := { player.stats.first with affect := 1 + score >>> 3 }
    let second :=
      if 1 < first.affect then
        let second : ActionTile := { player.stats.second with affect := 0 + score >>> 3, range := 3 + score >>> 4 }
        if 2 ≤ second.affect then
          { second with effect := { second.effect with tile := { second.effect.tile with tileNum := itemBall } } }
        else second
      else player.stats.second
    { player with stats := { player.stats with first, second } }
  else player

/-- The coasts of a level with this number of creatures. -/
def levelCoasts (creatures : Nat) : Coasts :=
  if gameGridWidth < creatures then
    { west := true, north := true, east := true, south := true, mountainous := true }
  else if gameGridWidth - gameGridWidth / 4 < creatures then { north := true, west := true, mountainous := true }
  else if gameGridWidth / 2 < creatures then { north := true, west := true }
  else if gameGridWidth / 8 < creatures then { north := true }
  else {}

/-- `game_level_up`. -/
def gameLevelUp : Play Unit := do
  Program.update fun game => if game.world.round.isSome then game.cancelRound else game
  Program.update fun game => game.setSprite .player (wizardLevel game.world.score game.character.player)
  Program.update fun game =>
    if game.world.level < maxCreatures - 1 then
      { game with world := { game.world with level := game.world.level + 1 } }
    else game
  let game ← Program.state
  worldCreateRandom (levelCoasts (game.world.level + 1))
  gameStart

/-! ## The player -/

/-- The sum of three dice. -/
def threeDice : Play UInt8 := do
  let first ← Program.draw
  let second ← Program.draw
  let third ← Program.draw
  pure (UInt8.ofNat ((first % 6).toNat + 1) + UInt8.ofNat ((second % 6).toNat + 1) + UInt8.ofNat ((third % 6).toNat + 1))

/-- The class that the highest ability decides: its flags, tile and hit points. -/
def chooseClass (stats : SpriteStats) : BitVec 32 × Int × Int :=
  if stats.dex < stats.intel ∧ stats.str < stats.intel ∧ stats.wis < stats.intel then
    (classWizard, characterWizard, 6)
  else if stats.dex < stats.wis ∧ stats.intel < stats.wis ∧ stats.str < stats.wis then
    (classCleric, characterCleric, 8)
  else if stats.wis < stats.dex ∧ stats.intel < stats.dex ∧ stats.str < stats.dex then
    (classScout ||| tracking, characterScout, 8)
  else (classRanger ||| tracking, characterBarbarian, 10)

/-- The race, and the abilities that it improves. -/
def chooseRace (stats : SpriteStats) : SpriteStats :=
  if 10 < stats.con then
    { stats with
      flags := stats.flags ||| raceHuman
      str := stats.str + 1, dex := stats.dex + 1, con := stats.con + 1
      intel := stats.intel + 1, wis := stats.wis + 1 }
  else if has stats.flags classRanger then
    { stats with flags := stats.flags ||| raceDwarf, str := stats.str + 2, con := stats.con + 2 }
  else if has stats.flags classWizard then
    { stats with flags := stats.flags ||| raceElf, intel := stats.intel + 1, dex := stats.dex + 2 }
  else if has stats.flags classCleric then
    { stats with flags := stats.flags ||| raceDwarf, wis := stats.wis + 1, con := stats.con + 2 }
  else if has stats.flags classScout then
    { stats with flags := stats.flags ||| raceHobit, dex := stats.dex + 2, con := stats.con + 1 }
  else stats

/-- The player with the abilities that have been rolled. -/
def rolledPlayer (str dex con intel wis : UInt8) : SpriteTile :=
  let fresh := spriteInitialize {}
  let stats : SpriteStats := { fresh.stats with flags := aggressive ||| vision, str, dex, con, intel, wis }
  let (flags, tileNum, hp) := chooseClass stats
  let stats := chooseRace { stats with flags := stats.flags ||| flags, hp }
  let stats : SpriteStats := { stats with ac := if 10 < stats.dex then 10 + ((stats.dex - 10) >>> (1 : UInt8)) else 10 }
  let wizard := has stats.flags classWizard
  let withTile (tileNum : Int) (effect : EffectTile) : EffectTile := { effect with tile := { effect.tile with tileNum } }
  { fresh with
    effect := { fresh.effect with
      tile := { bitmap := some .terrainCharacters, tileNum, flags := isPlayer ||| isVisible ||| noFlip } }
    stats := { stats with
      first := { affect := 1, range := 1, effect := withTile (if wizard then itemDart else itemGauntlets) stats.first.effect }
      second := { affect := 0, range := 0
                  effect := withTile (if wizard then itemDart else itemWeaponArrow) stats.second.effect } } }

/-- `player_create_random`; the last random number is for the name. -/
def playerCreateRandom : Play Unit := do
  let str ← threeDice
  let dex ← threeDice
  let con ← threeDice
  let intel ← threeDice
  let wis ← threeDice
  let _ ← Program.draw
  Program.update fun game =>
    { game with
      links := Function.update game.links (.sprite .player) {}
      character := { player := rolledPlayer str dex con intel wis, items := [] }
      world := { game.world with level := 1, score := 0 } }

end ComputerSystems.VirtualWorld
