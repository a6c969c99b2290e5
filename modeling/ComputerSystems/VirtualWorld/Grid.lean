import ComputerSystems.Data.Program
import ComputerSystems.System.DoubleLink

/-! # The game grid

`game_grid.c` and the data of `virtual_world.c` of the game, in the configuration for
640 by 480 pixels.  The player, the creatures and the exit are tiles that are linked
into the list of the grid tile where they are.

The links of all tiles are one map, and the rest of a tile is kept with the structure
it belongs to.  What is only drawn or printed (colours, names, the pixels of
`TileDisplayScreen` and `TileDisplayGrid`, `puts`) is left out, and so are the periods
of the timers, which fire in any order here.
-/

namespace ComputerSystems.VirtualWorld

open ComputerSystems.Data ComputerSystems.System

def gameGridWidth : Nat := 28
def gameGridHeight : Nat := 28
def tileWidth : Nat := 16
def tileHeight : Nat := 16
def maxCreatures : Nat := gameGridWidth
def maxItems : Nat := 16
def maxTimerTasks : Nat := 32

/-! ## Flags -/

def aggressive : BitVec 32 := 1 <<< 0
def ambush : BitVec 32 := 1 <<< 1
def cautious : BitVec 32 := 1 <<< 2
def vision : BitVec 32 := 1 <<< 3
def tracking : BitVec 32 := 1 <<< 4
def flying : BitVec 32 := 1 <<< 5
def isDead : BitVec 32 := 1 <<< 7
def raceHuman : BitVec 32 := 1 <<< 8
def raceElf : BitVec 32 := 1 <<< 9
def raceDwarf : BitVec 32 := 1 <<< 10
def raceHobit : BitVec 32 := 1 <<< 11
def classRanger : BitVec 32 := 1 <<< 12
def classScout : BitVec 32 := 1 <<< 13
def classWizard : BitVec 32 := 1 <<< 14
def classCleric : BitVec 32 := 1 <<< 15
def isPlayer : BitVec 32 := 1 <<< 16
def isCreature : BitVec 32 := 1 <<< 17
def isItem : BitVec 32 := 1 <<< 18
def worldExit : BitVec 32 := 1 <<< 19
def isVisible : BitVec 32 := 1 <<< 24
def showReverse : BitVec 32 := 1 <<< 25
def showFlipped : BitVec 32 := 1 <<< 26
def noFlip : BitVec 32 := 1 <<< 27
def noReverse : BitVec 32 := 1 <<< 28

/-- `flags & mask`, as a condition. -/
def has (flags mask : BitVec 32) : Bool := flags &&& mask != 0

/-! ## Tiles and sprites -/

abbrev TileIndex := Fin (gameGridWidth * gameGridHeight)

abbrev CreatureIndex := Fin maxCreatures

/-- `TheCharacter` and the elements of `TheCreatures`. -/
inductive Sprite where
  | player
  | creature (index : CreatureIndex)
deriving DecidableEq

/-- The tiles that links lead to: the elements of `GameGrid`, sprites, `ExitTile`. -/
inductive Node where
  | tile (index : TileIndex)
  | sprite (sprite : Sprite)
  | exit
deriving DecidableEq

/-- How many nodes there are, and so the length of the longest walk that ends. -/
def nodeCount : Nat := gameGridWidth * gameGridHeight + maxCreatures + 2

inductive Bitmap where
  | terrainCharacters
  | creatures
  | equipment
deriving DecidableEq

/-- A `Tile`, without its links. -/
structure Tile where
  bitmap : Option Bitmap := none
  tileNum : Int := 0
  flags : BitVec 32 := 0
deriving DecidableEq

/-- The functions that an effect calls when its period is over. -/
inductive EffectPoll where
  | spriteMove
  | playerMove
  | attack
deriving DecidableEq

structure EffectTile where
  tile : Tile := {}
  count : Nat := 0
  total : Nat := 0
  deltaX : Int := 0
  deltaY : Int := 0
  locationX : Int := 0
  locationY : Int := 0
  destinationX : Int := 0
  destinationY : Int := 0
  poll : Option EffectPoll := none
deriving DecidableEq

structure ActionTile where
  effect : EffectTile := {}
  affect : Nat := 0
  range : Nat := 0
deriving DecidableEq

structure SpriteStats where
  first : ActionTile := {}
  second : ActionTile := {}
  flags : BitVec 32 := 0
  hp : Int := 0
  str : UInt8 := 0
  dex : UInt8 := 0
  con : UInt8 := 0
  intel : UInt8 := 0
  wis : UInt8 := 0
  ac : UInt8 := 0
  scratch : UInt8 := 0
deriving DecidableEq

/-- `currentWorld` is `NULL` or points to `TheWorld`. -/
structure SpriteTile where
  effect : EffectTile := {}
  stats : SpriteStats := {}
  currentWorld : Bool := false
deriving DecidableEq

/-- `num_items` is the length of `items`. -/
structure PlayerTile where
  player : SpriteTile := {}
  items : List Tile := []
deriving DecidableEq

/-- The two actions of a sprite. -/
inductive Attack where
  | first
  | second
deriving DecidableEq

/-- Where an `EffectTile` is: a sprite begins with one, and so does an action. -/
inductive EffectAt where
  | sprite (sprite : Sprite)
  | action (sprite : Sprite) (attack : Attack)
deriving DecidableEq

/-- A timer of the game: `game_round`, or an effect's `poll` with the effect and the
    tile it is sent to. -/
inductive GameTimer where
  | round
  | effect (poll : EffectPoll) (data : EffectAt) (context : TileIndex)
deriving DecidableEq

/-- An element of `TimerTasks`; the rest of the system uses them as well. -/
inductive TimerSlot where
  | free
  | other
  | game (timer : GameTimer)
deriving DecidableEq

structure World where
  x : Int := 0
  y : Int := 0
  score : Nat := 0
  level : Nat := 0
  round : Option (Fin maxTimerTasks) := none

/-- The globals.  `lastX`, `lastY` and `maxHp` are those of `game_round`.  `nullTileNum`
    is what is read as the tile number of a `NULL` tile: the board has memory there.
    `taken` records which of the items left by creatures the player has picked up. -/
structure Game where
  links : Node → DoubleLink Node := fun _ => {}
  terrain : TileIndex → Tile := fun _ => {}
  exitTile : Tile := {}
  creatures : CreatureIndex → SpriteTile := fun _ => {}
  character : PlayerTile := {}
  world : World := {}
  timers : Fin maxTimerTasks → TimerSlot := fun _ => .free
  gameUp : Bool := false
  screenUp : Bool := false
  lastX : Int := 0
  lastY : Int := 0
  maxHp : Int := 0
  nullTileNum : Int := 0
  taken : CreatureIndex → Bool := fun _ => false

abbrev Play := Program (BitVec 32) Game

/-! ## Reading and writing -/

def Game.sprite (game : Game) : Sprite → SpriteTile
  | .player => game.character.player
  | .creature index => game.creatures index

def Game.setSprite (sprite : Sprite) (value : SpriteTile) (game : Game) : Game :=
  match sprite with
  | .player => { game with character := { game.character with player := value } }
  | .creature index => { game with creatures := Function.update game.creatures index value }

def SpriteTile.action (sprite : SpriteTile) : Attack → ActionTile
  | .first => sprite.stats.first
  | .second => sprite.stats.second

def SpriteTile.setAction (attack : Attack) (value : ActionTile) (sprite : SpriteTile) : SpriteTile :=
  match attack with
  | .first => { sprite with stats := { sprite.stats with first := value } }
  | .second => { sprite with stats := { sprite.stats with second := value } }

def Game.effect (game : Game) : EffectAt → EffectTile
  | .sprite sprite => (game.sprite sprite).effect
  | .action sprite attack => ((game.sprite sprite).action attack).effect

def Game.setEffect (place : EffectAt) (value : EffectTile) (game : Game) : Game :=
  match place with
  | .sprite sprite => game.setSprite sprite { game.sprite sprite with effect := value }
  | .action sprite attack =>
    game.setSprite sprite
      ((game.sprite sprite).setAction attack { (game.sprite sprite).action attack with effect := value })

/-- `tile.flags` of a sprite. -/
def Game.flags (game : Game) (sprite : Sprite) : BitVec 32 := (game.sprite sprite).effect.tile.flags

def Game.setFlags (sprite : Sprite) (flags : BitVec 32) (game : Game) : Game :=
  game.setSprite sprite { game.sprite sprite with
    effect := { (game.sprite sprite).effect with tile := { (game.sprite sprite).effect.tile with flags } } }

def Game.setHp (sprite : Sprite) (hp : Int) (game : Game) : Game :=
  game.setSprite sprite { game.sprite sprite with stats := { (game.sprite sprite).stats with hp } }

def Game.tileOf (game : Game) : Node → Tile
  | .tile index => game.terrain index
  | .sprite sprite => (game.sprite sprite).effect.tile
  | .exit => game.exitTile

/-- `tiles[x + y * GAME_GRID_WIDTH]`, where there is one. -/
def tileAt (x y : Int) : Option TileIndex :=
  let index := x + y * gameGridWidth
  if inside : 0 ≤ index ∧ index.toNat < gameGridWidth * gameGridHeight then some ⟨index.toNat, inside.2⟩ else none

/-- `GameGridTile`. -/
def gameGridTile (game : Game) (x y : Int) : Option TileIndex :=
  if game.world.x ≤ x ∨ game.world.y ≤ y ∨ x < 0 ∨ y < 0 then none else tileAt x y

/-- The tile where a sprite is. -/
def Game.tileUnder (game : Game) (sprite : Sprite) : Option TileIndex :=
  gameGridTile game (game.sprite sprite).effect.locationX (game.sprite sprite).effect.locationY

/-! ## Lists -/

/-- `ListRemove` of a tile that is linked somewhere. -/
def Game.unlink (node : Node) (game : Game) : Game :=
  { game with links := listRemove (game.links node) game.links }

/-- `ListAppend` to the list of a grid tile. -/
def append (node : Node) (tile : TileIndex) : Play Unit := do
  let links ← Program.look fun game =>
    match listAppend nodeCount node (.tile tile) game.links with
    | some links => .ok links
    | none => .error .loop
  Program.update fun game => { game with links }

/-- A search of the list of a grid tile. -/
def findTile (select : Node → Bool) (tile : TileIndex) (game : Game) : Except Stop (Option Node) :=
  match findOn (fun node => (game.links node).next) (.tile tile) select nodeCount
      (game.links (.tile tile)).next with
  | some found => .ok found
  | none => .error .loop

/-! ## Timers -/

/-- `TimerSchedule`: the first free element, if there is one. -/
def timerSchedule (timer : GameTimer) (game : Game) : Option (Fin maxTimerTasks) × Game :=
  match (List.finRange maxTimerTasks).find? fun slot => game.timers slot = .free with
  | some slot => (some slot, { game with timers := Function.update game.timers slot (.game timer) })
  | none => (none, game)

/-- `TimerCancel`. -/
def timerCancel (cancel : Option (Fin maxTimerTasks)) (game : Game) : Game :=
  match cancel with
  | some slot => { game with timers := Function.update game.timers slot .free }
  | none => game

/-! ## Effects -/

/-- `TileEffectNext`. -/
def tileEffectNext (effect : EffectTile) : EffectTile :=
  let count := effect.count + 1
  if effect.total ≤ count then
    { effect with
      locationX := effect.destinationX
      locationY := effect.destinationY
      count := 0 }
  else
    { effect with count }

/-- What `TileEffectStart` does to an effect whose way is free. -/
def effectStart (newX newY : Int) (effect : EffectTile) : EffectTile :=
  let deltaX := (newX - effect.locationX) * ((tileWidth >>> (effect.total >>> 1) : Nat) : Int)
  let deltaY := (newY - effect.locationY) * ((tileHeight >>> (effect.total >>> 1) : Nat) : Int)
  let flags := effect.tile.flags
  let flags :=
    if has flags noReverse then flags
    else if deltaX < 0 then flags ||| showReverse
    else flags &&& ~~~showReverse
  let flags :=
    if has flags noFlip then flags
    else if 0 < deltaY then flags ||| showFlipped
    else flags &&& ~~~showFlipped
  { effect with
    deltaX, deltaY
    destinationX := newX
    destinationY := newY
    count := 1
    tile := { effect.tile with flags } }

/-- How `TileEffectStart` ends: with an error, with the call of `poll` that completes
    an effect of one step, or with the first timer. -/
inductive EffectStarted where
  | refused
  | polls (context : TileIndex)
  | scheduled
deriving DecidableEq

/-- `TileEffectStart`.  The caller makes the call of `poll`. -/
def tileEffectStart (place : EffectAt) (newX newY : Int) (game : Game) : EffectStarted × Game :=
  let effect := game.effect place
  match gameGridTile game effect.locationX effect.locationY, gameGridTile game newX newY with
  | some _, some newTile =>
    if effect.count ≠ 0 then (.refused, game)
    else
      let started := effectStart newX newY effect
      if started.total ≤ started.count then
        (.polls newTile, game.setEffect place { started with count := 0, locationX := newX, locationY := newY })
      else
        let game := game.setEffect place started
        match started.poll with
        | some poll => (.scheduled, (timerSchedule (.effect poll place newTile) game).2)
        | none => (.scheduled, game)
  | _, _ => (.refused, game)

end ComputerSystems.VirtualWorld
