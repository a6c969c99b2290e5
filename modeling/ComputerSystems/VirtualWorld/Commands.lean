import ComputerSystems.VirtualWorld.Round

/-! # The player and the shell commands

`player_move` and the commands of `virtual_world.c`, and runs of the game: a command
of the shell or the firing of a timer, one after the other and in any order.

`TimerPoll` calls the callback of a timer and frees its element afterwards.  Other
parts of the system take and free elements of `TimerTasks` between the steps.
-/

namespace ComputerSystems.VirtualWorld

open ComputerSystems.Data ComputerSystems.System

/-! ## Items -/

def SpriteStats.strengthen (attack : Attack) (affect range : Nat) (tileNum : Int) (stats : SpriteStats) : SpriteStats :=
  let stronger (action : ActionTile) : ActionTile :=
    { affect := action.affect + affect, range := action.range + range
      effect := { action.effect with tile := { action.effect.tile with tileNum } } }
  match attack with
  | .first => { stats with first := stronger stats.first }
  | .second => { stats with second := stronger stats.second }

/-- What armour does for all but a wizard. -/
def wearArmour (tileNum : Int) (stats : SpriteStats) : SpriteStats :=
  let stats := if tileNum = itemArmourSheild then { stats with ac := stats.ac + 2 } else stats
  if has stats.flags classScout then stats
  else if tileNum = itemPlatemail then { stats with ac := 18 }
  else if tileNum = itemSplintmail then { stats with ac := 17 }
  else if tileNum = itemChainmail then { stats with ac := 16 }
  else if tileNum = itemGauntlets then { stats with ac := stats.ac + 1 }
  else stats

/-- What a weapon does for all but a wizard. -/
def wieldWeapon (tileNum : Int) (stats : SpriteStats) : SpriteStats :=
  let stats : SpriteStats :=
    if tileNum = itemWeaponSword ∨ tileNum = itemFlamingSword then stats.strengthen .first 1 0 tileNum
    else if tileNum = itemPowerSword then
      { stats.strengthen .first 1 0 tileNum with str := if 16 ≤ stats.str then stats.str + 3 else 18 }
    else stats
  if ¬ has stats.flags (classCleric ||| classWizard) ∧ tileNum = itemWeaponBow then
    { stats with second := { stats.second with affect := stats.second.affect + 1, range := 3 } }
  else stats

/-- The staff, and for a cleric the lightning sword. -/
def channelMagic (stats : SpriteStats) : SpriteStats :=
  (stats.strengthen .first 2 0 itemPowerStaff).strengthen .second 1 2 itemBall

/-- What an item that is no potion does for the player. -/
def equip (tileNum : Int) (stats : SpriteStats) : SpriteStats :=
  let stats : SpriteStats :=
    if tileNum = itemArmourLeather then { stats with ac := stats.ac + 1 }
    else if ¬ has stats.flags classWizard then wieldWeapon tileNum (wearArmour tileNum stats)
    else if tileNum = itemPowerStaff then channelMagic stats
    else stats
  if tileNum = itemHelmet then { stats with ac := stats.ac + 1 }
  else if tileNum = itemLightningSword ∧ has stats.flags classCleric then channelMagic stats
  else stats

def Game.setStats (stats : SpriteStats) (game : Game) : Game :=
  game.setSprite .player { game.character.player with stats }

/-- `items[num_items++] = *stackedTile`. -/
def storeItem (item : Tile) : Play Unit := do
  let game ← Program.state
  if game.character.items.length < maxItems then
    Program.update fun game =>
      { game with character := { game.character with items := game.character.items ++ [item] } }
  else
    Program.halt .fault

/-- The player picks up a tile that is an item. -/
def takeItem (node : Node) : Play Unit := do
  let game ← Program.state
  let item := game.tileOf node
  let stats := game.character.player.stats
  if item.tileNum = itemPotion then
    Program.update (Game.setStats { stats with hp := stats.hp + 8 })
  else
    Program.update (Game.setStats (equip item.tileNum stats))
    storeItem item
  Program.update (Game.unlink node)
  Program.update fun game =>
    match node with
    | .sprite (.creature i) => { game with taken := Function.update game.taken i true }
    | _ => game

/-- The first item in the list of a tile. -/
def findItem (context : TileIndex) (game : Game) : Except Stop (Option Node) :=
  findTile (fun node => has (game.tileOf node).flags isItem) context game

/-- The player picks up an item of a tile, if there is room and it has none like it. -/
def pickUp (context : TileIndex) : Play Unit := do
  let game ← Program.state
  let occupied := (game.links (.tile context)).next.elim false fun next => next ≠ .tile context
  -- `<=`, so that the search is also made when the list is full
  if occupied ∧ game.character.items.length ≤ maxItems then
    match ← Program.look (findItem context) with
    | some node => if carries (game.tileOf node).tileNum game.character then pure () else takeItem node
    | none => pure ()
  else
    pure ()

/-! ## Moves of the player -/

/-- `player_move_callback`. -/
def playerMoveCallback (context : TileIndex) : Play Unit := do
  Program.update (Game.advance (.sprite .player))
  let game ← Program.state
  if game.character.player.effect.count = 0 then
    relink .player
    playerLook
    let game ← Program.state
    -- the tile is the one that the timer was started with, also on a new level
    if has (game.terrain context).flags worldExit then gameLevelUp else pickUp context
  else
    Program.update (Game.again .playerMove (.sprite .player) context)

/-- Whether the player may enter a terrain. -/
def playerEnters (terrain : Int) (character : PlayerTile) : Bool :=
  if terrain = terrainMountains then carriesBehindFirst itemMagicBoots character
  else if terrain = terrainWater then carriesBehindFirst itemMagicBelt character
  else true

/-- `player_move`. -/
def playerMove (tileX tileY : Int) : Play Int := do
  let game ← Program.state
  let terrain := (gameGridTile game tileX tileY).elim game.nullTileNum fun tile => (game.terrain tile).tileNum
  if game.character.player.effect.underWay || !playerEnters terrain game.character then
    pure (-1)
  else
    match ← startMove .playerMove .player tileX tileY with
    | .refused => pure (-1)
    | .scheduled => pure 0
    | .polls context => do
      playerMoveCallback context
      pure 0

/-! ## Commands -/

/-- `GamePause`. -/
def gamePause (game : Game) : Game :=
  if game.gameUp then { game.cancelRound with gameUp := false }
  else { game.scheduleRound with gameUp := true }

/-- `GameStart`. -/
def gameStartCommand : Play Unit := do
  let game ← Program.state
  if game.screenUp then
    Program.update fun game => if game.world.round.isSome then game.cancelRound else game
    Program.update fun game =>
      { game with world := { game.world with x := gameGridWidth, y := gameGridHeight, level := 0, score := 0 } }
    worldCreateRandom {}
    playerCreateRandom
    gameStart
    Program.update fun game => { game with gameUp := true }
  else
    pure ()

/-- `Action`. -/
def action : Play Unit := do
  let game ← Program.state
  if game.gameUp then
    match ← Program.look (spriteFindNearest .player) with
    | some nearby =>
      match ← Program.look (attackRange .player nearby) with
      | some attack => creatureAttack .player attack nearby
      | none => pure ()
    | none => pure ()
  else
    pure ()

/-- The body of the commands that move the player. -/
def moveCommand (x y : Int) : Play Unit := do
  let game ← Program.state
  let effect := game.character.player.effect
  if game.gameUp then
    let _ ← playerMove (effect.locationX + x) (effect.locationY + y)
  else
    pure ()

def north : Play Unit := moveCommand 0 (-1)
def south : Play Unit := moveCommand 0 1
def east : Play Unit := moveCommand 1 0
def west : Play Unit := moveCommand (-1) 0
def northEast : Play Unit := moveCommand 1 (-1)
def northWest : Play Unit := moveCommand (-1) (-1)
def southEast : Play Unit := moveCommand 1 1
def southWest : Play Unit := moveCommand (-1) 1

/-! ## Runs -/

inductive Command where
  | gameStart
  | gamePause
  | action
  | north
  | south
  | east
  | west
  | northEast
  | northWest
  | southEast
  | southWest
deriving DecidableEq

def Command.run : Command → Play Unit
  | .gameStart => gameStartCommand
  | .gamePause => Program.update VirtualWorld.gamePause
  | .action => VirtualWorld.action
  | .north => VirtualWorld.north
  | .south => VirtualWorld.south
  | .east => VirtualWorld.east
  | .west => VirtualWorld.west
  | .northEast => VirtualWorld.northEast
  | .northWest => VirtualWorld.northWest
  | .southEast => VirtualWorld.southEast
  | .southWest => VirtualWorld.southWest

/-- The callback of a timer. -/
def GameTimer.callback : GameTimer → Play Unit
  | .round => gameRound
  | .effect .spriteMove (.sprite sprite) context => spriteMoveCallback sprite context
  | .effect .playerMove (.sprite .player) context => playerMoveCallback context
  | .effect .attack (.action sprite attack) context => attackCallback sprite attack context
  | .effect _ _ _ => Program.halt .fault

/-- A command, the firing of a timer, or a timer that another part of the system takes
    or frees. -/
inductive GameEvent where
  | command (typed : Command)
  | fire (slot : Fin maxTimerTasks)
  | others (slot : Fin maxTimerTasks) (busy : Bool)
deriving DecidableEq

def GameEvent.play : GameEvent → Play Unit
  | .command typed => typed.run
  | .fire slot => do
    let game ← Program.state
    match game.timers slot with
    | .game timer => do
      timer.callback
      Program.update (timerCancel (some slot))
    | .free | .other => pure ()
  | .others slot busy =>
    Program.update fun game =>
      match game.timers slot with
      | .game _ => game
      | .free | .other => { game with timers := Function.update game.timers slot (if busy then .other else .free) }

/-- A step of a run: an event and the random numbers it may draw. -/
def gameStep (game : Game) (step : GameEvent × List (BitVec 32)) : Except Stop Game :=
  Program.exec step.1.play step.2 game

/-- A run.  A step that is still drawing leads to no further state. -/
def play (game : Game) (steps : List (GameEvent × List (BitVec 32))) : Except Stop Game :=
  steps.foldlM gameStep game

/-- The globals before the game is started, with the screen up. -/
def boot (nullTileNum : Int) (timers : Fin maxTimerTasks → Bool) : Game where
  screenUp := true
  nullTileNum := nullTileNum
  timers slot := if timers slot then .other else .free

end ComputerSystems.VirtualWorld
