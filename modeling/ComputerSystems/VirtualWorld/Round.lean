import ComputerSystems.VirtualWorld.World

/-! # Moves, attacks and rounds

What the creatures do in a round of the game: `sprite_move`, `creature_attack`,
`sprite_find_nearest` and `game_round` of `virtual_world.c`, with the callbacks of the
effects that they start.

An effect's `poll` is the callback that its starter has just assigned, so the starter
makes the call where `TileEffectStart` completes at once.
-/

namespace ComputerSystems.VirtualWorld

open ComputerSystems.Data ComputerSystems.System

/-! ## Moves -/

/-- `ListRemove` of a sprite, and `ListAppend` to the tile at its location. -/
def relink (sprite : Sprite) : Play Unit := do
  Program.update (Game.unlink (.sprite sprite))
  let game ← Program.state
  match game.tileUnder sprite with
  | some tile => append (.sprite sprite) tile
  | none => pure ()

/-- The next step of an effect, if it is active. -/
def Game.advance (place : EffectAt) (game : Game) : Game :=
  if (game.effect place).count ≠ 0 then game.setEffect place (tileEffectNext (game.effect place)) else game

/-- The next timer of an effect that goes on. -/
def Game.again (poll : EffectPoll) (place : EffectAt) (context : TileIndex) (game : Game) : Game :=
  (timerSchedule (.effect poll place context) game).2

/-- `sprite_move_callback`. -/
def spriteMoveCallback (sprite : Sprite) (context : TileIndex) : Play Unit := do
  Program.update (Game.advance (.sprite sprite))
  let game ← Program.state
  -- nothing is asked here about whether the sprite is still in a list
  if (game.sprite sprite).effect.count ≠ 0 then
    Program.update (Game.again .spriteMove (.sprite sprite) context)
  else
    relink sprite

/-- `effect.locationX != effect.destinationX || effect.count`. -/
def EffectTile.underWay (effect : EffectTile) : Bool :=
  effect.locationX ≠ effect.destinationX ∨ effect.count ≠ 0

/-- Whether a sprite that cannot fly may enter a terrain. -/
def mayEnter (kind terrain : Int) : Bool :=
  ¬ (terrain = terrainMountains ∧ kind = creatureLandSquid) ∧
    if terrain = terrainWater then kind ≠ creatureGiantBug else kind ≠ creatureShark

/-- A sprite set up for a move in four steps. -/
def SpriteTile.prepareMove (poll : EffectPoll) (sprite : SpriteTile) : SpriteTile :=
  { sprite with
    effect := { sprite.effect with
      tile := { sprite.effect.tile with flags := sprite.effect.tile.flags &&& ~~~isVisible ||| isVisible }
      total := 4
      poll := some poll } }

/-- The end of `sprite_move` and `player_move`: the effect is set up and started. -/
def startMove (poll : EffectPoll) (sprite : Sprite) (tileX tileY : Int) : Play EffectStarted :=
  Program.change fun game =>
    tileEffectStart (.sprite sprite) tileX tileY
      (game.setSprite sprite ((game.sprite sprite).prepareMove poll))

/-- `sprite_move`. -/
def spriteMove (sprite : Sprite) (tileX tileY : Int) : Play Int := do
  let game ← Program.state
  let creature := game.sprite sprite
  let enters : Bool := has creature.stats.flags flying ||
    (gameGridTile game tileX tileY).elim false fun tile =>
      mayEnter creature.effect.tile.tileNum (game.terrain tile).tileNum
  if creature.effect.underWay || !enters then
    pure (-1)
  else
    match ← startMove .spriteMove sprite tileX tileY with
    | .refused => pure (-1)
    | .scheduled => pure 0
    | .polls context => do
      spriteMoveCallback sprite context
      pure 0

/-- One or zero, negative for a negative random number. -/
def randomOffset : Play Int := do
  let random ← Program.draw
  let offset : Int := if (random &&& 0x0F).toNat < 8 then 1 else 0
  pure (if random.toInt < 0 then -offset else offset)

/-- An offset that would leave the grid is reversed. -/
def turnBack (size : Nat) (location offset : Int) : Int :=
  if (size : Int) - 1 < location + offset ∨ location + offset < 0 then -offset else offset

/-- `sprite_move_random`. -/
def spriteMoveRandom (sprite : Sprite) : Play Unit := do
  let game ← Program.state
  let creature := game.sprite sprite
  if creature.effect.locationX < 0 ∨ creature.effect.locationY < 0 ∨ has creature.stats.flags isDead ∨
      creature.stats.hp ≤ 0 then
    pure ()
  else
    let randX ← randomOffset
    let randY ← randomOffset
    if randX ≠ 0 ∨ randY ≠ 0 then
      let randX := turnBack gameGridWidth creature.effect.locationX randX
      let randY := turnBack gameGridHeight creature.effect.locationY randY
      let _ ← spriteMove sprite (creature.effect.locationX + randX) (creature.effect.locationY + randY)
    else
      pure ()

/-! ## Attacks -/

/-- `attack_callback`; what it draws at the end is left out. -/
def attackCallback (sprite : Sprite) (attack : Attack) (context : TileIndex) : Play Unit :=
  Program.update fun game =>
    let game := game.advance (.action sprite attack)
    if (game.effect (.action sprite attack)).count ≠ 0 then game.again .attack (.action sprite attack) context
    else game

def carries (tileNum : Int) (character : PlayerTile) : Bool :=
  character.items.any fun item => item.tileNum = tileNum

/-- The search for an item with `if (!i || (i == num_items))` after it: the first item
    does not count. -/
def carriesBehindFirst (tileNum : Int) (character : PlayerTile) : Bool :=
  (character.items.head?.elim false fun item => item.tileNum ≠ tileNum) && carries tileNum character

/-- The tile number under a sprite. -/
def terrainUnder (game : Game) (sprite : Sprite) : Except Stop Int :=
  match game.tileUnder sprite with
  | some tile => .ok (game.terrain tile).tileNum
  | none => .error .fault

/-- `attack_range`. -/
def attackRange (attacker attacked : Sprite) (game : Game) : Except Stop (Option Attack) := do
  let creature := game.sprite attacker
  let nearby := game.sprite attacked
  let deltaX := (creature.effect.locationX - nearby.effect.locationX).natAbs
  let deltaY := (creature.effect.locationY - nearby.effect.locationY).natAbs
  if 1 < deltaX ∨ 1 < deltaY then
    if 0 < creature.stats.second.affect then
      let hidden ←
        if has creature.stats.flags flying then pure false
        else do
          let here ← terrainUnder game attacker
          if here = terrainWater then pure true
          else do
            let there ← terrainUnder game attacked
            pure (there = terrainMountains : Bool)
      if hidden ∨ creature.stats.second.range < deltaX ∨ creature.stats.second.range < deltaY then pure none
      else pure (some .second)
    else pure none
  else if 0 < creature.stats.first.affect then
    if attacker = .player then
      let here ← terrainUnder game attacker
      if here = terrainWater then pure none
      else
        let there ← terrainUnder game attacked
        if there = terrainMountains ∧ ¬ carriesBehindFirst itemMagicBoots game.character then
          pure (if creature.stats.second.affect ≠ 0 then some .second else none)
        else pure (some .first)
    else pure (some .first)
  else pure none

/-- The roll of an attack: 1 to 20, of which 20 is the most likely. -/
def d20 : Play Nat := do
  let random ← Program.draw
  let roll := (random % 31).toNat
  pure (if roll = 0 ∨ 20 < roll then 20 else roll)

/-- The sum of this number of dice. -/
def dice : Nat → Play Nat
  | 0 => pure 0
  | count + 1 => do
    let random ← Program.draw
    let rest ← dice count
    pure ((random % 6).toNat + 1 + rest)

/-- The modifier of an ability above 10. -/
def abilityModifier (ability : UInt8) : Nat := if 10 < ability then (ability.toNat - 10) >>> 1 else 0

/-- What is added to an attack. -/
def attackModifier (attacker : Sprite) (attack : Attack) (game : Game) : Nat :=
  let creature := game.sprite attacker
  let modifier :=
    if 1 < (creature.action attack).range then abilityModifier creature.stats.dex
    else abilityModifier creature.stats.str
  let proficiency := game.world.score >>> 3
  if attacker = .player then
    if has creature.stats.flags classWizard ∧ 10 < creature.stats.intel then
      2 + proficiency + abilityModifier creature.stats.intel
    else if has creature.stats.flags classRanger then modifier + (2 + proficiency)
    else if has creature.stats.flags classCleric then modifier + proficiency
    else if has creature.stats.flags classScout then 2 + proficiency + abilityModifier creature.stats.dex
    else modifier
  else modifier

/-- The effect of an attack is sent from the attacker to the attacked. -/
def Game.launch (attacker : Sprite) (attack : Attack) (attacked : Sprite) (game : Game) : EffectStarted × Game :=
  let creature := game.sprite attacker
  let place := EffectAt.action attacker attack
  let game := game.setEffect place { game.effect place with
    total := 4
    locationX := creature.effect.locationX
    locationY := creature.effect.locationY
    poll := some .attack }
  tileEffectStart place (game.sprite attacked).effect.locationX (game.sprite attacked).effect.locationY game

/-- The tile number of the item that a roll stands for. -/
def droppedItem (score roll : Nat) : Int :=
  if roll = 4 then 5
  else if roll = 5 then 7
  else if roll = 6 then itemHelmet
  else if roll = 7 then itemChainmail
  else if 8 ≤ roll then
    if score ≤ 5 then roll - 8
    else
      let roll := if score < 10 ∧ 8 + 3 < roll then roll - 4 else roll
      if roll = 8 then itemBattleaxe
      else if roll = 9 then itemPlatemail
      else if roll = 10 then itemSplintmail
      else if roll = 11 then itemMagicBelt
      else if roll = 12 then itemPowerStaff
      else if roll = 13 then itemFlamingSword
      else if roll = 14 then itemLightningSword
      else if roll = 15 then itemPowerSword
      else roll
  else roll

def d16 : Play Nat := do
  let random ← Program.draw
  pure (random % 16).toNat

/-- The rolls for the item that is dropped; potions are given out most often. -/
def rollItem (score : Nat) : Play Int := do
  let roll ← d16
  if roll < 8 then pure itemPotion
  else
    let roll ← d16
    pure (droppedItem score roll)

/-- A defeated creature becomes an item. -/
def Game.becomeItem (sprite : Sprite) (tileNum : Int) (game : Game) : Game :=
  { game.setEffect (.sprite sprite) { (game.sprite sprite).effect with
      tile := { bitmap := some .equipment, tileNum, flags := isItem ||| isVisible } } with
    links := Function.update game.links (.sprite sprite) {} }

/-- `defeat_creature`. -/
def defeatCreature (attacked : Sprite) : Play Unit := do
  Program.update fun game => { game with world := { game.world with score := game.world.score + 1 } }
  let roll ← d16
  if 5 < roll then
    let game ← Program.state
    let item ← rollItem game.world.score
    Program.update (Game.becomeItem attacked item)
    let game ← Program.state
    match game.tileUnder attacked with
    | some tile => append (.sprite attacked) tile
    | none => pure ()
  else
    pure ()

/-- The death of a sprite: it is unlinked and flagged. -/
def Game.die (sprite : Sprite) (game : Game) : Game :=
  (game.unlink (.sprite sprite)).setFlags sprite (game.flags sprite ||| isDead)

def Game.show (sprite : Sprite) (game : Game) : Game := game.setFlags sprite (game.flags sprite ||| isVisible)

/-- The damage of a hit, double from an ambush, which it ends. -/
def rollDamage (attacker : Sprite) (affect : Nat) : Play Nat := do
  let damage ← dice affect
  let game ← Program.state
  if has (game.flags attacker) isVisible then pure damage
  else
    let more ← dice affect
    Program.update (Game.show attacker)
    pure (damage + more)

/-- A hit: the damage is done, and the attacked may die. -/
def strike (attacker : Sprite) (affect modifier : Nat) (attacked : Sprite) : Play Unit := do
  let damage ← rollDamage attacker affect
  Program.update fun game => game.setHp attacked ((game.sprite attacked).stats.hp - (damage + modifier : Nat))
  let game ← Program.state
  -- without hit points a sprite stays on its tile; it dies below zero
  if (game.sprite attacked).stats.hp < 0 then
    Program.update (Game.die attacked)
    let game ← Program.state
    if has (game.flags attacker) isPlayer then defeatCreature attacked else pure ()
  else
    pure ()

/-- The roll of an attack, the higher of two from an ambush. -/
def attackRoll (attacker : Sprite) : Play Nat := do
  let roll ← d20
  let game ← Program.state
  if has (game.flags attacker) isVisible then pure roll
  else
    let second ← d20
    pure (max roll second)

/-- `creature_attack`. -/
def creatureAttack (attacker : Sprite) (attack : Attack) (attacked : Sprite) : Play Unit := do
  let game ← Program.state
  let action := (game.sprite attacker).action attack
  if action.effect.count ≠ 0 then pure ()
  else
    let roll ← attackRoll attacker
    let modifier := attackModifier attacker attack game
    match ← Program.change (Game.launch attacker attack attacked) with
    | .polls context => attackCallback attacker attack context
    | .refused | .scheduled => pure ()
    if (game.sprite attacked).stats.ac.toNat ≤ roll + modifier then
      strike attacker action.affect modifier attacked
    else
      pure ()
    Program.update (Game.show attacker)

/-! ## Rounds -/

/-- What `sprite_find_nearest` looks for. -/
def noticed (game : Game) (sprite : Sprite) (node : Node) : Bool :=
  node ≠ .sprite sprite && has (game.tileOf node).flags isVisible &&
    has (game.tileOf node).flags (isCreature ||| isPlayer)

/-- The search of one tile; what is found is used as a sprite. -/
def searchTile (sprite : Sprite) (place : Int × Int) (game : Game) : Except Stop (Option Sprite) :=
  match tileAt place.1 place.2 with
  | none => .error .fault
  | some tile =>
    match findTile (noticed game sprite) tile game with
    | .error stop => .error stop
    | .ok none => .ok none
    | .ok (some (.sprite found)) => .ok (some found)
    | .ok (some _) => .error .fault

/-- The search of one tile after the other. -/
def searchTiles (sprite : Sprite) (game : Game) : List (Int × Int) → Except Stop (Option Sprite)
  | [] => .ok none
  | place :: places =>
    match searchTile sprite place game with
    | .error stop => .error stop
    | .ok (some found) => .ok (some found)
    | .ok none => searchTiles sprite game places

/-- The concentric squares that a sprite searches. -/
def searched (creature : SpriteTile) : List (Int × Int) :=
  (List.range (perception creature)).flatMap fun distance =>
    around creature.effect.locationX creature.effect.locationY (distance + 1)

/-- `sprite_find_nearest`: the tiles are those of the sprite's `currentWorld`. -/
def spriteFindNearest (sprite : Sprite) (game : Game) : Except Stop (Option Sprite) :=
  if (game.sprite sprite).currentWorld then searchTiles sprite game (searched (game.sprite sprite))
  else .error .fault

/-- The direction from one coordinate to another. -/
def toward (location other : Int) : Int := if location < other then 1 else if location = other then 0 else -1

/-- Whether a sprite is in a town, as another one sees it in its `currentWorld`. -/
def hidesInTown (sprite nearest : Sprite) (game : Game) : Except Stop Bool :=
  if (game.sprite sprite).currentWorld then
    match tileAt (game.sprite nearest).effect.locationX (game.sprite nearest).effect.locationY with
    | some tile => .ok ((game.terrain tile).tileNum = structureTown)
    | none => .error .fault
  else .error .fault

/-- `sprite_action`. -/
def spriteAction (sprite nearest : Sprite) : Play Bool := do
  let attack ← Program.look (attackRange sprite nearest)
  let hidden ← Program.look (hidesInTown sprite nearest)
  let game ← Program.state
  let creature := game.sprite sprite
  let x := toward creature.effect.locationX (game.sprite nearest).effect.locationX
  let y := toward creature.effect.locationY (game.sprite nearest).effect.locationY
  if hidden then pure false
  else if has creature.stats.flags aggressive ∨ has creature.stats.flags cautious then
    match attack with
    | some attack => creatureAttack sprite attack nearest
    | none =>
      -- an aggressive creature pursues, a cautious one moves away
      let way : Int := if has creature.stats.flags aggressive then 1 else -1
      let _ ← spriteMove sprite (creature.effect.locationX + way * x) (creature.effect.locationY + way * y)
    pure true
  else pure false

def Game.setScratch (sprite : Sprite) (scratch : UInt8) (game : Game) : Game :=
  game.setSprite sprite { game.sprite sprite with stats := { (game.sprite sprite).stats with scratch } }

/-- A creature that has nothing to do hides, if it lies in ambush, or wanders. -/
def wander (sprite : Sprite) : Play Unit := do
  let game ← Program.state
  let creature := game.sprite sprite
  if has creature.stats.flags ambush then
    Program.update fun game =>
      if 3 ≤ creature.stats.scratch then game.setFlags sprite (game.flags sprite &&& ~~~isVisible)
      else if has (game.flags sprite) isVisible then game.setScratch sprite (creature.stats.scratch + 1)
      else game
  else
    spriteMoveRandom sprite

/-- The turn of a creature. -/
def creatureTurn (i : CreatureIndex) : Play Unit := do
  let game ← Program.state
  if has (game.flags (.creature i)) isDead then pure ()
  else if 0 < (game.creatures i).stats.hp then
    match ← Program.look (spriteFindNearest (.creature i)) with
    | some nearby =>
      if ← spriteAction (.creature i) nearby then pure () else wander (.creature i)
    | none => wander (.creature i)
  else
    Program.update fun game => game.setFlags (.creature i) (game.flags (.creature i) ||| isDead)

/-- Whether the player is where the last round saw it. -/
def stayed (game : Game) : Bool :=
  game.lastX = game.character.player.effect.locationX ∧ game.lastY = game.character.player.effect.locationY

def Game.remember (game : Game) : Game :=
  { game with
    lastX := game.character.player.effect.locationX
    lastY := game.character.player.effect.locationY }

/-- A cleric heals after rounds without a move.  They are counted in `scratch` of the
    creature behind the last one of the level. -/
def clericRound (counter : CreatureIndex) : Play Unit := do
  Program.update fun game => { game with maxHp := max game.maxHp game.character.player.stats.hp }
  Program.update fun game =>
    game.setScratch (.creature counter) (if stayed game then (game.creatures counter).stats.scratch + 1 else 0)
  let game ← Program.state
  let player := game.character.player
  if player.stats.hp < game.maxHp ∧ 4 < (game.creatures counter).stats.scratch then
    let random ← Program.draw
    let healed : Nat := (random % 8).toNat + 2 + (game.world.score >>> 4) + abilityModifier player.stats.wis
    Program.update fun game =>
      (game.setHp .player (min (healed + player.stats.hp) game.maxHp)).setScratch (.creature counter) 0
  else
    pure ()
  Program.update Game.remember

/-- A scout hides after rounds without a move. -/
def Game.scoutRound (game : Game) : Game :=
  let game :=
    if stayed game then game.setScratch .player (game.character.player.stats.scratch + 1)
    else (game.setScratch .player 0).show .player
  let game :=
    if 3 < game.character.player.stats.scratch then game.setFlags .player (game.flags .player &&& ~~~isVisible)
    else game
  game.remember

/-- What the player does in a round without a command. -/
def characterRound (level : Nat) : Play Unit := do
  let game ← Program.state
  if has game.character.player.stats.flags classCleric then
    if inside : level + 1 < maxCreatures then clericRound ⟨level + 1, inside⟩ else Program.halt .fault
  else if has game.character.player.stats.flags classScout then
    Program.update Game.scoutRound
  else
    pure ()

/-- `game_round`. -/
def gameRound : Play Unit := do
  let game ← Program.state
  let level := game.world.level
  let creatures ← if game.character.player.currentWorld then creaturesOf level else Program.halt .fault
  Program.each creatureTurn creatures
  let game ← Program.state
  if 0 < game.character.player.stats.hp then
    characterRound level
    Program.update Game.scheduleRound
  else
    Program.update Game.cancelRound

end ComputerSystems.VirtualWorld
