import ComputerSystems.Verified.GridCreation

/-! # What the player does to the board

The commands of the shell, and the end of the player's moves: the player goes to the list
of its new tile and then through the exit to the next level, or it picks up an item, which
leaves the list of the tile.
-/

namespace ComputerSystems.Verified

open ComputerSystems.Data ComputerSystems.VirtualWorld
open ComputerSystems.System (DoubleLink listRemove)

variable {game : Game} {sprite : Sprite} {setting : Board.Setting}

/-! ## Items -/

/-- What an item changes of the player is nothing that the board shows. -/
def KeepsStanding (change : SpriteStats → SpriteStats) : Prop :=
  ∀ stats, (change stats).hp = stats.hp ∧ (change stats).flags = stats.flags

theorem keeps_wearArmour (tileNum : Int) : KeepsStanding (wearArmour tileNum) := by
  intro stats
  simp only [wearArmour]
  repeat' split
  all_goals exact ⟨rfl, rfl⟩

theorem keeps_wieldWeapon (tileNum : Int) : KeepsStanding (wieldWeapon tileNum) := by
  intro stats
  simp only [wieldWeapon]
  repeat' split
  all_goals exact ⟨rfl, rfl⟩

theorem keeps_equip (tileNum : Int) : KeepsStanding (equip tileNum) := by
  intro stats
  have armed := keeps_wieldWeapon tileNum (wearArmour tileNum stats)
  have armoured := keeps_wearArmour tileNum stats
  simp only [equip]
  repeat' split
  all_goals
    first
      | exact ⟨rfl, rfl⟩
      | exact ⟨armed.1.trans armoured.1, armed.2.trans armoured.2⟩

/-- A sprite with other abilities. -/
theorem standing_stats {value : SpriteTile} {stats : SpriteStats} (hp : stats.hp = value.stats.hp)
    (flags : stats.flags = value.stats.flags) : standing { value with stats } = standing value := by
  have killed : decide (stats.hp < 0) = decide (value.stats.hp < 0) := by rw [hp]
  have spent : decide (stats.hp ≤ 0) = decide (value.stats.hp ≤ 0) := by rw [hp]
  simp only [standing, killed, spent, flags]

theorem board_equip {tileNum : Int} :
    board (game.setStats (equip tileNum game.character.player.stats)) = board game := by
  obtain ⟨hp, flags⟩ := keeps_equip tileNum game.character.player.stats
  exact board_setSprite_same (standing_stats hp flags)

/-- An item that the player takes leaves the grid. -/
theorem Sound.take {i : CreatureIndex} (sound : (board game).Sound setting)
    (on : (board game).onGrid (.creature i) = true) (item : ((board game).sprites (.creature i)).item = true) :
    Board.Sound setting { board game with
      links := listRemove (game.links (.sprite (.creature i))) game.links
      taken := Function.update game.taken i true } := by
  have facts := sound.facts
  obtain ⟨tile, there⟩ := facts.standsOn on
  -- An item that has been taken does not stand on the grid any more; nothing else changes.
  constructor
  · exact {
      width := facts.width
      height := facts.height
      level := facts.level
      bound := facts.bound
      exit := facts.exit
      timers := facts.timers
      fits := by
        intro sprite plays
        have fits := facts.fits sprite plays
        refine { fits with taken := ?_ }
        rintro j rfl taken
        by_cases same : j = i
        · rw [same]
          exact item
        · have before : game.taken j = true := by simpa [Function.update_of_ne same] using taken
          exact fits.taken j rfl before }
  · refine sound.agrees.leave there rfl ?_ ?_
    · simp [Board.standsOn, Board.onGrid, Board.takes, Standing.remains, item]
    · intro other apart
      refine Board.standsOn_congr rfl rfl ?_ rfl rfl
      rintro j rfl
      exact Function.update_of_ne (by simpa using apart) ..

/-- There is room for an item, or it is a potion, which is drunk. -/
def RoomFor (item : Tile) (character : PlayerTile) : Prop :=
  item.tileNum = itemPotion ∨ character.items.length < maxItems

/-- Another sprite than the player is on the grid whatever the player is. -/
theorem Board.onGrid_setPlayer {board : Board} {value : Standing} {i : CreatureIndex} :
    (board.setSprite .player value).onGrid (.creature i) = board.onGrid (.creature i) := by
  have apart : Sprite.creature i ≠ .player := nofun
  apply Board.onGrid_congr
  · rw [Board.setSprite_sprites, Function.update_of_ne apart]
  · rfl
  · intro _ _
    rfl

/-- The player takes an item of a tile. -/
theorem wp_takeItem {i : CreatureIndex} (sound : (board game).Sound setting) (active : ¬ setting.idle .player)
    (alive : 0 ≤ game.character.player.stats.hp) (on : (board game).onGrid (.creature i) = true)
    (item : ((board game).sprites (.creature i)).item = true)
    (room : RoomFor (game.tileOf (.sprite (.creature i))) game.character) :
    Wp (takeItem (.sprite (.creature i))) (fun _ later => (board later).Sound setting) game := by
  simp only [takeItem, wp_state_bind]
  by_cases potion : (game.tileOf (.sprite (.creature i))).tileNum = itemPotion
  · -- a potion is drunk
    rw [if_pos potion, wp_update_bind, wp_update_bind, wp_update]
    have drunk : (board (game.setHp .player (game.character.player.stats.hp + 8))).Sound setting :=
      Sound.setHp sound alive (by omega) active
    have still : (board (game.setHp .player (game.character.player.stats.hp + 8))).onGrid (.creature i) = true := by
      rw [Game.setHp, board_setSprite, Board.onGrid_setPlayer]
      exact on
    exact Sound.take drunk still item
  · have fits : game.character.items.length < maxItems := by
      cases room with
      | inl isPotion => exact absurd isPotion potion
      | inr fits => exact fits
    have equipped := @board_equip game (game.tileOf (.sprite (.creature i))).tileNum
    have fits' : (game.setStats (equip (game.tileOf (.sprite (.creature i))).tileNum
        game.character.player.stats)).character.items.length < maxItems := fits
    rw [if_neg potion, wp_update_bind, storeItem]
    apply Wp.bind
    rw [wp_state_bind, if_pos fits', wp_update, wp_update_bind, wp_update]
    have sound' := sound
    rw [← equipped] at sound' on item
    exact Sound.take sound' on item

/-- The search for an item finds one that lies on the grid. -/
theorem findItem_finds (sound : (board game).Sound setting) (context : TileIndex) :
    ∃ found, findItem context game = .ok found ∧
      ∀ node, found = some node → ∃ i, node = .sprite (.creature i) ∧
        (board game).onGrid (.creature i) = true ∧ ((board game).sprites (.creature i)).item = true := by
  obtain ⟨places, listed, agree⟩ := sound.agrees
  obtain ⟨found, finds, members⟩ :=
    listed.find rfl (fun node => has (game.tileOf node).flags isItem) context
  refine ⟨found, finds, ?_⟩
  intro node isFound
  obtain ⟨there, item, apart⟩ := members node isFound
  cases node with
  | tile index => exact absurd rfl (apart index)
  | exit => exact absurd (item.symm.trans sound.facts.exit.1) (by simp)
  | sprite sprite =>
    have on := (Board.standsOn_iff.mp ((agree sprite).symm.trans there)).1
    cases sprite with
    | player => exact absurd (item.symm.trans sound.player_plain) (by simp)
    | creature i => exact ⟨i, rfl, on, item⟩

/-- The item that the player would pick up on a tile is one it leaves or has room for. -/
def ItemFits (context : TileIndex) (game : Game) : Prop :=
  ∀ node, findItem context game = .ok (some node) →
    carries (game.tileOf node).tileNum game.character = true ∨ RoomFor (game.tileOf node) game.character

theorem wp_pickUp {context : TileIndex} (sound : (board game).Sound setting) (active : ¬ setting.idle .player)
    (alive : 0 ≤ game.character.player.stats.hp) (fits : ItemFits context game) :
    Wp (pickUp context) (fun _ later => (board later).Sound setting) game := by
  obtain ⟨found, finds, items⟩ := findItem_finds sound context
  simp only [pickUp, wp_state_bind]
  split
  · apply Wp.bind
    apply Wp.look finds
    cases found with
    | none => exact (wp_pure _).mpr sound
    | some node =>
      obtain ⟨i, rfl, on, item⟩ := items node rfl
      simp only
      split
      · exact (wp_pure _).mpr sound
      next without =>
        cases fits _ finds with
        | inl carried => exact absurd carried without
        | inr room => exact wp_takeItem sound active alive on item room
  · exact (wp_pure _).mpr sound

/-! ## Moves of the player -/

/-- The next step of a move of the player changes nothing but the player's effect. -/
theorem advance_player (game : Game) :
    ∃ effect, game.advance (.sprite .player) =
        game.setSprite .player { game.character.player with effect } ∧
      effect.tile = game.character.player.effect.tile := by
  by_cases active : (game.effect (.sprite .player)).count ≠ 0
  · refine ⟨tileEffectNext game.character.player.effect, if_pos active, ?_⟩
    rw [tileEffectNext]
    split
    · rfl
    · rfl
  · exact ⟨game.character.player.effect, if_neg active, rfl⟩

/-- What has to hold where the player's move ends: the player is on the grid, and there is room
    for the item that it finds, unless it finds the exit. -/
structure Arrives (context : TileIndex) (game : Game) : Prop where
  on : (board game).onGrid .player = true
  room : has (game.terrain context).flags worldExit = false → ItemFits context game

/-- The player finds on a tile what was there before it came. -/
theorem ItemFits.transfer {context : TileIndex} {now : Game} (fits : ItemFits context game)
    (listed : (board game).Agrees) (player : (standing game.character.player).item = false)
    (searches : ∀ select : Node → Bool, select (.sprite .player) = false →
      findTile select context now = findTile select context game)
    (items : now.character.items = game.character.items)
    (same : ∀ node, (∀ other, node ≠ .tile other) → now.tileOf node = game.tileOf node) :
    ItemFits context now := by
  obtain ⟨places, listed, _⟩ := listed
  have skips : has (now.tileOf (.sprite .player)).flags isItem = false := by
    rw [same _ (fun _ => Node.noConfusion)]
    exact player
  -- no list has a tile of the grid in it, and all other nodes look the same
  have finds : findItem context now = findItem context game := by
    rw [findItem, findItem, searches _ skips]
    apply listed.find_congr rfl
    intro node apart
    rw [same node apart]
  intro node found
  rw [finds] at found
  obtain ⟨_, found', members⟩ := listed.find rfl (fun node => has (game.tileOf node).flags isItem) context
  obtain ⟨_, _, apart⟩ := members node (Except.ok.inj (found'.symm.trans found))
  rw [same node apart, carries, RoomFor, items]
  exact fits node found

/-- Where the player has arrived it looks around, and goes through the exit or picks up an item. -/
theorem wp_arrived {context : TileIndex} (playing : (board game).Playing) (arrives : Arrives context game) :
    Wp (do
        playerLook
        let game ← Program.state
        if has (game.terrain context).flags worldExit then gameLevelUp else pickUp context)
      (fun _ later => (board later).Playing) game := by
  obtain ⟨on, room⟩ := arrives
  -- Looking around changes the terrain only, and leaves the exit where it is.
  apply Wp.bind
  apply (wp_playerLook playing.facts).mono
  rintro _ looked ⟨terrain, rfl, exits⟩
  rw [wp_state_bind]
  by_cases leaves : has (terrain context).flags worldExit = true
  · rw [if_pos leaves]
    exact wp_gameLevelUp playing on
  · rw [if_neg leaves]
    have alive : 0 ≤ game.character.player.stats.hp := by
      have killed : decide (game.character.player.stats.hp < 0) = false := (playing.ready on).killed
      exact Int.not_lt.mp (of_decide_eq_false killed)
    have noExit : has (game.terrain context).flags worldExit = false := by
      rw [← exits context]
      exact Bool.eq_false_of_not_eq_true leaves
    have fits : ItemFits context { game with terrain } := by
      apply (room noExit).transfer playing.agrees (playing.ready on).item
      · intro select _
        rfl
      · rfl
      · intro node apart
        cases node with
        | tile index => exact absurd rfl (apart index)
        | exit => rfl
        | sprite sprite => rfl
    have looked : (board { game with terrain }).Playing := playing
    apply (wp_pickUp looked not_false alive fits).mono
    intro _ later sound
    exact sound.playing

/-- `player_move_callback`. -/
theorem wp_playerMoveCallback {context : TileIndex} (playing : (board game).Playing)
    (arrives : completes game.character.player.effect = true → Arrives context game) :
    Wp (playerMoveCallback context) (fun _ later => (board later).Playing) game := by
  simp only [playerMoveCallback, wp_update_bind, wp_state_bind]
  cases advance_cases .player game with
  | inl goesOn =>
    have counts : (game.advance (.sprite .player)).character.player.effect.count ≠ 0 := goesOn.1
    rw [if_neg counts, wp_update, board_again rfl, goesOn.2.2]
    exact playing
  | inr last =>
    obtain ⟨done, completes, value, now, isValue⟩ := last
    obtain ⟨on, room⟩ := arrives completes
    obtain ⟨effect, advances, tile⟩ := advance_player game
    have counts : (game.advance (.sprite .player)).character.player.effect.count = 0 := done
    have remains := remains_arrived on isValue
    have stands : (board (game.advance (.sprite .player))).sprites .player = value := by
      rw [now, Board.setSprite_sprites, Function.update_self]
    rw [if_pos counts]
    rw [advances] at now stands ⊢
    apply Wp.bind
    apply (wp_relink playing on now (fits_arrived isValue playing.player) remains).mono
    rintro _ _ ⟨links, rfl, sound, searches⟩
    apply wp_arrived sound.playing
    constructor
    case on =>
      change ((true : Bool) && (standing { game.character.player with effect }).remains false) = true
      exact (congrArg (fun value => value.remains false) stands).trans remains
    case room =>
      -- what the player will find was on the tile before it came
      intro noExit
      apply (room noExit).transfer playing.agrees (playing.ready on).item
      · intro select skips
        exact searches select game context skips rfl
      · rfl
      · intro node apart
        cases node with
        | tile index => exact absurd rfl (apart index)
        | exit => rfl
        | sprite sprite =>
          cases sprite with
          | player => exact tile
          | creature i => rfl

/-- `player_move`: a move takes more than one step, so it does not end at once. -/
theorem wp_playerMove {x y : Int} (sound : (board game).Sound setting) :
    Wp (playerMove x y) (fun _ later => (board later).Sound setting) game := by
  simp only [playerMove, wp_state_bind]
  split
  · exact (wp_pure _).mpr sound
  · apply Wp.bind
    apply (wp_startMove sound fun _ => rfl).mono
    intro started later goes
    cases started with
    | refused => exact (wp_pure _).mpr goes.2
    | scheduled => exact (wp_pure _).mpr goes.2
    | polls context => exact absurd rfl (goes.1 context)

/-! ## Commands -/

theorem wp_moveCommand {x y : Int} (sound : (board game).Sound setting) :
    Wp (moveCommand x y) (fun _ later => (board later).Sound setting) game := by
  simp only [moveCommand, wp_state_bind]
  split
  · apply Wp.bind
    apply (wp_playerMove sound).mono
    intro _ later kept
    exact (wp_pure _).mpr kept
  · exact (wp_pure _).mpr sound

/-- `Action`. -/
theorem wp_action (sound : (board game).Sound setting) :
    Wp action (fun _ later => (board later).Sound setting) game := by
  have world : (game.sprite .player).currentWorld = true := sound.player.world (by simp)
  obtain ⟨found, finds, noticeable⟩ := spriteFindNearest_finds sound world
  rw [action, wp_state_bind]
  split
  · apply Wp.bind
    apply Wp.look finds
    cases found with
    | none => exact (wp_pure _).mpr sound
    | some nearby =>
      have noticed := noticeable nearby rfl
      obtain ⟨attack, isAttack⟩ := attackRange_ok sound.facts (rfl : (board game).inPlay .player = true)
        (Board.onGrid_inPlay noticed.on)
      apply Wp.bind
      apply Wp.look isAttack
      cases attack with
      | none => exact (wp_pure _).mpr sound
      | some attack => exact wp_creatureAttack sound (noticed.attackable rfl)
  · exact (wp_pure _).mpr sound

theorem board_gamePause (fits : (board game).timersFit) : board (gamePause game) = board game := by
  rw [gamePause]
  split
  · have cancelled := board_cancelRound fits
    rw [← cancelled]
    rfl
  · have scheduled := @board_scheduleRound game
    rw [← scheduled]
    rfl

/-- Every command keeps the invariant. -/
theorem wp_command (playing : (board game).Playing) (typed : Command) :
    Wp typed.run (fun _ later => (board later).Playing) game := by
  have moves : ∀ x y, Wp (moveCommand x y) (fun _ later => (board later).Playing) game := by
    intro x y
    apply (wp_moveCommand playing).mono
    intro _ later kept
    exact kept.playing
  cases typed with
  | gameStart =>
    by_cases up : game.screenUp = true
    · exact wp_gameStartCommand playing.facts.timers up
    · rw [Command.run, gameStartCommand, wp_state_bind, if_neg up]
      exact (wp_pure _).mpr playing
  | gamePause =>
    rw [Command.run, wp_update, board_gamePause playing.facts.timers]
    exact playing
  | action =>
    apply (wp_action playing).mono
    intro _ later kept
    exact kept.playing
  | north => exact moves _ _
  | south => exact moves _ _
  | east => exact moves _ _
  | west => exact moves _ _
  | northEast => exact moves _ _
  | northWest => exact moves _ _
  | southEast => exact moves _ _
  | southWest => exact moves _ _

end ComputerSystems.Verified
