import ComputerSystems.Verified.GridMoves

/-! # What a round does to the board

A search of the grid finds sprites that are on the board and can be attacked, so that
the turns of the creatures keep the board sound; so does the whole round, if every
creature that still acts has a world.
-/

namespace ComputerSystems.Verified

open ComputerSystems.Data ComputerSystems.VirtualWorld

variable {game : Game} {sprite : Sprite} {setting : Board.Setting}

/-! ## Searches -/

theorem span_bounds {centre value : Int} {distance size : Nat} (isIn : value ∈ span centre distance size) :
    0 ≤ value ∧ value < size := by
  obtain ⟨offset, within, rfl⟩ := List.mem_map.mp isIn
  rw [List.mem_range] at within
  omega

theorem around_inside {x y : Int} {distance : Nat} {place : Int × Int} (isIn : place ∈ around x y distance) :
    Board.Inside place.1 place.2 := by
  obtain ⟨row, inRows, inRow⟩ := List.mem_flatMap.mp isIn
  obtain ⟨column, inColumns, rfl⟩ := List.mem_map.mp inRow
  obtain ⟨left, right⟩ := span_bounds inColumns
  obtain ⟨top, bottom⟩ := span_bounds inRows
  exact ⟨left, right, top, bottom⟩

theorem searched_inside {creature : SpriteTile} {place : Int × Int} (isIn : place ∈ searched creature) :
    Board.Inside place.1 place.2 := by
  obtain ⟨distance, _, inSquare⟩ := List.mem_flatMap.mp isIn
  exact around_inside inSquare

theorem has_or_mask {flags first second : BitVec 32} (found : has flags (first ||| second) = true) :
    has flags first = true ∨ has flags second = true := by
  by_contra neither
  simp only [has, bne_iff_ne, ne_eq, not_or, not_not] at neither found
  apply found
  rw [BitVec.and_comm, BitVec.and_or_distrib_right, BitVec.and_comm first, BitVec.and_comm second, neither.1, neither.2]
  rfl

/-- What a search may find: a sprite of the grid that is no item. -/
structure Noticeable (board : Board) (sprite found : Sprite) : Prop where
  on : board.onGrid found = true
  item : (board.sprites found).item = false
  apart : found ≠ sprite

theorem Noticeable.attackable {board : Board} {found : Sprite} (noticeable : Noticeable board sprite found)
    (plays : board.inPlay sprite = true) : Attackable board sprite found :=
  ⟨plays, noticeable.on, noticeable.item, noticeable.apart⟩

theorem searchTile_finds (sprite : Sprite) (sound : (board game).Sound setting) {place : Int × Int}
    (inside : Board.Inside place.1 place.2) :
    ∃ found, searchTile sprite place game = .ok found ∧
      ∀ nearby, found = some nearby → Noticeable (board game) sprite nearby := by
  obtain ⟨tile, isTile⟩ := Board.tileAt_inside inside
  obtain ⟨places, listed, agree⟩ := sound.agrees
  obtain ⟨found, finds, members⟩ := listed.find rfl (noticed game sprite) tile
  rw [searchTile, isTile]
  simp only [finds]
  cases found with
  | none => exact ⟨none, rfl, by simp⟩
  | some node =>
    obtain ⟨there, selected, apart⟩ := members node rfl
    simp only [noticed, Bool.and_eq_true, decide_eq_true_eq] at selected
    obtain ⟨⟨other, _⟩, kind⟩ := selected
    cases node with
    | tile index => exact absurd rfl (apart index)
    | exit =>
      have never := sound.facts.exit.2
      exact absurd (kind.symm.trans never) (by simp)
    | sprite nearby =>
      refine ⟨some nearby, rfl, ?_⟩
      rintro _ ⟨rfl⟩
      have on := (Board.standsOn_iff.mp ((agree nearby).symm.trans there)).1
      have fits := sound.facts.fits nearby (Board.onGrid_inPlay on)
      refine ⟨on, ?_, ?_⟩
      -- what is found is flagged as a creature or a player, which no item is
      · by_contra item
        obtain ⟨noCreature, noPlayer⟩ := fits.item (by simpa using item)
        cases has_or_mask kind with
        | inl creature => exact absurd (creature.symm.trans noCreature) (by simp)
        | inr player => exact absurd (player.symm.trans noPlayer) (by simp)
      · rintro rfl
        exact other rfl

theorem searchTiles_finds (sound : (board game).Sound setting) {places : List (Int × Int)}
    (inside : ∀ place ∈ places, Board.Inside place.1 place.2) :
    ∃ found, searchTiles sprite game places = .ok found ∧
      ∀ nearby, found = some nearby → Noticeable (board game) sprite nearby := by
  induction places with
  | nil => exact ⟨none, rfl, by simp⟩
  | cons place places ih =>
    obtain ⟨found, finds, noticeable⟩ := searchTile_finds sprite sound (inside place List.mem_cons_self)
    rw [searchTiles, finds]
    cases found with
    | none => exact ih fun other isIn => inside other (List.mem_cons_of_mem place isIn)
    | some nearby => exact ⟨some nearby, rfl, noticeable⟩

/-- `sprite_find_nearest` of a sprite that has a world. -/
theorem spriteFindNearest_finds (sound : (board game).Sound setting) (world : (game.sprite sprite).currentWorld = true) :
    ∃ found, spriteFindNearest sprite game = .ok found ∧
      ∀ nearby, found = some nearby → Noticeable (board game) sprite nearby := by
  rw [spriteFindNearest, if_pos world]
  exact searchTiles_finds sound fun _ isIn => searched_inside isIn

/-! ## Turns -/

theorem terrainUnder_ok (facts : (board game).Facts setting) (plays : (board game).inPlay sprite = true) :
    ∃ terrain, terrainUnder game sprite = .ok terrain := by
  obtain ⟨tile, there⟩ := facts.under plays
  exact ⟨(game.terrain tile).tileNum, by rw [terrainUnder, tileUnder_eq, there]⟩

/-- `attack_range` of two sprites that are on tiles. -/
theorem attackRange_of_terrain {attacked : Sprite} {here there : Int} (isHere : terrainUnder game sprite = .ok here)
    (isThere : terrainUnder game attacked = .ok there) : ∃ attack, attackRange sprite attacked game = .ok attack := by
  have bind : ∀ {α β : Type} (value : α) (next : α → Except Stop β), (Except.ok value >>= next) = next value :=
    fun _ _ => rfl
  simp only [attackRange, isHere, isThere, bind]
  split
  · split
    · split
      · rw [pure_bind]
        split <;> exact ⟨_, rfl⟩
      · split
        · rw [pure_bind]
          split <;> exact ⟨_, rfl⟩
        · rw [pure_bind]
          split <;> exact ⟨_, rfl⟩
    · exact ⟨_, rfl⟩
  · split
    · split
      · split
        · exact ⟨_, rfl⟩
        · split <;> exact ⟨_, rfl⟩
      · exact ⟨_, rfl⟩
    · exact ⟨_, rfl⟩

/-- `attack_range` of two sprites of the level. -/
theorem attackRange_ok {attacked : Sprite} (facts : (board game).Facts setting)
    (plays : (board game).inPlay sprite = true) (other : (board game).inPlay attacked = true) :
    ∃ attack, attackRange sprite attacked game = .ok attack := by
  obtain ⟨here, isHere⟩ := terrainUnder_ok facts plays
  obtain ⟨there, isThere⟩ := terrainUnder_ok facts other
  exact attackRange_of_terrain isHere isThere

theorem hidesInTown_ok {nearest : Sprite} (facts : (board game).Facts setting)
    (world : (game.sprite sprite).currentWorld = true) (plays : (board game).inPlay nearest = true) :
    ∃ hidden, hidesInTown sprite nearest game = .ok hidden := by
  obtain ⟨tile, isTile⟩ := Board.tileAt_inside (facts.fits nearest plays).location
  have there : tileAt (game.sprite nearest).effect.locationX (game.sprite nearest).effect.locationY = some tile := isTile
  rw [hidesInTown, if_pos world, there]
  exact ⟨_, rfl⟩

/-- `sprite_action` toward a sprite that has been noticed. -/
theorem wp_spriteAction {nearest : Sprite} (sound : (board game).Sound setting)
    (plays : (board game).inPlay sprite = true) (world : (game.sprite sprite).currentWorld = true)
    (noticeable : Noticeable (board game) sprite nearest) :
    Wp (spriteAction sprite nearest) (fun _ later => (board later).Sound setting) game := by
  have other := Board.onGrid_inPlay noticeable.on
  obtain ⟨attack, isAttack⟩ := attackRange_ok sound.facts plays other
  obtain ⟨hidden, isHidden⟩ := hidesInTown_ok sound.facts world other
  rw [spriteAction]
  apply Wp.bind
  apply Wp.look isAttack
  apply Wp.bind
  apply Wp.look isHidden
  simp only [wp_state_bind]
  split
  · exact (wp_pure _).mpr sound
  · split
    · cases attack with
      | some attack =>
        apply Wp.bind
        apply (wp_creatureAttack sound (noticeable.attackable plays)).mono
        intro _ later kept
        exact (wp_pure _).mpr kept
      | none =>
        apply Wp.bind
        apply (wp_spriteMove sound).mono
        intro _ later kept
        exact (wp_pure _).mpr kept
    · exact (wp_pure _).mpr sound

/-- A sprite that hides. -/
theorem board_hide : board (game.setFlags sprite (game.flags sprite &&& ~~~isVisible)) = board game :=
  board_setFlags (.andNot (by decide))

theorem wp_wander (sound : (board game).Sound setting) :
    Wp (wander sprite) (fun _ later => (board later).Sound setting) game := by
  simp only [wander, wp_state_bind]
  split
  · rw [wp_update]
    split
    · rw [board_hide]
      exact sound
    · split
      · rw [board_setScratch]
        exact sound
      · exact sound
  · exact wp_spriteMoveRandom sound

/-- A creature is not the player. -/
theorem Board.Fits.not_player {taken : CreatureIndex → Bool} {i : CreatureIndex} {value : Standing}
    (fits : Board.Fits taken setting (.creature i) value) : value.player = false := by
  cases player : value.player with
  | false => rfl
  | true => exact absurd (fits.player.mp player) (by simp)

/-- A creature without hit points is flagged. -/
theorem Sound.flagged {i : CreatureIndex} (sound : (board game).Sound setting) :
    (board (game.setFlags (.creature i) (game.flags (.creature i) ||| isDead))).Sound setting := by
  rw [Game.setFlags, board_setSprite, Game.flags, standing_dead]
  apply sound.setSprite
  · intro plays
    have fits := sound.facts.fits _ plays
    exact { fits with
      killed := fun _ => .inl rfl
      idle := fun _ => .inr ⟨rfl, fits.not_player⟩ }
  · exact standsOn_setSprite_self rfl rfl

/-- The turn of a creature, if it has a world or cannot act. -/
theorem wp_creatureTurn {i : CreatureIndex} (sound : (board game).Sound setting) (plays : i.val ≤ setting.level)
    (late : 7 ≤ i.val → setting.idle (.creature i)) :
    Wp (creatureTurn i) (fun _ later => (board later).Sound setting) game := by
  have inPlay : (board game).inPlay (.creature i) = true := by
    rw [← sound.facts.level] at plays
    exact decide_eq_true plays
  have fits := sound.facts.fits _ inPlay
  rw [creatureTurn, wp_state_bind]
  split
  · exact (wp_pure _).mpr sound
  next alive =>
    split
    next conscious =>
      -- a creature that acts is one of the first seven, which `game_start` has given a world
      have world : (game.sprite (.creature i)).currentWorld = true := by
        apply fits.world
        rintro j ⟨rfl⟩
        by_contra isLate
        cases fits.idle (late (by omega)) with
        | inl spent => exact absurd (of_decide_eq_true spent) (Int.not_le.mpr conscious)
        | inr dead => exact alive dead.1
      obtain ⟨found, finds, noticeable⟩ := spriteFindNearest_finds sound world
      apply Wp.bind
      apply Wp.look finds
      cases found with
      | none => exact wp_wander sound
      | some nearby =>
        apply Wp.bind
        apply (wp_spriteAction sound inPlay world (noticeable nearby rfl)).mono
        intro acted later kept
        split
        · exact (wp_pure _).mpr kept
        · exact wp_wander kept
    · rw [wp_update]
      exact Sound.flagged sound

/-! ## Rounds -/

theorem wp_creaturesOf {level : Nat} (bound : level < maxCreatures) {post : List CreatureIndex → Game → Prop}
    (holds : ∀ creatures, creatures.Nodup → (∀ i, i ∈ creatures ↔ i.val ≤ level) → post creatures game) :
    Wp (creaturesOf level) post game := by
  rw [creaturesOf, if_pos (Nat.succ_le_of_lt bound), wp_pure]
  apply holds
  · exact (List.nodup_finRange maxCreatures).filter _
  · intro i
    simp only [List.mem_filter, List.mem_finRange, true_and, decide_eq_true_eq]
    omega

/-- The player of a sound board. -/
theorem Board.Sound.player {board : Board} (sound : board.Sound setting) :
    Board.Fits board.taken setting .player (board.sprites .player) :=
  sound.facts.fits .player rfl

/-- The player is no item. -/
theorem Board.Sound.player_plain {board : Board} (sound : board.Sound setting) : (board.sprites .player).item = false := by
  cases item : (board.sprites .player).item with
  | false => rfl
  | true =>
    have noPlayer := (sound.player.item item).2
    exact absurd (noPlayer.symm.trans (sound.player.player.mpr rfl)) (by simp)

/-- The player has other hit points and is not killed by that. -/
theorem Sound.setHp {hp : Int} (sound : (board game).Sound setting) (before : 0 ≤ game.character.player.stats.hp)
    (alive : 0 ≤ hp) (active : ¬ setting.idle .player) : (board (game.setHp .player hp)).Sound setting := by
  have changed : standing { game.sprite .player with stats := { (game.sprite .player).stats with hp } } =
      { (board game).sprites .player with spent := decide (hp ≤ 0) } := by
    have same : decide (hp < 0) = decide ((game.sprite .player).stats.hp < 0) :=
      (decide_eq_false (Int.not_lt.mpr alive)).trans (decide_eq_false (Int.not_lt.mpr before)).symm
    simp only [standing, board, same]
  rw [Game.setHp, board_setSprite, changed]
  apply sound.setSprite
  · intro _
    exact { sound.player with idle := fun isIdle => absurd isIdle active }
  · exact standsOn_setSprite_self rfl rfl

/-- A player with hit points is not idle. -/
theorem Sound.active (sound : (board game).Sound setting) (alive : 0 < game.character.player.stats.hp) :
    ¬ setting.idle .player := by
  intro isIdle
  cases sound.player.idle isIdle with
  | inl spent => exact absurd (of_decide_eq_true spent) (Int.not_le.mpr alive)
  | inr dead => exact absurd (dead.2.symm.trans (sound.player.player.mpr rfl)) (by simp)

theorem wp_clericRound {counter : CreatureIndex} (sound : (board game).Sound setting)
    (alive : 0 < game.character.player.stats.hp) :
    Wp (clericRound counter) (fun _ later => (board later).Sound setting) game := by
  have counted : ∀ (now : Game) scratch, board (now.setScratch (.creature counter) scratch) = board now :=
    fun _ _ => board_setScratch
  rw [clericRound, wp_update_bind]
  apply Wp.bind
  refine Wp.mono (show Wp _ (fun _ now => board now = board game ∧ now.character = game.character) _ from ?_) ?_
  · rw [wp_update]
    exact ⟨counted _ _, rfl⟩
  rintro _ now ⟨sameBoard, sameCharacter⟩
  rw [← sameBoard] at sound
  rw [← sameCharacter] at alive
  simp only [wp_state_bind]
  split
  next heals =>
    apply Wp.bind
    apply Wp.draw
    intro random
    simp only [wp_update_bind, wp_update]
    have positive : ∀ healed : Nat, 0 ≤ min ((healed : Int) + now.character.player.stats.hp) now.maxHp := by
      have := heals.1
      omega
    change (board (Game.setScratch _ _ _)).Sound setting
    rw [counted]
    exact Sound.setHp sound (Int.le_of_lt alive) (positive _) (Sound.active sound alive)
  · rw [wp_update]
    exact sound

theorem board_scoutRound : board game.scoutRound = board game := by
  have remembered : ∀ now : Game, board now.remember = board now := fun _ => rfl
  simp only [Game.scoutRound]
  rw [remembered]
  split
  · split
    · exact board_hide.trans board_setScratch
    · exact board_setScratch
  · split
    · exact board_hide.trans (board_show.trans board_setScratch)
    · exact board_show.trans board_setScratch

theorem wp_characterRound {level : Nat} (sound : (board game).Sound setting)
    (alive : 0 < game.character.player.stats.hp)
    (counts : level + 1 < maxCreatures ∨ setting.cleric = false ∨ setting.idle .player) :
    Wp (characterRound level) (fun _ later => (board later).Sound setting) game := by
  rw [characterRound, wp_state_bind]
  split
  next isCleric =>
    split
    · exact wp_clericRound sound alive
    next outside =>
      have cleric : setting.cleric = true := (sound.player.cleric rfl).symm.trans isCleric
      rcases counts with inside | none | isIdle
      · exact absurd inside outside
      · rw [cleric] at none
        cases none
      · exact absurd isIdle (Sound.active sound alive)
  · split
    · rw [wp_update, board_scoutRound]
      exact sound
    · exact (wp_pure _).mpr sound

/-- `game_round`, if the creatures behind the seventh cannot act and a cleric has a
    counter or has no hit points. -/
theorem wp_gameRound (sound : (board game).Sound setting)
    (late : ∀ i : CreatureIndex, 7 ≤ i.val → i.val ≤ setting.level → setting.idle (.creature i))
    (counts : setting.level + 1 < maxCreatures ∨ setting.cleric = false ∨ setting.idle .player) :
    Wp gameRound (fun _ later => (board later).Sound setting) game := by
  have level : game.world.level = setting.level := sound.facts.level
  have world : game.character.player.currentWorld = true := sound.player.world (by simp)
  simp only [gameRound, wp_state_bind]
  rw [if_pos world]
  apply Wp.bind
  apply wp_creaturesOf (level ▸ sound.facts.bound)
  intro creatures _ members
  apply Wp.bind
  -- a creature may kill one whose turn comes later, so every turn starts from what is then on the board
  have turns : Wp (Program.each creatureTurn creatures) (fun _ later => (board later).Sound setting) game := by
    refine @Wp.each _ _ _ game creatureTurn (fun now => (board now).Sound setting) creatures sound ?_
    intro i isIn now kept
    have plays : i.val ≤ setting.level := level ▸ (members i).mp isIn
    exact wp_creatureTurn kept plays fun isLate => late i isLate plays
  apply turns.mono
  intro _ later kept
  rw [wp_state_bind]
  split
  next alive =>
    apply Wp.bind
    apply (wp_characterRound kept alive (level ▸ counts)).mono
    intro _ last kept
    rw [wp_update, board_scheduleRound]
    exact kept
  · rw [wp_update, board_cancelRound kept.facts.timers]
    exact kept

end ComputerSystems.Verified
