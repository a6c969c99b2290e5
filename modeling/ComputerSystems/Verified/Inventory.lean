import ComputerSystems.Verified.RoundTimer

/-! # The items of the player

The player picks up no item twice, so that the items it carries are of different kinds.  There
are seventeen kinds beside the potion and `MAX_ITEMS` is sixteen, but the list is taken to have
room for another item while `num_items <= MAX_ITEMS`.  So everything goes well until the player
that carries sixteen kinds finds the seventeenth, which is written behind the array.

Only what a step does with an item behind the array is not known.  `stepOr behind` is the step
with any guess of it, and a step writes in range if all guesses lead to the same.
-/

namespace ComputerSystems.Verified

open ComputerSystems.Data ComputerSystems.VirtualWorld

variable {game later : Game} {item : Tile} {node : Node} {context : TileIndex}

/-! ## Functions that leave the items alone -/

theorem keeps_of_edits {α : Type} {scope : Scope} {program : Play α} (edits : Makes (Edit scope) program) :
    Makes KeepsItems program :=
  edits.mono fun _ _ edit => edit.items

theorem KeepsItems.of_makes {α : Type} {program : Play α} (makes : Makes KeepsItems program) (game : Game) :
    Wlp program (fun _ later => KeepsItems game later) game := by
  apply (makes game).mono
  intro _ later steps
  induction steps with
  | refl => exact .refl
  | tail _ last ih => exact ih.trans last

theorem keeps_gameStart : Makes KeepsItems gameStart := by
  have counts : ∀ level, Makes (Edit .whole) (creaturesOf level) := fun _ => edits_creaturesOf
  have creates : ∀ i, Makes (Edit .whole) (createCreature i) := fun _ => edits_createCreature trivial
  have leaves : Makes (Edit .whole) createExit := edits_createExit
  have places : Makes (Edit .whole) placePlayer := edits_placePlayer trivial
  have looks : Makes (Edit .whole) playerLook := edits_playerLook
  refine .state_bind fun now => .bind (keeps_of_edits (counts _)) fun creatures => ?_
  refine .bind (.each fun i _ => keeps_of_edits (creates i)) fun _ => .bind (keeps_of_edits leaves) fun _ => ?_
  refine .bind (keeps_of_edits places) fun _ => .bind (keeps_of_edits looks) fun _ => ?_
  exact .update fun _ => .single .scheduleRound

theorem keeps_worldCreateRandom {coasts : Coasts} : Makes KeepsItems (worldCreateRandom coasts) := by
  have creates : Makes (Edit .whole) (worldCreateRandom coasts) := edits_worldCreateRandom
  exact keeps_of_edits creates

theorem keepsItems_stopRound : KeepsItems game (if game.world.round.isSome then game.cancelRound else game) := by
  split
  · exact .cancelRound
  · exact .refl

theorem tile_wizardLevel {score : Nat} {player : SpriteTile} :
    (wizardLevel score player).effect.tile = player.effect.tile := by
  rw [wizardLevel]
  split <;> rfl

theorem keeps_gameLevelUp : Makes KeepsItems gameLevelUp := by
  refine .bind (.update fun _ => .single keepsItems_stopRound) fun _ => ?_
  refine .bind (.update fun now => .single (.setSprite ?learned)) fun _ => ?_
  case learned =>
    rw [tile_wizardLevel]
    exact .refl
  refine .bind (.update fun now => ?_) fun _ => .state_bind fun now => ?_
  · split
    · exact .single (.of_same rfl fun _ => rfl)
    · exact .refl
  · exact .bind keeps_worldCreateRandom fun _ => keeps_gameStart

theorem keeps_gameRound : Makes KeepsItems gameRound := by
  have counts : ∀ level, Makes (Edit .whole) (creaturesOf level) := fun _ => edits_creaturesOf
  have turns : ∀ i, Makes (Edit .whole) (creatureTurn i) := fun _ => edits_creatureTurn trivial (fun _ => trivial) trivial
  have character : ∀ level, Makes (Edit .whole) (characterRound level) := fun _ => edits_characterRound fun _ => trivial
  have goesOn : ∀ level (creatures : List CreatureIndex), Makes KeepsItems (do
      Program.each creatureTurn creatures
      let game ← Program.state
      if 0 < game.character.player.stats.hp then do
        characterRound level
        Program.update Game.scheduleRound
      else Program.update Game.cancelRound) := by
    intro level creatures
    refine .bind (.each fun i _ => keeps_of_edits (turns i)) fun _ => .state_bind fun now => ?_
    split
    · exact .bind (keeps_of_edits (character _)) fun _ => .update fun _ => .single .scheduleRound
    · exact .update fun _ => .single .cancelRound
  refine .state_bind fun now => ?_
  simp only
  split
  · exact .bind (keeps_of_edits (counts _)) fun creatures => goesOn _ creatures
  · exact .bind (.halt _) fun creatures => goesOn _ creatures

theorem keepsItems_gamePause : KeepsItems game (gamePause game) := by
  rw [gamePause]
  split
  · exact KeepsItems.cancelRound.trans (.of_same rfl fun _ => rfl)
  · exact KeepsItems.scheduleRound.trans (.of_same rfl fun _ => rfl)

/-! ## What the player carries -/

/-- Distinct values that are all in a list are as many as it has if and only if they are all of it. -/
theorem length_eq_iff_subset {values kinds : List Int} (distinct : values.Nodup) (nodup : kinds.Nodup)
    (inside : values ⊆ kinds) : values.length = kinds.length ↔ kinds ⊆ values := by
  have part := distinct.subperm inside
  constructor
  · intro same
    exact (part.perm_of_length_le same.ge).symm.subset
  · intro covers
    exact Nat.le_antisymm part.length_le (nodup.subperm covers).length_le

theorem carries_iff {tileNum : Int} {character : PlayerTile} :
    carries tileNum character = true ↔ tileNum ∈ character.items.map Tile.tileNum := by
  simp [carries, List.any_eq_true, List.mem_map]

theorem not_mem_of_carries {tileNum : Int} {character : PlayerTile} (missing : carries tileNum character = false) :
    tileNum ∉ character.items.map Tile.tileNum := by
  rw [← carries_iff, missing]
  decide

/-- The items are in the list of the player, and no two of them have the same tile number. -/
structure InventoryFits (game : Game) : Prop where
  fits : game.character.items.length ≤ maxItems
  apart : (game.character.items.map Tile.tileNum).Nodup

/-- Whatever is or has been on the ground is of the known kinds. -/
structure Stocked (game : Game) : Prop extends InventoryFits game where
  kinds : game.character.items.map Tile.tileNum ⊆ itemKinds
  dropped : ∀ node, has (game.tileOf node).flags isItem = true → Treasure (game.tileOf node).tileNum

theorem Stocked.keeps (stocked : Stocked game) (keeps : KeepsItems game later) : Stocked later where
  fits := by
    rw [keeps.items]
    exact stocked.fits
  apart := by
    rw [keeps.items]
    exact stocked.apart
  kinds := by
    rw [keeps.items]
    exact stocked.kinds
  dropped node isItem := by
    cases keeps.kind node isItem with
    | inl dropped => exact dropped
    | inr same =>
      rw [same.2]
      exact stocked.dropped node same.1

/-- An item of the only kind that the player does not carry. -/
structure LastKind (item : Tile) (character : PlayerTile) : Prop where
  noPotion : item.tileNum ≠ itemPotion
  missing : carries item.tileNum character = false
  others : ∀ kind ∈ itemKinds, kind ≠ item.tileNum → carries kind character = true

/-- The list is full when only one kind is missing. -/
theorem Stocked.lastKind_iff (stocked : Stocked game) (dropped : Treasure item.tileNum) (noPotion : item.tileNum ≠ itemPotion)
    (missing : carries item.tileNum game.character = false) :
    LastKind item game.character ↔ maxItems ≤ game.character.items.length := by
  have isKind : item.tileNum ∈ itemKinds := dropped.resolve_left noPotion
  have distinct : itemKinds.Nodup := by decide
  have absent : item.tileNum ∉ game.character.items.map Tile.tileNum := not_mem_of_carries missing
  have inside : game.character.items.map Tile.tileNum ⊆ itemKinds.erase item.tileNum := by
    intro kind isCarried
    rw [distinct.mem_erase_iff]
    exact ⟨fun same => absent (same ▸ isCarried), stocked.kinds isCarried⟩
  have room : (itemKinds.erase item.tileNum).length = maxItems := List.length_erase_of_mem isKind
  have full := length_eq_iff_subset stocked.apart (distinct.erase _) inside
  rw [List.length_map, room] at full
  have others : itemKinds.erase item.tileNum ⊆ game.character.items.map Tile.tileNum ↔ LastKind item game.character := by
    constructor
    · intro covers
      refine ⟨noPotion, missing, fun kind isIn other => ?_⟩
      rw [carries_iff]
      exact covers (distinct.mem_erase_iff.mpr ⟨other, isIn⟩)
    · intro last kind isIn
      rw [distinct.mem_erase_iff] at isIn
      exact carries_iff.mp (last.others kind isIn.2 isIn.1)
  rw [← others, ← full]
  exact ⟨fun same => same.ge, fun filled => Nat.le_antisymm stocked.fits filled⟩

/-! ## Picking up -/

theorem findItem_isItem (finds : findItem context game = .ok (some node)) : has (game.tileOf node).flags isItem = true := by
  rw [findItem, findTile] at finds
  split at finds
  next found isFound =>
    obtain rfl := Except.ok.inj finds
    exact @findOn_selects _ _ _ _ _ (fun node => has (game.tileOf node).flags isItem) _ _ isFound
  · cases finds

/-- Where an item is found the tile is not linked to itself only. -/
theorem findItem_occupied (finds : findItem context game = .ok (some node)) :
    ((game.links (.tile context)).next.elim false fun next => next ≠ .tile context) = true := by
  rw [findItem, findTile] at finds
  cases isNext : (game.links (.tile context)).next with
  | none => simp [isNext, findOn] at finds
  | some next =>
    rw [isNext] at finds
    by_cases alone : next = .tile context
    · simp [alone, nodeCount, findOn] at finds
    · simpa using alone

theorem keepsItems_setStats {stats : SpriteStats} : KeepsItems game (game.setStats stats) :=
  .setSprite .refl

/-- An item that is stored is of a new kind. -/
theorem wlp_storeItem_stocked (stocked : Stocked game) (dropped : Treasure item.tileNum) (noPotion : item.tileNum ≠ itemPotion)
    (missing : carries item.tileNum game.character = false) : Wlp (storeItem item) (fun _ later => Stocked later) game := by
  rw [storeItem, wlp_state_bind]
  split
  next room =>
    rw [wlp_update]
    have absent : item.tileNum ∉ game.character.items.map Tile.tileNum := not_mem_of_carries missing
    refine ⟨⟨?_, ?_⟩, ?_, stocked.dropped⟩
    · rw [List.length_append]
      exact room
    · rw [List.map_append, List.nodup_append]
      refine ⟨stocked.apart, List.nodup_singleton _, ?_⟩
      intro kind isCarried new isNew
      obtain rfl : new = item.tileNum := by simpa using isNew
      rintro rfl
      exact absent isCarried
    · rw [List.map_append]
      exact List.append_subset.mpr ⟨stocked.kinds, by simpa using dropped.resolve_left noPotion⟩
  · exact wlp_halt _

theorem wlp_takeItem_stocked (stocked : Stocked game) (isItem : has (game.tileOf node).flags isItem = true)
    (missing : carries (game.tileOf node).tileNum game.character = false) :
    Wlp (takeItem node) (fun _ later => Stocked later) game := by
  have worn : ∀ stats, Stocked (game.setStats stats) := fun _ => stocked.keeps keepsItems_setStats
  apply wlp_takeItem_of
  · exact worn _
  · intro noPotion
    exact wlp_storeItem_stocked (worn _) (stocked.dropped node isItem) noPotion missing
  · intro now _ held
    exact held.keeps (.of_same rfl fun _ => rfl)

theorem wlp_pickUp_stocked (stocked : Stocked game) : Wlp (pickUp context) (fun _ later => Stocked later) game :=
  wlp_pickUp_of stocked fun _ finds missing => wlp_takeItem_stocked stocked (findItem_isItem finds) missing

/-- The player arrives: its move ends, it is put into the list of its tile and looks around. -/
def arrive : Play Unit := do
  Program.update (Game.advance (.sprite .player))
  relink .player
  playerLook

theorem keeps_arrive : Makes KeepsItems arrive := by
  have relinks : Makes (Edit .whole) (relink .player) := edits_relink
  have looks : Makes (Edit .whole) playerLook := edits_playerLook
  exact .bind (.update fun _ => .single .advance) fun _ => .bind (keeps_of_edits relinks) fun _ => keeps_of_edits looks

/-! ## Writes behind the array -/

/-- `items[num_items++] = *stackedTile`, where a write behind the array does `behind`. -/
def storeItemOr (behind : Tile → Play Unit) (item : Tile) : Play Unit := do
  let game ← Program.state
  if game.character.items.length < maxItems then storeItem item else behind item

/-- `takeItem`, and so on for whatever calls it. -/
def takeItemOr (behind : Tile → Play Unit) (node : Node) : Play Unit := do
  let game ← Program.state
  let item := game.tileOf node
  let stats := game.character.player.stats
  if item.tileNum = itemPotion then
    Program.update (Game.setStats { stats with hp := stats.hp + 8 })
  else
    Program.update (Game.setStats (equip item.tileNum stats))
    storeItemOr behind item
  Program.update (Game.unlink node)
  Program.update fun game =>
    match node with
    | .sprite (.creature i) => { game with taken := Function.update game.taken i true }
    | _ => game

def pickUpOr (behind : Tile → Play Unit) (context : TileIndex) : Play Unit := do
  let game ← Program.state
  let occupied := (game.links (.tile context)).next.elim false fun next => next ≠ .tile context
  if occupied ∧ game.character.items.length ≤ maxItems then
    match ← Program.look (findItem context) with
    | some node => if carries (game.tileOf node).tileNum game.character then pure () else takeItemOr behind node
    | none => pure ()
  else
    pure ()

def playerMoveCallbackOr (behind : Tile → Play Unit) (context : TileIndex) : Play Unit := do
  Program.update (Game.advance (.sprite .player))
  let game ← Program.state
  if game.character.player.effect.count = 0 then
    relink .player
    playerLook
    let game ← Program.state
    if has (game.terrain context).flags worldExit then gameLevelUp else pickUpOr behind context
  else
    Program.update (Game.again .playerMove (.sprite .player) context)

def playerMoveOr (behind : Tile → Play Unit) (tileX tileY : Int) : Play Int := do
  let game ← Program.state
  let terrain := (gameGridTile game tileX tileY).elim game.nullTileNum fun tile => (game.terrain tile).tileNum
  if game.character.player.effect.underWay || !playerEnters terrain game.character then
    pure (-1)
  else
    match ← startMove .playerMove .player tileX tileY with
    | .refused => pure (-1)
    | .scheduled => pure 0
    | .polls context => do
      playerMoveCallbackOr behind context
      pure 0

def moveCommandOr (behind : Tile → Play Unit) (x y : Int) : Play Unit := do
  let game ← Program.state
  let effect := game.character.player.effect
  if game.gameUp then
    let _ ← playerMoveOr behind (effect.locationX + x) (effect.locationY + y)
  else
    pure ()

def runOr (behind : Tile → Play Unit) : Command → Play Unit
  | .gameStart => gameStartCommand
  | .gamePause => Program.update VirtualWorld.gamePause
  | .action => VirtualWorld.action
  | .north => moveCommandOr behind 0 (-1)
  | .south => moveCommandOr behind 0 1
  | .east => moveCommandOr behind 1 0
  | .west => moveCommandOr behind (-1) 0
  | .northEast => moveCommandOr behind 1 (-1)
  | .northWest => moveCommandOr behind (-1) (-1)
  | .southEast => moveCommandOr behind 1 1
  | .southWest => moveCommandOr behind (-1) 1

def callbackOr (behind : Tile → Play Unit) : GameTimer → Play Unit
  | .effect .playerMove (.sprite .player) context => playerMoveCallbackOr behind context
  | timer => timer.callback

def playOr (behind : Tile → Play Unit) : GameEvent → Play Unit
  | .command typed => runOr behind typed
  | .fire slot => do
    let game ← Program.state
    match game.timers slot with
    | .game timer => do
      callbackOr behind timer
      Program.update (timerCancel (some slot))
    | .free | .other => pure ()
  | .others slot busy => GameEvent.play (.others slot busy)

/-- A step of a run in which a write behind the array of the items does `behind`. -/
def stepOr (behind : Tile → Play Unit) (game : Game) (step : GameEvent × List (BitVec 32)) : Except Stop Game :=
  Program.exec (playOr behind step.1) step.2 game

/-- The step does not depend on what a write behind the array of the items does. -/
def WritesInRange (game : Game) (step : GameEvent × List (BitVec 32)) : Prop :=
  ∀ behind, stepOr behind game step = gameStep game step

section Behind

variable {behind : Tile → Play Unit} {draws : List (BitVec 32)}

/-- In the model such a write is a fault. -/
theorem takeItemOr_fault (node : Node) : takeItemOr (fun _ => Program.halt .fault) node = takeItem node := by
  have stores : ∀ item, storeItemOr (fun _ => Program.halt .fault) item = storeItem item := by
    intro item
    funext ⟨game, draws⟩
    change (if game.character.items.length < maxItems then storeItem item else Program.halt .fault) (game, draws) = _
    split
    · rfl
    next full =>
      change _ = (if game.character.items.length < maxItems then _ else _ : Play Unit) (game, draws)
      rw [if_neg full]
  simp only [takeItemOr, stores]
  rfl

theorem pickUpOr_fault (context : TileIndex) : pickUpOr (fun _ => Program.halt .fault) context = pickUp context := by
  simp only [pickUpOr, takeItemOr_fault]
  rfl

theorem playerMoveCallbackOr_fault (context : TileIndex) :
    playerMoveCallbackOr (fun _ => Program.halt .fault) context = playerMoveCallback context := by
  simp only [playerMoveCallbackOr, pickUpOr_fault]
  rfl

theorem stepOr_fault (step : GameEvent × List (BitVec 32)) :
    stepOr (fun _ => Program.halt .fault) game step = gameStep game step := by
  have moves : ∀ x y, moveCommandOr (fun _ => Program.halt .fault) x y = moveCommand x y := by
    intro x y
    simp only [moveCommandOr, playerMoveOr, playerMoveCallbackOr_fault]
    rfl
  have calls : ∀ timer, callbackOr (fun _ => Program.halt .fault) timer = timer.callback := by
    intro timer
    unfold callbackOr
    split
    · exact playerMoveCallbackOr_fault _
    · rfl
  obtain ⟨event, draws⟩ := step
  cases event with
  | command typed =>
    cases typed
    all_goals simp only [stepOr, gameStep, playOr, GameEvent.play, runOr, Command.run, moves]
    all_goals rfl
  | fire slot =>
    simp only [stepOr, playOr, calls]
    rfl
  | others slot busy => rfl

theorem run_playerMoveCallbackOr : playerMoveCallbackOr behind context (game, draws) =
    (if (game.advance (.sprite .player)).character.player.effect.count = 0 then
      relink .player >>= fun _ => playerLook >>= fun _ => Program.state >>= fun game =>
        if has (game.terrain context).flags worldExit then gameLevelUp else pickUpOr behind context
    else Program.update (Game.again .playerMove (.sprite .player) context)) (game.advance (.sprite .player), draws) :=
  rfl

/-- The last step of a move, and what comes after it. -/
theorem playerMoveCallbackOr_ends (ends : completes game.character.player.effect = true) :
    playerMoveCallbackOr behind context (game, draws) =
      (arrive >>= fun _ => Program.state >>= fun game =>
        if has (game.terrain context).flags worldExit then gameLevelUp else pickUpOr behind context) (game, draws) := by
  rw [run_playerMoveCallbackOr, if_pos ((count_advance game).mpr ends), arrive, bind_assoc, bind_assoc]
  rfl

theorem playerMoveCallbackOr_goesOn (goesOn : ¬ completes game.character.player.effect = true) :
    playerMoveCallbackOr behind context (game, draws) =
      .ok ((), (game.advance (.sprite .player)).again .playerMove (.sprite .player) context, draws) := by
  rw [run_playerMoveCallbackOr, if_neg (mt (count_advance game).mp goesOn)]
  rfl

/-- A move of the player has more than one step, and so it does not end in the command. -/
theorem moveCommandOr_eq (x y : Int) : moveCommandOr behind x y = moveCommand x y := by
  have starts : ∀ tileX tileY, playerMoveOr behind tileX tileY = playerMove tileX tileY := by
    intro tileX tileY
    funext ⟨game, draws⟩
    have timerFits : ∀ context, GameTimer.fits (.effect .playerMove (.sprite .player) context) = true := fun _ => rfl
    apply bind_congr_at rfl
    rintro now _ left ⟨rfl⟩
    simp only
    split
    · rfl
    · apply bind_congr_at rfl
      rintro started mid left ⟨rfl⟩
      cases startMove_cases .player tileX tileY game timerFits with
      | inl refused => rw [refused.1]
      | inr sent => rw [sent.1]
  simp only [moveCommandOr, starts]
  rfl

theorem runOr_eq (typed : Command) : runOr behind typed = typed.run := by
  cases typed
  all_goals simp only [runOr, moveCommandOr_eq]
  all_goals rfl

/-- An item that is no potion is picked up if there is none like it, and stored behind the array if
    that is full. -/
theorem pickUpOr_full {stop : Stop} (finds : findItem context game = .ok (some node))
    (noPotion : (game.tileOf node).tileNum ≠ itemPotion) (missing : carries (game.tileOf node).tileNum game.character = false)
    (full : game.character.items.length = maxItems) :
    pickUpOr (fun _ => Program.halt stop) context (game, draws) = .error stop := by
  have taken : takeItemOr (fun _ => Program.halt stop) node (game, draws) = .error stop := by
    have unfolded : ∀ rest : Play Unit, (Program.update (Game.setStats (equip (game.tileOf node).tileNum
        game.character.player.stats)) >>= fun _ => storeItemOr (fun _ => Program.halt stop) (game.tileOf node) >>= fun _ =>
          rest) (game, draws) = .error stop := by
      intro rest
      have noRoom : ¬ game.character.items.length < maxItems := by omega
      change ((if game.character.items.length < maxItems then storeItem _ else Program.halt stop) >>= fun _ => rest)
        (_, draws) = _
      rw [if_neg noRoom]
      rfl
    rw [takeItemOr, Program.run_state_bind, if_neg noPotion]
    exact unfolded _
  rw [pickUpOr, Program.run_state_bind, if_pos ⟨findItem_occupied finds, full.le⟩]
  change ((findItem context game).map _ >>= _) = _
  rw [finds]
  change (if carries _ _ = true then _ else _ : Play Unit) (game, draws) = _
  rw [missing]
  exact taken

theorem storeItemOr_eq (room : game.character.items.length < maxItems) :
    storeItemOr behind item (game, draws) = storeItem item (game, draws) := by
  change (if game.character.items.length < maxItems then storeItem item else behind item) (game, draws) = _
  rw [if_pos room]

/-- Otherwise nothing is written behind the array. -/
theorem pickUpOr_eq (room : ∀ node, findItem context game = .ok (some node) → (game.tileOf node).tileNum ≠ itemPotion →
      carries (game.tileOf node).tileNum game.character = false → game.character.items.length < maxItems) :
    pickUpOr behind context (game, draws) = pickUp context (game, draws) := by
  apply bind_congr_at rfl
  rintro now _ left ⟨rfl⟩
  simp only
  split
  · apply bind_congr_at rfl
    intro found mid left looked
    obtain ⟨finds, rfl, rfl⟩ := look_eq_ok.mp looked
    cases found with
    | none => rfl
    | some node =>
      simp only
      split
      · rfl
      next missing =>
        have missing := Bool.eq_false_iff.mpr missing
        apply bind_congr_at rfl
        rintro _ _ _ ⟨rfl⟩
        simp only
        split
        · rfl
        next noPotion =>
          apply bind_congr_at rfl
          rintro _ _ _ ⟨rfl⟩
          exact bind_congr_at (storeItemOr_eq (room node finds noPotion missing)) fun _ _ _ _ => rfl
  · rfl

end Behind

/-! ## Steps -/

/-- The step ends a move of the player on a tile that is no exit, where the first item is of the
    only kind that the player does not carry. -/
def FindsLastKind (game : Game) (step : GameEvent × List (BitVec 32)) : Prop :=
  ∃ slot context arrived node, step.1 = .fire slot ∧
    game.timers slot = .game (.effect .playerMove (.sprite .player) context) ∧
    completes game.character.player.effect = true ∧ Program.exec arrive step.2 game = .ok arrived ∧
    has (arrived.terrain context).flags worldExit = false ∧ findItem context arrived = .ok (some node) ∧
    LastKind (arrived.tileOf node) arrived.character

/-- The last step of a move writes in range unless it finds the last kind. -/
theorem playerMoveCallbackOr_eq (stocked : Stocked game) {behind : Tile → Play Unit} {draws : List (BitVec 32)}
    (good : completes game.character.player.effect = true → ∀ arrived node, Program.exec arrive draws game = .ok arrived →
      has (arrived.terrain context).flags worldExit = false → findItem context arrived = .ok (some node) →
      ¬ LastKind (arrived.tileOf node) arrived.character) :
    playerMoveCallbackOr behind context (game, draws) = playerMoveCallback context (game, draws) := by
  rw [← playerMoveCallbackOr_fault]
  by_cases ends : completes game.character.player.effect = true
  · rw [playerMoveCallbackOr_ends ends, playerMoveCallbackOr_ends ends]
    apply bind_congr_at rfl
    intro _ arrived left arrives
    apply bind_congr_at rfl
    rintro _ _ _ ⟨rfl⟩
    split
    · rfl
    next noExit =>
      have kept : Stocked arrived := stocked.keeps ((KeepsItems.of_makes keeps_arrive game).returns arrives)
      rw [pickUpOr_fault]
      apply pickUpOr_eq
      intro node finds noPotion missing
      have last := good ends arrived node (exec_eq_ok.mpr ⟨_, _, arrives⟩) (Bool.eq_false_iff.mpr noExit) finds
      rw [kept.lastKind_iff (kept.dropped node (findItem_isItem finds)) noPotion missing] at last
      exact Nat.lt_of_not_le last
  · rw [playerMoveCallbackOr_goesOn ends, playerMoveCallbackOr_goesOn ends]

/-- A step that finds the last kind goes on with a write behind the array. -/
theorem FindsLastKind.stops (stocked : Stocked game) {step : GameEvent × List (BitVec 32)} (finds : FindsLastKind game step)
    (stop : Stop) : stepOr (fun _ => Program.halt stop) game step = .error stop := by
  obtain ⟨slot, context, arrived, node, isFire, isTimer, ends, arrives, noExit, found, last⟩ := finds
  obtain ⟨_, rest, arrives⟩ := exec_eq_ok.mp arrives
  have kept : Stocked arrived := stocked.keeps ((KeepsItems.of_makes keeps_arrive game).returns arrives)
  have full : arrived.character.items.length = maxItems := by
    have isDropped := kept.dropped node (findItem_isItem found)
    exact Nat.le_antisymm kept.fits ((kept.lastKind_iff isDropped last.noPotion last.missing).mp last)
  have picks : playerMoveCallbackOr (fun _ => Program.halt stop) context (game, step.2) = .error stop := by
    rw [playerMoveCallbackOr_ends ends]
    change (arrive (game, step.2) >>= _) = _
    rw [arrives]
    change (if has (arrived.terrain context).flags worldExit = true then _ else _ : Play Unit) (arrived, rest) = _
    rw [noExit]
    exact pickUpOr_full found last.noPotion last.missing full
  rw [stepOr, isFire, playOr, Program.exec, Program.run_state_bind, isTimer]
  change ((playerMoveCallbackOr (fun _ => Program.halt stop) context (game, step.2) >>= _).map _) = _
  rw [picks]
  rfl

/-- A step writes the items in range if and only if it does not find the last kind. -/
theorem writesInRange_iff (stocked : Stocked game) (step : GameEvent × List (BitVec 32)) :
    WritesInRange game step ↔ ¬ FindsLastKind game step := by
  constructor
  · intro writes finds
    have loops := writes fun _ => Program.halt .loop
    rw [finds.stops stocked, ← stepOr_fault, finds.stops stocked] at loops
    cases loops
  · intro good behind
    obtain ⟨event, draws⟩ := step
    have same : playOr behind event (game, draws) = event.play (game, draws) := by
      cases event with
      | command typed => rw [playOr, GameEvent.play, runOr_eq]
      | others slot busy => rfl
      | fire slot =>
        apply bind_congr_at rfl
        rintro _ _ _ ⟨rfl⟩
        cases isTimer : game.timers slot with
        | free => rfl
        | other => rfl
        | game timer =>
          refine bind_congr_at ?_ fun _ _ _ _ => rfl
          unfold callbackOr
          split
          next context =>
            apply playerMoveCallbackOr_eq stocked
            intro ends arrived node arrives noExit finds last
            exact good ⟨slot, context, arrived, node, rfl, isTimer, ends, arrives, noExit, finds, last⟩
          · rfl
    rw [stepOr, gameStep, Program.exec, Program.exec, same]

/-- `player_move_callback`. -/
theorem wlp_playerMoveCallback_stocked (stocked : Stocked game) :
    Wlp (playerMoveCallback context) (fun _ later => Stocked later) game := by
  rw [← playerMoveCallbackOr_fault]
  by_cases ends : completes game.character.player.effect = true
  · have arrives : Wlp (arrive >>= fun _ => Program.state >>= fun game =>
        if has (game.terrain context).flags worldExit then gameLevelUp else pickUp context) (fun _ => Stocked) game := by
      apply Wlp.bind
      apply (KeepsItems.of_makes keeps_arrive game).mono
      intro _ arrived kept
      rw [wlp_state_bind]
      split
      · exact (KeepsItems.of_makes keeps_gameLevelUp arrived).mono fun _ _ keeps => (stocked.keeps kept).keeps keeps
      · exact wlp_pickUp_stocked (stocked.keeps kept)
    intro draws
    rw [playerMoveCallbackOr_ends ends, pickUpOr_fault]
    exact arrives draws
  · intro draws
    rw [playerMoveCallbackOr_goesOn ends]
    exact stocked.keeps (KeepsItems.trans .advance .timerSchedule)

theorem rolledPlayer_plain {str dex con intel wis : UInt8} :
    has (rolledPlayer str dex con intel wis).effect.tile.flags isItem = false := by
  have flags : (rolledPlayer str dex con intel wis).effect.tile.flags = isPlayer ||| isVisible ||| noFlip := rfl
  rw [flags]
  decide

/-- A new game begins without items. -/
theorem Stocked.enroll (stocked : Stocked game) {player : SpriteTile} (plain : has player.effect.tile.flags isItem = false) :
    Stocked (Game.enroll player game) where
  fits := Nat.zero_le _
  apart := List.nodup_nil
  kinds := List.nil_subset _
  dropped node isItem := by
    cases node with
    | tile index => exact stocked.dropped (.tile index) isItem
    | exit => exact stocked.dropped .exit isItem
    | sprite sprite =>
      cases sprite with
      | player => exact absurd (isItem.symm.trans plain) (by decide)
      | creature i => exact stocked.dropped (.sprite (.creature i)) isItem

theorem wlp_gameStartCommand_stocked (stocked : Stocked game) : Wlp gameStartCommand (fun _ later => Stocked later) game := by
  rw [gameStartCommand, wlp_state_bind]
  split
  · rw [wlp_update_bind, wlp_update_bind]
    apply Wlp.bind
    apply (KeepsItems.of_makes keeps_worldCreateRandom _).mono
    intro _ created keeps
    have opened : KeepsItems game { (if game.world.round.isSome then game.cancelRound else game) with
        world := { (if game.world.round.isSome then game.cancelRound else game).world with
          x := gameGridWidth, y := gameGridHeight, level := 0, score := 0 } } :=
      keepsItems_stopRound.trans (.of_same rfl fun _ => rfl)
    apply Wlp.bind
    apply wlp_playerCreateRandom.mono
    rintro _ _ ⟨str, dex, con, intel, wis, rfl⟩
    apply Wlp.bind
    apply (KeepsItems.of_makes keeps_gameStart _).mono
    intro _ last begins
    rw [wlp_update]
    have enrolled := (stocked.keeps (opened.trans keeps)).enroll (@rolledPlayer_plain str dex con intel wis)
    exact (enrolled.keeps begins).keeps (.of_same rfl fun _ => rfl)
  · exact (wlp_pure _).mpr stocked

/-- A step of the game. -/
theorem wlp_event_stocked (stocked : Stocked game) (event : GameEvent) : Wlp event.play (fun _ later => Stocked later) game := by
  have edits : ∀ {α : Type} {program : Play α} {now : Game}, Stocked now → Makes (Edit .whole) program →
      Wlp program (fun _ later => Stocked later) now := by
    intro α program now stocked edits
    exact (KeepsItems.of_makes (keeps_of_edits edits) now).mono fun _ _ keeps => stocked.keeps keeps
  apply wlp_event_of
  · exact fun _ _ => stocked
  · intro typed _
    apply wlp_command_of
    · exact fun _ => wlp_gameStartCommand_stocked stocked
    · exact fun _ => stocked.keeps keepsItems_gamePause
    · exact fun _ => edits stocked (edits_action (fun _ => trivial) trivial trivial)
    · exact fun x y => edits stocked (edits_moveCommand trivial trivial)
  · intro slot timer _ _
    have frees : ∀ now, Stocked now → Stocked (timerCancel (some slot) now) := fun _ stocked => stocked.keeps .timerCancel
    apply wlp_callback_of
    · intro _
      exact (KeepsItems.of_makes keeps_gameRound game).mono fun _ later keeps => frees later (stocked.keeps keeps)
    · intro sprite context _
      exact (edits stocked (edits_spriteMoveCallback trivial trivial)).mono fun _ later => frees later
    · intro context _
      exact (wlp_playerMoveCallback_stocked stocked).mono fun _ later => frees later
    · intro sprite attack context _
      exact (edits stocked (edits_attackCallback trivial trivial)).mono fun _ later => frees later
  · intro slot busy _ _
    exact stocked.keeps (.of_same rfl fun _ => rfl)

/-! ## Runs -/

theorem stocked_boot (nullTileNum : Int) (timers : Fin maxTimerTasks → Bool) : Stocked (boot nullTileNum timers) where
  fits := Nat.zero_le _
  apart := List.nodup_nil
  kinds := List.nil_subset _
  dropped node isItem := by
    have plain : ((boot nullTileNum timers).tileOf node).flags = 0 := by
      rcases node with _ | (_ | _) | _ <;> rfl
    rw [plain] at isItem
    exact absurd isItem (by decide)

theorem stocked_of_play {nullTileNum : Int} {timers : Fin maxTimerTasks → Bool} {steps : List (GameEvent × List (BitVec 32))}
    (runs : play (boot nullTileNum timers) steps = .ok game) : Stocked game := by
  induction steps using List.reverseRecOn generalizing game with
  | nil =>
    obtain rfl : boot nullTileNum timers = game := Except.ok.inj runs
    exact stocked_boot nullTileNum timers
  | append_singleton steps step ih =>
    obtain ⟨mid, before, after⟩ := play_append.mp runs
    exact (wlp_event_stocked (ih before) step.1).exec after

/-- In every run the items are in the list of the player, no two of them have the same tile number
    and all are written in range, if and only if no step finds the last kind. -/
theorem inventory_fits_iff (nullTileNum : Int) (timers : Fin maxTimerTasks → Bool)
    (steps : List (GameEvent × List (BitVec 32))) :
    (∀ past later game, steps = past ++ later → play (boot nullTileNum timers) past = .ok game →
      InventoryFits game ∧ ∀ step ∈ later.head?, WritesInRange game step) ↔
      ∀ past step later game, steps = past ++ step :: later → play (boot nullTileNum timers) past = .ok game →
        ¬ FindsLastKind game step := by
  constructor
  · intro holds past step later game isSteps before
    exact (writesInRange_iff (stocked_of_play before) step).mp ((holds past (step :: later) game isSteps before).2 step rfl)
  · intro good past later game isSteps before
    have stocked := stocked_of_play before
    refine ⟨stocked.toInventoryFits, ?_⟩
    intro step isNext
    cases later with
    | nil => cases isNext
    | cons next later =>
      obtain rfl : next = step := Option.some.inj isNext
      exact (writesInRange_iff stocked next).mpr (good past next later game isSteps before)

/-! ## A hoard -/

/-- The timers of an effect of four steps fire, where the game has the first three elements. -/
def fires (draws : List (BitVec 32)) : List (GameEvent × List (BitVec 32)) :=
  [(.fire (timerTask 1 one_lt_maxTimerTasks), []), (.fire (timerTask 2 two_lt_maxTimerTasks), []),
    (.fire (timerTask 1 one_lt_maxTimerTasks), draws)]

/-- The player kills the bat to its left, goes to its tile and finds what a roll stands for. -/
def hunt (dice : Nat) (roll : BitVec 32) : List (GameEvent × List (BitVec 32)) :=
  (.command .action, 20 :: List.replicate dice 5 ++ [6, 8, roll]) :: fires [] ++ (.command .west, []) :: fires []

/-- The random numbers of a level: bats in a row to the left of the player, and then the exit. -/
def batRow (bats : Nat) : List (BitVec 32) :=
  ((List.range bats).flatMap fun i => [50, BitVec.ofNat 32 (19 - i), 10]) ++ [BitVec.ofNat 32 (19 - bats), 10, 20, 10]

/-- The player goes to the exit, and to a level with some bats. -/
def leave (bats : Nat) : List (GameEvent × List (BitVec 32)) :=
  (.command .west, []) :: fires (meadowTerrain ++ batRow bats)

/-- A wizard collects sixteen kinds on five levels, and is on its way to the seventeenth. -/
def hoard : List (GameEvent × List (BitVec 32)) :=
  (.command .gameStart, meadowTerrain ++ [0, 0, 0, 0, 0, 0, 0, 0, 0, 5, 5, 5, 0, 0, 0, 0] ++ batRow 2) ::
    [12, 14].flatMap (hunt 1) ++ leave 3 ++ [1, 2, 3].flatMap (hunt 1) ++ leave 4 ++ [4, 5, 6, 7].flatMap (hunt 1) ++
    leave 5 ++ [8, 9, 10, 11, 13].flatMap (hunt 2) ++ leave 6 ++ [14, 15].flatMap (hunt 2) ++ (hunt 2 12).dropLast

def stopsAs (stop : Stop) : Except Stop Game → Bool
  | .error reason => reason = stop
  | .ok _ => false

/-- The staff that the last bat has left is written behind the array. -/
theorem seventeenth_item_is_behind :
    ∃ game, play (boot 0 fun _ => false) hoard = .ok game ∧ game.character.items.length = maxItems ∧
      ¬ WritesInRange game (.fire (timerTask 1), []) := by
  have passes : (play (boot 0 fun _ => false) hoard).toOption.any (fun game =>
      decide (game.character.items.length = maxItems) &&
        (stopsAs .loop (stepOr (fun _ => Program.halt .loop) game (.fire (timerTask 1), [])) &&
          stopsAs .fault (gameStep game (.fire (timerTask 1), [])))) = true := by
    delta play gameStep GameEvent.play Command.run gameStartCommand GameTimer.callback playerMoveCallback gameLevelUp
    rw [worldCreateRandom_evenly]
    decide +kernel
  obtain ⟨game, reached, checked⟩ := exists_of_any passes
  rw [Bool.and_eq_true, Bool.and_eq_true, decide_eq_true_eq] at checked
  obtain ⟨full, loops, faults⟩ := checked
  refine ⟨game, reached, full, fun writes => ?_⟩
  -- the fault of the model is not what the step does with another write behind the array
  rw [writes] at loops
  cases ran : gameStep game (.fire (timerTask 1), []) with
  | ok later =>
    rw [ran] at faults
    cases faults
  | error reason =>
    rw [ran, stopsAs, decide_eq_true_eq] at loops faults
    rw [loops] at faults
    cases faults

end ComputerSystems.Verified
