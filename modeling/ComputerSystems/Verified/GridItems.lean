import ComputerSystems.Data.Footprint
import ComputerSystems.Verified.GridCommands

/-! # Where items come from

A tile is an item once a defeated creature has been turned into one, and then has one of the
tile numbers that the rolls stand for: a potion, or one of seventeen others.  Whatever else
changes the flags of a tile leaves `IS_ITEM` out, or as it is.

`KeepsItems` says this of a change of the game, and that the player's list of items stays the
same.
-/

namespace ComputerSystems.Verified

open ComputerSystems.Data ComputerSystems.VirtualWorld

variable {game later : Game} {sprite : Sprite} {place : EffectAt}

/-! ## Kinds -/

/-- The tile numbers of the items that a creature can leave beside a potion.  The bag, 4, and
    the arrow only come from the rolls 12 and 14 of the first five defeats. -/
def itemKinds : List Int :=
  [itemWeaponSword, itemArmourSheild, itemArmourLeather, 4, itemWeaponBow, itemWeaponArrow, itemMagicBoots, itemHelmet,
    itemChainmail, itemBattleaxe, itemPlatemail, itemSplintmail, itemMagicBelt, itemPowerStaff, itemFlamingSword,
    itemLightningSword, itemPowerSword]

/-- What a defeated creature can become. -/
def Treasure (tileNum : Int) : Prop := tileNum = itemPotion ∨ tileNum ∈ itemKinds

instance decidableTreasure (tileNum : Int) : Decidable (Treasure tileNum) :=
  inferInstanceAs (Decidable (tileNum = itemPotion ∨ tileNum ∈ itemKinds))

/-- The score only matters for whether the rare items are released, and all of them. -/
theorem droppedItem_score (score roll : Nat) :
    ∃ release ∈ [0, 6, 10], droppedItem score roll = droppedItem release roll := by
  by_cases early : score ≤ 5
  · exact ⟨0, by simp, by simp [droppedItem, early]⟩
  · by_cases reduced : score < 10
    · exact ⟨6, by simp, by simp [droppedItem, early, reduced]⟩
    · exact ⟨10, by simp, by simp [droppedItem, early, reduced]⟩

theorem droppedItem_treasure (score : Nat) {roll : Nat} (small : roll < 16) : Treasure (droppedItem score roll) := by
  have all : ∀ release ∈ [0, 6, 10], ∀ roll < 16, Treasure (droppedItem release roll) := by decide
  obtain ⟨release, isRelease, same⟩ := droppedItem_score score roll
  rw [same]
  exact all release isRelease roll small

theorem d16_lt : Wlp d16 (fun roll later => roll < 16 ∧ later = game) game := by
  apply Wlp.bind
  apply Wlp.draw
  intro random
  refine (wlp_pure _).mpr ⟨?_, rfl⟩
  rw [BitVec.toNat_umod]
  exact Nat.mod_lt _ (by decide)

theorem rollItem_treasure {score : Nat} : Wlp (rollItem score) (fun item later => Treasure item ∧ later = game) game := by
  apply Wlp.bind_draws d16_draws
  intro first
  split
  · exact (wlp_pure _).mpr ⟨.inl rfl, rfl⟩
  · apply Wlp.bind
    apply d16_lt.mono
    rintro roll _ ⟨small, rfl⟩
    exact (wlp_pure _).mpr ⟨droppedItem_treasure score small, rfl⟩

/-- A tile is no item that it was not before, but for what a creature can become. -/
def KeepsKind (before tile : Tile) : Prop :=
  has tile.flags isItem = true → Treasure tile.tileNum ∨ (has before.flags isItem = true ∧ tile.tileNum = before.tileNum)

namespace KeepsKind

variable {before tile last : Tile}

theorem refl : KeepsKind tile tile := fun item => .inr ⟨item, rfl⟩

theorem trans (first : KeepsKind before tile) (second : KeepsKind tile last) : KeepsKind before last := by
  intro item
  cases second item with
  | inl dropped => exact .inl dropped
  | inr same =>
    rw [same.2]
    exact first same.1

/-- A tile that is no item. -/
theorem plain (noItem : has tile.flags isItem = false) : KeepsKind before tile :=
  fun item => absurd (item.symm.trans noItem) (by decide)

/-- The flag of items stays as it is. -/
theorem flags {flags : BitVec 32} (same : has flags isItem = has tile.flags isItem) : KeepsKind tile { tile with flags } :=
  fun item => .inr ⟨same.symm.trans item, rfl⟩

theorem setMask {mask : BitVec 32} (disjoint : mask &&& isItem = 0) :
    KeepsKind tile { tile with flags := tile.flags ||| mask } := by
  apply flags
  rw [has, has, and_or_of_disjoint disjoint]

theorem clearMask {mask : BitVec 32} (disjoint : mask &&& isItem = 0) :
    KeepsKind tile { tile with flags := tile.flags &&& ~~~mask } := by
  apply flags
  rw [has, has, and_not_of_disjoint disjoint]

end KeepsKind

/-! ## Changes of the game -/

/-- The player carries the same items, and only defeated creatures become items. -/
structure KeepsItems (game later : Game) : Prop where
  items : later.character.items = game.character.items
  kind : ∀ node, KeepsKind (game.tileOf node) (later.tileOf node)

namespace KeepsItems

theorem refl : KeepsItems game game := ⟨rfl, fun _ => .refl⟩

theorem trans {last : Game} (first : KeepsItems game later) (second : KeepsItems later last) : KeepsItems game last :=
  ⟨second.items.trans first.items, fun node => (first.kind node).trans (second.kind node)⟩

/-- What is neither a tile nor carried may change. -/
theorem of_same (items : later.character.items = game.character.items)
    (same : ∀ node, later.tileOf node = game.tileOf node) : KeepsItems game later := by
  refine ⟨items, fun node => ?_⟩
  rw [same]
  exact .refl

theorem terrain {terrain : TileIndex → Tile} (kind : ∀ tile, KeepsKind (game.terrain tile) (terrain tile)) :
    KeepsItems game { game with terrain } := by
  refine ⟨rfl, fun node => ?_⟩
  cases node with
  | tile index => exact kind index
  | sprite sprite => exact .refl
  | exit => exact .refl

theorem setTerrainFlags {tile : TileIndex} {mask : BitVec 32} (disjoint : mask &&& isItem = 0) :
    KeepsItems game (game.setTerrainFlags tile ((game.terrain tile).flags ||| mask)) := by
  apply KeepsItems.terrain
  intro other
  by_cases same : other = tile
  · rw [same, Function.update_self]
    exact .setMask disjoint
  · rw [Function.update_of_ne same]
    exact .refl

theorem setSprite {value : SpriteTile} (kind : KeepsKind (game.sprite sprite).effect.tile value.effect.tile) :
    KeepsItems game (game.setSprite sprite value) := by
  constructor
  · cases sprite <;> rfl
  · intro node
    cases node with
    | tile index => cases sprite <;> exact .refl
    | exit => cases sprite <;> exact .refl
    | sprite other =>
      simp only [Game.tileOf, sprite_setSprite]
      split
      next same =>
        rw [same]
        exact kind
      · exact .refl

theorem setEffect {effect : EffectTile} (kind : KeepsKind (game.effect place).tile effect.tile) :
    KeepsItems game (game.setEffect place effect) := by
  cases place with
  | sprite sprite => exact .setSprite kind
  | action sprite attack => cases attack <;> exact .setSprite .refl

theorem advance : KeepsItems game (game.advance place) := by
  rw [Game.advance]
  split
  · apply KeepsItems.setEffect
    rw [tileEffectNext]
    split <;> exact .refl
  · exact .refl

theorem timerSchedule {timer : GameTimer} : KeepsItems game (timerSchedule timer game).2 := by
  rw [VirtualWorld.timerSchedule]
  split
  · exact .of_same rfl fun _ => rfl
  · exact .refl

theorem timerCancel {slot : Option (Fin maxTimerTasks)} : KeepsItems game (timerCancel slot game) := by
  cases slot with
  | none => exact .refl
  | some slot => exact .of_same rfl fun _ => rfl

/-- `TileEffectStart`. -/
theorem tileEffectStart {x y : Int} : KeepsItems game (tileEffectStart place x y game).2 := by
  have turned : KeepsKind (game.effect place).tile (effectStart x y (game.effect place)).tile :=
    .flags (effectStart_flags.has isItem (by decide))
  rw [VirtualWorld.tileEffectStart]
  simp only
  split
  · split
    · exact .refl
    · split
      · exact .setEffect turned
      · split
        · exact trans (.setEffect turned) .timerSchedule
        · exact .setEffect turned
  · exact .refl

theorem prepareMove {poll : EffectPoll} : KeepsItems game (game.setSprite sprite ((game.sprite sprite).prepareMove poll)) :=
  .setSprite (.trans (.clearMask (by decide)) (.setMask (by decide)))

theorem launch {attacker attacked : Sprite} {attack : Attack} : KeepsItems game (game.launch attacker attack attacked).2 := by
  rw [Game.launch]
  refine trans ?_ .tileEffectStart
  exact .setEffect .refl

theorem scheduleRound : KeepsItems game game.scheduleRound :=
  trans .timerSchedule (.of_same rfl fun _ => rfl)

theorem cancelRound : KeepsItems game game.cancelRound :=
  trans .timerCancel (.of_same rfl fun _ => rfl)

end KeepsItems

end ComputerSystems.Verified
