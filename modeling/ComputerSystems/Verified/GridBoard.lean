import Mathlib.Data.List.Find
import Mathlib.Data.List.Perm.Subperm
import ComputerSystems.VirtualWorld.Commands

/-! # The board of the game

The lists of the grid tiles, apart from what a game does to them: `Listed links place`
says that the links make a ring of every tile and that a node is in the ring of the
tile where `place` has it, and in no other.  A node can leave the ring it is in and
enter another; a search of a ring sees the nodes that are there.

A `Board` is what the lists of a game have to agree with: where the sprites are and
which of them are on the grid, and whether every timer fits what it is for.  `Sound` is the invariant of a game that has started.
-/

namespace ComputerSystems.Verified

open ComputerSystems.Data ComputerSystems.VirtualWorld
open ComputerSystems.System (DoubleLink listRemove listAppend listInsertAfter_next listInsertAfter_previous
  listRemove_next listRemove_previous)

/-! ## Rings of tiles -/

section Rings

variable {links : Node → DoubleLink Node} {contents : TileIndex → List Node} {node : Node} {tile : TileIndex}

/-- Every tile heads a circular list, and no node is in two of them. -/
def TileLists (links : Node → DoubleLink Node) (contents : TileIndex → List Node) : Prop :=
  Rings (fun node => (links node).next) (fun node => (links node).previous) Node.tile contents

/-- A number below `nodeCount` for every node. -/
def nodeNumber : Node → Nat
  | .tile index => index.val
  | .sprite .player => gameGridWidth * gameGridHeight
  | .sprite (.creature index) => gameGridWidth * gameGridHeight + 1 + index.val
  | .exit => gameGridWidth * gameGridHeight + 1 + maxCreatures

theorem nodeNumber_lt : ∀ node, nodeNumber node < nodeCount
  | .tile index => by
    have := index.isLt
    simp only [nodeNumber, nodeCount]
    omega
  | .sprite .player => by decide
  | .sprite (.creature index) => by
    have := index.isLt
    simp only [nodeNumber, nodeCount]
    omega
  | .exit => by decide

theorem nodeNumber_injective : Function.Injective nodeNumber := by
  intro first second same
  cases first with
  | tile first =>
    have := first.isLt
    rcases second with second | (_ | second) | _ <;> simp only [nodeNumber] at same
    · rw [Fin.ext same]
    all_goals omega
  | sprite first =>
    cases first with
    | player =>
      rcases second with second | (_ | second) | _ <;> simp only [nodeNumber] at same
      · have := second.isLt
        omega
      · rfl
      all_goals omega
    | creature first =>
      have := first.isLt
      rcases second with second | (_ | second) | _ <;> simp only [nodeNumber] at same
      · have := second.isLt
        omega
      · omega
      · rw [Fin.ext (by omega : first.val = second.val)]
      · omega
  | exit =>
    rcases second with second | (_ | second) | _ <;> simp only [nodeNumber] at same
    · have := second.isLt
      omega
    · omega
    · have := second.isLt
      omega
    · rfl

/-- A list without repetitions is shorter than the walks may be. -/
theorem nodup_length_le {nodes : List Node} (nodup : nodes.Nodup) : nodes.length ≤ nodeCount := by
  have inside : nodes.map nodeNumber ⊆ List.range nodeCount := by
    intro number isIn
    obtain ⟨node, _, rfl⟩ := List.mem_map.mp isIn
    exact List.mem_range.mpr (nodeNumber_lt node)
  have bound := (List.subperm_of_subset (nodup.map nodeNumber_injective) inside).length_le
  simpa using bound

namespace TileLists

theorem length_lt (lists : TileLists links contents) (tile : TileIndex) : (contents tile).length < nodeCount := by
  have bound := nodup_length_le (lists.ring tile).nodup
  rw [List.length_cons] at bound
  omega

theorem nodup (lists : TileLists links contents) (tile : TileIndex) : (contents tile).Nodup :=
  (lists.ring tile).nodup.of_cons

theorem not_tile (lists : TileLists links contents) {other : TileIndex} : .tile other ∉ contents tile := by
  intro isIn
  obtain rfl : other = tile := lists.apart List.mem_cons_self (List.mem_cons_of_mem _ isIn)
  exact (List.nodup_cons.mp (lists.ring other).nodup).1 isIn

/-- `ListRemove` of a node that is in a list. -/
theorem remove (lists : TileLists links contents) (isIn : node ∈ contents tile) :
    TileLists (listRemove (links node) links) (Function.update contents tile ((contents tile).erase node)) :=
  Rings.unlink lists isIn (listRemove_next _ _) (listRemove_previous _ _)

/-- `ListAppend` of a node that is in no list. -/
theorem append (lists : TileLists links contents) (fresh : ∀ other, node ∉ contents other)
    (apart : ∀ other, node ≠ .tile other) (tile : TileIndex) :
    ∃ links', listAppend nodeCount node (.tile tile) links = some links' ∧
      TileLists links' (Function.update contents tile (contents tile ++ [node])) := by
  have walk := (lists.ring tile).lastBefore (lists.length_lt tile)
  refine ⟨_, by rw [listAppend, walk, Option.map_some], ?_⟩
  have other : ∀ other, node ∉ Node.tile other :: contents other := by
    intro other isIn
    cases List.mem_cons.mp isIn with
    | inl head => exact apart other head
    | inr inside => exact fresh other inside
  have lastIn := List.getLast_mem (List.cons_ne_nil (Node.tile tile) (contents tile))
  have different : node ≠ (Node.tile tile :: contents tile).getLast (List.cons_ne_nil _ _) := by
    intro same
    exact other tile (same ▸ lastIn)
  exact Rings.append lists other rfl (listInsertAfter_next links different) (listInsertAfter_previous links different)

/-- The links of a node that is in no list do not matter. -/
theorem scrub (lists : TileLists links contents) (fresh : ∀ other, node ∉ contents other)
    (apart : ∀ other, node ≠ .tile other) (value : DoubleLink Node) :
    TileLists (Function.update links node value) contents := by
  have other : ∀ tile met, met ∈ Node.tile tile :: contents tile → met ≠ node := by
    rintro tile met isIn rfl
    cases List.mem_cons.mp isIn with
    | inl head => exact apart tile head
    | inr inside => exact fresh tile inside
  constructor
  · intro tile
    apply (lists.ring tile).congr
    · intro met isIn
      simp only [Function.update_of_ne (other tile met isIn)]
    · intro met isIn
      simp only [Function.update_of_ne (other tile met isIn)]
  · intro key other node
    exact lists.apart

/-- Tiles that are linked to themselves. -/
theorem empty (alone : ∀ tile, links (.tile tile) = { next := some (.tile tile), previous := some (.tile tile) }) :
    TileLists links fun _ => [] where
  ring tile := .single (by rw [alone]) (by rw [alone])
  apart := by
    intro first second node here there
    simp only [List.mem_singleton] at here there
    exact Node.tile.inj (here.symm.trans there)

theorem findTile (lists : TileLists links contents) {game : Game} (same : game.links = links) (select : Node → Bool)
    (tile : TileIndex) : findTile select tile game = .ok ((contents tile).find? select) := by
  have walk := (lists.ring tile).findOn select (lists.length_lt tile)
  rw [VirtualWorld.findTile, same]
  simp only [walk]

end TileLists

end Rings

/-! ## Where the nodes are -/

/-- Erasing something that a search does not look for. -/
theorem find?_erase {nodes : List Node} {node : Node} {select : Node → Bool} (skips : select node = false) :
    (nodes.erase node).find? select = nodes.find? select := by
  induction nodes with
  | nil => rfl
  | cons first nodes ih =>
    by_cases same : first = node
    · rw [same, List.erase_cons_head, List.find?_cons, skips]
    · rw [List.erase_cons_tail (by simpa using same), List.find?_cons, List.find?_cons, ih]

section Listed

variable {links : Node → DoubleLink Node} {place : Node → Option TileIndex} {node : Node} {tile : TileIndex}

/-- A node is in the list of the tile where `place` has it, and in no other. -/
def Listed (links : Node → DoubleLink Node) (place : Node → Option TileIndex) : Prop :=
  ∃ contents, TileLists links contents ∧ ∀ node tile, node ∈ contents tile ↔ place node = some tile

namespace Listed

theorem empty (alone : ∀ tile, links (.tile tile) = { next := some (.tile tile), previous := some (.tile tile) }) :
    Listed links fun _ => none :=
  ⟨fun _ => [], TileLists.empty alone, by simp⟩

theorem leave (listed : Listed links place) (there : place node = some tile) :
    Listed (listRemove (links node) links) (Function.update place node none) := by
  obtain ⟨contents, lists, members⟩ := listed
  refine ⟨_, lists.remove ((members node tile).mpr there), ?_⟩
  intro met other
  by_cases same : other = tile
  · subst same
    rw [Function.update_self, (lists.nodup other).mem_erase_iff, members]
    by_cases isNode : met = node
    · simp [isNode]
    · simp [isNode]
  · rw [Function.update_of_ne same, members]
    by_cases isNode : met = node
    · simp only [isNode, there, Option.some.injEq, Function.update_self, reduceCtorEq, iff_false]
      exact Ne.symm same
    · rw [Function.update_of_ne isNode]

theorem enter (listed : Listed links place) (nowhere : place node = none) (apart : ∀ other, node ≠ .tile other)
    (tile : TileIndex) :
    ∃ links', listAppend nodeCount node (.tile tile) links = some links' ∧
      Listed links' (Function.update place node (some tile)) := by
  obtain ⟨contents, lists, members⟩ := listed
  have fresh : ∀ other, node ∉ contents other := by
    intro other isIn
    rw [members, nowhere] at isIn
    cases isIn
  obtain ⟨links', appends, lists'⟩ := lists.append fresh apart tile
  refine ⟨links', appends, _, lists', ?_⟩
  intro met other
  by_cases isNode : met = node
  · rw [isNode, Function.update_self, Option.some.injEq]
    by_cases same : other = tile
    · simp [same]
    · simp only [Function.update_of_ne same, fresh, false_iff]
      exact Ne.symm same
  · rw [Function.update_of_ne isNode, ← members]
    by_cases same : other = tile
    · subst same
      simp [isNode]
    · rw [Function.update_of_ne same]

theorem scrub (listed : Listed links place) (nowhere : place node = none) (apart : ∀ other, node ≠ .tile other)
    (value : DoubleLink Node) : Listed (Function.update links node value) place := by
  obtain ⟨contents, lists, members⟩ := listed
  refine ⟨contents, lists.scrub ?_ apart value, members⟩
  intro other isIn
  rw [members, nowhere] at isIn
  cases isIn

/-- A search ends, and finds a node of the tile. -/
theorem find (listed : Listed links place) {game : Game} (same : game.links = links) (select : Node → Bool)
    (tile : TileIndex) :
    ∃ found, findTile select tile game = .ok found ∧
      ∀ node, found = some node → place node = some tile ∧ select node = true ∧ ∀ other, node ≠ .tile other := by
  obtain ⟨contents, lists, members⟩ := listed
  refine ⟨_, lists.findTile same select tile, ?_⟩
  intro node finds
  have isIn := List.mem_of_find?_eq_some finds
  refine ⟨(members node tile).mp isIn, List.find?_some finds, ?_⟩
  rintro other rfl
  exact lists.not_tile isIn

/-- Searches for the same nodes find the same. -/
theorem find_congr (listed : Listed links place) {game : Game} (same : game.links = links) {select select' : Node → Bool}
    (agree : ∀ node, (∀ other, node ≠ .tile other) → select node = select' node) (tile : TileIndex) :
    findTile select tile game = findTile select' tile game := by
  obtain ⟨contents, lists, _⟩ := listed
  have here : ∀ node ∈ contents tile, select node = select' node := by
    intro node isIn
    refine agree node ?_
    rintro other rfl
    exact lists.not_tile isIn
  rw [lists.findTile same, lists.findTile same, List.find?_congr here]

/-- A node leaves its list and enters another one, or the same again at its end.
    Searches that do not look for it find what they found before. -/
theorem move (listed : Listed links place) (there : place node = some tile) (apart : ∀ other, node ≠ .tile other)
    (target : TileIndex) :
    ∃ links', listAppend nodeCount node (.tile target) (listRemove (links node) links) = some links' ∧
      Listed links' (Function.update place node (some target)) ∧
      ∀ (select : Node → Bool) (game game' : Game) (searched : TileIndex), select node = false →
        game.links = links → game'.links = links' →
        findTile select searched game' = findTile select searched game := by
  obtain ⟨contents, lists, members⟩ := listed
  have removed := lists.remove ((members node tile).mpr there)
  have left : Listed (listRemove (links node) links) (Function.update place node none) :=
    leave ⟨contents, lists, members⟩ there
  -- once it has left its list the node is in none, whatever its own links still say
  have fresh : ∀ other, node ∉ Function.update contents tile ((contents tile).erase node) other := by
    intro other isIn
    by_cases same : other = tile
    · subst same
      rw [Function.update_self, (lists.nodup other).mem_erase_iff] at isIn
      exact isIn.1 rfl
    · rw [Function.update_of_ne same, members, there] at isIn
      exact same (Option.some.inj isIn).symm
  obtain ⟨links', appends, appended⟩ := removed.append fresh apart target
  obtain ⟨_, appends', entered⟩ := left.enter (Function.update_self ..) apart target
  obtain rfl := Option.some.inj (appends.symm.trans appends')
  rw [Function.update_idem] at entered
  refine ⟨links', appends, entered, ?_⟩
  intro select game game' searched skips before after
  rw [appended.findTile after, lists.findTile before]
  -- neither leaving nor entering at the end changes the order of the other nodes
  have erased : ∀ other, (Function.update contents tile ((contents tile).erase node) other).find? select =
      (contents other).find? select := by
    intro other
    by_cases same : other = tile
    · rw [same, Function.update_self, find?_erase skips]
    · rw [Function.update_of_ne same]
  by_cases same : searched = target
  · rw [same, Function.update_self, List.find?_append, erased]
    simp [skips]
  · rw [Function.update_of_ne same, erased]

end Listed

end Listed

/-! ## Boards -/

/-- What the lists have to agree with of a sprite. -/
structure Standing where
  locationX : Int
  locationY : Int
  destinationX : Int
  destinationY : Int
  killed : Bool
  spent : Bool
  item : Bool
  creature : Bool
  player : Bool
  dead : Bool
  cleric : Bool
  world : Bool

def standing (sprite : SpriteTile) : Standing where
  locationX := sprite.effect.locationX
  locationY := sprite.effect.locationY
  destinationX := sprite.effect.destinationX
  destinationY := sprite.effect.destinationY
  killed := sprite.stats.hp < 0
  spent := sprite.stats.hp ≤ 0
  item := has sprite.effect.tile.flags isItem
  creature := has sprite.effect.tile.flags isCreature
  player := has sprite.effect.tile.flags isPlayer
  dead := has sprite.effect.tile.flags isDead
  cleric := has sprite.stats.flags classCleric
  world := sprite.currentWorld

/-- A killed sprite remains as an item that has not been taken. -/
def Standing.remains (value : Standing) (taken : Bool) : Bool := if value.item then !taken else !value.killed

/-- The tile at a location on a grid of this size. -/
def Standing.tile (value : Standing) (width height : Int) : Option TileIndex :=
  if width ≤ value.locationX ∨ height ≤ value.locationY ∨ value.locationX < 0 ∨ value.locationY < 0 then none
  else tileAt value.locationX value.locationY

/-- A timer that calls its function with an effect of the kind that the function is for. -/
def GameTimer.fits : GameTimer → Bool
  | .round => true
  | .effect .spriteMove (.sprite _) _ => true
  | .effect .playerMove (.sprite .player) _ => true
  | .effect .attack (.action _ _) _ => true
  | .effect _ _ _ => false

def TimerSlot.fits : TimerSlot → Bool
  | .game timer => GameTimer.fits timer
  | .free | .other => true

structure Board where
  links : Node → DoubleLink Node
  sprites : Sprite → Standing
  level : Nat
  taken : CreatureIndex → Bool
  exitFlags : BitVec 32
  width : Int
  height : Int
  timersFit : Prop

def board (game : Game) : Board where
  links := game.links
  sprites sprite := standing (game.sprite sprite)
  level := game.world.level
  taken := game.taken
  exitFlags := game.exitTile.flags
  width := game.world.x
  height := game.world.y
  timersFit := ∀ slot, TimerSlot.fits (game.timers slot) = true

namespace Board

/-- The sprites of the level. -/
def inPlay (board : Board) : Sprite → Bool
  | .player => true
  | .creature i => i.val ≤ board.level

/-- Whether the player has taken a sprite. -/
def takes (board : Board) : Sprite → Bool
  | .player => false
  | .creature i => board.taken i

/-- Whether a sprite is on the grid: not if it has been killed, and as an item until
    the player takes it. -/
def onGrid (board : Board) (sprite : Sprite) : Bool :=
  board.inPlay sprite && (board.sprites sprite).remains (board.takes sprite)

/-- The tile at a sprite's location. -/
def under (board : Board) (sprite : Sprite) : Option TileIndex :=
  (board.sprites sprite).tile board.width board.height

/-- The tile in whose list a sprite belongs. -/
def standsOn (board : Board) (sprite : Sprite) : Option TileIndex :=
  if board.onGrid sprite then board.under sprite else none

/-- Coordinates on the grid. -/
def Inside (x y : Int) : Prop := 0 ≤ x ∧ x < gameGridWidth ∧ 0 ≤ y ∧ y < gameGridHeight

instance decidableInside (x y : Int) : Decidable (Inside x y) :=
  inferInstanceAs (Decidable (0 ≤ x ∧ x < gameGridWidth ∧ 0 ≤ y ∧ y < gameGridHeight))

/-- What does not change in a round: the level, whether the player is a cleric, and
    which sprites can no longer act. -/
structure Setting where
  level : Nat
  cleric : Bool
  idle : Sprite → Prop

/-- What holds of a sprite of the level.  Only the player and the first seven creatures
    are sure to have a world. -/
structure Fits (taken : CreatureIndex → Bool) (setting : Setting) (sprite : Sprite) (value : Standing) : Prop where
  location : Inside value.locationX value.locationY
  destination : Inside value.destinationX value.destinationY
  player : value.player = true ↔ sprite = .player
  item : value.item = true → value.creature = false ∧ value.player = false
  killed : value.killed = true → value.dead = true ∨ value.item = true
  taken : ∀ i, sprite = .creature i → taken i = true → value.item = true
  world : (∀ i, sprite = .creature i → i.val < 7) → value.world = true
  cleric : sprite = .player → value.cleric = setting.cleric
  idle : setting.idle sprite → value.spent = true ∨ (value.dead = true ∧ value.player = false)

/-- What holds beside the lists. -/
structure Facts (board : Board) (setting : Setting) : Prop where
  width : board.width = gameGridWidth
  height : board.height = gameGridHeight
  level : board.level = setting.level
  bound : setting.level < maxCreatures
  exit : has board.exitFlags isItem = false ∧ has board.exitFlags (isCreature ||| isPlayer) = false
  timers : board.timersFit
  fits : ∀ sprite, board.inPlay sprite = true → Fits board.taken setting sprite (board.sprites sprite)

/-- The lists agree with the board. -/
def Agrees (board : Board) : Prop :=
  ∃ place, Listed board.links place ∧ ∀ sprite, place (.sprite sprite) = board.standsOn sprite

/-- The invariant of a game that has been started. -/
structure Sound (setting : Setting) (board : Board) : Prop where
  facts : board.Facts setting
  agrees : board.Agrees

def setSprite (sprite : Sprite) (value : Standing) (board : Board) : Board :=
  { board with sprites := Function.update board.sprites sprite value }

variable {board board' : Board} {setting : Setting} {sprite other : Sprite} {value : Standing} {tile : TileIndex}

@[simp] theorem setSprite_sprites (board : Board) :
    (board.setSprite sprite value).sprites = Function.update board.sprites sprite value := rfl

@[simp] theorem setSprite_inPlay (board : Board) :
    (board.setSprite sprite value).inPlay other = board.inPlay other := by
  cases other <;> rfl

theorem setSprite_self : board.setSprite sprite (board.sprites sprite) = board := by
  rw [setSprite, Function.update_eq_self]

/-- Whether a sprite is on the grid depends on that sprite alone. -/
theorem onGrid_congr (same : board'.sprites other = board.sprites other) (level : board'.level = board.level)
    (taken : ∀ i, other = .creature i → board'.taken i = board.taken i) : board'.onGrid other = board.onGrid other := by
  cases other with
  | player => simp only [onGrid, inPlay, takes, same]
  | creature i => simp only [onGrid, inPlay, takes, same, level, taken i rfl]

theorem standsOn_congr (same : board'.sprites other = board.sprites other) (level : board'.level = board.level)
    (taken : ∀ i, other = .creature i → board'.taken i = board.taken i) (width : board'.width = board.width)
    (height : board'.height = board.height) : board'.standsOn other = board.standsOn other := by
  rw [standsOn, standsOn, onGrid_congr same level taken, under, under, same, width, height]

theorem standsOn_setSprite_of_ne (apart : other ≠ sprite) :
    (board.setSprite sprite value).standsOn other = board.standsOn other :=
  standsOn_congr (Function.update_of_ne apart ..) rfl (fun _ _ => rfl) rfl rfl

theorem standsOn_iff : board.standsOn sprite = some tile ↔ board.onGrid sprite = true ∧ board.under sprite = some tile := by
  simp [standsOn]

theorem onGrid_inPlay (on : board.onGrid sprite = true) : board.inPlay sprite = true := by
  simp only [onGrid, Bool.and_eq_true] at on
  exact on.1

theorem tileAt_inside {x y : Int} (inside : Inside x y) : ∃ tile, tileAt x y = some tile := by
  obtain ⟨left, right, top, bottom⟩ := inside
  simp only [gameGridWidth, gameGridHeight] at right bottom
  rw [tileAt, dif_pos]
  · exact ⟨_, rfl⟩
  · simp only [gameGridWidth, gameGridHeight]
    omega

/-- On the grid there is a tile at every place. -/
theorem gridTile_inside {x y width height : Int} (isWidth : width = gameGridWidth) (isHeight : height = gameGridHeight)
    (inside : Inside x y) : (if width ≤ x ∨ height ≤ y ∨ x < 0 ∨ y < 0 then none else tileAt x y) = tileAt x y := by
  obtain ⟨left, right, top, bottom⟩ := inside
  rw [if_neg]
  rw [isWidth, isHeight]
  omega

theorem Facts.under (facts : board.Facts setting) (plays : board.inPlay sprite = true) :
    ∃ tile, board.under sprite = some tile := by
  have inside := (facts.fits sprite plays).location
  obtain ⟨tile, there⟩ := tileAt_inside inside
  exact ⟨tile, (gridTile_inside facts.width facts.height inside).trans there⟩

theorem Facts.standsOn (facts : board.Facts setting) (on : board.onGrid sprite = true) :
    ∃ tile, board.standsOn sprite = some tile := by
  obtain ⟨tile, there⟩ := facts.under (onGrid_inPlay on)
  exact ⟨tile, standsOn_iff.mpr ⟨on, there⟩⟩

theorem Facts.setSprite (facts : board.Facts setting)
    (fits : board.inPlay sprite = true → Fits board.taken setting sprite value) :
    (board.setSprite sprite value).Facts setting where
  width := facts.width
  height := facts.height
  level := facts.level
  bound := facts.bound
  exit := facts.exit
  timers := facts.timers
  fits other plays := by
    rw [setSprite_inPlay] at plays
    by_cases same : other = sprite
    · subst same
      rw [setSprite_sprites, Function.update_self]
      exact fits plays
    · rw [setSprite_sprites, Function.update_of_ne same]
      exact facts.fits other plays

/-- A sprite changes and stays where it is. -/
theorem Sound.setSprite (sound : board.Sound setting)
    (fits : board.inPlay sprite = true → Fits board.taken setting sprite value)
    (stays : (board.setSprite sprite value).standsOn sprite = board.standsOn sprite) :
    (board.setSprite sprite value).Sound setting := by
  obtain ⟨place, listed, agree⟩ := sound.agrees
  refine ⟨sound.facts.setSprite fits, place, listed, ?_⟩
  intro other
  by_cases same : other = sprite
  · rw [same, agree, stays]
  · rw [agree, standsOn_setSprite_of_ne same]

/-- A sprite leaves the grid. -/
theorem Agrees.leave (agrees : board.Agrees) (there : board.standsOn sprite = some tile)
    (links : board'.links = listRemove (board.links (.sprite sprite)) board.links)
    (gone : board'.standsOn sprite = none)
    (others : ∀ other, other ≠ sprite → board'.standsOn other = board.standsOn other) : board'.Agrees := by
  obtain ⟨place, listed, agree⟩ := agrees
  refine ⟨Function.update place (.sprite sprite) none, ?_, ?_⟩
  · rw [links]
    exact listed.leave ((agree sprite).trans there)
  · intro other
    by_cases same : other = sprite
    · rw [same, Function.update_self, gone]
    · rw [Function.update_of_ne (by simpa using same), agree, others other same]

/-- A sprite that was not on the grid enters it. -/
theorem Agrees.enter {links : Node → DoubleLink Node} (agrees : board.Agrees) (absent : board.standsOn sprite = none)
    (before : links = board.links ∨ ∃ value, links = Function.update board.links (.sprite sprite) value)
    (there : board'.standsOn sprite = some tile)
    (others : ∀ other, other ≠ sprite → board'.standsOn other = board.standsOn other) :
    ∃ links', listAppend nodeCount (.sprite sprite) (.tile tile) links = some links' ∧
      Agrees { board' with links := links' } := by
  obtain ⟨place, listed, agree⟩ := agrees
  have nowhere : place (.sprite sprite) = none := (agree sprite).trans absent
  have listed' : Listed links place := by
    cases before with
    | inl same => rwa [same]
    | inr scrubbed =>
      obtain ⟨value, rfl⟩ := scrubbed
      exact listed.scrub nowhere (fun _ => Node.noConfusion) value
  obtain ⟨links', appends, entered⟩ := listed'.enter nowhere (fun _ => Node.noConfusion) tile
  refine ⟨links', appends, _, entered, ?_⟩
  intro other
  change Function.update place (.sprite sprite) (some tile) (.sprite other) = board'.standsOn other
  by_cases same : other = sprite
  · rw [same, Function.update_self, there]
  · rw [Function.update_of_ne (by simpa using same), agree, others other same]

/-- A sprite moves from one tile to another. -/
theorem Agrees.move {target : TileIndex} (agrees : board.Agrees) (here : board.standsOn sprite = some tile)
    (there : board'.standsOn sprite = some target)
    (others : ∀ other, other ≠ sprite → board'.standsOn other = board.standsOn other) :
    ∃ links', listAppend nodeCount (.sprite sprite) (.tile target)
        (listRemove (board.links (.sprite sprite)) board.links) = some links' ∧
      Agrees { board' with links := links' } ∧
      ∀ (select : Node → Bool) (game game' : Game) (searched : TileIndex), select (.sprite sprite) = false →
        game.links = board.links → game'.links = links' →
        findTile select searched game' = findTile select searched game := by
  obtain ⟨place, listed, agree⟩ := agrees
  obtain ⟨links', appends, entered, searches⟩ :=
    listed.move ((agree sprite).trans here) (fun _ => Node.noConfusion) target
  refine ⟨links', appends, ⟨_, entered, ?_⟩, searches⟩
  intro other
  change Function.update place (.sprite sprite) (some target) (.sprite other) = board'.standsOn other
  by_cases same : other = sprite
  · rw [same, Function.update_self, there]
  · rw [Function.update_of_ne (by simpa using same), agree, others other same]

end Board

end ComputerSystems.Verified
