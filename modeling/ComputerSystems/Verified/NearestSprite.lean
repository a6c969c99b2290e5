import ComputerSystems.Data.Search
import ComputerSystems.Verified.GridLists

/-! # The nearest sprite

`sprite_find_nearest` scans one square after the other around a sprite, each from its first row
to its last and with the squares inside it.  What is found in the second square or a later one
is as near as anything that can be seen, because the square before has been scanned in vain.

The first square holds the sprite's own tile and the eight around it, and four of these are
scanned before it.  So a sprite on one of the four is returned even if there is another one on
the tile itself; otherwise what is returned is nearest.
-/

namespace ComputerSystems.Verified

open ComputerSystems.Data ComputerSystems.VirtualWorld

variable {game : Game} {contents : TileIndex → List Node} {sprite other : Sprite} {place : Int × Int}

/-! ## Squares -/

/-- The order in which the places of a square are scanned. -/
def RowMajor (first second : Int × Int) : Prop := first.2 < second.2 ∨ (first.2 = second.2 ∧ first.1 < second.1)

/-- The maximum of the distances in the two coordinates. -/
def gridDistance (first second : Int × Int) : Nat := max (first.1 - second.1).natAbs (first.2 - second.2).natAbs

theorem mem_span {centre value : Int} {distance size : Nat} :
    value ∈ span centre distance size ↔ (0 ≤ value ∧ value < size) ∧ (centre - value).natAbs ≤ distance := by
  rw [span, List.mem_map]
  constructor
  · rintro ⟨offset, within, rfl⟩
    rw [List.mem_range] at within
    omega
  · rintro ⟨inside, near⟩
    refine ⟨(value - max (centre - distance) 0).toNat, List.mem_range.mpr ?_, ?_⟩
    · omega
    · omega

theorem span_sorted (centre : Int) (distance size : Nat) : (span centre distance size).Pairwise (· < ·) := by
  rw [span, List.pairwise_map]
  apply List.pairwise_lt_range.imp
  intro first second before
  omega

theorem mem_around {x y : Int} {distance : Nat} :
    place ∈ around x y distance ↔ Board.Inside place.1 place.2 ∧ gridDistance (x, y) place ≤ distance := by
  obtain ⟨column, row⟩ := place
  simp only [around, List.mem_flatMap, List.mem_map, mem_span, Prod.mk.injEq, gridDistance, Board.Inside, Nat.max_le]
  constructor
  · rintro ⟨row, ⟨inRows, nearRow⟩, column, ⟨inColumns, nearColumn⟩, rfl, rfl⟩
    exact ⟨⟨inColumns.1, inColumns.2, inRows.1, inRows.2⟩, nearColumn, nearRow⟩
  · rintro ⟨⟨left, right, top, bottom⟩, nearColumn, nearRow⟩
    exact ⟨row, ⟨⟨top, bottom⟩, nearRow⟩, column, ⟨⟨left, right⟩, nearColumn⟩, rfl, rfl⟩

theorem around_sorted (x y : Int) (distance : Nat) : (around x y distance).Pairwise RowMajor := by
  rw [around, List.pairwise_flatMap]
  constructor
  · intro row _
    rw [List.pairwise_map]
    apply (span_sorted x distance gameGridWidth).imp
    intro first second before
    exact .inr ⟨rfl, before⟩
  · apply (span_sorted y distance gameGridHeight).imp
    intro first second before upper isUpper lower isLower
    obtain ⟨_, _, rfl⟩ := List.mem_map.mp isUpper
    obtain ⟨_, _, rfl⟩ := List.mem_map.mp isLower
    exact .inl before

/-- The squares around a place. -/
theorem around_shells (x y : Int) :
    Shells RowMajor (fun place => Board.Inside place.1 place.2) (gridDistance (x, y)) 1
      (fun distance => around x y (distance + 1)) where
  mem distance place := by
    rw [mem_around, Nat.add_comm]
  sorted distance := around_sorted x y (distance + 1)

theorem tileAt_number {x y : Int} {tile : TileIndex} (isTile : tileAt x y = some tile) :
    (tile.val : Int) = x + y * gameGridWidth := by
  rw [tileAt] at isTile
  split at isTile
  · rename_i inside
    cases isTile
    exact Int.toNat_of_nonneg inside.1
  · cases isTile

/-- On the grid two places are on different tiles. -/
theorem tileAt_injective {first second : Int × Int} {tile : TileIndex} (inside : Board.Inside first.1 first.2)
    (inside' : Board.Inside second.1 second.2) (isTile : tileAt first.1 first.2 = some tile)
    (isTile' : tileAt second.1 second.2 = some tile) : first = second := by
  have same := (tileAt_number isTile).symm.trans (tileAt_number isTile')
  simp only [Board.Inside, gameGridWidth, gameGridHeight] at inside inside' same
  ext
  · omega
  · omega

/-! ## What a sprite perceives -/

/-- The place of a sprite. -/
def spritePlace (game : Game) (sprite : Sprite) : Int × Int :=
  ((game.sprite sprite).effect.locationX, (game.sprite sprite).effect.locationY)

/-- Well-formed lists of the tiles: each is circular and no node is in two of them, a sprite is in
    the list of the tile at its place, and the tile of the exit is no creature. -/
structure Arranged (game : Game) (contents : TileIndex → List Node) : Prop where
  lists : TileLists game.links contents
  placed : ∀ sprite tile, .sprite sprite ∈ contents tile →
    Board.Inside (spritePlace game sprite).1 (spritePlace game sprite).2 ∧
      tileAt (spritePlace game sprite).1 (spritePlace game sprite).2 = some tile
  exit : has game.exitTile.flags (isCreature ||| isPlayer) = false

def OnSomeTile (contents : TileIndex → List Node) (sprite : Sprite) : Prop := ∃ tile, .sprite sprite ∈ contents tile

/-- Another visible creature or player of the grid. -/
structure Perceivable (game : Game) (contents : TileIndex → List Node) (sprite other : Sprite) : Prop where
  on : OnSomeTile contents other
  apart : other ≠ sprite
  visible : has (game.flags other) isVisible = true
  kind : has (game.flags other) isCreature = true ∨ has (game.flags other) isPlayer = true

/-- How far a sprite is from another. -/
def spriteDistance (game : Game) (sprite other : Sprite) : Nat :=
  gridDistance (spritePlace game sprite) (spritePlace game other)

/-- What a search has to return: nobody if nobody is within the perception of the sprite, and
    otherwise one of the nearest. -/
def IsNearest (game : Game) (contents : TileIndex → List Node) (sprite : Sprite) : Option Sprite → Prop
  | none => ∀ other, Perceivable game contents sprite other → perception (game.sprite sprite) < spriteDistance game sprite other
  | some nearest => Perceivable game contents sprite nearest ∧
      spriteDistance game sprite nearest ≤ perception (game.sprite sprite) ∧
      ∀ other, Perceivable game contents sprite other → spriteDistance game sprite nearest ≤ spriteDistance game sprite other

def FindsNearest (game : Game) (contents : TileIndex → List Node) (sprite : Sprite) : Prop :=
  ∃ found, spriteFindNearest sprite game = .ok found ∧ IsNearest game contents sprite found

theorem has_or {flags first second : BitVec 32} :
    has flags (first ||| second) = true ↔ has flags first = true ∨ has flags second = true := by
  refine ⟨has_or_mask, ?_⟩
  intro either
  simp only [has, bne_iff_ne, ne_eq] at either ⊢
  intro neither
  rw [BitVec.and_comm, BitVec.and_or_distrib_right] at neither
  obtain ⟨noFirst, noSecond⟩ := BitVec.or_eq_zero_iff.mp neither
  rw [BitVec.and_comm] at noFirst noSecond
  cases either with
  | inl hasFirst => exact hasFirst noFirst
  | inr hasSecond => exact hasSecond noSecond

/-- What a search notices in the list of a tile. -/
theorem noticed_sprite :
    noticed game sprite (.sprite other) = true ↔ other ≠ sprite ∧ has (game.flags other) isVisible = true ∧
      (has (game.flags other) isCreature = true ∨ has (game.flags other) isPlayer = true) := by
  simp only [noticed, Bool.and_eq_true, decide_eq_true_eq, ne_eq, Node.sprite.injEq, has_or, and_assoc]
  rfl

/-- Whom a search finds at a place. -/
def seenAt (game : Game) (contents : TileIndex → List Node) (sprite : Sprite) (place : Int × Int) : Option Sprite :=
  match (tileAt place.1 place.2).bind fun tile => (contents tile).find? (noticed game sprite) with
  | some (.sprite found) => some found
  | _ => none

namespace Arranged

/-- Nothing but sprites is noticed. -/
theorem noticed_is_sprite (arranged : Arranged game contents) {tile : TileIndex} {node : Node}
    (finds : (contents tile).find? (noticed game sprite) = some node) :
    ∃ found, node = .sprite found ∧ .sprite found ∈ contents tile ∧ noticed game sprite (.sprite found) = true := by
  have isIn := List.mem_of_find?_eq_some finds
  have selected := List.find?_some finds
  cases node with
  | tile index => exact absurd isIn arranged.lists.not_tile
  | exit =>
    simp only [noticed, Game.tileOf, arranged.exit] at selected
    simp at selected
  | sprite found => exact ⟨found, rfl, isIn, selected⟩

theorem searchTile_eq (arranged : Arranged game contents) (inside : Board.Inside place.1 place.2) :
    searchTile sprite place game = .ok (seenAt game contents sprite place) := by
  obtain ⟨tile, isTile⟩ := Board.tileAt_inside inside
  rw [searchTile, seenAt, isTile, Option.bind_some]
  simp only [arranged.lists.findTile rfl]
  cases finds : (contents tile).find? (noticed game sprite) with
  | none => rfl
  | some node =>
    obtain ⟨found, rfl, _⟩ := arranged.noticed_is_sprite finds
    rfl

theorem searchTiles_eq (arranged : Arranged game contents) {places : List (Int × Int)}
    (inside : ∀ place ∈ places, Board.Inside place.1 place.2) :
    searchTiles sprite game places = .ok (places.findSome? (seenAt game contents sprite)) := by
  induction places with
  | nil => rfl
  | cons place places ih =>
    have rest := ih fun later isLater => inside later (List.mem_cons_of_mem place isLater)
    rw [searchTiles, arranged.searchTile_eq (inside place List.mem_cons_self), List.findSome?_cons]
    cases seenAt game contents sprite place with
    | none => exact rest
    | some found => rfl

theorem seen (arranged : Arranged game contents) (inside : Board.Inside place.1 place.2)
    (sees : seenAt game contents sprite place = some other) :
    Perceivable game contents sprite other ∧ spritePlace game other = place := by
  obtain ⟨tile, isTile⟩ := Board.tileAt_inside inside
  rw [seenAt, isTile, Option.bind_some] at sees
  cases finds : (contents tile).find? (noticed game sprite) with
  | none =>
    rw [finds] at sees
    cases sees
  | some node =>
    obtain ⟨found, rfl, isIn, selected⟩ := arranged.noticed_is_sprite finds
    rw [finds] at sees
    obtain rfl : found = other := Option.some.inj sees
    obtain ⟨apart, visible, kind⟩ := noticed_sprite.mp selected
    obtain ⟨insideFound, isTile'⟩ := arranged.placed found tile isIn
    exact ⟨⟨⟨tile, isIn⟩, apart, visible, kind⟩, tileAt_injective insideFound inside isTile' isTile⟩

/-- Where there is somebody a search does not find nobody. -/
theorem sees (arranged : Arranged game contents) (perceivable : Perceivable game contents sprite other) :
    seenAt game contents sprite (spritePlace game other) ≠ none := by
  obtain ⟨tile, isIn⟩ := perceivable.on
  obtain ⟨_, isTile⟩ := arranged.placed other tile isIn
  rw [seenAt, isTile, Option.bind_some]
  cases finds : (contents tile).find? (noticed game sprite) with
  | none =>
    have selected := noticed_sprite.mpr ⟨perceivable.apart, perceivable.visible, perceivable.kind⟩
    exact absurd selected (List.find?_eq_none.mp finds _ isIn)
  | some node =>
    obtain ⟨found, rfl, _⟩ := arranged.noticed_is_sprite finds
    nofun

theorem inside (arranged : Arranged game contents) (perceivable : Perceivable game contents sprite other) :
    Board.Inside (spritePlace game other).1 (spritePlace game other).2 := by
  obtain ⟨tile, isIn⟩ := perceivable.on
  exact (arranged.placed other tile isIn).1

end Arranged

/-- The lists of a game that has been started are well-formed, and hold the sprites that are
    present. -/
theorem Board.Playing.arranged (playing : (board game).Playing) :
    ∃ contents, Arranged game contents ∧ ∀ sprite, OnSomeTile contents sprite ↔ Present game sprite := by
  obtain ⟨place, ⟨contents, lists, members⟩, agree⟩ := playing.agrees
  have stands : ∀ sprite tile, .sprite sprite ∈ contents tile ↔ (board game).standsOn sprite = some tile := by
    intro sprite tile
    rw [members, agree]
  refine ⟨contents, ⟨lists, ?_, playing.facts.exit.2⟩, ?_⟩
  · intro sprite tile isIn
    obtain ⟨on, under⟩ := Board.standsOn_iff.mp ((stands sprite tile).mp isIn)
    have inside := (playing.facts.fits sprite (Board.onGrid_inPlay on)).location
    exact ⟨inside, (Board.gridTile_inside playing.facts.width playing.facts.height inside).symm.trans under⟩
  · intro sprite
    rw [playing.present]
    constructor
    · rintro ⟨tile, isIn⟩
      exact (Board.standsOn_iff.mp ((stands sprite tile).mp isIn)).1
    · intro on
      obtain ⟨tile, there⟩ := playing.facts.standsOn on
      exact ⟨tile, (stands sprite tile).mpr there⟩

/-! ## What is found -/

theorem perception_pos (creature : SpriteTile) : 0 < perception creature := by
  rw [perception]
  split
  · decide
  · split <;> decide

/-- A sprite shares its tile with somebody, and there is somebody on one of the four tiles around
    it that are scanned before. -/
structure MissesOwnTile (game : Game) (contents : TileIndex → List Node) (sprite : Sprite) : Prop where
  shares : ∃ other, Perceivable game contents sprite other ∧ spriteDistance game sprite other = 0
  earlier : ∃ other, Perceivable game contents sprite other ∧ spriteDistance game sprite other = 1 ∧
    RowMajor (spritePlace game other) (spritePlace game sprite)

theorem spriteDistance_eq_zero (near : spriteDistance game sprite other = 0) :
    spritePlace game other = spritePlace game sprite := by
  rw [spriteDistance, gridDistance] at near
  ext
  · omega
  · omega

theorem RowMajor.asymm {first second : Int × Int} (before : RowMajor first second) : ¬ RowMajor second first := by
  rw [RowMajor] at *
  omega

namespace Arranged

theorem spriteFindNearest_eq (arranged : Arranged game contents) (world : (game.sprite sprite).currentWorld = true) :
    spriteFindNearest sprite game =
      .ok ((searched (game.sprite sprite)).findSome? (seenAt game contents sprite)) := by
  rw [spriteFindNearest, if_pos world]
  exact arranged.searchTiles_eq fun _ isIn => searched_inside isIn

/-- Nobody is returned if there is nobody to be perceived. -/
theorem finds_none (arranged : Arranged game contents)
    (finds : (searched (game.sprite sprite)).findSome? (seenAt game contents sprite) = none)
    (perceivable : Perceivable game contents sprite other) :
    perception (game.sprite sprite) < spriteDistance game sprite other := by
  have missed := ((around_shells _ _).findSome?_eq_none (perception_pos _)).mp finds
  by_contra near
  refine arranged.sees perceivable (missed _ (arranged.inside perceivable) ?_)
  rw [spriteDistance] at near
  change gridDistance (spritePlace game sprite) _ < _
  omega

/-- Whoever is returned is perceived, is nearest but for the first square, and in that square is
    scanned first. -/
theorem finds_some {found : Sprite} (arranged : Arranged game contents)
    (finds : (searched (game.sprite sprite)).findSome? (seenAt game contents sprite) = some found) :
    Perceivable game contents sprite found ∧ spriteDistance game sprite found ≤ perception (game.sprite sprite) ∧
      ∀ other, Perceivable game contents sprite other →
        spriteDistance game sprite found ≤ max (spriteDistance game sprite other) 1 ∧
        (spriteDistance game sprite other ≤ 1 → spritePlace game other = spritePlace game found ∨
          RowMajor (spritePlace game found) (spritePlace game other)) := by
  obtain ⟨place, foundAt⟩ := (around_shells _ _).findSome?_eq_some finds
  obtain ⟨perceivable, rfl⟩ := arranged.seen foundAt.isValid foundAt.hits
  refine ⟨perceivable, ?_, ?_⟩
  · exact Nat.lt_one_add_iff.mp foundAt.near
  · intro other isOther
    have least := foundAt.least _ (arranged.inside isOther) (arranged.sees isOther)
    have first := foundAt.first _ (arranged.inside isOther) (arranged.sees isOther)
    exact ⟨least, first⟩

end Arranged

/-- The search of a sprite returns one of the nearest if the sprite has a world and does not share
    its tile while there is somebody on a tile next to it that is scanned before. -/
theorem finds_nearest_iff (arranged : Arranged game contents) :
    FindsNearest game contents sprite ↔
      (game.sprite sprite).currentWorld = true ∧ ¬ MissesOwnTile game contents sprite := by
  constructor
  · rintro ⟨found, finds, nearest⟩
    have world : (game.sprite sprite).currentWorld = true := by
      by_contra noWorld
      rw [spriteFindNearest, if_neg noWorld] at finds
      cases finds
    refine ⟨world, ?_⟩
    rintro ⟨⟨here, isHere, shares⟩, early, isEarly, near, before⟩
    rw [arranged.spriteFindNearest_eq world] at finds
    obtain rfl := Except.ok.inj finds
    cases result : (searched (game.sprite sprite)).findSome? (seenAt game contents sprite) with
    | none =>
      have beyond := arranged.finds_none result isHere
      omega
    | some found =>
      rw [result] at nearest
      have least := nearest.2.2 here isHere
      have onTile := spriteDistance_eq_zero (Nat.le_zero.mp (shares ▸ least))
      -- what is found is on the sprite's tile, which is scanned after the earlier one
      cases ((arranged.finds_some result).2.2 early isEarly).2 near.le with
      | inl same =>
        rw [same, onTile] at before
        exact before.asymm before
      | inr later =>
        rw [onTile] at later
        exact before.asymm later
  · rintro ⟨world, neverMisses⟩
    refine ⟨_, arranged.spriteFindNearest_eq world, ?_⟩
    cases result : (searched (game.sprite sprite)).findSome? (seenAt game contents sprite) with
    | none => exact fun other isOther => arranged.finds_none result isOther
    | some found =>
      obtain ⟨perceivable, near, all⟩ := arranged.finds_some result
      refine ⟨perceivable, near, ?_⟩
      intro other isOther
      obtain ⟨least, first⟩ := all other isOther
      by_contra further
      have shares : spriteDistance game sprite other = 0 := by omega
      have next : spriteDistance game sprite found = 1 := by omega
      have onTile := spriteDistance_eq_zero shares
      cases first (by omega) with
      | inl same =>
        rw [spriteDistance, ← same, ← spriteDistance, shares] at next
        cases next
      | inr before => exact neverMisses ⟨⟨other, isOther, shares⟩, found, perceivable, next, onTile ▸ before⟩

/-! ## Searches on a meadow -/

/-- A game that has been started is well-formed. -/
theorem arranged_of_start {started : Game} {draws : List (BitVec 32)}
    (starts : gameStep (boot 0 fun _ => false) (.command .gameStart, draws) = .ok started) :
    ∃ contents, Arranged started contents ∧ ∀ sprite, OnSomeTile contents sprite ↔ Present started sprite := by
  have timers : (board (boot 0 fun _ => false)).timersFit := by
    intro slot
    rfl
  simp only [gameStep, GameEvent.play, Command.run] at starts
  exact (((wp_gameStartCommand timers rfl).exec draws).1 started starts).arranged

/-- An element of `TheCreatures`. -/
def theCreature (index : Nat) (inside : index < maxCreatures := by decide) : Sprite := .creature ⟨index, inside⟩

/-- The sprites of the first level. -/
theorem Present.of_level_one (present : Present game sprite) (level : game.world.level = 1) :
    sprite = .player ∨ sprite = theCreature 0 ∨ sprite = theCreature 1 := by
  cases sprite with
  | player => exact .inl rfl
  | creature i =>
    have inLevel := present.1
    rw [level] at inLevel
    simp only [theCreature, Sprite.creature.injEq, Fin.ext_iff, reduceCtorEq, false_or]
    omega

/-- The wizard on the meadow finds the bat two tiles away. -/
theorem finds_nearest_on_meadow :
    ∃ started contents, gameStep (boot 0 fun _ => false) (.command .gameStart, meadowDraws) = .ok started ∧
      Arranged started contents ∧ FindsNearest started contents .player := by
  have passes : (gameStep (boot 0 fun _ => false) (.command .gameStart, meadowDraws)).toOption.any (fun started =>
      decide (started.world.level = 1 ∧ (started.sprite .player).currentWorld = true ∧
        spriteDistance started .player (theCreature 0) = 2 ∧ spriteDistance started .player (theCreature 1) = 4)) = true := by
    delta gameStep GameEvent.play Command.run gameStartCommand
    rw [worldCreateRandom_evenly]
    decide +kernel
  obtain ⟨started, starts, checked⟩ := exists_of_any passes
  obtain ⟨level, world, bat, beetle⟩ := of_decide_eq_true checked
  obtain ⟨contents, arranged, grid⟩ := arranged_of_start starts
  refine ⟨started, contents, starts, arranged, (finds_nearest_iff arranged).mpr ⟨world, ?_⟩⟩
  rintro ⟨⟨other, perceivable, shares⟩, _⟩
  have present := (grid other).mp perceivable.on
  rcases present.of_level_one level with rfl | rfl | rfl
  · exact perceivable.apart rfl
  · rw [bat] at shares
    cases shares
  · rw [beetle] at shares
    cases shares

/-- The random numbers of a start on a meadow: a bat on the tile to the left of a wizard, and a
    beetle on the wizard's own tile. -/
def crowdedDraws : List (BitVec 32) :=
  List.replicate (4 * (gameGridWidth * gameGridHeight)) 7 ++
    [0, 0, 0, 0, 0, 0, 0, 0, 0, 5, 5, 5, 0, 0, 0, 0] ++ [50, 11, 10, 7, 12, 10, 1, 1, 12, 10]

/-- The wizard finds the bat next to it and not the beetle on its own tile. -/
theorem finds_farther_on_meadow :
    ∃ started contents, gameStep (boot 0 fun _ => false) (.command .gameStart, crowdedDraws) = .ok started ∧
      Arranged started contents ∧ OnSomeTile contents .player ∧ ¬ FindsNearest started contents .player := by
  have passes : (gameStep (boot 0 fun _ => false) (.command .gameStart, crowdedDraws)).toOption.any (fun started =>
      decide (started.world.level = 1 ∧ has (started.flags (theCreature 1)) isVisible = true ∧
        has (started.flags (theCreature 1)) isCreature = true ∧ has (started.flags (theCreature 1)) isItem = false ∧
        0 ≤ (started.sprite (theCreature 1)).stats.hp ∧ 0 ≤ started.character.player.stats.hp ∧
        spriteDistance started .player (theCreature 0) = 1 ∧ spriteDistance started .player (theCreature 1) = 0) &&
        (spriteFindNearest .player started).toOption.any fun found => found = some (theCreature 0)) = true := by
    delta gameStep GameEvent.play Command.run gameStartCommand
    rw [worldCreateRandom_evenly]
    decide +kernel
  obtain ⟨started, starts, checked⟩ := exists_of_any passes
  rw [Bool.and_eq_true] at checked
  obtain ⟨level, visible, kind, noItem, alive, playerAlive, next, shares⟩ := of_decide_eq_true checked.1
  obtain ⟨contents, arranged, grid⟩ := arranged_of_start starts
  have present : Present started (theCreature 1) := ⟨level.ge, (if_neg (Bool.eq_false_iff.mp noItem)).mpr alive⟩
  refine ⟨started, contents, starts, arranged, (grid .player).mpr playerAlive, ?_⟩
  rintro ⟨found, finds, nearest⟩
  have isBat : found = some (theCreature 0) := by
    have result := checked.2
    rw [finds] at result
    exact of_decide_eq_true result
  subst isBat
  have least := nearest.2.2 (theCreature 1) ⟨(grid _).mpr present, nofun, visible, .inl kind⟩
  rw [next, shares] at least
  cases least

end ComputerSystems.Verified
