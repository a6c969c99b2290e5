import ComputerSystems.VirtualWorld.Grid

/-! # Where effects are drawn

The part of `TileEffectStart` and `TileEffectNext` of `game_grid.c` that is about the screen.
Locations and deltas are signed there, but a position on the screen and the count of the steps
are not, so that a delta to the left or upward is added as a large number.

A call of `TileDisplayGrid`, or of `TileDisplayScreen` for the effect, is recorded with the
place that it is for.
-/

namespace ComputerSystems.VirtualWorld

def gameGridStartX : Nat := 180
def gameGridStartY : Nat := 20

/-- A position in pixels. -/
structure Pixel where
  x : BitVec 32
  y : BitVec 32
deriving DecidableEq

inductive Drawing where
  | grid (locationX locationY : Int)
  | effect (position : Pixel)
deriving DecidableEq

/-- `currentX` and `currentY` of `TileEffectNext`, from the edge of the grid. -/
def EffectTile.current (effect : EffectTile) : Pixel where
  x := BitVec.ofInt 32 (effect.locationX * tileWidth) + BitVec.ofInt 32 effect.deltaX * BitVec.ofNat 32 effect.count
  y := BitVec.ofInt 32 (effect.locationY * tileHeight) + BitVec.ofInt 32 effect.deltaY * BitVec.ofNat 32 effect.count

def Pixel.onScreen (current : Pixel) : Pixel where
  x := BitVec.ofNat 32 gameGridStartX + current.x
  y := BitVec.ofNat 32 gameGridStartY + current.y

/-- Where `TileEffectStart` draws an effect that it has given its deltas. -/
def EffectTile.startPosition (effect : EffectTile) : Pixel where
  x := BitVec.ofInt 32 (gameGridStartX + effect.locationX * tileWidth + effect.deltaX)
  y := BitVec.ofInt 32 (gameGridStartY + effect.locationY * tileHeight + effect.deltaY)

/-- Where `TileEffectNext` draws the effect: it has counted the step before. -/
def EffectTile.nextPosition (effect : EffectTile) : Pixel :=
  { effect with count := effect.count + 1 }.current.onScreen

def visibleTile (game : Game) (tile : TileIndex) : Bool := has (game.terrain tile).flags isVisible

/-- What `TileEffectStart` draws. -/
def tileEffectStartDraws (place : EffectAt) (newX newY : Int) (game : Game) : List Drawing :=
  let effect := game.effect place
  match gameGridTile game effect.locationX effect.locationY, gameGridTile game newX newY with
  | some currentTile, some newTile =>
    if effect.count = 0 ∧ has effect.tile.flags isVisible ∧ visibleTile game currentTile ∧ visibleTile game newTile then
      [.effect (effectStart newX newY effect).startPosition]
    else []
  | _, _ => []

/-- `currentX / TILE_WIDTH`, or the same for `y`. -/
def gridOf (current : BitVec 32) (size : Nat) : BitVec 32 := current / BitVec.ofNat 32 size

/-- What `TileEffectNext` draws: the grid where the effect was, beside it on a diagonal way and
    where it has come to, and the effect. -/
def tileEffectNextDraws (game : Game) (effect : EffectTile) : List Drawing :=
  let grid (x y : BitVec 32) : Drawing := .grid x.toInt y.toInt
  -- one is added back for the remainder of a negative delta
  let firstX := if effect.deltaX < 0 then gridOf effect.current.x tileWidth + 1 else gridOf effect.current.x tileWidth
  let firstY := if effect.deltaY < 0 then gridOf effect.current.y tileHeight + 1 else gridOf effect.current.y tileHeight
  let besideX := if effect.deltaX < 0 then firstX - 1 else firstX + 1
  let besideY := if effect.deltaY < 0 then firstY - 1 else firstY + 1
  let next := { effect with count := effect.count + 1 }
  let gridX := gridOf next.current.x tileWidth
  let gridY := gridOf next.current.y tileHeight
  let shown := has effect.tile.flags isVisible && (gameGridTile game gridX.toInt gridY.toInt).any (visibleTile game)
  [grid firstX firstY] ++
    (if effect.deltaY ≠ 0 ∧ effect.deltaX ≠ 0 then [grid besideX firstY, grid firstX besideY] else []) ++
    (if gridX ≠ firstX ∨ gridY ≠ firstY then [grid gridX gridY] else []) ++
    (if shown then [.effect effect.nextPosition] else [])

end ComputerSystems.VirtualWorld
