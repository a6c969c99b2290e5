import Mathlib.Data.BitVec

/-! # Random numbers

`rand.c`: the generator is `xor_shift` of its last value.
-/

namespace ComputerSystems.System

/-- `xor_shift`. -/
def xorShift (state : BitVec 32) : BitVec 32 :=
  let state := state ^^^ state <<< 13
  let state := state ^^^ state >>> 17
  let state := state ^^^ state <<< 5
  state

/-- `srand`: the new `PrngState`. -/
def srand (initialState : BitVec 32) : BitVec 32 := xorShift initialState

/-- `rand`: the value returned and the new `PrngState`. -/
def rand (prngState : BitVec 32) : BitVec 32 × BitVec 32 :=
  let prngState := xorShift prngState
  (prngState, prngState)

/-- `PrngState` after `srand` and some calls of `rand`. -/
def prngState (seed : BitVec 32) : Nat → BitVec 32
  | 0 => srand seed
  | calls + 1 => (rand (prngState seed calls)).2

/-- The value returned by a call of `rand` behind so many others. -/
def randValue (seed : BitVec 32) (calls : Nat) : BitVec 32 := (rand (prngState seed calls)).1

end ComputerSystems.System
