import ComputerSystems.System.Timers

/-! # The board

The clock and the division of `boards/rpi/board.c`, and the addresses of `define.s`.  The processor has no division
instruction, and the compiler calls the functions with `__aeabi` in their names.

The hardware clock counts microseconds in 64 bits, which are read as two registers of
32 bits, one after the other.
-/

namespace ComputerSystems.Board

open ComputerSystems.System

/-! ## Memory -/

/-- `RUN_BASE_ADDR` and `BOOT_BASE_ADDR`: an application is loaded below the bootloader. -/
def runBaseAddr : Nat := 0x00008000
def bootBaseAddr : Nat := 0x01000000

/-- `_run_size`: the size of the area that applications are loaded to. -/
def runSize : Nat := bootBaseAddr - runBaseAddr

/-! ## Division -/

/-- The loop of `__aeabi_uidivmod`, through the bits below `bits`. -/
def divideBits (divisor : BitVec 32) : Nat → BitVec 32 → BitVec 64 → BitVec 32 × BitVec 64
  | 0, value, answer => (value, answer)
  | bit + 1, value, answer =>
    -- if no bit of the divisor is shifted out
    if (divisor <<< bit) >>> bit = divisor then
      if divisor <<< bit ≤ value then
        let value := value - divisor <<< bit
        -- the constant 1 is an `int`, and so is `1 << bit`
        let answer := answer ||| (1#32 <<< bit).signExtend 64
        if value = 0 then (value, answer) else divideBits divisor bit value answer
      else divideBits divisor bit value answer
    else divideBits divisor bit value answer

/-- `__aeabi_uidivmod`: the quotient, with the remainder in the upper half. -/
def aeabiUidivmod (value divisor : BitVec 32) : BitVec 64 :=
  let (value, answer) := divideBits divisor 32 value 0
  answer ||| value.setWidth 64 <<< 32

/-- `__aeabi_uidiv`. -/
def aeabiUidiv (value divisor : BitVec 32) : BitVec 32 := (aeabiUidivmod value divisor).setWidth 32

/-- `__aeabi_idiv`: the signs are removed and added back. -/
def aeabiIdiv (value divisor : BitVec 32) : BitVec 32 :=
  let div := if divisor.slt 0 then -divisor else divisor
  let v := if value.slt 0 then -value else value
  let result := (aeabiUidivmod v div).setWidth 32
  let result := if divisor.slt 0 then -result else result
  if value.slt 0 then -result else result

/-! ## The clock -/

/-- What the registers are read as in a call: `TIMER_CLO` first, then `TIMER_CHI`. -/
structure ClockRead where
  clo : BitVec 32
  chi : BitVec 32

/-- `now = REG32(TIMER_CLO)`, `now |= ((u64)REG32(TIMER_CHI) << 32)`. -/
def ClockRead.now (read : ClockRead) : BitVec 64 := read.clo.setWidth 64 ||| read.chi.setWidth 64 <<< 32

/-- `TimerNow`. -/
def timerNow (read : ClockRead) : BitVec 64 := read.now

/-- `TimerRegister`, with the reading of the clock that it makes. -/
def timerRegisterAt (microseconds : BitVec 64) (read : ClockRead) : Timer :=
  timerRegister microseconds.toNat read.now.toNat

/-- `TimerRemaining`, with the reading of the clock that it makes. -/
def timerRemainingAt (tw : Timer) (read : ClockRead) : Nat := timerRemaining tw read.now.toNat

end ComputerSystems.Board
