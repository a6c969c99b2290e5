import ComputerSystems.Board.Rpi

/-! # Reading the clock

The counter goes on between the reads of its lower and its upper word.  A carry in
between makes the composed value 2 ^ 32 microseconds too large, unless the call lasts
until the counter has got there.
-/

namespace ComputerSystems.Verified

open ComputerSystems.System ComputerSystems.Board

/-- A call that reads the clock: the values of the counter at its start, when each of
    the registers is read, and at its end. -/
structure ClockCall where
  start : Nat
  low : Nat
  high : Nat
  stop : Nat
  low_after : start ≤ low
  high_after : low ≤ high
  stop_after : high ≤ stop
  range : stop < 2 ^ 64

namespace ClockCall

variable {call later : ClockCall}

/-- What the registers hold when they are read. -/
def read (call : ClockCall) : ClockRead where
  clo := BitVec.ofNat 32 call.low
  chi := BitVec.ofNat 32 (call.high / 2 ^ 32)

/-- A value that the counter has during a call. -/
def Spans (call : ClockCall) (value : Nat) : Prop := call.start ≤ value ∧ value ≤ call.stop

/-- No carry out of the lower word between the reads, or the lower word that was read
    comes round again before the call ends. -/
def Whole (call : ClockCall) : Prop :=
  call.low / 2 ^ 32 = call.high / 2 ^ 32 ∨ call.low % 2 ^ 32 ≤ call.stop - 2 ^ 32 * (call.high / 2 ^ 32)

/-- What is composed of the two words. -/
theorem read_now (call : ClockCall) :
    call.read.now.toNat = 2 ^ 32 * (call.high / 2 ^ 32) + call.low % 2 ^ 32 := by
  have range := call.range
  have bound : call.high / 2 ^ 32 < 2 ^ 32 := by
    have := call.stop_after
    omega
  have lower : (call.read.clo.setWidth 64).toNat = call.low % 2 ^ 32 := by
    simp only [read, BitVec.toNat_setWidth, BitVec.toNat_ofNat]
    omega
  have upper : (call.read.chi.setWidth 64 <<< 32).toNat = 2 ^ 32 * (call.high / 2 ^ 32) := by
    simp only [read, BitVec.toNat_shiftLeft, BitVec.toNat_setWidth, BitVec.toNat_ofNat, Nat.shiftLeft_eq]
    omega
  have small : call.low % 2 ^ 32 < 2 ^ 32 := Nat.mod_lt _ (by decide)
  rw [ClockRead.now, BitVec.toNat_or, lower, upper, Nat.or_comm, ← Nat.two_pow_add_eq_or_of_lt small]

/-- The composed value lies in the time of the call unless the counter carries between
    the reads. -/
theorem spans_now_iff (call : ClockCall) : call.Spans call.read.now.toNat ↔ call.Whole := by
  have first := call.low_after
  have second := call.high_after
  have third := call.stop_after
  rw [Spans, Whole, read_now]
  omega

/-- Calls one after the other read values one after the other. -/
theorem now_mono (after : call.stop ≤ later.start) (whole : call.Whole) (laterWhole : later.Whole) :
    call.read.now.toNat ≤ later.read.now.toNat := by
  have earlier := (spans_now_iff call).mpr whole
  have behind := (spans_now_iff later).mpr laterWhole
  exact Nat.le_trans earlier.2 (Nat.le_trans after behind.1)

/-- A timer that is reported to have expired has had its time. -/
theorem elapsed {microseconds : BitVec 64} (whole : call.Whole) (laterWhole : later.Whole)
    (fits : call.stop + microseconds.toNat < 2 ^ 64)
    (expired : timerRemainingAt (timerRegisterAt microseconds call.read) later.read = 0) :
    call.start + microseconds.toNat ≤ later.stop := by
  have earlier := (spans_now_iff call).mpr whole
  have behind := (spans_now_iff later).mpr laterWhole
  obtain ⟨lower, upper⟩ := earlier
  obtain ⟨_, bound⟩ := behind
  have unwrapped : (call.read.now.toNat + microseconds.toNat) % 2 ^ 64 = call.read.now.toNat + microseconds.toNat :=
    Nat.mod_eq_of_lt (by omega)
  simp only [timerRemainingAt, timerRegisterAt, timerRemaining, timerRegister, unwrapped] at expired
  split at expired
  · omega
  · omega

end ClockCall

/-- Clock reads are whole exactly if the counter does not carry between the reads, and
    then they are in order and timers do not expire early. -/
theorem clock_reads_whole_iff (call later : ClockCall) (after : call.stop ≤ later.start) (microseconds : BitVec 64) :
    (call.Spans (timerNow call.read).toNat ↔ call.Whole) ∧
      (call.Whole → later.Whole → (timerNow call.read).toNat ≤ (timerNow later.read).toNat) ∧
      (call.Whole → later.Whole → call.stop + microseconds.toNat < 2 ^ 64 →
        timerRemainingAt (timerRegisterAt microseconds call.read) later.read = 0 →
        call.start + microseconds.toNat ≤ later.stop) :=
  ⟨call.spans_now_iff, ClockCall.now_mono after, ClockCall.elapsed⟩

/-- A call at one moment. -/
def ClockCall.instant (now : Nat) (range : now < 2 ^ 64) : ClockCall where
  start := now
  low := now
  high := now
  stop := now
  low_after := Nat.le_refl now
  high_after := Nat.le_refl now
  stop_after := Nat.le_refl now
  range := range

theorem clock_reads_whole_seconds :
    (ClockCall.instant 5 (by decide)).Spans (timerNow (ClockCall.instant 5 (by decide)).read).toNat ∧
      (timerNow (ClockCall.instant 5 (by decide)).read).toNat ≤ (timerNow (ClockCall.instant 1000005 (by decide)).read).toNat :=
  have reads := clock_reads_whole_iff (.instant 5 (by decide)) (.instant 1000005 (by decide)) (by decide) 1000000
  ⟨reads.1.mpr (.inl rfl), reads.2.1 (.inl rfl) (.inl rfl)⟩

/-- A call in which the counter carries between the reads. -/
def carriedCall : ClockCall where
  start := 2 ^ 32 - 1
  low := 2 ^ 32 - 1
  high := 2 ^ 32
  stop := 2 ^ 32
  low_after := by decide
  high_after := by decide
  stop_after := by decide
  range := by decide

/-- The time is read as nearly 2 ^ 33 where the counter is at 2 ^ 32. -/
theorem clock_read_torn : ¬ ∀ call : ClockCall, call.Spans (timerNow call.read).toNat := by
  intro spans
  have upper := (spans carriedCall).2
  revert upper
  decide

end ComputerSystems.Verified
