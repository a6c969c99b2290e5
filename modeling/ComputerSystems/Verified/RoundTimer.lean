import ComputerSystems.Verified.GridPlaces

/-! # The timer of the round

A `Clock` is what a game keeps of its timers: the elements of `TimerTasks`, the round timer,
whether the game is up and the width of the grid, which is 0 until the first `GameStart`.
Most steps of the game leave the clock alone or schedule timers of effects; the clock has one
operation for each of the others.

There is one round timer, and none while the game is paused or before it has started, in
every run in which neither of two things happens: `GamePause` before the first `GameStart`
schedules a round, and so does a move that reaches the exit while the game is paused.
-/

namespace ComputerSystems.Verified

open ComputerSystems.Data ComputerSystems.VirtualWorld Relation

variable {game later : Game} {slot : Fin maxTimerTasks}

/-! ## Clocks -/

structure Clock where
  timers : Fin maxTimerTasks → TimerSlot
  round : Option (Fin maxTimerTasks)
  up : Bool
  width : Int
  screen : Bool

def clock (game : Game) : Clock where
  timers := game.timers
  round := game.world.round
  up := game.gameUp
  width := game.world.x
  screen := game.screenUp

namespace Clock

variable {clock next : Clock}

def firstFree (clock : Clock) : Option (Fin maxTimerTasks) :=
  (List.finRange maxTimerTasks).find? fun slot => clock.timers slot = .free

def schedule (clock : Clock) : Clock :=
  { clock with
    timers := clock.firstFree.elim clock.timers fun slot => Function.update clock.timers slot (.game .round)
    round := clock.firstFree }

def cancel (clock : Clock) : Clock :=
  { clock with
    timers := clock.round.elim clock.timers fun slot => Function.update clock.timers slot .free
    round := none }

def release (slot : Fin maxTimerTasks) (clock : Clock) : Clock :=
  { clock with timers := Function.update clock.timers slot .free }

/-- The round timer is the only timer that calls `game_round`. -/
def Agrees (clock : Clock) : Prop := ∀ slot, clock.timers slot = .game .round ↔ clock.round = some slot

/-- The round timer, and none while the game is paused or before it was started. -/
structure OneRound (clock : Clock) : Prop where
  agrees : clock.Agrees
  waits : clock.up = false ∨ clock.width = 0 → clock.round = none

/-- No timer calls `game_round`. -/
def Silent (clock : Clock) : Prop := ∀ slot, clock.timers slot ≠ .game .round

/-- Timers of effects may have been scheduled. -/
structure Effects (clock next : Clock) : Prop where
  round : next.round = clock.round
  up : next.up = clock.up
  width : next.width = clock.width
  screen : next.screen = clock.screen
  busy : ∀ slot, clock.timers slot ≠ .free → next.timers slot = clock.timers slot
  free : ∀ slot, clock.timers slot = .free → next.timers slot ≠ .game .round

theorem Effects.refl : Effects clock clock where
  round := rfl
  up := rfl
  width := rfl
  screen := rfl
  busy _ _ := rfl
  free slot free := by
    rw [free]
    exact TimerSlot.noConfusion

/-- The timers of the round are the same. -/
theorem Effects.isRound (effects : Effects clock next) (slot : Fin maxTimerTasks) :
    next.timers slot = .game .round ↔ clock.timers slot = .game .round := by
  by_cases free : clock.timers slot = .free
  · rw [free]
    exact ⟨fun isRound => absurd isRound (effects.free slot free), nofun⟩
  · rw [effects.busy slot free]

theorem Effects.trans {last : Clock} (first : Effects clock next) (second : Effects next last) : Effects clock last where
  round := second.round.trans first.round
  up := second.up.trans first.up
  width := second.width.trans first.width
  screen := second.screen.trans first.screen
  busy slot busy := by
    have same := first.busy slot busy
    rw [second.busy slot (by rwa [same]), same]
  free slot free := by
    rw [ne_eq, second.isRound]
    exact first.free slot free

theorem OneRound.effects (one : clock.OneRound) (effects : Effects clock next) : next.OneRound where
  agrees slot := by
    rw [effects.isRound, effects.round]
    exact one.agrees slot
  waits := by
    rw [effects.up, effects.width, effects.round]
    exact one.waits

theorem Agrees.effects (agrees : clock.Agrees) (effects : Effects clock next) : next.Agrees := by
  intro slot
  rw [effects.isRound, effects.round]
  exact agrees slot

theorem firstFree_isSome : clock.firstFree.isSome ↔ ∃ slot, clock.timers slot = .free := by
  simp [firstFree, List.find?_isSome]

theorem firstFree_free (first : clock.firstFree = some slot) : clock.timers slot = .free := by
  simpa using List.find?_some first

/-- Scheduling a round where none is. -/
theorem Silent.schedule (silent : clock.Silent) : clock.schedule.Agrees := by
  intro slot
  cases first : clock.firstFree with
  | none => simp [Clock.schedule, first, silent slot]
  | some free =>
    by_cases same : slot = free
    · simp [Clock.schedule, first, same]
    · simp [Clock.schedule, first, Function.update_of_ne same, silent slot, Ne.symm same]

theorem Agrees.cancel (agrees : clock.Agrees) : clock.cancel.Silent := by
  intro slot isRound
  cases round : clock.round with
  | none =>
    have before : clock.timers slot = .game .round := by simpa [Clock.cancel, round] using isRound
    have isSome := (agrees slot).mp before
    rw [round] at isSome
    cases isSome
  | some current =>
    by_cases same : slot = current
    · simp [Clock.cancel, round, same] at isRound
    · have before : clock.timers slot = .game .round := by
        simpa [Clock.cancel, round, Function.update_of_ne same] using isRound
      have isSome := (agrees slot).mp before
      rw [round] at isSome
      exact same (Option.some.inj isSome).symm

theorem Silent.agrees (silent : clock.Silent) (none : clock.round = none) : clock.Agrees := by
  intro slot
  simp [none, silent slot]

theorem Agrees.silent (agrees : clock.Agrees) (none : clock.round = none) : clock.Silent := by
  intro slot isRound
  have isSome := (agrees slot).mp isRound
  rw [none] at isSome
  cases isSome

theorem Silent.release (silent : clock.Silent) (slot : Fin maxTimerTasks) : (clock.release slot).Silent := by
  intro other isRound
  by_cases same : other = slot
  · simp [Clock.release, same] at isRound
  · exact silent other (by simpa [Clock.release, Function.update_of_ne same] using isRound)

/-- An element that is not the round timer is taken for something else or given back. -/
theorem Agrees.set {taken : TimerSlot} (agrees : clock.Agrees) (other : clock.timers slot ≠ .game .round)
    (apart : taken ≠ .game .round) : Agrees { clock with timers := Function.update clock.timers slot taken } := by
  intro met
  by_cases same : met = slot
  · subst same
    have notRound : clock.round ≠ some met := fun isRound => other ((agrees met).mpr isRound)
    simp [notRound, apart]
  · rw [← agrees met]
    simp [Function.update_of_ne same]

theorem OneRound.set {taken : TimerSlot} (one : clock.OneRound) (other : clock.timers slot ≠ .game .round)
    (apart : taken ≠ .game .round) : OneRound { clock with timers := Function.update clock.timers slot taken } :=
  ⟨one.agrees.set other apart, one.waits⟩

/-- The round timer has fired: another is scheduled, and then the first is given back. -/
theorem Agrees.schedule_release (agrees : clock.Agrees) (fired : clock.round = some slot) :
    (clock.schedule.release slot).Agrees := by
  intro met
  have busy : clock.timers slot = .game .round := (agrees slot).mpr fired
  have others : ∀ other, other ≠ slot → clock.timers other ≠ .game .round := by
    intro other apart isRound
    have same := (agrees other).mp isRound
    rw [fired] at same
    exact apart (Option.some.inj same).symm
  cases first : clock.firstFree with
  | none =>
    by_cases same : met = slot
    · simp [Clock.release, Clock.schedule, first, same]
    · simp [Clock.release, Clock.schedule, first, Function.update_of_ne same, others met same]
  | some free =>
    have apart : free ≠ slot := by
      rintro rfl
      rw [firstFree_free first] at busy
      cases busy
    by_cases same : met = slot
    · simp [Clock.release, Clock.schedule, first, same, apart]
    · by_cases isFree : met = free
      · simp [Clock.release, Clock.schedule, first, isFree, Function.update_of_ne apart]
      · simp [Clock.release, Clock.schedule, first, Function.update_of_ne same, Function.update_of_ne isFree,
          others met same, Ne.symm isFree]

end Clock

/-! ## The clock of a game -/

theorem clock_setSprite {sprite : Sprite} {value : SpriteTile} : clock (game.setSprite sprite value) = clock game := by
  cases sprite <;> rfl

theorem clock_setEffect {place : EffectAt} {effect : EffectTile} : clock (game.setEffect place effect) = clock game := by
  cases place with
  | sprite sprite => exact clock_setSprite
  | action sprite attack => exact clock_setSprite

theorem clock_timerSchedule {timer : GameTimer} :
    clock (timerSchedule timer game).2 = { clock game with
      timers := (clock game).firstFree.elim game.timers fun slot => Function.update game.timers slot (.game timer) } := by
  have search : (List.finRange maxTimerTasks).find? (fun slot => game.timers slot = .free) = (clock game).firstFree := rfl
  rw [timerSchedule]
  cases first : (clock game).firstFree with
  | none => simp only [search, first]; rfl
  | some free => simp only [search, first]; rfl

theorem clock_scheduleRound : clock game.scheduleRound = (clock game).schedule := by
  have search : (List.finRange maxTimerTasks).find? (fun slot => game.timers slot = .free) = (clock game).firstFree := rfl
  rw [Game.scheduleRound, timerSchedule, Clock.schedule]
  cases first : (clock game).firstFree with
  | none => simp only [search, first]; rfl
  | some free => simp only [search, first]; rfl

theorem clock_cancelRound : clock game.cancelRound = (clock game).cancel := by
  cases round : game.world.round with
  | none => simp [Game.cancelRound, timerCancel, Clock.cancel, clock, round]
  | some slot => simp [Game.cancelRound, timerCancel, Clock.cancel, clock, round]

theorem clock_stopRound (agrees : (clock game).Agrees) :
    (clock (Game.stopRound game)).Silent ∧ (clock (Game.stopRound game)).up = game.gameUp ∧
      (clock (Game.stopRound game)).width = game.world.x := by
  rw [Game.stopRound]
  split
  · rw [clock_cancelRound]
    exact ⟨agrees.cancel, rfl, rfl⟩
  next noRound =>
    have isNone : (clock game).round = none := Option.not_isSome_iff_eq_none.mp noRound
    exact ⟨agrees.silent isNone, rfl, rfl⟩

/-- The timer of an effect takes an element that is free. -/
theorem effects_timerSchedule {poll : EffectPoll} {place : EffectAt} {context : TileIndex} :
    (clock game).Effects (clock (timerSchedule (.effect poll place context) game).2) := by
  rw [clock_timerSchedule]
  cases first : (clock game).firstFree with
  | none => exact .refl
  | some free =>
    have isFree := Clock.firstFree_free first
    refine ⟨rfl, rfl, rfl, rfl, fun slot busy => ?_, fun slot free => ?_⟩
    · have apart : slot ≠ free := by
        rintro rfl
        exact busy isFree
      exact Function.update_of_ne apart ..
    · intro isRound
      have before : (clock game).timers slot ≠ .game .round := by
        rw [free]
        exact TimerSlot.noConfusion
      have unfolded : Function.update game.timers _ (TimerSlot.game (.effect poll place context)) slot = .game .round :=
        isRound
      rw [Function.update_apply] at unfolded
      split at unfolded
      · cases unfolded
      · exact before unfolded

theorem effects_tileEffectStart {place : EffectAt} {x y : Int} :
    (clock game).Effects (clock (tileEffectStart place x y game).2) := by
  have same : ∀ effect, clock (game.setEffect place effect) = clock game := fun _ => clock_setEffect
  simp only [tileEffectStart]
  split
  · split
    · exact .refl
    · split
      · rw [same]
        exact .refl
      · split
        · rw [← same (effectStart x y (game.effect place))]
          exact effects_timerSchedule
        · rw [same]
          exact .refl
  · exact .refl

/-- A step changes the clock only if it may, and then by timers of effects. -/
theorem Touch.effects {scope : Scope} (touch : Touch scope game later) : (clock game).Effects (clock later) := by
  cases touch with
  | other same =>
    have same : clock later = clock game := by rw [clock, clock, same.world, same.timers, same.gameUp, same.screenUp]
    rw [same]
    exact .refl
  | sprite _ _ =>
    rw [clock_setSprite]
    exact .refl
  | advance _ =>
    rw [Game.advance]
    split
    · rw [clock_setEffect]
      exact .refl
    · exact .refl
  | place _ _ =>
    rw [Game.place, clock_setEffect]
    exact .refl
  | renew _ _ => exact .refl
  | enter _ => exact .refl
  | score _ => exact .refl
  | again _ _ => exact effects_timerSchedule
  | @start sprite poll x y _ _ _ =>
    rw [← @clock_setSprite game sprite ((game.sprite sprite).prepareMove poll)]
    exact effects_tileEffectStart
  | @launch attacker attacked attack _ _ =>
    have same := @clock_setEffect game (.action attacker attack) { game.effect (.action attacker attack) with
      total := 4
      locationX := (game.sprite attacker).effect.locationX
      locationY := (game.sprite attacker).effect.locationY
      poll := some .attack }
    rw [← same]
    exact effects_tileEffectStart

theorem Touches.effects {scope : Scope} (steps : Touches scope game later) : (clock game).Effects (clock later) := by
  induction steps with
  | refl => exact .refl
  | tail _ last ih => exact ih.trans (Touch.effects last)

/-- A step that schedules nothing leaves the clock as it is. -/
theorem Touch.clock_eq {scope : Scope} (touch : Touch scope game later) (untimed : ¬ scope.timed) :
    clock later = clock game := by
  cases touch with
  | other same => rw [clock, clock, same.world, same.timers, same.gameUp, same.screenUp]
  | sprite _ _ => exact clock_setSprite
  | advance _ =>
    rw [Game.advance]
    split
    · exact clock_setEffect
    · rfl
  | place _ _ => exact clock_setEffect
  | renew _ _ => rfl
  | enter _ => rfl
  | score _ => rfl
  | again timed => exact absurd timed untimed
  | start timed _ => exact absurd timed untimed
  | launch timed _ => exact absurd timed untimed

theorem Touches.clock_eq {scope : Scope} (steps : Touches scope game later) (untimed : ¬ scope.timed) :
    clock later = clock game := by
  induction steps with
  | refl => rfl
  | tail _ last ih => exact (Touch.clock_eq last untimed).trans ih

/-- A level that begins schedules a round. -/
theorem Begins.clock_eq (begins : Begins game later) : clock later = (clock game).schedule := by
  obtain ⟨mid, steps, rfl⟩ := begins
  rw [clock_scheduleRound, Touches.clock_eq steps not_false]

/-- The next level has a round timer in place of the one before. -/
theorem LevelsUp.clock_eq (levels : LevelsUp game later) : clock later = (clock (Game.stopRound game)).schedule := by
  obtain ⟨before, steps, begins⟩ := levels
  rw [begins.clock_eq, ← Touches.clock_eq steps not_false]
  rfl

theorem StartsGame.clock_eq (starts : StartsGame game later) :
    clock later = { (clock (Game.stopRound game)).schedule with up := true, width := gameGridWidth } := by
  obtain ⟨created, str, dex, con, intel, wis, last, steps, begins, rfl⟩ := starts
  have same := begins.clock_eq
  have enrolled : clock (Game.enroll (rolledPlayer str dex con intel wis) created) = clock created := rfl
  rw [enrolled, Touches.clock_eq steps not_false] at same
  have up : clock { last with gameUp := true } = { clock last with up := true } := rfl
  rw [up, same]
  rfl

/-! ## Steps -/

/-- Some element of `TimerTasks` is free. -/
def HasTimer (game : Game) : Prop := ∃ slot, game.timers slot = .free

/-- The game is paused, or has not been started. -/
def WaitsForStart (game : Game) : Prop := game.gameUp = false ∨ game.world.x = 0

/-- The steps that schedule a round while the game waits: `GamePause` before the first game, and
    a move to the exit that ends. -/
def Drifts (game : Game) : GameEvent → Prop
  | .command .gamePause => game.gameUp = false ∧ game.world.x = 0 ∧ HasTimer game
  | .fire slot => WaitsForStart game ∧ HasTimer game ∧
    ∃ context, game.timers slot = .game (.effect .playerMove (.sprite .player) context) ∧ LeavesLevel context game
  | _ => False

namespace Clock

variable {clock : Clock}

/-- A round is scheduled where there was none. -/
theorem Silent.oneRound (silent : clock.Silent) :
    clock.schedule.OneRound ↔ (clock.up = false ∨ clock.width = 0 → ¬ ∃ slot, clock.timers slot = .free) := by
  have scheduled : clock.schedule.round = none ↔ ¬ ∃ slot, clock.timers slot = .free := by
    rw [← firstFree_isSome, Option.not_isSome_iff_eq_none]
    rfl
  rw [← scheduled]
  exact ⟨fun one => one.waits, fun waits => ⟨silent.schedule, waits⟩⟩

theorem OneRound.release (one : clock.OneRound) (other : clock.timers slot ≠ .game .round) :
    (clock.release slot).OneRound :=
  one.set other nofun

end Clock

theorem clock_release : clock (timerCancel (some slot) game) = (clock game).release slot := rfl

theorem OneRound.touches {program : Play Unit} (one : (clock game).OneRound) (makes : Makes (Touch .whole) program) :
    Wlp program (fun _ later => (clock later).OneRound ∧ (clock game).Effects (clock later)) game := by
  apply (makes game).mono
  intro _ later steps
  have effects := Touches.effects steps
  exact ⟨one.effects effects, effects⟩

/-- `GamePause`. -/
theorem oneRound_gamePause (one : (clock game).OneRound) :
    (clock (gamePause game)).OneRound ↔ ¬ Drifts game (.command .gamePause) := by
  rw [Drifts, gamePause]
  split
  next up =>
    have same : clock { game.cancelRound with gameUp := false } = { (clock game).cancel with up := false } := by
      rw [← clock_cancelRound]
      rfl
    rw [same]
    have pauses : Clock.OneRound { (clock game).cancel with up := false } :=
      ⟨Clock.Silent.agrees one.agrees.cancel rfl, fun _ => rfl⟩
    simp [pauses, up]
  next down =>
    have isDown : game.gameUp = false := by simpa using down
    have same : clock { game.scheduleRound with gameUp := true } = { clock game with up := true }.schedule := by
      have scheduled := @clock_scheduleRound game
      rw [show ({ clock game with up := true } : Clock).schedule = { (clock game).schedule with up := true } from rfl,
        ← scheduled]
      rfl
    have silent : Clock.Silent { clock game with up := true } := one.agrees.silent (one.waits (.inl isDown))
    rw [same, silent.oneRound]
    simp only [isDown, true_and, Bool.true_eq_false, false_or, not_and]
    rfl

/-- `GameStart`, whatever was pending before. -/
theorem oneRound_starts (one : (clock game).OneRound) (starts : StartsGame game later) : (clock later).OneRound := by
  obtain ⟨silent, _, _⟩ := clock_stopRound one.agrees
  rw [starts.clock_eq]
  refine ⟨silent.schedule, ?_⟩
  rintro (down | none)
  · cases down
  · cases none

theorem wlp_command (one : (clock game).OneRound) (typed : Command) :
    Wlp typed.run (fun _ later => (clock later).OneRound ↔ ¬ Drifts game (.command typed)) game := by
  have keeps : ∀ {program : Play Unit}, Makes (Touch .whole) program →
      Wlp program (fun _ later => (clock later).OneRound ↔ ¬ False) game := by
    intro program makes
    apply (OneRound.touches one makes).mono
    intro _ later kept
    simp [kept.1]
  have moves : ∀ x y, Wlp (moveCommand x y) (fun _ later => (clock later).OneRound ↔ ¬ False) game :=
    fun _ _ => keeps (makes_moveCommand trivial trivial)
  cases typed with
  | gameStart =>
    apply wlp_gameStartCommand.mono
    rintro _ later (⟨_, starts⟩ | ⟨_, rfl⟩)
    · simp [oneRound_starts one starts, Drifts]
    · simp [one, Drifts]
  | gamePause =>
    rw [Command.run, wlp_update]
    exact oneRound_gamePause one
  | action => exact keeps (makes_action (fun _ => trivial) trivial trivial)
  | north => exact moves _ _
  | south => exact moves _ _
  | east => exact moves _ _
  | west => exact moves _ _
  | northEast => exact moves _ _
  | northWest => exact moves _ _
  | southEast => exact moves _ _
  | southWest => exact moves _ _

/-- The round timer fires. -/
theorem wlp_round (one : (clock game).OneRound) (fires : game.timers slot = .game .round) :
    Wlp gameRound (fun _ later => (clock (timerCancel (some slot) later)).OneRound) game := by
  have round : (clock game).round = some slot := (one.agrees slot).mp fires
  -- a round is pending, so the game is neither paused nor still to be started
  have active : ¬ ((clock game).up = false ∨ (clock game).width = 0) := by
    intro waits
    rw [one.waits waits] at round
    cases round
  apply wlp_gameRound.mono
  rintro _ _ ⟨mid, steps, rfl | rfl⟩
  · have effects := Touches.effects steps
    rw [clock_release, clock_scheduleRound]
    refine ⟨(one.agrees.effects effects).schedule_release (effects.round.trans round), ?_⟩
    intro waits
    have before : (clock mid).up = false ∨ (clock mid).width = 0 := waits
    rw [effects.up, effects.width] at before
    exact absurd before active
  · have agrees := one.agrees.effects (Touches.effects steps)
    rw [clock_release, clock_cancelRound]
    exact ⟨(agrees.cancel.release slot).agrees rfl, fun _ => rfl⟩

/-- The end of a step of an effect, after which its element is given back. -/
theorem OneRound.fired {timer : GameTimer} (one : (clock game).OneRound) (fires : game.timers slot = .game timer)
    (effect : timer ≠ .round) (effects : (clock game).Effects (clock later)) :
    (clock (timerCancel (some slot) later)).OneRound := by
  have busy : (clock game).timers slot ≠ .free := by
    rw [show (clock game).timers slot = .game timer from fires]
    exact TimerSlot.noConfusion
  refine (one.effects effects).release ?_
  rw [effects.busy slot busy, show (clock game).timers slot = .game timer from fires]
  exact fun same => effect (TimerSlot.game.inj same)

/-- While the game waits there is no round to stop. -/
theorem stopRound_eq (noRound : (clock game).round = none) : Game.stopRound game = game := by
  have isNone : game.world.round = none := noRound
  rw [Game.stopRound, isNone]
  rfl

/-- An element that is not the round timer is not given back when the round stops. -/
theorem stopRound_timers (other : (clock game).round ≠ some slot) :
    (clock (Game.stopRound game)).timers slot = (clock game).timers slot := by
  rw [Game.stopRound]
  split
  · rw [clock_cancelRound, Clock.cancel]
    cases round : (clock game).round with
    | none => rfl
    | some current =>
      have apart : slot ≠ current := by
        rintro rfl
        exact other round
      exact Function.update_of_ne apart ..
  · rfl

/-- The end of a move at the exit. -/
theorem OneRound.leaves {timer : GameTimer} {mid : Game} (one : (clock game).OneRound)
    (fires : game.timers slot = .game timer) (effect : timer ≠ .round) (same : clock mid = clock game)
    (levels : LevelsUp mid later) :
    (clock (timerCancel (some slot) later)).OneRound ↔ ¬ (WaitsForStart game ∧ HasTimer game) := by
  rw [← same] at one
  obtain ⟨silent, up, width⟩ := clock_stopRound one.agrees
  have isTimer : (clock mid).timers slot = .game timer := by
    rw [same]
    exact fires
  have notRound : (clock mid).round ≠ some slot := by
    intro round
    have isRound := (one.agrees slot).mpr round
    rw [isTimer] at isRound
    exact effect (TimerSlot.game.inj isRound)
  have stays := (stopRound_timers notRound).trans isTimer
  have waits : WaitsForStart game ↔ (clock (Game.stopRound mid)).up = false ∨ (clock (Game.stopRound mid)).width = 0 := by
    have sameUp : mid.gameUp = game.gameUp := congrArg Clock.up same
    have sameWidth : mid.world.x = game.world.x := congrArg Clock.width same
    rw [up, width, sameUp, sameWidth, WaitsForStart]
  -- the element that has fired is still taken while the round is scheduled
  have other : (clock (Game.stopRound mid)).schedule.timers slot ≠ .game .round := by
    intro isRound
    have first := (silent.schedule slot).mp isRound
    rw [Clock.firstFree_free first] at stays
    cases stays
  have released : ((clock (Game.stopRound mid)).schedule.release slot).OneRound ↔
      (clock (Game.stopRound mid)).schedule.OneRound :=
    ⟨fun one => ⟨silent.schedule, one.waits⟩, fun one => one.release other⟩
  rw [clock_release, levels.clock_eq, released, silent.oneRound, ← waits, not_and]
  apply forall_congr'
  intro isWaiting
  have noRound : (clock mid).round = none := by
    apply one.waits
    rw [same]
    exact isWaiting
  rw [stopRound_eq noRound, same]
  rfl

/-- The timer of an effect fires. -/
theorem wlp_fire (one : (clock game).OneRound) {timer : GameTimer} (fires : game.timers slot = .game timer) :
    Wlp timer.callback (fun _ later => (clock (timerCancel (some slot) later)).OneRound ↔ ¬ Drifts game (.fire slot))
      game := by
  have fired : ∀ {program : Play Unit}, timer ≠ .round → ¬ Drifts game (.fire slot) → Makes (Touch .whole) program →
      Wlp program (fun _ later => (clock (timerCancel (some slot) later)).OneRound ↔ ¬ Drifts game (.fire slot)) game := by
    intro program effect good makes
    apply (OneRound.touches one makes).mono
    intro _ later kept
    simp [good, OneRound.fired one fires effect kept.2]
  -- a step drifts only if the timer is one of the player's moves
  have drifts : ∀ {other : GameTimer}, timer = other → (∀ context, other ≠ .effect .playerMove (.sprite .player) context) →
      ¬ Drifts game (.fire slot) := by
    rintro _ rfl apart ⟨_, _, context, isMove, _⟩
    exact apart context (TimerSlot.game.inj (fires.symm.trans isMove))
  cases timer with
  | round =>
    apply (wlp_round one fires).mono
    intro _ later kept
    simp [kept, drifts rfl]
  | effect poll data context =>
    cases poll with
    | spriteMove =>
      cases data with
      | action => exact wlp_halt _
      | sprite sprite => exact fired nofun (drifts rfl nofun) (makes_spriteMoveCallback trivial trivial)
    | attack =>
      cases data with
      | sprite => exact wlp_halt _
      | action sprite attack => exact fired nofun (drifts rfl nofun) (makes_attackCallback trivial trivial)
    | playerMove =>
      cases data with
      | action => exact wlp_halt _
      | sprite sprite =>
        cases sprite with
        | creature => exact wlp_halt _
        | player =>
          have whole : Scope.whole.sprite .player := trivial
          have leaves : Drifts game (.fire slot) ↔ WaitsForStart game ∧ HasTimer game ∧ LeavesLevel context game := by
            rw [Drifts, fires]
            simp
          apply (wlp_playerMoveCallback whole trivial).mono
          rintro _ later (⟨isExit, mid, steps, levels⟩ | ⟨notExit, steps⟩)
          · rw [OneRound.leaves one fires nofun (Touches.clock_eq steps not_false) levels, leaves]
            simp [isExit]
          · simp [leaves, notExit, OneRound.fired one fires nofun (Touches.effects steps)]

/-- A step keeps the round timer if and only if it does not drift. -/
theorem wlp_event (one : (clock game).OneRound) (event : GameEvent) :
    Wlp event.play (fun _ later => (clock later).OneRound ↔ ¬ Drifts game event) game := by
  cases event with
  | command typed => exact wlp_command one typed
  | fire slot =>
    have still : (∀ timer, game.timers slot ≠ .game timer) → ((clock game).OneRound ↔ ¬ Drifts game (.fire slot)) := by
      intro apart
      have good : ¬ Drifts game (.fire slot) := by
        rintro ⟨_, _, context, isMove, _⟩
        exact apart _ isMove
      simp [one, good]
    rw [GameEvent.play, wlp_state_bind]
    cases fires : game.timers slot with
    | free => exact (wlp_pure _).mpr (still (by simp [fires]))
    | other => exact (wlp_pure _).mpr (still (by simp [fires]))
    | game timer =>
      apply Wlp.bind
      apply (wlp_fire one fires).mono
      intro _ later kept
      rw [wlp_update]
      exact kept
  | others slot busy =>
    have taken : ∀ {before}, game.timers slot = before → before ≠ .game .round →
        (clock { game with timers := Function.update game.timers slot (if busy then .other else .free) }).OneRound := by
      rintro _ rfl other
      refine Clock.OneRound.set one other ?_
      cases busy <;> exact TimerSlot.noConfusion
    rw [GameEvent.play, wlp_update]
    split
    · simp [one, Drifts]
    next isOther => simp [taken isOther (by simp), Drifts]
    next isFree => simp [taken isFree (by simp), Drifts]

/-! ## Runs -/

/-- `GameStart` is one of the steps. -/
def GameStarted (steps : List (GameEvent × List (BitVec 32))) : Prop := ∃ step ∈ steps, step.1 = .command .gameStart

/-- There is at most one timer with `game_round`, the round timer is that or none, and there is
    none while the game is paused or before it was started. -/
structure OneRoundTimer (steps : List (GameEvent × List (BitVec 32))) (game : Game) : Prop where
  unique : ∀ first second, game.timers first = .game .round → game.timers second = .game .round → first = second
  named : ∀ slot, game.timers slot = .game .round ↔ game.world.round = some slot
  paused : game.gameUp = false → ∀ slot, game.timers slot ≠ .game .round
  before : ¬ GameStarted steps → ∀ slot, game.timers slot ≠ .game .round

theorem change_clock_width {starts : Prop} (change : Change starts game later) (still : ¬ starts) :
    (clock later).width = (clock game).width ∧ (clock later).screen = (clock game).screen := by
  cases change with
  | touch touch =>
    have effects := Touch.effects touch
    exact ⟨effects.width, effects.screen⟩
  | clock same => exact ⟨same.width, same.screenUp⟩
  | openGrid start => exact absurd start still
  | enroll start => exact absurd start still

theorem changes_clock_width {starts : Prop} (steps : Changes starts game later) (still : ¬ starts) :
    (clock later).width = (clock game).width ∧ (clock later).screen = (clock game).screen := by
  induction steps with
  | refl => exact ⟨rfl, rfl⟩
  | tail _ last ih =>
    have next := change_clock_width last still
    exact ⟨next.1.trans ih.1, next.2.trans ih.2⟩

/-- The grid has a width once `GameStart` has been called. -/
theorem wlp_width (up : game.screenUp = true) (event : GameEvent) :
    Wlp event.play (fun _ later => later.screenUp = true ∧
      (later.world.x = 0 ↔ event ≠ .command .gameStart ∧ game.world.x = 0)) game := by
  by_cases start : event = .command .gameStart
  · subst start
    apply wlp_gameStartCommand.mono
    rintro _ later (⟨_, starts⟩ | ⟨down, _⟩)
    · have width := congrArg Clock.width starts.clock_eq
      have screen := congrArg Clock.screen starts.clock_eq
      have sameScreen : (clock (Game.stopRound game)).screen = game.screenUp := by
        have changes := @changes_stopRound game False
        exact (changes_clock_width changes not_false).2
      refine ⟨(screen.trans sameScreen).trans up, ?_⟩
      have wide : later.world.x = gameGridWidth := width
      simp [wide, gameGridWidth]
    · rw [up] at down
      cases down
  · apply (makes_event event game).mono
    intro _ later steps
    obtain ⟨width, screen⟩ := changes_clock_width steps start
    have sameWidth : later.world.x = game.world.x := width
    refine ⟨screen.trans up, ?_⟩
    rw [sameWidth]
    exact (and_iff_right start).symm

theorem play_append {steps : List (GameEvent × List (BitVec 32))} {step : GameEvent × List (BitVec 32)} :
    play game (steps ++ [step]) = .ok later ↔ ∃ mid, play game steps = .ok mid ∧ gameStep mid step = .ok later := by
  rw [play, List.foldlM_append]
  change (play game steps >>= fun mid => play mid [step]) = .ok later ↔ _
  cases play game steps with
  | error stop => simp [bind, Except.bind]
  | ok mid => simp [bind, Except.bind, play_single]

theorem started_append {steps : List (GameEvent × List (BitVec 32))} {step : GameEvent × List (BitVec 32)} :
    GameStarted (steps ++ [step]) ↔ GameStarted steps ∨ step.1 = .command .gameStart := by
  simp [GameStarted, or_and_right, exists_or]

/-- The grid has a width in a run once `GameStart` has been called. -/
theorem width_of_play {nullTileNum : Int} {timers : Fin maxTimerTasks → Bool}
    {steps : List (GameEvent × List (BitVec 32))} (runs : play (boot nullTileNum timers) steps = .ok game) :
    game.screenUp = true ∧ (game.world.x = 0 ↔ ¬ GameStarted steps) := by
  induction steps using List.reverseRecOn generalizing game with
  | nil =>
    obtain rfl : boot nullTileNum timers = game := Except.ok.inj runs
    exact ⟨rfl, by simp [boot, GameStarted]⟩
  | append_singleton steps step ih =>
    obtain ⟨mid, before, after⟩ := play_append.mp runs
    obtain ⟨up, width⟩ := ih before
    obtain ⟨up', width'⟩ := (wlp_width up step.1).exec after
    refine ⟨up', ?_⟩
    rw [width', width, started_append, not_or]
    exact and_comm

/-- The clock says what the property says. -/
theorem oneRoundTimer_iff {nullTileNum : Int} {timers : Fin maxTimerTasks → Bool}
    {steps : List (GameEvent × List (BitVec 32))} (runs : play (boot nullTileNum timers) steps = .ok game) :
    OneRoundTimer steps game ↔ (clock game).OneRound := by
  have width : (clock game).width = 0 ↔ ¬ GameStarted steps := (width_of_play runs).2
  constructor
  · intro timer
    have agrees : (clock game).Agrees := timer.named
    refine ⟨agrees, fun waits => ?_⟩
    cases round : (clock game).round with
    | none => rfl
    | some slot =>
      have isRound := (agrees slot).mpr round
      rcases waits with down | still
      · exact absurd isRound (timer.paused down slot)
      · exact absurd isRound (timer.before (width.mp still) slot)
  · intro one
    have silent : (clock game).up = false ∨ (clock game).width = 0 → (clock game).Silent :=
      fun waits => one.agrees.silent (one.waits waits)
    refine ⟨fun first second isFirst isSecond => ?_, one.agrees, fun down => silent (.inl down),
      fun still => silent (.inr (width.mpr still))⟩
    have same := ((one.agrees first).mp isFirst).symm.trans ((one.agrees second).mp isSecond)
    exact Option.some.inj same

/-- The state that a run reaches has one round timer if no step before has drifted. -/
theorem oneRound_of_play {nullTileNum : Int} {timers : Fin maxTimerTasks → Bool}
    {steps : List (GameEvent × List (BitVec 32))} (runs : play (boot nullTileNum timers) steps = .ok game)
    (good : ∀ past step later mid next, steps = past ++ step :: later → play (boot nullTileNum timers) past = .ok mid →
      gameStep mid step = .ok next → ¬ Drifts mid step.1) : (clock game).OneRound := by
  induction steps using List.reverseRecOn generalizing game with
  | nil =>
    obtain rfl : boot nullTileNum timers = game := Except.ok.inj runs
    have silent : (clock (boot nullTileNum timers)).Silent := by
      intro slot isRound
      have taken : (if timers slot then TimerSlot.other else .free) = .game .round := isRound
      split at taken <;> cases taken
    exact ⟨silent.agrees rfl, fun _ => rfl⟩
  | append_singleton steps step ih =>
    obtain ⟨mid, before, after⟩ := play_append.mp runs
    have one := ih before fun past first later mid next split => good past first (later ++ [step]) mid next (by simp [split])
    exact ((wlp_event one step.1).exec after).mpr (good steps step [] mid game rfl before after)

/-- Every state of a run has one round timer, and none while the game is paused or before it was
    started, if and only if no step of the run drifts. -/
theorem one_round_timer_iff (nullTileNum : Int) (timers : Fin maxTimerTasks → Bool)
    (steps : List (GameEvent × List (BitVec 32))) :
    (∀ past later game, steps = past ++ later → play (boot nullTileNum timers) past = .ok game → OneRoundTimer past game) ↔
      ∀ past step later game next, steps = past ++ step :: later → play (boot nullTileNum timers) past = .ok game →
        gameStep game step = .ok next → ¬ Drifts game step.1 := by
  constructor
  · intro holds past step later game next isSteps before after
    have one := (oneRoundTimer_iff before).mp (holds past (step :: later) game isSteps before)
    have reached : play (boot nullTileNum timers) (past ++ [step]) = .ok next := play_append.mpr ⟨game, before, after⟩
    have kept := (oneRoundTimer_iff reached).mp (holds (past ++ [step]) later next (by simp [isSteps]) reached)
    exact ((wlp_event one step.1).exec after).mp kept
  · intro good past later game isSteps reached
    refine (oneRoundTimer_iff reached).mpr (oneRound_of_play reached ?_)
    intro first step rest mid next split
    exact good first step (rest ++ later) mid next (by simp [isSteps, split])

/-- The random numbers for the terrain of a meadow. -/
def meadowTerrain : List (BitVec 32) := List.replicate (4 * (gameGridWidth * gameGridHeight)) 7

/-- The random numbers of a start with the exit next to a wizard. -/
def exitDraws : List (BitVec 32) :=
  meadowTerrain ++ [0, 0, 0, 0, 0, 0, 0, 0, 0, 5, 5, 5, 0, 0, 0, 0] ++ [50, 20, 20, 7, 22, 20, 11, 10, 12, 10]

/-- The wizard goes to the exit, and the game is paused before it arrives there and goes on after. -/
def exitWhilePaused : List (GameEvent × List (BitVec 32)) :=
  [(.command .gameStart, exitDraws), (.command .west, []), (.fire (timerTask 1 one_lt_maxTimerTasks), []),
    (.fire (timerTask 2 two_lt_maxTimerTasks), []), (.command .gamePause, []),
    (.fire (timerTask 1 one_lt_maxTimerTasks), meadowTerrain ++ [7, 20, 20, 7, 22, 20, 7, 20, 22, 11, 10, 12, 10]),
    (.command .gamePause, [])]

/-- Then there are two round timers. -/
theorem two_round_timers :
    ∃ game, play (boot 0 fun _ => false) exitWhilePaused = .ok game ∧ ¬ OneRoundTimer exitWhilePaused game := by
  have passes : (play (boot 0 fun _ => false) exitWhilePaused).toOption.any (fun game =>
      decide (game.timers (timerTask 0) = .game .round ∧ game.timers (timerTask 1) = .game .round)) = true := by
    delta play gameStep GameEvent.play Command.run gameStartCommand GameTimer.callback playerMoveCallback gameLevelUp
    rw [worldCreateRandom_evenly]
    decide +kernel
  obtain ⟨game, reached, checked⟩ := exists_of_any passes
  obtain ⟨first, second⟩ := of_decide_eq_true checked
  refine ⟨game, reached, fun holds => ?_⟩
  exact absurd (holds.unique _ _ first second) (by decide)

end ComputerSystems.Verified
