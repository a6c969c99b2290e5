import ComputerSystems.Verified.GridCommands

/-! # The lists of the grid in every run

The board stays sound along a run of the game: its commands, the timers that fire and what
other parts of the system do with the timers.  So the lists of the tiles hold the player, the
creatures of the level and the items on the ground, each in the list of its tile and in no
other.

A timer is not cancelled when its sprite is killed, picked up or left behind on another level.
If the last step of a move finds its sprite off the grid, the sprite is unlinked once more by
the links that it had, and with it whatever has come to its tile since.  The steps that are
excluded are that one and those that leave the tables of the game: a creature that has no
world, the counter of a cleric and a seventeenth item.
-/

namespace ComputerSystems.Verified

open ComputerSystems.Data ComputerSystems.VirtualWorld

variable {game : Game}

/-! ## What the lists hold -/

/-- The sprites that are on the grid: the player and the creatures of the level while they
    have not been killed, and what the killed ones have left until the player takes it. -/
def Present (game : Game) : Sprite → Prop
  | .player => 0 ≤ game.character.player.stats.hp
  | .creature i => i.val ≤ game.world.level ∧
    if has (game.flags (.creature i)) isItem then game.taken i = false else 0 ≤ (game.creatures i).stats.hp

/-- Every tile heads a circular list, and each sprite of the grid is in the list of the tile at
    its location and in no other. -/
def GridLists (game : Game) : Prop :=
  ∃ contents, TileLists game.links contents ∧
    ∀ sprite, Present game sprite → ∃ tile, game.tileUnder sprite = some tile ∧
      ∀ other, .sprite sprite ∈ contents other ↔ other = tile

/-- The board of a game shows which sprites are on the grid. -/
theorem Board.Playing.present (playing : (board game).Playing) (sprite : Sprite) :
    Present game sprite ↔ (board game).onGrid sprite = true := by
  cases sprite with
  | player =>
    have plain : ((board game).sprites .player).item = false := playing.player_plain
    have killed : ((board game).sprites .player).killed = decide (game.character.player.stats.hp < 0) := rfl
    rw [Present, Board.onGrid, Board.inPlay, Standing.remains, plain, killed]
    simp
  | creature i =>
    have level : (board game).level = game.world.level := rfl
    simp only [Present, Board.onGrid, Board.inPlay, Bool.and_eq_true, decide_eq_true_eq, level]
    apply and_congr_right
    intro _
    have flags : ((board game).sprites (.creature i)).item = has (game.flags (.creature i)) isItem := rfl
    have killed : ((board game).sprites (.creature i)).killed = decide ((game.creatures i).stats.hp < 0) := rfl
    have taken : (board game).takes (.creature i) = game.taken i := rfl
    rw [Standing.remains, flags, killed, taken]
    split
    · simp
    · simp

theorem Board.Playing.gridLists (playing : (board game).Playing) : GridLists game := by
  obtain ⟨place, ⟨contents, lists, members⟩, agree⟩ := playing.agrees
  refine ⟨contents, lists, ?_⟩
  intro sprite present
  have on := (playing.present sprite).mp present
  obtain ⟨tile, there⟩ := playing.facts.standsOn on
  refine ⟨tile, (Board.standsOn_iff.mp there).2, ?_⟩
  intro other
  rw [members, agree, there, Option.some.injEq, eq_comm]

/-! ## Steps -/

/-- What has to hold before a timer fires. -/
def TimerGoesWell : GameTimer → Game → Prop
  | .round, game =>
    (∀ i : CreatureIndex, 7 ≤ i.val → i.val ≤ game.world.level →
      has (game.flags (.creature i)) isDead = true ∨ (game.creatures i).stats.hp ≤ 0) ∧
    (game.world.level + 1 < maxCreatures ∨ has game.character.player.stats.flags classCleric = false ∨
      game.character.player.stats.hp ≤ 0)
  | .effect .spriteMove (.sprite sprite) _, game =>
    completes (game.sprite sprite).effect = true → Present game sprite
  | .effect .playerMove _ context, game =>
    completes game.character.player.effect = true → Present game .player ∧
      (has (game.terrain context).flags worldExit = false → ItemFits context game)
  | .effect _ _ _, _ => True

/-- What has to hold before a step. -/
def StepGoesWell : GameEvent → Game → Prop
  | .fire slot, game => ∀ timer, game.timers slot = .game timer → TimerGoesWell timer game
  | .command _, _ | .others _ _, _ => True

/-- The sprites that cannot act are known when a round begins. -/
theorem Board.Playing.round {board : Board} (playing : board.Playing) :
    board.Sound { level := board.level, cleric := (board.sprites .player).cleric
                  idle := fun sprite => (board.sprites sprite).spent = true ∨
                    ((board.sprites sprite).dead = true ∧ (board.sprites sprite).player = false) } := by
  have facts := playing.facts
  refine ⟨?_, playing.agrees⟩
  exact { facts with fits := fun sprite plays => { facts.fits sprite plays with idle := id } }

/-- A timer fires. -/
theorem wp_callback (playing : (board game).Playing) {timer : GameTimer} (fits : GameTimer.fits timer = true)
    (well : TimerGoesWell timer game) : Wp timer.callback (fun _ later => (board later).Playing) game := by
  cases timer with
  | round =>
    obtain ⟨late, counts⟩ := well
    -- the condition is about the creatures before the round, and none of them comes back to life in it
    refine (wp_gameRound playing.round ?_ ?_).mono fun _ later kept => kept.playing
    · intro i isLate plays
      cases late i isLate plays with
      | inl dead =>
        have fits := playing.facts.fits (.creature i) (decide_eq_true plays)
        exact .inr ⟨dead, fits.not_player⟩
      | inr spent => exact .inl (decide_eq_true spent)
    · rcases counts with inside | noCleric | spent
      · exact .inl inside
      · exact .inr (.inl noCleric)
      · exact .inr (.inr (.inl (decide_eq_true spent)))
  | effect poll data context =>
    cases poll with
    | spriteMove =>
      cases data with
      | action => cases fits
      | sprite sprite =>
        refine (wp_spriteMoveCallback playing ?_).mono fun _ later kept => kept.playing
        intro completes
        exact (playing.present sprite).mp (well completes)
    | playerMove =>
      cases data with
      | action => cases fits
      | sprite sprite =>
        cases sprite with
        | creature => cases fits
        | player =>
          apply wp_playerMoveCallback playing
          intro completes
          obtain ⟨present, room⟩ := well completes
          exact ⟨(playing.present .player).mp present, room⟩
    | attack =>
      cases data with
      | sprite => cases fits
      | action sprite attack =>
        apply wp_attackCallback.mono
        intro _ later same
        rw [same]
        exact playing

/-- A step keeps the invariant. -/
theorem wp_event (playing : (board game).Playing) {event : GameEvent} (well : StepGoesWell event game) :
    Wp event.play (fun _ later => (board later).Playing) game := by
  cases event with
  | command typed => exact wp_command playing typed
  | fire slot =>
    rw [GameEvent.play, wp_state_bind]
    cases isTimer : game.timers slot with
    | free => exact (wp_pure _).mpr playing
    | other => exact (wp_pure _).mpr playing
    | game timer =>
      -- `TimerPoll` frees the element after the callback, which may have taken others
      have allFit : ∀ slot, TimerSlot.fits (game.timers slot) = true := playing.facts.timers
      have fits := allFit slot
      rw [isTimer] at fits
      apply Wp.bind
      apply (wp_callback playing fits (well timer isTimer)).mono
      intro _ later kept
      rw [wp_update, board_timerCancel kept.facts.timers]
      exact kept
  | others slot busy =>
    rw [GameEvent.play, wp_update]
    have fit : TimerSlot.fits (if busy then .other else .free) = true := by
      cases busy <;> rfl
    split
    · exact playing
    · rw [board_setTimer playing.facts.timers fit]
      exact playing
    · rw [board_setTimer playing.facts.timers fit]
      exact playing

/-! ## Runs -/

/-- A run in which every step goes well. -/
def GoesWell (game : Game) : List (GameEvent × List (BitVec 32)) → Prop
  | [] => True
  | step :: steps => StepGoesWell step.1 game ∧ ∀ later, gameStep game step = .ok later → GoesWell later steps

/-- The invariant along a run. -/
theorem play_playing {steps : List (GameEvent × List (BitVec 32))} (playing : (board game).Playing)
    (well : GoesWell game steps) :
    (∀ now, play game steps = .ok now → (board now).Playing) ∧ ∀ stop, play game steps = .error stop → stop = .drawing := by
  induction steps generalizing game with
  | nil =>
    constructor
    · rintro _ ⟨rfl⟩
      exact playing
    · nofun
  | cons step steps ih =>
    obtain ⟨good, rest⟩ := well
    obtain ⟨keeps, stops⟩ := (wp_event playing good).exec step.2
    have unfolded : play game (step :: steps) = (gameStep game step).bind fun later => play later steps :=
      List.foldlM_cons
    rw [unfolded]
    cases ran : gameStep game step with
    | error stop =>
      have drawing := stops stop ran
      simp [Except.bind, drawing]
    | ok later =>
      rw [Except.bind]
      exact ih (keeps later ran) (rest later ran)

/-- In every run after the start of a game whose steps go well, no step faults or loops, and the
    lists of the grid hold in every state that is reached. -/
theorem grid_lists_hold {started : Game} {draws : List (BitVec 32)} {steps : List (GameEvent × List (BitVec 32))}
    (timers : ∀ slot, TimerSlot.fits (game.timers slot) = true) (up : game.screenUp = true)
    (starts : gameStep game (.command .gameStart, draws) = .ok started) (well : GoesWell started steps) :
    (∀ now, play started steps = .ok now → GridLists now) ∧
      ∀ stop, play started steps = .error stop → stop = .drawing := by
  simp only [gameStep, GameEvent.play, Command.run] at starts
  have playing := ((wp_gameStartCommand timers up).exec draws).1 started starts
  obtain ⟨keeps, stops⟩ := play_playing playing well
  refine ⟨?_, stops⟩
  intro now reached
  exact (keeps now reached).gridLists

/-- A state that a run has been checked to reach. -/
theorem exists_of_any {start : Except Stop Game} {check : Game → Bool} (passes : start.toOption.any check = true) :
    ∃ now, start = .ok now ∧ check now = true := by
  cases start with
  | error stop => cases passes
  | ok now => exact ⟨now, rfl, passes⟩

/-- An element of `TimerTasks`. -/
def timerTask (slot : Nat) (inside : slot < maxTimerTasks := by decide) : Fin maxTimerTasks := ⟨slot, inside⟩

theorem one_lt_maxTimerTasks : 1 < maxTimerTasks := by decide

theorem two_lt_maxTimerTasks : 2 < maxTimerTasks := by decide

/-- The random numbers of a start on a meadow: a bat between a beetle and a wizard, two tiles
    from each. -/
def meadowDraws : List (BitVec 32) :=
  List.replicate (4 * (gameGridWidth * gameGridHeight)) 7 ++
    [0, 0, 0, 0, 0, 0, 0, 0, 0, 5, 5, 5, 0, 0, 0, 0] ++ [50, 10, 10, 7, 8, 10, 1, 1, 12, 10]

/-- The first round on the meadow. -/
theorem grid_lists_hold_in_round :
    ∃ started now, gameStep (boot 0 fun _ => false) (.command .gameStart, meadowDraws) = .ok started ∧
      play started [(.fire (timerTask 0), [])] = .ok now ∧ GridLists now := by
  have passes : (gameStep (boot 0 fun _ => false) (.command .gameStart, meadowDraws)).toOption.any (fun started =>
      decide (started.world.level = 1 ∧ started.timers (timerTask 0) = .game .round) &&
        (play started [(.fire (timerTask 0), [])]).toOption.any fun _ => true) = true := by
    delta play gameStep GameEvent.play Command.run gameStartCommand
    rw [worldCreateRandom_evenly]
    decide +kernel
  obtain ⟨started, starts, checked⟩ := exists_of_any passes
  rw [Bool.and_eq_true] at checked
  obtain ⟨level, isRound⟩ := of_decide_eq_true checked.1
  obtain ⟨now, reached, _⟩ := exists_of_any checked.2
  have well : GoesWell started [(.fire (timerTask 0), [])] := by
    refine ⟨?_, fun _ _ => trivial⟩
    intro timer isTimer
    obtain rfl : GameTimer.round = timer := TimerSlot.game.inj (isRound.symm.trans isTimer)
    refine ⟨?_, .inl ?_⟩
    · intro i isLate plays
      omega
    · rw [level]
      decide
  have holds := @grid_lists_hold (boot 0 fun _ => false) started meadowDraws _ (by decide) rfl starts well
  exact ⟨started, now, starts, reached, holds.1 now reached⟩

/-- A sprite whose tile leads to no other has been lost. -/
theorem not_gridLists {sprite : Sprite} {tile : TileIndex} (present : Present game sprite)
    (under : game.tileUnder sprite = some tile) (empty : (game.links (.tile tile)).next = some (.tile tile)) :
    ¬ GridLists game := by
  rintro ⟨contents, lists, holds⟩
  obtain ⟨there, isThere, members⟩ := holds sprite present
  obtain rfl : tile = there := Option.some.inj (under.symm.trans isThere)
  have isIn := (members tile).mpr rfl
  cases isContents : contents tile with
  | nil =>
    rw [isContents] at isIn
    cases isIn
  | cons first rest =>
    have linked := (lists.ring tile).linked
    rw [isContents, List.cons_append, List.isChain_cons_cons] at linked
    have isFirst : Node.tile tile = first := Option.some.inj (empty.symm.trans linked.1.1)
    apply @TileLists.not_tile _ _ tile lists tile
    rw [isContents, isFirst]
    exact List.mem_cons_self

/-- The bat flees, and while its move is in progress the wizard comes near, kills it and goes to
    its tile.  Then the bat's move ends. -/
def staleMove : List (GameEvent × List (BitVec 32)) :=
  [(.fire (timerTask 0), []),
    (.command .west, []), (.fire (timerTask 0), []), (.fire (timerTask 4), []), (.fire (timerTask 0), []),
    (.command .action, [20, 5, 0]),
    (.command .west, []), (.fire (timerTask 4), []), (.fire (timerTask 1), []), (.fire (timerTask 5), []),
    (.fire (timerTask 1), []),
    (.fire (timerTask 4), []), (.fire (timerTask 1), [])]

/-- The stale timer takes the wizard out of the list of its tile. -/
theorem grid_lists_fail :
    ∃ started now, gameStep (boot 0 fun _ => false) (.command .gameStart, meadowDraws) = .ok started ∧
      play started staleMove = .ok now ∧ ¬ GridLists now := by
  have passes : (gameStep (boot 0 fun _ => false) (.command .gameStart, meadowDraws)).toOption.any (fun started =>
      (play started staleMove).toOption.any fun now =>
        decide (now.character.player.stats.hp = 6 ∧ now.tileUnder .player = some ⟨290, by decide⟩ ∧
          (now.links (.tile ⟨290, by decide⟩)).next = some (.tile ⟨290, by decide⟩))) = true := by
    delta play gameStep GameEvent.play Command.run gameStartCommand
    rw [worldCreateRandom_evenly]
    decide +kernel
  obtain ⟨started, starts, checked⟩ := exists_of_any passes
  obtain ⟨now, reached, checked⟩ := exists_of_any checked
  obtain ⟨hp, under, empty⟩ := of_decide_eq_true checked
  have present : Present now .player := by
    rw [Present, hp]
    decide
  exact ⟨started, now, starts, reached, not_gridLists present under empty⟩

end ComputerSystems.Verified
