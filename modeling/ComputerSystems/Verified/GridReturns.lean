import ComputerSystems.Verified.GridPlaces

/-! # The lists of the grid where the game goes on

A run only goes on behind a step that has returned.  So of the conditions under which the lists
of the grid hold, those that keep a step from leaving the tables of the game are not needed to
know that the lists hold behind it: what remains is that a move ends with its sprite on the
grid.
-/

namespace ComputerSystems.Verified

open ComputerSystems.Data ComputerSystems.VirtualWorld

variable {game : Game} {sprite : Sprite} {setting : Board.Setting}

/-! ## Rounds -/

/-- The turn of a creature that returns: one that acts has a world. -/
theorem wlp_creatureTurn {i : CreatureIndex} (sound : (board game).Sound setting) (plays : i.val ≤ setting.level) :
    Wlp (creatureTurn i) (fun _ later => (board later).Sound setting) game := by
  have inPlay : (board game).inPlay (.creature i) = true := by
    rw [← sound.facts.level] at plays
    exact decide_eq_true plays
  rw [creatureTurn, wlp_state_bind]
  split
  · exact (wlp_pure _).mpr sound
  · split
    · cases world : (game.sprite (.creature i)).currentWorld with
      | false =>
        apply Wlp.bind
        apply Wlp.look
        intro found finds
        rw [spriteFindNearest, world] at finds
        cases finds
      | true =>
        obtain ⟨found, finds, noticeable⟩ := spriteFindNearest_finds sound world
        apply Wp.wlp
        apply Wp.bind
        apply Wp.look finds
        cases found with
        | none => exact wp_wander sound
        | some nearby =>
          apply Wp.bind
          apply (wp_spriteAction sound inPlay world (noticeable nearby rfl)).mono
          intro acted later kept
          split
          · exact (wp_pure _).mpr kept
          · exact wp_wander kept
    · rw [wlp_update]
      exact Sound.flagged sound

theorem wlp_characterRound {level : Nat} (sound : (board game).Sound setting)
    (alive : 0 < game.character.player.stats.hp) :
    Wlp (characterRound level) (fun _ later => (board later).Sound setting) game := by
  rw [characterRound, wlp_state_bind]
  split
  · split
    · exact (wp_clericRound sound alive).wlp
    · exact wlp_halt _
  · split
    · rw [wlp_update, board_scoutRound]
      exact sound
    · exact (wlp_pure _).mpr sound

theorem wlp_creaturesOf {level : Nat} {post : List CreatureIndex → Game → Prop}
    (holds : ∀ creatures, (∀ i, i ∈ creatures ↔ i.val ≤ level) → post creatures game) :
    Wlp (creaturesOf level) post game := by
  rw [creaturesOf]
  split
  · rw [wlp_pure]
    apply holds
    intro i
    simp only [List.mem_filter, List.mem_finRange, true_and, decide_eq_true_eq]
    omega
  · exact wlp_halt _

theorem wlp_round_playing (playing : (board game).Playing) :
    Wlp gameRound (fun _ later => (board later).Playing) game := by
  have sound : (board game).Sound _ := playing
  simp only [gameRound, wlp_state_bind]
  split
  · apply Wlp.bind
    apply wlp_creaturesOf
    intro creatures members
    apply Wlp.bind
    have turns := @Wlp.each _ _ _ game creatureTurn (fun now => (board now).Sound _) creatures sound
      fun i isIn now kept => wlp_creatureTurn kept ((members i).mp isIn)
    apply turns.mono
    intro _ later kept
    rw [wlp_state_bind]
    split
    next alive =>
      apply Wlp.bind
      apply (wlp_characterRound kept alive).mono
      intro _ last kept
      rw [wlp_update, board_scheduleRound]
      exact kept.playing
    · rw [wlp_update, board_cancelRound kept.facts.timers]
      exact kept.playing
  · exact Wlp.bind (wlp_halt _)

/-! ## The player -/

theorem wlp_takeItem {i : CreatureIndex} (sound : (board game).Sound setting) (active : ¬ setting.idle .player)
    (alive : 0 ≤ game.character.player.stats.hp) (on : (board game).onGrid (.creature i) = true)
    (item : ((board game).sprites (.creature i)).item = true) :
    Wlp (takeItem (.sprite (.creature i))) (fun _ later => (board later).Sound setting) game := by
  by_cases room : RoomFor (game.tileOf (.sprite (.creature i))) game.character
  · exact (wp_takeItem sound active alive on item room).wlp
  · -- without room for it the item would be stored behind the last one
    obtain ⟨noPotion, full⟩ := not_or.mp room
    have full' : ¬ (game.setStats (equip (game.tileOf (.sprite (.creature i))).tileNum
        game.character.player.stats)).character.items.length < maxItems := full
    simp only [takeItem, wlp_state_bind]
    rw [if_neg noPotion, wlp_update_bind, storeItem]
    apply Wlp.bind
    rw [wlp_state_bind, if_neg full']
    exact wlp_halt _

theorem wlp_pickUp {context : TileIndex} (sound : (board game).Sound setting) (active : ¬ setting.idle .player)
    (alive : 0 ≤ game.character.player.stats.hp) :
    Wlp (pickUp context) (fun _ later => (board later).Sound setting) game := by
  obtain ⟨found, finds, items⟩ := findItem_finds sound context
  refine wlp_pickUp_of sound fun node isMet _ => ?_
  obtain ⟨i, rfl, on, item⟩ := items node (Except.ok.inj (finds.symm.trans isMet))
  exact wlp_takeItem sound active alive on item

/-- Where the player has arrived it looks around, and goes through the exit or picks up an item. -/
theorem wlp_arrived {context : TileIndex} (playing : (board game).Playing) (on : (board game).onGrid .player = true) :
    Wlp (do
        playerLook
        let game ← Program.state
        if has (game.terrain context).flags worldExit then gameLevelUp else pickUp context)
      (fun _ later => (board later).Playing) game := by
  apply Wlp.bind
  apply wlp_playerLook.mono
  rintro _ _ ⟨terrain, rfl, _⟩
  have looked : (board { game with terrain }).Playing := playing
  rw [wlp_state_bind]
  split
  · exact (wp_gameLevelUp looked on).wlp
  · have killed : decide (game.character.player.stats.hp < 0) = false := (playing.ready on).killed
    have alive : 0 ≤ game.character.player.stats.hp := Int.not_lt.mp (of_decide_eq_false killed)
    apply (wlp_pickUp looked not_false alive).mono
    intro _ later sound
    exact sound.playing

/-- `player_move_callback` of a player who is on the grid if its move ends. -/
theorem wlp_playerMove_playing {context : TileIndex} (playing : (board game).Playing)
    (on : completes game.character.player.effect = true → (board game).onGrid .player = true) :
    Wlp (playerMoveCallback context) (fun _ later => (board later).Playing) game := by
  simp only [playerMoveCallback, wlp_update_bind, wlp_state_bind]
  cases advance_cases .player game with
  | inl goesOn =>
    have counts : (game.advance (.sprite .player)).character.player.effect.count ≠ 0 := goesOn.1
    rw [if_neg counts, wlp_update, board_again rfl, goesOn.2.2]
    exact playing
  | inr last =>
    obtain ⟨done, completes, value, now, isValue⟩ := last
    have on := on completes
    have counts : (game.advance (.sprite .player)).character.player.effect.count = 0 := done
    have remains := remains_arrived on isValue
    have stands : (board (game.advance (.sprite .player))).sprites .player = value := by
      rw [now, Board.setSprite_sprites, Function.update_self]
    rw [if_pos counts]
    apply Wlp.bind
    apply (wp_relink playing on now (fits_arrived isValue playing.player) remains).wlp.mono
    rintro _ _ ⟨links, rfl, sound, _⟩
    apply wlp_arrived sound.playing
    change ((true : Bool) && ((board (game.advance (.sprite .player))).sprites .player).remains false) = true
    rw [stands]
    exact remains

/-! ## Runs -/

/-- The sprite of a move that ends is on the grid. -/
def MovesPresent : GameEvent → Game → Prop
  | .fire slot, game => ∀ timer, game.timers slot = .game timer →
    match timer with
    | .effect .spriteMove (.sprite sprite) _ => completes (game.sprite sprite).effect = true → Present game sprite
    | .effect .playerMove _ _ => completes game.character.player.effect = true → Present game .player
    | _ => True
  | .command _, _ | .others _ _, _ => True

theorem wlp_callback_playing (playing : (board game).Playing) {timer : GameTimer} {slot : Fin maxTimerTasks}
    (fires : game.timers slot = .game timer) (present : MovesPresent (.fire slot) game) :
    Wlp timer.callback (fun _ later => (board later).Playing) game := by
  have present := present timer fires
  apply wlp_callback_of
  · exact fun _ => wlp_round_playing playing
  · rintro sprite context rfl
    apply (wp_spriteMoveCallback playing _).wlp.mono
    · intro _ later kept
      exact kept.playing
    · intro completes
      exact (playing.present sprite).mp (present completes)
  · rintro context rfl
    apply wlp_playerMove_playing playing
    intro completes
    exact (playing.present .player).mp (present completes)
  · intro sprite attack context _
    apply wp_attackCallback.wlp.mono
    intro _ later same
    rw [same]
    exact playing

/-- A step that returns keeps the invariant if a move ends with its sprite on the grid. -/
theorem wlp_event_playing (playing : (board game).Playing) {event : GameEvent} (present : MovesPresent event game) :
    Wlp event.play (fun _ later => (board later).Playing) game := by
  apply wlp_event_of
  · exact fun _ _ => playing
  · rintro typed rfl
    exact (wp_command playing typed).wlp
  · rintro slot timer rfl fires
    apply (wlp_callback_playing playing fires present).mono
    intro _ later kept
    rw [board_timerCancel kept.facts.timers]
    exact kept
  · intro slot busy _ _
    have fit : TimerSlot.fits (if busy then .other else .free) = true := by
      cases busy <;> rfl
    rw [board_setTimer playing.facts.timers fit]
    exact playing

end ComputerSystems.Verified
