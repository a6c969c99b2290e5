import ComputerSystems.Verified.CreatureIndices

/-! # The creatures that rounds use

Only the first seven creatures of a level are initialized.  Those behind them have no world for
ever, so that a round in which one of them acts reads memory that is no world; and the counter of
a cleric is the creature behind the last one of the level.  Where neither happens, and no move
ends of a creature that is left from a longer game, rounds use initialized creatures of the level
only, and so do the starts of levels.
-/

namespace ComputerSystems.Verified

open ComputerSystems.Data ComputerSystems.VirtualWorld

variable {game later : Game} {sprite : Sprite} {context : TileIndex}

/-! ## Steps on a level -/

/-- The lists of a level lead to nodes of the level. -/
structure OnOwnLevel (game : Game) : Prop where
  closed : Closed (NodeOfLevel game.world.level) game.links
  bound : game.world.level < maxCreatures

theorem OnOwnLevel.same (own : OnOwnLevel game) (links : later.links = game.links)
    (level : later.world.level = game.world.level) : OnOwnLevel later := by
  refine ⟨?_, ?_⟩
  · rw [links, level]
    exact own.closed
  · rw [level]
    exact own.bound

/-- A program that goes on with the level. -/
theorem OnOwnLevel.touches {scope : Scope} {post : Unit → Game → Prop} {program : Play Unit} (own : OnOwnLevel game)
    (makes : Makes (Touch scope) program) (goes : Wlp program post game)
    (closed : ∀ later, post () later → Closed (NodeOfLevel game.world.level) later.links) :
    Wlp program (fun _ later => OnOwnLevel later) game := by
  apply (goes.and (makes game)).mono
  rintro _ later ⟨kept, steps⟩
  have level := Touches.level_eq steps
  refine ⟨?_, ?_⟩
  · rw [level]
    exact closed later kept
  · rw [level]
    exact own.bound

theorem OnOwnLevel.woven (own : OnOwnLevel game) : Woven game.world.level (fun _ => False) (board game) :=
  ⟨own.closed, fun _ => False.elim⟩

theorem LevelBegun.own {level : Nat} (begun : LevelBegun level game) (bound : level < maxCreatures) : OnOwnLevel game := by
  refine ⟨?_, ?_⟩
  · rw [begun.isLevel]
    exact begun.closed
  · rw [begun.isLevel]
    exact bound

theorem OnOwnLevel.scheduleRound (own : OnOwnLevel game) : OnOwnLevel game.scheduleRound :=
  own.same links_scheduleRound rests_scheduleRound.level

theorem OnOwnLevel.cancelRound (own : OnOwnLevel game) : OnOwnLevel game.cancelRound :=
  own.same links_cancelRound rests_cancelRound.level

theorem OnOwnLevel.again {poll : EffectPoll} {place : EffectAt} (own : OnOwnLevel game) :
    OnOwnLevel (game.again poll place context) := by
  obtain ⟨timers, same⟩ := @timerSchedule_frame game (.effect poll place context)
  rw [Game.again, same]
  exact own.same rfl rfl

theorem OnOwnLevel.advance {place : EffectAt} (own : OnOwnLevel game) : OnOwnLevel (game.advance place) := by
  refine own.same links_advance ?_
  rw [Game.advance]
  split
  · rw [world_setEffect]
  · rfl

/-- The move of a creature beyond the level does not end. -/
theorem wlp_spriteMoveCallback_own (own : OnOwnLevel game)
    (ends : completes (game.sprite sprite).effect = true → OfLevel game.world.level sprite) :
    Wlp (spriteMoveCallback sprite context) (fun _ later => OnOwnLevel later) game := by
  by_cases of : OfLevel game.world.level sprite
  · have ignores : Ignores (withOthers game.world.level ⟨fun _ => {}, fun _ => {}⟩) (spriteMoveCallback sprite context)
        (fun _ later => Woven game.world.level _ (board later)) game := ignores_spriteMoveCallback own.woven of
    have moves : Makes (Touch .whole) (spriteMoveCallback sprite context) := makes_spriteMoveCallback trivial trivial
    exact own.touches moves ignores.wlp fun _ woven => woven.closed
  · simp only [spriteMoveCallback, wlp_update_bind, wlp_state_bind]
    cases advance_cases sprite game with
    | inl active =>
      rw [if_pos active.1, wlp_update]
      exact own.advance.again
    | inr last => exact absurd (ends last.2.1) of

theorem wlp_attackCallback_own {attack : Attack} (own : OnOwnLevel game) :
    Wlp (attackCallback sprite attack context) (fun _ later => OnOwnLevel later) game := by
  rw [attackCallback, wlp_update]
  dsimp only
  split
  · exact own.advance.again
  · exact own.advance

/-! ## The player -/

/-- The item that is taken is of the level. -/
theorem wlp_takeItem_closed {node : Node} {level : Nat} (closed : Closed (NodeOfLevel level) game.links)
    (of : NodeOfLevel level node) :
    Wlp (takeItem node) (fun _ later => Closed (NodeOfLevel level) later.links) game := by
  apply wlp_takeItem_of
  · exact closed
  · intro _
    rw [storeItem, wlp_state_bind]
    split
    · rw [wlp_update]
      exact closed
    · exact wlp_halt _
  · intro now _ linked
    exact linked.listRemove (fun _ => linked.next of) fun _ => linked.previous of

theorem wlp_pickUp_closed {level : Nat} (closed : Closed (NodeOfLevel level) game.links) :
    Wlp (pickUp context) (fun _ later => Closed (NodeOfLevel level) later.links) game :=
  wlp_pickUp_of closed fun _ finds _ => wlp_takeItem_closed closed (findTile_ofLevel closed finds)

/-- `player_move_callback` but for the exit. -/
theorem wlp_playerMoveCallback_closed {level : Nat} (closed : Closed (NodeOfLevel level) game.links)
    (stays : ¬ LeavesLevel context game) :
    Wlp (playerMoveCallback context) (fun _ later => Closed (NodeOfLevel level) later.links) game := by
  have isPlayer : OfLevel level .player := trivial
  rw [← @links_advance game (.sprite .player)] at closed
  have relinks : Ignores (withOthers level ⟨fun _ => {}, fun _ => {}⟩) (relink .player)
      (fun _ later => ∃ links, later = { game.advance (.sprite .player) with links } ∧ Closed (NodeOfLevel level) links)
      (game.advance (.sprite .player)) := ignores_relink_inside closed isPlayer (fun _ => trivial) fun _ => id
  simp only [playerMoveCallback, wlp_update_bind, wlp_state_bind]
  split
  next ends =>
    apply Wlp.bind
    apply relinks.wlp.mono
    rintro _ _ ⟨links, rfl, linked⟩
    apply Wlp.bind
    apply wlp_playerLook.mono
    rintro _ _ ⟨terrain, rfl, exits⟩
    rw [wlp_state_bind]
    split
    -- an exit would lead to another level
    next leaves =>
      refine absurd ⟨(count_advance game).mp ends, ?_⟩ stays
      have isExit := (exits context).symm.trans leaves
      have terrain := @terrain_advance game (.sprite .player)
      simp only [terrain] at isExit
      exact isExit
    · exact wlp_pickUp_closed linked
  · rw [wlp_update]
    obtain ⟨timers, same⟩ := @timerSchedule_frame (game.advance (.sprite .player)) (.effect .playerMove (.sprite .player) context)
    rw [Game.again, same]
    exact closed

/-- The level goes on, or the next one has begun. -/
theorem wlp_playerMoveCallback_own (own : OnOwnLevel game) :
    Wlp (playerMoveCallback context) (fun _ later => OnOwnLevel later) game := by
  by_cases leaves : LeavesLevel context game
  · have ignores : Ignores (withOthers (nextLevel game.world.level) ⟨fun _ => {}, fun _ => {}⟩) (playerMoveCallback context)
        (fun _ later => LevelBegun (nextLevel game.world.level) later) game := ignores_leavesLevel own.closed leaves rfl
    exact ignores.wlp.mono fun _ _ begun => begun.own (bound_nextLevel own.bound)
  · have acts : (Scope.uncounted (· = Sprite.player)).sprite .player := rfl
    apply ((wlp_playerMoveCallback_closed own.closed leaves).and (wlp_playerMoveCallback acts trivial)).mono
    rintro _ later ⟨closed, (⟨goes, _⟩ | ⟨_, steps⟩)⟩
    · exact absurd goes leaves
    · have level := Touches.level_eq steps
      rw [← level] at closed
      exact ⟨closed, level ▸ own.bound⟩

theorem wlp_moveCommand_own {x y : Int} (own : OnOwnLevel game) :
    Wlp (moveCommand x y) (fun _ later => OnOwnLevel later) game := by
  have moves : Makes (Touch .whole) (moveCommand x y) := makes_moveCommand trivial trivial
  -- a move that starts is scheduled and does not end within the command
  have starts : ∀ x y, Wlp (startMove .playerMove .player x y)
      (fun started later => (∀ context, started ≠ .polls context) ∧ later.links = game.links) game := by
    intro x y
    have timerFits : ∀ context, GameTimer.fits (.effect .playerMove (.sprite .player) context) = true := fun _ => rfl
    rw [startMove, wlp_change]
    cases startMove_cases .player x y game timerFits with
    | inl refused =>
      rw [refused.1]
      exact ⟨fun _ => EffectStarted.noConfusion, congrArg Board.links refused.2⟩
    | inr sent =>
      rw [sent.1]
      exact ⟨fun _ => EffectStarted.noConfusion, congrArg Board.links sent.2.2⟩
  have same : Wlp (moveCommand x y) (fun _ later => later.links = game.links) game := by
    simp only [moveCommand, playerMove, wlp_state_bind]
    split
    · apply Wlp.bind
      rw [wlp_state_bind]
      split
      · exact (wlp_pure _).mpr ((wlp_pure _).mpr rfl)
      · apply Wlp.bind
        apply (starts _ _).mono
        rintro started later ⟨notPolls, same⟩
        cases started with
        | refused => exact (wlp_pure _).mpr ((wlp_pure _).mpr same)
        | scheduled => exact (wlp_pure _).mpr ((wlp_pure _).mpr same)
        | polls context => exact absurd rfl (notPolls context)
    · exact (wlp_pure _).mpr rfl
  exact own.touches moves same fun later same => same ▸ own.closed

theorem wlp_action_own (own : OnOwnLevel game) : Wlp action (fun _ later => OnOwnLevel later) game := by
  have attacks : Makes (Touch .whole) action := makes_action (fun _ => trivial) trivial trivial
  have closed : Wlp action (fun _ later => Closed (NodeOfLevel game.world.level) later.links) game := by
    rw [action, wlp_state_bind]
    split
    · apply Wlp.bind
      apply Wlp.look
      intro found finds
      cases found with
      | none => exact (wlp_pure _).mpr own.closed
      | some nearby =>
        apply Wlp.bind
        apply Wlp.look
        intro attack _
        cases attack with
        | none => exact (wlp_pure _).mpr own.closed
        | some attack =>
          have ignores : Ignores (withOthers game.world.level ⟨fun _ => {}, fun _ => {}⟩) (creatureAttack .player attack nearby)
              (fun _ later => Woven game.world.level _ (board later)) game :=
            ignores_creatureAttack own.woven trivial (spriteFindNearest_ofLevel own.closed finds)
          exact ignores.wlp.mono fun _ _ woven => woven.closed
    · exact (wlp_pure _).mpr own.closed
  exact own.touches attacks closed fun _ => id

/-! ## Rounds -/

/-- A round of creatures that have been initialized, and of no cleric who heals. -/
structure RoundKeeps (game : Game) : Prop where
  behind : ∀ i : CreatureIndex, 7 ≤ i.val → i.val ≤ game.world.level →
    has (game.flags (.creature i)) isDead = true ∨ (game.creatures i).stats.hp ≤ 0
  player : has game.character.player.stats.flags classCleric = false ∨ game.character.player.stats.hp ≤ 0

/-- What has to hold before a step: no move ends of a creature that is not of the level. -/
def KeepsToLevel (game : Game) (step : GameEvent × List (BitVec 32)) : Prop :=
  ∀ slot timer, step.1 = .fire slot → game.timers slot = .game timer →
    match timer with
    | .round => RoundKeeps game
    | .effect .spriteMove (.sprite sprite) _ =>
      completes (game.sprite sprite).effect = true → OfLevel game.world.level sprite
    | _ => True

/-- Who does not act in such a round. -/
def Behind (level : Nat) : Sprite → Prop
  | .player => True
  | .creature i => 7 ≤ i.val ∧ i.val ≤ level

theorem RoundKeeps.woven (keeps : RoundKeeps game) (own : OnOwnLevel game) :
    Woven game.world.level (Behind game.world.level) (board game) := by
  refine ⟨own.closed, fun sprite behind => ?_⟩
  cases sprite with
  | player =>
    cases keeps.player with
    | inl other => exact .inl other
    | inr spent => exact .inr (decide_eq_true spent)
  | creature i =>
    cases keeps.behind i behind.1 behind.2 with
    | inl dead => exact .inr dead
    | inr spent => exact .inl (decide_eq_true spent)

theorem wlp_gameRound_own (own : OnOwnLevel game) (keeps : RoundKeeps game) :
    Wlp gameRound (fun _ later => OnOwnLevel later) game := by
  have ignores : Ignores (withOthers game.world.level ⟨fun _ => {}, fun _ => {}⟩) gameRound
      (fun _ later => Closed (NodeOfLevel game.world.level) later.links) game :=
    ignores_gameRound rfl (keeps.woven own) trivial
  apply (ignores.wlp.and wlp_gameRound).mono
  rintro _ later ⟨closed, mid, steps, ends⟩
  have level : later.world.level = game.world.level := by
    rw [← Touches.level_eq steps]
    obtain rfl | rfl := ends
    · exact rests_scheduleRound.level
    · exact rests_cancelRound.level
  rw [← level] at closed
  exact ⟨closed, level ▸ own.bound⟩

/-! ## Runs -/

theorem wlp_event_own (own : OnOwnLevel game) (up : game.screenUp = true) {event : GameEvent} {draws : List (BitVec 32)}
    (keeps : KeepsToLevel game (event, draws)) : Wlp event.play (fun _ later => OnOwnLevel later) game := by
  apply wlp_event_of
  · exact fun _ _ => own
  · rintro typed rfl
    apply wlp_command_of
    · intro _
      have ignores : Ignores (withOthers 1 ⟨fun _ => {}, fun _ => {}⟩) gameStartCommand (fun _ later => LevelBegun 1 later) game :=
        ignores_gameStartCommand up
      exact ignores.wlp.mono fun _ _ begun => begun.own (by decide)
    · intro _
      rw [gamePause]
      split
      · exact own.cancelRound.same rfl rfl
      · exact own.scheduleRound.same rfl rfl
    · exact fun _ => wlp_action_own own
    · exact fun _ _ => wlp_moveCommand_own own
  · rintro slot timer rfl fires
    have keeps := keeps slot timer rfl fires
    have frees : ∀ mid, OnOwnLevel mid → OnOwnLevel (timerCancel (some slot) mid) := by
      intro mid own
      obtain ⟨timers, same⟩ := @timerCancel_frame mid (some slot)
      rw [same]
      exact own.same rfl rfl
    apply wlp_callback_of
    · rintro rfl
      exact (wlp_gameRound_own own keeps).mono fun _ later => frees later
    · rintro sprite context rfl
      exact (wlp_spriteMoveCallback_own own keeps).mono fun _ later => frees later
    · rintro context rfl
      exact (wlp_playerMoveCallback_own own).mono fun _ later => frees later
    · rintro sprite attack context rfl
      exact (wlp_attackCallback_own own).mono fun _ later => frees later
  · exact fun _ _ _ _ => own.same rfl rfl

theorem own_boot (nullTileNum : Int) (timers : Fin maxTimerTasks → Bool) : OnOwnLevel (boot nullTileNum timers) where
  closed := by
    constructor
    · rintro node after _ isNext
      cases isNext
    · rintro node before _ isPrevious
      cases isPrevious
  bound := (by decide : 0 < maxCreatures)

/-- All states of such a run are on their own level. -/
theorem own_of_play {steps : List (GameEvent × List (BitVec 32))} (own : OnOwnLevel game) (up : game.screenUp = true)
    (keeps : Throughout KeepsToLevel game steps) (runs : play game steps = .ok later) : OnOwnLevel later := by
  induction steps generalizing game with
  | nil =>
    obtain rfl : game = later := Except.ok.inj runs
    exact own
  | cons step steps ih =>
    obtain ⟨mid, first, rest⟩ := play_cons.mp runs
    exact ih ((wlp_event_own own up keeps.1).exec first) ((wlp_width up step.1).exec first).1 (keeps.2 mid first) rest

/-- A step that begins no level goes on with the one that there is. -/
theorem wlp_event_level {event : GameEvent} (onLevel : ¬ BeginsLevel event game) :
    Wlp event.play (fun _ later => later.world.level = game.world.level) game := by
  have touches : ∀ {program : Play Unit}, Makes (Touch .whole) program →
      Wlp program (fun _ later => later.world.level = game.world.level) game :=
    fun makes => (makes game).mono fun _ _ steps => Touches.level_eq steps
  apply wlp_event_of
  · exact fun _ _ => rfl
  · rintro typed rfl
    apply wlp_command_of
    · rintro rfl
      exact absurd (.inl rfl) onLevel
    · exact fun _ => rests_gamePause.level
    · exact fun _ => touches (makes_action (fun _ => trivial) trivial trivial)
    · exact fun _ _ => touches (makes_moveCommand trivial trivial)
  · rintro slot timer rfl fires
    have frees : ∀ mid, mid.world.level = game.world.level → (timerCancel (some slot) mid).world.level = game.world.level := by
      intro mid level
      obtain ⟨timers, same⟩ := @timerCancel_frame mid (some slot)
      rw [same]
      exact level
    apply wlp_callback_of
    · intro _
      apply wlp_gameRound.mono
      rintro _ later ⟨mid, steps, rfl | rfl⟩
      · exact frees _ (rests_scheduleRound.level.trans (Touches.level_eq steps))
      · exact frees _ (rests_cancelRound.level.trans (Touches.level_eq steps))
    · intro sprite context _
      exact (touches (makes_spriteMoveCallback trivial trivial)).mono fun _ later => frees later
    · rintro context rfl
      have acts : (Scope.uncounted (· = Sprite.player)).sprite .player := rfl
      apply (wlp_playerMoveCallback acts trivial).mono
      rintro _ later (⟨leaves, _⟩ | ⟨_, steps⟩)
      · exact absurd (.inr ⟨slot, _, context, rfl, fires, leaves⟩) onLevel
      · exact frees _ (Touches.level_eq steps)
    · intro sprite attack context _
      exact (touches (makes_attackCallback trivial trivial)).mono fun _ later => frees later
  · exact fun _ _ _ _ => rfl

/-- The level that a step begins. -/
def levelBegun (event : GameEvent) (game : Game) : Nat :=
  if event = .command .gameStart then 1 else nextLevel game.world.level

theorem ignores_begins {others : OtherCreatures} {event : GameEvent} (own : OnOwnLevel game) (up : game.screenUp = true)
    (begins : BeginsLevel event game) :
    Ignores (withOthers (levelBegun event game) others) event.play
      (fun _ later => LevelBegun (levelBegun event game) later) game := by
  obtain rfl | ⟨slot, data, context, rfl, fires, leaves⟩ := begins
  · exact ignores_gameStartCommand up
  · refine .state_bind rfl ?_
    rw [fires]
    cases data with
    | action _ _ => exact .bind (.halt _)
    | sprite sprite =>
      cases sprite with
      | player =>
        refine .bind ((ignores_leavesLevel own.closed leaves rfl).mono fun _ later begun => .update rfl ?_)
        exact ⟨begun.isLevel, begun.closed, begun.setUp⟩
      | creature _ => exact .bind (.halt _)

/-! ## What rounds and starts use -/

/-- A creature that acts when its turn comes in a round. -/
def ActsInRound (game : Game) (draws : List (BitVec 32)) (i : CreatureIndex) : Prop :=
  ∃ earlier rest mid left, creaturesOf game.world.level (game, draws) = .ok (earlier ++ i :: rest, game, draws) ∧
    Program.each creatureTurn earlier (game, draws) = .ok ((), mid, left) ∧
    has (mid.flags (.creature i)) isDead = false ∧ 0 < (mid.creatures i).stats.hp

/-- A round that comes to a cleric's counter, the element behind the last creature of the level. -/
def ReachesCounter (game : Game) (draws : List (BitVec 32)) : Prop :=
  ∃ creatures mid left, creaturesOf game.world.level (game, draws) = .ok (creatures, game, draws) ∧
    Program.each creatureTurn creatures (game, draws) = .ok ((), mid, left) ∧
    0 < mid.character.player.stats.hp ∧ has mid.character.player.stats.flags classCleric = true

/-- A round uses no element behind the creatures of the level, and those that act have been set up
    when the level began. -/
structure RoundOnLevel (begun game : Game) (draws : List (BitVec 32)) : Prop where
  level : game.world.level = begun.world.level
  bound : game.world.level < maxCreatures
  setUp : ∀ i, ActsInRound game draws i → SetUp (begun.creatures i)
  own : ∀ others, Ignores (withOthers game.world.level others) gameRound (fun _ _ => True) game
  counter : ¬ ReachesCounter game draws

/-- A step that begins a level uses no element behind its creatures. -/
structure BeginsOnLevel (event : GameEvent) (game : Game) : Prop where
  bound : levelBegun event game < maxCreatures
  own : ∀ others, Ignores (withOthers (levelBegun event game) others) event.play
    (fun _ later => later.world.level = levelBegun event game) game

/-- The rounds of a level that has begun. -/
def RoundsOnLevel (begun game : Game) (step : GameEvent × List (BitVec 32)) : Prop :=
  ∀ slot, step.1 = .fire slot → game.timers slot = .game .round → RoundOnLevel begun game step.2

theorem creaturesOf_inv {level : Nat} {creatures : List CreatureIndex} {draws : List (BitVec 32)}
    (counts : creaturesOf level (game, draws) = .ok (creatures, game, draws)) (i : CreatureIndex) :
    i ∈ creatures ↔ i.val ≤ level := by
  have members : Wlp (creaturesOf level) (fun creatures _ => ∀ i, i ∈ creatures ↔ i.val ≤ level) game :=
    wlp_creaturesOf fun _ members => members
  exact members.returns counts i

/-- Who rests does so until its turn. -/
theorem wlp_turns_woven {creatures : List CreatureIndex} {idle : Sprite → Prop}
    (of : ∀ i ∈ creatures, i.val ≤ game.world.level) (woven : Woven game.world.level idle (board game)) :
    Wlp (Program.each creatureTurn creatures) (fun _ later => Woven game.world.level idle (board later)) game := by
  have ignores : Ignores (withOthers game.world.level ⟨fun _ => {}, fun _ => {}⟩) (Program.each creatureTurn creatures)
      (fun _ later => Woven game.world.level idle (board later)) game := ignores_turns of woven
  exact ignores.wlp

theorem RoundKeeps.acts_early {draws : List (BitVec 32)} {i : CreatureIndex} (keeps : RoundKeeps game)
    (own : OnOwnLevel game) (acts : ActsInRound game draws i) : i.val ≤ game.world.level ∧ i.val < 7 := by
  obtain ⟨earlier, rest, mid, left, counts, turns, living, conscious⟩ := acts
  have members := creaturesOf_inv counts
  have plays := (members i).mp (by simp)
  have of : ∀ j ∈ earlier, j.val ≤ game.world.level := by
    intro j isEarlier
    exact (members j).mp (List.mem_append_left _ isEarlier)
  have woven := (wlp_turns_woven of (keeps.woven own)).returns turns
  refine ⟨plays, ?_⟩
  by_contra late
  cases woven.rested (.creature i) ⟨Nat.not_lt.mp late, plays⟩ with
  | inl spent => exact absurd (of_decide_eq_true spent) (Int.not_le.mpr conscious)
  | inr dead => exact absurd (dead.symm.trans living) (by simp)

theorem RoundKeeps.no_counter {draws : List (BitVec 32)} (keeps : RoundKeeps game) (own : OnOwnLevel game) :
    ¬ ReachesCounter game draws := by
  rintro ⟨creatures, mid, left, counts, turns, conscious, cleric⟩
  have woven := (wlp_turns_woven (fun j => (creaturesOf_inv counts j).mp) (keeps.woven own)).returns turns
  cases woven.rested .player trivial with
  | inl other => exact absurd (other.symm.trans cleric) (by simp)
  | inr spent => exact absurd (of_decide_eq_true spent) (Int.not_le.mpr conscious)

/-- Along a level, all rounds are on it. -/
theorem rounds_of_level {begun : Game} {steps : List (GameEvent × List (BitVec 32))} (own : OnOwnLevel game)
    (up : game.screenUp = true) (level : game.world.level = begun.world.level)
    (setUp : ∀ i, i.val ≤ begun.world.level → i.val < 7 → SetUp (begun.creatures i))
    (keeps : Throughout KeepsToLevel game steps)
    (onLevel : Throughout (fun now step => ¬ BeginsLevel step.1 now) game steps) :
    Throughout (RoundsOnLevel begun) game steps := by
  induction steps generalizing game with
  | nil => trivial
  | cons step steps ih =>
    constructor
    · intro slot fires isRound
      have keeps : RoundKeeps game := keeps.1 slot .round fires isRound
      refine ⟨level, own.bound, fun i acts => ?_, fun others => ?_, keeps.no_counter own⟩
      · obtain ⟨plays, early⟩ := keeps.acts_early own acts
        exact setUp i (level ▸ plays) early
      · exact (ignores_gameRound rfl (keeps.woven own) trivial).mono fun _ _ _ => trivial
    · intro mid runs
      have sameLevel := (wlp_event_level onLevel.1).exec runs
      exact ih ((wlp_event_own own up keeps.1).exec runs) ((wlp_width up step.1).exec runs).1 (sameLevel.trans level)
        (keeps.2 mid runs) (onLevel.2 mid runs)

/-! ## Creatures that are never set up -/

section NoWorld

variable {other : Sprite} {place : EffectAt} {i : CreatureIndex}

theorem currentWorld_setSprite {value : SpriteTile} (same : value.currentWorld = (game.sprite sprite).currentWorld) :
    ((game.setSprite sprite value).sprite other).currentWorld = (game.sprite other).currentWorld := by
  rw [sprite_setSprite]
  split
  next isIt => rw [isIt, same]
  · rfl

theorem currentWorld_setEffect {effect : EffectTile} :
    ((game.setEffect place effect).sprite other).currentWorld = (game.sprite other).currentWorld := by
  cases place with
  | sprite sprite => exact currentWorld_setSprite rfl
  | action sprite attack =>
    cases attack with
    | first => exact currentWorld_setSprite rfl
    | second => exact currentWorld_setSprite rfl

theorem currentWorld_tileEffectStart {x y : Int} :
    ((tileEffectStart place x y game).2.sprite other).currentWorld = (game.sprite other).currentWorld := by
  obtain same | ⟨effect, _, _, sprites⟩ := tileEffectStart_cases place x y game
  · rw [same]
  · rw [sprites, currentWorld_setEffect]

/-- No step gives a world to a creature from the eighth on. -/
theorem Touch.noWorld {scope : Scope} (touch : Touch scope game later) (late : 7 ≤ i.val)
    (without : (game.sprite (.creature i)).currentWorld = false) : (later.sprite (.creature i)).currentWorld = false := by
  cases touch with
  | other same => rwa [sprite_congr same.creatures same.player]
  | sprite _ same => rwa [currentWorld_setSprite same.world]
  | @advance place _ =>
    rw [Game.advance]
    split
    · rwa [currentWorld_setEffect]
    · exact without
  | place _ _ => rwa [Game.place, currentWorld_setEffect]
  | @renew j _ early =>
    have apart : Sprite.creature i ≠ .creature j := by
      rintro ⟨rfl⟩
      omega
    have kept : (game.initializeSprite (.creature j)).sprite (.creature i) = game.sprite (.creature i) :=
      sprite_setSprite_of_ne apart
    rwa [kept]
  | enter _ =>
    have kept : (game.setSprite .player { game.character.player with currentWorld := true }).sprite (.creature i) =
        game.sprite (.creature i) := sprite_setSprite_of_ne Sprite.noConfusion
    rwa [kept]
  | score _ => exact without
  | again _ _ => rwa [sprite_again]
  | @start sprite poll _ _ _ _ _ =>
    have same : ((game.sprite sprite).prepareMove poll).currentWorld = (game.sprite sprite).currentWorld := rfl
    rwa [currentWorld_tileEffectStart, currentWorld_setSprite same]
  | launch _ _ => rwa [Game.launch, currentWorld_tileEffectStart, currentWorld_setEffect]

theorem noWorld_of_play {nullTileNum : Int} {timers : Fin maxTimerTasks → Bool} {steps : List (GameEvent × List (BitVec 32))}
    (runs : play (boot nullTileNum timers) steps = .ok game) (late : 7 ≤ i.val) :
    (game.creatures i).currentWorld = false := by
  have kept : ∀ now later, Change True now later → (now.sprite (.creature i)).currentWorld = false →
      (later.sprite (.creature i)).currentWorld = false := by
    intro now later change without
    cases change with
    | touch touch => exact touch.noWorld late without
    | clock same => rwa [sprite_congr same.creatures same.player]
    | openGrid _ => exact without
    | enroll _ => exact without
  exact play_keeps kept rfl runs

/-- So whenever one of them acts, it has not been set up. -/
theorem not_setUp_of_late {nullTileNum : Int} {timers : Fin maxTimerTasks → Bool}
    {steps : List (GameEvent × List (BitVec 32))} {begun : Game} {draws : List (BitVec 32)}
    (runs : play (boot nullTileNum timers) steps = .ok begun) (late : 7 ≤ i.val) (acts : ActsInRound game draws i) :
    ¬ RoundOnLevel begun game draws := by
  intro round
  exact absurd ((round.setUp i acts).world.symm.trans (noWorld_of_play runs late)) (by simp)

end NoWorld

/-- In every run that goes well, a level that begins and all of its rounds use only creatures of the
    level, and those that act have been set up. -/
theorem rounds_are_on_level {nullTileNum : Int} {timers : Fin maxTimerTasks → Bool}
    {past part : List (GameEvent × List (BitVec 32))} {begin : GameEvent × List (BitVec 32)} {before : Game}
    (keeps : Throughout KeepsToLevel (boot nullTileNum timers) (past ++ begin :: part))
    (reached : play (boot nullTileNum timers) past = .ok before) (begins : BeginsLevel begin.1 before) :
    BeginsOnLevel begin.1 before ∧ ∀ begun, gameStep before begin = .ok begun →
      Throughout (fun now step => ¬ BeginsLevel step.1 now) begun part → Throughout (RoundsOnLevel begun) begun part := by
  obtain ⟨keepsPast, keepsRest⟩ := throughout_append.mp keeps
  obtain ⟨_, keepsPart⟩ := keepsRest before reached
  have own := own_of_play (own_boot nullTileNum timers) rfl keepsPast reached
  have up := (width_of_play reached).1
  have bound : levelBegun begin.1 before < maxCreatures := by
    rw [levelBegun]
    split
    · decide
    · exact bound_nextLevel own.bound
  refine ⟨⟨bound, fun others => ?_⟩, fun begun runs onLevel => ?_⟩
  · exact (ignores_begins own up begins).mono fun _ _ begun => begun.isLevel
  · have ignores : Ignores (withOthers (levelBegun begin.1 before) ⟨fun _ => {}, fun _ => {}⟩) begin.1.play
        (fun _ later => LevelBegun (levelBegun begin.1 before) later) before := ignores_begins own up begins
    have level := ignores.wlp.exec runs
    refine rounds_of_level (level.own bound) ((wlp_width up begin.1).exec runs).1 rfl ?_ (keepsPart begun runs) onLevel
    rw [level.isLevel]
    exact level.setUp

/-- The first round of a wizard on the meadow, in which a bat acts. -/
theorem rounds_are_on_level_on_meadow :
    ∃ started, gameStep (boot 0 fun _ => false) (.command .gameStart, meadowDraws) = .ok started ∧
      ActsInRound started [] ⟨0, by decide⟩ ∧ RoundOnLevel started started [] := by
  have passes : (gameStep (boot 0 fun _ => false) (.command .gameStart, meadowDraws)).toOption.any (fun started =>
      decide (started.world.level = 1 ∧ started.timers (timerTask 0) = .game .round ∧
        has started.character.player.stats.flags classCleric = false ∧
        has (started.flags (.creature ⟨0, by decide⟩)) isDead = false ∧
        0 < (started.creatures ⟨0, by decide⟩).stats.hp)) = true := by
    delta gameStep GameEvent.play Command.run gameStartCommand
    rw [worldCreateRandom_evenly]
    decide +kernel
  obtain ⟨started, starts, checked⟩ := exists_of_any passes
  obtain ⟨level, isRound, noCleric, living, conscious⟩ := of_decide_eq_true checked
  have acts : ActsInRound started [] ⟨0, by decide⟩ := by
    refine ⟨[], [⟨1, by decide⟩], started, [], ?_, rfl, living, conscious⟩
    rw [level]
    rfl
  have round : KeepsToLevel started (.fire (timerTask 0), []) := by
    rintro slot timer ⟨rfl⟩ fires
    obtain rfl : GameTimer.round = timer := TimerSlot.game.inj (isRound.symm.trans fires)
    refine ⟨fun i late plays => ?_, .inl noCleric⟩
    omega
  have start : KeepsToLevel (boot 0 fun _ => false) (.command .gameStart, meadowDraws) := by
    rintro slot timer ⟨⟩
  have onLevel : ¬ BeginsLevel (.fire (timerTask 0)) started := by
    rintro (isStart | ⟨slot, data, context, ⟨rfl⟩, fires, _⟩)
    · cases isStart
    · cases isRound.symm.trans fires
  have keeps : Throughout KeepsToLevel (boot 0 fun _ => false)
      ([] ++ (.command .gameStart, meadowDraws) :: [(.fire (timerTask 0), [])]) := by
    refine ⟨start, fun mid runs => ?_⟩
    obtain rfl : started = mid := Except.ok.inj (starts.symm.trans runs)
    exact ⟨round, fun _ _ => trivial⟩
  have holds := (rounds_are_on_level keeps rfl (.inl rfl)).2 started starts ⟨onLevel, fun _ _ => trivial⟩
  exact ⟨started, starts, acts, holds.1 (timerTask 0) rfl isRound⟩

/-- The random numbers of a start on a meadow with a cleric. -/
def clericDraws : List (BitVec 32) :=
  meadowTerrain ++ [0, 0, 0, 0, 0, 0, 0, 0, 0, 0, 0, 0, 5, 5, 5, 0] ++ [50, 10, 10, 7, 8, 10, 1, 1, 12, 10]

/-- The first round of a cleric counts in the element behind the two creatures of the level. -/
theorem cleric_round_is_off_level :
    ∃ started, gameStep (boot 0 fun _ => false) (.command .gameStart, clericDraws) = .ok started ∧
      started.timers (timerTask 0) = .game .round ∧ ¬ RoundOnLevel started started [] := by
  have passes : (gameStep (boot 0 fun _ => false) (.command .gameStart, clericDraws)).toOption.any (fun started =>
      decide (started.world.level = 1 ∧ started.timers (timerTask 0) = .game .round) &&
        (Program.exec gameRound [] (withOthers 1 ⟨fun _ => { stats := { scratch := 5 } }, fun _ => {}⟩ started)).toOption.any
          fun later => decide ((later.creatures ⟨2, by decide⟩).stats.scratch ≠ 5)) = true := by
    delta gameStep GameEvent.play Command.run gameStartCommand
    rw [worldCreateRandom_evenly]
    decide +kernel
  obtain ⟨started, starts, checked⟩ := exists_of_any passes
  rw [Bool.and_eq_true] at checked
  obtain ⟨level, isRound⟩ := of_decide_eq_true checked.1
  obtain ⟨later, runs, counts⟩ := exists_of_any checked.2
  refine ⟨started, starts, isRound, fun onLevel => of_decide_eq_true counts ?_⟩
  have own := onLevel.own ⟨fun _ => { stats := { scratch := 5 } }, fun _ => {}⟩ []
  rw [level] at own
  rw [Program.exec] at runs
  cases ran : gameRound (started, []) with
  | error stop =>
    rw [ran] at own
    simp only at own
    rw [own] at runs
    cases runs
  | ok result =>
    rw [ran] at own
    simp only at own
    rw [own.1] at runs
    obtain rfl := Except.ok.inj runs
    rfl

end ComputerSystems.Verified
