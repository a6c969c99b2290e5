import ComputerSystems.Verified.CreatureDeaths

/-! # What a start sets up

`game_start` gives the first seven creatures of every level a world and a bitmap, and clears
their effects and actions.
-/

namespace ComputerSystems.Verified

open ComputerSystems.Data ComputerSystems.VirtualWorld

variable {game : Game} {i j : CreatureIndex}

/-! ## Creatures that are set up -/

/-- The effect of an action that has not been used. -/
structure ActionCleared (effect : EffectTile) : Prop where
  bitmap : effect.tile.bitmap = some .equipment
  flags : effect.tile.flags = isVisible
  count : effect.count = 0
  total : effect.total = 0
  locationX : effect.locationX = 0
  destinationX : effect.destinationX = 0

/-- A creature with a world and a bitmap, which neither moves nor attacks. -/
structure SetUp (value : SpriteTile) : Prop where
  world : value.currentWorld = true
  bitmap : value.effect.tile.bitmap = some .creatures
  count : value.effect.count = 0
  arrivedX : value.effect.locationX = value.effect.destinationX
  arrivedY : value.effect.locationY = value.effect.destinationY
  actions : ∀ attack, ActionCleared (value.action attack).effect
  scratch : value.stats.scratch = 0

namespace SetUp

variable {value : SpriteTile}

theorem initialized : SetUp (spriteInitialize value) := by
  refine ⟨rfl, rfl, rfl, rfl, rfl, fun attack => ?_, rfl⟩
  cases attack with
  | first => exact ⟨rfl, rfl, rfl, rfl, rfl, rfl⟩
  | second => exact ⟨rfl, rfl, rfl, rfl, rfl, rfl⟩

theorem assign {kind : CreatureKind} (setUp : SetUp value) : SetUp (kind.assign value) := by
  refine ⟨setUp.world, setUp.bitmap, setUp.count, setUp.arrivedX, setUp.arrivedY, fun attack => ?_, setUp.scratch⟩
  have cleared := setUp.actions attack
  cases attack with
  | first => exact ⟨cleared.bitmap, cleared.flags, cleared.count, cleared.total, cleared.locationX, cleared.destinationX⟩
  | second => exact cleared

theorem placed {x y : Int} (setUp : SetUp value) :
    SetUp { value with effect := { value.effect with locationX := x, destinationX := x, locationY := y, destinationY := y } } :=
  ⟨setUp.world, setUp.bitmap, setUp.count, rfl, rfl, setUp.actions, setUp.scratch⟩

end SetUp

/-! ## The creation of a level -/

theorem wlp_appendAt {node : Node} {tile : Option TileIndex} :
    Wlp (appendAt node tile) (fun _ later => ∃ links, later = { game with links }) game := by
  cases tile with
  | none => exact wlp_halt _
  | some tile => exact wlp_append

/-- One of the first seven is initialized. -/
theorem wlp_createCreature_setUp (early : i.val < 7) :
    Wlp (createCreature i) (fun _ later => SetUp (later.creatures i)) game := by
  rw [createCreature]
  apply Wlp.bind
  apply Wlp.draw
  intro roll
  rw [wlp_update_bind, if_pos early, wlp_update_bind, wlp_state_bind]
  apply Wlp.bind
  apply Wp.wlp
  apply wp_randomPlace
  intro x y _
  rw [wlp_update_bind, wlp_state_bind]
  apply wlp_appendAt.mono
  rintro _ _ ⟨links, rfl⟩
  have initialized : (game.initializeSprite (.creature i)).creatures i = spriteInitialize (game.creatures i) :=
    Function.update_self ..
  have assigned : ∀ now : Game, (now.setSprite (.creature i) ((creatureKind i roll).assign (now.creatures i))).creatures i =
      (creatureKind i roll).assign (now.creatures i) := fun _ => Function.update_self ..
  have placed : ∀ now : Game, (now.place (.creature i) x y).creatures i = { now.creatures i with
      effect := { (now.creatures i).effect with locationX := x, destinationX := x, locationY := y, destinationY := y } } :=
    fun _ => Function.update_self ..
  change SetUp ((Game.place (.creature i) x y _).creatures i)
  rw [placed]
  apply SetUp.placed
  change SetUp ((Game.setSprite (.creature i) _ _).creatures i)
  rw [assigned, initialized]
  exact SetUp.initialized.assign

theorem wlp_createCreature_keeps (setUp : SetUp (game.creatures i)) (early : i.val < 7) :
    Wlp (createCreature j) (fun _ later => SetUp (later.creatures i)) game := by
  by_cases same : j = i
  · subst same
    exact wlp_createCreature_setUp early
  · have creates : Makes (Touch (.uncounted (· = .creature j))) (createCreature j) := makes_createCreature rfl
    apply (creates game).mono
    intro _ later steps
    have outside : ¬ (Scope.uncounted (· = Sprite.creature j)).sprite (.creature i) := by
      intro isIt
      exact same (Sprite.creature.inj isIt).symm
    have kept : later.creatures i = game.creatures i := Touches.sprite_eq steps outside
    rw [kept]
    exact setUp

theorem wlp_creatures_setUp {creatures : List CreatureIndex} (isIn : i ∈ creatures) (early : i.val < 7) :
    Wlp (Program.each createCreature creatures) (fun _ later => SetUp (later.creatures i)) game := by
  induction creatures generalizing game with
  | nil => cases isIn
  | cons head rest ih =>
    apply Wlp.bind
    cases isIn with
    | head =>
      apply (wlp_createCreature_setUp early).mono
      intro _ created setUp
      exact Wlp.each setUp fun j _ now setUp => wlp_createCreature_keeps setUp early
    | tail _ isRest =>
      have creates : Makes (Touch .quiet) (createCreature head) := makes_createCreature trivial
      exact (creates game).mono fun _ _ _ => ih isRest

/-- `game_start` sets up the first seven creatures, on every level. -/
theorem wlp_gameStart_setUp (plays : i.val ≤ game.world.level) (early : i.val < 7) :
    Wlp gameStart (fun _ later => SetUp (later.creatures i)) game := by
  have keeps : ∀ {scope : Scope} {now later : Game}, ¬ scope.sprite (.creature i) → SetUp (now.creatures i) →
      Touches scope now later → SetUp (later.creatures i) := by
    intro scope now later outside setUp steps
    have kept : later.creatures i = now.creatures i := Touches.sprite_eq steps outside
    rw [kept]
    exact setUp
  have leaves : Makes (Touch (.uncounted (· = .player))) createExit := makes_createExit
  have places : Makes (Touch (.uncounted (· = .player))) placePlayer := makes_placePlayer rfl
  have looks : Makes (Touch (.uncounted (· = .player))) playerLook := makes_playerLook
  have outside : ¬ (Scope.uncounted (· = Sprite.player)).sprite (.creature i) := Sprite.noConfusion
  simp only [gameStart, wlp_state_bind]
  apply Wlp.bind
  apply wlp_creaturesOf
  intro creatures members
  apply Wlp.bind
  apply (wlp_creatures_setUp ((members i).mpr plays) early).mono
  intro _ created setUp
  refine leaves.wlp_bind fun _ left toLeft => ?_
  refine places.wlp_bind fun _ placed toPlaced => ?_
  refine looks.wlp_bind fun _ last toLast => ?_
  rw [wlp_update]
  obtain ⟨timers, same⟩ := @timerSchedule_frame last .round
  simp only [Game.scheduleRound, same]
  exact keeps outside setUp (toLeft.trans (toPlaced.trans toLast))

end ComputerSystems.Verified
