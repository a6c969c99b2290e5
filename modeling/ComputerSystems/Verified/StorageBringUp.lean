import ComputerSystems.Usb.StorageConfiguration
import ComputerSystems.Verified.BlockOperations

/-! # The order of the configuration commands

`bringUpStep` is the protocol by which a device is brought up: `INQUIRY`, `TEST UNIT
READY`, `REQUEST SENSE` and `READ CAPACITY`, each repeated until it has passed, and
then the device can be used.  `configure_complete` follows it with the counter
`configurationState`, which it decrements before and increments after a command
that is repeated.

This works as long as every call is the answer of a command.  The first one is not:
its context is the host, and a byte of the host decides whether the counter starts
below zero, where no command is sent and nothing follows
(`storage_bringUp_iff`).
-/

namespace ComputerSystems.Verified

open ComputerSystems.System ComputerSystems.Usb ComputerSystems.Data

/-! ## The protocol -/

inductive ScsiStep where
  | inquiry
  | testUnitReady
  | requestSense
  | readCapacity
deriving DecidableEq

def ScsiStep.request : ScsiStep → Command
  | .inquiry => Usb.inquiry
  | .testUnitReady => Usb.testUnitReady
  | .requestSense => Usb.requestSense
  | .readCapacity => Usb.readCapacity

/-- The state in which `configure_complete` sends the command of a step. -/
def ScsiStep.state : ScsiStep → Int
  | .inquiry => stateInquiry
  | .testUnitReady => stateTestStart
  | .requestSense => stateTestEnd
  | .readCapacity => stateReadCapacity

/-- Where a device is: a command is to be sent next, or waits for its status; all
    commands have passed; the device can be used; or it is not supported. -/
inductive BringUpPhase where
  | due (step : ScsiStep)
  | awaiting (step : ScsiStep)
  | answered
  | up
  | unsupported

/-- The phase after a command has passed. -/
def ScsiStep.passed : ScsiStep → BringUpPhase
  | .inquiry => .due .testUnitReady
  | .testUnitReady => .due .requestSense
  | .requestSense => .due .readCapacity
  | .readCapacity => .answered

/-- Actions of the driver that neither start nor end a command. -/
def StorageAction.between : StorageAction → Bool
  | .start _ _ _ => false
  | .complete _ _ => false
  | _ => true

/-- The phase after a driver action, `none` if it is out of order. -/
def driverPhase : BringUpPhase → StorageAction → Option BringUpPhase
  | .due step, .start request _ starts =>
    if request = step.request ∧ starts = true then some (.awaiting step) else none
  | .awaiting step, .complete _ csw =>
    -- a command that has not passed is due again
    some (if csw.status = cswStatusPassed then step.passed else .due step)
  | phase, action => if StorageAction.between action then some phase else none

/-- The device may turn out not to be supported after the first and the last command. -/
def unsupportedPhase : BringUpPhase → Option BringUpPhase
  | .due .testUnitReady => some .unsupported
  | .answered => some .unsupported
  | _ => none

def usedPhase : BringUpPhase → Option BringUpPhase
  | .answered => some .up
  | _ => none

/-- The phase after an action, `none` if the action is out of order. -/
def bringUpStep (phase : BringUpPhase) : ConfigurationAction → Option BringUpPhase
  | .driver action => driverPhase phase action
  | .branch state => if stateInquiry ≤ state ∧ state ≤ stateFinished then some phase else none
  | .unsupported _ => unsupportedPhase phase
  | .deviceComplete _ => some phase
  | .ms1 => usedPhase phase

/-- The driver waits for the status of a command, or has brought the device up, or
    has given up a device that is not supported. -/
def Settled (config : Configuration) : BringUpPhase → Prop
  | .awaiting _ => config.outstanding ≠ [] ∧ config.ms1 = false
  | .up => config.ms1 = true
  | .unsupported => config.ms1 = false
  | _ => False

/-- What happened so far follows the protocol, and the driver has not stopped. -/
structure FollowsProtocol (config : Configuration) (phase : BringUpPhase) : Prop where
  ordered : config.log.foldlM bringUpStep (.due .inquiry) = some phase
  states : stateInquiry ≤ config.configurationState ∧ config.configurationState ≤ stateFinished
  settled : Settled config phase

/-- The device answers: every transfer starts, and the status wrapper of a command is
    valid, with any status. -/
def AnswersStatus (config : Configuration) (event : ConfigurationEvent) : Prop :=
  event.starts = true ∧
    (config.device.commandState = stateCmdFinished →
      event.csw.signature = cswSignature ∧ event.csw.tag = config.device.tag)

/-! ## One call of `configure_complete` -/

/-- `configure_complete` is to send the command that is due, or to finish. -/
structure ReadyFor (config : Configuration) (phase : BringUpPhase) : Prop where
  idle : config.device.commandState = stateCbwTransfer
  outstanding : config.outstanding = []
  unset : config.ms1 = false
  state : (∃ step, phase = .due step ∧ config.configurationState = step.state) ∨
    (phase = .answered ∧ config.configurationState = stateFinished)

/-- The driver after a call. -/
inductive Serves (config : Configuration) : BringUpPhase → Prop where
  | awaiting (step : ScsiStep) (state : config.configurationState = step.state + 1)
      (busy : config.device.commandState ≠ stateCbwTransfer)
      (bound : config.device.commandState ≤ stateCmdFinished)
      (routine : config.device.commandComplete = some .configureComplete)
      (outstanding : config.outstanding.length = 1) (unset : config.ms1 = false) :
      Serves config (.awaiting step)
  | up (state : config.configurationState = stateFinished) (outstanding : config.outstanding = [])
      (set : config.ms1 = true) : Serves config .up
  | unsupported (state : stateInquiry ≤ config.configurationState ∧ config.configurationState ≤ stateFinished)
      (outstanding : config.outstanding = []) (unset : config.ms1 = false) : Serves config .unsupported

theorem ScsiStep.state_range (step : ScsiStep) :
    stateInquiry ≤ step.state ∧ step.state + 1 ≤ stateFinished := by
  cases step <;> decide

theorem Serves.follows {config : Configuration} {phase : BringUpPhase} (serves : Serves config phase)
    (ordered : config.log.foldlM bringUpStep (.due .inquiry) = some phase) : FollowsProtocol config phase := by
  cases serves with
  | awaiting step state busy bound routine outstanding unset =>
    have range := step.state_range
    refine ⟨ordered, by omega, ?_, unset⟩
    intro none
    simp [none] at outstanding
  | up state outstanding set => exact ⟨ordered, by rw [state]; decide, set⟩
  | unsupported state outstanding unset => exact ⟨ordered, state, unset⟩

/-- What is appended to the log leads to a phase that the driver afterwards serves. -/
def Proceeds (config : Configuration) (phase : BringUpPhase) (next : Configuration) : Prop :=
  ∃ actions later, next.log = config.log ++ actions ∧ actions.foldlM bringUpStep phase = some later ∧
    Serves next later

section Calls

variable {config : Configuration} {phase : BringUpPhase} {step : ScsiStep}

/-- A command that is due is accepted. -/
theorem sendCommand_proceeds (idle : config.device.commandState = stateCbwTransfer)
    (outstanding : config.outstanding = []) (unset : config.ms1 = false)
    (state : config.configurationState = step.state) (complete : step.request.complete = .configureComplete)
    (failure : String) : Proceeds config (.due step) (sendCommand step.request failure true config) := by
  let transfer := cbwTransfer step.request (config.device.tag + 1)
  have sent : sendCommand step.request failure true config =
      { config with
        device := { config.device with
          tag := config.device.tag + 1, commandComplete := some .configureComplete
          commandIn := step.request.isInEndpoint, commandBuffer := step.request.buffer
          commandBufferLen := step.request.bufLen, commandState := stateDataTransfer }
        configurationState := step.state + 1
        outstanding := [transfer]
        log := config.log ++ [.driver (.start step.request transfer true)] } := by
    simp only [sendCommand, command, idle, if_true, Configuration.absorb, complete, state, outstanding]
    rfl
  rw [sent]
  refine ⟨[.driver (.start step.request transfer true)], .awaiting step, rfl, ?_, ?_⟩
  · simp [bringUpStep, driverPhase]
  · exact .awaiting step rfl (by simp [stateDataTransfer, stateCbwTransfer])
      (by simp [stateDataTransfer, stateCmdFinished]) rfl rfl unset

theorem finishConfiguration_proceeds (ready : ReadyFor config .answered) :
    Proceeds config .answered (finishConfiguration config) := by
  have state : config.configurationState = stateFinished := by
    obtain ⟨step, due, -⟩ | ⟨-, state⟩ := ready.state
    · cases due
    · exact state
  have range : stateInquiry ≤ config.configurationState ∧ config.configurationState ≤ stateFinished := by
    rw [state]
    decide
  simp only [finishConfiguration]
  split_ifs
  · exact ⟨[_], .unsupported, rfl, rfl, .unsupported range ready.outstanding ready.unset⟩
  · exact ⟨[_], .unsupported, rfl, rfl, .unsupported range ready.outstanding ready.unset⟩
  · cases registered : config.complete with
    | none =>
      simp only [Configuration.note]
      exact ⟨[_, .ms1], .up, List.append_assoc _ _ _, rfl, .up state ready.outstanding rfl⟩
    | some complete =>
      simp only [Configuration.note, List.append_assoc]
      exact ⟨[_, .deviceComplete complete, .ms1], .up, rfl, rfl, .up state ready.outstanding rfl⟩

/-- The branch of the state sends the command that is due, or finishes. -/
theorem configureBranch_proceeds (ready : ReadyFor config phase) :
    Proceeds config phase (configureBranch true config) := by
  obtain ⟨step, rfl, state⟩ | ⟨rfl, state⟩ := ready.state
  · have sends := @sendCommand_proceeds config step ready.idle ready.outstanding ready.unset state
    cases step with
    | inquiry =>
      change config.configurationState = stateInquiry at state
      rw [configureBranch, if_pos state]
      exact @sendCommand_proceeds { config with
        device := { config.device with commandComplete := some .configureComplete } } .inquiry
        ready.idle ready.outstanding ready.unset state rfl _
    | testUnitReady =>
      change config.configurationState = stateTestStart at state
      rw [configureBranch, if_neg (by rw [state]; decide), if_pos state]
      -- A device that is not one of blocks is given up.
      split_ifs
      · have range : stateInquiry ≤ config.configurationState ∧
            config.configurationState ≤ stateFinished := by
          rw [state]
          decide
        exact ⟨[_], .unsupported, rfl, rfl, .unsupported range ready.outstanding ready.unset⟩
      · exact sends rfl _
    | requestSense =>
      change config.configurationState = stateTestEnd at state
      rw [configureBranch, if_neg (by rw [state]; decide), if_neg (by rw [state]; decide), if_pos state]
      exact sends rfl _
    | readCapacity =>
      change config.configurationState = stateReadCapacity at state
      rw [configureBranch, if_neg (by rw [state]; decide), if_neg (by rw [state]; decide),
        if_neg (by rw [state]; decide), if_pos state]
      exact sends rfl _
  · rw [configureBranch, if_neg (by rw [state]; decide), if_neg (by rw [state]; decide),
      if_neg (by rw [state]; decide), if_neg (by rw [state]; decide), if_pos state]
    exact finishConfiguration_proceeds ready

/-- The state that `configure_complete` goes to. -/
def branchState (context : CommandStatusWrapper) (config : Configuration) : Int :=
  if context.status = cswStatusPassed then config.configurationState else config.configurationState - 1

theorem ReadyFor.range (ready : ReadyFor config phase) :
    stateInquiry ≤ config.configurationState ∧ config.configurationState ≤ stateFinished := by
  obtain ⟨step, -, state⟩ | ⟨-, state⟩ := ready.state
  · have range := step.state_range
    omega
  · rw [state]
    decide

theorem Proceeds.prepend {before next : Configuration} {earlier : BringUpPhase}
    {actions : List ConfigurationAction} (log : config.log = before.log ++ actions)
    (leads : actions.foldlM bringUpStep earlier = some phase) (proceeds : Proceeds config phase next) :
    Proceeds before earlier next := by
  obtain ⟨more, later, appended, follows, serves⟩ := proceeds
  refine ⟨actions ++ more, later, by rw [appended, log, List.append_assoc], ?_, serves⟩
  rw [List.foldlM_append, leads]
  exact follows

/-- A call goes on with the command that is due. -/
theorem configureComplete_proceeds (context : CommandStatusWrapper)
    (ready : ReadyFor { config with configurationState := branchState context config } phase) :
    Proceeds config phase (configureComplete context true config) := by
  have branches : bringUpStep phase (.branch (branchState context config)) = some phase :=
    if_pos ready.range
  by_cases passed : context.status = cswStatusPassed
  · rw [branchState, if_pos passed] at ready branches
    let entered := { config with device := { config.device with commandComplete := none } }.note
      (.branch config.configurationState)
    have goesOn : configureComplete context true config = configureBranch true entered := by
      simp only [configureComplete, passed, ne_eq, not_true_eq_false, if_false]
      rfl
    have enters : ReadyFor entered phase := ⟨ready.idle, ready.outstanding, ready.unset, ready.state⟩
    rw [goesOn]
    apply (configureBranch_proceeds enters).prepend rfl
    simp [branches]
  · rw [branchState, if_neg passed] at ready branches
    let message : ConfigurationAction := .driver
      (.printf "  csw status 'not passed', retrying state %d.\n" [config.configurationState - 1])
    let entered : Configuration := { config with
      device := { config.device with commandComplete := none }
      configurationState := config.configurationState - 1
      log := config.log ++ [message] ++ [.branch (config.configurationState - 1)] }
    have goesOn : configureComplete context true config = configureBranch true entered := by
      simp only [configureComplete, passed, ne_eq, not_false_eq_true, if_true]
      rfl
    have enters : ReadyFor entered phase := ⟨ready.idle, ready.outstanding, ready.unset, ready.state⟩
    have printed : bringUpStep phase message = some phase := by
      cases phase <;> rfl
    rw [goesOn]
    apply (configureBranch_proceeds enters).prepend (List.append_assoc _ _ _)
    simp [printed, branches]

end Calls

/-! ## One transfer -/

section Transfers

variable {config : Configuration} {phase : BringUpPhase}

theorem receive_eq (config : Configuration) (received : Responses) :
    ∃ responses, config.receive received = { config with responses } := by
  simp only [Configuration.receive]
  split_ifs
  · exact ⟨_, rfl⟩
  · exact ⟨_, rfl⟩
  · exact ⟨_, rfl⟩
  · exact ⟨_, rfl⟩

/-- The state of the step that a status leads to. -/
theorem branchState_passed (step : ScsiStep) (csw : CommandStatusWrapper)
    (state : config.configurationState = step.state + 1) :
    let phase := if csw.status = cswStatusPassed then step.passed else .due step
    (∃ step, phase = .due step ∧ branchState csw config = step.state) ∨
      (phase = .answered ∧ branchState csw config = stateFinished) := by
  rw [branchState, state]
  split_ifs
  · cases step with
    | inquiry => exact .inl ⟨.testUnitReady, rfl, rfl⟩
    | testUnitReady => exact .inl ⟨.requestSense, rfl, rfl⟩
    | requestSense => exact .inl ⟨.readCapacity, rfl, rfl⟩
    | readCapacity => exact .inr ⟨rfl, rfl⟩
  · exact .inl ⟨step, rfl, Int.add_sub_cancel _ _⟩

/-- The completion of a transfer brings the command further, or ends it and the next
    call follows. -/
theorem configurationStep_proceeds {event : ConfigurationEvent} {next : Configuration}
    (serves : Serves config phase) (answers : AnswersStatus config event)
    (steps : configurationStep config event = some next) : Proceeds config phase next := by
  cases serves with
  | up state outstanding set => simp [configurationStep, outstanding] at steps
  | unsupported state outstanding unset => simp [configurationStep, outstanding] at steps
  | awaiting step state busy bound routine outstanding unset =>
    rw [configurationStep, Option.ite_none_right_eq_some] at steps
    obtain ⟨inside, steps⟩ := steps
    rw [eraseIdx_single outstanding inside] at steps
    obtain ⟨responses, received⟩ := receive_eq { config with outstanding := [] } event.received
    simp only [received] at steps
    obtain ⟨starts, valid⟩ := answers
    rw [starts] at steps
    -- The status wrapper ends the command, and the configuration goes on; before that it waits.
    by_cases last : config.device.commandState = stateCmdFinished
    · have finished : finishes event.csw config.device := ⟨last, valid last⟩
      rw [if_pos ⟨finished, routine⟩, commandComplete_finishes true _ finished, routine] at steps
      let ended : Configuration := { config with
        device := { config.device with
          commandState := stateCbwTransfer, commandComplete := some .configureComplete }
        responses
        outstanding := []
        log := config.log ++ [.driver (.complete (some .configureComplete) event.csw)] }
      obtain rfl : configureComplete event.csw true ended = next := Option.some.inj steps
      have ready : ReadyFor { ended with configurationState := branchState event.csw ended }
          (if event.csw.status = cswStatusPassed then step.passed else .due step) :=
        ⟨rfl, rfl, unset, branchState_passed step event.csw state⟩
      exact (configureComplete_proceeds event.csw ready).prepend rfl rfl
    · have before := Nat.lt_of_le_of_ne bound last
      have unfinished : ¬ (finishes event.csw config.device ∧
          config.device.commandComplete = some .configureComplete) := fun both => last both.1.1
      obtain ⟨transfer, later, completes, advances, within⟩ :=
        commandComplete_goes event.csw busy before fun device => { device }
      rw [if_neg unfinished, completes] at steps
      obtain rfl := Option.some.inj steps
      refine ⟨[.driver (.transfer transfer true)], .awaiting step, rfl, rfl, ?_⟩
      exact .awaiting step state (Nat.ne_of_gt (Nat.lt_of_le_of_lt (Nat.zero_le _) advances)) within routine
        rfl unset

end Transfers

/-! ## Runs -/

section Runs

variable {device : MassStorageDevice} {responses : Responses} {complete : Option Address}
  {context : CommandStatusWrapper}

/-- The configuration after the first call, whose context is taken for `context`. -/
def configured (context : CommandStatusWrapper) (device : MassStorageDevice) (responses : Responses)
    (complete : Option Address) : Configuration :=
  configureComplete context true (configurationStart device responses complete)

/-- What has happened follows the protocol, and the driver serves the phase reached. -/
def BringUpInv (config : Configuration) : Prop :=
  ∃ phase, config.log.foldlM bringUpStep (.due .inquiry) = some phase ∧ Serves config phase

theorem Proceeds.inv {config next : Configuration} {phase : BringUpPhase} (proceeds : Proceeds config phase next)
    (ordered : config.log.foldlM bringUpStep (.due .inquiry) = some phase) : BringUpInv next := by
  obtain ⟨actions, later, log, leads, serves⟩ := proceeds
  refine ⟨later, ?_, serves⟩
  rw [log, List.foldlM_append, ordered]
  exact leads

theorem configured_inv (passed : context.status = cswStatusPassed) :
    BringUpInv (configured context device responses complete) := by
  have ready : ReadyFor { configurationStart device responses complete with
      configurationState := branchState context (configurationStart device responses complete) }
      (.due .inquiry) := by
    refine ⟨rfl, rfl, rfl, .inl ⟨.inquiry, rfl, ?_⟩⟩
    rw [branchState, if_pos passed]
    rfl
  exact (configureComplete_proceeds context ready).inv rfl

/-- A first call that takes its context for a failure leaves nothing to come. -/
theorem configured_stops (failed : context.status ≠ cswStatusPassed) :
    (configured context device responses complete).outstanding = [] ∧
      (configured context device responses complete).log.foldlM bringUpStep (.due .inquiry) = none := by
  simp only [configured, configureComplete, failed, ne_eq, not_false_eq_true, if_true]
  exact ⟨rfl, rfl⟩

/-- Whatever status the device answers each command with, the driver follows the
    protocol if and only if the context of the first call reads as passed. -/
theorem storage_bringUp_iff (context : CommandStatusWrapper) (device : MassStorageDevice)
    (responses : Responses) (complete : Option Address) (events : List ConfigurationEvent)
    (config : Configuration)
    (answers : Along configurationStep AnswersStatus events (configured context device responses complete))
    (run : events.foldlM configurationStep (configured context device responses complete) = some config) :
    (∃ phase, FollowsProtocol config phase) ↔ context.status = cswStatusPassed := by
  constructor
  · rintro ⟨phase, follows⟩
    by_contra failed
    obtain ⟨none, stops⟩ := @configured_stops device responses complete context failed
    cases events with
    | nil =>
      obtain rfl := Option.some.inj run
      have ordered := follows.ordered
      rw [stops] at ordered
      cases ordered
    | cons event events =>
      have stuck : configurationStep (configured context device responses complete) event = .none := by
        simp [configurationStep, none]
      rw [List.foldlM_cons, stuck] at run
      cases run
  · intro passed
    obtain ⟨phase, ordered, serves⟩ := answers.reached BringUpInv (configured_inv passed) (by
      rintro config event ⟨phase, ordered, serves⟩ answers next steps
      exact (configurationStep_proceeds serves answers steps).inv ordered) run
    exact ⟨phase, serves.follows ordered⟩

end Runs

instance (config : Configuration) (event : ConfigurationEvent) : Decidable (AnswersStatus config event) :=
  inferInstanceAs (Decidable (_ ∧ (_ → _ ∧ _)))

/-- The responses of a disk. -/
def diskResponses : Responses := ⟨scsiPdtDirectAccessBlock, le2be32 1023, le2be32 512⟩

/-- A context that reads as a status wrapper with this status and tag. -/
def contextWith (tag : BitVec 32) (status : UInt8) : CommandStatusWrapper := ⟨cswSignature, tag, 0, status⟩

def completedWith (csw : CommandStatusWrapper) : ConfigurationEvent := ⟨0, csw, diskResponses, true⟩

/-- `INQUIRY` passes at its second attempt, and the other commands at the first. -/
def inquiryRepeated : List ConfigurationEvent :=
  (List.replicate 3 (contextWith 1 1) ++ List.replicate 3 (contextWith 2 0) ++
    List.replicate 2 (contextWith 3 0) ++ List.replicate 3 (contextWith 4 0) ++
    List.replicate 3 (contextWith 5 0)).map completedWith

theorem storage_bringUp_iff_disk :
    ∃ config, inquiryRepeated.foldlM configurationStep
        (configured (contextWith 0 0) freshDevice diskResponses none) = some config ∧ config.ms1 = true ∧
      ((∃ phase, FollowsProtocol config phase) ↔ (contextWith 0 0).status = cswStatusPassed) := by
  obtain ⟨config, run, set⟩ := Option.map_eq_some_iff.mp
    (by decide : (inquiryRepeated.foldlM configurationStep
      (configured (contextWith 0 0) freshDevice diskResponses none)).map Configuration.ms1 = some true)
  exact ⟨config, run, set, storage_bringUp_iff (contextWith 0 0) freshDevice diskResponses none
    inquiryRepeated config (by decide) run⟩

/-- A host with a one where the status would be keeps the device from being brought up. -/
theorem storage_bringUp_stops :
    ¬ ∀ (context : CommandStatusWrapper) (device : MassStorageDevice) (responses : Responses)
      (complete : Option Address) (events : List ConfigurationEvent) (config : Configuration),
      Along configurationStep AnswersStatus events (configured context device responses complete) →
      events.foldlM configurationStep (configured context device responses complete) = some config →
        ∃ phase, FollowsProtocol config phase := by
  intro holds
  obtain ⟨phase, follows⟩ := holds (contextWith 0 1) freshDevice diskResponses none [] _ trivial rfl
  have ordered := follows.ordered
  rw [(configured_stops (by decide)).2] at ordered
  cases ordered

end ComputerSystems.Verified
