import ComputerSystems.Usb.StageMachine

/-! # Runs of one stage

`stageStart` and `stageStep` are what the driver does to a stage: they agree with
`transfer_stage_async`, `process_channel_interrupt` and `stage_interval` on the stage of the
channel.  A run of the stage alone is therefore what a run of the driver makes of it while it
keeps its channel.
-/

namespace ComputerSystems.Verified

open ComputerSystems.Usb

variable {config : HostConfig} {hardware : Hardware} {host next : HostState} {endpoint : Endpoint}
  {stage after : TransferStageData} {index urb : Fin maxUsbRequests} {address channel : Nat}
  {status packetsLeft bytesLeft : BitVec 32}

theorem startTransaction_stage :
    (startTransaction config hardware index host).stages index = startedStage hardware (host.stages index) := by
  rw [startTransaction, startedStage]
  split
  · simp [HostState.setStage]
  · simp [HostState.setStage]

theorem setStage_stages : (host.setStage index stage).stages index = stage := by
  simp [HostState.setStage]

theorem transactionComplete_fst {nextPID : PID} :
    (transactionComplete status packetsLeft bytesLeft stage nextPID).1 =
      countTransaction status packetsLeft bytesLeft stage := by
  rw [countTransaction, transactionComplete, transactionComplete]
  split
  · rfl
  · rfl

/-- A stage starts as `stageStart` says. -/
theorem transferStageAsync_stage {isIn statusStage : Bool} (found : newChannel config host.channelAllocated = some channel)
    (slot : newStageData host.stages = some index) (address_eq : (host.requests urb).endpoint = some address)
    (start : stageStart (config.endpoint address) (host.nextPID address) channel urb (host.requests urb) isIn
      statusStage hardware = some stage)
    (run : transferStageAsync config hardware urb isIn statusStage host = some (true, next)) :
    next.stages index = stage := by
  rw [stageStart, Option.map_eq_some_iff] at start
  obtain ⟨attached, attach, rfl⟩ := start
  rw [transferStageAsync, found] at run
  simp only [slot, address_eq, attach, Option.bind_eq_bind, Option.bind_some, Option.some.injEq,
    Prod.mk.injEq, true_and] at run
  rw [← run, startTransaction_stage]
  simp [HostState.note, enterChannel]

/-- While a stage keeps its channel, an interrupt of the driver makes the step of the stage. -/
theorem processChannelInterrupt_stage (has : host.stageData channel = some index)
    (owner : (host.stages index).urb = some urb) (address_eq : (host.stages index).endpoint = some address)
    (step : stageStep (config.endpoint address) (host.stages index)
      (.interrupt status packetsLeft bytesLeft hardware) = some after)
    (run : processChannelInterrupt config hardware channel status packetsLeft bytesLeft host = some next) :
    next.stages index = after := by
  rw [stageStep] at step
  split at step
  · cases step
  rename_i awake
  rw [processChannelInterrupt, has] at run
  simp only [Option.bind_eq_bind, Option.bind_some, owner, address_eq] at run
  cases sub : (host.stages index).subState with
  | waitForChannelDisable =>
    simp only [sub] at run
    rw [if_neg (by simp [reports, sub]), if_neg (by simp [sub])] at step
    rw [← Option.some.inj step, ← Option.some.inj run, startTransaction_stage]
  | unknown => simp [sub] at run
  | waitForTransactionComplete =>
    simp only [sub] at run
    -- A channel that has only halted is started again without a report.
    by_cases halted : status = hcIntChHltd
    · rw [if_pos halted] at run
      rw [if_neg (by simp [reports, halted]), if_neg (by simp [sub])] at step
      rw [← Option.some.inj step, ← Option.some.inj run, startTransaction_stage]
      rfl
    · rw [if_neg halted] at run
      rw [if_pos (by simp [reports, awake, sub, halted])] at step
      rw [transactionComplete_fst] at run
      -- the stage leaves the channel in one case only, and then there is no step
      cases following : stageNext (config.endpoint address)
          (countTransaction status packetsLeft bytesLeft (host.stages index)) with
      | transaction stage =>
        simp only [following, StageNext.stage, Option.some.injEq] at step
        simp only [following, applyNext, Option.some.injEq] at run
        rw [← step, ← run, startTransaction_stage, setStage_stages]
      | delay stage =>
        simp only [following, StageNext.stage, Option.some.injEq] at step
        simp only [following, applyNext, Option.some.injEq] at run
        rw [← step, ← run]
        exact setStage_stages
      | leave status resultLen complete messages => simp [following, StageNext.stage] at step
      | nothing =>
        simp only [following, StageNext.stage, Option.some.injEq] at step
        simp only [following, applyNext, Option.some.injEq] at run
        rw [← step, ← run]
        exact setStage_stages

/-- The timer of a stage makes the step of the stage. -/
theorem stageInterval_stage
    (step : stageStep endpoint (host.stages index) (.interval hardware) = some after) :
    (stageInterval config hardware index host).stages index = after := by
  rw [stageStep] at step
  split at step
  · rw [stageInterval, startTransaction_stage, setStage_stages]
    exact Option.some.inj step
  · cases step

/-! ## Scheduling

Scheduling a transaction and starting it change four fields of the stage at most.
-/

/-- What scheduling leaves of a stage. -/
def Rescheduled (stage after : TransferStageData) : Prop :=
  ∃ state subState splitComplete frameScheduler,
    after = { stage with state, subState, splitComplete, frameScheduler }

theorem Rescheduled.refl : Rescheduled stage stage := ⟨_, _, _, _, rfl⟩

theorem Rescheduled.trans {last : TransferStageData} (first : Rescheduled stage after)
    (second : Rescheduled after last) : Rescheduled stage last := by
  obtain ⟨_, _, _, _, rfl⟩ := first
  obtain ⟨_, _, _, _, rfl⟩ := second
  exact ⟨_, _, _, _, rfl⟩

theorem startedStage_rescheduled : Rescheduled stage (startedStage hardware stage) := by
  rw [startedStage]
  split
  · exact ⟨_, _, _, _, rfl⟩
  · exact ⟨_, _, _, _, rfl⟩

@[simp] theorem startedStage_state : (startedStage hardware stage).state = stage.state := by
  rw [startedStage]
  split
  · rfl
  · rfl

theorem beginStage_rescheduled : Rescheduled stage (beginStage stage) := by
  rw [beginStage]
  split
  · exact ⟨_, _, _, _, rfl⟩
  · exact ⟨_, _, _, _, rfl⟩

/-- What follows for the stage is only to be scheduled. -/
def Reschedules (stage : TransferStageData) : StageNext → Prop
  | .transaction after => Rescheduled stage after
  | .delay after => Rescheduled stage after
  | .leave .. => True
  | .nothing => True

theorem leaveCompleteSplit_reschedules (given : Rescheduled stage after) :
    Reschedules stage (leaveCompleteSplit endpoint after) := by
  rw [leaveCompleteSplit]
  split
  · split
    · exact given.trans ⟨_, _, _, _, rfl⟩
    · exact given.trans ⟨_, _, _, _, rfl⟩
  · trivial

theorem nextSplit_reschedules (given : Rescheduled stage after) : Reschedules stage (nextSplit endpoint after) := by
  cases scheduled : after.frameScheduler with
  | none => simp [nextSplit, scheduled, Reschedules]
  | some scheduler =>
    simp only [nextSplit, scheduled]
    split
    · exact given.trans ⟨_, _, _, _, rfl⟩
    · exact leaveCompleteSplit_reschedules (given.trans ⟨_, _, _, _, rfl⟩)

theorem stageNext_reschedules : Reschedules stage (stageNext endpoint stage) := by
  cases state : stage.state with
  | noSplitTransfer =>
    simp only [stageNext, state]
    split
    · trivial
    · split
      · exact ⟨_, _, _, _, rfl⟩
      · trivial
  | startSplit =>
    simp only [stageNext, state]
    split
    · trivial
    · exact nextSplit_reschedules ⟨_, _, _, _, rfl⟩
  | completeSplit =>
    simp only [stageNext, state]
    split
    · trivial
    · exact nextSplit_reschedules .refl
  | periodicDelay => simp [stageNext, state, Reschedules]
  | unknown => simp [stageNext, state, Reschedules]

/-- The stage that stays on its channel has only been scheduled. -/
theorem Reschedules.kept {following : StageNext} (given : Reschedules stage following)
    (stays : following.stage hardware stage = some after) : Rescheduled stage after := by
  cases following with
  | transaction middle =>
    obtain rfl := Option.some.inj stays
    exact Rescheduled.trans given startedStage_rescheduled
  | delay middle =>
    obtain rfl := Option.some.inj stays
    exact given
  | leave => cases stays
  | nothing =>
    obtain rfl := Option.some.inj stays
    exact .refl

/-- A step counts the transaction that is reported, if one is, and reschedules the stage. -/
theorem stageStep_rescheduled {event : StageEvent} (step : stageStep endpoint stage event = some after) :
    Rescheduled stage after ∨ ∃ status packetsLeft bytesLeft hardware,
      event = .interrupt status packetsLeft bytesLeft hardware ∧ reports status stage = true ∧
        Rescheduled (countTransaction status packetsLeft bytesLeft stage) after := by
  cases event with
  | interrupt status packetsLeft bytesLeft hardware =>
    rw [stageStep] at step
    split at step
    · cases step
    · split at step
      · rename_i _ reported
        exact .inr ⟨_, _, _, _, rfl, reported, Reschedules.kept stageNext_reschedules step⟩
      · split at step
        · cases step
        · obtain rfl := Option.some.inj step
          exact .inl startedStage_rescheduled
  | interval hardware =>
    rw [stageStep] at step
    split at step
    · obtain rfl := Option.some.inj step
      exact .inl (beginStage_rescheduled.trans startedStage_rescheduled)
    · cases step

end ComputerSystems.Verified
