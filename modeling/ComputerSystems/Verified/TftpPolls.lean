import ComputerSystems.Network.TftpGet
import ComputerSystems.Verified.TftpAcceptance

/-! # Polls of a TFTP transfer

While a transfer is in progress it has one control block, on which it sends and receives.
When its timer has expired, a poll finishes the task once there is a status, sends the
request again while no block has been accepted, and gives up after five requests.  Between
these a transfer that has accepted a block and hears nothing more stays as it is.
-/

namespace ComputerSystems.Verified

open ComputerSystems.Data ComputerSystems.System ComputerSystems.Network

variable {task : TftpTask} {transfer : TftpTransfer} {env : TftpPollEnv} {pcb now : Nat} {filename : List UInt8}
  {result : TftpPollResult}

/-- The timer of the block has expired. -/
def TftpExpired (env : TftpPollEnv) (task : TftpTask) : Prop :=
  timerRemaining task.tftp.blockMaxEndTimer env.now = 0

/-- The task is finished and has released the control block. -/
structure TaskReleases (pcb : Nat) (result : TftpPollResult) : Prop where
  finished : result.status = taskFinished
  sends : result.task.sendUdpdev = none
  receives : result.task.recvUdpdev = none
  released : .remove pcb ∈ result.calls

/-- The request has been sent again, and the timer started again. -/
structure Retransmits (env : TftpPollEnv) (pcb : Nat) (result : TftpPollResult) : Prop where
  idle : result.status = taskIdle
  sent : .sendRrq pcb ∈ result.calls
  timer : result.task.tftp.blockMaxEndTimer = timerRegister tftpInitBlockTimeout env.now

/-- The poll finishes the task, releasing its control block and clearing `Data`, or it
    sends the request again. -/
def TftpActs (env : TftpPollEnv) (task : TftpTask) : Prop :=
  ∃ pcb ∈ task.sendUdpdev,
    TaskReleases pcb (tftpPoll env task) ∧ (tftpPoll env task).task.data = false ∨
      Retransmits env pcb (tftpPoll env task)

/-- Polls alone never change the transfer while the network is up. -/
def TransferStalled (transfer : TftpTransfer) : Prop :=
  ∀ polls : List TftpPollEnv, (∀ env ∈ polls, env.netUp = true) →
    (polls.map TftpEvent.poll).foldl transferStep transfer = transfer

/-- There is a status, no block has been accepted, or the last request has been sent. -/
def CanAct (tftp : TftpCb) : Prop :=
  tftp.status ≠ 0 ∨ tftp.nextBlockNumber = 1 ∨ tftpInitBlockMaxRetries ≤ tftp.numRreqsSent

instance : Decidable (TftpExpired env task) := inferInstanceAs (Decidable (_ = _))

instance {tftp : TftpCb} : Decidable (CanAct tftp) := inferInstanceAs (Decidable (_ ∨ _ ∨ _))

/-! ## Transfers in progress -/

/-- A transfer in progress has its file name, and sends and receives on one control block. -/
structure InProgress (task : TftpTask) (pcb : Nat) : Prop where
  named : task.filename ≠ []
  sends : task.sendUdpdev = some pcb
  receives : task.recvUdpdev = some pcb

/-- Sending the request again finishes the task, or goes on with another control block. -/
theorem tftpAgain_cases (progress : InProgress task pcb) :
    TaskReleases pcb (tftpAgain env pcb task) ∨
    Retransmits env pcb (tftpAgain env pcb task) ∧ InProgress (tftpAgain env pcb task).task env.pcb ∧
      (tftpAgain env pcb task).task.tftp.numRreqsSent = task.tftp.numRreqsSent + 1 := by
  fun_cases tftpAgain env pcb task with
  | case1 => exact .inl ⟨rfl, rfl, rfl, by simp⟩
  | case2 _ _ _ _ _ calls => exact .inr ⟨⟨rfl, by simp [calls], rfl⟩, ⟨progress.named, rfl, rfl⟩, rfl⟩
  | case3 _ _ _ _ _ calls => exact .inl ⟨rfl, rfl, rfl, by simp [calls]⟩

/-- What a poll does to a transfer in progress while the network is up. -/
theorem tftpGet_cases (progress : InProgress task pcb) (up : env.netUp = true) :
    (TftpExpired env task ∧ CanAct task.tftp ∧
      (TaskReleases pcb (tftpGet env task) ∨
        Retransmits env pcb (tftpGet env task) ∧ InProgress (tftpGet env task).task env.pcb ∧
          (tftpGet env task).task.tftp.numRreqsSent = task.tftp.numRreqsSent + 1)) ∨
    (¬ (TftpExpired env task ∧ CanAct task.tftp) ∧ tftpGet env task = { task, status := taskIdle }) := by
  have down : ¬ (!env.netUp) = true := by simp [up]
  by_cases expired : timerRemaining task.tftp.blockMaxEndTimer env.now = 0
  · by_cases status : task.tftp.status ≠ 0
    · left
      refine ⟨expired, .inl status, .inl ?_⟩
      simp only [tftpGet, if_neg down, if_neg progress.named, progress.sends, if_pos expired, if_pos status]
      exact ⟨rfl, rfl, rfl, List.mem_singleton_self _⟩
    -- no error, and the timer has expired: only a request that no block has answered is sent again
    · by_cases again : task.tftp.nextBlockNumber = 1 ∧ task.tftp.numRreqsSent < tftpInitBlockMaxRetries
      · left
        refine ⟨expired, .inr (.inl again.1), ?_⟩
        simp only [tftpGet, if_neg down, if_neg progress.named, progress.sends, if_pos expired, if_neg status,
          if_pos again]
        exact tftpAgain_cases progress
      · by_cases last : tftpInitBlockMaxRetries ≤ task.tftp.numRreqsSent
        · left
          refine ⟨expired, .inr (.inr last), .inl ?_⟩
          simp only [tftpGet, if_neg down, if_neg progress.named, progress.sends, if_pos expired, if_neg status,
            if_neg again, if_pos last, progress.receives]
          exact ⟨rfl, rfl, rfl, by simp⟩
        -- the transfer has stalled after its first block, and nothing is done about it
        · right
          constructor
          · rintro ⟨_, other | first | sent⟩
            · exact status other
            · exact again ⟨first, Nat.lt_of_not_le last⟩
            · exact last sent
          · simp only [tftpGet, if_neg down, if_neg progress.named, progress.sends, if_pos expired, if_neg status,
              if_neg again, if_neg last]
  · right
    refine ⟨fun both => expired both.1, ?_⟩
    simp only [tftpGet, if_neg down, if_neg progress.named, progress.sends, if_neg expired]

/-- The same of the poll of `Tftp`, which clears `Data` when the task is finished. -/
theorem tftpPoll_cases (progress : InProgress task pcb) (up : env.netUp = true) :
    (TftpExpired env task ∧ CanAct task.tftp ∧
      (TaskReleases pcb (tftpPoll env task) ∧ (tftpPoll env task).task.data = false ∨
        Retransmits env pcb (tftpPoll env task) ∧ InProgress (tftpPoll env task).task env.pcb ∧
          (tftpPoll env task).task.tftp.numRreqsSent = task.tftp.numRreqsSent + 1)) ∨
    (¬ (TftpExpired env task ∧ CanAct task.tftp) ∧ tftpPoll env task = { task, status := taskIdle }) := by
  have idle : taskIdle ≠ taskFinished := by decide
  cases tftpGet_cases progress up with
  | inl acts =>
    obtain ⟨expired, able, releases | ⟨retransmits, going⟩⟩ := acts
    · refine .inl ⟨expired, able, .inl ?_⟩
      rw [tftpPoll, if_pos releases.finished]
      exact ⟨⟨releases.finished, releases.sends, releases.receives, releases.released⟩, rfl⟩
    · have same : tftpPoll env task = tftpGet env task := by
        rw [tftpPoll, retransmits.idle, if_neg idle]
      rw [same]
      exact .inl ⟨expired, able, .inr ⟨retransmits, going⟩⟩
  | inr waits =>
    obtain ⟨unable, get⟩ := waits
    refine .inr ⟨unable, ?_⟩
    rw [tftpPoll, get]
    exact if_neg idle

/-- A poll that finds the network down finishes the task. -/
theorem tftpPoll_down (down : env.netUp = false) : (tftpPoll env task).task.data = false := by
  simp [tftpPoll, tftpGet, down]

/-- While `Data` points to a transfer it is in progress. -/
def Polled (transfer : TftpTransfer) : Prop := transfer.task.data = true → ∃ pcb, InProgress transfer.task pcb

theorem transferStep_polled (event : TftpEvent) (polled : Polled transfer) : Polled (transferStep transfer event) := by
  cases event with
  | datagram now allocates datagram =>
    rw [transferStep]
    split
    · intro data
      obtain ⟨pcb, progress⟩ := polled data
      exact ⟨pcb, progress.named, progress.sends, progress.receives⟩
    · exact polled
  | poll env =>
    by_cases data : transfer.task.data = true
    · obtain ⟨pcb, progress⟩ := polled data
      rw [transferStep, if_pos data]
      intro still
      cases up : env.netUp with
      | false => exact absurd still (by simp [tftpPoll_down up])
      | true =>
        obtain ⟨_, _, ⟨_, cleared⟩ | ⟨_, going, _⟩⟩ | ⟨_, waits⟩ := tftpPoll_cases progress up
        · exact absurd still (by simp [cleared])
        · exact ⟨env.pcb, going⟩
        · exact ⟨pcb, by simpa only [waits] using progress⟩
    · rw [transferStep, if_neg data]
      exact polled

theorem transfer_polled (events : List TftpEvent) (polled : Polled transfer) :
    Polled (events.foldl transferStep transfer) := by
  induction events generalizing transfer with
  | nil => exact polled
  | cons event events ih => exact ih (transferStep_polled event polled)

/-! ## TransferStalled transfers -/

/-- A poll that finds the timer expired acts exactly if the transfer can act. -/
theorem tftpActs_iff (progress : InProgress task pcb) (up : env.netUp = true) (expired : TftpExpired env task) :
    TftpActs env task ↔ CanAct task.tftp := by
  constructor
  · rintro ⟨_, _, acts⟩
    cases tftpPoll_cases progress up with
    | inl able => exact able.2.1
    | inr waits =>
      rw [waits.2] at acts
      obtain ⟨releases, _⟩ | retransmits := acts
      · exact absurd releases.finished (show taskIdle ≠ taskFinished by decide)
      · exact absurd retransmits.sent List.not_mem_nil
  · intro able
    cases tftpPoll_cases progress up with
    | inl acts =>
      obtain ⟨_, _, releases | ⟨retransmits, _⟩⟩ := acts
      · exact ⟨pcb, progress.sends, .inl releases⟩
      · exact ⟨pcb, progress.sends, .inr retransmits⟩
    | inr waits => exact absurd ⟨expired, able⟩ waits.1

/-- A transfer in progress that cannot act is stalled. -/
theorem stalled_of_unable (data : transfer.task.data = true) (progress : InProgress transfer.task pcb)
    (unable : ¬ CanAct transfer.task.tftp) : TransferStalled transfer := by
  intro polls up
  induction polls with
  | nil => rfl
  | cons env polls ih =>
    have waits : transferStep transfer (.poll env) = transfer := by
      cases tftpPoll_cases progress (up env List.mem_cons_self) with
      | inl acts => exact absurd acts.2.1 unable
      | inr waits => rw [transferStep, if_pos data, waits.2]
    rw [List.map_cons, List.foldl_cons, waits]
    exact ih fun env member => up env (List.mem_cons_of_mem _ member)

/-- The poll in which the timer expires changes a transfer that can act. -/
theorem not_stalled_of_able (data : transfer.task.data = true) (progress : InProgress transfer.task pcb)
    (able : CanAct transfer.task.tftp) : ¬ TransferStalled transfer := by
  intro stalled
  let env : TftpPollEnv :=
    { netUp := true, now := transfer.task.tftp.blockMaxEndTimer.expire, buffer := true, pcb, binds := true }
  have expired : TftpExpired env transfer.task := by
    rw [TftpExpired, timerRemaining, if_neg (Nat.lt_irrefl _), Nat.sub_self]
  have same : (tftpPoll env transfer.task).task = transfer.task := by
    have once := stalled [env] (by simp [env])
    rw [List.map_singleton, List.foldl_cons, List.foldl_nil, transferStep, if_pos data] at once
    exact congrArg TftpTransfer.task once
  cases tftpPoll_cases progress (show env.netUp = true from rfl) with
  | inl acts =>
    obtain ⟨_, _, ⟨_, cleared⟩ | ⟨_, _, counted⟩⟩ := acts
    · rw [same, data] at cleared
      cases cleared
    · rw [same] at counted
      omega
  | inr waits => exact waits.1 ⟨expired, able⟩

/-- In every state that a transfer reaches, a poll that finds the timer expired finishes it
    or sends the request again, and the transfer is not stalled, exactly if there is a
    status, no block has been accepted or five requests have been sent. -/
theorem tftp_polls_act_iff (serverIp : BitVec 32) (udpdev : UdpPcb) (start : Nat) (destination : Memory)
    (bnum : BitVec 16) (filename : List UInt8) (requested : tftpSendRRQ filename true = tftpOk) (pcb : Nat)
    (events : List TftpEvent)
    (data : (events.foldl transferStep
      (transferStart (tftpStart serverIp udpdev start destination bnum) filename pcb)).task.data = true) :
    let transfer := events.foldl transferStep
      (transferStart (tftpStart serverIp udpdev start destination bnum) filename pcb)
    (∀ env : TftpPollEnv, env.netUp = true → TftpExpired env transfer.task →
      (TftpActs env transfer.task ↔ CanAct transfer.task.tftp)) ∧
    (¬ TransferStalled transfer ↔ CanAct transfer.task.tftp) := by
  intro transfer
  have named : filename ≠ [] := by
    rintro rfl
    exact absurd requested (by decide)
  obtain ⟨_, progress⟩ := transfer_polled events (fun _ => ⟨pcb, named, rfl, rfl⟩) data
  constructor
  · intro env up expired
    exact tftpActs_iff progress up expired
  · constructor
    · intro moving
      by_contra unable
      exact moving (stalled_of_unable data progress unable)
    · exact not_stalled_of_able data progress

/-- A poll while the network is up. -/
def pollAt (now : Nat) : TftpPollEnv := { netUp := true, now, buffer := true, pcb := 1, binds := true }

/-- Three seconds after the first request nothing has come, and the request is sent again. -/
theorem tftp_polls_act_first :
    TftpActs (pollAt 3000000) (transferStart (tftpStart 0xC0A80103 ⟨50000, 0, 0⟩ 0 (fun _ => 0) 0) [97] 0).task :=
  ((tftp_polls_act_iff 0xC0A80103 ⟨50000, 0, 0⟩ 0 (fun _ => 0) 0 [97] (by decide) 0 [] rfl).1 (pollAt 3000000)
    rfl rfl).mpr (.inr (.inl rfl))

/-- The transfer behind the first block. -/
def orphaned : TftpTransfer :=
  transferStep (transferStart (tftpStart 0xC0A80103 ⟨50000, 0, 0⟩ 0 (fun _ => 0) 0) [97] 0)
    (.datagram 0 true (zeroData 0xC0A80103 1))

/-- A server that dies behind the first block leaves the client polling for ever. -/
theorem tftp_transfer_hangs :
    orphaned.task.data = true ∧ TftpExpired (pollAt 10000000) orphaned.task ∧
      ¬ TftpActs (pollAt 10000000) orphaned.task ∧ TransferStalled orphaned := by
  have progress : InProgress orphaned.task 0 := ⟨by decide, rfl, rfl⟩
  have unable : ¬ CanAct orphaned.task.tftp := by decide +kernel
  have expired : TftpExpired (pollAt 10000000) orphaned.task := by decide +kernel
  refine ⟨rfl, expired, ?_, stalled_of_unable rfl progress unable⟩
  rw [tftpActs_iff progress rfl expired]
  exact unable

end ComputerSystems.Verified
