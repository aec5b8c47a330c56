import CloudDogJobs.Backend.WaitingLine
import CloudDogJobs.Worker.DeadLetters

/-!
# How a round ends

The whole of `run_once` after the selection, read as one step: the result that it
returns or raises, the record that it leaves of the claimed job, and the dead
letter that it sends. On a memory backend that nobody else touches the commands
of the round come to exactly this step.
-/

namespace CloudDogJobs

open Foundation WorkerProg

/-- The job with a new status and time of its last write. -/
def Job.stamped (job : Job) (status : JobStatus) (now : Int) : Job :=
  { job with status := status, updatedAt := now }

@[simp] theorem Job.stamped_jobId (job : Job) (status : JobStatus) (now : Int) :
    (job.stamped status now).jobId = job.jobId := rfl

@[simp] theorem Job.stamped_status (job : Job) (status : JobStatus) (now : Int) :
    (job.stamped status now).status = status := rfl

/-- How the round of a claimed job ends. `writtenAt` is the clock reading of the
last write to the job. -/
structure Ending where
  result : Except PyError Bool
  status : JobStatus
  writtenAt : Int
  letter : Option Job := none

/-- What calling the notifier comes to. -/
def FallbackPolicy.notified (policy : FallbackPolicy) (inputs : RunInputs) :
    Except PyError Bool :=
  match policy.notifyUrl with
  | none => .ok true
  | some url => if url ≠ "" then inputs.notifier.map fun _ => true else .ok true

/-- The ending under a policy for the type of the failed job. -/
def FallbackPolicyManager.ending (manager : FallbackPolicyManager) (inputs : RunInputs)
    (job : Job) (error : PyError) : Ending :=
  match (manager.policyFor job.jobType).action with
  | .retry => ⟨.error error, .retryWait, inputs.finishedAt, none⟩
  | .deadLetter => ⟨.ok true, .failed, inputs.finishedAt, some (manager.letter inputs job error)⟩
  | .notify => ⟨(manager.policyFor job.jobType).notified inputs, .failed, inputs.finishedAt, none⟩
  | .ignore => ⟨.ok true, .failed, inputs.finishedAt, none⟩

/-- What the handler comes to under the run timeout. -/
def Worker.outcome (worker : Worker) (inputs : RunInputs) : Except PyError Unit :=
  match worker.runTimeoutSeconds with
  | none => inputs.handler
  | some seconds =>
      if inputs.late then .error (.timeoutError ("Job timed out after " ++ seconds ++ "s"))
      else inputs.handler

/-- The ending of a job whose handler raised an `Exception`. -/
def Worker.recovery (worker : Worker) (inputs : RunInputs) (job : Job) (error : PyError) :
    Ending :=
  match worker.fallbackPolicies with
  | none => ⟨.error error, .failed, inputs.finishedAt, none⟩
  | some manager => manager.ending inputs job error

/-- The ending of a claimed job. -/
def Worker.ending (worker : Worker) (inputs : RunInputs) (job : Job) : Ending :=
  if job.jobType ∈ worker.handlers then
    match worker.outcome inputs with
    | .ok _ => ⟨.ok true, .succeeded, inputs.finishedAt, none⟩
    | .error error =>
        if error.isException then worker.recovery inputs job error
        else ⟨.error error, .running, inputs.heartbeatAt, none⟩
  else ⟨.error (.keyError ("Unknown job_type: " ++ job.jobType)), .running, inputs.claimAt, none⟩

/-- The record of a job that the worker has claimed. -/
def Worker.claimedJob (worker : Worker) (inputs : RunInputs) (job : Job) : Job :=
  { job with
    status := .running
    claimedBy := some (worker.hostId ++ ":" ++ worker.workerId)
    updatedAt := inputs.claimAt }

/-- The record that the round leaves of its job. -/
def Worker.leftJob (worker : Worker) (inputs : RunInputs) (job : Job) : Job :=
  (worker.claimedJob inputs job).stamped (worker.ending inputs job).status
    (worker.ending inputs job).writtenAt

@[simp] theorem Worker.leftJob_jobId (worker : Worker) (inputs : RunInputs) (job : Job) :
    (worker.leftJob inputs job).jobId = job.jobId := rfl

@[simp] theorem Worker.leftJob_status (worker : Worker) (inputs : RunInputs) (job : Job) :
    (worker.leftJob inputs job).status = (worker.ending inputs job).status := rfl

/-- No round leaves its job waiting. -/
theorem Worker.ending_status_ne_queued (worker : Worker) (inputs : RunInputs) (job : Job) :
    (worker.ending inputs job).status ≠ .queued := by
  unfold ending recovery FallbackPolicyManager.ending
  repeat' split
  all_goals simp

/-- A dead letter waits under the identifier that the round drew for it. -/
theorem Worker.ending_letter (worker : Worker) (inputs : RunInputs) (job : Job) {copy : Job}
    (sent : (worker.ending inputs job).letter = some copy) :
    copy.jobId = inputs.deadLetterId ∧ copy.status = .queued ∧ copy.resources = ∅ ∧
      copy.dependsOn = [] := by
  unfold ending recovery FallbackPolicyManager.ending at sent
  repeat' split at sent
  all_goals
    cases sent
    try exact ⟨rfl, rfl, rfl, rfl⟩

namespace Shared

variable {σ : Type}

/-- The state with a store that holds this record of a job. -/
def holding (shared : Shared MemoryQueueBackend) (base : MemoryQueueBackend) (record : Job) :
    Shared MemoryQueueBackend :=
  { shared with store := (base.enqueue record).2 }

/-- The state after a letter, if there is one. -/
def sent (shared : Shared MemoryQueueBackend) : Option Job → Shared MemoryQueueBackend
  | none => shared
  | some copy => { shared with store := (shared.store.enqueue copy).2 }

end Shared

namespace Worker

variable (worker : Worker) (inputs : RunInputs) (shared : Shared MemoryQueueBackend)
  (base : MemoryQueueBackend) (job record : Job)

theorem run_heartbeat_holding (same : record.jobId = job.jobId) (now : Int) :
    (call (.heartbeat job.jobId now)).run (Shared.exec MemoryQueueBackend.contract)
        (shared.holding base record) =
      (.ok true, shared.holding base (record.stamped record.status now)) := by
  have beaten := (base.enqueue record).2.heartbeat_of_get (base.get_enqueue_self record) now
  have written := base.enqueue_enqueue record (record.stamped record.status now) rfl
  rw [← same]
  refine Prod.ext (congrArg Except.ok (congrArg Prod.fst beaten)) ?_
  show ({ shared with store := ((base.enqueue record).2.heartbeat record.jobId now).2 } :
    Shared MemoryQueueBackend) = { shared with store := _ }
  rw [beaten, ← written]
  rfl

theorem run_updateStatus_holding (same : record.jobId = job.jobId) (status : JobStatus)
    (now : Int) :
    (call (.updateStatus job.jobId status now)).run (Shared.exec MemoryQueueBackend.contract)
        (shared.holding base record) =
      (.ok true, shared.holding base (record.stamped status now)) := by
  have answered :=
    (base.enqueue record).2.updateStatus_of_get (base.get_enqueue_self record) status now
  have written := base.enqueue_enqueue record (record.stamped status now) rfl
  rw [← same]
  refine Prod.ext (congrArg (fun reply => reply.1) answered) ?_
  show ({ shared with store :=
    ((base.enqueue record).2.updateStatus record.jobId status.value now).2 } :
      Shared MemoryQueueBackend) = { shared with store := _ }
  rw [answered, ← written]
  rfl

theorem run_apply_holding (manager : FallbackPolicyManager) (same : record.jobId = job.jobId)
    (error : PyError) :
    let ending := manager.ending inputs job error
    ((manager.apply inputs job error).run (Shared.exec MemoryQueueBackend.contract)
        (shared.holding base record)).2 =
      (shared.holding base (record.stamped ending.status ending.writtenAt)).sent ending.letter ∧
    (((manager.apply inputs job error).run (Shared.exec MemoryQueueBackend.contract)
        (shared.holding base record)).1.bind fun decision =>
          if decision.shouldRaise then .error error else .ok true) = ending.result := by
  have marked := fun status =>
    run_updateStatus_holding shared base job record same status inputs.finishedAt
  unfold FallbackPolicyManager.ending FallbackPolicyManager.apply FallbackPolicyManager.mark
  cases (manager.policyFor job.jobType).action with
  | retry =>
      rw [run_andThen_ok _ _ (marked .retryWait)]
      exact ⟨rfl, rfl⟩
  | deadLetter =>
      rw [run_andThen_ok _ _ (marked .failed)]
      exact ⟨rfl, rfl⟩
  | notify =>
      rw [run_andThen_ok _ _ (marked .failed)]
      unfold FallbackPolicyManager.sendNotification FallbackPolicy.notified
      cases (manager.policyFor job.jobType).notifyUrl with
      | none => exact ⟨rfl, rfl⟩
      | some url =>
          by_cases blank : url = ""
          · simp only [blank, ne_eq, not_true_eq_false, ↓reduceIte]
            exact ⟨rfl, rfl⟩
          · simp only [ne_eq, blank, not_false_eq_true, ↓reduceIte]
            cases outcome : inputs.notifier with
            | ok value => exact ⟨rfl, rfl⟩
            | error raised => exact ⟨rfl, rfl⟩
  | ignore =>
      rw [run_andThen_ok _ _ (marked .failed)]
      exact ⟨rfl, rfl⟩

theorem run_recover_holding (same : record.jobId = job.jobId) (error : PyError) :
    (worker.recover inputs job error).run (Shared.exec MemoryQueueBackend.contract)
        (shared.holding base record) =
      ((worker.recovery inputs job error).result,
        (shared.holding base (record.stamped (worker.recovery inputs job error).status
          (worker.recovery inputs job error).writtenAt)).sent
            (worker.recovery inputs job error).letter) := by
  unfold recover recovery
  cases worker.fallbackPolicies with
  | none =>
      rw [run_andThen_ok _ _ (run_updateStatus_holding shared base job record same .failed _)]
      rfl
  | some manager =>
      obtain ⟨after, result⟩ := run_apply_holding inputs shared base job record manager same error
      cases ended : (manager.apply inputs job error).run
          (Shared.exec MemoryQueueBackend.contract) (shared.holding base record) with
      | mk reply reached =>
          rw [ended] at after result
          cases reply with
          | error raised =>
              rw [run_andThen_error _ _ ended]
              exact Prod.ext result after
          | ok decision =>
              rw [run_andThen_ok _ _ ended]
              exact Prod.ext result after

theorem run_invoke_holding (same : record.jobId = job.jobId) :
    ∃ status written, (worker.invoke inputs job).run (Shared.exec MemoryQueueBackend.contract)
        (shared.holding base record) =
      (worker.outcome inputs,
        shared.holding base (record.stamped status written)) ∧
      (status = record.status ∧ written = record.updatedAt ∨
        ∃ message, worker.outcome inputs = .error (.timeoutError message)) := by
  unfold invoke outcome
  rw [Prog.run_bind]
  cases worker.runTimeoutSeconds with
  | none => exact ⟨record.status, record.updatedAt, rfl, .inl ⟨rfl, rfl⟩⟩
  | some seconds =>
      cases inputs.late with
      | false => exact ⟨record.status, record.updatedAt, rfl, .inl ⟨rfl, rfl⟩⟩
      | true =>
          refine ⟨.timeout, inputs.timeoutAt, ?_, .inr ⟨_, rfl⟩⟩
          exact run_andThen_ok _ _ (run_updateStatus_holding shared base job record same .timeout _)

/-- The `try` block of a job with a handler comes to its ending. -/
theorem run_attempt_holding (known : job.jobType ∈ worker.handlers) :
    (worker.attempt inputs job).run (Shared.exec MemoryQueueBackend.contract)
        (shared.holding base (worker.claimedJob inputs job)) =
      ((worker.ending inputs job).result,
        (shared.holding base (worker.leftJob inputs job)).sent
          (worker.ending inputs job).letter) := by
  have beaten := run_heartbeat_holding shared base job (worker.claimedJob inputs job) rfl
    inputs.heartbeatAt
  obtain ⟨status, written, invoked, unchanged⟩ := worker.run_invoke_holding inputs shared base job
    ((worker.claimedJob inputs job).stamped (worker.claimedJob inputs job).status
      inputs.heartbeatAt) rfl
  have finished := run_updateStatus_holding shared base job
    (((worker.claimedJob inputs job).stamped (worker.claimedJob inputs job).status
      inputs.heartbeatAt).stamped status written) rfl .succeeded inputs.finishedAt
  unfold attempt execute
  rw [Prog.run_bind, run_andThen_ok _ _ beaten]
  unfold leftJob ending
  rw [if_pos known]
  cases outcome : worker.outcome inputs with
  | ok value =>
      rw [outcome] at invoked
      rw [run_andThen_ok _ _ invoked, run_andThen_ok _ _ finished]
      rfl
  | error error =>
      rw [outcome] at invoked
      rw [run_andThen_error _ _ invoked]
      dsimp only
      cases caught : error.isException with
      | true =>
          have recovered := worker.run_recover_holding inputs shared base job
            (((worker.claimedJob inputs job).stamped (worker.claimedJob inputs job).status
              inputs.heartbeatAt).stamped status written) rfl error
          exact recovered
      | false =>
          rw [outcome] at unchanged
          rcases unchanged with ⟨rfl, rfl⟩ | ⟨message, late⟩
          · rfl
          · cases late
            cases caught

end Worker

end CloudDogJobs
