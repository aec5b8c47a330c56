import CloudDogJobs.Backend.Journal
import CloudDogJobs.Backend.Memory

/-!
# What a clone takes over

`AdminService.resubmit_job` and `reassign_queue` read a stored job and rebuild a request
from it field by field. Both lists leave out the resources, the dependencies, the
callback and the origin of the request, so a clone has the defaults there.
-/

namespace CloudDogJobs

open Foundation

variable {σ : Type}

namespace Job

/-- The clone agrees with the job in every field of a request, but for the idempotency key,
and stands in the given queue. -/
def AgreesWith (queueName : String) (clone job : Job) : Prop :=
  clone.request =
    { job.request with idempotencyKey := clone.idempotencyKey, queueName := queueName }

/-- The fields that the lists leave out have their defaults. -/
structure Unconstrained (job : Job) : Prop where
  resources : job.resources = ∅
  dependsOn : job.dependsOn = []
  callbackUrl : job.callbackUrl = none
  callbackMethod : job.callbackMethod = "POST"
  callbackHeaders : job.callbackHeaders = ∅
  requestSource : job.requestSource = none
  requestIp : job.requestIp = none
  requestAuthMethod : job.requestAuthMethod = none
  requestAuthIdentity : job.requestAuthIdentity = none
  requestUserAgent : job.requestUserAgent = none

end Job

namespace AdminService

/-- A clone agrees with its job when there was nothing to leave out. -/
theorem clone_agreesWith_iff (job : Job) (queueName newId : String) (now : Int) :
    (Job.fromRequest (cloneRequest job queueName) newId now).AgreesWith queueName job ↔
      job.Unconstrained := by
  have fields : (Job.fromRequest (cloneRequest job queueName) newId now).AgreesWith queueName job ↔
      ∅ = job.resources ∧ [] = job.dependsOn ∧ none = job.callbackUrl ∧
        "POST" = job.callbackMethod ∧ ∅ = job.callbackHeaders ∧ none = job.requestSource ∧
        none = job.requestIp ∧ none = job.requestAuthMethod ∧ none = job.requestAuthIdentity ∧
        none = job.requestUserAgent := by
    unfold Job.AgreesWith
    rw [Job.request_fromRequest]
    simp only [cloneRequest, Job.request, Job.fromRequest, JobRequest.mk.injEq, true_and]
  rw [fields]
  constructor
  · intro ⟨resources, dependsOn, url, method, headers, source, ip, scheme, identity, agent⟩
    exact ⟨resources.symm, dependsOn.symm, url.symm, method.symm, headers.symm, source.symm,
      ip.symm, scheme.symm, identity.symm, agent.symm⟩
  · intro plain
    exact ⟨plain.resources.symm, plain.dependsOn.symm, plain.callbackUrl.symm,
      plain.callbackMethod.symm, plain.callbackHeaders.symm, plain.requestSource.symm,
      plain.requestIp.symm, plain.requestAuthMethod.symm, plain.requestAuthIdentity.symm,
      plain.requestUserAgent.symm⟩

variable (admin : AdminService) (backend : QueueBackend σ) (jobId newId : String) (now : Int)

/-- A granted clone of a stored job is the one enqueued job. -/
theorem calls_guarded_clone {α : Type} {store : σ} {job : Job}
    (stored : backend.get jobId store = .ok (some job)) (permission : String)
    (queueName : Job → String)
    (finish : Except PyError (Option String) × Journal σ → Except PyError α × Journal σ)
    (keeps : ∀ outcome, (finish outcome).2 = outcome.2) :
    (admin.guarded permission (fun journal =>
        finish (clone backend.journaled queueName jobId newId now journal)) ⟨store, []⟩).2.calls =
      if admin.permits permission then
        [.enqueue (.fromRequest (cloneRequest job (queueName job)) newId now) now]
      else [] := by
  unfold guarded
  split
  · rw [keeps, clone]
    dsimp only [QueueBackend.journaled, Journal.note]
    rw [stored]
    rfl
  · rfl

/-- Every job that the operation enqueues agrees with the stored one. -/
def KeepsConstraints {α : Type} (queueName : String) (job : Job)
    (outcome : Except PyError α × Journal σ) : Prop :=
  ∀ clone time, BackendOp.enqueue clone time ∈ outcome.2.calls → clone.AgreesWith queueName job

theorem keepsConstraints_iff {α : Type} {queueName permission : String} {job : Job}
    {outcome : Except PyError α × Journal σ}
    (calls : outcome.2.calls = if admin.permits permission then
      [.enqueue (.fromRequest (cloneRequest job queueName) newId now) now] else []) :
    KeepsConstraints queueName job outcome ↔
      (admin.permits permission = true → job.Unconstrained) := by
  unfold KeepsConstraints
  rw [calls]
  by_cases permitted : admin.permits permission = true
  · rw [if_pos permitted, ← clone_agreesWith_iff job queueName newId now]
    simp only [List.mem_singleton, BackendOp.enqueue.injEq, permitted, true_implies]
    constructor
    · intro agrees
      exact agrees _ now ⟨rfl, rfl⟩
    · intro agrees clone time same
      rw [same.1]
      exact agrees
  · rw [if_neg permitted]
    refine iff_of_true ?_ fun granted => absurd granted permitted
    intro clone time member
    cases member

/-- **When a clone keeps the job's constraints.** On every backend and for every stored
job, the job that `resubmit_job`, or `reassign_queue` with any target queue, enqueues
agrees with the stored one in every field of a request but the idempotency key and, when
reassigned, the queue, exactly when the caller may not make the call or the stored job
has the defaults for its resources, its dependencies, its callback and the origin of its
request. -/
theorem clone_keeps_constraints_iff {store : σ} {job : Job}
    (stored : backend.get jobId store = .ok (some job)) (queueName : String) :
    (KeepsConstraints job.queueName job
        (admin.resubmitJob backend.journaled jobId newId now ⟨store, []⟩) ↔
      (admin.permits "jobs.resubmit" = true → job.Unconstrained)) ∧
    (KeepsConstraints queueName job
        (admin.reassignQueue backend.journaled jobId queueName newId now ⟨store, []⟩) ↔
      (admin.permits "jobs.reassign" = true → job.Unconstrained)) := by
  constructor
  · exact admin.keepsConstraints_iff newId now
      (admin.calls_guarded_clone backend jobId newId now stored "jobs.resubmit" Job.queueName
        (fun outcome => outcome) fun _ => rfl)
  · exact admin.keepsConstraints_iff newId now
      (admin.calls_guarded_clone backend jobId newId now stored "jobs.reassign"
        (fun _ => queueName) (fun outcome => (outcome.1.map fun cloneId : Option String =>
          cloneId.any fun text => decide (text ≠ ""), outcome.2)) fun _ => rfl)

/-- A nightly job of a user that needs some of a resource. -/
def trainJob (resources : Dict String Int) : Job :=
  .fromRequest
    { jobType := "train"
      queueName := "nightly"
      payload := Dict.empty.set "epochs" (.int 10)
      priority := 7
      appId := some "lab"
      tenantId := some "physics"
      userId := some "ann"
      sessionId := some "session-1"
      channelId := some "mail"
      idempotencyKey := some "run-1"
      correlationId := some "trace-1"
      resources := resources }
    "job" 0

/-- A job that needs nothing is cloned as it is, into its own queue or into another. -/
theorem unconstrained_job_is_cloned :
    KeepsConstraints "nightly" (trainJob ∅)
        ((AdminService.mk none).resubmitJob MemoryQueueBackend.contract.journaled "job" "clone" 1
          ⟨.holding (trainJob ∅), []⟩) ∧
      KeepsConstraints "daily" (trainJob ∅)
        ((AdminService.mk none).reassignQueue MemoryQueueBackend.contract.journaled "job" "daily"
          "clone" 1 ⟨.holding (trainJob ∅), []⟩) := by
  have plain : (trainJob ∅).Unconstrained := ⟨rfl, rfl, rfl, rfl, rfl, rfl, rfl, rfl, rfl, rfl⟩
  have stored : MemoryQueueBackend.contract.get "job" (.holding (trainJob ∅)) =
      .ok (some (trainJob ∅)) := rfl
  have keeps := (AdminService.mk none).clone_keeps_constraints_iff MemoryQueueBackend.contract
    "job" "clone" 1 stored "daily"
  exact ⟨keeps.1.mpr fun _ => plain, keeps.2.mpr fun _ => plain⟩

/-- A job that needs a processor is cloned without the need. -/
theorem resources_are_not_cloned :
    ¬ ∀ (admin : AdminService) (store : MemoryQueueBackend) (jobId newId : String) (now : Int)
      (job : Job), store.get jobId = some job →
        KeepsConstraints job.queueName job
          (admin.resubmitJob MemoryQueueBackend.contract.journaled jobId newId now
            ⟨store, []⟩) := by
  intro keeps
  have agrees := keeps ⟨none⟩ (.holding (trainJob (Dict.empty.set "gpu" 1))) "job" "clone" 1 _
    rfl _ 1 List.mem_cons_self
  have needs := congrArg (fun request : JobRequest => request.resources.get? "gpu") agrees
  cases needs

end AdminService

end CloudDogJobs
