import CloudDogJobs.Backend.Memory
import CloudDogJobs.Worker.Sequential

/-!
# Selection and the head of the queue

`run_once` asks the backend for one job and applies the dispatcher's checks to
that job only. An eligible job further back is not reached while the head of the
queue is refused.
-/

namespace CloudDogJobs

open Foundation

namespace Worker

variable (worker : Worker) (inputs : RunInputs) (shared : Shared MemoryQueueBackend)

/-- A queued job of the worker's queue whose tracked dependencies have all
succeeded and for which the configured manager and pool have room. -/
structure Eligible (job : Job) : Prop where
  stored : shared.store.get job.jobId = some job
  queued : job.status = .queued
  inQueue : job.matchesFilters none worker.queueName = true
  dependencies : worker.dependencyTracker = true →
    ∀ dependency ∈ shared.tracker.getDependencies job.jobId,
      shared.store.status? dependency = some .succeeded
  concurrency : worker.concurrency = true →
    shared.concurrency.canAcquire job.jobType ConcurrencyManager.unspecified
      ConcurrencyManager.unspecified = true
  resources : worker.resourcePool = true → shared.pool.canAcquire job.resources = true

/-- `run_once` claims some job. -/
def ClaimsSome : Prop :=
  ∃ jobId hostId workerId now,
    (⟨.claim jobId hostId workerId now, .ok true⟩ : Sigma WorkerCall.Reply) ∈
      (worker.runOnce inputs).trace (Shared.exec MemoryQueueBackend.contract) shared

/-- `run_once` claims a job whenever one is eligible, and returns `False` only
when none is. -/
def ServesEligible : Prop :=
  ((∃ job, worker.Eligible shared job) → worker.ClaimsSome inputs shared) ∧
    (((worker.runOnce inputs).run (Shared.exec MemoryQueueBackend.contract) shared).1 = .ok false →
      ¬ ∃ job, worker.Eligible shared job)

theorem candidate_memory :
    worker.candidate MemoryQueueBackend.contract shared =
      (shared.store.queued none worker.queueName).head? := by
  show (shared.store.dequeue 1 none worker.queueName).head? = _
  rw [MemoryQueueBackend.dequeue, slice_one, List.head?_take]
  rfl

/-- With nobody else around, the claim of a dequeued job is granted. -/
theorem claimEntry_memory {job : Job}
    (chosen : worker.selected MemoryQueueBackend.contract MemoryQueueBackend.view shared =
      some job) :
    worker.claimEntry MemoryQueueBackend.contract inputs shared job =
      ⟨.claim job.jobId worker.hostId worker.workerId inputs.claimAt, .ok true⟩ := by
  obtain ⟨_, head, _⟩ := selected_eq_some.mp chosen
  rw [candidate_memory] at head
  obtain ⟨stored, waiting, _⟩ :=
    (shared.store.mem_queued none worker.queueName job).mp (List.mem_of_head? head)
  have granted := (shared.store.claim_fst job.jobId worker.hostId worker.workerId
    inputs.claimAt).mpr (by simp [MemoryQueueBackend.status?, MemoryQueueBackend.view, stored,
      Job.ticket, waiting])
  unfold claimEntry
  congr 1
  exact congrArg Except.ok granted

theorem process_memory_ne_false {job : Job}
    (chosen : worker.selected MemoryQueueBackend.contract MemoryQueueBackend.view shared =
      some job) :
    ((worker.process inputs job).run (Shared.exec MemoryQueueBackend.contract)
      (worker.checks.taken shared job)).1 ≠ .ok false := by
  have granted := eq_of_heq (Sigma.mk.inj (worker.claimEntry_memory inputs shared chosen)).2
  rw [worker.run_process MemoryQueueBackend.contract inputs job
    (worker.checks.taken shared job) granted]
  exact (worker.ends_afterClaim inputs job).run _ _

theorem claimsSome_iff :
    worker.ClaimsSome inputs shared ↔
      ∃ job, worker.selected MemoryQueueBackend.contract MemoryQueueBackend.view shared =
        some job := by
  constructor
  · rintro ⟨jobId, hostId, workerId, now, issued⟩
    obtain ⟨job, chosen, _⟩ := worker.eq_claimEntry_of_mem_trace MemoryQueueBackend.contract
      MemoryQueueBackend.lawful inputs shared issued trivial
    exact ⟨job, chosen⟩
  · rintro ⟨job, chosen⟩
    have issued := worker.claimEntry_mem_trace MemoryQueueBackend.contract
      MemoryQueueBackend.lawful inputs shared chosen
    rw [worker.claimEntry_memory inputs shared chosen] at issued
    exact ⟨_, _, _, _, issued⟩

/-- **Selection is blocked by the head of the queue.** `run_once` serves the
eligible jobs exactly when there is none, or the worker is authorised and the
job at the head of its queue passes the dispatcher's checks. -/
theorem servesEligible_iff_head_admitted :
    worker.ServesEligible inputs shared ↔
      (∀ job, ¬ worker.Eligible shared job) ∨
        (worker.authorised = true ∧ ∃ head,
          (shared.store.queued none worker.queueName).head? = some head ∧
            worker.checks.admits MemoryQueueBackend.view shared head = true) := by
  rw [← candidate_memory]
  constructor
  · intro serves
    by_cases some : ∃ job, worker.Eligible shared job
    · obtain ⟨head, chosen⟩ := (worker.claimsSome_iff inputs shared).mp (serves.1 some)
      obtain ⟨authorised, first, admitted⟩ := selected_eq_some.mp chosen
      exact .inr ⟨authorised, head, first, admitted⟩
    · exact .inl (not_exists.mp some)
  · intro condition
    rcases condition with nothing | ⟨authorised, head, first, admitted⟩
    · exact ⟨fun ⟨job, eligible⟩ => absurd eligible (nothing job), fun _ => not_exists.mpr nothing⟩
    · have chosen := selected_eq_some.mpr ⟨authorised, first, admitted⟩
      refine ⟨fun _ => (worker.claimsSome_iff inputs shared).mpr ⟨head, chosen⟩, ?_⟩
      intro returned
      rw [worker.run_runOnce_of_selected MemoryQueueBackend.contract MemoryQueueBackend.lawful
        inputs shared chosen] at returned
      exact absurd returned (worker.process_memory_ne_false inputs shared chosen)

/-- `first` waits for `missing` and has the higher priority; `second` is free. -/
def blockedHead : Shared MemoryQueueBackend :=
  { Shared.fresh ((MemoryQueueBackend.empty.enqueue (.fromRequest
      { jobType := "task", priority := 5, dependsOn := ["missing"] } "first" 0)).2.enqueue
      (.fromRequest { jobType := "task" } "second" 1)).2 with
    tracker := DependencyTracker.empty.register "first" ["missing"] }

/-- A worker with a dispatcher returns `False` on a queue that holds an eligible
job behind a blocked one. -/
theorem blocked_head_hides_eligible_job :
    ¬ ∀ (worker : Worker) (inputs : RunInputs) (shared : Shared MemoryQueueBackend),
      worker.dispatcher.isSome = true → worker.ServesEligible inputs shared := by
  intro claimed
  have serves := claimed trackingWorker {} blockedHead rfl
  refine serves.2 rfl ⟨.fromRequest { jobType := "task" } "second" 1, ?_⟩
  exact
    { stored := rfl
      queued := rfl
      inQueue := rfl
      dependencies := fun _ _ member => by cases member
      concurrency := fun used => by cases used
      resources := fun used => by cases used }

end Worker

end CloudDogJobs
