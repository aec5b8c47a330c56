import CloudDogJobs.Worker.Commands

/-!
# Job queue

`queue.py` and `idempotency/manager.py`: submission and cancellation. The two
payload checks of `submit` are one parameter of the queue. Audit events are left
out: nothing reads them.
-/

namespace CloudDogJobs

open Foundation

/-- Idempotency keys with the job they name and the time they expire. -/
structure IdempotencyManager where
  ttlSeconds : Int := 86400
  entries : Dict String (String × Int) := ∅

/-- Return the existing job of a key that has not expired, otherwise store the
new one. -/
def IdempotencyManager.registerOrGet (manager : IdempotencyManager) (key jobId : String)
    (now : Int) : String × IdempotencyManager :=
  let stored : IdempotencyManager :=
    { manager with entries := manager.entries.set key (jobId, now + manager.ttlSeconds * 1000000) }
  match manager.entries.get? key with
  | some (existing, expires) => if expires > now then (existing, manager) else (jobId, stored)
  | none => (jobId, stored)

/-- The objects behind a queue: those it shares with workers, and its own keys. -/
structure QueueState (σ : Type) where
  shared : Shared σ
  idempotency : IdempotencyManager

/-- Facade over the configured backend. `admission` is `validate_payload_size`
followed by `assert_no_secrets`; `dependencyTracker` says whether the queue was
given the tracker. -/
structure JobQueue where
  admission : Dict String Value → Except PyError Unit
  dependencyTracker : Bool

namespace JobQueue

variable {σ : Type} (queue : JobQueue) (backend : QueueBackend σ)

/-- The key registration of `submit`; the job to return early, if the key is
taken. -/
def deduplicate (job : Job) (now : Int) (state : QueueState σ) : Option String × QueueState σ :=
  match job.idempotencyKey with
  | none => (none, state)
  | some key =>
      if key = "" then (none, state)
      else
        let (prior, manager) := state.idempotency.registerOrGet key job.jobId now
        (if prior ≠ job.jobId then some prior else none, { state with idempotency := manager })

/-- The dependency registration of `submit`. -/
def registerDependencies (job : Job) (shared : Shared σ) : Except PyError Unit × Shared σ :=
  if queue.dependencyTracker && !job.dependsOn.isEmpty then
    let (result, tracker) := shared.tracker.validateAndRegister job.jobId job.dependsOn
    (result, { shared with tracker := tracker })
  else (.ok (), shared)

/-- Submit a new job and return its identifier. `jobId` is the fresh `uuid4` and
`now` the time of the call. -/
def submit (request : JobRequest) (jobId : String) (now : Int) (state : QueueState σ) :
    Except PyError String × QueueState σ :=
  match queue.admission request.payload with
  | .error error => (.error error, state)
  | .ok () =>
      let job := Job.fromRequest request jobId now
      match deduplicate job now state with
      | (some prior, keyed) => (.ok prior, keyed)
      | (none, keyed) =>
          match queue.registerDependencies job keyed.shared with
          | (.error error, shared) => (.error error, { keyed with shared := shared })
          | (.ok (), shared) =>
              let (result, store) := backend.enqueue job now shared.store
              (result, { keyed with shared := { shared with store := store } })

/-- A submission that passes every check ends in the backend's `enqueue`. -/
theorem submit_of_registered {request : JobRequest} {jobId : String} {now : Int}
    {state keyed : QueueState σ} {shared : Shared σ}
    (accepted : queue.admission request.payload = .ok ())
    (fresh : deduplicate (.fromRequest request jobId now) now state = (none, keyed))
    (registered : queue.registerDependencies (.fromRequest request jobId now) keyed.shared =
      (.ok (), shared)) :
    queue.submit backend request jobId now state =
      ((backend.enqueue (.fromRequest request jobId now) now shared.store).1,
        { keyed with shared := { shared with
          store := (backend.enqueue (.fromRequest request jobId now) now shared.store).2 } }) := by
  simp only [submit, accepted, fresh, registered]

/-- Cancel an existing job. -/
def cancel (jobId : String) (now : Int) : WorkerProg (Except PyError Bool) :=
  WorkerProg.call (.updateStatus jobId .cancelled now)

end JobQueue

/-- A queue that accepts every payload, with a tracker. -/
def trackingQueue : JobQueue := ⟨fun _ => .ok (), true⟩

end CloudDogJobs
