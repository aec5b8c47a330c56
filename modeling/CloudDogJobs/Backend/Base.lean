import CloudDogJobs.Domain.Model

/-!
# Queue backend interface

The abstract methods of `backends/base.py` over a store of type `σ`. A method
that may raise returns an `Except`; a method that only reads leaves the store
out of its result. `now` is the clock reading of the call.
-/

namespace CloudDogJobs

open Foundation

/-- Backend contract used by the queue and worker layers. -/
structure QueueBackend (σ : Type) where
  enqueue : (job : Job) → (now : Int) → σ → Except PyError String × σ
  dequeue : (limit : Int) → (jobType queueName : Option String) → σ → Except PyError (List Job)
  claim : (jobId hostId workerId : String) → (now : Int) → σ → Except PyError Bool × σ
  release : (jobId : String) → (now : Int) → σ → Except PyError Bool × σ
  heartbeat : (jobId : String) → (now : Int) → σ → Except PyError Bool × σ
  get : (jobId : String) → σ → Except PyError (Option Job)
  updateStatus : (jobId status : String) → (now : Int) → σ → Except PyError Bool × σ
  recordAttempt : (jobId : String) → (error : Option String) → (now : Int) → σ →
    Except PyError Bool × σ

/-- What the scheduling layers read of a stored job. -/
structure Ticket where
  status : JobStatus
  jobType : String
  resources : Dict String Int
  dependsOn : List String

def Ticket.withStatus (ticket : Ticket) (status : JobStatus) : Ticket :=
  { ticket with status := status }

@[simp] theorem Ticket.withStatus_status (ticket : Ticket) (status : JobStatus) :
    (ticket.withStatus status).status = status := rfl

@[simp] theorem Ticket.withStatus_jobType (ticket : Ticket) (status : JobStatus) :
    (ticket.withStatus status).jobType = ticket.jobType := rfl

@[simp] theorem Ticket.withStatus_resources (ticket : Ticket) (status : JobStatus) :
    (ticket.withStatus status).resources = ticket.resources := rfl

def Job.ticket (job : Job) : Ticket :=
  ⟨job.status, job.jobType, job.resources, job.dependsOn⟩

/-- What the worker layer relies on, for a backend whose stored jobs are shown by
`view`: the calls of a worker return, a dequeued job is stored as it is shown,
and each call changes the status of one job at most. A claim may be refused for
any reason; a claim that is granted was on a queued job. -/
structure QueueBackend.Lawful {σ : Type} (backend : QueueBackend σ)
    (view : σ → String → Option Ticket) : Prop where
  get : ∀ jobId store, ∃ found, backend.get jobId store = .ok found ∧
    found.map Job.ticket = view store jobId
  dequeue : ∀ limit jobType queueName store, ∃ jobs,
    backend.dequeue limit jobType queueName store = .ok jobs ∧
      ∀ job ∈ jobs, job.status = .queued ∧ view store job.jobId = some job.ticket
  dequeue_length : ∀ limit jobType queueName store jobs,
    backend.dequeue limit jobType queueName store = .ok jobs →
      0 ≤ limit → jobs.length ≤ limit.toNat
  enqueue_self : ∀ job now store,
    view (backend.enqueue job now store).2 job.jobId = view store job.jobId ∨
      ∃ kept, view (backend.enqueue job now store).2 job.jobId = some kept ∧
        kept.status = job.status ∧ kept.jobType = job.jobType ∧
        (kept.resources = job.resources ∨ kept.resources = ∅)
  enqueue_other : ∀ job now store other, other ≠ job.jobId →
    view (backend.enqueue job now store).2 other = view store other
  claim_returns : ∀ jobId hostId workerId now store, ∃ claimed,
    (backend.claim jobId hostId workerId now store).1 = .ok claimed
  claim_queued : ∀ jobId hostId workerId now store,
    (backend.claim jobId hostId workerId now store).1 = .ok true →
      (view store jobId).map Ticket.status = some .queued
  view_claim : ∀ jobId hostId workerId now store other,
    view (backend.claim jobId hostId workerId now store).2 other =
      if other = jobId ∧ (backend.claim jobId hostId workerId now store).1 = .ok true
      then (view store jobId).map fun ticket => ticket.withStatus .running
      else view store other
  heartbeat_returns : ∀ jobId now store, ∃ found,
    (backend.heartbeat jobId now store).1 = .ok found
  view_heartbeat : ∀ jobId now store other,
    view (backend.heartbeat jobId now store).2 other = view store other
  updateStatus_returns : ∀ jobId (status : JobStatus) now store,
    (backend.updateStatus jobId status.value now store).1 = .ok (view store jobId).isSome
  view_updateStatus : ∀ jobId (status : JobStatus) now store other,
    view (backend.updateStatus jobId status.value now store).2 other =
      if other = jobId then (view store jobId).map fun ticket => ticket.withStatus status
      else view store other

/-- The contract with its administrative reads. -/
structure AdminBackend (σ : Type) extends QueueBackend σ where
  allJobs : σ → Except PyError (List Job)
  getQueueStatus : σ → Except PyError (Dict String Nat)

/-- What the administrative layers rely on: the laws of the worker layer, and that
`all_jobs` lists every stored job once, as `get` shows it. -/
structure AdminBackend.Lawful {σ : Type} (backend : AdminBackend σ)
    (view : σ → String → Option Ticket) : Prop
    extends backend.toQueueBackend.Lawful view where
  allJobs : ∀ store, ∃ jobs, backend.allJobs store = .ok jobs ∧
    (jobs.map Job.jobId).Nodup ∧
    ∀ job, job ∈ jobs ↔ backend.get job.jobId store = .ok (some job)

/-- `str | dict`: what `store_result` takes. -/
inductive ResultData
  | text (content : String)
  | object (dict : Dict String Value)

def ResultData.toValue : ResultData → Value
  | .text content => .str content
  | .object dict => .dict dict.entries

/-- A call on a backend. -/
inductive BackendOp
  | enqueue (job : Job) (now : Int)
  | dequeue (limit : Int) (jobType queueName : Option String)
  | claim (jobId hostId workerId : String) (now : Int)
  | release (jobId : String) (now : Int)
  | heartbeat (jobId : String) (now : Int)
  | updateStatus (jobId status : String) (now : Int)
  | recordAttempt (jobId : String) (error : Option String) (now : Int)

/-- What a call on a backend returns. -/
inductive BackendResult
  | jobId (jobId : String)
  | jobs (jobs : List Job)
  | flag (value : Bool)
  | jobIds (jobIds : List String)

/-- The job that a call with this result has claimed. -/
def BackendOp.claimed : BackendOp → Except PyError BackendResult → Option String
  | .claim jobId _ _ _, .ok (.flag true) => some jobId
  | _, _ => none

theorem BackendOp.claimed_eq_some {op : BackendOp} {result : Except PyError BackendResult}
    {jobId : String} (claimed : op.claimed result = some jobId) :
    (∃ hostId workerId now, op = .claim jobId hostId workerId now) ∧
      result = .ok (.flag true) := by
  unfold BackendOp.claimed at claimed
  split at claimed
  · next claimant hostId workerId now =>
      cases claimed
      exact ⟨⟨hostId, workerId, now, rfl⟩, rfl⟩
  · cases claimed

/-- The call as one step on the store. -/
def QueueBackend.perform {σ : Type} (backend : QueueBackend σ) :
    BackendOp → σ → Except PyError BackendResult × σ
  | .enqueue job now, store => (backend.enqueue job now store).map (·.map .jobId) id
  | .dequeue limit jobType queueName, store =>
      ((backend.dequeue limit jobType queueName store).map .jobs, store)
  | .claim jobId hostId workerId now, store =>
      (backend.claim jobId hostId workerId now store).map (·.map .flag) id
  | .release jobId now, store => (backend.release jobId now store).map (·.map .flag) id
  | .heartbeat jobId now, store => (backend.heartbeat jobId now store).map (·.map .flag) id
  | .updateStatus jobId status now, store =>
      (backend.updateStatus jobId status now store).map (·.map .flag) id
  | .recordAttempt jobId error now, store =>
      (backend.recordAttempt jobId error now store).map (·.map .flag) id

/-- What a call returns when it does not raise. -/
@[reducible] def BackendOp.Value : BackendOp → Type
  | .enqueue _ _ => String
  | .dequeue _ _ _ => List Job
  | _ => Bool

/-- The call as one step on the store, with the result of its method. -/
def QueueBackend.invoke {σ : Type} (backend : QueueBackend σ) :
    (op : BackendOp) → σ → Except PyError op.Value × σ
  | .enqueue job now, store => backend.enqueue job now store
  | .dequeue limit jobType queueName, store =>
      (backend.dequeue limit jobType queueName store, store)
  | .claim jobId hostId workerId now, store => backend.claim jobId hostId workerId now store
  | .release jobId now, store => backend.release jobId now store
  | .heartbeat jobId now, store => backend.heartbeat jobId now store
  | .updateStatus jobId status now, store => backend.updateStatus jobId status now store
  | .recordAttempt jobId error now, store => backend.recordAttempt jobId error now store

/-- `items[:limit]`: a negative limit drops that many items from the end. -/
def slice {α : Type} (limit : Int) (items : List α) : List α :=
  if 0 ≤ limit then items.take limit.toNat else items.take (items.length - (-limit).toNat)

theorem slice_one {α : Type} (items : List α) : slice 1 items = items.take 1 := rfl

theorem mem_of_mem_slice {α : Type} {limit : Int} {items : List α} {item : α}
    (member : item ∈ slice limit items) : item ∈ items := by
  unfold slice at member
  split at member
  · exact List.mem_of_mem_take member
  · exact List.mem_of_mem_take member

namespace Job

/-- The dispatch order `(-priority, created_at)`. -/
def DispatchLe (first second : Job) : Prop :=
  second.priority < first.priority ∨
    (first.priority = second.priority ∧ first.createdAt ≤ second.createdAt)

instance : DecidableRel DispatchLe := fun _ _ => inferInstanceAs (Decidable (_ ∨ _))

instance : Std.Total DispatchLe := ⟨fun first second => by
  unfold DispatchLe
  omega⟩

instance : IsTrans Job DispatchLe := ⟨fun first second third below above => by
  unfold DispatchLe at *
  omega⟩

/-- Whether the job passes the optional filters of `dequeue`. -/
def matchesFilters (jobType queueName : Option String) (job : Job) : Bool :=
  (match jobType with
    | none => true
    | some wanted => job.jobType = wanted) &&
  (match queueName with
    | none => true
    | some wanted => job.queueName = wanted)

end Job

end CloudDogJobs
