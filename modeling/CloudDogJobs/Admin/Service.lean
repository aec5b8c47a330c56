import CloudDogJobs.Backend.Base

/-!
# Administrative operations

`admin/service.py` and `admin/bulk.py`: the operations that put jobs into the
backend or change the status of stored jobs. `now` is the clock reading of the
call and an identifier of a new job its `uuid4`. Audit events are left out:
nothing reads them.
-/

namespace CloudDogJobs

open Foundation

variable {σ : Type}

/-- What a pass over the stored jobs does with one of them: write a status, and
record the write when the job was found. -/
structure Rewrite (κ : Type) where
  target : JobStatus
  count : κ → κ

/-- The loop of the operations that go through listed jobs. Each job is left
alone, rewritten, or makes the loop raise. -/
def QueueBackend.pass {κ : Type} (backend : QueueBackend σ)
    (choose : Job → Except PyError (Option (Rewrite κ))) (now : Int) :
    List Job → κ → σ → Except PyError κ × σ
  | [], tally, store => (.ok tally, store)
  | job :: rest, tally, store =>
      match choose job with
      | .error error => (.error error, store)
      | .ok none => backend.pass choose now rest tally store
      | .ok (some rewrite) =>
          match backend.updateStatus job.jobId rewrite.target.value now store with
          | (.error error, next) => (.error error, next)
          | (.ok found, next) =>
              backend.pass choose now rest (if found then rewrite.count tally else tally) next

/-- The loop over everything that `all_jobs` lists. -/
def AdminBackend.passAll {κ : Type} (backend : AdminBackend σ)
    (choose : Job → Except PyError (Option (Rewrite κ))) (now : Int) (start : κ) (store : σ) :
    Except PyError κ × σ :=
  match backend.allJobs store with
  | .error error => (.error error, store)
  | .ok jobs => backend.pass choose now jobs start store

/-- Whether a time lies more than a number of seconds back. -/
def olderThan (time seconds now : Int) : Bool := seconds * 1000000 < now - time

/-- `(options or {key: fallback}).get(key, fallback)`. The options hold integers,
which `int` gives back. -/
def secondsOf (options : Option (Dict String Int)) (key : String) (fallback : Int) : Int :=
  match options with
  | none => fallback
  | some given => given.getD key fallback

/-- Administrative operations over the queue backend. -/
structure AdminService where
  permissionChecker : Option (String → Bool)

namespace AdminService

variable (admin : AdminService)

/-- The permission is granted, or nobody checks. -/
def permits (permission : String) : Bool :=
  match admin.permissionChecker with
  | none => true
  | some granted => granted permission

/-- Run an operation behind `_require`. -/
def guarded {α : Type} (permission : String) (operation : σ → Except PyError α × σ) (store : σ) :
    Except PyError α × σ :=
  if admin.permits permission then operation store
  else (.error (.permissionError ("Missing required permission: " ++ permission)), store)

section Producers

variable (backend : QueueBackend σ)

/-- Submit a job via the admin interface: straight to the backend. -/
def submitJob (request : JobRequest) (newId : String) (now : Int) :
    σ → Except PyError String × σ :=
  admin.guarded "jobs.submit" (backend.enqueue (.fromRequest request newId now) now)

/-- What a clone takes over from a stored job. -/
def cloneRequest (job : Job) (queueName : String) : JobRequest where
  jobType := job.jobType
  queueName := queueName
  payload := job.payload
  priority := job.priority
  correlationId := job.correlationId
  appId := job.appId
  tenantId := job.tenantId
  userId := job.userId
  sessionId := job.sessionId
  channelId := job.channelId

/-- Enqueue a clone of a stored job; `none` when there is no such job. -/
def clone (queueName : Job → String) (jobId newId : String) (now : Int) (store : σ) :
    Except PyError (Option String) × σ :=
  match backend.get jobId store with
  | .error error => (.error error, store)
  | .ok none => (.ok none, store)
  | .ok (some job) =>
      let (result, next) :=
        backend.enqueue (.fromRequest (cloneRequest job (queueName job)) newId now) now store
      (result.map some, next)

/-- Clone and resubmit a job. -/
def resubmitJob (jobId newId : String) (now : Int) : σ → Except PyError (Option String) × σ :=
  admin.guarded "jobs.resubmit" (clone backend Job.queueName jobId newId now)

/-- Reassign a job by resubmitting a clone of it into a target queue. -/
def reassignQueue (jobId queueName newId : String) (now : Int) : σ → Except PyError Bool × σ :=
  admin.guarded "jobs.reassign" fun store =>
    let (result, next) := clone backend (fun _ => queueName) jobId newId now store
    (result.map fun cloneId => cloneId.any (· ≠ ""), next)

end Producers

section Single

variable (backend : QueueBackend σ) (jobId : String) (now : Int)

/-- Minimal update operation: the priority of the job that `get` returned is set, and the
job released. `assign` is what setting it does to the store, where the object returned
may be the stored job or a copy. -/
def updateJob (assign : String → Int → σ → σ) (priority : Option Int) :
    σ → Except PyError Bool × σ :=
  admin.guarded "jobs.update" fun store =>
    match backend.get jobId store with
    | .error error => (.error error, store)
    | .ok none => (.ok false, store)
    | .ok (some _) =>
        match priority with
        | none => (.ok true, store)
        | some priority =>
            let (result, next) := backend.release jobId now (assign jobId priority store)
            (result.map fun _ => true, next)

/-- Soft-delete by marking cancelled. -/
def deleteJob : σ → Except PyError Bool × σ :=
  admin.guarded "jobs.delete" (backend.updateStatus jobId JobStatus.cancelled.value now)

def cancelJob : σ → Except PyError Bool × σ :=
  admin.guarded "jobs.cancel" (backend.updateStatus jobId JobStatus.cancelled.value now)

/-- Reschedule by returning to queued state; the given time is not used. -/
def rescheduleJob : σ → Except PyError Bool × σ :=
  admin.guarded "jobs.reschedule" (backend.updateStatus jobId JobStatus.queued.value now)

/-- Retry immediately by transitioning to queued state. -/
def retryNow : σ → Except PyError Bool × σ :=
  admin.guarded "jobs.retry" (backend.updateStatus jobId JobStatus.queued.value now)

end Single

variable (backend : AdminBackend σ) (now : Int)

/-- The jobs that `clear_old_jobs` cancels. -/
def oldJob (maxAge now : Int) (job : Job) : Bool :=
  olderThan job.updatedAt maxAge now && job.status ∉ [.succeeded, .failed, .cancelled]

/-- Clear jobs older than the configured age by marking them cancelled. -/
def clearOldJobs (policy : Option (Dict String Int)) : σ → Except PyError Nat × σ :=
  let maxAge := secondsOf policy "max_age_seconds" 86400
  admin.guarded "jobs.purge" (backend.passAll
    (fun job => .ok (if oldJob maxAge now job then some ⟨.cancelled, (· + 1)⟩ else none)) now 0)

/-- The jobs that count as stuck: running, and not touched within the timeout. -/
def stuckJob (timeout now : Int) (job : Job) : Bool :=
  job.status = .running && olderThan job.updatedAt timeout now

/-- The status that the action gives to a stuck job. -/
def stuckTarget (action : String) : JobStatus :=
  if action = "cancel" then .cancelled else .failed

/-- Clear jobs stuck in running state beyond the timeout. -/
def clearStuckJobs (filter : Option (Dict String Int)) (action : String) :
    σ → Except PyError Nat × σ :=
  let timeout := secondsOf filter "claim_timeout_seconds" 60
  admin.guarded "jobs.stuck_recovery" (backend.passAll
    (fun job => .ok
      (if stuckJob timeout now job then some ⟨stuckTarget action, (· + 1)⟩ else none)) now 0)

end AdminService

namespace BulkAdminOperations

/-- The status that a bulk action gives to its jobs. -/
def actionTarget (action : String) : Except PyError JobStatus :=
  if action = "cancel" then .ok .cancelled
  else if action = "retry" then .ok .queued
  else if action = "fail" then .ok .failed
  else .error (.valueError ("Unsupported bulk action: " ++ action))

/-- What `apply` does with a job: nothing unless it is listed. The action is looked
at only then. -/
def choose (action : String) (jobIds : List String) (job : Job) :
    Except PyError (Option (Rewrite Nat)) :=
  if job.jobId ∈ jobIds then (actionTarget action).map fun target => some ⟨target, (· + 1)⟩
  else .ok none

end BulkAdminOperations

/-- Bulk update over job identifiers: `apply` with no other filter, behind the same
permission twice. -/
def AdminService.bulkUpdate (admin : AdminService) (backend : AdminBackend σ)
    (jobIds : List String) (action : String) (now : Int) : σ → Except PyError Nat × σ :=
  admin.guarded "jobs.bulk" (admin.guarded "jobs.bulk"
    (backend.passAll (BulkAdminOperations.choose action jobIds) now 0))

/-- A report in the given status. -/
def reportJob (status : JobStatus) : Job :=
  { Job.fromRequest { jobType := "report" } "job" 0 with status := status }

end CloudDogJobs
