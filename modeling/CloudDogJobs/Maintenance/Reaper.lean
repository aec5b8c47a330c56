import CloudDogJobs.Admin.Service

/-!
# Maintenance sweep

`maintenance/reaper.py` with the two age checks of `ttl/expiry.py` and
`ttl/retention.py`.
-/

namespace CloudDogJobs

open Foundation

/-- The TTL of a job has elapsed. -/
def isTtlExpired (createdAt ttlSeconds now : Int) : Bool := olderThan createdAt ttlSeconds now

/-- The job is past its retention. -/
def shouldPurge (updatedAt maxAgeSeconds now : Int) : Bool := olderThan updatedAt maxAgeSeconds now

/-- The counters of a sweep. -/
structure SweepSummary where
  stuckRecovered : Nat := 0
  ttlExpired : Nat := 0
  retentionPurged : Nat := 0
  deriving DecidableEq, Repr

structure MaintenanceReaper where
  claimTimeoutSeconds : Int := 60

namespace MaintenanceReaper

/-- Return running jobs older than the claim timeout, of those that `dequeue` shows. -/
def findStuckJobIds {σ : Type} (reaper : MaintenanceReaper) (now : Int) (backend : QueueBackend σ)
    (store : σ) : Except PyError (List String) := do
  let jobs ← backend.dequeue 10000 none none store
  return (jobs.filter fun job =>
    job.status = .running && olderThan job.updatedAt reaper.claimTimeoutSeconds now).map Job.jobId

variable (reaper : MaintenanceReaper) (ttlSeconds retentionSeconds now : Int)

/-- What a sweep does with a job: the first of the three cases that applies. -/
def choose (job : Job) : Option (Rewrite SweepSummary) :=
  if job.status = .running && olderThan job.updatedAt reaper.claimTimeoutSeconds now then
    some ⟨.failed, fun summary => { summary with stuckRecovered := summary.stuckRecovered + 1 }⟩
  else if job.status ∈ [.queued, .running] && isTtlExpired job.createdAt ttlSeconds now then
    some ⟨.ttlExpired, fun summary => { summary with ttlExpired := summary.ttlExpired + 1 }⟩
  else if shouldPurge job.updatedAt retentionSeconds now then
    some ⟨.cancelled, fun summary =>
      { summary with retentionPurged := summary.retentionPurged + 1 }⟩
  else none

/-- Run a stuck, TTL and retention sweep and return the counts. -/
def runSweep {σ : Type} (backend : AdminBackend σ) (store : σ) :
    Except PyError SweepSummary × σ :=
  backend.passAll (fun job => .ok (reaper.choose ttlSeconds retentionSeconds now job)) now {} store

end MaintenanceReaper

end CloudDogJobs
