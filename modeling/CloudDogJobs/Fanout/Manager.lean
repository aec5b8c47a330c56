import CloudDogJobs.Domain.Codec
import CloudDogJobs.Foundation.Doubles
import CloudDogJobs.Queue.Queue

/-!
# Fan-out manager

`fanout/manager.py`: child jobs of a parent, submitted one by one through the
queue and recorded together at the end. The record lives in the manager; the
queue and the store are threaded through each call. A run also keeps the list of
children that were enqueued for each parent, so that it can be compared with the
record.
-/

namespace CloudDogJobs

open Foundation

/-- Specification of a child job. -/
structure ChildJobSpec where
  jobType : String
  payload : Dict String Value
  queueName : String := "default"
  priority : Int := 0

/-- An element of `child_specs`. -/
inductive FanOutSpec
  | typed (spec : ChildJobSpec)
  | fields (spec : Dict String Value)

namespace FanOutSpec

/-- `spec.get(key) or fallback`. -/
def getOr (spec : Dict String Value) (key : String) (fallback : Value) : Value :=
  match spec.get? key with
  | some value => if value.truthy then value else fallback
  | none => fallback

/-- The typed specification, or what reading a dictionary raises. -/
def read (builtins : Builtins) : FanOutSpec → Except PyError ChildJobSpec
  | .typed spec => .ok spec
  | .fields spec =>
      match spec.get? "job_type" with
      | none => .error (.keyError "job_type")
      | some jobType => do
          let payload ← builtins.dict (getOr spec "payload" (.dict []))
          let priority ← builtins.int (getOr spec "priority" (.int 0))
          return {
            jobType := builtins.str jobType
            payload := payload
            queueName := builtins.str (getOr spec "queue_name" (.str "default"))
            priority := priority }

end FanOutSpec

/-- The request for a child, linked to its parent by the payload. -/
def ChildJobSpec.request (spec : ChildJobSpec) (parentJobId : String) : JobRequest where
  jobType := spec.jobType
  queueName := spec.queueName
  payload := spec.payload.set "__fanout_parent_job_id" (.str parentJobId)
  priority := spec.priority

/-- A child of one call: its specification, the `uuid4` and the time of its
submission. -/
structure FanOutChild where
  spec : FanOutSpec
  jobId : String
  now : Int

/-- Parent/child records. -/
structure FanOutManager where
  childrenByParent : Dict String (List String)

/-- The comparison of `aggregate_child_statuses` with a threshold, of which the exact
value is given. The ratio is a float: the double nearest to the quotient. -/
def aggregateWithThreshold (successes active total : Nat) (threshold : Rat) : JobStatus :=
  if active > 0 then .running
  else if roundDouble (successes / total) ≥ min (max threshold 0) 1 then .succeeded
  else .failed

/-- Aggregate child statuses into a parent status. -/
def aggregateChildStatuses (statuses : List JobStatus) (threshold : Option Rat) : JobStatus :=
  if statuses.isEmpty then .queued
  else
    let successes := statuses.countP fun status => status = .succeeded
    let failures := statuses.countP fun status => status = .failed
    let active := statuses.countP fun status =>
      status ∈ [JobStatus.queued, .scheduled, .running, .retryWait, .paused]
    match threshold with
    | some threshold => aggregateWithThreshold successes active statuses.length threshold
    | none =>
        if failures > 0 then .failed
        else if successes = statuses.length then .succeeded
        else if active > 0 then .running
        else .queued

namespace FanOutManager

section Operations

variable {σ : Type} (builtins : Builtins) (queue : JobQueue) (backend : QueueBackend σ)

/-- The loop of `create_fan_out`: its outcome and the local list of child ids
when it ends. -/
def submitChildren (parentJobId : String) :
    List FanOutChild → QueueState σ → Except PyError Unit × List String × QueueState σ
  | [], state => (.ok (), [], state)
  | child :: rest, state =>
      match child.spec.read builtins with
      | .error error => (.error error, [], state)
      | .ok spec =>
          match queue.submit backend (spec.request parentJobId) child.jobId child.now state with
          | (.error error, next) => (.error error, [], next)
          | (.ok childId, next) =>
              let (outcome, childIds, last) := submitChildren parentJobId rest next
              (outcome, childId :: childIds, last)

/-- Create child jobs and record them; an exception in the loop skips the
record. -/
def createFanOut (manager : FanOutManager) (parentJobId : String) (children : List FanOutChild)
    (state : QueueState σ) : Except PyError (List String) × FanOutManager × QueueState σ :=
  match submitChildren builtins queue backend parentJobId children state with
  | (.error error, _, next) => (.error error, manager, next)
  | (.ok (), childIds, next) =>
      (.ok childIds, ⟨manager.childrenByParent.set parentJobId childIds⟩, next)

/-- The queue changes in the loop only. -/
theorem createFanOut_queue (manager : FanOutManager) (parentJobId : String)
    (children : List FanOutChild) (state : QueueState σ) :
    (manager.createFanOut builtins queue backend parentJobId children state).2.2 =
      (submitChildren builtins queue backend parentJobId children state).2.2 := by
  unfold createFanOut
  split
  · next raised => rw [raised]
  · next returned => rw [returned]

/-- The recorded children of a parent. -/
def getChildren (manager : FanOutManager) (parentJobId : String) : List String :=
  manager.childrenByParent.getD parentJobId []

/-- The status of a child for the aggregate; a missing child counts as failed. -/
def childStatus (store : σ) (childId : String) : Except PyError JobStatus := do
  let child ← backend.get childId store
  return match child with
    | none => .failed
    | some job => job.status

/-- The statuses that `aggregate_parent_status` collects. -/
def childStatuses (manager : FanOutManager) (parentJobId : String) (store : σ) :
    Except PyError (List JobStatus) :=
  (manager.getChildren parentJobId).mapM (childStatus backend store)

/-- The aggregate status of a parent. -/
def aggregateParentStatus (manager : FanOutManager) (parentJobId : String)
    (threshold : Option Rat) (store : σ) : Except PyError JobStatus := do
  let statuses ← manager.childStatuses backend parentJobId store
  return aggregateChildStatuses statuses threshold

/-- The loop of cancellations: how many were applied. -/
def cancelAll (now : Int) : List String → σ → Except PyError Nat × σ
  | [], store => (.ok 0, store)
  | jobId :: rest, store =>
      match backend.updateStatus jobId JobStatus.cancelled.value now store with
      | (.error error, next) => (.error error, next)
      | (.ok found, next) =>
          match cancelAll now rest next with
          | (.error error, last) => (.error error, last)
          | (.ok cancelled, last) => (.ok (cancelled + found.toNat), last)

/-- Cancel a parent and its recorded children. -/
def cancelParentAndChildren (manager : FanOutManager) (parentJobId : String) (now : Int) :
    σ → Except PyError Nat × σ :=
  cancelAll backend now (parentJobId :: manager.getChildren parentJobId)

end Operations

end FanOutManager

end CloudDogJobs
