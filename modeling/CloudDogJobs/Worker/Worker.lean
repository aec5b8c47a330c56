import CloudDogJobs.Extensions.Fallback
import CloudDogJobs.Scheduler.Dispatcher

/-!
# Worker

`worker/worker.py`: one round of the run loop. Audit events and metrics are left
out: nothing reads them.
-/

namespace CloudDogJobs

open Foundation WorkerProg

/-- The configuration of a worker. `handlers` are the registered job types, and
`runTimeoutSeconds` is kept as the text of the timeout message. -/
structure Worker where
  hostId : String := "localhost"
  workerId : String := "worker-1"
  queueName : Option String := none
  runTimeoutSeconds : Option String := none
  identityAuthoriser : Option (String → String → Bool) := none
  fallbackPolicies : Option FallbackPolicyManager := none
  handlers : List String := []
  concurrency : Bool := false
  resourcePool : Bool := false
  dependencyTracker : Bool := false

namespace Worker

/-- A dispatcher exists when any of its three objects was supplied. -/
def dispatcher (worker : Worker) : Option Dispatcher :=
  if worker.resourcePool || worker.concurrency || worker.dependencyTracker then
    some ⟨worker.concurrency, worker.resourcePool, worker.dependencyTracker⟩
  else none

/-- The checks the worker makes; none of them without a dispatcher. -/
def checks (worker : Worker) : Dispatcher :=
  ⟨worker.concurrency, worker.resourcePool, worker.dependencyTracker⟩

theorem dispatcher_cases (worker : Worker) :
    worker.dispatcher = some worker.checks ∨
      (worker.dispatcher = none ∧ worker.checks = ⟨false, false, false⟩) := by
  unfold dispatcher checks
  cases worker.resourcePool <;> cases worker.concurrency <;> cases worker.dependencyTracker <;> simp

def authorised (worker : Worker) : Bool :=
  match worker.identityAuthoriser with
  | none => true
  | some authoriser => authoriser worker.hostId worker.workerId

/-- The job selection at the head of `run_once`. -/
def select (worker : Worker) : WorkerProg (Except PyError (List Job)) :=
  match worker.dispatcher with
  | some dispatcher => dispatcher.selectEligible 1 worker.queueName
  | none => call (.dequeue 1 worker.queueName)

def releaseJob (worker : Worker) (job : Job) : WorkerProg Unit :=
  match worker.dispatcher with
  | some dispatcher => dispatcher.releaseJob job
  | none => return ()

/-- Run the handler, in a thread of its own when there is a run timeout. -/
def invoke (worker : Worker) (inputs : RunInputs) (job : Job) :
    WorkerProg (Except PyError Unit) := do
  call (.handle job)
  match worker.runTimeoutSeconds with
  | none => return inputs.handler
  | some seconds =>
      if inputs.late then
        andThen (call (.updateStatus job.jobId .timeout inputs.timeoutAt))
          fun _ => return .error (.timeoutError ("Job timed out after " ++ seconds ++ "s"))
      else return inputs.handler

/-- The body of the `try` block. -/
def execute (worker : Worker) (inputs : RunInputs) (job : Job) :
    WorkerProg (Except PyError Bool) :=
  andThen (call (.heartbeat job.jobId inputs.heartbeatAt)) fun _ =>
    andThen (worker.invoke inputs job) fun _ =>
      andThen (call (.updateStatus job.jobId .succeeded inputs.finishedAt))
        fun _ => return .ok true

/-- The `except Exception` clause. -/
def recover (worker : Worker) (inputs : RunInputs) (job : Job) (error : PyError) :
    WorkerProg (Except PyError Bool) :=
  match worker.fallbackPolicies with
  | some manager =>
      andThen (manager.apply inputs job error) fun decision =>
        return if decision.shouldRaise then .error error else .ok true
  | none =>
      andThen (call (.updateStatus job.jobId .failed inputs.finishedAt))
        fun _ => return .error error

/-- The `try` block with its `except` clause. -/
def attempt (worker : Worker) (inputs : RunInputs) (job : Job) :
    WorkerProg (Except PyError Bool) := do
  match ← worker.execute inputs job with
  | .ok processed => return .ok processed
  | .error error =>
      if error.isException then worker.recover inputs job error else return .error error

/-- What follows the claim. The handler lookup stands before the `try` block, so
its `KeyError` passes neither the `except` nor the `finally` clause. -/
def afterClaim (worker : Worker) (inputs : RunInputs) (job : Job) (claimed : Bool) :
    WorkerProg (Except PyError Bool) :=
  if claimed then
    if job.jobType ∈ worker.handlers then do
      let result ← worker.attempt inputs job
      worker.releaseJob job
      return result
    else return .error (.keyError ("Unknown job_type: " ++ job.jobType))
  else do
    worker.releaseJob job
    return .ok false

/-- Claim a selected job and run it. -/
def process (worker : Worker) (inputs : RunInputs) (job : Job) :
    WorkerProg (Except PyError Bool) :=
  andThen (call (.claim job.jobId worker.hostId worker.workerId inputs.claimAt))
    (worker.afterClaim inputs job)

/-- Run one eligible job and return whether a job was processed. -/
def runOnce (worker : Worker) (inputs : RunInputs) : WorkerProg (Except PyError Bool) :=
  if worker.authorised then
    andThen worker.select fun
      | [] => return .ok false
      | job :: _ => worker.process inputs job
  else
    return .error (.permissionError
      ("Worker identity not authorised: " ++ worker.hostId ++ ":" ++ worker.workerId))

end Worker

/-- A worker for tasks that checks dependencies. -/
def trackingWorker : Worker := { dependencyTracker := true, handlers := ["task"] }

/-- Two workers for tasks. -/
def taskWorkers : Bool → Worker := fun _ => { handlers := ["task"] }

end CloudDogJobs
