import CloudDogJobs.Worker.Commands

/-!
# Dispatcher

`scheduler/dispatcher.py`: selection of jobs from the backend under dependency,
concurrency and resource checks. The limit of the selection is the limit of the
`dequeue` call, so the checks filter a list that is already cut.
-/

namespace CloudDogJobs

open Foundation WorkerProg

/-- Which of the shared objects the dispatcher was given. -/
structure Dispatcher where
  concurrency : Bool
  resourcePool : Bool
  dependencyTracker : Bool
  deriving DecidableEq, Repr

namespace Dispatcher

/-- Look up a job's status via the backend. -/
def getJobStatus (jobId : String) : WorkerProg (Except PyError (Option JobStatus)) :=
  andThen (call (.get jobId)) fun job => return .ok (job.map Job.status)

/-- The loop of `DependencyTracker.is_runnable` over the tracked dependencies. -/
def allSucceeded : List String → WorkerProg (Except PyError Bool)
  | [] => return .ok true
  | dependency :: rest =>
      andThen (getJobStatus dependency) fun status =>
        if status ≠ some .succeeded then return .ok false else allSucceeded rest

/-- `DependencyTracker.is_runnable` with the backend as the status getter. The
edges are read under the lock, the statuses one by one after it. -/
def isRunnable (jobId : String) : WorkerProg (Except PyError Bool) := do
  let dependencies ← call (.trackedDependencies jobId)
  allSucceeded dependencies

variable (dispatcher : Dispatcher)

/-- The dependency check is made for a job that names dependencies itself. -/
def checkDependencies (job : Job) : WorkerProg (Except PyError Bool) :=
  if dispatcher.dependencyTracker && !job.dependsOn.isEmpty then isRunnable job.jobId
  else return .ok true

def acquireConcurrency (job : Job) : WorkerProg Bool :=
  if dispatcher.concurrency then call (.acquireConcurrency job.jobType) else return true

def releaseConcurrency (job : Job) : WorkerProg Unit :=
  if dispatcher.concurrency then call (.releaseConcurrency job.jobType) else return ()

def acquireResources (job : Job) : WorkerProg Bool :=
  if dispatcher.resourcePool && !job.resources.isEmpty then
    call (.acquireResources job.jobId job.resources)
  else return true

/-- Take the slots of a job: all of them, or none. -/
def acquireSlots (job : Job) : WorkerProg Bool := do
  if ← dispatcher.acquireConcurrency job then
    if ← dispatcher.acquireResources job then return true
    else
      dispatcher.releaseConcurrency job
      return false
  else return false

/-- One round of the selection loop: whether the job is appended. -/
def consider (job : Job) : WorkerProg (Except PyError Bool) :=
  andThen (dispatcher.checkDependencies job) fun runnable =>
    if runnable then do
      let granted ← dispatcher.acquireSlots job
      return .ok granted
    else return .ok false

/-- The selection loop. -/
def selectFrom : List Job → WorkerProg (Except PyError (List Job))
  | [] => return .ok []
  | job :: rest =>
      andThen (dispatcher.consider job) fun admitted =>
        andThen (selectFrom rest) fun selected =>
          return .ok (if admitted then job :: selected else selected)

def selectEligible (limit : Int) (queueName : Option String) :
    WorkerProg (Except PyError (List Job)) :=
  andThen (call (.dequeue limit queueName)) fun jobs =>
    dispatcher.selectFrom jobs

/-- Release concurrency and resource slots when a job finishes. -/
def releaseJob (job : Job) : WorkerProg Unit := do
  dispatcher.releaseConcurrency job
  if dispatcher.resourcePool then call (.releaseResources job.jobId) else return ()

end Dispatcher

end CloudDogJobs
