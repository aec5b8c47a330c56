import CloudDogJobs.Worker.Commands

/-!
# Fallback policies

`extensions/fallback_policies.py`: what a worker does with a job whose handler
failed, by job type.
-/

namespace CloudDogJobs

open Foundation WorkerProg

inductive FallbackAction
  | retry
  | deadLetter
  | notify
  | ignore
  deriving DecidableEq, Repr

structure FallbackPolicy where
  action : FallbackAction := .retry
  deadLetterQueue : String := "dead_letter"
  notifyUrl : Option String := none
  deriving DecidableEq, Repr

structure FallbackDecision where
  action : FallbackAction
  status : JobStatus
  shouldRaise : Bool
  deadLetterJobId : Option String := none
  deriving DecidableEq, Repr

/-- What one `run_once` reads from outside the package: the handler's and the
notifier's outcome, the `uuid4` of a dead letter, and the clock at each call.
`late` says that `future.result` raised `FuturesTimeout`. -/
structure RunInputs where
  handler : Except PyError Unit := .ok ()
  late : Bool := false
  notifier : Except PyError Unit := .ok ()
  deadLetterId : String := ""
  claimAt : Int := 0
  heartbeatAt : Int := 0
  timeoutAt : Int := 0
  finishedAt : Int := 0
  deadLetterAt : Int := 0

/-- Policies by job type. -/
structure FallbackPolicyManager where
  policies : Dict String FallbackPolicy

namespace FallbackPolicyManager

def policyFor (manager : FallbackPolicyManager) (jobType : String) : FallbackPolicy :=
  manager.policies.getD jobType {}

/-- The copy of a failed job that goes to the dead letter queue. It carries no
resources and no dependencies. -/
def deadLetterJob (queueName : String) (job : Job) (error : PyError) (inputs : RunInputs) :
    Job where
  jobId := inputs.deadLetterId
  jobType := job.jobType
  queueName := queueName
  payload := ((Dict.empty.set "error" (.str error.str)).set
    "original_payload" (.dict job.payload.entries)).set "source_job_id" (.str job.jobId)
  status := .queued
  priority := job.priority
  createdAt := inputs.deadLetterAt
  updatedAt := inputs.deadLetterAt
  appId := job.appId
  tenantId := job.tenantId
  hostId := job.hostId
  workerId := job.workerId
  idempotencyKey := job.idempotencyKey
  correlationId := job.correlationId
  userId := job.userId
  sessionId := job.sessionId
  channelId := job.channelId

/-- The JSON body sent to the notify URL. -/
def notification (job : Job) (error : PyError) : Dict String String :=
  ((((Dict.empty.set "job_id" job.jobId).set "job_type" job.jobType).set
    "status" JobStatus.failed.value).set "error" error.str).set "queue_name" job.queueName

/-- Write the status of the failed job. -/
def mark (inputs : RunInputs) (job : Job) (status : JobStatus) :
    WorkerProg (Except PyError Bool) :=
  call (.updateStatus job.jobId status inputs.finishedAt)

/-- Call the notifier when the policy has a URL; it may raise. -/
def sendNotification (policy : FallbackPolicy) (inputs : RunInputs) (job : Job)
    (error : PyError) : WorkerProg (Except PyError Unit) :=
  match policy.notifyUrl with
  | none => return .ok ()
  | some url =>
      if url ≠ "" then do
        call (.notify url (notification job error))
        return inputs.notifier
      else return .ok ()

/-- Resolve the policy of the job's type and execute it. -/
def apply (manager : FallbackPolicyManager) (inputs : RunInputs) (job : Job) (error : PyError) :
    WorkerProg (Except PyError FallbackDecision) :=
  match (manager.policyFor job.jobType).action with
  | .retry =>
      andThen (mark inputs job .retryWait) fun _ =>
        return .ok { action := .retry, status := .retryWait, shouldRaise := true }
  | .deadLetter =>
      andThen (mark inputs job .failed) fun _ =>
        andThen (call (.enqueue
            (deadLetterJob (manager.policyFor job.jobType).deadLetterQueue job error inputs)
            inputs.deadLetterAt))
          fun deadLetterJobId =>
            return .ok
              { action := .deadLetter, status := .failed, shouldRaise := false
                deadLetterJobId := some deadLetterJobId }
  | .notify =>
      andThen (mark inputs job .failed) fun _ =>
        andThen (sendNotification (manager.policyFor job.jobType) inputs job error) fun _ =>
          return .ok { action := .notify, status := .failed, shouldRaise := false }
  | .ignore =>
      andThen (mark inputs job .failed) fun _ =>
        return .ok { action := .ignore, status := .failed, shouldRaise := false }

end FallbackPolicyManager

end CloudDogJobs
