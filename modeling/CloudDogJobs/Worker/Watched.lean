import CloudDogJobs.Foundation.Records
import CloudDogJobs.Worker.Protocol

/-!
# Audit events and metrics

`observability/audit.py` and `observability/metrics.py`, and the places where
`worker.py` and `queue.py` use them. A client here is a worker or a queue facade
with its own emitter and its own counters. Of an audit event only what the caller
supplies is kept; the other fields are constants of the package and a timestamp.
-/

namespace CloudDogJobs

open Foundation WorkerProg

/-- What the caller of `emit` says. -/
structure AuditEvent where
  action : String
  outcome : String
  deriving DecidableEq, Repr

/-- Simple in-memory metrics collector. -/
structure Metrics where
  counters : Dict String Int := ∅

namespace Metrics

def inc (metrics : Metrics) (key : String) (value : Int := 1) : Metrics where
  counters := metrics.counters.set key (metrics.counters.getD key 0 + value)

def get (metrics : Metrics) (key : String) : Int := metrics.counters.getD key 0

theorem get_inc (metrics : Metrics) (key other : String) (value : Int) :
    (metrics.inc key value).get other =
      metrics.get other + if key = other then value else 0 := by
  unfold inc get
  rw [Dict.getD_set]
  by_cases same : other = key
  · rw [if_pos same, if_pos same.symm, same]
  · rw [if_neg same, if_neg (Ne.symm same), Int.add_zero]

end Metrics

/-- One use of the emitter or of the counters. -/
inductive Note
  | audit (event : AuditEvent)
  | count (key : String)
  deriving DecidableEq, Repr

/-- The emitter and the counters of one client. -/
structure Logbook where
  events : List AuditEvent := []
  metrics : Metrics := {}

namespace Logbook

def enter : Note → Logbook → Logbook
  | .audit event, logbook => { logbook with events := logbook.events ++ [event] }
  | .count key, logbook => { logbook with metrics := logbook.metrics.inc key }

/-- How often the note was taken. -/
def shown (logbook : Logbook) : Note → Int
  | .audit event => logbook.events.count event
  | .count key => logbook.metrics.get key

theorem shown_enter (note : Note) (logbook : Logbook) (other : Note) :
    (logbook.enter note).shown other =
      logbook.shown other + if note = other then 1 else 0 := by
  cases note with
  | audit event =>
      cases other with
      | audit another => simp [enter, shown, List.count_append, List.count_singleton]
      | count key => simp [enter, shown]
  | count key =>
      cases other with
      | audit event => simp [enter, shown]
      | count another => simp [enter, shown, Metrics.get_inc]

end Logbook

/-- A program of a client that uses its emitter and its counters. -/
abbrev WatchedProg (ι α : Type) : Type := RecordedProg WorkerCall WorkerCall.Reply ι Note α

namespace WatchedProg

variable {ι α β : Type}

def emit (self : ι) (action outcome : String) : WatchedProg ι Unit :=
  Prog.issue (Recording.enter self (.audit ⟨action, outcome⟩))

def inc (self : ι) (key : String) : WatchedProg ι Unit :=
  Prog.issue (Recording.enter self (.count key))

/-- Continue with the value of a program, or let its exception through. -/
def andThen (first : WatchedProg ι (Except PyError α))
    (next : α → WatchedProg ι (Except PyError β)) : WatchedProg ι (Except PyError β) := do
  match ← first with
  | .ok value => next value
  | .error error => return .error error

@[simp] theorem erase_andThen (first : WatchedProg ι (Except PyError α))
    (next : α → WatchedProg ι (Except PyError β)) :
    (andThen first next).erase =
      WorkerProg.andThen first.erase fun value => (next value).erase := by
  unfold andThen WorkerProg.andThen
  rw [Prog.erase_bind]
  refine congrArg (first.erase >>= ·) (funext fun reply => ?_)
  cases reply <;> rfl

theorem lift_andThen (first : WorkerProg (Except PyError α))
    (next : α → WorkerProg (Except PyError β)) :
    ((WorkerProg.andThen first next).lift : WatchedProg ι (Except PyError β)) =
      andThen first.lift fun value => (next value).lift := by
  unfold andThen WorkerProg.andThen
  rw [Prog.lift_bind]
  refine congrArg (first.lift >>= ·) (funext fun reply => ?_)
  cases reply <;> rfl

end WatchedProg

open WatchedProg (emit inc)

/-- `JobQueue.cancel` with its audit event. -/
def JobQueue.watchedCancel {ι : Type} (self : ι) (jobId : String) (now : Int) :
    WatchedProg ι (Except PyError Bool) :=
  WatchedProg.andThen (call (.updateStatus jobId .cancelled now)).lift fun found => do
    emit self "job.cancel" (if found then "success" else "failure")
    return .ok found

theorem JobQueue.erase_watchedCancel {ι : Type} (self : ι) (jobId : String) (now : Int) :
    (JobQueue.watchedCancel self jobId now).erase = JobQueue.cancel jobId now := by
  unfold watchedCancel cancel
  rw [WatchedProg.erase_andThen, Prog.erase_lift]
  refine congrArg (Prog.act _) (funext fun reply => ?_)
  cases reply <;> rfl

namespace Worker

variable {ι : Type} (self : ι) (worker : Worker) (inputs : RunInputs) (job : Job)

def watchedInvoke : WatchedProg ι (Except PyError Unit) := do
  (call (.handle job)).lift
  match worker.runTimeoutSeconds with
  | none => return inputs.handler
  | some seconds =>
      if inputs.late then
        WatchedProg.andThen (call (.updateStatus job.jobId .timeout inputs.timeoutAt)).lift
          fun _ => do
            emit self "job.transition" "failure"
            inc self "jobs.timed_out"
            return .error (.timeoutError ("Job timed out after " ++ seconds ++ "s"))
      else return inputs.handler

def watchedExecute : WatchedProg ι (Except PyError Bool) :=
  WatchedProg.andThen (call (.heartbeat job.jobId inputs.heartbeatAt)).lift fun _ =>
    WatchedProg.andThen (worker.watchedInvoke self inputs job) fun _ =>
      WatchedProg.andThen (call (.updateStatus job.jobId .succeeded inputs.finishedAt)).lift
        fun _ => do
          emit self "job.transition" "success"
          inc self "jobs.succeeded"
          return .ok true

/-- Count the status of a fallback decision. -/
def countDecision (decision : FallbackDecision) : WatchedProg ι Unit :=
  if decision.status = .retryWait then inc self "jobs.retry_wait"
  else if decision.status = .failed then inc self "jobs.failed"
  else return ()

def watchedRecover (error : PyError) : WatchedProg ι (Except PyError Bool) :=
  match worker.fallbackPolicies with
  | some manager =>
      WatchedProg.andThen (manager.apply inputs job error).lift fun decision => do
        emit self "job.transition" "failure"
        countDecision self decision
        return if decision.shouldRaise then .error error else .ok true
  | none =>
      WatchedProg.andThen (call (.updateStatus job.jobId .failed inputs.finishedAt)).lift
        fun _ => do
          emit self "job.transition" "failure"
          inc self "jobs.failed"
          return .error error

def watchedAttempt : WatchedProg ι (Except PyError Bool) := do
  match ← worker.watchedExecute self inputs job with
  | .ok processed => return .ok processed
  | .error error =>
      if error.isException then worker.watchedRecover self inputs job error
      else return .error error

def watchedAfterClaim (claimed : Bool) : WatchedProg ι (Except PyError Bool) :=
  if claimed then do
    emit self "job.claim" "success"
    if job.jobType ∈ worker.handlers then do
      let result ← worker.watchedAttempt self inputs job
      (worker.releaseJob job).lift
      return result
    else return .error (.keyError ("Unknown job_type: " ++ job.jobType))
  else do
    (worker.releaseJob job).lift
    return .ok false

def watchedProcess : WatchedProg ι (Except PyError Bool) :=
  WatchedProg.andThen
    (call (.claim job.jobId worker.hostId worker.workerId inputs.claimAt)).lift
    (worker.watchedAfterClaim self inputs job)

/-- `run_once` with its audit events and metrics. -/
def watchedRunOnce : WatchedProg ι (Except PyError Bool) :=
  if worker.authorised then
    WatchedProg.andThen worker.select.lift fun
      | [] => return .ok false
      | job :: _ => worker.watchedProcess self inputs job
  else
    return .error (.permissionError
      ("Worker identity not authorised: " ++ worker.hostId ++ ":" ++ worker.workerId))

/-! ## Watching changes nothing -/

theorem erase_watchedInvoke :
    (worker.watchedInvoke self inputs job).erase = worker.invoke inputs job := by
  unfold watchedInvoke invoke
  rw [Prog.erase_bind, Prog.erase_lift]
  refine congrArg (call (.handle job) >>= ·) (funext fun _ => ?_)
  cases worker.runTimeoutSeconds with
  | none => rfl
  | some seconds =>
      dsimp only
      split
      · rw [WatchedProg.erase_andThen, Prog.erase_lift]
        rfl
      · rfl

theorem erase_watchedExecute :
    (worker.watchedExecute self inputs job).erase = worker.execute inputs job := by
  unfold watchedExecute execute
  simp only [WatchedProg.erase_andThen, Prog.erase_lift, erase_watchedInvoke]
  rfl

theorem erase_watchedRecover (error : PyError) :
    (worker.watchedRecover self inputs job error).erase = worker.recover inputs job error := by
  unfold watchedRecover recover
  cases worker.fallbackPolicies with
  | none =>
      dsimp only
      rw [WatchedProg.erase_andThen, Prog.erase_lift]
      rfl
  | some manager =>
      dsimp only
      rw [WatchedProg.erase_andThen, Prog.erase_lift]
      refine congrArg (WorkerProg.andThen _) (funext fun decision => ?_)
      unfold countDecision
      split
      · rfl
      · split <;> rfl

theorem erase_watchedAttempt :
    (worker.watchedAttempt self inputs job).erase = worker.attempt inputs job := by
  unfold watchedAttempt attempt
  rw [Prog.erase_bind, erase_watchedExecute]
  refine congrArg (worker.execute inputs job >>= ·) (funext fun result => ?_)
  cases result with
  | ok processed => rfl
  | error error =>
      dsimp only
      split
      · exact worker.erase_watchedRecover self inputs job error
      · rfl

theorem erase_watchedAfterClaim (claimed : Bool) :
    (worker.watchedAfterClaim self inputs job claimed).erase =
      worker.afterClaim inputs job claimed := by
  unfold watchedAfterClaim afterClaim
  split
  · rw [Prog.erase_bind]
    show Prog.erase (if _ then _ else _) = _
    split
    · simp only [Prog.erase_bind, Prog.erase_lift, erase_watchedAttempt]
      rfl
    · rfl
  · simp only [Prog.erase_bind, Prog.erase_lift]
    rfl

/-- Without its audit events and metrics the watched round is the round. -/
theorem erase_watchedRunOnce :
    (worker.watchedRunOnce self inputs).erase = worker.runOnce inputs := by
  unfold watchedRunOnce runOnce
  split
  · rw [WatchedProg.erase_andThen, Prog.erase_lift]
    refine congrArg (WorkerProg.andThen worker.select) (funext fun jobs => ?_)
    cases jobs with
    | nil => rfl
    | cons job rest =>
        show (worker.watchedProcess self inputs job).erase = worker.process inputs job
        unfold watchedProcess process
        rw [WatchedProg.erase_andThen, Prog.erase_lift]
        exact congrArg (WorkerProg.andThen _)
          (funext (worker.erase_watchedAfterClaim self inputs job))
  · rfl

end Worker

end CloudDogJobs
