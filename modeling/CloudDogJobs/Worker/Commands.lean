import CloudDogJobs.Backend.Memory
import CloudDogJobs.Foundation.Program
import CloudDogJobs.Scheduler.Concurrency
import CloudDogJobs.Scheduler.Dependency
import CloudDogJobs.Scheduler.ResourcePool

/-!
# Commands of a worker

The calls that `Worker.run_once` makes on the objects it shares with other
workers. Each call holds the lock of one object or is one backend call, so each
is one atomic step; only the concurrency manager has no lock, and that its calls
are atomic is assumed. Everything between two calls is local to the worker. The
worker's methods are programs over these commands.
-/

namespace CloudDogJobs

open Foundation

/-- The objects that workers share. -/
structure Shared (σ : Type) where
  store : σ
  concurrency : ConcurrencyManager
  pool : ResourcePool
  tracker : DependencyTracker

/-- A store with default limits, no slot in use and no dependency. -/
def Shared.fresh {σ : Type} (store : σ) : Shared σ := ⟨store, .init {}, .init ∅, .empty⟩

/-- One waiting job of a type. -/
def waitingJob (jobType : String) : Job := .fromRequest { jobType := jobType } "first" 0

/-- Fresh objects beside a store that holds one waiting job. -/
def oneWaiting (jobType : String) : Shared MemoryQueueBackend :=
  .fresh (.holding (waitingJob jobType))

/-- One waiting task. -/
abbrev oneTask : Shared MemoryQueueBackend := oneWaiting "task"

/-- One call on a shared object, or one visible effect. -/
inductive WorkerCall
  | dequeue (limit : Int) (queueName : Option String)
  | get (jobId : String)
  | claim (jobId hostId workerId : String) (now : Int)
  | heartbeat (jobId : String) (now : Int)
  | updateStatus (jobId : String) (status : JobStatus) (now : Int)
  | enqueue (job : Job) (now : Int)
  | trackedDependencies (jobId : String)
  | acquireConcurrency (jobType : String)
  | releaseConcurrency (jobType : String)
  | acquireResources (jobId : String) (resources : Dict String Int)
  | releaseResources (jobId : String)
  /-- The handler of the job starts. -/
  | handle (job : Job)
  /-- The notifier is called with this URL and JSON payload. -/
  | notify (url : String) (payload : Dict String String)

/-- What a call returns, or raises. -/
@[reducible] def WorkerCall.Reply : WorkerCall → Type
  | .dequeue _ _ => Except PyError (List Job)
  | .get _ => Except PyError (Option Job)
  | .claim _ _ _ _ => Except PyError Bool
  | .heartbeat _ _ => Except PyError Bool
  | .updateStatus _ _ _ => Except PyError Bool
  | .enqueue _ _ => Except PyError String
  | .trackedDependencies _ => List String
  | .acquireConcurrency _ => Bool
  | .releaseConcurrency _ => Unit
  | .acquireResources _ _ => Bool
  | .releaseResources _ => Unit
  | .handle _ => Unit
  | .notify _ _ => Unit

/-- Programs over the calls of a worker. -/
abbrev WorkerProg (α : Type) : Type := Prog WorkerCall WorkerCall.Reply α

namespace Shared

variable {σ : Type} (backend : QueueBackend σ)

/-- The effect of one call. The dispatcher passes no tenant and no user to the
concurrency manager. -/
def exec : (call : WorkerCall) → Shared σ → call.Reply × Shared σ
  | .dequeue limit queueName, shared =>
      (backend.dequeue limit none queueName shared.store, shared)
  | .get jobId, shared => (backend.get jobId shared.store, shared)
  | .claim jobId hostId workerId now, shared =>
      let (reply, store) := backend.claim jobId hostId workerId now shared.store
      (reply, { shared with store := store })
  | .heartbeat jobId now, shared =>
      let (reply, store) := backend.heartbeat jobId now shared.store
      (reply, { shared with store := store })
  | .updateStatus jobId status now, shared =>
      let (reply, store) := backend.updateStatus jobId status.value now shared.store
      (reply, { shared with store := store })
  | .enqueue job now, shared =>
      let (reply, store) := backend.enqueue job now shared.store
      (reply, { shared with store := store })
  | .trackedDependencies jobId, shared => (shared.tracker.getDependencies jobId, shared)
  | .acquireConcurrency jobType, shared =>
      let (reply, manager) := shared.concurrency.acquire jobType
        ConcurrencyManager.unspecified ConcurrencyManager.unspecified
      (reply, { shared with concurrency := manager })
  | .releaseConcurrency jobType, shared =>
      ((), { shared with
        concurrency := shared.concurrency.release jobType
          ConcurrencyManager.unspecified ConcurrencyManager.unspecified })
  | .acquireResources jobId resources, shared =>
      let (reply, pool) := shared.pool.acquire jobId resources
      (reply, { shared with pool := pool })
  | .releaseResources jobId, shared =>
      ((), { shared with pool := shared.pool.release jobId })
  | .handle _, shared => ((), shared)
  | .notify _ _, shared => ((), shared)

end Shared

namespace WorkerProg

variable {α β : Type}

/-- Issue one call. -/
abbrev call (call : WorkerCall) : WorkerProg call.Reply := Prog.issue call

/-- Continue with the value of a call, or let its exception through. -/
def andThen (first : WorkerProg (Except PyError α)) (next : α → WorkerProg (Except PyError β)) :
    WorkerProg (Except PyError β) := do
  match ← first with
  | .ok value => next value
  | .error error => return .error error

variable {σ : Type} (backend : QueueBackend σ) {first : WorkerProg (Except PyError α)}
  (next : α → WorkerProg (Except PyError β))

theorem run_andThen_ok {shared middle : Shared σ} {value : α}
    (returned : first.run (Shared.exec backend) shared = (.ok value, middle)) :
    (andThen first next).run (Shared.exec backend) shared =
      (next value).run (Shared.exec backend) middle := by
  unfold andThen
  rw [Prog.run_bind, returned]

theorem run_andThen_error {shared middle : Shared σ} {error : PyError}
    (raised : first.run (Shared.exec backend) shared = (.error error, middle)) :
    (andThen first next).run (Shared.exec backend) shared = (.error error, middle) := by
  unfold andThen
  rw [Prog.run_bind, raised]
  rfl

/-- What returned has a first part that returned. -/
theorem exists_of_run_andThen_ok {backend : QueueBackend σ}
    {next : α → WorkerProg (Except PyError β)} {shared after : Shared σ} {value : β}
    (returned : (andThen first next).run (Shared.exec backend) shared = (.ok value, after)) :
    ∃ found middle, first.run (Shared.exec backend) shared = (.ok found, middle) ∧
      (next found).run (Shared.exec backend) middle = (.ok value, after) := by
  cases ended : first.run (Shared.exec backend) shared with
  | mk reply middle =>
      cases reply with
      | error error =>
          rw [run_andThen_error backend next ended] at returned
          cases returned
      | ok found =>
          rw [run_andThen_ok backend next ended] at returned
          exact ⟨found, middle, rfl, returned⟩

/-- A last step that calls nothing leaves the state alone. -/
theorem run_andThen_return_snd (finish : α → Except PyError β) (shared : Shared σ) :
    ((andThen first fun value => return finish value).run (Shared.exec backend) shared).2 =
      (first.run (Shared.exec backend) shared).2 := by
  unfold andThen
  rw [Prog.run_bind]
  cases (first.run (Shared.exec backend) shared).1 <;> rfl

theorem trace_andThen_ok {shared middle : Shared σ} {value : α}
    (returned : first.run (Shared.exec backend) shared = (.ok value, middle)) :
    (andThen first next).trace (Shared.exec backend) shared =
      first.trace (Shared.exec backend) shared ++
        (next value).trace (Shared.exec backend) middle := by
  unfold andThen
  rw [Prog.trace_bind, returned]

theorem only_andThen {permitted : WorkerCall → Prop} (before : first.Only permitted)
    (after : ∀ value, (next value).Only permitted) : (andThen first next).Only permitted := by
  apply before.bind
  intro reply
  cases reply with
  | ok value => exact after value
  | error error => trivial

/-- The sequencing rule for a call that may raise. -/
theorem accepts_andThen {G : Type} (monitor : Monitor WorkerCall WorkerCall.Reply G)
    {post : G → Except PyError β → Prop} {middle : G → Except PyError α → Prop} {summary : G}
    (before : monitor.Accepts middle summary first)
    (returns : ∀ reached value, middle reached (.ok value) →
      monitor.Accepts post reached (next value))
    (raises : ∀ reached error, middle reached (.error error) → post reached (.error error)) :
    monitor.Accepts post summary (andThen first next) := by
  unfold andThen
  rw [Monitor.accepts_bind]
  refine Monitor.Accepts.mono monitor ?_ before
  intro reached reply met
  cases reply with
  | ok value => exact returns reached value met
  | error error => exact raises reached error met

/-- The rule for a call that determines the summary it leaves. -/
theorem accepts_andThen_of_eq {G : Type} (monitor : Monitor WorkerCall WorkerCall.Reply G)
    {post : G → Except PyError β → Prop} {middle : Except PyError α → G} {summary : G}
    (before : monitor.Accepts (fun reached reply => reached = middle reply) summary first)
    (returns : ∀ value, monitor.Accepts post (middle (.ok value)) (next value))
    (raises : ∀ error, post (middle (.error error)) (.error error)) :
    monitor.Accepts post summary (andThen first next) := by
  apply Monitor.Accepts.bind_of_eq monitor before
  intro reply
  cases reply with
  | ok value => exact returns value
  | error error => exact raises error

theorem ends_andThen {post : Except PyError β → Prop}
    (returns : ∀ value, (next value).Ends post) (raises : ∀ error, post (.error error)) :
    (andThen first next).Ends post := by
  apply (Prog.ends_true first).bind
  intro reply _
  cases reply with
  | ok value => exact returns value
  | error error => exact raises error

end WorkerProg

end CloudDogJobs
