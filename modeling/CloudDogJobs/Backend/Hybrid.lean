import CloudDogJobs.Backend.RedisEncoding
import CloudDogJobs.Storage.Sequential

/-!
# Hybrid backend

`backends/hybrid_backend.py`: Redis for dispatch, SQL for durable state. A method
of the hybrid backend is a program over calls on the two backends below it, each
of them one atomic step here; an exception ends the method. Each of the two calls
of a method reads the clock for itself.

The two stores agree on a job when they give it the same standing: both know it
with the same status, or neither knows it.
-/

namespace CloudDogJobs

open Foundation

/-- Redis for dispatch operations, SQL for durable state. -/
structure HybridQueueBackend where
  redis : RedisQueueBackend
  sql : SQLQueueBackend

/-- The stores of the two backends. -/
structure HybridStores where
  redis : RedisServer
  sql : JobTable

namespace HybridStores

def empty : HybridStores := ⟨.empty, .empty⟩

/-- Redis and SQL agree on the presence and the status of a job. -/
def AgreeOn (stores : HybridStores) (jobId : String) : Prop :=
  stores.redis.standing jobId = stores.sql.standing jobId

/-- The stores agree on every job. -/
def Agree (stores : HybridStores) : Prop := ∀ jobId, stores.AgreeOn jobId

theorem empty_agree : empty.Agree := fun _ => rfl

theorem Agree.same {stores changed : HybridStores} (agree : stores.Agree)
    (redis : changed.redis.standing = stores.redis.standing)
    (sql : changed.sql.standing = stores.sql.standing) : changed.Agree := by
  intro jobId
  unfold AgreeOn
  rw [redis, sql]
  exact agree jobId

/-- The same change of standing in both stores keeps them in agreement. -/
theorem Agree.update {stores changed : HybridStores} (agree : stores.Agree) {jobId : String}
    {standing : Option (Option String)}
    (redis : changed.redis.standing = Function.update stores.redis.standing jobId standing)
    (sql : changed.sql.standing = Function.update stores.sql.standing jobId standing) :
    changed.Agree := by
  intro other
  unfold AgreeOn
  rw [redis, sql]
  by_cases same : other = jobId
  · rw [same, Function.update_self, Function.update_self]
  · rw [Function.update_of_ne same, Function.update_of_ne same]
    exact agree other

/-- A change of standing in SQL alone keeps the agreement exactly when it changes
nothing. -/
theorem Agree.update_sql_iff {stores : HybridStores} (agree : stores.Agree) {table : JobTable}
    {jobId : String} {standing : Option (Option String)}
    (moved : table.standing = Function.update stores.sql.standing jobId standing) :
    ({ stores with sql := table } : HybridStores).Agree ↔
      stores.sql.standing jobId = standing := by
  constructor
  · intro after
    have here : stores.redis.standing jobId = table.standing jobId := after jobId
    rw [moved, Function.update_self] at here
    exact (agree jobId).symm.trans here
  · intro unchanged other
    show stores.redis.standing other = table.standing other
    rw [moved, ← unchanged, Function.update_eq_self]
    exact agree other

/-- The same for Redis. -/
theorem Agree.update_redis_iff {stores : HybridStores} (agree : stores.Agree)
    {server : RedisServer} {jobId : String} {standing : Option (Option String)}
    (moved : server.standing = Function.update stores.redis.standing jobId standing) :
    ({ stores with redis := server } : HybridStores).Agree ↔
      stores.redis.standing jobId = standing := by
  constructor
  · intro after
    have here : server.standing jobId = stores.sql.standing jobId := after jobId
    rw [moved, Function.update_self] at here
    exact (agree jobId).trans here.symm
  · intro unchanged other
    show server.standing other = stores.sql.standing other
    rw [moved, ← unchanged, Function.update_eq_self]
    exact agree other

end HybridStores

/-- A call on one of the two backends. The reads and the calls without a
counterpart in Redis go to SQL. -/
inductive StoreCall
  | redis (op : BackendOp)
  | sql (op : BackendOp)
  | get (jobId : String)
  | allJobs
  | getQueueStatus
  | updateProgress (jobId : String) (progress : Dict String Value) (now : Int)
  | storeResult (jobId : String) (result : Value) (now : Int)

@[reducible] def StoreCall.Reply : StoreCall → Type
  | .redis op => Except PyError op.Value
  | .sql op => Except PyError op.Value
  | .get _ => Except PyError (Option Job)
  | .allJobs => Except PyError (List Job)
  | .getQueueStatus => Except PyError (Dict String Nat)
  | .updateProgress _ _ _ => Except PyError Bool
  | .storeResult _ _ _ => Except PyError Bool

/-- The reply of a call that raised. -/
def StoreCall.raised : (call : StoreCall) → PyError → call.Reply
  | .redis _, error => .error error
  | .sql _, error => .error error
  | .get _, error => .error error
  | .allJobs, error => .error error
  | .getQueueStatus, error => .error error
  | .updateProgress _ _ _, error => .error error
  | .storeResult _ _ _, error => .error error

abbrev HybridProg (α : Type) : Type := Prog StoreCall StoreCall.Reply α

/-- A call on the hybrid backend, with the clock readings of the two backends. -/
inductive HybridOp
  | enqueue (job : Job) (sqlNow redisNow : Int)
  | dequeue (limit : Int) (jobType queueName : Option String)
  | claim (jobId hostId workerId : String) (redisNow sqlNow : Int)
  | release (jobId : String) (sqlNow redisNow : Int)
  | heartbeat (jobId : String) (sqlNow redisNow : Int)
  | get (jobId : String)
  | updateStatus (jobId status : String) (redisNow sqlNow : Int)
  | getQueueStatus
  | allJobs
  | recordAttempt (jobId : String) (error : Option String) (now : Int)
  | updateProgress (jobId : String) (progress : Dict String Value) (now : Int)
  | storeResult (jobId : String) (result : Value) (now : Int)

@[reducible] def HybridOp.Value : HybridOp → Type
  | .enqueue _ _ _ => String
  | .dequeue _ _ _ => List Job
  | .get _ => Option Job
  | .getQueueStatus => Dict String Nat
  | .allJobs => List Job
  | _ => Bool

namespace HybridQueueBackend

variable (backend : HybridQueueBackend)

/-- The effect of one call. -/
def exec : (call : StoreCall) → HybridStores → call.Reply × HybridStores
  | .redis op, stores =>
      ((backend.redis.contract.invoke op stores.redis).1,
        { stores with redis := (backend.redis.contract.invoke op stores.redis).2 })
  | .sql op, stores =>
      ((backend.sql.contract.invoke op stores.sql).1,
        { stores with sql := (backend.sql.contract.invoke op stores.sql).2 })
  | .get jobId, stores => (backend.sql.contract.get jobId stores.sql, stores)
  | .allJobs, stores => (backend.sql.allJobs stores.sql, stores)
  | .getQueueStatus, stores => (.ok (SQLQueueBackend.getQueueStatus stores.sql), stores)
  | .updateProgress jobId progress now, stores =>
      (((backend.sql.repo.updateProgress jobId progress now).run JobTable.exec stores.sql).1,
        { stores with sql :=
            ((backend.sql.repo.updateProgress jobId progress now).run JobTable.exec stores.sql).2 })
  | .storeResult jobId result now, stores =>
      (((backend.sql.repo.storeResult jobId result now).run JobTable.exec stores.sql).1,
        { stores with sql :=
            ((backend.sql.repo.storeResult jobId result now).run JobTable.exec stores.sql).2 })

/-- Make one call. -/
abbrev call (call : StoreCall) : HybridProg call.Reply := Prog.issue call

/-- Continue with the value of a call; an exception ends the method. -/
def andThen {α β : Type} (first : HybridProg (Except PyError α))
    (next : α → HybridProg (Except PyError β)) : HybridProg (Except PyError β) := do
  match ← first with
  | .error error => return .error error
  | .ok value => next value

theorem run_andThen {α β σ : Type} (exec : (call : StoreCall) → σ → call.Reply × σ)
    (first : HybridProg (Except PyError α)) (next : α → HybridProg (Except PyError β)) (store : σ) :
    (andThen first next).run exec store =
      match (first.run exec store).1 with
      | .error error => (.error error, (first.run exec store).2)
      | .ok value => (next value).run exec (first.run exec store).2 := by
  unfold andThen
  rw [Prog.run_bind]
  cases (first.run exec store).1 with
  | error error => rfl
  | ok value => rfl

theorem run_andThen_of_ok {α β σ : Type} (exec : (call : StoreCall) → σ → call.Reply × σ)
    (first : HybridProg (Except PyError α)) (next : α → HybridProg (Except PyError β)) (store : σ)
    {value : α} (returned : (first.run exec store).1 = .ok value) :
    (andThen first next).run exec store = (next value).run exec (first.run exec store).2 := by
  rw [run_andThen, returned]

/-- Every call of a method meets a condition when those of its first part do and, if
that part returned, those of the rest. -/
theorem meets_andThen {α β σ : Type} (exec : (call : StoreCall) → σ → call.Reply × σ)
    (condition : StoreCall → σ → Prop) (first : HybridProg (Except PyError α))
    (next : α → HybridProg (Except PyError β)) (store : σ) :
    (andThen first next).Meets exec condition store ↔
      first.Meets exec condition store ∧
        ∀ value, (first.run exec store).1 = .ok value →
          (next value).Meets exec condition (first.run exec store).2 := by
  unfold andThen
  rw [Prog.meets_bind]
  apply and_congr_right
  intro _
  cases (first.run exec store).1 with
  | error error =>
      exact iff_of_true trivial fun _ same => by cases same
  | ok value =>
      constructor
      · intro met other same
        rw [← Except.ok.inj same]
        exact met
      · intro met
        exact met value rfl

@[simp] theorem run_call {σ : Type} (exec : (call : StoreCall) → σ → call.Reply × σ)
    (call : StoreCall) (store : σ) :
    (HybridQueueBackend.call call).run exec store = exec call store := rfl

def enqueue (job : Job) (sqlNow redisNow : Int) : HybridProg (Except PyError String) :=
  andThen (call (.sql (.enqueue job sqlNow))) fun _ => call (.redis (.enqueue job redisNow))

def dequeue (limit : Int) (jobType queueName : Option String) :
    HybridProg (Except PyError (List Job)) :=
  call (.redis (.dequeue limit jobType queueName))

def claim (jobId hostId workerId : String) (redisNow sqlNow : Int) :
    HybridProg (Except PyError Bool) :=
  andThen (call (.redis (.claim jobId hostId workerId redisNow))) fun granted =>
    if granted then
      andThen (call (.sql (.claim jobId hostId workerId sqlNow))) fun _ => return .ok true
    else return .ok false

def release (jobId : String) (sqlNow redisNow : Int) : HybridProg (Except PyError Bool) :=
  andThen (call (.sql (.release jobId sqlNow))) fun _ => call (.redis (.release jobId redisNow))

def heartbeat (jobId : String) (sqlNow redisNow : Int) : HybridProg (Except PyError Bool) :=
  andThen (call (.sql (.heartbeat jobId sqlNow))) fun _ =>
    call (.redis (.heartbeat jobId redisNow))

def get (jobId : String) : HybridProg (Except PyError (Option Job)) := call (.get jobId)

def updateStatus (jobId status : String) (redisNow sqlNow : Int) :
    HybridProg (Except PyError Bool) :=
  andThen (call (.redis (.updateStatus jobId status redisNow))) fun _ =>
    call (.sql (.updateStatus jobId status sqlNow))

def getQueueStatus : HybridProg (Except PyError (Dict String Nat)) := call .getQueueStatus

/-- All jobs from the durable source of truth. -/
def allJobs : HybridProg (Except PyError (List Job)) := call .allJobs

def recordAttempt (jobId : String) (error : Option String) (now : Int) :
    HybridProg (Except PyError Bool) :=
  call (.sql (.recordAttempt jobId error now))

def updateProgress (jobId : String) (progress : Dict String Value) (now : Int) :
    HybridProg (Except PyError Bool) :=
  call (.updateProgress jobId progress now)

def storeResult (jobId : String) (result : Value) (now : Int) : HybridProg (Except PyError Bool) :=
  call (.storeResult jobId result now)

/-- The program of an operation. -/
def code : (op : HybridOp) → HybridProg (Except PyError op.Value)
  | .enqueue job sqlNow redisNow => enqueue job sqlNow redisNow
  | .dequeue limit jobType queueName => dequeue limit jobType queueName
  | .claim jobId hostId workerId redisNow sqlNow => claim jobId hostId workerId redisNow sqlNow
  | .release jobId sqlNow redisNow => release jobId sqlNow redisNow
  | .heartbeat jobId sqlNow redisNow => heartbeat jobId sqlNow redisNow
  | .get jobId => get jobId
  | .updateStatus jobId status redisNow sqlNow => updateStatus jobId status redisNow sqlNow
  | .getQueueStatus => getQueueStatus
  | .allJobs => allJobs
  | .recordAttempt jobId error now => recordAttempt jobId error now
  | .updateProgress jobId progress now => updateProgress jobId progress now
  | .storeResult jobId result now => storeResult jobId result now

section Sample

/-- A hybrid backend whose codec knows the plain jobs. -/
def plainHybrid : HybridQueueBackend where
  redis := RedisQueueBackend.plainBackend
  sql := ⟨⟨RedisQueueBackend.plainBackend.codec.loads⟩⟩

end Sample

end HybridQueueBackend

end CloudDogJobs
