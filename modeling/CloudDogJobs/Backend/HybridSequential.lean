import CloudDogJobs.Backend.Hybrid
import CloudDogJobs.Foundation.Sequence

/-!
# The hybrid backend in sequential use

Each operation of the hybrid backend takes its answer from one of the two stores
and discards the other's. As long as no call on a store fails, the stores stay
coupled: they agree on every job, and the SQL table is the one that a lone SQL
backend would have. So every answer is the one of the lone backend.
-/

namespace CloudDogJobs

open Foundation

/-- Every hash is stored under the identifier that it holds. -/
def RedisServer.Named (server : RedisServer) : Prop :=
  ∀ jobId, (server.hashes.get? jobId).isSome → server.field jobId "job_id" = some jobId

namespace RedisServer

variable {server : RedisServer}

/-- An `HSET` keeps the hashes named when it names the job, or finds it stored and
leaves the name alone. -/
theorem Named.hset (named : server.Named) (jobId : String) (mapping : Dict String String)
    (keeps : mapping.get? "job_id" = some jobId ∨
      (mapping.get? "job_id" = none ∧ (server.hashes.get? jobId).isSome)) :
    (server.hset jobId mapping).Named := by
  intro other stored
  unfold RedisServer.hset at stored ⊢
  simp only [field, Dict.getD_set, Dict.get?_set] at stored ⊢
  by_cases same : other = jobId
  · rw [if_pos same, Dict.get?_update, same]
    rcases keeps with written | ⟨unwritten, present⟩
    · rw [written]
      rfl
    · rw [unwritten, Option.none_or]
      exact named jobId present
  · rw [if_neg same] at stored ⊢
    exact named other stored

theorem Named.claimScript (named : server.Named)
    (jobId claimedBy metaText nowText : String) (leaseTimeout : Int) :
    (server.claimScript jobId claimedBy metaText nowText leaseTimeout).2.Named := by
  unfold RedisServer.claimScript
  by_cases waiting : server.status? jobId = some JobStatus.queued.value
  · have moved := fun mapping (unwritten : Dict.get? mapping "job_id" = none) =>
      named.hset jobId mapping (.inr ⟨unwritten, isSome_of_status? waiting⟩)
    simp only [waiting, ne_eq, not_true_eq_false, ↓reduceIte]
    split
    · exact moved _ rfl
    · exact moved _ rfl
  · simp only [waiting, ne_eq, not_false_eq_true, ↓reduceIte]
    exact named

theorem Named.heartbeatScript (named : server.Named) (jobId nowText : String)
    (leaseTimeout : Int) : (server.heartbeatScript jobId nowText leaseTimeout).2.Named := by
  unfold RedisServer.heartbeatScript
  by_cases running : server.status? jobId = some JobStatus.running.value
  · have moved := fun mapping (unwritten : Dict.get? mapping "job_id" = none) =>
      named.hset jobId mapping (.inr ⟨unwritten, isSome_of_status? running⟩)
    simp only [running, ne_eq, not_true_eq_false, ↓reduceIte]
    split
    · exact moved _ rfl
    · exact moved _ rfl
  · simp only [running, ne_eq, not_false_eq_true, ↓reduceIte]
    exact named

end RedisServer

namespace RedisQueueBackend

variable (backend : RedisQueueBackend) {server : RedisServer}

theorem named_enqueue (named : server.Named) (job : Job) (now : Int) :
    ((backend.enqueue job now).run RedisServer.exec server).2.Named :=
  named.hset job.jobId (backend.jobToHash job) (.inl rfl)

theorem named_claim (named : server.Named) (jobId hostId workerId : String) (now : Int) :
    ((backend.claim jobId hostId workerId now).run RedisServer.exec server).2.Named := by
  cases loaded : backend.loadsDict (claimText server jobId) with
  | error error =>
      rw [backend.run_claim_of_error server jobId now hostId workerId loaded]
      exact named
  | ok metadata =>
      rw [backend.run_claim server jobId now hostId workerId loaded]
      exact named.claimScript jobId _ _ _ _

theorem named_release (named : server.Named) (jobId : String) (now : Int) :
    ((backend.release jobId now).run RedisServer.exec server).2.Named := by
  rw [run_release]
  cases found : backend.read server jobId with
  | error error => exact named
  | ok found? =>
      cases found? with
      | none => exact named
      | some job =>
          have stored := RedisServer.isSome_of_status? (backend.fields_of_read server jobId found).2
          have moved := fun mapping (unwritten : Dict.get? mapping "job_id" = none) =>
            named.hset jobId mapping (.inr ⟨unwritten, stored⟩)
          exact moved _ rfl

theorem named_updateStatus (named : server.Named) (jobId status : String) (now : Int) :
    ((backend.updateStatus jobId status now).run RedisServer.exec server).2.Named := by
  rw [run_updateStatus]
  by_cases stored : (server.hashes.get? jobId).isSome = true
  · rw [if_pos stored]
    have unwritten : (backend.statusMapping status now).get? "job_id" = none := by
      unfold statusMapping
      simp only []
      split
      · rfl
      · rfl
    have moved := named.hset jobId _ (.inr ⟨unwritten, stored⟩)
    unfold statusWritten
    simp only []
    split
    · split
      · exact moved
      · exact moved
    · split
      · exact moved
      · exact moved
  · rw [if_neg stored]
    exact named

/-- Every job that the loop of `dequeue` adds was read as queued. -/
theorem mem_collect (limit : Int) (jobType queueName : Option String) (jobIds : List String)
    (found : List Job) {jobs : List Job}
    (returned : ((backend.collect limit jobType queueName jobIds found).run RedisServer.exec
      server).1 = .ok jobs) {job : Job} (member : job ∈ jobs) :
    job ∈ found ∨ ∃ jobId, backend.read server jobId = .ok (some job) ∧ job.status = .queued := by
  induction jobIds generalizing found with
  | nil =>
      rw [Except.ok.inj returned]
      exact .inl member
  | cons jobId rest ih =>
      rw [collect] at returned
      by_cases full : limit ≤ found.length
      · rw [if_pos full] at returned
        rw [Except.ok.inj returned]
        exact .inl member
      · rw [if_neg full, Prog.run_bind, run_get] at returned
        cases read : backend.read server jobId with
        | error error =>
            rw [read] at returned
            cases returned
        | ok read? =>
            rw [read] at returned
            cases read? with
            | none => exact ih found returned
            | some candidate =>
                simp only [] at returned
                split at returned
                · next fits =>
                    rcases ih _ returned with before | later
                    · rcases List.mem_append.mp before with early | last
                      · exact .inl early
                      · obtain rfl := List.mem_singleton.mp last
                        have queued : job.status = .queued := by
                          rw [Bool.and_eq_true, decide_eq_true_eq] at fits
                          exact fits.1
                        exact .inr ⟨jobId, read, queued⟩
                    · exact .inr later
                · exact ih found returned

/-- Every job that `dequeue` returns was read as queued. -/
theorem mem_dequeue {limit : Int} {jobType queueName : Option String} {jobs : List Job}
    (returned : ((backend.dequeue limit jobType queueName).run RedisServer.exec server).1 =
      .ok jobs) {job : Job} (member : job ∈ jobs) :
    ∃ jobId, backend.read server jobId = .ok (some job) ∧ job.status = .queued := by
  unfold dequeue at returned
  rw [Prog.issue_bind, Prog.run_act] at returned
  rcases backend.mem_collect limit jobType queueName _ [] returned member with none | found
  · cases none
  · exact found

end RedisQueueBackend

namespace HybridQueueBackend

variable (backend : HybridQueueBackend)

/-- The same call on a lone SQL backend. -/
def lone : (op : HybridOp) → JobTable → Except PyError op.Value × JobTable
  | .enqueue job sqlNow _, table => backend.sql.contract.enqueue job sqlNow table
  | .dequeue limit jobType queueName, table =>
      (backend.sql.contract.dequeue limit jobType queueName table, table)
  | .claim jobId hostId workerId _ sqlNow, table =>
      backend.sql.contract.claim jobId hostId workerId sqlNow table
  | .release jobId sqlNow _, table => backend.sql.contract.release jobId sqlNow table
  | .heartbeat jobId sqlNow _, table => backend.sql.contract.heartbeat jobId sqlNow table
  | .get jobId, table => (backend.sql.contract.get jobId table, table)
  | .updateStatus jobId status _ sqlNow, table =>
      backend.sql.contract.updateStatus jobId status sqlNow table
  | .getQueueStatus, table => (.ok (SQLQueueBackend.getQueueStatus table), table)
  | .allJobs, table => (backend.sql.allJobs table, table)
  | .recordAttempt jobId error now, table =>
      backend.sql.contract.recordAttempt jobId error now table
  | .updateProgress jobId progress now, table =>
      (backend.sql.repo.updateProgress jobId progress now).run JobTable.exec table
  | .storeResult jobId result now, table =>
      (backend.sql.repo.storeResult jobId result now).run JobTable.exec table

/-- A call that raises, or a claim whose script fails on the lease. -/
def Fails (call : StoreCall) (stores : HybridStores) : Prop :=
  (∃ error, (backend.exec call stores).1 = call.raised error) ∨
  (∃ jobId hostId workerId now, call = .redis (.claim jobId hostId workerId now) ∧
    stores.redis.status? jobId = some JobStatus.queued.value ∧ backend.redis.leaseTimeout ≤ 0)

/-- No call that the operation makes fails. -/
def Succeeds (stores : HybridStores) (op : HybridOp) : Prop :=
  (code op).Meets backend.exec (fun call reached => ¬ backend.Fails call reached) stores

/-- The operation answers as the lone SQL backend does on the given table; what it
dequeues is queued in SQL. Only a heartbeat takes its answer from Redis without a
counterpart in SQL. -/
def Answers (stores : HybridStores) (table : JobTable) : HybridOp → Prop
  | .dequeue limit jobType queueName =>
      ∀ jobs, ((dequeue limit jobType queueName).run backend.exec stores).1 = .ok jobs →
        ∀ job ∈ jobs, stores.sql.status? job.jobId = some JobStatus.queued.value
  | .heartbeat _ _ _ => True
  | op => ((code op).run backend.exec stores).1 = (backend.lone op table).1

/-- What the operations keep: agreement, hashes under their own names and metadata
objects. -/
structure Coupled (stores : HybridStores) : Prop where
  agree : stores.Agree
  named : stores.redis.Named
  objects : stores.sql.Objects

/-- The step of the simulation. -/
structure Simulates (stores : HybridStores) (op : HybridOp) : Prop where
  answers : backend.Answers stores stores.sql op
  table : ((code op).run backend.exec stores).2.sql = (backend.lone op stores.sql).2
  coupled : Coupled ((code op).run backend.exec stores).2

variable {backend} {stores : HybridStores}

/-- A call on Redis that does not fail returns a value. -/
theorem redis_returns {op : BackendOp} (sound : ¬ backend.Fails (.redis op) stores) :
    ∃ value, (backend.redis.contract.invoke op stores.redis).1 = .ok value := by
  cases result : (backend.redis.contract.invoke op stores.redis).1 with
  | error error => exact absurd (.inl ⟨error, result⟩) sound
  | ok value => exact ⟨value, rfl⟩

theorem sql_returns {op : BackendOp} (sound : ¬ backend.Fails (.sql op) stores) :
    ∃ value, (backend.sql.contract.invoke op stores.sql).1 = .ok value := by
  cases result : (backend.sql.contract.invoke op stores.sql).1 with
  | error error => exact absurd (.inl ⟨error, result⟩) sound
  | ok value => exact ⟨value, rfl⟩

/-- The step from where the operation ends. -/
theorem simulates_of_run {op : HybridOp} {reached : HybridStores}
    (ran : ((code op).run backend.exec stores).2 = reached)
    (answers : backend.Answers stores stores.sql op)
    (table : reached.sql = (backend.lone op stores.sql).2) (coupled : Coupled reached) :
    backend.Simulates stores op := by
  refine ⟨answers, ?_, ?_⟩
  · rw [ran]
    exact table
  · rw [ran]
    exact coupled

theorem simulates_enqueue (coupled : Coupled stores) {job : Job} {sqlNow redisNow : Int}
    (succeeds : backend.Succeeds stores (.enqueue job sqlNow redisNow)) :
    backend.Simulates stores (.enqueue job sqlNow redisNow) := by
  obtain ⟨first, _⟩ := (meets_andThen _ _ _ _ _).mp succeeds
  obtain ⟨value, returned⟩ := sql_returns first.1
  have ran := run_andThen_of_ok backend.exec (call (.sql (.enqueue job sqlNow)))
    (fun _ => call (.redis (.enqueue job redisNow))) stores returned
  rcases SQLQueueBackend.enqueue_cases stores.sql job with
    ⟨_, inserted, moved⟩ | ⟨_, error, refused⟩
  · refine simulates_of_run (congrArg Prod.snd ran) ?_ rfl ⟨?_, ?_, ?_⟩
    · exact (congrArg Prod.fst ran).trans inserted.symm
    · exact coupled.agree.update (backend.redis.standing_enqueue stores.redis redisNow job) moved
    · exact backend.redis.named_enqueue coupled.named job redisNow
    · exact SQLQueueBackend.objects_enqueue coupled.objects job
  · cases (congrArg Prod.fst refused).symm.trans returned

theorem simulates_claim (coupled : Coupled stores) {jobId hostId workerId : String}
    {redisNow sqlNow : Int}
    (succeeds : backend.Succeeds stores (.claim jobId hostId workerId redisNow sqlNow)) :
    backend.Simulates stores (.claim jobId hostId workerId redisNow sqlNow) := by
  obtain ⟨first, _⟩ := (meets_andThen _ _ _ _ _).mp succeeds
  obtain ⟨value, returned⟩ := redis_returns first.1
  have ran := run_andThen_of_ok backend.exec
    (call (.redis (.claim jobId hostId workerId redisNow)))
    (fun granted => if granted then
        andThen (call (.sql (.claim jobId hostId workerId sqlNow))) fun _ => return .ok true
      else return .ok false) stores returned
  have same : stores.redis.status? jobId = (stores.sql.standing jobId).join := by
    rw [stores.redis.status?_eq_join, coupled.agree jobId]
  have named := backend.redis.named_claim coupled.named jobId hostId workerId redisNow
  rcases backend.redis.claim_cases stores.redis jobId redisNow hostId workerId with
    ⟨error, refused⟩ | ⟨other, refused⟩ | ⟨waiting, granted, moved⟩
  · cases (congrArg Prod.fst refused).symm.trans returned
  · -- Redis refuses, and the lone backend finds the same status.
    obtain rfl : false = value :=
      Except.ok.inj ((congrArg Prod.fst refused).symm.trans returned)
    have kept : (backend.exec (.redis (.claim jobId hostId workerId redisNow)) stores).2 = stores :=
      congrArg (fun server => { stores with redis := server }) (congrArg Prod.snd refused)
    rcases SQLQueueBackend.claim_cases stores.sql jobId sqlNow hostId workerId coupled.objects with
      ⟨_, unmatched⟩ | ⟨waiting, _, _⟩
    · refine simulates_of_run ((congrArg Prod.snd ran).trans kept) ?_ ?_ coupled
      · exact (congrArg Prod.fst ran).trans (congrArg Prod.fst unmatched).symm
      · exact (congrArg Prod.snd unmatched).symm
    · rw [same, waiting] at other
      exact absurd rfl other
  · -- Redis grants, and SQL finds the job queued too.
    have timed : 0 < backend.redis.leaseTimeout := by
      by_contra short
      exact first.1 (.inr ⟨jobId, hostId, workerId, redisNow, rfl, waiting, by omega⟩)
    obtain rfl : true = value := by
      rw [decide_eq_true timed] at granted
      exact Except.ok.inj (granted.symm.trans returned)
    have queued : stores.sql.standing jobId = some (some JobStatus.queued.value) := by
      rw [same] at waiting
      exact Option.join_eq_some_iff.mp waiting
    rcases SQLQueueBackend.claim_cases stores.sql jobId sqlNow hostId workerId coupled.objects with
      ⟨other, _⟩ | ⟨_, matched, claimed⟩
    · exact absurd queued other
    · have ended := run_andThen_of_ok backend.exec
        (call (.sql (.claim jobId hostId workerId sqlNow)))
        (fun _ => (return .ok true : HybridProg (Except PyError Bool)))
        (backend.exec (.redis (.claim jobId hostId workerId redisNow)) stores).2 matched
      have total := ran.trans ended
      refine simulates_of_run (congrArg Prod.snd total) ?_ rfl ⟨?_, named, ?_⟩
      · exact (congrArg Prod.fst total).trans matched.symm
      · exact coupled.agree.update moved claimed
      · exact SQLQueueBackend.objects_claim jobId sqlNow hostId workerId coupled.objects

theorem simulates_release (coupled : Coupled stores) {jobId : String} {sqlNow redisNow : Int}
    (succeeds : backend.Succeeds stores (.release jobId sqlNow redisNow)) :
    backend.Simulates stores (.release jobId sqlNow redisNow) := by
  obtain ⟨first, second⟩ := (meets_andThen _ _ _ _ _).mp succeeds
  obtain ⟨value, returned⟩ := sql_returns first.1
  have ran := run_andThen_of_ok backend.exec (call (.sql (.release jobId sqlNow)))
    (fun _ => call (.redis (.release jobId redisNow))) stores returned
  obtain ⟨answer, replied⟩ := redis_returns (second value returned).1
  have named := backend.redis.named_release coupled.named jobId redisNow
  have objects := SQLQueueBackend.objects_updateStatus jobId sqlNow coupled.objects
    JobStatus.queued.value
  have same : stores.redis.status? jobId = (stores.sql.standing jobId).join := by
    rw [stores.redis.status?_eq_join, coupled.agree jobId]
  rcases SQLQueueBackend.updateStatus_cases stores.sql jobId sqlNow JobStatus.queued.value with
    ⟨absent, unmatched⟩ | ⟨known, matched, moved⟩
  · rcases backend.redis.release_cases stores.redis jobId redisNow with
      ⟨error, _, failed⟩ | ⟨_, missing⟩ | ⟨job, found, _, _⟩
    · cases (congrArg Prod.fst failed).symm.trans replied
    · refine simulates_of_run (congrArg Prod.snd ran) ?_ rfl ⟨?_, named, objects⟩
      · exact (congrArg Prod.fst ran).trans
          ((congrArg Prod.fst missing).trans (congrArg Prod.fst unmatched).symm)
      · exact coupled.agree.same (congrArg RedisServer.standing (congrArg Prod.snd missing))
          (congrArg JobTable.standing (congrArg Prod.snd unmatched))
    · have shown := (backend.redis.fields_of_read stores.redis jobId found).2
      rw [same, absent] at shown
      cases shown
  · rcases backend.redis.release_cases stores.redis jobId redisNow with
      ⟨error, _, failed⟩ | ⟨missing, _⟩ | ⟨job, _, granted, queued⟩
    · cases (congrArg Prod.fst failed).symm.trans replied
    · have shown := JobTable.isSome_join_standing known
      rw [← same, RedisQueueBackend.status?_of_read_none missing] at shown
      cases shown
    · refine simulates_of_run (congrArg Prod.snd ran) ?_ rfl ⟨?_, named, objects⟩
      · exact (congrArg Prod.fst ran).trans (granted.trans matched.symm)
      · exact coupled.agree.update queued moved

theorem simulates_updateStatus (coupled : Coupled stores) {jobId status : String}
    {redisNow sqlNow : Int}
    (succeeds : backend.Succeeds stores (.updateStatus jobId status redisNow sqlNow)) :
    backend.Simulates stores (.updateStatus jobId status redisNow sqlNow) := by
  obtain ⟨first, _⟩ := (meets_andThen _ _ _ _ _).mp succeeds
  obtain ⟨value, returned⟩ := redis_returns first.1
  have ran := run_andThen_of_ok backend.exec (call (.redis (.updateStatus jobId status redisNow)))
    (fun _ => call (.sql (.updateStatus jobId status sqlNow))) stores returned
  have named := backend.redis.named_updateStatus coupled.named jobId status redisNow
  have objects := SQLQueueBackend.objects_updateStatus jobId sqlNow coupled.objects status
  refine simulates_of_run (congrArg Prod.snd ran) (congrArg Prod.fst ran) rfl ⟨?_, named, objects⟩
  have agree := coupled.agree jobId
  rcases backend.redis.updateStatus_cases stores.redis jobId redisNow status with
    ⟨unknown, kept⟩ | ⟨known, _, moved⟩
  · rcases SQLQueueBackend.updateStatus_cases stores.sql jobId sqlNow status with
      ⟨_, unmatched⟩ | ⟨stored, _, _⟩
    · exact coupled.agree.same (congrArg RedisServer.standing (congrArg Prod.snd kept))
        (congrArg JobTable.standing (congrArg Prod.snd unmatched))
    · rw [← agree, unknown] at stored
      cases stored
  · rcases SQLQueueBackend.updateStatus_cases stores.sql jobId sqlNow status with
      ⟨unknown, _⟩ | ⟨_, _, written⟩
    · rw [agree, unknown] at known
      cases known
    · exact coupled.agree.update moved written

theorem simulates_heartbeat (coupled : Coupled stores) {jobId : String} {sqlNow redisNow : Int}
    (succeeds : backend.Succeeds stores (.heartbeat jobId sqlNow redisNow)) :
    backend.Simulates stores (.heartbeat jobId sqlNow redisNow) := by
  obtain ⟨first, _⟩ := (meets_andThen _ _ _ _ _).mp succeeds
  obtain ⟨value, returned⟩ := sql_returns first.1
  have ran := run_andThen_of_ok backend.exec (call (.sql (.heartbeat jobId sqlNow)))
    (fun _ => call (.redis (.heartbeat jobId redisNow))) stores returned
  refine simulates_of_run (congrArg Prod.snd ran) trivial rfl ⟨?_, ?_, ?_⟩
  · exact coupled.agree.same (stores.redis.standing_heartbeatScript jobId _ _)
      (SQLQueueBackend.standing_heartbeat stores.sql jobId sqlNow)
  · exact coupled.named.heartbeatScript jobId _ _
  · exact SQLQueueBackend.objects_heartbeat jobId sqlNow coupled.objects

theorem answers_dequeue (coupled : Coupled stores) (limit : Int)
    (jobType queueName : Option String) (table : JobTable) :
    backend.Answers stores table (.dequeue limit jobType queueName) := by
  intro jobs returned job member
  obtain ⟨jobId, found, queued⟩ := backend.redis.mem_dequeue returned member
  obtain ⟨identified, shown⟩ := backend.redis.fields_of_read stores.redis jobId found
  have own := coupled.named jobId (RedisServer.isSome_of_status? shown)
  obtain rfl : job.jobId = jobId := Option.some.inj (identified.symm.trans own)
  rw [stores.redis.status?_eq_join, coupled.agree, ← stores.sql.status?_eq_join, queued] at shown
  exact shown

/-- The methods that only change metadata in SQL. -/
theorem Coupled.amended (coupled : Coupled stores) (jobId : String)
    (change : Dict String Value → Except PyError (Dict String Value)) (now : Int) :
    Coupled { stores with
      sql := ((backend.sql.repo.amendMeta jobId change now).run JobTable.exec stores.sql).2 } where
  agree := coupled.agree.same rfl
    (backend.sql.repo.standing_amendMeta jobId change now stores.sql)
  named := coupled.named
  objects := backend.sql.repo.objects_amendMeta jobId change now coupled.objects

/-- The step lemma: an operation none of whose calls fails answers as the lone SQL
backend and keeps the stores coupled. -/
theorem simulates (coupled : Coupled stores) {op : HybridOp}
    (succeeds : backend.Succeeds stores op) : backend.Simulates stores op := by
  cases op with
  | enqueue job sqlNow redisNow => exact simulates_enqueue coupled succeeds
  | dequeue limit jobType queueName =>
      exact ⟨answers_dequeue coupled limit jobType queueName _, rfl, coupled⟩
  | claim jobId hostId workerId redisNow sqlNow => exact simulates_claim coupled succeeds
  | release jobId sqlNow redisNow => exact simulates_release coupled succeeds
  | heartbeat jobId sqlNow redisNow => exact simulates_heartbeat coupled succeeds
  | get jobId => exact ⟨rfl, rfl, coupled⟩
  | updateStatus jobId status redisNow sqlNow => exact simulates_updateStatus coupled succeeds
  | getQueueStatus => exact ⟨rfl, rfl, coupled⟩
  | allJobs => exact ⟨rfl, rfl, coupled⟩
  | recordAttempt jobId error now => exact ⟨rfl, rfl, coupled.amended jobId _ now⟩
  | updateProgress jobId progress now => exact ⟨rfl, rfl, coupled.amended jobId _ now⟩
  | storeResult jobId result now => exact ⟨rfl, rfl, coupled.amended jobId _ now⟩

/-- One call on the hybrid backend and on the lone SQL backend. -/
def both (backend : HybridQueueBackend) (state : HybridStores × JobTable) (op : HybridOp) :
    HybridStores × JobTable :=
  (((code op).run backend.exec state.1).2, (backend.lone op state.2).2)

/-- The hybrid backend holds the table of the lone backend, and its stores are
coupled. -/
structure Tracks (state : HybridStores × JobTable) : Prop where
  table : state.1.sql = state.2
  coupled : Coupled state.1

theorem empty_tracks : Tracks (.empty, .empty) where
  table := rfl
  coupled :=
    { agree := HybridStores.empty_agree
      named := fun _ stored => by cases stored
      objects := fun _ _ stored => by cases stored }

/-- **Sequential use.** Over any run of operations from empty stores in which no call
on a store fails, every operation of the hybrid backend answers as a lone SQL backend
given the same calls, and every job that it dequeues is queued in SQL. -/
theorem sequential_use_answers_as_sql (backend : HybridQueueBackend) (ops : List HybridOp)
    (succeed : Guarded backend.both (fun state op => backend.Succeeds state.1 op)
      (.empty, .empty) ops) :
    Guarded backend.both (fun state op => backend.Answers state.1 state.2 op)
      (.empty, .empty) ops := by
  refine Guarded.of_invariant ?_ empty_tracks succeed
  intro state op tracks succeeds
  have step := simulates tracks.coupled succeeds
  refine ⟨tracks.table ▸ step.answers, ?_, step.coupled⟩
  exact step.table.trans (congrArg (fun table => (backend.lone op table).2) tracks.table)

section Sample

theorem not_fails {call : StoreCall}
    (returns : ∀ error, (plainHybrid.exec call stores).1 ≠ call.raised error) :
    ¬ plainHybrid.Fails call stores := by
  intro fails
  rcases fails with ⟨error, raised⟩ | ⟨_, _, _, _, _, _, short⟩
  · exact returns error raised
  · exact absurd short (by decide)

/-- An `update_status` makes no call that fails. -/
theorem succeeds_updateStatus (jobId status : String) (redisNow sqlNow : Int) :
    plainHybrid.Succeeds stores (.updateStatus jobId status redisNow sqlNow) := by
  refine (meets_andThen _ _ _ _ _).mpr ⟨⟨?_, trivial⟩, fun value returned => ⟨?_, trivial⟩⟩
  · apply not_fails
    intro error raised
    rcases plainHybrid.redis.updateStatus_cases stores.redis jobId redisNow status with
      ⟨_, ran⟩ | ⟨_, returned, _⟩
    · cases (congrArg Prod.fst ran).symm.trans raised
    · cases returned.symm.trans raised
  · apply not_fails
    intro error raised
    rcases SQLQueueBackend.updateStatus_cases stores.sql jobId sqlNow status with
      ⟨_, ran⟩ | ⟨_, returned, _⟩
    · cases (congrArg Prod.fst ran).symm.trans raised
    · cases returned.symm.trans raised

/-- A claim of a plain job makes no call that fails. -/
theorem succeeds_claim (objects : stores.sql.Objects) {jobId jobType : String}
    (stored : stores.redis.hashes.getD jobId ∅ =
      RedisQueueBackend.plainBackend.jobToHash (RedisQueueBackend.plainJob jobId jobType))
    (hostId workerId : String) (redisNow sqlNow : Int) :
    plainHybrid.Succeeds stores (.claim jobId hostId workerId redisNow sqlNow) := by
  have loaded := RedisQueueBackend.plainBackend.loadsDict_claimText
    (RedisQueueBackend.encodes_plainJob jobId jobType) stored
  have ran := RedisQueueBackend.plainBackend.run_claim stores.redis jobId redisNow hostId workerId
    loaded
  refine (meets_andThen _ _ _ _ _).mpr ⟨⟨?_, trivial⟩, fun granted _ => ?_⟩
  · apply not_fails
    intro error raised
    cases (congrArg Prod.fst ran).symm.trans raised
  · cases granted with
    | false => trivial
    | true =>
        refine (meets_andThen _ _ _ _ _).mpr ⟨⟨?_, trivial⟩, fun _ _ => trivial⟩
        apply not_fails
        intro error raised
        rcases SQLQueueBackend.claim_cases stores.sql jobId sqlNow hostId workerId objects with
          ⟨_, ran⟩ | ⟨_, returned, _⟩
        · cases (congrArg Prod.fst ran).symm.trans raised
        · cases returned.symm.trans raised

/-- A job is submitted, claimed and ended, and the statuses are counted. -/
def servedJob : List HybridOp :=
  [.enqueue (RedisQueueBackend.plainJob "first" "report") 0 0,
    .claim "first" "host" "first" 0 0,
    .updateStatus "first" JobStatus.succeeded.value 0 0,
    .getQueueStatus]

theorem served_job_answers_as_sql :
    Guarded plainHybrid.both (fun state op => plainHybrid.Answers state.1 state.2 op)
      (.empty, .empty) servedJob := by
  apply plainHybrid.sequential_use_answers_as_sql servedJob
  refine ⟨?_, ?_, succeeds_updateStatus _ _ _ _, ?_, trivial⟩
  · refine (meets_andThen _ _ _ _ _).mpr ⟨⟨?_, trivial⟩, fun value returned => ⟨?_, trivial⟩⟩
    · exact not_fails fun error raised => by cases raised
    · exact not_fails fun error raised => by cases raised
  · exact succeeds_claim (SQLQueueBackend.objects_enqueue empty_tracks.coupled.objects _) rfl
      _ _ _ _
  · refine ⟨not_fails fun error raised => ?_, trivial⟩
    cases raised

end Sample

end HybridQueueBackend

end CloudDogJobs
