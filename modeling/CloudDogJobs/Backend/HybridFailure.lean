import CloudDogJobs.Backend.Hybrid

/-!
# A failing store under the hybrid backend

`enqueue` and `release` write SQL first, `update_status` writes Redis first, and
nothing takes the first write back when the second call raises. The stores are
left in agreement exactly when it was the first call that raised, or the first
call had nothing to change.
-/

namespace CloudDogJobs

open Foundation

namespace HybridQueueBackend

variable (backend : HybridQueueBackend)

/-- The effect of a call when some calls fail: such a call raises and changes
nothing. -/
def execWith (faults : StoreCall → Option PyError) (call : StoreCall) (stores : HybridStores) :
    call.Reply × HybridStores :=
  match faults call with
  | some error => (call.raised error, stores)
  | none => backend.exec call stores

/-- The operations that write both stores, whatever they find. -/
def Writes : HybridOp → Prop
  | .enqueue _ _ _ => True
  | .release _ _ _ => True
  | .updateStatus _ _ _ _ => True
  | _ => False

/-- The first of the two calls raises, or it has nothing to change. -/
def Harmless (faults : StoreCall → Option PyError) (stores : HybridStores) : HybridOp → Prop
  | .enqueue job sqlNow _ =>
      (faults (.sql (.enqueue job sqlNow))).isSome ∨ (stores.sql.standing job.jobId).isSome
  | .release jobId sqlNow _ =>
      (faults (.sql (.release jobId sqlNow))).isSome ∨ stores.sql.standing jobId = none ∨
        stores.sql.standing jobId = some (some JobStatus.queued.value)
  | .updateStatus jobId status redisNow _ =>
      (faults (.redis (.updateStatus jobId status redisNow))).isSome ∨
        stores.redis.standing jobId = none ∨ stores.redis.standing jobId = some (some status)
  | _ => True

variable (faults : StoreCall → Option PyError) {stores : HybridStores}

theorem execWith_of_fault {call : StoreCall} {error : PyError} (faulty : faults call = some error) :
    backend.execWith faults call stores = (call.raised error, stores) := by
  unfold execWith
  rw [faulty]

theorem execWith_of_none {call : StoreCall} (sound : faults call = none) :
    backend.execWith faults call stores = backend.exec call stores := by
  unfold execWith
  rw [sound]

/-- An `enqueue` on Redis, a `release` on Redis and an `update_status` on SQL that
raise have changed nothing. -/
theorem second_unchanged {second : StoreCall} {error : PyError}
    (last : (∃ job now, second = .redis (.enqueue job now)) ∨
      (∃ jobId now, second = .redis (.release jobId now)) ∨
      (∃ jobId status now, second = .sql (.updateStatus jobId status now)))
    (raised : (backend.execWith faults second stores).1 = second.raised error) :
    (backend.execWith faults second stores).2 = stores := by
  cases faulty : faults second with
  | some fault => rw [backend.execWith_of_fault faults faulty]
  | none =>
      rw [backend.execWith_of_none faults faulty] at raised ⊢
      rcases last with ⟨job, now, rfl⟩ | ⟨jobId, now, rfl⟩ | ⟨jobId, status, now, rfl⟩
      · cases raised
      · rcases backend.redis.release_cases stores.redis jobId now with
          ⟨failure, _, ran⟩ | ⟨_, ran⟩ | ⟨job, _, returned, _⟩
        · exact congrArg (fun server => { stores with redis := server }) (congrArg Prod.snd ran)
        · cases (congrArg Prod.fst ran).symm.trans raised
        · cases returned.symm.trans raised
      · rcases SQLQueueBackend.updateStatus_cases stores.sql jobId now status with
          ⟨_, ran⟩ | ⟨_, returned, _⟩
        · cases (congrArg Prod.fst ran).symm.trans raised
        · cases returned.symm.trans raised

/-- A method ends with its first call when that call fails. -/
theorem run_of_fault {α : Type} {op : BackendOp} {error : PyError}
    {next : op.Value → HybridProg (Except PyError α)} :
    (faults (.sql op) = some error →
      ((andThen (call (.sql op)) next).run (backend.execWith faults) stores).2 = stores) ∧
    (faults (.redis op) = some error →
      ((andThen (call (.redis op)) next).run (backend.execWith faults) stores).2 = stores) := by
  refine ⟨fun faulty => ?_, fun faulty => ?_⟩
  · rw [run_andThen, run_call, backend.execWith_of_fault faults faulty]
    rfl
  · rw [run_andThen, run_call, backend.execWith_of_fault faults faulty]
    rfl

variable {faults} {error : PyError} {first second : BackendOp}

/-- A method that writes SQL first goes on to Redis when the first call returned. -/
theorem run_sql_redis (sound : faults (.sql first) = none) {value : first.Value}
    (returned : (backend.sql.contract.invoke first stores.sql).1 = .ok value) :
    (andThen (call (.sql first)) fun _ => call (.redis second)).run (backend.execWith faults)
        stores =
      backend.execWith faults (.redis second)
        { stores with sql := (backend.sql.contract.invoke first stores.sql).2 } := by
  have ran : (call (.sql first)).run (backend.execWith faults) stores =
      backend.exec (.sql first) stores := backend.execWith_of_none faults sound
  rw [run_andThen_of_ok _ _ _ _ ((congrArg Prod.fst ran).trans returned), ran]
  rfl

/-- A method that writes Redis first goes on to SQL when the first call returned. -/
theorem run_redis_sql (sound : faults (.redis first) = none) {value : first.Value}
    (returned : (backend.redis.contract.invoke first stores.redis).1 = .ok value) :
    (andThen (call (.redis first)) fun _ => call (.sql second)).run (backend.execWith faults)
        stores =
      backend.execWith faults (.sql second)
        { stores with redis := (backend.redis.contract.invoke first stores.redis).2 } := by
  have ran : (call (.redis first)).run (backend.execWith faults) stores =
      backend.exec (.redis first) stores := backend.execWith_of_none faults sound
  rw [run_andThen_of_ok _ _ _ _ ((congrArg Prod.fst ran).trans returned), ran]
  rfl

theorem enqueue_agree_iff (agree : stores.Agree) {job : Job} {sqlNow redisNow : Int}
    (raised : ((enqueue job sqlNow redisNow).run (backend.execWith faults) stores).1 =
      .error error) :
    ((enqueue job sqlNow redisNow).run (backend.execWith faults) stores).2.Agree ↔
      Harmless faults stores (.enqueue job sqlNow redisNow) := by
  unfold enqueue at raised ⊢
  cases faulty : faults (.sql (.enqueue job sqlNow)) with
  | some fault =>
      rw [(backend.run_of_fault faults).1 faulty]
      exact iff_of_true agree (.inl (by rw [faulty]; rfl))
  | none =>
      rcases SQLQueueBackend.enqueue_cases stores.sql job with
        ⟨absent, returned, moved⟩ | ⟨known, failure, ran⟩
      · rw [backend.run_sql_redis faulty returned] at raised ⊢
        rw [backend.second_unchanged faults (.inl ⟨job, redisNow, rfl⟩) raised]
        refine (agree.update_sql_iff moved).trans ?_
        rw [absent]
        refine iff_of_false (fun same => by cases same) ?_
        intro harmless
        simp only [Harmless, faulty, absent] at harmless
        rcases harmless with fault | known
        · cases fault
        · cases known
      · have refused : (backend.sql.contract.invoke (.enqueue job sqlNow) stores.sql) =
            (.error failure, stores.sql) := ran
        refine iff_of_true ?_ (.inr known)
        rw [run_andThen, run_call, backend.execWith_of_none faults faulty]
        simp only [exec, refused]
        exact agree

theorem release_agree_iff (agree : stores.Agree) {jobId : String} {sqlNow redisNow : Int}
    (raised : ((release jobId sqlNow redisNow).run (backend.execWith faults) stores).1 =
      .error error) :
    ((release jobId sqlNow redisNow).run (backend.execWith faults) stores).2.Agree ↔
      Harmless faults stores (.release jobId sqlNow redisNow) := by
  unfold release at raised ⊢
  cases faulty : faults (.sql (.release jobId sqlNow)) with
  | some fault =>
      rw [(backend.run_of_fault faults).1 faulty]
      exact iff_of_true agree (.inl (by rw [faulty]; rfl))
  | none =>
      rcases SQLQueueBackend.updateStatus_cases stores.sql jobId sqlNow JobStatus.queued.value with
        ⟨absent, ran⟩ | ⟨known, returned, moved⟩
      · have kept : (backend.sql.contract.invoke (.release jobId sqlNow) stores.sql).2 =
            stores.sql := congrArg Prod.snd ran
        rw [backend.run_sql_redis faulty (congrArg Prod.fst ran)] at raised ⊢
        rw [backend.second_unchanged faults (.inr (.inl ⟨jobId, redisNow, rfl⟩)) raised, kept]
        exact iff_of_true agree (.inr (.inl absent))
      · have there : stores.sql.standing jobId ≠ none := Option.isSome_iff_ne_none.mp known
        rw [backend.run_sql_redis faulty returned] at raised ⊢
        rw [backend.second_unchanged faults (.inr (.inl ⟨jobId, redisNow, rfl⟩)) raised]
        refine (agree.update_sql_iff moved).trans ?_
        simp only [Harmless, faulty, Option.isSome_none, Bool.false_eq_true, there, false_or]

theorem updateStatus_agree_iff (agree : stores.Agree) {jobId status : String}
    {redisNow sqlNow : Int}
    (raised : ((updateStatus jobId status redisNow sqlNow).run (backend.execWith faults)
      stores).1 = .error error) :
    ((updateStatus jobId status redisNow sqlNow).run (backend.execWith faults) stores).2.Agree ↔
      Harmless faults stores (.updateStatus jobId status redisNow sqlNow) := by
  unfold updateStatus at raised ⊢
  cases faulty : faults (.redis (.updateStatus jobId status redisNow)) with
  | some fault =>
      rw [(backend.run_of_fault faults).2 faulty]
      exact iff_of_true agree (.inl (by rw [faulty]; rfl))
  | none =>
      rcases backend.redis.updateStatus_cases stores.redis jobId redisNow status with
        ⟨absent, ran⟩ | ⟨known, returned, moved⟩
      · have kept : (backend.redis.contract.invoke (.updateStatus jobId status redisNow)
            stores.redis).2 = stores.redis := congrArg Prod.snd ran
        rw [backend.run_redis_sql faulty (congrArg Prod.fst ran)] at raised ⊢
        rw [backend.second_unchanged faults (.inr (.inr ⟨jobId, status, sqlNow, rfl⟩)) raised, kept]
        exact iff_of_true agree (.inr (.inl absent))
      · have there : stores.redis.standing jobId ≠ none := Option.isSome_iff_ne_none.mp known
        rw [backend.run_redis_sql faulty returned] at raised ⊢
        rw [backend.second_unchanged faults (.inr (.inr ⟨jobId, status, sqlNow, rfl⟩)) raised]
        refine (agree.update_redis_iff moved).trans ?_
        simp only [Harmless, faulty, Option.isSome_none, Bool.false_eq_true, there, false_or]

/-- **A failing store.** From stores that agree, an `enqueue`, `release` or
`update_status` that raised leaves them in agreement if and only if the first of its
two calls raised, or the first call had nothing to change. -/
theorem failed_operation_agrees_iff (faults : StoreCall → Option PyError) (stores : HybridStores)
    (agree : stores.Agree) (op : HybridOp) (writes : Writes op) (error : PyError)
    (raised : ((code op).run (backend.execWith faults) stores).1 = .error error) :
    ((code op).run (backend.execWith faults) stores).2.Agree ↔ Harmless faults stores op := by
  cases op with
  | enqueue job sqlNow redisNow => exact backend.enqueue_agree_iff agree raised
  | release jobId sqlNow redisNow => exact backend.release_agree_iff agree raised
  | updateStatus jobId status redisNow sqlNow => exact backend.updateStatus_agree_iff agree raised
  | _ => cases writes

section Sample

/-- The SQL server is down. -/
def sqlDown : StoreCall → Option PyError
  | .sql _ => some (.raised "connection refused")
  | _ => none

/-- The Redis server is down. -/
def redisDown : StoreCall → Option PyError
  | .redis _ => some (.redisError "Connection refused")
  | _ => none

/-- One new job. -/
def enqueueOne : HybridOp := .enqueue (RedisQueueBackend.plainJob "first" "report") 0 0

theorem enqueue_without_sql_agrees :
    ((code enqueueOne).run (plainHybrid.execWith sqlDown) .empty).2.Agree := by
  apply (plainHybrid.failed_operation_agrees_iff sqlDown .empty HybridStores.empty_agree enqueueOne
    trivial (.raised "connection refused") rfl).mpr
  exact .inl rfl

/-- The job is durable in SQL and never reaches the dispatch queue. -/
theorem enqueue_without_redis_disagrees :
    HybridStores.empty.Agree ∧ Writes enqueueOne ∧
    ((code enqueueOne).run (plainHybrid.execWith redisDown) .empty).1 =
      .error (.redisError "Connection refused") ∧
    ((code enqueueOne).run (plainHybrid.execWith redisDown) .empty).2.sql.standing "first" =
      some (some JobStatus.queued.value) ∧
    ((code enqueueOne).run (plainHybrid.execWith redisDown) .empty).2.redis.standing "first" =
      none ∧
    ¬ ((code enqueueOne).run (plainHybrid.execWith redisDown) .empty).2.Agree := by
  refine ⟨HybridStores.empty_agree, trivial, rfl, rfl, rfl, ?_⟩
  intro agree
  cases agree "first"

end Sample

end HybridQueueBackend

end CloudDogJobs
