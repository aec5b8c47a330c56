import CloudDogJobs.Backend.Hybrid

/-!
# Crossing operations on the hybrid backend

`enqueue` and `release` write SQL first, `claim` and `update_status` write Redis
first, and nothing spans the pair of calls. Two clients whose operations on one job
cross leave the stores apart for good. The stores converge in every run in which a
client that is between its two calls on a job is left alone with that job.
-/

namespace CloudDogJobs

open Foundation

/-- The job that one of the four lifecycle operations is about. -/
def HybridOp.jobId? : HybridOp → Option String
  | .enqueue job _ _ => some job.jobId
  | .claim jobId _ _ _ _ => some jobId
  | .release jobId _ _ => some jobId
  | .updateStatus jobId _ _ _ => some jobId
  | _ => none

/-- The first call of a lifecycle operation. -/
def HybridOp.firstCall : HybridOp → Option StoreCall
  | .enqueue job sqlNow _ => some (.sql (.enqueue job sqlNow))
  | .claim jobId hostId workerId redisNow _ => some (.redis (.claim jobId hostId workerId redisNow))
  | .release jobId sqlNow _ => some (.sql (.release jobId sqlNow))
  | .updateStatus jobId status redisNow _ => some (.redis (.updateStatus jobId status redisNow))
  | _ => none

/-- Its second call. -/
def HybridOp.secondCall : HybridOp → Option StoreCall
  | .enqueue job _ redisNow => some (.redis (.enqueue job redisNow))
  | .claim jobId hostId workerId _ sqlNow => some (.sql (.claim jobId hostId workerId sqlNow))
  | .release jobId _ redisNow => some (.redis (.release jobId redisNow))
  | .updateStatus jobId status _ sqlNow => some (.sql (.updateStatus jobId status sqlNow))
  | _ => none

/-- Whether a lifecycle operation goes on to its second call after this reply to the
first one. -/
def StoreCall.goesOn : (call : StoreCall) → call.Reply → Bool
  | .sql (.enqueue _ _), .ok _ => true
  | .redis (.claim _ _ _ _), .ok granted => granted
  | .sql (.release _ _), .ok _ => true
  | .redis (.updateStatus _ _ _), .ok _ => true
  | _, _ => false

/-- How far a lifecycle operation has come. -/
inductive Progress
  | ready (op : HybridOp)
  | half (op : HybridOp)
  | ended

namespace HybridQueueBackend

/-- Follows the calls of a lifecycle operation. -/
def progress : Monitor StoreCall StoreCall.Reply Progress where
  update
    | .ready op, call, reply => if call.goesOn reply then .half op else .ended
    | _, _, _ => .ended
  allowed
    | .ready op, call => op.firstCall = some call
    | .half op, call => op.secondCall = some call
    | .ended, _ => False
  possible _ _ := True

/-- An operation with what it returned. -/
structure Returned where
  op : HybridOp
  value : Except PyError op.Value

/-- Clients of one hybrid backend, their calls on the two stores interleaved. -/
def machine (ι : Type) (backend : HybridQueueBackend) :
    Machine ι HybridOp StoreCall StoreCall.Reply Returned HybridStores where
  exec := backend.exec
  code _ op := Returned.mk op <$> code op

/-- The program of a lifecycle operation makes its first call, and its second one when
the reply lets it go on. -/
theorem accepts_code {op : HybridOp} {jobId : String} (lifecycle : op.jobId? = some jobId) :
    progress.Accepts (fun stage _ => stage = .ended) (.ready op) (Returned.mk op <$> code op) := by
  rw [Monitor.accepts_map]
  cases op with
  | enqueue job sqlNow redisNow =>
      refine ⟨rfl, fun reply _ => ?_⟩
      cases reply with
      | error error => rfl
      | ok value => exact ⟨rfl, fun _ _ => rfl⟩
  | claim jobId hostId workerId redisNow sqlNow =>
      refine ⟨rfl, fun reply _ => ?_⟩
      cases reply with
      | error error => rfl
      | ok granted =>
          cases granted with
          | false => rfl
          | true =>
              refine ⟨rfl, fun reply _ => ?_⟩
              cases reply with
              | error error => rfl
              | ok value => rfl
  | release jobId sqlNow redisNow =>
      refine ⟨rfl, fun reply _ => ?_⟩
      cases reply with
      | error error => rfl
      | ok value => exact ⟨rfl, fun _ _ => rfl⟩
  | updateStatus jobId status redisNow sqlNow =>
      refine ⟨rfl, fun reply _ => ?_⟩
      cases reply with
      | error error => rfl
      | ok value => exact ⟨rfl, fun _ _ => rfl⟩
  | _ => cases lifecycle

/-- Where an operation that is between its two calls has left its job. -/
def Half (stores : HybridStores) : HybridOp → Prop
  | .enqueue job _ _ => stores.sql.standing job.jobId = some (some job.status.value)
  | .claim jobId _ _ _ _ =>
      stores.redis.standing jobId = some (some JobStatus.running.value) ∧
        stores.sql.standing jobId = some (some JobStatus.queued.value)
  | .release jobId _ _ =>
      (stores.redis.standing jobId = none ∧ stores.sql.standing jobId = none) ∨
        ((stores.redis.status? jobId).isSome ∧
          stores.sql.standing jobId = some (some JobStatus.queued.value))
  | .updateStatus jobId status _ _ =>
      (stores.redis.standing jobId = none ∧ stores.sql.standing jobId = none) ∨
        (stores.redis.standing jobId = some (some status) ∧ (stores.sql.standing jobId).isSome)
  | _ => False

/-- The halfway state depends on the standing of the job alone. -/
theorem Half.congr {stores changed : HybridStores} {op : HybridOp} {jobId : String}
    (about : op.jobId? = some jobId)
    (redis : changed.redis.standing jobId = stores.redis.standing jobId)
    (sql : changed.sql.standing jobId = stores.sql.standing jobId) (half : Half stores op) :
    Half changed op := by
  cases op with
  | enqueue job sqlNow redisNow =>
      obtain rfl := Option.some.inj about
      exact sql.trans half
  | claim named hostId workerId redisNow sqlNow =>
      obtain rfl := Option.some.inj about
      exact ⟨redis.trans half.1, sql.trans half.2⟩
  | release named sqlNow redisNow =>
      obtain rfl := Option.some.inj about
      simp only [Half, RedisServer.status?_eq_join, redis, sql] at half ⊢
      exact half
  | updateStatus named status redisNow sqlNow =>
      obtain rfl := Option.some.inj about
      simp only [Half, redis, sql] at half ⊢
      exact half
  | _ => cases about

/-- Only a lifecycle operation has a halfway state. -/
theorem Half.about {stores : HybridStores} {op : HybridOp} (half : Half stores op) :
    ∃ jobId, op.jobId? = some jobId := by
  cases op with
  | enqueue job sqlNow redisNow => exact ⟨job.jobId, rfl⟩
  | claim jobId hostId workerId redisNow sqlNow => exact ⟨jobId, rfl⟩
  | release jobId sqlNow redisNow => exact ⟨jobId, rfl⟩
  | updateStatus jobId status redisNow sqlNow => exact ⟨jobId, rfl⟩
  | _ => cases half

section Invariant

variable {ι : Type}

/-- A client is halfway through an operation on the job. -/
def HalfOn (summary : ι → Option (HybridOp × Progress)) (client : ι) (jobId : String) : Prop :=
  ∃ called op, summary client = some (called, .half op) ∧ op.jobId? = some jobId

/-- What holds in every reachable state: a job on which no client is halfway has one
standing, a client that is halfway has left its job as its operation leaves it, and
no two clients are halfway on one job. -/
structure Converging (stores : HybridStores) (summary : ι → Option (HybridOp × Progress)) :
    Prop where
  objects : stores.sql.Objects
  settled : ∀ jobId, (∀ client, ¬ HalfOn summary client jobId) → stores.AgreeOn jobId
  half : ∀ client called op, summary client = some (called, .half op) → Half stores op
  alone : ∀ first second jobId, HalfOn summary first jobId → HalfOn summary second jobId →
    first = second

variable [DecidableEq ι] {stores changed : HybridStores}
  {summary : ι → Option (HybridOp × Progress)} {client : ι} {called : HybridOp}

/-- A client that is not halfway can be set to anything that is not halfway either. -/
theorem Converging.unchanged (converging : Converging stores summary)
    (before : ∀ jobId, ¬ HalfOn summary client jobId) {entry : Option (HybridOp × Progress)}
    (after : ∀ called op, entry ≠ some (called, .half op)) :
    Converging stores (Function.update summary client entry) := by
  have kept : ∀ other jobId, HalfOn (Function.update summary client entry) other jobId ↔
      HalfOn summary other jobId := by
    intro other jobId
    by_cases same : other = client
    · subst same
      refine iff_of_false ?_ (before jobId)
      intro halfOn
      obtain ⟨called, op, shown, _⟩ := halfOn
      rw [Function.update_self] at shown
      exact after called op shown
    · unfold HalfOn
      rw [Function.update_of_ne same]
  refine ⟨converging.objects, ?_, ?_, ?_⟩
  · intro jobId free
    exact converging.settled jobId fun other halfOn => free other ((kept other jobId).mpr halfOn)
  · intro other called op shown
    by_cases same : other = client
    · subst same
      rw [Function.update_self] at shown
      exact absurd shown (after called op)
    · rw [Function.update_of_ne same] at shown
      exact converging.half other called op shown
  · intro first second jobId one two
    exact converging.alone first second jobId ((kept first jobId).mp one)
      ((kept second jobId).mp two)

/-- A client that alone works on a job changes its standing and is then halfway on it,
or leaves the stores in agreement on it. -/
theorem Converging.moved (converging : Converging stores summary) {jobId : String}
    {entry : HybridOp × Progress} (objects : changed.sql.Objects)
    (redis : ∀ other, other ≠ jobId →
      changed.redis.standing other = stores.redis.standing other)
    (sql : ∀ other, other ≠ jobId → changed.sql.standing other = stores.sql.standing other)
    (own : ∀ other, HalfOn summary client other → other = jobId)
    (free : ∀ other, other ≠ client → ¬ HalfOn summary other jobId)
    (outcome : (∃ op, entry.2 = .half op ∧ op.jobId? = some jobId ∧ Half changed op) ∨
      ((∀ op, entry.2 ≠ .half op) ∧ changed.AgreeOn jobId)) :
    Converging changed (Function.update summary client (some entry)) := by
  have others : ∀ other named, other ≠ client →
      (HalfOn (Function.update summary client (some entry)) other named ↔
        HalfOn summary other named) := by
    intro other named different
    unfold HalfOn
    rw [Function.update_of_ne different]
  have here : ∀ named, HalfOn (Function.update summary client (some entry)) client named →
      named = jobId := by
    intro named halfOn
    obtain ⟨called, op, shown, about⟩ := halfOn
    rw [Function.update_self] at shown
    obtain rfl := Option.some.inj shown
    rcases outcome with ⟨reached, same, ours, _⟩ | ⟨ended, _⟩
    · obtain rfl := Progress.half.inj same
      exact Option.some.inj (about.symm.trans ours)
    · exact absurd rfl (ended op)
  refine ⟨objects, ?_, ?_, ?_⟩
  · intro named unclaimed
    by_cases same : named = jobId
    · subst same
      rcases outcome with ⟨op, reached, ours, _⟩ | ⟨_, agree⟩
      · refine absurd ⟨entry.1, op, ?_, ours⟩ (unclaimed client)
        rw [Function.update_self, ← reached]
      · exact agree
    · have before : stores.AgreeOn named := by
        apply converging.settled named
        intro other halfOn
        by_cases ours : other = client
        · subst ours
          exact same (own named halfOn)
        · exact unclaimed other ((others other named ours).mpr halfOn)
      exact (redis named same).trans (before.trans (sql named same).symm)
  · intro other called op shown
    by_cases same : other = client
    · subst same
      rw [Function.update_self] at shown
      obtain rfl := Option.some.inj shown
      rcases outcome with ⟨reached, equal, _, half⟩ | ⟨ended, _⟩
      · obtain rfl := Progress.half.inj equal
        exact half
      · exact absurd rfl (ended op)
    · rw [Function.update_of_ne same] at shown
      have half := converging.half other called op shown
      obtain ⟨named, about⟩ := half.about
      have different : named ≠ jobId := by
        intro equal
        subst equal
        exact free other same ⟨called, op, shown, about⟩
      exact half.congr about (redis named different) (sql named different)
  · intro first second named one two
    by_cases firstOurs : first = client
    · by_cases secondOurs : second = client
      · rw [firstOurs, secondOurs]
      · subst firstOurs
        obtain rfl := here named one
        exact absurd ((others second named secondOurs).mp two) (free second secondOurs)
    · by_cases secondOurs : second = client
      · subst secondOurs
        obtain rfl := here named two
        exact absurd ((others first named firstOurs).mp one) (free first firstOurs)
      · exact converging.alone first second named ((others first named firstOurs).mp one)
          ((others second named secondOurs).mp two)

end Invariant

section Calls

variable (backend : HybridQueueBackend) {stores changed : HybridStores} {jobId : String}

/-- A call whose method ends with it, the stores unchanged: Redis refuses the claim of
a job that is not queued, SQL refuses an identifier that it knows. -/
def Refused (stores : HybridStores) : StoreCall → Prop
  | .redis (.claim jobId _ _ _) => stores.redis.status? jobId ≠ some JobStatus.queued.value
  | .sql (.enqueue job _) => (stores.sql.standing job.jobId).isSome
  | _ => False

/-- The hash of a released job decodes, and the lease time of a claim is positive. -/
def Sound (stores : HybridStores) : StoreCall → Prop
  | .redis (.release jobId _) => ∃ found, backend.redis.read stores.redis jobId = .ok found
  | .redis (.claim jobId _ _ _) =>
      stores.redis.status? jobId = some JobStatus.queued.value → 0 < backend.redis.leaseTimeout
  | _ => True

/-- A change of the standing of one job. -/
structure MovesOnly (stores changed : HybridStores) (jobId : String) : Prop where
  objects : changed.sql.Objects
  redis : ∀ other, other ≠ jobId → changed.redis.standing other = stores.redis.standing other
  sql : ∀ other, other ≠ jobId → changed.sql.standing other = stores.sql.standing other

/-- A change of one or both standings of a job, or of none. -/
theorem MovesOnly.of_standing (objects : changed.sql.Objects)
    (redis : changed.redis.standing = stores.redis.standing ∨
      ∃ standing, changed.redis.standing = Function.update stores.redis.standing jobId standing)
    (sql : changed.sql.standing = stores.sql.standing ∨
      ∃ standing, changed.sql.standing = Function.update stores.sql.standing jobId standing) :
    MovesOnly stores changed jobId := by
  refine ⟨objects, fun other different => ?_, fun other different => ?_⟩
  · rcases redis with same | ⟨standing, moved⟩
    · rw [same]
    · rw [moved, Function.update_of_ne different]
  · rcases sql with same | ⟨standing, moved⟩
    · rw [same]
    · rw [moved, Function.update_of_ne different]

/-- A refused call ends its method and changes nothing. -/
theorem refused_call {call : StoreCall} (refused : Refused stores call) :
    call.goesOn (backend.exec call stores).1 = false ∧ (backend.exec call stores).2 = stores := by
  unfold Refused at refused
  split at refused
  · next jobId hostId workerId now =>
      rcases backend.redis.claim_cases stores.redis jobId now hostId workerId with
        ⟨error, ran⟩ | ⟨_, ran⟩ | ⟨waiting, _, _⟩
      · have result : backend.redis.contract.invoke (.claim jobId hostId workerId now)
            stores.redis = (.error error, stores.redis) := ran
        simp only [exec, result]
        exact ⟨rfl, trivial⟩
      · have result : backend.redis.contract.invoke (.claim jobId hostId workerId now)
            stores.redis = (.ok false, stores.redis) := ran
        simp only [exec, result]
        exact ⟨rfl, trivial⟩
      · exact absurd waiting refused
  · next job now =>
      rcases SQLQueueBackend.enqueue_cases stores.sql job with ⟨absent, _, _⟩ | ⟨_, error, ran⟩
      · rw [absent] at refused
        cases refused
      · have result : backend.sql.contract.invoke (.enqueue job now) stores.sql =
            (.error error, stores.sql) := ran
        simp only [exec, result]
        exact ⟨rfl, trivial⟩
  · cases refused

/-- The first call of an operation on a job on which the stores agree leaves it
halfway, or ends it in agreement. -/
theorem first_call (objects : stores.sql.Objects) {op : HybridOp} {call : StoreCall}
    (about : op.jobId? = some jobId) (first : op.firstCall = some call)
    (agree : stores.AgreeOn jobId) (sound : backend.Sound stores call) :
    MovesOnly stores (backend.exec call stores).2 jobId ∧
      ((call.goesOn (backend.exec call stores).1 = true ∧ Half (backend.exec call stores).2 op) ∨
        (call.goesOn (backend.exec call stores).1 = false ∧
          (backend.exec call stores).2.AgreeOn jobId)) := by
  cases op with
  | enqueue job sqlNow redisNow =>
      obtain rfl := Option.some.inj about
      obtain rfl := Option.some.inj first
      rcases SQLQueueBackend.enqueue_cases stores.sql job with
        ⟨absent, returned, moved⟩ | ⟨known, _⟩
      · have result : (backend.sql.contract.invoke (.enqueue job sqlNow) stores.sql).1 =
            .ok job.jobId := returned
        refine ⟨.of_standing (SQLQueueBackend.objects_enqueue objects job) (.inl rfl)
          (.inr ⟨_, moved⟩), .inl ⟨?_, ?_⟩⟩
        · simp only [exec, result]
          rfl
        · exact (congrFun moved job.jobId).trans (Function.update_self ..)
      · have refused : Refused stores (.sql (.enqueue job sqlNow)) := known
        obtain ⟨ended, kept⟩ := backend.refused_call refused
        rw [kept]
        exact ⟨.of_standing objects (.inl rfl) (.inl rfl), .inr ⟨ended, agree⟩⟩
  | claim named hostId workerId redisNow sqlNow =>
      obtain rfl := Option.some.inj about
      obtain rfl := Option.some.inj first
      by_cases waiting : stores.redis.status? named = some JobStatus.queued.value
      · rcases backend.redis.claim_cases stores.redis named redisNow hostId workerId with
          ⟨error, ran⟩ | ⟨other, _⟩ | ⟨_, granted, moved⟩
        · have result : backend.redis.contract.invoke (.claim named hostId workerId redisNow)
              stores.redis = (.error error, stores.redis) := ran
          simp only [exec, result]
          exact ⟨.of_standing objects (.inl rfl) (.inl rfl), .inr ⟨rfl, agree⟩⟩
        · exact absurd waiting other
        · have result : (backend.redis.contract.invoke (.claim named hostId workerId redisNow)
              stores.redis).1 = .ok true := by
            rw [decide_eq_true (sound waiting)] at granted
            exact granted
          have queued : stores.sql.standing named = some (some JobStatus.queued.value) := by
            rw [stores.redis.status?_eq_join, agree] at waiting
            exact Option.join_eq_some_iff.mp waiting
          refine ⟨.of_standing objects (.inr ⟨_, moved⟩) (.inl rfl), .inl ⟨?_, ?_, queued⟩⟩
          · simp only [exec, result]
            rfl
          · exact (congrFun moved named).trans (Function.update_self ..)
      · have refused : Refused stores (.redis (.claim named hostId workerId redisNow)) := waiting
        obtain ⟨ended, kept⟩ := backend.refused_call refused
        rw [kept]
        exact ⟨.of_standing objects (.inl rfl) (.inl rfl), .inr ⟨ended, agree⟩⟩
  | release named sqlNow redisNow =>
      obtain rfl := Option.some.inj about
      obtain rfl := Option.some.inj first
      have kept := SQLQueueBackend.objects_updateStatus named sqlNow objects JobStatus.queued.value
      rcases SQLQueueBackend.updateStatus_cases stores.sql named sqlNow JobStatus.queued.value with
        ⟨absent, ran⟩ | ⟨known, returned, moved⟩
      · have result : backend.sql.contract.invoke (.release named sqlNow) stores.sql =
            (.ok false, stores.sql) := ran
        simp only [exec, result]
        exact ⟨.of_standing objects (.inl rfl) (.inl rfl),
          .inl ⟨rfl, .inl ⟨agree.trans absent, absent⟩⟩⟩
      · have result : (backend.sql.contract.invoke (.release named sqlNow) stores.sql).1 =
            .ok true := returned
        have shown : (stores.redis.status? named).isSome := by
          rw [stores.redis.status?_eq_join, agree]
          exact JobTable.isSome_join_standing known
        refine ⟨.of_standing kept (.inl rfl) (.inr ⟨_, moved⟩), .inl ⟨?_, .inr ⟨shown, ?_⟩⟩⟩
        · simp only [exec, result]
          rfl
        · exact (congrFun moved named).trans (Function.update_self ..)
  | updateStatus named status redisNow sqlNow =>
      obtain rfl := Option.some.inj about
      obtain rfl := Option.some.inj first
      rcases backend.redis.updateStatus_cases stores.redis named redisNow status with
        ⟨absent, ran⟩ | ⟨known, returned, moved⟩
      · have result : backend.redis.contract.invoke (.updateStatus named status redisNow)
            stores.redis = (.ok false, stores.redis) := ran
        simp only [exec, result]
        exact ⟨.of_standing objects (.inl rfl) (.inl rfl),
          .inl ⟨rfl, .inl ⟨absent, agree.symm.trans absent⟩⟩⟩
      · have result : (backend.redis.contract.invoke (.updateStatus named status redisNow)
            stores.redis).1 = .ok true := returned
        have stored : (stores.sql.standing named).isSome := by
          rw [← agree]
          exact known
        refine ⟨.of_standing objects (.inr ⟨_, moved⟩) (.inl rfl), .inl ⟨?_, .inr ⟨?_, stored⟩⟩⟩
        · simp only [exec, result]
          rfl
        · exact (congrFun moved named).trans (Function.update_self ..)
  | _ => cases about

/-- The second call of an operation that is halfway leaves the stores in agreement on
its job. -/
theorem second_call (objects : stores.sql.Objects) {op : HybridOp} {call : StoreCall}
    (about : op.jobId? = some jobId) (second : op.secondCall = some call)
    (half : Half stores op) (sound : backend.Sound stores call) :
    MovesOnly stores (backend.exec call stores).2 jobId ∧
      (backend.exec call stores).2.AgreeOn jobId := by
  cases op with
  | enqueue job sqlNow redisNow =>
      obtain rfl := Option.some.inj about
      obtain rfl := Option.some.inj second
      have moved := backend.redis.standing_enqueue stores.redis redisNow job
      refine ⟨.of_standing objects (.inr ⟨_, moved⟩) (.inl rfl), ?_⟩
      exact ((congrFun moved job.jobId).trans (Function.update_self ..)).trans half.symm
  | claim named hostId workerId redisNow sqlNow =>
      obtain rfl := Option.some.inj about
      obtain rfl := Option.some.inj second
      have kept := SQLQueueBackend.objects_claim named sqlNow hostId workerId objects
      rcases SQLQueueBackend.claim_cases stores.sql named sqlNow hostId workerId objects with
        ⟨other, _⟩ | ⟨_, _, moved⟩
      · exact absurd half.2 other
      · refine ⟨.of_standing kept (.inl rfl) (.inr ⟨_, moved⟩), ?_⟩
        exact half.1.trans ((congrFun moved named).trans (Function.update_self ..)).symm
  | release named sqlNow redisNow =>
      obtain rfl := Option.some.inj about
      obtain rfl := Option.some.inj second
      obtain ⟨found, decoded⟩ := sound
      rcases backend.redis.release_cases stores.redis named redisNow with
        ⟨error, failed, _⟩ | ⟨missing, ran⟩ | ⟨job, read, _, moved⟩
      · cases failed.symm.trans decoded
      · have result : backend.redis.contract.invoke (.release named redisNow) stores.redis =
            (.ok false, stores.redis) := ran
        simp only [exec, result]
        refine ⟨.of_standing objects (.inl rfl) (.inl rfl), ?_⟩
        rcases half with ⟨unknown, absent⟩ | ⟨shown, _⟩
        · exact unknown.trans absent.symm
        · rw [RedisQueueBackend.status?_of_read_none missing] at shown
          cases shown
      · refine ⟨.of_standing objects (.inr ⟨_, moved⟩) (.inl rfl), ?_⟩
        have queued := (congrFun moved named).trans (Function.update_self ..)
        rcases half with ⟨unknown, _⟩ | ⟨_, written⟩
        · have shown := (backend.redis.fields_of_read stores.redis named read).2
          rw [stores.redis.status?_eq_join, unknown] at shown
          cases shown
        · exact queued.trans written.symm
  | updateStatus named status redisNow sqlNow =>
      obtain rfl := Option.some.inj about
      obtain rfl := Option.some.inj second
      have kept := SQLQueueBackend.objects_updateStatus named sqlNow objects status
      rcases SQLQueueBackend.updateStatus_cases stores.sql named sqlNow status with
        ⟨absent, ran⟩ | ⟨known, _, moved⟩
      · have result : backend.sql.contract.invoke (.updateStatus named status sqlNow) stores.sql =
            (.ok false, stores.sql) := ran
        simp only [exec, result]
        refine ⟨.of_standing objects (.inl rfl) (.inl rfl), ?_⟩
        rcases half with ⟨unknown, _⟩ | ⟨_, stored⟩
        · exact unknown.trans absent.symm
        · rw [absent] at stored
          cases stored
      · refine ⟨.of_standing kept (.inl rfl) (.inr ⟨_, moved⟩), ?_⟩
        have set := (congrFun moved named).trans (Function.update_self ..)
        rcases half with ⟨_, absent⟩ | ⟨written, _⟩
        · rw [absent] at known
          cases known
        · exact written.trans set.symm
  | _ => cases about

end Calls

section Runs

variable {ι : Type} (backend : HybridQueueBackend)

/-- A configuration of the clients of a hybrid backend. -/
abbrev HybridConfig (ι : Type) : Type :=
  Config ι HybridOp StoreCall StoreCall.Reply Returned HybridStores

/-- A client has made the first call of an operation on the job, and the reply has let
the operation go on to its second call. -/
def Between (config : HybridConfig ι) (client : ι) (jobId : String) : Prop :=
  ∃ op rest call reply, config.client client = .busy op rest [⟨call, reply⟩] ∧
    call.goesOn reply = true ∧ op.jobId? = some jobId

/-- Clients call the lifecycle operations. A call that is not refused is made on a job
with which no other client is between its two calls, and the hash and the lease time
that it uses are sound. -/
def Uncrossed (config : HybridConfig ι) : Action ι HybridOp → Prop
  | .call _ op => ∃ jobId, op.jobId? = some jobId
  | .act client => ∀ op call resume log, config.client client = .busy op (.act call resume) log →
      backend.Sound config.shared call ∧
        (Refused config.shared call ∨ ∀ jobId, op.jobId? = some jobId →
          ∀ other, other ≠ client → ¬ Between config other jobId)
  | .ret _ => True

/-- Every operation starts before its first call. -/
def opening (_ : ι) (op : HybridOp) : Progress := .ready op

theorem summarize_ended (log : List (Sigma StoreCall.Reply)) :
    progress.summarize .ended log = .ended := by
  induction log with
  | nil => rfl
  | cons entry rest ih => exact ih

/-- After its first call an operation is halfway or has ended. -/
theorem summarize_cons {op : HybridOp} {call : StoreCall} {reply : call.Reply}
    {rest : List (Sigma StoreCall.Reply)} :
    progress.summarize (.ready op) (⟨call, reply⟩ :: rest) =
      if call.goesOn reply = true ∧ rest = [] then .half op else .ended := by
  have later : progress.summarize (.ready op) (⟨call, reply⟩ :: rest) =
      progress.summarize (if call.goesOn reply then .half op else .ended) rest := rfl
  rw [later]
  by_cases on : call.goesOn reply = true
  · rw [if_pos on]
    cases rest with
    | nil => rw [if_pos ⟨on, rfl⟩, Monitor.summarize_nil]
    | cons next others =>
        rw [if_neg (by simp)]
        exact summarize_ended others
  · rw [if_neg on, if_neg fun both => on both.1, summarize_ended]

/-- An operation before its first call has made none. -/
theorem op_of_ready {op started : HybridOp} {log : List (Sigma StoreCall.Reply)}
    (ready : progress.summarize (.ready op) log = .ready started) : started = op := by
  cases log with
  | nil =>
      cases ready
      rfl
  | cons entry rest =>
      rw [summarize_cons] at ready
      split at ready
      · cases ready
      · cases ready

/-- An operation that is halfway has made one call. -/
theorem log_of_half {op reached : HybridOp} {log : List (Sigma StoreCall.Reply)}
    (half : progress.summarize (.ready op) log = .half reached) :
    reached = op ∧ ∃ call reply, log = [⟨call, reply⟩] ∧ call.goesOn reply = true := by
  cases log with
  | nil => cases half
  | cons entry rest =>
      rw [summarize_cons] at half
      split at half
      · next both =>
          cases half
          rw [both.2]
          exact ⟨rfl, entry.1, entry.2, rfl, both.1⟩
      · cases half

/-- A client whose summary is halfway is between its two calls. -/
theorem between_of_halfOn {config : HybridConfig ι} {client : ι} {jobId : String}
    (halfOn : HalfOn (config.summary progress opening) client jobId) :
    Between config client jobId := by
  obtain ⟨called, op, shown, about⟩ := halfOn
  cases current : config.client client with
  | idle =>
      rw [Config.summary_of_idle current] at shown
      cases shown
  | busy running rest log =>
      rw [Config.summary_of_busy current, Option.some.injEq, Prod.mk.injEq] at shown
      obtain ⟨rfl, call, reply, rfl, on⟩ := log_of_half shown.2
      exact ⟨_, rest, call, reply, current, on, about⟩

variable [DecidableEq ι]

/-- Only a lifecycle operation has a first call. -/
theorem about_of_firstCall {op : HybridOp} {call : StoreCall} (first : op.firstCall = some call) :
    ∃ jobId, op.jobId? = some jobId := by
  cases op with
  | enqueue job sqlNow redisNow => exact ⟨job.jobId, rfl⟩
  | claim jobId hostId workerId redisNow sqlNow => exact ⟨jobId, rfl⟩
  | release jobId sqlNow redisNow => exact ⟨jobId, rfl⟩
  | updateStatus jobId status redisNow sqlNow => exact ⟨jobId, rfl⟩
  | _ => cases first

variable {backend} {config : HybridConfig ι} {client : ι} {op : HybridOp} {call : StoreCall}

/-- The first call of an operation. -/
theorem Converging.first
    (converging : Converging config.shared (config.summary progress opening))
    (shown : config.summary progress opening client = some (op, .ready op))
    (first : op.firstCall = some call) (sound : backend.Sound config.shared call)
    (free : Refused config.shared call ∨ ∀ jobId, op.jobId? = some jobId →
      ∀ other, other ≠ client → ¬ Between config other jobId) :
    Converging (backend.exec call config.shared).2
      (Function.update (config.summary progress opening) client
        (some (op, progress.update (.ready op) call (backend.exec call config.shared).1))) := by
  have idle : ∀ jobId, ¬ HalfOn (config.summary progress opening) client jobId := by
    intro jobId halfOn
    obtain ⟨called, other, halfway, _⟩ := halfOn
    cases shown.symm.trans halfway
  have next : ∀ reply, progress.update (.ready op) call reply =
      if call.goesOn reply then .half op else .ended := fun _ => rfl
  rw [next]
  rcases free with refused | free
  · obtain ⟨ended, kept⟩ := backend.refused_call refused
    rw [kept, ended]
    exact converging.unchanged idle fun called other same => by cases same
  · obtain ⟨jobId, about⟩ := about_of_firstCall first
    have others : ∀ other, other ≠ client →
        ¬ HalfOn (config.summary progress opening) other jobId :=
      fun other different halfOn => free jobId about other different (between_of_halfOn halfOn)
    have agree : config.shared.AgreeOn jobId := by
      apply converging.settled jobId
      intro other
      by_cases same : other = client
      · rw [same]
        exact idle jobId
      · exact others other same
    obtain ⟨moves, outcome⟩ := backend.first_call converging.objects about first agree sound
    apply converging.moved moves.objects moves.redis moves.sql
      (fun other halfOn => absurd halfOn (idle other)) others
    rcases outcome with ⟨on, half⟩ | ⟨off, after⟩
    · rw [on]
      exact .inl ⟨op, rfl, about, half⟩
    · rw [off]
      exact .inr ⟨fun other same => (by cases same), after⟩

/-- The second call of an operation. -/
theorem Converging.second
    (converging : Converging config.shared (config.summary progress opening))
    (shown : config.summary progress opening client = some (op, .half op))
    (second : op.secondCall = some call) (sound : backend.Sound config.shared call) :
    Converging (backend.exec call config.shared).2
      (Function.update (config.summary progress opening) client
        (some (op, progress.update (.half op) call (backend.exec call config.shared).1))) := by
  have half := converging.half client op op shown
  obtain ⟨jobId, about⟩ := half.about
  have ours : HalfOn (config.summary progress opening) client jobId := ⟨op, op, shown, about⟩
  obtain ⟨moves, after⟩ := backend.second_call converging.objects about second half sound
  apply converging.moved moves.objects moves.redis moves.sql
  · intro named halfOn
    obtain ⟨called, other, halfway, named⟩ := halfOn
    cases shown.symm.trans halfway
    exact Option.some.inj (named.symm.trans about)
  · intro other different halfOn
    exact different (converging.alone other client jobId halfOn ours)
  · exact .inr ⟨fun other same => (by cases same), after⟩

/-- The invariant along runs. -/
theorem converging_invariant :
    (machine ι backend).Invariant progress opening (fun _ _ stage _ => stage = .ended)
      backend.Uncrossed
      (fun stores summary _ => Converging stores summary) where
  accepts _ _ op lifecycle := by
    obtain ⟨jobId, about⟩ := lifecycle
    exact accepts_code about
  replies _ _ _ _ _ _ _ _ _ := trivial
  call config client op _ idle converging := by
    apply converging.unchanged
    · intro jobId halfOn
      obtain ⟨called, other, shown, _⟩ := halfOn
      rw [Config.summary_of_idle idle] at shown
      cases shown
    · intro called other same
      cases same
  act config client op command resume log clear busy allowed converging := by
    have shown := Config.summary_of_busy busy progress opening
    obtain ⟨sound, free⟩ := clear op command resume log busy
    cases stage : progress.summarize (opening client op) log with
    | ended =>
        rw [stage] at allowed
        cases allowed
    | ready started =>
        obtain rfl := op_of_ready stage
        rw [stage] at shown allowed
        exact converging.first shown allowed sound free
    | half started =>
        obtain ⟨rfl, _⟩ := log_of_half stage
        rw [stage] at shown allowed
        exact converging.second shown allowed sound
  ret config client op value log _ busy ended converging := by
    have shown := Config.summary_of_busy busy progress opening
    rw [ended] at shown
    apply converging.unchanged
    · intro jobId halfOn
      obtain ⟨called, other, halfway, _⟩ := halfOn
      cases shown.symm.trans halfway
    · intro called other same
      cases same

/-- **Convergence.** For any number of clients and any interleaving of their calls on
the two stores, from empty stores, in which no client's call that is not refused falls
between the two calls of another client's operation on the same job: whenever no
operation is in progress, every job has the same standing in Redis and in SQL. -/
theorem quiet_stores_agree (backend : HybridQueueBackend) (schedule : List (Action ι HybridOp))
    (uncrossed : (machine ι backend).Permits backend.Uncrossed (.initial .empty) schedule)
    (quiet : ((machine ι backend).runFrom (.initial .empty) schedule).Quiet) :
    ((machine ι backend).runFrom (.initial .empty) schedule).shared.Agree := by
  have initially : Converging HybridStores.empty
      (fun _ : ι => (none : Option (HybridOp × Progress))) := by
    refine ⟨?_, fun jobId _ => rfl, ?_, ?_⟩
    · intro jobId row stored
      cases stored
    · intro client called op shown
      cases shown
    · intro first second jobId halfOn
      obtain ⟨called, op, shown, _⟩ := halfOn
      cases shown
  have converging := converging_invariant.run .empty initially schedule uncrossed
  intro jobId
  apply converging.settled jobId
  intro client halfOn
  obtain ⟨called, op, shown, _⟩ := halfOn
  rw [Config.summary_of_idle (quiet client)] at shown
  cases shown

end Runs

section Sample

/-- Two clients submit different jobs, their calls crossing. -/
def submitBoth : List (Action Bool HybridOp) :=
  [.call true (.enqueue (RedisQueueBackend.plainJob "first" "report") 0 0), .act true,
    .call false (.enqueue (RedisQueueBackend.plainJob "second" "report") 0 0), .act false,
    .act true, .act false, .ret true, .ret false]

theorem parallel_submissions_agree :
    ((machine Bool plainHybrid).runFrom (.initial .empty) submitBoth).shared.Agree := by
  apply plainHybrid.quiet_stores_agree submitBoth
  · refine ⟨⟨_, rfl⟩, ?_, ⟨_, rfl⟩, ?_, ?_, ?_, trivial, trivial, trivial⟩
    all_goals
      intro op call resume log busy
      cases busy
      refine ⟨trivial, .inr ?_⟩
      intro jobId about other different between
      obtain ⟨running, rest, made, reply, current, _, same⟩ := between
    · cases other with
      | false => cases current
      | true => exact different rfl
    · cases other with
      | false => exact different rfl
      | true =>
          cases current
          exact absurd (Option.some.inj (same.trans about.symm)) (by decide)
    · cases other with
      | false =>
          cases current
          exact absurd (Option.some.inj (same.trans about.symm)) (by decide)
      | true => exact different rfl
    · cases other with
      | false => exact different rfl
      | true => cases current
  · intro client
    cases client with
    | false => exact Client.eq_idle (by decide +kernel)
    | true => exact Client.eq_idle (by decide +kernel)

/-- A job is submitted, then two clients end it, their calls crossing. -/
def endTwice : List (Action Bool HybridOp) :=
  [.call true (.enqueue (RedisQueueBackend.plainJob "first" "report") 0 0), .act true, .act true,
    .ret true,
    .call true (.updateStatus "first" JobStatus.succeeded.value 0 0), .act true,
    .call false (.updateStatus "first" JobStatus.cancelled.value 0 0), .act false, .act false,
    .ret false, .act true, .ret true]

/-- Redis keeps what the second client wrote, SQL what the first one wrote. -/
theorem crossing_updates_diverge :
    ((machine Bool plainHybrid).runFrom (.initial .empty) endTwice).Quiet ∧
    ((machine Bool plainHybrid).runFrom (.initial .empty) endTwice).shared.redis.status?
      "first" = some JobStatus.cancelled.value ∧
    ((machine Bool plainHybrid).runFrom (.initial .empty) endTwice).shared.sql.status?
      "first" = some JobStatus.succeeded.value := by
  refine ⟨fun client => ?_, ?_, ?_⟩
  · cases client with
    | false => exact Client.eq_idle (by decide +kernel)
    | true => exact Client.eq_idle (by decide +kernel)
  · decide +kernel
  · decide +kernel

end Sample

end HybridQueueBackend

end CloudDogJobs
