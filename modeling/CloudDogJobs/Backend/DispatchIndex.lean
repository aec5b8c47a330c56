import CloudDogJobs.Backend.RedisSequential
import CloudDogJobs.Foundation.Sequence

/-!
# The dispatch index of the Redis backend

The status of a job in its hash and its membership of the sorted set are two
copies of one fact. Every operation writes both, except `update_status` to
`queued`: it sets the hash and adds nothing to the sorted set. The copies agree
throughout a run exactly when every such update is on a job that is queued
already, or not stored at all.
-/

namespace CloudDogJobs

open Foundation

/-- The sorted set holds exactly the queued jobs. -/
def RedisServer.IndexExact (server : RedisServer) : Prop :=
  ∀ jobId, jobId ∈ server.queue.keys ↔ server.status? jobId = some JobStatus.queued.value

namespace RedisServer

/-- Two servers with the same statuses and the same sorted set. -/
structure SameIndex (first second : RedisServer) : Prop where
  status : ∀ jobId, first.status? jobId = second.status? jobId
  queue : first.queue = second.queue

theorem SameIndex.exact_iff {first second : RedisServer} (same : first.SameIndex second) :
    first.IndexExact ↔ second.IndexExact := by
  unfold IndexExact
  rw [same.queue]
  exact forall_congr' fun jobId => by rw [same.status]

/-- Writing `queued` and adding the member keeps the index. -/
theorem IndexExact.enter {server : RedisServer} (exact : server.IndexExact) (jobId : String)
    {mapping : Dict String String} (queued : mapping.get? "status" = some JobStatus.queued.value)
    (score : Int) : ((server.hset jobId mapping).zadd jobId score).IndexExact := by
  intro other
  rw [status?_zadd, status?_hset, queued, Option.some_or, Dict.mem_keys_iff]
  show ((server.queue.set jobId score).get? other).isSome ↔ _
  rw [Dict.get?_set]
  by_cases same : other = jobId
  · simp only [same, ↓reduceIte, Option.isSome_some]
  · rw [if_neg same, if_neg same, ← Dict.mem_keys_iff]
    exact exact other

/-- Writing any other status and removing the member keeps the index. -/
theorem IndexExact.leave {server : RedisServer} (exact : server.IndexExact) (jobId : String)
    {mapping : Dict String String} {status : String} (named : mapping.get? "status" = some status)
    (different : status ≠ JobStatus.queued.value) :
    ((server.hset jobId mapping).zrem jobId).IndexExact := by
  intro other
  rw [status?_zrem, status?_hset, named, Option.some_or, Dict.mem_keys_iff]
  show ((server.queue.erase jobId).get? other).isSome ↔ _
  rw [Dict.get?_erase]
  by_cases same : other = jobId
  · rw [if_pos same, if_pos same]
    constructor
    · intro found
      cases found
    · intro equal
      exact absurd (Option.some.inj equal) different
  · rw [if_neg same, if_neg same, ← Dict.mem_keys_iff]
    exact exact other

/-- Writing `queued` alone keeps the index when the job was queued already. -/
theorem indexExact_hset_queued {server : RedisServer} (exact : server.IndexExact) (jobId : String)
    {mapping : Dict String String} (queued : mapping.get? "status" = some JobStatus.queued.value) :
    (server.hset jobId mapping).IndexExact ↔
      server.status? jobId = some JobStatus.queued.value := by
  constructor
  · intro after
    have entered := (after jobId).mpr (by rw [status?_hset, if_pos rfl, queued, Option.some_or])
    exact (exact jobId).mp entered
  · intro before other
    rw [status?_hset, queued, Option.some_or]
    by_cases same : other = jobId
    · rw [if_pos same, same]
      exact iff_of_true ((exact jobId).mpr before) rfl
    · rw [if_neg same]
      exact exact other

end RedisServer

/-- Commands that leave the statuses and the sorted set alone. -/
def RedisCall.Unindexed : RedisCall → Prop
  | .hset _ mapping => mapping.get? "status" = none
  | .attemptPipeline _ updates => updates.get? "status" = none
  | .zadd _ _ => False
  | .zrem _ => False
  | .claimScript _ _ _ _ _ => False
  | _ => True

theorem RedisCall.Unindexed.sameIndex {call : RedisCall} (unindexed : call.Unindexed)
    (server : RedisServer) : server.SameIndex (RedisServer.exec call server).2 := by
  cases call with
  | hset jobId mapping =>
      exact ⟨fun other => (server.status?_hset_of_none jobId other unindexed).symm, rfl⟩
  | attemptPipeline jobId updates =>
      refine ⟨fun other => ?_, ?_⟩
      · have written := server.status?_attemptPipeline jobId other updates
        exact (written.trans (server.status?_hset_of_none jobId other unindexed)).symm
      · show server.queue = (server.attemptPipeline jobId updates).2.queue
        unfold RedisServer.attemptPipeline
        split <;> rfl
  | heartbeatScript jobId nowText leaseTimeout =>
      refine ⟨fun other => ?_, ?_⟩
      · exact (server.status?_heartbeatScript jobId other nowText leaseTimeout).symm
      · show server.queue = (server.heartbeatScript jobId nowText leaseTimeout).2.queue
        unfold RedisServer.heartbeatScript
        split
        · rfl
        · simp only []
          split <;> rfl
  | zadd jobId score => cases unindexed
  | zrem jobId => cases unindexed
  | claimScript jobId claimedBy metaText nowText leaseTimeout => cases unindexed
  | _ => exact ⟨fun _ => rfl, rfl⟩

/-- A program of such commands keeps the index as it is. -/
theorem sameIndex_of_only {α : Type} {program : RedisProg α}
    (only : program.Only RedisCall.Unindexed) (server : RedisServer) :
    server.SameIndex (program.run RedisServer.exec server).2 := by
  have start : server.SameIndex server := ⟨fun _ => rfl, rfl⟩
  refine only.run RedisServer.exec ?_ start
  intro call reached unindexed same
  have moved := unindexed.sameIndex reached
  exact ⟨fun jobId => (same.status jobId).trans (moved.status jobId),
    same.queue.trans moved.queue⟩

namespace RedisQueueBackend

variable (backend : RedisQueueBackend)

theorem only_get (jobId : String) : (backend.get jobId).Only RedisCall.Unindexed := by
  refine ⟨trivial, fun data => ?_⟩
  show (if data.isEmpty then _ else _ : RedisProg _).Only _
  split <;> trivial

theorem only_collect (limit : Int) (jobType queueName : Option String) (jobIds : List String)
    (jobs : List Job) :
    (backend.collect limit jobType queueName jobIds jobs).Only RedisCall.Unindexed := by
  induction jobIds generalizing jobs with
  | nil => trivial
  | cons jobId rest ih =>
      unfold collect
      split
      · trivial
      · apply (backend.only_get jobId).bind
        intro found
        split
        · trivial
        · exact ih _
        · split
          · exact ih _
          · exact ih _

theorem only_recordAttempt (jobId : String) (error : Option String) (now : Int) :
    (backend.recordAttempt jobId error now).Only RedisCall.Unindexed := by
  refine ⟨trivial, fun found => ?_⟩
  cases found with
  | false => trivial
  | true =>
      refine ⟨?_, fun reply => ?_⟩
      · cases error <;> rfl
      · cases reply <;> trivial

/-- A queued job enters both copies. -/
theorem enqueue_keeps_index {job : Job} (queued : job.status = .queued) (now : Int)
    {server : RedisServer} (exact : server.IndexExact) :
    ((backend.enqueue job now).run RedisServer.exec server).2.IndexExact := by
  have named : (backend.jobToHash job).get? "status" = some JobStatus.queued.value := by
    rw [← queued]
    rfl
  exact exact.enter job.jobId named (score job.priority now)

theorem release_keeps_index (jobId : String) (now : Int) {server : RedisServer}
    (exact : server.IndexExact) :
    ((backend.release jobId now).run RedisServer.exec server).2.IndexExact := by
  rw [run_release]
  split
  · exact exact
  · exact exact
  · next job _ => exact exact.enter jobId rfl (score job.priority now)

theorem reap_keeps_index (now : Int) (scanned : List String) {server : RedisServer}
    (exact : server.IndexExact) :
    ((backend.reapExpiredLeases now scanned).run RedisServer.exec server).2.IndexExact := by
  induction scanned generalizing server with
  | nil => exact exact
  | cons key rest ih =>
      rw [run_reapExpiredLeases_cons]
      split
      · have released := backend.release_keeps_index (lastSegment key) now exact
        dsimp only
        split
        · exact released
        · exact ih released
      · exact ih exact

theorem claim_keeps_index (jobId hostId workerId : String) (now : Int) {server : RedisServer}
    (exact : server.IndexExact) :
    ((backend.claim jobId hostId workerId now).run RedisServer.exec server).2.IndexExact := by
  have scripted : ∀ claimedBy metaText nowText leaseTimeout,
      (server.claimScript jobId claimedBy metaText nowText leaseTimeout).2.IndexExact := by
    intro claimedBy metaText nowText leaseTimeout
    unfold RedisServer.claimScript
    split
    · exact exact
    · have left := fun mapping (named : Dict.get? mapping "status" =
          some JobStatus.running.value) => exact.leave jobId named (by decide)
      simp only []
      split
      · exact left _ rfl
      · exact left _ rfl
  unfold claim
  simp only [Prog.issue_bind, Prog.run_act, RedisServer.exec]
  split
  · exact exact
  · simp only [Prog.run_act, RedisServer.exec]
    split
    · exact scripted _ _ _ _
    · exact scripted _ _ _ _

/-- `update_status` keeps the index, unless it writes `queued` to a stored job that
was not queued. -/
theorem updateStatus_keeps_index_iff (jobId status : String) (now : Int) {server : RedisServer}
    (exact : server.IndexExact) :
    ((backend.updateStatus jobId status now).run RedisServer.exec server).2.IndexExact ↔
      (status = JobStatus.queued.value → server.hashes.get? jobId = none ∨
        server.status? jobId = some JobStatus.queued.value) := by
  unfold updateStatus
  simp only [Prog.issue_bind, Prog.run_act, RedisServer.exec]
  by_cases stored : (server.hashes.get? jobId).isSome = true
  · have named := backend.statusMapping_status status now
    have present : server.hashes.get? jobId ≠ none := Option.isSome_iff_ne_none.mp stored
    simp only [stored, ↓reduceIte, present, false_or]
    by_cases queued : status = JobStatus.queued.value
    · have lasting : JobStatus.queued.value ∉ terminal := by decide
      subst queued
      simp only [ne_eq, not_true_eq_false, ↓reduceIte, lasting, forall_const]
      exact RedisServer.indexExact_hset_queued exact jobId named
    · have left := exact.leave jobId named queued
      simp only [queued, ne_eq, not_false_eq_true, ↓reduceIte, false_implies, iff_true]
      by_cases ends : status ∈ terminal
      · simp only [ends, ↓reduceIte]
        exact left
      · simp only [ends, ↓reduceIte]
        exact left
  · simp only [stored]
    exact iff_of_true exact fun _ => .inl (by simpa using stored)

/-- The effect of one operation on its own. -/
def apply (server : RedisServer) (op : Op) : RedisServer :=
  ((backend.code op).run RedisServer.exec server).2

/-- An enqueued job is queued. -/
def Op.Admissible (op : Op) : Prop :=
  ∀ job now, op = .call (.enqueue job now) → job.status = .queued

/-- A status is set to `queued` only for a job that has it, or that is not stored. -/
def KeepsIndex (server : RedisServer) (op : Op) : Prop :=
  ∀ jobId now, op = .call (.updateStatus jobId JobStatus.queued.value now) →
    server.hashes.get? jobId = none ∨ server.status? jobId = some JobStatus.queued.value

/-- One operation keeps the index exactly when it is no such update. -/
theorem apply_keeps_index_iff (server : RedisServer) (op : Op) (admissible : op.Admissible)
    (exact : server.IndexExact) :
    (backend.apply server op).IndexExact ↔ KeepsIndex server op := by
  have vacuous : (∀ jobId now, op ≠ .call (.updateStatus jobId JobStatus.queued.value now)) →
      KeepsIndex server op :=
    fun other jobId now same => absurd same (other jobId now)
  have framed : ∀ {α : Type} {program : RedisProg α}, program.Only RedisCall.Unindexed →
      (program.run RedisServer.exec server).2.IndexExact :=
    fun only => (sameIndex_of_only only server).exact_iff.mp exact
  cases op with
  | reap scanned now =>
      refine iff_of_true ?_ (vacuous fun _ _ same => by cases same)
      simp only [apply, code, Prog.run_map]
      exact backend.reap_keeps_index now scanned exact
  | lapse jobId =>
      exact iff_of_true exact (vacuous fun _ _ same => by cases same)
  | call op =>
      cases op with
      | enqueue job now =>
          refine iff_of_true ?_ (vacuous fun _ _ same => by cases same)
          simp only [apply, code, Prog.run_map]
          exact backend.enqueue_keeps_index (admissible job now rfl) now exact
      | dequeue limit jobType queueName =>
          refine iff_of_true ?_ (vacuous fun _ _ same => by cases same)
          simp only [apply, code, Prog.run_map]
          exact framed ⟨trivial, fun jobIds =>
            backend.only_collect limit jobType queueName jobIds []⟩
      | claim jobId hostId workerId now =>
          refine iff_of_true ?_ (vacuous fun _ _ same => by cases same)
          simp only [apply, code, Prog.run_map]
          exact backend.claim_keeps_index jobId hostId workerId now exact
      | release jobId now =>
          refine iff_of_true ?_ (vacuous fun _ _ same => by cases same)
          simp only [apply, code, Prog.run_map]
          exact backend.release_keeps_index jobId now exact
      | heartbeat jobId now =>
          refine iff_of_true ?_ (vacuous fun _ _ same => by cases same)
          simp only [apply, code, Prog.run_map]
          exact framed ⟨trivial, fun _ => trivial⟩
      | recordAttempt jobId error now =>
          refine iff_of_true ?_ (vacuous fun _ _ same => by cases same)
          simp only [apply, code, Prog.run_map]
          exact framed (backend.only_recordAttempt jobId error now)
      | updateStatus jobId status now =>
          simp only [apply, code, Prog.run_map]
          rw [backend.updateStatus_keeps_index_iff jobId status now exact]
          constructor
          · intro condition other time same
            cases same
            exact condition rfl
          · rintro condition rfl
            exact condition jobId now rfl

/-- **The dispatch index.** Over a run of operations on an empty server, in which
enqueued jobs are queued, the members of the sorted set are the queued jobs after
every operation if and only if no operation sets a stored job back to `queued`
through `update_status`. -/
theorem dispatch_index_exact_iff (ops : List Op) (admissible : ∀ op ∈ ops, op.Admissible) :
    Throughout backend.apply RedisServer.IndexExact .empty ops ↔
      Guarded backend.apply KeepsIndex .empty ops := by
  apply throughout_iff_guarded backend.apply_keeps_index_iff
  · intro jobId
    exact iff_of_false (fun member => by cases member) (fun found => by cases found)
  · exact admissible

section Sample

/-- A job enqueued at time zero. -/
def indexedJob (jobId : String) : Job := .fromRequest { jobType := "task" } jobId 0

/-- A backend whose codec reads back what it writes for such a job at time zero. -/
def indexedBackend : RedisQueueBackend where
  codec :=
    { dumps := Value.dumps
      loads := fun text =>
        let metadata := Value.ofDict (indexedJob "first").toMetaDict
        if text = metadata.dumps then .ok metadata
        else .error (.valueError "Expecting value: line 1 column 1 (char 0)")
      isoformat := fun _ => "1970-01-01T00:00:00+00:00"
      fromisoformat := fun _ => .ok 0 }

/-- A job runs to its end and another one is cancelled. -/
def servedAndCancelled : List Op :=
  [.call (.enqueue (indexedJob "first") 0), .call (.enqueue (indexedJob "second") 0),
    .call (.claim "first" "host" "worker" 0),
    .call (.updateStatus "first" JobStatus.succeeded.value 0),
    .call (.updateStatus "second" JobStatus.cancelled.value 0)]

theorem served_and_cancelled_keep_index :
    Throughout indexedBackend.apply RedisServer.IndexExact .empty servedAndCancelled := by
  refine (indexedBackend.dispatch_index_exact_iff servedAndCancelled ?_).mpr ?_
  · intro op member job now same
    subst same
    simp only [servedAndCancelled, List.mem_cons, Op.call.injEq, BackendOp.enqueue.injEq,
      List.not_mem_nil, or_false, reduceCtorEq] at member
    rcases member with ⟨rfl, _⟩ | ⟨rfl, _⟩
    · rfl
    · rfl
  · refine ⟨?_, ?_, ?_, ?_, ?_, trivial⟩
    all_goals
      intro jobId now same
      simp at same

/-- A cancelled job is retried through `update_status`, as the administration
service does it. -/
def cancelledAndRetried : List Op :=
  [.call (.enqueue (indexedJob "first") 0),
    .call (.updateStatus "first" JobStatus.cancelled.value 0),
    .call (.updateStatus "first" JobStatus.queued.value 0)]

theorem retried_job_leaves_index :
    (∀ op ∈ cancelledAndRetried, op.Admissible) ∧
      ¬ Throughout indexedBackend.apply RedisServer.IndexExact .empty cancelledAndRetried := by
  constructor
  · intro op member job now same
    subst same
    simp only [cancelledAndRetried, List.mem_cons, Op.call.injEq, BackendOp.enqueue.injEq,
      List.not_mem_nil, or_false, reduceCtorEq] at member
    rw [member.1]
    rfl
  · rintro ⟨_, _, _, last⟩
    have member := (last "first").mpr rfl
    revert member
    decide

end Sample

end RedisQueueBackend

end CloudDogJobs
