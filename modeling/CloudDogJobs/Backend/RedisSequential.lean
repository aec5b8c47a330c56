import CloudDogJobs.Backend.Redis

/-!
# The Redis backend run alone

What each method of the Redis backend does when no other client's command falls
between its own: one equation per method. A job that is read carries the
identifier and the status that its hash holds. What a method does to the lifecycle
of jobs is what it does to their standings: whether a job is there, and with which
status.
-/

namespace CloudDogJobs

open Foundation

/-- Whether Redis has a job, and with which status. -/
def RedisServer.standing (server : RedisServer) (jobId : String) : Option (Option String) :=
  (server.hashes.get? jobId).map fun hash => hash.get? "status"

namespace RedisServer

variable (server : RedisServer) (jobId : String)

theorem status?_eq_join : server.status? jobId = (server.standing jobId).join := by
  unfold status? field standing Dict.getD
  cases server.hashes.get? jobId with
  | none => rfl
  | some hash => rfl

theorem isSome_standing : (server.standing jobId).isSome = (server.hashes.get? jobId).isSome :=
  Option.isSome_map ..

/-- An `HSET` that names a status gives the job that standing. -/
theorem standing_hset {mapping : Dict String String} {status : String}
    (named : mapping.get? "status" = some status) :
    (server.hset jobId mapping).standing =
      Function.update server.standing jobId (some (some status)) := by
  funext other
  unfold standing hset
  simp only [Dict.get?_set]
  by_cases same : other = jobId
  · rw [if_pos same, same, Function.update_self, Option.map_some, Dict.get?_update, named]
    rfl
  · rw [if_neg same, Function.update_of_ne same]

/-- An `HSET` on a stored job that names no status leaves the standings alone. -/
theorem standing_hset_of_none (mapping : Dict String String)
    (unnamed : mapping.get? "status" = none) (stored : (server.hashes.get? jobId).isSome) :
    (server.hset jobId mapping).standing = server.standing := by
  obtain ⟨hash, present⟩ := Option.isSome_iff_exists.mp stored
  funext other
  unfold standing hset
  simp only [Dict.get?_set]
  by_cases same : other = jobId
  · rw [if_pos same, same, Option.map_some, Dict.get?_update, unnamed, present]
    simp only [Dict.getD, present]
    rfl
  · rw [if_neg same]

/-- A job with a status is stored. -/
theorem isSome_of_status? {server : RedisServer} {jobId status : String}
    (shown : server.status? jobId = some status) :
    (server.hashes.get? jobId).isSome := by
  rw [status?_eq_join] at shown
  rw [← isSome_standing]
  cases stands : server.standing jobId with
  | none =>
      rw [stands] at shown
      cases shown
  | some standing => rfl

theorem standing_heartbeatScript (nowText : String) (leaseTimeout : Int) :
    (server.heartbeatScript jobId nowText leaseTimeout).2.standing = server.standing := by
  unfold heartbeatScript
  by_cases running : server.status? jobId = some JobStatus.running.value
  · have stored : (server.hashes.get? jobId).isSome := isSome_of_status? running
    have beaten := server.standing_hset_of_none jobId
      (.ofList [("updated_at", nowText), ("last_heartbeat_at", nowText)]) rfl stored
    simp only [running, ne_eq, not_true_eq_false, ↓reduceIte]
    split
    · exact beaten
    · exact beaten
  · simp only [running, ne_eq, not_false_eq_true, ↓reduceIte]

end RedisServer

namespace RedisQueueBackend

variable (backend : RedisQueueBackend)

/-- A field that `data[key]` found is there. -/
theorem get?_of_required {data : Dict String String} {key text : String}
    (found : required data key = .ok text) : data.get? key = some text := by
  unfold required at found
  split at found
  · next stored => rw [stored, Except.ok.inj found]
  · cases found

/-- A decoded job carries the identifier and the status of its hash. -/
theorem fields_of_hashToJob {data : Dict String String} {job : Job}
    (decoded : backend.hashToJob data = .ok job) :
    data.get? "job_id" = some job.jobId ∧ data.get? "status" = some job.status.value := by
  unfold hashToJob at decoded
  obtain ⟨metadata, _, decoded⟩ := exists_of_bind_ok decoded
  obtain ⟨jobId, identified, decoded⟩ := exists_of_bind_ok decoded
  obtain ⟨jobType, _, decoded⟩ := exists_of_bind_ok decoded
  obtain ⟨queueName, _, decoded⟩ := exists_of_bind_ok decoded
  obtain ⟨payloadText, _, decoded⟩ := exists_of_bind_ok decoded
  obtain ⟨payload, _, decoded⟩ := exists_of_bind_ok decoded
  obtain ⟨statusText, stored, decoded⟩ := exists_of_bind_ok decoded
  obtain ⟨status, parsed, decoded⟩ := exists_of_bind_ok decoded
  have remaining : job.jobId = jobId ∧ job.status = status := by
    repeat
      obtain ⟨_, _, decoded⟩ := exists_of_bind_ok decoded
    rw [← Except.ok.inj decoded]
    exact ⟨rfl, rfl⟩
  rw [remaining.1, remaining.2, JobStatus.value_of_parse parsed]
  exact ⟨get?_of_required identified, get?_of_required stored⟩

/-- What `get` returns: nothing for a missing hash, otherwise the decoded job. -/
def read (server : RedisServer) (jobId : String) : Except PyError (Option Job) :=
  if (server.hashes.getD jobId ∅).isEmpty then .ok none
  else (backend.hashToJob (server.hashes.getD jobId ∅)).map some

variable (server : RedisServer) (jobId : String) (now : Int)

theorem run_get :
    (backend.get jobId).run RedisServer.exec server = (backend.read server jobId, server) := by
  unfold get read
  simp only [Prog.issue_bind, Prog.run_act, RedisServer.exec]
  by_cases absent : (server.hashes.getD jobId ∅).isEmpty = true
  · simp only [absent, ↓reduceIte]
    rfl
  · simp only [absent]
    rfl

/-- A job that is read is decoded from a hash that is there. -/
theorem decoded_of_read {backend : RedisQueueBackend} {server : RedisServer} {jobId : String}
    {job : Job} (found : backend.read server jobId = .ok (some job)) :
    (server.hashes.getD jobId ∅).isEmpty = false ∧
      backend.hashToJob (server.hashes.getD jobId ∅) = .ok job := by
  unfold read at found
  split at found
  · cases found
  · next filled =>
      refine ⟨Bool.eq_false_iff.mpr filled, ?_⟩
      cases decoded : backend.hashToJob (server.hashes.getD jobId ∅) with
      | error error =>
          rw [decoded] at found
          cases found
      | ok read =>
          rw [decoded] at found
          rw [Option.some.inj (Except.ok.inj found)]

/-- It is stored under its identifier with its status. -/
theorem fields_of_read {job : Job} (found : backend.read server jobId = .ok (some job)) :
    server.field jobId "job_id" = some job.jobId ∧
      server.status? jobId = some job.status.value :=
  backend.fields_of_hashToJob (decoded_of_read found).2

/-- A hash that reads as no job has no status. -/
theorem status?_of_read_none {backend : RedisQueueBackend} {server : RedisServer} {jobId : String}
    (missing : backend.read server jobId = .ok none) : server.status? jobId = none := by
  unfold read at missing
  split at missing
  · next empty =>
      have none : (server.hashes.getD jobId ∅).entries = [] := List.isEmpty_iff.mp empty
      simp [RedisServer.status?, RedisServer.field, Dict.get?, none]
  · cases decoded : backend.hashToJob (server.hashes.getD jobId ∅) with
    | error error =>
        rw [decoded] at missing
        cases missing
    | ok job =>
        rw [decoded] at missing
        cases missing

/-- The server after `release` has written. -/
def released (job : Job) : RedisServer :=
  ((server.hset jobId (.ofList
    [("status", JobStatus.queued.value), ("claimed_by", ""),
      ("updated_at", backend.codec.isoformat now)])).zadd jobId
        (score job.priority now)).deleteLease jobId

theorem run_release :
    (backend.release jobId now).run RedisServer.exec server =
      match backend.read server jobId with
      | .error error => (.error error, server)
      | .ok none => (.ok false, server)
      | .ok (some job) => (.ok true, backend.released server jobId now job) := by
  unfold release
  rw [Prog.run_bind, run_get]
  cases backend.read server jobId with
  | error error => rfl
  | ok found =>
      cases found with
      | none => rfl
      | some job => rfl

/-- What a sweep reports, when it has released a job and goes through the rest. -/
def reapedWith (jobId : String) (released : Bool) :
    Except PyError (List String) → Except PyError (List String)
  | .error error => .error error
  | .ok reaped => .ok (if released then jobId :: reaped else reaped)

theorem reapedWith_eq_ok {jobId : String} {released : Bool} {swept : Except PyError (List String)}
    {reaped : List String} (reported : reapedWith jobId released swept = .ok reaped) :
    ∃ list, swept = .ok list ∧ reaped = if released then jobId :: list else list := by
  cases swept with
  | error error => cases reported
  | ok list => exact ⟨list, rfl, (Except.ok.inj reported).symm⟩

/-- One key of a sweep: a job that is running without a lease is released before the rest
is swept, any other is passed over. -/
theorem run_reapExpiredLeases_cons (key : String) (rest : List String) :
    (backend.reapExpiredLeases now (key :: rest)).run RedisServer.exec server =
      if server.field key "status" = some JobStatus.running.value ∧
          (server.leases.get? (lastSegment key)).isSome = false then
        let (answer, next) := (backend.release (lastSegment key) now).run RedisServer.exec server
        match answer with
        | .error error => (.error error, next)
        | .ok released =>
            let (reaped, last) := (backend.reapExpiredLeases now rest).run RedisServer.exec next
            (reapedWith (lastSegment key) released reaped, last)
      else (backend.reapExpiredLeases now rest).run RedisServer.exec server := by
  rw [reapExpiredLeases]
  simp only [Prog.issue_bind, Prog.run_act, RedisServer.exec]
  by_cases running : server.field key "status" = some JobStatus.running.value
  · simp only [running, ne_eq, not_true_eq_false, ↓reduceIte, Prog.run_act, RedisServer.exec,
      true_and]
    by_cases leased : (server.leases.get? (lastSegment key)).isSome = true
    · simp only [leased, ↓reduceIte, Bool.true_eq_false]
    · simp only [leased, Bool.false_eq_true, ↓reduceIte]
      rw [Prog.run_bind]
      cases ((backend.release (lastSegment key) now).run RedisServer.exec server).1 with
      | error error => rfl
      | ok released =>
          dsimp only
          rw [Prog.run_bind]
          cases ((backend.reapExpiredLeases now rest).run RedisServer.exec
              ((backend.release (lastSegment key) now).run RedisServer.exec server).2).1 with
          | error error => rfl
          | ok reaped => rfl
  · simp only [running, ne_eq, not_false_eq_true, ↓reduceIte, false_and]

/-- The server after `update_status` has written. -/
def statusWritten (status : String) : RedisServer :=
  let written := server.hset jobId (backend.statusMapping status now)
  let removed := if status ≠ JobStatus.queued.value then written.zrem jobId else written
  if status ∈ terminal then removed.deleteLease jobId else removed

theorem run_updateStatus (status : String) :
    (backend.updateStatus jobId status now).run RedisServer.exec server =
      if (server.hashes.get? jobId).isSome then
        (.ok true, backend.statusWritten server jobId now status)
      else (.ok false, server) := by
  unfold updateStatus statusWritten
  simp only [Prog.issue_bind, Prog.run_act, RedisServer.exec]
  by_cases stored : (server.hashes.get? jobId).isSome = true
  · simp only [stored, ↓reduceIte]
    by_cases queued : status = JobStatus.queued.value
    · have lasting : JobStatus.queued.value ∉ terminal := by decide
      subst queued
      simp only [ne_eq, not_true_eq_false, ↓reduceIte, lasting]
      rfl
    · simp only [queued, ne_eq, not_false_eq_true, ↓reduceIte]
      by_cases ends : status ∈ terminal
      · simp only [ends, ↓reduceIte]
        rfl
      · simp only [ends, ↓reduceIte]
        rfl
  · simp only [stored]
    rfl

/-- The metadata that `claim` found, as the text it decodes. -/
def claimText : String :=
  match server.field jobId "meta" with
  | some text => if text = "" then "\x7b\x7d" else text
  | none => "\x7b\x7d"

/-- The metadata that `claim` writes. -/
def claimedMeta (hostId workerId : String) (metadata : Dict String Value) : String :=
  backend.codec.dumps
    (.ofDict ((metadata.set "host_id" (.str hostId)).set "worker_id" (.str workerId)))

/-- A script error counts as a refusal. -/
def grantedBy : Except PyError Bool → Bool
  | .ok granted => granted
  | .error _ => false

theorem run_claim_of_error (hostId workerId : String) {error : PyError}
    (refused : backend.loadsDict (claimText server jobId) = .error error) :
    (backend.claim jobId hostId workerId now).run RedisServer.exec server =
      (.error error, server) := by
  unfold claimText at refused
  unfold claim
  rw [Prog.issue_bind, Prog.run_act]
  simp only [RedisServer.exec]
  rcases raw : server.field jobId "meta" with _ | text
  all_goals
    rw [raw] at refused
    simp only [] at refused ⊢
    rw [refused]
    rfl

theorem run_claim (hostId workerId : String) {metadata : Dict String Value}
    (loaded : backend.loadsDict (claimText server jobId) = .ok metadata) :
    (backend.claim jobId hostId workerId now).run RedisServer.exec server =
      (.ok (grantedBy (server.claimScript jobId (hostId ++ ":" ++ workerId)
          (backend.claimedMeta hostId workerId metadata) (backend.codec.isoformat now)
          backend.leaseTimeout).1),
        (server.claimScript jobId (hostId ++ ":" ++ workerId)
          (backend.claimedMeta hostId workerId metadata) (backend.codec.isoformat now)
          backend.leaseTimeout).2) := by
  unfold claimText at loaded
  unfold claim claimedMeta
  rw [Prog.issue_bind, Prog.run_act]
  simp only [RedisServer.exec]
  rcases raw : server.field jobId "meta" with _ | text
  all_goals
    rw [raw] at loaded
    simp only [] at loaded ⊢
    rw [loaded]
    simp only [Prog.issue_bind, Prog.run_act, RedisServer.exec]
    split
    · next granted reply =>
        rw [reply]
        rfl
    · next error reply =>
        rw [reply]
        rfl

/-- What a claim can do: nothing, when the metadata does not decode or the job is not
queued; otherwise the job runs, and the claim is granted unless the lease time makes
the script fail. -/
theorem claim_cases (hostId workerId : String) :
    (∃ error, (backend.claim jobId hostId workerId now).run RedisServer.exec server =
      (.error error, server)) ∨
    (server.status? jobId ≠ some JobStatus.queued.value ∧
      (backend.claim jobId hostId workerId now).run RedisServer.exec server =
        (.ok false, server)) ∨
    (server.status? jobId = some JobStatus.queued.value ∧
      ((backend.claim jobId hostId workerId now).run RedisServer.exec server).1 =
        .ok (decide (0 < backend.leaseTimeout)) ∧
      ((backend.claim jobId hostId workerId now).run RedisServer.exec server).2.standing =
        Function.update server.standing jobId (some (some JobStatus.running.value))) := by
  cases loaded : backend.loadsDict (claimText server jobId) with
  | error error => exact .inl ⟨error, backend.run_claim_of_error server jobId now _ _ loaded⟩
  | ok metadata =>
      have ran := backend.run_claim server jobId now hostId workerId loaded
      by_cases waiting : server.status? jobId = some JobStatus.queued.value
      · refine .inr (.inr ⟨waiting, ?_⟩)
        rw [ran]
        unfold RedisServer.claimScript
        simp only [waiting, ne_eq, not_true_eq_false, ↓reduceIte]
        have moved := fun mapping (named : Dict.get? mapping "status" =
          some JobStatus.running.value) => server.standing_hset jobId named
        by_cases refused : backend.leaseTimeout ≤ 0
        · simp only [refused, ↓reduceIte]
          refine ⟨?_, moved _ rfl⟩
          rw [decide_eq_false (by omega)]
          rfl
        · simp only [refused, ↓reduceIte]
          refine ⟨?_, moved _ rfl⟩
          rw [decide_eq_true (by omega)]
          rfl
      · refine .inr (.inl ⟨waiting, ?_⟩)
        rw [ran]
        unfold RedisServer.claimScript
        simp only [waiting, ne_eq, not_false_eq_true, ↓reduceIte]
        rfl

theorem standing_enqueue (job : Job) :
    ((backend.enqueue job now).run RedisServer.exec server).2.standing =
      Function.update server.standing job.jobId (some (some job.status.value)) := by
  have named : (backend.jobToHash job).get? "status" = some job.status.value := rfl
  exact server.standing_hset job.jobId named

theorem standing_released (job : Job) :
    (backend.released server jobId now job).standing =
      Function.update server.standing jobId (some (some JobStatus.queued.value)) := by
  have moved := fun mapping (named : Dict.get? mapping "status" =
    some JobStatus.queued.value) => server.standing_hset jobId named
  exact moved _ rfl

theorem standing_statusWritten (status : String) :
    (backend.statusWritten server jobId now status).standing =
      Function.update server.standing jobId (some (some status)) := by
  have moved := server.standing_hset jobId (backend.statusMapping_status status now)
  unfold statusWritten
  by_cases queued : status = JobStatus.queued.value
  · simp only [queued, ne_eq, not_true_eq_false, ↓reduceIte] at moved ⊢
    split
    · exact moved
    · exact moved
  · simp only [queued, ne_eq, not_false_eq_true, ↓reduceIte]
    split
    · exact moved
    · exact moved

/-- What a release can do: nothing, when the hash does not decode or is missing;
otherwise the job is queued. -/
theorem release_cases :
    (∃ error, backend.read server jobId = .error error ∧
      (backend.release jobId now).run RedisServer.exec server = (.error error, server)) ∨
    (backend.read server jobId = .ok none ∧
      (backend.release jobId now).run RedisServer.exec server = (.ok false, server)) ∨
    (∃ job, backend.read server jobId = .ok (some job) ∧
      ((backend.release jobId now).run RedisServer.exec server).1 = .ok true ∧
      ((backend.release jobId now).run RedisServer.exec server).2.standing =
        Function.update server.standing jobId (some (some JobStatus.queued.value))) := by
  have ran := backend.run_release server jobId now
  cases found : backend.read server jobId with
  | error error =>
      rw [found] at ran
      exact .inl ⟨error, rfl, ran⟩
  | ok found? =>
      rw [found] at ran
      cases found? with
      | none => exact .inr (.inl ⟨rfl, ran⟩)
      | some job =>
          refine .inr (.inr ⟨job, rfl, congrArg Prod.fst ran, ?_⟩)
          rw [ran]
          exact backend.standing_released server jobId now job

/-- What `update_status` does: a stored job has the status, otherwise nothing
happens. -/
theorem updateStatus_cases (status : String) :
    (server.standing jobId = none ∧
      (backend.updateStatus jobId status now).run RedisServer.exec server =
        (.ok false, server)) ∨
    ((server.standing jobId).isSome ∧
      ((backend.updateStatus jobId status now).run RedisServer.exec server).1 = .ok true ∧
      ((backend.updateStatus jobId status now).run RedisServer.exec server).2.standing =
        Function.update server.standing jobId (some (some status))) := by
  rw [backend.run_updateStatus, ← server.isSome_standing]
  cases shown : server.standing jobId with
  | none => exact .inl ⟨rfl, rfl⟩
  | some standing =>
      exact .inr ⟨rfl, rfl, backend.standing_statusWritten server jobId now status⟩

end RedisQueueBackend

end CloudDogJobs
