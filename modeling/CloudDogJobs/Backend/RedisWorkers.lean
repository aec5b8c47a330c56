import CloudDogJobs.Backend.LeaseOperations
import CloudDogJobs.Worker.Restriction

/-!
# Workers on the Redis backend

`_hash_to_job` raises on a hash with a field that does not decode. On a server without
such hashes, with a codec that reads back what it writes and a lease time that is
positive, every call of a worker returns and leaves a server without such hashes, so the
worker meets a lawful backend.
-/

namespace CloudDogJobs

open Foundation

namespace RedisQueueBackend

/-- The codec reads back what it writes, the units of resources as they were, and a lease
lasts for a time. -/
structure Reliable (backend : RedisQueueBackend) : Prop where
  values : ∀ value, Rereads backend.codec value
  times : ∀ time, ReadsTime backend.codec time
  resources : ∀ resources, Reads backend.codec (.ofIntDict resources)
  blank : Accepts backend.loadsDict "\x7b\x7d"
  leaseTimeout : 0 < backend.leaseTimeout

theorem Reliable.rereads {backend : RedisQueueBackend} (reliable : backend.Reliable) (job : Job) :
    RereadsJob backend.codec job where
  payload := reliable.values _
  metadata := reliable.values _
  resources := reliable.values _
  dependsOn := reliable.values _
  lastError _ _ := reliable.values _
  progress _ _ := reliable.values _
  createdAt := reliable.times _
  updatedAt := reliable.times _
  startedAt _ _ := reliable.times _
  finishedAt _ _ := reliable.times _
  lastHeartbeatAt _ _ := reliable.times _

variable (backend : RedisQueueBackend)

/-- What the scheduling layers read of a hash. -/
def ticketOf (data : Dict String String) : Except PyError Ticket := do
  return {
    status := ← JobStatus.parse (← required data "status")
    jobType := ← required data "job_type"
    resources := (← backend.codec.loads (orElse data "resources" "\x7b\x7d")).toIntDict
    dependsOn := (← backend.codec.loads (orElse data "depends_on" "[]")).toStrList }

/-- A hash that decodes gives a job with its ticket. -/
theorem ticketOf_of_hashToJob {data : Dict String String} {job : Job}
    (decoded : backend.hashToJob data = .ok job) : backend.ticketOf data = .ok job.ticket := by
  unfold hashToJob at decoded
  obtain ⟨metadata, _, decoded⟩ := exists_of_bind_ok decoded
  obtain ⟨jobId, _, decoded⟩ := exists_of_bind_ok decoded
  obtain ⟨jobType, typed, decoded⟩ := exists_of_bind_ok decoded
  obtain ⟨queueName, _, decoded⟩ := exists_of_bind_ok decoded
  obtain ⟨payloadText, _, decoded⟩ := exists_of_bind_ok decoded
  obtain ⟨payload, _, decoded⟩ := exists_of_bind_ok decoded
  obtain ⟨statusText, stated, decoded⟩ := exists_of_bind_ok decoded
  obtain ⟨status, parsed, decoded⟩ := exists_of_bind_ok decoded
  obtain ⟨priorityText, _, decoded⟩ := exists_of_bind_ok decoded
  obtain ⟨priority, _, decoded⟩ := exists_of_bind_ok decoded
  obtain ⟨createdText, _, decoded⟩ := exists_of_bind_ok decoded
  obtain ⟨createdAt, _, decoded⟩ := exists_of_bind_ok decoded
  obtain ⟨updatedText, _, decoded⟩ := exists_of_bind_ok decoded
  obtain ⟨updatedAt, _, decoded⟩ := exists_of_bind_ok decoded
  obtain ⟨resources, needs, decoded⟩ := exists_of_bind_ok decoded
  obtain ⟨dependsOn, waits, decoded⟩ := exists_of_bind_ok decoded
  have remaining : job.ticket =
      ⟨status, jobType, resources.toIntDict, dependsOn.toStrList⟩ := by
    repeat
      obtain ⟨_, _, decoded⟩ := exists_of_bind_ok decoded
    rw [← Except.ok.inj decoded]
    rfl
  unfold ticketOf
  simp only [stated, parsed, typed, needs, waits, ok_bind, remaining]
  rfl

/-- The tickets of the hashes. -/
def view (server : RedisServer) (jobId : String) : Option Ticket :=
  (server.hashes.get? jobId).bind fun data => (backend.ticketOf data).toOption

/-- Every hash decodes, to a job with the identifier of its key. -/
def Readable (server : RedisServer) : Prop :=
  ∀ jobId data, server.hashes.get? jobId = some data →
    backend.Legible data ∧ data.get? "job_id" = some jobId

section Reading

variable {backend} {server : RedisServer} {jobId : String} {data : Dict String String}

theorem view_of_get? {ticket : Ticket} (stored : server.hashes.get? jobId = some data)
    (shown : backend.ticketOf data = .ok ticket) : backend.view server jobId = some ticket := by
  rw [view, stored, Option.bind_some, shown]
  rfl

theorem view_of_absent (absent : server.hashes.get? jobId = none) :
    backend.view server jobId = none := by
  rw [view, absent]
  rfl

theorem Legible.ticketOf (legible : backend.Legible data) :
    ∃ ticket, backend.ticketOf data = .ok ticket := by
  obtain ⟨job, decoded⟩ := legible.hashToJob
  exact ⟨job.ticket, backend.ticketOf_of_hashToJob decoded⟩

/-- On a readable server a stored job has a ticket. -/
theorem Readable.isSome_view (readable : backend.Readable server) (jobId : String) :
    (backend.view server jobId).isSome = (server.hashes.get? jobId).isSome := by
  cases stored : server.hashes.get? jobId with
  | none =>
      rw [view_of_absent stored]
      rfl
  | some data =>
      obtain ⟨ticket, shown⟩ := (readable jobId data stored).1.ticketOf
      rw [view_of_get? stored shown]
      rfl

/-- What is read under an identifier is the job that the server shows there. -/
theorem Readable.read (readable : backend.Readable server) (jobId : String) :
    ∃ found, backend.read server jobId = .ok found ∧
      found.map Job.ticket = backend.view server jobId ∧ ∀ job ∈ found, job.jobId = jobId := by
  unfold RedisQueueBackend.read Dict.getD
  cases stored : server.hashes.get? jobId with
  | none =>
      rw [view_of_absent stored]
      exact ⟨none, rfl, rfl, by simp⟩
  | some data =>
      obtain ⟨legible, identified⟩ := readable jobId data stored
      obtain ⟨job, decoded⟩ := legible.hashToJob
      rw [view_of_get? stored (backend.ticketOf_of_hashToJob decoded)]
      refine ⟨some job, ?_, rfl, ?_⟩
      · rw [Option.getD_some, legible.but.filled, decoded]
        rfl
      · intro same held
        obtain rfl := Option.some.inj held
        exact Option.some.inj ((backend.fields_of_hashToJob decoded).1.symm.trans identified)

/-- The loop of `dequeue` returns jobs that wait, as the server shows them, and no more of
them than the limit. -/
theorem Readable.collect (readable : backend.Readable server) (limit : Int)
    (jobType queueName : Option String) (jobIds : List String) (jobs : List Job)
    (waiting : ∀ job ∈ jobs,
      job.status = .queued ∧ backend.view server job.jobId = some job.ticket) :
    ∃ listed, ((backend.collect limit jobType queueName jobIds jobs).run
        RedisServer.exec server).1 = .ok listed ∧
      (∀ job ∈ listed,
        job.status = .queued ∧ backend.view server job.jobId = some job.ticket) ∧
      (jobs.length ≤ limit → listed.length ≤ limit) := by
  induction jobIds generalizing jobs with
  | nil => exact ⟨jobs, rfl, waiting, id⟩
  | cons jobId rest ih =>
      rw [RedisQueueBackend.collect]
      by_cases full : limit ≤ jobs.length
      · rw [if_pos full]
        exact ⟨jobs, rfl, waiting, id⟩
      · rw [if_neg full, Prog.run_bind, run_get]
        obtain ⟨found, read, shown, named⟩ := readable.read jobId
        rw [read]
        cases found with
        | none => exact ih jobs waiting
        | some job =>
            dsimp only
            by_cases wanted :
                (decide (job.status = .queued) && job.matchesFilters jobType queueName) = true
            · rw [if_pos wanted]
              have queued := of_decide_eq_true (Bool.and_eq_true_iff.mp wanted).1
              obtain rfl := named job rfl
              obtain ⟨listed, ran, sound, bounded⟩ := ih (jobs ++ [job]) (by
                rw [List.forall_mem_append]
                exact ⟨waiting, List.forall_mem_singleton.mpr ⟨queued, shown.symm⟩⟩)
              refine ⟨listed, ran, sound, fun _ => bounded ?_⟩
              rw [List.length_append, List.length_singleton]
              omega
            · rw [if_neg wanted]
              exact ih jobs waiting

theorem Readable.dequeue (readable : backend.Readable server) (limit : Int)
    (jobType queueName : Option String) :
    ∃ listed, backend.contract.dequeue limit jobType queueName server = .ok listed ∧
      (∀ job ∈ listed,
        job.status = .queued ∧ backend.view server job.jobId = some job.ticket) ∧
      (0 ≤ limit → listed.length ≤ limit) := by
  obtain ⟨listed, ran, sound, bounded⟩ :=
    readable.collect limit jobType queueName (server.zrevrange (max 0 (limit * 3 - 1))) []
      (by simp)
  exact ⟨listed, ran, sound, bounded⟩

/-- The metadata that a claim decodes, of a stored job or of none. -/
theorem Readable.loads_claimText (readable : backend.Readable server)
    (blank : Accepts backend.loadsDict "\x7b\x7d") (jobId : String) :
    ∃ metadata, backend.loadsDict (claimText server jobId) = .ok metadata := by
  unfold claimText RedisServer.field Dict.getD
  cases stored : server.hashes.get? jobId with
  | none => exact blank
  | some data =>
      exact (readable jobId data stored).1 ("meta", Defaulted backend.loadsDict "\x7b\x7d")
        (.head _)

end Reading

section Writing

/-- The ticket with another status, if one is given. -/
def restated (status : Option JobStatus) (ticket : Ticket) : Ticket :=
  { ticket with status := status.getD ticket.status }

/-- What is written decodes, and names of the fields of a ticket the status at most. -/
structure Writes (mapping : Dict String String) (status : Option JobStatus) : Prop where
  sound : backend.SoundBut mapping
  status : mapping.get? "status" = status.map JobStatus.value
  jobId : mapping.get? "job_id" = none
  jobType : mapping.get? "job_type" = none
  resources : mapping.get? "resources" = none
  dependsOn : mapping.get? "depends_on" = none

/-- The server has been written to under the identifier of a stored job. -/
def Rewritten (server : RedisServer) (jobId : String) (status : Option JobStatus)
    (after : RedisServer) : Prop :=
  (server.hashes.get? jobId).isSome ∧ ∃ mapping, backend.Writes mapping status ∧
    after.hashes = (server.hset jobId mapping).hashes

variable {backend} {server after : RedisServer} {jobId other : String}
  {data mapping : Dict String String} {status : Option JobStatus}

theorem Writes.legible (writes : backend.Writes mapping status) (legible : backend.Legible data) :
    backend.Legible (data.update mapping) := by
  refine legible.update fun key text written => ?_
  by_cases named : key = "status"
  · subst named
    rw [writes.status] at written
    obtain ⟨known, _, rfl⟩ := Option.map_eq_some_iff.mp written
    exact passes_status known
  · exact writes.sound key text written named

theorem required_congr {key : String} (same : data.get? key = mapping.get? key) :
    required data key = required mapping key := by
  unfold required
  rw [same]

theorem orElse_congr {key : String} (same : data.get? key = mapping.get? key)
    (fallback : String) : orElse data key fallback = orElse mapping key fallback := by
  unfold orElse
  rw [same]

theorem Writes.ticketOf (writes : backend.Writes mapping status) {ticket : Ticket}
    (shown : backend.ticketOf data = .ok ticket) :
    backend.ticketOf (data.update mapping) = .ok (restated status ticket) := by
  unfold RedisQueueBackend.ticketOf at shown
  obtain ⟨text, stated, shown⟩ := exists_of_bind_ok shown
  obtain ⟨before, parsed, shown⟩ := exists_of_bind_ok shown
  obtain ⟨jobType, typed, shown⟩ := exists_of_bind_ok shown
  obtain ⟨resources, needs, shown⟩ := exists_of_bind_ok shown
  obtain ⟨dependsOn, waits, shown⟩ := exists_of_bind_ok shown
  obtain rfl := Except.ok.inj shown
  rw [← required_congr (data.get?_update_of_none writes.jobType)] at typed
  rw [← orElse_congr (data.get?_update_of_none writes.resources)] at needs
  rw [← orElse_congr (data.get?_update_of_none writes.dependsOn)] at waits
  have named := writes.status
  cases status with
  | none =>
      rw [← required_congr (data.get?_update_of_none named)] at stated
      unfold RedisQueueBackend.ticketOf
      simp only [stated, parsed, typed, needs, waits, ok_bind]
      rfl
  | some status =>
      have restates : required (data.update mapping) "status" = .ok status.value := by
        refine required_of_get? _ _ ?_
        rw [Dict.get?_update, named]
        rfl
      unfold RedisQueueBackend.ticketOf
      simp only [restates, JobStatus.parse_value, typed, needs, waits, ok_bind]
      rfl

theorem Rewritten.readable (rewritten : backend.Rewritten server jobId status after)
    (readable : backend.Readable server) : backend.Readable after := by
  obtain ⟨stored, mapping, writes, same⟩ := rewritten
  obtain ⟨data, present⟩ := Option.isSome_iff_exists.mp stored
  obtain ⟨legible, identified⟩ := readable jobId data present
  intro other found shown
  rw [same, RedisServer.hset, Dict.get?_set] at shown
  split at shown
  · next here =>
      subst here
      rw [Dict.getD, present] at shown
      obtain rfl := Option.some.inj shown
      exact ⟨writes.legible legible,
        (data.get?_update_of_none writes.jobId).trans identified⟩
  · exact readable other found shown

theorem Rewritten.view (rewritten : backend.Rewritten server jobId status after)
    (readable : backend.Readable server) (other : String) :
    backend.view after other =
      if other = jobId then (backend.view server jobId).map (restated status)
      else backend.view server other := by
  obtain ⟨stored, mapping, writes, same⟩ := rewritten
  obtain ⟨data, present⟩ := Option.isSome_iff_exists.mp stored
  obtain ⟨ticket, shown⟩ := (readable jobId data present).1.ticketOf
  rw [view_of_get? present shown]
  unfold RedisQueueBackend.view
  rw [same, RedisServer.hset, Dict.get?_set]
  split
  · rw [Dict.getD, present, Option.getD_some, Option.bind_some, writes.ticketOf shown]
    rfl
  · rfl

end Writing

section Calls

variable {backend} (reliable : backend.Reliable) {server : RedisServer}

/-- What a write of this mapping leaves behind. -/
theorem Writes.rewritten {mapping : Dict String String} {status : Option JobStatus}
    {jobId : String} (writes : backend.Writes mapping status)
    (stored : (server.hashes.get? jobId).isSome) :
    backend.Rewritten server jobId status (server.hset jobId mapping) :=
  ⟨stored, mapping, writes, rfl⟩

include reliable

theorem Reliable.readable_enqueue (readable : backend.Readable server) (job : Job) :
    backend.Readable (server.hset job.jobId (backend.jobToHash job)) := by
  intro other found shown
  rw [RedisServer.hset, Dict.get?_set] at shown
  split at shown
  · next here =>
      subst here
      obtain rfl := Option.some.inj shown
      refine ⟨(backend.legible_jobToHash (reliable.rereads job)).overwrite
        (backend.isSome_get?_jobToHash job) _, ?_⟩
      rw [Dict.get?_update]
      rfl
  · exact readable other found shown

/-- A submission shows the job with its status, its type and its resources. -/
theorem Reliable.ticketOf_jobToHash (job : Job) (data : Dict String String) :
    ∃ ticket, backend.ticketOf (data.update (backend.jobToHash job)) = .ok ticket ∧
      ticket.status = job.status ∧ ticket.jobType = job.jobType ∧
      ticket.resources = job.resources := by
  have read : ∀ {name text : String}, (backend.jobToHash job).get? name = some text →
      (data.update (backend.jobToHash job)).get? name = some text := by
    intro name text stored
    rw [Dict.get?_update, stored, Option.some_or]
  have units : (data.update (backend.jobToHash job)).get? "resources" =
      some (backend.codec.dumps (.ofIntDict job.resources)) := read rfl
  have names : (data.update (backend.jobToHash job)).get? "depends_on" =
      some (backend.codec.dumps (.ofStrList job.dependsOn)) := read rfl
  have needs := reliable.resources job.resources
  obtain ⟨filled, dependsOn, waits, _⟩ := reliable.values (.ofStrList job.dependsOn)
  unfold RedisQueueBackend.ticketOf
  rw [required_of_get? _ "status" (read rfl), required_of_get? _ "job_type" (read rfl),
    orElse_of_get? units needs.2, orElse_of_get? names filled]
  simp only [ok_bind, JobStatus.parse_value, needs.1, waits]
  exact ⟨_, rfl, rfl, rfl, Value.toIntDict_ofIntDict job.resources⟩

/-- A claim is granted on a queued job, which runs from then on; else nothing happens. -/
theorem Reliable.claim_cases (readable : backend.Readable server)
    (jobId hostId workerId : String) (now : Int) :
    (backend.contract.claim jobId hostId workerId now server = (.ok false, server)) ∨
    (server.status? jobId = some JobStatus.queued.value ∧
      (backend.contract.claim jobId hostId workerId now server).1 = .ok true ∧
      backend.Rewritten server jobId (some .running)
        (backend.contract.claim jobId hostId workerId now server).2) := by
  obtain ⟨metadata, loaded⟩ := readable.loads_claimText reliable.blank jobId
  have ran := backend.run_claim server jobId now hostId workerId loaded
  unfold contract
  dsimp only
  rw [ran]
  unfold RedisServer.claimScript
  by_cases waiting : server.status? jobId = some JobStatus.queued.value
  · rw [if_neg (not_not.mpr waiting)]
    dsimp only
    rw [if_neg (Int.not_le.mpr reliable.leaseTimeout)]
    refine .inr ⟨waiting, rfl, RedisServer.isSome_of_status? waiting, _, ?_, rfl⟩
    exact {
      sound := (sound_claim (reliable.times now) (reliable.values _) _).but
      status := rfl
      jobId := rfl
      jobType := rfl
      resources := rfl
      dependsOn := rfl }
  · rw [if_pos waiting]
    exact .inl rfl

theorem Reliable.readable_release (readable : backend.Readable server) (jobId : String)
    (now : Int) : backend.Readable (backend.contract.release jobId now server).2 := by
  show backend.Readable ((backend.release jobId now).run RedisServer.exec server).2
  obtain ⟨found, read, shown, _⟩ := readable.read jobId
  rw [run_release, read]
  cases found with
  | none => exact readable
  | some job =>
      have stored : (server.hashes.get? jobId).isSome := by
        rw [← readable.isSome_view, ← shown]
        rfl
      have writes : backend.Writes (.ofList [("status", JobStatus.queued.value),
          ("claimed_by", ""), ("updated_at", backend.codec.isoformat now)]) (some .queued) := {
        sound := (sound_release (reliable.times now)).but
        status := rfl
        jobId := rfl
        jobType := rfl
        resources := rfl
        dependsOn := rfl }
      exact (writes.rewritten stored).readable readable

/-- A heartbeat answers, and writes no field of a ticket. -/
theorem Reliable.heartbeat_cases (jobId : String) (now : Int) :
    (backend.contract.heartbeat jobId now server = (.ok false, server)) ∨
    ((backend.contract.heartbeat jobId now server).1 = .ok true ∧
      backend.Rewritten server jobId none (backend.contract.heartbeat jobId now server).2) := by
  unfold contract
  dsimp only
  rw [run_heartbeat]
  unfold RedisServer.heartbeatScript
  by_cases running : server.status? jobId = some JobStatus.running.value
  · rw [if_neg (not_not.mpr running)]
    dsimp only
    rw [if_neg (Int.not_le.mpr reliable.leaseTimeout)]
    refine .inr ⟨rfl, RedisServer.isSome_of_status? running, _, ?_, rfl⟩
    exact {
      sound := sound_heartbeat (reliable.times now)
      status := rfl
      jobId := rfl
      jobType := rfl
      resources := rfl
      dependsOn := rfl }
  · rw [if_pos running]
    exact .inl rfl

/-- A write of a status finds a stored job, or does nothing. -/
theorem Reliable.updateStatus_cases (jobId : String) (status : JobStatus) (now : Int) :
    (server.hashes.get? jobId = none ∧
      backend.contract.updateStatus jobId status.value now server = (.ok false, server)) ∨
    ((backend.contract.updateStatus jobId status.value now server).1 = .ok true ∧
      backend.Rewritten server jobId (some status)
        (backend.contract.updateStatus jobId status.value now server).2) := by
  unfold contract
  dsimp only
  rw [run_updateStatus]
  cases stored : server.hashes.get? jobId with
  | none => exact .inl ⟨rfl, rfl⟩
  | some data =>
      rw [Option.isSome_some, if_pos rfl]
      refine .inr ⟨rfl, Option.isSome_of_eq_some stored, backend.statusMapping status.value now,
        ?_, ?_⟩
      · have unnamed : ∀ key, key ≠ "status" → key ≠ "updated_at" → key ≠ "finished_at" →
            (backend.statusMapping status.value now).get? key = none := by
          intro key first second third
          unfold statusMapping
          dsimp only
          split
          · rw [Dict.get?_set_of_ne _ _ third, Dict.get?_set_of_ne _ _ second,
              Dict.get?_set_of_ne _ _ first]
            rfl
          · rw [Dict.get?_set_of_ne _ _ second, Dict.get?_set_of_ne _ _ first]
            rfl
        exact {
          sound := soundBut_statusMapping (reliable.times now) status.value
          status := backend.statusMapping_status status.value now
          jobId := unnamed _ (by decide) (by decide) (by decide)
          jobType := unnamed _ (by decide) (by decide) (by decide)
          resources := unnamed _ (by decide) (by decide) (by decide)
          dependsOn := unnamed _ (by decide) (by decide) (by decide) }
      · unfold statusWritten
        dsimp only
        split
        · split
          · rfl
          · rfl
        · split
          · rfl
          · rfl

omit reliable in
/-- The transaction of `record_attempt` counts or raises, and writes the rest in any case. -/
theorem readable_attemptPipeline (readable : backend.Readable server) {jobId : String}
    {updates : Dict String String} (writes : backend.Writes updates none)
    (stored : (server.hashes.get? jobId).isSome) :
    backend.Readable (server.attemptPipeline jobId updates).2 := by
  unfold RedisServer.attemptPipeline
  split
  · next count _ =>
      have counted : backend.Writes (Dict.empty.set "attempt" (toString (count + 1))) none := {
        sound := (sound_empty.set (passes_attempt (count + 1))).but
        status := rfl
        jobId := rfl
        jobType := rfl
        resources := rfl
        dependsOn := rfl }
      have kept := counted.rewritten stored
      have still : ((server.hset jobId
          (Dict.empty.set "attempt" (toString (count + 1)))).hashes.get? jobId).isSome := by
        rw [RedisServer.hset, Dict.get?_set_self]
        rfl
      exact (writes.rewritten still).readable (kept.readable readable)
  · exact (writes.rewritten stored).readable readable

theorem Reliable.readable_recordAttempt (readable : backend.Readable server) (jobId : String)
    (error : Option String) (now : Int) :
    backend.Readable (backend.contract.recordAttempt jobId error now server).2 := by
  show backend.Readable ((backend.recordAttempt jobId error now).run RedisServer.exec server).2
  unfold RedisQueueBackend.recordAttempt
  simp only [Prog.issue_bind, Prog.run_act, RedisServer.exec]
  by_cases stored : (server.hashes.get? jobId).isSome = true
  · have dated : backend.SoundBut (Dict.empty.set "updated_at" (backend.codec.isoformat now)) :=
      sound_empty.but.set fun _ => passes_updatedAt (reliable.times now)
    simp only [stored, ↓reduceIte, Prog.run_act, RedisServer.exec]
    cases error with
    | none =>
        have kept := readable_attemptPipeline readable ⟨dated, rfl, rfl, rfl, rfl, rfl⟩ stored
        split
        · exact kept
        · exact kept
    | some message =>
        have failed : backend.Passes "last_error"
            (backend.codec.dumps (.dict [("message", .str message)])) :=
          passes_lastError (reliable.values (.ofDict (.ofList [("message", .str message)])))
        have kept := readable_attemptPipeline readable
          ⟨dated.set fun _ => failed, rfl, rfl, rfl, rfl, rfl⟩ stored
        split
        · exact kept
        · exact kept
  · simp only [stored]
    exact readable

/-- The calls keep a server readable. -/
theorem Reliable.keeps_readable : backend.contract.KeepsSound backend.Readable where
  enqueue job _ _ readable := reliable.readable_enqueue readable job
  claim jobId hostId workerId now server readable := by
    rcases reliable.claim_cases readable jobId hostId workerId now with same | ⟨_, _, rewritten⟩
    · rw [same]
      exact readable
    · exact rewritten.readable readable
  release jobId now _ readable := reliable.readable_release readable jobId now
  heartbeat jobId now server readable := by
    rcases reliable.heartbeat_cases jobId now with same | ⟨_, rewritten⟩
    · rw [same]
      exact readable
    · exact rewritten.readable readable
  updateStatus jobId status now server readable := by
    rcases reliable.updateStatus_cases jobId status now with ⟨_, same⟩ | ⟨_, rewritten⟩
    · rw [same]
      exact readable
    · exact rewritten.readable readable
  recordAttempt jobId error now _ readable :=
    reliable.readable_recordAttempt readable jobId error now

/-- **On readable servers the Redis backend is lawful.** -/
theorem Reliable.lawful : (backend.contract.restrict reliable.keeps_readable).Lawful
    fun server => backend.view server.1 where
  get jobId server := by
    obtain ⟨found, read, shown, _⟩ := server.2.read jobId
    exact ⟨found, (congrArg Prod.fst (backend.run_get server.1 jobId)).trans read, shown⟩
  dequeue limit jobType queueName server := by
    obtain ⟨listed, returned, sound, _⟩ := server.2.dequeue limit jobType queueName
    exact ⟨listed, returned, sound⟩
  dequeue_length limit jobType queueName server jobs returned wide := by
    obtain ⟨listed, found, _, bounded⟩ := server.2.dequeue limit jobType queueName
    obtain rfl := Except.ok.inj (found.symm.trans returned)
    have within := bounded wide
    omega
  enqueue_self job now server := by
    obtain ⟨ticket, shown, status, jobType, resources⟩ :=
      reliable.ticketOf_jobToHash job (server.1.hashes.getD job.jobId ∅)
    exact .inr ⟨ticket, view_of_get? (Dict.get?_set_self ..) shown, status, jobType,
      .inl resources⟩
  enqueue_other job now server other different := by
    show ((server.1.hashes.set job.jobId _).get? other).bind _ = _
    rw [Dict.get?_set_of_ne _ _ different]
    rfl
  claim_returns jobId hostId workerId now server := by
    rcases reliable.claim_cases server.2 jobId hostId workerId now with same | ⟨_, granted, _⟩
    · exact ⟨false, congrArg Prod.fst same⟩
    · exact ⟨true, granted⟩
  claim_queued jobId hostId workerId now server granted := by
    rcases reliable.claim_cases server.2 jobId hostId workerId now with same | ⟨waiting, _, _⟩
    · cases (congrArg Prod.fst same).symm.trans granted
    · obtain ⟨found, read, shown, _⟩ := server.2.read jobId
      cases found with
      | none =>
          rw [status?_of_read_none read] at waiting
          cases waiting
      | some job =>
          have status := (backend.fields_of_read server.1 jobId read).2
          have queued := Option.some.inj (status.symm.trans waiting)
          rw [← shown]
          exact congrArg some (JobStatus.value_injective queued)
  view_claim jobId hostId workerId now server other := by
    rcases reliable.claim_cases server.2 jobId hostId workerId now with
      same | ⟨_, granted, rewritten⟩
    · have refused : ¬ (other = jobId ∧
          (backend.contract.claim jobId hostId workerId now server.1).1 = .ok true) := by
        rw [same]
        exact fun both => by cases both.2
      refine Eq.trans ?_ (if_neg refused).symm
      exact congrArg (fun after => backend.view after other) (congrArg Prod.snd same)
    · refine (rewritten.view server.2 other).trans ?_
      exact if_congr (iff_self_and.mpr fun _ => granted) rfl rfl
  heartbeat_returns jobId now server := by
    rcases reliable.heartbeat_cases jobId now with same | ⟨beaten, _⟩
    · exact ⟨false, congrArg Prod.fst same⟩
    · exact ⟨true, beaten⟩
  view_heartbeat jobId now server other := by
    rcases reliable.heartbeat_cases jobId now with same | ⟨_, rewritten⟩
    · exact congrArg (fun after => backend.view after other) (congrArg Prod.snd same)
    · refine (rewritten.view server.2 other).trans ?_
      split
      · next here =>
          rw [here]
          exact Option.map_id_apply
      · rfl
  updateStatus_returns jobId status now server := by
    rw [backend.contract.restrict_updateStatus, server.2.isSome_view]
    rcases reliable.updateStatus_cases jobId status now with ⟨absent, same⟩ | ⟨written, stored, _⟩
    · rw [absent]
      exact congrArg Prod.fst same
    · rw [stored]
      exact written
  view_updateStatus jobId status now server other := by
    rw [backend.contract.restrict_updateStatus]
    rcases reliable.updateStatus_cases jobId status now with ⟨absent, same⟩ | ⟨_, rewritten⟩
    · refine (congrArg (fun after => backend.view after other) (congrArg Prod.snd same)).trans ?_
      split
      · next here =>
          rw [here, view_of_absent absent]
          rfl
      · rfl
    · exact rewritten.view server.2 other

/-- **Slots drain beside a readable server.** What `slots_drain_of_sound` says of workers on
the Redis backend. -/
theorem Reliable.slots_drain_beside_server {ι : Type} [DecidableEq ι] (workers : ι → Worker)
    (shared : Shared RedisServer) (readable : backend.Readable shared.store)
    (limits : ConcurrencyLimits) (pools : Dict String Int)
    (unusedManager : shared.concurrency = .init limits) (unusedPool : shared.pool = .init pools)
    (registered : ∀ jobId data jobType, shared.store.hashes.get? jobId = some data →
      data.get? "job_type" = some jobType → ∀ client, jobType ∈ (workers client).handlers)
    (schedule : List (Action ι ServiceOp))
    (accountable : (serviceMachine backend.contract workers).Permits NoSharedHolding
      (.initial shared) schedule)
    (quiet : ((serviceMachine backend.contract workers).runFrom (.initial shared)
      schedule).Quiet) :
    ((serviceMachine backend.contract workers).runFrom (.initial shared)
      schedule).shared.Drained := by
  refine slots_drain_of_sound workers reliable.keeps_readable shared readable schedule
    reliable.lawful limits pools unusedManager unusedPool ?_ accountable quiet
  intro jobId ticket shown client
  obtain ⟨data, stored, same⟩ := Option.bind_eq_some_iff.mp shown
  obtain ⟨job, decoded⟩ := (readable jobId data stored).1.hashToJob
  rw [backend.ticketOf_of_hashToJob decoded] at same
  obtain rfl := Option.some.inj same
  exact registered jobId data job.jobType stored (backend.route_of_hashToJob decoded).1 client

end Calls

end RedisQueueBackend

end CloudDogJobs
