import CloudDogJobs.Backend.DoubleScores
import CloudDogJobs.Backend.LeaseOperations

/-!
# Recovering the jobs of lost workers

Runs of the Redis backend are runs of the queue with leases, as long as no score is too
large for a double to keep. A sweep of all keys, after any run, puts every running job
without a lease back in line, touches no other job, and the next `dequeue` finds what
waited before and what was recovered.
-/

namespace CloudDogJobs

open Foundation

namespace RedisQueueBackend

variable {backend : RedisQueueBackend} {server : RedisServer} {queue : LeaseQueue}

/-- The operation submits a new job, or sets a status other than `queued` to a job that does
not wait, sweeps keys without colons, and the codec reads back what it writes. -/
def Proper (backend : RedisQueueBackend) (server : RedisServer) : Op → Prop
  | .call (.enqueue job _) => job.status = .queued ∧ server.hashes.get? job.jobId = none ∧
      RereadsJob backend.codec job
  | .call (.updateStatus jobId status now) => ReadsTime backend.codec now ∧
      KeepsIndex server (.call (.updateStatus jobId status now))
  | .call (.heartbeat _ now) => ReadsTime backend.codec now
  | .call (.recordAttempt _ error now) => ReadsTime backend.codec now ∧
      ∀ message ∈ error, Rereads backend.codec (.ofDict (Dict.empty.set "message" (.str message)))
  | .call op => backend.CodecReads server op
  | .reap scanned now => ReadsTime backend.codec now ∧ ∀ key ∈ scanned, ':' ∉ key.toList
  | .lapse _ => True

/-- One operation on a server that keeps doubles, and what its caller is told. -/
def answer (backend : RedisQueueBackend) (server : RedisServer) (op : Op) :
    Report × RedisServer :=
  ((backend.code op).run RedisServer.execDouble server).map Report.of id

/-- What one operation leaves on a server that keeps doubles. -/
def next (backend : RedisQueueBackend) (server : RedisServer) (op : Op) : RedisServer :=
  (backend.answer server op).2

/-- An operation that gives jobs moderate scores is precise. -/
theorem Shows.precise (shows : backend.Shows server queue) {op : Op}
    (proper : backend.Proper server op) (moderate : queue.Moderate op) :
    Precise server (backend.code op) := by
  cases op with
  | lapse jobId => exact ⟨trivial, trivial⟩
  | reap scanned now =>
      exact (Prog.meets_map ..).mpr (Shows.precise_reap proper.1 proper.2 shows moderate)
  | call op =>
      cases op with
      | enqueue job now => exact ⟨trivial, moderate, trivial⟩
      | release jobId now => exact (Prog.meets_map ..).mpr (shows.precise_release moderate)
      | heartbeat jobId now => exact ⟨trivial, trivial⟩
      | recordAttempt jobId error now =>
          exact precise_of_unindexed ((backend.only_recordAttempt jobId error now).map _)
      | dequeue limit jobType queueName =>
          exact precise_of_unindexed (.map _ ⟨trivial, fun jobIds =>
            backend.only_collect limit jobType queueName jobIds []⟩)
      | claim jobId hostId workerId now =>
          exact precise_of_only ((backend.only_claim jobId hostId workerId now).map _)
      | updateStatus jobId status now =>
          exact precise_of_only (backend.only_updateStatus jobId status now)

theorem Shows.follows (shows : backend.Shows server queue)
    (blank : Accepts backend.loadsDict "\x7b\x7d") {op : Op} (proper : backend.Proper server op) :
    backend.Follows server (backend.code op) (queue.step backend.leaseTimeout op) := by
  cases op with
  | lapse jobId => exact shows.lapse
  | reap scanned now =>
      obtain ⟨swept, kept⟩ := Shows.reap proper.1 proper.2 shows
      unfold Follows code
      rw [Prog.run_map, swept]
      exact ⟨rfl, kept⟩
  | call op =>
      cases op with
      | enqueue job now => exact shows.enqueue proper.1 proper.2.1 proper.2.2
      | claim jobId hostId workerId now => exact shows.claim blank proper
      | release jobId now => exact shows.release proper
      | heartbeat jobId now => exact shows.heartbeat proper
      | recordAttempt jobId error now => exact shows.recordAttempt proper.1 proper.2
      | updateStatus jobId status now =>
          refine shows.updateStatus proper.1 fun queued => proper.2 jobId now ?_
          rw [queued]
      | dequeue limit jobType queueName =>
          obtain ⟨jobs, listed, same⟩ := shows.listed limit jobType queueName
          unfold Follows code
          rw [Prog.run_map, listed]
          exact ⟨congrArg Report.jobIds same, shows⟩

/-- **Redis is a queue with leases.** From a server that shows a queue with leases, and for
every sequence of the operations of the backend, of sweeps and of leases that run out, in
which new jobs have new identifiers, no status write takes a job back to `queued`, sweeps scan
keys without colons, the codec reads back what is written and the scores of jobs that are put
in line have at most 53 bits: every caller is told what the queue tells, errors included, and
the server shows the queue in the end. The server keeps its scores as doubles. -/
theorem redis_refines_lease_queue (blank : Accepts backend.loadsDict "\x7b\x7d")
    (shows : backend.Shows server queue) (ops : List Op)
    (proper : Guarded backend.next backend.Proper server ops)
    (moderate : Guarded (fun queue op => (queue.step backend.leaseTimeout op).2)
      LeaseQueue.Moderate queue ops) :
    let run := transcript backend.answer server ops
    let told := transcript (LeaseQueue.step backend.leaseTimeout) queue ops
    run.1 = told.1 ∧ backend.Shows run.2 told.2 := by
  have simulates : ∀ (context : RedisServer × LeaseQueue) state model op,
      (context = (state, model) ∧ backend.Shows state model) →
        (backend.Proper context.1 op ∧ context.2.Moderate op) →
          (backend.answer state op).1 = (model.step backend.leaseTimeout op).1 ∧
            (backend.next context.1 op, (context.2.step backend.leaseTimeout op).2) =
              ((backend.answer state op).2, (model.step backend.leaseTimeout op).2) ∧
            backend.Shows (backend.answer state op).2 (model.step backend.leaseTimeout op).2 := by
    rintro context state model op ⟨rfl, shows⟩ ⟨proper, moderate⟩
    obtain ⟨told, kept⟩ := shows.follows blank proper
    have same := (shows.precise proper moderate).run_eq
    unfold next answer
    rw [same]
    exact ⟨told, rfl, kept⟩
  obtain ⟨answers, _, last⟩ :=
    transcript_of_simulation simulates ⟨rfl, shows⟩ (proper.prod moderate)
  exact ⟨answers, last⟩

section Sweeping

/-- There are no more stored jobs than hashes. -/
theorem Shows.length_le (shows : backend.Shows server queue) {jobIds : List String}
    (distinct : jobIds.Nodup) (stored : ∀ jobId ∈ jobIds, (queue.jobs.get? jobId).isSome) :
    jobIds.length ≤ server.hashes.entries.length := by
  have within : jobIds ⊆ server.hashes.keys := by
    intro jobId member
    rw [Dict.mem_keys_iff, shows.isSome_stored]
    exact stored jobId member
  have fewer := (List.subperm_of_subset distinct within).length_le
  rwa [Dict.keys, List.length_map] at fewer

/-- The runs of the backend from an empty server show a queue. -/
theorem shows_run (blank : Accepts backend.loadsDict "\x7b\x7d") {ops : List Op}
    (shows : backend.Shows server queue)
    (proper : Guarded backend.apply backend.Proper server ops) :
    ∃ reached, backend.Shows (ops.foldl backend.apply server) reached := by
  induction ops generalizing server queue with
  | nil => exact ⟨queue, shows⟩
  | cons op rest ih => exact ih (shows.follows blank proper.1).2 proper.2

/-- **No job is lost with its worker.** After every run from an empty server, a sweep of all
keys reports the running jobs without a lease, each once. It leaves none of them, changes the
status of no other job, and a `dequeue` whose limit is no less than the number of stored jobs
then returns, each once, the jobs that waited before and those that the sweep reported. -/
theorem sweep_recovers_abandoned (blank : Accepts backend.loadsDict "\x7b\x7d") {ops : List Op}
    (proper : Guarded backend.apply backend.Proper .empty ops) {now : Int}
    (reads : ReadsTime backend.codec now) {scanned : List String}
    (plain : ∀ key ∈ scanned, ':' ∉ key.toList)
    (complete : ∀ jobId, ((ops.foldl backend.apply .empty).hashes.get? jobId).isSome →
      jobId ∈ scanned) (limit : Int)
    (large : ((ops.foldl backend.apply .empty).hashes.entries.length : Int) ≤ limit) :
    let server := ops.foldl backend.apply .empty
    let swept := (backend.reapExpiredLeases now scanned).run RedisServer.exec server
    ∃ reaped jobs, swept.1 = .ok reaped ∧ reaped.Nodup ∧
      (∀ jobId, jobId ∈ reaped ↔ Abandoned server jobId) ∧
      (∀ jobId, ¬ Abandoned swept.2 jobId) ∧
      (∀ jobId, jobId ∉ reaped → swept.2.status? jobId = server.status? jobId) ∧
      (backend.dequeue limit none none).run RedisServer.exec swept.2 = (.ok jobs, swept.2) ∧
      (jobs.map Job.jobId).Nodup ∧
      ∀ jobId, jobId ∈ jobs.map Job.jobId ↔
        server.status? jobId = some JobStatus.queued.value ∨ jobId ∈ reaped := by
  intro server swept
  obtain ⟨queue, shows⟩ := shows_run blank backend.shows_empty proper
  obtain ⟨told, kept⟩ := Shows.reap reads plain shows
  have met : ∀ jobId, queue.Abandoned jobId → jobId ∈ scanned := by
    rintro jobId ⟨job, stored, _⟩
    apply complete
    rw [shows.isSome_stored, stored]
    rfl
  obtain ⟨distinct, _, placed⟩ := LeaseQueue.reap_spec now scanned queue
  obtain ⟨reported, cleared, lined⟩ := LeaseQueue.reap_all met
  have waiting : ∀ jobId, jobId ∈ queue.line ↔
      server.status? jobId = some JobStatus.queued.value := by
    intro jobId
    rw [← shows.ranked, server.mem_ranked]
    exact shows.indexExact jobId
  -- the line of the swept queue is one of stored jobs, so the limit reaches its end
  have short : ((LeaseQueue.reap now scanned queue).2.line.length : Int) ≤ limit := by
    refine le_trans (Int.ofNat_le.mpr (shows.length_le (LeaseQueue.nodup_line _) ?_)) large
    intro jobId member
    rcases (lined jobId).mp member with before | ⟨job, stored, _⟩
    · obtain ⟨job, stored, _⟩ := LeaseQueue.mem_line.mp before
      exact Option.isSome_of_eq_some stored
    · exact Option.isSome_of_eq_some stored
  obtain ⟨jobs, listed, same⟩ := kept.listed limit none none
  rw [LeaseQueue.dequeue_all short] at same
  refine ⟨_, jobs, told, distinct, fun jobId => ?_, fun jobId => ?_, fun jobId other => ?_,
    listed, ?_, fun jobId => ?_⟩
  · rw [reported, ← shows.abandoned_iff]
  · rw [kept.abandoned_iff]
    exact cleared jobId
  · rw [kept.status?, shows.status?, placed, if_neg]
    exact fun found => other ((reported jobId).mpr found.2)
  · rw [same]
    exact LeaseQueue.nodup_line _
  · rw [same, lined, waiting, reported]

end Sweeping

section Sample

theorem blank_plain : Accepts plainBackend.loadsDict "\x7b\x7d" := by
  have reads : Reads plainBackend.codec (.dict []) := reads_plain (.head _)
  refine ⟨∅, ?_⟩
  unfold loadsDict
  rw [show "\x7b\x7d" = plainBackend.codec.dumps (.dict []) from rfl, reads.1]
  rfl

/-- A worker claims a job and is lost. -/
def lostRun : List Op :=
  [.call (.enqueue (plainJob "job" "task") 0), .call (.claim "job" "host" "first" 0),
    .lapse "job"]

theorem proper_lostRun : Guarded plainBackend.apply plainBackend.Proper .empty lostRun := by
  refine ⟨⟨rfl, rfl, (encodes_plainJob "job" "task").rereads⟩, ⟨readsTime_plain, ?_⟩, trivial,
    trivial⟩
  intro metadata loaded
  have stored : (plainBackend.apply .empty (.call (.enqueue (plainJob "job" "task") 0))).hashes.getD
      "job" ∅ = plainBackend.jobToHash (plainJob "job" "task") :=
    Dict.ofList_entries _
  have known := plainBackend.loadsDict_claimText (encodes_plainJob "job" "task") stored
  rw [← Except.ok.inj (known.symm.trans loaded)]
  exact (encodes_claimedJob "job" "task" (.inl rfl) .running none).metadata.rereads

/-- After it, a sweep finds the job, and so does the next worker. -/
def foundRun : List Op := lostRun ++ [.reap ["job"] 0, .call (.dequeue 1 none none)]

theorem lost_job_is_told :
    (transcript plainBackend.answer .empty foundRun).1 =
      [.jobId "job", .flag true, .flag true, .jobIds ["job"], .jobIds ["job"]] := by
  obtain ⟨enqueued, claimed, _⟩ := proper_lostRun
  have same : plainBackend.next .empty (.call (.enqueue (plainJob "job" "task") 0)) =
      plainBackend.apply .empty (.call (.enqueue (plainJob "job" "task") 0)) :=
    congrArg Prod.snd ((plainBackend.shows_empty.precise enqueued (by decide)).run_eq)
  rw [← same] at claimed
  have refined := plainBackend.redis_refines_lease_queue blank_plain plainBackend.shows_empty
    foundRun ⟨enqueued, claimed, trivial, ⟨readsTime_plain, by decide⟩, trivial, trivial⟩
    ⟨by decide, trivial, trivial, by decide, trivial, trivial⟩
  exact refined.1.trans (by decide)

theorem lost_job_is_recovered :
    ∃ jobs, ((plainBackend.dequeue 1 none none).run RedisServer.exec
        ((plainBackend.reapExpiredLeases 0 ["job"]).run RedisServer.exec
          (lostRun.foldl plainBackend.apply .empty)).2).1 = .ok jobs ∧
      "job" ∈ jobs.map Job.jobId := by
  have keys : (lostRun.foldl plainBackend.apply .empty).hashes.keys = ["job"] := by
    decide +kernel
  have counted : (lostRun.foldl plainBackend.apply .empty).hashes.entries.length = 1 := by
    decide +kernel
  have abandoned : Abandoned (lostRun.foldl plainBackend.apply .empty) "job" := by
    constructor <;> decide +kernel
  obtain ⟨reaped, jobs, _, _, reported, _, _, listed, _, lined⟩ :=
    plainBackend.sweep_recovers_abandoned blank_plain proper_lostRun readsTime_plain
      (by decide : ∀ key ∈ ["job"], ':' ∉ key.toList)
      (fun jobId stored => keys ▸ (Dict.mem_keys_iff _ _).mpr stored) 1 (by rw [counted]; decide)
  exact ⟨jobs, congrArg Prod.fst listed, (lined "job").mpr (.inr ((reported "job").mpr abandoned))⟩

end Sample

end RedisQueueBackend

end CloudDogJobs
