import CloudDogJobs.Backend.LeaseQueue
import CloudDogJobs.Backend.Sweep

/-!
# Redis as a queue with leases

The hash of a job, its member of the sorted set and its lease key are what Redis has for
one job of the queue with leases. Every method of the backend, run alone, changes the keys
of one job and answers as the queue does, as long as the codec reads back what is written
and no status write takes a job back to `queued`.
-/

namespace CloudDogJobs

open Foundation

/-- What Redis has for a job: its hash, its score in the sorted set and its lease. -/
structure Cells where
  hash : Option (Dict String String)
  score : Option Int
  lease : Option (String × Int)

namespace RedisServer

variable (server : RedisServer) (jobId : String)

def cells (jobId : String) : Cells :=
  ⟨server.hashes.get? jobId, server.queue.get? jobId, server.leases.get? jobId⟩

theorem cells_hset (mapping : Dict String String) :
    (server.hset jobId mapping).cells = Function.update server.cells jobId
      { server.cells jobId with
        hash := some (((server.cells jobId).hash.getD ∅).update mapping) } := by
  refine Function.eq_update_iff.mpr ⟨?_, fun other different => ?_⟩
  · simp only [cells, hset, Dict.get?_set_self, Dict.getD]
  · simp only [cells, hset, Dict.get?_set_of_ne _ _ different]

theorem cells_zadd (score : Int) :
    (server.zadd jobId score).cells =
      Function.update server.cells jobId { server.cells jobId with score := some score } := by
  refine Function.eq_update_iff.mpr ⟨?_, fun other different => ?_⟩
  · simp only [cells, zadd, Dict.get?_set_self]
  · simp only [cells, zadd, Dict.get?_set_of_ne _ _ different]

theorem cells_zrem :
    (server.zrem jobId).cells =
      Function.update server.cells jobId { server.cells jobId with score := none } := by
  refine Function.eq_update_iff.mpr ⟨?_, fun other different => ?_⟩
  · simp only [cells, zrem, Dict.get?_erase, ↓reduceIte]
  · simp only [cells, zrem, Dict.get?_erase, if_neg different]

theorem cells_deleteLease :
    (server.deleteLease jobId).cells =
      Function.update server.cells jobId { server.cells jobId with lease := none } := by
  refine Function.eq_update_iff.mpr ⟨?_, fun other different => ?_⟩
  · simp only [cells, deleteLease, Dict.get?_erase, ↓reduceIte]
  · simp only [cells, deleteLease, Dict.get?_erase, if_neg different]

theorem cells_setLease (lease : String × Int) :
    { server with leases := server.leases.set jobId lease }.cells =
      Function.update server.cells jobId { server.cells jobId with lease := some lease } := by
  refine Function.eq_update_iff.mpr ⟨?_, fun other different => ?_⟩
  · simp only [cells, Dict.get?_set_self]
  · simp only [cells, Dict.get?_set_of_ne _ _ different]

theorem cells_modifyLease (change : String × Int → String × Int) :
    { server with leases := server.leases.modify jobId change }.cells =
      Function.update server.cells jobId
        { server.cells jobId with lease := (server.cells jobId).lease.map change } := by
  refine Function.eq_update_iff.mpr ⟨?_, fun other different => ?_⟩
  · simp only [cells, Dict.get?_modify, ↓reduceIte]
  · simp only [cells, Dict.get?_modify, if_neg different]

end RedisServer

namespace RedisQueueBackend

variable (backend : RedisQueueBackend)

/-- A decoded job carries the type and the queue of its hash. -/
theorem route_of_hashToJob {data : Dict String String} {job : Job}
    (decoded : backend.hashToJob data = .ok job) :
    data.get? "job_type" = some job.jobType ∧ data.get? "queue_name" = some job.queueName := by
  unfold hashToJob at decoded
  obtain ⟨metadata, _, decoded⟩ := exists_of_bind_ok decoded
  obtain ⟨jobId, _, decoded⟩ := exists_of_bind_ok decoded
  obtain ⟨jobType, typed, decoded⟩ := exists_of_bind_ok decoded
  obtain ⟨queueName, placed, decoded⟩ := exists_of_bind_ok decoded
  have remaining : job.jobType = jobType ∧ job.queueName = queueName := by
    repeat
      obtain ⟨_, _, decoded⟩ := exists_of_bind_ok decoded
    rw [← Except.ok.inj decoded]
    exact ⟨rfl, rfl⟩
  rw [remaining.1, remaining.2]
  exact ⟨get?_of_required typed, get?_of_required placed⟩

/-- The hash is that of the job. -/
structure Describes (data : Dict String String) (jobId : String) (job : LeasedJob) : Prop where
  legible : backend.LegibleBut data
  jobId : data.get? "job_id" = some jobId
  jobType : data.get? "job_type" = some job.jobType
  queueName : data.get? "queue_name" = some job.queueName
  priority : ∃ text, data.get? "priority" = some text ∧ parseInt text = .ok job.priority
  attempt : ∃ text count, data.get? "attempt" = some text ∧ parseInt text = .ok count
  status : data.get? "status" = some job.place.status

/-- Redis has of the job what the queue knows of it. -/
structure Holds (jobId : String) (cells : Cells) (job : LeasedJob) : Prop where
  hash : ∃ data, cells.hash = some data ∧ backend.Describes data jobId job
  score : cells.score = job.place.score?
  lease : cells.lease.isSome = job.place.leased

/-- Redis has nothing of a job that the queue does not know. -/
def Matches (jobId : String) (cells : Cells) : Option LeasedJob → Prop
  | none => cells = ⟨none, none, none⟩
  | some job => backend.Holds jobId cells job

/-- The server is that of the queue. -/
def Shows (server : RedisServer) (queue : LeaseQueue) : Prop :=
  ∀ jobId, backend.Matches jobId (server.cells jobId) (queue.jobs.get? jobId)

theorem shows_empty : backend.Shows .empty .empty := fun _ => rfl

variable {backend} {server : RedisServer} {queue : LeaseQueue} {jobId : String}
  {job : LeasedJob}

theorem Shows.holds (shows : backend.Shows server queue)
    (stored : queue.jobs.get? jobId = some job) :
    backend.Holds jobId (server.cells jobId) job := by
  have here := shows jobId
  rw [stored] at here
  exact here

theorem Shows.cells (shows : backend.Shows server queue)
    (stored : queue.jobs.get? jobId = some job) :
    ∃ data lease, server.cells jobId = ⟨some data, job.place.score?, lease⟩ ∧
      backend.Describes data jobId job ∧ lease.isSome = job.place.leased := by
  obtain ⟨⟨data, present, describes⟩, scored, leased⟩ := shows.holds stored
  refine ⟨data, (server.cells jobId).lease, ?_, describes, leased⟩
  rw [← present, ← scored]

theorem Shows.vacant (shows : backend.Shows server queue) (absent : queue.jobs.get? jobId = none) :
    server.cells jobId = ⟨none, none, none⟩ := by
  have here := shows jobId
  rw [absent] at here
  exact here

/-- A job that the queue does not know has no hash. -/
theorem Shows.unhashed (shows : backend.Shows server queue)
    (absent : queue.jobs.get? jobId = none) : server.hashes.get? jobId = none :=
  congrArg Cells.hash (shows.vacant absent)

/-- Every operation changes what there is of one job. -/
theorem Shows.update (shows : backend.Shows server queue) {after : RedisServer}
    {moved : LeaseQueue} {cells : Cells}
    (written : after.cells = Function.update server.cells jobId cells)
    (known : moved.jobs.get? = Function.update queue.jobs.get? jobId (some job))
    (holds : backend.Holds jobId cells job) : backend.Shows after moved := by
  intro other
  rw [written, known]
  by_cases same : other = jobId
  · subst same
    rw [Function.update_self, Function.update_self]
    exact holds
  · rw [Function.update_of_ne same, Function.update_of_ne same]
    exact shows other

end RedisQueueBackend

namespace LeaseQueue

variable (queue : LeaseQueue) {jobId : String} {job : LeasedJob}

theorem get?_move_of_stored (stored : queue.jobs.get? jobId = some job) (place : Place) :
    (queue.move jobId place).jobs.get? =
      Function.update queue.jobs.get? jobId (some { job with place := place }) := by
  refine Function.eq_update_iff.mpr ⟨?_, fun other different => ?_⟩
  · rw [move, Dict.get?_modify, if_pos rfl, stored]
    rfl
  · rw [move, Dict.get?_modify, if_neg different]

theorem get?_requeue_of_stored (stored : queue.jobs.get? jobId = some job) (now : Int) :
    (queue.requeue jobId now).jobs.get? = Function.update queue.jobs.get? jobId
      (some { job with place := .waiting (RedisQueueBackend.score job.priority now) }) := by
  refine Function.eq_update_iff.mpr ⟨?_, fun other different => ?_⟩
  · rw [get?_requeue, if_pos rfl, stored]
    rfl
  · rw [get?_requeue, if_neg different]

theorem get?_enqueue (submitted : Job) (now : Int) :
    (queue.enqueue submitted now).jobs.get? = Function.update queue.jobs.get? submitted.jobId
      (some ⟨submitted.jobType, submitted.queueName, submitted.priority,
        .waiting (RedisQueueBackend.score submitted.priority now)⟩) :=
  Function.eq_update_iff.mpr
    ⟨Dict.get?_set_self .., fun _ different => Dict.get?_set_of_ne _ _ different⟩

end LeaseQueue

namespace RedisQueueBackend

variable {backend : RedisQueueBackend}

section Hashes

variable {data mapping : Dict String String} {jobId : String} {job : LeasedJob}

/-- What is written names none of the fields that tell the job and its place in dispatch. -/
structure Minor (mapping : Dict String String) : Prop where
  jobId : mapping.get? "job_id" = none
  jobType : mapping.get? "job_type" = none
  queueName : mapping.get? "queue_name" = none
  priority : mapping.get? "priority" = none
  attempt : mapping.get? "attempt" = none

/-- A write of minor fields describes the job in its new place. -/
theorem Describes.update (describes : backend.Describes data jobId job) (place : Place)
    (sound : backend.SoundBut mapping) (minor : Minor mapping)
    (status : (mapping.get? "status").or (data.get? "status") = some place.status) :
    backend.Describes (data.update mapping) jobId { job with place := place } where
  legible := describes.legible.update sound
  jobId := (data.get?_update_of_none minor.jobId).trans describes.jobId
  jobType := (data.get?_update_of_none minor.jobType).trans describes.jobType
  queueName := (data.get?_update_of_none minor.queueName).trans describes.queueName
  priority := by
    rw [data.get?_update_of_none minor.priority]
    exact describes.priority
  attempt := by
    rw [data.get?_update_of_none minor.attempt]
    exact describes.attempt
  status := (Dict.get?_update ..).trans status

/-- The hash that a submission writes describes the job in line. -/
theorem describes_jobToHash {submitted : Job} (queued : submitted.status = .queued)
    (rereads : RereadsJob backend.codec submitted) (score : Int) :
    backend.Describes ((∅ : Dict String String).update (backend.jobToHash submitted))
      submitted.jobId
      ⟨submitted.jobType, submitted.queueName, submitted.priority, .waiting score⟩ := by
  have read : ∀ {name text : String}, (backend.jobToHash submitted).get? name = some text →
      ((∅ : Dict String String).update (backend.jobToHash submitted)).get? name = some text := by
    intro name text stored
    rw [Dict.get?_update, stored, Option.some_or]
  exact {
    legible := ((backend.legible_jobToHash rereads).overwrite
      (backend.isSome_get?_jobToHash submitted) ∅).but
    jobId := read rfl
    jobType := read rfl
    queueName := read rfl
    priority := ⟨_, read rfl, parseInt_toString submitted.priority⟩
    attempt := ⟨_, submitted.attempt, read rfl, parseInt_toString submitted.attempt⟩
    status := read (queued ▸ rfl : (backend.jobToHash submitted).get? "status" =
      some JobStatus.queued.value) }

/-- A job that is read is the one that its hash describes. -/
structure Agrees (jobId : String) (job : LeasedJob) (found : Job) : Prop where
  jobId : found.jobId = jobId
  jobType : found.jobType = job.jobType
  queueName : found.queueName = job.queueName
  priority : found.priority = job.priority
  status : found.status.value = job.place.status

/-- A described job is read when its status is known. -/
theorem Describes.decodes (describes : backend.Describes data jobId job)
    (known : (JobStatus.ofValue? job.place.status).isSome) :
    ∃ found, backend.hashToJob data = .ok found ∧ Agrees jobId job found := by
  obtain ⟨status, parsed⟩ := Option.isSome_iff_exists.mp known
  have stated : data.get? "status" = some status.value := by
    rw [describes.status, JobStatus.ofValue?_eq_some parsed]
  obtain ⟨found, decoded⟩ := (describes.legible.legible stated).hashToJob
  obtain ⟨named, shown⟩ := backend.fields_of_hashToJob decoded
  obtain ⟨typed, placed⟩ := backend.route_of_hashToJob decoded
  obtain ⟨text, ranked, counted⟩ := (backend.legible_of_hashToJob decoded).2.1
  obtain ⟨same, ranked', counted'⟩ := describes.priority
  have equal : text = same := Option.some.inj (ranked.symm.trans ranked')
  subst equal
  exact ⟨found, decoded, {
    jobId := Option.some.inj (named.symm.trans describes.jobId)
    jobType := Option.some.inj (typed.symm.trans describes.jobType)
    queueName := Option.some.inj (placed.symm.trans describes.queueName)
    priority := Except.ok.inj (counted.symm.trans counted')
    status := Option.some.inj (shown.symm.trans describes.status) }⟩

/-- It is not when its status is unknown. -/
theorem Describes.fails (describes : backend.Describes data jobId job)
    (unknown : ¬ (JobStatus.ofValue? job.place.status).isSome) :
    ∃ error, backend.hashToJob data = .error error := by
  cases decoded : backend.hashToJob data with
  | error error => exact ⟨error, rfl⟩
  | ok found =>
      have shown := (backend.fields_of_hashToJob decoded).2
      have same := Option.some.inj (describes.status.symm.trans shown)
      rw [same, JobStatus.ofValue?_value] at unknown
      exact absurd rfl unknown

end Hashes

section Moves

variable {server after : RedisServer} {queue : LeaseQueue} {jobId : String} {job : LeasedJob}
  {data : Dict String String} {place : Place}

/-- A stored job that is put elsewhere. -/
theorem Shows.moved (shows : backend.Shows server queue)
    (stored : queue.jobs.get? jobId = some job) (lease : Option (String × Int))
    (written : after.cells = Function.update server.cells jobId ⟨some data, place.score?, lease⟩)
    (describes : backend.Describes data jobId { job with place := place })
    (leased : lease.isSome = place.leased) : backend.Shows after (queue.move jobId place) :=
  shows.update written (queue.get?_move_of_stored stored place)
    ⟨⟨data, rfl, describes⟩, rfl, leased⟩

/-- A stored job that is written anew where it is. -/
theorem Shows.rewritten (shows : backend.Shows server queue)
    (stored : queue.jobs.get? jobId = some job) (lease : Option (String × Int))
    (written : after.cells =
      Function.update server.cells jobId ⟨some data, job.place.score?, lease⟩)
    (describes : backend.Describes data jobId job) (leased : lease.isSome = job.place.leased) :
    backend.Shows after queue :=
  shows.update written (by rw [← stored, Function.update_eq_self])
    ⟨⟨data, rfl, describes⟩, rfl, leased⟩

end Moves

section Reads

variable {server : RedisServer} {queue : LeaseQueue} {jobId : String} {job : LeasedJob}

/-- What Redis answers about a stored job. -/
theorem Shows.hash (shows : backend.Shows server queue)
    (stored : queue.jobs.get? jobId = some job) :
    ∃ data, server.hashes.get? jobId = some data ∧ backend.Describes data jobId job :=
  (shows.holds stored).hash

theorem Shows.isSome_stored (shows : backend.Shows server queue) (jobId : String) :
    (server.hashes.get? jobId).isSome = (queue.jobs.get? jobId).isSome := by
  cases stored : queue.jobs.get? jobId with
  | none =>
      rw [shows.unhashed stored]
      rfl
  | some job =>
      obtain ⟨data, present, _⟩ := shows.hash stored
      rw [present]
      rfl

theorem Shows.status? (shows : backend.Shows server queue) :
    server.status? jobId = (queue.jobs.get? jobId).map fun job => job.place.status := by
  unfold RedisServer.status? RedisServer.field Dict.getD
  cases stored : queue.jobs.get? jobId with
  | none =>
      rw [shows.unhashed stored]
      rfl
  | some job =>
      obtain ⟨data, found, describes⟩ := shows.hash stored
      rw [found]
      exact describes.status

theorem Shows.status_of_stored (shows : backend.Shows server queue)
    (stored : queue.jobs.get? jobId = some job) :
    server.status? jobId = some job.place.status := by
  rw [shows.status?, stored, Option.map_some]

theorem Shows.leased (shows : backend.Shows server queue) :
    (server.leases.get? jobId).isSome =
      (queue.jobs.get? jobId).any fun job => job.place.leased := by
  cases stored : queue.jobs.get? jobId with
  | none =>
      have absent : server.leases.get? jobId = none := congrArg Cells.lease (shows.vacant stored)
      rw [absent]
      rfl
  | some job => exact (shows.holds stored).lease

theorem Shows.abandoned_iff (shows : backend.Shows server queue) :
    Abandoned server jobId ↔ queue.Abandoned jobId := by
  unfold Abandoned LeaseQueue.Abandoned Place.Lapsed
  rw [← Option.not_isSome_iff_eq_none, shows.leased, shows.status?]
  cases queue.jobs.get? jobId with
  | none => simp
  | some job => simp

theorem Shows.read_of_known (shows : backend.Shows server queue)
    (stored : queue.jobs.get? jobId = some job)
    (known : (JobStatus.ofValue? job.place.status).isSome) :
    ∃ found, backend.read server jobId = .ok (some found) ∧ Agrees jobId job found := by
  obtain ⟨data, present, describes⟩ := shows.hash stored
  obtain ⟨found, decoded, agrees⟩ := describes.decodes known
  refine ⟨found, ?_, agrees⟩
  unfold read
  rw [Dict.getD, present, Option.getD_some, describes.legible.filled, decoded]
  rfl

theorem Shows.read_of_unknown (shows : backend.Shows server queue)
    (stored : queue.jobs.get? jobId = some job)
    (unknown : ¬ (JobStatus.ofValue? job.place.status).isSome) :
    ∃ error, backend.read server jobId = .error error := by
  obtain ⟨data, present, describes⟩ := shows.hash stored
  obtain ⟨error, failed⟩ := describes.fails unknown
  refine ⟨error, ?_⟩
  unfold read
  rw [Dict.getD, present, Option.getD_some, describes.legible.filled, failed]
  rfl

theorem Shows.read_of_absent (shows : backend.Shows server queue)
    (absent : queue.jobs.get? jobId = none) : backend.read server jobId = .ok none := by
  unfold read
  rw [Dict.getD, shows.unhashed absent]
  rfl

/-- A job that is read is stored. -/
theorem Shows.agrees_of_read (shows : backend.Shows server queue) {found : Job}
    (read : backend.read server jobId = .ok (some found)) :
    ∃ job ∈ queue.jobs.get? jobId, Agrees jobId job found := by
  cases stored : queue.jobs.get? jobId with
  | none => cases read.symm.trans (shows.read_of_absent stored)
  | some job =>
      by_cases known : (JobStatus.ofValue? job.place.status).isSome
      · obtain ⟨other, readable, agrees⟩ := shows.read_of_known stored known
        obtain rfl : found = other :=
          Option.some.inj (Except.ok.inj (read.symm.trans readable))
        exact ⟨job, rfl, agrees⟩
      · obtain ⟨error, failed⟩ := shows.read_of_unknown stored known
        cases read.symm.trans failed

end Reads

end RedisQueueBackend

end CloudDogJobs
