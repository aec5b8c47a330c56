import CloudDogJobs.Backend.DispatchOrder
import CloudDogJobs.Backend.StatusWrites

/-!
# A queue with leases

What the Redis backend is for, without its keys. A job waits in line with a score, or
it is away from the line in some status, under a lease or without one. A claim takes a
job out of the line and leases it, a lease may be lost at any time, and a sweep puts the
running jobs that have lost theirs back in line.
-/

namespace CloudDogJobs

open Foundation

/-- Where a job is. -/
inductive Place
  | waiting (score : Int)
  | away (status : String) (elsewhere : status ≠ JobStatus.queued.value) (leased : Bool)

namespace Place

def status : Place → String
  | .waiting _ => JobStatus.queued.value
  | .away status _ _ => status

/-- The score of a job in line. -/
def score? : Place → Option Int
  | .waiting score => some score
  | .away _ _ _ => none

def leased : Place → Bool
  | .waiting _ => false
  | .away _ _ leased => leased

/-- The job runs, and no lease says that somebody is at it. -/
def Lapsed (place : Place) : Prop :=
  place.status = JobStatus.running.value ∧ place.leased = false

instance (place : Place) : Decidable place.Lapsed := inferInstanceAs (Decidable (_ ∧ _))

/-- A job in line is not running. -/
theorem not_lapsed_waiting (score : Int) : ¬ (waiting score).Lapsed :=
  fun lapsed => (by decide : JobStatus.queued.value ≠ JobStatus.running.value) lapsed.1

/-- A job whose status is that of the line is in line. -/
theorem eq_waiting {place : Place} (queued : place.status = JobStatus.queued.value) :
    ∃ score, place = .waiting score := by
  cases place with
  | waiting score => exact ⟨score, rfl⟩
  | away status elsewhere leased => exact absurd queued elsewhere

theorem score?_eq_none_iff (place : Place) :
    place.score? = none ↔ place.status ≠ JobStatus.queued.value := by
  cases place with
  | waiting score => exact iff_of_false (by simp [score?]) fun other => other rfl
  | away status elsewhere leased => exact iff_of_true rfl elsewhere

end Place

/-- What the queue knows of a job. -/
structure LeasedJob where
  jobType : String
  queueName : String
  priority : Int
  place : Place

/-- Whether the job passes the optional filters of `dequeue`. -/
def LeasedJob.matchesFilters (jobType queueName : Option String) (job : LeasedJob) : Bool :=
  (match jobType with
    | none => true
    | some wanted => job.jobType = wanted) &&
  (match queueName with
    | none => true
    | some wanted => job.queueName = wanted)

/-- What a caller of the queue is told. -/
inductive Report
  | jobId (jobId : String)
  | jobIds (jobIds : List String)
  | flag (value : Bool)
  | raised
  deriving DecidableEq

/-- The jobs of the queue by their identifiers. -/
structure LeaseQueue where
  jobs : Dict String LeasedJob

namespace LeaseQueue

def empty : LeaseQueue := ⟨∅⟩

/-- The job is put elsewhere; a job that is not stored is not. -/
def move (queue : LeaseQueue) (jobId : String) (place : Place) : LeaseQueue :=
  ⟨queue.jobs.modify jobId fun job => { job with place := place }⟩

/-- The job waits again, with the score of its priority and the time. -/
def requeue (queue : LeaseQueue) (jobId : String) (now : Int) : LeaseQueue :=
  ⟨queue.jobs.modify jobId fun job =>
    { job with place := .waiting (RedisQueueBackend.score job.priority now) }⟩

/-- The jobs in line, by descending rank. -/
def line (queue : LeaseQueue) : List String :=
  ((queue.jobs.entries.filterMap fun entry =>
    entry.2.place.score?.map fun score => (entry.1, score)).insertionSort
      RedisServer.RankLe).map Prod.fst

/-- The job passes the filters. -/
def admits (queue : LeaseQueue) (jobType queueName : Option String) (jobId : String) : Bool :=
  (queue.jobs.get? jobId).any (LeasedJob.matchesFilters jobType queueName)

/-- The first matching jobs in line, among the first three times the limit. -/
def dequeue (queue : LeaseQueue) (limit : Int) (jobType queueName : Option String) :
    List String :=
  ((queue.line.take (3 * limit.toNat)).filter (queue.admits jobType queueName)).take limit.toNat

def enqueue (queue : LeaseQueue) (job : Job) (now : Int) : LeaseQueue :=
  ⟨queue.jobs.set job.jobId
    ⟨job.jobType, job.queueName, job.priority,
      .waiting (RedisQueueBackend.score job.priority now)⟩⟩

/-- A job in line is taken, and leased for a time that is positive. -/
def claim (queue : LeaseQueue) (leaseTime : Int) (jobId : String) : Bool × LeaseQueue :=
  match (queue.jobs.get? jobId).map LeasedJob.place with
  | some (.waiting _) =>
      (decide (0 < leaseTime),
        queue.move jobId (.away JobStatus.running.value (by decide) (decide (0 < leaseTime))))
  | _ => (false, queue)

/-- The lease of a running job is renewed, if it has one. -/
def heartbeat (queue : LeaseQueue) (leaseTime : Int) (jobId : String) : Bool × LeaseQueue :=
  match (queue.jobs.get? jobId).map LeasedJob.place with
  | some (.away status elsewhere leased) =>
      if status = JobStatus.running.value then
        (true, queue.move jobId (.away status elsewhere (leased && decide (0 < leaseTime))))
      else (false, queue)
  | _ => (false, queue)

/-- A stored job is put in line, unless its status is unknown. -/
def release (queue : LeaseQueue) (jobId : String) (now : Int) : Report × LeaseQueue :=
  match queue.jobs.get? jobId with
  | none => (.flag false, queue)
  | some job =>
      if (JobStatus.ofValue? job.place.status).isSome then
        (.flag true, queue.requeue jobId now)
      else (.raised, queue)

/-- A stored job has the status, and one that has ended loses its lease. -/
def updateStatus (queue : LeaseQueue) (jobId status : String) : Bool × LeaseQueue :=
  match queue.jobs.get? jobId with
  | none => (false, queue)
  | some job =>
      if elsewhere : status ≠ JobStatus.queued.value then
        (true, queue.move jobId (.away status elsewhere
          (job.place.leased && decide (status ∉ RedisQueueBackend.terminal))))
      else (true, queue)

/-- The lease of the job runs out. -/
def lapse (queue : LeaseQueue) (jobId : String) : LeaseQueue :=
  match (queue.jobs.get? jobId).map LeasedJob.place with
  | some (.away status elsewhere _) => queue.move jobId (.away status elsewhere false)
  | _ => queue

/-- The job runs without a lease. -/
def Abandoned (queue : LeaseQueue) (jobId : String) : Prop :=
  ∃ job ∈ queue.jobs.get? jobId, job.place.Lapsed

instance (queue : LeaseQueue) (jobId : String) : Decidable (queue.Abandoned jobId) :=
  inferInstanceAs (Decidable (∃ job ∈ queue.jobs.get? jobId, job.place.Lapsed))

/-- The abandoned jobs among those that are scanned wait again. -/
def reap (now : Int) : List String → LeaseQueue → List String × LeaseQueue
  | [], queue => ([], queue)
  | jobId :: rest, queue =>
      if queue.Abandoned jobId then
        (jobId :: (reap now rest (queue.requeue jobId now)).1,
          (reap now rest (queue.requeue jobId now)).2)
      else reap now rest queue

/-- One operation, and what its caller is told. -/
def step (leaseTime : Int) (queue : LeaseQueue) :
    RedisQueueBackend.Op → Report × LeaseQueue
  | .call (.enqueue job now) => (.jobId job.jobId, queue.enqueue job now)
  | .call (.dequeue limit jobType queueName) =>
      (.jobIds (queue.dequeue limit jobType queueName), queue)
  | .call (.claim jobId _ _ _) => (queue.claim leaseTime jobId).map .flag id
  | .call (.release jobId now) => queue.release jobId now
  | .call (.heartbeat jobId _) => (queue.heartbeat leaseTime jobId).map .flag id
  | .call (.updateStatus jobId status _) => (queue.updateStatus jobId status).map .flag id
  | .call (.recordAttempt jobId _ _) => (.flag (queue.jobs.get? jobId).isSome, queue)
  | .reap scanned now => (reap now scanned queue).map .jobIds id
  | .lapse jobId => (.flag true, queue.lapse jobId)

variable (queue : LeaseQueue) (jobId other : String)

theorem get?_requeue (now : Int) :
    (queue.requeue jobId now).jobs.get? other =
      if other = jobId then (queue.jobs.get? jobId).map fun job =>
        { job with place := .waiting (RedisQueueBackend.score job.priority now) }
      else queue.jobs.get? other :=
  Dict.get?_modify ..

section Sweeping

variable {queue} {jobId} {now : Int}

theorem abandoned_requeue :
    (queue.requeue jobId now).Abandoned other ↔ other ≠ jobId ∧ queue.Abandoned other := by
  unfold Abandoned
  rw [get?_requeue]
  by_cases same : other = jobId
  · rw [if_pos same]
    refine iff_of_false ?_ fun different => different.1 same
    rintro ⟨job, found, lapsed⟩
    obtain ⟨_, _, rfl⟩ := Option.map_eq_some_iff.mp found
    exact Place.not_lapsed_waiting _ lapsed
  · rw [if_neg same]
    exact (and_iff_right same).symm

/-- A sweep reports the abandoned jobs that it scans, each once, and puts them and no
others back in line. -/
theorem reap_spec (now : Int) (scanned : List String) (queue : LeaseQueue) :
    (reap now scanned queue).1.Nodup ∧
      (∀ jobId, jobId ∈ (reap now scanned queue).1 ↔ jobId ∈ scanned ∧ queue.Abandoned jobId) ∧
      ∀ jobId, (reap now scanned queue).2.jobs.get? jobId =
        if jobId ∈ scanned ∧ queue.Abandoned jobId then (queue.requeue jobId now).jobs.get? jobId
        else queue.jobs.get? jobId := by
  induction scanned generalizing queue with
  | nil => simp [reap]
  | cons key rest ih =>
      unfold reap
      by_cases abandoned : queue.Abandoned key
      · -- from here on the job waits, so that a second visit passes it over
        obtain ⟨distinct, reported, placed⟩ := ih (queue.requeue key now)
        have visited : ∀ jobId, (jobId ∈ rest ∧ (queue.requeue key now).Abandoned jobId) ↔
            jobId ≠ key ∧ jobId ∈ rest ∧ queue.Abandoned jobId := by
          intro jobId
          rw [abandoned_requeue]
          tauto
        simp only [visited] at reported placed
        rw [if_pos abandoned]
        refine ⟨List.nodup_cons.mpr ⟨?_, distinct⟩, fun jobId => ?_, fun jobId => ?_⟩
        · rw [reported]
          exact fun found => found.1 rfl
        · rw [List.mem_cons, reported, List.mem_cons]
          by_cases same : jobId = key
          · simp [same, abandoned]
          · simp [same]
        · rw [placed]
          simp only [get?_requeue, List.mem_cons]
          by_cases same : jobId = key
          · simp [same, abandoned]
          · simp [same]
      · obtain ⟨distinct, reported, placed⟩ := ih queue
        have skipped : ∀ jobId, (jobId ∈ key :: rest ∧ queue.Abandoned jobId) ↔
            jobId ∈ rest ∧ queue.Abandoned jobId := by
          intro jobId
          rw [List.mem_cons]
          constructor
          · rintro ⟨rfl | later, found⟩
            · exact absurd found abandoned
            · exact ⟨later, found⟩
          · exact fun found => ⟨.inr found.1, found.2⟩
        rw [if_neg abandoned]
        simp only [skipped]
        exact ⟨distinct, reported, placed⟩

end Sweeping

section Line

variable {queue} {jobId}

/-- The members of the line with their scores. -/
theorem mem_waiting {score : Int} :
    (jobId, score) ∈ (queue.jobs.entries.filterMap fun entry =>
        entry.2.place.score?.map fun score => (entry.1, score)) ↔
      ((queue.jobs.get? jobId).bind fun job => job.place.score?) = some score := by
  rw [List.mem_filterMap, Option.bind_eq_some_iff]
  constructor
  · rintro ⟨entry, stored, shown⟩
    obtain ⟨score, scored, same⟩ := Option.map_eq_some_iff.mp shown
    obtain ⟨rfl, rfl⟩ := Prod.mk.inj same
    exact ⟨entry.2, (queue.jobs.mem_entries_iff _ _).mp stored, scored⟩
  · rintro ⟨job, stored, scored⟩
    refine ⟨(jobId, job), (queue.jobs.mem_entries_iff _ _).mpr stored, ?_⟩
    exact Option.map_eq_some_iff.mpr ⟨score, scored, rfl⟩

theorem nodup_waiting (queue : LeaseQueue) :
    ((queue.jobs.entries.filterMap fun entry =>
      entry.2.place.score?.map fun score => (entry.1, score)).map Prod.fst).Nodup := by
  refine List.Nodup.sublist ?_ queue.jobs.nodup
  rw [List.map_filterMap]
  induction queue.jobs.entries with
  | nil => exact .slnil
  | cons entry rest ih =>
      rw [List.map_cons, List.filterMap_cons]
      cases entry.2.place.score? with
      | none => exact .cons _ ih
      | some score => exact .cons_cons _ ih

/-- The jobs in line are those with a score. -/
theorem mem_line :
    jobId ∈ queue.line ↔ ∃ job ∈ queue.jobs.get? jobId, job.place.score?.isSome := by
  unfold line
  rw [List.mem_map]
  constructor
  · rintro ⟨⟨found, score⟩, member, rfl⟩
    rw [List.mem_insertionSort, mem_waiting] at member
    obtain ⟨job, stored, scored⟩ := Option.bind_eq_some_iff.mp member
    exact ⟨job, stored, Option.isSome_of_eq_some scored⟩
  · rintro ⟨job, stored, scored⟩
    obtain ⟨score, scored⟩ := Option.isSome_iff_exists.mp scored
    refine ⟨(jobId, score), ?_, rfl⟩
    rw [List.mem_insertionSort, mem_waiting]
    exact Option.bind_eq_some_iff.mpr ⟨job, stored, scored⟩

theorem nodup_line (queue : LeaseQueue) : queue.line.Nodup :=
  ((List.perm_insertionSort _ _).map Prod.fst).nodup_iff.mpr (nodup_waiting queue)

/-- A limit that is large enough lists the whole line. -/
theorem dequeue_all {limit : Int} (large : (queue.line.length : Int) ≤ limit) :
    queue.dequeue limit none none = queue.line := by
  have admitted : ∀ jobId ∈ queue.line, queue.admits none none jobId = true := by
    intro jobId member
    obtain ⟨job, stored, _⟩ := mem_line.mp member
    unfold admits
    rw [stored]
    rfl
  have read : queue.line.take (3 * limit.toNat) = queue.line := List.take_of_length_le (by omega)
  unfold dequeue
  rw [read, List.filter_eq_self.mpr admitted]
  exact List.take_of_length_le (by omega)

end Line

section Recovering

variable {queue} {now : Int} {scanned : List String}

/-- A sweep that misses no abandoned job leaves none, and the line has what it had and what
was abandoned. -/
theorem reap_all (complete : ∀ jobId, queue.Abandoned jobId → jobId ∈ scanned) :
    (∀ jobId, jobId ∈ (reap now scanned queue).1 ↔ queue.Abandoned jobId) ∧
      (∀ jobId, ¬ (reap now scanned queue).2.Abandoned jobId) ∧
      ∀ jobId, jobId ∈ (reap now scanned queue).2.line ↔
        jobId ∈ queue.line ∨ queue.Abandoned jobId := by
  obtain ⟨_, reported, placed⟩ := reap_spec now scanned queue
  have found : ∀ jobId, (jobId ∈ scanned ∧ queue.Abandoned jobId) ↔ queue.Abandoned jobId :=
    fun jobId => and_iff_right_of_imp (complete jobId)
  simp only [found] at reported placed
  refine ⟨reported, fun jobId => ?_, fun jobId => ?_⟩
  · unfold Abandoned
    rw [placed]
    by_cases abandoned : queue.Abandoned jobId
    · rw [if_pos abandoned]
      exact fun again => (abandoned_requeue jobId).mp again |>.1 rfl
    · rw [if_neg abandoned]
      exact abandoned
  · rw [mem_line, mem_line, placed]
    by_cases abandoned : queue.Abandoned jobId
    · obtain ⟨job, stored, _⟩ := id abandoned
      rw [if_pos abandoned, get?_requeue, if_pos rfl, stored]
      exact iff_of_true ⟨_, rfl, rfl⟩ (.inr abandoned)
    · rw [if_neg abandoned]
      exact (or_iff_left abandoned).symm

end Recovering

end LeaseQueue

end CloudDogJobs
