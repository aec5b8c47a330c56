import Mathlib.Data.List.Sort
import CloudDogJobs.Backend.Base

/-!
# In-memory queue backend

`backends/memory_backend.py`. Every method runs under one lock, so each is one
atomic step on the dictionary of jobs. The dictionary is keyed by the job's own
identifier, which no method changes.
-/

namespace CloudDogJobs

open Foundation

/-- The jobs by identifier, in insertion order. -/
structure MemoryQueueBackend where
  jobs : Dict String Job
  keyed : ∀ jobId job, jobs.get? jobId = some job → job.jobId = jobId

namespace MemoryQueueBackend

/-- A backend with no jobs. -/
def empty : MemoryQueueBackend := ⟨∅, fun _ _ found => by cases found⟩

/-- Change a stored job in place. -/
def mutate (backend : MemoryQueueBackend) (jobId : String) (change : Job → Job)
    (keeps : ∀ job, (change job).jobId = job.jobId) : MemoryQueueBackend where
  jobs := backend.jobs.modify jobId change
  keyed := by
    intro other job found
    rw [Dict.get?_modify] at found
    split at found
    · next same =>
        obtain ⟨before, stored, rfl⟩ := Option.map_eq_some_iff.mp found
        rw [keeps, same]
        exact backend.keyed _ _ stored
    · exact backend.keyed _ _ found

def enqueue (backend : MemoryQueueBackend) (job : Job) : String × MemoryQueueBackend :=
  (job.jobId,
    { jobs := backend.jobs.set job.jobId job
      keyed := by
        intro other stored found
        rw [Dict.get?_set] at found
        split at found
        · next same => rw [same, ← Option.some.inj found]
        · exact backend.keyed _ _ found })

/-- A backend with one job. -/
def holding (job : Job) : MemoryQueueBackend := (empty.enqueue job).2

/-- The queued jobs that pass the filters, in dispatch order. -/
def queued (backend : MemoryQueueBackend) (jobType queueName : Option String) : List Job :=
  (backend.jobs.values.filter fun job =>
    job.status = .queued && job.matchesFilters jobType queueName).insertionSort Job.DispatchLe

def dequeue (backend : MemoryQueueBackend) (limit : Int) (jobType queueName : Option String) :
    List Job :=
  slice limit (backend.queued jobType queueName)

def claim (backend : MemoryQueueBackend) (jobId hostId workerId : String) (now : Int) :
    Bool × MemoryQueueBackend :=
  match backend.jobs.get? jobId with
  | none => (false, backend)
  | some job =>
      if job.status ≠ .queued then (false, backend)
      else (true, backend.mutate jobId
        (fun job => { job with
          status := .running
          claimedBy := some (hostId ++ ":" ++ workerId)
          updatedAt := now })
        fun _ => rfl)

/-- The shape shared by the methods that change a stored job and report whether
there was one. -/
def touch (backend : MemoryQueueBackend) (jobId : String) (change : Job → Job)
    (keeps : ∀ job, (change job).jobId = job.jobId) : Bool × MemoryQueueBackend :=
  match backend.jobs.get? jobId with
  | none => (false, backend)
  | some _ => (true, backend.mutate jobId change keeps)

def release (backend : MemoryQueueBackend) (jobId : String) (now : Int) :
    Bool × MemoryQueueBackend :=
  backend.touch jobId
    (fun job => { job with status := .queued, claimedBy := none, updatedAt := now }) fun _ => rfl

def heartbeat (backend : MemoryQueueBackend) (jobId : String) (now : Int) :
    Bool × MemoryQueueBackend :=
  backend.touch jobId (fun job => { job with updatedAt := now }) fun _ => rfl

def get (backend : MemoryQueueBackend) (jobId : String) : Option Job := backend.jobs.get? jobId

/-- The text is decoded only when the job is present. -/
def updateStatus (backend : MemoryQueueBackend) (jobId status : String) (now : Int) :
    Except PyError Bool × MemoryQueueBackend :=
  match backend.jobs.get? jobId with
  | none => (.ok false, backend)
  | some _ =>
      match JobStatus.parse status with
      | .error error => (.error error, backend)
      | .ok parsed => (.ok true, backend.mutate jobId
          (fun job => { job with status := parsed, updatedAt := now }) fun _ => rfl)

def recordAttempt (backend : MemoryQueueBackend) (jobId : String) (error : Option String)
    (now : Int) : Bool × MemoryQueueBackend :=
  backend.touch jobId
    (fun job => { job with
      attempt := job.attempt + 1
      lastError := match error with
        | none => job.lastError
        | some message => some (Dict.empty.set "message" (.str message))
      updatedAt := now })
    fun _ => rfl

def updateProgress (backend : MemoryQueueBackend) (jobId : String) (progress : Dict String Value)
    (now : Int) : Bool × MemoryQueueBackend :=
  backend.touch jobId (fun job => { job with progress := some progress, updatedAt := now })
    fun _ => rfl

def storeResult (backend : MemoryQueueBackend) (jobId : String) (result : ResultData)
    (now : Int) : Bool × MemoryQueueBackend :=
  backend.touch jobId (fun job => { job with resultRef := some result.toValue, updatedAt := now })
    fun _ => rfl

def allJobs (backend : MemoryQueueBackend) : List Job := backend.jobs.values

def getQueueStatus (backend : MemoryQueueBackend) : Dict String Nat :=
  .counter (backend.jobs.values.map fun job => job.status.value)

/-- What the scheduling layers see of a stored job. -/
def view (backend : MemoryQueueBackend) (jobId : String) : Option Ticket :=
  (backend.get jobId).map Job.ticket

/-- The status of a stored job. -/
def status? (backend : MemoryQueueBackend) (jobId : String) : Option JobStatus :=
  (backend.view jobId).map Ticket.status

/-- The memory backend as an implementation of the contract. -/
def contract : QueueBackend MemoryQueueBackend where
  enqueue job _ backend := let (jobId, next) := backend.enqueue job; (.ok jobId, next)
  dequeue limit jobType queueName backend := .ok (backend.dequeue limit jobType queueName)
  claim jobId hostId workerId now backend :=
    let (claimed, next) := backend.claim jobId hostId workerId now; (.ok claimed, next)
  release jobId now backend := let (found, next) := backend.release jobId now; (.ok found, next)
  heartbeat jobId now backend :=
    let (found, next) := backend.heartbeat jobId now; (.ok found, next)
  get jobId backend := .ok (backend.get jobId)
  updateStatus jobId status now backend := backend.updateStatus jobId status now
  recordAttempt jobId error now backend :=
    let (found, next) := backend.recordAttempt jobId error now; (.ok found, next)

/-- The memory backend with its administrative reads. -/
def adminContract : AdminBackend MemoryQueueBackend where
  toQueueBackend := contract
  allJobs backend := .ok backend.allJobs
  getQueueStatus backend := .ok backend.getQueueStatus

section Specifications

variable (backend : MemoryQueueBackend)

theorem get_mutate (jobId other : String) (change : Job → Job)
    (keeps : ∀ job, (change job).jobId = job.jobId) :
    (backend.mutate jobId change keeps).get other =
      if other = jobId then (backend.get jobId).map change else backend.get other :=
  Dict.get?_modify _ _ _ _

theorem get_enqueue (job : Job) (other : String) :
    (backend.enqueue job).2.get other =
      if other = job.jobId then some job else backend.get other :=
  Dict.get?_set _ _ _ _

theorem get_touch (jobId other : String) (change : Job → Job)
    (keeps : ∀ job, (change job).jobId = job.jobId) :
    (backend.touch jobId change keeps).2.get other =
      if other = jobId then (backend.get jobId).map change else backend.get other := by
  unfold touch
  cases stored : backend.jobs.get? jobId with
  | none =>
      by_cases same : other = jobId
      · subst same
        simp only [get, stored, ↓reduceIte, Option.map_none]
      · simp only [same, ↓reduceIte]
  | some job => exact backend.get_mutate jobId other change keeps

theorem touch_fst (jobId : String) (change : Job → Job)
    (keeps : ∀ job, (change job).jobId = job.jobId) :
    (backend.touch jobId change keeps).1 = (backend.get jobId).isSome := by
  unfold touch get
  cases backend.jobs.get? jobId <;> rfl

/-- A job is dequeued exactly when it is stored, queued and passes the filters,
as far as the limit allows. -/
theorem mem_queued (jobType queueName : Option String) (job : Job) :
    job ∈ backend.queued jobType queueName ↔
      backend.get job.jobId = some job ∧ job.status = .queued ∧
        job.matchesFilters jobType queueName = true := by
  unfold queued
  rw [List.mem_insertionSort, List.mem_filter, Dict.mem_values_iff, Bool.and_eq_true,
    decide_eq_true_eq]
  constructor
  · rintro ⟨⟨jobId, stored⟩, kept⟩
    refine ⟨?_, kept⟩
    rw [backend.keyed _ _ stored]
    exact stored
  · rintro ⟨stored, kept⟩
    exact ⟨⟨_, stored⟩, kept⟩

theorem view_mutate (jobId other : String) (change : Job → Job)
    (keeps : ∀ job, (change job).jobId = job.jobId) :
    (backend.mutate jobId change keeps).view other =
      if other = jobId then (backend.get jobId).map fun job => (change job).ticket
      else backend.view other := by
  unfold view
  rw [get_mutate]
  split
  · rw [Option.map_map]
    rfl
  · rfl

/-- `claim` succeeds exactly on a queued job. -/
theorem claim_fst (jobId hostId workerId : String) (now : Int) :
    (backend.claim jobId hostId workerId now).1 = true ↔
      backend.status? jobId = some .queued := by
  unfold claim status? view get
  cases stored : backend.jobs.get? jobId with
  | none => simp
  | some job => by_cases waiting : job.status = .queued <;> simp [waiting, Job.ticket]

/-- A granted claim moves the job to running; nothing else changes. -/
theorem view_claim (jobId hostId workerId other : String) (now : Int) :
    (backend.claim jobId hostId workerId now).2.view other =
      if other = jobId ∧ (backend.claim jobId hostId workerId now).1 = true
      then (backend.view jobId).map fun ticket => ticket.withStatus .running
      else backend.view other := by
  unfold claim
  cases stored : backend.jobs.get? jobId with
  | none => simp
  | some job =>
      by_cases waiting : job.status = .queued
      · simp only [waiting, ne_eq, not_true_eq_false, ↓reduceIte, and_true]
        rw [view_mutate]
        simp only [view, Option.map_map]
        rfl
      · simp [waiting]

/-- `updateStatus` with a status text rewrites the status of a stored job. -/
theorem view_updateStatus (jobId other : String) (status : JobStatus) (now : Int) :
    (backend.updateStatus jobId status.value now).2.view other =
      if other = jobId then (backend.view jobId).map fun ticket => ticket.withStatus status
      else backend.view other := by
  unfold updateStatus
  cases stored : backend.jobs.get? jobId with
  | none =>
      by_cases same : other = jobId
      · subst same
        simp [view, get, stored]
      · simp [same]
  | some job =>
      simp only [JobStatus.parse_value]
      rw [view_mutate]
      simp only [view, Option.map_map]
      rfl

theorem updateStatus_fst (jobId : String) (status : JobStatus) (now : Int) :
    (backend.updateStatus jobId status.value now).1 = .ok (backend.view jobId).isSome := by
  unfold updateStatus view get
  cases stored : backend.jobs.get? jobId with
  | none => rfl
  | some job => simp

theorem view_enqueue (job : Job) (other : String) :
    (backend.enqueue job).2.view other =
      if other = job.jobId then some job.ticket else backend.view other := by
  unfold view
  rw [get_enqueue]
  split <;> rfl

/-- A change that the scheduling layers do not see leaves the view alone. -/
theorem view_touch (jobId other : String) (change : Job → Job)
    (keeps : ∀ job, (change job).jobId = job.jobId)
    (unseen : ∀ job, (change job).ticket = job.ticket) :
    (backend.touch jobId change keeps).2.view other = backend.view other := by
  unfold view
  rw [get_touch]
  split
  · next same =>
      subst same
      rw [Option.map_map]
      congr 1
      funext job
      exact unseen job
  · rfl

/-- The memory backend does what the worker layer relies on. -/
theorem lawful : contract.Lawful view where
  get jobId backend := ⟨_, rfl, rfl⟩
  dequeue limit jobType queueName backend := by
    refine ⟨_, rfl, ?_⟩
    intro job member
    obtain ⟨stored, waiting, _⟩ := (backend.mem_queued jobType queueName job).mp
      (mem_of_mem_slice member)
    exact ⟨waiting, by rw [view, stored]; rfl⟩
  dequeue_length limit jobType queueName backend jobs returned wide := by
    have same : backend.dequeue limit jobType queueName = jobs := Except.ok.inj returned
    rw [← same, dequeue, slice, if_pos wide]
    exact List.length_take_le _ _
  enqueue_self job now backend := by
    refine .inr ⟨job.ticket, ?_, rfl, rfl, .inl rfl⟩
    exact (backend.view_enqueue job job.jobId).trans (if_pos rfl)
  enqueue_other job now backend other different :=
    (backend.view_enqueue job other).trans (if_neg different)
  claim_returns jobId hostId workerId now backend := ⟨_, rfl⟩
  claim_queued jobId hostId workerId now backend granted :=
    (backend.claim_fst jobId hostId workerId now).mp (Except.ok.inj granted)
  view_claim jobId hostId workerId now backend other := by
    have changed := backend.view_claim jobId hostId workerId other now
    simpa only [contract, Except.ok.injEq] using changed
  heartbeat_returns jobId now backend := ⟨_, rfl⟩
  view_heartbeat jobId now backend other := backend.view_touch jobId other _ _ fun _ => rfl
  updateStatus_returns jobId status now backend := backend.updateStatus_fst jobId status now
  view_updateStatus jobId status now backend other :=
    backend.view_updateStatus jobId other status now

theorem mem_allJobs (job : Job) :
    job ∈ backend.allJobs ↔ backend.get job.jobId = some job := by
  rw [allJobs, Dict.mem_values_iff]
  constructor
  · rintro ⟨jobId, stored⟩
    rw [backend.keyed _ _ stored]
    exact stored
  · intro stored
    exact ⟨_, stored⟩

/-- The stored jobs carry the identifiers they are stored under, in order. -/
theorem map_jobId_allJobs : backend.allJobs.map Job.jobId = backend.jobs.keys := by
  rw [allJobs, Dict.values, Dict.keys, List.map_map]
  apply List.map_congr_left
  rintro ⟨jobId, job⟩ member
  exact backend.keyed _ _ ((backend.jobs.mem_entries_iff jobId job).mp member)

theorem admin_lawful : adminContract.Lawful view where
  toLawful := lawful
  allJobs backend := by
    refine ⟨_, rfl, ?_, ?_⟩
    · rw [map_jobId_allJobs]
      exact backend.jobs.nodup
    · intro job
      rw [mem_allJobs]
      exact ⟨fun stored => congrArg Except.ok stored, fun stored => Except.ok.inj stored⟩

end Specifications

end MemoryQueueBackend

end CloudDogJobs
