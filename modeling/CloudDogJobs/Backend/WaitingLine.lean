import CloudDogJobs.Backend.Memory
import CloudDogJobs.Foundation.StableSort

/-!
# The waiting line of the memory backend

The queued jobs of a queue, in dispatch order, as a line that jobs join and leave.
A write to a stored job that is no longer queued takes that job out of the line
and moves no other; a new job goes behind the jobs that it does not precede.
-/

namespace CloudDogJobs

open Foundation

namespace MemoryQueueBackend

variable (backend : MemoryQueueBackend)

theorem ext_jobs {first second : MemoryQueueBackend} (same : first.jobs = second.jobs) :
    first = second := by
  cases first
  cases second
  cases same
  rfl

/-- A change in place of a stored job stores the changed job. -/
theorem mutate_of_get {jobId : String} {job : Job} (stored : backend.get jobId = some job)
    (change : Job → Job) (keeps : ∀ job, (change job).jobId = job.jobId) :
    backend.mutate jobId change keeps = (backend.enqueue (change job)).2 := by
  have named : (change job).jobId = jobId := (keeps job).trans (backend.keyed _ _ stored)
  apply ext_jobs
  show backend.jobs.modify jobId change = backend.jobs.set (change job).jobId (change job)
  rw [named]
  apply Dict.ext_get?
  · rw [Dict.keys_set_of_get? stored, Dict.keys, Dict.keys, Dict.modify, List.map_map]
    apply List.map_congr_left
    intro entry _
    dsimp only [Function.comp_apply]
    split <;> rfl
  · intro other
    rw [Dict.get?_modify, Dict.get?_set, show backend.jobs.get? jobId = some job from stored]
    rfl

theorem claim_of_get {jobId : String} {job : Job} (stored : backend.get jobId = some job)
    (waiting : job.status = .queued) (hostId workerId : String) (now : Int) :
    backend.claim jobId hostId workerId now =
      (true, (backend.enqueue { job with
        status := .running
        claimedBy := some (hostId ++ ":" ++ workerId)
        updatedAt := now }).2) := by
  unfold claim
  rw [show backend.jobs.get? jobId = some job from stored]
  simp only [waiting, ne_eq, not_true_eq_false, ↓reduceIte]
  rw [backend.mutate_of_get stored]

theorem heartbeat_of_get {jobId : String} {job : Job} (stored : backend.get jobId = some job)
    (now : Int) :
    backend.heartbeat jobId now = (true, (backend.enqueue { job with updatedAt := now }).2) := by
  unfold heartbeat touch
  rw [show backend.jobs.get? jobId = some job from stored]
  dsimp only
  rw [backend.mutate_of_get stored]

theorem updateStatus_of_get {jobId : String} {job : Job} (stored : backend.get jobId = some job)
    (status : JobStatus) (now : Int) :
    backend.updateStatus jobId status.value now =
      (.ok true, (backend.enqueue { job with status := status, updatedAt := now }).2) := by
  unfold updateStatus
  rw [show backend.jobs.get? jobId = some job from stored]
  simp only [JobStatus.parse_value]
  rw [backend.mutate_of_get stored]

theorem get_enqueue_self (job : Job) : (backend.enqueue job).2.get job.jobId = some job := by
  rw [get_enqueue, if_pos rfl]

theorem get_enqueue_eq_update (job : Job) :
    (backend.enqueue job).2.get = Function.update backend.get job.jobId (some job) := by
  funext other
  rw [get_enqueue, Function.update_apply]

/-- The second of two writes to one job stays. -/
theorem enqueue_enqueue (first second : Job) (same : first.jobId = second.jobId) :
    ((backend.enqueue first).2.enqueue second).2 = (backend.enqueue second).2 := by
  apply ext_jobs
  show (backend.jobs.set first.jobId first).set second.jobId second = _
  rw [same]
  exact backend.jobs.set_set _ _ _

/-- The identifiers in the line are distinct. -/
theorem nodup_queued (jobType queueName : Option String) :
    ((backend.queued jobType queueName).map Job.jobId).Nodup := by
  unfold queued
  refine (((List.perm_insertionSort _ _).map Job.jobId).nodup_iff).mpr ?_
  have distinct : (backend.jobs.values.map Job.jobId).Nodup := by
    rw [← allJobs, map_jobId_allJobs]
    exact backend.jobs.nodup
  exact distinct.sublist (List.filter_sublist.map _)

/-- Whoever is removed from the line by its identifier was at the head of it. -/
theorem filter_queued_of_cons {jobType queueName : Option String} {head : Job} {rest : List Job}
    (line : backend.queued jobType queueName = head :: rest) :
    (backend.queued jobType queueName).filter (fun job => job.jobId ≠ head.jobId) = rest := by
  have distinct := backend.nodup_queued jobType queueName
  rw [line, List.map_cons, List.nodup_cons] at distinct
  rw [line, List.filter_cons, if_neg (by simp)]
  apply List.filter_eq_self.mpr
  intro job member
  refine decide_eq_true fun same => distinct.1 ?_
  exact List.mem_map.mpr ⟨job, member, same⟩

/-- A write that leaves a stored job not queued takes it out of the line. -/
theorem queued_enqueue_stored (job : Job) {stored : Job}
    (found : backend.get job.jobId = some stored)
    (ended : job.status ≠ .queued) (jobType queueName : Option String) :
    (backend.enqueue job).2.queued jobType queueName =
      (backend.queued jobType queueName).filter fun other => other.jobId ≠ job.jobId := by
  have values : (backend.enqueue job).2.jobs.values =
      backend.jobs.values.map fun other => if other.jobId = job.jobId then job else other := by
    have written := backend.mutate_of_get found
      (fun other => { job with jobId := other.jobId }) fun _ => rfl
    have same : ({ job with jobId := stored.jobId } : Job) = job := by
      rw [backend.keyed _ _ found]
    rw [same] at written
    rw [← written]
    simp only [mutate, Dict.modify, Dict.values, List.map_map]
    apply List.map_congr_left
    intro entry member
    have named := backend.keyed _ _ ((backend.jobs.mem_entries_iff entry.1 entry.2).mp member)
    simp only [Function.comp_apply, named]
    split
    · next equal => simp [equal]
    · rfl
  unfold queued
  rw [values, filter_insertionSort, List.filter_map, List.filter_filter]
  congr 1
  rw [List.map_congr_left (g := id), List.map_id]
  · apply List.filter_congr
    intro other _
    by_cases same : other.jobId = job.jobId
    · simp [same, ended]
    · simp [same]
  · intro other member
    have kept := (List.mem_filter.mp member).2
    by_cases same : other.jobId = job.jobId
    · simp [same, ended] at kept
    · simp [same]

/-- A new job is stored behind the others. -/
theorem values_enqueue_fresh {job : Job} (absent : backend.get job.jobId = none) :
    (backend.enqueue job).2.jobs.values = backend.jobs.values ++ [job] := by
  have missing : job.jobId ∉ backend.jobs.entries.map Prod.fst := fun member => by
    have present := (backend.jobs.mem_keys_iff job.jobId).mp member
    rw [show backend.jobs.get? job.jobId = none from absent] at present
    cases present
  show (Dict.assign job.jobId job backend.jobs.entries).map Prod.snd = _
  rw [Dict.assign_of_not_mem _ _ _ missing, List.map_append]
  rfl

/-- A new job joins the line behind the jobs that it does not precede. -/
theorem queued_enqueue_fresh {job : Job} (absent : backend.get job.jobId = none)
    (jobType queueName : Option String) :
    (backend.enqueue job).2.queued jobType queueName =
      if job.status = .queued ∧ job.matchesFilters jobType queueName = true then
        settle Job.DispatchLe job (backend.queued jobType queueName)
      else backend.queued jobType queueName := by
  unfold queued
  rw [backend.values_enqueue_fresh absent, List.filter_append]
  split
  · next joins =>
      rw [← insertionSort_append_singleton]
      congr 2
      simp [joins.1, joins.2]
  · next stays =>
      rw [List.filter_cons, List.filter_nil, if_neg, List.append_nil]
      simpa using stays

end MemoryQueueBackend

end CloudDogJobs
