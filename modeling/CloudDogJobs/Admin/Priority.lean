import CloudDogJobs.Admin.Service
import CloudDogJobs.Backend.Memory
import CloudDogJobs.Backend.RedisLegibility
import CloudDogJobs.Storage.Sequential

/-!
# Changing a priority

`AdminService.update_job` sets the priority of the job that `get` returned and then
releases the job. In the memory backend the returned object is the stored job; in the
SQL and Redis backends it is a copy, and what is set on it is lost. In all three the
release queues the job and drops its claimant, whatever it was doing.
-/

namespace CloudDogJobs

open Foundation

namespace AdminService

variable {σ : Type} (admin : AdminService) (jobId : String) (priority now : Int)

/-- If the update reports success, the job has the priority, and its status, its claimant
and every other job are as before. -/
def ChangesPriorityOnly (backend : QueueBackend σ) (job : Job) (before : σ)
    (outcome : Except PyError Bool × σ) : Prop :=
  outcome.1 = .ok true →
    (∃ current, backend.get jobId outcome.2 = .ok (some current) ∧
      current.priority = priority ∧ current.status = job.status ∧
      current.claimedBy = job.claimedBy) ∧
    ∀ other, other ≠ jobId → backend.get other outcome.2 = backend.get other before

/-- What a release leaves behind: a queued job without a claimant, and the other jobs as
they were. -/
structure Released (backend : QueueBackend σ) (kept : Int) (before after : σ) : Prop where
  shown : ∃ current, backend.get jobId after = .ok (some current) ∧
    current.priority = kept ∧ current.status = .queued ∧ current.claimedBy = none
  others : ∀ other, other ≠ jobId → backend.get other after = backend.get other before

variable {jobId priority now}

/-- On a backend whose release keeps a priority, the update changes only the priority when
the job was queued and unclaimed and the priority kept is the one asked for. -/
theorem changesPriorityOnly_iff {backend : QueueBackend σ} {assign : String → Int → σ → σ}
    {job : Job} {before after : σ} {kept : Int}
    (stored : backend.get jobId before = .ok (some job))
    (ran : backend.release jobId now (assign jobId priority before) = (.ok true, after))
    (released : Released jobId backend kept before after) :
    ChangesPriorityOnly jobId priority backend job before
        (admin.updateJob backend jobId now assign (some priority) before) ↔
      (admin.permits "jobs.update" = true →
        job.status = .queued ∧ job.claimedBy = none ∧ kept = priority) := by
  obtain ⟨⟨current, shown, ranked, queued, unclaimed⟩, others⟩ := released
  unfold updateJob guarded
  by_cases permitted : admin.permits "jobs.update" = true
  · rw [if_pos permitted]
    simp only [stored, ran, ChangesPriorityOnly, permitted, true_implies]
    constructor
    · intro changes
      obtain ⟨⟨read, found, wanted, status, claimant⟩, _⟩ := changes rfl
      obtain rfl : current = read := Option.some.inj (Except.ok.inj (shown.symm.trans found))
      exact ⟨status.symm.trans queued, claimant.symm.trans unclaimed, ranked.symm.trans wanted⟩
    · intro plain _
      obtain ⟨waiting, free, same⟩ := plain
      exact ⟨⟨current, shown, ranked.trans same, queued.trans waiting.symm,
        unclaimed.trans free.symm⟩, others⟩
  · rw [if_neg permitted]
    refine iff_of_true ?_ fun granted => absurd granted permitted
    intro raised
    cases raised

/-! ## The backends -/

/-- The object that the memory backend returned is the stored job. -/
def assignMemory (jobId : String) (priority : Int) (backend : MemoryQueueBackend) :
    MemoryQueueBackend :=
  backend.mutate jobId (fun job => { job with priority := priority }) fun _ => rfl

/-- A copy is changed, and nothing is stored. -/
def assignCopy (_ : String) (_ : Int) (store : σ) : σ := store

theorem memory_release {backend : MemoryQueueBackend} {job : Job}
    (stored : backend.get jobId = some job) :
    ∃ after, MemoryQueueBackend.contract.release jobId now (assignMemory jobId priority backend) =
        (.ok true, after) ∧
      Released jobId MemoryQueueBackend.contract priority backend after := by
  have assigned : ∀ other, (assignMemory jobId priority backend).get other =
      if other = jobId then some { job with priority := priority } else backend.get other := by
    intro other
    rw [assignMemory, MemoryQueueBackend.get_mutate, stored]
    rfl
  have found : ((assignMemory jobId priority backend).get jobId).isSome = true := by
    rw [assigned, if_pos rfl]
    rfl
  refine ⟨((assignMemory jobId priority backend).release jobId now).2, ?_, ?_, ?_⟩
  · refine congrArg (fun flag => (Except.ok flag,
      ((assignMemory jobId priority backend).release jobId now).2)) ?_
    exact ((assignMemory jobId priority backend).touch_fst jobId _ _).trans found
  · refine ⟨{ job with priority := priority, status := .queued, claimedBy := none,
                       updatedAt := now }, ?_, rfl, rfl, rfl⟩
    refine congrArg Except.ok ?_
    refine (MemoryQueueBackend.get_touch _ jobId jobId _ _).trans ?_
    rw [if_pos rfl, assigned, if_pos rfl]
    rfl
  · intro other different
    refine congrArg Except.ok ?_
    refine (MemoryQueueBackend.get_touch _ jobId other _ _).trans ?_
    rw [if_neg different, assigned, if_neg different]

/-- A row that decodes still does once it is released. -/
theorem rowToJob_released {loads : String → Except PyError Value} {row : JobRow} {job : Job}
    (decoded : rowToJob loads row = .ok job) (now : Int) :
    rowToJob loads
        { row with status := JobStatus.queued.value, claimedBy := none, updatedAt := now } =
      .ok { job with status := .queued, claimedBy := none, updatedAt := now } := by
  unfold rowToJob at decoded ⊢
  obtain ⟨payload, loaded, decoded⟩ := exists_of_bind_ok decoded
  obtain ⟨metadata, described, decoded⟩ := exists_of_bind_ok decoded
  obtain ⟨status, _, decoded⟩ := exists_of_bind_ok decoded
  obtain ⟨attempt, tried, decoded⟩ := exists_of_bind_ok decoded
  obtain ⟨maxAttempts, limited, decoded⟩ := exists_of_bind_ok decoded
  obtain rfl := Except.ok.inj decoded
  simp only [loaded, described, JobStatus.parse_value, tried, limited, ok_bind]
  rfl

theorem sql_release (backend : SQLQueueBackend) {table : JobTable} {job : Job}
    (stored : backend.contract.get jobId table = .ok (some job)) :
    ∃ after, backend.contract.release jobId now (assignCopy jobId priority table) =
        (.ok true, after) ∧
      Released jobId backend.contract job.priority table after := by
  have rows := (table.update_always jobId (fun row => { row with
    status := JobStatus.queued.value
    claimedBy := if true then none else row.claimedBy
    updatedAt := now }) fun _ => rfl).2
  have ran := SQLQueueBackend.run_updateStatus table jobId now JobStatus.queued.value
  rw [SQLQueueBackend.contract_get] at stored
  cases found : table.rows.get? jobId with
  | none =>
      rw [found] at stored
      cases stored
  | some row =>
      rw [found] at stored ran rows
      have decoded : rowToJob backend.repo.loads row = .ok job := by
        cases read : rowToJob backend.repo.loads row with
        | error error =>
            rw [SQLQueueBackend.readRow, read] at stored
            cases stored
        | ok other =>
            rw [SQLQueueBackend.readRow, read] at stored
            exact congrArg Except.ok (Option.some.inj (Except.ok.inj stored))
      refine ⟨_, ran, ?_, ?_⟩
      · refine ⟨{ job with status := .queued, claimedBy := none, updatedAt := now }, ?_,
          rfl, rfl, rfl⟩
        rw [SQLQueueBackend.contract_get]
        refine (congrArg (SQLQueueBackend.readRow backend.repo.loads) (rows jobId)).trans ?_
        rw [if_pos rfl]
        exact congrArg (fun read : Except PyError Job => read.map some)
          (rowToJob_released decoded now)
      · intro other different
        rw [SQLQueueBackend.contract_get, SQLQueueBackend.contract_get]
        refine congrArg (SQLQueueBackend.readRow backend.repo.loads) ((rows other).trans ?_)
        rw [if_neg different]

/-- A hash that decodes still does once it is released, with its priority. -/
theorem hashToJob_released {backend : RedisQueueBackend} {data : Dict String String} {job : Job}
    (reads : RedisQueueBackend.ReadsTime backend.codec now)
    (decoded : backend.hashToJob data = .ok job) :
    ∃ current, backend.hashToJob (data.update (.ofList [("status", JobStatus.queued.value),
        ("claimed_by", ""), ("updated_at", backend.codec.isoformat now)])) = .ok current ∧
      current.priority = job.priority ∧ current.status = .queued ∧ current.claimedBy = none := by
  obtain ⟨legible, ⟨text, ranked, parsed⟩, _⟩ := backend.legible_of_hashToJob decoded
  obtain ⟨current, read⟩ := (legible.update (RedisQueueBackend.sound_release reads)).hashToJob
  obtain ⟨_, ⟨written, stored, counted⟩, claimant⟩ := backend.legible_of_hashToJob read
  have stated := (backend.fields_of_hashToJob read).2
  rw [Dict.get?_update] at stored stated
  refine ⟨current, read, ?_, ?_, ?_⟩
  · have same : data.get? "priority" = some written := stored
    rw [ranked, Option.some.injEq] at same
    rw [← same, parsed] at counted
    exact (Except.ok.inj counted).symm
  · have same : some JobStatus.queued.value = some current.status.value := stated
    exact (JobStatus.value_injective (Option.some.inj same)).symm
  · rw [claimant]
    unfold RedisQueueBackend.optional
    rw [Dict.get?_update]
    rfl

theorem redis_release (backend : RedisQueueBackend) {server : RedisServer} {job : Job}
    (reads : RedisQueueBackend.ReadsTime backend.codec now)
    (stored : backend.contract.get jobId server = .ok (some job)) :
    ∃ after, backend.contract.release jobId now (assignCopy jobId priority server) =
        (.ok true, after) ∧
      Released jobId backend.contract job.priority server after := by
  have read : ∀ other reached, backend.contract.get other reached = backend.read reached other :=
    fun other reached => congrArg Prod.fst (backend.run_get reached other)
  rw [read] at stored
  obtain ⟨filled, decoded⟩ := RedisQueueBackend.decoded_of_read stored
  have ran := backend.run_release server jobId now
  rw [stored] at ran
  have hashes : ∀ other, (backend.released server jobId now job).hashes.getD other ∅ =
      if other = jobId then (server.hashes.getD jobId ∅).update (.ofList
        [("status", JobStatus.queued.value), ("claimed_by", ""),
          ("updated_at", backend.codec.isoformat now)])
      else server.hashes.getD other ∅ :=
    fun other => Dict.getD_set _ _ _ _ _
  refine ⟨_, ran, ?_, ?_⟩
  · obtain ⟨current, shown, fields⟩ := hashToJob_released reads decoded
    refine ⟨current, ?_, fields⟩
    rw [read]
    unfold RedisQueueBackend.read
    rw [hashes, if_pos rfl, shown]
    have kept := RedisQueueBackend.not_isEmpty_of_hashToJob shown
    rw [kept]
    rfl
  · intro other different
    rw [read, read]
    unfold RedisQueueBackend.read
    rw [hashes, if_neg different]

/-- **When an update changes only the priority.** For every stored job and every priority,
an update that reports success leaves the job with the priority and with its status and
claimant, and every other job as it was, exactly when the caller is not permitted, or the
job is queued and unclaimed and, in the SQL and Redis backends, has the priority
already. -/
theorem update_changes_priority_only_iff (admin : AdminService) (jobId : String)
    (priority now : Int) :
    (∀ (store : MemoryQueueBackend) (job : Job), store.get jobId = some job →
      (ChangesPriorityOnly jobId priority MemoryQueueBackend.contract job store
          (admin.updateJob MemoryQueueBackend.contract jobId now assignMemory (some priority)
            store) ↔
        (admin.permits "jobs.update" = true →
          job.status = .queued ∧ job.claimedBy = none))) ∧
    (∀ (backend : SQLQueueBackend) (table : JobTable) (job : Job),
      backend.contract.get jobId table = .ok (some job) →
      (ChangesPriorityOnly jobId priority backend.contract job table
          (admin.updateJob backend.contract jobId now assignCopy (some priority) table) ↔
        (admin.permits "jobs.update" = true →
          job.status = .queued ∧ job.claimedBy = none ∧ job.priority = priority))) ∧
    (∀ (backend : RedisQueueBackend) (server : RedisServer) (job : Job),
      RedisQueueBackend.ReadsTime backend.codec now →
      backend.contract.get jobId server = .ok (some job) →
      (ChangesPriorityOnly jobId priority backend.contract job server
          (admin.updateJob backend.contract jobId now assignCopy (some priority) server) ↔
        (admin.permits "jobs.update" = true →
          job.status = .queued ∧ job.claimedBy = none ∧ job.priority = priority))) := by
  refine ⟨?_, ?_, ?_⟩
  · intro store job stored
    obtain ⟨after, ran, released⟩ := memory_release stored
    have exact := admin.changesPriorityOnly_iff (congrArg Except.ok stored) ran released
    simpa only [and_true] using exact
  · intro backend table job stored
    obtain ⟨after, ran, released⟩ := sql_release backend stored
    exact admin.changesPriorityOnly_iff stored ran released
  · intro backend server job reads stored
    obtain ⟨after, ran, released⟩ := redis_release backend reads stored
    exact admin.changesPriorityOnly_iff stored ran released

/-- A queued job gets its priority. -/
theorem queued_job_gets_priority :
    ChangesPriorityOnly "job" 5 MemoryQueueBackend.contract
      (reportJob .queued) (.holding (reportJob .queued))
      ((AdminService.mk none).updateJob MemoryQueueBackend.contract "job" 1 assignMemory (some 5)
        (.holding (reportJob .queued))) :=
  ((update_changes_priority_only_iff ⟨none⟩ "job" 5 1).1 (.holding (reportJob .queued)) _ rfl).mpr
    fun _ => ⟨rfl, rfl⟩

/-- A job that has succeeded is queued again by a change of its priority. -/
theorem update_requeues_succeeded_job :
    ¬ ∀ (admin : AdminService) (jobId : String) (priority now : Int) (store : MemoryQueueBackend)
      (job : Job), store.get jobId = some job →
        ChangesPriorityOnly jobId priority MemoryQueueBackend.contract job store
          (admin.updateJob MemoryQueueBackend.contract jobId now assignMemory (some priority)
            store) := by
  intro changes
  obtain ⟨⟨current, shown, _, status, _⟩, _⟩ :=
    changes ⟨none⟩ "job" 5 1 (.holding (reportJob .succeeded)) _ rfl rfl
  obtain rfl := Option.some.inj (Except.ok.inj shown)
  cases status

end AdminService

end CloudDogJobs
