import CloudDogJobs.Scheduler.Dependency

/-!
# Blocked jobs with reasons

`DependencyTracker.blocked_jobs_with_reasons` explains to operators what the scheduler
refuses. The gate is `is_runnable`, and `has_failed_dependency` names the dependencies
that have terminally failed. The three methods walk the same dependency lists, each with
a test of its own.
-/

namespace CloudDogJobs

open Foundation

namespace DependencyTracker

/-- An unsatisfied dependency as the report shows it. -/
structure Blocker where
  depId : String
  status : String
  deriving DecidableEq

/-- A blocked job as the report shows it. -/
structure BlockedJob where
  jobId : String
  blockedBy : List Blocker
  deriving DecidableEq

variable (tracker : DependencyTracker) (statusGetter : String → Option JobStatus)

/-- The report's line on a dependency: a job that is not known has no status. -/
def blockerOf (depId : String) : Blocker :=
  ⟨depId, ((statusGetter depId).map JobStatus.value).getD "unknown"⟩

/-- The inner loop of the report. -/
def blockersAmong (deps : List String) : List Blocker :=
  deps.filterMap fun depId =>
    if statusGetter depId ≠ some .succeeded then some (blockerOf statusGetter depId) else none

/-- All jobs blocked on dependencies, with the dependencies that block them. -/
def blockedJobsWithReasons : List BlockedJob :=
  tracker.edges.entries.filterMap fun entry =>
    let blockers := blockersAmong statusGetter entry.2
    if blockers.isEmpty then none else some ⟨entry.1, blockers⟩

theorem blockersAmong_eq (deps : List String) :
    blockersAmong statusGetter deps =
      (deps.filter fun depId => statusGetter depId ≠ some .succeeded).map
        (blockerOf statusGetter) := by
  induction deps with
  | nil => rfl
  | cons depId rest ih =>
      rw [blockersAmong, List.filterMap_cons, ← blockersAmong, ih]
      by_cases unfinished : statusGetter depId ≠ some .succeeded
      · rw [if_pos unfinished, List.filter_cons_of_pos (by simpa using unfinished), List.map_cons]
      · rw [if_neg unfinished, List.filter_cons_of_neg (by simpa using unfinished)]

/-- A job is reported with all of its blockers, and only if it has some. -/
theorem mem_blockedJobsWithReasons (blocked : BlockedJob) :
    blocked ∈ tracker.blockedJobsWithReasons statusGetter ↔
      blocked.blockedBy ≠ [] ∧
        blocked.blockedBy =
          blockersAmong statusGetter (tracker.getDependencies blocked.jobId) := by
  rw [blockedJobsWithReasons, List.mem_filterMap]
  refine ⟨?_, ?_⟩
  · rintro ⟨⟨jobId, deps⟩, member, reported⟩
    rw [Dict.mem_entries_iff] at member
    dsimp only at reported
    split at reported
    · cases reported
    · next filled =>
        cases reported
        refine ⟨by simpa using filled, ?_⟩
        rw [getDependencies, Dict.getD, member]
        rfl
  · rintro ⟨filled, same⟩
    -- a job without an entry has no dependencies, and so no blockers
    cases found : tracker.edges.get? blocked.jobId with
    | none =>
        rw [getDependencies, Dict.getD, found] at same
        exact absurd same filled
    | some deps =>
        rw [getDependencies, Dict.getD, found, Option.getD_some] at same
        refine ⟨(blocked.jobId, deps), (Dict.mem_entries_iff _ _ _).mpr found, ?_⟩
        dsimp only
        rw [← same, if_neg (by simpa using filled)]

theorem isRunnable_eq_false_iff (jobId : String) :
    tracker.isRunnable jobId statusGetter = false ↔
      blockersAmong statusGetter (tracker.getDependencies jobId) ≠ [] := by
  rw [blockersAmong_eq, isRunnable, ne_eq, List.map_eq_nil_iff, List.filter_eq_nil_iff,
    List.all_eq_false]
  push Not
  simp

/-- The reported status is that of a failed dependency. -/
def Blocker.hasFailed (blocker : Blocker) : Bool :=
  depFailedStates.any fun status => blocker.status = status.value

theorem hasFailed_blockerOf (depId : String) :
    (blockerOf statusGetter depId).hasFailed =
      (statusGetter depId).any fun status => status ∈ depFailedStates := by
  unfold Blocker.hasFailed blockerOf
  cases statusGetter depId with
  | none => rfl
  | some status => simp [List.any_eq, eq_comm]

/-- The failed dependencies are the blockers reported with a failed status. -/
theorem hasFailedDependency_snd (jobId : String) :
    (tracker.hasFailedDependency jobId statusGetter).2 =
      ((blockersAmong statusGetter (tracker.getDependencies jobId)).filter Blocker.hasFailed).map
        Blocker.depId := by
  rw [blockersAmong_eq, List.filter_map, List.map_map, List.filter_filter]
  have named : Blocker.depId ∘ blockerOf statusGetter = id := rfl
  rw [named, List.map_id, hasFailedDependency]
  apply List.filter_congr
  intro depId _
  rw [Function.comp_apply, hasFailed_blockerOf]
  cases statusGetter depId with
  | none => rfl
  | some status => cases status <;> rfl

/-- **The reports agree with the gate.** Whatever the edges and the statuses, the report
lists a job exactly when the gate refuses it, with its dependencies that have not
succeeded in their order and with their repetitions. The dependencies named as failed
are the blockers whose reported status is a failed one, so a job with a failed
dependency is never runnable. -/
theorem reports_agree_with_the_gate (jobId : String) :
    ((∃ blocked ∈ tracker.blockedJobsWithReasons statusGetter, blocked.jobId = jobId) ↔
        tracker.isRunnable jobId statusGetter = false) ∧
      (∀ blocked ∈ tracker.blockedJobsWithReasons statusGetter, blocked.jobId = jobId →
        blocked.blockedBy =
            ((tracker.getDependencies jobId).filter fun depId =>
              statusGetter depId ≠ some .succeeded).map (blockerOf statusGetter) ∧
          (tracker.hasFailedDependency jobId statusGetter).2 =
            (blocked.blockedBy.filter Blocker.hasFailed).map Blocker.depId) ∧
      ((tracker.hasFailedDependency jobId statusGetter).1 = true ↔
        (tracker.hasFailedDependency jobId statusGetter).2 ≠ []) ∧
      ((tracker.hasFailedDependency jobId statusGetter).2 ≠ [] →
        tracker.isRunnable jobId statusGetter = false) := by
  refine ⟨?_, ?_, ?_, ?_⟩
  · rw [isRunnable_eq_false_iff]
    refine ⟨?_, ?_⟩
    · rintro ⟨blocked, listed, rfl⟩
      obtain ⟨filled, same⟩ := (tracker.mem_blockedJobsWithReasons statusGetter blocked).mp listed
      rwa [← same]
    · intro filled
      exact ⟨⟨jobId, _⟩, (tracker.mem_blockedJobsWithReasons statusGetter _).mpr ⟨filled, rfl⟩,
        rfl⟩
  · intro blocked listed named
    obtain ⟨_, same⟩ := (tracker.mem_blockedJobsWithReasons statusGetter blocked).mp listed
    rw [named] at same
    refine ⟨?_, ?_⟩
    · rw [same, blockersAmong_eq]
    · rw [same, hasFailedDependency_snd]
  · simp [hasFailedDependency]
  · intro failed
    rw [isRunnable_eq_false_iff]
    intro unblocked
    rw [hasFailedDependency_snd, unblocked] at failed
    exact failed rfl

/-- A job that waits twice for a failed job, for a finished one and for an unknown one. -/
theorem waiting_job_reported :
    let tracker := empty.register "report" ["extract", "clean", "extract", "load"]
    let statusGetter : String → Option JobStatus := fun jobId =>
      if jobId = "extract" then some .failed
      else if jobId = "clean" then some .succeeded
      else none
    (∃ blocked ∈ tracker.blockedJobsWithReasons statusGetter, blocked.jobId = "report") ∧
      (tracker.hasFailedDependency "report" statusGetter).2 = ["extract", "extract"] ∧
      tracker.isRunnable "report" statusGetter = false := by
  intro tracker statusGetter
  have agree := reports_agree_with_the_gate tracker statusGetter "report"
  have failed : (tracker.hasFailedDependency "report" statusGetter).2 = ["extract", "extract"] := by
    decide
  have refused : tracker.isRunnable "report" statusGetter = false := by
    apply agree.2.2.2
    rw [failed]
    exact List.cons_ne_nil _ _
  exact ⟨agree.1.mpr refused, failed, refused⟩

end DependencyTracker

end CloudDogJobs
