import Mathlib.Logic.Function.Basic
import CloudDogJobs.Domain.StateMachine
import CloudDogJobs.Foundation.Sequence
import CloudDogJobs.Scheduler.Dependency

/-!
# Failed dependencies

`DependencyTracker.has_failed_dependency` reports the dependencies whose status is one
of the "terminal states that mean a dependency will never succeed". Four of the five
lead to nothing but the dead letters and the archive in the default transition table.
The fifth, a timeout, may be retried.
-/

namespace CloudDogJobs

open Foundation

namespace DependencyTracker

/-- What can follow a failure that is final. -/
def finalStates : List JobStatus := [.failed, .cancelled, .ttlExpired, .deadLettered, .archived]

/-- No default transition leads out of them. -/
theorem mem_finalStates_of_mayBecome {source target : JobStatus} (final : source ∈ finalStates)
    (allowed : source.MayBecome target) : target ∈ finalStates := by
  revert allowed
  simp only [finalStates, List.mem_cons, List.not_mem_nil, or_false] at final
  rcases final with rfl | rfl | rfl | rfl | rfl
  all_goals
    cases target <;> decide

/-- The tracker and the statuses of the known jobs. -/
structure Jobs where
  tracker : DependencyTracker
  status : String → Option JobStatus

namespace Jobs

/-- What happens to the jobs and to the tracker. -/
inductive Event
  | submit (jobId : String) (status : JobStatus)
  | move (jobId : String) (target : JobStatus)
  | register (jobId : String) (dependsOn : List String)
  | call (call : Call)

def act (jobs : Jobs) : Event → Jobs
  | .submit jobId status =>
      { jobs with status := Function.update jobs.status jobId (some status) }
  | .move jobId target =>
      { jobs with status := Function.update jobs.status jobId (some target) }
  | .register jobId dependsOn => { jobs with tracker := jobs.tracker.register jobId dependsOn }
  | .call call => { jobs with tracker := jobs.tracker.perform call }

/-- A submitted job is new, and a status changes along the default transitions. -/
def Legal (jobs : Jobs) : Event → Prop
  | .submit jobId _ => jobs.status jobId = none
  | .move jobId target => ∃ source, jobs.status jobId = some source ∧ source.MayBecome target
  | _ => True

/-- The dependency has not succeeded, and the job does not run while it waits for it. -/
def Excludes (jobId dependency : String) (jobs : Jobs) : Prop :=
  jobs.status dependency ≠ some .succeeded ∧
    (dependency ∈ jobs.tracker.getDependencies jobId →
      jobs.tracker.isRunnable jobId jobs.status = false)

/-- The dependency has failed for good. -/
def Final (dependency : String) (jobs : Jobs) : Prop :=
  ∃ status ∈ finalStates, jobs.status dependency = some status

theorem Final.excludes {dependency : String} {jobs : Jobs} (final : jobs.Final dependency)
    (jobId : String) : jobs.Excludes jobId dependency := by
  obtain ⟨status, member, shown⟩ := final
  have unsuccessful : jobs.status dependency ≠ some .succeeded := by
    intro succeeded
    rw [shown, Option.some.injEq] at succeeded
    subst succeeded
    simp [finalStates] at member
  refine ⟨unsuccessful, fun waits => ?_⟩
  apply List.all_eq_false.mpr
  exact ⟨dependency, waits, by simpa using unsuccessful⟩

/-- The step lemma. -/
theorem Final.act {dependency : String} (jobs : Jobs) (event : Event)
    (final : jobs.Final dependency) (legal : jobs.Legal event) :
    (jobs.act event).Final dependency := by
  obtain ⟨status, member, shown⟩ := final
  cases event with
  | submit jobId first =>
      -- the dependency is known, so another job is submitted
      have different : dependency ≠ jobId := by
        intro same
        have new : jobs.status jobId = none := legal
        rw [← same, shown] at new
        cases new
      exact ⟨status, member, (Function.update_of_ne different _ _).trans shown⟩
  | move jobId target =>
      obtain ⟨source, current, allowed⟩ := legal
      by_cases same : dependency = jobId
      · subst same
        rw [shown, Option.some.injEq] at current
        subst current
        exact ⟨target, mem_finalStates_of_mayBecome member allowed, Function.update_self _ _ _⟩
      · exact ⟨status, member, (Function.update_of_ne same _ _).trans shown⟩
  | register jobId dependsOn => exact ⟨status, member, shown⟩
  | call call => exact ⟨status, member, shown⟩

theorem mem_hasFailedDependency {jobs : Jobs} {jobId dependency : String}
    (reported : dependency ∈ (jobs.tracker.hasFailedDependency jobId jobs.status).2) :
    ∃ status ∈ depFailedStates, jobs.status dependency = some status := by
  have failed := (List.mem_filter.mp reported).2
  obtain ⟨status, shown, listed⟩ := (Option.any_eq_true _ _).mp failed
  exact ⟨status, of_decide_eq_true listed, shown⟩

/-- A timeout is retried, and the dependency succeeds. -/
def retried (dependency : String) : List Event :=
  [.move dependency .retryWait, .move dependency .running, .move dependency .succeeded]

theorem legal_retried {jobs : Jobs} {dependency : String}
    (expired : jobs.status dependency = some .timeout) :
    Guarded act Legal jobs (retried dependency) :=
  ⟨⟨.timeout, expired, by decide⟩, ⟨.retryWait, Function.update_self _ _ _, by decide⟩,
    ⟨.running, Function.update_self _ _ _, by decide⟩, trivial⟩

/-- **When a failed dependency stays failed.** Let a dependency be reported as failed for
a job. In every run from there in which statuses change along the default transitions,
with any calls on the tracker, the dependency never succeeds and the job is not runnable
as long as it waits for it, exactly when the dependency has not timed out at the
report. -/
theorem reported_dependency_stays_failed_iff (jobs : Jobs) (jobId dependency : String)
    (reported : dependency ∈ (jobs.tracker.hasFailedDependency jobId jobs.status).2) :
    (∀ events, Guarded act Legal jobs events →
      Throughout act (Excludes jobId dependency) jobs events) ↔
        jobs.status dependency ≠ some .timeout := by
  obtain ⟨status, member, shown⟩ := mem_hasFailedDependency reported
  constructor
  · intro excluded expired
    have run := excluded (retried dependency) (legal_retried expired)
    exact run.2.2.2.1 (Function.update_self _ _ _)
  · intro unexpired events legal
    have final : jobs.Final dependency := by
      refine ⟨status, ?_, shown⟩
      rw [shown] at unexpired
      simp only [depFailedStates, List.mem_cons, List.not_mem_nil, or_false] at member
      simp only [finalStates, List.mem_cons, List.not_mem_nil, or_false]
      grind
    exact Throughout.of_invariant Final.act (fun _ kept => kept.excludes jobId) final legal

/-- A job that waits for another with the given status. -/
def waiting (status : JobStatus) : Jobs where
  tracker := ⟨Dict.empty.set "report" ["extract"]⟩
  status := Function.update (fun _ => none) "extract" (some status)

/-- A cancelled dependency is archived, and the job still does not run. -/
theorem cancelled_dependency_stays_failed :
    Throughout act (Excludes "report" "extract") (waiting .cancelled)
      [.move "extract" .archived] := by
  refine (reported_dependency_stays_failed_iff (waiting .cancelled) "report" "extract" ?_).mpr
    ?_ _ ?_
  · decide
  · decide
  · exact ⟨⟨.cancelled, rfl, by decide⟩, trivial⟩

/-- A dependency that has timed out is reported as failed and succeeds later. -/
theorem timed_out_dependency_succeeds :
    ¬ ∀ (jobs : Jobs) (jobId dependency : String),
      dependency ∈ (jobs.tracker.hasFailedDependency jobId jobs.status).2 →
        ∀ events, Guarded act Legal jobs events →
          Throughout act (Excludes jobId dependency) jobs events := by
  intro excluded
  have reported : "extract" ∈ ((waiting .timeout).tracker.hasFailedDependency "report"
      (waiting .timeout).status).2 := by decide
  have run := excluded (waiting .timeout) "report" "extract" reported (retried "extract")
    (legal_retried rfl)
  exact run.2.2.2.1 rfl

end Jobs

end DependencyTracker

end CloudDogJobs
