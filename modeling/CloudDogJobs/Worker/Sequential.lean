import CloudDogJobs.Scheduler.Selection
import CloudDogJobs.Worker.Footprint

/-!
# A worker that runs alone

One call of `run_once` on a state that nobody else touches: which job it
selects, which calls it makes, and what it leaves in the shared objects on each
of its exits.
-/

namespace CloudDogJobs

open Foundation WorkerProg

namespace Worker

variable {σ : Type}

/-- The only job `run_once` looks at: the head of the queue. -/
def candidate (worker : Worker) (backend : QueueBackend σ) (shared : Shared σ) : Option Job :=
  match backend.dequeue 1 none worker.queueName shared.store with
  | .ok jobs => jobs.head?
  | .error _ => none

/-- The job `run_once` goes on to claim. -/
def selected (worker : Worker) (backend : QueueBackend σ) (view : σ → String → Option Ticket)
    (shared : Shared σ) : Option Job :=
  if worker.authorised then
    (worker.candidate backend shared).filter (worker.checks.admits view shared)
  else none

/-- The handler ends with an exception that `except Exception` does not catch. -/
def interrupted (worker : Worker) (inputs : RunInputs) : Bool :=
  !(worker.runTimeoutSeconds.isSome && inputs.late) &&
    match inputs.handler with
    | .ok _ => false
    | .error error => !error.isException

theorem selected_eq_some {worker : Worker} {backend : QueueBackend σ}
    {view : σ → String → Option Ticket} {shared : Shared σ} {job : Job} :
    worker.selected backend view shared = some job ↔
      worker.authorised = true ∧ worker.candidate backend shared = some job ∧
        worker.checks.admits view shared job = true := by
  unfold selected
  split
  · next allowed => simp [allowed, Option.filter_eq_some_iff]
  · next barred => simp [barred]

section Runs

variable (worker : Worker) (backend : QueueBackend σ) {view : σ → String → Option Ticket}
  (lawful : backend.Lawful view)

theorem run_releaseJob (job : Job) (shared : Shared σ) :
    (worker.releaseJob job).run (Shared.exec backend) shared =
      ((), worker.checks.released shared job) := by
  unfold releaseJob
  rcases worker.dispatcher_cases with present | ⟨absent, idle⟩
  · rw [present]
    exact worker.checks.run_releaseJob backend job shared
  · rw [absent, idle]
    rfl

include lawful

/-- At most one job is dequeued. -/
theorem dequeue_eq (shared : Shared σ) :
    backend.dequeue 1 none worker.queueName shared.store =
      .ok (worker.candidate backend shared).toList := by
  obtain ⟨jobs, returned, _⟩ := lawful.dequeue 1 none worker.queueName shared.store
  have short : jobs.length ≤ 1 :=
    lawful.dequeue_length 1 none worker.queueName shared.store jobs returned (by decide)
  unfold candidate
  rw [returned]
  cases jobs with
  | nil => rfl
  | cons job rest =>
      cases rest with
      | nil => rfl
      | cons other rest => simp at short

theorem run_dequeue (shared : Shared σ) :
    (call (.dequeue 1 worker.queueName)).run (Shared.exec backend) shared =
      (.ok (worker.candidate backend shared).toList, shared) :=
  congrArg (·, shared) (worker.dequeue_eq backend lawful shared)

theorem run_select_of_selected (shared : Shared σ) {job : Job}
    (chosen : worker.selected backend view shared = some job) :
    worker.select.run (Shared.exec backend) shared =
      (.ok [job], worker.checks.taken shared job) := by
  obtain ⟨_, head, admitted⟩ := selected_eq_some.mp chosen
  have dequeued := worker.run_dequeue backend lawful shared
  rw [head] at dequeued
  unfold select
  rcases worker.dispatcher_cases with present | ⟨absent, idle⟩
  · rw [present]
    unfold Dispatcher.selectEligible
    rw [run_andThen_ok backend _ dequeued]
    exact Dispatcher.run_selectFrom_of_admits _ backend lawful job shared admitted
  · rw [absent, idle]
    exact dequeued

theorem run_select_of_none (shared : Shared σ) (authorised : worker.authorised = true)
    (nothing : worker.selected backend view shared = none) :
    ∃ after, worker.select.run (Shared.exec backend) shared = (.ok [], after) ∧
      after.SameSlots shared := by
  have dequeued := worker.run_dequeue backend lawful shared
  unfold select
  cases head : worker.candidate backend shared with
  | none =>
      refine ⟨shared, ?_, .refl shared⟩
      rw [head] at dequeued
      rcases worker.dispatcher_cases with present | ⟨absent, idle⟩
      · rw [present]
        exact run_andThen_ok backend _ dequeued
      · rw [absent]
        exact dequeued
  | some job =>
      have refused : worker.checks.admits view shared job = false := by
        simpa [selected, authorised, head] using nothing
      rw [head] at dequeued
      rcases worker.dispatcher_cases with present | ⟨absent, idle⟩
      · rw [present]
        unfold Dispatcher.selectEligible
        rw [run_andThen_ok backend _ dequeued]
        exact Dispatcher.run_selectFrom_of_not_admits _ backend lawful job shared refused
      · rw [idle] at refused
        cases refused

omit lawful in
theorem run_runOnce_of_unauthorised (inputs : RunInputs) (shared : Shared σ)
    (barred : worker.authorised = false) :
    (worker.runOnce inputs).run (Shared.exec backend) shared =
      (.error (.permissionError
        ("Worker identity not authorised: " ++ worker.hostId ++ ":" ++ worker.workerId)),
        shared) := by
  simp [runOnce, barred]

theorem run_runOnce_of_selected (inputs : RunInputs) (shared : Shared σ) {job : Job}
    (chosen : worker.selected backend view shared = some job) :
    (worker.runOnce inputs).run (Shared.exec backend) shared =
      (worker.process inputs job).run (Shared.exec backend)
        (worker.checks.taken shared job) := by
  have authorised := (selected_eq_some.mp chosen).1
  unfold runOnce
  rw [if_pos authorised,
    run_andThen_ok backend _ (worker.run_select_of_selected backend lawful shared chosen)]

theorem run_runOnce_of_none (inputs : RunInputs) (shared : Shared σ)
    (authorised : worker.authorised = true)
    (nothing : worker.selected backend view shared = none) :
    ∃ after, (worker.runOnce inputs).run (Shared.exec backend) shared = (.ok false, after) ∧
      after.SameSlots shared := by
  obtain ⟨after, ended, same⟩ := worker.run_select_of_none backend lawful shared authorised nothing
  refine ⟨after, ?_, same⟩
  unfold runOnce
  rw [if_pos authorised, run_andThen_ok backend _ ended]
  rfl

/-- The claim that a selected job leads to, with its reply. -/
def claimEntry (inputs : RunInputs) (shared : Shared σ) (job : Job) : Sigma WorkerCall.Reply :=
  ⟨.claim job.jobId worker.hostId worker.workerId inputs.claimAt,
    (backend.claim job.jobId worker.hostId worker.workerId inputs.claimAt shared.store).1⟩

/-- The store after the claim of a job. -/
def claimedStore (inputs : RunInputs) (shared : Shared σ) (job : Job) : σ :=
  (backend.claim job.jobId worker.hostId worker.workerId inputs.claimAt shared.store).2

omit lawful in
theorem run_claim (inputs : RunInputs) (job : Job) (shared : Shared σ) {claimed : Bool}
    (answered : (backend.claim job.jobId worker.hostId worker.workerId inputs.claimAt
      shared.store).1 = .ok claimed) :
    (call (.claim job.jobId worker.hostId worker.workerId inputs.claimAt)).run
        (Shared.exec backend) shared =
      (.ok claimed, { shared with store := worker.claimedStore backend inputs shared job }) :=
  Prod.ext answered rfl

omit lawful in
theorem run_process (inputs : RunInputs) (job : Job) (shared : Shared σ) {claimed : Bool}
    (answered : (backend.claim job.jobId worker.hostId worker.workerId inputs.claimAt
      shared.store).1 = .ok claimed) :
    (worker.process inputs job).run (Shared.exec backend) shared =
      (worker.afterClaim inputs job claimed).run (Shared.exec backend)
        { shared with store := worker.claimedStore backend inputs shared job } :=
  run_andThen_ok backend _ (worker.run_claim backend inputs job shared answered)

/-- A selected job is claimed, and nothing else is. -/
theorem claimEntry_mem_trace (inputs : RunInputs) (shared : Shared σ) {job : Job}
    (chosen : worker.selected backend view shared = some job) :
    worker.claimEntry backend inputs shared job ∈
      (worker.runOnce inputs).trace (Shared.exec backend) shared := by
  have authorised := (selected_eq_some.mp chosen).1
  unfold runOnce
  rw [if_pos authorised,
    trace_andThen_ok backend _ (worker.run_select_of_selected backend lawful shared chosen)]
  exact List.mem_append_right _ List.mem_cons_self

/-- Everything a run of `run_once` can contain. -/
theorem mem_trace_runOnce (inputs : RunInputs) (shared : Shared σ)
    {entry : Sigma WorkerCall.Reply}
    (issued : entry ∈ (worker.runOnce inputs).trace (Shared.exec backend) shared) :
    entry.1.InSelection ∨ ∃ job, worker.selected backend view shared = some job ∧
      (entry = worker.claimEntry backend inputs shared job ∨
        entry.1.InExecution job inputs.deadLetterId ∨ entry.1.InRelease job) := by
  cases authorised : worker.authorised with
  | false => simp [runOnce, authorised] at issued
  | true =>
      unfold runOnce at issued
      rw [if_pos authorised] at issued
      cases chosen : worker.selected backend view shared with
      | none =>
          obtain ⟨after, ended, _⟩ :=
            worker.run_select_of_none backend lawful shared authorised chosen
          rw [trace_andThen_ok backend _ ended, Prog.pure_eq_ret, Prog.trace_ret,
            List.append_nil] at issued
          exact .inl (worker.only_select.trace _ issued)
      | some job =>
          have taken := worker.run_select_of_selected backend lawful shared chosen
          rw [trace_andThen_ok backend _ taken, List.mem_append] at issued
          rcases issued with selecting | processing
          · exact .inl (worker.only_select.trace _ selecting)
          · refine .inr ⟨job, rfl, ?_⟩
            obtain ⟨claimed, answered⟩ := lawful.claim_returns job.jobId worker.hostId
              worker.workerId inputs.claimAt shared.store
            unfold process at processing
            rw [trace_andThen_ok backend _ (worker.run_claim backend inputs job
              (worker.checks.taken shared job) answered)] at processing
            rcases List.mem_cons.mp processing with first | later
            · exact .inl first
            · exact .inr ((worker.only_afterClaim inputs job claimed).trace _ later)

theorem eq_claimEntry_of_mem_trace (inputs : RunInputs) (shared : Shared σ)
    {entry : Sigma WorkerCall.Reply}
    (issued : entry ∈ (worker.runOnce inputs).trace (Shared.exec backend) shared)
    (claims : entry.1.IsClaim) :
    ∃ job, worker.selected backend view shared = some job ∧
      entry = worker.claimEntry backend inputs shared job := by
  rcases worker.mem_trace_runOnce backend lawful inputs shared issued with
    inside | ⟨job, chosen, first | inside | inside⟩
  · exact absurd claims inside.not_isClaim
  · exact ⟨job, chosen, first⟩
  · exact absurd claims inside.not_isClaim
  · exact absurd claims inside.not_isClaim

/-- A handler is started for the selected job only. -/
theorem selected_of_handle_mem_trace (inputs : RunInputs) (shared : Shared σ) {job : Job}
    (started : (⟨.handle job, ()⟩ : Sigma WorkerCall.Reply) ∈
      (worker.runOnce inputs).trace (Shared.exec backend) shared) :
    worker.selected backend view shared = some job := by
  rcases worker.mem_trace_runOnce backend lawful inputs shared started with
    inside | ⟨other, chosen, first | inside | inside⟩
  · cases inside
  · cases first
  · obtain rfl : job = other := inside
    exact chosen
  · cases inside

end Runs

end Worker

end CloudDogJobs
