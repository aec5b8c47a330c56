import CloudDogJobs.Foundation.Polling
import CloudDogJobs.Worker.Ending

/-!
# The run loop

`run_forever`: one round after another until `stop()` was called, `max_loops` is
reached or a round raises. A worker that runs alone on the memory backend serves
a waiting line: each pass takes the head of the line, if the dispatcher admits it,
leaves the record of its ending, and puts a dead letter for the worker's own queue
behind the jobs that it does not precede. `run_forever_async` is the same loop
with `run_once` in a thread.
-/

namespace CloudDogJobs

open Foundation WorkerProg

/-- What one pass of the loop reads from outside: the inputs of its round, and
whether `stop()` was called before the loop looks at its flag again. -/
structure Pass where
  inputs : RunInputs
  stopped : Bool := false

/-- The loop ends after this many passes. -/
def lastPass (maxLoops : Option Int) (loops : Nat) (pass : Pass) : Bool :=
  maxLoops.any (fun bound : Int => bound ≤ (loops : Int)) || pass.stopped

/-- Poll and execute jobs; the value is the number of loops, and `none` stands for
a loop that goes on after the passes given. The flag is cleared at the start, so
the first pass is always made. -/
def Worker.runForever (worker : Worker) (maxLoops : Option Int) (passes : List Pass) :
    WorkerProg (Option (Except PyError Nat)) :=
  Prog.poll (fun pass => worker.runOnce pass.inputs) (lastPass maxLoops) 0 passes

/-! ## Handlers that start -/

/-- The job whose handler a call starts. -/
def WorkerCall.started : WorkerCall → Option Job
  | .handle job => some job
  | _ => none

/-- The program starts no handler. -/
def Quiet {α : Type} (program : WorkerProg α) : Prop :=
  program.Only fun call => call.started = none

section Starts

variable {σ : Type} (backend : QueueBackend σ) (worker : Worker) (inputs : RunInputs) (job : Job)

theorem WorkerCall.InSelection.started_eq_none {call : WorkerCall} (inside : call.InSelection) :
    call.started = none := by
  cases call <;> first | rfl | cases inside

theorem WorkerCall.InRelease.started_eq_none {call : WorkerCall}
    (inside : call.InRelease job) : call.started = none := by
  cases call <;> first | rfl | cases inside

theorem FallbackPolicyManager.quiet_apply (manager : FallbackPolicyManager)
    (error : PyError) :
    Quiet (manager.apply inputs job error) := by
  have marks : ∀ status, Quiet (mark inputs job status) :=
    fun _ => ⟨rfl, fun _ => trivial⟩
  unfold FallbackPolicyManager.apply
  split
  · exact only_andThen _ (marks _) fun _ => trivial
  · apply only_andThen _ (marks _)
    intro _
    exact only_andThen _ ⟨rfl, fun _ => trivial⟩ fun _ => trivial
  · apply only_andThen _ (marks _)
    intro _
    apply only_andThen
    · unfold sendNotification
      split
      · trivial
      · split
        · exact ⟨rfl, fun _ => trivial⟩
        · trivial
    · intro _
      trivial
  · exact only_andThen _ (marks _) fun _ => trivial

namespace Worker

theorem quiet_recover (error : PyError) :
    Quiet (worker.recover inputs job error) := by
  unfold recover
  split
  · next manager _ =>
      exact only_andThen _ (manager.quiet_apply inputs job error) fun _ => trivial
  · exact only_andThen _ ⟨rfl, fun _ => trivial⟩ fun _ => trivial

/-- The `try` block starts the handler of its job, once, unless the heartbeat before it raised. -/
theorem marks_attempt (shared : Shared σ) {found : Bool}
    (beaten : (backend.heartbeat job.jobId inputs.heartbeatAt shared.store).1 = .ok found) :
    (worker.attempt inputs job).marks (Shared.exec backend) WorkerCall.started shared = [job] := by
  have invoked : ∀ state : Shared σ,
      (worker.invoke inputs job).marks (Shared.exec backend) WorkerCall.started state = [job] := by
    intro state
    unfold invoke
    rw [Prog.issue_bind]
    refine congrArg (List.cons job) ?_
    apply Prog.Only.marks_eq_nil
    split
    · trivial
    · split
      · exact only_andThen _ ⟨rfl, fun _ => trivial⟩ fun _ => trivial
      · trivial
  have heard : (call (.heartbeat job.jobId inputs.heartbeatAt)).run (Shared.exec backend) shared =
      (.ok found, { shared with
        store := (backend.heartbeat job.jobId inputs.heartbeatAt shared.store).2 }) :=
    Prod.ext beaten rfl
  have beating : Quiet (call (.heartbeat job.jobId inputs.heartbeatAt)) := ⟨rfl, fun _ => trivial⟩
  unfold attempt
  rw [Prog.marks_bind_right]
  · unfold execute andThen
    rw [beating.marks_bind_left, heard]
    dsimp only
    rw [Prog.marks_bind_right, invoked]
    intro reply
    cases reply with
    | ok value => exact only_andThen _ ⟨rfl, fun _ => trivial⟩ fun _ => trivial
    | error error => trivial
  · intro reply
    cases reply with
    | ok processed => trivial
    | error error =>
        dsimp only
        split
        · exact worker.quiet_recover inputs job error
        · trivial

end Worker

end Starts

/-! ## One round on the memory backend -/

namespace Worker

variable (worker : Worker) (inputs : RunInputs) {shared : Shared MemoryQueueBackend} {job : Job}

/-- The state in which the round of a selected job ends. Without a handler the slots of
the job are not given back. -/
def stateAfter (shared : Shared MemoryQueueBackend) (job : Job) : Shared MemoryQueueBackend :=
  let left := ((worker.checks.taken shared job).holding shared.store
    (worker.leftJob inputs job)).sent (worker.ending inputs job).letter
  if job.jobType ∈ worker.handlers then worker.checks.released left job else left

theorem claimedState_memory
    (chosen : worker.selected MemoryQueueBackend.contract MemoryQueueBackend.view shared =
      some job) :
    worker.claimedState MemoryQueueBackend.contract inputs shared job =
      (worker.checks.taken shared job).holding shared.store (worker.claimedJob inputs job) := by
  obtain ⟨stored, waiting, _⟩ := worker.selected_memory chosen
  have claimed := shared.store.claim_of_get stored waiting worker.hostId worker.workerId
    inputs.claimAt
  have moved : worker.claimedStore MemoryQueueBackend.contract inputs
      (worker.checks.taken shared job) job =
        (shared.store.enqueue (worker.claimedJob inputs job)).2 := congrArg Prod.snd claimed
  rw [claimedState, moved]
  rfl

/-- **A round is its ending.** The commands of a round that selects a job come to the
ending of that job. -/
theorem run_runOnce_memory
    (chosen : worker.selected MemoryQueueBackend.contract MemoryQueueBackend.view shared =
      some job) :
    (worker.runOnce inputs).run (Shared.exec MemoryQueueBackend.contract) shared =
      ((worker.ending inputs job).result, worker.stateAfter inputs shared job) := by
  have granted : worker.grants MemoryQueueBackend.contract inputs shared job :=
    worker.grants_memory chosen
  rw [worker.run_runOnce_claimed MemoryQueueBackend.lawful chosen granted,
    worker.claimedState_memory inputs chosen]
  unfold stateAfter
  by_cases known : job.jobType ∈ worker.handlers
  · rw [if_pos known]
    unfold afterClaim
    rw [if_pos rfl, if_pos known, Prog.run_bind, worker.run_attempt_holding inputs
      (worker.checks.taken shared job) shared.store job known, Prog.run_bind, run_releaseJob]
    rfl
  · rw [if_neg known, worker.run_afterClaim_unregistered _ known]
    unfold leftJob ending
    rw [if_neg known]
    rfl

theorem marks_runOnce_of_selected
    (chosen : worker.selected MemoryQueueBackend.contract MemoryQueueBackend.view shared =
      some job) :
    (worker.runOnce inputs).marks (Shared.exec MemoryQueueBackend.contract) WorkerCall.started
        shared = if job.jobType ∈ worker.handlers then [job] else [] := by
  have granted : worker.grants MemoryQueueBackend.contract inputs shared job :=
    worker.grants_memory chosen
  have selecting : Quiet worker.select :=
    worker.only_select.mono fun _ => WorkerCall.InSelection.started_eq_none
  have claiming : Quiet (call (.claim job.jobId worker.hostId worker.workerId inputs.claimAt)) :=
    ⟨rfl, fun _ => trivial⟩
  have authorised := (selected_eq_some.mp chosen).1
  unfold runOnce
  rw [if_pos authorised]
  unfold andThen
  rw [selecting.marks_bind_left,
    worker.run_select_of_selected MemoryQueueBackend.contract MemoryQueueBackend.lawful shared
      chosen]
  dsimp only
  unfold process andThen
  rw [claiming.marks_bind_left, worker.run_claim MemoryQueueBackend.contract inputs job
    (worker.checks.taken shared job) granted]
  dsimp only
  unfold afterClaim
  rw [if_pos rfl]
  split
  · rw [Prog.marks_bind_right]
    · exact marks_attempt MemoryQueueBackend.contract worker inputs job _ rfl
    · intro result
      apply Prog.Only.bind
      · exact (worker.only_releaseJob job).mono
          fun _ => WorkerCall.InRelease.started_eq_none job
      · intro _
        trivial
  · rfl

theorem marks_runOnce_of_none
    (nothing : worker.selected MemoryQueueBackend.contract MemoryQueueBackend.view shared =
      none) :
    (worker.runOnce inputs).marks (Shared.exec MemoryQueueBackend.contract) WorkerCall.started
        shared = [] := by
  have selecting : Quiet worker.select :=
    worker.only_select.mono fun _ => WorkerCall.InSelection.started_eq_none
  unfold runOnce
  split
  · next authorised =>
      obtain ⟨after, ended, _⟩ := worker.run_select_of_none MemoryQueueBackend.contract
        MemoryQueueBackend.lawful shared authorised nothing
      unfold andThen
      rw [selecting.marks_bind_left, ended]
      rfl
  · rfl

/-- A job that held no slot holds none after a round, and no other holding changes. -/
theorem holders_stateAfter (free : ∀ jobId, shared.pool.holders.get? jobId = none)
    (known : job.jobType ∈ worker.handlers) (jobId : String) :
    (worker.stateAfter inputs shared job).pool.holders.get? jobId = none := by
  unfold stateAfter
  rw [if_pos known]
  have pool : ∀ state : Shared MemoryQueueBackend,
      (state.sent (worker.ending inputs job).letter).pool = state.pool := by
    intro state
    cases (worker.ending inputs job).letter <;> rfl
  show (worker.checks.resourcesReleased _ job).holders.get? jobId = none
  rw [pool]
  show (worker.checks.resourcesReleased (worker.checks.resourcesTaken shared.pool job)
    job).holders.get? jobId = none
  unfold Dispatcher.resourcesReleased Dispatcher.resourcesTaken
  cases managed : worker.checks.resourcePool with
  | false => exact free jobId
  | true =>
      show ((_ : ResourcePool).holders.erase job.jobId).get? jobId = none
      rw [Dict.get?_erase]
      split
      · rfl
      · next other =>
          split
          · cases granted : (shared.pool.acquire job.jobId job.resources).1 with
            | false => rw [shared.pool.acquire_refused _ _ granted, free]
            | true =>
                have filled : job.resources.isEmpty = false := by simp_all
                rw [shared.pool.holders_acquire _ _ granted filled, Dict.get?_set,
                  if_neg other, free]
          · exact free jobId

end Worker

end CloudDogJobs
