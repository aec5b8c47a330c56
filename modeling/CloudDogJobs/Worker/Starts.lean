import CloudDogJobs.Foundation.Spending
import CloudDogJobs.Worker.Loop

/-!
# How often a handler starts

Workers beside clients that may do anything with the shared objects except start
handlers: submit, cancel, write a status, claim a job of their own. A queued job
is a token that a granted claim takes and that the start of its handler spends,
so a handler starts at most as often as its job was put in the queue.
-/

namespace CloudDogJobs

open Foundation WorkerProg

/-- The job that the call, with this reply, claims. -/
def WorkerCall.claims : (call : WorkerCall) → call.Reply → Option String
  | .claim jobId _ _ _, .ok true => some jobId
  | _, _ => none

/-- The job that the call may put in the queue. -/
def WorkerCall.queues : WorkerCall → Option String
  | .enqueue job _ => some job.jobId
  | .updateStatus jobId .queued _ => some jobId
  | _ => none

/-- An operation of a client: a round of its worker, or a program that starts no
handler. -/
inductive OpenOp
  | runOnce (inputs : RunInputs)
  | other (program : WorkerProg (Except PyError Bool))
      (quiet : Quiet program)

/-- Workers among other clients of the same objects. -/
def openMachine {ι σ : Type} (backend : QueueBackend σ) (workers : ι → Worker) :
    Machine ι OpenOp WorkerCall WorkerCall.Reply (Except PyError Bool) (Shared σ) where
  exec := Shared.exec backend
  code client
    | .runOnce inputs => (workers client).runOnce inputs
    | .other program _ => program

section Rules

variable {σ : Type}

/-- The job is stored and waits. -/
def Shared.waits (view : σ → String → Option Ticket) (shared : Shared σ) (jobId : String) : Bool :=
  (view shared.store jobId).map Ticket.status = some .queued

/-- Queued jobs as tokens. -/
def startRules (view : σ → String → Option Ticket) :
    SpendingRules WorkerCall WorkerCall.Reply (Shared σ) String where
  available shared jobId := shared.waits view jobId
  supplies call _ := call.queues
  takes := WorkerCall.claims
  spends call := call.started.map Job.jobId

variable {backend : QueueBackend σ} {view : σ → String → Option Ticket}
  (lawful : backend.Lawful view)

theorem waits_of_view_eq {before after : Shared σ} {jobId : String}
    (same : view after.store jobId = view before.store jobId) :
    after.waits view jobId = before.waits view jobId := by
  unfold Shared.waits
  rw [same]

include lawful

/-- A granted claim finds its job waiting and leaves it running. -/
theorem waits_of_claims (call : WorkerCall) (shared : Shared σ) (jobId : String)
    (claimed : call.claims (Shared.exec backend call shared).1 = some jobId) :
    shared.waits view jobId = true ∧
      (Shared.exec backend call shared).2.waits view jobId = false := by
  cases call with
  | claim claimant hostId workerId now =>
      have answered : (backend.claim claimant hostId workerId now shared.store).1 = .ok true ∧
          claimant = jobId := by
        replace claimed : WorkerCall.claims (.claim claimant hostId workerId now)
            (backend.claim claimant hostId workerId now shared.store).1 = some jobId := claimed
        cases reply : (backend.claim claimant hostId workerId now shared.store).1 with
        | error error =>
            rw [reply] at claimed
            cases claimed
        | ok granted =>
            rw [reply] at claimed
            cases granted with
            | false => cases claimed
            | true => exact ⟨rfl, Option.some.inj claimed⟩
      obtain ⟨granted, rfl⟩ := answered
      have waiting := lawful.claim_queued _ _ _ _ _ granted
      refine ⟨decide_eq_true waiting, decide_eq_false ?_⟩
      show (view (backend.claim claimant hostId workerId now shared.store).2 claimant).map _ ≠ _
      rw [lawful.view_claim, if_pos ⟨rfl, granted⟩]
      obtain ⟨ticket, stored, _⟩ := Option.map_eq_some_iff.mp waiting
      rw [stored]
      exact fun same => JobStatus.noConfusion (Option.some.inj same)
  | _ => cases claimed

/-- A job waits after a call when it waited before, or when the call queues it. -/
theorem waits_exec (call : WorkerCall) (shared : Shared σ) (jobId : String)
    (waiting : (Shared.exec backend call shared).2.waits view jobId = true) :
    shared.waits view jobId = true ∨ call.queues = some jobId := by
  cases call with
  | enqueue job now =>
      by_cases same : jobId = job.jobId
      · exact .inr (congrArg some same.symm)
      · refine .inl ?_
        rw [← waiting]
        exact (waits_of_view_eq (lawful.enqueue_other job now shared.store jobId same)).symm
  | claim claimant hostId workerId now =>
      refine .inl ?_
      have moved := lawful.view_claim claimant hostId workerId now shared.store jobId
      by_cases taken : jobId = claimant ∧
          (backend.claim claimant hostId workerId now shared.store).1 = .ok true
      · obtain ⟨rfl, granted⟩ := taken
        exact decide_eq_true (lawful.claim_queued _ _ _ _ _ granted)
      · rw [if_neg taken] at moved
        rw [← waiting]
        exact (waits_of_view_eq moved).symm
  | heartbeat beating now =>
      refine .inl ?_
      rw [← waiting]
      exact (waits_of_view_eq (lawful.view_heartbeat beating now shared.store jobId)).symm
  | updateStatus written status now =>
      have moved := lawful.view_updateStatus written status now shared.store jobId
      by_cases same : jobId = written
      · subst same
        have shown : ((view shared.store jobId).map fun ticket =>
            (ticket.withStatus status).status) = some .queued := by
          have after := of_decide_eq_true waiting
          simp only [Shared.exec] at after
          rw [moved, if_pos rfl, Option.map_map] at after
          exact after
        obtain ⟨ticket, _, queued⟩ := Option.map_eq_some_iff.mp shown
        obtain rfl : status = .queued := queued
        exact .inr rfl
      · refine .inl ?_
        rw [if_neg same] at moved
        rw [← waiting]
        exact (waits_of_view_eq moved).symm
  | _ => exact .inl waiting

end Rules

/-! ## A round starts the handler of the job it claimed -/

section Honest

variable {σ α : Type} (view : σ → String → Option Ticket)

theorem WorkerCall.InSelection.idle {call : WorkerCall} (inside : call.InSelection) :
    (startRules view).Idle call := by
  cases call <;> first | exact ⟨fun _ => rfl, rfl⟩ | cases inside

theorem Quiet.thrifty {program : WorkerProg α} (quiet : Quiet program) :
    program.Only fun call => (startRules view).spends call = none :=
  quiet.mono fun _ unstarted => congrArg (Option.map Job.jobId) unstarted

namespace Worker

variable (worker : Worker) (inputs : RunInputs) (job : Job)

theorem quiet_releaseJob : Quiet (worker.releaseJob job) :=
  (worker.only_releaseJob job).mono fun _ => WorkerCall.InRelease.started_eq_none job

theorem honest_invoke :
    (startRules view).monitor.Accepts (fun _ _ => True) (some job.jobId)
      (worker.invoke inputs job) := by
  refine ⟨fun jobId same => same, fun _ _ => ?_⟩
  apply (startRules view).accepts_of_thrifty
  apply Quiet.thrifty view
  split
  · trivial
  · split
    · exact only_andThen _ ⟨rfl, fun _ => trivial⟩ fun _ => trivial
    · trivial

theorem honest_attempt :
    (startRules view).monitor.Accepts (fun _ _ => True) (some job.jobId)
      (worker.attempt inputs job) := by
  have beating : (startRules view).monitor.Accepts (fun reached _ => reached = some job.jobId)
      (some job.jobId) (call (.heartbeat job.jobId inputs.heartbeatAt)) := by
    apply (startRules view).accepts_of_idle
    exact ⟨⟨fun _ => rfl, rfl⟩, fun _ => trivial⟩
  apply (startRules view).accepts_bind_thrifty
  · refine accepts_andThen _ _ beating ?_ fun _ _ _ => trivial
    rintro _ _ rfl
    apply (startRules view).accepts_bind_thrifty (worker.honest_invoke view inputs job)
    intro reply
    apply Quiet.thrifty view
    cases reply with
    | ok value => exact only_andThen _ ⟨rfl, fun _ => trivial⟩ fun _ => trivial
    | error error => trivial
  · intro reply
    apply Quiet.thrifty view
    cases reply with
    | ok processed => trivial
    | error error =>
        dsimp only
        split
        · exact worker.quiet_recover inputs job error
        · trivial

/-- A round starts no handler but the one of the job it claimed, and that one once. -/
theorem honest_runOnce :
    (startRules view).monitor.Accepts (fun _ _ => True) none (worker.runOnce inputs) := by
  have selecting := (startRules view).accepts_of_idle
    (worker.only_select.mono fun _ inside => inside.idle view) none
  unfold runOnce
  split
  · refine accepts_andThen _ _ selecting ?_ fun _ _ _ => trivial
    rintro _ jobs rfl
    cases jobs with
    | nil => trivial
    | cons job rest =>
        refine ⟨fun _ same => (nomatch same), fun reply _ => ?_⟩
        cases reply with
        | error error => trivial
        | ok claimed =>
            show (startRules view).monitor.Accepts _ _ (worker.afterClaim inputs job claimed)
            unfold afterClaim
            cases claimed with
            | false =>
                apply (startRules view).accepts_of_thrifty
                apply Quiet.thrifty view
                exact (worker.quiet_releaseJob job).bind fun _ => trivial
            | true =>
                rw [if_pos rfl]
                split
                · apply (startRules view).accepts_bind_thrifty
                    (worker.honest_attempt view inputs job)
                  intro result
                  apply Quiet.thrifty view
                  exact (worker.quiet_releaseJob job).bind fun _ => trivial
                · trivial
  · trivial

end Worker

end Honest

/-! ## Runs -/

section Runs

variable {ι σ : Type}

/-- The history of a run of workers and other clients. -/
abbrev OpenEvent (ι : Type) : Type :=
  Event ι OpenOp WorkerCall WorkerCall.Reply (Except PyError Bool)

/-- How often the handler of the job was started. -/
def startsOf (jobId : String) (history : List (OpenEvent ι)) : Nat :=
  history.countP fun
    | .acted _ call _ => call.started.map Job.jobId = some jobId
    | _ => false

/-- How often the job was put in the queue: under its identifier by `enqueue`, or by a
status write. -/
def queuingsOf (jobId : String) (history : List (OpenEvent ι)) : Nat :=
  history.countP fun
    | .acted _ call _ => call.queues = some jobId
    | _ => false

theorem spentCount_startRules (view : σ → String → Option Ticket) (history : List (OpenEvent ι))
    (jobId : String) : (startRules view).spentCount history jobId = startsOf jobId history := by
  refine congrArg (history.countP ·) (funext fun event => ?_)
  cases event <;> rfl

theorem suppliedCount_startRules (view : σ → String → Option Ticket)
    (history : List (OpenEvent ι)) (jobId : String) :
    (startRules view).suppliedCount history jobId = queuingsOf jobId history := by
  refine congrArg (history.countP ·) (funext fun event => ?_)
  cases event <;> rfl

theorem startRules_fair [DecidableEq ι] {backend : QueueBackend σ}
    {view : σ → String → Option Ticket} (lawful : backend.Lawful view) (workers : ι → Worker) :
    (startRules view).Fair (openMachine backend workers) where
  takes := waits_of_claims lawful
  leaves := waits_exec lawful
  honest client op := by
    cases op with
    | runOnce inputs => exact (workers client).honest_runOnce view inputs
    | other program quiet => exact (startRules view).accepts_of_thrifty (quiet.thrifty view) none

/-- **Every start is paid for by a queuing.** Workers run beside clients that may make
any calls except starting a handler, on any lawful backend, from any shared state
and in any order. Then the handler of a job has started at most as often as the job
was in the queue at the start or was put there since, and once less while it waits. -/
theorem starts_le_queuings [DecidableEq ι] (backend : QueueBackend σ)
    (view : σ → String → Option Ticket) (lawful : backend.Lawful view) (workers : ι → Worker)
    (shared : Shared σ) (schedule : List (Action ι OpenOp)) (jobId : String) :
    startsOf jobId ((openMachine backend workers).runFrom (.initial shared) schedule).history +
        (((openMachine backend workers).runFrom (.initial shared) schedule).shared.waits
          view jobId).toNat ≤
      (shared.waits view jobId).toNat +
        queuingsOf jobId
          ((openMachine backend workers).runFrom (.initial shared) schedule).history := by
  have bound := (startRules_fair lawful workers).spentCount_le shared schedule jobId
  rw [spentCount_startRules, suppliedCount_startRules] at bound
  exact bound

end Runs

section Sample

/-- Two workers look at the queue before either of them claims. -/
def race : List (Action Bool OpenOp) :=
  [.call false (.runOnce {}), .call true (.runOnce {}), .act false, .act true, .act true,
    .act false, .act true, .act true, .act true]

/-- The job that both workers see starts once. -/
theorem race_starts_once :
    startsOf "first" ((openMachine MemoryQueueBackend.contract taskWorkers).runFrom
      (.initial oneTask) race).history ≤ 1 ∧
    startsOf "first" ((openMachine MemoryQueueBackend.contract taskWorkers).runFrom
      (.initial oneTask) race).history ≠ 0 := by
  have bound := starts_le_queuings MemoryQueueBackend.contract MemoryQueueBackend.view
    MemoryQueueBackend.lawful taskWorkers oneTask race "first"
  have waiting : (oneTask.waits MemoryQueueBackend.view "first").toNat = 1 := rfl
  have unqueued : queuingsOf "first" ((openMachine MemoryQueueBackend.contract
      taskWorkers).runFrom (.initial oneTask) race).history = 0 := rfl
  have started : startsOf "first" ((openMachine MemoryQueueBackend.contract
      taskWorkers).runFrom (.initial oneTask) race).history = 1 := rfl
  rw [waiting, unqueued] at bound
  exact ⟨by omega, by omega⟩

end Sample

end CloudDogJobs
