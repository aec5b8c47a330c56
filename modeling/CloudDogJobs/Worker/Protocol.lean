import CloudDogJobs.Foundation.Interleaving
import CloudDogJobs.Queue.Queue
import CloudDogJobs.Worker.Footprint

/-!
# The protocol of a running worker

Workers and cancelling clients as one machine: each call on a shared object is a
step, and the steps of different clients interleave freely. `Stage` is what a
running operation knows about itself: its job, the slots it holds and whether it
still owes its job a final status. `protocol` says which calls an operation makes
in which stage, and `accepts_runOnce` that `run_once` keeps to it, whatever its
calls reply.
-/

namespace CloudDogJobs

open Foundation WorkerProg

/-- An operation of a client: a round of its worker, or a cancellation through
the queue. -/
inductive ServiceOp
  | runOnce (inputs : RunInputs)
  | cancel (jobId : String) (now : Int)

/-- Workers that share their objects, one for each client. -/
def serviceMachine {ι σ : Type} (backend : QueueBackend σ) (workers : ι → Worker) :
    Machine ι ServiceOp WorkerCall WorkerCall.Reply (Except PyError Bool) (Shared σ) where
  exec := Shared.exec backend
  code client
    | .runOnce inputs => (workers client).runOnce inputs
    | .cancel jobId now => JobQueue.cancel jobId now

/-- A call that takes no job and no slot, and gives none back. -/
def WorkerCall.Slotless : WorkerCall → Prop
  | .dequeue _ _ => False
  | .acquireConcurrency _ => False
  | .releaseConcurrency _ => False
  | .acquireResources _ _ => False
  | .releaseResources _ => False
  | _ => True

/-- Where a running operation stands. -/
@[ext] structure Stage where
  /-- The job it looks at. -/
  job : Option Job := none
  /-- It holds the concurrency slot of its job. -/
  concurrency : Bool := false
  /-- It has been granted the pool slots of its job. -/
  resources : Bool := false
  /-- Its claim was granted and no status that ends the round has been written. -/
  claimed : Bool := false
  /-- The job it cancels. -/
  cancelling : Option String := none
  /-- Its cancellation was written. -/
  cancelled : Bool := false

namespace Stage

/-- The stage after a status write. A timeout is not the last status of a round:
the `except` clause writes another one. -/
def afterStatus (stage : Stage) : JobStatus → Except PyError Bool → Stage
  | .timeout, _ => stage
  | .cancelled, .ok found => { stage with cancelled := found }
  | .cancelled, .error _ => stage
  | _, _ => { stage with claimed := false }

/-- The stage after a call. -/
def update (stage : Stage) : (call : WorkerCall) → call.Reply → Stage
  | .dequeue _ _, .ok jobs => { stage with job := jobs.head? }
  | .acquireConcurrency _, granted => { stage with concurrency := granted }
  | .releaseConcurrency _, _ => { stage with concurrency := false }
  | .acquireResources _ _, granted => { stage with resources := granted }
  | .releaseResources _, _ => { stage with resources := false }
  | .claim _ _ _ _, .ok claimed => { stage with claimed := claimed }
  | .updateStatus _ status _, reply => stage.afterStatus status reply
  | _, _ => stage

section Fields

variable (stage : Stage)

variable (limit : Int) (queueName : Option String) (jobs : Except PyError (List Job))

@[simp] theorem update_dequeue_concurrency :
    (stage.update (.dequeue limit queueName) jobs).concurrency = stage.concurrency := by
  cases jobs <;> rfl

@[simp] theorem update_dequeue_resources :
    (stage.update (.dequeue limit queueName) jobs).resources = stage.resources := by
  cases jobs <;> rfl

end Fields

/-- Two stages with the same job and the same slots. -/
structure SameSlots (first second : Stage) : Prop where
  job : first.job = second.job
  concurrency : first.concurrency = second.concurrency
  resources : first.resources = second.resources

/-- Such a call leaves the job and the slots as they are. -/
theorem update_sameSlots (stage : Stage) {call : WorkerCall} (slotless : call.Slotless)
    (reply : call.Reply) : (stage.update call reply).SameSlots stage := by
  cases call with
  | claim jobId hostId workerId now => cases reply <;> exact ⟨rfl, rfl, rfl⟩
  | updateStatus jobId status now =>
      show (stage.afterStatus status reply).SameSlots stage
      unfold afterStatus
      split <;> exact ⟨rfl, rfl, rfl⟩
  | dequeue limit queueName => cases slotless
  | acquireConcurrency jobType => cases slotless
  | releaseConcurrency jobType => cases slotless
  | acquireResources jobId resources => cases slotless
  | releaseResources jobId => cases slotless
  | _ => exact ⟨rfl, rfl, rfl⟩

/-- The calls an operation makes in a stage. -/
def Allows (stage : Stage) : WorkerCall → Prop
  | .dequeue _ _ => stage.concurrency = false ∧ stage.resources = false ∧ stage.claimed = false
  | .acquireConcurrency jobType =>
      stage.concurrency = false ∧ ∃ job, stage.job = some job ∧ jobType = job.jobType
  | .releaseConcurrency jobType =>
      stage.concurrency = true ∧ ∃ job, stage.job = some job ∧ jobType = job.jobType
  | .acquireResources jobId resources =>
      stage.resources = false ∧ ∃ job, stage.job = some job ∧ jobId = job.jobId ∧
        resources = job.resources ∧ job.resources.isEmpty = false
  | .releaseResources jobId =>
      ∃ job, stage.job = some job ∧ jobId = job.jobId ∧
        (job.resources.isEmpty = false → stage.resources = true)
  | .claim jobId _ _ _ =>
      stage.claimed = false ∧ ∃ job, stage.job = some job ∧ jobId = job.jobId
  | .updateStatus jobId status _ =>
      (stage.cancelling = some jobId ∧ status = .cancelled) ∨
        (stage.claimed = true ∧ status ≠ .cancelled ∧
          ∃ job, stage.job = some job ∧ jobId = job.jobId)
  | .enqueue copy _ =>
      ∃ job, stage.job = some job ∧ copy.jobType = job.jobType ∧ copy.resources = ∅
  | _ => True

end Stage

/-- The replies a lawful backend gives to a worker. -/
def WorkerCall.Possible : (call : WorkerCall) → call.Reply → Prop
  | .dequeue limit _, reply => ∃ jobs, reply = .ok jobs ∧ (0 ≤ limit → jobs.length ≤ limit.toNat)
  | .claim _ _ _ _, reply => ∃ claimed, reply = .ok claimed
  | .updateStatus _ _ _, reply => ∃ found, reply = .ok found
  | _, _ => True

/-- The protocol as a monitor. -/
def protocol : Monitor WorkerCall WorkerCall.Reply Stage where
  update := Stage.update
  allowed := Stage.Allows
  possible := WorkerCall.Possible

theorem QueueBackend.Lawful.possible {σ : Type} {backend : QueueBackend σ}
    {view : σ → String → Option Ticket} (lawful : backend.Lawful view) (call : WorkerCall)
    (shared : Shared σ) : call.Possible (Shared.exec backend call shared).1 := by
  cases call with
  | dequeue limit queueName =>
      obtain ⟨jobs, returned, _⟩ := lawful.dequeue limit none queueName shared.store
      exact ⟨jobs, returned, lawful.dequeue_length limit none queueName shared.store jobs returned⟩
  | claim jobId hostId workerId now => exact lawful.claim_returns jobId hostId workerId now _
  | updateStatus jobId status now =>
      exact ⟨_, lawful.updateStatus_returns jobId status now shared.store⟩
  | _ => trivial

/-- An operation with this job that holds nothing. -/
def Stage.Idle (stage : Stage) : Prop :=
  stage.concurrency = false ∧ stage.resources = false ∧ stage.claimed = false

/-- The slots a dispatcher takes for a job. -/
def Stage.holding (stage : Stage) (dispatcher : Dispatcher) (job : Job) : Stage :=
  { stage with
    concurrency := dispatcher.concurrency
    resources := dispatcher.resourcePool && !job.resources.isEmpty }

namespace Dispatcher

variable (dispatcher : Dispatcher)

theorem accepts_checkDependencies (stage : Stage) (job : Job) :
    protocol.Accepts (fun reached _ => reached = stage) stage
      (dispatcher.checkDependencies job) := by
  refine Monitor.Accepts.of_only protocol ?_ (dispatcher.only_checkDependencies job)
  intro call lookup
  cases call <;> first | exact ⟨trivial, fun _ => rfl⟩ | cases lookup

theorem accepts_acquireConcurrency (stage : Stage) (job : Job) (looking : stage.job = some job)
    (free : stage.concurrency = false) :
    protocol.Accepts (fun reached granted =>
        reached = { stage with concurrency := granted && dispatcher.concurrency }) stage
      (dispatcher.acquireConcurrency job) := by
  unfold acquireConcurrency
  cases dispatcher.concurrency with
  | false =>
      show stage = { stage with concurrency := false }
      rw [← free]
  | true =>
      refine ⟨⟨free, job, looking, rfl⟩, fun granted _ => ?_⟩
      show ({ stage with concurrency := granted } : Stage) = _
      rw [Bool.and_true]

theorem accepts_releaseConcurrency (stage : Stage) (job : Job) (looking : stage.job = some job)
    (held : stage.concurrency = dispatcher.concurrency) :
    protocol.Accepts (fun reached _ => reached = { stage with concurrency := false }) stage
      (dispatcher.releaseConcurrency job) := by
  unfold releaseConcurrency
  cases used : dispatcher.concurrency with
  | false =>
      show stage = { stage with concurrency := false }
      rw [← used, ← held]
  | true => exact ⟨⟨held.trans used, job, looking, rfl⟩, fun _ _ => rfl⟩

theorem accepts_acquireResources (stage : Stage) (job : Job) (looking : stage.job = some job)
    (free : stage.resources = false) :
    protocol.Accepts (fun reached granted =>
        reached = { stage with
          resources := granted && (dispatcher.resourcePool && !job.resources.isEmpty) }) stage
      (dispatcher.acquireResources job) := by
  unfold acquireResources
  cases asked : dispatcher.resourcePool && !job.resources.isEmpty with
  | false =>
      show stage = { stage with resources := false }
      rw [← free]
  | true =>
      have filled : job.resources.isEmpty = false := by simp_all
      refine ⟨⟨free, job, looking, rfl, rfl, filled⟩, fun granted _ => ?_⟩
      show ({ stage with resources := granted } : Stage) = _
      rw [Bool.and_true]

/-- Slots are taken together or not at all. -/
theorem accepts_acquireSlots (stage : Stage) (job : Job) (looking : stage.job = some job)
    (idle : stage.Idle) :
    protocol.Accepts (fun reached granted =>
        reached = if granted then stage.holding dispatcher job else stage) stage
      (dispatcher.acquireSlots job) := by
  obtain ⟨freeSlot, freePool, unclaimed⟩ := idle
  unfold acquireSlots
  refine Monitor.Accepts.bind_of_eq protocol
    (dispatcher.accepts_acquireConcurrency stage job looking freeSlot) ?_
  intro granted
  cases granted with
  | false =>
      show ({ stage with concurrency := false } : Stage) = stage
      rw [← freeSlot]
  | true =>
      simp only [↓reduceIte, Bool.true_and]
      refine Monitor.Accepts.bind_of_eq protocol
        (dispatcher.accepts_acquireResources _ job looking freePool) ?_
      intro available
      cases available with
      | true => rfl
      | false =>
          simp only [Bool.false_eq_true, ↓reduceIte, Bool.false_and]
          refine Monitor.Accepts.bind_of_eq protocol
            (dispatcher.accepts_releaseConcurrency _ job looking rfl) ?_
          intro _
          exact Stage.ext rfl freeSlot.symm freePool.symm rfl rfl rfl

theorem accepts_releaseJob (stage : Stage) (job : Job) (looking : stage.job = some job)
    (slot : stage.concurrency = dispatcher.concurrency)
    (slots : stage.resources = (dispatcher.resourcePool && !job.resources.isEmpty)) :
    protocol.Accepts (fun reached _ =>
        reached = { stage with concurrency := false, resources := false }) stage
      (dispatcher.releaseJob job) := by
  unfold releaseJob
  refine Monitor.Accepts.bind_of_eq protocol
    (dispatcher.accepts_releaseConcurrency stage job looking slot) ?_
  intro _
  cases used : dispatcher.resourcePool with
  | false =>
      have free : stage.resources = false := by rw [slots, used]; rfl
      show ({ stage with concurrency := false } : Stage) = _
      rw [← free]
  | true =>
      refine ⟨⟨job, looking, rfl, fun filled => ?_⟩, fun _ _ => rfl⟩
      show stage.resources = true
      rw [slots, used, filled]
      rfl

/-- Selection from at most one job: nothing is selected and nothing is held, or the
job is and its slots are. -/
theorem accepts_selectFrom (stage : Stage) (jobs : List Job) (short : jobs.length ≤ 1)
    (looking : stage.job = jobs.head?) (idle : stage.Idle) :
    protocol.Accepts (fun reached result =>
        (reached = stage ∧ ∀ selected, result = .ok selected → selected = []) ∨
          ∃ job, stage.job = some job ∧ result = .ok [job] ∧
            reached = stage.holding dispatcher job) stage
      (dispatcher.selectFrom jobs) := by
  cases jobs with
  | nil => exact .inl ⟨rfl, fun _ same => (Except.ok.inj same).symm⟩
  | cons job rest =>
      obtain rfl : rest = [] := List.eq_nil_of_length_eq_zero (by simpa using short)
      have admitted : protocol.Accepts (fun reached result =>
          reached = if result = .ok true then stage.holding dispatcher job else stage) stage
          (dispatcher.consider job) := by
        refine accepts_andThen_of_eq _ protocol
          (dispatcher.accepts_checkDependencies stage job) ?_ ?_
        · intro runnable
          cases runnable with
          | false => simp
          | true =>
              simp only [↓reduceIte]
              refine Monitor.Accepts.bind_of_eq protocol
                (dispatcher.accepts_acquireSlots _ job looking idle) ?_
              intro granted
              cases granted <;> simp
        · intro error
          simp
      refine accepts_andThen_of_eq _ protocol admitted ?_ ?_
      · intro granted
        cases granted with
        | false => exact .inl ⟨by simp, fun _ same => (Except.ok.inj same).symm⟩
        | true => exact .inr ⟨job, looking, rfl, by simp⟩
      · intro error
        exact .inl ⟨by simp, fun _ same => by cases same⟩

end Dispatcher

namespace Worker

variable (worker : Worker)

/-- What a selection leaves. -/
def Selects (stage : Stage) : Except PyError (List Job) → Prop
  | .ok (job :: _) => stage = ({ job := some job } : Stage).holding worker.checks job
  | _ => stage.Idle

theorem accepts_select : protocol.Accepts worker.Selects {} worker.select := by
  unfold select
  rcases worker.dispatcher_cases with present | ⟨absent, idle⟩
  · rw [present]
    refine ⟨⟨rfl, rfl, rfl⟩, ?_⟩
    rintro _ ⟨jobs, rfl, short⟩
    refine Monitor.Accepts.mono protocol ?_ (worker.checks.accepts_selectFrom
      { job := jobs.head? } jobs (short (by decide)) rfl ⟨rfl, rfl, rfl⟩)
    rintro reached result (⟨rfl, empty⟩ | ⟨job, looking, rfl, rfl⟩)
    · cases result with
      | error error => exact ⟨rfl, rfl, rfl⟩
      | ok selected =>
          rw [empty selected rfl]
          exact ⟨rfl, rfl, rfl⟩
    · show _ = _
      rw [← looking]
  · rw [absent]
    refine ⟨⟨rfl, rfl, rfl⟩, ?_⟩
    rintro _ ⟨jobs, rfl, short⟩
    cases jobs with
    | nil => exact ⟨rfl, rfl, rfl⟩
    | cons job rest =>
        show _ = _
        rw [idle]
        rfl

theorem accepts_releaseJob (stage : Stage) (job : Job) (looking : stage.job = some job)
    (slot : stage.concurrency = worker.concurrency)
    (slots : stage.resources = (worker.resourcePool && !job.resources.isEmpty)) :
    protocol.Accepts (fun reached _ =>
        reached = { stage with concurrency := false, resources := false }) stage
      (worker.releaseJob job) := by
  unfold releaseJob
  rcases worker.dispatcher_cases with present | ⟨absent, idle⟩
  · rw [present]
    exact worker.checks.accepts_releaseJob stage job looking slot slots
  · rw [absent]
    obtain ⟨first, second, _⟩ := Dispatcher.mk.inj idle
    refine Stage.ext rfl (slot.trans first) ?_ rfl rfl rfl
    show stage.resources = false
    rw [slots, second]
    rfl

/-- The stage of an execution, up to whether a final status is still owed. -/
def Executes (stage reached : Stage) : Prop :=
  ∃ claimed, reached = { stage with claimed := claimed }

theorem accepts_mark (stage : Stage) (inputs : RunInputs) (job : Job)
    (looking : stage.job = some job) (owed : stage.claimed = true) (status : JobStatus)
    (last : status ∈ [JobStatus.failed, .retryWait]) :
    protocol.Accepts (fun reached _ => reached = { stage with claimed := false }) stage
      (FallbackPolicyManager.mark inputs job status) := by
  simp only [List.mem_cons, List.not_mem_nil, or_false] at last
  rcases last with rfl | rfl
  · exact ⟨.inr ⟨owed, by decide, job, looking, rfl⟩, fun _ _ => rfl⟩
  · exact ⟨.inr ⟨owed, by decide, job, looking, rfl⟩, fun _ _ => rfl⟩

variable (inputs : RunInputs) {job : Job} {stage : Stage} (looking : stage.job = some job)

include looking

theorem accepts_apply (manager : FallbackPolicyManager) (error : PyError)
    (owed : stage.claimed = true) :
    protocol.Accepts (fun reached _ => Executes stage reached) stage
      (manager.apply inputs job error) := by
  have marked := fun status last => accepts_mark stage inputs job looking owed status last
  have settled : Executes stage { stage with claimed := false } := ⟨false, rfl⟩
  unfold FallbackPolicyManager.apply
  split
  · exact accepts_andThen_of_eq _ protocol (marked _ (by decide)) (fun _ => settled)
      fun _ => settled
  · refine accepts_andThen_of_eq _ protocol (marked _ (by decide)) ?_ fun _ => settled
    intro _
    refine ⟨⟨job, looking, rfl, rfl⟩, fun reply _ => ?_⟩
    cases reply with
    | ok copy => exact settled
    | error error => exact settled
  · refine accepts_andThen_of_eq _ protocol (marked _ (by decide)) ?_ fun _ => settled
    intro _
    have sent : protocol.Accepts (fun reached _ => reached = { stage with claimed := false })
        { stage with claimed := false }
        (FallbackPolicyManager.sendNotification (manager.policyFor job.jobType) inputs job
          error) := by
      unfold FallbackPolicyManager.sendNotification
      split
      · rfl
      · split
        · exact ⟨trivial, fun _ _ => rfl⟩
        · rfl
    exact accepts_andThen_of_eq _ protocol sent (fun _ => settled) fun _ => settled
  · exact accepts_andThen_of_eq _ protocol (marked _ (by decide)) (fun _ => settled)
      fun _ => settled

theorem accepts_recover (error : PyError) (owed : stage.claimed = true) :
    protocol.Accepts (fun reached _ => Executes stage reached) stage
      (worker.recover inputs job error) := by
  unfold recover
  split
  · next manager _ =>
      exact accepts_andThen _ protocol (accepts_apply inputs looking manager error owed)
        (fun _ _ reached => reached) fun _ _ reached => reached
  · exact accepts_andThen_of_eq _ protocol
      (accepts_mark stage inputs job looking owed .failed (by decide)) (fun _ => ⟨false, rfl⟩)
      fun _ => ⟨false, rfl⟩

theorem accepts_invoke (owed : stage.claimed = true) :
    protocol.Accepts (fun reached _ => reached = stage) stage (worker.invoke inputs job) := by
  refine ⟨trivial, fun _ _ => ?_⟩
  split
  · rfl
  · split
    · refine ⟨.inr ⟨owed, by decide, job, looking, rfl⟩, ?_⟩
      rintro _ ⟨found, rfl⟩
      rfl
    · rfl

/-- The `try` block ends with its final status written, or raises with the status
still owed. -/
theorem accepts_execute (owed : stage.claimed = true) :
    protocol.Accepts (fun reached result => reached =
        match result with
        | .ok _ => { stage with claimed := false }
        | .error _ => stage) stage (worker.execute inputs job) := by
  have beaten : protocol.Accepts (fun reached _ => reached = stage) stage
      (call (.heartbeat job.jobId inputs.heartbeatAt)) := ⟨trivial, fun _ _ => rfl⟩
  refine accepts_andThen_of_eq _ protocol beaten ?_ fun _ => rfl
  intro _
  refine accepts_andThen_of_eq _ protocol (worker.accepts_invoke inputs looking owed) ?_
    fun _ => rfl
  intro _
  refine ⟨.inr ⟨owed, by decide, job, looking, rfl⟩, ?_⟩
  rintro _ ⟨found, rfl⟩
  rfl

theorem accepts_attempt (owed : stage.claimed = true) :
    protocol.Accepts (fun reached _ => Executes stage reached) stage
      (worker.attempt inputs job) := by
  unfold attempt
  refine Monitor.Accepts.bind_of_eq protocol (worker.accepts_execute inputs looking owed) ?_
  intro result
  cases result with
  | ok processed => exact ⟨false, rfl⟩
  | error error =>
      dsimp only
      split
      · exact worker.accepts_recover inputs looking error owed
      · exact ⟨stage.claimed, rfl⟩

omit looking

/-- What `run_once` leaves: no slot, unless the type of its job has no handler. -/
def Returns (stage : Stage) : Prop :=
  (stage.concurrency = false ∧ stage.resources = false) ∨
    ∃ job, stage.job = some job ∧ job.jobType ∉ worker.handlers

theorem accepts_process (job : Job) :
    protocol.Accepts (fun reached _ => worker.Returns reached)
      (({ job := some job } : Stage).holding worker.checks job) (worker.process inputs job) := by
  refine ⟨⟨rfl, job, rfl, rfl⟩, ?_⟩
  rintro _ ⟨claimed, rfl⟩
  show protocol.Accepts _ _ (worker.afterClaim inputs job claimed)
  unfold afterClaim
  cases claimed with
  | false =>
      simp only [Bool.false_eq_true, ↓reduceIte]
      refine Monitor.Accepts.bind_of_eq protocol (worker.accepts_releaseJob _ job rfl rfl rfl) ?_
      intro _
      exact .inl ⟨rfl, rfl⟩
  | true =>
      simp only [↓reduceIte]
      split
      · rw [Monitor.accepts_bind]
        refine Monitor.Accepts.mono protocol ?_ (worker.accepts_attempt inputs rfl rfl)
        intro reached result executed
        obtain ⟨claimed, rfl⟩ := executed
        refine Monitor.Accepts.bind_of_eq protocol (worker.accepts_releaseJob _ job rfl rfl rfl) ?_
        intro _
        exact .inl ⟨rfl, rfl⟩
      · next unknown => exact .inr ⟨job, rfl, unknown⟩

/-- `run_once` keeps to the protocol. -/
theorem accepts_runOnce :
    protocol.Accepts (fun reached _ => worker.Returns reached) {} (worker.runOnce inputs) := by
  unfold runOnce
  split
  · refine accepts_andThen _ protocol worker.accepts_select ?_ ?_
    · intro reached jobs selected
      cases jobs with
      | nil => exact .inl ⟨selected.1, selected.2.1⟩
      | cons job rest =>
          obtain rfl : reached = _ := selected
          exact worker.accepts_process inputs job
    · intro reached error idle
      exact .inl ⟨idle.1, idle.2.1⟩
  · exact .inl ⟨rfl, rfl⟩

end Worker

/-- The stage in which an operation starts. -/
def ServiceOp.start : ServiceOp → Stage
  | .runOnce _ => {}
  | .cancel jobId _ => { cancelling := some jobId }

/-- What an operation leaves. A cancellation that returns `True` was written. -/
def ServiceOp.Leaves (worker : Worker) : ServiceOp → Stage → Except PyError Bool → Prop
  | .runOnce _, stage, _ => worker.Returns stage
  | .cancel jobId _, stage, result =>
      stage.concurrency = false ∧ stage.resources = false ∧
        (result = .ok true → stage.cancelling = some jobId ∧ stage.cancelled = true)

theorem ServiceOp.Leaves.returns {worker : Worker} {op : ServiceOp} {stage : Stage}
    {result : Except PyError Bool} (leaves : op.Leaves worker stage result) :
    worker.Returns stage := by
  cases op with
  | runOnce inputs => exact leaves
  | cancel jobId now => exact .inl ⟨leaves.1, leaves.2.1⟩

/-- Every operation keeps to the protocol. -/
theorem accepts_code {ι σ : Type} (backend : QueueBackend σ) (workers : ι → Worker) (client : ι)
    (op : ServiceOp) :
    protocol.Accepts (op.Leaves (workers client)) op.start
      ((serviceMachine backend workers).code client op) := by
  cases op with
  | runOnce inputs => exact (workers client).accepts_runOnce inputs
  | cancel jobId now =>
      refine ⟨.inl ⟨rfl, rfl⟩, ?_⟩
      rintro _ ⟨found, rfl⟩
      exact ⟨rfl, rfl, fun returned => ⟨rfl, Except.ok.inj returned⟩⟩

/-- A configuration of workers and cancelling clients. -/
abbrev ServiceConfig (ι σ : Type) : Type :=
  Config ι ServiceOp WorkerCall WorkerCall.Reply (Except PyError Bool) (Shared σ)

abbrev ServiceEvent (ι : Type) : Type :=
  Event ι ServiceOp WorkerCall WorkerCall.Reply (Except PyError Bool)

/-- The running operations with the stages they have reached. -/
def ServiceConfig.stages {ι σ : Type} (config : ServiceConfig ι σ) :
    ι → Option (ServiceOp × Stage) :=
  config.summary protocol fun _ op => op.start

/-- The obligations of an invariant over the running stages. That the operations
keep to the protocol, and that a lawful backend gives the replies it expects, is
already settled. -/
theorem serviceMachine_invariant {ι σ : Type} [DecidableEq ι] {backend : QueueBackend σ}
    {view : σ → String → Option Ticket} (lawful : backend.Lawful view) (workers : ι → Worker)
    {permit : ServiceConfig ι σ → Action ι ServiceOp → Prop}
    {holds : Shared σ → (ι → Option (ServiceOp × Stage)) → List (ServiceEvent ι) → Prop}
    (call : ∀ (config : ServiceConfig ι σ) client op, config.stages client = none →
      holds config.shared config.stages config.history →
      holds config.shared (Function.update config.stages client (some (op, op.start)))
        (config.history ++ [Event.called client op]))
    (act : ∀ (config : ServiceConfig ι σ) client op stage command resume log,
      permit config (.act client) →
      config.client client = .busy op (.act command resume) log →
      config.stages client = some (op, stage) → stage.Allows command →
      holds config.shared config.stages config.history →
      holds (Shared.exec backend command config.shared).2
        (Function.update config.stages client
          (some (op, stage.update command (Shared.exec backend command config.shared).1)))
        (config.history ++
          [Event.acted client command (Shared.exec backend command config.shared).1]))
    (ret : ∀ (config : ServiceConfig ι σ) client op stage value,
      config.stages client = some (op, stage) → op.Leaves (workers client) stage value →
      holds config.shared config.stages config.history →
      holds config.shared (Function.update config.stages client none)
        (config.history ++ [Event.returned client op value])) :
    (serviceMachine backend workers).Invariant protocol (fun _ op => op.start)
      (fun client op => op.Leaves (workers client)) permit holds where
  accepts _ client op _ := accepts_code backend workers client op
  replies config _ _ command _ _ _ _ _ := lawful.possible command config.shared
  call config client op _ idle valid :=
    call config client op (config.summary_of_idle idle protocol fun _ op => op.start) valid
  act config client op command resume log permitted busy allowed valid :=
    act config client op _ command resume log permitted busy
      (config.summary_of_busy busy protocol fun _ op => op.start) allowed valid
  ret config client op value _ _ busy leaves valid :=
    ret config client op _ value
      (config.summary_of_busy busy protocol fun _ op => op.start) leaves valid

end CloudDogJobs
