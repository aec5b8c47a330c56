import CloudDogJobs.Backend.Memory
import CloudDogJobs.Worker.Sequential

/-!
# Slots and status after `run_once`

The exits of `run_once` and what each leaves: the slots that selection took, and
the status of the claimed job. Two exits skip part of the clean-up. A job type
without a handler raises between the claim and the `try` block, so neither the
slots are given back nor the status is settled. An exception outside `Exception`
passes the `except` clause, so the slots are given back and the job stays
running.
-/

namespace CloudDogJobs

open Foundation WorkerProg

variable {σ : Type}

/-- The job is stored and not running. -/
def Settled (view : σ → String → Option Ticket) (jobId : String) (shared : Shared σ) : Prop :=
  ∃ ticket, view shared.store jobId = some ticket ∧ ticket.status ≠ .running

theorem Settled.not_running {view : σ → String → Option Ticket} {jobId : String}
    {shared : Shared σ} (settled : Settled view jobId shared) :
    (view shared.store jobId).map Ticket.status ≠ some .running := by
  obtain ⟨ticket, shown, ended⟩ := settled
  rw [shown]
  simpa using ended

/-- The manager and the pool of the second state. -/
def Shared.SlotsOf (before after : Shared σ) : Prop :=
  after.concurrency = before.concurrency ∧ after.pool = before.pool

/-- Execution calls leave the counters and the pool alone. -/
theorem WorkerCall.InExecution.keeps_slots {call : WorkerCall} {job : Job} {deadLetterId : String}
    (inside : call.InExecution job deadLetterId) (backend : QueueBackend σ) (shared : Shared σ) :
    shared.SlotsOf (Shared.exec backend call shared).2 := by
  cases call <;> first | exact ⟨rfl, rfl⟩ | cases inside

section Lawful

variable (worker : Worker) (backend : QueueBackend σ) {view : σ → String → Option Ticket}
  (lawful : backend.Lawful view)

theorem Worker.attempt_keeps_slots (inputs : RunInputs) (job : Job) (shared : Shared σ) :
    shared.SlotsOf ((worker.attempt inputs job).run (Shared.exec backend) shared).2 := by
  refine Prog.Only.run (Shared.exec backend) (worker.only_attempt inputs job) ?_ ⟨rfl, rfl⟩
  intro call state inside kept
  obtain ⟨first, second⟩ := inside.keeps_slots backend state
  exact ⟨first.trans kept.1, second.trans kept.2⟩

include lawful

/-- Execution calls keep a settled job settled. -/
theorem WorkerCall.InExecution.keeps_settled {call : WorkerCall} {job : Job}
    {deadLetterId : String} (inside : call.InExecution job deadLetterId) (shared : Shared σ)
    (settled : Settled view job.jobId shared) :
    Settled view job.jobId (Shared.exec backend call shared).2 := by
  obtain ⟨ticket, shown, ended⟩ := settled
  cases call with
  | heartbeat jobId now =>
      exact ⟨ticket, (lawful.view_heartbeat jobId now shared.store job.jobId).trans shown, ended⟩
  | updateStatus jobId status now =>
      obtain ⟨rfl, final⟩ := inside
      refine ⟨ticket.withStatus status, ?_, ?_⟩
      · exact (lawful.view_updateStatus job.jobId status now shared.store job.jobId).trans
          (by rw [if_pos rfl, shown]; rfl)
      · rintro same
        rw [Ticket.withStatus_status] at same
        rw [same] at final
        exact absurd final (by decide)
  | enqueue copy now =>
      obtain ⟨_, _, queued, _⟩ := inside
      by_cases same : job.jobId = copy.jobId
      · rcases lawful.enqueue_self copy now shared.store with kept | ⟨stored, replaced, copied, _⟩
        · exact ⟨ticket, by rw [same] at shown ⊢; exact kept.trans shown, ended⟩
        · refine ⟨stored, by rw [same]; exact replaced, ?_⟩
          rw [copied, queued]
          decide
      · exact ⟨ticket, (lawful.enqueue_other copy now shared.store job.jobId same).trans shown,
          ended⟩
  | handle started => exact ⟨ticket, shown, ended⟩
  | notify url payload => exact ⟨ticket, shown, ended⟩
  | _ => cases inside

/-- A job that is settled between two parts of an execution stays settled. -/
theorem settled_bind {α β : Type} {first : WorkerProg α} {next : α → WorkerProg β} {job : Job}
    (deadLetterId : String) {shared : Shared σ}
    (settled : Settled view job.jobId (first.run (Shared.exec backend) shared).2)
    (only : ∀ value, (next value).Only (WorkerCall.InExecution job deadLetterId)) :
    Settled view job.jobId ((first >>= next).run (Shared.exec backend) shared).2 := by
  rw [Prog.run_bind]
  refine Prog.Only.run (Shared.exec backend) (only _) ?_ settled
  intro call state inside before
  exact inside.keeps_settled backend lawful state before

theorem settled_andThen {α β : Type} {first : WorkerProg (Except PyError α)}
    {next : α → WorkerProg (Except PyError β)} {job : Job} (deadLetterId : String)
    {shared : Shared σ}
    (settled : Settled view job.jobId (first.run (Shared.exec backend) shared).2)
    (only : ∀ value, (next value).Only (WorkerCall.InExecution job deadLetterId)) :
    Settled view job.jobId ((andThen first next).run (Shared.exec backend) shared).2 := by
  apply settled_bind backend lawful deadLetterId settled
  intro reply
  cases reply with
  | ok value => exact only value
  | error error => trivial

/-- Writing a status that ends a round settles a stored job. -/
theorem settled_call (jobId : String) (status : JobStatus) (now : Int) (shared : Shared σ)
    (ends : status ≠ .running) (stored : (view shared.store jobId).isSome = true) :
    Settled view jobId
      ((call (.updateStatus jobId status now)).run (Shared.exec backend) shared).2 := by
  obtain ⟨ticket, shown⟩ := Option.isSome_iff_exists.mp stored
  refine ⟨ticket.withStatus status, ?_, ends⟩
  exact (lawful.view_updateStatus jobId status now shared.store jobId).trans
    (by rw [if_pos rfl, shown]; rfl)

theorem FallbackPolicyManager.apply_settles (manager : FallbackPolicyManager)
    (inputs : RunInputs) (job : Job) (error : PyError) (shared : Shared σ)
    (stored : (view shared.store job.jobId).isSome = true) :
    Settled view job.jobId
      ((manager.apply inputs job error).run (Shared.exec backend) shared).2 := by
  have marked : ∀ status, status ≠ JobStatus.running →
      Settled view job.jobId ((mark inputs job status).run (Shared.exec backend) shared).2 :=
    fun status ends => settled_call backend lawful job.jobId status _ shared ends stored
  unfold FallbackPolicyManager.apply
  split
  · exact settled_andThen backend lawful inputs.deadLetterId (marked _ (by decide))
      fun _ => trivial
  · apply settled_andThen backend lawful inputs.deadLetterId (marked _ (by decide))
    intro _
    apply only_andThen
    · exact ⟨⟨rfl, rfl, rfl, rfl, rfl⟩, fun _ => trivial⟩
    · intro _
      trivial
  · apply settled_andThen backend lawful inputs.deadLetterId (marked _ (by decide))
    intro _
    exact only_andThen _ (only_sendNotification _ inputs job error) fun _ => trivial
  · exact settled_andThen backend lawful inputs.deadLetterId (marked _ (by decide))
      fun _ => trivial

namespace Worker

theorem recover_settles (inputs : RunInputs) (job : Job) (error : PyError) (shared : Shared σ)
    (stored : (view shared.store job.jobId).isSome = true) :
    Settled view job.jobId
      ((worker.recover inputs job error).run (Shared.exec backend) shared).2 := by
  unfold recover
  split
  · next manager _ =>
      exact settled_andThen backend lawful inputs.deadLetterId
        (manager.apply_settles backend lawful inputs job error shared stored) fun _ => trivial
  · exact settled_andThen backend lawful inputs.deadLetterId
      (settled_call backend lawful job.jobId _ _ shared (by decide) stored) fun _ => trivial

theorem run_execute (inputs : RunInputs) (job : Job) (shared : Shared σ) :
    (worker.execute inputs job).run (Shared.exec backend) shared =
      (andThen (worker.invoke inputs job) fun _ =>
        andThen (call (.updateStatus job.jobId .succeeded inputs.finishedAt)) fun _ =>
          return .ok true).run (Shared.exec backend)
        { shared with
          store := (backend.heartbeat job.jobId inputs.heartbeatAt shared.store).2 } := by
  obtain ⟨found, answered⟩ := lawful.heartbeat_returns job.jobId inputs.heartbeatAt shared.store
  have beaten : (call (.heartbeat job.jobId inputs.heartbeatAt)).run (Shared.exec backend) shared =
      (.ok found, { shared with
        store := (backend.heartbeat job.jobId inputs.heartbeatAt shared.store).2 }) :=
    Prod.ext answered rfl
  exact run_andThen_ok backend _ beaten

omit lawful in
theorem run_invoke (inputs : RunInputs) (job : Job) (shared : Shared σ)
    (inTime : (worker.runTimeoutSeconds.isSome && inputs.late) = false) :
    (worker.invoke inputs job).run (Shared.exec backend) shared = (inputs.handler, shared) := by
  unfold invoke
  rw [Prog.run_bind]
  cases limit : worker.runTimeoutSeconds with
  | none => rfl
  | some seconds =>
      have punctual : inputs.late = false := by simpa [limit] using inTime
      simp only [punctual, Bool.false_eq_true, ↓reduceIte]
      rfl

/-- A run that overstays its timeout writes `timeout` and raises. -/
theorem run_invoke_late (inputs : RunInputs) (job : Job) (shared : Shared σ)
    (overdue : (worker.runTimeoutSeconds.isSome && inputs.late) = true)
    (stored : (view shared.store job.jobId).isSome = true) :
    ∃ message after, (worker.invoke inputs job).run (Shared.exec backend) shared =
        (.error (.timeoutError message), after) ∧ Settled view job.jobId after := by
  obtain ⟨limited, late⟩ := Bool.and_eq_true_iff.mp overdue
  obtain ⟨seconds, limit⟩ := Option.isSome_iff_exists.mp limited
  have written : (call (.updateStatus job.jobId .timeout inputs.timeoutAt)).run
      (Shared.exec backend) shared = (.ok (view shared.store job.jobId).isSome, _) :=
    Prod.ext (lawful.updateStatus_returns job.jobId .timeout inputs.timeoutAt shared.store) rfl
  have settled := settled_call backend lawful job.jobId .timeout inputs.timeoutAt shared
    (by decide) stored
  refine ⟨"Job timed out after " ++ seconds ++ "s", _, ?_, settled⟩
  unfold invoke
  rw [Prog.run_bind]
  simp only [limit, late, ↓reduceIte]
  exact run_andThen_ok backend _ written

/-- Unless its handler is interrupted, an executed job ends settled. -/
theorem attempt_settles (inputs : RunInputs) (job : Job) (shared : Shared σ)
    (regular : worker.interrupted inputs = false)
    (stored : (view shared.store job.jobId).isSome = true) :
    Settled view job.jobId
      ((worker.attempt inputs job).run (Shared.exec backend) shared).2 := by
  unfold attempt
  rw [Prog.run_bind, run_execute worker backend lawful]
  generalize beaten : ({ shared with
    store := (backend.heartbeat job.jobId inputs.heartbeatAt shared.store).2 } : Shared σ) = beat
  have alive : (view beat.store job.jobId).isSome = true := by
    rw [← beaten]
    exact (congrArg Option.isSome (lawful.view_heartbeat ..)).trans stored
  cases timing : worker.runTimeoutSeconds.isSome && inputs.late with
  | true =>
      obtain ⟨message, after, raised, settled⟩ :=
        worker.run_invoke_late backend lawful inputs job beat timing alive
      obtain ⟨ticket, shown, _⟩ := settled
      rw [run_andThen_error backend _ raised]
      exact worker.recover_settles backend lawful inputs job _ after (by rw [shown]; rfl)
  | false =>
      have invoked := worker.run_invoke backend inputs job beat timing
      cases reply : inputs.handler with
      | ok value =>
          rw [reply] at invoked
          rw [run_andThen_ok backend _ invoked]
          have written : (call (.updateStatus job.jobId .succeeded inputs.finishedAt)).run
              (Shared.exec backend) beat = (.ok (view beat.store job.jobId).isSome, _) :=
            Prod.ext (lawful.updateStatus_returns job.jobId _ inputs.finishedAt beat.store) rfl
          rw [run_andThen_ok backend _ written]
          exact settled_call backend lawful job.jobId _ _ beat (by decide) alive
      | error error =>
          have caught : error.isException = true := by
            simpa [interrupted, timing, reply] using regular
          rw [reply] at invoked
          rw [run_andThen_error backend _ invoked]
          simp only [caught, ↓reduceIte]
          exact worker.recover_settles backend lawful inputs job _ beat alive

/-- An interrupted handler leaves the status of its job alone. -/
theorem attempt_interrupted (inputs : RunInputs) (job : Job) (shared : Shared σ)
    (stopped : worker.interrupted inputs = true) :
    view ((worker.attempt inputs job).run (Shared.exec backend) shared).2.store job.jobId =
      view shared.store job.jobId := by
  obtain ⟨inTime, outside⟩ := Bool.and_eq_true_iff.mp stopped
  have timing : (worker.runTimeoutSeconds.isSome && inputs.late) = false := by
    rwa [Bool.not_eq_true'] at inTime
  unfold attempt
  rw [Prog.run_bind, run_execute worker backend lawful]
  cases reply : inputs.handler with
  | ok value =>
      rw [reply] at outside
      cases outside
  | error error =>
      have missed : error.isException = false := by simpa [reply] using outside
      have invoked := worker.run_invoke backend inputs job
        { shared with store := (backend.heartbeat job.jobId inputs.heartbeatAt shared.store).2 }
        timing
      rw [reply] at invoked
      rw [run_andThen_error backend _ invoked]
      simp only [missed, Bool.false_eq_true, ↓reduceIte]
      exact lawful.view_heartbeat job.jobId inputs.heartbeatAt shared.store job.jobId

end Worker

end Lawful

/-- What taking and giving back a job's slots does to a pool in which the job
held nothing: a negative count of a requested pool is reset to zero. -/
theorem Dispatcher.usedOf_released_taken (dispatcher : Dispatcher) (pool : ResourcePool)
    (job : Job) (room : dispatcher.resourceRoom pool job = true)
    (free : pool.holders.get? job.jobId = none) (name : String) :
    (dispatcher.resourcesReleased (dispatcher.resourcesTaken pool job) job).usedOf name =
      if dispatcher.resourcePool = true ∧ name ∈ job.resources.keys then max 0 (pool.usedOf name)
      else pool.usedOf name := by
  unfold Dispatcher.resourcesReleased
  cases managed : dispatcher.resourcePool with
  | false => simp [Dispatcher.resourcesTaken, managed]
  | true =>
      simp only [↓reduceIte, true_and]
      cases filled : job.resources.isEmpty with
      | true =>
          have unnamed : name ∉ job.resources.keys := by
            have nothing : job.resources.entries = [] := by simpa [Dict.isEmpty] using filled
            simp [Dict.keys, nothing]
          rw [if_neg unnamed]
          simp only [Dispatcher.resourcesTaken, managed, filled]
          exact pool.usedOf_release_of_free free name
      | false =>
          have granted : (pool.acquire job.jobId job.resources).1 = true := by
            rw [pool.acquire_fst job.jobId filled]
            simpa [Dispatcher.resourceRoom, managed, filled] using room
          simp only [Dispatcher.resourcesTaken, managed, filled]
          exact pool.usedOf_release_acquire job.jobId job.resources granted filled name

namespace Worker

variable (worker : Worker) (backend : QueueBackend σ) (view : σ → String → Option Ticket)
  (inputs : RunInputs) (shared : Shared σ)

/-- `run_once` gives back every slot it took, and a job it claimed is no longer
running when it has returned or raised. -/
structure CleansUp : Prop where
  concurrency : ((worker.runOnce inputs).run (Shared.exec backend) shared).2.concurrency.SameCounts
    shared.concurrency
  pool : ∀ name, ((worker.runOnce inputs).run (Shared.exec backend) shared).2.pool.usedOf name =
    shared.pool.usedOf name
  claimed : ∀ jobId hostId workerId now,
    (⟨.claim jobId hostId workerId now, .ok true⟩ : Sigma WorkerCall.Reply) ∈
        (worker.runOnce inputs).trace (Shared.exec backend) shared →
      (view ((worker.runOnce inputs).run (Shared.exec backend) shared).2.store jobId).map
        Ticket.status ≠ some .running

/-- The claim of the job is granted. -/
def grants (job : Job) : Prop :=
  (backend.claim job.jobId worker.hostId worker.workerId inputs.claimAt shared.store).1 = .ok true

variable {backend} {view} {inputs} {shared} {job : Job}

theorem run_afterClaim_refused (state : Shared σ) :
    (worker.afterClaim inputs job false).run (Shared.exec backend) state =
      (.ok false, worker.checks.released state job) := by
  simp only [afterClaim, Bool.false_eq_true, ↓reduceIte]
  rw [Prog.run_bind, run_releaseJob]
  rfl

theorem run_afterClaim_unregistered (state : Shared σ) (unknown : job.jobType ∉ worker.handlers) :
    (worker.afterClaim inputs job true).run (Shared.exec backend) state =
      (.error (.keyError ("Unknown job_type: " ++ job.jobType)), state) := by
  simp [afterClaim, unknown]

theorem run_afterClaim_registered (state : Shared σ) (known : job.jobType ∈ worker.handlers) :
    ((worker.afterClaim inputs job true).run (Shared.exec backend) state).2 =
      worker.checks.released
        ((worker.attempt inputs job).run (Shared.exec backend) state).2 job := by
  simp only [afterClaim, ↓reduceIte, known]
  rw [Prog.run_bind, Prog.run_bind, run_releaseJob]
  rfl

/-- The state in which the worker goes on after its claim. -/
def claimedState (worker : Worker) (backend : QueueBackend σ) (inputs : RunInputs)
    (shared : Shared σ) (job : Job) : Shared σ :=
  { worker.checks.taken shared job with
    store := worker.claimedStore backend inputs (worker.checks.taken shared job) job }

/-- Slots that are given back as they were taken restore the counters, and the
pools up to the clamp. -/
theorem released_of_slots {after : Shared σ}
    (admitted : worker.checks.admits view shared job = true)
    (free : shared.pool.holders.get? job.jobId = none)
    (slots : (worker.checks.taken shared job).SlotsOf after) :
    (worker.checks.released after job).concurrency.SameCounts shared.concurrency ∧
      ∀ name, (worker.checks.released after job).pool.usedOf name =
        if worker.resourcePool = true ∧ name ∈ job.resources.keys then
          max 0 (shared.pool.usedOf name)
        else shared.pool.usedOf name := by
  obtain ⟨roomy, spacious⟩ := Bool.and_eq_true_iff.mp (Bool.and_eq_true_iff.mp admitted).2
  obtain ⟨counters, pools⟩ := slots
  constructor
  · show (worker.checks.concurrencyReleased after.concurrency job).SameCounts _
    rw [counters]
    exact worker.checks.concurrencyReleased_taken shared.concurrency job roomy
  · intro name
    show (worker.checks.resourcesReleased after.pool job).usedOf name = _
    rw [pools]
    exact worker.checks.usedOf_released_taken shared.pool job spacious free name

/-- The release restores everything exactly when no requested pool is in the
negative. -/
theorem released_restores_iff {after : Shared σ}
    (admitted : worker.checks.admits view shared job = true)
    (free : shared.pool.holders.get? job.jobId = none)
    (slots : (worker.checks.taken shared job).SlotsOf after) :
    ((worker.checks.released after job).concurrency.SameCounts shared.concurrency ∧
      ∀ name, (worker.checks.released after job).pool.usedOf name = shared.pool.usedOf name) ↔
    (worker.resourcePool = true → ∀ name ∈ job.resources.keys, 0 ≤ shared.pool.usedOf name) := by
  obtain ⟨counters, pools⟩ := worker.released_of_slots admitted free slots
  constructor
  · intro restored managed name asked
    have same := restored.2 name
    rw [pools, if_pos ⟨managed, asked⟩] at same
    omega
  · intro sound
    refine ⟨counters, fun name => ?_⟩
    rw [pools]
    split
    · next asked =>
        have lower := sound asked.1 name asked.2
        omega
    · rfl

section Selected

variable (lawful : backend.Lawful view) (chosen : worker.selected backend view shared = some job)

include lawful chosen

omit chosen in
/-- A granted claim leaves the job stored and running. -/
theorem claimed_running (granted : worker.grants backend inputs shared job) :
    (view (worker.claimedState backend inputs shared job).store job.jobId).map Ticket.status =
      some .running := by
  have waiting := lawful.claim_queued _ _ _ _ _ granted
  obtain ⟨ticket, shown, _⟩ := Option.map_eq_some_iff.mp waiting
  have moved := lawful.view_claim job.jobId worker.hostId worker.workerId inputs.claimAt
    shared.store job.jobId
  rw [if_pos ⟨rfl, granted⟩, shown] at moved
  exact congrArg (Option.map Ticket.status) moved

/-- The claims in a run of `run_once` are those of the selected job. -/
theorem claim_in_trace_iff (jobId hostId workerId : String) (now : Int) :
    (⟨.claim jobId hostId workerId now, .ok true⟩ : Sigma WorkerCall.Reply) ∈
        (worker.runOnce inputs).trace (Shared.exec backend) shared ↔
      (jobId = job.jobId ∧ hostId = worker.hostId ∧ workerId = worker.workerId ∧
        now = inputs.claimAt) ∧ worker.grants backend inputs shared job := by
  constructor
  · intro issued
    obtain ⟨other, same, entry⟩ :=
      worker.eq_claimEntry_of_mem_trace backend lawful inputs shared issued trivial
    obtain rfl : job = other := Option.some.inj (chosen.symm.trans same)
    obtain ⟨call, reply⟩ := Sigma.mk.inj entry
    obtain ⟨rfl, rfl, rfl, rfl⟩ := WorkerCall.claim.inj call
    exact ⟨⟨rfl, rfl, rfl, rfl⟩, (eq_of_heq reply).symm⟩
  · rintro ⟨⟨rfl, rfl, rfl, rfl⟩, granted⟩
    have issued := worker.claimEntry_mem_trace backend lawful inputs shared chosen
    have entry : worker.claimEntry backend inputs shared job =
        ⟨.claim job.jobId worker.hostId worker.workerId inputs.claimAt, .ok true⟩ := by
      unfold claimEntry
      congr 1
    rwa [entry] at issued

theorem run_runOnce_claimed {claimed : Bool}
    (answered : (backend.claim job.jobId worker.hostId worker.workerId inputs.claimAt
      shared.store).1 = .ok claimed) :
    (worker.runOnce inputs).run (Shared.exec backend) shared =
      (worker.afterClaim inputs job claimed).run (Shared.exec backend)
        (worker.claimedState backend inputs shared job) := by
  rw [worker.run_runOnce_of_selected backend lawful inputs shared chosen]
  exact worker.run_process backend inputs job (worker.checks.taken shared job) answered

/-- The claim is lost: the slots are given back. -/
theorem cleansUp_iff_of_refused (free : shared.pool.holders.get? job.jobId = none)
    (refused : (backend.claim job.jobId worker.hostId worker.workerId inputs.claimAt
      shared.store).1 = .ok false) :
    worker.CleansUp backend view inputs shared ↔
      (worker.resourcePool = true → ∀ name ∈ job.resources.keys, 0 ≤ shared.pool.usedOf name) := by
  have ended := worker.run_runOnce_claimed lawful chosen refused
  rw [run_afterClaim_refused] at ended
  have slots : (worker.checks.taken shared job).SlotsOf
      (worker.claimedState backend inputs shared job) := ⟨rfl, rfl⟩
  rw [← worker.released_restores_iff (selected_eq_some.mp chosen).2.2 free slots]
  constructor
  · intro cleans
    exact ⟨by simpa only [ended] using cleans.concurrency, by simpa only [ended] using cleans.pool⟩
  · intro restored
    refine ⟨by rw [ended]; exact restored.1, by rw [ended]; exact restored.2, ?_⟩
    intro jobId hostId workerId now issued
    have granted :=
      ((worker.claim_in_trace_iff lawful chosen jobId hostId workerId now).mp issued).2
    rw [grants, refused] at granted
    cases granted

/-- There is no handler: the claimed job stays running. -/
theorem not_cleansUp_of_unregistered (granted : worker.grants backend inputs shared job)
    (unknown : job.jobType ∉ worker.handlers) :
    ¬ worker.CleansUp backend view inputs shared := by
  intro cleans
  have issued := (worker.claim_in_trace_iff lawful chosen _ _ _ _).mpr
    ⟨⟨rfl, rfl, rfl, rfl⟩, granted⟩
  have moved := cleans.claimed _ _ _ _ issued
  rw [worker.run_runOnce_claimed lawful chosen granted,
    run_afterClaim_unregistered worker _ unknown] at moved
  exact moved (worker.claimed_running lawful granted)

/-- The handler ran: everything depends on whether it was interrupted. -/
theorem cleansUp_iff_of_registered (free : shared.pool.holders.get? job.jobId = none)
    (granted : worker.grants backend inputs shared job) (known : job.jobType ∈ worker.handlers) :
    worker.CleansUp backend view inputs shared ↔
      (worker.resourcePool = true → ∀ name ∈ job.resources.keys, 0 ≤ shared.pool.usedOf name) ∧
        worker.interrupted inputs = false := by
  have ended := congrArg Prod.snd (worker.run_runOnce_claimed lawful chosen granted)
  rw [run_afterClaim_registered worker _ known] at ended
  have slots := worker.attempt_keeps_slots backend inputs job
    (worker.claimedState backend inputs shared job)
  have running := worker.claimed_running lawful granted
  rw [← worker.released_restores_iff (selected_eq_some.mp chosen).2.2 free slots]
  constructor
  · intro cleans
    refine ⟨⟨by simpa only [ended] using cleans.concurrency,
      by simpa only [ended] using cleans.pool⟩, ?_⟩
    by_contra stopped
    have issued := (worker.claim_in_trace_iff lawful chosen _ _ _ _).mpr
      ⟨⟨rfl, rfl, rfl, rfl⟩, granted⟩
    have moved := cleans.claimed _ _ _ _ issued
    rw [ended] at moved
    apply moved
    show (view ((worker.attempt inputs job).run (Shared.exec backend) _).2.store job.jobId).map
      Ticket.status = _
    rw [worker.attempt_interrupted backend lawful inputs job _ (by simpa using stopped)]
    exact running
  · rintro ⟨restored, regular⟩
    refine ⟨by rw [ended]; exact restored.1, by rw [ended]; exact restored.2, ?_⟩
    intro jobId hostId workerId now issued
    obtain ⟨⟨rfl, _⟩, _⟩ :=
      (worker.claim_in_trace_iff lawful chosen jobId hostId workerId now).mp issued
    rw [ended]
    obtain ⟨ticket, shown, _⟩ := Option.map_eq_some_iff.mp running
    exact (worker.attempt_settles backend lawful inputs job _ regular
      (by rw [shown]; rfl)).not_running

end Selected

/-- **When `run_once` leaks.** The backend is lawful, so its calls return: like the
lookup of the handler, the claim stands outside the `try` block, and an exception of
the backend there keeps the slots. From a state in which the selected job holds no
slots, `run_once` gives back every slot and leaves no claimed job running
exactly when the pools the job asks for are not in the negative and, if its
claim is granted, its type has a handler and the handler is not interrupted by
an exception outside `Exception`. -/
theorem runOnce_cleansUp_iff (worker : Worker) (backend : QueueBackend σ)
    (view : σ → String → Option Ticket) (lawful : backend.Lawful view) (inputs : RunInputs)
    (shared : Shared σ)
    (free : ∀ job, worker.selected backend view shared = some job →
      shared.pool.holders.get? job.jobId = none) :
    worker.CleansUp backend view inputs shared ↔
      ∀ job, worker.selected backend view shared = some job →
        (worker.resourcePool = true →
          ∀ name ∈ job.resources.keys, 0 ≤ shared.pool.usedOf name) ∧
        (worker.grants backend inputs shared job →
          job.jobType ∈ worker.handlers ∧ worker.interrupted inputs = false) := by
  cases chosen : worker.selected backend view shared with
  | none =>
      refine ⟨fun _ job other => (by cases other), fun _ => ?_⟩
      obtain ⟨after, ended, same⟩ : ∃ after,
          ((worker.runOnce inputs).run (Shared.exec backend) shared).2 = after ∧
            after.SameSlots shared := by
        cases authorised : worker.authorised with
        | false =>
            refine ⟨shared, ?_, .refl shared⟩
            rw [worker.run_runOnce_of_unauthorised backend inputs shared authorised]
        | true =>
            obtain ⟨after, ended, same⟩ :=
              worker.run_runOnce_of_none backend lawful inputs shared authorised chosen
            exact ⟨after, congrArg Prod.snd ended, same⟩
      refine ⟨by rw [ended]; exact same.concurrency, by rw [ended, same.pool]; simp, ?_⟩
      intro jobId hostId workerId now issued
      obtain ⟨job, other, _⟩ :=
        worker.eq_claimEntry_of_mem_trace backend lawful inputs shared issued trivial
      rw [chosen] at other
      cases other
  | some job =>
      have nothing := free job chosen
      have single : ∀ property : Job → Prop,
          (∀ other, some job = some other → property other) ↔ property job :=
        fun property =>
          ⟨fun every => every job rfl, fun one other same => Option.some.inj same ▸ one⟩
      rw [single fun job => (worker.resourcePool = true →
          ∀ name ∈ job.resources.keys, 0 ≤ shared.pool.usedOf name) ∧
        (worker.grants backend inputs shared job →
          job.jobType ∈ worker.handlers ∧ worker.interrupted inputs = false)]
      obtain ⟨claimed, answered⟩ := lawful.claim_returns job.jobId worker.hostId worker.workerId
        inputs.claimAt shared.store
      cases claimed with
      | false =>
          have lost : ¬ worker.grants backend inputs shared job := by
            rw [grants, answered]
            simp
          rw [worker.cleansUp_iff_of_refused lawful chosen nothing answered]
          simp [lost]
      | true =>
          have granted : worker.grants backend inputs shared job := answered
          by_cases known : job.jobType ∈ worker.handlers
          · rw [worker.cleansUp_iff_of_registered lawful chosen nothing granted known]
            simp [granted, known]
          · have leaks := worker.not_cleansUp_of_unregistered lawful chosen granted known
            simp [leaks, granted, known]

theorem runOnce_cleansUp_oneTask :
    Worker.CleansUp { concurrency := true, handlers := ["task"] } MemoryQueueBackend.contract
      MemoryQueueBackend.view {} oneTask := by
  refine (runOnce_cleansUp_iff _ _ _ MemoryQueueBackend.lawful _ _ fun _ _ => rfl).mpr ?_
  intro job chosen
  refine ⟨fun managed => (by cases managed), fun _ => ⟨?_, rfl⟩⟩
  obtain rfl : waitingJob "task" = job := Option.some.inj chosen
  decide

/-- Without a handler for the job's type the concurrency slot is never given
back. -/
theorem runOnce_leaks_without_handler :
    ¬ ∀ (worker : Worker) (inputs : RunInputs) (shared : Shared MemoryQueueBackend),
      (∀ job, worker.selected MemoryQueueBackend.contract MemoryQueueBackend.view shared =
        some job → shared.pool.holders.get? job.jobId = none) →
      worker.CleansUp MemoryQueueBackend.contract MemoryQueueBackend.view inputs shared := by
  intro clean
  have cleans := clean { concurrency := true } {} oneTask fun _ _ => rfl
  exact absurd cleans.concurrency.global (by decide)

end Worker

end CloudDogJobs
