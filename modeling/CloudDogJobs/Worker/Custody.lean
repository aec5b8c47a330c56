import CloudDogJobs.Admin.Lifecycle
import CloudDogJobs.Worker.Protocol

/-!
# Workers obey the lifecycle

A worker writes statuses without asking the state machine. Between its claim and
its last status the job is in its custody: no other worker can claim it, so its
status is the one this worker has written last, and every status that `run_once`
writes next is one that the transition table allows from there. What can break
the lifecycle is a cancellation in between.
-/

namespace CloudDogJobs

open Foundation WorkerProg

variable {ι σ : Type}

/-- The job an operation has claimed or written, with the status it left it in. -/
abbrev Custody : Type := Option (String × JobStatus)

/-- A worker that left a job in this status has another status to write. -/
def JobStatus.InHand (status : JobStatus) : Prop := status = .running ∨ status = .timeout

/-- The operation has the job in custody. -/
def Custody.Holds (custody : Custody) (jobId : String) : Prop :=
  ∃ last, custody = some (jobId, last) ∧ last.InHand

/-- Follows the custody of an operation. A status is written on a job in custody and
along the transition table, or it is a cancellation. -/
def custodyMonitor : Monitor WorkerCall WorkerCall.Reply Custody where
  update custody
    | .claim jobId _ _ _, .ok true => some (jobId, .running)
    | .updateStatus jobId status _, .ok _ => some (jobId, status)
    | _, _ => custody
  allowed custody
    | .updateStatus jobId status _ => status = .cancelled ∨
        ∃ last, custody = some (jobId, last) ∧ last.InHand ∧ last.MayBecome status
    | _ => True
  possible := WorkerCall.Possible

/-! ## What a round does -/

section Rounds

/-- A call that changes no custody. -/
def WorkerCall.Aside : WorkerCall → Prop
  | .claim _ _ _ _ => False
  | .updateStatus _ _ _ => False
  | _ => True

theorem custodyMonitor_aside {call : WorkerCall} (aside : call.Aside) (custody : Custody) :
    custodyMonitor.allowed custody call ∧
      ∀ reply, custodyMonitor.update custody call reply = custody := by
  cases call <;> first | exact ⟨trivial, fun _ => rfl⟩ | cases aside

theorem WorkerCall.InSelection.aside {call : WorkerCall} (inside : call.InSelection) :
    call.Aside := by
  cases call <;> trivial

theorem WorkerCall.InRelease.aside {call : WorkerCall} {job : Job} (inside : call.InRelease job) :
    call.Aside := by
  cases call <;> trivial

variable (worker : Worker) (inputs : RunInputs) (job : Job) {custody : Custody}

/-- Failing a job in custody, or putting it aside for a retry, follows the table. -/
theorem accepts_mark_inHand (held : custody.Holds job.jobId) (status : JobStatus)
    (ends : status ∈ [JobStatus.failed, .retryWait]) :
    custodyMonitor.Accepts (fun _ _ => True) custody
      (FallbackPolicyManager.mark inputs job status) := by
  obtain ⟨last, rfl, hand⟩ := held
  refine ⟨.inr ⟨last, rfl, hand, ?_⟩, fun _ _ => trivial⟩
  simp only [List.mem_cons, List.not_mem_nil, or_false] at ends
  rcases hand with rfl | rfl
  · rcases ends with rfl | rfl <;> decide
  · rcases ends with rfl | rfl <;> decide

theorem accepts_apply_inHand (manager : FallbackPolicyManager) (error : PyError)
    (held : custody.Holds job.jobId) :
    custodyMonitor.Accepts (fun _ _ => True) custody (manager.apply inputs job error) := by
  have marked := fun status ends => accepts_mark_inHand inputs job held status ends
  have aside : ∀ {α : Type} {program : WorkerProg α} (reached : Custody),
      program.Only WorkerCall.Aside →
        custodyMonitor.Accepts (fun _ _ => True) reached program := fun reached only =>
    Monitor.Accepts.mono custodyMonitor (fun _ _ _ => trivial)
      (Monitor.Accepts.of_only custodyMonitor
        (fun _ quiet => custodyMonitor_aside quiet reached) only)
  unfold FallbackPolicyManager.apply
  split
  · exact accepts_andThen _ custodyMonitor (marked _ (by decide)) (fun _ _ _ => trivial)
      fun _ _ _ => trivial
  · refine accepts_andThen _ custodyMonitor (marked _ (by decide)) (fun reached _ _ => ?_)
      fun _ _ _ => trivial
    apply aside reached
    exact only_andThen _ ⟨trivial, fun _ => trivial⟩ fun _ => trivial
  · refine accepts_andThen _ custodyMonitor (marked _ (by decide)) (fun reached _ _ => ?_)
      fun _ _ _ => trivial
    apply aside reached
    apply only_andThen
    · unfold FallbackPolicyManager.sendNotification
      split
      · trivial
      · split
        · exact ⟨trivial, fun _ => trivial⟩
        · trivial
    · intro _
      trivial
  · exact accepts_andThen _ custodyMonitor (marked _ (by decide)) (fun _ _ _ => trivial)
      fun _ _ _ => trivial

namespace Worker

theorem accepts_recover_inHand (error : PyError) (held : custody.Holds job.jobId) :
    custodyMonitor.Accepts (fun _ _ => True) custody (worker.recover inputs job error) := by
  unfold recover
  split
  · next manager _ =>
      exact accepts_andThen _ custodyMonitor (accepts_apply_inHand inputs job manager error held)
        (fun _ _ _ => trivial) fun _ _ _ => trivial
  · exact accepts_andThen _ custodyMonitor
      (accepts_mark_inHand inputs job held .failed (by decide)) (fun _ _ _ => trivial)
      fun _ _ _ => trivial

/-- The handler runs while the job is running. A late one leaves it in `timeout`. -/
theorem accepts_invoke_running :
    custodyMonitor.Accepts (fun reached result => reached.Holds job.jobId ∧
        (∀ value, result = .ok value → reached = some (job.jobId, .running)))
      (some (job.jobId, .running)) (worker.invoke inputs job) := by
  have running : Custody.Holds (some (job.jobId, .running)) job.jobId := ⟨.running, rfl, .inl rfl⟩
  refine ⟨trivial, fun _ _ => ?_⟩
  split
  · exact ⟨running, fun _ _ => rfl⟩
  · split
    · refine ⟨.inr ⟨.running, rfl, .inl rfl, by decide⟩, ?_⟩
      rintro _ ⟨found, rfl⟩
      exact ⟨⟨.timeout, rfl, .inr rfl⟩, fun _ same => nomatch same⟩
    · exact ⟨running, fun _ _ => rfl⟩

/-- A `try` block that raises leaves the job in custody. -/
theorem accepts_execute_running :
    custodyMonitor.Accepts
      (fun reached result => ∀ error, result = .error error → reached.Holds job.jobId)
      (some (job.jobId, .running)) (worker.execute inputs job) := by
  have beaten : custodyMonitor.Accepts (fun reached _ => reached = some (job.jobId, .running))
      (some (job.jobId, .running)) (call (.heartbeat job.jobId inputs.heartbeatAt)) :=
    ⟨trivial, fun _ _ => rfl⟩
  have running : Custody.Holds (some (job.jobId, .running)) job.jobId := ⟨.running, rfl, .inl rfl⟩
  refine accepts_andThen _ custodyMonitor beaten ?_ ?_
  · rintro _ _ rfl
    refine accepts_andThen _ custodyMonitor (worker.accepts_invoke_running inputs job) ?_ ?_
    · rintro reached value ⟨_, same⟩
      rw [same value rfl]
      refine ⟨.inr ⟨.running, rfl, .inl rfl, by decide⟩, ?_⟩
      rintro _ ⟨found, rfl⟩
      exact fun _ same => nomatch same
    · rintro reached error ⟨held, _⟩ _ _
      exact held
  · rintro _ error rfl _ _
    exact running

theorem accepts_attempt_running :
    custodyMonitor.Accepts (fun _ _ => True) (some (job.jobId, .running))
      (worker.attempt inputs job) := by
  unfold attempt
  rw [Monitor.accepts_bind]
  refine Monitor.Accepts.mono custodyMonitor ?_ (worker.accepts_execute_running inputs job)
  intro reached result held
  cases result with
  | ok processed => trivial
  | error error =>
      dsimp only
      split
      · exact worker.accepts_recover_inHand inputs job error (held error rfl)
      · trivial

theorem accepts_releaseJob_aside (reached : Custody) (result : Except PyError Bool) :
    custodyMonitor.Accepts (fun _ _ => True) reached (do
      worker.releaseJob job
      return result) := by
  rw [Monitor.accepts_bind]
  refine Monitor.Accepts.mono custodyMonitor (fun _ _ _ => trivial)
    (Monitor.Accepts.of_only custodyMonitor
      (fun _ inside => custodyMonitor_aside inside.aside reached)
      (worker.only_releaseJob job))

/-- A round writes statuses on its own job, along the table. -/
theorem accepts_runOnce_custody :
    custodyMonitor.Accepts (fun _ _ => True) none (worker.runOnce inputs) := by
  have selected : custodyMonitor.Accepts (fun reached _ => reached = none) none worker.select :=
    Monitor.Accepts.of_only custodyMonitor
      (fun _ inside => custodyMonitor_aside inside.aside none) worker.only_select
  unfold runOnce
  split
  · refine accepts_andThen _ custodyMonitor selected ?_ fun _ _ _ => trivial
    rintro _ jobs rfl
    cases jobs with
    | nil => trivial
    | cons job rest =>
        refine ⟨trivial, ?_⟩
        rintro _ ⟨claimed, rfl⟩
        cases claimed with
        | false => exact worker.accepts_releaseJob_aside job none _
        | true =>
            show custodyMonitor.Accepts _ (some (job.jobId, .running))
              (worker.afterClaim inputs job true)
            unfold afterClaim
            rw [if_pos rfl]
            split
            · rw [Monitor.accepts_bind]
              refine Monitor.Accepts.mono custodyMonitor ?_
                (worker.accepts_attempt_running inputs job)
              intro reached result _
              exact worker.accepts_releaseJob_aside job reached result
            · trivial
  · trivial

end Worker

end Rounds

/-! ## Custody under interleaving -/

section Runs

variable [DecidableEq ι] {view : σ → String → Option Ticket} {before after : σ}
  {holders : ι → Option (ServiceOp × Custody)} {client : ι} {op : ServiceOp} {custody : Custody}

/-- Every job in custody shows the status that its holder has given it, and has one
holder. -/
structure Entrusted (view : σ → String → Option Ticket) (store : σ)
    (holders : ι → Option (ServiceOp × Custody)) : Prop where
  shown : ∀ client op jobId last, holders client = some (op, some (jobId, last)) → last.InHand →
    shownStatus view store jobId = some last
  single : ∀ first second op running jobId custody other,
    holders first = some (op, custody) → custody.Holds jobId →
    holders second = some (running, other) → other.Holds jobId → first = second

/-- Some operation has the job in custody. -/
def Held (holders : ι → Option (ServiceOp × Custody)) (jobId : String) : Prop :=
  ∃ client op custody, holders client = some (op, custody) ∧ custody.Holds jobId

namespace Entrusted

/-- A step that leaves every custody as it is. -/
theorem quiet (entrusted : Entrusted view before holders)
    (found : holders client = some (op, custody))
    (same : ∀ jobId, Held holders jobId →
      shownStatus view after jobId = shownStatus view before jobId) :
    Entrusted view after (Function.update holders client (some (op, custody))) := by
  rw [← found, Function.update_eq_self]
  refine ⟨?_, entrusted.single⟩
  intro other running jobId last shown hand
  rw [same jobId ⟨other, running, _, shown, last, rfl, hand⟩]
  exact entrusted.shown other running jobId last shown hand

/-- A step by which an operation gives a job the status that it then shows, where no
other operation holds the job. -/
theorem give (entrusted : Entrusted view before holders) (jobId : String) (status : JobStatus)
    (free : ∀ other running held, holders other = some (running, held) → held.Holds jobId →
      other = client)
    (written : status.InHand → shownStatus view after jobId = some status)
    (same : ∀ other, other ≠ jobId →
      shownStatus view after other = shownStatus view before other) :
    Entrusted view after (Function.update holders client (some (op, some (jobId, status)))) := by
  constructor
  · intro other running shownId last shown hand
    rcases update_some_cases shown with ⟨rfl, entry⟩ | ⟨different, earlier⟩
    · cases entry
      exact written hand
    · have apart : shownId ≠ jobId := by
        rintro rfl
        exact different (free other running _ earlier ⟨last, rfl, hand⟩)
      rw [same shownId apart]
      exact entrusted.shown other running shownId last earlier hand
  · intro first second running running' shownId held held' shown holds shown' holds'
    rcases update_some_cases shown with ⟨rfl, entry⟩ | ⟨_, earlier⟩
    · rcases update_some_cases shown' with ⟨rfl, _⟩ | ⟨_, earlier'⟩
      · rfl
      · cases entry
        obtain ⟨last, moved, _⟩ := holds
        cases moved
        exact (free second running' held' earlier' holds').symm
    · rcases update_some_cases shown' with ⟨rfl, entry'⟩ | ⟨_, earlier'⟩
      · cases entry'
        obtain ⟨last, moved, _⟩ := holds'
        cases moved
        exact free first running held earlier holds
      · exact entrusted.single first second running running' shownId held held' earlier holds
          earlier' holds'

variable {backend : QueueBackend σ} (lawful : backend.Lawful view)

include lawful

/-- A granted claim takes a job that nobody holds. -/
theorem claim (entrusted : Entrusted view before holders) (jobId hostId workerId : String)
    (now : Int) (granted : (backend.claim jobId hostId workerId now before).1 = .ok true) :
    Entrusted view (backend.claim jobId hostId workerId now before).2
      (Function.update holders client (some (op, some (jobId, .running)))) := by
  have waiting : shownStatus view before jobId = some .queued :=
    lawful.claim_queued _ _ _ _ _ granted
  have moved := fun other => lawful.view_claim jobId hostId workerId now before other
  apply entrusted.give jobId .running
  · rintro other running _ shown ⟨last, rfl, hand⟩
    have held := entrusted.shown other running jobId last shown hand
    rw [waiting] at held
    obtain rfl := Option.some.inj held
    rcases hand with same | same <;> cases same
  · intro _
    rw [shownStatus, moved jobId, if_pos ⟨rfl, granted⟩, Option.map_map]
    obtain ⟨ticket, stored, _⟩ := Option.map_eq_some_iff.mp waiting
    rw [stored]
    rfl
  · intro other different
    rw [shownStatus, moved other, if_neg fun both => different both.1]
    rfl

/-- A status write on a job that nobody else holds. -/
theorem write (entrusted : Entrusted view before holders) (jobId : String) (status : JobStatus)
    (now : Int)
    (free : ∀ other running held, holders other = some (running, held) → held.Holds jobId →
      other = client)
    (stored : status.InHand → (shownStatus view before jobId).isSome) :
    Entrusted view (backend.updateStatus jobId status.value now before).2
      (Function.update holders client (some (op, some (jobId, status)))) := by
  have moved := fun other => lawful.view_updateStatus jobId status now before other
  apply entrusted.give jobId status free
  · intro hand
    obtain ⟨current, shown⟩ := Option.isSome_iff_exists.mp (stored hand)
    obtain ⟨ticket, present, _⟩ := Option.map_eq_some_iff.mp shown
    rw [shownStatus, moved jobId, if_pos rfl, present]
    rfl
  · intro other different
    rw [shownStatus, moved other, if_neg different]
    rfl

end Entrusted

/-- What the next call of a client may not do: cancel a job that is in custody or
past cancelling, or store a dead letter under an identifier in use. -/
def Orderly (view : σ → String → Option Ticket) (store : σ)
    (holders : ι → Option (ServiceOp × Custody)) : WorkerCall → Prop
  | .updateStatus jobId .cancelled _ =>
      ¬ Held holders jobId ∧
        ∀ status, shownStatus view store jobId = some status → status.Cancellable
  | .enqueue copy _ => view store copy.jobId = none
  | _ => True

/-- A step that changes the status of one job, and that as the table allows. -/
theorem obeys_of_single (registry : Dict String StateExtension) (jobId : String)
    (same : ∀ other, other ≠ jobId →
      shownStatus view after other = shownStatus view before other)
    (admits : ∀ source target, shownStatus view before jobId = some source →
      shownStatus view after jobId = some target → source.Admits target) :
    ObeysLifecycle registry (shownStatus view before) (shownStatus view after) := by
  rw [obeysLifecycle_iff]
  intro other source target shown written
  by_cases changed : other = jobId
  · subst changed
    exact admits source target shown written
  · rw [same other changed] at written
    exact .inl (Option.some.inj (shown.symm.trans written))

/-- A status write on a job that shows nothing, or a status that admits the new one. -/
theorem obeys_write {backend : QueueBackend σ} (lawful : backend.Lawful view)
    (registry : Dict String StateExtension) (jobId : String) (status : JobStatus) (now : Int)
    (admits : ∀ source, shownStatus view before jobId = some source → source.Admits status) :
    ObeysLifecycle registry (shownStatus view before)
      (shownStatus view (backend.updateStatus jobId status.value now before).2) := by
  have moved := fun other => lawful.view_updateStatus jobId status now before other
  apply obeys_of_single registry jobId
  · intro other different
    rw [shownStatus, moved other, if_neg different]
    rfl
  · intro source target shown written
    rw [shownStatus, moved jobId, if_pos rfl] at written
    obtain ⟨ticket, present, _⟩ := Option.map_eq_some_iff.mp shown
    rw [present] at written
    obtain rfl : status = target := Option.some.inj written
    exact admits source shown

/-- A refused claim shows nothing new. -/
theorem shown_refused {backend : QueueBackend σ} (lawful : backend.Lawful view)
    {jobId hostId workerId : String} {now : Int}
    (refused : (backend.claim jobId hostId workerId now before).1 = .ok false) :
    shownStatus view (backend.claim jobId hostId workerId now before).2 =
      shownStatus view before := by
  funext other
  rw [shownStatus, lawful.view_claim jobId hostId workerId now before other, refused,
    if_neg (by simp)]
  rfl

/-- A granted claim takes a waiting job to `running`. -/
theorem obeys_granted {backend : QueueBackend σ} (lawful : backend.Lawful view)
    (registry : Dict String StateExtension) {jobId hostId workerId : String} {now : Int}
    (granted : (backend.claim jobId hostId workerId now before).1 = .ok true) :
    ObeysLifecycle registry (shownStatus view before)
      (shownStatus view (backend.claim jobId hostId workerId now before).2) := by
  have moved := fun other => lawful.view_claim jobId hostId workerId now before other
  apply obeys_of_single registry jobId
  · intro other different
    rw [shownStatus, moved other, if_neg fun both => different both.1]
    rfl
  · intro source target shown written
    have waiting := lawful.claim_queued _ _ _ _ _ granted
    obtain rfl : JobStatus.queued = source := Option.some.inj (waiting.symm.trans shown)
    obtain ⟨ticket, present, _⟩ := Option.map_eq_some_iff.mp waiting
    rw [shownStatus, moved jobId, if_pos ⟨rfl, granted⟩, present] at written
    obtain rfl : JobStatus.running = target := Option.some.inj written
    decide

theorem shown_enqueue {backend : QueueBackend σ} (lawful : backend.Lawful view) (copy : Job)
    (now : Int) {other : String} (different : other ≠ copy.jobId) :
    shownStatus view (backend.enqueue copy now before).2 other = shownStatus view before other :=
  congrArg (Option.map Ticket.status) (lawful.enqueue_other copy now before other different)

/-- A new job is in no status before. -/
theorem obeys_enqueue {backend : QueueBackend σ} (lawful : backend.Lawful view)
    (registry : Dict String StateExtension) {copy : Job} (now : Int)
    (fresh : view before copy.jobId = none) :
    ObeysLifecycle registry (shownStatus view before)
      (shownStatus view (backend.enqueue copy now before).2) := by
  apply obeys_of_single registry copy.jobId
  · exact fun other different => shown_enqueue lawful copy now different
  · intro source target shown _
    rw [shownStatus, fresh] at shown
    cases shown

/-- Every call keeps jobs entrusted and obeys the lifecycle. -/
theorem entrusted_exec {backend : QueueBackend σ} (lawful : backend.Lawful view)
    {shared : Shared σ} (entrusted : Entrusted view shared.store holders)
    (found : holders client = some (op, custody)) (call : WorkerCall)
    (allowed : custodyMonitor.allowed custody call)
    (orderly : Orderly view shared.store holders call) (registry : Dict String StateExtension) :
    Entrusted view (Shared.exec backend call shared).2.store
        (Function.update holders client (some (op, custodyMonitor.update custody call
          (Shared.exec backend call shared).1))) ∧
      ObeysLifecycle registry (shownStatus view shared.store)
        (shownStatus view (Shared.exec backend call shared).2.store) := by
  cases call with
  | claim jobId hostId workerId now =>
      obtain ⟨claimed, answered⟩ := lawful.claim_returns jobId hostId workerId now shared.store
      simp only [Shared.exec, custodyMonitor, answered]
      cases claimed with
      | false =>
          have same := shown_refused lawful answered
          refine ⟨entrusted.quiet found fun other _ => congrFun same other, ?_⟩
          rw [same]
          exact obeysLifecycle_self registry _
      | true =>
          exact ⟨entrusted.claim lawful jobId hostId workerId now answered,
            obeys_granted lawful registry answered⟩
  | updateStatus jobId status now =>
      have answered := lawful.updateStatus_returns jobId status now shared.store
      simp only [Shared.exec, custodyMonitor, answered]
      by_cases cancels : status = .cancelled
      · subst cancels
        obtain ⟨unheld, cancellable⟩ := orderly
        refine ⟨entrusted.write lawful jobId .cancelled now ?_ ?_, ?_⟩
        · intro other running held shown holds
          exact absurd ⟨other, running, held, shown, holds⟩ unheld
        · rintro (same | same) <;> cases same
        · apply obeys_write lawful registry
          intro source shown
          exact (JobStatus.admits_cancelled source).mpr (cancellable source shown)
      · obtain ⟨last, rfl, hand, becomes⟩ := allowed.resolve_left cancels
        have shown := entrusted.shown client op jobId last found hand
        refine ⟨entrusted.write lawful jobId status now ?_ ?_, ?_⟩
        · intro other running held holding holds
          exact entrusted.single other client running op jobId held _ holding holds found
            ⟨last, rfl, hand⟩
        · intro _
          rw [shown]
          rfl
        · apply obeys_write lawful registry
          intro source current
          obtain rfl : last = source := Option.some.inj (shown.symm.trans current)
          exact .inr becomes
  | enqueue copy now =>
      have fresh : view shared.store copy.jobId = none := orderly
      refine ⟨entrusted.quiet found ?_, obeys_enqueue lawful registry now fresh⟩
      rintro jobId ⟨holder, running, _, holding, last, rfl, hand⟩
      apply shown_enqueue lawful copy now
      rintro rfl
      have shown := entrusted.shown holder running copy.jobId last holding hand
      rw [shownStatus, fresh] at shown
      cases shown
  | heartbeat jobId now =>
      have same : ∀ other, shownStatus view (backend.heartbeat jobId now shared.store).2 other =
          shownStatus view shared.store other := fun other =>
        congrArg (Option.map Ticket.status) (lawful.view_heartbeat jobId now shared.store other)
      refine ⟨entrusted.quiet found fun other _ => same other, ?_⟩
      simp only [Shared.exec]
      rw [funext same]
      exact obeysLifecycle_self registry _
  | _ => exact ⟨entrusted.quiet found fun _ _ => rfl, obeysLifecycle_self registry _⟩

/-- The running operations with what they have in custody. -/
def ServiceConfig.custodies (config : ServiceConfig ι σ) : ι → Option (ServiceOp × Custody) :=
  config.summary custodyMonitor fun _ _ => none

/-- The next call is orderly. -/
def CallsOrderly (view : σ → String → Option Ticket) (config : ServiceConfig ι σ)
    (action : Action ι ServiceOp) : Prop :=
  ∀ call, config.pending action = some call →
    Orderly view config.shared.store config.custodies call

omit [DecidableEq ι] in
theorem accepts_code_custody (backend : QueueBackend σ) (workers : ι → Worker) (client : ι)
    (op : ServiceOp) :
    custodyMonitor.Accepts (fun _ _ => True) none
      ((serviceMachine backend workers).code client op) := by
  cases op with
  | runOnce inputs => exact (workers client).accepts_runOnce_custody inputs
  | cancel jobId now => exact ⟨.inl rfl, fun _ _ => trivial⟩

theorem entrusted_invariant {backend : QueueBackend σ} (lawful : backend.Lawful view)
    (workers : ι → Worker) :
    (serviceMachine backend workers).Invariant custodyMonitor (fun _ _ => none)
      (fun _ _ _ _ => True) (CallsOrderly view)
      (fun shared holders _ => Entrusted view shared.store holders) where
  accepts _ client op _ := accepts_code_custody backend workers client op
  replies config _ _ command _ _ _ _ _ := lawful.possible command config.shared
  call config client op _ idle entrusted := by
    have absent := config.summary_of_idle idle custodyMonitor fun _ _ => none
    constructor
    · intro other running jobId last shown hand
      rcases update_some_cases shown with ⟨rfl, entry⟩ | ⟨_, earlier⟩
      · cases entry
      · exact entrusted.shown other running jobId last earlier hand
    · intro first second running running' jobId held held' shown holds shown' holds'
      rcases update_some_cases shown with ⟨rfl, entry⟩ | ⟨_, earlier⟩
      · cases entry
        obtain ⟨_, none, _⟩ := holds
        cases none
      · rcases update_some_cases shown' with ⟨rfl, entry⟩ | ⟨_, earlier'⟩
        · cases entry
          obtain ⟨_, none, _⟩ := holds'
          cases none
        · exact entrusted.single first second running running' jobId held held' earlier holds
            earlier' holds'
  act config client op command resume log permitted busy allowed entrusted :=
    (entrusted_exec lawful entrusted
      (config.summary_of_busy busy custodyMonitor fun _ _ => none) command allowed
      (permitted command (by simp only [Config.pending, busy])) ∅).1
  ret config client op value log _ busy _ entrusted := by
    constructor
    · intro other running jobId last shown hand
      exact entrusted.shown other running jobId last (update_none_cases shown).2 hand
    · intro first second running running' jobId held held' shown holds shown' holds'
      exact entrusted.single first second running running' jobId held held'
        (update_none_cases shown).2 holds (update_none_cases shown').2 holds'

/-- **Workers obey the lifecycle.** Workers and cancelling clients run in any order on a
lawful backend, from any shared state. When nobody cancels a job that a worker has
in custody, or one that the table does not let be cancelled, and dead letters go
under fresh identifiers, every step of the run changes statuses along the default
transitions only. -/
theorem workers_obey_lifecycle (backend : QueueBackend σ) (view : σ → String → Option Ticket)
    (lawful : backend.Lawful view) (workers : ι → Worker)
    (registry : Dict String StateExtension) (shared : Shared σ)
    (schedule : List (Action ι ServiceOp)) (action : Action ι ServiceOp)
    (orderly : (serviceMachine backend workers).Permits (CallsOrderly view) (.initial shared)
      (schedule ++ [action])) :
    ObeysLifecycle registry
      (shownStatus view
        ((serviceMachine backend workers).runFrom (.initial shared) schedule).shared.store)
      (shownStatus view
        ((serviceMachine backend workers).runFrom (.initial shared)
          (schedule ++ [action])).shared.store) := by
  obtain ⟨before, last⟩ := ((serviceMachine backend workers).permits_append _ _ _ _).mp orderly
  have initially : Entrusted view shared.store (fun _ : ι => none) :=
    ⟨fun _ _ _ _ shown => (nomatch shown), fun _ _ _ _ _ _ _ shown => (nomatch shown)⟩
  obtain ⟨conforms, entrusted⟩ := (entrusted_invariant lawful workers).runFrom_conforms
    (.initial shared) (Machine.conforms_initial shared) initially schedule before
  rw [(serviceMachine backend workers).runFrom_append]
  generalize (serviceMachine backend workers).runFrom (.initial shared) schedule = config at *
  show ObeysLifecycle registry _
    (shownStatus view ((serviceMachine backend workers).step config action).shared.store)
  rw [(serviceMachine backend workers).shared_step]
  cases pending : config.pending action with
  | none => exact obeysLifecycle_self registry _
  | some call =>
      obtain ⟨client, op, resume, log, rfl, busy⟩ := Config.busy_of_pending pending
      exact (entrusted_exec lawful entrusted
        (config.summary_of_busy busy custodyMonitor fun _ _ => none) call
        (conforms client op _ log busy).1 (last.1 call pending) registry).2

end Runs

section Sample

/-- Two queued jobs. -/
def twoTasks : Shared MemoryQueueBackend :=
  .fresh (((MemoryQueueBackend.empty.enqueue
    (.fromRequest { jobType := "task" } "first" 0)).2.enqueue
    (.fromRequest { jobType := "task" } "second" 1)).2)

def impatientWorker : Bool → Worker :=
  fun _ => { handlers := ["task"], runTimeoutSeconds := some "1" }

/-- A round whose handler is late, up to the write of `timeout`. -/
def lateRound : List (Action Bool ServiceOp) :=
  .call true (.runOnce { late := true }) :: List.replicate 5 (.act true)

/-- The job that timed out is failed next, which is a default transition. -/
theorem late_round_obeys :
    ObeysLifecycle ∅
        (shownStatus MemoryQueueBackend.view ((serviceMachine MemoryQueueBackend.contract
          impatientWorker).runFrom (.initial twoTasks) lateRound).shared.store)
        (shownStatus MemoryQueueBackend.view ((serviceMachine MemoryQueueBackend.contract
          impatientWorker).runFrom (.initial twoTasks) (lateRound ++ [.act true])).shared.store) ∧
      shownStatus MemoryQueueBackend.view ((serviceMachine MemoryQueueBackend.contract
        impatientWorker).runFrom (.initial twoTasks) lateRound).shared.store "first" =
          some .timeout ∧
      shownStatus MemoryQueueBackend.view ((serviceMachine MemoryQueueBackend.contract
        impatientWorker).runFrom (.initial twoTasks) (lateRound ++ [.act true])).shared.store
          "first" = some .failed := by
  have orderly : (serviceMachine MemoryQueueBackend.contract impatientWorker).Permits
      (CallsOrderly MemoryQueueBackend.view) (.initial twoTasks) (lateRound ++ [.act true]) := by
    refine ⟨?_, ?_, ?_, ?_, ?_, ?_, ?_, trivial⟩
    all_goals
      intro call pending
      cases pending
    all_goals trivial
  exact ⟨workers_obey_lifecycle MemoryQueueBackend.contract MemoryQueueBackend.view
    MemoryQueueBackend.lawful impatientWorker ∅ twoTasks lateRound (.act true) orderly, rfl, rfl⟩

end Sample

end CloudDogJobs
