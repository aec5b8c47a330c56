import CloudDogJobs.Backend.Memory
import CloudDogJobs.Domain.StateMachine
import CloudDogJobs.Maintenance.Reaper
import CloudDogJobs.Queue.Queue

/-!
# Operator actions and the lifecycle

The operator and maintenance actions write statuses through `update_status`, which
checks no transition; the transition table is in the state machine, which none of
them asks. An action obeys the lifecycle exactly when the jobs it is about to
rewrite are in states from which the table allows the write. This module says for
each action which states these are.
-/

namespace CloudDogJobs

open Foundation

variable {σ κ : Type}

/-- Every status that changes does so along a transition of the default table. -/
def ObeysLifecycle (registry : Dict String StateExtension)
    (before after : String → Option JobStatus) : Prop :=
  ∀ jobId source target, before jobId = some source → after jobId = some target →
    source ≠ target →
      (JobStateMachine.init none).canTransition registry source.value target.value none = true

namespace JobStatus

/-- Writing the target keeps the lifecycle: it changes nothing, or is allowed. -/
def Admits (source target : JobStatus) : Prop := source = target ∨ source.MayBecome target

/-- The states that may be cancelled, cancelled itself included. -/
def Cancellable (status : JobStatus) : Prop :=
  status ∉ [succeeded, failed, timeout, ttlExpired, validated, deadLettered, archived]

/-- The states that may be queued, queued itself included. -/
def Requeueable (status : JobStatus) : Prop :=
  status ∈ [queued, scheduled, retryWait, validated]

/-- The states that may fail, failed itself included. -/
def Failable (status : JobStatus) : Prop :=
  status ∈ [failed, running, retryWait, timeout, validated, blocked]

instance (source target : JobStatus) : Decidable (source.Admits target) :=
  inferInstanceAs (Decidable (_ ∨ _))

instance (status : JobStatus) : Decidable status.Cancellable :=
  inferInstanceAs (Decidable (_ ∉ _))

instance (status : JobStatus) : Decidable status.Requeueable :=
  inferInstanceAs (Decidable (_ ∈ _))

instance (status : JobStatus) : Decidable status.Failable := inferInstanceAs (Decidable (_ ∈ _))

theorem admits_cancelled (status : JobStatus) :
    status.Admits .cancelled ↔ status.Cancellable := by
  cases status <;> decide

theorem admits_queued (status : JobStatus) : status.Admits .queued ↔ status.Requeueable := by
  cases status <;> decide

theorem admits_failed (status : JobStatus) : status.Admits .failed ↔ status.Failable := by
  cases status <;> decide

/-- Outside three final states, the states that may not be cancelled are five. -/
theorem cancellable_unless_final (status : JobStatus) :
    (status ∉ [succeeded, failed, cancelled] → status.Cancellable) ↔
      status ∉ [timeout, ttlExpired, validated, deadLettered, archived] := by
  cases status <;> decide

end JobStatus

/-- The status of a job that a view shows. -/
def shownStatus (view : σ → String → Option Ticket) (store : σ) (jobId : String) :
    Option JobStatus :=
  (view store jobId).map Ticket.status

/-- A change of shown statuses obeys the lifecycle when each change is admitted. -/
theorem obeysLifecycle_iff (registry : Dict String StateExtension)
    (before after : String → Option JobStatus) :
    ObeysLifecycle registry before after ↔
      ∀ jobId source target, before jobId = some source → after jobId = some target →
        source.Admits target := by
  unfold ObeysLifecycle
  constructor
  · intro obeys jobId source target shown written
    by_cases same : source = target
    · exact .inl same
    · have allowed := obeys jobId source target shown written same
      exact .inr ((JobStateMachine.canTransition_default registry source target).mp allowed)
  · intro admitted jobId source target shown written different
    rcases admitted jobId source target shown written with same | allowed
    · exact absurd same different
    · exact (JobStateMachine.canTransition_default registry source target).mpr allowed

/-- A condition on the rewrite that a test chooses. -/
theorem forall_chosen_iff (test : Prop) [Decidable test] (rewrite : Rewrite κ)
    (meets : JobStatus → Prop) :
    (∀ chosen, (if test then some rewrite else none) = some chosen → meets chosen.target) ↔
      (test → meets rewrite.target) := by
  constructor
  · intro all tested
    exact all rewrite (if_pos tested)
  · intro met chosen
    split
    · next tested =>
        intro same
        rw [← Option.some.inj same]
        exact met tested
    · intro absent
      cases absent

/-- The first job with an identifier, in a list without repeated identifiers. -/
theorem find?_jobId_iff {jobs : List Job} (distinct : (jobs.map Job.jobId).Nodup) (jobId : String)
    (job : Job) :
    (jobs.find? fun other => other.jobId = jobId) = some job ↔ job ∈ jobs ∧ job.jobId = jobId := by
  constructor
  · intro found
    refine ⟨List.mem_of_find?_eq_some found, ?_⟩
    simpa using List.find?_some found
  · intro listed
    obtain ⟨member, rfl⟩ := listed
    cases found : jobs.find? fun other => other.jobId = job.jobId with
    | none =>
        rw [List.find?_eq_none] at found
        exact absurd (decide_eq_true rfl) (found job member)
    | some other =>
        have same : other.jobId = job.jobId := by simpa using List.find?_some found
        rw [List.inj_on_of_nodup_map distinct (List.mem_of_find?_eq_some found) member same]

section Backend

variable {backend : AdminBackend σ} {view : σ → String → Option Ticket}
  (lawful : backend.Lawful view) (registry : Dict String StateExtension) (now : Int)

include lawful

/-- A single write obeys the lifecycle when the stored status admits it. -/
theorem obeys_updateStatus_iff (jobId : String) (target : JobStatus) (store : σ) :
    ObeysLifecycle registry (shownStatus view store)
        (shownStatus view (backend.updateStatus jobId target.value now store).2) ↔
      ∀ job, backend.get jobId store = .ok (some job) → job.status.Admits target := by
  obtain ⟨found, returned, shows⟩ := lawful.get jobId store
  rw [obeysLifecycle_iff, returned]
  simp only [shownStatus, lawful.view_updateStatus]
  constructor
  · intro admitted job stored
    obtain rfl : found = some job := Except.ok.inj stored
    have shown : view store jobId = some job.ticket := shows.symm
    exact admitted jobId job.status target (by rw [shown]; rfl)
      (by rw [if_pos rfl, shown]; rfl)
  · intro admitted other source written shown after
    by_cases same : other = jobId
    · subst same
      cases found with
      | none =>
          have absent : view store other = none := shows.symm
          rw [absent] at shown
          cases shown
      | some job =>
          have present : view store other = some job.ticket := shows.symm
          rw [present] at shown
          rw [if_pos rfl, present] at after
          obtain rfl : job.status = source := Option.some.inj shown
          obtain rfl : target = written := Option.some.inj after
          exact admitted job rfl
    · rw [if_neg same, shown] at after
      exact .inl (Option.some.inj after)

/-- The view after a pass: a listed job has the status chosen for it, everything
else is as it was. -/
theorem view_pass (choose : Job → Option (Rewrite κ)) (jobs : List Job)
    (distinct : (jobs.map Job.jobId).Nodup) (tally : κ) (store : σ) (other : String) :
    view (backend.pass (fun job => .ok (choose job)) now jobs tally store).2 other =
      match (jobs.find? fun job => job.jobId = other).bind choose with
      | some rewrite => (view store other).map fun ticket => ticket.withStatus rewrite.target
      | none => view store other := by
  induction jobs generalizing tally store with
  | nil => rfl
  | cons job rest ih =>
      rw [List.map_cons, List.nodup_cons] at distinct
      have unlisted : job.jobId = other → rest.find? (fun job => job.jobId = other) = none := by
        intro same
        rw [List.find?_eq_none]
        intro later member equal
        apply distinct.1
        rw [same, ← of_decide_eq_true equal]
        exact List.mem_map_of_mem member
      cases chosen : choose job with
      | none =>
          simp only [QueueBackend.pass, chosen]
          rw [ih distinct.2, List.find?_cons]
          by_cases same : job.jobId = other
          · simp only [same, decide_true, Option.bind_some, chosen, unlisted same,
              Option.bind_none]
          · simp only [same, decide_false]
      | some rewrite =>
          have written := lawful.updateStatus_returns job.jobId rewrite.target now store
          have moved := lawful.view_updateStatus job.jobId rewrite.target now store other
          simp only [QueueBackend.pass, chosen]
          split
          · next error next result =>
              rw [result] at written
              cases written
          · next found next result =>
              rw [result] at moved
              simp only at moved
              rw [ih distinct.2, List.find?_cons, moved]
              by_cases same : job.jobId = other
              · simp only [same, decide_true, Option.bind_some, chosen, unlisted same,
                  Option.bind_none, ↓reduceIte]
              · have apart : ¬ other = job.jobId := fun equal => same equal.symm
                simp only [same, decide_false, apart, ↓reduceIte]

/-- A pass over everything obeys the lifecycle when each stored job admits the
status chosen for it. -/
theorem obeys_passAll_iff (choose : Job → Option (Rewrite κ)) (start : κ) (store : σ) :
    ObeysLifecycle registry (shownStatus view store)
        (shownStatus view
          (backend.passAll (fun job => .ok (choose job)) now start store).2) ↔
      ∀ job, backend.get job.jobId store = .ok (some job) →
        ∀ rewrite, choose job = some rewrite → job.status.Admits rewrite.target := by
  obtain ⟨jobs, listed, distinct, stored⟩ := lawful.allJobs store
  have shows : ∀ job ∈ jobs, view store job.jobId = some job.ticket := by
    intro job member
    obtain ⟨found, returned, shown⟩ := lawful.get job.jobId store
    rw [(stored job).mp member] at returned
    rw [← shown, ← Except.ok.inj returned]
    rfl
  rw [obeysLifecycle_iff]
  simp only [AdminBackend.passAll, listed, shownStatus, view_pass lawful now choose jobs distinct]
  constructor
  · intro admitted job present rewrite chosen
    have member := (stored job).mpr present
    have found := (find?_jobId_iff distinct job.jobId job).mpr ⟨member, rfl⟩
    exact admitted job.jobId job.status rewrite.target
      (by rw [shows job member]; rfl)
      (by rw [found, Option.bind_some, chosen, shows job member]; rfl)
  · intro admitted jobId source written shown after
    cases found : jobs.find? fun job => job.jobId = jobId with
    | none =>
        rw [found] at after
        exact .inl (Option.some.inj (shown.symm.trans after))
    | some job =>
        obtain ⟨member, rfl⟩ := (find?_jobId_iff distinct jobId job).mp found
        rw [shows job member] at shown after
        obtain rfl : job.status = source := Option.some.inj shown
        rw [found, Option.bind_some] at after
        cases chosen : choose job with
        | none =>
            rw [chosen] at after
            exact .inl (Option.some.inj after)
        | some rewrite =>
            rw [chosen] at after
            obtain rfl : rewrite.target = written := Option.some.inj after
            exact admitted job ((stored job).mp member) rewrite chosen

end Backend

/-- The operator and maintenance actions. -/
inductive OperatorCall
  /-- `JobQueue.cancel` -/
  | cancel (jobId : String)
  | deleteJob (jobId : String)
  | cancelJob (jobId : String)
  | rescheduleJob (jobId : String)
  | retryNow (jobId : String)
  | clearOldJobs (policy : Option (Dict String Int))
  | clearStuckJobs (filter : Option (Dict String Int)) (action : String)
  | bulkUpdate (jobIds : List String) (action : String)
  | runSweep (reaper : MaintenanceReaper) (ttlSeconds retentionSeconds : Int)

namespace OperatorCall

variable (admin : AdminService) (backend : AdminBackend σ) (now : Int) (store : σ)

/-- The store after the action, whether it returns or raises. -/
def after : OperatorCall → σ
  | .cancel jobId =>
      ((JobQueue.cancel jobId now).run (Shared.exec backend.toQueueBackend)
        (.fresh store)).2.store
  | .deleteJob jobId => (admin.deleteJob backend.toQueueBackend jobId now store).2
  | .cancelJob jobId => (admin.cancelJob backend.toQueueBackend jobId now store).2
  | .rescheduleJob jobId => (admin.rescheduleJob backend.toQueueBackend jobId now store).2
  | .retryNow jobId => (admin.retryNow backend.toQueueBackend jobId now store).2
  | .clearOldJobs policy => (admin.clearOldJobs backend now policy store).2
  | .clearStuckJobs filter action => (admin.clearStuckJobs backend now filter action store).2
  | .bulkUpdate jobIds action => (admin.bulkUpdate backend jobIds action now store).2
  | .runSweep reaper ttlSeconds retentionSeconds =>
      (reaper.runSweep ttlSeconds retentionSeconds now backend store).2

/-- The job is stored. -/
def Stored (job : Job) : Prop := backend.get job.jobId store = .ok (some job)

/-- The states in which the action must find the jobs that it rewrites. -/
def Admissible : OperatorCall → Prop
  | .cancel jobId =>
      ∀ job, backend.get jobId store = .ok (some job) → job.status.Cancellable
  | .deleteJob jobId => admin.permits "jobs.delete" = true →
      ∀ job, backend.get jobId store = .ok (some job) → job.status.Cancellable
  | .cancelJob jobId => admin.permits "jobs.cancel" = true →
      ∀ job, backend.get jobId store = .ok (some job) → job.status.Cancellable
  | .rescheduleJob jobId => admin.permits "jobs.reschedule" = true →
      ∀ job, backend.get jobId store = .ok (some job) → job.status.Requeueable
  | .retryNow jobId => admin.permits "jobs.retry" = true →
      ∀ job, backend.get jobId store = .ok (some job) → job.status.Requeueable
  | .clearOldJobs policy => admin.permits "jobs.purge" = true →
      ∀ job, Stored backend store job →
        olderThan job.updatedAt (secondsOf policy "max_age_seconds" 86400) now = true →
          job.status ∉ [.timeout, .ttlExpired, .validated, .deadLettered, .archived]
  -- A stuck job is running, and running jobs may be cancelled and may fail.
  | .clearStuckJobs _ _ => True
  | .bulkUpdate jobIds action => admin.permits "jobs.bulk" = true →
      ∀ job, Stored backend store job → job.jobId ∈ jobIds →
        (action = "cancel" → job.status.Cancellable) ∧
        (action = "retry" → job.status.Requeueable) ∧
        (action = "fail" → job.status.Failable)
  | .runSweep _ ttlSeconds retentionSeconds =>
      ∀ job, Stored backend store job →
        (job.status = .queued → isTtlExpired job.createdAt ttlSeconds now = false) ∧
        (shouldPurge job.updatedAt retentionSeconds now = true → job.status.Cancellable)

end OperatorCall

section Actions

variable {backend : AdminBackend σ} {view : σ → String → Option Ticket}
  (lawful : backend.Lawful view) (registry : Dict String StateExtension)
  (admin : AdminService) (now : Int) (store : σ)

/-- An action that leaves the store alone obeys the lifecycle. -/
theorem obeysLifecycle_self (status : String → Option JobStatus) :
    ObeysLifecycle registry status status := by
  intro jobId source target before after different
  exact absurd (Option.some.inj (before.symm.trans after)) different

/-- An action behind a permission is constrained only when the permission is
granted. -/
theorem obeys_guarded_iff {α : Type} (view : σ → String → Option Ticket) (permission : String)
    (operation : σ → Except PyError α × σ) {condition : Prop}
    (exact : ObeysLifecycle registry (shownStatus view store)
      (shownStatus view (operation store).2) ↔ condition) :
    ObeysLifecycle registry (shownStatus view store)
        (shownStatus view (admin.guarded permission operation store).2) ↔
      (admin.permits permission = true → condition) := by
  unfold AdminService.guarded
  by_cases granted : admin.permits permission = true
  · simp only [granted, ↓reduceIte, forall_const]
    exact exact
  · simp only [granted, ↓reduceIte, Bool.false_eq_true, IsEmpty.forall_iff, iff_true]
    exact obeysLifecycle_self registry _

include lawful

theorem obeys_cancelled_iff (jobId : String) :
    ObeysLifecycle registry (shownStatus view store)
        (shownStatus view
          (backend.updateStatus jobId JobStatus.cancelled.value now store).2) ↔
      ∀ job, backend.get jobId store = .ok (some job) → job.status.Cancellable := by
  rw [obeys_updateStatus_iff lawful]
  simp only [JobStatus.admits_cancelled]

theorem obeys_queued_iff (jobId : String) :
    ObeysLifecycle registry (shownStatus view store)
        (shownStatus view (backend.updateStatus jobId JobStatus.queued.value now store).2) ↔
      ∀ job, backend.get jobId store = .ok (some job) → job.status.Requeueable := by
  rw [obeys_updateStatus_iff lawful]
  simp only [JobStatus.admits_queued]

/-- `clear_old_jobs` passes over three final states, and the table allows the
cancellation of all others but five. -/
theorem obeys_clearOld_iff (maxAge : Int) :
    ObeysLifecycle registry (shownStatus view store)
        (shownStatus view (backend.passAll (fun job => .ok
          (if AdminService.oldJob maxAge now job then
            some (⟨.cancelled, (· + 1)⟩ : Rewrite Nat) else none)) now 0 store).2) ↔
      ∀ job, OperatorCall.Stored backend store job →
        olderThan job.updatedAt maxAge now = true →
          job.status ∉ [.timeout, .ttlExpired, .validated, .deadLettered, .archived] := by
  rw [obeys_passAll_iff lawful]
  apply forall_congr'
  intro job
  apply imp_congr_right
  intro _
  rw [forall_chosen_iff, JobStatus.admits_cancelled, ← JobStatus.cancellable_unless_final,
    AdminService.oldJob, Bool.and_eq_true, decide_eq_true_eq]
  exact and_imp

/-- The table lets a running job be cancelled and fail. -/
theorem obeys_clearStuck (timeout : Int) (action : String) :
    ObeysLifecycle registry (shownStatus view store)
      (shownStatus view (backend.passAll (fun job => .ok
        (if AdminService.stuckJob timeout now job then
          some (⟨AdminService.stuckTarget action, (· + 1)⟩ : Rewrite Nat) else none))
        now 0 store).2) := by
  rw [obeys_passAll_iff lawful]
  intro job _
  rw [forall_chosen_iff, AdminService.stuckJob, Bool.and_eq_true, decide_eq_true_eq]
  intro stuck
  rw [stuck.1, AdminService.stuckTarget]
  split <;> decide

/-- A bulk action with a target writes it to the listed jobs. -/
theorem obeys_bulk_iff {action : String} (target : JobStatus) (jobIds : List String)
    (supported : BulkAdminOperations.actionTarget action = .ok target) :
    ObeysLifecycle registry (shownStatus view store)
        (shownStatus view
          (backend.passAll (BulkAdminOperations.choose action jobIds) now 0 store).2) ↔
      ∀ job, OperatorCall.Stored backend store job → job.jobId ∈ jobIds →
        job.status.Admits target := by
  have total : BulkAdminOperations.choose action jobIds = fun job => .ok
      (if job.jobId ∈ jobIds then some ⟨target, (· + 1)⟩ else none) := by
    funext job
    unfold BulkAdminOperations.choose
    rw [supported]
    split <;> rfl
  rw [total, obeys_passAll_iff lawful]
  apply forall_congr'
  intro job
  apply imp_congr_right
  intro _
  exact forall_chosen_iff (job.jobId ∈ jobIds) _ job.status.Admits

omit lawful in
/-- An unsupported bulk action raises at the first listed job, before any write. -/
theorem passAll_unsupported {action : String} {error : PyError} (jobIds : List String)
    (unsupported : BulkAdminOperations.actionTarget action = .error error) :
    (backend.passAll (BulkAdminOperations.choose action jobIds) now 0 store).2 = store := by
  unfold AdminBackend.passAll
  cases backend.allJobs store with
  | error raised => rfl
  | ok jobs =>
      show (backend.pass _ now jobs 0 store).2 = store
      generalize (0 : Nat) = tally
      induction jobs with
      | nil => rfl
      | cons job rest ih =>
          by_cases listed : job.jobId ∈ jobIds
          · have raises : BulkAdminOperations.choose action jobIds job = .error error := by
              rw [BulkAdminOperations.choose, if_pos listed, unsupported]
              rfl
            simp only [QueueBackend.pass, raises]
          · have skips : BulkAdminOperations.choose action jobIds job = .ok none :=
              if_neg listed
            simp only [QueueBackend.pass, skips]
            exact ih

theorem obeys_bulkUpdate_iff (jobIds : List String) (action : String) :
    ObeysLifecycle registry (shownStatus view store)
        (shownStatus view
          (backend.passAll (BulkAdminOperations.choose action jobIds) now 0 store).2) ↔
      ∀ job, OperatorCall.Stored backend store job → job.jobId ∈ jobIds →
        (action = "cancel" → job.status.Cancellable) ∧
        (action = "retry" → job.status.Requeueable) ∧
        (action = "fail" → job.status.Failable) := by
  by_cases cancel : action = "cancel"
  · subst cancel
    rw [obeys_bulk_iff lawful registry now store .cancelled jobIds rfl]
    simp [JobStatus.admits_cancelled]
  · by_cases retry : action = "retry"
    · subst retry
      rw [obeys_bulk_iff lawful registry now store .queued jobIds rfl]
      simp [JobStatus.admits_queued]
    · by_cases fail : action = "fail"
      · subst fail
        rw [obeys_bulk_iff lawful registry now store .failed jobIds rfl]
        simp [JobStatus.admits_failed]
      · have unsupported : BulkAdminOperations.actionTarget action =
            .error (.valueError ("Unsupported bulk action: " ++ action)) := by
          simp only [BulkAdminOperations.actionTarget, cancel, retry, fail, ↓reduceIte]
        rw [passAll_unsupported now store jobIds unsupported]
        simp only [cancel, retry, fail, IsEmpty.forall_iff, and_self, implies_true, iff_true]
        exact obeysLifecycle_self registry _

/-- The sweep may not expire a queued job, and may not purge a finished one. -/
theorem obeys_runSweep_iff (reaper : MaintenanceReaper) (ttlSeconds retentionSeconds : Int) :
    ObeysLifecycle registry (shownStatus view store)
        (shownStatus view (reaper.runSweep ttlSeconds retentionSeconds now backend store).2) ↔
      ∀ job, OperatorCall.Stored backend store job →
        (job.status = .queued → isTtlExpired job.createdAt ttlSeconds now = false) ∧
        (shouldPurge job.updatedAt retentionSeconds now = true → job.status.Cancellable) := by
  unfold MaintenanceReaper.runSweep
  rw [obeys_passAll_iff lawful]
  apply forall_congr'
  intro job
  apply imp_congr_right
  intro _
  unfold MaintenanceReaper.choose
  by_cases running : job.status = .running
  · -- Running jobs may be given each of the three statuses.
    have cancellable : job.status.Cancellable := by rw [running]; decide
    have waiting : job.status ≠ .queued := by rw [running]; decide
    refine iff_of_true ?_ ⟨fun queued => absurd queued waiting, fun _ => cancellable⟩
    intro rewrite chosen
    rw [running]
    split at chosen
    · obtain rfl := Option.some.inj chosen
      decide
    · split at chosen
      · obtain rfl := Option.some.inj chosen
        decide
      · split at chosen
        · obtain rfl := Option.some.inj chosen
          decide
        · cases chosen
  · by_cases queued : job.status = .queued
    · cases expired : isTtlExpired job.createdAt ttlSeconds now with
      | true =>
          have refused : ¬ job.status.Admits .ttlExpired := by rw [queued]; decide
          simp [queued] at refused ⊢
          exact refused
      | false =>
          have purged := forall_chosen_iff (shouldPurge job.updatedAt retentionSeconds now = true)
            (⟨.cancelled, fun summary => { summary with
              retentionPurged := summary.retentionPurged + 1 }⟩ : Rewrite SweepSummary)
            job.status.Admits
          rw [JobStatus.admits_cancelled] at purged
          simpa [queued] using purged
    · have purged := forall_chosen_iff (shouldPurge job.updatedAt retentionSeconds now = true)
        (⟨.cancelled, fun summary => { summary with
          retentionPurged := summary.retentionPurged + 1 }⟩ : Rewrite SweepSummary)
        job.status.Admits
      rw [JobStatus.admits_cancelled] at purged
      simpa [queued, running] using purged

end Actions

/-- **Operator actions and the lifecycle.** An action changes every status along
the default transitions exactly when it finds the jobs it rewrites in admissible
states. -/
theorem operator_call_obeys_lifecycle_iff {backend : AdminBackend σ}
    {view : σ → String → Option Ticket} (lawful : backend.Lawful view)
    (registry : Dict String StateExtension) (admin : AdminService) (now : Int) (store : σ)
    (call : OperatorCall) :
    ObeysLifecycle registry (shownStatus view store)
        (shownStatus view (call.after admin backend now store)) ↔
      call.Admissible admin backend now store := by
  cases call with
  | cancel jobId => exact obeys_cancelled_iff lawful registry now store jobId
  | deleteJob jobId =>
      apply obeys_guarded_iff
      exact obeys_cancelled_iff lawful registry now store jobId
  | cancelJob jobId =>
      apply obeys_guarded_iff
      exact obeys_cancelled_iff lawful registry now store jobId
  | rescheduleJob jobId =>
      apply obeys_guarded_iff
      exact obeys_queued_iff lawful registry now store jobId
  | retryNow jobId =>
      apply obeys_guarded_iff
      exact obeys_queued_iff lawful registry now store jobId
  | clearOldJobs policy =>
      apply obeys_guarded_iff
      exact obeys_clearOld_iff lawful registry now store _
  | clearStuckJobs filter action =>
      have always := obeys_guarded_iff registry admin store view "jobs.stuck_recovery" _
        (iff_true_intro (obeys_clearStuck lawful registry now store
          (secondsOf filter "claim_timeout_seconds" 60) action))
      exact iff_of_true (always.mpr fun _ => trivial) trivial
  | bulkUpdate jobIds action =>
      have inner := obeys_guarded_iff registry admin store view "jobs.bulk" _
        (obeys_bulkUpdate_iff lawful registry now store jobIds action)
      have outer := obeys_guarded_iff registry admin store view "jobs.bulk" _ inner
      refine outer.trans ⟨fun allowed granted => allowed granted granted, fun allowed _ => allowed⟩
  | runSweep reaper ttlSeconds retentionSeconds =>
      exact obeys_runSweep_iff lawful registry now store reaper ttlSeconds retentionSeconds

/-- A queued job may be cancelled. -/
theorem queued_job_cancelled_lawfully :
    ObeysLifecycle ∅ (shownStatus MemoryQueueBackend.view (.holding (reportJob .queued)))
      (shownStatus MemoryQueueBackend.view
        ((OperatorCall.cancel "job").after ⟨none⟩ MemoryQueueBackend.adminContract 1
          (.holding (reportJob .queued)))) := by
  apply (operator_call_obeys_lifecycle_iff MemoryQueueBackend.admin_lawful ∅ ⟨none⟩ 1
    (.holding (reportJob .queued)) (.cancel "job")).mpr
  intro job stored
  obtain rfl := Option.some.inj (Except.ok.inj stored)
  decide

/-- A job that has succeeded is moved to cancelled. -/
theorem succeeded_job_cancelled :
    ¬ ObeysLifecycle ∅ (shownStatus MemoryQueueBackend.view (.holding (reportJob .succeeded)))
      (shownStatus MemoryQueueBackend.view
        ((OperatorCall.cancel "job").after ⟨none⟩ MemoryQueueBackend.adminContract 1
          (.holding (reportJob .succeeded)))) := by
  intro obeys
  have allowed := obeys "job" .succeeded .cancelled rfl rfl (by decide)
  exact absurd allowed (by decide)

end CloudDogJobs
