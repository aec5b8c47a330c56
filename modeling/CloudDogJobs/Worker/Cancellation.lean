import CloudDogJobs.Backend.Memory
import CloudDogJobs.Worker.Protocol

/-!
# Cancellation beside running workers

`JobQueue.cancel` writes `cancelled` whatever the job is doing, and a worker
writes the final status of its job without looking at the current one. A
cancellation therefore lasts if no worker still owes the job a final status when
the cancellation is written; a worker that owes one may yet be interrupted and
write nothing.
-/

namespace CloudDogJobs

open Foundation

variable {ι σ : Type}

/-- The operation has claimed the job and owes it a final status. -/
def Stage.Owes (stage : Stage) (jobId : String) : Prop :=
  stage.claimed = true ∧ ∃ job, stage.job = some job ∧ job.jobId = jobId

/-- The cancellation of the job was written. -/
def Stage.HasCancelled (stage : Stage) (jobId : String) : Prop :=
  stage.cancelling = some jobId ∧ stage.cancelled = true

/-- A cancellation is written only when no worker owes the job a final status,
and a dead letter goes under an identifier that is not in use. -/
def CancelsUnclaimed (view : σ → String → Option Ticket) (config : ServiceConfig ι σ) :
    Action ι ServiceOp → Prop
  | .act client =>
      (∀ op jobId now resume log, config.client client =
          .busy op (.act (.updateStatus jobId .cancelled now) resume) log →
        ∀ other running stage, config.stages other = some (running, stage) →
          ¬ stage.Owes jobId) ∧
      (∀ op copy now resume log, config.client client =
          .busy op (.act (.enqueue copy now) resume) log →
        view config.shared.store copy.jobId = none)
  | _ => True

/-- The job was cancelled: the call has returned `True`, or is about to. -/
def Cancelled (stages : ι → Option (ServiceOp × Stage)) (history : List (ServiceEvent ι))
    (jobId : String) : Prop :=
  (∃ client now, .returned client (.cancel jobId now) (.ok true) ∈ history) ∨
    ∃ client op stage, stages client = some (op, stage) ∧ stage.HasCancelled jobId

/-- The invariant: a cancelled job shows `cancelled`, and nobody owes it a final
status. -/
def CancellationsLast (view : σ → String → Option Ticket) (shared : Shared σ)
    (stages : ι → Option (ServiceOp × Stage)) (history : List (ServiceEvent ι)) : Prop :=
  ∀ jobId, Cancelled stages history jobId →
    (view shared.store jobId).map Ticket.status = some .cancelled ∧
      ∀ client op stage, stages client = some (op, stage) → ¬ stage.Owes jobId

section Step

variable [DecidableEq ι] {view : σ → String → Option Ticket} {shared : Shared σ}
  {stages : ι → Option (ServiceOp × Stage)} {history : List (ServiceEvent ι)}
  {client : ι} {op : ServiceOp} {stage next : Stage}

/-- A step of one client adds at most the cancellation it has just written. -/
theorem Cancelled.of_update {event : ServiceEvent ι} {jobId : String}
    (silent : ∀ other jobId now, event ≠ .returned other (.cancel jobId now) (.ok true))
    (cancelled : Cancelled (Function.update stages client (some (op, next))) (history ++ [event])
      jobId) :
    Cancelled stages history jobId ∨ next.HasCancelled jobId := by
  rcases cancelled with ⟨other, now, recorded⟩ | ⟨other, running, reached, found, written⟩
  · rcases List.mem_append.mp recorded with earlier | last
    · exact .inl (.inl ⟨other, now, earlier⟩)
    · exact absurd (List.mem_singleton.mp last).symm (silent other jobId now)
  · rcases update_some_cases found with ⟨rfl, same⟩ | ⟨_, found⟩
    · obtain ⟨rfl, rfl⟩ := Prod.mk.inj same
      exact .inr written
    · exact .inl (.inr ⟨other, running, reached, found, written⟩)

/-- The step rule: what the moving client must show. -/
theorem CancellationsLast.update (lasting : CancellationsLast view shared stages history)
    {event : ServiceEvent ι} {after : Shared σ}
    (silent : ∀ other jobId now, event ≠ .returned other (.cancel jobId now) (.ok true))
    (status : ∀ jobId, Cancelled stages history jobId ∨ next.HasCancelled jobId →
      (view after.store jobId).map Ticket.status = some .cancelled)
    (others : ∀ jobId, ¬ Cancelled stages history jobId → next.HasCancelled jobId →
      ∀ other running reached, stages other = some (running, reached) → ¬ reached.Owes jobId)
    (own : ∀ jobId, Cancelled stages history jobId ∨ next.HasCancelled jobId →
      ¬ next.Owes jobId) :
    CancellationsLast view after (Function.update stages client (some (op, next)))
      (history ++ [event]) := by
  intro jobId cancelled
  have before := cancelled.of_update silent
  refine ⟨status jobId before, ?_⟩
  intro other running reached found
  rcases update_some_cases found with ⟨rfl, same⟩ | ⟨_, found⟩
  · obtain ⟨rfl, rfl⟩ := Prod.mk.inj same
    exact own jobId before
  · by_cases earlier : Cancelled stages history jobId
    · exact (lasting jobId earlier).2 other running reached found
    · exact others jobId earlier (before.resolve_left earlier) other running reached found

/-- A step that shows no new status and takes no job keeps the invariant. -/
theorem CancellationsLast.quiet (lasting : CancellationsLast view shared stages history)
    (found : stages client = some (op, stage)) {event : ServiceEvent ι} {after : Shared σ}
    (silent : ∀ other jobId now, event ≠ .returned other (.cancel jobId now) (.ok true))
    (kept : ∀ jobId, (view shared.store jobId).map Ticket.status = some .cancelled →
      (view after.store jobId).map Ticket.status = some .cancelled)
    (written : ∀ jobId, next.HasCancelled jobId → stage.HasCancelled jobId)
    (owes : ∀ jobId, next.Owes jobId → stage.Owes jobId) :
    CancellationsLast view after (Function.update stages client (some (op, next)))
      (history ++ [event]) := by
  have earlier : ∀ jobId, Cancelled stages history jobId ∨ next.HasCancelled jobId →
      Cancelled stages history jobId := by
    intro jobId either
    rcases either with before | now
    · exact before
    · exact .inr ⟨client, op, stage, found, written jobId now⟩
  apply lasting.update silent
  · intro jobId either
    exact kept jobId (lasting jobId (earlier jobId either)).1
  · intro jobId fresh now
    exact absurd (earlier jobId (.inr now)) fresh
  · intro jobId either owing
    exact (lasting jobId (earlier jobId either)).2 client op stage found (owes jobId owing)

variable {backend : QueueBackend σ} (lawful : backend.Lawful view)

include lawful

/-- A claim is granted on a queued job only, so never on a cancelled one. -/
theorem CancellationsLast.claim (lasting : CancellationsLast view shared stages history)
    (found : stages client = some (op, stage)) {event : ServiceEvent ι}
    (silent : ∀ other jobId now, event ≠ .returned other (.cancel jobId now) (.ok true))
    (jobId hostId workerId : String) (now : Int) {claimed : Bool}
    (answered : (backend.claim jobId hostId workerId now shared.store).1 = .ok claimed)
    (looking : ∃ job, stage.job = some job ∧ jobId = job.jobId) :
    CancellationsLast view
      { shared with store := (backend.claim jobId hostId workerId now shared.store).2 }
      (Function.update stages client (some (op, { stage with claimed := claimed })))
      (history ++ [event]) := by
  have moved := lawful.view_claim jobId hostId workerId now shared.store
  rw [answered] at moved
  cases claimed with
  | false =>
      apply lasting.quiet found silent
      · intro other cancelled
        rw [moved other, if_neg (by simp)]
        exact cancelled
      · exact fun _ written => written
      · intro other owing
        cases owing.1
  | true =>
      have waiting := lawful.claim_queued _ _ _ _ _ answered
      have differs : ∀ other, (view shared.store other).map Ticket.status = some .cancelled →
          other ≠ jobId := by
        rintro other cancelled rfl
        rw [waiting] at cancelled
        cases cancelled
      have earlier : ∀ other, Cancelled stages history other ∨ stage.HasCancelled other →
          Cancelled stages history other := by
        intro other either
        exact either.elim id fun written => .inr ⟨client, op, stage, found, written⟩
      apply lasting.update silent
      · intro other either
        have cancelled := (lasting other (earlier other either)).1
        rw [moved other, if_neg fun both => differs other cancelled both.1]
        exact cancelled
      · intro other fresh written
        exact absurd (earlier other (.inr written)) fresh
      · rintro other either ⟨_, job, held, rfl⟩
        obtain ⟨claimant, looks, rfl⟩ := looking
        obtain rfl : claimant = job := Option.some.inj (looks.symm.trans held)
        exact differs _ (lasting _ (earlier _ either)).1 rfl

/-- A cancellation that meets no claim lasts from the moment it is written. -/
theorem CancellationsLast.cancel (lasting : CancellationsLast view shared stages history)
    (found : stages client = some (op, stage)) {event : ServiceEvent ι}
    (silent : ∀ other jobId now, event ≠ .returned other (.cancel jobId now) (.ok true))
    (jobId : String) (now : Int) (cancelling : stage.cancelling = some jobId)
    (unclaimed : ∀ other running reached, stages other = some (running, reached) →
      ¬ reached.Owes jobId) :
    CancellationsLast view
      { shared with store := (backend.updateStatus jobId JobStatus.cancelled.value now
        shared.store).2 }
      (Function.update stages client
        (some (op, { stage with cancelled := (view shared.store jobId).isSome })))
      (history ++ [event]) := by
  have moved := lawful.view_updateStatus jobId .cancelled now shared.store
  have written : ∀ other, ({ stage with
      cancelled := (view shared.store jobId).isSome } : Stage).HasCancelled other →
        other = jobId ∧ (view shared.store jobId).isSome = true := by
    rintro other ⟨same, stored⟩
    exact ⟨Option.some.inj (same.symm.trans cancelling), stored⟩
  apply lasting.update silent
  · intro other either
    show (view (backend.updateStatus _ _ _ _).2 other).map _ = _
    rw [moved other]
    by_cases same : other = jobId
    · have stored : (view shared.store jobId).isSome = true := by
        rcases either with before | now
        · have shown := (lasting other before).1
          rw [same] at shown
          obtain ⟨ticket, present, _⟩ := Option.map_eq_some_iff.mp shown
          rw [present]
          rfl
        · exact (written other now).2
      obtain ⟨ticket, present⟩ := Option.isSome_iff_exists.mp stored
      rw [if_pos same, present]
      rfl
    · rw [if_neg same]
      rcases either with before | now
      · exact (lasting other before).1
      · exact absurd (written other now).1 same
  · intro other _ now
    rw [(written other now).1]
    exact unclaimed
  · rintro other either owing
    have owed : stage.Owes other := owing
    rcases either with before | now
    · exact (lasting other before).2 client op stage found owed
    · rw [(written other now).1] at owed
      exact unclaimed client op stage found owed

/-- A worker writes the status of the job it has claimed, and that one is not
cancelled. -/
theorem CancellationsLast.settle (lasting : CancellationsLast view shared stages history)
    (found : stages client = some (op, stage)) {event : ServiceEvent ι}
    (silent : ∀ other jobId now, event ≠ .returned other (.cancel jobId now) (.ok true))
    (jobId : String) (status : JobStatus) (now : Int) (owes : stage.Owes jobId)
    (same : ∀ other, next.HasCancelled other → stage.HasCancelled other)
    (less : ∀ other, next.Owes other → stage.Owes other) :
    CancellationsLast view
      { shared with store := (backend.updateStatus jobId status.value now shared.store).2 }
      (Function.update stages client (some (op, next))) (history ++ [event]) := by
  have moved := lawful.view_updateStatus jobId status now shared.store
  have earlier : ∀ other, Cancelled stages history other ∨ next.HasCancelled other →
      Cancelled stages history other := by
    intro other either
    exact either.elim id fun written => .inr ⟨client, op, stage, found, same other written⟩
  apply lasting.update silent
  · intro other either
    obtain ⟨shown, unclaimed⟩ := lasting other (earlier other either)
    have different : other ≠ jobId := by
      rintro rfl
      exact unclaimed client op stage found owes
    rw [moved other, if_neg different]
    exact shown
  · intro other fresh written
    exact absurd (earlier other (.inr written)) fresh
  · intro other either owing
    exact (lasting other (earlier other either)).2 client op stage found (less other owing)

/-- Every call that the protocol allows keeps the invariant. -/
theorem CancellationsLast.act (lasting : CancellationsLast view shared stages history)
    (found : stages client = some (op, stage)) (call : WorkerCall) (allowed : stage.Allows call)
    (unclaimed : ∀ jobId now, call = .updateStatus jobId .cancelled now →
      ∀ other running reached, stages other = some (running, reached) → ¬ reached.Owes jobId)
    (fresh : ∀ copy now, call = .enqueue copy now → view shared.store copy.jobId = none) :
    CancellationsLast view (Shared.exec backend call shared).2
      (Function.update stages client
        (some (op, stage.update call (Shared.exec backend call shared).1)))
      (history ++ [Event.acted client call (Shared.exec backend call shared).1]) := by
  have silent : ∀ other jobId now,
      (.acted client call (Shared.exec backend call shared).1 : ServiceEvent ι) ≠
        .returned other (.cancel jobId now) (.ok true) :=
    fun _ _ _ same => by cases same
  cases call with
  | claim jobId hostId workerId now =>
      obtain ⟨claimed, answered⟩ := lawful.claim_returns jobId hostId workerId now shared.store
      have kept := lasting.claim lawful found silent jobId hostId workerId now answered allowed.2
      simp only [Shared.exec, Stage.update, answered] at kept ⊢
      exact kept
  | updateStatus jobId status now =>
      have answered := lawful.updateStatus_returns jobId status now shared.store
      rcases allowed with ⟨cancelling, rfl⟩ | ⟨claimed, notCancelled, job, looking, rfl⟩
      · have kept := lasting.cancel lawful found silent jobId now cancelling
          (unclaimed jobId now rfl)
        simp only [Shared.exec, Stage.update, answered, Stage.afterStatus] at kept ⊢
        exact kept
      · have owes : stage.Owes job.jobId := ⟨claimed, job, looking, rfl⟩
        apply lasting.settle lawful found silent job.jobId status now owes
        · intro other written
          cases status <;> first | exact written | exact absurd rfl notCancelled
        · intro other owing
          cases status <;> first
            | exact owing
            | exact absurd rfl notCancelled
            | exact absurd owing.1 Bool.false_ne_true
  | enqueue copy now =>
      apply lasting.quiet found silent
      · intro jobId cancelled
        have different : jobId ≠ copy.jobId := by
          rintro rfl
          rw [fresh copy now rfl] at cancelled
          cases cancelled
        show (view (backend.enqueue copy now shared.store).2 jobId).map _ = _
        rw [lawful.enqueue_other copy now shared.store jobId different]
        exact cancelled
      · exact fun _ written => written
      · exact fun _ owing => owing
  | heartbeat jobId now =>
      apply lasting.quiet found silent
      · intro other cancelled
        show (view (backend.heartbeat jobId now shared.store).2 other).map _ = _
        rw [lawful.view_heartbeat]
        exact cancelled
      · exact fun _ written => written
      · exact fun _ owing => owing
  | dequeue limit queueName =>
      obtain ⟨jobs, returned, _⟩ := lawful.dequeue limit none queueName shared.store
      simp only [Shared.exec, Stage.update, returned]
      apply lasting.quiet found (by simp)
      · exact fun _ cancelled => cancelled
      · exact fun _ written => written
      · intro other owing
        exact absurd (allowed.2.2.symm.trans owing.1) Bool.false_ne_true
  | _ =>
      exact lasting.quiet found silent (fun _ cancelled => cancelled) (fun _ written => written)
        fun _ owing => owing

end Step

section Machine

variable [DecidableEq ι] (backend : QueueBackend σ) (workers : ι → Worker)
  {view : σ → String → Option Ticket} (lawful : backend.Lawful view)

include lawful

theorem cancellationsLast_invariant :
    (serviceMachine backend workers).Invariant protocol (fun _ op => op.start)
      (fun client op => op.Leaves (workers client)) (CancelsUnclaimed view)
      (CancellationsLast view) := by
  apply serviceMachine_invariant lawful workers
  · intro config client op _ lasting
    have start : ∀ jobId, ¬ op.start.HasCancelled jobId ∧ ¬ op.start.Owes jobId := by
      intro jobId
      cases op <;> exact ⟨fun written => (by cases written.2), fun owing => (by cases owing.1)⟩
    apply lasting.update (fun _ _ _ same => by cases same)
    · intro jobId either
      exact (lasting jobId (either.resolve_right (start jobId).1)).1
    · intro jobId _ written
      exact absurd written (start jobId).1
    · intro jobId _ owing
      exact absurd owing (start jobId).2
  · intro config client op stage command resume log permitted busy found allowed lasting
    refine lasting.act lawful found command allowed ?_ ?_
    · rintro jobId now rfl
      exact permitted.1 op jobId now resume log busy
    · rintro copy now rfl
      exact permitted.2 op copy now resume log busy
  · intro config client op stage value found leaves lasting jobId cancelled
    have before : Cancelled config.stages config.history jobId := by
      rcases cancelled with ⟨other, now, recorded⟩ | ⟨other, running, reached, shown, written⟩
      · rcases List.mem_append.mp recorded with earlier | last
        · exact .inl ⟨other, now, earlier⟩
        · cases List.mem_singleton.mp last
          exact .inr ⟨_, _, _, found, leaves.2.2 rfl⟩
      · exact .inr ⟨other, running, reached, (update_none_cases shown).2, written⟩
    refine ⟨(lasting jobId before).1, ?_⟩
    intro other running reached shown
    exact (lasting jobId before).2 other running reached (update_none_cases shown).2

end Machine

/-- **A cancellation lasts when nobody owes the job a status.** Workers and
cancelling clients run in any order from any stored state. When each cancellation
is written while no worker owes that job a final status, and dead letters go
under fresh identifiers, every job whose cancellation returned `True` shows
`cancelled` in every state reached from then on. -/
theorem cancelled_stays_cancelled [DecidableEq ι] (backend : QueueBackend σ)
    (workers : ι → Worker) (view : σ → String → Option Ticket) (lawful : backend.Lawful view)
    (shared : Shared σ) (schedule : List (Action ι ServiceOp))
    (permitted : (serviceMachine backend workers).Permits (CancelsUnclaimed view)
      (.initial shared) schedule)
    (client : ι) (jobId : String) (now : Int)
    (returned : .returned client (.cancel jobId now) (.ok true) ∈
      ((serviceMachine backend workers).runFrom (.initial shared) schedule).history) :
    (view ((serviceMachine backend workers).runFrom (.initial shared) schedule).shared.store
      jobId).map Ticket.status = some .cancelled := by
  have initially : CancellationsLast view shared (fun _ : ι => none) [] := by
    rintro other (⟨_, _, recorded⟩ | ⟨_, _, _, found, _⟩)
    · cases recorded
    · cases found
  have lasting := (cancellationsLast_invariant backend workers lawful).run shared initially
    schedule permitted
  exact (lasting jobId (.inl ⟨client, now, returned⟩)).1

section Sample

/-- The cancellation comes before the worker's round. -/
def cancelFirst : List (Action Bool ServiceOp) :=
  [.call false (.cancel "first" 1), .act false, .ret false, .call true (.runOnce {}), .act true]

theorem cancelled_before_claim :
    (MemoryQueueBackend.view ((serviceMachine MemoryQueueBackend.contract taskWorkers).runFrom
      (.initial oneTask) cancelFirst).shared.store "first").map Ticket.status =
        some .cancelled := by
  refine cancelled_stays_cancelled MemoryQueueBackend.contract taskWorkers
    MemoryQueueBackend.view MemoryQueueBackend.lawful oneTask cancelFirst ?_ false "first" 1 ?_
  · refine ⟨trivial, ⟨?_, ?_⟩, trivial, trivial, ⟨?_, ?_⟩, trivial⟩
    · rintro _ _ _ _ _ _ (_ | _) running stage shown owing
      · cases shown
        cases owing.1
      · cases shown
    · rintro _ _ _ _ _ ⟨⟩
    · rintro _ _ _ _ _ ⟨⟩
    · rintro _ _ _ _ _ ⟨⟩
  · iterate 2 apply List.mem_cons_of_mem
    exact List.mem_cons_self

/-- The cancellation falls between the worker's handler and its final status. -/
def cancelLate : List (Action Bool ServiceOp) :=
  [.call true (.runOnce {}), .act true, .act true, .act true, .act true,
    .call false (.cancel "first" 1), .act false, .ret false, .act true]

/-- A worker overwrites a cancellation that has returned `True`. -/
theorem late_cancellation_lost :
    ¬ ∀ (workers : Bool → Worker) (shared : Shared MemoryQueueBackend)
        (schedule : List (Action Bool ServiceOp)) (client : Bool) (jobId : String) (now : Int),
      .returned client (.cancel jobId now) (.ok true) ∈
          ((serviceMachine MemoryQueueBackend.contract workers).runFrom (.initial shared)
            schedule).history →
        (MemoryQueueBackend.view ((serviceMachine MemoryQueueBackend.contract workers).runFrom
          (.initial shared) schedule).shared.store jobId).map Ticket.status =
            some .cancelled := by
  intro lasts
  have shown := lasts taskWorkers oneTask cancelLate false "first" 1 (by
    iterate 7 apply List.mem_cons_of_mem
    exact List.mem_cons_self)
  have overwritten : (MemoryQueueBackend.view
      ((serviceMachine MemoryQueueBackend.contract taskWorkers).runFrom (.initial oneTask)
        cancelLate).shared.store "first").map Ticket.status = some .succeeded := rfl
  rw [overwritten] at shown
  cases shown

end Sample

end CloudDogJobs
