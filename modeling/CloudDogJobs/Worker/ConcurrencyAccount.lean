import CloudDogJobs.Worker.Protocol

/-!
# Concurrency slots in flight

A job counts against the concurrency manager from the call that took its slot to
the call that gave it back. `heldTypes` reads the slots in flight off a history,
those of a worker that raised without giving its slot back included. In every
reachable state the manager's counters are the numbers of these slots.
-/

namespace CloudDogJobs

open Foundation

variable {ι σ : Type} [DecidableEq ι]

/-- One event's effect on the slots in flight: the holder and the job type. -/
def ServiceEvent.onTypes (held : List (ι × String)) : ServiceEvent ι → List (ι × String)
  | .acted client (.acquireConcurrency jobType) granted =>
      if granted then held ++ [(client, jobType)] else held
  | .acted client (.releaseConcurrency jobType) _ => held.erase (client, jobType)
  | _ => held

/-- The concurrency slots taken and not given back. -/
def heldTypes (history : List (ServiceEvent ι)) : List (ι × String) :=
  history.foldl ServiceEvent.onTypes []

theorem heldTypes_snoc (history : List (ServiceEvent ι)) (event : ServiceEvent ι) :
    heldTypes (history ++ [event]) = event.onTypes (heldTypes history) := by
  simp [heldTypes]

/-- The number of slots in flight for a job type. -/
def typeCount (history : List (ServiceEvent ι)) (jobType : String) : Nat :=
  (heldTypes history).countP fun entry => entry.2 = jobType

/-- Every counter is the number of slots in flight it stands for, and an operation
that holds a slot is among them. -/
structure Counted (limits : ConcurrencyLimits) (shared : Shared σ)
    (stages : ι → Option (ServiceOp × Stage)) (history : List (ServiceEvent ι)) : Prop where
  limits : shared.concurrency.limits = limits
  global : shared.concurrency.global = (heldTypes history).length
  byType : ∀ jobType, shared.concurrency.byType.getD jobType 0 = typeCount history jobType
  byTenant : ∀ tenantId, shared.concurrency.byTenant.getD tenantId 0 =
    if tenantId = ConcurrencyManager.unspecified then (heldTypes history).length else 0
  byUser : ∀ userId, shared.concurrency.byUser.getD userId 0 =
    if userId = ConcurrencyManager.unspecified then (heldTypes history).length else 0
  owned : ∀ client op stage job, stages client = some (op, stage) → stage.concurrency = true →
    stage.job = some job → (client, job.jobType) ∈ heldTypes history

namespace Counted

variable {limits : ConcurrencyLimits} {shared : Shared σ}
  {stages : ι → Option (ServiceOp × Stage)} {history : List (ServiceEvent ι)}
  {client : ι} {op : ServiceOp} {stage : Stage}

/-- A step that leaves the manager and the slots in flight alone. -/
theorem frame (counted : Counted limits shared stages history) {after : Shared σ}
    {event : ServiceEvent ι} {stages' : ι → Option (ServiceOp × Stage)}
    (manager : after.concurrency = shared.concurrency)
    (untouched : event.onTypes (heldTypes history) = heldTypes history)
    (owned : ∀ other running reached job, stages' other = some (running, reached) →
      reached.concurrency = true → reached.job = some job →
        (other, job.jobType) ∈ heldTypes history) :
    Counted limits after stages' (history ++ [event]) := by
  have same : heldTypes (history ++ [event]) = heldTypes history :=
    (heldTypes_snoc history event).trans untouched
  constructor
  · rw [manager]
    exact counted.limits
  · rw [manager, same]
    exact counted.global
  · intro jobType
    rw [manager, typeCount, same]
    exact counted.byType jobType
  · intro tenantId
    rw [manager, same]
    exact counted.byTenant tenantId
  · intro userId
    rw [manager, same]
    exact counted.byUser userId
  · rw [same]
    exact owned

/-- A granted slot. -/
theorem acquire (counted : Counted limits shared stages history) {after : Shared σ}
    (jobType : String)
    (room : shared.concurrency.canAcquire jobType ConcurrencyManager.unspecified
      ConcurrencyManager.unspecified = true)
    (manager : after.concurrency = (shared.concurrency.acquire jobType
      ConcurrencyManager.unspecified ConcurrencyManager.unspecified).2)
    (looking : ∀ job, stage.job = some job → jobType = job.jobType) :
    Counted limits after
      (Function.update stages client (some (op, { stage with concurrency := true })))
      (history ++ [(.acted client (.acquireConcurrency jobType) true : ServiceEvent ι)]) := by
  have held : heldTypes (history ++
      [(.acted client (.acquireConcurrency jobType) true : ServiceEvent ι)]) =
        heldTypes history ++ [(client, jobType)] := by
    rw [heldTypes_snoc]
    rfl
  simp only [ConcurrencyManager.acquire, room, ↓reduceIte] at manager
  constructor
  · rw [manager]
    exact counted.limits
  · rw [manager, held, List.length_append, List.length_singleton]
    exact congrArg (· + 1) counted.global
  · intro other
    rw [manager, typeCount, held, List.countP_append, List.countP_singleton]
    simp only [Dict.getD_set, counted.byType]
    by_cases same : other = jobType
    · simp [same, typeCount]
    · simp [same, Ne.symm same, typeCount]
  · intro tenantId
    rw [manager, held, List.length_append, List.length_singleton]
    simp only [Dict.getD_set, counted.byTenant]
    split <;> simp
  · intro userId
    rw [manager, held, List.length_append, List.length_singleton]
    simp only [Dict.getD_set, counted.byUser]
    split <;> simp
  · intro other running reached job shown holds looks
    rw [held, List.mem_append, List.mem_singleton]
    rcases update_some_cases shown with ⟨rfl, same⟩ | ⟨_, shown⟩
    · obtain ⟨rfl, rfl⟩ := Prod.mk.inj same
      exact .inr (Prod.ext rfl (looking job looks).symm)
    · exact .inl (counted.owned other running reached job shown holds looks)

/-- A slot given back by an operation that holds it. -/
theorem release (counted : Counted limits shared stages history) {after : Shared σ}
    (found : stages client = some (op, stage)) (holds : stage.concurrency = true) {job : Job}
    (looking : stage.job = some job)
    (manager : after.concurrency = shared.concurrency.release job.jobType
      ConcurrencyManager.unspecified ConcurrencyManager.unspecified) :
    Counted limits after
      (Function.update stages client (some (op, { stage with concurrency := false })))
      (history ++ [(.acted client (.releaseConcurrency job.jobType) () : ServiceEvent ι)]) := by
  have member := counted.owned client op stage job found holds looking
  have held : heldTypes (history ++
      [(.acted client (.releaseConcurrency job.jobType) () : ServiceEvent ι)]) =
        (heldTypes history).erase (client, job.jobType) := by
    rw [heldTypes_snoc]
    rfl
  have shorter := List.length_erase_of_mem member
  simp only [ConcurrencyManager.release] at manager
  constructor
  · rw [manager]
    exact counted.limits
  · rw [manager, held, shorter]
    exact congrArg (· - 1) counted.global
  · intro other
    have counts := (List.perm_cons_erase member).countP_eq fun entry => entry.2 = other
    rw [List.countP_cons] at counts
    rw [manager, typeCount, held]
    simp only [Dict.getD_set, counted.byType, typeCount]
    by_cases same : other = job.jobType
    · simp only [same, decide_true, ↓reduceIte] at counts ⊢
      omega
    · simp only [same, Ne.symm same, decide_false, ↓reduceIte, Bool.false_eq_true] at counts ⊢
      omega
  · intro tenantId
    rw [manager, held, shorter]
    simp only [Dict.getD_set, counted.byTenant]
    split <;> simp
  · intro userId
    rw [manager, held, shorter]
    simp only [Dict.getD_set, counted.byUser]
    split <;> simp
  · intro other running reached task shown keeps looks
    rcases update_some_cases shown with ⟨rfl, same⟩ | ⟨different, shown⟩
    · obtain ⟨rfl, rfl⟩ := Prod.mk.inj same
      cases keeps
    · rw [held]
      have inside := counted.owned other running reached task shown keeps looks
      exact (List.mem_erase_of_ne fun equal => different (congrArg Prod.fst equal)).mpr inside

/-- Every call that the protocol allows keeps the account. -/
theorem act (counted : Counted limits shared stages history) (backend : QueueBackend σ)
    (found : stages client = some (op, stage)) (call : WorkerCall) (allowed : stage.Allows call) :
    Counted limits (Shared.exec backend call shared).2
      (Function.update stages client
        (some (op, stage.update call (Shared.exec backend call shared).1)))
      (history ++ [Event.acted client call (Shared.exec backend call shared).1]) := by
  have frame : ∀ {next : Stage} {event : ServiceEvent ι} {after : Shared σ},
      after.concurrency = shared.concurrency →
      event.onTypes (heldTypes history) = heldTypes history →
      (∀ job, next.concurrency = true → next.job = some job →
        stage.concurrency = true ∧ stage.job = some job) →
      Counted limits after (Function.update stages client (some (op, next)))
        (history ++ [event]) := by
    intro next event after manager untouched less
    apply counted.frame manager untouched
    intro other running reached job shown holds looks
    rcases update_some_cases shown with ⟨rfl, same⟩ | ⟨_, shown⟩
    · obtain ⟨rfl, rfl⟩ := Prod.mk.inj same
      obtain ⟨held, looked⟩ := less job holds looks
      exact counted.owned other running stage job found held looked
    · exact counted.owned other running reached job shown holds looks
  have steadily : call.Slotless →
      (stage.update call (Shared.exec backend call shared).1).SameSlots stage :=
    fun slotless => stage.update_sameSlots slotless _
  cases call with
  | acquireConcurrency jobType =>
      obtain ⟨_, job, looking, rfl⟩ := allowed
      cases room : shared.concurrency.canAcquire job.jobType ConcurrencyManager.unspecified
          ConcurrencyManager.unspecified with
      | true =>
          have granted := (shared.concurrency.acquire_fst job.jobType
            ConcurrencyManager.unspecified ConcurrencyManager.unspecified).trans room
          simp only [Shared.exec, Stage.update, granted]
          exact counted.acquire job.jobType room rfl
            fun other looks => congrArg Job.jobType (Option.some.inj (looking.symm.trans looks))
      | false =>
          have refused := (shared.concurrency.acquire_fst job.jobType
            ConcurrencyManager.unspecified ConcurrencyManager.unspecified).trans room
          have unchanged := shared.concurrency.acquire_snd_of_not room
          simp only [Shared.exec, Stage.update, refused]
          exact frame unchanged rfl fun _ holds => by cases holds
  | releaseConcurrency jobType =>
      obtain ⟨holds, job, looking, rfl⟩ := allowed
      exact counted.release found holds looking rfl
  | dequeue limit queueName =>
      refine frame rfl rfl ?_
      intro job holds
      rw [Stage.update_dequeue_concurrency, allowed.1] at holds
      cases holds
  | acquireResources jobId resources =>
      exact frame rfl rfl fun _ holds looks => ⟨holds, looks⟩
  | releaseResources jobId => exact frame rfl rfl fun _ holds looks => ⟨holds, looks⟩
  | _ =>
      refine frame rfl rfl ?_
      intro job holds looks
      have same := steadily trivial
      exact ⟨same.concurrency.symm.trans holds, same.job.symm.trans looks⟩

theorem call (counted : Counted limits shared stages history) :
    Counted limits shared (Function.update stages client (some (op, op.start)))
      (history ++ [Event.called client op]) := by
  refine counted.frame rfl rfl ?_
  intro other running reached job shown holds looks
  rcases update_some_cases shown with ⟨rfl, same⟩ | ⟨_, shown⟩
  · obtain ⟨rfl, rfl⟩ := Prod.mk.inj same
    cases running <;> cases holds
  · exact counted.owned other running reached job shown holds looks

theorem ret (counted : Counted limits shared stages history) (value : Except PyError Bool) :
    Counted limits shared (Function.update stages client none)
      (history ++ [Event.returned client op value]) := by
  refine counted.frame rfl rfl ?_
  intro other running reached job shown holds looks
  exact counted.owned other running reached job (update_none_cases shown).2 holds looks

theorem initial (shared : Shared σ) (fresh : shared.concurrency = .init limits) :
    Counted limits shared (fun _ : ι => none) [] := by
  constructor
  · rw [fresh]
    rfl
  · rw [fresh]
    rfl
  · rw [fresh]
    exact fun _ => rfl
  · rw [fresh]
    intro tenantId
    exact (ite_self 0).symm
  · rw [fresh]
    intro userId
    exact (ite_self 0).symm
  · intro client op stage job shown
    cases shown

end Counted

end CloudDogJobs
