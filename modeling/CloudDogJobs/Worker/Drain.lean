import CloudDogJobs.Worker.Limits

/-!
# Slots drain when the workers are idle

A worker takes the slots of its job before the claim decides who runs it, and the
pool records a holding under the job identifier alone. Two workers that select
the same job therefore share one holding: the second acquisition overwrites the
first, and of the two releases only one finds something to give back. As long as
no acquisition overwrites a holding and no release is cut off at zero, the counts
of the pool are the sum of its holdings, every holding has a running owner, and
nothing is in use once every worker is idle.
-/

namespace CloudDogJobs

open Foundation

variable {ι σ : Type}

/-- A call the pool can account for: slots are granted only to a job with no slot
recorded, and are given back only from counts that cover them. -/
def ResourcePool.Accountable (pool : ResourcePool) : WorkerCall → Prop
  | .acquireResources jobId resources => pool.canAcquire resources = true →
      ∀ name, slots (pool.holders.getD jobId ∅) name = 0
  | .releaseResources jobId => ∀ name held,
      (pool.holders.getD jobId ∅).get? name = some held → held ≤ pool.usedOf name
  | _ => True

/-- The next call of the client is one the pool can account for. -/
def NoSharedHolding (config : ServiceConfig ι σ) : Action ι ServiceOp → Prop
  | .act client => ∀ op command resume log,
      config.client client = .busy op (.act command resume) log →
        config.shared.pool.Accountable command
  | _ => True

/-- The operation has been granted the pool slots of the job. -/
def Stage.HoldsPool (stage : Stage) (jobId : String) : Prop :=
  stage.resources = true ∧ ∃ job, stage.job = some job ∧ job.jobId = jobId

/-- The operation holds the concurrency slot of a job of this type. -/
def Stage.HoldsSlot (stage : Stage) (jobType : String) : Prop :=
  stage.concurrency = true ∧ ∃ job, stage.job = some job ∧ job.jobType = jobType

/-- A running operation has been granted the pool slots of the job. -/
def HasPoolOwner (stages : ι → Option (ServiceOp × Stage)) (jobId : String) : Prop :=
  Somewhere stages fun _ running => running.2.HoldsPool jobId

/-- The client runs an operation that holds the concurrency slot of a job type. -/
def HoldsType (stages : ι → Option (ServiceOp × Stage)) (client : ι) (jobType : String) : Prop :=
  Somewhere stages fun other running => other = client ∧ running.2.HoldsSlot jobType

/-- The counts of the pool are the sum of its holdings, and each holding has a
running owner. -/
structure Recorded (shared : Shared σ) (stages : ι → Option (ServiceOp × Stage)) : Prop where
  used : ∀ name, shared.pool.usedOf name =
    shared.pool.holders.total fun held => ResourcePool.slots held name
  owned : ∀ jobId held, shared.pool.holders.get? jobId = some held → HasPoolOwner stages jobId

namespace Recorded

variable {shared : Shared σ} {stages : ι → Option (ServiceOp × Stage)}

/-- The share of one job in the sum of the holdings. -/
theorem slots_holding (pool : ResourcePool) (jobId name : String) :
    ((pool.holders.get? jobId).map fun held => ResourcePool.slots held name).getD 0 =
      ResourcePool.slots (pool.holders.getD jobId ∅) name := by
  rw [Dict.getD]
  cases pool.holders.get? jobId <;> rfl

variable [DecidableEq ι] {client : ι} {op : ServiceOp} {stage : Stage}

/-- Slots granted to a job with no slot recorded. -/
theorem acquire (recorded : Recorded shared stages) {job : Job}
    (found : stages client = some (op, stage)) (looking : stage.job = some job)
    (free : stage.resources = false) (filled : job.resources.isEmpty = false)
    (granted : (shared.pool.acquire job.jobId job.resources).1 = true)
    (unheld : ∀ name, ResourcePool.slots (shared.pool.holders.getD job.jobId ∅) name = 0) :
    Recorded { shared with pool := (shared.pool.acquire job.jobId job.resources).2 }
      (Function.update stages client (some (op, { stage with resources := true }))) := by
  have holders := shared.pool.holders_acquire job.jobId job.resources granted filled
  constructor
  · intro name
    have before := recorded.used name
    have none := unheld name
    show (shared.pool.acquire job.jobId job.resources).2.usedOf name =
      (shared.pool.acquire job.jobId job.resources).2.holders.total _
    rw [shared.pool.usedOf_acquire job.jobId job.resources granted, holders, Dict.total_set,
      slots_holding]
    omega
  · intro jobId held shown
    rw [show (shared.pool.acquire job.jobId job.resources).2.holders =
      shared.pool.holders.set job.jobId job.resources from holders, Dict.get?_set] at shown
    by_cases same : jobId = job.jobId
    · exact ⟨client, _, Function.update_self .., rfl, job, looking, same.symm⟩
    · rw [if_neg same] at shown
      apply (recorded.owned jobId held shown).update found
      intro holds
      rw [Stage.HoldsPool, free] at holds
      cases holds.1

/-- Slots given back without being cut off at zero. -/
theorem release (recorded : Recorded shared stages) {job : Job}
    (found : stages client = some (op, stage)) (looking : stage.job = some job)
    (covered : ∀ name held, (shared.pool.holders.getD job.jobId ∅).get? name = some held →
      held ≤ shared.pool.usedOf name) :
    Recorded { shared with pool := shared.pool.release job.jobId }
      (Function.update stages client (some (op, { stage with resources := false }))) := by
  constructor
  · intro name
    have before := recorded.used name
    show (shared.pool.release job.jobId).usedOf name =
      (shared.pool.holders.erase job.jobId).total _
    rw [shared.pool.usedOf_release_of_covered job.jobId name (covered name), Dict.total_erase,
      slots_holding]
    omega
  · intro jobId held shown
    rw [show (shared.pool.release job.jobId).holders = shared.pool.holders.erase job.jobId from rfl,
      Dict.get?_erase] at shown
    by_cases same : jobId = job.jobId
    · rw [if_pos same] at shown
      cases shown
    · rw [if_neg same] at shown
      apply (recorded.owned jobId held shown).update found
      intro holds
      obtain ⟨_, other, looks, owns⟩ := holds
      obtain rfl : job = other := Option.some.inj (looking.symm.trans looks)
      exact absurd owns.symm same

/-- A call that leaves the pool alone. -/
theorem frame (recorded : Recorded shared stages) {after : Shared σ} {next : Stage}
    (found : stages client = some (op, stage)) (pool : after.pool = shared.pool)
    (keeps : ∀ job, stage.resources = true → stage.job = some job →
      next.resources = true ∧ next.job = some job) :
    Recorded after (Function.update stages client (some (op, next))) := by
  constructor
  · rw [pool]
    exact recorded.used
  · rw [pool]
    intro jobId held shown
    apply (recorded.owned jobId held shown).update found
    intro holds
    obtain ⟨granted, job, looking, same⟩ := holds
    obtain ⟨still, looks⟩ := keeps job granted looking
    exact ⟨still, job, looks, same⟩

/-- Every call that the protocol allows and the pool can account for. -/
theorem act (recorded : Recorded shared stages) (backend : QueueBackend σ)
    (found : stages client = some (op, stage)) (call : WorkerCall) (allowed : stage.Allows call)
    (accountable : shared.pool.Accountable call) :
    Recorded (Shared.exec backend call shared).2 (Function.update stages client
      (some (op, stage.update call (Shared.exec backend call shared).1))) := by
  have steadily : call.Slotless →
      (stage.update call (Shared.exec backend call shared).1).SameSlots stage :=
    fun slotless => stage.update_sameSlots slotless _
  cases call with
  | acquireResources jobId resources =>
      obtain ⟨free, job, looking, rfl, rfl, filled⟩ := allowed
      cases granted : (shared.pool.acquire job.jobId job.resources).1 with
      | true =>
          simp only [Shared.exec, Stage.update, granted]
          have room := (shared.pool.acquire_fst job.jobId filled).symm.trans granted
          exact recorded.acquire found looking free filled granted (accountable room)
      | false =>
          have unchanged := shared.pool.acquire_refused job.jobId job.resources granted
          simp only [Shared.exec, Stage.update, granted]
          apply recorded.frame found unchanged
          intro _ holds
          rw [free] at holds
          cases holds
  | releaseResources jobId =>
      obtain ⟨job, looking, rfl, _⟩ := allowed
      exact recorded.release found looking accountable
  | dequeue limit queueName =>
      refine recorded.frame found rfl ?_
      intro job holds
      rw [allowed.2.1] at holds
      cases holds
  | acquireConcurrency jobType =>
      exact recorded.frame found rfl fun _ holds looks => ⟨holds, looks⟩
  | releaseConcurrency jobType =>
      exact recorded.frame found rfl fun _ holds looks => ⟨holds, looks⟩
  | _ =>
      have same := steadily trivial
      refine recorded.frame found rfl ?_
      intro job holds looks
      exact ⟨same.resources.trans holds, same.job.trans looks⟩

end Recorded

/-- The concurrency slots in flight belong to running operations, one slot each. -/
structure SlotsOwned (stages : ι → Option (ServiceOp × Stage)) (held : List (ι × String)) :
    Prop where
  single : (held.map Prod.fst).Nodup
  owned : ∀ entry ∈ held, HoldsType stages entry.1 entry.2

namespace SlotsOwned

variable [DecidableEq ι] {stages : ι → Option (ServiceOp × Stage)} {held : List (ι × String)}
  {client : ι} {op : ServiceOp} {stage : Stage}

/-- A call that leaves the slots alone. -/
theorem frame (slots : SlotsOwned stages held) {next : Stage}
    (found : stages client = some (op, stage))
    (keeps : ∀ job, stage.concurrency = true → stage.job = some job →
      next.concurrency = true ∧ next.job = some job) :
    SlotsOwned (Function.update stages client (some (op, next))) held := by
  refine ⟨slots.single, ?_⟩
  intro entry member
  apply (slots.owned entry member).update found
  intro holds
  obtain ⟨owner, taken, job, looking, same⟩ := holds
  obtain ⟨still, looks⟩ := keeps job taken looking
  exact ⟨owner, still, job, looks, same⟩

/-- An operation without a slot takes one. -/
theorem acquire (slots : SlotsOwned stages held) {job : Job}
    (found : stages client = some (op, stage)) (looking : stage.job = some job)
    (free : stage.concurrency = false) :
    SlotsOwned (Function.update stages client (some (op, { stage with concurrency := true })))
      (held ++ [(client, job.jobType)]) := by
  have absent : client ∉ held.map Prod.fst := by
    intro member
    obtain ⟨entry, inside, rfl⟩ := List.mem_map.mp member
    obtain ⟨owner, running, shown, rfl, holds, _⟩ := slots.owned entry inside
    obtain rfl := Option.some.inj (found.symm.trans shown)
    rw [free] at holds
    cases holds
  constructor
  · rw [List.map_append, List.map_singleton, List.nodup_append]
    refine ⟨slots.single, List.nodup_singleton _, ?_⟩
    intro holder member other last same
    rw [same, List.mem_singleton.mp last] at member
    exact absent member
  · intro entry member
    rcases List.mem_append.mp member with earlier | last
    · apply (slots.owned entry earlier).update found
      intro holds
      rw [Stage.HoldsSlot, free] at holds
      cases holds.2.1
    · rw [List.mem_singleton.mp last]
      exact ⟨client, _, Function.update_self .., rfl, rfl, job, looking, rfl⟩

/-- An operation gives its slot back; it had no other. -/
theorem release (slots : SlotsOwned stages held) {job : Job}
    (found : stages client = some (op, stage)) (looking : stage.job = some job) :
    SlotsOwned (Function.update stages client (some (op, { stage with concurrency := false })))
      (held.erase (client, job.jobType)) := by
  refine ⟨slots.single.sublist (List.erase_sublist.map _), ?_⟩
  intro entry member
  have earlier := List.mem_of_mem_erase member
  apply (slots.owned entry earlier).update found
  intro holds
  obtain ⟨owner, _, other, looks, typed⟩ := holds
  -- An entry of the client left behind would be the one that was erased.
  obtain rfl : job = other := Option.some.inj (looking.symm.trans looks)
  have erased : entry = (client, job.jobType) := Prod.ext owner.symm typed.symm
  have distinct : held.Nodup := List.Nodup.of_map _ slots.single
  rw [erased] at member
  exact absurd member distinct.not_mem_erase

/-- Every call that the protocol allows. -/
theorem act {history : List (ServiceEvent ι)} (slots : SlotsOwned stages (heldTypes history))
    (backend : QueueBackend σ) (shared : Shared σ) (found : stages client = some (op, stage))
    (call : WorkerCall) (allowed : stage.Allows call) :
    SlotsOwned (Function.update stages client
        (some (op, stage.update call (Shared.exec backend call shared).1)))
      (heldTypes (history ++ [Event.acted client call (Shared.exec backend call shared).1])) := by
  rw [heldTypes_snoc]
  have steadily : call.Slotless →
      (stage.update call (Shared.exec backend call shared).1).SameSlots stage :=
    fun slotless => stage.update_sameSlots slotless _
  cases call with
  | acquireConcurrency jobType =>
      obtain ⟨free, job, looking, rfl⟩ := allowed
      simp only [ServiceEvent.onTypes, Stage.update]
      cases (Shared.exec backend (.acquireConcurrency job.jobType) shared).1 with
      | true => exact slots.acquire found looking free
      | false =>
          refine slots.frame found ?_
          intro _ holds
          rw [free] at holds
          cases holds
  | releaseConcurrency jobType =>
      obtain ⟨_, job, looking, rfl⟩ := allowed
      exact slots.release found looking
  | dequeue limit queueName =>
      refine slots.frame found ?_
      intro job holds
      rw [allowed.1] at holds
      cases holds
  | acquireResources jobId resources =>
      exact slots.frame found fun _ holds looks => ⟨holds, looks⟩
  | releaseResources jobId => exact slots.frame found fun _ holds looks => ⟨holds, looks⟩
  | _ =>
      have same := steadily trivial
      refine slots.frame found ?_
      intro job holds looks
      exact ⟨same.concurrency.trans holds, same.job.trans looks⟩

end SlotsOwned

/-- Every worker has a handler for every job that is stored or looked at. -/
structure Registered (view : σ → String → Option Ticket) (workers : ι → Worker)
    (shared : Shared σ) (stages : ι → Option (ServiceOp × Stage)) : Prop where
  stored : ∀ jobId ticket, view shared.store jobId = some ticket →
    ∀ client, ticket.jobType ∈ (workers client).handlers
  looked : ∀ other op stage job, stages other = some (op, stage) → stage.job = some job →
    ∀ client, job.jobType ∈ (workers client).handlers

namespace Registered

variable {view : σ → String → Option Ticket} {workers : ι → Worker}
  {shared : Shared σ} {stages : ι → Option (ServiceOp × Stage)} {backend : QueueBackend σ}
  {client : ι} {op : ServiceOp} {stage : Stage}

/-- The job types of a store after a call were there before, or are the type of a
job that was looked at. -/
theorem stored_after (registered : Registered view workers shared stages)
    (lawful : backend.Lawful view) (found : stages client = some (op, stage)) (call : WorkerCall)
    (allowed : stage.Allows call) (jobId : String) (ticket : Ticket)
    (shown : view (Shared.exec backend call shared).2.store jobId = some ticket) (other : ι) :
    ticket.jobType ∈ (workers other).handlers := by
  have moved : ∀ source status,
      (view shared.store source).map (fun earlier => earlier.withStatus status) = some ticket →
        ticket.jobType ∈ (workers other).handlers := by
    intro source status changed
    obtain ⟨earlier, before, rfl⟩ := Option.map_eq_some_iff.mp changed
    exact registered.stored source earlier before other
  cases call with
  | claim target hostId workerId now =>
      have after := lawful.view_claim target hostId workerId now shared.store jobId
      have changed := after.symm.trans shown
      split at changed
      · exact moved target .running changed
      · exact registered.stored jobId ticket changed other
  | updateStatus target status now =>
      have after := lawful.view_updateStatus target status now shared.store jobId
      have changed := after.symm.trans shown
      split at changed
      · exact moved target status changed
      · exact registered.stored jobId ticket changed other
  | heartbeat target now =>
      have after := lawful.view_heartbeat target now shared.store jobId
      exact registered.stored jobId ticket (after.symm.trans shown) other
  | enqueue copy now =>
      obtain ⟨job, looking, typed, _⟩ := allowed
      by_cases same : jobId = copy.jobId
      · subst same
        rcases lawful.enqueue_self copy now shared.store with kept | ⟨placed, put, _, kind, _⟩
        · exact registered.stored copy.jobId ticket (kept.symm.trans shown) other
        · obtain rfl : placed = ticket := Option.some.inj (put.symm.trans shown)
          rw [kind, typed]
          exact registered.looked client op stage job found looking other
      · have after := lawful.enqueue_other copy now shared.store jobId same
        exact registered.stored jobId ticket (after.symm.trans shown) other
  | _ => exact registered.stored jobId ticket shown other

variable [DecidableEq ι]

/-- A step after which the operation looks at a registered job. -/
theorem update (registered : Registered view workers shared stages) {after : Shared σ}
    {entry : Option (ServiceOp × Stage)}
    (stored : ∀ jobId ticket, view after.store jobId = some ticket →
      ∀ other, ticket.jobType ∈ (workers other).handlers)
    (looks : ∀ running next job, entry = some (running, next) → next.job = some job →
      ∀ other, job.jobType ∈ (workers other).handlers) :
    Registered view workers after (Function.update stages client entry) := by
  refine ⟨stored, ?_⟩
  intro holder running reached job shown looking
  by_cases same : holder = client
  · subst same
    rw [Function.update_self] at shown
    exact looks running reached job shown looking
  · rw [Function.update_of_ne same] at shown
    exact registered.looked holder running reached job shown looking

/-- Every call that the protocol allows. -/
theorem act (registered : Registered view workers shared stages) (lawful : backend.Lawful view)
    (found : stages client = some (op, stage)) (call : WorkerCall) (allowed : stage.Allows call) :
    Registered view workers (Shared.exec backend call shared).2 (Function.update stages client
      (some (op, stage.update call (Shared.exec backend call shared).1))) := by
  apply registered.update (registered.stored_after lawful found call allowed)
  intro running next job same looking
  obtain ⟨rfl, rfl⟩ := Prod.mk.inj (Option.some.inj same)
  have before : stage.job = some job → ∀ other, job.jobType ∈ (workers other).handlers :=
    registered.looked client op stage job found
  have steadily : call.Slotless →
      (stage.update call (Shared.exec backend call shared).1).SameSlots stage :=
    fun slotless => stage.update_sameSlots slotless _
  cases call with
  | dequeue limit queueName =>
      obtain ⟨jobs, returned, shown⟩ := lawful.dequeue limit none queueName shared.store
      have head : jobs.head? = some job := by
        simpa [Shared.exec, Stage.update, returned] using looking
      exact registered.stored job.jobId job.ticket (shown job (List.mem_of_head? head)).2
  | acquireConcurrency jobType => exact before looking
  | releaseConcurrency jobType => exact before looking
  | acquireResources jobId resources => exact before looking
  | releaseResources jobId => exact before looking
  | _ =>
      have same := steadily trivial
      exact before (same.job.symm.trans looking)

end Registered

/-- What every reachable state keeps. -/
structure Accounted (view : σ → String → Option Ticket) (workers : ι → Worker)
    (limits : ConcurrencyLimits) [DecidableEq ι] (shared : Shared σ)
    (stages : ι → Option (ServiceOp × Stage)) (history : List (ServiceEvent ι)) : Prop where
  counted : Counted limits shared stages history
  slots : SlotsOwned stages (heldTypes history)
  recorded : Recorded shared stages
  registered : Registered view workers shared stages

/-- Nothing is in use. -/
structure Shared.Drained (shared : Shared σ) : Prop where
  pool : ∀ name, shared.pool.usedOf name = 0
  global : shared.concurrency.global = 0
  byType : ∀ jobType, shared.concurrency.activeByType jobType = 0
  byTenant : ∀ tenantId, shared.concurrency.byTenant.getD tenantId 0 = 0
  byUser : ∀ userId, shared.concurrency.byUser.getD userId 0 = 0

namespace Accounted

variable [DecidableEq ι] {view : σ → String → Option Ticket} {workers : ι → Worker}
  {limits : ConcurrencyLimits} {shared : Shared σ} {stages : ι → Option (ServiceOp × Stage)}
  {history : List (ServiceEvent ι)} {client : ι} {op : ServiceOp} {stage : Stage}

theorem call (accounted : Accounted view workers limits shared stages history)
    (idle : stages client = none) :
    Accounted view workers limits shared (Function.update stages client (some (op, op.start)))
      (history ++ [Event.called client op]) := by
  have held : heldTypes (history ++ [Event.called client op]) = heldTypes history :=
    heldTypes_snoc history _
  have nothing : ∀ running, stages client ≠ some running := by
    intro running shown
    rw [idle] at shown
    cases shown
  constructor
  · exact accounted.counted.call
  · rw [held]
    refine ⟨accounted.slots.single, ?_⟩
    intro entry member
    exact (accounted.slots.owned entry member).update_of_not
      (fun running shown => absurd shown (nothing running)) _
  · refine ⟨accounted.recorded.used, ?_⟩
    intro jobId slots shown
    exact (accounted.recorded.owned jobId slots shown).update_of_not
      (fun running shown => absurd shown (nothing running)) _
  · apply accounted.registered.update accounted.registered.stored
    intro running next job same looking
    obtain ⟨rfl, rfl⟩ := Prod.mk.inj (Option.some.inj same)
    cases op <;> cases looking

/-- An operation that returns holds nothing: the type of its job has a handler. -/
theorem ret (accounted : Accounted view workers limits shared stages history)
    (found : stages client = some (op, stage)) (returns : (workers client).Returns stage)
    (value : Except PyError Bool) :
    Accounted view workers limits shared (Function.update stages client none)
      (history ++ [Event.returned client op value]) := by
  have free : stage.concurrency = false ∧ stage.resources = false := by
    rcases returns with free | ⟨job, looking, unknown⟩
    · exact free
    · exact absurd (accounted.registered.looked client op stage job found looking client) unknown
  have held : heldTypes (history ++ [Event.returned client op value]) = heldTypes history :=
    heldTypes_snoc history _
  constructor
  · exact accounted.counted.ret value
  · rw [held]
    refine ⟨accounted.slots.single, ?_⟩
    intro entry member
    apply (accounted.slots.owned entry member).update_of_not
    intro running shown holds
    obtain rfl := Option.some.inj (found.symm.trans shown)
    exact absurd holds.2.1 (Bool.eq_false_iff.mp free.1)
  · refine ⟨accounted.recorded.used, ?_⟩
    intro jobId slots recorded
    apply (accounted.recorded.owned jobId slots recorded).update_of_not
    intro running shown holds
    obtain rfl := Option.some.inj (found.symm.trans shown)
    exact absurd holds.1 (Bool.eq_false_iff.mp free.2)
  · apply accounted.registered.update accounted.registered.stored
    intro running next job same
    cases same

theorem initial (shared : Shared σ) (pools : Dict String Int)
    (unusedManager : shared.concurrency = .init limits) (unusedPool : shared.pool = .init pools)
    (registered : ∀ jobId ticket, view shared.store jobId = some ticket →
      ∀ client, ticket.jobType ∈ (workers client).handlers) :
    Accounted view workers limits shared (fun _ : ι => none) [] := by
  constructor
  · exact Counted.initial shared unusedManager
  · exact ⟨List.nodup_nil, fun _ member => by cases member⟩
  · rw [show shared = { shared with pool := .init pools } by rw [← unusedPool]]
    exact ⟨fun _ => rfl, fun _ _ shown => by cases shown⟩
  · exact ⟨registered, fun _ _ _ _ shown => by cases shown⟩

/-- With no operation in progress nothing is in use. -/
theorem drained (accounted : Accounted view workers limits shared stages history)
    (quiet : ∀ client, stages client = none) : shared.Drained := by
  have none : heldTypes history = [] := by
    rw [List.eq_nil_iff_forall_not_mem]
    intro entry member
    obtain ⟨client, _, shown, _⟩ := accounted.slots.owned entry member
    rw [quiet client] at shown
    cases shown
  have counted := accounted.counted
  constructor
  · intro name
    rw [accounted.recorded.used name]
    apply Dict.total_eq_zero
    intro jobId
    cases found : shared.pool.holders.get? jobId with
    | none => rfl
    | some held =>
        obtain ⟨client, _, shown, _⟩ := accounted.recorded.owned jobId held found
        rw [quiet client] at shown
        cases shown
  · rw [counted.global, none]
    rfl
  · intro jobType
    rw [ConcurrencyManager.activeByType, counted.byType, typeCount, none]
    rfl
  · intro tenantId
    rw [counted.byTenant, none]
    exact ite_self 0
  · intro userId
    rw [counted.byUser, none]
    exact ite_self 0

end Accounted

/-- The account is right in every reachable state. -/
theorem accounted_invariant [DecidableEq ι] (backend : QueueBackend σ) (workers : ι → Worker)
    {view : σ → String → Option Ticket} (lawful : backend.Lawful view)
    (limits : ConcurrencyLimits) :
    (serviceMachine backend workers).Invariant protocol (fun _ op => op.start)
      (fun client op => op.Leaves (workers client)) NoSharedHolding
      (Accounted view workers limits) := by
  apply serviceMachine_invariant lawful workers
  · intro config client op idle accounted
    exact accounted.call idle
  · intro config client op stage command resume log permitted busy found allowed accounted
    have accountable := permitted op command resume log busy
    exact ⟨accounted.counted.act backend found command allowed,
      accounted.slots.act backend config.shared found command allowed,
      accounted.recorded.act backend found command allowed accountable,
      accounted.registered.act lawful found command allowed⟩
  · intro config client op stage value found leaves accounted
    exact accounted.ret found leaves.returns value

/-- **Slots drain.** Any number of workers share the backend, a manager and a pool
in which nothing is taken yet, and every worker has a handler for the type of
every stored job. The backend is lawful, so that its calls return, the claim outside
the `try` block among them. The workers' calls interleave freely, except that no pool slots are
granted to a job for which some are recorded and none are given back from a count
that does not cover them. Whenever no operation is in progress, every count of the
pool and of the manager is zero. -/
theorem slots_drain_when_idle [DecidableEq ι] (backend : QueueBackend σ) (workers : ι → Worker)
    (view : σ → String → Option Ticket) (lawful : backend.Lawful view) (shared : Shared σ)
    (limits : ConcurrencyLimits) (pools : Dict String Int)
    (unusedManager : shared.concurrency = .init limits) (unusedPool : shared.pool = .init pools)
    (registered : ∀ jobId ticket, view shared.store jobId = some ticket →
      ∀ client, ticket.jobType ∈ (workers client).handlers)
    (schedule : List (Action ι ServiceOp))
    (accountable : (serviceMachine backend workers).Permits NoSharedHolding (.initial shared)
      schedule)
    (quiet : ((serviceMachine backend workers).runFrom (.initial shared) schedule).Quiet) :
    ((serviceMachine backend workers).runFrom (.initial shared) schedule).shared.Drained := by
  have accounted := (accounted_invariant backend workers lawful limits).run shared
    (Accounted.initial shared pools unusedManager unusedPool registered) schedule accountable
  apply accounted.drained
  intro client
  exact Config.summary_of_idle (quiet client) protocol fun _ op => op.start

section Sample

theorem pooledTask_registered (jobId : String) (ticket : Ticket)
    (shown : MemoryQueueBackend.view pooledTask.store jobId = some ticket) (client : Bool) :
    ticket.jobType ∈ (pooledWorker client).handlers := by
  have stored : MemoryQueueBackend.view pooledTask.store jobId = _ :=
    MemoryQueueBackend.view_enqueue .empty _ jobId
  rw [stored] at shown
  split at shown
  · cases shown
    exact List.mem_singleton.mpr rfl
  · cases shown

/-- One worker runs the job to its end, then the other finds the queue empty. -/
def oneAfterTheOther : List (Action Bool ServiceOp) :=
  [.call true (.runOnce {})] ++ List.replicate 9 (.act true) ++ [.ret true] ++
    [.call false (.runOnce {}), .act false, .ret false]

theorem one_after_the_other_drains :
    ((serviceMachine MemoryQueueBackend.contract pooledWorker).runFrom (.initial pooledTask)
      oneAfterTheOther).shared.Drained := by
  refine slots_drain_when_idle MemoryQueueBackend.contract pooledWorker MemoryQueueBackend.view
    MemoryQueueBackend.lawful pooledTask {} (Dict.empty.set "gpu" 2) rfl rfl
    pooledTask_registered oneAfterTheOther ?_ ?_
  · refine ⟨trivial, ?_, ?_, ?_, ?_, ?_, ?_, ?_, ?_, ?_, trivial, trivial, ?_, trivial, trivial⟩
    all_goals
      rintro _ _ _ _ ⟨⟩
    case refine_3 => exact fun _ _ => rfl
    case refine_9 =>
      intro name held found
      obtain ⟨rfl, rfl⟩ : name = "gpu" ∧ held = 1 := by
        have given : (Dict.empty.set "gpu" (1 : Int)).get? name = some held := found
        rw [Dict.get?_set] at given
        split at given
        · next same => exact ⟨same, (Option.some.inj given).symm⟩
        · cases given
      decide
    all_goals trivial
  · intro client
    cases client <;> rfl

/-- Both workers select the job, the first one claims it, the second one gives up
and the first one finishes. -/
def bothSelectOneClaims : List (Action Bool ServiceOp) :=
  bothSelect ++ [.act true] ++ List.replicate 3 (.act false) ++ [.ret false] ++
    List.replicate 5 (.act true) ++ [.ret true]

theorem shared_holding_leaks :
    (∀ jobId ticket, MemoryQueueBackend.view pooledTask.store jobId = some ticket →
      ∀ client, ticket.jobType ∈ (pooledWorker client).handlers) ∧
    ((serviceMachine MemoryQueueBackend.contract pooledWorker).runFrom (.initial pooledTask)
      bothSelectOneClaims).Quiet ∧
    ((serviceMachine MemoryQueueBackend.contract pooledWorker).runFrom (.initial pooledTask)
      bothSelectOneClaims).shared.pool.usedOf "gpu" = 1 := by
  refine ⟨pooledTask_registered, ?_, ?_⟩
  · intro client
    cases client <;> rfl
  · decide

end Sample

end CloudDogJobs
