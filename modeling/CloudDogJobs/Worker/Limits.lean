import CloudDogJobs.Backend.Memory
import CloudDogJobs.Worker.ConcurrencyAccount
import CloudDogJobs.Worker.PoolAccount

/-!
# Limits under contention

Workers share one backend, one concurrency manager and one resource pool, and
their calls interleave freely. The jobs in flight stay within the limits of the
manager and of the pool in every reachable state.
-/

namespace CloudDogJobs

open Foundation

variable {ι σ : Type} [DecidableEq ι]

/-- The concurrency slots in flight respect the limits. -/
structure WithinLimits (limits : ConcurrencyLimits) (history : List (ServiceEvent ι)) : Prop where
  total : ((heldTypes history).length : Int) ≤ limits.globalMax
  byType : ∀ jobType, (typeCount history jobType : Int) ≤ limits.perTypeMax

namespace WithinLimits

variable {limits : ConcurrencyLimits} {history : List (ServiceEvent ι)}

/-- An event that takes no slot keeps the limits. -/
theorem of_sublist (within : WithinLimits limits history) {event : ServiceEvent ι}
    (fewer : (event.onTypes (heldTypes history)).Sublist (heldTypes history)) :
    WithinLimits limits (history ++ [event]) := by
  constructor
  · have shorter := fewer.length_le
    have before := within.total
    rw [heldTypes_snoc]
    omega
  · intro jobType
    have shorter : typeCount (history ++ [event]) jobType ≤ typeCount history jobType := by
      unfold typeCount
      rw [heldTypes_snoc]
      exact fewer.countP_le
    have before := within.byType jobType
    omega

/-- A slot is taken only when the counters are below their limits. -/
theorem acquire (within : WithinLimits limits history) {shared : Shared σ}
    {stages : ι → Option (ServiceOp × Stage)} (counted : Counted limits shared stages history)
    (client : ι) (jobType : String)
    (room : shared.concurrency.canAcquire jobType ConcurrencyManager.unspecified
      ConcurrencyManager.unspecified = true) :
    WithinLimits limits (history ++
      [(.acted client (.acquireConcurrency jobType) true : ServiceEvent ι)]) := by
  have held : heldTypes (history ++
      [(.acted client (.acquireConcurrency jobType) true : ServiceEvent ι)]) =
        heldTypes history ++ [(client, jobType)] := by
    rw [heldTypes_snoc]
    rfl
  simp only [ConcurrencyManager.canAcquire, Bool.and_eq_true, decide_eq_true_eq, counted.limits,
    counted.global, counted.byType] at room
  constructor
  · rw [held, List.length_append, List.length_singleton]
    have below := room.1.1.1
    omega
  · intro other
    rw [typeCount, held, List.countP_append, List.countP_singleton]
    have before := within.byType other
    have below := room.1.1.2
    unfold typeCount at before below
    by_cases same : jobType = other
    · subst same
      simp only [decide_true, ↓reduceIte]
      omega
    · simp only [same, decide_false, Bool.false_eq_true, ↓reduceIte]
      omega

/-- Every call keeps the limits. -/
theorem act (within : WithinLimits limits history) {shared : Shared σ}
    {stages : ι → Option (ServiceOp × Stage)} (counted : Counted limits shared stages history)
    (backend : QueueBackend σ) (client : ι) (call : WorkerCall) :
    WithinLimits limits
      (history ++ [Event.acted client call (Shared.exec backend call shared).1]) := by
  cases call with
  | acquireConcurrency jobType =>
      cases room : shared.concurrency.canAcquire jobType ConcurrencyManager.unspecified
          ConcurrencyManager.unspecified with
      | true =>
          have granted := (shared.concurrency.acquire_fst jobType
            ConcurrencyManager.unspecified ConcurrencyManager.unspecified).trans room
          simp only [Shared.exec, granted]
          exact within.acquire counted client jobType room
      | false =>
          have refused := (shared.concurrency.acquire_fst jobType
            ConcurrencyManager.unspecified ConcurrencyManager.unspecified).trans room
          simp only [Shared.exec, refused]
          exact within.of_sublist (List.Sublist.refl _)
  | releaseConcurrency jobType => exact within.of_sublist List.erase_sublist
  | _ => exact within.of_sublist (List.Sublist.refl _)

end WithinLimits

theorem withinLimits_invariant (backend : QueueBackend σ) (workers : ι → Worker)
    {view : σ → String → Option Ticket} (lawful : backend.Lawful view)
    (permit : ServiceConfig ι σ → Action ι ServiceOp → Prop) (limits : ConcurrencyLimits) :
    (serviceMachine backend workers).Invariant protocol (fun _ op => op.start)
      (fun client op => op.Leaves (workers client)) permit
      (fun shared stages history =>
        Counted limits shared stages history ∧ WithinLimits limits history) := by
  apply serviceMachine_invariant lawful workers
  · rintro config client op _ ⟨counted, within⟩
    exact ⟨counted.call, within.of_sublist (List.Sublist.refl _)⟩
  · rintro config client op stage command resume log _ _ found allowed ⟨counted, within⟩
    exact ⟨counted.act backend found command allowed,
      within.act counted backend client command⟩
  · rintro config client op stage value _ _ ⟨counted, within⟩
    exact ⟨counted.ret value, within.of_sublist (List.Sublist.refl _)⟩

/-- **Limits are never exceeded.** Any number of workers share the backend, a
manager and a pool in which nothing is taken yet; their limits and the requests
of the stored jobs are not negative, and dead letters get fresh identifiers.
After any interleaving of their calls, the jobs whose slots were taken and not
given back ask for at most the limit of each pool, and are at most
`per_type_max` of each type and at most `global_max` in all. -/
theorem limits_never_exceeded (backend : QueueBackend σ) (workers : ι → Worker)
    (view : σ → String → Option Ticket) (lawful : backend.Lawful view) (shared : Shared σ)
    (limits : ConcurrencyLimits) (pools : Dict String Int)
    (unusedManager : shared.concurrency = .init limits) (unusedPool : shared.pool = .init pools)
    (wide : 0 ≤ limits.globalMax ∧ 0 ≤ limits.perTypeMax)
    (widePools : ∀ name limit, pools.get? name = some limit → 0 ≤ limit)
    (sound : ∀ jobId ticket, view shared.store jobId = some ticket →
      ∀ name, 0 ≤ ResourcePool.slots ticket.resources name)
    (schedule : List (Action ι ServiceOp))
    (fresh : (serviceMachine backend workers).Permits (FreshDeadLetters view) (.initial shared)
      schedule) :
    (∀ name limit, pools.get? name = some limit →
      slotSum (heldSlots ((serviceMachine backend workers).runFrom (.initial shared)
        schedule).history) name ≤ limit) ∧
    (∀ jobType, (typeCount ((serviceMachine backend workers).runFrom (.initial shared)
      schedule).history jobType : Int) ≤ limits.perTypeMax) ∧
    ((heldTypes ((serviceMachine backend workers).runFrom (.initial shared)
      schedule).history).length : Int) ≤ limits.globalMax := by
  have requests : ∀ jobId resources, Requests view shared jobId resources →
      ∀ name, 0 ≤ ResourcePool.slots resources name := by
    rintro jobId resources ⟨ticket, shown, rfl⟩
    exact sound jobId ticket shown
  have pooled := (pooled_invariant backend workers lawful pools widePools).run shared
    (Pooled.initial shared unusedPool widePools requests) schedule fresh
  obtain ⟨_, within⟩ := (withinLimits_invariant backend workers lawful (FreshDeadLetters view)
    limits).run shared ⟨Counted.initial shared unusedManager, wide.1, fun _ => wide.2⟩ schedule
      fresh
  refine ⟨?_, within.byType, within.total⟩
  intro name limit limited
  have covered := pooled.covered name
  have bounded := pooled.within name limit limited
  omega

section Sample

/-- A queued job that asks for one slot of a pool with two. -/
def pooledTask : Shared MemoryQueueBackend :=
  { Shared.fresh (MemoryQueueBackend.empty.enqueue (.fromRequest
      { jobType := "task", resources := Dict.empty.set "gpu" 1 } "first" 0)).2 with
    pool := .init (Dict.empty.set "gpu" 2) }

def pooledWorker : Bool → Worker :=
  fun _ => { handlers := ["task"], concurrency := true, resourcePool := true }

/-- Both workers select the job before either claims it. -/
def bothSelect : List (Action Bool ServiceOp) :=
  [.call true (.runOnce {}), .act true, .act true, .act true,
    .call false (.runOnce {}), .act false, .act false, .act false]

theorem both_selections_within_limit :
    slotSum (heldSlots ((serviceMachine MemoryQueueBackend.contract pooledWorker).runFrom
      (.initial pooledTask) bothSelect).history) "gpu" ≤ 2 := by
  refine (limits_never_exceeded MemoryQueueBackend.contract pooledWorker MemoryQueueBackend.view
    MemoryQueueBackend.lawful pooledTask {} (Dict.empty.set "gpu" 2) rfl rfl (by decide) ?_ ?_
    bothSelect ?_).1 "gpu" 2 rfl
  · intro name limit limited
    rw [Dict.get?_set] at limited
    split at limited
    · cases limited
      decide
    · cases limited
  · intro jobId ticket shown name
    have stored : MemoryQueueBackend.view pooledTask.store jobId = _ :=
      MemoryQueueBackend.view_enqueue .empty _ jobId
    rw [stored] at shown
    split at shown
    · cases shown
      show 0 ≤ (Dict.empty.set "gpu" (1 : Int)).getD name 0
      rw [Dict.getD_set]
      split
      · decide
      · exact Int.le_refl 0
    · cases shown
  · refine ⟨trivial, ?_, ?_, ?_, trivial, ?_, ?_, ?_, trivial⟩
    all_goals rintro _ _ _ _ _ ⟨⟩

end Sample

end CloudDogJobs
