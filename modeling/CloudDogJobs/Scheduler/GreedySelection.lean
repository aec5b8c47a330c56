import CloudDogJobs.Foundation.Greedy
import CloudDogJobs.Scheduler.OwnLimits

/-!
# Selection over any backend

What `Dispatcher.select_eligible` selects, and what it adds to the counters, for any
backend and any state of the shared objects, as long as no call raises. The manager's
slot is taken before the pool is asked and given back when the pool refuses, so a job
that is left out adds nothing.
-/

namespace CloudDogJobs

open Foundation WorkerProg

namespace Dispatcher

variable {σ : Type} {dispatcher : Dispatcher} {backend : QueueBackend σ} {shared : Shared σ}

/-- The backend shows the dependency with another status than succeeded, or not at all. -/
def Unsatisfied (backend : QueueBackend σ) (store : σ) (dependency : String) : Prop :=
  ∃ found, backend.get dependency store = .ok found ∧
    found.map Job.status ≠ some .succeeded

/-- The dependencies that the dispatcher checks for a job. -/
def checkedDependencies (dispatcher : Dispatcher) (tracker : DependencyTracker) (job : Job) :
    List String :=
  if dispatcher.dependencyTracker && !job.dependsOn.isEmpty then
    tracker.getDependencies job.jobId
  else []

theorem getJobStatus_returned {dependency : String} {status : Option JobStatus}
    {after : Shared σ}
    (returned : (getJobStatus dependency).run (Shared.exec backend) shared = (.ok status, after)) :
    after = shared ∧ ∃ found, backend.get dependency shared.store = .ok found ∧
      found.map Job.status = status := by
  obtain ⟨found, middle, read, mapped⟩ := exists_of_run_andThen_ok returned
  obtain ⟨answered, rfl⟩ := Prod.mk.inj read
  obtain ⟨status_, rfl⟩ := Prod.mk.inj mapped
  exact ⟨rfl, found, answered, Except.ok.inj status_⟩

/-- The loop over the dependencies stops at the first that has not succeeded. -/
theorem allSucceeded_returned {dependencies : List String} {met : Bool} {after : Shared σ}
    (returned : (allSucceeded dependencies).run (Shared.exec backend) shared = (.ok met, after)) :
    after = shared ∧
      (met = false ↔ ∃ dependency ∈ dependencies, Unsatisfied backend shared.store dependency) := by
  induction dependencies with
  | nil =>
      cases returned
      simp
  | cons dependency rest ih =>
      obtain ⟨status, middle, read, next⟩ := exists_of_run_andThen_ok returned
      obtain ⟨unchanged, found, answered, shown⟩ := getJobStatus_returned read
      rw [unchanged] at next
      have first : Unsatisfied backend shared.store dependency ↔ status ≠ some .succeeded := by
        rw [← shown]
        refine ⟨?_, ?_⟩
        · rintro ⟨other, same, unfinished⟩
          rwa [Except.ok.inj (answered.symm.trans same)]
        · intro unfinished
          exact ⟨found, answered, unfinished⟩
      split at next
      · next unfinished =>
          cases next
          exact ⟨rfl, iff_of_true rfl ⟨dependency, List.mem_cons_self, first.mpr unfinished⟩⟩
      · next finished =>
          obtain ⟨same, exactly⟩ := ih next
          refine ⟨same, exactly.trans ?_⟩
          simp [first, finished]

theorem checkDependencies_returned {job : Job} {met : Bool} {after : Shared σ}
    (returned : (dispatcher.checkDependencies job).run (Shared.exec backend) shared =
      (.ok met, after)) :
    after = shared ∧ (met = false ↔
      ∃ dependency ∈ dispatcher.checkedDependencies shared.tracker job,
        Unsatisfied backend shared.store dependency) := by
  unfold checkDependencies at returned
  unfold checkedDependencies
  split at returned
  · next asked =>
      rw [if_pos asked]
      exact allSucceeded_returned returned
  · next unasked =>
      rw [if_neg unasked]
      cases returned
      simp

/-- The job waits for a dependency, or the manager or the pool has no room for it. -/
def Rejects (dispatcher : Dispatcher) (backend : QueueBackend σ) (shared : Shared σ) (job : Job) :
    Prop :=
  (∃ dependency ∈ dispatcher.checkedDependencies shared.tracker job,
      Unsatisfied backend shared.store dependency) ∨
    dispatcher.hasRoom shared job = false

/-- Everything one round of the loop can do when no call raises. -/
theorem consider_returned {job : Job} {admitted : Bool} {after : Shared σ}
    (returned : (dispatcher.consider job).run (Shared.exec backend) shared =
      (.ok admitted, after)) :
    (admitted = true ∧ ¬ dispatcher.Rejects backend shared job ∧
        dispatcher.hasRoom shared job = true ∧ after = dispatcher.taken shared job) ∨
      (admitted = false ∧ dispatcher.Rejects backend shared job ∧ after.SameSlots shared) := by
  obtain ⟨met, middle, checked, next⟩ := exists_of_run_andThen_ok returned
  obtain ⟨unchanged, exactly⟩ := checkDependencies_returned checked
  rw [unchanged] at next
  cases met with
  | false =>
      cases next
      exact .inr ⟨rfl, .inl (exactly.mp rfl), .refl _⟩
  | true =>
      simp only [↓reduceIte] at next
      rw [Prog.run_bind] at next
      cases room : dispatcher.hasRoom shared job with
      | true =>
          rw [dispatcher.run_acquireSlots_of_room backend job shared room] at next
          cases next
          refine .inl ⟨rfl, ?_, rfl, rfl⟩
          rintro (waits | full)
          · cases exactly.mpr waits
          · cases room.symm.trans full
      | false =>
          obtain ⟨left, ended, same⟩ :=
            dispatcher.run_acquireSlots_of_full backend job shared room
          rw [ended] at next
          cases next
          exact .inr ⟨rfl, .inr room, same⟩

/-- What the chosen jobs add to a pool. -/
def slotsOf (chosen : List Job) (name : String) : Int :=
  (chosen.map fun job => ResourcePool.slots job.resources name).sum

theorem slotsOf_snoc (chosen : List Job) (job : Job) (name : String) :
    slotsOf (chosen ++ [job]) name =
      slotsOf chosen name + ResourcePool.slots job.resources name := by
  simp [slotsOf]

/-- The state after the chosen jobs: every counter of the manager and every pool has its
earlier value and what the chosen jobs add to it. -/
structure Accounted (dispatcher : Dispatcher) (before : Shared σ) (chosen : List Job)
    (after : Shared σ) : Prop where
  store : after.store = before.store
  tracker : after.tracker = before.tracker
  limits : after.concurrency.limits = before.concurrency.limits
  global : after.concurrency.global =
    before.concurrency.global + if dispatcher.concurrency then chosen.length else 0
  byType : ∀ jobType, after.concurrency.byType.getD jobType 0 =
    before.concurrency.byType.getD jobType 0 +
      if dispatcher.concurrency then chosen.countP fun job => job.jobType = jobType else 0
  byTenant : ∀ tenantId, after.concurrency.byTenant.getD tenantId 0 =
    before.concurrency.byTenant.getD tenantId 0 +
      if dispatcher.concurrency ∧ tenantId = ConcurrencyManager.unspecified then chosen.length
      else 0
  byUser : ∀ userId, after.concurrency.byUser.getD userId 0 =
    before.concurrency.byUser.getD userId 0 +
      if dispatcher.concurrency ∧ userId = ConcurrencyManager.unspecified then chosen.length
      else 0
  poolLimits : after.pool.limits = before.pool.limits
  used : ∀ name, after.pool.usedOf name =
    before.pool.usedOf name + if dispatcher.resourcePool then slotsOf chosen name else 0

theorem Accounted.start (dispatcher : Dispatcher) (shared : Shared σ) :
    dispatcher.Accounted shared [] shared := by
  constructor <;> simp [slotsOf]

/-- A job that is left out adds nothing. -/
theorem Accounted.skip {before now after : Shared σ} {chosen : List Job}
    (accounted : dispatcher.Accounted before chosen now) (same : after.SameSlots now) :
    dispatcher.Accounted before chosen after where
  store := same.store.trans accounted.store
  tracker := same.tracker.trans accounted.tracker
  limits := same.concurrency.limits.trans accounted.limits
  global := same.concurrency.global.trans accounted.global
  byType jobType := (same.concurrency.byType jobType).trans (accounted.byType jobType)
  byTenant tenantId := (same.concurrency.byTenant tenantId).trans (accounted.byTenant tenantId)
  byUser userId := (same.concurrency.byUser userId).trans (accounted.byUser userId)
  poolLimits := (congrArg ResourcePool.limits same.pool).trans accounted.poolLimits
  used name := (congrArg (ResourcePool.usedOf · name) same.pool).trans (accounted.used name)

/-- The manager's part of a job that is taken. -/
theorem concurrencyTaken_counts (dispatcher : Dispatcher) {manager : ConcurrencyManager} {job : Job}
    (room : dispatcher.concurrencyRoom manager job = true) :
    let after := dispatcher.concurrencyTaken manager job
    after.limits = manager.limits ∧
      (after.global = manager.global + if dispatcher.concurrency then 1 else 0) ∧
      (∀ jobType, after.byType.getD jobType 0 = manager.byType.getD jobType 0 +
        if dispatcher.concurrency ∧ job.jobType = jobType then 1 else 0) ∧
      (∀ tenantId, after.byTenant.getD tenantId 0 = manager.byTenant.getD tenantId 0 +
        if dispatcher.concurrency ∧ tenantId = ConcurrencyManager.unspecified then 1 else 0) ∧
      (∀ userId, after.byUser.getD userId 0 = manager.byUser.getD userId 0 +
        if dispatcher.concurrency ∧ userId = ConcurrencyManager.unspecified then 1 else 0) := by
  intro after
  cases used : dispatcher.concurrency with
  | false => simp [after, concurrencyTaken, used]
  | true =>
      have granted : manager.canAcquire job.jobType ConcurrencyManager.unspecified
          ConcurrencyManager.unspecified = true := by
        simpa [concurrencyRoom, used] using room
      simp only [after, concurrencyTaken, used, ↓reduceIte, ConcurrencyManager.acquire, granted,
        Dict.getD_set, true_and]
      refine ⟨?_, ?_, ?_⟩
      · intro jobType
        by_cases same : jobType = job.jobType
        · simp [same]
        · simp [same, Ne.symm same]
      · intro tenantId
        split
        · next same => rw [same]
        · rfl
      · intro userId
        split
        · next same => rw [same]
        · rfl

/-- The pool's part of a job that is taken. -/
theorem usedOf_resourcesTaken (dispatcher : Dispatcher) {pool : ResourcePool} {job : Job}
    (room : dispatcher.resourceRoom pool job = true) (name : String) :
    (dispatcher.resourcesTaken pool job).usedOf name = pool.usedOf name +
      if dispatcher.resourcePool then ResourcePool.slots job.resources name else 0 := by
  unfold resourcesTaken
  cases used : dispatcher.resourcePool with
  | false => simp
  | true =>
      cases filled : job.resources.isEmpty with
      | true =>
          have nothing : job.resources.entries = [] := by simpa [Dict.isEmpty] using filled
          simp [ResourcePool.slots, Dict.getD, Dict.get?, nothing]
      | false =>
          simp only [Bool.not_false, Bool.and_self, ↓reduceIte]
          apply pool.usedOf_acquire
          rw [pool.acquire_fst job.jobId filled]
          simpa [resourceRoom, used, filled] using room

theorem limits_resourcesTaken (dispatcher : Dispatcher) (pool : ResourcePool) (job : Job) :
    (dispatcher.resourcesTaken pool job).limits = pool.limits := by
  unfold resourcesTaken
  split
  · exact pool.limits_acquire _ _
  · rfl

/-- The step lemma for a job that is kept. -/
theorem Accounted.keep {before now : Shared σ} {chosen : List Job} {job : Job}
    (accounted : dispatcher.Accounted before chosen now)
    (room : dispatcher.hasRoom now job = true) :
    dispatcher.Accounted before (chosen ++ [job]) (dispatcher.taken now job) := by
  obtain ⟨roomy, spacious⟩ := Bool.and_eq_true_iff.mp room
  obtain ⟨limits, global, byType, byTenant, byUser⟩ := dispatcher.concurrencyTaken_counts roomy
  refine ⟨accounted.store, accounted.tracker, limits.trans accounted.limits, ?_, ?_, ?_, ?_,
    (dispatcher.limits_resourcesTaken _ _).trans accounted.poolLimits, ?_⟩
  · rw [taken, global, accounted.global, List.length_append, List.length_singleton]
    split <;> omega
  · intro jobType
    rw [taken, byType, accounted.byType, List.countP_append, List.countP_singleton]
    cases dispatcher.concurrency with
    | false => simp
    | true => simp [Nat.add_assoc]
  · intro tenantId
    rw [taken, byTenant, accounted.byTenant, List.length_append, List.length_singleton]
    split <;> omega
  · intro userId
    rw [taken, byUser, accounted.byUser, List.length_append, List.length_singleton]
    split <;> omega
  · intro name
    rw [taken, dispatcher.usedOf_resourcesTaken spacious, accounted.used, slotsOf_snoc]
    split <;> omega

/-- A concurrency counter of the job is full: in all, of its type, or of the tenant and the
user that the dispatcher names for every job. -/
def ConcurrencyFull (dispatcher : Dispatcher) (manager : ConcurrencyManager) (chosen : List Job)
    (job : Job) : Prop :=
  dispatcher.concurrency = true ∧
    (manager.limits.globalMax ≤ manager.global + chosen.length ∨
      manager.limits.perTypeMax ≤ manager.byType.getD job.jobType 0 +
        chosen.countP (fun other => other.jobType = job.jobType) ∨
      manager.limits.perTenantMax ≤
        manager.byTenant.getD ConcurrencyManager.unspecified 0 + chosen.length ∨
      manager.limits.perUserMax ≤
        manager.byUser.getD ConcurrencyManager.unspecified 0 + chosen.length)

/-- A pool that the job asks has no room for it. -/
def PoolFull (dispatcher : Dispatcher) (pool : ResourcePool) (chosen : List Job) (job : Job) :
    Prop :=
  dispatcher.resourcePool = true ∧
    ∃ name requested limit, job.resources.get? name = some requested ∧
      pool.limits.get? name = some limit ∧
        limit < pool.usedOf name + slotsOf chosen name + requested

/-- Why a job is left out, given the jobs that were chosen before it. -/
def Refused (dispatcher : Dispatcher) (backend : QueueBackend σ) (shared : Shared σ)
    (chosen : List Job) (job : Job) : Prop :=
  (∃ dependency ∈ dispatcher.checkedDependencies shared.tracker job,
      Unsatisfied backend shared.store dependency) ∨
    dispatcher.ConcurrencyFull shared.concurrency chosen job ∨
    dispatcher.PoolFull shared.pool chosen job

theorem Accounted.concurrencyRoom_eq_false_iff {before now : Shared σ} {chosen : List Job}
    (accounted : dispatcher.Accounted before chosen now) (job : Job) :
    dispatcher.concurrencyRoom now.concurrency job = false ↔
      dispatcher.ConcurrencyFull before.concurrency chosen job := by
  have global := accounted.global
  have byType := accounted.byType job.jobType
  have byTenant := accounted.byTenant ConcurrencyManager.unspecified
  have byUser := accounted.byUser ConcurrencyManager.unspecified
  unfold concurrencyRoom ConcurrencyFull
  cases used : dispatcher.concurrency with
  | false => simp
  | true =>
      simp only [used, and_self, ↓reduceIte] at global byType byTenant byUser
      simp only [ConcurrencyManager.canAcquire, accounted.limits, global, byType, byTenant, byUser,
        Bool.not_true, Bool.false_or, Bool.and_eq_false_iff, decide_eq_false_iff_not, true_and]
      push_cast
      omega

theorem Accounted.resourceRoom_eq_false_iff {before now : Shared σ} {chosen : List Job}
    (accounted : dispatcher.Accounted before chosen now) (job : Job) :
    dispatcher.resourceRoom now.pool job = false ↔
      dispatcher.PoolFull before.pool chosen job := by
  unfold resourceRoom PoolFull
  cases used : dispatcher.resourcePool with
  | false => simp
  | true =>
      have counted : ∀ name, now.pool.usedOf name =
          before.pool.usedOf name + slotsOf chosen name := by
        intro name
        rw [accounted.used, used, if_pos rfl]
      cases filled : job.resources.isEmpty with
      | true =>
          have nothing : job.resources.entries = [] := by simpa [Dict.isEmpty] using filled
          simp [Dict.get?, nothing]
      | false =>
          simp only [Bool.not_false, Bool.and_self, Bool.not_true, Bool.false_or, true_and,
            ResourcePool.canAcquire_eq_false_iff, counted, accounted.poolLimits]

/-- A round's checks in the state that it meets are the ones on the counters. -/
theorem Accounted.rejects_iff {before now : Shared σ} {chosen : List Job}
    (accounted : dispatcher.Accounted before chosen now) (job : Job) :
    dispatcher.Rejects backend now job ↔ dispatcher.Refused backend before chosen job := by
  rw [Rejects, Refused, hasRoom, Bool.and_eq_false_iff, accounted.concurrencyRoom_eq_false_iff,
    accounted.resourceRoom_eq_false_iff, accounted.store, accounted.tracker]

/-- The run lemma: the loop is a greedy pass over the jobs, and the counters follow. -/
theorem selectFrom_returned {before now after : Shared σ} {jobs chosen selected : List Job}
    (accounted : dispatcher.Accounted before chosen now)
    (returned : (dispatcher.selectFrom jobs).run (Shared.exec backend) now =
      (.ok selected, after)) :
    Greedy (dispatcher.Refused backend before) chosen jobs selected ∧
      dispatcher.Accounted before (chosen ++ selected) after := by
  induction jobs generalizing chosen now selected with
  | nil =>
      cases returned
      rw [List.append_nil]
      exact ⟨.done chosen, accounted⟩
  | cons job rest ih =>
      obtain ⟨admitted, middle, considered, next⟩ := exists_of_run_andThen_ok returned
      obtain ⟨others, last, ended, finish⟩ := exists_of_run_andThen_ok next
      obtain ⟨same, rfl⟩ := Prod.mk.inj finish
      rcases consider_returned considered with
        ⟨rfl, fits, room, rfl⟩ | ⟨rfl, rejects, unchanged⟩
      · obtain ⟨greedy, counted⟩ := ih (accounted.keep room) ended
        cases same
        refine ⟨.keep (mt (accounted.rejects_iff job).mpr fits) greedy, ?_⟩
        rwa [List.append_assoc] at counted
      · obtain ⟨greedy, counted⟩ := ih (accounted.skip unchanged) ended
        cases same
        exact ⟨.skip ((accounted.rejects_iff job).mp rejects) greedy, counted⟩

/-- **Selection is greedy and accounts exactly.** For any backend and any state of the
shared objects, a selection in which no call raises returns a sublist of what `dequeue`
returns. Turn by turn, a job is left out exactly when, given the jobs picked before it, it
has an unsatisfied dependency, a concurrency counter of it is full, or a pool has no room
for it. Afterwards each counter and each pool has its earlier value and what the selected
jobs add to it. -/
theorem selection_greedy_and_accounted (dispatcher : Dispatcher) (backend : QueueBackend σ)
    (shared after : Shared σ) (limit : Int) (queueName : Option String) (selected : List Job)
    (returned : (dispatcher.selectEligible limit queueName).run (Shared.exec backend) shared =
      (.ok selected, after)) :
    ∃ jobs, backend.dequeue limit none queueName shared.store = .ok jobs ∧
      selected.Sublist jobs ∧
      (∃ picked : Nat → List Job, picked 0 = [] ∧ picked jobs.length = selected ∧
        ∀ turn job, jobs[turn]? = some job →
          Turn (dispatcher.Refused backend shared) (picked turn) (picked (turn + 1)) job) ∧
      dispatcher.Accounted shared selected after := by
  obtain ⟨jobs, middle, dequeued, next⟩ := exists_of_run_andThen_ok returned
  obtain ⟨listed, rfl⟩ := Prod.mk.inj dequeued
  obtain ⟨greedy, accounted⟩ := selectFrom_returned (.start dispatcher _) next
  exact ⟨jobs, listed, greedy.sublist, greedy.exists_picked, accounted⟩

/-- Three users, of whom two are selected. -/
theorem three_users_accounted :
    ∃ selected after jobs, (Book.limitedDispatcher.selectEligible 10 none).run
          (Shared.exec MemoryQueueBackend.contract) Book.threeUsersBook.shared =
        (.ok selected, after) ∧
      selected.Sublist jobs ∧
        Book.limitedDispatcher.Accounted Book.threeUsersBook.shared selected after := by
  obtain ⟨selected, returned, _⟩ := @Book.run_selectEligible _ Book.limitedDispatcher _ _
    MemoryQueueBackend.lawful 10 none Book.threeUsersBook
  obtain ⟨jobs, _, sublist, _, accounted⟩ := selection_greedy_and_accounted Book.limitedDispatcher
    MemoryQueueBackend.contract Book.threeUsersBook.shared _ 10 none selected returned
  exact ⟨selected, _, jobs, returned, sublist, accounted⟩

end Dispatcher

end CloudDogJobs
