import CloudDogJobs.Scheduler.Dispatcher

/-!
# Selection by a dispatcher that runs alone

What a dispatcher selects, as a function of the state it meets, and what the
selection leaves behind: the slots of the selected job, and nothing else. The
backend is any one that meets the `Lawful` contract.
-/

namespace CloudDogJobs

open Foundation WorkerProg

/-- The states differ at most in how the counters are stored. -/
structure Shared.SameSlots {σ : Type} (first second : Shared σ) : Prop where
  store : first.store = second.store
  pool : first.pool = second.pool
  tracker : first.tracker = second.tracker
  concurrency : first.concurrency.SameCounts second.concurrency

theorem Shared.SameSlots.refl {σ : Type} (shared : Shared σ) : shared.SameSlots shared :=
  ⟨rfl, rfl, rfl, .refl _⟩

namespace Dispatcher

/-- The dependency check passes in a store that shows `view`. -/
def dependenciesMet (dispatcher : Dispatcher) (view : String → Option Ticket)
    (tracker : DependencyTracker) (job : Job) : Bool :=
  !(dispatcher.dependencyTracker && !job.dependsOn.isEmpty) ||
    (tracker.getDependencies job.jobId).all fun dependency =>
      (view dependency).map Ticket.status = some .succeeded

variable {σ : Type}

def concurrencyRoom (dispatcher : Dispatcher) (manager : ConcurrencyManager) (job : Job) : Bool :=
  !dispatcher.concurrency ||
    manager.canAcquire job.jobType ConcurrencyManager.unspecified ConcurrencyManager.unspecified

def resourceRoom (dispatcher : Dispatcher) (pool : ResourcePool) (job : Job) : Bool :=
  !(dispatcher.resourcePool && !job.resources.isEmpty) || pool.canAcquire job.resources

/-- The configured manager and pool have room for the job. -/
def hasRoom (dispatcher : Dispatcher) (shared : Shared σ) (job : Job) : Bool :=
  dispatcher.concurrencyRoom shared.concurrency job && dispatcher.resourceRoom shared.pool job

def concurrencyTaken (dispatcher : Dispatcher) (manager : ConcurrencyManager) (job : Job) :
    ConcurrencyManager :=
  if dispatcher.concurrency then
    (manager.acquire job.jobType ConcurrencyManager.unspecified
      ConcurrencyManager.unspecified).2
  else manager

def concurrencyReleased (dispatcher : Dispatcher) (manager : ConcurrencyManager) (job : Job) :
    ConcurrencyManager :=
  if dispatcher.concurrency then
    manager.release job.jobType ConcurrencyManager.unspecified ConcurrencyManager.unspecified
  else manager

def resourcesTaken (dispatcher : Dispatcher) (pool : ResourcePool) (job : Job) : ResourcePool :=
  if dispatcher.resourcePool && !job.resources.isEmpty then
    (pool.acquire job.jobId job.resources).2
  else pool

def resourcesReleased (dispatcher : Dispatcher) (pool : ResourcePool) (job : Job) :
    ResourcePool :=
  if dispatcher.resourcePool then pool.release job.jobId else pool

/-- The slots of the job taken in the configured objects. -/
def taken (dispatcher : Dispatcher) (shared : Shared σ) (job : Job) : Shared σ :=
  { shared with
    concurrency := dispatcher.concurrencyTaken shared.concurrency job
    pool := dispatcher.resourcesTaken shared.pool job }

/-- The slots of the job given back to the configured objects. -/
def released (dispatcher : Dispatcher) (shared : Shared σ) (job : Job) : Shared σ :=
  { shared with
    concurrency := dispatcher.concurrencyReleased shared.concurrency job
    pool := dispatcher.resourcesReleased shared.pool job }

theorem concurrencyTaken_of_full (dispatcher : Dispatcher) (manager : ConcurrencyManager)
    (job : Job) (full : dispatcher.concurrencyRoom manager job = false) :
    dispatcher.concurrencyTaken manager job = manager := by
  unfold concurrencyTaken
  split
  · next used =>
      apply manager.acquire_snd_of_not
      simpa [concurrencyRoom, used] using full
  · rfl

theorem concurrencyReleased_taken (dispatcher : Dispatcher) (manager : ConcurrencyManager)
    (job : Job) (room : dispatcher.concurrencyRoom manager job = true) :
    (dispatcher.concurrencyReleased (dispatcher.concurrencyTaken manager job) job).SameCounts
      manager := by
  unfold concurrencyReleased concurrencyTaken
  split
  · next used =>
      apply manager.release_acquire
      simpa [concurrencyRoom, used] using room
  · exact .refl _

theorem resourcesTaken_of_full (dispatcher : Dispatcher) (pool : ResourcePool)
    (job : Job) (full : dispatcher.resourceRoom pool job = false) :
    dispatcher.resourcesTaken pool job = pool := by
  unfold resourcesTaken
  split
  · next asked =>
      have filled : job.resources.isEmpty = false := by simp_all
      apply pool.acquire_refused
      rw [pool.acquire_fst job.jobId filled]
      simpa [resourceRoom, asked] using full
  · rfl

section Runs

variable (dispatcher : Dispatcher) (backend : QueueBackend σ) {view : σ → String → Option Ticket}
  (lawful : backend.Lawful view)

include lawful

theorem run_getJobStatus (jobId : String) (shared : Shared σ) :
    (getJobStatus jobId).run (Shared.exec backend) shared =
      (.ok ((view shared.store jobId).map Ticket.status), shared) := by
  obtain ⟨found, returned, shown⟩ := lawful.get jobId shared.store
  have read : (call (.get jobId)).run (Shared.exec backend) shared = (.ok found, shared) :=
    congrArg (·, shared) returned
  unfold getJobStatus
  rw [run_andThen_ok backend _ read, ← shown, Option.map_map]
  rfl

theorem run_allSucceeded (dependencies : List String) (shared : Shared σ) :
    (allSucceeded dependencies).run (Shared.exec backend) shared =
      (.ok (dependencies.all fun dependency =>
        (view shared.store dependency).map Ticket.status = some .succeeded), shared) := by
  induction dependencies with
  | nil => rfl
  | cons dependency rest ih =>
      unfold allSucceeded
      rw [run_andThen_ok backend _ (run_getJobStatus backend lawful dependency shared)]
      by_cases done : (view shared.store dependency).map Ticket.status = some .succeeded
      · rw [if_neg (not_not.mpr done), ih, List.all_cons, decide_eq_true done, Bool.true_and]
      · rw [if_pos done, List.all_cons, decide_eq_false done, Bool.false_and]
        rfl

theorem run_checkDependencies (job : Job) (shared : Shared σ) :
    (dispatcher.checkDependencies job).run (Shared.exec backend) shared =
      (.ok (dispatcher.dependenciesMet (view shared.store) shared.tracker job), shared) := by
  unfold checkDependencies dependenciesMet
  cases dispatcher.dependencyTracker && !job.dependsOn.isEmpty with
  | false => rfl
  | true => exact run_allSucceeded backend lawful _ shared

omit lawful

theorem run_acquireConcurrency (job : Job) (shared : Shared σ) :
    (dispatcher.acquireConcurrency job).run (Shared.exec backend) shared =
      (dispatcher.concurrencyRoom shared.concurrency job,
        { shared with
          concurrency := dispatcher.concurrencyTaken shared.concurrency job }) := by
  unfold acquireConcurrency concurrencyRoom concurrencyTaken
  cases dispatcher.concurrency with
  | false => rfl
  | true => exact Prod.ext (shared.concurrency.acquire_fst _ _ _) rfl

theorem run_releaseConcurrency (job : Job) (shared : Shared σ) :
    (dispatcher.releaseConcurrency job).run (Shared.exec backend) shared =
      ((), { shared with
        concurrency := dispatcher.concurrencyReleased shared.concurrency job }) := by
  unfold releaseConcurrency concurrencyReleased
  cases dispatcher.concurrency <;> rfl

theorem run_acquireResources (job : Job) (shared : Shared σ) :
    (dispatcher.acquireResources job).run (Shared.exec backend) shared =
      (dispatcher.resourceRoom shared.pool job,
        { shared with pool := dispatcher.resourcesTaken shared.pool job }) := by
  unfold acquireResources resourceRoom resourcesTaken
  cases asked : dispatcher.resourcePool && !job.resources.isEmpty with
  | false => rfl
  | true =>
      have filled : job.resources.isEmpty = false := by simp_all
      exact Prod.ext (shared.pool.acquire_fst job.jobId filled) rfl

theorem run_acquireSlots_of_room (job : Job) (shared : Shared σ)
    (room : dispatcher.hasRoom shared job = true) :
    (dispatcher.acquireSlots job).run (Shared.exec backend) shared =
      (true, dispatcher.taken shared job) := by
  obtain ⟨roomy, spacious⟩ := Bool.and_eq_true_iff.mp room
  unfold acquireSlots
  rw [Prog.run_bind, run_acquireConcurrency, roomy]
  simp only [↓reduceIte]
  rw [Prog.run_bind, run_acquireResources, spacious]
  rfl

/-- A refused job keeps nothing: a concurrency slot that was taken before the
pool refused is given back. -/
theorem run_acquireSlots_of_full (job : Job) (shared : Shared σ)
    (full : dispatcher.hasRoom shared job = false) :
    ∃ after, (dispatcher.acquireSlots job).run (Shared.exec backend) shared = (false, after) ∧
      after.SameSlots shared := by
  unfold acquireSlots
  rw [Prog.run_bind, run_acquireConcurrency]
  cases roomy : dispatcher.concurrencyRoom shared.concurrency job with
  | false =>
      refine ⟨shared, ?_, .refl shared⟩
      rw [concurrencyTaken_of_full _ _ _ roomy]
      rfl
  | true =>
      have refused : dispatcher.resourceRoom shared.pool job = false := by
        simpa [hasRoom, roomy] using full
      simp only [↓reduceIte]
      rw [Prog.run_bind, run_acquireResources, refused, resourcesTaken_of_full _ _ _ refused]
      simp only [Bool.false_eq_true, ↓reduceIte]
      rw [Prog.run_bind, run_releaseConcurrency]
      exact ⟨_, rfl, rfl, rfl, rfl, concurrencyReleased_taken _ _ _ roomy⟩

/-- `releaseJob` gives the slots back. -/
theorem run_releaseJob (job : Job) (shared : Shared σ) :
    (dispatcher.releaseJob job).run (Shared.exec backend) shared =
      ((), dispatcher.released shared job) := by
  unfold releaseJob released resourcesReleased
  rw [Prog.run_bind, run_releaseConcurrency]
  cases dispatcher.resourcePool <;> rfl

/-- The job passes every check of the dispatcher. -/
def admits (view : σ → String → Option Ticket) (shared : Shared σ) (job : Job) : Bool :=
  dispatcher.dependenciesMet (view shared.store) shared.tracker job &&
    dispatcher.hasRoom shared job

include lawful

theorem run_consider_of_admits (job : Job) (shared : Shared σ)
    (admitted : dispatcher.admits view shared job = true) :
    (dispatcher.consider job).run (Shared.exec backend) shared =
      (.ok true, dispatcher.taken shared job) := by
  obtain ⟨met, room⟩ := Bool.and_eq_true_iff.mp admitted
  unfold consider
  rw [run_andThen_ok backend _ (run_checkDependencies dispatcher backend lawful job shared), met]
  simp only [↓reduceIte]
  rw [Prog.run_bind, run_acquireSlots_of_room dispatcher backend job shared room]
  rfl

theorem run_consider_of_not_admits (job : Job) (shared : Shared σ)
    (refused : dispatcher.admits view shared job = false) :
    ∃ after, (dispatcher.consider job).run (Shared.exec backend) shared = (.ok false, after) ∧
      after.SameSlots shared := by
  unfold consider
  rw [run_andThen_ok backend _ (run_checkDependencies dispatcher backend lawful job shared)]
  cases met : dispatcher.dependenciesMet (view shared.store) shared.tracker job with
  | false => exact ⟨shared, rfl, .refl shared⟩
  | true =>
      have full : dispatcher.hasRoom shared job = false := by
        simpa [admits, met] using refused
      obtain ⟨after, ended, same⟩ :=
        run_acquireSlots_of_full dispatcher backend job shared full
      simp only [↓reduceIte]
      rw [Prog.run_bind, ended]
      exact ⟨after, rfl, same⟩

theorem run_selectFrom_of_admits (job : Job) (shared : Shared σ)
    (admitted : dispatcher.admits view shared job = true) :
    (dispatcher.selectFrom [job]).run (Shared.exec backend) shared =
      (.ok [job], dispatcher.taken shared job) := by
  have taken := run_consider_of_admits dispatcher backend lawful job shared admitted
  unfold selectFrom
  rw [run_andThen_ok backend _ taken]
  rfl

theorem run_selectFrom_of_not_admits (job : Job) (shared : Shared σ)
    (refused : dispatcher.admits view shared job = false) :
    ∃ after, (dispatcher.selectFrom [job]).run (Shared.exec backend) shared = (.ok [], after) ∧
      after.SameSlots shared := by
  obtain ⟨after, ended, same⟩ :=
    run_consider_of_not_admits dispatcher backend lawful job shared refused
  refine ⟨after, ?_, same⟩
  unfold selectFrom
  rw [run_andThen_ok backend _ ended]
  rfl

end Runs

end Dispatcher

end CloudDogJobs
