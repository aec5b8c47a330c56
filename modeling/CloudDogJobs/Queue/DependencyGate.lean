import CloudDogJobs.Backend.Memory
import CloudDogJobs.Queue.Queue
import CloudDogJobs.Worker.Sequential

/-!
# The dependency gate

The dispatcher decides on the tracker's edges, while a job carries its own
`depends_on`. In a memory backend whose jobs all came through `JobQueue.submit`,
with one tracker for the queue and its workers, the two agree in every reachable
state. A handler therefore starts only for a job whose own dependencies have all
succeeded.
-/

namespace CloudDogJobs

open Foundation WorkerProg

/-- The tracker's edges of a stored job are the job's own dependencies. -/
def Agrees (store : MemoryQueueBackend) (tracker : DependencyTracker) : Prop :=
  ∀ jobId ticket, store.view jobId = some ticket → ticket.dependsOn ≠ [] →
    tracker.edges.get? jobId = some ticket.dependsOn

/-- Every stored job was stored before, with the same dependencies. -/
def KeepsDependencies (before after : MemoryQueueBackend) : Prop :=
  ∀ jobId ticket, after.view jobId = some ticket →
    ∃ earlier, before.view jobId = some earlier ∧ earlier.dependsOn = ticket.dependsOn

theorem Agrees.of_keeps {before after : MemoryQueueBackend} {tracker : DependencyTracker}
    (agrees : Agrees before tracker) (keeps : KeepsDependencies before after) :
    Agrees after tracker := by
  intro jobId ticket shown waits
  obtain ⟨earlier, stored, same⟩ := keeps jobId ticket shown
  rw [← same] at waits ⊢
  exact agrees jobId earlier stored waits

/-- A new job with its edges, where the edges of the others are as they were. -/
theorem Agrees.submitted {store : MemoryQueueBackend} {before after : DependencyTracker}
    (agrees : Agrees store before) (job : Job)
    (registered : job.dependsOn ≠ [] → after.edges.get? job.jobId = some job.dependsOn)
    (kept : ∀ other, other ≠ job.jobId → after.edges.get? other = before.edges.get? other) :
    Agrees (store.enqueue job).2 after := by
  intro jobId ticket shown waits
  rw [MemoryQueueBackend.view_enqueue] at shown
  split at shown
  · next same =>
      obtain rfl : job.ticket = ticket := Option.some.inj shown
      rw [same]
      exact registered waits
  · next different =>
      rw [kept jobId different]
      exact agrees jobId ticket shown waits

/-- A new job without dependencies needs no edges. -/
theorem Agrees.enqueue {store : MemoryQueueBackend} {tracker : DependencyTracker}
    (agrees : Agrees store tracker) (job : Job)
    (registered : job.dependsOn ≠ [] → tracker.edges.get? job.jobId = some job.dependsOn) :
    Agrees (store.enqueue job).2 tracker :=
  agrees.submitted job registered fun _ _ => rfl

/-- A new job whose dependencies were just registered. -/
theorem Agrees.register {store : MemoryQueueBackend} {tracker : DependencyTracker}
    (agrees : Agrees store tracker) (job : Job) :
    Agrees (store.enqueue job).2 ⟨tracker.edges.set job.jobId job.dependsOn⟩ :=
  agrees.submitted job (fun _ => Dict.get?_set_self _ _ _)
    fun _ different => Dict.get?_set_of_ne _ _ different

namespace KeepsDependencies

theorem refl (store : MemoryQueueBackend) : KeepsDependencies store store :=
  fun _ ticket shown => ⟨ticket, shown, rfl⟩

theorem mutate (store : MemoryQueueBackend) (jobId : String) (change : Job → Job)
    (keeps : ∀ job, (change job).jobId = job.jobId)
    (same : ∀ job, (change job).dependsOn = job.dependsOn) :
    KeepsDependencies store (store.mutate jobId change keeps) := by
  intro other ticket shown
  rw [MemoryQueueBackend.view_mutate] at shown
  split at shown
  · next equal =>
      subst equal
      obtain ⟨job, stored, rfl⟩ := Option.map_eq_some_iff.mp shown
      refine ⟨job.ticket, ?_, (same job).symm⟩
      rw [MemoryQueueBackend.view, stored]
      rfl
  · exact ⟨ticket, shown, rfl⟩

theorem touch (store : MemoryQueueBackend) (jobId : String) (change : Job → Job)
    (keeps : ∀ job, (change job).jobId = job.jobId)
    (same : ∀ job, (change job).dependsOn = job.dependsOn) :
    KeepsDependencies store (store.touch jobId change keeps).2 := by
  unfold MemoryQueueBackend.touch
  split
  · exact refl store
  · exact mutate store jobId change keeps same

theorem claim (store : MemoryQueueBackend) (jobId hostId workerId : String) (now : Int) :
    KeepsDependencies store (store.claim jobId hostId workerId now).2 := by
  unfold MemoryQueueBackend.claim
  split
  · exact refl store
  · split
    · exact refl store
    · apply mutate
      all_goals exact fun _ => rfl

theorem updateStatus (store : MemoryQueueBackend) (jobId status : String) (now : Int) :
    KeepsDependencies store (store.updateStatus jobId status now).2 := by
  unfold MemoryQueueBackend.updateStatus
  split
  · exact refl store
  · split
    · exact refl store
    · apply mutate
      all_goals exact fun _ => rfl

end KeepsDependencies

/-- The store and the tracker agree. -/
def Shared.Consistent (shared : Shared MemoryQueueBackend) : Prop :=
  Agrees shared.store shared.tracker

/-- An operation on the queue, its backend, or one worker. -/
inductive GateOperation
  | submit (request : JobRequest) (jobId : String) (now : Int)
  | cancel (jobId : String) (now : Int)
  | updateStatus (jobId status : String) (now : Int)
  | release (jobId : String) (now : Int)
  | runOnce (worker : Worker) (inputs : RunInputs)

namespace QueueState

variable (queue : JobQueue) (state : QueueState MemoryQueueBackend)

/-- The effect of an operation, whether it returns or raises. -/
def perform : GateOperation → QueueState MemoryQueueBackend
  | .submit request jobId now =>
      (queue.submit MemoryQueueBackend.contract request jobId now state).2
  | .cancel jobId now =>
      { state with shared :=
        ((JobQueue.cancel jobId now).run (Shared.exec MemoryQueueBackend.contract) state.shared).2 }
  | .updateStatus jobId status now =>
      { state with shared := { state.shared with
        store := (state.shared.store.updateStatus jobId status now).2 } }
  | .release jobId now =>
      { state with shared := { state.shared with
        store := (state.shared.store.release jobId now).2 } }
  | .runOnce worker inputs =>
      { state with shared :=
        ((worker.runOnce inputs).run (Shared.exec MemoryQueueBackend.contract) state.shared).2 }

/-- The store and the tracker of a state agree. -/
def Consistent : Prop := state.shared.Consistent

theorem registerDependencies_cases (tracked : queue.dependencyTracker = true) (job : Job)
    (shared : Shared MemoryQueueBackend) :
    (∃ error, queue.registerDependencies job shared = (.error error, shared)) ∨
      (job.dependsOn = [] ∧ queue.registerDependencies job shared = (.ok (), shared)) ∨
      queue.registerDependencies job shared =
        (.ok (),
          { shared with tracker := ⟨shared.tracker.edges.set job.jobId job.dependsOn⟩ }) := by
  unfold JobQueue.registerDependencies DependencyTracker.validateAndRegister
  cases filled : job.dependsOn.isEmpty with
  | true => exact .inr (.inl ⟨List.isEmpty_iff.mp filled, by simp⟩)
  | false =>
      cases shared.tracker.detectCycle job.jobId job.dependsOn with
      | true => exact .inl ⟨_, by simp [tracked]; rfl⟩
      | false => exact .inr (.inr (by simp [tracked]))

theorem deduplicate_shared (job : Job) (now : Int) :
    (JobQueue.deduplicate job now state).2.shared = state.shared := by
  unfold JobQueue.deduplicate
  split
  · rfl
  · split <;> rfl

theorem submit_consistent (tracked : queue.dependencyTracker = true) (request : JobRequest)
    (jobId : String) (now : Int) (consistent : state.Consistent) :
    (queue.submit MemoryQueueBackend.contract request jobId now state).2.Consistent := by
  have same := state.deduplicate_shared (.fromRequest request jobId now) now
  unfold JobQueue.submit
  split
  · exact consistent
  · dsimp only
    split
    · next prior keyed dedup =>
        rw [dedup] at same
        rw [Consistent, same]
        exact consistent
    · next keyed dedup =>
        rw [dedup] at same
        rw [same]
        rcases registerDependencies_cases queue tracked (.fromRequest request jobId now)
          state.shared with ⟨error, raised⟩ | ⟨none, returned⟩ | returned
        · rw [raised]
          exact consistent
        · rw [returned]
          exact consistent.enqueue _ fun waits => absurd none waits
        · rw [returned]
          exact consistent.register _

/-- Every call of a worker keeps the agreement. -/
theorem exec_consistent {call : WorkerCall} (shared : Shared MemoryQueueBackend)
    (bare : ∀ copy now, call = .enqueue copy now → copy.dependsOn = [])
    (agrees : shared.Consistent) :
    (Shared.exec MemoryQueueBackend.contract call shared).2.Consistent := by
  cases call with
  | claim jobId hostId workerId now => exact agrees.of_keeps (.claim _ _ _ _ _)
  | heartbeat jobId now => exact agrees.of_keeps (.touch _ _ _ _ fun _ => rfl)
  | updateStatus jobId status now => exact agrees.of_keeps (.updateStatus _ _ _ _)
  | enqueue copy now =>
      exact agrees.enqueue copy fun waits => absurd (bare copy now rfl) waits
  | _ => exact agrees

theorem runOnce_consistent (worker : Worker) (inputs : RunInputs)
    (shared : Shared MemoryQueueBackend) (agrees : shared.Consistent) :
    ((worker.runOnce inputs).run (Shared.exec MemoryQueueBackend.contract)
      shared).2.Consistent := by
  have bare : (worker.runOnce inputs).Only fun call =>
      ∀ copy now, call = .enqueue copy now → copy.dependsOn = [] := by
    apply worker.only_runOnce
    · rintro _ inside copy now rfl
      cases inside
    · rintro _ _ _ _ copy now same
      cases same
    · rintro job _ (inside | inside) copy now rfl
      · exact inside.2.2.2.2
      · cases inside
  refine Prog.Only.run (Shared.exec MemoryQueueBackend.contract) bare ?_ agrees
  intro call state permitted before
  exact exec_consistent state permitted before

/-- The step lemma: every operation keeps the agreement. -/
theorem perform_consistent (tracked : queue.dependencyTracker = true) (operation : GateOperation)
    (consistent : state.Consistent) : (state.perform queue operation).Consistent := by
  cases operation with
  | submit request jobId now =>
      exact state.submit_consistent queue tracked request jobId now consistent
  | cancel jobId now =>
      exact exec_consistent state.shared (fun _ _ same => by cases same) consistent
  | updateStatus jobId status now => exact consistent.of_keeps (.updateStatus _ _ _ _)
  | release jobId now => exact consistent.of_keeps (.touch _ _ _ _ fun _ => rfl)
  | runOnce worker inputs => exact runOnce_consistent worker inputs state.shared consistent

/-- The run lemma. -/
theorem foldl_perform_consistent (tracked : queue.dependencyTracker = true)
    (operations : List GateOperation) (consistent : state.Consistent) :
    (operations.foldl (perform queue) state).Consistent := by
  induction operations generalizing state with
  | nil => exact consistent
  | cons operation rest ih =>
      exact ih _ (state.perform_consistent queue tracked operation consistent)

end QueueState

/-- A worker that consults the tracker starts a handler only when the job's own
dependencies have succeeded. -/
theorem Worker.dependencies_succeeded (worker : Worker) (tracks : worker.dependencyTracker = true)
    (inputs : RunInputs) (shared : Shared MemoryQueueBackend)
    (agrees : shared.Consistent) {job : Job}
    (started : (⟨.handle job, ()⟩ : Sigma WorkerCall.Reply) ∈
      (worker.runOnce inputs).trace (Shared.exec MemoryQueueBackend.contract) shared) :
    ∀ dependency ∈ job.dependsOn, shared.store.status? dependency = some .succeeded := by
  have chosen := worker.selected_of_handle_mem_trace MemoryQueueBackend.contract
    MemoryQueueBackend.lawful inputs shared started
  obtain ⟨_, head, admitted⟩ := Worker.selected_eq_some.mp chosen
  obtain ⟨jobs, returned, stored⟩ := MemoryQueueBackend.lawful.dequeue 1 none worker.queueName
    shared.store
  have shown : shared.store.view job.jobId = some job.ticket := by
    unfold Worker.candidate at head
    rw [returned] at head
    exact (stored job (List.mem_of_head? head)).2
  intro dependency member
  have waits : job.dependsOn ≠ [] := List.ne_nil_of_mem member
  have edges := agrees job.jobId job.ticket shown waits
  have met := (Bool.and_eq_true_iff.mp admitted).1
  have filled : job.dependsOn.isEmpty = false := by simpa using waits
  rw [Dispatcher.dependenciesMet, Worker.checks, tracks, filled,
    DependencyTracker.getDependencies, Dict.getD, edges] at met
  simp only [Bool.not_false, Bool.and_self, Bool.not_true, Bool.false_or, Option.getD_some,
    List.all_eq_true, decide_eq_true_eq] at met
  exact met dependency member

/-- **Dependency gate.** Start from an empty memory backend and perform any
operations. When a worker that shares the tracker then starts a handler, every
identifier in the job's `depends_on` names a job that has succeeded. -/
theorem handler_starts_after_dependencies (queue : JobQueue)
    (tracked : queue.dependencyTracker = true) (state : QueueState MemoryQueueBackend)
    (fresh : state.shared.store = MemoryQueueBackend.empty) (operations : List GateOperation)
    (worker : Worker) (tracks : worker.dependencyTracker = true) (inputs : RunInputs) (job : Job)
    (started : (⟨.handle job, ()⟩ : Sigma WorkerCall.Reply) ∈
      (worker.runOnce inputs).trace (Shared.exec MemoryQueueBackend.contract)
        (operations.foldl (QueueState.perform queue) state).shared) :
    ∀ dependency ∈ job.dependsOn,
      (operations.foldl (QueueState.perform queue) state).shared.store.status? dependency =
        some .succeeded := by
  have initially : state.Consistent := by
    intro jobId ticket shown
    rw [fresh] at shown
    cases shown
  have reached := state.foldl_perform_consistent queue tracked operations initially
  exact worker.dependencies_succeeded tracks inputs _ reached started

section Sample

/-- Nothing is stored yet. -/
def gateStart : QueueState MemoryQueueBackend :=
  ⟨.fresh .empty, {}⟩

/-- The job `second` waits for `first`, which has already run. -/
def gateOperations : List GateOperation :=
  [.submit { jobType := "task" } "first" 0, .runOnce trackingWorker {},
    .submit { jobType := "task", dependsOn := ["first"] } "second" 1]

/-- The state before `second` is submitted. -/
def gateMiddle : Shared MemoryQueueBackend :=
  ((gateOperations.take 2).foldl (QueueState.perform trackingQueue) gateStart).shared

theorem gateOperations_shared :
    (gateOperations.foldl (QueueState.perform trackingQueue) gateStart).shared =
      { gateMiddle with
        store := (gateMiddle.store.enqueue
          (.fromRequest { jobType := "task", dependsOn := ["first"] } "second" 1)).2
        tracker := ⟨gateMiddle.tracker.edges.set "second" ["first"]⟩ } := by
  have clear : DependencyTracker.empty.detectCycle "second" ["first"] = false := by
    simp [DependencyTracker.detectCycle, DependencyTracker.empty, Graph.search, Graph.successors,
      Dict.getD]
  have tracked : gateMiddle.tracker.validateAndRegister "second" ["first"] =
      (.ok (), ⟨gateMiddle.tracker.edges.set "second" ["first"]⟩) :=
    gateMiddle.tracker.validateAndRegister_of_clear "second" (by simp) clear
  have registered : trackingQueue.registerDependencies
      (.fromRequest { jobType := "task", dependsOn := ["first"] } "second" 1) gateMiddle =
        (.ok (), { gateMiddle with
          tracker := ⟨gateMiddle.tracker.edges.set "second" ["first"]⟩ }) := by
    simp only [JobQueue.registerDependencies, Job.fromRequest, tracked]
    rfl
  exact congrArg (fun outcome => outcome.2.shared)
    (trackingQueue.submit_of_registered MemoryQueueBackend.contract rfl rfl registered)

theorem second_starts_after_first :
    (gateOperations.foldl (QueueState.perform trackingQueue) gateStart).shared.store.status?
      "first" = some .succeeded := by
  refine handler_starts_after_dependencies trackingQueue rfl gateStart rfl gateOperations
    trackingWorker rfl {} (.fromRequest { jobType := "task", dependsOn := ["first"] } "second" 1)
    ?_ "first" (List.mem_singleton.mpr rfl)
  rw [gateOperations_shared]
  -- dequeue, edges, status of `first`, claim and heartbeat come before the handler
  iterate 5 apply List.mem_cons_of_mem
  exact List.mem_cons_self

end Sample

end CloudDogJobs
