import CloudDogJobs.Backend.Memory
import CloudDogJobs.Backend.Redis
import CloudDogJobs.Queue.Queue
import CloudDogJobs.Storage.Sequential

/-!
# Submissions

One call of `JobQueue.submit` with its inputs, what it can do, and runs of calls.
A backend takes part only through its `enqueue`: what it returns is stored.
-/

namespace CloudDogJobs

open Foundation

/-- `enqueue` returns the identifier of the job it has stored, and changes the
presence of no other. -/
structure QueueBackend.Persists {σ : Type} (backend : QueueBackend σ)
    (present : σ → String → Prop) : Prop where
  returned : ∀ job now store jobId,
    (backend.enqueue job now store).1 = .ok jobId → jobId = job.jobId
  stored : ∀ job now store jobId,
    (backend.enqueue job now store).1 = .ok jobId →
      present (backend.enqueue job now store).2 job.jobId
  other : ∀ job now store other, other ≠ job.jobId →
    (present (backend.enqueue job now store).2 other ↔ present store other)

theorem MemoryQueueBackend.persists :
    contract.Persists fun backend jobId => (backend.get jobId).isSome where
  returned job now backend jobId result := (Except.ok.inj result).symm
  stored job now backend jobId result := by
    show ((backend.enqueue job).2.get job.jobId).isSome
    rw [get_enqueue, if_pos rfl]
    rfl
  other job now backend other different := by
    show ((backend.enqueue job).2.get other).isSome ↔ _
    rw [get_enqueue, if_neg different]

theorem SQLQueueBackend.persists (backend : SQLQueueBackend) :
    backend.contract.Persists fun table jobId => (table.rows.get? jobId).isSome where
  returned job now table jobId result := by
    cases stored : table.rows.get? job.jobId with
    | none =>
        have inserted := congrArg Prod.fst (run_enqueue_of_absent table stored)
        exact (Except.ok.inj (inserted.symm.trans result)).symm
    | some row =>
        have refused := congrArg Prod.fst (run_enqueue_of_present table stored)
        cases refused.symm.trans result
  stored job now table jobId result := by
    cases stored : table.rows.get? job.jobId with
    | none =>
        show (((SQLQueueBackend.enqueue job).run JobTable.exec table).2.rows.get? job.jobId).isSome
        rw [run_enqueue_of_absent table stored, JobTable.get?_insert]
        exact congrArg Option.isSome (if_pos ⟨rfl, stored⟩)
    | some row =>
        have refused := congrArg Prod.fst (run_enqueue_of_present table stored)
        cases refused.symm.trans result
  other job now table other different := by
    show (((SQLQueueBackend.enqueue job).run JobTable.exec table).2.rows.get? other).isSome ↔ _
    rw [run_enqueue, JobTable.get?_insert, if_neg fun both => different both.1]

theorem RedisQueueBackend.persists (backend : RedisQueueBackend) :
    backend.contract.Persists fun server jobId => (server.hashes.get? jobId).isSome where
  returned job now server jobId result := (Except.ok.inj result).symm
  stored job now server jobId result := by
    show ((server.hashes.set job.jobId _).get? job.jobId).isSome
    rw [Dict.get?_set_self]
    rfl
  other job now server other different := by
    show ((server.hashes.set job.jobId _).get? other).isSome ↔ _
    rw [Dict.get?_set_of_ne _ _ different]

/-- The inputs of one call of `submit`. -/
structure Submission where
  request : JobRequest
  jobId : String
  now : Int

namespace Submission

variable (submission : Submission)

def job : Job := Job.fromRequest submission.request submission.jobId submission.now

/-- The idempotency key, when there is one; an empty text counts as none. -/
def key : Option String :=
  match submission.request.idempotencyKey with
  | none => none
  | some key => if key = "" then none else some key

theorem key_none_or_some : submission.key = none ∨
    ∃ key, submission.key = some key ∧ submission.job.idempotencyKey = some key ∧ key ≠ "" := by
  unfold key
  cases given : submission.request.idempotencyKey with
  | none => exact .inl rfl
  | some key =>
      by_cases empty : key = ""
      · exact .inl (if_pos empty)
      · exact .inr ⟨key, if_neg empty, given, empty⟩

end Submission

namespace JobQueue

variable {σ : Type} (queue : JobQueue) (backend : QueueBackend σ)

/-- The key is registered for the job until its time to live is over. -/
def registered (manager : IdempotencyManager) (submission : Submission) (key : String) :
    IdempotencyManager :=
  { manager with
    entries := manager.entries.set key
      (submission.jobId, submission.now + manager.ttlSeconds * 1000000) }

theorem registerOrGet_of_valid {manager : IdempotencyManager} (submission : Submission)
    {key prior : String} {expires : Int}
    (found : manager.entries.get? key = some (prior, expires))
    (valid : submission.now < expires) :
    manager.registerOrGet key submission.jobId submission.now = (prior, manager) := by
  unfold IdempotencyManager.registerOrGet
  rw [found]
  exact if_pos valid

theorem registerOrGet_of_expired {manager : IdempotencyManager} (submission : Submission)
    {key : String}
    (expired : ∀ prior expires, manager.entries.get? key = some (prior, expires) →
      expires ≤ submission.now) :
    manager.registerOrGet key submission.jobId submission.now =
      (submission.jobId, registered manager submission key) := by
  unfold IdempotencyManager.registerOrGet
  cases found : manager.entries.get? key with
  | none => rfl
  | some entry =>
      have late := expired entry.1 entry.2 found
      exact if_neg (by omega)

theorem deduplicate_of_key {submission : Submission} {key : String}
    (given : submission.job.idempotencyKey = some key) (filled : key ≠ "")
    (state : QueueState σ) :
    deduplicate submission.job submission.now state =
      (if (state.idempotency.registerOrGet key submission.jobId submission.now).1 ≠
          submission.jobId then
        some (state.idempotency.registerOrGet key submission.jobId submission.now).1 else none,
        { state with
          idempotency :=
            (state.idempotency.registerOrGet key submission.jobId submission.now).2 }) := by
  simp only [deduplicate, given, filled, ↓reduceIte]
  rfl

/-- What the key registration can do. -/
theorem deduplicate_cases (submission : Submission) (state : QueueState σ) :
    (submission.key = none ∧ deduplicate submission.job submission.now state = (none, state)) ∨
    (∃ key prior expires, submission.key = some key ∧
      state.idempotency.entries.get? key = some (prior, expires) ∧ submission.now < expires ∧
      deduplicate submission.job submission.now state =
        (if prior ≠ submission.jobId then some prior else none, state)) ∨
    (∃ key, submission.key = some key ∧
      (∀ prior expires, state.idempotency.entries.get? key = some (prior, expires) →
        expires ≤ submission.now) ∧
      deduplicate submission.job submission.now state =
        (none, { state with idempotency := registered state.idempotency submission key })) := by
  rcases submission.key_none_or_some with unkeyed | ⟨key, keyed, given, filled⟩
  · refine .inl ⟨unkeyed, ?_⟩
    unfold Submission.key at unkeyed
    unfold deduplicate
    show (match submission.request.idempotencyKey with | none => _ | some key => _) = _
    cases given : submission.request.idempotencyKey with
    | none => rfl
    | some key =>
        rw [given] at unkeyed
        by_cases empty : key = ""
        · exact if_pos empty
        · simp only [empty, ↓reduceIte] at unkeyed
          cases unkeyed
  · right
    rw [deduplicate_of_key given filled]
    cases found : state.idempotency.entries.get? key with
    | none =>
        refine .inr ⟨key, keyed, ?_, ?_⟩
        · intro prior expires present
          cases found.symm.trans present
        · rw [registerOrGet_of_expired submission (by simp [found])]
          simp
    | some entry =>
        obtain ⟨prior, expires⟩ := entry
        by_cases valid : submission.now < expires
        · refine .inl ⟨key, prior, expires, keyed, found, valid, ?_⟩
          rw [registerOrGet_of_valid submission found valid]
        · refine .inr ⟨key, keyed, ?_, ?_⟩
          · intro other later present
            obtain ⟨rfl, rfl⟩ := Prod.mk.inj (Option.some.inj (found.symm.trans present))
            omega
          · rw [registerOrGet_of_expired submission (by simp [found]; omega)]
            simp

/-- A submission as one step on the queue. -/
def serve (state : QueueState σ) (submission : Submission) :
    Except PyError String × QueueState σ :=
  queue.submit backend submission.request submission.jobId submission.now state

/-- The submission has dependencies that `submit` checks and registers. -/
def Registers (submission : Submission) : Prop :=
  queue.dependencyTracker = true ∧ submission.request.dependsOn ≠ []

instance (submission : Submission) : Decidable (queue.Registers submission) :=
  inferInstanceAs (Decidable (_ ∧ _))

/-- The dependencies of the submission would close a cycle. -/
def Cyclic (submission : Submission) (tracker : DependencyTracker) : Prop :=
  queue.Registers submission ∧
    tracker.detectCycle submission.jobId submission.request.dependsOn = true

instance (submission : Submission) (tracker : DependencyTracker) :
    Decidable (queue.Cyclic submission tracker) :=
  inferInstanceAs (Decidable (_ ∧ _))

/-- The tracker after the registration of dependencies that close no cycle. -/
def tracked (submission : Submission) (tracker : DependencyTracker) : DependencyTracker :=
  if queue.Registers submission then
    ⟨tracker.edges.set submission.jobId submission.request.dependsOn⟩
  else tracker

theorem registerDependencies_of_registers {submission : Submission}
    (registers : queue.Registers submission) (shared : Shared σ) :
    queue.registerDependencies submission.job shared =
      ((shared.tracker.validateAndRegister submission.jobId submission.request.dependsOn).1,
        { shared with
          tracker := (shared.tracker.validateAndRegister submission.jobId
            submission.request.dependsOn).2 }) := by
  have checked : (queue.dependencyTracker && !submission.job.dependsOn.isEmpty) = true := by
    simp only [registers.1, Bool.true_and, Bool.not_eq_eq_eq_not, Bool.not_true,
      List.isEmpty_eq_false_iff]
    exact registers.2
  unfold registerDependencies
  rw [if_pos checked]
  rfl

theorem registerDependencies_of_cyclic {submission : Submission} {shared : Shared σ}
    (cyclic : queue.Cyclic submission shared.tracker) :
    queue.registerDependencies submission.job shared =
      (.error (.dependencyCycleError submission.jobId submission.request.dependsOn), shared) := by
  rw [queue.registerDependencies_of_registers cyclic.1,
    shared.tracker.validateAndRegister_of_cycle submission.jobId cyclic.1.2 cyclic.2]

theorem registerDependencies_of_clear {submission : Submission} {shared : Shared σ}
    (clear : ¬ queue.Cyclic submission shared.tracker) :
    queue.registerDependencies submission.job shared =
      (.ok (), { shared with tracker := queue.tracked submission shared.tracker }) := by
  unfold tracked
  by_cases registers : queue.Registers submission
  · have acyclic : shared.tracker.detectCycle submission.jobId submission.request.dependsOn =
        false := by
      rw [← Bool.not_eq_true]
      exact fun cyclic => clear ⟨registers, cyclic⟩
    rw [queue.registerDependencies_of_registers registers, if_pos registers,
      shared.tracker.validateAndRegister_of_clear submission.jobId registers.2 acyclic]
  · have unchecked : ¬ (queue.dependencyTracker && !submission.job.dependsOn.isEmpty) = true := by
      intro checked
      simp only [Bool.and_eq_true, Bool.not_eq_eq_eq_not, Bool.not_true,
        List.isEmpty_eq_false_iff] at checked
      exact registers checked
    rw [if_neg registers, registerDependencies, if_neg unchecked]

/-- The submission goes past its key, and the keys it leaves behind. -/
def Proceeds (submission : Submission) (manager after : IdempotencyManager) : Prop :=
  (submission.key = none ∧ after = manager) ∨
  (∃ key expires, submission.key = some key ∧
    manager.entries.get? key = some (submission.jobId, expires) ∧ after = manager) ∨
  (∃ key, submission.key = some key ∧
    (∀ prior expires, manager.entries.get? key = some (prior, expires) →
      expires ≤ submission.now) ∧ after = registered manager submission key)

/-- A submission that goes past its key is stored, unless it closes a cycle. -/
theorem serve_of_proceeds {submission : Submission} {state : QueueState σ}
    {manager : IdempotencyManager}
    (accepted : queue.admission submission.request.payload = .ok ())
    (fresh : deduplicate submission.job submission.now state =
      (none, { state with idempotency := manager })) :
    (queue.Cyclic submission state.shared.tracker ∧
      queue.serve backend state submission =
        (.error (.dependencyCycleError submission.jobId submission.request.dependsOn),
          { state with idempotency := manager })) ∨
    (¬ queue.Cyclic submission state.shared.tracker ∧
      queue.serve backend state submission =
        ((backend.enqueue submission.job submission.now state.shared.store).1,
          { shared := { state.shared with
              tracker := queue.tracked submission state.shared.tracker
              store := (backend.enqueue submission.job submission.now state.shared.store).2 }
            idempotency := manager })) := by
  by_cases cyclic : queue.Cyclic submission state.shared.tracker
  · refine .inl ⟨cyclic, ?_⟩
    have raised := queue.registerDependencies_of_cyclic cyclic
    unfold Submission.job at fresh raised
    simp only [serve, submit, accepted, fresh, raised]
  · refine .inr ⟨cyclic, ?_⟩
    have registered := queue.registerDependencies_of_clear cyclic
    exact queue.submit_of_registered backend accepted fresh registered

/-- Everything a submission can do. -/
theorem serve_cases (submission : Submission) (state : QueueState σ) :
    (∃ error, queue.admission submission.request.payload = .error error ∧
      queue.serve backend state submission = (.error error, state)) ∨
    (∃ key prior expires, submission.key = some key ∧
      state.idempotency.entries.get? key = some (prior, expires) ∧ submission.now < expires ∧
      prior ≠ submission.jobId ∧ queue.serve backend state submission = (.ok prior, state)) ∨
    (∃ manager, Proceeds submission state.idempotency manager ∧
      queue.admission submission.request.payload = .ok () ∧
      ((queue.Cyclic submission state.shared.tracker ∧
        queue.serve backend state submission =
          (.error (.dependencyCycleError submission.jobId submission.request.dependsOn),
            { state with idempotency := manager })) ∨
      (¬ queue.Cyclic submission state.shared.tracker ∧
        queue.serve backend state submission =
          ((backend.enqueue submission.job submission.now state.shared.store).1,
            { shared := { state.shared with
                tracker := queue.tracked submission state.shared.tracker
                store := (backend.enqueue submission.job submission.now state.shared.store).2 }
              idempotency := manager })))) := by
  cases checked : queue.admission submission.request.payload with
  | error error =>
      refine .inl ⟨error, rfl, ?_⟩
      simp only [serve, submit, checked]
  | ok accepted =>
      right
      rcases deduplicate_cases submission state with
        ⟨unkeyed, fresh⟩ | ⟨key, prior, expires, keyed, found, valid, held⟩ |
        ⟨key, keyed, expired, fresh⟩
      · exact .inr ⟨_, .inl ⟨unkeyed, rfl⟩, rfl, queue.serve_of_proceeds backend checked fresh⟩
      · by_cases own : prior = submission.jobId
        · subst own
          rw [if_neg (by simp)] at held
          exact .inr ⟨_, .inr (.inl ⟨key, expires, keyed, found, rfl⟩), rfl,
            queue.serve_of_proceeds backend checked held⟩
        · rw [if_pos own] at held
          refine .inl ⟨key, prior, expires, keyed, found, valid, own, ?_⟩
          unfold Submission.job at held
          simp only [serve, submit, checked, held]
      · exact .inr ⟨_, .inr (.inr ⟨key, keyed, expired, rfl⟩), rfl,
          queue.serve_of_proceeds backend checked fresh⟩

end JobQueue

end CloudDogJobs
