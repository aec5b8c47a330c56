import CloudDogJobs.Foundation.Sequence
import CloudDogJobs.Queue.Submission

/-!
# Submissions that raise

`submit` writes its key first, its dependencies second and its job last, and takes
nothing back when a later step raises. A submission that raises leaves the queue
as it was exactly when it has written nothing before the step that raised. When
every raising submission of a run is of that kind, every identifier that a
submission returns names a job in the backend.
-/

namespace CloudDogJobs

open Foundation

variable {σ : Type} (queue : JobQueue) (backend : QueueBackend σ)

/-- The submission raises before it has written anything: its payload is refused, or
it has no key and its dependencies close a cycle, or it has neither key nor
dependencies and the backend's `enqueue` raises without a write. -/
def JobQueue.RaisesClean (submission : Submission) (state : QueueState σ) : Prop :=
  (∃ error, queue.admission submission.request.payload = .error error) ∨
  (submission.key = none ∧
    (queue.Cyclic submission state.shared.tracker ∨
      (¬ queue.Registers submission ∧
        (backend.enqueue submission.job submission.now state.shared.store).2 =
          state.shared.store)))

/-- The identifier is new to the keys and to the tracker. -/
structure QueueState.Unused (state : QueueState σ) (jobId : String) : Prop where
  keys : ∀ key prior expires, state.idempotency.entries.get? key = some (prior, expires) →
    prior ≠ jobId
  edges : state.shared.tracker.edges.get? jobId = none

namespace JobQueue

variable {queue backend} {submission : Submission} {state : QueueState σ}

/-- Keys that a submission with a key of its own leaves behind are never the keys it
met. -/
theorem Proceeds.changes {manager : IdempotencyManager} {key : String}
    (unused : state.Unused submission.jobId) (keyed : submission.key = some key)
    (proceeds : Proceeds submission state.idempotency manager) :
    manager ≠ state.idempotency := by
  rcases proceeds with ⟨unkeyed, _⟩ | ⟨other, expires, _, found, _⟩ | ⟨other, _, _, rfl⟩
  · cases unkeyed.symm.trans keyed
  · exact absurd rfl (unused.keys other submission.jobId expires found)
  · intro same
    have written : (registered state.idempotency submission other).entries.get? other =
        some (submission.jobId, submission.now + state.idempotency.ttlSeconds * 1000000) :=
      Dict.get?_set_self _ _ _
    rw [same] at written
    exact unused.keys _ _ _ written rfl

/-- A clean raise leaves everything as it was. -/
theorem serve_snd_of_raisesClean
    (clean : queue.RaisesClean backend submission state) :
    (queue.serve backend state submission).2 = state := by
  rcases queue.serve_cases backend submission state with
    ⟨_, _, refused⟩ | ⟨_, _, _, _, _, _, _, repeats⟩ |
    ⟨manager, proceeds, accepted, rest⟩
  · rw [refused]
  · rw [repeats]
  · rcases clean with ⟨_, refused⟩ | ⟨unkeyed, unwritten⟩
    · cases accepted.symm.trans refused
    · have same : manager = state.idempotency := by
        rcases proceeds with ⟨_, same⟩ | ⟨_, _, keyed, _⟩ | ⟨_, keyed, _⟩
        · exact same
        · cases unkeyed.symm.trans keyed
        · cases unkeyed.symm.trans keyed
      subst same
      rcases rest with ⟨_, cycle⟩ | ⟨clear, stored⟩
      · rw [cycle]
      · rcases unwritten with cyclic | ⟨unregistered, untouched⟩
        · exact absurd cyclic clear
        · rw [stored, untouched, tracked, if_neg unregistered]

/-- A raise that leaves everything as it was is clean, for a new identifier. -/
theorem raisesClean_of_serve_snd (unused : state.Unused submission.jobId) {error : PyError}
    (raised : (queue.serve backend state submission).1 = .error error)
    (unchanged : (queue.serve backend state submission).2 = state) :
    queue.RaisesClean backend submission state := by
  rcases queue.serve_cases backend submission state with
    ⟨refusal, refused, _⟩ | ⟨_, _, _, _, _, _, _, repeats⟩ |
    ⟨manager, proceeds, _, rest⟩
  · exact .inl ⟨refusal, refused⟩
  · rw [repeats] at raised
    cases raised
  · have unkeyed : manager = state.idempotency → submission.key = none := by
      intro same
      cases keyed : submission.key with
      | none => rfl
      | some key => exact absurd same (proceeds.changes unused keyed)
    refine .inr ?_
    rcases rest with ⟨cyclic, cycle⟩ | ⟨_, stored⟩
    · rw [cycle] at unchanged
      exact ⟨unkeyed (congrArg QueueState.idempotency unchanged), .inl cyclic⟩
    · rw [stored] at unchanged
      have untouched := congrArg (fun after => after.shared.store) unchanged
      have edges := congrArg (fun after => after.shared.tracker.edges.get? submission.jobId)
        unchanged
      refine ⟨unkeyed (congrArg QueueState.idempotency unchanged), .inr ⟨?_, untouched⟩⟩
      intro registers
      simp only [tracked, registers, ↓reduceIte, Dict.get?_set_self, unused.edges] at edges
      cases edges

end JobQueue

/-- A submission, or a call of somebody else on the backend. -/
inductive QueueEvent
  | submit (submission : Submission)
  | call (op : BackendOp)

/-- No call on the backend removes a job. -/
def QueueBackend.Retains (present : σ → String → Prop) : Prop :=
  ∀ op store jobId, present store jobId → present (backend.perform op store).2 jobId

theorem MemoryQueueBackend.retains :
    contract.Retains fun backend jobId => (backend.get jobId).isSome := by
  intro op backend jobId there
  have touched : ∀ other change keeps,
      ((backend.touch other change keeps).2.get jobId).isSome = true := by
    intro other change keeps
    rw [get_touch]
    split
    · next same => rw [← same, Option.isSome_map, there]
    · exact there
  have mutated : ∀ other change keeps,
      ((backend.mutate other change keeps).get jobId).isSome = true := by
    intro other change keeps
    rw [get_mutate]
    split
    · next same => rw [← same, Option.isSome_map, there]
    · exact there
  cases op with
  | enqueue job now =>
      show ((backend.enqueue job).2.get jobId).isSome = true
      rw [get_enqueue]
      split
      · rfl
      · exact there
  | dequeue limit jobType queueName => exact there
  | claim other hostId workerId now =>
      show ((backend.claim other hostId workerId now).2.get jobId).isSome = true
      unfold claim
      split
      · exact there
      · split
        · exact there
        · apply mutated
          exact fun _ => rfl
  | release other now => apply touched
  | heartbeat other now => apply touched
  | updateStatus other status now =>
      show ((backend.updateStatus other status now).2.get jobId).isSome = true
      unfold updateStatus
      split
      · exact there
      · split
        · exact there
        · apply mutated
          exact fun _ => rfl
  | recordAttempt other error now => apply touched

namespace JobQueue

/-- The state after an event. -/
def play (state : QueueState σ) : QueueEvent → QueueState σ
  | .submit submission => (queue.serve backend state submission).2
  | .call op =>
      { state with
        shared := { state.shared with store := (backend.perform op state.shared.store).2 } }

/-- A submission that raises leaves the keys, the dependencies and the backend as they
were; one that returns names a job in the backend. -/
def AllOrNothing (present : σ → String → Prop) (state : QueueState σ) : QueueEvent → Prop
  | .submit submission =>
      (∀ error, (queue.serve backend state submission).1 = .error error →
        (queue.serve backend state submission).2 = state) ∧
      ∀ jobId, (queue.serve backend state submission).1 = .ok jobId →
        present (queue.serve backend state submission).2.shared.store jobId
  | .call _ => True

/-- A submission that raises does so before it has written anything. -/
def Clean (state : QueueState σ) : QueueEvent → Prop
  | .submit submission => ∀ error, (queue.serve backend state submission).1 = .error error →
      queue.RaisesClean backend submission state
  | .call _ => True

/-- The identifier of a submission is new. -/
def FreshIds (state : QueueState σ) : QueueEvent → Prop
  | .submit submission => state.Unused submission.jobId
  | .call _ => True

/-- Every key names a job in the backend. -/
def KeysStored (present : σ → String → Prop) (state : QueueState σ) : Prop :=
  ∀ key prior expires, state.idempotency.entries.get? key = some (prior, expires) →
    present state.shared.store prior

variable {queue backend} {present : σ → String → Prop}

/-- A submission that goes past its key and is stored keeps every key honest. -/
theorem KeysStored.proceed {submission : Submission} {state : QueueState σ}
    {manager : IdempotencyManager} {store : σ} (honest : KeysStored present state)
    (proceeds : Proceeds submission state.idempotency manager)
    (stored : present store submission.jobId)
    (kept : ∀ jobId, present state.shared.store jobId → present store jobId) :
    ∀ key prior expires, manager.entries.get? key = some (prior, expires) →
      present store prior := by
  intro key prior expires found
  rcases proceeds with ⟨_, rfl⟩ | ⟨_, _, _, _, rfl⟩ | ⟨own, _, _, rfl⟩
  · exact kept prior (honest key prior expires found)
  · exact kept prior (honest key prior expires found)
  · have written : (state.idempotency.entries.set own _).get? key = some (prior, expires) := found
    rw [Dict.get?_set] at written
    split at written
    · rw [← (Prod.mk.inj (Option.some.inj written)).1]
      exact stored
    · exact kept prior (honest key prior expires written)

/-- A submission that returns names a job in the backend, and keeps every key honest. -/
theorem KeysStored.serve (persists : backend.Persists present)
    (retains : backend.Retains present) {state : QueueState σ} {submission : Submission}
    (honest : KeysStored present state) {jobId : String}
    (returned : (queue.serve backend state submission).1 = .ok jobId) :
    present (queue.serve backend state submission).2.shared.store jobId ∧
      KeysStored present (queue.serve backend state submission).2 := by
  rcases queue.serve_cases backend submission state with
    ⟨error, _, refused⟩ | ⟨key, prior, expires, _, found, _, _, repeats⟩ |
    ⟨manager, proceeds, _, ⟨_, raised⟩ | ⟨_, stored⟩⟩
  · rw [refused] at returned
    cases returned
  · rw [repeats] at returned ⊢
    rw [← Except.ok.inj returned]
    exact ⟨honest key prior expires found, honest⟩
  · rw [raised] at returned
    cases returned
  · rw [stored] at returned ⊢
    have own := persists.returned _ _ _ _ returned
    have there := persists.stored _ _ _ _ returned
    subst own
    refine ⟨there, honest.proceed proceeds there ?_⟩
    intro other before
    exact retains (.enqueue submission.job submission.now) _ _ before

/-- The step lemma: a clean event is all or nothing and keeps every key honest. -/
theorem allOrNothing_of_clean (persists : backend.Persists present)
    (retains : backend.Retains present) (state : QueueState σ) (event : QueueEvent)
    (honest : KeysStored present state) (clean : queue.Clean backend state event) :
    queue.AllOrNothing backend present state event ∧
      KeysStored present (queue.play backend state event) := by
  cases event with
  | call op =>
      refine ⟨trivial, ?_⟩
      intro key prior expires found
      exact retains op _ _ (honest key prior expires found)
  | submit submission =>
      have unchanged : ∀ error, (queue.serve backend state submission).1 = .error error →
          (queue.serve backend state submission).2 = state :=
        fun error raised => serve_snd_of_raisesClean (clean error raised)
      cases outcome : (queue.serve backend state submission).1 with
      | error error =>
          refine ⟨⟨unchanged, fun jobId returned => by cases outcome.symm.trans returned⟩, ?_⟩
          show KeysStored present (queue.serve backend state submission).2
          rw [unchanged error outcome]
          exact honest
      | ok jobId =>
          have kept := honest.serve persists retains outcome
          refine ⟨⟨unchanged, fun other returned => ?_⟩, kept.2⟩
          rw [← Except.ok.inj (outcome.symm.trans returned)]
          exact kept.1

/-- The claim holds of an event of a new identifier only if the event is clean. -/
theorem clean_of_allOrNothing (state : QueueState σ) (event : QueueEvent)
    (fresh : FreshIds state event) (held : queue.AllOrNothing backend present state event) :
    queue.Clean backend state event := by
  cases event with
  | call op => trivial
  | submit submission =>
      intro error raised
      exact raisesClean_of_serve_snd fresh raised (held.1 error raised)

/-- **When `submit` is all or nothing.** In a run from an empty table of keys whose
submissions have new identifiers, every submission that raises leaves the queue as
it was and every identifier returned names a job in the backend, if and only if
every submission that raises does so before it has written anything. -/
theorem all_or_nothing_iff_clean (persists : backend.Persists present)
    (retains : backend.Retains present) (shared : Shared σ) (ttlSeconds : Int)
    (events : List QueueEvent)
    (fresh : Guarded (queue.play backend) FreshIds ⟨shared, { ttlSeconds := ttlSeconds }⟩ events) :
    Guarded (queue.play backend) (queue.AllOrNothing backend present)
        ⟨shared, { ttlSeconds := ttlSeconds }⟩ events ↔
      Guarded (queue.play backend) (queue.Clean backend)
        ⟨shared, { ttlSeconds := ttlSeconds }⟩ events := by
  constructor
  · intro held
    refine (fresh.and held).mono ?_
    intro state event met
    exact clean_of_allOrNothing state event met.1 met.2
  · intro clean
    have honest : KeysStored present (⟨shared, { ttlSeconds := ttlSeconds }⟩ : QueueState σ) := by
      intro key prior expires found
      cases found
    exact Guarded.of_invariant (allOrNothing_of_clean persists retains) honest clean

/-- A queue that refuses every payload, without a tracker. -/
def closedQueue : JobQueue := ⟨fun _ => .error (.valueError "payload too large"), false⟩

/-- A refused payload leaves nothing behind. -/
theorem refused_submission_leaves_nothing :
    Guarded (closedQueue.play MemoryQueueBackend.contract)
      (closedQueue.AllOrNothing MemoryQueueBackend.contract
        fun backend jobId => (backend.get jobId).isSome)
      ⟨.fresh .empty, { ttlSeconds := 60 }⟩
      [.submit ⟨{ jobType := "report", idempotencyKey := some "daily" }, "job-1", 0⟩] := by
  apply (all_or_nothing_iff_clean MemoryQueueBackend.persists MemoryQueueBackend.retains
    (.fresh .empty) 60 _ ?_).mpr
  · refine ⟨?_, trivial⟩
    intro error raised
    exact .inl ⟨_, rfl⟩
  · refine ⟨⟨?_, rfl⟩, trivial⟩
    intro key prior expires found
    cases found

/-- A store that cannot be reached for writing. -/
def unreachable : QueueBackend MemoryQueueBackend :=
  { MemoryQueueBackend.contract with
    enqueue := fun _ _ store => (.error (.raised "connection refused"), store) }

/-- A submission fails in the backend's `enqueue`; the next one with its key returns
the identifier of the job that was never stored. -/
theorem failed_submission_keeps_key :
    ¬ Guarded (trackingQueue.play unreachable)
      (trackingQueue.AllOrNothing unreachable fun backend jobId => (backend.get jobId).isSome)
      ⟨.fresh .empty, { ttlSeconds := 60 }⟩
      [.submit ⟨{ jobType := "report", idempotencyKey := some "daily" }, "job-1", 0⟩] ∧
    ¬ Guarded (trackingQueue.play unreachable)
      (fun state event => match event with
        | .submit submission => ∀ jobId, (trackingQueue.serve unreachable state submission).1 =
            .ok jobId →
              ((trackingQueue.serve unreachable state submission).2.shared.store.get jobId).isSome
        | .call _ => True)
      ⟨.fresh .empty, { ttlSeconds := 60 }⟩
      [.submit ⟨{ jobType := "report", idempotencyKey := some "daily" }, "job-1", 0⟩,
       .submit ⟨{ jobType := "report", idempotencyKey := some "daily" }, "job-2", 1⟩] := by
  constructor
  · intro held
    have unchanged := held.1.1 (.raised "connection refused") rfl
    have written := congrArg (fun state => state.idempotency.entries.get? "daily") unchanged
    cases written
  · intro held
    have missing := held.2.1 "job-1" rfl
    cases missing

end JobQueue

end CloudDogJobs
