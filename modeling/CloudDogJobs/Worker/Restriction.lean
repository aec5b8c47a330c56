import CloudDogJobs.Worker.Drain
import CloudDogJobs.Worker.Outcome

/-!
# Workers on well-formed stores

`QueueBackend.Lawful` asks its laws of every store. Where a call raises on a store that
no call leaves behind, the laws hold of the backend restricted to the stores with an
invariant that its calls keep. A worker does the same on either.
-/

namespace CloudDogJobs

open Foundation

variable {σ τ : Type} {Sound : σ → Prop}

/-- The calls keep the stores sound, the write of a status of `JobStatus` among them. -/
structure QueueBackend.KeepsSound (backend : QueueBackend σ) (Sound : σ → Prop) : Prop where
  enqueue : ∀ job now store, Sound store → Sound (backend.enqueue job now store).2
  claim : ∀ jobId hostId workerId now store,
    Sound store → Sound (backend.claim jobId hostId workerId now store).2
  release : ∀ jobId now store, Sound store → Sound (backend.release jobId now store).2
  heartbeat : ∀ jobId now store, Sound store → Sound (backend.heartbeat jobId now store).2
  updateStatus : ∀ jobId (status : JobStatus) now store,
    Sound store → Sound (backend.updateStatus jobId status.value now store).2
  recordAttempt : ∀ jobId error now store,
    Sound store → Sound (backend.recordAttempt jobId error now store).2

/-- A call, on sound stores. -/
def onSound {α : Type} (call : σ → α × σ) (keeps : ∀ store, Sound store → Sound (call store).2)
    (store : {store // Sound store}) : α × {store // Sound store} :=
  ((call store.1).1, ⟨(call store.1).2, keeps store.1 store.2⟩)

/-- The backend on sound stores. No worker writes a text that is no status; here such a
write is refused. -/
def QueueBackend.restrict (backend : QueueBackend σ) (keeps : backend.KeepsSound Sound) :
    QueueBackend {store // Sound store} where
  enqueue job now := onSound (backend.enqueue job now) (keeps.enqueue job now)
  dequeue limit jobType queueName store := backend.dequeue limit jobType queueName store.1
  claim jobId hostId workerId now :=
    onSound (backend.claim jobId hostId workerId now) (keeps.claim jobId hostId workerId now)
  release jobId now := onSound (backend.release jobId now) (keeps.release jobId now)
  heartbeat jobId now := onSound (backend.heartbeat jobId now) (keeps.heartbeat jobId now)
  get jobId store := backend.get jobId store.1
  updateStatus jobId status now store :=
    match JobStatus.ofValue? status with
    | some known =>
        onSound (backend.updateStatus jobId known.value now)
          (keeps.updateStatus jobId known now) store
    | none => (.error (.valueError (status ++ " is not a valid JobStatus")), store)
  recordAttempt jobId error now :=
    onSound (backend.recordAttempt jobId error now) (keeps.recordAttempt jobId error now)

theorem QueueBackend.restrict_updateStatus (backend : QueueBackend σ)
    (keeps : backend.KeepsSound Sound) (jobId : String) (status : JobStatus) (now : Int)
    (store : {store // Sound store}) :
    (backend.restrict keeps).updateStatus jobId status.value now store =
      onSound (backend.updateStatus jobId status.value now) (keeps.updateStatus jobId status now)
        store := by
  simp only [restrict, JobStatus.ofValue?_value]

namespace Shared

/-- The same objects beside an image of the store. -/
def mapStore (image : σ → τ) (shared : Shared σ) : Shared τ :=
  ⟨image shared.store, shared.concurrency, shared.pool, shared.tracker⟩

/-- Every call of a worker is, on a sound store, the call of the backend. -/
theorem exec_restrict (backend : QueueBackend σ) (keeps : backend.KeepsSound Sound) :
    Prog.Lifts (mapStore Subtype.val) (exec (backend.restrict keeps)) (exec backend) := by
  intro call shared
  cases call with
  | updateStatus jobId status now =>
      simp only [exec, backend.restrict_updateStatus keeps]
      rfl
  | _ => rfl

/-- Beside a store that is sound. -/
def within (shared : Shared σ) (sound : Sound shared.store) : Shared {store // Sound store} :=
  ⟨⟨shared.store, sound⟩, shared.concurrency, shared.pool, shared.tracker⟩

end Shared

variable {backend : QueueBackend σ} {view : σ → String → Option Ticket}

namespace Worker

/-- On a sound store `run_once` cleans up when it does so on the restricted backend. -/
theorem cleansUp_restrict_iff (worker : Worker) (keeps : backend.KeepsSound Sound)
    (inputs : RunInputs) (shared : Shared σ) (sound : Sound shared.store) :
    worker.CleansUp (backend.restrict keeps) (fun store => view store.1) inputs
        (shared.within sound) ↔
      worker.CleansUp backend view inputs shared := by
  have lifts := Shared.exec_restrict backend keeps
  have ran := lifts.run_image (worker.runOnce inputs) (shared.within sound)
  have issued := lifts.trace_image (worker.runOnce inputs) (shared.within sound)
  have same : (shared.within sound).mapStore Subtype.val = shared := rfl
  rw [same] at ran issued
  constructor
  · intro cleans
    refine ⟨?_, ?_, ?_⟩
    · rw [ran]
      exact cleans.concurrency
    · rw [ran]
      exact cleans.pool
    · rw [ran, issued]
      exact cleans.claimed
  · intro cleans
    refine ⟨?_, ?_, ?_⟩
    · have restored := cleans.concurrency
      rw [ran] at restored
      exact restored
    · have restored := cleans.pool
      rw [ran] at restored
      exact restored
    · have settled := cleans.claimed
      rw [ran, issued] at settled
      exact settled

end Worker

section Runs

theorem lifts_serviceMachine {ι : Type} (workers : ι → Worker) (keeps : backend.KeepsSound Sound) :
    Prog.Lifts (Shared.mapStore Subtype.val)
      (serviceMachine (backend.restrict keeps) workers).exec
      (serviceMachine backend workers).exec :=
  Shared.exec_restrict backend keeps

variable {ι : Type} [DecidableEq ι] (workers : ι → Worker) (keeps : backend.KeepsSound Sound)
  (shared : Shared σ) (sound : Sound shared.store) (schedule : List (Action ι ServiceOp))

/-- A run from a sound store is one of the restricted backend. -/
theorem runFrom_restrict :
    (serviceMachine backend workers).runFrom (.initial shared) schedule =
      ((serviceMachine (backend.restrict keeps) workers).runFrom
        (.initial (shared.within sound)) schedule).mapShared (Shared.mapStore Subtype.val) :=
  Machine.runFrom_image (lifts_serviceMachine workers keeps) rfl
    (.initial (shared.within sound)) schedule

include sound

/-- **Slots drain, on sound stores.** The laws need to hold on sound stores only. -/
theorem slots_drain_of_sound
    (lawful : (backend.restrict keeps).Lawful fun store => view store.1)
    (limits : ConcurrencyLimits) (pools : Dict String Int)
    (unusedManager : shared.concurrency = .init limits) (unusedPool : shared.pool = .init pools)
    (registered : ∀ jobId ticket, view shared.store jobId = some ticket →
      ∀ client, ticket.jobType ∈ (workers client).handlers)
    (accountable : (serviceMachine backend workers).Permits NoSharedHolding (.initial shared)
      schedule)
    (quiet : ((serviceMachine backend workers).runFrom (.initial shared) schedule).Quiet) :
    ((serviceMachine backend workers).runFrom (.initial shared) schedule).shared.Drained := by
  have permitted := (Machine.permits_image (lifts_serviceMachine workers keeps) rfl
    NoSharedHolding (.initial (shared.within sound)) schedule).mp accountable
  rw [runFrom_restrict workers keeps shared sound schedule] at quiet ⊢
  have accounted := (accounted_invariant (backend.restrict keeps) workers lawful limits).run
    (shared.within sound) (Accounted.initial (shared.within sound) pools unusedManager unusedPool
      registered) schedule permitted
  obtain ⟨pool, global, byType, byTenant, byUser⟩ := accounted.drained fun client =>
    Config.summary_of_idle (quiet client) protocol fun _ op => op.start
  exact ⟨pool, global, byType, byTenant, byUser⟩

end Runs

end CloudDogJobs
