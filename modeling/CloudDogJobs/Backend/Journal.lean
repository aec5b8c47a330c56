import CloudDogJobs.Admin.Service

/-!
# Journals

A backend that notes the calls which may change its store, in order, and answers as the
backend under it does. What an operation of the layers above writes is what it leaves
in the journal.
-/

namespace CloudDogJobs

open Foundation

variable {σ : Type}

/-- A store and the calls made on it. -/
structure Journal (σ : Type) where
  store : σ
  calls : List BackendOp := []

/-- Note a call with its outcome. -/
def Journal.note {α : Type} (journal : Journal σ) (op : BackendOp)
    (outcome : Except PyError α × σ) : Except PyError α × Journal σ :=
  (outcome.1, ⟨outcome.2, journal.calls ++ [op]⟩)

/-- The backend with a journal. -/
def QueueBackend.journaled (backend : QueueBackend σ) : QueueBackend (Journal σ) where
  enqueue job now journal :=
    journal.note (.enqueue job now) (backend.enqueue job now journal.store)
  dequeue limit jobType queueName journal :=
    backend.dequeue limit jobType queueName journal.store
  claim jobId hostId workerId now journal :=
    journal.note (.claim jobId hostId workerId now)
      (backend.claim jobId hostId workerId now journal.store)
  release jobId now journal :=
    journal.note (.release jobId now) (backend.release jobId now journal.store)
  heartbeat jobId now journal :=
    journal.note (.heartbeat jobId now) (backend.heartbeat jobId now journal.store)
  get jobId journal := backend.get jobId journal.store
  updateStatus jobId status now journal :=
    journal.note (.updateStatus jobId status now)
      (backend.updateStatus jobId status now journal.store)
  recordAttempt jobId error now journal :=
    journal.note (.recordAttempt jobId error now)
      (backend.recordAttempt jobId error now journal.store)

/-- The backend and its administrative reads with a journal. -/
def AdminBackend.journaled (backend : AdminBackend σ) : AdminBackend (Journal σ) where
  toQueueBackend := backend.toQueueBackend.journaled
  allJobs journal := backend.allJobs journal.store
  getQueueStatus journal := backend.getQueueStatus journal.store

section Passes

variable {κ : Type} (backend : QueueBackend σ)
  (choose : Job → Except PyError (Option (Rewrite κ))) (now : Int)

/-- A pass does the same with a journal as without. -/
theorem QueueBackend.pass_journaled (jobs : List Job) (tally : κ) (journal : Journal σ) :
    (backend.journaled.pass choose now jobs tally journal).1 =
        (backend.pass choose now jobs tally journal.store).1 ∧
      (backend.journaled.pass choose now jobs tally journal).2.store =
        (backend.pass choose now jobs tally journal.store).2 := by
  induction jobs generalizing tally journal with
  | nil => exact ⟨rfl, rfl⟩
  | cons job rest ih =>
      unfold QueueBackend.pass
      cases choose job with
      | error error => exact ⟨rfl, rfl⟩
      | ok chosen =>
          cases chosen with
          | none => exact ih tally journal
          | some rewrite =>
              dsimp only [QueueBackend.journaled, Journal.note]
              cases backend.updateStatus job.jobId rewrite.target.value now journal.store with
              | mk result next =>
                  cases result with
                  | error error => exact ⟨rfl, rfl⟩
                  | ok found => exact ih _ ⟨next, _⟩

theorem AdminBackend.passAll_journaled (backend : AdminBackend σ) (start : κ)
    (journal : Journal σ) :
    (backend.journaled.passAll choose now start journal).1 =
        (backend.passAll choose now start journal.store).1 ∧
      (backend.journaled.passAll choose now start journal).2.store =
        (backend.passAll choose now start journal.store).2 := by
  unfold AdminBackend.passAll
  dsimp only [AdminBackend.journaled]
  cases backend.allJobs journal.store with
  | error error => exact ⟨rfl, rfl⟩
  | ok jobs => exact backend.toQueueBackend.pass_journaled choose now jobs start journal

/-- A job that is chosen and found is written and counted. -/
theorem QueueBackend.pass_of_found {job : Job} {rewrite : Rewrite κ} {store next : σ}
    (chosen : choose job = .ok (some rewrite))
    (found : backend.updateStatus job.jobId rewrite.target.value now store = (.ok true, next))
    (rest : List Job) (tally : κ) :
    backend.pass choose now (job :: rest) tally store =
      backend.pass choose now rest (rewrite.count tally) next := by
  rw [QueueBackend.pass, chosen]
  dsimp only
  rw [found]
  rfl

/-- A pass that rewrites nothing changes nothing. -/
theorem QueueBackend.pass_of_none {jobs : List Job} (none : ∀ job ∈ jobs, choose job = .ok none)
    (tally : κ) (store : σ) : backend.pass choose now jobs tally store = (.ok tally, store) := by
  induction jobs with
  | nil => rfl
  | cons job rest ih =>
      unfold QueueBackend.pass
      rw [none job List.mem_cons_self]
      exact ih fun later member => none later (List.mem_cons_of_mem _ member)

end Passes

end CloudDogJobs
