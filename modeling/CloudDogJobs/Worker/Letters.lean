import CloudDogJobs.Worker.HeadOfQueue
import CloudDogJobs.Worker.Outcome

/-!
# What a round sends and leaves

One call of `run_once` puts at most one job into the store: the dead letter of the
job that it selected, when the handler of a type with a dead letter policy
raised. No other call of a round makes a job wait again, and none changes the
payload or the queue of a stored job.
-/

namespace CloudDogJobs

open Foundation WorkerProg

/-- The job that a call puts into the store. -/
def WorkerCall.letter : WorkerCall → Option Job
  | .enqueue copy _ => some copy
  | _ => none

/-- The jobs that a log of calls has put into the store, in order. A worker puts
nothing there but dead letters. -/
def letters (log : List (Sigma WorkerCall.Reply)) : List Job :=
  log.filterMap fun entry => entry.1.letter

theorem letters_append (first second : List (Sigma WorkerCall.Reply)) :
    letters (first ++ second) = letters first ++ letters second :=
  List.filterMap_append

theorem mem_letters {log : List (Sigma WorkerCall.Reply)} {copy : Job} :
    copy ∈ letters log ↔ ∃ entry ∈ log, entry.1.letter = some copy :=
  List.mem_filterMap

/-! ## What one round sends -/

section Sending

variable {σ α β : Type} (backend : QueueBackend σ)

/-- The program puts no job into the store. -/
def Silent (program : WorkerProg α) : Prop := program.Only fun call => call.letter = none

/-- Run alone, the program puts at most one job into the store, one that meets the
predicate. -/
def SendsAtMost (permitted : Job → Prop) (program : WorkerProg α) (shared : Shared σ) : Prop :=
  letters (program.trace (Shared.exec backend) shared) = [] ∨
    ∃ copy, letters (program.trace (Shared.exec backend) shared) = [copy] ∧ permitted copy

variable {backend} {permitted : Job → Prop}

theorem Silent.letters_trace {program : WorkerProg α} (silent : Silent program)
    (shared : Shared σ) : letters (program.trace (Shared.exec backend) shared) = [] := by
  refine List.filterMap_eq_nil_iff.mpr ?_
  intro entry issued
  exact silent.trace _ issued

theorem SendsAtMost.mono {program : WorkerProg α} {shared : Shared σ} {allowed : Job → Prop}
    (sends : SendsAtMost backend permitted program shared)
    (implies : ∀ copy, permitted copy → allowed copy) :
    SendsAtMost backend allowed program shared := by
  rcases sends with silent | ⟨copy, sent, meets⟩
  · exact .inl silent
  · exact .inr ⟨copy, sent, implies copy meets⟩

theorem Silent.sends {program : WorkerProg α} (silent : Silent program) (shared : Shared σ) :
    SendsAtMost backend permitted program shared :=
  .inl (silent.letters_trace shared)

theorem Silent.letters_bind {first : WorkerProg α} (silent : Silent first)
    (next : α → WorkerProg β) (shared : Shared σ) :
    letters ((first >>= next).trace (Shared.exec backend) shared) =
      letters ((next (first.run (Shared.exec backend) shared).1).trace (Shared.exec backend)
        (first.run (Shared.exec backend) shared).2) := by
  rw [Prog.trace_bind, letters_append, silent.letters_trace shared, List.nil_append]

theorem letters_bind_silent {first : WorkerProg α} {next : α → WorkerProg β}
    (silent : ∀ value, Silent (next value)) (shared : Shared σ) :
    letters ((first >>= next).trace (Shared.exec backend) shared) =
      letters (first.trace (Shared.exec backend) shared) := by
  rw [Prog.trace_bind, letters_append, (silent _).letters_trace, List.append_nil]

theorem SendsAtMost.bind_left {first : WorkerProg α} {next : α → WorkerProg β}
    {shared : Shared σ} (silent : Silent first)
    (sends : SendsAtMost backend permitted (next (first.run (Shared.exec backend) shared).1)
      (first.run (Shared.exec backend) shared).2) :
    SendsAtMost backend permitted (first >>= next) shared := by
  unfold SendsAtMost
  rw [silent.letters_bind]
  exact sends

theorem SendsAtMost.bind_right {first : WorkerProg α} {next : α → WorkerProg β}
    {shared : Shared σ} (sends : SendsAtMost backend permitted first shared)
    (silent : ∀ value, Silent (next value)) :
    SendsAtMost backend permitted (first >>= next) shared := by
  unfold SendsAtMost
  rw [letters_bind_silent silent]
  exact sends

theorem SendsAtMost.andThen_left {first : WorkerProg (Except PyError α)}
    {next : α → WorkerProg (Except PyError β)} {shared : Shared σ} (silent : Silent first)
    (sends : ∀ value, SendsAtMost backend permitted (next value)
      (first.run (Shared.exec backend) shared).2) :
    SendsAtMost backend permitted (andThen first next) shared := by
  apply SendsAtMost.bind_left silent
  cases (first.run (Shared.exec backend) shared).1 with
  | ok value => exact sends value
  | error error => exact .inl rfl

theorem SendsAtMost.andThen_right {first : WorkerProg (Except PyError α)}
    {next : α → WorkerProg (Except PyError β)} {shared : Shared σ}
    (sends : SendsAtMost backend permitted first shared) (silent : ∀ value, Silent (next value)) :
    SendsAtMost backend permitted (andThen first next) shared := by
  apply sends.bind_right
  intro reply
  cases reply with
  | ok value => exact silent value
  | error error => trivial

end Sending

/-- The dead letter of a job under the policies. -/
def FallbackPolicyManager.letter (manager : FallbackPolicyManager) (inputs : RunInputs)
    (job : Job) (error : PyError) : Job :=
  deadLetterJob (manager.policyFor job.jobType).deadLetterQueue job error inputs

/-- The job is a dead letter of the other under the policies. -/
def FallbackPolicyManager.LetterOf (manager : FallbackPolicyManager) (inputs : RunInputs)
    (job copy : Job) : Prop :=
  (manager.policyFor job.jobType).action = .deadLetter ∧
    ∃ error, copy = manager.letter inputs job error

theorem WorkerCall.InSelection.letter_eq_none {call : WorkerCall} (inside : call.InSelection) :
    call.letter = none := by
  cases call <;> first | rfl | cases inside

theorem WorkerCall.InRelease.letter_eq_none {call : WorkerCall} {job : Job}
    (inside : call.InRelease job) : call.letter = none := by
  cases call <;> first | rfl | cases inside

section Rounds

variable {σ : Type} {backend : QueueBackend σ} (inputs : RunInputs) (job : Job)

theorem FallbackPolicyManager.sends_apply (manager : FallbackPolicyManager) (error : PyError)
    (shared : Shared σ) :
    SendsAtMost backend (manager.LetterOf inputs job) (manager.apply inputs job error) shared := by
  have marks : ∀ status, Silent (mark inputs job status) := fun _ => ⟨rfl, fun _ => trivial⟩
  unfold FallbackPolicyManager.apply
  split
  · exact SendsAtMost.andThen_left (marks _) fun _ => .inl rfl
  · next lettered =>
      apply SendsAtMost.andThen_left (marks _)
      intro _
      apply SendsAtMost.andThen_right
      · exact .inr ⟨_, rfl, lettered, error, rfl⟩
      · intro _
        trivial
  · apply SendsAtMost.andThen_left (marks _)
    intro _
    apply Silent.sends
    apply only_andThen
    · unfold sendNotification
      split
      · trivial
      · split
        · exact ⟨rfl, fun _ => trivial⟩
        · trivial
    · intro _
      trivial
  · exact SendsAtMost.andThen_left (marks _) fun _ => .inl rfl

namespace Worker

variable (worker : Worker) {manager : FallbackPolicyManager}
  (configured : worker.fallbackPolicies = some manager)

theorem silent_select : Silent worker.select :=
  worker.only_select.mono fun _ => WorkerCall.InSelection.letter_eq_none

theorem silent_releaseJob : Silent (worker.releaseJob job) :=
  (worker.only_releaseJob job).mono fun _ => WorkerCall.InRelease.letter_eq_none

theorem silent_finally (result : Except PyError Bool) :
    Silent (do
      worker.releaseJob job
      return result) :=
  (worker.silent_releaseJob job).bind fun _ => trivial

theorem silent_execute : Silent (worker.execute inputs job) := by
  have invoked : Silent (worker.invoke inputs job) := by
    refine ⟨rfl, fun _ => ?_⟩
    split
    · trivial
    · split
      · exact only_andThen _ ⟨rfl, fun _ => trivial⟩ fun _ => trivial
      · trivial
  apply only_andThen
  · exact ⟨rfl, fun _ => trivial⟩
  · intro _
    apply only_andThen _ invoked
    intro _
    exact only_andThen _ ⟨rfl, fun _ => trivial⟩ fun _ => trivial

include configured

theorem sends_attempt (shared : Shared σ) :
    SendsAtMost backend (manager.LetterOf inputs job) (worker.attempt inputs job) shared := by
  apply SendsAtMost.bind_left (worker.silent_execute inputs job)
  split
  · exact .inl rfl
  · split
    · unfold recover
      rw [configured]
      apply SendsAtMost.andThen_right (manager.sends_apply inputs job _ _)
      intro _
      trivial
    · exact .inl rfl

theorem sends_process (shared : Shared σ) :
    SendsAtMost backend (fun copy => job.jobType ∈ worker.handlers ∧
      manager.LetterOf inputs job copy) (worker.process inputs job) shared := by
  have claims : Silent
      (call (.claim job.jobId worker.hostId worker.workerId inputs.claimAt)) :=
    ⟨rfl, fun _ => trivial⟩
  apply SendsAtMost.andThen_left claims
  intro claimed
  unfold afterClaim
  split
  · split
    · next known =>
        apply SendsAtMost.bind_right
        · exact (worker.sends_attempt inputs job configured _).mono fun _ letter => ⟨known, letter⟩
        · exact worker.silent_finally job
    · exact .inl rfl
  · exact (worker.silent_finally job _).sends _

/-- One round sends at most one dead letter, of the job that it selected. -/
theorem sends_runOnce {view : σ → String → Option Ticket} (lawful : backend.Lawful view)
    (shared : Shared σ) :
    SendsAtMost backend (fun copy => ∃ job, worker.selected backend view shared = some job ∧
      job.jobType ∈ worker.handlers ∧ manager.LetterOf inputs job copy)
        (worker.runOnce inputs) shared := by
  unfold runOnce
  split
  · next authorised =>
      apply SendsAtMost.bind_left worker.silent_select
      cases chosen : worker.selected backend view shared with
      | none =>
          obtain ⟨after, ended, _⟩ :=
            worker.run_select_of_none backend lawful shared authorised chosen
          rw [ended]
          exact .inl rfl
      | some job =>
          rw [worker.run_select_of_selected backend lawful shared chosen]
          exact (worker.sends_process inputs job configured _).mono
            fun _ letter => ⟨job, rfl, letter⟩
  · exact .inl rfl

end Worker

end Rounds

/-! ## What one round leaves in the store -/

/-- The call writes no queued status, and puts no job into the store under another
identifier. -/
def WorkerCall.RequeuesOnly (deadLetterId : String) : WorkerCall → Prop
  | .updateStatus _ status _ => status ≠ .queued
  | .enqueue copy _ => copy.jobId = deadLetterId
  | _ => True

theorem WorkerCall.InExecution.requeuesOnly {call : WorkerCall} {job : Job}
    {deadLetterId : String} (inside : call.InExecution job deadLetterId) :
    call.RequeuesOnly deadLetterId := by
  cases call with
  | updateStatus jobId status now =>
      rintro rfl
      exact absurd inside.2 (by decide)
  | enqueue copy now => exact inside.1
  | _ => trivial

theorem WorkerCall.InSelection.requeuesOnly {call : WorkerCall} (inside : call.InSelection)
    (deadLetterId : String) : call.RequeuesOnly deadLetterId := by
  cases call <;> trivial

theorem WorkerCall.InRelease.requeuesOnly {call : WorkerCall} {job : Job}
    (inside : call.InRelease job) (deadLetterId : String) : call.RequeuesOnly deadLetterId := by
  cases call <;> trivial

/-- The job is not waiting in the queue. -/
def Spent {σ : Type} (view : σ → String → Option Ticket) (jobId : String) (shared : Shared σ) :
    Prop :=
  (view shared.store jobId).map Ticket.status ≠ some .queued

section Spent

variable {σ : Type} {backend : QueueBackend σ} {view : σ → String → Option Ticket}
  (lawful : backend.Lawful view)

include lawful

theorem Spent.exec {call : WorkerCall} {jobId deadLetterId : String} {shared : Shared σ}
    (spent : Spent view jobId shared) (inside : call.RequeuesOnly deadLetterId)
    (other : jobId ≠ deadLetterId) : Spent view jobId (Shared.exec backend call shared).2 := by
  cases call with
  | claim claimed hostId workerId now =>
      show (view (backend.claim claimed hostId workerId now shared.store).2 jobId).map _ ≠ _
      rw [lawful.view_claim]
      split
      · cases view shared.store claimed <;> simp
      · exact spent
  | heartbeat beaten now =>
      show (view (backend.heartbeat beaten now shared.store).2 jobId).map _ ≠ _
      rw [lawful.view_heartbeat]
      exact spent
  | updateStatus written status now =>
      show (view (backend.updateStatus written status.value now shared.store).2 jobId).map _ ≠ _
      rw [lawful.view_updateStatus]
      split
      · have final : status ≠ .queued := inside
        cases view shared.store written <;> simp [final]
      · exact spent
  | enqueue copy now =>
      obtain rfl : copy.jobId = deadLetterId := inside
      show (view (backend.enqueue copy now shared.store).2 jobId).map _ ≠ _
      rw [lawful.enqueue_other copy now shared.store jobId other]
      exact spent
  | _ => exact spent

namespace Worker

variable (worker : Worker) (inputs : RunInputs)

/-- A job that is not waiting is not waiting after a round. -/
theorem spent_runOnce {jobId : String} {shared : Shared σ} (spent : Spent view jobId shared)
    (other : jobId ≠ inputs.deadLetterId) :
    Spent view jobId ((worker.runOnce inputs).run (Shared.exec backend) shared).2 := by
  have only : (worker.runOnce inputs).Only (WorkerCall.RequeuesOnly inputs.deadLetterId) := by
    apply worker.only_runOnce inputs
    · intro call inside
      exact inside.requeuesOnly _
    · intros
      trivial
    · intro job call inside
      exact inside.elim (·.requeuesOnly) (·.requeuesOnly _)
  refine only.run (Shared.exec backend) ?_ spent
  intro call state inside before
  exact before.exec lawful inside other

/-- The job that a round claims is not waiting after it. -/
theorem claimed_spent {job : Job} {shared : Shared σ}
    (chosen : worker.selected backend view shared = some job)
    (granted : worker.grants backend inputs shared job)
    (other : job.jobId ≠ inputs.deadLetterId) :
    Spent view job.jobId ((worker.runOnce inputs).run (Shared.exec backend) shared).2 := by
  have running : Spent view job.jobId (worker.claimedState backend inputs shared job) := by
    unfold Spent
    rw [worker.claimed_running lawful granted]
    simp
  rw [worker.run_runOnce_claimed lawful chosen granted]
  refine (worker.only_afterClaim inputs job true).run (Shared.exec backend) ?_ running
  intro call state inside before
  exact before.exec lawful (inside.elim (·.requeuesOnly) (·.requeuesOnly _)) other

end Worker

end Spent

/-- Every job of the queue was there at the start, with the same payload. -/
def MemoryQueueBackend.StemsFrom (start : MemoryQueueBackend) (queue : String)
    (store : MemoryQueueBackend) : Prop :=
  ∀ jobId stored, store.get jobId = some stored → stored.queueName = queue →
    ∃ original, start.get jobId = some original ∧ stored.payload = original.payload

namespace MemoryQueueBackend

variable {start store : MemoryQueueBackend} {queue : String}

theorem StemsFrom.mutate (stems : start.StemsFrom queue store) {jobId : String}
    {change : Job → Job} (keeps : ∀ job, (change job).jobId = job.jobId)
    (payload : ∀ job, (change job).payload = job.payload)
    (queueName : ∀ job, (change job).queueName = job.queueName) :
    start.StemsFrom queue (store.mutate jobId change keeps) := by
  intro other stored shown inQueue
  rw [get_mutate] at shown
  split at shown
  · next same =>
      obtain ⟨earlier, found, rfl⟩ := Option.map_eq_some_iff.mp shown
      obtain ⟨original, first, kept⟩ := stems _ _ found ((queueName earlier).symm.trans inQueue)
      exact ⟨original, by rw [same]; exact first, (payload earlier).trans kept⟩
  · exact stems other stored shown inQueue

theorem StemsFrom.claim (stems : start.StemsFrom queue store) (jobId hostId workerId : String)
    (now : Int) : start.StemsFrom queue (store.claim jobId hostId workerId now).2 := by
  unfold MemoryQueueBackend.claim
  split
  · exact stems
  · split
    · exact stems
    · apply stems.mutate <;> exact fun _ => rfl

theorem StemsFrom.updateStatus (stems : start.StemsFrom queue store) (jobId status : String)
    (now : Int) : start.StemsFrom queue (store.updateStatus jobId status now).2 := by
  unfold MemoryQueueBackend.updateStatus
  split
  · exact stems
  · split
    · exact stems
    · apply stems.mutate <;> exact fun _ => rfl

theorem StemsFrom.heartbeat (stems : start.StemsFrom queue store) (jobId : String) (now : Int) :
    start.StemsFrom queue (store.heartbeat jobId now).2 := by
  unfold MemoryQueueBackend.heartbeat touch
  split
  · exact stems
  · apply stems.mutate <;> exact fun _ => rfl

theorem StemsFrom.enqueue (stems : start.StemsFrom queue store) {copy : Job}
    (elsewhere : copy.queueName ≠ queue) : start.StemsFrom queue (store.enqueue copy).2 := by
  intro other stored shown inQueue
  rw [get_enqueue] at shown
  split at shown
  · cases shown
    exact absurd inQueue elsewhere
  · exact stems other stored shown inQueue

/-- A call of a worker that sends no letter into the queue. -/
theorem StemsFrom.exec {shared : Shared MemoryQueueBackend}
    (stems : start.StemsFrom queue shared.store) (call : WorkerCall)
    (elsewhere : ∀ copy, call.letter = some copy → copy.queueName ≠ queue) :
    start.StemsFrom queue (Shared.exec contract call shared).2.store := by
  cases call with
  | claim jobId hostId workerId now => exact stems.claim jobId hostId workerId now
  | heartbeat jobId now => exact stems.heartbeat jobId now
  | updateStatus jobId status now => exact stems.updateStatus jobId status.value now
  | enqueue copy now => exact stems.enqueue (elsewhere copy rfl)
  | _ => exact stems

end MemoryQueueBackend

end CloudDogJobs
