import CloudDogJobs.Worker.Worker

/-!
# The calls of each phase of `run_once`

Which calls selection, execution and release of a job can make, whatever the
calls reply. Every argument about what a worker does not do goes through these
three lemmas.
-/

namespace CloudDogJobs

open Foundation WorkerProg

/-- The calls of a dependency check. -/
def WorkerCall.IsLookup : WorkerCall → Prop
  | .get _ => True
  | .trackedDependencies _ => True
  | _ => False

/-- The calls of a selection. -/
def WorkerCall.InSelection : WorkerCall → Prop
  | .dequeue _ _ => True
  | .get _ => True
  | .trackedDependencies _ => True
  | .acquireConcurrency _ => True
  | .releaseConcurrency _ => True
  | .acquireResources _ _ => True
  | _ => False

/-- The calls of the `try` block and its `except` clause, for one job. Every
status written is one of the four that end a round. -/
def WorkerCall.InExecution (job : Job) (deadLetterId : String) : WorkerCall → Prop
  | .heartbeat jobId _ => jobId = job.jobId
  | .updateStatus jobId status _ => jobId = job.jobId ∧
      status ∈ [JobStatus.succeeded, .timeout, .failed, .retryWait]
  | .enqueue copy _ => copy.jobId = deadLetterId ∧ copy.jobType = job.jobType ∧
      copy.status = .queued ∧ copy.resources = ∅ ∧ copy.dependsOn = []
  | .handle started => started = job
  | .notify _ _ => True
  | _ => False

/-- The call that takes a job. -/
def WorkerCall.IsClaim : WorkerCall → Prop
  | .claim _ _ _ _ => True
  | _ => False

/-- The calls that give a job's slots back. -/
def WorkerCall.InRelease (job : Job) : WorkerCall → Prop
  | .releaseConcurrency jobType => jobType = job.jobType
  | .releaseResources jobId => jobId = job.jobId
  | _ => False

theorem WorkerCall.IsLookup.inSelection {call : WorkerCall} (lookup : call.IsLookup) :
    call.InSelection := by
  cases call <;> trivial

namespace Dispatcher

theorem only_allSucceeded (dependencies : List String) :
    (allSucceeded dependencies).Only WorkerCall.IsLookup := by
  induction dependencies with
  | nil => trivial
  | cons dependency rest ih =>
      apply only_andThen
      · apply only_andThen
        · exact ⟨trivial, fun _ => trivial⟩
        · intro job
          trivial
      · intro status
        split
        · trivial
        · exact ih

variable (dispatcher : Dispatcher)

theorem only_checkDependencies (job : Job) :
    (dispatcher.checkDependencies job).Only WorkerCall.IsLookup := by
  unfold checkDependencies
  split
  · exact ⟨trivial, only_allSucceeded⟩
  · trivial

theorem only_acquireSlots (job : Job) :
    (dispatcher.acquireSlots job).Only WorkerCall.InSelection := by
  have concurrent : (dispatcher.acquireConcurrency job).Only WorkerCall.InSelection := by
    unfold acquireConcurrency
    split
    · exact ⟨trivial, fun _ => trivial⟩
    · trivial
  have pooled : (dispatcher.acquireResources job).Only WorkerCall.InSelection := by
    unfold acquireResources
    split
    · exact ⟨trivial, fun _ => trivial⟩
    · trivial
  have undone : (dispatcher.releaseConcurrency job).Only WorkerCall.InSelection := by
    unfold releaseConcurrency
    split
    · exact ⟨trivial, fun _ => trivial⟩
    · trivial
  apply concurrent.bind
  intro granted
  split
  · apply pooled.bind
    intro available
    split
    · trivial
    · exact undone.bind fun _ => trivial
  · trivial

theorem only_selectFrom (jobs : List Job) :
    (dispatcher.selectFrom jobs).Only WorkerCall.InSelection := by
  induction jobs with
  | nil => trivial
  | cons job rest ih =>
      apply only_andThen
      · apply only_andThen
        · exact (dispatcher.only_checkDependencies job).mono
            fun _ => WorkerCall.IsLookup.inSelection
        · intro runnable
          split
          · exact (dispatcher.only_acquireSlots job).bind fun _ => trivial
          · trivial
      · intro admitted
        exact only_andThen _ ih fun _ => trivial

theorem only_releaseJob (job : Job) :
    (dispatcher.releaseJob job).Only (WorkerCall.InRelease job) := by
  have concurrent : (dispatcher.releaseConcurrency job).Only (WorkerCall.InRelease job) := by
    unfold releaseConcurrency
    split
    · exact ⟨rfl, fun _ => trivial⟩
    · trivial
  apply concurrent.bind
  intro _
  split
  · exact ⟨rfl, fun _ => trivial⟩
  · trivial

end Dispatcher

namespace FallbackPolicyManager

theorem only_mark (inputs : RunInputs) (job : Job) (status : JobStatus)
    (final : status ∈ [JobStatus.succeeded, .timeout, .failed, .retryWait]) :
    (mark inputs job status).Only (WorkerCall.InExecution job inputs.deadLetterId) :=
  ⟨⟨rfl, final⟩, fun _ => trivial⟩

theorem only_sendNotification (policy : FallbackPolicy) (inputs : RunInputs) (job : Job)
    (error : PyError) :
    (sendNotification policy inputs job error).Only
      (WorkerCall.InExecution job inputs.deadLetterId) := by
  unfold sendNotification
  split
  · trivial
  · split
    · exact ⟨trivial, fun _ => trivial⟩
    · trivial

theorem only_apply (manager : FallbackPolicyManager) (inputs : RunInputs)
    (job : Job) (error : PyError) :
    (manager.apply inputs job error).Only (WorkerCall.InExecution job inputs.deadLetterId) := by
  unfold apply
  split
  · apply only_andThen _ (only_mark inputs job _ (by decide))
    intro _
    trivial
  · apply only_andThen _ (only_mark inputs job _ (by decide))
    intro _
    apply only_andThen
    · exact ⟨⟨rfl, rfl, rfl, rfl, rfl⟩, fun _ => trivial⟩
    · intro _
      trivial
  · apply only_andThen _ (only_mark inputs job _ (by decide))
    intro _
    apply only_andThen _ (only_sendNotification _ inputs job error)
    intro _
    trivial
  · apply only_andThen _ (only_mark inputs job _ (by decide))
    intro _
    trivial

end FallbackPolicyManager

namespace Worker

variable (worker : Worker)

theorem only_select : worker.select.Only WorkerCall.InSelection := by
  unfold select
  split
  · exact only_andThen _ ⟨trivial, fun _ => trivial⟩ fun jobs => Dispatcher.only_selectFrom _ jobs
  · exact ⟨trivial, fun _ => trivial⟩

theorem only_releaseJob (job : Job) :
    (worker.releaseJob job).Only (WorkerCall.InRelease job) := by
  unfold releaseJob
  split
  · exact Dispatcher.only_releaseJob _ job
  · trivial

theorem only_recover (inputs : RunInputs) (job : Job) (error : PyError) :
    (worker.recover inputs job error).Only (WorkerCall.InExecution job inputs.deadLetterId) := by
  unfold recover
  split
  · exact only_andThen _ (FallbackPolicyManager.only_apply _ inputs job error) fun _ => trivial
  · exact only_andThen _ ⟨⟨rfl, by decide⟩, fun _ => trivial⟩ fun _ => trivial

theorem only_invoke (inputs : RunInputs) (job : Job) :
    (worker.invoke inputs job).Only (WorkerCall.InExecution job inputs.deadLetterId) := by
  refine ⟨rfl, fun _ => ?_⟩
  split
  · trivial
  · split
    · exact only_andThen _ ⟨⟨rfl, by decide⟩, fun _ => trivial⟩ fun _ => trivial
    · trivial

theorem only_attempt (inputs : RunInputs) (job : Job) :
    (worker.attempt inputs job).Only (WorkerCall.InExecution job inputs.deadLetterId) := by
  have executed :
      (worker.execute inputs job).Only (WorkerCall.InExecution job inputs.deadLetterId) := by
    apply only_andThen
    · exact ⟨rfl, fun _ => trivial⟩
    · intro _
      apply only_andThen _ (worker.only_invoke inputs job)
      intro _
      apply only_andThen
      · exact ⟨⟨rfl, by decide⟩, fun _ => trivial⟩
      · intro _
        trivial
  apply executed.bind
  intro result
  cases result with
  | ok processed => trivial
  | error error =>
      dsimp only
      split
      · exact worker.only_recover inputs job error
      · trivial

/-- Once its claim is granted, `run_once` returns `True` or raises. -/
theorem ends_afterClaim (inputs : RunInputs) (job : Job) :
    (worker.afterClaim inputs job true).Ends fun result => result ≠ .ok false := by
  have recovered : ∀ error, (worker.recover inputs job error).Ends
      fun result => result ≠ .ok false := by
    intro error
    unfold recover
    split
    · apply ends_andThen
      · intro decision
        show (if decision.shouldRaise then Except.error error else .ok true) ≠ .ok false
        cases decision.shouldRaise <;> simp
      · simp
    · apply ends_andThen
      · simp [Prog.Ends]
      · simp
  have attempted : (worker.attempt inputs job).Ends fun result => result ≠ .ok false := by
    have executed : (worker.execute inputs job).Ends fun result => result ≠ .ok false := by
      apply ends_andThen
      · intro _
        apply ends_andThen
        · intro _
          apply ends_andThen
          · simp [Prog.Ends]
          · simp
        · simp
      · simp
    apply executed.bind
    intro result proper
    cases result with
    | ok processed => exact proper
    | error error =>
        dsimp only
        split
        · exact recovered error
        · simp [Prog.Ends]
  unfold afterClaim
  simp only [↓reduceIte]
  split
  · apply attempted.bind
    intro result proper
    apply (Prog.ends_true _).bind
    intro _ _
    exact proper
  · simp [Prog.Ends]

/-- After its claim a worker only executes and releases the claimed job. -/
theorem only_afterClaim (inputs : RunInputs) (job : Job) (claimed : Bool) :
    (worker.afterClaim inputs job claimed).Only fun call =>
      call.InExecution job inputs.deadLetterId ∨ call.InRelease job := by
  have attempted := (worker.only_attempt inputs job).mono
    fun call inside => Or.inl (b := call.InRelease job) inside
  have released := (worker.only_releaseJob job).mono
    fun call inside => Or.inr (a := call.InExecution job inputs.deadLetterId) inside
  unfold afterClaim
  split
  · split
    · apply attempted.bind
      intro result
      exact released.bind fun _ => trivial
    · trivial
  · exact released.bind fun _ => trivial

/-- The rule for a property of every call of `run_once`. -/
theorem only_runOnce (inputs : RunInputs) {permitted : WorkerCall → Prop}
    (selecting : ∀ call, call.InSelection → permitted call)
    (claiming : ∀ jobId hostId workerId now, permitted (.claim jobId hostId workerId now))
    (ending : ∀ job call, call.InExecution job inputs.deadLetterId ∨ call.InRelease job →
      permitted call) :
    (worker.runOnce inputs).Only permitted := by
  unfold runOnce
  split
  · apply only_andThen _ (worker.only_select.mono selecting)
    intro jobs
    cases jobs with
    | nil => trivial
    | cons job rest =>
        apply only_andThen
        · exact ⟨claiming _ _ _ _, fun _ => trivial⟩
        · intro claimed
          exact (worker.only_afterClaim inputs job claimed).mono (ending job)
  · trivial

end Worker

theorem WorkerCall.InSelection.not_isClaim {call : WorkerCall} (inside : call.InSelection) :
    ¬ call.IsClaim := by
  cases call <;> simp_all [WorkerCall.InSelection, WorkerCall.IsClaim]

theorem WorkerCall.InExecution.not_isClaim {call : WorkerCall} {job : Job}
    {deadLetterId : String} (inside : call.InExecution job deadLetterId) : ¬ call.IsClaim := by
  cases call <;> simp_all [WorkerCall.InExecution, WorkerCall.IsClaim]

theorem WorkerCall.InRelease.not_isClaim {call : WorkerCall} {job : Job}
    (inside : call.InRelease job) : ¬ call.IsClaim := by
  cases call <;> simp_all [WorkerCall.InRelease, WorkerCall.IsClaim]

end CloudDogJobs
