import CloudDogJobs.Backend.Memory
import CloudDogJobs.Worker.Watched

/-!
# Bookkeeping of the workers

What the audit events and the counters of a worker say about the calls it has made,
when its rounds interleave with those of other workers and with cancellations.
-/

namespace CloudDogJobs

open Foundation WorkerProg
open WatchedProg (emit inc)

/-- The notes for a status write that returned. -/
def JobStatus.notes : JobStatus → Bool → List Note
  | .succeeded, _ => [.audit ⟨"job.transition", "success"⟩, .count "jobs.succeeded"]
  | .timeout, _ => [.audit ⟨"job.transition", "failure"⟩, .count "jobs.timed_out"]
  | .retryWait, _ => [.audit ⟨"job.transition", "failure"⟩, .count "jobs.retry_wait"]
  | .failed, _ => [.audit ⟨"job.transition", "failure"⟩, .count "jobs.failed"]
  | .cancelled, found => [.audit ⟨"job.cancel", if found then "success" else "failure"⟩]
  | _, _ => []

/-- What a call has done that concerns the books. -/
inductive CallOutcome
  | granted
  | wrote (status : JobStatus) (found : Bool)
  /-- A dead letter could not be stored. -/
  | letterLost

namespace CallOutcome

/-- The notes that the outcome calls for. -/
def notes : CallOutcome → List Note
  | .granted => [.audit ⟨"job.claim", "success"⟩]
  | .wrote status found => status.notes found
  | .letterLost => []

/-- The notes that the outcome takes back: a dead letter that cannot be stored ends
the `except` clause before the failure is noted. -/
def lost : CallOutcome → List Note
  | .letterLost => JobStatus.failed.notes true
  | _ => []

end CallOutcome

def WorkerCall.outcome : (call : WorkerCall) → call.Reply → Option CallOutcome
  | .claim _ _ _ _, .ok true => some .granted
  | .updateStatus _ status _, .ok found => some (.wrote status found)
  | .enqueue _ _, .error _ => some .letterLost
  | _, _ => none

/-- How a logbook records the calls of its client. -/
def logbookRules : RecordRules WorkerCall WorkerCall.Reply Logbook Note where
  due call reply note :=
    match call.outcome reply with
    | none => 0
    | some outcome => outcome.notes.count note - outcome.lost.count note
  enter := Logbook.enter
  shown := Logbook.shown

theorem logbookRules_counts : logbookRules.Counts := fun note logbook other =>
  logbook.shown_enter note other

section Debts

variable {ι α β : Type} (debt : Debt ι Note)

/-- A debt of more notes. -/
def owes (debt : Debt ι Note) (notes : List Note) : Debt ι Note :=
  { debt with owing := fun note => debt.owing note + notes.count note }

@[simp] theorem owes_nil : owes debt [] = debt := by
  simp [owes]

/-- The debt after a call. -/
def afterCall (call : WorkerCall) (reply : call.Reply) : Debt ι Note :=
  logbookRules.monitor.update debt (.work call) reply

theorem afterCall_of_silent {call : WorkerCall} {reply : call.Reply}
    (silent : call.outcome reply = none) : afterCall debt call reply = debt := by
  simp [afterCall, RecordRules.monitor, logbookRules, silent]

@[simp] theorem afterCall_updateStatus (jobId : String) (status : JobStatus) (now : Int)
    (reply : Except PyError Bool) :
    afterCall debt (.updateStatus jobId status now) reply =
      match reply with
      | .ok found => owes debt (status.notes found)
      | .error _ => debt := by
  cases reply with
  | error error => exact afterCall_of_silent debt rfl
  | ok found =>
      simp [afterCall, RecordRules.monitor, logbookRules, owes, WorkerCall.outcome,
        CallOutcome.notes, CallOutcome.lost]

/-- The program leaves this debt. -/
abbrev Leaves (left : α → Debt ι Note) (program : WatchedProg ι α) : Prop :=
  logbookRules.monitor.Accepts (fun reached value => reached = left value) debt program

theorem leaves_call (call : WorkerCall) :
    Leaves debt (afterCall debt call) (Prog.issue call).lift :=
  ⟨trivial, fun _ _ => rfl⟩

/-- A call that is not noted leaves the debt alone. -/
theorem leaves_only {permitted : WorkerCall → Prop} {program : WorkerProg α}
    (silent : ∀ call, permitted call → ∀ reply, call.outcome reply = none)
    (only : program.Only permitted) :
    Leaves debt (fun _ => debt) (program.lift : WatchedProg ι α) := by
  induction program with
  | ret value => rfl
  | act call resume ih =>
      refine ⟨trivial, fun reply _ => ?_⟩
      have same : logbookRules.monitor.update debt (.work call) reply = debt :=
        afterCall_of_silent debt (silent call only.1 reply)
      rw [same]
      exact ih reply (only.2 reply)

theorem Leaves.andThen {first : WatchedProg ι (Except PyError α)}
    {next : α → WatchedProg ι (Except PyError β)} {middle : Except PyError α → Debt ι Note}
    {left : Except PyError β → Debt ι Note} (before : Leaves debt middle first)
    (returns : ∀ value, Leaves (middle (.ok value)) left (next value))
    (raises : ∀ error, middle (.error error) = left (.error error)) :
    Leaves debt left (WatchedProg.andThen first next) := by
  apply Monitor.Accepts.bind_of_eq logbookRules.monitor before
  intro reply
  cases reply with
  | ok value => exact returns value
  | error error => exact raises error

/-- A note that is owed is paid by taking it. -/
theorem Leaves.note {self : ι} (own : debt.owner = self) {note : Note} {rest : List Note}
    {left : α → Debt ι Note} {next : Unit → WatchedProg ι α}
    (after : Leaves (owes debt rest) left (next ())) :
    Leaves (owes debt (note :: rest)) left
      (Prog.issue (Recording.enter self note) >>= next) := by
  refine ⟨own.symm, fun _ _ => ?_⟩
  have paid : logbookRules.monitor.update (owes debt (note :: rest)) (.enter self note) () =
      owes debt rest := by
    refine Debt.ext rfl (funext fun other => ?_)
    simp only [RecordRules.monitor, owes, List.count_cons, beq_iff_eq]
    split
    · omega
    · omega
  show Leaves (logbookRules.monitor.update _ _ _) left (next ())
  rw [paid]
  exact after

end Debts

/-- The notes for a fallback decision. -/
def FallbackDecision.notes (decision : FallbackDecision) : List Note :=
  .audit ⟨"job.transition", "failure"⟩ ::
    if decision.status = .retryWait then [.count "jobs.retry_wait"]
    else if decision.status = .failed then [.count "jobs.failed"]
    else []

section Rounds

variable {ι : Type} {self : ι} (worker : Worker) (inputs : RunInputs) (job : Job)
  {debt : Debt ι Note} (own : debt.owner = self)

theorem WorkerCall.InSelection.silent {call : WorkerCall} (inside : call.InSelection)
    (reply : call.Reply) : call.outcome reply = none := by
  cases call <;> first | rfl | cases inside

theorem WorkerCall.InRelease.silent {call : WorkerCall} (inside : call.InRelease job)
    (reply : call.Reply) : call.outcome reply = none := by
  cases call <;> first | rfl | cases inside

/-- A fallback that returns leaves its decision to be noted; one that raises leaves
nothing. -/
theorem FallbackPolicyManager.leaves_apply (manager : FallbackPolicyManager) (error : PyError)
    (notified : inputs.notifier = .ok ()) :
    Leaves debt (fun result => match result with
      | .ok decision => owes debt decision.notes
      | .error _ => debt) (manager.apply inputs job error).lift := by
  have marked := fun status => leaves_call debt
    (.updateStatus job.jobId status inputs.finishedAt)
  unfold FallbackPolicyManager.apply
  split
  · rw [WatchedProg.lift_andThen]
    refine Leaves.andThen debt (marked .retryWait) (fun _ => ?_) fun _ => by simp
    rw [afterCall_updateStatus]
    rfl
  · rw [WatchedProg.lift_andThen]
    refine Leaves.andThen debt (marked .failed) (fun found => ?_) fun _ => by simp
    rw [afterCall_updateStatus, WatchedProg.lift_andThen]
    refine Leaves.andThen _ (leaves_call _ _) (fun _ => ?_) fun failure => ?_
    · show Leaves (afterCall _ _ _) _ (.ret _)
      rw [afterCall_of_silent _ rfl]
      rfl
    · refine Debt.ext rfl (funext fun note => ?_)
      have added : (owes debt (JobStatus.failed.notes found)).owing note =
          debt.owing note + (JobStatus.failed.notes true).count note := rfl
      simp only [afterCall, RecordRules.monitor, logbookRules, WorkerCall.outcome,
        CallOutcome.notes, CallOutcome.lost, added, List.count_nil]
      omega
  · rw [WatchedProg.lift_andThen]
    refine Leaves.andThen debt (marked .failed) (fun found => ?_) fun _ => by simp
    rw [afterCall_updateStatus]
    show Leaves (owes debt (JobStatus.failed.notes found)) _ _
    unfold sendNotification
    rw [notified]
    split
    · rfl
    · split
      · refine ⟨trivial, fun _ _ => ?_⟩
        exact afterCall_of_silent _ rfl
      · rfl
  · rw [WatchedProg.lift_andThen]
    refine Leaves.andThen debt (marked .failed) (fun _ => ?_) fun _ => by simp
    rw [afterCall_updateStatus]
    rfl

include own

theorem leaves_countDecision (decision : FallbackDecision) {α : Type} (value : α) :
    Leaves (owes debt decision.notes) (fun _ => debt) (do
      emit self "job.transition" "failure"
      Worker.countDecision self decision
      return value) := by
  refine Leaves.note debt own ?_
  unfold Worker.countDecision
  split
  · refine Leaves.note debt own ?_
    exact owes_nil debt
  · split
    · refine Leaves.note debt own ?_
      exact owes_nil debt
    · exact owes_nil debt

namespace Worker

theorem leaves_invoke :
    Leaves debt (fun _ => debt) (worker.watchedInvoke self inputs job) := by
  unfold watchedInvoke
  refine Monitor.Accepts.bind_of_eq logbookRules.monitor (leaves_call debt _) fun _ => ?_
  rw [afterCall_of_silent debt rfl]
  split
  · rfl
  · split
    · refine Leaves.andThen debt (leaves_call debt _) (fun found => ?_) fun _ => by simp
      rw [afterCall_updateStatus]
      refine Leaves.note debt own (Leaves.note debt own ?_)
      exact owes_nil debt
    · rfl

theorem leaves_execute :
    Leaves debt (fun _ => debt) (worker.watchedExecute self inputs job) := by
  refine Leaves.andThen debt (leaves_call debt _) (fun found => ?_) fun _ =>
    afterCall_of_silent debt rfl
  rw [afterCall_of_silent debt rfl]
  refine Leaves.andThen debt (worker.leaves_invoke inputs job own) (fun _ => ?_) fun _ => rfl
  refine Leaves.andThen debt (leaves_call debt _) (fun found => ?_) fun _ => by simp
  rw [afterCall_updateStatus]
  refine Leaves.note debt own (Leaves.note debt own ?_)
  exact owes_nil debt

variable (notified : inputs.notifier = .ok ())

include notified

theorem leaves_recover (error : PyError) :
    Leaves debt (fun _ => debt) (worker.watchedRecover self inputs job error) := by
  unfold watchedRecover
  split
  · next manager _ =>
      refine Leaves.andThen debt (manager.leaves_apply inputs job error notified)
        (fun decision => ?_) fun _ => rfl
      exact leaves_countDecision own decision _
  · refine Leaves.andThen debt (leaves_call debt _) (fun found => ?_) fun _ => by simp
    rw [afterCall_updateStatus]
    refine Leaves.note debt own (Leaves.note debt own ?_)
    exact owes_nil debt

theorem leaves_attempt :
    Leaves debt (fun _ => debt) (worker.watchedAttempt self inputs job) := by
  refine Monitor.Accepts.bind_of_eq logbookRules.monitor
    (worker.leaves_execute inputs job own) fun result => ?_
  cases result with
  | ok processed => rfl
  | error error =>
      dsimp only
      split
      · exact worker.leaves_recover inputs job own notified error
      · rfl

theorem leaves_afterClaim (claimed : Bool) :
    Leaves (if claimed then owes debt [.audit ⟨"job.claim", "success"⟩] else debt) (fun _ => debt)
      (worker.watchedAfterClaim self inputs job claimed) := by
  have released := leaves_only debt (fun _ inside => inside.silent job)
    (worker.only_releaseJob job)
  unfold watchedAfterClaim
  cases claimed with
  | false =>
      refine Monitor.Accepts.bind_of_eq logbookRules.monitor released fun _ => ?_
      rfl
  | true =>
      refine Leaves.note debt own ?_
      rw [owes_nil]
      split
      · refine Monitor.Accepts.bind_of_eq logbookRules.monitor
          (worker.leaves_attempt inputs job own notified) fun _ => ?_
        refine Monitor.Accepts.bind_of_eq logbookRules.monitor released fun _ => ?_
        rfl
      · rfl

/-- A round leaves nothing to note. -/
theorem leaves_runOnce : Leaves debt (fun _ => debt) (worker.watchedRunOnce self inputs) := by
  have selected := leaves_only debt (fun _ inside => WorkerCall.InSelection.silent inside)
    worker.only_select
  unfold watchedRunOnce
  split
  · refine Leaves.andThen debt selected (fun jobs => ?_) fun _ => rfl
    cases jobs with
    | nil => rfl
    | cons job rest =>
        refine ⟨trivial, fun reply _ => ?_⟩
        cases reply with
        | error error => exact afterCall_of_silent debt rfl
        | ok claimed =>
            have after := worker.leaves_afterClaim inputs job own notified claimed
            cases claimed with
            | false =>
                have same : afterCall debt
                    (.claim job.jobId worker.hostId worker.workerId inputs.claimAt) (.ok false) =
                      debt := afterCall_of_silent debt rfl
                show Leaves (afterCall debt _ _) _ _
                rw [same]
                exact after
            | true =>
                have noted : afterCall debt
                    (.claim job.jobId worker.hostId worker.workerId inputs.claimAt) (.ok true) =
                      owes debt [.audit ⟨"job.claim", "success"⟩] := by
                  simp [afterCall, RecordRules.monitor, logbookRules, owes, WorkerCall.outcome,
                    CallOutcome.notes, CallOutcome.lost]
                show Leaves (afterCall debt _ _) _ _
                rw [noted]
                exact after
  · rfl

end Worker

omit own in
theorem leaves_cancel (jobId : String) (now : Int) (own : debt.owner = self) :
    Leaves debt (fun _ => debt) (JobQueue.watchedCancel self jobId now) := by
  refine Leaves.andThen debt (leaves_call debt _) (fun found => ?_) fun _ => by simp
  rw [afterCall_updateStatus]
  refine Leaves.note debt own ?_
  exact owes_nil debt

end Rounds

/-! ## Runs -/

section Runs

variable {ι σ : Type}

/-- Workers and cancelling clients, each with its own emitter and counters. -/
def watchedMachine [DecidableEq ι] (backend : QueueBackend σ) (workers : ι → Worker) :
    Machine ι ServiceOp (Recording WorkerCall ι Note) (Recording.Reply WorkerCall.Reply)
      (Except PyError Bool) (Annotated ι (Shared σ) Logbook) where
  exec := Annotated.perform Logbook.enter (Shared.exec backend)
  code client
    | .runOnce inputs => (workers client).watchedRunOnce client inputs
    | .cancel jobId now => JobQueue.watchedCancel client jobId now

/-- Run alone, an operation does and answers what it does without its emitter and its
counters. -/
theorem run_watched [DecidableEq ι] (backend : QueueBackend σ) (workers : ι → Worker)
    (client : ι) (op : ServiceOp) (state : Annotated ι (Shared σ) Logbook) :
    let watched := ((watchedMachine backend workers).code client op).run
      (watchedMachine backend workers).exec state
    (watched.1, watched.2.shared) = ((serviceMachine backend workers).code client op).run
      (serviceMachine backend workers).exec state.shared := by
  have erased : ((watchedMachine backend workers).code client op).erase =
      (serviceMachine backend workers).code client op := by
    cases op with
    | runOnce inputs => exact (workers client).erase_watchedRunOnce client inputs
    | cancel jobId now => exact JobQueue.erase_watchedCancel client jobId now
  rw [← erased]
  exact Annotated.run_erase Logbook.enter (Shared.exec backend) _ state

abbrev WatchedEvent (ι : Type) : Type :=
  Event ι ServiceOp (Recording WorkerCall ι Note) (Recording.Reply WorkerCall.Reply)
    (Except PyError Bool)

variable [DecidableEq ι]

/-- A call of the client with an outcome that meets the condition. -/
def isCallOf (client : ι) (meets : CallOutcome → Bool) : WatchedEvent ι → Bool
  | .acted actor (.work call) reply => actor = client && (call.outcome reply).any meets
  | _ => false

/-- The number of calls of a client with outcomes that meet the condition. -/
def callsOf (client : ι) (meets : CallOutcome → Bool) (history : List (WatchedEvent ι)) : Nat :=
  history.countP (isCallOf client meets)

namespace CallOutcome

def isGranted : CallOutcome → Bool
  | .granted => true
  | _ => false

/-- A status write of one of these statuses that returned. -/
def isWrite (statuses : List JobStatus) : CallOutcome → Bool
  | .wrote status _ => status ∈ statuses
  | _ => false

/-- A cancellation that returned this. -/
def isCancellation (expected : Bool) : CallOutcome → Bool
  | .wrote .cancelled found => found = expected
  | _ => false

def isLetterLost : CallOutcome → Bool
  | .letterLost => true
  | _ => false

end CallOutcome

/-- What is due for each call adds up to a difference of two counts. -/
theorem dues_eq_callsOf (client : ι) {note : Note} {called lost : CallOutcome → Bool}
    (due : ∀ outcome : CallOutcome, (outcome.notes.count note : Int) - outcome.lost.count note =
      (called outcome).toNat - (lost outcome).toNat)
    (history : List (WatchedEvent ι)) :
    logbookRules.dues client note history =
      callsOf client called history - callsOf client lost history := by
  induction history using List.reverseRecOn with
  | nil => rfl
  | append_singleton earlier event ih =>
      have counted : ∀ meets, callsOf client meets (earlier ++ [event]) =
          callsOf client meets earlier + (isCallOf client meets event).toNat := by
        intro meets
        unfold callsOf
        rw [List.countP_append, List.countP_singleton]
        cases isCallOf client meets event <;> rfl
      rw [RecordRules.dues_snoc, ih, counted called, counted lost]
      cases event with
      | acted actor command reply =>
          cases command with
          | work call =>
              simp only [RecordRules.dueOf, isCallOf, logbookRules]
              by_cases same : actor = client
              · simp only [same, ↓reduceIte, decide_true, Bool.true_and]
                cases call.outcome reply with
                | none => simp
                | some outcome =>
                    simp only [due, Option.any_some]
                    omega
              · simp [same]
          | enter owner note => simp [RecordRules.dueOf, isCallOf]
      | _ => simp [RecordRules.dueOf, isCallOf]

/-- The logbook of a client says how often each of its calls was made. -/
structure Logbook.Tells (logbook : Logbook) (client : ι) (history : List (WatchedEvent ι)) :
    Prop where
  claims : logbook.events.count ⟨"job.claim", "success"⟩ =
    callsOf client CallOutcome.isGranted history
  successes : logbook.events.count ⟨"job.transition", "success"⟩ =
    callsOf client (CallOutcome.isWrite [.succeeded]) history
  failures : logbook.events.count ⟨"job.transition", "failure"⟩ +
      callsOf client CallOutcome.isLetterLost history =
    callsOf client (CallOutcome.isWrite [.timeout, .failed, .retryWait]) history
  cancellations : ∀ found, logbook.events.count
      ⟨"job.cancel", if found then "success" else "failure"⟩ =
    callsOf client (CallOutcome.isCancellation found) history
  succeeded : logbook.metrics.get "jobs.succeeded" =
    callsOf client (CallOutcome.isWrite [.succeeded]) history
  timedOut : logbook.metrics.get "jobs.timed_out" =
    callsOf client (CallOutcome.isWrite [.timeout]) history
  retried : logbook.metrics.get "jobs.retry_wait" =
    callsOf client (CallOutcome.isWrite [.retryWait]) history
  failed : logbook.metrics.get "jobs.failed" +
      callsOf client CallOutcome.isLetterLost history =
    callsOf client (CallOutcome.isWrite [.failed]) history

theorem callsOf_never (client : ι) (history : List (WatchedEvent ι)) :
    callsOf client (fun _ => false) history = 0 := by
  refine List.countP_eq_zero.mpr ?_
  intro event _
  cases event with
  | acted actor command reply =>
      cases command with
      | work call => cases outcome : call.outcome reply <;> simp [isCallOf, outcome]
      | enter owner note => simp [isCallOf]
  | _ => simp [isCallOf]

/-- A logbook whose notes are those that its client's calls were due tells the calls. -/
theorem Logbook.tells_of_shown {logbook : Logbook} {client : ι} {history : List (WatchedEvent ι)}
    (shown : ∀ note, logbook.shown note = logbookRules.dues client note history) :
    logbook.Tells client history := by
  have counted : ∀ {note : Note} {called lost : CallOutcome → Bool},
      (∀ outcome : CallOutcome, (outcome.notes.count note : Int) - outcome.lost.count note =
        (called outcome).toNat - (lost outcome).toNat) →
      logbook.shown note = callsOf client called history - callsOf client lost history :=
    fun due => (shown _).trans (dues_eq_callsOf client due history)
  have plain : ∀ {note : Note} {called : CallOutcome → Bool},
      (∀ outcome : CallOutcome, (outcome.notes.count note : Int) - outcome.lost.count note =
        (called outcome).toNat - (false : Bool).toNat) →
      logbook.shown note = callsOf client called history := by
    intro note called due
    have difference := counted due
    rw [callsOf_never] at difference
    exact difference.trans (Int.sub_zero _)
  have claims : logbook.shown (.audit ⟨"job.claim", "success"⟩) =
      callsOf client CallOutcome.isGranted history := by
    apply plain
    intro outcome
    cases outcome with
    | wrote status found => cases status <;> cases found <;> rfl
    | _ => rfl
  have successes : logbook.shown (.audit ⟨"job.transition", "success"⟩) =
      callsOf client (CallOutcome.isWrite [.succeeded]) history := by
    apply plain
    intro outcome
    cases outcome with
    | wrote status found => cases status <;> cases found <;> rfl
    | _ => rfl
  have failures : logbook.shown (.audit ⟨"job.transition", "failure"⟩) =
      callsOf client (CallOutcome.isWrite [.timeout, .failed, .retryWait]) history -
        callsOf client CallOutcome.isLetterLost history := by
    apply counted
    intro outcome
    cases outcome with
    | wrote status found => cases status <;> cases found <;> rfl
    | _ => rfl
  have cancellations : ∀ found, logbook.shown
      (.audit ⟨"job.cancel", if found then "success" else "failure"⟩) =
        callsOf client (CallOutcome.isCancellation found) history := by
    intro found
    apply plain
    intro outcome
    cases outcome with
    | wrote status answer => cases found <;> cases status <;> cases answer <;> rfl
    | _ => cases found <;> rfl
  have counters : ∀ key status, (key, status) ∈
      [("jobs.succeeded", JobStatus.succeeded), ("jobs.timed_out", .timeout),
        ("jobs.retry_wait", .retryWait)] →
      logbook.shown (.count key) = callsOf client (CallOutcome.isWrite [status]) history := by
    intro key status listed
    simp only [List.mem_cons, Prod.mk.injEq, List.not_mem_nil, or_false] at listed
    rcases listed with ⟨rfl, rfl⟩ | ⟨rfl, rfl⟩ | ⟨rfl, rfl⟩
    all_goals
      apply plain
      intro outcome
      cases outcome with
      | wrote status found => cases status <;> cases found <;> rfl
      | _ => rfl
  have failed : logbook.shown (.count "jobs.failed") =
      callsOf client (CallOutcome.isWrite [.failed]) history -
        callsOf client CallOutcome.isLetterLost history := by
    apply counted
    intro outcome
    cases outcome with
    | wrote status found => cases status <;> cases found <;> rfl
    | _ => rfl
  simp only [Logbook.shown] at claims successes failures cancellations counters failed
  exact
    { claims := Int.ofNat_inj.mp claims
      successes := Int.ofNat_inj.mp successes
      failures := by omega
      cancellations := fun found => Int.ofNat_inj.mp (cancellations found)
      succeeded := counters _ _ (by simp)
      timedOut := counters _ _ (by simp)
      retried := counters _ _ (by simp)
      failed := by omega }

/-- **The books are right.** Workers and cancelling clients run in any order on any
backend, from any shared state, each with its own empty emitter and counters, and no
notifier raises. Whenever a client is between two operations, its audit events and
its counters are exactly the claims it was granted and the statuses it has written,
except that the failure of a job whose dead letter could not be stored is not
recorded. -/
theorem logbook_tells (backend : QueueBackend σ) (workers : ι → Worker) (shared : Shared σ)
    (schedule : List (Action ι ServiceOp))
    (notified : ∀ client inputs, .call client (.runOnce inputs) ∈ schedule →
      inputs.notifier = .ok ())
    (client : ι)
    (idle : ((watchedMachine backend workers).runFrom (.initial ⟨shared, fun _ => {}⟩)
      schedule).client client = .idle) :
    (((watchedMachine backend workers).runFrom (.initial ⟨shared, fun _ => {}⟩)
        schedule).shared.records client).Tells client
      ((watchedMachine backend workers).runFrom (.initial ⟨shared, fun _ => {}⟩)
        schedule).history := by
  apply Logbook.tells_of_shown
  intro note
  have told := RecordRules.shown_of_idle logbookRules_counts (Shared.exec backend)
    (watchedMachine backend workers) rfl
    (fun op => ∀ inputs, op = .runOnce inputs → inputs.notifier = .ok ()) ?_
    ⟨shared, fun _ => {}⟩ schedule ?_ client idle note
  · have empty : logbookRules.shown ({} : Logbook) note = 0 := by cases note <;> rfl
    rw [empty, Int.zero_add] at told
    exact told
  · intro other op callable
    have settled : ∀ {program : WatchedProg ι (Except PyError Bool)},
        Leaves (.settled other) (fun _ => .settled other) program →
          logbookRules.Honest other program := by
      intro program leaves
      refine Monitor.Accepts.mono logbookRules.monitor ?_ leaves
      intro reached value same key
      rw [same]
      rfl
    cases op with
    | runOnce inputs =>
        exact settled ((workers other).leaves_runOnce inputs rfl (callable inputs rfl))
    | cancel jobId now => exact settled (leaves_cancel jobId now rfl)
  · intro other op member inputs same
    subst same
    exact notified other inputs member

end Runs

section Sample

/-- The round of one worker, whose handler raises, around a look at the queue by the
other. -/
def failingRound : List (Action Bool ServiceOp) :=
  .call true (.runOnce { handler := .error (.valueError "broken") }) :: .act true ::
    .call false (.runOnce {}) :: .act false :: (List.replicate 7 (.act true) ++ [.ret true])

/-- The failure is on the books of the worker that wrote it. -/
theorem failing_round_told :
    (((watchedMachine MemoryQueueBackend.contract taskWorkers).runFrom
        (.initial ⟨oneTask, fun _ => {}⟩) failingRound).shared.records true).metrics.get
      "jobs.failed" = 1 := by
  have quiet : ∀ client inputs, .call client (.runOnce inputs) ∈ failingRound →
      inputs.notifier = .ok () := by
    intro client inputs member
    simp only [failingRound, List.cons_append, List.replicate, List.nil_append, List.mem_cons,
      Action.call.injEq, ServiceOp.runOnce.injEq, reduceCtorEq, false_or, or_false,
      List.not_mem_nil] at member
    rcases member with ⟨_, rfl⟩ | ⟨_, rfl⟩
    · rfl
    · rfl
  have told := logbook_tells MemoryQueueBackend.contract taskWorkers oneTask failingRound
    quiet true rfl
  have failed := told.failed
  have written : callsOf true (CallOutcome.isWrite [.failed])
      ((watchedMachine MemoryQueueBackend.contract taskWorkers).runFrom
        (.initial ⟨oneTask, fun _ => {}⟩) failingRound).history = 1 := rfl
  have unlost : callsOf true CallOutcome.isLetterLost
      ((watchedMachine MemoryQueueBackend.contract taskWorkers).runFrom
        (.initial ⟨oneTask, fun _ => {}⟩) failingRound).history = 0 := rfl
  rw [written, unlost] at failed
  omega

end Sample

end CloudDogJobs
