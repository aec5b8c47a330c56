import CloudDogJobs.Admin.Service
import CloudDogJobs.Extensions.Fallback
import CloudDogJobs.Fanout.Manager
import CloudDogJobs.Foundation.Sequence
import CloudDogJobs.Queue.Submission
import CloudDogJobs.Security.Payload

/-!
# The ways into the store

Six producers put jobs into a backend. Those that go through `JobQueue.submit`
check the payload and register the dependencies; a clone takes its payload from a
job that is already there and has no dependencies. `AdminService.submit_job`
hands an unchecked request to the backend, and a dead letter wraps a checked
payload together with the text of an exception, which nobody checks.
-/

namespace CloudDogJobs

open Foundation WorkerProg

variable {σ : Type}

/-- What the admission checks are about. -/
structure Contents where
  payload : Dict String Value
  dependsOn : List String

def Job.contents (job : Job) : Contents := ⟨job.payload, job.dependsOn⟩

/-- What the producers rely on, for a backend whose stored jobs have these
contents: a job is stored as it was given, and only under its own identifier. -/
structure QueueBackend.Keeps (backend : QueueBackend σ)
    (contents : σ → String → Option Contents) : Prop where
  get : ∀ jobId store job, backend.get jobId store = .ok (some job) →
    contents store jobId = some job.contents
  enqueue_self : ∀ job now store, contents store job.jobId = none →
    contents (backend.enqueue job now store).2 job.jobId = some job.contents
  enqueue_other : ∀ job now store other, other ≠ job.jobId →
    contents (backend.enqueue job now store).2 other = contents store other
  updateStatus_returns : ∀ jobId (status : JobStatus) now store, ∃ found,
    (backend.updateStatus jobId status.value now store).1 = .ok found
  updateStatus : ∀ jobId (status : JobStatus) now store other,
    contents (backend.updateStatus jobId status.value now store).2 other = contents store other

namespace MemoryQueueBackend

def contents (backend : MemoryQueueBackend) (jobId : String) : Option Contents :=
  (backend.get jobId).map Job.contents

theorem contents_updateStatus (backend : MemoryQueueBackend) (jobId status : String) (now : Int)
    (other : String) : (backend.updateStatus jobId status now).2.contents other =
      backend.contents other := by
  unfold MemoryQueueBackend.updateStatus
  split
  · rfl
  · split
    · rfl
    · unfold contents
      rw [get_mutate]
      split
      · next same =>
          rw [same, Option.map_map]
          rfl
      · rfl

theorem keeps : contract.Keeps contents where
  get jobId backend job found := congrArg (Option.map Job.contents) (Except.ok.inj found)
  enqueue_self job now backend absent :=
    congrArg (Option.map Job.contents) ((backend.get_enqueue job job.jobId).trans (if_pos rfl))
  enqueue_other job now backend other different :=
    congrArg (Option.map Job.contents) ((backend.get_enqueue job other).trans (if_neg different))
  updateStatus_returns jobId status now backend := ⟨_, backend.updateStatus_fst jobId status now⟩
  updateStatus jobId status now backend other := backend.contents_updateStatus jobId _ now other

end MemoryQueueBackend

/-- A queue with the payload checks and the tracker. -/
def JobQueue.checking (builtins : Builtins) (maxBytes : Int) : JobQueue where
  admission := payloadChecks builtins maxBytes
  dependencyTracker := true

/-- Every stored payload passes the checks of `submit`, and the dependencies of
every stored job are registered. -/
structure Admitted (builtins : Builtins) (maxBytes : Int)
    (contents : σ → String → Option Contents) (shared : Shared σ) : Prop where
  payload : ∀ jobId held, contents shared.store jobId = some held →
    PayloadAdmissible builtins maxBytes held.payload
  registered : ∀ jobId held, contents shared.store jobId = some held → held.dependsOn ≠ [] →
    shared.tracker.getDependencies jobId = held.dependsOn

/-- No job and no edges under this identifier, as for a new `uuid4`. -/
structure Shared.Unused (contents : σ → String → Option Contents) (shared : Shared σ)
    (jobId : String) : Prop where
  stored : contents shared.store jobId = none
  tracked : shared.tracker.edges.get? jobId = none

/-! ## Storing one job -/

section Storing

variable {builtins : Builtins} {maxBytes : Int} {backend : QueueBackend σ}
  {contents : σ → String → Option Contents} {shared : Shared σ}

/-- A change that the contents do not show. -/
theorem Admitted.of_contents {store : σ} (admitted : Admitted builtins maxBytes contents shared)
    (same : ∀ jobId, contents store jobId = contents shared.store jobId) :
    Admitted builtins maxBytes contents { shared with store := store } where
  payload jobId held shown := admitted.payload jobId held ((same jobId).symm.trans shown)
  registered jobId held shown := admitted.registered jobId held ((same jobId).symm.trans shown)

/-- The edges of an unused identifier may change. -/
theorem Admitted.track (admitted : Admitted builtins maxBytes contents shared) {jobId : String}
    (unused : shared.Unused contents jobId) (dependsOn : List String) :
    Admitted builtins maxBytes contents
      { shared with tracker := ⟨shared.tracker.edges.set jobId dependsOn⟩ } where
  payload := admitted.payload
  registered := by
    intro other held shown waits
    have different : other ≠ jobId := by
      rintro rfl
      cases unused.stored.symm.trans shown
    unfold DependencyTracker.getDependencies
    rw [Dict.getD, Dict.get?_set_of_ne _ _ different]
    exact admitted.registered other held shown waits

/-- What a new job needs to be admitted. -/
theorem admitted_enqueue_iff (keeps : backend.Keeps contents)
    (admitted : Admitted builtins maxBytes contents shared) (job : Job) (now : Int)
    (absent : contents shared.store job.jobId = none) :
    Admitted builtins maxBytes contents
        { shared with store := (backend.enqueue job now shared.store).2 } ↔
      PayloadAdmissible builtins maxBytes job.payload ∧
        (job.dependsOn ≠ [] → shared.tracker.getDependencies job.jobId = job.dependsOn) := by
  have stored := keeps.enqueue_self job now shared.store absent
  constructor
  · intro after
    exact ⟨after.payload job.jobId job.contents stored,
      after.registered job.jobId job.contents stored⟩
  · rintro ⟨checked, registered⟩
    constructor
    · intro other held shown
      by_cases same : other = job.jobId
      · subst same
        cases stored.symm.trans shown
        exact checked
      · exact admitted.payload other held
          ((keeps.enqueue_other job now shared.store other same).symm.trans shown)
    · intro other held shown
      by_cases same : other = job.jobId
      · subst same
        cases stored.symm.trans shown
        exact registered
      · exact admitted.registered other held
          ((keeps.enqueue_other job now shared.store other same).symm.trans shown)

theorem Admitted.enqueue_plain (admitted : Admitted builtins maxBytes contents shared)
    (keeps : backend.Keeps contents) {job : Job} (now : Int)
    (absent : contents shared.store job.jobId = none)
    (checked : PayloadAdmissible builtins maxBytes job.payload) (plain : job.dependsOn = []) :
    Admitted builtins maxBytes contents
      { shared with store := (backend.enqueue job now shared.store).2 } :=
  (admitted_enqueue_iff keeps admitted job now absent).mpr
    ⟨checked, fun waits => absurd plain waits⟩

/-- `submit` admits what it stores. -/
theorem Admitted.submit (keeps : backend.Keeps contents) (submission : Submission)
    {state : QueueState σ} (admitted : Admitted builtins maxBytes contents state.shared)
    (unused : state.shared.Unused contents submission.jobId) :
    Admitted builtins maxBytes contents
      ((JobQueue.checking builtins maxBytes).serve backend state submission).2.shared := by
  rcases (JobQueue.checking builtins maxBytes).serve_cases backend submission state with
    ⟨error, _, served⟩ | ⟨_, _, _, _, _, _, _, served⟩ | ⟨manager, _, accepted, outcome⟩
  · rw [served]
    exact admitted
  · rw [served]
    exact admitted
  · rcases outcome with ⟨_, served⟩ | ⟨_, served⟩
    · rw [served]
      exact admitted
    · rw [served]
      have checked := (payloadChecks_iff builtins maxBytes _).mp accepted
      by_cases registers : (JobQueue.checking builtins maxBytes).Registers submission
      · have tracked := admitted.track unused submission.request.dependsOn
        rw [JobQueue.tracked, if_pos registers]
        refine (admitted_enqueue_iff keeps tracked submission.job submission.now
          unused.stored).mpr ⟨checked, fun _ => ?_⟩
        exact (Dict.getD_set ..).trans (if_pos rfl)
      · have plain : submission.request.dependsOn = [] := by
          by_contra waits
          exact registers ⟨rfl, waits⟩
        rw [JobQueue.tracked, if_neg registers]
        exact admitted.enqueue_plain keeps submission.now unused.stored checked plain

/-- A submission uses up its own identifier only. -/
theorem Shared.Unused.submit (keeps : backend.Keeps contents) (submission : Submission)
    {state : QueueState σ} {jobId : String} (unused : state.shared.Unused contents jobId)
    (other : jobId ≠ submission.jobId) :
    ((JobQueue.checking builtins maxBytes).serve backend state submission).2.shared.Unused
      contents jobId := by
  rcases (JobQueue.checking builtins maxBytes).serve_cases backend submission state with
    ⟨error, _, served⟩ | ⟨_, _, _, _, _, _, _, served⟩ | ⟨manager, _, accepted, outcome⟩
  · rw [served]
    exact unused
  · rw [served]
    exact unused
  · rcases outcome with ⟨_, served⟩ | ⟨_, served⟩
    · rw [served]
      exact unused
    · rw [served]
      constructor
      · exact (keeps.enqueue_other submission.job submission.now state.shared.store jobId
          other).trans unused.stored
      · show (JobQueue.tracked _ submission state.shared.tracker).edges.get? jobId = none
        unfold JobQueue.tracked
        split
        · exact (Dict.get?_set_of_ne _ _ other).trans unused.tracked
        · exact unused.tracked

/-- The children of a fan-out go through `submit`. -/
theorem Admitted.submitChildren (keeps : backend.Keeps contents) (reading : Builtins)
    (parentJobId : String) (children : List FanOutChild) {state : QueueState σ}
    (admitted : Admitted builtins maxBytes contents state.shared)
    (unused : ∀ child ∈ children, state.shared.Unused contents child.jobId)
    (distinct : (children.map FanOutChild.jobId).Nodup) :
    Admitted builtins maxBytes contents (FanOutManager.submitChildren reading
      (JobQueue.checking builtins maxBytes) backend parentJobId children state).2.2.shared := by
  induction children generalizing state with
  | nil => exact admitted
  | cons child rest ih =>
      unfold FanOutManager.submitChildren
      cases child.spec.read reading with
      | error error => exact admitted
      | ok spec =>
          obtain ⟨first, others⟩ := List.nodup_cons.mp distinct
          let submission : Submission := ⟨spec.request parentJobId, child.jobId, child.now⟩
          have served := admitted.submit keeps submission (unused child List.mem_cons_self)
          have left : ∀ later ∈ rest,
              ((JobQueue.checking builtins maxBytes).serve backend state submission).2.shared.Unused
                contents later.jobId := by
            intro later member
            apply (unused later (List.mem_cons_of_mem _ member)).submit keeps
            rintro same
            exact first (List.mem_map.mpr ⟨later, member, same⟩)
          have ended := ih served left others
          unfold JobQueue.serve at served ended
          dsimp only
          split
          · next raised =>
              rw [raised] at served
              exact served
          · next returned =>
              rw [returned] at ended
              exact ended

end Storing

theorem FallbackPolicyManager.run_sendNotification_snd (backend : QueueBackend σ)
    (policy : FallbackPolicy) (inputs : RunInputs) (job : Job) (error : PyError)
    (shared : Shared σ) :
    ((sendNotification policy inputs job error).run (Shared.exec backend) shared).2 = shared := by
  unfold sendNotification
  split
  · rfl
  · split <;> rfl

/-! ## Runs of the producers -/

/-- A call that may put jobs into the store, with its new identifiers and clock
readings. A fallback is applied to a stored job. -/
inductive Entry
  | submit (submission : Submission)
  | createFanOut (parentJobId : String) (children : List FanOutChild)
  | submitJob (request : JobRequest) (newId : String) (now : Int)
  | resubmitJob (jobId newId : String) (now : Int)
  | reassignQueue (jobId queueName newId : String) (now : Int)
  | fallback (manager : FallbackPolicyManager) (jobId : String) (error : PyError)
      (inputs : RunInputs)

/-- Apply the fallback policies to a stored job. -/
def FallbackPolicyManager.applyStored (manager : FallbackPolicyManager) (backend : QueueBackend σ)
    (jobId : String) (error : PyError) (inputs : RunInputs) (shared : Shared σ) : Shared σ :=
  match backend.get jobId shared.store with
  | .ok (some job) => ((manager.apply inputs job error).run (Shared.exec backend) shared).2
  | _ => shared

/-- The objects behind the producers. -/
structure EntryState (σ : Type) where
  queue : QueueState σ
  fanOut : FanOutManager

namespace EntryState

/-- The store after an operation on it. -/
def withStore (state : EntryState σ) (store : σ) : EntryState σ :=
  { state with queue := { state.queue with shared := { state.queue.shared with store := store } } }

section Entries

variable (builtins : Builtins) (maxBytes : Int) (admin : AdminService) (backend : QueueBackend σ)

/-- The effect of a call, whether it returns or raises. -/
def enter (state : EntryState σ) : Entry → EntryState σ
  | .submit submission =>
      { state with
        queue := ((JobQueue.checking builtins maxBytes).serve backend state.queue submission).2 }
  | .createFanOut parentJobId children =>
      let (_, fanOut, queue) := state.fanOut.createFanOut builtins
        (JobQueue.checking builtins maxBytes) backend parentJobId children state.queue
      ⟨queue, fanOut⟩
  | .submitJob request newId now =>
      state.withStore (admin.submitJob backend request newId now state.queue.shared.store).2
  | .resubmitJob jobId newId now =>
      state.withStore (admin.resubmitJob backend jobId newId now state.queue.shared.store).2
  | .reassignQueue jobId queueName newId now =>
      state.withStore
        (admin.reassignQueue backend jobId queueName newId now state.queue.shared.store).2
  | .fallback manager jobId error inputs =>
      { state with queue := { state.queue with
        shared := manager.applyStored backend jobId error inputs state.queue.shared } }

variable (contents : σ → String → Option Contents)

/-- The identifiers of the call are new. -/
def NewIds (state : EntryState σ) : Entry → Prop
  | .submit submission => state.queue.shared.Unused contents submission.jobId
  | .createFanOut _ children => (children.map FanOutChild.jobId).Nodup ∧
      ∀ child ∈ children, state.queue.shared.Unused contents child.jobId
  | .submitJob _ newId _ => state.queue.shared.Unused contents newId
  | .resubmitJob _ newId _ => state.queue.shared.Unused contents newId
  | .reassignQueue _ _ newId _ => state.queue.shared.Unused contents newId
  | .fallback _ _ _ inputs => state.queue.shared.Unused contents inputs.deadLetterId

/-- The two producers that check nothing get what needs no check: an admin
submission that is let through has an admissible payload and no dependencies, and
a dead letter has an admissible payload. -/
def Harmless (state : EntryState σ) : Entry → Prop
  | .submitJob request _ _ => admin.permits "jobs.submit" = true →
      PayloadAdmissible builtins maxBytes request.payload ∧ request.dependsOn = []
  | .fallback manager jobId error inputs => ∀ job,
      backend.get jobId state.queue.shared.store = .ok (some job) →
      (manager.policyFor job.jobType).action = .deadLetter →
        PayloadAdmissible builtins maxBytes (FallbackPolicyManager.deadLetterJob
          (manager.policyFor job.jobType).deadLetterQueue job error inputs).payload
  | _ => True

end Entries

section Steps

variable {builtins : Builtins} {maxBytes : Int} {admin : AdminService} {backend : QueueBackend σ}
  {contents : σ → String → Option Contents} (keeps : backend.Keeps contents)
  {state : EntryState σ} (admitted : Admitted builtins maxBytes contents state.queue.shared)

include admitted

/-- An operation behind a permission admits what it stores, if it is let through. -/
theorem admitted_guarded_iff {α : Type} (permission : String)
    (operation : σ → Except PyError α × σ) :
    Admitted builtins maxBytes contents (state.withStore (admin.guarded permission operation
        state.queue.shared.store).2).queue.shared ↔
      (admin.permits permission = true → Admitted builtins maxBytes contents
        (state.withStore (operation state.queue.shared.store).2).queue.shared) := by
  unfold AdminService.guarded
  split
  · next granted => exact ⟨fun after _ => after, fun after => after granted⟩
  · next denied => exact ⟨fun _ granted => absurd granted denied, fun _ => admitted⟩

include keeps

theorem admitted_submitJob_iff {request : JobRequest} {newId : String} {now : Int}
    (unused : state.queue.shared.Unused contents newId) :
    Admitted builtins maxBytes contents (state.enter builtins maxBytes admin backend
        (.submitJob request newId now)).queue.shared ↔
      (admin.permits "jobs.submit" = true →
        PayloadAdmissible builtins maxBytes request.payload ∧ request.dependsOn = []) := by
  have untracked : state.queue.shared.tracker.getDependencies newId = [] := by
    unfold DependencyTracker.getDependencies
    rw [Dict.getD, unused.tracked]
    rfl
  refine (admitted_guarded_iff admitted "jobs.submit" _).trans (imp_congr_right fun _ => ?_)
  refine (admitted_enqueue_iff keeps admitted (.fromRequest request newId now) now
    unused.stored).trans (and_congr_right fun _ => ?_)
  constructor
  · intro registered
    by_contra waits
    exact waits ((registered waits).symm.trans untracked)
  · intro plain waits
    exact absurd plain waits

/-- A clone has an admissible payload, because its original has. -/
theorem admitted_clone (queueName : Job → String) {jobId newId : String} {now : Int}
    (unused : state.queue.shared.Unused contents newId) :
    Admitted builtins maxBytes contents (state.withStore (AdminService.clone backend queueName
      jobId newId now state.queue.shared.store).2).queue.shared := by
  unfold AdminService.clone
  split
  · exact admitted
  · exact admitted
  · next job found =>
      have shown := keeps.get jobId state.queue.shared.store job found
      exact admitted.enqueue_plain keeps now unused.stored (admitted.payload jobId _ shown) rfl

/-- A fallback writes statuses, and stores at most a dead letter. -/
theorem admitted_apply_iff {manager : FallbackPolicyManager} {job : Job} {error : PyError}
    {inputs : RunInputs} (unused : state.queue.shared.Unused contents inputs.deadLetterId) :
    Admitted builtins maxBytes contents ((manager.apply inputs job error).run
        (Shared.exec backend) state.queue.shared).2 ↔
      ((manager.policyFor job.jobType).action = .deadLetter →
        PayloadAdmissible builtins maxBytes (FallbackPolicyManager.deadLetterJob
          (manager.policyFor job.jobType).deadLetterQueue job error inputs).payload) := by
  have marked : ∀ status, ∃ found, (FallbackPolicyManager.mark inputs job status).run
      (Shared.exec backend) state.queue.shared = (.ok found, { state.queue.shared with
        store := (backend.updateStatus job.jobId status.value inputs.finishedAt
          state.queue.shared.store).2 }) := by
    intro status
    obtain ⟨found, returned⟩ := keeps.updateStatus_returns job.jobId status inputs.finishedAt
      state.queue.shared.store
    exact ⟨found, Prod.ext returned rfl⟩
  have kept : ∀ status : JobStatus, Admitted builtins maxBytes contents
      { state.queue.shared with store := (backend.updateStatus job.jobId status.value
        inputs.finishedAt state.queue.shared.store).2 } :=
    fun status => admitted.of_contents (keeps.updateStatus job.jobId status _ _)
  unfold FallbackPolicyManager.apply
  split
  · next action =>
      obtain ⟨found, ended⟩ := marked .retryWait
      rw [run_andThen_ok backend _ ended]
      refine iff_of_true (kept .retryWait) fun lettered => ?_
      cases action.symm.trans lettered
  · next action =>
      obtain ⟨found, ended⟩ := marked .failed
      have absent := (keeps.updateStatus job.jobId .failed inputs.finishedAt
        state.queue.shared.store inputs.deadLetterId).trans unused.stored
      rw [run_andThen_ok backend _ ended, run_andThen_return_snd]
      refine (admitted_enqueue_iff keeps (kept .failed) (FallbackPolicyManager.deadLetterJob
        (manager.policyFor job.jobType).deadLetterQueue job error inputs) inputs.deadLetterAt
        absent).trans ?_
      exact ⟨fun after _ => after.1, fun checked => ⟨checked action, fun waits => absurd rfl waits⟩⟩
  · next action =>
      obtain ⟨found, ended⟩ := marked .failed
      rw [run_andThen_ok backend _ ended, run_andThen_return_snd,
        FallbackPolicyManager.run_sendNotification_snd]
      refine iff_of_true (kept .failed) fun lettered => ?_
      cases action.symm.trans lettered
  · next action =>
      obtain ⟨found, ended⟩ := marked .failed
      rw [run_andThen_ok backend _ ended]
      refine iff_of_true (kept .failed) fun lettered => ?_
      cases action.symm.trans lettered

/-- The step lemma: a call keeps the store admitted exactly when it is harmless. -/
theorem admitted_enter_iff (entry : Entry) (new : state.NewIds contents entry) :
    Admitted builtins maxBytes contents
        (state.enter builtins maxBytes admin backend entry).queue.shared ↔
      state.Harmless builtins maxBytes admin backend entry := by
  cases entry with
  | submit submission => exact iff_of_true (admitted.submit keeps submission new) trivial
  | createFanOut parentJobId children =>
      refine iff_of_true ?_ trivial
      show Admitted builtins maxBytes contents (state.fanOut.createFanOut builtins
        (JobQueue.checking builtins maxBytes) backend parentJobId children state.queue).2.2.shared
      rw [FanOutManager.createFanOut_queue]
      exact admitted.submitChildren keeps builtins parentJobId children new.2 new.1
  | submitJob request newId now => exact admitted_submitJob_iff keeps admitted new
  | resubmitJob jobId newId now =>
      refine iff_of_true ?_ trivial
      exact (admitted_guarded_iff admitted "jobs.resubmit" _).mpr
        fun _ => admitted_clone keeps admitted _ new
  | reassignQueue jobId queueName newId now =>
      refine iff_of_true ?_ trivial
      exact (admitted_guarded_iff admitted "jobs.reassign" _).mpr
        fun _ => admitted_clone keeps admitted _ new
  | fallback manager jobId error inputs =>
      show Admitted builtins maxBytes contents
        (manager.applyStored backend jobId error inputs state.queue.shared) ↔ _
      unfold FallbackPolicyManager.applyStored Harmless
      split
      · next job found =>
          refine (admitted_apply_iff keeps admitted new).trans
            ⟨?_, fun checked => checked job found⟩
          intro checked other same
          obtain rfl : job = other := Option.some.inj (Except.ok.inj (found.symm.trans same))
          exact checked
      · next missing =>
          refine iff_of_true admitted ?_
          intro job found
          exact absurd found (missing job)

end Steps

/-- **The ways into the store.** With the payload checks and the tracker on the
queue, and new identifiers for new jobs, a run of the producers keeps every stored
payload admissible and every dependency registered exactly when its admin
submissions bring admissible payloads without dependencies and its dead letters
have admissible payloads. The other four producers need no condition. -/
theorem entries_admitted_iff (builtins : Builtins) (maxBytes : Int) (admin : AdminService)
    (backend : QueueBackend σ) (contents : σ → String → Option Contents)
    (keeps : backend.Keeps contents) (start : EntryState σ)
    (admitted : Admitted builtins maxBytes contents start.queue.shared) (entries : List Entry)
    (new : Guarded (enter builtins maxBytes admin backend) (NewIds contents) start entries) :
    Throughout (enter builtins maxBytes admin backend)
        (fun state => Admitted builtins maxBytes contents state.queue.shared) start entries ↔
      Guarded (enter builtins maxBytes admin backend)
        (Harmless builtins maxBytes admin backend) start entries := by
  refine throughout_iff_guarded_of_guarded ?_ ?_ new
  · intro state entry new admitted
    exact admitted_enter_iff keeps admitted entry new
  · exact admitted

/-- An empty store behind the producers. -/
def sampleEntryStart : EntryState MemoryQueueBackend := ⟨⟨.fresh .empty, {}⟩, ⟨∅⟩⟩

theorem sampleEntryStart_admitted :
    Admitted plainBuiltins 16384 MemoryQueueBackend.contents sampleEntryStart.queue.shared where
  payload jobId held shown := by cases shown
  registered jobId held shown := by cases shown

/-- An admin submission, a clone of it, its dead letter, and a submission. -/
def harmlessEntries : List Entry :=
  [.submitJob { jobType := "task", payload := Dict.empty.set "page" (.int 3) } "first" 0,
    .resubmitJob "first" "second" 1,
    .fallback ⟨Dict.empty.set "task" { action := .deadLetter }⟩ "first" (.raised "boom")
      { deadLetterId := "letter" },
    .submit ⟨{ jobType := "task", dependsOn := ["first"] }, "third", 2⟩]

theorem harmless_entries_admitted :
    Throughout (enter plainBuiltins 16384 ⟨none⟩ MemoryQueueBackend.contract)
      (fun state => Admitted plainBuiltins 16384 MemoryQueueBackend.contents state.queue.shared)
      sampleEntryStart harmlessEntries := by
  refine (entries_admitted_iff plainBuiltins 16384 ⟨none⟩ MemoryQueueBackend.contract
    MemoryQueueBackend.contents MemoryQueueBackend.keeps sampleEntryStart
    sampleEntryStart_admitted harmlessEntries ?_).mpr ?_
  · exact ⟨⟨rfl, rfl⟩, ⟨rfl, rfl⟩, ⟨rfl, rfl⟩, ⟨rfl, rfl⟩, trivial⟩
  · refine ⟨fun _ => ⟨⟨by decide +kernel, by decide +kernel⟩, rfl⟩, trivial, ?_, trivial, trivial⟩
    intro job found _
    cases found
    exact ⟨by decide +kernel, by decide +kernel⟩

/-- A request whose payload names a password. -/
def passwordRequest : JobRequest where
  jobType := "task"
  payload := Dict.empty.set "password" (.str "hunter2")

/-- An admin submission stores a payload that `submit` refuses. -/
theorem admin_submission_stores_secret :
    ¬ ∀ (entries : List Entry),
      Guarded (enter plainBuiltins 16384 ⟨none⟩ MemoryQueueBackend.contract)
        (NewIds MemoryQueueBackend.contents) sampleEntryStart entries →
      Throughout (enter plainBuiltins 16384 ⟨none⟩ MemoryQueueBackend.contract)
        (fun state => Admitted plainBuiltins 16384 MemoryQueueBackend.contents state.queue.shared)
        sampleEntryStart entries := by
  intro always
  have run := always [.submitJob passwordRequest "first" 0] ⟨⟨rfl, rfl⟩, trivial⟩
  have free := (run.2.payload "first" _ rfl).free
  revert free
  decide +kernel

end EntryState

end CloudDogJobs
