import CloudDogJobs.Backend.WaitingLine
import CloudDogJobs.Foundation.Sequence
import CloudDogJobs.Mcp.JobTools
import CloudDogJobs.Queue.Submission
import CloudDogJobs.Security.Payload

/-!
# What the tools show

A register of the jobs in the order in which they came: no timestamps, no claims, no
keys. The tools over the memory backend answer as the register does, whatever calls of
workers come between them, as long as jobs come under new identifiers and the clock
does not go back.
-/

namespace CloudDogJobs

open Foundation FanOutSpec

/-- What the tools show of a job. -/
structure Posting where
  jobId : String
  jobType : String
  queueName : String
  status : JobStatus
  priority : Int
  payload : Dict String Value

def Job.posting (job : Job) : Posting :=
  ⟨job.jobId, job.jobType, job.queueName, job.status, job.priority, job.payload⟩

namespace Posting

def statusResponse (posting : Posting) : Value :=
  .dict [("job_id", .str posting.jobId), ("status", .str posting.status.value),
    ("job_type", .str posting.jobType), ("queue_name", .str posting.queueName)]

def listItem (posting : Posting) : Value :=
  .dict [("job_id", .str posting.jobId), ("job_type", .str posting.jobType),
    ("status", .str posting.status.value), ("queue_name", .str posting.queueName),
    ("priority", .int posting.priority)]

def resultResponse (posting : Posting) : Value :=
  .dict [("status", .str posting.status.value), ("job_id", .str posting.jobId),
    ("payload", .ofDict posting.payload)]

/-- The higher priority comes first. -/
def Before (first second : Posting) : Prop := second.priority ≤ first.priority

instance : DecidableRel Before := fun _ _ => inferInstanceAs (Decidable (_ ≤ _))

/-- Queued, and of the type that is asked for. -/
def waits (jobType : Option String) (posting : Posting) : Bool :=
  posting.status = .queued &&
    match jobType with
    | none => true
    | some wanted => posting.jobType = wanted

end Posting

/-- The jobs in the order in which they came. -/
abbrev Register : Type := List Posting

namespace Register

variable (register : Register)

def find (jobId : String) : Option Posting := register.find? fun posting => posting.jobId = jobId

/-- Change the posting of a job. -/
def change (jobId : String) (update : Posting → Posting) : Register :=
  register.map fun posting => if posting.jobId = jobId then update posting else posting

/-- The queued jobs by priority, those of one priority in the order in which they
came. -/
def waiting (jobType : Option String) : List Posting :=
  (register.filter (Posting.waits jobType)).insertionSort Posting.Before

section Calls

variable (queue : JobQueue) (builtins : Builtins)

/-- A job that passes the checks of its payload is put at the end. -/
def submit (request : JobRequest) (jobId : String) : Except PyError String × Register :=
  match queue.admission request.payload with
  | .error error => (.error error, register)
  | .ok () =>
      (.ok jobId, register ++ [⟨jobId, request.jobType, request.queueName, .queued,
        request.priority, request.payload⟩])

def listed (limit : Int) : Option Value → List Posting
  | none => slice limit (register.waiting none)
  | some .none => slice limit (register.waiting none)
  | some (.str jobType) => slice limit (register.waiting (some jobType))
  | some _ => []

/-- The response of a call, and the register after it. -/
def callTool (register : Register) : ToolCall → Except PyError Value × Register
  | .create arguments jobId _ =>
      match createRequest builtins arguments with
      | .error error => (answering "invalid_request" (.error error), register)
      | .ok request =>
          let (submitted, next) := register.submit queue request jobId
          (answering "invalid_request" (submitted.map fun jobId =>
            .dict [("job_id", .str jobId)]), next)
  | .status arguments =>
      (answering "internal_error" do
        let jobId ← requiredArgument arguments "job_id"
        return match register.find (builtins.str jobId) with
          | none => mcpError "job not found" "not_found"
          | some posting => posting.statusResponse, register)
  | .cancel arguments _ =>
      match requiredArgument arguments "job_id" with
      | .error error => (answering "internal_error" (.error error), register)
      | .ok value =>
          let jobId := builtins.str value
          (.ok (.dict [("job_id", .str jobId),
              ("cancelled", .bool (register.find jobId).isSome)]),
            register.change jobId fun posting => { posting with status := .cancelled })
  | .list arguments =>
      (answering "internal_error" do
        let limit ← builtins.int (getOr arguments "limit" (.int 50))
        return .dict [("items", .list ((register.listed limit
          (arguments.get? "job_type")).map Posting.listItem))], register)
  | .submitAsync toolName arguments jobId _ =>
      let (submitted, next) :=
        register.submit queue { jobType := toolName, payload := arguments } jobId
      (submitted.map .str, next)
  | .getResult jobId =>
      (.ok (match register.find jobId with
        | none => .dict [("status", .str "not_found")]
        | some posting => posting.resultResponse), register)

/-- The register after a call of a worker or of an administrator. -/
def work (register : Register) : WorkerCall → Register
  | .claim jobId _ _ _ => register.change jobId fun posting =>
      if posting.status = .queued then { posting with status := .running } else posting
  | .updateStatus jobId status _ =>
      register.change jobId fun posting => { posting with status := status }
  | .enqueue job _ => register ++ [job.posting]
  | _ => register

end Calls

end Register

/-- A step of a session: a tool is called, or a worker makes a call. -/
inductive SessionStep
  | tool (call : ToolCall)
  | worker (call : WorkerCall)

/-- The identifier and the time of a job. -/
abbrev Stamp : Type := String × Int

def Job.stamp (job : Job) : Stamp := (job.jobId, job.createdAt)

/-- The job that a step may bring. -/
def SessionStep.brings : SessionStep → List Stamp
  | .tool (.create _ jobId now) => [(jobId, now)]
  | .tool (.submitAsync _ _ jobId now) => [(jobId, now)]
  | .worker (.enqueue job _) => [job.stamp]
  | _ => []

/-- A new job has a new identifier and is not older than those before it. -/
def Timely (known : List Stamp) (step : SessionStep) : Prop :=
  ∀ stamp ∈ step.brings, ∀ earlier ∈ known, stamp.1 ≠ earlier.1 ∧ earlier.2 ≤ stamp.2

instance (known : List Stamp) (step : SessionStep) : Decidable (Timely known step) :=
  inferInstanceAs (Decidable (∀ _ ∈ _, ∀ _ ∈ _, _ ∧ _))

section Session

variable (queue : JobQueue) (builtins : Builtins)

/-- One step on the queue; a worker's call gets no response. -/
def JobQueue.sessionStep (state : QueueState MemoryQueueBackend) :
    SessionStep → Option (Except PyError Value) × QueueState MemoryQueueBackend
  | .tool call =>
      (some (queue.callTool MemoryQueueBackend.contract builtins call state).1,
        (queue.callTool MemoryQueueBackend.contract builtins call state).2)
  | .worker call =>
      (none, { state with
        shared := (Shared.exec MemoryQueueBackend.contract call state.shared).2 })

/-- The same step on the register. -/
def Register.sessionStep (register : Register) :
    SessionStep → Option (Except PyError Value) × Register
  | .tool call =>
      (some (register.callTool queue builtins call).1, (register.callTool queue builtins call).2)
  | .worker call => (none, register.work call)

end Session

namespace MemoryQueueBackend

variable (backend : MemoryQueueBackend)

/-- The register of a store. -/
def postings : Register := backend.jobs.values.map Job.posting

/-- The jobs are stored in the order of their times, and all of them are known. -/
structure InOrder (known : List Stamp) : Prop where
  ordered : backend.jobs.values.Pairwise fun first second => first.createdAt ≤ second.createdAt
  stamped : ∀ job ∈ backend.jobs.values, job.stamp ∈ known

theorem values_mutate (jobId : String) (change : Job → Job)
    (keeps : ∀ job, (change job).jobId = job.jobId) :
    (backend.mutate jobId change keeps).jobs.values =
      backend.jobs.values.map fun job => if job.jobId = jobId then change job else job := by
  simp only [mutate, Dict.modify, Dict.values, List.map_map]
  apply List.map_congr_left
  rintro ⟨key, job⟩ member
  have named := backend.keyed _ _ ((backend.jobs.mem_entries_iff key job).mp member)
  simp only [Function.comp_apply, named]
  split <;> rfl

theorem find_postings (jobId : String) :
    backend.postings.find jobId = (backend.get jobId).map Job.posting := by
  have stored : ∀ job ∈ backend.jobs.values, backend.get job.jobId = some job :=
    fun job member => (backend.mem_allJobs job).mp member
  unfold Register.find postings
  rw [List.find?_map]
  congr 1
  cases found : backend.get jobId with
  | none =>
      apply List.find?_eq_none.mpr
      intro job member same
      have named : job.jobId = jobId := of_decide_eq_true same
      rw [← named, stored job member] at found
      cases found
  | some job =>
      have named := backend.keyed _ _ found
      have member : job ∈ backend.jobs.values :=
        (backend.mem_allJobs job).mpr (by rw [named]; exact found)
      cases first : backend.jobs.values.find?
          ((fun posting : Posting => decide (posting.jobId = jobId)) ∘ Job.posting) with
      | none =>
          have missed := List.find?_eq_none.mp first job member
          exact absurd (decide_eq_true named) missed
      | some other =>
          have met := List.find?_some first
          have same : other.jobId = jobId := of_decide_eq_true met
          have inside := stored other (List.mem_of_find?_eq_some first)
          rw [same, found] at inside
          exact inside.symm

variable {backend} {known : List Stamp}

theorem InOrder.mono {more : List Stamp} (inOrder : backend.InOrder known)
    (wider : ∀ stamp ∈ known, stamp ∈ more) : backend.InOrder more :=
  ⟨inOrder.ordered, fun job member => wider _ (inOrder.stamped job member)⟩

/-- A change in place. -/
theorem InOrder.mutate (inOrder : backend.InOrder known) (jobId : String) {change : Job → Job}
    (keeps : ∀ job, (change job).jobId = job.jobId)
    (dated : ∀ job, (change job).createdAt = job.createdAt) :
    (backend.mutate jobId change keeps).InOrder known := by
  have stamps : ∀ job : Job, (if job.jobId = jobId then change job else job).stamp =
      job.stamp := by
    intro job
    split
    · rw [Job.stamp, keeps, dated, Job.stamp]
    · rfl
  constructor
  · rw [values_mutate, List.pairwise_map]
    refine inOrder.ordered.imp fun {first second} before => ?_
    have same := fun job => congrArg Prod.snd (stamps job)
    exact (same first).trans_le (before.trans_eq (same second).symm)
  · rw [values_mutate]
    intro job member
    obtain ⟨stored, inside, rfl⟩ := List.mem_map.mp member
    rw [stamps]
    exact inOrder.stamped stored inside

theorem InOrder.touch (inOrder : backend.InOrder known) (jobId : String) {change : Job → Job}
    (keeps : ∀ job, (change job).jobId = job.jobId)
    (dated : ∀ job, (change job).createdAt = job.createdAt) :
    (backend.touch jobId change keeps).2.InOrder known := by
  unfold MemoryQueueBackend.touch
  cases backend.jobs.get? jobId with
  | none => exact inOrder
  | some job => exact inOrder.mutate jobId keeps dated

/-- A job that comes in time. -/
theorem InOrder.enqueue (inOrder : backend.InOrder known) {job : Job}
    (timely : ∀ earlier ∈ known, job.jobId ≠ earlier.1 ∧ earlier.2 ≤ job.createdAt) :
    (backend.enqueue job).2.InOrder (known ++ [job.stamp]) ∧
      (backend.enqueue job).2.postings = backend.postings ++ [job.posting] := by
  have absent : backend.get job.jobId = none := by
    cases found : backend.get job.jobId with
    | none => rfl
    | some stored =>
        have named := backend.keyed _ _ found
        have member : stored ∈ backend.jobs.values :=
          (backend.mem_allJobs stored).mpr (by rw [named]; exact found)
        exact absurd named.symm (timely _ (inOrder.stamped stored member)).1
  have values := backend.values_enqueue_fresh absent
  refine ⟨⟨?_, ?_⟩, ?_⟩
  · rw [values, List.pairwise_append]
    refine ⟨inOrder.ordered, List.pairwise_singleton _ _, fun stored member other single => ?_⟩
    obtain rfl := List.mem_singleton.mp single
    exact (timely _ (inOrder.stamped stored member)).2
  · rw [values]
    intro stored member
    rcases List.mem_append.mp member with old | new
    · exact List.mem_append_left _ (inOrder.stamped stored old)
    · obtain rfl := List.mem_singleton.mp new
      exact List.mem_append_right _ (List.mem_singleton_self _)
  · rw [postings, values, List.map_append]
    rfl

theorem postings_mutate (jobId : String) {change : Job → Job}
    (keeps : ∀ job, (change job).jobId = job.jobId) (update : Posting → Posting)
    (seen : ∀ job, backend.get jobId = some job → (change job).posting = update job.posting) :
    (backend.mutate jobId change keeps).postings = backend.postings.change jobId update := by
  unfold postings Register.change
  rw [values_mutate, List.map_map, List.map_map]
  apply List.map_congr_left
  intro job member
  simp only [Function.comp_apply]
  by_cases same : job.jobId = jobId
  · have stored := (backend.mem_allJobs job).mp member
    rw [same] at stored
    rw [if_pos same, if_pos (show job.posting.jobId = jobId from same), seen job stored]
  · rw [if_neg same, if_neg (show job.posting.jobId ≠ jobId from same)]

/-- Nothing changes when the posting of the job, if there is one, stays as it is. -/
theorem change_of_same {jobId : String} {update : Posting → Posting}
    (same : ∀ job, backend.get jobId = some job → update job.posting = job.posting) :
    backend.postings.change jobId update = backend.postings := by
  refine (List.map_congr_left fun posting member => ?_).trans (List.map_id _)
  obtain ⟨job, inside, rfl⟩ := List.mem_map.mp member
  split
  · next named =>
      have stored := (backend.mem_allJobs job).mp inside
      rw [show job.jobId = jobId from named] at stored
      exact same job stored
  · rfl

theorem postings_touch (jobId : String) {change : Job → Job}
    (keeps : ∀ job, (change job).jobId = job.jobId) (update : Posting → Posting)
    (seen : ∀ job, (change job).posting = update job.posting) :
    (backend.touch jobId change keeps).2.postings = backend.postings.change jobId update := by
  unfold touch
  cases stored : backend.jobs.get? jobId with
  | none =>
      refine (change_of_same fun job found => ?_).symm
      cases found.symm.trans stored
  | some job => exact postings_mutate jobId keeps update fun job _ => seen job

/-- The queue in the order of dispatch is the register's, priority before age. -/
theorem postings_queued (inOrder : backend.InOrder known) (jobType : Option String) :
    (backend.queued jobType none).map Job.posting = backend.postings.waiting jobType := by
  have agree : (backend.jobs.values.filter fun job =>
      job.status = .queued && job.matchesFilters jobType none).Pairwise fun first second =>
        Job.DispatchLe first second ↔ first.posting.Before second.posting := by
    refine (inOrder.ordered.filter _).imp fun {first second} before => ?_
    unfold Job.DispatchLe Posting.Before
    show _ ↔ second.priority ≤ first.priority
    omega
  unfold queued Register.waiting postings
  rw [insertionSort_congr Job.DispatchLe (s := fun first second => first.posting.Before
    second.posting) agree]
  rw [List.map_insertionSort _ Posting.Before Job.posting _ fun _ _ _ _ => Iff.rfl,
    List.filter_map]
  congr 2
  apply List.filter_congr
  intro job _
  simp only [Function.comp_apply, Posting.waits, Job.posting, Job.matchesFilters, Bool.and_true]
  rfl

theorem map_slice {α β : Type} (f : α → β) (limit : Int) (items : List α) :
    (slice limit items).map f = slice limit (items.map f) := by
  unfold slice
  rw [List.length_map]
  split <;> exact List.map_take

/-- The jobs that `jobs.list` lists. -/
theorem listed_postings {state : QueueState MemoryQueueBackend}
    (inOrder : state.shared.store.InOrder known) (limit : Int) (jobType : Option Value) :
    ∃ jobs, JobQueue.listed contract limit state jobType = .ok jobs ∧
      jobs.map Job.posting = state.shared.store.postings.listed limit jobType := by
  have dequeued : ∀ wanted, ∃ jobs, JobQueue.list contract limit wanted state = .ok jobs ∧
      jobs.map Job.posting = slice limit (state.shared.store.postings.waiting wanted) := by
    intro wanted
    refine ⟨_, rfl, ?_⟩
    rw [dequeue, map_slice, postings_queued inOrder]
  cases jobType with
  | none => exact dequeued none
  | some value =>
      cases value with
      | none => exact dequeued none
      | str wanted => exact dequeued (some wanted)
      | _ => exact ⟨[], rfl, rfl⟩

end MemoryQueueBackend

/-- The queue displays the register. -/
structure Displays (known : List Stamp) (state : QueueState MemoryQueueBackend)
    (register : Register) : Prop where
  inOrder : state.shared.store.InOrder known
  postings : state.shared.store.postings = register

namespace Displays

variable {known : List Stamp} {state : QueueState MemoryQueueBackend} {register : Register}
  (displays : Displays known state register)

include displays

theorem found (jobId : String) :
    (state.shared.store.get jobId).map Job.posting = register.find jobId := by
  rw [← displays.postings, MemoryQueueBackend.find_postings]

/-- A change in place, whether the job is there or not. -/
theorem touch {after : QueueState MemoryQueueBackend} (jobId : String) {change : Job → Job}
    (keeps : ∀ job, (change job).jobId = job.jobId)
    (dated : ∀ job, (change job).createdAt = job.createdAt) (update : Posting → Posting)
    (seen : ∀ job, (change job).posting = update job.posting)
    (left : after.shared.store = (state.shared.store.touch jobId change keeps).2) :
    Displays known after (register.change jobId update) := by
  refine ⟨?_, ?_⟩
  · rw [left]
    exact displays.inOrder.touch jobId keeps dated
  · rw [left, MemoryQueueBackend.postings_touch jobId keeps update seen, displays.postings]

/-- A call that leaves the store alone. -/
theorem of_store {after : QueueState MemoryQueueBackend}
    (left : after.shared.store = state.shared.store) : Displays known after register := by
  refine ⟨?_, ?_⟩
  · rw [left]
    exact displays.inOrder
  · rw [left, displays.postings]

/-- A written status. -/
theorem updateStatus {after : QueueState MemoryQueueBackend} (jobId : String)
    (status : JobStatus) (now : Int)
    (left : after.shared.store =
      (state.shared.store.updateStatus jobId status.value now).2) :
    Displays known after
      (register.change jobId fun posting => { posting with status := status }) := by
  have keeps : ∀ job : Job, ({ job with status := status, updatedAt := now } : Job).jobId =
      job.jobId := fun _ => rfl
  refine displays.touch jobId keeps (fun _ => rfl) _ (fun _ => rfl) ?_
  rw [left]
  unfold MemoryQueueBackend.updateStatus MemoryQueueBackend.touch
  cases state.shared.store.jobs.get? jobId with
  | none => rfl
  | some job => simp only [JobStatus.parse_value]

theorem heartbeat {after : QueueState MemoryQueueBackend} (jobId : String) (now : Int)
    (left : after.shared.store = (state.shared.store.heartbeat jobId now).2) :
    Displays known after register := by
  have keeps : ∀ job : Job, ({ job with updatedAt := now } : Job).jobId = job.jobId :=
    fun _ => rfl
  have touched : Displays known after (register.change jobId fun posting => posting) :=
    displays.touch jobId keeps (fun _ => rfl) _ (fun _ => rfl) left
  rw [← displays.postings] at touched ⊢
  rw [MemoryQueueBackend.change_of_same fun _ _ => rfl] at touched
  exact touched

/-- A claim, granted or not. -/
theorem claim {after : QueueState MemoryQueueBackend} (jobId hostId workerId : String)
    (now : Int)
    (left : after.shared.store = (state.shared.store.claim jobId hostId workerId now).2) :
    Displays known after (register.change jobId fun posting =>
      if posting.status = .queued then { posting with status := .running } else posting) := by
  obtain ⟨inOrder, rfl⟩ := displays
  unfold MemoryQueueBackend.claim at left
  cases stored : state.shared.store.jobs.get? jobId with
  | none =>
      rw [stored] at left
      rw [MemoryQueueBackend.change_of_same]
      · exact Displays.of_store ⟨inOrder, rfl⟩ left
      · intro job found
        cases found.symm.trans stored
  | some job =>
      simp only [stored] at left
      by_cases waiting : job.status = .queued
      · rw [if_neg (not_not_intro waiting)] at left
        refine ⟨?_, ?_⟩
        · rw [left]
          refine inOrder.mutate jobId ?_ fun _ => rfl
          exact fun _ => rfl
        · rw [left]
          refine MemoryQueueBackend.postings_mutate jobId ?_ _ fun found same => ?_
          · exact fun _ => rfl
          · obtain rfl := Option.some.inj (stored.symm.trans same)
            rw [if_pos (show job.posting.status = .queued from waiting)]
            rfl
      · rw [if_pos waiting] at left
        rw [MemoryQueueBackend.change_of_same]
        · exact Displays.of_store ⟨inOrder, rfl⟩ left
        · intro found same
          obtain rfl := Option.some.inj (stored.symm.trans same)
          exact if_neg waiting

/-- A job that comes in time. -/
theorem enqueue {after : QueueState MemoryQueueBackend} (job : Job)
    (timely : ∀ earlier ∈ known, job.jobId ≠ earlier.1 ∧ earlier.2 ≤ job.createdAt)
    (left : after.shared.store = (state.shared.store.enqueue job).2) :
    Displays (known ++ [job.stamp]) after (register ++ [job.posting]) := by
  obtain ⟨inOrder, postings⟩ := displays.inOrder.enqueue timely
  refine ⟨?_, ?_⟩
  · rw [left]
    exact inOrder
  · rw [left, postings, displays.postings]

theorem later (stamps : List Stamp) : Displays (known ++ stamps) state register :=
  ⟨displays.inOrder.mono fun _ member => List.mem_append_left _ member, displays.postings⟩

/-- A submission without key and dependencies. -/
theorem submit (queue : JobQueue) {request : JobRequest} (unkeyed : request.idempotencyKey = none)
    (free : request.dependsOn = []) (jobId : String) (now : Int)
    (timely : ∀ earlier ∈ known, jobId ≠ earlier.1 ∧ earlier.2 ≤ now) :
    (queue.submit MemoryQueueBackend.contract request jobId now state).1 =
        (register.submit queue request jobId).1 ∧
      Displays (known ++ [(jobId, now)])
        (queue.submit MemoryQueueBackend.contract request jobId now state).2
        (register.submit queue request jobId).2 := by
  cases checked : queue.admission request.payload with
  | error error =>
      simp only [JobQueue.submit, Register.submit, checked, true_and]
      exact displays.later _
  | ok accepted =>
      have fresh : JobQueue.deduplicate (.fromRequest request jobId now) now state =
          (none, state) := by
        unfold JobQueue.deduplicate
        rw [show (Job.fromRequest request jobId now).idempotencyKey = none from unkeyed]
      have registered : queue.registerDependencies (.fromRequest request jobId now)
          state.shared = (.ok (), state.shared) := by
        unfold JobQueue.registerDependencies
        rw [show (Job.fromRequest request jobId now).dependsOn = [] from free]
        simp
      rw [queue.submit_of_registered MemoryQueueBackend.contract checked fresh registered]
      simp only [Register.submit, checked]
      exact ⟨rfl, displays.enqueue (.fromRequest request jobId now) timely rfl⟩

end Displays

/-- The request of `jobs.create` has no key and no dependencies. -/
theorem createRequest_plain {builtins : Builtins} {arguments : Dict String Value}
    {request : JobRequest} (read : createRequest builtins arguments = .ok request) :
    request.idempotencyKey = none ∧ request.dependsOn = [] := by
  unfold createRequest at read
  obtain ⟨jobType, _, read⟩ := exists_of_bind_ok read
  obtain ⟨payload, _, read⟩ := exists_of_bind_ok read
  obtain ⟨priority, _, read⟩ := exists_of_bind_ok read
  obtain rfl := Except.ok.inj read
  exact ⟨rfl, rfl⟩

section Steps

variable (queue : JobQueue) (builtins : Builtins) {known : List Stamp}
  {state : QueueState MemoryQueueBackend} {register : Register}

/-- A call of a tool answers as the register does. -/
theorem Displays.callTool (displays : Displays known state register) (call : ToolCall)
    (timely : Timely known (.tool call)) :
    (queue.callTool MemoryQueueBackend.contract builtins call state).1 =
        (register.callTool queue builtins call).1 ∧
      Displays (known ++ (SessionStep.tool call).brings)
        (queue.callTool MemoryQueueBackend.contract builtins call state).2
        (register.callTool queue builtins call).2 := by
  cases call with
  | create arguments jobId now =>
      have inTime := timely (jobId, now) (List.mem_singleton_self _)
      simp only [JobQueue.callTool, JobQueue.createHandler, Register.callTool]
      cases read : createRequest builtins arguments with
      | error error => exact ⟨rfl, displays.later _⟩
      | ok request =>
          obtain ⟨unkeyed, free⟩ := createRequest_plain read
          obtain ⟨same, still⟩ := displays.submit queue unkeyed free jobId now inTime
          dsimp only
          rw [same]
          exact ⟨rfl, still⟩
  | status arguments =>
      refine ⟨?_, displays.later _⟩
      simp only [JobQueue.callTool, JobQueue.statusHandler, Register.callTool]
      cases read : requiredArgument arguments "job_id" with
      | error error => rfl
      | ok value =>
          have found := displays.found (builtins.str value)
          show answering _ (.ok _) = answering _ (.ok _)
          rw [← found]
          cases state.shared.store.get (builtins.str value) <;> rfl
  | cancel arguments now =>
      simp only [JobQueue.callTool, JobQueue.cancelHandler, Register.callTool]
      cases read : requiredArgument arguments "job_id" with
      | error error => exact ⟨rfl, displays.later _⟩
      | ok value =>
          have known := (state.shared.store.updateStatus_fst (builtins.str value) .cancelled now)
          have cancelled : (state.shared.store.view (builtins.str value)).isSome =
              (register.find (builtins.str value)).isSome := by
            rw [← displays.found, MemoryQueueBackend.view, Option.isSome_map, Option.isSome_map]
          refine ⟨?_, (displays.updateStatus (builtins.str value) .cancelled now rfl).later _⟩
          show answering _ (Except.map _ (state.shared.store.updateStatus (builtins.str value)
            JobStatus.cancelled.value now).1) = _
          rw [known, cancelled]
          rfl
  | list arguments =>
      refine ⟨?_, displays.later _⟩
      simp only [JobQueue.callTool, JobQueue.listHandler, Register.callTool]
      cases read : builtins.int (getOr arguments "limit" (.int 50)) with
      | error error => rfl
      | ok limit =>
          obtain ⟨jobs, listed, seen⟩ := MemoryQueueBackend.listed_postings displays.inOrder limit
            (arguments.get? "job_type")
          rw [displays.postings] at seen
          have items : jobs.map Job.listItem =
              (register.listed limit (arguments.get? "job_type")).map Posting.listItem := by
            rw [← seen, List.map_map]
            rfl
          simp only [ok_bind, listed, items]
  | submitAsync toolName arguments jobId now =>
      have inTime := timely (jobId, now) (List.mem_singleton_self _)
      obtain ⟨same, still⟩ := displays.submit queue
        (show ({ jobType := toolName, payload := arguments } : JobRequest).idempotencyKey = none
          from rfl) rfl jobId now inTime
      simp only [JobQueue.callTool, JobQueue.submitAsync, Register.callTool]
      rw [same]
      exact ⟨rfl, still⟩
  | getResult jobId =>
      refine ⟨?_, displays.later _⟩
      have found := displays.found jobId
      show Except.ok _ = Except.ok _
      rw [← found]
      cases state.shared.store.get jobId <;> rfl

/-- A call of a worker moves the register. -/
theorem Displays.work (displays : Displays known state register) (call : WorkerCall)
    (timely : Timely known (.worker call)) :
    Displays (known ++ (SessionStep.worker call).brings)
      { state with shared := (Shared.exec MemoryQueueBackend.contract call state.shared).2 }
      (register.work call) := by
  cases call with
  | claim jobId hostId workerId now => exact (displays.claim jobId hostId workerId now rfl).later _
  | heartbeat jobId now => exact (displays.heartbeat jobId now rfl).later _
  | updateStatus jobId status now => exact (displays.updateStatus jobId status now rfl).later _
  | enqueue job now => exact displays.enqueue job (timely job.stamp (List.mem_singleton_self _)) rfl
  | _ =>
      refine Displays.later (displays.of_store ?_) _
      rfl

/-- **The tools show a register.** Tool calls and calls of workers come in any order on
the memory backend, whose jobs are stored in the order of their times; every new job
has a new identifier and is not older than those before it. Then every tool call is
answered as the register answers it, and in the end the store displays the register: a
failed creation leaves no trace, a listing has the queued jobs by priority and those of
one priority in the order in which they came, and a cancellation that is reported is
one that has happened. -/
theorem tools_show_register (start : QueueState MemoryQueueBackend) (steps : List SessionStep)
    (ordered : start.shared.store.jobs.values.Pairwise fun first second =>
      first.createdAt ≤ second.createdAt)
    (timely : Guarded (fun known step => known ++ step.brings) Timely
      (start.shared.store.jobs.values.map Job.stamp) steps) :
    let run := transcript (queue.sessionStep builtins) start steps
    let shown := transcript (Register.sessionStep queue builtins) start.shared.store.postings steps
    run.1 = shown.1 ∧ run.2.shared.store.postings = shown.2 := by
  have initially : Displays (start.shared.store.jobs.values.map Job.stamp) start
      start.shared.store.postings :=
    ⟨⟨ordered, fun job member => List.mem_map_of_mem member⟩, rfl⟩
  have simulates : ∀ known state register step, Displays known state register →
      Timely known step →
        (queue.sessionStep builtins state step).1 =
            (Register.sessionStep queue builtins register step).1 ∧
          Displays (known ++ step.brings) (queue.sessionStep builtins state step).2
            (Register.sessionStep queue builtins register step).2 := by
    intro known state register step displays inTime
    cases step with
    | tool call =>
        obtain ⟨same, still⟩ := displays.callTool queue builtins call inTime
        exact ⟨congrArg some same, still⟩
    | worker call => exact ⟨rfl, displays.work call inTime⟩
  obtain ⟨answers, last⟩ := transcript_of_simulation simulates initially timely
  exact ⟨answers, last.postings⟩

end Steps

section Sample

def noJobs : QueueState MemoryQueueBackend := ⟨.fresh .empty, {}⟩

/-- Two jobs are created, the later one is claimed, and the queue is listed before and
after. -/
def urgentSession : List SessionStep :=
  [.tool (.create (Dict.empty.set "job_type" (.str "report")) "first" 0),
    .tool (.create ((Dict.empty.set "job_type" (.str "report")).set "priority" (.int 5))
      "second" 1),
    .tool (.list ∅),
    .worker (.claim "second" "host" "worker" 2),
    .tool (.list ∅),
    .tool (.status (Dict.empty.set "job_id" (.str "second"))),
    .tool (.cancel ∅ 3)]

theorem urgent_session_shown :
    (transcript (checkedQueue.sessionStep plainBuiltins) noJobs urgentSession).1.map
        (fun response => response.map Except.toOption) =
      [some (some (.dict [("job_id", .str "first")])),
        some (some (.dict [("job_id", .str "second")])),
        some (some (.dict [("items", .list
          [.dict [("job_id", .str "second"), ("job_type", .str "report"),
              ("status", .str "queued"), ("queue_name", .str "default"), ("priority", .int 5)],
            .dict [("job_id", .str "first"), ("job_type", .str "report"),
              ("status", .str "queued"), ("queue_name", .str "default"),
              ("priority", .int 0)]])])),
        none,
        some (some (.dict [("items", .list
          [.dict [("job_id", .str "first"), ("job_type", .str "report"),
            ("status", .str "queued"), ("queue_name", .str "default"),
            ("priority", .int 0)]])])),
        some (some (.dict [("job_id", .str "second"), ("status", .str "running"),
          ("job_type", .str "report"), ("queue_name", .str "default")])),
        some (some (mcpError "'job_id'"))] := by
  have shown := (tools_show_register checkedQueue plainBuiltins noJobs urgentSession .nil
    ⟨by decide, by decide, by decide, by decide, by decide, by decide, by decide, trivial⟩).1
  rw [shown]
  rfl

end Sample

end CloudDogJobs
