import Mathlib.Data.List.TakeWhile
import CloudDogJobs.Backend.Memory
import CloudDogJobs.Fanout.Manager
import CloudDogJobs.Foundation.Sequence
import CloudDogJobs.Security.Payload

/-!
# Tracking of fan-out children

Runs of `create_fan_out` calls. A run keeps, beside the manager's record, the
list of children that were enqueued for each parent; a child is accounted for
when it is in the record, is counted by the aggregate and is cancelled with its
parent. `children_accounted_iff` says which runs account for every child.
-/

namespace CloudDogJobs

open Foundation

/-- What a run relies on when a job has a new identifier: `enqueue` returns it and
has stored the job. -/
structure QueueBackend.TakesFresh {σ : Type} (backend : QueueBackend σ)
    (view : σ → String → Option Ticket) : Prop where
  returned : ∀ job now store, view store job.jobId = none →
    (backend.enqueue job now store).1 = .ok job.jobId
  stored : ∀ job now store, view store job.jobId = none →
    (view (backend.enqueue job now store).2 job.jobId).isSome

theorem MemoryQueueBackend.takesFresh : contract.TakesFresh view where
  returned _ _ _ _ := rfl
  stored job now backend _ := by
    show ((backend.enqueue job).2.view job.jobId).isSome
    rw [view_enqueue, if_pos rfl]
    rfl

/-- One call of `create_fan_out`. -/
structure FanOutCall where
  parentJobId : String
  children : List FanOutChild

/-- A run of calls: the manager, the queue, and the children enqueued so far with
their parents. -/
structure FanOutRun (σ : Type) where
  manager : FanOutManager
  queue : QueueState σ
  enqueued : List (String × String)

namespace FanOutRun

variable {σ : Type}

/-- A new manager on a queue. -/
def start (state : QueueState σ) : FanOutRun σ := ⟨⟨∅⟩, state, []⟩

section Steps

variable (builtins : Builtins) (queue : JobQueue) (backend : QueueBackend σ)
  (view : σ → String → Option Ticket)

/-- The run after a call, raising or not. -/
def call (run : FanOutRun σ) (fanOut : FanOutCall) : FanOutRun σ :=
  let result := run.manager.createFanOut builtins queue backend fanOut.parentJobId
    fanOut.children run.queue
  let (_, childIds, _) := FanOutManager.submitChildren builtins queue backend
    fanOut.parentJobId fanOut.children run.queue
  { manager := result.2.1
    queue := result.2.2
    enqueued := run.enqueued ++ childIds.map fun childId => (fanOut.parentJobId, childId) }

/-- The submission of the child is not rejected: its specification can be read,
and its payload passes the checks of `submit`. -/
def admitted (parentJobId : String) (child : FanOutChild) : Bool :=
  match child.spec.read builtins with
  | .error _ => false
  | .ok spec => (queue.admission (spec.request parentJobId).payload).isOk

/-- The identifiers of the call are new: they are distinct, no stored job has one
of them, and neither the record nor the run knows one. -/
structure Fresh (run : FanOutRun σ) (fanOut : FanOutCall) : Prop where
  distinct : (fanOut.children.map FanOutChild.jobId).Nodup
  absent : ∀ child ∈ fanOut.children, view run.queue.shared.store child.jobId = none
  unrecorded : ∀ child ∈ fanOut.children, ∀ parentJobId,
    child.jobId ∉ run.manager.getChildren parentJobId

/-- The call loses no child: it is rejected before its first child is enqueued, or
it enqueues all of them for a parent that has none yet. -/
def Safe (run : FanOutRun σ) (fanOut : FanOutCall) : Prop :=
  (∃ first rest, fanOut.children = first :: rest ∧
      admitted builtins queue fanOut.parentJobId first = false) ∨
    (∀ child ∈ fanOut.children, admitted builtins queue fanOut.parentJobId child = true) ∧
      ∀ childId, (fanOut.parentJobId, childId) ∉ run.enqueued

/-- Every child enqueued for a parent is in its record. -/
def Recorded (run : FanOutRun σ) : Prop :=
  ∀ parentJobId childId, (parentJobId, childId) ∈ run.enqueued →
    childId ∈ run.manager.getChildren parentJobId

/-- The child is in the record of its parent, its status is among those that the
aggregate counts, and cancelling the parent cancels it. -/
structure Accounts (run : FanOutRun σ) (parentJobId childId : String) : Prop where
  recorded : childId ∈ run.manager.getChildren parentJobId
  counted : ∃ statuses status,
    run.manager.childStatuses backend parentJobId run.queue.shared.store = .ok statuses ∧
      (view run.queue.shared.store childId).map Ticket.status = some status ∧ status ∈ statuses
  cancelled : ∀ now, (view (run.manager.cancelParentAndChildren backend parentJobId now
    run.queue.shared.store).2 childId).map Ticket.status = some .cancelled

/-- Every child enqueued for a parent is accounted for. -/
def AllAccounted (run : FanOutRun σ) : Prop :=
  ∀ parentJobId childId, (parentJobId, childId) ∈ run.enqueued →
    run.Accounts backend view parentJobId childId

end Steps

variable {builtins : Builtins} {queue : JobQueue} {backend : QueueBackend σ}
  {view : σ → String → Option Ticket}

/-- A child has neither a key nor dependencies, so its submission is the checks of
the payload and then `enqueue`. -/
theorem submit_child (spec : ChildJobSpec) (parentJobId jobId : String) (now : Int)
    (state : QueueState σ) :
    queue.submit backend (spec.request parentJobId) jobId now state =
      match queue.admission (spec.request parentJobId).payload with
      | .error error => (.error error, state)
      | .ok () =>
          ((backend.enqueue (.fromRequest (spec.request parentJobId) jobId now) now
              state.shared.store).1,
            { state with shared := { state.shared with
              store := (backend.enqueue (.fromRequest (spec.request parentJobId) jobId now) now
                state.shared.store).2 } }) := by
  unfold JobQueue.submit
  cases queue.admission (spec.request parentJobId).payload with
  | error error => rfl
  | ok _ =>
      have undemanding : (queue.dependencyTracker &&
          !(Job.fromRequest (spec.request parentJobId) jobId now).dependsOn.isEmpty) = false :=
        Bool.and_false _
      simp only [JobQueue.deduplicate, JobQueue.registerDependencies, undemanding]
      rfl

/-- What the loop does with children that have new identifiers: those before the
first rejected one are enqueued. -/
structure Submitted (builtins : Builtins) (queue : JobQueue) (backend : QueueBackend σ)
    (view : σ → String → Option Ticket) (parentJobId : String) (children : List FanOutChild)
    (state : QueueState σ) : Prop where
  childIds : (FanOutManager.submitChildren builtins queue backend parentJobId children state).2.1 =
    (children.takeWhile (admitted builtins queue parentJobId)).map FanOutChild.jobId
  returns : (FanOutManager.submitChildren builtins queue backend parentJobId children state).1 =
      .ok () ↔ ∀ child ∈ children, admitted builtins queue parentJobId child = true
  stored : ∀ child ∈ children.takeWhile (admitted builtins queue parentJobId),
    (view (FanOutManager.submitChildren builtins queue backend parentJobId children
      state).2.2.shared.store child.jobId).isSome
  others : ∀ jobId, jobId ∉ children.map FanOutChild.jobId →
    view (FanOutManager.submitChildren builtins queue backend parentJobId children
      state).2.2.shared.store jobId = view state.shared.store jobId

theorem submitChildren_of_rejected {parentJobId : String} {child : FanOutChild}
    (refused : admitted builtins queue parentJobId child = false) (rest : List FanOutChild)
    (state : QueueState σ) :
    ∃ error, FanOutManager.submitChildren builtins queue backend parentJobId (child :: rest) state =
      (.error error, [], state) := by
  unfold admitted at refused
  cases readable : child.spec.read builtins with
  | error error =>
      refine ⟨error, ?_⟩
      simp only [FanOutManager.submitChildren, readable]
  | ok spec =>
      cases checked : queue.admission (spec.request parentJobId).payload with
      | error error =>
          refine ⟨error, ?_⟩
          simp only [FanOutManager.submitChildren, readable, submit_child, checked]
      | ok accepted =>
          simp only [readable, checked] at refused
          cases refused

theorem submitted_of_rejected {parentJobId : String} {child : FanOutChild}
    (refused : admitted builtins queue parentJobId child = false) (rest : List FanOutChild)
    (state : QueueState σ) :
    Submitted builtins queue backend view parentJobId (child :: rest) state := by
  obtain ⟨error, raised⟩ : ∃ error, FanOutManager.submitChildren builtins queue backend
      parentJobId (child :: rest) state = (.error error, [], state) :=
    submitChildren_of_rejected refused rest state
  refine ⟨?_, ?_, ?_, ?_⟩
  · rw [raised, List.takeWhile_cons, refused]
    rfl
  · rw [raised]
    refine iff_of_false nofun ?_
    intro all
    rw [all child List.mem_cons_self] at refused
    cases refused
  · rw [List.takeWhile_cons, refused]
    exact nofun
  · intro jobId _
    rw [raised]

/-- An admitted child with a new identifier is enqueued before the others. -/
theorem submitChildren_of_admitted (takes : backend.TakesFresh view) {parentJobId : String}
    {child : FanOutChild} (passes : admitted builtins queue parentJobId child = true)
    (rest : List FanOutChild) {state : QueueState σ}
    (unknown : view state.shared.store child.jobId = none) :
    ∃ job : Job, ∃ next : QueueState σ, job.jobId = child.jobId ∧
      next.shared.store = (backend.enqueue job child.now state.shared.store).2 ∧
      FanOutManager.submitChildren builtins queue backend parentJobId (child :: rest) state =
        ((FanOutManager.submitChildren builtins queue backend parentJobId rest next).1,
          child.jobId ::
            (FanOutManager.submitChildren builtins queue backend parentJobId rest next).2.1,
          (FanOutManager.submitChildren builtins queue backend parentJobId rest next).2.2) := by
  unfold admitted at passes
  cases readable : child.spec.read builtins with
  | error error =>
      rw [readable] at passes
      cases passes
  | ok spec =>
      cases checked : queue.admission (spec.request parentJobId).payload with
      | error error =>
          simp only [readable, checked] at passes
          cases passes
      | ok accepted =>
          let job := Job.fromRequest (spec.request parentJobId) child.jobId child.now
          let next : QueueState σ := { state with shared := { state.shared with
            store := (backend.enqueue job child.now state.shared.store).2 } }
          refine ⟨job, next, rfl, rfl, ?_⟩
          have returned := takes.returned job child.now state.shared.store unknown
          have submitted : queue.submit backend (spec.request parentJobId) child.jobId child.now
              state = (.ok child.jobId, next) := by
            rw [submit_child, checked]
            exact Prod.ext returned rfl
          simp only [FanOutManager.submitChildren, readable, submitted]

theorem submitted_of_fresh (lawful : backend.Lawful view) (takes : backend.TakesFresh view)
    (parentJobId : String) {children : List FanOutChild} (state : QueueState σ)
    (distinct : (children.map FanOutChild.jobId).Nodup)
    (absent : ∀ child ∈ children, view state.shared.store child.jobId = none) :
    Submitted builtins queue backend view parentJobId children state := by
  induction children generalizing state with
  | nil => exact ⟨rfl, iff_of_true rfl nofun, nofun, fun _ _ => rfl⟩
  | cons child rest ih =>
      cases passes : admitted builtins queue parentJobId child with
      | false => exact submitted_of_rejected passes rest state
      | true =>
          have unknown := absent child List.mem_cons_self
          obtain ⟨job, next, named, store, loop⟩ :=
            submitChildren_of_admitted takes passes rest unknown
          rw [List.map_cons, List.nodup_cons] at distinct
          have kept : ∀ jobId, jobId ≠ child.jobId →
              view next.shared.store jobId = view state.shared.store jobId := by
            intro jobId different
            rw [store]
            exact lawful.enqueue_other job child.now _ jobId (named ▸ different)
          have later := ih next distinct.2 fun other member => by
            rw [kept other.jobId]
            · exact absent other (List.mem_cons_of_mem _ member)
            · intro same
              exact distinct.1 (same ▸ List.mem_map_of_mem member)
          refine ⟨?_, ?_, ?_, ?_⟩
          · rw [loop, List.takeWhile_cons, passes]
            exact congrArg (child.jobId :: ·) later.childIds
          · rw [loop, List.forall_mem_cons]
            exact later.returns.trans (and_iff_right passes).symm
          · rw [loop, List.takeWhile_cons, passes]
            intro other member
            rcases List.mem_cons.mp member with rfl | member
            · rw [later.others _ distinct.1, store, ← named]
              exact takes.stored job other.now state.shared.store (named ▸ unknown)
            · exact later.stored other member
          · intro jobId outside
            rw [List.map_cons, List.mem_cons, not_or] at outside
            rw [loop, later.others jobId outside.2, kept jobId outside.1]

section Calls

variable {run : FanOutRun σ} {fanOut : FanOutCall}

/-- The part of the children that a call enqueues. -/
def taken (builtins : Builtins) (queue : JobQueue) (fanOut : FanOutCall) : List FanOutChild :=
  fanOut.children.takeWhile (admitted builtins queue fanOut.parentJobId)

theorem taken_of_all (all : ∀ child ∈ fanOut.children,
    admitted builtins queue fanOut.parentJobId child = true) :
    taken builtins queue fanOut = fanOut.children :=
  List.takeWhile_eq_self_iff.mpr all

theorem mem_enqueued_call
    (submitted : Submitted builtins queue backend view fanOut.parentJobId fanOut.children
      run.queue) (parentJobId childId : String) :
    (parentJobId, childId) ∈ (run.call builtins queue backend fanOut).enqueued ↔
      (parentJobId, childId) ∈ run.enqueued ∨
        parentJobId = fanOut.parentJobId ∧
          childId ∈ (taken builtins queue fanOut).map FanOutChild.jobId := by
  simp only [call, List.mem_append, submitted.childIds, List.mem_map, Prod.mk.injEq, taken]
  constructor
  · intro either
    rcases either with old | ⟨_, fresh, rfl, rfl⟩
    · exact .inl old
    · exact .inr ⟨rfl, fresh⟩
  · intro either
    rcases either with old | ⟨rfl, fresh⟩
    · exact .inl old
    · exact .inr ⟨_, fresh, rfl, rfl⟩

theorem getChildren_call
    (submitted : Submitted builtins queue backend view fanOut.parentJobId fanOut.children
      run.queue) (parentJobId : String) :
    (run.call builtins queue backend fanOut).manager.getChildren parentJobId =
      if parentJobId = fanOut.parentJobId ∧ (∀ child ∈ fanOut.children,
          admitted builtins queue fanOut.parentJobId child = true)
      then fanOut.children.map FanOutChild.jobId
      else run.manager.getChildren parentJobId := by
  have childIds := submitted.childIds
  have returns := submitted.returns
  simp only [call, FanOutManager.createFanOut]
  generalize FanOutManager.submitChildren builtins queue backend fanOut.parentJobId
    fanOut.children run.queue = result at *
  obtain ⟨outcome, ids, next⟩ := result
  cases outcome with
  | error error =>
      rw [if_neg]
      intro both
      cases returns.mpr both.2
  | ok _ =>
      have all := returns.mp rfl
      dsimp only at childIds
      rw [List.takeWhile_eq_self_iff.mpr all] at childIds
      simp only [FanOutManager.getChildren, Dict.getD_set, childIds]
      by_cases same : parentJobId = fanOut.parentJobId
      · rw [if_pos same, if_pos ⟨same, all⟩]
      · rw [if_neg same, if_neg fun both => same both.1]

theorem recorded_of_safe
    (submitted : Submitted builtins queue backend view fanOut.parentJobId fanOut.children
      run.queue) (recorded : run.Recorded) (safe : run.Safe builtins queue fanOut) :
    (run.call builtins queue backend fanOut).Recorded := by
  intro parentJobId childId enqueued
  rw [mem_enqueued_call submitted] at enqueued
  rw [getChildren_call submitted]
  rcases safe with ⟨first, rest, children, refused⟩ | ⟨all, unused⟩
  · have none : taken builtins queue fanOut = [] := by
      rw [taken, children, List.takeWhile_cons, refused]
      rfl
    rw [none] at enqueued
    rcases enqueued with old | ⟨_, fresh⟩
    · rw [if_neg]
      · exact recorded parentJobId childId old
      · intro both
        have admits := both.2 first (children ▸ List.mem_cons_self)
        rw [refused] at admits
        cases admits
    · cases fresh
  · rw [taken_of_all all] at enqueued
    rcases enqueued with old | ⟨rfl, fresh⟩
    · have different : parentJobId ≠ fanOut.parentJobId := by
        intro same
        exact unused childId (same ▸ old)
      rw [if_neg fun both => different both.1]
      exact recorded parentJobId childId old
    · rw [if_pos ⟨rfl, all⟩]
      exact fresh

theorem safe_of_recorded
    (submitted : Submitted builtins queue backend view fanOut.parentJobId fanOut.children
      run.queue) (fresh : run.Fresh view fanOut) (recorded : run.Recorded)
    (kept : (run.call builtins queue backend fanOut).Recorded) :
    run.Safe builtins queue fanOut := by
  by_cases all : ∀ child ∈ fanOut.children,
      admitted builtins queue fanOut.parentJobId child = true
  · refine .inr ⟨all, ?_⟩
    intro childId old
    -- the call replaces the record of the parent, which had this child
    have listed := kept _ _ ((mem_enqueued_call submitted _ _).mpr (.inl old))
    rw [getChildren_call submitted, if_pos ⟨rfl, all⟩] at listed
    obtain ⟨child, member, rfl⟩ := List.mem_map.mp listed
    exact fresh.unrecorded child member _ (recorded _ _ old)
  · -- a child enqueued before the rejected one is not in the record
    have none : taken builtins queue fanOut = [] := by
      apply List.eq_nil_iff_forall_not_mem.mpr
      intro child member
      have enqueued := (mem_enqueued_call submitted fanOut.parentJobId child.jobId).mpr
        (.inr ⟨rfl, List.mem_map_of_mem member⟩)
      have listed := kept _ _ enqueued
      rw [getChildren_call submitted, if_neg fun both => all both.2] at listed
      exact fresh.unrecorded child ((List.takeWhile_subset _) member) _ listed
    cases children : fanOut.children with
    | nil =>
        rw [children] at all
        exact absurd nofun all
    | cons first rest =>
        refine .inl ⟨first, rest, children, ?_⟩
        rw [taken, children, List.takeWhile_cons] at none
        by_contra admits
        rw [Bool.not_eq_false] at admits
        rw [admits] at none
        cases none

/-- The step lemma: a call keeps every enqueued child in the record exactly when
it is safe. -/
theorem recorded_call_iff (lawful : backend.Lawful view) (takes : backend.TakesFresh view)
    (fresh : run.Fresh view fanOut) (recorded : run.Recorded) :
    (run.call builtins queue backend fanOut).Recorded ↔ run.Safe builtins queue fanOut := by
  have submitted : Submitted builtins queue backend view fanOut.parentJobId fanOut.children
      run.queue :=
    submitted_of_fresh lawful takes _ _ fresh.distinct fresh.absent
  exact ⟨safe_of_recorded submitted fresh recorded, recorded_of_safe submitted recorded⟩

/-- Every enqueued child is in the store. -/
def Stored (view : σ → String → Option Ticket) (run : FanOutRun σ) : Prop :=
  ∀ parentJobId childId, (parentJobId, childId) ∈ run.enqueued →
    (view run.queue.shared.store childId).isSome

theorem store_call : (run.call builtins queue backend fanOut).queue =
    (FanOutManager.submitChildren builtins queue backend fanOut.parentJobId fanOut.children
      run.queue).2.2 :=
  FanOutManager.createFanOut_queue builtins queue backend _ _ _ _

theorem stored_call (lawful : backend.Lawful view) (takes : backend.TakesFresh view)
    (fresh : run.Fresh view fanOut) (stored : run.Stored view) :
    (run.call builtins queue backend fanOut).Stored view := by
  have submitted : Submitted builtins queue backend view fanOut.parentJobId fanOut.children
      run.queue :=
    submitted_of_fresh lawful takes _ _ fresh.distinct fresh.absent
  intro parentJobId childId enqueued
  rw [store_call]
  rcases (mem_enqueued_call submitted _ _).mp enqueued with old | ⟨_, new⟩
  · have present := stored _ _ old
    rw [submitted.others]
    · exact present
    · intro inside
      obtain ⟨child, member, rfl⟩ := List.mem_map.mp inside
      rw [fresh.absent child member] at present
      cases present
  · obtain ⟨child, member, rfl⟩ := List.mem_map.mp new
    exact submitted.stored child member

end Calls

/-! ## What the record is used for -/

/-- The status that the aggregate sees of a child. -/
def seenStatus (ticket : Option Ticket) : JobStatus := (ticket.map Ticket.status).getD .failed

theorem childStatuses_eq (lawful : backend.Lawful view) (manager : FanOutManager)
    (parentJobId : String) (store : σ) :
    manager.childStatuses backend parentJobId store =
      .ok ((manager.getChildren parentJobId).map fun childId =>
        seenStatus (view store childId)) := by
  have reads : ∀ childId ∈ manager.getChildren parentJobId, ∃ status,
      FanOutManager.childStatus backend store childId = .ok status ∧
        status = seenStatus (view store childId) := by
    intro childId _
    obtain ⟨found, read, seen⟩ := lawful.get childId store
    refine ⟨_, ?_, rfl⟩
    rw [← seen]
    cases found with
    | none =>
        simp [FanOutManager.childStatus, read, seenStatus, bind, Except.bind, pure, Except.pure]
    | some job =>
        simp [FanOutManager.childStatus, read, seenStatus, Job.ticket, bind, Except.bind, pure,
          Except.pure]
  obtain ⟨statuses, collected, same⟩ := exists_mapM_ok reads
  rw [List.map_id'] at same
  rw [FanOutManager.childStatuses, collected, same]

theorem cancelAll_cons (lawful : backend.Lawful view) (now : Int) (jobId : String)
    (rest : List String) (store : σ) :
    (FanOutManager.cancelAll backend now (jobId :: rest) store).2 =
      (FanOutManager.cancelAll backend now rest
        (backend.updateStatus jobId JobStatus.cancelled.value now store).2).2 := by
  have returned := lawful.updateStatus_returns jobId .cancelled now store
  rw [FanOutManager.cancelAll]
  generalize backend.updateStatus jobId JobStatus.cancelled.value now store = result at *
  obtain ⟨answer, next⟩ := result
  dsimp only at returned
  subst returned
  dsimp only
  split <;> next same => rw [same]

theorem view_cancelAll (lawful : backend.Lawful view) (now : Int) (jobIds : List String)
    (store : σ) (other : String) :
    view (FanOutManager.cancelAll backend now jobIds store).2 other =
      if other ∈ jobIds then (view store other).map fun ticket => ticket.withStatus .cancelled
      else view store other := by
  induction jobIds generalizing store with
  | nil => simp [FanOutManager.cancelAll]
  | cons jobId rest ih =>
      rw [cancelAll_cons lawful, ih, lawful.view_updateStatus]
      by_cases same : other = jobId
      · subst same
        simp only [↓reduceIte, List.mem_cons_self, Option.map_map]
        split <;> rfl
      · simp only [same, ↓reduceIte, List.mem_cons, false_or]

/-- A recorded child that is stored is accounted for. -/
theorem accounts_of_recorded (lawful : backend.Lawful view) {run : FanOutRun σ}
    {parentJobId childId : String} (recorded : childId ∈ run.manager.getChildren parentJobId)
    (stored : (view run.queue.shared.store childId).isSome) :
    run.Accounts backend view parentJobId childId := by
  obtain ⟨ticket, found⟩ := Option.isSome_iff_exists.mp stored
  refine ⟨recorded, ⟨_, ticket.status, childStatuses_eq lawful _ _ _, ?_, ?_⟩, ?_⟩
  · rw [found]
    rfl
  · refine List.mem_map.mpr ⟨childId, recorded, ?_⟩
    rw [found]
    rfl
  · intro now
    rw [FanOutManager.cancelParentAndChildren, view_cancelAll lawful,
      if_pos (List.mem_cons_of_mem _ recorded), found]
    rfl

/-! ## Whole runs -/

theorem recorded_start (state : QueueState σ) : (start state).Recorded := by
  intro parentJobId childId enqueued
  cases enqueued

theorem stored_start (state : QueueState σ) : (start state).Stored view := by
  intro parentJobId childId enqueued
  cases enqueued

/-- **Which runs lose no child.** With new identifiers for the children, every
child that any call enqueued is in the record of its parent, is counted by the
aggregate and is cancelled with the parent, after every call of the run, exactly
when each call is rejected before its first child is enqueued, or enqueues all
its children for a parent that has none yet. -/
theorem children_accounted_iff (builtins : Builtins) (queue : JobQueue)
    (lawful : backend.Lawful view) (takes : backend.TakesFresh view) (state : QueueState σ)
    (calls : List FanOutCall)
    (fresh : Guarded (call builtins queue backend) (Fresh view) (start state) calls) :
    Throughout (call builtins queue backend) (AllAccounted backend view) (start state) calls ↔
      Guarded (call builtins queue backend) (Safe builtins queue) (start state) calls := by
  have exactly : Throughout (call builtins queue backend) Recorded (start state) calls ↔
      Guarded (call builtins queue backend) (Safe builtins queue) (start state) calls :=
    throughout_iff_guarded_of_guarded
      (fun _ _ fresh recorded => recorded_call_iff lawful takes fresh recorded)
      (recorded_start state) fresh
  refine ⟨fun accounted => ?_, fun safe => ?_⟩
  · refine exactly.mp (accounted.mono ?_)
    intro run accounts parentJobId childId enqueued
    exact (accounts parentJobId childId enqueued).recorded
  · have kept : ∀ (run : FanOutRun σ) fanOut, run.Recorded ∧ run.Stored view →
        run.Fresh view fanOut ∧ run.Safe builtins queue fanOut →
          (run.call builtins queue backend fanOut).Recorded ∧
            (run.call builtins queue backend fanOut).Stored view := by
      intro run fanOut invariant guard
      exact ⟨(recorded_call_iff lawful takes guard.1 invariant.1).mpr guard.2,
        stored_call lawful takes guard.1 invariant.2⟩
    refine Throughout.of_invariant kept ?_
      ⟨recorded_start state, stored_start state⟩ (fresh.and safe)
    intro run invariant parentJobId childId enqueued
    exact accounts_of_recorded lawful (invariant.1 _ _ enqueued) (invariant.2 _ _ enqueued)

/-! ## Runs with and without a loss -/

/-- A child that processes a page. -/
def pageChild (jobId : String) : FanOutChild :=
  ⟨.typed { jobType := "page", payload := Dict.ofList [("page", .int 1)] }, jobId, 0⟩

/-- A child whose payload is rejected. -/
def secretChild (jobId : String) : FanOutChild :=
  ⟨.typed { jobType := "page", payload := Dict.ofList [("password", .str "x")] }, jobId, 0⟩

/-- A new manager on an empty memory backend. -/
def sampleStart : FanOutRun MemoryQueueBackend := start ⟨.fresh .empty, {}⟩

/-- A call that is rejected at its first child changes nothing. -/
theorem call_of_rejected {parentJobId : String} {child : FanOutChild}
    (refused : admitted builtins queue parentJobId child = false) (rest : List FanOutChild)
    (run : FanOutRun σ) :
    run.call builtins queue backend ⟨parentJobId, child :: rest⟩ = run := by
  obtain ⟨error, raised⟩ : ∃ error, FanOutManager.submitChildren builtins queue backend
      parentJobId (child :: rest) run.queue = (.error error, [], run.queue) :=
    submitChildren_of_rejected refused rest run.queue
  simp only [call, FanOutManager.createFanOut, raised, List.map_nil, List.append_nil]

theorem secretChild_rejected :
    admitted plainBuiltins checkedQueue "parent" (secretChild "first") = false := by
  decide +kernel

/-- A call that is rejected at once and one that enqueues two children lose
nothing. -/
theorem sample_children_accounted :
    Throughout (call plainBuiltins checkedQueue MemoryQueueBackend.contract)
      (AllAccounted MemoryQueueBackend.contract MemoryQueueBackend.view) sampleStart
      [⟨"parent", [secretChild "first"]⟩, ⟨"parent", [pageChild "second", pageChild "third"]⟩] := by
  refine (children_accounted_iff plainBuiltins checkedQueue MemoryQueueBackend.lawful
    MemoryQueueBackend.takesFresh ⟨.fresh .empty, {}⟩ _ ?_).mpr ?_
  · refine ⟨⟨by decide, ?_, ?_⟩, ?_⟩
    · intro child member
      rfl
    · intro child member parentJobId
      exact List.not_mem_nil
    · rw [call_of_rejected secretChild_rejected]
      refine ⟨⟨by decide, ?_, ?_⟩, trivial⟩
      · intro child member
        rfl
      · intro child member parentJobId
        exact List.not_mem_nil
  · refine ⟨.inl ⟨secretChild "first", [], rfl, secretChild_rejected⟩, ?_⟩
    rw [call_of_rejected secretChild_rejected]
    refine ⟨.inr ⟨?_, ?_⟩, trivial⟩
    · decide +kernel
    · intro childId
      exact List.not_mem_nil

/-- A second call for the same parent, and a call that is rejected at its second
child, each lose the first child. -/
theorem first_child_is_lost :
    ¬ Throughout (call plainBuiltins checkedQueue MemoryQueueBackend.contract)
        (AllAccounted MemoryQueueBackend.contract MemoryQueueBackend.view) sampleStart
        [⟨"parent", [pageChild "first"]⟩, ⟨"parent", [pageChild "second"]⟩] ∧
      ¬ Throughout (call plainBuiltins checkedQueue MemoryQueueBackend.contract)
        (AllAccounted MemoryQueueBackend.contract MemoryQueueBackend.view) sampleStart
        [⟨"parent", [pageChild "first", secretChild "second"]⟩] := by
  refine ⟨fun accounted => ?_, fun accounted => ?_⟩
  · have recorded := (accounted.2.2 "parent" "first" (by decide +kernel)).recorded
    revert recorded
    decide +kernel
  · have recorded := (accounted.2 "parent" "first" (by decide +kernel)).recorded
    revert recorded
    decide +kernel

end FanOutRun

end CloudDogJobs
