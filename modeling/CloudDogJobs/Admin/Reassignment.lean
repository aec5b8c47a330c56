import Mathlib.Data.Set.Function
import CloudDogJobs.Admin.Service
import CloudDogJobs.Backend.ClaimAccount
import CloudDogJobs.Foundation.Sequence
import CloudDogJobs.Worker.Footprint

/-!
# Reassignment and the work of a job

`AdminService.reassign_queue` enqueues a clone of the job into the target queue and leaves
the job itself as it is. A job and the clones made from it and from its clones are one
family: the same work under several identifiers. Operators and workers share a memory
backend, their calls on it interleaved.
-/

namespace CloudDogJobs

open Foundation WorkerProg

/-- Waiting for a worker, or with one. -/
def JobStatus.Live (status : JobStatus) : Prop := status = .queued ∨ status = .running

/-- The shared objects, and for each job the one whose work it is. -/
structure Families where
  shared : Shared MemoryQueueBackend
  origin : String → String

namespace Families

/-- Every stored job was submitted. -/
def start (shared : Shared MemoryQueueBackend) : Families := ⟨shared, id⟩

def status? (families : Families) (jobId : String) : Option JobStatus :=
  families.shared.store.status? jobId

def stored (families : Families) : Set String := { jobId | (families.status? jobId).isSome }

/-- The jobs that are queued or running. -/
def live (families : Families) : Set String :=
  { jobId | ∃ status, families.status? jobId = some status ∧ status.Live }

/-- No family has two jobs that are queued or running. -/
def Single (families : Families) : Prop := Set.InjOn families.origin families.live

/-- No job of the family of this one is queued or running. -/
def AtRest (families : Families) (jobId : String) : Prop :=
  families.origin jobId ∉ families.origin '' families.live

/-- The origin of a stored job is stored. -/
def Rooted (families : Families) : Prop :=
  ∀ jobId ∈ families.stored, families.origin jobId ∈ families.stored

end Families

/-- A call of a worker, or the submission of a clone with the job that it was made from. -/
inductive FamilyCall
  | work (call : WorkerCall)
  | clone (sourceId : String) (copy : Job) (now : Int)

@[reducible] def FamilyCall.Reply : FamilyCall → Type
  | .work call => call.Reply
  | .clone _ _ _ => Except PyError String

abbrev FamilyProg (α : Type) : Type := Prog FamilyCall FamilyCall.Reply α

/-- The job that a call puts into the store. -/
def FamilyCall.submitted : FamilyCall → Option Job
  | .work (.enqueue job _) => some job
  | .clone _ copy _ => some copy
  | _ => none

/-- Issue one call. -/
abbrev FamilyProg.issue (call : FamilyCall) : FamilyProg call.Reply := Prog.issue call

/-- The program of a worker. -/
def FamilyProg.ofWorker {α : Type} : WorkerProg α → FamilyProg α
  | .ret value => .ret value
  | .act call resume => .act (.work call) fun reply => ofWorker (resume reply)

namespace Families

/-- The effect of a call. A clone is of the family of its source, any other new job is a
family of its own. -/
def exec : (call : FamilyCall) → Families → call.Reply × Families
  | .work call, families =>
      let (reply, shared) := Shared.exec MemoryQueueBackend.contract call families.shared
      (reply,
        { shared := shared
          origin := match call with
            | .enqueue job _ => Function.update families.origin job.jobId job.jobId
            | _ => families.origin })
  | .clone sourceId copy now, families =>
      let (reply, shared) :=
        Shared.exec MemoryQueueBackend.contract (.enqueue copy now) families.shared
      (reply,
        { shared := shared
          origin := Function.update families.origin copy.jobId (families.origin sourceId) })

end Families

/-- `reassign_queue` as its calls on the backend. -/
def AdminService.reassignCalls (admin : AdminService) (jobId queueName newId : String)
    (now : Int) : FamilyProg (Except PyError Bool) :=
  if admin.permits "jobs.reassign" then do
    match ← FamilyProg.issue (.work (.get jobId)) with
    | .error error => return .error error
    | .ok none => return .ok false
    | .ok (some job) =>
        match ← FamilyProg.issue (.clone jobId
            (.fromRequest (cloneRequest job queueName) newId now) now) with
        | .error error => return .error error
        | .ok cloneId => return .ok (decide (cloneId ≠ ""))
  else
    return .error (.permissionError ("Missing required permission: " ++ "jobs.reassign"))

/-- Run alone, the calls do what `reassign_queue` does. -/
theorem AdminService.run_reassignCalls (admin : AdminService) (jobId queueName newId : String)
    (now : Int) (families : Families) :
    ((admin.reassignCalls jobId queueName newId now).run Families.exec families).1 =
        (admin.reassignQueue MemoryQueueBackend.contract jobId queueName newId now
          families.shared.store).1 ∧
      ((admin.reassignCalls jobId queueName newId now).run Families.exec families).2.shared.store =
        (admin.reassignQueue MemoryQueueBackend.contract jobId queueName newId now
          families.shared.store).2 := by
  unfold reassignCalls reassignQueue guarded
  by_cases permitted : admin.permits "jobs.reassign" = true
  · simp only [permitted, if_true, Prog.issue_bind, Prog.run_act, Families.exec, Shared.exec,
      MemoryQueueBackend.contract, clone]
    cases families.shared.store.get jobId with
    | none => exact ⟨rfl, rfl⟩
    | some job => exact ⟨rfl, rfl⟩
  · rw [if_neg permitted, if_neg permitted]
    exact ⟨rfl, rfl⟩

/-- An operation of a client: a round of its worker, a claim, or a reassignment. -/
inductive FamilyOp
  | runOnce (inputs : RunInputs)
  | claim (jobId hostId workerId : String) (now : Int)
  | reassign (jobId queueName newId : String) (now : Int)

/-- Workers and operators on one memory backend. -/
def familyMachine {ι : Type} (workers : ι → Worker) (admins : ι → AdminService) :
    Machine ι FamilyOp FamilyCall FamilyCall.Reply (Except PyError Bool) Families where
  exec := Families.exec
  code client
    | .runOnce inputs => FamilyProg.ofWorker ((workers client).runOnce inputs)
    | .claim jobId hostId workerId now =>
        FamilyProg.ofWorker (call (.claim jobId hostId workerId now))
    | .reassign jobId queueName newId now =>
        (admins client).reassignCalls jobId queueName newId now

/-! ## One call -/

/-- A call of a round that submits nothing: a status that it writes ends the round. -/
def WorkerCall.Passive : WorkerCall → Prop
  | .updateStatus _ status _ => ¬ status.Live
  | .enqueue _ _ => False
  | _ => True

/-- A passive call keeps the status of a job, or gives a stored job another one; when that
is live, the one before was. -/
theorem WorkerCall.Passive.status? {call : WorkerCall} (passive : call.Passive)
    (shared : Shared MemoryQueueBackend) (jobId : String) :
    (Shared.exec MemoryQueueBackend.contract call shared).2.store.status? jobId =
        shared.store.status? jobId ∨
      ∃ before after, shared.store.status? jobId = some before ∧
        (Shared.exec MemoryQueueBackend.contract call shared).2.store.status? jobId =
          some after ∧ (after.Live → before.Live) := by
  cases call with
  | claim claimed hostId workerId now =>
      have moved := shared.store.status?_claim claimed jobId hostId workerId now
      split at moved
      · next granted =>
          have waiting := (shared.store.claim_fst claimed hostId workerId now).mp granted.2
          rw [← granted.1] at waiting
          exact .inr ⟨.queued, .running, waiting, moved, fun _ => .inl rfl⟩
      · exact .inl moved
  | heartbeat beaten now =>
      exact .inl (shared.store.status?_touch_of_keeps beaten jobId fun _ => rfl)
  | updateStatus written status now =>
      have moved := shared.store.status?_updateStatus written jobId status.value now
      rw [JobStatus.parse_value] at moved
      dsimp only at moved
      split at moved
      · next same =>
          obtain rfl := same
          cases shown : shared.store.status? jobId with
          | none =>
              rw [shown] at moved
              exact .inl moved
          | some before =>
              rw [shown] at moved
              exact .inr ⟨before, status, rfl, moved, fun live => absurd live passive⟩
      · exact .inl moved
  | enqueue job now => exact passive.elim
  | _ => exact .inl rfl

namespace Families

variable {families : Families} {copy : Job} {now : Int}

section Passive

variable {call : WorkerCall} (passive : call.Passive)

include passive

theorem origin_of_passive :
    (exec (.work call) families).2.origin = families.origin := by
  cases call with
  | enqueue job now => exact passive.elim
  | _ => rfl

theorem stored_of_passive :
    (exec (.work call) families).2.stored = families.stored := by
  ext jobId
  rcases passive.status? families.shared jobId with same | ⟨before, after, held, written, _⟩
  · exact iff_of_eq (congrArg (fun status => Option.isSome status = true) same)
  · exact iff_of_true (Option.isSome_iff_exists.mpr ⟨after, written⟩)
      (Option.isSome_iff_exists.mpr ⟨before, held⟩)

theorem live_of_passive :
    (exec (.work call) families).2.live ⊆ families.live := by
  intro jobId member
  obtain ⟨status, shown, live⟩ := member
  rcases passive.status? families.shared jobId with same | ⟨before, after, held, written, kept⟩
  · exact ⟨status, same.symm.trans shown, live⟩
  · obtain rfl : after = status := Option.some.inj (written.symm.trans shown)
    exact ⟨before, held, kept live⟩

/-- A family that has one live job at most keeps to that. -/
theorem Single.of_passive (single : families.Single) :
    (exec (.work call) families).2.Single := by
  unfold Single
  rw [origin_of_passive passive]
  exact single.mono (live_of_passive passive)

end Passive

/-- The families after a submission, with the origin of the new job. -/
def submit (families : Families) (copy : Job) (origin : String) : Families where
  shared := { families.shared with store := (families.shared.store.enqueue copy).2 }
  origin := Function.update families.origin copy.jobId origin

theorem exec_enqueue : (exec (.work (.enqueue copy now)) families).2 =
    families.submit copy copy.jobId := rfl

theorem exec_clone (sourceId : String) : (exec (.clone sourceId copy now) families).2 =
    families.submit copy (families.origin sourceId) := rfl

section Submission

variable {origin : String}

theorem status?_submit (other : String) : (families.submit copy origin).status? other =
    if other = copy.jobId then some copy.status else families.status? other :=
  families.shared.store.status?_enqueue other copy

theorem origin_submit_self : (families.submit copy origin).origin copy.jobId = origin :=
  Function.update_self ..

theorem origin_submit_of_ne {other : String} (different : other ≠ copy.jobId) :
    (families.submit copy origin).origin other = families.origin other :=
  Function.update_of_ne different ..

theorem stored_submit :
    (families.submit copy origin).stored = insert copy.jobId families.stored := by
  ext other
  simp only [stored, Set.mem_ofPred_eq, status?_submit, Set.mem_insert_iff]
  by_cases same : other = copy.jobId
  · rw [if_pos same]
    exact iff_of_true rfl (.inl same)
  · rw [if_neg same]
    exact (or_iff_right same).symm

theorem live_submit (waits : copy.status = .queued) :
    (families.submit copy origin).live = insert copy.jobId families.live := by
  ext other
  simp only [live, Set.mem_ofPred_eq, status?_submit, Set.mem_insert_iff]
  by_cases same : other = copy.jobId
  · rw [if_pos same]
    exact iff_of_true ⟨copy.status, rfl, .inl waits⟩ (.inl same)
  · rw [if_neg same]
    exact (or_iff_right same).symm

theorem live_subset_stored : families.live ⊆ families.stored := by
  intro jobId member
  obtain ⟨status, shown, _⟩ := member
  exact Option.isSome_iff_exists.mpr ⟨status, shown⟩

/-- A new queued job keeps the families single exactly when no job of its family is live. -/
theorem single_submit_iff (waits : copy.status = .queued) (new : copy.jobId ∉ families.stored)
    (single : families.Single) :
    (families.submit copy origin).Single ↔ origin ∉ families.origin '' families.live := by
  have absent : copy.jobId ∉ families.live := fun member => new (live_subset_stored member)
  have agrees : Set.EqOn (families.submit copy origin).origin families.origin families.live := by
    intro jobId member
    apply origin_submit_of_ne
    intro same
    rw [same] at member
    exact absent member
  unfold Single
  rw [live_submit waits, Set.injOn_insert absent, origin_submit_self, agrees.image_eq]
  exact and_iff_right (single.congr agrees.symm)

/-- A new job with a stored origin, or that is its own. -/
theorem Rooted.submit (rooted : families.Rooted)
    (known : origin = copy.jobId ∨ origin ∈ families.stored) :
    (families.submit copy origin).Rooted := by
  intro jobId member
  rw [stored_submit] at member ⊢
  by_cases same : jobId = copy.jobId
  · rw [same, origin_submit_self]
    exact known
  · rw [origin_submit_of_ne same]
    exact .inr (rooted jobId (member.resolve_left same))

end Submission

end Families

/-! ## Every interleaving -/

/-- A call of a round. A job that it submits is queued. -/
def WorkerCall.InRound : WorkerCall → Prop
  | .enqueue job _ => job.status = .queued
  | call => call.Passive

/-- Every call of `run_once` is one of a round. -/
theorem Worker.only_inRound (worker : Worker) (inputs : RunInputs) :
    (worker.runOnce inputs).Only WorkerCall.InRound := by
  apply worker.only_runOnce inputs
  · intro call inside
    cases call <;> trivial
  · intros
    trivial
  · intro job call inside
    rcases inside with inside | inside
    · cases call with
      | updateStatus jobId status now =>
          intro live
          rcases live with rfl | rfl
          · exact absurd inside.2 (by decide)
          · exact absurd inside.2 (by decide)
      | enqueue copy now => exact inside.2.2.1
      | _ => trivial
    · cases call <;> trivial

/-- Remembers the job that was last found: a clone is made of it, and queued. -/
def cloning : Monitor FamilyCall FamilyCall.Reply (Option String) where
  update found
    | .work (.get jobId), .ok (some _) => some jobId
    | _, _ => found
  allowed found
    | .work call => call.InRound
    | .clone sourceId copy _ => found = some sourceId ∧ copy.status = .queued
  possible _ _ := True

theorem FamilyProg.accepts_ofWorker {α : Type} {program : WorkerProg α}
    (only : program.Only WorkerCall.InRound) (found : Option String) :
    cloning.Accepts (fun _ _ => True) found (ofWorker program) := by
  induction program generalizing found with
  | ret value => trivial
  | act call resume ih => exact ⟨only.1, fun reply _ => ih reply (only.2 reply) _⟩

theorem AdminService.accepts_reassignCalls (admin : AdminService)
    (jobId queueName newId : String) (now : Int) (found : Option String) :
    cloning.Accepts (fun _ _ => True) found
      (admin.reassignCalls jobId queueName newId now) := by
  unfold reassignCalls
  split
  · refine ⟨trivial, ?_⟩
    intro reply _
    cases reply with
    | error error => trivial
    | ok job? =>
        cases job? with
        | none => trivial
        | some job =>
            refine ⟨⟨rfl, rfl⟩, ?_⟩
            intro cloned _
            cases cloned <;> trivial
  · trivial

abbrev FamilyConfig (ι : Type) : Type :=
  Config ι FamilyOp FamilyCall FamilyCall.Reply (Except PyError Bool) Families

/-- Origins are stored, and so is every job that a running operation has found. -/
def Grounded {ι : Type} (families : Families) (found : ι → Option (FamilyOp × Option String)) :
    Prop :=
  families.Rooted ∧ ∀ client op sourceId, found client = some (op, some sourceId) →
    sourceId ∈ families.stored

section Steps

variable {families : Families} {found : Option String} {call : FamilyCall}

/-- What an allowed call does: it submits nothing, or one queued job, in a family of its own
or in the family of the job that was found. -/
theorem allowed_cases (allowed : cloning.allowed found call) :
    (∃ work : WorkerCall, call = .work work ∧ work.Passive) ∨
    (∃ copy now, call = .work (.enqueue copy now) ∧ copy.status = .queued) ∨
    (∃ sourceId copy now, call = .clone sourceId copy now ∧ found = some sourceId ∧
      copy.status = .queued) := by
  cases call with
  | work work =>
      cases work with
      | enqueue copy now => exact .inr (.inl ⟨copy, now, rfl, allowed⟩)
      | _ => exact .inl ⟨_, rfl, allowed⟩
  | clone sourceId copy now => exact .inr (.inr ⟨sourceId, copy, now, rfl, allowed⟩)

/-- Jobs stay in the store. -/
theorem stored_exec (allowed : cloning.allowed found call) :
    families.stored ⊆ (Families.exec call families).2.stored := by
  rcases allowed_cases allowed with ⟨work, rfl, passive⟩ | ⟨copy, now, rfl, _⟩ |
    ⟨sourceId, copy, now, rfl, _, _⟩
  · rw [Families.stored_of_passive passive]
  · rw [Families.exec_enqueue, Families.stored_submit]
    exact Set.subset_insert _ _
  · rw [Families.exec_clone, Families.stored_submit]
    exact Set.subset_insert _ _

theorem rooted_exec (allowed : cloning.allowed found call) (rooted : families.Rooted)
    (present : ∀ sourceId, found = some sourceId → sourceId ∈ families.stored) :
    (Families.exec call families).2.Rooted := by
  rcases allowed_cases allowed with ⟨work, rfl, passive⟩ | ⟨copy, now, rfl, _⟩ |
    ⟨sourceId, copy, now, rfl, located, _⟩
  · unfold Families.Rooted
    rw [Families.stored_of_passive passive, Families.origin_of_passive passive]
    exact rooted
  · exact rooted.submit (.inl rfl)
  · exact rooted.submit (.inr (rooted sourceId (present sourceId located)))

/-- What `get` has found is stored. -/
theorem found_exec (allowed : cloning.allowed found call)
    (present : ∀ sourceId, found = some sourceId → sourceId ∈ families.stored) {sourceId : String}
    (located : cloning.update found call (Families.exec call families).1 = some sourceId) :
    sourceId ∈ (Families.exec call families).2.stored := by
  have kept := fun same : found = some sourceId => stored_exec allowed (present sourceId same)
  cases call with
  | clone source copy now => exact kept located
  | work work =>
      cases work with
      | get jobId =>
          cases read : families.shared.store.get jobId with
          | none =>
              apply kept
              simpa only [cloning, Families.exec, Shared.exec, MemoryQueueBackend.contract, read]
                using located
          | some job =>
              have same : some jobId = some sourceId := by
                simpa only [cloning, Families.exec, Shared.exec, MemoryQueueBackend.contract,
                  read] using located
              obtain rfl := Option.some.inj same
              refine Option.isSome_iff_exists.mpr ⟨job.status, ?_⟩
              have shown : families.shared.store.status? jobId = some job.status := by
                rw [MemoryQueueBackend.status?, MemoryQueueBackend.view, read]
                rfl
              exact shown
      | _ => exact kept located

/-- On families that are single, an allowed call keeps them so exactly when it is no clone of
a job whose family is live. -/
theorem single_exec_iff (allowed : cloning.allowed found call) (rooted : families.Rooted)
    (new : ∀ copy, call.submitted = some copy → copy.jobId ∉ families.stored)
    (single : families.Single) :
    (Families.exec call families).2.Single ↔
      ∀ sourceId copy now, call = .clone sourceId copy now → families.AtRest sourceId := by
  rcases allowed_cases allowed with ⟨work, rfl, passive⟩ | ⟨copy, now, rfl, waits⟩ |
    ⟨sourceId, copy, now, rfl, located, waits⟩
  · refine iff_of_true (single.of_passive passive) ?_
    intro sourceId copy now same
    cases same
  · rw [Families.exec_enqueue, Families.single_submit_iff waits (new copy rfl) single]
    refine iff_of_true ?_ ?_
    · intro member
      obtain ⟨jobId, live, same⟩ := member
      have stored := rooted jobId (Families.live_subset_stored live)
      rw [same] at stored
      exact new copy rfl stored
    · intro sourceId other time same
      cases same
  · rw [Families.exec_clone, Families.single_submit_iff waits (new copy rfl) single]
    constructor
    · intro rests source other time same
      cases same
      exact rests
    · intro rests
      exact rests sourceId copy now rfl

end Steps

section Runs

variable {ι : Type} (workers : ι → Worker) (admins : ι → AdminService)

/-- The identifier of a submitted job is new, as a `uuid4` is. -/
def SubmitsNew (config : FamilyConfig ι) (action : Action ι FamilyOp) : Prop :=
  ∀ call copy, config.pending action = some call → call.submitted = some copy →
    copy.jobId ∉ config.shared.stored

/-- A clone is submitted only of a job whose family is at rest. -/
def ClonesAtRest (config : FamilyConfig ι) (action : Action ι FamilyOp) : Prop :=
  ∀ sourceId copy now, config.pending action = some (.clone sourceId copy now) →
    config.shared.AtRest sourceId

theorem accepts_familyCode (client : ι) (op : FamilyOp) :
    cloning.Accepts (fun _ _ => True) none ((familyMachine workers admins).code client op) := by
  cases op with
  | runOnce inputs =>
      exact FamilyProg.accepts_ofWorker ((workers client).only_inRound inputs) none
  | claim jobId hostId workerId now =>
      have only : (call (.claim jobId hostId workerId now)).Only WorkerCall.InRound :=
        ⟨trivial, fun _ => trivial⟩
      exact FamilyProg.accepts_ofWorker only none
  | reassign jobId queueName newId now =>
      exact (admins client).accepts_reassignCalls jobId queueName newId now none

variable [DecidableEq ι]

theorem grounded_invariant :
    (familyMachine workers admins).Invariant cloning (fun _ _ => none) (fun _ _ _ _ => True)
      (fun _ _ => True) (fun families found _ => Grounded families found) where
  accepts _ client op _ := accepts_familyCode workers admins client op
  replies _ _ _ _ _ _ _ _ _ := trivial
  call config client op _ _ grounded := by
    refine ⟨grounded.1, ?_⟩
    intro other running sourceId shown
    rcases update_some_cases shown with ⟨_, same⟩ | ⟨_, before⟩
    · cases same
    · exact grounded.2 other running sourceId before
  act config client op command resume log _ busy allowed grounded := by
    have present : ∀ sourceId, cloning.summarize none log = some sourceId →
        sourceId ∈ config.shared.stored := by
      intro sourceId located
      refine grounded.2 client op sourceId ?_
      rw [config.summary_of_busy busy, located]
    refine ⟨rooted_exec allowed grounded.1 present, ?_⟩
    intro other running sourceId shown
    rcases update_some_cases shown with ⟨_, same⟩ | ⟨_, before⟩
    · exact found_exec allowed present (congrArg Prod.snd same).symm
    · exact stored_exec allowed (grounded.2 other running sourceId before)
  ret config client op value log _ _ _ grounded := by
    refine ⟨grounded.1, ?_⟩
    intro other running sourceId shown
    exact grounded.2 other running sourceId (update_none_cases shown).2

/-- What holds of every configuration of a run, whatever the families are. -/
def Sane (config : FamilyConfig ι) : Prop :=
  Machine.Conforms cloning (fun _ _ => none) (fun _ _ _ _ => True) config ∧
    Grounded config.shared (config.summary cloning fun _ _ => none)

/-- The step lemma: a step keeps the families single exactly when it clones at rest. -/
theorem single_step_iff {config : FamilyConfig ι} {action : Action ι FamilyOp}
    (new : SubmitsNew config action) (sane : Sane config) (single : config.shared.Single) :
    ((familyMachine workers admins).step config action).shared.Single ↔
      ClonesAtRest config action := by
  rw [Machine.shared_step]
  cases pending : config.pending action with
  | none =>
      refine iff_of_true single ?_
      intro sourceId copy now performed
      rw [pending] at performed
      cases performed
  | some call =>
      obtain ⟨client, op, resume, log, _, busy⟩ := Config.busy_of_pending pending
      have allowed := (sane.1 client op _ log busy).1
      have exact := single_exec_iff allowed sane.2.1
        (fun copy submits => new call copy pending submits) single
      refine Iff.trans exact ?_
      constructor
      · intro rests sourceId copy now performed
        exact rests sourceId copy now (Option.some.inj (pending.symm.trans performed))
      · intro rests sourceId copy now same
        exact rests sourceId copy now (pending.trans (congrArg some same))

/-- **When reassignment does not duplicate work.** From every store and for every
interleaving of reassignments, claims and worker rounds, where the identifiers of submitted
jobs are new: no state has two queued or running jobs that are the work of one originally
submitted job, exactly when every clone is submitted of a job whose family has then no queued
or running job. -/
theorem families_single_iff (shared : Shared MemoryQueueBackend)
    (schedule : List (Action ι FamilyOp))
    (new : Guarded (familyMachine workers admins).step SubmitsNew (.initial (.start shared))
      schedule) :
    Throughout (familyMachine workers admins).step (fun config => config.shared.Single)
        (.initial (.start shared)) schedule ↔
      Guarded (familyMachine workers admins).step ClonesAtRest (.initial (.start shared))
        schedule := by
  have single : (Families.start shared).Single := Function.injective_id.injOn
  have sane : Sane (.initial (.start shared) : FamilyConfig ι) :=
    ⟨Machine.conforms_initial _, fun _ member => member, fun _ _ _ shown => nomatch shown⟩
  have premised := new.of_invariant
    (fun config action sane fresh => ⟨And.intro fresh sane,
      (grounded_invariant workers admins).step config action trivial sane.1 sane.2⟩) sane
  refine throughout_iff_guarded_of_guarded ?_ ?_ premised
  · intro config action both single
    exact single_step_iff workers admins both.1 both.2 single
  · exact single

end Runs

section Sample

/-- A store with one report in the given status, and fresh objects beside it. -/
def oneReport (status : JobStatus) : Shared MemoryQueueBackend :=
  .fresh (.holding (reportJob status))

/-- One client reassigns the job. -/
def reassignment : List (Action Unit FamilyOp) :=
  [.call () (.reassign "job" "other" "clone" 1), .act (), .act (), .ret ()]

/-- A worker of every queue, and an operator whom nobody checks. -/
abbrev reportMachine : Machine Unit FamilyOp FamilyCall FamilyCall.Reply (Except PyError Bool)
    Families :=
  familyMachine (fun _ => {}) fun _ => ⟨none⟩

theorem submitsNew_reassignment (status : JobStatus) :
    Guarded reportMachine.step SubmitsNew (.initial (.start (oneReport status)))
      reassignment := by
  refine ⟨?_, ?_, ?_, ?_, trivial⟩
  · intro call copy performed
    cases performed
  · intro call copy performed submits
    obtain rfl := Option.some.inj performed
    cases submits
  · intro call copy performed submits
    obtain rfl := Option.some.inj performed
    obtain rfl := Option.some.inj submits
    intro stored
    cases stored
  · intro call copy performed
    cases performed

/-- Only a live job of the store is live. -/
theorem live_oneReport {status : JobStatus} {jobId : String}
    (member : jobId ∈ (Families.start (oneReport status)).live) : status.Live := by
  obtain ⟨shown, held, live⟩ := member
  have same : (if jobId = "job" then some status else none) = some shown :=
    (MemoryQueueBackend.empty.status?_enqueue jobId _).symm.trans held
  split at same
  · rw [Option.some.inj same]
    exact live
  · cases same

/-- A job that was cancelled is reassigned, and its clone is the one that waits. -/
theorem cancelled_job_reassigned :
    Throughout reportMachine.step (fun config => config.shared.Single)
      (.initial (.start (oneReport .cancelled))) reassignment := by
  refine (families_single_iff _ _ (oneReport .cancelled) reassignment
    (submitsNew_reassignment .cancelled)).mpr ⟨?_, ?_, ?_, ?_, trivial⟩
  · intro sourceId copy now performed
    cases performed
  · intro sourceId copy now performed
    cases performed
  · intro sourceId copy now performed member
    obtain ⟨jobId, live, _⟩ := member
    rcases live_oneReport live with same | same
    · cases same
    · cases same
  · intro sourceId copy now performed
    cases performed

/-- A queued job that is reassigned waits in both queues. -/
theorem reassigned_job_waits_twice :
    ¬ ∀ (workers : Unit → Worker) (admins : Unit → AdminService)
      (shared : Shared MemoryQueueBackend) (schedule : List (Action Unit FamilyOp)),
      Guarded (familyMachine workers admins).step SubmitsNew (.initial (.start shared)) schedule →
        Throughout (familyMachine workers admins).step (fun config => config.shared.Single)
          (.initial (.start shared)) schedule := by
  intro single
  have throughout := single (fun _ => {}) (fun _ => ⟨none⟩) (oneReport .queued) reassignment
    (submitsNew_reassignment .queued)
  have last := throughout.2.2.2.1
  have same : "job" = "clone" :=
    last ⟨.queued, rfl, .inl rfl⟩ ⟨.queued, rfl, .inl rfl⟩ rfl
  exact absurd same (by decide)

end Sample

end CloudDogJobs
