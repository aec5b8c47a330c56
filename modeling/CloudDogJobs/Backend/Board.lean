import CloudDogJobs.Backend.Memory
import CloudDogJobs.Storage.Sequential

/-!
# The board of a queue backend

What the contract of a backend says about the lifecycle of jobs, without the
stores: a board of cards, one for each job in the order of submission, with the
fields that decide dispatch. The memory backend and the SQL backend both refine it:
each call answers as the board does and leaves its cards as the board's call leaves
them.
-/

namespace CloudDogJobs

open Foundation

/-- The fields of a job that decide its dispatch. -/
structure Card where
  jobId : String
  jobType : String
  queueName : String
  status : String
  priority : Int
  createdAt : Int
  deriving DecidableEq

namespace Card

/-- The dispatch order `(-priority, created_at)`. -/
def DispatchLe (first second : Card) : Prop :=
  second.priority < first.priority ∨
    (first.priority = second.priority ∧ first.createdAt ≤ second.createdAt)

instance : DecidableRel DispatchLe := fun _ _ => inferInstanceAs (Decidable (_ ∨ _))

instance : Std.Total DispatchLe := ⟨fun first second => by
  unfold DispatchLe
  omega⟩

instance : IsTrans Card DispatchLe := ⟨fun first second third below above => by
  unfold DispatchLe at *
  omega⟩

/-- Whether the card passes an optional filter. -/
def wanted (filter : Option String) (value : String) : Bool :=
  match filter with
  | none => true
  | some text => value = text

/-- Queued, and past the filters of a read. -/
def waits (jobType queueName : Option String) (card : Card) : Bool :=
  card.status = JobStatus.queued.value && wanted jobType card.jobType &&
    wanted queueName card.queueName

end Card

def Job.card (job : Job) : Card :=
  ⟨job.jobId, job.jobType, job.queueName, job.status.value, job.priority, job.createdAt⟩

def JobRow.card (row : JobRow) : Card :=
  ⟨row.jobId, row.jobType, row.queueName, row.status, row.priority, row.createdAt⟩

/-- One card for each job, in the order of submission. -/
abbrev Board : Type := Dict String Card

/-- The answer as the caller of a backend compares it: of the jobs it was given, their
identifiers. -/
def BackendResult.seen : BackendResult → BackendResult
  | .jobs given => .jobIds (given.map Job.jobId)
  | result => result

namespace Board

variable (board : Board)

/-- The job is on the board as queued. -/
def queued (jobId : String) : Bool :=
  (board.get? jobId).any fun card => card.status = JobStatus.queued.value

/-- Write a status on a card. -/
def restate (jobId status : String) : Board :=
  board.modify jobId fun card => { card with status := status }

/-- The cards that a read of the queue finds, in dispatch order. -/
def waiting (jobType queueName : Option String) : List Card :=
  (board.values.filter (Card.waits jobType queueName)).insertionSort Card.DispatchLe

/-- The board after a call. -/
def apply : BackendOp → Board
  | .enqueue job _ => board.set job.jobId job.card
  | .claim jobId _ _ _ =>
      if board.queued jobId then board.restate jobId JobStatus.running.value else board
  | .release jobId _ => board.restate jobId JobStatus.queued.value
  | .updateStatus jobId status _ => board.restate jobId status
  | _ => board

/-- What a call answers. -/
def answer : BackendOp → BackendResult
  | .enqueue job _ => .jobId job.jobId
  | .dequeue limit jobType queueName =>
      .jobIds (((board.waiting jobType queueName).take limit.toNat).map Card.jobId)
  | .claim jobId _ _ _ => .flag (board.queued jobId)
  | .release jobId _ => .flag (board.get? jobId).isSome
  | .heartbeat jobId _ => .flag (board.get? jobId).isSome
  | .updateStatus jobId _ _ => .flag (board.get? jobId).isSome
  | .recordAttempt jobId _ _ => .flag (board.get? jobId).isSome

/-- The calls that the backends are compared on: new jobs are queued and have new
identifiers, statuses are texts of `JobStatus`, limits are not negative and filters
not empty. -/
def Admissible : BackendOp → Prop
  | .enqueue job _ => board.get? job.jobId = none ∧ job.status = .queued
  | .dequeue limit jobType queueName => 0 ≤ limit ∧ jobType ≠ some "" ∧ queueName ≠ some ""
  | .updateStatus _ status _ => ∃ known : JobStatus, status = known.value
  | .recordAttempt _ _ _ => False
  | _ => True

/-- No two queued jobs share both their priority and their time of creation. -/
def Untied : Prop :=
  ∀ first second card other, board.get? first = some card → board.get? second = some other →
    card.status = JobStatus.queued.value → other.status = JobStatus.queued.value →
      card.priority = other.priority → card.createdAt = other.createdAt → first = second

variable {board}

theorem mem_waiting {jobType queueName : Option String} {card : Card} :
    card ∈ board.waiting jobType queueName ↔
      card ∈ board.values ∧ card.waits jobType queueName = true := by
  rw [waiting, List.mem_insertionSort, List.mem_filter]

/-- Without ties there is one way to list the waiting cards in dispatch order. -/
theorem eq_waiting_of_untied (untied : board.Untied) {jobType queueName : Option String}
    {cards : List Card} (same : cards.Perm (board.values.filter (Card.waits jobType queueName)))
    (ordered : cards.Pairwise Card.DispatchLe) : cards = board.waiting jobType queueName := by
  have members : cards.Perm (board.waiting jobType queueName) :=
    same.trans (List.perm_insertionSort _ _).symm
  have queuedOf : ∀ card ∈ board.waiting jobType queueName,
      ∃ jobId, board.get? jobId = some card ∧ card.status = JobStatus.queued.value := by
    intro card member
    obtain ⟨stored, waits⟩ := mem_waiting.mp member
    obtain ⟨jobId, found⟩ := (board.mem_values_iff card).mp stored
    unfold Card.waits at waits
    rw [Bool.and_eq_true, Bool.and_eq_true, decide_eq_true_eq] at waits
    exact ⟨jobId, found, waits.1.1⟩
  refine List.Perm.eq_of_pairwise ?_ ordered (List.pairwise_insertionSort _ _) members
  intro first second inCards inWaiting below above
  obtain ⟨firstId, firstFound, firstQueued⟩ := queuedOf first (members.mem_iff.mp inCards)
  obtain ⟨secondId, secondFound, secondQueued⟩ := queuedOf second inWaiting
  have level : first.priority = second.priority ∧ first.createdAt = second.createdAt := by
    unfold Card.DispatchLe at below above
    omega
  have sameId : firstId = secondId :=
    untied firstId secondId first second firstFound secondFound firstQueued secondQueued
      level.1 level.2
  rw [sameId, secondFound] at firstFound
  exact (Option.some.inj firstFound).symm

theorem restate_of_absent {jobId : String} (absent : board.get? jobId = none) (status : String) :
    board.restate jobId status = board :=
  Dict.modify_of_get?_none absent _

end Board

namespace MemoryQueueBackend

/-- The cards of the stored jobs. -/
def board (backend : MemoryQueueBackend) : Board := backend.jobs.mapValues Job.card

variable (backend : MemoryQueueBackend)

theorem get?_board (jobId : String) : backend.board.get? jobId = (backend.get jobId).map Job.card :=
  Dict.get?_mapValues _ _ _

theorem values_board : backend.board.values = backend.allJobs.map Job.card :=
  Dict.values_mapValues _ _

/-- A change in place that a card shows as a status. -/
theorem board_mutate (jobId : String) {change : Job → Job}
    (keeps : ∀ job, (change job).jobId = job.jobId) {status : String}
    (restates : ∀ job, (change job).card = { job.card with status := status }) :
    (backend.mutate jobId change keeps).board = backend.board.restate jobId status :=
  Dict.mapValues_modify Job.card (fun card => { card with status := status }) restates
    backend.jobs jobId

/-- The shared shape of the methods that write a status. -/
theorem board_touch (jobId : String) {change : Job → Job}
    (keeps : ∀ job, (change job).jobId = job.jobId) {status : String}
    (restates : ∀ job, (change job).card = { job.card with status := status }) :
    (backend.touch jobId change keeps).2.board = backend.board.restate jobId status := by
  unfold touch
  cases stored : backend.jobs.get? jobId with
  | none =>
      have absent : backend.board.get? jobId = none := by
        rw [get?_board, get, stored]
        rfl
      exact (Board.restate_of_absent absent status).symm
  | some job => exact backend.board_mutate jobId keeps restates

/-- A change that a card does not show. -/
theorem board_touch_of_same (jobId : String) {change : Job → Job}
    (keeps : ∀ job, (change job).jobId = job.jobId) (same : ∀ job, (change job).card = job.card) :
    (backend.touch jobId change keeps).2.board = backend.board := by
  unfold touch
  cases backend.jobs.get? jobId with
  | none => rfl
  | some job =>
      have seen := Dict.mapValues_modify Job.card (fun card => card) same backend.jobs jobId
      rw [Dict.modify_id] at seen
      exact seen

theorem touch_known (jobId : String) (change : Job → Job)
    (keeps : ∀ job, (change job).jobId = job.jobId) :
    (backend.touch jobId change keeps).1 = (backend.board.get? jobId).isSome := by
  rw [touch_fst, get?_board, Option.isSome_map]

/-- A claim runs a queued job, and is refused otherwise. -/
theorem board_claim (jobId hostId workerId : String) (now : Int) :
    (backend.claim jobId hostId workerId now).1 = backend.board.queued jobId ∧
      (backend.claim jobId hostId workerId now).2.board =
        if backend.board.queued jobId then backend.board.restate jobId JobStatus.running.value
        else backend.board := by
  unfold claim Board.queued
  rw [get?_board, get]
  cases stored : backend.jobs.get? jobId with
  | none => exact ⟨rfl, rfl⟩
  | some job =>
      by_cases waiting : job.status = .queued
      · simp only [waiting, ne_eq, not_true_eq_false, ↓reduceIte, Option.map_some, Job.card,
          Option.any_some, decide_true, true_and]
        exact backend.board_mutate jobId _ fun _ => rfl
      · simp [waiting, Job.card]

theorem board_updateStatus (jobId : String) (status : JobStatus) (now : Int) :
    (backend.updateStatus jobId status.value now).1 = .ok (backend.board.get? jobId).isSome ∧
      (backend.updateStatus jobId status.value now).2.board =
        backend.board.restate jobId status.value := by
  have touched : backend.updateStatus jobId status.value now =
      (backend.touch jobId (fun job => { job with status := status, updatedAt := now })
        fun _ => rfl).map .ok id := by
    unfold updateStatus touch
    cases backend.jobs.get? jobId with
    | none => rfl
    | some job => simp
  rw [touched]
  refine ⟨congrArg Except.ok (backend.touch_known jobId _ _), ?_⟩
  exact backend.board_touch jobId _ fun _ => rfl

/-- The waiting jobs are those of the waiting cards, in their order. -/
theorem map_card_queued (jobType queueName : Option String) :
    (backend.queued jobType queueName).map Job.card = backend.board.waiting jobType queueName := by
  unfold queued Board.waiting
  rw [List.map_insertionSort Job.DispatchLe Card.DispatchLe Job.card _ fun _ _ _ _ => Iff.rfl,
    values_board, List.filter_map]
  congr 2
  apply List.filter_congr
  intro job _
  simp only [Function.comp_apply, Card.waits, Job.card, JobStatus.value_inj, Job.matchesFilters,
    Card.wanted, Bool.and_assoc]
  rfl

/-- **The memory backend refines the board.** -/
theorem refines_board {op : BackendOp} (admissible : backend.board.Admissible op) :
    (contract.perform op backend).1.map BackendResult.seen = .ok (backend.board.answer op) ∧
      (contract.perform op backend).2.board = backend.board.apply op := by
  cases op with
  | enqueue job now => exact ⟨rfl, Dict.mapValues_set _ _ _ _⟩
  | dequeue limit jobType queueName =>
      refine ⟨?_, rfl⟩
      have read : backend.dequeue limit jobType queueName =
          (backend.queued jobType queueName).take limit.toNat := if_pos admissible.1
      have ids : (backend.dequeue limit jobType queueName).map Job.jobId =
          ((backend.board.waiting jobType queueName).take limit.toNat).map Card.jobId := by
        rw [read, ← map_card_queued, ← List.map_take, List.map_map]
        rfl
      exact congrArg (fun ids => Except.ok (BackendResult.jobIds ids)) ids
  | claim jobId hostId workerId now =>
      obtain ⟨answered, left⟩ := backend.board_claim jobId hostId workerId now
      exact ⟨congrArg (fun flag => Except.ok (BackendResult.flag flag)) answered, left⟩
  | release jobId now =>
      refine ⟨congrArg (fun flag => Except.ok (BackendResult.flag flag))
        (backend.touch_known jobId _ _), ?_⟩
      exact backend.board_touch jobId _ fun _ => rfl
  | heartbeat jobId now =>
      refine ⟨congrArg (fun flag => Except.ok (BackendResult.flag flag))
        (backend.touch_known jobId _ _), ?_⟩
      exact backend.board_touch_of_same jobId _ fun _ => rfl
  | updateStatus jobId status now =>
      obtain ⟨known, rfl⟩ := admissible
      obtain ⟨answered, left⟩ := backend.board_updateStatus jobId known now
      refine ⟨?_, left⟩
      exact congrArg (fun result : Except PyError Bool =>
        (result.map BackendResult.flag).map BackendResult.seen) answered
  | recordAttempt jobId error now => exact admissible.elim

end MemoryQueueBackend

end CloudDogJobs
