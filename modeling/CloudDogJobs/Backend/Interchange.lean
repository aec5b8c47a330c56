import CloudDogJobs.Backend.Board
import CloudDogJobs.Foundation.Sequence
import CloudDogJobs.Storage.RoundTrip

/-!
# Memory and SQL are interchangeable

Both backends are driven through the same calls, one after the other. The SQL
backend refines the board as the memory backend does, for any order in which the
database returns rows that its statement leaves open: rows that tie in `ORDER BY`,
and the rows of a selection without one.
-/

namespace CloudDogJobs

open Foundation

/-- A row as `enqueue` and the calls on it write it: `row_to_job` decodes it. -/
structure JobRow.Readable (row : JobRow) : Prop where
  payload : ∃ payload, row.payload = .object payload
  metadata : ∃ metadata, row.metadata = .object metadata ∧ CountsDecode metadata
  status : ∃ status : JobStatus, row.status = status.value

/-- A row that decodes gives a job with its card. -/
theorem card_of_rowToJob {loads : String → Except PyError Value} {row : JobRow} {job : Job}
    (decoded : rowToJob loads row = .ok job) : job.card = row.card := by
  unfold rowToJob at decoded
  obtain ⟨payload, _, decoded⟩ := exists_of_bind_ok decoded
  obtain ⟨metadata, _, decoded⟩ := exists_of_bind_ok decoded
  obtain ⟨status, parsed, decoded⟩ := exists_of_bind_ok decoded
  obtain ⟨attempt, _, decoded⟩ := exists_of_bind_ok decoded
  obtain ⟨maxAttempts, _, decoded⟩ := exists_of_bind_ok decoded
  rw [← Except.ok.inj decoded, JobRow.card, ← JobStatus.value_of_parse parsed]
  rfl

/-- A readable row decodes. -/
theorem JobRow.Readable.decodes {row : JobRow} (readable : row.Readable)
    (loads : String → Except PyError Value) :
    ∃ job, rowToJob loads row = .ok job ∧ job.card = row.card := by
  obtain ⟨payload, payloadCell⟩ := readable.payload
  obtain ⟨metadata, metadataCell, ⟨_, attempts⟩, ⟨_, maxAttempts⟩⟩ := readable.metadata
  obtain ⟨status, statusText⟩ := readable.status
  have decoded : ∃ job, rowToJob loads row = .ok job := by
    unfold rowToJob
    simp only [payloadCell, metadataCell, statusText, JsonCell.decode, JsonCell.decodeOrEmpty,
      JobStatus.parse_value, attempts, maxAttempts, bind, Except.bind]
    exact ⟨_, rfl⟩
  obtain ⟨job, decoded⟩ := decoded
  exact ⟨job, decoded, card_of_rowToJob decoded⟩

theorem readable_rowOf (job : Job) : (SQLAlchemyJobRepository.rowOf job).Readable where
  payload := ⟨_, rfl⟩
  metadata := ⟨_, rfl, ⟨0, rfl⟩, ⟨3, rfl⟩⟩
  status := ⟨_, rfl⟩

namespace JobTable

/-- Every row decodes. -/
def Readable (table : JobTable) : Prop :=
  ∀ jobId row, table.rows.get? jobId = some row → row.Readable

/-- The cards of the rows. -/
def board (table : JobTable) : Board := table.rows.mapValues JobRow.card

variable {table : JobTable} {jobId : String} {condition : JobRow → Bool}
  {change : JobRow → JobRow}

theorem get?_board (table : JobTable) (jobId : String) :
    table.board.get? jobId = (table.rows.get? jobId).map JobRow.card :=
  Dict.get?_mapValues _ _ _

theorem values_board (table : JobTable) :
    table.board.values = table.rows.values.map JobRow.card :=
  Dict.values_mapValues _ _

/-- The rows that match the `WHERE` of a read of the queue. -/
def matching (table : JobTable) (jobType queueName : Option String) : List JobRow :=
  table.rows.values.filter fun row =>
    row.status = JobStatus.queued.value && passes jobType row.jobType &&
      passes queueName row.queueName

/-- What a database may return for a read of the queue: any order that `ORDER BY`
asks for, cut by `LIMIT`. -/
def Selects (table : JobTable) (limit : Int) (jobType queueName : Option String)
    (rows : List JobRow) : Prop :=
  ∃ ordered : List JobRow, ordered.Perm (table.matching jobType queueName) ∧
    ordered.Pairwise RowLe ∧ rows = limited limit ordered

instance : Std.Total RowLe := ⟨fun first second => by
  unfold RowLe
  omega⟩

instance : IsTrans JobRow RowLe := ⟨fun first second third below above => by
  unfold RowLe at *
  omega⟩

/-- The stable order of `selectQueued` is one of them. -/
theorem selects_selectQueued (table : JobTable) (limit : Int) (jobType queueName : Option String) :
    table.Selects limit jobType queueName (table.selectQueued limit jobType queueName) :=
  ⟨_, List.perm_insertionSort _ _, List.pairwise_insertionSort _ _, rfl⟩

theorem mem_of_mem_limited {α : Type} {limit : Int} {rows : List α} {row : α}
    (member : row ∈ limited limit rows) : row ∈ rows := by
  unfold limited at member
  split at member
  · exact member
  · exact List.mem_of_mem_take member

theorem passes_eq_wanted {filter : Option String} (named : filter ≠ some "") (value : String) :
    passes filter value = Card.wanted filter value := by
  cases filter with
  | none => rfl
  | some text =>
      have filled : text ≠ "" := fun empty => named (congrArg some empty)
      simp [passes, Card.wanted, filled]

/-- Without ties, every answer of the database shows the cards that the board has
waiting. -/
theorem map_card_of_selects (untied : table.board.Untied) {limit : Int}
    {jobType queueName : Option String} (wide : 0 ≤ limit) (namedType : jobType ≠ some "")
    (namedQueue : queueName ≠ some "") {rows : List JobRow}
    (selected : table.Selects limit jobType queueName rows) :
    rows.map JobRow.card = (table.board.waiting jobType queueName).take limit.toNat := by
  obtain ⟨ordered, same, sorted, rfl⟩ := selected
  have cards : (table.matching jobType queueName).map JobRow.card =
      table.board.values.filter (Card.waits jobType queueName) := by
    rw [values_board, List.filter_map]
    unfold matching
    congr 1
    apply List.filter_congr
    intro row _
    simp only [passes_eq_wanted namedType, passes_eq_wanted namedQueue]
    rfl
  have waiting : ordered.map JobRow.card = table.board.waiting jobType queueName := by
    apply Board.eq_waiting_of_untied untied
    · rw [← cards]
      exact same.map _
    · exact List.pairwise_map.mpr sorted
  have cut : limited limit ordered = ordered.take limit.toNat := if_neg (by omega)
  rw [cut, List.map_take, waiting]

theorem Readable.of_mem (readable : table.Readable) {row : JobRow}
    (member : row ∈ table.rows.values) : row.Readable := by
  obtain ⟨jobId, stored⟩ := (table.rows.mem_values_iff row).mp member
  exact readable jobId row stored

theorem Readable.of_selects (readable : table.Readable) {limit : Int}
    {jobType queueName : Option String} {rows : List JobRow}
    (selected : table.Selects limit jobType queueName rows) {row : JobRow} (member : row ∈ rows) :
    row.Readable := by
  obtain ⟨ordered, same, _, rfl⟩ := selected
  have matched := same.mem_iff.mp (mem_of_mem_limited member)
  exact readable.of_mem (List.mem_filter.mp matched).1

theorem Readable.update (readable : table.Readable)
    {keeps : ∀ row, (change row).jobId = row.jobId}
    (changed : ∀ row : JobRow, row.Readable → (change row).Readable) :
    (table.update jobId condition change keeps).2.Readable :=
  forall_rows_update readable fun before stored => changed before (readable jobId before stored)

theorem Readable.insert (readable : table.Readable) {row : JobRow} (new : row.Readable) :
    (table.insert row).2.Readable :=
  forall_rows_insert readable new

theorem board_insert {row : JobRow} (absent : table.rows.get? row.jobId = none) :
    (table.insert row).2.board = table.board.set row.jobId row.card := by
  unfold board
  rw [(insert_of_absent absent).2]
  exact Dict.mapValues_set _ _ _ _

/-- An update that a card shows as a status, on a row that it matches. -/
theorem board_update {keeps : ∀ row, (change row).jobId = row.jobId} {status : String}
    (restates : ∀ row, (change row).card = { row.card with status := status })
    (matched : (table.rows.get? jobId).any condition = true) :
    (table.update jobId condition change keeps).2.board = table.board.restate jobId status := by
  have seen := Dict.mapValues_modify JobRow.card (fun card => { card with status := status })
    restates table.rows jobId
  unfold update
  cases stored : table.rows.get? jobId with
  | none =>
      rw [stored] at matched
      cases matched
  | some row =>
      rw [stored, Option.any_some] at matched
      simp only [matched, ↓reduceIte]
      exact seen

/-- An update without a condition. -/
theorem board_update_always {keeps : ∀ row, (change row).jobId = row.jobId} {status : String}
    (restates : ∀ row, (change row).card = { row.card with status := status }) :
    (table.update jobId (fun _ => true) change keeps).2.board =
      table.board.restate jobId status := by
  cases stored : table.rows.get? jobId with
  | none =>
      have absent : table.board.get? jobId = none := by
        rw [get?_board, stored]
        rfl
      rw [Board.restate_of_absent absent, update_of_not_any keeps (by simp [stored])]
  | some row => exact board_update restates (by simp [stored])

/-- An update that a card does not show. -/
theorem board_update_of_same {keeps : ∀ row, (change row).jobId = row.jobId}
    (same : ∀ row, (change row).card = row.card) :
    (table.update jobId condition change keeps).2.board = table.board := by
  have seen := Dict.mapValues_modify JobRow.card (fun card => card) same table.rows jobId
  rw [Dict.modify_id] at seen
  unfold update
  cases table.rows.get? jobId with
  | none => rfl
  | some row =>
      by_cases met : condition row = true
      · simp only [met, ↓reduceIte]
        exact seen
      · simp only [met]
        rfl

end JobTable

namespace SQLQueueBackend

variable (backend : SQLQueueBackend) (table : JobTable)

/-- What a call may answer: where the statement leaves the order of rows open, for
any of these orders. -/
def Answers : BackendOp → Except PyError BackendResult → Prop
  | .dequeue limit jobType queueName, result =>
      ∃ rows, table.Selects limit jobType queueName rows ∧
        result = (rows.mapM (rowToJob backend.repo.loads)).map .jobs
  | op, result => result = (backend.contract.perform op table).1

/-- The answer of the contract is one of them. -/
theorem answers_perform (op : BackendOp) :
    backend.Answers table op (backend.contract.perform op table).1 := by
  cases op with
  | dequeue limit jobType queueName =>
      exact ⟨_, table.selects_selectQueued limit jobType queueName, rfl⟩
  | _ => rfl

variable {table}

theorem board_claim (readable : table.Readable) (jobId hostId workerId : String) (now : Int) :
    ((claim jobId hostId workerId now).run JobTable.exec table).1 =
        .ok (table.board.queued jobId) ∧
      ((claim jobId hostId workerId now).run JobTable.exec table).2.board =
        (if table.board.queued jobId then table.board.restate jobId JobStatus.running.value
        else table.board) ∧
      ((claim jobId hostId workerId now).run JobTable.exec table).2.Readable := by
  cases stored : table.rows.get? jobId with
  | none =>
      have unqueued : table.board.queued jobId = false := by
        rw [Board.queued, JobTable.get?_board, stored]
        rfl
      rw [run_claim_of_absent table jobId now hostId workerId stored, unqueued]
      exact ⟨rfl, rfl, readable⟩
  | some row =>
      obtain ⟨metadata, cell, counts⟩ := (readable jobId row stored).metadata
      rw [run_claim_of_object table jobId now hostId workerId stored cell]
      have queued : table.board.queued jobId = decide (row.status = JobStatus.queued.value) := by
        rw [Board.queued, JobTable.get?_board, stored]
        rfl
      rw [queued]
      refine ⟨rfl, ?_, ?_⟩
      · by_cases waiting : row.status = JobStatus.queued.value
        · rw [if_pos (decide_eq_true waiting)]
          refine JobTable.board_update (fun _ => rfl) ?_
          rw [stored, Option.any_some, decide_eq_true waiting]
        · rw [if_neg (by simp [waiting])]
          refine congrArg JobTable.board (JobTable.update_of_not_any ?_ ?_)
          · exact fun _ => rfl
          · rw [stored, Option.any_some, decide_eq_false waiting]
            exact Bool.false_ne_true
      · refine readable.update fun before kept => ?_
        refine ⟨kept.payload, ⟨_, rfl, ?_⟩, ⟨.running, rfl⟩⟩
        apply CountsDecode.set
        · exact counts.set _ (by decide) (by decide)
        · decide
        · decide

theorem board_updateStatus (readable : table.Readable) (jobId : String) (status : JobStatus)
    (now : Int) :
    ((updateStatus jobId status.value now).run JobTable.exec table).1 =
        .ok (table.board.get? jobId).isSome ∧
      ((updateStatus jobId status.value now).run JobTable.exec table).2.board =
        table.board.restate jobId status.value ∧
      ((updateStatus jobId status.value now).run JobTable.exec table).2.Readable := by
  rw [run_updateStatus, JobTable.get?_board, Option.isSome_map]
  refine ⟨rfl, ?_, ?_⟩
  · exact JobTable.board_update_always fun _ => rfl
  · exact readable.update fun row kept =>
      ⟨kept.payload, kept.metadata, ⟨status, rfl⟩⟩

theorem board_heartbeat (readable : table.Readable) (jobId : String) (now : Int) :
    ((heartbeat jobId now).run JobTable.exec table).1 = .ok (table.board.get? jobId).isSome ∧
      ((heartbeat jobId now).run JobTable.exec table).2.board = table.board ∧
      ((heartbeat jobId now).run JobTable.exec table).2.Readable := by
  rw [run_heartbeat, JobTable.get?_board, Option.isSome_map]
  refine ⟨rfl, ?_, ?_⟩
  · exact JobTable.board_update_of_same fun _ => rfl
  · exact readable.update fun row kept => ⟨kept.payload, kept.metadata, kept.status⟩

theorem board_enqueue (readable : table.Readable) {job : Job}
    (absent : table.board.get? job.jobId = none) :
    ((enqueue job).run JobTable.exec table).1 = .ok job.jobId ∧
      ((enqueue job).run JobTable.exec table).2.board = table.board.set job.jobId job.card ∧
      ((enqueue job).run JobTable.exec table).2.Readable := by
  rw [JobTable.get?_board, Option.map_eq_none_iff] at absent
  rw [run_enqueue_of_absent table absent]
  exact ⟨rfl, JobTable.board_insert absent, readable.insert (readable_rowOf job)⟩

/-- Every answer that a database may give to a read of the queue decodes to the jobs
that the board has waiting. -/
theorem dequeue_refines (readable : table.Readable) (untied : table.board.Untied) {limit : Int}
    {jobType queueName : Option String}
    (admissible : table.board.Admissible (.dequeue limit jobType queueName))
    {result : Except PyError BackendResult}
    (answered : backend.Answers table (.dequeue limit jobType queueName) result) :
    result.map BackendResult.seen =
      .ok (table.board.answer (.dequeue limit jobType queueName)) := by
  obtain ⟨wide, namedType, namedQueue⟩ := admissible
  obtain ⟨rows, selected, rfl⟩ := answered
  obtain ⟨jobs, decoded, cards⟩ := exists_mapM_ok fun row member =>
    (readable.of_selects selected member).decodes backend.repo.loads
  rw [JobTable.map_card_of_selects untied wide namedType namedQueue selected] at cards
  rw [decoded]
  have ids : jobs.map Job.jobId =
      ((table.board.waiting jobType queueName).take limit.toNat).map Card.jobId := by
    rw [← cards, List.map_map]
    rfl
  exact congrArg (fun ids => Except.ok (BackendResult.jobIds ids)) ids

/-- **The SQL backend refines the board**, the order of the queue up to ties. -/
theorem refines_board (readable : table.Readable) {op : BackendOp}
    (admissible : table.board.Admissible op) :
    (∀ result, backend.Answers table op result →
      (∀ limit jobType queueName, op = .dequeue limit jobType queueName → table.board.Untied) →
        result.map BackendResult.seen = .ok (table.board.answer op)) ∧
      (backend.contract.perform op table).2.board = table.board.apply op ∧
      (backend.contract.perform op table).2.Readable := by
  have flagged : ∀ {result : Except PyError Bool} {flag : Bool}, result = .ok flag →
      (result.map BackendResult.flag).map BackendResult.seen = .ok (.flag flag) := by
    intro result flag same
    rw [same]
    rfl
  cases op with
  | enqueue job now =>
      obtain ⟨answered, left, kept⟩ := board_enqueue readable admissible.1
      refine ⟨fun result same _ => ?_, left, kept⟩
      rw [show result = _ from same]
      exact congrArg (fun result : Except PyError String =>
        (result.map BackendResult.jobId).map BackendResult.seen) answered
  | dequeue limit jobType queueName =>
      refine ⟨fun result answered untied => ?_, rfl, readable⟩
      exact backend.dequeue_refines readable (untied limit jobType queueName rfl) admissible
        answered
  | claim jobId hostId workerId now =>
      obtain ⟨answered, left, kept⟩ := board_claim readable jobId hostId workerId now
      refine ⟨fun result same _ => ?_, left, kept⟩
      rw [show result = _ from same]
      exact flagged answered
  | release jobId now =>
      obtain ⟨answered, left, kept⟩ := board_updateStatus readable jobId .queued now
      refine ⟨fun result same _ => ?_, left, kept⟩
      rw [show result = _ from same]
      exact flagged answered
  | heartbeat jobId now =>
      obtain ⟨answered, left, kept⟩ := board_heartbeat readable jobId now
      refine ⟨fun result same _ => ?_, left, kept⟩
      rw [show result = _ from same]
      exact flagged answered
  | updateStatus jobId status now =>
      obtain ⟨known, rfl⟩ := admissible
      obtain ⟨answered, left, kept⟩ := board_updateStatus readable jobId known now
      refine ⟨fun result same _ => ?_, left, kept⟩
      rw [show result = _ from same]
      exact flagged answered
  | recordAttempt jobId error now => exact admissible.elim

/-- A memory backend and a table under the same call. -/
def beside (state : MemoryQueueBackend × JobTable) (op : BackendOp) :
    MemoryQueueBackend × JobTable :=
  ((MemoryQueueBackend.contract.perform op state.1).2, (backend.contract.perform op state.2).2)

/-- Both backends give the same answer, a read of the queue where no two queued jobs
share both their priority and their time of creation. -/
def SameAnswer (state : MemoryQueueBackend × JobTable) (op : BackendOp) : Prop :=
  ∀ result, backend.Answers state.2 op result →
    (∀ limit jobType queueName, op = .dequeue limit jobType queueName → state.1.board.Untied) →
      ∃ answer, result.map BackendResult.seen = .ok answer ∧
        (MemoryQueueBackend.contract.perform op state.1).1.map BackendResult.seen = .ok answer

/-- Both backends show the same jobs and the same counts, in whichever order the
database lists its rows. -/
structure SameReads (state : MemoryQueueBackend × JobTable) : Prop where
  get : ∀ jobId, ∃ found, backend.contract.get jobId state.2 = .ok found ∧
    found.map Job.card = (state.1.get jobId).map Job.card
  allJobs : ∀ rows : List JobRow, rows.Perm state.2.rows.values →
    ∃ jobs, rows.mapM (rowToJob backend.repo.loads) = .ok jobs ∧
      (jobs.map Job.card).Perm (state.1.allJobs.map Job.card)
  counts : ∀ rows : List JobRow, rows.Perm state.2.rows.values → ∀ status,
    (Dict.counter (rows.map JobRow.status)).get? status = state.1.getQueueStatus.get? status

/-- The table shows the cards of the memory backend, and every row decodes. -/
structure Shows (state : MemoryQueueBackend × JobTable) : Prop where
  board : state.2.board = state.1.board
  readable : state.2.Readable

variable {state : MemoryQueueBackend × JobTable}

/-- One call on both backends. -/
theorem Shows.step (shows : Shows state) {op : BackendOp}
    (admissible : state.1.board.Admissible op) :
    backend.SameAnswer state op ∧ Shows (backend.beside state op) := by
  have shown : state.2.board.Admissible op := shows.board ▸ admissible
  obtain ⟨answered, left⟩ := state.1.refines_board admissible
  obtain ⟨refines, table, readable⟩ := backend.refines_board shows.readable shown
  rw [shows.board] at refines table
  refine ⟨fun result given untied => ?_, ?_⟩
  · exact ⟨_, refines result given untied, answered⟩
  · exact ⟨table.trans left.symm, readable⟩

theorem Shows.get (shows : Shows state) (jobId : String) :
    ∃ found, backend.contract.get jobId state.2 = .ok found ∧
      found.map Job.card = (state.1.get jobId).map Job.card := by
  rw [← MemoryQueueBackend.get?_board, ← shows.board, JobTable.get?_board]
  unfold contract SQLQueueBackend.get SQLAlchemyJobRepository.get
  simp only [Prog.issue_bind, Prog.run_act, JobTable.exec]
  cases stored : state.2.rows.get? jobId with
  | none => exact ⟨none, rfl, rfl⟩
  | some row =>
      obtain ⟨job, decoded, same⟩ := (shows.readable jobId row stored).decodes backend.repo.loads
      refine ⟨some job, ?_, congrArg some same⟩
      simp only [decoded]
      rfl

theorem Shows.sameReads (shows : Shows state) : backend.SameReads state where
  get := shows.get backend
  allJobs := by
    intro rows listed
    obtain ⟨jobs, decoded, cards⟩ := exists_mapM_ok fun row member =>
      (shows.readable.of_mem (listed.mem_iff.mp member)).decodes backend.repo.loads
    refine ⟨jobs, decoded, ?_⟩
    rw [cards, ← MemoryQueueBackend.values_board, ← shows.board, JobTable.values_board]
    exact listed.map _
  counts := by
    intro rows listed status
    have column : (rows.map JobRow.status).Perm
        (state.1.jobs.values.map fun job => job.status.value) := by
      have cards := congrArg (List.map Card.status)
        (congrArg Dict.values shows.board)
      rw [JobTable.values_board, MemoryQueueBackend.values_board, List.map_map, List.map_map]
        at cards
      exact (listed.map _).trans (.of_eq cards)
    unfold MemoryQueueBackend.getQueueStatus
    rw [Dict.get?_counter, Dict.get?_counter, column.count_eq]
    simp only [column.mem_iff]

/-- **Interchangeability.** Whatever the calls, as long as new jobs are queued and have
new identifiers, statuses are those of `JobStatus`, limits are not negative and filters
not empty: the memory backend and the SQL backend answer each call alike, the ids of a
read of the queue included where no two queued jobs tie, and between the calls they show
the same jobs with the same statuses and the same counts. -/
theorem interchangeable {ops : List BackendOp}
    (admissible : Guarded backend.beside (fun state op => state.1.board.Admissible op)
      (.empty, .empty) ops) :
    Guarded backend.beside backend.SameAnswer (.empty, .empty) ops ∧
      Throughout backend.beside backend.SameReads (.empty, .empty) ops := by
  have start : Shows (.empty, .empty) := ⟨rfl, fun _ _ found => by cases found⟩
  refine ⟨?_, ?_⟩
  · exact admissible.of_invariant (fun state op shows met => shows.step backend met) start
  · exact Throughout.of_invariant (fun state op shows met => (shows.step backend met).2)
      (fun state shows => shows.sameReads backend) start admissible

section Sample

/-- Two jobs, the second ahead of the first, through the whole of their lives. -/
def sampleCalls : List BackendOp :=
  [.enqueue (.fromRequest { jobType := "task" } "first" 0) 0,
   .enqueue (.fromRequest { jobType := "task", priority := 3 } "second" 1) 1,
   .dequeue 5 (some "task") none,
   .claim "second" "host" "worker" 2,
   .heartbeat "second" 3,
   .updateStatus "second" JobStatus.succeeded.value 4,
   .claim "first" "host" "worker" 5,
   .release "first" 6]

theorem sample_calls_interchange :
    Guarded decodingBackend.beside decodingBackend.SameAnswer (.empty, .empty) sampleCalls ∧
      Throughout decodingBackend.beside decodingBackend.SameReads (.empty, .empty) sampleCalls := by
  apply decodingBackend.interchangeable
  refine ⟨⟨rfl, rfl⟩, ⟨rfl, rfl⟩, ?_, trivial, trivial, ⟨.succeeded, rfl⟩, trivial, trivial,
    trivial⟩
  exact ⟨by decide, by decide, by decide⟩

end Sample

end SQLQueueBackend

end CloudDogJobs
