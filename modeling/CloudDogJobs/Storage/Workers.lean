import CloudDogJobs.Backend.Interchange
import CloudDogJobs.Worker.Restriction

/-!
# Workers on the SQL backend

`row_to_job` raises on a row with a status that is no `JobStatus`, or with metadata that
is no object. On a table without such rows every call of a worker returns and leaves a
table without such rows, so the worker meets a lawful backend.
-/

namespace CloudDogJobs

open Foundation

/-- What the scheduling layers read of a row. The table has no columns for resources and
dependencies. -/
def JobRow.ticket (row : JobRow) : Option Ticket :=
  (JobStatus.ofValue? row.status).map fun status => ⟨status, row.jobType, ∅, []⟩

/-- A row whose status is rewritten. -/
theorem ticket_withStatus {row changed : JobRow} (readable : row.Readable) (status : JobStatus)
    (written : changed.status = status.value) (same : changed.jobType = row.jobType) :
    changed.ticket = row.ticket.map fun ticket => ticket.withStatus status := by
  obtain ⟨before, text⟩ := readable.status
  rw [JobRow.ticket, JobRow.ticket, written, same, text, JobStatus.ofValue?_value,
    JobStatus.ofValue?_value]
  rfl

/-- A row that decodes gives a job with its ticket. -/
theorem ticket_of_rowToJob {loads : String → Except PyError Value} {row : JobRow} {job : Job}
    (decoded : rowToJob loads row = .ok job) :
    row.ticket = some job.ticket ∧ job.jobId = row.jobId := by
  have card := card_of_rowToJob decoded
  have status : row.status = job.status.value := (congrArg Card.status card).symm
  unfold rowToJob at decoded
  obtain ⟨payload, _, decoded⟩ := exists_of_bind_ok decoded
  obtain ⟨metadata, _, decoded⟩ := exists_of_bind_ok decoded
  obtain ⟨parsed, _, decoded⟩ := exists_of_bind_ok decoded
  obtain ⟨attempt, _, decoded⟩ := exists_of_bind_ok decoded
  obtain ⟨maxAttempts, _, decoded⟩ := exists_of_bind_ok decoded
  rw [JobRow.ticket, status, JobStatus.ofValue?_value, ← Except.ok.inj decoded]
  exact ⟨rfl, rfl⟩

namespace JobTable

/-- The tickets of the rows. -/
def view (table : JobTable) (jobId : String) : Option Ticket :=
  (table.rows.get? jobId).bind JobRow.ticket

variable {table : JobTable} {jobId other : String} {condition : JobRow → Bool}
  {change : JobRow → JobRow}

theorem view_of_get? {row : JobRow} (stored : table.rows.get? jobId = some row) :
    table.view jobId = row.ticket := by
  rw [view, stored]
  rfl

/-- The calls of a worker find tickets in the rows that are stored. -/
theorem Readable.isSome_view (readable : table.Readable) (jobId : String) :
    (table.view jobId).isSome = (table.rows.get? jobId).isSome := by
  cases stored : table.rows.get? jobId with
  | none =>
      rw [view, stored]
      rfl
  | some row =>
      obtain ⟨status, text⟩ := (readable jobId row stored).status
      rw [view_of_get? stored, JobRow.ticket, text, JobStatus.ofValue?_value]
      rfl

/-- An update shows in the ticket of the row that it matched. -/
theorem view_update {keeps : ∀ row, (change row).jobId = row.jobId}
    {moved : Ticket → Ticket} (shows : ∀ row, row.Readable →
      (change row).ticket = row.ticket.map moved) (readable : table.Readable) :
    (table.update jobId condition change keeps).2.view other =
      if other = jobId ∧ (table.update jobId condition change keeps).1 = 1
      then (table.view jobId).map moved else table.view other := by
  rw [view, get?_update]
  split
  · cases stored : table.rows.get? jobId with
    | none =>
        rw [view, stored]
        rfl
    | some row =>
        rw [view_of_get? stored]
        exact shows row (readable jobId row stored)
  · rfl

theorem view_update_always {keeps : ∀ row, (change row).jobId = row.jobId}
    {moved : Ticket → Ticket} (shows : ∀ row, row.Readable →
      (change row).ticket = row.ticket.map moved) (readable : table.Readable) :
    (table.update jobId (fun _ => true) change keeps).2.view other =
      if other = jobId then (table.view jobId).map moved else table.view other := by
  rw [view_update shows readable, update_fst]
  cases stored : table.rows.get? jobId with
  | none =>
      have absent : table.view jobId = none := by
        rw [view, stored]
        rfl
      rw [if_neg (by simp), absent]
      split
      · next same => rw [same, absent]; rfl
      · rfl
  | some row => simp

end JobTable

namespace SQLQueueBackend

variable (backend : SQLQueueBackend)

/-- An attempt that is counted writes a number, and the error beside it. -/
theorem countAttempt_eq_ok {metadata changed : Dict String Value} {error : Option String}
    (counted : SQLAlchemyJobRepository.countAttempt error metadata = .ok changed) :
    ∃ count : Int, changed = metadata.set "attempts" (.int count) ∨
      ∃ message, changed =
        (metadata.set "attempts" (.int count)).set "last_error" (.str message) := by
  unfold SQLAlchemyJobRepository.countAttempt at counted
  dsimp only at counted
  cases error with
  | none =>
      split at counted
      · exact ⟨_, .inl (Except.ok.inj counted).symm⟩
      · exact ⟨_, .inl (Except.ok.inj counted).symm⟩
      · cases counted
  | some message =>
      split at counted
      · exact ⟨_, .inr ⟨message, (Except.ok.inj counted).symm⟩⟩
      · exact ⟨_, .inr ⟨message, (Except.ok.inj counted).symm⟩⟩
      · cases counted

theorem countsDecode_attempts {metadata : Dict String Value} (counts : CountsDecode metadata)
    (count : Int) : CountsDecode (metadata.set "attempts" (.int count)) where
  attempts := by
    rw [Dict.get?_set_self]
    unfold countOf
    dsimp only
    split
    · exact ⟨_, rfl⟩
    · exact ⟨_, rfl⟩
  maxAttempts := by
    rw [Dict.get?_set_of_ne _ _ (by decide)]
    exact counts.maxAttempts

theorem readable_recordAttempt {table : JobTable} (readable : table.Readable) (jobId : String)
    (error : Option String) (now : Int) :
    ((backend.recordAttempt jobId error now).run JobTable.exec table).2.Readable := by
  unfold recordAttempt SQLAlchemyJobRepository.recordAttempt SQLAlchemyJobRepository.amendMeta
  rw [Prog.issue_bind, Prog.run_act]
  simp only [JobTable.exec]
  cases stored : table.rows.get? jobId with
  | none => exact readable
  | some row =>
      obtain ⟨metadata, cell, counts⟩ := (readable jobId row stored).metadata
      simp only [Option.map_some, cell, SQLAlchemyJobRepository.storedMeta, ok_bind]
      cases counted : SQLAlchemyJobRepository.countAttempt error metadata with
      | error raised => exact readable
      | ok changed =>
          have decode : CountsDecode changed := by
            obtain ⟨count, rfl | ⟨message, rfl⟩⟩ := countAttempt_eq_ok counted
            · exact countsDecode_attempts counts count
            · exact (countsDecode_attempts counts count).set _ (by decide) (by decide)
          exact readable.update fun before kept =>
            ⟨kept.payload, ⟨changed, rfl, decode⟩, kept.status⟩

/-- The calls keep a table readable. -/
theorem keeps_readable : backend.contract.KeepsSound JobTable.Readable where
  enqueue job _ table readable := by
    show ((enqueue job).run JobTable.exec table).2.Readable
    rw [run_enqueue]
    exact readable.insert (readable_rowOf job)
  claim jobId hostId workerId now _ readable :=
    (board_claim readable jobId hostId workerId now).2.2
  release jobId now _ readable := (board_updateStatus readable jobId .queued now).2.2
  heartbeat jobId now _ readable := (board_heartbeat readable jobId now).2.2
  updateStatus jobId status now _ readable := (board_updateStatus readable jobId status now).2.2
  recordAttempt jobId error now _ readable :=
    backend.readable_recordAttempt readable jobId error now

section Laws

variable {table : JobTable} (readable : table.Readable)

include readable

theorem view_claim (jobId hostId workerId : String) (now : Int) (other : String) :
    ((claim jobId hostId workerId now).run JobTable.exec table).2.view other =
      if other = jobId ∧
          ((claim jobId hostId workerId now).run JobTable.exec table).1 = .ok true
      then (table.view jobId).map fun ticket => ticket.withStatus .running
      else table.view other := by
  cases stored : table.rows.get? jobId with
  | none =>
      rw [run_claim_of_absent table jobId now hostId workerId stored]
      exact (if_neg fun both => by cases both.2).symm
  | some row =>
      obtain ⟨metadata, cell, _⟩ := (readable jobId row stored).metadata
      rw [run_claim_of_object table jobId now hostId workerId stored cell]
      have moved : ∀ row : JobRow, row.Readable →
          ({ row with
            status := JobStatus.running.value
            claimedBy := some (hostId ++ ":" ++ workerId)
            metadata := .object
              ((metadata.set "host_id" (.str hostId)).set "worker_id" (.str workerId))
            updatedAt := now } : JobRow).ticket =
              row.ticket.map fun ticket => ticket.withStatus .running :=
        fun row kept => ticket_withStatus kept .running rfl rfl
      simp only [JobTable.exec]
      rw [JobTable.view_update moved readable, JobTable.update_fst, stored]
      simp only [Option.any_some, decide_eq_true_eq, Except.ok.injEq]
      by_cases queued : row.status = JobStatus.queued.value
      · simp only [queued, ↓reduceIte, and_true]
      · simp only [queued, ↓reduceIte, Nat.zero_ne_one, and_false]

theorem view_updateStatus (jobId : String) (status : JobStatus) (now : Int) (other : String) :
    ((updateStatus jobId status.value now).run JobTable.exec table).2.view other =
      if other = jobId then (table.view jobId).map fun ticket => ticket.withStatus status
      else table.view other := by
  rw [run_updateStatus]
  exact JobTable.view_update_always (fun row kept => ticket_withStatus kept status rfl rfl)
    readable

theorem view_heartbeat (jobId : String) (now : Int) (other : String) :
    ((heartbeat jobId now).run JobTable.exec table).2.view other = table.view other := by
  have same : ∀ row : JobRow, row.Readable →
      ({ row with updatedAt := now } : JobRow).ticket = row.ticket.map id :=
    fun row _ => Option.map_id_apply.symm
  rw [run_heartbeat]
  refine (JobTable.view_update_always same readable).trans ?_
  split
  · next found => rw [found, Option.map_id_apply]
  · rfl

/-- The rows of a read of the queue decode. -/
theorem exists_dequeued (limit : Int) (jobType queueName : Option String) :
    ∃ jobs, (table.selectQueued limit jobType queueName).mapM (rowToJob backend.repo.loads) =
        .ok jobs ∧
      jobs.map Job.card = (table.selectQueued limit jobType queueName).map JobRow.card :=
  exists_mapM_ok fun _ member =>
    (readable.of_selects (table.selects_selectQueued limit jobType queueName) member).decodes
      backend.repo.loads

omit readable in
/-- A row that is read back is the job that the table shows. -/
theorem decodes_view {row : JobRow} (member : row ∈ table.rows.values) {job : Job}
    (decoded : rowToJob backend.repo.loads row = .ok job) :
    table.view job.jobId = some job.ticket := by
  obtain ⟨jobId, stored⟩ := (table.rows.mem_values_iff row).mp member
  obtain ⟨shown, named⟩ := ticket_of_rowToJob decoded
  rw [named, table.keyed jobId row stored, JobTable.view_of_get? stored, shown]

end Laws

/-- **On readable tables the SQL backend is lawful.** -/
theorem lawful : (backend.contract.restrict backend.keeps_readable).Lawful
    fun table => table.1.view where
  get jobId table := by
    show ∃ found, backend.contract.get jobId table.1 = .ok found ∧ _
    rw [contract_get]
    cases stored : table.1.rows.get? jobId with
    | none =>
        refine ⟨none, rfl, ?_⟩
        rw [JobTable.view, stored]
        rfl
    | some row =>
        obtain ⟨job, decoded, _⟩ := (table.2 jobId row stored).decodes backend.repo.loads
        refine ⟨some job, ?_, ?_⟩
        · rw [readRow, decoded]
          rfl
        · rw [JobTable.view_of_get? stored, (ticket_of_rowToJob decoded).1]
          rfl
  dequeue limit jobType queueName table := by
    obtain ⟨jobs, decoded, _⟩ := backend.exists_dequeued table.2 limit jobType queueName
    refine ⟨jobs, decoded, fun job member => ?_⟩
    obtain ⟨row, selected, read⟩ := exists_of_mem_mapM decoded member
    have matched := (List.mem_insertionSort _).mp (JobTable.mem_of_mem_limited selected)
    obtain ⟨stored, passed⟩ := List.mem_filter.mp matched
    refine ⟨?_, backend.decodes_view stored read⟩
    have status := congrArg Card.status (card_of_rowToJob read)
    have queued : row.status = JobStatus.queued.value :=
      of_decide_eq_true (Bool.and_eq_true_iff.mp (Bool.and_eq_true_iff.mp passed).1).1
    exact JobStatus.value_injective (status.trans queued)
  dequeue_length limit jobType queueName table jobs returned wide := by
    obtain ⟨_, decoded, cards⟩ := backend.exists_dequeued table.2 limit jobType queueName
    obtain rfl := Except.ok.inj (decoded.symm.trans returned)
    have counted := congrArg List.length cards
    rw [List.length_map, List.length_map] at counted
    rw [counted, JobTable.selectQueued, JobTable.limited, if_neg (by omega)]
    exact List.length_take_le ..
  enqueue_self job now table := by
    show ((enqueue job).run JobTable.exec table.1).2.view job.jobId = table.1.view job.jobId ∨ _
    cases stored : table.1.rows.get? job.jobId with
    | some row =>
        rw [run_enqueue_of_present table.1 stored]
        exact .inl rfl
    | none =>
        refine .inr ⟨⟨job.status, job.jobType, ∅, []⟩, ?_, rfl, rfl, .inr rfl⟩
        show ((enqueue job).run JobTable.exec table.1).2.view job.jobId = _
        rw [run_enqueue_of_absent table.1 stored, JobTable.view, JobTable.get?_insert,
          if_pos ⟨rfl, stored⟩]
        exact congrArg (Option.map _) (JobStatus.ofValue?_value job.status)
  enqueue_other job now table other different := by
    show ((enqueue job).run JobTable.exec table.1).2.view other = table.1.view other
    rw [run_enqueue, JobTable.view, JobTable.get?_insert, if_neg fun both => different both.1]
    rfl
  claim_returns jobId hostId workerId now table :=
    ⟨_, (board_claim table.2 jobId hostId workerId now).1⟩
  claim_queued jobId hostId workerId now table granted := by
    have answer := (board_claim table.2 jobId hostId workerId now).1
    have queued : table.1.board.queued jobId = true := Except.ok.inj (answer.symm.trans granted)
    rw [Board.queued, JobTable.get?_board] at queued
    cases stored : table.1.rows.get? jobId with
    | none =>
        rw [stored] at queued
        cases queued
    | some row =>
        rw [stored] at queued
        have status : row.status = JobStatus.queued.value := of_decide_eq_true queued
        rw [JobTable.view_of_get? stored, JobRow.ticket, status, JobStatus.ofValue?_value]
        rfl
  view_claim jobId hostId workerId now table other :=
    view_claim table.2 jobId hostId workerId now other
  heartbeat_returns jobId now table := ⟨_, (board_heartbeat table.2 jobId now).1⟩
  view_heartbeat jobId now table other := view_heartbeat table.2 jobId now other
  updateStatus_returns jobId status now table := by
    rw [backend.contract.restrict_updateStatus]
    show ((updateStatus jobId status.value now).run JobTable.exec table.1).1 = _
    rw [run_updateStatus, table.2.isSome_view]
  view_updateStatus jobId status now table other := by
    rw [backend.contract.restrict_updateStatus]
    exact view_updateStatus table.2 jobId status now other

/-- **Slots drain beside a readable table.** What `slots_drain_of_sound` says of workers on
the SQL backend. -/
theorem slots_drain_beside_table {ι : Type} [DecidableEq ι] (workers : ι → Worker)
    (shared : Shared JobTable) (readable : shared.store.Readable) (limits : ConcurrencyLimits)
    (pools : Dict String Int) (unusedManager : shared.concurrency = .init limits)
    (unusedPool : shared.pool = .init pools)
    (registered : ∀ jobId row, shared.store.rows.get? jobId = some row →
      ∀ client, row.jobType ∈ (workers client).handlers)
    (schedule : List (Action ι ServiceOp))
    (accountable : (serviceMachine backend.contract workers).Permits NoSharedHolding
      (.initial shared) schedule)
    (quiet : ((serviceMachine backend.contract workers).runFrom (.initial shared)
      schedule).Quiet) :
    ((serviceMachine backend.contract workers).runFrom (.initial shared)
      schedule).shared.Drained := by
  refine slots_drain_of_sound workers backend.keeps_readable shared readable schedule
    backend.lawful limits pools unusedManager unusedPool ?_ accountable quiet
  intro jobId ticket shown client
  obtain ⟨row, stored, same⟩ := Option.bind_eq_some_iff.mp shown
  obtain ⟨status, _, rfl⟩ := Option.map_eq_some_iff.mp same
  exact registered jobId row stored client

end SQLQueueBackend

end CloudDogJobs
