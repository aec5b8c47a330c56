import Mathlib.Data.List.Sort
import CloudDogJobs.Backend.Base
import CloudDogJobs.Foundation.Interleaving
import CloudDogJobs.Storage.Models

/-!
# Job repository and SQL backend

`storage/sqlalchemy/repo.py` and `backends/sql_backend.py`. Each SQL statement is
an atomic step on the table; the methods of the repository are programs over
statements, so a method with a `SELECT` before its `UPDATE` takes two steps.
-/

namespace CloudDogJobs

open Foundation

/-- The jobs table, by primary key. -/
structure JobTable where
  rows : Dict String JobRow
  keyed : ∀ jobId row, rows.get? jobId = some row → row.jobId = jobId

/-- The statements that the repository executes. -/
inductive SqlCall
  | insert (row : JobRow)
  | selectQueued (limit : Int) (jobType queueName : Option String)
  | selectRow (jobId : String)
  | selectMeta (jobId : String)
  /-- `UPDATE … WHERE job_id = … AND status = 'queued'` -/
  | updateClaimed (jobId claimedBy : String) (metadata : Dict String Value) (now : Int)
  | updateStatus (jobId status : String) (clearClaim : Bool) (now : Int)
  | updateTouched (jobId : String) (now : Int)
  | updateMeta (jobId : String) (metadata : Dict String Value) (now : Int)

/-- The rows of a selection, or the number of rows that an update matched. -/
@[reducible] def SqlCall.Reply : SqlCall → Type
  | .insert _ => Except PyError Unit
  | .selectQueued _ _ _ => List JobRow
  | .selectRow _ => Option JobRow
  | .selectMeta _ => Option JsonCell
  | .updateClaimed _ _ _ _ => Nat
  | .updateStatus _ _ _ _ => Nat
  | .updateTouched _ _ => Nat
  | .updateMeta _ _ _ => Nat

abbrev SqlProg (α : Type) : Type := Prog SqlCall SqlCall.Reply α

namespace JobTable

/-- A table without rows. -/
def empty : JobTable := ⟨∅, fun _ _ found => by cases found⟩

/-- The status text of a stored job. -/
def status? (table : JobTable) (jobId : String) : Option String :=
  (table.rows.get? jobId).map JobRow.status

/-- `INSERT`, refused when the primary key is in use. -/
def insert (table : JobTable) (row : JobRow) : Except PyError Unit × JobTable :=
  match table.rows.get? row.jobId with
  | some _ => (.error (.integrityError "UNIQUE constraint failed: jobs.job_id"), table)
  | none =>
      (.ok (),
        { rows := table.rows.set row.jobId row
          keyed := by
            intro jobId stored found
            rw [Dict.get?_set] at found
            split at found
            · next same => rw [same, ← Option.some.inj found]
            · exact table.keyed jobId stored found })

/-- `UPDATE … WHERE job_id = …`, on the row when it meets the condition. -/
def update (table : JobTable) (jobId : String) (condition : JobRow → Bool)
    (change : JobRow → JobRow) (keeps : ∀ row, (change row).jobId = row.jobId) :
    Nat × JobTable :=
  match table.rows.get? jobId with
  | none => (0, table)
  | some row =>
      if condition row then
        (1,
          { rows := table.rows.modify jobId change
            keyed := by
              intro other stored found
              rw [Dict.get?_modify] at found
              split at found
              · next same =>
                  obtain ⟨before, present, rfl⟩ := Option.map_eq_some_iff.mp found
                  rw [keeps, same]
                  exact table.keyed jobId before present
              · exact table.keyed other stored found })
      else (0, table)

/-- `ORDER BY priority DESC, created_at ASC`; rows that tie stay in table order. -/
def RowLe (first second : JobRow) : Prop :=
  second.priority < first.priority ∨
    (first.priority = second.priority ∧ first.createdAt ≤ second.createdAt)

instance : DecidableRel RowLe := fun _ _ => inferInstanceAs (Decidable (_ ∨ _))

/-- An optional filter; an empty text filters nothing. -/
def passes (wanted : Option String) (value : String) : Bool :=
  match wanted with
  | none => true
  | some text => text = "" || value = text

/-- `LIMIT`; a negative one limits nothing, as in SQLite. -/
def limited {α : Type} (limit : Int) (rows : List α) : List α :=
  if limit < 0 then rows else rows.take limit.toNat

def selectQueued (table : JobTable) (limit : Int) (jobType queueName : Option String) :
    List JobRow :=
  limited limit ((table.rows.values.filter fun row =>
    row.status = JobStatus.queued.value && passes jobType row.jobType &&
      passes queueName row.queueName).insertionSort RowLe)

/-- The effect of one statement. -/
def exec : (call : SqlCall) → JobTable → call.Reply × JobTable
  | .insert row, table => table.insert row
  | .selectQueued limit jobType queueName, table =>
      (table.selectQueued limit jobType queueName, table)
  | .selectRow jobId, table => (table.rows.get? jobId, table)
  | .selectMeta jobId, table => ((table.rows.get? jobId).map JobRow.metadata, table)
  | .updateClaimed jobId claimedBy metadata now, table =>
      table.update jobId (fun row => row.status = JobStatus.queued.value)
        (fun row => { row with
          status := JobStatus.running.value
          claimedBy := some claimedBy
          metadata := .object metadata
          updatedAt := now })
        fun _ => rfl
  | .updateStatus jobId status clearClaim now, table =>
      table.update jobId (fun _ => true)
        (fun row => { row with
          status := status
          claimedBy := if clearClaim then none else row.claimedBy
          updatedAt := now })
        fun _ => rfl
  | .updateTouched jobId now, table =>
      table.update jobId (fun _ => true) (fun row => { row with updatedAt := now }) fun _ => rfl
  | .updateMeta jobId metadata now, table =>
      table.update jobId (fun _ => true)
        (fun row => { row with metadata := .object metadata, updatedAt := now }) fun _ => rfl

variable (table : JobTable) (jobId : String) (condition : JobRow → Bool)
  (change : JobRow → JobRow) (keeps : ∀ row, (change row).jobId = row.jobId)

/-- An update changes the row it matched and no other. -/
theorem get?_update (other : String) :
    (table.update jobId condition change keeps).2.rows.get? other =
      if other = jobId ∧ (table.update jobId condition change keeps).1 = 1
      then (table.rows.get? jobId).map change else table.rows.get? other := by
  unfold update
  cases stored : table.rows.get? jobId with
  | none => simp
  | some row =>
      by_cases met : condition row = true
      · simp only [met, ↓reduceIte, and_true]
        rw [Dict.get?_modify, stored]
      · simp [met]

/-- It matches one row when the job is stored and meets the condition. -/
theorem update_fst :
    (table.update jobId condition change keeps).1 =
      if (table.rows.get? jobId).any condition = true then 1 else 0 := by
  unfold update
  cases table.rows.get? jobId with
  | none => rfl
  | some row =>
      by_cases met : condition row = true
      · simp [met]
      · simp [met]

theorem get?_insert (row : JobRow) (other : String) :
    (table.insert row).2.rows.get? other =
      if other = row.jobId ∧ table.rows.get? row.jobId = none then some row
      else table.rows.get? other := by
  unfold insert
  cases stored : table.rows.get? row.jobId with
  | some present => simp
  | none => simp [Dict.get?_set]

section Rows

variable {table} {jobId} {condition} {change} {keeps} {property : JobRow → Prop}
  (every : ∀ stored row, table.rows.get? stored = some row → property row)

include every

/-- What holds of every row and of the changed one holds of every row after an update. -/
theorem forall_rows_update
    (changed : ∀ row, table.rows.get? jobId = some row → property (change row)) :
    ∀ stored row, (table.update jobId condition change keeps).2.rows.get? stored = some row →
      property row := by
  intro stored row found
  rw [get?_update] at found
  split at found
  · obtain ⟨before, present, rfl⟩ := Option.map_eq_some_iff.mp found
    exact changed before present
  · exact every stored row found

/-- The same after an insertion. -/
theorem forall_rows_insert {new : JobRow} (holds : property new) :
    ∀ stored row, (table.insert new).2.rows.get? stored = some row → property row := by
  intro stored row found
  rw [get?_insert] at found
  split at found
  · rw [← Option.some.inj found]
    exact holds
  · exact every stored row found

end Rows

end JobTable

/-- The repository, with the `json.loads` of its decoding branches. -/
structure SQLAlchemyJobRepository where
  loads : String → Except PyError Value

namespace SQLAlchemyJobRepository

variable (repo : SQLAlchemyJobRepository)

/-- Execute one statement. -/
abbrev call (call : SqlCall) : SqlProg call.Reply := Prog.issue call

/-- The row that `enqueue` inserts. -/
def rowOf (job : Job) : JobRow where
  jobId := job.jobId
  jobType := job.jobType
  queueName := job.queueName
  payload := .object job.payload
  metadata := .object job.toMetaDict
  status := job.status.value
  priority := job.priority
  claimedBy := job.claimedBy
  createdAt := job.createdAt
  updatedAt := job.updatedAt

def enqueue (job : Job) : SqlProg (Except PyError String) := do
  match ← call (.insert (rowOf job)) with
  | .ok () => return .ok job.jobId
  | .error error => return .error error

def queued (limit : Int) (jobType queueName : Option String) :
    SqlProg (Except PyError (List Job)) := do
  let rows ← call (.selectQueued limit jobType queueName)
  return rows.mapM (rowToJob repo.loads)

def get (jobId : String) : SqlProg (Except PyError (Option Job)) := do
  match ← call (.selectRow jobId) with
  | none => return .ok none
  | some row => return (rowToJob repo.loads row).map some

/-- `dict(cell or {})` -/
def claimMeta : JsonCell → Except PyError (Dict String Value)
  | .object dict => .ok dict
  | .text text =>
      if text = "" then .ok ∅
      else .error (.valueError
        "dictionary update sequence element #0 has length 1; 2 is required")

def setClaimed (jobId hostId workerId : String) (now : Int) :
    SqlProg (Except PyError Bool) := do
  match ← call (.selectMeta jobId) with
  | none => return .ok false
  | some cell =>
      match claimMeta cell with
      | .error error => return .error error
      | .ok metadata =>
          let metadata := (metadata.set "host_id" (.str hostId)).set "worker_id" (.str workerId)
          let rowcount ← call (.updateClaimed jobId (hostId ++ ":" ++ workerId) metadata now)
          return .ok (rowcount == 1)

def setStatus (jobId status : String) (clearClaim : Bool) (now : Int) :
    SqlProg (Except PyError Bool) := do
  let rowcount ← call (.updateStatus jobId status clearClaim now)
  return .ok (rowcount == 1)

def heartbeat (jobId : String) (now : Int) : SqlProg (Except PyError Bool) := do
  let rowcount ← call (.updateTouched jobId now)
  return .ok (rowcount == 1)

/-- The metadata that the methods below change: a text that does not decode counts
as empty. -/
def storedMeta : JsonCell → Except PyError (Dict String Value)
  | .object dict => .ok dict
  | .text text =>
      match repo.loads text with
      | .ok value => value.asDict
      | .error _ => .ok ∅

/-- Read the metadata, change it and write it back. -/
def amendMeta (jobId : String) (change : Dict String Value → Except PyError (Dict String Value))
    (now : Int) : SqlProg (Except PyError Bool) := do
  match ← call (.selectMeta jobId) with
  | none => return .ok false
  | some cell =>
      match repo.storedMeta cell >>= change with
      | .error error => return .error error
      | .ok metadata =>
          let rowcount ← call (.updateMeta jobId metadata now)
          return .ok (rowcount == 1)

/-- `meta["attempts"] = meta.get("attempts", 0) + 1`, and the error when there is
one. -/
def countAttempt (error : Option String) (metadata : Dict String Value) :
    Except PyError (Dict String Value) := do
  let attempts ← match metadata.get? "attempts" with
    | none => .ok 0
    | some (.int attempts) => .ok attempts
    | some _ => .error (.typeError "unsupported operand type(s) for +")
  let metadata := metadata.set "attempts" (.int (attempts + 1))
  match error with
  | none => return metadata
  | some message => return metadata.set "last_error" (.str message)

def recordAttempt (jobId : String) (error : Option String) (now : Int) :
    SqlProg (Except PyError Bool) :=
  repo.amendMeta jobId (countAttempt error) now

def updateProgress (jobId : String) (progress : Dict String Value) (now : Int) :
    SqlProg (Except PyError Bool) :=
  repo.amendMeta jobId (fun metadata => .ok (metadata.set "progress" (.ofDict progress))) now

def storeResult (jobId : String) (result : Value) (now : Int) : SqlProg (Except PyError Bool) :=
  repo.amendMeta jobId (fun metadata => .ok (metadata.set "result" result)) now

end SQLAlchemyJobRepository

/-- The backend over a repository. -/
structure SQLQueueBackend where
  repo : SQLAlchemyJobRepository

namespace SQLQueueBackend

variable (backend : SQLQueueBackend)

def enqueue (job : Job) : SqlProg (Except PyError String) := SQLAlchemyJobRepository.enqueue job

def dequeue (limit : Int) (jobType queueName : Option String) :
    SqlProg (Except PyError (List Job)) :=
  backend.repo.queued limit jobType queueName

def claim (jobId hostId workerId : String) (now : Int) : SqlProg (Except PyError Bool) :=
  SQLAlchemyJobRepository.setClaimed jobId hostId workerId now

def heartbeat (jobId : String) (now : Int) : SqlProg (Except PyError Bool) :=
  SQLAlchemyJobRepository.heartbeat jobId now

def get (jobId : String) : SqlProg (Except PyError (Option Job)) := backend.repo.get jobId

def recordAttempt (jobId : String) (error : Option String) (now : Int) :
    SqlProg (Except PyError Bool) :=
  backend.repo.recordAttempt jobId error now

def updateProgress (jobId : String) (progress : Dict String Value) (now : Int) :
    SqlProg (Except PyError Bool) :=
  backend.repo.updateProgress jobId progress now

def storeResult (jobId : String) (result : ResultData) (now : Int) :
    SqlProg (Except PyError Bool) :=
  backend.repo.storeResult jobId result.toValue now

def updateStatus (jobId status : String) (now : Int) : SqlProg (Except PyError Bool) :=
  SQLAlchemyJobRepository.setStatus jobId status true now

def release (jobId : String) (now : Int) : SqlProg (Except PyError Bool) :=
  updateStatus jobId JobStatus.queued.value now

/-- The program of a call. -/
def code : BackendOp → SqlProg (Except PyError BackendResult)
  | .enqueue job _ => (·.map .jobId) <$> enqueue job
  | .dequeue limit jobType queueName =>
      (·.map .jobs) <$> backend.dequeue limit jobType queueName
  | .claim jobId hostId workerId now => (·.map .flag) <$> claim jobId hostId workerId now
  | .release jobId now => (·.map .flag) <$> release jobId now
  | .heartbeat jobId now => (·.map .flag) <$> heartbeat jobId now
  | .updateStatus jobId status now => (·.map .flag) <$> updateStatus jobId status now
  | .recordAttempt jobId error now => (·.map .flag) <$> backend.recordAttempt jobId error now

/-- The backend as an implementation of the contract, each method run alone. -/
def contract : QueueBackend JobTable where
  enqueue job _ := (enqueue job).run JobTable.exec
  dequeue limit jobType queueName table :=
    ((backend.dequeue limit jobType queueName).run JobTable.exec table).1
  claim jobId hostId workerId now := (claim jobId hostId workerId now).run JobTable.exec
  release jobId now := (release jobId now).run JobTable.exec
  heartbeat jobId now := (heartbeat jobId now).run JobTable.exec
  get jobId table := ((backend.get jobId).run JobTable.exec table).1
  updateStatus jobId status now := (updateStatus jobId status now).run JobTable.exec
  recordAttempt jobId error now := (backend.recordAttempt jobId error now).run JobTable.exec

/-- `SELECT` of the whole table, each row decoded. -/
def allJobs (table : JobTable) : Except PyError (List Job) :=
  table.rows.values.mapM (rowToJob backend.repo.loads)

/-- The counts of the status column. -/
def getQueueStatus (table : JobTable) : Dict String Nat :=
  .counter (table.rows.values.map JobRow.status)

/-- Clients of one database, their statements interleaved. -/
def machine (ι : Type) (backend : SQLQueueBackend) :
    Machine ι BackendOp SqlCall SqlCall.Reply (Except PyError BackendResult) JobTable where
  exec := JobTable.exec
  code _ := backend.code

end SQLQueueBackend

end CloudDogJobs
