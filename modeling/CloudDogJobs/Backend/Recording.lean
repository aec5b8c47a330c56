import Mathlib.Data.List.Induction
import CloudDogJobs.Backend.DispatchOrder
import CloudDogJobs.Backend.Memory
import CloudDogJobs.Storage.RoundTrip
import CloudDogJobs.Storage.Sequential

/-!
# Attempts, progress and results on three backends

`record_attempt`, `update_progress` and `store_result` keep the same facts in the
fields of an object, in keys of the metadata column and in texts of a hash. What is
recorded of a job is the number of its attempts and the last values written. The
memory and SQL backends give it back; Redis gives a result that is a dictionary back
as its JSON text, because `store_result` encodes it and `get` does not decode it.
-/

namespace CloudDogJobs

open Foundation

/-- A call that records what became of a job. -/
inductive RecordOp
  | recordAttempt (jobId : String) (error : Option String) (now : Int)
  | updateProgress (jobId : String) (progress : Dict String Value) (now : Int)
  | storeResult (jobId : String) (result : ResultData) (now : Int)

namespace RecordOp

def jobId : RecordOp → String
  | .recordAttempt jobId _ _ => jobId
  | .updateProgress jobId _ _ => jobId
  | .storeResult jobId _ _ => jobId

def isAttempt : RecordOp → Bool
  | .recordAttempt _ _ _ => true
  | _ => false

/-- The error that the call writes. -/
def error? : RecordOp → Option String
  | .recordAttempt _ error _ => error
  | _ => none

def progress? : RecordOp → Option (Dict String Value)
  | .updateProgress _ progress _ => some progress
  | _ => none

def result? : RecordOp → Option ResultData
  | .storeResult _ result _ => some result
  | _ => none

end RecordOp

/-- What is recorded of a job. -/
structure Record where
  attempts : Nat := 0
  lastError : Option String := none
  progress : Option (Dict String Value) := none
  result : Option ResultData := none

namespace Record

/-- The number of attempts and the last values written, of the calls on the job. -/
def of (ops : List RecordOp) (jobId : String) : Record :=
  let own := ops.filter (·.jobId = jobId)
  { attempts := own.countP RecordOp.isAttempt
    lastError := (own.filterMap RecordOp.error?).getLast?
    progress := (own.filterMap RecordOp.progress?).getLast?
    result := (own.filterMap RecordOp.result?).getLast? }

/-- One more call on the job. -/
def after (record : Record) (op : RecordOp) : Record where
  attempts := record.attempts + op.isAttempt.toNat
  lastError := op.error?.or record.lastError
  progress := op.progress?.or record.progress
  result := op.result?.or record.result

theorem getLast?_filterMap_concat {α β : Type} (written : α → Option β) (items : List α)
    (last : α) :
    ((items ++ [last]).filterMap written).getLast? =
      (written last).or (items.filterMap written).getLast? := by
  rw [List.filterMap_append, List.getLast?_append]
  cases found : written last with
  | none => rw [List.filterMap_cons_none found]; rfl
  | some value => rw [List.filterMap_cons_some found]; rfl

theorem of_concat_own (ops : List RecordOp) {op : RecordOp} {jobId : String}
    (own : op.jobId = jobId) : of (ops ++ [op]) jobId = (of ops jobId).after op := by
  have kept : (ops ++ [op]).filter (fun call => call.jobId = jobId) =
      ops.filter (fun call => call.jobId = jobId) ++ [op] := by
    rw [List.filter_append, List.filter_cons_of_pos (by simpa using own)]
    rfl
  simp only [of, after, kept, getLast?_filterMap_concat, List.countP_append, Record.mk.injEq,
    and_true]
  cases op <;> rfl

theorem of_concat_other (ops : List RecordOp) {op : RecordOp} {jobId : String}
    (other : op.jobId ≠ jobId) : of (ops ++ [op]) jobId = of ops jobId := by
  have kept : (ops ++ [op]).filter (fun call => call.jobId = jobId) =
      ops.filter (fun call => call.jobId = jobId) := by
    rw [List.filter_append, List.filter_cons_of_neg (by simpa using other)]
    exact List.append_nil _
  simp only [of, kept]

/-- The run lemma: a store that follows the record of a job call by call holds what is
recorded at the end. -/
theorem holds_of_run {σ : Type} (step : σ → RecordOp → σ) (holds : Record → σ → Prop)
    (valid : RecordOp → Prop) {jobId : String}
    (own : ∀ record store op, valid op → op.jobId = jobId → holds record store →
      holds (record.after op) (step store op))
    (other : ∀ record store op, valid op → op.jobId ≠ jobId → holds record store →
      holds record (step store op))
    {store : σ} (start : holds {} store) {ops : List RecordOp} (allowed : ∀ op ∈ ops, valid op) :
    holds (of ops jobId) (ops.foldl step store) := by
  induction ops using List.reverseRecOn with
  | nil => exact start
  | append_singleton ops op ih =>
      have before := ih fun call member => allowed call (List.mem_append_left _ member)
      have now := allowed op (List.mem_append_right _ List.mem_cons_self)
      rw [List.foldl_append]
      by_cases same : op.jobId = jobId
      · rw [of_concat_own ops same]
        exact own _ _ op now same before
      · rw [of_concat_other ops same]
        exact other _ _ op now same before

/-- The dictionary that an error becomes. -/
def message (error : String) : Dict String Value := Dict.empty.set "message" (.str error)

/-- The job shows what is recorded, with its result in some form. -/
structure Shown (form : ResultData → Value) (record : Record) (job : Job) : Prop where
  attempt : job.attempt = record.attempts
  lastError : job.lastError = record.lastError.map message
  progress : job.progress = record.progress
  result : job.resultRef = record.result.map form

/-- Nothing is recorded of the job yet. -/
structure Fresh (job : Job) : Prop where
  attempt : job.attempt = 0
  lastError : job.lastError = none
  progress : job.progress = none
  result : job.resultRef = none

theorem Fresh.shown {job : Job} (fresh : Fresh job) (form : ResultData → Value) :
    Shown form {} job :=
  ⟨fresh.attempt, fresh.lastError, fresh.progress, fresh.result⟩

end Record

/-! ## Memory -/

namespace MemoryQueueBackend

/-- One call. -/
def record (backend : MemoryQueueBackend) : RecordOp → MemoryQueueBackend
  | .recordAttempt jobId error now => (backend.recordAttempt jobId error now).2
  | .updateProgress jobId progress now => (backend.updateProgress jobId progress now).2
  | .storeResult jobId result now => (backend.storeResult jobId result now).2

/-- What a call does to the job. -/
def recordedJob (job : Job) : RecordOp → Job
  | .recordAttempt _ error now =>
      { job with
        attempt := job.attempt + 1
        lastError := match error with
          | none => job.lastError
          | some message => some (Dict.empty.set "message" (.str message))
        updatedAt := now }
  | .updateProgress _ progress now => { job with progress := some progress, updatedAt := now }
  | .storeResult _ result now => { job with resultRef := some result.toValue, updatedAt := now }

theorem get_record (backend : MemoryQueueBackend) (op : RecordOp) (other : String) :
    (backend.record op).get other =
      if other = op.jobId then (backend.get op.jobId).map fun job => recordedJob job op
      else backend.get other := by
  cases op with
  | recordAttempt jobId error now => exact backend.get_touch jobId other _ _
  | updateProgress jobId progress now => exact backend.get_touch jobId other _ _
  | storeResult jobId result now => exact backend.get_touch jobId other _ _

theorem shown_recordedJob {record : Record} {job : Job} (op : RecordOp)
    (shown : record.Shown ResultData.toValue job) :
    (record.after op).Shown ResultData.toValue (recordedJob job op) := by
  cases op with
  | recordAttempt jobId error now =>
      refine ⟨congrArg (· + 1) shown.attempt, ?_, shown.progress, shown.result⟩
      cases error with
      | none => exact shown.lastError
      | some message => rfl
  | updateProgress jobId progress now =>
      exact ⟨shown.attempt, shown.lastError, rfl, shown.result⟩
  | storeResult jobId result now =>
      exact ⟨shown.attempt, shown.lastError, shown.progress, rfl⟩

/-- The memory backend gives back what is recorded. -/
theorem get_after_record {backend : MemoryQueueBackend} {jobId : String} {job : Job}
    (stored : backend.get jobId = some job) (fresh : Record.Fresh job) (ops : List RecordOp) :
    ∃ read, (ops.foldl record backend).get jobId = some read ∧
      (Record.of ops jobId).Shown ResultData.toValue read := by
  apply Record.holds_of_run record
    (fun entry store => ∃ read, store.get jobId = some read ∧
      entry.Shown ResultData.toValue read) fun _ => True
  · rintro entry store op _ rfl ⟨read, found, shown⟩
    refine ⟨recordedJob read op, ?_, shown_recordedJob op shown⟩
    rw [get_record, if_pos rfl, found]
    rfl
  · rintro entry store op _ other ⟨read, found, shown⟩
    refine ⟨read, ?_, shown⟩
    rw [get_record, if_neg (Ne.symm other), found]
  · exact ⟨job, stored, fresh.shown _⟩
  · exact fun _ _ => trivial

end MemoryQueueBackend

/-! ## SQL -/

namespace SQLQueueBackend

variable (backend : SQLQueueBackend)

/-- One call. -/
def record (table : JobTable) : RecordOp → JobTable
  | .recordAttempt jobId error now =>
      ((backend.recordAttempt jobId error now).run JobTable.exec table).2
  | .updateProgress jobId progress now =>
      ((backend.updateProgress jobId progress now).run JobTable.exec table).2
  | .storeResult jobId result now =>
      ((backend.storeResult jobId result now).run JobTable.exec table).2

/-- The metadata keep what is recorded, under the keys of the repository. -/
structure Keeps (record : Record) (metadata : Dict String Value) : Prop where
  attempts : metadata.get? "attempts" =
    if record.attempts = 0 then none else some (.int record.attempts)
  lastError : metadata.get? "last_error" = record.lastError.map .str
  progress : metadata.get? "progress" = record.progress.map .ofDict
  result : metadata.get? "result" = record.result.map ResultData.toValue
  /-- Nothing else writes the key that `row_to_job` counts the allowance from. -/
  allowance : metadata.get? "max_attempts" = none

/-- The row of a job that decodes and keeps what is recorded. -/
structure RowKeeps (record : Record) (row : JobRow) : Prop where
  payload : ∃ payload, row.payload = .object payload
  status : ∃ status, JobStatus.parse row.status = .ok status
  metadata : ∃ metadata, row.metadata = .object metadata ∧ Keeps record metadata

/-- What the call writes into the metadata. -/
def recordedMeta (op : RecordOp) (metadata : Dict String Value) :
    Except PyError (Dict String Value) :=
  match op with
  | .recordAttempt _ error _ => SQLAlchemyJobRepository.countAttempt error metadata
  | .updateProgress _ progress _ => .ok (metadata.set "progress" (.ofDict progress))
  | .storeResult _ result _ => .ok (metadata.set "result" result.toValue)

theorem countOf_attempts {record : Record} {metadata : Dict String Value}
    (keeps : Keeps record metadata) :
    countOf (metadata.get? "attempts") 0 = .ok (record.attempts : Int) := by
  rw [keeps.attempts]
  by_cases none : record.attempts = 0
  · rw [if_pos none, none]
    rfl
  · have counted : (Value.int (record.attempts : Int)).truthy = true := by
      simpa [Value.truthy] using none
    rw [if_neg none]
    simp only [countOf, counted, ↓reduceIte, Value.toInt]

/-- The count that `record_attempt` writes is one more than that of the record. -/
theorem countAttempt_of_keeps {record : Record} {metadata : Dict String Value}
    (keeps : Keeps record metadata) (error : Option String) :
    SQLAlchemyJobRepository.countAttempt error metadata =
      .ok (error.elim (metadata.set "attempts" (.int (record.attempts + 1 : Nat)))
        fun message => (metadata.set "attempts" (.int (record.attempts + 1 : Nat))).set
          "last_error" (.str message)) := by
  unfold SQLAlchemyJobRepository.countAttempt
  rw [keeps.attempts]
  by_cases none : record.attempts = 0
  · rw [if_pos none, none]
    cases error <;> rfl
  · rw [if_neg none]
    cases error <;> rfl

/-- A call on the job writes what is recorded after it. -/
theorem keeps_recordedMeta {record : Record} {metadata : Dict String Value}
    (keeps : Keeps record metadata) (op : RecordOp) :
    ∃ written, recordedMeta op metadata = .ok written ∧ Keeps (record.after op) written := by
  have other : ∀ {key : String} (name : String) (value : Value), name ≠ key →
      (metadata.set key value).get? name = metadata.get? name :=
    fun name value different => Dict.get?_set_of_ne _ value different
  cases op with
  | recordAttempt jobId error now =>
      have grown : (metadata.set "attempts" (.int (record.attempts + 1 : Nat))).get? "attempts" =
          if record.attempts + 1 = 0 then none else some (.int (record.attempts + 1 : Nat)) :=
        Dict.get?_set_self ..
      refine ⟨_, countAttempt_of_keeps keeps error, ?_⟩
      cases error with
      | none =>
          exact ⟨grown, (other _ _ (by decide)).trans keeps.lastError,
            (other _ _ (by decide)).trans keeps.progress,
            (other _ _ (by decide)).trans keeps.result,
            (other _ _ (by decide)).trans keeps.allowance⟩
      | some message =>
          have later : ∀ (name : String), name ≠ "attempts" → name ≠ "last_error" →
              ((metadata.set "attempts" (.int (record.attempts + 1 : Nat))).set "last_error"
                (.str message)).get? name = metadata.get? name :=
            fun name first second =>
              (Dict.get?_set_of_ne _ _ second).trans (Dict.get?_set_of_ne _ _ first)
          exact ⟨(Dict.get?_set_of_ne _ _ (by decide)).trans grown, Dict.get?_set_self ..,
            (later _ (by decide) (by decide)).trans keeps.progress,
            (later _ (by decide) (by decide)).trans keeps.result,
            (later _ (by decide) (by decide)).trans keeps.allowance⟩
  | updateProgress jobId progress now =>
      exact ⟨_, rfl, (other _ _ (by decide)).trans keeps.attempts,
        (other _ _ (by decide)).trans keeps.lastError, Dict.get?_set_self ..,
        (other _ _ (by decide)).trans keeps.result, (other _ _ (by decide)).trans keeps.allowance⟩
  | storeResult jobId result now =>
      exact ⟨_, rfl, (other _ _ (by decide)).trans keeps.attempts,
        (other _ _ (by decide)).trans keeps.lastError, (other _ _ (by decide)).trans keeps.progress,
        Dict.get?_set_self .., (other _ _ (by decide)).trans keeps.allowance⟩

/-- A change of the metadata of a stored job rewrites its row and no other. -/
theorem rows_amendMeta {table : JobTable} {jobId : String} {row : JobRow}
    {metadata written : Dict String Value}
    {change : Dict String Value → Except PyError (Dict String Value)}
    (stored : table.rows.get? jobId = some row) (object : row.metadata = .object metadata)
    (changed : change metadata = .ok written) (now : Int) (other : String) :
    ((backend.repo.amendMeta jobId change now).run JobTable.exec table).2.rows.get? other =
      if other = jobId then some { row with metadata := .object written, updatedAt := now }
      else table.rows.get? other := by
  have always := (table.update_always jobId
    (fun row => { row with metadata := .object written, updatedAt := now }) fun _ => rfl).2 other
  rw [stored] at always
  unfold SQLAlchemyJobRepository.amendMeta
  rw [Prog.issue_bind, Prog.run_act]
  simp only [JobTable.exec, stored, Option.map_some, object, SQLAlchemyJobRepository.storedMeta,
    bind, Except.bind, changed]
  exact always

theorem rows_amendMeta_of_ne {jobId other : String} (different : other ≠ jobId)
    (change : Dict String Value → Except PyError (Dict String Value)) (now : Int)
    (table : JobTable) :
    ((backend.repo.amendMeta jobId change now).run JobTable.exec table).2.rows.get? other =
      table.rows.get? other := by
  have only : (backend.repo.amendMeta jobId change now).Only fun call =>
      ∀ reached, (JobTable.exec call reached).2.rows.get? other = reached.rows.get? other := by
    refine backend.repo.only_amendMeta jobId change now (fun _ => rfl) fun metadata reached => ?_
    have always := (reached.update_always jobId
      (fun row => { row with metadata := .object metadata, updatedAt := now }) fun _ => rfl).2
    exact (always other).trans (if_neg different)
  exact only.run JobTable.exec
    (fun call reached keeps (same : reached.rows.get? other = table.rows.get? other) =>
      (keeps reached).trans same) rfl

theorem rows_record {table : JobTable} {op : RecordOp} {row : JobRow}
    {metadata written : Dict String Value} (stored : table.rows.get? op.jobId = some row)
    (object : row.metadata = .object metadata) (changed : recordedMeta op metadata = .ok written) :
    ∃ now, ∀ other, (backend.record table op).rows.get? other =
      if other = op.jobId then some { row with metadata := .object written, updatedAt := now }
      else table.rows.get? other := by
  cases op with
  | recordAttempt jobId error now =>
      exact ⟨now, backend.rows_amendMeta stored object changed now⟩
  | updateProgress jobId progress now =>
      exact ⟨now, backend.rows_amendMeta stored object changed now⟩
  | storeResult jobId result now =>
      exact ⟨now, backend.rows_amendMeta stored object changed now⟩

/-- A call on another job leaves the row alone, whatever becomes of it. -/
theorem rows_record_of_ne (table : JobTable) {op : RecordOp} {jobId : String}
    (other : op.jobId ≠ jobId) :
    (backend.record table op).rows.get? jobId = table.rows.get? jobId := by
  cases op with
  | recordAttempt own error now => exact backend.rows_amendMeta_of_ne other.symm _ now table
  | updateProgress own progress now => exact backend.rows_amendMeta_of_ne other.symm _ now table
  | storeResult own result now => exact backend.rows_amendMeta_of_ne other.symm _ now table

/-- What a row that keeps a record is decoded to. -/
theorem shown_rowToJob {record : Record} {row : JobRow} (keeps : RowKeeps record row) :
    ∃ job, rowToJob backend.repo.loads row = .ok job ∧
      record.Shown ResultData.toValue job := by
  obtain ⟨payload, stored⟩ := keeps.payload
  obtain ⟨status, parsed⟩ := keeps.status
  obtain ⟨metadata, object, kept⟩ := keeps.metadata
  have allowance : countOf (metadata.get? "max_attempts") 3 = .ok 3 := by
    rw [kept.allowance]
    rfl
  unfold rowToJob
  simp only [stored, object, JsonCell.decode, JsonCell.decodeOrEmpty, parsed,
    countOf_attempts kept, allowance, bind, Except.bind, pure, Except.pure]
  refine ⟨_, rfl, rfl, ?_, ?_, ?_⟩
  · rw [kept.lastError]
    cases record.lastError <;> rfl
  · rw [kept.progress]
    cases record.progress with
    | none => rfl
    | some progress => exact congrArg some (Dict.ofList_entries progress)
  · rw [kept.result]
    cases record.result with
    | none => rfl
    | some result => cases result <;> rfl

/-- The row of a job of which nothing is recorded yet. -/
theorem rowKeeps_rowOf {job : Job} : RowKeeps {} (SQLAlchemyJobRepository.rowOf job) where
  payload := ⟨job.payload, rfl⟩
  status := ⟨job.status, JobStatus.parse_value job.status⟩
  metadata := ⟨job.toMetaDict, rfl, rfl, rfl, rfl, rfl, rfl⟩

/-- The SQL backend gives back what is recorded. -/
theorem get_after_record {table : JobTable} {jobId : String} {job : Job}
    (stored : table.rows.get? jobId = some (SQLAlchemyJobRepository.rowOf job))
    (ops : List RecordOp) :
    ∃ read, ((backend.get jobId).run JobTable.exec (ops.foldl backend.record table)).1 =
        .ok (some read) ∧ (Record.of ops jobId).Shown ResultData.toValue read := by
  have kept : ∃ row, (ops.foldl backend.record table).rows.get? jobId = some row ∧
      RowKeeps (Record.of ops jobId) row := by
    apply Record.holds_of_run backend.record
      (fun entry table => ∃ row, table.rows.get? jobId = some row ∧ RowKeeps entry row)
      fun _ => True
    · rintro entry table op _ rfl ⟨row, found, keeps⟩
      obtain ⟨metadata, object, held⟩ := keeps.metadata
      obtain ⟨written, changed, later⟩ := keeps_recordedMeta held op
      obtain ⟨now, rows⟩ := backend.rows_record found object changed
      exact ⟨_, (rows op.jobId).trans (if_pos rfl), keeps.payload, keeps.status,
        written, rfl, later⟩
    · rintro entry table op _ other ⟨row, found, keeps⟩
      exact ⟨row, (backend.rows_record_of_ne table other).trans found, keeps⟩
    · exact ⟨_, stored, rowKeeps_rowOf⟩
    · exact fun _ _ => trivial
  obtain ⟨row, found, keeps⟩ := kept
  obtain ⟨read, decoded, shown⟩ := backend.shown_rowToJob keeps
  refine ⟨read, ?_, shown⟩
  unfold get SQLAlchemyJobRepository.get
  rw [Prog.issue_bind, Prog.run_act]
  simp only [JobTable.exec, found, decoded]
  rfl

end SQLQueueBackend

/-! ## Redis -/

namespace RedisQueueBackend

variable (backend : RedisQueueBackend)

/-- One call. -/
def record (server : RedisServer) : RecordOp → RedisServer
  | .recordAttempt jobId error now =>
      ((backend.recordAttempt jobId error now).run RedisServer.exec server).2
  | .updateProgress jobId progress now =>
      ((backend.updateProgress jobId progress now).run RedisServer.exec server).2
  | .storeResult jobId result now =>
      ((backend.storeResult jobId result now).run RedisServer.exec server).2

/-- The codec reads back what the call writes, and a result is no empty text. -/
def Records : RecordOp → Prop
  | .recordAttempt _ error now => ReadsTime backend.codec now ∧
      ∀ text ∈ error, Reads backend.codec (.ofDict (Record.message text))
  | .updateProgress _ progress now =>
      ReadsTime backend.codec now ∧ Reads backend.codec (.ofDict progress)
  | .storeResult _ result now =>
      ReadsTime backend.codec now ∧ backend.resultText result ≠ ""

/-- The form in which `get` gives a result back: the text that was stored. -/
def resultForm (result : ResultData) : Value := .str (backend.resultText result)

/-- A job and a text for its progress that stand for what is recorded. -/
structure HashKeeps (record : Record) (job : Job) (text : String) : Prop where
  encodes : Encodes backend.codec job
  attempt : job.attempt = record.attempts
  lastError : job.lastError = record.lastError.map Record.message
  result : job.resultRef = record.result.map backend.resultForm
  filled : ∀ result ∈ record.result, backend.resultText result ≠ ""
  progress : text = optText (record.progress.map fun dict => backend.codec.dumps (.ofDict dict))
  reads : ∀ dict ∈ record.progress, Reads backend.codec (.ofDict dict)

/-- What a hash that keeps a record is decoded to. -/
theorem shown_hashToJob {record : Record} {job : Job} {text : String}
    (keeps : backend.HashKeeps record job text) :
    ∃ read, backend.hashToJob (backend.progressHash job text) = .ok read ∧
      record.Shown backend.resultForm read := by
  have progressed : optDecoded (backend.progressHash job text) backend.loadsDict "progress" =
      .ok record.progress := by
    refine optDecoded_of_get? record.progress (fun dict => backend.codec.dumps (.ofDict dict))
      (congrArg some keeps.progress) fun dict member => ?_
    exact ⟨loadsDict_ofDict (keeps.reads dict member), (keeps.reads dict member).2⟩
  refine ⟨_, backend.hashToJob_progressHash keeps.encodes progressed, keeps.attempt, ?_, rfl, ?_⟩
  · change nonEmptyDict job.lastError = _
    rw [keeps.lastError]
    cases record.lastError <;> rfl
  · change (nonEmpty (Value.toOptStr job.resultRef)).map Value.str = _
    rw [keeps.result]
    cases stored : record.result with
    | none => rfl
    | some result =>
        have filled := keeps.filled result stored
        exact congrArg (Option.map Value.str) (if_neg filled)

/-- The job that stands for the record after a call. -/
def recordedJob (job : Job) : RecordOp → Job
  | .recordAttempt _ error now =>
      { job with
        attempt := job.attempt + 1
        lastError := (error.map Record.message).or job.lastError
        updatedAt := now }
  | .updateProgress _ _ now => { job with updatedAt := now }
  | .storeResult _ result now =>
      { job with resultRef := some (backend.resultForm result), updatedAt := now }

/-- The text of its progress. -/
def recordedText (text : String) : RecordOp → String
  | .updateProgress _ progress _ => backend.codec.dumps (.ofDict progress)
  | _ => text

theorem hashKeeps_record {record : Record} {job : Job} {text : String} {op : RecordOp}
    (keeps : backend.HashKeeps record job text) (records : backend.Records op) :
    backend.HashKeeps (record.after op) (backend.recordedJob job op)
      (backend.recordedText text op) := by
  have encodes := keeps.encodes
  cases op with
  | recordAttempt jobId error now =>
      refine ⟨{ encodes with updatedAt := records.1, lastError := ?_ },
        congrArg (· + 1) keeps.attempt, ?_, keeps.result, keeps.filled, keeps.progress, keeps.reads⟩
      · intro dict member
        cases error with
        | none => exact encodes.lastError dict member
        | some message => exact Option.some.inj member ▸ records.2 message rfl
      · cases error with
        | none => exact keeps.lastError
        | some message => rfl
  | updateProgress jobId progress now =>
      refine ⟨{ encodes with updatedAt := records.1 }, keeps.attempt, keeps.lastError, keeps.result,
        keeps.filled, rfl, ?_⟩
      intro dict member
      exact Option.some.inj member ▸ records.2
  | storeResult jobId result now =>
      refine ⟨{ encodes with updatedAt := records.1 }, keeps.attempt, keeps.lastError, rfl, ?_,
        keeps.progress, keeps.reads⟩
      intro other member
      exact Option.some.inj member ▸ records.2

section Hashes

variable {server : RedisServer} {jobId : String} {hash : Dict String String}

theorem hash_hset (stored : server.hashes.get? jobId = some hash) (mapping : Dict String String) :
    (server.hset jobId mapping).hashes.get? jobId = some (hash.update mapping) := by
  have before : server.hashes.getD jobId ∅ = hash := congrArg (Option.getD · ∅) stored
  rw [← before]
  exact Dict.get?_set_self ..

theorem hash_hset_of_ne {other : String} (different : other ≠ jobId)
    (mapping : Dict String String) :
    (server.hset jobId mapping).hashes.get? other = server.hashes.get? other :=
  Dict.get?_set_of_ne _ _ different

theorem hash_writeFields (stored : server.hashes.get? jobId = some hash)
    (mapping : Dict String String) :
    ((writeFields jobId mapping).run RedisServer.exec server).2.hashes.get? jobId =
      some (hash.update mapping) := by
  have present : (server.hashes.get? jobId).isSome = true := Option.isSome_of_eq_some stored
  unfold writeFields
  simp only [Prog.issue_bind, Prog.run_act, RedisServer.exec, present, ↓reduceIte]
  exact hash_hset stored mapping

theorem hash_writeFields_of_ne {other : String} (different : other ≠ jobId)
    (mapping : Dict String String) :
    ((writeFields jobId mapping).run RedisServer.exec server).2.hashes.get? other =
      server.hashes.get? other := by
  unfold writeFields
  simp only [Prog.issue_bind, Prog.run_act, RedisServer.exec]
  by_cases present : (server.hashes.get? jobId).isSome = true
  · simp only [present, ↓reduceIte]
    exact hash_hset_of_ne different mapping
  · simp only [present]
    rfl

/-- The transaction counts one attempt more and writes the other fields. -/
theorem hash_attemptPipeline {attempt : Int} (stored : server.hashes.get? jobId = some hash)
    (counted : hash.get? "attempt" = some (toString attempt)) (updates : Dict String String) :
    (server.attemptPipeline jobId updates).2.hashes.get? jobId =
      some ((hash.set "attempt" (toString (attempt + 1))).update updates) := by
  have number : ((server.field jobId "attempt").getD "0").toInt? = some attempt := by
    rw [RedisServer.field, Dict.getD, stored, Option.getD_some, counted]
    exact Int.toInt?_repr attempt
  unfold RedisServer.attemptPipeline
  rw [number]
  exact hash_hset (hash_hset stored _) updates

theorem hash_attemptPipeline_of_ne {other : String} (different : other ≠ jobId)
    (updates : Dict String String) :
    (server.attemptPipeline jobId updates).2.hashes.get? other = server.hashes.get? other := by
  unfold RedisServer.attemptPipeline
  split
  · exact (hash_hset_of_ne different _).trans (hash_hset_of_ne different _)
  · exact hash_hset_of_ne different _

/-- The server after a `record_attempt` is the one after its transaction. -/
theorem run_recordAttempt (stored : server.hashes.get? jobId = some hash) (error : Option String)
    (now : Int) :
    ((backend.recordAttempt jobId error now).run RedisServer.exec server).2 =
      (server.attemptPipeline jobId (error.elim
        (Dict.empty.set "updated_at" (backend.codec.isoformat now)) fun message =>
          (Dict.empty.set "updated_at" (backend.codec.isoformat now)).set "last_error"
            (backend.codec.dumps (.ofDict (Record.message message))))).2 := by
  have present : (server.hashes.get? jobId).isSome = true := Option.isSome_of_eq_some stored
  unfold recordAttempt
  simp only [Prog.issue_bind, Prog.run_act, RedisServer.exec, present, ↓reduceIte]
  cases error with
  | none =>
      simp only [Option.elim_none]
      split <;> rfl
  | some message =>
      simp only [Option.elim_some]
      split <;> rfl

theorem hash_recordAttempt_of_ne {other : String} (different : other ≠ jobId)
    (error : Option String) (now : Int) :
    ((backend.recordAttempt jobId error now).run RedisServer.exec server).2.hashes.get? other =
      server.hashes.get? other := by
  cases stored : server.hashes.get? jobId with
  | none =>
      unfold recordAttempt
      simp only [Prog.issue_bind, Prog.run_act, RedisServer.exec, stored, Option.isSome_none,
        Bool.false_eq_true, ↓reduceIte]
      rfl
  | some hash =>
      rw [backend.run_recordAttempt stored]
      exact hash_attemptPipeline_of_ne different _

end Hashes

/-- A call on a stored job rewrites its hash. -/
theorem hash_record {server : RedisServer} {op : RecordOp} {job : Job} {text : String}
    (stored : server.hashes.get? op.jobId = some (backend.progressHash job text)) :
    (backend.record server op).hashes.get? op.jobId =
      some (backend.progressHash (backend.recordedJob job op) (backend.recordedText text op)) := by
  cases op with
  | recordAttempt jobId error now =>
      refine (congrArg (·.hashes.get? jobId) (backend.run_recordAttempt stored error now)).trans ?_
      refine (hash_attemptPipeline stored rfl _).trans ?_
      cases error with
      | none => exact congrArg some (Dict.ext_entries rfl)
      | some message => exact congrArg some (Dict.ext_entries rfl)
  | updateProgress jobId progress now =>
      exact (hash_writeFields stored _).trans (congrArg some (Dict.ext_entries rfl))
  | storeResult jobId result now =>
      exact (hash_writeFields stored _).trans (congrArg some (Dict.ext_entries rfl))

theorem hash_record_of_ne (server : RedisServer) {op : RecordOp} {jobId : String}
    (other : op.jobId ≠ jobId) :
    (backend.record server op).hashes.get? jobId = server.hashes.get? jobId := by
  cases op with
  | recordAttempt own error now => exact backend.hash_recordAttempt_of_ne other.symm error now
  | updateProgress own progress now => exact hash_writeFields_of_ne other.symm _
  | storeResult own result now => exact hash_writeFields_of_ne other.symm _

/-- Redis gives back what is recorded, with the result as the text that was stored. -/
theorem get_after_record {server : RedisServer} {jobId : String} {job : Job}
    (stored : server.hashes.get? jobId = some (backend.jobToHash job))
    (encodes : Encodes backend.codec job) (fresh : Record.Fresh job) {ops : List RecordOp}
    (records : ∀ op ∈ ops, backend.Records op) :
    ∃ read, ((backend.get jobId).run RedisServer.exec (ops.foldl backend.record server)).1 =
        .ok (some read) ∧ (Record.of ops jobId).Shown backend.resultForm read := by
  have kept : ∃ base text, (ops.foldl backend.record server).hashes.get? jobId =
      some (backend.progressHash base text) ∧
        backend.HashKeeps (Record.of ops jobId) base text := by
    apply Record.holds_of_run backend.record
      (fun entry server => ∃ base text, server.hashes.get? jobId =
        some (backend.progressHash base text) ∧ backend.HashKeeps entry base text)
      backend.Records
    · rintro entry server op permitted rfl ⟨base, text, found, keeps⟩
      exact ⟨_, _, backend.hash_record found, backend.hashKeeps_record keeps permitted⟩
    · rintro entry server op _ other ⟨base, text, found, keeps⟩
      exact ⟨base, text, (backend.hash_record_of_ne server other).trans found, keeps⟩
    · have unwritten : backend.jobToHash job =
          backend.progressHash job (optDictText backend.codec job.progress) :=
        Dict.ext_entries rfl
      rw [fresh.progress] at unwritten
      rw [unwritten] at stored
      exact ⟨job, "", stored, encodes, fresh.attempt, fresh.lastError, fresh.result, nofun, rfl,
        nofun⟩
    · exact records
  obtain ⟨base, text, found, keeps⟩ := kept
  obtain ⟨read, decoded, shown⟩ := backend.shown_hashToJob keeps
  refine ⟨read, ?_, shown⟩
  have hash : (ops.foldl backend.record server).hashes.getD jobId ∅ =
      backend.progressHash base text := congrArg (Option.getD · ∅) found
  rw [run_get, RedisQueueBackend.read, hash, decoded]
  rfl

end RedisQueueBackend

/-! ## Agreement -/

open RedisQueueBackend (Arrival)

section Agreement

variable (sql : SQLQueueBackend) (redis : RedisQueueBackend) (arrivals : List Arrival)
  (ops : List RecordOp)

/-- The memory backend after the arrivals and the calls. -/
def memoryAfter : MemoryQueueBackend :=
  ops.foldl MemoryQueueBackend.record
    (arrivals.foldl (fun backend arrival => (backend.enqueue arrival.job).2) .empty)

/-- The table of the SQL backend after them. -/
def sqlAfter : JobTable :=
  ops.foldl sql.record
    (arrivals.foldl (fun table arrival =>
      ((SQLQueueBackend.enqueue arrival.job).run JobTable.exec table).2) .empty)

/-- The server of the Redis backend after them. -/
def redisAfter : RedisServer := ops.foldl redis.record (redis.arrived arrivals .empty)

/-- Jobs with identifiers of their own, nothing recorded of them yet, and calls; the codec
reads back what the hashes of the jobs hold and what the calls write. -/
structure Recordable : Prop where
  ids : (arrivals.map fun arrival => arrival.job.jobId).Nodup
  fresh : ∀ arrival ∈ arrivals, Record.Fresh arrival.job
  encodes : ∀ arrival ∈ arrivals, RedisQueueBackend.Encodes redis.codec arrival.job
  records : ∀ op ∈ ops, redis.Records op

/-- `get` of each backend returns the job with what is recorded of it: the number of
its attempts and the last values written. -/
structure ReadsAlike (jobId : String) : Prop where
  memory : ∃ read, (memoryAfter arrivals ops).get jobId = some read ∧
    (Record.of ops jobId).Shown ResultData.toValue read
  sql : ∃ read, ((sql.get jobId).run JobTable.exec (sqlAfter sql arrivals ops)).1 =
      .ok (some read) ∧ (Record.of ops jobId).Shown ResultData.toValue read
  redis : ∃ read, ((redis.get jobId).run RedisServer.exec (redisAfter redis arrivals ops)).1 =
      .ok (some read) ∧ (Record.of ops jobId).Shown ResultData.toValue read

variable {redis arrivals ops} {arrival : Arrival}

theorem memory_reads (recordable : Recordable redis arrivals ops) (member : arrival ∈ arrivals) :
    ∃ read, (memoryAfter arrivals ops).get arrival.job.jobId = some read ∧
      (Record.of ops arrival.job.jobId).Shown ResultData.toValue read := by
  refine MemoryQueueBackend.get_after_record ?_ (recordable.fresh arrival member) ops
  refine Arrival.kept_of_foldl (fun backend arrival => (backend.enqueue arrival.job).2)
    MemoryQueueBackend.get Arrival.job ?_ ?_ recordable.ids ?_ member
  · exact fun backend entering _ => (backend.get_enqueue entering.job _).trans (if_pos rfl)
  · exact fun backend entering jobId different =>
      (backend.get_enqueue entering.job jobId).trans (if_neg different)
  · exact fun _ _ => rfl

theorem sql_reads (recordable : Recordable redis arrivals ops) (member : arrival ∈ arrivals) :
    ∃ read, ((sql.get arrival.job.jobId).run JobTable.exec (sqlAfter sql arrivals ops)).1 =
        .ok (some read) ∧
      (Record.of ops arrival.job.jobId).Shown ResultData.toValue read := by
  refine @SQLQueueBackend.get_after_record sql _ _ arrival.job ?_ ops
  refine Arrival.kept_of_foldl
    (fun table arrival => ((SQLQueueBackend.enqueue arrival.job).run JobTable.exec table).2)
    (fun (table : JobTable) jobId => table.rows.get? jobId)
    (fun arrival => SQLAlchemyJobRepository.rowOf arrival.job) ?_ ?_ recordable.ids
    (fun _ _ => rfl) member
  · intro table entering absent
    rw [SQLQueueBackend.run_enqueue]
    exact (table.get?_insert _ _).trans (if_pos ⟨rfl, absent⟩)
  · intro table entering jobId different
    rw [SQLQueueBackend.run_enqueue]
    exact (table.get?_insert _ _).trans (if_neg fun same => different same.1)

theorem redis_reads (recordable : Recordable redis arrivals ops) (member : arrival ∈ arrivals) :
    ∃ read, ((redis.get arrival.job.jobId).run RedisServer.exec
        (redisAfter redis arrivals ops)).1 = .ok (some read) ∧
      (Record.of ops arrival.job.jobId).Shown redis.resultForm read :=
  redis.get_after_record (RedisQueueBackend.hash_arrived recordable.ids member)
    (recordable.encodes arrival member) (recordable.fresh arrival member) recordable.records

/-- **Attempt, progress and result on three backends.** After any calls on jobs that were
stored with nothing recorded, `get` of the memory, SQL and Redis backends returns every job
with the number of its attempts and the last error, progress and result written, exactly
when the last result of no job is a dictionary. -/
theorem recorded_alike_iff (recordable : Recordable redis arrivals ops) :
    (∀ arrival ∈ arrivals, ReadsAlike sql redis arrivals ops arrival.job.jobId) ↔
      ∀ arrival ∈ arrivals, ∀ dict,
        (Record.of ops arrival.job.jobId).result ≠ some (.object dict) := by
  refine forall₂_congr fun arrival member => ?_
  obtain ⟨read, found, shown⟩ := redis_reads recordable member
  constructor
  · intro alike dict last
    obtain ⟨other, same, plain⟩ := alike.redis
    obtain rfl := Option.some.inj (Except.ok.inj (found.symm.trans same))
    have results := shown.result.symm.trans plain.result
    rw [last] at results
    cases results
  · intro plain
    refine ⟨memory_reads recordable member, sql_reads sql recordable member, read, found,
      shown.attempt, shown.lastError, shown.progress, ?_⟩
    rw [shown.result]
    cases last : (Record.of ops arrival.job.jobId).result with
    | none => rfl
    | some result =>
        cases result with
        | text content => rfl
        | object dict => exact absurd last (plain dict)

end Agreement

section Sample

open RedisQueueBackend

/-- One job, enqueued at time zero. -/
def plainArrivals : List Arrival := [⟨plainJob "job" "task", 0⟩]

/-- An attempt, a progress without entries and a result. -/
def plainCalls (result : ResultData) : List RecordOp :=
  [.recordAttempt "job" none 0, .updateProgress "job" ∅ 0, .storeResult "job" result 0]

theorem recordable_plain {result : ResultData} (filled : plainBackend.resultText result ≠ "") :
    Recordable plainBackend plainArrivals (plainCalls result) where
  ids := List.nodup_singleton _
  fresh := by
    intro arrival member
    obtain rfl := List.mem_singleton.mp member
    exact ⟨rfl, rfl, rfl, rfl⟩
  encodes := by
    intro arrival member
    obtain rfl := List.mem_singleton.mp member
    exact encodes_plainJob "job" "task"
  records := by
    intro op member
    simp only [plainCalls, List.mem_cons, List.not_mem_nil, or_false] at member
    rcases member with rfl | rfl | rfl
    · exact ⟨readsTime_plain, fun _ missing => by cases missing⟩
    · exact ⟨readsTime_plain, reads_plain (.head _)⟩
    · exact ⟨readsTime_plain, filled⟩

/-- A result that is a text reads back alike. -/
theorem text_result_reads_alike :
    ReadsAlike SQLQueueBackend.decodingBackend plainBackend plainArrivals
      (plainCalls (.text "done")) "job" := by
  refine (recorded_alike_iff SQLQueueBackend.decodingBackend
    (recordable_plain (by decide))).mpr ?_ _ (List.mem_singleton_self _)
  intro arrival member dict last
  obtain rfl := List.mem_singleton.mp member
  cases Option.some.inj last

/-- A result that is a dictionary comes back from Redis as a text. -/
theorem dict_result_reads_as_text :
    ¬ ∀ (sql : SQLQueueBackend) (redis : RedisQueueBackend) (arrivals : List Arrival)
      (ops : List RecordOp), Recordable redis arrivals ops →
        ∀ arrival ∈ arrivals, ReadsAlike sql redis arrivals ops arrival.job.jobId := by
  intro alike
  have recordable : Recordable plainBackend plainArrivals (plainCalls (.object ∅)) :=
    recordable_plain (by decide)
  have member : ⟨plainJob "job" "task", 0⟩ ∈ plainArrivals := List.mem_singleton_self _
  obtain ⟨read, found, shown⟩ := redis_reads recordable member
  obtain ⟨other, same, plain⟩ :=
    (alike SQLQueueBackend.decodingBackend plainBackend _ _ recordable _ member).redis
  obtain rfl := Option.some.inj (Except.ok.inj (found.symm.trans same))
  cases shown.result.symm.trans plain.result

end Sample

end CloudDogJobs
