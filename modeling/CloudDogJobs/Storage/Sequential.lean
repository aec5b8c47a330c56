import CloudDogJobs.Storage.Repository

/-!
# The SQL backend run alone

What each method of the SQL backend does when no other client's statement falls
between its own: one equation per method, and what the method does to the standings
of jobs: whether a job is there, and with which status.
-/

namespace CloudDogJobs

open Foundation

/-- Whether SQL has a job, and with which status. -/
def JobTable.standing (table : JobTable) (jobId : String) : Option (Option String) :=
  (table.rows.get? jobId).map fun row => some row.status

namespace JobTable

theorem status?_eq_join (table : JobTable) (jobId : String) :
    table.status? jobId = (table.standing jobId).join := by
  unfold status? standing
  cases table.rows.get? jobId with
  | none => rfl
  | some row => rfl

/-- A stored job has a status. -/
theorem isSome_join_standing {table : JobTable} {jobId : String}
    (known : (table.standing jobId).isSome) : (table.standing jobId).join.isSome := by
  unfold standing at known ⊢
  cases stored : table.rows.get? jobId with
  | none =>
      rw [stored] at known
      cases known
  | some row => rfl

/-- The row is inserted when its key is free. -/
theorem insert_of_absent {table : JobTable} {row : JobRow}
    (absent : table.rows.get? row.jobId = none) :
    (table.insert row).1 = .ok () ∧
      (table.insert row).2.rows = table.rows.set row.jobId row := by
  unfold insert
  split
  · next present => cases absent.symm.trans present
  · exact ⟨rfl, rfl⟩

theorem insert_of_present {table : JobTable} {row stored : JobRow}
    (present : table.rows.get? row.jobId = some stored) :
    table.insert row =
      (.error (.integrityError "UNIQUE constraint failed: jobs.job_id"), table) := by
  unfold insert
  split
  · rfl
  · next absent => cases present.symm.trans absent

/-- An update without a condition counts the row when it is there, and changes it. -/
theorem update_always (table : JobTable) (jobId : String) (change : JobRow → JobRow)
    (keeps : ∀ row, (change row).jobId = row.jobId) :
    ((table.update jobId (fun _ => true) change keeps).1 == 1) =
        (table.rows.get? jobId).isSome ∧
      ∀ other, (table.update jobId (fun _ => true) change keeps).2.rows.get? other =
        if other = jobId then (table.rows.get? jobId).map change else table.rows.get? other := by
  refine ⟨?_, fun other => ?_⟩
  · rw [update_fst]
    cases table.rows.get? jobId with
    | none => rfl
    | some row => rfl
  · rw [get?_update, update_fst]
    cases stored : table.rows.get? jobId with
    | none =>
        by_cases same : other = jobId
        · subst same
          simp [stored]
        · simp [same]
    | some row => simp

/-- The table after an update that matched nothing is the same. -/
theorem update_of_not_any {table : JobTable} {jobId : String} {condition : JobRow → Bool}
    {change : JobRow → JobRow} (keeps : ∀ row, (change row).jobId = row.jobId)
    (unmatched : ¬ (table.rows.get? jobId).any condition = true) :
    (table.update jobId condition change keeps).2 = table := by
  unfold update
  cases stored : table.rows.get? jobId with
  | none => rfl
  | some row =>
      rw [stored, Option.any_some] at unmatched
      simp only [unmatched]
      rfl

/-- An update that matched its row and writes a status gives the job that standing. -/
theorem standing_update {table : JobTable} {jobId : String} {condition : JobRow → Bool}
    {change : JobRow → JobRow} {keeps : ∀ row, (change row).jobId = row.jobId} {status : String}
    (matched : (table.rows.get? jobId).any condition = true)
    (named : ∀ row, (change row).status = status) :
    (table.update jobId condition change keeps).2.standing =
      Function.update table.standing jobId (some (some status)) := by
  funext other
  unfold standing
  rw [get?_update, update_fst, if_pos matched]
  by_cases same : other = jobId
  · obtain ⟨row, stored⟩ : ∃ row, table.rows.get? jobId = some row := by
      apply Option.isSome_iff_exists.mp
      exact Option.isSome_of_any matched
    rw [if_pos ⟨same, rfl⟩, same, Function.update_self, stored]
    simp only [Option.map_some, named]
  · rw [if_neg fun both => same both.1, Function.update_of_ne same]

/-- An update that writes no status leaves the standings alone. -/
theorem standing_update_of_same {table : JobTable} {jobId : String} {condition : JobRow → Bool}
    {change : JobRow → JobRow} (keeps : ∀ row, (change row).jobId = row.jobId)
    (unnamed : ∀ row, (change row).status = row.status) :
    (table.update jobId condition change keeps).2.standing = table.standing := by
  funext other
  unfold standing
  rw [get?_update]
  split
  · next both =>
      rw [both.1, Option.map_map]
      exact congrArg (fun read => (table.rows.get? jobId).map read)
        (funext fun row => congrArg some (unnamed row))
  · rfl

/-- Every metadata cell is an object, as `enqueue` and the updates write it. -/
def Objects (table : JobTable) : Prop :=
  ∀ jobId row, table.rows.get? jobId = some row → ∃ metadata, row.metadata = .object metadata

theorem Objects.update {table : JobTable} (objects : table.Objects) (jobId : String)
    (condition : JobRow → Bool) {change : JobRow → JobRow}
    {keeps : ∀ row, (change row).jobId = row.jobId}
    (written : ∀ row, (change row).metadata = row.metadata ∨
      ∃ metadata, (change row).metadata = .object metadata) :
    (table.update jobId condition change keeps).2.Objects := by
  apply forall_rows_update objects
  intro before stored
  rcases written before with same | object
  · rw [same]
    exact objects jobId before stored
  · exact object

theorem Objects.insert {table : JobTable} (objects : table.Objects) {row : JobRow}
    (object : ∃ metadata, row.metadata = .object metadata) : (table.insert row).2.Objects :=
  forall_rows_insert objects object

/-- Every statement that the repository executes keeps the cells objects, but for
the rows that a caller brings along. -/
theorem Objects.exec {table : JobTable} (objects : table.Objects) (call : SqlCall)
    (brought : ∀ row, call = .insert row → ∃ metadata, row.metadata = .object metadata) :
    (JobTable.exec call table).2.Objects := by
  cases call with
  | insert row => exact objects.insert (brought row rfl)
  | updateClaimed jobId claimedBy metadata now =>
      apply objects.update
      · exact fun _ => rfl
      · exact fun _ => .inr ⟨metadata, rfl⟩
  | updateStatus jobId status clearClaim now =>
      apply objects.update
      · exact fun _ => rfl
      · exact fun _ => .inl rfl
  | updateTouched jobId now =>
      apply objects.update
      · exact fun _ => rfl
      · exact fun _ => .inl rfl
  | updateMeta jobId metadata now =>
      apply objects.update
      · exact fun _ => rfl
      · exact fun _ => .inr ⟨metadata, rfl⟩
  | _ => exact objects

end JobTable

/-- A statement that brings no row with a text as its metadata. -/
def SqlCall.Plain (call : SqlCall) : Prop :=
  ∀ row, call = .insert row → ∃ metadata, row.metadata = .object metadata

theorem JobTable.Objects.run {α : Type} {program : SqlProg α} (only : program.Only SqlCall.Plain)
    {table : JobTable} (objects : table.Objects) :
    (program.run JobTable.exec table).2.Objects :=
  only.run JobTable.exec (fun call _ plain objects => objects.exec call plain) objects

namespace SQLAlchemyJobRepository

variable (repo : SQLAlchemyJobRepository)

theorem only_amendMeta {permitted : SqlCall → Prop} (jobId : String)
    (change : Dict String Value → Except PyError (Dict String Value)) (now : Int)
    (select : permitted (.selectMeta jobId))
    (update : ∀ metadata, permitted (.updateMeta jobId metadata now)) :
    (repo.amendMeta jobId change now).Only permitted := by
  unfold amendMeta
  refine Prog.Only.bind ?_ fun found => ?_
  · exact ⟨select, fun _ => trivial⟩
  · cases found with
    | none => trivial
    | some cell =>
        simp only []
        split
        · trivial
        · exact ⟨update _, fun _ => trivial⟩

/-- The methods that change metadata keep the cells objects. -/
theorem objects_amendMeta (jobId : String)
    (change : Dict String Value → Except PyError (Dict String Value)) (now : Int)
    {table : JobTable} (objects : table.Objects) :
    ((repo.amendMeta jobId change now).run JobTable.exec table).2.Objects := by
  apply JobTable.Objects.run (repo.only_amendMeta jobId change now ?_ ?_) objects
  · intro row same
    cases same
  · intro metadata row same
    cases same

/-- The methods that change metadata leave the standings alone. -/
theorem standing_amendMeta (jobId : String)
    (change : Dict String Value → Except PyError (Dict String Value)) (now : Int)
    (table : JobTable) :
    ((repo.amendMeta jobId change now).run JobTable.exec table).2.standing = table.standing := by
  have update : ∀ metadata reached,
      (JobTable.exec (.updateMeta jobId metadata now) reached).2.standing = reached.standing := by
    intro metadata reached
    refine JobTable.standing_update_of_same ?_ ?_
    · exact fun _ => rfl
    · exact fun _ => rfl
  have only : (repo.amendMeta jobId change now).Only fun call =>
      ∀ reached, (JobTable.exec call reached).2.standing = reached.standing :=
    repo.only_amendMeta jobId change now (fun _ => rfl) update
  exact only.run JobTable.exec
    (fun call reached same (kept : reached.standing = table.standing) =>
      (same reached).trans kept) rfl

end SQLAlchemyJobRepository

namespace SQLQueueBackend

variable (table : JobTable) (jobId : String) (now : Int)

theorem run_enqueue (job : Job) :
    (enqueue job).run JobTable.exec table =
      ((table.insert (SQLAlchemyJobRepository.rowOf job)).1.map fun _ => job.jobId,
        (table.insert (SQLAlchemyJobRepository.rowOf job)).2) := by
  unfold enqueue SQLAlchemyJobRepository.enqueue
  rw [Prog.issue_bind, Prog.run_act]
  simp only [JobTable.exec]
  cases (table.insert (SQLAlchemyJobRepository.rowOf job)).1 with
  | ok inserted => rfl
  | error error => rfl

theorem run_enqueue_of_absent {job : Job} (absent : table.rows.get? job.jobId = none) :
    (enqueue job).run JobTable.exec table =
      (.ok job.jobId, (table.insert (SQLAlchemyJobRepository.rowOf job)).2) := by
  have inserted : (table.insert (SQLAlchemyJobRepository.rowOf job)).1 = .ok () :=
    (JobTable.insert_of_absent absent).1
  rw [run_enqueue, inserted]
  rfl

theorem run_enqueue_of_present {job : Job} {row : JobRow}
    (present : table.rows.get? job.jobId = some row) :
    (enqueue job).run JobTable.exec table =
      (.error (.integrityError "UNIQUE constraint failed: jobs.job_id"), table) := by
  have refused : table.insert (SQLAlchemyJobRepository.rowOf job) =
      (.error (.integrityError "UNIQUE constraint failed: jobs.job_id"), table) :=
    JobTable.insert_of_present present
  rw [run_enqueue, refused]
  rfl

theorem run_updateStatus (status : String) :
    (updateStatus jobId status now).run JobTable.exec table =
      (.ok (table.rows.get? jobId).isSome,
        (JobTable.exec (.updateStatus jobId status true now) table).2) := by
  have counted := (table.update_always jobId (fun row => { row with
    status := status
    claimedBy := if true then none else row.claimedBy
    updatedAt := now }) fun _ => rfl).1
  unfold updateStatus SQLAlchemyJobRepository.setStatus
  rw [Prog.issue_bind, Prog.run_act, ← counted]
  rfl

theorem run_heartbeat :
    (heartbeat jobId now).run JobTable.exec table =
      (.ok (table.rows.get? jobId).isSome,
        (JobTable.exec (.updateTouched jobId now) table).2) := by
  have counted := (table.update_always jobId (fun row => { row with updatedAt := now })
    fun _ => rfl).1
  unfold heartbeat SQLAlchemyJobRepository.heartbeat
  rw [Prog.issue_bind, Prog.run_act, ← counted]
  rfl

/-- What `get` makes of the row it found. -/
def readRow (loads : String → Except PyError Value) : Option JobRow → Except PyError (Option Job)
  | none => .ok none
  | some row => (rowToJob loads row).map some

theorem contract_get (backend : SQLQueueBackend) :
    backend.contract.get jobId table = readRow backend.repo.loads (table.rows.get? jobId) := by
  have ran : (backend.get jobId).run JobTable.exec table =
      (readRow backend.repo.loads (table.rows.get? jobId), table) := by
    unfold get SQLAlchemyJobRepository.get
    rw [Prog.issue_bind, Prog.run_act]
    simp only [JobTable.exec]
    cases table.rows.get? jobId with
    | none => rfl
    | some row => rfl
  exact congrArg Prod.fst ran

variable (hostId workerId : String)

theorem run_claim_of_absent (absent : table.rows.get? jobId = none) :
    (claim jobId hostId workerId now).run JobTable.exec table = (.ok false, table) := by
  unfold claim SQLAlchemyJobRepository.setClaimed
  rw [Prog.issue_bind, Prog.run_act]
  simp only [JobTable.exec, absent, Option.map_none]
  rfl

/-- A row whose metadata is an object is claimed when its status is queued. -/
theorem run_claim_of_object {row : JobRow} {metadata : Dict String Value}
    (present : table.rows.get? jobId = some row) (object : row.metadata = .object metadata) :
    (claim jobId hostId workerId now).run JobTable.exec table =
      (.ok (row.status = JobStatus.queued.value),
        (JobTable.exec (.updateClaimed jobId (hostId ++ ":" ++ workerId)
          ((metadata.set "host_id" (.str hostId)).set "worker_id" (.str workerId)) now)
          table).2) := by
  have counted : ∀ change keeps, (table.update jobId
      (fun row => row.status = JobStatus.queued.value) change keeps).1 =
        if row.status = JobStatus.queued.value then 1 else 0 := by
    intro change keeps
    rw [JobTable.update_fst, present, Option.any_some]
    simp only [decide_eq_true_eq]
  unfold claim SQLAlchemyJobRepository.setClaimed
  rw [Prog.issue_bind, Prog.run_act]
  simp only [JobTable.exec, present, Option.map_some, object, SQLAlchemyJobRepository.claimMeta,
    Prog.issue_bind, Prog.run_act, counted, Prog.pure_eq_ret, Prog.run_ret]
  by_cases waiting : row.status = JobStatus.queued.value
  · simp [waiting]
  · simp [waiting]

section Standings

/-- What `enqueue` does: a new job has its standing, a known one is refused. -/
theorem enqueue_cases (job : Job) :
    (table.standing job.jobId = none ∧
      ((enqueue job).run JobTable.exec table).1 = .ok job.jobId ∧
      ((enqueue job).run JobTable.exec table).2.standing =
        Function.update table.standing job.jobId (some (some job.status.value))) ∨
    ((table.standing job.jobId).isSome ∧
      ∃ error, (enqueue job).run JobTable.exec table = (.error error, table)) := by
  unfold JobTable.standing
  cases stored : table.rows.get? job.jobId with
  | none =>
      have ran := run_enqueue_of_absent table stored
      refine .inl ⟨rfl, congrArg Prod.fst ran, ?_⟩
      rw [ran]
      funext other
      rw [JobTable.get?_insert]
      by_cases same : other = job.jobId
      · rw [if_pos ⟨same, stored⟩, same, Function.update_self]
        rfl
      · rw [if_neg fun both => same both.1, Function.update_of_ne same]
  | some row => exact .inr ⟨rfl, _, run_enqueue_of_present table stored⟩

/-- What `update_status` does: a stored job has the status, otherwise nothing
happens. -/
theorem updateStatus_cases (status : String) :
    (table.standing jobId = none ∧
      (updateStatus jobId status now).run JobTable.exec table = (.ok false, table)) ∨
    ((table.standing jobId).isSome ∧
      ((updateStatus jobId status now).run JobTable.exec table).1 = .ok true ∧
      ((updateStatus jobId status now).run JobTable.exec table).2.standing =
        Function.update table.standing jobId (some (some status))) := by
  rw [run_updateStatus]
  cases stored : table.rows.get? jobId with
  | none =>
      have unmatched : ¬ (table.rows.get? jobId).any (fun _ => true) = true := by simp [stored]
      refine .inl ⟨by simp [JobTable.standing, stored], ?_⟩
      refine congrArg (Prod.mk _) (JobTable.update_of_not_any ?_ unmatched)
      exact fun _ => rfl
  | some row =>
      have matched : (table.rows.get? jobId).any (fun _ => true) = true := by simp [stored]
      refine .inr ⟨by simp [JobTable.standing, stored], rfl, ?_⟩
      exact JobTable.standing_update matched fun _ => rfl

theorem standing_heartbeat :
    ((heartbeat jobId now).run JobTable.exec table).2.standing = table.standing := by
  rw [run_heartbeat]
  refine JobTable.standing_update_of_same ?_ ?_
  exact fun _ => rfl

/-- What `claim` does on a table of objects: a queued job runs, otherwise nothing
happens. -/
theorem claim_cases (objects : table.Objects) :
    (table.standing jobId ≠ some (some JobStatus.queued.value) ∧
      (claim jobId hostId workerId now).run JobTable.exec table = (.ok false, table)) ∨
    (table.standing jobId = some (some JobStatus.queued.value) ∧
      ((claim jobId hostId workerId now).run JobTable.exec table).1 = .ok true ∧
      ((claim jobId hostId workerId now).run JobTable.exec table).2.standing =
        Function.update table.standing jobId (some (some JobStatus.running.value))) := by
  cases stored : table.rows.get? jobId with
  | none =>
      refine .inl ⟨by simp [JobTable.standing, stored], ?_⟩
      exact run_claim_of_absent table jobId now hostId workerId stored
  | some row =>
      obtain ⟨metadata, object⟩ := objects jobId row stored
      rw [run_claim_of_object table jobId now hostId workerId stored object]
      by_cases waiting : row.status = JobStatus.queued.value
      · have matched : (table.rows.get? jobId).any
            (fun row => decide (row.status = JobStatus.queued.value)) = true := by
          simp [stored, waiting]
        refine .inr ⟨by simp [JobTable.standing, stored, waiting], by simp [waiting], ?_⟩
        exact JobTable.standing_update matched fun _ => rfl
      · have unmatched : ¬ (table.rows.get? jobId).any
            (fun row => decide (row.status = JobStatus.queued.value)) = true := by
          simp [stored, waiting]
        refine .inl ⟨by simp [JobTable.standing, stored, waiting], ?_⟩
        rw [decide_eq_false waiting]
        refine congrArg (Prod.mk _) (JobTable.update_of_not_any ?_ unmatched)
        exact fun _ => rfl

theorem objects_enqueue {table : JobTable} (objects : table.Objects) (job : Job) :
    ((enqueue job).run JobTable.exec table).2.Objects := by
  rw [run_enqueue]
  exact objects.insert ⟨job.toMetaDict, rfl⟩

theorem objects_claim {table : JobTable} (objects : table.Objects) :
    ((claim jobId hostId workerId now).run JobTable.exec table).2.Objects := by
  apply JobTable.Objects.run ?_ objects
  unfold claim SQLAlchemyJobRepository.setClaimed
  refine Prog.Only.bind ?_ fun found => ?_
  · refine ⟨fun row same => ?_, fun _ => trivial⟩
    cases same
  · cases found with
    | none => trivial
    | some cell =>
        simp only []
        split
        · trivial
        · refine ⟨fun row same => ?_, fun _ => trivial⟩
          cases same

theorem objects_updateStatus {table : JobTable} (objects : table.Objects) (status : String) :
    ((updateStatus jobId status now).run JobTable.exec table).2.Objects := by
  apply JobTable.Objects.run ?_ objects
  refine ⟨fun row same => ?_, fun _ => trivial⟩
  cases same

theorem objects_heartbeat {table : JobTable} (objects : table.Objects) :
    ((heartbeat jobId now).run JobTable.exec table).2.Objects := by
  apply JobTable.Objects.run ?_ objects
  refine ⟨fun row same => ?_, fun _ => trivial⟩
  cases same

end Standings

end SQLQueueBackend

end CloudDogJobs
