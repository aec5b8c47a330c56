import CloudDogJobs.Foundation.Refinement
import CloudDogJobs.Storage.Sequential
import CloudDogJobs.Worker.Commands

/-!
# Statements instead of calls

A worker's calls on the SQL backend are methods of several statements. A method runs
in a transaction, but at the level `READ COMMITTED` the statements of other processes
may come between its own. Only `claim` has more than one: it reads the metadata, then
updates the row with what it read. Nothing is lost by that. The update writes `host_id`
and `worker_id` over what it read, none of these calls changes the rest of the metadata,
and the condition on the status is part of the update. So every run of statements is a
run of whole calls. That is no longer so beside `record_attempt`, `update_progress` and
`store_result`, which no worker calls: they too write back the metadata they have read.
-/

namespace CloudDogJobs

open Foundation

/-- The calls that go to the backend; the others stay in the process. -/
def WorkerCall.onBackend : WorkerCall → Bool
  | .dequeue _ _ => true
  | .get _ => true
  | .claim _ _ _ _ => true
  | .heartbeat _ _ => true
  | .updateStatus _ _ _ => true
  | .enqueue _ _ => true
  | _ => false

/-- One step of a client of the database: a statement, or a call in the process. -/
inductive ServiceStatement
  | sql (statement : SqlCall)
  | own (call : WorkerCall) (inProcess : call.onBackend = false)

@[reducible] def ServiceStatement.Reply : ServiceStatement → Type
  | .sql statement => statement.Reply
  | .own call _ => call.Reply

abbrev StatementProg (α : Type) : Type := Prog ServiceStatement ServiceStatement.Reply α

namespace SQLQueueBackend

variable (backend : SQLQueueBackend)

/-- The statements of a method, each as a step of the client. -/
def steps {α : Type} (program : SqlProg α) : StatementProg α :=
  program.expand fun statement => Prog.issue (ServiceStatement.sql statement)

/-- A call in the process is one step. -/
def own (call : WorkerCall) (inProcess : call.onBackend = false) : StatementProg call.Reply :=
  Prog.issue (ServiceStatement.own call inProcess)

/-- The call, written out in statements. -/
def statements : (call : WorkerCall) → StatementProg call.Reply
  | .dequeue limit queueName => steps (backend.dequeue limit none queueName)
  | .get jobId => steps (backend.get jobId)
  | .claim jobId hostId workerId now => steps (claim jobId hostId workerId now)
  | .heartbeat jobId now => steps (heartbeat jobId now)
  | .updateStatus jobId status now => steps (updateStatus jobId status.value now)
  | .enqueue job _ => steps (enqueue job)
  | .trackedDependencies jobId => own (.trackedDependencies jobId) rfl
  | .acquireConcurrency jobType => own (.acquireConcurrency jobType) rfl
  | .releaseConcurrency jobType => own (.releaseConcurrency jobType) rfl
  | .acquireResources jobId resources => own (.acquireResources jobId resources) rfl
  | .releaseResources jobId => own (.releaseResources jobId) rfl
  | .handle job => own (.handle job) rfl
  | .notify url payload => own (.notify url payload) rfl

/-- The effect of one step. -/
def perform : (statement : ServiceStatement) → Shared JobTable →
    statement.Reply × Shared JobTable
  | .sql statement, shared =>
      ((JobTable.exec statement shared.store).1,
        { shared with store := (JobTable.exec statement shared.store).2 })
  | .own call _, shared => Shared.exec backend.contract call shared

variable {ι Op α : Type} (code : ι → Op → WorkerProg α)

/-- Clients of one database whose calls are atomic. -/
def callMachine : Machine ι Op WorkerCall WorkerCall.Reply α (Shared JobTable) where
  exec := Shared.exec backend.contract
  code := code

/-- The same clients with the statements of their calls interleaved. -/
def statementMachine :
    Machine ι Op ServiceStatement ServiceStatement.Reply α (Shared JobTable) where
  exec := backend.perform
  code client op := (code client op).expand backend.statements

end SQLQueueBackend

/-- What is seen of a call: its reply, when it stays in the process. -/
def WorkerCall.label (call : WorkerCall) (reply : call.Reply) :
    Option (Sigma WorkerCall.Reply) :=
  if call.onBackend then none else some ⟨call, reply⟩

/-- What is seen of a step. -/
def ServiceStatement.note :
    (statement : ServiceStatement) → statement.Reply → Option (Sigma WorkerCall.Reply)
  | .sql _, _ => none
  | .own call _, reply => some ⟨call, reply⟩

/-- The metadata of a row but for the fields that a claim writes, or what a claim
raises on it. -/
def JobRow.unclaimed (row : JobRow) : Except PyError (Dict String Value) :=
  (SQLAlchemyJobRepository.claimMeta row.metadata).map fun metadata =>
    (metadata.set "host_id" .none).set "worker_id" .none

/-- No row is lost, and no metadata changes but for the fields of a claim. -/
def JobTable.Kept (before after : JobTable) : Prop :=
  ∀ jobId row, before.rows.get? jobId = some row →
    ∃ now, after.rows.get? jobId = some now ∧ now.unclaimed = row.unclaimed

namespace JobTable

variable {table : JobTable} {jobId : String}

theorem Kept.refl (table : JobTable) : table.Kept table := fun _ row found => ⟨row, found, rfl⟩

theorem Kept.trans {first second third : JobTable} (before : first.Kept second)
    (after : second.Kept third) : first.Kept third := by
  intro jobId row found
  obtain ⟨between, middle, same⟩ := before jobId row found
  obtain ⟨last, reached, alike⟩ := after jobId between middle
  exact ⟨last, reached, alike.trans same⟩

theorem Kept.insert (table : JobTable) (row : JobRow) : table.Kept (table.insert row).2 := by
  intro jobId stored found
  refine ⟨stored, ?_, rfl⟩
  rw [get?_insert, if_neg ?_]
  · exact found
  · rintro ⟨rfl, absent⟩
    cases absent.symm.trans found

/-- An update keeps the table when it keeps the row that it matches. -/
theorem Kept.update {condition : JobRow → Bool} {change : JobRow → JobRow}
    (keeps : ∀ row, (change row).jobId = row.jobId)
    (same : ∀ row, table.rows.get? jobId = some row → (change row).unclaimed = row.unclaimed) :
    table.Kept (table.update jobId condition change keeps).2 := by
  intro other row found
  rw [get?_update]
  split
  · next matched =>
      obtain ⟨rfl, _⟩ := matched
      exact ⟨change row, by rw [found]; rfl, same row found⟩
  · exact ⟨row, found, rfl⟩

end JobTable

namespace SQLQueueBackend

variable (backend : SQLQueueBackend)

/-- Calls and statements on the objects that the clients share. -/
def lowering : Lowering WorkerCall WorkerCall.Reply ServiceStatement ServiceStatement.Reply
    (Shared JobTable) (Sigma WorkerCall.Reply) where
  exec := Shared.exec backend.contract
  perform := backend.perform
  label := WorkerCall.label
  note := ServiceStatement.note
  later before after := before.store.Kept after.store
  later_refl shared := .refl shared.store
  later_trans _ _ _ before after := before.trans after

/-- A method of one statement. -/
theorem refines_statement (call : WorkerCall) (stored : call.onBackend = true)
    (statement : SqlCall) (finish : statement.Reply → call.Reply)
    (grows : ∀ table : JobTable, table.Kept (JobTable.exec statement table).2)
    (same : ∀ shared, Shared.exec backend.contract call shared =
      (finish (JobTable.exec statement shared.store).1,
        { shared with store := (JobTable.exec statement shared.store).2 }))
    (seen : Shared JobTable) :
    backend.lowering.Refines seen
      (.act (.sql statement) fun answer => .ret (finish answer)) (Prog.issue call) := by
  refine backend.lowering.refines_single (.sql statement) call finish
    (fun shared => grows shared.store) ?_ same seen
  intro shared
  exact (if_pos stored).symm

/-- A call in the process. -/
theorem refines_own {call : WorkerCall} (inProcess : call.onBackend = false)
    (seen : Shared JobTable) :
    backend.lowering.Refines seen (own call inProcess) (Prog.issue call) := by
  show backend.lowering.Refines seen
    (.act (.own call inProcess) fun reply => .ret reply) (Prog.issue call)
  refine backend.lowering.refines_single (.own call inProcess) call (fun reply => reply) ?_ ?_ ?_
    seen
  · intro shared
    have untouched : (Shared.exec backend.contract call shared).2.store = shared.store := by
      cases call with
      | acquireConcurrency jobType => rfl
      | releaseConcurrency jobType => rfl
      | acquireResources jobId resources => rfl
      | releaseResources jobId => rfl
      | trackedDependencies jobId => rfl
      | handle job => rfl
      | notify url payload => rfl
      | _ => cases inProcess
    show shared.store.Kept (Shared.exec backend.contract call shared).2.store
    rw [untouched]
    exact .refl _
  · intro shared
    exact (if_neg (by rw [inProcess]; exact Bool.false_ne_true)).symm
  · exact fun _ => rfl

/-- `enqueue` is its `INSERT`. -/
theorem steps_enqueue (job : Job) :
    steps (enqueue job) =
      .act (.sql (.insert (SQLAlchemyJobRepository.rowOf job)))
        fun answer => .ret (answer.map fun _ => job.jobId) := by
  refine congrArg (Prog.act _) (funext fun answer => ?_)
  cases answer with
  | ok inserted => rfl
  | error error => rfl

/-- `get` is its `SELECT`. -/
theorem steps_get (jobId : String) :
    steps (backend.get jobId) =
      .act (.sql (.selectRow jobId)) fun row => .ret (readRow backend.repo.loads row) := by
  refine congrArg (Prog.act _) (funext fun row => ?_)
  cases row with
  | none => rfl
  | some found => rfl

section Claim

variable (jobId hostId workerId : String) (now : Int)

/-- The metadata that a claim writes when it has read this. -/
def claimedMeta (metadata : Dict String Value) : Dict String Value :=
  (metadata.set "host_id" (.str hostId)).set "worker_id" (.str workerId)

theorem run_claim_of_read {table : JobTable} {row : JobRow} {metadata : Dict String Value}
    (present : table.rows.get? jobId = some row)
    (read : SQLAlchemyJobRepository.claimMeta row.metadata = .ok metadata) :
    (claim jobId hostId workerId now).run JobTable.exec table =
      (.ok ((JobTable.exec (.updateClaimed jobId (hostId ++ ":" ++ workerId)
          (claimedMeta hostId workerId metadata) now) table).1 == 1),
        (JobTable.exec (.updateClaimed jobId (hostId ++ ":" ++ workerId)
          (claimedMeta hostId workerId metadata) now) table).2) := by
  unfold claim SQLAlchemyJobRepository.setClaimed
  rw [Prog.issue_bind, Prog.run_act]
  simp only [JobTable.exec, present, Option.map_some, read]
  rfl

theorem run_claim_of_unread {table : JobTable} {row : JobRow} {error : PyError}
    (present : table.rows.get? jobId = some row)
    (read : SQLAlchemyJobRepository.claimMeta row.metadata = .error error) :
    (claim jobId hostId workerId now).run JobTable.exec table = (.error error, table) := by
  unfold claim SQLAlchemyJobRepository.setClaimed
  rw [Prog.issue_bind, Prog.run_act]
  simp only [JobTable.exec, present, Option.map_some, read]
  rfl

/-- The metadata that a claim writes is decided by what no other claim changes. -/
theorem claimedMeta_of_unclaimed {row current : JobRow} {metadata : Dict String Value}
    (same : current.unclaimed = row.unclaimed)
    (read : SQLAlchemyJobRepository.claimMeta row.metadata = .ok metadata) :
    ∃ found, SQLAlchemyJobRepository.claimMeta current.metadata = .ok found ∧
      claimedMeta hostId workerId found = claimedMeta hostId workerId metadata := by
  unfold JobRow.unclaimed at same
  rw [read] at same
  cases decoded : SQLAlchemyJobRepository.claimMeta current.metadata with
  | error error =>
      rw [decoded] at same
      cases same
  | ok found =>
      rw [decoded] at same
      have stripped : (found.set "host_id" .none).set "worker_id" .none =
          (metadata.set "host_id" .none).set "worker_id" .none := Except.ok.inj same
      have restored : ∀ dict : Dict String Value, claimedMeta hostId workerId dict =
          claimedMeta hostId workerId ((dict.set "host_id" .none).set "worker_id" .none) := by
        intro dict
        have between := Dict.set_set_between dict (show "host_id" ≠ "worker_id" by decide)
          .none (.str hostId) .none
        unfold claimedMeta
        rw [between, Dict.set_set]
      exact ⟨found, rfl, by rw [restored, stripped, ← restored]⟩

/-- What a claim writes is, but for the fields of a claim, what it has read. -/
theorem unclaimed_claimed {row : JobRow} {metadata : Dict String Value}
    (read : SQLAlchemyJobRepository.claimMeta row.metadata = .ok metadata)
    (claimed : JobRow)
    (written : claimed.metadata = .object (claimedMeta hostId workerId metadata)) :
    claimed.unclaimed = row.unclaimed := by
  have between := Dict.set_set_between metadata (show "host_id" ≠ "worker_id" by decide)
    (.str hostId) .none (.str workerId)
  have kept : ((claimedMeta hostId workerId metadata).set "host_id" .none).set "worker_id" .none =
      (metadata.set "host_id" .none).set "worker_id" .none := by
    unfold claimedMeta
    rw [between, Dict.set_set]
  unfold JobRow.unclaimed
  rw [read, written]
  exact congrArg Except.ok kept

/-- A claim after its `SELECT`. -/
def claimRest : Option JsonCell → StatementProg (Except PyError Bool)
  | none => .ret (.ok false)
  | some cell =>
      match SQLAlchemyJobRepository.claimMeta cell with
      | .error error => .ret (.error error)
      | .ok metadata =>
          .act (.sql (.updateClaimed jobId (hostId ++ ":" ++ workerId)
            (claimedMeta hostId workerId metadata) now)) fun rowcount => .ret (.ok (rowcount == 1))

theorem steps_claim :
    steps (claim jobId hostId workerId now) =
      .act (.sql (.selectMeta jobId)) (claimRest jobId hostId workerId now) := by
  refine congrArg (Prog.act _) (funext fun found => ?_)
  cases found with
  | none => rfl
  | some cell =>
      cases read : SQLAlchemyJobRepository.claimMeta cell with
      | error error =>
          simp only [claimRest, read, Prog.bind]
          rfl
      | ok metadata =>
          simp only [claimRest, read, Prog.bind]
          rfl

/-- Other clients may come between the two statements of a claim. A row that is not
there, or whose metadata does not read, is refused by the `SELECT`; otherwise the
`UPDATE` is the claim. -/
theorem refines_claim (seen : Shared JobTable) :
    backend.lowering.Refines seen (steps (claim jobId hostId workerId now))
      (Prog.issue (WorkerCall.claim jobId hostId workerId now)) := by
  rw [steps_claim]
  intro before _
  refine ⟨backend.lowering.later_refl before, ?_⟩
  have answer : (backend.lowering.perform (.sql (.selectMeta jobId)) before).1 =
      (before.store.rows.get? jobId).map JobRow.metadata := rfl
  rw [answer]
  cases stored : before.store.rows.get? jobId with
  | none =>
      have refused := run_claim_of_absent before.store jobId now hostId workerId stored
      refine .inr ⟨.claim jobId hostId workerId now, .ret, rfl, rfl, ?_, ?_⟩
      · show before = (Shared.exec backend.contract (.claim jobId hostId workerId now) before).2
        simp only [Shared.exec, contract, refused]
      · show Prog.ret (Shared.exec backend.contract (.claim jobId hostId workerId now) before).1 =
          .ret (.ok false)
        simp only [Shared.exec, contract, refused]
  | some row =>
      cases read : SQLAlchemyJobRepository.claimMeta row.metadata with
      | error error =>
          have raised := run_claim_of_unread jobId hostId workerId now stored read
          refine .inr ⟨.claim jobId hostId workerId now, .ret, rfl, rfl, ?_, ?_⟩
          · show before = (Shared.exec backend.contract (.claim jobId hostId workerId now) before).2
            simp only [Shared.exec, contract, raised]
          · simp only [Option.map_some, claimRest, read]
            show Prog.ret
              (Shared.exec backend.contract (.claim jobId hostId workerId now) before).1 = _
            simp only [Shared.exec, contract, raised]
      | ok metadata =>
          refine .inl ⟨rfl, rfl, ?_⟩
          simp only [Option.map_some, claimRest, read]
          intro current later
          obtain ⟨found, present, same⟩ := later jobId row stored
          obtain ⟨other, reads, writes⟩ := claimedMeta_of_unclaimed hostId workerId same read
          have claimed := run_claim_of_read jobId hostId workerId now present reads
          rw [writes] at claimed
          refine ⟨?_, .inr ⟨.claim jobId hostId workerId now, .ret, rfl, rfl, ?_, ?_⟩⟩
          · refine JobTable.Kept.update (by intro _; rfl) fun earlier inside => ?_
            obtain rfl := Option.some.inj (present.symm.trans inside)
            exact unclaimed_claimed hostId workerId reads _ (congrArg JsonCell.object writes.symm)
          · show _ = (Shared.exec backend.contract (.claim jobId hostId workerId now) current).2
            simp only [Shared.exec, contract, claimed]
            rfl
          · show Prog.ret
              (Shared.exec backend.contract (.claim jobId hostId workerId now) current).1 = _
            simp only [Shared.exec, contract, claimed]
            rfl

end Claim

/-- Every call is refined by its statements. -/
theorem refines_statements (call : WorkerCall) (seen : Shared JobTable) :
    backend.lowering.Refines seen (backend.statements call) (Prog.issue call) := by
  cases call with
  | dequeue limit queueName =>
      exact backend.refines_statement (.dequeue limit queueName) rfl
        (.selectQueued limit none queueName) (fun rows => rows.mapM (rowToJob backend.repo.loads))
        JobTable.Kept.refl (fun _ => rfl) seen
  | get jobId =>
      rw [statements, steps_get]
      refine backend.refines_statement (.get jobId) rfl (.selectRow jobId)
        (readRow backend.repo.loads) JobTable.Kept.refl (fun shared => ?_) seen
      exact congrArg (fun found => (found, shared))
        (contract_get shared.store jobId backend)
  | claim jobId hostId workerId now => exact backend.refines_claim jobId hostId workerId now seen
  | heartbeat jobId now =>
      exact backend.refines_statement (.heartbeat jobId now) rfl (.updateTouched jobId now)
        (fun rowcount => .ok (rowcount == 1)) (fun _ => .update (by intro _; rfl) fun _ _ => rfl)
        (fun _ => rfl) seen
  | updateStatus jobId status now =>
      exact backend.refines_statement (.updateStatus jobId status now) rfl
        (.updateStatus jobId status.value true now)
        (fun rowcount => .ok (rowcount == 1)) (fun _ => .update (by intro _; rfl) fun _ _ => rfl)
        (fun _ => rfl) seen
  | enqueue job now =>
      rw [statements, steps_enqueue]
      refine backend.refines_statement (.enqueue job now) rfl
        (.insert (SQLAlchemyJobRepository.rowOf job))
        (fun answer => answer.map fun _ => job.jobId) (fun table => .insert table _)
        (fun shared => ?_) seen
      have ran := run_enqueue shared.store job
      simp only [Shared.exec, contract, ran]
      rfl
  | trackedDependencies jobId => exact backend.refines_own rfl seen
  | acquireConcurrency jobType => exact backend.refines_own rfl seen
  | releaseConcurrency jobType => exact backend.refines_own rfl seen
  | acquireResources jobId resources => exact backend.refines_own rfl seen
  | releaseResources jobId => exact backend.refines_own rfl seen
  | handle job => exact backend.refines_own rfl seen
  | notify url payload => exact backend.refines_own rfl seen

variable {ι Op α : Type} [DecidableEq ι] (code : ι → Op → WorkerProg α)

/-- **Statements behave as whole calls.** Clients of one database that make the calls of
a worker, workers among them, run in any order with the statements of their backend calls
interleaved. For every such run there is a run in which each call is one atomic step that
reaches the same table and the same objects, and in which the clients make and finish the
same operations with the same values, take and give back the same slots, start the same
handlers and notify alike, all in the same order. -/
theorem statements_refine_calls (shared : Shared JobTable) (schedule : List (Action ι Op)) :
    ∃ actions : List (Action ι Op),
      ((backend.callMachine code).runFrom (.initial shared) actions).shared =
          ((backend.statementMachine code).runFrom (.initial shared) schedule).shared ∧
        observed WorkerCall.label
            ((backend.callMachine code).runFrom (.initial shared) actions).history =
          observed ServiceStatement.note
            ((backend.statementMachine code).runFrom (.initial shared) schedule).history ∧
        ∀ client, ((backend.callMachine code).runFrom (.initial shared) actions).client client =
            .idle ↔
          ((backend.statementMachine code).runFrom (.initial shared) schedule).client client =
            .idle := by
  have expands : ∀ client op seen, backend.lowering.Refines seen
      ((backend.statementMachine code).code client op)
      ((backend.callMachine code).code client op) :=
    fun client op seen => Lowering.Refines.expand backend.refines_statements (code client op) seen
  obtain ⟨actions, alike⟩ := Lowering.refines_run (backend.statementMachine code)
    (backend.callMachine code) rfl rfl expands shared schedule
  exact ⟨actions, alike.shared, alike.observed, fun client => (alike.clients client).idle_iff⟩

end SQLQueueBackend

end CloudDogJobs
