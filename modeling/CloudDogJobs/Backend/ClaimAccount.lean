import CloudDogJobs.Backend.Memory
import CloudDogJobs.Backend.Redis
import CloudDogJobs.Foundation.Tokens
import CloudDogJobs.Storage.Repository

/-!
# No double claim

A queued job is a token: the steps that put a job into `queued` supply it, and a
claim takes it. The three backends take it in three ways, under a lock, through a
conditional `UPDATE` and through a script, each after steps that may be out of
date by then. Whatever the clients interleave, no job is claimed more often than
it was put into `queued`.
-/

namespace CloudDogJobs

open Foundation

namespace MemoryQueueBackend

/-- Clients of one memory backend. The lock makes each call one step. -/
def machine (ι : Type) : Machine ι BackendOp BackendOp (fun _ => Except PyError BackendResult)
    (Except PyError BackendResult) MemoryQueueBackend where
  exec := contract.perform
  code _ op := Prog.issue op

/-- The job that a call with this result has put into `queued`. -/
def queuedBy : BackendOp → Except PyError BackendResult → Option String
  | .enqueue job _, .ok _ => if job.status = .queued then some job.jobId else none
  | .release jobId _, .ok (.flag true) => some jobId
  | .updateStatus jobId status _, .ok (.flag true) =>
      if status = JobStatus.queued.value then some jobId else none
  | _, _ => none

/-- Queued jobs of the memory backend as tokens. -/
def tokens : TokenRules BackendOp BackendOp (fun _ => Except PyError BackendResult)
    (Except PyError BackendResult) MemoryQueueBackend String where
  available backend jobId := backend.status? jobId = some .queued
  supplies := queuedBy
  takes := BackendOp.claimed
  wins := BackendOp.claimed

section Status

variable (backend : MemoryQueueBackend) (jobId other : String)

theorem status?_enqueue (job : Job) :
    (backend.enqueue job).2.status? other =
      if other = job.jobId then some job.status else backend.status? other := by
  unfold status?
  rw [view_enqueue]
  split <;> rfl

/-- The status after a change of one job. -/
theorem status?_touch (change : Job → Job) (keeps : ∀ job, (change job).jobId = job.jobId) :
    (backend.touch jobId change keeps).2.status? other =
      if other = jobId then (backend.get jobId).map fun job => (change job).status
      else backend.status? other := by
  unfold status? view
  rw [get_touch]
  split
  · simp only [Option.map_map]
    rfl
  · rfl

/-- A change that keeps the status of the job keeps every status. -/
theorem status?_touch_of_keeps {change : Job → Job}
    {keeps : ∀ job, (change job).jobId = job.jobId}
    (steady : ∀ job, (change job).status = job.status) :
    (backend.touch jobId change keeps).2.status? other = backend.status? other := by
  rw [status?_touch]
  split
  · next same =>
      rw [same, status?, view, Option.map_map]
      congr 1
      funext job
      exact steady job
  · rfl

theorem status?_claim (hostId workerId : String) (now : Int) :
    (backend.claim jobId hostId workerId now).2.status? other =
      if other = jobId ∧ (backend.claim jobId hostId workerId now).1 = true
      then some .running else backend.status? other := by
  unfold status?
  rw [view_claim]
  split
  · next granted =>
      have waiting := (backend.claim_fst jobId hostId workerId now).mp granted.2
      obtain ⟨ticket, shown, _⟩ := Option.map_eq_some_iff.mp waiting
      rw [shown]
      rfl
  · rfl

/-- A status text that decodes is written to a stored job. -/
theorem status?_updateStatus (status : String) (now : Int) :
    (backend.updateStatus jobId status now).2.status? other =
      match JobStatus.parse status with
      | .error _ => backend.status? other
      | .ok parsed => if other = jobId then (backend.status? jobId).map fun _ => parsed
          else backend.status? other := by
  unfold updateStatus
  cases stored : backend.jobs.get? jobId with
  | none =>
      have absent : backend.status? jobId = none := by simp [status?, view, get, stored]
      cases JobStatus.parse status with
      | error error => rfl
      | ok parsed =>
          by_cases same : other = jobId
          · simp [same, absent]
          · simp [same]
  | some job =>
      cases JobStatus.parse status with
      | error error => rfl
      | ok parsed =>
          simp only [status?]
          rw [view_mutate]
          by_cases same : other = jobId
          · simp [same, view, get, stored, Job.ticket]
          · simp [same]

end Status

/-- A step leaves a job queued only when it was, or when the step queued it. -/
theorem queued_after (op : BackendOp) (backend : MemoryQueueBackend) (key : String)
    (after : (contract.perform op backend).2.status? key = some .queued) :
    backend.status? key = some .queued ∨
      queuedBy op (contract.perform op backend).1 = some key := by
  cases op with
  | enqueue job now =>
      have stored := (backend.status?_enqueue key job).symm.trans after
      split at stored
      · next same =>
          right
          show (if job.status = .queued then some job.jobId else none) = some key
          rw [if_pos (Option.some.inj stored), same]
      · exact .inl stored
  | dequeue limit jobType queueName => exact .inl after
  | claim jobId hostId workerId now =>
      have moved := (backend.status?_claim jobId key hostId workerId now).symm.trans after
      split at moved
      · cases moved
      · exact .inl moved
  | heartbeat jobId now =>
      have kept : (backend.heartbeat jobId now).2.status? key = backend.status? key :=
        backend.status?_touch_of_keeps jobId key fun _ => rfl
      exact .inl (kept.symm.trans after)
  | recordAttempt jobId error now =>
      have kept : (backend.recordAttempt jobId error now).2.status? key = backend.status? key :=
        backend.status?_touch_of_keeps jobId key fun _ => rfl
      exact .inl (kept.symm.trans after)
  | release jobId now =>
      have moved : (if key = jobId then (backend.get jobId).map fun _ => JobStatus.queued
          else backend.status? key) = some .queued :=
        (backend.status?_touch jobId key _ _).symm.trans after
      split at moved
      · next same =>
          obtain ⟨job, stored, _⟩ := Option.map_eq_some_iff.mp moved
          have found : (backend.release jobId now).1 = true := by
            rw [release, touch_fst, stored]
            rfl
          right
          show queuedBy (.release jobId now) (.ok (.flag (backend.release jobId now).1)) = some key
          rw [found, same]
          rfl
      · exact .inl moved
  | updateStatus jobId status now =>
      have moved := (backend.status?_updateStatus jobId key status now).symm.trans after
      cases decoded : JobStatus.parse status with
      | error error =>
          rw [decoded] at moved
          exact .inl moved
      | ok parsed =>
          rw [decoded] at moved
          dsimp only at moved
          split at moved
          · next same =>
              obtain ⟨earlier, stored, rfl⟩ := Option.map_eq_some_iff.mp moved
              right
              have named : status = JobStatus.queued.value :=
                (JobStatus.value_of_parse decoded).symm
              have shown : (backend.view jobId).isSome = true := by
                unfold status? at stored
                rw [Option.map_eq_some_iff] at stored
                obtain ⟨ticket, shown, _⟩ := stored
                rw [shown]
                rfl
              subst named
              have returned := backend.updateStatus_fst jobId .queued now
              rw [shown] at returned
              show queuedBy _ ((backend.updateStatus jobId JobStatus.queued.value now).1.map _) = _
              rw [returned, same]
              rfl
          · exact .inl moved

/-- The tokens of the memory backend are taken fairly. -/
theorem tokens_fair (ι : Type) : tokens.Fair (machine ι) where
  balance op backend key := by
    apply TokenRules.balance_of_cases
    · intro taken
      obtain ⟨⟨hostId, workerId, now, rfl⟩, returned⟩ := BackendOp.claimed_eq_some taken
      have granted : (backend.claim key hostId workerId now).1 = true :=
        BackendResult.flag.inj (Except.ok.inj returned)
      have waiting := (backend.claim_fst key hostId workerId now).mp granted
      refine ⟨decide_eq_true waiting, decide_eq_false ?_⟩
      show (backend.claim key hostId workerId now).2.status? key ≠ _
      rw [status?_claim, if_pos ⟨rfl, granted⟩]
      decide
    · intro left
      rcases queued_after op backend key (of_decide_eq_true left) with before | queued
      · exact .inl (decide_eq_true before)
      · exact .inr queued
  honest client op := by
    refine ⟨trivial, fun reply _ => ?_⟩
    intro key won
    exact tokens.mem_update.mpr (.inl won)

end MemoryQueueBackend

namespace SQLQueueBackend

/-- The job that a statement with this reply has put into `queued`. -/
def queuedBy : (call : SqlCall) → call.Reply → Option String
  | .insert row, .ok () => if row.status = JobStatus.queued.value then some row.jobId else none
  | .updateStatus jobId status _ _, rowcount =>
      if status = JobStatus.queued.value ∧ rowcount = 1 then some jobId else none
  | _, _ => none

/-- The job that a statement with this reply has claimed. -/
def claimedBy : (call : SqlCall) → call.Reply → Option String
  | .updateClaimed jobId _ _ _, rowcount => if rowcount = 1 then some jobId else none
  | _, _ => none

/-- Rows with status `queued` as tokens. -/
def tokens : TokenRules BackendOp SqlCall SqlCall.Reply (Except PyError BackendResult) JobTable
    String where
  available table jobId := table.status? jobId = some JobStatus.queued.value
  supplies := queuedBy
  takes := claimedBy
  wins := BackendOp.claimed

section Status

variable (table : JobTable) (jobId other : String) {condition : JobRow → Bool}
  {change : JobRow → JobRow} (keeps : ∀ row, (change row).jobId = row.jobId)

/-- The status after an update that writes it. -/
theorem status?_update_of_writes {status : String} (writes : ∀ row, (change row).status = status) :
    (table.update jobId condition change keeps).2.status? other =
      if other = jobId ∧ (table.update jobId condition change keeps).1 = 1 then some status
      else table.status? other := by
  unfold JobTable.status?
  rw [JobTable.get?_update]
  split
  · next matched =>
      have found := matched.2
      rw [JobTable.update_fst] at found
      cases stored : table.rows.get? jobId with
      | none => simp [stored] at found
      | some row => simp [writes]
  · rfl

/-- The status after an update that leaves it alone. -/
theorem status?_update_of_keeps (steady : ∀ row, (change row).status = row.status) :
    (table.update jobId condition change keeps).2.status? other = table.status? other := by
  unfold JobTable.status?
  rw [JobTable.get?_update]
  split
  · next matched =>
      rw [matched.1, Option.map_map]
      congr 1
      funext row
      exact steady row
  · rfl

theorem status?_updateClaimed (claimant : String) (metadata : Dict String Value) (now : Int) :
    (JobTable.exec (.updateClaimed jobId claimant metadata now) table).2.status? other =
      if other = jobId ∧ (JobTable.exec (.updateClaimed jobId claimant metadata now) table).1 = 1
      then some JobStatus.running.value else table.status? other := by
  apply status?_update_of_writes
  · exact fun _ => rfl
  · exact fun _ => rfl

theorem status?_updateStatus (status : String) (clearClaim : Bool) (now : Int) :
    (JobTable.exec (.updateStatus jobId status clearClaim now) table).2.status? other =
      if other = jobId ∧ (JobTable.exec (.updateStatus jobId status clearClaim now) table).1 = 1
      then some status else table.status? other := by
  apply status?_update_of_writes
  · exact fun _ => rfl
  · exact fun _ => rfl

theorem status?_updateTouched (now : Int) :
    (JobTable.exec (.updateTouched jobId now) table).2.status? other = table.status? other := by
  apply status?_update_of_keeps
  · exact fun _ => rfl
  · exact fun _ => rfl

theorem status?_updateMeta (metadata : Dict String Value) (now : Int) :
    (JobTable.exec (.updateMeta jobId metadata now) table).2.status? other =
      table.status? other := by
  apply status?_update_of_keeps
  · exact fun _ => rfl
  · exact fun _ => rfl

/-- The conditional update matches a queued row only. -/
theorem queued_of_updateClaimed {claimant : String} {metadata : Dict String Value} {now : Int}
    (matched : (JobTable.exec (.updateClaimed jobId claimant metadata now) table).1 = 1) :
    table.status? jobId = some JobStatus.queued.value := by
  simp only [JobTable.exec] at matched
  rw [JobTable.update_fst] at matched
  unfold JobTable.status?
  cases stored : table.rows.get? jobId with
  | none => simp [stored] at matched
  | some row => simpa [stored] using matched

end Status

/-- A statement leaves a job queued only when it was, or when it queued it. -/
theorem queued_after (call : SqlCall) (table : JobTable) (key : String)
    (after : (JobTable.exec call table).2.status? key = some JobStatus.queued.value) :
    table.status? key = some JobStatus.queued.value ∨
      queuedBy call (JobTable.exec call table).1 = some key := by
  cases call with
  | insert row =>
      have stored : ((table.insert row).2.rows.get? key).map JobRow.status =
        some JobStatus.queued.value := after
      rw [JobTable.get?_insert] at stored
      split at stored
      · next fresh =>
          have inserted : (table.insert row).1 = .ok () := by
            unfold JobTable.insert
            rw [fresh.2]
          right
          show queuedBy (.insert row) (table.insert row).1 = some key
          rw [inserted, fresh.1]
          exact if_pos (Option.some.inj stored)
      · exact .inl stored
  | selectQueued limit jobType queueName => exact .inl after
  | selectRow jobId => exact .inl after
  | selectMeta jobId => exact .inl after
  | updateClaimed jobId claimant metadata now =>
      have moved := (status?_updateClaimed table jobId key claimant metadata now).symm.trans after
      split at moved
      · exact absurd (Option.some.inj moved) (by decide)
      · exact .inl moved
  | updateStatus jobId status clearClaim now =>
      have moved := (status?_updateStatus table jobId key status clearClaim now).symm.trans after
      split at moved
      · next matched =>
          right
          exact (if_pos ⟨Option.some.inj moved, matched.2⟩).trans (congrArg some matched.1.symm)
      · exact .inl moved
  | updateTouched jobId now =>
      exact .inl ((status?_updateTouched table jobId key now).symm.trans after)
  | updateMeta jobId metadata now =>
      exact .inl ((status?_updateMeta table jobId key metadata now).symm.trans after)

/-- The tokens of the SQL backend are taken fairly. -/
theorem tokens_fair (ι : Type) (backend : SQLQueueBackend) :
    tokens.Fair (machine ι backend) where
  balance call table key := by
    apply TokenRules.balance_of_cases
    · intro taken
      cases call with
      | updateClaimed jobId claimant metadata now =>
          have matched : (JobTable.exec (.updateClaimed jobId claimant metadata now) table).1 = 1 ∧
              jobId = key := by
            change (if _ then some jobId else none) = some key at taken
            split at taken
            · next counted => exact ⟨counted, Option.some.inj taken⟩
            · cases taken
          obtain ⟨counted, rfl⟩ := matched
          refine ⟨decide_eq_true (queued_of_updateClaimed table jobId counted), ?_⟩
          apply decide_eq_false
          intro after
          have moved := (status?_updateClaimed table jobId jobId claimant metadata now).symm.trans
            after
          rw [if_pos ⟨rfl, counted⟩] at moved
          exact absurd (Option.some.inj moved) (by decide)
      | _ => cases taken
    · intro left
      rcases queued_after call table key (of_decide_eq_true left) with before | queued
      · exact .inl (decide_eq_true before)
      · exact .inr queued
  honest client op := by
    cases op with
    | claim jobId hostId workerId now =>
        show tokens.monitor.Accepts _ [] (_ <$> claim jobId hostId workerId now)
        rw [Monitor.accepts_map]
        unfold claim SQLAlchemyJobRepository.setClaimed
        simp only [Prog.issue_bind]
        refine ⟨trivial, fun cell _ => ?_⟩
        cases cell with
        | none => exact fun _ won => by cases won
        | some cell =>
            dsimp only
            split
            · exact fun _ won => by cases won
            · refine ⟨trivial, fun rowcount _ => ?_⟩
              intro key won
              obtain ⟨⟨_, _, _, same⟩, returned⟩ := BackendOp.claimed_eq_some won
              have counted : rowcount = 1 := by
                simpa using BackendResult.flag.inj (Except.ok.inj returned)
              obtain ⟨rfl, _⟩ := BackendOp.claim.inj same
              exact tokens.mem_update.mpr (.inl (if_pos counted))
    | _ => exact tokens.accepts_of_never_wins (fun _ => rfl) _

end SQLQueueBackend

namespace RedisQueueBackend

/-- The job whose status a mapping sets to `queued`. -/
def queuedIn (jobId : String) (mapping : Dict String String) : Option String :=
  if mapping.get? "status" = some JobStatus.queued.value then some jobId else none

/-- The job that a command has put into `queued`. -/
def queuedBy : (call : RedisCall) → call.Reply → Option String
  | .hset jobId mapping, _ => queuedIn jobId mapping
  | .attemptPipeline jobId updates, _ => queuedIn jobId updates
  | _, _ => none

/-- The job that a command with this reply has claimed. -/
def claimedBy : (call : RedisCall) → call.Reply → Option String
  | .claimScript jobId _ _ _ _, .ok true => some jobId
  | _, _ => none

/-- The job that an operation with this result has claimed. -/
def Op.claimed : Op → Except PyError BackendResult → Option String
  | .call op, result => op.claimed result
  | _, _ => none

/-- Hashes with status `queued` as tokens. -/
def tokens : TokenRules Op RedisCall RedisCall.Reply (Except PyError BackendResult) RedisServer
    String where
  available server jobId := server.status? jobId = some JobStatus.queued.value
  supplies := queuedBy
  takes := claimedBy
  wins := Op.claimed

/-- An `HSET` leaves a job queued only when it was, or when it writes so. -/
theorem queued_after_hset (server : RedisServer) (jobId key : String)
    (mapping : Dict String String)
    (after : (server.hset jobId mapping).status? key = some JobStatus.queued.value) :
    server.status? key = some JobStatus.queued.value ∨ queuedIn jobId mapping = some key := by
  rw [RedisServer.status?_hset] at after
  split at after
  · next same =>
      cases named : mapping.get? "status" with
      | none =>
          rw [named, Option.none_or] at after
          rw [same]
          exact .inl after
      | some text =>
          rw [named, Option.some_or] at after
          right
          rw [queuedIn, named, if_pos after, same]
  · exact .inl after

theorem queued_after (call : RedisCall) (server : RedisServer) (key : String)
    (after : (RedisServer.exec call server).2.status? key = some JobStatus.queued.value) :
    server.status? key = some JobStatus.queued.value ∨
      queuedBy call (RedisServer.exec call server).1 = some key := by
  cases call with
  | hset jobId mapping => exact queued_after_hset server jobId key mapping after
  | attemptPipeline jobId updates =>
      have written := (server.status?_attemptPipeline jobId key updates).symm.trans after
      exact queued_after_hset server jobId key updates written
  | claimScript jobId claimant metaText nowText leaseTimeout =>
      have moved := (server.status?_claimScript jobId key claimant metaText nowText
        leaseTimeout).symm.trans after
      split at moved
      · exact absurd (Option.some.inj moved) (by decide)
      · exact .inl moved
  | heartbeatScript jobId nowText leaseTimeout =>
      exact .inl ((server.status?_heartbeatScript jobId key nowText leaseTimeout).symm.trans after)
  | _ => exact .inl after

/-- The tokens of the Redis backend are taken fairly. -/
theorem tokens_fair (ι : Type) (backend : RedisQueueBackend) :
    tokens.Fair (machine ι backend) where
  balance call server key := by
    apply TokenRules.balance_of_cases
    · intro taken
      cases call with
      | claimScript jobId claimant metaText nowText leaseTimeout =>
          have matched : (server.claimScript jobId claimant metaText nowText leaseTimeout).1 =
              .ok true ∧ jobId = key := by
            have seen : claimedBy (.claimScript jobId claimant metaText nowText leaseTimeout)
              (server.claimScript jobId claimant metaText nowText leaseTimeout).1 = some key :=
            taken
            revert seen
            rcases (server.claimScript jobId claimant metaText nowText leaseTimeout).1 with
              error | granted
            · intro seen
              cases seen
            · cases granted with
              | false =>
                  intro seen
                  cases seen
              | true =>
                  intro seen
                  exact ⟨rfl, Option.some.inj seen⟩
          obtain ⟨granted, rfl⟩ := matched
          have waiting := server.claimScript_granted jobId claimant metaText nowText leaseTimeout
            granted
          refine ⟨decide_eq_true waiting, decide_eq_false ?_⟩
          intro after
          have moved := (server.status?_claimScript jobId jobId claimant metaText nowText
            leaseTimeout).symm.trans after
          rw [if_pos ⟨rfl, waiting⟩] at moved
          exact absurd (Option.some.inj moved) (by decide)
      | _ => cases taken
    · intro left
      rcases queued_after call server key (of_decide_eq_true left) with before | queued
      · exact .inl (decide_eq_true before)
      · exact .inr queued
  honest client op := by
    cases op with
    | reap scanned now => exact tokens.accepts_of_never_wins (fun _ => rfl) _
    | lapse jobId => exact tokens.accepts_of_never_wins (fun _ => rfl) _
    | call op =>
        cases op with
        | claim jobId hostId workerId now =>
            show tokens.monitor.Accepts _ [] (_ <$> backend.claim jobId hostId workerId now)
            rw [Monitor.accepts_map]
            unfold claim
            simp only [Prog.issue_bind]
            refine ⟨trivial, fun raw _ => ?_⟩
            dsimp only
            split
            · exact fun _ won => by cases won
            · refine ⟨trivial, fun reply _ => ?_⟩
              cases reply with
              | error error => exact fun _ won => by cases won
              | ok granted =>
                  intro key won
                  obtain ⟨⟨_, _, _, same⟩, returned⟩ := BackendOp.claimed_eq_some won
                  obtain rfl : granted = true := BackendResult.flag.inj (Except.ok.inj returned)
                  obtain ⟨rfl, _⟩ := BackendOp.claim.inj same
                  exact tokens.mem_update.mpr (.inl rfl)
        | _ => exact tokens.accepts_of_never_wins (fun _ => rfl) _

end RedisQueueBackend

/-- **No double claim.** Any number of clients call one backend; their calls
interleave at the granularity of the lock, of SQL statements and of Redis
commands. On each of the three backends, started empty, the claims of a job that
have returned `True` are at most the steps that have put the job into `queued`. -/
theorem no_double_claim (ι : Type) [DecidableEq ι] :
    (∀ (schedule : List (Action ι BackendOp)) (jobId : String),
      MemoryQueueBackend.tokens.wonCount ((MemoryQueueBackend.machine ι).runFrom
          (.initial .empty) schedule).history jobId ≤
        MemoryQueueBackend.tokens.suppliedCount ((MemoryQueueBackend.machine ι).runFrom
          (.initial .empty) schedule).history jobId) ∧
    (∀ (backend : SQLQueueBackend) (schedule : List (Action ι BackendOp)) (jobId : String),
      SQLQueueBackend.tokens.wonCount ((SQLQueueBackend.machine ι backend).runFrom
          (.initial .empty) schedule).history jobId ≤
        SQLQueueBackend.tokens.suppliedCount ((SQLQueueBackend.machine ι backend).runFrom
          (.initial .empty) schedule).history jobId) ∧
    (∀ (backend : RedisQueueBackend) (schedule : List (Action ι RedisQueueBackend.Op))
        (jobId : String),
      RedisQueueBackend.tokens.wonCount ((RedisQueueBackend.machine ι backend).runFrom
          (.initial .empty) schedule).history jobId ≤
        RedisQueueBackend.tokens.suppliedCount ((RedisQueueBackend.machine ι backend).runFrom
          (.initial .empty) schedule).history jobId) := by
  refine ⟨?_, ?_, ?_⟩
  · intro schedule jobId
    exact (MemoryQueueBackend.tokens_fair ι).wonCount_le .empty (fun _ => rfl) schedule jobId
  · intro backend schedule jobId
    exact (SQLQueueBackend.tokens_fair ι backend).wonCount_le .empty (fun _ => rfl) schedule jobId
  · intro backend schedule jobId
    exact (RedisQueueBackend.tokens_fair ι backend).wonCount_le .empty (fun _ => rfl) schedule
      jobId

end CloudDogJobs
