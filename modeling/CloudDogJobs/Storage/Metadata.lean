import Mathlib.Data.List.Induction
import CloudDogJobs.Storage.Repository

/-!
# Concurrent changes of the metadata

The repository keeps attempts, progress, result, last error and claimant of a job
in one JSON column. Four methods change it, and each of them reads the whole
column with a `SELECT` and writes it back whole with an `UPDATE`. The statements
of several clients interleave freely, so an `UPDATE` puts back whatever its
`SELECT` has seen, and takes away what other clients have written since.
-/

namespace CloudDogJobs

open Foundation

/-- A call that changes the metadata of the job. -/
inductive MetaOp
  | recordAttempt (error : Option String) (now : Int)
  | updateProgress (progress : Dict String Value) (now : Int)
  | storeResult (result : Value) (now : Int)
  | setClaimed (hostId workerId : String) (now : Int)

namespace MetaOp

/-- The program of a call on one job. -/
def code (repo : SQLAlchemyJobRepository) (jobId : String) :
    MetaOp → SqlProg (Except PyError Bool)
  | .recordAttempt error now => repo.recordAttempt jobId error now
  | .updateProgress progress now => repo.updateProgress jobId progress now
  | .storeResult result now => repo.storeResult jobId result now
  | .setClaimed hostId workerId now =>
      SQLAlchemyJobRepository.setClaimed jobId hostId workerId now

def isAttempt : MetaOp → Bool
  | .recordAttempt _ _ => true
  | _ => false

/-- What a call writes under a key, apart from the count of attempts: the last
error, the progress, the result, or the two parts of the claimant. -/
def assigned : MetaOp → String → Option Value
  | .recordAttempt error _, key => if key = "last_error" then error.map .str else none
  | .updateProgress progress _, key => if key = "progress" then some (.ofDict progress) else none
  | .storeResult result _, key => if key = "result" then some result else none
  | .setClaimed hostId workerId _, key =>
      if key = "worker_id" then some (.str workerId)
      else if key = "host_id" then some (.str hostId) else none

end MetaOp

/-- The count of attempts in metadata; none counts as zero. -/
def attemptsOf (metadata : Dict String Value) : Int :=
  match metadata.get? "attempts" with
  | some (.int attempts) => attempts
  | _ => 0

/-- The metadata of a job, as the repository reads them; none where it reads
none. -/
def JobTable.metaOf (repo : SQLAlchemyJobRepository) (table : JobTable) (jobId : String) :
    Dict String Value :=
  match (table.rows.get? jobId).map JobRow.metadata with
  | none => ∅
  | some cell => (repo.storedMeta cell).toOption.getD ∅

section Updates

variable (table : JobTable) (repo : SQLAlchemyJobRepository) {jobId : String}
  {condition : JobRow → Bool} {change : JobRow → JobRow}
  {keeps : ∀ row, (change row).jobId = row.jobId}

theorem JobTable.metaOf_update_of_unmatched
    (unmatched : ((table.update jobId condition change keeps).1 == 1) = false) :
    (table.update jobId condition change keeps).2.metaOf repo jobId = table.metaOf repo jobId := by
  unfold metaOf
  rw [get?_update, if_neg]
  rintro ⟨_, matched⟩
  rw [matched] at unmatched
  cases unmatched

theorem JobTable.metaOf_update_of_matched {metadata : Dict String Value}
    (rewrites : ∀ row, (change row).metadata = .object metadata)
    (matched : ((table.update jobId condition change keeps).1 == 1) = true) :
    (table.update jobId condition change keeps).2.metaOf repo jobId = metadata := by
  have one := eq_of_beq matched
  unfold metaOf
  rw [get?_update, if_pos ⟨rfl, one⟩]
  cases stored : table.rows.get? jobId with
  | none =>
      rw [JobTable.update_fst, stored] at one
      cases one
  | some row =>
      simp only [Option.map_some, rewrites]
      rfl

end Updates

/-- What a call does to metadata that nobody else changes. -/
structure MetaOp.Amends (op : MetaOp) (before after : Dict String Value) : Prop where
  attempts : attemptsOf after = attemptsOf before + op.isAttempt.toNat
  others : ∀ key, key ≠ "attempts" → after.get? key = (op.assigned key).or (before.get? key)

namespace MetaOp

theorem attemptsOf_set (metadata : Dict String Value) {key : String} (value : Value)
    (other : key ≠ "attempts") : attemptsOf (metadata.set key value) = attemptsOf metadata := by
  unfold attemptsOf
  rw [Dict.get?_set_of_ne _ _ (Ne.symm other)]

/-- One more attempt, without an error and with one. -/
theorem amends_counted (before : Dict String Value) (error : Option String) (now : Int) :
    (recordAttempt error now).Amends before
      (match error with
        | none => before.set "attempts" (.int (attemptsOf before + 1))
        | some message => (before.set "attempts" (.int (attemptsOf before + 1))).set
            "last_error" (.str message)) := by
  have grown : attemptsOf (before.set "attempts" (.int (attemptsOf before + 1))) =
      attemptsOf before + 1 := by
    rw [attemptsOf, Dict.get?_set_self]
  cases error with
  | none =>
      refine ⟨grown, fun key other => ?_⟩
      rw [Dict.get?_set_of_ne _ _ other]
      simp [assigned]
  | some message =>
      constructor
      · rw [attemptsOf_set _ _ (by decide)]
        exact grown
      · intro key other
        rw [Dict.get?_set, Dict.get?_set_of_ne _ _ other]
        simp only [assigned]
        split <;> simp

theorem amends_recordAttempt {before after : Dict String Value} {error : Option String} (now : Int)
    (counted : SQLAlchemyJobRepository.countAttempt error before = .ok after) :
    (recordAttempt error now).Amends before after := by
  have amends := amends_counted before error now
  unfold SQLAlchemyJobRepository.countAttempt at counted
  dsimp only at counted
  split at counted
  · next absent =>
      have count : attemptsOf before = 0 := by simp [attemptsOf, absent]
      rw [count] at amends
      cases error <;> cases counted <;> exact amends
  · next attempts present =>
      have count : attemptsOf before = attempts := by simp [attemptsOf, present]
      rw [count] at amends
      cases error <;> cases counted <;> exact amends
  · cases counted

theorem amends_updateProgress (before progress : Dict String Value) (now : Int) :
    (updateProgress progress now).Amends before (before.set "progress" (.ofDict progress)) where
  attempts := by simp [attemptsOf_set, isAttempt]
  others key _ := by
    rw [Dict.get?_set]
    simp only [assigned]
    split <;> simp

theorem amends_storeResult (before : Dict String Value) (result : Value) (now : Int) :
    (storeResult result now).Amends before (before.set "result" result) where
  attempts := by simp [attemptsOf_set, isAttempt]
  others key _ := by
    rw [Dict.get?_set]
    simp only [assigned]
    split <;> simp

theorem amends_setClaimed (before : Dict String Value) (hostId workerId : String) (now : Int) :
    (setClaimed hostId workerId now).Amends before
      ((before.set "host_id" (.str hostId)).set "worker_id" (.str workerId)) where
  attempts := by simp [attemptsOf_set, isAttempt]
  others key _ := by
    rw [Dict.get?_set, Dict.get?_set]
    simp only [assigned]
    split
    · rfl
    · split <;> simp

end MetaOp

/-! ## The programs -/

/-- Where a call stands: nothing read, the column read, or the update done, with or
without a row. -/
inductive Access
  | opened
  | read (cell : JsonCell)
  | wrote (matched : Bool)

section Protocol

variable (repo : SQLAlchemyJobRepository) (jobId : String)

/-- The call may write these metadata, having read the cell. -/
def MetaOp.Revises (op : MetaOp) (cell : JsonCell) (metadata : Dict String Value) : Prop :=
  ∃ before, repo.storedMeta cell = .ok before ∧ op.Amends before metadata

/-- The statement has written the metadata of a row. -/
def SqlCall.wrote : (command : SqlCall) → command.Reply → Bool
  | .updateMeta _ _ _, rowcount => rowcount == 1
  | .updateClaimed _ _ _ _, rowcount => rowcount == 1
  | _, _ => false

/-- Follows a call through its `SELECT` and its `UPDATE`. -/
def accessMonitor : Monitor SqlCall SqlCall.Reply (MetaOp × Access) where
  update
    | (op, access), .selectMeta _, found =>
        match found with
        | none => (op, access)
        | some cell => (op, .read cell)
    | (op, _), .updateMeta _ _ _, rowcount => (op, .wrote (rowcount == 1))
    | (op, _), .updateClaimed _ _ _ _, rowcount => (op, .wrote (rowcount == 1))
    | summary, _, _ => summary
  allowed
    | (_, .opened), .selectMeta other => other = jobId
    | (op, .read cell), .updateMeta other metadata _ =>
        other = jobId ∧ op.Revises repo cell metadata
    | (op, .read cell), .updateClaimed other _ metadata _ =>
        other = jobId ∧ op.Revises repo cell metadata
    | _, _ => False
  possible _ _ := True

/-- A call returns true exactly when it has written. -/
def answers (summary : MetaOp × Access) (value : Except PyError Bool) : Prop :=
  value = .ok true ↔ summary.2 = .wrote true

variable {repo} {jobId}

theorem answers_of_wrote (op : MetaOp) (matched : Bool) :
    answers (op, .wrote matched) (.ok matched) := by
  unfold answers
  cases matched <;> simp

theorem answers_of_not_wrote {op : MetaOp} {access : Access} {value : Except PyError Bool}
    (refused : value ≠ .ok true) (unwritten : access ≠ .wrote true) :
    answers (op, access) value :=
  iff_of_false refused unwritten

/-- `json.loads` does not read an empty text, so both readings of a column agree. -/
theorem storedMeta_of_claimMeta (blank : ∃ error, repo.loads "" = .error error) {cell : JsonCell}
    {metadata : Dict String Value}
    (read : SQLAlchemyJobRepository.claimMeta cell = .ok metadata) :
    repo.storedMeta cell = .ok metadata := by
  obtain ⟨error, unread⟩ := blank
  cases cell with
  | object dict => exact read
  | text text =>
      unfold SQLAlchemyJobRepository.claimMeta at read
      split at read
      · next stored => cases stored
      · next text same =>
          cases same
          split at read
          · next empty =>
              rw [empty, SQLAlchemyJobRepository.storedMeta, unread]
              exact read
          · cases read

theorem accepts_amendMeta {op : MetaOp}
    {change : Dict String Value → Except PyError (Dict String Value)} {now : Int}
    (amends : ∀ before after, change before = .ok after → op.Amends before after) :
    (accessMonitor repo jobId).Accepts answers (op, .opened)
      (repo.amendMeta jobId change now) := by
  unfold SQLAlchemyJobRepository.amendMeta
  refine ⟨rfl, fun found _ => ?_⟩
  cases found with
  | none => exact answers_of_not_wrote nofun nofun
  | some cell =>
      dsimp only [Prog.bind]
      split
      · exact answers_of_not_wrote nofun nofun
      · next metadata revised =>
          obtain ⟨before, stored, changed⟩ := exists_of_bind_ok revised
          refine ⟨⟨rfl, before, stored, amends before metadata changed⟩, fun rowcount _ => ?_⟩
          exact answers_of_wrote _ _

theorem accepts_setClaimed {hostId workerId : String} {now : Int}
    (blank : ∃ error, repo.loads "" = .error error) :
    (accessMonitor repo jobId).Accepts answers (.setClaimed hostId workerId now, .opened)
      (SQLAlchemyJobRepository.setClaimed jobId hostId workerId now) := by
  unfold SQLAlchemyJobRepository.setClaimed
  refine ⟨rfl, fun found _ => ?_⟩
  cases found with
  | none => exact answers_of_not_wrote nofun nofun
  | some cell =>
      dsimp only [Prog.bind]
      split
      · exact answers_of_not_wrote nofun nofun
      · next before read =>
          refine ⟨⟨rfl, before, storedMeta_of_claimMeta blank read, ?_⟩, fun rowcount _ => ?_⟩
          · exact MetaOp.amends_setClaimed before hostId workerId now
          · exact answers_of_wrote _ _

theorem MetaOp.accepts_code (blank : ∃ error, repo.loads "" = .error error) (op : MetaOp) :
    (accessMonitor repo jobId).Accepts answers (op, .opened) (op.code repo jobId) := by
  cases op with
  | recordAttempt error now =>
      exact accepts_amendMeta fun before after counted => MetaOp.amends_recordAttempt now counted
  | updateProgress progress now =>
      apply accepts_amendMeta
      rintro before after ⟨⟩
      exact MetaOp.amends_updateProgress before progress now
  | storeResult result now =>
      apply accepts_amendMeta
      rintro before after ⟨⟩
      exact MetaOp.amends_storeResult before result now
  | setClaimed hostId workerId now => exact accepts_setClaimed blank

end Protocol

/-! ## Interleavings -/

variable {ι : Type}

abbrev MetaEvent (ι : Type) : Type := Event ι MetaOp SqlCall SqlCall.Reply (Except PyError Bool)

abbrev MetaConfig (ι : Type) : Type :=
  Config ι MetaOp SqlCall SqlCall.Reply (Except PyError Bool) JobTable

/-- Clients that change the metadata of one job, their statements interleaved. -/
def metaMachine (ι : Type) (repo : SQLAlchemyJobRepository) (jobId : String) :
    Machine ι MetaOp SqlCall SqlCall.Reply (Except PyError Bool) JobTable where
  exec := JobTable.exec
  code _ := MetaOp.code repo jobId

/-- What a history tells: the call that each client made last, and the calls that
have written, in the order of their updates. -/
structure Chronicle (ι : Type) where
  current : ι → Option MetaOp := fun _ => none
  writes : List (ι × MetaOp) := []

section Histories

variable [DecidableEq ι]

def Chronicle.record (chronicle : Chronicle ι) : MetaEvent ι → Chronicle ι
  | .called client op =>
      { chronicle with current := Function.update chronicle.current client (some op) }
  | .acted client command reply =>
      if command.wrote reply then
        { chronicle with
          writes := chronicle.writes ++ (chronicle.current client).toList.map (client, ·) }
      else chronicle
  | .returned _ _ _ => chronicle

def chronicle (history : List (MetaEvent ι)) : Chronicle ι := history.foldl Chronicle.record {}

theorem chronicle_snoc (history : List (MetaEvent ι)) (event : MetaEvent ι) :
    chronicle (history ++ [event]) = (chronicle history).record event := by
  simp [chronicle]

/-- The clients that have counted an attempt, one entry for each update. -/
def writers (writes : List (ι × MetaOp)) : List ι :=
  writes.filterMap fun write => if write.2.isAttempt then some write.1 else none

omit [DecidableEq ι] in
theorem writers_snoc (writes : List (ι × MetaOp)) (client : ι) (op : MetaOp) :
    writers (writes ++ [(client, op)]) =
      writers writes ++ if op.isAttempt then [client] else [] := by
  unfold writers
  rw [List.filterMap_append]
  cases attempt : op.isAttempt <;> simp [attempt]

/-- The client of a `record_attempt` that has returned true. -/
def MetaEvent.counted : MetaEvent ι → Option ι
  | .returned client op (.ok true) => if op.isAttempt then some client else none
  | _ => none

/-- The clients of the calls of `record_attempt` that have returned true. -/
def successes (history : List (MetaEvent ι)) : List ι := history.filterMap MetaEvent.counted

/-- The last value written under a key. -/
def lastAssigned (key : String) (writes : List (ι × MetaOp)) : Option Value :=
  (writes.filterMap fun write => write.2.assigned key).getLast?

omit [DecidableEq ι] in
theorem lastAssigned_snoc (key : String) (writes : List (ι × MetaOp)) (client : ι) (op : MetaOp) :
    lastAssigned key (writes ++ [(client, op)]) =
      (op.assigned key).or (lastAssigned key writes) := by
  unfold lastAssigned
  rw [List.filterMap_append, List.getLast?_append]
  cases written : op.assigned key <;> simp [written]

omit [DecidableEq ι] in
/-- The count of attempts is not written as a value. -/
theorem lastAssigned_attempts (writes : List (ι × MetaOp)) :
    lastAssigned "attempts" writes = none := by
  have none : ∀ op : MetaOp, op.assigned "attempts" = none := by
    intro op
    cases op <;> simp [MetaOp.assigned]
  simp [lastAssigned, none]

/-- The count of attempts has grown by the number of `record_attempt` calls that
returned true, and the last error, progress, result and claimant that were
written last are there. -/
structure NoLostUpdate (repo : SQLAlchemyJobRepository) (jobId : String) (start table : JobTable)
    (history : List (MetaEvent ι)) : Prop where
  attempts : attemptsOf (table.metaOf repo jobId) =
    attemptsOf (start.metaOf repo jobId) + (successes history).length
  present : ∀ key value, lastAssigned key (chronicle history).writes = some value →
    (table.metaOf repo jobId).get? key = some value

/-- The cell that a statement has read. -/
def cellOf : Sigma SqlCall.Reply → Option JsonCell
  | ⟨.selectMeta _, found⟩ => found
  | _ => none

/-- When a call writes, the metadata that it has read are still in the table. -/
def Undisturbed (jobId : String) (config : MetaConfig ι) : Action ι MetaOp → Prop
  | .act client => ∀ op command resume log,
      config.client client = .busy op (.act command resume) log →
      command.wrote (JobTable.exec command config.shared).1 = true →
      ∀ entry ∈ log, ∀ cell, cellOf entry = some cell →
        (config.shared.rows.get? jobId).map JobRow.metadata = some cell
  | _ => True

/-! ## The invariant -/

omit [DecidableEq ι] in
/-- The call has read the cell that the monitor shows. -/
theorem summarize_access (repo : SQLAlchemyJobRepository) (jobId : String) (op : MetaOp)
    (log : List (Sigma SqlCall.Reply)) :
    ((accessMonitor repo jobId).summarize (op, .opened) log).1 = op ∧
      ∀ cell, ((accessMonitor repo jobId).summarize (op, .opened) log).2 = .read cell →
        ∃ entry ∈ log, cellOf entry = some cell := by
  induction log using List.reverseRecOn with
  | nil => exact ⟨rfl, nofun⟩
  | append_singleton log entry ih =>
      obtain ⟨command, reply⟩ := entry
      rw [Monitor.summarize_snoc]
      generalize (accessMonitor repo jobId).summarize (op, .opened) log = summary at ih
      have earlier : ∀ cell, summary.2 = .read cell →
          ∃ entry ∈ log ++ [(⟨command, reply⟩ : Sigma SqlCall.Reply)],
            cellOf entry = some cell := by
        intro cell shown
        obtain ⟨entry, member, read⟩ := ih.2 cell shown
        exact ⟨entry, List.mem_append_left _ member, read⟩
      obtain ⟨running, access⟩ := summary
      cases command with
      | selectMeta other =>
          cases found : reply with
          | none =>
              rw [found] at earlier
              exact ⟨ih.1, earlier⟩
          | some cell =>
              refine ⟨ih.1, ?_⟩
              rintro _ ⟨⟩
              exact ⟨_, List.mem_append_right _ List.mem_cons_self, rfl⟩
      | updateMeta other metadata now => exact ⟨ih.1, nofun⟩
      | updateClaimed other claimedBy metadata now => exact ⟨ih.1, nofun⟩
      | _ => exact ⟨ih.1, earlier⟩

/-- An attempt that is written but not yet returned. -/
def pending : Option (MetaOp × MetaOp × Access) → Nat
  | some (op, _, .wrote true) => op.isAttempt.toNat
  | _ => 0

/-- What every undisturbed interleaving maintains. -/
structure Tracked (repo : SQLAlchemyJobRepository) (jobId : String) (start table : JobTable)
    (stages : ι → Option (MetaOp × MetaOp × Access)) (history : List (MetaEvent ι)) : Prop where
  current : ∀ client op summary, stages client = some (op, summary) →
    (chronicle history).current client = some op
  attempts : attemptsOf (table.metaOf repo jobId) =
    attemptsOf (start.metaOf repo jobId) + (writers (chronicle history).writes).length
  present : ∀ key value, lastAssigned key (chronicle history).writes = some value →
    (table.metaOf repo jobId).get? key = some value
  answered : ∀ client, (writers (chronicle history).writes).count client =
    (successes history).count client + pending (stages client)

omit [DecidableEq ι] in
theorem pending_of_ne {op : MetaOp} {summary : MetaOp × Access}
    (unwritten : summary.2 ≠ .wrote true) :
    pending (some (op, summary)) = 0 := by
  unfold pending
  split
  · next same =>
      cases same
      exact absurd rfl unwritten
  · rfl

omit [DecidableEq ι] in
/-- A call that returns true is counted, another one is not. -/
theorem counted_of_answers (client : ι) (op : MetaOp) {summary : MetaOp × Access}
    {value : Except PyError Bool} (answered : answers summary value) :
    (MetaEvent.counted (.returned client op value : MetaEvent ι)).toList =
      List.replicate (pending (some (op, summary))) client := by
  by_cases granted : value = .ok true
  · obtain ⟨running, access⟩ := summary
    obtain rfl : access = .wrote true := answered.mp granted
    rw [granted]
    show (if op.isAttempt then some client else none).toList =
      List.replicate op.isAttempt.toNat client
    cases op.isAttempt <;> rfl
  · rw [pending_of_ne fun wrote => granted (answered.mpr wrote)]
    unfold MetaEvent.counted
    split
    · next same =>
        cases same
        exact absurd rfl granted
    · rfl

omit [DecidableEq ι] in
theorem successes_snoc (history : List (MetaEvent ι)) (event : MetaEvent ι) :
    successes (history ++ [event]) = successes history ++ (MetaEvent.counted event).toList := by
  unfold successes
  rw [List.filterMap_append]
  cases counted : MetaEvent.counted event <;> simp [counted]

omit [DecidableEq ι] in
theorem successes_of_uncounted (history : List (MetaEvent ι)) {event : MetaEvent ι}
    (uncounted : MetaEvent.counted event = none) :
    successes (history ++ [event]) = successes history := by
  rw [successes_snoc, uncounted, Option.toList_none, List.append_nil]

namespace Tracked

variable {repo : SQLAlchemyJobRepository} {jobId : String} {start table after : JobTable}
  {stages : ι → Option (MetaOp × MetaOp × Access)} {history : List (MetaEvent ι)}
  (tracked : Tracked repo jobId start table stages history) {client : ι} {op : MetaOp}
  {summary : MetaOp × Access}

include tracked

theorem call (idle : stages client = none) (op : MetaOp) (summary : MetaOp × Access)
    (opened : summary.2 = .opened) :
    Tracked repo jobId start table (Function.update stages client (some (op, summary)))
      (history ++ [Event.called client op]) where
  current := by
    intro other running access shown
    rw [chronicle_snoc]
    rcases update_some_cases shown with ⟨rfl, same⟩ | ⟨different, shown⟩
    · obtain ⟨rfl, _⟩ := Prod.mk.inj same
      exact Function.update_self ..
    · exact (Function.update_of_ne different ..).trans (tracked.current other running access shown)
  attempts := by
    rw [chronicle_snoc]
    exact tracked.attempts
  present := by
    rw [chronicle_snoc]
    exact tracked.present
  answered := by
    intro other
    rw [chronicle_snoc, successes_of_uncounted history rfl]
    refine (tracked.answered other).trans ?_
    by_cases same : other = client
    · subst same
      rw [Function.update_self, idle]
      obtain ⟨running, access⟩ := summary
      cases opened
      rfl
    · rw [Function.update_of_ne same]

/-- A statement that writes no metadata. -/
theorem quiet {command : SqlCall} {reply : command.Reply} {next : MetaOp × Access}
    (found : stages client = some (op, summary)) (unwritten : command.wrote reply = false)
    (same : after.metaOf repo jobId = table.metaOf repo jobId)
    (settled : pending (some (op, next)) = pending (some (op, summary))) :
    Tracked repo jobId start after (Function.update stages client (some (op, next)))
      (history ++ [Event.acted client command reply]) := by
  have unchanged : chronicle (history ++ [Event.acted client command reply]) =
      chronicle history := by
    rw [chronicle_snoc]
    exact if_neg (by simp [unwritten])
  constructor
  · intro other running access shown
    rw [unchanged]
    rcases update_some_cases shown with ⟨rfl, equal⟩ | ⟨_, shown⟩
    · obtain ⟨rfl, _⟩ := Prod.mk.inj equal
      exact tracked.current other running summary found
    · exact tracked.current other running access shown
  · rw [unchanged, same]
    exact tracked.attempts
  · rw [unchanged, same]
    exact tracked.present
  · intro other
    rw [unchanged, successes_of_uncounted history rfl, tracked.answered other]
    by_cases equal : other = client
    · subst equal
      rw [Function.update_self, found, settled]
    · rw [Function.update_of_ne equal]

/-- A statement that writes what its call makes of the present metadata. -/
theorem write {command : SqlCall} {reply : command.Reply} {next : MetaOp × Access}
    (found : stages client = some (op, summary)) (written : command.wrote reply = true)
    (amends : op.Amends (table.metaOf repo jobId) (after.metaOf repo jobId))
    (waiting : pending (some (op, summary)) = 0) (ended : next.2 = .wrote true) :
    Tracked repo jobId start after (Function.update stages client (some (op, next)))
      (history ++ [Event.acted client command reply]) := by
  have running := tracked.current client op summary found
  have extended : (chronicle (history ++ [Event.acted client command reply])) =
      { chronicle history with writes := (chronicle history).writes ++ [(client, op)] } := by
    rw [chronicle_snoc]
    refine (if_pos written).trans ?_
    rw [running]
    rfl
  rw [show next = (next.1, next.2) from rfl, ended]
  constructor
  · intro other busy access shown
    rw [extended]
    rcases update_some_cases shown with ⟨rfl, equal⟩ | ⟨_, shown⟩
    · obtain ⟨rfl, _⟩ := Prod.mk.inj equal
      exact running
    · exact tracked.current other busy access shown
  · have before := tracked.attempts
    rw [extended, amends.attempts, before, writers_snoc, List.length_append]
    cases op.isAttempt
    · simp
    · simp
      omega
  · intro key value shown
    have ordinary : key ≠ "attempts" := by
      rintro rfl
      rw [lastAssigned_attempts] at shown
      cases shown
    rw [extended, lastAssigned_snoc] at shown
    rw [amends.others key ordinary]
    cases assigned : op.assigned key with
    | some fresh =>
        rw [assigned] at shown
        exact shown
    | none =>
        rw [assigned, Option.none_or] at shown
        exact tracked.present key value shown
  · intro other
    rw [extended, successes_of_uncounted history rfl, writers_snoc, List.count_append,
      tracked.answered other]
    by_cases equal : other = client
    · subst equal
      rw [Function.update_self, found, waiting]
      show _ = _ + op.isAttempt.toNat
      cases op.isAttempt <;> simp
    · have different : client ≠ other := Ne.symm equal
      rw [Function.update_of_ne equal]
      cases op.isAttempt <;> simp [different]

/-- An update of the job, by a call that has read the cell. -/
theorem update {command : SqlCall} {reply : command.Reply} {running : MetaOp} {cell : JsonCell}
    {condition : JobRow → Bool} {change : JobRow → JobRow} {metadata : Dict String Value}
    (keeps : ∀ row, (change row).jobId = row.jobId)
    (found : stages client = some (op, running, .read cell))
    (rewrites : ∀ row, (change row).metadata = .object metadata)
    (counts : command.wrote reply = ((table.update jobId condition change keeps).1 == 1))
    (revises : op.Revises repo cell metadata)
    (undisturbed : command.wrote reply = true →
      (table.rows.get? jobId).map JobRow.metadata = some cell) :
    Tracked repo jobId start (table.update jobId condition change keeps).2
      (Function.update stages client (some (op, running,
        .wrote ((table.update jobId condition change keeps).1 == 1))))
      (history ++ [Event.acted client command reply]) := by
  cases matched : (table.update jobId condition change keeps).1 == 1 with
  | false =>
      rw [matched] at counts
      exact tracked.quiet found counts (table.metaOf_update_of_unmatched repo matched) rfl
  | true =>
      rw [matched] at counts
      obtain ⟨before, stored, amends⟩ := revises
      have present : table.metaOf repo jobId = before := by
        unfold JobTable.metaOf
        rw [undisturbed counts]
        simp only [stored]
        rfl
      refine tracked.write found counts ?_ rfl rfl
      rw [present, table.metaOf_update_of_matched repo rewrites matched]
      exact amends

theorem ret {value : Except PyError Bool} (found : stages client = some (op, summary))
    (answered : answers summary value) :
    Tracked repo jobId start table (Function.update stages client none)
      (history ++ [Event.returned client op value]) := by
  have unchanged : chronicle (history ++ [Event.returned client op value]) = chronicle history := by
    rw [chronicle_snoc]
    rfl
  constructor
  · intro other running access shown
    rw [unchanged]
    exact tracked.current other running access (update_none_cases shown).2
  · rw [unchanged]
    exact tracked.attempts
  · rw [unchanged]
    exact tracked.present
  · intro other
    rw [unchanged, successes_snoc, tracked.answered other, List.count_append,
      counted_of_answers client op answered]
    by_cases equal : other = client
    · subst equal
      rw [Function.update_self, found, List.count_replicate_self]
      rfl
    · rw [Function.update_of_ne equal, List.count_replicate, if_neg (by simpa using Ne.symm equal)]
      rfl

end Tracked

theorem tracked_invariant {repo : SQLAlchemyJobRepository}
    (blank : ∃ error, repo.loads "" = .error error) (jobId : String) (start : JobTable) :
    (metaMachine ι repo jobId).Invariant (accessMonitor repo jobId) (fun _ op => (op, .opened))
      (fun _ _ => answers) (Undisturbed jobId) (Tracked repo jobId start) where
  accepts config client op _ := MetaOp.accepts_code blank op
  replies config client op command resume log _ _ _ := trivial
  call config client op _ idle tracked :=
    tracked.call (Config.summary_of_idle idle _ _) op _ rfl
  ret config client op value log _ busy answered tracked :=
    tracked.ret (Config.summary_of_busy busy _ _) answered
  act config client op command resume log undisturbed busy allowed tracked := by
    have found := Config.summary_of_busy busy (accessMonitor repo jobId)
      fun _ op => (op, Access.opened)
    obtain ⟨same, cells⟩ := summarize_access repo jobId op log
    generalize (accessMonitor repo jobId).summarize (op, .opened) log = summary
      at found allowed same cells ⊢
    obtain ⟨running, access⟩ := summary
    obtain rfl : running = op := same
    have current : ∀ cell, access = .read cell →
        command.wrote (JobTable.exec command config.shared).1 = true →
          (config.shared.rows.get? jobId).map JobRow.metadata = some cell := by
      intro cell shown wrote
      obtain ⟨entry, member, read⟩ := cells cell shown
      exact undisturbed running command resume log busy wrote entry member cell read
    -- The monitor lets a call read first and write next, and nothing else.
    cases access with
    | opened =>
        cases command with
        | selectMeta other =>
            refine tracked.quiet found rfl rfl ?_
            generalize ((metaMachine ι repo jobId).exec (.selectMeta other) config.shared).1 = reply
            cases reply <;> rfl
        | _ => cases allowed
    | read cell =>
        cases command with
        | updateMeta other metadata now =>
            obtain ⟨rfl, revises⟩ := allowed
            refine tracked.update ?_ found ?_ rfl revises (current cell rfl)
            all_goals exact fun _ => rfl
        | updateClaimed other claimedBy metadata now =>
            obtain ⟨rfl, revises⟩ := allowed
            refine tracked.update ?_ found ?_ rfl revises (current cell rfl)
            all_goals exact fun _ => rfl
        | _ => cases allowed
    | wrote matched => cases command <;> cases allowed

theorem tracked_initial (repo : SQLAlchemyJobRepository) (jobId : String) (start : JobTable) :
    Tracked repo jobId start start (fun _ : ι => none) [] where
  current client op summary shown := by cases shown
  attempts := (Int.add_zero _).symm
  present key value shown := by cases shown
  answered client := rfl

theorem Tracked.noLostUpdate {repo : SQLAlchemyJobRepository} {jobId : String}
    {start table : JobTable} {history : List (MetaEvent ι)}
    (tracked : Tracked repo jobId start table (fun _ => none) history) :
    NoLostUpdate repo jobId start table history where
  attempts := by
    have same : (writers (chronicle history).writes).Perm (successes history) :=
      List.perm_iff_count.mpr tracked.answered
    rw [tracked.attempts, same.length_eq]
  present := tracked.present

/-- **Undisturbed updates are not lost.** Let any number of clients change the
metadata of one job, their statements interleaved in any order in which no
update is made on metadata that have changed since the call read them. When every
call has returned, the count of attempts has grown by the number of
`record_attempt` calls that returned true, and the last error, progress, result
and claimant written last are there. -/
theorem undisturbed_updates_kept (repo : SQLAlchemyJobRepository)
    (blank : ∃ error, repo.loads "" = .error error) (jobId : String) (start : JobTable)
    (schedule : List (Action ι MetaOp))
    (undisturbed : (metaMachine ι repo jobId).Permits (Undisturbed jobId) (.initial start)
      schedule)
    (returned : ((metaMachine ι repo jobId).runFrom (.initial start) schedule).Quiet) :
    NoLostUpdate repo jobId start
      ((metaMachine ι repo jobId).runFrom (.initial start) schedule).shared
      ((metaMachine ι repo jobId).runFrom (.initial start) schedule).history := by
  have tracked := (tracked_invariant blank jobId start).run start
    (tracked_initial repo jobId start) schedule undisturbed
  have idle : ((metaMachine ι repo jobId).runFrom (.initial start) schedule).summary
      (accessMonitor repo jobId) (fun _ op => (op, .opened)) = fun _ => none := by
    funext client
    exact Config.summary_of_idle (returned client) _ _
  rw [idle] at tracked
  exact tracked.noLostUpdate

end Histories

section Sample

/-- A repository on a driver that decodes JSON columns itself. -/
def sampleRepo : SQLAlchemyJobRepository where
  loads _ := .error (.valueError "Expecting value: line 1 column 1 (char 0)")

/-- One queued job without attempts. -/
def sampleJobs : JobTable :=
  (JobTable.empty.insert (SQLAlchemyJobRepository.rowOf
    (.fromRequest { jobType := "task" } "job" 0))).2

/-- One client records a failed attempt, then another one the progress. -/
def oneAtATime : List (Action Bool MetaOp) :=
  [.call true (.recordAttempt (some "boom") 1), .act true, .act true, .ret true,
    .call false (.updateProgress (Dict.empty.set "percent" (.int 50)) 2), .act false, .act false,
    .ret false]

theorem one_at_a_time_kept :
    NoLostUpdate sampleRepo "job" sampleJobs
      ((metaMachine Bool sampleRepo "job").runFrom (.initial sampleJobs) oneAtATime).shared
      ((metaMachine Bool sampleRepo "job").runFrom (.initial sampleJobs) oneAtATime).history := by
  refine undisturbed_updates_kept sampleRepo ⟨_, rfl⟩ "job" sampleJobs oneAtATime ?_ ?_
  · refine ⟨trivial, ?_, ?_, trivial, trivial, ?_, ?_, trivial, trivial⟩
    · rintro _ _ _ _ ⟨⟩ wrote
      cases wrote
    · rintro _ _ _ _ ⟨⟩ _ entry member cell read
      obtain rfl := List.mem_singleton.mp member
      cases read
      rfl
    · rintro _ _ _ _ ⟨⟩ wrote
      cases wrote
    · rintro _ _ _ _ ⟨⟩ _ entry member cell read
      obtain rfl := List.mem_singleton.mp member
      cases read
      rfl
  · intro client
    cases client <;> rfl

/-- Two clients record an attempt; both read before either of them writes. -/
def bothReadFirst : List (Action Bool MetaOp) :=
  [.call true (.recordAttempt none 1), .act true, .call false (.recordAttempt none 2), .act false,
    .act true, .ret true, .act false, .ret false]

/-- Both calls return true, and the count has grown by one. -/
theorem attempt_is_lost :
    ¬ ∀ (schedule : List (Action Bool MetaOp)),
      ((metaMachine Bool sampleRepo "job").runFrom (.initial sampleJobs) schedule).Quiet →
      NoLostUpdate sampleRepo "job" sampleJobs
        ((metaMachine Bool sampleRepo "job").runFrom (.initial sampleJobs) schedule).shared
        ((metaMachine Bool sampleRepo "job").runFrom (.initial sampleJobs) schedule).history := by
  intro kept
  have quiet : ((metaMachine Bool sampleRepo "job").runFrom (.initial sampleJobs)
      bothReadFirst).Quiet := by
    intro client
    cases client <;> rfl
  exact absurd (kept bothReadFirst quiet).attempts (by decide)

end Sample

end CloudDogJobs
