import CloudDogJobs.Worker.Line

/-!
# The loop drains the queue

When the round of every job that it comes to goes through, the loop serves the
waiting jobs in dispatch order, one in each pass, and leaves every other job as it
was. A round goes through when the job has room, its tracked dependencies have
succeeded at the start or succeed in an earlier pass, and it neither raises nor
sends a dead letter into the worker's own queue.
-/

namespace CloudDogJobs

open Foundation

namespace Worker

variable (worker : Worker)

/-- The records after the round of one job. -/
def recordsLeft (records : String → Option Job) (entry : Job × Pass) : String → Option Job :=
  let left := Function.update records entry.1.jobId
    (some (worker.leftJob entry.2.inputs entry.1))
  match (worker.ending entry.2.inputs entry.1).letter with
  | none => left
  | some copy => Function.update left copy.jobId (some copy)

/-- The records after the rounds of some jobs. -/
def recordsAfter (records : String → Option Job) (served : List (Job × Pass)) :
    String → Option Job :=
  served.foldl worker.recordsLeft records

/-- The round of the entry writes under this identifier. -/
def Writes (entry : Job × Pass) (jobId : String) : Prop :=
  entry.1.jobId = jobId ∨
    ∃ copy, (worker.ending entry.2.inputs entry.1).letter = some copy ∧ copy.jobId = jobId

/-- Every round in the list goes through: the job has room and its dependencies have
succeeded when it is reached, the worker goes on after it, and its dead letter, if
there is one, is for another queue. -/
structure GoesThrough (shared : Shared MemoryQueueBackend) (served : List (Job × Pass)) :
    Prop where
  authorised : worker.authorised = true
  room : ∀ entry ∈ served, worker.checks.hasRoom shared entry.1 = true
  goesOn : ∀ entry ∈ served, ∃ processed,
    (worker.ending entry.2.inputs entry.1).result = .ok processed
  apart : ∀ entry ∈ served, ∀ copy,
    (worker.ending entry.2.inputs entry.1).letter = some copy →
      copy.matchesFilters none worker.queueName = false
  dependencies : worker.dependencyTracker = true → ∀ before entry after,
    served = before ++ entry :: after → entry.1.dependsOn ≠ [] →
      ∀ dependency ∈ shared.tracker.getDependencies entry.1.jobId,
        shared.store.status? dependency = some .succeeded ∨
          ∃ earlier ∈ before, earlier.1.jobId = dependency ∧
            (worker.ending earlier.2.inputs earlier.1).status = .succeeded

variable {worker} {records : String → Option Job} {served before : List (Job × Pass)}

theorem recordsLeft_of_not_writes {entry : Job × Pass} {jobId : String}
    (other : ¬ worker.Writes entry jobId) :
    worker.recordsLeft records entry jobId = records jobId := by
  obtain ⟨different, unsent⟩ := not_or.mp other
  have left := Function.update_of_ne (Ne.symm different)
    (some (worker.leftJob entry.2.inputs entry.1)) records
  unfold recordsLeft
  cases sent : (worker.ending entry.2.inputs entry.1).letter with
  | none => exact left
  | some copy =>
      have named : jobId ≠ copy.jobId := fun same => unsent ⟨copy, sent, same.symm⟩
      exact (Function.update_of_ne named _ _).trans left

/-- What no round writes stays. -/
theorem recordsAfter_of_not_writes {jobId : String}
    (others : ∀ entry ∈ served, ¬ worker.Writes entry jobId) :
    worker.recordsAfter records served jobId = records jobId := by
  induction served generalizing records with
  | nil => rfl
  | cons entry rest ih =>
      refine (ih fun other member => others other (List.mem_cons_of_mem _ member)).trans ?_
      exact recordsLeft_of_not_writes (others entry List.mem_cons_self)

/-- A job that only its own round writes has the record of its ending. -/
theorem recordsAfter_of_mem {entry : Job × Pass} (member : entry ∈ served)
    (own : ∀ letter, (worker.ending entry.2.inputs entry.1).letter = some letter →
      letter.jobId ≠ entry.1.jobId)
    (others : served.Pairwise fun former latter =>
      former = entry → ¬ worker.Writes latter entry.1.jobId) :
    worker.recordsAfter records served entry.1.jobId =
      some (worker.leftJob entry.2.inputs entry.1) := by
  induction served generalizing records with
  | nil => cases member
  | cons first rest ih =>
      obtain ⟨later, others⟩ := List.pairwise_cons.mp others
      rcases List.mem_cons.mp member with rfl | inside
      · refine (recordsAfter_of_not_writes fun other among => later other among rfl).trans ?_
        have left := Function.update_self entry.1.jobId
          (some (worker.leftJob entry.2.inputs entry.1)) records
        unfold recordsLeft
        cases sent : (worker.ending entry.2.inputs entry.1).letter with
        | none => exact left
        | some copy => exact (Function.update_of_ne (Ne.symm (own copy sent)) _ _).trans left
      · exact ih inside others

/-- The jobs in the list are stored as they wait, under distinct identifiers, and their
letters would be new. -/
structure Separate (worker : Worker) (store : MemoryQueueBackend) (served : List (Job × Pass)) :
    Prop where
  stored : ∀ entry ∈ served, store.get entry.1.jobId = some entry.1
  queued : ∀ entry ∈ served, entry.1.status = .queued
  fresh : ∀ entry ∈ served, ∀ copy, (worker.ending entry.2.inputs entry.1).letter = some copy →
    store.get copy.jobId = none
  distinct : (served.map fun entry => entry.1.jobId).Nodup

namespace Separate

variable {store : MemoryQueueBackend} (separate : Separate worker store served)

include separate

theorem of_append {after : List (Job × Pass)} (split : served = before ++ after) :
    Separate worker store before where
  stored entry member := separate.stored entry (split ▸ List.mem_append_left _ member)
  queued entry member := separate.queued entry (split ▸ List.mem_append_left _ member)
  fresh entry member := separate.fresh entry (split ▸ List.mem_append_left _ member)
  distinct := by
    have all := separate.distinct
    rw [split, List.map_append] at all
    exact (List.nodup_append.mp all).1

/-- The letter of one job is never another job of the list. -/
theorem letter_ne {former latter : Job × Pass} (first : former ∈ served) (second : latter ∈ served)
    {copy : Job} (sent : (worker.ending former.2.inputs former.1).letter = some copy) :
    copy.jobId ≠ latter.1.jobId := by
  intro same
  have absent := separate.fresh former first copy sent
  rw [same, separate.stored latter second] at absent
  cases absent

/-- A served job has the record of its ending. -/
theorem recordsAfter_self {entry : Job × Pass} (member : entry ∈ served) :
    worker.recordsAfter store.get served entry.1.jobId =
      some (worker.leftJob entry.2.inputs entry.1) := by
  refine recordsAfter_of_mem member (fun copy sent => separate.letter_ne member member sent) ?_
  have distinct := List.pairwise_map.mp separate.distinct
  refine distinct.imp_of_mem ?_
  intro former latter first second different same writes
  subst same
  rcases writes with equal | ⟨copy, sent, equal⟩
  · exact different equal.symm
  · exact separate.letter_ne second first sent equal

/-- A job with a status that is not queued, other than the letters, stays as it was. -/
theorem recordsAfter_of_status {jobId : String} {status : JobStatus}
    (stored : store.status? jobId = some status) (settled : status ≠ .queued) :
    worker.recordsAfter store.get served jobId = store.get jobId := by
  have present : ∃ job, store.get jobId = some job ∧ job.status = status := by
    simpa [MemoryQueueBackend.status?, MemoryQueueBackend.view, Job.ticket] using stored
  obtain ⟨job, found, status_eq⟩ := present
  apply recordsAfter_of_not_writes
  intro entry member writes
  rcases writes with same | ⟨copy, sent, same⟩
  · have waiting := separate.stored entry member
    rw [same, found] at waiting
    cases waiting
    exact settled (status_eq.symm.trans (separate.queued _ member))
  · have absent := separate.fresh entry member copy sent
    rw [same, found] at absent
    cases absent

end Separate

/-- When it is reached, a job whose round goes through is admitted. -/
theorem GoesThrough.admits {shared : Shared MemoryQueueBackend} {entry : Job × Pass}
    {after : List (Job × Pass)} {line : Line} (through : worker.GoesThrough shared served)
    (separate : Separate worker shared.store served) (split : served = before ++ entry :: after)
    (records : line.records = worker.recordsAfter shared.store.get before) :
    line.admits worker shared.tracker (worker.checks.hasRoom shared) entry.1 = true := by
  have member : entry ∈ served := split ▸ List.mem_append_right _ List.mem_cons_self
  have earlier := separate.of_append split
  unfold Line.admits
  rw [through.room entry member, Bool.and_true]
  unfold Dispatcher.dependenciesMet
  by_cases checked : worker.dependencyTracker = true ∧ entry.1.dependsOn ≠ []
  · rw [Bool.or_eq_true]
    refine .inr (List.all_eq_true.mpr ?_)
    intro dependency tracked
    refine decide_eq_true ?_
    rw [records]
    dsimp only
    rcases through.dependencies checked.1 before entry after split checked.2 dependency tracked
      with done | ⟨former, among, rfl, succeeds⟩
    · rw [earlier.recordsAfter_of_status done (by simp)]
      exact done
    · rw [earlier.recordsAfter_self among]
      exact congrArg some succeeds
  · rw [Bool.or_eq_true]
    refine .inl ?_
    have unchecked : (worker.dependencyTracker && !entry.1.dependsOn.isEmpty) = false := by
      simpa using checked
    show (!(worker.dependencyTracker && !entry.1.dependsOn.isEmpty)) = true
    rw [unchecked]
    rfl

/-- A list runs beside another as far as that one reaches. -/
theorem map_fst_zip {α β : Type} (first : List α) (second : List β) :
    (first.zip second).map Prod.fst = first.take second.length := by
  induction first generalizing second with
  | nil => simp
  | cons head rest ih =>
      cases second with
      | nil => rfl
      | cons other others => simp [ih]

/-- The jobs that the passes come to are separate. -/
theorem separate_zip {worker : Worker} {shared : Shared MemoryQueueBackend}
    {passes made : List Pass} (ready : worker.LoopReady shared passes)
    (among : ∀ pass ∈ made, pass ∈ passes) :
    Separate worker shared.store ((shared.store.queued none worker.queueName).zip made) where
  stored entry member :=
    ((shared.store.mem_queued none worker.queueName entry.1).mp (List.of_mem_zip member).1).1
  queued entry member :=
    ((shared.store.mem_queued none worker.queueName entry.1).mp (List.of_mem_zip member).1).2.1
  fresh entry member copy sent := by
    rw [(worker.ending_letter entry.2.inputs entry.1 sent).1]
    exact ready.fresh entry.2 (among _ (List.of_mem_zip member).2)
  distinct := by
    have taken : ((shared.store.queued none worker.queueName).zip made).map
        (fun entry => entry.1.jobId) =
          ((shared.store.queued none worker.queueName).map Job.jobId).take made.length := by
      rw [← List.map_take, ← map_fst_zip, List.map_map]
      rfl
    rw [taken]
    exact (shared.store.nodup_queued none worker.queueName).sublist (List.take_sublist _ _)

/-- Where the line is after the entries `before`, with the passes still to be made. -/
def OnCourse (worker : Worker) (store : MemoryQueueBackend) (served : List (Job × Pass))
    (made : List Pass) (line : Line) : Prop :=
  ∃ before, served = before ++ line.waiting.zip made ∧
    line.records = worker.recordsAfter store.get before ∧
    line.started = before.map Prod.fst ∧
    store.queued none worker.queueName = before.map Prod.fst ++ line.waiting

/-- A pass goes on, and stays on course. -/
theorem OnCourse.pass {shared : Shared MemoryQueueBackend} {pass : Pass} {rest : List Pass}
    {line : Line} (course : OnCourse worker shared.store served (pass :: rest) line)
    (through : worker.GoesThrough shared served) (separate : Separate worker shared.store served) :
    ∃ processed,
      (Line.pass worker shared.tracker (worker.checks.hasRoom shared) pass line).1 =
          .ok processed ∧
        OnCourse worker shared.store served rest
          (Line.pass worker shared.tracker (worker.checks.hasRoom shared) pass line).2 := by
  obtain ⟨before, split, records, started, waiting⟩ := course
  unfold Line.pass
  rw [if_pos through.authorised]
  cases head : line.waiting with
  | nil =>
      refine ⟨false, rfl, before, ?_, records, started, waiting⟩
      rw [split, head]
      rfl
  | cons job others =>
      rw [head, List.zip_cons_cons] at split
      have member : (job, pass) ∈ served := split ▸ List.mem_append_right _ List.mem_cons_self
      have admitted := through.admits separate split records
      obtain ⟨processed, result⟩ := through.goesOn _ member
      have known : job.jobType ∈ worker.handlers := by
        by_contra unknown
        unfold ending at result
        rw [if_neg unknown] at result
        cases result
      dsimp only at admitted result ⊢
      rw [if_pos admitted]
      have served_line : line.serve worker pass.inputs job others =
          { waiting := others
            records := worker.recordsLeft line.records (job, pass)
            started := line.started ++ [job] } := by
        unfold Line.serve recordsLeft
        rw [if_pos known]
        cases sent : (worker.ending pass.inputs job).letter with
        | none => rfl
        | some copy =>
            have apart := through.apart _ member copy sent
            dsimp only
            unfold Line.join
            rw [if_neg (Bool.not_eq_true _ ▸ apart)]
            rfl
      refine ⟨processed, result, before ++ [(job, pass)], ?_⟩
      rw [served_line]
      refine ⟨?_, ?_, ?_, ?_⟩
      · rw [split, List.append_assoc]
        rfl
      · rw [records, recordsAfter, recordsAfter, List.foldl_append]
        rfl
      · rw [started, List.map_append]
        rfl
      · rw [waiting, head, List.map_append, List.append_assoc]
        rfl

/-- **The loop drains the queue.** If the round of every waiting job that the passes
come to goes through, the loop makes its passes to the end and returns their
number. The handlers of the leading waiting jobs have started, in dispatch order
and once each; each of these jobs has the record of its ending, the jobs behind
them still wait, and no job is changed that was not served or sent as a letter. -/
theorem runForever_drains (worker : Worker) (maxLoops : Option Int) (passes : List Pass)
    (shared : Shared MemoryQueueBackend) (ready : worker.LoopReady shared passes)
    (through : worker.GoesThrough shared ((shared.store.queued none worker.queueName).zip
      (passesMade (lastPass maxLoops) 0 passes))) :
    let made := passesMade (lastPass maxLoops) 0 passes
    let waiting := shared.store.queued none worker.queueName
    let loop := worker.runForever maxLoops passes
    let run := loop.run (Shared.exec MemoryQueueBackend.contract) shared
    run.1 = (if passesEnd (lastPass maxLoops) 0 passes then some (.ok made.length) else none) ∧
      loop.marks (Shared.exec MemoryQueueBackend.contract) WorkerCall.started shared =
        waiting.take made.length ∧
      run.2.store.queued none worker.queueName = waiting.drop made.length ∧
      (∀ entry ∈ waiting.zip made, run.2.store.get entry.1.jobId =
        some (worker.leftJob entry.2.inputs entry.1)) ∧
      ∀ jobId, (∀ entry ∈ waiting.zip made, ¬ worker.Writes entry jobId) →
        run.2.store.get jobId = shared.store.get jobId := by
  intro made waiting loop run
  obtain ⟨result, shows⟩ := worker.runForever_serves_line maxLoops passes shared ready
  have separate : Separate worker shared.store (waiting.zip made) :=
    separate_zip ready fun _ => mem_of_mem_passesMade
  have start : OnCourse worker shared.store (waiting.zip made) made
      (.ofStore worker shared.store) := ⟨[], rfl, rfl, rfl, rfl⟩
  obtain ⟨returned, before, split, records, started, line⟩ :=
    poll.succeeds (lastPass maxLoops)
      (fun pass rest line (course : OnCourse worker shared.store (waiting.zip made)
        (pass :: rest) line) => course.pass through separate) 0 start
  rw [List.zip_nil_right, List.append_nil] at split
  have served : before.map Prod.fst = waiting.take made.length := by
    rw [← split]
    exact map_fst_zip waiting made
  refine ⟨?_, ?_, ?_, ?_, ?_⟩
  · rw [← Nat.zero_add made.length]
    exact result.trans returned
  · exact shows.started.trans (started.trans served)
  · rw [shows.waiting]
    rw [served] at line
    have parts := (List.take_append_drop made.length waiting).symm
    exact (List.append_cancel_left (parts.symm.trans line)).symm
  · intro entry member
    rw [shows.records]
    exact (congrFun records _).trans (by
      rw [← split]
      exact separate.recordsAfter_self member)
  · intro jobId others
    rw [shows.records]
    refine (congrFun records _).trans ?_
    rw [← split]
    exact recordsAfter_of_not_writes others

/-- A failing task under a dead letter policy for another queue. -/
def letteringWorker : Worker where
  queueName := some "default"
  handlers := ["task"]
  fallbackPolicies := some ⟨Dict.empty.set "task" { action := .deadLetter }⟩

/-- The pass in which its handler raises. -/
def failingPass : Pass :=
  ⟨{ handler := .error (.raised "broken"), deadLetterId := "letter" }, false⟩

theorem oneTask_drains :
    let run := (letteringWorker.runForever (some 1) [failingPass]).run
      (Shared.exec MemoryQueueBackend.contract) oneTask
    run.1 = some (.ok 1) ∧ run.2.store.queued none letteringWorker.queueName = [] := by
  have line : oneTask.store.queued none letteringWorker.queueName =
      [waitingJob "task"] := rfl
  have ready : letteringWorker.LoopReady oneTask [failingPass] := by
    refine ⟨fun _ => rfl, fun managed => (by cases managed), ?_, List.nodup_singleton _⟩
    intro pass member
    obtain rfl := List.mem_singleton.mp member
    rfl
  have through : letteringWorker.GoesThrough oneTask
      ((oneTask.store.queued none letteringWorker.queueName).zip
        (passesMade (lastPass (some 1)) 0 [failingPass])) := by
    rw [line]
    refine ⟨rfl, fun _ _ => rfl, ?_, ?_, fun tracks => (by cases tracks)⟩
    · intro entry member
      obtain rfl := List.mem_singleton.mp member
      exact ⟨true, rfl⟩
    · intro entry member copy sent
      obtain rfl := List.mem_singleton.mp member
      obtain rfl := Option.some.inj sent
      decide
  obtain ⟨returned, _, waiting, _⟩ :=
    runForever_drains letteringWorker (some 1) [failingPass] oneTask ready through
  exact ⟨returned, waiting⟩

end Worker

end CloudDogJobs
