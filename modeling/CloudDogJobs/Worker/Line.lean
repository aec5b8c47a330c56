import CloudDogJobs.Worker.Loop

/-!
# The loop serves a waiting line

What `run_forever` is for, without stores, claims and slots: a line of waiting
jobs in dispatch order, the records of all jobs, and the handlers started so far.
A pass looks at the head of the line only. If the head is admitted it leaves the
line with the record of its ending; a dead letter for the worker's own queue goes
behind the jobs that it does not precede. A worker that runs alone on the memory
backend, from a state in which no slot is held and with fresh identifiers for its
dead letters, refines this loop pass by pass.
-/

namespace CloudDogJobs

open Foundation

/-- A line of waiting jobs, the records of all jobs, and the jobs whose handlers
have started, in order. -/
structure Line where
  waiting : List Job
  records : String → Option Job
  started : List Job := []

namespace Line

/-- Store the record of a job. -/
def record (line : Line) (job : Job) : Line :=
  { line with records := Function.update line.records job.jobId (some job) }

/-- A job joins the line behind the jobs that it does not precede, if it is for
this queue. -/
def join (queueName : Option String) (line : Line) (job : Job) : Line :=
  let stored := line.record job
  if job.matchesFilters none queueName then
    { stored with waiting := settle Job.DispatchLe job line.waiting }
  else stored

@[simp] theorem join_records (queueName : Option String) (line : Line) (job : Job) :
    (line.join queueName job).records = Function.update line.records job.jobId (some job) := by
  unfold join
  split <;> rfl

variable (worker : Worker)

/-- The dispatcher admits the job: its tracked dependencies have succeeded and there
is room. -/
def admits (tracker : DependencyTracker) (room : Job → Bool) (line : Line) (job : Job) : Bool :=
  worker.checks.dependenciesMet (fun jobId => (line.records jobId).map Job.ticket) tracker job &&
    room job

/-- The line after the round of its head. -/
def serve (inputs : RunInputs) (line : Line) (job : Job) (rest : List Job) : Line :=
  let left : Line :=
    { waiting := rest
      records := Function.update line.records job.jobId (some (worker.leftJob inputs job))
      started := line.started ++ if job.jobType ∈ worker.handlers then [job] else [] }
  match (worker.ending inputs job).letter with
  | none => left
  | some copy => left.join worker.queueName copy

/-- One pass of the loop. -/
def pass (tracker : DependencyTracker) (room : Job → Bool) (pass : Pass) (line : Line) :
    Except PyError Bool × Line :=
  if worker.authorised then
    match line.waiting with
    | [] => (.ok false, line)
    | job :: rest =>
        if line.admits worker tracker room job then
          ((worker.ending pass.inputs job).result, line.serve worker pass.inputs job rest)
        else (.ok false, line)
  else
    (.error (.permissionError
      ("Worker identity not authorised: " ++ worker.hostId ++ ":" ++ worker.workerId)), line)

/-- The loop over the line. -/
def runForever (tracker : DependencyTracker) (room : Job → Bool) (maxLoops : Option Int)
    (passes : List Pass) (line : Line) : Option (Except PyError Nat) × Line :=
  poll (Line.pass worker tracker room) (lastPass maxLoops) 0 passes line

/-- The line of a store. -/
def ofStore (store : MemoryQueueBackend) : Line :=
  ⟨store.queued none worker.queueName, store.get, []⟩

/-- The line shows the store, and the handlers that were started. -/
structure Shows (store : MemoryQueueBackend) (started : List Job) (line : Line) : Prop where
  waiting : store.queued none worker.queueName = line.waiting
  records : store.get = line.records
  started : started = line.started

variable {worker}

theorem Shows.ofStore (store : MemoryQueueBackend) :
    Shows worker store [] (Line.ofStore worker store) :=
  ⟨rfl, rfl, rfl⟩

namespace Shows

variable {store : MemoryQueueBackend} {started : List Job} {line : Line} {job : Job}
  {rest : List Job}

/-- A queued job for another queue, or for this one, under a new identifier. -/
theorem join (shows : Shows worker store started line) (fresh : store.get job.jobId = none)
    (queued : job.status = .queued) :
    Shows worker (store.enqueue job).2 started (line.join worker.queueName job) := by
  have waiting := store.queued_enqueue_fresh fresh none worker.queueName
  have records := store.get_enqueue_eq_update job
  rw [shows.records] at records
  rw [shows.waiting] at waiting
  unfold Line.join
  split
  · next passes =>
      rw [if_pos ⟨queued, passes⟩] at waiting
      exact ⟨waiting, records, shows.started⟩
  · next other =>
      rw [if_neg fun joins => other joins.2] at waiting
      exact ⟨waiting, records, shows.started⟩

/-- The head of the line leaves it with a record that is not queued. -/
theorem leave (shows : Shows worker store started line) (line_eq : line.waiting = job :: rest)
    (inputs : RunInputs) (more : List Job) :
    Shows worker (store.enqueue (worker.leftJob inputs job)).2 (started ++ more)
      { waiting := rest
        records := Function.update line.records job.jobId (some (worker.leftJob inputs job))
        started := line.started ++ more } := by
  have head : store.queued none worker.queueName = job :: rest := shows.waiting.trans line_eq
  obtain ⟨stored, _⟩ := (store.mem_queued none worker.queueName job).mp
    (head ▸ List.mem_cons_self)
  refine ⟨?_, ?_, congrArg (· ++ more) shows.started⟩
  · rw [store.queued_enqueue_stored (worker.leftJob inputs job) stored
      (worker.ending_status_ne_queued inputs job), worker.leftJob_jobId]
    exact store.filter_queued_of_cons head
  · rw [← shows.records]
    exact store.get_enqueue_eq_update _

end Shows

end Line

/-- What the loop relies on: no slot is held, no count of the pool is negative, and the
identifiers drawn for dead letters are new and distinct. -/
structure Worker.LoopReady (worker : Worker) (shared : Shared MemoryQueueBackend)
    (passes : List Pass) : Prop where
  idle : ∀ jobId, shared.pool.holders.get? jobId = none
  counts : worker.resourcePool = true → ∀ name, 0 ≤ shared.pool.usedOf name
  fresh : ∀ pass ∈ passes, shared.store.get pass.inputs.deadLetterId = none
  distinct : (passes.map fun pass => pass.inputs.deadLetterId).Nodup

/-- The worker, in a state that it has reached from `start`, follows the line: its
store is the line's, it is ready for the passes to come, and it finds the
dependencies and the room of the start. -/
structure Worker.Follows (worker : Worker) (start : Shared MemoryQueueBackend)
    (passes : List Pass) (entry : Shared MemoryQueueBackend × List Job) (line : Line) : Prop where
  shows : line.Shows worker entry.1.store entry.2
  ready : worker.LoopReady entry.1 passes
  tracker : entry.1.tracker = start.tracker
  counters : entry.1.concurrency.SameCounts start.concurrency
  limits : entry.1.pool.limits = start.pool.limits
  used : ∀ name, entry.1.pool.usedOf name = start.pool.usedOf name

namespace Worker

variable {worker : Worker} {start shared : Shared MemoryQueueBackend} {passes rest : List Pass}
  {pass : Pass} {started : List Job} {line : Line} {job : Job}

/-- Pools with the same limits and the same counts have the same room. -/
theorem canAcquire_of_used {first second : ResourcePool}
    (limits : first.limits = second.limits)
    (used : ∀ name, first.usedOf name = second.usedOf name) (resources : Dict String Int) :
    first.canAcquire resources = second.canAcquire resources := by
  unfold ResourcePool.canAcquire
  simp only [limits, used]

namespace Follows

variable (follows : worker.Follows start passes (shared, started) line)

include follows

theorem hasRoom (job : Job) :
    worker.checks.hasRoom shared job = worker.checks.hasRoom start job := by
  have pools := canAcquire_of_used follows.limits follows.used
  have counters := follows.counters.canAcquire
  unfold Dispatcher.hasRoom Dispatcher.concurrencyRoom Dispatcher.resourceRoom
  rw [pools, counters]

theorem admits (job : Job) :
    worker.checks.admits MemoryQueueBackend.view shared job =
      line.admits worker start.tracker (worker.checks.hasRoom start) job := by
  have shown : MemoryQueueBackend.view shared.store =
      fun jobId => (line.records jobId).map Job.ticket := by
    rw [← follows.shows.records]
    rfl
  unfold Dispatcher.admits Line.admits
  rw [shown, follows.tracker, follows.hasRoom]

/-- The worker selects the head of the line, if it is admitted. -/
theorem selected (authorised : worker.authorised = true) :
    worker.selected MemoryQueueBackend.contract MemoryQueueBackend.view shared =
      line.waiting.head?.filter
        (line.admits worker start.tracker (worker.checks.hasRoom start)) := by
  unfold Worker.selected
  rw [if_pos authorised, candidate_memory, follows.shows.waiting]
  congr 1
  funext job
  exact follows.admits job

/-- A pass that finds nothing to do. -/
theorem idle {after : Shared MemoryQueueBackend} (same : after.SameSlots shared)
    (fewer : ∀ pass ∈ rest, pass ∈ passes) (distinct : (rest.map (·.inputs.deadLetterId)).Nodup) :
    worker.Follows start rest (after, started) line where
  shows := same.store ▸ follows.shows
  ready :=
    { idle := by
        rw [same.pool]
        exact follows.ready.idle
      counts := by
        rw [same.pool]
        exact follows.ready.counts
      fresh := by
        intro pass member
        rw [same.store]
        exact follows.ready.fresh pass (fewer pass member)
      distinct := distinct }
  tracker := same.tracker.trans follows.tracker
  counters := same.concurrency.trans follows.counters
  limits := (congrArg ResourcePool.limits same.pool).trans follows.limits
  used name := (congrArg (·.usedOf name) same.pool).trans (follows.used name)

/-- The store and the handlers after the round of the head of the line. -/
theorem serves {others : List Job}
    (chosen : worker.selected MemoryQueueBackend.contract MemoryQueueBackend.view shared =
      some job)
    (head : line.waiting = job :: others)
    (fresh : shared.store.get pass.inputs.deadLetterId = none) :
    (line.serve worker pass.inputs job others).Shows worker
      (worker.stateAfter pass.inputs shared job).store
      (started ++ if job.jobType ∈ worker.handlers then [job] else []) := by
  have left := follows.shows.leave head pass.inputs
    (if job.jobType ∈ worker.handlers then [job] else [])
  have stored := (worker.selected_memory chosen).1
  have store : (worker.stateAfter pass.inputs shared job).store =
      (((worker.checks.taken shared job).holding shared.store
        (worker.leftJob pass.inputs job)).sent (worker.ending pass.inputs job).letter).store := by
    unfold stateAfter
    split <;> rfl
  rw [store]
  unfold Line.serve
  cases sent : (worker.ending pass.inputs job).letter with
  | none => exact left
  | some copy =>
      obtain ⟨named, queued, _⟩ := worker.ending_letter pass.inputs job sent
      refine left.join ?_ queued
      rw [MemoryQueueBackend.get_enqueue, named, if_neg, fresh]
      rw [leftJob_jobId]
      intro same
      rw [same, stored] at fresh
      cases fresh

/-- The slots after the round of a job with a handler. -/
theorem serves_slots (pass : Pass) (known : job.jobType ∈ worker.handlers)
    (chosen : worker.selected MemoryQueueBackend.contract MemoryQueueBackend.view shared =
      some job) :
    (worker.stateAfter pass.inputs shared job).concurrency.SameCounts start.concurrency ∧
      (worker.stateAfter pass.inputs shared job).pool.limits = start.pool.limits ∧
      ∀ name, (worker.stateAfter pass.inputs shared job).pool.usedOf name =
        start.pool.usedOf name := by
  have slots : (worker.checks.taken shared job).SlotsOf
      (((worker.checks.taken shared job).holding shared.store
        (worker.leftJob pass.inputs job)).sent (worker.ending pass.inputs job).letter) := by
    cases (worker.ending pass.inputs job).letter <;> exact ⟨rfl, rfl⟩
  obtain ⟨counters, used⟩ := worker.released_of_slots (selected_eq_some.mp chosen).2.2
    (follows.ready.idle job.jobId) slots
  unfold stateAfter
  rw [if_pos known]
  refine ⟨counters.trans follows.counters, ?_, ?_⟩
  · rw [← follows.limits]
    show (worker.checks.resourcesReleased _ job).limits = _
    rw [slots.2]
    show (worker.checks.resourcesReleased (worker.checks.resourcesTaken shared.pool job) job).limits
      = _
    unfold Dispatcher.resourcesReleased Dispatcher.resourcesTaken
    split
    · split
      · exact shared.pool.limits_acquire _ _
      · rfl
    · split
      · exact shared.pool.limits_acquire _ _
      · rfl
  · intro name
    rw [used, ← follows.used name]
    split
    · next asked =>
        exact max_eq_right (follows.ready.counts asked.1 name)
    · rfl

end Follows

/-- The worker follows the line after the round of a job with a handler. -/
theorem Follows.serve {others : List Job}
    (follows : worker.Follows start (pass :: rest) (shared, started) line)
    (known : job.jobType ∈ worker.handlers)
    (chosen : worker.selected MemoryQueueBackend.contract MemoryQueueBackend.view shared =
      some job)
    (head : line.waiting = job :: others) :
    worker.Follows start rest
      (worker.stateAfter pass.inputs shared job,
        started ++ if job.jobType ∈ worker.handlers then [job] else [])
      (line.serve worker pass.inputs job others) := by
  have new := follows.ready.fresh pass List.mem_cons_self
  have stored := (worker.selected_memory chosen).1
  have shows := follows.serves chosen head new
  obtain ⟨counters, limits, used⟩ := follows.serves_slots pass known chosen
  obtain ⟨apart, distinct⟩ := List.nodup_cons.mp follows.ready.distinct
  refine ⟨shows, ⟨?_, ?_, ?_, distinct⟩, ?_, counters, limits, used⟩
  · exact worker.holders_stateAfter pass.inputs follows.ready.idle known
  · intro managed name
    rw [used, ← follows.used]
    exact follows.ready.counts managed name
  · intro later member
    have missing := follows.ready.fresh later (List.mem_cons_of_mem _ member)
    have other : later.inputs.deadLetterId ≠ job.jobId := by
      intro same
      rw [same, stored] at missing
      cases missing
    have untouched : Function.update line.records job.jobId
        (some (worker.leftJob pass.inputs job)) later.inputs.deadLetterId = none := by
      rw [Function.update_of_ne other, ← follows.shows.records]
      exact missing
    rw [shows.records]
    unfold Line.serve
    cases sent : (worker.ending pass.inputs job).letter with
    | none => exact untouched
    | some copy =>
        have different : later.inputs.deadLetterId ≠ copy.jobId := by
          rw [(worker.ending_letter pass.inputs job sent).1]
          intro same
          exact apart (List.mem_map.mpr ⟨later, member, same⟩)
        dsimp only
        rw [Line.join_records, Function.update_of_ne different]
        exact untouched
  · rw [← follows.tracker]
    unfold stateAfter
    rw [if_pos known]
    cases (worker.ending pass.inputs job).letter <;> rfl

/-- One pass of the loop, and the handlers started so far. -/
def observedPass (worker : Worker) (pass : Pass) (entry : Shared MemoryQueueBackend × List Job) :
    Except PyError Bool × Shared MemoryQueueBackend × List Job :=
  let run := (worker.runOnce pass.inputs).run (Shared.exec MemoryQueueBackend.contract) entry.1
  (run.1, run.2, entry.2 ++ (worker.runOnce pass.inputs).marks
    (Shared.exec MemoryQueueBackend.contract) WorkerCall.started entry.1)

theorem observedPass_of_unauthorised (barred : worker.authorised = false) :
    worker.observedPass pass (shared, started) =
      (.error (.permissionError
        ("Worker identity not authorised: " ++ worker.hostId ++ ":" ++ worker.workerId)),
        shared, started) := by
  unfold observedPass
  dsimp only
  rw [worker.run_runOnce_of_unauthorised MemoryQueueBackend.contract pass.inputs shared barred]
  unfold runOnce
  simp [barred]

theorem observedPass_of_selected
    (chosen : worker.selected MemoryQueueBackend.contract MemoryQueueBackend.view shared =
      some job) :
    worker.observedPass pass (shared, started) =
      ((worker.ending pass.inputs job).result, worker.stateAfter pass.inputs shared job,
        started ++ if job.jobType ∈ worker.handlers then [job] else []) := by
  unfold observedPass
  dsimp only
  rw [worker.run_runOnce_memory pass.inputs chosen,
    worker.marks_runOnce_of_selected pass.inputs chosen]

theorem observedPass_of_none (pass : Pass) (started : List Job)
    (authorised : worker.authorised = true)
    (nothing : worker.selected MemoryQueueBackend.contract MemoryQueueBackend.view shared =
      none) :
    ∃ after, worker.observedPass pass (shared, started) = (.ok false, after, started) ∧
      after.SameSlots shared := by
  obtain ⟨after, ended, same⟩ := worker.run_runOnce_of_none MemoryQueueBackend.contract
    MemoryQueueBackend.lawful pass.inputs shared authorised nothing
  refine ⟨after, ?_, same⟩
  unfold observedPass
  dsimp only
  rw [ended, worker.marks_runOnce_of_none pass.inputs nothing, List.append_nil]

/-- One pass of the worker is one pass over the line. -/
theorem pass_refines (follows : worker.Follows start (pass :: rest) (shared, started) line) :
    let spec := Line.pass worker start.tracker (worker.checks.hasRoom start) pass line
    (worker.observedPass pass (shared, started)).1 = spec.1 ∧
      (∀ processed, (worker.observedPass pass (shared, started)).1 = .ok processed →
        worker.Follows start rest (worker.observedPass pass (shared, started)).2 spec.2) ∧
      spec.2.Shows worker (worker.observedPass pass (shared, started)).2.1.store
        (worker.observedPass pass (shared, started)).2.2 := by
  intro spec
  cases authorised : worker.authorised with
  | false =>
      have same : spec = (.error (.permissionError
          ("Worker identity not authorised: " ++ worker.hostId ++ ":" ++ worker.workerId)),
          line) := by
        simp [spec, Line.pass, authorised]
      rw [same, observedPass_of_unauthorised authorised]
      exact ⟨rfl, fun processed other => (by cases other), follows.shows⟩
  | true =>
      have selected := follows.selected authorised
      cases chosen : worker.selected MemoryQueueBackend.contract MemoryQueueBackend.view
          shared with
      | none =>
          rw [chosen] at selected
          have same : spec = (.ok false, line) := by
            cases waiting : line.waiting with
            | nil => simp [spec, Line.pass, authorised, waiting]
            | cons job others =>
                rw [waiting] at selected
                have refused : line.admits worker start.tracker
                    (worker.checks.hasRoom start) job = false := by
                  simpa using selected.symm
                simp [spec, Line.pass, authorised, waiting, refused]
          obtain ⟨after, ended, slots⟩ := observedPass_of_none pass started authorised chosen
          have idled := follows.idle slots (fun _ => List.mem_cons_of_mem _)
            (List.nodup_cons.mp follows.ready.distinct).2
          rw [same, ended]
          exact ⟨rfl, fun _ _ => idled, idled.shows⟩
      | some job =>
          rw [chosen] at selected
          obtain ⟨first, admitted⟩ := Option.filter_eq_some_iff.mp selected.symm
          obtain ⟨others, head⟩ := List.head?_eq_some_iff.mp first
          have same : spec = ((worker.ending pass.inputs job).result,
              line.serve worker pass.inputs job others) := by
            simp [spec, Line.pass, authorised, head, admitted]
          rw [same, observedPass_of_selected chosen]
          refine ⟨rfl, ?_,
            follows.serves chosen head (follows.ready.fresh pass List.mem_cons_self)⟩
          intro processed returned
          have known : job.jobType ∈ worker.handlers := by
            by_contra unknown
            unfold ending at returned
            rw [if_neg unknown] at returned
            cases returned
          exact follows.serve known chosen head

/-- **The loop serves a waiting line.** A worker that runs alone on the memory backend,
from a state in which no slot is held, returns or raises what the loop over the
line of its store does, starts the same handlers in the same order, and leaves the
same line and the same record of every job. -/
theorem runForever_serves_line (worker : Worker) (maxLoops : Option Int) (passes : List Pass)
    (shared : Shared MemoryQueueBackend) (ready : worker.LoopReady shared passes) :
    let loop := worker.runForever maxLoops passes
    let run := loop.run (Shared.exec MemoryQueueBackend.contract) shared
    let spec := Line.runForever worker shared.tracker (worker.checks.hasRoom shared) maxLoops
      passes (.ofStore worker shared.store)
    run.1 = spec.1 ∧
      spec.2.Shows worker run.2.store
        (loop.marks (Shared.exec MemoryQueueBackend.contract) WorkerCall.started shared) := by
  have start : worker.Follows shared passes (shared, []) (.ofStore worker shared.store) :=
    ⟨.ofStore shared.store, ready, rfl, .refl _, rfl, fun _ => rfl⟩
  have simulates : ∀ pass rest (entry : Shared MemoryQueueBackend × List Job) line,
      worker.Follows shared (pass :: rest) entry line →
      (worker.observedPass pass entry).1 =
          (Line.pass worker shared.tracker (worker.checks.hasRoom shared) pass line).1 ∧
        (∀ processed, (worker.observedPass pass entry).1 = .ok processed →
          worker.Follows shared rest (worker.observedPass pass entry).2
            (Line.pass worker shared.tracker (worker.checks.hasRoom shared) pass line).2) ∧
        (Line.pass worker shared.tracker (worker.checks.hasRoom shared) pass line).2.Shows worker
          (worker.observedPass pass entry).2.1.store (worker.observedPass pass entry).2.2 :=
    fun _ _ _ _ => pass_refines
  have looped : Foundation.poll worker.observedPass (lastPass maxLoops) 0 passes (shared, []) = _ :=
    Prog.run_poll (Shared.exec MemoryQueueBackend.contract) WorkerCall.started
      (fun pass : Pass => worker.runOnce pass.inputs) (lastPass maxLoops) 0 passes shared []
  have refined := poll.simulates (lastPass maxLoops)
    (fun entry line => line.Shows worker entry.1.store entry.2)
    (fun _ _ _ follows => follows.shows) simulates 0 start
  rw [looped] at refined
  exact refined

/-- A loop of one pass over the one task that waits, with a slot to take. -/
theorem oneTask_serves_line :
    let worker : Worker := { concurrency := true, handlers := ["task"] }
    let loop := worker.runForever (some 1) [⟨{ deadLetterId := "letter" }, false⟩]
    let run := loop.run (Shared.exec MemoryQueueBackend.contract) oneTask
    let spec := Line.runForever worker oneTask.tracker (worker.checks.hasRoom oneTask) (some 1)
      [⟨{ deadLetterId := "letter" }, false⟩] (.ofStore worker oneTask.store)
    run.1 = spec.1 ∧
      spec.2.Shows worker run.2.store
        (loop.marks (Shared.exec MemoryQueueBackend.contract) WorkerCall.started oneTask) := by
  refine runForever_serves_line _ _ _ _ ⟨fun _ => rfl, fun managed => (by cases managed), ?_, ?_⟩
  · intro pass member
    obtain rfl := List.mem_singleton.mp member
    rfl
  · exact List.nodup_singleton _

end Worker

end CloudDogJobs
