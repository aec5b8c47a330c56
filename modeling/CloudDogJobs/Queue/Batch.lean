import CloudDogJobs.Queue.Submission
import CloudDogJobs.Worker.Draining

/-!
# A batch of submissions, drained

`JobQueue.submit` and `Worker.run_forever` together: a batch of jobs is submitted
to an empty memory backend and a worker runs until it has made as many passes as
there are jobs. When every dependency names an earlier submission of the batch
that is dispatched first, no submission closes a cycle, the head of the line is
never blocked, and every job of the batch succeeds in dispatch order.
-/

namespace CloudDogJobs

open Foundation

/-- Submit one job after the other. -/
def JobQueue.submitBatch {σ : Type} (queue : JobQueue) (backend : QueueBackend σ)
    (state : QueueState σ) (batch : List Submission) : QueueState σ :=
  batch.foldl (fun state submission => (queue.serve backend state submission).2) state

/-- The payloads pass the checks, no job has a key, the identifiers are distinct, and
every dependency is an earlier submission that is dispatched before the job. -/
structure JobQueue.Orderly (queue : JobQueue) (batch : List Submission) : Prop where
  accepted : ∀ submission ∈ batch, queue.admission submission.request.payload = .ok ()
  unkeyed : ∀ submission ∈ batch, submission.key = none
  distinct : (batch.map Submission.jobId).Nodup
  ordered : ∀ before submission after, batch = before ++ submission :: after →
    ∀ dependency ∈ submission.request.dependsOn, ∃ earlier ∈ before,
      earlier.jobId = dependency ∧ Job.DispatchLe earlier.job submission.job

/-- What the submissions of a batch have left: the jobs in the order of their
submission, and no edges but their own. -/
structure Submitted (start : Shared MemoryQueueBackend) (batch : List Submission)
    (shared : Shared MemoryQueueBackend) : Prop where
  values : shared.store.jobs.values = batch.map Submission.job
  edges : ∀ jobId, ∀ dependency ∈ shared.tracker.getDependencies jobId,
    ∃ submission ∈ batch, submission.jobId = jobId ∧ dependency ∈ submission.request.dependsOn
  concurrency : shared.concurrency = start.concurrency
  pool : shared.pool = start.pool

section Batches

variable {queue : JobQueue} {batch : List Submission} {start shared : Shared MemoryQueueBackend}
  {submission : Submission}

theorem JobQueue.Orderly.left {rest : List Submission} (orderly : queue.Orderly (batch ++ rest)) :
    queue.Orderly batch where
  accepted other member := orderly.accepted other (List.mem_append_left _ member)
  unkeyed other member := orderly.unkeyed other (List.mem_append_left _ member)
  distinct := by
    have all := orderly.distinct
    rw [List.map_append] at all
    exact (List.nodup_append.mp all).1
  ordered before other after split :=
    orderly.ordered before other (after ++ rest) (by rw [split]; simp)

theorem JobQueue.Orderly.last_not_mem (orderly : queue.Orderly (batch ++ [submission])) :
    submission.jobId ∉ batch.map Submission.jobId := by
  have all := orderly.distinct
  rw [List.map_append] at all
  intro member
  exact (List.nodup_append.mp all).2.2 _ member submission.jobId (List.mem_singleton.mpr rfl) rfl

namespace Submitted

/-- Before the first submission. -/
theorem nothing (empty : start.store.jobs.values = [])
    (untracked : ∀ jobId, start.tracker.getDependencies jobId = []) :
    Submitted start [] start := by
  refine ⟨empty, ?_, rfl, rfl⟩
  intro jobId dependency tracked
  rw [untracked] at tracked
  cases tracked

theorem get (submitted : Submitted start batch shared) (job : Job) :
    shared.store.get job.jobId = some job ↔ ∃ submission ∈ batch, submission.job = job := by
  rw [← shared.store.mem_allJobs, MemoryQueueBackend.allJobs, submitted.values, List.mem_map]

theorem get_eq_none (submitted : Submitted start batch shared) {jobId : String}
    (absent : jobId ∉ batch.map Submission.jobId) : shared.store.get jobId = none := by
  cases stored : shared.store.get jobId with
  | none => rfl
  | some job =>
      have named : job.jobId = jobId := shared.store.keyed _ _ stored
      rw [← named] at stored
      obtain ⟨submission, member, same⟩ := (submitted.get job).mp stored
      refine absurd ?_ absent
      rw [← named, ← same]
      exact List.mem_map_of_mem member

/-- The dependencies of an orderly batch close no cycle through a new job. -/
theorem not_cyclic (submitted : Submitted start batch shared)
    (orderly : queue.Orderly (batch ++ [submission])) :
    ¬ queue.Cyclic submission shared.tracker := by
  intro ⟨_, cyclic⟩
  obtain ⟨dependency, member, path⟩ := (shared.tracker.detectCycle_iff _ _).mp cyclic
  obtain ⟨earlier, among, named, _⟩ :=
    orderly.ordered batch submission [] rfl dependency member
  have closed : ∀ jobId, Graph.Reaches shared.tracker.edges dependency jobId →
      jobId ∈ batch.map Submission.jobId := by
    intro jobId reached
    induction reached with
    | refl => exact named ▸ List.mem_map_of_mem among
    | tail _ edge _ =>
        obtain ⟨owner, inside, _, depends⟩ := submitted.edges _ _ edge
        obtain ⟨before, after, split⟩ := List.append_of_mem inside
        obtain ⟨target, placed, rfl, _⟩ := orderly.left.ordered before owner after split _ depends
        exact List.mem_map_of_mem (split ▸ List.mem_append_left _ placed)
  exact orderly.last_not_mem (closed _ path)

/-- One more submission goes through. -/
theorem serve_eq {state : QueueState MemoryQueueBackend}
    (submitted : Submitted start batch state.shared)
    (orderly : queue.Orderly (batch ++ [submission])) :
    queue.serve MemoryQueueBackend.contract state submission =
      (.ok submission.jobId,
        { state with shared := { state.shared with
            tracker := queue.tracked submission state.shared.tracker
            store := (state.shared.store.enqueue submission.job).2 } }) := by
  have member : submission ∈ batch ++ [submission] :=
    List.mem_append_right _ (List.mem_singleton.mpr rfl)
  have unkeyed : JobQueue.deduplicate submission.job submission.now state = (none, state) := by
    have none := orderly.unkeyed submission member
    rcases JobQueue.deduplicate_cases submission state with
      ⟨_, kept⟩ | ⟨key, _, _, keyed, _⟩ | ⟨key, keyed, _⟩
    · exact kept
    · cases none.symm.trans keyed
    · cases none.symm.trans keyed
  rcases queue.serve_of_proceeds MemoryQueueBackend.contract
      (orderly.accepted submission member) unkeyed with ⟨cyclic, _⟩ | ⟨_, served⟩
  · exact absurd cyclic (submitted.not_cyclic orderly)
  · exact served

theorem serve {state : QueueState MemoryQueueBackend}
    (submitted : Submitted start batch state.shared)
    (orderly : queue.Orderly (batch ++ [submission])) :
    Submitted start (batch ++ [submission])
      (queue.serve MemoryQueueBackend.contract state submission).2.shared := by
  have absent := submitted.get_eq_none orderly.last_not_mem
  rw [submitted.serve_eq orderly]
  refine ⟨?_, ?_, submitted.concurrency, submitted.pool⟩
  · show (state.shared.store.enqueue submission.job).2.jobs.values = _
    rw [state.shared.store.values_enqueue_fresh absent, submitted.values, List.map_append]
    rfl
  · intro jobId dependency tracked
    have known : dependency ∈ state.shared.tracker.getDependencies jobId →
        ∃ other ∈ batch ++ [submission], other.jobId = jobId ∧
          dependency ∈ other.request.dependsOn := by
      intro earlier
      obtain ⟨other, inside, rest⟩ := submitted.edges jobId dependency earlier
      exact ⟨other, List.mem_append_left _ inside, rest⟩
    change dependency ∈ (queue.tracked submission state.shared.tracker).getDependencies jobId
      at tracked
    unfold JobQueue.tracked at tracked
    split at tracked
    · rw [DependencyTracker.getDependencies, Dict.getD, Dict.get?_set] at tracked
      split at tracked
      · next same =>
          exact ⟨submission, List.mem_append_right _ (List.mem_singleton.mpr rfl), same.symm,
            tracked⟩
      · exact known tracked
    · exact known tracked

end Submitted

/-- An orderly batch is submitted in full. -/
theorem JobQueue.Orderly.submitted (orderly : queue.Orderly batch)
    (state : QueueState MemoryQueueBackend) (empty : state.shared.store.jobs.values = [])
    (untracked : ∀ jobId, state.shared.tracker.getDependencies jobId = []) :
    Submitted state.shared batch
      (queue.submitBatch MemoryQueueBackend.contract state batch).shared := by
  induction batch using List.reverseRecOn with
  | nil => exact .nothing empty untracked
  | append_singleton rest submission ih =>
      have earlier := ih orderly.left
      have served := earlier.serve orderly
      unfold JobQueue.submitBatch
      rw [List.foldl_append]
      exact served

/-- What comes before an item in a list of distinct items. -/
theorem mem_of_pair_sublist {α : Type} {first second : α} {before after : List α}
    (distinct : (before ++ second :: after).Nodup)
    (ordered : [first, second].Sublist (before ++ second :: after)) : first ∈ before := by
  have last : second ∉ after := (List.nodup_cons.mp (List.nodup_append.mp distinct).2.1).1
  obtain ⟨left, right, split, inside, rest⟩ := List.sublist_append_iff.mp ordered
  cases left with
  | nil =>
      rw [List.nil_append] at split
      rw [← split] at rest
      rcases List.sublist_cons_iff.mp rest with later | ⟨others, same, later⟩
      · exact absurd (later.subset (List.mem_cons_of_mem _ List.mem_cons_self)) last
      · obtain ⟨_, rfl⟩ := List.cons.inj same
        exact absurd (later.subset List.mem_cons_self) last
  | cons head tail =>
      obtain ⟨rfl, _⟩ := List.cons.inj split
      exact inside.subset List.mem_cons_self

namespace Submitted

/-- The batch waits in dispatch order. -/
theorem queued (submitted : Submitted start batch shared) {queueName : Option String}
    (inQueue : ∀ submission ∈ batch, submission.job.matchesFilters none queueName = true) :
    shared.store.queued none queueName =
      (batch.map Submission.job).insertionSort Job.DispatchLe := by
  unfold MemoryQueueBackend.queued
  rw [submitted.values, List.filter_eq_self.mpr]
  intro job member
  obtain ⟨submission, among, rfl⟩ := List.mem_map.mp member
  rw [inQueue submission among, Bool.and_true]
  rfl

/-- In dispatch order the dependencies of a job come before it. -/
theorem dependencies_before (submitted : Submitted start batch shared)
    (orderly : queue.Orderly batch) {job : Job} {before after : List Job}
    (line : (batch.map Submission.job).insertionSort Job.DispatchLe = before ++ job :: after)
    {dependency : String} (tracked : dependency ∈ shared.tracker.getDependencies job.jobId) :
    ∃ earlier ∈ before, earlier.jobId = dependency := by
  have perm := List.perm_insertionSort Job.DispatchLe (batch.map Submission.job)
  have distinct : ((before ++ job :: after).map Job.jobId).Nodup := by
    rw [← line]
    refine ((perm.map Job.jobId).nodup_iff).mpr ?_
    rw [List.map_map]
    exact orderly.distinct
  obtain ⟨owner, among, same, depends⟩ := submitted.edges _ _ tracked
  have placed : job ∈ batch.map Submission.job := by
    rw [← perm.mem_iff, line]
    exact List.mem_append_right _ List.mem_cons_self
  obtain ⟨submission, inside, rfl⟩ := List.mem_map.mp placed
  obtain rfl : owner = submission :=
    List.inj_on_of_nodup_map orderly.distinct among inside same
  obtain ⟨first, rest, split⟩ := List.append_of_mem inside
  obtain ⟨earlier, ahead, named, precedes⟩ := orderly.ordered first owner rest split _ depends
  have pair : [earlier.job, owner.job].Sublist (before ++ owner.job :: after) := by
    rw [← line]
    apply List.pair_sublist_insertionSort precedes
    rw [split, List.map_append, List.map_cons]
    have left := List.singleton_sublist.mpr (List.mem_map_of_mem (f := Submission.job) ahead)
    exact left.append (List.singleton_sublist.mpr List.mem_cons_self)
  exact ⟨earlier.job, mem_of_pair_sublist distinct.of_map pair, named⟩

/-- A waiting job is one of the batch. -/
theorem placed (submitted : Submitted start batch shared) {queueName : Option String}
    (inQueue : ∀ submission ∈ batch, submission.job.matchesFilters none queueName = true)
    {job : Job} (waits : job ∈ shared.store.queued none queueName) :
    ∃ submission ∈ batch, submission.job = job := by
  rw [submitted.queued inQueue, List.mem_insertionSort] at waits
  exact List.mem_map.mp waits

/-- The slots are as they were at the start. -/
theorem hasRoom (submitted : Submitted start batch shared) (checks : Dispatcher) (job : Job) :
    checks.hasRoom shared job = checks.hasRoom start job := by
  unfold Dispatcher.hasRoom
  rw [submitted.concurrency, submitted.pool]

/-- A worker can begin: the pool is unused and the identifiers of dead letters are new. -/
theorem loopReady {limits : ConcurrencyLimits} {pools : Dict String Int} {worker : Worker}
    {passes : List Pass}
    (submitted : Submitted ⟨.empty, .init limits, .init pools, .empty⟩ batch shared)
    (fresh : ∀ pass ∈ passes, pass.inputs.deadLetterId ∉ batch.map Submission.jobId)
    (distinct : (passes.map fun pass => pass.inputs.deadLetterId).Nodup) :
    worker.LoopReady shared passes := by
  refine ⟨?_, ?_, ?_, distinct⟩
  · rw [submitted.pool]
    exact fun _ => rfl
  · rw [submitted.pool]
    exact fun _ _ => le_rfl
  · exact fun pass member => submitted.get_eq_none (fresh pass member)

/-- The rounds go through when those of the batch do and no job waits for its
dependencies. -/
theorem goesThrough {worker : Worker} {made : List Pass} (submitted : Submitted start batch shared)
    (authorised : worker.authorised = true)
    (inQueue : ∀ submission ∈ batch, submission.job.matchesFilters none worker.queueName = true)
    (room : ∀ submission ∈ batch, worker.checks.hasRoom start submission.job = true)
    (goesOn : ∀ submission ∈ batch, ∀ pass ∈ made, ∃ processed,
      (worker.ending pass.inputs submission.job).result = .ok processed)
    (apart : ∀ submission ∈ batch, ∀ pass ∈ made, ∀ copy,
      (worker.ending pass.inputs submission.job).letter = some copy →
        copy.matchesFilters none worker.queueName = false)
    (dependencies : ∀ before entry after,
      (shared.store.queued none worker.queueName).zip made = before ++ entry :: after →
        entry.1.dependsOn ≠ [] → ∀ dependency ∈ shared.tracker.getDependencies entry.1.jobId,
          ∃ earlier ∈ before, earlier.1.jobId = dependency ∧
            (worker.ending earlier.2.inputs earlier.1).status = .succeeded) :
    worker.GoesThrough shared ((shared.store.queued none worker.queueName).zip made) where
  authorised := authorised
  room entry member := by
    obtain ⟨submission, among, same⟩ := submitted.placed inQueue (List.of_mem_zip member).1
    rw [submitted.hasRoom, ← same]
    exact room submission among
  goesOn entry member := by
    obtain ⟨submission, among, same⟩ := submitted.placed inQueue (List.of_mem_zip member).1
    rw [← same]
    exact goesOn submission among entry.2 (List.of_mem_zip member).2
  apart entry member := by
    obtain ⟨submission, among, same⟩ := submitted.placed inQueue (List.of_mem_zip member).1
    rw [← same]
    exact apart submission among entry.2 (List.of_mem_zip member).2
  dependencies _ before entry after split depends dependency tracked :=
    .inr (dependencies before entry after split depends dependency tracked)

end Submitted

/-- A round whose handler returns ends with success and sends no letter. -/
theorem Worker.ending_of_returns {worker : Worker} {inputs : RunInputs} {job : Job}
    (known : job.jobType ∈ worker.handlers) (returns : worker.outcome inputs = .ok ()) :
    worker.ending inputs job = ⟨.ok true, .succeeded, inputs.finishedAt, none⟩ := by
  unfold Worker.ending
  rw [if_pos known, returns]

/-- **A batch is drained.** An orderly batch is submitted to an empty store whose pools
and counters are unused, and a worker with a handler for every job of it, all of
which return, makes at least as many passes as there are jobs. Then every handler
has run once, in dispatch order, every job of the batch has succeeded, and none
waits. -/
theorem batch_succeeds (queue : JobQueue) (worker : Worker) (maxLoops : Option Int)
    (passes : List Pass) (batch : List Submission) (limits : ConcurrencyLimits)
    (pools : Dict String Int) (keys : IdempotencyManager) (orderly : queue.Orderly batch)
    (authorised : worker.authorised = true)
    (known : ∀ submission ∈ batch, submission.request.jobType ∈ worker.handlers)
    (inQueue : ∀ submission ∈ batch,
      submission.job.matchesFilters none worker.queueName = true)
    (room : ∀ submission ∈ batch, worker.checks.hasRoom
      (⟨MemoryQueueBackend.empty, .init limits, .init pools, .empty⟩ : Shared _)
        submission.job = true)
    (returns : ∀ pass ∈ passes, worker.outcome pass.inputs = .ok ())
    (fresh : ∀ pass ∈ passes, pass.inputs.deadLetterId ∉ batch.map Submission.jobId)
    (distinct : (passes.map fun pass => pass.inputs.deadLetterId).Nodup)
    (enough : batch.length ≤ (passesMade (lastPass maxLoops) 0 passes).length) :
    let submitted := queue.submitBatch MemoryQueueBackend.contract
      ⟨⟨.empty, .init limits, .init pools, .empty⟩, keys⟩ batch
    let loop := worker.runForever maxLoops passes
    let run := loop.run (Shared.exec MemoryQueueBackend.contract) submitted.shared
    loop.marks (Shared.exec MemoryQueueBackend.contract) WorkerCall.started submitted.shared =
        (batch.map Submission.job).insertionSort Job.DispatchLe ∧
      run.2.store.queued none worker.queueName = [] ∧
      ∀ submission ∈ batch, run.2.store.status? submission.jobId = some .succeeded := by
  intro submitted loop run
  have whole : Submitted _ batch submitted.shared := orderly.submitted _ rfl fun _ => rfl
  have line := whole.queued inQueue
  have ready : worker.LoopReady submitted.shared passes := whole.loopReady fresh distinct
  generalize made_eq : passesMade (lastPass maxLoops) 0 passes = made at enough
  have finishes : ∀ submission ∈ batch, ∀ pass ∈ made, worker.ending pass.inputs submission.job =
      ⟨.ok true, .succeeded, pass.inputs.finishedAt, none⟩ := by
    intro submission among pass inMade
    rw [← made_eq] at inMade
    exact Worker.ending_of_returns (known submission among)
      (returns pass (mem_of_mem_passesMade inMade))
  have ends : ∀ entry ∈ (submitted.shared.store.queued none worker.queueName).zip made,
      (worker.ending entry.2.inputs entry.1).status = .succeeded := by
    intro entry member
    obtain ⟨inLine, inMade⟩ := List.of_mem_zip member
    obtain ⟨submission, among, same⟩ := whole.placed inQueue inLine
    rw [← same, finishes submission among entry.2 inMade]
  have through : worker.GoesThrough submitted.shared
      ((submitted.shared.store.queued none worker.queueName).zip made) := by
    refine whole.goesThrough authorised inQueue room ?_ ?_ ?_
    · intro submission among pass inMade
      exact ⟨true, congrArg Ending.result (finishes submission among pass inMade)⟩
    · intro submission among pass inMade copy sent
      rw [finishes submission among pass inMade] at sent
      cases sent
    · intro before entry after split _ dependency tracked
      have firsts := congrArg (List.map Prod.fst) split
      rw [Worker.map_fst_zip, List.map_append, List.map_cons, line,
        List.take_of_length_le] at firsts
      · obtain ⟨earlier, ahead, named⟩ := whole.dependencies_before orderly firsts tracked
        obtain ⟨former, inside, rfl⟩ := List.mem_map.mp ahead
        exact ⟨former, inside, named,
          ends former (split ▸ List.mem_append_left (entry :: after) inside)⟩
      · rw [List.length_insertionSort, List.length_map]
        exact enough
  rw [← made_eq] at through enough ends
  obtain ⟨_, started, waiting, served, _⟩ :=
    worker.runForever_drains maxLoops passes submitted.shared ready through
  have length : (submitted.shared.store.queued none worker.queueName).length ≤
      (passesMade (lastPass maxLoops) 0 passes).length := by
    rw [line, List.length_insertionSort, List.length_map]
    exact enough
  refine ⟨?_, ?_, ?_⟩
  · rw [started, List.take_of_length_le length, line]
  · rw [waiting, List.drop_eq_nil_iff]
    exact length
  · intro submission among
    have inLine : submission.job ∈ submitted.shared.store.queued none worker.queueName := by
      rw [line, List.mem_insertionSort]
      exact List.mem_map_of_mem among
    have member : submission.job ∈ ((submitted.shared.store.queued none worker.queueName).zip
        (passesMade (lastPass maxLoops) 0 passes)).map Prod.fst := by
      rw [Worker.map_fst_zip, List.take_of_length_le length]
      exact inLine
    obtain ⟨entry, inside, same⟩ := List.mem_map.mp member
    have stored := served entry inside
    rw [same] at stored
    have finished := ends entry inside
    rw [same] at finished
    show (run.2.store.view submission.job.jobId).map Ticket.status = some .succeeded
    unfold MemoryQueueBackend.view
    rw [stored]
    exact congrArg some finished

/-- Two submissions, the second of which waits for the first. -/
def chain : List Submission :=
  [⟨{ jobType := "task" }, "first", 0⟩,
    ⟨{ jobType := "task", dependsOn := ["first"] }, "second", 1⟩]

/-- Two passes whose handlers return. -/
def twoPasses : List Pass := [⟨{ deadLetterId := "x" }, false⟩, ⟨{ deadLetterId := "y" }, false⟩]

theorem chain_orderly : trackingQueue.Orderly chain where
  accepted _ _ := rfl
  unkeyed submission member := by
    rcases List.mem_pair.mp member with rfl | rfl <;> rfl
  distinct := by decide
  ordered before submission after split dependency member := by
    cases before with
    | nil =>
        obtain ⟨rfl, _⟩ := List.cons.inj split
        cases member
    | cons first rest =>
        obtain ⟨rfl, tail⟩ := List.cons.inj split
        cases rest with
        | nil =>
            obtain ⟨rfl, _⟩ := List.cons.inj tail
            obtain rfl := List.mem_singleton.mp member
            exact ⟨_, List.mem_cons_self, rfl, .inr ⟨rfl, by decide⟩⟩
        | cons second rest =>
            obtain ⟨_, none⟩ := List.cons.inj tail
            cases rest <;> cases none

theorem chain_succeeds :
    let submitted := trackingQueue.submitBatch MemoryQueueBackend.contract
      ⟨⟨.empty, .init {}, .init ∅, .empty⟩, {}⟩ chain
    let loop := trackingWorker.runForever (some 2) twoPasses
    let run := loop.run (Shared.exec MemoryQueueBackend.contract) submitted.shared
    loop.marks (Shared.exec MemoryQueueBackend.contract) WorkerCall.started submitted.shared =
        (chain.map Submission.job).insertionSort Job.DispatchLe ∧
      run.2.store.queued none trackingWorker.queueName = [] ∧
      ∀ submission ∈ chain, run.2.store.status? submission.jobId = some .succeeded := by
  refine batch_succeeds trackingQueue trackingWorker (some 2) twoPasses chain {} ∅ {}
    chain_orderly rfl ?_ ?_ (fun _ _ => rfl) ?_ ?_ (by decide) (by decide)
  · intro submission member
    rcases List.mem_pair.mp member with rfl | rfl <;> exact List.mem_singleton.mpr rfl
  · intro submission member
    rcases List.mem_pair.mp member with rfl | rfl <;> rfl
  · intro pass member
    rcases List.mem_pair.mp member with rfl | rfl <;> rfl
  · intro pass member
    rcases List.mem_pair.mp member with rfl | rfl <;> decide

end Batches

end CloudDogJobs
