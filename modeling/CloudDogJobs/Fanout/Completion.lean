import CloudDogJobs.Fanout.Manager
import CloudDogJobs.Queue.Batch
import CloudDogJobs.Security.Payload

/-!
# A fan-out from creation to its aggregate

`FanOutManager.create_fan_out`, `Worker.run_forever` and `aggregate_parent_status`
together. Children are submitted without dependencies and without keys, so on an
empty store all of them are stored; a worker that makes a pass for each of them and
whose policies never raise again ends each child in `succeeded` or `failed`, by the
outcome of its pass; and the aggregate of the parent counts exactly these outcomes.
-/

namespace CloudDogJobs

open Foundation

/-- The submissions that the children of a fan-out come to. -/
def ReadsAs (builtins : Builtins) (parentJobId : String) (children : List FanOutChild)
    (batch : List Submission) : Prop :=
  List.Forall₂ (fun child submission => ∃ spec, child.spec.read builtins = .ok spec ∧
    submission = ⟨spec.request parentJobId, child.jobId, child.now⟩) children batch

namespace FanOutManager

variable {builtins : Builtins} {queue : JobQueue} {parentJobId : String}
  {start : Shared MemoryQueueBackend}

/-- The loop of a fan-out whose children are in order submits all of them. -/
theorem submitChildren_of_orderly {children : List FanOutChild} {earlier batch : List Submission}
    (reads : ReadsAs builtins parentJobId children batch)
    (orderly : queue.Orderly (earlier ++ batch)) {state : QueueState MemoryQueueBackend}
    (submitted : Submitted start earlier state.shared) :
    ∃ last, submitChildren builtins queue MemoryQueueBackend.contract parentJobId children state =
        (.ok (), batch.map Submission.jobId, last) ∧
      Submitted start (earlier ++ batch) last.shared := by
  induction reads generalizing earlier state with
  | nil => exact ⟨state, rfl, by rwa [List.append_nil]⟩
  | @cons child submission children rest read reads ih =>
      obtain ⟨spec, found, rfl⟩ := read
      have split : earlier ++ (⟨spec.request parentJobId, child.jobId, child.now⟩ :: rest) =
          (earlier ++ [⟨spec.request parentJobId, child.jobId, child.now⟩]) ++ rest := by
        rw [List.append_assoc]
        rfl
      rw [split] at orderly ⊢
      have served := submitted.serve_eq orderly.left
      have more := submitted.serve orderly.left
      rw [served] at more
      obtain ⟨last, looped, whole⟩ := ih orderly more
      refine ⟨last, ?_, whole⟩
      unfold submitChildren
      have submits : queue.submit MemoryQueueBackend.contract (spec.request parentJobId)
          child.jobId child.now state = (.ok child.jobId, _) := served
      simp only [found, submits, looped, List.map_cons]

end FanOutManager

/-- The aggregate counts the children, so their order is nothing to it. -/
theorem aggregateChildStatuses_perm {first second : List JobStatus} (perm : first.Perm second)
    (threshold : Option Rat) :
    aggregateChildStatuses first threshold = aggregateChildStatuses second threshold := by
  unfold aggregateChildStatuses
  rw [perm.isEmpty_eq, perm.length_eq]
  simp only [perm.countP_eq]

/-- The status in which a pass that raises nothing leaves its child. -/
def Worker.childOutcome (worker : Worker) (pass : Pass) : JobStatus :=
  match worker.outcome pass.inputs with
  | .ok _ => .succeeded
  | .error _ => .failed

theorem Worker.ending_status_of_goesOn {worker : Worker} {pass : Pass} {job : Job}
    (known : job.jobType ∈ worker.handlers) {processed : Bool}
    (goesOn : (worker.ending pass.inputs job).result = .ok processed) :
    (worker.ending pass.inputs job).status = worker.childOutcome pass := by
  unfold ending at goesOn ⊢
  unfold childOutcome
  rw [if_pos known] at goesOn ⊢
  cases outcome : worker.outcome pass.inputs with
  | ok value => rfl
  | error error =>
      rw [outcome] at goesOn
      dsimp only at goesOn ⊢
      by_cases caught : error.isException = true
      · rw [if_pos caught] at goesOn ⊢
        unfold recovery at goesOn ⊢
        cases policies : worker.fallbackPolicies with
        | none => rfl
        | some manager =>
            rw [policies] at goesOn
            dsimp only at goesOn ⊢
            unfold FallbackPolicyManager.ending at goesOn ⊢
            cases action : (manager.policyFor job.jobType).action with
            | retry =>
                rw [action] at goesOn
                cases goesOn
            | _ => rfl
      · rw [if_neg caught] at goesOn
        cases goesOn

section Completion

variable {builtins : Builtins} {queue : JobQueue} {parentJobId : String}
  {children : List FanOutChild} {batch : List Submission}

/-- What a child submits carries no key and no dependency. -/
theorem ReadsAs.request (reads : ReadsAs builtins parentJobId children batch) :
    ∀ submission ∈ batch, ∃ spec : ChildJobSpec, submission.request = spec.request parentJobId := by
  induction reads with
  | nil =>
      intro submission member
      cases member
  | cons read _ ih =>
      obtain ⟨spec, _, rfl⟩ := read
      intro submission member
      rcases List.mem_cons.mp member with rfl | later
      · exact ⟨spec, rfl⟩
      · exact ih submission later

theorem ReadsAs.orderly (reads : ReadsAs builtins parentJobId children batch)
    (accepted : ∀ submission ∈ batch, queue.admission submission.request.payload = .ok ())
    (identifiers : (batch.map Submission.jobId).Nodup) : queue.Orderly batch where
  accepted := accepted
  unkeyed submission member := by
    obtain ⟨spec, same⟩ := reads.request submission member
    unfold Submission.key
    rw [same]
    rfl
  distinct := identifiers
  ordered before submission after split dependency member := by
    obtain ⟨spec, same⟩ := reads.request submission
      (split ▸ List.mem_append_right before List.mem_cons_self)
    rw [same] at member
    cases member

/-- What the aggregate sees of a child on a memory backend. -/
def MemoryQueueBackend.childStatus (store : MemoryQueueBackend) (childId : String) : JobStatus :=
  (store.status? childId).getD .failed

theorem FanOutManager.childStatuses_memory (manager : FanOutManager)
    (store : MemoryQueueBackend) :
    manager.childStatuses MemoryQueueBackend.contract parentJobId store =
      .ok ((manager.getChildren parentJobId).map store.childStatus) := by
  have shows : ∀ childId, childStatus MemoryQueueBackend.contract store childId =
      .ok (store.childStatus childId) := by
    intro childId
    show Except.ok _ = Except.ok _
    unfold MemoryQueueBackend.childStatus MemoryQueueBackend.status? MemoryQueueBackend.view
    cases store.get childId <;> rfl
  unfold childStatuses
  rw [funext shows]
  exact List.mapM_pure

/-- What two lists say of each other as far as the first reaches. -/
theorem map_eq_of_zip {α β γ : Type} {first : List α} {second : List β} {shown : α → γ}
    {wanted : β → γ} (short : first.length ≤ second.length)
    (same : ∀ entry ∈ first.zip second, shown entry.1 = wanted entry.2) :
    first.map shown = (second.take first.length).map wanted := by
  have firsts : (first.zip second).map Prod.fst = first := List.map_fst_zip short
  have seconds : (first.zip second).map Prod.snd = second.take first.length := by
    rw [← Worker.map_fst_zip, ← List.zip_swap, List.map_map]
    rfl
  calc first.map shown
      = (first.zip second).map (shown ∘ Prod.fst) := by rw [← List.map_map, firsts]
    _ = (first.zip second).map (wanted ∘ Prod.snd) := List.map_congr_left same
    _ = (second.take first.length).map wanted := by rw [← List.map_map, seconds]

/-- When the rounds go through and every waiting job is reached, each of them has the status
of the outcome of its pass. -/
theorem Worker.runForever_outcomes (worker : Worker) (maxLoops : Option Int)
    (passes : List Pass) (shared : Shared MemoryQueueBackend)
    (ready : worker.LoopReady shared passes)
    (through : worker.GoesThrough shared ((shared.store.queued none worker.queueName).zip
      (passesMade (lastPass maxLoops) 0 passes)))
    (known : ∀ job ∈ shared.store.queued none worker.queueName, job.jobType ∈ worker.handlers)
    (enough : (shared.store.queued none worker.queueName).length ≤
      (passesMade (lastPass maxLoops) 0 passes).length) :
    let waiting := shared.store.queued none worker.queueName
    let run := (worker.runForever maxLoops passes).run (Shared.exec MemoryQueueBackend.contract)
      shared
    waiting.map (fun job => run.2.store.childStatus job.jobId) =
      ((passesMade (lastPass maxLoops) 0 passes).take waiting.length).map
        worker.childOutcome := by
  intro waiting run
  obtain ⟨_, _, _, served, _⟩ := worker.runForever_drains maxLoops passes shared ready through
  refine map_eq_of_zip enough fun entry member => ?_
  obtain ⟨processed, returned⟩ := through.goesOn entry member
  have handled := known entry.1 (List.of_mem_zip member).1
  rw [← Worker.ending_status_of_goesOn handled returned]
  unfold MemoryQueueBackend.childStatus MemoryQueueBackend.status? MemoryQueueBackend.view
  rw [served entry member]
  rfl

/-- No child waits for another. -/
theorem ReadsAs.dependsOn (reads : ReadsAs builtins parentJobId children batch) :
    ∀ submission ∈ batch, submission.job.dependsOn = [] := by
  intro submission inside
  obtain ⟨spec, request⟩ := reads.request submission inside
  unfold Submission.job
  rw [request]
  rfl

end Completion

/-- **A fan-out completes.** The children of a fan-out on an empty store read as
submissions that the queue admits, under distinct identifiers, for the worker's queue
and its handlers; no round of theirs raises or sends a letter back, and the worker
makes at least as many passes as there are children. Then `create_fan_out` returns
the identifiers of the children, and after the loop the aggregate of the parent is
that of the outcomes of the first passes, one for each child. -/
theorem fan_out_completes (builtins : Builtins) (queue : JobQueue) (worker : Worker)
    (manager : FanOutManager) (parentJobId : String) (children : List FanOutChild)
    (batch : List Submission) (maxLoops : Option Int) (passes : List Pass)
    (limits : ConcurrencyLimits) (pools : Dict String Int) (keys : IdempotencyManager)
    (threshold : Option Rat) (reads : ReadsAs builtins parentJobId children batch)
    (accepted : ∀ submission ∈ batch, queue.admission submission.request.payload = .ok ())
    (identifiers : (batch.map Submission.jobId).Nodup)
    (authorised : worker.authorised = true)
    (known : ∀ submission ∈ batch, submission.request.jobType ∈ worker.handlers)
    (inQueue : ∀ submission ∈ batch,
      submission.job.matchesFilters none worker.queueName = true)
    (room : ∀ submission ∈ batch, worker.checks.hasRoom
      (⟨MemoryQueueBackend.empty, .init limits, .init pools, .empty⟩ : Shared _)
        submission.job = true)
    (goesOn : ∀ submission ∈ batch, ∀ pass ∈ passes, ∃ processed,
      (worker.ending pass.inputs submission.job).result = .ok processed)
    (apart : ∀ submission ∈ batch, ∀ pass ∈ passes, ∀ copy,
      (worker.ending pass.inputs submission.job).letter = some copy →
        copy.matchesFilters none worker.queueName = false)
    (fresh : ∀ pass ∈ passes, pass.inputs.deadLetterId ∉ batch.map Submission.jobId)
    (distinct : (passes.map fun pass => pass.inputs.deadLetterId).Nodup)
    (enough : batch.length ≤ (passesMade (lastPass maxLoops) 0 passes).length) :
    let created := manager.createFanOut builtins queue MemoryQueueBackend.contract parentJobId
      children ⟨⟨.empty, .init limits, .init pools, .empty⟩, keys⟩
    let run := (worker.runForever maxLoops passes).run (Shared.exec MemoryQueueBackend.contract)
      created.2.2.shared
    created.1 = .ok (batch.map Submission.jobId) ∧
      created.2.1.aggregateParentStatus MemoryQueueBackend.contract parentJobId threshold
          run.2.store =
        .ok (aggregateChildStatuses (((passesMade (lastPass maxLoops) 0 passes).take
          batch.length).map worker.childOutcome) threshold) := by
  intro created run
  have orderly := reads.orderly accepted identifiers
  have nothing : Submitted
      (⟨MemoryQueueBackend.empty, .init limits, .init pools, .empty⟩ : Shared _) []
      (⟨⟨.empty, .init limits, .init pools, .empty⟩, keys⟩ : QueueState _).shared :=
    .nothing rfl fun _ => rfl
  obtain ⟨last, looped, whole⟩ :=
    FanOutManager.submitChildren_of_orderly reads orderly nothing
  rw [List.nil_append] at whole
  have returned : created = (.ok (batch.map Submission.jobId),
      ⟨manager.childrenByParent.set parentJobId (batch.map Submission.jobId)⟩, last) := by
    show manager.createFanOut _ _ _ _ _ _ = _
    unfold FanOutManager.createFanOut
    rw [looped]
  have ran : run = (worker.runForever maxLoops passes).run
      (Shared.exec MemoryQueueBackend.contract) last.shared := by
    show (worker.runForever maxLoops passes).run _ created.2.2.shared = _
    rw [returned]
  have line := whole.queued inQueue
  have ready : worker.LoopReady last.shared passes := whole.loopReady fresh distinct
  have through : worker.GoesThrough last.shared ((last.shared.store.queued none
      worker.queueName).zip (passesMade (lastPass maxLoops) 0 passes)) := by
    refine whole.goesThrough authorised inQueue room ?_ ?_ ?_
    · intro submission inside pass inMade
      exact goesOn submission inside pass (mem_of_mem_passesMade inMade)
    · intro submission inside pass inMade
      exact apart submission inside pass (mem_of_mem_passesMade inMade)
    · intro before entry after split depends
      have member := split ▸ List.mem_append_right before List.mem_cons_self
      obtain ⟨submission, inside, same⟩ := whole.placed inQueue (List.of_mem_zip member).1
      exact absurd (same ▸ reads.dependsOn submission inside) depends
  have handled : ∀ job ∈ last.shared.store.queued none worker.queueName,
      job.jobType ∈ worker.handlers := by
    intro job inLine
    obtain ⟨submission, inside, rfl⟩ := whole.placed inQueue inLine
    exact known submission inside
  have length : (last.shared.store.queued none worker.queueName).length = batch.length := by
    rw [line, List.length_insertionSort, List.length_map]
  have outcomes := worker.runForever_outcomes maxLoops passes last.shared ready through handled
    (length ▸ enough)
  dsimp only at outcomes
  rw [← ran, length] at outcomes
  have recorded : created.2.1.getChildren parentJobId = batch.map Submission.jobId := by
    rw [returned]
    exact (Dict.getD_set ..).trans (if_pos rfl)
  -- the children are listed in the order of the fan-out and served in dispatch order
  have perm : ((batch.map Submission.jobId).map run.2.store.childStatus).Perm
      (((passesMade (lastPass maxLoops) 0 passes).take batch.length).map
        worker.childOutcome) := by
    rw [← outcomes, line, List.map_map]
    have sorted := (List.perm_insertionSort Job.DispatchLe (batch.map Submission.job)).map
      fun job => run.2.store.childStatus job.jobId
    rw [List.map_map] at sorted
    exact sorted.symm
  refine ⟨congrArg Prod.fst returned, ?_⟩
  unfold FanOutManager.aggregateParentStatus
  rw [FanOutManager.childStatuses_memory, recorded]
  exact congrArg Except.ok (aggregateChildStatuses_perm perm threshold)

section Sample

/-- Two children of one parent; the second is dispatched first. -/
def twoChildren : List FanOutChild :=
  [⟨.fields (Dict.empty.set "job_type" (.str "task")), "left", 0⟩,
    ⟨.typed { jobType := "task", payload := ∅, priority := 1 }, "right", 1⟩]

def twoSubmissions : List Submission :=
  [⟨ChildJobSpec.request { jobType := "task", payload := ∅ } "parent", "left", 0⟩,
    ⟨ChildJobSpec.request { jobType := "task", payload := ∅, priority := 1 } "parent", "right", 1⟩]

/-- A worker that ignores failures. -/
def lenientWorker : Worker where
  handlers := ["task"]
  fallbackPolicies := some ⟨Dict.empty.set "task" { action := .ignore }⟩

/-- The first handler raises, the second returns. -/
def unevenPasses : List Pass :=
  [⟨{ handler := .error (.valueError "broken"), deadLetterId := "x" }, false⟩,
    ⟨{ deadLetterId := "y" }, false⟩]

/-- One child of two failed, so the parent has failed. -/
theorem uneven_fan_out_fails :
    let created := (⟨∅⟩ : FanOutManager).createFanOut plainBuiltins trackingQueue
      MemoryQueueBackend.contract "parent" twoChildren
      ⟨⟨.empty, .init {}, .init ∅, .empty⟩, {}⟩
    let run := (lenientWorker.runForever (some 2) unevenPasses).run
      (Shared.exec MemoryQueueBackend.contract) created.2.2.shared
    created.1 = .ok ["left", "right"] ∧
      created.2.1.aggregateParentStatus MemoryQueueBackend.contract "parent" none run.2.store =
        .ok .failed := by
  refine fan_out_completes plainBuiltins trackingQueue lenientWorker ⟨∅⟩ "parent" twoChildren
    twoSubmissions (some 2) unevenPasses {} ∅ {} none ?_ (fun _ _ => rfl) (by decide) rfl ?_ ?_
    (fun _ _ => rfl) ?_ ?_ ?_ (by decide) (by decide)
  · refine .cons ⟨{ jobType := "task", payload := ∅ }, rfl, rfl⟩
      (.cons ⟨_, rfl, rfl⟩ .nil)
  · intro submission member
    rcases List.mem_pair.mp member with rfl | rfl <;> exact List.mem_singleton.mpr rfl
  · intro submission member
    rcases List.mem_pair.mp member with rfl | rfl <;> rfl
  · intro submission member pass passing
    rcases List.mem_pair.mp member with rfl | rfl <;>
      rcases List.mem_pair.mp passing with rfl | rfl <;> exact ⟨true, rfl⟩
  · intro submission member pass passing copy sent
    rcases List.mem_pair.mp member with rfl | rfl <;>
      rcases List.mem_pair.mp passing with rfl | rfl <;> cases sent
  · intro pass passing
    rcases List.mem_pair.mp passing with rfl | rfl <;> decide

end Sample

end CloudDogJobs
