import CloudDogJobs.Scheduler.Dependency

/-!
# Deadlock guard

`broker/deadlock.py`: a wait-for graph whose edges are checked one at a time. A
Python set of job ids is a list without repetition here; its iteration order is
not specified, and no result below depends on it, since the search answers
reachability. Each method holds the guard's lock for its whole body.

The same question is asked by `DependencyTracker.detectCycle`, for a list of
edges at once and on the graph without them; `cycle_checkers_agree` relates the
two.
-/

namespace CloudDogJobs

open Foundation

/-- The wait-for graph: a job and the jobs it waits for. -/
structure DeadlockGuard where
  graph : Dict String (List String)

namespace DeadlockGuard

/-- A guard with no edges. -/
def empty : DeadlockGuard := ⟨∅⟩

/-- `set.add`. -/
def addMember (members : List String) (member : String) : List String :=
  if member ∈ members then members else members ++ [member]

/-- `set.discard`. -/
def discard (member : String) (members : List String) : List String :=
  members.filter fun other => other ≠ member

/-- Whether adding `fromId → toId` creates a cycle. -/
def wouldCycle (guard : DeadlockGuard) (fromId toId : String) : Bool :=
  if fromId = toId then true else Graph.search guard.graph fromId [] [toId]

/-- Register that a job waits for another one, unless that closes a cycle. -/
def addDependency (guard : DeadlockGuard) (jobId dependsOn : String) : Bool × DeadlockGuard :=
  if guard.wouldCycle jobId dependsOn then (false, guard)
  else (true, ⟨guard.graph.set jobId (addMember (guard.graph.getD jobId []) dependsOn)⟩)

/-- Remove a finished job: its own entry, and its id in the entries of others. -/
def removeJob (guard : DeadlockGuard) (jobId : String) : DeadlockGuard :=
  ⟨(guard.graph.erase jobId).mapValues (discard jobId)⟩

/-- The jobs that wait for some job, in the order of their entries. -/
def getBlockedJobs (guard : DeadlockGuard) : List String :=
  (guard.graph.entries.filter fun entry => !entry.2.isEmpty).map Prod.fst

def getDependencies (guard : DeadlockGuard) (jobId : String) : List String :=
  guard.graph.getD jobId []

/-- The hook for priority inversion: the waiter waits for the holder. -/
def yieldTo (guard : DeadlockGuard) (holderId waiterId : String) : Bool × DeadlockGuard :=
  guard.addDependency waiterId holderId

/-! ## One call -/

theorem mem_addMember (members : List String) (member other : String) :
    other ∈ addMember members member ↔ other ∈ members ∨ other = member := by
  unfold addMember
  split
  · next inside =>
      refine ⟨Or.inl, ?_⟩
      intro either
      rcases either with inside | rfl
      · exact inside
      · exact inside
  · simp

theorem wouldCycle_iff (guard : DeadlockGuard) (fromId toId : String) :
    guard.wouldCycle fromId toId = true ↔ Graph.Reaches guard.graph toId fromId := by
  unfold wouldCycle
  split
  · next same =>
      subst same
      exact iff_of_true rfl .refl
  · rw [Graph.search_eq_true_iff]
    simp

/-- The answer of `add_dependency`, by reachability in the graph before it. -/
theorem addDependency_answer (guard : DeadlockGuard) (jobId dependsOn : String) :
    (guard.addDependency jobId dependsOn).1 = true ↔
      ¬ Graph.Reaches guard.graph dependsOn jobId := by
  rw [← guard.wouldCycle_iff]
  unfold addDependency
  split
  · next cyclic => simp [cyclic]
  · next clear => simp [clear]

theorem addDependency_refused (guard : DeadlockGuard) (jobId dependsOn : String)
    (refused : (guard.addDependency jobId dependsOn).1 = false) :
    (guard.addDependency jobId dependsOn).2 = guard := by
  unfold addDependency at *
  split at refused
  · next cyclic => rw [if_pos cyclic]
  · cases refused

theorem addDependency_accepted (guard : DeadlockGuard) (jobId dependsOn : String)
    (accepted : (guard.addDependency jobId dependsOn).1 = true) :
    (guard.addDependency jobId dependsOn).2.graph =
      guard.graph.set jobId (addMember (guard.graph.getD jobId []) dependsOn) := by
  unfold addDependency at *
  split at accepted
  · cases accepted
  · next clear => rw [if_neg clear]

/-- An accepted edge closes no cycle: an old successor of the job does not reach
it since the graph was acyclic, the new one because the check says so. -/
theorem addDependency_acyclic (guard : DeadlockGuard) (jobId dependsOn : String)
    (acyclic : Graph.Acyclic guard.graph) :
    Graph.Acyclic (guard.addDependency jobId dependsOn).2.graph := by
  cases answer : (guard.addDependency jobId dependsOn).1 with
  | false =>
      rw [guard.addDependency_refused jobId dependsOn answer]
      exact acyclic
  | true =>
      rw [guard.addDependency_accepted jobId dependsOn answer]
      apply acyclic.set
      intro target member path
      rcases (mem_addMember _ _ _).mp member with old | rfl
      · exact acyclic jobId (.head' old path)
      · exact (guard.addDependency_answer jobId target).mp answer path

theorem edge_removeJob {guard : DeadlockGuard} {jobId source target : String}
    (edge : Graph.Edge (guard.removeJob jobId).graph source target) :
    Graph.Edge guard.graph source target := by
  apply Graph.edge_of_edge_erase jobId
  unfold Graph.Edge Graph.successors Dict.getD at *
  unfold removeJob at edge
  rw [Dict.get?_mapValues] at edge
  cases found : (guard.graph.erase jobId).get? source with
  | none =>
      rw [found] at edge
      cases edge
  | some members =>
      rw [found] at edge
      exact (List.mem_filter.mp edge).1

theorem removeJob_acyclic (guard : DeadlockGuard) (jobId : String)
    (acyclic : Graph.Acyclic guard.graph) : Graph.Acyclic (guard.removeJob jobId).graph :=
  acyclic.mono fun _ _ edge => edge_removeJob edge

theorem mem_getBlockedJobs (guard : DeadlockGuard) (jobId : String) :
    jobId ∈ guard.getBlockedJobs ↔ guard.getDependencies jobId ≠ [] := by
  unfold getBlockedJobs getDependencies Dict.getD
  rw [List.mem_map]
  constructor
  · intro listed
    obtain ⟨⟨key, members⟩, kept, rfl⟩ := listed
    obtain ⟨entry, waiting⟩ := List.mem_filter.mp kept
    rw [(guard.graph.mem_entries_iff key members).mp entry]
    simpa using waiting
  · intro waiting
    cases found : guard.graph.get? jobId with
    | none =>
        rw [found] at waiting
        exact absurd rfl waiting
    | some members =>
        rw [found] at waiting
        refine ⟨(jobId, members), List.mem_filter.mpr ⟨?_, ?_⟩, rfl⟩
        · exact (guard.graph.mem_entries_iff jobId members).mpr found
        · simpa using waiting

/-- In an acyclic wait-for graph some blocked job waits only for jobs that are
free to run. -/
theorem exists_frontier (guard : DeadlockGuard) (acyclic : Graph.Acyclic guard.graph)
    (blocked : guard.getBlockedJobs ≠ []) :
    ∃ jobId ∈ guard.getBlockedJobs,
      ∀ dependency ∈ guard.getDependencies jobId, dependency ∉ guard.getBlockedJobs := by
  obtain ⟨last, member, least⟩ := acyclic.exists_last guard.getBlockedJobs blocked
  refine ⟨last, member, ?_⟩
  intro dependency waits inside
  exact least dependency inside waits

/-! ## Whole runs -/

/-- A call that changes the guard. -/
inductive Call
  | addDependency (jobId dependsOn : String)
  | yieldTo (holderId waiterId : String)
  | removeJob (jobId : String)

/-- The guard after a call. -/
def perform (guard : DeadlockGuard) : Call → DeadlockGuard
  | .addDependency jobId dependsOn => (guard.addDependency jobId dependsOn).2
  | .yieldTo holderId waiterId => (guard.yieldTo holderId waiterId).2
  | .removeJob jobId => guard.removeJob jobId

theorem perform_acyclic (guard : DeadlockGuard) (call : Call)
    (acyclic : Graph.Acyclic guard.graph) : Graph.Acyclic (guard.perform call).graph := by
  cases call with
  | addDependency jobId dependsOn => exact guard.addDependency_acyclic jobId dependsOn acyclic
  | yieldTo holderId waiterId => exact guard.addDependency_acyclic waiterId holderId acyclic
  | removeJob jobId => exact guard.removeJob_acyclic jobId acyclic

theorem foldl_perform_acyclic (calls : List Call) (guard : DeadlockGuard)
    (acyclic : Graph.Acyclic guard.graph) :
    Graph.Acyclic (calls.foldl perform guard).graph := by
  induction calls generalizing guard with
  | nil => exact acyclic
  | cons call rest ih => exact ih _ (guard.perform_acyclic call acyclic)

/-- **No deadlock is admitted.** In every state reached from the empty guard no
job waits for itself along one or more edges; an edge is refused exactly when
its ends are equal or the awaited job already waits for the waiting one, and a
refusal changes nothing; and when some job is blocked, one of the blocked jobs
waits only for jobs that are not. -/
theorem wait_for_graph_stays_deadlock_free (calls : List Call) :
    (∀ jobId, ¬ Relation.TransGen (Graph.Edge (calls.foldl perform empty).graph) jobId jobId) ∧
      (∀ jobId dependsOn,
        (((calls.foldl perform empty).addDependency jobId dependsOn).1 = false ↔
          jobId = dependsOn ∨
            Relation.TransGen (Graph.Edge (calls.foldl perform empty).graph) dependsOn jobId) ∧
        (((calls.foldl perform empty).addDependency jobId dependsOn).1 = false →
          ((calls.foldl perform empty).addDependency jobId dependsOn).2 =
            calls.foldl perform empty)) ∧
      ((calls.foldl perform empty).getBlockedJobs ≠ [] →
        ∃ jobId ∈ (calls.foldl perform empty).getBlockedJobs,
          ∀ dependency ∈ (calls.foldl perform empty).getDependencies jobId,
            dependency ∉ (calls.foldl perform empty).getBlockedJobs) := by
  have acyclic := foldl_perform_acyclic calls empty Graph.acyclic_empty
  refine ⟨acyclic, ?_, exists_frontier _ acyclic⟩
  intro jobId dependsOn
  refine ⟨?_, addDependency_refused _ jobId dependsOn⟩
  rw [← Bool.not_eq_true, addDependency_answer, not_not]
  unfold Graph.Reaches
  rw [Relation.reflTransGen_iff_eq_or_transGen]

/-- The guard after `a` starts to wait for `b`. -/
def waitingPair : DeadlockGuard := [.addDependency "a" "b"].foldl perform empty

theorem waitingPair_dependencies : waitingPair.getDependencies "a" = ["b"] := by
  have accepted : (empty.addDependency "a" "b").1 = true := by
    simp [addDependency, wouldCycle, empty, Graph.search, Graph.successors, Dict.getD]
  have waits : waitingPair.graph =
      empty.graph.set "a" (addMember (empty.graph.getD "a" []) "b") :=
    empty.addDependency_accepted "a" "b" accepted
  rw [getDependencies, waits]
  rfl

/-- Making `b` wait for `a` as well is refused and changes nothing, and `a` is a
blocked job that waits only for free ones. -/
theorem waiting_pair_refuses_deadlock :
    waitingPair.addDependency "b" "a" = (false, waitingPair) ∧
      ∃ jobId ∈ waitingPair.getBlockedJobs,
        ∀ dependency ∈ waitingPair.getDependencies jobId,
          dependency ∉ waitingPair.getBlockedJobs := by
  obtain ⟨_, refusals, progress⟩ :=
    wait_for_graph_stays_deadlock_free [.addDependency "a" "b"]
  have waits : "b" ∈ waitingPair.getDependencies "a" := by
    rw [waitingPair_dependencies]
    exact List.mem_singleton_self "b"
  have refused := (refusals "b" "a").1.mpr (.inr (.single waits))
  refine ⟨Prod.ext refused ((refusals "b" "a").2 refused), progress ?_⟩
  have blocked : "a" ∈ waitingPair.getBlockedJobs :=
    (mem_getBlockedJobs _ _).mpr (List.ne_nil_of_mem waits)
  exact List.ne_nil_of_mem blocked

/-! ## The two cycle checkers -/

/-- A guard over a given relation, cyclic or not. -/
def load (graph : Dict String (List String)) : DeadlockGuard := ⟨graph.mapValues List.dedup⟩

/-- Add the edges of a job one at a time; the answers, in order. -/
def addDependencies (guard : DeadlockGuard) (jobId : String) :
    List String → List Bool × DeadlockGuard
  | [] => ([], guard)
  | dependsOn :: rest =>
      let (answer, next) := guard.addDependency jobId dependsOn
      let (answers, last) := next.addDependencies jobId rest
      (answer :: answers, last)

/-- The search for a job never gets past that job, so an edge that leaves it
makes no difference. -/
theorem reaches_addDependency (guard : DeadlockGuard) (jobId dependsOn source : String) :
    Graph.Reaches (guard.addDependency jobId dependsOn).2.graph source jobId ↔
      Graph.Reaches guard.graph source jobId := by
  cases answer : (guard.addDependency jobId dependsOn).1 with
  | false => rw [guard.addDependency_refused jobId dependsOn answer]
  | true =>
      rw [guard.addDependency_accepted jobId dependsOn answer]
      refine ⟨Graph.reaches_of_reaches_set, Graph.reaches_set_of_subset ?_⟩
      intro other edge
      exact (mem_addMember _ _ _).mpr (.inl edge)

/-- Each answer is the one the first guard would have given. -/
theorem addDependencies_answers (guard : DeadlockGuard) (jobId : String)
    (dependsOn : List String) :
    (guard.addDependencies jobId dependsOn).1 =
      dependsOn.map fun dependency => (guard.addDependency jobId dependency).1 := by
  induction dependsOn generalizing guard with
  | nil => rfl
  | cons first rest ih =>
      simp only [addDependencies, List.map_cons, ih]
      congr 1
      apply List.map_congr_left
      intro dependency _
      rw [Bool.eq_iff_iff, addDependency_answer, addDependency_answer, reaches_addDependency]

theorem reaches_load (graph : Dict String (List String)) (source target : String) :
    Graph.Reaches (load graph).graph source target ↔ Graph.Reaches graph source target := by
  have same : Graph.Edge (load graph).graph = Graph.Edge graph := by
    funext first second
    simp only [Graph.Edge, Graph.successors, Dict.getD, load, Dict.get?_mapValues]
    cases graph.get? first with
    | none => rfl
    | some members => exact propext List.mem_dedup
  unfold Graph.Reaches
  rw [same]

theorem load_accepts_iff (graph : Dict String (List String)) (jobId : String)
    (dependsOn : List String) :
    ((load graph).addDependencies jobId dependsOn).1.all id = true ↔
      ∀ dependency ∈ dependsOn, ¬ Graph.Reaches graph dependency jobId := by
  rw [addDependencies_answers, List.all_map, List.all_eq_true]
  simp only [Function.comp_apply, id_eq, addDependency_answer, reaches_load]

/-- **The two cycle checkers agree.** On every relation, adding the edges of a
job one at a time to a deadlock guard succeeds throughout exactly when the
dependency tracker finds no cycle in the whole list; so neither the order of the
dependencies nor their repetition matters to either. -/
theorem cycle_checkers_agree (graph : Dict String (List String)) (jobId : String)
    (dependsOn : List String) :
    (((load graph).addDependencies jobId dependsOn).1.all id = true ↔
        (⟨graph⟩ : DependencyTracker).detectCycle jobId dependsOn = false) ∧
      ∀ reordered : List String, (∀ dependency, dependency ∈ reordered ↔ dependency ∈ dependsOn) →
        ((load graph).addDependencies jobId reordered).1.all id =
            ((load graph).addDependencies jobId dependsOn).1.all id ∧
          (⟨graph⟩ : DependencyTracker).detectCycle jobId reordered =
            (⟨graph⟩ : DependencyTracker).detectCycle jobId dependsOn := by
  refine ⟨?_, ?_⟩
  · rw [load_accepts_iff, ← Bool.not_eq_true, DependencyTracker.detectCycle_iff]
    push Not
    exact Iff.rfl
  · intro reordered same
    refine ⟨?_, ?_⟩
    · rw [Bool.eq_iff_iff, load_accepts_iff, load_accepts_iff]
      simp only [same]
    · rw [Bool.eq_iff_iff, DependencyTracker.detectCycle_iff, DependencyTracker.detectCycle_iff]
      simp only [same]

/-- On the relation where `b` waits for `a`, the list `b, c` and its reordering
with a repetition get the same verdict from each checker. -/
theorem repeated_dependency_same_verdict :
    ((load (Dict.ofList [("b", ["a"])])).addDependencies "a" ["c", "b", "c"]).1.all id =
        ((load (Dict.ofList [("b", ["a"])])).addDependencies "a" ["b", "c"]).1.all id ∧
      (⟨Dict.ofList [("b", ["a"])]⟩ : DependencyTracker).detectCycle "a" ["c", "b", "c"] =
        (⟨Dict.ofList [("b", ["a"])]⟩ : DependencyTracker).detectCycle "a" ["b", "c"] := by
  apply (cycle_checkers_agree (Dict.ofList [("b", ["a"])]) "a" ["b", "c"]).2
  intro dependency
  simp only [List.mem_cons, List.not_mem_nil, or_false]
  exact ⟨fun either => by tauto, fun either => by tauto⟩

end DeadlockGuard

end CloudDogJobs
