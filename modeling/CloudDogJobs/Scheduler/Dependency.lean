import CloudDogJobs.Domain.Model
import CloudDogJobs.Foundation.Search

/-!
# Dependency tracker

`scheduler/dependency.py`: the in-process map from a job to the jobs it depends
on, with the cycle check of submission time. Each method holds the tracker's
lock for its whole body, so each is one atomic step.
-/

namespace CloudDogJobs

open Foundation

/-- Dependency edges, from a job to the jobs it waits for. -/
structure DependencyTracker where
  edges : Dict String (List String)

namespace DependencyTracker

/-- A tracker with no edges. -/
def empty : DependencyTracker := ⟨∅⟩

/-- Record edges without a check; an empty list leaves the old ones. -/
def register (tracker : DependencyTracker) (jobId : String) (dependsOn : List String) :
    DependencyTracker :=
  if dependsOn.isEmpty then tracker else ⟨tracker.edges.set jobId dependsOn⟩

def unregister (tracker : DependencyTracker) (jobId : String) : DependencyTracker :=
  ⟨tracker.edges.erase jobId⟩

/-- Whether adding `jobId → dependsOn` would create a cycle. The last listed
dependency is popped first. -/
def detectCycle (tracker : DependencyTracker) (jobId : String) (dependsOn : List String) : Bool :=
  if dependsOn.isEmpty then false
  else Graph.search tracker.edges jobId [] dependsOn.reverse

/-- Detect a cycle and register in one atomic operation. -/
def validateAndRegister (tracker : DependencyTracker) (jobId : String)
    (dependsOn : List String) : Except PyError Unit × DependencyTracker :=
  if dependsOn.isEmpty then (.ok (), tracker)
  else if tracker.detectCycle jobId dependsOn then
    (.error (.dependencyCycleError jobId dependsOn), tracker)
  else (.ok (), ⟨tracker.edges.set jobId dependsOn⟩)

def getDependencies (tracker : DependencyTracker) (jobId : String) : List String :=
  tracker.edges.getD jobId []

/-- Whether all dependencies of the job have succeeded. -/
def isRunnable (tracker : DependencyTracker) (jobId : String)
    (statusGetter : String → Option JobStatus) : Bool :=
  (tracker.getDependencies jobId).all fun dependency => statusGetter dependency = some .succeeded

/-- `_DEP_FAILED_STATES` -/
def depFailedStates : List JobStatus := [.failed, .cancelled, .timeout, .ttlExpired, .deadLettered]

/-- Whether a dependency has terminally failed, and those that have. -/
def hasFailedDependency (tracker : DependencyTracker) (jobId : String)
    (statusGetter : String → Option JobStatus) : Bool × List String :=
  let failed := (tracker.getDependencies jobId).filter fun dependency =>
    (statusGetter dependency).any fun status => status ∈ depFailedStates
  (!failed.isEmpty, failed)

/-- The cycle check is exact: it fires when some listed dependency is the job
itself or reaches it along the registered edges. -/
theorem detectCycle_iff (tracker : DependencyTracker) (jobId : String)
    (dependsOn : List String) :
    tracker.detectCycle jobId dependsOn = true ↔
      ∃ dependency ∈ dependsOn, Graph.Reaches tracker.edges dependency jobId := by
  unfold detectCycle
  cases dependsOn with
  | nil => simp
  | cons first rest =>
      rw [List.isEmpty_cons, if_neg (by simp), Graph.search_eq_true_iff]
      simp only [List.mem_reverse]

/-- A registration that returns leaves no cycle behind, one that raises leaves
the edges alone. -/
theorem validateAndRegister_acyclic (tracker : DependencyTracker) (jobId : String)
    (dependsOn : List String) (acyclic : Graph.Acyclic tracker.edges) :
    Graph.Acyclic (tracker.validateAndRegister jobId dependsOn).2.edges := by
  unfold validateAndRegister
  split
  · exact acyclic
  · split
    · exact acyclic
    · next clear =>
        apply acyclic.set
        intro dependency member path
        exact clear ((tracker.detectCycle_iff jobId dependsOn).mpr ⟨dependency, member, path⟩)

theorem validateAndRegister_error (tracker : DependencyTracker) (jobId : String)
    (dependsOn : List String) {error : PyError}
    (raises : (tracker.validateAndRegister jobId dependsOn).1 = .error error) :
    (tracker.validateAndRegister jobId dependsOn).2 = tracker := by
  unfold validateAndRegister at *
  split at raises
  · cases raises
  · split at raises
    · next filled cyclic => rw [if_neg filled, if_pos cyclic]
    · cases raises

theorem validateAndRegister_of_clear (tracker : DependencyTracker) (jobId : String)
    {dependsOn : List String} (filled : dependsOn ≠ [])
    (clear : tracker.detectCycle jobId dependsOn = false) :
    tracker.validateAndRegister jobId dependsOn =
      (.ok (), ⟨tracker.edges.set jobId dependsOn⟩) := by
  simp [validateAndRegister, filled, clear]

theorem validateAndRegister_of_cycle (tracker : DependencyTracker) (jobId : String)
    {dependsOn : List String} (filled : dependsOn ≠ [])
    (cyclic : tracker.detectCycle jobId dependsOn = true) :
    tracker.validateAndRegister jobId dependsOn =
      (.error (.dependencyCycleError jobId dependsOn), tracker) := by
  simp [validateAndRegister, filled, cyclic]

/-- A cycle found is one that the registration would close. -/
theorem transGen_of_detectCycle {tracker : DependencyTracker} {jobId : String}
    {dependsOn : List String} (cyclic : tracker.detectCycle jobId dependsOn = true) :
    Relation.TransGen (Graph.Edge (tracker.register jobId dependsOn).edges) jobId jobId := by
  obtain ⟨dependency, member, path⟩ := (tracker.detectCycle_iff jobId dependsOn).mp cyclic
  have filled : dependsOn.isEmpty = false := by
    cases dependsOn with
    | nil => cases member
    | cons first rest => rfl
  rw [register, filled, if_neg (by simp)]
  have edge : Graph.Edge (tracker.edges.set jobId dependsOn) jobId dependency := by
    rw [Graph.edge_set, if_pos rfl]
    exact member
  exact Relation.TransGen.head' edge (Graph.reaches_set_of_reaches dependsOn path)

/-- **The cycle check is exact on every graph.** Whatever the registered edges, cyclic
or not, the loop of the check ends within as many rounds as there are listed
dependencies and edges and one more, and answers whether some listed dependency is
the job itself or reaches it along the edges. A submission that closes no cycle
through the job is accepted. -/
theorem cycle_detection_is_exact (tracker : DependencyTracker) (jobId : String)
    (dependsOn : List String) :
    (∀ rounds, dependsOn.length + Graph.pushable tracker.edges [] < rounds →
      Graph.searchWithin tracker.edges jobId rounds [] dependsOn.reverse =
        some (tracker.detectCycle jobId dependsOn)) ∧
      (tracker.detectCycle jobId dependsOn = true ↔
        ∃ dependency ∈ dependsOn, dependency = jobId ∨
          Relation.TransGen (Graph.Edge tracker.edges) dependency jobId) ∧
      (¬ Relation.TransGen (Graph.Edge (tracker.register jobId dependsOn).edges) jobId jobId →
        (tracker.validateAndRegister jobId dependsOn).1 = .ok ()) := by
  refine ⟨?_, ?_, ?_⟩
  · intro rounds enough
    have looped : tracker.detectCycle jobId dependsOn =
        Graph.search tracker.edges jobId [] dependsOn.reverse := by
      cases dependsOn with
      | nil => simp [detectCycle, Graph.search]
      | cons first rest => rfl
    rw [looped]
    apply Graph.searchWithin_eq_some
    rwa [List.length_reverse]
  · rw [detectCycle_iff]
    simp only [Graph.Reaches, Relation.reflTransGen_iff_eq_or_transGen, eq_comm (a := jobId)]
  · intro closed
    have clear : tracker.detectCycle jobId dependsOn = false :=
      Bool.not_eq_true _ ▸ fun cyclic => closed (transGen_of_detectCycle cyclic)
    by_cases filled : dependsOn = []
    · rw [filled, validateAndRegister]
      rfl
    · rw [tracker.validateAndRegister_of_clear jobId filled clear]

/-- With `a` and `b` waiting for each other, a job that waits for `a` twice is accepted. -/
theorem submission_beside_a_cycle_accepted :
    (((empty.register "a" ["b"]).register "b" ["a"]).validateAndRegister "c" ["a", "a"]).1 =
      .ok () := by
  apply (cycle_detection_is_exact ((empty.register "a" ["b"]).register "b" ["a"]) "c"
    ["a", "a"]).2.2
  intro cycle
  -- no edge leads to the new job
  obtain ⟨source, _, edge⟩ := Relation.TransGen.tail'_iff.mp cycle
  simp only [register, List.isEmpty_cons, Bool.false_eq_true, ↓reduceIte, Graph.edge_set] at edge
  split at edge
  · simp at edge
  · split at edge
    · simp at edge
    · split at edge
      · simp at edge
      · cases edge

/-- A call on the tracker. -/
inductive Call
  | validateAndRegister (jobId : String) (dependsOn : List String)
  | unregister (jobId : String)

/-- The effect of a call, raising or not. -/
def perform (tracker : DependencyTracker) : Call → DependencyTracker
  | .validateAndRegister jobId dependsOn => (tracker.validateAndRegister jobId dependsOn).2
  | .unregister jobId => tracker.unregister jobId

theorem perform_acyclic (tracker : DependencyTracker) (call : Call)
    (acyclic : Graph.Acyclic tracker.edges) : Graph.Acyclic (tracker.perform call).edges := by
  cases call with
  | validateAndRegister jobId dependsOn =>
      exact tracker.validateAndRegister_acyclic jobId dependsOn acyclic
  | unregister jobId => exact acyclic.erase jobId

theorem foldl_perform_acyclic (calls : List Call) (tracker : DependencyTracker)
    (acyclic : Graph.Acyclic tracker.edges) :
    Graph.Acyclic (calls.foldl perform tracker).edges := by
  induction calls generalizing tracker with
  | nil => exact acyclic
  | cons call rest ih => exact ih _ (tracker.perform_acyclic call acyclic)

/-- **The dependency graph stays acyclic.** After any sequence of registrations
and removals from an empty tracker, no job reaches itself, and a registration
that raises in the state reached leaves the edges unchanged. -/
theorem dependency_graph_stays_acyclic (calls : List Call) :
    (∀ jobId, ¬ Relation.TransGen (Graph.Edge (calls.foldl perform empty).edges) jobId jobId) ∧
      ∀ jobId dependsOn error,
        ((calls.foldl perform empty).validateAndRegister jobId dependsOn).1 = .error error →
          ((calls.foldl perform empty).validateAndRegister jobId dependsOn).2.edges =
            (calls.foldl perform empty).edges := by
  refine ⟨foldl_perform_acyclic calls empty Graph.acyclic_empty, ?_⟩
  intro jobId dependsOn error raises
  rw [validateAndRegister_error _ jobId dependsOn raises]

/-- After `a` waits for `b`, making `b` wait for `a` raises and changes nothing. -/
theorem circular_registration_refused :
    ((([.validateAndRegister "a" ["b"]] : List Call).foldl perform empty).validateAndRegister
        "b" ["a"]).2.edges =
      (([.validateAndRegister "a" ["b"]] : List Call).foldl perform empty).edges := by
  have clear : empty.detectCycle "a" ["b"] = false := by
    simp [detectCycle, empty, Graph.search, Graph.successors, Dict.getD]
  have registered : ([.validateAndRegister "a" ["b"]] : List Call).foldl perform empty =
      ⟨empty.edges.set "a" ["b"]⟩ :=
    congrArg Prod.snd (empty.validateAndRegister_of_clear "a" (by simp) clear)
  have cyclic : (⟨empty.edges.set "a" ["b"]⟩ : DependencyTracker).detectCycle "b" ["a"] = true := by
    simp [detectCycle, empty, Graph.search, Graph.successors, Dict.getD]
  apply (dependency_graph_stays_acyclic [.validateAndRegister "a" ["b"]]).2 "b" ["a"]
    (.dependencyCycleError "b" ["a"])
  rw [registered]
  simp [validateAndRegister, cyclic]

end DependencyTracker

end CloudDogJobs
