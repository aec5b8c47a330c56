import Mathlib.Algebra.Order.Ring.Int
import Mathlib.Logic.Relation
import Mathlib.Data.Fintype.Order
import Mathlib.Data.Set.Finite.List
import CloudDogJobs.Foundation.Dict

/-!
# Depth-first search in a finite graph

A graph is a dictionary from nodes to successor lists; a node without an entry
has no successors. `search` is the usual loop with a stack and a set of visited
nodes. It decides whether the target is reachable from the stack
(`search_eq_true_iff`) on every graph, cyclic or not, with repeated successors
or without.

`Acyclic.set` is the path argument behind incremental cycle checks: replacing
the successors of one node closes no cycle when none of the new successors
reaches that node in the old graph.
-/

namespace Foundation

variable {α : Type} [DecidableEq α]

namespace Graph

/-- The successors of a node. -/
def successors (graph : Dict α (List α)) (node : α) : List α := graph.getD node []

/-- One edge of the graph. -/
def Edge (graph : Dict α (List α)) (source target : α) : Prop :=
  target ∈ successors graph source

/-- Reachability along zero or more edges. -/
def Reaches (graph : Dict α (List α)) : α → α → Prop := Relation.ReflTransGen (Edge graph)

/-- No node reaches itself through one or more edges. -/
def Acyclic (graph : Dict α (List α)) : Prop :=
  ∀ node, ¬ Relation.TransGen (Edge graph) node node

/-- The nodes with an entry that are not visited yet. -/
def unvisited (graph : Dict α (List α)) (visited : List α) : List α :=
  graph.keys.filter fun node => node ∉ visited

theorem unvisited_cons (graph : Dict α (List α)) (visited : List α) (node : α) :
    unvisited graph (node :: visited) =
      (unvisited graph visited).filter fun other => other ≠ node := by
  unfold unvisited
  rw [List.filter_filter]
  congr 1
  funext other
  simp [not_or]

theorem successors_of_not_mem {graph : Dict α (List α)} {node : α} (absent : node ∉ graph.keys) :
    successors graph node = [] := by
  have missing : graph.get? node = none := by
    simpa [Dict.mem_keys_iff] using absent
  simp [successors, Dict.getD, missing]

theorem unvisited_cons_length (graph : Dict α (List α)) (visited : List α) (node : α)
    (fresh : node ∉ visited) :
    (node ∈ graph.keys ∧
        (unvisited graph (node :: visited)).length < (unvisited graph visited).length) ∨
      (successors graph node = [] ∧
        (unvisited graph (node :: visited)).length = (unvisited graph visited).length) := by
  rw [unvisited_cons]
  by_cases present : node ∈ graph.keys
  · refine .inl ⟨present, ?_⟩
    apply List.length_filter_lt_length_iff_exists.mpr
    exact ⟨node, List.mem_filter.mpr ⟨present, by simpa using fresh⟩, by simp⟩
  · refine .inr ⟨successors_of_not_mem present, ?_⟩
    congr 1
    apply List.filter_eq_self.mpr
    intro other member
    have inside : other ∈ graph.keys := (List.mem_filter.mp member).1
    exact decide_eq_true fun equal => present (equal ▸ inside)

/-- The search loop. The head of `stack` is the node popped next; the successors
of a new node are pushed in order, so the last one is on top. -/
def search (graph : Dict α (List α)) (target : α) (visited stack : List α) : Bool :=
  match stack with
  | [] => false
  | current :: rest =>
      if current = target then true
      else if current ∈ visited then search graph target visited rest
      else search graph target (current :: visited)
        ((successors graph current).reverse ++ rest)
termination_by ((unvisited graph visited).length, stack.length)
decreasing_by
  · exact Prod.Lex.right _ (Nat.lt_succ_self _)
  · next fresh =>
      rcases unvisited_cons_length graph visited current fresh with ⟨_, fewer⟩ | ⟨none, same⟩
      · exact Prod.Lex.left _ _ fewer
      · rw [same, none]
        exact Prod.Lex.right _ (Nat.lt_succ_self _)

section Rounds

/-- The same loop for a number of rounds; `none` when they run out. -/
def searchWithin (graph : Dict α (List α)) (target : α) :
    Nat → List α → List α → Option Bool
  | 0, _, _ => none
  | _ + 1, _, [] => some false
  | rounds + 1, visited, current :: rest =>
      if current = target then some true
      else if current ∈ visited then searchWithin graph target rounds visited rest
      else searchWithin graph target rounds (current :: visited)
        ((successors graph current).reverse ++ rest)

/-- What the unvisited nodes can still push. -/
def pushable (graph : Dict α (List α)) (visited : List α) : Nat :=
  ((unvisited graph visited).map fun node => (successors graph node).length).sum

/-- A node pushes its successors once. -/
theorem pushable_cons (graph : Dict α (List α)) (visited : List α) (node : α)
    (fresh : node ∉ visited) :
    pushable graph (node :: visited) + (successors graph node).length = pushable graph visited := by
  have distinct : (unvisited graph visited).Nodup := graph.nodup.filter _
  have erased : unvisited graph (node :: visited) = (unvisited graph visited).erase node := by
    rw [unvisited_cons, distinct.erase_eq_filter]
    congr 1
    funext other
    simp [bne, Bool.beq_eq_decide_eq]
  rw [pushable, erased, pushable, Nat.add_comm]
  by_cases present : node ∈ graph.keys
  · apply List.sum_map_erase fun node => (successors graph node).length
    exact List.mem_filter.mpr ⟨present, by simpa using fresh⟩
  · have outside : node ∉ unvisited graph visited :=
      fun member => present (List.mem_filter.mp member).1
    rw [List.erase_of_not_mem outside, successors_of_not_mem present, List.length_nil,
      Nat.zero_add]

/-- The loop ends: each round takes one node off the stack, and each node pushes its
successors at most once. -/
theorem searchWithin_eq_some (graph : Dict α (List α)) (target : α) {rounds : Nat}
    {visited stack : List α} (enough : stack.length + pushable graph visited < rounds) :
    searchWithin graph target rounds visited stack =
      some (search graph target visited stack) := by
  induction rounds generalizing visited stack with
  | zero => omega
  | succ rounds ih =>
      cases stack with
      | nil => simp [searchWithin, search]
      | cons current rest =>
          rw [List.length_cons] at enough
          rw [searchWithin, search]
          split
          · rfl
          · split
            · exact ih (by omega)
            · next fresh =>
                have once := pushable_cons graph visited current fresh
                apply ih
                rw [List.length_append, List.length_reverse]
                omega

end Rounds

/-- The loop invariant: a visited node is not the target, and its successors
have been visited or wait on the stack. -/
def Explored (graph : Dict α (List α)) (target : α) (visited stack : List α) : Prop :=
  ∀ node ∈ visited, node ≠ target ∧
    ∀ next, Edge graph node next → next ∈ visited ∨ next ∈ stack

/-- With an empty stack the visited nodes are closed under edges, so none of
them reaches the target. -/
theorem Explored.not_reaches {graph : Dict α (List α)} {target : α} {visited : List α}
    (explored : Explored graph target visited []) {node : α} (member : node ∈ visited) :
    ¬ Reaches graph node target := by
  have closed : ∀ last, Reaches graph node last → last ∈ visited := by
    intro last path
    induction path with
    | refl => exact member
    | tail _ edge ih =>
        rcases (explored _ ih).2 _ edge with visitedNext | stacked
        · exact visitedNext
        · cases stacked
  intro path
  exact (explored target (closed target path)).1 rfl

/-- The search answers whether the target can be reached from the stack. -/
theorem search_iff (graph : Dict α (List α)) (target : α) (visited stack : List α)
    (explored : Explored graph target visited stack) :
    search graph target visited stack = true ↔
      ∃ node, (node ∈ visited ∨ node ∈ stack) ∧ Reaches graph node target := by
  fun_induction search graph target visited stack with
  | case1 visited =>
      simp only [Bool.false_eq_true, false_iff, not_exists, not_and]
      intro node member
      rcases member with member | member
      · exact explored.not_reaches member
      · cases member
  | case2 visited rest =>
      simp only [true_iff]
      exact ⟨target, .inr List.mem_cons_self, .refl⟩
  | case3 visited current rest different seen ih =>
      rw [ih ?_]
      · constructor
        · rintro ⟨node, member | member, path⟩
          · exact ⟨node, .inl member, path⟩
          · exact ⟨node, .inr (List.mem_cons_of_mem _ member), path⟩
        · rintro ⟨node, member | member, path⟩
          · exact ⟨node, .inl member, path⟩
          · rcases List.mem_cons.mp member with rfl | member
            · exact ⟨node, .inl seen, path⟩
            · exact ⟨node, .inr member, path⟩
      · intro node member
        refine ⟨(explored node member).1, fun next edge => ?_⟩
        rcases (explored node member).2 next edge with visitedNext | stacked
        · exact .inl visitedNext
        · rcases List.mem_cons.mp stacked with rfl | stacked
          · exact .inl seen
          · exact .inr stacked
  | case4 visited current rest different fresh ih =>
      have pushed : ∀ node, node ∈ (successors graph current).reverse ++ rest ↔
          Edge graph current node ∨ node ∈ rest := by
        intro node
        rw [List.mem_append, List.mem_reverse]
        rfl
      rw [ih ?_]
      · constructor
        · rintro ⟨node, member, path⟩
          rcases member with member | member
          · rcases List.mem_cons.mp member with rfl | member
            · exact ⟨node, .inr List.mem_cons_self, path⟩
            · exact ⟨node, .inl member, path⟩
          · rcases (pushed node).mp member with edge | member
            · exact ⟨current, .inr List.mem_cons_self, .head edge path⟩
            · exact ⟨node, .inr (List.mem_cons_of_mem _ member), path⟩
        · rintro ⟨node, member, path⟩
          rcases member with member | member
          · exact ⟨node, .inl (List.mem_cons_of_mem _ member), path⟩
          · rcases List.mem_cons.mp member with rfl | member
            · exact ⟨node, .inl List.mem_cons_self, path⟩
            · exact ⟨node, .inr ((pushed node).mpr (.inr member)), path⟩
      · intro node member
        rcases List.mem_cons.mp member with rfl | member
        · exact ⟨different, fun next edge => .inr ((pushed next).mpr (.inl edge))⟩
        · refine ⟨(explored node member).1, fun next edge => ?_⟩
          rcases (explored node member).2 next edge with visitedNext | stacked
          · exact .inl (List.mem_cons_of_mem _ visitedNext)
          · rcases List.mem_cons.mp stacked with rfl | stacked
            · exact .inl List.mem_cons_self
            · exact .inr ((pushed next).mpr (.inr stacked))

/-- The search from an empty visited set is exact on every graph. -/
theorem search_eq_true_iff (graph : Dict α (List α)) (target : α) (stack : List α) :
    search graph target [] stack = true ↔ ∃ node ∈ stack, Reaches graph node target := by
  rw [search_iff graph target [] stack (fun _ member => by cases member)]
  simp

theorem edge_set (graph : Dict α (List α)) (node source target : α) (next : List α) :
    Edge (graph.set node next) source target ↔
      if source = node then target ∈ next else Edge graph source target := by
  unfold Edge successors
  rw [Dict.getD_set]
  split <;> rfl

/-- A path to the changed node needs none of its new successors. -/
theorem reaches_of_reaches_set {graph : Dict α (List α)} {node source : α} {next : List α}
    (path : Reaches (graph.set node next) source node) : Reaches graph source node := by
  induction path using Relation.ReflTransGen.head_induction_on with
  | refl => exact .refl
  | @head first second edge _ ih =>
      rw [edge_set] at edge
      split at edge
      · next same => rw [same]; exact .refl
      · exact .head edge ih

theorem reaches_set_of_reaches {graph : Dict α (List α)} {node source : α} (next : List α)
    (path : Reaches graph source node) : Reaches (graph.set node next) source node := by
  induction path using Relation.ReflTransGen.head_induction_on with
  | refl => exact .refl
  | @head first second edge _ ih =>
      by_cases same : first = node
      · rw [same]
        exact .refl
      · have kept : Edge (graph.set node next) first second := by
          rw [edge_set, if_neg same]
          exact edge
        exact .head kept ih

/-- More successors of one node lose no path. -/
theorem reaches_set_of_subset {graph : Dict α (List α)} {node source target : α} {next : List α}
    (grown : ∀ other, Edge graph node other → other ∈ next) (path : Reaches graph source target) :
    Reaches (graph.set node next) source target := by
  have kept : ∀ first second, Edge graph first second →
      Edge (graph.set node next) first second := by
    intro first second edge
    rw [edge_set]
    split
    · next same => exact grown second (same ▸ edge)
    · exact edge
  exact Relation.ReflTransGen.mono kept _ _ path

/-- A path of the changed graph is a path of the old one, or it leaves the
changed node at some point. -/
theorem transGen_set_cases {graph : Dict α (List α)} {node source target : α} {next : List α}
    (path : Relation.TransGen (Edge (graph.set node next)) source target) :
    Relation.TransGen (Edge graph) source target ∨
      (Reaches (graph.set node next) source node ∧
        Relation.TransGen (Edge (graph.set node next)) node target) := by
  have leave : ∀ {first second}, Edge (graph.set node next) first second →
      first ≠ node → Edge graph first second := by
    intro first second edge other
    rwa [edge_set, if_neg other] at edge
  induction path with
  | single edge =>
      by_cases same : source = node
      · subst same
        exact .inr ⟨.refl, .single edge⟩
      · exact .inl (.single (leave edge same))
  | @tail middle last before edge ih =>
      by_cases same : middle = node
      · subst same
        exact .inr ⟨before.to_reflTransGen, .single edge⟩
      · rcases ih with old | ⟨arrive, depart⟩
        · exact .inl (old.tail (leave edge same))
        · exact .inr ⟨arrive, depart.tail edge⟩

/-- Replacing the successors of a node closes no cycle when none of the new
successors reaches the node in the old graph. -/
theorem Acyclic.set {graph : Dict α (List α)} (acyclic : Acyclic graph) (node : α)
    (next : List α) (apart : ∀ target ∈ next, ¬ Reaches graph target node) :
    Acyclic (graph.set node next) := by
  have noReturn : ¬ Relation.TransGen (Edge (graph.set node next)) node node := by
    intro cycle
    obtain ⟨target, edge, path⟩ := Relation.TransGen.head'_iff.mp cycle
    rw [edge_set, if_pos rfl] at edge
    exact apart target edge (reaches_of_reaches_set path)
  intro start cycle
  rcases transGen_set_cases cycle with old | ⟨arrive, depart⟩
  · exact acyclic start old
  · exact noReturn (depart.trans_left arrive)

/-- A graph with fewer edges has no more cycles. -/
theorem Acyclic.mono {graph smaller : Dict α (List α)} (acyclic : Acyclic graph)
    (older : ∀ source target, Edge smaller source target → Edge graph source target) :
    Acyclic smaller := by
  intro start cycle
  exact acyclic start (Relation.TransGen.mono older _ _ cycle)

theorem edge_of_edge_erase {graph : Dict α (List α)} (node : α) {source target : α}
    (edge : Edge (graph.erase node) source target) : Edge graph source target := by
  unfold Edge successors Dict.getD at *
  rw [Dict.get?_erase] at edge
  split at edge
  · cases edge
  · exact edge

/-- Removing the successors of a node closes no cycle. -/
theorem Acyclic.erase {graph : Dict α (List α)} (acyclic : Acyclic graph) (node : α) :
    Acyclic (graph.erase node) :=
  acyclic.mono fun _ _ edge => edge_of_edge_erase node edge

/-- Among finitely many nodes of an acyclic graph, one has none of the others as
a successor. -/
theorem Acyclic.exists_last {graph : Dict α (List α)} (acyclic : Acyclic graph)
    (nodes : List α) (filled : nodes ≠ []) :
    ∃ last ∈ nodes, ∀ next ∈ nodes, ¬ Edge graph last next := by
  let Before (first second : {node // node ∈ nodes}) : Prop :=
    Relation.TransGen (Edge graph) second.1 first.1
  have : Finite {node // node ∈ nodes} := List.finite_toSet nodes
  have : IsTrans _ Before := ⟨fun _ _ _ first second => second.trans first⟩
  have : Std.Irrefl Before := ⟨fun node cycle => acyclic node.1 cycle⟩
  have founded : WellFounded Before := Finite.wellFounded_of_trans_of_irrefl Before
  obtain ⟨node, member⟩ := List.exists_mem_of_ne_nil nodes filled
  obtain ⟨last, _, least⟩ := founded.has_min Set.univ ⟨⟨node, member⟩, trivial⟩
  exact ⟨last.1, last.2, fun next inside edge => least ⟨next, inside⟩ trivial (.single edge)⟩

theorem acyclic_empty : Acyclic (Dict.empty : Dict α (List α)) := by
  intro start cycle
  obtain ⟨_, edge, _⟩ := Relation.TransGen.head'_iff.mp cycle
  cases edge

end Graph

end Foundation
