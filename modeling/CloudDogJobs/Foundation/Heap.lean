import Mathlib.Data.List.Sort

/-!
# Binary heaps in a list

The heap property of a list read as a complete binary tree, for a comparison
`less`, and the interface of a heap library: operations that keep the property
and the multiset of elements. `HeapLibrary.sorting` is the library that keeps
its heaps sorted.
-/

namespace Foundation

variable {α : Type}

/-- No element is less than its parent. -/
def IsHeap (less : α → α → Prop) (heap : List α) : Prop :=
  ∀ child parent (inside : child < heap.length) (above : parent < heap.length),
    child = 2 * parent + 1 ∨ child = 2 * parent + 2 → ¬ less heap[child] heap[parent]

/-- No element of a heap is less than its root. -/
theorem IsHeap.root_least {less : α → α → Prop} {root : α} {rest : List α}
    (ordered : IsHeap less (root :: rest)) (irreflexive : ∀ item, ¬ less item item)
    (transitive : ∀ first second third, ¬ less second first → ¬ less third second →
      ¬ less third first) :
    ∀ item ∈ root :: rest, ¬ less item root := by
  have indexed : ∀ child (inside : child < (root :: rest).length),
      ¬ less (root :: rest)[child] root := by
    intro child
    induction child using Nat.strong_induction_on with
    | _ child ih =>
        intro inside
        by_cases top : child = 0
        · subst top
          exact irreflexive root
        · have parent : (child - 1) / 2 < child := by omega
          have above := parent.trans inside
          exact transitive _ _ _ (ih _ parent above)
            (ordered child ((child - 1) / 2) inside above (by omega))
  intro item member
  obtain ⟨child, inside, rfl⟩ := List.mem_iff_getElem.mp member
  exact indexed child inside

/-- A library of heap operations over a comparison. A pop is given the root and
the rest of a heap that is not empty. -/
structure HeapLibrary (α : Type) (less : α → α → Prop) where
  heappush : List α → α → List α
  heappop : α → List α → α × List α
  heapify : List α → List α
  heappush_perm : ∀ heap item, (heappush heap item).Perm (item :: heap)
  heappush_heap : ∀ heap item, IsHeap less heap → IsHeap less (heappush heap item)
  heappop_root : ∀ root rest, (heappop root rest).1 = root
  heappop_perm : ∀ root rest, (heappop root rest).2.Perm rest
  heappop_heap : ∀ root rest, IsHeap less (root :: rest) → IsHeap less (heappop root rest).2
  heapify_perm : ∀ items, (heapify items).Perm items
  heapify_heap : ∀ items, IsHeap less (heapify items)

/-- A list in ascending order is a heap. -/
theorem isHeap_of_pairwise {less : α → α → Prop} {heap : List α}
    (sorted : heap.Pairwise fun first second => ¬ less second first) : IsHeap less heap := by
  intro child parent inside above family
  exact List.pairwise_iff_getElem.mp sorted parent child above inside (by omega)

section Sorting

variable (less : α → α → Prop) [DecidableRel less]

/-- The order of a sorted heap. -/
def NotAfter (first second : α) : Prop := ¬ less second first

instance : DecidableRel (NotAfter less) := fun first second =>
  inferInstanceAs (Decidable (¬ less second first))

variable [Std.Total (NotAfter less)] [IsTrans α (NotAfter less)]

theorem isHeap_insertionSort (items : List α) :
    IsHeap less (items.insertionSort (NotAfter less)) :=
  isHeap_of_pairwise (List.pairwise_insertionSort (NotAfter less) items)

/-- The library whose heaps are sorted lists. -/
def HeapLibrary.sorting : HeapLibrary α less where
  heappush heap item := (item :: heap).insertionSort (NotAfter less)
  heappop root rest := (root, rest.insertionSort (NotAfter less))
  heapify items := items.insertionSort (NotAfter less)
  heappush_perm _ _ := List.perm_insertionSort _ _
  heappush_heap _ _ _ := isHeap_insertionSort less _
  heappop_root _ _ := rfl
  heappop_perm _ _ := List.perm_insertionSort _ _
  heappop_heap _ _ _ := isHeap_insertionSort less _
  heapify_perm _ := List.perm_insertionSort _ _
  heapify_heap _ := isHeap_insertionSort less _

end Sorting

end Foundation
