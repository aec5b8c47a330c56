import Mathlib.Data.List.Sort

/-!
# Stable sorting

Insertion sort by a total preorder keeps equal items in their original order. A
new item at the end of the input therefore goes behind every item that is not
above it (`settle`), and leaving items out commutes with sorting.
-/

namespace Foundation

variable {α : Type} (r : α → α → Prop) [DecidableRel r]

/-- Put an item behind the leading items that it does not precede. -/
def settle (item : α) : List α → List α
  | [] => [item]
  | first :: rest => if r first item then first :: settle item rest else item :: first :: rest

theorem orderedInsert_settle [Std.Total r] [IsTrans α r] (first item : α) (items : List α) :
    (settle r item items).orderedInsert r first = settle r item (items.orderedInsert r first) := by
  induction items with
  | nil =>
      simp only [settle, List.orderedInsert_nil, List.orderedInsert_cons]
  | cons other rest ih =>
      by_cases before : r other item
      · rw [settle, if_pos before, List.orderedInsert_cons, List.orderedInsert_cons]
        by_cases least : r first other
        · rw [if_pos least, if_pos least, settle, if_pos (IsTrans.trans _ _ _ least before), settle,
            if_pos before]
        · rw [if_neg least, if_neg least, settle, if_pos before, ih]
      · rw [settle, if_neg before, List.orderedInsert_cons]
        by_cases least : r first other
        · rw [List.orderedInsert_cons, if_pos least, settle, settle, if_neg before]
        · have above : ¬ r first item := fun below =>
            least (IsTrans.trans _ _ _ below ((Std.Total.total item other).resolve_right before))
          rw [if_neg above, List.orderedInsert_cons, if_neg least, settle, if_neg before]

/-- **Stability.** The last item of the input goes behind the items that it does
not precede. -/
theorem insertionSort_append_singleton [Std.Total r] [IsTrans α r] (items : List α) (item : α) :
    (items ++ [item]).insertionSort r = settle r item (items.insertionSort r) := by
  induction items with
  | nil => rfl
  | cons first rest ih =>
      rw [List.cons_append, List.insertionSort_cons, ih, List.insertionSort_cons,
        orderedInsert_settle]

theorem filter_orderedInsert [IsTrans α r] (keep : α → Bool) (item : α) {items : List α}
    (sorted : items.Pairwise r) :
    (items.orderedInsert r item).filter keep =
      if keep item then (items.filter keep).orderedInsert r item else items.filter keep := by
  induction items with
  | nil => cases kept : keep item <;> simp [kept]
  | cons first rest ih =>
      obtain ⟨least, later⟩ := List.pairwise_cons.mp sorted
      rw [List.orderedInsert_cons]
      by_cases before : r item first
      · rw [if_pos before, List.filter_cons]
        congr 1
        have above : ∀ other ∈ (first :: rest).filter keep, r item other := by
          intro other member
          rcases List.mem_cons.mp (List.mem_filter.mp member).1 with rfl | inside
          · exact before
          · exact IsTrans.trans _ _ _ before (least other inside)
        cases filtered : (first :: rest).filter keep with
        | nil => rfl
        | cons head tail =>
            rw [filtered] at above
            rw [List.orderedInsert_cons, if_pos (above head List.mem_cons_self)]
      · rw [if_neg before, List.filter_cons, List.filter_cons, ih later]
        cases kept : keep item <;> cases held : keep first <;>
          simp [List.orderedInsert_cons, before]

/-- Leaving items out commutes with sorting. -/
theorem filter_insertionSort [Std.Total r] [IsTrans α r] (keep : α → Bool) (items : List α) :
    (items.insertionSort r).filter keep = (items.filter keep).insertionSort r := by
  induction items with
  | nil => rfl
  | cons first rest ih =>
      rw [List.insertionSort_cons, filter_orderedInsert r keep first
        (List.pairwise_insertionSort r rest), ih, List.filter_cons]
      split <;> rfl

theorem orderedInsert_congr {s : α → α → Prop} [DecidableRel s] {item : α} {items : List α}
    (agree : ∀ other ∈ items, r item other ↔ s item other) :
    items.orderedInsert r item = items.orderedInsert s item := by
  induction items with
  | nil => rfl
  | cons first rest ih =>
      have here := agree first List.mem_cons_self
      rw [List.orderedInsert_cons, List.orderedInsert_cons,
        ih fun other member => agree other (List.mem_cons_of_mem _ member)]
      by_cases before : r item first
      · rw [if_pos before, if_pos (here.mp before)]
      · rw [if_neg before, if_neg fun above => before (here.mpr above)]

/-- Two orders that agree on each item and a later one sort alike. -/
theorem insertionSort_congr {s : α → α → Prop} [DecidableRel s] {items : List α}
    (agree : items.Pairwise fun first second => r first second ↔ s first second) :
    items.insertionSort r = items.insertionSort s := by
  induction items with
  | nil => rfl
  | cons first rest ih =>
      obtain ⟨here, later⟩ := List.pairwise_cons.mp agree
      rw [List.insertionSort_cons, List.insertionSort_cons, ← ih later]
      apply orderedInsert_congr
      intro other member
      exact here other ((List.mem_insertionSort r).mp member)

end Foundation
