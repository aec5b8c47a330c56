import Mathlib.Data.List.Basic

/-!
# Greedy selection

A pass over candidates that keeps each one unless it is refused, where a refusal depends
on what was kept before. `Greedy.exists_picked` gives what is kept turn by turn.
-/

namespace Foundation

variable {α : Type} {refused : List α → α → Prop} {chosen items selected : List α}

/-- From the chosen ones on, a pass over the items selects these. -/
inductive Greedy (refused : List α → α → Prop) : List α → List α → List α → Prop
  | done (chosen : List α) : Greedy refused chosen [] []
  | keep {chosen rest selected : List α} {item : α} (fits : ¬ refused chosen item)
      (later : Greedy refused (chosen ++ [item]) rest selected) :
      Greedy refused chosen (item :: rest) (item :: selected)
  | skip {chosen rest selected : List α} {item : α} (refuses : refused chosen item)
      (later : Greedy refused chosen rest selected) :
      Greedy refused chosen (item :: rest) selected

theorem Greedy.sublist (greedy : Greedy refused chosen items selected) :
    selected.Sublist items := by
  induction greedy with
  | done chosen => exact .slnil
  | keep _ _ ih => exact ih.cons_cons _
  | skip _ _ ih => exact ih.cons _

/-- One turn of a pass: an item is kept and added to the chosen ones, or it is refused
and they stay. -/
def Turn (refused : List α → α → Prop) (before after : List α) (item : α) : Prop :=
  (¬ refused before item ∧ after = before ++ [item]) ∨ (refused before item ∧ after = before)

/-- The chosen ones before each turn of a pass. -/
theorem Greedy.exists_picked (greedy : Greedy refused chosen items selected) :
    ∃ picked : Nat → List α, picked 0 = chosen ∧ picked items.length = chosen ++ selected ∧
      ∀ turn item, items[turn]? = some item →
        Turn refused (picked turn) (picked (turn + 1)) item := by
  induction greedy with
  | done chosen => exact ⟨fun _ => chosen, rfl, (List.append_nil chosen).symm, nofun⟩
  | @keep chosen rest selected item fits _ ih =>
      obtain ⟨picked, start, finish, turns⟩ := ih
      refine ⟨fun turn => turn.casesOn chosen picked, rfl, ?_, ?_⟩
      · simpa using finish
      · intro turn other found
        cases turn with
        | zero =>
            cases found
            exact .inl ⟨fits, start⟩
        | succ turn => exact turns turn other found
  | @skip chosen rest selected item refuses _ ih =>
      obtain ⟨picked, start, finish, turns⟩ := ih
      refine ⟨fun turn => turn.casesOn chosen picked, rfl, finish, ?_⟩
      intro turn other found
      cases turn with
      | zero =>
          cases found
          exact .inr ⟨refuses, start⟩
      | succ turn => exact turns turn other found

end Foundation
