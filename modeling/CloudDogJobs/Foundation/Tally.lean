import CloudDogJobs.Foundation.Dict

/-!
# Counters by key

A dictionary of counters stands for a list of items when it holds, under every key, the
number of items with that key. Adding an item raises one counter, removing one that is
there lowers it, and the counters always sum up to the number of items.
-/

namespace Foundation

namespace Dict

variable {κ α : Type} [DecidableEq κ] {key : α → κ} {counts : Dict κ Nat} {items : List α}

/-- The counters stand for the items. -/
structure Tallies (key : α → κ) (counts : Dict κ Nat) (items : List α) : Prop where
  count : ∀ name, counts.getD name 0 = items.countP fun item => key item = name
  sum : counts.total Nat.cast = items.length

namespace Tallies

theorem empty : Tallies key (∅ : Dict κ Nat) [] := ⟨fun _ => rfl, rfl⟩

theorem total_set_getD (counts : Dict κ Nat) (name : κ) (count : Nat) :
    (counts.set name count).total Nat.cast =
      counts.total Nat.cast - (counts.getD name 0 : Int) + count := by
  rw [total_set, getD]
  cases counts.get? name with
  | none => rfl
  | some _ => rfl

/-- One more item. -/
theorem cons (tallies : Tallies key counts items) (item : α) :
    Tallies key (counts.set (key item) (counts.getD (key item) 0 + 1)) (item :: items) := by
  refine ⟨?_, ?_⟩
  · intro name
    rw [getD_set, List.countP_cons]
    by_cases same : name = key item
    · subst same
      simp [tallies.count]
    · simp [same, Ne.symm same, tallies.count]
  · rw [total_set_getD, tallies.sum, List.length_cons]
    omega

/-- An item that is there is counted. -/
theorem pos (tallies : Tallies key counts items) {item : α} (member : item ∈ items) :
    0 < counts.getD (key item) 0 := by
  rw [tallies.count]
  exact List.countP_pos_iff.mpr ⟨item, member, by simp⟩

/-- One item less. -/
theorem erase [DecidableEq α] (tallies : Tallies key counts items) {item : α}
    (member : item ∈ items) :
    Tallies key (counts.set (key item) (counts.getD (key item) 0 - 1)) (items.erase item) := by
  have counted := tallies.pos member
  refine ⟨?_, ?_⟩
  · intro name
    have before := (List.perm_cons_erase member).countP_eq fun other => key other = name
    rw [List.countP_cons] at before
    rw [getD_set]
    by_cases same : name = key item
    · subst same
      simp only [decide_true, ↓reduceIte] at before ⊢
      rw [tallies.count]
      omega
    · simp only [same, Ne.symm same, decide_false, Bool.false_eq_true, ↓reduceIte] at before ⊢
      rw [tallies.count]
      omega
  · have shorter := List.length_erase_of_mem member
    have filled := List.length_pos_of_mem member
    rw [total_set_getD, tallies.sum]
    omega

end Tallies

end Dict

end Foundation
