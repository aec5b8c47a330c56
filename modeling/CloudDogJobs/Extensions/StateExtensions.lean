import CloudDogJobs.Domain.StateMachine

/-!
# State extensions

`extensions/state_extensions.py`: the registry of the states and transitions that job
types add, which all state machines share. A registration is checked as a whole before
it is stored.
-/

namespace CloudDogJobs

open Foundation

namespace StateExtension

/-- The checks of a registration, in the order of the transitions. -/
def checkTransitions (states : List String) : List (String × List String) → Except PyError Unit
  | [] => .ok ()
  | (state, targets) :: rest =>
      if state ∉ states then
        .error (.valueError ("Custom transition source not in custom states: " ++ state))
      else
        let invalidTargets := targets.filter fun target => target = ""
        if invalidTargets.isEmpty then checkTransitions states rest
        else .error (.valueError ("Custom transition target is invalid for " ++ state))

/-- `StateExtensionRegistry.register_state_extension` -/
def registerStateExtension (registry : Dict String StateExtension) (jobType : String)
    (customStates : List String) (customTransitions : Dict String (List String)) :
    Except PyError Unit × Dict String StateExtension :=
  match checkTransitions customStates customTransitions.entries with
  | .error error => (.error error, registry)
  | .ok () => (.ok (), registry.set jobType ⟨customStates, customTransitions⟩)

/-- Every source is a custom state, and no target is empty. -/
def Acceptable (customStates : List String) (customTransitions : Dict String (List String)) :
    Prop :=
  ∀ entry ∈ customTransitions.entries, entry.1 ∈ customStates ∧ "" ∉ entry.2

instance (customStates : List String) (customTransitions : Dict String (List String)) :
    Decidable (Acceptable customStates customTransitions) :=
  inferInstanceAs (Decidable (∀ _ ∈ _, _))

theorem checkTransitions_eq_ok_iff (states : List String) (entries : List (String × List String)) :
    checkTransitions states entries = .ok () ↔
      ∀ entry ∈ entries, entry.1 ∈ states ∧ "" ∉ entry.2 := by
  induction entries with
  | nil => simp [checkTransitions]
  | cons entry rest ih =>
      obtain ⟨state, targets⟩ := entry
      rw [List.forall_mem_cons, ← ih, checkTransitions]
      have valid : (targets.filter fun target => target = "").isEmpty = true ↔ "" ∉ targets := by
        rw [List.isEmpty_iff, List.filter_eq_nil_iff]
        refine ⟨?_, ?_⟩
        · intro none member
          exact none "" member (decide_eq_true rfl)
        · intro absent target member blank
          exact absent (of_decide_eq_true blank ▸ member)
      by_cases listed : state ∈ states
      · by_cases empty : "" ∈ targets
        · rw [if_neg (not_not_intro listed), if_neg (valid.not.mpr (not_not_intro empty))]
          simp [empty]
        · rw [if_neg (not_not_intro listed), if_pos (valid.mpr empty)]
          simp [listed, empty]
      · simp [listed]

/-- A registration raises and stores nothing, or it is stored whole. -/
theorem registerStateExtension_snd (registry : Dict String StateExtension) (jobType : String)
    (customStates : List String) (customTransitions : Dict String (List String)) :
    (registerStateExtension registry jobType customStates customTransitions).2 =
      if Acceptable customStates customTransitions then
        registry.set jobType ⟨customStates, customTransitions⟩
      else registry := by
  have checked : checkTransitions customStates customTransitions.entries = .ok () ↔
      Acceptable customStates customTransitions := checkTransitions_eq_ok_iff _ _
  unfold registerStateExtension
  split
  · next error raised =>
      rw [raised] at checked
      rw [if_neg fun acceptable => nomatch checked.mpr acceptable]
  · next passed => rw [if_pos (checked.mp passed)]

end StateExtension

namespace JobStateMachine

variable (machine : JobStateMachine) (registry : Dict String StateExtension)

/-- A default insertion is not seen by a lookup with the same default. -/
theorem getD_foldl_addState (states : List String) (merged : Dict String (List String))
    (state : String) :
    (states.foldl addState merged).getD state [] = merged.getD state [] := by
  induction states generalizing merged with
  | nil => rfl
  | cons first rest ih =>
      rw [List.foldl_cons, ih, addState]
      cases found : merged.get? first with
      | some _ => rfl
      | none =>
          dsimp only
          rw [Dict.getD_set]
          split
          · next same => rw [same, Dict.getD, found, Option.getD_none]
          · rfl

theorem mem_getD_foldl_addTargets (entries : List (String × List String))
    (merged : Dict String (List String)) (source target : String) :
    target ∈ (entries.foldl addTargets merged).getD source [] ↔
      target ∈ merged.getD source [] ∨
        ∃ targets, (source, targets) ∈ entries ∧ target ∈ targets := by
  induction entries generalizing merged with
  | nil => simp
  | cons entry rest ih =>
      obtain ⟨state, targets⟩ := entry
      rw [List.foldl_cons, ih, addTargets, Dict.getD_set]
      by_cases same : source = state
      · subst same
        simp only [↓reduceIte, List.mem_append, List.mem_cons, Prod.mk.injEq, true_and,
          or_and_right, exists_or, exists_eq_left, or_assoc]
      · simp [same]

/-- A transition of a job type is one of the table or of the type's extension. -/
theorem canTransition_iff {jobType : String} (named : jobType ≠ "") (source target : String) :
    machine.canTransition registry source target (some jobType) = true ↔
      target ∈ machine.transitions.getD source [] ∨
        ∃ extension, registry.get? jobType = some extension ∧
          target ∈ extension.customTransitions.getD source [] := by
  rw [canTransition, decide_eq_true_eq, mergedTransitionsFor, if_neg named]
  cases found : registry.get? jobType with
  | none => simp
  | some extension =>
      simp only [mem_getD_foldl_addTargets, getD_foldl_addState, Option.some.injEq,
        exists_eq_left', Dict.mem_entries_iff]
      have shown : (∃ targets, extension.customTransitions.get? source = some targets ∧
          target ∈ targets) ↔ target ∈ extension.customTransitions.getD source [] := by
        rw [Dict.getD]
        cases extension.customTransitions.get? source <;> simp
      rw [shown]

theorem isTerminal_iff (state : String) (jobType : Option String) :
    machine.isTerminal registry state jobType = true ↔
      ∀ target, machine.canTransition registry state target jobType = false := by
  simp only [isTerminal, canTransition, List.isEmpty_iff, decide_eq_false_iff_not]
  exact List.eq_nil_iff_forall_not_mem

end JobStateMachine

end CloudDogJobs
