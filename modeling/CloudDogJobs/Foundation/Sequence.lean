import Mathlib.Data.List.Basic

/-!
# Sequences of steps

Runs of a step function over a list of actions. `Throughout` is a property of
every state of a run, the first and the last included; `Guarded` is a condition
on every action in the state that it meets. When the guard says exactly which
actions keep the property, the two agree on every run.
-/

namespace Foundation

variable {S A : Type} (step : S → A → S)

/-- The property holds in every state of the run. -/
def Throughout (holds : S → Prop) : S → List A → Prop
  | state, [] => holds state
  | state, action :: rest => holds state ∧ Throughout holds (step state action) rest

/-- Every action of the run meets the guard in the state it starts from. -/
def Guarded (guard : S → A → Prop) : S → List A → Prop
  | _, [] => True
  | state, action :: rest => guard state action ∧ Guarded guard (step state action) rest

variable {step} {holds : S → Prop} {guard : S → A → Prop} {allowed : A → Prop}

theorem Throughout.first {state : S} {actions : List A}
    (throughout : Throughout step holds state actions) : holds state := by
  cases actions with
  | nil => exact throughout
  | cons action rest => exact throughout.1

/-- A property of every state. -/
theorem Throughout.of_always (always : ∀ state, holds state) (state : S) (actions : List A) :
    Throughout step holds state actions := by
  induction actions generalizing state with
  | nil => exact always state
  | cons action rest ih => exact ⟨always state, ih _⟩

theorem Throughout.mono {other : S → Prop} {state : S} {actions : List A}
    (throughout : Throughout step holds state actions)
    (implies : ∀ state, holds state → other state) : Throughout step other state actions := by
  induction actions generalizing state with
  | nil => exact implies state throughout
  | cons action rest ih => exact ⟨implies state throughout.1, ih throughout.2⟩

/-- The run lemma for an exact guard, where the actions meet another guard that the
exactness relies on. -/
theorem throughout_iff_guarded_of_guarded {premise : S → A → Prop}
    (exact : ∀ state action, premise state action → holds state →
      (holds (step state action) ↔ guard state action))
    {state : S} (start : holds state) {actions : List A}
    (admissible : Guarded step premise state actions) :
    Throughout step holds state actions ↔ Guarded step guard state actions := by
  induction actions generalizing state with
  | nil => exact iff_of_true start trivial
  | cons action rest ih =>
      have now := exact state action admissible.1 start
      have later := fun kept => ih kept admissible.2
      constructor
      · rintro ⟨_, throughout⟩
        have kept := throughout.first
        exact ⟨now.mp kept, (later kept).mp throughout⟩
      · rintro ⟨met, guarded⟩
        have kept := now.mpr met
        exact ⟨start, (later kept).mpr guarded⟩

theorem Guarded.of_forall {state : S} {actions : List A}
    (admissible : ∀ action ∈ actions, allowed action) :
    Guarded step (fun _ action => allowed action) state actions := by
  induction actions generalizing state with
  | nil => trivial
  | cons action rest ih =>
      exact ⟨admissible action List.mem_cons_self,
        ih fun other member => admissible other (List.mem_cons_of_mem _ member)⟩

/-- A guard that every action meets in every state. -/
theorem Guarded.of_always (always : ∀ state action, guard state action) (state : S)
    (actions : List A) : Guarded step guard state actions := by
  induction actions generalizing state with
  | nil => trivial
  | cons action rest ih => exact ⟨always state action, ih _⟩

/-- The run lemma for an exact guard. -/
theorem throughout_iff_guarded
    (exact : ∀ state action, allowed action → holds state →
      (holds (step state action) ↔ guard state action))
    {state : S} (start : holds state) {actions : List A}
    (admissible : ∀ action ∈ actions, allowed action) :
    Throughout step holds state actions ↔ Guarded step guard state actions :=
  throughout_iff_guarded_of_guarded exact start (.of_forall admissible)

section Guards

variable {other : S → A → Prop} {invariant : S → Prop}

/-- Two guards at once. -/
theorem Guarded.and {state : S} {actions : List A} (first : Guarded step guard state actions)
    (second : Guarded step other state actions) :
    Guarded step (fun state action => guard state action ∧ other state action) state actions := by
  induction actions generalizing state with
  | nil => trivial
  | cons action rest ih => exact ⟨⟨first.1, second.1⟩, ih first.2 second.2⟩

/-- Two runs of the same actions, side by side. -/
theorem Guarded.prod {T : Type} {move : T → A → T} {beside : T → A → Prop} {state : S}
    {model : T} {actions : List A} (first : Guarded step guard state actions)
    (second : Guarded move beside model actions) :
    Guarded (fun states action => (step states.1 action, move states.2 action))
      (fun states action => guard states.1 action ∧ beside states.2 action) (state, model)
      actions := by
  induction actions generalizing state model with
  | nil => trivial
  | cons action rest ih => exact ⟨⟨first.1, second.1⟩, ih first.2 second.2⟩

theorem Guarded.mono {state : S} {actions : List A} (guarded : Guarded step guard state actions)
    (implies : ∀ state action, guard state action → other state action) :
    Guarded step other state actions := by
  induction actions generalizing state with
  | nil => trivial
  | cons action rest ih => exact ⟨implies state action guarded.1, ih guarded.2⟩

/-- A guard follows from another where an invariant holds that guarded actions keep. -/
theorem Guarded.of_invariant
    (follows : ∀ state action, invariant state → guard state action →
      other state action ∧ invariant (step state action))
    {state : S} (start : invariant state) {actions : List A}
    (guarded : Guarded step guard state actions) : Guarded step other state actions := by
  induction actions generalizing state with
  | nil => trivial
  | cons action rest ih =>
      obtain ⟨met, kept⟩ := follows state action start guarded.1
      exact ⟨met, ih kept guarded.2⟩

/-- A property that follows from an invariant holds in every state of a guarded run. -/
theorem Throughout.of_invariant (kept : ∀ state action, invariant state → guard state action →
      invariant (step state action))
    (implies : ∀ state, invariant state → holds state)
    {state : S} (start : invariant state) {actions : List A}
    (guarded : Guarded step guard state actions) : Throughout step holds state actions := by
  induction actions generalizing state with
  | nil => exact implies state start
  | cons action rest ih =>
      exact ⟨implies state start, ih (kept state action start guarded.1) guarded.2⟩

end Guards

section Transcripts

variable {T C R : Type}

/-- The answers of a run and the state it ends in. -/
def transcript (answer : S → A → R × S) : S → List A → List R × S
  | state, [] => ([], state)
  | state, action :: rest =>
      ((answer state action).1 :: (transcript answer (answer state action).2 rest).1,
        (transcript answer (answer state action).2 rest).2)

/-- A simulation step by step gives equal answers over every run. The relation may
depend on a context that the actions move on, and the guard is about that context. -/
theorem transcript_of_simulation {answer : S → A → R × S} {meaning : T → A → R × T}
    {move : C → A → C} {allowed : C → A → Prop} {related : C → S → T → Prop}
    (simulates : ∀ context state model action, related context state model →
      allowed context action →
        (answer state action).1 = (meaning model action).1 ∧
          related (move context action) (answer state action).2 (meaning model action).2)
    {context : C} {state : S} {model : T} (start : related context state model)
    {actions : List A} (guarded : Guarded move allowed context actions) :
    (transcript answer state actions).1 = (transcript meaning model actions).1 ∧
      related (actions.foldl move context) (transcript answer state actions).2
        (transcript meaning model actions).2 := by
  induction actions generalizing context state model with
  | nil => exact ⟨rfl, start⟩
  | cons action rest ih =>
      obtain ⟨same, kept⟩ := simulates context state model action start guarded.1
      obtain ⟨others, last⟩ := ih kept guarded.2
      refine ⟨?_, last⟩
      rw [transcript, transcript, same, others]

end Transcripts

end Foundation
