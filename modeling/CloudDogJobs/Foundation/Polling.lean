import Mathlib.Data.List.Basic
import CloudDogJobs.Foundation.Program

/-!
# Polling loops

A loop that runs one step after another until a step fails or the loop is told to
stop. What the loop reads from outside comes as a list with one item for each
pass; when the list ends before the loop does, the loop is still going and has no
result. `poll` is the loop over a step function, `Prog.poll` the same loop as a command
program, and two loops whose steps simulate each other end alike.
-/

namespace Foundation

section Functions

variable {A E S T : Type}

/-- The loop over a step function. `last` says that the loop stops after this
many passes. The result is the number of passes, or the error of the step that
failed. -/
def poll (step : A → S → Except E Bool × S) (last : Nat → A → Bool) :
    Nat → List A → S → Option (Except E Nat) × S
  | _, [], state => (none, state)
  | passes, input :: rest, state =>
      match (step input state).1 with
      | .error error => (some (.error error), (step input state).2)
      | .ok _ =>
          if last (passes + 1) input then (some (.ok (passes + 1)), (step input state).2)
          else poll step last (passes + 1) rest (step input state).2

/-- **Simulation of a loop.** Steps that answer alike and keep a relation give
loops that end alike. The relation may depend on the inputs still to come, and a
step that fails may leave a weaker relation. -/
theorem poll.simulates {step : A → S → Except E Bool × S} {meaning : A → T → Except E Bool × T}
    (last : Nat → A → Bool) {related : List A → S → T → Prop} (ended : S → T → Prop)
    (ends : ∀ inputs state model, related inputs state model → ended state model)
    (simulates : ∀ input rest state model, related (input :: rest) state model →
      (step input state).1 = (meaning input model).1 ∧
        (∀ processed, (step input state).1 = .ok processed →
          related rest (step input state).2 (meaning input model).2) ∧
        ended (step input state).2 (meaning input model).2)
    (passes : Nat) {inputs : List A} {state : S} {model : T}
    (start : related inputs state model) :
    (poll step last passes inputs state).1 = (poll meaning last passes inputs model).1 ∧
      ended (poll step last passes inputs state).2 (poll meaning last passes inputs model).2 := by
  induction inputs generalizing passes state model with
  | nil => exact ⟨rfl, ends _ _ _ start⟩
  | cons input rest ih =>
      obtain ⟨same, kept, final⟩ := simulates input rest state model start
      rw [poll, poll, ← same]
      cases answer : (step input state).1 with
      | error error => exact ⟨rfl, final⟩
      | ok processed =>
          dsimp only
          split
          · exact ⟨rfl, final⟩
          · exact ih _ (kept processed answer)

/-- The passes that the loop makes when no step fails. -/
def passesMade (last : Nat → A → Bool) : Nat → List A → List A
  | _, [] => []
  | passes, input :: rest =>
      input :: if last (passes + 1) input then [] else passesMade last (passes + 1) rest

/-- One of the passes is the last. -/
def passesEnd (last : Nat → A → Bool) : Nat → List A → Bool
  | _, [] => false
  | passes, input :: rest => last (passes + 1) input || passesEnd last (passes + 1) rest

/-- **A loop whose steps succeed.** While an invariant about the passes still to be made
makes every step succeed, the loop makes all of them, returns their number, and
keeps the invariant to the end. -/
theorem poll.succeeds {step : A → S → Except E Bool × S} (last : Nat → A → Bool)
    {related : List A → S → Prop}
    (succeeds : ∀ input rest state, related (input :: rest) state →
      ∃ processed, (step input state).1 = .ok processed ∧ related rest (step input state).2)
    (passes : Nat) {inputs : List A} {state : S}
    (start : related (passesMade last passes inputs) state) :
    (poll step last passes inputs state).1 =
        (if passesEnd last passes inputs then
          some (.ok (passes + (passesMade last passes inputs).length)) else none) ∧
      related [] (poll step last passes inputs state).2 := by
  induction inputs generalizing passes state with
  | nil => exact ⟨rfl, start⟩
  | cons input rest ih =>
      rw [passesMade] at start
      obtain ⟨processed, answered, kept⟩ := succeeds input _ state start
      rw [poll, answered, passesEnd, passesMade]
      dsimp only
      cases stops : last (passes + 1) input with
      | true =>
          rw [stops] at kept
          exact ⟨rfl, kept⟩
      | false =>
          rw [stops] at kept
          obtain ⟨returned, ended⟩ := ih (passes + 1) kept
          refine ⟨?_, ended⟩
          simp only [Bool.false_eq_true, ↓reduceIte, Bool.false_or, List.length_cons, returned,
            Nat.add_assoc, Nat.add_comm 1]

theorem mem_of_mem_passesMade {last : Nat → A → Bool} {passes : Nat} {inputs : List A}
    {input : A} (member : input ∈ passesMade last passes inputs) : input ∈ inputs := by
  induction inputs generalizing passes with
  | nil => exact member
  | cons first rest ih =>
      rw [passesMade] at member
      rcases List.mem_cons.mp member with rfl | later
      · exact List.mem_cons_self
      · split at later
        · cases later
        · exact List.mem_cons_of_mem _ (ih later)

end Functions

section Programs

variable {A E S : Type} {Cmd : Type} {Res : Cmd → Type}

/-- The loop as a program over commands. -/
def Prog.poll (round : A → Prog Cmd Res (Except E Bool)) (last : Nat → A → Bool) :
    Nat → List A → Prog Cmd Res (Option (Except E Nat))
  | _, [] => return none
  | passes, input :: rest => do
      match ← round input with
      | .error error => return some (.error error)
      | .ok _ =>
          if last (passes + 1) input then return some (.ok (passes + 1))
          else Prog.poll round last (passes + 1) rest

/-- Run alone, the program is the loop over the runs of its rounds, with what an
observer sees of each round in one record. -/
theorem Prog.run_poll {M : Type} (exec : (command : Cmd) → S → Res command × S)
    (read : Cmd → Option M) (round : A → Prog Cmd Res (Except E Bool)) (last : Nat → A → Bool)
    (passes : Nat) (inputs : List A) (state : S) (seen : List M) :
    Foundation.poll (fun input entry =>
        (((round input).run exec entry.1).1, ((round input).run exec entry.1).2,
          entry.2 ++ (round input).marks exec read entry.1)) last passes inputs (state, seen) =
      (((Prog.poll round last passes inputs).run exec state).1,
        ((Prog.poll round last passes inputs).run exec state).2,
        seen ++ (Prog.poll round last passes inputs).marks exec read state) := by
  induction inputs generalizing passes state seen with
  | nil =>
      rw [Prog.poll, Prog.pure_eq_ret, Prog.marks_ret, List.append_nil]
      rfl
  | cons input rest ih =>
      rw [Prog.poll, Prog.run_bind, Prog.marks_bind, Foundation.poll]
      cases (round input |>.run exec state).1 with
      | error error =>
          dsimp only
          rw [Prog.pure_eq_ret, Prog.marks_ret, List.append_nil]
          rfl
      | ok processed =>
          dsimp only
          split
          · rw [Prog.pure_eq_ret, Prog.marks_ret, List.append_nil]
            rfl
          · rw [ih, List.append_assoc]

end Programs

end Foundation
