import Mathlib.Data.List.Basic
import CloudDogJobs.Foundation.Interleaving

/-!
# Programs that keep records

A program over commands may also enter keys into the record of the client that
runs it. Erasing the entries leaves a program over the commands alone that does
the same work. `due` says how many entries of a key a command with its reply
calls for; it may be negative, when a later command takes back what an earlier
one called for. When every operation leaves nothing owing, then under every
interleaving the record of a client between two operations shows exactly what
its commands called for.
-/

namespace Foundation

/-- A command, or an entry into the record of its owner. -/
inductive Recording (Cmd ι κ : Type) : Type
  | work (command : Cmd)
  | enter (owner : ι) (key : κ)

variable {ι Op Cmd : Type} {Res : Cmd → Type} {α β S R κ : Type}

/-- What a command replies; an entry replies nothing. -/
@[reducible] def Recording.Reply (Res : Cmd → Type) : Recording Cmd ι κ → Type
  | .work command => Res command
  | .enter _ _ => Unit

/-- A program that keeps records. -/
abbrev RecordedProg (Cmd : Type) (Res : Cmd → Type) (ι κ α : Type) : Type :=
  Prog (Recording Cmd ι κ) (Recording.Reply Res) α

namespace Prog

/-- The program with no entries. -/
def lift : Prog Cmd Res α → RecordedProg Cmd Res ι κ α
  | ret value => ret value
  | act command resume => act (.work command) fun reply => (resume reply).lift

/-- The program without its entries. -/
def erase : RecordedProg Cmd Res ι κ α → Prog Cmd Res α
  | ret value => ret value
  | act (.work command) resume => act command fun reply => (resume reply).erase
  | act (.enter _ _) resume => (resume ()).erase

@[simp] theorem erase_ret (value : α) :
    (ret value : RecordedProg Cmd Res ι κ α).erase = ret value := rfl

@[simp] theorem erase_lift (program : Prog Cmd Res α) :
    (program.lift : RecordedProg Cmd Res ι κ α).erase = program := by
  induction program with
  | ret value => rfl
  | act command resume ih => exact congrArg (act command) (funext ih)

theorem lift_bind (first : Prog Cmd Res α) (next : α → Prog Cmd Res β) :
    ((first >>= next).lift : RecordedProg Cmd Res ι κ β) =
      first.lift >>= fun value => (next value).lift := by
  induction first with
  | ret value => rfl
  | act command resume ih => exact congrArg (act (Recording.work command)) (funext ih)

@[simp] theorem erase_bind (first : RecordedProg Cmd Res ι κ α)
    (next : α → RecordedProg Cmd Res ι κ β) :
    (first >>= next).erase = first.erase >>= fun value => (next value).erase := by
  induction first with
  | ret value => rfl
  | act command resume ih =>
      cases command with
      | work command => exact congrArg (act command) (funext ih)
      | enter owner key => exact ih ()

@[simp] theorem erase_enter (owner : ι) (key : κ) :
    (issue (Recording.enter owner key) : RecordedProg Cmd Res ι κ Unit).erase = ret () := rfl

end Prog

/-- A shared state with a record for each client. -/
structure Annotated (ι S R : Type) where
  shared : S
  records : ι → R

section Execution

variable [DecidableEq ι] (enter : κ → R → R) (exec : (command : Cmd) → S → Res command × S)

/-- Commands act on the shared state, entries on the record of their owner. -/
def Annotated.perform : (command : Recording Cmd ι κ) → Annotated ι S R →
    Recording.Reply Res command × Annotated ι S R
  | .work command, state =>
      ((exec command state.shared).1, { state with shared := (exec command state.shared).2 })
  | .enter owner key, state =>
      ((), { state with
        records := Function.update state.records owner (enter key (state.records owner)) })

/-- Run alone, a program that keeps records does the work of the program without
them. -/
theorem Annotated.run_erase (program : RecordedProg Cmd Res ι κ α) (state : Annotated ι S R) :
    ((program.run (Annotated.perform enter exec) state).1,
        (program.run (Annotated.perform enter exec) state).2.shared) =
      program.erase.run exec state.shared := by
  induction program generalizing state with
  | ret value => rfl
  | act command resume ih =>
      cases command with
      | work command => exact ih _ _
      | enter owner key => exact ih () _

end Execution

/-- What a running operation has called for and not entered yet. -/
@[ext] structure Debt (ι κ : Type) where
  owner : ι
  owing : κ → Int

/-- An operation that has called for nothing yet. -/
def Debt.settled (owner : ι) : Debt ι κ := ⟨owner, fun _ => 0⟩

/-- How commands are to be recorded: what each calls for, what an entry does to a
record and what a record shows. -/
structure RecordRules (Cmd : Type) (Res : Cmd → Type) (R κ : Type) where
  due : (command : Cmd) → Res command → κ → Int
  enter : κ → R → R
  shown : R → κ → Int

namespace RecordRules

variable [DecidableEq κ] (rules : RecordRules Cmd Res R κ)

/-- An entry shows once. -/
def Counts : Prop :=
  ∀ key record other,
    rules.shown (rules.enter key record) other =
      rules.shown record other + if key = other then 1 else 0

/-- Follows what an operation owes to its record. Entries go into its own. -/
def monitor : Monitor (Recording Cmd ι κ) (Recording.Reply Res) (Debt ι κ) where
  update debt
    | .work command, reply =>
        { debt with owing := fun key => debt.owing key + rules.due command reply key }
    | .enter _ entered, _ =>
        { debt with owing := fun key => debt.owing key - if entered = key then 1 else 0 }
  allowed debt
    | .work _ => True
    | .enter owner _ => owner = debt.owner
  possible _ _ := True

/-- What a command calls for, when its client runs it. -/
def dueOf [DecidableEq ι] (client : ι) (key : κ) :
    Event ι Op (Recording Cmd ι κ) (Recording.Reply Res) α → Int
  | .acted actor (.work command) reply => if actor = client then rules.due command reply key else 0
  | _ => 0

/-- What the commands of a client in the history called for. -/
def dues [DecidableEq ι] (client : ι) (key : κ)
    (history : List (Event ι Op (Recording Cmd ι κ) (Recording.Reply Res) α)) : Int :=
  history.foldl (fun total event => total + rules.dueOf client key event) 0

omit [DecidableEq κ] in
theorem dues_snoc [DecidableEq ι] (client : ι) (key : κ)
    (history : List (Event ι Op (Recording Cmd ι κ) (Recording.Reply Res) α))
    (event : Event ι Op (Recording Cmd ι κ) (Recording.Reply Res) α) :
    rules.dues client key (history ++ [event]) =
      rules.dues client key history + rules.dueOf client key event := by
  simp [dues]

/-- The program calls for nothing that it does not enter. -/
def Honest (client : ι) (program : RecordedProg Cmd Res ι κ α) : Prop :=
  rules.monitor.Accepts (fun debt _ => ∀ key, debt.owing key = 0) (.settled client) program

/-- What the running operation of a client owes; nothing between operations. -/
def owed (debts : ι → Option (Op × Debt ι κ)) (client : ι) (key : κ) : Int :=
  match debts client with
  | none => 0
  | some (_, debt) => debt.owing key

/-- The account of every client: its record and what it still owes make up what its
commands called for. -/
structure Accounted [DecidableEq ι] (start state : Annotated ι S R)
    (debts : ι → Option (Op × Debt ι κ))
    (history : List (Event ι Op (Recording Cmd ι κ) (Recording.Reply Res) α)) : Prop where
  balance : ∀ client key,
    rules.shown (state.records client) key + owed debts client key =
      rules.shown (start.records client) key + rules.dues client key history
  owners : ∀ client op debt, debts client = some (op, debt) → debt.owner = client

variable {rules} {exec : (command : Cmd) → S → Res command × S} [DecidableEq ι]
  {start state : Annotated ι S R} {debts : ι → Option (Op × Debt ι κ)}
  {history : List (Event ι Op (Recording Cmd ι κ) (Recording.Reply Res) α)} {client : ι} {op : Op}

namespace Accounted

omit [DecidableEq κ] in
/-- An operation that begins or ends with nothing owing. -/
theorem quiet (accounted : rules.Accounted start state debts history)
    (event : Event ι Op (Recording Cmd ι κ) (Recording.Reply Res) α)
    (silent : ∀ other key, rules.dueOf other key event = 0)
    (before : ∀ key, owed debts client key = 0) (entry : Option (Op × Debt ι κ))
    (empty : ∀ op debt, entry = some (op, debt) → debt = .settled client) :
    rules.Accounted start state (Function.update debts client entry) (history ++ [event]) := by
  constructor
  · intro other key
    have balance := accounted.balance other key
    rw [rules.dues_snoc, silent, Int.add_zero, ← balance]
    by_cases same : other = client
    · subst same
      have after : owed (Function.update debts other entry) other key = 0 := by
        unfold owed
        rw [Function.update_self]
        cases entry with
        | none => rfl
        | some pair =>
            obtain ⟨op, debt⟩ := pair
            rw [empty op debt rfl]
            rfl
      rw [before, after]
    · unfold owed
      rw [Function.update_of_ne same]
  · intro other running debt shown
    by_cases same : other = client
    · subst same
      rw [Function.update_self] at shown
      rw [empty running debt shown]
      rfl
    · rw [Function.update_of_ne same] at shown
      exact accounted.owners other running debt shown

/-- A command adds to what is owed as much as it calls for, an entry pays one. -/
theorem act (accounted : rules.Accounted start state debts history) (counts : rules.Counts)
    {debt : Debt ι κ} (found : debts client = some (op, debt)) (command : Recording Cmd ι κ)
    (allowed : rules.monitor.allowed debt command) :
    rules.Accounted start (Annotated.perform rules.enter exec command state).2
      (Function.update debts client (some (op, rules.monitor.update debt command
        (Annotated.perform rules.enter exec command state).1)))
      (history ++
        [Event.acted client command (Annotated.perform rules.enter exec command state).1]) := by
  have owing : ∀ key, owed debts client key = debt.owing key := by
    intro key
    rw [owed, found]
  constructor
  · intro other key
    have balance := accounted.balance other key
    rw [rules.dues_snoc]
    by_cases same : other = client
    · subst same
      rw [owing] at balance
      cases command with
      | work command =>
          simp only [Annotated.perform, owed, monitor, Function.update_self, dueOf, ↓reduceIte]
          omega
      | enter owner entered =>
          obtain rfl : owner = other := allowed.trans (accounted.owners other op debt found)
          simp only [Annotated.perform, owed, monitor, Function.update_self, dueOf, counts entered]
          omega
    · have still : owed (Function.update debts client (some (op, rules.monitor.update debt
          command (Annotated.perform rules.enter exec command state).1))) other key =
          owed debts other key := by
        unfold owed
        rw [Function.update_of_ne same]
      rw [still]
      cases command with
      | work command =>
          simp only [Annotated.perform, dueOf, if_neg (Ne.symm same)]
          omega
      | enter owner entered =>
          obtain rfl : owner = client := allowed.trans (accounted.owners client op debt found)
          simp only [Annotated.perform, dueOf, Function.update_of_ne same]
          omega
  · intro other running reached shown
    rcases update_some_cases shown with ⟨rfl, entry⟩ | ⟨_, shown⟩
    · obtain ⟨rfl, rfl⟩ := Prod.mk.inj entry
      have owner := accounted.owners _ _ debt found
      cases command <;> exact owner
    · exact accounted.owners other running reached shown

end Accounted

/-- **Records tell what was done.** Under every interleaving of operations that leave
nothing owing, the record of a client between two operations shows what it showed
at the start and what the commands of that client have called for since. -/
theorem shown_of_idle (counts : rules.Counts) (exec : (command : Cmd) → S → Res command × S)
    (machine : Machine ι Op (Recording Cmd ι κ) (Recording.Reply Res) α (Annotated ι S R))
    (executes : machine.exec = Annotated.perform rules.enter exec) (callable : Op → Prop)
    (honest : ∀ client op, callable op → rules.Honest client (machine.code client op))
    (start : Annotated ι S R) (schedule : List (Action ι Op))
    (called : ∀ client op, .call client op ∈ schedule → callable op)
    (client : ι) (idle : (machine.runFrom (.initial start) schedule).client client = .idle)
    (key : κ) :
    rules.shown ((machine.runFrom (.initial start) schedule).shared.records client) key =
      rules.shown (start.records client) key +
        rules.dues client key (machine.runFrom (.initial start) schedule).history := by
  have invariant : machine.Invariant rules.monitor (fun client _ => .settled client)
      (fun _ _ debt _ => ∀ key, debt.owing key = 0)
      (fun _ action => True ∧ ∀ client op, action = .call client op → callable op)
      (rules.Accounted start) :=
    { accepts := fun _ client op permitted => honest client op (permitted.2 client op rfl)
      replies := fun _ _ _ _ _ _ _ _ _ => trivial
      call := fun config client op _ idle accounted =>
        accounted.quiet _ (fun _ _ => rfl)
          (fun key => by rw [owed, config.summary_of_idle idle]) _ fun _ _ same =>
            (Prod.mk.inj (Option.some.inj same)).2.symm
      act := fun config client op command _ _ _ busy allowed accounted => by
        rw [executes]
        exact accounted.act counts
          (config.summary_of_busy busy rules.monitor fun client _ => .settled client) command
          allowed
      ret := fun config _ _ _ _ _ busy paid accounted =>
        accounted.quiet _ (fun _ _ => rfl)
          (fun key => by rw [owed, config.summary_of_busy busy]; exact paid key) none
          fun _ _ same => by cases same }
  have permitted := (machine.permits_true (.initial start) schedule).and_forall
    fun action member client op (same : action = .call client op) =>
      called client op (same ▸ member)
  have accounted := invariant.run start
    ⟨fun _ _ => rfl, fun _ _ _ shown => by cases shown⟩ schedule permitted
  have balance := accounted.balance client key
  rw [owed, Config.summary_of_idle idle, Int.add_zero] at balance
  exact balance

end RecordRules

end Foundation
