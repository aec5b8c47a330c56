import Mathlib.Data.List.Basic
import CloudDogJobs.Foundation.Interleaving

/-!
# Tokens that commands supply, take and spend

For each key the shared state holds one token or none. Some commands supply the
token of a key, some take it, and some may only be issued by an operation that
has taken the token since it last spent one. An operation holds one token at
most. When no command takes a token that is not there, then under every
interleaving the commands that spend the token of a key are at most as many as
the token that was there at the start and those supplied since, and there is one
fewer of them while the token is still there.

`Foundation.Tokens` counts wins that operations return; here the wins are
commands, so they count even when their operation never returns.
-/

namespace Foundation

/-- How commands deal with the tokens of keys `κ`. -/
structure SpendingRules (Cmd : Type) (Res : Cmd → Type) (S κ : Type) where
  /-- The token of the key is there. -/
  available : S → κ → Bool
  /-- The key whose token the command supplies. -/
  supplies : (command : Cmd) → Res command → Option κ
  /-- The key whose token the command takes. -/
  takes : (command : Cmd) → Res command → Option κ
  /-- The key whose token the command spends. -/
  spends : Cmd → Option κ

namespace SpendingRules

variable {ι Op Cmd : Type} {Res : Cmd → Type} {α S κ : Type} [DecidableEq κ]
  (rules : SpendingRules Cmd Res S κ)

/-- Follows the token that an operation holds. -/
def monitor : Monitor Cmd Res (Option κ) where
  update held command reply :=
    match rules.takes command reply with
    | some key => some key
    | none => if (rules.spends command).isSome then none else held
  allowed held command := ∀ key, rules.spends command = some key → held = some key
  possible _ _ := True

/-- The command neither takes a token nor spends one. -/
def Idle (command : Cmd) : Prop :=
  (∀ reply, rules.takes command reply = none) ∧ rules.spends command = none

omit [DecidableEq κ] in
theorem update_of_idle {command : Cmd} (idle : rules.Idle command) (held : Option κ)
    (reply : Res command) : rules.monitor.update held command reply = held := by
  simp [monitor, idle.1 reply, idle.2]

omit [DecidableEq κ] in
/-- A program of idle commands leaves the token where it is. -/
theorem accepts_of_idle {program : Prog Cmd Res α} (idle : program.Only rules.Idle)
    (held : Option κ) :
    rules.monitor.Accepts (fun reached _ => reached = held) held program := by
  apply Monitor.Accepts.of_only rules.monitor ?_ idle
  intro command quiet
  refine ⟨?_, rules.update_of_idle quiet held⟩
  intro key spent
  rw [quiet.2] at spent
  cases spent

omit [DecidableEq κ] in
/-- A program that spends nothing may do anything else. -/
theorem accepts_of_thrifty {program : Prog Cmd Res α}
    (thrifty : program.Only fun command => rules.spends command = none) (held : Option κ) :
    rules.monitor.Accepts (fun _ _ => True) held program := by
  induction program generalizing held with
  | ret value => trivial
  | act command resume ih =>
      refine ⟨?_, fun reply _ => ih reply (thrifty.2 reply) _⟩
      intro key spent
      rw [thrifty.1] at spent
      cases spent

omit [DecidableEq κ] in
/-- What follows the last token spent may do anything else. -/
theorem accepts_bind_thrifty {β : Type} {first : Prog Cmd Res α} {next : α → Prog Cmd Res β}
    {held : Option κ} (before : rules.monitor.Accepts (fun _ _ => True) held first)
    (thrifty : ∀ value, (next value).Only fun command => rules.spends command = none) :
    rules.monitor.Accepts (fun _ _ => True) held (first >>= next) := by
  rw [Monitor.accepts_bind]
  refine Monitor.Accepts.mono rules.monitor ?_ before
  intro reached value _
  exact rules.accepts_of_thrifty (thrifty value) reached

/-- The commands of the history that spent the token of the key. -/
def spentCount (history : List (Event ι Op Cmd Res α)) (key : κ) : Nat :=
  history.countP fun
    | .acted _ command _ => rules.spends command = some key
    | _ => false

/-- The commands of the history that supplied the token of the key. -/
def suppliedCount (history : List (Event ι Op Cmd Res α)) (key : κ) : Nat :=
  history.countP fun
    | .acted _ command reply => rules.supplies command reply = some key
    | _ => false

/-- One token or none. -/
def stock (state : S) (key : κ) : Nat := (rules.available state key).toNat

/-- What the commands and the operations owe to the rules. -/
structure Fair (machine : Machine ι Op Cmd Res α S) : Prop where
  /-- A token is taken only where there is one, and none is left. -/
  takes : ∀ command state key, rules.takes command (machine.exec command state).1 = some key →
    rules.available state key = true ∧
      rules.available (machine.exec command state).2 key = false
  /-- No command makes a token out of nothing. -/
  leaves : ∀ command state key, rules.available (machine.exec command state).2 key = true →
    rules.available state key = true ∨
      rules.supplies command (machine.exec command state).1 = some key
  /-- An operation spends the token it holds. -/
  honest : ∀ client op,
    rules.monitor.Accepts (fun _ _ => True) none (machine.code client op)

variable [DecidableEq ι]

/-- One event's effect on the tokens that were taken and not yet spent. -/
def onTaken (taken : List (ι × κ)) : Event ι Op Cmd Res α → List (ι × κ)
  | .acted client command reply =>
      let left := match rules.spends command with
        | some key => taken.erase (client, key)
        | none => taken
      match rules.takes command reply with
      | some key => left ++ [(client, key)]
      | none => left
  | _ => taken

/-- The tokens that were taken and not spent. -/
def outstanding (history : List (Event ι Op Cmd Res α)) : List (ι × κ) :=
  history.foldl rules.onTaken []

theorem outstanding_snoc (history : List (Event ι Op Cmd Res α)) (event : Event ι Op Cmd Res α) :
    rules.outstanding (history ++ [event]) = rules.onTaken (rules.outstanding history) event := by
  simp [outstanding]

/-- The outstanding tokens of a key. -/
def outstandingCount (history : List (Event ι Op Cmd Res α)) (key : κ) : Nat :=
  (rules.outstanding history).countP fun entry => entry.2 = key

/-- The conservation law, and where the tokens of running operations are. -/
structure Conserved (start state : S) (held : ι → Option (Op × Option κ))
    (history : List (Event ι Op Cmd Res α)) : Prop where
  bound : ∀ key, rules.spentCount history key + rules.outstandingCount history key +
    rules.stock state key ≤ rules.stock start key + rules.suppliedCount history key
  owned : ∀ client op key, held client = some (op, some key) →
    (client, key) ∈ rules.outstanding history

namespace Conserved

variable {rules} {machine : Machine ι Op Cmd Res α S} {start state : S}
  {held : ι → Option (Op × Option κ)} {history : List (Event ι Op Cmd Res α)} {client : ι} {op : Op}

/-- An event that is no command changes no count. -/
theorem quiet (conserved : rules.Conserved start state held history)
    (event : Event ι Op Cmd Res α) (silent : ∀ other command reply,
      event ≠ .acted other command reply)
    (entry : Option (Op × Option κ)) (empty : ∀ op key, entry ≠ some (op, some key)) :
    rules.Conserved start state (Function.update held client entry) (history ++ [event]) := by
  have same : rules.outstanding (history ++ [event]) = rules.outstanding history := by
    rw [rules.outstanding_snoc]
    cases event <;> first | rfl | exact absurd rfl (silent _ _ _)
  have uncounted : ∀ key, rules.spentCount (history ++ [event]) key =
      rules.spentCount history key ∧
        rules.suppliedCount (history ++ [event]) key = rules.suppliedCount history key := by
    intro key
    cases event <;> first
      | exact absurd rfl (silent _ _ _)
      | simp [spentCount, suppliedCount]
  constructor
  · intro key
    have before := conserved.bound key
    unfold outstandingCount at before ⊢
    rw [same, (uncounted key).1, (uncounted key).2]
    exact before
  · intro other running key shown
    rw [same]
    by_cases mover : other = client
    · subst mover
      rw [Function.update_self] at shown
      exact absurd shown (empty running key)
    · rw [Function.update_of_ne mover] at shown
      exact conserved.owned other running key shown

omit [DecidableEq ι] in
/-- What a command adds to the counts of a key. -/
theorem counts_acted (history : List (Event ι Op Cmd Res Out)) (client : ι) (command : Cmd)
    (reply : Res command) (key : κ) :
    rules.spentCount (history ++ [Event.acted client command reply]) key =
        rules.spentCount history key + (if rules.spends command = some key then 1 else 0) ∧
      rules.suppliedCount (history ++ [Event.acted client command reply]) key =
        rules.suppliedCount history key +
          (if rules.supplies command reply = some key then 1 else 0) := by
  constructor
  · simp [spentCount, List.countP_append, List.countP_singleton]
  · simp [suppliedCount, List.countP_append, List.countP_singleton]

/-- A command takes the token it spends out of the outstanding ones, and adds the
token it takes to them. -/
theorem outstandingCount_acted (command : Cmd) (reply : Res command) (key : κ)
    (owned : ∀ key, rules.spends command = some key →
      (client, key) ∈ rules.outstanding history) :
    rules.outstandingCount (history ++ [Event.acted client command reply]) key +
        (if rules.spends command = some key then 1 else 0) =
      rules.outstandingCount history key +
        (if rules.takes command reply = some key then 1 else 0) := by
  have added : ∀ left : List (ι × κ),
      ((match rules.takes command reply with
          | some taken => left ++ [(client, taken)]
          | none => left).countP fun entry : ι × κ => entry.2 = key) =
        left.countP (fun entry => entry.2 = key) +
          if rules.takes command reply = some key then 1 else 0 := by
    intro left
    cases rules.takes command reply with
    | none => simp
    | some taken => simp [List.countP_append, List.countP_singleton]
  unfold outstandingCount
  rw [rules.outstanding_snoc]
  simp only [onTaken]
  rw [added]
  cases spent : rules.spends command with
  | none => simp
  | some first =>
      have counts := (List.perm_cons_erase (owned first spent)).countP_eq
        fun entry : ι × κ => entry.2 = key
      rw [List.countP_cons] at counts
      by_cases same : first = key
      · simp only [same, decide_true, ↓reduceIte] at counts ⊢
        omega
      · simp only [same, decide_false, Bool.false_eq_true, ↓reduceIte, Option.some.injEq]
          at counts ⊢
        omega

theorem act (conserved : rules.Conserved start state held history) (fair : rules.Fair machine)
    {token : Option κ} (found : held client = some (op, token)) (command : Cmd)
    (allowed : rules.monitor.allowed token command) :
    rules.Conserved start (machine.exec command state).2
      (Function.update held client (some (op, rules.monitor.update token command
        (machine.exec command state).1)))
      (history ++ [Event.acted client command (machine.exec command state).1]) := by
  have own : ∀ key, rules.spends command = some key →
      (client, key) ∈ rules.outstanding history := by
    intro key spent
    apply conserved.owned client op key
    rw [found, allowed key spent]
  have snoc := rules.outstanding_snoc history
    (.acted client command (machine.exec command state).1)
  constructor
  · intro key
    have before := conserved.bound key
    have moved := outstandingCount_acted command (machine.exec command state).1 key own
    obtain ⟨spent, supplied⟩ := counts_acted history client command
      (machine.exec command state).1 key
    have balance : (if rules.takes command (machine.exec command state).1 = some key then 1 else 0)
          + rules.stock (machine.exec command state).2 key ≤
        rules.stock state key +
          if rules.supplies command (machine.exec command state).1 = some key then 1 else 0 := by
      unfold stock
      by_cases given : rules.takes command (machine.exec command state).1 = some key
      · obtain ⟨there, gone⟩ := fair.takes command state key given
        simp [given, there, gone]
      · rw [if_neg given]
        cases left : rules.available (machine.exec command state).2 key with
        | false => simp
        | true =>
            rcases fair.leaves command state key left with there | fresh
            · simp [there]
            · simp [fresh]
    rw [spent, supplied]
    omega
  · intro other running key shown
    rw [snoc]
    simp only [onTaken]
    rcases update_some_cases shown with ⟨rfl, entry⟩ | ⟨different, shown⟩
    · have reached : rules.monitor.update token command (machine.exec command state).1 =
          some key := (Prod.mk.inj entry).2.symm
      simp only [monitor] at reached
      cases taken : rules.takes command (machine.exec command state).1 with
      | some fresh =>
          rw [taken] at reached
          obtain rfl := Option.some.inj reached
          exact List.mem_append_right _ (List.mem_singleton.mpr rfl)
      | none =>
          rw [taken] at reached
          cases spent : rules.spends command with
          | some first => simp [spent] at reached
          | none =>
              have kept : token = some key := by simpa [spent] using reached
              rw [kept] at found
              exact conserved.owned _ op key found
    · have inside := conserved.owned other running key shown
      have left : (other, key) ∈ (match rules.spends command with
          | some first => (rules.outstanding history).erase (client, first)
          | none => rules.outstanding history) := by
        split
        · exact (List.mem_erase_of_ne fun equal => different (congrArg Prod.fst equal)).mpr inside
        · exact inside
      split
      · exact List.mem_append_left _ left
      · exact left

end Conserved

/-- **Conservation of tokens.** Under every interleaving the token of a key is spent
at most as often as it was there or supplied, and once less while it is there. -/
theorem Fair.spentCount_le {rules : SpendingRules Cmd Res S κ}
    {machine : Machine ι Op Cmd Res α S} (fair : rules.Fair machine) (state : S)
    (schedule : List (Action ι Op)) (key : κ) :
    rules.spentCount (machine.runFrom (.initial state) schedule).history key +
        rules.stock (machine.runFrom (.initial state) schedule).shared key ≤
      rules.stock state key +
        rules.suppliedCount (machine.runFrom (.initial state) schedule).history key := by
  have invariant : machine.Invariant rules.monitor (fun _ _ => none) (fun _ _ _ _ => True)
      (fun _ _ => True) (rules.Conserved state) :=
    { accepts := fun _ client op _ => fair.honest client op
      replies := fun _ _ _ _ _ _ _ _ _ => trivial
      call := fun _ _ _ _ _ conserved =>
        conserved.quiet _ (fun _ _ _ same => by cases same) _ fun _ _ same => by cases same
      act := fun config _ _ command _ _ _ busy allowed conserved =>
        conserved.act fair (config.summary_of_busy busy rules.monitor fun _ _ => none) command
          allowed
      ret := fun _ _ _ _ _ _ _ _ conserved =>
        conserved.quiet _ (fun _ _ _ same => by cases same) _ fun _ _ same => by cases same }
  have conserved := invariant.run state
    ⟨fun key => by simp [spentCount, suppliedCount, outstandingCount, outstanding],
      fun _ _ _ shown => by cases shown⟩
    schedule (machine.permits_true _ schedule)
  have bound := conserved.bound key
  omega

end SpendingRules

end Foundation
