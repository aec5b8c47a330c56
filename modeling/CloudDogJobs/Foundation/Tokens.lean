import Mathlib.Data.List.Basic
import CloudDogJobs.Foundation.Interleaving

/-!
# Tokens that commands supply and take

For each key the shared state holds one token or none. A command may supply the
token of a key, and a command may take it; an operation may return that it has
won the key. When no command takes a token that is not there, and an operation
returns a win only after one of its own commands took the token, then under
every interleaving each key is won at most as often as it was supplied.

The argument is a conservation law: the wins returned, the tokens taken by
operations that have not returned yet and the token still available never
exceed the tokens supplied.
-/

namespace Foundation

/-- How commands and operations deal with the tokens of keys `κ`. -/
structure TokenRules (Op Cmd : Type) (Res : Cmd → Type) (α S κ : Type) where
  /-- The token of the key is there. -/
  available : S → κ → Bool
  /-- The key whose token the command supplies. -/
  supplies : (command : Cmd) → Res command → Option κ
  /-- The key whose token the command takes. -/
  takes : (command : Cmd) → Res command → Option κ
  /-- The key that an operation with this result has won. -/
  wins : Op → α → Option κ

namespace TokenRules

variable {ι Op Cmd : Type} {Res : Cmd → Type} {α S κ : Type} [DecidableEq κ]
  (rules : TokenRules Op Cmd Res α S κ)

/-- Follows the keys whose tokens an operation has taken. -/
def monitor : Monitor Cmd Res (List κ) where
  update taken command reply :=
    match rules.takes command reply with
    | some key => key :: taken
    | none => taken
  allowed _ _ := True
  possible _ _ := True

omit [DecidableEq κ] in
theorem mem_update {taken : List κ} {command : Cmd} {reply : Res command} {key : κ} :
    key ∈ rules.monitor.update taken command reply ↔
      rules.takes command reply = some key ∨ key ∈ taken := by
  show key ∈ (match rules.takes command reply with
    | some key => key :: taken
    | none => taken) ↔ _
  cases rules.takes command reply with
  | none => simp
  | some first => simp [eq_comm]

omit [DecidableEq κ] in
/-- An operation that never wins is honest, whatever it does. -/
theorem accepts_of_never_wins {op : Op} (never : ∀ value, rules.wins op value = none)
    (program : Prog Cmd Res α) :
    rules.monitor.Accepts (fun taken value => ∀ key, rules.wins op value = some key → key ∈ taken)
      [] program := by
  apply Monitor.Accepts.of_forall _ fun _ _ => trivial
  intro taken value key won
  rw [never value] at won
  cases won

/-- The operations of the history that returned a win of the key. -/
def wonCount (history : List (Event ι Op Cmd Res α)) (key : κ) : Nat :=
  history.countP fun
    | .returned _ op value => rules.wins op value = some key
    | _ => false

/-- The commands of the history that supplied the token of the key. -/
def suppliedCount (history : List (Event ι Op Cmd Res α)) (key : κ) : Nat :=
  history.countP fun
    | .acted _ command reply => rules.supplies command reply = some key
    | _ => false

/-- One token or none. -/
def stock (state : S) (key : κ) : Nat := (rules.available state key).toNat

/-- What the commands and the operations owe to the rules. -/
structure Fair (machine : Machine ι Op Cmd Res α S) : Prop where
  /-- No command makes a token out of nothing. -/
  balance : ∀ command state key,
    (if rules.takes command (machine.exec command state).1 = some key then 1 else 0) +
        rules.stock (machine.exec command state).2 key ≤
      rules.stock state key +
        if rules.supplies command (machine.exec command state).1 = some key then 1 else 0
  /-- An operation that returns a win took the token. -/
  honest : ∀ client op, rules.monitor.Accepts
    (fun taken value => ∀ key, rules.wins op value = some key → key ∈ taken) []
    (machine.code client op)

/-- A command balances when it takes a token only where there is one, leaving none,
and leaves one only where there was one or where it supplies it. -/
theorem balance_of_cases {state after : S} {key : κ} {taken supplied : Option κ}
    (takes : taken = some key →
      rules.available state key = true ∧ rules.available after key = false)
    (leaves : rules.available after key = true →
      rules.available state key = true ∨ supplied = some key) :
    (if taken = some key then 1 else 0) + rules.stock after key ≤
      rules.stock state key + if supplied = some key then 1 else 0 := by
  unfold stock
  by_cases given : taken = some key
  · obtain ⟨before, left⟩ := takes given
    simp [given, before, left]
  · rw [if_neg given]
    cases left : rules.available after key with
    | false => simp
    | true =>
        rcases leaves left with before | fresh
        · simp [before]
        · simp [fresh]

variable [DecidableEq ι]

/-- One event's effect on the tokens that were taken and not yet returned. -/
def onTaken (taken : List (ι × κ)) : Event ι Op Cmd Res α → List (ι × κ)
  | .acted client command reply =>
      match rules.takes command reply with
      | some key => taken ++ [(client, key)]
      | none => taken
  | .returned client op value =>
      match rules.wins op value with
      | some key => taken.erase (client, key)
      | none => taken
  | .called _ _ => taken

/-- The tokens taken by operations that have not returned them as a win. -/
def outstanding (history : List (Event ι Op Cmd Res α)) : List (ι × κ) :=
  history.foldl rules.onTaken []

theorem outstanding_snoc (history : List (Event ι Op Cmd Res α)) (event : Event ι Op Cmd Res α) :
    rules.outstanding (history ++ [event]) = rules.onTaken (rules.outstanding history) event := by
  simp [outstanding]

/-- The outstanding tokens of a key. -/
def outstandingCount (history : List (Event ι Op Cmd Res α)) (key : κ) : Nat :=
  (rules.outstanding history).countP fun entry => entry.2 = key

/-- The conservation law, and where the tokens of running operations are. -/
structure Conserved (state : S) (taken : ι → Option (Op × List κ))
    (history : List (Event ι Op Cmd Res α)) : Prop where
  bound : ∀ key, rules.wonCount history key + rules.outstandingCount history key +
    rules.stock state key ≤ rules.suppliedCount history key
  owned : ∀ client op keys, taken client = some (op, keys) → ∀ key ∈ keys,
    (client, key) ∈ rules.outstanding history

namespace Conserved

variable {rules} {machine : Machine ι Op Cmd Res α S} {state : S}
  {taken : ι → Option (Op × List κ)} {history : List (Event ι Op Cmd Res α)} {client : ι} {op : Op}

theorem call (conserved : rules.Conserved state taken history) :
    rules.Conserved state (Function.update taken client (some (op, [])))
      (history ++ [Event.called client op]) := by
  have same : rules.outstanding (history ++ [Event.called client op]) = rules.outstanding history :=
    rules.outstanding_snoc history _
  constructor
  · intro key
    have before := conserved.bound key
    simpa [wonCount, suppliedCount, outstandingCount, same] using before
  · intro other running keys shown key member
    rw [same]
    rcases update_some_cases shown with ⟨rfl, entry⟩ | ⟨_, shown⟩
    · obtain ⟨rfl, rfl⟩ := Prod.mk.inj entry
      cases member
    · exact conserved.owned other running keys shown key member

/-- A command moves a token to its operation, or adds one to the stock. -/
theorem act (conserved : rules.Conserved state taken history) (fair : rules.Fair machine)
    {keys : List κ} (found : taken client = some (op, keys)) (command : Cmd) :
    rules.Conserved (machine.exec command state).2
      (Function.update taken client (some (op, rules.monitor.update keys command
        (machine.exec command state).1)))
      (history ++ [Event.acted client command (machine.exec command state).1]) := by
  have snoc := rules.outstanding_snoc history
    (.acted client command (machine.exec command state).1)
  have counted : ∀ key, rules.outstandingCount
      (history ++ [Event.acted client command (machine.exec command state).1]) key =
        rules.outstandingCount history key +
          if rules.takes command (machine.exec command state).1 = some key then 1 else 0 := by
    intro key
    unfold outstandingCount
    rw [snoc]
    simp only [onTaken]
    cases rules.takes command (machine.exec command state).1 with
    | none => simp
    | some first => simp [List.countP_append, List.countP_singleton]
  constructor
  · intro key
    have before := conserved.bound key
    have moved := fair.balance command state key
    have won : rules.wonCount
        (history ++ [Event.acted client command (machine.exec command state).1]) key =
          rules.wonCount history key := by
      simp [wonCount]
    have supplied : rules.suppliedCount
        (history ++ [Event.acted client command (machine.exec command state).1]) key =
          rules.suppliedCount history key +
            if rules.supplies command (machine.exec command state).1 = some key then 1 else 0 := by
      simp [suppliedCount, List.countP_append, List.countP_singleton]
    rw [won, counted, supplied]
    omega
  · have kept : ∀ entry ∈ rules.outstanding history, entry ∈ rules.outstanding
        (history ++ [Event.acted client command (machine.exec command state).1]) := by
      intro entry member
      rw [snoc]
      simp only [onTaken]
      split
      · exact List.mem_append_left _ member
      · exact member
    intro other running now shown key member
    rcases update_some_cases shown with ⟨rfl, entry⟩ | ⟨_, shown⟩
    · obtain ⟨rfl, rfl⟩ := Prod.mk.inj entry
      rcases rules.mem_update.mp member with fresh | earlier
      · rw [snoc]
        simp only [onTaken, fresh]
        exact List.mem_append_right _ (List.mem_singleton.mpr rfl)
      · exact kept _ (conserved.owned other running keys found key earlier)
    · exact kept _ (conserved.owned other running now shown key member)

/-- A win that is returned is one outstanding token less. -/
theorem ret (conserved : rules.Conserved state taken history) {keys : List κ}
    (found : taken client = some (op, keys)) (value : α)
    (honest : ∀ key, rules.wins op value = some key → key ∈ keys) :
    rules.Conserved state (Function.update taken client none)
      (history ++ [Event.returned client op value]) := by
  have snoc := rules.outstanding_snoc history (.returned client op value)
  constructor
  · intro key
    have before := conserved.bound key
    have supplied : rules.suppliedCount (history ++ [Event.returned client op value]) key =
        rules.suppliedCount history key := by
      simp [suppliedCount]
    have won : rules.wonCount (history ++ [Event.returned client op value]) key =
        rules.wonCount history key + if rules.wins op value = some key then 1 else 0 := by
      simp [wonCount, List.countP_append, List.countP_singleton]
    have counted : rules.outstandingCount (history ++ [Event.returned client op value]) key +
        (if rules.wins op value = some key then 1 else 0) ≤
          rules.outstandingCount history key := by
      unfold outstandingCount
      rw [snoc]
      simp only [onTaken]
      cases winner : rules.wins op value with
      | none => simp
      | some first =>
          have member := conserved.owned client op keys found first (honest first winner)
          have counts := (List.perm_cons_erase member).countP_eq fun entry => entry.2 = key
          rw [List.countP_cons] at counts
          by_cases same : first = key
          · simp only [same, decide_true, ↓reduceIte] at counts ⊢
            omega
          · simp only [same, decide_false, Bool.false_eq_true, ↓reduceIte, Option.some.injEq]
              at counts ⊢
            omega
    rw [supplied, won]
    omega
  · intro other running now shown key member
    obtain ⟨different, shown⟩ := update_none_cases shown
    have inside := conserved.owned other running now shown key member
    rw [snoc]
    simp only [onTaken]
    split
    · exact (List.mem_erase_of_ne fun equal => different (congrArg Prod.fst equal)).mpr inside
    · exact inside

end Conserved

/-- **Conservation of tokens.** From a state without tokens, under every
interleaving, a key is won at most as often as its token was supplied. -/
theorem Fair.wonCount_le {rules : TokenRules Op Cmd Res α S κ}
    {machine : Machine ι Op Cmd Res α S} (fair : rules.Fair machine) (state : S)
    (none : ∀ key, rules.available state key = false) (schedule : List (Action ι Op)) (key : κ) :
    rules.wonCount (machine.runFrom (.initial state) schedule).history key ≤
      rules.suppliedCount (machine.runFrom (.initial state) schedule).history key := by
  have invariant : machine.Invariant rules.monitor (fun _ _ => [])
      (fun _ op taken value => ∀ key, rules.wins op value = some key → key ∈ taken)
      (fun _ _ => True) rules.Conserved :=
    { accepts := fun _ client op _ => fair.honest client op
      replies := fun _ _ _ _ _ _ _ _ _ => trivial
      call := fun _ _ _ _ _ conserved => conserved.call
      act := fun config _ _ command _ _ _ busy _ conserved =>
        conserved.act fair (config.summary_of_busy busy rules.monitor fun _ _ => []) command
      ret := fun config _ _ value _ _ busy honest conserved =>
        conserved.ret (config.summary_of_busy busy rules.monitor fun _ _ => []) value honest }
  have initially : rules.Conserved state (fun _ : ι => Option.none) [] := by
    constructor
    · intro key
      simp [wonCount, suppliedCount, outstandingCount, outstanding, stock, none key]
    · intro client op keys shown
      cases shown
  have conserved := invariant.run state initially schedule (machine.permits_true _ schedule)
  have bound := conserved.bound key
  omega

end TokenRules

end Foundation
