import CloudDogJobs.Foundation.Interleaving

/-!
# Commands that are programs of statements

Two machines on one shared state. In the first a command is one atomic step, in the
second it is a program of statements, and other clients may come between them.
`Lowering.Refines` compares a program of statements with a program of commands: each
statement is silent and changes nothing, or it is the next command. A program may rely
on a state that it has seen as far as no client takes it back; `later` says how far
that is.

When every operation of the second machine refines that of the first, every run of
statements is a run of commands with the same shared state and the same observations.
-/

namespace Foundation

section Programs

variable {Cmd Stmt : Type} {Res : Cmd → Type} {Ans : Stmt → Type} {α : Type}

/-- The program with every command written out in statements. -/
def Prog.expand (body : (command : Cmd) → Prog Stmt Ans (Res command)) :
    Prog Cmd Res α → Prog Stmt Ans α
  | .ret value => .ret value
  | .act command resume => body command >>= fun reply => (resume reply).expand body

end Programs

/-- What an observer sees of a run. -/
inductive Observation (ι Op L α : Type) : Type
  | called (client : ι) (op : Op)
  | noted (client : ι) (label : L)
  | returned (client : ι) (op : Op) (value : α)

section Observations

variable {ι Op Cmd L : Type} {Res : Cmd → Type} {α : Type}

def Event.observe (label : (command : Cmd) → Res command → Option L) :
    Event ι Op Cmd Res α → Option (Observation ι Op L α)
  | .called client op => some (.called client op)
  | .acted client command reply => (label command reply).map (.noted client)
  | .returned client op value => some (.returned client op value)

/-- The observations of a history, in their order. -/
def observed (label : (command : Cmd) → Res command → Option L)
    (history : List (Event ι Op Cmd Res α)) : List (Observation ι Op L α) :=
  history.filterMap (Event.observe label)

theorem observed_snoc (label : (command : Cmd) → Res command → Option L)
    (history : List (Event ι Op Cmd Res α)) (event : Event ι Op Cmd Res α) :
    observed label (history ++ [event]) =
      observed label history ++ (event.observe label).toList := by
  unfold observed
  rw [List.filterMap_append]
  rfl

end Observations

/-- Commands and statements on one state, what an observer sees of either, and what a
client may rely on once it has seen a state. -/
structure Lowering (Cmd : Type) (Res : Cmd → Type) (Stmt : Type) (Ans : Stmt → Type)
    (S L : Type) where
  exec : (command : Cmd) → S → Res command × S
  perform : (statement : Stmt) → S → Ans statement × S
  label : (command : Cmd) → Res command → Option L
  note : (statement : Stmt) → Ans statement → Option L
  later : S → S → Prop
  later_refl : ∀ state, later state state
  later_trans : ∀ first second third, later first second → later second third →
    later first third

namespace Lowering

variable {Cmd Stmt : Type} {Res : Cmd → Type} {Ans : Stmt → Type} {S L α β : Type}
  (lowering : Lowering Cmd Res Stmt Ans S L)

/-- A program of statements does what a program of commands does, when it starts in a
state later than the one it has seen. -/
def Refines : S → Prog Stmt Ans α → Prog Cmd Res α → Prop
  | _, .ret value, program => program = .ret value
  | seen, .act statement resume, program => ∀ state, lowering.later seen state →
      lowering.later state (lowering.perform statement state).2 ∧
        ((lowering.note statement (lowering.perform statement state).1 = none ∧
            (lowering.perform statement state).2 = state ∧
            Refines state (resume (lowering.perform statement state).1) program) ∨
          ∃ command next, program = .act command next ∧
            lowering.note statement (lowering.perform statement state).1 =
              lowering.label command (lowering.exec command state).1 ∧
            (lowering.perform statement state).2 = (lowering.exec command state).2 ∧
            Refines (lowering.perform statement state).2
              (resume (lowering.perform statement state).1)
              (next (lowering.exec command state).1))

variable {lowering}

/-- What a program has seen may be replaced by a later state. -/
theorem Refines.of_later {seen newer : S} {low : Prog Stmt Ans α} {high : Prog Cmd Res α}
    (refines : lowering.Refines seen low high) (later : lowering.later seen newer) :
    lowering.Refines newer low high := by
  cases low with
  | ret value => exact refines
  | act statement resume =>
      exact fun state after => refines state (lowering.later_trans _ _ _ later after)

/-- The rule for sequences. -/
theorem Refines.bind {seen : S} {low : Prog Stmt Ans α} {high : Prog Cmd Res α}
    {lowNext : α → Prog Stmt Ans β} {highNext : α → Prog Cmd Res β}
    (first : lowering.Refines seen low high)
    (others : ∀ value state, lowering.Refines state (lowNext value) (highNext value)) :
    lowering.Refines seen (low >>= lowNext) (high >>= highNext) := by
  induction low generalizing seen high with
  | ret value =>
      obtain rfl : high = .ret value := first
      exact others value seen
  | act statement resume ih =>
      intro state after
      obtain ⟨grows, silent | ⟨command, next, rfl, noted, moved, rest⟩⟩ := first state after
      · exact ⟨grows, .inl ⟨silent.1, silent.2.1, ih _ silent.2.2⟩⟩
      · exact ⟨grows, .inr ⟨command, _, rfl, noted, moved, ih _ rest⟩⟩

/-- Commands that are refined one by one make programs that are. -/
theorem Refines.expand {body : (command : Cmd) → Prog Stmt Ans (Res command)}
    (bodies : ∀ command seen, lowering.Refines seen (body command) (Prog.issue command))
    (program : Prog Cmd Res α) (seen : S) :
    lowering.Refines seen (program.expand body) program := by
  induction program generalizing seen with
  | ret value => rfl
  | act command resume ih => exact (bodies command seen).bind ih

variable (lowering) in
/-- A command that is one statement. -/
theorem refines_single (statement : Stmt) (command : Cmd)
    (finish : Ans statement → Res command)
    (grows : ∀ state, lowering.later state (lowering.perform statement state).2)
    (noted : ∀ state, lowering.note statement (lowering.perform statement state).1 =
      lowering.label command (lowering.exec command state).1)
    (same : ∀ state, lowering.exec command state =
      (finish (lowering.perform statement state).1, (lowering.perform statement state).2))
    (seen : S) :
    lowering.Refines seen (.act statement fun answer => .ret (finish answer))
      (Prog.issue command) := by
  intro state _
  refine ⟨grows state, .inr ⟨command, .ret, rfl, noted state, ?_, ?_⟩⟩
  · rw [same]
  · rw [same]
    rfl

section Machines

variable {ι Op : Type}

/-- The clients of two machines between the same observations. -/
inductive Twins (lowering : Lowering Cmd Res Stmt Ans S L) (shared : S) :
    Client Op Stmt Ans α → Client Op Cmd Res α → Prop
  | idle : Twins lowering shared .idle .idle
  | busy (op : Op) (seen : S) (low : Prog Stmt Ans α) (high : Prog Cmd Res α)
      (lowLog : List (Sigma Ans)) (highLog : List (Sigma Res))
      (later : lowering.later seen shared) (refines : lowering.Refines seen low high) :
      Twins lowering shared (.busy op low lowLog) (.busy op high highLog)

theorem Twins.of_later {before after : S} {low : Client Op Stmt Ans α}
    {high : Client Op Cmd Res α} (twins : Twins lowering before low high)
    (later : lowering.later before after) : Twins lowering after low high := by
  cases twins with
  | idle => exact .idle
  | busy op seen low high lowLog highLog earlier refines =>
      exact .busy op seen low high lowLog highLog (lowering.later_trans _ _ _ earlier later) refines

theorem Twins.idle_iff {shared : S} {low : Client Op Stmt Ans α} {high : Client Op Cmd Res α}
    (twins : Twins lowering shared low high) : high = .idle ↔ low = .idle := by
  cases twins with
  | idle => exact ⟨fun _ => rfl, fun _ => rfl⟩
  | busy op seen low high lowLog highLog later refines =>
      exact ⟨fun same => (nomatch same), fun same => (nomatch same)⟩

/-- Two configurations that an observer cannot tell apart. -/
structure Alike (lowering : Lowering Cmd Res Stmt Ans S L) (low : Config ι Op Stmt Ans α S)
    (high : Config ι Op Cmd Res α S) : Prop where
  shared : high.shared = low.shared
  observed : observed lowering.label high.history = observed lowering.note low.history
  clients : ∀ client, Twins lowering low.shared (low.client client) (high.client client)

variable [DecidableEq ι] {low : Machine ι Op Stmt Ans α S} {high : Machine ι Op Cmd Res α S}

/-- Replacing one client on each side keeps the others twins. -/
theorem twins_update {before after : S} {lows : ι → Client Op Stmt Ans α}
    {highs : ι → Client Op Cmd Res α}
    (clients : ∀ client, Twins lowering before (lows client) (highs client))
    (later : lowering.later before after) (client : ι) {newLow : Client Op Stmt Ans α}
    {newHigh : Client Op Cmd Res α} (twins : Twins lowering after newLow newHigh) (other : ι) :
    Twins lowering after (Function.update lows client newLow other)
      (Function.update highs client newHigh other) := by
  by_cases same : other = client
  · subst same
    rw [Function.update_self, Function.update_self]
    exact twins
  · rw [Function.update_of_ne same, Function.update_of_ne same]
    exact (clients other).of_later later

/-- One action of the statement machine is answered by at most one of the command
machine. -/
theorem Alike.step (performs : low.exec = lowering.perform) (executes : high.exec = lowering.exec)
    (refines : ∀ client op seen, lowering.Refines seen (low.code client op)
      (high.code client op))
    {lowConfig : Config ι Op Stmt Ans α S} {highConfig : Config ι Op Cmd Res α S}
    (alike : Alike lowering lowConfig highConfig) (action : Action ι Op) :
    ∃ actions, Alike lowering (low.step lowConfig action) (high.runFrom highConfig actions) := by
  rcases low.step_cases lowConfig action with
    stutter | ⟨client, op, rfl, idle, moved⟩ |
    ⟨client, op, statement, resume, log, rfl, busy, moved⟩ |
    ⟨client, op, value, log, rfl, busy, moved⟩
  · rw [stutter]
    exact ⟨[], alike⟩
  · have idle' := ((alike.clients client).idle_iff).mpr idle
    refine ⟨[.call client op], ?_⟩
    rw [moved, Machine.runFrom_cons, Machine.runFrom_nil]
    simp only [Machine.step, idle']
    constructor
    · exact alike.shared
    · rw [observed_snoc, observed_snoc, alike.observed]
      rfl
    · exact twins_update alike.clients (lowering.later_refl _) client
        (.busy op _ _ _ _ _ (lowering.later_refl _) (refines client op lowConfig.shared))
  · have twins := alike.clients client
    rw [busy] at twins
    generalize current : highConfig.client client = twin at twins
    cases twins with
    | busy _ seen _ program _ highLog later refined =>
        rw [moved, performs]
        obtain ⟨grows, ⟨unseen, still, rest⟩ | ⟨command, next, rfl, noted, same, rest⟩⟩ :=
          refined lowConfig.shared later
        · -- a silent statement: the command machine waits
          refine ⟨[], ?_⟩
          rw [Machine.runFrom_nil]
          constructor
          · rw [still]
            exact alike.shared
          · rw [observed_snoc, alike.observed, Event.observe, unseen]
            exact (List.append_nil _).symm
          · rw [← Function.update_eq_self client highConfig.client, current]
            refine twins_update alike.clients grows client ?_
            refine .busy op _ _ _ _ _ ?_ rest
            rw [still]
            exact lowering.later_refl _
        · -- the statement that is the command
          refine ⟨[.act client], ?_⟩
          rw [Machine.runFrom_cons, Machine.runFrom_nil]
          simp only [Machine.step, current, executes, alike.shared]
          constructor
          · exact same.symm
          · rw [observed_snoc, observed_snoc, alike.observed, Event.observe, Event.observe, noted]
          · exact twins_update alike.clients grows client
              (.busy op _ _ _ _ _ (lowering.later_refl _) rest)
  · have twins := alike.clients client
    rw [busy] at twins
    generalize current : highConfig.client client = twin at twins
    cases twins with
    | busy _ seen _ program _ highLog later refined =>
        obtain rfl : program = .ret value := refined
        refine ⟨[.ret client], ?_⟩
        rw [moved, Machine.runFrom_cons, Machine.runFrom_nil]
        simp only [Machine.step, current]
        constructor
        · exact alike.shared
        · rw [observed_snoc, observed_snoc, alike.observed]
          rfl
        · exact twins_update alike.clients (lowering.later_refl _) client .idle

/-- The run lemma. -/
theorem Alike.runFrom (performs : low.exec = lowering.perform)
    (executes : high.exec = lowering.exec)
    (refines : ∀ client op seen, lowering.Refines seen (low.code client op)
      (high.code client op))
    {lowConfig : Config ι Op Stmt Ans α S} {highConfig : Config ι Op Cmd Res α S}
    (alike : Alike lowering lowConfig highConfig) (schedule : List (Action ι Op)) :
    ∃ actions, Alike lowering (low.runFrom lowConfig schedule)
      (high.runFrom highConfig actions) := by
  induction schedule generalizing lowConfig highConfig with
  | nil => exact ⟨[], alike⟩
  | cons action rest ih =>
      obtain ⟨first, still⟩ := alike.step performs executes refines action
      obtain ⟨others, reached⟩ := ih still
      refine ⟨first ++ others, ?_⟩
      rw [Machine.runFrom_append]
      exact reached

variable (low high) in
/-- **Every run of statements is a run of commands.** -/
theorem refines_run (performs : low.exec = lowering.perform)
    (executes : high.exec = lowering.exec)
    (refines : ∀ client op seen, lowering.Refines seen (low.code client op)
      (high.code client op))
    (shared : S) (schedule : List (Action ι Op)) :
    ∃ actions, Alike lowering (low.runFrom (.initial shared) schedule)
      (high.runFrom (.initial shared) actions) :=
  Alike.runFrom performs executes refines ⟨rfl, rfl, fun _ => .idle⟩ schedule

end Machines

end Lowering

end Foundation
