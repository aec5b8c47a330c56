import Mathlib.Logic.Function.Basic

/-!
# Command programs

A program is a finite tree of atomic commands: it either returns, or issues one
command and continues with the command's reply. The same program text has two
readings. Run alone, its commands act on a state one after the other
(`Prog.run`). Run beside other programs, every command is one indivisible step
of an interleaving (`Foundation.Interleaving`).

A `Monitor` follows the commands of one program through a summary state and says
which commands are allowed in which summary, and which replies a command can
give at all. `Monitor.Accepts` is the weakest precondition of a program for a
monitor: it is computed from the program text alone, for every possible reply,
so it holds under any interleaving.
-/

namespace Foundation

/-- Programs over commands `Cmd` with replies `Res`, returning an `α`. -/
inductive Prog (Cmd : Type) (Res : Cmd → Type) (α : Type) : Type
  | ret (value : α)
  | act (command : Cmd) (next : Res command → Prog Cmd Res α)

namespace Prog

variable {Cmd : Type} {Res : Cmd → Type} {α β S G : Type}

/-- Run a program and continue with its value. -/
def bind (first : Prog Cmd Res α) (next : α → Prog Cmd Res β) : Prog Cmd Res β :=
  match first with
  | ret value => next value
  | act command resume => act command fun reply => (resume reply).bind next

instance : Monad (Prog Cmd Res) where
  pure := ret
  bind := bind

/-- Issue one command and return its reply. -/
def issue (command : Cmd) : Prog Cmd Res (Res command) := act command ret

@[simp] theorem pure_eq_ret (value : α) : (pure value : Prog Cmd Res α) = ret value := rfl

@[simp] theorem ret_bind (value : α) (next : α → Prog Cmd Res β) :
    (ret value >>= next) = next value := rfl

@[simp] theorem act_bind (command : Cmd) (resume : Res command → Prog Cmd Res α)
    (next : α → Prog Cmd Res β) :
    (act command resume >>= next) = act command fun reply => resume reply >>= next := rfl

@[simp] theorem issue_bind (command : Cmd) (next : Res command → Prog Cmd Res β) :
    (issue command >>= next) = act command next := rfl

/-- The result and final state of a program run alone. -/
def run (exec : (command : Cmd) → S → Res command × S) : Prog Cmd Res α → S → α × S
  | ret value, state => (value, state)
  | act command resume, state =>
      (resume (exec command state).1).run exec (exec command state).2

/-- The commands a program run alone issues, with their replies. -/
def trace (exec : (command : Cmd) → S → Res command × S) :
    Prog Cmd Res α → S → List (Sigma Res)
  | ret _, _ => []
  | act command resume, state =>
      ⟨command, (exec command state).1⟩ ::
        (resume (exec command state).1).trace exec (exec command state).2

variable (exec : (command : Cmd) → S → Res command × S)

@[simp] theorem run_ret (value : α) (state : S) :
    (ret value : Prog Cmd Res α).run exec state = (value, state) := rfl

@[simp] theorem run_act (command : Cmd) (resume : Res command → Prog Cmd Res α) (state : S) :
    (act command resume).run exec state =
      (resume (exec command state).1).run exec (exec command state).2 := rfl

@[simp] theorem trace_ret (value : α) (state : S) :
    (ret value : Prog Cmd Res α).trace exec state = [] := rfl

@[simp] theorem trace_act (command : Cmd) (resume : Res command → Prog Cmd Res α) (state : S) :
    (act command resume).trace exec state =
      ⟨command, (exec command state).1⟩ ::
        (resume (exec command state).1).trace exec (exec command state).2 := rfl

theorem run_bind (first : Prog Cmd Res α) (next : α → Prog Cmd Res β) (state : S) :
    (first >>= next).run exec state =
      (next (first.run exec state).1).run exec (first.run exec state).2 := by
  induction first generalizing state with
  | ret value => rfl
  | act command resume ih => exact ih _ _

theorem trace_bind (first : Prog Cmd Res α) (next : α → Prog Cmd Res β) (state : S) :
    (first >>= next).trace exec state =
      first.trace exec state ++
        (next (first.run exec state).1).trace exec (first.run exec state).2 := by
  induction first generalizing state with
  | ret value => rfl
  | act command resume ih =>
      rw [act_bind, trace_act, trace_act, List.cons_append, run_act, ih]

theorem map_eq_bind (change : α → β) (program : Prog Cmd Res α) :
    change <$> program = program >>= fun value => ret (change value) := rfl

@[simp] theorem run_map (change : α → β) (program : Prog Cmd Res α) (state : S) :
    (change <$> program).run exec state =
      (change (program.run exec state).1, (program.run exec state).2) := by
  rw [map_eq_bind, run_bind, run_ret]

/-- Every command the program can issue satisfies a predicate. -/
def Only (permitted : Cmd → Prop) : Prog Cmd Res α → Prop
  | ret _ => True
  | act command resume => permitted command ∧ ∀ reply, Only permitted (resume reply)

@[simp] theorem only_ret (permitted : Cmd → Prop) (value : α) :
    (ret value : Prog Cmd Res α).Only permitted ↔ True := Iff.rfl

@[simp] theorem only_act (permitted : Cmd → Prop) (command : Cmd)
    (resume : Res command → Prog Cmd Res α) :
    (act command resume).Only permitted ↔
      permitted command ∧ ∀ reply, (resume reply).Only permitted := Iff.rfl

theorem Only.bind {permitted : Cmd → Prop} {first : Prog Cmd Res α}
    {next : α → Prog Cmd Res β} (before : first.Only permitted)
    (after : ∀ value, (next value).Only permitted) : (first >>= next).Only permitted := by
  induction first with
  | ret value => exact after value
  | act command resume ih => exact ⟨before.1, fun reply => ih reply (before.2 reply)⟩

theorem Only.map {permitted : Cmd → Prop} {program : Prog Cmd Res α} (change : α → β)
    (only : program.Only permitted) : (change <$> program).Only permitted :=
  only.bind fun _ => trivial

theorem Only.mono {weak strong : Cmd → Prop} (implies : ∀ command, strong command → weak command)
    {program : Prog Cmd Res α} (only : program.Only strong) : program.Only weak := by
  induction program with
  | ret value => trivial
  | act command resume ih => exact ⟨implies command only.1, fun reply => ih reply (only.2 reply)⟩

/-- The commands in a trace of the program satisfy the predicate. -/
theorem Only.trace {permitted : Cmd → Prop} {program : Prog Cmd Res α}
    (only : program.Only permitted) {state : S} {entry : Sigma Res}
    (issued : entry ∈ program.trace exec state) : permitted entry.1 := by
  induction program generalizing state with
  | ret value => cases issued
  | act command resume ih =>
      rcases List.mem_cons.mp issued with rfl | later
      · exact only.1
      · exact ih _ (only.2 _) later

/-- A property that every permitted command preserves is preserved by the
program. -/
theorem Only.run {permitted : Cmd → Prop} {program : Prog Cmd Res α}
    (only : program.Only permitted) {holds : S → Prop}
    (keeps : ∀ command state, permitted command → holds state → holds (exec command state).2)
    {state : S} (start : holds state) : holds (program.run exec state).2 := by
  induction program generalizing state with
  | ret value => exact start
  | act command resume ih => exact ih _ (only.2 _) (keeps command state only.1 start)

/-- A property that every issued command preserves is preserved by the run. -/
theorem run_of_trace (holds : S → Prop) {program : Prog Cmd Res α} {state : S}
    (keeps : ∀ entry ∈ program.trace exec state, ∀ reached, holds reached →
      holds (exec entry.1 reached).2)
    (start : holds state) : holds (program.run exec state).2 := by
  induction program generalizing state with
  | ret value => exact start
  | act command resume ih =>
      apply ih
      · intro entry issued
        exact keeps entry (List.mem_cons_of_mem _ issued)
      · exact keeps _ List.mem_cons_self state start

/-- Every command of the program, run alone, meets a condition in the state that it
finds. -/
def Meets (condition : Cmd → S → Prop) : Prog Cmd Res α → S → Prop
  | ret _, _ => True
  | act command resume, state =>
      condition command state ∧
        Meets condition (resume (exec command state).1) (exec command state).2

@[simp] theorem meets_ret (condition : Cmd → S → Prop) (value : α) (state : S) :
    (ret value : Prog Cmd Res α).Meets exec condition state ↔ True := Iff.rfl

@[simp] theorem meets_act (condition : Cmd → S → Prop) (command : Cmd)
    (resume : Res command → Prog Cmd Res α) (state : S) :
    (act command resume).Meets exec condition state ↔
      condition command state ∧
        (resume (exec command state).1).Meets exec condition (exec command state).2 := Iff.rfl

theorem meets_bind (condition : Cmd → S → Prop) (first : Prog Cmd Res α)
    (next : α → Prog Cmd Res β) (state : S) :
    (first >>= next).Meets exec condition state ↔
      first.Meets exec condition state ∧
        (next (first.run exec state).1).Meets exec condition (first.run exec state).2 := by
  induction first generalizing state with
  | ret value => exact (iff_of_eq (true_and _)).symm
  | act command resume ih =>
      rw [act_bind, meets_act, meets_act, ih, and_assoc]
      rfl

theorem meets_map (condition : Cmd → S → Prop) (change : α → β) (program : Prog Cmd Res α)
    (state : S) :
    (change <$> program).Meets exec condition state ↔ program.Meets exec condition state := by
  rw [map_eq_bind, meets_bind]
  exact and_iff_left trivial

/-- A program that can issue no other commands. -/
theorem Only.meets {permitted : Cmd → Prop} {condition : Cmd → S → Prop}
    {program : Prog Cmd Res α} (only : program.Only permitted)
    (met : ∀ command state, permitted command → condition command state) (state : S) :
    program.Meets exec condition state := by
  induction program generalizing state with
  | ret value => trivial
  | act command resume ih => exact ⟨met command state only.1, ih _ (only.2 _) _⟩

/-- Two effects that agree on every command of a run leave the same run. -/
theorem Meets.run_eq {condition : Cmd → S → Prop}
    {other : (command : Cmd) → S → Res command × S} {program : Prog Cmd Res α} {state : S}
    (meets : program.Meets exec condition state)
    (same : ∀ command state, condition command state →
      exec command state = other command state) :
    program.run exec state = program.run other state := by
  induction program generalizing state with
  | ret value => rfl
  | act command resume ih =>
      rw [run_act, run_act, ih _ meets.2, same command state meets.1]

section Images

variable {T : Type} {image : S → T} {exec : (command : Cmd) → S → Res command × S}
  {above : (command : Cmd) → T → Res command × T}

/-- What commands do on the image of a state is what they do on the state. -/
def Lifts (image : S → T) (exec : (command : Cmd) → S → Res command × S)
    (above : (command : Cmd) → T → Res command × T) : Prop :=
  ∀ command state,
    above command (image state) = ((exec command state).1, image (exec command state).2)

/-- A program run alone on the image of a state. -/
theorem Lifts.run_image (lifts : Lifts image exec above) (program : Prog Cmd Res α) (state : S) :
    program.run above (image state) =
      ((program.run exec state).1, image (program.run exec state).2) := by
  induction program generalizing state with
  | ret value => rfl
  | act command resume ih => rw [run_act, run_act, lifts, ih]

theorem Lifts.trace_image (lifts : Lifts image exec above) (program : Prog Cmd Res α)
    (state : S) : program.trace above (image state) = program.trace exec state := by
  induction program generalizing state with
  | ret value => rfl
  | act command resume ih => rw [trace_act, trace_act, lifts, ih]

end Images

section Marks

variable {M : Type} (read : Cmd → Option M)

/-- What an observer of some commands sees of a program run alone, in order. -/
def marks (program : Prog Cmd Res α) (state : S) : List M :=
  (program.trace exec state).filterMap fun entry => read entry.1

@[simp] theorem marks_ret (value : α) (state : S) :
    (ret value : Prog Cmd Res α).marks exec read state = [] := rfl

theorem marks_bind (first : Prog Cmd Res α) (next : α → Prog Cmd Res β) (state : S) :
    (first >>= next).marks exec read state =
      first.marks exec read state ++
        (next (first.run exec state).1).marks exec read (first.run exec state).2 := by
  rw [marks, trace_bind, List.filterMap_append]
  rfl

/-- A program that issues no observed command. -/
theorem Only.marks_eq_nil {read : Cmd → Option M} {program : Prog Cmd Res α}
    (only : program.Only fun command => read command = none) (state : S) :
    program.marks exec read state = [] := by
  refine List.filterMap_eq_nil_iff.mpr ?_
  intro entry issued
  exact only.trace exec issued

theorem Only.marks_bind_left {read : Cmd → Option M} {first : Prog Cmd Res α}
    (only : first.Only fun command => read command = none) (next : α → Prog Cmd Res β)
    (state : S) :
    (first >>= next).marks exec read state =
      (next (first.run exec state).1).marks exec read (first.run exec state).2 := by
  rw [marks_bind, only.marks_eq_nil, List.nil_append]

theorem marks_bind_right {read : Cmd → Option M} {next : α → Prog Cmd Res β}
    (only : ∀ value, (next value).Only fun command => read command = none)
    (first : Prog Cmd Res α) (state : S) :
    (first >>= next).marks exec read state = first.marks exec read state := by
  rw [marks_bind, (only _).marks_eq_nil, List.append_nil]

end Marks

/-- Every value the program can return meets the postcondition. -/
def Ends (post : α → Prop) : Prog Cmd Res α → Prop
  | ret value => post value
  | act _ resume => ∀ reply, Ends post (resume reply)

theorem Ends.bind {middle : α → Prop} {post : β → Prop} {first : Prog Cmd Res α}
    {next : α → Prog Cmd Res β} (before : first.Ends middle)
    (after : ∀ value, middle value → (next value).Ends post) : (first >>= next).Ends post := by
  induction first with
  | ret value => exact after value before
  | act command resume ih => exact fun reply => ih reply (before reply)

theorem ends_true (program : Prog Cmd Res α) : program.Ends fun _ => True := by
  induction program with
  | ret value => trivial
  | act command resume ih => exact ih

theorem Ends.run {post : α → Prop} {program : Prog Cmd Res α} (ends : program.Ends post)
    (state : S) : post (program.run exec state).1 := by
  induction program generalizing state with
  | ret value => exact ends
  | act command resume ih => exact ih _ (ends _) _

end Prog

/-- A summary of the commands issued so far, the commands it allows next, and the
replies that are possible. -/
structure Monitor (Cmd : Type) (Res : Cmd → Type) (G : Type) where
  update : G → (command : Cmd) → Res command → G
  allowed : G → Cmd → Prop
  possible : (command : Cmd) → Res command → Prop

namespace Monitor

variable {Cmd : Type} {Res : Cmd → Type} {α β G : Type} (monitor : Monitor Cmd Res G)

/-- Every command the program can issue is allowed when it is issued, and every
value it can return meets the postcondition. -/
def Accepts (post : G → α → Prop) : G → Prog Cmd Res α → Prop
  | summary, .ret value => post summary value
  | summary, .act command resume =>
      monitor.allowed summary command ∧ ∀ reply, monitor.possible command reply →
        Accepts post (monitor.update summary command reply) (resume reply)

@[simp] theorem accepts_ret (post : G → α → Prop) (summary : G) (value : α) :
    monitor.Accepts post summary (.ret value : Prog Cmd Res α) ↔ post summary value := Iff.rfl

@[simp] theorem accepts_act (post : G → α → Prop) (summary : G) (command : Cmd)
    (resume : Res command → Prog Cmd Res α) :
    monitor.Accepts post summary (.act command resume) ↔
      monitor.allowed summary command ∧ ∀ reply, monitor.possible command reply →
        monitor.Accepts post (monitor.update summary command reply) (resume reply) :=
  Iff.rfl

/-- The sequencing rule. -/
theorem accepts_bind (post : G → β → Prop) (summary : G) (first : Prog Cmd Res α)
    (next : α → Prog Cmd Res β) :
    monitor.Accepts post summary (first >>= next) ↔
      monitor.Accepts (fun reached value => monitor.Accepts post reached (next value))
        summary first := by
  induction first generalizing summary with
  | ret value => rfl
  | act command resume ih =>
      rw [Prog.act_bind, accepts_act, accepts_act]
      exact and_congr_right fun _ => forall_congr' fun reply => forall_congr' fun _ => ih reply _

theorem accepts_map (post : G → β → Prop) (summary : G) (change : α → β)
    (program : Prog Cmd Res α) :
    monitor.Accepts post summary (change <$> program) ↔
      monitor.Accepts (fun reached value => post reached (change value)) summary program := by
  rw [Prog.map_eq_bind, accepts_bind]
  rfl

/-- The consequence rule. -/
theorem Accepts.mono {weak strong : G → α → Prop}
    (implies : ∀ summary value, strong summary value → weak summary value)
    {summary : G} {program : Prog Cmd Res α}
    (accepted : monitor.Accepts strong summary program) :
    monitor.Accepts weak summary program := by
  induction program generalizing summary with
  | ret value => exact implies _ _ accepted
  | act command resume ih =>
      exact ⟨accepted.1, fun reply given => ih reply (accepted.2 reply given)⟩

/-- The sequencing rule for a first part that determines the summary it leaves. -/
theorem Accepts.bind_of_eq {middle : α → G} {post : G → β → Prop} {summary : G}
    {first : Prog Cmd Res α} {next : α → Prog Cmd Res β}
    (before : monitor.Accepts (fun reached value => reached = middle value) summary first)
    (after : ∀ value, monitor.Accepts post (middle value) (next value)) :
    monitor.Accepts post summary (first >>= next) := by
  rw [accepts_bind]
  refine Accepts.mono monitor ?_ before
  intro reached value same
  rw [same]
  exact after value

/-- A postcondition that always holds, for a monitor that allows everything. -/
theorem Accepts.of_forall (allowed : ∀ summary command, monitor.allowed summary command)
    {post : G → α → Prop} (always : ∀ summary value, post summary value) (summary : G)
    (program : Prog Cmd Res α) : monitor.Accepts post summary program := by
  induction program generalizing summary with
  | ret value => exact always summary value
  | act command resume ih => exact ⟨allowed summary command, fun reply _ => ih reply _⟩

/-- A program whose commands are all allowed and all leave the summary alone. -/
theorem Accepts.of_only {permitted : Cmd → Prop} {summary : G}
    (stays : ∀ command, permitted command →
      monitor.allowed summary command ∧ ∀ reply, monitor.update summary command reply = summary)
    {program : Prog Cmd Res α} (only : program.Only permitted) :
    monitor.Accepts (fun reached _ => reached = summary) summary program := by
  induction program with
  | ret value => rfl
  | act command resume ih =>
      refine ⟨(stays command only.1).1, fun reply _ => ?_⟩
      rw [(stays command only.1).2 reply]
      exact ih reply (only.2 reply)

/-- The summary after a log of commands. -/
def summarize (start : G) (log : List (Sigma Res)) : G :=
  log.foldl (fun summary entry => monitor.update summary entry.1 entry.2) start

@[simp] theorem summarize_nil (start : G) : monitor.summarize start [] = start := rfl

@[simp] theorem summarize_snoc (start : G) (log : List (Sigma Res)) (command : Cmd)
    (reply : Res command) :
    monitor.summarize start (log ++ [⟨command, reply⟩]) =
      monitor.update (monitor.summarize start log) command reply := by
  simp [summarize]

section Footprint

variable {Op : Type}

/-- Remembers the operation, and allows the commands in its footprint. -/
def footprint (permitted : Op → Cmd → Prop) : Monitor Cmd Res Op where
  update op _ _ := op
  allowed := permitted
  possible _ _ := True

theorem accepts_footprint {permitted : Op → Cmd → Prop} {op : Op} {program : Prog Cmd Res α}
    (only : program.Only (permitted op)) :
    (footprint permitted).Accepts (fun _ _ => True) op program := by
  induction program with
  | ret value => trivial
  | act command resume ih => exact ⟨only.1, fun reply _ => ih reply (only.2 reply)⟩

@[simp] theorem summarize_footprint (permitted : Op → Cmd → Prop) (op : Op)
    (log : List (Sigma Res)) : (footprint permitted).summarize op log = op := by
  induction log with
  | nil => rfl
  | cons entry rest ih => exact ih

end Footprint

end Monitor

end Foundation
