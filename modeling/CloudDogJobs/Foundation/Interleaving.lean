import CloudDogJobs.Foundation.Program

/-!
# Interleaved execution of command programs

A machine has a shared state and any number of clients. An idle client may call
an operation; a busy client performs the next command of its program as one
atomic step, and returns when the program has ended. A schedule is a list of
such actions, chosen freely, so a statement about every schedule is a statement
about every interleaving.

`Machine.Invariant` collects the one-step obligations of an invariant over the
shared state, the monitor summaries of the running operations and the history.
`Machine.Invariant.run` carries it along every schedule whose actions satisfy
the given permission.
-/

namespace Foundation

/-- A client between operations, or inside one with the rest of its program and
the log of the commands the operation has issued so far. -/
inductive Client (Op Cmd : Type) (Res : Cmd → Type) (α : Type) : Type
  | idle
  | busy (op : Op) (rest : Prog Cmd Res α) (log : List (Sigma Res))

/-- What a run records. -/
inductive Event (ι Op Cmd : Type) (Res : Cmd → Type) (α : Type) : Type
  | called (client : ι) (op : Op)
  | acted (client : ι) (command : Cmd) (reply : Res command)
  | returned (client : ι) (op : Op) (value : α)

/-- What a scheduler may ask for. -/
inductive Action (ι Op : Type) : Type
  | call (client : ι) (op : Op)
  | act (client : ι)
  | ret (client : ι)

/-- The client that an action is for. -/
def Action.client {ι Op : Type} : Action ι Op → ι
  | .call client _ => client
  | .act client => client
  | .ret client => client

/-- A configuration of a machine. -/
structure Config (ι Op Cmd : Type) (Res : Cmd → Type) (α S : Type) where
  shared : S
  client : ι → Client Op Cmd Res α
  history : List (Event ι Op Cmd Res α)

/-- The effect of the commands and the programs of the operations. -/
structure Machine (ι Op Cmd : Type) (Res : Cmd → Type) (α S : Type) where
  exec : (command : Cmd) → S → Res command × S
  code : ι → Op → Prog Cmd Res α

variable {ι Op Cmd : Type} {Res : Cmd → Type} {α S G : Type}

/-- Every client idle, nothing recorded. -/
def Config.initial (shared : S) : Config ι Op Cmd Res α S :=
  ⟨shared, fun _ => .idle, []⟩

/-- The configuration with an image of its shared state. -/
def Config.mapShared {T : Type} (image : S → T) (config : Config ι Op Cmd Res α S) :
    Config ι Op Cmd Res α T :=
  ⟨image config.shared, config.client, config.history⟩

/-- No client is inside an operation. -/
def Config.Quiet (config : Config ι Op Cmd Res α S) : Prop :=
  ∀ client, config.client client = .idle

/-- The calls an operation in progress has made so far; none for an idle client. -/
def Client.log : Client Op Cmd Res α → List (Sigma Res)
  | .idle => []
  | .busy _ _ log => log

def Client.isIdle : Client Op Cmd Res α → Bool
  | .idle => true
  | .busy _ _ _ => false

theorem Client.eq_idle {client : Client Op Cmd Res α} (idle : client.isIdle = true) :
    client = .idle := by
  cases client with
  | idle => rfl
  | busy op rest log => cases idle

/-- The command that an action performs. -/
def Config.pending (config : Config ι Op Cmd Res α S) : Action ι Op → Option Cmd
  | .act client =>
      match config.client client with
      | .busy _ (.act command _) _ => some command
      | _ => none
  | _ => none

/-- A command that is performed is the next one of a busy client. -/
theorem Config.busy_of_pending {config : Config ι Op Cmd Res α S} {action : Action ι Op}
    {command : Cmd} (pending : config.pending action = some command) :
    ∃ client op resume log, action = .act client ∧
      config.client client = .busy op (.act command resume) log := by
  cases action with
  | call client op => cases pending
  | ret client => cases pending
  | act client =>
      cases current : config.client client with
      | idle =>
          rw [Config.pending, current] at pending
          cases pending
      | busy op rest log =>
          cases rest with
          | ret value =>
              rw [Config.pending, current] at pending
              cases pending
          | act other resume =>
              rw [Config.pending, current] at pending
              obtain rfl := Option.some.inj pending
              exact ⟨client, op, resume, log, rfl, current⟩

/-- The running operation of a client with its monitor summary. -/
def Config.summary (config : Config ι Op Cmd Res α S) (monitor : Monitor Cmd Res G)
    (start : ι → Op → G) (client : ι) : Option (Op × G) :=
  match config.client client with
  | .idle => none
  | .busy op _ log => some (op, monitor.summarize (start client op) log)

@[simp] theorem Config.summary_initial (shared : S) (monitor : Monitor Cmd Res G)
    (start : ι → Op → G) :
    (Config.initial shared : Config ι Op Cmd Res α S).summary monitor start =
      fun _ => none := rfl

theorem Config.summary_of_busy {config : Config ι Op Cmd Res α S} {client : ι} {op : Op}
    {rest : Prog Cmd Res α} {log : List (Sigma Res)}
    (busy : config.client client = .busy op rest log)
    (monitor : Monitor Cmd Res G) (start : ι → Op → G) :
    config.summary monitor start client =
      some (op, monitor.summarize (start client op) log) := by
  simp only [Config.summary, busy]

theorem Config.summary_of_idle {config : Config ι Op Cmd Res α S} {client : ι}
    (idle : config.client client = .idle)
    (monitor : Monitor Cmd Res G) (start : ι → Op → G) :
    config.summary monitor start client = none := by
  simp only [Config.summary, idle]

section Update

variable {β : Type} [DecidableEq ι] {entries : ι → Option β} {client other : ι} {value found : β}

/-- An entry of an updated table is the new one or an old one. -/
theorem update_some_cases (shown : Function.update entries client (some value) other = some found) :
    (other = client ∧ found = value) ∨ (other ≠ client ∧ entries other = some found) := by
  by_cases same : other = client
  · subst same
    rw [Function.update_self] at shown
    exact .inl ⟨rfl, (Option.some.inj shown).symm⟩
  · rw [Function.update_of_ne same] at shown
    exact .inr ⟨same, shown⟩

theorem update_none_cases (shown : Function.update entries client none other = some found) :
    other ≠ client ∧ entries other = some found := by
  by_cases same : other = client
  · subst same
    rw [Function.update_self] at shown
    cases shown
  · rw [Function.update_of_ne same] at shown
    exact ⟨same, shown⟩

/-- Some entry of a table meets a condition. -/
def Somewhere {ι β : Type} (entries : ι → Option β) (meets : ι → β → Prop) : Prop :=
  ∃ client value, entries client = some value ∧ meets client value

/-- An update keeps such an entry when the entry it replaces passes the condition on. -/
theorem Somewhere.update {meets : ι → β → Prop} {replaced : β}
    (somewhere : Somewhere entries meets) (current : entries client = some replaced)
    (keeps : meets client replaced → meets client value) :
    Somewhere (Function.update entries client (some value)) meets := by
  obtain ⟨holder, entry, shown, met⟩ := somewhere
  by_cases same : holder = client
  · subst same
    obtain rfl : replaced = entry := Option.some.inj (current.symm.trans shown)
    exact ⟨holder, value, Function.update_self .., keeps met⟩
  · exact ⟨holder, entry, (Function.update_of_ne same ..).trans shown, met⟩

/-- An update keeps such an entry when the entry it replaces is not it. -/
theorem Somewhere.update_of_not {meets : ι → β → Prop} (somewhere : Somewhere entries meets)
    (free : ∀ replaced, entries client = some replaced → ¬ meets client replaced)
    (entry : Option β) : Somewhere (Function.update entries client entry) meets := by
  obtain ⟨holder, held, shown, met⟩ := somewhere
  have different : holder ≠ client := by
    intro same
    subst same
    exact free held shown met
  exact ⟨holder, held, (Function.update_of_ne different ..).trans shown, met⟩

end Update

namespace Machine

variable [DecidableEq ι] (machine : Machine ι Op Cmd Res α S)

/-- One action. An action that its client cannot take leaves everything as it is. -/
def step (config : Config ι Op Cmd Res α S) : Action ι Op → Config ι Op Cmd Res α S
  | .call client op =>
      match config.client client with
      | .idle =>
          { config with
            client := Function.update config.client client
              (.busy op (machine.code client op) [])
            history := config.history ++ [Event.called client op] }
      | .busy _ _ _ => config
  | .act client =>
      match config.client client with
      | .busy op (.act command resume) log =>
          let outcome := machine.exec command config.shared
          { shared := outcome.2
            client := Function.update config.client client
              (.busy op (resume outcome.1) (log ++ [⟨command, outcome.1⟩]))
            history := config.history ++ [Event.acted client command outcome.1] }
      | _ => config
  | .ret client =>
      match config.client client with
      | .busy op (.ret value) _ =>
          { config with
            client := Function.update config.client client .idle
            history := config.history ++ [Event.returned client op value] }
      | _ => config

/-- The configuration after a schedule. -/
def runFrom (config : Config ι Op Cmd Res α S) (schedule : List (Action ι Op)) :
    Config ι Op Cmd Res α S :=
  schedule.foldl machine.step config

/-- Every action of the schedule is permitted in the configuration it meets. -/
def Permits (permit : Config ι Op Cmd Res α S → Action ι Op → Prop) :
    Config ι Op Cmd Res α S → List (Action ι Op) → Prop
  | _, [] => True
  | config, action :: rest =>
      permit config action ∧ Permits permit (machine.step config action) rest

@[simp] theorem runFrom_nil (config : Config ι Op Cmd Res α S) :
    machine.runFrom config [] = config := rfl

@[simp] theorem runFrom_cons (config : Config ι Op Cmd Res α S) (action : Action ι Op)
    (rest : List (Action ι Op)) :
    machine.runFrom config (action :: rest) =
      machine.runFrom (machine.step config action) rest := rfl

theorem permits_true (config : Config ι Op Cmd Res α S) (schedule : List (Action ι Op)) :
    machine.Permits (fun _ _ => True) config schedule := by
  induction schedule generalizing config with
  | nil => trivial
  | cons action rest ih => exact ⟨trivial, ih _⟩

/-- Everything an action can do. -/
theorem step_cases (config : Config ι Op Cmd Res α S) (action : Action ι Op) :
    machine.step config action = config ∨
    (∃ client op, action = .call client op ∧ config.client client = .idle ∧
      machine.step config action =
        { config with
          client := Function.update config.client client
            (.busy op (machine.code client op) [])
          history := config.history ++ [Event.called client op] }) ∨
    (∃ client op command resume log, action = .act client ∧
      config.client client = .busy op (.act command resume) log ∧
      machine.step config action =
        { shared := (machine.exec command config.shared).2
          client := Function.update config.client client
            (.busy op (resume (machine.exec command config.shared).1)
              (log ++ [⟨command, (machine.exec command config.shared).1⟩]))
          history := config.history ++
            [Event.acted client command (machine.exec command config.shared).1] }) ∨
    (∃ client op value log, action = .ret client ∧
      config.client client = .busy op (.ret value) log ∧
      machine.step config action =
        { config with
          client := Function.update config.client client .idle
          history := config.history ++ [Event.returned client op value] }) := by
  cases action with
  | call client op =>
      cases current : config.client client with
      | idle => exact .inr (.inl ⟨client, op, rfl, current, by simp only [step, current]⟩)
      | busy running rest log => exact .inl (by simp only [step, current])
  | act client =>
      cases current : config.client client with
      | idle => exact .inl (by simp only [step, current])
      | busy op rest log =>
          cases rest with
          | ret value => exact .inl (by simp only [step, current])
          | act command resume =>
              exact .inr (.inr (.inl ⟨client, op, command, resume, log, rfl, current, by
                simp only [step, current]⟩))
  | ret client =>
      cases current : config.client client with
      | idle => exact .inl (by simp only [step, current])
      | busy op rest log =>
          cases rest with
          | ret value =>
              exact .inr (.inr (.inr ⟨client, op, value, log, rfl, current, by
                simp only [step, current]⟩))
          | act command resume => exact .inl (by simp only [step, current])

/-- The shared state changes by the command that is performed. -/
theorem shared_step (config : Config ι Op Cmd Res α S) (action : Action ι Op) :
    (machine.step config action).shared =
      match config.pending action with
      | some command => (machine.exec command config.shared).2
      | none => config.shared := by
  cases action with
  | call client op =>
      simp only [step, Config.pending]
      split
      · rfl
      · rfl
  | act client =>
      cases current : config.client client with
      | idle => simp only [step, current, Config.pending]
      | busy op rest log =>
          cases rest with
          | ret value => simp only [step, current, Config.pending]
          | act command resume => simp only [step, current, Config.pending]
  | ret client =>
      simp only [step, Config.pending]
      split
      · rfl
      · rfl

/-- An action is one of its client. -/
theorem client_step_of_ne (config : Config ι Op Cmd Res α S) {action : Action ι Op} {other : ι}
    (different : other ≠ action.client) :
    (machine.step config action).client other = config.client other := by
  rcases machine.step_cases config action with
    stutter | ⟨client, op, rfl, _, moved⟩ | ⟨client, op, command, resume, log, rfl, _, moved⟩ |
    ⟨client, op, value, log, rfl, _, moved⟩
  · rw [stutter]
  all_goals
    rw [moved]
    exact Function.update_of_ne different ..

theorem runFrom_append (config : Config ι Op Cmd Res α S) (first second : List (Action ι Op)) :
    machine.runFrom config (first ++ second) =
      machine.runFrom (machine.runFrom config first) second :=
  List.foldl_append ..

/-- A schedule of one client leaves the others as they are. -/
theorem client_runFrom_of_ne (config : Config ι Op Cmd Res α S) {schedule : List (Action ι Op)}
    {client other : ι} (own : ∀ action ∈ schedule, action.client = client)
    (different : other ≠ client) :
    (machine.runFrom config schedule).client other = config.client other := by
  induction schedule generalizing config with
  | nil => rfl
  | cons action rest ih =>
      have ours : other ≠ action.client := by
        rw [own action List.mem_cons_self]
        exact different
      rw [runFrom_cons, ih _ fun later member => own later (List.mem_cons_of_mem _ member)]
      exact machine.client_step_of_ne config ours

theorem permits_append (permit : Config ι Op Cmd Res α S → Action ι Op → Prop)
    (config : Config ι Op Cmd Res α S) (first second : List (Action ι Op)) :
    machine.Permits permit config (first ++ second) ↔
      machine.Permits permit config first ∧
        machine.Permits permit (machine.runFrom config first) second := by
  induction first generalizing config with
  | nil => exact (iff_of_eq (true_and _)).symm
  | cons action rest ih =>
      rw [List.cons_append, Permits, Permits, ih, and_assoc]
      rfl

/-- A permission together with a condition on the actions alone. -/
theorem Permits.and_forall {machine : Machine ι Op Cmd Res α S}
    {permit : Config ι Op Cmd Res α S → Action ι Op → Prop} {allowed : Action ι Op → Prop}
    {config : Config ι Op Cmd Res α S} {schedule : List (Action ι Op)}
    (permitted : machine.Permits permit config schedule)
    (all : ∀ action ∈ schedule, allowed action) :
    machine.Permits (fun config action => permit config action ∧ allowed action) config
      schedule := by
  induction schedule generalizing config with
  | nil => trivial
  | cons action rest ih =>
      exact ⟨⟨permitted.1, all action List.mem_cons_self⟩,
        ih permitted.2 fun other member => all other (List.mem_cons_of_mem _ member)⟩

section Images

variable {T : Type} {image : S → T} {machine : Machine ι Op Cmd Res α S}
  {above : Machine ι Op Cmd Res α T}

/-- A machine of the same programs, on the images of the shared states. -/
theorem step_image (lifts : Prog.Lifts image machine.exec above.exec)
    (same : above.code = machine.code) (config : Config ι Op Cmd Res α S)
    (action : Action ι Op) :
    above.step (config.mapShared image) action = (machine.step config action).mapShared image := by
  cases action with
  | call client op =>
      simp only [step, Config.mapShared, same]
      cases config.client client with
      | idle => rfl
      | busy running rest log => rfl
  | act client =>
      simp only [step, Config.mapShared]
      cases config.client client with
      | idle => rfl
      | busy op rest log =>
          cases rest with
          | ret value => rfl
          | act command resume => simp only [lifts command config.shared]
  | ret client =>
      simp only [step, Config.mapShared]
      cases config.client client with
      | idle => rfl
      | busy op rest log =>
          cases rest with
          | ret value => rfl
          | act command resume => rfl

theorem runFrom_image (lifts : Prog.Lifts image machine.exec above.exec)
    (same : above.code = machine.code) (config : Config ι Op Cmd Res α S)
    (schedule : List (Action ι Op)) :
    above.runFrom (config.mapShared image) schedule =
      (machine.runFrom config schedule).mapShared image := by
  induction schedule generalizing config with
  | nil => rfl
  | cons action rest ih => rw [runFrom_cons, runFrom_cons, step_image lifts same, ih]

theorem permits_image (lifts : Prog.Lifts image machine.exec above.exec)
    (same : above.code = machine.code) (permit : Config ι Op Cmd Res α T → Action ι Op → Prop)
    (config : Config ι Op Cmd Res α S) (schedule : List (Action ι Op)) :
    above.Permits permit (config.mapShared image) schedule ↔
      machine.Permits (fun config => permit (config.mapShared image)) config schedule := by
  induction schedule generalizing config with
  | nil => exact Iff.rfl
  | cons action rest ih => rw [Permits, Permits, step_image lifts same, ih]

end Images

/-- The one-step obligations of an invariant. -/
structure Invariant (monitor : Monitor Cmd Res G) (start : ι → Op → G)
    (post : ι → Op → G → α → Prop)
    (permit : Config ι Op Cmd Res α S → Action ι Op → Prop)
    (holds : S → (ι → Option (Op × G)) → List (Event ι Op Cmd Res α) → Prop) : Prop where
  accepts : ∀ config client op, permit config (.call client op) →
    monitor.Accepts (post client op) (start client op) (machine.code client op)
  replies : ∀ config client op command resume log, permit config (.act client) →
    config.client client = .busy op (.act command resume) log →
    holds config.shared (config.summary monitor start) config.history →
    monitor.possible command (machine.exec command config.shared).1
  call : ∀ config client op, permit config (.call client op) →
    config.client client = .idle →
    holds config.shared (config.summary monitor start) config.history →
    holds config.shared
      (Function.update (config.summary monitor start) client (some (op, start client op)))
      (config.history ++ [Event.called client op])
  act : ∀ config client op command resume log, permit config (.act client) →
    config.client client = .busy op (.act command resume) log →
    monitor.allowed (monitor.summarize (start client op) log) command →
    holds config.shared (config.summary monitor start) config.history →
    holds (machine.exec command config.shared).2
      (Function.update (config.summary monitor start) client
        (some (op, monitor.update (monitor.summarize (start client op) log) command
          (machine.exec command config.shared).1)))
      (config.history ++ [Event.acted client command (machine.exec command config.shared).1])
  ret : ∀ config client op value log, permit config (.ret client) →
    config.client client = .busy op (.ret value) log →
    post client op (monitor.summarize (start client op) log) value →
    holds config.shared (config.summary monitor start) config.history →
    holds config.shared (Function.update (config.summary monitor start) client none)
      (config.history ++ [Event.returned client op value])

variable {machine} {monitor : Monitor Cmd Res G} {start : ι → Op → G}
  {post : ι → Op → G → α → Prop}
  {permit : Config ι Op Cmd Res α S → Action ι Op → Prop}
  {holds : S → (ι → Option (Op × G)) → List (Event ι Op Cmd Res α) → Prop}

/-- Every running program is accepted by the monitor from its summary. -/
def Conforms (monitor : Monitor Cmd Res G) (start : ι → Op → G)
    (post : ι → Op → G → α → Prop) (config : Config ι Op Cmd Res α S) : Prop :=
  ∀ client op rest log, config.client client = .busy op rest log →
    monitor.Accepts (post client op) (monitor.summarize (start client op) log) rest

/-- Replacing one client keeps the others' conformance. -/
theorem Conforms.update {config : Config ι Op Cmd Res α S}
    (conforms : Conforms monitor start post config) (client : ι)
    (replacement : Client Op Cmd Res α) (shared : S) (history : List (Event ι Op Cmd Res α))
    (accepted : ∀ op rest log, replacement = .busy op rest log →
      monitor.Accepts (post client op) (monitor.summarize (start client op) log) rest) :
    Conforms monitor start post
      (⟨shared, Function.update config.client client replacement, history⟩ :
        Config ι Op Cmd Res α S) := by
  intro other op rest log busy
  by_cases same : other = client
  · subst same
    exact accepted op rest log (by simpa using busy)
  · exact conforms other op rest log (by simpa [Function.update_of_ne same] using busy)

theorem summary_update (config : Config ι Op Cmd Res α S) (client : ι)
    (replacement : Client Op Cmd Res α) (shared : S) (history : List (Event ι Op Cmd Res α)) :
    (⟨shared, Function.update config.client client replacement, history⟩ :
        Config ι Op Cmd Res α S).summary monitor start =
      Function.update (config.summary monitor start) client
        (match replacement with
          | .idle => none
          | .busy op _ log => some (op, monitor.summarize (start client op) log)) := by
  funext other
  by_cases same : other = client
  · subst same
    simp only [Config.summary, Function.update_self]
  · simp only [Config.summary, Function.update_of_ne same]

/-- The step lemma: an action keeps conformance and the invariant. -/
theorem Invariant.step (invariant : machine.Invariant monitor start post permit holds)
    (config : Config ι Op Cmd Res α S) (action : Action ι Op)
    (permitted : permit config action) (conforms : Conforms monitor start post config)
    (valid : holds config.shared (config.summary monitor start) config.history) :
    Conforms monitor start post (machine.step config action) ∧
      holds (machine.step config action).shared
        ((machine.step config action).summary monitor start)
        (machine.step config action).history := by
  rcases machine.step_cases config action with
    stutter | ⟨client, op, rfl, idle, moved⟩ |
    ⟨client, op, command, resume, log, rfl, busy, moved⟩ |
    ⟨client, op, value, log, rfl, busy, moved⟩
  · rw [stutter]
    exact ⟨conforms, valid⟩
  · rw [moved]
    refine ⟨conforms.update client _ _ _ ?_, ?_⟩
    · rintro _ _ _ ⟨⟩
      exact invariant.accepts config client op permitted
    · rw [summary_update]
      exact invariant.call config client op permitted idle valid
  · rw [moved]
    have accepted := conforms client op _ log busy
    have given := invariant.replies config client op command resume log permitted busy valid
    refine ⟨conforms.update client _ _ _ ?_, ?_⟩
    · rintro _ _ _ ⟨⟩
      rw [Monitor.summarize_snoc]
      exact accepted.2 _ given
    · rw [summary_update]
      simp only [Monitor.summarize_snoc]
      exact invariant.act config client op command resume log permitted busy accepted.1 valid
  · rw [moved]
    have accepted := conforms client op _ log busy
    refine ⟨conforms.update client _ _ _ ?_, ?_⟩
    · rintro _ _ _ ⟨⟩
    · rw [summary_update]
      exact invariant.ret config client op value log permitted busy accepted valid

/-- The run lemma: conformance and the invariant hold after every permitted schedule. -/
theorem Invariant.runFrom_conforms (invariant : machine.Invariant monitor start post permit holds)
    (config : Config ι Op Cmd Res α S) (conforms : Conforms monitor start post config)
    (valid : holds config.shared (config.summary monitor start) config.history)
    (schedule : List (Action ι Op)) (permitted : machine.Permits permit config schedule) :
    Conforms monitor start post (machine.runFrom config schedule) ∧
      holds (machine.runFrom config schedule).shared
        ((machine.runFrom config schedule).summary monitor start)
        (machine.runFrom config schedule).history := by
  induction schedule generalizing config with
  | nil => exact ⟨conforms, valid⟩
  | cons action rest ih =>
      obtain ⟨stillConforms, stillValid⟩ :=
        invariant.step config action permitted.1 conforms valid
      exact ih _ stillConforms stillValid permitted.2

theorem Invariant.runFrom (invariant : machine.Invariant monitor start post permit holds)
    (config : Config ι Op Cmd Res α S) (conforms : Conforms monitor start post config)
    (valid : holds config.shared (config.summary monitor start) config.history)
    (schedule : List (Action ι Op)) (permitted : machine.Permits permit config schedule) :
    holds (machine.runFrom config schedule).shared
      ((machine.runFrom config schedule).summary monitor start)
      (machine.runFrom config schedule).history :=
  (invariant.runFrom_conforms config conforms valid schedule permitted).2

omit [DecidableEq ι] in
/-- With no operation in progress every program conforms. -/
theorem conforms_initial (shared : S) :
    Conforms monitor start post (.initial shared : Config ι Op Cmd Res α S) := by
  intro client op rest log busy
  cases busy

/-- The run lemma from a configuration with no operation in progress. -/
theorem Invariant.run (invariant : machine.Invariant monitor start post permit holds)
    (shared : S) (initially : holds shared (fun _ => none) [])
    (schedule : List (Action ι Op))
    (permitted : machine.Permits permit (.initial shared) schedule) :
    holds (machine.runFrom (.initial shared) schedule).shared
      ((machine.runFrom (.initial shared) schedule).summary monitor start)
      (machine.runFrom (.initial shared) schedule).history :=
  invariant.runFrom _ (conforms_initial shared) initially schedule permitted

section Footprint

variable {permitted : Op → Cmd → Prop} {kept : S → List (Event ι Op Cmd Res α) → Prop}

/-- The obligations of an invariant that looks at the shared state and the history
only, for operations that keep to their footprints. -/
theorem invariant_of_footprint
    (only : ∀ client op, (machine.code client op).Only (permitted op))
    (called : ∀ shared history client op, kept shared history →
      kept shared (history ++ [Event.called client op]))
    (returned : ∀ shared history client op value, kept shared history →
      kept shared (history ++ [Event.returned client op value]))
    (acted : ∀ shared history client op command, permitted op command → kept shared history →
      kept (machine.exec command shared).2
        (history ++ [Event.acted client command (machine.exec command shared).1])) :
    machine.Invariant (.footprint permitted) (fun _ op => op) (fun _ _ _ _ => True)
      (fun _ _ => True) (fun shared _ history => kept shared history) where
  accepts _ client op _ := Monitor.accepts_footprint (only client op)
  replies _ _ _ _ _ _ _ _ _ := trivial
  call config client op _ _ valid := called config.shared config.history client op valid
  act config client op command resume log _ _ allowed valid := by
    rw [Monitor.summarize_footprint] at allowed
    exact acted config.shared config.history client op command allowed valid
  ret config client op value log _ _ _ valid :=
    returned config.shared config.history client op value valid

/-- The next command of an operation is in its footprint. -/
theorem permitted_of_busy {start : S} (schedule : List (Action ι Op))
    (only : ∀ client op, (machine.code client op).Only (permitted op)) {client : ι} {op : Op}
    {command : Cmd} {resume : Res command → Prog Cmd Res α} {log : List (Sigma Res)}
    (busy : (machine.runFrom (.initial start) schedule).client client =
      .busy op (.act command resume) log) :
    permitted op command := by
  have invariant : machine.Invariant (.footprint permitted) (fun _ op => op) (fun _ _ _ _ => True)
      (fun _ _ => True) (fun _ _ _ => True) :=
    machine.invariant_of_footprint only (fun _ _ _ _ _ => trivial) (fun _ _ _ _ _ _ => trivial)
      fun _ _ _ _ _ _ _ => trivial
  obtain ⟨conforms, _⟩ := invariant.runFrom_conforms (.initial start) (conforms_initial start)
    trivial schedule (machine.permits_true _ schedule)
  have accepted := (conforms client op _ log busy).1
  rw [Monitor.summarize_footprint] at accepted
  exact accepted

end Footprint

section Alone

variable (machine)

/-- The actions by which a client performs an operation without being interrupted. -/
def alone (shared : S) (client : ι) (op : Op) : List (Action ι Op) :=
  .call client op ::
    (List.replicate ((machine.code client op).trace machine.exec shared).length (.act client) ++
      [.ret client])

/-- The rest of a program, performed without being interrupted. -/
theorem runFrom_replicate_act (shared : S) (clients : ι → Client Op Cmd Res α)
    (history : List (Event ι Op Cmd Res α)) (client : ι) (op : Op) (program : Prog Cmd Res α)
    (log : List (Sigma Res)) (busy : clients client = .busy op program log) :
    machine.runFrom ⟨shared, clients, history⟩
        (List.replicate (program.trace machine.exec shared).length (.act client)) =
      ⟨(program.run machine.exec shared).2,
        Function.update clients client (.busy op (.ret (program.run machine.exec shared).1)
          (log ++ program.trace machine.exec shared)),
        history ++ (program.trace machine.exec shared).map fun entry =>
          .acted client entry.1 entry.2⟩ := by
  induction program generalizing shared clients history log with
  | ret value =>
      simp only [Prog.trace_ret, List.length_nil, List.replicate_zero, runFrom_nil, Prog.run_ret,
        List.append_nil, List.map_nil]
      rw [← busy, Function.update_eq_self]
  | act command resume ih =>
      simp only [Prog.trace_act, List.length_cons, List.replicate_succ, runFrom_cons, step, busy]
      rw [ih _ _ _ _ _ (Function.update_self ..)]
      simp only [Function.update_idem, List.append_assoc, List.singleton_append, Prog.run_act,
        List.map_cons]

/-- An operation that is not interrupted runs as its program runs alone. -/
theorem runFrom_alone (config : Config ι Op Cmd Res α S) (client : ι) (op : Op)
    (idle : config.client client = .idle) :
    machine.runFrom config (machine.alone config.shared client op) =
      { shared := ((machine.code client op).run machine.exec config.shared).2
        client := config.client
        history := config.history ++
          (.called client op ::
            (((machine.code client op).trace machine.exec config.shared).map fun entry =>
              .acted client entry.1 entry.2) ++
            [Event.returned client op
              ((machine.code client op).run machine.exec config.shared).1]) } := by
  unfold alone
  rw [runFrom_cons, runFrom_append]
  simp only [step, idle]
  rw [runFrom_replicate_act _ _ _ _ _ _ _ _ (Function.update_self ..)]
  simp only [runFrom_cons, runFrom_nil, step, Function.update_self, Function.update_idem,
    List.append_assoc, List.cons_append, List.nil_append]
  rw [← idle, Function.update_eq_self]

end Alone

end Machine

end Foundation
