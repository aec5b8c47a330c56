import CloudDogJobs.Domain.Model

/-!
# Job lifecycle

`domain/state_machine.py` with the part of `extensions/state_extensions.py` that
it reads: the default transition table, and the tables of job types that extend
it. A set of states is a list of which only membership matters.
-/

namespace CloudDogJobs

open Foundation

/-- The states and transitions that a job type adds. -/
structure StateExtension where
  customStates : List String
  customTransitions : Dict String (List String)

/-- `DEFAULT_TRANSITIONS` -/
def defaultTransitions : Dict String (List String) where
  entries :=
    [("queued", ["scheduled", "running", "dispatched", "cancelled", "timeout"]),
     ("scheduled", ["queued", "running", "dispatched", "cancelled", "timeout"]),
     ("running", ["succeeded", "failed", "retry_wait", "cancelled", "paused", "blocked",
       "timeout", "ttl_expired"]),
     ("retry_wait", ["queued", "running", "failed", "cancelled", "timeout", "dead_lettered"]),
     ("paused", ["running", "cancelled", "timeout", "ttl_expired"]),
     ("succeeded", ["archived"]),
     ("failed", ["dead_lettered", "archived"]),
     ("cancelled", ["archived"]),
     ("timeout", ["retry_wait", "failed", "dead_lettered", "archived"]),
     ("ttl_expired", ["archived"]),
     ("created", ["validated", "cancelled"]),
     ("validated", ["queued", "failed"]),
     ("dispatched", ["running", "cancelled", "timeout"]),
     ("blocked", ["running", "cancelled", "timeout", "failed"]),
     ("dead_lettered", ["archived"]),
     ("archived", [])]
  nodup := by decide

/-- Configurable state machine for job lifecycle enforcement. -/
structure JobStateMachine where
  transitions : Dict String (List String)

namespace JobStateMachine

/-- `JobStateMachine(transitions)`; an empty table counts as missing. -/
def init (transitions : Option (Dict String (List String))) : JobStateMachine :=
  match transitions with
  | none => ⟨defaultTransitions⟩
  | some given => if given.isEmpty then ⟨defaultTransitions⟩ else ⟨given⟩

variable (machine : JobStateMachine) (registry : Dict String StateExtension)

/-- `merged.setdefault(state, set())` -/
def addState (merged : Dict String (List String)) (state : String) : Dict String (List String) :=
  match merged.get? state with
  | some _ => merged
  | none => merged.set state []

/-- `merged.setdefault(state, set()).update(targets)` -/
def addTargets (merged : Dict String (List String)) (entry : String × List String) :
    Dict String (List String) :=
  merged.set entry.1 (merged.getD entry.1 [] ++ entry.2)

def mergedTransitionsFor (jobType : Option String) : Dict String (List String) :=
  match jobType with
  | none => machine.transitions
  | some name =>
      if name = "" then machine.transitions
      else
        match registry.get? name with
        | none => machine.transitions
        | some extension =>
            extension.customTransitions.entries.foldl addTargets
              (extension.customStates.foldl addState machine.transitions)

/-- Whether the transition is allowed. -/
def canTransition (fromState toState : String) (jobType : Option String) : Bool :=
  toState ∈ (machine.mergedTransitionsFor registry jobType).getD fromState []

/-- Validate and apply the transition. -/
def transition (fromState toState : String) (jobType : Option String) : Except PyError String :=
  if machine.canTransition registry fromState toState jobType then .ok toState
  else .error (.valueError ("Invalid transition: " ++ fromState ++ " -> " ++ toState))

/-- Whether the state is terminal. -/
def isTerminal (state : String) (jobType : Option String) : Bool :=
  ((machine.mergedTransitionsFor registry jobType).getD state []).isEmpty

end JobStateMachine

/-- The transition is in the default table. -/
def JobStatus.MayBecome (source target : JobStatus) : Prop :=
  target.value ∈ defaultTransitions.getD source.value []

instance (source target : JobStatus) : Decidable (source.MayBecome target) :=
  inferInstanceAs (Decidable (_ ∈ _))

/-- `JobStateMachine().can_transition(source, target)` -/
theorem JobStateMachine.canTransition_default (registry : Dict String StateExtension)
    (source target : JobStatus) :
    (init none).canTransition registry source.value target.value none = true ↔
      source.MayBecome target := by
  rw [canTransition, decide_eq_true_eq]
  rfl

end CloudDogJobs
