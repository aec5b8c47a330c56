import Mathlib.Data.List.Induction
import CloudDogJobs.Extensions.StateExtensions
import CloudDogJobs.Foundation.Objects

/-!
# Shared sets

The tables of the state machines and of the registered extensions are dictionaries of
set objects, which a merge copies and then updates in place. The registry is shared by
all machines of the process, so a set that a merge shared with a table would carry
transitions from one call to the next and from one job type to another.

`Process` is the program at the level of the set objects. It refines `Tables`, in which
tables are values.
-/

namespace CloudDogJobs

open Foundation StateExtension

/-- A registered extension, by the addresses of its sets. -/
structure RegisteredSets where
  customStates : Nat
  customTransitions : Dict String Nat

/-- The set objects, the shared registry and the machines that were constructed. -/
structure Process where
  objects : Objects (List String)
  registry : Dict String RegisteredSets
  machines : List (Dict String Nat)

namespace Process

/-- A process in which nothing has happened. -/
def initial : Process := ⟨⟨[]⟩, ∅, []⟩

/-- `{state: set(targets) for state, targets in items}` -/
def copySets (objects : Objects (List String)) (items : List (String × List String)) :
    Dict String Nat × Objects (List String) :=
  items.foldl (fun copied item => (copied.1.set item.1 copied.2.size, copied.2.alloc item.2))
    (∅, objects)

/-- `merged.setdefault(state, set())`; the new set is created in any case. -/
def setDefault (merged : Dict String Nat × Objects (List String)) (state : String) :
    Dict String Nat × Objects (List String) :=
  match merged.1.get? state with
  | some _ => (merged.1, merged.2.alloc [])
  | none => (merged.1.set state merged.2.size, merged.2.alloc [])

/-- `merged.setdefault(state, set()).update(targets)` -/
def setDefaultUpdate (merged : Dict String Nat × Objects (List String)) (entry : String × Nat) :
    Dict String Nat × Objects (List String) :=
  let inserted := setDefault merged entry.1
  match inserted.1.get? entry.1 with
  | some address =>
      (inserted.1, inserted.2.modify address fun states => states ++ inserted.2.read entry.2)
  | none => inserted

variable (process : Process)

/-- `JobStateMachine(transitions)` -/
def construct (transitions : Option (Dict String (List String))) : Process :=
  let copied := copySets process.objects (JobStateMachine.init transitions).transitions.entries
  { process with objects := copied.2, machines := process.machines ++ [copied.1] }

/-- `register_state_extension`: the arguments are copied, checked and stored. -/
def registerStateExtension (jobType : String) (customStates : List String)
    (customTransitions : Dict String (List String)) : Except PyError Unit × Process :=
  let states := process.objects.size
  let copied := copySets (process.objects.alloc customStates) customTransitions.entries
  match checkTransitions (copied.2.read states) (copied.1.mapValues copied.2.read).entries with
  | .error error => (.error error, { process with objects := copied.2 })
  | .ok () =>
      (.ok (),
        { process with
          objects := copied.2
          registry := process.registry.set jobType ⟨states, copied.1⟩ })

/-- `_merged_transitions_for` -/
def mergedTransitionsFor (machine : Dict String Nat) (jobType : Option String) :
    Dict String Nat × Objects (List String) :=
  let copied := copySets process.objects (machine.mapValues process.objects.read).entries
  match jobType with
  | none => copied
  | some name =>
      if name = "" then copied
      else
        match process.registry.get? name with
        | none => copied
        | some extension =>
            extension.customTransitions.entries.foldl setDefaultUpdate
              ((copied.2.read extension.customStates).foldl setDefault copied)

/-- `transitions.get(state, set())` -/
def targets (merged : Dict String Nat × Objects (List String)) (state : String) : List String :=
  ((merged.1.get? state).map merged.2.read).getD []

def canTransition (machine : Dict String Nat) (fromState toState : String)
    (jobType : Option String) : Bool × Process :=
  let merged := process.mergedTransitionsFor machine jobType
  (toState ∈ targets merged fromState, { process with objects := merged.2 })

def isTerminal (machine : Dict String Nat) (state : String) (jobType : Option String) :
    Bool × Process :=
  let merged := process.mergedTransitionsFor machine jobType
  ((targets merged state).isEmpty, { process with objects := merged.2 })

end Process

/-- The machines and the registry with tables as values. -/
structure Tables where
  machines : List JobStateMachine
  registry : Dict String StateExtension

section Merging

open Process

/-- A merge under way: the old objects are as they were, and the merged table stands for
the values with objects of its own. -/
structure Building (old : Objects (List String)) (merged : Dict String Nat × Objects (List String))
    (values : Dict String (List String)) : Prop where
  grown : old.Extends merged.2
  owns : merged.2.Owns old.size merged.1 values

variable {old : Objects (List String)} {merged : Dict String Nat × Objects (List String)}
  {values : Dict String (List String)}

theorem Building.foldl_copy (building : Building old merged values)
    (items : List (String × List String)) :
    Building old
      (items.foldl (fun copied item => (copied.1.set item.1 copied.2.size, copied.2.alloc item.2))
        merged)
      (items.foldl (fun dict item => dict.set item.1 item.2) values) := by
  induction items generalizing merged values with
  | nil => exact building
  | cons item rest ih =>
      apply ih
      exact ⟨building.grown.trans (.alloc _ _), building.owns.set building.grown.size _ _⟩

/-- A copied table stands for the table that was copied. -/
theorem Building.copySets (objects : Objects (List String)) (table : Dict String (List String)) :
    Building objects (Process.copySets objects table.entries) table := by
  have start : Building objects (∅, objects) ∅ := ⟨.refl _, .empty _ _⟩
  have whole : table.entries.foldl (fun dict item => dict.set item.1 item.2) ∅ = table :=
    Dict.ofList_entries table
  have copied := start.foldl_copy table.entries
  rw [whole] at copied
  exact copied

theorem Building.setDefault (building : Building old merged values) (state : String) :
    Building old (Process.setDefault merged state) (JobStateMachine.addState values state) := by
  have grown := building.grown.trans (.alloc merged.2 [])
  have seen := building.owns.get? state
  unfold Process.setDefault JobStateMachine.addState
  cases found : merged.1.get? state with
  | some address =>
      rw [found] at seen
      rw [seen]
      exact ⟨grown, building.owns.alloc []⟩
  | none =>
      rw [found] at seen
      rw [seen]
      exact ⟨grown, building.owns.set building.grown.size state []⟩

theorem Building.setDefaultUpdate (building : Building old merged values) {entry : String × Nat}
    (present : entry.2 < old.size) :
    Building old (Process.setDefaultUpdate merged entry)
      (JobStateMachine.addTargets values (entry.1, old.read entry.2)) := by
  have inserted := building.setDefault entry.1
  have source := inserted.grown.read entry.2 present
  have seen := inserted.owns.get? entry.1
  have filled : (JobStateMachine.addState values entry.1).get? entry.1 =
      some (values.getD entry.1 []) := by
    unfold JobStateMachine.addState Dict.getD
    cases found : values.get? entry.1 with
    | some _ => exact found
    | none => exact values.get?_set_self entry.1 []
  rw [filled] at seen
  obtain ⟨address, stored, contents⟩ := Option.map_eq_some_iff.mp seen.symm
  have updated := inserted.owns.modify stored fun states => states ++ old.read entry.2
  rw [contents] at updated
  have merging : (JobStateMachine.addState values entry.1).set entry.1
      (values.getD entry.1 [] ++ old.read entry.2) =
        JobStateMachine.addTargets values (entry.1, old.read entry.2) := by
    unfold JobStateMachine.addTargets JobStateMachine.addState
    cases values.get? entry.1 with
    | some _ => rfl
    | none => exact Dict.set_set _ _ _ _
  rw [merging] at updated
  simp only [Process.setDefaultUpdate, stored, source]
  exact ⟨inserted.grown.modify (inserted.owns.above _ _ stored) _, updated⟩

theorem Building.foldl_setDefault (building : Building old merged values) (states : List String) :
    Building old (states.foldl Process.setDefault merged)
      (states.foldl JobStateMachine.addState values) := by
  induction states generalizing merged values with
  | nil => exact building
  | cons state rest ih => exact ih (building.setDefault state)

theorem Building.foldl_setDefaultUpdate (building : Building old merged values)
    (entries : List (String × Nat)) (present : ∀ entry ∈ entries, entry.2 < old.size) :
    Building old (entries.foldl Process.setDefaultUpdate merged)
      ((entries.map fun entry => (entry.1, old.read entry.2)).foldl JobStateMachine.addTargets
        values) := by
  induction entries generalizing merged values with
  | nil => exact building
  | cons entry rest ih =>
      have now := building.setDefaultUpdate (present entry List.mem_cons_self)
      exact ih now fun other member => present other (List.mem_cons_of_mem _ member)

theorem Building.targets (building : Building old merged values) (state : String) :
    Process.targets merged state = values.getD state [] := by
  rw [Process.targets, Dict.getD, building.owns.get?]

end Merging

namespace Process

/-- The extension that a registered one stands for. -/
def extension (objects : Objects (List String)) (registered : RegisteredSets) : StateExtension :=
  ⟨objects.read registered.customStates, registered.customTransitions.mapValues objects.read⟩

/-- The process at the level of objects stands for the tables. -/
structure Represents (process : Process) (tables : Tables) : Prop where
  machines : process.machines.map (fun table => ⟨table.mapValues process.objects.read⟩) =
    tables.machines
  registry : process.registry.mapValues (extension process.objects) = tables.registry
  machinesCovered : ∀ table ∈ process.machines, process.objects.Covers table
  registryCovered : ∀ jobType registered, process.registry.get? jobType = some registered →
    registered.customStates < process.objects.size ∧
      process.objects.Covers registered.customTransitions

variable {process : Process} {tables : Tables}

theorem extension_of_extends {objects larger : Objects (List String)}
    (grown : objects.Extends larger) {registered : RegisteredSets}
    (stored : registered.customStates < objects.size)
    (covers : objects.Covers registered.customTransitions) :
    extension larger registered = extension objects registered := by
  rw [extension, extension, grown.read _ stored, grown.mapValues covers]

/-- More objects do not change what a process stands for. -/
theorem Represents.grow (represents : process.Represents tables) {larger : Objects (List String)}
    (grown : process.objects.Extends larger) :
    ({ process with objects := larger } : Process).Represents tables where
  machines := by
    rw [← represents.machines]
    apply List.map_congr_left
    intro table member
    dsimp only
    rw [grown.mapValues (represents.machinesCovered table member)]
  registry := by
    rw [← represents.registry]
    apply Dict.ext_entries
    apply List.map_congr_left
    intro entry member
    obtain ⟨stored, covers⟩ := represents.registryCovered entry.1 entry.2
      ((Dict.mem_entries_iff _ _ _).mp member)
    dsimp only
    rw [extension_of_extends grown stored covers]
  machinesCovered table member := grown.covers (represents.machinesCovered table member)
  registryCovered jobType registered found := by
    obtain ⟨stored, covers⟩ := represents.registryCovered jobType registered found
    exact ⟨Nat.lt_of_lt_of_le stored grown.size, grown.covers covers⟩

/-- The merge on objects computes the merge on values and leaves every old set alone. -/
theorem Represents.merged (represents : process.Represents tables) (machine : Dict String Nat)
    (jobType : Option String) :
    Building process.objects (process.mergedTransitionsFor machine jobType)
      (JobStateMachine.mergedTransitionsFor ⟨machine.mapValues process.objects.read⟩
        tables.registry jobType) := by
  have copied := Building.copySets process.objects (machine.mapValues process.objects.read)
  unfold mergedTransitionsFor JobStateMachine.mergedTransitionsFor
  cases jobType with
  | none => exact copied
  | some name =>
      dsimp only
      split
      · exact copied
      · rw [← represents.registry, Dict.get?_mapValues]
        cases found : process.registry.get? name with
        | none => exact copied
        | some registered =>
            obtain ⟨stored, covers⟩ := represents.registryCovered name registered found
            dsimp only [Option.map_some, extension]
            rw [copied.grown.read _ stored]
            exact (copied.foldl_setDefault _).foldl_setDefaultUpdate _
              fun _ member => covers.entry member

theorem Represents.canTransition (represents : process.Represents tables)
    (machine : Dict String Nat) (source target : String) (jobType : Option String) :
    (process.canTransition machine source target jobType).1 =
      JobStateMachine.canTransition ⟨machine.mapValues process.objects.read⟩ tables.registry
        source target jobType := by
  have merged := represents.merged machine jobType
  rw [Process.canTransition, JobStateMachine.canTransition, merged.targets]

theorem Represents.isTerminal (represents : process.Represents tables)
    (machine : Dict String Nat) (state : String) (jobType : Option String) :
    (process.isTerminal machine state jobType).1 =
      JobStateMachine.isTerminal ⟨machine.mapValues process.objects.read⟩ tables.registry
        state jobType := by
  have merged := represents.merged machine jobType
  rw [Process.isTerminal, JobStateMachine.isTerminal, merged.targets]

/-- What happens in the process; a machine is named by its number. -/
inductive Event
  | construct (transitions : Option (Dict String (List String)))
  | register (jobType : String) (customStates : List String)
      (customTransitions : Dict String (List String))
  | canTransition (index : Nat) (fromState toState : String) (jobType : Option String)
  | isTerminal (index : Nat) (state : String) (jobType : Option String)

def perform (process : Process) : Event → Process
  | .construct transitions => process.construct transitions
  | .register jobType customStates customTransitions =>
      (process.registerStateExtension jobType customStates customTransitions).2
  | .canTransition index fromState toState jobType =>
      match process.machines[index]? with
      | some machine => (process.canTransition machine fromState toState jobType).2
      | none => process
  | .isTerminal index state jobType =>
      match process.machines[index]? with
      | some machine => (process.isTerminal machine state jobType).2
      | none => process

/-- The process after some events. -/
def run (events : List Event) : Process := events.foldl perform initial

end Process

namespace Tables

open Process

/-- The effect of an event on tables as values. -/
def perform (tables : Tables) : Event → Tables
  | .construct transitions =>
      { tables with machines := tables.machines ++ [JobStateMachine.init transitions] }
  | .register jobType customStates customTransitions =>
      { tables with
        registry := (StateExtension.registerStateExtension tables.registry jobType customStates
          customTransitions).2 }
  | _ => tables

/-- The tables after some events. -/
def run (events : List Event) : Tables := events.foldl perform ⟨[], ∅⟩

end Tables

namespace Process

variable {process : Process} {tables : Tables}

theorem Represents.construct (represents : process.Represents tables)
    (transitions : Option (Dict String (List String))) :
    (process.construct transitions).Represents (tables.perform (.construct transitions)) := by
  have copied := Building.copySets process.objects (JobStateMachine.init transitions).transitions
  have kept := represents.grow copied.grown
  refine ⟨?_, kept.registry, ?_, kept.registryCovered⟩
  · simp only [Process.construct, Tables.perform, List.map_append, List.map_singleton]
    rw [copied.owns.shown]
    exact congrArg (· ++ _) kept.machines
  · intro table member
    rcases List.mem_append.mp member with earlier | new
    · exact kept.machinesCovered table earlier
    · rw [List.mem_singleton.mp new]
      exact copied.owns.covers

/-- The copied arguments of a registration. -/
theorem building_register (objects : Objects (List String)) (customStates : List String)
    (customTransitions : Dict String (List String)) :
    let copied := copySets (objects.alloc customStates) customTransitions.entries
    objects.Extends copied.2 ∧ objects.size < copied.2.size ∧
      copied.2.read objects.size = customStates ∧
      copied.1.mapValues copied.2.read = customTransitions ∧ copied.2.Covers copied.1 := by
  intro copied
  have building := Building.copySets (objects.alloc customStates) customTransitions
  have present : objects.size < (objects.alloc customStates).size := by simp
  refine ⟨(Objects.Extends.alloc objects customStates).trans building.grown,
    Nat.lt_of_lt_of_le present building.grown.size, ?_, building.owns.shown, building.owns.covers⟩
  rw [building.grown.read _ present, Objects.read_alloc_self]

theorem registerStateExtension_eq (process : Process) (jobType : String)
    (customStates : List String) (customTransitions : Dict String (List String)) :
    process.registerStateExtension jobType customStates customTransitions =
      let copied := copySets (process.objects.alloc customStates) customTransitions.entries
      match checkTransitions customStates customTransitions.entries with
      | .error error => (.error error, { process with objects := copied.2 })
      | .ok () =>
          (.ok (),
            { process with
              objects := copied.2
              registry := process.registry.set jobType ⟨process.objects.size, copied.1⟩ }) := by
  obtain ⟨_, _, states, transitions, _⟩ :=
    building_register process.objects customStates customTransitions
  rw [registerStateExtension]
  dsimp only
  rw [states, transitions]

theorem Represents.register (represents : process.Represents tables) (jobType : String)
    (customStates : List String) (customTransitions : Dict String (List String)) :
    (process.registerStateExtension jobType customStates customTransitions).2.Represents
      (tables.perform (.register jobType customStates customTransitions)) := by
  obtain ⟨grown, present, states, transitions, covers⟩ :=
    building_register process.objects customStates customTransitions
  have kept := represents.grow grown
  rw [registerStateExtension_eq, Tables.perform, StateExtension.registerStateExtension]
  dsimp only
  cases checkTransitions customStates customTransitions.entries with
  | error error => exact kept
  | ok done =>
      refine ⟨kept.machines, ?_, kept.machinesCovered, ?_⟩
      · have read : extension (copySets (process.objects.alloc customStates)
            customTransitions.entries).2 ⟨process.objects.size, (copySets
              (process.objects.alloc customStates) customTransitions.entries).1⟩ =
                ⟨customStates, customTransitions⟩ := by
          rw [extension, states, transitions]
        rw [Dict.mapValues_set, read]
        exact congrArg (Dict.set · jobType _) kept.registry
      · exact Dict.forall_get?_set kept.registryCovered ⟨present, covers⟩

/-- The step lemma of the refinement. -/
theorem Represents.perform (represents : process.Represents tables) (event : Event) :
    (process.perform event).Represents (tables.perform event) := by
  cases event with
  | construct transitions => exact represents.construct transitions
  | register jobType customStates customTransitions =>
      exact represents.register jobType customStates customTransitions
  | canTransition index fromState toState jobType =>
      simp only [Process.perform]
      split
      · next machine _ => exact represents.grow (represents.merged machine jobType).grown
      · exact represents
  | isTerminal index state jobType =>
      simp only [Process.perform]
      split
      · next machine _ => exact represents.grow (represents.merged machine jobType).grown
      · exact represents

/-- The run lemma: whatever has happened, the objects stand for the tables. -/
theorem represents_run (events : List Event) : (run events).Represents (Tables.run events) := by
  induction events using List.reverseRecOn with
  | nil => exact ⟨rfl, rfl, nofun, nofun⟩
  | append_singleton earlier event ih =>
      rw [run, Tables.run, List.foldl_append, List.foldl_append]
      exact ih.perform event

/-- The extension that an event registers successfully for a job type. -/
def Event.registered (jobType : String) : Event → Option StateExtension
  | .register name customStates customTransitions =>
      if name = jobType ∧ Acceptable customStates customTransitions then
        some ⟨customStates, customTransitions⟩
      else none
  | _ => none

/-- The last successfully registered extension of a job type. -/
def lastRegistered (jobType : String) (events : List Event) : Option StateExtension :=
  (events.filterMap (Event.registered jobType)).getLast?

theorem lastRegistered_snoc (jobType : String) (events : List Event) (event : Event) :
    lastRegistered jobType (events ++ [event]) =
      (event.registered jobType).or (lastRegistered jobType events) := by
  rw [lastRegistered, List.filterMap_append, List.getLast?_append]
  cases found : event.registered jobType with
  | none => simp [found, lastRegistered]
  | some extension => simp [found]

theorem get?_registry_run (jobType : String) (events : List Event) :
    (Tables.run events).registry.get? jobType = lastRegistered jobType events := by
  induction events using List.reverseRecOn with
  | nil => rfl
  | append_singleton earlier event ih =>
      rw [Tables.run, List.foldl_append, ← Tables.run, lastRegistered_snoc, ← ih]
      cases event with
      | register name customStates customTransitions =>
          simp only [List.foldl_cons, List.foldl_nil, Tables.perform, registerStateExtension_snd,
            Event.registered]
          by_cases accepted : Acceptable customStates customTransitions
          · by_cases same : name = jobType
            · simp [accepted, same]
            · simp [accepted, same, Dict.get?_set_of_ne, Ne.symm same]
          · simp [accepted]
      | _ => rfl

/-- Machines keep their numbers. -/
theorem machines_prefix (tables : Tables) (events : List Event) :
    tables.machines <+: (events.foldl Tables.perform tables).machines := by
  induction events generalizing tables with
  | nil => exact List.prefix_rfl
  | cons event rest ih =>
      refine List.IsPrefix.trans ?_ (ih _)
      cases event with
      | construct transitions => exact List.prefix_append _ _
      | _ => exact List.prefix_rfl

/-- The table of a machine that was constructed with one of its own. -/
theorem machine_of_construct (before after : List Event) {base : Dict String (List String)}
    (filled : base.isEmpty = false) :
    ∃ machine,
      (run (before ++ .construct (some base) :: after)).machines[(run before).machines.length]? =
          some machine ∧
        machine.mapValues (run (before ++ .construct (some base) :: after)).objects.read =
          base := by
  have represents := represents_run (before ++ .construct (some base) :: after)
  have number : (run before).machines.length = (Tables.run before).machines.length := by
    rw [← (represents_run before).machines, List.length_map]
  obtain ⟨later, kept⟩ :=
    machines_prefix ((Tables.run before).perform (.construct (some base))) after
  have whole : Tables.run (before ++ .construct (some base) :: after) =
      after.foldl Tables.perform ((Tables.run before).perform (.construct (some base))) := by
    rw [Tables.run, List.foldl_append]
    rfl
  have table : (Tables.run (before ++ .construct (some base) :: after)).machines[
      (run before).machines.length]? = some ⟨base⟩ := by
    rw [whole, number, ← kept]
    simp [Tables.perform, JobStateMachine.init, filled]
  rw [← represents.machines, List.getElem?_map, Option.map_eq_some_iff] at table
  obtain ⟨machine, found, same⟩ := table
  exact ⟨machine, found, congrArg JobStateMachine.transitions same⟩

theorem canTransition_run_iff {events : List Event} {machine : Dict String Nat}
    {base : Dict String (List String)} (shown : machine.mapValues (run events).objects.read = base)
    {jobType : String} (named : jobType ≠ "") (source target : String) :
    ((run events).canTransition machine source target (some jobType)).1 = true ↔
      target ∈ base.getD source [] ∨
        ∃ extension, lastRegistered jobType events = some extension ∧
          target ∈ extension.customTransitions.getD source [] := by
  rw [(represents_run events).canTransition, JobStateMachine.canTransition_iff _ _ named,
    get?_registry_run, shown]

/-- A registration that raises registers nothing. -/
theorem registered_of_raised {process : Process} {name : String} {customStates : List String}
    {customTransitions : Dict String (List String)}
    (raised : (process.registerStateExtension name customStates customTransitions).1 ≠ .ok ())
    (jobType : String) :
    Event.registered jobType (.register name customStates customTransitions) = none := by
  have unacceptable : ¬ Acceptable customStates customTransitions := by
    intro acceptable
    apply raised
    rw [registerStateExtension_eq]
    dsimp only
    rw [(checkTransitions_eq_ok_iff customStates customTransitions.entries).mpr acceptable]
  simp [Event.registered, unacceptable]

/-- A registration leaves the objects of every machine as they are. -/
theorem mapValues_register {events : List Event} {index : Nat} {machine : Dict String Nat}
    (found : (run events).machines[index]? = some machine) (name : String)
    (customStates : List String) (customTransitions : Dict String (List String)) :
    machine.mapValues (run (events ++ [.register name customStates customTransitions])).objects.read
      = machine.mapValues (run events).objects.read := by
  obtain ⟨grown, _⟩ :=
    building_register (run events).objects customStates customTransitions
  have covers := (represents_run events).machinesCovered machine (List.mem_of_getElem? found)
  have objects : (run (events ++ [.register name customStates customTransitions])).objects =
      (copySets ((run events).objects.alloc customStates) customTransitions.entries).2 := by
    rw [run, List.foldl_append, ← run]
    simp only [List.foldl_cons, List.foldl_nil, perform, registerStateExtension_eq]
    split
    · rfl
    · rfl
  rw [objects]
  exact grown.mapValues covers

/-- **State extensions are conservative and isolated.** Let a machine be constructed with
a non-empty table at any point of a run, with registrations, some of which raise, other
machines and queries before and after. For a job type with a name, a transition is
allowed exactly when it is in the table or in the last successfully registered
extension of the type. A state is terminal exactly when no transition leaves it. A
registration that raises and one for another type change no answer. -/
theorem extensions_conservative_and_isolated (before after : List Event)
    (base : Dict String (List String)) (filled : base.isEmpty = false) (jobType : String)
    (named : jobType ≠ "") :
    let events := before ++ .construct (some base) :: after
    ∃ machine, (run events).machines[(run before).machines.length]? = some machine ∧
      (∀ source target,
        ((run events).canTransition machine source target (some jobType)).1 = true ↔
          target ∈ base.getD source [] ∨
            ∃ extension, lastRegistered jobType events = some extension ∧
              target ∈ extension.customTransitions.getD source []) ∧
      (∀ state, ((run events).isTerminal machine state (some jobType)).1 = true ↔
        ∀ target, ((run events).canTransition machine state target (some jobType)).1 = false) ∧
      ∀ name customStates customTransitions,
        name ≠ jobType ∨
            ((run events).registerStateExtension name customStates customTransitions).1 ≠ .ok () →
          ∀ source target,
            ((run (events ++ [.register name customStates customTransitions])).canTransition
                machine source target (some jobType)).1 =
              ((run events).canTransition machine source target (some jobType)).1 := by
  intro events
  obtain ⟨machine, found, shown⟩ := machine_of_construct before after filled
  refine ⟨machine, found, canTransition_run_iff shown named, ?_, ?_⟩
  · intro state
    simp only [(represents_run events).isTerminal, (represents_run events).canTransition]
    exact JobStateMachine.isTerminal_iff _ _ _ _
  · intro name customStates customTransitions without source target
    have nothing : Event.registered jobType (.register name customStates customTransitions) =
        none := by
      rcases without with other | raised
      · simp [Event.registered, other]
      · exact registered_of_raised raised jobType
    have same : lastRegistered jobType
        (events ++ [.register name customStates customTransitions]) =
          lastRegistered jobType events := by
      rw [lastRegistered_snoc, nothing, Option.none_or]
    rw [Bool.eq_iff_iff, canTransition_run_iff shown named,
      canTransition_run_iff ((mapValues_register found name customStates customTransitions).trans
        shown) named, same]

/-- A registration that raises leaves the extension of its type in place. -/
theorem extension_survives_rejected_registration :
    let base : Dict String (List String) := Dict.empty.set "queued" ["running"]
    let events : List Event :=
      [.construct (some base),
        .register "etl" ["running"] (Dict.empty.set "running" ["checked"]),
        .register "etl" ["loaded"] (Dict.empty.set "running" ["loaded"])]
    ∃ machine, (run events).machines[0]? = some machine ∧
      ((run events).canTransition machine "queued" "running" (some "etl")).1 = true ∧
      ((run events).canTransition machine "running" "checked" (some "etl")).1 = true ∧
      ((run events).canTransition machine "running" "loaded" (some "etl")).1 = false := by
  intro base events
  have registered : lastRegistered "etl" events =
      some ⟨["running"], Dict.empty.set "running" ["checked"]⟩ := by rfl
  obtain ⟨machine, found, allowed, _⟩ :=
    extensions_conservative_and_isolated []
      [.register "etl" ["running"] (Dict.empty.set "running" ["checked"]),
        .register "etl" ["loaded"] (Dict.empty.set "running" ["loaded"])]
      base rfl "etl" (by decide)
  refine ⟨machine, found, ?_, ?_, ?_⟩
  · exact (allowed "queued" "running").mpr (.inl (by decide))
  · exact (allowed "running" "checked").mpr (.inr ⟨_, registered, by decide⟩)
  · rw [Bool.eq_false_iff]
    intro moved
    rcases (allowed "running" "loaded").mp moved with inBase | ⟨extension, last, added⟩
    · exact absurd inBase (by decide)
    · cases registered.symm.trans last
      exact absurd added (by decide)

end Process

end CloudDogJobs
