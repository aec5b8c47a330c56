import CloudDogJobs.Broker.Registry
import CloudDogJobs.Foundation.Sequence

/-!
# Discovery of services

What the registries answer when the calls of the processes do not overlap. A process
keeps a record of its own beside the shared hash, and `heartbeat` answers from both: it
answers true for a service that another process has removed from the hash. As long as
one process is alone, its dictionary, the hash and an in-memory registry stand for the
same registrations.
-/

namespace CloudDogJobs

open Foundation

namespace ServiceRegistry

variable {ι : Type} [DecidableEq ι] (registry : ServiceRegistry) (process : ι)
  (state : RegistryState ι)

/-! ## The dictionary of a process -/

/-- What the first step of a call does to the dictionary of its process. -/
def localStep (op : Op) (records : Dict String ServiceRecord) : Dict String ServiceRecord :=
  match op with
  | .register record => records.set record.serviceId record
  | .deregister serviceId => records.erase serviceId
  | .heartbeat serviceId localNow _ =>
      records.modify serviceId fun record => { record with lastHeartbeat := localNow }
  | _ => records

/-- The state after a call. -/
def apply (op : Op) : RegistryState ι := ((registry.code process op).run RegistryState.exec state).2

omit [DecidableEq ι] in
/-- The call sees to the hash only. -/
def Remote : RegistryCall ι → Prop
  | .remember _ _ => False
  | .forget _ _ => False
  | .touch _ _ _ => False
  | _ => True

theorem locals_of_only {α : Type} {program : RegistryProg ι α} (only : program.Only Remote) :
    (program.run RegistryState.exec state).2.locals = state.locals := by
  have kept : ∀ call reached, Remote call → reached.locals = state.locals →
      (RegistryState.exec call reached).2.locals = state.locals := by
    intro call reached remote same
    cases call with
    | remember _ _ => cases remote
    | forget _ _ => cases remote
    | touch _ _ _ => cases remote
    | _ => exact same
  exact only.run RegistryState.exec kept rfl

/-- After its first step a call sees to the hash only. -/
theorem locals_apply (op : Op) :
    (registry.apply process state op).locals =
      Function.update state.locals process (localStep op (state.locals process)) := by
  have same : Function.update state.locals process (state.locals process) = state.locals :=
    Function.update_eq_self ..
  unfold apply code
  cases op with
  | register record =>
      simp only [Prog.run_map, register]
      cases registry.redis <;> rfl
  | deregister serviceId =>
      simp only [Prog.run_map, deregister]
      cases registry.redis <;> rfl
  | heartbeat serviceId localNow hashNow =>
      simp only [Prog.run_map, heartbeat, Prog.issue_bind, Prog.run_act]
      refine locals_of_only _ ?_
      cases registry.redis with
      | false => trivial
      | true =>
          refine ⟨trivial, fun raw => ?_⟩
          cases raw with
          | none => trivial
          | some raw =>
              dsimp only
              split
              · trivial
              · split
                · trivial
                · exact ⟨trivial, fun _ => trivial⟩
  | listServices serviceType aliveOnly now =>
      simp only [Prog.run_map, listServices, localStep, same]
      refine locals_of_only _ ?_
      cases registry.redis with
      | false => exact ⟨trivial, fun _ => trivial⟩
      | true =>
          refine ⟨trivial, fun texts => ?_⟩
          dsimp only [Prog.bind]
          split
          · trivial
          · trivial
  | get serviceId now =>
      simp only [Prog.run_map, get, localStep, same]
      refine locals_of_only _ ?_
      cases registry.redis with
      | false => exact ⟨trivial, fun _ => trivial⟩
      | true =>
          refine ⟨trivial, fun raw => ?_⟩
          cases raw with
          | none => trivial
          | some raw =>
              dsimp only [Prog.bind]
              split
              · trivial
              · trivial

/-! ## The hash -/

section Redis

variable {registry} {state} {serviceId : String} {record : ServiceRecord}
  (shared : registry.redis = true)

include shared

theorem run_register (record : ServiceRecord) :
    (registry.register process record).run RegistryState.exec state =
      (.ok (), { state.onLocal process (·.set record.serviceId record) with
        hash := state.hash.set record.serviceId (registry.encode record) }) := by
  simp only [register, shared, Prog.issue_bind, Prog.run_act, ↓reduceIte]
  rfl

theorem run_deregister (serviceId : String) :
    (registry.deregister process serviceId).run RegistryState.exec state =
      (.ok (), { state.onLocal process (·.erase serviceId) with
        hash := state.hash.erase serviceId }) := by
  simp only [deregister, shared, Prog.issue_bind, Prog.run_act, ↓reduceIte]
  rfl

/-- A heartbeat of a service that is not in the hash answers from the dictionary. -/
theorem run_heartbeat_of_absent (absent : state.hash.get? serviceId = none)
    (localNow hashNow : Rat) :
    (registry.heartbeat process serviceId localNow hashNow).run RegistryState.exec state =
      (.ok ((state.locals process).get? serviceId).isSome,
        state.onLocal process (·.modify serviceId fun record =>
          { record with lastHeartbeat := localNow })) := by
  simp only [heartbeat, shared, Prog.issue_bind, Prog.run_act, ↓reduceIte, RegistryState.exec,
    RegistryState.onLocal, absent]
  rfl

/-- A heartbeat of a service in the hash writes its record with the new time. -/
theorem run_heartbeat_of_stored (encodes : registry.Encodes record)
    (stored : state.hash.get? serviceId = some (registry.encode record))
    (localNow hashNow : Rat) :
    (registry.heartbeat process serviceId localNow hashNow).run RegistryState.exec state =
      (.ok true,
        { state.onLocal process (·.modify serviceId fun record =>
            { record with lastHeartbeat := localNow }) with
          hash := state.hash.set serviceId
            (registry.encode { record with lastHeartbeat := hashNow }) }) := by
  simp only [heartbeat, shared, Prog.issue_bind, Prog.run_act, ↓reduceIte, RegistryState.exec,
    RegistryState.onLocal, stored, encodes.filled, loadsDict_encode encodes, toDict_set]
  rfl

theorem run_get_of_absent (absent : state.hash.get? serviceId = none) (now : Rat) :
    (registry.get process serviceId now).run RegistryState.exec state = (.ok none, state) := by
  simp only [get, shared, Prog.issue_bind, Prog.run_act, ↓reduceIte, RegistryState.exec, absent]
  rfl

theorem run_get_of_stored (encodes : registry.Encodes record)
    (stored : state.hash.get? serviceId = some (registry.encode record)) (now : Rat) :
    (registry.get process serviceId now).run RegistryState.exec state =
      (.ok (some record), state) := by
  simp only [get, shared, Prog.issue_bind, Prog.run_act, ↓reduceIte, RegistryState.exec, stored,
    encodes.filled, decode_encode encodes]
  rfl

end Redis

section Registrations

variable {registry} {state} {valid : ServiceRecord → Prop}
  {registered : String → Option ServiceRecord}
  (shared : registry.redis = true) (lossless : ∀ record, valid record → registry.Encodes record)
  (mirrors : registry.Mirrors valid state.hash registered)

include shared lossless mirrors

/-- `get` returns the registration and changes nothing. -/
theorem run_get (serviceId : String) (now : Rat) :
    (registry.get process serviceId now).run RegistryState.exec state =
      (.ok (registered serviceId), state) := by
  rcases mirrors.cases serviceId with ⟨present, absent⟩ | ⟨record, present, sound, _, stored⟩
  · rw [run_get_of_absent process shared absent, present]
  · rw [run_get_of_stored process shared (lossless record sound) stored, present]

/-- A heartbeat is answered from the hash and from the dictionary. -/
theorem heartbeat_answer (serviceId : String) (localNow hashNow : Rat) :
    ((registry.heartbeat process serviceId localNow hashNow).run RegistryState.exec state).1 =
      .ok ((registered serviceId).isSome || ((state.locals process).get? serviceId).isSome) := by
  rcases mirrors.cases serviceId with ⟨present, absent⟩ | ⟨record, present, sound, _, stored⟩
  · rw [run_heartbeat_of_absent process shared absent, present]
    rfl
  · rw [run_heartbeat_of_stored process shared (lossless record sound) stored, present]
    rfl

/-- A call does to the registrations behind the hash what it is for. -/
theorem mirrors_apply {op : Op} (admissible : op.Admissible valid) :
    registry.Mirrors valid (registry.apply process state op).hash (amended registered op) := by
  unfold apply code
  cases op with
  | register record =>
      simp only [Prog.run_map, run_register process shared record]
      exact mirrors.hset admissible
  | deregister serviceId =>
      simp only [Prog.run_map, run_deregister process shared serviceId]
      exact mirrors.hdel serviceId
  | heartbeat serviceId localNow hashNow =>
      rcases mirrors.cases serviceId with ⟨present, absent⟩ | ⟨record, present, sound, rfl, stored⟩
      · simp only [Prog.run_map, run_heartbeat_of_absent process shared absent, amended, present,
          Option.map_none]
        rw [← present, Function.update_eq_self]
        exact mirrors
      · simp only [Prog.run_map, run_heartbeat_of_stored process shared (lossless record sound)
          stored, amended, present, Option.map_some]
        exact mirrors.hset (admissible record sound)
  | listServices serviceType aliveOnly now =>
      simp only [Prog.run_map, listServices, shared, Prog.issue_bind, Prog.run_act, ↓reduceIte,
        RegistryState.exec]
      split
      · exact mirrors
      · exact mirrors
  | get serviceId now =>
      simp only [Prog.run_map, run_get process shared lossless mirrors serviceId now]
      exact mirrors

end Registrations

/-! ## Many processes, one call after the other -/

/-- The state after calls of any processes, one after the other. -/
def reached (calls : List (ι × Op)) : RegistryState ι :=
  calls.foldl (fun state call => registry.apply call.1 state call.2) .empty

/-- The hash stands for some registrations throughout. -/
theorem mirrors_reached {registry : ServiceRegistry} {valid : ServiceRecord → Prop}
    (shared : registry.redis = true) (lossless : ∀ record, valid record → registry.Encodes record)
    {calls : List (ι × Op)} (admissible : ∀ call ∈ calls, call.2.Admissible valid) :
    ∃ registered, registry.Mirrors valid (registry.reached calls).hash registered := by
  have run : ∀ (calls : List (ι × Op)) (state : RegistryState ι),
      (∀ call ∈ calls, call.2.Admissible valid) →
      (∃ registered, registry.Mirrors valid state.hash registered) →
      ∃ registered, registry.Mirrors valid
        (calls.foldl (fun state call => registry.apply call.1 state call.2) state).hash
          registered := by
    intro calls
    induction calls with
    | nil => exact fun _ _ start => start
    | cons call rest ih =>
        rintro state permitted ⟨registered, mirrors⟩
        refine ih _ (fun other member => permitted other (List.mem_cons_of_mem _ member)) ?_
        exact ⟨_, mirrors_apply call.1 shared lossless mirrors (permitted call List.mem_cons_self)⟩
  exact run calls .empty admissible ⟨fun _ => none, fun _ => rfl, nofun⟩

/-- A heartbeat that answers true has made the service discoverable: a `get` that comes
next, by any process, returns its record with the time of the heartbeat. -/
def Discoverable (serviceId : String) (localNow hashNow : Rat) : Prop :=
  ((registry.heartbeat process serviceId localNow hashNow).run RegistryState.exec state).1 =
      .ok true →
    ∀ (other : ι) (now : Rat), ∃ record,
      ((registry.get other serviceId now).run RegistryState.exec
        ((registry.heartbeat process serviceId localNow hashNow).run RegistryState.exec
          state).2).1 = .ok (some record) ∧ record.lastHeartbeat = hashNow

theorem discoverable_iff {registry : ServiceRegistry} {state : RegistryState ι}
    {valid : ServiceRecord → Prop} {registered : String → Option ServiceRecord}
    (shared : registry.redis = true) (lossless : ∀ record, valid record → registry.Encodes record)
    (mirrors : registry.Mirrors valid state.hash registered) {serviceId : String}
    {localNow hashNow : Rat}
    (admissible : (Op.heartbeat serviceId localNow hashNow).Admissible valid) :
    registry.Discoverable process state serviceId localNow hashNow ↔
      (state.hash.get? serviceId).isSome ∨ (state.locals process).get? serviceId = none := by
  have answer := heartbeat_answer process shared lossless mirrors serviceId localNow hashNow
  have after : registry.Mirrors valid _ _ :=
    mirrors_apply process shared lossless mirrors admissible
  simp only [apply, code, Prog.run_map] at after
  have gets := fun (other : ι) (now : Rat) =>
    run_get other shared lossless after serviceId now
  have stored := mirrors.texts serviceId
  unfold Discoverable
  simp only [answer, gets, stored, amended, Function.update_self, Except.ok.injEq]
  cases registered serviceId with
  | none =>
      constructor
      · intro discoverable
        refine .inr (Option.not_isSome_iff_eq_none.mp fun kept => ?_)
        obtain ⟨_, missing, _⟩ := discoverable kept process hashNow
        cases missing
      · rintro (held | absent) answered
        · cases held
        · rw [absent] at answered
          cases answered
  | some record => exact iff_of_true (fun _ _ _ => ⟨_, rfl, rfl⟩) (.inl rfl)

/-- **A heartbeat makes a service discoverable that the hash has.** After any calls of any
processes with Redis, one after the other, a heartbeat that answers true is followed by a
`get` with its time, by every process, exactly when the service is in the hash or the
process has no record of it in its own dictionary. -/
theorem heartbeat_discoverable_iff {registry : ServiceRegistry} {valid : ServiceRecord → Prop}
    (shared : registry.redis = true) (lossless : ∀ record, valid record → registry.Encodes record)
    {calls : List (ι × Op)} (admissible : ∀ call ∈ calls, call.2.Admissible valid)
    {serviceId : String} {localNow hashNow : Rat}
    (beats : (Op.heartbeat serviceId localNow hashNow).Admissible valid) :
    registry.Discoverable process (registry.reached calls) serviceId localNow hashNow ↔
      ((registry.reached calls).hash.get? serviceId).isSome ∨
        ((registry.reached calls).locals process).get? serviceId = none := by
  obtain ⟨registered, mirrors⟩ := mirrors_reached shared lossless admissible
  exact discoverable_iff process shared lossless mirrors beats

/-! ## One process -/

/-- What a caller sees of an answer; a list of services counts as a set. -/
inductive Seen
  | done
  | flag (value : Bool)
  | services (records : Set ServiceRecord)
  | service (found : Option ServiceRecord)

def Result.seen : Result → Seen
  | .done => .done
  | .flag value => .flag value
  | .services records => .services { record | record ∈ records }
  | .service found => .service found

/-- The answer of a registry to a call, as it is seen, and the state after it. -/
def answer (state : RegistryState ι) (op : Op) : Except PyError Seen × RegistryState ι :=
  ((((registry.code process op).run RegistryState.exec state).1).map Result.seen,
    registry.apply process state op)

/-- The record passes the filters of `list_services`. -/
def Passes (serviceType : Option String) (aliveOnly : Bool) (now : Rat) (record : ServiceRecord) :
    Prop :=
  (aliveOnly = true → record.isAlive registry.heartbeatTimeout now = true) ∧
    ∀ wanted, serviceType = some wanted → wanted ≠ "" → record.serviceType = wanted

/-- What a registry with these registrations answers. -/
def expected (registered : String → Option ServiceRecord) : Op → Seen
  | .register _ => .done
  | .deregister _ => .done
  | .heartbeat serviceId _ _ => .flag (registered serviceId).isSome
  | .listServices serviceType aliveOnly now =>
      .services { record | (∃ serviceId, registered serviceId = some record) ∧
        registry.Passes serviceType aliveOnly now record }
  | .get serviceId _ => .service (registered serviceId)

theorem mem_selected {serviceType : Option String} {aliveOnly : Bool} {now : Rat}
    {records : List ServiceRecord} {record : ServiceRecord} :
    record ∈ registry.selected serviceType aliveOnly now records ↔
      record ∈ records ∧ registry.Passes serviceType aliveOnly now record := by
  have alive : record ∈ (if aliveOnly then
      records.filter (·.isAlive registry.heartbeatTimeout now) else records) ↔
        record ∈ records ∧
          (aliveOnly = true → record.isAlive registry.heartbeatTimeout now = true) := by
    cases aliveOnly with
    | true => simp
    | false => simp
  unfold selected Passes
  cases serviceType with
  | none => simp [alive]
  | some wanted =>
      by_cases unnamed : wanted = ""
      · simp [alive, unnamed]
      · simp [alive, unnamed, and_assoc]

/-- The dictionary of the process stands for these registrations. -/
def Keeps (state : RegistryState ι) (registered : String → Option ServiceRecord) : Prop :=
  ∀ serviceId, (state.locals process).get? serviceId = registered serviceId

/-- A heartbeat reads the clock once. -/
def Op.OneReading : Op → Prop
  | .heartbeat _ localNow hashNow => localNow = hashNow
  | _ => True

theorem keeps_apply {process : ι} {state : RegistryState ι}
    {registered : String → Option ServiceRecord} (keeps : Keeps process state registered) {op : Op}
    (reading : op.OneReading) :
    Keeps process (registry.apply process state op) (amended registered op) := by
  intro serviceId
  rw [locals_apply, Function.update_self]
  cases op with
  | register record =>
      simp only [localStep, amended, Dict.get?_set, Function.update_apply, keeps serviceId]
  | deregister removed =>
      simp only [localStep, amended, Dict.get?_erase, Function.update_apply, keeps serviceId]
  | heartbeat beaten localNow hashNow =>
      obtain rfl : localNow = hashNow := reading
      simp only [localStep, amended, Dict.get?_modify, Function.update_apply, keeps serviceId,
        keeps beaten]
  | listServices serviceType aliveOnly now => exact keeps serviceId
  | get found now => exact keeps serviceId

/-- An in-memory registry answers from its dictionary. -/
theorem memory_answer {registry : ServiceRegistry} {process : ι} {state : RegistryState ι}
    (unshared : registry.redis = false) {registered : String → Option ServiceRecord}
    (keeps : Keeps process state registered) (op : Op) :
    (registry.answer process state op).1 = .ok (registry.expected registered op) := by
  unfold answer code
  cases op with
  | register record => simp only [Prog.run_map, register, unshared]; rfl
  | deregister serviceId => simp only [Prog.run_map, deregister, unshared]; rfl
  | heartbeat serviceId localNow hashNow =>
      simp only [Prog.run_map, heartbeat, unshared, expected, ← keeps serviceId]
      rfl
  | listServices serviceType aliveOnly now =>
      have listed : { record | record ∈ registry.selected serviceType aliveOnly now
          (state.locals process).values } =
            { record | (∃ serviceId, registered serviceId = some record) ∧
              registry.Passes serviceType aliveOnly now record } := by
        ext record
        simp only [Set.mem_ofPred_eq, mem_selected, Dict.mem_values_iff, keeps _]
      simp only [Prog.run_map, listServices, unshared, expected, ← listed]
      rfl
  | get serviceId now =>
      simp only [Prog.run_map, get, unshared, expected, ← keeps serviceId]
      rfl

/-- The records that the texts of the hash decode to are those it stands for. -/
theorem decoded_values {registry : ServiceRegistry} {hash : Dict String String}
    {valid : ServiceRecord → Prop} {registered : String → Option ServiceRecord}
    (lossless : ∀ record, valid record → registry.Encodes record)
    (mirrors : registry.Mirrors valid hash registered) (now : Rat) :
    ∃ records, hash.values.mapM (registry.decode · now) = .ok records ∧
      ∀ record, record ∈ records ↔ ∃ serviceId, registered serviceId = some record := by
  have stored : ∀ text ∈ hash.values, ∃ record, registry.decode text now = .ok record ∧
      ∃ serviceId, registered serviceId = some record := by
    intro text member
    obtain ⟨serviceId, found⟩ := (hash.mem_values_iff text).mp member
    obtain ⟨record, present, sound, _, rfl⟩ := mirrors.of_stored found
    exact ⟨record, decode_encode (lossless record sound) now, serviceId, present⟩
  obtain ⟨records, mapped, _⟩ := exists_mapM_ok fun text member =>
    (stored text member).imp fun _ both => ⟨both.1, (rfl : () = ())⟩
  refine ⟨records, mapped, fun record => ⟨fun member => ?_, ?_⟩⟩
  · obtain ⟨text, among, decoded⟩ := exists_of_mem_mapM mapped member
    obtain ⟨other, same, present⟩ := stored text among
    obtain rfl := Except.ok.inj (decoded.symm.trans same)
    exact present
  · rintro ⟨serviceId, present⟩
    have sound := (mirrors.sound serviceId record present).1
    have text := mirrors.texts serviceId
    rw [present] at text
    exact mem_of_mapM_ok mapped ((hash.mem_values_iff _).mpr ⟨serviceId, text⟩)
      (decode_encode (lossless record sound) now)

/-- A registry with Redis answers from the hash. -/
theorem redis_answer {registry : ServiceRegistry} {process : ι} {state : RegistryState ι}
    (shared : registry.redis = true) {valid : ServiceRecord → Prop}
    (lossless : ∀ record, valid record → registry.Encodes record)
    {registered : String → Option ServiceRecord}
    (mirrors : registry.Mirrors valid state.hash registered)
    (keeps : Keeps process state registered) (op : Op) :
    (registry.answer process state op).1 = .ok (registry.expected registered op) := by
  unfold answer code
  cases op with
  | register record => simp only [Prog.run_map, run_register process shared record]; rfl
  | deregister serviceId => simp only [Prog.run_map, run_deregister process shared serviceId]; rfl
  | heartbeat serviceId localNow hashNow =>
      have answered := heartbeat_answer process shared lossless mirrors serviceId localNow hashNow
      rw [keeps serviceId, Bool.or_self] at answered
      simp only [Prog.run_map, answered]
      rfl
  | listServices serviceType aliveOnly now =>
      obtain ⟨records, decoded, members⟩ := decoded_values lossless mirrors now
      have listed : { record | record ∈ registry.selected serviceType aliveOnly now records } =
          { record | (∃ serviceId, registered serviceId = some record) ∧
            registry.Passes serviceType aliveOnly now record } := by
        ext record
        simp only [Set.mem_ofPred_eq, mem_selected, members]
      simp only [Prog.run_map, listServices, shared, Prog.issue_bind, Prog.run_act, ↓reduceIte,
        RegistryState.exec, decoded, expected, ← listed]
      rfl
  | get serviceId now =>
      simp only [Prog.run_map, run_get process shared lossless mirrors serviceId now]
      rfl

section Agreement

variable {redis memory : ServiceRegistry} (shared : redis.redis = true)
  (unshared : memory.redis = false) (timeout : redis.heartbeatTimeout = memory.heartbeatTimeout)
  {valid : ServiceRecord → Prop} (lossless : ∀ record, valid record → redis.Encodes record)

/-- The hash, the dictionary beside it and the dictionary of the in-memory registry stand
for the same registrations. -/
def Alike (redis : ServiceRegistry) (valid : ServiceRecord → Prop) (process : ι) (_ : Unit)
    (state model : RegistryState ι) : Prop :=
  ∃ registered, redis.Mirrors valid state.hash registered ∧
    Keeps process state registered ∧ Keeps process model registered

include shared unshared timeout lossless

/-- One call is answered alike, and leaves the two alike. -/
theorem answers_alike (context : Unit) (state model : RegistryState ι) (op : Op)
    (alike : Alike redis valid process context state model)
    (allowed : op.Admissible valid ∧ op.OneReading) :
    (redis.answer process state op).1 = (memory.answer process model op).1 ∧
      Alike redis valid process () (redis.answer process state op).2
        (memory.answer process model op).2 := by
  obtain ⟨registered, mirrors, first, second⟩ := alike
  have same : redis.expected registered op = memory.expected registered op := by
    cases op with
    | listServices serviceType aliveOnly now => simp only [expected, Passes, timeout]
    | _ => rfl
  refine ⟨?_, _, mirrors_apply process shared lossless mirrors allowed.1,
    keeps_apply redis first allowed.2, keeps_apply memory second allowed.2⟩
  rw [redis_answer shared lossless mirrors first, memory_answer unshared second, same]

/-- **Redis-backed and in-memory registries agree for one process.** For every sequence of
calls by a single process, with one clock reading per call, a registry with Redis and one
without, with the same timeout, give the same answers: the same flags, equal records and,
as sets, equal lists. -/
theorem registries_agree {calls : List Op} (admissible : ∀ op ∈ calls, op.Admissible valid)
    (readings : ∀ op ∈ calls, op.OneReading) :
    (transcript (redis.answer process) .empty calls).1 =
      (transcript (memory.answer process) .empty calls).1 := by
  have start : Alike redis valid process () .empty .empty :=
    ⟨fun _ => none, ⟨fun _ => rfl, nofun⟩, fun _ => rfl, fun _ => rfl⟩
  refine (transcript_of_simulation (answers_alike process shared unshared timeout lossless) start
    ?_).1
  exact .of_forall fun op member => ⟨admissible op member, readings op member⟩

end Agreement

section Sample

/-- One process registers the service. -/
def announced : List (Bool × Op) := [(true, .register (sampleService "old" 0))]

theorem admissible_announced : ∀ call ∈ announced, call.2.Admissible (· ∈ sampleServices) := by
  intro call member
  obtain rfl := List.mem_singleton.mp member
  exact List.mem_cons_self

/-- The heartbeat of a registered service can be read by every process. -/
theorem announced_service_is_discoverable :
    sampleRegistry.Discoverable true (sampleRegistry.reached announced) "mail" 0 5 :=
  (heartbeat_discoverable_iff true rfl (fun _ => encodes_sample) admissible_announced
    (admissible_sample_beat "mail" 0)).mpr (.inl rfl)

/-- Another process removes it. -/
def withdrawn : List (Bool × Op) := announced ++ [(false, .deregister "mail")]

theorem admissible_withdrawn : ∀ call ∈ withdrawn, call.2.Admissible (· ∈ sampleServices) := by
  intro call member
  rcases List.mem_append.mp member with earlier | last
  · exact admissible_announced call earlier
  · obtain rfl := List.mem_singleton.mp last
    trivial

/-- The heartbeat of the first process answers true, and the service is not in the hash. -/
theorem withdrawn_service_answers_heartbeat :
    ¬ ∀ (registry : ServiceRegistry) (valid : ServiceRecord → Prop) (calls : List (Bool × Op))
      (process : Bool) (serviceId : String) (localNow hashNow : Rat), registry.redis = true →
        (∀ record, valid record → registry.Encodes record) →
        (∀ call ∈ calls, call.2.Admissible valid) →
        (Op.heartbeat serviceId localNow hashNow).Admissible valid →
          registry.Discoverable process (registry.reached calls) serviceId localNow hashNow := by
  intro discoverable
  have lossless : ∀ record, record ∈ sampleServices → sampleRegistry.Encodes record :=
    fun _ => encodes_sample
  have beats := admissible_sample_beat "mail" 0
  have found := discoverable sampleRegistry (· ∈ sampleServices) withdrawn true "mail" 0 5 rfl
    lossless admissible_withdrawn beats
  obtain ⟨registered, mirrors⟩ := @mirrors_reached Bool _ sampleRegistry _ rfl lossless withdrawn
    admissible_withdrawn
  rw [discoverable_iff true rfl lossless mirrors beats] at found
  rcases found with held | absent
  · exact Bool.false_ne_true held
  · cases absent

/-- A service comes, sends a heartbeat, is read and goes. -/
def lifetime : List Op :=
  [.register (sampleService "old" 0), .heartbeat "mail" 5 5, .listServices (some "worker") true 6,
    .get "mail" 6, .deregister "mail", .heartbeat "mail" 5 5]

/-- A registry without Redis. -/
def sampleMemory : ServiceRegistry := { sampleRegistry with redis := false }

theorem lifetime_reads_alike :
    (transcript (sampleRegistry.answer ()) .empty lifetime).1 =
      (transcript (sampleMemory.answer ()) .empty lifetime).1 := by
  have shared : sampleRegistry.redis = true := rfl
  have unshared : sampleMemory.redis = false := rfl
  have timeout : sampleRegistry.heartbeatTimeout = sampleMemory.heartbeatTimeout := rfl
  refine registries_agree () shared unshared timeout (fun _ => encodes_sample) ?_ ?_
  · intro op member
    simp only [lifetime, List.mem_cons, List.not_mem_nil, or_false] at member
    rcases member with rfl | rfl | rfl | rfl | rfl | rfl
    · exact List.mem_cons_self
    · exact admissible_sample_beat "mail" 5
    · trivial
    · trivial
    · trivial
    · exact admissible_sample_beat "mail" 5
  · intro op member
    simp only [lifetime, List.mem_cons, List.not_mem_nil, or_false] at member
    rcases member with rfl | rfl | rfl | rfl | rfl | rfl
    all_goals first | rfl | trivial

end Sample

end ServiceRegistry

end CloudDogJobs
