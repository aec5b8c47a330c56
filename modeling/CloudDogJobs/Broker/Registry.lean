import Mathlib.Algebra.Order.Field.Rat
import CloudDogJobs.Domain.Codec
import CloudDogJobs.Foundation.Interleaving

/-!
# Service registry

`broker/registry.py`. Every process has a registry with a dictionary of its own;
with a Redis client, the registries of all processes share one hash of JSON texts
as well. The methods are programs whose steps are the blocks under the lock of the
process and the single commands to Redis.
-/

namespace CloudDogJobs

open Foundation

/-- A registered service in the broker network. Times are those of `time.time()`. -/
structure ServiceRecord where
  serviceId : String
  serviceType : String
  endpoint : String
  capabilities : List String := []
  maxConcurrent : Int := 10
  registeredAt : Rat
  lastHeartbeat : Rat
  metadata : Dict String Value := ∅

/-- `json.dumps` and `json.loads`, the text that Python prints for a float, and the
number that such a text stands for. -/
structure RecordCodec where
  dumps : Value → String
  loads : String → Except PyError Value
  repr : Rat → String
  float : String → Rat

namespace ServiceRecord

variable (codec : RecordCodec)

/-- The service has sent a heartbeat recently. -/
def isAlive (record : ServiceRecord) (timeoutSeconds now : Rat) : Bool :=
  now - record.lastHeartbeat < timeoutSeconds

/-- `asdict(self)`, with the text of each float. -/
def toDict (repr : Rat → String) (record : ServiceRecord) : Dict String Value where
  entries :=
    [("service_id", .str record.serviceId),
     ("service_type", .str record.serviceType),
     ("endpoint", .str record.endpoint),
     ("capabilities", .ofStrList record.capabilities),
     ("max_concurrent", .int record.maxConcurrent),
     ("registered_at", .float (repr record.registeredAt)),
     ("last_heartbeat", .float (repr record.lastHeartbeat)),
     ("metadata", .ofDict record.metadata)]
  nodup := by simp

section Decoding

variable (data : Dict String Value)

/-- A text that the constructor requires. -/
def textField (key : String) : Except PyError String :=
  match data.get? key with
  | some (.str text) => .ok text
  | some _ => .error (.typeError ("not a text: " ++ key))
  | none => .error (.typeError
      ("ServiceRecord.__init__() missing 1 required positional argument: " ++ key))

/-- A time; the constructor takes the present one when there is none. -/
def timeField (now : Rat) (key : String) : Except PyError Rat :=
  match data.get? key with
  | some (.float text) => .ok (codec.float text)
  | some (.int number) => .ok number
  | some _ => .error (.typeError ("not a time: " ++ key))
  | none => .ok now

/-- The constructor on the entries of a dictionary that are fields of the record. It
checks no types; the writers store only those of the fields. -/
def fromDict (now : Rat) : Except PyError ServiceRecord := do
  return {
    serviceId := ← textField data "service_id"
    serviceType := ← textField data "service_type"
    endpoint := ← textField data "endpoint"
    capabilities := ((data.get? "capabilities").map Value.toStrList).getD []
    maxConcurrent := ← match data.get? "max_concurrent" with
      | some value => value.toInt
      | none => .ok 10
    registeredAt := ← timeField codec data now "registered_at"
    lastHeartbeat := ← timeField codec data now "last_heartbeat"
    metadata := (Value.toOptDict (data.get? "metadata")).getD ∅ }

end Decoding

end ServiceRecord

/-- The dictionary of every process and the shared hash. -/
structure RegistryState (ι : Type) where
  locals : ι → Dict String ServiceRecord
  hash : Dict String String

/-- The steps of the methods. -/
inductive RegistryCall (ι : Type)
  /-- `self._local[record.service_id] = record` -/
  | remember (process : ι) (record : ServiceRecord)
  /-- `self._local.pop(service_id, None)` -/
  | forget (process : ι) (serviceId : String)
  /-- Find the record and set its heartbeat. -/
  | touch (process : ι) (serviceId : String) (now : Rat)
  | recall (process : ι) (serviceId : String)
  | recallAll (process : ι)
  | hset (serviceId text : String)
  | hdel (serviceId : String)
  | hget (serviceId : String)
  | hgetall

@[reducible] def RegistryCall.Reply {ι : Type} : RegistryCall ι → Type
  | .remember _ _ => Unit
  | .forget _ _ => Unit
  | .touch _ _ _ => Bool
  | .recall _ _ => Option ServiceRecord
  | .recallAll _ => List ServiceRecord
  | .hset _ _ => Unit
  | .hdel _ => Unit
  | .hget _ => Option String
  | .hgetall => Dict String String

abbrev RegistryProg (ι α : Type) : Type := Prog (RegistryCall ι) RegistryCall.Reply α

namespace RegistryState

variable {ι : Type}

/-- No process has registered anything. -/
def empty : RegistryState ι := ⟨fun _ => ∅, ∅⟩

variable [DecidableEq ι]

/-- Change the dictionary of one process. -/
def onLocal (state : RegistryState ι) (process : ι)
    (change : Dict String ServiceRecord → Dict String ServiceRecord) : RegistryState ι :=
  { state with locals := Function.update state.locals process (change (state.locals process)) }

/-- The effect of one step. -/
def exec : (call : RegistryCall ι) → RegistryState ι → call.Reply × RegistryState ι
  | .remember process record, state =>
      ((), state.onLocal process (·.set record.serviceId record))
  | .forget process serviceId, state => ((), state.onLocal process (·.erase serviceId))
  | .touch process serviceId now, state =>
      (((state.locals process).get? serviceId).isSome,
        state.onLocal process (·.modify serviceId fun record =>
          { record with lastHeartbeat := now }))
  | .recall process serviceId, state => ((state.locals process).get? serviceId, state)
  | .recallAll process, state => ((state.locals process).values, state)
  | .hset serviceId text, state => ((), { state with hash := state.hash.set serviceId text })
  | .hdel serviceId, state => ((), { state with hash := state.hash.erase serviceId })
  | .hget serviceId, state => (state.hash.get? serviceId, state)
  | .hgetall, state => (state.hash, state)

end RegistryState

/-- The settings of a registry; `redis` says whether it was given a client. -/
structure ServiceRegistry where
  codec : RecordCodec
  redis : Bool
  heartbeatTimeout : Rat := 120

namespace ServiceRegistry

variable {ι : Type} (registry : ServiceRegistry) (process : ι)

/-- Take one step. -/
abbrev call (call : RegistryCall ι) : RegistryProg ι call.Reply := Prog.issue call

/-- `json.dumps(record.to_dict(), default=str)` -/
def encode (record : ServiceRecord) : String :=
  registry.codec.dumps (.ofDict (record.toDict registry.codec.repr))

def loadsDict (text : String) : Except PyError (Dict String Value) := do
  (← registry.codec.loads text).asDict

/-- `ServiceRecord.from_dict(json.loads(text))` -/
def decode (text : String) (now : Rat) : Except PyError ServiceRecord := do
  ServiceRecord.fromDict registry.codec (← registry.loadsDict text) now

/-- Register or update a service. -/
def register (record : ServiceRecord) : RegistryProg ι (Except PyError Unit) := do
  call (.remember process record)
  if registry.redis then
    call (.hset record.serviceId (registry.encode record))
  return .ok ()

/-- Remove a service registration. -/
def deregister (serviceId : String) : RegistryProg ι (Except PyError Unit) := do
  call (.forget process serviceId)
  if registry.redis then
    call (.hdel serviceId)
  return .ok ()

/-- Update the heartbeat timestamp, in the dictionary and in the hash. Each of the two
updates reads the clock for itself. -/
def heartbeat (serviceId : String) (localNow hashNow : Rat) :
    RegistryProg ι (Except PyError Bool) := do
  let found ← call (.touch process serviceId localNow)
  if registry.redis then
    match ← call (.hget serviceId) with
    | none => return .ok found
    | some raw =>
        if raw = "" then return .ok found
        else
          match registry.loadsDict raw with
          | .error error => return .error error
          | .ok data =>
              let data := data.set "last_heartbeat" (.float (registry.codec.repr hashNow))
              call (.hset serviceId (registry.codec.dumps (.ofDict data)))
              return .ok true
  else return .ok found

/-- The filters of `list_services`; an empty type filters nothing. -/
def selected (serviceType : Option String) (aliveOnly : Bool) (now : Rat)
    (records : List ServiceRecord) : List ServiceRecord :=
  let records :=
    if aliveOnly then records.filter (·.isAlive registry.heartbeatTimeout now) else records
  match serviceType with
  | none => records
  | some wanted => if wanted = "" then records else records.filter (·.serviceType = wanted)

/-- List registered services, optionally filtered. -/
def listServices (serviceType : Option String) (aliveOnly : Bool) (now : Rat) :
    RegistryProg ι (Except PyError (List ServiceRecord)) := do
  if registry.redis then
    let texts ← call .hgetall
    match texts.values.mapM (registry.decode · now) with
    | .error error => return .error error
    | .ok records => return .ok (registry.selected serviceType aliveOnly now records)
  else
    let records ← call (.recallAll process)
    return .ok (registry.selected serviceType aliveOnly now records)

/-- Get a specific service record. -/
def get (serviceId : String) (now : Rat) :
    RegistryProg ι (Except PyError (Option ServiceRecord)) := do
  if registry.redis then
    match ← call (.hget serviceId) with
    | none => return .ok none
    | some raw =>
        if raw = "" then return .ok none else return (registry.decode raw now).map some
  else
    let found ← call (.recall process serviceId)
    return .ok found

/-- A call on a registry. -/
inductive Op
  | register (record : ServiceRecord)
  | deregister (serviceId : String)
  | heartbeat (serviceId : String) (localNow hashNow : Rat)
  | listServices (serviceType : Option String) (aliveOnly : Bool) (now : Rat)
  | get (serviceId : String) (now : Rat)

/-- What a call returns. -/
inductive Result
  | done
  | flag (value : Bool)
  | services (records : List ServiceRecord)
  | service (found : Option ServiceRecord)

/-- The program of a call. -/
def code : Op → RegistryProg ι (Except PyError Result)
  | .register record => (·.map fun _ => .done) <$> registry.register process record
  | .deregister serviceId => (·.map fun _ => .done) <$> registry.deregister process serviceId
  | .heartbeat serviceId localNow hashNow =>
      (·.map .flag) <$> registry.heartbeat process serviceId localNow hashNow
  | .listServices serviceType aliveOnly now =>
      (·.map .services) <$> registry.listServices process serviceType aliveOnly now
  | .get serviceId now => (·.map .service) <$> registry.get process serviceId now

/-! ## What the hash stands for -/

/-- The text of a record reads back as its dictionary and is not empty, and so do the
texts of its times. -/
structure Encodes (record : ServiceRecord) : Prop where
  reads : registry.codec.loads (registry.encode record) =
    .ok (.ofDict (record.toDict registry.codec.repr))
  filled : registry.encode record ≠ ""
  registeredAt : registry.codec.float (registry.codec.repr record.registeredAt) =
    record.registeredAt
  lastHeartbeat : registry.codec.float (registry.codec.repr record.lastHeartbeat) =
    record.lastHeartbeat

section Records

variable {registry} {record : ServiceRecord}

theorem fromDict_toDict (encodes : registry.Encodes record) (now : Rat) :
    ServiceRecord.fromDict registry.codec (record.toDict registry.codec.repr) now = .ok record := by
  have registered : ServiceRecord.timeField registry.codec (record.toDict registry.codec.repr) now
      "registered_at" = .ok record.registeredAt := congrArg Except.ok encodes.registeredAt
  have beaten : ServiceRecord.timeField registry.codec (record.toDict registry.codec.repr) now
      "last_heartbeat" = .ok record.lastHeartbeat := congrArg Except.ok encodes.lastHeartbeat
  have capabilities : (Value.ofStrList record.capabilities).toStrList = record.capabilities :=
    Value.toStrList_ofStrList _
  have metadata : Dict.ofList record.metadata.entries = record.metadata :=
    Dict.ofList_entries _
  unfold ServiceRecord.fromDict
  rw [registered, beaten]
  change Except.ok { record with
    capabilities := (Value.ofStrList record.capabilities).toStrList
    metadata := Dict.ofList record.metadata.entries } = _
  rw [capabilities, metadata]

theorem loadsDict_encode (encodes : registry.Encodes record) :
    registry.loadsDict (registry.encode record) = .ok (record.toDict registry.codec.repr) := by
  unfold loadsDict
  rw [encodes.reads]
  exact congrArg Except.ok (Dict.ofList_entries _)

theorem decode_encode (encodes : registry.Encodes record) (now : Rat) :
    registry.decode (registry.encode record) now = .ok record := by
  unfold decode
  rw [loadsDict_encode encodes]
  exact fromDict_toDict encodes now

/-- What a heartbeat writes over a record is the record with its time. -/
theorem toDict_set (record : ServiceRecord) (now : Rat) :
    (record.toDict registry.codec.repr).set "last_heartbeat" (.float (registry.codec.repr now)) =
      { record with lastHeartbeat := now }.toDict registry.codec.repr :=
  Dict.ext_entries rfl

end Records

/-- The hash holds the texts of these registrations, each a valid record under its
identifier. -/
structure Mirrors (valid : ServiceRecord → Prop) (hash : Dict String String)
    (registered : String → Option ServiceRecord) : Prop where
  texts : ∀ serviceId, hash.get? serviceId = (registered serviceId).map registry.encode
  sound : ∀ serviceId record, registered serviceId = some record →
    valid record ∧ record.serviceId = serviceId

/-- What one call does to the registrations that a hash, or a dictionary, stands for. -/
def amended (registered : String → Option ServiceRecord) : Op → String → Option ServiceRecord
  | .register record => Function.update registered record.serviceId (some record)
  | .deregister serviceId => Function.update registered serviceId none
  | .heartbeat serviceId _ hashNow => Function.update registered serviceId
      ((registered serviceId).map fun record => { record with lastHeartbeat := hashNow })
  | _ => registered

/-- Valid records are registered, and stay valid under a heartbeat. -/
def Op.Admissible (valid : ServiceRecord → Prop) : Op → Prop
  | .register record => valid record
  | .heartbeat _ _ hashNow =>
      ∀ record, valid record → valid { record with lastHeartbeat := hashNow }
  | _ => True

section Mirroring

variable {registry} {valid : ServiceRecord → Prop} {hash : Dict String String}
  {registered : String → Option ServiceRecord} (mirrors : registry.Mirrors valid hash registered)

include mirrors

/-- The hash has no text for a service, or that of its registration. -/
theorem Mirrors.cases (serviceId : String) :
    (registered serviceId = none ∧ hash.get? serviceId = none) ∨
    (∃ record, registered serviceId = some record ∧ valid record ∧ record.serviceId = serviceId ∧
      hash.get? serviceId = some (registry.encode record)) := by
  have stored := mirrors.texts serviceId
  cases present : registered serviceId with
  | none =>
      rw [present] at stored
      exact .inl ⟨rfl, stored⟩
  | some record =>
      rw [present] at stored
      obtain ⟨sound, named⟩ := mirrors.sound serviceId record present
      exact .inr ⟨record, rfl, sound, named, stored⟩

/-- A text of the hash is that of a registration. -/
theorem Mirrors.of_stored {serviceId text : String} (found : hash.get? serviceId = some text) :
    ∃ record, registered serviceId = some record ∧ valid record ∧ record.serviceId = serviceId ∧
      text = registry.encode record := by
  rcases mirrors.cases serviceId with ⟨_, absent⟩ | ⟨record, present, sound, named, stored⟩
  · cases absent.symm.trans found
  · exact ⟨record, present, sound, named, Option.some.inj (found.symm.trans stored)⟩

theorem Mirrors.hset {record : ServiceRecord} (fresh : valid record) :
    registry.Mirrors valid (hash.set record.serviceId (registry.encode record))
      (Function.update registered record.serviceId (some record)) where
  texts := by
    intro serviceId
    rw [Dict.get?_set]
    by_cases same : serviceId = record.serviceId
    · subst same
      rw [if_pos rfl, Function.update_self]
      rfl
    · rw [if_neg same, Function.update_of_ne same]
      exact mirrors.texts serviceId
  sound := by
    intro serviceId stored shown
    rcases update_some_cases shown with ⟨rfl, rfl⟩ | ⟨_, before⟩
    · exact ⟨fresh, rfl⟩
    · exact mirrors.sound serviceId stored before

theorem Mirrors.hdel (serviceId : String) :
    registry.Mirrors valid (hash.erase serviceId) (Function.update registered serviceId none) where
  texts := by
    intro other
    rw [Dict.get?_erase]
    by_cases same : other = serviceId
    · subst same
      rw [if_pos rfl, Function.update_self]
      rfl
    · rw [if_neg same, Function.update_of_ne same]
      exact mirrors.texts other
  sound := by
    intro other stored shown
    exact mirrors.sound other stored (update_none_cases shown).2

end Mirroring

section Sample

/-- A service with its last heartbeat at this time. -/
def sampleService (endpoint : String) (lastHeartbeat : Rat) : ServiceRecord where
  serviceId := "mail"
  serviceType := "worker"
  endpoint := endpoint
  registeredAt := 0
  lastHeartbeat := lastHeartbeat

/-- The services that the samples register, under the times zero and five. -/
def sampleServices : List ServiceRecord :=
  [sampleService "old" 0, sampleService "old" 5, sampleService "new" 0, sampleService "new" 5]

def sampleRepr (time : Rat) : String := if time = 0 then "0.0" else "5.0"

/-- The dictionaries of their texts. -/
def sampleValues : List Value :=
  sampleServices.map fun service => .ofDict (service.toDict sampleRepr)

/-- A codec that reads the texts of these services. -/
def sampleCodec : RecordCodec where
  dumps := Value.dumps
  loads := Value.loadsKnown sampleValues
  repr := sampleRepr
  float text := if text = "0.0" then 0 else 5

/-- A registry with Redis. -/
def sampleRegistry : ServiceRegistry where
  codec := sampleCodec
  redis := true

theorem sampleValues_distinct : (sampleValues.map Value.dumps).Nodup := by decide +kernel

theorem encodes_sample {record : ServiceRecord} (member : record ∈ sampleServices) :
    sampleRegistry.Encodes record where
  reads := by
    have listed : Value.ofDict (record.toDict sampleRepr) ∈ sampleValues :=
      List.mem_map.mpr ⟨record, member, rfl⟩
    simp only [encode, sampleRegistry, sampleCodec]
    exact Value.loadsKnown_dumps sampleValues_distinct listed
  filled := by
    have all : ∀ service ∈ sampleServices, sampleRegistry.encode service ≠ "" := by
      decide +kernel
    exact all record member
  registeredAt := by
    have all : ∀ service ∈ sampleServices,
        sampleCodec.float (sampleRepr service.registeredAt) = service.registeredAt := by
      decide +kernel
    exact all record member
  lastHeartbeat := by
    have all : ∀ service ∈ sampleServices,
        sampleCodec.float (sampleRepr service.lastHeartbeat) = service.lastHeartbeat := by
      decide +kernel
    exact all record member

/-- A heartbeat at time five leaves such a service one of them. -/
theorem sample_beaten {record : ServiceRecord} (member : record ∈ sampleServices) :
    { record with lastHeartbeat := 5 } ∈ sampleServices := by
  simp only [sampleServices, List.mem_cons, List.not_mem_nil, or_false] at member ⊢
  rcases member with rfl | rfl | rfl | rfl
  · exact .inr (.inl rfl)
  · exact .inr (.inl rfl)
  · exact .inr (.inr (.inr rfl))
  · exact .inr (.inr (.inr rfl))

theorem admissible_sample_beat (serviceId : String) (localNow : Rat) :
    (Op.heartbeat serviceId localNow 5).Admissible (· ∈ sampleServices) :=
  fun _ member => sample_beaten member

end Sample

end ServiceRegistry

end CloudDogJobs
