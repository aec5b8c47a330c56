import Mathlib.Data.List.Induction
import CloudDogJobs.Broker.Discovery

/-!
# Registrations and concurrent heartbeats

`register` and `deregister` send one command to the shared hash, `heartbeat` two: it
reads the record of a service and writes it back with a new time. What another process
has written in between is overwritten, so a service that was removed comes back, and an
earlier registration replaces a later one. Registrations survive as long as a heartbeat
writes over the record that it has read, whatever its time has become.
-/

namespace CloudDogJobs

open Foundation

namespace ServiceRegistry

/-! ## What has been written -/

/-- A write of `register` or of `deregister`. -/
inductive Registration
  | registered (record : ServiceRecord)
  | removed (serviceId : String)

def Registration.serviceId : Registration → String
  | .registered record => record.serviceId
  | .removed serviceId => serviceId

/-- The registration that the write of a call makes. -/
def Op.registration : Op → Option Registration
  | .register record => some (.registered record)
  | .deregister serviceId => some (.removed serviceId)
  | _ => none

/-- The last registration of a service. -/
def latest (writes : List Registration) (serviceId : String) : Option Registration :=
  (writes.filter fun write => write.serviceId = serviceId).getLast?

theorem latest_concat (writes : List Registration) (write : Registration) (serviceId : String) :
    latest (writes ++ [write]) serviceId =
      if serviceId = write.serviceId then some write else latest writes serviceId := by
  unfold latest
  rw [List.filter_append]
  by_cases same : serviceId = write.serviceId
  · rw [if_pos same, List.filter_cons_of_pos (by simpa using same.symm)]
    exact List.getLast?_concat
  · rw [if_neg same, List.filter_cons_of_neg (by simpa using Ne.symm same)]
    exact congrArg List.getLast? (List.append_nil _)

/-- After a registration of the service, the last one is that or a later one. -/
theorem latest_of_split {writes earlier later : List Registration} {write : Registration}
    (split : writes = earlier ++ write :: later) {serviceId : String}
    (named : write.serviceId = serviceId) :
    ∃ last, latest writes serviceId = some last ∧ (last = write ∨ last ∈ later) ∧
      last.serviceId = serviceId := by
  subst split named
  have own : (write :: later).filter (fun other => other.serviceId = write.serviceId) =
      write :: later.filter (fun other => other.serviceId = write.serviceId) :=
    List.filter_cons_of_pos (by simp)
  unfold latest
  rw [List.filter_append, own, List.getLast?_append_cons, List.getLast?_cons]
  refine ⟨_, rfl, ?_⟩
  cases last : (later.filter fun other => other.serviceId = write.serviceId).getLast? with
  | none => exact ⟨.inl rfl, rfl⟩
  | some other =>
      obtain ⟨member, same⟩ := List.mem_filter.mp (List.mem_of_getLast? last)
      exact ⟨.inr member, of_decide_eq_true same⟩

section Histories

variable {ι : Type} [DecidableEq ι]

abbrev RegistryEvent (ι : Type) : Type :=
  Event ι Op (RegistryCall ι) RegistryCall.Reply (Except PyError Result)

abbrev RegistryConfig (ι : Type) : Type :=
  Config ι Op (RegistryCall ι) RegistryCall.Reply (Except PyError Result) (RegistryState ι)

omit [DecidableEq ι] in
/-- The command writes to the hash. -/
def Writes : RegistryCall ι → Bool
  | .hset _ _ => true
  | .hdel _ => true
  | _ => false

/-- What a history tells: the call that each process made last, and the registrations
in the order of their writes. -/
structure Ledger (ι : Type) where
  current : ι → Option Op := fun _ => none
  writes : List Registration := []

def Ledger.record (ledger : Ledger ι) : RegistryEvent ι → Ledger ι
  | .called process op =>
      { ledger with current := Function.update ledger.current process (some op) }
  | .acted process command _ =>
      if Writes command then
        { ledger with
          writes := ledger.writes ++ ((ledger.current process).bind Op.registration).toList }
      else ledger
  | .returned _ _ _ => ledger

def ledger (history : List (RegistryEvent ι)) : Ledger ι := history.foldl Ledger.record {}

theorem ledger_snoc (history : List (RegistryEvent ι)) (event : RegistryEvent ι) :
    ledger (history ++ [event]) = (ledger history).record event := by
  simp [ledger]

theorem Ledger.current_acted (ledger : Ledger ι) (process : ι) (command : RegistryCall ι)
    (reply : command.Reply) :
    (ledger.record (.acted process command reply)).current = ledger.current := by
  unfold Ledger.record
  dsimp only
  split
  · rfl
  · rfl

theorem Ledger.writes_acted (ledger : Ledger ι) {process : ι} {command : RegistryCall ι}
    (reply : command.Reply) {op : Op} (writes : Writes command = true)
    (running : ledger.current process = some op) :
    (ledger.record (.acted process command reply)).writes =
      ledger.writes ++ op.registration.toList := by
  simp only [Ledger.record, if_pos writes, running, Option.bind_some]

theorem Ledger.record_silent (ledger : Ledger ι) {process : ι} {command : RegistryCall ι}
    (reply : command.Reply) (silent : Writes command = false) :
    ledger.record (.acted process command reply) = ledger := by
  simp only [Ledger.record, silent, Bool.false_eq_true, if_false]

end Histories

/-! ## The programs -/

/-- How far a call is with the hash. -/
inductive Stage
  | started (op : Op)
  /-- A heartbeat has read this. -/
  | read (op : Op) (raw : Option String)
  | wrote (op : Op)

def Stage.op : Stage → Op
  | .started op => op
  | .read op _ => op
  | .wrote op => op

section Protocol

variable {ι : Type} (registry : ServiceRegistry) (valid : ServiceRecord → Prop)

/-- What a heartbeat that has read a text writes. -/
def BeatsTo (hashNow : Rat) (raw text : String) : Prop :=
  ∃ data, registry.loadsDict raw = .ok data ∧
    text = registry.codec.dumps (.ofDict
      (data.set "last_heartbeat" (.float (registry.codec.repr hashNow))))

/-- A call that is so far may write this text. -/
def MayWrite : Stage → String → String → Prop
  | .started (.register record), target, text =>
      valid record ∧ target = record.serviceId ∧ text = registry.encode record
  | .read (.heartbeat serviceId localNow hashNow) (some raw), target, text =>
      (Op.heartbeat serviceId localNow hashNow).Admissible valid ∧ target = serviceId ∧
        registry.BeatsTo hashNow raw text
  | _, _, _ => False

/-- A call that is so far may remove the service. -/
def MayRemove : Stage → String → Prop
  | .started (.deregister serviceId), target => target = serviceId
  | _, _ => False

/-- Follows a call by its commands to the hash. -/
def stageMonitor : Monitor (RegistryCall ι) RegistryCall.Reply Stage where
  update
    | stage, .hget _, raw => .read stage.op raw
    | stage, .hset _ _, _ => .wrote stage.op
    | stage, .hdel _, _ => .wrote stage.op
    | stage, _, _ => stage
  allowed
    | stage, .hset target text => registry.MayWrite valid stage target text
    | stage, .hdel target => MayRemove stage target
    | stage, .hget target => ∀ serviceId localNow hashNow,
        stage.op = .heartbeat serviceId localNow hashNow → target = serviceId
    | _, _ => True
  possible _ _ := True

variable {registry} {valid}

/-- Only `register` and `heartbeat` write, the one at once and the other what it has read. -/
theorem mayWrite_cases {stage : Stage} {target text : String}
    (may : registry.MayWrite valid stage target text) :
    (∃ record, valid record ∧ target = record.serviceId ∧ text = registry.encode record ∧
      stage = .started (.register record)) ∨
    (∃ localNow hashNow raw, (Op.heartbeat target localNow hashNow).Admissible valid ∧
      registry.BeatsTo hashNow raw text ∧
      stage = .read (.heartbeat target localNow hashNow) (some raw)) := by
  unfold MayWrite at may
  split at may
  · next record =>
      obtain ⟨fresh, rfl, rfl⟩ := may
      exact .inl ⟨record, fresh, rfl, rfl, rfl⟩
  · next serviceId localNow hashNow raw =>
      obtain ⟨admissible, rfl, beats⟩ := may
      exact .inr ⟨localNow, hashNow, raw, admissible, beats, rfl⟩
  · exact may.elim

theorem mayRemove_cases {stage : Stage} {target : String} (may : MayRemove stage target) :
    stage = .started (.deregister target) := by
  unfold MayRemove at may
  split at may
  · rw [may]
  · exact may.elim

variable (registry) (valid)

theorem accepts_code (process : ι) {op : Op} (admissible : op.Admissible valid) :
    (stageMonitor registry valid).Accepts (fun _ _ => True) (.started op)
      (registry.code process op) := by
  unfold code
  cases op with
  | register record =>
      rw [Monitor.accepts_map]
      refine ⟨trivial, fun _ _ => ?_⟩
      dsimp only [Prog.bind]
      split
      · exact ⟨⟨admissible, rfl, rfl⟩, fun _ _ => trivial⟩
      · trivial
  | deregister serviceId =>
      rw [Monitor.accepts_map]
      refine ⟨trivial, fun _ _ => ?_⟩
      dsimp only [Prog.bind]
      split
      · exact ⟨rfl, fun _ _ => trivial⟩
      · trivial
  | heartbeat serviceId localNow hashNow =>
      rw [Monitor.accepts_map]
      refine ⟨trivial, fun found _ => ?_⟩
      dsimp only [Prog.bind]
      split
      · refine ⟨?_, fun raw _ => ?_⟩
        · rintro _ _ _ ⟨⟩
          rfl
        cases raw with
        | none => trivial
        | some raw =>
            dsimp only [Prog.bind]
            split
            · trivial
            · split
              · trivial
              · next data loaded =>
                  exact ⟨⟨admissible, rfl, data, loaded, rfl⟩, fun _ _ => trivial⟩
      · trivial
  | listServices serviceType aliveOnly now =>
      rw [Monitor.accepts_map]
      unfold listServices
      split
      · refine ⟨trivial, fun texts _ => ?_⟩
        dsimp only [Prog.bind]
        split
        · trivial
        · trivial
      · exact ⟨trivial, fun _ _ => trivial⟩
  | get serviceId now =>
      rw [Monitor.accepts_map]
      unfold get
      split
      · refine ⟨?_, fun raw _ => ?_⟩
        · rintro _ _ _ ⟨⟩
        cases raw with
        | none => trivial
        | some raw =>
            dsimp only [Prog.bind]
            split
            · trivial
            · trivial
      · exact ⟨trivial, fun _ _ => trivial⟩

end Protocol

/-! ## Interleavings -/

section Interleavings

variable {ι : Type} [DecidableEq ι] (registry : ServiceRegistry) (valid : ServiceRecord → Prop)

/-- Processes that share one hash, their steps interleaved. -/
def machine (ι : Type) [DecidableEq ι] (registry : ServiceRegistry) :
    Machine ι Op (RegistryCall ι) RegistryCall.Reply (Except PyError Result) (RegistryState ι) where
  exec := RegistryState.exec
  code := registry.code

/-- Calls that come one after the other are a schedule that interrupts none of them. -/
theorem exists_schedule_reached (calls : List (ι × Op)) :
    ∃ schedule, ((machine ι registry).runFrom (.initial .empty) schedule).Quiet ∧
      ((machine ι registry).runFrom (.initial .empty) schedule).shared =
        registry.reached calls := by
  induction calls using List.reverseRecOn with
  | nil => exact ⟨[], fun _ => rfl, rfl⟩
  | append_singleton calls call ih =>
      obtain ⟨schedule, quiet, before⟩ := ih
      have alone := (machine ι registry).runFrom_alone _ call.1 call.2 (quiet call.1)
      rw [before] at alone
      refine ⟨schedule ++ (machine ι registry).alone (registry.reached calls) call.1 call.2, ?_, ?_⟩
      · rw [Machine.runFrom_append, alone]
        exact quiet
      · rw [Machine.runFrom_append, alone]
        simp only [reached, List.foldl_append]
        rfl

/-- The stage of the call that a process is in. -/
def stage? (config : RegistryConfig ι) (process : ι) : Option (Op × Stage) :=
  config.summary (stageMonitor registry valid) (fun _ op => .started op) process

/-- Two texts of one registration: they read as records that differ at most in the time
of the last heartbeat. -/
def SameService (first second : String) : Prop :=
  ∃ one other, registry.decode first 0 = .ok one ∧ registry.decode second 0 = .ok other ∧
    { one with lastHeartbeat := other.lastHeartbeat } = other

/-- When a heartbeat writes, the hash holds the registration that it has read. -/
def Undisturbed (config : RegistryConfig ι) : Action ι Op → Prop
  | .act process => ∀ op serviceId localNow hashNow raw text resume log,
      config.client process = .busy op (.act (.hset serviceId text) resume) log →
      registry.stage? valid config process =
        some (op, .read (.heartbeat serviceId localNow hashNow) (some raw)) →
      ∃ current, config.shared.hash.get? serviceId = some current ∧
        registry.SameService current raw
  | _ => True

/-- Registrations survive: a service that was removed is not in the hash unless a
`register` of it has written since, and what the hash holds for a registered service are,
but for the time of the last heartbeat, the fields of that registration or of one
written since. -/
structure Survives (state : RegistryState ι) (writes : List Registration) : Prop where
  gone : ∀ serviceId earlier later, writes = earlier ++ .removed serviceId :: later →
    (∀ record, .registered record ∈ later → record.serviceId ≠ serviceId) →
      state.hash.get? serviceId = none
  current : ∀ record earlier later, writes = earlier ++ .registered record :: later →
    ∀ text, state.hash.get? record.serviceId = some text →
      ∃ last, (last = record ∨ .registered last ∈ later) ∧ last.serviceId = record.serviceId ∧
        ∃ time, ∀ now, registry.decode text now = .ok { last with lastHeartbeat := time }

/-- The registration of a service is the one written last, with some heartbeat. -/
def Follows : Option Registration → Option ServiceRecord → Prop
  | some (.registered record), found =>
      ∃ time, found = some { record with lastHeartbeat := time }
  | _, found => found = none

/-- The hash stands for registrations that follow the writes. -/
def UpToDate (hash : Dict String String) (writes : List Registration) : Prop :=
  ∃ registered, registry.Mirrors valid hash registered ∧
    ∀ serviceId, Follows (latest writes serviceId) (registered serviceId)

/-- What a heartbeat has read is the text of a registration. -/
def ReadsRecord : Stage → Prop
  | .read (.heartbeat serviceId _ _) (some raw) =>
      ∃ record, valid record ∧ record.serviceId = serviceId ∧ raw = registry.encode record
  | _ => True

/-- What every undisturbed interleaving maintains. -/
structure Tracked (state : RegistryState ι) (stages : ι → Option (Op × Stage))
    (history : List (RegistryEvent ι)) : Prop where
  current : ∀ process op stage, stages process = some (op, stage) →
    (ledger history).current process = some stage.op
  follows : registry.UpToDate valid state.hash (ledger history).writes
  reads : ∀ process op stage, stages process = some (op, stage) →
    registry.ReadsRecord valid stage

/-- A heartbeat leaves the registration the one written last. -/
theorem Follows.beaten {last : Option Registration} {record : ServiceRecord}
    (follows : Follows last (some record)) (time : Rat) :
    Follows last (some { record with lastHeartbeat := time }) := by
  cases last with
  | none => cases follows
  | some write =>
      cases write with
      | removed serviceId => cases follows
      | registered first =>
          obtain ⟨_, equal⟩ := follows
          obtain rfl := Option.some.inj equal
          exact ⟨time, rfl⟩

/-- A write that puts an entry in place for its service. -/
theorem follows_concat {writes : List Registration} {registered : String → Option ServiceRecord}
    (follows : ∀ serviceId, Follows (latest writes serviceId) (registered serviceId))
    (write : Registration) {entry : Option ServiceRecord} (own : Follows (some write) entry)
    (serviceId : String) :
    Follows (latest (writes ++ [write]) serviceId)
      (Function.update registered write.serviceId entry serviceId) := by
  rw [latest_concat]
  by_cases same : serviceId = write.serviceId
  · rw [if_pos same, same, Function.update_self]
    exact own
  · rw [if_neg same, Function.update_of_ne same]
    exact follows serviceId

variable {registry} {valid}

/-- What a heartbeat writes over the text of a record. -/
theorem BeatsTo.eq_encode {record : ServiceRecord} (encodes : registry.Encodes record)
    {hashNow : Rat} {text : String}
    (beats : registry.BeatsTo hashNow (registry.encode record) text) :
    text = registry.encode { record with lastHeartbeat := hashNow } := by
  obtain ⟨data, loaded, rfl⟩ := beats
  rw [loadsDict_encode encodes] at loaded
  obtain rfl := Except.ok.inj loaded
  rw [toDict_set]
  rfl

theorem SameService.eq_of_encode {first second : ServiceRecord}
    (encodesFirst : registry.Encodes first) (encodesSecond : registry.Encodes second)
    (same : registry.SameService (registry.encode first) (registry.encode second)) :
    { first with lastHeartbeat := second.lastHeartbeat } = second := by
  obtain ⟨one, other, reads, readsOther, equal⟩ := same
  rw [decode_encode encodesFirst] at reads
  rw [decode_encode encodesSecond] at readsOther
  obtain rfl := Except.ok.inj reads
  obtain rfl := Except.ok.inj readsOther
  exact equal

section Writing

variable {hash : Dict String String} {writes : List Registration}
  (upToDate : registry.UpToDate valid hash writes)

include upToDate

theorem UpToDate.registered {record : ServiceRecord} (fresh : valid record) :
    registry.UpToDate valid (hash.set record.serviceId (registry.encode record))
      (writes ++ [.registered record]) := by
  obtain ⟨registered, mirrors, follows⟩ := upToDate
  exact ⟨_, mirrors.hset fresh,
    follows_concat follows (.registered record) ⟨record.lastHeartbeat, rfl⟩⟩

theorem UpToDate.removed (serviceId : String) :
    registry.UpToDate valid (hash.erase serviceId) (writes ++ [.removed serviceId]) := by
  obtain ⟨registered, mirrors, follows⟩ := upToDate
  exact ⟨_, mirrors.hdel serviceId, follows_concat follows (.removed serviceId) rfl⟩

/-- A new time for the record that is there needs no registration. -/
theorem UpToDate.beaten (lossless : ∀ record, valid record → registry.Encodes record)
    {record : ServiceRecord} (sound : valid record) {hashNow : Rat}
    (fresh : valid { record with lastHeartbeat := hashNow }) {now : String}
    (present : hash.get? record.serviceId = some now)
    (same : registry.SameService now (registry.encode record)) :
    registry.UpToDate valid (hash.set record.serviceId
      (registry.encode { record with lastHeartbeat := hashNow })) writes := by
  obtain ⟨registered, mirrors, follows⟩ := upToDate
  obtain ⟨holder, held, registration, _, rfl⟩ := mirrors.of_stored present
  have beaten : { record with lastHeartbeat := hashNow } =
      { holder with lastHeartbeat := hashNow } := by
    rw [← same.eq_of_encode (lossless holder registration) (lossless record sound)]
  refine ⟨_, mirrors.hset fresh, fun other => ?_⟩
  by_cases own : other = record.serviceId
  · subst own
    have followed := follows record.serviceId
    rw [held] at followed
    rw [Function.update_self, beaten]
    exact followed.beaten hashNow
  · rw [Function.update_of_ne own]
    exact follows other

end Writing

/-- What is tracked survives. -/
theorem Tracked.survives {state : RegistryState ι} {stages : ι → Option (Op × Stage)}
    {history : List (RegistryEvent ι)} (lossless : ∀ record, valid record → registry.Encodes record)
    (tracked : registry.Tracked valid state stages history) :
    registry.Survives state (ledger history).writes := by
  obtain ⟨registered, mirrors, follows⟩ := tracked.follows
  constructor
  · intro serviceId earlier later split unregistered
    have named : (Registration.removed serviceId).serviceId = serviceId := rfl
    obtain ⟨last, shown, among, same⟩ := latest_of_split split named
    have followed := follows serviceId
    rw [shown] at followed
    rw [mirrors.texts]
    cases last with
    | removed other => exact congrArg (Option.map registry.encode) followed
    | registered record =>
        rcases among with other | member
        · cases other
        · exact absurd same (unregistered record member)
  · intro record earlier later split text stored
    have named : (Registration.registered record).serviceId = record.serviceId := rfl
    obtain ⟨last, shown, among, same⟩ := latest_of_split split named
    have followed := follows record.serviceId
    rw [shown] at followed
    obtain ⟨found, present, sound, _, rfl⟩ := mirrors.of_stored stored
    cases last with
    | removed other =>
        exact absurd (followed.symm.trans present) nofun
    | registered last =>
        obtain ⟨time, beaten⟩ := followed
        obtain rfl := Option.some.inj (present.symm.trans beaten)
        refine ⟨last, ?_, same, time, decode_encode (lossless _ sound)⟩
        rcases among with equal | member
        · exact .inl (Registration.registered.inj equal)
        · exact .inr member

section Acting

variable {state after : RegistryState ι} {stages : ι → Option (Op × Stage)}
  {history : List (RegistryEvent ι)} (tracked : registry.Tracked valid state stages history)
  {process : ι} {op : Op} {stage next : Stage} (running : stages process = some (op, stage))

include tracked running

/-- What a command has to leave behind. -/
theorem Tracked.acted {command : RegistryCall ι} (reply : command.Reply)
    (same : next.op = stage.op)
    (follows : registry.UpToDate valid after.hash
      ((ledger history).record (.acted process command reply)).writes)
    (reads : registry.ReadsRecord valid next) :
    registry.Tracked valid after (Function.update stages process (some (op, next)))
      (history ++ [.acted process command reply]) where
  current := by
    intro other call reached shown
    rw [ledger_snoc, Ledger.current_acted]
    rcases update_some_cases shown with ⟨rfl, equal⟩ | ⟨_, before⟩
    · obtain ⟨rfl, rfl⟩ := Prod.mk.inj equal
      rw [same]
      exact tracked.current other _ stage running
    · exact tracked.current other call reached before
  follows := by
    rw [ledger_snoc]
    exact follows
  reads := by
    intro other call reached shown
    rcases update_some_cases shown with ⟨rfl, equal⟩ | ⟨_, before⟩
    · obtain ⟨rfl, rfl⟩ := Prod.mk.inj equal
      exact reads
    · exact tracked.reads other call reached before

/-- A command that writes. -/
theorem Tracked.wrote {command : RegistryCall ι} (reply : command.Reply)
    (follows : registry.UpToDate valid after.hash
      ((ledger history).record (.acted process command reply)).writes) :
    registry.Tracked valid after (Function.update stages process (some (op, .wrote stage.op)))
      (history ++ [.acted process command reply]) :=
  tracked.acted running reply rfl follows trivial

/-- A command that does not write. -/
theorem Tracked.silent {command : RegistryCall ι} (reply : command.Reply)
    (silent : Writes command = false) (hash : after.hash = state.hash)
    (same : next.op = stage.op) (reads : registry.ReadsRecord valid next) :
    registry.Tracked valid after (Function.update stages process (some (op, next)))
      (history ++ [.acted process command reply]) := by
  refine tracked.acted running reply same ?_ reads
  rw [Ledger.record_silent _ reply silent, hash]
  exact tracked.follows

/-- A step outside the hash. -/
theorem Tracked.outside {command : RegistryCall ι} (reply : command.Reply)
    (silent : Writes command = false) (hash : after.hash = state.hash) :
    registry.Tracked valid after (Function.update stages process (some (op, stage)))
      (history ++ [.acted process command reply]) :=
  tracked.silent running reply silent hash rfl (tracked.reads process op stage running)

/-- What a heartbeat reads is the text of a registration. -/
theorem Tracked.hget {target : String}
    (own : ∀ serviceId localNow hashNow, stage.op = .heartbeat serviceId localNow hashNow →
      target = serviceId) :
    registry.Tracked valid state
      (Function.update stages process (some (op, .read stage.op (state.hash.get? target))))
      (history ++ [.acted process (.hget target) (state.hash.get? target)]) := by
  refine tracked.silent running _ rfl rfl rfl ?_
  obtain ⟨registered, mirrors, _⟩ := tracked.follows
  unfold ReadsRecord
  split
  · next serviceId localNow hashNow raw equal =>
      obtain ⟨beat, shown⟩ := Stage.read.inj equal
      obtain rfl := own serviceId localNow hashNow beat
      obtain ⟨record, _, registration⟩ := mirrors.of_stored shown
      exact ⟨record, registration⟩
  · trivial

omit running in
/-- The write of a `register`. -/
theorem Tracked.hset_register {record : ServiceRecord} (fresh : valid record)
    (running : stages process = some (op, .started (.register record))) :
    registry.Tracked valid
      { state with hash := state.hash.set record.serviceId (registry.encode record) }
      (Function.update stages process (some (op, .wrote (.register record))))
      (history ++ [.acted process (.hset record.serviceId (registry.encode record)) ()]) := by
  refine tracked.wrote running _ ?_
  rw [Ledger.writes_acted _ _ rfl (tracked.current process op _ running)]
  exact tracked.follows.registered fresh

omit running in
/-- The write of a `deregister`. -/
theorem Tracked.hdel_deregister {serviceId : String}
    (running : stages process = some (op, .started (.deregister serviceId))) :
    registry.Tracked valid { state with hash := state.hash.erase serviceId }
      (Function.update stages process (some (op, .wrote (.deregister serviceId))))
      (history ++ [.acted process (.hdel serviceId) ()]) := by
  refine tracked.wrote running _ ?_
  rw [Ledger.writes_acted _ _ rfl (tracked.current process op _ running)]
  exact tracked.follows.removed serviceId

omit running in
/-- The write of a heartbeat, over the registration that it has read. -/
theorem Tracked.hset_heartbeat (lossless : ∀ record, valid record → registry.Encodes record)
    {serviceId raw text now : String} {localNow hashNow : Rat}
    (running : stages process =
      some (op, .read (.heartbeat serviceId localNow hashNow) (some raw)))
    (admissible : (Op.heartbeat serviceId localNow hashNow).Admissible valid)
    (beats : registry.BeatsTo hashNow raw text)
    (present : state.hash.get? serviceId = some now) (same : registry.SameService now raw) :
    registry.Tracked valid { state with hash := state.hash.set serviceId text }
      (Function.update stages process
        (some (op, .wrote (.heartbeat serviceId localNow hashNow))))
      (history ++ [.acted process (.hset serviceId text) ()]) := by
  obtain ⟨record, sound, rfl, rfl⟩ := tracked.reads process op _ running
  obtain rfl := beats.eq_encode (lossless record sound)
  refine tracked.wrote running _ ?_
  rw [Ledger.writes_acted _ _ rfl (tracked.current process op _ running)]
  change registry.UpToDate valid _ ((ledger history).writes ++ [])
  rw [List.append_nil]
  exact tracked.follows.beaten lossless sound (admissible record sound) present same

end Acting

variable (registry) (valid)

/-- What an undisturbed interleaving may do next. -/
def Permitted (config : RegistryConfig ι) (action : Action ι Op) : Prop :=
  registry.Undisturbed valid config action ∧
    ∀ process op, action = .call process op → op.Admissible valid

variable {registry} {valid}

theorem tracked_invariant (lossless : ∀ record, valid record → registry.Encodes record) :
    (machine ι registry).Invariant (stageMonitor registry valid) (fun _ op => .started op)
      (fun _ _ _ _ => True) (registry.Permitted valid) (registry.Tracked valid) where
  accepts config process op permitted :=
    accepts_code registry valid process (permitted.2 process op rfl)
  replies config process op command resume log _ _ _ := trivial
  call config process op _ _ tracked := by
    constructor
    · intro other running stage shown
      rw [ledger_snoc]
      rcases update_some_cases shown with ⟨rfl, equal⟩ | ⟨different, before⟩
      · obtain ⟨rfl, rfl⟩ := Prod.mk.inj equal
        exact Function.update_self ..
      · exact (Function.update_of_ne different ..).trans
          (tracked.current other running stage before)
    · rw [ledger_snoc]
      exact tracked.follows
    · intro other running stage shown
      rcases update_some_cases shown with ⟨rfl, equal⟩ | ⟨_, before⟩
      · obtain ⟨rfl, rfl⟩ := Prod.mk.inj equal
        trivial
      · exact tracked.reads other running stage before
  ret config process op value log _ _ _ tracked := by
    constructor
    · intro other running stage shown
      rw [ledger_snoc]
      exact tracked.current other running stage (update_none_cases shown).2
    · rw [ledger_snoc]
      exact tracked.follows
    · intro other running stage shown
      exact tracked.reads other running stage (update_none_cases shown).2
  act config process op command resume log permitted busy allowed tracked := by
    have found := Config.summary_of_busy busy (stageMonitor registry valid)
      fun _ op => Stage.started op
    generalize stages : config.summary (stageMonitor registry valid)
      (fun _ op => Stage.started op) = current at found tracked ⊢
    generalize (stageMonitor registry valid).summarize (.started op) log = stage
      at found allowed ⊢
    cases command with
    | hget target => exact tracked.hget found allowed
    | hset target text =>
        rcases mayWrite_cases allowed with ⟨record, fresh, rfl, rfl, rfl⟩ |
          ⟨localNow, hashNow, raw, admissible, beats, rfl⟩
        · exact tracked.hset_register fresh found
        · obtain ⟨now, present, same⟩ := permitted.1 op _ _ _ raw text resume log busy
            ((congrFun stages process).trans found)
          exact tracked.hset_heartbeat lossless found admissible beats present same
    | hdel target =>
        obtain rfl := mayRemove_cases allowed
        exact tracked.hdel_deregister found
    | _ => exact tracked.outside found _ rfl rfl

theorem tracked_initial :
    registry.Tracked valid (RegistryState.empty : RegistryState ι) (fun _ => none) [] where
  current process op stage shown := by cases shown
  follows := ⟨fun _ => none, ⟨fun _ => rfl, fun _ _ shown => by cases shown⟩, fun _ => rfl⟩
  reads process op stage shown := by cases shown

/-- **Undisturbed registrations survive.** Let any number of processes register, remove,
read and beat services in one hash, their commands interleaved in any order in which a
heartbeat writes only over the registration that it has read. In every state on the way, a
service that was removed is in the hash only if a `register` of it has written since, and
what is there for a registered service has the fields of that registration or of a later
one. -/
theorem undisturbed_registrations_survive
    (lossless : ∀ record, valid record → registry.Encodes record) (schedule : List (Action ι Op))
    (admissible : ∀ process op, .call process op ∈ schedule → op.Admissible valid)
    (undisturbed : (machine ι registry).Permits (registry.Undisturbed valid) (.initial .empty)
      schedule) :
    registry.Survives ((machine ι registry).runFrom (.initial .empty) schedule).shared
      (ledger ((machine ι registry).runFrom (.initial .empty) schedule).history).writes := by
  have calls : ∀ action ∈ schedule, ∀ process op, action = .call process op →
      op.Admissible valid := by
    rintro action member process op rfl
    exact admissible process op member
  have permitted := undisturbed.and_forall calls
  exact ((tracked_invariant lossless).run .empty tracked_initial schedule permitted).survives
    lossless

end Interleavings

section Sample

/-- A process registers the service and sends a heartbeat. -/
def registeredAndBeaten : List (Action Bool Op) :=
  [.call true (.register (sampleService "old" 0)), .act true, .act true, .ret true,
    .call true (.heartbeat "mail" 5 5), .act true, .act true, .act true, .ret true]

theorem beaten_registration_survives :
    sampleRegistry.Survives
      ((machine Bool sampleRegistry).runFrom (.initial .empty) registeredAndBeaten).shared
      (ledger ((machine Bool sampleRegistry).runFrom (.initial .empty)
        registeredAndBeaten).history).writes := by
  refine undisturbed_registrations_survive (fun _ => encodes_sample) registeredAndBeaten ?_ ?_
  · intro process op member
    simp only [registeredAndBeaten, List.mem_cons, List.not_mem_nil, or_false, reduceCtorEq,
      false_or, Action.call.injEq] at member
    rcases member with ⟨_, rfl⟩ | ⟨_, rfl⟩
    · exact List.mem_cons_self
    · exact admissible_sample_beat "mail" 5
  · refine ⟨trivial, ?_, ?_, trivial, trivial, ?_, ?_, ?_, trivial, trivial⟩
    · rintro _ _ _ _ _ _ _ _ _ ⟨⟩
    · rintro _ _ _ _ _ _ _ _ _ ⟨⟩
    · rintro _ _ _ _ _ _ _ _ _ ⟨⟩
    · rintro _ _ _ _ _ _ _ _ _ ⟨⟩
    · rintro _ _ _ _ _ _ _ _ _ ⟨⟩
      have encodes : sampleRegistry.Encodes (sampleService "old" 0) :=
        encodes_sample List.mem_cons_self
      exact ⟨_, rfl, _, _, decode_encode encodes 0, decode_encode encodes 0, rfl⟩

/-- The same, but another process removes the service after the heartbeat has read it and
before it writes. -/
def removedMidway : List (Action Bool Op) :=
  [.call true (.register (sampleService "old" 0)), .act true, .act true, .ret true,
    .call true (.heartbeat "mail" 5 5), .act true, .act true,
    .call false (.deregister "mail"), .act false, .act false, .ret false,
    .act true, .ret true]

/-- The service that a write removes. -/
def Registration.removed? : Registration → Option String
  | .removed serviceId => some serviceId
  | .registered _ => none

/-- All calls have returned, and the removed service is in the hash. -/
theorem removed_service_reappears :
    ¬ ∀ (registry : ServiceRegistry) (valid : ServiceRecord → Prop)
      (schedule : List (Action Bool Op)), (∀ record, valid record → registry.Encodes record) →
        (∀ process op, .call process op ∈ schedule → op.Admissible valid) →
        ((machine Bool registry).runFrom (.initial .empty) schedule).Quiet →
          registry.Survives ((machine Bool registry).runFrom (.initial .empty) schedule).shared
            (ledger
              ((machine Bool registry).runFrom (.initial .empty) schedule).history).writes := by
  intro survives
  have admissible : ∀ process op, .call process op ∈ removedMidway →
      op.Admissible (· ∈ sampleServices) := by
    intro process op member
    simp only [removedMidway, List.mem_cons, List.not_mem_nil, or_false, reduceCtorEq,
      false_or, Action.call.injEq] at member
    rcases member with ⟨_, rfl⟩ | ⟨_, rfl⟩ | ⟨_, rfl⟩
    · exact List.mem_cons_self
    · exact admissible_sample_beat "mail" 5
    · trivial
  have quiet : ((machine Bool sampleRegistry).runFrom (.initial .empty) removedMidway).Quiet := by
    have idle : ∀ process : Bool, (((machine Bool sampleRegistry).runFrom (.initial .empty)
        removedMidway).client process).isIdle = true := by
      decide +kernel
    exact fun process => Client.eq_idle (idle process)
  have writes : (ledger ((machine Bool sampleRegistry).runFrom (.initial .empty)
      removedMidway).history).writes.map Registration.removed? = [none, some "mail"] := by
    decide +kernel
  have present : ((machine Bool sampleRegistry).runFrom (.initial .empty)
      removedMidway).shared.hash.get? "mail" ≠ none := by
    decide +kernel
  obtain ⟨first, rest, split, _, last⟩ := List.map_eq_cons_iff.mp writes
  obtain ⟨removed, others, rfl, removes, none⟩ := List.map_eq_cons_iff.mp last
  obtain rfl := List.map_eq_nil_iff.mp none
  cases removed with
  | registered record => cases removes
  | removed serviceId =>
      obtain rfl := Option.some.inj removes
      exact present ((survives sampleRegistry _ removedMidway (fun _ => encodes_sample) admissible
        quiet).gone "mail" [first] [] split nofun)

end Sample

end ServiceRegistry

end CloudDogJobs
