import CloudDogJobs.Backend.Interchange
import CloudDogJobs.Backend.RedisLegibility

/-!
# Status writes and later reads

`update_status` takes any text. The memory backend decodes it into a `JobStatus` before
it writes; the SQL and Redis backends write it as it is, and every later read of the job
decodes it. One text that is no `JobStatus` makes `get` raise for its job and `all_jobs`
for the whole store. A text that a state extension has registered is no member either.
-/

namespace CloudDogJobs

open Foundation

/-- A submission, a claim, a release or a status write. -/
def BackendOp.MovesStatus : BackendOp → Prop
  | .enqueue _ _ => True
  | .claim _ _ _ _ => True
  | .release _ _ => True
  | .updateStatus _ _ _ => True
  | _ => False

/-- The text is a member of `JobStatus`. -/
def IsStatus (text : String) : Prop := ∃ known : JobStatus, text = known.value

/-- A backend with what its store holds as the status of a job, and whether `all_jobs`
returns. -/
structure StatusStore (σ : Type) where
  backend : QueueBackend σ
  standing : σ → String → Option (Option String)
  Lists : σ → Prop

namespace StatusStore

variable {σ : Type} (store : StatusStore σ)

/-- The state after a call. -/
def step (state : σ) (op : BackendOp) : σ := (store.backend.perform op state).2

/-- `get` and `all_jobs` return. -/
def Readable (state : σ) : Prop :=
  (∀ jobId, ∃ found, store.backend.get jobId state = .ok found) ∧ store.Lists state

/-- A status write returns True and has written the text, or it raises or returns False
and has changed nothing. -/
def Settles (state : σ) : BackendOp → Prop
  | .updateStatus jobId status now =>
      ((store.backend.updateStatus jobId status now state).1 = .ok true ∧
        store.standing (store.backend.updateStatus jobId status now state).2 jobId =
          some (some status)) ∨
      ((store.backend.updateStatus jobId status now state).1 ≠ .ok true ∧
        (store.backend.updateStatus jobId status now state).2 = state)
  | _ => True

/-- A text written to a stored job is a member of `JobStatus`. -/
def WritesMember (state : σ) : BackendOp → Prop
  | .updateStatus jobId status _ => (store.standing state jobId).isSome → IsStatus status
  | _ => True

/-- Every stored job has the text of a member as its status. -/
def Known (state : σ) : Prop :=
  ∀ jobId cell, store.standing state jobId = some cell → ∃ text, cell = some text ∧ IsStatus text

/-- A status write to a stored job returns True and has written the text, whatever it is;
to another it returns False and has changed nothing. -/
def Overwrites (state : σ) (jobId status : String) (now : Int) : Prop :=
  (store.standing state jobId = none ∧
    store.backend.updateStatus jobId status now state = (.ok false, state)) ∨
  ((store.standing state jobId).isSome ∧
    (store.backend.updateStatus jobId status now state).1 = .ok true ∧
    store.standing (store.backend.updateStatus jobId status now state).2 =
      Function.update (store.standing state) jobId (some (some status)))

/-- No status write makes the store unreadable, in any state of the run. -/
def StaysReadable (start : σ) (ops : List BackendOp) : Prop :=
  Throughout store.step store.Readable start ops ∧ Guarded store.step store.Settles start ops

/-- What the calls do to the statuses, on a store that is sound but for them. -/
structure Laws (premise : σ → BackendOp → Prop) (sound : σ → Prop) : Prop where
  readable : ∀ state, sound state → (store.Readable state ↔ store.Known state)
  kept : ∀ state op, premise state op → sound state → sound (store.step state op)
  settles : ∀ state op, store.Settles state op
  written : ∀ state jobId status now,
    premise state (.updateStatus jobId status now) → sound state →
    store.standing (store.step state (.updateStatus jobId status now)) =
      if (store.standing state jobId).isSome then
        Function.update (store.standing state) jobId (some (some status))
      else store.standing state
  moved : ∀ state op, premise state op → sound state →
    (∃ jobId status now, op = .updateStatus jobId status now) ∨
    store.standing (store.step state op) = store.standing state ∨
    ∃ (jobId : String) (known : JobStatus), store.standing (store.step state op) =
      Function.update (store.standing state) jobId (some (some known.value))

variable {store} {premise : σ → BackendOp → Prop} {sound : σ → Prop}

section Overwriting

variable {state : σ} {jobId status : String} {now : Int}

theorem Overwrites.settles (overwrites : store.Overwrites state jobId status now) :
    store.Settles state (.updateStatus jobId status now) := by
  rcases overwrites with ⟨_, ran⟩ | ⟨_, granted, moved⟩
  · refine .inr ⟨?_, congrArg Prod.snd ran⟩
    intro same
    have refused := (congrArg Prod.fst ran).symm.trans same
    cases refused
  · refine .inl ⟨granted, ?_⟩
    rw [moved, Function.update_self]

theorem Overwrites.written (overwrites : store.Overwrites state jobId status now) :
    store.standing (store.step state (.updateStatus jobId status now)) =
      if (store.standing state jobId).isSome then
        Function.update (store.standing state) jobId (some (some status))
      else store.standing state := by
  rcases overwrites with ⟨absent, ran⟩ | ⟨stored, _, moved⟩
  · rw [absent]
    exact congrArg store.standing (congrArg Prod.snd ran)
  · rw [if_pos stored]
    exact moved

end Overwriting

theorem Known.of_bare {state : σ} (bare : ∀ jobId, store.standing state jobId = none) :
    store.Known state := by
  intro jobId cell shown
  rw [bare] at shown
  cases shown

theorem Known.of_update {state next : σ} (known : store.Known state) {jobId text : String}
    (moved : store.standing next =
      Function.update (store.standing state) jobId (some (some text))) :
    store.Known next ↔ IsStatus text := by
  constructor
  · intro later
    obtain ⟨written, same, member⟩ := later jobId (some text) (by rw [moved, Function.update_self])
    rw [Option.some.inj same]
    exact member
  · intro member other cell shown
    rw [moved] at shown
    by_cases same : other = jobId
    · rw [same, Function.update_self] at shown
      exact ⟨text, (Option.some.inj shown).symm, member⟩
    · rw [Function.update_of_ne same] at shown
      exact known other cell shown

theorem Known.of_same {state next : σ} (known : store.Known state)
    (same : store.standing next = store.standing state) : store.Known next := by
  unfold Known
  rw [same]
  exact known

/-- The step lemma: the statuses stay known exactly when a member is written. -/
theorem Laws.known_step_iff (laws : store.Laws premise sound) {state : σ} {op : BackendOp}
    (met : premise state op) (whole : sound state) (known : store.Known state) :
    store.Known (store.step state op) ↔ store.WritesMember state op := by
  rcases laws.moved state op met whole with ⟨jobId, status, now, rfl⟩ | other
  · have written := laws.written state jobId status now met whole
    unfold WritesMember
    by_cases stored : (store.standing state jobId).isSome = true
    · rw [if_pos stored] at written
      rw [known.of_update written]
      exact ⟨fun member _ => member, fun member => member stored⟩
    · rw [if_neg stored] at written
      exact iff_of_true (known.of_same written) fun present => absurd present stored
  · have later : store.Known (store.step state op) := by
      rcases other with same | ⟨jobId, member, moved⟩
      · exact known.of_same same
      · exact (known.of_update moved).mpr ⟨member, rfl⟩
    refine iff_of_true later ?_
    cases op with
    | updateStatus jobId status now =>
        intro stored
        have written := laws.written state jobId status now met whole
        rw [if_pos stored] at written
        exact (known.of_update written).mp later
    | _ => trivial

/-- The run lemma. -/
theorem Laws.staysReadable_iff (laws : store.Laws premise sound) {start : σ} (whole : sound start)
    (known : store.Known start) {ops : List BackendOp}
    (met : Guarded store.step premise start ops) :
    store.StaysReadable start ops ↔ Guarded store.step store.WritesMember start ops := by
  have premised : Guarded store.step (fun state op => premise state op ∧ sound state) start ops :=
    met.of_invariant (fun state op whole holds => ⟨⟨holds, whole⟩, laws.kept state op holds whole⟩)
      whole
  have step : ∀ state op, premise state op ∧ sound state → store.Readable state →
      (store.Readable (store.step state op) ↔ store.WritesMember state op) := by
    intro state op both readable
    rw [laws.readable _ (laws.kept state op both.1 both.2)]
    exact laws.known_step_iff both.1 both.2 ((laws.readable state both.2).mp readable)
  have exact := throughout_iff_guarded_of_guarded step ((laws.readable start whole).mpr known)
    premised
  exact ⟨fun stays => exact.mp stays.1,
    fun members => ⟨exact.mpr members, .of_always laws.settles start ops⟩⟩

end StatusStore

/-! ## Memory -/

namespace MemoryQueueBackend

/-- The status of a stored job as a text. -/
def standing (backend : MemoryQueueBackend) (jobId : String) : Option (Option String) :=
  (backend.get jobId).map fun job => some job.status.value

def statusStore : StatusStore MemoryQueueBackend where
  backend := contract
  standing := standing
  Lists backend := ∃ jobs, adminContract.allJobs backend = .ok jobs

/-- A write is decoded before it happens. -/
theorem settles (backend : MemoryQueueBackend) (op : BackendOp) :
    statusStore.Settles backend op := by
  cases op with
  | updateStatus jobId status now =>
      unfold StatusStore.Settles
      dsimp only [statusStore, contract]
      unfold updateStatus
      cases stored : backend.jobs.get? jobId with
      | none =>
          refine .inr ⟨?_, rfl⟩
          intro same
          cases same
      | some job =>
          dsimp only
          cases parsed : JobStatus.parse status with
          | error error =>
              refine .inr ⟨?_, rfl⟩
              intro same
              cases same
          | ok known =>
              refine .inl ⟨rfl, ?_⟩
              unfold standing
              rw [get_mutate, if_pos rfl, get, stored, ← JobStatus.value_of_parse parsed]
              rfl
  | _ => trivial

theorem staysReadable (start : MemoryQueueBackend) (ops : List BackendOp) :
    statusStore.StaysReadable start ops := by
  have readable : ∀ state, statusStore.Readable state :=
    fun state => ⟨fun jobId => ⟨_, rfl⟩, ⟨_, rfl⟩⟩
  exact ⟨.of_always readable start ops, .of_always settles start ops⟩

end MemoryQueueBackend

/-! ## SQL -/

/-- A row that decodes, but for its status. -/
structure JobRow.Sound (row : JobRow) : Prop where
  payload : ∃ payload, row.payload = .object payload
  metadata : ∃ metadata, row.metadata = .object metadata ∧ CountsDecode metadata

theorem JobRow.Sound.readable {row : JobRow} (sound : row.Sound) (known : IsStatus row.status) :
    row.Readable := ⟨sound.payload, sound.metadata, known⟩

namespace JobTable

/-- Every row decodes, but for its status. -/
def Sound (table : JobTable) : Prop :=
  ∀ jobId row, table.rows.get? jobId = some row → row.Sound

theorem sound_empty : empty.Sound := by
  intro jobId row stored
  cases stored

theorem Sound.objects {table : JobTable} (sound : table.Sound) : table.Objects := by
  intro jobId row stored
  obtain ⟨metadata, object, _⟩ := (sound jobId row stored).metadata
  exact ⟨metadata, object⟩

end JobTable

namespace SQLQueueBackend

def statusStore (backend : SQLQueueBackend) : StatusStore JobTable where
  backend := backend.contract
  standing := JobTable.standing
  Lists table := ∃ jobs, backend.allJobs table = .ok jobs

variable (backend : SQLQueueBackend) {table : JobTable}

/-- On sound rows, the reads return exactly when the statuses are known. -/
theorem readable_iff_known (sound : table.Sound) :
    backend.statusStore.Readable table ↔ backend.statusStore.Known table := by
  constructor
  · intro readable jobId cell shown
    obtain ⟨row, stored, rfl⟩ := Option.map_eq_some_iff.mp shown
    obtain ⟨found, read⟩ := readable.1 jobId
    have decoded := (contract_get table jobId backend).symm.trans read
    rw [stored] at decoded
    cases parsed : rowToJob backend.repo.loads row with
    | error error =>
        rw [readRow, parsed] at decoded
        cases decoded
    | ok job =>
        have card := card_of_rowToJob parsed
        exact ⟨row.status, rfl, job.status, (congrArg Card.status card).symm⟩
  · intro known
    have decodes : ∀ jobId row, table.rows.get? jobId = some row →
        ∃ job, rowToJob backend.repo.loads row = .ok job := by
      intro jobId row stored
      obtain ⟨text, same, member⟩ := known jobId (some row.status)
        (Option.map_eq_some_iff.mpr ⟨row, stored, rfl⟩)
      rw [← Option.some.inj same] at member
      obtain ⟨job, decoded, _⟩ := ((sound jobId row stored).readable member).decodes
        backend.repo.loads
      exact ⟨job, decoded⟩
    constructor
    · intro jobId
      have read := contract_get table jobId backend
      cases stored : table.rows.get? jobId with
      | none => exact ⟨none, by rw [stored] at read; exact read⟩
      | some row =>
          obtain ⟨job, decoded⟩ := decodes jobId row stored
          rw [stored, readRow, decoded] at read
          exact ⟨some job, read⟩
    · obtain ⟨jobs, listed, _⟩ := @exists_mapM_ok _ _ Unit (rowToJob backend.repo.loads)
        (fun _ => ()) (fun _ => ()) table.rows.values (by
          intro row member
          obtain ⟨jobId, stored⟩ := (table.rows.mem_values_iff row).mp member
          obtain ⟨job, decoded⟩ := decodes jobId row stored
          exact ⟨job, decoded, rfl⟩)
      exact ⟨jobs, listed⟩

theorem sound_enqueue (sound : table.Sound) (job : Job) :
    ((enqueue job).run JobTable.exec table).2.Sound := by
  rw [run_enqueue]
  have readable := readable_rowOf job
  exact JobTable.forall_rows_insert sound ⟨readable.payload, readable.metadata⟩

theorem sound_claim (sound : table.Sound) (jobId hostId workerId : String) (now : Int) :
    ((claim jobId hostId workerId now).run JobTable.exec table).2.Sound := by
  cases stored : table.rows.get? jobId with
  | none =>
      rw [run_claim_of_absent table jobId now hostId workerId stored]
      exact sound
  | some row =>
      obtain ⟨metadata, object, counts⟩ := (sound jobId row stored).metadata
      rw [run_claim_of_object table jobId now hostId workerId stored object]
      apply JobTable.forall_rows_update sound
      intro before present
      refine ⟨(sound jobId before present).payload, ?_⟩
      refine ⟨_, rfl, ?_⟩
      apply CountsDecode.set
      · exact counts.set _ (by decide) (by decide)
      · decide
      · decide

theorem sound_updateStatus (sound : table.Sound) (jobId status : String) (now : Int) :
    ((updateStatus jobId status now).run JobTable.exec table).2.Sound := by
  rw [run_updateStatus]
  apply JobTable.forall_rows_update sound
  intro before present
  exact ⟨(sound jobId before present).payload, (sound jobId before present).metadata⟩

theorem overwrites (table : JobTable) (jobId status : String) (now : Int) :
    backend.statusStore.Overwrites table jobId status now :=
  updateStatus_cases table jobId now status

theorem laws : backend.statusStore.Laws (fun _ op => op.MovesStatus) JobTable.Sound where
  readable _ sound := backend.readable_iff_known sound
  kept table op moves sound := by
    cases op with
    | enqueue job now => exact sound_enqueue sound job
    | claim jobId hostId workerId now => exact sound_claim sound jobId hostId workerId now
    | release jobId now => exact sound_updateStatus sound jobId JobStatus.queued.value now
    | updateStatus jobId status now => exact sound_updateStatus sound jobId status now
    | _ => exact moves.elim
  settles table op := by
    cases op with
    | updateStatus jobId status now => exact (backend.overwrites table jobId status now).settles
    | _ => trivial
  written table jobId status now _ _ := (backend.overwrites table jobId status now).written
  moved table op moves sound := by
    cases op with
    | enqueue job now =>
        refine .inr ?_
        rcases enqueue_cases table job with ⟨_, _, moved⟩ | ⟨_, error, ran⟩
        · exact .inr ⟨job.jobId, job.status, moved⟩
        · exact .inl (congrArg JobTable.standing (congrArg Prod.snd ran))
    | claim jobId hostId workerId now =>
        refine .inr ?_
        rcases claim_cases table jobId now hostId workerId sound.objects with
          ⟨_, ran⟩ | ⟨_, _, moved⟩
        · exact .inl (congrArg JobTable.standing (congrArg Prod.snd ran))
        · exact .inr ⟨jobId, .running, moved⟩
    | release jobId now =>
        refine .inr ?_
        rcases updateStatus_cases table jobId now JobStatus.queued.value with
          ⟨_, ran⟩ | ⟨_, _, moved⟩
        · exact .inl (congrArg JobTable.standing (congrArg Prod.snd ran))
        · exact .inr ⟨jobId, .queued, moved⟩
    | updateStatus jobId status now => exact .inl ⟨jobId, status, now, rfl⟩
    | _ => exact moves.elim

end SQLQueueBackend

/-! ## Redis -/

namespace RedisQueueBackend

variable (backend : RedisQueueBackend)

/-- `all_jobs` returns for whatever keys the scan yields. -/
def statusStore : StatusStore RedisServer where
  backend := backend.contract
  standing := RedisServer.standing
  Lists server :=
    ∀ scanned, ∃ jobs, ((backend.allJobs scanned).run RedisServer.exec server).1 = .ok jobs

/-- Every hash is legible, but for its status. -/
def Intact (server : RedisServer) : Prop :=
  ∀ jobId data, server.hashes.get? jobId = some data → backend.LegibleBut data

theorem intact_empty : backend.Intact .empty := by
  intro jobId data stored
  cases stored

/-- The codec reads back what the call writes. -/
def CodecReads (server : RedisServer) : BackendOp → Prop
  | .enqueue job _ => RereadsJob backend.codec job
  | .claim jobId hostId workerId now => ReadsTime backend.codec now ∧
      ∀ metadata, backend.loadsDict (claimText server jobId) = .ok metadata →
        Rereads backend.codec
          (.ofDict ((metadata.set "host_id" (.str hostId)).set "worker_id" (.str workerId)))
  | .release _ now => ReadsTime backend.codec now
  | .updateStatus _ _ now => ReadsTime backend.codec now
  | _ => True

variable {backend} {server : RedisServer} {jobId : String} {now : Int}

/-- The keys are scanned one after the other, and a read changes nothing. -/
theorem run_allJobs (reads : ∀ jobId, ∃ found, backend.read server jobId = .ok found)
    (scanned : List String) :
    ∃ jobs, (backend.allJobs scanned).run RedisServer.exec server = (.ok jobs, server) := by
  induction scanned with
  | nil => exact ⟨[], rfl⟩
  | cons key rest ih =>
      obtain ⟨found, read⟩ := reads (lastSegment key)
      obtain ⟨jobs, listed⟩ := ih
      refine ⟨found.toList ++ jobs, ?_⟩
      unfold allJobs
      rw [Prog.run_bind, run_get, read]
      dsimp only
      rw [Prog.run_bind, listed]
      rfl

/-- On intact hashes, the reads return exactly when the statuses are known. -/
theorem readable_iff_known (intact : backend.Intact server) :
    backend.statusStore.Readable server ↔ backend.statusStore.Known server := by
  have shows : ∀ jobId, backend.contract.get jobId server = backend.read server jobId :=
    fun jobId => congrArg Prod.fst (backend.run_get server jobId)
  constructor
  · intro readable jobId cell shown
    obtain ⟨data, stored, rfl⟩ := Option.map_eq_some_iff.mp shown
    obtain ⟨found, got⟩ := readable.1 jobId
    have read := (shows jobId).symm.trans got
    unfold RedisQueueBackend.read at read
    rw [Dict.getD, stored, Option.getD_some, (intact jobId data stored).filled] at read
    cases decoded : backend.hashToJob data with
    | error error =>
        rw [decoded] at read
        cases read
    | ok job =>
        exact ⟨job.status.value, (backend.fields_of_hashToJob decoded).2, job.status, rfl⟩
  · intro known
    have reads : ∀ jobId, ∃ found, backend.read server jobId = .ok found := by
      intro jobId
      unfold RedisQueueBackend.read
      cases stored : server.hashes.get? jobId with
      | none =>
          rw [Dict.getD, stored]
          exact ⟨none, rfl⟩
      | some data =>
          obtain ⟨text, same, status, rfl⟩ := known jobId (data.get? "status")
            (Option.map_eq_some_iff.mpr ⟨data, stored, rfl⟩)
          have intactData := intact jobId data stored
          obtain ⟨job, decoded⟩ := (intactData.legible same).hashToJob
          refine ⟨some job, ?_⟩
          rw [Dict.getD, stored, Option.getD_some, intactData.filled, decoded]
          rfl
    refine ⟨fun jobId => ?_, fun scanned => ?_⟩
    · obtain ⟨found, read⟩ := reads jobId
      exact ⟨found, (shows jobId).trans read⟩
    · obtain ⟨jobs, listed⟩ := run_allJobs reads scanned
      exact ⟨jobs, congrArg Prod.fst listed⟩

theorem Intact.hset (intact : backend.Intact server) {mapping : Dict String String}
    (written : backend.LegibleBut ((server.hashes.getD jobId ∅).update mapping)) :
    backend.Intact (server.hset jobId mapping) :=
  Dict.forall_get?_set intact written

/-- A write to a stored hash. -/
theorem Intact.write (intact : backend.Intact server) {mapping : Dict String String}
    (stored : (server.hashes.get? jobId).isSome = true) (sound : backend.SoundBut mapping) :
    backend.Intact (server.hset jobId mapping) := by
  obtain ⟨data, found⟩ := Option.isSome_iff_exists.mp stored
  refine intact.hset ?_
  rw [Dict.getD, found]
  exact (intact jobId data found).update sound

theorem intact_enqueue (intact : backend.Intact server) {job : Job}
    (rereads : RereadsJob backend.codec job) :
    backend.Intact ((backend.enqueue job now).run RedisServer.exec server).2 := by
  have written : backend.Intact (server.hset job.jobId (backend.jobToHash job)) :=
    intact.hset ((backend.legible_jobToHash rereads).overwrite (backend.isSome_get?_jobToHash job)
      _).but
  exact written

theorem intact_claim (intact : backend.Intact server) {hostId workerId : String}
    (reads : backend.CodecReads server (.claim jobId hostId workerId now)) :
    backend.Intact ((backend.claim jobId hostId workerId now).run RedisServer.exec server).2 := by
  cases loaded : backend.loadsDict (claimText server jobId) with
  | error error =>
      rw [backend.run_claim_of_error server jobId now hostId workerId loaded]
      exact intact
  | ok metadata =>
      rw [backend.run_claim server jobId now hostId workerId loaded]
      dsimp only
      unfold RedisServer.claimScript
      split
      · exact intact
      · next waiting =>
          have stored := RedisServer.isSome_of_status? (not_not.mp waiting)
          have written := intact.write stored
            (sound_claim reads.1 (reads.2 metadata loaded) (hostId ++ ":" ++ workerId)).but
          dsimp only
          split
          · exact written
          · exact written

theorem intact_release (intact : backend.Intact server) (reads : ReadsTime backend.codec now) :
    backend.Intact ((backend.release jobId now).run RedisServer.exec server).2 := by
  rw [run_release]
  cases found : backend.read server jobId with
  | error error => exact intact
  | ok found? =>
      cases found? with
      | none => exact intact
      | some job =>
          have decoded := (decoded_of_read found).2
          have legible := (backend.legible_of_hashToJob decoded).1.update (sound_release reads)
          have written := intact.hset legible.but
          exact written

theorem intact_updateStatus (intact : backend.Intact server) (status : String)
    (reads : ReadsTime backend.codec now) :
    backend.Intact ((backend.updateStatus jobId status now).run RedisServer.exec server).2 := by
  rw [run_updateStatus]
  split
  · next stored =>
      have written := intact.write stored (soundBut_statusMapping reads status)
      unfold statusWritten
      dsimp only
      split
      all_goals
        split
        all_goals exact written
  · exact intact

variable (backend)

theorem overwrites (server : RedisServer) (jobId status : String) (now : Int) :
    backend.statusStore.Overwrites server jobId status now :=
  backend.updateStatus_cases server jobId now status

theorem laws : backend.statusStore.Laws
    (fun server op => op.MovesStatus ∧ backend.CodecReads server op) backend.Intact where
  readable _ intact := readable_iff_known intact
  kept server op premise intact := by
    cases op with
    | enqueue job now => exact intact_enqueue intact premise.2
    | claim jobId hostId workerId now => exact intact_claim intact premise.2
    | release jobId now => exact intact_release intact premise.2
    | updateStatus jobId status now => exact intact_updateStatus intact status premise.2
    | _ => exact premise.1.elim
  settles server op := by
    cases op with
    | updateStatus jobId status now => exact (backend.overwrites server jobId status now).settles
    | _ => trivial
  written server jobId status now _ _ := (backend.overwrites server jobId status now).written
  moved server op premise _ := by
    cases op with
    | enqueue job now =>
        exact .inr (.inr ⟨job.jobId, job.status, backend.standing_enqueue server now job⟩)
    | claim jobId hostId workerId now =>
        refine .inr ?_
        rcases backend.claim_cases server jobId now hostId workerId with
          ⟨error, ran⟩ | ⟨_, ran⟩ | ⟨_, _, moved⟩
        · exact .inl (congrArg RedisServer.standing (congrArg Prod.snd ran))
        · exact .inl (congrArg RedisServer.standing (congrArg Prod.snd ran))
        · exact .inr ⟨jobId, .running, moved⟩
    | release jobId now =>
        refine .inr ?_
        rcases backend.release_cases server jobId now with
          ⟨error, _, ran⟩ | ⟨_, ran⟩ | ⟨job, _, _, moved⟩
        · exact .inl (congrArg RedisServer.standing (congrArg Prod.snd ran))
        · exact .inl (congrArg RedisServer.standing (congrArg Prod.snd ran))
        · exact .inr ⟨jobId, .queued, moved⟩
    | updateStatus jobId status now => exact .inl ⟨jobId, status, now, rfl⟩
    | _ => exact premise.1.elim

end RedisQueueBackend

namespace StatusStore

/-- **When status writes leave the store readable.** From an empty store and for every
sequence of submissions, claims, releases and status writes: in the memory backend every
status write changes the status or leaves the store unchanged, and `get` and `all_jobs`
return in every state reached. In the SQL backend this holds exactly when every status that
is written to a stored job is a member of `JobStatus`, and so it does in the Redis backend
when the codec reads back what the calls write. -/
theorem status_writes_stay_readable_iff (ops : List BackendOp)
    (moves : ∀ op ∈ ops, op.MovesStatus) :
    MemoryQueueBackend.statusStore.StaysReadable .empty ops ∧
    (∀ backend : SQLQueueBackend,
      (backend.statusStore.StaysReadable .empty ops ↔
        Guarded backend.statusStore.step backend.statusStore.WritesMember .empty ops)) ∧
    (∀ backend : RedisQueueBackend,
      Guarded backend.statusStore.step backend.CodecReads .empty ops →
      (backend.statusStore.StaysReadable .empty ops ↔
        Guarded backend.statusStore.step backend.statusStore.WritesMember .empty ops)) := by
  refine ⟨MemoryQueueBackend.staysReadable .empty ops, ?_, ?_⟩
  · intro backend
    exact backend.laws.staysReadable_iff JobTable.sound_empty (.of_bare fun _ => rfl)
      (.of_forall moves)
  · intro backend reads
    exact backend.laws.staysReadable_iff backend.intact_empty (.of_bare fun _ => rfl)
      ((Guarded.of_forall moves).and reads)

/-- A submission and a status write. -/
def reportRun (status : String) : List BackendOp :=
  [.enqueue (RedisQueueBackend.plainJob "job" "report") 0, .updateStatus "job" status 0]

theorem moves_reportRun (status : String) : ∀ op ∈ reportRun status, op.MovesStatus := by
  simp only [reportRun, List.forall_mem_cons]
  exact ⟨trivial, trivial, fun _ member => absurd member List.not_mem_nil⟩

/-- A job that succeeds can be read in every backend. -/
theorem success_stays_readable :
    SQLQueueBackend.decodingBackend.statusStore.StaysReadable .empty (reportRun "succeeded") ∧
    RedisQueueBackend.plainBackend.statusStore.StaysReadable .empty (reportRun "succeeded") := by
  have exact := status_writes_stay_readable_iff _ (moves_reportRun "succeeded")
  have member : IsStatus "succeeded" := ⟨.succeeded, rfl⟩
  refine ⟨(exact.2.1 _).mpr ⟨trivial, fun _ => member, trivial⟩,
    (exact.2.2 _ ?_).mpr ⟨trivial, fun _ => member, trivial⟩⟩
  exact ⟨(RedisQueueBackend.encodes_plainJob "job" "report").rereads,
    RedisQueueBackend.readsTime_plain, trivial⟩

/-- A state of an extension is written by the SQL backend, and the job cannot be read
after. -/
theorem custom_state_is_unreadable :
    ¬ ∀ (backend : SQLQueueBackend) (ops : List BackendOp), (∀ op ∈ ops, op.MovesStatus) →
      backend.statusStore.StaysReadable .empty ops := by
  intro stays
  have readable := stays SQLQueueBackend.decodingBackend _ (moves_reportRun "awaiting_review")
  have guarded := (SQLQueueBackend.decodingBackend.laws.staysReadable_iff
    JobTable.sound_empty (.of_bare fun _ => rfl)
    (.of_forall (moves_reportRun "awaiting_review"))).mp readable
  obtain ⟨status, same⟩ := guarded.2.1 rfl
  cases status <;> exact absurd same (by decide)

end StatusStore

end CloudDogJobs
