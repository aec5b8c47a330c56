import CloudDogJobs.Backend.RedisSequential
import CloudDogJobs.Domain.Numerals

/-!
# The hash of a job

What `_hash_to_job` reads from the hash that `_job_to_hash` writes. An empty text
stands for a missing value, so an optional field that is empty comes back missing;
the time of the next run is not written at all.
-/

namespace CloudDogJobs

open Foundation

namespace RedisQueueBackend

variable (backend : RedisQueueBackend)

/-- An empty text counts as missing. -/
def nonEmpty (text : Option String) : Option String :=
  if optText text = "" then none else some (optText text)

/-- An empty dictionary counts as missing. -/
def nonEmptyDict : Option (Dict String Value) → Option (Dict String Value)
  | none => none
  | some dict => if dict.isEmpty then none else some dict

/-- What a job keeps in its hash. -/
def kept (job : Job) : Job :=
  { job with
    claimedBy := nonEmpty job.claimedBy
    nextRunAt := none
    lastError := nonEmptyDict job.lastError
    resultRef := (nonEmpty (Value.toOptStr job.resultRef)).map .str
    progress := nonEmptyDict job.progress
    traceId := nonEmpty job.traceId }

/-- The codec reads the value back from the text that it writes, and that text is
not empty. -/
def Reads (codec : TextCodec) (value : Value) : Prop :=
  codec.loads (codec.dumps value) = .ok value ∧ codec.dumps value ≠ ""

/-- The same for a timestamp. -/
def ReadsTime (codec : TextCodec) (time : Int) : Prop :=
  codec.fromisoformat (codec.isoformat time) = .ok time ∧ codec.isoformat time ≠ ""

/-- The codec reads back every value that the hash of the job holds as a text. -/
structure Encodes (codec : TextCodec) (job : Job) : Prop where
  payload : Reads codec (.ofDict job.payload)
  metadata : Reads codec (.ofDict job.toMetaDict)
  resources : Reads codec (.ofIntDict job.resources)
  dependsOn : Reads codec (.ofStrList job.dependsOn)
  lastError : ∀ dict ∈ job.lastError, Reads codec (.ofDict dict)
  progress : ∀ dict ∈ job.progress, Reads codec (.ofDict dict)
  createdAt : ReadsTime codec job.createdAt
  updatedAt : ReadsTime codec job.updatedAt
  startedAt : ∀ time ∈ job.startedAt, ReadsTime codec time
  finishedAt : ∀ time ∈ job.finishedAt, ReadsTime codec time
  lastHeartbeatAt : ∀ time ∈ job.lastHeartbeatAt, ReadsTime codec time

section Fields

variable {backend} {data : Dict String String} {key : String}

theorem orElse_of_get? {text fallback : String} (stored : data.get? key = some text)
    (filled : text ≠ "") : orElse data key fallback = text := by
  unfold orElse
  rw [stored]
  exact if_neg filled

theorem optional_of_get? (text : Option String) (stored : data.get? key = some (optText text)) :
    optional data key = nonEmpty text := by
  unfold optional nonEmpty
  rw [stored]

theorem loadsDict_ofDict {dict : Dict String Value} (reads : Reads backend.codec (.ofDict dict)) :
    backend.loadsDict (backend.codec.dumps (.ofDict dict)) = .ok dict := by
  unfold loadsDict
  rw [reads.1]
  show Except.ok (Dict.ofList dict.entries) = .ok dict
  rw [Dict.ofList_entries]

/-- An optional field that is written through an encoding is read back through its
inverse. -/
theorem optDecoded_of_get? {α : Type} (value : Option α) (encode : α → String)
    {decode : String → Except PyError α}
    (stored : data.get? key = some (optText (value.map encode)))
    (inverts : ∀ inner ∈ value, decode (encode inner) = .ok inner ∧ encode inner ≠ "") :
    optDecoded data decode key = .ok value := by
  unfold optDecoded
  rw [optional_of_get? (value.map encode) stored]
  cases value with
  | none => rfl
  | some inner =>
      obtain ⟨decoded, filled⟩ := inverts inner rfl
      have present : nonEmpty ((some inner).map encode) = some (encode inner) := if_neg filled
      rw [present]
      simp only []
      rw [decoded]
      rfl

/-- The same for an optional dictionary, where an empty one counts as missing. -/
theorem optDecoded_of_optDictText {value : Option (Dict String Value)}
    (stored : data.get? key = some (optDictText backend.codec value))
    (inverts : ∀ dict ∈ value, Reads backend.codec (.ofDict dict)) :
    optDecoded data backend.loadsDict key = .ok (nonEmptyDict value) := by
  cases value with
  | none =>
      have missing : optional data key = none := optional_of_get? none stored
      unfold optDecoded
      rw [missing]
      rfl
  | some dict =>
      simp only [optDictText] at stored
      simp only [nonEmptyDict]
      by_cases empty : dict.isEmpty = true
      · rw [if_pos empty] at stored ⊢
        have missing : optional data key = none := optional_of_get? none stored
        unfold optDecoded
        rw [missing]
      · rw [if_neg empty] at stored ⊢
        apply optDecoded_of_get? (some dict) (fun dict => backend.codec.dumps (.ofDict dict)) stored
        intro inner same
        obtain rfl := Option.some.inj same
        have reads := inverts dict rfl
        exact ⟨loadsDict_ofDict reads, reads.2⟩

variable (data)

theorem required_of_get? (key : String) {text : String} (stored : data.get? key = some text) :
    required data key = .ok text := by
  unfold required
  rw [stored]

theorem parseInt_orElse (key fallback : String) {value : Int}
    (stored : data.get? key = some (toString value)) :
    parseInt (orElse data key fallback) = .ok value := by
  rw [orElse_of_get? stored (toString_ne_empty value), parseInt_toString]

theorem optDecoded_parseInt (key : String) {value : Option Int}
    (stored : data.get? key = some (optText (value.map toString))) :
    optDecoded data parseInt key = .ok value :=
  optDecoded_of_get? value toString stored fun inner _ =>
    ⟨parseInt_toString inner, toString_ne_empty inner⟩

theorem optDecoded_fromisoformat (codec : TextCodec) (key : String) {value : Option Int}
    (stored : data.get? key = some (optText (value.map codec.isoformat)))
    (reads : ∀ time ∈ value, ReadsTime codec time) :
    optDecoded data codec.fromisoformat key = .ok value :=
  optDecoded_of_get? value codec.isoformat stored reads

theorem toOptStr_of_get? (metadata : Dict String Value) (key : String) (value : Option String)
    (stored : metadata.get? key = some (.ofOptStr value)) :
    Value.toOptStr (metadata.get? key) = value := by
  rw [stored, Value.toOptStr_ofOptStr]

end Fields

/-- The hash of a job with another text for its progress. -/
def progressHash (job : Job) (text : String) : Dict String String :=
  (backend.jobToHash job).set "progress" text

/-- What comes back from the hash of a job, whatever its progress reads as. -/
theorem hashToJob_progressHash {job : Job} (encodes : Encodes backend.codec job) {written : String}
    {progress : Option (Dict String Value)}
    (shown : optDecoded (backend.progressHash job written) backend.loadsDict "progress" =
      .ok progress) :
    backend.hashToJob (backend.progressHash job written) =
      .ok { kept job with progress := progress } := by
  have get := required_of_get? (backend.progressHash job written)
  have number := parseInt_orElse (backend.progressHash job written)
  have optionalInt := optDecoded_parseInt (backend.progressHash job written)
  have time := optDecoded_fromisoformat (backend.progressHash job written) backend.codec
  have dict : ∀ (key : String) {value : Option (Dict String Value)},
      (backend.progressHash job written).get? key = some (optDictText backend.codec value) →
      (∀ dict ∈ value, Reads backend.codec (.ofDict dict)) →
      optDecoded (backend.progressHash job written) backend.loadsDict key =
        .ok (nonEmptyDict value) :=
    fun _ _ => optDecoded_of_optDictText
  have text : ∀ (key : String) (value : Option String),
      (backend.progressHash job written).get? key = some (optText value) →
      optional (backend.progressHash job written) key = nonEmpty value :=
    fun _ => optional_of_get?
  have metadata : orElse (backend.progressHash job written) "meta" "\x7b\x7d" =
      backend.codec.dumps (.ofDict job.toMetaDict) :=
    orElse_of_get? rfl encodes.metadata.2
  have resources : orElse (backend.progressHash job written) "resources" "\x7b\x7d" =
      backend.codec.dumps (.ofIntDict job.resources) :=
    orElse_of_get? rfl encodes.resources.2
  have dependsOn : orElse (backend.progressHash job written) "depends_on" "[]" =
      backend.codec.dumps (.ofStrList job.dependsOn) :=
    orElse_of_get? rfl encodes.dependsOn.2
  unfold hashToJob
  simp only [metadata, resources, dependsOn, loadsDict_ofDict encodes.metadata,
    loadsDict_ofDict encodes.payload, encodes.resources.1, encodes.dependsOn.1, ok_bind,
    get "job_id" rfl, get "job_type" rfl, get "queue_name" rfl, get "payload" rfl,
    get "status" rfl, get "priority" rfl, get "created_at" rfl, get "updated_at" rfl,
    JobStatus.parse_value, parseInt_toString, encodes.createdAt.1, encodes.updatedAt.1,
    number "attempt" "0" rfl, number "max_attempts" "3" rfl, number "version" "0" rfl,
    time "started_at" rfl encodes.startedAt, time "finished_at" rfl encodes.finishedAt,
    time "last_heartbeat_at" rfl encodes.lastHeartbeatAt,
    dict "last_error" rfl encodes.lastError, shown,
    optionalInt "run_timeout_ms" rfl, optionalInt "claim_timeout_ms" rfl,
    text "claimed_by" job.claimedBy rfl, text "result_ref" (Value.toOptStr job.resultRef) rfl,
    text "trace_id" job.traceId rfl]
  have headers : (job.toMetaDict.getD "callback_headers" .none).strItems =
      job.callbackHeaders.entries := Value.strItems_ofStrDict job.callbackHeaders
  have field := toOptStr_of_get? job.toMetaDict
  simp only [headers, Dict.ofList_entries, Value.toIntDict_ofIntDict, Value.toStrList_ofStrList,
    field "app_id" job.appId rfl, field "tenant_id" job.tenantId rfl,
    field "host_id" job.hostId rfl, field "worker_id" job.workerId rfl,
    field "idempotency_key" job.idempotencyKey rfl, field "correlation_id" job.correlationId rfl,
    field "user_id" job.userId rfl, field "session_id" job.sessionId rfl,
    field "channel_id" job.channelId rfl, field "callback_url" job.callbackUrl rfl,
    field "callback_method" (some job.callbackMethod) rfl,
    field "request_source" job.requestSource rfl, field "request_ip" job.requestIp rfl,
    field "request_auth_method" job.requestAuthMethod rfl,
    field "request_auth_identity" job.requestAuthIdentity rfl,
    field "request_user_agent" job.requestUserAgent rfl]
  rfl

/-- What comes back from the hash of a job. -/
theorem hashToJob_jobToHash {job : Job} (encodes : Encodes backend.codec job) :
    backend.hashToJob (backend.jobToHash job) = .ok (kept job) := by
  have same : backend.jobToHash job =
      backend.progressHash job (optDictText backend.codec job.progress) :=
    Dict.ext_entries rfl
  rw [same]
  exact backend.hashToJob_progressHash encodes (optDecoded_of_optDictText rfl encodes.progress)

/-! ## What is lost, and what is stable -/

/-- The optional texts and dictionaries of the hash are missing or not empty, and
the result is a text. -/
structure Filled (job : Job) : Prop where
  claimedBy : job.claimedBy ≠ some ""
  traceId : job.traceId ≠ some ""
  resultRef : ∀ value ∈ job.resultRef, ∃ text, value = .str text ∧ text ≠ ""
  lastError : ∀ dict ∈ job.lastError, dict.isEmpty = false
  progress : ∀ dict ∈ job.progress, dict.isEmpty = false

theorem nonEmpty_of_ne {text : Option String} (filled : text ≠ some "") :
    nonEmpty text = text := by
  cases text with
  | none => rfl
  | some text =>
      refine if_neg ?_
      rintro rfl
      exact filled rfl

theorem nonEmptyDict_of_filled {value : Option (Dict String Value)}
    (filled : ∀ dict ∈ value, dict.isEmpty = false) : nonEmptyDict value = value := by
  cases value with
  | none => rfl
  | some dict => simp only [nonEmptyDict, filled dict rfl, Bool.false_eq_true, ↓reduceIte]

/-- Of a job whose optional fields are filled, the hash keeps everything but the
time of the next run. -/
theorem kept_of_filled {job : Job} (filled : Filled job) :
    kept job = { job with nextRunAt := none } := by
  have result : (nonEmpty (Value.toOptStr job.resultRef)).map Value.str = job.resultRef := by
    cases stored : job.resultRef with
    | none => rfl
    | some value =>
        obtain ⟨text, rfl, present⟩ := filled.resultRef value stored
        rw [Value.toOptStr_str, nonEmpty_of_ne (by simpa using present)]
        rfl
  unfold kept
  rw [nonEmpty_of_ne filled.claimedBy, nonEmpty_of_ne filled.traceId, result,
    nonEmptyDict_of_filled filled.lastError, nonEmptyDict_of_filled filled.progress]

/-- **When the encoding is lossless.** A job whose optional fields are missing or
filled is read back from its hash in every field exactly when it has no time of a
next run. -/
theorem encoding_lossless_iff {job : Job} (encodes : Encodes backend.codec job)
    (filled : Filled job) :
    backend.hashToJob (backend.jobToHash job) = .ok job ↔ job.nextRunAt = none := by
  rw [backend.hashToJob_jobToHash encodes, kept_of_filled filled]
  constructor
  · intro same
    rw [← Except.ok.inj same]
  · intro unscheduled
    rw [← unscheduled]

@[simp] theorem optText_nonEmpty (text : Option String) :
    optText (nonEmpty text) = optText text := by
  unfold nonEmpty
  split
  · next empty => exact empty.symm
  · rfl

@[simp] theorem optDictText_nonEmptyDict (value : Option (Dict String Value)) :
    optDictText backend.codec (nonEmptyDict value) = optDictText backend.codec value := by
  cases value with
  | none => rfl
  | some dict =>
      cases empty : dict.isEmpty with
      | true => simp only [nonEmptyDict, optDictText, empty, ↓reduceIte]
      | false => simp only [nonEmptyDict, optDictText, empty, Bool.false_eq_true, ↓reduceIte]

/-- What a job loses in its hash is not in the hash. -/
theorem jobToHash_kept (job : Job) : backend.jobToHash (kept job) = backend.jobToHash job := by
  have result : optText (Value.toOptStr ((nonEmpty (Value.toOptStr job.resultRef)).map .str)) =
      optText (Value.toOptStr job.resultRef) := by
    rw [← optText_nonEmpty (Value.toOptStr job.resultRef)]
    cases nonEmpty (Value.toOptStr job.resultRef) <;> rfl
  have metadata : (kept job).toMetaDict = job.toMetaDict := rfl
  apply Dict.ext_entries
  simp only [jobToHash, metadata]
  simp only [kept, optText_nonEmpty, optDictText_nonEmptyDict, result]

/-- Read the hash and store what was read, a number of times. -/
def restored (data : Dict String String) : Nat → Except PyError (Dict String String)
  | 0 => .ok data
  | cycles + 1 => do
      let job ← backend.hashToJob (← restored data cycles)
      return backend.jobToHash job

/-- **The stored hash is stable.** A job is read back from its hash, and writing
what was read gives the same hash, after any number of such cycles; empty texts,
empty dictionaries and zeros make no difference. -/
theorem stored_hash_stable {job : Job} (encodes : Encodes backend.codec job) :
    (∃ read, backend.hashToJob (backend.jobToHash job) = .ok read ∧
      backend.jobToHash read = backend.jobToHash job) ∧
    ∀ cycles, backend.restored (backend.jobToHash job) cycles = .ok (backend.jobToHash job) := by
  have read := backend.hashToJob_jobToHash encodes
  have same := backend.jobToHash_kept job
  refine ⟨⟨kept job, read, same⟩, fun cycles => ?_⟩
  induction cycles with
  | zero => rfl
  | succ cycles ih =>
      rw [restored, ih]
      change (backend.hashToJob (backend.jobToHash job) >>= fun read =>
        .ok (backend.jobToHash read)) = .ok (backend.jobToHash job)
      rw [read]
      exact congrArg Except.ok same

/-- A job is read back from the hash that was written for it. -/
theorem read_of_hash {server : RedisServer} {jobId : String} {job : Job}
    (encodes : Encodes backend.codec job)
    (stored : server.hashes.getD jobId ∅ = backend.jobToHash job) :
    backend.read server jobId = .ok (some (kept job)) := by
  unfold read
  rw [stored, backend.hashToJob_jobToHash encodes]
  rfl

/-- A claim decodes the metadata of the hash that was written for the job. -/
theorem loadsDict_claimText {server : RedisServer} {jobId : String} {job : Job}
    (encodes : Encodes backend.codec job)
    (stored : server.hashes.getD jobId ∅ = backend.jobToHash job) :
    backend.loadsDict (claimText server jobId) = .ok job.toMetaDict := by
  have text : claimText server jobId = backend.codec.dumps (.ofDict job.toMetaDict) := by
    unfold claimText RedisServer.field
    rw [stored]
    exact if_neg encodes.metadata.2
  rw [text, loadsDict_ofDict encodes.metadata]

section Sample

/-- A codec that reads the texts of the given values. -/
def knownCodec (known : List Value) : TextCodec where
  dumps := Value.dumps
  loads text :=
    match known.find? fun value => value.dumps = text with
    | some value => .ok value
    | none => .error (.valueError "Expecting value: line 1 column 1 (char 0)")
  isoformat _ := "1970-01-01T00:00:00+00:00"
  fromisoformat _ := .ok 0

theorem loads_knownCodec {known : List Value} (distinct : (known.map Value.dumps).Nodup)
    {value : Value} (member : value ∈ known) :
    (knownCodec known).loads value.dumps = .ok value :=
  Value.loadsKnown_dumps distinct member

/-- Two workers and a maintenance loop, as the clients of a server. -/
inductive Party
  | first
  | second
  | maintenance
  deriving DecidableEq

/-- A plain job submitted at time zero. -/
def plainJob (jobId jobType : String) : Job := .fromRequest { jobType := jobType } jobId 0

/-- Such a job after a worker of the host has claimed it, at time zero. -/
def claimedJob (jobId jobType worker : String) : Job :=
  { plainJob jobId jobType with
    status := .running
    hostId := some "host"
    workerId := some worker
    claimedBy := some ("host" ++ ":" ++ worker)
    startedAt := some 0
    lastHeartbeatAt := some 0 }

/-- The values that the hashes of such jobs hold, for two workers. -/
def plainValues : List Value :=
  [.dict [], .list [], .ofDict (plainJob "" "").toMetaDict,
    .ofDict (claimedJob "" "" "first").toMetaDict, .ofDict (claimedJob "" "" "second").toMetaDict]

theorem plainValues_distinct : (plainValues.map Value.dumps).Nodup := by decide +kernel

/-- A backend whose codec reads back what it writes for such jobs at time zero. -/
def plainBackend : RedisQueueBackend where
  codec := knownCodec plainValues

theorem reads_plain {value : Value} (member : value ∈ plainValues) :
    Reads plainBackend.codec value := by
  refine ⟨loads_knownCodec plainValues_distinct member, ?_⟩
  have filled : ∀ text ∈ plainValues.map Value.dumps, text ≠ "" := by decide +kernel
  exact filled value.dumps (List.mem_map_of_mem member)

theorem readsTime_plain : ReadsTime plainBackend.codec 0 := ⟨rfl, by decide⟩

theorem encodes_plainJob (jobId jobType : String) :
    Encodes plainBackend.codec (plainJob jobId jobType) where
  payload := reads_plain (.head _)
  metadata := reads_plain (.tail _ (.tail _ (.head _)))
  resources := reads_plain (.head _)
  dependsOn := reads_plain (.tail _ (.head _))
  lastError _ member := by cases member
  progress _ member := by cases member
  createdAt := readsTime_plain
  updatedAt := readsTime_plain
  startedAt _ member := by cases member
  finishedAt _ member := by cases member
  lastHeartbeatAt _ member := by cases member

/-- A claimed job, whatever its status and claimant have become. -/
theorem encodes_claimedJob (jobId jobType : String) {worker : String}
    (known : worker = "first" ∨ worker = "second") (status : JobStatus)
    (claimedBy : Option String) :
    Encodes plainBackend.codec
      { claimedJob jobId jobType worker with status := status, claimedBy := claimedBy } where
  payload := reads_plain (.head _)
  metadata := by
    rcases known with rfl | rfl
    · exact reads_plain (.tail _ (.tail _ (.tail _ (.head _))))
    · exact reads_plain (.tail _ (.tail _ (.tail _ (.tail _ (.head _)))))
  resources := reads_plain (.head _)
  dependsOn := reads_plain (.tail _ (.head _))
  lastError _ member := by cases member
  progress _ member := by cases member
  createdAt := readsTime_plain
  updatedAt := readsTime_plain
  startedAt _ member := Option.some.inj member ▸ readsTime_plain
  finishedAt _ member := by cases member
  lastHeartbeatAt _ member := Option.some.inj member ▸ readsTime_plain

/-- A running job whose claimant is an empty text. -/
theorem unnamed_claimant_hash_stable :
    plainBackend.restored (plainBackend.jobToHash
        { claimedJob "job" "task" "first" with status := .running, claimedBy := some "" }) 2 =
      .ok (plainBackend.jobToHash
        { claimedJob "job" "task" "first" with status := .running, claimedBy := some "" }) :=
  (plainBackend.stored_hash_stable
    (encodes_claimedJob "job" "task" (.inl rfl) .running (some ""))).2 2

theorem filled_plainJob (jobId jobType : String) (nextRunAt : Option Int) :
    Filled { plainJob jobId jobType with nextRunAt := nextRunAt } where
  claimedBy := nofun
  traceId := nofun
  resultRef _ stored := by cases stored
  lastError _ stored := by cases stored
  progress _ stored := by cases stored

/-- The priority is a numeral, and the time of the next run is not encoded. -/
theorem encodes_planned (jobId jobType : String) (priority : Int) (nextRunAt : Option Int) :
    Encodes plainBackend.codec
      { plainJob jobId jobType with priority := priority, nextRunAt := nextRunAt } where
  payload := (encodes_plainJob jobId jobType).payload
  metadata := (encodes_plainJob jobId jobType).metadata
  resources := (encodes_plainJob jobId jobType).resources
  dependsOn := (encodes_plainJob jobId jobType).dependsOn
  lastError := (encodes_plainJob jobId jobType).lastError
  progress := (encodes_plainJob jobId jobType).progress
  createdAt := readsTime_plain
  updatedAt := readsTime_plain
  startedAt := (encodes_plainJob jobId jobType).startedAt
  finishedAt := (encodes_plainJob jobId jobType).finishedAt
  lastHeartbeatAt := (encodes_plainJob jobId jobType).lastHeartbeatAt

/-- A job that failed once and then succeeded, with every field set but the time of the
next run. -/
def finishedJob : Job where
  jobId := "job"
  jobType := "report"
  queueName := "nightly"
  payload := (Dict.empty.set "title" (.str "sales")).set "pages" (.int 3)
  status := .succeeded
  priority := -2
  createdAt := 0
  updatedAt := 61000000
  appId := some "press"
  tenantId := some "physics"
  hostId := some "host"
  workerId := some "first"
  idempotencyKey := some "run-1"
  correlationId := some "trace-1"
  userId := some "ann"
  sessionId := some "session-1"
  channelId := some "mail"
  callbackUrl := some "http://press/done"
  callbackMethod := "PUT"
  callbackHeaders := Dict.empty.set "X-Run" "1"
  requestSource := some "api"
  requestIp := some "10.0.0.1"
  requestAuthMethod := some "token"
  requestAuthIdentity := some "ann"
  requestUserAgent := some "curl"
  claimedBy := some "host:first"
  resources := Dict.empty.set "gpu" 1
  dependsOn := ["draft"]
  attempt := 2
  maxAttempts := 5
  startedAt := some 1000000
  finishedAt := some 61000000
  lastHeartbeatAt := some 1000000
  lastError := some (Dict.empty.set "message" (.str "no paper"))
  resultRef := some (.str "reports/sales")
  progress := some (Dict.empty.set "percent" (.int 100))
  runTimeoutMs := some 90000
  claimTimeoutMs := some 30000
  traceId := some "trace-1"
  version := 4

/-- The values that its hash holds as texts. -/
def finishedValues : List Value :=
  [.ofDict finishedJob.payload, .ofDict finishedJob.toMetaDict,
    .ofIntDict finishedJob.resources, .ofStrList finishedJob.dependsOn,
    .ofDict (Dict.empty.set "message" (.str "no paper")),
    .ofDict (Dict.empty.set "percent" (.int 100))]

/-- The times of its life, as they are written. -/
def finishedTimes : List (Int × String) :=
  [(0, "1970-01-01T00:00:00+00:00"), (1000000, "1970-01-01T00:00:01+00:00"),
    (61000000, "1970-01-01T00:01:01+00:00")]

/-- A backend whose codec reads back what it writes for these values and times. -/
def finishedBackend : RedisQueueBackend where
  codec :=
    { knownCodec finishedValues with
      isoformat := fun time =>
        ((finishedTimes.find? fun entry => entry.1 = time).map Prod.snd).getD ""
      fromisoformat := fun text =>
        match finishedTimes.find? fun entry => entry.2 = text with
        | some entry => .ok entry.1
        | none => .error (.valueError "Invalid isoformat string") }

theorem reads_finished {value : Value} (member : value ∈ finishedValues) :
    Reads finishedBackend.codec value := by
  have distinct : (finishedValues.map Value.dumps).Nodup := by decide +kernel
  have filled : ∀ text ∈ finishedValues.map Value.dumps, text ≠ "" := by decide +kernel
  exact ⟨loads_knownCodec distinct member, filled value.dumps (List.mem_map_of_mem member)⟩

theorem readsTime_finished :
    ReadsTime finishedBackend.codec 0 ∧ ReadsTime finishedBackend.codec 1000000 ∧
      ReadsTime finishedBackend.codec 61000000 := by
  refine ⟨⟨rfl, ?_⟩, ⟨rfl, ?_⟩, ⟨rfl, ?_⟩⟩ <;> decide

theorem encodes_finishedJob : Encodes finishedBackend.codec finishedJob where
  payload := reads_finished (.head _)
  metadata := reads_finished (.tail _ (.head _))
  resources := reads_finished (.tail _ (.tail _ (.head _)))
  dependsOn := reads_finished (.tail _ (.tail _ (.tail _ (.head _))))
  lastError _ member := Option.some.inj member ▸
    reads_finished (.tail _ (.tail _ (.tail _ (.tail _ (.head _)))))
  progress _ member := Option.some.inj member ▸
    reads_finished (.tail _ (.tail _ (.tail _ (.tail _ (.tail _ (.head _))))))
  createdAt := readsTime_finished.1
  updatedAt := readsTime_finished.2.2
  startedAt _ member := Option.some.inj member ▸ readsTime_finished.2.1
  finishedAt _ member := Option.some.inj member ▸ readsTime_finished.2.2
  lastHeartbeatAt _ member := Option.some.inj member ▸ readsTime_finished.2.1

theorem filled_finishedJob : Filled finishedJob where
  claimedBy := by decide
  traceId := by decide
  resultRef _ stored := Option.some.inj stored ▸ ⟨"reports/sales", rfl, by decide⟩
  lastError _ stored := Option.some.inj stored ▸ rfl
  progress _ stored := Option.some.inj stored ▸ rfl

theorem finished_job_reads_back :
    finishedBackend.hashToJob (finishedBackend.jobToHash finishedJob) = .ok finishedJob :=
  (finishedBackend.encoding_lossless_iff encodes_finishedJob filled_finishedJob).mpr rfl

/-- A job that waits for its next run comes back without the time. -/
theorem next_run_is_lost :
    ¬ ∀ (backend : RedisQueueBackend) (job : Job), Encodes backend.codec job → Filled job →
      backend.hashToJob (backend.jobToHash job) = .ok job := by
  intro lossless
  have encodes := encodes_planned "job" "task" 0 (some 0)
  have same := lossless plainBackend _ encodes (filled_plainJob "job" "task" (some 0))
  rw [plainBackend.hashToJob_jobToHash encodes] at same
  exact absurd (congrArg Job.nextRunAt (Except.ok.inj same)) nofun

end Sample

end RedisQueueBackend

end CloudDogJobs
