import CloudDogJobs.Backend.RedisEncoding

/-!
# Which hashes decode

`_hash_to_job` reads each field of a hash through a decoder of its own, and raises when
one of them does. A hash is legible when every field passes its check, and a write keeps
it legible when what it writes passes.
-/

namespace CloudDogJobs

open Foundation

namespace RedisQueueBackend

variable (backend : RedisQueueBackend)

section Cells

variable {α : Type} (decode : String → Except PyError α)

/-- The decoder returns. -/
def Accepts (text : String) : Prop := ∃ value, decode text = .ok value

/-- A field that must be there. -/
def Required (cell : Option String) : Prop := ∃ text, cell = some text ∧ Accepts decode text

/-- A field with a fallback for a missing or empty text. -/
def Defaulted (fallback : String) (cell : Option String) : Prop :=
  Accepts decode (match cell with
    | some text => if text = "" then fallback else text
    | none => fallback)

/-- A field that is not decoded when it is missing or empty. -/
def Blankable (cell : Option String) : Prop := ∀ text, cell = some text → text ≠ "" →
  Accepts decode text

end Cells

section Codec

/-- The codec reads the text that it writes for the value, an object as an object. -/
def Rereads (codec : TextCodec) (value : Value) : Prop :=
  codec.dumps value ≠ "" ∧ ∃ read, codec.loads (codec.dumps value) = .ok read ∧
    ∀ items, value = .dict items → ∃ kept, read = .dict kept

theorem Reads.rereads {codec : TextCodec} {value : Value} (reads : Reads codec value) :
    Rereads codec value :=
  ⟨reads.2, value, reads.1, fun items same => ⟨items, same⟩⟩

/-- The codec reads every text that the hash of the job holds. -/
structure RereadsJob (codec : TextCodec) (job : Job) : Prop where
  payload : Rereads codec (.ofDict job.payload)
  metadata : Rereads codec (.ofDict job.toMetaDict)
  resources : Rereads codec (.ofIntDict job.resources)
  dependsOn : Rereads codec (.ofStrList job.dependsOn)
  lastError : ∀ dict ∈ job.lastError, Rereads codec (.ofDict dict)
  progress : ∀ dict ∈ job.progress, Rereads codec (.ofDict dict)
  createdAt : ReadsTime codec job.createdAt
  updatedAt : ReadsTime codec job.updatedAt
  startedAt : ∀ time ∈ job.startedAt, ReadsTime codec time
  finishedAt : ∀ time ∈ job.finishedAt, ReadsTime codec time
  lastHeartbeatAt : ∀ time ∈ job.lastHeartbeatAt, ReadsTime codec time

theorem Encodes.rereads {codec : TextCodec} {job : Job} (encodes : Encodes codec job) :
    RereadsJob codec job where
  payload := encodes.payload.rereads
  metadata := encodes.metadata.rereads
  resources := encodes.resources.rereads
  dependsOn := encodes.dependsOn.rereads
  lastError dict held := (encodes.lastError dict held).rereads
  progress dict held := (encodes.progress dict held).rereads
  createdAt := encodes.createdAt
  updatedAt := encodes.updatedAt
  startedAt := encodes.startedAt
  finishedAt := encodes.finishedAt
  lastHeartbeatAt := encodes.lastHeartbeatAt

variable {backend}

theorem accepts_loadsDict {dict : Dict String Value}
    (reads : Rereads backend.codec (.ofDict dict)) :
    Accepts backend.loadsDict (backend.codec.dumps (.ofDict dict)) := by
  obtain ⟨_, read, loaded, objects⟩ := reads
  obtain ⟨kept, rfl⟩ := objects dict.entries rfl
  refine ⟨.ofList kept, ?_⟩
  unfold loadsDict
  rw [loaded]
  rfl

theorem accepts_loads {value : Value} (reads : Rereads backend.codec value) :
    Accepts backend.codec.loads (backend.codec.dumps value) := by
  obtain ⟨_, read, loaded, _⟩ := reads
  exact ⟨read, loaded⟩

variable {α : Type} {decode : String → Except PyError α}

theorem required_of_accepts {text : String} (accepts : Accepts decode text) :
    Required decode (some text) := ⟨text, rfl, accepts⟩

theorem defaulted_of_accepts {text fallback : String} (filled : text ≠ "")
    (accepts : Accepts decode text) : Defaulted decode fallback (some text) := by
  unfold Defaulted
  dsimp only
  rw [if_neg filled]
  exact accepts

theorem blankable_of_accepts {β : Type} {value : Option β} {encode : β → String}
    (accepts : ∀ inner ∈ value, Accepts decode (encode inner)) :
    Blankable decode (some (optText (value.map encode))) := by
  intro text same filled
  obtain rfl := Option.some.inj same
  cases value with
  | none => exact absurd rfl filled
  | some inner => exact accepts inner rfl

theorem blankable_optDictText {value : Option (Dict String Value)}
    (reads : ∀ dict ∈ value, Rereads backend.codec (.ofDict dict)) :
    Blankable backend.loadsDict (some (optDictText backend.codec value)) := by
  intro text same filled
  obtain rfl := Option.some.inj same
  cases value with
  | none => exact absurd rfl filled
  | some dict =>
      unfold optDictText at filled ⊢
      dsimp only at filled ⊢
      split at filled
      · exact absurd rfl filled
      · next full =>
          rw [if_neg full]
          exact accepts_loadsDict (reads dict rfl)

end Codec

/-- The fields that `_hash_to_job` decodes, each with its check. -/
def checks : Dict String (Option String → Prop) where
  entries :=
    [("meta", Defaulted backend.loadsDict "\x7b\x7d"),
     ("job_id", Required (α := String) .ok),
     ("job_type", Required (α := String) .ok),
     ("queue_name", Required (α := String) .ok),
     ("payload", Required backend.loadsDict),
     ("status", Required JobStatus.parse),
     ("priority", Required parseInt),
     ("created_at", Required backend.codec.fromisoformat),
     ("updated_at", Required backend.codec.fromisoformat),
     ("resources", Defaulted backend.codec.loads "\x7b\x7d"),
     ("depends_on", Defaulted backend.codec.loads "[]"),
     ("attempt", Defaulted parseInt "0"),
     ("max_attempts", Defaulted parseInt "3"),
     ("started_at", Blankable backend.codec.fromisoformat),
     ("finished_at", Blankable backend.codec.fromisoformat),
     ("last_heartbeat_at", Blankable backend.codec.fromisoformat),
     ("last_error", Blankable backend.loadsDict),
     ("progress", Blankable backend.loadsDict),
     ("run_timeout_ms", Blankable parseInt),
     ("claim_timeout_ms", Blankable parseInt),
     ("version", Defaulted parseInt "0")]
  nodup := by simp

/-- Every field passes its check. -/
def Legible (data : Dict String String) : Prop :=
  ∀ check ∈ backend.checks.entries, check.2 (data.get? check.1)

/-- The text passes the check of the field, when there is one. -/
def Passes (key text : String) : Prop :=
  ∀ check, backend.checks.get? key = some check → check (some text)

/-- Every written text passes. -/
def Sound (mapping : Dict String String) : Prop :=
  ∀ key text, mapping.get? key = some text → backend.Passes key text

section Decoding

variable {data : Dict String String} {α : Type} {decode : String → Except PyError α}
  {key : String}

theorem required_iff :
    Required decode (data.get? key) ↔
      ∃ text value, required data key = .ok text ∧ decode text = .ok value := by
  constructor
  · intro present
    obtain ⟨text, stored, value, decoded⟩ := present
    exact ⟨text, value, required_of_get? data key stored, decoded⟩
  · intro read
    obtain ⟨text, value, found, decoded⟩ := read
    exact ⟨text, get?_of_required found, value, decoded⟩

theorem defaulted_iff {fallback : String} :
    Defaulted decode fallback (data.get? key) ↔
      ∃ value, decode (orElse data key fallback) = .ok value := Iff.rfl

theorem blankable_iff :
    Blankable decode (data.get? key) ↔ ∃ value, optDecoded data decode key = .ok value := by
  unfold Blankable Accepts optDecoded optional
  cases data.get? key with
  | none => simp
  | some text =>
      by_cases empty : text = ""
      · simp [empty]
      · simp only [Option.some.injEq, forall_eq', empty, if_false, ne_eq, not_false_eq_true,
          true_implies]
        cases decode text with
        | ok value => exact iff_of_true ⟨value, rfl⟩ ⟨some value, rfl⟩
        | error error =>
            refine iff_of_false ?_ ?_
            · exact fun accepted => nomatch accepted.choose_spec
            · exact fun accepted => nomatch accepted.choose_spec

end Decoding

/-- A hash that decodes is legible, and the job has its priority and claimant. -/
theorem legible_of_hashToJob {data : Dict String String} {job : Job}
    (decoded : backend.hashToJob data = .ok job) :
    backend.Legible data ∧
      (∃ text, data.get? "priority" = some text ∧ parseInt text = .ok job.priority) ∧
      job.claimedBy = optional data "claimed_by" := by
  unfold hashToJob at decoded
  obtain ⟨metadata, described, decoded⟩ := exists_of_bind_ok decoded
  obtain ⟨jobId, identified, decoded⟩ := exists_of_bind_ok decoded
  obtain ⟨jobType, typed, decoded⟩ := exists_of_bind_ok decoded
  obtain ⟨queueName, placed, decoded⟩ := exists_of_bind_ok decoded
  obtain ⟨payloadText, carried, decoded⟩ := exists_of_bind_ok decoded
  obtain ⟨payload, loaded, decoded⟩ := exists_of_bind_ok decoded
  obtain ⟨statusText, stated, decoded⟩ := exists_of_bind_ok decoded
  obtain ⟨status, parsed, decoded⟩ := exists_of_bind_ok decoded
  obtain ⟨priorityText, ranked, decoded⟩ := exists_of_bind_ok decoded
  obtain ⟨priority, counted, decoded⟩ := exists_of_bind_ok decoded
  obtain ⟨createdText, dated, decoded⟩ := exists_of_bind_ok decoded
  obtain ⟨createdAt, begun, decoded⟩ := exists_of_bind_ok decoded
  obtain ⟨updatedText, redated, decoded⟩ := exists_of_bind_ok decoded
  obtain ⟨updatedAt, touched, decoded⟩ := exists_of_bind_ok decoded
  obtain ⟨resources, needs, decoded⟩ := exists_of_bind_ok decoded
  obtain ⟨dependsOn, waits, decoded⟩ := exists_of_bind_ok decoded
  obtain ⟨attempt, tried, decoded⟩ := exists_of_bind_ok decoded
  obtain ⟨maxAttempts, limited, decoded⟩ := exists_of_bind_ok decoded
  obtain ⟨startedAt, started, decoded⟩ := exists_of_bind_ok decoded
  obtain ⟨finishedAt, finished, decoded⟩ := exists_of_bind_ok decoded
  obtain ⟨lastHeartbeatAt, beaten, decoded⟩ := exists_of_bind_ok decoded
  obtain ⟨lastError, failed, decoded⟩ := exists_of_bind_ok decoded
  obtain ⟨progress, progressed, decoded⟩ := exists_of_bind_ok decoded
  obtain ⟨runTimeoutMs, timed, decoded⟩ := exists_of_bind_ok decoded
  obtain ⟨claimTimeoutMs, leased, decoded⟩ := exists_of_bind_ok decoded
  obtain ⟨version, versioned, decoded⟩ := exists_of_bind_ok decoded
  obtain rfl := Except.ok.inj decoded
  refine ⟨?_, ⟨priorityText, get?_of_required ranked, counted⟩, rfl⟩
  simp only [Legible, checks, List.forall_mem_cons, List.not_mem_nil, false_implies,
    implies_true, and_true, required_iff, defaulted_iff, blankable_iff]
  exact ⟨⟨_, described⟩, ⟨_, _, identified, rfl⟩, ⟨_, _, typed, rfl⟩, ⟨_, _, placed, rfl⟩,
    ⟨_, _, carried, loaded⟩, ⟨_, _, stated, parsed⟩, ⟨_, _, ranked, counted⟩,
    ⟨_, _, dated, begun⟩, ⟨_, _, redated, touched⟩, ⟨_, needs⟩, ⟨_, waits⟩, ⟨_, tried⟩,
    ⟨_, limited⟩, ⟨_, started⟩, ⟨_, finished⟩, ⟨_, beaten⟩, ⟨_, failed⟩, ⟨_, progressed⟩,
    ⟨_, timed⟩, ⟨_, leased⟩, ⟨_, versioned⟩⟩

/-- A legible hash decodes. -/
theorem Legible.hashToJob {backend : RedisQueueBackend} {data : Dict String String}
    (legible : backend.Legible data) : ∃ job, backend.hashToJob data = .ok job := by
  simp only [Legible, checks, List.forall_mem_cons, List.not_mem_nil, false_implies,
    implies_true, and_true, required_iff, defaulted_iff, blankable_iff] at legible
  obtain ⟨⟨metadata, described⟩, ⟨jobId, _, identified, _⟩, ⟨jobType, _, typed, _⟩,
    ⟨queueName, _, placed, _⟩, ⟨payloadText, payload, carried, loaded⟩,
    ⟨statusText, status, stated, parsed⟩, ⟨priorityText, priority, ranked, counted⟩,
    ⟨createdText, createdAt, dated, begun⟩, ⟨updatedText, updatedAt, redated, touched⟩,
    ⟨resources, needs⟩, ⟨dependsOn, waits⟩, ⟨attempt, tried⟩, ⟨maxAttempts, limited⟩,
    ⟨startedAt, started⟩, ⟨finishedAt, finished⟩, ⟨lastHeartbeatAt, beaten⟩,
    ⟨lastError, failed⟩, ⟨progress, progressed⟩, ⟨runTimeoutMs, timed⟩,
    ⟨claimTimeoutMs, leased⟩, ⟨version, versioned⟩⟩ := legible
  unfold RedisQueueBackend.hashToJob
  simp only [described, identified, typed, placed, carried, loaded, stated, parsed, ranked,
    counted, dated, begun, redated, touched, needs, waits, tried, limited, started, finished,
    beaten, failed, progressed, timed, leased, versioned, ok_bind]
  exact ⟨_, rfl⟩

/-- A field passes its check after a write when it did before and what is written to it
passes. -/
theorem check_update {data mapping : Dict String String}
    {check : String × (Option String → Prop)} (listed : check ∈ backend.checks.entries)
    (before : check.2 (data.get? check.1))
    (passes : ∀ text, mapping.get? check.1 = some text → backend.Passes check.1 text) :
    check.2 ((data.update mapping).get? check.1) := by
  rw [Dict.get?_update]
  cases written : mapping.get? check.1 with
  | none => exact before
  | some text =>
      exact passes text written check.2
        ((backend.checks.mem_entries_iff check.1 check.2).mp listed)

/-- A sound write keeps a hash legible. -/
theorem Legible.update {backend : RedisQueueBackend} {data mapping : Dict String String}
    (legible : backend.Legible data) (sound : backend.Sound mapping) :
    backend.Legible (data.update mapping) :=
  fun check listed => backend.check_update listed (legible check listed) (sound check.1)

/-- A mapping that is legible itself and names every field makes any hash legible. -/
theorem Legible.overwrite {backend : RedisQueueBackend} {mapping : Dict String String}
    (legible : backend.Legible mapping)
    (complete : ∀ check ∈ backend.checks.entries, (mapping.get? check.1).isSome = true)
    (data : Dict String String) : backend.Legible (data.update mapping) := by
  intro check listed
  rw [Dict.get?_update]
  obtain ⟨text, written⟩ := Option.isSome_iff_exists.mp (complete check listed)
  have passed := legible check listed
  rw [written] at passed ⊢
  exact passed

/-- The hash of a job that the codec rereads is legible. -/
theorem legible_jobToHash {job : Job} (rereads : RereadsJob backend.codec job) :
    backend.Legible (backend.jobToHash job) := by
  have number : ∀ value : Int, Accepts parseInt (toString value) :=
    fun value => ⟨value, parseInt_toString value⟩
  have time : ∀ {instant : Int}, ReadsTime backend.codec instant →
      Accepts backend.codec.fromisoformat (backend.codec.isoformat instant) :=
    fun reads => ⟨_, reads.1⟩
  simp only [Legible, checks, List.forall_mem_cons, List.not_mem_nil, false_implies,
    implies_true, and_true]
  exact ⟨defaulted_of_accepts rereads.metadata.1 (accepts_loadsDict rereads.metadata),
    required_of_accepts ⟨_, rfl⟩, required_of_accepts ⟨_, rfl⟩, required_of_accepts ⟨_, rfl⟩,
    required_of_accepts (accepts_loadsDict rereads.payload),
    required_of_accepts ⟨_, JobStatus.parse_value job.status⟩,
    required_of_accepts (number job.priority),
    required_of_accepts (time rereads.createdAt), required_of_accepts (time rereads.updatedAt),
    defaulted_of_accepts rereads.resources.1 (accepts_loads rereads.resources),
    defaulted_of_accepts rereads.dependsOn.1 (accepts_loads rereads.dependsOn),
    defaulted_of_accepts (toString_ne_empty _) (number job.attempt),
    defaulted_of_accepts (toString_ne_empty _) (number job.maxAttempts),
    blankable_of_accepts fun inner held => time (rereads.startedAt inner held),
    blankable_of_accepts fun inner held => time (rereads.finishedAt inner held),
    blankable_of_accepts fun inner held => time (rereads.lastHeartbeatAt inner held),
    blankable_optDictText rereads.lastError, blankable_optDictText rereads.progress,
    blankable_of_accepts fun inner _ => number inner,
    blankable_of_accepts fun inner _ => number inner,
    defaulted_of_accepts (toString_ne_empty _) (number job.version)⟩

/-- The hash of a job names every field that is decoded. -/
theorem isSome_get?_jobToHash (job : Job) :
    ∀ check ∈ backend.checks.entries, ((backend.jobToHash job).get? check.1).isSome = true := by
  simp only [checks, List.forall_mem_cons, List.not_mem_nil, false_implies, implies_true,
    and_true]
  and_intros <;> rfl

section Writes

variable {backend} {mapping : Dict String String} {key text : String} {now : Int}

theorem Sound.set (sound : backend.Sound mapping) (passes : backend.Passes key text) :
    backend.Sound (mapping.set key text) :=
  Dict.forall_get?_set sound passes

theorem sound_empty : backend.Sound ∅ := by
  intro key text found
  cases found

theorem sound_ofList {items : List (String × String)}
    (passes : ∀ item ∈ items, backend.Passes item.1 item.2) : backend.Sound (.ofList items) := by
  have grown : ∀ mapping, backend.Sound mapping →
      backend.Sound (items.foldl (fun dict item => dict.set item.1 item.2) mapping) := by
    induction items with
    | nil => exact fun mapping sound => sound
    | cons item rest ih =>
        intro mapping sound
        exact ih (fun later member => passes later (List.mem_cons_of_mem _ member)) _
          (sound.set (passes item List.mem_cons_self))
  exact grown ∅ sound_empty

/-- The status is the text of a member. -/
theorem passes_status (status : JobStatus) : backend.Passes "status" status.value := by
  intro check found
  have same : Required JobStatus.parse = check := Option.some.inj found
  rw [← same]
  exact ⟨status.value, rfl, status, JobStatus.parse_value status⟩

/-- The claimant is not decoded. -/
theorem passes_claimedBy : backend.Passes "claimed_by" text := by
  intro check found
  cases found

/-- A time that the codec reads back. -/
theorem passes_updatedAt (reads : ReadsTime backend.codec now) :
    backend.Passes "updated_at" (backend.codec.isoformat now) := by
  intro check found
  have same : Required backend.codec.fromisoformat = check := Option.some.inj found
  rw [← same]
  exact ⟨_, rfl, now, reads.1⟩

/-- The same in a field that may be empty. -/
theorem passes_time (reads : ReadsTime backend.codec now)
    (blankable : backend.checks.get? key = some (Blankable backend.codec.fromisoformat)) :
    backend.Passes key (backend.codec.isoformat now) := by
  intro check found
  rw [blankable] at found
  rw [← Option.some.inj found]
  intro text same _
  rw [← Option.some.inj same]
  exact ⟨now, reads.1⟩

/-- Metadata that the codec reads back. -/
theorem passes_meta {metadata : Dict String Value}
    (reads : Rereads backend.codec (.ofDict metadata)) :
    backend.Passes "meta" (backend.codec.dumps (.ofDict metadata)) := by
  intro check found
  have same : Defaulted backend.loadsDict "\x7b\x7d" = check := Option.some.inj found
  rw [← same]
  exact defaulted_of_accepts reads.1 (accepts_loadsDict reads)

/-- A count of attempts. -/
theorem passes_attempt (count : Int) : backend.Passes "attempt" (toString count) := by
  intro check found
  have same : Defaulted parseInt "0" = check := Option.some.inj found
  rw [← same]
  exact defaulted_of_accepts (toString_ne_empty _) ⟨count, parseInt_toString count⟩

/-- An error that the codec reads back. -/
theorem passes_lastError {details : Dict String Value}
    (reads : Rereads backend.codec (.ofDict details)) :
    backend.Passes "last_error" (backend.codec.dumps (.ofDict details)) := by
  intro check found
  have same : Blankable backend.loadsDict = check := Option.some.inj found
  rw [← same]
  intro text written _
  rw [← Option.some.inj written]
  exact accepts_loadsDict reads

/-- What `release` writes. -/
theorem sound_release (reads : ReadsTime backend.codec now) :
    backend.Sound (.ofList [("status", JobStatus.queued.value), ("claimed_by", ""),
      ("updated_at", backend.codec.isoformat now)]) := by
  apply sound_ofList
  simp only [List.forall_mem_cons]
  exact ⟨passes_status .queued, passes_claimedBy, passes_updatedAt reads, nofun⟩

/-- What the script of `claim` writes. -/
theorem sound_claim (reads : ReadsTime backend.codec now) {metadata : Dict String Value}
    (rereads : Rereads backend.codec (.ofDict metadata)) (claimant : String) :
    backend.Sound (.ofList [("status", JobStatus.running.value), ("claimed_by", claimant),
      ("meta", backend.codec.dumps (.ofDict metadata)),
      ("updated_at", backend.codec.isoformat now), ("started_at", backend.codec.isoformat now),
      ("last_heartbeat_at", backend.codec.isoformat now)]) := by
  apply sound_ofList
  simp only [List.forall_mem_cons]
  exact ⟨passes_status .running, passes_claimedBy, passes_meta rereads, passes_updatedAt reads,
    passes_time reads rfl, passes_time reads rfl, nofun⟩

end Writes

section ButForStatus

/-- Every field but the status passes its check. -/
def LegibleBut (data : Dict String String) : Prop :=
  ∀ check ∈ backend.checks.entries, check.1 ≠ "status" → check.2 (data.get? check.1)

/-- Every text passes that is written to another field than the status. -/
def SoundBut (mapping : Dict String String) : Prop :=
  ∀ key text, mapping.get? key = some text → key ≠ "status" → backend.Passes key text

variable {backend} {data mapping : Dict String String}

theorem Legible.but (legible : backend.Legible data) : backend.LegibleBut data :=
  fun check listed _ => legible check listed

theorem Sound.but (sound : backend.Sound mapping) : backend.SoundBut mapping :=
  fun key text written _ => sound key text written

/-- The status is what is missing for a legible hash. -/
theorem LegibleBut.legible (legible : backend.LegibleBut data) {status : JobStatus}
    (stated : data.get? "status" = some status.value) : backend.Legible data := by
  intro check listed
  by_cases named : check.1 = "status"
  · have found := (backend.checks.mem_entries_iff check.1 check.2).mp listed
    rw [named] at found ⊢
    rw [stated]
    exact passes_status status check.2 found
  · exact legible check listed named

theorem LegibleBut.update (legible : backend.LegibleBut data) (sound : backend.SoundBut mapping) :
    backend.LegibleBut (data.update mapping) := by
  intro check listed other
  exact backend.check_update listed (legible check listed other)
    fun text written => sound check.1 text written other

theorem SoundBut.set (sound : backend.SoundBut mapping) {key text : String}
    (passes : key ≠ "status" → backend.Passes key text) :
    backend.SoundBut (mapping.set key text) :=
  Dict.forall_get?_set sound passes

/-- What `update_status` writes, whatever the text of the status. -/
theorem soundBut_statusMapping {now : Int} (reads : ReadsTime backend.codec now)
    (status : String) : backend.SoundBut (backend.statusMapping status now) := by
  have stated : backend.SoundBut (Dict.empty.set "status" status) :=
    sound_empty.but.set fun other => absurd rfl other
  have dated := stated.set fun _ => passes_updatedAt reads
  unfold statusMapping
  dsimp only
  split
  · exact dated.set fun _ => passes_time reads rfl
  · exact dated

/-- A hash with its identifier is not empty. -/
theorem LegibleBut.filled (legible : backend.LegibleBut data) : data.isEmpty = false := by
  obtain ⟨text, stored, _⟩ :=
    legible ("job_id", Required (α := String) .ok) (.tail _ (.head _)) (by decide)
  apply Bool.eq_false_iff.mpr
  intro empty
  have none : data.entries = [] := List.isEmpty_iff.mp empty
  rw [Dict.get?, none] at stored
  cases stored

/-- A hash that decodes has fields. -/
theorem not_isEmpty_of_hashToJob {job : Job} (decoded : backend.hashToJob data = .ok job) :
    data.isEmpty = false :=
  (backend.legible_of_hashToJob decoded).1.but.filled

end ButForStatus

end RedisQueueBackend

end CloudDogJobs
