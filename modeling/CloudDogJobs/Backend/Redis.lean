import Mathlib.Data.List.Sort
import CloudDogJobs.Backend.Base
import CloudDogJobs.Domain.Codec
import CloudDogJobs.Foundation.Interleaving

/-!
# Redis queue backend

`backends/redis_backend.py`. The server holds a hash of texts for each job, a
sorted set of job identifiers and a lease key for each claimed job; the three key
families `prefix:job:…`, `prefix:queue` and `prefix:lease:…` never collide, so
each is a dictionary of its own, by job identifier. One command, one Lua script
and one transactional pipeline are atomic steps. The methods of the backend are
programs over these commands.
-/

namespace CloudDogJobs

open Foundation

/-- The keys of one prefix. A lease is its claimant and its time to live, as it
was last set. Scores are exact integers here; `RedisServer.execDouble` keeps them as
the doubles that a sorted set has. -/
structure RedisServer where
  hashes : Dict String (Dict String String)
  queue : Dict String Int
  leases : Dict String (String × Int)

/-- The commands that the backend sends. -/
inductive RedisCall
  | hset (jobId : String) (mapping : Dict String String)
  | hget (jobId field : String)
  | hgetall (jobId : String)
  | existsJob (jobId : String)
  | existsLease (jobId : String)
  | zadd (jobId : String) (score : Int)
  | zrem (jobId : String)
  /-- `ZREVRANGE queue 0 stop` -/
  | zrevrange (stop : Int)
  | deleteLease (jobId : String)
  /-- `_CLAIM_LUA` -/
  | claimScript (jobId claimedBy metaText nowText : String) (leaseTimeout : Int)
  /-- `_HEARTBEAT_LUA` -/
  | heartbeatScript (jobId nowText : String) (leaseTimeout : Int)
  /-- `HINCRBY attempt 1` and `HSET` in one transaction -/
  | attemptPipeline (jobId : String) (updates : Dict String String)
  /-- The server drops a lease whose time is over. -/
  | lapse (jobId : String)

@[reducible] def RedisCall.Reply : RedisCall → Type
  | .hset _ _ => Unit
  | .hget _ _ => Option String
  | .hgetall _ => Dict String String
  | .existsJob _ => Bool
  | .existsLease _ => Bool
  | .zadd _ _ => Unit
  | .zrem _ => Unit
  | .zrevrange _ => List String
  | .deleteLease _ => Unit
  | .claimScript _ _ _ _ _ => Except PyError Bool
  | .heartbeatScript _ _ _ => Bool
  | .attemptPipeline _ _ => Except PyError Unit
  | .lapse _ => Unit

abbrev RedisProg (α : Type) : Type := Prog RedisCall RedisCall.Reply α

namespace RedisServer

/-- A server without keys under the prefix. -/
def empty : RedisServer := ⟨∅, ∅, ∅⟩

def field (server : RedisServer) (jobId name : String) : Option String :=
  (server.hashes.getD jobId ∅).get? name

/-- The status text of a stored job. -/
def status? (server : RedisServer) (jobId : String) : Option String := server.field jobId "status"

def hset (server : RedisServer) (jobId : String) (mapping : Dict String String) : RedisServer :=
  { server with
    hashes := server.hashes.set jobId ((server.hashes.getD jobId ∅).update mapping) }

def zadd (server : RedisServer) (jobId : String) (score : Int) : RedisServer :=
  { server with queue := server.queue.set jobId score }

def zrem (server : RedisServer) (jobId : String) : RedisServer :=
  { server with queue := server.queue.erase jobId }

def deleteLease (server : RedisServer) (jobId : String) : RedisServer :=
  { server with leases := server.leases.erase jobId }

/-- The order of `ZREVRANGE`: higher scores first, then higher members. -/
def RankLe (first second : String × Int) : Prop :=
  second.2 < first.2 ∨ (first.2 = second.2 ∧ second.1 ≤ first.1)

instance : DecidableRel RankLe := fun _ _ => inferInstanceAs (Decidable (_ ∨ _))

def zrevrange (server : RedisServer) (stop : Int) : List String :=
  ((server.queue.entries.insertionSort RankLe).map Prod.fst).take (stop + 1).toNat

/-- `_CLAIM_LUA`. A lease time that is not positive makes `SET … EX` fail; the
writes before it stay. -/
def claimScript (server : RedisServer) (jobId claimedBy metaText nowText : String)
    (leaseTimeout : Int) : Except PyError Bool × RedisServer :=
  if server.status? jobId ≠ some JobStatus.queued.value then (.ok false, server)
  else
    let claimed := (server.hset jobId (.ofList
      [("status", JobStatus.running.value), ("claimed_by", claimedBy), ("meta", metaText),
        ("updated_at", nowText), ("started_at", nowText),
        ("last_heartbeat_at", nowText)])).zrem jobId
    if leaseTimeout ≤ 0 then
      (.error (.redisError "ERR invalid expire time in 'set' command"), claimed)
    else
      (.ok true, { claimed with leases := claimed.leases.set jobId (claimedBy, leaseTimeout) })

/-- `_HEARTBEAT_LUA`. `EXPIRE` renews a lease that is there; with a time that is
not positive it deletes it. -/
def heartbeatScript (server : RedisServer) (jobId nowText : String) (leaseTimeout : Int) :
    Bool × RedisServer :=
  if server.status? jobId ≠ some JobStatus.running.value then (false, server)
  else
    let beaten := server.hset jobId (.ofList
      [("updated_at", nowText), ("last_heartbeat_at", nowText)])
    if leaseTimeout ≤ 0 then (true, beaten.deleteLease jobId)
    else
      (true, { beaten with
        leases := beaten.leases.modify jobId fun lease => (lease.1, leaseTimeout) })

/-- The pipeline of `record_attempt`. `HINCRBY` refuses a field that is no
integer; the `HSET` of the transaction is applied all the same. -/
def attemptPipeline (server : RedisServer) (jobId : String) (updates : Dict String String) :
    Except PyError Unit × RedisServer :=
  match ((server.field jobId "attempt").getD "0").toInt? with
  | some attempt =>
      (.ok (), (server.hset jobId (Dict.empty.set "attempt" (toString (attempt + 1)))).hset jobId
        updates)
  | none =>
      (.error (.redisError "ERR hash value is not an integer"), server.hset jobId updates)

/-- The effect of one command. -/
def exec : (call : RedisCall) → RedisServer → call.Reply × RedisServer
  | .hset jobId mapping, server => ((), server.hset jobId mapping)
  | .hget jobId name, server => (server.field jobId name, server)
  | .hgetall jobId, server => (server.hashes.getD jobId ∅, server)
  | .existsJob jobId, server => ((server.hashes.get? jobId).isSome, server)
  | .existsLease jobId, server => ((server.leases.get? jobId).isSome, server)
  | .zadd jobId score, server => ((), server.zadd jobId score)
  | .zrem jobId, server => ((), server.zrem jobId)
  | .zrevrange stop, server => (server.zrevrange stop, server)
  | .deleteLease jobId, server => ((), server.deleteLease jobId)
  | .claimScript jobId claimedBy metaText nowText leaseTimeout, server =>
      server.claimScript jobId claimedBy metaText nowText leaseTimeout
  | .heartbeatScript jobId nowText leaseTimeout, server =>
      server.heartbeatScript jobId nowText leaseTimeout
  | .attemptPipeline jobId updates, server => server.attemptPipeline jobId updates
  | .lapse jobId, server => ((), server.deleteLease jobId)

end RedisServer

namespace RedisServer

variable (server : RedisServer) (jobId other : String)

/-- An `HSET` changes the status of its job when it names one. -/
theorem status?_hset (mapping : Dict String String) :
    (server.hset jobId mapping).status? other =
      if other = jobId then (mapping.get? "status").or (server.status? jobId)
      else server.status? other := by
  simp only [status?, field, hset]
  rw [Dict.getD_set]
  by_cases same : other = jobId
  · rw [if_pos same, if_pos same, Dict.get?_update]
  · rw [if_neg same, if_neg same]

@[simp] theorem status?_zadd (score : Int) : (server.zadd jobId score).status? other =
    server.status? other := rfl

@[simp] theorem status?_zrem : (server.zrem jobId).status? other = server.status? other := rfl

@[simp] theorem status?_deleteLease : (server.deleteLease jobId).status? other =
    server.status? other := rfl

/-- An `HSET` that names no status leaves every status alone. -/
theorem status?_hset_of_none {mapping : Dict String String}
    (unnamed : mapping.get? "status" = none) :
    (server.hset jobId mapping).status? other = server.status? other := by
  rw [status?_hset, unnamed, Option.none_or]
  split
  · next same => rw [same]
  · rfl

variable (claimedBy metaText nowText : String) (leaseTimeout : Int)

/-- The script takes a queued job to running, whatever becomes of the lease. -/
theorem status?_claimScript :
    (server.claimScript jobId claimedBy metaText nowText leaseTimeout).2.status? other =
      if other = jobId ∧ server.status? jobId = some JobStatus.queued.value
      then some JobStatus.running.value else server.status? other := by
  unfold claimScript
  by_cases waiting : server.status? jobId = some JobStatus.queued.value
  · have moved : ∀ mapping : Dict String String,
        mapping.get? "status" = some JobStatus.running.value →
        ((server.hset jobId mapping).zrem jobId).status? other =
          if other = jobId then some JobStatus.running.value else server.status? other := by
      intro mapping named
      rw [status?_zrem, status?_hset, named, Option.some_or]
    simp only [waiting, ne_eq, not_true_eq_false, ↓reduceIte, and_true]
    split
    · exact moved _ rfl
    · exact moved _ rfl
  · simp [waiting]

theorem claimScript_granted
    (granted : (server.claimScript jobId claimedBy metaText nowText leaseTimeout).1 = .ok true) :
    server.status? jobId = some JobStatus.queued.value := by
  by_contra other
  simp [claimScript, other] at granted

@[simp] theorem status?_heartbeatScript :
    (server.heartbeatScript jobId nowText leaseTimeout).2.status? other =
      server.status? other := by
  have beaten : ∀ mapping : Dict String String, mapping.get? "status" = none →
      (server.hset jobId mapping).status? other = server.status? other :=
    fun _ => server.status?_hset_of_none jobId other
  unfold heartbeatScript
  split
  · rfl
  · simp only []
    split
    · exact beaten _ rfl
    · exact beaten _ rfl

theorem status?_attemptPipeline (updates : Dict String String) :
    (server.attemptPipeline jobId updates).2.status? other =
      (server.hset jobId updates).status? other := by
  unfold attemptPipeline
  split
  · have counted : ∀ text other, (server.hset jobId (Dict.empty.set "attempt" text)).status? other =
        server.status? other :=
      fun _ other => server.status?_hset_of_none jobId other rfl
    rw [status?_hset _ jobId other updates, counted, counted, status?_hset]
  · rfl

end RedisServer

/-- The settings of a backend, with the text codecs it uses. -/
structure RedisQueueBackend where
  codec : TextCodec
  leaseTimeout : Int := 120

namespace RedisQueueBackend

variable (backend : RedisQueueBackend)

/-- The text of an optional field; a missing value is the empty text. -/
def optText (value : Option String) : String := value.getD ""

/-- The text of an optional dictionary; an empty one counts as missing. -/
def optDictText (codec : TextCodec) (value : Option (Dict String Value)) : String :=
  match value with
  | none => ""
  | some dict => if dict.isEmpty then "" else codec.dumps (.ofDict dict)

/-- Serialise a job into a flat dictionary of texts. `result_ref` is a text or
missing in a job that reaches this backend. -/
def jobToHash (job : Job) : Dict String String where
  entries :=
    [("job_id", job.jobId),
     ("job_type", job.jobType),
     ("queue_name", job.queueName),
     ("payload", backend.codec.dumps (.ofDict job.payload)),
     ("meta", backend.codec.dumps (.ofDict job.toMetaDict)),
     ("status", job.status.value),
     ("priority", toString job.priority),
     ("claimed_by", optText job.claimedBy),
     ("created_at", backend.codec.isoformat job.createdAt),
     ("updated_at", backend.codec.isoformat job.updatedAt),
     ("resources", backend.codec.dumps (.ofIntDict job.resources)),
     ("depends_on", backend.codec.dumps (.ofStrList job.dependsOn)),
     ("attempt", toString job.attempt),
     ("max_attempts", toString job.maxAttempts),
     ("started_at", optText (job.startedAt.map backend.codec.isoformat)),
     ("finished_at", optText (job.finishedAt.map backend.codec.isoformat)),
     ("last_heartbeat_at", optText (job.lastHeartbeatAt.map backend.codec.isoformat)),
     ("last_error", optDictText backend.codec job.lastError),
     ("result_ref", optText (Value.toOptStr job.resultRef)),
     ("progress", optDictText backend.codec job.progress),
     ("run_timeout_ms", optText (job.runTimeoutMs.map toString)),
     ("claim_timeout_ms", optText (job.claimTimeoutMs.map toString)),
     ("trace_id", optText job.traceId),
     ("version", toString job.version)]
  nodup := by simp

section Decoding

variable (data : Dict String String)

/-- `data[key]` -/
def required (key : String) : Except PyError String :=
  match data.get? key with
  | some text => .ok text
  | none => .error (.keyError key)

/-- `data.get(key) or fallback` -/
def orElse (key fallback : String) : String :=
  match data.get? key with
  | some text => if text = "" then fallback else text
  | none => fallback

/-- `data.get(key) or None` -/
def optional (key : String) : Option String :=
  match data.get? key with
  | some text => if text = "" then none else some text
  | none => none

/-- A field that is absent or empty is `None`, any other is decoded. -/
def optDecoded {α : Type} (decode : String → Except PyError α) (key : String) :
    Except PyError (Option α) :=
  match optional data key with
  | none => .ok none
  | some text => (decode text).map some

def loadsDict (text : String) : Except PyError (Dict String Value) := do
  (← backend.codec.loads text).asDict

/-- Deserialise a hash into a job. The payload and the metadata are objects, as the
writers store them. -/
def hashToJob : Except PyError Job := do
  let metadata ← backend.loadsDict (orElse data "meta" "\x7b\x7d")
  let text := fun key => Value.toOptStr (metadata.get? key)
  return {
    jobId := ← required data "job_id"
    jobType := ← required data "job_type"
    queueName := ← required data "queue_name"
    payload := ← backend.loadsDict (← required data "payload")
    status := ← JobStatus.parse (← required data "status")
    priority := ← parseInt (← required data "priority")
    createdAt := ← backend.codec.fromisoformat (← required data "created_at")
    updatedAt := ← backend.codec.fromisoformat (← required data "updated_at")
    claimedBy := optional data "claimed_by"
    appId := text "app_id"
    tenantId := text "tenant_id"
    hostId := text "host_id"
    workerId := text "worker_id"
    idempotencyKey := text "idempotency_key"
    correlationId := text "correlation_id"
    userId := text "user_id"
    sessionId := text "session_id"
    channelId := text "channel_id"
    callbackUrl := text "callback_url"
    callbackMethod := (text "callback_method").getD "POST"
    callbackHeaders := .ofList ((metadata.getD "callback_headers" .none).strItems)
    requestSource := text "request_source"
    requestIp := text "request_ip"
    requestAuthMethod := text "request_auth_method"
    requestAuthIdentity := text "request_auth_identity"
    requestUserAgent := text "request_user_agent"
    resources := (← backend.codec.loads (orElse data "resources" "\x7b\x7d")).toIntDict
    dependsOn := (← backend.codec.loads (orElse data "depends_on" "[]")).toStrList
    attempt := ← parseInt (orElse data "attempt" "0")
    maxAttempts := ← parseInt (orElse data "max_attempts" "3")
    startedAt := ← optDecoded data backend.codec.fromisoformat "started_at"
    finishedAt := ← optDecoded data backend.codec.fromisoformat "finished_at"
    lastHeartbeatAt := ← optDecoded data backend.codec.fromisoformat "last_heartbeat_at"
    lastError := ← optDecoded data backend.loadsDict "last_error"
    resultRef := (optional data "result_ref").map .str
    progress := ← optDecoded data backend.loadsDict "progress"
    runTimeoutMs := ← optDecoded data parseInt "run_timeout_ms"
    claimTimeoutMs := ← optDecoded data parseInt "claim_timeout_ms"
    traceId := optional data "trace_id"
    version := ← parseInt (orElse data "version" "0") }

end Decoding

/-- Send one command. -/
abbrev call (call : RedisCall) : RedisProg call.Reply := Prog.issue call

/-- The score of a job in the queue at a time in microseconds. -/
def score (priority now : Int) : Int := priority * 10000000000 - now.tdiv 1000

def enqueue (job : Job) (now : Int) : RedisProg (Except PyError String) := do
  call (.hset job.jobId (backend.jobToHash job))
  call (.zadd job.jobId (score job.priority now))
  return .ok job.jobId

def get (jobId : String) : RedisProg (Except PyError (Option Job)) := do
  let data ← call (.hgetall jobId)
  if data.isEmpty then return .ok none else return (backend.hashToJob data).map some

/-- The loop of `dequeue`, with the jobs found so far. -/
def collect (limit : Int) (jobType queueName : Option String) :
    List String → List Job → RedisProg (Except PyError (List Job))
  | [], jobs => return .ok jobs
  | jobId :: rest, jobs =>
      if limit ≤ jobs.length then return .ok jobs
      else do
        match ← backend.get jobId with
        | .error error => return .error error
        | .ok none => collect limit jobType queueName rest jobs
        | .ok (some job) =>
            if job.status = .queued && job.matchesFilters jobType queueName then
              collect limit jobType queueName rest (jobs ++ [job])
            else collect limit jobType queueName rest jobs

def dequeue (limit : Int) (jobType queueName : Option String) :
    RedisProg (Except PyError (List Job)) := do
  let jobIds ← call (.zrevrange (max 0 (limit * 3 - 1)))
  backend.collect limit jobType queueName jobIds []

/-- Claim a queued job through the script. The metadata is read before, by a
command of its own. -/
def claim (jobId hostId workerId : String) (now : Int) : RedisProg (Except PyError Bool) := do
  let raw ← call (.hget jobId "meta")
  let text := match raw with
    | some text => if text = "" then "\x7b\x7d" else text
    | none => "\x7b\x7d"
  match backend.loadsDict text with
  | .error error => return .error error
  | .ok metadata =>
      let metadata := (metadata.set "host_id" (.str hostId)).set "worker_id" (.str workerId)
      match ← call (.claimScript jobId (hostId ++ ":" ++ workerId)
          (backend.codec.dumps (.ofDict metadata)) (backend.codec.isoformat now)
          backend.leaseTimeout) with
      | .ok granted => return .ok granted
      | .error _ => return .ok false

def release (jobId : String) (now : Int) : RedisProg (Except PyError Bool) := do
  match ← backend.get jobId with
  | .error error => return .error error
  | .ok none => return .ok false
  | .ok (some job) =>
      call (.hset jobId (.ofList
        [("status", JobStatus.queued.value), ("claimed_by", ""),
          ("updated_at", backend.codec.isoformat now)]))
      call (.zadd jobId (score job.priority now))
      call (.deleteLease jobId)
      return .ok true

def heartbeat (jobId : String) (now : Int) : RedisProg (Except PyError Bool) := do
  let beaten ← call (.heartbeatScript jobId (backend.codec.isoformat now) backend.leaseTimeout)
  return .ok beaten

/-- The statuses that end a job. -/
def terminal : List String :=
  [JobStatus.succeeded.value, JobStatus.failed.value, JobStatus.cancelled.value,
    JobStatus.ttlExpired.value, JobStatus.deadLettered.value]

/-- What `update_status` writes into the hash. -/
def statusMapping (status : String) (now : Int) : Dict String String :=
  let mapping := (Dict.empty.set "status" status).set "updated_at" (backend.codec.isoformat now)
  if status ∈ terminal then mapping.set "finished_at" (backend.codec.isoformat now) else mapping

/-- What `update_status` writes names its status. -/
theorem statusMapping_status (status : String) (now : Int) :
    (backend.statusMapping status now).get? "status" = some status := by
  unfold statusMapping
  simp only []
  split
  · rfl
  · rfl

def updateStatus (jobId status : String) (now : Int) : RedisProg (Except PyError Bool) := do
  if ← call (.existsJob jobId) then
    call (.hset jobId (backend.statusMapping status now))
    if status ≠ JobStatus.queued.value then
      call (.zrem jobId)
    if status ∈ terminal then
      call (.deleteLease jobId)
    return .ok true
  else return .ok false

def recordAttempt (jobId : String) (error : Option String) (now : Int) :
    RedisProg (Except PyError Bool) := do
  if ← call (.existsJob jobId) then
    let updates := Dict.empty.set "updated_at" (backend.codec.isoformat now)
    let updates := match error with
      | none => updates
      | some message =>
          updates.set "last_error" (backend.codec.dumps (.dict [("message", .str message)]))
    match ← call (.attemptPipeline jobId updates) with
    | .ok () => return .ok true
    | .error error => return .error error
  else return .ok false

/-- Write fields of a stored job, and report whether there is one. -/
def writeFields (jobId : String) (mapping : Dict String String) :
    RedisProg (Except PyError Bool) := do
  if ← call (.existsJob jobId) then
    call (.hset jobId mapping)
    return .ok true
  else return .ok false

def updateProgress (jobId : String) (progress : Dict String Value) (now : Int) :
    RedisProg (Except PyError Bool) :=
  writeFields jobId (.ofList
    [("progress", backend.codec.dumps (.ofDict progress)),
      ("updated_at", backend.codec.isoformat now)])

/-- The text that `store_result` writes: a dictionary as JSON, a text as it is. -/
def resultText : ResultData → String
  | .text text => text
  | .object dict => backend.codec.dumps (.ofDict dict)

def storeResult (jobId : String) (result : ResultData) (now : Int) :
    RedisProg (Except PyError Bool) :=
  writeFields jobId (.ofList
    [("result_ref", backend.resultText result), ("updated_at", backend.codec.isoformat now)])

/-- `key.rsplit(":", 1)[-1]` of the key of a job. -/
def lastSegment (jobId : String) : String :=
  String.ofList (jobId.toList.reverse.takeWhile (· ≠ ':')).reverse

/-- A sweep over the keys that the scan yields, given by their job identifiers. The
status is read under the full key, the lease and the job by its last segment. -/
def reapExpiredLeases (now : Int) : List String → RedisProg (Except PyError (List String))
  | [] => return .ok []
  | key :: rest => do
      let jobId := lastSegment key
      if (← call (.hget key "status")) ≠ some JobStatus.running.value then
        reapExpiredLeases now rest
      else if ← call (.existsLease jobId) then
        reapExpiredLeases now rest
      else
        match ← backend.release jobId now with
        | .error error => return .error error
        | .ok released =>
            match ← reapExpiredLeases now rest with
            | .error error => return .error error
            | .ok reaped => return .ok (if released then jobId :: reaped else reaped)

/-- All jobs under the keys that the scan yields, given by their job identifiers. Each is
read by the last segment of its key. -/
def allJobs : List String → RedisProg (Except PyError (List Job))
  | [] => return .ok []
  | key :: rest => do
      match ← backend.get (lastSegment key) with
      | .error error => return .error error
      | .ok found =>
          match ← allJobs rest with
          | .error error => return .error error
          | .ok jobs => return .ok (found.toList ++ jobs)

/-- A call on the backend, a sweep, or a lease running out. -/
inductive Op
  | call (op : BackendOp)
  | reap (scanned : List String) (now : Int)
  | lapse (jobId : String)

/-- The program of an operation. -/
def code : Op → RedisProg (Except PyError BackendResult)
  | .call (.enqueue job now) => (·.map .jobId) <$> backend.enqueue job now
  | .call (.dequeue limit jobType queueName) =>
      (·.map .jobs) <$> backend.dequeue limit jobType queueName
  | .call (.claim jobId hostId workerId now) =>
      (·.map .flag) <$> backend.claim jobId hostId workerId now
  | .call (.release jobId now) => (·.map .flag) <$> backend.release jobId now
  | .call (.heartbeat jobId now) => (·.map .flag) <$> backend.heartbeat jobId now
  | .call (.updateStatus jobId status now) =>
      (·.map .flag) <$> backend.updateStatus jobId status now
  | .call (.recordAttempt jobId error now) =>
      (·.map .flag) <$> backend.recordAttempt jobId error now
  | .reap scanned now => (·.map .jobIds) <$> backend.reapExpiredLeases now scanned
  | .lapse jobId => do
      call (.lapse jobId)
      return .ok (.flag true)

/-- The backend as an implementation of the contract, each method run alone. -/
def contract : QueueBackend RedisServer where
  enqueue job now := (backend.enqueue job now).run RedisServer.exec
  dequeue limit jobType queueName server :=
    ((backend.dequeue limit jobType queueName).run RedisServer.exec server).1
  claim jobId hostId workerId now :=
    (backend.claim jobId hostId workerId now).run RedisServer.exec
  release jobId now := (backend.release jobId now).run RedisServer.exec
  heartbeat jobId now := (backend.heartbeat jobId now).run RedisServer.exec
  get jobId server := ((backend.get jobId).run RedisServer.exec server).1
  updateStatus jobId status now := (backend.updateStatus jobId status now).run RedisServer.exec
  recordAttempt jobId error now := (backend.recordAttempt jobId error now).run RedisServer.exec

/-- Clients of one server, their commands interleaved. -/
def machine (ι : Type) (backend : RedisQueueBackend) :
    Machine ι Op RedisCall RedisCall.Reply (Except PyError BackendResult) RedisServer where
  exec := RedisServer.exec
  code _ := backend.code

end RedisQueueBackend

end CloudDogJobs
