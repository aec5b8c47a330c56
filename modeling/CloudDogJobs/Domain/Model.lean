import CloudDogJobs.Foundation.Dict

/-!
# Job model

The records and enumerations of `domain/enums.py`, `domain/errors.py` and
`domain/models.py`. Timestamps are integers, microseconds since the epoch. The
clock and the generator of job identifiers are inputs of the functions that read
them.
-/

namespace CloudDogJobs

open Foundation

/-- Canonical job lifecycle states. -/
inductive JobStatus
  | queued
  | scheduled
  | running
  | retryWait
  | paused
  | timeout
  | ttlExpired
  | succeeded
  | failed
  | cancelled
  | created
  | validated
  | dispatched
  | blocked
  | deadLettered
  | archived
  deriving DecidableEq, Repr

namespace JobStatus

/-- The stored text of a status. -/
def value : JobStatus → String
  | queued => "queued"
  | scheduled => "scheduled"
  | running => "running"
  | retryWait => "retry_wait"
  | paused => "paused"
  | timeout => "timeout"
  | ttlExpired => "ttl_expired"
  | succeeded => "succeeded"
  | failed => "failed"
  | cancelled => "cancelled"
  | created => "created"
  | validated => "validated"
  | dispatched => "dispatched"
  | blocked => "blocked"
  | deadLettered => "dead_lettered"
  | archived => "archived"

/-- All members, in declaration order. -/
def members : List JobStatus :=
  [queued, scheduled, running, retryWait, paused, timeout, ttlExpired, succeeded, failed,
    cancelled, created, validated, dispatched, blocked, deadLettered, archived]

/-- `JobStatus(text)`, with `none` for the `ValueError` on an unknown text. -/
def ofValue? (text : String) : Option JobStatus :=
  members.find? fun status => status.value = text

@[simp] theorem ofValue?_value (status : JobStatus) : ofValue? status.value = some status := by
  cases status <;> decide

theorem ofValue?_eq_some {text : String} {status : JobStatus}
    (parsed : ofValue? text = some status) : status.value = text := by
  simpa using List.find?_some parsed

theorem value_injective : Function.Injective value := by
  intro first second same
  have parsed := ofValue?_value first
  rw [same, ofValue?_value] at parsed
  exact (Option.some.inj parsed).symm

@[simp] theorem value_inj {first second : JobStatus} :
    first.value = second.value ↔ first = second :=
  value_injective.eq_iff

end JobStatus

/-- The exceptions that the modelled code raises or lets through. -/
inductive PyError
  | permissionError (message : String)
  | keyError (message : String)
  | valueError (message : String)
  | timeoutError (message : String)
  /-- "Adding depends_on=… for job … would create a dependency cycle" -/
  | dependencyCycleError (jobId : String) (dependsOn : List String)
  | integrityError (message : String)
  | typeError (message : String)
  | attributeError (message : String)
  | redisError (message : String)
  /-- An `Exception` raised by code outside the package: a handler, a notifier. -/
  | raised (message : String)
  /-- A `BaseException` that is not an `Exception`, such as `SystemExit`. -/
  | interrupt (message : String)
  deriving DecidableEq, Repr

/-- `JobStatus(text)` -/
def JobStatus.parse (text : String) : Except PyError JobStatus :=
  match ofValue? text with
  | some status => .ok status
  | none => .error (.valueError ("'" ++ text ++ "' is not a valid JobStatus"))

@[simp] theorem JobStatus.parse_value (status : JobStatus) : parse status.value = .ok status := by
  simp [parse]

theorem JobStatus.value_of_parse {text : String} {status : JobStatus}
    (parsed : parse text = .ok status) : status.value = text := by
  unfold parse at parsed
  split at parsed
  · next found =>
      cases parsed
      exact ofValue?_eq_some found
  · cases parsed

/-- Whether `except Exception` catches it. -/
def PyError.isException : PyError → Bool
  | .interrupt _ => false
  | _ => true

/-- `str(exc)`; the list in the cycle message is kept as data. -/
def PyError.str : PyError → String
  | .permissionError message => message
  | .keyError message => message
  | .valueError message => message
  | .timeoutError message => message
  | .dependencyCycleError jobId dependsOn =>
      "Adding depends_on=" ++ String.intercalate ", " dependsOn ++ " for job " ++ jobId ++
        " would create a dependency cycle"
  | .integrityError message => message
  | .typeError message => message
  | .attributeError message => message
  | .redisError message => message
  | .raised message => message
  | .interrupt message => message

/-- Plain Python values, as payloads and metadata hold them. A float is kept as
the text Python prints for it. -/
inductive Value
  | none
  | bool (value : Bool)
  | int (value : Int)
  | float (text : String)
  | str (text : String)
  | list (items : List Value)
  | tuple (items : List Value)
  | dict (items : List (String × Value))
  deriving Repr

namespace Value

/-- An optional string as a value. -/
def ofOptStr : Option String → Value
  | some text => .str text
  | Option.none => .none

/-- A metadata cell as an optional string field. The writers only store strings
and `None` there. -/
def toOptStr : Option Value → Option String
  | some (.str text) => some text
  | _ => Option.none

@[simp] theorem toOptStr_str (text : String) : toOptStr (some (.str text)) = some text := rfl

@[simp] theorem toOptStr_ofOptStr (field : Option String) :
    toOptStr (some (ofOptStr field)) = field := by
  cases field <;> rfl

/-- A dictionary of strings as a value. -/
def ofStrDict (dict : Dict String String) : Value :=
  .dict (dict.entries.map fun entry => (entry.1, .str entry.2))

/-- The string entries of a dictionary value; anything else has none. -/
def strItems : Value → List (String × String)
  | .dict items => items.filterMap fun item =>
      match item.2 with
      | .str text => some (item.1, text)
      | _ => Option.none
  | _ => []

@[simp] theorem strItems_ofStrDict (dict : Dict String String) :
    (ofStrDict dict).strItems = dict.entries := by
  simp only [ofStrDict, strItems]
  rw [List.filterMap_map]
  exact List.filterMap_some

end Value

/-- Input for creating a new queued job. -/
structure JobRequest where
  jobType : String
  queueName : String := "default"
  payload : Dict String Value := ∅
  priority : Int := 0
  appId : Option String := none
  tenantId : Option String := none
  userId : Option String := none
  sessionId : Option String := none
  channelId : Option String := none
  idempotencyKey : Option String := none
  correlationId : Option String := none
  resources : Dict String Int := ∅
  dependsOn : List String := []
  callbackUrl : Option String := none
  callbackMethod : String := "POST"
  callbackHeaders : Dict String String := ∅
  requestSource : Option String := none
  requestIp : Option String := none
  requestAuthMethod : Option String := none
  requestAuthIdentity : Option String := none
  requestUserAgent : Option String := none

/-- Persistent representation of a queued job. -/
structure Job where
  jobId : String
  jobType : String
  queueName : String
  payload : Dict String Value
  status : JobStatus
  priority : Int
  createdAt : Int
  updatedAt : Int
  appId : Option String := none
  tenantId : Option String := none
  hostId : Option String := none
  workerId : Option String := none
  idempotencyKey : Option String := none
  correlationId : Option String := none
  userId : Option String := none
  sessionId : Option String := none
  channelId : Option String := none
  callbackUrl : Option String := none
  callbackMethod : String := "POST"
  callbackHeaders : Dict String String := ∅
  requestSource : Option String := none
  requestIp : Option String := none
  requestAuthMethod : Option String := none
  requestAuthIdentity : Option String := none
  requestUserAgent : Option String := none
  claimedBy : Option String := none
  resources : Dict String Int := ∅
  dependsOn : List String := []
  attempt : Int := 0
  maxAttempts : Int := 3
  nextRunAt : Option Int := none
  startedAt : Option Int := none
  finishedAt : Option Int := none
  lastHeartbeatAt : Option Int := none
  lastError : Option (Dict String Value) := none
  resultRef : Option Value := none
  progress : Option (Dict String Value) := none
  runTimeoutMs : Option Int := none
  claimTimeoutMs : Option Int := none
  traceId : Option String := none
  version : Int := 0

namespace Job

/-- Metadata fields for compact backend storage. -/
def toMetaDict (job : Job) : Dict String Value where
  entries :=
    [("app_id", .ofOptStr job.appId),
     ("tenant_id", .ofOptStr job.tenantId),
     ("host_id", .ofOptStr job.hostId),
     ("worker_id", .ofOptStr job.workerId),
     ("idempotency_key", .ofOptStr job.idempotencyKey),
     ("correlation_id", .ofOptStr job.correlationId),
     ("user_id", .ofOptStr job.userId),
     ("session_id", .ofOptStr job.sessionId),
     ("channel_id", .ofOptStr job.channelId),
     ("callback_url", .ofOptStr job.callbackUrl),
     ("callback_method", .str job.callbackMethod),
     ("callback_headers", .ofStrDict job.callbackHeaders),
     ("request_source", .ofOptStr job.requestSource),
     ("request_ip", .ofOptStr job.requestIp),
     ("request_auth_method", .ofOptStr job.requestAuthMethod),
     ("request_auth_identity", .ofOptStr job.requestAuthIdentity),
     ("request_user_agent", .ofOptStr job.requestUserAgent)]
  nodup := by simp

/-- Create a queued job from a request; `jobId` is the fresh `uuid4` and `now`
the time of the call. -/
def fromRequest (request : JobRequest) (jobId : String) (now : Int) : Job where
  jobId := jobId
  jobType := request.jobType
  queueName := request.queueName
  payload := request.payload
  status := .queued
  priority := request.priority
  createdAt := now
  updatedAt := now
  appId := request.appId
  tenantId := request.tenantId
  idempotencyKey := request.idempotencyKey
  correlationId := request.correlationId
  userId := request.userId
  sessionId := request.sessionId
  channelId := request.channelId
  callbackUrl := request.callbackUrl
  callbackMethod := request.callbackMethod
  callbackHeaders := request.callbackHeaders
  requestSource := request.requestSource
  requestIp := request.requestIp
  requestAuthMethod := request.requestAuthMethod
  requestAuthIdentity := request.requestAuthIdentity
  requestUserAgent := request.requestUserAgent
  resources := request.resources
  dependsOn := request.dependsOn

/-- The fields of a job that a request sets. -/
def request (job : Job) : JobRequest where
  jobType := job.jobType
  queueName := job.queueName
  payload := job.payload
  priority := job.priority
  appId := job.appId
  tenantId := job.tenantId
  userId := job.userId
  sessionId := job.sessionId
  channelId := job.channelId
  idempotencyKey := job.idempotencyKey
  correlationId := job.correlationId
  resources := job.resources
  dependsOn := job.dependsOn
  callbackUrl := job.callbackUrl
  callbackMethod := job.callbackMethod
  callbackHeaders := job.callbackHeaders
  requestSource := job.requestSource
  requestIp := job.requestIp
  requestAuthMethod := job.requestAuthMethod
  requestAuthIdentity := job.requestAuthIdentity
  requestUserAgent := job.requestUserAgent

@[simp] theorem request_fromRequest (request : JobRequest) (jobId : String) (now : Int) :
    (fromRequest request jobId now).request = request := rfl

end Job

end CloudDogJobs
