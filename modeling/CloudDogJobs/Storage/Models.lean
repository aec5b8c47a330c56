import CloudDogJobs.Domain.Codec

/-!
# Rows of the jobs table

`storage/sqlalchemy/models.py`: the columns of the `jobs` table and the mapping
from a row to a job. A JSON column gives back the object that was stored, or the
text of it on a driver that does not decode it; `loads` is `json.loads`.
-/

namespace CloudDogJobs

open Foundation

/-- The value of a JSON column. -/
inductive JsonCell
  | object (dict : Dict String Value)
  | text (text : String)

/-- The columns of the jobs table. -/
structure JobRow where
  jobId : String
  jobType : String
  queueName : String
  payload : JsonCell
  metadata : JsonCell
  status : String
  priority : Int
  claimedBy : Option String
  createdAt : Int
  updatedAt : Int

namespace JsonCell

/-- `json.loads` on a text, the object itself otherwise. -/
def decode (loads : String → Except PyError Value) : JsonCell → Except PyError (Dict String Value)
  | .object dict => .ok dict
  | .text encoded => do (← loads encoded).asDict

/-- `cell or {}`, then decoded. -/
def decodeOrEmpty (loads : String → Except PyError Value) :
    JsonCell → Except PyError (Dict String Value)
  | .object dict => .ok dict
  | .text encoded => if encoded = "" then .ok ∅ else decode loads (.text encoded)

end JsonCell

/-- An error kept as a text becomes a dictionary with a message. -/
def lastErrorOf : Option Value → Option (Dict String Value)
  | some (.str text) => some (Dict.empty.set "message" (.str text))
  | cell => Value.toOptDict cell

/-- `int(cell or fallback)` -/
def countOf (cell : Option Value) (fallback : Int) : Except PyError Int :=
  match cell with
  | some value => if value.truthy then value.toInt else .ok fallback
  | none => .ok fallback

/-- The counts in the metadata decode. -/
structure CountsDecode (metadata : Dict String Value) : Prop where
  attempts : ∃ count, countOf (metadata.get? "attempts") 0 = .ok count
  maxAttempts : ∃ count, countOf (metadata.get? "max_attempts") 3 = .ok count

theorem CountsDecode.set {metadata : Dict String Value} (counts : CountsDecode metadata)
    {key : String} (value : Value) (attempts : "attempts" ≠ key)
    (maxAttempts : "max_attempts" ≠ key) : CountsDecode (metadata.set key value) where
  attempts := by
    rw [Dict.get?_set_of_ne _ _ attempts]
    exact counts.attempts
  maxAttempts := by
    rw [Dict.get?_set_of_ne _ _ maxAttempts]
    exact counts.maxAttempts

/-- The job of a row. The table has no `attempt_count` column. -/
def rowToJob (loads : String → Except PyError Value) (row : JobRow) : Except PyError Job := do
  let payload ← row.payload.decode loads
  let metadata ← row.metadata.decodeOrEmpty loads
  let text := fun key => Value.toOptStr (metadata.get? key)
  let status ← JobStatus.parse row.status
  let attempt ← countOf (metadata.get? "attempts") 0
  let maxAttempts ← countOf (metadata.get? "max_attempts") 3
  return {
    jobId := row.jobId
    jobType := row.jobType
    queueName := row.queueName
    payload := payload
    status := status
    priority := row.priority
    createdAt := row.createdAt
    updatedAt := row.updatedAt
    claimedBy := row.claimedBy
    appId := text "app_id"
    tenantId := text "tenant_id"
    hostId := text "host_id"
    workerId := text "worker_id"
    idempotencyKey := text "idempotency_key"
    correlationId := text "correlation_id"
    userId := text "user_id"
    sessionId := text "session_id"
    channelId := text "channel_id"
    callbackUrl := text "callback_url"
    callbackMethod := (text "callback_method").getD "POST"
    callbackHeaders := .ofList ((metadata.getD "callback_headers" .none).strItems)
    requestSource := text "request_source"
    requestIp := text "request_ip"
    requestAuthMethod := text "request_auth_method"
    requestAuthIdentity := text "request_auth_identity"
    requestUserAgent := text "request_user_agent"
    attempt := attempt
    maxAttempts := maxAttempts
    lastError := lastErrorOf (metadata.get? "last_error")
    resultRef := Value.toOpt (metadata.get? "result")
    progress := Value.toOptDict (metadata.get? "progress") }

end CloudDogJobs
