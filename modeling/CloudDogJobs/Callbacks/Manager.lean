import Mathlib.Algebra.Order.Field.Rat
import CloudDogJobs.Domain.Codec
import CloudDogJobs.Foundation.Sequence

/-!
# Callback manager

`callbacks/manager.py` with a database: the registry in memory, the rows of
`job_callbacks`, and delivery with retries. The statements of one call are
executed without failure. A registration is a mutable object that only the
registry refers to, so it is a value of the dictionary here.
-/

namespace CloudDogJobs

open Foundation

/-- Delivery retry configuration. -/
structure RetryPolicy where
  maxAttempts : Int := 3
  baseDelaySeconds : Rat := 1 / 10
  maxDelaySeconds : Rat := 2
  backoffMultiplier : Rat := 2
  deriving DecidableEq

/-- Callback endpoint metadata. -/
structure CallbackRegistration where
  url : String
  method : String := "POST"
  headers : Dict String String := ∅
  retryPolicy : RetryPolicy := {}
  attemptCount : Int := 0
  lastError : Option String := none
  deriving DecidableEq

/-- A number in a JSON column. -/
inductive JsonNumber
  | int (value : Int)
  | float (value : Rat)
  deriving DecidableEq

namespace JsonNumber

/-- `int(number)`, which cuts towards zero. -/
def toInt : JsonNumber → Except PyError Int
  | .int value => .ok value
  | .float value => .ok (value.num.tdiv value.den)

/-- `float(number)`. -/
def toFloat : JsonNumber → Except PyError Rat
  | .int value => .ok value
  | .float value => .ok value

end JsonNumber

/-- A row of `job_callbacks`, without its primary key. -/
structure CallbackRow where
  callbackUrl : String
  method : String
  headers : Dict String String
  retryPolicy : Dict String JsonNumber
  attemptCount : Int
  lastError : Option String
  createdAt : Int
  updatedAt : Int

/-- The `retry_policy` argument of `register_callback`. -/
inductive RetryPolicyArgument
  | none
  | policy (policy : RetryPolicy)
  | fields (fields : Dict String Value)

/-- The policy of a dictionary, with the defaults for what is missing. -/
def normaliseFields {ν : Type} (int : ν → Except PyError Int) (float : ν → Except PyError Rat)
    (fields : Dict String ν) : Except PyError RetryPolicy := do
  let maxAttempts ← (fields.get? "max_attempts").elim (.ok 3) int
  let baseDelaySeconds ← (fields.get? "base_delay_seconds").elim (.ok (1 / 10)) float
  let maxDelaySeconds ← (fields.get? "max_delay_seconds").elim (.ok 2) float
  let backoffMultiplier ← (fields.get? "backoff_multiplier").elim (.ok 2) float
  return { maxAttempts, baseDelaySeconds, maxDelaySeconds, backoffMultiplier }

def normaliseRetryPolicy (builtins : Builtins) :
    RetryPolicyArgument → Except PyError RetryPolicy
  | .none => .ok {}
  | .policy policy => .ok policy
  | .fields fields => normaliseFields builtins.int builtins.float fields

/-- Allow only HTTP and HTTPS URLs; `urlparse` gives the scheme or raises. -/
def validateCallbackUrl (urlparse : String → Except PyError String) (url : String) :
    Except PyError Unit := do
  let scheme ← urlparse url
  if scheme = "http" ∨ scheme = "https" then .ok ()
  else .error (.valueError "Only http/https callback URLs are allowed")

/-- What one request ends in: a status code, an `Exception` with its text, or an
exception that leaves the handler: one that is not an `Exception`, or one whose
text cannot be taken. -/
inductive RequestOutcome
  | answered (statusCode : Int)
  | raised (text : String)
  | escaped (error : PyError)

namespace RequestOutcome

/-- The error that a failed attempt notes; none for a success. -/
def lastError : RequestOutcome → Option String
  | .answered statusCode =>
      if 200 ≤ statusCode ∧ statusCode < 300 then none else some ("HTTP " ++ toString statusCode)
  | .raised text => some text
  | .escaped _ => none

/-- The attempt failed, and the handler has noted it. -/
def fails (outcome : RequestOutcome) : Prop := outcome.lastError.isSome = true

/-- The exception leaves the handler. -/
def escapes : RequestOutcome → Prop
  | .escaped _ => True
  | _ => False

end RequestOutcome

/-- What the attempts of one delivery meet, by the number of the attempt: the
outcome of the request, and of the sleep after it for a number of seconds. -/
structure Surroundings where
  request : Nat → RequestOutcome
  sleep : Nat → Rat → Except PyError Unit

/-- The manager with its database. -/
structure CallbackManager where
  registry : Dict String CallbackRegistration
  table : Dict String CallbackRow

namespace CallbackManager

/-- The policy as the `retry_policy` column holds it. -/
def policyColumn (policy : RetryPolicy) : Dict String JsonNumber :=
  Dict.ofList [("max_attempts", .int policy.maxAttempts),
    ("base_delay_seconds", .float policy.baseDelaySeconds),
    ("max_delay_seconds", .float policy.maxDelaySeconds),
    ("backoff_multiplier", .float policy.backoffMultiplier)]

/-- The row that `_persist` writes. -/
def rowOf (registration : CallbackRegistration) (createdAt updatedAt : Int) : CallbackRow where
  callbackUrl := registration.url
  method := registration.method
  headers := registration.headers
  retryPolicy := policyColumn registration.retryPolicy
  attemptCount := registration.attemptCount
  lastError := registration.lastError
  createdAt := createdAt
  updatedAt := updatedAt

/-- The registration that `_load_persisted` makes of a row. -/
def registrationOf (row : CallbackRow) : Except PyError CallbackRegistration := do
  let retryPolicy ← normaliseFields JsonNumber.toInt JsonNumber.toFloat row.retryPolicy
  return {
    url := row.callbackUrl
    method := row.method
    headers := row.headers
    retryPolicy := retryPolicy
    attemptCount := row.attemptCount
    lastError := row.lastError }

/-- The loop of `_load_persisted` over the selected rows. -/
def loadRows : List (String × CallbackRow) → Dict String CallbackRegistration →
    Except PyError (Dict String CallbackRegistration)
  | [], registry => .ok registry
  | (jobId, row) :: rest, registry => do
      let registration ← registrationOf row
      loadRows rest (registry.set jobId registration)

/-- The registry of a manager opened on a table whose rows come in this order. -/
def loadPersisted (rows : List (String × CallbackRow)) :
    Except PyError (Dict String CallbackRegistration) :=
  loadRows rows ∅

/-- Insert or update the row of a job. -/
def persist (manager : CallbackManager) (jobId : String) (registration : CallbackRegistration)
    (now : Int) : CallbackManager :=
  match manager.table.get? jobId with
  | none => { manager with table := manager.table.set jobId (rowOf registration now now) }
  | some row =>
      { manager with table := manager.table.set jobId (rowOf registration row.createdAt now) }

/-- Update the attempt columns of the row of a job. -/
def persistAttempt (manager : CallbackManager) (jobId : String)
    (registration : CallbackRegistration) (now : Int) : CallbackManager :=
  { manager with
    table := manager.table.modify jobId fun row =>
      { row with
        attemptCount := registration.attemptCount
        lastError := registration.lastError
        updatedAt := now } }

/-- Store a registration in the registry and in the table. -/
def record (manager : CallbackManager) (jobId : String) (registration : CallbackRegistration)
    (now : Int) : CallbackManager :=
  { manager with registry := manager.registry.set jobId registration }.persist jobId registration
    now

section Calls

variable (builtins : Builtins) (urlparse : String → Except PyError String)

/-- Register a callback with a retry policy. -/
def registerCallback (manager : CallbackManager) (jobId url : String)
    (headers : Option (Dict String String)) (policy : RetryPolicyArgument) (now : Int) :
    Except PyError Unit × CallbackManager :=
  match validateCallbackUrl urlparse url with
  | .error error => (.error error, manager)
  | .ok () =>
      match normaliseRetryPolicy builtins policy with
      | .error error => (.error error, manager)
      | .ok retryPolicy =>
          (.ok (), manager.record jobId
            { url := url, headers := headers.getD ∅, retryPolicy := retryPolicy } now)

/-- The older form of registration, with a method and the default policy. -/
def register (manager : CallbackManager) (jobId url method : String)
    (headers : Option (Dict String String)) (now : Int) :
    Except PyError Unit × CallbackManager :=
  match validateCallbackUrl urlparse url with
  | .error error => (.error error, manager)
  | .ok () =>
      (.ok (), manager.record jobId
        { url := url, method := method, headers := headers.getD ∅ } now)

end Calls

/-- Remove a registration; whether the registry had one. -/
def unregister (manager : CallbackManager) (jobId : String) : Bool × CallbackManager :=
  ((manager.registry.get? jobId).isSome,
    { registry := manager.registry.erase jobId, table := manager.table.erase jobId })

def delayForAttempt (policy : RetryPolicy) (attempt : Nat) : Rat :=
  min policy.maxDelaySeconds (policy.baseDelaySeconds * policy.backoffMultiplier ^ (attempt - 1))

/-- Write the registration back after an attempt. -/
def note (manager : CallbackManager) (jobId : String) (registration : CallbackRegistration) :
    CallbackManager :=
  { manager with registry := manager.registry.set jobId registration }

/-- The loop of `_deliver` from an attempt on, with the number of attempts that
are left. -/
def deliverFrom (jobId : String) (policy : RetryPolicy) (surroundings : Surroundings) (now : Int) :
    (remaining attempt : Nat) → CallbackRegistration → CallbackManager →
      Except PyError Bool × CallbackManager
  | 0, _, _, manager => (.ok false, manager)
  | remaining + 1, attempt, callback, manager =>
      let counted := { callback with attemptCount := callback.attemptCount + 1 }
      match surroundings.request attempt with
      | .escaped error => (.error error, manager.note jobId counted)
      | outcome =>
          let noted := { counted with lastError := outcome.lastError }
          let next := (manager.note jobId noted).persistAttempt jobId noted now
          if outcome.lastError.isNone then (.ok true, next)
          else if (attempt : Int) < policy.maxAttempts then
            match surroundings.sleep attempt (delayForAttempt policy attempt) with
            | .error error => (.error error, next)
            | .ok () =>
                deliverFrom jobId policy surroundings now remaining (attempt + 1) noted next
          else deliverFrom jobId policy surroundings now remaining (attempt + 1) noted next

/-- Deliver with at most `max(1, max_attempts)` attempts. -/
def deliver (manager : CallbackManager) (jobId : String) (callback : CallbackRegistration)
    (policy : RetryPolicy) (surroundings : Surroundings) (now : Int) :
    Except PyError Bool × CallbackManager :=
  deliverFrom jobId policy surroundings now (max 1 policy.maxAttempts).toNat 1 callback manager

/-- Trigger a callback with a given number of retries. -/
def trigger (manager : CallbackManager) (jobId : String) (retries : Int)
    (surroundings : Surroundings) (now : Int) : Except PyError Bool × CallbackManager :=
  match manager.registry.get? jobId with
  | none => (.ok false, manager)
  | some callback =>
      manager.deliver jobId callback
        { callback.retryPolicy with maxAttempts := max 1 (retries + 1) } surroundings now

/-- Trigger a completion callback by the policy of its registration. -/
def triggerJobCompletion (manager : CallbackManager) (jobId : String)
    (surroundings : Surroundings) (now : Int) : Except PyError Bool × CallbackManager :=
  match manager.registry.get? jobId with
  | none => (.ok false, manager)
  | some callback =>
      manager.deliver jobId callback callback.retryPolicy surroundings now

end CallbackManager

end CloudDogJobs
