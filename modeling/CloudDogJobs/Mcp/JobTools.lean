import CloudDogJobs.Fanout.Manager

/-!
# Tools of the MCP server

`mcp/job_tools.py` and `async_jobs/mcp_adapter.py`: the handlers of the four job tools,
and the adapter that submits a tool call as a job. Arguments and responses are plain
values. A handler catches every `Exception` and answers with its text; what is no
`Exception` passes through.
-/

namespace CloudDogJobs

open Foundation FanOutSpec

/-- `_mcp_error` -/
def mcpError (message : String) (code : String := "internal_error") : Value :=
  .dict [("error", .dict [("code", .str code), ("message", .str message)])]

/-- `except Exception as exc: return _mcp_error(str(exc), code=…)` -/
def answering (code : String) : Except PyError Value → Except PyError Value
  | .ok response => .ok response
  | .error error => if error.isException then .ok (mcpError error.str code) else .error error

/-- `arguments[key]`; the text of a `KeyError` is the key in quotes. -/
def requiredArgument (arguments : Dict String Value) (key : String) : Except PyError Value :=
  match arguments.get? key with
  | some value => .ok value
  | none => .error (.keyError ("'" ++ key ++ "'"))

/-- The request that `jobs.create` makes of its arguments. -/
def createRequest (builtins : Builtins) (arguments : Dict String Value) :
    Except PyError JobRequest := do
  let jobType ← requiredArgument arguments "job_type"
  let payload ← builtins.dict (getOr arguments "payload" (.dict []))
  let priority ← builtins.int (getOr arguments "priority" (.int 0))
  return {
    jobType := builtins.str jobType
    payload := payload
    queueName := builtins.str (getOr arguments "queue_name" (.str "default"))
    priority := priority }

namespace Job

/-- The response of `jobs.status`. -/
def statusResponse (job : Job) : Value :=
  .dict [("job_id", .str job.jobId), ("status", .str job.status.value),
    ("job_type", .str job.jobType), ("queue_name", .str job.queueName)]

/-- An item of the response of `jobs.list`. -/
def listItem (job : Job) : Value :=
  .dict [("job_id", .str job.jobId), ("job_type", .str job.jobType),
    ("status", .str job.status.value), ("queue_name", .str job.queueName),
    ("priority", .int job.priority)]

/-- The response of `get_result`. -/
def resultResponse (job : Job) : Value :=
  .dict [("status", .str job.status.value), ("job_id", .str job.jobId),
    ("payload", .ofDict job.payload)]

end Job

/-- A call of a tool, with the `uuid4` and the time of a job that it creates. -/
inductive ToolCall
  | create (arguments : Dict String Value) (jobId : String) (now : Int)
  | status (arguments : Dict String Value)
  | cancel (arguments : Dict String Value) (now : Int)
  | list (arguments : Dict String Value)
  | submitAsync (toolName : String) (arguments : Dict String Value) (jobId : String) (now : Int)
  | getResult (jobId : String)

namespace JobQueue

variable {σ : Type} (queue : JobQueue) (backend : QueueBackend σ) (builtins : Builtins)

/-- List queued jobs in dispatch order. -/
def list (limit : Int) (jobType : Option String) (state : QueueState σ) :
    Except PyError (List Job) :=
  backend.dequeue limit jobType none state.shared.store

/-- Create handler. -/
def createHandler (arguments : Dict String Value) (jobId : String) (now : Int)
    (state : QueueState σ) : Except PyError Value × QueueState σ :=
  match createRequest builtins arguments with
  | .error error => (answering "invalid_request" (.error error), state)
  | .ok request =>
      let (submitted, next) := queue.submit backend request jobId now state
      (answering "invalid_request" (submitted.map fun jobId => .dict [("job_id", .str jobId)]),
        next)

/-- Handle status handler. -/
def statusHandler (arguments : Dict String Value) (state : QueueState σ) :
    Except PyError Value :=
  answering "internal_error" do
    let jobId ← requiredArgument arguments "job_id"
    let found ← backend.get (builtins.str jobId) state.shared.store
    return match found with
      | none => mcpError "job not found" "not_found"
      | some job => job.statusResponse

/-- Handle cancel handler. -/
def cancelHandler (arguments : Dict String Value) (now : Int) (state : QueueState σ) :
    Except PyError Value × QueueState σ :=
  match requiredArgument arguments "job_id" with
  | .error error => (answering "internal_error" (.error error), state)
  | .ok value =>
      let jobId := builtins.str value
      let (cancelled, shared) := (cancel jobId now).run (Shared.exec backend) state.shared
      (answering "internal_error" (cancelled.map fun found =>
          .dict [("job_id", .str jobId), ("cancelled", .bool found)]),
        { state with shared := shared })

/-- The jobs that `jobs.list` lists. A filter that is no text equals no job type. -/
def listed (limit : Int) (state : QueueState σ) : Option Value → Except PyError (List Job)
  | none => list backend limit none state
  | some .none => list backend limit none state
  | some (.str jobType) => list backend limit (some jobType) state
  | some _ => .ok []

/-- List handler. -/
def listHandler (arguments : Dict String Value) (state : QueueState σ) : Except PyError Value :=
  answering "internal_error" do
    let limit ← builtins.int (getOr arguments "limit" (.int 50))
    let jobs ← listed backend limit state (arguments.get? "job_type")
    return .dict [("items", .list (jobs.map Job.listItem))]

/-- Submit async job and return job ID. -/
def submitAsync (toolName : String) (arguments : Dict String Value) (jobId : String) (now : Int)
    (state : QueueState σ) : Except PyError Value × QueueState σ :=
  let (submitted, next) :=
    queue.submit backend { jobType := toolName, payload := arguments } jobId now state
  (submitted.map .str, next)

/-- Return current status payload for a job. -/
def getResult (jobId : String) (state : QueueState σ) : Except PyError Value := do
  let found ← backend.get jobId state.shared.store
  return match found with
    | none => .dict [("status", .str "not_found")]
    | some job => job.resultResponse

/-- The response of a call, and the queue after it. -/
def callTool : ToolCall → QueueState σ → Except PyError Value × QueueState σ
  | .create arguments jobId now, state =>
      queue.createHandler backend builtins arguments jobId now state
  | .status arguments, state => (statusHandler backend builtins arguments state, state)
  | .cancel arguments now, state => cancelHandler backend builtins arguments now state
  | .list arguments, state => (listHandler backend builtins arguments state, state)
  | .submitAsync toolName arguments jobId now, state =>
      queue.submitAsync backend toolName arguments jobId now state
  | .getResult jobId, state => (getResult backend jobId state, state)

end JobQueue

end CloudDogJobs
