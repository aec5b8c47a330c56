import CloudDogJobs.Storage.Repository

/-!
# Storing a request in SQL and reading it back

`enqueue` splits a job between columns and the metadata object, `row_to_job` puts
it together again. Neither side knows the resources and the dependencies of a job,
so a job comes back without them: it equals what was enqueued, in the fields that
a request sets, exactly when the request has neither.
-/

namespace CloudDogJobs

open Foundation

/-- What the row of a new job gives back: everything but its resources and its
dependencies. -/
theorem rowToJob_rowOf (loads : String → Except PyError Value) (request : JobRequest)
    (jobId : String) (now : Int) :
    rowToJob loads (SQLAlchemyJobRepository.rowOf (.fromRequest request jobId now)) =
      .ok { Job.fromRequest request jobId now with resources := ∅, dependsOn := [] } := by
  simp [rowToJob, SQLAlchemyJobRepository.rowOf, JsonCell.decode, JsonCell.decodeOrEmpty,
    Job.toMetaDict, Dict.get?, Dict.getD, List.lookup_cons, countOf, lastErrorOf, Value.toOpt,
    Value.toOptDict, Job.fromRequest, bind, Except.bind, pure, Except.pure]

/-- A row that decodes gives a job with its identifier. -/
theorem jobId_of_rowToJob {loads : String → Except PyError Value} {row : JobRow} {job : Job}
    (decoded : rowToJob loads row = .ok job) : job.jobId = row.jobId := by
  unfold rowToJob at decoded
  obtain ⟨payload, _, decoded⟩ := exists_of_bind_ok decoded
  obtain ⟨metadata, _, decoded⟩ := exists_of_bind_ok decoded
  obtain ⟨status, _, decoded⟩ := exists_of_bind_ok decoded
  obtain ⟨attempt, _, decoded⟩ := exists_of_bind_ok decoded
  obtain ⟨maxAttempts, _, decoded⟩ := exists_of_bind_ok decoded
  rw [← Except.ok.inj decoded]

theorem JobTable.mem_values_of_mem_selectQueued {table : JobTable} {limit : Int}
    {jobType queueName : Option String} {row : JobRow}
    (member : row ∈ table.selectQueued limit jobType queueName) : row ∈ table.rows.values := by
  have kept : ∀ rows : List JobRow, row ∈ JobTable.limited limit rows → row ∈ rows := by
    intro rows inside
    unfold JobTable.limited at inside
    split at inside
    · exact inside
    · exact List.mem_of_mem_take inside
  have sorted := kept _ member
  rw [List.mem_insertionSort] at sorted
  exact (List.mem_filter.mp sorted).1

namespace SQLQueueBackend

variable (backend : SQLQueueBackend) (table : JobTable) (request : JobRequest) (jobId : String)
  (now : Int)

/-- The table after `enqueue` of the job of a request. -/
def afterEnqueue : JobTable :=
  ((enqueue (.fromRequest request jobId now)).run JobTable.exec table).2

/-- `get` and `dequeue` give back the job in every field that the request set. -/
structure RoundTrips : Prop where
  get : ∃ read, ((backend.get jobId).run JobTable.exec (afterEnqueue table request jobId now)).1 =
      .ok (some read) ∧ read.request = (Job.fromRequest request jobId now).request
  dequeue : ∀ limit jobType queueName jobs, ((backend.dequeue limit jobType queueName).run
      JobTable.exec (afterEnqueue table request jobId now)).1 = .ok jobs →
    ∀ read ∈ jobs, read.jobId = jobId →
      read.request = (Job.fromRequest request jobId now).request

variable {table request jobId now}

/-- An `enqueue` that returned has stored the row of the job. -/
theorem get?_afterEnqueue
    (returned : ((enqueue (.fromRequest request jobId now)).run JobTable.exec table).1 =
      .ok jobId) :
    (afterEnqueue table request jobId now).rows.get? jobId =
      some (SQLAlchemyJobRepository.rowOf (.fromRequest request jobId now)) := by
  have inserted : afterEnqueue table request jobId now =
      (table.insert (SQLAlchemyJobRepository.rowOf (.fromRequest request jobId now))).2 := by
    unfold afterEnqueue enqueue SQLAlchemyJobRepository.enqueue
    rw [Prog.issue_bind, Prog.run_act]
    split <;> rfl
  rw [inserted, JobTable.get?_insert]
  cases stored : table.rows.get? jobId with
  | none => exact if_pos ⟨rfl, stored⟩
  | some row =>
      have refused : (table.insert
          (SQLAlchemyJobRepository.rowOf (.fromRequest request jobId now))).1 =
            .error (.integrityError "UNIQUE constraint failed: jobs.job_id") := by
        unfold JobTable.insert
        rw [show table.rows.get? (SQLAlchemyJobRepository.rowOf
          (.fromRequest request jobId now)).jobId = some row from stored]
      unfold enqueue SQLAlchemyJobRepository.enqueue at returned
      rw [Prog.issue_bind, Prog.run_act, show (JobTable.exec (.insert
        (SQLAlchemyJobRepository.rowOf (.fromRequest request jobId now))) table).1 = _
          from refused] at returned
      cases returned

/-- What `get` returns for the job. -/
theorem get_afterEnqueue
    (returned : ((enqueue (.fromRequest request jobId now)).run JobTable.exec table).1 =
      .ok jobId) :
    ((backend.get jobId).run JobTable.exec (afterEnqueue table request jobId now)).1 =
      .ok (some { Job.fromRequest request jobId now with resources := ∅, dependsOn := [] }) := by
  unfold get SQLAlchemyJobRepository.get
  rw [Prog.issue_bind, Prog.run_act]
  simp only [JobTable.exec, get?_afterEnqueue returned, rowToJob_rowOf]
  rfl

/-- Every job that `dequeue` returns under the identifier is the one `get` returns. -/
theorem dequeue_afterEnqueue
    (returned : ((enqueue (.fromRequest request jobId now)).run JobTable.exec table).1 =
      .ok jobId) {limit : Int} {jobType queueName : Option String} {jobs : List Job}
    (dequeued : ((backend.dequeue limit jobType queueName).run JobTable.exec
      (afterEnqueue table request jobId now)).1 = .ok jobs) {read : Job} (member : read ∈ jobs)
    (same : read.jobId = jobId) :
    read = { Job.fromRequest request jobId now with resources := ∅, dependsOn := [] } := by
  obtain ⟨row, selected, decoded⟩ := exists_of_mem_mapM dequeued member
  have stored := JobTable.mem_values_of_mem_selectQueued selected
  obtain ⟨key, found⟩ := ((afterEnqueue table request jobId now).rows.mem_values_iff row).mp stored
  have keyed := (afterEnqueue table request jobId now).keyed key row found
  have sameKey : key = jobId := keyed.symm.trans ((jobId_of_rowToJob decoded).symm.trans same)
  rw [sameKey, get?_afterEnqueue returned] at found
  rw [← Option.some.inj found, rowToJob_rowOf] at decoded
  exact (Except.ok.inj decoded).symm

/-- **The SQL round trip.** After an `enqueue` of the job of a request, `get` and
`dequeue` give it back in every field that the request set if and only if the
request asks for no resources and depends on nothing. -/
theorem round_trips_iff
    (returned : ((enqueue (.fromRequest request jobId now)).run JobTable.exec table).1 =
      .ok jobId) :
    backend.RoundTrips table request jobId now ↔
      request.resources = ∅ ∧ request.dependsOn = [] := by
  constructor
  · intro trips
    obtain ⟨read, found, same⟩ := trips.get
    rw [backend.get_afterEnqueue returned] at found
    obtain rfl := Option.some.inj (Except.ok.inj found)
    exact ⟨(congrArg JobRequest.resources same).symm, (congrArg JobRequest.dependsOn same).symm⟩
  · rintro ⟨bare, free⟩
    have whole : ({ Job.fromRequest request jobId now with resources := ∅, dependsOn := [] } :
        Job).request = (Job.fromRequest request jobId now).request := by
      rw [Job.request_fromRequest]
      cases request
      simp only at bare free
      subst bare free
      rfl
    constructor
    · exact ⟨_, backend.get_afterEnqueue returned, whole⟩
    · intro limit jobType queueName jobs dequeued read member same
      rw [backend.dequeue_afterEnqueue returned dequeued member same]
      exact whole

section Sample

/-- A backend on a driver that decodes JSON columns, so that nothing is left to
load. -/
def decodingBackend : SQLQueueBackend :=
  ⟨⟨fun _ => .error (.valueError "Expecting value: line 1 column 1 (char 0)")⟩⟩

/-- A request with every field set but its dependencies. -/
def taskRequest (resources : Dict String Int) : JobRequest where
  jobType := "task"
  queueName := "nightly"
  payload := Dict.empty.set "pages" (.int 3)
  priority := 3
  appId := some "press"
  tenantId := some "physics"
  userId := some "ann"
  sessionId := some "session-1"
  channelId := some "mail"
  idempotencyKey := some "run-1"
  correlationId := some "trace-1"
  resources := resources
  callbackUrl := some "http://press/done"
  callbackMethod := "PUT"
  callbackHeaders := Dict.empty.set "X-Run" "1"
  requestSource := some "api"
  requestIp := some "10.0.0.1"
  requestAuthMethod := some "token"
  requestAuthIdentity := some "ann"
  requestUserAgent := some "curl"

theorem free_request_round_trips :
    decodingBackend.RoundTrips .empty (taskRequest ∅) "first" 0 :=
  (decodingBackend.round_trips_iff rfl).mpr ⟨rfl, rfl⟩

/-- A request for one slot of a pool comes back without it. -/
theorem resources_lost_in_table :
    ¬ decodingBackend.RoundTrips .empty (taskRequest (Dict.empty.set "gpu" 1)) "first" 0 := by
  intro trips
  obtain ⟨read, found, same⟩ := trips.get
  rw [decodingBackend.get_afterEnqueue rfl] at found
  obtain rfl := Option.some.inj (Except.ok.inj found)
  exact absurd (congrArg JobRequest.resources same) (by decide)

end Sample

end SQLQueueBackend

end CloudDogJobs
