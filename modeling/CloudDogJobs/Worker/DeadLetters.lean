import CloudDogJobs.Foundation.Sequence
import CloudDogJobs.Worker.Letters

/-!
# Dead letters

The dead letters that a worker sends in a run of `run_once` calls on the memory
backend. A dead letter is a queued job of the same type as the job that failed;
only its queue name tells it apart. A worker with a queue of its own never sees
it. A worker without one dequeues from every queue, so it claims its own dead
letters and sends a dead letter for each of those that fails again.
-/

namespace CloudDogJobs

open Foundation WorkerProg

/-! ## Runs of `run_once` -/

/-- The shared objects, and the calls that were made on them so far. -/
structure WorkerLog (σ : Type) where
  shared : Shared σ
  log : List (Sigma WorkerCall.Reply) := []

/-- One call of `run_once`. -/
def Worker.round {σ : Type} (worker : Worker) (backend : QueueBackend σ) (state : WorkerLog σ)
    (inputs : RunInputs) : WorkerLog σ where
  shared := ((worker.runOnce inputs).run (Shared.exec backend) state.shared).2
  log := state.log ++ (worker.runOnce inputs).trace (Shared.exec backend) state.shared

/-- The identifier that a letter names as its source. -/
def source (copy : Job) : Option Value := copy.payload.get? "source_job_id"

/-- The letter records the identifier and the payload of a job of the start. -/
def RecordsOriginal (start : MemoryQueueBackend) (copy : Job) : Prop :=
  ∃ original, start.get original.jobId = some original ∧
    source copy = some (.str original.jobId) ∧
      copy.payload.get? "original_payload" = some (.dict original.payload.entries)

/-- Each job of the start gave rise to at most one dead letter, which records its
identifier and its payload, and no dead letter was claimed. -/
structure NotReprocessed (start : MemoryQueueBackend) (log : List (Sigma WorkerCall.Reply)) :
    Prop where
  once : ((letters log).map source).Nodup
  recorded : ∀ copy ∈ letters log, RecordsOriginal start copy
  unclaimed : ∀ copy ∈ letters log, ∀ hostId workerId now,
    (⟨.claim copy.jobId hostId workerId now, .ok true⟩ : Sigma WorkerCall.Reply) ∉ log

/-- The queue of the worker is none of the dead letter queues of its policies. -/
def FallbackPolicyManager.Avoids (manager : FallbackPolicyManager) (queue : String) : Prop :=
  ∀ jobType, (manager.policyFor jobType).action = .deadLetter →
    (manager.policyFor jobType).deadLetterQueue ≠ queue

/-- What a run of a worker with a queue of its own maintains. -/
structure LettersApart (start : MemoryQueueBackend) (queue : String)
    (state : WorkerLog MemoryQueueBackend) : Prop where
  once : ((letters state.log).map source).Nodup
  recorded : ∀ copy ∈ letters state.log, RecordsOriginal start copy
  stems : start.StemsFrom queue state.shared.store
  spent : ∀ copy ∈ letters state.log, ∀ jobId, source copy = some (.str jobId) →
    Spent MemoryQueueBackend.view jobId state.shared
  claimed : ∀ jobId hostId workerId now,
    (⟨.claim jobId hostId workerId now, .ok true⟩ : Sigma WorkerCall.Reply) ∈ state.log →
      ∃ original, start.get jobId = some original
  fresh : ∀ copy ∈ letters state.log, start.get copy.jobId = none

theorem LettersApart.notReprocessed {start : MemoryQueueBackend} {queue : String}
    {state : WorkerLog MemoryQueueBackend} (apart : LettersApart start queue state) :
    NotReprocessed start state.log where
  once := apart.once
  recorded := apart.recorded
  unclaimed := by
    intro copy sent hostId workerId now issued
    obtain ⟨original, stored⟩ := apart.claimed _ _ _ _ issued
    rw [apart.fresh copy sent] at stored
    cases stored

namespace Worker

variable (worker : Worker) {manager : FallbackPolicyManager} {queue : String}
  {start : MemoryQueueBackend} {state : WorkerLog MemoryQueueBackend} {inputs : RunInputs}

/-- A selected job waits in the queue of the worker. -/
theorem selected_memory {shared : Shared MemoryQueueBackend} {job : Job}
    (chosen : worker.selected MemoryQueueBackend.contract MemoryQueueBackend.view shared =
      some job) :
    shared.store.get job.jobId = some job ∧ job.status = .queued ∧
      job.matchesFilters none worker.queueName = true := by
  obtain ⟨_, head, _⟩ := selected_eq_some.mp chosen
  rw [candidate_memory] at head
  exact (shared.store.mem_queued none worker.queueName job).mp (List.mem_of_head? head)

theorem grants_memory {shared : Shared MemoryQueueBackend} {job : Job}
    (chosen : worker.selected MemoryQueueBackend.contract MemoryQueueBackend.view shared =
      some job) : worker.grants MemoryQueueBackend.contract inputs shared job :=
  eq_of_heq (Sigma.mk.inj (worker.claimEntry_memory inputs shared chosen)).2

/-- The letters of a round. -/
theorem mem_letters_round {copy : Job} (configured : worker.fallbackPolicies = some manager)
    (sent : copy ∈ letters ((worker.runOnce inputs).trace
      (Shared.exec MemoryQueueBackend.contract) state.shared)) :
    ∃ job, worker.selected MemoryQueueBackend.contract MemoryQueueBackend.view state.shared =
      some job ∧ job.jobType ∈ worker.handlers ∧ manager.LetterOf inputs job copy := by
  rcases worker.sends_runOnce inputs configured MemoryQueueBackend.lawful state.shared with
    silent | ⟨other, single, chosen⟩
  · rw [silent] at sent
    cases sent
  · rw [single] at sent
    obtain rfl := List.mem_singleton.mp sent
    exact chosen

theorem letters_round :
    letters (worker.round MemoryQueueBackend.contract state inputs).log =
      letters state.log ++ letters ((worker.runOnce inputs).trace
        (Shared.exec MemoryQueueBackend.contract) state.shared) :=
  letters_append _ _

section Apart

variable (configured : worker.fallbackPolicies = some manager)
  (named : worker.queueName = some queue) (separate : manager.Avoids queue)
  (apart : LettersApart start queue state) (new : start.get inputs.deadLetterId = none)

include named apart

/-- A selected job is one of the start, as it was there. -/
theorem original_of_selected {job : Job}
    (chosen : worker.selected MemoryQueueBackend.contract MemoryQueueBackend.view state.shared =
      some job) :
    ∃ original, start.get job.jobId = some original ∧ job.payload = original.payload := by
  obtain ⟨stored, _, passes⟩ := worker.selected_memory chosen
  refine apart.stems job.jobId job stored ?_
  simpa [named, Job.matchesFilters] using passes

/-- A granted claim is of a job of the start. -/
theorem round_claimed (jobId hostId workerId : String) (now : Int)
    (issued : (⟨.claim jobId hostId workerId now, .ok true⟩ : Sigma WorkerCall.Reply) ∈
      (worker.round MemoryQueueBackend.contract state inputs).log) :
    ∃ original, start.get jobId = some original := by
  rcases List.mem_append.mp issued with earlier | now
  · exact apart.claimed _ _ _ _ earlier
  · obtain ⟨job, chosen, entry⟩ := worker.eq_claimEntry_of_mem_trace MemoryQueueBackend.contract
      MemoryQueueBackend.lawful inputs state.shared now trivial
    obtain ⟨rfl, _⟩ := WorkerCall.claim.inj (Sigma.mk.inj entry).1
    obtain ⟨original, first, _⟩ := worker.original_of_selected named apart chosen
    exact ⟨original, first⟩

include configured

/-- What is recorded in a letter of the round. -/
theorem letter_of_round {copy : Job}
    (sent : copy ∈ letters ((worker.runOnce inputs).trace
      (Shared.exec MemoryQueueBackend.contract) state.shared)) :
    ∃ job original, worker.selected MemoryQueueBackend.contract MemoryQueueBackend.view
        state.shared = some job ∧ start.get job.jobId = some original ∧
      copy.jobId = inputs.deadLetterId ∧ source copy = some (.str job.jobId) ∧
      copy.payload.get? "original_payload" = some (.dict original.payload.entries) := by
  obtain ⟨job, chosen, _, _, error, rfl⟩ := worker.mem_letters_round configured sent
  obtain ⟨original, first, same⟩ := worker.original_of_selected named apart chosen
  refine ⟨job, original, chosen, first, rfl, rfl, ?_⟩
  rw [← same]
  rfl

theorem round_once :
    ((letters (worker.round MemoryQueueBackend.contract state inputs).log).map source).Nodup := by
  rw [letters_round, List.map_append, List.nodup_append]
  refine ⟨apart.once, ?_, ?_⟩
  · rcases worker.sends_runOnce inputs configured MemoryQueueBackend.lawful state.shared with
      silent | ⟨copy, single, _⟩
    · rw [silent]
      exact List.nodup_nil
    · rw [single]
      exact List.nodup_singleton _
  · -- An earlier letter with the same source would mean that the selected job is spent.
    intro first earlier second sent same
    obtain ⟨before, stored, rfl⟩ := List.mem_map.mp earlier
    obtain ⟨copy, now, rfl⟩ := List.mem_map.mp sent
    obtain ⟨job, _, chosen, _, _, sourced, _⟩ := worker.letter_of_round configured named apart now
    obtain ⟨shown, waiting, _⟩ := worker.selected_memory chosen
    refine apart.spent before stored job.jobId (same.trans sourced) ?_
    simp [MemoryQueueBackend.view, shown, Job.ticket, waiting]

theorem round_recorded (copy : Job)
    (sent : copy ∈ letters (worker.round MemoryQueueBackend.contract state inputs).log) :
    RecordsOriginal start copy := by
  rw [letters_round, List.mem_append] at sent
  rcases sent with earlier | now
  · exact apart.recorded copy earlier
  · obtain ⟨job, original, _, stored, _, sourced, kept⟩ :=
      worker.letter_of_round configured named apart now
    have same := start.keyed _ _ stored
    exact ⟨original, by rw [same]; exact stored, by rw [same]; exact sourced, kept⟩

omit named in
theorem round_stems (separate : manager.Avoids queue) :
    start.StemsFrom queue (worker.round MemoryQueueBackend.contract state inputs).shared.store := by
  refine Prog.run_of_trace (Shared.exec MemoryQueueBackend.contract)
    (fun shared => start.StemsFrom queue shared.store) ?_ apart.stems
  intro entry issued reached stems
  apply stems.exec
  intro copy sends
  obtain ⟨job, _, _, lettered, error, rfl⟩ :=
    worker.mem_letters_round configured (mem_letters.mpr ⟨entry, issued, sends⟩)
  exact separate job.jobType lettered

include new

theorem round_spent (copy : Job)
    (sent : copy ∈ letters (worker.round MemoryQueueBackend.contract state inputs).log)
    (jobId : String) (sourced : source copy = some (.str jobId)) :
    Spent MemoryQueueBackend.view jobId
      (worker.round MemoryQueueBackend.contract state inputs).shared := by
  have known : jobId ≠ inputs.deadLetterId := by
    rintro rfl
    obtain ⟨original, stored, recorded, _⟩ :=
      worker.round_recorded configured named apart copy sent
    obtain same : original.jobId = inputs.deadLetterId :=
      Value.str.inj (Option.some.inj (recorded.symm.trans sourced))
    rw [same, new] at stored
    cases stored
  rw [letters_round, List.mem_append] at sent
  rcases sent with earlier | now
  · exact worker.spent_runOnce MemoryQueueBackend.lawful inputs
      (apart.spent copy earlier jobId sourced) known
  · obtain ⟨job, _, chosen, _, _, recorded, _⟩ :=
      worker.letter_of_round configured named apart now
    cases sourced.symm.trans recorded
    exact worker.claimed_spent MemoryQueueBackend.lawful inputs chosen
      (worker.grants_memory chosen) known

theorem round_fresh (copy : Job)
    (sent : copy ∈ letters (worker.round MemoryQueueBackend.contract state inputs).log) :
    start.get copy.jobId = none := by
  rw [letters_round, List.mem_append] at sent
  rcases sent with earlier | now
  · exact apart.fresh copy earlier
  · obtain ⟨_, _, _, _, identified, _⟩ := worker.letter_of_round configured named apart now
    rw [identified]
    exact new

end Apart

/-- A log without dead letters has none to reprocess. -/
theorem notReprocessed_of_no_letters {log : List (Sigma WorkerCall.Reply)}
    (unsent : letters log = []) : NotReprocessed start log where
  once := by
    rw [unsent]
    exact List.nodup_nil
  recorded := fun _ sent => absurd (unsent ▸ sent) List.not_mem_nil
  unclaimed := fun _ sent => absurd (unsent ▸ sent) List.not_mem_nil

/-! ## A worker without a queue -/

/-- The program sends this job alone and leaves it in the store. -/
def Delivers {α : Type} (program : WorkerProg α) (shared : Shared MemoryQueueBackend)
    (copy : Job) : Prop :=
  (program.run (Shared.exec MemoryQueueBackend.contract) shared).2.store.get copy.jobId =
      some copy ∧
    letters (program.trace (Shared.exec MemoryQueueBackend.contract) shared) = [copy]

section Failing

variable (inputs) {job : Job} (error : PyError)
  (lettered : (manager.policyFor job.jobType).action = .deadLetter)
  (shared : Shared MemoryQueueBackend)

include lettered

theorem apply_delivers :
    Delivers (manager.apply inputs job error) shared (manager.letter inputs job error) ∧
      ∃ decision, ((manager.apply inputs job error).run
        (Shared.exec MemoryQueueBackend.contract) shared).1 = .ok decision := by
  have marked : (FallbackPolicyManager.mark inputs job .failed).run
      (Shared.exec MemoryQueueBackend.contract) shared = (.ok _, _) :=
    Prod.ext (shared.store.updateStatus_fst job.jobId .failed inputs.finishedAt) rfl
  unfold Delivers FallbackPolicyManager.apply
  simp only [lettered]
  rw [run_andThen_ok _ _ marked, trace_andThen_ok _ _ marked]
  refine ⟨⟨?_, rfl⟩, _, rfl⟩
  exact (MemoryQueueBackend.get_enqueue _ _ _).trans (if_pos rfl)

variable (configured : worker.fallbackPolicies = some manager)

include configured

theorem recover_delivers :
    Delivers (worker.recover inputs job error) shared (manager.letter inputs job error) := by
  obtain ⟨⟨stored, sent⟩, decision, returned⟩ := apply_delivers inputs error lettered shared
  have applied : (manager.apply inputs job error).run (Shared.exec MemoryQueueBackend.contract)
      shared = (.ok decision, _) := Prod.ext returned rfl
  unfold Delivers recover
  rw [configured, run_andThen_ok _ _ applied, trace_andThen_ok _ _ applied, letters_append, sent]
  exact ⟨stored, rfl⟩

variable (failing : inputs.handler = .error error) (caught : error.isException = true)
  (punctual : inputs.late = false)

include failing caught punctual

theorem attempt_delivers :
    Delivers (worker.attempt inputs job) shared (manager.letter inputs job error) := by
  have invoked := worker.run_invoke MemoryQueueBackend.contract inputs job
    { shared with store := (MemoryQueueBackend.contract.heartbeat job.jobId inputs.heartbeatAt
      shared.store).2 } (by simp [punctual])
  rw [failing] at invoked
  unfold Delivers attempt
  rw [(worker.silent_execute inputs job).letters_bind, Prog.run_bind,
    worker.run_execute MemoryQueueBackend.contract MemoryQueueBackend.lawful,
    run_andThen_error _ _ invoked]
  simp only [caught, ↓reduceIte]
  exact worker.recover_delivers inputs error lettered _ configured

/-- A round whose handler raises leaves a dead letter in the store. -/
theorem runOnce_delivers (known : job.jobType ∈ worker.handlers)
    (chosen : worker.selected MemoryQueueBackend.contract MemoryQueueBackend.view shared =
      some job) :
    Delivers (worker.runOnce inputs) shared (manager.letter inputs job error) := by
  have granted : worker.grants MemoryQueueBackend.contract inputs shared job :=
    worker.grants_memory chosen
  obtain ⟨stored, sent⟩ := worker.attempt_delivers inputs error lettered
    (worker.claimedState MemoryQueueBackend.contract inputs shared job) configured failing caught
    punctual
  constructor
  · rw [worker.run_runOnce_claimed MemoryQueueBackend.lawful chosen granted,
      run_afterClaim_registered worker _ known]
    exact stored
  · have taken := worker.run_select_of_selected MemoryQueueBackend.contract
      MemoryQueueBackend.lawful shared chosen
    have claimed := worker.run_claim MemoryQueueBackend.contract inputs job
      (worker.checks.taken shared job) granted
    unfold runOnce
    rw [if_pos (selected_eq_some.mp chosen).1, trace_andThen_ok _ _ taken, letters_append,
      worker.silent_select.letters_trace, List.nil_append]
    unfold process
    rw [trace_andThen_ok _ _ claimed]
    show letters ((worker.afterClaim inputs job true).trace _ _) = _
    simp only [afterClaim, ↓reduceIte, known]
    rw [letters_bind_silent (worker.silent_finally job)]
    exact sent

end Failing

section Unnamed

variable {shared : Shared MemoryQueueBackend} {job : Job}

/-- A job that is the only one waiting is the candidate of a worker without a queue. -/
theorem candidate_of_only_waiting (unnamed : worker.queueName = none)
    (stored : shared.store.get job.jobId = some job) (waiting : job.status = .queued)
    (others : ∀ jobId, jobId ≠ job.jobId → Spent MemoryQueueBackend.view jobId shared) :
    worker.candidate MemoryQueueBackend.contract shared = some job := by
  have listed : job ∈ shared.store.queued none none :=
    (shared.store.mem_queued none none job).mpr ⟨stored, waiting, rfl⟩
  rw [candidate_memory, unnamed]
  cases queue : shared.store.queued none none with
  | nil =>
      rw [queue] at listed
      cases listed
  | cons head rest =>
      obtain ⟨shown, queued, _⟩ :=
        (shared.store.mem_queued none none head).mp (queue ▸ List.mem_cons_self)
      by_cases same : head.jobId = job.jobId
      · rw [same, stored] at shown
        exact shown.symm
      · refine absurd ?_ (others head.jobId same)
        simp [MemoryQueueBackend.view, shown, Job.ticket, queued]

/-- A job without resources and dependencies needs a concurrency slot only. -/
theorem admits_of_plain (resources : job.resources = ∅) (dependsOn : job.dependsOn = [])
    (room : shared.concurrency.canAcquire job.jobType ConcurrencyManager.unspecified
      ConcurrencyManager.unspecified = true) :
    worker.checks.admits MemoryQueueBackend.view shared job = true := by
  have empty : (∅ : Dict String Int).isEmpty = true := rfl
  simp [Dispatcher.admits, Dispatcher.dependenciesMet, Dispatcher.hasRoom,
    Dispatcher.concurrencyRoom, Dispatcher.resourceRoom, resources, dependsOn, room, empty]

/-- A round with a handler gives its concurrency slot back. -/
theorem runOnce_sameCounts (known : job.jobType ∈ worker.handlers)
    (free : shared.pool.holders.get? job.jobId = none)
    (chosen : worker.selected MemoryQueueBackend.contract MemoryQueueBackend.view shared =
      some job) :
    ((worker.runOnce inputs).run (Shared.exec MemoryQueueBackend.contract)
      shared).2.concurrency.SameCounts shared.concurrency := by
  have granted : worker.grants MemoryQueueBackend.contract inputs shared job :=
    worker.grants_memory chosen
  have slots := worker.attempt_keeps_slots MemoryQueueBackend.contract inputs job
    (worker.claimedState MemoryQueueBackend.contract inputs shared job)
  rw [worker.run_runOnce_claimed MemoryQueueBackend.lawful chosen granted,
    run_afterClaim_registered worker _ known]
  exact (worker.released_of_slots (selected_eq_some.mp chosen).2.2 free slots).1

end Unnamed

/-- A round in which the handler raises. -/
def failure (deadLetterId : String) : RunInputs where
  handler := .error (.raised "boom")
  deadLetterId := deadLetterId

theorem get_oneWaiting (jobType : String) {jobId : String} (other : jobId ≠ "first") :
    (oneWaiting jobType).store.get jobId = none :=
  (MemoryQueueBackend.get_enqueue _ _ _).trans (if_neg other)

theorem spent_oneWaiting (jobType : String) {jobId : String} (other : jobId ≠ "first") :
    Spent MemoryQueueBackend.view jobId (oneWaiting jobType) := by
  simp [Spent, MemoryQueueBackend.view, get_oneWaiting jobType other]

section Unnamed

variable (configured : worker.fallbackPolicies = some manager)
  (unnamed : worker.queueName = none) (authorised : worker.authorised = true)
  (jobType : String) (known : jobType ∈ worker.handlers)
  (lettered : (manager.policyFor jobType).action = .deadLetter)

include unnamed authorised

theorem selected_oneWaiting :
    worker.selected MemoryQueueBackend.contract MemoryQueueBackend.view (oneWaiting jobType) =
      some (waitingJob jobType) := by
  refine selected_eq_some.mpr ⟨authorised, ?_, worker.admits_of_plain rfl rfl rfl⟩
  apply worker.candidate_of_only_waiting unnamed
  · exact (MemoryQueueBackend.get_enqueue _ _ _).trans (if_pos rfl)
  · rfl
  · intro jobId other
    exact spent_oneWaiting jobType other

include configured known lettered

theorem oneWaiting_delivers :
    Delivers (worker.runOnce (failure "letter")) (oneWaiting jobType)
      (manager.letter (failure "letter") (waitingJob jobType) (.raised "boom")) :=
  worker.runOnce_delivers _ _ lettered _ configured rfl rfl rfl known
    (worker.selected_oneWaiting unnamed authorised jobType)

/-- After a failure the dead letter is the job that the worker selects. -/
theorem selected_letter :
    worker.selected MemoryQueueBackend.contract MemoryQueueBackend.view
        (worker.round MemoryQueueBackend.contract ⟨oneWaiting jobType, []⟩
          (failure "letter")).shared =
      some (manager.letter (failure "letter") (waitingJob jobType) (.raised "boom")) := by
  have chosen := worker.selected_oneWaiting unnamed authorised jobType
  obtain ⟨stored, _⟩ := worker.oneWaiting_delivers configured unnamed authorised jobType known
    lettered
  refine selected_eq_some.mpr ⟨authorised, ?_, worker.admits_of_plain rfl rfl ?_⟩
  · apply worker.candidate_of_only_waiting unnamed stored rfl
    intro jobId other
    by_cases same : jobId = "first"
    · rw [same]
      have different : (waitingJob jobType).jobId ≠ "letter" := by
        show "first" ≠ "letter"
        decide
      exact worker.claimed_spent MemoryQueueBackend.lawful (failure "letter") chosen
        (worker.grants_memory chosen) different
    · exact worker.spent_runOnce MemoryQueueBackend.lawful (failure "letter")
        (spent_oneWaiting jobType same) other
  · exact ((worker.runOnce_sameCounts known rfl chosen).canAcquire ..).trans rfl

/-- The second round claims the dead letter of the first. -/
theorem letter_is_claimed :
    ¬ NotReprocessed (oneWaiting jobType).store
      (worker.round MemoryQueueBackend.contract (worker.round MemoryQueueBackend.contract
        ⟨oneWaiting jobType, []⟩ (failure "letter")) (failure "again")).log := by
  intro handled
  obtain ⟨_, sent⟩ := worker.oneWaiting_delivers configured unnamed authorised jobType known
    lettered
  have chosen := worker.selected_letter configured unnamed authorised jobType known lettered
  have claims := worker.claimEntry_mem_trace MemoryQueueBackend.contract
    MemoryQueueBackend.lawful (failure "again") _ chosen
  rw [worker.claimEntry_memory _ _ chosen] at claims
  refine handled.unclaimed _ ?_ _ _ _ (List.mem_append_right _ claims)
  rw [letters_round, List.mem_append, letters_round, sent]
  exact .inl List.mem_cons_self

end Unnamed

/-- The worker has a job type to send dead letters for, and may run it. -/
def SendsLetters (worker : Worker) (manager : FallbackPolicyManager) : Prop :=
  worker.authorised = true ∧
    ∃ jobType ∈ worker.handlers, (manager.policyFor jobType).action = .deadLetter

theorem letters_of_not_sendsLetters (configured : worker.fallbackPolicies = some manager)
    (mute : ¬ worker.SendsLetters manager) :
    letters ((worker.runOnce inputs).trace (Shared.exec MemoryQueueBackend.contract)
      state.shared) = [] := by
  refine List.eq_nil_iff_forall_not_mem.mpr ?_
  intro copy sent
  obtain ⟨job, chosen, known, lettered, _⟩ := worker.mem_letters_round configured sent
  exact mute ⟨(selected_eq_some.mp chosen).1, job.jobType, known, lettered⟩

/-- A worker with a queue of its own, apart from the dead letter queues of its
policies, never claims one of its dead letters. -/
theorem named_not_reprocessed (configured : worker.fallbackPolicies = some manager)
    (named : worker.queueName = some queue) (separate : manager.Avoids queue)
    (shared : Shared MemoryQueueBackend) (rounds : List RunInputs)
    (fresh : ∀ inputs ∈ rounds, shared.store.get inputs.deadLetterId = none) :
    Throughout (worker.round MemoryQueueBackend.contract)
      (fun state => NotReprocessed shared.store state.log) ⟨shared, []⟩ rounds := by
  have start : LettersApart shared.store queue ⟨shared, []⟩ :=
    { once := List.nodup_nil
      recorded := fun _ sent => absurd sent List.not_mem_nil
      stems := fun jobId stored shown _ => ⟨stored, shown, rfl⟩
      spent := fun _ sent => absurd sent List.not_mem_nil
      claimed := fun _ _ _ _ issued => absurd issued List.not_mem_nil
      fresh := fun _ sent => absurd sent List.not_mem_nil }
  refine Throughout.of_invariant ?_ (fun _ apart => apart.notReprocessed) start
    (Guarded.of_forall fresh)
  intro state inputs apart new
  exact
    { once := worker.round_once configured named apart
      recorded := worker.round_recorded configured named apart
      stems := worker.round_stems configured apart separate
      spent := worker.round_spent configured named apart new
      claimed := worker.round_claimed named apart
      fresh := worker.round_fresh configured named apart new }

theorem mute_not_reprocessed (configured : worker.fallbackPolicies = some manager)
    (mute : ¬ worker.SendsLetters manager) (shared : Shared MemoryQueueBackend)
    (rounds : List RunInputs) :
    Throughout (worker.round MemoryQueueBackend.contract)
      (fun state => NotReprocessed shared.store state.log) ⟨shared, []⟩ rounds := by
  have unguarded : ∀ inputs ∈ rounds, (fun _ : RunInputs => True) inputs := fun _ _ => trivial
  have silent : ∀ (state : WorkerLog MemoryQueueBackend) (inputs : RunInputs),
      letters state.log = [] → True →
        letters (worker.round MemoryQueueBackend.contract state inputs).log = [] := by
    intro state inputs unsent _
    rw [letters_round, unsent, worker.letters_of_not_sendsLetters configured mute]
    rfl
  exact Throughout.of_invariant silent (fun _ unsent => notReprocessed_of_no_letters unsent) rfl
    (Guarded.of_forall unguarded)

/-- **When dead letters stay dead.** A worker whose queue is no dead letter queue
of its policies leaves its dead letters alone in every run of `run_once` calls
exactly when it has a queue of its own, or no dead letter to send at all. Then
each job of the start gives rise to at most one dead letter, which records its
identifier and its payload, and no dead letter is claimed. -/
theorem dead_letters_stay_dead_iff (worker : Worker) (manager : FallbackPolicyManager)
    (configured : worker.fallbackPolicies = some manager)
    (separate : ∀ queue, worker.queueName = some queue → manager.Avoids queue) :
    (∀ (shared : Shared MemoryQueueBackend) (rounds : List RunInputs),
      (∀ inputs ∈ rounds, shared.store.get inputs.deadLetterId = none) →
      Throughout (worker.round MemoryQueueBackend.contract)
        (fun state => NotReprocessed shared.store state.log) ⟨shared, []⟩ rounds) ↔
      worker.queueName ≠ none ∨ ¬ worker.SendsLetters manager := by
  constructor
  · intro stay
    by_contra neither
    obtain ⟨unnamed, authorised, jobType, known, lettered⟩ :
        worker.queueName = none ∧ worker.SendsLetters manager := by
      simpa only [not_or, not_not, ne_eq] using neither
    have fresh : ∀ inputs ∈ [failure "letter", failure "again"],
        inputs.deadLetterId ≠ "first" := by decide
    have run := stay (oneWaiting jobType) [failure "letter", failure "again"]
      fun inputs member => get_oneWaiting jobType (fresh inputs member)
    exact worker.letter_is_claimed configured unnamed authorised jobType known lettered run.2.2
  · rintro (named | mute) shared rounds fresh
    · obtain ⟨queue, named⟩ := Option.ne_none_iff_exists'.mp named
      exact worker.named_not_reprocessed configured named (separate queue named) shared rounds fresh
    · exact worker.mute_not_reprocessed configured mute shared rounds

/-- A worker whose failed tasks go to the queue `dead_letter`. -/
def letterWorker (queueName : Option String) : Worker where
  queueName := queueName
  handlers := ["task"]
  fallbackPolicies := some ⟨Dict.empty.set "task" { action := .deadLetter }⟩

theorem letterWorker_avoids (queue : String)
    (named : (letterWorker (some "default")).queueName = some queue) :
    FallbackPolicyManager.Avoids ⟨Dict.empty.set "task" { action := .deadLetter }⟩ queue := by
  cases named
  intro jobType lettered
  by_cases same : jobType = "task"
  · subst same
    decide
  · have absent : FallbackPolicyManager.policyFor
        ⟨Dict.empty.set "task" { action := .deadLetter }⟩ jobType = {} := by
      simp [FallbackPolicyManager.policyFor, Dict.getD_set, same]
      rfl
    rw [absent] at lettered
    cases lettered

/-- The worker of the queue `default` fails its task, and then leaves the letter. -/
theorem letterWorker_leaves_letters_dead :
    Throughout ((letterWorker (some "default")).round MemoryQueueBackend.contract)
      (fun state => NotReprocessed (oneWaiting "task").store state.log) ⟨oneWaiting "task", []⟩
      [failure "letter", failure "again"] := by
  have stay := (dead_letters_stay_dead_iff _ _ rfl letterWorker_avoids).mpr (.inl (by decide))
  exact stay (oneWaiting "task") [failure "letter", failure "again"] (by decide)

/-- Without a queue name the worker claims the dead letter of its first round. -/
theorem letterWorker_claims_its_letter :
    ¬ ∀ (worker : Worker) (manager : FallbackPolicyManager),
      worker.fallbackPolicies = some manager →
      (∀ queue, worker.queueName = some queue → manager.Avoids queue) →
      ∀ (shared : Shared MemoryQueueBackend) (rounds : List RunInputs),
        (∀ inputs ∈ rounds, shared.store.get inputs.deadLetterId = none) →
        Throughout (worker.round MemoryQueueBackend.contract)
          (fun state => NotReprocessed shared.store state.log) ⟨shared, []⟩ rounds := by
  intro stay
  have run := stay (letterWorker none) _ rfl (fun queue named => by cases named)
    (oneWaiting "task") [failure "letter", failure "again"] (by decide)
  exact letter_is_claimed (letterWorker none) rfl rfl rfl "task" (by decide) rfl run.2.2

end Worker

end CloudDogJobs
