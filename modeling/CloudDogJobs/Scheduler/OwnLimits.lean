import CloudDogJobs.Backend.Memory
import CloudDogJobs.Scheduler.Selection

/-!
# Limits of a job's own tenant and user

Runs of `select_eligible` and `release_job` with a concurrency manager. A book
keeps, beside the shared objects, the jobs that were selected and not yet
released; a job may be held more than once. Between the calls the store, the pool
and the tracker may change in any way. The dispatcher names only the job type to
the manager, so every held job counts against one tenant and one user.
-/

namespace CloudDogJobs

open Foundation WorkerProg

/-- The shared objects and the jobs that are held. -/
structure Book (σ : Type) where
  shared : Shared σ
  held : List Job

namespace Book

variable {σ : Type}

/-- One call, or a change made by others. -/
inductive Action (σ : Type)
  | selectEligible (limit : Int) (queueName : Option String)
  /-- `release_job` for the held job at a position. -/
  | releaseJob (position : Nat)
  | elsewhere (store : σ) (pool : ResourcePool) (tracker : DependencyTracker)

section Turns

variable (dispatcher : Dispatcher) (backend : QueueBackend σ)

/-- The answer of one round of the selection loop. -/
def answer (book : Book σ) (job : Job) : Except PyError Bool :=
  ((dispatcher.consider job).run (Shared.exec backend) book.shared).1

/-- The book after one round of the selection loop. -/
def consider (book : Book σ) (job : Job) : Book σ where
  shared := ((dispatcher.consider job).run (Shared.exec backend) book.shared).2
  held :=
    match book.answer dispatcher backend job with
    | .ok true => book.held ++ [job]
    | _ => book.held

/-- What `dequeue` returns to a selection. -/
def candidates (book : Book σ) (limit : Int) (queueName : Option String) : List Job :=
  match backend.dequeue limit none queueName book.shared.store with
  | .ok jobs => jobs
  | .error _ => []

/-- The book after an action. -/
def act (book : Book σ) : Action σ → Book σ
  | .selectEligible limit queueName =>
      (book.candidates backend limit queueName).foldl (consider dispatcher backend) book
  | .releaseJob position =>
      match book.held[position]? with
      | none => book
      | some job =>
          { shared := ((dispatcher.releaseJob job).run (Shared.exec backend) book.shared).2
            held := book.held.eraseIdx position }
  | .elsewhere store pool tracker =>
      { book with shared := { book.shared with store := store, pool := pool, tracker := tracker } }

/-- The rounds of a selection loop: each job with the book it meets. -/
def rounds (book : Book σ) : List Job → List (Book σ × Job)
  | [] => []
  | job :: rest => (book, job) :: (book.consider dispatcher backend job).rounds rest

/-- The rounds of an action. -/
def actionRounds (book : Book σ) : Action σ → List (Book σ × Job)
  | .selectEligible limit queueName =>
      book.rounds dispatcher backend (book.candidates backend limit queueName)
  | _ => []

/-- The rounds of a run. -/
def runRounds (book : Book σ) : List (Action σ) → List (Book σ × Job)
  | [] => []
  | action :: rest =>
      book.actionRounds dispatcher backend action ++
        (book.act dispatcher backend action).runRounds rest

end Turns

/-- A manager with no slot in use, and nothing held. -/
def start (limits : ConcurrencyLimits) (store : σ) (pool : ResourcePool)
    (tracker : DependencyTracker) : Book σ :=
  ⟨⟨store, .init limits, pool, tracker⟩, []⟩

/-- The job passes the dependency and the resource check. -/
def PassesOthers (dispatcher : Dispatcher) (view : σ → String → Option Ticket) (book : Book σ)
    (job : Job) : Prop :=
  dispatcher.dependenciesMet (view book.shared.store) book.shared.tracker job = true ∧
    dispatcher.resourceRoom book.shared.pool job = true

end Book

/-- The held jobs have reached a limit of the job: in all, of its type, of its
tenant or of its user. -/
def Overbooked (limits : ConcurrencyLimits) (held : List Job) (job : Job) : Prop :=
  limits.globalMax ≤ held.length ∨
    limits.perTypeMax ≤ held.countP (fun other => other.jobType = job.jobType) ∨
    limits.perTenantMax ≤ held.countP (fun other => other.tenantId = job.tenantId) ∨
    limits.perUserMax ≤ held.countP (fun other => other.userId = job.userId)

instance (limits : ConcurrencyLimits) (held : List Job) (job : Job) :
    Decidable (Overbooked limits held job) :=
  inferInstanceAs (Decidable (_ ∨ _))

namespace Book

variable {σ : Type} {dispatcher : Dispatcher} {backend : QueueBackend σ}
  {view : σ → String → Option Ticket} {limits : ConcurrencyLimits} {book : Book σ}

/-- The counters of the manager against the held jobs. The one tenant and the one
user that the dispatcher names count every job. -/
structure Tallied (limits : ConcurrencyLimits) (manager : ConcurrencyManager)
    (held : List Job) : Prop where
  limits : manager.limits = limits
  global : manager.global = held.length
  byType : ∀ jobType, manager.byType.getD jobType 0 =
    held.countP fun other => other.jobType = jobType
  byTenant : manager.byTenant.getD ConcurrencyManager.unspecified 0 = held.length
  byUser : manager.byUser.getD ConcurrencyManager.unspecified 0 = held.length

theorem Tallied.congr {manager other : ConcurrencyManager} {held : List Job}
    (tallied : Tallied limits manager held) (same : other.SameCounts manager) :
    Tallied limits other held where
  limits := same.limits.trans tallied.limits
  global := same.global.trans tallied.global
  byType := fun jobType => (same.byType jobType).trans (tallied.byType jobType)
  byTenant := (same.byTenant _).trans tallied.byTenant
  byUser := (same.byUser _).trans tallied.byUser

theorem Tallied.acquire {manager : ConcurrencyManager} {held : List Job}
    (tallied : Tallied limits manager held) {job : Job}
    (room : manager.canAcquire job.jobType ConcurrencyManager.unspecified
      ConcurrencyManager.unspecified = true) :
    Tallied limits (manager.acquire job.jobType ConcurrencyManager.unspecified
      ConcurrencyManager.unspecified).2 (held ++ [job]) := by
  simp only [ConcurrencyManager.acquire, room, ↓reduceIte]
  refine ⟨tallied.limits, ?_, ?_, ?_, ?_⟩
  · rw [tallied.global, List.length_append]
    rfl
  · intro jobType
    simp only [Dict.getD_set, tallied.byType, List.countP_append, List.countP_singleton]
    by_cases same : jobType = job.jobType
    · simp [same]
    · simp [same, Ne.symm same]
  · rw [Dict.getD_set, if_pos rfl, tallied.byTenant, List.length_append]
    rfl
  · rw [Dict.getD_set, if_pos rfl, tallied.byUser, List.length_append]
    rfl

theorem Tallied.release {manager : ConcurrencyManager} {held : List Job}
    (tallied : Tallied limits manager held) {position : Nat} {job : Job}
    (found : held[position]? = some job) :
    Tallied limits (manager.release job.jobType ConcurrencyManager.unspecified
      ConcurrencyManager.unspecified) (held.eraseIdx position) := by
  have split : held.Perm (job :: held.eraseIdx position) := by
    obtain ⟨inside, rfl⟩ := List.getElem?_eq_some_iff.mp found
    exact (List.getElem_cons_eraseIdx_perm inside).symm
  have total : held.length = (held.eraseIdx position).length + 1 := split.length_eq
  refine ⟨tallied.limits, ?_, ?_, ?_, ?_⟩
  · rw [ConcurrencyManager.release, tallied.global, total]
    rfl
  · intro jobType
    simp only [ConcurrencyManager.release, Dict.getD_set, tallied.byType, split.countP_eq,
      List.countP_cons]
    by_cases same : jobType = job.jobType
    · simp [same]
    · simp [same, Ne.symm same]
  · rw [ConcurrencyManager.release, Dict.getD_set, if_pos rfl, tallied.byTenant, total]
    rfl
  · rw [ConcurrencyManager.release, Dict.getD_set, if_pos rfl, tallied.byUser, total]
    rfl

/-- The manager has room for the job unless the held jobs have reached a limit:
the ones per tenant and per user in all. -/
theorem Tallied.room_iff {manager : ConcurrencyManager} {held : List Job}
    (tallied : Tallied limits manager held) (job : Job) :
    manager.canAcquire job.jobType ConcurrencyManager.unspecified
        ConcurrencyManager.unspecified = true ↔
      held.length < limits.globalMax ∧
        (held.countP fun other => other.jobType = job.jobType) < limits.perTypeMax ∧
        held.length < limits.perTenantMax ∧ held.length < limits.perUserMax := by
  simp only [ConcurrencyManager.canAcquire, tallied.limits, tallied.global, tallied.byType,
    tallied.byTenant, tallied.byUser, Bool.and_eq_true, decide_eq_true_eq, and_assoc]

/-- Everything one round of the loop can do. -/
theorem consider_cases (lawful : backend.Lawful view) (book : Book σ) (job : Job) :
    (dispatcher.admits view book.shared job = true ∧
      book.answer dispatcher backend job = .ok true ∧
      book.consider dispatcher backend job =
        ⟨dispatcher.taken book.shared job, book.held ++ [job]⟩) ∨
    (dispatcher.admits view book.shared job = false ∧
      book.answer dispatcher backend job = .ok false ∧
      (book.consider dispatcher backend job).shared.SameSlots book.shared ∧
      (book.consider dispatcher backend job).held = book.held) := by
  cases admitted : dispatcher.admits view book.shared job with
  | true =>
      have ended := dispatcher.run_consider_of_admits backend lawful job book.shared admitted
      refine .inl ⟨rfl, congrArg Prod.fst ended, ?_⟩
      simp only [consider, answer, ended]
  | false =>
      obtain ⟨after, ended, same⟩ :=
        dispatcher.run_consider_of_not_admits backend lawful job book.shared admitted
      refine .inr ⟨rfl, congrArg Prod.fst ended, ?_, ?_⟩
      · simp only [consider, ended]
        exact same
      · simp only [consider, answer, ended]

/-- The manager's part in a round: the answer for a job that passes the other
checks. -/
theorem answer_of_passesOthers (lawful : backend.Lawful view)
    (used : dispatcher.concurrency = true) {job : Job}
    (passes : book.PassesOthers dispatcher view job) :
    book.answer dispatcher backend job =
      .ok (book.shared.concurrency.canAcquire job.jobType ConcurrencyManager.unspecified
        ConcurrencyManager.unspecified) := by
  have decided : dispatcher.admits view book.shared job =
      book.shared.concurrency.canAcquire job.jobType ConcurrencyManager.unspecified
        ConcurrencyManager.unspecified := by
    simp [Dispatcher.admits, Dispatcher.hasRoom, Dispatcher.concurrencyRoom, passes.1, passes.2,
      used]
  rcases consider_cases lawful book job with ⟨admitted, answered, _⟩ | ⟨refused, answered, _⟩
  · rw [answered, ← decided, admitted]
  · rw [answered, ← decided, refused]

theorem tallied_consider (lawful : backend.Lawful view) (used : dispatcher.concurrency = true)
    (tallied : Tallied limits book.shared.concurrency book.held) (job : Job) :
    Tallied limits (book.consider dispatcher backend job).shared.concurrency
      (book.consider dispatcher backend job).held := by
  rcases consider_cases lawful book job with ⟨admitted, _, after⟩ | ⟨_, _, same, held⟩
  · rw [after]
    have room : book.shared.concurrency.canAcquire job.jobType ConcurrencyManager.unspecified
        ConcurrencyManager.unspecified = true := by
      simp only [Dispatcher.admits, Dispatcher.hasRoom, Dispatcher.concurrencyRoom, used,
        Bool.not_true, Bool.false_or, Bool.and_eq_true] at admitted
      exact admitted.2.1
    simp only [Dispatcher.taken, Dispatcher.concurrencyTaken, used, ↓reduceIte]
    exact tallied.acquire room
  · rw [held]
    exact tallied.congr same.concurrency

theorem tallied_foldl_consider (lawful : backend.Lawful view)
    (used : dispatcher.concurrency = true) (jobs : List Job)
    (tallied : Tallied limits book.shared.concurrency book.held) :
    Tallied limits (jobs.foldl (consider dispatcher backend) book).shared.concurrency
      (jobs.foldl (consider dispatcher backend) book).held := by
  induction jobs generalizing book with
  | nil => exact tallied
  | cons job rest ih => exact ih (tallied_consider lawful used tallied job)

/-- The step lemma: every action keeps the tally. -/
theorem tallied_act (lawful : backend.Lawful view) (used : dispatcher.concurrency = true)
    (tallied : Tallied limits book.shared.concurrency book.held) (action : Action σ) :
    Tallied limits (book.act dispatcher backend action).shared.concurrency
      (book.act dispatcher backend action).held := by
  cases action with
  | selectEligible limit queueName => exact tallied_foldl_consider lawful used _ tallied
  | releaseJob position =>
      simp only [act]
      cases found : book.held[position]? with
      | none => exact tallied
      | some job =>
          dsimp only
          rw [dispatcher.run_releaseJob]
          simp only [Dispatcher.released, Dispatcher.concurrencyReleased, used, ↓reduceIte]
          exact tallied.release found
  | elsewhere store pool tracker => exact tallied

theorem tallied_of_mem_rounds (lawful : backend.Lawful view)
    (used : dispatcher.concurrency = true) {jobs : List Job}
    (tallied : Tallied limits book.shared.concurrency book.held) {met : Book σ} {job : Job}
    (member : (met, job) ∈ book.rounds dispatcher backend jobs) :
    Tallied limits met.shared.concurrency met.held := by
  induction jobs generalizing book with
  | nil => cases member
  | cons first rest ih =>
      rcases List.mem_cons.mp member with same | later
      · cases same
        exact tallied
      · exact ih (tallied_consider lawful used tallied first) later

/-- The run lemma: every round of a run meets a manager in step with the held
jobs. -/
theorem tallied_of_mem_runRounds (lawful : backend.Lawful view)
    (used : dispatcher.concurrency = true) {actions : List (Action σ)}
    (tallied : Tallied limits book.shared.concurrency book.held) {met : Book σ} {job : Job}
    (member : (met, job) ∈ book.runRounds dispatcher backend actions) :
    Tallied limits met.shared.concurrency met.held := by
  induction actions generalizing book with
  | nil => cases member
  | cons action rest ih =>
      rcases List.mem_append.mp member with now | later
      · cases action with
        | selectEligible limit queueName => exact tallied_of_mem_rounds lawful used tallied now
        | releaseJob position => cases now
        | elsewhere store pool tracker => cases now
      · exact ih (tallied_act lawful used tallied action) later

theorem tallied_start (limits : ConcurrencyLimits) (store : σ) (pool : ResourcePool)
    (tracker : DependencyTracker) :
    Tallied limits (start limits store pool tracker).shared.concurrency
      (start limits store pool tracker).held :=
  ⟨rfl, rfl, fun _ => rfl, rfl, rfl⟩

variable (dispatcher) in
/-- The book follows the dispatcher: a selection returns the jobs it adds to the
held ones, and leaves the shared objects as the book has them. -/
theorem run_selectFrom (lawful : backend.Lawful view) (jobs : List Job) (book : Book σ) :
    ∃ selected, (dispatcher.selectFrom jobs).run (Shared.exec backend) book.shared =
        (.ok selected, (jobs.foldl (consider dispatcher backend) book).shared) ∧
      (jobs.foldl (consider dispatcher backend) book).held = book.held ++ selected := by
  induction jobs generalizing book with
  | nil => exact ⟨[], rfl, (List.append_nil _).symm⟩
  | cons job rest ih =>
      obtain ⟨others, ended, held⟩ := ih (book.consider dispatcher backend job)
      have considered : ∀ admitted, book.answer dispatcher backend job = .ok admitted →
          (dispatcher.selectFrom (job :: rest)).run (Shared.exec backend) book.shared =
            (.ok (if admitted then job :: others else others),
              (rest.foldl (consider dispatcher backend)
                (book.consider dispatcher backend job)).shared) := by
        intro admitted answered
        have first : (dispatcher.consider job).run (Shared.exec backend) book.shared =
            (.ok admitted, (book.consider dispatcher backend job).shared) :=
          Prod.ext answered rfl
        unfold Dispatcher.selectFrom
        rw [run_andThen_ok backend _ first, run_andThen_ok backend _ ended]
        rfl
      rcases consider_cases lawful book job with ⟨_, answered, after⟩ | ⟨_, answered, _, same⟩
      · refine ⟨job :: others, considered true answered, ?_⟩
        rw [List.foldl_cons, held, after, List.append_assoc]
        rfl
      · refine ⟨others, considered false answered, ?_⟩
        rw [List.foldl_cons, held, same]

theorem run_selectEligible (lawful : backend.Lawful view) (limit : Int)
    (queueName : Option String) (book : Book σ) :
    ∃ selected, (dispatcher.selectEligible limit queueName).run (Shared.exec backend) book.shared =
        (.ok selected, (book.act dispatcher backend (.selectEligible limit queueName)).shared) ∧
      (book.act dispatcher backend (.selectEligible limit queueName)).held =
        book.held ++ selected := by
  obtain ⟨jobs, listed, _⟩ := lawful.dequeue limit none queueName book.shared.store
  have dequeued : (call (.dequeue limit queueName)).run (Shared.exec backend) book.shared =
      (.ok jobs, book.shared) := congrArg (·, book.shared) listed
  have listing : book.candidates backend limit queueName = jobs := by
    simp only [candidates, listed]
  simp only [act, listing]
  obtain ⟨selected, ended, held⟩ := run_selectFrom dispatcher lawful jobs book
  refine ⟨selected, ?_, held⟩
  unfold Dispatcher.selectEligible
  rw [run_andThen_ok backend _ dequeued, ended]

/-- **When the decision follows the job's own limits.** In every round of every
run, a job that passes the other checks is skipped exactly when the held jobs
have reached one of its own limits, if and only if the held jobs of all tenants
and users together are below the limits per tenant and per user, or one of the
job's own limits is reached anyway. -/
theorem own_limits_decide_iff (lawful : backend.Lawful view)
    (used : dispatcher.concurrency = true) (limits : ConcurrencyLimits) (store : σ)
    (pool : ResourcePool) (tracker : DependencyTracker) (actions : List (Action σ))
    {book : Book σ} {job : Job}
    (round : (book, job) ∈
      (start limits store pool tracker).runRounds dispatcher backend actions)
    (passes : book.PassesOthers dispatcher view job) :
    (book.answer dispatcher backend job = .ok false ↔ Overbooked limits book.held job) ↔
      (book.held.length < limits.perTenantMax ∧ book.held.length < limits.perUserMax) ∨
        Overbooked limits book.held job := by
  have tallied := tallied_of_mem_runRounds lawful used
    (tallied_start limits store pool tracker) round
  have skipped : book.answer dispatcher backend job = .ok false ↔
      ¬ (book.held.length < limits.globalMax ∧
        (book.held.countP fun other => other.jobType = job.jobType) < limits.perTypeMax ∧
        book.held.length < limits.perTenantMax ∧ book.held.length < limits.perUserMax) := by
    rw [answer_of_passesOthers lawful used passes, ← tallied.room_iff job, Except.ok.injEq,
      Bool.not_eq_true]
  have tenant := List.countP_le_length (p := fun other : Job => other.tenantId = job.tenantId)
    (l := book.held)
  have user := List.countP_le_length (p := fun other : Job => other.userId = job.userId)
    (l := book.held)
  rw [skipped]
  unfold Overbooked
  omega

/-! ## Three jobs of three users -/

/-- A queued job of a tenant and a user. -/
def ownedJob (jobId tenantId userId : String) : Job where
  jobId := jobId
  jobType := "report"
  queueName := "default"
  payload := ∅
  status := .queued
  priority := 0
  createdAt := 0
  updatedAt := 0
  tenantId := some tenantId
  userId := some userId

/-- A dispatcher with a concurrency manager only. -/
def limitedDispatcher : Dispatcher := ⟨true, false, false⟩

/-- A store with a job for each of three users of one tenant. -/
def threeUsers : MemoryQueueBackend :=
  [ownedJob "a" "acme" "ann", ownedJob "b" "acme" "bob", ownedJob "c" "acme" "cy"].foldl
    (fun backend job => (backend.enqueue job).2) .empty

/-- The book before a selection over that store, with the default limits. -/
def threeUsersBook : Book MemoryQueueBackend := start {} threeUsers (.init ∅) .empty

theorem passesOthers_of_limited (book : Book MemoryQueueBackend) (job : Job) :
    book.PassesOthers limitedDispatcher MemoryQueueBackend.view job := ⟨rfl, rfl⟩

theorem threeUsersBook_candidates :
    threeUsersBook.candidates MemoryQueueBackend.contract 10 none =
      [ownedJob "a" "acme" "ann", ownedJob "b" "acme" "bob", ownedJob "c" "acme" "cy"] := by
  rfl

/-- The first of the three users is decided on its own limits. -/
theorem first_user_is_decided :
    threeUsersBook.answer limitedDispatcher MemoryQueueBackend.contract
        (ownedJob "a" "acme" "ann") = .ok false ↔
      Overbooked {} threeUsersBook.held (ownedJob "a" "acme" "ann") := by
  refine (own_limits_decide_iff MemoryQueueBackend.lawful rfl {} threeUsers (.init ∅) .empty
    [.selectEligible 10 none] ?_ (passesOthers_of_limited _ _)).mpr (.inl (by decide))
  apply List.mem_append_left
  simp only [actionRounds]
  change _ ∈ threeUsersBook.rounds limitedDispatcher MemoryQueueBackend.contract
    (threeUsersBook.candidates MemoryQueueBackend.contract 10 none)
  rw [threeUsersBook_candidates]
  exact List.mem_cons_self

/-- Whether a round skips a job none of whose own limits is reached. -/
def wrongful (round : Book MemoryQueueBackend × Job) : Bool :=
  match round.1.answer limitedDispatcher MemoryQueueBackend.contract round.2 with
  | .ok false => !decide (Overbooked {} round.1.held round.2)
  | _ => false

theorem wrongful_spec {round : Book MemoryQueueBackend × Job} (wrong : wrongful round = true) :
    round.1.answer limitedDispatcher MemoryQueueBackend.contract round.2 = .ok false ∧
      ¬ Overbooked {} round.1.held round.2 := by
  unfold wrongful at wrong
  split at wrong
  · next skipped => exact ⟨skipped, by simpa using wrong⟩
  · cases wrong

/-- The third user is refused although it holds nothing: the two held jobs count
against its limit of two. -/
theorem third_user_is_refused :
    ¬ ∀ book job, (book, job) ∈ threeUsersBook.runRounds limitedDispatcher
        MemoryQueueBackend.contract [.selectEligible 10 none] →
      book.PassesOthers limitedDispatcher MemoryQueueBackend.view job →
        (book.answer limitedDispatcher MemoryQueueBackend.contract job = .ok false ↔
          Overbooked {} book.held job) := by
  intro always
  have wronged : "c" ∈ ((threeUsersBook.runRounds limitedDispatcher MemoryQueueBackend.contract
      [.selectEligible 10 none]).filter wrongful).map fun round => round.2.jobId := by
    decide +kernel
  obtain ⟨round, kept, _⟩ := List.mem_map.mp wronged
  obtain ⟨member, wrong⟩ := List.mem_filter.mp kept
  obtain ⟨skipped, free⟩ := wrongful_spec wrong
  exact free ((always round.1 round.2 member (passesOthers_of_limited _ _)).mp skipped)

end Book

end CloudDogJobs
