import CloudDogJobs.Queue.Submission

/-!
# Deduplication over runs

What a submission with an idempotency key returns depends on every earlier
submission with that key. The receipts of a run tell it: the registration in
force is the latest receipt of the key whose submission got its own identifier
back. In every run the keys of the manager are exactly the registrations in
force, and everything else follows from that.
-/

namespace CloudDogJobs

open Foundation

/-- A submission with what it returned. -/
structure Receipt where
  submission : Submission
  outcome : Except PyError String

namespace Receipt

variable (receipt : Receipt)

/-- The submission was given its own identifier: its job went to the backend. -/
def Own : Prop := receipt.outcome = .ok receipt.submission.jobId

instance : Decidable receipt.Own :=
  match outcome : receipt.outcome with
  | .ok jobId =>
      if same : jobId = receipt.submission.jobId then .isTrue (by rw [Own, outcome, same])
      else .isFalse fun own => same (Except.ok.inj (outcome.symm.trans own))
  | .error _ => .isFalse fun own => by cases outcome.symm.trans own

/-- The submission registered the key. -/
def Registered (key : String) : Prop := receipt.submission.key = some key ∧ receipt.Own

instance (key : String) : Decidable (receipt.Registered key) :=
  inferInstanceAs (Decidable (_ ∧ _))

/-- The time at which the registration of the receipt ends. -/
def expires (ttlSeconds : Int) : Int := receipt.submission.now + ttlSeconds * 1000000

end Receipt

/-- The registration of a key that is in force, in receipts with the latest first. -/
def inForce (key : String) (receipts : List Receipt) : Option Receipt :=
  receipts.find? fun receipt => receipt.Registered key

/-- Submissions one after the other, the latest first, with their receipts. -/
def JobQueue.submitAll {σ : Type} (queue : JobQueue) (backend : QueueBackend σ)
    (start : QueueState σ) : List Submission → List Receipt × QueueState σ
  | [] => ([], start)
  | submission :: earlier =>
      let (receipts, state) := queue.submitAll backend start earlier
      let (outcome, next) := queue.serve backend state submission
      (⟨submission, outcome⟩ :: receipts, next)

/-- What deduplication promises of the receipts of a run, and of the jobs present
at its end. -/
structure Deduplicated (ttlSeconds : Int) (receipts : List Receipt) (present : String → Prop) :
    Prop where
  /-- Every returned identifier is in the backend. -/
  stored : ∀ receipt ∈ receipts, ∀ jobId, receipt.outcome = .ok jobId → present jobId
  /-- The jobs that went to the backend are those that were not deduplicated. -/
  enqueued : ∀ receipt ∈ receipts, present receipt.submission.jobId ↔ receipt.Own
  /-- A submission without a key, or whose key has no registration, is a new job. -/
  first : ∀ later receipt earlier, receipts = later ++ receipt :: earlier →
    (∀ key, receipt.submission.key = some key → inForce key earlier = none) → receipt.Own
  /-- A submission repeats the registration in force exactly until it has expired. -/
  repeated : ∀ later receipt earlier, receipts = later ++ receipt :: earlier →
    ∀ key registration, receipt.submission.key = some key →
      inForce key earlier = some registration →
        (receipt.outcome = registration.outcome ↔
          receipt.submission.now < registration.expires ttlSeconds) ∧
        (registration.expires ttlSeconds ≤ receipt.submission.now → receipt.Own)
  /-- Submissions with different keys or without a key return distinct identifiers. -/
  distinct : receipts.Pairwise fun later earlier =>
    (∀ key, ¬ (later.submission.key = some key ∧ earlier.submission.key = some key)) →
      later.outcome ≠ earlier.outcome
  /-- A window of the length of the time to live sees at most one new job of a key. -/
  window : ∀ key time, (receipts.filter fun receipt => receipt.Registered key ∧
    time ≤ receipt.submission.now ∧
    receipt.submission.now < time + ttlSeconds * 1000000).length ≤ 1

section Receipts

variable {ttlSeconds : Int} {receipts : List Receipt} {key : String} {registration : Receipt}

theorem inForce_mem (found : inForce key receipts = some registration) :
    registration ∈ receipts ∧ registration.Registered key := by
  refine ⟨List.mem_of_find?_eq_some found, ?_⟩
  simpa using List.find?_some found

theorem inForce_cons (key : String) (receipt : Receipt) (receipts : List Receipt) :
    inForce key (receipt :: receipts) =
      if receipt.Registered key then some receipt else inForce key receipts := by
  unfold inForce
  rw [List.find?_cons]
  by_cases registered : receipt.Registered key
  · simp [registered]
  · simp [registered]

/-- The registration in force is the latest of its key. -/
theorem now_le_inForce
    (ordered : receipts.Pairwise fun later earlier =>
      earlier.submission.now ≤ later.submission.now)
    {receipt : Receipt} (member : receipt ∈ receipts) (registered : receipt.Registered key) :
    ∃ registration, inForce key receipts = some registration ∧
      receipt.submission.now ≤ registration.submission.now := by
  induction receipts with
  | nil => cases member
  | cons head rest ih =>
      rw [List.pairwise_cons] at ordered
      rw [inForce_cons]
      by_cases headRegistered : head.Registered key
      · refine ⟨head, if_pos headRegistered, ?_⟩
        rcases List.mem_cons.mp member with rfl | later
        · exact Int.le_refl _
        · exact ordered.1 receipt later
      · rw [if_neg headRegistered]
        rcases List.mem_cons.mp member with rfl | later
        · exact absurd registered headRegistered
        · exact ih ordered.2 later

/-- A property of every receipt with those before it, one receipt later. -/
theorem forall_split_cons {receipt : Receipt} {meets : Receipt → List Receipt → Prop}
    (head : meets receipt receipts)
    (tail : ∀ later other earlier, receipts = later ++ other :: earlier → meets other earlier) :
    ∀ later other earlier, receipt :: receipts = later ++ other :: earlier →
      meets other earlier := by
  intro later other earlier split
  cases later with
  | nil =>
      obtain ⟨rfl, rfl⟩ := List.cons.inj split
      exact head
  | cons first rest => exact tail rest other earlier (List.cons.inj split).2

/-- Where the identifier of a receipt comes from: its own submission, or an earlier
registration of its key. -/
def Sourced (receipts : List Receipt) (receipt : Receipt) : Prop :=
  receipt.Own ∨ ∃ key registration, receipt.submission.key = some key ∧
    registration ∈ receipts ∧ registration.Registered key ∧
    receipt.outcome = registration.outcome

theorem Sourced.cons {receipt : Receipt} (sourced : Sourced receipts receipt) (newer : Receipt) :
    Sourced (newer :: receipts) receipt := by
  rcases sourced with own | ⟨key, registration, keyed, held, rest⟩
  · exact .inl own
  · exact .inr ⟨key, registration, keyed, List.mem_cons_of_mem _ held, rest⟩

end Receipts

/-- The invariant of a run: deduplication so far, the origin of every identifier and
of every present job, and the keys of the manager. -/
structure Ledger {σ : Type} (present : σ → String → Prop) (ttlSeconds : Int) (initial : σ)
    (receipts : List Receipt) (state : QueueState σ) : Prop where
  deduplicated : Deduplicated ttlSeconds receipts (present state.shared.store)
  sourced : ∀ receipt ∈ receipts, Sourced receipts receipt
  origin : ∀ jobId, present state.shared.store jobId →
    present initial jobId ∨ jobId ∈ receipts.map fun receipt => receipt.submission.jobId
  ttl : state.idempotency.ttlSeconds = ttlSeconds
  entries : ∀ key, state.idempotency.entries.get? key =
    (inForce key receipts).map fun registration =>
      (registration.submission.jobId, registration.expires ttlSeconds)

/-- What the next submission of a run meets. -/
structure Next {σ : Type} (present : σ → String → Prop) (initial : σ) (receipts : List Receipt)
    (submission : Submission) : Prop where
  unused : submission.jobId ∉ receipts.map fun receipt => receipt.submission.jobId
  absent : ¬ present initial submission.jobId
  latest : ∀ receipt ∈ receipts, receipt.submission.now ≤ submission.now
  distinct : (receipts.map fun receipt => receipt.submission.jobId).Nodup
  ordered : receipts.Pairwise fun later earlier => earlier.submission.now ≤ later.submission.now

section Step

variable {σ : Type} {present : σ → String → Prop} {ttlSeconds : Int} {initial : σ}
  {receipts : List Receipt} {state : QueueState σ} {submission : Submission}

theorem Next.unused_of_mem (next : Next present initial receipts submission) {receipt : Receipt}
    (member : receipt ∈ receipts) : receipt.submission.jobId ≠ submission.jobId := by
  intro same
  apply next.unused
  rw [← same]
  exact List.mem_map_of_mem member

/-- The identifiers of earlier receipts are not the one of the new submission. -/
theorem Ledger.outcome_ne (ledger : Ledger present ttlSeconds initial receipts state)
    (next : Next present initial receipts submission) {receipt : Receipt}
    (member : receipt ∈ receipts) : receipt.outcome ≠ .ok submission.jobId := by
  intro same
  rcases ledger.sourced receipt member with own | ⟨key, registration, _, held, registered, repeats⟩
  · exact next.unused_of_mem member (Except.ok.inj (own.symm.trans same))
  · exact next.unused_of_mem held
      (Except.ok.inj (registered.2.symm.trans (repeats.symm.trans same)))

/-- A submission that repeats the registration in force. -/
theorem Ledger.repeated (ledger : Ledger present ttlSeconds initial receipts state)
    (next : Next present initial receipts submission) {key : String} {registration : Receipt}
    (keyed : submission.key = some key) (found : inForce key receipts = some registration)
    (valid : submission.now < registration.expires ttlSeconds) :
    Ledger present ttlSeconds initial
      (⟨submission, .ok registration.submission.jobId⟩ :: receipts) state := by
  obtain ⟨held, registered⟩ := inForce_mem found
  have foreign : ¬ (⟨submission, .ok registration.submission.jobId⟩ : Receipt).Own :=
    fun own => next.unused_of_mem held (Except.ok.inj own)
  have missing : ¬ present state.shared.store submission.jobId := by
    intro there
    rcases ledger.origin submission.jobId there with before | used
    · exact next.absent before
    · exact next.unused used
  have unregistered : ∀ other,
      ¬ (⟨submission, .ok registration.submission.jobId⟩ : Receipt).Registered other :=
    fun other claims => foreign claims.2
  refine ⟨⟨?_, ?_, ?_, ?_, ?_, ?_⟩, ?_, ?_, ledger.ttl, ?_⟩
  · intro receipt member jobId returned
    rcases List.mem_cons.mp member with rfl | earlier
    · rw [← Except.ok.inj returned]
      exact (ledger.deduplicated.enqueued registration held).mpr registered.2
    · exact ledger.deduplicated.stored receipt earlier jobId returned
  · intro receipt member
    rcases List.mem_cons.mp member with rfl | earlier
    · exact iff_of_false missing foreign
    · exact ledger.deduplicated.enqueued receipt earlier
  · refine forall_split_cons ?_ ledger.deduplicated.first
    intro unkeyed
    cases (unkeyed key keyed).symm.trans found
  · refine forall_split_cons ?_ ledger.deduplicated.repeated
    intro other entry otherKeyed otherFound
    obtain rfl : key = other := Option.some.inj (keyed.symm.trans otherKeyed)
    obtain rfl : registration = entry := Option.some.inj (found.symm.trans otherFound)
    refine ⟨iff_of_true registered.2.symm valid, fun expired => ?_⟩
    have late : registration.expires ttlSeconds ≤ submission.now := expired
    omega
  · refine List.pairwise_cons.mpr ⟨?_, ledger.deduplicated.distinct⟩
    intro receipt member apart same
    -- Two receipts of one identifier lead to one registration, hence to one key.
    have single : ∀ other ∈ receipts, other.outcome = .ok registration.submission.jobId →
        other.Own → other = registration := by
      intro other otherMember returned own
      apply List.inj_on_of_nodup_map next.distinct otherMember held
      exact Except.ok.inj (own.symm.trans returned)
    rcases ledger.sourced receipt member with own |
      ⟨other, entry, otherKeyed, otherHeld, otherRegistered, repeats⟩
    · have equal := single receipt member same.symm own
      apply apart key
      rw [equal]
      exact ⟨keyed, registered.1⟩
    · have equal := single entry otherHeld (repeats.symm.trans same.symm) otherRegistered.2
      rw [equal] at otherRegistered
      obtain rfl : key = other := Option.some.inj (registered.1.symm.trans otherRegistered.1)
      exact apart key ⟨keyed, otherKeyed⟩
  · intro other time
    rw [List.filter_cons, if_neg (by simp [unregistered other])]
    exact ledger.deduplicated.window other time
  · intro receipt member
    rcases List.mem_cons.mp member with rfl | earlier
    · exact .inr ⟨key, registration, keyed, List.mem_cons_of_mem _ held, registered,
        registered.2.symm⟩
    · exact (ledger.sourced receipt earlier).cons _
  · intro jobId there
    rcases ledger.origin jobId there with before | used
    · exact .inl before
    · exact .inr (List.mem_cons_of_mem _ used)
  · intro other
    rw [inForce_cons, if_neg (unregistered other)]
    exact ledger.entries other

/-- A submission that becomes a new job. -/
theorem Ledger.extended (ledger : Ledger present ttlSeconds initial receipts state)
    (next : Next present initial receipts submission) {reached : QueueState σ}
    (expired : ∀ key registration, submission.key = some key →
      inForce key receipts = some registration →
        registration.expires ttlSeconds ≤ submission.now)
    (stored : present reached.shared.store submission.jobId)
    (other : ∀ jobId, jobId ≠ submission.jobId →
      (present reached.shared.store jobId ↔ present state.shared.store jobId))
    (ttl : reached.idempotency.ttlSeconds = ttlSeconds)
    (entries : ∀ key, reached.idempotency.entries.get? key =
      if submission.key = some key then
        some (submission.jobId, submission.now + ttlSeconds * 1000000)
      else state.idempotency.entries.get? key) :
    Ledger present ttlSeconds initial (⟨submission, .ok submission.jobId⟩ :: receipts)
      reached := by
  have kept : ∀ receipt ∈ receipts, ∀ jobId, receipt.outcome = .ok jobId →
      jobId ≠ submission.jobId := by
    intro receipt member jobId returned same
    rw [same] at returned
    exact ledger.outcome_ne next member returned
  have registers : ∀ key, (⟨submission, .ok submission.jobId⟩ : Receipt).Registered key ↔
      submission.key = some key := fun key => ⟨fun claims => claims.1, fun keyed => ⟨keyed, rfl⟩⟩
  refine ⟨⟨?_, ?_, ?_, ?_, ?_, ?_⟩, ?_, ?_, ttl, ?_⟩
  · intro receipt member jobId returned
    rcases List.mem_cons.mp member with rfl | earlier
    · rw [← Except.ok.inj returned]
      exact stored
    · rw [other jobId (kept receipt earlier jobId returned)]
      exact ledger.deduplicated.stored receipt earlier jobId returned
  · intro receipt member
    rcases List.mem_cons.mp member with rfl | earlier
    · exact iff_of_true stored rfl
    · rw [other _ (next.unused_of_mem earlier)]
      exact ledger.deduplicated.enqueued receipt earlier
  · exact forall_split_cons (fun _ => rfl) ledger.deduplicated.first
  · refine forall_split_cons ?_ ledger.deduplicated.repeated
    intro key registration keyed found
    have late : registration.expires ttlSeconds ≤ submission.now :=
      expired key registration keyed found
    have unequal := ledger.outcome_ne next (inForce_mem found).1
    refine ⟨iff_of_false (fun same => unequal same.symm) ?_, fun _ => rfl⟩
    show ¬ submission.now < registration.expires ttlSeconds
    omega
  · refine List.pairwise_cons.mpr ⟨?_, ledger.deduplicated.distinct⟩
    intro receipt member _ same
    exact ledger.outcome_ne next member same.symm
  · intro key time
    rw [List.filter_cons]
    split
    · next inside =>
        simp only [decide_eq_true_eq, registers] at inside
        obtain ⟨keyed, notBefore, before⟩ := inside
        -- An earlier registration in the window would still be in force.
        rw [List.filter_eq_nil_iff.mpr]
        · exact Nat.le_refl 1
        · intro receipt member claims
          simp only [decide_eq_true_eq] at claims
          obtain ⟨registered, started, _⟩ := claims
          obtain ⟨registration, found, latest⟩ := now_le_inForce next.ordered member registered
          have late := expired key registration keyed found
          unfold Receipt.expires at late
          omega
    · exact ledger.deduplicated.window key time
  · intro receipt member
    rcases List.mem_cons.mp member with rfl | earlier
    · exact .inl rfl
    · exact (ledger.sourced receipt earlier).cons _
  · intro jobId there
    by_cases same : jobId = submission.jobId
    · rw [same]
      exact .inr List.mem_cons_self
    · rcases ledger.origin jobId ((other jobId same).mp there) with before | used
      · exact .inl before
      · exact .inr (List.mem_cons_of_mem _ used)
  · intro key
    rw [entries, inForce_cons]
    by_cases keyed : submission.key = some key
    · rw [if_pos keyed, if_pos ((registers key).mpr keyed)]
      rfl
    · rw [if_neg keyed, if_neg fun claims => keyed claims.1]
      exact ledger.entries key

variable {queue : JobQueue} {backend : QueueBackend σ}

/-- The step lemma: a submission that returns keeps the invariant. -/
theorem Ledger.serve (persists : backend.Persists present)
    (ledger : Ledger present ttlSeconds initial receipts state)
    (next : Next present initial receipts submission) {jobId : String}
    (returned : (queue.serve backend state submission).1 = .ok jobId) :
    Ledger present ttlSeconds initial
      (⟨submission, (queue.serve backend state submission).1⟩ :: receipts)
      (queue.serve backend state submission).2 := by
  rcases queue.serve_cases backend submission state with
    ⟨error, _, refused⟩ | ⟨key, prior, expires, keyed, found, valid, foreign, repeats⟩ |
    ⟨manager, proceeds, _, ⟨_, raised⟩ | ⟨_, stored⟩⟩
  · rw [refused] at returned
    cases returned
  · rw [ledger.entries] at found
    obtain ⟨registration, inForce, same⟩ := Option.map_eq_some_iff.mp found
    obtain ⟨rfl, rfl⟩ := Prod.mk.inj same
    rw [repeats]
    exact ledger.repeated next keyed inForce valid
  · rw [raised] at returned
    cases returned
  · rw [stored] at returned ⊢
    have own := persists.returned _ _ _ _ returned
    subst own
    rw [returned]
    have present := persists.stored _ _ _ _ returned
    have apart := persists.other submission.job submission.now state.shared.store
    rcases proceeds with ⟨unkeyed, rfl⟩ | ⟨key, expires, keyed, found, rfl⟩ |
      ⟨key, keyed, expired, rfl⟩
    · refine ledger.extended next ?_ present apart ledger.ttl ?_
      · intro key registration keyed
        cases unkeyed.symm.trans keyed
      · intro key
        rw [if_neg fun keyed => by cases unkeyed.symm.trans keyed]
    · -- A fresh identifier is not registered yet.
      rw [ledger.entries] at found
      obtain ⟨registration, inForce, same⟩ := Option.map_eq_some_iff.mp found
      exact absurd (Prod.mk.inj same).1 (next.unused_of_mem (inForce_mem inForce).1)
    · refine ledger.extended next ?_ present apart ledger.ttl ?_
      · intro other registration otherKeyed inForce
        obtain rfl : key = other := Option.some.inj (keyed.symm.trans otherKeyed)
        apply expired registration.submission.jobId
        rw [ledger.entries, inForce]
        rfl
      · intro other
        show (state.idempotency.entries.set key _).get? other = _
        rw [Dict.get?_set, keyed, ledger.ttl]
        by_cases same : other = key
        · rw [if_pos same, if_pos (congrArg some same.symm)]
        · rw [if_neg same, if_neg fun equal => same (Option.some.inj equal).symm]

end Step

section Run

variable {σ : Type} {present : σ → String → Prop} {queue : JobQueue} {backend : QueueBackend σ}

@[simp] theorem JobQueue.submitAll_cons (start : QueueState σ) (submission : Submission)
    (earlier : List Submission) :
    queue.submitAll backend start (submission :: earlier) =
      (⟨submission, (queue.serve backend (queue.submitAll backend start earlier).2
          submission).1⟩ :: (queue.submitAll backend start earlier).1,
        (queue.serve backend (queue.submitAll backend start earlier).2 submission).2) := rfl

/-- The receipts are those of the submissions, in order. -/
theorem JobQueue.map_submission_submitAll (queue : JobQueue) (backend : QueueBackend σ)
    (start : QueueState σ) (submissions : List Submission) :
    (queue.submitAll backend start submissions).1.map Receipt.submission = submissions := by
  induction submissions with
  | nil => rfl
  | cons submission earlier ih =>
      rw [submitAll_cons, List.map_cons, ih]

/-- The run lemma: submissions that all return keep the invariant. -/
theorem ledger_submitAll (persists : backend.Persists present) (shared : Shared σ)
    (ttlSeconds : Int) (submissions : List Submission)
    (ordered : submissions.Pairwise fun later earlier => earlier.now ≤ later.now)
    (fresh : (submissions.map Submission.jobId).Nodup)
    (absent : ∀ submission ∈ submissions, ¬ present shared.store submission.jobId)
    (returned : ∀ receipt ∈
      (queue.submitAll backend ⟨shared, { ttlSeconds := ttlSeconds }⟩ submissions).1,
        ∃ jobId, receipt.outcome = .ok jobId) :
    Ledger present ttlSeconds shared.store
      (queue.submitAll backend ⟨shared, { ttlSeconds := ttlSeconds }⟩ submissions).1
      (queue.submitAll backend ⟨shared, { ttlSeconds := ttlSeconds }⟩ submissions).2 := by
  induction submissions with
  | nil =>
      refine ⟨⟨?_, ?_, ?_, ?_, .nil, fun _ _ => Nat.zero_le 1⟩, ?_, fun _ => .inl, rfl,
        fun _ => rfl⟩
      · intro receipt member
        cases member
      · intro receipt member
        cases member
      · intro later receipt earlier split
        cases later <;> cases split
      · intro later receipt earlier split
        cases later <;> cases split
      · intro receipt member
        cases member
  | cons submission earlier ih =>
      rw [List.pairwise_cons] at ordered
      rw [List.map_cons, List.nodup_cons] at fresh
      rw [JobQueue.submitAll_cons] at returned ⊢
      have ledger := ih ordered.2 fresh.2
        (fun other member => absent other (List.mem_cons_of_mem _ member))
        (fun receipt member => returned receipt (List.mem_cons_of_mem _ member))
      obtain ⟨jobId, outcome⟩ := returned _ List.mem_cons_self
      have submissions := queue.map_submission_submitAll backend
        ⟨shared, { ttlSeconds := ttlSeconds }⟩ earlier
      refine ledger.serve persists ?_ outcome
      have identifiers : ∀ receipts : List Receipt,
          (receipts.map fun receipt => receipt.submission.jobId) =
            (receipts.map Receipt.submission).map Submission.jobId := by
        intro receipts
        rw [List.map_map]
        rfl
      refine ⟨?_, absent submission List.mem_cons_self, ?_, ?_, ?_⟩
      · rw [identifiers, submissions]
        exact fresh.1
      · intro receipt member
        apply ordered.1
        rw [← submissions]
        exact List.mem_map_of_mem member
      · rw [identifiers, submissions]
        exact fresh.2
      · have sorted := ordered.2
        rw [← submissions, List.pairwise_map] at sorted
        exact sorted

end Run

/-- **Deduplication over whole runs.** Submissions at non-decreasing times, with
fresh identifiers, none of which raises: every identifier returned is in the
backend, a key repeats its registration exactly until it expires, other
identifiers are distinct, and no window of the length of the time to live sees two
new jobs of one key. -/
theorem submissions_deduplicated {σ : Type} {present : σ → String → Prop} {queue : JobQueue}
    {backend : QueueBackend σ} (persists : backend.Persists present) (shared : Shared σ)
    (ttlSeconds : Int) (submissions : List Submission)
    (ordered : submissions.Pairwise fun later earlier => earlier.now ≤ later.now)
    (fresh : (submissions.map Submission.jobId).Nodup)
    (absent : ∀ submission ∈ submissions, ¬ present shared.store submission.jobId)
    (returned : ∀ receipt ∈
      (queue.submitAll backend ⟨shared, { ttlSeconds := ttlSeconds }⟩ submissions).1,
        ∃ jobId, receipt.outcome = .ok jobId) :
    Deduplicated ttlSeconds
      (queue.submitAll backend ⟨shared, { ttlSeconds := ttlSeconds }⟩ submissions).1
      (present (queue.submitAll backend ⟨shared, { ttlSeconds := ttlSeconds }⟩
        submissions).2.shared.store) :=
  (ledger_submitAll persists shared ttlSeconds submissions ordered fresh absent
    returned).deduplicated

/-- Three submissions of one key: the second repeats the first, the third comes at
the instant the registration expires. -/
def repeatedSubmissions : List Submission :=
  [⟨{ jobType := "report", idempotencyKey := some "daily" }, "job-3", 60000000⟩,
   ⟨{ jobType := "report", idempotencyKey := some "daily" }, "job-2", 59999999⟩,
   ⟨{ jobType := "report", idempotencyKey := some "daily" }, "job-1", 0⟩]

/-- A queue that accepts every payload, without a tracker. -/
def plainQueue : JobQueue := ⟨fun _ => .ok (), false⟩

theorem repeated_submissions_deduplicated :
    (plainQueue.submitAll MemoryQueueBackend.contract
        ⟨.fresh .empty, { ttlSeconds := 60 }⟩ repeatedSubmissions).1.map Receipt.outcome =
      [.ok "job-3", .ok "job-1", .ok "job-1"] ∧
    Deduplicated 60
      (plainQueue.submitAll MemoryQueueBackend.contract
        ⟨.fresh .empty, { ttlSeconds := 60 }⟩ repeatedSubmissions).1
      (fun jobId => ((plainQueue.submitAll MemoryQueueBackend.contract
        ⟨.fresh .empty, { ttlSeconds := 60 }⟩ repeatedSubmissions).2.shared.store.get
          jobId).isSome) := by
  have outcomes : (plainQueue.submitAll MemoryQueueBackend.contract
      ⟨.fresh .empty, { ttlSeconds := 60 }⟩ repeatedSubmissions).1.map Receipt.outcome =
        [.ok "job-3", .ok "job-1", .ok "job-1"] := rfl
  refine ⟨outcomes, ?_⟩
  apply submissions_deduplicated MemoryQueueBackend.persists
  · simp [repeatedSubmissions]
  · decide
  · intro submission _ there
    cases there
  · intro receipt member
    have listed := List.mem_map_of_mem (f := Receipt.outcome) member
    rw [outcomes] at listed
    simp only [List.mem_cons, List.not_mem_nil, or_false] at listed
    rcases listed with same | same | same
    · exact ⟨_, same⟩
    · exact ⟨_, same⟩
    · exact ⟨_, same⟩

end CloudDogJobs
