import CloudDogJobs.Backend.Journal
import CloudDogJobs.Backend.Memory
import CloudDogJobs.Maintenance.Reaper

/-!
# What a sweep does to the memory backend

A sweep writes the status that `choose` picks for each stored job, once, and counts the
writes. A job that it has written was updated at the instant of the sweep and is neither
queued nor running, so no case applies to it again at that instant. The detection of
stuck jobs looks for running jobs among those that `dequeue` returns, which are queued.
-/

namespace CloudDogJobs

open Foundation

namespace MemoryQueueBackend

variable {κ : Type} (choose : Job → Option (Rewrite κ)) (now : Int)

/-- The identifiers and statuses that a pass writes, in order. -/
def passWrites (jobs : List Job) : List (String × JobStatus) :=
  jobs.filterMap fun job => (choose job).map fun rewrite => (job.jobId, rewrite.target)

/-- The count after a pass. -/
def passTally (jobs : List Job) (tally : κ) : κ :=
  (jobs.filterMap choose).foldl (fun current rewrite => rewrite.count current) tally

variable {choose} in
theorem pass_cons_none {job : Job} (chosen : choose job = none) (rest : List Job) :
    passWrites choose (job :: rest) = passWrites choose rest ∧
      ∀ tally, passTally choose (job :: rest) tally = passTally choose rest tally := by
  simp [passWrites, passTally, chosen]

variable {choose} in
theorem pass_cons_some {job : Job} {rewrite : Rewrite κ} (chosen : choose job = some rewrite)
    (rest : List Job) :
    passWrites choose (job :: rest) = (job.jobId, rewrite.target) :: passWrites choose rest ∧
      ∀ tally, passTally choose (job :: rest) tally =
        passTally choose rest (rewrite.count tally) := by
  simp [passWrites, passTally, chosen]

/-- The job as a pass leaves it. -/
def passJob (job : Job) : Job :=
  match choose job with
  | none => job
  | some rewrite => { job with status := rewrite.target, updatedAt := now }

theorem updateStatus_of_stored {backend : MemoryQueueBackend} {jobId : String} {job : Job}
    (stored : backend.get jobId = some job) (status : JobStatus) :
    (backend.updateStatus jobId status.value now).1 = .ok true ∧
      ∀ other, (backend.updateStatus jobId status.value now).2.get other =
        if other = jobId then some { job with status := status, updatedAt := now }
        else backend.get other := by
  unfold updateStatus
  unfold get at stored
  simp only [stored, JobStatus.parse_value]
  refine ⟨trivial, fun other => ?_⟩
  rw [get_mutate, get, stored]
  rfl

/-- The run lemma of a pass over stored jobs with distinct identifiers. -/
theorem pass_spec (jobs : List Job) (distinct : (jobs.map Job.jobId).Nodup) (tally : κ)
    (journal : Journal MemoryQueueBackend)
    (stored : ∀ job ∈ jobs, journal.store.get job.jobId = some job) :
    ∃ after : MemoryQueueBackend,
      contract.journaled.pass (fun job => .ok (choose job)) now jobs tally journal =
        (.ok (passTally choose jobs tally), ⟨after, journal.calls ++
          (passWrites choose jobs).map fun write =>
            .updateStatus write.1 write.2.value now⟩) ∧
      (∀ job ∈ jobs, after.get job.jobId = some (passJob choose now job)) ∧
      ∀ other, other ∉ jobs.map Job.jobId → after.get other = journal.store.get other := by
  induction jobs generalizing tally journal with
  | nil =>
      refine ⟨journal.store, ?_, ?_, fun _ _ => rfl⟩
      · rw [passWrites, List.filterMap_nil, List.map_nil, List.append_nil]
        rfl
      · intro job member
        cases member
  | cons job rest ih =>
      obtain ⟨absent, apart⟩ := List.nodup_cons.mp distinct
      have present := stored job List.mem_cons_self
      cases chosen : choose job with
      | none =>
          obtain ⟨after, ran, written, kept⟩ := ih apart tally journal
            fun later member => stored later (List.mem_cons_of_mem _ member)
          have same : passJob choose now job = job := by
            unfold passJob
            rw [chosen]
          refine ⟨after, ?_, ?_, ?_⟩
          · obtain ⟨writes, counts⟩ := pass_cons_none chosen rest
            rw [writes, counts]
            unfold QueueBackend.pass
            rw [chosen]
            exact ran
          · intro listed member
            rcases List.mem_cons.mp member with first | later
            · rw [first, same, kept job.jobId absent, present]
            · exact written listed later
          · intro other unlisted
            exact kept other fun member => unlisted (List.mem_cons_of_mem _ member)
      | some rewrite =>
          obtain ⟨granted, changed⟩ := updateStatus_of_stored now present rewrite.target
          obtain ⟨after, ran, written, kept⟩ := ih apart (rewrite.count tally)
            ⟨(journal.store.updateStatus job.jobId rewrite.target.value now).2,
              journal.calls ++ [.updateStatus job.jobId rewrite.target.value now]⟩ (by
                -- the later jobs have other identifiers, so they are as they were
                intro later member
                have different : later.jobId ≠ job.jobId := fun same =>
                  absent (same ▸ List.mem_map_of_mem member)
                rw [changed, if_neg different]
                exact stored later (List.mem_cons_of_mem _ member))
          have moved : passJob choose now job =
              { job with status := rewrite.target, updatedAt := now } := by
            unfold passJob
            rw [chosen]
          refine ⟨after, ?_, ?_, ?_⟩
          · obtain ⟨writes, counts⟩ := pass_cons_some chosen rest
            rw [writes, counts, List.map_cons, List.append_cons, ← ran]
            exact QueueBackend.pass_of_found _ _ now (congrArg Except.ok chosen)
              (Prod.ext granted rfl) rest tally
          · intro listed member
            rcases List.mem_cons.mp member with first | later
            · rw [first, moved, kept job.jobId absent, changed, if_pos rfl]
            · exact written listed later
          · intro other unlisted
            rw [List.map_cons, List.mem_cons, not_or] at unlisted
            rw [kept other unlisted.2, changed, if_neg unlisted.1]

/-- A pass over everything. -/
theorem passAll_spec (start : κ) (backend : MemoryQueueBackend) :
    ∃ after : MemoryQueueBackend,
      adminContract.journaled.passAll (fun job => .ok (choose job)) now start ⟨backend, []⟩ =
        (.ok (passTally choose backend.allJobs start),
          ⟨after, (passWrites choose backend.allJobs).map fun write =>
            .updateStatus write.1 write.2.value now⟩) ∧
      adminContract.passAll (fun job => .ok (choose job)) now start backend =
        (.ok (passTally choose backend.allJobs start), after) ∧
      ∀ jobId, after.get jobId = (backend.get jobId).map (passJob choose now) := by
  have distinct : (backend.allJobs.map Job.jobId).Nodup := by
    rw [backend.map_jobId_allJobs]
    exact backend.jobs.nodup
  have stored : ∀ job ∈ backend.allJobs, backend.get job.jobId = some job :=
    fun job => (backend.mem_allJobs job).mp
  obtain ⟨after, ran, written, kept⟩ :=
    pass_spec choose now backend.allJobs distinct start ⟨backend, []⟩ stored
  have unjournaled := adminContract.passAll_journaled (fun job => .ok (choose job)) now start
    ⟨backend, []⟩
  have whole : adminContract.journaled.passAll (fun job => .ok (choose job)) now start
      ⟨backend, []⟩ = _ := ran
  refine ⟨after, whole, ?_, ?_⟩
  · rw [whole] at unjournaled
    exact (Prod.ext unjournaled.1 unjournaled.2).symm
  · intro jobId
    cases found : backend.get jobId with
    | none =>
        refine (kept jobId fun member => ?_).trans found
        obtain ⟨job, listed, same⟩ := List.mem_map.mp member
        rw [← same, stored job listed] at found
        cases found
    | some job =>
        have same : job.jobId = jobId := backend.keyed jobId job found
        rw [← same] at found ⊢
        exact written job ((backend.mem_allJobs job).mpr found)

end MemoryQueueBackend

namespace MaintenanceReaper

open MemoryQueueBackend

variable (reaper : MaintenanceReaper) (ttlSeconds retentionSeconds now : Int)

/-- The job is running and has not been touched within the claim timeout. -/
def Stuck (job : Job) : Prop :=
  job.status = .running ∧ olderThan job.updatedAt reaper.claimTimeoutSeconds now = true

/-- The three rewrites of a sweep, and how they are counted. -/
theorem choose_cases {job : Job} {rewrite : Rewrite SweepSummary}
    (chosen : reaper.choose ttlSeconds retentionSeconds now job = some rewrite) :
    (reaper.Stuck now job ∧ rewrite = ⟨.failed, fun summary =>
      { summary with stuckRecovered := summary.stuckRecovered + 1 }⟩) ∨
    (¬ reaper.Stuck now job ∧ rewrite = ⟨.ttlExpired, fun summary =>
      { summary with ttlExpired := summary.ttlExpired + 1 }⟩) ∨
    (¬ reaper.Stuck now job ∧ rewrite = ⟨.cancelled, fun summary =>
      { summary with retentionPurged := summary.retentionPurged + 1 }⟩) := by
  unfold choose at chosen
  split at chosen
  · next stuck =>
      rw [Bool.and_eq_true, decide_eq_true_eq] at stuck
      exact .inl ⟨stuck, (Option.some.inj chosen).symm⟩
  · next fresh =>
      rw [Bool.and_eq_true, decide_eq_true_eq] at fresh
      split at chosen
      · exact .inr (.inl ⟨fresh, (Option.some.inj chosen).symm⟩)
      · split at chosen
        · exact .inr (.inr ⟨fresh, (Option.some.inj chosen).symm⟩)
        · cases chosen

theorem choose_of_stuck {job : Job} (stuck : reaper.Stuck now job) :
    ∃ count, reaper.choose ttlSeconds retentionSeconds now job = some ⟨.failed, count⟩ := by
  unfold choose
  rw [if_pos (by rw [Bool.and_eq_true, decide_eq_true_eq]; exact stuck)]
  exact ⟨_, rfl⟩

/-- The counts of a list of writes. -/
def summaryOf (writes : List (String × JobStatus)) : SweepSummary where
  stuckRecovered := writes.countP fun write => write.2 = .failed
  ttlExpired := writes.countP fun write => write.2 = .ttlExpired
  retentionPurged := writes.countP fun write => write.2 = .cancelled

/-- What a sweep counts is what it writes. -/
theorem passTally_choose (jobs : List Job) (tally : SweepSummary) :
    let writes := summaryOf (passWrites (reaper.choose ttlSeconds retentionSeconds now) jobs)
    passTally (reaper.choose ttlSeconds retentionSeconds now) jobs tally =
      ⟨tally.stuckRecovered + writes.stuckRecovered, tally.ttlExpired + writes.ttlExpired,
        tally.retentionPurged + writes.retentionPurged⟩ := by
  induction jobs generalizing tally with
  | nil => rfl
  | cons job rest ih =>
      cases chosen : reaper.choose ttlSeconds retentionSeconds now job with
      | none =>
          obtain ⟨writes, counts⟩ := pass_cons_none chosen rest
          rw [writes, counts]
          exact ih tally
      | some rewrite =>
          obtain ⟨writes, counts⟩ := pass_cons_some chosen rest
          rw [writes, counts, ih]
          rcases reaper.choose_cases ttlSeconds retentionSeconds now chosen with
            ⟨_, rfl⟩ | ⟨_, rfl⟩ | ⟨_, rfl⟩
          all_goals
            simp [summaryOf, Nat.add_assoc, Nat.add_comm 1]

/-- A job that a sweep has written, or left alone, is left alone by the next sweep at the
same instant. -/
theorem choose_passJob (retained : 0 ≤ retentionSeconds) (job : Job) :
    reaper.choose ttlSeconds retentionSeconds now
      (passJob (reaper.choose ttlSeconds retentionSeconds now) now job) = none := by
  unfold passJob
  cases chosen : reaper.choose ttlSeconds retentionSeconds now job with
  | none => exact chosen
  | some rewrite =>
      have fresh : olderThan now retentionSeconds now = false := by
        unfold olderThan
        rw [decide_eq_false_iff_not]
        omega
      rcases reaper.choose_cases ttlSeconds retentionSeconds now chosen with
        ⟨_, rfl⟩ | ⟨_, rfl⟩ | ⟨_, rfl⟩
      all_goals
        simp [choose, shouldPurge, fresh]

/-- What one sweep does, and the next one at the same instant. -/
structure ExactSweep (before after : MemoryQueueBackend) (writes : List (String × JobStatus)) :
    Prop where
  /-- The calls on the backend are these writes, and the result counts them. -/
  ran : reaper.runSweep ttlSeconds retentionSeconds now adminContract.journaled ⟨before, []⟩ =
    (.ok (summaryOf writes),
      ⟨after, writes.map fun write => .updateStatus write.1 write.2.value now⟩)
  /-- It is the sweep of the backend itself. -/
  sweep : reaper.runSweep ttlSeconds retentionSeconds now adminContract before =
    (.ok (summaryOf writes), after)
  once : (writes.map Prod.fst).Nodup
  targets : ∀ write ∈ writes, write.2 ∈ [JobStatus.failed, .ttlExpired, .cancelled]
  written : ∀ jobId status, (jobId, status) ∈ writes → ∃ job, before.get jobId = some job ∧
    after.get jobId = some { job with status := status, updatedAt := now }
  untouched : ∀ jobId, jobId ∉ writes.map Prod.fst → after.get jobId = before.get jobId
  again : reaper.runSweep ttlSeconds retentionSeconds now adminContract after = (.ok {}, after)

theorem mem_passWrites {κ : Type} {choose : Job → Option (Rewrite κ)} {jobs : List Job}
    {write : String × JobStatus} (member : write ∈ passWrites choose jobs) :
    ∃ job ∈ jobs, ∃ rewrite, choose job = some rewrite ∧ write = (job.jobId, rewrite.target) := by
  obtain ⟨job, listed, same⟩ := List.mem_filterMap.mp member
  obtain ⟨rewrite, chosen, rfl⟩ := Option.map_eq_some_iff.mp same
  exact ⟨job, listed, rewrite, chosen, rfl⟩

/-- The writes of a pass are to jobs of the list, in its order. -/
theorem sublist_passWrites {κ : Type} (choose : Job → Option (Rewrite κ)) (jobs : List Job) :
    ((passWrites choose jobs).map Prod.fst).Sublist (jobs.map Job.jobId) := by
  induction jobs with
  | nil => exact .slnil
  | cons job rest ih =>
      cases chosen : choose job with
      | none =>
          rw [(pass_cons_none chosen rest).1]
          exact ih.cons _
      | some rewrite =>
          rw [(pass_cons_some chosen rest).1]
          exact ih.cons_cons _

/-- **A sweep counts exactly and is idempotent.** For every content of the memory backend
and a retention that is not negative, a sweep writes to each job at most once, its three
numbers are the numbers of jobs written to failed, expired and cancelled, the other jobs
are untouched, and a second sweep at the same instant changes nothing and returns
zeros. -/
theorem sweep_is_exact (retained : 0 ≤ retentionSeconds) (before : MemoryQueueBackend) :
    ∃ after writes, reaper.ExactSweep ttlSeconds retentionSeconds now before after writes := by
  let choose := reaper.choose ttlSeconds retentionSeconds now
  obtain ⟨after, ran, sweep, jobs⟩ := passAll_spec choose now {} before
  have counted : passTally choose before.allJobs {} =
      summaryOf (passWrites choose before.allJobs) := by
    rw [reaper.passTally_choose]
    simp only [Nat.zero_add]
    rfl
  rw [counted] at ran sweep
  refine ⟨after, passWrites choose before.allJobs, ran, sweep, ?_, ?_, ?_, ?_, ?_⟩
  · refine (sublist_passWrites choose before.allJobs).nodup ?_
    rw [before.map_jobId_allJobs]
    exact before.jobs.nodup
  · intro write member
    obtain ⟨job, _, rewrite, chosen, rfl⟩ := mem_passWrites member
    rcases reaper.choose_cases ttlSeconds retentionSeconds now chosen with
      ⟨_, rfl⟩ | ⟨_, rfl⟩ | ⟨_, rfl⟩
    all_goals simp
  · intro jobId status member
    obtain ⟨job, listed, rewrite, chosen, same⟩ := mem_passWrites member
    obtain ⟨rfl, rfl⟩ := Prod.mk.inj same
    have stored := (before.mem_allJobs job).mp listed
    refine ⟨job, stored, ?_⟩
    rw [jobs, stored, Option.map_some, passJob, chosen]
  · intro jobId unwritten
    rw [jobs]
    cases stored : before.get jobId with
    | none => rfl
    | some job =>
        have same : job.jobId = jobId := before.keyed jobId job stored
        cases chosen : choose job with
        | none => rw [Option.map_some, passJob, chosen]
        | some rewrite =>
            refine absurd ?_ unwritten
            have listed := (before.mem_allJobs job).mpr (by rw [same]; exact stored)
            apply List.mem_map.mpr
            refine ⟨(job.jobId, rewrite.target), List.mem_filterMap.mpr ⟨job, listed, ?_⟩, same⟩
            rw [chosen]
            rfl
  · -- every stored job is one that the first sweep has gone through
    refine adminContract.pass_of_none _ now ?_ ({} : SweepSummary) after
    intro job listed
    have stored := (after.mem_allJobs job).mp listed
    rw [jobs] at stored
    obtain ⟨earlier, _, rfl⟩ := Option.map_eq_some_iff.mp stored
    exact congrArg Except.ok
      (reaper.choose_passJob ttlSeconds retentionSeconds now retained earlier)

/-- A backend with one job, submitted and claimed at the start of time. -/
def oneRunning : MemoryQueueBackend :=
  ((empty.enqueue (.fromRequest { jobType := "report", payload := ∅ } "job" 0)).2.claim
    "job" "host" "worker" 0).2

/-- A sweep after two minutes. -/
theorem sweep_of_one_running :
    ∃ after writes, (MaintenanceReaper.mk 60).ExactSweep 86400 2592000 120000000 oneRunning after
      writes :=
  (MaintenanceReaper.mk 60).sweep_is_exact 86400 2592000 120000000 (by decide) oneRunning

/-! ## Detection -/

/-- A sweep takes the job from running to failed. -/
def Recovers (before : MemoryQueueBackend) (jobId : String) : Prop :=
  before.status? jobId = some .running ∧
    (reaper.runSweep ttlSeconds retentionSeconds now adminContract before).2.status? jobId =
      some .failed

/-- A sweep recovers exactly the stuck jobs. -/
theorem recovers_iff (before : MemoryQueueBackend) (jobId : String) :
    reaper.Recovers ttlSeconds retentionSeconds now before jobId ↔
      ∃ job, before.get jobId = some job ∧ reaper.Stuck now job := by
  let choose := reaper.choose ttlSeconds retentionSeconds now
  obtain ⟨after, _, sweep, jobs⟩ := passAll_spec choose now ({} : SweepSummary) before
  have left : (reaper.runSweep ttlSeconds retentionSeconds now adminContract before).2 = after :=
    congrArg Prod.snd sweep
  unfold Recovers status? view
  rw [left, jobs]
  cases stored : before.get jobId with
  | none => simp
  | some job =>
      simp only [Option.map_some, Option.some.injEq, exists_eq_left']
      constructor
      · intro moved
        obtain ⟨running, failed⟩ := moved
        have unrunning : passJob choose now job ≠ job := by
          intro same
          rw [same] at failed
          cases running.symm.trans failed
        cases chosen : choose job with
        | none =>
            refine absurd ?_ unrunning
            rw [passJob, chosen]
        | some rewrite =>
            rw [passJob, chosen] at failed
            rcases reaper.choose_cases ttlSeconds retentionSeconds now chosen with
              ⟨stuck, _⟩ | ⟨_, rfl⟩ | ⟨_, rfl⟩
            · exact stuck
            · cases failed
            · cases failed
      · intro stuck
        obtain ⟨count, recovered⟩ := reaper.choose_of_stuck ttlSeconds retentionSeconds now stuck
        have chosen : choose job = some ⟨.failed, count⟩ := recovered
        refine ⟨stuck.1, ?_⟩
        rw [passJob, chosen]
        rfl

/-- Detection looks at queued jobs, and finds none that runs. -/
theorem findStuckJobIds_eq_nil (backend : MemoryQueueBackend) :
    reaper.findStuckJobIds now contract backend = .ok [] := by
  have none : (backend.dequeue 10000 none none).filter (fun job =>
      job.status = .running && olderThan job.updatedAt reaper.claimTimeoutSeconds now) = [] := by
    apply List.filter_eq_nil_iff.mpr
    intro job listed
    have queued := ((backend.mem_queued none none job).mp (mem_of_mem_slice listed)).2.1
    simp [queued]
  exact congrArg (fun jobs : List Job => Except.ok (jobs.map Job.jobId)) none

/-- Detection returns the jobs that a sweep at the same instant recovers, which are the
stuck ones. -/
def DetectionAgrees (backend : MemoryQueueBackend) : Prop :=
  ∃ found, reaper.findStuckJobIds now contract backend = .ok found ∧
    ∀ jobId,
      (jobId ∈ found ↔ reaper.Recovers ttlSeconds retentionSeconds now backend jobId) ∧
      (reaper.Recovers ttlSeconds retentionSeconds now backend jobId ↔
        ∃ job, backend.get jobId = some job ∧ reaper.Stuck now job)

/-- **When detection and recovery agree.** For every content of the memory backend, claim
timeout and instant, `find_stuck_job_ids` returns the jobs that a sweep takes from running
to failed exactly when no job is stuck: it never returns any. -/
theorem detectionAgrees_iff (backend : MemoryQueueBackend) :
    reaper.DetectionAgrees ttlSeconds retentionSeconds now backend ↔
      ∀ jobId job, backend.get jobId = some job → ¬ reaper.Stuck now job := by
  unfold DetectionAgrees
  simp only [reaper.findStuckJobIds_eq_nil now backend, Except.ok.injEq, exists_eq_left',
    reaper.recovers_iff ttlSeconds retentionSeconds now backend, List.not_mem_nil, iff_self,
    and_true, false_iff, not_exists, not_and]

/-- A job that has run for two minutes is recovered and not detected. -/
theorem running_job_not_detected :
    ¬ ∀ (reaper : MaintenanceReaper) (ttlSeconds retentionSeconds now : Int)
      (backend : MemoryQueueBackend),
      reaper.DetectionAgrees ttlSeconds retentionSeconds now backend := by
  intro agrees
  obtain ⟨found, detected, exact⟩ :=
    agrees (MaintenanceReaper.mk 60) 86400 2592000 120000000 oneRunning
  rw [findStuckJobIds_eq_nil] at detected
  have none := Except.ok.inj detected
  have stuck : (MaintenanceReaper.mk 60).Recovers 86400 2592000 120000000 oneRunning "job" :=
    ((MaintenanceReaper.mk 60).recovers_iff 86400 2592000 120000000 oneRunning "job").mpr
      ⟨_, rfl, rfl, rfl⟩
  have listed := (exact "job").1.mpr stuck
  rw [← none] at listed
  cases listed

end MaintenanceReaper

end CloudDogJobs
