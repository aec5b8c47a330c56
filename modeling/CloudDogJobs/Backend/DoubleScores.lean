import CloudDogJobs.Backend.Fencing
import CloudDogJobs.Backend.LeaseOperations
import CloudDogJobs.Foundation.Doubles

/-!
# Scores as Redis keeps them

The sorted set keeps every score as a double, so `ZADD` rounds the integer that it is
sent. On a server that shows a queue with leases, an operation whose scores have at most
53 bits does what it does with exact scores. Scores from `2 ^ 1024` on, which `ZADD`
refuses, are beyond the rounding.
-/

namespace CloudDogJobs

open Foundation

namespace RedisServer

/-- The score that the sorted set keeps. -/
def keptScore (score : Int) : Int := ⌊roundDouble score⌋

/-- The floor takes nothing away: the double of an integer is an integer. -/
theorem keptScore_cast (score : Int) : (keptScore score : Rat) = roundDouble score := by
  obtain ⟨rounded, whole⟩ := exists_roundDouble_intCast score
  rw [keptScore, whole, Int.floor_intCast]

theorem keptScore_of_lt {score : Int} (small : |score| < 2 ^ 53) : keptScore score = score := by
  rw [keptScore, roundDouble_intCast small, Int.floor_intCast]

/-- The effect of one command, with the scores kept as doubles. -/
def execDouble : (call : RedisCall) → RedisServer → call.Reply × RedisServer
  | .zadd jobId score, server => ((), server.zadd jobId (keptScore score))
  | call, server => server.exec call

end RedisServer

/-- A score that is sent has at most 53 bits. -/
def RedisCall.Precise : RedisCall → Prop
  | .zadd _ score => |score| < 2 ^ 53
  | _ => True

namespace RedisCall

theorem Precise.execDouble_eq {call : RedisCall} (precise : call.Precise) (server : RedisServer) :
    server.execDouble call = server.exec call := by
  cases call with
  | zadd jobId score =>
      rw [RedisServer.execDouble, RedisServer.keptScore_of_lt precise]
      rfl
  | _ => rfl

theorem Unindexed.precise {call : RedisCall} (unindexed : call.Unindexed) : call.Precise := by
  cases call with
  | zadd jobId score => cases unindexed
  | _ => trivial

end RedisCall

namespace LeaseQueue

/-- The scores that the operation gives to jobs have at most 53 bits. -/
def Moderate (queue : LeaseQueue) : RedisQueueBackend.Op → Prop
  | .call (.enqueue job now) => |RedisQueueBackend.score job.priority now| < 2 ^ 53
  | .call (.release jobId now) =>
      ∀ job ∈ queue.jobs.get? jobId, |RedisQueueBackend.score job.priority now| < 2 ^ 53
  | .reap scanned now => ∀ jobId ∈ scanned,
      ∀ job ∈ queue.jobs.get? jobId, |RedisQueueBackend.score job.priority now| < 2 ^ 53
  | _ => True

instance (queue : LeaseQueue) (op : RedisQueueBackend.Op) : Decidable (queue.Moderate op) :=
  match op with
  | .call (.enqueue job now) =>
      inferInstanceAs (Decidable (|RedisQueueBackend.score job.priority now| < 2 ^ 53))
  | .call (.release jobId now) =>
      inferInstanceAs (Decidable (∀ job ∈ queue.jobs.get? jobId,
        |RedisQueueBackend.score job.priority now| < 2 ^ 53))
  | .reap scanned now =>
      inferInstanceAs (Decidable (∀ jobId ∈ scanned, ∀ job ∈ queue.jobs.get? jobId,
        |RedisQueueBackend.score job.priority now| < 2 ^ 53))
  | .call (.dequeue ..) | .call (.claim ..) | .call (.heartbeat ..) | .call (.updateStatus ..)
  | .call (.recordAttempt ..) | .lapse _ => instDecidableTrue

/-- Back in line, a job has the priority that it had. -/
theorem priority_requeue {queue : LeaseQueue} {jobId other : String} {now : Int}
    {moved : LeasedJob} (placed : (queue.requeue jobId now).jobs.get? other = some moved) :
    ∃ job, queue.jobs.get? other = some job ∧ job.priority = moved.priority := by
  rw [get?_requeue] at placed
  by_cases same : other = jobId
  · rw [if_pos same] at placed
    obtain ⟨job, stored, rfl⟩ := Option.map_eq_some_iff.mp placed
    exact ⟨job, same ▸ stored, rfl⟩
  · rw [if_neg same] at placed
    exact ⟨moved, placed, rfl⟩

end LeaseQueue

namespace RedisQueueBackend

/-- Every command that the program sends from this server is precise. -/
def Precise {α : Type} (server : RedisServer) (program : RedisProg α) : Prop :=
  program.Meets RedisServer.execDouble (fun call _ => call.Precise) server

section Precision

variable {α : Type} {backend : RedisQueueBackend} {server : RedisServer} {queue : LeaseQueue}
  {jobId : String} {now : Int}

theorem Precise.run_eq {program : RedisProg α} (precise : Precise server program) :
    program.run RedisServer.execDouble server = program.run RedisServer.exec server :=
  Prog.Meets.run_eq _ precise fun _ reached small => small.execDouble_eq reached

theorem precise_of_only {program : RedisProg α} (only : program.Only RedisCall.Precise) :
    Precise server program :=
  only.meets _ (fun _ _ small => small) server

theorem precise_of_unindexed {program : RedisProg α} (only : program.Only RedisCall.Unindexed) :
    Precise server program :=
  precise_of_only (only.mono fun _ unindexed => unindexed.precise)

/-- A release sends the score of the stored job. -/
theorem Shows.precise_release (shows : backend.Shows server queue)
    (moderate : ∀ job ∈ queue.jobs.get? jobId, |score job.priority now| < 2 ^ 53) :
    Precise server (backend.release jobId now) := by
  have reads : Precise server (backend.get jobId) := precise_of_unindexed (backend.only_get jobId)
  unfold RedisQueueBackend.release
  refine (Prog.meets_bind ..).mpr ⟨reads, ?_⟩
  rw [reads.run_eq, run_get]
  cases read : backend.read server jobId with
  | error error => trivial
  | ok found =>
      cases found with
      | none => trivial
      | some found =>
          obtain ⟨job, stored, agrees⟩ := shows.agrees_of_read read
          refine ⟨trivial, ?_, trivial, trivial⟩
          show |score found.priority now| < 2 ^ 53
          rw [agrees.priority]
          exact moderate job stored

/-- A sweep sends the scores of the jobs that it releases, which keep their priorities. -/
theorem Shows.precise_reap (reads : ReadsTime backend.codec now) {scanned : List String}
    (plain : ∀ key ∈ scanned, ':' ∉ key.toList) (shows : backend.Shows server queue)
    (moderate : ∀ key ∈ scanned, ∀ job ∈ queue.jobs.get? key, |score job.priority now| < 2 ^ 53) :
    Precise server (backend.reapExpiredLeases now scanned) := by
  induction scanned generalizing server queue with
  | nil => trivial
  | cons key rest ih =>
      have later : ∀ {server queue}, backend.Shows server queue →
          (∀ key ∈ rest, ∀ job ∈ queue.jobs.get? key, |score job.priority now| < 2 ^ 53) →
            Precise server (backend.reapExpiredLeases now rest) :=
        ih fun other member => plain other (List.mem_cons_of_mem _ member)
      have others := fun other member => moderate other (List.mem_cons_of_mem _ member)
      unfold Precise
      rw [reapExpiredLeases, lastSegment_of_plain (plain key List.mem_cons_self)]
      simp only [Prog.issue_bind, Prog.meets_act, RedisServer.execDouble, RedisServer.exec]
      refine ⟨trivial, ?_⟩
      by_cases running : server.field key "status" = some JobStatus.running.value
      · simp only [running, ne_eq, not_true_eq_false, ↓reduceIte, Prog.meets_act,
          RedisServer.execDouble, RedisServer.exec]
        refine ⟨trivial, ?_⟩
        by_cases leased : (server.leases.get? key).isSome = true
        · simp only [leased, ↓reduceIte]
          exact later shows others
        · have released := shows.precise_release (moderate key List.mem_cons_self)
          simp only [leased, Bool.false_eq_true, ↓reduceIte]
          refine (Prog.meets_bind ..).mpr ⟨released, ?_⟩
          rw [released.run_eq, run_release]
          cases read : backend.read server key with
          | error error => trivial
          | ok found =>
              cases found with
              | none =>
                  refine (Prog.meets_bind ..).mpr ⟨later shows others, ?_⟩
                  split <;> trivial
              | some found =>
                  obtain ⟨job, stored, agrees⟩ := shows.agrees_of_read read
                  have moved : ∀ other ∈ rest, ∀ moved ∈ (queue.requeue key now).jobs.get? other,
                      |score moved.priority now| < 2 ^ 53 := by
                    intro other member moved placed
                    obtain ⟨before, kept, same⟩ := LeaseQueue.priority_requeue placed
                    rw [← same]
                    exact others other member before kept
                  refine (Prog.meets_bind ..).mpr
                    ⟨later (shows.released stored agrees reads) moved, ?_⟩
                  split <;> trivial
      · simp only [running, ne_eq, not_false_eq_true, ↓reduceIte]
        exact later shows others

theorem only_claim (backend : RedisQueueBackend) (jobId hostId workerId : String) (now : Int) :
    (backend.claim jobId hostId workerId now).Only RedisCall.Precise := by
  unfold RedisQueueBackend.claim
  simp only [Prog.issue_bind]
  refine ⟨trivial, fun raw => ?_⟩
  dsimp only
  split
  · trivial
  · refine ⟨trivial, fun reply => ?_⟩
    cases reply <;> trivial

theorem only_updateStatus (backend : RedisQueueBackend) (jobId status : String) (now : Int) :
    (backend.code (.call (.updateStatus jobId status now))).Only RedisCall.Precise := by
  refine (backend.only_within _).mono fun call within => ?_
  rcases within with rfl | rfl | rfl | ⟨_, rfl⟩ <;> trivial

end Precision

end RedisQueueBackend

end CloudDogJobs
