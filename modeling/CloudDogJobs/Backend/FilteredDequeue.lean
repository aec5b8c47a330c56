import CloudDogJobs.Backend.DispatchIndex
import CloudDogJobs.Backend.RedisEncoding

/-!
# Filtered dequeue on Redis

`dequeue` reads three times as many members of the sorted set as it may return and
filters them afterwards, where the memory and SQL backends filter first and cut
afterwards. It returns the first matching jobs exactly when enough of them are
among the members it reads.
-/

namespace CloudDogJobs

open Foundation

/-- The members of the sorted set in descending order. -/
def RedisServer.ranked (server : RedisServer) : List String :=
  (server.queue.entries.insertionSort RankLe).map Prod.fst

theorem RedisServer.mem_ranked (server : RedisServer) (jobId : String) :
    jobId ∈ server.ranked ↔ jobId ∈ server.queue.keys := by
  rw [ranked, Dict.keys, List.mem_map, List.mem_map]
  apply exists_congr
  intro entry
  rw [List.mem_insertionSort]

namespace RedisQueueBackend

variable (backend : RedisQueueBackend) {server : RedisServer} {jobs : List Job}

/-- The jobs behind the sorted set, in its order: each member reads as a job with
that identifier. -/
structure Lists (server : RedisServer) (jobs : List Job) : Prop where
  ranked : jobs.map Job.jobId = server.ranked
  stored : ∀ job ∈ jobs, backend.read server job.jobId = .ok (some job)

/-- The jobs behind an exact index are queued. -/
theorem Lists.queued {backend : RedisQueueBackend} (lists : backend.Lists server jobs)
    (exact : server.IndexExact) {job : Job} (member : job ∈ jobs) : job.status = .queued := by
  have listed : job.jobId ∈ server.ranked := by
    rw [← lists.ranked]
    exact List.mem_map_of_mem member
  have waiting := (exact job.jobId).mp ((server.mem_ranked job.jobId).mp listed)
  have stored := (backend.fields_of_read server job.jobId (lists.stored job member)).2
  exact JobStatus.value_inj.mp (Option.some.inj (stored.symm.trans waiting))

/-- The loop adds the matching jobs in order until the limit is reached. -/
theorem run_collect (limit : Nat) (jobType queueName : Option String)
    (stored : ∀ job ∈ jobs, backend.read server job.jobId = .ok (some job))
    (queued : ∀ job ∈ jobs, job.status = .queued) (found : List Job) :
    ((backend.collect limit jobType queueName (jobs.map Job.jobId) found).run
      RedisServer.exec server).1 =
        .ok (found ++ (jobs.filter (Job.matchesFilters jobType queueName)).take
          (limit - found.length)) := by
  induction jobs generalizing found with
  | nil => simp [collect]
  | cons job rest ih =>
      have later := ih (fun other member => stored other (List.mem_cons_of_mem _ member))
        (fun other member => queued other (List.mem_cons_of_mem _ member))
      rw [List.map_cons, collect]
      by_cases full : (limit : Int) ≤ found.length
      · have none : limit - found.length = 0 := by omega
        rw [if_pos full, none, List.take_zero, List.append_nil]
        rfl
      · rw [if_neg full, Prog.run_bind, run_get, stored job List.mem_cons_self]
        simp only [queued job List.mem_cons_self, decide_true, Bool.true_and]
        cases matches? : job.matchesFilters jobType queueName with
        | true =>
            obtain ⟨room, open?⟩ : ∃ room, limit - found.length = room + 1 :=
              ⟨limit - found.length - 1, by omega⟩
            have shorter : limit - (found ++ [job]).length = room := by
              rw [List.length_append, List.length_singleton]
              omega
            simp only [↓reduceIte]
            rw [later, List.filter_cons_of_pos matches?, shorter, open?, List.take_succ_cons,
              List.append_assoc, List.singleton_append]
        | false =>
            simp only [Bool.false_eq_true, ↓reduceIte]
            rw [later, List.filter_cons_of_neg (by simp [matches?])]

/-- What a filtered `dequeue` returns: the matching jobs among the members it reads. -/
theorem run_dequeue (limit : Nat) (jobType queueName : Option String)
    (exact : server.IndexExact) (lists : backend.Lists server jobs) :
    ((backend.dequeue limit jobType queueName).run RedisServer.exec server).1 =
      .ok (((jobs.take (3 * limit)).filter (Job.matchesFilters jobType queueName)).take
        limit) := by
  have reads : ∀ count, ((backend.collect limit jobType queueName (server.ranked.take count) []).run
      RedisServer.exec server).1 =
        .ok (((jobs.take count).filter (Job.matchesFilters jobType queueName)).take limit) := by
    intro count
    rw [← lists.ranked, ← List.map_take,
      backend.run_collect limit jobType queueName
        (fun job member => lists.stored job (List.mem_of_mem_take member))
        (fun job member => lists.queued exact (List.mem_of_mem_take member)) []]
    rfl
  have read := reads (max 0 ((limit : Int) * 3 - 1) + 1).toNat
  cases limit with
  | zero => exact read
  | succ limit =>
      have count : (max 0 (((limit + 1 : Nat) : Int) * 3 - 1) + 1).toNat = 3 * (limit + 1) := by
        omega
      rw [count] at read
      unfold dequeue
      rw [Prog.issue_bind, Prog.run_act]
      simp only [RedisServer.exec]
      rw [show server.zrevrange (max 0 (((limit + 1 : Nat) : Int) * 3 - 1)) =
        server.ranked.take (3 * (limit + 1)) from congrArg (server.ranked.take ·) count]
      exact read

/-- The first matching jobs in descending order, as many as the limit allows. -/
def expected (jobs : List Job) (limit : Nat) (jobType queueName : Option String) : List Job :=
  (jobs.filter (Job.matchesFilters jobType queueName)).take limit

/-- Cutting before a filter agrees with cutting after it exactly when enough items
pass the filter before the cut. -/
theorem take_filter_take_eq_iff {α : Type} (meets : α → Bool) (items : List α)
    (cut limit : Nat) :
    ((items.take cut).filter meets).take limit = (items.filter meets).take limit ↔
      min limit (items.filter meets).length ≤ ((items.take cut).filter meets).length := by
  have initial : (items.take cut).filter meets <+: items.filter meets :=
    (List.take_prefix cut items).filter meets
  have bound := initial.length_le
  have cuts : ((items.take cut).filter meets).take limit =
      (items.filter meets).take (min limit ((items.take cut).filter meets).length) := by
    conv_lhs => rw [List.prefix_iff_eq_take.mp initial]
    rw [List.take_take]
  rw [cuts, List.take_eq_take_iff]
  omega

/-- **Filtered dequeue.** On a server whose sorted set holds exactly the queued jobs,
a filtered `dequeue` returns the first matching jobs, as many as the limit allows,
exactly when that many are among the first three times the limit of all queued
jobs. -/
theorem filtered_dequeue_finds_iff (exact : server.IndexExact)
    (lists : backend.Lists server jobs) (limit : Int) (natural : 0 ≤ limit)
    (jobType queueName : Option String) :
    ((backend.dequeue limit jobType queueName).run RedisServer.exec server).1 =
        .ok (expected jobs limit.toNat jobType queueName) ↔
      min limit.toNat (jobs.filter (Job.matchesFilters jobType queueName)).length ≤
        ((jobs.take (3 * limit.toNat)).filter (Job.matchesFilters jobType queueName)).length := by
  obtain ⟨count, rfl⟩ := Int.eq_ofNat_of_zero_le natural
  have returned := backend.run_dequeue count jobType queueName exact lists
  rw [show ((count : Int).toNat) = count from rfl, returned, Except.ok.injEq]
  exact take_filter_take_eq_iff _ jobs (3 * count) count

section Sample

/-- The server after an `enqueue` of each of the jobs, one millisecond apart. -/
def enqueued : List Job → Int → RedisServer → RedisServer
  | [], _, server => server
  | job :: rest, now, server =>
      enqueued rest (now + 1000) ((plainBackend.enqueue job now).run RedisServer.exec server).2

/-- One job of the wanted type behind one of another type. -/
def shortQueue : List Job := [plainJob "first" "report", plainJob "second" "mail"]

/-- One job of the wanted type behind three of another type. -/
def longQueue : List Job :=
  [plainJob "first" "report", plainJob "second" "report", plainJob "third" "report",
    plainJob "fourth" "mail"]

/-- The sorted set of such a server holds exactly the queued jobs. -/
theorem enqueued_exact {queue : List Job} (queued : ∀ job ∈ queue, job.status = .queued)
    (now : Int) {server : RedisServer} (exact : server.IndexExact) :
    (enqueued queue now server).IndexExact := by
  induction queue generalizing now server with
  | nil => exact exact
  | cons job rest ih =>
      apply ih (fun other member => queued other (List.mem_cons_of_mem _ member))
      exact plainBackend.enqueue_keeps_index (queued job List.mem_cons_self) now exact

theorem empty_exact : RedisServer.empty.IndexExact := by
  intro jobId
  exact iff_of_false (fun member => by cases member) (fun found => by cases found)

theorem shortQueue_lists : plainBackend.Lists (enqueued shortQueue 0 .empty) shortQueue where
  ranked := by decide
  stored := by
    intro job member
    simp only [shortQueue, List.mem_cons, List.not_mem_nil, or_false] at member
    rcases member with rfl | rfl
    · exact plainBackend.read_of_hash (encodes_plainJob "first" "report") rfl
    · exact plainBackend.read_of_hash (encodes_plainJob "second" "mail") rfl

theorem longQueue_lists : plainBackend.Lists (enqueued longQueue 0 .empty) longQueue where
  ranked := by decide
  stored := by
    intro job member
    simp only [longQueue, List.mem_cons, List.not_mem_nil, or_false] at member
    rcases member with rfl | rfl | rfl | rfl
    · exact plainBackend.read_of_hash (encodes_plainJob "first" "report") rfl
    · exact plainBackend.read_of_hash (encodes_plainJob "second" "report") rfl
    · exact plainBackend.read_of_hash (encodes_plainJob "third" "report") rfl
    · exact plainBackend.read_of_hash (encodes_plainJob "fourth" "mail") rfl

theorem near_job_dequeued :
    ((plainBackend.dequeue 1 (some "mail") none).run RedisServer.exec
        (enqueued shortQueue 0 .empty)).1 =
      .ok (expected shortQueue 1 (some "mail") none) ∧
    (expected shortQueue 1 (some "mail") none).map Job.jobId = ["second"] := by
  have exact : (enqueued shortQueue 0 .empty).IndexExact :=
    enqueued_exact (by decide) 0 empty_exact
  refine ⟨?_, by decide⟩
  exact (plainBackend.filtered_dequeue_finds_iff exact shortQueue_lists 1 (by decide)
    (some "mail") none).mpr (by decide)

/-- Three jobs of another type hide the one that matches. -/
theorem far_job_not_dequeued :
    (enqueued longQueue 0 .empty).IndexExact ∧
    plainBackend.Lists (enqueued longQueue 0 .empty) longQueue ∧
    ((plainBackend.dequeue 1 (some "mail") none).run RedisServer.exec
        (enqueued longQueue 0 .empty)).1 = .ok [] ∧
    (expected longQueue 1 (some "mail") none).map Job.jobId = ["fourth"] := by
  have exact : (enqueued longQueue 0 .empty).IndexExact :=
    enqueued_exact (by decide) 0 empty_exact
  have returned := plainBackend.run_dequeue 1 (some "mail") none exact longQueue_lists
  exact ⟨exact, longQueue_lists, returned.trans rfl, by decide⟩

end Sample

end RedisQueueBackend

end CloudDogJobs
