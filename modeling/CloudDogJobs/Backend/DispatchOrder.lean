import CloudDogJobs.Backend.FilteredDequeue

/-!
# The score of a job and the order of dispatch

`enqueue` packs the priority of a job and its time in milliseconds into one score,
by a fixed multiplier of ten thousand millions, and `dequeue` reads the members by
descending score. The score puts the higher priority first only as long as the job
of the higher priority is not enqueued that much later: a hundred and sixteen days
outweigh one step of priority.
-/

namespace CloudDogJobs

open Foundation

namespace RedisServer

instance : Std.Total RankLe where
  total first second := by
    rcases lt_trichotomy first.2 second.2 with lower | same | higher
    · exact .inr (.inl lower)
    · rcases le_total first.1 second.1 with earlier | later
      · exact .inr (.inr ⟨same.symm, earlier⟩)
      · exact .inl (.inr ⟨same, later⟩)
    · exact .inl (.inl higher)

instance : IsTrans (String × Int) RankLe where
  trans first second third := by
    rintro (above | ⟨same, named⟩) (below | ⟨equal, ordered⟩)
    · exact .inl (below.trans above)
    · exact .inl (equal ▸ above)
    · exact .inl (same ▸ below)
    · exact .inr ⟨same.trans equal, ordered.trans named⟩

/-- Two members that rank before each other are one. -/
theorem RankLe.antisymm {first second : String × Int} (before : RankLe first second)
    (after : RankLe second first) : first = second := by
  rcases before with lower | ⟨same, named⟩ <;> rcases after with higher | ⟨equal, ordered⟩
  · exact absurd higher lower.asymm
  · exact absurd equal lower.ne
  · exact absurd same higher.ne
  · exact Prod.ext (le_antisymm ordered named) same

end RedisServer

namespace RedisQueueBackend

/-- A job and the time in microseconds at which it is enqueued. -/
structure Arrival where
  job : Job
  now : Int

namespace Arrival

/-- The time in whole milliseconds. -/
def millis (arrival : Arrival) : Int := arrival.now.tdiv 1000

/-- The member of the sorted set and its score. -/
def entry (arrival : Arrival) : String × Int :=
  (arrival.job.jobId, score arrival.job.priority arrival.now)

/-- The order of dispatch: higher priority first, then the earlier time. -/
def Before (first second : Arrival) : Prop :=
  second.job.priority < first.job.priority ∨
    (first.job.priority = second.job.priority ∧ first.millis < second.millis)

instance : DecidableRel Before := fun _ _ => inferInstanceAs (Decidable (_ ∨ _))

/-- The order in which the members are read. -/
def Ranks (first second : Arrival) : Prop := RedisServer.RankLe first.entry second.entry

instance : DecidableRel Ranks := fun _ _ => inferInstanceAs (Decidable (RedisServer.RankLe _ _))

instance : Std.Total Ranks where
  total first second := total_of RedisServer.RankLe first.entry second.entry

instance : IsTrans Arrival Ranks where
  trans _ _ _ before after := trans_of RedisServer.RankLe before after

/-- The first arrival came less than ten thousand million milliseconds after the second for
each step that its priority is higher. A job exactly that much later has the same
score, and the greater identifier goes first. -/
def InTime (first second : Arrival) : Prop :=
  let delay := first.millis - second.millis
  let allowance := (first.job.priority - second.job.priority) * 10000000000
  delay < allowance ∨ (delay = allowance ∧ second.job.jobId < first.job.jobId)

/-- A store into which arrivals go one by one, each under its identifier, holds every
one of them at the end. -/
theorem kept_of_foldl {σ β : Type} (enter : σ → Arrival → σ) (look : σ → String → Option β)
    (entry : Arrival → β)
    (own : ∀ store arrival, look store arrival.job.jobId = none →
      look (enter store arrival) arrival.job.jobId = some (entry arrival))
    (other : ∀ store arrival jobId, jobId ≠ arrival.job.jobId →
      look (enter store arrival) jobId = look store jobId)
    {arrivals : List Arrival} (ids : (arrivals.map fun arrival => arrival.job.jobId).Nodup)
    {store : σ} (fresh : ∀ arrival ∈ arrivals, look store arrival.job.jobId = none)
    {arrival : Arrival} (member : arrival ∈ arrivals) :
    look (arrivals.foldl enter store) arrival.job.jobId = some (entry arrival) := by
  have untouched : ∀ (later : List Arrival) (jobId : String) (store : σ),
      jobId ∉ later.map (fun arrival => arrival.job.jobId) →
        look (later.foldl enter store) jobId = look store jobId := by
    intro later jobId
    induction later with
    | nil => exact fun _ _ => rfl
    | cons head rest ih =>
        intro store absent
        rw [List.map_cons, List.mem_cons, not_or] at absent
        exact (ih _ absent.2).trans (other store head jobId absent.1)
  induction arrivals generalizing store with
  | nil => cases member
  | cons head rest ih =>
      rw [List.map_cons, List.nodup_cons] at ids
      rcases List.mem_cons.mp member with rfl | later
      · exact (untouched rest _ _ ids.1).trans
          (own store arrival (fresh arrival List.mem_cons_self))
      · refine ih ids.2 (fun follower among => ?_) later
        have different : follower.job.jobId ≠ head.job.jobId := by
          intro same
          exact ids.1 (List.mem_map.mpr ⟨follower, among, same⟩)
        exact (other store head _ different).trans (fresh follower (List.mem_cons_of_mem _ among))

/-- For two jobs, ranking first is being in time. -/
theorem ranks_iff_inTime {first second : Arrival}
    (different : first.job.jobId ≠ second.job.jobId) :
    Ranks first second ↔ InTime first second := by
  have named : second.job.jobId ≤ first.job.jobId ↔ second.job.jobId < first.job.jobId :=
    ⟨fun ordered => lt_of_le_of_ne ordered different.symm, le_of_lt⟩
  simp only [Ranks, RedisServer.RankLe, InTime, entry, score, millis, named]
  constructor
  · rintro (above | ⟨same, ordered⟩)
    · exact .inl (by omega)
    · exact .inr ⟨by omega, ordered⟩
  · rintro (early | ⟨same, ordered⟩)
    · exact .inl (by omega)
    · exact .inr ⟨by omega, ordered⟩

end Arrival

variable (backend : RedisQueueBackend)

/-- The server after an `enqueue`. -/
def enter (server : RedisServer) (arrival : Arrival) : RedisServer :=
  ((backend.enqueue arrival.job arrival.now).run RedisServer.exec server).2

/-- The server after an `enqueue` of each arrival. -/
def arrived (arrivals : List Arrival) (server : RedisServer) : RedisServer :=
  arrivals.foldl backend.enter server

/-- Jobs to dispatch: they have identifiers and millisecond times of their own, are
queued, and the codec reads back what their hashes hold. -/
structure Dispatchable (arrivals : List Arrival) : Prop where
  ids : (arrivals.map fun arrival => arrival.job.jobId).Nodup
  times : (arrivals.map Arrival.millis).Nodup
  queued : ∀ arrival ∈ arrivals, arrival.job.status = .queued
  encodes : ∀ arrival ∈ arrivals, Encodes backend.codec arrival.job

section Arrived

variable {backend} {arrivals : List Arrival} (server : RedisServer)

theorem queue_arrived : (backend.arrived arrivals server).queue =
    (arrivals.map Arrival.entry).foldl (fun queue entry => queue.set entry.1 entry.2)
      server.queue := by
  induction arrivals generalizing server with
  | nil => rfl
  | cons arrival rest ih => exact ih _

/-- The hash of an arrival is the one that was written for it. -/
theorem hash_arrived (ids : (arrivals.map fun arrival => arrival.job.jobId).Nodup)
    {arrival : Arrival} (member : arrival ∈ arrivals) :
    (backend.arrived arrivals .empty).hashes.get? arrival.job.jobId =
      some (backend.jobToHash arrival.job) := by
  refine Arrival.kept_of_foldl backend.enter
    (fun (server : RedisServer) jobId => server.hashes.get? jobId)
    (fun arrival => backend.jobToHash arrival.job) ?_ ?_ ids (fun _ _ => rfl) member
  · intro server entering unstored
    refine (Dict.get?_set_self ..).trans ?_
    rw [Dict.getD, unstored]
    exact congrArg some (Dict.ofList_entries (backend.jobToHash entering.job))
  · exact fun server entering jobId different => Dict.get?_set_of_ne _ _ different

theorem exact_arrived (queued : ∀ arrival ∈ arrivals, arrival.job.status = .queued)
    {server : RedisServer} (exact : server.IndexExact) :
    (backend.arrived arrivals server).IndexExact := by
  induction arrivals generalizing server with
  | nil => exact exact
  | cons arrival rest ih =>
      apply ih fun other member => queued other (List.mem_cons_of_mem _ member)
      exact backend.enqueue_keeps_index (queued arrival List.mem_cons_self) arrival.now exact

end Arrived

/-- The arrivals by descending score. -/
def ranking (arrivals : List Arrival) : List Arrival := arrivals.insertionSort Arrival.Ranks

section Dispatch

variable {backend} {arrivals : List Arrival}

/-- The jobs behind the sorted set are the arrivals by descending score. -/
theorem lists_arrived (dispatchable : backend.Dispatchable arrivals) :
    backend.Lists (backend.arrived arrivals .empty)
      ((ranking arrivals).map fun arrival => kept arrival.job) where
  ranked := by
    have entries : (backend.arrived arrivals .empty).queue.entries =
        arrivals.map Arrival.entry := by
      rw [queue_arrived, Dict.entries_foldl_set]
      · rfl
      · rw [List.map_map]
        exact dispatchable.ids
      · intro _ _ member
        cases member
    rw [RedisServer.ranked, entries,
      ← List.map_insertionSort Arrival.Ranks RedisServer.RankLe Arrival.entry arrivals
        (fun _ _ _ _ => Iff.rfl), List.map_map, List.map_map]
    rfl
  stored := by
    intro job member
    obtain ⟨arrival, among, rfl⟩ := List.mem_map.mp member
    have among : arrival ∈ arrivals := (List.mem_insertionSort _).mp among
    apply backend.read_of_hash (dispatchable.encodes arrival among)
    rw [Dict.getD, show (kept arrival.job).jobId = arrival.job.jobId from rfl,
      hash_arrived dispatchable.ids among]
    rfl

/-- An unfiltered `dequeue` with a sufficient limit returns the arrivals by descending
score. -/
theorem dequeue_arrived (dispatchable : backend.Dispatchable arrivals) {limit : Int}
    (sufficient : arrivals.length ≤ limit) :
    ((backend.dequeue limit none none).run RedisServer.exec
        (backend.arrived arrivals .empty)).1 =
      .ok ((ranking arrivals).map fun arrival => kept arrival.job) := by
  obtain ⟨count, rfl⟩ :=
    Int.eq_ofNat_of_zero_le (Int.le_trans (Int.natCast_nonneg _) sufficient)
  have enough : arrivals.length ≤ count := Int.ofNat_le.mp sufficient
  have length : ((ranking arrivals).map fun arrival => kept arrival.job).length =
      arrivals.length := by
    rw [List.length_map, ranking, List.length_insertionSort]
  have unfiltered : Job.matchesFilters none none = fun _ => true := rfl
  rw [backend.run_dequeue count none none (exact_arrived dispatchable.queued empty_exact)
    (lists_arrived dispatchable), unfiltered, List.filter_true, List.take_of_length_le,
    List.take_of_length_le]
  · omega
  · rw [List.take_of_length_le]
    · omega
    · omega

/-- The arrivals by descending score are in the order of dispatch exactly when each is in
time for those of lower priority. -/
theorem ranking_ordered_iff (dispatchable : backend.Dispatchable arrivals) :
    (ranking arrivals).Pairwise Arrival.Before ↔
      ∀ first ∈ arrivals, ∀ second ∈ arrivals, second.job.priority < first.job.priority →
        first.InTime second := by
  have ranked : (ranking arrivals).Pairwise Arrival.Ranks := List.pairwise_insertionSort _ _
  have perm : (ranking arrivals).Perm arrivals := List.perm_insertionSort _ _
  have named : ∀ {first second : Arrival}, first ∈ arrivals → second ∈ arrivals →
      first ≠ second → first.job.jobId ≠ second.job.jobId := by
    intro first second member among different same
    exact different (List.inj_on_of_nodup_map dispatchable.ids member among same)
  constructor
  · intro ordered first member second among higher
    have different : first ≠ second := by
      rintro rfl
      exact lt_irrefl _ higher
    rw [← Arrival.ranks_iff_inTime (named member among different)]
    -- one of the two comes first in the ranking, and it cannot be the lower priority
    have either : (ranking arrivals).Pairwise fun one other =>
        (one.Before other ∧ one.Ranks other) ∨ (other.Before one ∧ other.Ranks one) :=
      (ordered.and ranked).imp Or.inl
    have symmetric : Std.Symm fun one other : Arrival =>
        (one.Before other ∧ one.Ranks other) ∨ (other.Before one ∧ other.Ranks one) :=
      ⟨fun _ _ => Or.symm⟩
    rcases either.forall (perm.mem_iff.mpr member) (perm.mem_iff.mpr among) different with
      ⟨_, ranks⟩ | ⟨before, _⟩
    · exact ranks
    · rcases before with lower | ⟨equal, _⟩
      · exact absurd higher lower.asymm
      · exact absurd equal higher.ne
  · intro inTime
    have distinct : (ranking arrivals).Pairwise (· ≠ ·) :=
      perm.nodup_iff.mpr (List.Nodup.of_map _ dispatchable.ids)
    refine (ranked.and distinct).imp_of_mem fun {first second} member among related => ?_
    obtain ⟨ranks, different⟩ := related
    have member := perm.mem_iff.mp member
    have among := perm.mem_iff.mp among
    rcases lt_trichotomy second.job.priority first.job.priority with higher | equal | lower
    · exact .inl higher
    · refine .inr ⟨equal.symm, ?_⟩
      have apart : first.millis ≠ second.millis := by
        intro same
        exact different (List.inj_on_of_nodup_map dispatchable.times member among same)
      simp only [Arrival.Ranks, RedisServer.RankLe, Arrival.entry, score, equal] at ranks
      unfold Arrival.millis at apart ⊢
      omega
    · have back := inTime second among first member lower
      rw [← Arrival.ranks_iff_inTime (named among member different.symm)] at back
      exact absurd (congrArg Prod.fst (ranks.antisymm back)) (named member among different)

end Dispatch

/-- An unfiltered `dequeue` after the arrivals returns each of them, in the order of
dispatch. -/
def InOrder (arrivals : List Arrival) (limit : Int) : Prop :=
  ∃ listed : List Arrival, listed.Perm arrivals ∧ listed.Pairwise Arrival.Before ∧
    ((backend.dequeue limit none none).run RedisServer.exec
        (backend.arrived arrivals .empty)).1 =
      .ok (listed.map fun arrival => kept arrival.job)

/-- Lists with the same images are the same where the images are distinct. -/
theorem eq_of_map_eq {α β : Type} {image : α → β} {first second : List α}
    (injective : ∀ one ∈ first, ∀ other ∈ second, image one = image other → one = other)
    (same : first.map image = second.map image) : first = second := by
  induction first generalizing second with
  | nil => exact (List.map_eq_nil_iff.mp same.symm).symm
  | cons one rest ih =>
      cases second with
      | nil => cases same
      | cons other others =>
          obtain ⟨heads, tails⟩ := List.cons.inj same
          rw [injective one List.mem_cons_self other List.mem_cons_self heads,
            ih (fun left member right among => injective left (List.mem_cons_of_mem _ member) right
              (List.mem_cons_of_mem _ among)) tails]

theorem inOrder_iff_ranking {backend : RedisQueueBackend} {arrivals : List Arrival}
    (dispatchable : backend.Dispatchable arrivals) {limit : Int}
    (sufficient : arrivals.length ≤ limit) :
    backend.InOrder arrivals limit ↔ (ranking arrivals).Pairwise Arrival.Before := by
  have returned := dequeue_arrived dispatchable sufficient
  have perm : (ranking arrivals).Perm arrivals := List.perm_insertionSort _ _
  constructor
  · rintro ⟨listed, among, ordered, dequeued⟩
    have jobs := Except.ok.inj (dequeued.symm.trans returned)
    have same : listed = ranking arrivals := by
      refine eq_of_map_eq (fun one member other later equal => ?_) jobs
      have named : (kept one.job).jobId = (kept other.job).jobId := congrArg Job.jobId equal
      exact List.inj_on_of_nodup_map dispatchable.ids (among.mem_iff.mp member)
        (perm.mem_iff.mp later) named
    exact same ▸ ordered
  · intro ordered
    exact ⟨ranking arrivals, perm, ordered, returned⟩

/-- **The score and the order of dispatch.** For any jobs with identifiers and
millisecond times of their own, enqueued in any order, an unfiltered `dequeue` with a
sufficient limit returns them by priority and then by time exactly when every job came
less than ten thousand million milliseconds, for each step of priority, after any job of lower
priority. -/
theorem dispatch_order_iff {arrivals : List Arrival} (dispatchable : backend.Dispatchable arrivals)
    {limit : Int} (sufficient : arrivals.length ≤ limit) :
    backend.InOrder arrivals limit ↔
      ∀ first ∈ arrivals, ∀ second ∈ arrivals, second.job.priority < first.job.priority →
        first.InTime second :=
  (inOrder_iff_ranking dispatchable sufficient).trans (ranking_ordered_iff dispatchable)

section Sample

/-- A job of priority zero, and one of priority one that much later. -/
def delayed (now : Int) : List Arrival :=
  [⟨{ plainJob "low" "task" with priority := 0, nextRunAt := none }, 0⟩,
   ⟨{ plainJob "high" "task" with priority := 1, nextRunAt := none }, now⟩]

theorem dispatchable_delayed {now : Int} (later : now.tdiv 1000 ≠ 0) :
    plainBackend.Dispatchable (delayed now) where
  ids := by simp [delayed, plainJob, Job.fromRequest]
  times := by simpa [delayed, Arrival.millis] using later.symm
  queued := by
    intro arrival member
    simp only [delayed, List.mem_cons, List.not_mem_nil, or_false] at member
    rcases member with rfl | rfl
    · rfl
    · rfl
  encodes := by
    intro arrival member
    simp only [delayed, List.mem_cons, List.not_mem_nil, or_false] at member
    rcases member with rfl | rfl
    · exact encodes_planned "low" "task" 0 none
    · exact encodes_planned "high" "task" 1 none

/-- A second later, the higher priority goes first. -/
theorem soon_job_goes_first : plainBackend.InOrder (delayed 1000000) 2 := by
  refine (plainBackend.dispatch_order_iff (dispatchable_delayed (by decide)) (by decide)).mpr ?_
  intro first member second among higher
  simp only [delayed, List.mem_cons, List.not_mem_nil, or_false] at member among
  rcases member with rfl | rfl <;> rcases among with rfl | rfl
  · exact absurd higher (by decide)
  · exact absurd higher (by decide)
  · exact .inl (by decide)
  · exact absurd higher (by decide)

/-- A hundred and sixteen days later, it goes last. -/
theorem late_job_goes_last :
    ¬ ∀ (backend : RedisQueueBackend) (arrivals : List Arrival) (limit : Int),
      backend.Dispatchable arrivals → arrivals.length ≤ limit →
        backend.InOrder arrivals limit := by
  intro ordered
  have dispatchable := @dispatchable_delayed 10000000001000 (by decide)
  have inOrder := ordered plainBackend _ 2 dispatchable (by decide)
  rw [inOrder_iff_ranking dispatchable (by decide)] at inOrder
  revert inOrder
  decide +kernel

end Sample

end RedisQueueBackend

end CloudDogJobs
