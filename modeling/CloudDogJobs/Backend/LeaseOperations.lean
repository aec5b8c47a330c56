import CloudDogJobs.Backend.LeaseRefinement
import CloudDogJobs.Backend.Renewal

/-!
# The operations of the queue with leases on Redis

Every method of the Redis backend answers as the queue with leases does and leaves the
server of the queue behind. A run of them, with leases lost in between, is a run of the
queue.
-/

namespace CloudDogJobs

open Foundation

/-- What the caller of a method is told, of the jobs their identifiers. -/
def Report.of : Except PyError BackendResult → Report
  | .ok (.jobId stored) => .jobId stored
  | .ok (.jobs jobs) => .jobIds (jobs.map Job.jobId)
  | .ok (.flag value) => .flag value
  | .ok (.jobIds reaped) => .jobIds reaped
  | .error _ => .raised

namespace RedisQueueBackend

variable {backend : RedisQueueBackend} {server : RedisServer} {queue : LeaseQueue}
  {jobId : String} {job : LeasedJob} {now : Int}

/-- A program of the backend answers and acts as a step of the queue. -/
def Follows (backend : RedisQueueBackend) (server : RedisServer)
    (program : RedisProg (Except PyError BackendResult)) (told : Report × LeaseQueue) : Prop :=
  Report.of (program.run RedisServer.exec server).1 = told.1 ∧
    backend.Shows (program.run RedisServer.exec server).2 told.2

section Submitting

theorem Shows.enqueue (shows : backend.Shows server queue) {submitted : Job}
    (queued : submitted.status = .queued) (fresh : server.hashes.get? submitted.jobId = none)
    (rereads : RereadsJob backend.codec submitted) :
    backend.Follows server (code backend (.call (.enqueue submitted now)))
      (.jobId submitted.jobId, queue.enqueue submitted now) := by
  have absent : queue.jobs.get? submitted.jobId = none := by
    rw [← Option.not_isSome_iff_eq_none, ← shows.isSome_stored, fresh]
    exact nofun
  have vacant := shows.vacant absent
  refine ⟨rfl, ?_⟩
  have cells : ((server.hset submitted.jobId (backend.jobToHash submitted)).zadd submitted.jobId
      (score submitted.priority now)).cells = Function.update server.cells submitted.jobId
        ⟨some ((∅ : Dict String String).update (backend.jobToHash submitted)),
          some (score submitted.priority now), none⟩ := by
    rw [RedisServer.cells_zadd, RedisServer.cells_hset]
    simp only [Function.update_self, Function.update_idem, vacant, Option.getD_none]
  exact shows.update cells (queue.get?_enqueue submitted now)
    ⟨⟨_, rfl, describes_jobToHash queued rereads _⟩, rfl, rfl⟩

end Submitting

section Releasing

/-- What `release` writes are minor fields. -/
theorem minor_release (stamp : String) :
    Minor (.ofList [("status", JobStatus.queued.value), ("claimed_by", ""),
      ("updated_at", stamp)]) :=
  ⟨rfl, rfl, rfl, rfl, rfl⟩

/-- A stored job that is read and written back to the line. -/
theorem Shows.released (shows : backend.Shows server queue)
    (stored : queue.jobs.get? jobId = some job) {found : Job} (agrees : Agrees jobId job found)
    (reads : ReadsTime backend.codec now) :
    backend.Shows (backend.released server jobId now found) (queue.requeue jobId now) := by
  obtain ⟨data, lease, held, describes, _⟩ := shows.cells stored
  have cells : (backend.released server jobId now found).cells =
      Function.update server.cells jobId
        ⟨some (data.update (.ofList [("status", JobStatus.queued.value), ("claimed_by", ""),
            ("updated_at", backend.codec.isoformat now)])),
          some (score found.priority now), none⟩ := by
    unfold RedisQueueBackend.released
    rw [RedisServer.cells_deleteLease, RedisServer.cells_zadd, RedisServer.cells_hset]
    simp only [Function.update_self, Function.update_idem, held, Option.getD_some]
  have waits := describes.update (.waiting (score job.priority now)) (sound_release reads).but
    (minor_release _) rfl
  refine shows.update cells (queue.get?_requeue_of_stored stored now) ⟨⟨_, rfl, waits⟩, ?_, rfl⟩
  exact congrArg (fun priority => some (score priority now)) agrees.priority

theorem Shows.release (shows : backend.Shows server queue)
    (reads : ReadsTime backend.codec now) :
    backend.Follows server (code backend (.call (.release jobId now)))
      (queue.release jobId now) := by
  unfold Follows code LeaseQueue.release
  rw [Prog.run_map, run_release]
  cases stored : queue.jobs.get? jobId with
  | none =>
      rw [shows.read_of_absent stored]
      exact ⟨rfl, shows⟩
  | some job =>
      by_cases known : (JobStatus.ofValue? job.place.status).isSome
      · obtain ⟨found, read, agrees⟩ := shows.read_of_known stored known
        rw [read]
        dsimp only
        rw [if_pos known]
        exact ⟨rfl, shows.released stored agrees reads⟩
      · obtain ⟨error, failed⟩ := shows.read_of_unknown stored known
        rw [failed]
        dsimp only
        rw [if_neg known]
        exact ⟨rfl, shows⟩

end Releasing

section Sweeping

/-- The status of an abandoned job is known. -/
theorem known_of_lapsed {place : Place} (lapsed : place.Lapsed) :
    (JobStatus.ofValue? place.status).isSome := by
  rw [lapsed.1, JobStatus.ofValue?_value]
  rfl

/-- A sweep of plain keys goes through them as the queue does. -/
theorem Shows.reap (reads : ReadsTime backend.codec now) {scanned : List String}
    (plain : ∀ key ∈ scanned, ':' ∉ key.toList) (shows : backend.Shows server queue) :
    ((backend.reapExpiredLeases now scanned).run RedisServer.exec server).1 =
        .ok (LeaseQueue.reap now scanned queue).1 ∧
      backend.Shows ((backend.reapExpiredLeases now scanned).run RedisServer.exec server).2
        (LeaseQueue.reap now scanned queue).2 := by
  induction scanned generalizing server queue with
  | nil => exact ⟨rfl, shows⟩
  | cons key rest ih =>
      have later : ∀ {server : RedisServer} {queue : LeaseQueue}, backend.Shows server queue → _ :=
        fun shows => ih (fun other member => plain other (List.mem_cons_of_mem _ member)) shows
      have found : (server.field key "status" = some JobStatus.running.value ∧
          (server.leases.get? key).isSome = false) ↔ queue.Abandoned key := by
        rw [← shows.abandoned_iff, Option.isSome_eq_false_iff, Option.isNone_iff_eq_none]
        exact Iff.rfl
      rw [run_reapExpiredLeases_cons, lastSegment_of_plain (plain key List.mem_cons_self),
        LeaseQueue.reap]
      by_cases abandoned : queue.Abandoned key
      · obtain ⟨job, stored, lapsed⟩ := id abandoned
        obtain ⟨read, fetched, agrees⟩ := shows.read_of_known stored (known_of_lapsed lapsed)
        obtain ⟨swept, kept⟩ := later (shows.released stored agrees reads)
        rw [if_pos (found.mpr abandoned), if_pos abandoned, run_release, fetched]
        dsimp only
        rw [swept]
        exact ⟨rfl, kept⟩
      · rw [if_neg (mt found.mp abandoned), if_neg abandoned]
        exact later shows

end Sweeping

section Claiming

/-- The metadata that a claim decodes, of a stored job or of none. -/
theorem Shows.loads_claimText (shows : backend.Shows server queue)
    (blank : Accepts backend.loadsDict "\x7b\x7d") (jobId : String) :
    ∃ metadata, backend.loadsDict (claimText server jobId) = .ok metadata := by
  unfold claimText RedisServer.field Dict.getD
  cases stored : queue.jobs.get? jobId with
  | none =>
      rw [shows.unhashed stored]
      exact blank
  | some job =>
      obtain ⟨data, present, describes⟩ := shows.hash stored
      rw [present]
      have described : "meta" ≠ "status" := by decide
      exact describes.legible ("meta", Defaulted backend.loadsDict "\x7b\x7d") (.head _) described

/-- What the script of `claim` writes are minor fields. -/
theorem minor_claim (claimedBy metaText stamp : String) :
    Minor (.ofList [("status", JobStatus.running.value), ("claimed_by", claimedBy),
      ("meta", metaText), ("updated_at", stamp), ("started_at", stamp),
      ("last_heartbeat_at", stamp)]) :=
  ⟨rfl, rfl, rfl, rfl, rfl⟩

theorem Shows.claim (shows : backend.Shows server queue)
    (blank : Accepts backend.loadsDict "\x7b\x7d") {hostId workerId : String}
    (reads : backend.CodecReads server (.claim jobId hostId workerId now)) :
    backend.Follows server (code backend (.call (.claim jobId hostId workerId now)))
      ((queue.claim backend.leaseTimeout jobId).map .flag id) := by
  obtain ⟨metadata, loaded⟩ := shows.loads_claimText blank jobId
  unfold Follows code LeaseQueue.claim
  rw [Prog.run_map, backend.run_claim server jobId now hostId workerId loaded]
  have refused : server.status? jobId ≠ some JobStatus.queued.value →
      server.claimScript jobId (hostId ++ ":" ++ workerId)
        (backend.claimedMeta hostId workerId metadata) (backend.codec.isoformat now)
        backend.leaseTimeout = (.ok false, server) :=
    fun other => if_pos other
  cases stored : queue.jobs.get? jobId with
  | none =>
      rw [refused (by rw [shows.status?, stored]; exact nofun)]
      exact ⟨rfl, shows⟩
  | some job =>
      rw [Option.map_some]
      cases placed : job.place with
      | away status elsewhere leased =>
          have other : server.status? jobId ≠ some JobStatus.queued.value := by
            rw [shows.status_of_stored stored, placed]
            exact fun same => elsewhere (Option.some.inj same)
          rw [refused other]
          exact ⟨rfl, shows⟩
      | waiting score =>
          have waiting : server.status? jobId = some JobStatus.queued.value := by
            rw [shows.status_of_stored stored, placed]
            rfl
          obtain ⟨data, lease, held, describes, leased⟩ := shows.cells stored
          have taken := describes.update
            (.away JobStatus.running.value (by decide) (decide (0 < backend.leaseTimeout)))
            (sound_claim reads.1 (reads.2 metadata loaded) (hostId ++ ":" ++ workerId)).but
            (minor_claim _ _ _) rfl
          rw [placed] at held leased
          have unleased : lease = none := Option.isSome_eq_false_iff.mp leased |>
            Option.isNone_iff_eq_none.mp
          unfold RedisServer.claimScript
          rw [if_neg (not_not.mpr waiting)]
          dsimp only
          by_cases expired : backend.leaseTimeout ≤ 0
          · rw [decide_eq_false (Int.not_lt.mpr expired)] at taken ⊢
            rw [if_pos expired]
            refine ⟨rfl, shows.moved stored none ?_ taken rfl⟩
            rw [RedisServer.cells_zrem, RedisServer.cells_hset]
            simp only [Function.update_self, Function.update_idem, held, Option.getD_some, unleased]
            rfl
          · rw [decide_eq_true (Int.not_le.mp expired)] at taken ⊢
            rw [if_neg expired]
            refine ⟨rfl, shows.moved stored
              (some (hostId ++ ":" ++ workerId, backend.leaseTimeout)) ?_ taken rfl⟩
            rw [RedisServer.cells_setLease, RedisServer.cells_zrem, RedisServer.cells_hset]
            simp only [Function.update_self, Function.update_idem, held, Option.getD_some]
            rfl

end Claiming

section Beating

/-- What the script of `heartbeat` writes. -/
theorem sound_heartbeat (reads : ReadsTime backend.codec now) :
    backend.SoundBut (.ofList [("updated_at", backend.codec.isoformat now),
      ("last_heartbeat_at", backend.codec.isoformat now)]) := by
  refine (sound_ofList ?_).but
  simp only [List.forall_mem_cons]
  exact ⟨passes_updatedAt reads, passes_time reads rfl, nofun⟩

theorem minor_heartbeat (stamp : String) :
    Minor (.ofList [("updated_at", stamp), ("last_heartbeat_at", stamp)]) :=
  ⟨rfl, rfl, rfl, rfl, rfl⟩

theorem Shows.heartbeat (shows : backend.Shows server queue)
    (reads : ReadsTime backend.codec now) :
    backend.Follows server (code backend (.call (.heartbeat jobId now)))
      ((queue.heartbeat backend.leaseTimeout jobId).map .flag id) := by
  unfold Follows code LeaseQueue.heartbeat
  rw [Prog.run_map, run_heartbeat]
  have refused : server.status? jobId ≠ some JobStatus.running.value →
      server.heartbeatScript jobId (backend.codec.isoformat now) backend.leaseTimeout =
        (false, server) :=
    fun other => if_pos other
  cases stored : queue.jobs.get? jobId with
  | none =>
      rw [refused (by rw [shows.status?, stored]; exact nofun)]
      exact ⟨rfl, shows⟩
  | some job =>
      have shown := shows.status_of_stored stored
      rw [Option.map_some]
      cases placed : job.place with
      | waiting score =>
          rw [placed] at shown
          have other : server.status? jobId ≠ some JobStatus.running.value := by
            rw [shown]
            exact fun same => Place.not_lapsed_waiting score ⟨Option.some.inj same, rfl⟩
          rw [refused other]
          exact ⟨rfl, shows⟩
      | away status elsewhere leased =>
          rw [placed] at shown
          dsimp only
          by_cases running : status = JobStatus.running.value
          · obtain ⟨data, lease, held, describes, same⟩ := shows.cells stored
            have beaten := describes.update
              (.away status elsewhere (leased && decide (0 < backend.leaseTimeout)))
              (sound_heartbeat reads) (minor_heartbeat _) (by rw [describes.status, placed]; rfl)
            rw [placed] at held same
            rw [if_pos running]
            unfold RedisServer.heartbeatScript
            rw [if_neg (not_not.mpr (shown.trans (congrArg some running)))]
            dsimp only
            by_cases expired : backend.leaseTimeout ≤ 0
            · have ended : (leased && decide (0 < backend.leaseTimeout)) = false := by
                rw [decide_eq_false (Int.not_lt.mpr expired), Bool.and_false]
              rw [ended] at beaten ⊢
              rw [if_pos expired]
              refine ⟨rfl, shows.moved stored none ?_ beaten rfl⟩
              rw [RedisServer.cells_deleteLease, RedisServer.cells_hset]
              simp only [Function.update_self, Function.update_idem, held, Option.getD_some]
              rfl
            · have lasting : (leased && decide (0 < backend.leaseTimeout)) = leased := by
                rw [decide_eq_true (Int.not_le.mp expired), Bool.and_true]
              rw [lasting] at beaten ⊢
              rw [if_neg expired]
              refine ⟨rfl, shows.moved stored
                (lease.map fun lease => (lease.1, backend.leaseTimeout)) ?_ beaten
                (Option.isSome_map.trans same)⟩
              rw [RedisServer.cells_modifyLease, RedisServer.cells_hset]
              simp only [Function.update_self, Function.update_idem, held, Option.getD_some]
          · have other : server.status? jobId ≠ some JobStatus.running.value := by
              rw [shown]
              exact fun same => running (Option.some.inj same)
            rw [if_neg running, refused other]
            exact ⟨rfl, shows⟩

end Beating

section Writing

/-- What `update_status` writes are minor fields. -/
theorem minor_statusMapping (backend : RedisQueueBackend) (status : String) (now : Int) :
    Minor (backend.statusMapping status now) := by
  unfold statusMapping
  dsimp only
  split
  · exact ⟨rfl, rfl, rfl, rfl, rfl⟩
  · exact ⟨rfl, rfl, rfl, rfl, rfl⟩

theorem Shows.updateStatus (shows : backend.Shows server queue) {status : String}
    (reads : ReadsTime backend.codec now)
    (keeps : status = JobStatus.queued.value →
      server.hashes.get? jobId = none ∨ server.status? jobId = some JobStatus.queued.value) :
    backend.Follows server (code backend (.call (.updateStatus jobId status now)))
      ((queue.updateStatus jobId status).map .flag id) := by
  unfold Follows code LeaseQueue.updateStatus
  rw [Prog.run_map, run_updateStatus]
  cases stored : queue.jobs.get? jobId with
  | none =>
      rw [shows.unhashed stored]
      exact ⟨rfl, shows⟩
  | some job =>
      obtain ⟨data, lease, held, describes, leased⟩ := shows.cells stored
      have present : server.hashes.get? jobId = some data := congrArg Cells.hash held
      have sound := soundBut_statusMapping reads status
      have minor := backend.minor_statusMapping status now
      have named := backend.statusMapping_status status now
      rw [present, Option.isSome_some, if_pos rfl]
      unfold statusWritten
      dsimp only
      by_cases queued : status = JobStatus.queued.value
      · -- the job is in line already, and stays there
        subst queued
        obtain ⟨score, placed⟩ : ∃ score, job.place = .waiting score := by
          have waiting := (keeps rfl).resolve_left (by rw [present]; exact nofun)
          rw [shows.status_of_stored stored] at waiting
          exact Place.eq_waiting (Option.some.inj waiting)
        have lasting : JobStatus.queued.value ∉ terminal := by decide
        have still := describes.update job.place sound minor (by rw [named, placed]; rfl)
        rw [dif_neg (not_not.mpr rfl), if_neg (not_not.mpr rfl), if_neg lasting]
        have written := server.cells_hset jobId
          (backend.statusMapping JobStatus.queued.value now)
        rw [held] at written
        exact ⟨rfl, shows.rewritten stored lease written still leased⟩
      · have gone := describes.update
          (.away status queued (job.place.leased && decide (status ∉ terminal))) sound minor
          (by rw [named]; rfl)
        rw [dif_pos queued, if_pos queued]
        by_cases ends : status ∈ terminal
        · rw [decide_eq_false (not_not.mpr ends), Bool.and_false] at gone ⊢
          rw [if_pos ends]
          refine ⟨rfl, shows.moved stored none ?_ gone rfl⟩
          rw [RedisServer.cells_deleteLease, RedisServer.cells_zrem, RedisServer.cells_hset]
          simp only [Function.update_self, Function.update_idem, held, Option.getD_some]
          rfl
        · rw [decide_eq_true ends, Bool.and_true] at gone ⊢
          rw [if_neg ends]
          refine ⟨rfl, shows.moved stored lease ?_ gone leased⟩
          rw [RedisServer.cells_zrem, RedisServer.cells_hset]
          simp only [Function.update_self, Function.update_idem, held, Option.getD_some]
          rfl

end Writing

section Lapsing

theorem Shows.lapse (shows : backend.Shows server queue) :
    backend.Follows server (code backend (.lapse jobId)) (.flag true, queue.lapse jobId) := by
  refine ⟨rfl, ?_⟩
  show backend.Shows (server.deleteLease jobId) (queue.lapse jobId)
  unfold LeaseQueue.lapse
  have vanished : server.leases.get? jobId = none → (server.deleteLease jobId).cells =
      server.cells := by
    intro absent
    rw [RedisServer.cells_deleteLease, ← absent]
    exact Function.update_eq_self jobId server.cells
  have same : server.leases.get? jobId = none →
      backend.Shows (server.deleteLease jobId) queue := by
    intro absent other
    rw [vanished absent]
    exact shows other
  cases stored : queue.jobs.get? jobId with
  | none => exact same (congrArg Cells.lease (shows.vacant stored))
  | some job =>
      obtain ⟨data, lease, held, describes, leased⟩ := shows.cells stored
      rw [Option.map_some]
      cases placed : job.place with
      | waiting score =>
          rw [placed] at leased
          refine same ((congrArg Cells.lease held).trans ?_)
          exact Option.isNone_iff_eq_none.mp (Option.isSome_eq_false_iff.mp leased)
      | away status elsewhere _ =>
          rw [placed] at held
          have written := server.cells_deleteLease jobId
          rw [held] at written
          exact shows.moved stored none written
            { describes with status := by rw [describes.status, placed]; rfl } rfl

end Lapsing

section Recording

variable {updates : Dict String String}

/-- A text that `int` reads. -/
theorem toInt?_of_parseInt {text : String} {count : Int} (parsed : parseInt text = .ok count) :
    text.toInt? = some count := by
  unfold parseInt at parsed
  split at parsed
  · next number read => rw [read, Except.ok.inj parsed]
  · cases parsed

/-- The count of attempts that the transaction writes. -/
theorem Describes.counted {data : Dict String String} (describes : backend.Describes data jobId job)
    (count : Int) :
    backend.Describes (data.update (Dict.empty.set "attempt" (toString count))) jobId job := by
  have kept : ∀ {name : String}, name ≠ "attempt" →
      (data.update (Dict.empty.set "attempt" (toString count))).get? name = data.get? name :=
    fun other => data.get?_update_of_none (Dict.get?_set_of_ne _ _ other)
  have written : (data.update (Dict.empty.set "attempt" (toString count))).get? "attempt" =
      some (toString count) := by
    rw [Dict.get?_update, Dict.get?_set_self, Option.some_or]
  exact {
    legible := describes.legible.update (sound_empty.set (passes_attempt count)).but
    jobId := (kept (by decide)).trans describes.jobId
    jobType := (kept (by decide)).trans describes.jobType
    queueName := (kept (by decide)).trans describes.queueName
    priority := by
      rw [kept (by decide)]
      exact describes.priority
    attempt := ⟨_, count, written, parseInt_toString count⟩
    status := (kept (by decide)).trans describes.status }

/-- The transaction of `record_attempt` on a stored job. -/
theorem Shows.attempted (shows : backend.Shows server queue)
    (stored : queue.jobs.get? jobId = some job) (sound : backend.SoundBut updates)
    (minor : Minor updates) (unnamed : updates.get? "status" = none) :
    ∃ after, server.attemptPipeline jobId updates = (.ok (), after) ∧
      backend.Shows after queue := by
  obtain ⟨data, lease, held, describes, leased⟩ := shows.cells stored
  obtain ⟨text, count, counted, parsed⟩ := describes.attempt
  have present : server.hashes.get? jobId = some data := congrArg Cells.hash held
  have number : ((server.field jobId "attempt").getD "0").toInt? = some count := by
    rw [RedisServer.field, Dict.getD, present, Option.getD_some, counted]
    exact toInt?_of_parseInt parsed
  have still := (describes.counted (count + 1)).update job.place sound minor (by
    rw [unnamed, Option.none_or]
    exact (describes.counted (count + 1)).status)
  have written : ((server.hset jobId (Dict.empty.set "attempt" (toString (count + 1)))).hset
      jobId updates).cells = Function.update server.cells jobId
        ⟨some ((data.update (Dict.empty.set "attempt" (toString (count + 1)))).update updates),
          job.place.score?, lease⟩ := by
    rw [RedisServer.cells_hset, RedisServer.cells_hset]
    simp only [Function.update_self, Function.update_idem, held, Option.getD_some]
  unfold RedisServer.attemptPipeline
  rw [number]
  exact ⟨_, rfl, shows.rewritten stored lease written still leased⟩

theorem Shows.recordAttempt (shows : backend.Shows server queue) {error : Option String}
    (reads : ReadsTime backend.codec now)
    (described : ∀ message ∈ error,
      Rereads backend.codec (.ofDict (Dict.empty.set "message" (.str message)))) :
    backend.Follows server (code backend (.call (.recordAttempt jobId error now)))
      (.flag (queue.jobs.get? jobId).isSome, queue) := by
  unfold Follows code RedisQueueBackend.recordAttempt
  rw [Prog.run_map]
  simp only [Prog.issue_bind, Prog.run_act, RedisServer.exec]
  have dated : backend.SoundBut (Dict.empty.set "updated_at" (backend.codec.isoformat now)) :=
    sound_empty.but.set fun _ => passes_updatedAt reads
  cases stored : queue.jobs.get? jobId with
  | none =>
      simp only [shows.unhashed stored, Option.isSome_none, Bool.false_eq_true, ↓reduceIte]
      exact ⟨rfl, shows⟩
  | some job =>
      obtain ⟨data, present, _⟩ := shows.hash stored
      simp only [present, Option.isSome_some, ↓reduceIte]
      cases error with
      | none =>
          obtain ⟨after, piped, kept⟩ := shows.attempted stored dated ⟨rfl, rfl, rfl, rfl, rfl⟩ rfl
          simp only [Prog.run_act, RedisServer.exec, piped]
          exact ⟨rfl, kept⟩
      | some message =>
          have failed : backend.Passes "last_error"
              (backend.codec.dumps (.dict [("message", .str message)])) :=
            passes_lastError (described message rfl)
          obtain ⟨after, piped, kept⟩ := shows.attempted stored (dated.set fun _ => failed)
            ⟨rfl, rfl, rfl, rfl, rfl⟩ rfl
          simp only [Prog.run_act, RedisServer.exec, piped]
          exact ⟨rfl, kept⟩

end Recording

section Reading

/-- The sorted set is the line. -/
theorem Shows.ranked (shows : backend.Shows server queue) : server.ranked = queue.line := by
  have scored : ∀ jobId, server.queue.get? jobId =
      (queue.jobs.get? jobId).bind fun job => job.place.score? := by
    intro jobId
    cases stored : queue.jobs.get? jobId with
    | none => exact congrArg Cells.score (shows.vacant stored)
    | some job => exact (shows.holds stored).score
  have same : server.queue.entries.Perm (queue.jobs.entries.filterMap fun entry =>
      entry.2.place.score?.map fun score => (entry.1, score)) := by
    rw [List.perm_ext_iff_of_nodup (.of_map _ server.queue.nodup) (.of_map _ queue.nodup_waiting)]
    rintro ⟨jobId, score⟩
    rw [LeaseQueue.mem_waiting, ← scored]
    exact server.queue.mem_entries_iff jobId score
  have sorted := fun entries : List (String × Int) =>
    List.pairwise_insertionSort RedisServer.RankLe entries
  refine congrArg (List.map Prod.fst) (List.Perm.eq_of_pairwise ?_ (sorted _) (sorted _) ?_)
  · exact fun _ _ _ _ before after => before.antisymm after
  · exact (List.perm_insertionSort _ _).trans (same.trans (List.perm_insertionSort _ _).symm)

theorem Shows.indexExact (shows : backend.Shows server queue) : server.IndexExact := by
  intro jobId
  rw [← server.mem_ranked, shows.ranked, shows.status?, LeaseQueue.mem_line]
  cases queue.jobs.get? jobId with
  | none => simp
  | some job =>
      have placed := job.place.score?_eq_none_iff
      rw [← Option.not_isSome_iff_eq_none, ne_eq, not_iff_not] at placed
      simp [placed]

/-- The jobs of the line are there to be read. -/
theorem Shows.jobs (shows : backend.Shows server queue) :
    ∃ jobs, backend.Lists server jobs ∧
      ∀ found ∈ jobs, ∃ job ∈ queue.jobs.get? found.jobId, Agrees found.jobId job found := by
  have each : ∀ jobId ∈ queue.line, ∃ found : Job, found.jobId = jobId ∧
      backend.read server found.jobId = .ok (some found) ∧
      ∃ job ∈ queue.jobs.get? found.jobId, Agrees found.jobId job found := by
    intro jobId member
    obtain ⟨job, stored, scored⟩ := LeaseQueue.mem_line.mp member
    have waiting : job.place.status = JobStatus.queued.value := by
      by_contra other
      rw [(job.place.score?_eq_none_iff).mpr other] at scored
      cases scored
    obtain ⟨found, read, agrees⟩ := shows.read_of_known stored (by
      rw [waiting, JobStatus.ofValue?_value]
      rfl)
    have named := agrees.jobId
    subst named
    exact ⟨found, rfl, read, job, stored, agrees⟩
  choose fetch named stored agrees using each
  refine ⟨queue.line.attach.map fun entry => fetch entry.1 entry.2, ⟨?_, ?_⟩, ?_⟩
  · rw [shows.ranked, List.map_map]
    refine Eq.trans (List.map_congr_left fun entry _ => named entry.1 entry.2) ?_
    exact queue.line.attach_map_subtype_val
  · rintro found member
    obtain ⟨entry, _, rfl⟩ := List.mem_map.mp member
    exact stored entry.1 entry.2
  · rintro found member
    obtain ⟨entry, _, rfl⟩ := List.mem_map.mp member
    exact agrees entry.1 entry.2

/-- A read job passes the filters when the queue admits it. -/
theorem Agrees.matches_eq {found : Job} (agrees : Agrees found.jobId job found)
    (stored : queue.jobs.get? found.jobId = some job) (jobType queueName : Option String) :
    found.matchesFilters jobType queueName = queue.admits jobType queueName found.jobId := by
  unfold LeaseQueue.admits Job.matchesFilters
  rw [stored, agrees.jobType, agrees.queueName]
  rfl

/-- The loop of `dequeue` only reads. -/
theorem run_collect_snd (backend : RedisQueueBackend) (server : RedisServer) (limit : Int)
    (jobType queueName : Option String) (jobIds : List String) (jobs : List Job) :
    ((backend.collect limit jobType queueName jobIds jobs).run RedisServer.exec server).2 =
      server := by
  induction jobIds generalizing jobs with
  | nil => rfl
  | cons jobId rest ih =>
      unfold collect
      split
      · rfl
      · rw [Prog.run_bind, run_get]
        cases backend.read server jobId with
        | error error => rfl
        | ok found =>
            cases found with
            | none => exact ih jobs
            | some found =>
                dsimp only
                split
                · exact ih (jobs ++ [found])
                · exact ih jobs

/-- A limit that is not positive lists nothing. -/
theorem run_collect_of_nonpos (backend : RedisQueueBackend) (server : RedisServer) {limit : Int}
    (none : limit ≤ 0) (jobType queueName : Option String) (jobIds : List String) :
    ((backend.collect limit jobType queueName jobIds []).run RedisServer.exec server).1 =
      .ok [] := by
  cases jobIds with
  | nil => rfl
  | cons jobId rest =>
      have full : limit ≤ (([] : List Job).length : Int) := none
      rw [collect, if_pos full]
      rfl

theorem Shows.listed (shows : backend.Shows server queue) (limit : Int)
    (jobType queueName : Option String) :
    ∃ jobs, (backend.dequeue limit jobType queueName).run RedisServer.exec server =
        (.ok jobs, server) ∧
      jobs.map Job.jobId = queue.dequeue limit jobType queueName := by
  have kept : ((backend.dequeue limit jobType queueName).run RedisServer.exec server).2 =
      server := by
    unfold dequeue
    rw [Prog.issue_bind, Prog.run_act]
    exact backend.run_collect_snd server limit jobType queueName _ []
  rcases le_or_gt limit 0 with nonpos | positive
  · refine ⟨[], Prod.ext ?_ kept, ?_⟩
    · unfold dequeue
      rw [Prog.issue_bind, Prog.run_act]
      exact backend.run_collect_of_nonpos server nonpos jobType queueName _
    · rw [LeaseQueue.dequeue, Int.toNat_of_nonpos nonpos]
      rfl
  · obtain ⟨count, rfl⟩ := Int.eq_ofNat_of_zero_le positive.le
    obtain ⟨jobs, lists, agrees⟩ := shows.jobs
    refine ⟨_, Prod.ext (backend.run_dequeue count jobType queueName shows.indexExact lists) kept,
      ?_⟩
    have matching : (jobs.take (3 * count)).filter (Job.matchesFilters jobType queueName) =
        (jobs.take (3 * count)).filter (queue.admits jobType queueName ∘ Job.jobId) := by
      refine List.filter_congr fun found member => ?_
      obtain ⟨job, stored, agree⟩ := agrees found (List.mem_of_mem_take member)
      exact agree.matches_eq stored jobType queueName
    rw [matching, LeaseQueue.dequeue, List.map_take, ← List.filter_map, List.map_take,
      lists.ranked, shows.ranked]
    rfl

end Reading

end RedisQueueBackend

end CloudDogJobs
