import CloudDogJobs.Backend.Sweep

/-!
# Renewing a lease

`heartbeat` of the Redis backend answers from the status of the job, and its
`EXPIRE` renews the lease key only if there still is one. The status and the key
have lives of their own: the key runs out by itself while the job stays running. A
heartbeat that answers true has renewed the lease exactly when the running job still
had one and the lease time is positive.
-/

namespace CloudDogJobs

open Foundation

namespace RedisServer

variable (server : RedisServer) (jobId nowText : String) (leaseTimeout : Int)

/-- The script answers whether the job is running. -/
theorem heartbeatScript_answer :
    (server.heartbeatScript jobId nowText leaseTimeout).1 = true ↔
      server.status? jobId = some JobStatus.running.value := by
  unfold heartbeatScript
  by_cases running : server.status? jobId = some JobStatus.running.value
  · simp only [running, ne_eq, not_true_eq_false, ↓reduceIte, iff_true]
    split
    · rfl
    · rfl
  · simp only [running, ne_eq, not_false_eq_true, ↓reduceIte, Bool.false_eq_true]

/-- The lease of a running job after the script: its holder stays, its time is set
anew, and a time that is not positive ends it. -/
theorem lease_heartbeatScript (running : server.status? jobId = some JobStatus.running.value) :
    (server.heartbeatScript jobId nowText leaseTimeout).2.leases.get? jobId =
      if leaseTimeout ≤ 0 then none
      else (server.leases.get? jobId).map fun lease => (lease.1, leaseTimeout) := by
  unfold heartbeatScript
  simp only [running, ne_eq, not_true_eq_false, ↓reduceIte]
  by_cases ended : leaseTimeout ≤ 0
  · rw [if_pos ended, if_pos ended]
    exact (Dict.get?_erase ..).trans (if_pos rfl)
  · rw [if_neg ended, if_neg ended]
    exact (Dict.get?_modify ..).trans (if_pos rfl)

end RedisServer

namespace RedisQueueBackend

variable (backend : RedisQueueBackend)

section Sweeping

variable {server : RedisServer} {jobId : String}

/-- What the release of another job leaves of this one. -/
theorem release_leaves {other : String} (different : jobId ≠ other) (now : Int)
    (server : RedisServer) :
    ((backend.release other now).run RedisServer.exec server).2.leases.get? jobId =
        server.leases.get? jobId ∧
      ((backend.release other now).run RedisServer.exec server).2.status? jobId =
        server.status? jobId := by
  rw [run_release]
  cases backend.read server other with
  | error error => exact ⟨rfl, rfl⟩
  | ok found =>
      cases found with
      | none => exact ⟨rfl, rfl⟩
      | some job =>
          refine ⟨(Dict.get?_erase ..).trans (if_neg different), ?_⟩
          simp only [released, RedisServer.status?_deleteLease, RedisServer.status?_zadd]
          rw [RedisServer.status?_hset, if_neg different]

/-- A sweep leaves a job with a lease alone, whatever keys it scans: it keeps its lease
and its status and is not among the jobs released. -/
theorem reap_leaves_leased (leased : (server.leases.get? jobId).isSome) (now : Int)
    (scanned : List String) :
    ((backend.reapExpiredLeases now scanned).run RedisServer.exec server).2.status? jobId =
        server.status? jobId ∧
      ∀ reaped, ((backend.reapExpiredLeases now scanned).run RedisServer.exec server).1 =
        .ok reaped → jobId ∉ reaped := by
  induction scanned generalizing server with
  | nil =>
      refine ⟨rfl, fun reaped same => ?_⟩
      rw [← Except.ok.inj same]
      exact List.not_mem_nil
  | cons key rest ih =>
      rw [run_reapExpiredLeases_cons]
      split
      · next abandoned =>
          -- the job that is released has no lease, so it is another one
          have different : jobId ≠ lastSegment key := by
            intro same
            rw [same, abandoned.2] at leased
            cases leased
          obtain ⟨lease, status⟩ := backend.release_leaves different now server
          rw [← lease] at leased
          obtain ⟨kept, unreported⟩ := ih leased
          rw [status] at kept
          dsimp only
          split
          · exact ⟨status, fun reaped same => by cases same⟩
          · next flag answered =>
              refine ⟨kept, fun reaped same => ?_⟩
              obtain ⟨list, swept, rfl⟩ := reapedWith_eq_ok same
              have absent := unreported list swept
              cases flag with
              | true => exact List.not_mem_cons_of_ne_of_not_mem different absent
              | false => exact absent
      · exact ih leased

end Sweeping

/-- The job has a lease with the full time to live, and a sweep that comes next, over
whatever keys and at whatever time, leaves it running. -/
structure Renewed (server : RedisServer) (jobId : String) : Prop where
  lease : ∃ holder, server.leases.get? jobId = some (holder, backend.leaseTimeout)
  running : ∀ scanned later,
    ((backend.reapExpiredLeases later scanned).run RedisServer.exec server).2.status? jobId =
      some JobStatus.running.value
  unreported : ∀ scanned later reaped,
    ((backend.reapExpiredLeases later scanned).run RedisServer.exec server).1 = .ok reaped →
      jobId ∉ reaped

/-- A heartbeat that answers true has renewed the lease. -/
def Renews (server : RedisServer) (jobId : String) (now : Int) : Prop :=
  ((backend.heartbeat jobId now).run RedisServer.exec server).1 = .ok true →
    backend.Renewed ((backend.heartbeat jobId now).run RedisServer.exec server).2 jobId

/-- A running job has a lease that a heartbeat can renew. -/
def Renewable (server : RedisServer) (jobId : String) : Prop :=
  server.status? jobId = some JobStatus.running.value →
    (server.leases.get? jobId).isSome ∧ 0 < backend.leaseTimeout

theorem run_heartbeat (server : RedisServer) (jobId : String) (now : Int) :
    (backend.heartbeat jobId now).run RedisServer.exec server =
      (.ok (server.heartbeatScript jobId (backend.codec.isoformat now) backend.leaseTimeout).1,
        (server.heartbeatScript jobId (backend.codec.isoformat now) backend.leaseTimeout).2) :=
  rfl

theorem renews_iff_renewable (server : RedisServer) (jobId : String) (now : Int) :
    backend.Renews server jobId now ↔ backend.Renewable server jobId := by
  unfold Renews
  rw [run_heartbeat]
  simp only [Except.ok.injEq, RedisServer.heartbeatScript_answer]
  refine forall_congr' fun running => ?_
  have lease := server.lease_heartbeatScript jobId (backend.codec.isoformat now)
    backend.leaseTimeout running
  constructor
  · rintro ⟨⟨holder, renewed⟩, _, _⟩
    rw [lease] at renewed
    split at renewed
    · cases renewed
    · next positive =>
        obtain ⟨old, held, _⟩ := Option.map_eq_some_iff.mp renewed
        exact ⟨Option.isSome_of_eq_some held, Int.not_le.mp positive⟩
  · rintro ⟨held, positive⟩
    obtain ⟨old, held⟩ := Option.isSome_iff_exists.mp held
    rw [if_neg (Int.not_le.mpr positive), held] at lease
    have status := (server.status?_heartbeatScript jobId jobId (backend.codec.isoformat now)
      backend.leaseTimeout).trans running
    have leaves := backend.reap_leaves_leased (Option.isSome_of_eq_some lease)
    exact ⟨⟨old.1, lease⟩, fun scanned later => (leaves later scanned).1.trans status,
      fun scanned later => (leaves later scanned).2⟩

/-- **A heartbeat renews the lease of a job that has one.** In every state that clients of
one server reach, their commands interleaved and leases running out at any time, a
heartbeat that answers true has renewed the lease of the job exactly when the job, if
running, still has its lease and the lease time is positive. -/
theorem heartbeat_renews_iff {ι : Type} [DecidableEq ι] (schedule : List (Action ι Op))
    (jobId : String) (now : Int) :
    backend.Renews ((machine ι backend).runFrom (.initial .empty) schedule).shared jobId now ↔
      backend.Renewable ((machine ι backend).runFrom (.initial .empty) schedule).shared jobId :=
  backend.renews_iff_renewable _ jobId now

/-- The claimed job's lease has run out: its heartbeat answers true and renews nothing. -/
theorem lapsed_lease_is_not_renewed :
    ¬ ∀ (backend : RedisQueueBackend) (schedule : List (Action Party Op)) (jobId : String)
      (now : Int), 0 < backend.leaseTimeout →
        backend.Renews ((machine Party backend).runFrom (.initial .empty) schedule).shared jobId
          now := by
  intro renews
  have renewed : plainBackend.Renews lapsedConfig.shared "job" 0 :=
    renews plainBackend (claimedRun ++ lapseRun) "job" 0 (by decide)
  have found := abandoned_lapsedConfig
  have held := (plainBackend.renews_iff_renewable lapsedConfig.shared "job" 0).mp renewed found.1
  have absent : (lapsedConfig.shared.leases.get? "job").isSome = false := by
    rw [found.2]
    rfl
  exact Bool.false_ne_true (absent.symm.trans held.1)

end RedisQueueBackend

end CloudDogJobs
