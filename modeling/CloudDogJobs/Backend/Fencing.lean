import CloudDogJobs.Backend.DispatchIndex
import CloudDogJobs.Backend.Sweep

/-!
# Leases without fencing

A lease names its claimant, and so does the hash of a claimed job, but `heartbeat` and
`update_status` name the job only: what a worker may still call after its claim has been
superseded acts on the job as the holder's own call would. What these calls can change
of the job is bounded all the same, and none of them takes the lease from its holder:
along every run, the lease of a job is that of the latest granted claim.
-/

namespace CloudDogJobs

open Foundation

/-- Claims are made with the backend's lease time. -/
def RedisCall.Timed (leaseTimeout : Int) : RedisCall → Prop
  | .claimScript _ _ _ _ timeout => timeout = leaseTimeout
  | _ => True

theorem RedisCall.Timed.of_unindexed {call : RedisCall} (unindexed : call.Unindexed)
    (leaseTimeout : Int) : RedisCall.Timed leaseTimeout call := by
  cases call with
  | claimScript jobId claimedBy metaText nowText timeout => cases unindexed
  | _ => trivial

namespace RedisServer

variable (server : RedisServer) (jobId other name : String)

/-- A field after an `HSET`. -/
theorem field_hset (mapping : Dict String String) :
    (server.hset jobId mapping).field other name =
      if other = jobId then (mapping.get? name).or (server.field jobId name)
      else server.field other name := by
  simp only [field, hset]
  rw [Dict.getD_set]
  by_cases same : other = jobId
  · rw [if_pos same, if_pos same, Dict.get?_update]
  · rw [if_neg same, if_neg same]

/-- A heartbeat keeps who holds the lease. -/
theorem holder_heartbeatScript (nowText : String) {leaseTimeout : Int}
    (lasting : 0 < leaseTimeout) :
    ((server.heartbeatScript jobId nowText leaseTimeout).2.leases.get? other).map Prod.fst =
      (server.leases.get? other).map Prod.fst := by
  unfold heartbeatScript
  split
  · rfl
  · simp only [show ¬ leaseTimeout ≤ 0 by omega, ↓reduceIte, hset, Dict.get?_modify]
    split
    · next same =>
        rw [same, Option.map_map]
        rfl
    · rfl

/-- A heartbeat on a job that is not running does nothing. -/
theorem heartbeatScript_of_not_running (nowText : String) (leaseTimeout : Int)
    (resting : server.status? jobId ≠ some JobStatus.running.value) :
    (server.heartbeatScript jobId nowText leaseTimeout).2 = server := by
  unfold heartbeatScript
  rw [if_pos resting]

end RedisServer

namespace RedisQueueBackend

section Footprints

variable (backend : RedisQueueBackend)

/-- The commands of the calls that a worker makes after its claim. -/
def Within : Op → RedisCall → Prop
  | .call (.heartbeat jobId now), call =>
      call = .heartbeatScript jobId (backend.codec.isoformat now) backend.leaseTimeout
  | .call (.updateStatus jobId status now), call =>
      call = .existsJob jobId ∨ call = .hset jobId (backend.statusMapping status now) ∨
        call = .zrem jobId ∨ (status ∈ terminal ∧ call = .deleteLease jobId)
  | .call (.enqueue job now), call =>
      call = .hset job.jobId (backend.jobToHash job) ∨
        call = .zadd job.jobId (score job.priority now)
  | _, _ => True

theorem only_true {α : Type} (program : RedisProg α) : program.Only fun _ => True := by
  induction program with
  | ret value => trivial
  | act call resume ih => exact ⟨trivial, ih⟩

theorem only_within (op : Op) : (backend.code op).Only (backend.Within op) := by
  cases op with
  | reap scanned now => exact only_true _
  | lapse jobId => exact only_true _
  | call op =>
      cases op with
      | heartbeat jobId now => exact ⟨rfl, fun _ => trivial⟩
      | enqueue job now => exact ⟨.inl rfl, fun _ => ⟨.inr rfl, fun _ => trivial⟩⟩
      | updateStatus jobId status now =>
          apply Prog.Only.map
          refine ⟨.inl rfl, fun found => ?_⟩
          cases found with
          | false => trivial
          | true =>
              refine ⟨.inr (.inl rfl), fun _ => ?_⟩
              by_cases queued : status = JobStatus.queued.value
              · have lasting : JobStatus.queued.value ∉ terminal := by decide
                subst queued
                simp only [ne_eq, not_true_eq_false, ↓reduceIte, lasting]
                trivial
              · simp only [queued, ne_eq, not_false_eq_true, ↓reduceIte]
                refine ⟨.inr (.inr (.inl rfl)), fun _ => ?_⟩
                by_cases ends : status ∈ terminal
                · simp only [ends, ↓reduceIte]
                  exact ⟨.inr (.inr (.inr ⟨ends, rfl⟩)), fun _ => trivial⟩
                · simp only [ends, ↓reduceIte]
                  trivial
      | _ => exact only_true _

theorem timed_release (jobId : String) (now leaseTimeout : Int) :
    (backend.release jobId now).Only (RedisCall.Timed leaseTimeout) := by
  unfold release
  refine ((backend.only_get jobId).mono fun _ free => .of_unindexed free _).bind fun found => ?_
  cases found with
  | error error => trivial
  | ok found =>
      cases found with
      | none => trivial
      | some job => exact ⟨trivial, fun _ => ⟨trivial, fun _ => ⟨trivial, fun _ => trivial⟩⟩⟩

theorem timed_reap (now leaseTimeout : Int) (scanned : List String) :
    (backend.reapExpiredLeases now scanned).Only (RedisCall.Timed leaseTimeout) := by
  induction scanned with
  | nil => trivial
  | cons key rest ih =>
      unfold reapExpiredLeases
      simp only [Prog.issue_bind]
      refine ⟨trivial, fun status => ?_⟩
      dsimp only
      split
      · exact ih
      · refine ⟨trivial, fun leased => ?_⟩
        cases leased with
        | true => exact ih
        | false =>
            refine (backend.timed_release _ now leaseTimeout).bind fun released => ?_
            cases released with
            | error error => trivial
            | ok released =>
                refine ih.bind fun reaped => ?_
                cases reaped with
                | error error => trivial
                | ok reaped => trivial

theorem only_timed (op : Op) :
    (backend.code op).Only (RedisCall.Timed backend.leaseTimeout) := by
  have unindexed : ∀ {α : Type} {program : RedisProg α}, program.Only RedisCall.Unindexed →
      program.Only (RedisCall.Timed backend.leaseTimeout) :=
    fun only => only.mono fun _ free => .of_unindexed free _
  cases op with
  | reap scanned now => exact (backend.timed_reap now _ scanned).map _
  | lapse jobId => exact ⟨trivial, fun _ => trivial⟩
  | call op =>
      cases op with
      | heartbeat jobId now => exact ⟨trivial, fun _ => trivial⟩
      | enqueue job now => exact ⟨trivial, fun _ => ⟨trivial, fun _ => trivial⟩⟩
      | dequeue limit jobType queueName =>
          apply Prog.Only.map
          exact ⟨trivial, fun jobIds =>
            unindexed (backend.only_collect limit jobType queueName jobIds [])⟩
      | claim jobId hostId workerId now =>
          apply Prog.Only.map
          unfold claim
          simp only [Prog.issue_bind]
          refine ⟨trivial, fun raw => ?_⟩
          dsimp only
          split
          · trivial
          · refine ⟨rfl, fun reply => ?_⟩
            cases reply with
            | error error => trivial
            | ok granted => trivial
      | release jobId now => exact (backend.timed_release jobId now _).map _
      | updateStatus jobId status now =>
          refine (backend.only_within (.call (.updateStatus jobId status now))).mono ?_
          intro call within
          rcases within with rfl | rfl | rfl | ⟨_, rfl⟩ <;> trivial
      | recordAttempt jobId error now =>
          exact (unindexed (backend.only_recordAttempt jobId error now)).map _

end Footprints

section Claimants

/-- Whom a command with this reply has granted the job, by the text of its claim. -/
def grantedTo (jobId : String) : (call : RedisCall) → call.Reply → Option String
  | .claimScript claimed claimedBy _ _ _, .ok true =>
      if claimed = jobId then some claimedBy else none
  | _, _ => none

/-- The claim of the job that an event records. -/
def claimIn {ι : Type} (jobId : String) :
    Event ι Op RedisCall RedisCall.Reply (Except PyError BackendResult) → Option (ι × String)
  | .acted client call reply =>
      (grantedTo jobId call reply).map fun claimedBy => (client, claimedBy)
  | _ => none

/-- The granted claims of a job, in their order. -/
def claimants {ι : Type} (jobId : String)
    (history : List (Event ι Op RedisCall RedisCall.Reply (Except PyError BackendResult))) :
    List (ι × String) :=
  history.filterMap (claimIn jobId)

/-- The worker's claim of the job has been granted, and the latest claim that was is
another worker's. -/
structure Superseded {ι : Type} (jobId : String)
    (history : List (Event ι Op RedisCall RedisCall.Reply (Except PyError BackendResult)))
    (stale holder : ι) (claimedBy : String) : Prop where
  earlier : stale ∈ (claimants jobId history).map Prod.fst
  latest : (claimants jobId history).getLast? = some (holder, claimedBy)
  other : stale ≠ holder

/-- A granted claim has set the lease of the job to its claimant. -/
theorem lease_of_grantedTo {jobId claimedBy : String} {call : RedisCall} {server : RedisServer}
    (granted : grantedTo jobId call (RedisServer.exec call server).1 = some claimedBy) :
    (∃ timeout, (RedisServer.exec call server).2.leases.get? jobId = some (claimedBy, timeout)) ∧
      ∀ leaseTimeout, call.Timed leaseTimeout → 0 < leaseTimeout := by
  cases call with
  | claimScript claimed claimant metaText nowText timeout =>
      simp only [RedisServer.exec, RedisServer.claimScript] at granted ⊢
      split at granted
      · cases granted
      · split at granted
        · cases granted
        · next waiting expiring =>
            simp only [grantedTo] at granted
            split at granted
            · next same =>
                obtain rfl := same
                obtain rfl := Option.some.inj granted
                rw [if_neg waiting, if_neg expiring]
                refine ⟨⟨timeout, Dict.get?_set_self ..⟩, ?_⟩
                intro leaseTimeout timed
                have same : timeout = leaseTimeout := timed
                omega
            · cases granted
  | _ => cases granted

/-- A lease is that of the claim just granted, or was there before. -/
theorem lease_exec {jobId : String} {call : RedisCall} {server : RedisServer}
    {lease : String × Int}
    (found : (RedisServer.exec call server).2.leases.get? jobId = some lease) :
    grantedTo jobId call (RedisServer.exec call server).1 = some lease.1 ∨
      (grantedTo jobId call (RedisServer.exec call server).1 = none ∧
        ∃ timeout, server.leases.get? jobId = some (lease.1, timeout)) := by
  have erased : ∀ key, (server.leases.erase key).get? jobId = some lease →
      ∃ timeout, server.leases.get? jobId = some (lease.1, timeout) := by
    intro key left
    rw [Dict.get?_erase] at left
    split at left
    · cases left
    · exact ⟨lease.2, left⟩
  cases granted : grantedTo jobId call (RedisServer.exec call server).1 with
  | some claimedBy =>
      obtain ⟨timeout, set⟩ := (lease_of_grantedTo granted).1
      rw [set] at found
      exact .inl (congrArg some (congrArg Prod.fst (Option.some.inj found)))
  | none =>
      refine .inr ⟨rfl, ?_⟩
      cases call with
      | deleteLease key => exact erased key found
      | lapse key => exact erased key found
      | attemptPipeline key updates =>
          simp only [RedisServer.exec, RedisServer.attemptPipeline] at found
          split at found
          · exact ⟨lease.2, found⟩
          · exact ⟨lease.2, found⟩
      | heartbeatScript key nowText leaseTimeout =>
          simp only [RedisServer.exec, RedisServer.heartbeatScript] at found
          split at found
          · exact ⟨lease.2, found⟩
          · split at found
            · exact erased key found
            · simp only [RedisServer.hset, Dict.get?_modify] at found
              split at found
              · next same =>
                  subst same
                  obtain ⟨before, stored, rfl⟩ := Option.map_eq_some_iff.mp found
                  exact ⟨before.2, stored⟩
              · exact ⟨lease.2, found⟩
      | claimScript claimed claimant metaText nowText timeout =>
          simp only [RedisServer.exec, RedisServer.claimScript] at found granted
          split at found
          · exact ⟨lease.2, found⟩
          · next waiting =>
              split at found
              · exact ⟨lease.2, found⟩
              · next expiring =>
                  rw [if_neg waiting, if_neg expiring] at granted
                  have different : jobId ≠ claimed := by
                    intro same
                    rw [grantedTo, if_pos same.symm] at granted
                    cases granted
                  rw [Dict.get?_set_of_ne _ _ different] at found
                  exact ⟨lease.2, found⟩
      | _ => exact ⟨lease.2, found⟩

/-- Along a run: the lease of a job is that of the latest granted claim, and claims are
granted for a positive time only. -/
structure Held {ι : Type} (backend : RedisQueueBackend) (server : RedisServer)
    (history : List (Event ι Op RedisCall RedisCall.Reply (Except PyError BackendResult))) :
    Prop where
  holder : ∀ jobId lease, server.leases.get? jobId = some lease →
    (claimants jobId history).getLast?.map Prod.snd = some lease.1
  lasting : ∀ jobId, claimants jobId history ≠ [] → 0 < backend.leaseTimeout

variable {ι : Type} {backend : RedisQueueBackend} {server : RedisServer}
  {history : List (Event ι Op RedisCall RedisCall.Reply (Except PyError BackendResult))}

theorem claimants_snoc (jobId : String)
    (event : Event ι Op RedisCall RedisCall.Reply (Except PyError BackendResult)) :
    claimants jobId (history ++ [event]) =
      claimants jobId history ++ (claimIn jobId event).toList := by
  unfold claimants
  rw [List.filterMap_append, List.filterMap_cons, List.filterMap_nil]
  cases claimIn jobId event with
  | none => rfl
  | some claim => rfl

/-- An event that is no claim. -/
theorem Held.snoc (held : backend.Held server history)
    {event : Event ι Op RedisCall RedisCall.Reply (Except PyError BackendResult)}
    (unclaimed : ∀ jobId, claimIn jobId event = none) :
    backend.Held server (history ++ [event]) := by
  have same : ∀ jobId, claimants jobId (history ++ [event]) = claimants jobId history := by
    intro jobId
    rw [claimants_snoc, unclaimed, Option.toList_none, List.append_nil]
  refine ⟨fun jobId lease found => ?_, fun jobId claimed => ?_⟩
  · rw [same]
    exact held.holder jobId lease found
  · rw [same] at claimed
    exact held.lasting jobId claimed

/-- One command. -/
theorem Held.act (held : backend.Held server history) (client : ι) {call : RedisCall}
    (timed : call.Timed backend.leaseTimeout) :
    backend.Held (RedisServer.exec call server).2
      (history ++ [Event.acted client call (RedisServer.exec call server).1]) := by
  refine ⟨fun jobId lease found => ?_, fun jobId claimed => ?_⟩
  · rw [claimants_snoc, claimIn]
    rcases lease_exec found with granted | ⟨ungranted, timeout, before⟩
    · rw [granted, Option.map_some, Option.toList_some, List.getLast?_concat]
      rfl
    · rw [ungranted, Option.map_none, Option.toList_none, List.append_nil]
      exact held.holder jobId (lease.1, timeout) before
  · rw [claimants_snoc, claimIn] at claimed
    cases granted : grantedTo jobId call (RedisServer.exec call server).1 with
    | some claimedBy => exact (lease_of_grantedTo granted).2 backend.leaseTimeout timed
    | none =>
        rw [granted, Option.map_none, Option.toList_none, List.append_nil] at claimed
        exact held.lasting jobId claimed

/-- In every state of a run, the lease of a job is that of the latest granted claim. -/
theorem held_run [DecidableEq ι] (backend : RedisQueueBackend) (schedule : List (Action ι Op)) :
    backend.Held ((machine ι backend).runFrom (.initial .empty) schedule).shared
      ((machine ι backend).runFrom (.initial .empty) schedule).history := by
  have invariant : (machine ι backend).Invariant
      (.footprint fun _ => RedisCall.Timed backend.leaseTimeout) (fun _ op => op)
      (fun _ _ _ _ => True) (fun _ _ => True)
      (fun server _ history => backend.Held server history) := by
    apply Machine.invariant_of_footprint
    · exact fun _ op => backend.only_timed op
    · exact fun server history client op held => held.snoc fun _ => rfl
    · exact fun server history client op value held => held.snoc fun _ => rfl
    · exact fun server history client op call timed held => held.act client timed
  refine invariant.run .empty ?_ schedule ((machine ι backend).permits_true _ schedule)
  refine ⟨fun _ _ found => ?_, fun _ claimed => absurd rfl claimed⟩
  cases found

end Claimants

section Supersession

/-- The calls that `run_once` makes after its claim of the job: the heartbeat, an
`update_status`, and the `enqueue` of a dead letter under an identifier of its own. -/
def LaterCall (jobId : String) : BackendOp → Prop
  | .heartbeat named _ => named = jobId
  | .updateStatus named _ _ => named = jobId
  | .enqueue job _ => job.jobId ≠ jobId
  | _ => False

/-- Status, heartbeat time and lease of the job are as they were. -/
structure Untouched (jobId : String) (before after : RedisServer) : Prop where
  status : after.status? jobId = before.status? jobId
  beaten : after.field jobId "last_heartbeat_at" = before.field jobId "last_heartbeat_at"
  lease : after.leases.get? jobId = before.leases.get? jobId

/-- What a later call can change of the job by its next command. A heartbeat changes
nothing of a job that is not running; of a running one it renews the heartbeat time and
the time of the lease. An `update_status` writes its own status, and drops the lease
where that status ends the job. -/
def Bounded (jobId : String) (before after : RedisServer) : BackendOp → Prop
  | .heartbeat _ _ =>
      after.status? jobId = before.status? jobId ∧
        (after.leases.get? jobId).map Prod.fst = (before.leases.get? jobId).map Prod.fst ∧
        (before.status? jobId ≠ some JobStatus.running.value → Untouched jobId before after)
  | .updateStatus _ status _ =>
      (after.status? jobId = before.status? jobId ∨ after.status? jobId = some status) ∧
        after.field jobId "last_heartbeat_at" = before.field jobId "last_heartbeat_at" ∧
        (after.leases.get? jobId = before.leases.get? jobId ∨
          (status ∈ terminal ∧ after.leases.get? jobId = none))
  | _ => Untouched jobId before after

variable {jobId : String} {op : BackendOp}

theorem Bounded.refl (later : LaterCall jobId op) (server : RedisServer) :
    Bounded jobId server server op := by
  cases op with
  | heartbeat named now => exact ⟨rfl, rfl, fun _ => ⟨rfl, rfl, rfl⟩⟩
  | updateStatus named status now => exact ⟨.inl rfl, rfl, .inl rfl⟩
  | enqueue job now => exact ⟨rfl, rfl, rfl⟩
  | _ => cases later

/-- One command of a later call. -/
theorem bounded_exec (backend : RedisQueueBackend) (lasting : 0 < backend.leaseTimeout)
    (later : LaterCall jobId op) {call : RedisCall} (within : backend.Within (.call op) call)
    (server : RedisServer) :
    Bounded jobId server (RedisServer.exec call server).2 op := by
  cases op with
  | heartbeat named now =>
      obtain rfl : named = jobId := later
      obtain rfl : call = _ := within
      refine ⟨server.status?_heartbeatScript .., server.holder_heartbeatScript _ _ _ lasting, ?_⟩
      intro resting
      have same := server.heartbeatScript_of_not_running named (backend.codec.isoformat now)
        backend.leaseTimeout resting
      simp only [RedisServer.exec, same]
      exact ⟨rfl, rfl, rfl⟩
  | updateStatus named status now =>
      obtain rfl : named = jobId := later
      rcases within with rfl | rfl | rfl | ⟨ends, rfl⟩
      · exact ⟨.inl rfl, rfl, .inl rfl⟩
      · refine ⟨.inr ?_, ?_, .inl rfl⟩
        · simp only [RedisServer.exec]
          rw [RedisServer.status?_hset, if_pos rfl, statusMapping_status, Option.some_or]
        · have unnamed : (backend.statusMapping status now).get? "last_heartbeat_at" = none := by
            unfold statusMapping
            simp only []
            split
            · rfl
            · rfl
          simp only [RedisServer.exec]
          rw [RedisServer.field_hset, if_pos rfl, unnamed, Option.none_or]
      · exact ⟨.inl rfl, rfl, .inl rfl⟩
      · refine ⟨.inl rfl, rfl, .inr ⟨ends, ?_⟩⟩
        simp only [RedisServer.exec, RedisServer.deleteLease]
        rw [Dict.get?_erase, if_pos rfl]
  | enqueue job now =>
      have different : jobId ≠ job.jobId := fun same => later same.symm
      rcases within with rfl | rfl
      · refine ⟨?_, ?_, rfl⟩
        · simp only [RedisServer.exec]
          rw [RedisServer.status?_hset, if_neg different]
        · simp only [RedisServer.exec]
          rw [RedisServer.field_hset, if_neg different]
      · exact ⟨rfl, rfl, rfl⟩
  | _ => cases later

/-- A lease that a later call leaves has the holder that it had. -/
theorem Bounded.holder {before after : RedisServer} (bounded : Bounded jobId before after op)
    {lease : String × Int} (left : after.leases.get? jobId = some lease) :
    ∃ timeout, before.leases.get? jobId = some (lease.1, timeout) := by
  have kept : after.leases.get? jobId = before.leases.get? jobId →
      ∃ timeout, before.leases.get? jobId = some (lease.1, timeout) := by
    intro same
    rw [left] at same
    exact ⟨lease.2, same.symm⟩
  cases op with
  | heartbeat named now =>
      have same := bounded.2.1
      rw [left, Option.map_some] at same
      obtain ⟨found, stored, holder⟩ := Option.map_eq_some_iff.mp same.symm
      refine ⟨found.2, ?_⟩
      rw [stored, ← holder]
  | updateStatus named status now =>
      rcases bounded.2.2 with same | ⟨_, dropped⟩
      · exact kept same
      · rw [left] at dropped
        cases dropped
  | _ => exact kept bounded.lease

variable {ι : Type} [DecidableEq ι]

/-- **Superseded workers.** In every run from an empty server: once another worker's claim
of the job has superseded a worker's own, the next command of a later call that the
worker still makes changes of the job only what `Bounded` says, and a lease that is
there after it is that of the latest claim. -/
theorem superseded_calls_bounded (backend : RedisQueueBackend) (schedule : List (Action ι Op))
    {stale holder : ι} {claimedBy : String} {rest : RedisProg (Except PyError BackendResult)}
    {log : List (Sigma RedisCall.Reply)}
    (superseded : Superseded jobId
      ((machine ι backend).runFrom (.initial .empty) schedule).history stale holder claimedBy)
    (busy : ((machine ι backend).runFrom (.initial .empty) schedule).client stale =
      .busy (.call op) rest log)
    (later : LaterCall jobId op) :
    Bounded jobId ((machine ι backend).runFrom (.initial .empty) schedule).shared
        ((machine ι backend).step ((machine ι backend).runFrom (.initial .empty) schedule)
          (.act stale)).shared op ∧
      ∀ lease, ((machine ι backend).step ((machine ι backend).runFrom (.initial .empty) schedule)
          (.act stale)).shared.leases.get? jobId = some lease → lease.1 = claimedBy := by
  have held := held_run backend schedule
  have bounded : Bounded jobId ((machine ι backend).runFrom (.initial .empty) schedule).shared
      ((machine ι backend).step ((machine ι backend).runFrom (.initial .empty) schedule)
        (.act stale)).shared op := by
    cases rest with
    | ret value =>
        simp only [Machine.step, busy]
        exact Bounded.refl later _
    | act call resume =>
        have within := (machine ι backend).permitted_of_busy schedule
          (fun _ op => backend.only_within op) busy
        have claimed : claimants jobId
            ((machine ι backend).runFrom (.initial .empty) schedule).history ≠ [] := by
          intro unclaimed
          have latest := superseded.latest
          rw [unclaimed] at latest
          cases latest
        simp only [Machine.step, busy]
        exact bounded_exec backend (held.lasting jobId claimed) later within _
  refine ⟨bounded, fun lease left => ?_⟩
  obtain ⟨timeout, before⟩ := bounded.holder left
  have named := held.holder jobId _ before
  rw [superseded.latest, Option.map_some] at named
  exact (Option.some.inj named).symm

/-- No later call of a superseded worker changes the status, the heartbeat time or the
lease of the job by its next command. -/
def Fenced (backend : RedisQueueBackend) (config : RedisConfig ι) : Prop :=
  ∀ jobId stale holder claimedBy op rest log,
    Superseded jobId config.history stale holder claimedBy →
      config.client stale = .busy (.call op) rest log → LaterCall jobId op →
        Untouched jobId config.shared ((machine ι backend).step config (.act stale)).shared

/-- A superseded worker that calls `update_status` on the stored job gets to its write. -/
theorem update_under_way (backend : RedisQueueBackend) (config : RedisConfig ι)
    {stale holder : ι} {claimedBy : String}
    (superseded : Superseded jobId config.history stale holder claimedBy)
    (idle : config.client stale = .idle) (stored : (config.shared.hashes.get? jobId).isSome)
    (status : String) (now : Int) :
    ∃ resume log history, (machine ι backend).runFrom config
        [.call stale (.call (.updateStatus jobId status now)), .act stale] =
      { shared := config.shared
        client := Function.update config.client stale
          (.busy (.call (.updateStatus jobId status now))
            (.act (.hset jobId (backend.statusMapping status now)) resume) log)
        history := history } ∧ Superseded jobId history stale holder claimedBy := by
  simp only [Machine.runFrom_cons, Machine.runFrom_nil, Machine.step, idle, machine, code,
    updateStatus, Prog.map_eq_bind, Prog.issue_bind, Prog.act_bind, Function.update_self,
    RedisServer.exec, stored, Function.update_idem, ↓reduceIte]
  refine ⟨_, _, _, rfl, ?_⟩
  have same : claimants jobId (config.history ++
      [(.called stale (.call (.updateStatus jobId status now)) : RedisEvent ι)] ++
        [(.acted stale (.existsJob jobId) true : RedisEvent ι)]) =
      claimants jobId config.history := by
    simp only [claimants_snoc, claimIn, grantedTo, Option.map_none, Option.toList_none,
      List.append_nil]
  exact ⟨same ▸ superseded.earlier, same ▸ superseded.latest, superseded.other⟩

/-- It writes its status. -/
theorem stale_status_written (backend : RedisQueueBackend) (config : RedisConfig ι)
    {stale holder : ι} {claimedBy status : String}
    (superseded : Superseded jobId config.history stale holder claimedBy)
    (idle : config.client stale = .idle) (stored : (config.shared.hashes.get? jobId).isSome)
    (different : config.shared.status? jobId ≠ some status) (now : Int) :
    ¬ Fenced backend ((machine ι backend).runFrom config
      [.call stale (.call (.updateStatus jobId status now)), .act stale]) := by
  intro fenced
  obtain ⟨resume, log, history, reached, still⟩ :=
    backend.update_under_way config superseded idle stored status now
  rw [reached] at fenced
  have untouched := fenced jobId stale holder claimedBy _ _ _ still (Function.update_self ..) rfl
  have written := untouched.status
  simp only [Machine.step, Function.update_self, machine, RedisServer.exec] at written
  rw [RedisServer.status?_hset, if_pos rfl, statusMapping_status, Option.some_or] at written
  exact different written.symm

/-- A claim of a queued job is granted and recorded. -/
theorem claim_recorded (backend : RedisQueueBackend) (config : RedisConfig ι) {client : ι}
    (idle : config.client client = .idle)
    (waiting : config.shared.status? jobId = some JobStatus.queued.value)
    {metadata : Dict String Value}
    (decoded : backend.loadsDict (claimText config.shared jobId) = .ok metadata)
    (lasting : 0 < backend.leaseTimeout) (hostId workerId : String) (now : Int) :
    ∃ raw value, (machine ι backend).runFrom config
        [.call client (.call (.claim jobId hostId workerId now)), .act client, .act client,
          .ret client] =
      { shared := (config.shared.claimScript jobId (hostId ++ ":" ++ workerId)
          (backend.claimedMeta hostId workerId metadata) (backend.codec.isoformat now)
          backend.leaseTimeout).2
        client := config.client
        history := config.history ++
          [(.called client (.call (.claim jobId hostId workerId now)) : RedisEvent ι)] ++
          [(.acted client (.hget jobId "meta") raw : RedisEvent ι)] ++
          [(.acted client (.claimScript jobId (hostId ++ ":" ++ workerId)
            (backend.claimedMeta hostId workerId metadata) (backend.codec.isoformat now)
            backend.leaseTimeout) (.ok true) : RedisEvent ι)] ++
          [(.returned client (.call (.claim jobId hostId workerId now)) value :
            RedisEvent ι)] } := by
  have granted : (config.shared.claimScript jobId (hostId ++ ":" ++ workerId)
      (backend.claimedMeta hostId workerId metadata) (backend.codec.isoformat now)
      backend.leaseTimeout).1 = .ok true := by
    simp only [RedisServer.claimScript, waiting, ne_eq, not_true_eq_false, ↓reduceIte,
      show ¬ backend.leaseTimeout ≤ 0 by omega]
  unfold claimText at decoded
  unfold claimedMeta at granted ⊢
  simp only [Machine.runFrom_cons, Machine.runFrom_nil, Machine.step, idle, machine, code, claim,
    Prog.map_eq_bind, Prog.issue_bind, Prog.act_bind, Function.update_self, RedisServer.exec,
    Function.update_idem]
  rcases raw : config.shared.field jobId "meta" with _ | text
  all_goals
    rw [raw] at decoded
    simp only [] at decoded ⊢
    simp only [decoded, Prog.act_bind, Function.update_self, granted, Prog.pure_eq_ret,
      Prog.ret_bind, Function.update_idem]
    rw [← idle, Function.update_eq_self]
    exact ⟨_, _, rfl⟩

omit [DecidableEq ι] in
/-- A granted claim supersedes the earlier ones of other clients. -/
theorem superseded_by_claim {history : List (RedisEvent ι)}
    {stale client : ι} (earlier : stale ∈ (claimants jobId history).map Prod.fst)
    (different : stale ≠ client) (op : Op) (raw : Option String)
    (claimedBy metaText nowText : String) (leaseTimeout : Int)
    (value : Except PyError BackendResult) :
    Superseded jobId (history ++ [(.called client op : RedisEvent ι)] ++
      [(.acted client (.hget jobId "meta") raw : RedisEvent ι)] ++
      [(.acted client (.claimScript jobId claimedBy metaText nowText leaseTimeout) (.ok true) :
        RedisEvent ι)] ++
      [(.returned client op value : RedisEvent ι)]) stale client claimedBy := by
  have claims : claimants jobId (history ++ [(.called client op : RedisEvent ι)] ++
      [(.acted client (.hget jobId "meta") raw : RedisEvent ι)] ++
      [(.acted client (.claimScript jobId claimedBy metaText nowText leaseTimeout) (.ok true) :
        RedisEvent ι)] ++
      [(.returned client op value : RedisEvent ι)]) =
      claimants jobId history ++ [(client, claimedBy)] := by
    simp only [claimants_snoc, claimIn, grantedTo, ↓reduceIte, Option.map_none, Option.map_some,
      Option.toList_none, Option.toList_some, List.append_nil]
  refine ⟨?_, ?_, different⟩
  · rw [claims, List.map_append, List.mem_append]
    exact .inl earlier
  · rw [claims, List.getLast?_concat]

/-- A sweep that nobody disturbs releases an abandoned job. -/
theorem sweep_releases (backend : RedisQueueBackend) (config : RedisConfig ι) {key : String}
    (plain : ':' ∉ key.toList) (abandoned : Abandoned config.shared key) {job : Job}
    (read : backend.read config.shared key = .ok (some job)) (now : Int) {client : ι}
    (idle : config.client client = .idle) :
    ∃ events, (machine ι backend).runFrom config
        [.call client (.reap [key] now), .act client, .act client, .act client, .act client,
          .act client, .act client, .ret client] =
      { shared := backend.released config.shared (lastSegment key) now job
        client := config.client
        history := config.history ++ events } := by
  have status : config.shared.field key "status" = some JobStatus.running.value := abandoned.1
  obtain ⟨filled, decoded⟩ := decoded_of_read read
  simp only [Machine.runFrom_cons, Machine.runFrom_nil, Machine.step, idle, machine, code,
    reapExpiredLeases, lastSegment_of_plain plain, Prog.map_eq_bind, Prog.issue_bind,
    Prog.act_bind, Function.update_self, RedisServer.exec, status, abandoned.2,
    Option.isSome_none, Function.update_idem, ne_eq, not_true_eq_false, ↓reduceIte,
    Bool.false_eq_true, release, get, filled, decoded, Prog.pure_eq_ret, Prog.ret_bind,
    Except.map, List.append_assoc]
  rw [← idle, Function.update_eq_self]
  exact ⟨_, rfl⟩

/-- A job whose lease has run out is swept and claimed by another client, and the
earlier claim is superseded. -/
theorem reclaim_supersedes (backend : RedisQueueBackend) (config : RedisConfig ι) {key : String}
    (plain : ':' ∉ key.toList) (abandoned : Abandoned config.shared key) {job : Job}
    (read : backend.read config.shared key = .ok (some job)) {metadata : Dict String Value}
    (decoded : backend.loadsDict (claimText (backend.released config.shared key 0 job) key) =
      .ok metadata)
    (lasting : 0 < backend.leaseTimeout) {sweeper client stale : ι}
    (idle : ∀ other, config.client other = .idle)
    (earlier : stale ∈ (claimants key config.history).map Prod.fst) (different : stale ≠ client)
    (hostId workerId : String) {after : RedisConfig ι}
    (reached : after = (machine ι backend).runFrom config
      ([Action.call sweeper (Op.reap [key] 0), .act sweeper, .act sweeper, .act sweeper,
        .act sweeper, .act sweeper, .act sweeper, .ret sweeper] ++
       [Action.call client (Op.call (.claim key hostId workerId 0)), .act client, .act client,
        .ret client])) :
    Superseded key after.history stale client (hostId ++ ":" ++ workerId) ∧
      after.client stale = .idle ∧ after.shared.status? key = some JobStatus.running.value := by
  obtain ⟨events, swept⟩ := backend.sweep_releases config plain abandoned read 0 (idle sweeper)
  rw [lastSegment_of_plain plain] at swept
  have waiting : (backend.released config.shared key 0 job).status? key =
      some JobStatus.queued.value := by
    simp only [released, RedisServer.status?_deleteLease, RedisServer.status?_zadd]
    rw [RedisServer.status?_hset, if_pos rfl]
    rfl
  obtain ⟨raw, value, claimed⟩ := backend.claim_recorded
    { shared := backend.released config.shared key 0 job
      client := config.client
      history := config.history ++ events } (idle client) waiting decoded lasting hostId workerId 0
  rw [Machine.runFrom_append, swept, claimed] at reached
  subst reached
  refine ⟨superseded_by_claim ?_ different _ _ _ _ _ _ _, idle stale, ?_⟩
  · unfold claimants at earlier ⊢
    rw [List.filterMap_append, List.map_append, List.mem_append]
    exact .inl earlier
  · have moved := RedisServer.status?_claimScript (backend.released config.shared key 0 job) key key
      (hostId ++ ":" ++ workerId) (backend.claimedMeta hostId workerId metadata)
      (backend.codec.isoformat 0) backend.leaseTimeout
    rw [if_pos ⟨rfl, waiting⟩] at moved
    exact moved

section Sample

/-- The maintenance loop sweeps the job, and a second worker claims it. -/
def reclaimRun : List (Action Party Op) :=
  [Action.call Party.maintenance (Op.reap ["job"] 0), .act .maintenance, .act .maintenance,
   .act .maintenance, .act .maintenance, .act .maintenance, .act .maintenance,
   .ret .maintenance] ++
  [Action.call Party.second (Op.call (.claim "job" "host" "second" 0)), .act .second,
   .act .second, .ret .second]

/-- The configuration with the job in the hands of the second worker. -/
def reclaimedConfig : RedisConfig Party :=
  (machine Party plainBackend).runFrom lapsedConfig reclaimRun

/-- The first worker has been superseded on the job, which runs again. -/
theorem reclaimedConfig_eq :
    Superseded "job" reclaimedConfig.history .first .second ("host" ++ ":" ++ "second") ∧
      reclaimedConfig.client .first = .idle ∧
      reclaimedConfig.shared.status? "job" = some JobStatus.running.value := by
  obtain ⟨job, read⟩ := read_lapsedConfig
  have earlier : Party.first ∈ (claimants "job" lapsedConfig.history).map Prod.fst := by
    decide +kernel
  have hash : (plainBackend.released lapsedConfig.shared "job" 0 job).hashes.getD "job" ∅ =
      plainBackend.jobToHash
        { claimedJob "job" "task" "first" with status := .queued, claimedBy := none } := by
    unfold released
    simp only [RedisServer.deleteLease, RedisServer.zadd, RedisServer.hset, Dict.getD_set,
      ↓reduceIte]
    rw [Dict.getD, hash_lapsedConfig]
    decide +kernel
  have decoded := plainBackend.loadsDict_claimText
    (encodes_claimedJob "job" "task" (.inl rfl) .queued none) hash
  exact plainBackend.reclaim_supersedes lapsedConfig (by decide) abandoned_lapsedConfig read decoded
    (by decide) idle_lapsedConfig earlier Party.noConfusion "host" "second" rfl

/-- The first worker calls `update_status` with the job in the hands of the second. -/
def staleRun : List (Action Party Op) :=
  (claimedRun ++ lapseRun) ++ (reclaimRun ++
    [Action.call Party.first (Op.call (.updateStatus "job" JobStatus.succeeded.value 0)),
      .act .first])

theorem runFrom_staleRun :
    (machine Party plainBackend).runFrom (.initial .empty) staleRun =
      (machine Party plainBackend).runFrom reclaimedConfig
        [.call .first (.call (.updateStatus "job" JobStatus.succeeded.value 0)), .act .first] := by
  rw [staleRun, Machine.runFrom_append, Machine.runFrom_append]
  rfl

/-- Whatever its next command changes, the second worker's lease stays its own. -/
theorem stale_update_bounded :
    Bounded "job" ((machine Party plainBackend).runFrom (.initial .empty) staleRun).shared
        ((machine Party plainBackend).step
          ((machine Party plainBackend).runFrom (.initial .empty) staleRun) (.act .first)).shared
        (.updateStatus "job" JobStatus.succeeded.value 0) ∧
      ∀ lease, ((machine Party plainBackend).step
          ((machine Party plainBackend).runFrom (.initial .empty) staleRun)
          (.act .first)).shared.leases.get? "job" = some lease →
        lease.1 = "host" ++ ":" ++ "second" := by
  obtain ⟨superseded, idle, running⟩ := reclaimedConfig_eq
  obtain ⟨resume, log, history, reached, still⟩ := plainBackend.update_under_way reclaimedConfig
    superseded idle (RedisServer.isSome_of_status? running) JobStatus.succeeded.value 0
  have ran := runFrom_staleRun.trans reached
  have superseded : Superseded "job" ((machine Party plainBackend).runFrom (.initial .empty)
      staleRun).history .first .second ("host" ++ ":" ++ "second") := by
    rw [ran]
    exact still
  have busy := congrArg (fun config => config.client Party.first) ran
  simp only [Function.update_self] at busy
  exact plainBackend.superseded_calls_bounded staleRun superseded busy rfl

/-- The first worker ends the job of the second. -/
theorem stale_update_ends_job :
    ¬ Fenced plainBackend ((machine Party plainBackend).runFrom (.initial .empty) staleRun) := by
  obtain ⟨superseded, idle, running⟩ := reclaimedConfig_eq
  rw [runFrom_staleRun]
  refine plainBackend.stale_status_written reclaimedConfig superseded idle
    (RedisServer.isSome_of_status? running) ?_ 0
  rw [running]
  decide

end Sample

end Supersession

end RedisQueueBackend

end CloudDogJobs
