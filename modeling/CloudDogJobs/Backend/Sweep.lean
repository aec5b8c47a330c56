import CloudDogJobs.Backend.RedisEncoding

/-!
# Sweeps for expired leases

`reap_expired_leases` reads the status of a job, then its lease, then the job, and
writes it back to the queue by a command of its own, without a script around the
four. A sweep has a job in hand from the read that found it running to its write.
While no other client writes a status to a job that a sweep has in hand, a sweep
only requeues running jobs without a lease.
-/

namespace CloudDogJobs

open Foundation

/-- The command writes a status other than running to the job. -/
def RedisCall.restates (jobId : String) : RedisCall → Prop
  | .hset key mapping =>
      key = jobId ∧ ∃ text, mapping.get? "status" = some text ∧ text ≠ JobStatus.running.value
  | .attemptPipeline key updates =>
      key = jobId ∧ ∃ text, updates.get? "status" = some text ∧ text ≠ JobStatus.running.value
  | _ => False

namespace RedisServer

variable {server : RedisServer} {jobId : String}

/-- A running job stays so under an `HSET` that writes no other status to it. -/
theorem running_hset (running : server.status? jobId = some JobStatus.running.value) {key : String}
    {mapping : Dict String String}
    (steady : ¬ (key = jobId ∧
      ∃ text, mapping.get? "status" = some text ∧ text ≠ JobStatus.running.value)) :
    (server.hset key mapping).status? jobId = some JobStatus.running.value := by
  rw [status?_hset]
  by_cases same : jobId = key
  · subst same
    rw [if_pos rfl]
    cases named : mapping.get? "status" with
    | none => rw [Option.none_or, running]
    | some text =>
        by_cases kept : text = JobStatus.running.value
        · rw [Option.some_or, kept]
        · exact absurd ⟨rfl, text, named, kept⟩ steady
  · rw [if_neg same, running]

/-- A running job stays so under every command that writes no other status to it. -/
theorem running_exec (running : server.status? jobId = some JobStatus.running.value)
    {call : RedisCall} (steady : ¬ call.restates jobId) :
    (exec call server).2.status? jobId = some JobStatus.running.value := by
  cases call with
  | hset key mapping => exact running_hset running steady
  | attemptPipeline key updates =>
      have written := server.status?_attemptPipeline key jobId updates
      exact written.trans (running_hset running steady)
  | claimScript key claimedBy metaText nowText leaseTimeout =>
      have moved := server.status?_claimScript key jobId claimedBy metaText nowText leaseTimeout
      split at moved
      · exact moved
      · exact moved.trans running
  | heartbeatScript key nowText leaseTimeout =>
      exact (server.status?_heartbeatScript key jobId nowText leaseTimeout).trans running
  | _ => exact running

/-- No command gives a lease to a job that is running without one. -/
theorem unleased_exec (running : server.status? jobId = some JobStatus.running.value)
    (unleased : server.leases.get? jobId = none) (call : RedisCall) :
    (exec call server).2.leases.get? jobId = none := by
  have erased : ∀ key, (server.leases.erase key).get? jobId = none := by
    intro key
    rw [Dict.get?_erase, unleased]
    split <;> rfl
  cases call with
  | deleteLease key => exact erased key
  | lapse key => exact erased key
  | attemptPipeline key updates =>
      simp only [exec, attemptPipeline]
      split
      · exact unleased
      · exact unleased
  | heartbeatScript key nowText leaseTimeout =>
      simp only [exec, heartbeatScript]
      split
      · exact unleased
      · split
        · exact erased key
        · simp only [hset, Dict.get?_modify]
          split
          · next same =>
              subst same
              rw [unleased]
              rfl
          · exact unleased
  | claimScript key claimedBy metaText nowText leaseTimeout =>
      simp only [exec, claimScript]
      split
      · exact unleased
      · next waiting =>
          split
          · exact unleased
          · have different : jobId ≠ key := by
              intro same
              subst same
              rw [running] at waiting
              exact waiting (by decide)
            exact (Dict.get?_set_of_ne _ _ different).trans unleased
  | _ => exact unleased

end RedisServer

namespace RedisQueueBackend

/-- How far a sweep is with the job it looks at. -/
inductive Stage
  /-- The operation is no sweep. -/
  | aside
  /-- No job in hand. -/
  | between
  /-- The job was read as running. -/
  | seen (jobId : String)
  /-- Its lease was then read as missing. -/
  | checked (jobId : String)
  deriving DecidableEq

/-- Follows a sweep by its commands. It writes only to the job that it has checked. -/
def sweepMonitor : Monitor RedisCall RedisCall.Reply Stage where
  update
    | .aside, _, _ => .aside
    | _, .hget jobId name, reply =>
        if name = "status" ∧ reply = some JobStatus.running.value then .seen jobId else .between
    | .seen jobId, .existsLease leased, reply =>
        if leased = jobId ∧ reply = false then .checked jobId else .between
    | .checked jobId, .hgetall _, _ => .checked jobId
    | _, _, _ => .between
  allowed stage call :=
    match call with
    | .hset jobId _ => stage = .aside ∨ stage = .checked jobId
    | _ => True
  possible _ _ := True

def sweepStart : Op → Stage
  | .reap _ _ => .between
  | _ => .aside

/-- A sweep stays one. -/
theorem update_ne_aside {stage : Stage} (sweeping : stage ≠ .aside) (call : RedisCall)
    (reply : call.Reply) : sweepMonitor.update stage call reply ≠ .aside := by
  have read : ∀ (found : Prop) [Decidable found] (jobId : String),
      (if found then Stage.seen jobId else .between) ≠ .aside := by
    intro found _ jobId
    split <;> exact Stage.noConfusion
  cases stage with
  | aside => exact absurd rfl sweeping
  | between =>
      cases call with
      | hget jobId name => exact read _ jobId
      | _ => exact Stage.noConfusion
  | seen jobId =>
      cases call with
      | hget other name => exact read _ other
      | existsLease leased =>
          simp only [sweepMonitor]
          split <;> exact Stage.noConfusion
      | _ => exact Stage.noConfusion
  | checked jobId =>
      cases call with
      | hget other name => exact read _ other
      | _ => exact Stage.noConfusion

theorem summarize_ne_aside {stage : Stage} (sweeping : stage ≠ .aside)
    (log : List (Sigma RedisCall.Reply)) : sweepMonitor.summarize stage log ≠ .aside := by
  induction log generalizing stage with
  | nil => exact sweeping
  | cons entry rest ih => exact ih (update_ne_aside sweeping entry.1 entry.2)

/-- The last segment of a key without a colon is the key. -/
theorem lastSegment_of_plain {key : String} (plain : ':' ∉ key.toList) : lastSegment key = key := by
  unfold lastSegment
  have whole : key.toList.reverse.takeWhile (fun letter => decide (letter ≠ ':')) =
      key.toList.reverse := by
    rw [List.takeWhile_eq_self_iff]
    intro letter member
    have different : letter ≠ ':' := by
      intro same
      rw [same, List.mem_reverse] at member
      exact plain member
    exact decide_eq_true different
  rw [whole, List.reverse_reverse, String.ofList_toList]

section Acceptance

variable (backend : RedisQueueBackend) (now : Int)

/-- What is written to the queue is the job that was checked. -/
theorem accepts_release (jobId : String) :
    sweepMonitor.Accepts (fun reached _ => reached ≠ .aside) (.checked jobId)
      (backend.release jobId now) := by
  unfold release get
  simp only [Prog.issue_bind, Prog.act_bind]
  refine ⟨trivial, fun data _ => ?_⟩
  by_cases missing : data.isEmpty = true
  · simp only [missing, ↓reduceIte, Prog.pure_eq_ret, Prog.ret_bind]
    exact Stage.noConfusion
  · simp only [missing, Bool.false_eq_true, ↓reduceIte, Prog.pure_eq_ret, Prog.ret_bind]
    cases backend.hashToJob data with
    | error error => exact Stage.noConfusion
    | ok job =>
        refine ⟨.inr rfl, fun _ _ => ?_⟩
        refine ⟨trivial, fun _ _ => ?_⟩
        exact ⟨trivial, fun _ _ => Stage.noConfusion⟩

/-- A sweep over keys without colons goes through its stages. -/
theorem accepts_reap {scanned : List String} (plain : ∀ key ∈ scanned, ':' ∉ key.toList)
    {stage : Stage} (sweeping : stage ≠ .aside) :
    sweepMonitor.Accepts (fun reached _ => reached ≠ .aside) stage
      (backend.reapExpiredLeases now scanned) := by
  induction scanned generalizing stage with
  | nil => exact sweeping
  | cons key rest ih =>
      have later : ∀ {stage : Stage}, stage ≠ .aside →
          sweepMonitor.Accepts (fun reached _ => reached ≠ .aside) stage
            (backend.reapExpiredLeases now rest) :=
        ih fun other member => plain other (List.mem_cons_of_mem _ member)
      have read : ∀ reply : Option String, sweepMonitor.update stage (.hget key "status") reply =
          if reply = some JobStatus.running.value then .seen key else .between := by
        intro reply
        cases stage with
        | aside => exact absurd rfl sweeping
        | _ => simp [sweepMonitor]
      unfold reapExpiredLeases
      rw [lastSegment_of_plain (plain key List.mem_cons_self)]
      simp only [Prog.issue_bind]
      refine ⟨trivial, fun status _ => ?_⟩
      rw [read]
      by_cases running : status = some JobStatus.running.value
      · simp only [running, ne_eq, not_true_eq_false, ↓reduceIte]
        refine ⟨trivial, fun leased _ => ?_⟩
        cases leased with
        | true =>
            apply later
            simp [sweepMonitor]
        | false =>
            simp only [sweepMonitor, Bool.false_eq_true, ↓reduceIte, and_self]
            rw [Monitor.accepts_bind]
            refine Monitor.Accepts.mono _ ?_ (backend.accepts_release now key)
            intro reached released sweeping
            cases released with
            | error error => exact sweeping
            | ok released =>
                simp only []
                rw [Monitor.accepts_bind]
                refine Monitor.Accepts.mono _ ?_ (later sweeping)
                intro final reaped swept
                cases reaped with
                | error error => exact swept
                | ok reaped => exact swept
      · simp only [running, ne_eq, not_false_eq_true, ↓reduceIte]
        exact later Stage.noConfusion

/-- Operations that are no sweeps are left aside. -/
theorem accepts_aside (program : RedisProg (Except PyError BackendResult)) :
    sweepMonitor.Accepts (fun _ _ => True) .aside program := by
  induction program with
  | ret value => trivial
  | act call resume ih =>
      refine ⟨?_, fun reply _ => ih reply⟩
      cases call with
      | hset jobId mapping => exact .inl rfl
      | _ => trivial

end Acceptance

/-- Clients of one server, some of them inside their operations. -/
abbrev RedisConfig (ι : Type) : Type :=
  Config ι Op RedisCall RedisCall.Reply (Except PyError BackendResult) RedisServer

abbrev RedisEvent (ι : Type) : Type :=
  Event ι Op RedisCall RedisCall.Reply (Except PyError BackendResult)

/-- The job is running, and no lease says that somebody is at it. -/
def Abandoned (server : RedisServer) (jobId : String) : Prop :=
  server.status? jobId = some JobStatus.running.value ∧ server.leases.get? jobId = none

/-- What a sweep has found of the job in hand still holds. -/
def Stage.Holds (server : RedisServer) : Stage → Prop
  | .seen jobId => server.status? jobId = some JobStatus.running.value
  | .checked jobId => Abandoned server jobId
  | _ => True

/-- A sweep has the job in hand. -/
def Stage.InHand (jobId : String) : Stage → Prop
  | .seen other => other = jobId
  | .checked other => other = jobId
  | _ => False

theorem Stage.Holds.exec {stage : Stage} {server : RedisServer} (valid : stage.Holds server)
    {call : RedisCall} (steady : ∀ jobId, stage.InHand jobId → ¬ call.restates jobId) :
    stage.Holds (RedisServer.exec call server).2 := by
  cases stage with
  | aside => trivial
  | between => trivial
  | seen jobId => exact RedisServer.running_exec valid (steady jobId rfl)
  | checked jobId =>
      refine ⟨RedisServer.running_exec valid.1 (steady jobId rfl), ?_⟩
      exact RedisServer.unleased_exec valid.1 valid.2 call

/-- What a sweep finds by its next command holds. -/
theorem Stage.Holds.update {stage : Stage} {server : RedisServer} (valid : stage.Holds server)
    (call : RedisCall) :
    (sweepMonitor.update stage call (RedisServer.exec call server).1).Holds
      (RedisServer.exec call server).2 := by
  have read : ∀ jobId name, (if name = "status" ∧
      server.field jobId name = some JobStatus.running.value then Stage.seen jobId
      else .between).Holds server := by
    intro jobId name
    split
    · next found =>
        have status : server.field jobId "status" = some JobStatus.running.value :=
          found.1 ▸ found.2
        exact status
    · trivial
  cases stage with
  | aside => trivial
  | between =>
      cases call with
      | hget jobId name => exact read jobId name
      | _ => trivial
  | seen jobId =>
      cases call with
      | hget other name => exact read other name
      | existsLease leased =>
          show (if leased = jobId ∧ (server.leases.get? leased).isSome = false
            then Stage.checked jobId else .between).Holds server
          split
          · next missing =>
              obtain ⟨rfl, missing⟩ := missing
              exact ⟨valid, Option.isSome_eq_false_iff.mp missing |> Option.isNone_iff_eq_none.mp⟩
          · trivial
      | _ => trivial
  | checked jobId =>
      cases call with
      | hget other name => exact read other name
      | hgetall other => exact valid
      | _ => trivial

section Runs

variable {ι : Type} [DecidableEq ι]

/-- The stage of the sweep that a client is in. -/
def stage? (config : RedisConfig ι) (client : ι) : Option (Op × Stage) :=
  config.summary sweepMonitor (fun _ => sweepStart) client

/-- The next action disturbs no sweep: a sweep starts on keys without colons, and a
command writes no other status to a job that another client's sweep has in hand. -/
def Undisturbed (config : RedisConfig ι) : Action ι Op → Prop
  | .call _ (.reap scanned _) => ∀ key ∈ scanned, ':' ∉ key.toList
  | .act client => ∀ op call resume log, config.client client = .busy op (.act call resume) log →
      ∀ other sweep stage jobId, other ≠ client → stage? config other = some (sweep, stage) →
        stage.InHand jobId → ¬ call.restates jobId
  | _ => True

/-- A sweep that is about to write a job to the queue finds it abandoned. The only
`HSET` of a sweep is that of `release`, which writes `queued`. -/
def RequeuesAbandoned (config : RedisConfig ι) : Prop :=
  ∀ client scanned now jobId mapping resume log,
    config.client client = .busy (.reap scanned now) (.act (.hset jobId mapping) resume) log →
      Abandoned config.shared jobId

/-- What the sweeps in progress have found of their jobs holds. -/
def FindingsHold (server : RedisServer) (stages : ι → Option (Op × Stage))
    (_ : List (Event ι Op RedisCall RedisCall.Reply (Except PyError BackendResult))) : Prop :=
  ∀ client op stage, stages client = some (op, stage) → stage.Holds server

theorem findings_invariant (backend : RedisQueueBackend) :
    (machine ι backend).Invariant sweepMonitor (fun _ => sweepStart) (fun _ _ _ _ => True)
      Undisturbed FindingsHold where
  accepts config client op permitted := by
    cases op with
    | reap scanned now =>
        show sweepMonitor.Accepts _ .between (_ <$> backend.reapExpiredLeases now scanned)
        rw [Monitor.accepts_map]
        refine Monitor.Accepts.mono _ ?_ (backend.accepts_reap now permitted Stage.noConfusion)
        exact fun _ _ _ => trivial
    | call op => exact accepts_aside _
    | lapse jobId => exact accepts_aside _
  replies config client op call resume log permitted busy valid := trivial
  call config client op permitted idle valid := by
    intro other running stage shown
    rcases update_some_cases shown with ⟨rfl, same⟩ | ⟨_, before⟩
    · obtain ⟨rfl, rfl⟩ := Prod.mk.inj same
      cases running with
      | _ => trivial
    · exact valid other running stage before
  act config client op call resume log permitted busy allowed valid := by
    intro other running stage shown
    rcases update_some_cases shown with ⟨rfl, same⟩ | ⟨different, before⟩
    · obtain ⟨rfl, rfl⟩ := Prod.mk.inj same
      have ours := valid other running _ (Config.summary_of_busy busy sweepMonitor _)
      exact ours.update call
    · refine (valid other running stage before).exec ?_
      intro jobId inHand
      exact permitted op call resume log busy other running stage jobId different before inHand
  ret config client op value log permitted busy met valid := by
    intro other running stage shown
    obtain ⟨_, before⟩ := update_none_cases shown
    exact valid other running stage before

/-- **Sweeps requeue abandoned jobs.** In every run in which sweeps start on keys
without colons and no command writes another status to a job that another client's
sweep has in hand, a sweep that writes a job to the queue finds it running and without a
lease. -/
theorem undisturbed_sweeps_requeue_abandoned (backend : RedisQueueBackend) (server : RedisServer)
    {schedule : List (Action ι Op)}
    (undisturbed : (machine ι backend).Permits Undisturbed (.initial server) schedule) :
    RequeuesAbandoned ((machine ι backend).runFrom (.initial server) schedule) := by
  obtain ⟨conforms, found⟩ := (findings_invariant backend).runFrom_conforms (.initial server)
    (Machine.conforms_initial server) (fun _ _ _ shown => by cases shown) schedule undisturbed
  intro client scanned now jobId mapping resume log busy
  have accepted := conforms client (.reap scanned now) _ log busy
  have stage := Config.summary_of_busy busy sweepMonitor fun _ => sweepStart
  rcases accepted.1 with aside | checked
  · exact absurd aside (summarize_ne_aside Stage.noConfusion log)
  · rw [checked] at stage
    exact found client _ _ stage

/-- One client at a time disturbs nobody. -/
theorem permits_solo (backend : RedisQueueBackend) {config : RedisConfig ι} (client : ι)
    (others : ∀ other, other ≠ client → config.client other = .idle)
    {schedule : List (Action ι Op)}
    (own : ∀ action ∈ schedule, action.client = client ∧ ∀ scanned now,
      action = .call client (.reap scanned now) → ∀ key ∈ scanned, ':' ∉ key.toList) :
    (machine ι backend).Permits Undisturbed config schedule := by
  induction schedule generalizing config with
  | nil => trivial
  | cons action rest ih =>
      obtain ⟨ours, plain⟩ := own action List.mem_cons_self
      refine ⟨?_, ih ?_ fun other member => own other (List.mem_cons_of_mem _ member)⟩
      · cases action with
        | call caller op =>
            cases op with
            | reap scanned now =>
                have caller : caller = client := ours
                subst caller
                exact plain scanned now rfl
            | _ => trivial
        | act actor =>
            have actor : actor = client := ours
            subst actor
            intro op call resume log busy other sweep stage jobId different shown
            rw [stage?, Config.summary_of_idle (others other different)] at shown
            cases shown
        | ret returner => trivial
      · intro other different
        rw [Machine.client_step_of_ne _ _ (ours.symm ▸ different)]
        exact others other different

/-- A sweep that finds a job abandoned gets as far as its write. -/
theorem reach_write (backend : RedisQueueBackend) (config : RedisConfig ι) {key : String}
    (plain : ':' ∉ key.toList) (abandoned : Abandoned config.shared key) {job : Job}
    (read : backend.read config.shared key = .ok (some job)) (now : Int) {client : ι}
    (idle : config.client client = .idle) :
    ∃ mapping resume log history, (machine ι backend).runFrom config
        [.call client (.reap [key] now), .act client, .act client, .act client] =
      { shared := config.shared
        client := Function.update config.client client
          (.busy (.reap [key] now) (.act (.hset (lastSegment key) mapping) resume) log)
        history := history } := by
  have status : config.shared.field key "status" = some JobStatus.running.value := abandoned.1
  obtain ⟨filled, decoded⟩ := decoded_of_read read
  simp only [Machine.runFrom_cons, Machine.runFrom_nil, Machine.step, idle, machine, code,
    reapExpiredLeases, lastSegment_of_plain plain, Prog.map_eq_bind, Prog.issue_bind,
    Prog.act_bind, Function.update_self, RedisServer.exec, status, abandoned.2,
    Option.isSome_none, Function.update_idem, ne_eq, not_true_eq_false, ↓reduceIte,
    Bool.false_eq_true, release, get, filled, decoded, Prog.pure_eq_ret, Prog.ret_bind,
    Except.map]
  exact ⟨_, _, _, _, rfl⟩

/-- An `update_status` of a stored job gets past its write of the hash. -/
theorem write_status (backend : RedisQueueBackend) (config : RedisConfig ι) {jobId : String}
    (stored : (config.shared.hashes.get? jobId).isSome) (status : String) (now : Int) {client : ι}
    (idle : config.client client = .idle) :
    ∃ rest log history, (machine ι backend).runFrom config
        [.call client (.call (.updateStatus jobId status now)), .act client, .act client] =
      { shared := config.shared.hset jobId (backend.statusMapping status now)
        client := Function.update config.client client
          (.busy (.call (.updateStatus jobId status now)) rest log)
        history := history } := by
  simp only [Machine.runFrom_cons, Machine.runFrom_nil, Machine.step, idle, machine, code,
    updateStatus, Prog.map_eq_bind, Prog.issue_bind, Prog.act_bind, Function.update_self,
    RedisServer.exec, stored, Function.update_idem, ↓reduceIte]
  exact ⟨_, _, _, rfl⟩

/-- A status that another client writes once the sweep has read the job is lost: the
sweep requeues the job all the same. -/
theorem overtaken_sweep (backend : RedisQueueBackend) (config : RedisConfig ι) {key : String}
    (plain : ':' ∉ key.toList) (abandoned : Abandoned config.shared key)
    (stored : (config.shared.hashes.get? key).isSome) {job : Job}
    (read : backend.read config.shared key = .ok (some job)) {sweeper worker : ι}
    (different : worker ≠ sweeper) (idle : config.client sweeper = .idle)
    (free : config.client worker = .idle) {status : String}
    (other : status ≠ JobStatus.running.value) (now : Int) :
    ¬ RequeuesAbandoned ((machine ι backend).runFrom config
      ([Action.call sweeper (Op.reap [key] now), .act sweeper, .act sweeper, .act sweeper] ++
        [Action.call worker (Op.call (.updateStatus key status now)), .act worker,
          .act worker])) := by
  intro requeues
  rw [Machine.runFrom_append] at requeues
  obtain ⟨mapping, resume, log, swept, reached⟩ := backend.reach_write config plain abandoned read
    now idle
  rw [reached] at requeues
  obtain ⟨rest, later, history, written⟩ := backend.write_status
    { shared := config.shared
      client := Function.update config.client sweeper
        (.busy (.reap [key] now) (.act (.hset (lastSegment key) mapping) resume) log)
      history := swept } stored status now ((Function.update_of_ne different ..).trans free)
  rw [written] at requeues
  have found := requeues sweeper [key] now _ mapping resume log
    ((Function.update_of_ne different.symm ..).trans (Function.update_self ..))
  have running := found.1
  rw [lastSegment_of_plain plain, RedisServer.status?_hset, if_pos rfl, statusMapping_status,
    Option.some_or] at running
  exact other (Option.some.inj running)

end Runs

section Sample

/-- A worker submits and claims a job. -/
def claimedRun : List (Action Party Op) :=
  [.call .first (.call (.enqueue (plainJob "job" "task") 0)), .act .first, .act .first,
   .ret .first,
   .call .first (.call (.claim "job" "host" "first" 0)), .act .first, .act .first, .ret .first]

/-- The lease of the job runs out. -/
def lapseRun : List (Action Party Op) :=
  [.call .maintenance (.lapse "job"), .act .maintenance, .ret .maintenance]

/-- A sweep of the job, up to its write. -/
def sweepRun : List (Action Party Op) :=
  [.call .maintenance (.reap ["job"] 0), .act .maintenance, .act .maintenance, .act .maintenance]

/-- The configuration with the job running and its lease gone. -/
def lapsedConfig : RedisConfig Party :=
  (machine Party plainBackend).runFrom (.initial .empty) (claimedRun ++ lapseRun)

theorem lapsedConfig_eq : (lapsedConfig.client .first).isIdle ∧
    (lapsedConfig.client .second).isIdle ∧ (lapsedConfig.client .maintenance).isIdle ∧
    lapsedConfig.shared.hashes =
      Dict.empty.set "job" (plainBackend.jobToHash (claimedJob "job" "task" "first")) ∧
    lapsedConfig.shared.leases = ∅ := by
  decide +kernel

theorem idle_lapsedConfig (party : Party) : lapsedConfig.client party = .idle := by
  obtain ⟨first, second, maintenance, _⟩ := lapsedConfig_eq
  cases party with
  | first => exact Client.eq_idle first
  | second => exact Client.eq_idle second
  | maintenance => exact Client.eq_idle maintenance

theorem hash_lapsedConfig : lapsedConfig.shared.hashes.get? "job" =
    some (plainBackend.jobToHash (claimedJob "job" "task" "first")) := by
  rw [lapsedConfig_eq.2.2.2.1, Dict.get?_set_self]

theorem abandoned_lapsedConfig : Abandoned lapsedConfig.shared "job" := by
  refine ⟨?_, ?_⟩
  · rw [RedisServer.status?, RedisServer.field, Dict.getD, hash_lapsedConfig]
    rfl
  · rw [lapsedConfig_eq.2.2.2.2]
    rfl

theorem read_lapsedConfig :
    ∃ job, plainBackend.read lapsedConfig.shared "job" = .ok (some job) := by
  have stored : lapsedConfig.shared.hashes.getD "job" ∅ =
      plainBackend.jobToHash (claimedJob "job" "task" "first") :=
    congrArg (Option.getD · ∅) hash_lapsedConfig
  exact ⟨_, plainBackend.read_of_hash (encodes_claimedJob "job" "task" (.inl rfl) _ _) stored⟩

/-- The sweep of the lapsed job finds it running and without a lease. -/
theorem lapsed_job_is_requeued :
    RequeuesAbandoned ((machine Party plainBackend).runFrom (.initial .empty)
      (claimedRun ++ (lapseRun ++ sweepRun))) := by
  apply undisturbed_sweeps_requeue_abandoned
  rw [Machine.permits_append]
  refine ⟨permits_solo plainBackend Party.first (fun _ _ => rfl) ?_,
    permits_solo plainBackend Party.maintenance ?_ ?_⟩
  · simp [claimedRun, Action.client]
  · intro other different
    have later := (machine Party plainBackend).client_runFrom_of_ne
      ((machine Party plainBackend).runFrom (.initial .empty) claimedRun)
      (by simp [lapseRun, Action.client] : ∀ action ∈ lapseRun, action.client = .maintenance)
      different
    have idle := idle_lapsedConfig other
    rw [lapsedConfig, Machine.runFrom_append, later] at idle
    exact idle
  · simp [lapseRun, sweepRun, Action.client]

/-- The worker ends the job after the sweep has read it and before it writes. -/
theorem finished_job_is_requeued :
    ¬ RequeuesAbandoned ((machine Party plainBackend).runFrom (.initial .empty)
      ((claimedRun ++ lapseRun) ++ (sweepRun ++
        [.call .first (.call (.updateStatus "job" JobStatus.succeeded.value 0)), .act .first,
          .act .first]))) := by
  obtain ⟨job, read⟩ := read_lapsedConfig
  rw [Machine.runFrom_append]
  exact plainBackend.overtaken_sweep lapsedConfig (by decide) abandoned_lapsedConfig
    (by rw [hash_lapsedConfig]; rfl) read Party.noConfusion (idle_lapsedConfig .maintenance)
    (idle_lapsedConfig .first) (by decide) 0

end Sample

end RedisQueueBackend

end CloudDogJobs
