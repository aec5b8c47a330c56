import Mathlib.Algebra.BigOperators.Group.List.Basic
import Mathlib.Algebra.Ring.Int.Defs
import CloudDogJobs.Worker.Protocol

/-!
# Pool slots in flight

A job counts against the resource pool from the call that took its slots to the
call that gave them back, also when another worker overwrote or released its
holding in between. The pool's counts may exceed the slots in flight, never fall
below them: each release takes at most the slots of one holding, and all
holdings of a job have the same size.
-/

namespace CloudDogJobs

open Foundation

variable {ι σ : Type} [DecidableEq ι]

/-- One event's effect on the slots in flight: the holder, the job and its request. -/
def ServiceEvent.onSlots (held : List (ι × String × Dict String Int)) :
    ServiceEvent ι → List (ι × String × Dict String Int)
  | .acted client (.acquireResources jobId resources) granted =>
      if granted then held ++ [(client, jobId, resources)] else held
  | .acted client (.releaseResources jobId) _ =>
      held.eraseP fun entry => entry.1 = client ∧ entry.2.1 = jobId
  | _ => held

/-- The pool slots taken and not given back. -/
def heldSlots (history : List (ServiceEvent ι)) : List (ι × String × Dict String Int) :=
  history.foldl ServiceEvent.onSlots []

theorem heldSlots_snoc (history : List (ServiceEvent ι)) (event : ServiceEvent ι) :
    heldSlots (history ++ [event]) = event.onSlots (heldSlots history) := by
  simp [heldSlots]

/-- The slots of a pool in a list of holdings. -/
def slotSum (held : List (ι × String × Dict String Int)) (name : String) : Int :=
  (held.map fun entry => ResourcePool.slots entry.2.2 name).sum

omit [DecidableEq ι] in
theorem slotSum_snoc (held : List (ι × String × Dict String Int))
    (entry : ι × String × Dict String Int) (name : String) :
    slotSum (held ++ [entry]) name = slotSum held name + ResourcePool.slots entry.2.2 name := by
  simp [slotSum]

omit [DecidableEq ι] in
/-- Giving back one of the holdings that match, all of the same size. -/
theorem slotSum_eraseP_of_mem {held : List (ι × String × Dict String Int)}
    {matching : ι × String × Dict String Int → Bool} {size : Int} {name : String}
    {entry : ι × String × Dict String Int} (member : entry ∈ held) (matched : matching entry = true)
    (sized : ∀ other ∈ held, matching other = true → ResourcePool.slots other.2.2 name = size) :
    slotSum (held.eraseP matching) name = slotSum held name - size := by
  obtain ⟨erased, front, back, _, hit, split, rest⟩ := List.exists_of_eraseP member matched
  have amount := sized erased (by rw [split]; simp) hit
  rw [rest, split]
  simp only [slotSum, List.map_append, List.sum_append, List.map_cons, List.sum_cons]
  omega

omit [DecidableEq ι] in
/-- Giving back holdings that are not negative lowers the sum. -/
theorem slotSum_eraseP_le (held : List (ι × String × Dict String Int))
    (matching : ι × String × Dict String Int → Bool) (name : String)
    (sound : ∀ entry ∈ held, 0 ≤ ResourcePool.slots entry.2.2 name) :
    slotSum (held.eraseP matching) name ≤ slotSum held name := by
  by_cases some : ∃ entry ∈ held, matching entry = true
  · obtain ⟨entry, member, matched⟩ := some
    obtain ⟨erased, front, back, _, _, split, rest⟩ := List.exists_of_eraseP member matched
    have amount := sound erased (by rw [split]; simp)
    rw [rest, split]
    simp only [slotSum, List.map_append, List.sum_append, List.map_cons, List.sum_cons]
    omega
  · have absent : ∀ entry ∈ held, ¬ matching entry = true :=
      fun entry member matched => some ⟨entry, member, matched⟩
    exact Int.le_of_eq (congrArg (slotSum · name) (List.eraseP_of_forall_not absent))

/-- The job is stored with this request. -/
def Requests (view : σ → String → Option Ticket) (shared : Shared σ) (jobId : String)
    (resources : Dict String Int) : Prop :=
  ∃ ticket, view shared.store jobId = some ticket ∧ ticket.resources = resources

omit [DecidableEq ι] in
theorem Requests.unique {view : σ → String → Option Ticket} {shared : Shared σ} {jobId : String}
    {first second : Dict String Int} (one : Requests view shared jobId first)
    (two : Requests view shared jobId second) : first = second := by
  obtain ⟨ticket, shown, rfl⟩ := one
  obtain ⟨other, again, rfl⟩ := two
  rw [Option.some.inj (shown.symm.trans again)]

/-- The account of the pool. -/
structure Pooled (view : σ → String → Option Ticket) (limits : Dict String Int)
    (shared : Shared σ) (stages : ι → Option (ServiceOp × Stage))
    (history : List (ServiceEvent ι)) : Prop where
  bounds : shared.pool.limits = limits
  within : ∀ name limit, limits.get? name = some limit → shared.pool.usedOf name ≤ limit
  covered : ∀ name, slotSum (heldSlots history) name ≤ shared.pool.usedOf name
  sound : ∀ jobId resources, Requests view shared jobId resources →
    ∀ name, 0 ≤ ResourcePool.slots resources name
  looked : ∀ client op stage job, stages client = some (op, stage) → stage.job = some job →
    Requests view shared job.jobId job.resources
  held : ∀ entry ∈ heldSlots history, Requests view shared entry.2.1 entry.2.2
  holders : ∀ jobId resources, shared.pool.holders.get? jobId = some resources →
    resources.isEmpty = false ∧ Requests view shared jobId resources
  owned : ∀ client op stage job, stages client = some (op, stage) → stage.resources = true →
    stage.job = some job → (client, job.jobId, job.resources) ∈ heldSlots history

/-- The store keeps every request, and new ones are not negative. -/
structure KeepsRequests (view : σ → String → Option Ticket) (before after : Shared σ) : Prop where
  kept : ∀ jobId resources, Requests view before jobId resources →
    Requests view after jobId resources
  sound : ∀ jobId resources, Requests view after jobId resources →
    Requests view before jobId resources ∨ resources = ∅

namespace KeepsRequests

variable {view : σ → String → Option Ticket} {backend : QueueBackend σ} {shared : Shared σ}

/-- A step that shows nothing new. -/
theorem of_view {after : Shared σ}
    (same : ∀ jobId, view after.store jobId = view shared.store jobId) :
    KeepsRequests view shared after := by
  constructor
  · rintro jobId resources ⟨ticket, shown, rfl⟩
    exact ⟨ticket, (same jobId).trans shown, rfl⟩
  · rintro jobId resources ⟨ticket, shown, rfl⟩
    exact .inl ⟨ticket, (same jobId).symm.trans shown, rfl⟩

/-- Rewriting the status of one job keeps the requests. -/
theorem of_status {after : Shared σ} (jobId : String) (status : JobStatus)
    (moved : ∀ other, view after.store other = view shared.store other ∨
      (other = jobId ∧ view after.store other =
        (view shared.store jobId).map fun ticket => ticket.withStatus status)) :
    KeepsRequests view shared after := by
  constructor
  · rintro other resources ⟨ticket, shown, rfl⟩
    rcases moved other with same | ⟨rfl, changed⟩
    · exact ⟨ticket, same.trans shown, rfl⟩
    · refine ⟨ticket.withStatus status, ?_, rfl⟩
      rw [changed, shown]
      rfl
  · rintro other resources ⟨ticket, shown, rfl⟩
    rcases moved other with same | ⟨rfl, changed⟩
    · exact .inl ⟨ticket, same.symm.trans shown, rfl⟩
    · rw [changed] at shown
      obtain ⟨earlier, stored, rfl⟩ := Option.map_eq_some_iff.mp shown
      exact .inl ⟨earlier, stored, rfl⟩

/-- The calls of a worker, dead letters under fresh identifiers. -/
theorem exec (lawful : backend.Lawful view) (shared : Shared σ) (call : WorkerCall)
    (bare : ∀ copy now, call = .enqueue copy now → copy.resources = ∅)
    (fresh : ∀ copy now, call = .enqueue copy now → view shared.store copy.jobId = none) :
    KeepsRequests view shared (Shared.exec backend call shared).2 := by
  cases call with
  | claim jobId hostId workerId now =>
      apply of_status jobId .running
      intro other
      have moved := lawful.view_claim jobId hostId workerId now shared.store other
      by_cases granted : other = jobId ∧
          (backend.claim jobId hostId workerId now shared.store).1 = .ok true
      · rw [if_pos granted] at moved
        exact .inr ⟨granted.1, moved⟩
      · rw [if_neg granted] at moved
        exact .inl moved
  | updateStatus jobId status now =>
      apply of_status jobId status
      intro other
      have moved := lawful.view_updateStatus jobId status now shared.store other
      by_cases same : other = jobId
      · rw [if_pos same] at moved
        exact .inr ⟨same, moved⟩
      · rw [if_neg same] at moved
        exact .inl moved
  | heartbeat jobId now =>
      exact of_view (lawful.view_heartbeat jobId now shared.store)
  | enqueue copy now =>
      have absent := fresh copy now rfl
      constructor
      · rintro other resources ⟨ticket, shown, rfl⟩
        have different : other ≠ copy.jobId := by
          rintro rfl
          rw [absent] at shown
          cases shown
        exact ⟨ticket, (lawful.enqueue_other copy now shared.store other different).trans shown,
          rfl⟩
      · rintro other resources ⟨ticket, shown, rfl⟩
        by_cases same : other = copy.jobId
        · subst same
          rcases lawful.enqueue_self copy now shared.store with kept | ⟨stored, placed, _, _, size⟩
          · have nothing := kept.symm.trans shown
            rw [absent] at nothing
            cases nothing
          · obtain rfl : stored = ticket := Option.some.inj (placed.symm.trans shown)
            rcases size with copied | dropped
            · exact .inr (copied.trans (bare copy now rfl))
            · exact .inr dropped
        · exact .inl ⟨ticket, (lawful.enqueue_other copy now shared.store other same).symm.trans
            shown, rfl⟩
  | _ => exact of_view fun _ => rfl

end KeepsRequests

namespace Pooled

variable {view : σ → String → Option Ticket} {limits : Dict String Int} {shared : Shared σ}
  {stages : ι → Option (ServiceOp × Stage)} {history : List (ServiceEvent ι)}
  {client : ι} {op : ServiceOp} {stage : Stage}

/-- New requests are not negative. -/
theorem sound_after (pooled : Pooled view limits shared stages history) {after : Shared σ}
    (keeps : KeepsRequests view shared after) (jobId : String) (resources : Dict String Int)
    (stored : Requests view after jobId resources) (name : String) :
    0 ≤ ResourcePool.slots resources name := by
  rcases keeps.sound jobId resources stored with earlier | rfl
  · exact pooled.sound jobId resources earlier name
  · exact Int.le_refl 0

/-- A step that leaves the pool and the slots in flight alone. -/
theorem frame (pooled : Pooled view limits shared stages history) {after : Shared σ}
    {event : ServiceEvent ι} {stages' : ι → Option (ServiceOp × Stage)}
    (pool : after.pool = shared.pool)
    (untouched : event.onSlots (heldSlots history) = heldSlots history)
    (keeps : KeepsRequests view shared after)
    (looked : ∀ other running reached job, stages' other = some (running, reached) →
      reached.job = some job → Requests view after job.jobId job.resources)
    (owned : ∀ other running reached job, stages' other = some (running, reached) →
      reached.resources = true → reached.job = some job →
        (other, job.jobId, job.resources) ∈ heldSlots history) :
    Pooled view limits after stages' (history ++ [event]) := by
  have same : heldSlots (history ++ [event]) = heldSlots history :=
    (heldSlots_snoc history event).trans untouched
  constructor
  · rw [pool]
    exact pooled.bounds
  · rw [pool]
    exact pooled.within
  · rw [pool, same]
    exact pooled.covered
  · exact pooled.sound_after keeps
  · exact looked
  · rw [same]
    exact fun entry member => keeps.kept _ _ (pooled.held entry member)
  · rw [pool]
    intro jobId resources found
    obtain ⟨filled, stored⟩ := pooled.holders jobId resources found
    exact ⟨filled, keeps.kept _ _ stored⟩
  · rw [same]
    exact owned

/-- A stage that looks at the same job as before. -/
theorem looked_update (pooled : Pooled view limits shared stages history) {next : Stage}
    (found : stages client = some (op, stage)) (same : next.job = stage.job) (other : ι)
    (running : ServiceOp) (reached : Stage) (task : Job)
    (shown : Function.update stages client (some (op, next)) other = some (running, reached))
    (looks : reached.job = some task) : Requests view shared task.jobId task.resources := by
  rcases update_some_cases shown with ⟨rfl, equal⟩ | ⟨_, shown⟩
  · obtain ⟨rfl, rfl⟩ := Prod.mk.inj equal
    exact pooled.looked other running stage task found (same.symm.trans looks)
  · exact pooled.looked other running reached task shown looks

/-- The pool records nothing for a stored job, or its request. -/
theorem recorded (pooled : Pooled view limits shared stages history) {jobId : String}
    {resources : Dict String Int} (stored : Requests view shared jobId resources) :
    shared.pool.holders.getD jobId ∅ = ∅ ∨
      (shared.pool.holders.getD jobId ∅ = resources ∧ resources.isEmpty = false) := by
  cases holding : shared.pool.holders.get? jobId with
  | none =>
      left
      rw [Dict.getD, holding]
      rfl
  | some held =>
      obtain ⟨filled, requested⟩ := pooled.holders jobId held holding
      obtain rfl := requested.unique stored
      right
      rw [Dict.getD, holding]
      exact ⟨rfl, filled⟩

/-- Slots that were granted. -/
theorem acquire (pooled : Pooled view limits shared stages history) {job : Job}
    (found : stages client = some (op, stage)) (looking : stage.job = some job)
    (filled : job.resources.isEmpty = false)
    (granted : (shared.pool.acquire job.jobId job.resources).1 = true) :
    Pooled view limits
      { shared with pool := (shared.pool.acquire job.jobId job.resources).2 }
      (Function.update stages client (some (op, { stage with resources := true })))
      (history ++
        [(.acted client (.acquireResources job.jobId job.resources) true : ServiceEvent ι)]) := by
  have stored := pooled.looked client op stage job found looking
  have held : heldSlots (history ++
      [(.acted client (.acquireResources job.jobId job.resources) true : ServiceEvent ι)]) =
        heldSlots history ++ [(client, job.jobId, job.resources)] := by
    rw [heldSlots_snoc]
    rfl
  have used := shared.pool.usedOf_acquire job.jobId job.resources granted
  constructor
  · exact (shared.pool.limits_acquire job.jobId job.resources).trans pooled.bounds
  · intro name limit limited
    rw [← pooled.bounds] at limited
    exact shared.pool.usedOf_acquire_le job.jobId job.resources granted filled limited
      (pooled.within name limit (pooled.bounds ▸ limited))
  · intro name
    rw [held, slotSum_snoc]
    have before := pooled.covered name
    have after := used name
    show _ + ResourcePool.slots job.resources name ≤
      (shared.pool.acquire job.jobId job.resources).2.usedOf name
    omega
  · exact pooled.sound
  · exact pooled.looked_update found rfl
  · intro entry member
    rw [held] at member
    rcases List.mem_append.mp member with earlier | last
    · exact pooled.held entry earlier
    · rw [List.mem_singleton.mp last]
      exact stored
  · intro jobId resources recorded
    rw [show (shared.pool.acquire job.jobId job.resources).2.holders =
      shared.pool.holders.set job.jobId job.resources from
        shared.pool.holders_acquire job.jobId job.resources granted filled,
      Dict.get?_set] at recorded
    split at recorded
    · next same =>
        obtain rfl : job.resources = resources := Option.some.inj recorded
        rw [same]
        exact ⟨filled, stored⟩
    · exact pooled.holders jobId resources recorded
  · intro other running reached task shown holds looks
    rw [held, List.mem_append, List.mem_singleton]
    rcases update_some_cases shown with ⟨rfl, same⟩ | ⟨_, shown⟩
    · obtain ⟨rfl, rfl⟩ := Prod.mk.inj same
      obtain rfl : job = task := Option.some.inj (looking.symm.trans looks)
      exact .inr rfl
    · exact .inl (pooled.owned other running reached task shown holds looks)

/-- The pool loses no more than the slots the client held. A holding that is still
recorded has the size of the job's request; one that was overwritten or popped by
another worker costs nothing. -/
theorem covered_release (pooled : Pooled view limits shared stages history) {job : Job}
    (found : stages client = some (op, stage)) (looking : stage.job = some job)
    (granted : job.resources.isEmpty = false → stage.resources = true) (name : String) :
    slotSum ((heldSlots history).eraseP fun entry => entry.1 = client ∧ entry.2.1 = job.jobId)
      name ≤ (shared.pool.release job.jobId).usedOf name := by
  have stored := pooled.looked client op stage job found looking
  have before := pooled.covered name
  have given := shared.pool.sub_le_usedOf_release job.jobId name
  rcases pooled.recorded stored with nothing | ⟨same, filled⟩
  · have less := slotSum_eraseP_le (heldSlots history)
      (fun entry => entry.1 = client ∧ entry.2.1 = job.jobId) name
      fun entry member => pooled.sound _ _ (pooled.held entry member) name
    rw [nothing] at given
    have zero : ResourcePool.slots ∅ name = 0 := rfl
    omega
  · have member := pooled.owned client op stage job found (granted filled) looking
    have less : slotSum ((heldSlots history).eraseP fun entry =>
        entry.1 = client ∧ entry.2.1 = job.jobId) name =
          slotSum (heldSlots history) name - ResourcePool.slots job.resources name := by
      apply slotSum_eraseP_of_mem member
      · simp
      · intro entry inside matched
        have requested := pooled.held entry inside
        rw [(of_decide_eq_true matched).2] at requested
        rw [requested.unique stored]
    rw [same] at given
    omega

/-- Slots given back. -/
theorem release (pooled : Pooled view limits shared stages history)
    (wide : ∀ name limit, limits.get? name = some limit → 0 ≤ limit) {job : Job}
    (found : stages client = some (op, stage)) (looking : stage.job = some job)
    (granted : job.resources.isEmpty = false → stage.resources = true) :
    Pooled view limits { shared with pool := shared.pool.release job.jobId }
      (Function.update stages client (some (op, { stage with resources := false })))
      (history ++ [(.acted client (.releaseResources job.jobId) () : ServiceEvent ι)]) := by
  have stored := pooled.looked client op stage job found looking
  have held : heldSlots (history ++
      [(.acted client (.releaseResources job.jobId) () : ServiceEvent ι)]) =
        (heldSlots history).eraseP fun entry => entry.1 = client ∧ entry.2.1 = job.jobId := by
    rw [heldSlots_snoc]
    rfl
  constructor
  · exact pooled.bounds
  · intro name limit limited
    apply shared.pool.usedOf_release_le job.jobId name (wide name limit limited)
      (pooled.within name limit limited)
    rcases pooled.recorded stored with nothing | ⟨same, _⟩
    · rw [nothing]
      exact Int.le_refl 0
    · rw [same]
      exact pooled.sound job.jobId job.resources stored name
  · intro name
    rw [held]
    exact pooled.covered_release found looking granted name
  · exact pooled.sound
  · exact pooled.looked_update found rfl
  · intro entry member
    rw [held] at member
    exact pooled.held entry (List.mem_of_mem_eraseP member)
  · intro jobId resources kept
    rw [show (shared.pool.release job.jobId).holders = shared.pool.holders.erase job.jobId from rfl,
      Dict.get?_erase] at kept
    split at kept
    · cases kept
    · exact pooled.holders jobId resources kept
  · intro other running reached task shown holds looks
    rcases update_some_cases shown with ⟨rfl, same⟩ | ⟨different, shown⟩
    · obtain ⟨rfl, rfl⟩ := Prod.mk.inj same
      cases holds
    · rw [held]
      have inside := pooled.owned other running reached task shown holds looks
      exact (List.mem_eraseP_of_neg (by simp [different])).mpr inside

/-- Every call that the protocol allows keeps the account. -/
theorem act (pooled : Pooled view limits shared stages history) {backend : QueueBackend σ}
    (lawful : backend.Lawful view)
    (wide : ∀ name limit, limits.get? name = some limit → 0 ≤ limit)
    (found : stages client = some (op, stage)) (call : WorkerCall) (allowed : stage.Allows call)
    (fresh : ∀ copy now, call = .enqueue copy now → view shared.store copy.jobId = none) :
    Pooled view limits (Shared.exec backend call shared).2
      (Function.update stages client
        (some (op, stage.update call (Shared.exec backend call shared).1)))
      (history ++ [Event.acted client call (Shared.exec backend call shared).1]) := by
  have bare : ∀ copy now, call = .enqueue copy now → copy.resources = ∅ := by
    rintro copy now rfl
    obtain ⟨_, _, _, empty⟩ := allowed
    exact empty
  have keeps := KeepsRequests.exec lawful shared call bare fresh
  have frame : ∀ {next : Stage} {event : ServiceEvent ι} {after : Shared σ},
      after.pool = shared.pool → KeepsRequests view shared after →
      event.onSlots (heldSlots history) = heldSlots history →
      (∀ job, next.job = some job → Requests view after job.jobId job.resources) →
      (∀ job, next.resources = true → next.job = some job →
        stage.resources = true ∧ stage.job = some job) →
      Pooled view limits after (Function.update stages client (some (op, next)))
        (history ++ [event]) := by
    intro next event after pool kept untouched looks less
    apply pooled.frame pool untouched kept
    · intro other running reached job shown looking
      rcases update_some_cases shown with ⟨rfl, same⟩ | ⟨_, shown⟩
      · obtain ⟨rfl, rfl⟩ := Prod.mk.inj same
        exact looks job looking
      · exact kept.kept _ _ (pooled.looked other running reached job shown looking)
    · intro other running reached job shown holds looking
      rcases update_some_cases shown with ⟨rfl, same⟩ | ⟨_, shown⟩
      · obtain ⟨rfl, rfl⟩ := Prod.mk.inj same
        obtain ⟨held, looked⟩ := less job holds looking
        exact pooled.owned other running stage job found held looked
      · exact pooled.owned other running reached job shown holds looking
  have steady : ∀ job, stage.job = some job →
      Requests view (Shared.exec backend call shared).2 job.jobId job.resources :=
    fun job looking => keeps.kept _ _ (pooled.looked client op stage job found looking)
  have steadily : call.Slotless →
      (stage.update call (Shared.exec backend call shared).1).SameSlots stage :=
    fun slotless => stage.update_sameSlots slotless _
  cases call with
  | acquireResources jobId resources =>
      obtain ⟨_, job, looking, rfl, rfl, filled⟩ := allowed
      cases granted : (shared.pool.acquire job.jobId job.resources).1 with
      | true =>
          simp only [Shared.exec, Stage.update, granted]
          exact pooled.acquire found looking filled granted
      | false =>
          have unchanged := shared.pool.acquire_refused job.jobId job.resources granted
          simp only [Shared.exec, Stage.update, granted] at steady keeps ⊢
          exact frame unchanged keeps rfl steady fun _ holds => by cases holds
  | releaseResources jobId =>
      obtain ⟨job, looking, rfl, granted⟩ := allowed
      exact pooled.release wide found looking granted
  | dequeue limit queueName =>
      obtain ⟨jobs, returned, shown⟩ := lawful.dequeue limit none queueName shared.store
      refine frame rfl keeps rfl ?_ ?_
      · intro job looking
        have head : jobs.head? = some job := by
          simpa [Shared.exec, Stage.update, returned] using looking
        exact ⟨job.ticket, (shown job (List.mem_of_head? head)).2, rfl⟩
      · intro job holds
        rw [Stage.update_dequeue_resources, allowed.2.1] at holds
        cases holds
  | acquireConcurrency jobType =>
      exact frame rfl keeps rfl steady fun _ holds looking => ⟨holds, looking⟩
  | releaseConcurrency jobType =>
      exact frame rfl keeps rfl steady fun _ holds looking => ⟨holds, looking⟩
  | _ =>
      have same := steadily trivial
      refine frame rfl keeps rfl ?_ ?_
      · intro job looking
        exact steady job (same.job.symm.trans looking)
      · intro job holds looking
        exact ⟨same.resources.symm.trans holds, same.job.symm.trans looking⟩

theorem call (pooled : Pooled view limits shared stages history) :
    Pooled view limits shared (Function.update stages client (some (op, op.start)))
      (history ++ [Event.called client op]) := by
  have start : op.start.job = none ∧ op.start.resources = false := by
    cases op <;> exact ⟨rfl, rfl⟩
  apply pooled.frame rfl rfl (.of_view fun _ => rfl)
  · intro other running reached job shown looking
    rcases update_some_cases shown with ⟨rfl, same⟩ | ⟨_, shown⟩
    · obtain ⟨rfl, rfl⟩ := Prod.mk.inj same
      rw [start.1] at looking
      cases looking
    · exact pooled.looked other running reached job shown looking
  · intro other running reached job shown holds looking
    rcases update_some_cases shown with ⟨rfl, same⟩ | ⟨_, shown⟩
    · obtain ⟨rfl, rfl⟩ := Prod.mk.inj same
      rw [start.2] at holds
      cases holds
    · exact pooled.owned other running reached job shown holds looking

theorem ret (pooled : Pooled view limits shared stages history) (value : Except PyError Bool) :
    Pooled view limits shared (Function.update stages client none)
      (history ++ [Event.returned client op value]) := by
  apply pooled.frame rfl rfl (.of_view fun _ => rfl)
  · intro other running reached job shown looking
    exact pooled.looked other running reached job (update_none_cases shown).2 looking
  · intro other running reached job shown holds looking
    exact pooled.owned other running reached job (update_none_cases shown).2 holds looking

theorem initial (shared : Shared σ) (fresh : shared.pool = .init limits)
    (wide : ∀ name limit, limits.get? name = some limit → 0 ≤ limit)
    (sound : ∀ jobId resources, Requests view shared jobId resources →
      ∀ name, 0 ≤ ResourcePool.slots resources name) :
    Pooled view limits shared (fun _ : ι => none) [] := by
  constructor
  · rw [fresh]
    rfl
  · rw [fresh]
    exact wide
  · rw [fresh]
    exact fun _ => Int.le_refl 0
  · exact sound
  · intro client op stage job shown
    cases shown
  · intro entry member
    cases member
  · rw [fresh]
    intro jobId resources recorded
    cases recorded
  · intro client op stage job shown
    cases shown

end Pooled

/-- Dead letters go under identifiers that are not in use. -/
def FreshDeadLetters (view : σ → String → Option Ticket) (config : ServiceConfig ι σ) :
    Action ι ServiceOp → Prop
  | .act client => ∀ op copy now resume log, config.client client =
      .busy op (.act (.enqueue copy now) resume) log → view config.shared.store copy.jobId = none
  | _ => True

/-- The account of the pool is right in every reachable state. -/
theorem pooled_invariant (backend : QueueBackend σ) (workers : ι → Worker)
    {view : σ → String → Option Ticket} (lawful : backend.Lawful view)
    (limits : Dict String Int)
    (wide : ∀ name limit, limits.get? name = some limit → 0 ≤ limit) :
    (serviceMachine backend workers).Invariant protocol (fun _ op => op.start)
      (fun client op => op.Leaves (workers client)) (FreshDeadLetters view)
      (Pooled view limits) := by
  apply serviceMachine_invariant lawful workers
  · intro config client op _ pooled
    exact pooled.call
  · intro config client op stage command resume log permitted busy found allowed pooled
    apply pooled.act lawful wide found command allowed
    rintro copy now rfl
    exact permitted op copy now resume log busy
  · intro config client op stage value _ _ pooled
    exact pooled.ret value

end CloudDogJobs
