import Mathlib.Algebra.Order.Ring.Rat
import CloudDogJobs.Broker.Usage
import CloudDogJobs.Foundation.FixedWindow

/-!
# Limits of a tenant

`TenantQuota.can_submit` refuses a tenant with as many active jobs as its limit, and
otherwise counts the submissions of a window that is started anew by the first such
check after a minute. While the quota of a tenant is not replaced and each submission
follows its own check, the active jobs stay below the limit, and any sixty seconds hold
at most twice the limit per minute: the window is a `Foundation.Paced` limiter.
-/

namespace CloudDogJobs

open Foundation

/-- The limits that a quota sets. -/
structure TenantLimits where
  concurrent : Int
  perMinute : Int

namespace TenantQuota

def limits (quota : TenantQuota) : TenantLimits := ⟨quota.maxConcurrent, quota.maxPerMinute⟩

/-- The quota sets these limits, and the submissions that it has counted keep them;
`admitted` are the times at which they were let in. -/
structure Obeys (limits : TenantLimits) (clock : Rat) (admitted : List Rat)
    (quota : TenantQuota) : Prop where
  same : quota.limits = limits
  active : (quota.activeCount : Int) ≤ limits.concurrent
  paced : Paced 60 limits.perMinute.toNat quota.minuteWindowStart clock quota.minuteCount admitted

variable {limits : TenantLimits} {clock now : Rat} {admitted : List Rat} {quota : TenantQuota}

theorem Obeys.advance (obeys : Obeys limits clock admitted quota) (onward : clock ≤ now) :
    Obeys limits now admitted quota :=
  ⟨obeys.same, obeys.active, obeys.paced.advance onward⟩

/-- A check keeps the limits, whatever it answers. -/
theorem Obeys.canSubmit (obeys : Obeys limits clock admitted quota) (onward : clock ≤ now) :
    Obeys limits now admitted (quota.canSubmit now).2 := by
  unfold TenantQuota.canSubmit
  split
  · exact obeys.advance onward
  · dsimp only
    split
    · next lasted => exact ⟨obeys.same, obeys.active, obeys.paced.renew onward lasted (by norm_num)⟩
    · exact obeys.advance onward

/-- What a passed check has found. -/
theorem room_of_canSubmit (allowed : (quota.canSubmit now).1 = true) :
    (quota.activeCount : Int) < quota.maxConcurrent ∧
      ((quota.canSubmit now).2.minuteCount : Int) < quota.maxPerMinute := by
  unfold TenantQuota.canSubmit at allowed ⊢
  split at allowed
  · cases allowed
  · next free =>
      rw [if_neg free]
      refine ⟨Int.not_le.mp free, ?_⟩
      have counted := of_decide_eq_true allowed
      dsimp only at counted ⊢
      split at counted
      · next lasted =>
          rw [if_pos lasted]
          exact counted
      · next lasting =>
          rw [if_neg lasting]
          exact counted

/-- A submission that follows a passed check keeps the limits. -/
theorem Obeys.recordSubmit (obeys : Obeys limits clock admitted quota) (onward : clock ≤ now)
    (allowed : (quota.canSubmit now).1 = true) :
    Obeys limits now (admitted ++ [now]) (quota.canSubmit now).2.recordSubmit := by
  have checked := obeys.canSubmit onward
  have active := (quota.canSubmit_refreshed now).usage.1
  obtain ⟨free, below⟩ := room_of_canSubmit allowed
  have sets : quota.maxConcurrent = limits.concurrent ∧ quota.maxPerMinute = limits.perMinute :=
    TenantLimits.mk.inj obeys.same
  refine ⟨checked.same, ?_, checked.paced.admitOne (le_refl now) ?_⟩
  · rw [TenantQuota.recordSubmit, active]
    push_cast
    omega
  · omega

theorem Obeys.recordComplete (obeys : Obeys limits clock admitted quota) :
    Obeys limits clock admitted quota.recordComplete := by
  refine ⟨obeys.same, ?_, obeys.paced⟩
  have active := obeys.active
  have fewer : quota.recordComplete.activeCount ≤ quota.activeCount := Nat.sub_le _ _
  omega

end TenantQuota

namespace FairShareScheduler

/-- The limits of a tenant; of one seen first, the defaults. -/
def limitsOf (scheduler : FairShareScheduler) (tenantId : String) : TenantLimits :=
  (scheduler.quotaOf tenantId).limits

/-- What was counted for the tenant keeps the limits. A tenant without a quota will get
them by default. -/
def Obeys (tenantId : String) (limits : TenantLimits) (clock : Rat) (admitted : List Rat)
    (scheduler : FairShareScheduler) : Prop :=
  match scheduler.tenants.get? tenantId with
  | some quota => quota.Obeys limits clock admitted
  | none => admitted = [] ∧ (scheduler.defaultQuota tenantId 0).limits = limits

section Steps

variable {tenantId : String} {limits : TenantLimits} {clock now : Rat} {admitted : List Rat}
  {scheduler : FairShareScheduler}

theorem Obeys.of_known (obeys : Obeys tenantId limits clock admitted scheduler)
    {quota : TenantQuota} (found : scheduler.tenants.get? tenantId = some quota) :
    quota.Obeys limits clock admitted := by
  unfold Obeys at obeys
  rw [found] at obeys
  exact obeys

theorem recordSubmit_of_known {quota : TenantQuota}
    (found : scheduler.tenants.get? tenantId = some quota) (now : Rat) :
    scheduler.recordSubmit tenantId now = scheduler.store tenantId quota.recordSubmit := by
  have looked : scheduler.getQuota tenantId now = (quota, scheduler) := by
    unfold FairShareScheduler.getQuota
    rw [found]
  unfold FairShareScheduler.recordSubmit
  rw [looked]

theorem obeys_store (scheduler : FairShareScheduler) {quota : TenantQuota}
    (obeys : quota.Obeys limits clock admitted) :
    Obeys tenantId limits clock admitted (scheduler.store tenantId quota) := by
  unfold Obeys store
  rw [Dict.get?_set_self]
  exact obeys

/-- Another tenant's quota does not matter. -/
theorem Obeys.store_of_ne (obeys : Obeys tenantId limits clock admitted scheduler)
    {other : String} (different : other ≠ tenantId) (quota : TenantQuota) :
    Obeys tenantId limits clock admitted (scheduler.store other quota) := by
  unfold Obeys store
  rw [Dict.get?_set_of_ne _ _ different.symm]
  exact obeys

theorem Obeys.advance (obeys : Obeys tenantId limits clock admitted scheduler)
    (onward : clock ≤ now) : Obeys tenantId limits now admitted scheduler := by
  unfold Obeys at obeys ⊢
  split at obeys
  · exact obeys.advance onward
  · exact obeys

variable (nonneg : 0 ≤ limits.concurrent)

include nonneg in
/-- Looking the quota up, or creating it, keeps the limits. -/
theorem Obeys.getQuota (obeys : Obeys tenantId limits clock admitted scheduler)
    (onward : clock ≤ now) (other : String) :
    Obeys tenantId limits now admitted (scheduler.getQuota other now).2 ∧
      (other = tenantId → (scheduler.getQuota other now).1.Obeys limits now admitted) := by
  have advanced := obeys.advance onward
  unfold FairShareScheduler.getQuota
  cases found : scheduler.tenants.get? other with
  | some quota =>
      refine ⟨advanced, fun same => ?_⟩
      rw [same] at found
      exact advanced.of_known found
  | none =>
      by_cases same : other = tenantId
      · subst same
        unfold Obeys at advanced
        rw [found] at advanced
        obtain ⟨rfl, defaults⟩ := advanced
        have created : (scheduler.defaultQuota other now).Obeys limits now [] :=
          ⟨defaults, nonneg, .fresh 60 _ (le_refl now)⟩
        exact ⟨obeys_store scheduler created, fun _ => created⟩
      · exact ⟨advanced.store_of_ne same _, fun equal => absurd equal same⟩

include nonneg in
/-- A call that looks a quota up and writes it back changed, when the change keeps the
limits of the tenant. -/
theorem Obeys.amend (obeys : Obeys tenantId limits clock admitted scheduler)
    (onward : clock ≤ now) (other : String) (change : TenantQuota → TenantQuota)
    (kept : other = tenantId → ∀ quota, quota.Obeys limits now admitted →
      (change quota).Obeys limits now admitted) :
    Obeys tenantId limits now admitted
      ((scheduler.getQuota other now).2.store other
        (change (scheduler.getQuota other now).1)) := by
  obtain ⟨looked, own⟩ := obeys.getQuota nonneg onward other
  by_cases same : other = tenantId
  · subst same
    exact obeys_store _ (kept rfl _ (own rfl))
  · exact looked.store_of_ne same _

/-- Readings that do not go back end where they began or later. -/
theorem le_getLastD_of_isChain {readings : List Rat}
    (onward : (clock :: readings).IsChain (· ≤ ·)) : clock ≤ readings.getLastD clock := by
  induction readings generalizing clock with
  | nil => exact le_refl clock
  | cons reading rest ih =>
      obtain ⟨first, later⟩ := List.isChain_cons_cons.mp onward
      rw [List.getLastD_cons]
      exact first.trans (ih later)

/-- The checks of a choice keep the limits. -/
theorem Obeys.selectTenant (obeys : Obeys tenantId limits clock admitted scheduler)
    {candidates : List (String × Rat)} (best : Option (String × Rat))
    (onward : (clock :: candidates.map Prod.snd).IsChain (· ≤ ·)) :
    Obeys tenantId limits ((candidates.map Prod.snd).getLastD clock) admitted
      (scheduler.selectTenant best candidates).2 := by
  induction candidates generalizing scheduler clock best with
  | nil => exact obeys
  | cons candidate rest ih =>
      unfold FairShareScheduler.selectTenant
      split
      · exact obeys.advance (le_getLastD_of_isChain onward)
      · next quota found =>
          rw [List.map_cons] at onward ⊢
          obtain ⟨first, later⟩ := List.isChain_cons_cons.mp onward
          rw [List.getLastD_cons]
          apply ih _ _ later
          by_cases same : candidate.1 = tenantId
          · rw [same] at found ⊢
            exact obeys_store _ ((obeys.of_known found).canSubmit first)
          · exact (obeys.advance first).store_of_ne same _

end Steps

/-! ## Runs -/

/-- The readings of the clock that a call takes. -/
def Call.readings : Call → List Rat
  | .registerTenant _ => []
  | .getQuota _ now => [now]
  | .canSubmit _ now => [now]
  | .recordSubmit _ now => [now]
  | .recordComplete _ now => [now]
  | .nextEligibleTenant candidates => candidates.map Prod.snd

/-- The scheduler after a call. -/
def apply (scheduler : FairShareScheduler) : Call → FairShareScheduler
  | .registerTenant quota => scheduler.registerTenant quota
  | .getQuota tenantId now => (scheduler.getQuota tenantId now).2
  | .canSubmit tenantId now => (scheduler.canSubmit tenantId now).2
  | .recordSubmit tenantId now => scheduler.recordSubmit tenantId now
  | .recordComplete tenantId now => scheduler.recordComplete tenantId now
  | .nextEligibleTenant candidates => (scheduler.nextEligibleTenant candidates).2

/-- The scheduler, the last reading of the clock, and when submissions of the tenant
were let in. -/
structure Traffic where
  scheduler : FairShareScheduler
  clock : Rat
  admitted : List Rat := []

namespace Traffic

/-- What happens, as the tenant sees it. -/
inductive Event
  /-- `can_submit` for the tenant, and `record_submit` next when it returned True -/
  | submit (now : Rat)
  | call (call : Call)

variable (tenantId : String)

def act (traffic : Traffic) : Event → Traffic
  | .submit now =>
      match traffic.scheduler.canSubmit tenantId now with
      | (true, checked) => ⟨checked.recordSubmit tenantId now, now, traffic.admitted ++ [now]⟩
      | (false, checked) => ⟨checked, now, traffic.admitted⟩
  | .call call =>
      ⟨traffic.scheduler.apply call, call.readings.getLastD traffic.clock, traffic.admitted⟩

/-- The clock does not go back, the quota of the tenant is not replaced, and it submits
through `submit` alone. -/
def Legal (traffic : Traffic) : Event → Prop
  | .submit now => traffic.clock ≤ now
  | .call call =>
      (traffic.clock :: call.readings).IsChain (· ≤ ·) ∧
        match call with
        | .registerTenant quota => quota.tenantId ≠ tenantId
        | .recordSubmit other _ => other ≠ tenantId
        | _ => True

instance (traffic : Traffic) : DecidablePred (traffic.Legal tenantId)
  | .submit _ => inferInstanceAs (Decidable (_ ≤ _))
  | .call call =>
      match call with
      | .registerTenant _ => inferInstanceAs (Decidable (_ ∧ _ ≠ _))
      | .recordSubmit _ _ => inferInstanceAs (Decidable (_ ∧ _ ≠ _))
      | .getQuota _ _ => inferInstanceAs (Decidable (_ ∧ True))
      | .canSubmit _ _ => inferInstanceAs (Decidable (_ ∧ True))
      | .recordComplete _ _ => inferInstanceAs (Decidable (_ ∧ True))
      | .nextEligibleTenant _ => inferInstanceAs (Decidable (_ ∧ True))

/-- The tenant is new to the scheduler, or its quota has counted nothing yet. -/
def Fresh (traffic : Traffic) : Prop :=
  traffic.admitted = [] ∧
  ∀ quota, traffic.scheduler.tenants.get? tenantId = some quota →
    quota.activeCount = 0 ∧ quota.minuteCount = 0 ∧ quota.minuteWindowStart ≤ traffic.clock

/-- No more active jobs than the limit, and no sixty seconds with more than twice the
submissions of the limit per minute. -/
def KeepsLimits (limits : TenantLimits) (traffic : Traffic) : Prop :=
  (traffic.scheduler.active tenantId : Int) ≤ limits.concurrent ∧
    ∀ start : Rat, (timesWithin 60 start traffic.admitted : Int) ≤ 2 * limits.perMinute

def Invariant (limits : TenantLimits) (traffic : Traffic) : Prop :=
  traffic.scheduler.Obeys tenantId limits traffic.clock traffic.admitted

variable {tenantId} {limits : TenantLimits} {traffic : Traffic}

theorem invariant_of_fresh (fresh : traffic.Fresh tenantId)
    (nonneg : 0 ≤ (traffic.scheduler.limitsOf tenantId).concurrent) :
    traffic.Invariant tenantId (traffic.scheduler.limitsOf tenantId) := by
  obtain ⟨none, unused⟩ := fresh
  unfold Invariant Obeys
  unfold limitsOf quotaOf at nonneg ⊢
  rw [none]
  cases found : traffic.scheduler.tenants.get? tenantId with
  | none => exact ⟨rfl, rfl⟩
  | some quota =>
      rw [found] at nonneg
      obtain ⟨idle, uncounted, started⟩ := unused quota found
      refine ⟨rfl, ?_, ?_⟩
      · rw [idle]
        exact nonneg
      · rw [uncounted]
        exact .fresh 60 _ started

theorem keepsLimits_of_invariant (nonneg : 0 ≤ limits.concurrent ∧ 0 ≤ limits.perMinute)
    (invariant : traffic.Invariant tenantId limits) : traffic.KeepsLimits tenantId limits := by
  unfold Invariant Obeys at invariant
  unfold KeepsLimits active quotaOf
  cases found : traffic.scheduler.tenants.get? tenantId with
  | none =>
      rw [found] at invariant
      rw [invariant.1]
      refine ⟨nonneg.1, fun start => ?_⟩
      have zero : timesWithin 60 start [] = 0 := rfl
      rw [zero]
      omega
  | some quota =>
      rw [found] at invariant
      refine ⟨invariant.active, fun start => ?_⟩
      have bounded := invariant.paced.timesWithin_le start
      omega

/-- The step lemma. -/
theorem invariant_act (nonneg : 0 ≤ limits.concurrent) (traffic : Traffic) (event : Event)
    (invariant : traffic.Invariant tenantId limits) (legal : traffic.Legal tenantId event) :
    (traffic.act tenantId event).Invariant tenantId limits := by
  cases event with
  | submit now =>
      have onward : traffic.clock ≤ now := legal
      obtain ⟨quota, current, looked⟩ : ∃ quota current,
          traffic.scheduler.getQuota tenantId now = (quota, current) := ⟨_, _, rfl⟩
      have own : quota.Obeys limits now traffic.admitted := by
        have obeys := (Obeys.getQuota nonneg invariant onward tenantId).2 rfl
        rw [looked] at obeys
        exact obeys
      have checked : traffic.scheduler.canSubmit tenantId now =
          ((quota.canSubmit now).1, current.store tenantId (quota.canSubmit now).2) := by
        unfold FairShareScheduler.canSubmit
        rw [looked]
      dsimp only [act]
      rw [checked]
      cases allowed : (quota.canSubmit now).1 with
      | false => exact obeys_store current (own.canSubmit (le_refl now))
      | true =>
          have counted := own.recordSubmit (le_refl now) allowed
          have found := Dict.get?_set_self current.tenants tenantId (quota.canSubmit now).2
          have stored : Obeys tenantId limits now (traffic.admitted ++ [now])
              ((current.store tenantId (quota.canSubmit now).2).recordSubmit tenantId now) := by
            rw [recordSubmit_of_known found]
            exact obeys_store _ counted
          exact stored
  | call call =>
      obtain ⟨onward, allowed⟩ := legal
      cases call with
      | registerTenant quota => exact Obeys.store_of_ne invariant allowed quota
      | getQuota other now =>
          exact (Obeys.getQuota nonneg invariant (List.isChain_pair.mp onward) other).1
      | canSubmit other now =>
          refine Obeys.amend nonneg invariant (List.isChain_pair.mp onward) other
            (fun quota => (quota.canSubmit now).2) ?_
          exact fun _ quota obeys => obeys.canSubmit (le_refl now)
      | recordSubmit other now =>
          refine Obeys.amend nonneg invariant (List.isChain_pair.mp onward) other _ ?_
          exact fun same => absurd same allowed
      | recordComplete other now =>
          refine Obeys.amend nonneg invariant (List.isChain_pair.mp onward) other _ ?_
          exact fun _ quota obeys => obeys.recordComplete
      | nextEligibleTenant candidates => exact Obeys.selectTenant invariant none onward

/-- **The limits of a tenant.** From a scheduler that has counted nothing for a tenant
whose limits are not negative, let the tenant submit at any times, each submission right
after its own passed check, and let jobs complete and all other calls come in any order,
on a clock that does not go back and without a new quota for the tenant. In every state
the tenant has no more active jobs than its limit, and no sixty seconds hold more than
twice the submissions of its limit per minute. -/
theorem limits_bound_tenant (tenantId : String) (traffic : Traffic)
    (fresh : traffic.Fresh tenantId)
    (nonneg : 0 ≤ (traffic.scheduler.limitsOf tenantId).concurrent ∧
      0 ≤ (traffic.scheduler.limitsOf tenantId).perMinute)
    (events : List Event) (legal : Guarded (act tenantId) (Legal tenantId) traffic events) :
    Throughout (act tenantId) (KeepsLimits tenantId (traffic.scheduler.limitsOf tenantId))
      traffic events :=
  Throughout.of_invariant (invariant_act nonneg.1)
    (fun _ invariant => keepsLimits_of_invariant nonneg invariant)
    (invariant_of_fresh fresh nonneg.1) legal

/-- A tenant with a limit of one job a minute, which runs at most one at a time. -/
def oneAMinute : Traffic where
  scheduler :=
    { tenants := ∅
      defaultMaxConcurrent := 1
      defaultMaxPerMinute := 1 }
  clock := 0

/-- It submits at the end of one window and, once that job is done, at the start of the
next: twice within a second. -/
theorem two_submissions_within_a_second :
    Throughout (act "tenant") (KeepsLimits "tenant" ⟨1, 1⟩) oneAMinute
      [.submit 59, .call (.recordComplete "tenant" 59), .submit 60] := by
  refine limits_bound_tenant "tenant" oneAMinute ⟨rfl, nofun⟩ ⟨?_, ?_⟩ _ ?_
  · exact Int.one_nonneg
  · exact Int.one_nonneg
  · exact ⟨by decide +kernel, by decide +kernel, by decide +kernel, trivial⟩

end Traffic

end FairShareScheduler

end CloudDogJobs
