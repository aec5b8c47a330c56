import CloudDogJobs.Broker.FairShare

/-!
# Usage counts and quota updates

The counter of active jobs of a tenant is a field of its quota, and
`register_tenant` puts a whole quota in the place of the old one. A ledger keeps
the submissions and completions recorded beside the scheduler. The counter
follows the ledger through every call but an update whose quota brings another
count than the one it replaces.
-/

namespace CloudDogJobs

open Foundation

namespace FairShareScheduler

/-- A call on the scheduler, with the readings of the clock it takes. -/
inductive Call
  | registerTenant (quota : TenantQuota)
  | getQuota (tenantId : String) (now : Rat)
  | canSubmit (tenantId : String) (now : Rat)
  | recordSubmit (tenantId : String) (now : Rat)
  | recordComplete (tenantId : String) (now : Rat)
  | nextEligibleTenant (candidates : List (String × Rat))

/-- The active jobs that the scheduler counts for a tenant. -/
def active (scheduler : FairShareScheduler) (tenantId : String) : Nat :=
  (scheduler.quotaOf tenantId).activeCount

section Counters

variable (scheduler : FairShareScheduler) (tenantId other : String) (now : Rat)

theorem active_store (quota : TenantQuota) :
    (scheduler.store tenantId quota).active other =
      if other = tenantId then quota.activeCount else scheduler.active other := by
  unfold active quotaOf store
  rw [Dict.get?_set]
  split <;> rfl

theorem active_registerTenant (quota : TenantQuota) :
    (scheduler.registerTenant quota).active other =
      if other = quota.tenantId then quota.activeCount else scheduler.active other :=
  scheduler.active_store quota.tenantId other quota

/-- Looking a quota up, and creating it where there is none, changes no count. -/
theorem getQuota_active :
    (scheduler.getQuota tenantId now).1.activeCount = scheduler.active tenantId ∧
      (scheduler.getQuota tenantId now).2.active other = scheduler.active other := by
  unfold getQuota
  cases found : scheduler.tenants.get? tenantId with
  | some quota => exact ⟨by rw [active, quotaOf_of_known found], rfl⟩
  | none =>
      have unused : scheduler.active tenantId = 0 := by
        rw [active, quotaOf, found]
        rfl
      refine ⟨unused.symm, ?_⟩
      refine (scheduler.active_store tenantId other _).trans ?_
      split
      · next same =>
          rw [same, unused]
          rfl
      · rfl

theorem active_canSubmit :
    (scheduler.canSubmit tenantId now).2.active other = scheduler.active other := by
  obtain ⟨own, others⟩ := scheduler.getQuota_active tenantId other now
  have stored := active_store (scheduler.getQuota tenantId now).2 tenantId other
    ((scheduler.getQuota tenantId now).1.canSubmit now).2
  rw [others, (TenantQuota.canSubmit_refreshed _ now).usage.1, own] at stored
  refine stored.trans ?_
  split
  · next same => rw [same]
  · rfl

theorem active_recordSubmit :
    (scheduler.recordSubmit tenantId now).active other =
      scheduler.active other + if other = tenantId then 1 else 0 :=
  (scheduler.recordSubmit_usage tenantId now other).1

theorem active_recordComplete :
    (scheduler.recordComplete tenantId now).active other =
      scheduler.active other - if other = tenantId then 1 else 0 := by
  obtain ⟨own, others⟩ := scheduler.getQuota_active tenantId other now
  have stored := active_store (scheduler.getQuota tenantId now).2 tenantId other
    (scheduler.getQuota tenantId now).1.recordComplete
  rw [others] at stored
  refine stored.trans ?_
  split
  · next same =>
      rw [same, ← own]
      rfl
  · rfl

theorem active_nextEligibleTenant (candidates : List (String × Rat)) :
    (scheduler.nextEligibleTenant candidates).2.active other = scheduler.active other :=
  ((selectTenant_checked scheduler candidates scheduler none (.refl scheduler)).usage other).1

end Counters

/-- The scheduler beside what was recorded for each tenant: submissions,
completions, and checks that passed and that no submission has followed yet. -/
structure Ledger where
  scheduler : FairShareScheduler
  submits : String → Nat := fun _ => 0
  completions : String → Nat := fun _ => 0
  passed : String → Nat := fun _ => 0

namespace Ledger

/-- A call, and its record. -/
def act (ledger : Ledger) : Call → Ledger
  | .registerTenant quota =>
      { ledger with scheduler := ledger.scheduler.registerTenant quota }
  | .getQuota tenantId now =>
      { ledger with scheduler := (ledger.scheduler.getQuota tenantId now).2 }
  | .canSubmit tenantId now =>
      let (allowed, scheduler) := ledger.scheduler.canSubmit tenantId now
      { ledger with
        scheduler := scheduler
        passed := Function.update ledger.passed tenantId
          (ledger.passed tenantId + allowed.toNat) }
  | .recordSubmit tenantId now =>
      { ledger with
        scheduler := ledger.scheduler.recordSubmit tenantId now
        submits := Function.update ledger.submits tenantId (ledger.submits tenantId + 1)
        passed := Function.update ledger.passed tenantId (ledger.passed tenantId - 1) }
  | .recordComplete tenantId now =>
      { ledger with
        scheduler := ledger.scheduler.recordComplete tenantId now
        completions := Function.update ledger.completions tenantId
          (ledger.completions tenantId + 1) }
  | .nextEligibleTenant candidates =>
      { ledger with scheduler := (ledger.scheduler.nextEligibleTenant candidates).2 }

/-- A submission follows a check that passed, and a completion a submission. -/
def Legal (ledger : Ledger) : Call → Prop
  | .recordSubmit tenantId _ => 0 < ledger.passed tenantId
  | .recordComplete tenantId _ => ledger.completions tenantId < ledger.submits tenantId
  | _ => True

instance (ledger : Ledger) : DecidablePred ledger.Legal
  | .recordSubmit _ _ => inferInstanceAs (Decidable (_ < _))
  | .recordComplete _ _ => inferInstanceAs (Decidable (_ < _))
  | .registerTenant _ => isTrue trivial
  | .getQuota _ _ => isTrue trivial
  | .canSubmit _ _ => isTrue trivial
  | .nextEligibleTenant _ => isTrue trivial

/-- The scheduler counts what is submitted and not completed. -/
def Accurate (ledger : Ledger) : Prop :=
  ∀ tenantId, (ledger.scheduler.active tenantId : Int) =
    ledger.submits tenantId - ledger.completions tenantId

/-- A registered quota brings the count that the scheduler has for its tenant. -/
def BringsCount (ledger : Ledger) : Call → Prop
  | .registerTenant quota => quota.activeCount = ledger.scheduler.active quota.tenantId
  | _ => True

instance (ledger : Ledger) : DecidablePred ledger.BringsCount
  | .registerTenant _ => inferInstanceAs (Decidable (_ = _))
  | .getQuota _ _ => isTrue trivial
  | .canSubmit _ _ => isTrue trivial
  | .recordSubmit _ _ => isTrue trivial
  | .recordComplete _ _ => isTrue trivial
  | .nextEligibleTenant _ => isTrue trivial

theorem accurate_of_active {ledger next : Ledger} (accurate : ledger.Accurate)
    (same : ∀ tenantId, next.scheduler.active tenantId = ledger.scheduler.active tenantId)
    (submits : next.submits = ledger.submits)
    (completions : next.completions = ledger.completions) : next.Accurate := by
  intro tenantId
  rw [same, submits, completions]
  exact accurate tenantId

/-- The step lemma: an update keeps the counts exactly when it brings the count it
replaces, and every other call keeps them. -/
theorem accurate_act_iff (ledger : Ledger) (call : Call) (legal : ledger.Legal call)
    (accurate : ledger.Accurate) : (ledger.act call).Accurate ↔ ledger.BringsCount call := by
  cases call with
  | registerTenant quota =>
      constructor
      · intro kept
        have replaced := kept quota.tenantId
        rw [act, active_registerTenant, if_pos rfl] at replaced
        have before := accurate quota.tenantId
        exact Nat.cast_injective (replaced.trans before.symm)
      · intro brings
        refine accurate_of_active accurate (fun tenantId => ?_) rfl rfl
        refine (active_registerTenant _ tenantId quota).trans ?_
        split
        · next same => rw [same, brings]
        · rfl
  | getQuota tenantId now =>
      refine iff_of_true (accurate_of_active accurate ?_ rfl rfl) trivial
      exact fun other => (ledger.scheduler.getQuota_active tenantId other now).2
  | canSubmit tenantId now =>
      refine iff_of_true (accurate_of_active accurate ?_ rfl rfl) trivial
      exact fun other => ledger.scheduler.active_canSubmit tenantId other now
  | recordSubmit tenantId now =>
      refine iff_of_true (fun other => ?_) trivial
      have before := accurate other
      simp only [act, active_recordSubmit, Function.update_apply]
      split
      · next same =>
          subst same
          omega
      · exact before
  | recordComplete tenantId now =>
      refine iff_of_true (fun other => ?_) trivial
      have before := accurate other
      simp only [act, active_recordComplete, Function.update_apply]
      split
      · next same =>
          subst same
          have recorded : ledger.completions other < ledger.submits other := legal
          omega
      · exact before
  | nextEligibleTenant candidates =>
      refine iff_of_true (accurate_of_active accurate ?_ rfl rfl) trivial
      exact fun other => ledger.scheduler.active_nextEligibleTenant other candidates

/-- The ledger of a scheduler without tenants. -/
def fresh (maxConcurrent maxPerMinute : Int) : Ledger where
  scheduler :=
    { tenants := ∅
      defaultMaxConcurrent := maxConcurrent
      defaultMaxPerMinute := maxPerMinute }

/-- **When updates keep the usage.** From a scheduler without tenants, let the
calls come in any order in which a submission follows a check that passed and a
completion a submission. After every call each tenant's count is what it has
submitted and not completed, exactly when every quota registered on the way
brings the count that its tenant has at that time. -/
theorem usage_follows_ledger_iff (maxConcurrent maxPerMinute : Int) (calls : List Call)
    (legal : Guarded act Legal (fresh maxConcurrent maxPerMinute) calls) :
    Throughout act Accurate (fresh maxConcurrent maxPerMinute) calls ↔
      Guarded act BringsCount (fresh maxConcurrent maxPerMinute) calls := by
  have start : (fresh maxConcurrent maxPerMinute).Accurate := fun _ => rfl
  exact throughout_iff_guarded_of_guarded accurate_act_iff start legal

/-- A job runs while the quota of its tenant is raised; `count` is the count that
the new quota brings. -/
def raisedQuota (count : Nat) : List Call :=
  [.canSubmit "tenant" 0, .recordSubmit "tenant" 0,
    .registerTenant { tenantId := "tenant", maxConcurrent := 20, activeCount := count,
                      minuteWindowStart := 1 },
    .recordComplete "tenant" 2]

/-- The quota that carries its count over. -/
theorem carried_count_is_kept : Throughout act Accurate (fresh 10 60) (raisedQuota 1) := by
  have legal : Guarded act Legal (fresh 10 60) (raisedQuota 1) :=
    ⟨trivial, by decide +kernel, trivial, by decide +kernel, trivial⟩
  exact (usage_follows_ledger_iff 10 60 (raisedQuota 1) legal).mpr
    ⟨trivial, trivial, by decide +kernel, trivial, trivial⟩

/-- A quota as it is written for an update, with the default count, forgets the
running job. -/
theorem update_forgets_running_job :
    ¬ ∀ (calls : List Call), Guarded act Legal (fresh 10 60) calls →
      Throughout act Accurate (fresh 10 60) calls := by
  intro kept
  have legal : Guarded act Legal (fresh 10 60) (raisedQuota 0) :=
    ⟨trivial, by decide +kernel, trivial, by decide +kernel, trivial⟩
  have counted := (kept (raisedQuota 0) legal).2.2.2.1 "tenant"
  revert counted
  decide +kernel

end Ledger

end FairShareScheduler

end CloudDogJobs
