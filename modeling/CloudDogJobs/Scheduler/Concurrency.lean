import CloudDogJobs.Foundation.Dict

/-!
# Concurrency manager

`scheduler/concurrency.py`. Counters never go below zero: `release` clamps them,
which is the truncated subtraction of natural numbers.
-/

namespace CloudDogJobs

open Foundation

/-- Concurrency limit definitions. -/
structure ConcurrencyLimits where
  globalMax : Int := 10
  perTypeMax : Int := 5
  perTenantMax : Int := 3
  perUserMax : Int := 2

/-- Active slots in four dimensions. -/
structure ConcurrencyManager where
  limits : ConcurrencyLimits
  global : Nat
  byType : Dict String Nat
  byTenant : Dict String Nat
  byUser : Dict String Nat

namespace ConcurrencyManager

/-- The value of an omitted `tenant_id` or `user_id` argument. -/
def unspecified : String := "default"

/-- A manager with no active slot. -/
def init (limits : ConcurrencyLimits) : ConcurrencyManager := ⟨limits, 0, ∅, ∅, ∅⟩

def canAcquire (manager : ConcurrencyManager)
    (jobType tenantId userId : String) : Bool :=
  manager.global < manager.limits.globalMax &&
    manager.byType.getD jobType 0 < manager.limits.perTypeMax &&
    manager.byTenant.getD tenantId 0 < manager.limits.perTenantMax &&
    manager.byUser.getD userId 0 < manager.limits.perUserMax

def acquire (manager : ConcurrencyManager)
    (jobType tenantId userId : String) :
    Bool × ConcurrencyManager :=
  if manager.canAcquire jobType tenantId userId then
    (true,
      { manager with
        global := manager.global + 1
        byType := manager.byType.set jobType (manager.byType.getD jobType 0 + 1)
        byTenant := manager.byTenant.set tenantId (manager.byTenant.getD tenantId 0 + 1)
        byUser := manager.byUser.set userId (manager.byUser.getD userId 0 + 1) })
  else (false, manager)

def release (manager : ConcurrencyManager)
    (jobType tenantId userId : String) : ConcurrencyManager :=
  { manager with
    global := manager.global - 1
    byType := manager.byType.set jobType (manager.byType.getD jobType 0 - 1)
    byTenant := manager.byTenant.set tenantId (manager.byTenant.getD tenantId 0 - 1)
    byUser := manager.byUser.set userId (manager.byUser.getD userId 0 - 1) }

/-- The current running count for a job type. -/
def activeByType (manager : ConcurrencyManager) (jobType : String) : Nat :=
  manager.byType.getD jobType 0

/-- Two managers show the same limits and the same value in every counter. -/
structure SameCounts (first second : ConcurrencyManager) : Prop where
  limits : first.limits = second.limits
  global : first.global = second.global
  byType : ∀ jobType, first.byType.getD jobType 0 = second.byType.getD jobType 0
  byTenant : ∀ tenantId, first.byTenant.getD tenantId 0 = second.byTenant.getD tenantId 0
  byUser : ∀ userId, first.byUser.getD userId 0 = second.byUser.getD userId 0

theorem SameCounts.refl (manager : ConcurrencyManager) : manager.SameCounts manager :=
  ⟨rfl, rfl, fun _ => rfl, fun _ => rfl, fun _ => rfl⟩

theorem SameCounts.trans {first second third : ConcurrencyManager}
    (former : first.SameCounts second) (latter : second.SameCounts third) :
    first.SameCounts third where
  limits := former.limits.trans latter.limits
  global := former.global.trans latter.global
  byType jobType := (former.byType jobType).trans (latter.byType jobType)
  byTenant tenantId := (former.byTenant tenantId).trans (latter.byTenant tenantId)
  byUser userId := (former.byUser userId).trans (latter.byUser userId)

theorem SameCounts.canAcquire {first second : ConcurrencyManager} (same : first.SameCounts second)
    (jobType tenantId userId : String) :
    first.canAcquire jobType tenantId userId = second.canAcquire jobType tenantId userId := by
  unfold ConcurrencyManager.canAcquire
  rw [same.limits, same.global, same.byType, same.byTenant, same.byUser]

@[simp] theorem acquire_fst (manager : ConcurrencyManager) (jobType tenantId userId : String) :
    (manager.acquire jobType tenantId userId).1 =
      manager.canAcquire jobType tenantId userId := by
  unfold acquire
  split
  · next room => exact room.symm
  · next full => exact (Bool.not_eq_true _ ▸ full).symm

theorem acquire_snd_of_not (manager : ConcurrencyManager) {jobType tenantId userId : String}
    (full : manager.canAcquire jobType tenantId userId = false) :
    (manager.acquire jobType tenantId userId).2 = manager := by
  simp [acquire, full]

/-- Releasing what was just acquired restores every counter. -/
theorem release_acquire (manager : ConcurrencyManager) (jobType tenantId userId : String)
    (room : manager.canAcquire jobType tenantId userId = true) :
    ((manager.acquire jobType tenantId userId).2.release jobType tenantId userId).SameCounts
      manager := by
  simp only [acquire, room, ↓reduceIte, release]
  refine ⟨rfl, Nat.add_sub_cancel _ _, ?_, ?_, ?_⟩ <;>
  · intro key
    simp only [Dict.getD_set, ↓reduceIte, Nat.add_sub_cancel]
    split
    · next same => rw [same]
    · rfl

end ConcurrencyManager

end CloudDogJobs
