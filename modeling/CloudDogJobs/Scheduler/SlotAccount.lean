import CloudDogJobs.Foundation.Sequence
import CloudDogJobs.Foundation.Tally
import CloudDogJobs.Scheduler.Concurrency

/-!
# The account of the concurrency slots

`ConcurrencyManager` updates and clamps four counters separately. Callers give back what
they were granted: a release names the job type, the tenant and the user of a slot that
is outstanding. Along such calls the counters are the numbers of outstanding slots, and
no clamp in `release` takes effect.
-/

namespace CloudDogJobs

open Foundation

namespace ConcurrencyLimits

/-- No limit is negative. -/
structure NonNegative (limits : ConcurrencyLimits) : Prop where
  globalMax : 0 ≤ limits.globalMax
  perTypeMax : 0 ≤ limits.perTypeMax
  perTenantMax : 0 ≤ limits.perTenantMax
  perUserMax : 0 ≤ limits.perUserMax

end ConcurrencyLimits

namespace ConcurrencyManager

/-- No counter exceeds its limit. -/
structure WithinLimits (manager : ConcurrencyManager) : Prop where
  global : (manager.global : Int) ≤ manager.limits.globalMax
  byType : ∀ name, (manager.byType.getD name 0 : Int) ≤ manager.limits.perTypeMax
  byTenant : ∀ name, (manager.byTenant.getD name 0 : Int) ≤ manager.limits.perTenantMax
  byUser : ∀ name, (manager.byUser.getD name 0 : Int) ≤ manager.limits.perUserMax

theorem withinLimits_init {limits : ConcurrencyLimits} (nonNegative : limits.NonNegative) :
    (init limits).WithinLimits :=
  ⟨nonNegative.globalMax, fun _ => nonNegative.perTypeMax, fun _ => nonNegative.perTenantMax,
    fun _ => nonNegative.perUserMax⟩

/-- A raised counter was below its limit. -/
theorem set_succ_within {counts : Dict String Nat} {limit : Int}
    (within : ∀ name, (counts.getD name 0 : Int) ≤ limit) {key : String}
    (room : (counts.getD key 0 : Int) < limit) (name : String) :
    ((counts.set key (counts.getD key 0 + 1)).getD name 0 : Int) ≤ limit := by
  rw [Dict.getD_set]
  split
  · omega
  · exact within name

theorem set_pred_within {counts : Dict String Nat} {limit : Int}
    (within : ∀ name, (counts.getD name 0 : Int) ≤ limit) (key name : String) :
    ((counts.set key (counts.getD key 0 - 1)).getD name 0 : Int) ≤ limit := by
  rw [Dict.getD_set]
  split
  · have before := within key
    omega
  · exact within name

theorem WithinLimits.acquire {manager : ConcurrencyManager} (within : manager.WithinLimits)
    (jobType tenantId userId : String) :
    (manager.acquire jobType tenantId userId).2.WithinLimits := by
  unfold ConcurrencyManager.acquire
  split
  · next room =>
      simp only [canAcquire, Bool.and_eq_true, decide_eq_true_eq] at room
      obtain ⟨⟨⟨anywhere, ofType⟩, ofTenant⟩, ofUser⟩ := room
      exact ⟨anywhere, set_succ_within within.byType ofType,
        set_succ_within within.byTenant ofTenant, set_succ_within within.byUser ofUser⟩
  · exact within

theorem WithinLimits.release {manager : ConcurrencyManager} (within : manager.WithinLimits)
    (jobType tenantId userId : String) :
    (manager.release jobType tenantId userId).WithinLimits := by
  refine ⟨?_, set_pred_within within.byType jobType, set_pred_within within.byTenant tenantId,
    set_pred_within within.byUser userId⟩
  have before := within.global
  simp only [ConcurrencyManager.release]
  omega

/-- What an acquire or a release names. -/
structure Slot where
  jobType : String
  tenantId : String
  userId : String
  deriving DecidableEq

inductive Call
  | acquire (slot : Slot)
  | release (slot : Slot)

/-- The manager with the slots that were granted and not given back. -/
structure Account where
  manager : ConcurrencyManager
  outstanding : List Slot

namespace Account

def idle (limits : ConcurrencyLimits) : Account := ⟨.init limits, []⟩

/-- The answer to an acquire. -/
def granted (account : Account) (slot : Slot) : Bool :=
  (account.manager.acquire slot.jobType slot.tenantId slot.userId).1

def perform (account : Account) : Call → Account
  | .acquire slot =>
      { manager := (account.manager.acquire slot.jobType slot.tenantId slot.userId).2
        outstanding :=
          if account.granted slot then slot :: account.outstanding else account.outstanding }
  | .release slot =>
      { manager := account.manager.release slot.jobType slot.tenantId slot.userId
        outstanding := account.outstanding.erase slot }

/-- A release names an outstanding slot. -/
def Owed (account : Account) : Call → Prop
  | .acquire _ => True
  | .release slot => slot ∈ account.outstanding

/-- The invariant. -/
structure Booked (limits : ConcurrencyLimits) (account : Account) : Prop where
  limits : account.manager.limits = limits
  global : account.manager.global = account.outstanding.length
  byType : account.manager.byType.Tallies Slot.jobType account.outstanding
  byTenant : account.manager.byTenant.Tallies Slot.tenantId account.outstanding
  byUser : account.manager.byUser.Tallies Slot.userId account.outstanding
  within : account.manager.WithinLimits

theorem Booked.idle {limits : ConcurrencyLimits} (nonNegative : limits.NonNegative) :
    (Account.idle limits).Booked limits :=
  ⟨rfl, rfl, .empty, .empty, .empty, withinLimits_init nonNegative⟩

theorem perform_of_refused {account : Account} {slot : Slot}
    (refused : account.granted slot = false) : account.perform (.acquire slot) = account := by
  have full : account.manager.canAcquire slot.jobType slot.tenantId slot.userId = false := by
    rw [← acquire_fst]
    exact refused
  rw [perform, refused, acquire_snd_of_not _ full]
  rfl

/-- The step lemma: granted or refused, given back or not, the account stays in step. -/
theorem Booked.perform {limits : ConcurrencyLimits} (account : Account) (call : Call)
    (booked : account.Booked limits) (owed : account.Owed call) :
    (account.perform call).Booked limits := by
  cases call with
  | acquire slot =>
      cases answer : account.granted slot with
      | false => rwa [perform_of_refused answer]
      | true =>
          have room : account.manager.canAcquire slot.jobType slot.tenantId slot.userId = true := by
            rw [← acquire_fst]
            exact answer
          have within := booked.within.acquire slot.jobType slot.tenantId slot.userId
          rw [Account.perform, answer, if_pos rfl]
          simp only [ConcurrencyManager.acquire, room, ↓reduceIte] at within ⊢
          exact ⟨booked.limits, congrArg (· + 1) booked.global, booked.byType.cons slot,
            booked.byTenant.cons slot, booked.byUser.cons slot, within⟩
  | release slot =>
      have shorter := List.length_erase_of_mem owed
      refine ⟨booked.limits, ?_, booked.byType.erase owed, booked.byTenant.erase owed,
        booked.byUser.erase owed, booked.within.release _ _ _⟩
      simp only [Account.perform, ConcurrencyManager.release]
      rw [shorter, booked.global]

/-- Each counter is the number of outstanding slots with its coordinate, the global
counter is the sum of each family, and no counter exceeds its limit. -/
structure InStep (limits : ConcurrencyLimits) (account : Account) : Prop where
  byType : ∀ jobType, account.manager.byType.getD jobType 0 =
    account.outstanding.countP fun slot => slot.jobType = jobType
  byTenant : ∀ tenantId, account.manager.byTenant.getD tenantId 0 =
    account.outstanding.countP fun slot => slot.tenantId = tenantId
  byUser : ∀ userId, account.manager.byUser.getD userId 0 =
    account.outstanding.countP fun slot => slot.userId = userId
  typeSum : account.manager.byType.total Nat.cast = account.manager.global
  tenantSum : account.manager.byTenant.total Nat.cast = account.manager.global
  userSum : account.manager.byUser.total Nat.cast = account.manager.global
  within : account.manager.limits = limits ∧ account.manager.WithinLimits

theorem Booked.inStep {limits : ConcurrencyLimits} (account : Account)
    (booked : account.Booked limits) : account.InStep limits where
  byType := booked.byType.count
  byTenant := booked.byTenant.count
  byUser := booked.byUser.count
  typeSum := by rw [booked.byType.sum, booked.global]
  tenantSum := by rw [booked.byTenant.sum, booked.global]
  userSum := by rw [booked.byUser.sum, booked.global]
  within := ⟨booked.limits, booked.within⟩

/-- A refused acquire changes nothing, and a release lowers its four counters by exactly
one, as it would without the clamps. -/
def Unclamped (account : Account) : Call → Prop
  | .acquire slot => account.granted slot = false → account.perform (.acquire slot) = account
  | .release slot =>
      let after := account.manager.release slot.jobType slot.tenantId slot.userId
      (after.global : Int) = account.manager.global - 1 ∧
        (after.byType.getD slot.jobType 0 : Int) =
          account.manager.byType.getD slot.jobType 0 - 1 ∧
        (after.byTenant.getD slot.tenantId 0 : Int) =
          account.manager.byTenant.getD slot.tenantId 0 - 1 ∧
        (after.byUser.getD slot.userId 0 : Int) =
          account.manager.byUser.getD slot.userId 0 - 1

theorem Booked.unclamped {limits : ConcurrencyLimits} {account : Account}
    (booked : account.Booked limits) {call : Call} (owed : account.Owed call) :
    account.Unclamped call := by
  cases call with
  | acquire slot => exact perform_of_refused
  | release slot =>
      have held : 0 < account.outstanding.length := List.length_pos_of_mem owed
      have ofType := booked.byType.pos owed
      have ofTenant := booked.byTenant.pos owed
      have ofUser := booked.byUser.pos owed
      have total := booked.global
      simp only [Unclamped, release, Dict.getD_set, ↓reduceIte]
      omega

/-- **The counters stay in step.** Let no limit be negative. Along every sequence of
acquires and releases in which a release names an outstanding slot, each counter is the
number of outstanding slots with its coordinate, the global counter is the sum of each
of the three families and no counter exceeds its limit. A refused acquire changes
nothing, and the clamps in release never take effect. -/
theorem counters_stay_in_step (limits : ConcurrencyLimits) (nonNegative : limits.NonNegative)
    (calls : List Call) (owed : Guarded perform Owed (idle limits) calls) :
    Throughout perform (InStep limits) (idle limits) calls ∧
      Guarded perform Unclamped (idle limits) calls := by
  have start := Booked.idle nonNegative
  refine ⟨.of_invariant Booked.perform Booked.inStep start owed,
    .of_invariant ?_ start owed⟩
  intro account call booked names
  exact ⟨booked.unclamped names, Booked.perform account call booked names⟩

/-- Two jobs of one type and different tenants, the second of which is given back. -/
theorem two_slots_stay_in_step :
    let calls : List Call := [.acquire ⟨"etl", "north", "ada"⟩, .acquire ⟨"etl", "south", "ada"⟩,
      .acquire ⟨"etl", "south", "ada"⟩, .release ⟨"etl", "south", "ada"⟩]
    Throughout perform (InStep ⟨10, 5, 3, 2⟩) (idle ⟨10, 5, 3, 2⟩) calls ∧
      Guarded perform Unclamped (idle ⟨10, 5, 3, 2⟩) calls := by
  intro calls
  apply counters_stay_in_step
  · exact ⟨by decide, by decide, by decide, by decide⟩
  · exact ⟨trivial, trivial, trivial, List.mem_cons_self, trivial⟩

end Account

end ConcurrencyManager

end CloudDogJobs
