import Mathlib.Algebra.Order.Field.Rat
import Mathlib.Tactic.Positivity
import Mathlib.Tactic.Linarith
import CloudDogJobs.Foundation.Dict
import CloudDogJobs.Foundation.Sequence

/-!
# Fair-share scheduler

`broker/fairshare.py`: per-tenant quotas, and the choice of the tenant that gets
the next slot. Weights, ratios and the clock are exact rationals. A quota is a
mutable object of the source that only its own tenant's entry refers to, so it
is a value of the dictionary here, written back after each call that changes it.

`picks_are_weighted_fair` is the bound on the greedy choice: no tenant is ahead
of an eligible one by more than the one slot it was granted last.
-/

namespace CloudDogJobs

open Foundation

/-- The quota of a tenant and its usage counters. -/
structure TenantQuota where
  tenantId : String
  maxConcurrent : Int := 10
  maxPerMinute : Int := 60
  weight : Rat := 1
  activeCount : Nat := 0
  minuteWindowStart : Rat
  minuteCount : Nat := 0

namespace TenantQuota

/-- Whether the tenant can submit another job; a window older than a minute is
started anew. -/
def canSubmit (quota : TenantQuota) (now : Rat) : Bool × TenantQuota :=
  if (quota.activeCount : Int) ≥ quota.maxConcurrent then (false, quota)
  else
    let current :=
      if now - quota.minuteWindowStart ≥ 60 then
        { quota with minuteWindowStart := now, minuteCount := 0 }
      else quota
    (decide ((current.minuteCount : Int) < current.maxPerMinute), current)

def recordSubmit (quota : TenantQuota) : TenantQuota :=
  { quota with activeCount := quota.activeCount + 1, minuteCount := quota.minuteCount + 1 }

def recordComplete (quota : TenantQuota) : TenantQuota :=
  { quota with activeCount := quota.activeCount - 1 }

/-- The divisor of the fair-share ratio. -/
def share (quota : TenantQuota) : Rat := max quota.weight (1 / 100)

/-- The usage the scheduler compares. -/
def ratio (quota : TenantQuota) : Rat := quota.activeCount / quota.share

/-- What a check may change: the rate window, and only to start it anew. -/
def Refreshed (quota current : TenantQuota) : Prop :=
  current = quota ∨
    ∃ start, current = { quota with minuteWindowStart := start, minuteCount := 0 }

theorem share_pos (quota : TenantQuota) : 0 < quota.share :=
  lt_max_of_lt_right (by norm_num)

theorem ratio_nonneg (quota : TenantQuota) : 0 ≤ quota.ratio :=
  div_nonneg (Nat.cast_nonneg _) quota.share_pos.le

theorem Refreshed.usage {quota current : TenantQuota} (refreshed : Refreshed quota current) :
    current.activeCount = quota.activeCount ∧ current.share = quota.share := by
  obtain rfl | ⟨start, rfl⟩ := refreshed
  · exact ⟨rfl, rfl⟩
  · exact ⟨rfl, rfl⟩

theorem Refreshed.ratio {quota current : TenantQuota} (refreshed : Refreshed quota current) :
    current.ratio = quota.ratio := by
  unfold TenantQuota.ratio
  rw [refreshed.usage.1, refreshed.usage.2]

theorem Refreshed.trans {quota current later : TenantQuota}
    (first : Refreshed quota current) (second : Refreshed current later) :
    Refreshed quota later := by
  obtain rfl | ⟨start, rfl⟩ := second
  · exact first
  · obtain rfl | ⟨_, rfl⟩ := first
    · exact .inr ⟨start, rfl⟩
    · exact .inr ⟨start, rfl⟩

theorem canSubmit_refreshed (quota : TenantQuota) (now : Rat) :
    Refreshed quota (quota.canSubmit now).2 := by
  unfold canSubmit
  split
  · exact .inl rfl
  · dsimp only
    split
    · exact .inr ⟨now, rfl⟩
    · exact .inl rfl

/-- The answer of the check, by the counters it reads. -/
theorem canSubmit_iff (quota : TenantQuota) (now : Rat) :
    (quota.canSubmit now).1 = true ↔
      (quota.activeCount : Int) < quota.maxConcurrent ∧
        (if now - quota.minuteWindowStart ≥ 60 then 0 else (quota.minuteCount : Int)) <
          quota.maxPerMinute := by
  unfold canSubmit
  split
  · next full =>
      simp only [Bool.false_eq_true, false_iff, not_and]
      omega
  · next free =>
      have below : (quota.activeCount : Int) < quota.maxConcurrent := by omega
      dsimp only
      split <;> simp [below]

/-- A tenant allowed by its quota stays allowed when an earlier check of the same
round has renewed its window. -/
theorem Refreshed.allowed {quota current : TenantQuota} (refreshed : Refreshed quota current)
    {now : Rat} (allowed : (quota.canSubmit now).1 = true) :
    (current.canSubmit now).1 = true := by
  obtain rfl | ⟨start, rfl⟩ := refreshed
  · exact allowed
  · rw [canSubmit_iff] at *
    obtain ⟨free, rate⟩ := allowed
    have positive : (0 : Int) < quota.maxPerMinute := by
      split at rate <;> omega
    exact ⟨free, by simpa using positive⟩

end TenantQuota

/-- The quotas of the known tenants, and the limits of a tenant seen first. -/
structure FairShareScheduler where
  tenants : Dict String TenantQuota
  defaultMaxConcurrent : Int := 10
  defaultMaxPerMinute : Int := 60

namespace FairShareScheduler

def registerTenant (scheduler : FairShareScheduler) (quota : TenantQuota) :
    FairShareScheduler :=
  { scheduler with tenants := scheduler.tenants.set quota.tenantId quota }

/-- The quota of a tenant seen first. -/
def defaultQuota (scheduler : FairShareScheduler) (tenantId : String) (now : Rat) :
    TenantQuota where
  tenantId := tenantId
  maxConcurrent := scheduler.defaultMaxConcurrent
  maxPerMinute := scheduler.defaultMaxPerMinute
  minuteWindowStart := now

/-- The quota of a tenant, created with the defaults when there is none; its window starts
at the reading of the clock. -/
def getQuota (scheduler : FairShareScheduler) (tenantId : String) (now : Rat) :
    TenantQuota × FairShareScheduler :=
  match scheduler.tenants.get? tenantId with
  | some quota => (quota, scheduler)
  | none =>
      let quota := scheduler.defaultQuota tenantId now
      (quota, { scheduler with tenants := scheduler.tenants.set tenantId quota })

/-- Write a changed quota back. -/
def store (scheduler : FairShareScheduler) (tenantId : String) (quota : TenantQuota) :
    FairShareScheduler :=
  { scheduler with tenants := scheduler.tenants.set tenantId quota }

/-- The check. For a tenant seen first the source reads the clock twice, for the window of
the new quota and for the check: that is `registerTenant` with the default quota of the
first reading, then a check at the second. -/
def canSubmit (scheduler : FairShareScheduler) (tenantId : String) (now : Rat) :
    Bool × FairShareScheduler :=
  let (quota, current) := scheduler.getQuota tenantId now
  let (allowed, checked) := quota.canSubmit now
  (allowed, current.store tenantId checked)

def recordSubmit (scheduler : FairShareScheduler) (tenantId : String) (now : Rat) :
    FairShareScheduler :=
  let (quota, current) := scheduler.getQuota tenantId now
  current.store tenantId quota.recordSubmit

def recordComplete (scheduler : FairShareScheduler) (tenantId : String) (now : Rat) :
    FairShareScheduler :=
  let (quota, current) := scheduler.getQuota tenantId now
  current.store tenantId quota.recordComplete

/-- The comparison of the loop; no best candidate stands for an infinite ratio. -/
def challenge (best : Option (String × Rat)) (tenantId : String) (ratio : Rat) :
    Option (String × Rat) :=
  match best with
  | none => some (tenantId, ratio)
  | some (holder, bestRatio) =>
      if ratio < bestRatio then some (tenantId, ratio) else some (holder, bestRatio)

/-- The loop of `next_eligible_tenant`. Each candidate comes with the reading of
the clock its check takes; `best` is the best candidate so far and its ratio. -/
def selectTenant (scheduler : FairShareScheduler) (best : Option (String × Rat)) :
    List (String × Rat) → Option String × FairShareScheduler
  | [] => (best.map Prod.fst, scheduler)
  | (tenantId, now) :: rest =>
      match scheduler.tenants.get? tenantId with
      -- a new tenant always gets priority
      | none => (some tenantId, scheduler)
      | some quota =>
          let (allowed, checked) := quota.canSubmit now
          (scheduler.store tenantId checked).selectTenant
            (if allowed then challenge best tenantId checked.ratio else best) rest

/-- The tenant that should get the next slot. -/
def nextEligibleTenant (scheduler : FairShareScheduler) (candidates : List (String × Rat)) :
    Option String × FairShareScheduler :=
  scheduler.selectTenant none candidates

/-! ## One choice -/

/-- The quota a call on the tenant would work with; for a tenant not seen yet the
start of the window is left open, since no comparison reads it. -/
def quotaOf (scheduler : FairShareScheduler) (tenantId : String) : TenantQuota :=
  (scheduler.tenants.get? tenantId).getD (scheduler.defaultQuota tenantId 0)

/-- A scheduler after some checks: the same tenants, their windows renewed. -/
structure Checked (scheduler current : FairShareScheduler) : Prop where
  tenants : ∀ tenantId, Option.Rel TenantQuota.Refreshed
    (scheduler.tenants.get? tenantId) (current.tenants.get? tenantId)

theorem Checked.refl (scheduler : FairShareScheduler) : Checked scheduler scheduler := by
  refine ⟨fun tenantId => ?_⟩
  cases scheduler.tenants.get? tenantId with
  | none => exact .none
  | some quota => exact .some (.inl rfl)

theorem Checked.known {scheduler current : FairShareScheduler} (checked : Checked scheduler current)
    {tenantId : String} {quota : TenantQuota}
    (found : current.tenants.get? tenantId = some quota) :
    ∃ older, scheduler.tenants.get? tenantId = some older ∧ older.Refreshed quota := by
  have related := checked.tenants tenantId
  rw [found] at related
  cases earlier : scheduler.tenants.get? tenantId with
  | none =>
      rw [earlier] at related
      cases related
  | some older =>
      rw [earlier] at related
      cases related with
      | some refreshed => exact ⟨older, rfl, refreshed⟩

theorem Checked.unknown {scheduler current : FairShareScheduler}
    (checked : Checked scheduler current) {tenantId : String}
    (absent : current.tenants.get? tenantId = none) : scheduler.tenants.get? tenantId = none := by
  have related := checked.tenants tenantId
  rw [absent] at related
  cases earlier : scheduler.tenants.get? tenantId with
  | none => rfl
  | some older =>
      rw [earlier] at related
      cases related

theorem Checked.store {scheduler current : FairShareScheduler}
    (checked : Checked scheduler current) {tenantId : String} {quota : TenantQuota}
    (found : current.tenants.get? tenantId = some quota) (now : Rat) :
    Checked scheduler (current.store tenantId (quota.canSubmit now).2) := by
  obtain ⟨older, earlier, refreshed⟩ := checked.known found
  refine ⟨fun other => ?_⟩
  unfold FairShareScheduler.store
  rw [Dict.get?_set]
  split
  · next same =>
      subst same
      rw [earlier]
      exact .some (refreshed.trans (quota.canSubmit_refreshed now))
  · exact checked.tenants other

theorem challenge_spec (best : Option (String × Rat)) (tenantId : String) (ratio : Rat) :
    ∃ holder least, challenge best tenantId ratio = some (holder, least) ∧ least ≤ ratio ∧
      (∀ rival bestRatio, best = some (rival, bestRatio) → least ≤ bestRatio) ∧
      ((holder, least) = (tenantId, ratio) ∨ best = some (holder, least)) := by
  unfold challenge
  split
  · exact ⟨tenantId, ratio, rfl, le_refl _, nofun, .inl rfl⟩
  · next holder bestRatio =>
      split
      · next below =>
          refine ⟨tenantId, ratio, rfl, le_refl _, ?_, .inl rfl⟩
          intro rival other same
          cases same
          exact below.le
      · next above =>
          refine ⟨holder, bestRatio, rfl, not_lt.mp above, ?_, .inr rfl⟩
          intro rival other same
          cases same
          exact le_refl _

theorem selectTenant_checked (start : FairShareScheduler) (candidates : List (String × Rat))
    (scheduler : FairShareScheduler) (best : Option (String × Rat))
    (checked : Checked start scheduler) :
    Checked start (scheduler.selectTenant best candidates).2 := by
  induction candidates generalizing scheduler best with
  | nil => exact checked
  | cons candidate rest ih =>
      unfold selectTenant
      split
      · exact checked
      · next quota found => exact ih _ _ (checked.store found candidate.2)

theorem canSubmit_of_known {scheduler : FairShareScheduler} {tenantId : String}
    {quota : TenantQuota} (found : scheduler.tenants.get? tenantId = some quota) (now : Rat) :
    (scheduler.canSubmit tenantId now).1 = (quota.canSubmit now).1 := by
  simp [canSubmit, getQuota, found]

theorem quotaOf_of_known {scheduler : FairShareScheduler} {tenantId : String}
    {quota : TenantQuota} (found : scheduler.tenants.get? tenantId = some quota) :
    scheduler.quotaOf tenantId = quota := by
  simp [quotaOf, found]

/-- The tenant chosen is one seen first, or its ratio is least among the
candidates that can submit and the best one so far. -/
theorem selectTenant_least (start : FairShareScheduler) (candidates : List (String × Rat))
    (scheduler : FairShareScheduler) (best : Option (String × Rat))
    (checked : Checked start scheduler)
    (honest : ∀ holder ratio, best = some (holder, ratio) →
      ratio = (start.quotaOf holder).ratio) (pick : String)
    (picked : (scheduler.selectTenant best candidates).1 = some pick) :
    start.tenants.get? pick = none ∨
      (∀ holder ratio, best = some (holder, ratio) → (start.quotaOf pick).ratio ≤ ratio) ∧
        ∀ tenantId now, (tenantId, now) ∈ candidates → (start.canSubmit tenantId now).1 = true →
          (start.quotaOf pick).ratio ≤ (start.quotaOf tenantId).ratio := by
  induction candidates generalizing scheduler best with
  | nil =>
      obtain ⟨⟨holder, ratio⟩, rfl, rfl⟩ := Option.map_eq_some_iff.mp picked
      refine .inr ⟨?_, nofun⟩
      intro rival bestRatio same
      cases same
      exact (honest _ _ rfl).ge
  | cons candidate rest ih =>
      obtain ⟨tenantId, now⟩ := candidate
      unfold selectTenant at picked
      split at picked
      · next absent =>
          cases picked
          exact .inl (checked.unknown absent)
      · next quota found =>
          obtain ⟨older, earlier, refreshed⟩ := checked.known found
          have stored := checked.store found now
          have ratio : (quota.canSubmit now).2.ratio = (start.quotaOf tenantId).ratio := by
            rw [quotaOf_of_known earlier]
            exact (refreshed.trans (quota.canSubmit_refreshed now)).ratio
          cases allowed : (quota.canSubmit now).1 with
          | true =>
              simp only [allowed, ↓reduceIte] at picked
              obtain ⟨holder, least, chosen, own, rivals, origin⟩ :=
                challenge_spec best tenantId (quota.canSubmit now).2.ratio
              rw [chosen] at picked
              have honestNext : ∀ rival other, some (holder, least) = some (rival, other) →
                  other = (start.quotaOf rival).ratio := by
                intro rival other same
                cases same
                rcases origin with fresh | kept
                · cases fresh
                  exact ratio
                · exact honest _ _ kept
              refine (ih _ _ stored honestNext picked).imp_right ?_
              intro below
              have ahead := below.1 _ _ rfl
              refine ⟨fun rival other same => ahead.trans (rivals _ _ same), ?_⟩
              intro other reading member passes
              rcases List.mem_cons.mp member with same | member
              · cases same
                exact (ahead.trans own).trans ratio.le
              · exact below.2 other reading member passes
          | false =>
              simp only [allowed, Bool.false_eq_true, ↓reduceIte] at picked
              refine (ih _ _ stored honest picked).imp_right ?_
              intro below
              refine ⟨below.1, ?_⟩
              intro other reading member passes
              rcases List.mem_cons.mp member with same | member
              · cases same
                rw [canSubmit_of_known earlier] at passes
                rw [refreshed.allowed passes] at allowed
                cases allowed
              · exact below.2 other reading member passes

/-! ## Rounds -/

/-- One round: the candidates with the readings of their checks, and the reading
the recorded submission takes. -/
structure Round where
  candidates : List (String × Rat)
  recordedAt : Rat

/-- Choose a tenant and record a submission for it. -/
def playRound (scheduler : FairShareScheduler) (round : Round) : FairShareScheduler :=
  match scheduler.nextEligibleTenant round.candidates with
  | (some tenantId, current) => current.recordSubmit tenantId round.recordedAt
  | (none, current) => current

/-- The tenant is a candidate of the round and passes the check there. -/
def Passes (tenantId : String) (scheduler : FairShareScheduler) (round : Round) : Prop :=
  ∃ now, (tenantId, now) ∈ round.candidates ∧ (scheduler.canSubmit tenantId now).1 = true

/-- No tenant is ahead of the given one by more than its last slot. -/
def FairTo (tenantId : String) (scheduler : FairShareScheduler) : Prop :=
  ∀ other, (((scheduler.quotaOf other).activeCount : Rat) - 1) / (scheduler.quotaOf other).share ≤
    (scheduler.quotaOf tenantId).ratio

theorem Checked.usage {scheduler current : FairShareScheduler}
    (checked : Checked scheduler current) (tenantId : String) :
    (current.quotaOf tenantId).activeCount = (scheduler.quotaOf tenantId).activeCount ∧
      (current.quotaOf tenantId).share = (scheduler.quotaOf tenantId).share := by
  cases found : current.tenants.get? tenantId with
  | none =>
      have absent := checked.unknown found
      simp [quotaOf, found, absent, defaultQuota, TenantQuota.share]
  | some quota =>
      obtain ⟨older, earlier, refreshed⟩ := checked.known found
      rw [quotaOf_of_known found, quotaOf_of_known earlier]
      exact refreshed.usage

theorem recordSubmit_usage (scheduler : FairShareScheduler) (tenantId : String) (now : Rat)
    (other : String) :
    ((scheduler.recordSubmit tenantId now).quotaOf other).activeCount =
        (scheduler.quotaOf other).activeCount + (if other = tenantId then 1 else 0) ∧
      ((scheduler.recordSubmit tenantId now).quotaOf other).share =
        (scheduler.quotaOf other).share := by
  unfold recordSubmit getQuota
  by_cases same : other = tenantId
  · subst same
    cases found : scheduler.tenants.get? other with
    | none =>
        simp [quotaOf, found, store, TenantQuota.recordSubmit, defaultQuota, TenantQuota.share]
    | some quota =>
        simp [quotaOf, found, store, TenantQuota.recordSubmit, TenantQuota.share]
  · cases found : scheduler.tenants.get? tenantId with
    | none =>
        simp [quotaOf, store, same, Dict.get?_set_of_ne, defaultQuota]
    | some quota =>
        simp [quotaOf, store, same, Dict.get?_set_of_ne, defaultQuota]

/-- What one round does to the usage of every tenant: the slot goes to a tenant
seen first, or to one whose ratio was least among those that can submit. -/
theorem playRound_usage (scheduler : FairShareScheduler) (round : Round) :
    ∃ pick : Option String,
      (∀ tenantId,
        ((scheduler.playRound round).quotaOf tenantId).activeCount =
            (scheduler.quotaOf tenantId).activeCount + (if some tenantId = pick then 1 else 0) ∧
          ((scheduler.playRound round).quotaOf tenantId).share =
            (scheduler.quotaOf tenantId).share) ∧
      ∀ winner, pick = some winner →
        (scheduler.quotaOf winner).activeCount = 0 ∨
          ∀ tenantId now, (tenantId, now) ∈ round.candidates →
            (scheduler.canSubmit tenantId now).1 = true →
              (scheduler.quotaOf winner).ratio ≤ (scheduler.quotaOf tenantId).ratio := by
  have checked := selectTenant_checked scheduler round.candidates scheduler none (.refl scheduler)
  have least := selectTenant_least scheduler round.candidates scheduler none
    (.refl scheduler) nofun
  unfold playRound nextEligibleTenant
  generalize chosen : scheduler.selectTenant none round.candidates = result at *
  obtain ⟨pick, current⟩ := result
  refine ⟨pick, ?_, ?_⟩
  · intro tenantId
    cases pick with
    | none => simpa using checked.usage tenantId
    | some winner =>
        have recorded := current.recordSubmit_usage winner round.recordedAt tenantId
        rw [(checked.usage tenantId).1, (checked.usage tenantId).2] at recorded
        simpa using recorded
  · intro winner picked
    rcases least winner picked with unseen | below
    · simp [quotaOf, unseen, defaultQuota]
    · exact .inr below.2

theorem playRound_fairTo {scheduler : FairShareScheduler} {tenantId : String} {round : Round}
    (fair : FairTo tenantId scheduler) (passes : Passes tenantId scheduler round) :
    FairTo tenantId (scheduler.playRound round) := by
  obtain ⟨pick, usage, choice⟩ := scheduler.playRound_usage round
  obtain ⟨now, candidate, allowed⟩ := passes
  have grown : (scheduler.quotaOf tenantId).ratio ≤
      ((scheduler.playRound round).quotaOf tenantId).ratio := by
    unfold TenantQuota.ratio
    rw [(usage tenantId).1, (usage tenantId).2]
    apply div_le_div_of_nonneg_right _ (TenantQuota.share_pos _).le
    exact_mod_cast Nat.le_add_right _ _
  intro other
  rw [(usage other).1, (usage other).2]
  by_cases won : some other = pick
  · -- the slot just granted is the one the bound allows for
    have paid : (((scheduler.quotaOf other).activeCount + 1 : Nat) - 1 : Rat) /
        (scheduler.quotaOf other).share = (scheduler.quotaOf other).ratio := by
      rw [TenantQuota.ratio]
      push_cast
      rw [add_sub_cancel_right]
    rw [if_pos won, paid]
    rcases choice other won.symm with unused | least
    · have zero : (scheduler.quotaOf other).ratio = 0 := by
        simp [TenantQuota.ratio, unused]
      rw [zero]
      exact TenantQuota.ratio_nonneg _
    · exact (least tenantId now candidate allowed).trans grown
  · rw [if_neg won, Nat.add_zero]
    exact (fair other).trans grown

theorem fairTo_of_unused {scheduler : FairShareScheduler}
    (unused : ∀ tenantId, (scheduler.quotaOf tenantId).activeCount = 0) (tenantId : String) :
    FairTo tenantId scheduler := by
  intro other
  rw [unused other]
  have behind : ((0 : Nat) - 1 : Rat) / (scheduler.quotaOf other).share ≤ 0 :=
    div_nonpos_of_nonpos_of_nonneg (by norm_num) (TenantQuota.share_pos _).le
  exact behind.trans (TenantQuota.ratio_nonneg _)

/-- **Picks are weighted-fair.** From tenants without active jobs, after every
round no tenant's usage, less the slot granted last, exceeds the usage of a
tenant that was a candidate and could submit in every round. Tenants may be seen
first in any round, and the candidates may come in any order. -/
theorem picks_are_weighted_fair (scheduler : FairShareScheduler) (rounds : List Round)
    (unused : ∀ tenantId, (scheduler.quotaOf tenantId).activeCount = 0)
    (first second : String)
    (passes : Guarded playRound (Passes second) scheduler rounds) :
    Throughout playRound (fun current =>
        ((current.quotaOf first).activeCount - 1 : Rat) /
            max (current.quotaOf first).weight (1 / 100) ≤
          (current.quotaOf second).activeCount / max (current.quotaOf second).weight (1 / 100))
      scheduler rounds := by
  have kept : ∀ current round, FairTo second current → Passes second current round →
      FairTo second (playRound current round) := by
    intro current round fair passing
    exact playRound_fairTo fair passing
  exact Throughout.of_invariant kept (fun _ fair => fair first)
    (fairTo_of_unused unused second) passes

/-- Three rounds with a tenant of double weight and one seen first. -/
def sampleRounds : List Round :=
  [⟨[("heavy", 0), ("light", 0)], 0⟩, ⟨[("light", 1), ("heavy", 1)], 1⟩,
    ⟨[("heavy", 2), ("light", 2)], 2⟩]

def sampleScheduler : FairShareScheduler :=
  { tenants := Dict.ofList [("heavy",
      { tenantId := "heavy", weight := 2, minuteWindowStart := 0 })] }

/-- The heavy tenant gets two of the three slots, and is never more than a slot
ahead of its share. -/
theorem sample_rounds_are_fair :
    ((sampleRounds.foldl playRound sampleScheduler).quotaOf "heavy").activeCount = 2 ∧
      Throughout playRound (fun current =>
          ((current.quotaOf "heavy").activeCount - 1 : Rat) /
              max (current.quotaOf "heavy").weight (1 / 100) ≤
            (current.quotaOf "light").activeCount / max (current.quotaOf "light").weight (1 / 100))
        sampleScheduler sampleRounds := by
  have unused : ∀ tenantId, (sampleScheduler.quotaOf tenantId).activeCount = 0 := by
    intro tenantId
    by_cases heavy : tenantId = "heavy"
    · subst heavy
      rfl
    · simp [quotaOf, sampleScheduler, Dict.ofList, Dict.get?_set_of_ne, heavy, defaultQuota]
  have passes : Guarded playRound (Passes "light") sampleScheduler sampleRounds :=
    ⟨⟨0, by decide, by decide +kernel⟩, ⟨1, by decide, by decide +kernel⟩,
      ⟨2, by decide, by decide +kernel⟩, trivial⟩
  exact ⟨by decide +kernel, picks_are_weighted_fair _ _ unused "heavy" "light" passes⟩

end FairShareScheduler

end CloudDogJobs
