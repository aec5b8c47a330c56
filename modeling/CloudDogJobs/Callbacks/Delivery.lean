import Mathlib.Algebra.Order.Ring.Abs
import CloudDogJobs.Callbacks.Durability

/-!
# Delivery by a retry policy

`CallbackManager._deliver` with the requests and the sleeps that it makes. The numbers of
a policy are floats. Their arithmetic is exact here, except that a power which no double
can hold raises `OverflowError`. The delay is computed before it is capped, so a large
delay can raise although the cap is small.

`delivers_by_policy_iff` says when a delivery does what its policy says.
-/

namespace CloudDogJobs

open Foundation

/-- The request was answered with a 2xx status. -/
def RequestOutcome.Succeeds : RequestOutcome → Prop
  | .answered statusCode => 200 ≤ statusCode ∧ statusCode < 300
  | _ => False

theorem RequestOutcome.lastError_isNone_iff {outcome : RequestOutcome} (stays : ¬ outcome.escapes) :
    outcome.lastError.isNone = true ↔ outcome.Succeeds := by
  cases outcome with
  | answered statusCode =>
      simp only [lastError, Succeeds]
      split
      · next success => exact iff_of_true rfl success
      · next failure => exact iff_of_false nofun failure
  | raised text => exact iff_of_false nofun nofun
  | escaped error => exact absurd trivial stays

theorem RequestOutcome.not_succeeds_of_escapes {outcome : RequestOutcome}
    (escapes : outcome.escapes) : ¬ outcome.Succeeds := by
  cases outcome with
  | answered statusCode => cases escapes
  | raised text => cases escapes
  | escaped error => exact nofun

namespace CallbackManager

/-- The value rounds to no finite double. -/
def Overflows (value : Rat) : Prop := 2 ^ 1024 - 2 ^ 970 ≤ |value|

instance (value : Rat) : Decidable (Overflows value) := inferInstanceAs (Decidable (_ ≤ _))

/-- `multiplier ** exponent` on floats. -/
def floatPower (multiplier : Rat) (exponent : Nat) : Except PyError Rat :=
  if Overflows (multiplier ^ exponent) then
    .error (.raised "(34, 'Numerical result out of range')")
  else .ok (multiplier ^ exponent)

/-- `_delay_for_attempt` -/
def checkedDelayForAttempt (policy : RetryPolicy) (attempt : Nat) : Except PyError Rat := do
  let power ← floatPower policy.backoffMultiplier (attempt - 1)
  return min policy.maxDelaySeconds (policy.baseDelaySeconds * power)

/-- The requests that a delivery has made, and the seconds of its sleeps. -/
structure Trace where
  requests : Nat := 0
  sleeps : List Rat := []

/-- What a delivery ends in. -/
structure Delivery where
  answer : Except PyError Bool
  manager : CallbackManager
  trace : Trace

section Loop

variable (jobId : String) (policy : RetryPolicy) (surroundings : Surroundings) (now : Int)

/-- `if attempt < policy.max_attempts: self._sleep(self._delay_for_attempt(policy, attempt))` -/
def pause (attempt : Nat) (trace : Trace) : Except PyError Unit × Trace :=
  if (attempt : Int) < policy.maxAttempts then
    match checkedDelayForAttempt policy attempt with
    | .error error => (.error error, trace)
    | .ok seconds =>
        (surroundings.sleep attempt seconds, { trace with sleeps := trace.sleeps ++ [seconds] })
  else (.ok (), trace)

/-- The loop of `_deliver` from an attempt on. -/
def deliverTracedFrom : (remaining attempt : Nat) → CallbackRegistration → CallbackManager →
    Trace → Delivery
  | 0, _, _, manager, trace => ⟨.ok false, manager, trace⟩
  | remaining + 1, attempt, callback, manager, trace =>
      let counted := { callback with attemptCount := callback.attemptCount + 1 }
      let requested := { trace with requests := trace.requests + 1 }
      match surroundings.request attempt with
      | .escaped error => ⟨.error error, manager.note jobId counted, requested⟩
      | outcome =>
          let noted := { counted with lastError := outcome.lastError }
          let next := (manager.note jobId noted).persistAttempt jobId noted now
          if outcome.lastError.isNone then ⟨.ok true, next, requested⟩
          else
            match pause policy surroundings attempt requested with
            | (.error error, paused) => ⟨.error error, next, paused⟩
            | (.ok (), paused) => deliverTracedFrom remaining (attempt + 1) noted next paused

/-- `_deliver` -/
def deliverTraced (manager : CallbackManager) (callback : CallbackRegistration) : Delivery :=
  deliverTracedFrom jobId policy surroundings now (max 1 policy.maxAttempts).toNat 1 callback
    manager {}

end Loop

section Attempts

variable {jobId : String} {policy : RetryPolicy} {surroundings : Surroundings} {now : Int}
  {attempt remaining : Nat} {callback : CallbackRegistration} {manager : CallbackManager}
  {trace : Trace}

theorem checkedDelayForAttempt_eq (policy : RetryPolicy) (attempt : Nat) :
    checkedDelayForAttempt policy attempt =
      if Overflows (policy.backoffMultiplier ^ (attempt - 1)) then
        .error (.raised "(34, 'Numerical result out of range')")
      else .ok (delayForAttempt policy attempt) := by
  unfold checkedDelayForAttempt floatPower
  split
  · rfl
  · rfl

/-- The manager after an attempt that the handler notes. -/
def afterAttempt (jobId : String) (surroundings : Surroundings) (now : Int) (attempt : Nat)
    (callback : CallbackRegistration) (manager : CallbackManager) : CallbackManager :=
  (manager.note jobId (noted surroundings attempt callback)).persistAttempt jobId
    (noted surroundings attempt callback) now

theorem get?_afterAttempt :
    (afterAttempt jobId surroundings now attempt callback manager).registry.get? jobId =
      some (noted surroundings attempt callback) :=
  Dict.get?_set_self _ _ _

theorem deliverTracedFrom_of_escapes (escapes : (surroundings.request attempt).escapes)
    (delivered : Bool) :
    (deliverTracedFrom jobId policy surroundings now (remaining + 1) attempt callback manager
      trace).answer ≠ .ok delivered := by
  rw [deliverTracedFrom]
  cases outcome : surroundings.request attempt with
  | escaped error => exact nofun
  | answered statusCode =>
      rw [outcome] at escapes
      cases escapes
  | raised text =>
      rw [outcome] at escapes
      cases escapes

theorem deliverTracedFrom_of_stays (stays : ¬ (surroundings.request attempt).escapes) :
    deliverTracedFrom jobId policy surroundings now (remaining + 1) attempt callback manager
        trace =
      let next := afterAttempt jobId surroundings now attempt callback manager
      let requested := { trace with requests := trace.requests + 1 }
      if (surroundings.request attempt).lastError.isNone then ⟨.ok true, next, requested⟩
      else
        match pause policy surroundings attempt requested with
        | (.error error, paused) => ⟨.error error, next, paused⟩
        | (.ok (), paused) =>
            deliverTracedFrom jobId policy surroundings now remaining (attempt + 1)
              (noted surroundings attempt callback) next paused := by
  simp only [afterAttempt, noted]
  rw [deliverTracedFrom]
  cases outcome : surroundings.request attempt with
  | answered statusCode => rfl
  | raised text => rfl
  | escaped error =>
      rw [outcome] at stays
      exact absurd trivial stays

/-- The attempt does not escape, and when it fails and another is left, the delay can be
computed and the sleeper returns. -/
def Clear (policy : RetryPolicy) (surroundings : Surroundings) (attempt : Nat) : Prop :=
  ¬ (surroundings.request attempt).escapes ∧
    (¬ (surroundings.request attempt).Succeeds → (attempt : Int) < policy.maxAttempts →
      ¬ Overflows (policy.backoffMultiplier ^ (attempt - 1)) ∧
        surroundings.sleep attempt (delayForAttempt policy attempt) = .ok ())

/-- Every attempt that is made is clear: an attempt is made when none before it, from the
first on, succeeds. -/
def UnhinderedFrom (policy : RetryPolicy) (surroundings : Surroundings)
    (remaining first : Nat) : Prop :=
  ∀ attempt, first ≤ attempt → attempt < first + remaining →
    (∀ earlier, first ≤ earlier → earlier < attempt →
      ¬ (surroundings.request earlier).Succeeds) →
    Clear policy surroundings attempt

theorem unhinderedFrom_of_succeeds (succeeds : (surroundings.request attempt).Succeeds) :
    UnhinderedFrom policy surroundings remaining attempt := by
  intro later from_ _ failed
  rcases Nat.eq_or_lt_of_le from_ with rfl | behind
  · exact ⟨fun escapes => RequestOutcome.not_succeeds_of_escapes escapes succeeds,
      fun fails => absurd succeeds fails⟩
  · exact absurd succeeds (failed attempt (Nat.le_refl _) behind)

theorem unhinderedFrom_succ_iff (fails : ¬ (surroundings.request attempt).Succeeds) :
    UnhinderedFrom policy surroundings (remaining + 1) attempt ↔
      Clear policy surroundings attempt ∧
        UnhinderedFrom policy surroundings remaining (attempt + 1) := by
  refine ⟨?_, ?_⟩
  · intro unhindered
    refine ⟨unhindered attempt (Nat.le_refl _) (by omega) fun _ _ _ => by omega, ?_⟩
    intro later from_ bound failed
    refine unhindered later (by omega) (by omega) fun earlier low high => ?_
    rcases Nat.eq_or_lt_of_le low with rfl | behind
    · exact fails
    · exact failed earlier behind high
  · rintro ⟨clear, unhindered⟩ later from_ bound failed
    rcases Nat.eq_or_lt_of_le from_ with rfl | behind
    · exact clear
    · exact unhindered later behind (by omega) fun earlier low high =>
        failed earlier (by omega) high

/-- After a failed attempt the loop goes on exactly when the attempt is clear. -/
theorem pause_fst_iff (stays : ¬ (surroundings.request attempt).escapes)
    (fails : ¬ (surroundings.request attempt).Succeeds) (trace : Trace) :
    (pause policy surroundings attempt trace).1 = .ok () ↔ Clear policy surroundings attempt := by
  unfold pause Clear
  rw [checkedDelayForAttempt_eq]
  by_cases more : (attempt : Int) < policy.maxAttempts
  · by_cases large : Overflows (policy.backoffMultiplier ^ (attempt - 1))
    · simp [more, large, fails]
    · simp [more, large, stays, fails]
  · simp [more, stays]

/-- A pause that returns has slept once, unless the attempts are used up. -/
theorem pause_of_ok {paused : Trace} {trace : Trace}
    (returned : pause policy surroundings attempt trace = (.ok (), paused)) :
    paused = if (attempt : Int) < policy.maxAttempts then
        { trace with sleeps := trace.sleeps ++ [delayForAttempt policy attempt] }
      else trace := by
  unfold pause at returned
  rw [checkedDelayForAttempt_eq] at returned
  split at returned
  · next more =>
      rw [if_pos more]
      split at returned
      · cases returned
      · next computed =>
          split at computed
          · cases computed
          · cases computed
            exact (congrArg Prod.snd returned).symm
  · next exhausted =>
      rw [if_neg exhausted]
      exact (congrArg Prod.snd returned).symm

/-- The loop returns exactly when every attempt that it makes is clear. -/
theorem deliverTracedFrom_returns_iff :
    (∃ delivered, (deliverTracedFrom jobId policy surroundings now remaining attempt callback
        manager trace).answer = .ok delivered) ↔
      UnhinderedFrom policy surroundings remaining attempt := by
  induction remaining generalizing attempt callback manager trace with
  | zero => exact iff_of_true ⟨false, rfl⟩ fun _ _ _ => by omega
  | succ remaining ih =>
      by_cases stays : (surroundings.request attempt).escapes
      · refine iff_of_false ?_ ?_
        · rintro ⟨delivered, returned⟩
          exact deliverTracedFrom_of_escapes stays delivered returned
        · intro unhindered
          exact (unhindered attempt (Nat.le_refl _) (by omega) fun _ _ _ => by omega).1 stays
      · rw [deliverTracedFrom_of_stays stays]
        dsimp only
        split
        · next succeeded =>
            exact iff_of_true ⟨true, rfl⟩ (unhinderedFrom_of_succeeds
              ((RequestOutcome.lastError_isNone_iff stays).mp succeeded))
        · next failed =>
            have fails := mt (RequestOutcome.lastError_isNone_iff stays).mpr failed
            rw [unhinderedFrom_succ_iff fails,
              ← pause_fst_iff stays fails { trace with requests := trace.requests + 1 }]
            split
            · next error paused hindered => simp [hindered]
            · next paused slept =>
                rw [slept, ih]
                exact (and_iff_right rfl).symm

/-- What a loop that returns has done, where `failed` attempts fail before the last one
that it makes. -/
structure Done (jobId : String) (policy : RetryPolicy) (surroundings : Surroundings)
    (remaining attempt : Nat) (callback : CallbackRegistration) (trace : Trace)
    (delivery : Delivery) (delivered : Bool) (failed : Nat) : Prop where
  bound : failed < remaining
  fails : ∀ earlier, attempt ≤ earlier → earlier < attempt + failed →
    ¬ (surroundings.request earlier).Succeeds
  last : (surroundings.request (attempt + failed)).Succeeds ∨ failed + 1 = remaining
  answer : delivered = true ↔ (surroundings.request (attempt + failed)).Succeeds
  requests : delivery.trace.requests = trace.requests + failed + 1
  sleeps : delivery.trace.sleeps =
    trace.sleeps ++ (List.range' attempt failed).map (delayForAttempt policy)
  registration : delivery.manager.registry.get? jobId = some
    { callback with
      attemptCount := callback.attemptCount + failed + 1
      lastError := (surroundings.request (attempt + failed)).lastError }

/-- A loop that ends with the attempt it starts from. -/
theorem Done.first {delivered : Bool}
    (answer : delivered = true ↔ (surroundings.request attempt).Succeeds)
    (last : (surroundings.request attempt).Succeeds ∨ remaining = 0) :
    Done jobId policy surroundings (remaining + 1) attempt callback trace
      ⟨.ok delivered, afterAttempt jobId surroundings now attempt callback manager,
        { trace with requests := trace.requests + 1 }⟩ delivered 0 where
  bound := Nat.succ_pos remaining
  fails earlier low high := absurd high (Nat.not_lt.mpr low)
  last := last.imp_right fun none => congrArg (· + 1) none.symm
  answer := answer
  requests := rfl
  sleeps := (List.append_nil _).symm
  registration := by
    rw [get?_afterAttempt]
    simp [noted]

/-- The step of the run lemma: a failed attempt before a loop that returns. -/
theorem Done.succ {delivery : Delivery} {delivered : Bool} {failed : Nat} {paused : Trace}
    (fails : ¬ (surroundings.request attempt).Succeeds)
    (more : (attempt : Int) < policy.maxAttempts)
    (slept : pause policy surroundings attempt { trace with requests := trace.requests + 1 } =
      (.ok (), paused))
    (done : Done jobId policy surroundings remaining (attempt + 1)
      (noted surroundings attempt callback) paused delivery delivered failed) :
    Done jobId policy surroundings (remaining + 1) attempt callback trace delivery delivered
      (failed + 1) := by
  have shifted : attempt + 1 + failed = attempt + (failed + 1) := by omega
  have paid := pause_of_ok slept
  rw [if_pos more] at paid
  subst paid
  obtain ⟨bound, earlier, last, answer, requests, sleeps, registration⟩ := done
  rw [shifted] at last answer registration
  refine ⟨by omega, ?_, last.imp_right fun same => by omega, answer, ?_, ?_, ?_⟩
  · intro index low high
    rcases Nat.eq_or_lt_of_le low with rfl | behind
    · exact fails
    · exact earlier index behind (by omega)
  · rw [requests]
    dsimp only
    omega
  · rw [sleeps, List.range'_succ, List.map_cons, List.append_assoc, List.singleton_append]
  · rw [registration, Option.some.injEq]
    simp only [noted, Nat.cast_add, Nat.cast_one]
    congr 1
    omega

/-- The run lemma: a loop that returns has made its attempts up to the first success, or
all of them, and has slept between them. -/
theorem done_of_returned {delivered : Bool} (begun : 1 ≤ attempt)
    (attempts : ((attempt + remaining : Nat) : Int) = max 1 policy.maxAttempts + 1)
    (left : 0 < remaining)
    (returned : (deliverTracedFrom jobId policy surroundings now remaining attempt callback
      manager trace).answer = .ok delivered) :
    ∃ failed, Done jobId policy surroundings remaining attempt callback trace
      (deliverTracedFrom jobId policy surroundings now remaining attempt callback manager trace)
      delivered failed := by
  induction remaining generalizing attempt callback manager trace with
  | zero => omega
  | succ remaining ih =>
      by_cases stays : (surroundings.request attempt).escapes
      · exact absurd returned (deliverTracedFrom_of_escapes stays delivered)
      · rw [deliverTracedFrom_of_stays stays] at returned ⊢
        dsimp only at returned ⊢
        split at returned
        · next succeeded =>
            have succeeds := (RequestOutcome.lastError_isNone_iff stays).mp succeeded
            rw [if_pos succeeded]
            cases returned
            exact ⟨0, .first (iff_of_true rfl succeeds) (.inl succeeds)⟩
        · next failed =>
            have fails := mt (RequestOutcome.lastError_isNone_iff stays).mpr failed
            rw [if_neg failed]
            split at returned
            · cases returned
            · next paused slept =>
                by_cases exhausted : remaining = 0
                · subst exhausted
                  have none : ¬ (attempt : Int) < policy.maxAttempts := by omega
                  have paid := pause_of_ok slept
                  rw [if_neg none] at paid
                  subst paid
                  cases returned
                  exact ⟨0, .first (iff_of_false nofun fails) (.inr rfl)⟩
                · obtain ⟨failed, done⟩ := ih (by omega) (by omega) (by omega) returned
                  exact ⟨failed + 1, done.succ fails (by omega) slept⟩

/-- The number of attempts that a policy allows. -/
theorem toNat_max_attempts (policy : RetryPolicy) :
    ((max 1 policy.maxAttempts).toNat : Int) = max 1 policy.maxAttempts :=
  Int.toNat_of_nonneg (by omega)

end Attempts

section Deliveries

variable (jobId : String) (policy : RetryPolicy) (surroundings : Surroundings) (now : Int)
  (callback : CallbackRegistration)

/-- What the policy says of a delivery. Its last attempt is the first that succeeds, or the
last one allowed. It answers whether an allowed attempt succeeds, makes one request for
each attempt, counts them, sleeps between them for the growing delays up to the cap, and
leaves the error of the last failure, or none after a success. -/
def Promised (delivery : Delivery) : Prop :=
  ∃ last : Nat, 1 ≤ last ∧ (last : Int) ≤ max 1 policy.maxAttempts ∧
    (∀ earlier, 1 ≤ earlier → earlier < last → ¬ (surroundings.request earlier).Succeeds) ∧
    ((surroundings.request last).Succeeds ∨ (last : Int) = max 1 policy.maxAttempts) ∧
    (∃ delivered, delivery.answer = .ok delivered ∧
      (delivered = true ↔ ∃ attempt : Nat, 1 ≤ attempt ∧
        (attempt : Int) ≤ max 1 policy.maxAttempts ∧
          (surroundings.request attempt).Succeeds)) ∧
    delivery.trace.requests = last ∧
    delivery.trace.sleeps = (List.range (last - 1)).map (fun index =>
      min policy.maxDelaySeconds (policy.baseDelaySeconds * policy.backoffMultiplier ^ index)) ∧
    ∃ registration, delivery.manager.registry.get? jobId = some registration ∧
      registration.attemptCount = callback.attemptCount + last ∧
      registration.lastError = (surroundings.request last).lastError

/-- Every attempt that a delivery makes is clear. -/
def Unhindered : Prop :=
  ∀ attempt : Nat, 1 ≤ attempt → (attempt : Int) ≤ max 1 policy.maxAttempts →
    (∀ earlier, 1 ≤ earlier → earlier < attempt →
      ¬ (surroundings.request earlier).Succeeds) →
    Clear policy surroundings attempt

theorem unhindered_iff_unhinderedFrom :
    Unhindered policy surroundings ↔
      UnhinderedFrom policy surroundings (max 1 policy.maxAttempts).toNat 1 := by
  have attempts := toNat_max_attempts policy
  refine ⟨?_, ?_⟩
  · intro unhindered attempt low high
    exact unhindered attempt low (by omega)
  · intro unhindered attempt low high
    exact unhindered attempt low (by omega)

variable {jobId policy surroundings callback}

/-- What the run lemma says of the loop from the first attempt on. -/
theorem Done.promised {delivery : Delivery} {delivered : Bool} {failed : Nat}
    (returned : delivery.answer = .ok delivered)
    (done : Done jobId policy surroundings (max 1 policy.maxAttempts).toNat 1 callback {}
      delivery delivered failed) : Promised jobId policy surroundings callback delivery := by
  have attempts := toNat_max_attempts policy
  obtain ⟨bound, fails, last, answer, requests, sleeps, registration⟩ := done
  rw [Nat.add_comm 1 failed] at fails last answer registration
  refine ⟨failed + 1, by omega, by omega, fails, last.imp_right fun same => by omega,
    ⟨delivered, returned, ?_⟩, ?_, ?_, _, registration, ?_, rfl⟩
  · rw [answer]
    refine ⟨?_, ?_⟩
    · intro succeeds
      exact ⟨failed + 1, by omega, by omega, succeeds⟩
    · rintro ⟨attempt, low, high, succeeds⟩
      -- a success is not before the last attempt, and after it no attempt is allowed
      have late : ¬ attempt < failed + 1 := fun early => fails attempt low early succeeds
      rcases last with now_ | used
      · exact now_
      · have same : attempt = failed + 1 := by omega
        rwa [← same]
  · rw [requests]
    dsimp only
    omega
  · rw [sleeps, List.nil_append, Nat.add_sub_cancel, List.range'_eq_map_range, List.map_map]
    apply List.map_congr_left
    intro index _
    simp [delayForAttempt]
  · dsimp only
    omega

/-- **When a delivery does what its policy says.** Whatever the policy, with any number of
attempts, zero and negative ones included, and whatever the requests end in, a delivery
is as promised exactly when every attempt that it makes is clear: no exception leaves
the handler, and the delay after a failed attempt that is not the last overflows no
double and is slept. -/
theorem delivers_by_policy_iff (jobId : String) (policy : RetryPolicy)
    (surroundings : Surroundings) (now : Int) (manager : CallbackManager)
    (callback : CallbackRegistration) :
    Promised jobId policy surroundings callback
        (deliverTraced jobId policy surroundings now manager callback) ↔
      Unhindered policy surroundings := by
  have attempts := toNat_max_attempts policy
  rw [unhindered_iff_unhinderedFrom, ← deliverTracedFrom_returns_iff]
  refine ⟨?_, ?_⟩
  · rintro ⟨last, _, _, _, _, ⟨delivered, returned, _⟩, _⟩
    exact ⟨delivered, returned⟩
  · rintro ⟨delivered, returned⟩
    obtain ⟨failed, done⟩ := done_of_returned (le_refl 1) (by omega) (by omega) returned
    exact done.promised returned

/-- A thousand attempts with the default delays. -/
def longPolicy : RetryPolicy := { maxAttempts := 1026 }

/-- A server that is down, and a sleeper that returns. -/
def failingServer : Surroundings where
  request _ := .answered 500
  sleep _ _ := .ok ()

/-- The power of the 1025th delay overflows, long after the delays have reached their cap. -/
theorem long_delivery_overflows :
    ¬ Promised "job-1" longPolicy failingServer { url := "https://example.com/callback" }
      (deliverTraced "job-1" longPolicy failingServer 0 ⟨∅, ∅⟩
        { url := "https://example.com/callback" }) := by
  rintro ⟨last, _, _, _, _, ⟨delivered, returned, _⟩, _⟩
  have unhindered := deliverTracedFrom_returns_iff.mp ⟨delivered, returned⟩
  have down : ∀ attempt, ¬ (failingServer.request attempt).Succeeds := by
    intro attempt
    simp [failingServer, RequestOutcome.Succeeds]
  have clear := unhindered 1025 (by omega) (by decide) fun earlier _ _ => down earlier
  obtain ⟨computed, _⟩ := clear.2 (down 1025) (by decide)
  apply computed
  have power : |(2 : Rat) ^ 1024| = 2 ^ 1024 := abs_of_nonneg (pow_nonneg zero_le_two _)
  rw [Overflows, show longPolicy.backoffMultiplier = 2 from rfl, Nat.add_sub_cancel 1024 1, power]
  exact sub_le_self _ (pow_nonneg zero_le_two _)

end Deliveries

section Refinement

variable {jobId : String} {policy : RetryPolicy} {surroundings : Surroundings} {now : Int}

/-- What a delivery meets when an overflow of a delay counts as an error of its sleep. -/
def overflowing (policy : RetryPolicy) (surroundings : Surroundings) : Surroundings where
  request := surroundings.request
  sleep attempt seconds := do
    let _ ← checkedDelayForAttempt policy attempt
    surroundings.sleep attempt seconds

theorem overflowing_sleep (attempt : Nat) (seconds : Rat) :
    (overflowing policy surroundings).sleep attempt seconds =
      if Overflows (policy.backoffMultiplier ^ (attempt - 1)) then
        .error (.raised "(34, 'Numerical result out of range')")
      else surroundings.sleep attempt seconds := by
  simp only [overflowing, checkedDelayForAttempt_eq]
  split
  · rfl
  · rfl

/-- Without its requests and sleeps, the traced loop is the loop of the manager's model. -/
theorem deliverFrom_overflowing (remaining attempt : Nat) (callback : CallbackRegistration)
    (manager : CallbackManager) (trace : Trace) :
    deliverFrom jobId policy (overflowing policy surroundings) now remaining attempt callback
        manager =
      ((deliverTracedFrom jobId policy surroundings now remaining attempt callback manager
          trace).answer,
        (deliverTracedFrom jobId policy surroundings now remaining attempt callback manager
          trace).manager) := by
  induction remaining generalizing attempt callback manager trace with
  | zero => rfl
  | succ remaining ih =>
      by_cases stays : (surroundings.request attempt).escapes
      · rw [deliverFrom, deliverTracedFrom]
        cases outcome : surroundings.request attempt with
        | escaped error =>
            simp only [overflowing, outcome]
        | answered statusCode =>
            rw [outcome] at stays
            cases stays
        | raised text =>
            rw [outcome] at stays
            cases stays
      · have calm : ¬ ((overflowing policy surroundings).request attempt).escapes := stays
        have same : noted (overflowing policy surroundings) attempt callback =
            noted surroundings attempt callback := rfl
        have answered : (overflowing policy surroundings).request = surroundings.request := rfl
        rw [deliverTracedFrom_of_stays stays, deliverFrom_of_noted calm, same, answered,
          overflowing_sleep]
        by_cases succeeded : (surroundings.request attempt).lastError.isNone = true
        · simp only [afterAttempt, succeeded, ↓reduceIte]
        · simp only [afterAttempt, pause, checkedDelayForAttempt_eq, succeeded, Bool.false_eq_true,
            ↓reduceIte]
          by_cases more : (attempt : Int) < policy.maxAttempts
          · by_cases large : Overflows (policy.backoffMultiplier ^ (attempt - 1))
            · simp only [more, large, ↓reduceIte]
            · simp only [more, large, ↓reduceIte]
              cases surroundings.sleep attempt (delayForAttempt policy attempt) with
              | error error => rfl
              | ok done => exact ih _ _ _ _
          · simp only [more, ↓reduceIte]
            exact ih _ _ _ _

/-- A delivery of the manager's model is a traced one. -/
theorem deliver_overflowing (manager : CallbackManager) (callback : CallbackRegistration) :
    manager.deliver jobId callback policy (overflowing policy surroundings) now =
      ((deliverTraced jobId policy surroundings now manager callback).answer,
        (deliverTraced jobId policy surroundings now manager callback).manager) :=
  deliverFrom_overflowing _ _ _ _ _

end Refinement

end CallbackManager

end CloudDogJobs
