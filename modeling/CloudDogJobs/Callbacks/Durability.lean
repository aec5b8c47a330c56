import CloudDogJobs.Callbacks.Manager
import CloudDogJobs.Security.Payload

/-!
# Durable registrations

The registry in memory against the one that a second manager would load. A row
decodes to the registration it was written from, and every call writes both
copies, except for an attempt whose exception leaves the handler: its count is
noted in memory only. `registrations_durable_iff` says so for whole runs.
-/

namespace CloudDogJobs

open Foundation

namespace CallbackManager

/-- A manager opened on the same database loads the same registrations, in
whichever order the rows are returned. -/
def Durable (manager : CallbackManager) : Prop :=
  ∀ rows : List (String × CallbackRow), rows.Perm manager.table.entries →
    ∃ loaded, loadPersisted rows = .ok loaded ∧
      ∀ jobId, loaded.get? jobId = manager.registry.get? jobId

/-- Each row decodes to the registration of its job, and there are no others. -/
def Faithful (manager : CallbackManager) : Prop :=
  ∀ jobId, (manager.table.get? jobId).map registrationOf =
    (manager.registry.get? jobId).map Except.ok

/-! ## Loading -/

/-- The loader inverts the writer. -/
theorem registrationOf_rowOf (registration : CallbackRegistration) (createdAt updatedAt : Int) :
    registrationOf (rowOf registration createdAt updatedAt) = .ok registration := rfl

/-- The attempt columns are read back as they are. -/
theorem registrationOf_attempt (row : CallbackRow) (attemptCount : Int)
    (lastError : Option String) (updatedAt : Int) :
    registrationOf { row with
        attemptCount := attemptCount, lastError := lastError, updatedAt := updatedAt } =
      (registrationOf row).map fun registration =>
        { registration with attemptCount := attemptCount, lastError := lastError } := by
  unfold registrationOf
  cases normaliseFields JsonNumber.toInt JsonNumber.toFloat row.retryPolicy with
  | error error => rfl
  | ok policy => rfl

/-- A successful load has decoded every row, under its key. -/
theorem get?_of_loadRows {rows : List (String × CallbackRow)}
    (distinct : (rows.map Prod.fst).Nodup) {registry loaded : Dict String CallbackRegistration}
    (load : loadRows rows registry = .ok loaded) (jobId : String) :
    (loaded.get? jobId).map Except.ok =
      ((rows.lookup jobId).map registrationOf).or ((registry.get? jobId).map Except.ok) := by
  induction rows generalizing registry with
  | nil =>
      cases load
      rfl
  | cons entry rest ih =>
      obtain ⟨key, row⟩ := entry
      rw [List.map_cons, List.nodup_cons] at distinct
      obtain ⟨registration, decoded, load⟩ := exists_of_bind_ok load
      rw [ih distinct.2 load, Dict.get?_set]
      by_cases same : jobId = key
      · subst same
        rw [Dict.lookup_eq_none_of_not_mem distinct.2 distinct.1, List.lookup_cons_self, if_pos rfl]
        simp [decoded]
      · have unequal : (jobId == key) = false := beq_false_of_ne same
        rw [if_neg same, List.lookup_cons, unequal]

theorem loadRows_returns {rows : List (String × CallbackRow)}
    (decodes : ∀ entry ∈ rows, ∃ registration, registrationOf entry.2 = .ok registration)
    (registry : Dict String CallbackRegistration) :
    ∃ loaded, loadRows rows registry = .ok loaded := by
  induction rows generalizing registry with
  | nil => exact ⟨registry, rfl⟩
  | cons entry rest ih =>
      obtain ⟨registration, decoded⟩ := decodes entry List.mem_cons_self
      obtain ⟨loaded, load⟩ := ih (fun other member =>
        decodes other (List.mem_cons_of_mem _ member)) (registry.set entry.1 registration)
      refine ⟨loaded, ?_⟩
      rw [loadRows, decoded]
      exact load

theorem lookup_of_perm {rows : List (String × CallbackRow)} {table : Dict String CallbackRow}
    (perm : rows.Perm table.entries) (jobId : String) : rows.lookup jobId = table.get? jobId := by
  have distinct : (rows.map Prod.fst).Nodup := (perm.map Prod.fst).nodup_iff.mpr table.nodup
  apply Option.ext
  intro row
  rw [← Dict.mem_iff_lookup distinct, ← table.mem_entries_iff]
  exact perm.mem_iff

theorem durable_iff_faithful (manager : CallbackManager) :
    manager.Durable ↔ manager.Faithful := by
  constructor
  · intro durable jobId
    obtain ⟨loaded, load, same⟩ := durable manager.table.entries (.refl _)
    have decoded := get?_of_loadRows manager.table.nodup load jobId
    rw [same jobId, Dict.get?_emptyCollection, Option.map_none, Option.or_none] at decoded
    exact decoded.symm
  · intro faithful rows perm
    have distinct : (rows.map Prod.fst).Nodup :=
      (perm.map Prod.fst).nodup_iff.mpr manager.table.nodup
    have decodes : ∀ entry ∈ rows, ∃ registration, registrationOf entry.2 = .ok registration := by
      intro entry member
      have stored := (manager.table.mem_entries_iff entry.1 entry.2).mp (perm.mem_iff.mp member)
      have decoded := faithful entry.1
      rw [stored] at decoded
      obtain ⟨registration, _, same⟩ := Option.map_eq_some_iff.mp decoded.symm
      exact ⟨registration, same.symm⟩
    obtain ⟨loaded, load⟩ := loadRows_returns decodes ∅
    refine ⟨loaded, load, ?_⟩
    intro jobId
    have decoded := get?_of_loadRows distinct load jobId
    rw [lookup_of_perm perm, faithful jobId, Dict.get?_emptyCollection, Option.map_none,
      Option.or_none] at decoded
    exact Option.map_injective (fun _ _ => Except.ok.inj) decoded

/-- A manager that was just opened is durable. -/
theorem durable_of_loaded {table : Dict String CallbackRow}
    {registry : Dict String CallbackRegistration}
    (opened : loadPersisted table.entries = .ok registry) :
    (⟨registry, table⟩ : CallbackManager).Durable := by
  rw [durable_iff_faithful]
  intro jobId
  have decoded := get?_of_loadRows table.nodup opened jobId
  rw [Dict.get?_emptyCollection, Option.map_none, Option.or_none] at decoded
  exact decoded.symm

/-! ## One call -/

variable {manager : CallbackManager} {jobId : String}

theorem faithful_record (faithful : manager.Faithful) (jobId : String)
    (registration : CallbackRegistration) (now : Int) :
    (manager.record jobId registration now).Faithful := by
  intro other
  have written : ∀ createdAt,
      ((manager.table.set jobId (rowOf registration createdAt now)).get? other).map
          registrationOf =
        ((manager.registry.set jobId registration).get? other).map Except.ok := by
    intro createdAt
    rw [Dict.get?_set, Dict.get?_set]
    split
    · exact congrArg some (registrationOf_rowOf registration createdAt now)
    · exact faithful other
  unfold record persist
  split
  · exact written now
  · next row _ => exact written row.createdAt

theorem faithful_unregister (faithful : manager.Faithful) (jobId : String) :
    (manager.unregister jobId).2.Faithful := by
  intro other
  simp only [unregister]
  rw [Dict.get?_erase, Dict.get?_erase]
  split
  · rfl
  · exact faithful other

/-- An attempt that the handler notes is written to both copies. -/
theorem faithful_attempt (faithful : manager.Faithful) {callback : CallbackRegistration}
    (held : manager.registry.get? jobId = some callback) (attemptCount : Int)
    (lastError : Option String) (now : Int) :
    ((manager.note jobId
        { callback with attemptCount := attemptCount, lastError := lastError }).persistAttempt jobId
          { callback with attemptCount := attemptCount, lastError := lastError } now).Faithful := by
  intro other
  simp only [note, persistAttempt]
  rw [Dict.get?_modify, Dict.get?_set]
  split
  · next same =>
      subst same
      have decoded := faithful other
      rw [held] at decoded
      obtain ⟨row, stored, decodes⟩ := Option.map_eq_some_iff.mp decoded
      rw [stored]
      simp only [Option.map_some, registrationOf_attempt, decodes]
      rfl
  · exact faithful other

/-- An attempt that is counted in memory only sets the copies apart. -/
theorem not_faithful_note (faithful : manager.Faithful) {callback : CallbackRegistration}
    (held : manager.registry.get? jobId = some callback) :
    ¬ (manager.note jobId
      { callback with attemptCount := callback.attemptCount + 1 }).Faithful := by
  intro after
  have before := faithful jobId
  have counted := after jobId
  simp only [note, Dict.get?_set_self] at counted
  rw [before, held] at counted
  have same := congrArg CallbackRegistration.attemptCount
    (Except.ok.inj (Option.some.inj counted))
  dsimp only at same
  omega

/-- Among the attempts from `attempt` on, one raises out of the handler, and every
earlier one fails and is followed by the next. -/
def EscapesFrom (policy : RetryPolicy) (surroundings : Surroundings)
    (remaining attempt : Nat) : Prop :=
  ∃ last, attempt ≤ last ∧ last < attempt + remaining ∧ (surroundings.request last).escapes ∧
    ∀ earlier, attempt ≤ earlier → earlier < last →
      (surroundings.request earlier).fails ∧
        ((earlier : Int) < policy.maxAttempts →
          surroundings.sleep earlier (delayForAttempt policy earlier) = .ok ())

section Attempts

variable {policy : RetryPolicy} {surroundings : Surroundings} {remaining attempt : Nat}

theorem escapesFrom_of_escaped (escapes : (surroundings.request attempt).escapes) :
    EscapesFrom policy surroundings (remaining + 1) attempt :=
  ⟨attempt, le_refl _, by omega, escapes, fun _ _ _ => by omega⟩

/-- A delivery that ends at an attempt without an escape has none. -/
theorem not_escapesFrom_of_ends (stays : ¬ (surroundings.request attempt).escapes)
    (ends : ¬ ((surroundings.request attempt).fails ∧
      ((attempt : Int) < policy.maxAttempts →
        surroundings.sleep attempt (delayForAttempt policy attempt) = .ok ()))) :
    ¬ EscapesFrom policy surroundings remaining attempt := by
  intro escaping
  obtain ⟨last, from_, _, escapes, earlier⟩ := escaping
  rcases Nat.eq_or_lt_of_le from_ with rfl | later
  · exact stays escapes
  · exact ends (earlier attempt (le_refl _) later)

theorem escapesFrom_succ_iff (stays : ¬ (surroundings.request attempt).escapes)
    (continues : (surroundings.request attempt).fails ∧
      ((attempt : Int) < policy.maxAttempts →
        surroundings.sleep attempt (delayForAttempt policy attempt) = .ok ())) :
    EscapesFrom policy surroundings (remaining + 1) attempt ↔
      EscapesFrom policy surroundings remaining (attempt + 1) := by
  constructor
  · intro escaping
    obtain ⟨last, from_, bound, escapes, earlier⟩ := escaping
    have later : attempt < last := by
      rcases Nat.eq_or_lt_of_le from_ with rfl | later
      · exact absurd escapes stays
      · exact later
    exact ⟨last, later, by omega, escapes, fun index low high => earlier index (by omega) high⟩
  · intro escaping
    obtain ⟨last, from_, bound, escapes, earlier⟩ := escaping
    refine ⟨last, by omega, by omega, escapes, fun index low high => ?_⟩
    rcases Nat.eq_or_lt_of_le low with rfl | later
    · exact continues
    · exact earlier index later high

/-- The registration after an attempt that the handler notes. -/
def noted (surroundings : Surroundings) (attempt : Nat) (callback : CallbackRegistration) :
    CallbackRegistration :=
  { callback with
    attemptCount := callback.attemptCount + 1
    lastError := (surroundings.request attempt).lastError }

/-- One attempt that the handler notes, and what follows it. -/
theorem deliverFrom_of_noted (stays : ¬ (surroundings.request attempt).escapes) (jobId : String)
    (now : Int) (callback : CallbackRegistration) (manager : CallbackManager) :
    deliverFrom jobId policy surroundings now (remaining + 1) attempt callback manager =
      let next := (manager.note jobId (noted surroundings attempt callback)).persistAttempt jobId
        (noted surroundings attempt callback) now
      if (surroundings.request attempt).lastError.isNone then (.ok true, next)
      else if (attempt : Int) < policy.maxAttempts then
        match surroundings.sleep attempt (delayForAttempt policy attempt) with
        | .error error => (.error error, next)
        | .ok () => deliverFrom jobId policy surroundings now remaining (attempt + 1)
            (noted surroundings attempt callback) next
      else deliverFrom jobId policy surroundings now remaining (attempt + 1)
        (noted surroundings attempt callback) next := by
  simp only [noted]
  rw [deliverFrom]
  cases outcome : surroundings.request attempt with
  | answered statusCode => rfl
  | raised text => rfl
  | escaped error =>
      rw [outcome] at stays
      exact absurd trivial stays

/-- A delivery keeps the copies together exactly when no exception leaves the
handler. -/
theorem faithful_deliverFrom_iff (now : Int) {callback : CallbackRegistration}
    (faithful : manager.Faithful) (held : manager.registry.get? jobId = some callback) :
    (deliverFrom jobId policy surroundings now remaining attempt callback manager).2.Faithful ↔
      ¬ EscapesFrom policy surroundings remaining attempt := by
  induction remaining generalizing attempt callback manager with
  | zero =>
      refine iff_of_true faithful ?_
      intro escaping
      obtain ⟨last, low, high, _⟩ := escaping
      omega
  | succ remaining ih =>
      by_cases stays : (surroundings.request attempt).escapes
      · refine iff_of_false ?_ (not_not_intro (escapesFrom_of_escaped stays))
        cases outcome : surroundings.request attempt with
        | escaped error =>
            rw [deliverFrom, outcome]
            exact not_faithful_note faithful held
        | answered statusCode =>
            rw [outcome] at stays
            cases stays
        | raised text =>
            rw [outcome] at stays
            cases stays
      · rw [deliverFrom_of_noted stays]
        have kept := faithful_attempt faithful held (callback.attemptCount + 1)
          (surroundings.request attempt).lastError now
        have renewed : ((manager.note jobId (noted surroundings attempt callback)).persistAttempt
            jobId (noted surroundings attempt callback) now).registry.get? jobId =
              some (noted surroundings attempt callback) :=
          Dict.get?_set_self _ _ _
        dsimp only
        split
        · next succeeded =>
            refine iff_of_true kept (not_escapesFrom_of_ends stays ?_)
            intro continues
            rw [RequestOutcome.fails, Option.isSome_iff_ne_none] at continues
            exact continues.1 (Option.isNone_iff_eq_none.mp succeeded)
        · next failed =>
            have fails : (surroundings.request attempt).fails := by
              rw [RequestOutcome.fails, Option.isSome_iff_ne_none]
              exact mt Option.isNone_iff_eq_none.mpr failed
            split
            · next more =>
                split
                · next error interrupted =>
                    refine iff_of_true kept (not_escapesFrom_of_ends stays ?_)
                    intro continues
                    cases interrupted.symm.trans (continues.2 more)
                · next slept =>
                    rw [escapesFrom_succ_iff stays ⟨fails, fun _ => slept⟩]
                    exact ih kept renewed
            · next exhausted =>
                rw [escapesFrom_succ_iff stays ⟨fails, fun more => absurd more exhausted⟩]
                exact ih kept renewed

end Attempts

/-! ## Whole runs -/

/-- A call on the manager, with what it meets. -/
inductive Call
  | registerCallback (jobId url : String) (headers : Option (Dict String String))
      (policy : RetryPolicyArgument) (now : Int)
  | register (jobId url method : String) (headers : Option (Dict String String)) (now : Int)
  | unregister (jobId : String)
  | trigger (jobId : String) (retries : Int) (surroundings : Surroundings) (now : Int)
  | triggerJobCompletion (jobId : String) (surroundings : Surroundings) (now : Int)

section Runs

variable (builtins : Builtins) (urlparse : String → Except PyError String)

/-- The manager after a call, raising or not. -/
def perform (manager : CallbackManager) : Call → CallbackManager
  | .registerCallback jobId url headers policy now =>
      (manager.registerCallback builtins urlparse jobId url headers policy now).2
  | .register jobId url method headers now =>
      (manager.register urlparse jobId url method headers now).2
  | .unregister jobId => (manager.unregister jobId).2
  | .trigger jobId retries surroundings now => (manager.trigger jobId retries surroundings now).2
  | .triggerJobCompletion jobId surroundings now =>
      (manager.triggerJobCompletion jobId surroundings now).2

/-- The delivery of a callback by a policy reaches an attempt whose exception leaves
the handler. -/
def DeliveryEscapes (policy : RetryPolicy) (surroundings : Surroundings) : Prop :=
  EscapesFrom policy surroundings (max 1 policy.maxAttempts).toNat 1

/-- No exception leaves the handler of the call's delivery, if it makes one. -/
def Undisturbed (manager : CallbackManager) : Call → Prop
  | .trigger jobId retries surroundings _ =>
      ∀ callback, manager.registry.get? jobId = some callback →
        ¬ DeliveryEscapes { callback.retryPolicy with maxAttempts := max 1 (retries + 1) }
          surroundings
  | .triggerJobCompletion jobId surroundings _ =>
      ∀ callback, manager.registry.get? jobId = some callback →
        ¬ DeliveryEscapes callback.retryPolicy surroundings
  | _ => True

variable {builtins urlparse}

/-- A delivery to the registration of a job, if there is one. -/
theorem faithful_delivered_iff {manager : CallbackManager} (faithful : manager.Faithful)
    (jobId : String) (policy : CallbackRegistration → RetryPolicy) (surroundings : Surroundings)
    (now : Int) :
    (match manager.registry.get? jobId with
      | none => (.ok false, manager)
      | some callback => manager.deliver jobId callback (policy callback) surroundings now :
        Except PyError Bool × CallbackManager).2.Faithful ↔
      ∀ callback, manager.registry.get? jobId = some callback →
        ¬ DeliveryEscapes (policy callback) surroundings := by
  cases held : manager.registry.get? jobId with
  | none => exact iff_of_true faithful nofun
  | some callback =>
      dsimp only
      rw [deliver, faithful_deliverFrom_iff now faithful held]
      refine ⟨?_, ?_⟩
      · intro calm other same
        exact Option.some.inj same ▸ calm
      · intro calm
        exact calm _ rfl

/-- The step lemma. -/
theorem faithful_perform_iff (manager : CallbackManager) (call : Call)
    (faithful : manager.Faithful) :
    (manager.perform builtins urlparse call).Faithful ↔ manager.Undisturbed call := by
  cases call with
  | registerCallback jobId url headers policy now =>
      refine iff_of_true ?_ trivial
      simp only [perform, registerCallback]
      split
      · exact faithful
      · split
        · exact faithful
        · exact faithful_record faithful jobId _ now
  | register jobId url method headers now =>
      refine iff_of_true ?_ trivial
      simp only [perform, register]
      split
      · exact faithful
      · exact faithful_record faithful jobId _ now
  | unregister jobId => exact iff_of_true (faithful_unregister faithful jobId) trivial
  | trigger jobId retries surroundings now =>
      exact faithful_delivered_iff faithful jobId
        (fun callback => { callback.retryPolicy with maxAttempts := max 1 (retries + 1) })
        surroundings now
  | triggerJobCompletion jobId surroundings now =>
      exact faithful_delivered_iff faithful jobId CallbackRegistration.retryPolicy surroundings now

/-- **Which runs keep registrations durable.** From a manager just opened on a
database, a second manager opened after any call of the run loads an equal
registry, exactly when no delivery of the run reaches a request whose exception
leaves the handler. -/
theorem registrations_durable_iff (builtins : Builtins)
    (urlparse : String → Except PyError String) {table : Dict String CallbackRow}
    {registry : Dict String CallbackRegistration}
    (opened : loadPersisted table.entries = .ok registry) (calls : List Call) :
    Throughout (perform builtins urlparse) Durable ⟨registry, table⟩ calls ↔
      Guarded (perform builtins urlparse) Undisturbed ⟨registry, table⟩ calls := by
  have exactly : ∀ (manager : CallbackManager) (call : Call), True → manager.Durable →
      ((manager.perform builtins urlparse call).Durable ↔ manager.Undisturbed call) := by
    intro manager call _ durable
    rw [durable_iff_faithful] at *
    exact faithful_perform_iff manager call durable
  exact throughout_iff_guarded exactly (durable_of_loaded opened) fun _ _ => trivial

/-! ## Runs with and without an interruption -/

/-- The scheme of a plain URL. -/
def plainUrlparse (url : String) : Except PyError String :=
  .ok (String.ofList (url.toList.takeWhile fun char => char ≠ ':'))

def sampleRegistration : Call :=
  .registerCallback "job-1" "https://example.com/callback" none
    (.fields (Dict.ofList [("max_attempts", .int 2)])) 0

/-- The registration that the sample leaves in the registry. -/
def sampleCallback : CallbackRegistration :=
  { url := "https://example.com/callback", retryPolicy := { maxAttempts := 2 } }

/-- A server error and then a success. -/
def recoveringServer : Surroundings where
  request attempt := if attempt = 1 then .answered 500 else .answered 200
  sleep _ _ := .ok ()

/-- A request that is interrupted. -/
def interruptedRequest : Surroundings where
  request _ := .escaped (.interrupt "KeyboardInterrupt")
  sleep _ _ := .ok ()

theorem sampleRegistration_held :
    ((⟨∅, ∅⟩ : CallbackManager).perform plainBuiltins plainUrlparse
      sampleRegistration).registry.get? "job-1" = some sampleCallback := by
  decide +kernel

/-- A registration and a completion that is retried once stay durable. -/
theorem sample_registration_is_durable :
    Throughout (perform plainBuiltins plainUrlparse) Durable ⟨∅, ∅⟩
      [sampleRegistration, .triggerJobCompletion "job-1" recoveringServer 1] := by
  refine (registrations_durable_iff plainBuiltins plainUrlparse rfl _).mpr ⟨trivial, ?_, trivial⟩
  intro callback _ escaping
  obtain ⟨last, _, _, escapes, _⟩ := escaping
  unfold recoveringServer at escapes
  dsimp only at escapes
  split at escapes
  · exact escapes
  · exact escapes

/-- An interrupted request leaves a count in memory that the table does not have. -/
theorem interrupted_delivery_is_not_durable :
    ¬ Throughout (perform plainBuiltins plainUrlparse) Durable ⟨∅, ∅⟩
      [sampleRegistration, .triggerJobCompletion "job-1" interruptedRequest 1] := by
  intro durable
  have before := (durable_iff_faithful _).mp durable.2.1
  have after := (durable_iff_faithful _).mp durable.2.2
  have calm := (faithful_perform_iff _ _ before).mp after
  apply calm sampleCallback sampleRegistration_held
  exact escapesFrom_of_escaped trivial

end Runs

end CallbackManager

end CloudDogJobs
