import CloudDogJobs.Broker.Capacity

/-!
# All-or-nothing acquisition

`CapacityEnforcer.try_acquire` tests every requirement against the availability of
its slot, which is clamped at zero, and then acquires each through
`ResourceSlot.acquire`, which tests the sum against the total and whose result is
dropped. The two tests agree as long as no slot is used beyond its total. That is
an invariant of the calls with counts and totals that are not negative.
-/

namespace CloudDogJobs

open Foundation

namespace ResourceSlot

/-- The use lies between nothing and the total. -/
def WithinTotal (slot : ResourceSlot) : Prop := 0 ≤ slot.used ∧ slot.used ≤ slot.total

/-- Within the total, the clamped availability and the sum test the same. -/
theorem le_available_iff {slot : ResourceSlot} (within : slot.WithinTotal) (count : Int) :
    count ≤ slot.available ↔ slot.used + count ≤ slot.total ∨ count ≤ 0 := by
  obtain ⟨_, bounded⟩ := within
  unfold available
  omega

theorem acquire_of_le {slot : ResourceSlot} {count : Int}
    (room : slot.used + count ≤ slot.total) :
    slot.acquire count = (true, { slot with used := slot.used + count }) := by
  unfold acquire
  rw [if_neg (Int.not_lt.mpr room)]

theorem WithinTotal.acquire {slot : ResourceSlot} (within : slot.WithinTotal) {count : Int}
    (sound : 0 ≤ count) : (slot.acquire count).2.WithinTotal := by
  unfold ResourceSlot.acquire
  split
  · exact within
  · next room =>
      have enough : 0 ≤ slot.used := within.1
      exact ⟨Int.add_nonneg enough sound, Int.not_lt.mp room⟩

theorem WithinTotal.release {slot : ResourceSlot} (within : slot.WithinTotal) {count : Int}
    (sound : 0 ≤ count) : (slot.release count).WithinTotal := by
  obtain ⟨enough, bounded⟩ := within
  unfold ResourceSlot.release WithinTotal
  dsimp only
  omega

end ResourceSlot

namespace CapacityEnforcer

/-- The second loop of `try_acquire`, with what each `acquire` returned. A name that is
not registered would raise there. -/
def acquireEach : List (String × Int) → Dict String ResourceSlot →
    List (Option Bool) × Dict String ResourceSlot
  | [], slots => ([], slots)
  | (name, count) :: rest, slots =>
      let answer := (slots.get? name).map fun slot => (slot.acquire count).1
      let (answers, last) :=
        acquireEach rest (slots.modify name fun slot => (slot.acquire count).2)
      (answer :: answers, last)

/-- The loop that drops the answers leaves the same slots. -/
theorem acquireEach_snd (requirements : List (String × Int)) (slots : Dict String ResourceSlot) :
    (acquireEach requirements slots).2 =
      requirements.foldl (fun current item =>
        current.modify item.1 fun slot => (slot.acquire item.2).2) slots := by
  induction requirements generalizing slots with
  | nil => rfl
  | cons item rest ih => exact ih _

/-- With room for each of the distinct names, every `acquire` succeeds. -/
theorem acquireEach_fst {requirements : List (String × Int)} {slots : Dict String ResourceSlot}
    (distinct : (requirements.map Prod.fst).Nodup)
    (room : ∀ name count, (name, count) ∈ requirements →
      ∃ slot, slots.get? name = some slot ∧ slot.used + count ≤ slot.total) :
    ∀ answer ∈ (acquireEach requirements slots).1, answer = some true := by
  induction requirements generalizing slots with
  | nil =>
      intro answer member
      cases member
  | cons item rest ih =>
      obtain ⟨name, count⟩ := item
      obtain ⟨slot, found, wide⟩ := room name count List.mem_cons_self
      obtain ⟨absent, apart⟩ := List.nodup_cons.mp distinct
      intro answer member
      rcases List.mem_cons.mp member with first | later
      · rw [first, found, Option.map_some, slot.acquire_of_le wide]
      · apply ih apart _ answer later
        -- the later names differ from this one, so their slots are as before
        intro other amount listed
        have different : other ≠ name := by
          intro same
          rw [same] at listed
          exact absent (List.mem_map.mpr ⟨(name, amount), listed, rfl⟩)
        rw [Dict.get?_modify, if_neg different]
        exact room other amount (List.mem_cons_of_mem _ listed)

/-- No slot is used beyond its total, nor below nothing. -/
def WithinTotals (enforcer : CapacityEnforcer) : Prop :=
  ∀ name slot, enforcer.slots.get? name = some slot → slot.WithinTotal

/-- Every named resource is registered and has room for its count. -/
def HasRoom (enforcer : CapacityEnforcer) (requirements : Dict String Int) : Prop :=
  ∀ name count, requirements.get? name = some count →
    ∃ slot, enforcer.slots.get? name = some slot ∧ slot.used + count ≤ slot.total

theorem WithinTotals.adjust {enforcer : CapacityEnforcer} (within : enforcer.WithinTotals)
    {change : ResourceSlot → Int → ResourceSlot} {requirements : Dict String Int}
    (kept : ∀ slot count, slot.WithinTotal → count ∈ requirements.values →
      (change slot count).WithinTotal) :
    WithinTotals ⟨enforcer.slots.adjust change requirements⟩ := by
  intro name slot found
  rw [Dict.get?_adjust] at found
  cases asked : requirements.get? name with
  | none =>
      rw [asked] at found
      exact within name slot found
  | some count =>
      rw [asked] at found
      obtain ⟨before, known, rfl⟩ := Option.map_eq_some_iff.mp found
      exact kept before count (within name before known)
        ((requirements.mem_values_iff count).mpr ⟨name, asked⟩)

/-- Within the totals, the first loop finds exactly that there is room. -/
theorem fits_iff {enforcer : CapacityEnforcer} (within : enforcer.WithinTotals)
    (requirements : Dict String Int) (sound : ∀ count ∈ requirements.values, 0 ≤ count) :
    enforcer.fits requirements = true ↔ enforcer.HasRoom requirements := by
  constructor
  · intro fitting name count asked
    cases found : enforcer.slots.get? name with
    | none =>
        have checked := List.all_eq_true.mp fitting _
          ((requirements.mem_entries_iff name count).mpr asked)
        simp [found] at checked
    | some slot =>
        have available := fits_of_get? fitting asked found
        have bounded := within name slot found
        have enough := sound count ((requirements.mem_values_iff count).mpr ⟨name, asked⟩)
        refine ⟨slot, rfl, ?_⟩
        rcases (ResourceSlot.le_available_iff bounded count).mp available with room | nothing
        · exact room
        · have most := bounded.2
          omega
  · intro room
    apply List.all_eq_true.mpr
    intro item member
    obtain ⟨name, count⟩ := item
    obtain ⟨slot, found, wide⟩ := room name count
      ((requirements.mem_entries_iff name count).mp member)
    have available : count ≤ slot.available :=
      (ResourceSlot.le_available_iff (within name slot found) count).mpr (.inl wide)
    simpa [found] using available

/-- With room, the slots of the named resources are raised by their counts. -/
theorem get?_tryAcquire_of_hasRoom {enforcer : CapacityEnforcer} {requirements : Dict String Int}
    (fitting : enforcer.fits requirements = true) (room : enforcer.HasRoom requirements)
    (name : String) :
    (enforcer.tryAcquire requirements).2.slots.get? name =
      (enforcer.slots.get? name).map fun slot =>
        { slot with used := slot.used + required requirements name } := by
  unfold tryAcquire required Dict.getD
  rw [if_pos fitting, Dict.get?_adjust]
  cases asked : requirements.get? name with
  | none =>
      cases enforcer.slots.get? name with
      | none => rfl
      | some slot => simp only [Option.map_some, Option.getD_none, Int.add_zero]
  | some count =>
      obtain ⟨slot, found, wide⟩ := room name count asked
      simp only [found, Option.map_some, slot.acquire_of_le wide, Option.getD_some]

/-! ## Runs -/

/-- The enforcer after a call. -/
def apply (enforcer : CapacityEnforcer) : Call → CapacityEnforcer
  | .registerResource name total => enforcer.registerResource name total
  | .tryAcquire requirements => (enforcer.tryAcquire requirements).2
  | .release requirements => enforcer.release requirements

/-- The counts and totals of a call are not negative. -/
def Call.NonNegative : Call → Prop
  | .registerResource _ total => 0 ≤ total
  | .tryAcquire requirements => ∀ count ∈ requirements.values, 0 ≤ count
  | .release requirements => ∀ count ∈ requirements.values, 0 ≤ count

instance : DecidablePred Call.NonNegative
  | .registerResource _ _ => inferInstanceAs (Decidable (_ ≤ _))
  | .tryAcquire _ => inferInstanceAs (Decidable (∀ count ∈ _, _))
  | .release _ => inferInstanceAs (Decidable (∀ count ∈ _, _))

/-- The step lemma. -/
theorem WithinTotals.apply {enforcer : CapacityEnforcer} (within : enforcer.WithinTotals)
    {call : Call} (sound : call.NonNegative) : (enforcer.apply call).WithinTotals := by
  cases call with
  | registerResource name total =>
      exact Dict.forall_get?_set within ⟨Int.le_refl 0, sound⟩
  | tryAcquire requirements =>
      unfold CapacityEnforcer.apply
      dsimp only [tryAcquire]
      split
      · exact within.adjust fun slot count bounded asked => bounded.acquire (sound count asked)
      · exact within
  | release requirements =>
      exact within.adjust fun slot count bounded asked => bounded.release (sound count asked)

/-- The run lemma. -/
theorem WithinTotals.run {enforcer : CapacityEnforcer} (within : enforcer.WithinTotals)
    {calls : List Call} (sound : ∀ call ∈ calls, call.NonNegative) :
    (calls.foldl CapacityEnforcer.apply enforcer).WithinTotals := by
  induction calls generalizing enforcer with
  | nil => exact within
  | cons call rest ih =>
      exact ih (within.apply (sound call List.mem_cons_self))
        fun later member => sound later (List.mem_cons_of_mem _ member)

/-- What a call of `try_acquire` does when the slots are within their totals: it is
granted exactly when there is room, takes what is required and nothing else, has every
`acquire` succeed, and changes nothing when it is refused. -/
def AllOrNothing (enforcer : CapacityEnforcer) (requirements : Dict String Int) : Prop :=
  ((enforcer.tryAcquire requirements).1 = true ↔ enforcer.HasRoom requirements) ∧
  ((enforcer.tryAcquire requirements).1 = true →
    (enforcer.tryAcquire requirements).2.slots =
        (acquireEach requirements.entries enforcer.slots).2 ∧
      (∀ answer ∈ (acquireEach requirements.entries enforcer.slots).1, answer = some true) ∧
      ∀ name, (enforcer.tryAcquire requirements).2.slots.get? name =
        (enforcer.slots.get? name).map fun slot =>
          { slot with used := slot.used + required requirements name }) ∧
  ((enforcer.tryAcquire requirements).1 = false →
    (enforcer.tryAcquire requirements).2 = enforcer)

theorem allOrNothing {enforcer : CapacityEnforcer} (within : enforcer.WithinTotals)
    {requirements : Dict String Int} (sound : ∀ count ∈ requirements.values, 0 ≤ count) :
    enforcer.AllOrNothing requirements := by
  have exact := fits_iff within requirements sound
  by_cases fitting : enforcer.fits requirements = true
  · have room := exact.mp fitting
    have granted : enforcer.tryAcquire requirements = (true, ⟨enforcer.slots.adjust
        (fun slot count => (slot.acquire count).2) requirements⟩) := if_pos fitting
    refine ⟨?_, fun _ => ⟨?_, ?_, ?_⟩, ?_⟩
    · rw [granted]
      exact iff_of_true rfl room
    · rw [granted, acquireEach_snd]
      rfl
    · apply acquireEach_fst requirements.nodup
      intro name count member
      exact room name count ((requirements.mem_entries_iff name count).mp member)
    · exact get?_tryAcquire_of_hasRoom fitting room
    · rw [granted]
      intro refused
      cases refused
  · have refused : enforcer.tryAcquire requirements = (false, enforcer) := if_neg fitting
    rw [AllOrNothing, refused, ← exact]
    refine ⟨iff_of_false Bool.false_ne_true fitting, fun granted => ?_, fun _ => rfl⟩
    cases granted

/-- **All or nothing.** After any calls on an enforcer without resources, with counts
and totals that are not negative, no resource is used beyond its total, and
`try_acquire` with counts that are not negative is granted exactly when every named
resource is registered and has room for its count. A granted call raises the use of
each named resource by its count, and no `acquire` of its second loop is refused; a
refused call changes nothing. -/
theorem tryAcquire_all_or_nothing (calls : List Call)
    (sound : ∀ call ∈ calls, call.NonNegative) :
    (∀ name slot, (calls.foldl apply ⟨∅⟩).slots.get? name = some slot →
      slot.used ≤ slot.total) ∧
    ∀ requirements : Dict String Int, (∀ count ∈ requirements.values, 0 ≤ count) →
      (calls.foldl apply ⟨∅⟩).AllOrNothing requirements := by
  have empty : WithinTotals ⟨∅⟩ := by
    intro name slot found
    cases found
  have within := empty.run sound
  exact ⟨fun name slot found => (within name slot found).2,
    fun requirements enough => allOrNothing within enough⟩

/-- Four slots are registered and three of them taken. -/
def threeTaken : List Call :=
  [.registerResource "gpu" 4, .tryAcquire (Dict.empty.set "gpu" 3)]

/-- Two more are refused, and nothing of what else was asked for is taken. -/
theorem refused_acquisition_takes_nothing :
    ((threeTaken.foldl apply ⟨∅⟩).tryAcquire ((Dict.empty.set "llm" 0).set "gpu" 2)).1 = false ∧
      (threeTaken.foldl apply ⟨∅⟩).AllOrNothing ((Dict.empty.set "llm" 0).set "gpu" 2) := by
  have nonNegative : ∀ call ∈ threeTaken, call.NonNegative := by decide
  refine ⟨rfl, (tryAcquire_all_or_nothing threeTaken nonNegative).2 _ ?_⟩
  decide

end CapacityEnforcer

end CloudDogJobs
