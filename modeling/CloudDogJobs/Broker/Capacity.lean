import Mathlib.Algebra.Order.BigOperators.Group.List
import Mathlib.Algebra.Order.Group.Int
import Mathlib.Data.List.Perm.Basic
import CloudDogJobs.Foundation.Dict
import CloudDogJobs.Foundation.Sequence

/-!
# Capacity enforcement

`broker/capacity.py`: named resources with a total and a use count, acquired and
released several at a time. Each method holds the enforcer's lock, so each is one
step. A ledger keeps the acquisitions that are out. The use counts follow it
through every call but the registration of a resource of which slots are out,
which starts its count anew.
-/

namespace CloudDogJobs

open Foundation

/-- A named resource with its capacity. -/
structure ResourceSlot where
  name : String
  total : Int
  used : Int := 0
  deriving DecidableEq

namespace ResourceSlot

def available (slot : ResourceSlot) : Int := max 0 (slot.total - slot.used)

def acquire (slot : ResourceSlot) (count : Int) : Bool × ResourceSlot :=
  if slot.used + count > slot.total then (false, slot)
  else (true, { slot with used := slot.used + count })

def release (slot : ResourceSlot) (count : Int) : ResourceSlot :=
  { slot with used := max 0 (slot.used - count) }

/-- What was found available can be acquired. -/
theorem used_acquire (slot : ResourceSlot) {count : Int} (fits : count ≤ slot.available)
    (sound : 0 ≤ count) : (slot.acquire count).2.used = slot.used + count := by
  unfold available at fits
  unfold acquire
  split
  · -- a count of zero, on a slot that is used beyond its total
    dsimp only
    omega
  · rfl

end ResourceSlot

/-- The registered resources. -/
structure CapacityEnforcer where
  slots : Dict String ResourceSlot

namespace CapacityEnforcer

def registerResource (enforcer : CapacityEnforcer) (name : String) (total : Int) :
    CapacityEnforcer :=
  ⟨enforcer.slots.set name { name := name, total := total }⟩

/-- The first loop of `try_acquire`. -/
def fits (enforcer : CapacityEnforcer) (requirements : Dict String Int) : Bool :=
  requirements.entries.all fun (name, count) =>
    match enforcer.slots.get? name with
    | none => false
    | some slot => !decide (slot.available < count)

/-- Acquire all required resources, or none. -/
def tryAcquire (enforcer : CapacityEnforcer) (requirements : Dict String Int) :
    Bool × CapacityEnforcer :=
  if enforcer.fits requirements then
    (true, ⟨enforcer.slots.adjust (fun slot count => (slot.acquire count).2) requirements⟩)
  else (false, enforcer)

/-- Give acquired resources back; an unknown name is passed over. -/
def release (enforcer : CapacityEnforcer) (requirements : Dict String Int) : CapacityEnforcer :=
  ⟨enforcer.slots.adjust ResourceSlot.release requirements⟩

/-- How much of a resource is required; none when it is not named. -/
def required (requirements : Dict String Int) (name : String) : Int := requirements.getD name 0

theorem fits_of_get? {enforcer : CapacityEnforcer} {requirements : Dict String Int}
    (fitting : enforcer.fits requirements = true) {name : String} {count : Int}
    (asked : requirements.get? name = some count) {slot : ResourceSlot}
    (found : enforcer.slots.get? name = some slot) : count ≤ slot.available := by
  have member := (requirements.mem_entries_iff name count).mpr asked
  have checked := List.all_eq_true.mp fitting _ member
  simpa only [found, Bool.not_eq_true', decide_eq_false_iff_not, Int.not_lt] using checked

/-- A granted acquisition adds what it requires. -/
theorem used_tryAcquire {enforcer : CapacityEnforcer} {requirements : Dict String Int}
    (sound : ∀ name, 0 ≤ required requirements name)
    (granted : (enforcer.tryAcquire requirements).1 = true) {name : String} {slot : ResourceSlot}
    (found : (enforcer.tryAcquire requirements).2.slots.get? name = some slot) :
    ∃ before, enforcer.slots.get? name = some before ∧
      slot.used = before.used + required requirements name := by
  have wide := sound name
  unfold tryAcquire at granted found
  unfold required at wide ⊢
  split at granted
  · next fitting =>
      rw [if_pos fitting, Dict.get?_adjust] at found
      cases asked : requirements.get? name with
      | none =>
          rw [asked] at found
          refine ⟨slot, found, ?_⟩
          rw [Dict.getD, asked]
          exact (Int.add_zero _).symm
      | some count =>
          rw [asked] at found
          obtain ⟨before, known, rfl⟩ := Option.map_eq_some_iff.mp found
          rw [Dict.getD, asked] at wide ⊢
          exact ⟨before, known, before.used_acquire (fits_of_get? fitting asked known) wide⟩
  · cases granted

/-- A release that the clamp at zero does not touch takes away what it gives back. -/
theorem used_release {enforcer : CapacityEnforcer} {requirements : Dict String Int}
    {name : String} {slot : ResourceSlot}
    (found : (enforcer.release requirements).slots.get? name = some slot) :
    ∃ before, enforcer.slots.get? name = some before ∧
      (required requirements name ≤ before.used →
        slot.used = before.used - required requirements name) := by
  unfold release at found
  rw [Dict.get?_adjust] at found
  unfold required
  cases asked : requirements.get? name with
  | none =>
      rw [asked] at found
      refine ⟨slot, found, fun _ => ?_⟩
      rw [Dict.getD, asked]
      exact (Int.sub_zero _).symm
  | some count =>
      rw [asked] at found
      obtain ⟨before, known, rfl⟩ := Option.map_eq_some_iff.mp found
      refine ⟨before, known, fun covered => ?_⟩
      rw [Dict.getD, asked, Option.getD_some] at covered ⊢
      exact Int.max_eq_right (Int.sub_nonneg_of_le covered)

/-! ## Runs -/

inductive Call
  | registerResource (name : String) (total : Int)
  | tryAcquire (requirements : Dict String Int)
  | release (requirements : Dict String Int)

/-- The enforcer and the acquisitions that are out. -/
structure Ledger where
  enforcer : CapacityEnforcer
  outstanding : List (Dict String Int) := []

namespace Ledger

/-- Equal dictionaries, whatever the order of their items. -/
def sameItems (first second : Dict String Int) : Bool := first.entries.Perm second.entries

/-- A call, and its record. A release takes the first acquisition of its size off
the ledger. -/
def act (ledger : Ledger) : Call → Ledger
  | .registerResource name total =>
      { ledger with enforcer := ledger.enforcer.registerResource name total }
  | .tryAcquire requirements =>
      match ledger.enforcer.tryAcquire requirements with
      | (true, enforcer) => ⟨enforcer, ledger.outstanding ++ [requirements]⟩
      | (false, enforcer) => { ledger with enforcer := enforcer }
  | .release requirements =>
      ⟨ledger.enforcer.release requirements,
        ledger.outstanding.eraseP (sameItems requirements)⟩

/-- Counts and totals are not negative, and a release gives back an acquisition
that is out. -/
def Legal (ledger : Ledger) : Call → Prop
  | .registerResource _ total => 0 ≤ total
  | .tryAcquire requirements => ∀ count ∈ requirements.values, 0 ≤ count
  | .release requirements => ∃ held ∈ ledger.outstanding, sameItems requirements held = true

instance (ledger : Ledger) : DecidablePred ledger.Legal
  | .registerResource _ _ => inferInstanceAs (Decidable (_ ≤ _))
  | .tryAcquire _ => inferInstanceAs (Decidable (∀ count ∈ _, _))
  | .release _ => inferInstanceAs (Decidable (∃ held ∈ _, _))

/-- How much of a resource is out. -/
def out (ledger : Ledger) (name : String) : Int :=
  (ledger.outstanding.map fun held => required held name).sum

/-- The use count of every registered resource is what is out of it. -/
def Exact (ledger : Ledger) : Prop :=
  ∀ name slot, ledger.enforcer.slots.get? name = some slot → slot.used = ledger.out name

/-- No resource is registered of which something is out. -/
def RegistersUnused (ledger : Ledger) : Call → Prop
  | .registerResource name _ => ledger.out name = 0
  | _ => True

instance (ledger : Ledger) : DecidablePred ledger.RegistersUnused
  | .registerResource _ _ => inferInstanceAs (Decidable (_ = _))
  | .tryAcquire _ => isTrue trivial
  | .release _ => isTrue trivial

/-- An acquisition that is refused leaves everything as it was. -/
theorem act_tryAcquire (ledger : Ledger) (requirements : Dict String Int) :
    ledger.act (.tryAcquire requirements) = ledger ∨
      (ledger.enforcer.tryAcquire requirements).1 = true ∧
        ledger.act (.tryAcquire requirements) =
          ⟨(ledger.enforcer.tryAcquire requirements).2,
            ledger.outstanding ++ [requirements]⟩ := by
  unfold act CapacityEnforcer.tryAcquire
  by_cases fitting : ledger.enforcer.fits requirements = true
  · right
    simp only [fitting, ↓reduceIte, and_self]
  · left
    simp only [fitting, Bool.false_eq_true, ↓reduceIte]

section Sums

variable (ledger : Ledger) {requirements held : Dict String Int} {name : String}

theorem required_of_sameItems (same : sameItems requirements held = true) (name : String) :
    required held name = required requirements name := by
  have permuted : requirements.entries.Perm held.entries := of_decide_eq_true same
  have looked : ∀ count, requirements.get? name = some count ↔ held.get? name = some count := by
    intro count
    rw [← Dict.mem_entries_iff, ← Dict.mem_entries_iff]
    exact permuted.mem_iff
  unfold required Dict.getD
  rw [Option.ext looked]

/-- What a release gives back goes off the sum. -/
theorem out_release (found : ∃ held ∈ ledger.outstanding, sameItems requirements held = true)
    (name : String) :
    ((ledger.outstanding.eraseP (sameItems requirements)).map fun held =>
        required held name).sum = ledger.out name - required requirements name := by
  obtain ⟨held, member, same⟩ := found
  obtain ⟨erased, front, back, _, hit, split, rest⟩ := List.exists_of_eraseP member same
  rw [out, rest, split, ← required_of_sameItems hit name]
  simp only [List.map_append, List.sum_append, List.map_cons, List.sum_cons]
  omega

/-- One of the acquisitions that are out is no more than all of them. -/
theorem required_le_out (sound : ∀ held ∈ ledger.outstanding, ∀ name, 0 ≤ required held name)
    (found : ∃ held ∈ ledger.outstanding, sameItems requirements held = true) (name : String) :
    required requirements name ≤ ledger.out name := by
  obtain ⟨held, member, same⟩ := found
  rw [← required_of_sameItems same name]
  apply List.single_le_sum
  · intro amount listed
    obtain ⟨other, inside, rfl⟩ := List.mem_map.mp listed
    exact sound other inside name
  · exact List.mem_map_of_mem member

end Sums

/-- What is out is not negative. -/
def Sound (ledger : Ledger) : Prop :=
  ∀ held ∈ ledger.outstanding, ∀ name, 0 ≤ required held name

theorem required_nonneg {requirements : Dict String Int}
    (sound : ∀ count ∈ requirements.values, 0 ≤ count) (name : String) :
    0 ≤ required requirements name := by
  unfold required Dict.getD
  cases asked : requirements.get? name with
  | none => exact Int.le_refl 0
  | some count => exact sound count ((requirements.mem_values_iff count).mpr ⟨name, asked⟩)

theorem sound_act (ledger : Ledger) (call : Call) (sound : ledger.Sound)
    (legal : ledger.Legal call) : (ledger.act call).Sound := by
  cases call with
  | registerResource name total => exact sound
  | tryAcquire requirements =>
      rcases ledger.act_tryAcquire requirements with same | ⟨_, moved⟩
      · rw [same]
        exact sound
      · rw [moved]
        intro held member
        rcases List.mem_append.mp member with earlier | last
        · exact sound held earlier
        · rw [List.mem_singleton.mp last]
          exact required_nonneg legal
  | release requirements =>
      intro held member
      exact sound held (List.mem_of_mem_eraseP member)

/-- The step lemma: a registration keeps the counts exactly when nothing is out of
the resource, and every other call keeps them. -/
theorem exact_act_iff (ledger : Ledger) (call : Call)
    (admissible : ledger.Legal call ∧ ledger.Sound) (precise : ledger.Exact) :
    (ledger.act call).Exact ↔ ledger.RegistersUnused call := by
  obtain ⟨legal, sound⟩ := admissible
  cases call with
  | registerResource name total =>
      constructor
      · intro kept
        exact (kept name _ (Dict.get?_set_self _ _ _)).symm
      · intro unused
        exact Dict.forall_get?_set precise unused.symm
  | tryAcquire requirements =>
      refine iff_of_true ?_ trivial
      rcases ledger.act_tryAcquire requirements with same | ⟨granted, moved⟩
      · rw [same]
        exact precise
      · rw [moved]
        intro name slot found
        obtain ⟨before, known, used⟩ := used_tryAcquire (required_nonneg legal) granted found
        rw [used, precise name before known]
        simp only [out, List.map_append, List.sum_append, List.map_cons, List.map_nil,
          List.sum_cons, List.sum_nil, Int.add_zero]
  | release requirements =>
      refine iff_of_true ?_ trivial
      intro name slot found
      obtain ⟨before, known, used⟩ := used_release found
      have counted := precise name before known
      have covered := ledger.required_le_out sound legal name
      rw [← counted] at covered
      rw [used covered, counted]
      exact (ledger.out_release legal name).symm

/-- The ledger of an enforcer without resources. -/
def fresh : Ledger where
  enforcer := ⟨∅⟩

/-- **When usage is exact.** From an enforcer without resources, let resources be
registered, also again, and acquired and released in any order, with counts and
totals that are not negative, each release giving back one acquisition that is
out. After every call the use count of each resource is the sum of what is out of
it, exactly when no resource is registered while something is out of it. -/
theorem usage_exact_iff (calls : List Call) (legal : Guarded act Legal fresh calls) :
    Throughout act Exact fresh calls ↔ Guarded act RegistersUnused fresh calls := by
  have empty : fresh.Exact := by
    intro name slot found
    cases found
  have nothing : fresh.Sound := by
    intro held member
    cases member
  have admissible : Guarded act (fun ledger call => ledger.Legal call ∧ ledger.Sound) fresh calls :=
    legal.of_invariant
      (fun ledger call sound met => ⟨⟨met, sound⟩, sound_act ledger call sound met⟩) nothing
  exact throughout_iff_guarded_of_guarded exact_act_iff empty admissible

/-- Two slots are taken, and the resource is registered once more before or after
they are given back. -/
def resized (first second : Call) : List Call :=
  [.registerResource "gpu" 4, .tryAcquire (Dict.empty.set "gpu" 2), first, second]

/-- The total is raised when nothing is out. -/
theorem idle_resource_is_resized :
    Throughout act Exact fresh
      (resized (.release (Dict.empty.set "gpu" 2)) (.registerResource "gpu" 8)) := by
  refine (usage_exact_iff _ ?_).mpr ?_
  · refine ⟨by decide, by decide, ⟨_, List.mem_cons_self, by decide⟩, by decide, trivial⟩
  · exact ⟨rfl, trivial, trivial, by decide, trivial⟩

/-- Raising the total while two slots are out forgets them. -/
theorem resized_resource_forgets_use :
    ¬ ∀ (calls : List Call), Guarded act Legal fresh calls → Throughout act Exact fresh calls := by
  intro kept
  have legal : Guarded act Legal fresh
      (resized (.registerResource "gpu" 8) (.release (Dict.empty.set "gpu" 2))) :=
    ⟨by decide, by decide, by decide, ⟨_, List.mem_cons_self, by decide⟩, trivial⟩
  have counted := (kept _ legal).2.2.2.1 "gpu" ⟨"gpu", 8, 0⟩ (by decide)
  revert counted
  decide

end Ledger

end CapacityEnforcer

end CloudDogJobs
