import CloudDogJobs.Foundation.Dict

/-!
# Resource pool

`scheduler/resource_pool.py`: slot usage per pool, and the slots each job holds.
Each method holds the pool's lock, so each is one atomic step. A holding is
keyed by the job identifier alone, so a second acquisition for the same job
overwrites the first.
-/

namespace CloudDogJobs

open Foundation

/-- Slot limits, usage and holders. -/
structure ResourcePool where
  limits : Dict String Int
  used : Dict String Int
  holders : Dict String (Dict String Int)

namespace ResourcePool

/-- A pool with no slot in use. -/
def init (limits : Dict String Int) : ResourcePool := ⟨limits, ∅, ∅⟩

/-- The use count of a pool. -/
def usedOf (pool : ResourcePool) (name : String) : Int := pool.used.getD name 0

/-- All requested slots are available; a pool without a limit never refuses. -/
def canAcquire (pool : ResourcePool) (resources : Dict String Int) : Bool :=
  resources.entries.all fun (name, requested) =>
    match pool.limits.get? name with
    | none => true
    | some limit => pool.usedOf name + requested ≤ limit

def acquire (pool : ResourcePool) (jobId : String) (resources : Dict String Int) :
    Bool × ResourcePool :=
  if resources.isEmpty then (true, pool)
  else if pool.canAcquire resources then
    (true,
      { pool with
        used := pool.used.accumulate 0 (fun used requested => used + requested) resources
        holders := pool.holders.set jobId resources })
  else (false, pool)

def release (pool : ResourcePool) (jobId : String) : ResourcePool :=
  { pool with
    used := pool.used.accumulate 0 (fun used slots => max 0 (used - slots))
      (pool.holders.getD jobId ∅)
    holders := pool.holders.erase jobId }

/-- The slots of a pool in a request; zero when it is not named. -/
def slots (resources : Dict String Int) (name : String) : Int := resources.getD name 0

theorem slots_eq (resources : Dict String Int) (name : String) :
    slots resources name = (resources.get? name).getD 0 := rfl

theorem acquire_fst (pool : ResourcePool) (jobId : String) {resources : Dict String Int}
    (filled : resources.isEmpty = false) :
    (pool.acquire jobId resources).1 = pool.canAcquire resources := by
  simp only [acquire, filled, Bool.false_eq_true, ↓reduceIte]
  split
  · next room => exact room.symm
  · next full => exact (Bool.not_eq_true _ ▸ full).symm

theorem usedOf_acquire (pool : ResourcePool) (jobId : String) (resources : Dict String Int)
    (granted : (pool.acquire jobId resources).1 = true) (name : String) :
    (pool.acquire jobId resources).2.usedOf name = pool.usedOf name + slots resources name := by
  unfold acquire at *
  split at granted
  · next none =>
      have unnamed : resources.get? name = Option.none := by
        have nothing : resources.entries = [] := by simpa [Dict.isEmpty] using none
        simp [Dict.get?, nothing]
      simp [slots_eq, unnamed, none]
  · next some =>
      split at granted
      · next room =>
          simp only [some, room, ↓reduceIte, usedOf, Dict.getD_accumulate, Bool.false_eq_true]
          rw [slots_eq]
          cases resources.get? name <;> simp
      · cases granted

theorem usedOf_release (pool : ResourcePool) (jobId name : String) :
    (pool.release jobId).usedOf name =
      match (pool.holders.getD jobId ∅).get? name with
      | none => pool.usedOf name
      | some held => max 0 (pool.usedOf name - held) := by
  unfold release usedOf
  rw [Dict.getD_accumulate]
  cases (pool.holders.getD jobId ∅).get? name <;> rfl

/-- What a granted acquisition leaves: the request is the job's holding. -/
theorem holders_acquire (pool : ResourcePool) (jobId : String) (resources : Dict String Int)
    (granted : (pool.acquire jobId resources).1 = true) (filled : resources.isEmpty = false) :
    (pool.acquire jobId resources).2.holders = pool.holders.set jobId resources := by
  unfold acquire at *
  simp only [filled, Bool.false_eq_true, ↓reduceIte] at granted ⊢
  split at granted
  · next room => simp [room]
  · cases granted

/-- A release gives back at most what the job holds. -/
theorem sub_le_usedOf_release (pool : ResourcePool) (jobId name : String) :
    pool.usedOf name - slots (pool.holders.getD jobId ∅) name ≤
      (pool.release jobId).usedOf name := by
  rw [usedOf_release, slots_eq]
  cases (pool.holders.getD jobId ∅).get? name with
  | none => simp
  | some held =>
      simp only [Option.getD_some]
      omega

/-- A release that the clamp at zero does not touch gives back what the job holds. -/
theorem usedOf_release_of_covered (pool : ResourcePool) (jobId name : String)
    (covered : ∀ held, (pool.holders.getD jobId ∅).get? name = some held →
      held ≤ pool.usedOf name) :
    (pool.release jobId).usedOf name =
      pool.usedOf name - slots (pool.holders.getD jobId ∅) name := by
  rw [usedOf_release, slots_eq]
  cases found : (pool.holders.getD jobId ∅).get? name with
  | none => simp
  | some held =>
      have enough := covered held found
      simp only [Option.getD_some]
      omega

/-- A release of slots that are not negative stays below a limit that is not. -/
theorem usedOf_release_le (pool : ResourcePool) (jobId name : String) {limit : Int}
    (wide : 0 ≤ limit) (within : pool.usedOf name ≤ limit)
    (held : 0 ≤ slots (pool.holders.getD jobId ∅) name) :
    (pool.release jobId).usedOf name ≤ limit := by
  rw [slots_eq] at held
  rw [usedOf_release]
  cases found : (pool.holders.getD jobId ∅).get? name with
  | none => exact within
  | some amount =>
      rw [found, Option.getD_some] at held
      simp only
      omega

/-- What is granted fits under every limit. -/
theorem usedOf_acquire_le (pool : ResourcePool) (jobId : String) (resources : Dict String Int)
    (granted : (pool.acquire jobId resources).1 = true) (filled : resources.isEmpty = false)
    {name : String} {limit : Int} (limited : pool.limits.get? name = some limit)
    (within : pool.usedOf name ≤ limit) :
    (pool.acquire jobId resources).2.usedOf name ≤ limit := by
  rw [usedOf_acquire pool jobId resources granted, slots_eq]
  cases asked : resources.get? name with
  | none => simpa using within
  | some amount =>
      rw [acquire_fst pool jobId filled, canAcquire, List.all_eq_true] at granted
      have fits := granted (name, amount) ((resources.mem_entries_iff name amount).mpr asked)
      simpa [limited] using fits

/-- Releasing a job that holds nothing changes no count. -/
theorem usedOf_release_of_free (pool : ResourcePool) {jobId : String}
    (free : pool.holders.get? jobId = none) (name : String) :
    (pool.release jobId).usedOf name = pool.usedOf name := by
  have nothing : (pool.holders.getD jobId ∅).get? name = none := by
    rw [Dict.getD, free]
    rfl
  rw [usedOf_release, nothing]

/-- Taking slots and giving them back restores every count that was not
negative; the clamp at zero lifts the others. -/
theorem usedOf_release_acquire (pool : ResourcePool) (jobId : String)
    (resources : Dict String Int) (granted : (pool.acquire jobId resources).1 = true)
    (filled : resources.isEmpty = false) (name : String) :
    ((pool.acquire jobId resources).2.release jobId).usedOf name =
      if name ∈ resources.keys then max 0 (pool.usedOf name) else pool.usedOf name := by
  have held : (pool.acquire jobId resources).2.holders.getD jobId ∅ = resources := by
    rw [holders_acquire pool jobId resources granted filled, Dict.getD, Dict.get?_set_self]
    rfl
  rw [usedOf_release, held, usedOf_acquire pool jobId resources granted, slots_eq]
  cases asked : resources.get? name with
  | none => simp [Dict.mem_keys_iff, asked]
  | some count => simp [Dict.mem_keys_iff, asked]

/-- The pool refuses when one of the requests exceeds its limit. -/
theorem canAcquire_eq_false_iff (pool : ResourcePool) (resources : Dict String Int) :
    pool.canAcquire resources = false ↔
      ∃ name requested limit, resources.get? name = some requested ∧
        pool.limits.get? name = some limit ∧ limit < pool.usedOf name + requested := by
  rw [canAcquire, List.all_eq_false]
  constructor
  · rintro ⟨⟨name, requested⟩, member, exceeds⟩
    rw [Dict.mem_entries_iff] at member
    cases limited : pool.limits.get? name with
    | none => simp [limited] at exceeds
    | some limit =>
        exact ⟨name, requested, limit, member, limited, by simpa [limited] using exceeds⟩
  · rintro ⟨name, requested, limit, asked, limited, exceeds⟩
    refine ⟨(name, requested), (Dict.mem_entries_iff _ _ _).mpr asked, ?_⟩
    simpa [limited] using exceeds

theorem limits_acquire (pool : ResourcePool) (jobId : String) (resources : Dict String Int) :
    (pool.acquire jobId resources).2.limits = pool.limits := by
  unfold acquire
  split
  · rfl
  · split <;> rfl

theorem acquire_refused (pool : ResourcePool) (jobId : String) (resources : Dict String Int)
    (refused : (pool.acquire jobId resources).1 = false) :
    (pool.acquire jobId resources).2 = pool := by
  unfold acquire at *
  split at refused
  · cases refused
  · split at refused
    · cases refused
    · next filled full => simp [filled, full]

end ResourcePool

end CloudDogJobs
