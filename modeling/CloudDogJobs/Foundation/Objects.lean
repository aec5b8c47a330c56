import CloudDogJobs.Foundation.Dict

/-!
# Mutable objects and tables of references

Objects live in a store and are named by their addresses. A dictionary of addresses
stands for the dictionary of the objects' contents. When its addresses are distinct and
at or above some floor, changing one object through the dictionary changes one entry of
what it stands for, and no object below the floor.
-/

namespace Foundation

/-- A store of mutable objects. -/
structure Objects (α : Type) where
  cells : List α

namespace Objects

variable {α κ : Type} [Inhabited α]

/-- The address that the next object gets. -/
def size (objects : Objects α) : Nat := objects.cells.length

/-- The contents of an object. -/
def read (objects : Objects α) (address : Nat) : α := objects.cells.getD address default

/-- Create an object; its address is the old size. -/
def alloc (objects : Objects α) (contents : α) : Objects α := ⟨objects.cells ++ [contents]⟩

/-- Change an object in place. -/
def modify (objects : Objects α) (address : Nat) (change : α → α) : Objects α :=
  ⟨objects.cells.modify address change⟩

omit [Inhabited α] in
@[simp] theorem size_alloc (objects : Objects α) (contents : α) :
    (objects.alloc contents).size = objects.size + 1 := by
  simp [alloc, size]

omit [Inhabited α] in
@[simp] theorem size_modify (objects : Objects α) (address : Nat) (change : α → α) :
    (objects.modify address change).size = objects.size := by
  simp [modify, size]

@[simp] theorem read_alloc_self (objects : Objects α) (contents : α) :
    (objects.alloc contents).read objects.size = contents := by
  simp [alloc, size, read]

theorem read_alloc_of_lt {objects : Objects α} {address : Nat} (old : address < objects.size)
    (contents : α) : (objects.alloc contents).read address = objects.read address := by
  simp only [alloc, read, List.getD_eq_getElem?_getD, List.getElem?_append_left old]

theorem read_modify_self {objects : Objects α} {address : Nat} (present : address < objects.size)
    (change : α → α) :
    (objects.modify address change).read address = change (objects.read address) := by
  have found : objects.cells[address]? = some objects.cells[address] :=
    List.getElem?_eq_getElem present
  simp [modify, read, List.getD_eq_getElem?_getD, found]

theorem read_modify_of_ne {objects : Objects α} {address other : Nat} (different : other ≠ address)
    (change : α → α) : (objects.modify address change).read other = objects.read other := by
  simp [modify, read, List.getD_eq_getElem?_getD, Ne.symm different]

/-- Every object of the first store is in the second with the same contents. -/
structure Extends (first second : Objects α) : Prop where
  size : first.size ≤ second.size
  read : ∀ address < first.size, second.read address = first.read address

theorem Extends.refl (objects : Objects α) : objects.Extends objects :=
  ⟨Nat.le_refl _, fun _ _ => rfl⟩

theorem Extends.trans {first second third : Objects α} (earlier : first.Extends second)
    (later : second.Extends third) : first.Extends third where
  size := Nat.le_trans earlier.size later.size
  read address present := by
    rw [later.read address (Nat.lt_of_lt_of_le present earlier.size), earlier.read address present]

theorem Extends.alloc (objects : Objects α) (contents : α) :
    objects.Extends (objects.alloc contents) where
  size := by simp
  read _ present := read_alloc_of_lt present contents

variable [DecidableEq κ]

/-- All addresses of a table are in the store. -/
def Covers (objects : Objects α) (table : Dict κ Nat) : Prop :=
  ∀ key address, table.get? key = some address → address < objects.size

omit [Inhabited α] in
theorem Covers.entry {objects : Objects α} {table : Dict κ Nat} (covers : objects.Covers table)
    {entry : κ × Nat} (member : entry ∈ table.entries) : entry.2 < objects.size :=
  covers entry.1 entry.2 ((table.mem_entries_iff _ _).mp member)

/-- A larger store shows the same contents. -/
theorem Extends.mapValues {first second : Objects α} (grown : first.Extends second)
    {table : Dict κ Nat} (covers : first.Covers table) :
    table.mapValues second.read = table.mapValues first.read := by
  apply Dict.ext_entries
  apply List.map_congr_left
  intro entry member
  rw [grown.read entry.2 (covers.entry member)]

theorem Extends.covers {first second : Objects α} (grown : first.Extends second)
    {table : Dict κ Nat} (covers : first.Covers table) : second.Covers table :=
  fun key address found => Nat.lt_of_lt_of_le (covers key address found) grown.size

/-- The table stands for the values, with objects of its own at or above the floor. -/
structure Owns (objects : Objects α) (floor : Nat) (table : Dict κ Nat) (values : Dict κ α) :
    Prop where
  shown : table.mapValues objects.read = values
  covers : objects.Covers table
  above : ∀ key address, table.get? key = some address → floor ≤ address
  apart : ∀ key other address, table.get? key = some address →
    table.get? other = some address → key = other

namespace Owns

variable {objects : Objects α} {floor : Nat} {table : Dict κ Nat} {values : Dict κ α}

theorem empty (objects : Objects α) (floor : Nat) :
    objects.Owns floor (∅ : Dict κ Nat) ∅ :=
  ⟨rfl, nofun, nofun, nofun⟩

theorem get? (owns : objects.Owns floor table values) (key : κ) :
    values.get? key = (table.get? key).map objects.read := by
  rw [← owns.shown, Dict.get?_mapValues]

/-- Creating an object elsewhere changes nothing. -/
theorem alloc (owns : objects.Owns floor table values) (contents : α) :
    (objects.alloc contents).Owns floor table values where
  shown := ((Extends.alloc objects contents).mapValues owns.covers).trans owns.shown
  covers := (Extends.alloc objects contents).covers owns.covers
  above := owns.above
  apart := owns.apart

/-- Storing a new object. -/
theorem set (owns : objects.Owns floor table values) (high : floor ≤ objects.size) (key : κ)
    (contents : α) :
    (objects.alloc contents).Owns floor (table.set key objects.size) (values.set key contents) := by
  have kept := owns.alloc contents
  constructor
  · rw [Dict.mapValues_set, kept.shown, read_alloc_self]
  · refine Dict.forall_get?_set kept.covers ?_
    simp
  · exact Dict.forall_get?_set owns.above high
  · intro first second address
    rw [Dict.get?_set, Dict.get?_set]
    split
    · next here =>
        split
        · next there =>
            intro _ _
            rw [here, there]
        · intro new old
          have below := owns.covers second address old
          cases new
          omega
    · split
      · intro old new
        have below := owns.covers first address old
        cases new
        omega
      · exact owns.apart first second address

/-- Changing an object through the table. -/
theorem modify (owns : objects.Owns floor table values) {key : κ} {address : Nat}
    (found : table.get? key = some address) (change : α → α) :
    (objects.modify address change).Owns floor table
      (values.set key (change (objects.read address))) := by
  have present := owns.covers key address found
  have stored : values.get? key = some (objects.read address) := by
    rw [owns.get?, found]
    rfl
  constructor
  · apply Dict.ext_get?
    · rw [Dict.keys_set_of_get? stored, ← owns.shown]
      simp [Dict.keys, Dict.mapValues]
    · intro other
      rw [Dict.get?_mapValues, Dict.get?_set, owns.get?]
      by_cases same : other = key
      · rw [if_pos same, same, found, Option.map_some, read_modify_self present]
      · rw [if_neg same]
        cases elsewhere : table.get? other with
        | none => rfl
        | some place =>
            have different : place ≠ address := by
              intro equal
              exact same (owns.apart other key address (equal ▸ elsewhere) found)
            rw [Option.map_some, Option.map_some, read_modify_of_ne different]
  · intro other place elsewhere
    rw [size_modify]
    exact owns.covers other place elsewhere
  · exact owns.above
  · exact owns.apart

end Owns

/-- Changing an object at or above the size of an earlier store. -/
theorem Extends.modify {first second : Objects α} (grown : first.Extends second) {address : Nat}
    (new : first.size ≤ address) (change : α → α) :
    first.Extends (second.modify address change) where
  size := by
    rw [size_modify]
    exact grown.size
  read other present := by
    rw [read_modify_of_ne (by omega), grown.read other present]

end Objects

end Foundation
