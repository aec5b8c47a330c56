import Mathlib.Algebra.BigOperators.Group.List.Basic
import Mathlib.Algebra.Ring.Int.Defs
import Mathlib.Data.List.Nodup
import Mathlib.Data.List.Basic

/-!
# Insertion-ordered dictionaries

Finite maps that remember the order in which their keys were first inserted.
Assigning to a present key keeps its position; a new key goes to the end. The
keys of a dictionary are distinct by construction, so iteration over its items
visits every key once.
-/

namespace Foundation

/-- A finite map from `κ` to `α` in insertion order. -/
structure Dict (κ α : Type) where
  entries : List (κ × α)
  nodup : (entries.map Prod.fst).Nodup

namespace Dict

variable {κ α β : Type}

instance [DecidableEq κ] [DecidableEq α] : DecidableEq (Dict κ α) := fun first second =>
  decidable_of_iff (first.entries = second.entries) (by cases first; cases second; simp)

/-- The dictionary with no entries. -/
def empty : Dict κ α := ⟨[], List.nodup_nil⟩

instance : EmptyCollection (Dict κ α) := ⟨empty⟩
instance : Inhabited (Dict κ α) := ⟨empty⟩

/-- Keys in insertion order. -/
def keys (dict : Dict κ α) : List κ := dict.entries.map Prod.fst

/-- Values in insertion order of their keys. -/
def values (dict : Dict κ α) : List α := dict.entries.map Prod.snd

/-- Whether the dictionary has no entry. -/
def isEmpty (dict : Dict κ α) : Bool := dict.entries.isEmpty

theorem ext_entries {first second : Dict κ α} (same : first.entries = second.entries) :
    first = second := by
  cases first; cases second; simpa using same

section Lookup

variable [DecidableEq κ]

/-- The value stored under a key. -/
def get? (dict : Dict κ α) (key : κ) : Option α := dict.entries.lookup key

/-- The value stored under a key, or a default. -/
def getD (dict : Dict κ α) (key : κ) (fallback : α) : α := (dict.get? key).getD fallback

/-- Overwrite the value of a key in place, or append a new entry. -/
def assign (key : κ) (value : α) : List (κ × α) → List (κ × α)
  | [] => [(key, value)]
  | (other, old) :: rest =>
      if other = key then (other, value) :: rest else (other, old) :: assign key value rest

theorem map_fst_assign (key : κ) (value : α) (entries : List (κ × α)) :
    (assign key value entries).map Prod.fst =
      if key ∈ entries.map Prod.fst then entries.map Prod.fst
      else entries.map Prod.fst ++ [key] := by
  induction entries with
  | nil => simp [assign]
  | cons entry rest ih =>
      obtain ⟨other, old⟩ := entry
      by_cases same : other = key
      · simp [assign, same]
      · have different : key ≠ other := fun equal => same equal.symm
        simp only [assign, same, ↓reduceIte, List.map_cons, ih, List.mem_cons, different,
          false_or]
        split <;> rfl

theorem assign_of_not_mem (key : κ) (value : α) (entries : List (κ × α))
    (absent : key ∉ entries.map Prod.fst) :
    assign key value entries = entries ++ [(key, value)] := by
  induction entries with
  | nil => rfl
  | cons entry rest ih =>
      obtain ⟨other, old⟩ := entry
      rw [List.map_cons, List.mem_cons, not_or] at absent
      have different : other ≠ key := fun equal => absent.1 equal.symm
      simp only [assign, different, ↓reduceIte, ih absent.2, List.cons_append]

theorem lookup_assign (key other : κ) (value : α) (entries : List (κ × α)) :
    (assign key value entries).lookup other =
      if other = key then some value else entries.lookup other := by
  induction entries with
  | nil =>
      by_cases same : other = key
      · simp [assign, same]
      · have unequal : (other == key) = false := beq_false_of_ne same
        simp [assign, same, List.lookup_cons, unequal]
  | cons entry rest ih =>
      obtain ⟨head, old⟩ := entry
      by_cases same : head = key
      · subst same
        by_cases hit : other = head
        · simp [assign, hit]
        · have unequal : (other == head) = false := beq_false_of_ne hit
          simp [assign, hit, List.lookup_cons, unequal]
      · by_cases hit : other = head
        · subst hit
          simp [assign, same]
        · have unequal : (other == head) = false := beq_false_of_ne hit
          simp only [assign, same, ↓reduceIte, List.lookup_cons, unequal, ih]

/-- Store a value under a key. -/
def set (dict : Dict κ α) (key : κ) (value : α) : Dict κ α where
  entries := assign key value dict.entries
  nodup := by
    rw [map_fst_assign]
    split
    · exact dict.nodup
    · next absent =>
        rw [List.nodup_append]
        refine ⟨dict.nodup, List.nodup_singleton _, ?_⟩
        intro first member second single equal
        rw [List.mem_singleton] at single
        exact absent (single ▸ equal ▸ member)

/-- Remove a key; nothing happens when it is absent. -/
def erase (dict : Dict κ α) (key : κ) : Dict κ α where
  entries := dict.entries.filter fun entry => entry.1 ≠ key
  nodup := dict.nodup.sublist (List.filter_sublist.map _)

/-- Change the value of a key in place; nothing happens when it is absent. -/
def modify (dict : Dict κ α) (key : κ) (change : α → α) : Dict κ α where
  entries := dict.entries.map fun entry =>
    if entry.1 = key then (entry.1, change entry.2) else entry
  nodup := by
    have keysKept : ∀ entry : κ × α,
        (if entry.1 = key then (entry.1, change entry.2) else entry).1 = entry.1 := by
      intro entry
      split <;> rfl
    rw [List.map_map]
    have same := List.map_congr_left (l := dict.entries) (fun entry _ => keysKept entry)
    exact same ▸ dict.nodup

/-- Build a dictionary from items, later items overwriting earlier ones. -/
def ofList (items : List (κ × α)) : Dict κ α :=
  items.foldl (fun dict item => dict.set item.1 item.2) empty

@[simp] theorem get?_empty (key : κ) : (empty : Dict κ α).get? key = none := rfl

@[simp] theorem get?_emptyCollection (key : κ) : (∅ : Dict κ α).get? key = none := rfl

theorem get?_set (dict : Dict κ α) (key other : κ) (value : α) :
    (dict.set key value).get? other = if other = key then some value else dict.get? other :=
  lookup_assign key other value dict.entries

@[simp] theorem get?_set_self (dict : Dict κ α) (key : κ) (value : α) :
    (dict.set key value).get? key = some value := by
  rw [get?_set, if_pos rfl]

theorem get?_set_of_ne (dict : Dict κ α) {key other : κ} (value : α) (different : other ≠ key) :
    (dict.set key value).get? other = dict.get? other := by
  rw [get?_set, if_neg different]

/-- What holds of every entry and of the new one holds of every entry after. -/
theorem forall_get?_set {property : κ → α → Prop} {dict : Dict κ α}
    (every : ∀ key value, dict.get? key = some value → property key value) {key : κ} {value : α}
    (new : property key value) :
    ∀ other stored, (dict.set key value).get? other = some stored → property other stored := by
  intro other stored found
  rw [get?_set] at found
  split at found
  · next same =>
      rw [same, ← Option.some.inj found]
      exact new
  · exact every other stored found

theorem getD_set (dict : Dict κ α) (key other : κ) (value fallback : α) :
    (dict.set key value).getD other fallback =
      if other = key then value else dict.getD other fallback := by
  unfold getD
  rw [get?_set]
  split <;> rfl

theorem lookup_filter_ne (key other : κ) (entries : List (κ × α)) :
    (entries.filter fun entry => entry.1 ≠ key).lookup other =
      if other = key then none else entries.lookup other := by
  induction entries with
  | nil => simp
  | cons entry rest ih =>
      obtain ⟨head, value⟩ := entry
      by_cases same : head = key
      · subst same
        rw [List.filter_cons_of_neg (by simp), ih]
        by_cases hit : other = head
        · simp [hit]
        · have unequal : (other == head) = false := beq_false_of_ne hit
          simp [hit, List.lookup_cons, unequal]
      · rw [List.filter_cons_of_pos (by simpa using same)]
        by_cases hit : other = head
        · subst hit
          simp [same]
        · have unequal : (other == head) = false := beq_false_of_ne hit
          simp only [List.lookup_cons, unequal]
          exact ih

theorem get?_erase (dict : Dict κ α) (key other : κ) :
    (dict.erase key).get? other = if other = key then none else dict.get? other :=
  lookup_filter_ne key other dict.entries

theorem lookup_map_modify (key other : κ) (change : α → α) (entries : List (κ × α)) :
    (entries.map fun entry =>
        if entry.1 = key then (entry.1, change entry.2) else entry).lookup other =
      if other = key then (entries.lookup key).map change else entries.lookup other := by
  induction entries with
  | nil => simp
  | cons entry rest ih =>
      obtain ⟨head, value⟩ := entry
      rw [List.map_cons]
      by_cases same : head = key
      · subst same
        by_cases hit : other = head
        · subst hit
          simp
        · have unequal : (other == head) = false := beq_false_of_ne hit
          simpa [List.lookup_cons, unequal, hit] using ih
      · by_cases hit : other = head
        · subst hit
          simp [same]
        · have unequal : (other == head) = false := beq_false_of_ne hit
          have missed : (key == head) = false := beq_false_of_ne (Ne.symm same)
          simpa [List.lookup_cons, unequal, missed, same] using ih

theorem get?_modify (dict : Dict κ α) (key other : κ) (change : α → α) :
    (dict.modify key change).get? other =
      if other = key then (dict.get? key).map change else dict.get? other :=
  lookup_map_modify key other change dict.entries

section MapValues

variable (read : α → β)

/-- The dictionary with every value read through a function. -/
def mapValues (dict : Dict κ α) : Dict κ β where
  entries := dict.entries.map fun entry => (entry.1, read entry.2)
  nodup := by
    rw [List.map_map]
    exact dict.nodup

theorem lookup_mapValues (entries : List (κ × α)) (key : κ) :
    (entries.map fun entry => (entry.1, read entry.2)).lookup key =
      (entries.lookup key).map read := by
  induction entries with
  | nil => rfl
  | cons entry rest ih =>
      obtain ⟨head, value⟩ := entry
      by_cases hit : key = head
      · subst hit
        simp
      · have unequal : (key == head) = false := beq_false_of_ne hit
        simpa [List.lookup_cons, unequal] using ih

theorem get?_mapValues (dict : Dict κ α) (key : κ) :
    (dict.mapValues read).get? key = (dict.get? key).map read :=
  lookup_mapValues read dict.entries key

omit [DecidableEq κ] in
theorem values_mapValues (dict : Dict κ α) :
    (dict.mapValues read).values = dict.values.map read := by
  simp only [values, mapValues, List.map_map]
  rfl

theorem assign_mapValues (key : κ) (value : α) (entries : List (κ × α)) :
    (assign key value entries).map (fun entry => (entry.1, read entry.2)) =
      assign key (read value) (entries.map fun entry => (entry.1, read entry.2)) := by
  induction entries with
  | nil => rfl
  | cons entry rest ih =>
      obtain ⟨head, old⟩ := entry
      by_cases hit : head = key
      · simp [assign, hit]
      · simp [assign, hit, ih]

theorem mapValues_set (dict : Dict κ α) (key : κ) (value : α) :
    (dict.set key value).mapValues read = (dict.mapValues read).set key (read value) :=
  ext_entries (assign_mapValues read key value dict.entries)

/-- Reading commutes with a change in place that it sees as a change of its own. -/
theorem mapValues_modify {change : α → α} (seen : β → β)
    (sees : ∀ value, read (change value) = seen (read value)) (dict : Dict κ α) (key : κ) :
    (dict.modify key change).mapValues read = (dict.mapValues read).modify key seen := by
  apply ext_entries
  simp only [mapValues, modify, List.map_map]
  apply List.map_congr_left
  intro entry _
  simp only [Function.comp_apply]
  split
  · rw [sees]
  · rfl

/-- A change in place that changes nothing. -/
theorem modify_id (dict : Dict κ α) (key : κ) : (dict.modify key fun value => value) = dict := by
  apply ext_entries
  simp only [modify]
  rw [List.map_congr_left (g := id)]
  · exact List.map_id _
  · intro entry _
    split
    · rfl
    · rfl

/-- Nothing happens to an absent key. -/
theorem modify_of_get?_none {dict : Dict κ α} {key : κ} (absent : dict.get? key = none)
    (change : α → α) : dict.modify key change = dict := by
  apply ext_entries
  simp only [modify]
  rw [List.map_congr_left (g := id)]
  · exact List.map_id _
  · intro entry member
    have different : entry.1 ≠ key := by
      intro same
      have found := List.lookup_isSome_iff.mpr ⟨entry, member, beq_iff_eq.mpr same.symm⟩
      rw [show dict.entries.lookup key = none from absent] at found
      cases found
    exact if_neg different

end MapValues

/-- With distinct keys, an item is present exactly when its key looks it up. -/
theorem mem_iff_lookup {entries : List (κ × α)} (distinct : (entries.map Prod.fst).Nodup)
    (key : κ) (value : α) :
    (key, value) ∈ entries ↔ entries.lookup key = some value := by
  induction entries with
  | nil => simp
  | cons entry rest ih =>
      obtain ⟨head, first⟩ := entry
      rw [List.map_cons, List.nodup_cons] at distinct
      by_cases hit : key = head
      · subst hit
        have absent : ∀ other, (key, other) ∉ rest := fun other member =>
          distinct.1 (List.mem_map.mpr ⟨(key, other), member, rfl⟩)
        simp [absent, eq_comm]
      · have unequal : (key == head) = false := beq_false_of_ne hit
        simp only [List.mem_cons, Prod.mk.injEq, hit, false_and, false_or, List.lookup_cons,
          unequal]
        exact ih distinct.2

theorem lookup_eq_none_of_not_mem {entries : List (κ × α)}
    (distinct : (entries.map Prod.fst).Nodup) {key : κ} (absent : key ∉ entries.map Prod.fst) :
    entries.lookup key = none := by
  cases found : entries.lookup key with
  | none => rfl
  | some value =>
      have member := (mem_iff_lookup distinct key value).mpr found
      exact absurd (List.mem_map.mpr ⟨_, member, rfl⟩) absent

theorem mem_entries_iff (dict : Dict κ α) (key : κ) (value : α) :
    (key, value) ∈ dict.entries ↔ dict.get? key = some value :=
  mem_iff_lookup dict.nodup key value

theorem mem_keys_iff (dict : Dict κ α) (key : κ) :
    key ∈ dict.keys ↔ (dict.get? key).isSome := by
  rw [Option.isSome_iff_exists, keys, List.mem_map]
  constructor
  · rintro ⟨⟨_, value⟩, member, rfl⟩
    exact ⟨value, (dict.mem_entries_iff _ _).mp member⟩
  · rintro ⟨value, found⟩
    exact ⟨(key, value), (dict.mem_entries_iff _ _).mpr found, rfl⟩

theorem mem_values_iff (dict : Dict κ α) (value : α) :
    value ∈ dict.values ↔ ∃ key, dict.get? key = some value := by
  rw [values, List.mem_map]
  constructor
  · rintro ⟨⟨key, _⟩, member, rfl⟩
    exact ⟨key, (dict.mem_entries_iff _ _).mp member⟩
  · rintro ⟨key, found⟩
    exact ⟨(key, value), (dict.mem_entries_iff _ _).mpr found, rfl⟩

theorem eq_of_lookup {first second : List (κ × α)} (distinct : (first.map Prod.fst).Nodup)
    (keys : first.map Prod.fst = second.map Prod.fst)
    (same : ∀ key, first.lookup key = second.lookup key) : first = second := by
  induction first generalizing second with
  | nil => exact (List.map_eq_nil_iff.mp keys.symm).symm
  | cons entry rest ih =>
      obtain ⟨head, value⟩ := entry
      cases second with
      | nil => cases keys
      | cons other others =>
          obtain ⟨name, stored⟩ := other
          obtain ⟨rfl, tail⟩ := List.cons.inj keys
          rw [List.map_cons, List.nodup_cons] at distinct
          have equal : value = stored := by simpa using same head
          have later : ∀ key, rest.lookup key = others.lookup key := by
            intro key
            by_cases hit : key = head
            · subst hit
              have absent : key ∉ others.map Prod.fst := tail ▸ distinct.1
              have second := lookup_eq_none_of_not_mem (tail ▸ distinct.2) absent
              rw [lookup_eq_none_of_not_mem distinct.2 distinct.1, second]
            · have unequal : (key == head) = false := beq_false_of_ne hit
              simpa [List.lookup_cons, unequal] using same key
          rw [equal, ih distinct.2 tail later]

/-- Two dictionaries with the same keys in the same order and the same values. -/
theorem ext_get? {first second : Dict κ α} (keys : first.keys = second.keys)
    (same : ∀ key, first.get? key = second.get? key) : first = second :=
  ext_entries (eq_of_lookup first.nodup keys same)

/-- Assigning to a present key keeps the keys. -/
theorem keys_set_of_get? {dict : Dict κ α} {key : κ} {old : α} (present : dict.get? key = some old)
    (value : α) : (dict.set key value).keys = dict.keys := by
  have member : key ∈ dict.entries.map Prod.fst := by
    rw [← keys, mem_keys_iff, present]
    rfl
  rw [keys, set, map_fst_assign, if_pos member]
  rfl

/-- The second of two assignments to one key stays. -/
theorem set_set (dict : Dict κ α) (key : κ) (first second : α) :
    (dict.set key first).set key second = dict.set key second := by
  apply ext_get?
  · rw [keys_set_of_get? (dict.get?_set_self key first)]
    simp only [keys, set, map_fst_assign]
  · intro other
    rw [get?_set, get?_set, get?_set]
    split
    · rfl
    · rfl

/-- The same with an assignment to another key between them. -/
theorem set_set_between (dict : Dict κ α) {key other : κ} (different : key ≠ other)
    (first second between : α) :
    ((dict.set key first).set other between).set key second =
      (dict.set key second).set other between := by
  apply ext_get?
  · rw [keys_set_of_get? ((get?_set_of_ne _ _ different).trans (dict.get?_set_self key first))]
    simp only [keys, set, map_fst_assign]
  · intro name
    by_cases here : name = key
    · subst here
      rw [get?_set_self, get?_set_of_ne _ _ different, get?_set_self]
    · simp only [get?_set, here, ↓reduceIte]

/-- A fold over items with distinct keys, read at one key: when a step changes what is
read only for its own key, the one item under that key decides. -/
theorem read_foldl {γ : Type} (read : Dict κ α → γ) (write : γ → β → γ)
    {step : Dict κ α → κ × β → Dict κ α} {key : κ}
    (here : ∀ dict item, read (step dict (key, item)) = write (read dict) item)
    (elsewhere : ∀ dict item, key ≠ item.1 → read (step dict item) = read dict)
    (items : List (κ × β)) (distinct : (items.map Prod.fst).Nodup) (dict : Dict κ α) :
    read (items.foldl step dict) =
      match items.lookup key with
      | none => read dict
      | some item => write (read dict) item := by
  induction items generalizing dict with
  | nil => rfl
  | cons item rest ih =>
      obtain ⟨head, value⟩ := item
      rw [List.map_cons, List.nodup_cons] at distinct
      rw [List.foldl_cons, ih distinct.2]
      by_cases hit : key = head
      · subst hit
        rw [lookup_eq_none_of_not_mem distinct.2 distinct.1, List.lookup_cons_self]
        exact here dict value
      · have unequal : (key == head) = false := beq_false_of_ne hit
        simp only [List.lookup_cons, unequal, elsewhere dict (head, value) hit]

/-- Fold the items of another dictionary into this one, combining each with the
value already stored under its key, or with a default. -/
def accumulate (dict : Dict κ α) (fallback : α) (combine : α → β → α) (items : Dict κ β) :
    Dict κ α :=
  items.entries.foldl
    (fun current item => current.set item.1 (combine (current.getD item.1 fallback) item.2)) dict

theorem getD_foldl_set (fallback : α) (combine : α → β → α) (key : κ) (items : List (κ × β))
    (distinct : (items.map Prod.fst).Nodup) (dict : Dict κ α) :
    (items.foldl
        (fun current item => current.set item.1 (combine (current.getD item.1 fallback) item.2))
        dict).getD key fallback =
      match items.lookup key with
      | none => dict.getD key fallback
      | some item => combine (dict.getD key fallback) item := by
  refine read_foldl (fun dict => dict.getD key fallback) combine ?_ ?_ items distinct dict
  · intro current item
    rw [getD_set, if_pos rfl]
  · intro current item other
    rw [getD_set, if_neg other]

theorem getD_accumulate (dict : Dict κ α) (fallback : α) (combine : α → β → α)
    (items : Dict κ β) (key : κ) :
    (dict.accumulate fallback combine items).getD key fallback =
      match items.get? key with
      | none => dict.getD key fallback
      | some item => combine (dict.getD key fallback) item :=
  getD_foldl_set fallback combine key items.entries items.nodup dict

/-- Change the values stored under the keys of another dictionary, each with the
item that stands there. -/
def adjust (dict : Dict κ α) (change : α → β → α) (items : Dict κ β) : Dict κ α :=
  items.entries.foldl
    (fun current item => current.modify item.1 fun value => change value item.2) dict

theorem get?_foldl_modify (change : α → β → α) (key : κ) (items : List (κ × β))
    (distinct : (items.map Prod.fst).Nodup) (dict : Dict κ α) :
    (items.foldl (fun current item =>
        current.modify item.1 fun value => change value item.2) dict).get? key =
      match items.lookup key with
      | none => dict.get? key
      | some item => (dict.get? key).map fun value => change value item := by
  refine read_foldl (fun dict => dict.get? key)
    (fun held item => held.map fun value => change value item) ?_ ?_ items distinct dict
  · intro current item
    rw [get?_modify, if_pos rfl]
  · intro current item other
    rw [get?_modify, if_neg other]

theorem get?_adjust (dict : Dict κ α) (change : α → β → α) (items : Dict κ β) (key : κ) :
    (dict.adjust change items).get? key =
      match items.get? key with
      | none => dict.get? key
      | some item => (dict.get? key).map fun value => change value item :=
  get?_foldl_modify change key items.entries items.nodup dict

section Update

/-- Store all items of another dictionary. -/
def update (dict items : Dict κ α) : Dict κ α :=
  items.entries.foldl (fun current item => current.set item.1 item.2) dict

theorem get?_foldl_set (key : κ) (items : List (κ × α)) (distinct : (items.map Prod.fst).Nodup)
    (dict : Dict κ α) :
    (items.foldl (fun current item => current.set item.1 item.2) dict).get? key =
      (items.lookup key).or (dict.get? key) := by
  have decided : (items.foldl (fun current item => current.set item.1 item.2) dict).get? key =
      match items.lookup key with
      | none => dict.get? key
      | some item => some item := by
    refine read_foldl (fun dict => dict.get? key) (fun _ item => some item) ?_ ?_ items
      distinct dict
    · intro current item
      rw [get?_set, if_pos rfl]
    · intro current item other
      rw [get?_set, if_neg other]
  rw [decided]
  cases items.lookup key with
  | none => rfl
  | some item => rfl

/-- New keys go to the end, in their order. -/
theorem entries_foldl_set (items : List (κ × α)) (distinct : (items.map Prod.fst).Nodup)
    (dict : Dict κ α) (fresh : ∀ item ∈ items, item.1 ∉ dict.keys) :
    (items.foldl (fun current item => current.set item.1 item.2) dict).entries =
      dict.entries ++ items := by
  induction items generalizing dict with
  | nil => simp
  | cons item rest ih =>
      obtain ⟨head, value⟩ := item
      rw [List.map_cons, List.nodup_cons] at distinct
      have absent : head ∉ dict.entries.map Prod.fst := fresh (head, value) List.mem_cons_self
      have appended : (dict.set head value).entries = dict.entries ++ [(head, value)] :=
        assign_of_not_mem head value dict.entries absent
      rw [List.foldl_cons, ih distinct.2, appended, List.append_assoc]
      · rfl
      · intro other member
        rw [keys, appended, List.map_append, List.mem_append, List.map_singleton,
          List.mem_singleton]
        rintro (earlier | same)
        · exact fresh other (List.mem_cons_of_mem _ member) earlier
        · exact distinct.1 (List.mem_map.mpr ⟨other, member, same⟩)

/-- A dictionary built from its own items. -/
@[simp] theorem ofList_entries (dict : Dict κ α) : ofList dict.entries = dict := by
  apply ext_entries
  rw [ofList, entries_foldl_set dict.entries dict.nodup]
  · rfl
  · intro item _ member
    cases member

/-- An updated key has its new value, any other key its old one. -/
theorem get?_update (dict items : Dict κ α) (key : κ) :
    (dict.update items).get? key = (items.get? key).or (dict.get? key) :=
  get?_foldl_set key items.entries items.nodup dict

/-- A key that is not updated. -/
theorem get?_update_of_none (dict : Dict κ α) {items : Dict κ α} {key : κ}
    (absent : items.get? key = none) : (dict.update items).get? key = dict.get? key := by
  rw [get?_update, absent, Option.none_or]

end Update

section Counter

/-- How often each item of a list occurs, under the items in the order of their
first occurrence. -/
def counter (items : List κ) : Dict κ Nat :=
  items.foldl (fun counts item => counts.set item (counts.getD item 0 + 1)) ∅

theorem getD_foldl_count (items : List κ) (counts : Dict κ Nat) (key : κ) :
    (items.foldl (fun counts item => counts.set item (counts.getD item 0 + 1)) counts).getD key 0 =
      counts.getD key 0 + items.count key := by
  induction items generalizing counts with
  | nil => rfl
  | cons item rest ih =>
      rw [List.foldl_cons, ih, getD_set, List.count_cons]
      by_cases same : key = item
      · subst same
        simp only [↓reduceIte, beq_self_eq_true]
        omega
      · have unequal : (item == key) = false := beq_false_of_ne fun equal => same equal.symm
        simp only [same, ↓reduceIte, unequal, Bool.false_eq_true, Nat.add_zero]

theorem isSome_foldl_count (items : List κ) (counts : Dict κ Nat) (key : κ) :
    ((items.foldl (fun counts item => counts.set item (counts.getD item 0 + 1)) counts).get?
        key).isSome = (decide (key ∈ items) || (counts.get? key).isSome) := by
  induction items generalizing counts with
  | nil => simp
  | cons item rest ih =>
      rw [List.foldl_cons, ih, get?_set]
      by_cases same : key = item
      · simp [same]
      · simp [same]

@[simp] theorem getD_counter (items : List κ) (key : κ) :
    (counter items).getD key 0 = items.count key := by
  rw [counter, getD_foldl_count]
  exact Nat.zero_add _

/-- An item that occurs is counted, any other has no entry. -/
theorem get?_counter (items : List κ) (key : κ) :
    (counter items).get? key = if key ∈ items then some (items.count key) else none := by
  have present : ((counter items).get? key).isSome = (decide (key ∈ items) || false) :=
    isSome_foldl_count items ∅ key
  have counted := getD_counter items key
  unfold getD at counted
  cases found : (counter items).get? key with
  | none =>
      rw [found] at present
      have absent : key ∉ items := by simpa using present.symm
      rw [if_neg absent]
  | some count =>
      rw [found] at present counted
      have member : key ∈ items := by simpa using present.symm
      rw [if_pos member, ← show count = items.count key from counted]

end Counter

section Total

/-- The sum of a weight over the values. -/
def total (dict : Dict κ α) (weight : α → Int) : Int := (dict.values.map weight).sum

theorem sum_assign (weight : α → Int) (key : κ) (value : α) (entries : List (κ × α)) :
    ((assign key value entries).map fun entry => weight entry.2).sum =
      (entries.map fun entry => weight entry.2).sum -
        ((entries.lookup key).map weight).getD 0 + weight value := by
  induction entries with
  | nil => simp [assign]
  | cons entry rest ih =>
      obtain ⟨head, old⟩ := entry
      by_cases same : head = key
      · subst same
        simp only [assign, ↓reduceIte, List.map_cons, List.sum_cons, List.lookup_cons_self,
          Option.map_some, Option.getD_some]
        omega
      · have unequal : (key == head) = false := beq_false_of_ne (Ne.symm same)
        simp only [assign, same, ↓reduceIte, List.map_cons, List.sum_cons, List.lookup_cons,
          unequal, ih]
        omega

theorem total_set (dict : Dict κ α) (weight : α → Int) (key : κ) (value : α) :
    (dict.set key value).total weight =
      dict.total weight - ((dict.get? key).map weight).getD 0 + weight value := by
  simp only [total, values, List.map_map]
  exact sum_assign weight key value dict.entries

theorem sum_filter_ne (weight : α → Int) (key : κ) (entries : List (κ × α))
    (distinct : (entries.map Prod.fst).Nodup) :
    ((entries.filter fun entry => entry.1 ≠ key).map fun entry => weight entry.2).sum =
      (entries.map fun entry => weight entry.2).sum -
        ((entries.lookup key).map weight).getD 0 := by
  induction entries with
  | nil => simp
  | cons entry rest ih =>
      obtain ⟨head, value⟩ := entry
      rw [List.map_cons, List.nodup_cons] at distinct
      by_cases same : head = key
      · subst same
        have kept : rest.filter (fun entry => entry.1 ≠ head) = rest := by
          rw [List.filter_eq_self]
          intro other member
          have different : other.1 ≠ head := fun equal =>
            distinct.1 (List.mem_map.mpr ⟨other, member, equal⟩)
          simpa using different
        rw [List.filter_cons_of_neg (by simp), kept]
        simp only [List.map_cons, List.sum_cons, List.lookup_cons_self, Option.map_some,
          Option.getD_some]
        omega
      · have unequal : (key == head) = false := beq_false_of_ne (Ne.symm same)
        rw [List.filter_cons_of_pos (by simpa using same)]
        simp only [List.map_cons, List.sum_cons, List.lookup_cons, unequal, ih distinct.2]
        omega

theorem total_erase (dict : Dict κ α) (weight : α → Int) (key : κ) :
    (dict.erase key).total weight =
      dict.total weight - ((dict.get? key).map weight).getD 0 := by
  simp only [total, values, List.map_map]
  exact sum_filter_ne weight key dict.entries dict.nodup

/-- A dictionary in which no key is found has nothing to sum. -/
theorem total_eq_zero (dict : Dict κ α) (weight : α → Int)
    (nothing : ∀ key, dict.get? key = none) : dict.total weight = 0 := by
  have empty : dict.values = [] := by
    rw [List.eq_nil_iff_forall_not_mem]
    intro value member
    obtain ⟨key, found⟩ := (dict.mem_values_iff value).mp member
    rw [nothing key] at found
    cases found
  rw [total, empty]
  rfl

end Total

end Lookup

end Dict

end Foundation
