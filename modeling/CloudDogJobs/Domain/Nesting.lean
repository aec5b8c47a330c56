import CloudDogJobs.Domain.Codec

/-!
# Nested values

Lists, tuples and dictionaries hold values to any depth. The induction principle
below goes through the items and the entries of a value, and `Value.decoded` is
what a value becomes on its way through a JSON text.
-/

namespace CloudDogJobs

namespace Value

/-- Induction over a value: a list or tuple has the property when its items do, a
dictionary when the values of its entries do. -/
@[elab_as_elim]
theorem nested {motive : Value → Prop} (none : motive .none) (bool : ∀ value, motive (.bool value))
    (int : ∀ value, motive (.int value)) (float : ∀ text, motive (.float text))
    (str : ∀ text, motive (.str text))
    (list : ∀ items, (∀ item ∈ items, motive item) → motive (.list items))
    (tuple : ∀ items, (∀ item ∈ items, motive item) → motive (.tuple items))
    (dict : ∀ entries, (∀ entry ∈ entries, motive entry.2) → motive (.dict entries))
    (value : Value) : motive value := by
  refine @Value.rec motive (fun items => ∀ item ∈ items, motive item)
    (fun entries => ∀ entry ∈ entries, motive entry.2) (fun entry => motive entry.2)
    none bool int float str list tuple dict ?_ ?_ ?_ ?_ ?_ value
  · intro item member
    cases member
  · intro head rest first others item member
    rcases List.mem_cons.mp member with rfl | later
    · exact first
    · exact others item later
  · intro entry member
    cases member
  · intro head rest first others entry member
    rcases List.mem_cons.mp member with rfl | later
    · exact first
    · exact others entry later
  · intro key value holds
    exact holds

@[simp] theorem dumpsItems_eq_map (items : List Value) : dumpsItems items = items.map dumps := by
  induction items with
  | nil => rfl
  | cons item rest ih => rw [dumpsItems, ih, List.map_cons]

@[simp] theorem dumpsEntries_eq_map (entries : List (String × Value)) :
    dumpsEntries entries = entries.map fun entry => quote entry.1 ++ ": " ++ entry.2.dumps := by
  induction entries with
  | nil => rfl
  | cons entry rest ih => rw [dumpsEntries, ih, List.map_cons]

mutual

/-- `json.loads(json.dumps(value))`. A tuple is written as an array, and an array
is read back as a list. -/
def decoded : Value → Value
  | .none => .none
  | .bool value => .bool value
  | .int value => .int value
  | .float text => .float text
  | .str text => .str text
  | .list items => .list (decodedItems items)
  | .tuple items => .list (decodedItems items)
  | .dict entries => .dict (decodedEntries entries)

def decodedItems : List Value → List Value
  | [] => []
  | item :: rest => item.decoded :: decodedItems rest

def decodedEntries : List (String × Value) → List (String × Value)
  | [] => []
  | (key, value) :: rest => (key, value.decoded) :: decodedEntries rest

end

@[simp] theorem decodedItems_eq_map (items : List Value) :
    decodedItems items = items.map decoded := by
  induction items with
  | nil => rfl
  | cons item rest ih => rw [decodedItems, ih, List.map_cons]

@[simp] theorem decodedEntries_eq_map (entries : List (String × Value)) :
    decodedEntries entries = entries.map fun entry => (entry.1, entry.2.decoded) := by
  induction entries with
  | nil => rfl
  | cons entry rest ih => rw [decodedEntries, ih, List.map_cons]

theorem dumpsItems_decoded {items : List Value}
    (same : ∀ item ∈ items, item.decoded.dumps = item.dumps) :
    dumpsItems (decodedItems items) = dumpsItems items := by
  rw [dumpsItems_eq_map, dumpsItems_eq_map, decodedItems_eq_map, List.map_map]
  exact List.map_congr_left same

theorem dumpsEntries_decoded {entries : List (String × Value)}
    (same : ∀ entry ∈ entries, entry.2.decoded.dumps = entry.2.dumps) :
    dumpsEntries (decodedEntries entries) = dumpsEntries entries := by
  rw [dumpsEntries_eq_map, dumpsEntries_eq_map, decodedEntries_eq_map, List.map_map]
  refine List.map_congr_left ?_
  intro entry member
  exact congrArg (quote entry.1 ++ ": " ++ ·) (same entry member)

/-- What is read back from the text of a value has the same text. -/
theorem dumps_decoded (value : Value) : value.decoded.dumps = value.dumps := by
  induction value using nested with
  | none | bool | int | float | str => rfl
  | list items ih => rw [decoded, dumps, dumps, dumpsItems_decoded ih]
  | tuple items ih => rw [decoded, dumps, dumps, dumpsItems_decoded ih]
  | dict entries ih => rw [decoded, dumps, dumps, dumpsEntries_decoded ih]

end Value

end CloudDogJobs
