import CloudDogJobs.Domain.Model

/-!
# Stored texts and values

Stores keep dictionaries as JSON and timestamps as ISO texts. A `TextCodec` is
the pair of standard library codecs that the storage code calls, and `Builtins`
are the built-in conversions of plain values; nothing is assumed about them here.
The conversions between typed job fields and plain values are those that the field
types give: a dictionary of counts is an object of integers, a list of identifiers
an array of strings.
-/

namespace CloudDogJobs

open Foundation

/-- `json.dumps`, `json.loads`, `datetime.isoformat` and `datetime.fromisoformat`. -/
structure TextCodec where
  dumps : Value → String
  loads : String → Except PyError Value
  isoformat : Int → String
  fromisoformat : String → Except PyError Int

/-- `str`, `int`, `float` and `dict` on plain values, and `str.lower`. A finite
float is the rational number it stands for. -/
structure Builtins where
  str : Value → String
  int : Value → Except PyError Int
  float : Value → Except PyError Rat
  dict : Value → Except PyError (Dict String Value)
  lower : String → String

/-- `int(text)`. -/
def parseInt (text : String) : Except PyError Int :=
  match text.toInt? with
  | some number => .ok number
  | none => .error (.valueError ("invalid literal for int() with base 10: " ++ text))

namespace Value

/-- A code unit as `json.dumps` escapes it. -/
def escapeUnit (code : Nat) : String :=
  let digits := String.ofList (Nat.toDigits 16 code)
  "\\u" ++ String.ofList (List.replicate (4 - digits.length) (Char.ofNat 48)) ++ digits

/-- A character inside a JSON text. Everything outside printable ASCII is escaped,
beyond the basic plane as a surrogate pair. -/
def escapeChar (char : Char) : String :=
  let code := char.toNat
  if code = 34 then "\\\""
  else if code = 92 then "\\\\"
  else if code = 10 then "\\n"
  else if code = 13 then "\\r"
  else if code = 9 then "\\t"
  else if code = 12 then "\\f"
  else if code = 8 then "\\b"
  else if 32 ≤ code ∧ code ≤ 126 then char.toString
  else if code < 65536 then escapeUnit code
  else
    escapeUnit (55296 + (code - 65536) / 1024) ++ escapeUnit (56320 + (code - 65536) % 1024)

def quote (text : String) : String := "\"" ++ String.join (text.toList.map escapeChar) ++ "\""

mutual

/-- `json.dumps(value)` with its default separators. -/
def dumps : Value → String
  | .none => "null"
  | .bool value => if value then "true" else "false"
  | .int value => toString value
  | .float text => text
  | .str text => quote text
  | .list items => "[" ++ String.intercalate ", " (dumpsItems items) ++ "]"
  | .tuple items => "[" ++ String.intercalate ", " (dumpsItems items) ++ "]"
  | .dict items => "\x7b" ++ String.intercalate ", " (dumpsEntries items) ++ "\x7d"

def dumpsItems : List Value → List String
  | [] => []
  | item :: rest => item.dumps :: dumpsItems rest

def dumpsEntries : List (String × Value) → List String
  | [] => []
  | (key, value) :: rest => (quote key ++ ": " ++ value.dumps) :: dumpsEntries rest

end

/-- `json.loads` on the texts of the given values. -/
def loadsKnown (known : List Value) (text : String) : Except PyError Value :=
  match known.find? fun value => value.dumps = text with
  | some value => .ok value
  | Option.none => .error (.valueError "Expecting value: line 1 column 1 (char 0)")

theorem loadsKnown_dumps {known : List Value} (distinct : (known.map dumps).Nodup) {value : Value}
    (member : value ∈ known) : loadsKnown known value.dumps = .ok value := by
  have found : known.find? (fun other => other.dumps = value.dumps) = some value := by
    cases first : known.find? (fun other => other.dumps = value.dumps) with
    | none =>
        have missed := List.find?_eq_none.mp first value member
        simp at missed
    | some other =>
        have same : other.dumps = value.dumps := by simpa using List.find?_some first
        rw [List.inj_on_of_nodup_map distinct (List.mem_of_find?_eq_some first) member same]
  unfold loadsKnown
  rw [found]

/-- Python's truth value of a plain value. -/
def truthy : Value → Bool
  | .none => false
  | .bool value => value
  | .int value => value ≠ 0
  | .float text => text ≠ "0.0" && text ≠ "-0.0"
  | .str text => text ≠ ""
  | .list items => !items.isEmpty
  | .tuple items => !items.isEmpty
  | .dict items => !items.isEmpty

/-- A dictionary of plain values as a value. -/
def ofDict (dict : Dict String Value) : Value := .dict dict.entries

/-- A dictionary of counts as a value. -/
def ofIntDict (dict : Dict String Int) : Value :=
  .dict (dict.entries.map fun entry => (entry.1, .int entry.2))

/-- A list of texts as a value. -/
def ofStrList (texts : List String) : Value := .list (texts.map .str)

/-- The value as a dictionary, for the methods that call `get` on it. -/
def asDict : Value → Except PyError (Dict String Value)
  | .dict items => .ok (.ofList items)
  | _ => .error (.attributeError "object has no attribute 'get'")

/-- A dictionary value; anything else counts as missing. -/
def toOptDict : Option Value → Option (Dict String Value)
  | some (.dict items) => some (.ofList items)
  | _ => Option.none

/-- A cell as an optional value: `None` counts as missing. -/
def toOpt : Option Value → Option Value
  | some .none => Option.none
  | cell => cell

/-- The integer entries of a dictionary value. The writers store only such. -/
def toIntDict : Value → Dict String Int
  | .dict items => .ofList (items.filterMap fun item =>
      match item.2 with
      | .int count => some (item.1, count)
      | _ => Option.none)
  | _ => ∅

/-- The text entries of a list value. The writers store only such. -/
def toStrList : Value → List String
  | .list items => items.filterMap fun
      | .str text => some text
      | _ => Option.none
  | _ => []

@[simp] theorem toIntDict_ofIntDict (dict : Dict String Int) :
    (ofIntDict dict).toIntDict = dict := by
  simp only [ofIntDict, toIntDict]
  rw [List.filterMap_map]
  exact (congrArg Dict.ofList List.filterMap_some).trans (Dict.ofList_entries dict)

@[simp] theorem toStrList_ofStrList (texts : List String) :
    (ofStrList texts).toStrList = texts := by
  simp only [ofStrList, toStrList]
  rw [List.filterMap_map]
  exact List.filterMap_some

/-- `int(value)` for the values that counters hold. -/
def toInt : Value → Except PyError Int
  | .int number => .ok number
  | .bool value => .ok (if value then 1 else 0)
  | .str text => parseInt text
  | _ => .error (.typeError "int() argument must be a string or a real number")

end Value

/-- A first part that returned. -/
theorem ok_bind {α β : Type} (value : α) (next : α → Except PyError β) :
    (Except.ok value >>= next) = next value := rfl

/-- A computation that returns has a first part that returned. -/
theorem exists_of_bind_ok {α β : Type} {first : Except PyError α} {next : α → Except PyError β}
    {value : β} (returned : (first >>= next) = .ok value) :
    ∃ middle, first = .ok middle ∧ next middle = .ok value := by
  cases first with
  | error error => cases returned
  | ok middle => exact ⟨middle, rfl, returned⟩

/-- Every decoded item comes from an item of the list. -/
theorem exists_of_mem_mapM {α β : Type} {decode : α → Except PyError β} {items : List α}
    {values : List β} (decoded : items.mapM decode = .ok values) {value : β}
    (member : value ∈ values) : ∃ item ∈ items, decode item = .ok value := by
  induction items generalizing values with
  | nil =>
      cases decoded
      cases member
  | cons item rest ih =>
      rw [List.mapM_cons] at decoded
      obtain ⟨head, first, decoded⟩ := exists_of_bind_ok decoded
      obtain ⟨tail, others, decoded⟩ := exists_of_bind_ok decoded
      obtain rfl := Except.ok.inj decoded
      rcases List.mem_cons.mp member with rfl | later
      · exact ⟨item, List.mem_cons_self, first⟩
      · obtain ⟨source, inside, same⟩ := ih others later
        exact ⟨source, List.mem_cons_of_mem _ inside, same⟩

/-- What an item of the list decodes to is among the decoded values. -/
theorem mem_of_mapM_ok {α β : Type} {decode : α → Except PyError β} {items : List α}
    {values : List β} (decoded : items.mapM decode = .ok values) {item : α} (member : item ∈ items)
    {value : β} (read : decode item = .ok value) : value ∈ values := by
  induction items generalizing values with
  | nil => cases member
  | cons head rest ih =>
      rw [List.mapM_cons] at decoded
      obtain ⟨first, begun, decoded⟩ := exists_of_bind_ok decoded
      obtain ⟨tail, others, decoded⟩ := exists_of_bind_ok decoded
      obtain rfl := Except.ok.inj decoded
      rcases List.mem_cons.mp member with rfl | later
      · obtain rfl := Except.ok.inj (read.symm.trans begun)
        exact List.mem_cons_self
      · exact List.mem_cons_of_mem _ (ih others later)

/-- A list of values that decode one by one decodes. -/
theorem exists_mapM_ok {α β γ : Type} {decode : α → Except PyError β} {seen : β → γ}
    {shown : α → γ} {items : List α}
    (decodes : ∀ item ∈ items, ∃ value, decode item = .ok value ∧ seen value = shown item) :
    ∃ values, items.mapM decode = .ok values ∧ values.map seen = items.map shown := by
  induction items with
  | nil => exact ⟨[], rfl, rfl⟩
  | cons item rest ih =>
      obtain ⟨head, first, sameHead⟩ := decodes item List.mem_cons_self
      obtain ⟨tail, others, sameTail⟩ := ih fun other member =>
        decodes other (List.mem_cons_of_mem _ member)
      refine ⟨head :: tail, ?_, ?_⟩
      · rw [List.mapM_cons, first, others]
        rfl
      · rw [List.map_cons, List.map_cons, sameHead, sameTail]

end CloudDogJobs
