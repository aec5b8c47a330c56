import CloudDogJobs.Domain.Nesting
import CloudDogJobs.Security.Payload

/-!
# The secret check and the stored payload

`payload_contains_secret` looks at the payload that is submitted, the stores keep
its JSON text. The check enters dictionaries and lists; a JSON text also holds the
items of tuples. Both readings are compared through the places of a payload that
give a secret away.
-/

namespace CloudDogJobs

open Foundation

section StoredSecrets

variable (builtins : Builtins)

/-- The key names a secret. -/
def keyNamesSecret (key : String) : Bool :=
  secretTokens.any fun token => isIn token (builtins.lower key)

/-- The text is marked as a secret. -/
def textIsMarked (text : String) : Bool :=
  secretMarks.any fun token => isIn token (builtins.lower text)

/-- Somewhere in a value a key names a secret or a text is marked as one. The flag
tells whether the way to that place goes through a tuple. -/
inductive GivesAway : Bool → Value → Prop
  | text {text : String} (marked : textIsMarked builtins text = true) : GivesAway false (.str text)
  | key {entries : List (String × Value)} {entry : String × Value} (member : entry ∈ entries)
      (named : keyNamesSecret builtins entry.1 = true) : GivesAway false (.dict entries)
  | entry {entries : List (String × Value)} {entry : String × Value} {throughTuple : Bool}
      (member : entry ∈ entries) (inside : GivesAway throughTuple entry.2) :
      GivesAway throughTuple (.dict entries)
  | item {items : List Value} {item : Value} {throughTuple : Bool} (member : item ∈ items)
      (inside : GivesAway throughTuple item) : GivesAway throughTuple (.list items)
  | tuple {items : List Value} {item : Value} {throughTuple : Bool} (member : item ∈ items)
      (inside : GivesAway throughTuple item) : GivesAway true (.tuple items)

variable {builtins}

@[simp] theorem itemsContainSecret_eq_any (items : List Value) :
    itemsContainSecret builtins items = items.any (payloadContainsSecret builtins) := by
  induction items with
  | nil => rfl
  | cons item rest ih => rw [itemsContainSecret, ih, List.any_cons]

@[simp] theorem entriesContainSecret_eq_any (entries : List (String × Value)) :
    entriesContainSecret builtins entries = entries.any fun entry =>
      keyNamesSecret builtins entry.1 || payloadContainsSecret builtins entry.2 := by
  induction entries with
  | nil => rfl
  | cons entry rest ih =>
      rw [entriesContainSecret, ih, List.any_cons]
      rfl

theorem payloadContainsSecret_list (items : List Value) :
    payloadContainsSecret builtins (.list items) = true ↔
      ∃ item ∈ items, payloadContainsSecret builtins item = true := by
  rw [payloadContainsSecret, itemsContainSecret_eq_any, List.any_eq_true]

theorem payloadContainsSecret_dict (entries : List (String × Value)) :
    payloadContainsSecret builtins (.dict entries) = true ↔
      ∃ entry ∈ entries, keyNamesSecret builtins entry.1 = true ∨
        payloadContainsSecret builtins entry.2 = true := by
  simp only [payloadContainsSecret, entriesContainSecret_eq_any, List.any_eq_true,
    Bool.or_eq_true]

/-- The check finds what is given away outside of tuples. -/
theorem payloadContainsSecret_iff (payload : Value) :
    payloadContainsSecret builtins payload = true ↔ GivesAway builtins false payload := by
  refine ⟨?_, ?_⟩
  · induction payload using Value.nested with
    | none | bool | int | float | tuple => exact nofun
    | str text => exact .text
    | list items ih =>
        rw [payloadContainsSecret_list]
        intro searched
        obtain ⟨item, member, found⟩ := searched
        exact .item member (ih item member found)
    | dict entries ih =>
        rw [payloadContainsSecret_dict]
        intro searched
        obtain ⟨entry, member, named | found⟩ := searched
        · exact .key member named
        · exact .entry member (ih entry member found)
  · intro away
    generalize flag : false = throughTuple at away
    induction away with
    | text marked => exact marked
    | key member named => exact (payloadContainsSecret_dict _).mpr ⟨_, member, .inl named⟩
    | entry member _ ih => exact (payloadContainsSecret_dict _).mpr ⟨_, member, .inr (ih flag)⟩
    | item member _ ih => exact (payloadContainsSecret_list _).mpr ⟨_, member, ih flag⟩
    | tuple => cases flag

theorem payloadContainsSecret_decodedItems (items : List Value) :
    payloadContainsSecret builtins (.list (Value.decodedItems items)) = true ↔
      ∃ item ∈ items, payloadContainsSecret builtins item.decoded = true := by
  rw [payloadContainsSecret, itemsContainSecret_eq_any, Value.decodedItems_eq_map, List.any_map,
    List.any_eq_true]
  rfl

theorem payloadContainsSecret_decodedEntries (entries : List (String × Value)) :
    payloadContainsSecret builtins (.dict (Value.decodedEntries entries)) = true ↔
      ∃ entry ∈ entries, keyNamesSecret builtins entry.1 = true ∨
        payloadContainsSecret builtins entry.2.decoded = true := by
  simp only [payloadContainsSecret, entriesContainSecret_eq_any, Value.decodedEntries_eq_map,
    List.any_map, List.any_eq_true, Function.comp_apply, Bool.or_eq_true]

/-- The stored payload shows whatever the payload gives away. -/
theorem payloadContainsSecret_decoded_of_givesAway {payload : Value} {throughTuple : Bool}
    (away : GivesAway builtins throughTuple payload) :
    payloadContainsSecret builtins payload.decoded = true := by
  induction away with
  | text marked => exact marked
  | key member named =>
      exact (payloadContainsSecret_decodedEntries _).mpr ⟨_, member, .inl named⟩
  | entry member _ ih => exact (payloadContainsSecret_decodedEntries _).mpr ⟨_, member, .inr ih⟩
  | item member _ ih | tuple member _ ih =>
      exact (payloadContainsSecret_decodedItems _).mpr ⟨_, member, ih⟩

theorem exists_givesAway_of_decoded {payload : Value}
    (found : payloadContainsSecret builtins payload.decoded = true) :
    ∃ throughTuple, GivesAway builtins throughTuple payload := by
  induction payload using Value.nested with
  | none | bool | int | float => cases found
  | str text => exact ⟨false, .text found⟩
  | list items ih =>
      obtain ⟨item, member, found⟩ := (payloadContainsSecret_decodedItems items).mp found
      obtain ⟨throughTuple, inside⟩ := ih item member found
      exact ⟨throughTuple, .item member inside⟩
  | tuple items ih =>
      obtain ⟨item, member, found⟩ := (payloadContainsSecret_decodedItems items).mp found
      obtain ⟨throughTuple, inside⟩ := ih item member found
      exact ⟨true, .tuple member inside⟩
  | dict entries ih =>
      obtain ⟨entry, member, named | found⟩ :=
        (payloadContainsSecret_decodedEntries entries).mp found
      · exact ⟨false, .key member named⟩
      · obtain ⟨throughTuple, inside⟩ := ih entry member found
        exact ⟨throughTuple, .entry member inside⟩

/-- The check finds in the stored payload what is given away anywhere. -/
theorem payloadContainsSecret_decoded_iff (payload : Value) :
    payloadContainsSecret builtins payload.decoded = true ↔
      ∃ throughTuple, GivesAway builtins throughTuple payload := by
  refine ⟨?_, ?_⟩
  · exact exists_givesAway_of_decoded
  · intro given
    obtain ⟨_, away⟩ := given
    exact payloadContainsSecret_decoded_of_givesAway away

/-- Whatever the payload gives away inside a tuple, it also gives something away
outside of tuples. -/
def TuplesAddNothing (builtins : Builtins) (payload : Value) : Prop :=
  GivesAway builtins true payload → GivesAway builtins false payload

/-- A payload that passes the check passes it again when it is read back. -/
theorem decoded_free_iff (payload : Value) :
    (payloadContainsSecret builtins payload = false →
        payloadContainsSecret builtins payload.decoded = false) ↔
      TuplesAddNothing builtins payload := by
  rw [← Bool.not_eq_true, ← Bool.not_eq_true, payloadContainsSecret_iff,
    payloadContainsSecret_decoded_iff]
  refine ⟨?_, ?_⟩
  · intro free away
    by_contra hidden
    exact free hidden ⟨true, away⟩
  · intro nothing free given
    obtain ⟨throughTuple, away⟩ := given
    cases throughTuple with
    | false => exact free away
    | true => exact free (nothing away)

theorem decoded_same_iff (payload : Value) :
    payloadContainsSecret builtins payload = payloadContainsSecret builtins payload.decoded ↔
      TuplesAddNothing builtins payload := by
  rw [← decoded_free_iff]
  refine ⟨?_, ?_⟩
  · intro same free
    exact same ▸ free
  · intro kept
    cases free : payloadContainsSecret builtins payload with
    | false => exact (kept free).symm
    | true =>
        exact (payloadContainsSecret_decoded_of_givesAway
          ((payloadContainsSecret_iff payload).mp free)).symm

/-- **The secret check sees what is stored, exactly when tuples add nothing.** The
check of a value and the check of what is read back from its JSON text agree if
and only if a secret inside a tuple comes with one outside of tuples. A payload
that `submit` accepts is read back as one that passes the check if and only if the
same holds of it, or it is too large to be accepted. -/
theorem secret_check_sees_stored_iff (builtins : Builtins) :
    (∀ payload : Value,
      payloadContainsSecret builtins payload = payloadContainsSecret builtins payload.decoded ↔
        TuplesAddNothing builtins payload) ∧
    (∀ (maxBytes : Int) (payload : Dict String Value),
      (payloadChecks builtins maxBytes payload = .ok () →
          payloadContainsSecret builtins (Value.ofDict payload).decoded = false) ↔
        (validatePayloadSize builtins payload maxBytes = .ok () →
          TuplesAddNothing builtins (.ofDict payload))) := by
  refine ⟨decoded_same_iff, ?_⟩
  intro maxBytes payload
  rw [payloadChecks_iff, ← decoded_free_iff]
  refine ⟨?_, ?_⟩
  · intro kept size free
    exact kept ⟨free, size⟩
  · intro kept admissible
    exact kept admissible.size admissible.free

/-- A payload with a bearer text in a tuple. -/
def bearerInTuple : Dict String Value := .ofList [("items", .tuple [.str "Bearer x"])]

/-- It is accepted, and read back as a payload that the check rejects. -/
theorem tuple_hides_secret :
    payloadChecks plainBuiltins 16384 bearerInTuple = .ok () ∧
      payloadContainsSecret plainBuiltins (.ofDict bearerInTuple) = false ∧
      payloadContainsSecret plainBuiltins (Value.ofDict bearerInTuple).decoded = true := by
  decide +kernel

end StoredSecrets

end CloudDogJobs
