import CloudDogJobs.Backend.RedisEncoding
import CloudDogJobs.Domain.Nesting
import CloudDogJobs.Domain.Texts
import CloudDogJobs.Security.Payload

/-!
# The size limit and the stored payload

`validate_payload_size` measures the text that Python prints for the payload, the
Redis backend stores its JSON text. `Value.growth` counts by how many bytes the
second is longer, character by character.
-/

namespace CloudDogJobs

open Foundation

namespace Value

/-! ## Growth of a character -/

/-- The bytes of a character in a JSON text. -/
theorem utf8ByteSize_escapeChar (char : Char) :
    (escapeChar char).utf8ByteSize =
      if char.toNat ∈ [34, 92, 10, 13, 9, 12, 8] then 2
      else if 32 ≤ char.toNat ∧ char.toNat ≤ 126 then 1
      else if char.toNat < 65536 then 6 else 12 := by
  have bound := toNat_char_lt char
  have alone := (utf8ByteSize_toString char).trans (utf8Size_eq_of_code char)
  unfold escapeChar
  generalize char.toNat = code at *
  by_cases short : code ∈ [34, 92, 10, 13, 9, 12, 8]
  · rw [if_pos short]
    simp only [List.mem_cons, List.not_mem_nil, or_false] at short
    rcases short with rfl | rfl | rfl | rfl | rfl | rfl | rfl
    all_goals rfl
  · rw [if_neg short]
    simp only [List.mem_cons, List.not_mem_nil, or_false, not_or] at short
    simp only [short, if_false]
    split
    · next plain => rw [alone, if_pos (by omega)]
    · split
      · next basic => exact utf8ByteSize_escapeUnit basic
      · rw [String.utf8ByteSize_append, utf8ByteSize_escapeUnit (by omega),
          utf8ByteSize_escapeUnit (by omega)]

variable {printable : Char → Bool}

/-- The bytes of a character between the quotes of a printed text. -/
theorem utf8ByteSize_reprChar {quote : Char} (ascii : quote.toNat < 128) (char : Char) :
    (reprChar printable quote char).utf8ByteSize =
      if char = quote ∨ char.toNat ∈ [92, 9, 10, 13] then 2
      else if char.toNat < 32 ∨ char.toNat = 127 then 4
      else if char.toNat < 127 then 1
      else if printable char then char.utf8Size
      else if char.toNat < 256 then 4
      else if char.toNat < 65536 then 6 else 10 := by
  have bound := toNat_char_lt char
  have alone := (utf8ByteSize_toString char).trans (utf8Size_eq_of_code char)
  have escaped : char.toNat < 128 → ("\\" ++ char.toString).utf8ByteSize = 2 := by
    intro low
    rw [String.utf8ByteSize_append, alone, if_pos low]
    rfl
  have wide := utf8ByteSize_toString char
  unfold reprChar
  by_cases quoted : char = quote
  · simp only [quoted, true_or, if_true] at *
    exact escaped ascii
  simp only [quoted, false_or]
  generalize char.toNat = code at *
  by_cases short : code ∈ [92, 9, 10, 13]
  · rw [if_pos short]
    simp only [List.mem_cons, List.not_mem_nil, or_false] at short
    rcases short with rfl | rfl | rfl | rfl
    · exact escaped (by omega)
    all_goals rfl
  · rw [if_neg short]
    simp only [List.mem_cons, List.not_mem_nil, or_false, not_or] at short
    simp only [short, if_false]
    split
    · exact utf8ByteSize_hexEscape (by omega) (by omega)
    · split
      · next low => rw [alone, if_pos (by omega)]
      · split
        · exact wide
        · split
          · next small => exact utf8ByteSize_hexEscape (by omega) small
          · split
            · next basic => exact utf8ByteSize_hexEscape (by omega) basic
            · exact utf8ByteSize_hexEscape (by omega) (by omega)

variable (printable) in
/-- By how many bytes a character takes more in a JSON text than between the quotes
of a printed text. -/
def charGrowth (quote char : Char) : Int :=
  let code := char.toNat
  if code = 34 then (if char = quote then 0 else 1)
  else if code = 39 then (if char = quote then -1 else 0)
  else if code = 8 ∨ code = 12 then -2
  else if code = 9 ∨ code = 10 ∨ code = 13 ∨ code = 92 then 0
  else if code < 32 ∨ code = 127 then 2
  else if code < 127 then 0
  else if code < 256 then (if printable char then 4 else 2)
  else if code < 2048 then (if printable char then 4 else 0)
  else if code < 65536 then (if printable char then 3 else 0)
  else (if printable char then 8 else 2)

variable (printable) in
theorem escapeChar_growth {quote : Char} (isQuote : quote.toNat = 34 ∨ quote.toNat = 39)
    (char : Char) :
    ((escapeChar char).utf8ByteSize : Int) =
      (reprChar printable quote char).utf8ByteSize + charGrowth printable quote char := by
  rw [utf8ByteSize_escapeChar, utf8ByteSize_reprChar (by omega), utf8Size_eq_of_code]
  simp only [List.mem_cons, List.not_mem_nil, or_false, ← Char.toNat_inj]
  -- In each class of characters the code settles every test of the two encoders.
  fun_cases charGrowth printable quote char
  all_goals try simp only [← Char.toNat_inj] at *
  all_goals simp (disch := first | assumption | omega) only [if_pos, if_neg]
  all_goals rfl

/-! ## Growth of a value -/

section Growth

variable (printable)

/-- By how many bytes the JSON text of a text is longer than the printed one. -/
def textGrowth (text : String) : Int :=
  (text.toList.map (charGrowth printable (reprQuote text))).sum

mutual

/-- By how many bytes the JSON text of a value is longer than the printed one. A
tuple of one item is printed with a comma. -/
def growth : Value → Int
  | .none => 0
  | .bool _ => 0
  | .int _ => 0
  | .float _ => 0
  | .str text => textGrowth printable text
  | .list items => itemsGrowth items
  | .tuple items => itemsGrowth items - (if items.length = 1 then 1 else 0)
  | .dict entries => entriesGrowth entries

def itemsGrowth : List Value → Int
  | [] => 0
  | item :: rest => growth item + itemsGrowth rest

def entriesGrowth : List (String × Value) → Int
  | [] => 0
  | (key, value) :: rest => textGrowth printable key + growth value + entriesGrowth rest

end

end Growth

theorem itemsGrowth_eq_sum (items : List Value) :
    itemsGrowth printable items = (items.map (growth printable)).sum := by
  induction items with
  | nil => rfl
  | cons item rest ih => rw [itemsGrowth, ih, List.map_cons, List.sum_cons]

theorem entriesGrowth_eq_sum (entries : List (String × Value)) :
    entriesGrowth printable entries =
      (entries.map fun entry =>
        textGrowth printable entry.1 + growth printable entry.2).sum := by
  induction entries with
  | nil => rfl
  | cons entry rest ih => rw [entriesGrowth, ih, List.map_cons, List.sum_cons]

theorem toNat_reprQuote (text : String) :
    (reprQuote text).toNat = 34 ∨ (reprQuote text).toNat = 39 := by
  unfold reprQuote
  split
  · exact .inl rfl
  · exact .inr rfl

variable (printable) in
theorem quote_growth (text : String) :
    ((quote text).utf8ByteSize : Int) =
      (reprText printable text).utf8ByteSize + textGrowth printable text := by
  have isQuote := toNat_reprQuote text
  have inside : ((String.join (text.toList.map escapeChar)).utf8ByteSize : Int) =
      (String.join (text.toList.map (reprChar printable (reprQuote text)))).utf8ByteSize +
        textGrowth printable text :=
    utf8ByteSize_join_growth fun char _ => escapeChar_growth printable isQuote char
  have single : (reprQuote text).toString.utf8ByteSize = 1 := by
    rw [utf8ByteSize_toString, utf8Size_eq_of_code, if_pos (by omega)]
  have double : "\"".utf8ByteSize = 1 := rfl
  simp only [quote, reprText, String.utf8ByteSize_append, single, double]
  omega

theorem dumpsItems_growth {items : List Value}
    (grows : ∀ item ∈ items, ((dumps item).utf8ByteSize : Int) =
      (repr printable item).utf8ByteSize + growth printable item) :
    ((String.intercalate ", " (dumpsItems items)).utf8ByteSize : Int) =
      (String.intercalate ", " (reprItems printable items)).utf8ByteSize +
        itemsGrowth printable items := by
  rw [dumpsItems_eq_map, reprItems_eq_map, itemsGrowth_eq_sum]
  exact utf8ByteSize_intercalate_growth ", " grows

theorem dumpsEntries_growth {entries : List (String × Value)}
    (grows : ∀ entry ∈ entries, ((dumps entry.2).utf8ByteSize : Int) =
      (repr printable entry.2).utf8ByteSize + growth printable entry.2) :
    ((String.intercalate ", " (dumpsEntries entries)).utf8ByteSize : Int) =
      (String.intercalate ", " (reprEntries printable entries)).utf8ByteSize +
        entriesGrowth printable entries := by
  rw [dumpsEntries_eq_map, reprEntries_eq_map, entriesGrowth_eq_sum]
  refine utf8ByteSize_intercalate_growth ", " ?_
  intro entry member
  have key := quote_growth printable entry.1
  have value := grows entry member
  simp only [String.utf8ByteSize_append]
  omega

/-- The JSON text of a value is longer than the printed one by its growth. -/
theorem dumps_growth (value : Value) :
    ((dumps value).utf8ByteSize : Int) =
      (repr printable value).utf8ByteSize + growth printable value := by
  induction value using nested with
  | none => rfl
  | bool value => cases value <;> rfl
  | int value => exact (Int.add_zero _).symm
  | float text => exact (Int.add_zero _).symm
  | str text => exact quote_growth printable text
  | list items ih =>
      have inside := dumpsItems_growth ih
      simp only [dumps, repr, growth, String.utf8ByteSize_append]
      omega
  | tuple items ih =>
      have inside := dumpsItems_growth ih
      have brackets : "[".utf8ByteSize + "]".utf8ByteSize = 2 := rfl
      have parentheses : "(".utf8ByteSize + ")".utf8ByteSize = 2 := rfl
      have comma : ",)".utf8ByteSize = 1 + ")".utf8ByteSize := rfl
      simp only [dumps, repr, growth, String.utf8ByteSize_append]
      split <;> omega
  | dict entries ih =>
      have inside := dumpsEntries_growth ih
      simp only [dumps, repr, growth, String.utf8ByteSize_append]
      omega

end Value

/-- The built-ins, with the texts that Python prints. -/
def Builtins.printing (builtins : Builtins) (printable : Char → Bool) : Builtins :=
  { builtins with str := Value.pyStr printable }

/-- The payload text that `_job_to_hash` stores, `json.dumps(job.payload)`. -/
def RedisQueueBackend.storedPayload (backend : RedisQueueBackend) (job : Job) : String :=
  let codec := { backend.codec with dumps := Value.dumps }
  (({ backend with codec := codec }.jobToHash job).get? "payload").getD ""

namespace RedisQueueBackend

variable (builtins : Builtins) (printable : Char → Bool) (backend : RedisQueueBackend) (job : Job)

theorem storedPayload_eq : backend.storedPayload job = (Value.ofDict job.payload).dumps := rfl

/-- What the check measures, the bytes of `repr(payload)`. -/
theorem payloadSize_printing (payload : Dict String Value) :
    payloadSize (builtins.printing printable) payload =
      ((Value.ofDict payload).repr printable).utf8ByteSize := rfl

/-- The stored text is longer than what the check measures by the growth of the
payload. -/
theorem storedPayload_growth :
    ((backend.storedPayload job).utf8ByteSize : Int) =
      ((Value.ofDict job.payload).repr printable).utf8ByteSize +
        (Value.ofDict job.payload).growth printable := by
  rw [storedPayload_eq]
  exact Value.dumps_growth _

theorem validatePayloadSize_iff (payload : Dict String Value) (maxBytes : Int) :
    validatePayloadSize builtins payload maxBytes = .ok () ↔
      (payloadSize builtins payload : Int) ≤ maxBytes := by
  unfold validatePayloadSize
  split
  · next large => exact iff_of_false nofun (by omega)
  · next small => exact iff_of_true rfl (by omega)

/-- **The size limit bounds what is stored, exactly when the payload does not
grow.** Every limit under which the check accepts the payload bounds the stored text
if and only if the growth of the payload is not positive. The limits that fail for a
payload that grows are those from the length of its printed text on, as many as it
grows. -/
theorem size_limit_bounds_stored_iff :
    ((∀ maxBytes : Int,
        validatePayloadSize (builtins.printing printable) job.payload maxBytes = .ok () →
          ((backend.storedPayload job).utf8ByteSize : Int) ≤ maxBytes) ↔
      (Value.ofDict job.payload).growth printable ≤ 0) ∧
    ∀ maxBytes : Int,
      (validatePayloadSize (builtins.printing printable) job.payload maxBytes = .ok () →
          ((backend.storedPayload job).utf8ByteSize : Int) ≤ maxBytes) ↔
        maxBytes < ((Value.ofDict job.payload).repr printable).utf8ByteSize ∨
          ((Value.ofDict job.payload).repr printable).utf8ByteSize +
            (Value.ofDict job.payload).growth printable ≤ maxBytes := by
  have grows := storedPayload_growth printable backend job
  simp only [validatePayloadSize_iff, payloadSize_printing]
  refine ⟨⟨?_, ?_⟩, ?_⟩
  · intro bounded
    have least := bounded _ le_rfl
    omega
  · intro small maxBytes accepted
    omega
  · intro maxBytes
    omega

/-- A job whose payload holds one accented letter. -/
def accentedJob : Job :=
  .fromRequest { jobType := "t", payload := .ofList [("k", .str "\u00e9")] } "job" 0

/-- Its payload is accepted under a limit of 11 bytes and stored as 15 bytes. -/
theorem accented_letter_outgrows_limit :
    validatePayloadSize (plainBuiltins.printing fun _ => true) accentedJob.payload 11 = .ok () ∧
      (plainBackend.storedPayload accentedJob).utf8ByteSize = 15 := by
  decide +kernel

end RedisQueueBackend

end CloudDogJobs
