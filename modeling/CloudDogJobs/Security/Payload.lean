import CloudDogJobs.Domain.Codec
import CloudDogJobs.Queue.Queue

/-!
# Payload checks

`security/secrets.py` and `security/validation.py`: the checks that `submit` makes
of a payload before anything else.
-/

namespace CloudDogJobs

open Foundation

/-- `token in text`. -/
def isIn (token text : String) : Bool := decide (token.toList <:+: text.toList)

/-- Parts of a key that give it away as the name of a secret. -/
def secretTokens : List String :=
  ["password", "secret", "token", "api_key", "private_key", "credential"]

/-- Parts of a text that give it away as a secret. -/
def secretMarks : List String := ["bearer ", "sk-", "-----begin", "xox", "ghp_"]

section Secrets

variable (builtins : Builtins)

mutual

/-- Whether a value looks like it contains a secret. Dictionaries and lists are
searched, tuples are not. -/
def payloadContainsSecret : Value → Bool
  | .dict entries => entriesContainSecret entries
  | .list items => itemsContainSecret items
  | .str text => secretMarks.any fun token => isIn token (builtins.lower text)
  | _ => false

/-- Some item of a list contains a secret. -/
def itemsContainSecret : List Value → Bool
  | [] => false
  | item :: rest => payloadContainsSecret item || itemsContainSecret rest

/-- Some entry of a dictionary has the name of a secret or contains one. -/
def entriesContainSecret : List (String × Value) → Bool
  | [] => false
  | (key, value) :: rest =>
      (secretTokens.any fun token => isIn token (builtins.lower key)) ||
        payloadContainsSecret value || entriesContainSecret rest

end

/-- Raise when the payload looks like it contains a secret. -/
def assertNoSecrets (payload : Dict String Value) : Except PyError Unit :=
  if payloadContainsSecret builtins (.ofDict payload) then
    .error (.valueError "Payload appears to contain secret material")
  else .ok ()

/-- The size of a payload: the bytes of its text. -/
def payloadSize (payload : Dict String Value) : Nat :=
  (builtins.str (.ofDict payload)).utf8ByteSize

/-- Raise when the payload exceeds the maximum size. -/
def validatePayloadSize (payload : Dict String Value) (maxBytes : Int) : Except PyError Unit :=
  if (payloadSize builtins payload : Int) > maxBytes then
    .error (.valueError ("Payload size " ++ toString (payloadSize builtins payload) ++
      " exceeds max " ++ toString maxBytes))
  else .ok ()

/-- The checks of `submit`, in its order. -/
def payloadChecks (maxBytes : Int) (payload : Dict String Value) : Except PyError Unit := do
  validatePayloadSize builtins payload maxBytes
  assertNoSecrets builtins payload

/-- The payload passes both checks. -/
structure PayloadAdmissible (maxBytes : Int) (payload : Dict String Value) : Prop where
  free : payloadContainsSecret builtins (.ofDict payload) = false
  size : validatePayloadSize builtins payload maxBytes = .ok ()

theorem payloadChecks_iff (maxBytes : Int) (payload : Dict String Value) :
    payloadChecks builtins maxBytes payload = .ok () ↔
      PayloadAdmissible builtins maxBytes payload := by
  unfold payloadChecks
  cases size : validatePayloadSize builtins payload maxBytes with
  | error error =>
      refine iff_of_false nofun ?_
      intro admissible
      cases size.symm.trans admissible.size
  | ok _ =>
      change assertNoSecrets builtins payload = .ok () ↔ _
      unfold assertNoSecrets
      split
      · next found =>
          refine iff_of_false nofun ?_
          intro admissible
          cases found.symm.trans admissible.free
      · next clear => exact iff_of_true rfl ⟨Bool.not_eq_true _ ▸ clear, size⟩

end Secrets

/-! ## The built-ins on plain texts -/

mutual

/-- `repr(value)`, for texts of printable ASCII characters without quotes and
backslashes. -/
def plainRepr : Value → String
  | .none => "None"
  | .bool value => if value then "True" else "False"
  | .int value => toString value
  | .float text => text
  | .str text => "'" ++ text ++ "'"
  | .list items => "[" ++ String.intercalate ", " (plainItems items) ++ "]"
  | .tuple items =>
      "(" ++ String.intercalate ", " (plainItems items) ++
        (if items.length = 1 then ",)" else ")")
  | .dict entries => "\x7b" ++ String.intercalate ", " (plainEntries entries) ++ "\x7d"

def plainItems : List Value → List String
  | [] => []
  | item :: rest => plainRepr item :: plainItems rest

def plainEntries : List (String × Value) → List String
  | [] => []
  | (key, value) :: rest => ("'" ++ key ++ "': " ++ plainRepr value) :: plainEntries rest

end

/-- The built-ins as they are on such texts. -/
def plainBuiltins : Builtins where
  str
    | .str text => text
    | value => plainRepr value
  int := Value.toInt
  float
    | .int number => .ok number
    | _ => .error (.typeError "float() argument must be a string or a real number")
  dict := Value.asDict
  lower := String.toLower

/-- The queue with the checks of `submit` on such texts, at the default maximum
size. -/
def checkedQueue : JobQueue where
  admission := payloadChecks plainBuiltins 16384
  dependencyTracker := true

end CloudDogJobs
