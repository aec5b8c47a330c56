import CloudDogJobs.Domain.Codec
import CloudDogJobs.Foundation.TextSize

/-!
# The texts that Python prints

`repr` and `str` of plain values. Which of the characters outside ASCII are
printable is for the Unicode database to say and is a parameter.
-/

namespace CloudDogJobs

open Foundation

namespace Value

/-- An escape with the code of a character in hexadecimal digits. -/
def hexEscape (letter : String) (width code : Nat) : String :=
  "\\" ++ letter ++ paddedDigits 16 width code

/-- The quote around a text: a double one if the text holds single ones only. -/
def reprQuote (text : String) : Char :=
  if Char.ofNat 39 ∈ text.toList ∧ Char.ofNat 34 ∉ text.toList then Char.ofNat 34
  else Char.ofNat 39

section Printing

variable (printable : Char → Bool)

/-- A character inside the quotes. -/
def reprChar (quote char : Char) : String :=
  let code := char.toNat
  if char = quote ∨ code = 92 then "\\" ++ char.toString
  else if code = 9 then "\\t"
  else if code = 10 then "\\n"
  else if code = 13 then "\\r"
  else if code < 32 ∨ code = 127 then hexEscape "x" 2 code
  else if code < 127 then char.toString
  else if printable char then char.toString
  else if code < 256 then hexEscape "x" 2 code
  else if code < 65536 then hexEscape "u" 4 code
  else hexEscape "U" 8 code

/-- `repr(text)`. -/
def reprText (text : String) : String :=
  let quote := reprQuote text
  quote.toString ++ String.join (text.toList.map (reprChar printable quote)) ++ quote.toString

mutual

/-- `repr(value)`. -/
def repr : Value → String
  | .none => "None"
  | .bool value => if value then "True" else "False"
  | .int value => toString value
  | .float text => text
  | .str text => reprText printable text
  | .list items => "[" ++ String.intercalate ", " (reprItems items) ++ "]"
  | .tuple items =>
      "(" ++ String.intercalate ", " (reprItems items) ++ (if items.length = 1 then ",)" else ")")
  | .dict entries => "\x7b" ++ String.intercalate ", " (reprEntries entries) ++ "\x7d"

def reprItems : List Value → List String
  | [] => []
  | item :: rest => repr item :: reprItems rest

def reprEntries : List (String × Value) → List String
  | [] => []
  | (key, value) :: rest => (reprText printable key ++ ": " ++ repr value) :: reprEntries rest

end

/-- `str(value)`. -/
def pyStr : Value → String
  | .str text => text
  | value => repr printable value

end Printing

variable {printable : Char → Bool}

@[simp] theorem reprItems_eq_map (items : List Value) :
    reprItems printable items = items.map (repr printable) := by
  induction items with
  | nil => rfl
  | cons item rest ih => rw [reprItems, ih, List.map_cons]

@[simp] theorem reprEntries_eq_map (entries : List (String × Value)) :
    reprEntries printable entries =
      entries.map fun entry => reprText printable entry.1 ++ ": " ++ repr printable entry.2 := by
  induction entries with
  | nil => rfl
  | cons entry rest ih => rw [reprEntries, ih, List.map_cons]

/-- A backslash, a letter and the digits. -/
theorem utf8ByteSize_hexEscape {letter : String} {width code : Nat} (wide : 0 < width)
    (fits : code < 16 ^ width) :
    (hexEscape letter width code).utf8ByteSize = 1 + letter.utf8ByteSize + width := by
  rw [hexEscape, String.utf8ByteSize_append, String.utf8ByteSize_append,
    utf8ByteSize_paddedDigits (by omega) wide fits]
  rfl

theorem escapeUnit_eq_hexEscape (code : Nat) : escapeUnit code = hexEscape "u" 4 code := by
  rw [escapeUnit, hexEscape, paddedDigits, String.append_assoc]
  rfl

theorem utf8ByteSize_escapeUnit {code : Nat} (fits : code < 65536) :
    (escapeUnit code).utf8ByteSize = 6 := by
  rw [escapeUnit_eq_hexEscape, utf8ByteSize_hexEscape (by omega) fits]
  rfl

end Value

end CloudDogJobs
