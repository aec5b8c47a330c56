import Mathlib.Algebra.Order.Ring.Int
import Mathlib.Data.String.Basic

/-!
# Sizes of texts

How many bytes a text takes in UTF-8 when it is put together from parts, when it is
a number written with a fixed count of digits, and how the sizes of two texts over
the same items differ.
-/

namespace Foundation

theorem toNat_char_lt (char : Char) : char.toNat < 1114112 := by
  rcases char.valid with low | high
  · exact Nat.lt_trans low (by omega)
  · exact high.2

theorem utf8ByteSize_toString (char : Char) : char.toString.utf8ByteSize = char.utf8Size :=
  String.utf8ByteSize_singleton

/-- The bytes of a character, by its code. -/
theorem utf8Size_eq_of_code (char : Char) :
    char.utf8Size =
      if char.toNat < 128 then 1 else if char.toNat < 2048 then 2
      else if char.toNat < 65536 then 3 else 4 := by
  have one := @Char.utf8Size_eq_one_iff char
  have two := @Char.utf8Size_eq_two_iff char
  have three := @Char.utf8Size_eq_three_iff char
  have listed := Char.utf8Size_eq char
  simp only [UInt32.le_iff_toNat_le, UInt32.lt_iff_toNat_lt, UInt32.reduceToNat] at one two three
  change _ = if char.val.toNat < 128 then 1 else if char.val.toNat < 2048 then 2
    else if char.val.toNat < 65536 then 3 else 4
  repeat' split
  all_goals omega

theorem utf8ByteSize_join (parts : List String) :
    (String.join parts).utf8ByteSize = (parts.map String.utf8ByteSize).sum := by
  induction parts with
  | nil => rfl
  | cons part rest ih =>
      rw [String.join_cons, String.utf8ByteSize_append, ih, List.map_cons, List.sum_cons]

/-- A separator stands between every two neighbours. -/
theorem utf8ByteSize_intercalate (separator : String) (parts : List String) :
    (String.intercalate separator parts).utf8ByteSize =
      (parts.map String.utf8ByteSize).sum + (parts.length - 1) * separator.utf8ByteSize := by
  induction parts with
  | nil => simp
  | cons part rest ih =>
      cases rest with
      | nil => simp
      | cons next rest =>
          rw [String.intercalate_cons_cons, String.utf8ByteSize_append,
            String.utf8ByteSize_append, ih]
          simp only [List.map_cons, List.sum_cons, List.length_cons, Nat.add_sub_cancel,
            Nat.succ_mul]
          omega

section Growth

variable {α : Type} {first second : α → String} {growth : α → Int} {items : List α}

/-- Sizes that differ item by item differ by the sum in total. -/
theorem sum_utf8ByteSize_growth
    (grows : ∀ item ∈ items,
      ((second item).utf8ByteSize : Int) = (first item).utf8ByteSize + growth item) :
    (((items.map second).map String.utf8ByteSize).sum : Int) =
      ((items.map first).map String.utf8ByteSize).sum + (items.map growth).sum := by
  induction items with
  | nil => rfl
  | cons item rest ih =>
      have head := grows item List.mem_cons_self
      have tail := ih fun other member => grows other (List.mem_cons_of_mem _ member)
      simp only [List.map_cons, List.sum_cons]
      omega

theorem utf8ByteSize_join_growth
    (grows : ∀ item ∈ items,
      ((second item).utf8ByteSize : Int) = (first item).utf8ByteSize + growth item) :
    ((String.join (items.map second)).utf8ByteSize : Int) =
      (String.join (items.map first)).utf8ByteSize + (items.map growth).sum := by
  rw [utf8ByteSize_join, utf8ByteSize_join, sum_utf8ByteSize_growth grows]

theorem utf8ByteSize_intercalate_growth (separator : String)
    (grows : ∀ item ∈ items,
      ((second item).utf8ByteSize : Int) = (first item).utf8ByteSize + growth item) :
    ((String.intercalate separator (items.map second)).utf8ByteSize : Int) =
      (String.intercalate separator (items.map first)).utf8ByteSize + (items.map growth).sum := by
  have total := sum_utf8ByteSize_growth grows
  rw [utf8ByteSize_intercalate, utf8ByteSize_intercalate, List.length_map, List.length_map]
  omega

end Growth

/-- A digit takes one byte, and so does the mark of a number that is no digit. -/
theorem utf8Size_digitChar (digit : Nat) : (Nat.digitChar digit).utf8Size = 1 := by
  by_cases single : digit < 16
  · have listed : ∀ digit < 16, (Nat.digitChar digit).utf8Size = 1 := by decide
    exact listed digit single
  · rw [Nat.digitChar_eq_star.mpr (Nat.le_of_not_lt single)]
    rfl

theorem utf8Len_toDigits {base : Nat} (large : 1 < base) (number : Nat) :
    String.utf8Len (Nat.toDigits base number) = (Nat.toDigits base number).length := by
  induction number using Nat.strongRecOn with
  | ind number ih =>
      rw [Nat.toDigits_eq_if large]
      split
      · simp [utf8Size_digitChar]
      · next several =>
          have smaller : number / base < number := Nat.div_lt_self (by omega) large
          simp [utf8Size_digitChar, ih _ smaller]

/-- A number in a base, filled with zeros up to a width. -/
def paddedDigits (base width number : Nat) : String :=
  let digits := String.ofList (Nat.toDigits base number)
  String.ofList (List.replicate (width - digits.length) (Char.ofNat 48)) ++ digits

theorem utf8Len_replicate (count : Nat) (char : Char) :
    String.utf8Len (List.replicate count char) = count * char.utf8Size := by
  induction count with
  | zero => simp
  | succ count ih => rw [List.replicate_succ, String.utf8Len_cons, ih, Nat.succ_mul]

/-- A number that fits is written with exactly the digits of the width. -/
theorem utf8ByteSize_paddedDigits {base width number : Nat} (large : 1 < base) (wide : 0 < width)
    (fits : number < base ^ width) : (paddedDigits base width number).utf8ByteSize = width := by
  have short : (Nat.toDigits base number).length ≤ width :=
    (Nat.length_toDigits_le_iff large wide).mpr fits
  have zero : (Char.ofNat 48).utf8Size = 1 := rfl
  simp only [paddedDigits, String.utf8ByteSize_append, String.utf8ByteSize_ofList,
    String.length_ofList, utf8Len_replicate, utf8Len_toDigits large, zero]
  omega

end Foundation
