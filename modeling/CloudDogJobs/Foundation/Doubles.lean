import Mathlib.Algebra.Order.Field.Rat
import Mathlib.Data.Int.Log
import Mathlib.Data.Rat.Floor

/-!
# Double precision

An exact value is rounded to the nearest multiple of the unit in its last place, and a
value halfway between two of them to the even one. A significand has 53 bits, and no unit
is smaller than `2 ^ -1074`. Values from `2 ^ 1024` on, which no double reaches, are left
out: they are rounded as if the exponent had no bound.
-/

namespace Foundation

/-- The nearest integer, and of two nearest ones the even one. -/
def roundHalfEven (value : Rat) : Int :=
  if value - ⌊value⌋ < 1 / 2 then ⌊value⌋
  else if 1 / 2 < value - ⌊value⌋ then ⌊value⌋ + 1
  else if ⌊value⌋ % 2 = 0 then ⌊value⌋
  else ⌊value⌋ + 1

/-- The exponent of the unit in the last place. -/
def unitExponent (value : Rat) : Int := max (Int.log 2 |value| - 52) (-1074)

/-- The double that is nearest to a value. -/
def roundDouble (value : Rat) : Rat :=
  roundHalfEven (value / 2 ^ unitExponent value) * 2 ^ unitExponent value

theorem roundHalfEven_intCast (value : Int) : roundHalfEven value = value := by
  unfold roundHalfEven
  rw [Int.floor_intCast, sub_self, if_pos (by norm_num)]

theorem roundHalfEven_nonneg {value : Rat} (nonneg : 0 ≤ value) : 0 ≤ roundHalfEven value := by
  have below : 0 ≤ ⌊value⌋ := Int.floor_nonneg.mpr nonneg
  unfold roundHalfEven
  split_ifs <;> omega

theorem roundDouble_nonneg {value : Rat} (nonneg : 0 ≤ value) : 0 ≤ roundDouble value := by
  have unit : (0 : Rat) < 2 ^ unitExponent value := zpow_pos two_pos _
  have rounded := roundHalfEven_nonneg (div_nonneg nonneg unit.le)
  exact mul_nonneg (Int.cast_nonneg rounded) unit.le

/-- A multiple of its unit is a double. -/
theorem roundDouble_of_multiple {value : Rat} (count : Int)
    (multiple : value = count * 2 ^ unitExponent value) : roundDouble value = value := by
  have unit : (2 : Rat) ^ unitExponent value ≠ 0 := zpow_ne_zero _ two_ne_zero
  have quotient : value / 2 ^ unitExponent value = count :=
    (div_eq_iff unit).mpr multiple
  unfold roundDouble
  rw [quotient, roundHalfEven_intCast]
  exact multiple.symm

/-- The units of small integers are at most one. -/
theorem unitExponent_intCast {value : Int} (small : |value| < 2 ^ 53) :
    unitExponent value ≤ 0 := by
  have below : Int.log 2 |(value : Rat)| < 53 := by
    rcases eq_or_ne value 0 with rfl | nonzero
    · simp
    · have positive : (0 : Rat) < |(value : Rat)| := abs_pos.mpr (Int.cast_ne_zero.mpr nonzero)
      have least := Int.zpow_log_le_self (b := 2) (by decide) positive
      have most : |(value : Rat)| < 2 ^ (53 : Int) := by exact_mod_cast small
      exact (zpow_lt_zpow_iff_right₀ (by norm_num : (1 : Rat) < 2)).mp
        (lt_of_le_of_lt (by exact_mod_cast least) most)
  unfold unitExponent
  omega

/-- Integers of up to 53 bits are doubles. -/
theorem roundDouble_intCast {value : Int} (small : |value| < 2 ^ 53) :
    roundDouble value = value := by
  obtain ⟨places, exponent⟩ := Int.exists_eq_neg_ofNat (unitExponent_intCast small)
  refine roundDouble_of_multiple (value * 2 ^ places) ?_
  rw [exponent, zpow_neg, zpow_natCast]
  push_cast
  field_simp

/-- An integer is rounded to an integer. -/
theorem exists_roundDouble_intCast (value : Int) :
    ∃ rounded : Int, roundDouble value = rounded := by
  rcases lt_or_ge |value| (2 ^ 53) with small | large
  · exact ⟨value, roundDouble_intCast small⟩
  · have least : (2 : Rat) ^ (53 : Int) ≤ |(value : Rat)| := by exact_mod_cast large
    have most := Int.lt_zpow_succ_log_self (b := 2) (by decide) |(value : Rat)|
    have reached : 53 < Int.log 2 |(value : Rat)| + 1 :=
      (zpow_lt_zpow_iff_right₀ (by norm_num : (1 : Rat) < 2)).mp
        (lt_of_le_of_lt least (by exact_mod_cast most))
    have whole : 0 ≤ unitExponent value := by
      unfold unitExponent
      omega
    obtain ⟨places, exponent⟩ := Int.eq_ofNat_of_zero_le whole
    refine ⟨roundHalfEven (value / 2 ^ unitExponent value) * 2 ^ places, ?_⟩
    unfold roundDouble
    rw [exponent, zpow_natCast]
    push_cast
    rfl

/-- A double is not the quotient that it stands for. -/
example : roundDouble (1 / 10) = 3602879701896397 / 36028797018963968 := by decide +kernel

end Foundation
