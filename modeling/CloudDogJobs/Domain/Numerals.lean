import Mathlib
import CloudDogJobs.Domain.Codec

/-!
# Numbers as texts

`int(str(number))` gives the number back.
-/

namespace CloudDogJobs

@[simp] theorem parseInt_toString (number : Int) : parseInt (toString number) = .ok number := by
  unfold parseInt
  rw [show (toString number).toInt? = some number from Int.toInt?_repr number]

/-- The text of a number is not empty. -/
theorem toString_ne_empty (number : Int) : toString number ≠ "" := by
  intro empty
  cases number with
  | ofNat number => exact Nat.repr_ne_empty empty
  | negSucc number =>
      have dash := congrArg String.toList empty
      simp [ToString.toString, Int.repr] at dash

end CloudDogJobs
