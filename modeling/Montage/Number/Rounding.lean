/-!
Rounding a quotient of natural numbers to the nearest whole number.
-/

namespace Montage

/-- The whole number nearest to `numerator / denominator`; of two equally near, the even one. -/
def roundQuotient (numerator denominator : Nat) : Nat :=
  let quotient := numerator / denominator
  let twice := 2 * (numerator % denominator)
  if twice < denominator then quotient
  else if denominator < twice then quotient + 1
  else quotient + quotient % 2

/-- Rounding moves a quotient by at most half a unit. -/
theorem roundQuotient_bounds (numerator : Nat) {denominator : Nat} (positive : 0 < denominator) :
    2 * numerator ≤ (2 * roundQuotient numerator denominator + 1) * denominator ∧
      2 * roundQuotient numerator denominator * denominator ≤ 2 * numerator + denominator := by
  have division := Nat.div_add_mod numerator denominator
  have small := Nat.mod_lt numerator positive
  have parity := Nat.mod_two_eq_zero_or_one (numerator / denominator)
  simp only [roundQuotient]
  generalize numerator / denominator = quotient at *
  generalize numerator % denominator = rest at *
  subst division
  have commute : denominator * quotient = quotient * denominator := Nat.mul_comm ..
  split
  · constructor <;> grind
  · split
    · constructor <;> grind
    · rcases parity with even | odd
      · rw [even]; constructor <;> grind
      · rw [odd]; constructor <;> grind

end Montage
