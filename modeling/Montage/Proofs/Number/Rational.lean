import Mathlib.Algebra.Order.Group.Unbundled.Abs
import Mathlib.Data.Rat.Lemmas
import Montage.Filter.Color
import Montage.Proofs.Number.Exact

/-! Rationals as quantities. Their sums and differences are exact and never out of range. -/

namespace Montage

/-- What doubles stand for among the rationals: their exact values, or the decimals that they were
written as. Zero is zero, and the margin of comparisons is not below it. -/
class DoubleReading where
  value : Binary64 → ℚ
  value_zero : value .zero = 0
  value_epsilon : 0 ≤ value epsilon

/-- Decimal text with a number of places, ties to even. -/
def fixedRational (places : Nat) (value : ℚ) : String :=
  (if value < 0 then "-" else "") ++
    Binary64.pointed places (roundQuotient (value.num.natAbs * 10 ^ places) value.den)

variable [DoubleReading]

instance : Quantity ℚ where
  ofDouble := DoubleReading.value
  add left right := .ok (left + right)
  sub left right := .ok (left - right)
  lt left right := decide (left < right)
  le left right := decide (left ≤ right)
  magnitude value := |value|
  isZero value := decide (value = 0)
  fixed places value := .ok (fixedRational places value)

variable {left right : ℚ}

@[simp] theorem add_rational : Quantity.add left right = .ok (left + right) := rfl

@[simp] theorem sub_rational : Quantity.sub left right = .ok (left - right) := rfl

@[simp] theorem lt_rational : Quantity.lt left right = true ↔ left < right := decide_eq_true_iff

@[simp] theorem le_rational : Quantity.le left right = true ↔ left ≤ right := decide_eq_true_iff

@[simp] theorem isZero_rational : Quantity.isZero left = true ↔ left = 0 := decide_eq_true_iff

@[simp] theorem zero_rational : (Quantity.ofDouble Binary64.zero : ℚ) = 0 :=
  DoubleReading.value_zero

theorem epsilon_rational : 0 ≤ (Quantity.ofDouble epsilon : ℚ) :=
  DoubleReading.value_epsilon

end Montage
