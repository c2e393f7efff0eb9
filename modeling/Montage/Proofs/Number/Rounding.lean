import Mathlib.Algebra.Group.Int.Even
import Mathlib.Tactic.LinearCombination
import Mathlib.Tactic.Ring
import Montage.Proofs.Number.Exact

/-! The nearest multiple of a step. Of two that are equally near it is the even one, so it is determined
by the value that is rounded, and grows with it. -/

namespace Montage

/-- The multiple of a step that is nearest to a value; of two that are equally near, the even one. -/
structure IsNearest (step value : ℚ) (count : Int) : Prop where
  near : ∀ other : Int, |count * step - value| ≤ |other * step - value|
  even : ∀ other : Int, other ≠ count → |other * step - value| = |count * step - value| → Even count

section Quotients

variable {numerator denominator count : Nat}

theorem roundQuotient_le_iff (positive : 0 < denominator) :
    roundQuotient numerator denominator ≤ count ↔
      2 * numerator < (2 * count + 1) * denominator ∨
        (2 * numerator = (2 * count + 1) * denominator ∧ Even count) := by
  have division := Nat.div_add_mod numerator denominator
  have small := Nat.mod_lt numerator positive
  unfold roundQuotient
  dsimp only
  generalize numerator / denominator = quotient at *
  generalize numerator % denominator = rest at *
  have limit : (2 * count + 1) * denominator = 2 * (denominator * count) + denominator := by ring
  rw [limit, Nat.even_iff]
  rcases Nat.lt_trichotomy quotient count with below | rfl | above
  · have product := Nat.mul_le_mul_left denominator (Nat.succ_le_of_lt below)
    rw [Nat.mul_succ] at product
    split
    · omega
    · split <;> omega
  · split
    · omega
    · split <;> omega
  · have product := Nat.mul_le_mul_left denominator (Nat.succ_le_of_lt above)
    rw [Nat.mul_succ] at product
    split
    · omega
    · split <;> omega

/-- Rounding moves a quotient by a half at most. -/
theorem roundQuotient_near (numerator : Nat) (positive : 0 < denominator) :
    |(roundQuotient numerator denominator : ℚ) - numerator / denominator| ≤ 1 / 2 := by
  obtain ⟨below, above⟩ := roundQuotient_bounds numerator positive
  have divisor : (0 : ℚ) < denominator := Nat.cast_pos.mpr positive
  have quotient : (numerator : ℚ) / denominator * denominator = numerator :=
    div_mul_cancel₀ _ divisor.ne'
  have below : 2 * (numerator : ℚ) ≤ (2 * roundQuotient numerator denominator + 1) * denominator :=
    mod_cast below
  have above : 2 * (roundQuotient numerator denominator : ℚ) * denominator ≤
      2 * numerator + denominator := mod_cast above
  rw [abs_le]
  constructor
  · refine le_of_mul_le_mul_right ?_ divisor
    linarith
  · refine le_of_mul_le_mul_right ?_ divisor
    linarith

/-- A quotient that lies in the middle is rounded to an even number, up or down. -/
theorem even_roundQuotient (positive : 0 < denominator)
    (middle : |(roundQuotient numerator denominator : ℚ) - numerator / denominator| = 1 / 2) :
    Even (roundQuotient numerator denominator) := by
  have divisor : (denominator : ℚ) ≠ 0 := Nat.cast_ne_zero.mpr positive.ne'
  have quotient : (numerator : ℚ) / denominator * denominator = numerator :=
    div_mul_cancel₀ _ divisor
  have smallest := @roundQuotient_le_iff numerator denominator
  generalize rounded : roundQuotient numerator denominator = result at *
  rcases abs_eq (by norm_num) |>.mp middle with up | down
  · -- Rounded up, so the number below is odd.
    have same : 2 * (numerator : ℚ) + denominator = 2 * result * denominator := by
      rw [← quotient]
      linear_combination -2 * (denominator : ℚ) * up
    have same : 2 * numerator + denominator = 2 * result * denominator := mod_cast same
    obtain rfl | ⟨fewer, rfl⟩ : result = 0 ∨ ∃ fewer, result = fewer + 1 := by
      cases result <;> simp
    · exact Even.zero
    · have notBelow := (@smallest fewer positive).not.mp (by omega)
      rw [not_or, not_and] at notBelow
      exact Nat.even_add_one.mpr (notBelow.2 (by grind))
  · have same : 2 * (numerator : ℚ) = (2 * result + 1) * denominator := by
      rw [← quotient]
      linear_combination -2 * (denominator : ℚ) * down
    have same : 2 * numerator = (2 * result + 1) * denominator := mod_cast same
    obtain below | ⟨_, even⟩ := (@smallest result positive).mp le_rfl
    · omega
    · exact even

end Quotients

namespace IsNearest

variable {step value small large : ℚ} {count low high : Int}

/-- Different whole numbers are at least one apart. -/
theorem one_le_abs_sub {first second : Int} (differ : first ≠ second) :
    (1 : ℚ) ≤ |(first : ℚ) - second| := by
  have apart := Int.one_le_abs (sub_ne_zero.mpr differ)
  exact_mod_cast apart

/-- A multiple of the step stays as it is. -/
theorem self (wide : 0 < step) (count : Int) : IsNearest step (count * step) count := by
  constructor
  · intro other
    rw [sub_self, abs_zero]
    exact abs_nonneg _
  · intro other differ same
    rw [sub_self, abs_zero, abs_eq_zero, sub_eq_zero, mul_left_inj' wide.ne', Int.cast_inj] at same
    exact absurd same differ

/-- What is rounded to a whole number of steps is the quotient by the step. -/
theorem of_quotient (numerator : Nat) {denominator : Nat} (positive : 0 < denominator)
    (wide : 0 < step) :
    IsNearest step (numerator / denominator * step) (roundQuotient numerator denominator) := by
  have near := roundQuotient_near numerator positive
  have even := @even_roundQuotient numerator denominator positive
  generalize roundQuotient numerator denominator = rounded at near even ⊢
  generalize (numerator : ℚ) / denominator = quotient at near even ⊢
  have scaled (other : Int) : |other * step - quotient * step| = |other - quotient| * step := by
    rw [← sub_mul, abs_mul, abs_of_pos wide]
  have further (other : Int) (differ : other ≠ rounded) :
      1 / 2 ≤ |(other : ℚ) - quotient| ∧
        (|(other : ℚ) - quotient| = |(rounded : ℚ) - quotient| →
          |(rounded : ℚ) - quotient| = 1 / 2) := by
    have apart := one_le_abs_sub differ
    have detour := abs_sub_le (other : ℚ) quotient rounded
    rw [abs_sub_comm quotient] at detour
    rw [Int.cast_natCast] at apart
    constructor
    · linarith
    · intro same
      linarith
  constructor
  · intro other
    rw [scaled, scaled]
    refine mul_le_mul_of_nonneg_right ?_ wide.le
    by_cases same : other = rounded
    · rw [same]
    · rw [Int.cast_natCast]
      exact near.trans (further other same).1
  · intro other differ same
    rw [scaled, scaled, mul_left_inj' wide.ne', Int.cast_natCast] at same
    exact mod_cast even ((further other differ).2 same)

/-- Rounding does not look at the sign. -/
theorem neg (nearest : IsNearest step value count) : IsNearest step (-value) (-count) := by
  have mirrored (other : Int) : |(-other : Int) * step - -value| = |other * step - value| := by
    rw [Int.cast_neg, neg_mul, neg_sub_neg, abs_sub_comm]
  constructor
  · intro other
    have near := nearest.near (-other)
    rwa [← mirrored (-other), neg_neg, ← mirrored count] at near
  · intro other differ same
    rw [mirrored, ← neg_neg other, mirrored] at same
    exact (nearest.even (-other) (fun equal => differ (by rw [← equal, neg_neg])) same).neg

/-- What is rounded moves by half a step at most. -/
theorem within (wide : 0 < step) (nearest : IsNearest step value count) :
    |count * step - value| ≤ step / 2 := by
  have up := nearest.near (count + 1)
  have down := nearest.near (count - 1)
  push_cast at up down
  generalize offset : count * step - value = moved at *
  rw [show (count + 1) * step - value = moved + step by rw [← offset]; ring] at up
  rw [show (count - 1) * step - value = moved - step by rw [← offset]; ring] at down
  rcases abs_cases moved with ⟨same, _⟩ | ⟨same, _⟩
  · rcases abs_cases (moved - step) with ⟨other, _⟩ | ⟨other, _⟩ <;> linarith
  · rcases abs_cases (moved + step) with ⟨other, _⟩ | ⟨other, _⟩ <;> linarith

/-- What is nearer to the greater of two numbers lies beyond their middle. -/
theorem middle_le {left right : ℚ} (ordered : left < right)
    (nearer : |right - value| ≤ |left - value|) : left + right ≤ 2 * value := by
  rcases abs_cases (right - value) with ⟨one, _⟩ | ⟨one, _⟩ <;>
    rcases abs_cases (left - value) with ⟨two, _⟩ | ⟨two, _⟩ <;> linarith

theorem le_middle {left right : ℚ} (ordered : left < right)
    (nearer : |left - value| ≤ |right - value|) : 2 * value ≤ left + right := by
  rcases abs_cases (right - value) with ⟨one, _⟩ | ⟨one, _⟩ <;>
    rcases abs_cases (left - value) with ⟨two, _⟩ | ⟨two, _⟩ <;> linarith

/-- The nearest multiple grows with the value. Two values that have theirs the other way round are one,
in the middle between two even multiples, but another multiple between these is nearer to it. -/
theorem mono (wide : 0 < step) (first : IsNearest step small low) (second : IsNearest step large high)
    (ordered : small ≤ large) : low ≤ high := by
  by_contra reversed
  rw [not_le] at reversed
  have scaled {one two : Int} (below : one < two) : (one : ℚ) * step < two * step :=
    mul_lt_mul_of_pos_right (Int.cast_lt.mpr below) wide
  have lower := middle_le (scaled reversed) (first.near high)
  have upper := le_middle (scaled reversed) (second.near low)
  obtain rfl : small = large := by linarith
  have tie := le_antisymm (second.near low) (first.near high)
  have apart : high < low - 1 := by
    obtain ⟨half, evenLow⟩ := first.even high reversed.ne tie
    obtain ⟨other, evenHigh⟩ := second.even low reversed.ne' tie.symm
    omega
  have beyond := middle_le (scaled (sub_one_lt low)) (first.near (low - 1))
  have inner := scaled apart
  linarith

end IsNearest

end Montage
