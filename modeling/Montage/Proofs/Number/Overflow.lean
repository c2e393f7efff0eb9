import Mathlib.Tactic.Ring
import Montage.Proofs.Number.Decimal

/-! Where the range of doubles ends: a number is rounded to a finite double exactly if it is not within
half a spacing of `2 ^ 1024`, nor beyond. -/

namespace Montage

/-- Quotients are rounded below an even whole number if they are more than a half below it; one that is
exactly a half below goes to the even side. -/
theorem roundQuotient_lt_iff {numerator denominator whole : Nat} (positive : 0 < denominator)
    (even : whole % 2 = 0) :
    roundQuotient numerator denominator < whole ↔
      2 * numerator + denominator < 2 * whole * denominator := by
  have division := Nat.div_add_mod' numerator denominator
  have small := Nat.mod_lt numerator positive
  simp only [roundQuotient]
  generalize numerator / denominator = quotient at *
  generalize numerator % denominator = rest at *
  subst division
  rcases Nat.lt_trichotomy (quotient + 1) whole with below | rfl | above
  · -- More than one below, so more than a half.
    have product : (quotient + 2) * denominator ≤ whole * denominator :=
      Nat.mul_le_mul_right denominator below
    constructor
    · intro _
      grind
    · intro _
      split
      · omega
      · split <;> omega
  · constructor
    · intro rounded
      split at rounded
      · grind
      · split at rounded <;> omega
    · intro _
      rw [if_pos (by grind)]
      omega
  · have product : whole * denominator ≤ quotient * denominator :=
      Nat.mul_le_mul_right denominator (Nat.lt_succ_iff.mp above)
    constructor
    · intro rounded
      split at rounded
      · omega
      · split at rounded <;> omega
    · intro _
      grind

namespace Binary64

/-- From here on numbers are rounded beyond the range of doubles. It lies half a spacing below the end
of the range. -/
def limit : ℚ := 2 ^ 1024 - 2 ^ 970

theorem limit_lt : limit < 2 ^ 1024 := sub_lt_self _ (pow_pos two_pos 970)

/-- Rounding stays above the power of two that a number is above. -/
theorem two_pow_le_nearestUnits {numerator denominator : Nat}
    (some : numerator / denominator ≠ 0) :
    2 ^ (numerator / denominator).log2 ≤ nearestUnits numerator denominator := by
  have positive : 0 < denominator := Nat.pos_of_ne_zero fun zero => some (by simp [zero])
  have spaced := spacing_pos (numerator / denominator)
  have split : 2 ^ ((numerator / denominator).log2 - ((numerator / denominator).log2 - 52)) *
      spacing (numerator / denominator) = 2 ^ (numerator / denominator).log2 := by
    change 2 ^ _ * 2 ^ _ = _
    rw [← Nat.pow_add]
    congr 1
    omega
  rw [← split]
  refine Nat.mul_le_mul_right _ (le_roundQuotient (Nat.mul_pos positive spaced) ?_)
  calc 2 ^ _ * (denominator * spacing (numerator / denominator))
      = 2 ^ (numerator / denominator).log2 * denominator := by
        rw [Nat.mul_left_comm, split, Nat.mul_comm]
    _ ≤ numerator / denominator * denominator :=
        Nat.mul_le_mul_right _ (Nat.log2_self_le some)
    _ ≤ numerator := Nat.div_mul_le_self _ _

/-- The spacing of the largest doubles decides. Below them nothing is rounded beyond the range, and
above them everything is. -/
theorem nearestUnits_lt_iff {numerator denominator top : Nat} (positive : 0 < denominator)
    (split : rangeEnd = 2 ^ 53 * 2 ^ top) :
    nearestUnits numerator denominator < rangeEnd ↔
      2 * numerator + denominator * 2 ^ top < 2 * 2 ^ 53 * (denominator * 2 ^ top) := by
  have scaled : 0 < 2 ^ top := Nat.two_pow_pos top
  have power (count : Nat) : 2 ^ (count + top) * denominator = 2 ^ count * (denominator * 2 ^ top) := by
    rw [Nat.pow_add, Nat.mul_assoc, Nat.mul_comm denominator]
  rcases Nat.lt_trichotomy (numerator / denominator).log2 (52 + top) with below | same | above
  · have room : 2 ^ 52 * 2 ^ top < rangeEnd := split ▸ Nat.mul_lt_mul_of_pos_right (by decide) scaled
    have small : numerator < 2 ^ 52 * (denominator * 2 ^ top) := by
      rw [← power, ← Nat.div_lt_iff_lt_mul positive]
      exact Nat.lt_of_lt_of_le Nat.lt_log2_self (Nat.pow_le_pow_right Nat.two_pos below)
    have rounded : nearestUnits numerator denominator ≤ 2 ^ 52 * 2 ^ top := by
      refine nearestUnits_le positive (representable_mul (by decide) room) (small.le.trans_eq ?_)
      rw [Nat.mul_comm denominator, Nat.mul_assoc]
    constructor
    · intro _
      omega
    · intro _
      exact Nat.lt_of_le_of_lt rounded room
  · have step : (numerator / denominator).log2 - 52 = top := by omega
    rw [split, nearestUnits, step]
    exact (Nat.mul_lt_mul_right scaled).trans
      (roundQuotient_lt_iff (Nat.mul_pos positive scaled) (by decide))
  · have some : numerator / denominator ≠ 0 := by
      intro none
      simp [none] at above
    have far : 2 ^ (53 + top) ≤ 2 ^ (numerator / denominator).log2 :=
      Nat.pow_le_pow_right Nat.two_pos (by omega)
    have rounded := far.trans (two_pow_le_nearestUnits some)
    have large : 2 ^ 53 * (denominator * 2 ^ top) ≤ numerator := by
      rw [← power, ← Nat.le_div_iff_mul_le positive]
      exact far.trans (Nat.log2_self_le some)
    rw [Nat.pow_add, ← split] at rounded
    constructor
    · intro within
      omega
    · intro within
      omega

theorem isFinite_nearest_units (negative : Bool) (numerator : Nat) {denominator : Nat}
    (positive : 0 < denominator) : (nearest negative numerator denominator).isFinite = true ↔
      nearestUnits numerator denominator < rangeEnd := by
  have spaced := Nat.mod_eq_zero_of_dvd (spacing_dvd_nearestUnits numerator positive)
  rw [nearest, ofUnits]
  constructor
  · intro finite
    split at finite
    · rename_i representable
      exact representable.1
    · cases finite
  · intro within
    rw [dif_pos ⟨within, spaced⟩]
    rfl

/-- The range ends `2 ^ 53` spacings of the largest doubles above zero, and the limit is half a spacing
below. -/
theorem exists_largest_spacing : ∃ exponent : Nat, rangeEnd = 2 ^ 53 * 2 ^ exponent ∧
    2 * (unit * limit) = (2 * 2 ^ 53 - 1) * 2 ^ exponent := by
  have natural {whole first second : Nat} (sum : whole = first + second) :
      Nat.pow 2 whole = 2 ^ first * 2 ^ second := sum ▸ Nat.pow_add 2 first second
  have rational {whole first second : Nat} (sum : whole = first + second) :
      (2 : ℚ) ^ whole = 2 ^ first * 2 ^ second := sum ▸ pow_add 2 first second
  have cast (exponent : Nat) : ((Nat.pow 2 exponent : Nat) : ℚ) = 2 ^ exponent :=
    Nat.cast_pow 2 exponent
  obtain ⟨exponent, sum, units⟩ :
      ∃ exponent, exponent + 971 = 2045 ∧ (unit : ℚ) = 2 ^ exponent := by
    refine ⟨1074, rfl, ?_⟩
    unfold unit
    apply cast
  refine ⟨2045, ?_, ?_⟩
  · unfold rangeEnd
    apply natural
    rfl
  · rw [limit, units, @rational 1024 54 970 rfl, @rational 2045 exponent 971 sum.symm,
      @rational 971 970 1 rfl]
    generalize (2 : ℚ) ^ 970 = half
    ring

theorem isFinite_nearest_iff (negative : Bool) (numerator : Nat) {denominator : Nat}
    (positive : 0 < denominator) : (nearest negative numerator denominator).isFinite = true ↔
      (numerator / denominator : ℚ) < unit * limit := by
  obtain ⟨exponent, split, units⟩ := exists_largest_spacing
  rw [isFinite_nearest_units negative numerator positive, nearestUnits_lt_iff positive split,
    div_lt_iff₀ (Nat.cast_pos.mpr positive), ← @Nat.cast_lt ℚ]
  push_cast
  constructor
  · intro within
    nlinarith
  · intro within
    nlinarith

theorem isFinite_nearest_wholes (negative : Bool) (numerator : Nat) {denominator : Nat}
    (positive : 0 < denominator) : (nearest negative (unit * numerator) denominator).isFinite = true ↔
      (numerator / denominator : ℚ) < limit := by
  rw [isFinite_nearest_iff negative _ positive, Nat.cast_mul, mul_div_assoc,
    mul_lt_mul_iff_right₀ unit_pos]

/-- A sum of finite doubles is finite as long as the exact one is on this side of the limits. -/
theorem isFinite_add_iff {left right : Binary64} (leftFinite : left.isFinite = true)
    (rightFinite : right.isFinite = true) :
    (left + right).isFinite = true ↔ |left.exact + right.exact| < limit := by
  have sum : |left.exact + right.exact| =
      ((left.signedUnits + right.signedUnits).natAbs / (1 : Nat) : ℚ) / unit := by
    rw [exact, exact, ← add_div, abs_div, abs_of_pos unit_pos, Nat.cast_one, div_one,
      Nat.cast_natAbs]
    push_cast
    rfl
  rw [sum, div_lt_iff₀' unit_pos]
  obtain ⟨negative, zero, same⟩ | same := add_finite leftFinite rightFinite
  · rw [same, zero, Int.natAbs_zero, ← nearest_zero negative Nat.one_pos]
    exact isFinite_nearest_iff negative 0 Nat.one_pos
  · rw [same]
    exact isFinite_nearest_iff _ _ Nat.one_pos

theorem exact_nearest_le {numerator denominator exponent : Nat} (positive : 0 < denominator)
    (within : exponent < 1024) (small : numerator ≤ Nat.pow 2 exponent * denominator) :
    (nearest false (unit * numerator) denominator).exact ≤ 2 ^ exponent := by
  have bounded : nearestUnits (unit * numerator) denominator ≤ unit * Nat.pow 2 exponent := by
    refine nearestUnits_le positive (representable_pow within) ?_
    rw [Nat.mul_assoc]
    exact Nat.mul_le_mul_left unit small
  rw [exact, div_le_iff₀' unit_pos, nearest, ofUnits]
  split
  · show ((nearestUnits (unit * numerator) denominator : Int) : ℚ) ≤ _
    exact_mod_cast bounded
  · exact mul_nonneg unit_pos.le (pow_nonneg zero_le_two exponent)

theorem two_pow_lt_limit {exponent : Nat} (within : exponent < 1023) :
    (2 : ℚ) ^ exponent + 2 ^ exponent < limit := by
  have double (power : Nat) : (2 : ℚ) ^ power + 2 ^ power = 2 ^ (power + 1) := by
    rw [pow_succ]
    ring
  have reached : (2 : ℚ) ^ (exponent + 1) ≤ 2 ^ 1023 := pow_le_pow_right₀ one_le_two within
  have spare : (2 : ℚ) ^ 970 < 2 ^ 1023 := pow_lt_pow_right₀ one_lt_two (by decide)
  rw [limit, ← double 1023, double, add_sub_assoc]
  exact reached.trans_lt (lt_add_of_pos_right _ (sub_pos.mpr spare))

end Binary64

end Montage
