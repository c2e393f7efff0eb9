import Mathlib.Algebra.Group.Nat.Defs
import Montage.Number.Binary64

/-! Rounding keeps to the side of every double: a quotient that is not below a double is not
rounded below it, and one that is not above it is not rounded above it. -/

namespace Montage

theorem div_le_roundQuotient (numerator denominator : Nat) :
    numerator / denominator ≤ roundQuotient numerator denominator := by
  simp only [roundQuotient]
  split
  · exact Nat.le_refl _
  · split <;> omega

/-- Rounding down to a whole number that is reached is not undone. -/
theorem le_roundQuotient {numerator denominator whole : Nat} (positive : 0 < denominator)
    (reached : whole * denominator ≤ numerator) : whole ≤ roundQuotient numerator denominator :=
  Nat.le_trans ((Nat.le_div_iff_mul_le positive).mpr reached) (div_le_roundQuotient ..)

theorem roundQuotient_le {numerator denominator whole : Nat} (positive : 0 < denominator)
    (within : numerator ≤ whole * denominator) : roundQuotient numerator denominator ≤ whole := by
  have upper := (roundQuotient_bounds numerator positive).2
  by_cases exact : numerator = whole * denominator
  · subst exact
    simp [roundQuotient, Nat.mul_div_cancel _ positive, Nat.mul_mod_left, positive]
  · -- Below the whole number by at least one part, so at most a half is added.
    have below : numerator < whole * denominator := by omega
    have floor : numerator / denominator < whole := (Nat.div_lt_iff_lt_mul positive).mpr below
    have parity := Nat.mod_two_eq_zero_or_one (numerator / denominator)
    simp only [roundQuotient]
    split
    · omega
    · split <;> omega

theorem representable_zero : Representable 0 := by
  refine ⟨?_, Nat.zero_mod _⟩
  unfold Binary64.rangeEnd
  apply Nat.two_pow_pos

namespace Binary64

/-- The spacing of doubles around a whole number of units. -/
def spacing (units : Nat) : Nat := Nat.pow 2 (units.log2 - 52)

theorem spacing_pos (units : Nat) : 0 < spacing units := Nat.two_pow_pos _

theorem spacing_dvd {units : Nat} (representable : Representable units) :
    spacing units ∣ units :=
  Nat.dvd_of_mod_eq_zero representable.2

theorem spacing_dvd_spacing {small large : Nat} (ordered : small ≤ large) :
    spacing small ∣ spacing large := by
  apply Nat.pow_dvd_pow
  by_cases zero : small = 0
  · simp [zero]
  · have := (Nat.le_log2 (by omega)).mpr (Nat.le_trans (Nat.log2_self_le zero) ordered)
    omega

/-- Between a double and a larger number of units lies a multiple of the larger one's spacing. -/
theorem exists_multiple_between {low high : Nat} (representable : Representable low)
    (ordered : low ≤ high) : ∃ count, low ≤ count * spacing high ∧ count * spacing high ≤ high := by
  by_cases zero : high = 0
  · exact ⟨0, by omega, by omega⟩
  · by_cases same : low.log2 = high.log2
    · have divides : spacing high ∣ low := by
        simpa [spacing, same] using spacing_dvd representable
      obtain ⟨count, product⟩ := divides
      rw [Nat.mul_comm] at product
      exact ⟨count, Nat.le_of_eq product, product ▸ ordered⟩
    · -- A power of two separates them, and it is a multiple of the spacing.
      have lower : low < 2 ^ high.log2 := by
        by_cases none : low = 0
        · rw [none]; exact Nat.two_pow_pos _
        · have := (Nat.le_log2 zero).mpr (Nat.le_trans (Nat.log2_self_le none) ordered)
          exact (Nat.log2_lt none).mp (by omega)
      have split : 2 ^ (high.log2 - (high.log2 - 52)) * spacing high = 2 ^ high.log2 := by
        change 2 ^ _ * 2 ^ _ = _
        rw [← Nat.pow_add]
        congr 1
        omega
      exact ⟨2 ^ (high.log2 - (high.log2 - 52)), by omega,
        by rw [split]; exact Nat.log2_self_le zero⟩

theorem le_nearestUnits {numerator denominator units : Nat} (positive : 0 < denominator)
    (representable : Representable units) (reached : units * denominator ≤ numerator) :
    units ≤ nearestUnits numerator denominator := by
  have floor : units ≤ numerator / denominator := (Nat.le_div_iff_mul_le positive).mpr reached
  obtain ⟨count, lower, upper⟩ := exists_multiple_between representable floor
  have spaced := spacing_pos (numerator / denominator)
  have rounded : count ≤ roundQuotient numerator (denominator * spacing (numerator / denominator)) := by
    apply le_roundQuotient (Nat.mul_pos positive spaced)
    have := (Nat.le_div_iff_mul_le positive).mp upper
    calc count * (denominator * spacing (numerator / denominator))
        = count * spacing (numerator / denominator) * denominator := by
          rw [Nat.mul_comm denominator, Nat.mul_assoc]
      _ ≤ numerator := this
  exact Nat.le_trans lower (Nat.mul_le_mul_right _ rounded)

theorem nearestUnits_le {numerator denominator units : Nat} (positive : 0 < denominator)
    (representable : Representable units) (within : numerator ≤ units * denominator) :
    nearestUnits numerator denominator ≤ units := by
  have floor : numerator / denominator ≤ units := Nat.div_le_of_le_mul (by
    rwa [Nat.mul_comm])
  obtain ⟨count, product⟩ := Nat.dvd_trans (spacing_dvd_spacing floor) (spacing_dvd representable)
  have spaced := spacing_pos (numerator / denominator)
  have rounded : roundQuotient numerator (denominator * spacing (numerator / denominator)) ≤ count := by
    apply roundQuotient_le (Nat.mul_pos positive spaced)
    calc numerator ≤ units * denominator := within
      _ = spacing (numerator / denominator) * count * denominator := by rw [← product]
      _ = count * (denominator * spacing (numerator / denominator)) := by
          rw [Nat.mul_comm denominator, ← Nat.mul_assoc, Nat.mul_comm (spacing _) count]
  calc nearestUnits numerator denominator
      ≤ count * spacing (numerator / denominator) := Nat.mul_le_mul_right _ rounded
    _ = units := by rw [Nat.mul_comm, ← product]

/-- Quotients are rounded to 53 binary digits, or up to a power of two. -/
theorem roundQuotient_spacing_le (numerator : Nat) {denominator : Nat} (positive : 0 < denominator) :
    roundQuotient numerator (denominator * spacing (numerator / denominator)) ≤ 2 ^ 53 := by
  let exponent := (numerator / denominator).log2 - 52
  have spaced : spacing (numerator / denominator) = 2 ^ exponent := rfl
  apply roundQuotient_le (Nat.mul_pos positive (spacing_pos _))
  have below : numerator / denominator < 2 ^ (53 + exponent) :=
    Nat.lt_of_lt_of_le Nat.lt_log2_self (Nat.pow_le_pow_right (by omega) (by omega))
  have := (Nat.div_lt_iff_lt_mul positive).mp below
  calc numerator ≤ 2 ^ (53 + exponent) * denominator := by omega
    _ = 2 ^ 53 * (denominator * spacing (numerator / denominator)) := by
      rw [spaced, Nat.pow_add, Nat.mul_assoc, Nat.mul_comm denominator]

/-- Rounding leaves no more than 53 binary digits, or a power of two. -/
theorem spacing_dvd_nearestUnits (numerator : Nat) {denominator : Nat} (positive : 0 < denominator) :
    spacing (nearestUnits numerator denominator) ∣ nearestUnits numerator denominator := by
  let exponent := (numerator / denominator).log2 - 52
  let count := roundQuotient numerator (denominator * 2 ^ exponent)
  have written : nearestUnits numerator denominator = count * 2 ^ exponent := rfl
  have spaced := Nat.two_pow_pos exponent
  have bounded : count ≤ 2 ^ 53 := roundQuotient_spacing_le numerator positive
  rw [written, spacing]
  by_cases full : count = 2 ^ 53
  · rw [full, ← Nat.pow_add, Nat.log2_two_pow]
    exact Nat.pow_dvd_pow 2 (by omega)
  · refine Nat.dvd_trans (Nat.pow_dvd_pow 2 ?_) (Nat.dvd_mul_left ..)
    by_cases none : count * 2 ^ exponent = 0
    · simp [none]
    · have small : count * 2 ^ exponent < 2 ^ (53 + exponent) := by
        rw [Nat.pow_add]
        exact Nat.mul_lt_mul_of_pos_right (by omega) spaced
      have := (Nat.log2_lt none).mpr small
      omega

end Binary64

end Montage
