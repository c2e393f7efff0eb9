import Montage.Proofs.Number.Overflow
import Montage.Proofs.Number.Rounding

/-! A quotient is rounded to the double that is closest to it among all finite doubles; of two that are
equally close, to the one with an even significand. -/

namespace Montage

namespace Binary64

/-- How many spacings the magnitude of a finite double has. -/
def significand : Binary64 → Nat
  | .finite _ units _ => units / spacing units
  | _ => 0

/-- The finite double that is closest to a value; of two that are equally close, the one with an even
significand. -/
structure IsClosest (target : ℚ) (value : Binary64) : Prop where
  finite : value.isFinite = true
  near : ∀ other : Binary64, other.isFinite = true →
    |value.exact - target| ≤ |other.exact - target|
  even : ∀ other : Binary64, other.isFinite = true → other.exact ≠ value.exact →
    |other.exact - target| = |value.exact - target| → Even value.significand

section Magnitudes

variable {numerator denominator units : Nat}

/-- The rounded magnitude is the nearest multiple of the spacing around the quotient. -/
theorem nearestUnits_isNearest (numerator : Nat) (positive : 0 < denominator) :
    ∃ count : Nat, nearestUnits numerator denominator = count * spacing (numerator / denominator) ∧
      IsNearest (spacing (numerator / denominator)) (numerator / denominator) count := by
  have spaced := spacing_pos (numerator / denominator)
  refine ⟨_, rfl, ?_⟩
  have rounded := IsNearest.of_quotient numerator (Nat.mul_pos positive spaced)
    (Nat.cast_pos.mpr spaced : (0 : ℚ) < _)
  have whole : (numerator : ℚ) / (denominator * spacing (numerator / denominator) : Nat) *
      spacing (numerator / denominator) = numerator / denominator := by
    have wide : (spacing (numerator / denominator) : ℚ) ≠ 0 := Nat.cast_ne_zero.mpr spaced.ne'
    rw [Nat.cast_mul, ← div_div, div_mul_cancel₀ _ wide]
  rwa [whole] at rounded

/-- A multiple of the spacing around a quotient is as close to the quotient as any double. -/
theorem exists_multiple_closer (numerator : Nat) (positive : 0 < denominator)
    (representable : Representable units) :
    ∃ count : Nat, let multiple := count * spacing (numerator / denominator)
      |(multiple : ℚ) - numerator / denominator| ≤ |(units : ℚ) - numerator / denominator| ∧
      (|(multiple : ℚ) - numerator / denominator| = |(units : ℚ) - numerator / denominator| →
        multiple = units) := by
  have divisor : (0 : ℚ) < denominator := Nat.cast_pos.mpr positive
  by_cases below : units * denominator ≤ numerator
  · -- The multiple lies between the double and the quotient.
    have floor : units ≤ numerator / denominator := (Nat.le_div_iff_mul_le positive).mpr below
    obtain ⟨count, lower, upper⟩ := exists_multiple_between representable floor
    refine ⟨count, ?_⟩
    intro multiple
    have lower : (units : ℚ) ≤ multiple := Nat.cast_le.mpr lower
    have upper : (multiple : ℚ) ≤ numerator / denominator := by
      rw [le_div_iff₀ divisor]
      exact_mod_cast (Nat.le_div_iff_mul_le positive).mp upper
    rw [abs_of_nonpos (sub_nonpos.mpr upper), abs_of_nonpos (by linarith)]
    constructor
    · linarith
    · intro same
      exact_mod_cast (by linarith : (multiple : ℚ) = units)
  · have floor : numerator / denominator ≤ units :=
      Nat.div_le_of_le_mul (by rw [Nat.mul_comm]; omega)
    obtain ⟨count, product⟩ := Nat.dvd_trans (spacing_dvd_spacing floor) (spacing_dvd representable)
    refine ⟨count, ?_⟩
    rw [Nat.mul_comm count, ← product]
    exact ⟨le_rfl, fun _ => rfl⟩

theorem nearestUnits_near (numerator : Nat) (positive : 0 < denominator)
    (representable : Representable units) :
    |(nearestUnits numerator denominator : ℚ) - numerator / denominator| ≤
      |(units : ℚ) - numerator / denominator| := by
  obtain ⟨rounded, same, nearest⟩ := nearestUnits_isNearest numerator positive
  obtain ⟨count, closer, _⟩ := exists_multiple_closer numerator positive representable
  have near := nearest.near count
  push_cast at closer near
  rw [same]
  push_cast
  exact near.trans closer

/-- An even multiple of the spacing around a quotient has an even significand, also where it is rounded
up to the next power of two. -/
theorem even_significand (positive : 0 < denominator) {count : Nat} (even : Even count)
    (same : nearestUnits numerator denominator = count * spacing (numerator / denominator)) :
    Even (nearestUnits numerator denominator / spacing (nearestUnits numerator denominator)) := by
  have spaced := spacing_pos (numerator / denominator)
  have bounded := roundQuotient_spacing_le numerator positive
  have rounded : roundQuotient numerator (denominator * spacing (numerator / denominator)) = count :=
    Nat.eq_of_mul_eq_mul_right spaced same
  rw [rounded] at bounded
  obtain below | rfl := Nat.lt_or_eq_of_le bounded
  · by_cases none : nearestUnits numerator denominator = 0
    · rw [none, Nat.zero_div]
      exact Even.zero
    · have kept : spacing (nearestUnits numerator denominator) =
          spacing (numerator / denominator) := by
        apply congrArg (Nat.pow 2)
        have small : nearestUnits numerator denominator <
            2 ^ (53 + ((numerator / denominator).log2 - 52)) := by
          rw [same, Nat.pow_add]
          exact Nat.mul_lt_mul_of_pos_right below spaced
        have upper := (Nat.log2_lt none).mpr small
        by_cases some : numerator / denominator = 0
        · rw [some, Nat.log2_zero] at upper ⊢
          omega
        · have lower := (Nat.le_log2 none).mpr (two_pow_le_nearestUnits some)
          omega
      rw [kept, same, Nat.mul_div_cancel _ spaced]
      exact even
  · have power : nearestUnits numerator denominator =
        2 ^ (53 + ((numerator / denominator).log2 - 52)) := by
      rw [same, Nat.pow_add]
      rfl
    have half : spacing (2 ^ (53 + ((numerator / denominator).log2 - 52))) =
        2 ^ (1 + ((numerator / denominator).log2 - 52)) := by
      rw [spacing, Nat.log2_two_pow]
      exact congrArg (Nat.pow 2) (by omega)
    rw [power, half, Nat.pow_div (by omega) Nat.two_pos]
    exact (Nat.even_pow.mpr ⟨even_two, by omega⟩)

theorem nearestUnits_tie (positive : 0 < denominator) (representable : Representable units)
    (differ : units ≠ nearestUnits numerator denominator)
    (tie : |(units : ℚ) - numerator / denominator| =
      |(nearestUnits numerator denominator : ℚ) - numerator / denominator|) :
    Even (nearestUnits numerator denominator / spacing (nearestUnits numerator denominator)) := by
  obtain ⟨rounded, same, nearest⟩ := nearestUnits_isNearest numerator positive
  obtain ⟨count, closer, only⟩ :=
    exists_multiple_closer numerator positive representable
  have near := nearest.near count
  rw [tie, same] at closer only
  push_cast at closer only near
  have equal := le_antisymm closer near
  refine even_significand positive (mod_cast nearest.even count ?_ ?_) same
  · intro own
    refine differ ((only equal).symm.trans ?_)
    rw [same, Int.ofNat.inj own]
  · exact_mod_cast equal

end Magnitudes

section Signs

variable {numerator denominator : Nat} {negative : Bool}

/-- The number of this sign and size. -/
def signedSize (negative : Bool) (size : ℚ) : ℚ := if negative then -size else size

/-- Sizes are no further apart than the numbers that have them, and as far apart as numbers of one
sign. -/
theorem abs_sub_le_signed {size other : ℚ} (first second : Bool) (some : 0 ≤ size) (more : 0 ≤ other) :
    |size - other| ≤ |signedSize first size - signedSize second other| := by
  have sized (negative : Bool) {size : ℚ} (some : 0 ≤ size) : |signedSize negative size| = size := by
    cases negative with
    | true => exact (abs_neg size).trans (abs_of_nonneg some)
    | false => exact abs_of_nonneg some
  have apart := abs_abs_sub_abs_le (signedSize first size) (signedSize second other)
  rwa [sized first some, sized second more] at apart

theorem abs_signed_sub (negative : Bool) (size other : ℚ) :
    |signedSize negative size - signedSize negative other| = |size - other| := by
  cases negative with
  | true =>
    rw [signedSize, signedSize, if_pos rfl, if_pos rfl, neg_sub_neg, abs_sub_comm]
  | false => rfl

theorem signedSize_div (negative : Bool) (size : ℚ) :
    signedSize negative size / unit = signedSize negative (size / unit) := by
  cases negative with
  | true => exact neg_div _ _
  | false => rfl

theorem exact_finite (negative : Bool) {units : Nat} (representable : Representable units) :
    (finite negative units representable).exact = signedSize negative units / unit := by
  cases negative with
  | true => simp [exact, signedUnits, signedSize]
  | false => simp [exact, signedUnits, signedSize]

theorem distance_eq (first second : ℚ) : |first / unit - second / unit| = |first - second| / unit := by
  rw [← sub_div, abs_div, abs_of_pos unit_pos]

/-- Numbers of other signs are as far apart as their sizes only if one of them is zero. -/
theorem eq_zero_of_opposite {size other : ℚ} {first second : Bool} (some : 0 < size) (more : 0 ≤ other)
    (opposite : first ≠ second)
    (same : |signedSize first size - signedSize second other| = |size - other|) : other = 0 := by
  have sum : |signedSize first size - signedSize second other| = size + other := by
    cases first <;> cases second
    · exact absurd rfl opposite
    · rw [signedSize, signedSize, if_neg Bool.false_ne_true, if_pos rfl, sub_neg_eq_add,
        abs_of_nonneg (by linarith)]
    · rw [signedSize, signedSize, if_neg Bool.false_ne_true, if_pos rfl, ← neg_add',
        abs_neg, abs_of_nonneg (by linarith)]
    · exact absurd rfl opposite
  rw [sum] at same
  rcases abs_cases (size - other) with ⟨difference, _⟩ | ⟨difference, _⟩ <;> linarith

/-- The double that a fraction of units is rounded to is the closest one if it is finite. -/
theorem nearest_isClosest (positive : 0 < denominator)
    (finite : (nearest negative numerator denominator).isFinite = true) :
    IsClosest (signedSize negative (numerator / denominator) / unit)
      (nearest negative numerator denominator) := by
  have sized : (0 : ℚ) ≤ numerator / denominator :=
    div_nonneg (Nat.cast_nonneg numerator) (Nat.cast_nonneg denominator)
  have within := (isFinite_nearest_units negative numerator positive).mp finite
  have representable : Representable (nearestUnits numerator denominator) :=
    ⟨within, Nat.mod_eq_zero_of_dvd (spacing_dvd_nearestUnits numerator positive)⟩
  have written : nearest negative numerator denominator = .finite negative _ representable :=
    dif_pos representable
  rw [written]
  refine ⟨rfl, ?_, ?_⟩
  · intro other otherFinite
    obtain ⟨sign, units, spaced, rfl⟩ := finite_of_isFinite otherFinite
    rw [exact_finite, exact_finite, distance_eq, distance_eq, abs_signed_sub]
    refine div_le_div_of_nonneg_right ?_ unit_pos.le
    exact (nearestUnits_near numerator positive spaced).trans
      (abs_sub_le_signed sign negative (Nat.cast_nonneg units) sized)
  · intro other otherFinite differ tie
    obtain ⟨sign, units, spaced, rfl⟩ := finite_of_isFinite otherFinite
    rw [exact_finite, exact_finite, distance_eq, distance_eq, abs_signed_sub,
      div_left_inj' unit_pos.ne'] at tie
    rw [exact_finite, exact_finite] at differ
    have near := nearestUnits_near numerator positive spaced
    have lower := abs_sub_le_signed sign negative (Nat.cast_nonneg units) sized
    have same := le_antisymm (lower.trans tie.le) near
    by_cases equal : units = nearestUnits numerator denominator
    · -- The same size with the other sign, so the fraction is zero and both are.
      exfalso
      subst equal
      have opposite : sign ≠ negative := by
        rintro rfl
        exact differ rfl
      obtain none | some := (nearestUnits numerator denominator).eq_zero_or_pos
      · rw [none, Nat.cast_zero] at differ
        cases sign <;> cases negative <;> simp [signedSize] at differ
      · have zero := eq_zero_of_opposite (Nat.cast_pos.mpr some) sized opposite tie
        rw [div_eq_zero_iff, Nat.cast_eq_zero, Nat.cast_eq_zero] at zero
        obtain rfl : numerator = 0 := zero.resolve_right positive.ne'
        exact absurd (nearestUnits_le positive representable_zero (Nat.zero_le _)) (by omega)
    · exact nearestUnits_tie positive spaced equal same

end Signs

end Binary64

end Montage
