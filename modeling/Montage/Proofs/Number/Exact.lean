import Mathlib.Algebra.Order.Field.Rat
import Mathlib.Tactic.Linarith
import Mathlib.Tactic.NormNum
import Mathlib.Tactic.Positivity
import Montage.Number.Quantity
import Montage.Proofs.Number.Nearest
import Montage.Proofs.Outcome

/-! Numbers by their exact values. Comparisons of finite numbers are comparisons of rationals, and a
sum or difference, rounded once, stays on the side of every finite double that the exact one is on. -/

namespace Montage

namespace Binary64

/-- The exact value of a finite double, zero for the others. -/
def exact (value : Binary64) : ℚ := value.signedUnits / unit

theorem unit_pos : (0 : ℚ) < unit := by
  unfold unit
  rw [Nat.cast_pos]
  apply Nat.two_pow_pos

theorem exact_le_exact_iff {left right : Binary64} :
    left.exact ≤ right.exact ↔ left.signedUnits ≤ right.signedUnits := by
  simp [exact, div_le_div_iff_of_pos_right unit_pos]

theorem exact_lt_exact_iff {left right : Binary64} :
    left.exact < right.exact ↔ left.signedUnits < right.signedUnits := by
  simp [exact, div_lt_div_iff_of_pos_right unit_pos]

/-- A fraction is compared with a double in whole numbers of units. -/
theorem div_le_exact_iff {value : Binary64} {numerator : Int} {denominator : Nat}
    (positive : 0 < denominator) :
    (numerator / denominator : ℚ) ≤ value.exact ↔
      numerator * unit ≤ value.signedUnits * denominator := by
  rw [exact, div_le_div_iff₀ (by exact_mod_cast positive) unit_pos]
  exact_mod_cast Iff.rfl

theorem exact_le_div_iff {value : Binary64} {numerator : Int} {denominator : Nat}
    (positive : 0 < denominator) :
    value.exact ≤ (numerator / denominator : ℚ) ↔
      value.signedUnits * denominator ≤ numerator * unit := by
  rw [exact, div_le_div_iff₀ unit_pos (by exact_mod_cast positive)]
  exact_mod_cast Iff.rfl

theorem finite_of_isFinite {value : Binary64} (finite : value.isFinite = true) :
    ∃ negative units representable, value = .finite negative units representable := by
  cases value with
  | nan | infinite _ => simp [isFinite] at finite
  | finite negative units representable => exact ⟨negative, units, representable, rfl⟩

theorem le_iff {left right : Binary64} (leftFinite : left.isFinite = true)
    (rightFinite : right.isFinite = true) : left.le right = true ↔ left.exact ≤ right.exact := by
  obtain ⟨_, _, _, rfl⟩ := finite_of_isFinite leftFinite
  obtain ⟨_, _, _, rfl⟩ := finite_of_isFinite rightFinite
  rw [exact_le_exact_iff]
  simp [le, compare?, Int.compare_eq_lt]
  omega

theorem lt_iff {left right : Binary64} (leftFinite : left.isFinite = true)
    (rightFinite : right.isFinite = true) : left.lt right = true ↔ left.exact < right.exact := by
  obtain ⟨_, _, _, rfl⟩ := finite_of_isFinite leftFinite
  obtain ⟨_, _, _, rfl⟩ := finite_of_isFinite rightFinite
  rw [exact_lt_exact_iff]
  simp [lt, compare?, Int.compare_eq_lt]

/-- The signed number of units of a magnitude. -/
def signed (negative : Bool) (units : Nat) : Int :=
  if negative then -(units : Int) else units

theorem le_of_signed_le {negative : Bool} {units : Nat} {value : Binary64}
    (finite : value.isFinite = true) (spaced : spacing units ∣ units)
    (below : signed negative units ≤ value.signedUnits) :
    (ofUnits negative units).le value = true := by
  obtain ⟨sign, magnitude, bounded, rfl⟩ := finite_of_isFinite finite
  unfold ofUnits
  split
  · rename_i representable
    rw [le_iff rfl rfl, exact_le_exact_iff]
    exact below
  · rename_i infinite
    cases negative with
    | true => rfl
    | false =>
      have small : units ≤ magnitude := by
        cases sign <;> simp [signed, signedUnits] at below <;> omega
      exact absurd ⟨Nat.lt_of_le_of_lt small bounded.1, Nat.mod_eq_zero_of_dvd spaced⟩ infinite

theorem le_of_le_signed {negative : Bool} {units : Nat} {value : Binary64}
    (finite : value.isFinite = true) (spaced : spacing units ∣ units)
    (above : value.signedUnits ≤ signed negative units) :
    value.le (ofUnits negative units) = true := by
  obtain ⟨sign, magnitude, bounded, rfl⟩ := finite_of_isFinite finite
  unfold ofUnits
  split
  · rename_i representable
    rw [le_iff rfl rfl, exact_le_exact_iff]
    exact above
  · rename_i infinite
    cases negative with
    | false => rfl
    | true =>
      have small : units ≤ magnitude := by
        cases sign <;> simp [signed, signedUnits] at above <;> omega
      exact absurd ⟨Nat.lt_of_le_of_lt small bounded.1, Nat.mod_eq_zero_of_dvd spaced⟩ infinite

/-- An exact sum that is not above a finite double is not rounded above it. -/
theorem nearest_le {sum : Int} {value : Binary64} (finite : value.isFinite = true)
    (below : sum ≤ value.signedUnits) : (nearest (sum < 0) sum.natAbs 1).le value = true := by
  apply le_of_signed_le finite (spacing_dvd_nearestUnits _ Nat.one_pos)
  obtain ⟨sign, magnitude, bounded, rfl⟩ := finite_of_isFinite finite
  by_cases negative : sum < 0
  · have rounded (deep : magnitude ≤ sum.natAbs) : magnitude ≤ nearestUnits sum.natAbs 1 :=
      le_nearestUnits Nat.one_pos bounded (by omega)
    cases sign <;> simp [signed, signedUnits, negative] at below ⊢
    all_goals omega
  · have rounded (low : sum.natAbs ≤ magnitude) : nearestUnits sum.natAbs 1 ≤ magnitude :=
      nearestUnits_le Nat.one_pos bounded (by omega)
    cases sign <;> simp [signed, signedUnits, negative] at below ⊢ <;> omega

/-- An exact sum that is not below a finite double is not rounded below it. -/
theorem le_nearest {sum : Int} {value : Binary64} (finite : value.isFinite = true)
    (above : value.signedUnits ≤ sum) : value.le (nearest (sum < 0) sum.natAbs 1) = true := by
  apply le_of_le_signed finite (spacing_dvd_nearestUnits _ Nat.one_pos)
  obtain ⟨sign, magnitude, bounded, rfl⟩ := finite_of_isFinite finite
  by_cases negative : sum < 0
  · have rounded (shallow : sum.natAbs ≤ magnitude) : nearestUnits sum.natAbs 1 ≤ magnitude :=
      nearestUnits_le Nat.one_pos bounded (by omega)
    cases sign <;> simp [signed, signedUnits, negative] at above ⊢
    all_goals omega
  · have rounded (high : magnitude ≤ sum.natAbs) : magnitude ≤ nearestUnits sum.natAbs 1 :=
      le_nearestUnits Nat.one_pos bounded (by omega)
    cases sign <;> simp [signed, signedUnits, negative] at above ⊢
    all_goals omega

theorem isFinite_of_ofInt? {whole : Int} {value : Binary64} (found : ofInt? whole = some value) :
    value.isFinite = true := by
  unfold ofInt? at found
  split at found
  · rename_i finite
    rw [← Option.some.inj found]
    exact finite
  · cases found

theorem exact_neg (value : Binary64) : value.neg.exact = -value.exact := by
  cases value with
  | nan | infinite _ => simp [exact, neg, signedUnits]
  | finite negative units _ => cases negative <;> simp [exact, neg, signedUnits, neg_div]

theorem isFinite_neg (value : Binary64) : value.neg.isFinite = value.isFinite := by
  cases value <;> rfl

/-- The sum of finite doubles is their exact sum rounded, and zero where that is zero. -/
theorem add_finite {left right : Binary64} (leftFinite : left.isFinite = true)
    (rightFinite : right.isFinite = true) :
    let sum := left.signedUnits + right.signedUnits
    (∃ negative, sum = 0 ∧ left + right = ofUnits negative 0) ∨
      left + right = nearest (sum < 0) sum.natAbs 1 := by
  obtain ⟨leftSign, _, _, rfl⟩ := finite_of_isFinite leftFinite
  obtain ⟨rightSign, _, _, rfl⟩ := finite_of_isFinite rightFinite
  intro sum
  by_cases zero : sum = 0
  · exact .inl ⟨leftSign && rightSign, zero, if_pos zero⟩
  · exact .inr (if_neg zero)

theorem exact_add_le_iff {left right bound : Binary64} :
    left.exact + right.exact ≤ bound.exact ↔
      left.signedUnits + right.signedUnits ≤ bound.signedUnits := by
  rw [exact, exact, exact, ← add_div, div_le_div_iff_of_pos_right unit_pos]
  exact_mod_cast Iff.rfl

theorem le_exact_add_iff {left right bound : Binary64} :
    bound.exact ≤ left.exact + right.exact ↔
      bound.signedUnits ≤ left.signedUnits + right.signedUnits := by
  rw [exact, exact, exact, ← add_div, div_le_div_iff_of_pos_right unit_pos]
  exact_mod_cast Iff.rfl

section Sums

variable {left right bound : Binary64} (leftFinite : left.isFinite = true)
  (rightFinite : right.isFinite = true) (boundFinite : bound.isFinite = true)

include leftFinite rightFinite boundFinite

theorem add_le (below : left.exact + right.exact ≤ bound.exact) :
    (left + right).le bound = true := by
  rw [exact_add_le_iff] at below
  rcases add_finite leftFinite rightFinite with ⟨negative, zero, same⟩ | same
  · rw [same]
    apply le_of_signed_le boundFinite (Nat.dvd_zero _)
    cases negative <;> simp [signed] <;> omega
  · rw [same]
    exact nearest_le boundFinite below

theorem le_add (above : bound.exact ≤ left.exact + right.exact) :
    bound.le (left + right) = true := by
  rw [le_exact_add_iff] at above
  rcases add_finite leftFinite rightFinite with ⟨negative, zero, same⟩ | same
  · rw [same]
    apply le_of_le_signed boundFinite (Nat.dvd_zero _)
    cases negative <;> simp [signed] <;> omega
  · rw [same]
    exact le_nearest boundFinite above

theorem sub_le (below : left.exact - right.exact ≤ bound.exact) :
    (left - right).le bound = true := by
  apply add_le leftFinite (isFinite_neg right ▸ rightFinite) boundFinite
  rwa [exact_neg, ← sub_eq_add_neg]

end Sums

section Between

variable {low middle high : Binary64} (lowFinite : low.isFinite = true)
  (highFinite : high.isFinite = true)

include lowFinite highFinite

/-- Two finite doubles are kept apart by a double that the greater one reaches and the lesser one
does not, be it infinite. -/
theorem lt_of_not_le_of_le (lower : ¬ middle.le low = true) (upper : middle.le high = true) :
    low.exact < high.exact := by
  cases middle with
  | nan => exact absurd upper (by cases high <;> simp [le, compare?])
  | infinite negative =>
    obtain ⟨_, _, _, rfl⟩ := finite_of_isFinite lowFinite
    obtain ⟨_, _, _, rfl⟩ := finite_of_isFinite highFinite
    cases negative <;> simp [le, compare?] at lower upper
  | finite _ _ _ =>
    rw [le_iff rfl lowFinite] at lower
    rw [le_iff rfl highFinite] at upper
    linarith

theorem lt_of_le_of_not_le (lower : low.le middle = true) (upper : ¬ high.le middle = true) :
    low.exact < high.exact := by
  cases middle with
  | nan => exact absurd lower (by cases low <;> simp [le, compare?])
  | infinite negative =>
    obtain ⟨_, _, _, rfl⟩ := finite_of_isFinite lowFinite
    obtain ⟨_, _, _, rfl⟩ := finite_of_isFinite highFinite
    cases negative <;> simp [le, compare?] at lower upper
  | finite _ _ _ =>
    rw [le_iff lowFinite rfl] at lower
    rw [le_iff highFinite rfl] at upper
    linarith

/-- A double that a finite one does not exceed can be compared. -/
theorem le_of_not_lt (lower : low.le middle = true) (upper : ¬ middle.lt high = true) :
    high.le middle = true := by
  cases middle with
  | nan => exact absurd lower (by cases low <;> simp [le, compare?])
  | infinite negative =>
    obtain ⟨_, _, _, rfl⟩ := finite_of_isFinite lowFinite
    obtain ⟨_, _, _, rfl⟩ := finite_of_isFinite highFinite
    cases negative <;> simp [le, lt, compare?] at lower upper ⊢
  | finite _ _ _ =>
    rw [lt_iff rfl highFinite, not_lt] at upper
    rwa [le_iff highFinite rfl]

theorem isFinite_of_between (lower : ¬ middle.le low = true) (upper : middle.le high = true) :
    middle.isFinite = true := by
  cases middle with
  | nan => exact absurd upper (by cases high <;> simp [le, compare?])
  | infinite negative =>
    obtain ⟨_, _, _, rfl⟩ := finite_of_isFinite lowFinite
    obtain ⟨_, _, _, rfl⟩ := finite_of_isFinite highFinite
    cases negative <;> simp [le, compare?] at lower upper
  | finite _ _ _ => rfl

end Between

end Binary64

namespace Number

/-- Neither infinite nor NaN. -/
def isFinite : Number → Bool
  | .int _ => true
  | .double value => value.isFinite

/-- The exact value of a finite number, zero for the others. -/
def exact : Number → ℚ
  | .int whole => whole
  | .double value => value.exact

theorem isFinite_of_toDouble {number : Number} {value : Binary64} (finite : number.isFinite = true)
    (nearest : number.toDouble = .ok value) : value.isFinite = true := by
  cases number with
  | int whole =>
    cases found : Binary64.ofInt? whole with
    | none => simp [toDouble, found] at nearest
    | some rounded =>
      simp only [toDouble, found, Except.ok.injEq] at nearest
      exact nearest ▸ Binary64.isFinite_of_ofInt? found
  | double _ =>
    obtain rfl := Except.ok.inj nearest
    exact finite

/-- A number less a double is the difference of doubles. -/
theorem sub_double_ok {number remaining : Number} {start : Binary64}
    (difference : number.sub (.double start) = .ok remaining) :
    ∃ value, number.toDouble = .ok value ∧ remaining = .double (value - start) := by
  cases number with
  | int whole =>
    obtain ⟨value, nearest, rest⟩ := Except.bind_eq_ok.mp difference
    exact ⟨value, nearest, (Except.ok.inj rest).symm⟩
  | double value => exact ⟨value, rfl, (Except.ok.inj difference).symm⟩

theorem sub_double {number remaining : Number} {start : Binary64}
    (finite : number.isFinite = true) (difference : number.sub (.double start) = .ok remaining) :
    ∃ value : Binary64, value.isFinite = true ∧ number.toDouble = .ok value ∧
      remaining = .double (value - start) := by
  obtain ⟨value, nearest, same⟩ := sub_double_ok difference
  exact ⟨value, isFinite_of_toDouble finite nearest, nearest, same⟩

end Number

end Montage
