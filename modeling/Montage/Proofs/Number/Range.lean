import Montage.Proofs.Number.Exact

/-! Doubles up to the ends of their range: infinities and NaN in sums and differences, the whole
numbers that there are doubles for, and sums that stay above a double although they are rounded. -/

namespace Montage

namespace Binary64

/-- A double that a finite one does not exceed is finite, or infinite towards plus. -/
theorem finite_or_infinite_of_le {low value : Binary64} (lowFinite : low.isFinite = true)
    (below : low.le value = true) : value.isFinite = true ∨ value = .infinite false := by
  obtain ⟨_, _, _, rfl⟩ := finite_of_isFinite lowFinite
  cases value with
  | nan => cases below
  | infinite negative => cases negative <;> simp [le, compare?] at below ⊢
  | finite _ _ _ => exact .inl rfl

theorem le_infinite {value : Binary64} (finite : value.isFinite = true) :
    value.le (.infinite false) = true := by
  obtain ⟨_, _, _, rfl⟩ := finite_of_isFinite finite
  rfl

theorem add_nan (value : Binary64) : value + nan = nan := by
  cases value <;> rfl

theorem infinite_add {low value : Binary64} (lowFinite : low.isFinite = true)
    (below : low.le value = true) : infinite false + value = infinite false := by
  obtain finite | rfl := finite_or_infinite_of_le lowFinite below
  · obtain ⟨_, _, _, rfl⟩ := finite_of_isFinite finite
    rfl
  · rfl

theorem add_infinite {low value : Binary64} (lowFinite : low.isFinite = true)
    (below : low.le value = true) : value + infinite false = infinite false := by
  obtain finite | rfl := finite_or_infinite_of_le lowFinite below
  · obtain ⟨_, _, _, rfl⟩ := finite_of_isFinite finite
    rfl
  · rfl

theorem infinite_sub {value : Binary64} (finite : value.isFinite = true) :
    infinite false - value = infinite false := by
  obtain ⟨_, _, _, rfl⟩ := finite_of_isFinite finite
  rfl

theorem ofUnits_ne_nan (negative : Bool) (units : Nat) : ofUnits negative units ≠ nan := by
  intro same
  unfold ofUnits at same
  split at same <;> cases same

/-- Only NaN less a finite double is NaN. -/
theorem eq_nan_of_sub {left right : Binary64} (rightFinite : right.isFinite = true)
    (difference : left - right = nan) : left = nan := by
  cases left with
  | nan => rfl
  | infinite sign =>
    obtain ⟨_, _, _, rfl⟩ := finite_of_isFinite rightFinite
    cases difference
  | finite sign units representable =>
    have leftFinite : (finite sign units representable).isFinite = true := rfl
    obtain ⟨negative, _, same⟩ | same := add_finite leftFinite (isFinite_neg right ▸ rightFinite)
    · exact absurd (same.symm.trans difference) (ofUnits_ne_nan _ _)
    · exact absurd (same.symm.trans difference) (ofUnits_ne_nan _ _)

theorem le_sub {left right bound : Binary64} (leftFinite : left.isFinite = true)
    (rightFinite : right.isFinite = true) (boundFinite : bound.isFinite = true)
    (above : bound.exact ≤ left.exact - right.exact) : bound.le (left - right) = true := by
  apply le_add leftFinite (isFinite_neg right ▸ rightFinite) boundFinite
  rwa [exact_neg, ← sub_eq_add_neg]

/-- Units that fit into 53 binary digits are those of a double. -/
theorem representable_mul {count exponent : Nat} (few : count < 2 ^ 53)
    (within : count * Nat.pow 2 exponent < rangeEnd) :
    Representable (count * Nat.pow 2 exponent) := by
  refine ⟨within, ?_⟩
  by_cases none : count * Nat.pow 2 exponent = 0
  · rw [none, Nat.zero_mod]
  · have small : count * Nat.pow 2 exponent < 2 ^ (53 + exponent) := by
      rw [Nat.pow_add]
      exact Nat.mul_lt_mul_of_pos_right few (Nat.two_pow_pos exponent)
    have digits := (Nat.log2_lt none).mpr small
    apply Nat.mod_eq_zero_of_dvd
    exact Nat.dvd_trans (Nat.pow_dvd_pow 2 (by omega)) (Nat.dvd_mul_left _ _)

/-- Above a double there is none for the spacing around it. -/
theorem add_spacing_le {low high : Nat} (lowRepresentable : Representable low)
    (highRepresentable : Representable high) (above : low < high) : low + spacing low ≤ high := by
  obtain ⟨first, lowCount⟩ := spacing_dvd lowRepresentable
  obtain ⟨second, highCount⟩ :=
    Nat.dvd_trans (spacing_dvd_spacing above.le) (spacing_dvd highRepresentable)
  have ordered : first < second := by
    apply Nat.lt_of_mul_lt_mul_left (a := spacing low)
    omega
  calc low + spacing low = spacing low * (first + 1) := by rw [Nat.mul_succ, ← lowCount]
    _ ≤ spacing low * second := Nat.mul_le_mul_left _ ordered
    _ = high := highCount.symm

/-- As long as the spacing stays the same, the next double is that far away. -/
theorem representable_add_spacing {low : Nat} (representable : Representable low)
    (small : low + spacing low < 2 ^ 53 * spacing low) (within : 2 ^ 53 * spacing low ≤ rangeEnd) :
    Representable (low + spacing low) := by
  obtain ⟨count, product⟩ := spacing_dvd representable
  have next : low + spacing low = (count + 1) * spacing low := by
    rw [Nat.succ_mul, Nat.mul_comm count, ← product]
  rw [next] at small ⊢
  exact representable_mul (Nat.lt_of_mul_lt_mul_right small) (Nat.lt_of_lt_of_le small within)

/-- Between two numbers of units that are a spacing apart lies a double, unless they are too large
for that spacing. -/
theorem exists_representable_between {low high base : Nat} (apart : low + spacing base ≤ high)
    (small : low + spacing base < 2 ^ 53 * spacing base)
    (within : 2 ^ 53 * spacing base ≤ rangeEnd) :
    ∃ middle, Representable middle ∧ low ≤ middle ∧ middle ≤ high := by
  have division := Nat.div_add_mod' low (spacing base)
  have rest := Nat.mod_lt low (spacing_pos base)
  have upper : (low / spacing base + 1) * spacing base ≤ low + spacing base := by
    rw [Nat.succ_mul]
    omega
  have bounded := Nat.lt_of_le_of_lt upper small
  refine ⟨(low / spacing base + 1) * spacing base, representable_mul ?_ ?_, ?_, ?_⟩
  · exact Nat.lt_of_mul_lt_mul_right bounded
  · exact Nat.lt_of_lt_of_le bounded within
  · rw [Nat.succ_mul]
    omega
  · exact Nat.le_trans upper apart

theorem lt_of_next_le {low next value : Binary64} (lowFinite : low.isFinite = true)
    (nextFinite : next.isFinite = true) (above : low.exact < next.exact)
    (reached : next.le value = true) : low.lt value = true := by
  obtain finite | rfl := finite_or_infinite_of_le nextFinite reached
  · rw [le_iff nextFinite finite] at reached
    exact (lt_iff lowFinite finite).mpr (above.trans_le reached)
  · obtain ⟨_, _, _, rfl⟩ := finite_of_isFinite lowFinite
    rfl

/-- A total above a limit stays above it when more is added than taken away, although the sum and
the difference are rounded: there is a double to spare between the two. -/
theorem lt_add_sub {limit total added taken : Binary64} (limitFinite : limit.isFinite = true)
    (forward : limit.isNegative = false) (totalFinite : total.isFinite = true)
    (addedFinite : added.isFinite = true) (takenFinite : taken.isFinite = true)
    (above : limit.lt total = true) (notNegative : 0 ≤ taken.signedUnits)
    (apart : taken.signedUnits + spacing limit.signedUnits.toNat ≤ added.signedUnits)
    (small : limit.signedUnits + taken.signedUnits + 2 * spacing limit.signedUnits.toNat <
      2 ^ 53 * spacing limit.signedUnits.toNat)
    (within : 2 ^ 53 * spacing limit.signedUnits.toNat ≤ rangeEnd) :
    limit.lt (total + added - taken) = true := by
  obtain ⟨negative, low, representable, rfl⟩ := finite_of_isFinite limitFinite
  obtain rfl : negative = false := forward
  have lowUnits : (finite false low representable).signedUnits = low := rfl
  obtain ⟨less, lessUnits⟩ := Int.eq_ofNat_of_zero_le notNegative
  rw [lt_iff rfl totalFinite, exact_lt_exact_iff, lowUnits] at above
  rw [lowUnits, Int.toNat_natCast] at small within apart
  rw [lessUnits] at small apart
  -- The total is at least the double after the limit.
  have reached : (low + spacing low : Int) ≤ total.signedUnits := by
    obtain ⟨sign, high, bounded, rfl⟩ := finite_of_isFinite totalFinite
    cases sign with
    | true =>
      simp only [signedUnits, if_true] at above
      omega
    | false =>
      have totalUnits : (finite false high bounded).signedUnits = high := rfl
      rw [totalUnits] at above ⊢
      exact_mod_cast add_spacing_le representable bounded (by exact_mod_cast above)
  have nextRepresentable := representable_add_spacing representable (by omega) within
  let next := finite false (low + spacing low) nextRepresentable
  have nextUnits : next.signedUnits = low + spacing low := Nat.cast_add _ _
  -- What is left of this double keeps the sum apart from the limit when less is taken away.
  obtain ⟨middle, middleRepresentable, lower, upper⟩ :
      ∃ middle, Representable middle ∧ low + spacing low + less ≤ middle ∧
        middle ≤ low + spacing low + less + spacing low :=
    exists_representable_between le_rfl (by omega) within
  let bound := finite false middle middleRepresentable
  have boundUnits : bound.signedUnits = middle := rfl
  have sum : bound.le (total + added) = true := by
    apply le_add totalFinite addedFinite rfl
    rw [le_exact_add_iff, boundUnits]
    omega
  have left : next.le (total + added - taken) = true := by
    obtain finite | infinite := finite_or_infinite_of_le rfl sum
    · rw [le_iff rfl finite] at sum
      apply le_sub finite takenFinite rfl
      have short : next.exact + taken.exact ≤ bound.exact := by
        rw [exact_add_le_iff, nextUnits, boundUnits, lessUnits]
        omega
      linarith
    · rw [infinite, infinite_sub takenFinite]
      exact le_infinite rfl
  refine lt_of_next_le rfl rfl ?_ left
  rw [exact_lt_exact_iff, lowUnits, nextUnits]
  have positive := spacing_pos low
  omega

/-- Rounding takes away half of a number at most. -/
theorem le_two_mul_nearestUnits (numerator : Nat) : numerator ≤ 2 * nearestUnits numerator 1 := by
  obtain rfl | positive := Nat.eq_zero_or_pos numerator
  · exact Nat.zero_le _
  · have within : spacing numerator ≤ numerator :=
      Nat.le_trans (Nat.pow_le_pow_right Nat.two_pos (Nat.sub_le _ _))
        (Nat.log2_self_le positive.ne')
    have rounded :
        numerator / spacing numerator * spacing numerator ≤ nearestUnits numerator 1 := by
      simp only [nearestUnits, Nat.div_one, Nat.one_mul]
      exact Nat.mul_le_mul_right _ (div_le_roundQuotient _ _)
    have split := Nat.div_add_mod' numerator (spacing numerator)
    have rest := Nat.mod_lt numerator (spacing_pos numerator)
    have once := Nat.le_mul_of_pos_left (spacing numerator)
      (Nat.div_pos within (spacing_pos numerator))
    omega

theorem rangeEnd_eq : rangeEnd = unit * Nat.pow 2 1024 := by
  have split (first second whole : Nat) (sum : whole = first + second) :
      Nat.pow 2 whole = Nat.pow 2 first * Nat.pow 2 second := by
    subst sum
    exact Nat.pow_add 2 first second
  unfold unit rangeEnd
  apply split
  rfl

/-- A whole number within the range of doubles is not too long to be written. -/
theorem natAbs_lt_of_ofInt? {whole : Int} {number : Binary64} (found : ofInt? whole = some number) :
    whole.natAbs < Nat.pow 10 maxIntegerDigits := by
  have finite : (nearestInt whole).isFinite = true := by
    unfold ofInt? at found
    split at found
    · assumption
    · cases found
  have bounded : nearestUnits (unit * whole.natAbs) 1 < rangeEnd := by
    unfold nearestInt nearest ofUnits at finite
    split at finite
    · rename_i representable
      exact representable.1
    · cases finite
  have small : whole.natAbs < 2 * Nat.pow 2 1024 := by
    apply Nat.lt_of_mul_lt_mul_left (a := unit)
    calc unit * whole.natAbs
        ≤ 2 * nearestUnits (unit * whole.natAbs) 1 := le_two_mul_nearestUnits _
      _ < 2 * rangeEnd := Nat.mul_lt_mul_of_pos_left bounded Nat.two_pos
      _ = unit * (2 * Nat.pow 2 1024) := by rw [rangeEnd_eq, Nat.mul_left_comm]
  exact Nat.lt_of_lt_of_le small (by decide +kernel)

end Binary64

end Montage
