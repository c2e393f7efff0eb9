import Montage.Proofs.Number.Closest
import Montage.Proofs.Number.Numeral

/-! Numbers as they are written for the tool: what their text is made of, and which thousandth it
stands for. -/

namespace Montage

/-- A sign, digits that begin with a zero only if it is the only one, a point and some places. -/
def IsFixedPoint (places : Nat) (negative : Bool) (text : String) : Prop :=
  ∃ whole fraction : List Char,
    text.toList = (if negative then ['-'] else []) ++ whole ++ '.' :: fraction ∧
    whole ≠ [] ∧ (∀ digit ∈ whole, digit.isDigit = true) ∧ (whole.head? = some '0' → whole = ['0']) ∧
    (∀ digit ∈ fraction, digit.isDigit = true) ∧ fraction.length = places

/-- The text is that of a finite double in thousandths: the nearest ones, and of two that are equally
near the even number. -/
structure Binary64.IsWrittenAs (value : Binary64) (text : String) (thousandths : Int) : Prop where
  shape : IsFixedPoint 3 value.isNegative text
  reads : readDecimal? text = some (thousandths / 1000 : ℚ)
  nearest : IsNearest (1 / 1000) value.exact thousandths
  within : |(thousandths / 1000 : ℚ) - value.exact| ≤ 1 / 2000

section Shape

/-- The digits of a number that is not zero begin with none. -/
theorem toDigits_head?_ne_zero (number : Nat) (positive : 0 < number) :
    (Nat.toDigits 10 number).head? ≠ some '0' := by
  induction number using Nat.strongRecOn with
  | ind number ih =>
    by_cases single : number < 10
    · have digit : ∀ digit < 10, 0 < digit → [Nat.digitChar digit].head? ≠ some '0' := by decide
      rw [Nat.toDigits_of_lt_base single]
      exact digit number single positive
    · -- All but the last digit are those of a tenth.
      have tenth : 0 < number / 10 := Nat.div_pos (by omega) (by decide)
      rw [Nat.toDigits_of_base_le (by decide) (by omega), List.head?_append_of_ne_nil]
      · exact ih (number / 10) (Nat.div_lt_self positive (by decide)) tenth
      · exact List.length_pos_iff.mp Nat.length_toDigits_pos

theorem digitsOf_head?_zero {number : Nat} (zero : (digitsOf number).toList.head? = some '0') :
    (digitsOf number).toList = ['0'] := by
  rw [digitsOf_toList] at zero ⊢
  obtain rfl | positive := number.eq_zero_or_pos
  · rfl
  · exact absurd zero (toDigits_head?_ne_zero number positive)

theorem fixed_isFixedPoint {places : Nat} (some : 0 < places) {value : Binary64}
    (finite : value.isFinite = true) : IsFixedPoint places value.isNegative (value.fixed places) := by
  obtain ⟨negative, units, representable, rfl⟩ := Binary64.finite_of_isFinite finite
  rw [Binary64.fixed]
  generalize roundQuotient (units * Nat.pow 10 places) Binary64.unit = scaled
  have small := Nat.mod_lt scaled (Nat.pow_pos (show 0 < 10 by decide) : 0 < 10 ^ places)
  obtain ⟨digit, rest, digits, _⟩ := toList_digitsOf_cons (scaled / 10 ^ places)
  refine ⟨(digitsOf (scaled / 10 ^ places)).toList,
    (zeroPadded places (digitsOf (scaled % 10 ^ places))).toList, ?_, ?_, ?_, digitsOf_head?_zero,
    fun _ => isDigit_of_mem_zeroPadded, length_zeroPadded small some⟩
  · rw [String.toList_append, toList_pointed some, List.append_assoc]
    cases negative <;> rfl
  · rw [digits]
    exact List.cons_ne_nil digit rest
  · exact fun _ => isDigit_of_mem_digitsOf

end Shape

section Doubles

/-- The thousandths of a finite double are those nearest to its exact value. -/
theorem roundQuotient_isNearest (negative : Bool) {units : Nat} (representable : Representable units) :
    IsNearest (1 / 1000) (Binary64.finite negative units representable).exact
      (Binary64.signed negative (roundQuotient (units * 10 ^ 3) Binary64.unit)) := by
  have positive : 0 < Binary64.unit := Nat.cast_pos.mp Binary64.unit_pos
  have nearest := IsNearest.of_quotient (units * 10 ^ 3) positive
    (by norm_num : (0 : ℚ) < 1 / 1000)
  have scaled : ((units * 10 ^ 3 : Nat) : ℚ) / Binary64.unit * (1 / 1000) = units / Binary64.unit := by
    push_cast
    ring
  rw [scaled] at nearest
  rw [Binary64.exact_finite]
  cases negative with
  | true =>
    rw [Binary64.signedSize, if_pos rfl, neg_div]
    exact nearest.neg
  | false => exact nearest

theorem Binary64.fixed_isWrittenAs {value : Binary64} (finite : value.isFinite = true) :
    ∃ thousandths, value.IsWrittenAs (value.fixed 3) thousandths := by
  have shape := fixed_isFixedPoint (by decide : 0 < 3) finite
  obtain ⟨negative, units, representable, rfl⟩ := finite_of_isFinite finite
  have nearest := roundQuotient_isNearest negative representable
  have within := nearest.within (by norm_num)
  refine ⟨_, shape, ?_, nearest, ?_⟩
  · rw [readDecimal?_fixed (by decide)]
    norm_num
  · rw [mul_one_div] at within
    norm_num at within ⊢
    exact within

/-- Texts of doubles stand for numbers in the order of the doubles. -/
theorem Binary64.IsWrittenAs.mono {small large : Binary64} {first second : String} {low high : Int}
    (one : small.IsWrittenAs first low) (two : large.IsWrittenAs second high)
    (ordered : small.exact ≤ large.exact) : low ≤ high :=
  IsNearest.mono (by norm_num) one.nearest two.nearest ordered

/-- What lies between whole numbers is written as a number between them. -/
theorem Binary64.IsWrittenAs.between {value : Binary64} {text : String} {thousandths low high : Int}
    (written : value.IsWrittenAs text thousandths) (above : low ≤ value.exact)
    (below : value.exact ≤ high) :
    (low : ℚ) ≤ thousandths / 1000 ∧ (thousandths / 1000 : ℚ) ≤ high := by
  have whole (bound : Int) : IsNearest (1 / 1000) bound (bound * 1000) := by
    have own := IsNearest.self (by norm_num : (0 : ℚ) < 1 / 1000) (bound * 1000)
    rwa [show ((bound * 1000 : Int) : ℚ) * (1 / 1000) = bound by push_cast; ring] at own
  have lower := (whole low).mono (by norm_num) written.nearest above
  have upper := written.nearest.mono (by norm_num) (whole high) below
  rw [le_div_iff₀ (by norm_num), div_le_iff₀ (by norm_num)]
  exact ⟨mod_cast lower, mod_cast upper⟩

end Doubles

section Wholes

theorem Binary64.isNegative_nearest (negative : Bool) (numerator denominator : Nat) :
    (nearest negative numerator denominator).isNegative = negative := by
  rw [nearest, ofUnits]
  split <;> rfl

theorem abs_cast (whole : Int) : |(whole : ℚ)| = whole.natAbs := by
  rw [Nat.cast_natAbs, Int.cast_abs]

theorem Binary64.signedSize_abs (whole : Int) : signedSize (whole < 0) |(whole : ℚ)| = whole := by
  by_cases negative : whole < 0
  · rw [signedSize, if_pos (decide_eq_true negative), abs_of_neg (Int.cast_lt_zero.mpr negative),
      neg_neg]
  · rw [signedSize, if_neg (by simpa using negative),
      abs_of_nonneg (Int.cast_nonneg (not_lt.mp negative))]

theorem Binary64.isFinite_nearestInt_iff (whole : Int) :
    (nearestInt whole).isFinite = true ↔ |(whole : ℚ)| < limit := by
  rw [nearestInt, isFinite_nearest_wholes _ _ Nat.one_pos, Nat.cast_one, div_one, abs_cast]

/-- A whole number is taken for the double that is closest to it. -/
theorem Binary64.nearestInt_isClosest {whole : Int} (finite : (nearestInt whole).isFinite = true) :
    IsClosest whole (nearestInt whole) := by
  have closest := nearest_isClosest Nat.one_pos finite
  rwa [signedSize_div, Nat.cast_one, div_one, Nat.cast_mul, mul_div_cancel_left₀ _ unit_pos.ne',
    ← abs_cast, signedSize_abs] at closest

/-- Whole numbers of 53 binary digits are doubles. -/
theorem Binary64.exact_nearestInt {whole : Int} (small : whole.natAbs < 2 ^ 53) :
    (nearestInt whole).isFinite = true ∧ (nearestInt whole).exact = whole := by
  have representable : Representable (whole.natAbs * unit) := by
    have within : whole.natAbs * unit < rangeEnd := by
      obtain ⟨exponent, far, same⟩ : ∃ exponent, 53 < exponent ∧ rangeEnd = unit * Nat.pow 2 exponent :=
        ⟨1024, by decide, rangeEnd_eq⟩
      rw [same, Nat.mul_comm]
      exact Nat.mul_lt_mul_of_pos_left (small.trans (Nat.pow_lt_pow_right Nat.one_lt_two far))
        (Nat.cast_pos.mp unit_pos)
    obtain ⟨exponent, power⟩ : ∃ exponent, unit = Nat.pow 2 exponent := by
      unfold unit
      exact ⟨_, rfl⟩
    rw [power] at within ⊢
    exact representable_mul small within
  have finite : (nearestInt whole).isFinite = true := by
    rw [isFinite_nearestInt_iff, abs_cast]
    refine lt_trans ?_ (two_pow_lt_limit (by decide : 53 < 1023))
    exact (by exact_mod_cast small : (whole.natAbs : ℚ) < 2 ^ 53).trans_le
      (le_add_of_nonneg_right (by positivity))
  have own : (Binary64.finite (whole < 0) _ representable).exact = whole := by
    rw [exact_finite, signedSize_div, Nat.cast_mul, mul_div_cancel_right₀ _ unit_pos.ne', ← abs_cast,
      signedSize_abs]
  have near := (nearestInt_isClosest finite).near (.finite (whole < 0) _ representable) rfl
  rw [own, sub_self, abs_zero, abs_nonpos_iff, sub_eq_zero] at near
  exact ⟨finite, near⟩

theorem decimals_int_of_lt {whole : Int} (within : |(whole : ℚ)| < Binary64.limit) :
    decimals (Number.int whole) = decimals (Number.double (.nearestInt whole)) := by
  have finite := (Binary64.isFinite_nearestInt_iff whole).mpr within
  have rounded : Number.toDouble (.int whole) = .ok (.nearestInt whole) := by
    rw [Number.toDouble, Binary64.ofInt?, if_pos finite]
  exact congrArg (· >>= fun value => Except.ok (value.fixed 3)) rounded

theorem decimals_int_of_le {whole : Int} (beyond : Binary64.limit ≤ |(whole : ℚ)|) :
    decimals (Number.int whole) = .error .outOfRange := by
  have infinite := (Binary64.isFinite_nearestInt_iff whole).not.mpr (not_lt.mpr beyond)
  have refused : Number.toDouble (.int whole) = .error .outOfRange := by
    rw [Number.toDouble, Binary64.ofInt?, if_neg infinite]
  exact congrArg (· >>= fun value => Except.ok (value.fixed 3)) refused

end Wholes

/-- Finite doubles are written as the nearest thousandths, which are in the order of the doubles, and
whole numbers as the doubles closest to them, as far as the range of doubles goes. -/
theorem decimals_written :
    (∀ value : Binary64, value.isFinite = true → ∃ text thousandths,
      decimals (Number.double value) = .ok text ∧ value.IsWrittenAs text thousandths) ∧
    (∀ small large : Binary64, small.isFinite = true → large.isFinite = true →
      small.le large = true → ∃ first second low high,
        decimals (Number.double small) = .ok first ∧ decimals (Number.double large) = .ok second ∧
        readDecimal? first = some low ∧ readDecimal? second = some high ∧ low ≤ high) ∧
    ∀ whole : Int,
      (|(whole : ℚ)| < Binary64.limit → ∃ value : Binary64, value.IsClosest whole ∧
        value.isNegative = decide (whole < 0) ∧
        decimals (Number.int whole) = decimals (Number.double value)) ∧
      (Binary64.limit ≤ |(whole : ℚ)| → decimals (Number.int whole) = .error .outOfRange) := by
  refine ⟨?_, ?_, ?_⟩
  · intro value finite
    obtain ⟨thousandths, written⟩ := Binary64.fixed_isWrittenAs finite
    exact ⟨_, thousandths, rfl, written⟩
  · intro small large smallFinite largeFinite ordered
    obtain ⟨low, one⟩ := Binary64.fixed_isWrittenAs smallFinite
    obtain ⟨high, two⟩ := Binary64.fixed_isWrittenAs largeFinite
    have counts := one.mono two ((Binary64.le_iff smallFinite largeFinite).mp ordered)
    refine ⟨_, _, _, _, rfl, rfl, one.reads, two.reads, ?_⟩
    exact div_le_div_of_nonneg_right (Int.cast_le.mpr counts) (by norm_num)
  · intro whole
    refine ⟨fun within => ⟨.nearestInt whole, ?_, ?_, decimals_int_of_lt within⟩, decimals_int_of_le⟩
    · exact Binary64.nearestInt_isClosest ((Binary64.isFinite_nearestInt_iff whole).mpr within)
    · exact Binary64.isNegative_nearest ..

/-- Three sixteenths below zero lie in the middle of two thousandths, of which the even one is written. -/
theorem threeSixteenths_written :
    let value := Binary64.ofDecimal true 1875 (-4)
    decimals (Number.double value) = .ok "-0.188" ∧ value.IsWrittenAs "-0.188" (-188) ∧
    (∃ low high, readDecimal? "-0.188" = some low ∧ readDecimal? "0.000" = some high ∧ low ≤ high) ∧
    (∃ closest : Binary64, closest.IsClosest (2 ^ 53 + 1 : Int) ∧
      decimals (Number.int (2 ^ 53 + 1)) = decimals (Number.double closest)) ∧
    decimals (Number.int (2 ^ 1024)) = .error .outOfRange := by
  intro value
  have finite : value.isFinite = true := by decide +kernel
  have shown : decimals (Number.double value) = .ok "-0.188" := by decide +kernel
  have zero : decimals (Number.double .zero) = .ok "0.000" := by decide +kernel
  obtain ⟨doubles, ordered, wholes⟩ := decimals_written
  refine ⟨shown, ?_, ?_, ?_, ?_⟩
  · obtain ⟨text, thousandths, written, isWritten⟩ := doubles value finite
    obtain rfl : text = "-0.188" := Except.ok.inj (written.symm.trans shown)
    have read : readDecimal? "-0.188" = some (((-188 : Int) : ℚ) / 1000) := by decide +kernel
    have same := Option.some.inj (isWritten.reads.symm.trans read)
    rw [div_left_inj' (by norm_num), Int.cast_inj] at same
    exact same ▸ isWritten
  · obtain ⟨first, second, low, high, written, other, rest⟩ :=
      ordered value .zero finite (by decide +kernel) (by decide +kernel)
    obtain rfl : first = "-0.188" := Except.ok.inj (written.symm.trans shown)
    obtain rfl : second = "0.000" := Except.ok.inj (other.symm.trans zero)
    exact ⟨low, high, rest⟩
  · have small : |((2 ^ 53 + 1 : Int) : ℚ)| < Binary64.limit := by
      refine lt_of_le_of_lt ?_ (Binary64.two_pow_lt_limit (by decide : 53 < 1023))
      norm_num
    obtain ⟨closest, isClosest, _, same⟩ := (wholes (2 ^ 53 + 1)).1 small
    exact ⟨closest, isClosest, same⟩
  · refine (wholes (2 ^ 1024)).2 ?_
    rw [Int.cast_pow, Int.cast_ofNat, abs_of_nonneg (pow_nonneg zero_le_two 1024)]
    exact Binary64.limit_lt.le

end Montage
