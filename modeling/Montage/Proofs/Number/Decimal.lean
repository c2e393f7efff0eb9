import Mathlib.Data.List.Induction
import Montage.Proofs.Number.Range
import Montage.Text.Digit

/-! Numbers written with few digits are within the range of doubles, and are rounded once. -/

namespace Montage

namespace Text

theorem digitValue_lt {character : Char} {value : Nat} (digit : digitValue? character = some value) :
    value < 10 := by
  obtain ⟨start, found, rfl⟩ := Option.map_eq_some_iff.mp digit
  have row := List.find?_some found
  simp only [Bool.and_eq_true, decide_eq_true_eq] at row
  omega

theorem digitsValue_concat (digits : List Char) (digit : Char) :
    digitsValue (digits ++ [digit]) = digitsValue digits * 10 + (digitValue? digit).getD 0 := by
  rw [digitsValue, List.foldl_append]
  rfl

theorem digitsValue_lt (digits : List Char) : digitsValue digits < 10 ^ digits.length := by
  induction digits using List.reverseRecOn with
  | nil => exact Nat.one_pos
  | append_singleton digits digit ih =>
    have last : (digitValue? digit).getD 0 < 10 := by
      cases value : digitValue? digit with
      | none => exact Nat.succ_pos _
      | some value => exact digitValue_lt ‹_›
    rw [digitsValue_concat, List.length_append, List.length_singleton, Nat.pow_succ]
    omega

/-- A run of digits is worth at least what its first digit is worth in its place. -/
theorem le_digitsValue_cons (digit : Char) (digits : List Char) :
    (digitValue? digit).getD 0 * 10 ^ digits.length ≤ digitsValue (digit :: digits) := by
  induction digits using List.reverseRecOn with
  | nil => simp [digitsValue]
  | append_singleton digits last ih =>
    calc (digitValue? digit).getD 0 * 10 ^ (digits ++ [last]).length
        = (digitValue? digit).getD 0 * 10 ^ digits.length * 10 := by
          rw [List.length_append, List.length_singleton, Nat.pow_succ, Nat.mul_assoc]
      _ ≤ digitsValue (digit :: digits) * 10 := Nat.mul_le_mul_right 10 ih
      _ ≤ digitsValue (digit :: (digits ++ [last])) := by
          rw [← List.cons_append, digitsValue_concat]
          exact Nat.le_add_right _ _

end Text

namespace Binary64

theorem isFinite_nearest {numerator units : Nat} (negative : Bool) (representable : Representable units)
    (within : numerator ≤ units) : (nearest negative numerator 1).isFinite = true := by
  have below : nearestUnits numerator 1 ≤ units :=
    nearestUnits_le Nat.one_pos representable (by rwa [Nat.mul_one])
  have rounded : Representable (nearestUnits numerator 1) :=
    ⟨Nat.lt_of_le_of_lt below representable.1,
      Nat.mod_eq_zero_of_dvd (spacing_dvd_nearestUnits numerator Nat.one_pos)⟩
  rw [nearest, ofUnits, dif_pos rounded]
  rfl

theorem pow_two_add (first second : Nat) :
    Nat.pow 2 first * Nat.pow 2 second = 1 * Nat.pow 2 (first + second) := by
  rw [Nat.one_mul]
  exact (Nat.pow_add 2 first second).symm

/-- The powers of two within the range of doubles are doubles. -/
theorem representable_pow {exponent : Nat} (within : exponent < 1024) :
    Representable (unit * Nat.pow 2 exponent) := by
  have positive : 0 < unit := Nat.cast_pos.mp unit_pos
  have bounded : unit * Nat.pow 2 exponent < rangeEnd := by
    have range := rangeEnd_eq
    -- The end of the range stays unevaluated.
    generalize 1024 = limit at range within
    rw [range]
    exact Nat.mul_lt_mul_of_pos_left (Nat.pow_lt_pow_right Nat.one_lt_two within) positive
  have written : unit * Nat.pow 2 exponent = 1 * Nat.pow 2 (1074 + exponent) := by
    unfold unit
    apply pow_two_add
  rw [written] at bounded ⊢
  exact representable_mul (by decide) bounded

/-- A whole number that some power of two exceeds is within the range of doubles. -/
theorem ofInt?_of_lt {whole exponent : Nat} (within : exponent < 1024)
    (small : whole < Nat.pow 2 exponent) : ofInt? whole = some (nearestInt whole) := by
  have bounded : unit * (whole : Int).natAbs ≤ unit * Nat.pow 2 exponent := by
    rw [Int.natAbs_natCast]
    exact Nat.mul_le_mul_left unit small.le
  have finite : (nearestInt whole).isFinite = true :=
    isFinite_nearest _ (representable_pow within) bounded
  rw [ofInt?, if_pos finite]

/-- Less than half a unit is rounded to zero. -/
theorem nearest_tiny {numerator denominator : Nat} (negative : Bool)
    (tiny : 2 * numerator < denominator) : nearest negative numerator denominator = ofUnits negative 0 := by
  have none : numerator / denominator = 0 := Nat.div_eq_of_lt (by omega)
  have rest : numerator % denominator = numerator := Nat.mod_eq_of_lt (by omega)
  have step : denominator * Nat.pow 2 (Nat.log2 0 - 52) = denominator := Nat.mul_one denominator
  have rounded : nearestUnits numerator denominator = 0 := by
    rw [nearestUnits, none, step, roundQuotient, none, rest, if_pos tiny, Nat.zero_mul]
  rw [nearest, rounded]

theorem nearest_zero (negative : Bool) {denominator : Nat} (positive : 0 < denominator) :
    nearest negative 0 denominator = ofUnits negative 0 :=
  nearest_tiny negative positive

/-- A decimal number with many more places than digits is less than half a unit. -/
theorem tiny_of_places {digits places : Nat} (far : -(places : Int) + (digits.log2 + 1 : Nat) < -330) :
    2 * (unit * digits) < 10 ^ places := by
  have room : ∃ exponent, exponent = 330 ∧ 2 * unit ≤ 10 ^ exponent := by
    refine ⟨330, rfl, ?_⟩
    unfold unit
    decide +kernel
  obtain ⟨exponent, same, room⟩ := room
  have small : digits < 10 ^ (digits.log2 + 1) :=
    Nat.lt_of_lt_of_le Nat.lt_log2_self (Nat.pow_le_pow_left (by decide) _)
  calc 2 * (unit * digits)
      = 2 * unit * digits := (Nat.mul_assoc ..).symm
    _ ≤ 10 ^ exponent * digits := Nat.mul_le_mul_right _ room
    _ < 10 ^ exponent * 10 ^ (digits.log2 + 1) :=
        Nat.mul_lt_mul_of_pos_left small (Nat.pow_pos (Nat.succ_pos 9))
    _ = 10 ^ (exponent + (digits.log2 + 1)) := (Nat.pow_add ..).symm
    _ ≤ 10 ^ places := Nat.pow_le_pow_right (Nat.succ_pos 9) (by omega)

/-- A decimal number is rounded once, however many places it has. -/
theorem ofDecimal_places (digits places : Nat) :
    ofDecimal false digits (-(places : Int)) = nearest false (unit * digits) (10 ^ places) := by
  rw [ofDecimal]
  by_cases none : digits = 0
  · rw [if_pos none, none, Nat.mul_zero, nearest_zero _ (Nat.pow_pos (Nat.succ_pos 9))]
  rw [if_neg none, if_neg (by omega)]
  by_cases far : -(places : Int) + (digits.log2 + 1 : Nat) < -330
  · rw [if_pos far, nearest_tiny false (tiny_of_places far)]
  · rw [if_neg far]
    by_cases whole : places = 0
    · subst whole
      rw [if_pos (by omega)]
      simp
    · rw [if_neg (by omega)]
      simp

end Binary64

end Montage
