import Montage.Filter.Frame
import Montage.Proofs.Number.Exact

/-! Written numbers: what they are made of, and what they read as. -/

namespace Montage

/-- A character of a written number: a digit, a sign, a point, or a letter of `inf` and `nan`. -/
def IsNumeral (character : Char) : Prop :=
  character.isDigit = true ∨ character ∈ ['-', '.', 'i', 'n', 'f', 'a']

instance : DecidablePred IsNumeral := fun _ => inferInstanceAs (Decidable (_ ∨ _))

/-- A text that is made of what numbers are written with. -/
def Numeral (text : String) : Prop :=
  ∀ character ∈ text.toList, IsNumeral character

instance : DecidablePred Numeral := fun text => List.decidableBAll IsNumeral text.toList

theorem Numeral.append {left right : String} (first : Numeral left) (second : Numeral right) :
    Numeral (left ++ right) := by
  intro character member
  rw [String.toList_append, List.mem_append] at member
  exact member.elim (first character) (second character)

section Digits

theorem digitsOf_toList (number : Nat) : (digitsOf number).toList = Nat.toDigits 10 number :=
  String.toList_ofList

theorem digitsOf_injective : Function.Injective digitsOf := by
  intro left right same
  have digits : Nat.toDigits 10 left = Nat.toDigits 10 right := String.ofList_injective same
  simpa using congrArg (Nat.ofDigitChars 10 · 0) digits

/-- The text of a number begins with a digit. -/
theorem toList_digitsOf_cons (number : Nat) :
    ∃ digit rest, (digitsOf number).toList = digit :: rest ∧ digit.isDigit = true := by
  rcases digits : (digitsOf number).toList with _ | ⟨digit, rest⟩
  · rw [digitsOf_toList] at digits
    exact absurd digits (List.length_pos_iff.mp Nat.length_toDigits_pos)
  · rw [digitsOf_toList] at digits
    have member : digit ∈ Nat.toDigits 10 number := digits ▸ List.mem_cons_self
    exact ⟨digit, rest, rfl, Nat.isDigit_of_mem_toDigits (by decide) (by decide) member⟩

theorem isDigit_of_mem_digitsOf {number : Nat} {character : Char}
    (member : character ∈ (digitsOf number).toList) : character.isDigit = true := by
  rw [digitsOf_toList] at member
  exact Nat.isDigit_of_mem_toDigits (by decide) (by decide) member

theorem isDigit_of_mem_zeroPadded {width number : Nat} {character : Char}
    (member : character ∈ (zeroPadded width (digitsOf number)).toList) :
    character.isDigit = true := by
  rw [zeroPadded, String.toList_append, String.toList_ofList, List.mem_append] at member
  obtain padding | digit := member
  · obtain rfl := List.eq_of_mem_replicate padding
    rfl
  · exact isDigit_of_mem_digitsOf digit

theorem digitsOf_numeral (number : Nat) : Numeral (digitsOf number) :=
  fun _ member => .inl (isDigit_of_mem_digitsOf member)

theorem wholeText_numeral (whole : Int) : Numeral (wholeText whole) := by
  unfold wholeText
  apply Numeral.append _ (digitsOf_numeral _)
  split <;> decide

theorem pointed_numeral (places scaled : Nat) : Numeral (Binary64.pointed places scaled) := by
  unfold Binary64.pointed
  split
  · exact digitsOf_numeral scaled
  · apply Numeral.append ((digitsOf_numeral _).append (by decide))
    exact fun _ member => .inl (isDigit_of_mem_zeroPadded member)

theorem fixed_numeral (places : Nat) (value : Binary64) : Numeral (value.fixed places) := by
  unfold Binary64.fixed
  split
  · decide
  · split <;> decide
  · apply Numeral.append _ (pointed_numeral _ _)
    split <;> decide

theorem decimals_numeral {number : Number} {text : String} (written : decimals number = .ok text) :
    Numeral text := by
  obtain ⟨value, _, rest⟩ := Except.bind_eq_ok.mp written
  exact Except.ok.inj rest ▸ fixed_numeral 3 value

end Digits

section Reading

/-- The number that digits stand for. -/
def readDigits? (digits : List Char) : Option Nat :=
  if digits ≠ [] ∧ digits.all Char.isDigit then some (Nat.ofDigitChars 10 digits 0) else none

/-- The number that digits with a point among them stand for. -/
def readMagnitude? (text : List Char) : Option ℚ :=
  match text.dropWhile (· != '.') with
  | [] => (readDigits? text).map fun whole => (whole : ℚ)
  | _ :: places => do
    let whole ← readDigits? (text.takeWhile (· != '.'))
    let fraction ← readDigits? places
    return whole + fraction / 10 ^ places.length

/-- The number that a decimal stands for. -/
def readDecimal? (text : String) : Option ℚ :=
  match text.toList with
  | '-' :: magnitude => (readMagnitude? magnitude).map (-·)
  | magnitude => readMagnitude? magnitude

theorem readDigits?_digitsOf (number : Nat) :
    readDigits? (digitsOf number).toList = some number := by
  have digits : (digitsOf number).toList ≠ [] ∧
      (digitsOf number).toList.all Char.isDigit = true := by
    constructor
    · rw [digitsOf_toList]
      exact List.length_pos_iff.mp Nat.length_toDigits_pos
    · exact List.all_eq_true.mpr fun _ member => isDigit_of_mem_digitsOf member
  rw [readDigits?, if_pos digits, digitsOf_toList, Nat.ofDigitChars_ten_toDigits]

/-- Zeros before digits do not change what they stand for. -/
theorem readDigits?_zeroPadded (width number : Nat) :
    readDigits? (zeroPadded width (digitsOf number)).toList = some number := by
  have digits : (zeroPadded width (digitsOf number)).toList ≠ [] ∧
      (zeroPadded width (digitsOf number)).toList.all Char.isDigit = true := by
    constructor
    · rw [zeroPadded, String.toList_append, digitsOf_toList]
      exact List.append_ne_nil_of_right_ne_nil _ (List.length_pos_iff.mp Nat.length_toDigits_pos)
    · exact List.all_eq_true.mpr fun _ member => isDigit_of_mem_zeroPadded member
  rw [readDigits?, if_pos digits, zeroPadded, String.toList_append, String.toList_ofList,
    Nat.ofDigitChars_append, Nat.ofDigitChars_replicate_zero, Nat.mul_zero, digitsOf_toList,
    Nat.ofDigitChars_ten_toDigits]

theorem length_zeroPadded {width number : Nat} (small : number < 10 ^ width) (wide : 0 < width) :
    (zeroPadded width (digitsOf number)).toList.length = width := by
  have short : (digitsOf number).toList.length ≤ width := by
    rw [digitsOf_toList]
    exact (Nat.length_toDigits_le_iff (by decide) wide).mpr small
  rw [zeroPadded, String.toList_append, String.toList_ofList, List.length_append,
    List.length_replicate, ← String.length_toList]
  omega

theorem toList_pointed {places : Nat} (some : 0 < places) (scaled : Nat) :
    (Binary64.pointed places scaled).toList = (digitsOf (scaled / 10 ^ places)).toList ++
      '.' :: (zeroPadded places (digitsOf (scaled % 10 ^ places))).toList := by
  rw [Binary64.pointed, if_neg some.ne', String.toList_append, String.toList_append,
    List.append_assoc]
  rfl

theorem readMagnitude?_pointed {places : Nat} (some : 0 < places) (scaled : Nat) :
    readMagnitude? (Binary64.pointed places scaled).toList =
      Option.some (scaled / 10 ^ places : ℚ) := by
  have whole : ∀ character ∈ (digitsOf (scaled / 10 ^ places)).toList,
      (character != '.') = true := by
    intro character member
    have digit := isDigit_of_mem_digitsOf member
    rw [bne_iff_ne]
    rintro rfl
    cases digit
  have point : (Binary64.pointed places scaled).toList.dropWhile (· != '.') =
      '.' :: (zeroPadded places (digitsOf (scaled % 10 ^ places))).toList := by
    rw [toList_pointed some, List.dropWhile_append_of_pos whole]
    rfl
  have before : (Binary64.pointed places scaled).toList.takeWhile (· != '.') =
      (digitsOf (scaled / 10 ^ places)).toList := by
    rw [toList_pointed some, List.takeWhile_append_of_pos whole]
    simp
  have small := Nat.mod_lt scaled (Nat.pow_pos (show 0 < 10 by decide) : 0 < 10 ^ places)
  rw [readMagnitude?, point]
  dsimp only
  rw [before, readDigits?_digitsOf, readDigits?_zeroPadded, length_zeroPadded small some]
  have division : (scaled : ℚ) = 10 ^ places * (scaled / 10 ^ places : Nat) +
      (scaled % 10 ^ places : Nat) := by
    exact_mod_cast (Nat.div_add_mod scaled (10 ^ places)).symm
  have positive : (0 : ℚ) < 10 ^ places := by positivity
  refine congrArg Option.some ?_
  rw [division, add_div, mul_div_cancel_left₀ _ positive.ne']

theorem readDecimal?_minus (text : String) :
    readDecimal? ("-" ++ text) = (readMagnitude? text.toList).map (-·) := by
  have signed : ("-" ++ text).toList = '-' :: text.toList := String.toList_append ..
  rw [readDecimal?, signed]
  rfl

theorem readDecimal?_pointed {places : Nat} (some : 0 < places) (scaled : Nat) :
    readDecimal? (Binary64.pointed places scaled) =
      readMagnitude? (Binary64.pointed places scaled).toList := by
  -- The first character is a digit and no sign.
  obtain ⟨digit, rest, digits, isDigit⟩ := toList_digitsOf_cons (scaled / 10 ^ places)
  rw [readDecimal?, toList_pointed some, digits]
  split
  · rename_i signed
    obtain ⟨rfl, _⟩ := List.cons.inj signed
    cases isDigit
  · rfl

/-- What is written of a finite double reads as its exact value rounded to some places. -/
theorem readDecimal?_fixed {places : Nat} (some : 0 < places) {negative : Bool} {units : Nat}
    (representable : Representable units) :
    readDecimal? ((Binary64.finite negative units representable).fixed places) =
      Option.some (Binary64.signed negative
        (roundQuotient (units * 10 ^ places) Binary64.unit) / 10 ^ places : ℚ) := by
  rw [Binary64.fixed]
  generalize roundQuotient (units * Nat.pow 10 places) Binary64.unit = scaled
  cases negative with
  | true =>
    rw [if_pos rfl, readDecimal?_minus, readMagnitude?_pointed some, Option.map_some,
      Binary64.signed, if_pos rfl]
    push_cast
    rw [neg_div]
  | false =>
    rw [if_neg Bool.false_ne_true, String.empty_append, readDecimal?_pointed some,
      readMagnitude?_pointed some, Binary64.signed, if_neg Bool.false_ne_true]
    rfl

end Reading

end Montage
