import Montage.Number.Binary64
import Montage.Text.Blank
import Montage.Text.Digit

/-!
Numbers read from text: digits of any script, single underscores between digits, blanks around.
-/

namespace Montage

open Text

/-- Longest whole number, in decimal digits, that is read from or written to text. -/
def maxIntegerDigits : Nat := 4300

/-- The digits at the start of a text, single underscores between them left out, and what
follows. `afterDigit` says whether a digit has been read just before. -/
def takeDigits (afterDigit : Bool) : List Char → List Char × List Char
  | [] => ([], [])
  | character :: rest =>
    if isDigit character then
      let (digits, left) := takeDigits true rest
      (character :: digits, left)
    else if character == '_' && afterDigit then
      match takeDigits false rest with
      | ([], _) => ([], character :: rest)
      | found => found
    else ([], character :: rest)

/-- The text without the blanks at either end, the information separators not counted. -/
def trimNumber (text : String) : List Char :=
  let isSpace := fun character =>
    isBlank character && !(28 ≤ character.toNat && character.toNat ≤ 31)
  ((text.toList.dropWhile isSpace).reverse.dropWhile isSpace).reverse

/-- A sign, if there is one: true for minus. -/
def takeSign : List Char → Bool × List Char
  | '-' :: rest => (true, rest)
  | '+' :: rest => (false, rest)
  | text => (false, text)

/-- Why text is no whole number. -/
inductive IntegerFault
  | malformed
  | tooLong (digits : Nat)
  deriving DecidableEq, Repr

private def signed (negative : Bool) (magnitude : Nat) : Int :=
  if negative then -(magnitude : Int) else magnitude

/-- A whole number in decimal. -/
def readInteger (text : String) : Except IntegerFault Int :=
  let (negative, unsigned) := takeSign (trimNumber text)
  match takeDigits false unsigned with
  | (digits@(_ :: _), []) =>
    if digits.length > maxIntegerDigits then .error (.tooLong digits.length)
    else .ok (signed negative (digitsValue digits))
  | _ => .error .malformed

private def takeExponent : List Char → Option Int
  | [] => some 0
  | mark :: rest =>
    if mark == 'e' || mark == 'E' then
      let (negative, unsigned) := takeSign rest
      match takeDigits false unsigned with
      | (digits@(_ :: _), []) => some (signed negative (digitsValue digits))
      | _ => none
    else none

private def readUnsigned (negative : Bool) (text : List Char) : Option Binary64 :=
  let (whole, afterWhole) := takeDigits false text
  let (fraction, afterFraction) := match afterWhole with
    | '.' :: rest => takeDigits false rest
    | rest => ([], rest)
  if whole.isEmpty && fraction.isEmpty then none
  else (takeExponent afterFraction).map fun exponent =>
    .ofDecimal negative (digitsValue (whole ++ fraction)) (exponent - fraction.length)

/-- A double: decimal digits with an optional point and exponent, an infinity or NaN. -/
def readDouble? (text : String) : Option Binary64 :=
  let (negative, unsigned) := takeSign (trimNumber text)
  let word := String.ofList (unsigned.map Char.toLower)
  if word == "inf" || word == "infinity" then some (.infinite negative)
  else if word == "nan" then some .nan
  else readUnsigned negative unsigned

end Montage
