import Montage.Number.Binary64

/-!
Doubles written in decimal: with a fixed number of places, or with the fewest digits that read
back as the same double.
-/

namespace Montage

/-- Decimal digits of a natural number. -/
def digitsOf (number : Nat) : String :=
  String.ofList (Nat.toDigits 10 number)

/-- The text with zeros put before it up to a width. -/
def zeroPadded (width : Nat) (text : String) : String :=
  String.ofList (List.replicate (width - text.length) '0') ++ text

namespace Binary64

/-- A number of units of the last of some decimal places, the point put before those places. -/
def pointed (places scaled : Nat) : String :=
  if places = 0 then digitsOf scaled
  else digitsOf (scaled / Nat.pow 10 places) ++ "." ++
    zeroPadded places (digitsOf (scaled % Nat.pow 10 places))

/-- The exact value rounded to a number of decimal places, ties to even. -/
def fixed (places : Nat) : Binary64 → String
  | .nan => "nan"
  | .infinite negative => if negative then "-inf" else "inf"
  | .finite negative units _ =>
    (if negative then "-" else "") ++
      pointed places (roundQuotient (units * Nat.pow 10 places) unit)

/-- Decimal digits of a positive magnitude: `digits` of them, read as a whole number, times
`10 ^ (point - digits)`. -/
structure Scientific where
  digits : Nat
  point : Int

/-- The place of the point before which the first digit of a positive magnitude stands: the
magnitude is below `10 ^ point` and not below `10 ^ (point - 1)`. -/
def pointOf (units : Nat) : Int :=
  (Nat.toDigits 10 (units * Nat.pow 10 400 / unit)).length - 400

/-- Ends of the interval of reals that round to this magnitude, in quarters of a unit. -/
def roundingInterval (units : Nat) : Nat × Nat :=
  let step := Nat.pow 2 (units.log2 - 52)
  let below := if units = step * Nat.pow 2 52 && step > 1 then step else 2 * step
  (4 * units - below, 4 * units + 2 * step)

/-- A decimal magnitude lies in the interval of reals that round to this one; the ends belong to
the interval when the last binary digit is even. -/
def roundsTo (units digits : Nat) (exponent : Int) : Bool :=
  let (low, high) := roundingInterval units
  let scaledDigits := digits * 4 * unit * Nat.pow 10 exponent.toNat
  let scale := Nat.pow 10 (-exponent).toNat
  if units / Nat.pow 2 (units.log2 - 52) % 2 = 0 then
    low * scale ≤ scaledDigits && scaledDigits ≤ high * scale
  else
    low * scale < scaledDigits && scaledDigits < high * scale

/-- The decimal with `count` digits that is nearest to a magnitude among those that round to it. -/
def withDigits? (units count : Nat) : Option Scientific :=
  let point := pointOf units
  let exponent : Int := point - count
  let numerator := units * Nat.pow 10 (-exponent).toNat
  let denominator := unit * Nat.pow 10 exponent.toNat
  let low := numerator / denominator
  let near := roundQuotient numerator denominator
  let far := if near = low then low + 1 else low
  if roundsTo units near exponent then some ⟨near, point⟩
  else if roundsTo units far exponent then some ⟨far, point⟩
  else none

/-- The fewest digits that round to a positive magnitude, and how many they are. -/
def shortest (units : Nat) : Scientific × Nat :=
  ((List.range 17).findSome? fun fewer =>
    (withDigits? units (fewer + 1)).map fun found => (found, fewer + 1)).getD (⟨0, 0⟩, 1)

private def shortestText (units : Nat) : String :=
  let (⟨digits, point⟩, count) := shortest units
  let carried := digits = Nat.pow 10 count
  let digits := if carried then digits / 10 else digits
  let point := if carried then point + 1 else point
  let text := ((digitsOf digits).toList.reverse.dropWhile (· == '0')).reverse
  if 0 < point && point ≤ 16 then
    let whole := text.take point.toNat
    let fraction := text.drop point.toNat
    String.ofList (whole ++ List.replicate (point.toNat - whole.length) '0') ++ "." ++
      (if fraction.isEmpty then "0" else String.ofList fraction)
  else if -4 < point && point ≤ 0 then
    "0." ++ String.ofList (List.replicate (-point).toNat '0' ++ text)
  else
    let exponent := point - 1
    let mantissa := match text with
      | [] => ""
      | [digit] => String.ofList [digit]
      | digit :: rest => String.ofList (digit :: '.' :: rest)
    mantissa ++ "e" ++ (if exponent < 0 then "-" else "+") ++
      zeroPadded 2 (digitsOf exponent.natAbs)

/-- The fewest digits that read back as this double, positional from `0.0001` up to below
`10 ^ 16`. -/
def text : Binary64 → String
  | .nan => "nan"
  | .infinite negative => if negative then "-inf" else "inf"
  | .finite negative units _ =>
    (if negative then "-" else "") ++ (if units = 0 then "0.0" else shortestText units)

end Binary64

end Montage
