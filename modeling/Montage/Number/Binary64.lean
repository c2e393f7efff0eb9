import Montage.Number.Rounding

/-!
Double precision numbers by their exact values.

Every finite double is a whole number of units of `2 ^ -1074`, so its value is kept as a sign and
that whole number. Each operation computes with the exact values and rounds once.
-/

namespace Montage

/-- Units in a whole one. -/
@[irreducible] def Binary64.unit : Nat := Nat.pow 2 1074

/-- The units at which the range of doubles ends, those of `2 ^ 1024`. -/
@[irreducible] def Binary64.rangeEnd : Nat := Nat.pow 2 2098

/-- The whole numbers of units that are the magnitude of a finite double: 53 significant binary
digits, within the range. -/
def Representable (units : Nat) : Prop :=
  units < Binary64.rangeEnd ∧ units % Nat.pow 2 (units.log2 - 52) = 0

instance (units : Nat) : Decidable (Representable units) :=
  inferInstanceAs (Decidable (_ ∧ _))

/-- A double precision number. -/
inductive Binary64 where
  | nan
  | infinite (negative : Bool)
  | finite (negative : Bool) (units : Nat) (representable : Representable units)
  deriving DecidableEq

namespace Binary64

/-- The double of this sign and magnitude, infinite if it is none. -/
def ofUnits (negative : Bool) (units : Nat) : Binary64 :=
  if representable : Representable units then .finite negative units representable
  else .infinite negative

/-- The magnitude nearest to `numerator / denominator` units, ties to even. -/
def nearestUnits (numerator denominator : Nat) : Nat :=
  let step := Nat.pow 2 ((numerator / denominator).log2 - 52)
  roundQuotient numerator (denominator * step) * step

/-- The double nearest to `numerator / denominator` units, ties to even. -/
def nearest (negative : Bool) (numerator denominator : Nat) : Binary64 :=
  ofUnits negative (nearestUnits numerator denominator)

/-- Plus zero. -/
def zero : Binary64 := ofUnits false 0

instance : Inhabited Binary64 := ⟨zero⟩

/-- The double nearest to `digits · 10 ^ exponent`. -/
def ofDecimal (negative : Bool) (digits : Nat) (exponent : Int) : Binary64 :=
  if digits = 0 then ofUnits negative 0
  else if exponent > 310 then .infinite negative
  else if exponent + (digits.log2 + 1 : Nat) < -330 then ofUnits negative 0
  else if exponent ≥ 0 then nearest negative (unit * (digits * Nat.pow 10 exponent.toNat)) 1
  else nearest negative (unit * digits) (Nat.pow 10 (-exponent).toNat)

/-- The double nearest to a whole number. -/
def nearestInt (whole : Int) : Binary64 :=
  nearest (whole < 0) (unit * whole.natAbs) 1

/-- The double of these 64 bits: sign, eleven of exponent, fifty-two of fraction. -/
def ofBits (bits : Nat) : Binary64 :=
  let negative := bits / Nat.pow 2 63 % 2 == 1
  let exponent := bits / Nat.pow 2 52 % Nat.pow 2 11
  let fraction := bits % Nat.pow 2 52
  if exponent = 2047 then
    if fraction = 0 then .infinite negative else .nan
  else if exponent = 0 then ofUnits negative fraction
  else ofUnits negative ((Nat.pow 2 52 + fraction) * Nat.pow 2 (exponent - 1))

/-- The 64 bits of a double; every NaN has those of the quiet one. -/
def toBits : Binary64 → Nat
  | .nan => 2047 * Nat.pow 2 52 + Nat.pow 2 51
  | .infinite negative => negative.toNat * Nat.pow 2 63 + 2047 * Nat.pow 2 52
  | .finite negative units _ =>
    let exponent := if units < Nat.pow 2 52 then 0 else units.log2 - 52
    negative.toNat * Nat.pow 2 63 +
      (if units < Nat.pow 2 52 then units
        else exponent * Nat.pow 2 52 + units / Nat.pow 2 exponent)

/-- The sign bit is set. -/
def isNegative : Binary64 → Bool
  | .nan => false
  | .infinite negative | .finite negative _ _ => negative

/-- Neither infinite nor NaN. -/
def isFinite : Binary64 → Bool
  | .finite _ _ _ => true
  | _ => false

/-- The double nearest to a whole number, if the number is within the range of doubles. -/
def ofInt? (whole : Int) : Option Binary64 :=
  if (nearestInt whole).isFinite then some (nearestInt whole) else none

/-- Signed units of a finite double, zero for the others. -/
def signedUnits : Binary64 → Int
  | .finite negative units _ => if negative then -(units : Int) else units
  | _ => 0

/-- The same magnitude with the other sign. -/
def neg : Binary64 → Binary64
  | .nan => .nan
  | .infinite negative => .infinite !negative
  | .finite negative units representable => .finite (!negative) units representable

/-- The same magnitude with a plus sign. -/
def abs : Binary64 → Binary64
  | .nan => .nan
  | .infinite _ => .infinite false
  | .finite _ units representable => .finite false units representable

/-- The sum rounded once. A sum of zero is plus zero unless both terms are minus zero. -/
def add : Binary64 → Binary64 → Binary64
  | .nan, _ | _, .nan => .nan
  | .infinite left, .infinite right => if left == right then .infinite left else .nan
  | .infinite left, _ => .infinite left
  | _, .infinite right => .infinite right
  | left@(.finite leftNegative _ _), right@(.finite rightNegative _ _) =>
    let sum := left.signedUnits + right.signedUnits
    if sum = 0 then ofUnits (leftNegative && rightNegative) 0
    else nearest (sum < 0) sum.natAbs 1

/-- The difference rounded once. -/
def sub (left right : Binary64) : Binary64 :=
  add left right.neg

/-- The product rounded once. -/
def mul : Binary64 → Binary64 → Binary64
  | .nan, _ | _, .nan => .nan
  | .infinite left, .infinite right => .infinite (left != right)
  | .infinite left, .finite right units _ | .finite right units _, .infinite left =>
    if units = 0 then .nan else .infinite (left != right)
  | .finite left leftUnits _, .finite right rightUnits _ =>
    nearest (left != right) (leftUnits * rightUnits) unit

instance : Add Binary64 := ⟨add⟩
instance : Sub Binary64 := ⟨sub⟩
instance : Mul Binary64 := ⟨mul⟩
instance : Neg Binary64 := ⟨neg⟩

/-- The order of two doubles, none if one is NaN. The two zeros are equal. -/
def compare? : Binary64 → Binary64 → Option Ordering
  | .nan, _ | _, .nan => none
  | .infinite left, .infinite right =>
    some (if left == right then .eq else if left then .lt else .gt)
  | .infinite left, _ => some (if left then .lt else .gt)
  | _, .infinite right => some (if right then .gt else .lt)
  | left@(.finite _ _ _), right@(.finite _ _ _) =>
    some (compare left.signedUnits right.signedUnits)

/-- Strictly below. -/
def lt (left right : Binary64) : Bool :=
  left.compare? right == some .lt

/-- Below or equal. -/
def le (left right : Binary64) : Bool :=
  left.compare? right == some .lt || left.compare? right == some .eq

/-- Equal as numbers. -/
def same (left right : Binary64) : Bool :=
  left.compare? right == some .eq

end Binary64

end Montage
