import Montage.Fault
import Montage.Number.Decimal

/-!
Numbers of a timeline: seconds, opacities, adjustments.

The rules of timelines, filters and plans are written for any type of quantities. They run on
`Number`, which keeps the whole numbers and doubles a caller gave, and mean the same on types
whose sums are exact.
-/

namespace Montage

/-- What the rules of a timeline need of its numbers. Sums, differences and their written form
can fall outside the range of doubles. -/
class Quantity (α : Type) where
  /-- The quantity that a double stands for. -/
  ofDouble : Binary64 → α
  /-- The sum. -/
  add : α → α → Except Fault α
  /-- The difference. -/
  sub : α → α → Except Fault α
  /-- Strictly below. -/
  lt : α → α → Bool
  /-- Below or equal. -/
  le : α → α → Bool
  /-- The distance from zero. -/
  magnitude : α → α
  /-- Equal to zero. -/
  isZero : α → Bool
  /-- Decimal text with this many places. -/
  fixed : Nat → α → Except Fault String

/-- Seconds, opacities and adjustments are written for the tool with three decimals. -/
def decimals [Quantity α] (quantity : α) : Except Fault String :=
  Quantity.fixed 3 quantity

instance : Quantity Binary64 where
  ofDouble value := value
  add left right := .ok (left + right)
  sub left right := .ok (left - right)
  lt := Binary64.lt
  le := Binary64.le
  magnitude := Binary64.abs
  isZero value := value.same .zero
  fixed places value := .ok (value.fixed places)

/-- A whole number of any size, or a double. -/
inductive Number where
  | int (whole : Int)
  | double (value : Binary64)
  deriving DecidableEq

namespace Number

/-- The double nearest to a number. -/
def toDouble : Number → Except Fault Binary64
  | .int whole =>
    match Binary64.ofInt? whole with
    | some value => .ok value
    | none => .error .outOfRange
  | .double value => .ok value

/-- The order of two numbers by their exact values, none if one is NaN. -/
def compare? : Number → Number → Option Ordering
  | .int left, .int right => some (compare left right)
  | .double left, .double right => left.compare? right
  | .int left, .double right => against left right
  | .double left, .int right => (against right left).map Ordering.swap
where
  /-- The order of a whole number and a double. -/
  against (whole : Int) : Binary64 → Option Ordering
    | .nan => none
    | .infinite negative => some (if negative then .gt else .lt)
    | value@(.finite _ _ _) => some (compare (whole * Binary64.unit) value.signedUnits)

/-- Strictly below. -/
def lt (left right : Number) : Bool :=
  left.compare? right == some .lt

/-- Below or equal. -/
def le (left right : Number) : Bool :=
  left.compare? right == some .lt || left.compare? right == some .eq

/-- Whole numbers add exactly; with a double among them, both are taken as doubles. -/
def add : Number → Number → Except Fault Number
  | .int left, .int right => .ok (.int (left + right))
  | left, right => do return .double ((← left.toDouble) + (← right.toDouble))

/-- Whole numbers subtract exactly; with a double among them, both are taken as doubles. -/
def sub : Number → Number → Except Fault Number
  | .int left, .int right => .ok (.int (left - right))
  | left, right => do return .double ((← left.toDouble) - (← right.toDouble))

end Number

instance : Quantity Number where
  ofDouble := .double
  add := Number.add
  sub := Number.sub
  lt := Number.lt
  le := Number.le
  magnitude
    | .int whole => .int whole.natAbs
    | .double value => .double value.abs
  isZero
    | .int whole => whole == 0
    | .double value => value.same .zero
  fixed places number := do return (← number.toDouble).fixed places

end Montage
