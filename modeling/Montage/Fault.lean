/-!
Faults of a caller's values that no rule of validation speaks of.
-/

namespace Montage

/-- Why values at hand cannot be computed with. -/
inductive Fault where
  /-- A number lies outside the range of doubles or of dates. -/
  | outOfRange
  /-- A value has no such operation, or is absent. -/
  | wrongKind
  /-- Something that is no text was treated as text. -/
  | notText
  /-- A key is not in the map. -/
  | unknownKey
  /-- A position is not in the list. -/
  | outOfBounds
  deriving DecidableEq, Repr

end Montage
