import Montage.Scene

/-!
Filters for the color treatment of a scene: a ready-made filter, then the grade, then the overlay.
-/

namespace Montage

/-- Distances up to this one count as none: `1e-9`. -/
def epsilon : Binary64 := .ofDecimal false 1 (-9)

/-- One. -/
def Binary64.one : Binary64 := .ofUnits false Binary64.unit

/-- The filter for a ready-made treatment. -/
def ColorFilter.text : ColorFilter → Option String
  | .none => Option.none
  | .grayscale => some "hue=s=0"
  | .sepia => some "colorchannelmixer=.393:.769:.189:.349:.686:.168:.272:.534:.131"
  | .cool => some "colorbalance=rs=-0.05:gs=0.00:bs=0.08"
  | .warm => some "colorbalance=rs=0.08:gs=0.03:bs=-0.03"

variable {α : Type} [Quantity α]

/-- A quantity differs from a neutral one by more than `epsilon`. -/
def isOff (quantity neutral : α) : Except Fault Bool := do
  let distance := Quantity.magnitude (← Quantity.sub quantity neutral)
  return Quantity.lt (Quantity.ofDouble epsilon) distance

/-- A grade changes something. -/
def ColorGrade.adjusts (grade : ColorGrade α) : Except Fault Bool := do
  if Quantity.lt (Quantity.ofDouble epsilon) (Quantity.magnitude grade.brightness) then
    return true
  if ← isOff grade.contrast (Quantity.ofDouble .one) then return true
  isOff grade.saturation (Quantity.ofDouble .one)

/-- The filter for a grade. -/
def ColorGrade.filter (grade : ColorGrade α) : Except Fault String := do
  return "eq=brightness=" ++ (← decimals grade.brightness) ++
    ":contrast=" ++ (← decimals grade.contrast) ++
    ":saturation=" ++ (← decimals grade.saturation)

/-- The filter for an overlay. -/
def Overlay.filter (overlay : Overlay α) : Except Fault String := do
  let color := match overlay.color.toList with
    | '#' :: digits => "0x" ++ String.ofList digits
    | _ => overlay.color
  return "drawbox=x=0:y=0:w=iw:h=ih:color=" ++ color ++ "@" ++
    (← decimals overlay.opacity) ++ ":t=fill"

/-- The filter for a grade that changes something. -/
def gradeFilters (grade : Option (ColorGrade α)) : Except Fault (List String) :=
  match grade with
  | none => .ok []
  | some grade => do if ← grade.adjusts then return [← grade.filter] else return []

/-- The filter for an overlay that can be seen. -/
def overlayFilters (overlay : Option (Overlay α)) : Except Fault (List String) :=
  match overlay with
  | none => .ok []
  | some overlay =>
    if Quantity.lt (Quantity.ofDouble epsilon) overlay.opacity then
      overlay.filter.map fun filter => [filter]
    else .ok []

/-- The filters for a treatment, in their order. -/
def VisualEdit.filters (edit : VisualEdit α) : Except Fault (List String) := do
  let graded ← gradeFilters edit.grade
  let overlaid ← overlayFilters edit.overlay
  return edit.filter.text.toList ++ graded ++ overlaid

/-- The filters for a treatment, none if there is none. -/
def editFilters (edit : Option (VisualEdit α)) : Except Fault (List String) :=
  match edit with
  | none => .ok []
  | some edit => edit.filters

end Montage
