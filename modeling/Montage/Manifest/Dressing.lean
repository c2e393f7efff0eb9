import Montage.Filter.Color
import Montage.Manifest.Reading

/-!
Caption, transition and color treatment of a scene of a raw manifest.
-/

namespace Montage

/-- Lengths of a crossfade in seconds. -/
def crossfadeBounds : Bounds := ⟨.ofDecimal false 2 (-1), .ofDecimal false 2 0⟩

/-- Brightnesses of a grade. -/
def brightnessBounds : Bounds := ⟨.ofDecimal true 1 0, .one⟩

/-- Contrasts of a grade. -/
def contrastBounds : Bounds := ⟨.ofDecimal false 2 (-1), .ofDecimal false 3 0⟩

/-- Saturations of a grade. -/
def saturationBounds : Bounds := ⟨.zero, .ofDecimal false 3 0⟩

/-- Opacities of an overlay. -/
def opacityBounds : Bounds := ⟨.zero, .one⟩

/-- The opacity of an overlay that gives none. -/
def defaultOpacity : Binary64 := .ofDecimal false 25 (-2)

/-- A hexadecimal digit in either case. -/
def isHexDigit (character : Char) : Bool :=
  character.isDigit || ('a' ≤ character && character ≤ 'f') ||
    ('A' ≤ character && character ≤ 'F')

/-- A sharp sign and six hexadecimal digits. -/
def isColor (text : List Char) : Bool :=
  match text with
  | '#' :: digits => digits.length == 6 && digits.all isHexDigit
  | _ => false

/-- A color grade, neutral where it says nothing. -/
def readGrade {α : Type} [Quantity α] (value : Value) (parent : Field) :
    Except Failure (ColorGrade α) := do
  let field := parent.member "colorGrade"
  let entries ← readObjectOrEmpty value field
  let read := fun (name : String) default bounds =>
    readWithin (Value.field entries name) default bounds (field.member name)
  return {
    brightness := Quantity.ofDouble (← read "brightness" .zero brightnessBounds)
    contrast := Quantity.ofDouble (← read "contrast" .one contrastBounds)
    saturation := Quantity.ofDouble (← read "saturation" .one saturationBounds) }

/-- The color of an overlay, in capitals. -/
def readColor (value : Value) (field : Field) : Except Failure String :=
  match value with
  | .text text =>
    let color := Text.trim text
    if color.isEmpty then .error (.invalid field .overlayWithoutColor)
    else if isColor color.toList then .ok (Text.upper color)
    else .error (.invalid field .notColor)
  | _ => .error (.invalid field .overlayWithoutColor)

/-- An overlay; one that cannot be seen is none. -/
def readOverlay {α : Type} [Quantity α] (value : Value) (parent : Field) :
    Except Failure (Option (Overlay α)) :=
  if value.isNull then .ok none
  else do
    let field := parent.member "overlay"
    let entries ← readObject value field
    let color ← readColor (Value.field entries "hexColor") (field.member "hexColor")
    let opacity ← readWithin (Value.field entries "opacity") defaultOpacity opacityBounds
      (field.member "opacity")
    if opacity.le epsilon then return none
    else return some ⟨color, Quantity.ofDouble opacity⟩

/-- The color treatment of a scene. -/
def readVisualEdit {α : Type} [Quantity α] (value : Value) (scene : Field) :
    Except Failure (VisualEdit α) := do
  let field := scene.member "visualEdit"
  let entries ← readObjectOrEmpty value field
  let filter ← readWord (Value.field entries "filter") (field.member "filter") ColorFilter.none
  let grade ← readGrade (Value.field entries "colorGrade") field
  let overlay ← readOverlay (Value.field entries "overlay") field
  return ⟨filter, some grade, overlay⟩

/-- The text of a caption without the blanks around it. -/
def readCaptionText (value : Value) (field : Field) : Except Failure String :=
  match value with
  | .text text =>
    if Text.isBlankText text then .error (.invalid field .blank) else .ok (Text.trim text)
  | _ => .error (.invalid field .blank)

/-- The end of a caption, that of the scene if it is absent. -/
def readStop {α : Type} [Quantity α] (value : Value) (field : Field) (shown : α) :
    Except Failure α :=
  if value.isNull then .ok shown else (readNumber value field).map Quantity.ofDouble

/-- The caption of a scene that is shown for a duration. It ends with the scene unless it says
otherwise. -/
def readCaption {α : Type} [Quantity α] (value : Value) (scene : Field) (shown : α) :
    Except Failure (Option (Caption α)) :=
  if value.isNull then .ok none
  else do
    let field := scene.member "caption"
    let entries ← readObject value field
    let text ← readCaptionText (Value.field entries "text") (field.member "text")
    let start ← readStart (Value.field entries "startOffsetSec") (field.member "startOffsetSec")
    let start : α := Quantity.ofDouble start
    let stopField := field.member "endOffsetSec"
    let stop ← readStop (Value.field entries "endOffsetSec") stopField shown
    let margin : α := Quantity.ofDouble epsilon
    let earliest ← (Quantity.add start margin).mapError Failure.fault
    if Quantity.le stop earliest then .error (.invalid stopField .endNotAfterStart)
    else
      let latest ← (Quantity.add shown margin).mapError Failure.fault
      if Quantity.lt latest stop then .error (.invalid stopField .endBeyondScene)
      else
        let position ← readWord (Value.field entries "position") (field.member "position")
          CaptionPosition.bottom
        return some { text, start, stop, position }

/-- A length is not below another one by more than `epsilon`. -/
def reaches {α : Type} [Quantity α] (length limit : α) : Except Failure Bool := do
  let limit ← (Quantity.sub limit (Quantity.ofDouble epsilon)).mapError Failure.fault
  return Quantity.le limit length

/-- The length of a crossfade between two scenes, shorter than both. -/
def readCrossfade {α : Type} [Quantity α] (value : Value) (field : Field) (previous shown : α) :
    Except Failure α := do
  let number ← readNumber value field
  if !crossfadeBounds.allow number then
    .error (.invalid field (crossfadeBounds.violation " seconds"))
  else
    let length : α := Quantity.ofDouble number
    if ← reaches length previous then .error (.invalid field .longerThanNeighbour)
    else if ← reaches length shown then .error (.invalid field .longerThanNeighbour)
    else return length

/-- The transition into the scene at a position, after a scene and into one that are shown for
some durations. -/
def readTransition {α : Type} [Quantity α] (value : Value) (scene : Field) (index : Nat)
    (previous shown : α) : Except Failure (Transition α) := do
  let field := scene.member "transition"
  let entries ← readObjectOrEmpty value field
  let kind ← readWord (Value.field entries "type") (field.member "type") TransitionKind.cut
  match kind with
  | .cut => return .cut
  | .crossfade =>
    if index = 0 then .error (.invalid (field.member "type") .firstSceneNotCut)
    else
      let length ← readCrossfade (Value.field entries "transitionDurationSec")
        (field.member "transitionDurationSec") previous shown
      return ⟨.crossfade, some length⟩

end Montage
