import Montage.Filter.Frame

/-!
The filter that writes a caption over a scene.
-/

namespace Montage

/-- Characters with a backslash before each occurrence of one of them. -/
def escapeOne (mark : Char) : List Char → List Char
  | [] => []
  | character :: rest =>
    if character == mark then '\\' :: character :: escapeOne mark rest
    else character :: escapeOne mark rest

/-- Characters with a backslash before each one that the filter would read as its own: first the
backslash, so that those put in later are not taken for others. -/
def escapeReserved (text : List Char) : List Char :=
  escapeOne '%' (escapeOne '\'' (escapeOne ':' (escapeOne '\\' text)))

/-- A text that the filter reads as it is. -/
def escapeText (text : String) : String :=
  String.ofList (escapeReserved text.toList)

/-- The height of a line of the caption's box. -/
def CaptionPosition.height : CaptionPosition → String
  | .top => "h*0.08"
  | .center => "(h-text_h)/2"
  | .bottom => "h-text_h-h*0.08"

variable {α : Type} [Quantity α]

/-- How and when a caption is shown: in a box, only from its start to its end. -/
def Caption.settings (caption : Caption α) (width height : Int) : Except Fault String := do
  let fontSize := Int.fdiv (max width height) 24
  return ":fontcolor=white:fontsize=" ++ wholeText fontSize ++
    ":box=1:boxcolor=black@0.45:boxborderw=12" ++
    ":x=(w-text_w)/2:y=" ++ caption.position.height ++
    ":enable='between(t," ++ (← decimals caption.start) ++ "," ++
    (← decimals caption.stop) ++ ")'"

/-- Writes a caption. -/
def Caption.filter (caption : Caption α) (width height : Int) : Except Fault String := do
  return "drawtext=text='" ++ escapeText caption.text ++ "'" ++
    (← caption.settings width height)

end Montage
