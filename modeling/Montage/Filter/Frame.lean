import Montage.Scene

/-!
Filters that fit a picture into the frame and move the frame over it.
-/

namespace Montage

/-- A whole number in decimal, with its sign. -/
def wholeText (whole : Int) : String :=
  (if whole < 0 then "-" else "") ++ digitsOf whole.natAbs

/-- Frames of a second. -/
def frameRate : Nat := 30

/-- Scales a picture until it fits the frame and centers it on black. -/
def fitFilter (width height : Int) : String :=
  let size := wholeText width ++ ":" ++ wholeText height
  "scale=" ++ size ++ ":force_original_aspect_ratio=decrease," ++
    "pad=" ++ size ++ ":(ow-iw)/2:(oh-ih)/2:black,setsar=1"

variable {α : Type} [Quantity α]

/-- Moves the frame over an image that is shown for a duration: zooms grow or shrink step by step,
pans sweep a fixed zoom over all frames of the scene. -/
def motionFilter (motion : Motion) (duration : α) (width height : Int) :
    Except Fault (Option String) := do
  let tail := "d=1:fps=" ++ digitsOf frameRate ++ ":s=" ++ wholeText width ++ "x" ++
    wholeText height
  let centerX := "x='iw/2-(iw/zoom/2)'"
  let centerY := "y='ih/2-(ih/zoom/2)'"
  let frames := "(" ++ digitsOf frameRate ++ "*" ++ (← decimals duration) ++ ")"
  let zoomed := fun (zoom x : String) => some
    ("zoompan=z='" ++ zoom ++ "':" ++ x ++ ":" ++ centerY ++ ":" ++ tail)
  return match motion with
    | .none => none
    | .zoomIn => zoomed "if(lte(on,1),1.0,min(zoom+0.0015,1.15))" centerX
    | .zoomOut => zoomed "if(lte(on,1),1.15,max(zoom-0.0015,1.0))" centerX
    | .panLeft => zoomed "1.08" ("x='max(iw/zoom-(iw/zoom)*on/" ++ frames ++ ",0)'")
    | .panRight => zoomed "1.08" ("x='min((iw/zoom)*on/" ++ frames ++ ",iw/zoom)'")

end Montage
