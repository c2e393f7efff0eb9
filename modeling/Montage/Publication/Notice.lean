import Montage.Text.Blank

/-!
What is told about a published video: its address and the warnings about it.
-/

namespace Montage

/-- The address of a video on the video site, none if its id is blank. -/
def watchAddress (id : Option String) : Option String :=
  match id with
  | some id => if Text.isBlankText id then none else some ("https://www.youtube.com/watch?v=" ++ id)
  | none => none

/-- Nothing is said, or only blanks. -/
def saysNothing (warning : Option String) : Bool :=
  match warning with
  | some text => Text.isBlankText text
  | none => true

/-- Two warnings as one. One that says nothing is left out. -/
def combineWarnings (first second : Option String) : Option String :=
  if saysNothing first then second
  else if saysNothing second then first
  else some (first.getD "" ++ " " ++ second.getD "")

end Montage
