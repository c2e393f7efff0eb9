import Montage.Publication.Notice
import Montage.Workspace

/-!
Destinations of rendered videos.
-/

namespace Montage

/-- A published video: the id that its destination gave it, and what there is to say about it. -/
structure Artifact where
  id : String
  warning : Option String
  deriving DecidableEq, Repr

/-- A destination: it takes a video, then perhaps a thumbnail for it, and knows its address. -/
structure Publisher where
  upload : (video : Path) → (title description : String) → PublishOptions → Action Artifact
  illustrate : (id : String) → (image : Path) → (contentType : Option String) → Action Unit
  address : (id : String) → Action (Option String)

/-- How an id for everything is written: eleven digits of its number, then zeros. -/
def idDigits (number : Nat) : List Char :=
  let digits := Nat.toDigits 16 number
  List.replicate (11 - digits.length) '0' ++ digits ++ List.replicate 21 '0'

/-- The digits of a fresh id. -/
def freshId : Action (List Char) := fun workspace =>
  let number := workspace.ids + 1
  (.ok (idDigits number), { workspace with ids := number })

end Montage
