import Montage.Publication.Publisher

/-!
A stand-in for a destination, which only notes what it is given.
-/

namespace Montage

/-- What the stand-in answers. -/
structure RehearsedPublisher where
  id : String
  warning : Option String
  uploadError : Option String
  thumbnailError : Option String
  deriving DecidableEq, Repr

namespace RehearsedPublisher

/-- Refuses with a message, if there is one. -/
def refuse (message : Option String) : Action Unit :=
  match message with
  | some message => throw (.publish (.reported message))
  | none => return

/-- The content of a file. -/
def contentOf (path : Path) : Action Bytes :=
  Action.look fun disk => (disk.read path.text).mapError fun refusal =>
    .system (.refused refusal path.text)

/-- The stand-in as a destination, with addresses on the video site. -/
def publisher (rehearsed : RehearsedPublisher) : Publisher where
  upload video title description options := do
    refuse rehearsed.uploadError
    Action.note (.published (← contentOf video) title description options)
    return ⟨rehearsed.id, rehearsed.warning⟩
  illustrate id image contentType := do
    refuse rehearsed.thumbnailError
    Action.note (.illustrated id (← contentOf image) contentType)
  address id := return watchAddress (some id)

end RehearsedPublisher

end Montage
