import Montage.Number.Quantity

/-!
Scenes of a composition: what is shown, for how long, and how it is dressed.

The types take the kind of numbers they are made of. A validated manifest and one that a caller
puts together share them, so what only some scenes have is optional.
-/

namespace Montage

/-- Things that are named by fixed words in a manifest. -/
class Worded (α : Type) where
  /-- All of them, in the order in which a message lists them. -/
  all : List α
  /-- The word for one. -/
  word : α → String

/-- The thing that a word stands for. -/
def Worded.read? {α : Type} [Worded α] (word : String) : Option α :=
  (Worded.all : List α).find? fun value => Worded.word value == word

/-- The words that a message lists. -/
def Worded.words (α : Type) [Worded α] : List String :=
  (Worded.all : List α).map Worded.word

/-- Shapes of the finished video. -/
inductive Preset where
  | landscape
  | portrait
  | square
  deriving DecidableEq, Repr

instance : Worded Preset where
  all := [.landscape, .portrait, .square]
  word
    | .landscape => "LANDSCAPE_16_9"
    | .portrait => "PORTRAIT_9_16"
    | .square => "SQUARE_1_1"

/-- Width of a frame in pixels. -/
def Preset.width : Preset → Nat
  | .landscape => 1920
  | .portrait | .square => 1080

/-- Height of a frame in pixels. -/
def Preset.height : Preset → Nat
  | .landscape | .square => 1080
  | .portrait => 1920

/-- What a scene is made from. -/
inductive SceneKind where
  | image
  | video
  deriving DecidableEq, Repr

instance : Worded SceneKind where
  all := [.image, .video]
  word
    | .image => "IMAGE"
    | .video => "VIDEO"

/-- How the frame moves over an image. -/
inductive Motion where
  | none
  | zoomIn
  | zoomOut
  | panLeft
  | panRight
  deriving DecidableEq, Repr

instance : Worded Motion where
  all := [.none, .zoomIn, .zoomOut, .panLeft, .panRight]
  word
    | .none => "NONE"
    | .zoomIn => "ZOOM_IN"
    | .zoomOut => "ZOOM_OUT"
    | .panLeft => "PAN_LEFT"
    | .panRight => "PAN_RIGHT"

/-- Where a caption stands. -/
inductive CaptionPosition where
  | top
  | center
  | bottom
  deriving DecidableEq, Repr

instance : Worded CaptionPosition where
  all := [.top, .center, .bottom]
  word
    | .top => "TOP"
    | .center => "CENTER"
    | .bottom => "BOTTOM"

/-- How a scene begins after the one before it. -/
inductive TransitionKind where
  | cut
  | crossfade
  deriving DecidableEq, Repr

instance : Worded TransitionKind where
  all := [.cut, .crossfade]
  word
    | .cut => "CUT"
    | .crossfade => "CROSSFADE"

/-- Ready-made color treatments. -/
inductive ColorFilter where
  | none
  | grayscale
  | sepia
  | cool
  | warm
  deriving DecidableEq, Repr

instance : Worded ColorFilter where
  all := [.none, .grayscale, .sepia, .cool, .warm]
  word
    | .none => "NONE"
    | .grayscale => "GRAYSCALE"
    | .sepia => "SEPIA"
    | .cool => "COOL"
    | .warm => "WARM"

/-- A text over a scene, from its start to its end in seconds of the scene. -/
structure Caption (α : Type) where
  text : String
  start : α
  stop : α
  position : CaptionPosition
  deriving DecidableEq

/-- How a scene begins; a crossfade has a length in seconds. -/
structure Transition (α : Type) where
  kind : TransitionKind
  length : Option α
  deriving DecidableEq

/-- A plain cut. -/
def Transition.cut {α : Type} : Transition α := ⟨.cut, none⟩

/-- Brightness, contrast and saturation. -/
structure ColorGrade (α : Type) where
  brightness : α
  contrast : α
  saturation : α
  deriving DecidableEq

/-- A color laid over the whole frame. -/
structure Overlay (α : Type) where
  color : String
  opacity : α
  deriving DecidableEq

/-- The color treatment of a scene. -/
structure VisualEdit (α : Type) where
  filter : ColorFilter
  grade : Option (ColorGrade α)
  overlay : Option (Overlay α)
  deriving DecidableEq

/-- One entry of a timeline. An image is shown for its duration; of a video, a clip is shown from
its start for its length. -/
structure Scene (α : Type) where
  asset : String
  kind : SceneKind
  duration : Option α
  clipStart : α
  clipLength : Option α
  motion : Motion
  caption : Option (Caption α)
  transition : Option (Transition α)
  visualEdit : Option (VisualEdit α)
  deriving DecidableEq

/-- How long a scene is shown. -/
def Scene.shown? {α : Type} (scene : Scene α) : Option α :=
  match scene.kind with
  | .image => scene.duration
  | .video => scene.clipLength

/-- The length of the crossfade that a scene begins with. -/
def Scene.crossfade? {α : Type} (scene : Scene α) : Option (Option α) :=
  match scene.transition with
  | some ⟨.crossfade, length⟩ => some length
  | _ => none

/-- A timeline with its total length in seconds. -/
structure Manifest (α : Type) where
  preset : Preset
  scenes : List (Scene α)
  total : α
  deriving DecidableEq

end Montage
