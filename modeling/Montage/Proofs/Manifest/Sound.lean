import Montage.Manifest.Validation
import Montage.Proofs.Number.Exact
import Montage.Proofs.Outcome

/-! The rules that a validated manifest keeps, in exact values and apart from the code that checks
them. -/

namespace Montage

/-- Finite, and between two exact values. -/
def Number.Within (low high : ℚ) (number : Number) : Prop :=
  number.isFinite = true ∧ low ≤ number.exact ∧ number.exact ≤ high

/-- Finite, and above an exact value. -/
def Number.Above (low : ℚ) (number : Number) : Prop :=
  number.isFinite = true ∧ low < number.exact

/-- The probe reports no seconds that are infinite or NaN. -/
def Prober.Finite (prober : Prober Number) : Prop :=
  ∀ upload workspace seconds, ((prober upload).on workspace).1 = .ok seconds →
    seconds.isFinite = true

/-- The workspaces that probing uploads leads to. -/
inductive Probed {α : Type} (prober : Prober α) (start : Workspace) : Workspace → Prop where
  | start : Probed prober start start
  | probe {middle : Workspace} (upload : Upload) (earlier : Probed prober start middle) :
      Probed prober start ((prober upload).on middle).2

/-- The text is shown within a scene of some seconds, the end checked against the double nearest to
these seconds and the margin. -/
structure Caption.Sound (caption : Caption Number) (seconds : Number) : Prop where
  trimmed : Text.trim caption.text = caption.text
  notBlank : Text.isBlankText caption.text = false
  finite : caption.start.isFinite = true ∧ caption.stop.isFinite = true
  start : 0 ≤ caption.start.exact
  ordered : caption.start.exact < caption.stop.exact
  inside : ∃ latest, seconds.add (.double epsilon) = .ok latest ∧ caption.stop.le latest = true

/-- A cut has no length; a crossfade has one that is shorter than the scene. -/
def Transition.Sound (transition : Transition Number) (seconds : Number) : Prop :=
  match transition.kind with
  | .cut => transition.length = none
  | .crossfade => ∃ length, transition.length = some length ∧ length.Within (1 / 5) 2 ∧
      length.exact < seconds.exact

structure ColorGrade.Sound (grade : ColorGrade Number) : Prop where
  brightness : grade.brightness.Within (-1) 1
  contrast : grade.contrast.Within (1 / 5) 3
  saturation : grade.saturation.Within 0 3

/-- A digit, or a letter from `A` to `F`. -/
def IsCapitalHex (character : Char) : Prop :=
  character.isDigit = true ∨ ('A' ≤ character ∧ character ≤ 'F')

structure Overlay.Sound (overlay : Overlay Number) : Prop where
  color : ∃ digits : List Char, overlay.color = String.ofList ('#' :: digits) ∧
    digits.length = 6 ∧ ∀ digit ∈ digits, IsCapitalHex digit
  opacity : overlay.opacity.Above (1 / 10 ^ 9) ∧ overlay.opacity.exact ≤ 1

structure VisualEdit.Sound (edit : VisualEdit Number) : Prop where
  grade : ∃ grade, edit.grade = some grade ∧ grade.Sound
  overlay : ∀ overlay ∈ edit.overlay, overlay.Sound

/-- A scene has the trimmed asset id and the kind that a raw scene names. -/
def Scene.ReadFrom (raw : Value) (scene : Scene Number) : Prop :=
  ∃ entries asset kind, raw = .map entries ∧
    Value.field entries "assetId" = .text asset ∧ scene.asset = Text.trim asset ∧
    Value.field entries "type" = .text kind ∧
    Worded.word scene.kind = Text.upper (Text.trim kind)

/-- The asset of a scene names an upload that was found to hold something, of the media type of the
scene's kind. -/
structure Scene.Sourced (assets : Named Upload) (seen : Workspace → Prop) (scene : Scene Number) :
    Prop where
  trimmed : Text.trim scene.asset = scene.asset
  notBlank : Text.isBlankText scene.asset = false
  upload : ∃ upload, assets.get? scene.asset = some upload ∧
    (∃ workspace, seen workspace ∧ upload.isEmpty workspace.disk = .ok false) ∧
    scene.kind.contentStart.toList <+: (Text.lower (upload.contentType.getD "")).toList

/-- How long a scene of a kind can be shown. -/
def SceneKind.Allows (kind : SceneKind) (seconds : Number) : Prop :=
  match kind with
  | .image => seconds.Within (1 / 2) 600
  | .video => seconds.Above (1 / 10 ^ 9)

/-- A scene has the times of its kind, and no others. -/
def Scene.Timed (scene : Scene Number) (seconds : Number) : Prop :=
  match scene.kind with
  | .image => scene.duration = some seconds ∧ scene.clipStart = .double .zero ∧
      scene.clipLength = none
  | .video => scene.duration = none ∧
      (scene.clipStart.isFinite = true ∧ 0 ≤ scene.clipStart.exact) ∧
      scene.clipLength = some seconds

/-- A scene shown for some seconds keeps the rules that speak of no other scene. -/
structure Scene.Sound (assets : Named Upload) (seen : Workspace → Prop) (scene : Scene Number)
    (seconds : Number) : Prop where
  sourced : scene.Sourced assets seen
  allowed : scene.kind.Allows seconds
  timed : scene.Timed seconds
  caption : ∀ caption ∈ scene.caption, caption.Sound seconds
  transition : ∃ transition, scene.transition = some transition ∧ transition.Sound seconds
  visualEdit : ∃ edit, scene.visualEdit = some edit ∧ edit.Sound

/-- The crossfade that a scene begins with, if any, is shorter than some seconds. -/
def Scene.JoinsWithin (seconds : Number) (scene : Scene Number) : Prop :=
  ∀ length, scene.crossfade? = some length → ∃ overlap, length = some overlap ∧
    overlap.exact < seconds.exact

/-- A crossfade into the right scene is shorter than the left one is shown. -/
def Scene.Joins (left right : Scene Number) : Prop :=
  ∃ seconds, left.shown? = some seconds ∧ right.JoinsWithin seconds

/-- The rules of a manifest that is read from raw scenes. -/
structure Manifest.Sound (assets : Named Upload) (seen : Workspace → Prop) (raws : List Value)
    (manifest : Manifest Number) : Prop where
  count : 1 ≤ manifest.scenes.length ∧ manifest.scenes.length ≤ 50
  read : List.Forall₂ Scene.ReadFrom raws manifest.scenes
  scenes : ∀ scene ∈ manifest.scenes, ∃ seconds, scene.shown? = some seconds ∧
    scene.Sound assets seen seconds
  first : ∀ scene ∈ manifest.scenes.head?, scene.transition = some .cut
  joined : manifest.scenes.IsChain Scene.Joins

end Montage
