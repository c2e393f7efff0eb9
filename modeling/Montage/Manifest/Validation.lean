import Montage.Manifest.Dressing
import Montage.Named
import Montage.Workspace

/-!
Raw manifests checked against the uploaded assets and written out with all defaults.

Scenes are read in order. The first violation ends the reading.
-/

namespace Montage

/-- The most scenes of a timeline. -/
def maxScenes : Nat := 50

/-- The longest timeline in seconds. -/
def maxTotalSeconds : Nat := 36000

/-- How long an image can be shown, in seconds. -/
def imageBounds : Bounds := ⟨.ofDecimal false 5 (-1), .ofDecimal false 600 0⟩

/-- A way to find out how many seconds an upload lasts. -/
abbrev Prober (α : Type) := Upload → Action α

/-- What the media type of an asset has to start with. -/
def SceneKind.contentStart : SceneKind → String
  | .image => "image/"
  | .video => "video/"

/-- The asset of a scene has the media type of its kind. -/
def checkContentType (upload : Upload) (asset : String) (index : Nat) (kind : SceneKind) :
    Except Failure Unit :=
  let lowered := (Text.lower (upload.contentType.getD "")).toList
  if kind.contentStart.toList.isPrefixOf lowered then .ok ()
  else .error (.invalid (.asset asset) (.contentType kind.contentStart (Worded.word kind) index))

/-- The name of an asset without the blanks around it. -/
def readAssetId (value : Value) (field : Field) : Except Failure String :=
  match value with
  | .text text =>
    if Text.isBlankText text then .error (.invalid field .required) else .ok (Text.trim text)
  | _ => .error (.invalid field .required)

/-- The upload of an asset, which has to hold something. -/
def requireAsset (assets : Named Upload) (asset : String) (index : Nat) : Action Upload := do
  match assets.get? asset with
  | none => throw (.invalid (.asset asset) (.assetRequired index))
  | some upload =>
    if ← Action.look upload.isEmpty then throw (.invalid (.asset asset) (.assetRequired index))
    else return upload

/-- How long an image is shown. -/
def readImageDuration (entries : List (Value × Value)) (field : Field) (upload : Upload)
    (asset : String) (index : Nat) : Except Failure Binary64 := do
  checkContentType upload asset index .image
  if !(Value.field entries "clipDurationSec").isNull then
    throw (.invalid (field.member "clipDurationSec") .unsupportedForImage)
  let start := Value.field entries "clipStartSec"
  if !start.isNull then
    if epsilon.lt (← readNumber start (field.member "clipStartSec")) then
      throw (.invalid (field.member "clipStartSec") .startOfImage)
  let durationField := field.member "durationSec"
  let duration ← readNumber (Value.field entries "durationSec") durationField
  if imageBounds.allow duration then return duration
  else .error (.invalid durationField (imageBounds.violation " seconds"))

variable {α : Type} [Quantity α]

/-- How long a clip of a video is: what the scene says, else what is left of the video after the
start of the clip. -/
def readClipLength (prober : Prober α) (entries : List (Value × Value)) (field : Field)
    (upload : Upload) (asset : String) (index : Nat) (start : α) : Action α := do
  Action.lift (checkContentType upload asset index .video)
  if !(Value.field entries "durationSec").isNull then
    throw (.invalid (field.member "durationSec") .onlyForImage)
  let given := Value.field entries "clipDurationSec"
  if !given.isNull then
    let length ← Action.lift (readNumber given (field.member "clipDurationSec"))
    if length.le epsilon then throw (.invalid (field.member "clipDurationSec") .notPositive)
    return Quantity.ofDouble length
  match ← (prober upload).attempt with
  | .error (.probe cause) => throw (.invalid field (.noDuration cause))
  | .error failure => throw failure
  | .ok source =>
    let remaining ← Action.compute (Quantity.sub source start)
    if Quantity.le remaining (Quantity.ofDouble epsilon) then
      throw (.invalid (field.member "clipStartSec") .startBeyondSource)
    return remaining

/-- How long a scene is shown, by its kind. -/
def readShown (prober : Prober α) (entries : List (Value × Value)) (field : Field)
    (upload : Upload) (asset : String) (index : Nat) (start : α) : SceneKind → Action α
  | .image => Action.lift
      ((readImageDuration entries field upload asset index).map Quantity.ofDouble)
  | .video => readClipLength prober entries field upload asset index start

/-- The scene at a position, after a scene that is shown for some duration, and how long it is
shown itself. -/
def readScene (prober : Prober α) (assets : Named Upload) (index : Nat) (previous : α)
    (value : Value) : Action (Scene α × α) := do
  let field := Field.scene index
  if value.isNull then throw (.invalid field .nullScene)
  let entries ← Action.lift (readObject value field)
  let get := Value.field entries
  let asset ← Action.lift (readAssetId (get "assetId") (field.member "assetId"))
  let upload ← requireAsset assets asset index
  let kind ← Action.lift (requireWord (get "type") (field.member "type") SceneKind.image)
  let motion ← Action.lift (readWord (get "motion") (field.member "motion") Motion.none)
  let start ← Action.lift (readStart (get "clipStartSec") (field.member "clipStartSec"))
  let start : α := Quantity.ofDouble start
  let shown ← readShown prober entries field upload asset index start kind
  let caption ← Action.lift (readCaption (get "caption") field shown)
  let transition ← Action.lift (readTransition (get "transition") field index previous shown)
  let visualEdit ← Action.lift (readVisualEdit (get "visualEdit") field)
  let scene : Scene α := {
    asset, kind, motion, caption
    duration := if kind = .image then some shown else none
    clipStart := if kind = .image then Quantity.ofDouble .zero else start
    clipLength := if kind = .image then none else some shown
    transition := some transition
    visualEdit := some visualEdit }
  return (scene, shown)

/-- The length of a timeline that goes on with a scene. A crossfade overlaps the scene before. -/
def growTotal (total : α) (scene : Scene α) (shown : α) : Except Fault α := do
  let grown ← Quantity.add total shown
  match scene.crossfade? with
  | some (some length) => Quantity.sub grown length
  | _ => return grown

/-- The scenes from a position on and the length of the timeline with them. -/
def readScenes (prober : Prober α) (assets : Named Upload) (index : Nat) (previous total : α) :
    List Value → Action (List (Scene α) × α)
  | [] => return ([], total)
  | value :: rest => do
    let (scene, shown) ← readScene prober assets index previous value
    let total ← Action.compute (growTotal total scene shown)
    let (later, total) ← readScenes prober assets (index + 1) shown total rest
    return (scene :: later, total)

/-- The raw scenes of a manifest. -/
def listScenes (value : Value) : Except Failure (List Value) :=
  match value with
  | .list [] => .error (.invalid .scenes .noScenes)
  | .list scenes =>
    if scenes.length > maxScenes then .error (.invalid .scenes (.tooManyScenes maxScenes))
    else .ok scenes
  | _ => .error (.invalid .scenes .noScenes)

/-- A timeline is not longer than allowed. -/
def checkTotal (total : α) : Except Failure Unit := do
  let limit : α := Quantity.ofDouble (.nearestInt maxTotalSeconds)
  let limit ← (Quantity.add limit (Quantity.ofDouble epsilon)).mapError Failure.fault
  if Quantity.lt limit total then
    throw (.invalid .scenes (.timelineTooLong maxTotalSeconds))

/-- The manifest that a raw value writes, with all defaults, if it keeps all rules. -/
def validate (prober : Prober α) (assets : Named Upload) (value : Value) : Action (Manifest α) := do
  if value.isNull then throw (.invalid .manifest .required)
  let entries ← Action.lift (readObject value .manifest)
  let presetField := Field.manifest.member "outputPreset"
  let preset ← Action.lift
    (requireWord (Value.field entries "outputPreset") presetField Preset.landscape)
  let values ← Action.lift (listScenes (Value.field entries "scenes"))
  let zero : α := Quantity.ofDouble .zero
  let (scenes, total) ← readScenes prober assets 0 zero zero values
  Action.lift (checkTotal total)
  return { preset, scenes, total }

end Montage
