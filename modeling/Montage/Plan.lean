import Montage.Failure
import Montage.Named
import Montage.Scene

/-!
Render plans: a manifest with every choice made.

Each scene has its duration, its start and its transition; a cut is a transition of length zero.
-/

namespace Montage

/-- A scene as it is rendered. -/
structure ScenePlan (α : Type) where
  asset : String
  kind : SceneKind
  duration : α
  clipStart : α
  motion : Motion
  caption : Option (Caption α)
  transition : TransitionKind
  transitionLength : α
  visualEdit : Option (VisualEdit α)
  deriving DecidableEq

/-- What is rendered, from which files. -/
structure RenderPlan (α : Type) where
  preset : Preset
  scenes : List (ScenePlan α)
  audio : Path
  assetPaths : Named Path
  total : α
  deriving DecidableEq

/-- A scene after the first begins with a crossfade. -/
def RenderPlan.hasCrossfade {α : Type} (plan : RenderPlan α) : Bool :=
  (plan.scenes.drop 1).any (·.transition == .crossfade)

variable {α : Type} [Quantity α]

/-- The transition of a scene as its kind and length, a cut having length zero. -/
def Scene.plannedTransition (scene : Scene α) : TransitionKind × Option α :=
  match scene.crossfade? with
  | some length => (.crossfade, length)
  | none => (.cut, some (Quantity.ofDouble .zero))

/-- A scene as it is rendered, and the timeline's length with it. A crossfade overlaps the scene
before, so its length does not count. -/
def Scene.plan (paths : Named Path) (index : Nat) (scene : Scene α) (total : α) :
    Except Failure (ScenePlan α × α) :=
  if (paths.get? scene.asset).isNone then
    .error (.invalid ((Field.scene index).member "assetId") (.unresolvedAsset scene.asset))
  else
    let (transition, length) := scene.plannedTransition
    match scene.shown?, length with
    | some duration, some length =>
      match Quantity.sub duration length >>= Quantity.add total with
      | .error fault => .error (.fault fault)
      | .ok total =>
        let clipStart :=
          if Quantity.isZero scene.clipStart then Quantity.ofDouble .zero else scene.clipStart
        .ok ({
          asset := scene.asset
          kind := scene.kind
          duration
          clipStart
          motion := scene.motion
          caption := scene.caption
          transition
          transitionLength := length
          visualEdit := scene.visualEdit }, total)
    | _, _ => .error (.fault .wrongKind)

/-- Scenes from `index` on as they are rendered, and the timeline's length with them. -/
def planScenes (paths : Named Path) (index : Nat) (total : α) :
    List (Scene α) → Except Failure (List (ScenePlan α) × α)
  | [] => .ok ([], total)
  | scene :: rest => do
    let (planned, total) ← scene.plan paths index total
    let (later, total) ← planScenes paths (index + 1) total rest
    return (planned :: later, total)

/-- The plan for a manifest, with a file for every asset and for the soundtrack. -/
def Manifest.plan (manifest : Manifest α) (paths : Named Path) (audio : Path) :
    Except Failure (RenderPlan α) :=
  if manifest.scenes.isEmpty then .error (.invalid Field.scenes .noScenes)
  else do
    let (scenes, total) ← planScenes paths 0 (Quantity.ofDouble .zero) manifest.scenes
    return { preset := manifest.preset, scenes, audio, assetPaths := paths, total }

end Montage
