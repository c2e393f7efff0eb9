import Montage.Command
import Montage.Text.Utf8
import Montage.Workspace

/-!
Rendering a plan stage by stage in a temporary directory: a clip for each scene, the clips joined,
the soundtrack laid under them. The directory is taken away in the end, whatever happens.
-/

namespace Montage

/-- How long a stage may take if nothing is said. -/
def stageTimeout : Number := .int 600

/-- A toolbox with the tool to call, if not the installed one, and the time that a stage has. -/
structure Renderer where
  toolbox : Toolbox
  tool : Option String
  timeout : Number

namespace Renderer

/-- The tool that is called. -/
def toolName (renderer : Renderer) : String :=
  match renderer.tool with
  | some tool => if tool.isEmpty then renderer.toolbox.installation.tool else tool
  | none => renderer.toolbox.installation.tool

/-- Runs a stage, which has to succeed. -/
def runStage (renderer : Renderer) (stage : String) (arguments : List String) : Action Unit := do
  match ← (renderer.toolbox.invoke stage arguments renderer.timeout).attempt with
  | .error (.system cause) => throw (.render stage (.notStarted cause))
  | .error failure => throw failure
  | .ok result =>
    if result.timedOut then throw (.render stage (.timedOut result.output))
    else if result.exit != some 0 then
      throw (.render stage (.failed result.exit result.output))
    else return ()

variable {α : Type} [Quantity α]

/-- The stage that renders the scene at a position. -/
def sceneStage (index : Nat) : String := "render scene " ++ digitsOf index

/-- The stage that joins clips. -/
def combineStage : String := "combine scene clips"

/-- The stage that lays the soundtrack under the video. -/
def muxStage : String := "mux audio and visual tracks"

/-- The clip of the scene at a position. -/
def clipPath (directory : Path) (index : Nat) : Path :=
  directory.child ("scene-" ++ digitsOf index ++ ".mp4")

/-- Renders the scenes from a position on as clips. -/
def renderScenes (renderer : Renderer) (plan : RenderPlan α) (directory : Path) (index : Nat) :
    List (ScenePlan α) → Action (List Path)
  | [] => return []
  | scene :: rest => do
    match plan.assetPaths.get? scene.asset with
    | none => throw (.argument (.missingAssetPath scene.asset))
    | some asset =>
      let clip := clipPath directory index
      let arguments ← Action.compute (scene.command renderer.toolName asset plan.preset clip)
      renderer.runStage (sceneStage index) arguments
      return clip :: (← renderScenes renderer plan directory (index + 1) rest)

/-- Joins clips into one video. A single clip is copied. -/
def joinClips (renderer : Renderer) (plan : RenderPlan α) (clips : List Path) (visual : Path) :
    Action Unit := do
  match clips with
  | [clip] => Action.change fun disk => disk.copyFile clip.text visual.text
  | clips =>
    let arguments ← Action.compute
      (combineCommand renderer.toolName clips plan.scenes visual plan.hasCrossfade)
    renderer.runStage combineStage arguments

/-- Renders a plan to a file. -/
def render (renderer : Renderer) (plan : RenderPlan α) (output : Path) : Action Unit := do
  if plan.scenes.isEmpty then throw (.argument .emptyPlan)
  let directory ← makeFresh "composition-" "" .directory
  let visual := directory.child "visual.mp4"
  let stages : Action Unit := do
    let clips ← renderer.renderScenes plan directory 0 plan.scenes
    renderer.joinClips plan clips visual
    renderer.runStage muxStage (muxCommand renderer.toolName plan.audio visual output)
  stages.ensure (discard directory)

/-- Renders one image over a looped soundtrack to a file. -/
def renderStill (renderer : Renderer) (image audio : Path) (duration : α) (output : Path) :
    Action Unit := do
  let arguments ← Action.compute
    (stillCommand renderer.toolName image audio duration output)
  renderer.runStage "render still video" arguments

end Renderer

end Montage
