import Montage.Filter.Graph

/-!
Arguments of the tool for each stage of a rendering.
-/

namespace Montage

/-- Arguments that choose how video is encoded. -/
def videoCodec : List String :=
  ["-c:v", "libx264", "-preset", "veryfast", "-crf", "23", "-pix_fmt", "yuv420p"]

/-- Arguments that choose how audio is encoded. -/
def audioCodec : List String :=
  ["-c:a", "aac", "-b:a", "192k"]

variable {α : Type} [Quantity α]

/-- Renders an image as a clip. -/
def imageCommand (tool : String) (scene : ScenePlan α) (asset : Path) (width height : Int)
    (output : Path) : Except Fault (List String) := do
  return [tool, "-y", "-loop", "1", "-i", asset.text, "-t", ← decimals scene.duration,
      "-vf", ← scene.chain width height, "-r", digitsOf frameRate, "-an"] ++
    videoCodec ++ [output.text]

/-- Cuts a clip out of a video. -/
def videoCommand (tool : String) (scene : ScenePlan α) (asset : Path) (width height : Int)
    (output : Path) : Except Fault (List String) := do
  return [tool, "-y", "-ss", ← decimals scene.clipStart, "-t", ← decimals scene.duration,
      "-i", asset.text, "-vf", ← scene.chain width height, "-an", "-r", digitsOf frameRate] ++
    videoCodec ++ [output.text]

/-- Renders a scene as a clip. -/
def ScenePlan.command (scene : ScenePlan α) (tool : String) (asset : Path) (preset : Preset)
    (output : Path) : Except Fault (List String) :=
  match scene.kind with
  | .image => imageCommand tool scene asset preset.width preset.height output
  | .video => videoCommand tool scene asset preset.width preset.height output

/-- Renders the scene at a position of a plan. -/
def RenderPlan.sceneCommand (plan : RenderPlan α) (tool : String) (index : Int) (output : Path) :
    Except Fault (List String) := do
  let position := if index < 0 then index + plan.scenes.length else index
  match plan.scenes[position.toNat]? with
  | some scene =>
    if position < 0 then .error .outOfBounds
    else
      match plan.assetPaths.get? scene.asset with
      | some asset => scene.command tool asset plan.preset output
      | none => .error .unknownKey
  | none => .error .outOfBounds

/-- The graph that joins clips, by crossfades or without. -/
def joinGraph (clips : List Path) (scenes : List (ScenePlan α)) (crossfade : Bool) :
    Except Fault FilterGraph :=
  if crossfade then return (← crossfadeGraph scenes).1
  else return concatGraph clips.length

/-- Joins clips. -/
def combineCommand (tool : String) (clips : List Path) (scenes : List (ScenePlan α))
    (output : Path) (crossfade : Bool) : Except Fault (List String) := do
  let graph ← joinGraph clips scenes crossfade
  return [tool, "-y"] ++ clips.flatMap (fun clip => ["-i", clip.text]) ++
    ["-filter_complex", graph.text, "-map", bracketed graph.output] ++ videoCodec ++
    [output.text]

/-- Loops a soundtrack under a video until the video ends. -/
def muxCommand (tool : String) (audio visual output : Path) : List String :=
  [tool, "-y", "-stream_loop", "-1", "-i", audio.text, "-i", visual.text, "-map", "1:v:0",
    "-map", "0:a:0", "-c:v", "copy"] ++ audioCodec ++ ["-shortest", output.text]

/-- Shows one image over a looped soundtrack for a duration. -/
def stillCommand (tool : String) (image audio : Path) (duration : α) (output : Path) :
    Except Fault (List String) := do
  return [tool, "-loop", "1", "-i", image.text, "-stream_loop", "-1", "-i", audio.text,
      "-vf", "scale=trunc(iw/2)*2:trunc(ih/2)*2"] ++ videoCodec ++ audioCodec ++
    ["-t", ← decimals duration, "-shortest", "-y", output.text]

end Montage
