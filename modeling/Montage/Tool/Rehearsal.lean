import Montage.Text.Utf8
import Montage.Tool.Basic

/-!
A stand-in for the tool, which follows a script instead of touching media.

A stage that the script does not speak of is played by rule: a probe reports what the file says, a
check of the installation shows a banner, and any other stage writes its own name to its output.
-/

namespace Montage.Rehearsal

/-- What the stand-in does at a stage. -/
inductive Part where
  | refuse (message : String)
  | report (result : ToolResult)
  deriving DecidableEq

/-- A line of the script: a stage, a star for all of them, and what happens. -/
structure Cue where
  stage : String
  part : Part
  deriving DecidableEq

/-- The part for a stage. -/
def part? (script : List Cue) (stage : String) : Option Part :=
  (script.find? fun cue => cue.stage == stage || cue.stage == "*").map Cue.part

/-- The last argument. -/
def lastArgument (call : Call) : String :=
  call.arguments.getLast?.getD ""

/-- What is done at a stage that the script does not speak of. -/
def improvise (call : Call) (disk : Disk) : Except SystemError ToolResult × Disk :=
  let file := lastArgument call
  if call.stage == "probe" then
    let report := (disk.file? file).map Text.decodeUtf8
    (.ok ⟨some 1, report.getD "no such file", false⟩, disk)
  else if call.stage == "preflight" then
    (.ok ⟨some 0, "ffmpeg version fake\nbuilt for rehearsal", false⟩, disk)
  else
    match disk.write file (Text.encodeUtf8 call.stage) with
    | .ok disk => (.ok ⟨some 0, "ok", false⟩, disk)
    | .error refusal => (.error (.refused refusal file), disk)

/-- The runner that follows a script. -/
def runner (script : List Cue) : Runner := fun _ call disk =>
  match part? script call.stage with
  | some (.refuse message) => (.error (.reported message), disk)
  | some (.report result) => (.ok result, disk)
  | none => improvise call disk

end Montage.Rehearsal
