import Montage.Text.Utf8
import Montage.Workspace

/-!
A check of the installed tool before work is given to it.
-/

namespace Montage

/-- How long the tool may take to say what it is. -/
def preflightTimeout : Number := .int 10

/-- The path that the environment gives leads to a file, if it gives one. -/
def Installation.checkSetting (installation : Installation) (disk : Disk) : Except Failure Unit :=
  let setting := installation.setting
  if setting.isEmpty || (disk.file? setting).isSome then .ok ()
  else
    let path := Path.absolute (Disk.pathOf disk.workingDirectory) (Path.ofText setting)
    .error (.tool (.notFound path.text))

/-- The first line that the tool says about itself, empty if it says nothing. -/
def Toolbox.check (toolbox : Toolbox) : Action String := do
  Action.look toolbox.installation.checkSetting
  let arguments := [toolbox.installation.tool, "-version"]
  match ← (toolbox.invoke "preflight" arguments preflightTimeout).attempt with
  | .error (.system _) => throw (.tool .unavailable)
  | .error failure => throw failure
  | .ok result =>
    if result.ok then return (Text.firstLine? result.output).getD ""
    else throw (.tool .unavailable)

end Montage
