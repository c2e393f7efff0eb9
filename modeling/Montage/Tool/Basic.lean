import Montage.File.Disk
import Montage.Number.Quantity
import Montage.Text.Blank

/-!
The external tool that renders and probes: how it is called and what it reports.
-/

namespace Montage

/-- What the tool reports: its exit code, none if it did not end by itself, all it wrote, and
whether it was stopped for taking too long. -/
structure ToolResult where
  exit : Option Int
  output : String
  timedOut : Bool
  deriving DecidableEq, Repr

/-- The tool ended in time and reports success. -/
def ToolResult.ok (result : ToolResult) : Bool :=
  !result.timedOut && result.exit == some 0

/-- A call of the tool for a stage, with what its input files held at the time. -/
structure Call where
  stage : String
  arguments : List String
  timeout : Number
  inputs : List (Option Bytes)
  deriving DecidableEq

/-- The files that arguments name as inputs. -/
def inputsOf : List String → List String
  | "-i" :: file :: rest => file :: inputsOf rest
  | _ :: rest => inputsOf rest
  | [] => []

/-- A call with what its inputs hold on a disk. -/
def Call.make (stage : String) (arguments : List String) (timeout : Number) (disk : Disk) : Call :=
  ⟨stage, arguments, timeout, (inputsOf arguments).map disk.file?⟩

/-- A way to run the tool. It may depend on the calls made before, and it can touch files. -/
abbrev Runner := (past : List Call) → Call → Disk → Except SystemError ToolResult × Disk

/-- Where the tool is: what the environment says, and the copy that came with the program. -/
structure Installation where
  configured : Option String
  bundled : String
  deriving DecidableEq, Repr

/-- What the environment says without the blanks around it, empty if it says nothing. -/
def Installation.setting (installation : Installation) : String :=
  Text.trim (installation.configured.getD "")

/-- The tool that is called. -/
def Installation.tool (installation : Installation) : String :=
  if installation.setting.isEmpty then installation.bundled else installation.setting

/-- An installed tool and the way to run it. -/
structure Toolbox where
  installation : Installation
  run : Runner

end Montage
