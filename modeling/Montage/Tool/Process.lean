import Montage.Text.Utf8
import Montage.Tool.Basic

/-!
What is reported of a process: all that it wrote to either stream, as text.
-/

namespace Montage

/-- How a process ended. -/
inductive ProcessEnd where
  | exited (code : Nat)
  | killed (signal : Nat)
  /-- It was stopped for taking too long. -/
  | outOfTime
  deriving DecidableEq, Repr

/-- What a process wrote to both streams, in order, and how it ended. -/
structure Transcript where
  written : Bytes
  ending : ProcessEnd
  deriving DecidableEq

namespace Transcript

/-- What was written as text, with every line end as a newline. -/
def report (transcript : Transcript) : String :=
  String.ofList (Text.unifyNewlines (Text.decodeUtf8 transcript.written).toList)

/-- The report of a process. The number of a signal counts as negative, and the text of a process
that was stopped is left as it is. -/
def result (transcript : Transcript) : ToolResult :=
  match transcript.ending with
  | .exited code => ⟨some code, transcript.report, false⟩
  | .killed signal => ⟨some (-(signal : Int)), transcript.report, false⟩
  | .outOfTime => ⟨none, Text.decodeUtf8 transcript.written, true⟩

end Transcript

end Montage
