import Montage.Job.Status

/-!
What is printed about manifests and jobs.
-/

namespace Montage

variable {α : Type} [Quantity α]

/-- Seconds with their unit, with so many places. -/
def secondsText (places : Nat) (seconds : α) : Except Fault String := do
  return (← Quantity.fixed places seconds) ++ "s"

/-- The kind of a transition, and its length unless that is zero. -/
def Transition.summary (transition : Transition α) : Except Fault String :=
  let kind := Worded.word transition.kind
  match transition.length with
  | none => .ok kind
  | some length =>
    if Quantity.isZero length then .ok kind
    else do return kind ++ " " ++ (← secondsText 2 length)

/-- The line about the scene at a position. -/
def Scene.summary (index : Nat) (scene : Scene α) : Except Fault String := do
  match scene.transition, scene.shown? with
  | none, _ => throw .notText
  | _, none => throw .wrongKind
  | some transition, some shown =>
    let transition ← transition.summary
    return "  " ++ digitsOf index ++ ": " ++ Worded.word scene.kind ++ " " ++ scene.asset ++ " " ++
      (← secondsText 3 shown) ++ " <- " ++ transition

/-- The line about a manifest as a whole. -/
def Manifest.summary (manifest : Manifest α) : Except Fault String := do
  let preset := manifest.preset
  return "Manifest valid: " ++ digitsOf manifest.scenes.length ++ " scenes, " ++
    Worded.word preset ++ " (" ++ digitsOf preset.width ++ "x" ++ digitsOf preset.height ++ "), " ++
    (← secondsText 3 manifest.total) ++ " total"

/-- The lines about a job. -/
def JobStatus.summary (status : JobStatus) : List String :=
  let nonEmpty := fun (text : Option String) => text.filter (!·.isEmpty)
  let artifact := match nonEmpty status.artifact with
    | some artifact =>
      ["  artifact: " ++ artifact, "  url:      " ++ status.address.getD "None"]
    | none => []
  let warning := match nonEmpty status.warning with
    | some warning => ["  warning:  " ++ warning]
    | none => []
  ["Job " ++ status.id ++ ": " ++ Worded.word status.state, "  " ++ status.message] ++
    artifact ++ warning

end Montage
