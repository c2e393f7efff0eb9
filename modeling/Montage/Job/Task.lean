import Montage.Job.Status
import Montage.Manifest.Validation
import Montage.Plan
import Montage.Publication.Publisher
import Montage.Renderer

/-!
What a job is to make and where it is to be published, and how that is carried out.
-/

namespace Montage

/-- What a job renders: an image over a soundtrack, or a timeline. -/
inductive Work (α : Type) where
  | still (image : Path) (duration : Number)
  | composition (manifest : Manifest α) (assets : Named Path)

/-- A thumbnail with the media type that its sender declared. -/
structure Thumbnail where
  image : Path
  contentType : Option String
  deriving DecidableEq, Repr

/-- A job with the copies of its inputs. -/
structure Task (α : Type) where
  job : JobId
  work : Work α
  audio : Path
  thumbnail : Option Thumbnail
  title : String
  description : String
  options : PublishOptions

/-- Those that jobs rely on. -/
structure Services (α : Type) where
  /-- The time at each reading of the clock. -/
  clock : Nat → Instant
  renderStill : (image audio : Path) → (duration : Number) → (output : Path) → Action Unit
  renderPlan : RenderPlan α → (output : Path) → Action Unit
  prober : Prober α
  publisher : Publisher

/-- The services of a renderer, together with the other ones. -/
def Renderer.services {α : Type} [Quantity α] (renderer : Renderer) (clock : Nat → Instant)
    (prober : Prober α) (publisher : Publisher) : Services α where
  clock := clock
  renderStill := renderer.renderStill
  renderPlan := renderer.render
  prober := prober
  publisher := publisher

/-- A published video with its address. -/
structure Publication where
  artifact : String
  address : Option String
  warning : Option String
  deriving DecidableEq, Repr

/-- What is said about a video whose thumbnail could not be published. -/
def thumbnailWarning : String := "Video uploaded, but thumbnail upload failed."

namespace Work

variable {α : Type}

/-- What the job says while it works. -/
def progress : Work α → String
  | still _ _ => "Generating video and uploading."
  | composition _ _ => "Generating composition and uploading."

/-- The name of the purpose of the rendered file. -/
def outputPurpose : Work α → String
  | still _ _ => "output-"
  | composition _ _ => "composition-output-"

/-- The copies of pictures and films. -/
def inputs : Work α → List Path
  | still image _ => [image]
  | composition _ assets => assets.map Prod.snd

/-- Renders over a soundtrack to a file. -/
def render [Quantity α] (services : Services α) (audio output : Path) : Work α → Action Unit
  | still image duration => services.renderStill image audio duration output
  | composition manifest assets => do
    let plan ← Action.lift (manifest.plan assets audio)
    services.renderPlan plan output

end Work

namespace Task

variable {α : Type}

/-- The copies that a task owns. -/
def inputs (task : Task α) : List Path :=
  task.work.inputs ++ task.audio :: (task.thumbnail.map Thumbnail.image).toList

/-- Publishes a rendered file. Only a thumbnail may fail. -/
def publish (services : Services α) (task : Task α) (video : Path) : Action Publication := do
  let publisher := services.publisher
  let artifact ← publisher.upload video task.title task.description task.options
  let warning ← match task.thumbnail with
    | none => pure artifact.warning
    | some thumbnail => do
      match ← (publisher.illustrate artifact.id thumbnail.image thumbnail.contentType).attempt with
      | .ok _ => pure artifact.warning
      | .error _ => pure (combineWarnings artifact.warning (some thumbnailWarning))
  return ⟨artifact.id, ← publisher.address artifact.id, warning⟩

/-- Renders and publishes. The file that was rendered to is returned whatever happens, if it could
be made. -/
def carryOut [Quantity α] (services : Services α) (task : Task α) :
    Action (Option Path × Except Failure Publication) := do
  match ← (makeFresh task.work.outputPurpose ".mp4" (.file [])).attempt with
  | .error failure => return (none, .error failure)
  | .ok output =>
    let steps : Action Publication := do
      task.work.render services task.audio output
      task.publish services output
    return (some output, ← steps.attempt)

end Task

end Montage
