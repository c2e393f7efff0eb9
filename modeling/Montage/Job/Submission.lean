import Montage.Job.Worker

/-!
Submissions of jobs: their inputs are checked and copied, then the job is entered and its task
handed over.
-/

namespace Montage

/-- A request for an image over a soundtrack. -/
structure StillRequest where
  image : Option Upload
  audio : Option Upload
  duration : Value
  title : String
  description : String
  options : PublishOptions
  thumbnail : Option Upload

/-- A timeline, as a caller writes it or checked already. -/
inductive Timeline (α : Type) where
  | raw (value : Value)
  | checked (manifest : Manifest α)

/-- A request for a timeline. -/
structure CompositionRequest (α : Type) where
  assets : Named (Option Upload)
  audio : Option Upload
  timeline : Timeline α
  title : String
  description : String
  options : PublishOptions
  thumbnail : Option Upload

/-- The shortest video of an image, in seconds. -/
def minStillSeconds : Nat := 1

/-- A duration of an image. Truth values are none. -/
def checkDuration (value : Value) : Except Failure Number :=
  let check := fun (number : Number) =>
    if (Number.int minStillSeconds).le number && number.le (.int maxTotalSeconds) then .ok number
    else .error (outside)
  match value with
  | .bool _ => .error outside
  | .int whole => check (.int whole)
  | .double number => check (.double number)
  | _ => .error (.fault .wrongKind)
where
  /-- The duration is too short or too long. -/
  outside : Failure :=
    .invalid (.named "duration")
      (.outside (digitsOf minStillSeconds) (digitsOf maxTotalSeconds) " seconds")

/-- The making of copies, with those made so far. -/
abbrev Staging (β : Type) := ExceptT Failure (StateM (Workspace × List Path)) β

namespace Staging

/-- Copies an upload, which has to be there. -/
def copy (upload : Option Upload) (purpose : String) (suffix : Upload → String) : Staging Path :=
  fun (workspace, staged) =>
    match upload with
    | none => (.error (.fault .notText), workspace, staged)
    | some upload =>
      match stage upload purpose (suffix upload) workspace with
      | (.ok path, workspace) => (.ok path, workspace, staged ++ [path])
      | (.error failure, workspace) => (.error failure, workspace, staged)

/-- Copies a thumbnail, if there is one. -/
def copyThumbnail (upload : Option Upload) : Staging (Option Thumbnail) := do
  match upload with
  | none => return none
  | some upload =>
    let image ← copy (some upload) "thumbnail-" fun upload => thumbnailSuffix upload.contentType
    return some ⟨image, upload.contentType⟩

/-- Copies assets in order. -/
def copyAssets : Named (Option Upload) → Staging (Named Path)
  | [] => return []
  | (id, upload) :: rest => do
    let path ← copy upload "composition-asset-" assetSuffix
    return (id, path) :: (← copyAssets rest)

/-- Copies with a list of all of them. If the system refuses one, those made before are taken away
again. -/
def collect {β : Type} (staging : Staging β) : Action (β × List Path) := fun workspace =>
  match staging (workspace, []) with
  | (.ok copies, workspace, staged) => (.ok (copies, staged), workspace)
  | (.error (.system error), workspace, staged) =>
    (.error (.system error), discardAll staged workspace)
  | (.error failure, workspace, _) => (.error failure, workspace)

end Staging

/-- The copies of the inputs of an image over a soundtrack. -/
def StillRequest.copies (request : StillRequest) : Staging (Path × Path × Option Thumbnail) := do
  let image ← Staging.copy request.image "image-" assetSuffix
  let audio ← Staging.copy request.audio "audio-" audioSuffix
  return (image, audio, ← Staging.copyThumbnail request.thumbnail)

namespace CompositionRequest

variable {α : Type}

/-- The copies of the inputs of a timeline. -/
def copies (request : CompositionRequest α) : Staging (Path × Named Path × Option Thumbnail) := do
  let audio ← Staging.copy request.audio "composition-audio-" audioSuffix
  let assets ← Staging.copyAssets request.assets
  return (audio, assets, ← Staging.copyThumbnail request.thumbnail)

/-- The timeline, checked against the assets. -/
def manifest [Quantity α] (request : CompositionRequest α) (prober : Prober α) :
    Action (Manifest α) :=
  match request.timeline with
  | .checked manifest => return manifest
  | .raw value =>
    let uploads := request.assets.filterMap fun (id, upload) => upload.map (id, ·)
    validate prober uploads value

end CompositionRequest

namespace Operation

variable {α : Type} [Quantity α]

/-- Copies the inputs of a job, enters it and hands its task over. -/
def enter {β : Type} (services : Services α) (options : PublishOptions) (staging : Staging β)
    (task : JobId → β → Task α) : Operation α JobId := do
  let (copies, owned) ← act staging.collect
  let job ← register services.clock options
  dispatch services (task job copies) owned
  return job

/-- The task of an image over a soundtrack. -/
def stillTask (request : StillRequest) (duration : Number) (job : JobId) :
    Path × Path × Option Thumbnail → Task α
  | (image, audio, thumbnail) => {
    job, audio, thumbnail, work := .still image duration, title := request.title
    description := request.description, options := request.options }

/-- The task of a timeline. -/
def compositionTask (request : CompositionRequest α) (manifest : Manifest α) (job : JobId) :
    Path × Named Path × Option Thumbnail → Task α
  | (audio, assets, thumbnail) => {
    job, audio, thumbnail, work := .composition manifest assets, title := request.title
    description := request.description, options := request.options }

/-- Submits an image over a soundtrack. -/
def submitStill (services : Services α) (request : StillRequest) : Operation α JobId := do
  let duration ← act (Action.lift (checkDuration request.duration))
  enter services request.options request.copies (stillTask request duration)

/-- Submits a timeline. -/
def submitComposition (services : Services α) (request : CompositionRequest α) :
    Operation α JobId := do
  let manifest ← act (request.manifest services.prober)
  enter services request.options request.copies (compositionTask request manifest)

end Operation

end Montage
