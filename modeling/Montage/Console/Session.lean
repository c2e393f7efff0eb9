import Montage.Console.Report
import Montage.Console.Request
import Montage.Job.Submission
import Montage.Manifest.Composition
import Montage.Probe
import Montage.Publication.Directory
import Montage.Tool.Preflight

/-!
A session on the command line: what was asked for is carried out and reported line by line.
-/

namespace Montage

/-- What a session relies on: the tool, the clock of its jobs and the time at which it is held. -/
structure Console where
  toolbox : Toolbox
  clock : Nat → Instant
  now : Instant

/-- How a session ends. -/
inductive Ending where
  | done
  | failed
  /-- The usage was shown because it was asked for. -/
  | helped
  /-- The usage was shown because no command was named. -/
  | idle
  | misused (misuse : Misuse)
  deriving DecidableEq, Repr

/-- The exit code of a session. -/
def Ending.code : Ending → Nat
  | done | helped => 0
  | failed | idle => 1
  | misused _ => 2

/-- The ending of a session whose command line could not be read to its end. -/
def Ending.ofStop : Stop → Ending
  | .help => helped
  | .noCommand => idle
  | .misuse misuse => misused misuse

/-- A file as an upload, its media type guessed from its name. -/
def Upload.ofText (path : String) : Upload :=
  .ofPath (Path.ofText path) (MediaType.guess? path)

namespace Submission

/-- The settings of the publication. -/
def publishRequest (submission : Submission) : PublishRequest :=
  let setting := fun (text : Option String) => (text.map Value.text).getD .null
  { privacy := setting submission.privacy
    tags := .list (submission.tags.map Value.text)
    category := setting submission.category
    publishAt := setting submission.publishAt }

/-- The files that come with an image or with a manifest, in the order in which they are looked at. -/
def files (submission : Submission) (image : Option String) : List String :=
  image.toList ++ submission.audio :: submission.thumbnail.toList

/-- The request for an image. -/
def stillRequest (submission : Submission) (image : Option String) (options : PublishOptions) :
    StillRequest where
  image := image.map Upload.ofText
  audio := some (Upload.ofText submission.audio)
  duration := (submission.duration.map Value.int).getD .null
  title := submission.title
  description := submission.description
  options := options
  thumbnail := submission.thumbnail.map Upload.ofText

/-- The request for a manifest with its assets. -/
def compositionRequest (submission : Submission) (raw : Value) (assets : Named Upload)
    (options : PublishOptions) : CompositionRequest Number where
  assets := assets.map fun (id, upload) => (id, some upload)
  audio := some (Upload.ofText submission.audio)
  timeline := .raw raw
  title := submission.title
  description := submission.description
  options := options
  thumbnail := submission.thumbnail.map Upload.ofText

end Submission

/-- An operation on a studio without jobs, which is left behind in the end. -/
def Operation.alone {α β : Type} (operation : Operation α β) : Action β := fun workspace =>
  let (outcome, studio) := operation ⟨.empty .later, workspace⟩
  (outcome, studio.workspace)

/-- Makes the directory of a file, if it is missing. -/
def makeParent (file : Path) : Action Unit := do
  checkPath file.parent.text
  Action.alter fun disk => disk.ensureDirectories file.parent

/-- A file that is worked on has to be there. -/
def requireInput (path : String) : Action Unit := do
  match ← Action.look fun disk =>
      (disk.isThere (Path.ofText path).text).mapError Failure.system with
  | true => return
  | false => throw (.system (.absent ("Input not found: " ++ path)))

namespace Console

/-- The renderer, which calls the installed tool. -/
def renderer (console : Console) : Renderer := ⟨console.toolbox, none, stageTimeout⟩

/-- The prober, which asks the installed tool. -/
def prober (console : Console) : Prober Number := fun upload => do
  return .double (← probeUpload console.toolbox probeTimeout upload)

/-- The services for jobs whose videos are filed in a directory. -/
def services (console : Console) (directory : String) : Services Number :=
  console.renderer.services console.clock console.prober
    (Directory.publisher (Path.ofText directory))

/-- Prints lines in order. -/
def printAll (lines : List String) : Action Unit :=
  lines.forM Action.print

/-- Checks a manifest and reports on it and its scenes. -/
def checkManifest (console : Console) (path : String) (assets : List String) :
    Action (Manifest Number × Named Upload) := do
  let (raw, uploads) ← Action.look (loadComposition path assets)
  let manifest ← validate console.prober uploads raw
  Action.print (← Action.compute manifest.summary)
  for (scene, index) in manifest.scenes.zipIdx do
    Action.print (← Action.compute (scene.summary index))
  return (manifest, uploads)

/-- Renders a manifest to a file. -/
def render (console : Console) (path : String) (assets : List String) (audio output : String) :
    Action Unit := do
  let (manifest, uploads) ← console.checkManifest path assets
  let paths := uploads.filterMap fun (id, upload) => upload.path?.map (id, ·)
  let plan ← Action.lift (manifest.plan paths (Path.ofText audio))
  makeParent (Path.ofText output)
  printAll ["", "Rendering " ++ digitsOf plan.scenes.length ++ " scenes...",
    "Writing to: " ++ output]
  console.renderer.render plan (Path.ofText output)
  printAll ["", "Done: " ++ output]

/-- Renders an image over a soundtrack to a file. -/
def still (console : Console) (image audio : String) (duration : Binary64) (output : String) :
    Action Unit := do
  requireInput image
  requireInput audio
  makeParent (Path.ofText output)
  Action.print ("Generating " ++ duration.fixed 1 ++ "s video from " ++ image)
  console.renderer.renderStill (Path.ofText image) (Path.ofText audio) duration (Path.ofText output)
  Action.print ("Done: " ++ output)

/-- Enters the job for a submission. -/
def enter (console : Console) (submission : Submission) (options : PublishOptions) :
    Operation Number JobId := do
  let services := console.services submission.directory
  match submission.footage with
  | .manifest path =>
    let (raw, assets) ← Operation.act (Action.look (loadComposition path submission.assets))
    Operation.act (Action.lift ((submission.files none).forM checkAddress))
    Operation.submitComposition services (submission.compositionRequest raw assets options)
  | .image image =>
    Operation.act (Action.lift ((submission.files image).forM checkAddress))
    Operation.submitStill services (submission.stillRequest image options)

/-- Submits a job and waits for its end. -/
def submit (console : Console) (submission : Submission) : Action JobStatus := do
  let options ← Action.lift (submission.publishRequest.check console.now)
  Operation.alone do
    let job ← console.enter submission options
    Operation.act (Action.print ("Submitted job " ++ job))
    Operation.performAll (console.services submission.directory)
    Operation.wait job

/-- Checks the tool and reports what it says about itself. -/
def checkTool (console : Console) : Action Ending := do
  match ← (console.toolbox.check).attempt with
  | .ok line =>
    Action.print line
    return .done
  | .error (.tool error) =>
    Action.note (.warned error.message)
    return .failed
  | .error failure => throw failure

/-- Carries out what was asked for. -/
def carryOut (console : Console) : Request → Action Ending
  | .validate manifest assets => do
    let _ ← console.checkManifest manifest assets
    Action.print "All assets verified."
    return .done
  | .render manifest assets audio output => do
    console.render manifest assets audio output
    return .done
  | .still image audio duration output => do
    console.still image audio duration output
    return .done
  | .submit submission => do
    let status ← console.submit submission
    printAll status.summary
    return if status.state = .failed then .failed else .done
  | .check => console.checkTool

/-- Holds a session for a command line. -/
def run (console : Console) (line : List String) : Action Ending :=
  match Request.read line with
  | .ok request => console.carryOut request
  | .error stop => return .ofStop stop

end Console

end Montage
