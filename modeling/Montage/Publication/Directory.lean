import Montage.Publication.Publisher
import Montage.Upload
import Montage.Yaml.Printer

/-!
A directory as a destination: a video is filed there under a fresh id, with a record of what it is
beside it.
-/

namespace Montage.Directory

/-- The record of a video. -/
def record (title description : String) (options : PublishOptions) : String :=
  let text := fun (value : Option String) => (value.map Yaml.Entry.text).getD .nothing
  Yaml.print [
    ("title", .text title),
    ("description", .text description),
    ("privacy", .text options.privacy.record),
    ("tags", .list options.tags),
    ("category", text options.category),
    ("publish_at", text (options.publishAt.map Instant.text))]

/-- The file of a video. -/
def videoPath (root : Path) (id : String) : Path :=
  root.child (id ++ ".mp4")

/-- The file of the record of a video. -/
def recordPath (root : Path) (id : String) : Path :=
  root.child (id ++ ".yaml")

/-- The file of a thumbnail. -/
def thumbnailPath (root : Path) (id : String) (contentType : Option String) : Path :=
  root.child (id ++ ".thumbnail" ++ thumbnailSuffix contentType)

/-- How many digits of an id name a video. -/
def idLength : Nat := 11

/-- Files a video and its record. -/
def fileVideo (root video : Path) (id title description : String) (options : PublishOptions) :
    Action Unit := do
  checkPath root.text
  Action.alter fun disk => disk.ensureDirectories root
  checkPath video.text
  Action.change fun disk => disk.copyFile video.text (videoPath root id).text
  let target := (recordPath root id).text
  Action.change fun disk =>
    (disk.write target (Text.encodeUtf8 (record title description options))).mapError
      (.refused · target)

/-- Publishes a video under a fresh id. -/
def upload (root video : Path) (title description : String) (options : PublishOptions) :
    Action Artifact := do
  let id := String.ofList ((← freshId).take idLength)
  match ← (fileVideo root video id title description options).attempt with
  | .ok _ => return ⟨id, none⟩
  | .error (.system cause) => throw (.publish (.notFiled video.text root.text cause))
  | .error failure => throw failure

/-- Files a thumbnail beside a video. -/
def illustrate (root : Path) (id : String) (image : Path) (contentType : Option String) :
    Action Unit := do
  let target := (thumbnailPath root id contentType).text
  checkPath image.text
  checkPath target
  match ← (Action.change fun disk => disk.copyFile image.text target).attempt with
  | .ok _ => return
  | .error (.system cause) => throw (.publish (.thumbnailNotFiled id cause))
  | .error failure => throw failure

/-- The address of the file of a video, none for an empty id. -/
def address (root : Path) (id : String) : Action (Option String) := do
  if id.isEmpty then return none
  let file := videoPath root id
  checkPath file.text
  Action.look fun disk =>
    .ok (some (Path.resolve (Disk.pathOf disk.workingDirectory) file).address)

/-- The directory as a destination. -/
def publisher (root : Path) : Publisher :=
  ⟨upload root, illustrate root, address root⟩

end Montage.Directory
