import Montage.Failure
import Montage.Text.Letter
import Montage.Text.Search

/-!
Files as received from callers, and the suffixes that copies of them get.
-/

namespace Montage

/-- Where the content of an upload is. -/
inductive Source where
  | bytes (content : Bytes)
  | file (path : Path)
  | nothing
  deriving DecidableEq

/-- A received file with the media type and the name that its sender declared. -/
structure Upload where
  contentType : Option String
  filename : Option String
  source : Source
  deriving DecidableEq

namespace Upload

/-- An upload of a file. -/
def ofPath (path : Path) (contentType : Option String) : Upload :=
  ⟨contentType, some path.name, .file path⟩

/-- An upload of bytes. -/
def ofBytes (content : Bytes) (contentType filename : Option String) : Upload :=
  ⟨contentType, filename, .bytes content⟩

/-- The file of an upload that is one. -/
def path? (upload : Upload) : Option Path :=
  match upload.source with
  | .file path => some path
  | _ => none

/-- There is nothing to read, or no file to read it from. -/
def isEmpty (upload : Upload) (disk : Disk) : Except Failure Bool :=
  match upload.source with
  | .bytes content => .ok content.isEmpty
  | .nothing => .ok true
  | .file path =>
    match disk.status path.text with
    | .ok (.file content) => .ok content.isEmpty
    | .error .tooLong => .error (.system (.refused .tooLong path.text))
    | _ => .ok true

/-- The content. -/
def content (upload : Upload) (disk : Disk) : Except Failure Bytes :=
  match upload.source with
  | .bytes content => .ok content
  | .nothing => .error (.fault .wrongKind)
  | .file path =>
    if path.text.toList.contains '\x00' then .error (.argument .nullByte)
    else (disk.read path.text).mapError fun refusal => .system (.refused refusal path.text)

end Upload

/-- Suffixes of scene assets by what their media types contain. -/
def assetSuffixes : List (String × String) :=
  [("png", ".png"), ("jpeg", ".jpg"), ("jpg", ".jpg"), ("gif", ".gif"), ("webm", ".webm"),
   ("quicktime", ".mov"), ("ogg", ".ogv")]

/-- Suffixes of soundtracks by what their media types contain. -/
def audioSuffixes : List (String × String) :=
  [("wav", ".wav"), ("ogg", ".ogg"), ("aac", ".aac")]

/-- The first suffix of a table whose key a media type contains, in small letters. -/
def suffixFor (contentType : Option String) (table : List (String × String)) (default : String) :
    String :=
  let lowered := (Text.lower (contentType.getD "")).toList
  ((table.find? fun (part, _) => Text.holds lowered part.toList).map Prod.snd).getD default

/-- The suffix of a scene asset: that of its name, else by its media type. -/
def assetSuffix (upload : Upload) : String :=
  let named := (upload.filename.map fun filename => (Path.ofText filename).suffix).getD ""
  if named.length > 1 then named else suffixFor upload.contentType assetSuffixes ".mp4"

/-- The suffix of a soundtrack. -/
def audioSuffix (upload : Upload) : String :=
  suffixFor upload.contentType audioSuffixes ".mp3"

/-- The suffix of a thumbnail. -/
def thumbnailSuffix (contentType : Option String) : String :=
  suffixFor contentType [("png", ".png")] ".jpg"

end Montage
