import Montage.MediaType
import Montage.PathVariable
import Montage.Upload
import Montage.Workspace
import Montage.Yaml.Document

/-!
Manifest files with the files of their assets.

A manifest file names assets by paths, in which variables of the file can stand. A caller can name
further assets, and other files for those of the manifest.
-/

namespace Montage

/-- The plain text of a raw value. -/
def plainText (value : Value) : Except Failure String :=
  if value.writable then .ok value.plain else .error (.argument (.integerTooLong none))

/-- The entries of a raw value that may be absent. -/
def entriesOrEmpty (value : Value) : Except Failure (List (Value × Value)) :=
  if value.isFalsy then .ok []
  else
    match value with
    | .map entries => .ok entries
    | _ => .error (.fault .notText)

/-- The paths of assets by their ids, with variables replaced. -/
def resolvePaths (lookup : PathVariable.Variables) (entries : List (Value × Value)) :
    Except Failure (Named String) := do
  let pairs ← entries.mapM fun (id, path) => do
    let id ← plainText id
    return (id, ← PathVariable.resolve lookup (← plainText path))
  return Named.ofList pairs

/-- A raw manifest and the paths of its assets. -/
structure ManifestFile where
  entries : List (Value × Value)
  paths : Named String

namespace ManifestFile

/-- The manifest of a document, which has to be a map. -/
def ofValue (value : Value) : Except Failure ManifestFile :=
  match value with
  | .map entries => do
    let lookup := PathVariable.Variables.ofValue (Value.field entries "paths")
    let assets ← entriesOrEmpty (Value.field entries "assets")
    return ⟨entries, ← resolvePaths lookup assets⟩
  | _ => .error (.invalid .manifest .notObject)

/-- The manifest as a raw value, with the paths of its assets. -/
def value (file : ManifestFile) : Value :=
  let paths := file.paths.map fun (id, path) => (Value.text id, Value.text path)
  .map (Value.setEntry (.text "assets") (.map paths) file.entries)

/-- The manifest in a file. -/
def load (path : String) (disk : Disk) : Except Failure ManifestFile := do
  if path.toList.contains '\x00' then throw (.argument .nullByte)
  let content ← (disk.read path).mapError fun refusal => .system (.refused refusal path)
  match Text.decodeUtf8? content with
  | none => throw .notEncoded
  | some text => ofValue (← Yaml.read (Text.unifyNewlines text.toList))

end ManifestFile

/-- An asset as a caller names it: an id, a sign of equality and a path. -/
def readAssetArgument (argument : String) : Except Failure (String × String) :=
  let characters := argument.toList
  let id := Text.trimList (characters.takeWhile (· != '='))
  match characters.dropWhile (· != '=') with
  | _ :: rest =>
    let path := Text.trimList rest
    if id.isEmpty || path.isEmpty then .error (.argument (.assetArgument argument))
    else .ok (String.ofList id, String.ofList path)
  | [] => .error (.argument (.assetArgument argument))

/-- The paths of assets by their ids, as a caller names them. The last path of an id counts. -/
def readAssetArguments (arguments : List String) : Except Failure (Named String) := do
  return Named.ofList (← arguments.mapM readAssetArgument)

/-- Named things with others set over them. -/
def Named.over {β : Type} (named later : Named β) : Named β :=
  later.foldl (fun named (name, value) => named.set name value) named

/-- The files at paths as uploads, their media types guessed from their names. -/
def uploadsOf (paths : Named String) : Named Upload :=
  paths.map fun (id, path) => (id, .ofPath (Path.ofText path) (MediaType.guess? path))

/-- A media type is guessed from a path as from an address, so its host has to be one. -/
def checkAddress (path : String) : Except Failure Unit :=
  (Address.check path).mapError fun fault => .argument (.host fault)

/-- The files at paths as uploads, unless one of the paths cannot be an address. -/
def buildUploads (paths : Named String) : Except Failure (Named Upload) := do
  paths.forM fun (_, path) => checkAddress path
  return uploadsOf paths

/-- The paths that lead nowhere. -/
def missingPaths (disk : Disk) (paths : List String) : Except Failure (List String) :=
  paths.filterM fun path =>
    match disk.isThere (Path.ofText path).text with
    | .ok there => .ok !there
    | .error error => .error (.system error)

/-- A message that files are missing. -/
def missingMessage (paths : List String) : String :=
  "Missing " ++ digitsOf paths.length ++ " asset file(s):\n" ++
    String.join (paths.map fun path => "  - " ++ path ++ "\n")

/-- The manifest in a file as a raw value, and uploads of its assets and those that a caller
names. All their files have to be there. -/
def loadComposition (path : String) (arguments : List String) (disk : Disk) :
    Except Failure (Value × Named Upload) := do
  let file ← ManifestFile.load path disk
  let paths := file.paths.over (← readAssetArguments arguments)
  match ← missingPaths disk (paths.map Prod.snd) with
  | [] => return (file.value, ← buildUploads paths)
  | missing => throw (.system (.absent (missingMessage missing)))

end Montage
