import Montage.File.Path

/-!
Files and directories, and the ways in which the system refuses to touch them.
-/

namespace Montage

/-- Contents of a file. -/
abbrev Bytes := List UInt8

/-- Why the system refuses an operation on a path. -/
inductive Refusal where
  | missing
  | exists
  | notDirectory
  | isDirectory
  | tooLong
  deriving DecidableEq, Repr

/-- The number and the words of a refusal. -/
def Refusal.words : Refusal → String
  | .missing => "[Errno 2] No such file or directory"
  | .exists => "[Errno 17] File exists"
  | .notDirectory => "[Errno 20] Not a directory"
  | .isDirectory => "[Errno 21] Is a directory"
  | .tooLong => "[Errno 36] File name too long"

/-- An error of the system. -/
inductive SystemError where
  /-- An operation on a path was refused. -/
  | refused (refusal : Refusal) (path : String)
  /-- A file was to be copied over itself. -/
  | sameFile (source target : String)
  /-- Files that a caller named are not there. -/
  | absent (message : String)
  /-- Any other error, in its own words. -/
  | reported (message : String)
  deriving DecidableEq, Repr

/-- The words of a system error. -/
def SystemError.message : SystemError → String
  | .refused refusal path => refusal.words ++ ": " ++ Text.quote path
  | .sameFile source target =>
    Text.quote source ++ " and PosixPath(" ++ Text.quote target ++ ") are the same file"
  | .absent message | .reported message => message

/-- What is at a place. -/
inductive Entry where
  | file (content : Bytes)
  | directory
  deriving DecidableEq, Repr

/-- A place: the names on the way to it from the root. -/
abbrev Place := List String

/-- The files and directories below the root, with the working and the temporary directory. -/
structure Disk where
  entries : List (Place × Entry)
  workingDirectory : Place
  temporaryDirectory : Place
  deriving DecidableEq

namespace Disk

/-- The entry at a place. The root is a directory. -/
def entry? (disk : Disk) (place : Place) : Option Entry :=
  if place.isEmpty then some .directory else disk.entries.lookup place

/-- The disk with an entry put at a place. -/
def put (disk : Disk) (place : Place) (entry : Entry) : Disk :=
  if disk.entries.any (·.1 == place) then
    { disk with entries := disk.entries.map fun old =>
        if old.1 == place then (place, entry) else old }
  else { disk with entries := disk.entries ++ [(place, entry)] }

/-- The disk without the entries at a place and below it. -/
def drop (disk : Disk) (place : Place) : Disk :=
  { disk with entries := disk.entries.filter fun (at', _) => !place.isPrefixOf at' }

/-- The absolute path of a place. -/
def pathOf (place : Place) : Path := ⟨"/", place⟩

/-- The most bytes that one name can have. -/
def maxNameBytes : Nat := 255

/-- The most bytes that the text of a path can have. -/
def maxPathBytes : Nat := 4095

/-- The places that the names lead to from a directory. Every name but the last has to lead to a
directory; what the last one leads to may be missing. -/
def walk (disk : Disk) (start : Place) : List String → Except Refusal Place
  | [] => .ok start
  | name :: rest =>
    if disk.entry? start != some .directory then
      .error (if (disk.entry? start).isSome then .notDirectory else .missing)
    else if name == "." then walk disk start rest
    else if name == ".." then walk disk start.dropLast rest
    else if name.utf8ByteSize > maxNameBytes then .error .tooLong
    else walk disk (start ++ [name]) rest

/-- The place that the text of a path leads to. A final slash asks for a directory. -/
def find (disk : Disk) (text : String) : Except Refusal Place :=
  let characters := text.toList
  if characters.isEmpty then .error .missing
  else if text.utf8ByteSize > maxPathBytes then .error .tooLong
  else
    let pieces := ((Path.splitSlashes characters).filter (!·.isEmpty)).map String.ofList
    let start := if characters.head? == some '/' then [] else disk.workingDirectory
    let pieces := if characters.getLast? == some '/' then pieces ++ ["."] else pieces
    disk.walk start pieces

/-- What is where the text of a path leads. -/
def status (disk : Disk) (text : String) : Except Refusal Entry := do
  match disk.entry? (← disk.find text) with
  | some entry => .ok entry
  | none => .error .missing

/-- The content of a file. -/
def read (disk : Disk) (text : String) : Except Refusal Bytes := do
  match ← disk.status text with
  | .file content => .ok content
  | .directory => .error .isDirectory

/-- The disk with a file written, whether it was there before or not. -/
def write (disk : Disk) (text : String) (content : Bytes) : Except Refusal Disk := do
  let place ← disk.find text
  match disk.entry? place with
  | some .directory => .error .isDirectory
  | _ => .ok (disk.put place (.file content))

/-- The disk with something made where nothing was. -/
def create (disk : Disk) (text : String) (entry : Entry) : Except Refusal Disk := do
  let place ← disk.find text
  match disk.entry? place with
  | some _ => .error .exists
  | none => .ok (disk.put place entry)

/-- Something is where the text of a path leads; false too where no path can lead. -/
def isThere (disk : Disk) (text : String) : Except SystemError Bool :=
  if text.toList.contains '\x00' then .ok false
  else
    match disk.status text with
    | .ok _ => .ok true
    | .error .tooLong => .error (.refused .tooLong text)
    | .error _ => .ok false

/-- The content of the file where the text of a path leads, if a file is there. -/
def file? (disk : Disk) (text : String) : Option Bytes :=
  (disk.read text).toOption

/-- Makes a directory together with those above it; one that is there is left. What was made before
something is refused stays. -/
def ensureDirectories (disk : Disk) (path : Path) : Except SystemError Unit × Disk :=
  go path.names.length disk path
where
  /-- Makes a directory, and first those above it where one is missing. -/
  go : Nat → Disk → Path → Except SystemError Unit × Disk
    | fuel, disk, path =>
      match disk.create path.text .directory with
      | .ok disk => (.ok (), disk)
      | .error .missing =>
        match fuel with
        | 0 => (.error (.refused .missing path.text), disk)
        | fuel + 1 =>
          match go fuel disk path.parent with
          | (.error error, disk) => (.error error, disk)
          | (.ok (), disk) =>
            match disk.create path.text .directory with
            | .ok disk => (.ok (), disk)
            | .error refusal => (leave disk path refusal, disk)
      | .error refusal => (leave disk path refusal, disk)
  /-- A directory that is there already is no error. -/
  leave (disk : Disk) (path : Path) (refusal : Refusal) : Except SystemError Unit :=
    match disk.status path.text with
    | .ok .directory => .ok ()
    | _ => .error (.refused refusal path.text)

/-- The disk with a directory made together with those above it; one that is there is left. -/
def makeDirectories (disk : Disk) (path : Path) : Except SystemError Disk :=
  let (outcome, made) := disk.ensureDirectories path
  outcome.map fun _ => made

/-- The disk after a file was copied over another; the source is opened first. -/
def copyFile (disk : Disk) (source target : String) : Except SystemError Disk :=
  match disk.read source with
  | .error refusal => .error (.refused refusal source)
  | .ok content =>
    if (disk.find source).toOption == (disk.find target).toOption then
      .error (.sameFile source target)
    else
    match disk.write target content with
    | .error refusal => .error (.refused refusal target)
    | .ok disk => .ok disk

/-- The disk without the entries below a place. -/
def clear (disk : Disk) (place : Place) : Disk :=
  { disk with entries := disk.entries.filter fun (at', _) =>
      !(place.isPrefixOf at' && place != at') }

/-- The disk after a file, or a directory with all in it, was taken away if it was there. The
directory that a single dot names is only emptied. -/
def remove (disk : Disk) (path : Path) : Disk :=
  match disk.find path.text with
  | .ok place =>
    if (disk.entry? place).isNone then disk
    else if path.names.isEmpty then disk.clear place
    else disk.drop place
  | .error _ => disk

/-- The entries below a place, by their relative paths. -/
def listing (disk : Disk) (place : Place) : List (String × Option Bytes) :=
  let below := disk.entries.filterMap fun (at', entry) =>
    if place.isPrefixOf at' && place.length < at'.length then
      let path := String.intercalate "/" (at'.drop place.length)
      match entry with
      | .file content => some (path, some content)
      | .directory => some (path ++ "/", none)
    else none
  below.mergeSort fun left right => left.1 ≤ right.1

end Disk

end Montage
