import Montage.Console.Session
import Std.Time.DateTime.Timestamp

/-!
The program: it fetches the files that a command line speaks of, holds a session, and shows what
was printed.

The tool is a program of its own, and this one starts no others: each call of it is refused. What
needs no call, such as the check of a manifest that shows images, is carried out in full.
-/

namespace Montage.Program

/-- The directory in which a session is held. -/
def workingDirectory : Place := ["session", "work"]

/-- The directory for the temporary files of a session. -/
def temporaryDirectory : Place := ["session", "temporary"]

/-- A disk with these directories and nothing else. -/
def emptyDisk : Disk where
  entries := [(["session"], .directory), (workingDirectory, .directory),
    (temporaryDirectory, .directory)]
  workingDirectory := workingDirectory
  temporaryDirectory := temporaryDirectory

/-- The paths that a word of a command line can name: the word, and what stands behind its first
sign of equality. -/
def pathsOfWord (word : String) : List String :=
  match word.toList.dropWhile (· != '=') with
  | _ :: value => [word, String.ofList value]
  | [] => [word]

/-- The paths of the assets of a manifest, none if the file is no manifest. -/
def pathsOfManifest (disk : Disk) (path : String) : List String :=
  match ManifestFile.load path disk with
  | .ok file => file.paths.map Prod.snd
  | .error _ => []

/-- A disk with a file and the directories above it. -/
def withFile (disk : Disk) (path : String) (content : Bytes) : Disk :=
  let made := (disk.makeDirectories (Path.ofText path).parent).toOption.getD disk
  (made.write path content).toOption.getD made

/-- A toolbox whose tool cannot be started. -/
def toolbox (configured : Option String) : Toolbox where
  installation := ⟨configured, "ffmpeg"⟩
  run := fun _ call disk => (.error (.refused .missing (call.arguments.head?.getD "")), disk)

/-- The lines about the commands. -/
def usage : List String :=
  "Usage:" :: (Worded.words CommandName).map fun command => "  montage " ++ command ++ " ..."

/-- What a session shows in the end, besides what was printed: lines on the output and on the error
stream, and the exit code. -/
def closing : Except Failure Ending → List String × List String × Nat
  | .ok (.misused misuse) => ([], [misuse.message], Ending.code (.misused misuse))
  | .ok .helped => (usage, [], Ending.code .helped)
  | .ok .idle => (usage, [], Ending.code .idle)
  | .ok ending => ([], [], ending.code)
  | .error failure => ([], [failure.message], 1)

/-- A disk with the file at a path of the system, if it can be read. -/
def fetch (disk : Disk) (path : String) : IO Disk := do
  try
    return withFile disk path (← IO.FS.readBinFile path).toList
  catch _ => return disk

/-- The time. -/
def now : IO Instant := do
  let seconds := (← Std.Time.Timestamp.now).toSecondsSinceUnixEpoch.val
  let start : Instant := ⟨⟨1970, 1, 1⟩, 0, 0, 0, 0, some 0⟩
  return (start.later? (seconds.toNat * microsPerSecond)).getD start

/-- Shows a line of the journal. -/
def show? : Event → IO Unit
  | .printed line => IO.println line
  | .warned line => IO.eprintln line
  | _ => return

/-- Holds a session for a command line and returns the exit code. -/
def run (line : List String) : IO UInt32 := do
  let words := line.flatMap pathsOfWord
  let disk ← words.foldlM fetch emptyDisk
  let disk ← (words.flatMap (pathsOfManifest disk)).foldlM fetch disk
  let time ← now
  let console : Console := ⟨toolbox (← IO.getEnv toolVariable), fun _ => time, time⟩
  let (outcome, workspace) := console.run line ⟨disk, 0, 0, 0, []⟩
  workspace.journal.forM show?
  let (output, errors, code) := closing outcome
  output.forM IO.println
  errors.forM IO.eprintln
  return UInt32.ofNat code

end Montage.Program

/-- Runs the program. -/
def main (line : List String) : IO UInt32 :=
  Montage.Program.run line
