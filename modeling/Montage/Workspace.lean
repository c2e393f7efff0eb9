import Montage.Job.Status
import Montage.Tool.Basic
import Montage.Upload

/-!
What the library's operations act on: files, the names and times handed out so far, and a journal
of everything that was asked of the outside or told to it, in order.
-/

namespace Montage

/-- An entry of the journal. -/
inductive Event where
  /-- The tool was called. -/
  | called (call : Call)
  /-- A job got a status that its caller can see. -/
  | status (job : JobId) (state : JobState) (message : String)
  /-- A job was taken off the books. -/
  | withdrawn (job : JobId)
  /-- A video was handed to the publisher. -/
  | published (video : Bytes) (title description : String) (options : PublishOptions)
  /-- A thumbnail was handed to the publisher. -/
  | illustrated (artifact : String) (image : Bytes) (contentType : Option String)
  /-- A line was printed. -/
  | printed (line : String)
  /-- A line was printed to the error stream. -/
  | warned (line : String)
  deriving DecidableEq

/-- The state that operations act on. -/
structure Workspace where
  disk : Disk
  names : Nat
  ids : Nat
  readings : Nat
  journal : List Event
  deriving DecidableEq

namespace Workspace

/-- The calls of the tool so far. -/
def calls (workspace : Workspace) : List Call :=
  workspace.journal.filterMap fun
    | .called call => some call
    | _ => none

/-- The workspace with an entry more in its journal. -/
def note (workspace : Workspace) (event : Event) : Workspace :=
  { workspace with journal := workspace.journal ++ [event] }

end Workspace

/-- An operation on a workspace. What it did before it failed stays done. -/
abbrev Action (α : Type) := ExceptT Failure (StateM Workspace) α

namespace Action

/-- The outcome of an operation, which then cannot fail. -/
def attempt {α : Type} (action : Action α) : Action (Except Failure α) :=
  fun workspace =>
    let (outcome, workspace) := action workspace
    (.ok outcome, workspace)

/-- An operation followed by a change that is made whether it fails or not. -/
def ensure {α : Type} (action : Action α) (cleanup : Workspace → Workspace) : Action α :=
  fun workspace =>
    let (outcome, workspace) := action workspace
    (outcome, cleanup workspace)

/-- A result as an operation. -/
def lift {α : Type} (result : Except Failure α) : Action α :=
  fun workspace => (result, workspace)

/-- An operation that only looks at the disk. -/
def look {α : Type} (read : Disk → Except Failure α) : Action α :=
  fun workspace => (read workspace.disk, workspace)

/-- A computation with numbers as an operation. -/
def compute {α : Type} (result : Except Fault α) : Action α :=
  lift (result.mapError Failure.fault)

/-- A change of the disk, which can be refused. -/
def change (write : Disk → Except SystemError Disk) : Action Unit :=
  fun workspace =>
    match write workspace.disk with
    | .ok disk => (.ok (), { workspace with disk })
    | .error error => (.error (.system error), workspace)

/-- A change of the disk of which a part can stay although the rest is refused. -/
def alter (write : Disk → Except SystemError Unit × Disk) : Action Unit :=
  fun workspace =>
    let (outcome, disk) := write workspace.disk
    (outcome.mapError .system, { workspace with disk })

/-- Writes an entry into the journal. -/
def note (event : Event) : Action Unit :=
  modify (·.note event)

/-- Prints a line. -/
def print (line : String) : Action Unit :=
  note (.printed line)

end Action

/-- What every temporary name starts with. -/
def temporaryStart : String := "media-factory-"

/-- The path of the temporary directory. -/
def Disk.temporary (disk : Disk) : Path := Disk.pathOf disk.temporaryDirectory

/-- A fresh path in the temporary directory: the start of all such names, a name for the purpose,
a number and a suffix. -/
def freshPath (purpose suffix : String) : Action String :=
  fun workspace =>
    let number := workspace.names + 1
    (.ok (workspace.disk.temporary.text ++ "/" ++ temporaryStart ++ purpose ++ digitsOf number ++
      suffix), { workspace with names := number })

/-- The text of a path holds no null byte. -/
def checkPath (text : String) : Action Unit :=
  if text.toList.contains '\x00' then throw (.argument .nullByte) else return

/-- Makes something where a fresh path leads. -/
def makeFresh (purpose suffix : String) (entry : Entry) : Action Path := do
  let text ← freshPath purpose suffix
  checkPath text
  Action.change fun disk => (disk.create text entry).mapError (.refused · text)
  return Path.ofText text

/-- Takes a file or a directory away. If that fails, nothing is said. -/
def discard (path : Path) (workspace : Workspace) : Workspace :=
  { workspace with disk := workspace.disk.remove path }

/-- Takes files away in order. -/
def discardAll (paths : List Path) (workspace : Workspace) : Workspace :=
  paths.foldl (fun workspace path => discard path workspace) workspace

/-- Copies an upload over a file. -/
def Upload.copyTo (upload : Upload) (path : Path) : Action Unit := do
  let content ← Action.look upload.content
  Action.change fun disk => (disk.write path.text content).mapError (.refused · path.text)

/-- Copies an upload into a fresh temporary file, which is taken away again if that fails. -/
def stage (upload : Upload) (purpose suffix : String) : Action Path := do
  let path ← makeFresh purpose suffix (.file [])
  match ← (upload.copyTo path).attempt with
  | .ok _ => return path
  | .error failure =>
    modify (discard path)
    throw failure

/-- Calls the tool for a stage. -/
def Toolbox.invoke (toolbox : Toolbox) (stage : String) (arguments : List String)
    (timeout : Number) : Action ToolResult :=
  fun workspace =>
    let call := Call.make stage arguments timeout workspace.disk
    let (outcome, disk) := toolbox.run workspace.calls call workspace.disk
    (outcome.mapError Failure.system, { workspace.note (.called call) with disk })

end Montage
