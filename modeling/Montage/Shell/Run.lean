import Montage.Failure
import Montage.Shell.Program
import Montage.Shell.Script
import Montage.Tool.Process

/-!
What a script writes and how it ends, within the time that it has.
-/

namespace Montage.Shell

/-- Why a script goes no further: its process has ended, or a program writes the same bytes without
end. -/
inductive Halt where
  | ended (ending : ProcessEnd)
  | endless (channel : Channel) (cycle : List UInt8)
  deriving DecidableEq

/-- The state of a shell: its name, what has been written, its variables, the status of the last
command, and the microseconds that are left. -/
structure State where
  name : String
  written : List (Channel × List UInt8)
  bindings : List (String × String)
  status : Nat
  micros : Nat

/-- A run of a part of a script. -/
abbrev Run (β : Type) := ExceptT Halt (StateM State) β

/-- The id of the shell's process. -/
def processId : String := "1000"

/-- Signals that end a process. -/
def fatalSignals : List (String × Nat) :=
  [("HUP", 1), ("INT", 2), ("QUIT", 3), ("ILL", 4), ("TRAP", 5), ("ABRT", 6), ("BUS", 7),
   ("FPE", 8), ("KILL", 9), ("USR1", 10), ("SEGV", 11), ("USR2", 12), ("PIPE", 13), ("ALRM", 14),
   ("TERM", 15), ("STKFLT", 16), ("XCPU", 24), ("XFSZ", 25), ("VTALRM", 26), ("PROF", 27),
   ("IO", 29), ("PWR", 30), ("SYS", 31)]

/-- Signals that a process takes no notice of. -/
def idleSignals : List (String × Nat) :=
  [("0", 0), ("CHLD", 17), ("CONT", 18), ("URG", 23), ("WINCH", 28)]

/-- Signals that stop a process until it is woken up. -/
def stopSignals : List (String × Nat) :=
  [("STOP", 19), ("TSTP", 20), ("TTIN", 21), ("TTOU", 22)]

/-- The number of a signal. -/
def signal? (name : String) : Option Nat :=
  match name.toNat? with
  | some number => if number < 65 then some number else none
  | none => (fatalSignals ++ idleSignals ++ stopSignals).lookup name

namespace Run

/-- Writes to a channel. -/
def emit (channel : Channel) (bytes : List UInt8) : Run Unit :=
  if bytes.isEmpty then return
  else modify fun shell => { shell with written := shell.written ++ [(channel, bytes)] }

/-- Ends a command with a status. -/
def settle (status : Nat) : Run Unit :=
  modify fun shell => { shell with status }

/-- Ends a command with a complaint of the shell. -/
def complain (status : Nat) (text : String) : Run Unit := do
  emit .errors (Text.encodeUtf8 ((← get).name ++ ": 1: " ++ text ++ "\n"))
  settle status

/-- Lets time pass. -/
def pass (micros : Nat) : Run Unit := do
  if micros = 0 then return
  else if (← get).micros ≤ micros then throw (.ended .outOfTime)
  else modify fun shell => { shell with micros := shell.micros - micros }

/-- Ends the shell. -/
def exit (status : Nat) : Run Unit := throw (.ended (.exited status))

/-- Does what a program does. -/
def perform (effect : Effect) : Run Unit := do
  pass effect.micros
  emit .errors effect.errors
  emit .output effect.output
  if effect.cycle.isEmpty then settle effect.status
  else throw (.endless .output effect.cycle)

/-- Runs with what goes to one channel going where another one leads. -/
def redirect (redirections : List Redirection) (run : Run Unit) : Run Unit := fun shell =>
  let route := redirections.foldl (fun (route : Channel → Channel) redirection =>
    fun channel => if channel = redirection.source then route redirection.target
      else route channel) id
  let (outcome, after) := run { shell with written := [] }
  let moved := after.written.map fun (channel, bytes) => (route channel, bytes)
  let outcome := outcome.mapError fun
    | .endless channel cycle => .endless (route channel) cycle
    | halt => halt
  (outcome, { after with written := shell.written ++ moved })

/-- Runs in a shell below, whose variables are its own and which ends alone. -/
def inSubshell (run : Run Unit) : Run Unit := fun shell =>
  let (outcome, after) := run shell
  let after := { after with bindings := shell.bindings }
  match outcome with
  | .error (.ended (.exited status)) => (.ok (), { after with status })
  | outcome => (outcome, after)

/-- Runs with the output kept back to be read. -/
def collect (run : Run Unit) : Run Feed := fun shell =>
  let (outcome, after) := run { shell with written := [] }
  let (output, others) := after.written.partition fun (channel, _) => channel == .output
  let after := { after with written := shell.written ++ others }
  let bytes := output.flatMap Prod.snd
  match outcome with
  | .ok () => (.ok ⟨bytes, []⟩, after)
  | .error (.endless .output cycle) => (.ok ⟨bytes, cycle⟩, after)
  | .error halt => (.error halt, after)

/-- The value of a parameter. -/
def parameter (name : String) : Run String := do
  let shell ← get
  return match name with
    | "$" => processId
    | "?" => digitsOf shell.status
    | "0" => shell.name
    | name => (shell.bindings.lookup name).getD ""

/-- The text of pieces. -/
def textOf (pieces : List Piece) : Run String := do
  let texts ← pieces.mapM fun
    | .character value => pure value.toString
    | .parameter name => parameter name
  return String.join texts

/-- Words between blanks. -/
def words (text : String) : List String :=
  ((text.toList.splitBy fun left right => left.isWhitespace == right.isWhitespace).map
    String.ofList).filter fun word => !(word.toList.all Char.isWhitespace)

/-- The texts that an argument stands for. What a bare parameter holds is taken apart. -/
def expand (argument : Argument) : Run (List String) := do
  let text ← textOf argument.pieces
  if argument.quoted then return [text]
  else if argument.plain?.isSome then return [text]
  else return words text

/-- The texts that arguments stand for. -/
def expandAll (arguments : List Argument) : Run (List String) := do
  return (← arguments.mapM expand).flatten

/-- The name and the value of an assignment. -/
def assignment? (argument : Argument) : Option (String × List Piece) :=
  let name := argument.pieces.takeWhile fun piece =>
    (piece.character?).any isNameCharacter
  match argument.pieces.drop name.length with
  | .character '=' :: value =>
    if name.isEmpty then none
    else some (String.ofList (name.filterMap Piece.character?), value)
  | _ => none

/-- Sets a variable. -/
def assign (name value : String) : Run Unit :=
  modify fun shell =>
    { shell with bindings := (name, value) :: shell.bindings }

/-- Sends a signal to a process. -/
def send (name process : String) : Run Unit := do
  match signal? name with
  | none => complain 2 ("kill: Illegal option -" ++ String.ofList (name.toList.take 1))
  | some number =>
    if process != processId then complain 1 "kill: No such process"
    else if idleSignals.any (·.2 == number) then settle 0
    else if stopSignals.any (·.2 == number) then throw (.ended .outOfTime)
    else throw (.ended (.killed number))

/-- Runs the command of the shell that sends signals. -/
def kill (arguments : List String) : Run Unit :=
  match arguments with
  | ["-s", name, process] => send name process
  | [option, process] => send (String.ofList (option.toList.drop 1)) process
  | [process] => send "TERM" process
  | _ => complain 2 ("kill: Usage: kill [-s sigspec | -signum | -sigspec] [pid | job]... or\n" ++
      "kill -l [exitstatus]")

/-- Ends the shell with the status that a text writes, or else the last one. -/
def leave (arguments : List String) : Run Unit := do
  match arguments with
  | [] => exit (← get).status
  | status :: _ =>
    if !status.isEmpty && status.toList.all Char.isDigit then
      exit (Text.digitsValue status.toList % 256)
    else
      complain 2 ("exit: Illegal number: " ++ status)
      exit 2

/-- Runs a program in place of the shell. -/
def replace (arguments : List String) (feed : Feed) : Run Unit := do
  match arguments with
  | [] => settle 0
  | name :: rest =>
    match program? name with
    | some program =>
      perform (program rest feed)
      exit (← get).status
    | none =>
      complain 127 ("exec: " ++ name ++ ": not found")
      exit 127

/-- Runs a command with its arguments. -/
def call (name : String) (arguments : List String) (feed : Feed) : Run Unit := do
  match name with
  | "exit" => leave arguments
  | "kill" => kill arguments
  | "exec" => replace arguments feed
  | name =>
    match builtins.lookup name with
    | some program =>
      let effect := program arguments feed
      if !effect.errors.isEmpty then
        emit .errors (Text.encodeUtf8 ((← get).name ++ ": 1: "))
      perform effect
    | none =>
      match program? name with
      | some program => perform (program arguments feed)
      | none => complain 127 (name ++ ": not found")

/-- Runs a command of which each argument that comes first and assigns a value does just that. -/
def command (feed : Feed) : List Argument → Run Unit
  | [] => return
  | arguments@(argument :: rest) => do
    match assignment? argument with
    | some (name, value) =>
      assign name (← textOf value)
      settle 0
      command feed rest
    | none =>
      match ← expandAll arguments with
      | [] => settle 0
      | name :: arguments => call name arguments feed

end Run

/-- Runs a script on what there is to read. -/
def Script.run (feed : Feed) : Script → Run Unit
  | nothing => return
  | command arguments => Run.command feed arguments
  | pipe first second => do
    let feed ← Run.collect (Run.inSubshell (first.run feed))
    Run.inSubshell (second.run feed)
  | both first second => do
    first.run feed
    if (← get).status = 0 then second.run feed
  | either first second => do
    first.run feed
    if (← get).status != 0 then second.run feed
  | sequence first second => do
    first.run feed
    second.run feed
  | redirected body redirections => Run.redirect redirections (body.run feed)
  | subshell body => Run.inSubshell (body.run feed)
  | loop name values body => do
    for value in ← Run.expandAll values do
      Run.assign name value
      body.run feed

/-- What a shell or a program called by itself has written, and how it ended. -/
def transcript (run : Run Unit) (shell : State) : Transcript :=
  let (outcome, after) := run shell
  let seen := after.written.filter fun (channel, _) => channel != .nowhere
  let ending := match outcome with
    | .ok () => .exited after.status
    | .error (.ended ending) => ending
    | .error (.endless _ _) => .outOfTime
  ⟨seen.flatMap Prod.snd, ending⟩

/-- Runs the text of a script. -/
def runText (text : String) : Run Unit := do
  match Script.read text with
  | .ok script => script.run .empty
  | .error complaint => Run.complain 2 complaint.message

/-- The whole microseconds in a number of seconds. -/
def microsOf (seconds : Number) : Nat :=
  match seconds with
  | .int whole => whole.toNat * 1000000
  | .double (.finite false units _) => units * 1000000 / Binary64.unit
  | .double _ => 0

/-- Names of the shell. -/
def shellNames : List String := ["sh", "dash"]

/-- Starts a process with arguments, the first of which names the program, and stops it if it has
not ended after so many seconds. -/
def start (arguments : List String) (timeout : Number) : Except Failure Transcript :=
  let shell := fun (name : String) => State.mk name [] [] 0 (microsOf timeout)
  if arguments.any fun argument => argument.toList.contains '\x00' then
    .error (.argument .nullByte)
  else
    match arguments with
    | [] => .error (.fault .outOfBounds)
    | name :: rest =>
      if shellNames.contains (baseName name) then
        match rest with
        | "-c" :: text :: others => .ok (transcript (runText text) (shell (others.head?.getD name)))
        | _ => .ok ⟨[], .exited 0⟩
      else
        match program? name with
        | some program => .ok (transcript (Run.perform (program rest .empty)) (shell name))
        | none => .error (.system (.refused .missing name))

end Montage.Shell
