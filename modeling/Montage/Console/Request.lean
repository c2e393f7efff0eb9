import Montage.Console.Switch
import Montage.Scene

/-!
What a command line asks for. The word that names the command comes first; what stands before it
and is no switch of the whole program is left to the command.
-/

namespace Montage

/-- The commands. -/
inductive CommandName where
  | render
  | generate
  | submit
  | check
  deriving DecidableEq, Repr

instance : Worded CommandName where
  all := [.render, .generate, .submit, .check]
  word
    | .render => "render"
    | .generate => "generate"
    | .submit => "submit"
    | .check => "check"

/-- What a submitted video is made from. -/
inductive Footage where
  | manifest (path : String)
  | image (path : Option String)
  deriving DecidableEq, Repr

/-- A submission as a command line writes it. -/
structure Submission where
  footage : Footage
  assets : List String
  duration : Option Int
  audio : String
  title : String
  description : String
  thumbnail : Option String
  privacy : Option String
  tags : List String
  category : Option String
  publishAt : Option String
  directory : String
  deriving DecidableEq, Repr

/-- What a command line asks for. -/
inductive Request where
  | validate (manifest : String) (assets : List String)
  | render (manifest : String) (assets : List String) (audio output : String)
  | still (image audio : String) (duration : Binary64) (output : String)
  | submit (submission : Submission)
  | check
  deriving DecidableEq

namespace CommandName

/-- A switch that has to be given. -/
def needed (name : String) (kind : SwitchKind) : Switch := ⟨name, kind, true⟩

/-- A switch that can be left out. -/
def free (name : String) (kind : SwitchKind) : Switch := ⟨name, kind, false⟩

/-- The switches of a command, in the order in which missing ones are listed. -/
def board : CommandName → Switchboard
  | render => {
    switches := [
      needed "--manifest" .text, free "--asset" .text, free "--audio" .text,
      free "--output" .text, free "--validate" .nothing, free "--verbose" .nothing]
    rivals := [] }
  | generate => {
    switches := [
      needed "--image" .text, needed "--audio" .text, needed "--duration" .double,
      needed "--output" .text, free "--verbose" .nothing]
    rivals := [] }
  | submit => {
    switches := [
      free "--manifest" .text, free "--image" .text, free "--asset" .text,
      free "--duration" .whole, needed "--audio" .text, needed "--title" .text,
      needed "--description" .text, free "--thumbnail" .text, free "--privacy" .text,
      free "--tag" .text, free "--category" .text, free "--publish-at" .text,
      needed "--publish-dir" .text, free "--verbose" .nothing]
    rivals := ["--manifest", "--image"] }
  | check => ⟨[], []⟩

end CommandName

namespace Request

/-- A rendering. To check a manifest needs neither a soundtrack nor a place for the video. -/
def ofRender (given : Given) : Except Stop Request :=
  let manifest := given.text "--manifest"
  let assets := given.texts "--asset"
  let audio := given.text "--audio"
  let output := given.text "--output"
  if given.has "--validate" then .ok (.validate manifest assets)
  else if output.isEmpty || audio.isEmpty then .error (.misuse .missingSoundOrOutput)
  else .ok (.render manifest assets audio output)

/-- A video of one image. A duration that is no number counts as positive. -/
def ofGenerate (given : Given) : Except Stop Request :=
  let duration := (given.double? "--duration").getD .zero
  if duration.le .zero then .error (.misuse .durationNotPositive)
  else .ok (.still (given.text "--image") (given.text "--audio") duration (given.text "--output"))

/-- A submission. Only an image needs a duration. -/
def ofSubmit (given : Given) : Except Stop Request :=
  let manifest := given.text "--manifest"
  let duration := given.whole? "--duration"
  if !(given.text "--image").isEmpty && duration.isNone then .error (.misuse .missingDuration)
  else .ok (.submit {
    footage := if manifest.isEmpty then .image (given.text? "--image") else .manifest manifest
    assets := given.texts "--asset"
    duration
    audio := given.text "--audio"
    title := given.text "--title"
    description := given.text "--description"
    thumbnail := given.text? "--thumbnail"
    privacy := given.text? "--privacy"
    tags := given.texts "--tag"
    category := given.text? "--category"
    publishAt := given.text? "--publish-at"
    directory := given.text "--publish-dir" })

/-- What a command and the words for it ask for. A check takes any words. -/
def ofCommand (command : CommandName) (words : List String) : Except Stop Request :=
  match command with
  | .render => command.board.read words >>= ofRender
  | .generate => command.board.read words >>= ofGenerate
  | .submit => command.board.read words >>= ofSubmit
  | .check => .ok .check

/-- The words before the one that names the command, and that one with the words after it. -/
def splitLine : List String → Except Stop (List String × Option (String × List String))
  | [] => .ok ([], none)
  | text :: rest =>
    if text == "--" then
      .ok (if rest.isEmpty then ([text], none) else ([], some (text, rest)))
    else do
      match ← (Word.read [] text).mapError .misuse with
      | .argument command => return ([], some (command, rest))
      | .help (some misuse) => throw (.misuse misuse)
      | .help none => throw .help
      | _ =>
        let (before, command) ← splitLine rest
        return (text :: before, command)

/-- What a command line asks for. -/
def read (line : List String) : Except Stop Request := do
  let (before, command) ← splitLine line
  match command with
  | none => throw .noCommand
  | some (word, rest) =>
    match (Worded.read? word : Option CommandName) with
    | none => throw (.misuse (.unknownCommand word (Worded.words CommandName)))
    | some command =>
      let given ← (Switchboard.mk [] []).readKnown rest
      ofCommand command (before ++ given.others)

end Request

end Montage
