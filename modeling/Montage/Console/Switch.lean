import Montage.Number.Decimal
import Montage.Number.Reading
import Montage.Text.Quoted

/-!
Switches on a command line: names with two dashes in front, which can be cut short as long as they
stay unique, and whose values follow or stand behind a sign of equality.
-/

namespace Montage

/-- What a switch takes. -/
inductive SwitchKind where
  | nothing
  | text
  | whole
  | double
  deriving DecidableEq, Repr

/-- A switch. -/
structure Switch where
  name : String
  kind : SwitchKind
  required : Bool
  deriving DecidableEq, Repr

/-- The switches of a command. Exactly one of those that are rivals has to be given. -/
structure Switchboard where
  switches : List Switch
  rivals : List String
  deriving DecidableEq, Repr

/-- What was given for a switch. -/
inductive Setting where
  | given
  | text (value : String)
  | whole (value : Int)
  | double (value : Binary64)
  deriving DecidableEq

/-- What is wrong with a command line. -/
inductive Misuse where
  | ambiguous (word : String) (names : List String)
  | surplusValue (name value : String)
  | missingValue (name : String)
  | notWhole (name value : String)
  | notDouble (name value : String)
  | rival (name other : String)
  | missing (names : List String)
  | missingRival (names : List String)
  | unknownWords (words : List String)
  | unknownCommand (word : String) (known : List String)
  | missingDuration
  | durationNotPositive
  | missingSoundOrOutput
  deriving DecidableEq, Repr

private def aboutArgument (name problem : String) : String :=
  "argument " ++ name ++ ": " ++ problem

/-- The wording of a misuse. -/
def Misuse.message : Misuse → String
  | ambiguous word names =>
    "ambiguous option: " ++ word ++ " could match " ++ String.intercalate ", " names
  | surplusValue name value =>
    aboutArgument name ("ignored explicit argument " ++ Text.quote value)
  | missingValue name => aboutArgument name "expected one argument"
  | notWhole name value => aboutArgument name ("invalid int value: " ++ Text.quote value)
  | notDouble name value => aboutArgument name ("invalid float value: " ++ Text.quote value)
  | rival name other => aboutArgument name ("not allowed with argument " ++ other)
  | missing names =>
    "the following arguments are required: " ++ String.intercalate ", " names
  | missingRival names =>
    "one of the arguments " ++ String.intercalate " " names ++ " is required"
  | unknownWords words => "unrecognized arguments: " ++ String.intercalate " " words
  | unknownCommand word known =>
    aboutArgument "command" ("invalid choice: " ++ Text.quote word ++ " (choose from " ++
      String.intercalate ", " (known.map Text.quote) ++ ")")
  | missingDuration => "--duration is required with --image"
  | durationNotPositive => "--duration must be positive"
  | missingSoundOrOutput => "--audio and --output are required (unless using --validate)"

/-- Why the reading of a command line ends early. -/
inductive Stop where
  /-- Help was asked for. -/
  | help
  /-- No command was named, so help is given all the same. -/
  | noCommand
  | misuse (misuse : Misuse)
  deriving DecidableEq, Repr

/-- A word of a command line. -/
inductive Word where
  | argument (text : String)
  /-- Two dashes: no switches come after them. -/
  | divider
  /-- The switch for help, or what is wrong with it. -/
  | help (misuse : Option Misuse)
  | switch (switch : Switch) (value : Option String)
  | unknown (text : String)
  deriving DecidableEq, Repr

/-- The long name of the switch for help. -/
def helpName : String := "--help"

/-- The names of the switch for help. -/
def helpNames : String := "-h/" ++ helpName

namespace Word

/-- The misuse in what stands behind the short switch for help: it can be repeated, but has no
value. -/
def helpMisuse? (hasValue : Bool) : List Char → Option Misuse
  | [] => if hasValue then some (.surplusValue helpNames "") else none
  | character :: rest =>
    if hasValue || character == '-' then
      some (.surplusValue helpNames (String.ofList (character :: rest)))
    else if character == 'h' then
      match rest with
      | '=' :: value => helpMisuse? true value
      | rest => helpMisuse? false rest
    else none

/-- A word is a negative number: digits after a dash, perhaps with a point in front of the last
ones. A line break can stand at the end. -/
def isNegativeNumber (text : List Char) : Bool :=
  match if text.getLast? = some '\n' then text.dropLast else text with
  | '-' :: digits =>
    match digits.dropWhile Text.isDigit with
    | [] => !digits.isEmpty
    | '.' :: fraction => !fraction.isEmpty && fraction.all Text.isDigit
    | _ => false
  | _ => false

/-- A switch with a value behind a sign of equality. -/
def withValue (switches : List Switch) (name : String) (value : Option String) : Word :=
  match switches.find? (·.name == name) with
  | some found => .switch found value
  | none => .help (value.map (.surplusValue helpNames))

/-- A word that starts with a dash and is more than that. -/
def readSwitch (switches : List Switch) (text : String) : Except Misuse Word :=
  let characters := text.toList
  let names := helpName :: switches.map Switch.name
  let name := String.ofList (characters.takeWhile (· != '='))
  let value := match characters.dropWhile (· != '=') with
    | [] => none
    | _ :: value => some (String.ofList value)
  if names.contains text then .ok (withValue switches text none)
  else if names.contains name then .ok (withValue switches name value)
  else
    match characters with
    | '-' :: 'h' :: '=' :: tail => .ok (.help (helpMisuse? true tail))
    | '-' :: 'h' :: tail => .ok (.help (helpMisuse? false tail))
    | _ =>
      let candidates := if "--".toList.isPrefixOf characters then
          names.filter fun candidate => name.toList.isPrefixOf candidate.toList
        else []
      match candidates with
      | [candidate] => .ok (withValue switches candidate value)
      | [] =>
        if isNegativeNumber characters || characters.contains ' ' then .ok (.argument text)
        else .ok (.unknown text)
      | candidates => .error (.ambiguous text candidates)

/-- The word that a text is. -/
def read (switches : List Switch) (text : String) : Except Misuse Word :=
  match text.toList with
  | '-' :: _ :: _ => readSwitch switches text
  | _ => .ok (.argument text)

/-- The words of a command line. -/
def readAll (switches : List Switch) : List String → Except Misuse (List Word)
  | [] => .ok []
  | text :: rest =>
    if text == "--" then .ok (divider :: rest.map argument)
    else do return (← read switches text) :: (← readAll switches rest)

end Word

/-- The settings that a command line gives, in order, and the words that belong to no switch. -/
structure Given where
  settings : List (String × Setting)
  others : List String
  deriving DecidableEq

namespace Switch

/-- A setting with a value. -/
def setting (switch : Switch) (value : String) : Except Misuse Setting :=
  match switch.kind with
  | .nothing => .error (.surplusValue switch.name value)
  | .text => .ok (.text value)
  | .whole =>
    match readInteger value with
    | .ok whole => .ok (.whole whole)
    | .error _ => .error (.notWhole switch.name value)
  | .double =>
    match readDouble? value with
    | some number => .ok (.double number)
    | none => .error (.notDouble switch.name value)

end Switch

namespace Switchboard

/-- The rival of a switch among those given before. -/
def rivalOf? (board : Switchboard) (seen : List String) (name : String) : Option String :=
  if board.rivals.contains name then
    board.rivals.find? fun rival => rival != name && seen.contains rival
  else none

/-- A setting for a switch after others were given. -/
def accept (board : Switchboard) (seen : List String) (name : String) (setting : Setting) :
    Except Stop (String × Setting) :=
  match board.rivalOf? seen name with
  | some other => .error (.misuse (.rival name other))
  | none => .ok (name, setting)

/-- The settings and other words of a command line, after some switches were given. -/
def collect (board : Switchboard) (seen : List String) : List Word → Except Stop Given
  | [] => .ok ⟨[], []⟩
  | .help (some misuse) :: _ => .error (.misuse misuse)
  | .help none :: _ => .error .help
  | .argument text :: rest => addOther text (board.collect seen rest)
  | .divider :: rest => addOther "--" (board.collect seen rest)
  | .unknown text :: rest => addOther text (board.collect seen rest)
  | .switch switch (some value) :: rest => do
    let setting ← (switch.setting value).mapError .misuse
    let entry ← board.accept seen switch.name setting
    addSetting entry (board.collect (switch.name :: seen) rest)
  | .switch switch none :: .argument value :: rest => do
    if switch.kind = .nothing then
      let entry ← board.accept seen switch.name .given
      addSetting entry (addOther value (board.collect (switch.name :: seen) rest))
    else
      let setting ← (switch.setting value).mapError .misuse
      let entry ← board.accept seen switch.name setting
      addSetting entry (board.collect (switch.name :: seen) rest)
  | .switch switch none :: rest => do
    if switch.kind = .nothing then
      let entry ← board.accept seen switch.name .given
      addSetting entry (board.collect (switch.name :: seen) rest)
    else throw (.misuse (.missingValue switch.name))
where
  /-- Adds a word that belongs to no switch in front. -/
  addOther (word : String) (given : Except Stop Given) : Except Stop Given :=
    given.map fun given => { given with others := word :: given.others }
  /-- Adds a setting in front. -/
  addSetting (entry : String × Setting) (given : Except Stop Given) : Except Stop Given :=
    given.map fun given => { given with settings := entry :: given.settings }

/-- What has to be given is given. -/
def check (board : Switchboard) (given : Given) : Except Stop Unit := do
  let isGiven := fun (name : String) => given.settings.any (·.1 == name)
  let missing := board.switches.filter fun switch => switch.required && !isGiven switch.name
  if !missing.isEmpty then throw (.misuse (.missing (missing.map Switch.name)))
  if !board.rivals.isEmpty && !board.rivals.any isGiven then
    throw (.misuse (.missingRival board.rivals))

/-- The settings that a command line gives, with the words that belong to no switch. -/
def readKnown (board : Switchboard) (line : List String) : Except Stop Given := do
  let words ← (Word.readAll board.switches line).mapError .misuse
  let given ← board.collect [] words
  board.check given
  return given

/-- The settings that a command line gives. All its words have to belong to switches. -/
def read (board : Switchboard) (line : List String) : Except Stop Given := do
  let given ← board.readKnown line
  if given.others.isEmpty then return given
  else throw (.misuse (.unknownWords given.others))

end Switchboard

namespace Given

/-- The last setting of a switch. -/
def setting? (given : Given) (name : String) : Option Setting :=
  (given.settings.reverse.find? (·.1 == name)).map Prod.snd

/-- A switch is given. -/
def has (given : Given) (name : String) : Bool :=
  (given.setting? name).isSome

/-- The text given for a switch. -/
def text? (given : Given) (name : String) : Option String :=
  match given.setting? name with
  | some (.text value) => some value
  | _ => none

/-- The text given for a switch, empty if there is none. -/
def text (given : Given) (name : String) : String :=
  (given.text? name).getD ""

/-- The whole number given for a switch. -/
def whole? (given : Given) (name : String) : Option Int :=
  match given.setting? name with
  | some (.whole value) => some value
  | _ => none

/-- The double given for a switch. -/
def double? (given : Given) (name : String) : Option Binary64 :=
  match given.setting? name with
  | some (.double value) => some value
  | _ => none

/-- All texts given for a switch, in order. -/
def texts (given : Given) (name : String) : List String :=
  given.settings.filterMap fun
    | (present, .text value) => if present == name then some value else none
    | _ => none

end Given

end Montage
