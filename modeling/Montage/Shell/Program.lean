import Montage.Number.Reading
import Montage.Text.Utf8

/-!
Small programs that scripts call: they write texts and numbers, pass on what they read, or wait.
-/

namespace Montage.Shell

/-- What a program reads: bytes, and then others over and over, none if it ends. -/
structure Feed where
  bytes : List UInt8
  cycle : List UInt8
  deriving DecidableEq

/-- Nothing to read. -/
def Feed.empty : Feed := ⟨[], []⟩

/-- Bytes that begin with this many repetitions of those that come over and over. -/
def Feed.start (feed : Feed) (repetitions : Nat) : List UInt8 :=
  feed.bytes ++ (List.replicate repetitions feed.cycle).flatten

/-- What a program does: it waits, writes to its two channels, and ends with a status unless it
goes on writing the same bytes. -/
structure Effect where
  output : List UInt8 := []
  errors : List UInt8 := []
  status : Nat := 0
  cycle : List UInt8 := []
  micros : Nat := 0

/-- A program. -/
abbrev Program := (arguments : List String) → Feed → Effect

/-- A program that writes a text. -/
def Effect.ofText (text : String) : Effect := { output := Text.encodeUtf8 text }

/-- A program that complains. -/
def Effect.complaint (status : Nat) (text : String) : Effect :=
  { errors := Text.encodeUtf8 (text ++ "\n"), status }

/-! ### Escapes -/

/-- The byte that a letter stands for behind a backslash. -/
def escapedByte? : Char → Option UInt8
  | 'a' => some 7
  | 'b' => some 8
  | 't' => some 9
  | 'n' => some 10
  | 'v' => some 11
  | 'f' => some 12
  | 'r' => some 13
  | '\\' => some 92
  | _ => none

/-- An octal digit. -/
def isOctal (character : Char) : Bool := '0' ≤ character && character ≤ '7'

/-- The byte that at most so many octal digits write, and what follows them. -/
def takeOctal (limit : Nat) (text : List Char) : UInt8 × List Char :=
  let digits := (text.take limit).takeWhile isOctal
  let value := digits.foldl (fun value digit => value * 8 + (digit.toNat - '0'.toNat)) 0
  (UInt8.ofNat value, text.drop digits.length)

/-- The bytes of a text with escapes, and whether it ends early. Only in an argument a `c` behind
a backslash ends it, and a zero can stand in front of three octal digits. -/
def unescape (inArgument : Bool) : Nat → List Char → List UInt8 × Bool
  | 0, _ => ([], false)
  | fuel + 1, text =>
    let add := fun (bytes : List UInt8) (rest : List Char) =>
      let (more, stopped) := unescape inArgument fuel rest
      (bytes ++ more, stopped)
    match text with
    | [] => ([], false)
    | '\\' :: next :: rest =>
      if inArgument && next == 'c' then ([], true)
      else
        match escapedByte? next with
        | some byte => add [byte] rest
        | none =>
          if isOctal next then
            let digits := if inArgument && next == '0' then rest else next :: rest
            let (byte, rest) := takeOctal 3 digits
            add [byte] rest
          else add [92] (next :: rest)
    | character :: rest => add (Text.encodeUtf8 character.toString) rest

/-- The bytes of an argument with escapes, and whether it ends early. -/
def unescapeArgument (text : String) : List UInt8 × Bool :=
  unescape true (text.length + 1) text.toList

/-! ### Formats -/

/-- A place of a format at which an argument is written. -/
structure Directive where
  left : Bool
  zeros : Bool
  width : Nat
  precision : Option Nat
  kind : Char
  deriving DecidableEq, Repr

/-- A part of a format. -/
inductive FormatPart where
  | bytes (bytes : List UInt8)
  | directive (directive : Directive)
  deriving DecidableEq

/-- A directive without the percent sign, and what follows it. -/
def takeDirective? (text : List Char) : Option (Directive × List Char) :=
  let flags := text.takeWhile "-0+# ".toList.contains
  let text := text.drop flags.length
  let width := text.takeWhile Char.isDigit
  let text := text.drop width.length
  let (precision, text) := match text with
    | '.' :: rest =>
      let digits := rest.takeWhile Char.isDigit
      (some (Text.digitsValue digits), rest.drop digits.length)
    | text => (none, text)
  match text with
  | kind :: rest =>
    if "sdiuxXocb".toList.contains kind then
      some (⟨flags.contains '-', flags.contains '0', Text.digitsValue width, precision, kind⟩, rest)
    else none
  | [] => none

/-- The parts of a format, up to a directive that is none. -/
def formatParts : Nat → List Char → List FormatPart
  | 0, _ => []
  | fuel + 1, text =>
    match text with
    | [] => []
    | '%' :: '%' :: rest => .bytes [37] :: formatParts fuel rest
    | '%' :: rest =>
      match takeDirective? rest with
      | some (directive, rest) => .directive directive :: formatParts fuel rest
      | none => []
    | text =>
      let plain := text.takeWhile (· != '%')
      .bytes (unescape false (plain.length + 1) plain).1 ::
        formatParts fuel (text.drop plain.length)

/-- A number in a base below seventeen. -/
def baseText (base : Nat) (number : Int) : List Char :=
  (if number < 0 then ['-'] else []) ++ Nat.toDigits base number.natAbs

/-- An argument as a directive writes it, before it is padded, and a complaint about it. -/
def Directive.body (directive : Directive) (argument : String) : List UInt8 × List UInt8 :=
  let number := match readInteger argument with
    | .ok number => (number, [])
    | .error _ =>
      (0, if argument.isEmpty then [] else
        Text.encodeUtf8 ("printf: " ++ argument ++ ": expected numeric value\n"))
  let digits := fun (base : Nat) =>
    (Text.encodeUtf8 (String.ofList (baseText base number.1)), number.2)
  match directive.kind with
  | 'd' | 'i' | 'u' => digits 10
  | 'o' => digits 8
  | 'x' => digits 16
  | 'X' =>
    let (bytes, complaint) := digits 16
    (bytes.map fun byte => if 97 ≤ byte then byte - 32 else byte, complaint)
  | 'c' => ((Text.encodeUtf8 argument).take 1, [])
  | 'b' => ((unescapeArgument argument).1, [])
  | _ =>
    let bytes := Text.encodeUtf8 argument
    ((directive.precision.map bytes.take).getD bytes, [])

/-- An argument as a directive writes it, and a complaint about it. -/
def Directive.write (directive : Directive) (argument : String) : List UInt8 × List UInt8 :=
  let (body, complaint) := directive.body argument
  let numeric := "diuxXo".toList.contains directive.kind
  let padding := fun (byte : UInt8) => List.replicate (directive.width - body.length) byte
  let padded :=
    if directive.left then body ++ padding 32
    else if directive.zeros && numeric then
      match body with
      | 45 :: digits => 45 :: (padding 48 ++ digits)
      | digits => padding 48 ++ digits
    else padding 32 ++ body
  (padded, complaint)

/-- What the parts of a format write for arguments, the complaints, and the arguments left. -/
def writeParts : List FormatPart → List String → List UInt8 × List UInt8 × List String
  | [], arguments => ([], [], arguments)
  | .bytes bytes :: rest, arguments =>
    let (written, complaints, left) := writeParts rest arguments
    (bytes ++ written, complaints, left)
  | .directive directive :: rest, arguments =>
    let (bytes, complaint) := directive.write (arguments.head?.getD "")
    let (written, complaints, left) := writeParts rest (arguments.drop 1)
    (bytes ++ written, complaint ++ complaints, left)

/-- What a format writes, over and over as long as it takes arguments. -/
def writeFormat (parts : List FormatPart) : Nat → List String → List UInt8 × List UInt8
  | 0, _ => ([], [])
  | fuel + 1, arguments =>
    let (written, complaints, left) := writeParts parts arguments
    if left.isEmpty || left.length = arguments.length then (written, complaints)
    else
      let (more, moreComplaints) := writeFormat parts fuel left
      (written ++ more, complaints ++ moreComplaints)

/-! ### Programs -/

/-- Writes its arguments by a format. -/
def printf : Program
  | [], _ => .complaint 2 "printf: usage: printf format [arg ...]"
  | format :: arguments, _ =>
    let parts := formatParts (format.length + 1) format.toList
    let (output, errors) := writeFormat parts (arguments.length + 1) arguments
    { output, errors, status := if errors.isEmpty then 0 else 1 }

/-- Texts with blanks between them. -/
def joined (arguments : List String) : String := String.intercalate " " arguments

/-- Writes its arguments in a line. Escapes are read; the option `-n` leaves the line open. -/
def echo : Program := fun arguments _ =>
  let (ending, arguments) : List UInt8 × List String := match arguments with
    | "-n" :: rest => ([], rest)
    | all => ([10], all)
  let (bytes, stopped) := unescapeArgument (joined arguments)
  { output := if stopped then bytes else bytes ++ ending }

/-- Writes its arguments in a line as they are. The option `-n` leaves the line open, and `-e` has
escapes read. -/
def plainEcho : Program
  | "-n" :: rest, _ => .ofText (joined rest)
  | "-e" :: rest, feed => echo rest feed
  | arguments, _ => .ofText (joined arguments ++ "\n")

/-- The number of microseconds that a length of time writes: a decimal number with a unit. -/
def readMicros? (text : String) : Option Nat :=
  let characters := text.toList
  let (characters, unit) := match characters.getLast? with
    | some 's' => (characters.dropLast, 1)
    | some 'm' => (characters.dropLast, 60)
    | some 'h' => (characters.dropLast, 3600)
    | some 'd' => (characters.dropLast, 86400)
    | _ => (characters, 1)
  let whole := characters.takeWhile Char.isDigit
  let fraction := match characters.drop whole.length with
    | [] => some []
    | '.' :: rest => if rest.all Char.isDigit then some rest else none
    | _ => none
  fraction.bind fun fraction =>
    if whole.isEmpty && fraction.isEmpty then none
    else
      let digits := Text.digitsValue (whole ++ fraction)
      some (digits * unit * 1000000 / Nat.pow 10 fraction.length)

/-- Waits. -/
def sleep : Program := fun arguments _ =>
  let hint := "\nTry 'sleep --help' for more information."
  match arguments.find? fun argument => (readMicros? argument).isNone with
  | some argument => .complaint 1 ("sleep: invalid time interval ‘" ++ argument ++ "’" ++ hint)
  | none =>
    if arguments.isEmpty then .complaint 1 ("sleep: missing operand" ++ hint)
    else { micros := (arguments.filterMap readMicros?).foldl Nat.add 0 }

/-- Writes a line over and over. -/
def yes : Program := fun arguments _ =>
  { cycle := Text.encodeUtf8 ((if arguments.isEmpty then "y" else joined arguments) ++ "\n") }

/-- The first lines of bytes. -/
def takeLines : Nat → List UInt8 → List UInt8
  | 0, _ => []
  | _ + 1, [] => []
  | count + 1, byte :: rest =>
    byte :: takeLines (if byte = 10 then count else count + 1) rest

/-- Passes on the first lines or bytes of what it reads: ten lines if nothing is said. -/
def head : Program := fun arguments feed =>
  let count := fun (digits : String) => Text.digitsValue digits.toList
  let lines := fun (count : Nat) => ({ output := takeLines count (feed.start count) } : Effect)
  match arguments with
  | ["-n", digits] => lines (count digits)
  | ["-c", digits] => { output := (feed.start (count digits)).take (count digits) }
  | [option] =>
    match option.toList with
    | '-' :: 'n' :: digits => lines (Text.digitsValue digits)
    | '-' :: 'c' :: digits =>
      { output := (feed.start (Text.digitsValue digits)).take (Text.digitsValue digits) }
    | '-' :: digits => lines (Text.digitsValue digits)
    | _ => .complaint 1
      ("head: cannot open '" ++ option ++ "' for reading: No such file or directory")
  | _ => lines 10

/-- Passes on what it reads. -/
def cat : Program
  | [], feed => { output := feed.bytes, cycle := feed.cycle }
  | name :: _, _ => .complaint 1 ("cat: " ++ name ++ ": No such file or directory")

/-- Counts in lines, from one number to another by steps. -/
def seq : Program := fun arguments _ =>
  let numbers := arguments.filterMap fun argument => (readInteger argument).toOption
  let row := fun (first step last : Int) =>
    let count := if step = 0 then 0 else (Int.fdiv (last - first) step + 1).toNat
    Effect.ofText (String.join ((List.range count).map fun (index : Nat) =>
      String.ofList (baseText 10 (first + step * index)) ++ "\n"))
  match numbers with
  | [last] => row 1 1 last
  | [first, last] => row first 1 last
  | [first, step, last] => row first step last
  | _ => .complaint 1 "seq: missing operand\nTry 'seq --help' for more information."

/-- A program that only ends with a status. -/
def ending (status : Nat) : Program := fun _ _ => { status }

/-- The programs that can be called by name. -/
def programs : List (String × Program) :=
  [("cat", cat), ("echo", plainEcho), ("false", ending 1), ("head", head), ("printf", printf),
   ("seq", seq), ("sleep", sleep), ("true", ending 0), ("yes", yes)]

/-- The programs that the shell has of its own. -/
def builtins : List (String × Program) :=
  [(":", ending 0), ("echo", echo), ("false", ending 1), ("printf", printf), ("true", ending 0)]

/-- Directories in which programs are. -/
def programDirectories : List String := ["/bin/", "/usr/bin/"]

/-- The name of a program that is called by its path. -/
def baseName (path : String) : String :=
  let found := programDirectories.find? fun directory => directory.toList.isPrefixOf path.toList
  String.ofList (path.toList.drop ((found.map String.length).getD 0))

/-- The program at a path or of a name. -/
def program? (path : String) : Option Program :=
  programs.lookup (baseName path)

end Montage.Shell
