import Montage.Number.Decimal
import Montage.Yaml.Tag

/-!
Records written as YAML: a mapping whose values are texts, lists of texts or nothing.

Text is written in ASCII, plain where it reads back as the same text, else in quotes. Long lines
are folded at single spaces.
-/

namespace Montage.Yaml

/-- A value of a record. -/
inductive Entry where
  | nothing
  | text (value : String)
  | list (items : List String)
  deriving DecidableEq, Repr

/-- How a text is written. -/
inductive Style where
  | plain
  | single
  | double
  deriving DecidableEq, Repr

/-- A character that only double quotes can show. -/
def needsEscape (character : Char) : Bool :=
  !(character == '\n' || (0x20 ≤ character.toNat && character.toNat ≤ 0x7E))

/-- A blank or nothing comes next. -/
def isFollowedByBlank (rest : List Char) : Bool :=
  rest.head?.all fun character => character == ' ' || character == '\n'

/-- The characters that a plain scalar cannot start with. -/
def leadingIndicators : List Char :=
  ['#', ',', '[', ']', '{', '}', '&', '*', '!', '|', '>', '\'', '"', '%', '@', '\x60']

/-- The first character of a text would be read as something else. -/
def startsBadly : List Char → Bool
  | [] => false
  | character :: rest =>
    leadingIndicators.contains character ||
      ((character == '?' || character == ':' || character == '-') && isFollowedByBlank rest)

/-- A colon before a blank or a sharp sign after one stands in what follows a character. -/
def holdsIndicator (previous : Char) : List Char → Bool
  | [] => false
  | character :: rest =>
    (character == ':' && isFollowedByBlank rest) ||
      (character == '#' && (previous == ' ' || previous == '\n')) || holdsIndicator character rest

/-- A text that can be written without quotes. -/
def isPlainText (text : List Char) : Bool :=
  !text.any (fun character => needsEscape character || character == '\n') &&
    text.head? != some ' ' && text.getLast? != some ' ' && !startsBadly text &&
    !(match text with
      | [] => false
      | first :: rest => holdsIndicator first rest) &&
    !"---".toList.isPrefixOf text && !"...".toList.isPrefixOf text

/-- Two characters that stand next to each other in a text. -/
def holdsPair (first second : Char) : List Char → Bool
  | left :: right :: rest =>
    (left == first && right == second) || holdsPair first second (right :: rest)
  | _ => false

/-- A text that single quotes can show. -/
def isSingleText (text : List Char) : Bool :=
  !text.any needsEscape && !holdsPair ' ' '\n' text && !holdsPair '\n' ' ' text

/-- How a text is written: plain if it then is read as text. -/
def styleOf (text : String) : Style :=
  let characters := text.toList
  if Tag.implicit text == .text && isPlainText characters then .plain
  else if isSingleText characters then .single
  else .double

/-- The column after which lines are folded. -/
def foldColumn : Nat := 80

/-- The spaces that a folded line starts with. -/
def foldIndent : List Char := [' ', ' ']

/-- The line end within a folded text. -/
def fold : List Char := '\n' :: foldIndent

/-- A text as runs of spaces, of line ends and of other characters. -/
def runsOf : List Char → List (List Char)
  | [] => []
  | character :: rest =>
    let kind := fun (character : Char) => (character == ' ', character == '\n')
    match runsOf rest with
    | (other :: run) :: runs =>
      if kind other == kind character then (character :: other :: run) :: runs
      else [character] :: (other :: run) :: runs
    | runs => [character] :: runs

/-- Runs written plain from a column on. -/
def printPlainRuns (column : Nat) : List (List Char) → List Char
  | [] => []
  | run :: rest =>
    if run == [' '] && column > foldColumn then fold ++ printPlainRuns foldIndent.length rest
    else run ++ printPlainRuns (column + run.length) rest

/-- Runs written between single quotes from a column on. A line end is written twice. -/
def printSingleRuns (first : Bool) (column : Nat) : List (List Char) → List Char
  | [] => []
  | run :: rest =>
    if run == [' '] && column > foldColumn && !first && !rest.isEmpty then
      fold ++ printSingleRuns false foldIndent.length rest
    else if run.head? == some '\n' then
      '\n' :: run ++ foldIndent ++ printSingleRuns false foldIndent.length rest
    else
      let shown := run.flatMap fun character =>
        if character == '\'' then ['\'', '\''] else [character]
      shown ++ printSingleRuns false (column + shown.length) rest

/-- What stands for a character after a backslash. -/
def shortEscapes : List (Char × Char) :=
  [('\x00', '0'), ('\x07', 'a'), ('\x08', 'b'), ('\t', 't'), ('\n', 'n'), ('\x0b', 'v'),
   ('\x0c', 'f'), ('\r', 'r'), ('\x1b', 'e'), ('"', '"'), ('\\', '\\'), ('\u0085', 'N'),
   ('\u00a0', '_'), ('\u2028', 'L'), ('\u2029', 'P')]

private def hexDigits (width code : Nat) : List Char :=
  let digits := (Nat.toDigits 16 code).map Char.toUpper
  List.replicate (width - digits.length) '0' ++ digits

/-- A character in double quotes, if it is not shown as it is. -/
def escape? (character : Char) : Option (List Char) :=
  let code := character.toNat
  match shortEscapes.lookup character with
  | some letter => some ['\\', letter]
  | none =>
    if !needsEscape character then none
    else if code ≤ 0xFF then some ('\\' :: 'x' :: hexDigits 2 code)
    else if code ≤ 0xFFFF then some ('\\' :: 'u' :: hexDigits 4 code)
    else some ('\\' :: 'U' :: hexDigits 8 code)

/-- The fold before a character in double quotes, and the column after it. A space at the start of
a line is escaped. -/
def foldBefore (next : Option Char) : List Char × Nat :=
  if next == some ' ' then ('\\' :: fold ++ ['\\'], foldIndent.length + 1)
  else ('\\' :: fold, foldIndent.length)

/-- A text written between double quotes from a column on. It can be folded before a space, and
between an escape and what stands next to it. -/
def printDouble (first afterEscape : Bool) (column : Nat) : List Char → List Char
  | [] => []
  | character :: rest =>
    let inside := !first && !rest.isEmpty
    match escape? character with
    | some escaped =>
      let column := column + escaped.length
      if inside && column > foldColumn + 1 then
        let (folded, column) := foldBefore rest.head?
        escaped ++ folded ++ printDouble false true column rest
      else escaped ++ printDouble false true column rest
    | none =>
      if inside && (character == ' ' || afterEscape) && column > foldColumn then
        let (folded, column) := foldBefore (some character)
        folded ++ character :: printDouble false false (column + 1) rest
      else character :: printDouble false false (column + 1) rest

/-- A text written from a column on. -/
def printText (column : Nat) (text : String) : List Char :=
  let characters := text.toList
  match styleOf text with
  | .plain => printPlainRuns column (runsOf characters)
  | .single => '\'' :: printSingleRuns true (column + 1) (runsOf characters) ++ ['\'']
  | .double => '"' :: printDouble true true (column + 1) characters ++ ['"']

/-- The text of nothing. -/
def nullText : String := "null"

/-- A value of a record with its key, which has to be a plain word. -/
def printEntry (key : String) (entry : Entry) : List Char :=
  let start := key.toList ++ [':', ' ']
  match entry with
  | .nothing => start ++ nullText.toList ++ ['\n']
  | .text value => start ++ printText start.length value ++ ['\n']
  | .list [] => start ++ ['[', ']', '\n']
  | .list items => key.toList ++ [':', '\n'] ++
      items.flatMap fun item => '-' :: ' ' :: printText 2 item ++ ['\n']

/-- A record as YAML, its entries in order. -/
def print (entries : List (String × Entry)) : String :=
  String.ofList (entries.flatMap fun (key, entry) => printEntry key entry)

end Montage.Yaml
