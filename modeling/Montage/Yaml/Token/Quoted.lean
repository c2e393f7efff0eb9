import Montage.Yaml.Character
import Montage.Yaml.Token

/-!
Scalars in quotes. Line ends in them are folded: one is a space, more are one less.
-/

namespace Montage.Yaml

/-- What a character after a backslash stands for. -/
def escapes : List (Char × Char) :=
  [('0', '\x00'), ('a', '\x07'), ('b', '\x08'), ('t', '\t'), ('\t', '\t'), ('n', '\n'),
   ('v', '\x0b'), ('f', '\x0c'), ('r', '\r'), ('e', '\x1b'), (' ', ' '), ('"', '"'),
   ('\\', '\\'), ('/', '/'), ('N', '\u0085'), ('_', '\u00a0'), ('L', '\u2028'), ('P', '\u2029')]

/-- How many hexadecimal digits follow a character after a backslash. -/
def codeLength? (character : Char) : Option Nat :=
  [('x', 2), ('u', 4), ('U', 8)].lookup character

/-- The character of a code. -/
def ofCode (code : Nat) : Except Failure Char :=
  if code < 0x110000 then .ok (Char.ofNat code)
  else if code < 0x80000000 then .error (.argument .notCharacter)
  else .error (.fault .outOfRange)

/-- The empty lines here and the gap before what follows them. A division of documents cannot
come in between. -/
def takeEmptyLines (text : List Char) : Except Failure (List Char × List Char) :=
  go (text.length + 1) text
where
  /-- The line ends of at most so many lines. -/
  go : Nat → List Char → Except Failure (List Char × List Char)
    | 0, text => .ok ([], text)
    | fuel + 1, text =>
      if atDivision text then .error .notDocument
      else
        match text.dropWhile isGap with
        | [] => .ok ([], [])
        | character :: rest =>
          if isBreak character then do
            let (breaks, rest) ← go fuel rest
            return (breakValue character :: breaks, rest)
          else .ok ([], character :: rest)

/-- A gap in quotes and what it is folded to. -/
def takeQuotedGap (text : List Char) : Except Failure (List Char × List Char) :=
  match text.dropWhile isGap with
  | [] => .error .notDocument
  | character :: rest =>
    if isBreak character then do
      let (breaks, rest) ← takeEmptyLines rest
      let first := if breakValue character != '\n' then [character]
        else if breaks.isEmpty then [' '] else []
      return (first ++ breaks, rest)
    else .ok (text.takeWhile isGap, character :: rest)

/-- What a backslash and the text after it stand for. -/
def takeEscape : List Char → Except Failure (List Char × List Char)
  | [] => .error .notDocument
  | character :: rest =>
    match escapes.lookup character with
    | some value => .ok ([value], rest)
    | none =>
      match codeLength? character with
      | some count =>
        match takeHex? count rest with
        | some (code, rest) => do return ([← ofCode code], rest)
        | none => .error .notDocument
      | none => if isBreak character then takeEmptyLines rest else .error .notDocument

/-- The next piece of a scalar in quotes, none at the closing quote. -/
def takePiece (double : Bool) :
    List Char → Except Failure (Option (List Char) × List Char)
  | [] => .error .notDocument
  | character :: rest =>
    if !double && character == '\'' && rest.head? == some '\'' then .ok (some ['\''], rest.drop 1)
    else if character == (if double then '"' else '\'') then .ok (none, rest)
    else if double && character == '\\' then do
      let (piece, rest) ← takeEscape rest
      return (some piece, rest)
    else if isGap character || isBreak character then do
      let (piece, rest) ← takeQuotedGap (character :: rest)
      return (some piece, rest)
    else .ok (some [character], rest)

private def takePieces (double : Bool) :
    Nat → List Char → Except Failure (List Char × List Char)
  | 0, _ => .error .notDocument
  | fuel + 1, text => do
    match ← takePiece double text with
    | (none, rest) => return ([], rest)
    | (some piece, rest) =>
      let (pieces, rest) ← takePieces double fuel rest
      return (piece ++ pieces, rest)

/-- The scalar whose text starts after the opening quote. -/
def takeQuoted (double : Bool) (text : List Char) : Except Failure (String × List Char) := do
  let (scalar, rest) ← takePieces double (text.length + 1) text
  return (String.ofList scalar, rest)

end Montage.Yaml
