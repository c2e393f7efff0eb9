import Montage.Yaml.Character
import Montage.Yaml.Token

/-!
Scalars as indented blocks, with their lines kept or folded.
-/

namespace Montage.Yaml

/-- What becomes of the line ends after a block. -/
inductive Chomping where
  | strip
  | clip
  | keep
  deriving DecidableEq, Repr

/-- The first line of a block. -/
structure BlockHeader where
  chomping : Chomping
  /-- The indentation relative to what surrounds the block, if it is given. -/
  increment : Option Nat
  deriving DecidableEq, Repr

/-- The sign for what becomes of the last line ends, if there is one. -/
def takeChomping : List Char → Chomping × List Char
  | '+' :: rest => (.keep, rest)
  | '-' :: rest => (.strip, rest)
  | text => (.clip, text)

/-- A digit other than zero for the indentation, if there is a digit. -/
def takeIncrement : List Char → Except Failure (Option Nat × List Char)
  | character :: rest =>
    if character == '0' then .error .notDocument
    else if character.isDigit then .ok (some (character.toNat - '0'.toNat), rest)
    else .ok (none, character :: rest)
  | [] => .ok (none, [])

/-- The header of a block with its line end. -/
def takeHeader (text : List Char) : Except Failure (BlockHeader × List Char) := do
  let (before, rest) := takeChomping text
  let (increment, rest) ← takeIncrement rest
  let (after, rest) := if before = .clip && increment.isSome then takeChomping rest
    else (before, rest)
  if !(atLineEnd rest || rest.head? == some ' ') then throw .notDocument
  let rest := skipComment rest
  if !atLineEnd rest then throw .notDocument
  return (⟨after, increment⟩, rest.drop 1)

/-- Lines of spaces: their line ends, the most spaces of one of them, the spaces of the last one,
and what follows. -/
def takeIndentation (column widest : Nat) : List Char → List Char × Nat × Nat × List Char
  | [] => ([], widest, column, [])
  | character :: rest =>
    if character == ' ' then takeIndentation (column + 1) (max widest (column + 1)) rest
    else if isBreak character then
      let (breaks, after) := takeIndentation 0 widest rest
      (breakValue character :: breaks, after)
    else ([], widest, column, character :: rest)

/-- The empty lines here and the spaces of the next line up to an indentation: the line ends, the
number of these spaces, and what follows. -/
def takeBlockGap (indent column : Nat) : List Char → List Char × Nat × List Char
  | [] => ([], column, [])
  | character :: rest =>
    if character == ' ' && column < indent then takeBlockGap indent (column + 1) rest
    else if isBreak character then
      let (breaks, after) := takeBlockGap indent 0 rest
      (breakValue character :: breaks, after)
    else ([], column, character :: rest)

/-- What stands between two lines of a block for the line end and the empty lines between them. -/
def joinLines (folded : Bool) (line next lineEnd breaks : List Char) : List Char :=
  if folded && lineEnd == ['\n'] && !line.head?.any isGap && !next.head?.any isGap then
    if breaks.isEmpty then [' '] else breaks
  else lineEnd ++ breaks

private def takeLines (folded : Bool) (chomping : Chomping) (indent : Nat) :
    Nat → List Char → List Char × List Char
  | 0, text => ([], text)
  | fuel + 1, text =>
    let line := text.takeWhile (!isBreak ·)
    let (lineEnd, after) := match text.dropWhile (!isBreak ·) with
      | [] => ([], [])
      | character :: rest => ([breakValue character], rest)
    let (breaks, column, rest) := takeBlockGap indent 0 after
    if column = indent && !rest.isEmpty then
      let (more, left) := takeLines folded chomping indent fuel rest
      (line ++ joinLines folded line rest lineEnd breaks ++ more, left)
    else
      let kept := match chomping with
        | .strip => []
        | .clip => lineEnd
        | .keep => lineEnd ++ breaks
      (line ++ kept, rest)

/-- The block whose text starts after its indicator, in surroundings of an indentation. -/
def takeBlock (folded : Bool) (surrounding : Int) (text : List Char) :
    Except Failure (String × List Char) := do
  let least := (max (surrounding + 1) 1).toNat
  let (header, text) ← takeHeader text
  let (breaks, indent, column, text) := match header.increment with
    | none =>
      let (breaks, widest, column, rest) := takeIndentation 0 0 text
      (breaks, max least widest, column, rest)
    | some increment =>
      let indent := least + increment - 1
      let (breaks, column, rest) := takeBlockGap indent 0 text
      (breaks, indent, column, rest)
  if column = indent && !text.isEmpty then
    let (lines, rest) := takeLines folded header.chomping indent (text.length + 1) text
    return (String.ofList (breaks ++ lines), rest)
  else return (String.ofList (if header.chomping = .keep then breaks else []), text)

end Montage.Yaml
