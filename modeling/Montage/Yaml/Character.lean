/-!
Characters of a YAML stream, and what the reader looks for ahead of itself.

Line ends are single newlines here, and three more characters that end lines.
-/

namespace Montage.Yaml

/-- A character that a stream can hold. -/
def isAllowed (character : Char) : Bool :=
  let code := character.toNat
  code == 0x09 || code == 0x0A || code == 0x0D || (0x20 ≤ code && code ≤ 0x7E) || code == 0x85 ||
    (0xA0 ≤ code && code ≤ 0xFFFD) || 0x10000 ≤ code

/-- The mark that can stand at the start of a stream. -/
def byteOrderMark : Char := '\ufeff'

/-- A character that ends a line. -/
def isBreak (character : Char) : Bool :=
  character == '\n' || character == '\u0085' || character == '\u2028' || character == '\u2029'

/-- What a line end stands for in a scalar. -/
def breakValue (character : Char) : Char :=
  if character == '\u2028' || character == '\u2029' then character else '\n'

/-- A space or a tab. -/
def isGap (character : Char) : Bool :=
  character == ' ' || character == '\t'

/-- The line ends here, perhaps because the stream does. -/
def atLineEnd : List Char → Bool
  | [] => true
  | character :: _ => isBreak character

/-- A word ends here: at a gap, with the line or with the stream. -/
def atWordEnd : List Char → Bool
  | [] => true
  | character :: _ => isGap character || isBreak character

/-- A word of three of the same characters, as it divides documents. -/
def isTriple (mark : Char) (text : List Char) : Bool :=
  [mark, mark, mark].isPrefixOf text && atWordEnd (text.drop 3)

/-- A document starts or ends here, if a line does. -/
def atDivision (text : List Char) : Bool :=
  isTriple '-' text || isTriple '.' text

/-- What follows a comment, if there is one, and the spaces before it. -/
def skipComment (text : List Char) : List Char :=
  match text.dropWhile (· == ' ') with
  | '#' :: rest => rest.dropWhile (!isBreak ·)
  | rest => rest

/-- A digit of a hexadecimal number. -/
def hexValue? (character : Char) : Option Nat :=
  if character.isDigit then some (character.toNat - '0'.toNat)
  else if 'a' ≤ character && character ≤ 'f' then some (character.toNat - 'a'.toNat + 10)
  else if 'A' ≤ character && character ≤ 'F' then some (character.toNat - 'A'.toNat + 10)
  else none

/-- The number that so many hexadecimal digits write, and what follows them. -/
def takeHex? (count : Nat) (text : List Char) : Option (Nat × List Char) :=
  if text.length < count then none
  else do
    let digits ← (text.take count).mapM hexValue?
    return (digits.foldl (fun value digit => value * 16 + digit) 0, text.drop count)

end Montage.Yaml
