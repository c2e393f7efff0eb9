import Montage.Text.Printable

/-!
Text quoted for a message: in single quotes, or in double ones if it holds a single quote and no
double one, with escapes for what does not show.
-/

namespace Montage.Text

private def hexText (width code : Nat) : String :=
  let digits := Nat.toDigits 16 code
  String.ofList (List.replicate (width - digits.length) '0' ++ digits)

/-- One character of a text that stands in `quote`s. -/
def quoteCharacter (quote character : Char) : String :=
  let code := character.toNat
  if character == quote || character == '\\' then String.ofList ['\\', character]
  else if character == '\n' then "\\n"
  else if character == '\r' then "\\r"
  else if character == '\t' then "\\t"
  else if isPrintable character then character.toString
  else if code < 0x100 then "\\x" ++ hexText 2 code
  else if code < 0x10000 then "\\u" ++ hexText 4 code
  else "\\U" ++ hexText 8 code

/-- The quote that a text is put in. -/
def quoteFor (text : List Char) : Char :=
  if text.contains '\'' && !text.contains '"' then '"' else '\''

/-- The text in quotes. -/
def quote (text : String) : String :=
  let mark := quoteFor text.toList
  mark.toString ++ String.join (text.toList.map (quoteCharacter mark)) ++ mark.toString

/-- Bytes in quotes, those outside ASCII as escapes. -/
def quoteBytes (bytes : List UInt8) : String :=
  let characters := bytes.map fun byte => Char.ofNat byte.toNat
  let mark := quoteFor characters
  let shown := characters.map fun character =>
    if character.toNat < 0x7F then quoteCharacter mark character
    else "\\x" ++ hexText 2 character.toNat
  "b" ++ mark.toString ++ String.join shown ++ mark.toString

end Montage.Text
