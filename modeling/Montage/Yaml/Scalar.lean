import Montage.Text.Letter
import Montage.Yaml.Tag
import Montage.Yaml.Timestamp

/-!
What the texts of scalars stand for, by their kinds.
-/

namespace Montage.Yaml

/-- The text without underscores. -/
def dropUnderscores (text : String) : List Char :=
  text.toList.filter (· != '_')

/-- The value of a digit below a base. -/
def digitIn? (base : Nat) (character : Char) : Option Nat :=
  ((hexValue? character).or (Text.digitValue? character)).filter (· < base)

/-- The whole number that a text writes in a base that is a power of two. -/
def readPower (base : Nat) (mark : Char) (text : List Char) : Except Failure Int :=
  let (negative, unsigned) := takeSign (trimNumber (String.ofList text))
  let digits := match unsigned with
    | '0' :: letter :: rest => if letter.toLower == mark then rest else unsigned
    | _ => unsigned
  match digits.mapM (digitIn? base) with
  | some (first :: rest) =>
    let magnitude : Nat := (first :: rest).foldl (fun value digit => value * base + digit) 0
    .ok (if negative then -(magnitude : Int) else magnitude)
  | _ => .error (.argument (.notInteger base (String.ofList text)))

/-- The whole number that a text writes in decimal. -/
def readDecimal (text : List Char) : Except Failure Int :=
  match readInteger (String.ofList text) with
  | .ok whole => .ok whole
  | .error .malformed => .error (.argument (.notInteger 10 (String.ofList text)))
  | .error (.tooLong digits) => .error (.argument (.integerTooLong (some digits)))

/-- A sign, if there is one, and what follows it. There has to be something. -/
def takeSignOf (text : List Char) : Except Failure (Int × List Char) :=
  match text with
  | [] => .error (.fault .outOfBounds)
  | '-' :: rest => .ok (-1, rest)
  | '+' :: rest => .ok (1, rest)
  | text => .ok (1, text)

/-- A whole number: binary, octal, decimal, hexadecimal or sexagesimal. -/
def readWhole (text : String) : Except Failure Int := do
  let (sign, digits) ← takeSignOf (dropUnderscores text)
  match digits with
  | [] => throw (.fault .outOfBounds)
  | ['0'] => return 0
  | '0' :: 'b' :: rest => return sign * (← readPower 2 'b' rest)
  | '0' :: 'x' :: rest => return sign * (← readPower 16 'x' rest)
  | '0' :: _ => return sign * (← readPower 8 'o' digits)
  | _ =>
    if digits.contains ':' then
      let parts ← (splitColons digits).mapM readDecimal
      return sign * parts.foldl (fun value part => value * 60 + part) 0
    else return sign * (← readDecimal digits)

/-- A double in decimal. -/
def readDouble (text : List Char) : Except Failure Binary64 :=
  match readDouble? (String.ofList text) with
  | some value => .ok value
  | none => .error (.argument (.notDouble (String.ofList text)))

/-- Adds sixtieths to a sum, the lowest first, for which a power of sixty has been reached. -/
def addSixtieths (sum : Binary64) (power : Nat) : List Binary64 → Except Failure Binary64
  | [] => .ok sum
  | part :: rest =>
    match Binary64.ofInt? power with
    | some weight => addSixtieths (sum + part * weight) (power * 60) rest
    | none => .error (.fault .outOfRange)

/-- A number with a point: decimal, sexagesimal, infinite or no number. -/
def readFloat (text : String) : Except Failure Binary64 := do
  let lowered := (Text.lower (String.ofList (dropUnderscores text))).toList
  let (sign, digits) ← takeSignOf lowered
  let signed := fun (value : Binary64) => if sign < 0 then -value else value
  if digits == ".inf".toList then return signed (.infinite false)
  else if digits == ".nan".toList then return .nan
  else if digits.contains ':' then
    let parts ← (splitColons digits).mapM readDouble
    return signed (← addSixtieths .zero 1 parts.reverse)
  else return signed (← readDouble digits)

/-- A truth value in letters of any case. -/
def readTruth (text : String) : Except Failure Bool :=
  match truthWords.lookup (Text.lower text) with
  | some value => .ok value
  | none => .error (.fault .unknownKey)

/-- A date or a date-time, perhaps with a line end after it. -/
def readTimestamp (text : String) : Except Failure Value :=
  let characters := text.toList
  let line := if characters.getLast? == some '\n' then characters.dropLast else characters
  match readTimestampText? line with
  | some read => read.value.mapError fun fault => .argument (.outsideCalendar fault)
  | none => .error (.fault .notText)

/-- The six bits that a character of base 64 stands for. -/
def sixBits? (character : Char) : Option Nat :=
  if character.isUpper then some (character.toNat - 'A'.toNat)
  else if character.isLower then some (character.toNat - 'a'.toNat + 26)
  else if character.isDigit then some (character.toNat - '0'.toNat + 52)
  else if character == '+' then some 62
  else if character == '/' then some 63
  else none

/-- The bytes of a text in base 64, whose characters so far leave some bits over: how many
characters of a group of four were read, the bits left of them, and the padding since. Characters
that have no meaning are passed over. -/
def readBase64? (position left padding : Nat) : List Char → Option Bytes
  | [] => if position = 0 then some [] else none
  | '=' :: rest =>
    if position ≥ 2 then
      if position + padding + 1 ≥ 4 then some []
      else readBase64? position left (padding + 1) rest
    else readBase64? position left padding rest
  | character :: rest =>
    match sixBits? character with
    | none => readBase64? position left padding rest
    | some bits =>
      match position with
      | 0 => readBase64? 1 bits 0 rest
      | 1 => (readBase64? 2 (bits % 16) 0 rest).map (UInt8.ofNat (left * 4 + bits / 16) :: ·)
      | 2 => (readBase64? 3 (bits % 4) 0 rest).map (UInt8.ofNat (left * 16 + bits / 4) :: ·)
      | _ => (readBase64? 0 0 0 rest).map (UInt8.ofNat (left * 64 + bits) :: ·)

/-- Bytes in base 64. -/
def readBinary (text : String) : Except Failure Bytes :=
  let characters := text.toList
  if characters.any (128 ≤ ·.toNat) then .error .notDocument
  else
    match readBase64? 0 0 0 characters with
    | some bytes => .ok bytes
    | none => .error .notDocument

end Montage.Yaml
