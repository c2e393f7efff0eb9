import Montage.Yaml.Timestamp

/-!
Kinds of nodes, and the kinds that plain scalars have by the look of their text.
-/

namespace Montage.Yaml

/-- The kind of a node. -/
inductive Tag where
  | null
  | bool
  | int
  | float
  | binary
  | timestamp
  | orderedMap
  | pairs
  | set
  | text
  | sequence
  | mapping
  /-- The key whose value is merged into a mapping. -/
  | merge
  /-- The key of the value that stands for the whole mapping. -/
  | default
  /-- No kind that a value can be read from. -/
  | unknown
  deriving DecidableEq, Repr

/-- What the tags of the common kinds start with. -/
def commonStart : String := "tag:yaml.org,2002:"

/-- The common kinds by what their tags end with. -/
def commonTags : List (String × Tag) :=
  [("null", .null), ("bool", .bool), ("int", .int), ("float", .float), ("binary", .binary),
   ("timestamp", .timestamp), ("omap", .orderedMap), ("pairs", .pairs), ("set", .set),
   ("str", .text), ("seq", .sequence), ("map", .mapping), ("merge", .merge), ("value", .default)]

/-- The kind that a full tag names. -/
def Tag.ofText (tag : String) : Tag :=
  ((commonTags.find? fun (name, _) => commonStart ++ name == tag).map Prod.snd).getD .unknown

/-- An unsigned run of digits and underscores that starts with a digit. -/
def isCount (text : List Char) : Bool :=
  text.head?.any Char.isDigit && text.all fun character => character.isDigit || character == '_'

/-- The text without a sign in front of it. -/
def dropSign : List Char → List Char
  | '+' :: rest => rest
  | '-' :: rest => rest
  | text => text

/-- The pieces of a text between colons. -/
def splitColons : List Char → List (List Char)
  | [] => [[]]
  | ':' :: rest => [] :: splitColons rest
  | character :: rest =>
    match splitColons rest with
    | [] => [[character]]
    | piece :: pieces => (character :: piece) :: pieces

/-- Minutes or seconds: one or two digits, of two the first up to five. -/
def isSixtieth : List Char → Bool
  | [digit] => digit.isDigit
  | [high, low] => '0' ≤ high && high ≤ '5' && low.isDigit
  | _ => false

/-- A count, and sixtieths after colons. -/
def isSexagesimal (text : List Char) : Bool :=
  match splitColons text with
  | count :: sixtieth :: rest => isCount count && (sixtieth :: rest).all isSixtieth
  | _ => false

/-- The text of a whole number: binary, octal, decimal, hexadecimal or sexagesimal. -/
def isIntegerText (text : List Char) : Bool :=
  let among := fun (digits : String) (text : List Char) =>
    !text.isEmpty && text.all fun character => character == '_' || digits.toList.contains character
  match dropSign text with
  | ['0'] => true
  | '0' :: rest =>
    match rest with
    | 'b' :: digits => among "01" digits
    | 'x' :: digits => among "0123456789abcdefABCDEF" digits
    | digits => among "01234567" digits
  | text => isCount text || isSexagesimal text

/-- The exponent of a number with a point, which has to be signed. -/
def isExponentOrEmpty : List Char → Bool
  | [] => true
  | mark :: sign :: digits =>
    (mark == 'e' || mark == 'E') && (sign == '+' || sign == '-') && !digits.isEmpty &&
      digits.all Char.isDigit
  | _ => false

/-- The text of a number with a point: decimal, sexagesimal, infinite or no number. -/
def isFloatText (text : List Char) : Bool :=
  let isDigitOrGap := fun (character : Char) => character.isDigit || character == '_'
  let unsigned := dropSign text
  let whole := unsigned.takeWhile (· != '.')
  match unsigned.dropWhile (· != '.') with
  | [] => false
  | _ :: fraction =>
    let digits := fraction.takeWhile isDigitOrGap
    let after := fraction.dropWhile isDigitOrGap
    if whole.isEmpty then
      let word := String.ofList fraction
      ["inf", "Inf", "INF"].contains word ||
        (text.head? == some '.' && (["nan", "NaN", "NAN"].contains word ||
          (isCount digits && isExponentOrEmpty after)))
    else
      (isCount whole && isExponentOrEmpty after) || (isSexagesimal whole && after.isEmpty)

/-- The words of the truth values. -/
def truthWords : List (String × Bool) :=
  [("yes", true), ("no", false), ("true", true), ("false", false), ("on", true), ("off", false)]

/-- A truth value: small, with a capital letter in front, or all in capitals. -/
def isTruthText (text : String) : Bool :=
  truthWords.any fun (word, _) =>
    text == word || text == word.capitalize || text == word.map Char.toUpper

/-- The text of nothing. -/
def isNullText (text : String) : Bool :=
  ["", "~", "null", "Null", "NULL"].contains text

/-- The kind of a plain scalar. -/
def Tag.implicit (text : String) : Tag :=
  let characters := text.toList
  if isTruthText text then .bool
  else if isFloatText characters then .float
  else if isIntegerText characters then .int
  else if text == "<<" then .merge
  else if isNullText text then .null
  else if isTimestampText characters then .timestamp
  else if text == "=" then .default
  else .text

end Montage.Yaml
