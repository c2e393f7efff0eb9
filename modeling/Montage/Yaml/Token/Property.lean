import Montage.Text.Utf8
import Montage.Yaml.Character
import Montage.Yaml.Token

/-!
Anchors, aliases and tags of nodes, and directives of documents.
-/

namespace Montage.Yaml

/-- A character of a name. -/
def isNameCharacter (character : Char) : Bool :=
  character.isAlphanum || character == '-' || character == '_'

/-- What can follow the name of an anchor or an alias. -/
def afterName : List Char := ['?', ':', ',', ']', '}', '%', '@', '\x60']

/-- The name of an anchor or an alias. -/
def takeName (text : List Char) : Except Failure (String × List Char) :=
  let name := text.takeWhile isNameCharacter
  let rest := text.dropWhile isNameCharacter
  if name.isEmpty || !(atWordEnd rest || rest.head?.any afterName.contains) then .error .notDocument
  else .ok (String.ofList name, rest)

/-- A character of a tag, apart from percent escapes. -/
def isTagCharacter (character : Char) : Bool :=
  character.isAlphanum || "-;/?:@&=+$,_.!~*'()[]".toList.contains character

/-- The bytes of the percent escapes that the text starts with. -/
def takeEscapedBytes : List Char → Except Failure (List UInt8 × List Char)
  | '%' :: high :: low :: rest =>
    match hexValue? high, hexValue? low with
    | some high, some low => do
      let (bytes, rest) ← takeEscapedBytes rest
      return (UInt8.ofNat (high * 16 + low) :: bytes, rest)
    | _, _ => .error .notDocument
  | '%' :: _ => .error .notDocument
  | text => .ok ([], text)

private def takeTagPieces : Nat → List Char → Except Failure (List Char × List Char)
  | 0, text => .ok ([], text)
  | fuel + 1, text => do
    let run := text.takeWhile isTagCharacter
    let rest := text.dropWhile isTagCharacter
    let (bytes, rest) ← takeEscapedBytes rest
    if bytes.isEmpty then return (run, rest)
    match Text.decodeUtf8? bytes with
    | none => throw .notDocument
    | some decoded =>
      let (more, rest) ← takeTagPieces fuel rest
      return (run ++ decoded.toList ++ more, rest)

/-- The text of a tag, percent escapes standing for the bytes of its characters. -/
def takeTagText (text : List Char) : Except Failure (String × List Char) := do
  if !text.head?.any (fun character => isTagCharacter character || character == '%') then
    throw .notDocument
  let (pieces, rest) ← takeTagPieces (text.length + 1) text
  return (String.ofList pieces, rest)

/-- The handle of a tag: an exclamation mark, or a name between two of them. -/
def takeHandle : List Char → Except Failure (String × List Char)
  | '!' :: rest =>
    if rest.head? == some ' ' then .ok ("!", rest)
    else
      let name := rest.takeWhile isNameCharacter
      match rest.dropWhile isNameCharacter with
      | '!' :: after => .ok (String.ofList ('!' :: name ++ ['!']), after)
      | _ => .error .notDocument
  | _ => .error .notDocument

/-- The characters up to where a tag certainly ends hold an exclamation mark. -/
def hasHandle (text : List Char) : Bool :=
  (text.takeWhile fun character => !(character == ' ' || isBreak character)).contains '!'

/-- The handle and the rest of the tag whose text starts after its exclamation mark. -/
def takeTag (text : List Char) : Except Failure ((Option String × String) × List Char) := do
  let (tag, rest) ← match text with
    | '<' :: rest => do
      match ← takeTagText rest with
      | (uri, '>' :: rest) => pure ((none, uri), rest)
      | _ => throw .notDocument
    | _ =>
      if atWordEnd text then pure ((none, "!"), text)
      else do
        let (handle, rest) ← if hasHandle text then takeHandle ('!' :: text) else pure ("!", text)
        let (suffix, rest) ← takeTagText rest
        pure ((some handle, suffix), rest)
  if atLineEnd rest || rest.head? == some ' ' then return (tag, rest) else throw .notDocument

/-- The number that digits write. -/
def takeVersionNumber (text : List Char) : Except Failure (Nat × List Char) :=
  match text.takeWhile Char.isDigit with
  | [] => .error .notDocument
  | digits => .ok (digits.foldl (fun value digit => value * 10 + (digit.toNat - '0'.toNat)) 0,
      text.dropWhile Char.isDigit)

/-- The word ends at a space or with the line. -/
def checkWordEnd (text : List Char) : Except Failure Unit :=
  if atLineEnd text || text.head? == some ' ' then .ok () else .error .notDocument

/-- A version of the format: two numbers with a point between them. -/
def takeVersion (text : List Char) : Except Failure (Token × List Char) := do
  match ← takeVersionNumber (text.dropWhile (· == ' ')) with
  | (major, '.' :: rest) =>
    let (_, rest) ← takeVersionNumber rest
    checkWordEnd rest
    return (.version major, rest)
  | _ => throw .notDocument

/-- A handle and what it stands for. -/
def takeTagHandle (text : List Char) : Except Failure (Token × List Char) := do
  match ← takeHandle (text.dropWhile (· == ' ')) with
  | (handle, ' ' :: rest) =>
    let (start, rest) ← takeTagText (rest.dropWhile (· == ' '))
    checkWordEnd rest
    return (.tagHandle handle start, rest)
  | _ => throw .notDocument

/-- The directive whose text starts after its percent sign, with its line end. -/
def takeDirective (text : List Char) : Except Failure (Token × List Char) := do
  let name := text.takeWhile isNameCharacter
  let rest := text.dropWhile isNameCharacter
  if name.isEmpty then throw .notDocument
  checkWordEnd rest
  let (token, rest) ←
    if name == "YAML".toList then takeVersion rest
    else if name == "TAG".toList then takeTagHandle rest
    else pure (.directive, rest.dropWhile (!isBreak ·))
  let rest := skipComment rest
  if atLineEnd rest then return (token, rest.drop 1) else throw .notDocument

end Montage.Yaml
