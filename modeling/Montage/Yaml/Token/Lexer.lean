import Montage.Yaml.Token.Block
import Montage.Yaml.Token.Plain
import Montage.Yaml.Token.Property
import Montage.Yaml.Token.Quoted

/-!
The words of a stream. A block starts where something is indented more than what surrounds it, and
ends where something is indented less.

A key need not be marked as one: what could be a simple key is remembered, and a colon after it on
its line makes it one.
-/

namespace Montage.Yaml

/-- A place in a stream. -/
structure Cursor where
  rest : List Char
  index : Nat
  line : Nat
  column : Nat
  deriving DecidableEq, Repr

namespace Cursor

/-- The place after one more character. -/
def pass (cursor : Cursor) (character : Char) : Cursor :=
  let cursor := { cursor with rest := cursor.rest.drop 1, index := cursor.index + 1 }
  if isBreak character then { cursor with line := cursor.line + 1, column := 0 }
  else if character == byteOrderMark then cursor
  else { cursor with column := cursor.column + 1 }

/-- The place where the rest of the stream is what is left of it. -/
def moveTo (cursor : Cursor) (rest : List Char) : Cursor :=
  (cursor.rest.take (cursor.rest.length - rest.length)).foldl pass cursor

/-- The place so many characters later. -/
def skip (cursor : Cursor) (count : Nat) : Cursor :=
  cursor.moveTo (cursor.rest.drop count)

/-- A document starts or ends here. -/
def isTriple (cursor : Cursor) (mark : Char) : Bool :=
  cursor.column == 0 && Yaml.isTriple mark cursor.rest

end Cursor

/-- A word that is a key if a colon follows. -/
structure SimpleKey where
  /-- The number of words before it. -/
  position : Nat
  /-- It stands where only a key can stand. -/
  required : Bool
  index : Nat
  line : Nat
  column : Nat
  deriving DecidableEq, Repr

/-- How many characters a simple key can have. -/
def maxKeyLength : Nat := 1024

/-- A stream read so far. -/
structure Lexer where
  cursor : Cursor
  /-- The words read, the newest first. -/
  tokens : List Token
  /-- A simple key can start here. -/
  keyAllowed : Bool
  /-- The column of the innermost block, -1 if there is none. -/
  indent : Int
  /-- The columns of the blocks around it. -/
  indents : List Int
  /-- What could be a simple key, of the innermost flow first, of all blocks last. -/
  keys : List (Option SimpleKey)
  deriving DecidableEq, Repr

namespace Lexer

/-- The start of a stream. -/
def start (text : List Char) : Lexer :=
  ⟨⟨text, 0, 0, 0⟩, [], true, -1, [], [none]⟩

/-- The reader is within brackets or braces. -/
def inFlow (lexer : Lexer) : Bool :=
  lexer.keys.length > 1

/-- Adds a word. -/
def emit (lexer : Lexer) (token : Token) : Lexer :=
  { lexer with tokens := token :: lexer.tokens }

/-- Adds a word after the first words of the stream. -/
def insert (lexer : Lexer) (position : Nat) (token : Token) : Lexer :=
  let later := lexer.tokens.length - position
  { lexer with tokens := lexer.tokens.take later ++ token :: lexer.tokens.drop later }

/-- Moves on to what is left of the stream. -/
def moveTo (lexer : Lexer) (rest : List Char) : Lexer :=
  { lexer with cursor := lexer.cursor.moveTo rest }

/-- Adds a word of so many characters. -/
def word (lexer : Lexer) (length : Nat) (token : Token) : Lexer :=
  { lexer.emit token with cursor := lexer.cursor.skip length }

/-- Says whether a simple key can start after this word. -/
def allow (lexer : Lexer) (keyAllowed : Bool) : Lexer :=
  { lexer with keyAllowed }

private def skipBlanks : Nat → Lexer → Lexer
  | 0, lexer => lexer
  | fuel + 1, lexer =>
    match skipComment lexer.cursor.rest with
    | [] => lexer.moveTo []
    | character :: rest =>
      if isBreak character then
        skipBlanks fuel ((lexer.moveTo rest).allow (lexer.keyAllowed || !lexer.inFlow))
      else lexer.moveTo (character :: rest)

/-- Passes over what stands between words. -/
def skipToWord (lexer : Lexer) : Lexer :=
  let lexer := match lexer.cursor.rest with
    | character :: rest =>
      if lexer.cursor.index = 0 && character == byteOrderMark then lexer.moveTo rest else lexer
    | [] => lexer
  skipBlanks (lexer.cursor.rest.length + 1) lexer

/-- A simple key that is not on this line, or too far back, is none. -/
def keepKey (cursor : Cursor) (key : SimpleKey) : Except Failure (Option SimpleKey) :=
  if key.line = cursor.line && cursor.index - key.index ≤ maxKeyLength then .ok (some key)
  else if key.required then .error .notDocument
  else .ok none

/-- Forgets the simple keys that are none any more. -/
def dropStaleKeys (lexer : Lexer) : Except Failure Lexer := do
  let keys ← lexer.keys.mapM fun
    | some key => keepKey lexer.cursor key
    | none => .ok none
  return { lexer with keys }

/-- Forgets the simple key of the innermost flow. -/
def dropKey (lexer : Lexer) : Except Failure Lexer :=
  match lexer.keys with
  | some key :: outer =>
    if key.required then .error .notDocument else .ok { lexer with keys := none :: outer }
  | _ => .ok lexer

/-- Remembers that a simple key can start here. -/
def saveKey (lexer : Lexer) : Except Failure Lexer := do
  if !lexer.keyAllowed then return lexer
  let required := !lexer.inFlow && lexer.indent = lexer.cursor.column
  let lexer ← lexer.dropKey
  let cursor := lexer.cursor
  let key := ⟨lexer.tokens.length, required, cursor.index, cursor.line, cursor.column⟩
  return { lexer with keys := some key :: lexer.keys.drop 1 }

/-- Ends the blocks that are indented more than a column. -/
def unwind (lexer : Lexer) (column : Int) : Lexer :=
  if lexer.inFlow then lexer
  else
    let columns := lexer.indent :: lexer.indents
    match columns.dropWhile (column < ·) with
    | indent :: indents =>
      let ended := columns.length - 1 - indents.length
      { lexer with
        tokens := List.replicate ended .blockEnd ++ lexer.tokens, indent, indents }
    | [] => lexer

/-- Starts a block at a column before the word at a position, if the column is deeper than that of
the innermost block. -/
def openBlock (lexer : Lexer) (column position : Nat) (token : Token) : Lexer :=
  if lexer.indent < column then
    { lexer.insert position token with indent := column, indents := lexer.indent :: lexer.indents }
  else lexer

/-- Starts a block here, where it has to be allowed. -/
def openBlockHere (lexer : Lexer) (token : Token) : Except Failure Lexer :=
  if lexer.inFlow then .ok lexer
  else if !lexer.keyAllowed then .error .notDocument
  else .ok (lexer.openBlock lexer.cursor.column lexer.tokens.length token)

/-- Reads a mark of the borders of a document. -/
def documentMark (lexer : Lexer) (token : Token) : Except Failure Lexer := do
  let lexer ← (lexer.unwind (-1)).dropKey
  return (lexer.allow false).word 3 token

/-- Reads a directive. -/
def directive (lexer : Lexer) : Except Failure Lexer := do
  let lexer ← (lexer.unwind (-1)).dropKey
  let (token, rest) ← takeDirective (lexer.cursor.rest.drop 1)
  return ((lexer.allow false).emit token).moveTo rest

/-- Reads an opening bracket or brace. -/
def openFlow (lexer : Lexer) (token : Token) : Except Failure Lexer := do
  let lexer ← lexer.saveKey
  return { (lexer.allow true).word 1 token with keys := none :: lexer.keys }

/-- Reads a closing bracket or brace. -/
def closeFlow (lexer : Lexer) (token : Token) : Except Failure Lexer := do
  let lexer ← lexer.dropKey
  if !lexer.inFlow then throw .notDocument
  return { (lexer.allow false).word 1 token with keys := lexer.keys.drop 1 }

/-- Reads the colon before a value. What could be a simple key before it is one. -/
def valueMark (lexer : Lexer) : Except Failure Lexer :=
  match lexer.keys with
  | some key :: outer =>
    let lexer := { lexer with keys := none :: outer }.insert key.position .key
    let lexer := if lexer.inFlow then lexer
      else lexer.openBlock key.column key.position .blockMapping
    .ok ((lexer.allow false).word 1 .value)
  | _ => do
    let lexer ← lexer.openBlockHere .blockMapping
    let lexer ← (lexer.allow !lexer.inFlow).dropKey
    return lexer.word 1 .value

/-- Reads a word that can start a simple key. -/
def keyWord (lexer : Lexer) (take : List Char → Except Failure (Token × List Char)) :
    Except Failure Lexer := do
  let lexer ← lexer.saveKey
  let (token, rest) ← take (lexer.cursor.rest.drop 1)
  return ((lexer.allow false).emit token).moveTo rest

/-- Reads a block of text. -/
def block (lexer : Lexer) (folded : Bool) : Except Failure Lexer := do
  let lexer ← lexer.dropKey
  let (text, rest) ← takeBlock folded lexer.indent (lexer.cursor.rest.drop 1)
  return ((lexer.allow true).emit (.scalar text false)).moveTo rest

/-- Reads a plain scalar. -/
def plain (lexer : Lexer) : Except Failure Lexer := do
  let lexer ← lexer.saveKey
  let scalar := takePlain lexer.inFlow (lexer.indent + 1) lexer.cursor.rest
  let token := Token.scalar (String.ofList scalar.text) true
  return ((lexer.allow scalar.endsLine).emit token).moveTo scalar.rest

/-- The characters that start something else than a plain scalar. -/
def indicators : List Char :=
  ['-', '?', ':', ',', '[', ']', '{', '}', '#', '&', '*', '!', '|', '>', '\'', '"', '%', '@',
   '\x60']

/-- A plain scalar starts here. -/
def startsPlain (lexer : Lexer) (character : Char) (rest : List Char) : Bool :=
  !(isGap character || isBreak character || indicators.contains character) ||
    (!atWordEnd rest &&
      (character == '-' || (!lexer.inFlow && (character == '?' || character == ':'))))

/-- Reads the word that starts with a character. -/
def readWord (lexer : Lexer) (character : Char) (rest : List Char) : Except Failure Lexer :=
  let cursor := lexer.cursor
  let inFlow := lexer.inFlow
  if character == '%' && cursor.column == 0 then lexer.directive
  else if cursor.isTriple '-' then lexer.documentMark .documentStart
  else if cursor.isTriple '.' then lexer.documentMark .documentEnd
  else if character == '[' then lexer.openFlow .flowSequence
  else if character == '{' then lexer.openFlow .flowMapping
  else if character == ']' then lexer.closeFlow .flowSequenceEnd
  else if character == '}' then lexer.closeFlow .flowMappingEnd
  else if character == ',' then do
    return (← lexer.dropKey).allow true |>.word 1 .comma
  else if character == '-' && atWordEnd rest then do
    let lexer ← lexer.openBlockHere .blockSequence
    return (← (lexer.allow true).dropKey).word 1 .item
  else if character == '?' && (inFlow || atWordEnd rest) then do
    let lexer ← lexer.openBlockHere .blockMapping
    return (← (lexer.allow !inFlow).dropKey).word 1 .key
  else if character == ':' && (inFlow || atWordEnd rest) then lexer.valueMark
  else if character == '*' then lexer.keyWord fun text => do
    let (name, rest) ← takeName text
    return (.alias name, rest)
  else if character == '&' then lexer.keyWord fun text => do
    let (name, rest) ← takeName text
    return (.anchor name, rest)
  else if character == '!' then lexer.keyWord fun text => do
    let ((handle, suffix), rest) ← takeTag text
    return (.tag handle suffix, rest)
  else if character == '|' && !inFlow then lexer.block false
  else if character == '>' && !inFlow then lexer.block true
  else if character == '\'' || character == '"' then lexer.keyWord fun text => do
    let (scalar, rest) ← takeQuoted (character == '"') text
    return (.scalar scalar false, rest)
  else if lexer.startsPlain character rest then lexer.plain
  else .error .notDocument

/-- Reads up to the end of the next word; none if there is none, with the blocks ended. -/
def step (lexer : Lexer) : Except Failure (Lexer × Bool) := do
  let lexer ← lexer.skipToWord.dropStaleKeys
  match lexer.cursor.rest with
  | [] =>
    let lexer ← (lexer.unwind (-1)).dropKey
    return (lexer, false)
  | character :: rest =>
    let lexer := lexer.unwind lexer.cursor.column
    return (← lexer.readWord character rest, true)

private def run : Nat → Lexer → Lexer
  | 0, lexer => lexer
  | fuel + 1, lexer =>
    match lexer.step with
    | .error failure => lexer.emit (.broken failure)
    | .ok (lexer, true) => run fuel lexer
    | .ok (lexer, false) => lexer

end Lexer

/-- The words of a stream, up to where it cannot be read. -/
def tokensOf (text : List Char) : List Token :=
  if text.all isAllowed then
    (Lexer.run (text.length + 1) (Lexer.start text)).tokens.reverse
  else [.broken .notDocument]

end Montage.Yaml
