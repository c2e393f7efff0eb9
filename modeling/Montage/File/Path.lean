import Montage.Text.Quoted
import Montage.Text.Utf8

/-!
Paths of files as text: repeated slashes and single dots left out, the text of a path read back
is the same path.
-/

namespace Montage

/-- A path: the slashes it starts with, none of a relative path, and the names between slashes. -/
structure Path where
  root : String
  names : List String
  deriving DecidableEq, Repr

namespace Path

/-- The pieces of a text between slashes. -/
def splitSlashes (text : List Char) : List (List Char) :=
  match text with
  | [] => [[]]
  | '/' :: rest => [] :: splitSlashes rest
  | character :: rest =>
    match splitSlashes rest with
    | [] => [[character]]
    | piece :: pieces => (character :: piece) :: pieces

/-- The names in a text: its pieces between slashes without the empty ones and the single dots. -/
def namesIn (text : List Char) : List String :=
  ((splitSlashes text).filter fun piece => piece != [] && piece != ['.']).map String.ofList

/-- The slashes that a text starts with, as the root of its path: two stay two, more are one. -/
def rootOf : List Char → String
  | '/' :: '/' :: '/' :: _ => "/"
  | '/' :: '/' :: _ => "//"
  | '/' :: _ => "/"
  | _ => ""

/-- The path that a text writes. -/
def ofText (text : String) : Path :=
  ⟨rootOf text.toList, namesIn text.toList⟩

/-- The text of a path, a dot for the empty one. -/
def text (path : Path) : String :=
  let written := path.root ++ String.intercalate "/" path.names
  if written.isEmpty then "." else written

/-- The last name, empty if there is none. -/
def name (path : Path) : String :=
  path.names.getLast?.getD ""

/-- The last dot of a name and what follows it, unless the dot is its first or last character. -/
def suffixOf (name : String) : String :=
  let characters := name.toList
  let after := (characters.reverse.takeWhile (· != '.')).reverse
  let before := characters.length - after.length - 1
  if after.length < characters.length && before > 0 && !after.isEmpty then
    String.ofList ('.' :: after)
  else ""

/-- The suffix of the last name. -/
def suffix (path : Path) : String :=
  suffixOf path.name

/-- The path without its last name. -/
def parent (path : Path) : Path :=
  { path with names := path.names.dropLast }

/-- A path continued by another, which replaces it if it is absolute. -/
def join (base next : Path) : Path :=
  if next.root.isEmpty then { base with names := base.names ++ next.names } else next

/-- A path continued by the path that a text writes. -/
def child (base : Path) (text : String) : Path :=
  base.join (ofText text)

/-- Names with each `..` taking away the name before it. -/
def fold (names : List String) : List String :=
  (names.foldl (fun kept name => if name == ".." then kept.drop 1 else name :: kept) []).reverse

/-- The absolute path without `..`, relative to a directory. -/
def absolute (directory path : Path) : Path :=
  let whole := directory.join path
  ⟨whole.root, fold whole.names⟩

/-- The absolute path without `..` that starts with a single slash. -/
def resolve (directory path : Path) : Path :=
  { absolute directory path with root := "/" }

/-- A byte that stands for itself in the address of a file. -/
def isPlainByte (byte : UInt8) : Bool :=
  let character := Char.ofNat byte.toNat
  byte.toNat < 128 && (character.isAlphanum || "_.-~/".toList.contains character)

/-- The address of a file, bytes other than the plain ones as percent escapes. -/
def address (path : Path) : String :=
  let escape := fun (byte : UInt8) =>
    if isPlainByte byte then [Char.ofNat byte.toNat]
    else
      let digits := (Nat.toDigits 16 byte.toNat).map Char.toUpper
      '%' :: (List.replicate (2 - digits.length) '0' ++ digits)
  "file://" ++ String.ofList ((Text.encodeUtf8 path.text).flatMap escape)

end Path

end Montage
