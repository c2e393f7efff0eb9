import Montage.Failure
import Montage.Named
import Montage.Text.Search
import Montage.Text.Word
import Montage.Value

/-!
References to path variables: a name of word characters between `${` and `}`.

A text is read from left to right; what a reference is replaced by is not read again.
-/

namespace Montage.PathVariable

/-- A text as literal characters and references. -/
inductive Piece where
  | literal (character : Char)
  | reference (name : String)
  deriving DecidableEq, Repr

/-- The name of the reference whose text follows the opening brace, and what follows the closing
one. -/
def takeName? (text : List Char) : Option (String × List Char) :=
  match text.takeWhile Text.isWord, text.dropWhile Text.isWord with
  | name@(_ :: _), '}' :: rest => some (String.ofList name, rest)
  | _, _ => none

/-- What follows a reference is shorter than what its name starts. -/
theorem length_of_takeName? {text rest : List Char} {name : String}
    (found : takeName? text = some (name, rest)) : rest.length < text.length := by
  unfold takeName? at found
  split at found
  · rename_i closed
    have shorter := (List.dropWhile_suffix (l := text) Text.isWord).length_le
    simp only [Option.some.injEq, Prod.mk.injEq] at found
    rw [closed, List.length_cons, found.2] at shorter
    omega
  · simp at found

/-- The pieces of a text. -/
def pieces : List Char → List Piece
  | [] => []
  | '$' :: '{' :: rest =>
    match found : takeName? rest with
    | some (name, after) =>
      have := length_of_takeName? found
      .reference name :: pieces after
    | none => .literal '$' :: pieces ('{' :: rest)
  | character :: rest => .literal character :: pieces rest
  termination_by text => text.length
  decreasing_by all_goals simp only [List.length_cons]; omega

/-- The values of variables by their names. -/
abbrev Variables := String → Except Failure Value

/-- Variables with texts as their values. -/
def Variables.ofNamed (named : Named String) : Variables := fun name =>
  match named.get? name with
  | some value => .ok (.text value)
  | none => .error (.argument (.unknownVariable name))

/-- The variables that a raw value lists: the entries of a map. What merely holds the name of a
variable, as a list does, has no value for it. -/
def Variables.ofValue (value : Value) : Variables := fun name =>
  let unknown : Except Failure Value := .error (.argument (.unknownVariable name))
  let valueless := fun (held : Bool) => if held then .error (.fault .wrongKind) else unknown
  let isName := fun
    | Value.text item => item == name
    | _ => false
  if value.isFalsy then unknown
  else
    match value with
    | .map entries =>
      match entries.find? fun (key, _) => isName key with
      | some (_, found) => .ok found
      | none => unknown
    | .list items | .tuple items | .set items => valueless (items.any isName)
    | .text text => valueless (Text.holds text.toList name.toList)
    | _ => .error (.fault .wrongKind)

/-- The text of pieces with each reference replaced by its value, by nothing if that is null. -/
def substitute (lookup : Variables) : List Piece → Except Failure (List Char)
  | [] => .ok []
  | .literal character :: rest => do return character :: (← substitute lookup rest)
  | .reference name :: rest => do
    match ← lookup name with
    | .null => substitute lookup rest
    | .text value => return value.toList ++ (← substitute lookup rest)
    | _ =>
      let _ ← substitute lookup rest
      throw (.fault .wrongKind)

/-- The text with each reference to a variable replaced by its value. -/
def resolve (lookup : Variables) (text : String) : Except Failure String :=
  (substitute lookup (pieces text.toList)).map String.ofList

end Montage.PathVariable
