import Montage.Failure
import Montage.Scene
import Montage.Text.Letter
import Montage.Value

/-!
Fields of a raw manifest: objects, words and numbers, absent where they are null.
-/

namespace Montage

/-- The entries of an object. -/
def readObject (value : Value) (field : Field) : Except Failure (List (Value × Value)) :=
  match value with
  | .map entries => .ok entries
  | _ => .error (.invalid field .notObject)

/-- The entries of an object, none if it is absent. -/
def readObjectOrEmpty (value : Value) (field : Field) : Except Failure (List (Value × Value)) :=
  if value.isNull then .ok [] else readObject value field

/-- The thing that a word stands for, in any case and with blanks around it; the default if the
word is absent. -/
def readWord {β : Type} [Worded β] (value : Value) (field : Field) (default : β) :
    Except Failure β :=
  let unknown : Except Failure β :=
    if value.writable then
      .error (.invalid field (.unknownWord (Worded.words β) value.quoted))
    else .error (.argument (.integerTooLong none))
  match value with
  | .null => .ok default
  | .text word =>
    match Worded.read? (Text.upper (Text.trim word)) with
    | some known => .ok known
    | none => unknown
  | _ => unknown

/-- The thing that a word stands for, which has to be there. -/
def requireWord {β : Type} [Worded β] (value : Value) (field : Field) (default : β) :
    Except Failure β :=
  if value.isNull then .error (.invalid field .required) else readWord value field default

/-- A finite number. Truth values are no numbers. -/
def readNumber (value : Value) (field : Field) : Except Failure Binary64 :=
  match value with
  | .int whole =>
    match Binary64.ofInt? whole with
    | some number => .ok number
    | none => .error (.fault .outOfRange)
  | .double number =>
    if number.isFinite then .ok number else .error (.invalid field .notFinite)
  | _ => .error (.invalid field .notFinite)

/-- A number that is not below zero, plus zero if it is absent. -/
def readStart (value : Value) (field : Field) : Except Failure Binary64 :=
  if value.isNull then .ok .zero
  else do
    let number ← readNumber value field
    if number.lt .zero then .error (.invalid field .negative) else return number

/-- The least and the greatest number allowed. -/
structure Bounds where
  low : Binary64
  high : Binary64

/-- A number lies within bounds. -/
def Bounds.allow (bounds : Bounds) (number : Binary64) : Bool :=
  bounds.low.le number && number.le bounds.high

/-- What is wrong with a number outside of bounds, in units of something. -/
def Bounds.violation (bounds : Bounds) (unit : String) : Violation :=
  .outside bounds.low.text bounds.high.text unit

/-- A number within bounds, the default if it is absent. -/
def readWithin (value : Value) (default : Binary64) (bounds : Bounds) (field : Field) :
    Except Failure Binary64 :=
  if value.isNull then .ok default
  else do
    let number ← readNumber value field
    if bounds.allow number then return number else .error (.invalid field (bounds.violation ""))

end Montage
