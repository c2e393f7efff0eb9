import Montage.Number.Reading
import Montage.Number.Quantity
import Montage.Text.Quoted
import Montage.Time.Instant

/-!
Raw values, as a manifest file or a caller writes them, before any rule is applied.
-/

namespace Montage

/-- A raw value. The entries of a map keep the order in which their keys first came. -/
inductive Value where
  | null
  | bool (value : Bool)
  | int (whole : Int)
  | double (value : Binary64)
  | text (value : String)
  | bytes (value : List UInt8)
  | date (value : Date)
  | instant (value : Instant)
  | list (items : List Value)
  | tuple (items : List Value)
  | map (entries : List (Value × Value))
  | set (members : List Value)

namespace Value

instance : Inhabited Value := ⟨null⟩

private def offsetParts (offset : Int) : String :=
  if offset = 0 then "datetime.timezone.utc"
  else "datetime.timezone(" ++ spanText offset ++ ")"

private def clockParts (instant : Instant) : List String :=
  let date := instant.date
  let parts := [date.year, date.month, date.day, instant.hour, instant.minute] ++
    (if instant.micro = 0 then (if instant.second = 0 then [] else [instant.second])
      else [instant.second, instant.micro])
  parts.map digitsOf ++ (instant.offset.map fun offset => "tzinfo=" ++ offsetParts offset).toList

mutual

/-- The value as a message shows it. -/
def quoted : Value → String
  | null => "None"
  | bool value => if value then "True" else "False"
  | int whole => (if whole < 0 then "-" else "") ++ digitsOf whole.natAbs
  | double value => value.text
  | text value => Text.quote value
  | bytes value => Text.quoteBytes value
  | date value => "datetime.date(" ++ String.intercalate ", "
      ([value.year, value.month, value.day].map digitsOf) ++ ")"
  | instant value => "datetime.datetime(" ++ String.intercalate ", " (clockParts value) ++ ")"
  | list items => "[" ++ String.intercalate ", " (quotedItems items) ++ "]"
  | tuple [item] => "(" ++ item.quoted ++ ",)"
  | tuple items => "(" ++ String.intercalate ", " (quotedItems items) ++ ")"
  | map entries => "\x7b" ++ String.intercalate ", " (quotedEntries entries) ++ "\x7d"
  | set [] => "set()"
  | set members => "\x7b" ++ String.intercalate ", " (quotedItems members) ++ "\x7d"

/-- The items as a message shows them. -/
def quotedItems : List Value → List String
  | [] => []
  | item :: rest => item.quoted :: quotedItems rest

/-- The entries as a message shows them. -/
def quotedEntries : List (Value × Value) → List String
  | [] => []
  | (key, value) :: rest => (key.quoted ++ ": " ++ value.quoted) :: quotedEntries rest

end

/-- The value as plain text: a text itself, a date in ISO form, all else as a message shows it. -/
def plain : Value → String
  | text value => value
  | date value => value.text
  | instant value => value.textWith " "
  | value => value.quoted

mutual

/-- No whole number in the value is longer than can be written. -/
def writable : Value → Bool
  | int whole => whole.natAbs < Nat.pow 10 maxIntegerDigits
  | list items | tuple items | set items => writableItems items
  | map entries => writableEntries entries
  | _ => true

/-- No whole number in the items is longer than can be written. -/
def writableItems : List Value → Bool
  | [] => true
  | item :: rest => item.writable && writableItems rest

/-- No whole number in the entries is longer than can be written. -/
def writableEntries : List (Value × Value) → Bool
  | [] => true
  | (key, value) :: rest => key.writable && value.writable && writableEntries rest

end

/-- The value as a number, truth values counting as one and zero. -/
def asNumber? : Value → Option Number
  | bool value => some (.int (if value then 1 else 0))
  | int whole => some (.int whole)
  | double value => some (.double value)
  | _ => none

/-- Two values that are the same key of a map. Numbers are the same if they are equal, whatever
their kinds, or if neither is a number at all. -/
def sameKey (left right : Value) : Bool :=
  match left.asNumber?, right.asNumber? with
  | some (.double .nan), some (.double .nan) => true
  | some left, some right => left.compare? right == some .eq
  | none, none =>
    match left, right with
    | null, null => true
    | text left, text right => left == right
    | bytes left, bytes right => left == right
    | date left, date right => left == right
    | instant left, instant right =>
      left.offset.isSome == right.offset.isSome && left.absolute == right.absolute
    | _, _ => false
  | _, _ => false

/-- A value that can be the key of a map. -/
def isKey : Value → Bool
  | list _ | map _ | set _ | tuple _ => false
  | _ => true

/-- Entries with a key set to a value: in its place if the key is there, else at the end. -/
def setEntry (key value : Value) : List (Value × Value) → List (Value × Value)
  | [] => [(key, value)]
  | (present, old) :: rest =>
    if present.sameKey key then (present, value) :: rest
    else (present, old) :: setEntry key value rest

/-- The value under a name, null if there is none. -/
def field (entries : List (Value × Value)) (name : String) : Value :=
  ((entries.find? fun (key, _) => key.sameKey (text name)).map Prod.snd).getD null

/-- The value is null. -/
def isNull : Value → Bool
  | null => true
  | _ => false

/-- A value that counts as false: null, zero, or empty. -/
def isFalsy : Value → Bool
  | null => true
  | bool value => !value
  | int whole => whole == 0
  | double value => value.same .zero
  | text value => value.isEmpty
  | bytes value => value.isEmpty
  | list items | tuple items | set items => items.isEmpty
  | map entries => entries.isEmpty
  | date _ | instant _ => false

end Value

end Montage
