import Montage.Number.Decimal
import Montage.Time.Date

/-!
Date-times, with or without an offset from universal time, and their ISO 8601 text.
-/

namespace Montage

/-- A day and a time of that day, with the offset of its clock from universal time in
microseconds, if the clock is known. -/
structure Instant where
  date : Date
  hour : Nat
  minute : Nat
  second : Nat
  micro : Nat
  offset : Option Int
  deriving DecidableEq, Repr

/-- Why numbers are no date-time. -/
inductive InstantFault where
  | date (fault : DateFault)
  | hour
  | minute
  | second
  /-- An offset of a day or more, in microseconds. -/
  | offset (micros : Int)
  deriving DecidableEq, Repr

/-- Microseconds of a second. -/
def microsPerSecond : Nat := 1000000

/-- Microseconds of a day. -/
def microsPerDay : Nat := 86400 * microsPerSecond

/-- A span of time as a message shows it: whole days, and the seconds and microseconds that come
on top of them. -/
def spanText (micros : Int) : String :=
  let days := Int.fdiv micros microsPerDay
  let rest := (micros - days * microsPerDay).toNat
  let parts := [("days", days), ("seconds", (rest / microsPerSecond : Nat)),
    ("microseconds", (rest % microsPerSecond : Nat))]
  let shown := (parts.filter (·.2 != 0)).map fun (name, value) =>
    name ++ "=" ++ (if value < 0 then "-" else "") ++ digitsOf value.natAbs
  "datetime.timedelta(" ++ String.intercalate ", " shown ++ ")"

namespace Instant

/-- The date-time with these parts, an offset being shorter than a day. -/
def make (year month day hour minute second micro : Nat) (offset : Option Int) :
    Except InstantFault Instant := do
  match offset with
  | some micros => if micros.natAbs ≥ microsPerDay then throw (.offset micros)
  | none => pure ()
  let date ← (Date.make year month day).mapError .date
  if hour > 23 then throw .hour
  if minute > 59 then throw .minute
  if second > 59 then throw .second
  return ⟨date, hour, minute, second, micro, offset⟩

/-- The same day and time on the clock of universal time. -/
def inUtc (instant : Instant) : Instant :=
  { instant with offset := some 0 }

/-- Microseconds that the clock of the date-time shows since the start of the calendar. -/
def clock (instant : Instant) : Nat :=
  instant.date.ordinal * microsPerDay +
    ((instant.hour * 60 + instant.minute) * 60 + instant.second) * microsPerSecond + instant.micro

/-- Microseconds of universal time since the start of the calendar. -/
def absolute (instant : Instant) : Int :=
  instant.clock - instant.offset.getD 0

/-- The date-time that the same clock shows later, within the calendar. -/
def later? (instant : Instant) (micros : Nat) : Option Instant :=
  let shown := instant.clock + micros
  let year := instant.date.year
  let date := Date.fromYearStart year (shown / microsPerDay - Date.daysBeforeYear year - 1)
    (micros / microsPerDay + 1)
  if date.year > 9999 then none
  else some {
    date
    hour := shown / (3600 * microsPerSecond) % 24
    minute := shown / (60 * microsPerSecond) % 60
    second := shown / microsPerSecond % 60
    micro := shown % microsPerSecond
    offset := instant.offset }

end Instant

/-- `YYYY-MM-DD`. -/
def Date.text (date : Date) : String :=
  zeroPadded 4 (digitsOf date.year) ++ "-" ++ zeroPadded 2 (digitsOf date.month) ++ "-" ++
    zeroPadded 2 (digitsOf date.day)

private def twoDigits (number : Nat) : String :=
  zeroPadded 2 (digitsOf number)

/-- Six digits of microseconds behind a point, nothing if there are none. -/
private def microText (micro : Nat) : String :=
  if micro = 0 then "" else "." ++ zeroPadded 6 (digitsOf micro)

/-- `+HH:MM`, with seconds and microseconds only where they are not zero. -/
def offsetText (offset : Int) : String :=
  let micros := offset.natAbs
  let seconds := micros / microsPerSecond
  let tail := if seconds % 60 = 0 && micros % microsPerSecond = 0 then ""
    else ":" ++ twoDigits (seconds % 60) ++ microText (micros % microsPerSecond)
  (if offset < 0 then "-" else "+") ++ twoDigits (seconds / 3600) ++ ":" ++
    twoDigits (seconds / 60 % 60) ++ tail

namespace Instant

/-- `YYYY-MM-DD` and `HH:MM:SS` with a separator between them, microseconds where they are not
zero, and the offset if there is one. -/
def textWith (separator : String) (instant : Instant) : String :=
  instant.date.text ++ separator ++ twoDigits instant.hour ++ ":" ++ twoDigits instant.minute ++
    ":" ++ twoDigits instant.second ++ microText instant.micro ++
    (instant.offset.map offsetText).getD ""

/-- The ISO 8601 text. -/
def text (instant : Instant) : String :=
  instant.textWith "T"

/-! ### Reading -/

/-- The value of exactly `count` ASCII digits, and what follows them. -/
def takeFixed : Nat → List Char → Option (Nat × List Char)
  | 0, text => some (0, text)
  | count + 1, digit :: rest =>
    if digit.isDigit then
      (takeFixed count rest).map fun (value, left) =>
        ((digit.toNat - '0'.toNat) * Nat.pow 10 count + value, left)
    else none
  | _, [] => none

/-- A date: `YYYY-MM-DD`, `YYYYMMDD`, or the week forms `YYYY-Www[-D]` and `YYYYWww[D]`. -/
def readDate? (text : List Char) : Option Date := do
  let (year, rest) ← takeFixed 4 text
  let (separated, rest) := match rest with
    | '-' :: rest => (true, rest)
    | rest => (false, rest)
  match rest with
  | 'W' :: rest =>
    let (week, rest) ← takeFixed 2 rest
    let day ← match separated, rest with
      | _, [] => some 1
      | true, '-' :: rest => (takeFixed 1 rest).map Prod.fst
      | true, _ => none
      | false, rest => (takeFixed 1 rest).map Prod.fst
    Date.ofWeek? year week day
  | _ =>
    let (month, rest) ← takeFixed 2 rest
    let rest ← match separated, rest with
      | true, '-' :: rest => some rest
      | true, _ => none
      | false, rest => some rest
    match ← takeFixed 2 rest with
    | (day, []) => (Date.make year month day).toOption
    | _ => none

/-- Hours, minutes, seconds and microseconds of a clock. -/
structure ClockTime where
  hour : Nat
  minute : Nat
  second : Nat
  micro : Nat

/-- Up to six digits of a fraction as microseconds, further digits skipped, and whether nothing
follows them. -/
def readFraction? (text : List Char) : Option (Nat × Bool) :=
  let count := min text.length 6
  (takeFixed count text).map fun (value, rest) =>
    (value * Nat.pow 10 (6 - count), (rest.dropWhile Char.isDigit).isEmpty)

/-- What a part of a clock time is followed by: whether another part can begin there or the fraction
does, and the text of it. Parts stand after colons if the first of them does. -/
def afterPart? (separated : Bool) (mark : Char) (rest : List Char) : Option (Bool × List Char) :=
  if separated && mark == ':' then some (true, rest)
  else if mark == '.' || mark == ',' then some (false, rest)
  else if separated then none
  else some (true, mark :: rest)

/-- The parts of a clock time that are still to be read, the first `HH` being read already:
`parts` of `MM` and `SS` can follow, each after a colon or all without. One ASCII character at
the end is skipped; also tells whether nothing was. -/
def readParts? (separated : Bool) : Nat → List Char → Option (List Nat × Nat × Bool)
  | _, [] => some ([], 0, true)
  | _, [skipped] => if skipped.toNat < 128 then some ([], 0, false) else none
  | 0, mark :: rest => do
    let (_, left) ← afterPart? separated mark rest
    return ([], ← readFraction? left)
  | parts + 1, mark :: rest => do
    match ← afterPart? separated mark rest with
    | (true, left) =>
      let (value, left) ← takeFixed 2 left
      let (values, fraction) ← readParts? separated parts left
      return (value :: values, fraction)
    | (false, left) => return ([], ← readFraction? left)

/-- A clock time `HH[:MM[:SS[.fraction]]]` or the form without colons, and whether nothing
follows it that was skipped. -/
def readClock? (text : List Char) : Option (ClockTime × Bool) := do
  let (hour, rest) ← takeFixed 2 text
  let (parts, micro, clean) ← readParts? (rest.head? == some ':') 2 rest
  return (⟨hour, parts.getD 0 0, parts.getD 1 0, micro⟩, clean)

/-- A sign or a letter that starts an offset. -/
def startsOffset (character : Char) : Bool :=
  character == '+' || character == '-' || character == 'Z'

/-- A clock time and its offset in microseconds, if it has one. -/
def readTime? (text : List Char) : Option (ClockTime × Option Int) := do
  let (time, clean) ← readClock? (text.takeWhile (!startsOffset ·))
  match text.dropWhile (!startsOffset ·) with
  | [] => if clean then some (time, none) else none
  | 'Z' :: rest => if rest.isEmpty then some (time, some 0) else none
  | sign :: rest =>
    let (offset, clean) ← readClock? rest
    let micros : Int :=
      ((offset.hour * 60 + offset.minute) * 60 + offset.second) * microsPerSecond + offset.micro
    if clean then some (time, some (if sign == '-' then -micros else micros)) else none

/-- How many characters of a text of at least seven belong to its date. -/
def dateLength (text : List Char) : Nat :=
  let at? := fun index => text[index]?
  if text.length = 7 then 7
  else if at? 4 == some '-' then
    if at? 5 == some 'W' then
      if at? 8 == some '-' then
        if (at? 10).any Char.isDigit then 8 else 10
      else 8
    else 10
  else if at? 4 == some 'W' then
    let digits := ((text.drop 7).takeWhile Char.isDigit).length
    if digits < 2 then 7 + digits else if digits % 2 = 1 then 7 else 8
  else 8

/-- The date-time that an ISO 8601 text writes: a date, and after any one character a time. -/
def read? (text : String) : Option Instant := do
  let characters := text.toList
  if characters.length < 7 then none
  else
    let date ← readDate? (characters.take (dateLength characters))
    match characters.drop (dateLength characters) with
    | [] => (make date.year date.month date.day 0 0 0 0 none).toOption
    | _ :: rest =>
      let (time, offset) ← readTime? rest
      (make date.year date.month date.day
        time.hour time.minute time.second time.micro offset).toOption

end Instant

end Montage
