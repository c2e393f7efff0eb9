import Montage.Failure
import Montage.Value
import Montage.Yaml.Character

/-!
Dates, and dates with a time, as YAML writes them.
-/

namespace Montage.Yaml

/-- The offset of a clock from universal time. -/
inductive ZoneText where
  | universal
  | offset (negative : Bool) (hours minutes : List Char)
  deriving DecidableEq, Repr

/-- A time of day, as digits. -/
structure ClockText where
  hour : List Char
  minute : List Char
  second : List Char
  fraction : List Char
  zone : Option ZoneText
  deriving DecidableEq, Repr

/-- A date, perhaps with a time of day, as digits. -/
structure TimestampText where
  year : List Char
  month : List Char
  day : List Char
  clock : Option ClockText
  deriving DecidableEq, Repr

/-- As many digits as there are, within bounds. -/
def takeDigitRun? (least most : Nat) (text : List Char) : Option (List Char × List Char) :=
  let digits := (text.take most).takeWhile Char.isDigit
  if digits.length < least then none else some (digits, text.drop digits.length)

/-- What follows a character. -/
def after? (expected : Char) : List Char → Option (List Char)
  | [] => none
  | character :: rest => if character == expected then some rest else none

/-- The offset of a clock that is the whole text. -/
def readZone? : List Char → Option ZoneText
  | ['Z'] => some .universal
  | sign :: rest => do
    if sign != '+' && sign != '-' then none
    let (hours, rest) ← takeDigitRun? 1 2 rest
    if rest.isEmpty then return .offset (sign == '-') hours []
    let (minutes, rest) ← takeDigitRun? 2 2 (← after? ':' rest)
    if rest.isEmpty then return .offset (sign == '-') hours minutes else none
  | [] => none

/-- The time of day that is the whole text. -/
def readClock? (text : List Char) : Option ClockText := do
  let (hour, rest) ← takeDigitRun? 1 2 text
  let (minute, rest) ← takeDigitRun? 2 2 (← after? ':' rest)
  let (second, rest) ← takeDigitRun? 2 2 (← after? ':' rest)
  let (fraction, rest) := match rest with
    | '.' :: rest => (rest.takeWhile Char.isDigit, rest.dropWhile Char.isDigit)
    | rest => ([], rest)
  if rest.isEmpty then return ⟨hour, minute, second, fraction, none⟩
  let zone ← readZone? (rest.dropWhile isGap)
  return ⟨hour, minute, second, fraction, some zone⟩

/-- What follows a date before a time of day: a letter or a gap. -/
def afterDate? : List Char → Option (List Char)
  | 'T' :: rest => some rest
  | 't' :: rest => some rest
  | character :: rest => if isGap character then some (rest.dropWhile isGap) else none
  | [] => none

/-- The date, perhaps with a time of day, that is the whole text. -/
def readTimestampText? (text : List Char) : Option TimestampText := do
  let (year, rest) ← takeDigitRun? 4 4 text
  let (month, rest) ← takeDigitRun? 1 2 (← after? '-' rest)
  let (day, rest) ← takeDigitRun? 1 2 (← after? '-' rest)
  if rest.isEmpty then return ⟨year, month, day, none⟩
  let clock ← readClock? (← afterDate? rest)
  return ⟨year, month, day, some clock⟩

/-- A plain scalar looks like a date. Without a time of day, month and day have two digits. -/
def isTimestampText (text : List Char) : Bool :=
  (readTimestampText? text).any fun read =>
    read.clock.isSome || (read.month.length == 2 && read.day.length == 2)

/-- The number that digits write. -/
def digitsNumber (digits : List Char) : Nat :=
  digits.foldl (fun value digit => value * 10 + (digit.toNat - '0'.toNat)) 0

/-- The offset from universal time in microseconds. -/
def ZoneText.micros : ZoneText → Int
  | universal => 0
  | offset negative hours minutes =>
    let magnitude : Int :=
      (digitsNumber hours * 60 + digitsNumber minutes : Nat) * (60 * microsPerSecond : Nat)
    if negative then -magnitude else magnitude

/-- The first six digits of a fraction as microseconds. -/
def fractionMicros (fraction : List Char) : Nat :=
  let kept := fraction.take 6
  digitsNumber (kept ++ List.replicate (6 - kept.length) '0')

/-- The date or the date-time. -/
def TimestampText.value (text : TimestampText) : Except InstantFault Value :=
  let year := digitsNumber text.year
  let month := digitsNumber text.month
  let day := digitsNumber text.day
  match text.clock with
  | none => ((Date.make year month day).mapError .date).map .date
  | some clock =>
    (Instant.make year month day (digitsNumber clock.hour) (digitsNumber clock.minute)
      (digitsNumber clock.second) (fractionMicros clock.fraction)
      (clock.zone.map ZoneText.micros)).map .instant

end Montage.Yaml
