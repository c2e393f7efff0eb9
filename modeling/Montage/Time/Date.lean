/-!
Days of the proleptic Gregorian calendar, from the first of January of year 1 to the last of
December of year 9999.
-/

namespace Montage

/-- Years that are divisible by 4, but not by 100 unless by 400. -/
def isLeapYear (year : Nat) : Bool :=
  year % 4 == 0 && (year % 100 != 0 || year % 400 == 0)

/-- Days of a month. -/
def daysInMonth (year month : Nat) : Nat :=
  if month == 2 then (if isLeapYear year then 29 else 28)
  else if month == 4 || month == 6 || month == 9 || month == 11 then 30
  else 31

/-- A day. -/
structure Date where
  year : Nat
  month : Nat
  day : Nat
  deriving DecidableEq, Repr

/-- Why three numbers are no day. -/
inductive DateFault where
  | year (value : Nat)
  | month
  | day
  deriving DecidableEq, Repr

namespace Date

/-- The day of this year, month and day of the month. -/
def make (year month day : Nat) : Except DateFault Date :=
  if year < 1 || year > 9999 then .error (.year year)
  else if month < 1 || month > 12 then .error .month
  else if day < 1 || day > daysInMonth year month then .error .day
  else .ok ⟨year, month, day⟩

/-- Days before the first of January of a year. -/
def daysBeforeYear (year : Nat) : Nat :=
  let past := year - 1
  past * 365 + past / 4 - past / 100 + past / 400

/-- Days of the year before the first of a month. -/
def daysBeforeMonth (year month : Nat) : Nat :=
  (List.range (month - 1)).foldl (fun days index => days + daysInMonth year (index + 1)) 0

/-- The number of a day, the first of January of year 1 being day 1. -/
def ordinal (date : Date) : Nat :=
  daysBeforeYear date.year + daysBeforeMonth date.year date.month + date.day

/-- The day that lies this many days after the first of January of a year, within the year or in
one of the few after it. -/
def fromYearStart (year offset : Nat) : Nat → Date
  | 0 => ⟨year, 1, offset + 1⟩
  | years + 1 =>
    let length := if isLeapYear year then 366 else 365
    if offset < length then
      let month := ((List.range 12).filter fun index =>
        daysBeforeMonth year (index + 1) ≤ offset).length
      ⟨year, month, offset - daysBeforeMonth year month + 1⟩
    else fromYearStart (year + 1) (offset - length) years

/-- Days since the last Monday: zero on a Monday. -/
def weekday (date : Date) : Nat :=
  (date.ordinal + 6) % 7

/-- The day of an ISO week, `day` being 1 on Monday; a week 53 only in years that have one. -/
def ofWeek? (year week day : Nat) : Option Date :=
  if year < 1 || year > 9999 then none
  else
    let first := weekday ⟨year, 1, 1⟩
    let weeks := if first == 3 || (first == 2 && isLeapYear year) then 53 else 52
    if week < 1 || week > weeks || day < 1 || day > 7 then none
    else
      let monday : Int := if first > 3 then 7 - first else -(first : Int)
      let offset := monday + (week - 1) * 7 + (day - 1)
      let date := if offset < 0 then
          let previous := year - 1
          fromYearStart previous ((if isLeapYear previous then 366 else 365) + offset).toNat 2
        else fromYearStart year offset.toNat 2
      if date.year < 1 || date.year > 9999 then none else some date

end Date

end Montage
