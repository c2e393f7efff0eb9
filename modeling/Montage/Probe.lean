import Montage.Workspace

/-!
How long a file of media lasts, as the tool reports it: `Duration: `, then hours, minutes and
seconds between colons, the seconds with a fraction perhaps.
-/

namespace Montage

/-- The parts of a reported duration, as digits. -/
structure DurationText where
  hours : List Char
  minutes : List Char
  seconds : List Char
  fraction : List Char
  deriving DecidableEq, Repr

/-- A run of digits and what follows it, if the text starts with a digit. -/
def takeRun? (text : List Char) : Option (List Char × List Char) :=
  match text.takeWhile Text.isDigit with
  | [] => none
  | run => some (run, text.dropWhile Text.isDigit)

/-- The duration whose text starts here. -/
def durationHere? (text : List Char) : Option DurationText := do
  let label := "Duration: ".toList
  if !label.isPrefixOf text then none
  else
    let (hours, rest) ← takeRun? (text.drop label.length)
    let rest ← colon? rest
    let (minutes, rest) ← takeRun? rest
    let rest ← colon? rest
    let (seconds, rest) ← takeRun? rest
    let fraction := match rest with
      | '.' :: rest => rest.takeWhile Text.isDigit
      | _ => []
    return { hours, minutes, seconds, fraction }
where
  /-- What follows a colon. -/
  colon? : List Char → Option (List Char)
    | ':' :: rest => some rest
    | _ => none

/-- The first duration in a text. -/
def findDuration? : List Char → Option DurationText
  | [] => none
  | character :: rest =>
    match durationHere? (character :: rest) with
    | some found => some found
    | none => findDuration? rest

/-- The number that digits write, unless they are too many to be read. -/
def readRun (digits : List Char) : Except Failure Nat :=
  if digits.length > maxIntegerDigits then
    .error (.argument (.integerTooLong (some digits.length)))
  else .ok (Text.digitsValue digits)

/-- The seconds of a reported duration: hours and minutes exactly, then the double of the seconds
added once. -/
def DurationText.total (text : DurationText) : Except Failure Binary64 := do
  let hours ← readRun text.hours
  let minutes ← readRun text.minutes
  let seconds := Binary64.ofDecimal false (Text.digitsValue (text.seconds ++ text.fraction))
    (-(text.fraction.length : Int))
  match Binary64.ofInt? (hours * 3600 + minutes * 60 : Nat) with
  | some whole => return whole + seconds
  | none => throw (.fault .outOfRange)

/-- The seconds of the first duration that a report speaks of. -/
def readDuration (report : String) : Except Failure (Option Binary64) :=
  match findDuration? report.toList with
  | none => .ok none
  | some found => found.total.map some

/-- How long the tool may take to report. -/
def probeTimeout : Number := .int 15

/-- The seconds that a file lasts, as the tool reports them. -/
def probeFile (toolbox : Toolbox) (path : String) (timeout : Number) : Action Binary64 := do
  let arguments := [toolbox.installation.tool, "-i", path]
  match ← (toolbox.invoke "probe" arguments timeout).attempt with
  | .error (.system cause) => throw (.probe (.notStarted path cause))
  | .error failure => throw failure
  | .ok result =>
    if result.timedOut then throw (.probe (.timedOut path))
    match ← Action.lift (readDuration result.output) with
    | some seconds => return seconds
    | none => throw (.probe (.unreadable path))

/-- The seconds that an upload lasts, by a temporary copy of it. -/
def probeUpload (toolbox : Toolbox) (timeout : Number) (upload : Upload) : Action Binary64 := do
  match ← (stage upload "probe-" (assetSuffix upload)).attempt with
  | .error (.system cause) => throw (.probe (.notStaged cause))
  | .error failure => throw failure
  | .ok path => (probeFile toolbox path.text timeout).ensure (discard path)

end Montage
