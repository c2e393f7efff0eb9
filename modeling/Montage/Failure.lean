import Montage.Address
import Montage.Fault
import Montage.File.Disk
import Montage.Number.Decimal
import Montage.Number.Reading
import Montage.Time.Instant

/-!
The ways in which the library's operations fail, each by its cause, and their wording.
-/

namespace Montage

/-- The place of a value in what a caller handed in. -/
inductive Field where
  | named (name : String)
  | member (parent : Field) (name : String)
  | item (parent : Field) (index : Nat)
  deriving DecidableEq, Repr

namespace Field

/-- The dotted text of a place. -/
def text : Field → String
  | named name => name
  | member parent name => parent.text ++ "." ++ name
  | item parent index => parent.text ++ "[" ++ digitsOf index ++ "]"

/-- The manifest itself. -/
def manifest : Field := named "manifest"

/-- The list of scenes. -/
def scenes : Field := manifest.member "scenes"

/-- One of the scenes. -/
def scene (index : Nat) : Field := scenes.item index

/-- An uploaded asset. -/
def asset (id : String) : Field := (named "asset").member id

end Field

/-- Why a file of media has no known duration. -/
inductive ProbeError where
  | notStaged (cause : SystemError)
  | notStarted (path : String) (cause : SystemError)
  | timedOut (path : String)
  | unreadable (path : String)
  | reported (message : String)
  deriving DecidableEq, Repr

/-- The wording of a probe error. -/
def ProbeError.message : ProbeError → String
  | notStaged cause => "Unable to stage asset for probing: " ++ cause.message
  | notStarted path cause =>
    "Unable to run ffmpeg to probe " ++ path ++ ": " ++ cause.message
  | timedOut path => "Timed out while probing duration of " ++ path
  | unreadable path => "Unable to determine duration of " ++ path
  | reported message => message

/-- What is wrong with a value of a manifest, of a job or of the settings of a publication. -/
inductive Violation where
  | required
  | notObject
  | noScenes
  | tooManyScenes (limit : Nat)
  | nullScene
  | timelineTooLong (limit : Nat)
  | assetRequired (scene : Nat)
  | contentType (start kind : String) (scene : Nat)
  | unknownWord (words : List String) (shown : String)
  | notFinite
  | negative
  | outside (low high unit : String)
  | unsupportedForImage
  | onlyForImage
  | startOfImage
  | notPositive
  | noDuration (cause : ProbeError)
  | startBeyondSource
  | blank
  | endNotAfterStart
  | endBeyondScene
  | firstSceneNotCut
  | longerThanNeighbour
  | overlayWithoutColor
  | notColor
  | unresolvedAsset (id : String)
  | unknownPrivacy
  | tagTooLong (limit : Nat)
  | tooManyTags (limit : Nat)
  | notCategory
  | notUtcInstant
  | notInstant
  | tooSoon (minutes : Nat)
  | scheduledNotPrivate
  deriving DecidableEq, Repr

/-- The wording of a violation. -/
def Violation.message : Violation → String
  | required => "is required."
  | notObject => "must be an object."
  | noScenes => "must contain at least one scene."
  | tooManyScenes limit => "supports at most " ++ digitsOf limit ++ " scenes."
  | nullScene => "must not be null."
  | timelineTooLong limit =>
    "total timeline duration must be less than or equal to " ++ digitsOf limit ++ " seconds."
  | assetRequired scene => "is required for scene index " ++ digitsOf scene ++ "."
  | contentType start kind scene =>
    "must have content type " ++ start ++ "* for " ++ kind ++ " scene " ++
      (Field.scene scene).text ++ "."
  | unknownWord words shown =>
    "must be one of " ++ String.intercalate ", " words ++ ", got " ++ shown ++ "."
  | notFinite => "must be a finite number."
  | negative => "must be greater than or equal to 0."
  | outside low high unit => "must be between " ++ low ++ " and " ++ high ++ unit ++ "."
  | unsupportedForImage => "is not supported for IMAGE scenes."
  | onlyForImage => "is only supported for IMAGE scenes."
  | startOfImage => "must be 0 for IMAGE scenes."
  | notPositive => "must be greater than 0."
  | noDuration cause => "video asset duration could not be determined: " ++ cause.message
  | startBeyondSource => "exceeds the source video duration."
  | blank => "must not be blank."
  | endNotAfterStart => "must be greater than caption.startOffsetSec."
  | endBeyondScene => "must not exceed the scene duration."
  | firstSceneNotCut => "must be CUT for the first scene."
  | longerThanNeighbour => "must be smaller than adjacent scene durations."
  | overlayWithoutColor => "is required when overlay is provided."
  | notColor => "must match #RRGGBB."
  | unresolvedAsset id => "has no resolved file for asset '" ++ id ++ "'."
  | unknownPrivacy => "must be one of PRIVATE, UNLISTED, PUBLIC."
  | tagTooLong limit => "each tag must be at most " ++ digitsOf limit ++ " characters."
  | tooManyTags limit => "a maximum of " ++ digitsOf limit ++ " unique tags is allowed."
  | notCategory => "must match ^\\d\x7b1,3\x7d$."
  | notUtcInstant => "must be an ISO-8601 UTC instant ending with Z."
  | notInstant => "must be a valid ISO-8601 UTC instant."
  | tooSoon minutes => "must be at least " ++ digitsOf minutes ++ " minutes in the future."
  | scheduledNotPrivate => "can only be used with privacyStatus=PRIVATE."

/-- Why a stage of rendering failed. -/
inductive StageError where
  | notStarted (cause : SystemError)
  | timedOut (output : String)
  | failed (exit : Option Int) (output : String)
  deriving DecidableEq, Repr

namespace StageError

/-- The wording of a stage error, without the stage. -/
def message : StageError → String
  | notStarted cause => "FFmpeg could not be started: " ++ cause.message
  | timedOut _ => "FFmpeg timed out"
  | failed exit output =>
    let code := match exit with
      | some code => (if code < 0 then "-" else "") ++ digitsOf code.natAbs
      | none => "None"
    "FFmpeg failed with exit code " ++ code ++ ". Output: " ++ output

/-- What the tool wrote, nothing if it could not be started. -/
def output : StageError → String
  | notStarted _ => ""
  | timedOut output | failed _ output => output

end StageError

/-- Why a video or its thumbnail was not published. -/
inductive PublishError where
  | notFiled (video root : String) (cause : SystemError)
  | thumbnailNotFiled (id : String) (cause : SystemError)
  | reported (message : String)
  deriving DecidableEq, Repr

/-- The wording of a publish error. -/
def PublishError.message : PublishError → String
  | notFiled video root cause =>
    "Could not publish " ++ video ++ " to " ++ root ++ ": " ++ cause.message
  | thumbnailNotFiled id cause =>
    "Could not publish thumbnail for " ++ id ++ ": " ++ cause.message
  | reported message => message

/-- The wording of a fault in the parts of a date-time. -/
def InstantFault.message : InstantFault → String
  | date (.year value) => "year " ++ digitsOf value ++ " is out of range"
  | date .month => "month must be in 1..12"
  | date .day => "day is out of range for month"
  | hour => "hour must be in 0..23"
  | minute => "minute must be in 0..59"
  | second => "second must be in 0..59"
  | offset micros =>
    "offset must be a timedelta strictly between -timedelta(hours=24) and " ++
      "timedelta(hours=24), not " ++ spanText micros ++ "."

/-- How many characters of a text that is no whole number are shown. -/
def shownCharacters : Nat := 200

/-- A value that an operation was called with is of the right kind but not acceptable. -/
inductive ArgumentError where
  | unknownVariable (name : String)
  | emptyPlan
  | missingAssetPath (asset : String)
  | assetArgument (value : String)
  | nullByte
  /-- A whole number is too long to be written, or with its digits counted, to be read. -/
  | integerTooLong (digits : Option Nat)
  | notInteger (base : Nat) (text : String)
  | notDouble (text : String)
  /-- A code beyond that of the last character. -/
  | notCharacter
  | outsideCalendar (fault : InstantFault)
  /-- A text that is taken for an address has a host that cannot be one. -/
  | host (fault : HostFault)
  | reported (message : String)
  deriving DecidableEq, Repr

/-- The wording of an argument error. -/
def ArgumentError.message : ArgumentError → String
  | unknownVariable name => "Unknown path variable: $\x7b" ++ name ++ "\x7d"
  | emptyPlan => "Composition render plan must include at least one scene."
  | missingAssetPath asset => "Missing asset path for scene assetId=" ++ asset
  | assetArgument value => "--asset expects id=path, got '" ++ value ++ "'"
  | nullByte => "embedded null byte"
  | notInteger base text =>
    "invalid literal for int() with base " ++ digitsOf base ++ ": " ++
      String.ofList ((Text.quote text).toList.take shownCharacters)
  | notDouble text => "could not convert string to float: " ++ Text.quote text
  | notCharacter => "chr() arg not in range(0x110000)"
  | outsideCalendar fault => fault.message
  | host fault => fault.message
  | integerTooLong digits =>
    let counted := (digits.map fun count => ": value has " ++ digitsOf count ++ " digits").getD ""
    "Exceeds the limit (" ++ digitsOf maxIntegerDigits ++
      " digits) for integer string conversion" ++ counted ++
      "; use sys.set_int_max_str_digits() to increase the limit"
  | reported message => message

/-- The tool is not usable. -/
inductive ToolError where
  | notFound (path : String)
  | unavailable
  | noNewTasks
  deriving DecidableEq, Repr

/-- The variable of the environment that names the tool. -/
def toolVariable : String := "FFMPEG_PATH"

/-- The wording of a tool error. -/
def ToolError.message : ToolError → String
  | notFound path =>
    "FFmpeg binary not found at " ++ path ++ ". Set " ++ toolVariable ++
      " to a valid ffmpeg executable path."
  | unavailable => "FFmpeg is not available. Install FFmpeg or set " ++ toolVariable ++ "."
  | noNewTasks => "cannot schedule new futures after shutdown"

/-- How an operation fails. -/
inductive Failure where
  | invalid (field : Field) (violation : Violation)
  | probe (error : ProbeError)
  | render (stage : String) (error : StageError)
  | publish (error : PublishError)
  | unknownJob (id : String)
  | system (error : SystemError)
  | argument (error : ArgumentError)
  | tool (error : ToolError)
  | fault (fault : Fault)
  /-- A manifest file is no document of its format. -/
  | notDocument
  /-- A manifest file is not encoded text. -/
  | notEncoded
  /-- A job has not finished in time. -/
  | pending
  deriving DecidableEq, Repr

/-- A violation with its place. -/
def violationMessage (field problem : String) : String :=
  field ++ " " ++ problem

/-- A stage error with its stage. -/
def stageMessage (stage problem : String) : String :=
  problem ++ " (stage: " ++ stage ++ ")"

/-- An unknown job with its id. -/
def unknownJobMessage (id : String) : String :=
  "Unknown job id: " ++ id

/-- The wording of a failure, empty where it has none. -/
def Failure.message : Failure → String
  | invalid field violation => violationMessage field.text violation.message
  | probe error => error.message
  | render stage error => stageMessage stage error.message
  | publish error => error.message
  | unknownJob id => unknownJobMessage id
  | system error => error.message
  | argument error => error.message
  | tool error => error.message
  | fault _ | notDocument | notEncoded | pending => ""

end Montage
