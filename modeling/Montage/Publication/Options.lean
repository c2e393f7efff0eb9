import Montage.Failure
import Montage.Scene
import Montage.Text.Letter
import Montage.Value

/-!
Settings of a publication: who can see it, its tags, its category, and when it comes out.
-/

namespace Montage

/-- Who can see a published video. -/
inductive Privacy where
  | hidden
  | unlisted
  | visible
  deriving DecidableEq, Repr

instance : Worded Privacy where
  all := [.hidden, .unlisted, .visible]
  word
    | .hidden => "PRIVATE"
    | .unlisted => "UNLISTED"
    | .visible => "PUBLIC"

/-- The word for a privacy in the records of a publication. -/
def Privacy.record (privacy : Privacy) : String :=
  Text.lower (Worded.word privacy)

/-- Checked settings of a publication. -/
structure PublishOptions where
  privacy : Privacy
  tags : List String
  category : Option String
  publishAt : Option Instant
  deriving DecidableEq

/-- Settings that nothing was said about. -/
def PublishOptions.default : PublishOptions := ⟨.hidden, [], none, none⟩

/-- The video is to come out later. -/
def PublishOptions.isScheduled (options : PublishOptions) : Bool :=
  options.publishAt.isSome

/-- Settings as a caller writes them; null where nothing is said. -/
structure PublishRequest where
  privacy : Value
  tags : Value
  category : Value
  publishAt : Value

/-- The most tags. -/
def maxTags : Nat := 20

/-- The most characters of a tag. -/
def maxTagLength : Nat := 50

/-- How many minutes before it comes out a video has to be handed in. -/
def minDelayMinutes : Nat := 5

/-- A text without the blanks around it, none if nothing is said or nothing is left. -/
def readSetting (value : Value) : Except Failure (Option String) :=
  match value with
  | .null => .ok none
  | .text text => .ok (if Text.isBlankText text then none else some (Text.trim text))
  | _ => .error (.fault .notText)

/-- Who can see the video: private unless said. -/
def readPrivacy (value : Value) : Except Failure Privacy := do
  match ← readSetting value with
  | none => return .hidden
  | some word =>
    match Worded.read? (Text.upper word) with
    | some privacy => return privacy
    | none => .error (.invalid (.named "privacyStatus") .unknownPrivacy)

/-- The values that a setting lists. A text lists its characters, a map its keys. -/
def listed (value : Value) : Except Failure (List Value) :=
  if value.isFalsy then .ok []
  else
    match value with
    | .list items | .tuple items | .set items => .ok items
    | .text text => .ok (text.toList.map fun character => .text character.toString)
    | .map entries => .ok (entries.map Prod.fst)
    | .bytes content => .ok (content.map fun byte => .int byte.toNat)
    | _ => .error (.fault .wrongKind)

/-- Adds a tag to those kept, unless it is blank or one of them is the same in small letters. -/
def keepTag (kept : List String) (value : Value) : Except Failure (List String) :=
  match value with
  | .text text =>
    let tag := Text.trim text
    if tag.isEmpty then .ok kept
    else if tag.length > maxTagLength then
      .error (.invalid (.named "tags") (.tagTooLong maxTagLength))
    else if kept.any fun present => Text.lower present == Text.lower tag then .ok kept
    else .ok (kept ++ [tag])
  | _ => .error (.fault .notText)

/-- The tags: trimmed, the blank ones left out, the first of each spelling kept. -/
def readTags (value : Value) : Except Failure (List String) := do
  let tags ← (← listed value).foldlM keepTag []
  if tags.length > maxTags then .error (.invalid (.named "tags") (.tooManyTags maxTags))
  else return tags

/-- The category: one to three digits. -/
def readCategory (value : Value) : Except Failure (Option String) := do
  if value.isFalsy then return none
  match ← readSetting value with
  | none => return none
  | some category =>
    if category.toList.all Text.isDigit && category.length ≤ 3 then return some category
    else .error (.invalid (.named "categoryId") .notCategory)

/-- When the video comes out: an ISO 8601 date or date-time followed by a `Z`. It can only be
compared with a time whose offset is known. -/
def readPublishAt (value : Value) (now : Instant) : Except Failure (Option Instant) := do
  let field := Field.named "publishAt"
  match ← readSetting value with
  | none => return none
  | some text =>
    match text.toList.reverse with
    | 'Z' :: before =>
      match Instant.read? (String.ofList before.reverse) with
      | none => .error (.invalid field .notInstant)
      | some read =>
        let instant := read.inUtc
        match now.later? (minDelayMinutes * 60 * microsPerSecond) with
        | none => .error (.fault .outOfRange)
        | some earliest =>
          if earliest.offset.isNone then .error (.fault .wrongKind)
          else if instant.absolute < earliest.absolute then
            .error (.invalid field (.tooSoon minDelayMinutes))
          else return some instant
    | _ => .error (.invalid field .notUtcInstant)

/-- The settings that a caller writes, checked in the order in which they are listed. -/
def PublishRequest.check (request : PublishRequest) (now : Instant) :
    Except Failure PublishOptions := do
  let privacy ← readPrivacy request.privacy
  let tags ← readTags request.tags
  let category ← readCategory request.category
  let publishAt ← readPublishAt request.publishAt now
  if publishAt.isSome && privacy != .hidden then
    .error (.invalid (.named "publishAt") .scheduledNotPrivate)
  else return { privacy, tags, category, publishAt }

end Montage
