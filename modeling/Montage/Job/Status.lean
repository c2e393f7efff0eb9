import Montage.Publication.Options

/-!
States of jobs and what a caller is told about a job.
-/

namespace Montage

/-- How far a job has come. -/
inductive JobState where
  | queued
  | processing
  | completed
  | failed
  deriving DecidableEq, Repr

instance : Worded JobState where
  all := [.queued, .processing, .completed, .failed]
  word
    | .queued => "QUEUED"
    | .processing => "PROCESSING"
    | .completed => "COMPLETED"
    | .failed => "FAILED"

/-- A job in this state does not change any more. -/
def JobState.isTerminal : JobState → Bool
  | .completed | .failed => true
  | .queued | .processing => false

/-- Names of jobs. -/
abbrev JobId := String

/-- The name of a job by its digits, in groups. -/
def jobIdOf (digits : List Char) : JobId :=
  let part := fun start length => String.ofList ((digits.drop start).take length)
  String.intercalate "-" [part 0 8, part 8 4, part 12 4, part 16 4, part 20 12]

/-- A job as its caller sees it. -/
structure JobStatus where
  id : JobId
  state : JobState
  message : String
  createdAt : Instant
  updatedAt : Instant
  options : PublishOptions
  artifact : Option String
  address : Option String
  warning : Option String
  deriving DecidableEq

end Montage
