import Montage.Job.Desk

/-!
Workers, which carry out tasks and keep the books on them.
-/

namespace Montage

/-- What a job says when it has failed, whatever the reason. -/
def failedMessage : String := "Video processing failed. Check server logs."

/-- What a job says when its video is published. -/
def completedMessage (warning : Option String) : String :=
  match warning with
  | none => "Video generated and uploaded successfully."
  | some _ => "Video generated and uploaded with warnings."

/-- The status of a job at the start of its task. -/
def JobStatus.begin {α : Type} (status : JobStatus) (work : Work α) : JobStatus :=
  { status with state := .processing, message := work.progress }

/-- The status of a job at the end of its task. -/
def JobStatus.settle (status : JobStatus) (outcome : Except Failure Publication) : JobStatus :=
  match outcome with
  | .ok publication => { status with
      state := .completed, message := completedMessage publication.warning,
      artifact := some publication.artifact, address := publication.address,
      warning := publication.warning }
  | .error _ => { status with state := .failed, message := failedMessage }

namespace Operation

variable {α : Type} [Quantity α]

/-- Starts a task. -/
def start (services : Services α) (task : Task α) : Operation α Unit :=
  update services.clock task.job (·.begin task.work)

/-- Ends a task: its outcome is entered, and its files are taken away. -/
def settle (services : Services α) (task : Task α) (output : Option Path)
    (outcome : Except Failure Publication) : Operation α Unit := do
  update services.clock task.job (·.settle outcome)
  discard (task.inputs ++ output.toList)

/-- Carries a task out from start to end. -/
def perform (services : Services α) (task : Task α) : Operation α Unit := do
  start services task
  let (output, outcome) ← act (task.carryOut services)
  settle services task output outcome
  book (·.finish task.job)

/-- Carries out the waiting task at a position. -/
def performAt (services : Services α) (index : Nat) : Operation α Unit := do
  match (← desk).queue[index]? with
  | none => throw (.fault .outOfBounds)
  | some task =>
    book fun desk => { desk with queue := desk.queue.eraseIdx index }
    perform services task

/-- Carries out all waiting tasks in order. -/
def performAll (services : Services α) : Operation α Unit := do
  let queue := (← desk).queue
  book fun desk => { desk with queue := [] }
  for task in queue do
    perform services task

/-- Takes a job off the books whose task is not accepted, and its files away. -/
def refuse (task : Task α) (owned : List Path) (failure : Failure) : Operation α Unit := do
  book (·.withdraw task.job)
  act (Action.note (.withdrawn task.job))
  discard owned
  throw failure

/-- Hands a task to a worker and lets callers wait for its end. -/
def handOver (services : Services α) (task : Task α) (schedule : Schedule) :
    Operation α Unit := do
  book (·.accept task.job)
  match schedule with
  | .later => book fun desk => { desk with queue := desk.queue ++ [task] }
  | .atOnce => perform services task
  book (·.track task.job)
  book (·.watch task.job)

/-- Hands a task over with the files that it owns, if tasks are accepted. -/
def dispatch (services : Services α) (task : Task α) (owned : List Path) : Operation α Unit := do
  let books ← desk
  match books.refusal with
  | some failure => refuse task owned failure
  | none => handOver services task books.schedule

end Operation

end Montage
