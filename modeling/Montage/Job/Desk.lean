import Montage.Job.Task

/-!
The books on jobs: their states, the tasks that wait for a worker, and the tickets by which callers
wait for a job to end.

A job goes from queued over processing to completed or failed and then stays as it is.
-/

namespace Montage

/-- A task that was handed over: whether it has ended, and whether its end is to be noted. -/
structure Ticket where
  done : Bool
  watched : Bool
  deriving DecidableEq, Repr

/-- When tasks are carried out. -/
inductive Schedule where
  /-- When a worker takes them. -/
  | later
  /-- When they are handed over. -/
  | atOnce
  deriving DecidableEq, Repr

/-- The books on jobs. -/
structure Desk (α : Type) where
  jobs : Named JobStatus
  tickets : Named Ticket
  /-- The jobs whose end can be waited for. -/
  tracked : List JobId
  queue : List (Task α)
  schedule : Schedule
  /-- Why no task is accepted, where none is. -/
  refusal : Option Failure

namespace Desk

variable {α : Type}

/-- Books without jobs. -/
def empty (schedule : Schedule) : Desk α :=
  ⟨[], [], [], [], schedule, none⟩

/-- Enters a job. -/
def register (desk : Desk α) (status : JobStatus) : Desk α :=
  { desk with jobs := desk.jobs.set status.id status }

/-- Takes a job off the books. -/
def withdraw (desk : Desk α) (job : JobId) : Desk α :=
  { desk with jobs := desk.jobs.erase job }

/-- The status of a job that can still change. -/
def open? (desk : Desk α) (job : JobId) : Option JobStatus :=
  (desk.jobs.get? job).filter fun status => !status.state.isTerminal

/-- Changes the status of a job, unless it is unknown or has ended. -/
def update (desk : Desk α) (job : JobId) (change : JobStatus → JobStatus) : Desk α :=
  match desk.open? job with
  | some status => { desk with jobs := desk.jobs.set job (change status) }
  | none => desk

/-- Hands a task over. -/
def accept (desk : Desk α) (job : JobId) : Desk α :=
  { desk with tickets := desk.tickets.set job ⟨false, false⟩ }

/-- The task of a job has ended. -/
def isDone (desk : Desk α) (job : JobId) : Bool :=
  (desk.tickets.get? job).any Ticket.done

/-- Lets callers wait for a job, unless its task has ended. -/
def track (desk : Desk α) (job : JobId) : Desk α :=
  if desk.isDone job then desk else { desk with tracked := desk.tracked ++ [job] }

/-- Callers need not wait for a job any more. -/
def forget (desk : Desk α) (job : JobId) : Desk α :=
  { desk with tracked := desk.tracked.filter (· != job) }

/-- Has the end of a task noted: now if it has ended, else when it ends. -/
def watch (desk : Desk α) (job : JobId) : Desk α :=
  if desk.isDone job then desk.forget job
  else { desk with tickets := desk.tickets.set job ⟨false, true⟩ }

/-- Ends a task. -/
def finish (desk : Desk α) (job : JobId) : Desk α :=
  let watched := (desk.tickets.get? job).any Ticket.watched
  let desk := { desk with tickets := desk.tickets.set job ⟨true, watched⟩ }
  if watched then desk.forget job else desk

/-- A caller who waits for a job has to go on waiting. -/
def isPending (desk : Desk α) (job : JobId) : Bool :=
  desk.tracked.contains job && !desk.isDone job

end Desk

/-- The books and what jobs act on. -/
structure Studio (α : Type) where
  desk : Desk α
  workspace : Workspace

/-- An operation on a studio. What it did before it failed stays done. -/
abbrev Operation (α β : Type) := ExceptT Failure (StateM (Studio α)) β

namespace Operation

variable {α β : Type}

/-- An operation that leaves the books alone. -/
def act (action : Action β) : Operation α β := fun studio =>
  let (outcome, workspace) := action studio.workspace
  (outcome, { studio with workspace })

/-- The books. -/
def desk : Operation α (Desk α) := fun studio =>
  (.ok studio.desk, studio)

/-- Changes the books. -/
def book (change : Desk α → Desk α) : Operation α Unit :=
  modify fun studio => { studio with desk := change studio.desk }

/-- Takes files away. -/
def discard (paths : List Path) : Operation α Unit :=
  act (modify (discardAll paths))

/-- Reads the clock. -/
def now (clock : Nat → Instant) : Operation α Instant :=
  act fun workspace =>
    (.ok (clock workspace.readings), { workspace with readings := workspace.readings + 1 })

/-- Enters a job that waits for its task, under a fresh id. -/
def register (clock : Nat → Instant) (options : PublishOptions) : Operation α JobId := do
  let id := jobIdOf (← act freshId)
  let time ← now clock
  let status : JobStatus := ⟨id, .queued, "Job queued.", time, time, options, none, none, none⟩
  book (·.register status)
  act (Action.note (.status id status.state status.message))
  return id

/-- Changes the status of a job at the time of the change, unless it is unknown or has ended. -/
def update (clock : Nat → Instant) (job : JobId) (change : JobStatus → JobStatus) :
    Operation α Unit := do
  match (← desk).open? job with
  | none => return
  | some status =>
    let time ← now clock
    let next := { change status with updatedAt := time }
    book (·.update job fun _ => next)
    act (Action.note (.status job next.state next.message))

/-- The status of a job. -/
def status (job : JobId) : Operation α JobStatus := do
  match (← desk).jobs.get? job with
  | some status => return status
  | none => throw (.unknownJob job)

/-- The status of a job whose task has ended; a caller who would have to wait is told so. -/
def wait (job : JobId) : Operation α JobStatus := do
  if (← desk).isPending job then throw .pending
  status job

/-- Accepts no more tasks. -/
def close : Operation α Unit :=
  book fun desk => { desk with refusal := some (.tool .noNewTasks) }

end Operation

end Montage
