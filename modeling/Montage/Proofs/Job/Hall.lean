import Montage.Proofs.Job.Setback
import Montage.Proofs.Trace

/-! Submissions and workers that take turns. A submission hands a task over, has the job tracked unless
the task has ended, and has the end of the task noted; a worker settles the job and ends the
task. -/

namespace Montage

variable {α β : Type}

/-- How far a submission has come with a job. -/
inductive Handing where
  | unknown
  | entered
  | accepted
  | tracked
  | returned
  | refused
  deriving DecidableEq

/-- How far a worker has come with a task. It is lost when it is torn from its work before the job is
settled. -/
inductive Labour where
  | absent
  | pending
  | started
  | settled
  | lost
  | ended (settled : Bool)
  deriving DecidableEq

namespace Labour

/-- The task has ended. -/
def isEnded : Labour → Bool
  | ended _ => true
  | _ => false

/-- The final status of the job was set. -/
def isSettled : Labour → Bool
  | settled | ended true => true
  | _ => false

end Labour

/-- A studio with the submissions and the workers in it. -/
structure Hall (α : Type) where
  studio : Studio α
  handing : JobId → Handing
  labour : JobId → Labour

namespace Hall

/-- A studio in which no job is known. -/
def opening (studio : Studio α) : Hall α := ⟨studio, fun _ => .unknown, fun _ => .absent⟩

/-- The studio after a step that concerns no job. -/
def become (hall : Hall α) (studio : Studio α) : Hall α := { hall with studio }

/-- The studio after a step of a submission. -/
def hand (hall : Hall α) (studio : Studio α) (job : JobId) (handing : Handing) : Hall α :=
  { hall with studio, handing := Function.update hall.handing job handing }

/-- The studio after a step of a worker. -/
def work (hall : Hall α) (studio : Studio α) (job : JobId) (labour : Labour) : Hall α :=
  { hall with studio, labour := Function.update hall.labour job labour }

/-- The studio after a step of a submission by which its worker gets its task. -/
def pass (hall : Hall α) (studio : Studio α) (job : JobId) (handing : Handing) (labour : Labour) :
    Hall α :=
  (hall.hand studio job handing).work studio job labour

/-- The studio after a step that concerns the books only. -/
def book (hall : Hall α) (change : Desk α → Desk α) : Studio α :=
  { hall.studio with desk := change hall.studio.desk }

/-- The job is one that callers can wait for. -/
def Tracks (hall : Hall α) (job : JobId) : Prop := job ∈ hall.studio.desk.tracked

/-- The job is known as completed or failed. -/
def Settles (hall : Hall α) (job : JobId) : Prop :=
  ∃ status, hall.studio.desk.jobs.get? job = some status ∧
    (status.state = .completed ∨ status.state = .failed)

/-- No step of a job is to come: its task was refused, or it was returned and its task has ended. -/
def Over (hall : Hall α) (job : JobId) : Prop :=
  hall.handing job = .refused ∨
    (hall.handing job = .returned ∧ (hall.labour job).isEnded = true)

end Hall

/-- A step, of a job or of none. A task may be refused even after work on it has begun. -/
inductive Move (clock : Nat → Instant) : Hall α → Option JobId → Hall α → Prop where
  | enter {hall : Hall α} {options : PublishOptions} {job : JobId} {studio : Studio α}
      (fresh : hall.handing job = .unknown)
      (entered : (Operation.register clock options).on hall.studio = (.ok job, studio)) :
      Move clock hall (some job) (hall.hand studio job .entered)
  | refuse {hall : Hall α} {job : JobId}
      (early : hall.handing job = .entered ∨ hall.handing job = .accepted) :
      Move clock hall (some job) (hall.hand (hall.book (·.withdraw job)) job .refused)
  | accept {hall : Hall α} {job : JobId} (entered : hall.handing job = .entered) :
      Move clock hall (some job) (hall.pass (hall.book (·.accept job)) job .accepted .pending)
  | track {hall : Hall α} {job : JobId} (accepted : hall.handing job = .accepted) :
      Move clock hall (some job) (hall.hand (hall.book (·.track job)) job .tracked)
  | watch {hall : Hall α} {job : JobId} (tracked : hall.handing job = .tracked) :
      Move clock hall (some job) (hall.hand (hall.book (·.watch job)) job .returned)
  | start {hall : Hall α} {job : JobId} (work : Work α) (pending : hall.labour job = .pending) :
      Move clock hall (some job)
        (hall.work ((Operation.update clock job (·.begin work)).on hall.studio).2 job .started)
  | settle {hall : Hall α} {job : JobId} (outcome : Except Failure Publication)
      (started : hall.labour job = .started) :
      Move clock hall (some job)
        (hall.work ((Operation.update clock job (·.settle outcome)).on hall.studio).2 job .settled)
  | lose {hall : Hall α} {job : JobId}
      (unsettled : hall.labour job = .pending ∨ hall.labour job = .started) :
      Move clock hall (some job) (hall.work hall.studio job .lost)
  | finish {hall : Hall α} {job : JobId} (settled : Bool)
      (reached : hall.labour job = if settled then .settled else .lost) :
      Move clock hall (some job) (hall.work (hall.book (·.finish job)) job (.ended settled))
  /-- Files, queue and time go on. -/
  | aside {hall : Hall α} {studio : Studio α} (jobs : studio.desk.jobs = hall.studio.desk.jobs)
      (tickets : studio.desk.tickets = hall.studio.desk.tickets)
      (tracked : studio.desk.tracked = hall.studio.desk.tracked) :
      Move clock hall none (hall.become studio)

variable {clock : Nat → Instant} {hall next : Hall α} {label : Option JobId} {job other : JobId}

section Own

@[simp] theorem Hall.hand_own {studio : Studio α} {handing : Handing} :
    (hall.hand studio job handing).handing job = handing :=
  Function.update_self ..

@[simp] theorem Hall.work_own {studio : Studio α} {labour : Labour} :
    (hall.work studio job labour).labour job = labour :=
  Function.update_self ..

@[simp] theorem Hall.hand_labour {studio : Studio α} {handing : Handing} :
    (hall.hand studio job handing).labour = hall.labour := rfl

@[simp] theorem Hall.work_handing {studio : Studio α} {labour : Labour} :
    (hall.work studio job labour).handing = hall.handing := rfl

@[simp] theorem Hall.hand_studio {studio : Studio α} {handing : Handing} :
    (hall.hand studio job handing).studio = studio := rfl

@[simp] theorem Hall.work_studio {studio : Studio α} {labour : Labour} :
    (hall.work studio job labour).studio = studio := rfl

@[simp] theorem Hall.book_desk {change : Desk α → Desk α} :
    (hall.book change).desk = change hall.studio.desk := rfl

@[simp] theorem Hall.pass_studio {studio : Studio α} {handing : Handing} {labour : Labour} :
    (hall.pass studio job handing labour).studio = studio := rfl

@[simp] theorem Hall.pass_handing {studio : Studio α} {handing : Handing} {labour : Labour} :
    (hall.pass studio job handing labour).handing job = handing :=
  Function.update_self ..

@[simp] theorem Hall.pass_labour {studio : Studio α} {handing : Handing} {labour : Labour} :
    (hall.pass studio job handing labour).labour job = labour :=
  Function.update_self ..

end Own

/-- Steps lead from a hall to another one. -/
def Hall.Reaches (clock : Nat → Instant) (hall last : Hall α) : Prop :=
  ∃ labels, Trace (Move clock) hall labels last

namespace Hall

variable {last : Hall α} {studio before : Studio α}

theorem Reaches.trans (first : hall.Reaches clock next) (rest : next.Reaches clock last) :
    hall.Reaches clock last := by
  obtain ⟨labels, first⟩ := first
  obtain ⟨more, rest⟩ := rest
  exact ⟨labels ++ more, first.append rest⟩

theorem Reaches.step (move : Move clock hall label next) : hall.Reaches clock next :=
  ⟨[label], .single move⟩

/-- Files are copied, rendered, published or taken away. -/
theorem Reaches.carry (change : Workspace → Workspace) :
    hall.Reaches clock
      (hall.become { hall.studio with workspace := change hall.studio.workspace }) :=
  .step (.aside rfl rfl rfl)

@[simp] theorem become_studio : (hall.become studio).studio = studio := rfl

@[simp] theorem work_become {labour : Labour} :
    (hall.work before job labour).become studio = hall.work studio job labour := rfl

@[simp] theorem pass_become {handing : Handing} {labour : Labour} :
    (hall.pass before job handing labour).become studio = hall.pass studio job handing labour := rfl

@[simp] theorem work_work {early late : Labour} :
    (hall.work before job early).work studio job late = hall.work studio job late := by
  simp [work]

@[simp] theorem pass_work {handing : Handing} {early late : Labour} :
    (hall.pass before job handing early).work studio job late =
      hall.pass studio job handing late := by
  simp [pass, work, hand]

@[simp] theorem pass_hand {early late : Handing} {labour : Labour} :
    (hall.pass before job early labour).hand studio job late = hall.pass studio job late labour := by
  simp [pass, work, hand]

end Hall

section Operations

variable [Quantity α] {services : Services α} {task : Task α}

namespace Operation

/-- A worker starts, settles its job and ends its task. -/
theorem perform_moves (services : Services α) (task : Task α)
    (pending : hall.labour task.job = .pending) :
    hall.Reaches services.clock
      (hall.work ((perform services task).on hall.studio).2 task.job (.ended true)) := by
  obtain ⟨output, outcome, workspace, carried, done⟩ :=
    @perform_on _ _ services task hall.studio
  have start : hall.Reaches services.clock _ := .step (.start task.work pending)
  have carry := start.trans (.carry fun _ => workspace)
  have settle := carry.trans (.step (.settle outcome Hall.work_own))
  have discard := settle.trans (.carry (discardAll (task.inputs ++ output.toList)))
  have finish := discard.trans (.step (.finish true Hall.work_own))
  rw [done]
  simpa [Hall.book] using finish

/-- A task is handed over in steps, of which those of its worker are some if it is carried out at
once. -/
theorem handOver_moves (services : Services α) (task : Task α) (schedule : Schedule)
    (entered : hall.handing task.job = .entered) :
    hall.Reaches services.clock
      (hall.pass ((handOver services task schedule).on hall.studio).2 task.job .returned
        (match schedule with
          | .later => .pending
          | .atOnce => .ended true)) := by
  have accept : hall.Reaches services.clock
      (hall.pass (hall.book (·.accept task.job)) task.job .accepted .pending) :=
    .step (.accept entered)
  cases schedule with
  | later =>
    let queued : Studio α := { hall.studio with desk := { hall.studio.desk.accept task.job with
      queue := hall.studio.desk.queue ++ [task] } }
    have queue := accept.trans (.step (.aside (show queued.desk.jobs = _ from rfl) rfl rfl))
    have track := queue.trans (.step (.track Hall.pass_handing))
    have watch := track.trans (.step (.watch Hall.hand_own))
    have same : ((handOver services task .later).on hall.studio).2 =
        ⟨(queued.desk.track task.job).watch task.job, queued.workspace⟩ := rfl
    rw [same]
    simpa [Hall.book] using watch
  | atOnce =>
    have accepted : (hall.pass (hall.book (·.accept task.job)) task.job .accepted .pending).handing
        task.job = .accepted := Hall.pass_handing
    have work := accept.trans (perform_moves services task Hall.pass_labour)
    have track := work.trans (.step (.track accepted))
    have watch := track.trans (.step (.watch Hall.hand_own))
    rw [(handOver_atOnce services task hall.studio).1]
    simpa [Hall.book] using watch

/-- A task is handed over, or taken off the books. -/
theorem dispatch_moves (services : Services α) (task : Task α) (owned : List Path)
    (entered : hall.handing task.job = .entered) :
    ∃ last, hall.Reaches services.clock last ∧
      last.studio = ((dispatch services task owned).on hall.studio).2 ∧
      (((dispatch services task owned).on hall.studio).1.isOk → last.handing task.job = .returned) := by
  cases refusal : hall.studio.desk.refusal with
  | some failure =>
    have refuse : hall.Reaches services.clock _ := .step (.refuse (.inl entered))
    have discard := refuse.trans (.carry fun workspace =>
      discardAll owned (workspace.note (.withdrawn task.job)))
    rw [dispatch_refused refusal]
    exact ⟨_, discard, rfl, nofun⟩
  | none =>
    refine ⟨_, handOver_moves services task hall.studio.desk.schedule entered, ?_, ?_⟩
    · rw [dispatch, on_bind, on_desk]
      simp only [refusal]
      rfl
    · exact fun _ => Hall.pass_handing

/-- A submission enters a job and dispatches its task, if its inputs are copied. -/
theorem enter_moves {options : PublishOptions} {staging : Staging β} {makeTask : JobId → β → Task α}
    (services : Services α) (named : ∀ job copies, (makeTask job copies).job = job)
    (fresh : hall.handing (nextId (staging.collect.on hall.studio.workspace).2) = .unknown) :
    ∃ last, hall.Reaches services.clock last ∧
      last.studio = ((enter services options staging makeTask).on hall.studio).2 ∧
      ∀ job, ((enter services options staging makeTask).on hall.studio).1 = .ok job →
        last.handing job = .returned := by
  rw [enter, on_bind, on_act]
  generalize staging.collect.on hall.studio.workspace = result at fresh ⊢
  obtain ⟨failure | ⟨copies, owned⟩, workspace⟩ := result
  · exact ⟨_, .carry fun _ => workspace, rfl, fun job accepted => by cases accepted⟩
  · let copied := hall.become { hall.studio with workspace }
    let entered := ((register services.clock options).on copied.studio).2
    let job := nextId workspace
    have start : hall.Reaches services.clock (copied.hand entered job .entered) :=
      (Hall.Reaches.carry fun _ => workspace).trans (.step (.enter fresh rfl))
    have there : (copied.hand entered job .entered).handing (makeTask job copies).job =
        .entered := by
      rw [named]
      exact Hall.hand_own
    obtain ⟨last, dispatched, same, returned⟩ := dispatch_moves services (makeTask job copies) owned there
    have register : (register services.clock options).on { hall.studio with workspace } =
      (.ok job, entered) := rfl
    dsimp only
    rw [on_bind, register]
    dsimp only
    refine ⟨last, start.trans dispatched, by rw [bind_return]; exact same, fun found accepted => ?_⟩
    rw [on_bind] at accepted
    rcases outcome : (dispatch services (makeTask job copies) owned).on entered with ⟨_ | _, end'⟩
    · rw [outcome] at accepted
      cases accepted
    · rw [outcome] at accepted
      obtain rfl := Except.ok.inj accepted
      rw [named] at returned
      exact returned (by rw [Hall.hand_studio, outcome]; rfl)

end Operation

/-- A submission goes through steps, and a job whose name its caller gets is one that was returned. -/
theorem JobRequest.submit_moves (services : Services α) (submission : JobRequest α)
    (fresh : hall.handing (nextId ((submission.prepare services).on hall.studio.workspace).2) =
      .unknown) :
    ∃ last, hall.Reaches services.clock last ∧
      last.studio = ((submission.submit services).on hall.studio).2 ∧
      ∀ job, ((submission.submit services).on hall.studio).1 = .ok job →
        last.handing job = .returned := by
  rcases prepared : (submission.prepare services).on hall.studio.workspace with
    ⟨failure | owned, workspace⟩
  · rw [submit_unprepared prepared]
    exact ⟨_, .carry fun _ => workspace, rfl, nofun⟩
  · obtain ⟨_, between, checked, copied⟩ := Action.bind_eq_ok.mp prepared
    obtain ⟨β, options, staging, makeTask, passes, submit⟩ := submit_passes checked
    rw [passes.copies_eq] at copied
    obtain ⟨made, last, collected, returned⟩ := Action.bind_eq_ok.mp copied
    obtain ⟨_, rfl⟩ := Prod.mk.inj returned
    let entering := hall.become { hall.studio with workspace := between }
    have unknown : entering.handing (nextId (staging.collect.on between).2) = .unknown := by
      rw [collected]
      rwa [prepared] at fresh
    obtain ⟨last, entered, same, told⟩ := @Operation.enter_moves _ _ entering _ options _ _ services
      passes.named unknown
    rw [submit]
    exact ⟨last, (Hall.Reaches.carry fun _ => between).trans entered, same, told⟩

end Operations

end Montage
