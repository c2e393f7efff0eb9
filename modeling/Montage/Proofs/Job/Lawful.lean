import Mathlib.Algebra.Order.Ring.Int
import Mathlib.Data.List.Chain
import Montage.Proofs.Job.Run

/-! The life of a job as its caller sees it. Whatever the order of steps, a job is queued, then
processed, then completed or failed, and after that its record stays as it is. -/

namespace Montage

/-- How far a state is. -/
def JobState.rank : JobState → Nat
  | .queued => 0
  | .processing => 1
  | .completed | .failed => 2

/-- A record of a job speaks of a publication only once that is completed. -/
structure JobStatus.Proper (job : JobId) (status : JobStatus) : Prop where
  id : status.id = job
  unpublished : status.state ≠ .completed →
    status.artifact = none ∧ status.address = none ∧ status.warning = none
  updated : status.createdAt.absolute ≤ status.updatedAt.absolute

/-- What stays from one record of a job to a later one. -/
structure JobStatus.Kept (earlier later : JobStatus) : Prop where
  id : later.id = earlier.id
  createdAt : later.createdAt = earlier.createdAt
  options : later.options = earlier.options
  updated : earlier.updatedAt.absolute ≤ later.updatedAt.absolute
  forward : earlier.state.rank ≤ later.state.rank
  final : earlier.state.isTerminal = true → later = earlier

/-- A record gives way to one of the next state. -/
structure JobStatus.Advance (earlier later : JobStatus) : Prop extends Kept earlier later where
  next : (earlier.state = .queued ∧ later.state = .processing) ∨
    (earlier.state = .processing ∧ (later.state = .completed ∨ later.state = .failed))

/-- What a caller sees of a job: nothing yet, a record, or nothing any more. -/
inductive Stage where
  | unseen
  | seen (status : JobStatus)
  | gone

namespace Stage

/-- The record that is seen. -/
def record : Stage → Option JobStatus
  | seen status => some status
  | unseen | gone => none

/-- One step: a job is entered as queued, and taken off the books only as long as it is queued. -/
inductive Leads : Stage → Stage → Prop where
  | stay (stage : Stage) : Leads stage stage
  | enter {status : JobStatus} (queued : status.state = .queued) : Leads unseen (seen status)
  | advance {earlier later : JobStatus} (lawful : earlier.Advance later) :
      Leads (seen earlier) (seen later)
  | leave {status : JobStatus} (queued : status.state = .queued) : Leads (seen status) gone

/-- Any number of steps. -/
def Before : Stage → Stage → Prop
  | unseen, _ => True
  | seen earlier, seen later => earlier.Kept later
  | seen status, gone => status.state = .queued
  | gone, gone => True
  | seen _, unseen | gone, unseen | gone, seen _ => False

end Stage

/-- The records that a caller sees of a job in turn. -/
structure JobLife (job : JobId) (records : List (Option JobStatus)) : Prop where
  stages : ∃ stages : List Stage, stages.map Stage.record = records ∧ stages.IsChain Stage.Leads ∧
    stages.head? = some .unseen
  proper : ∀ status, some status ∈ records → status.Proper job
  kept : records.Pairwise fun earlier later =>
    ∀ status ∈ earlier, ∀ changed ∈ later, status.Kept changed
  final : records.Pairwise fun earlier later =>
    ∀ status ∈ earlier, status.state.isTerminal = true → later = some status

theorem JobStatus.Kept.refl (status : JobStatus) : status.Kept status :=
  ⟨rfl, rfl, rfl, le_refl _, le_refl _, fun _ => rfl⟩

theorem JobStatus.Kept.trans {first second third : JobStatus} (early : first.Kept second)
    (late : second.Kept third) : first.Kept third where
  id := late.id.trans early.id
  createdAt := late.createdAt.trans early.createdAt
  options := late.options.trans early.options
  updated := early.updated.trans late.updated
  forward := early.forward.trans late.forward
  final := fun terminal => by
    obtain rfl := early.final terminal
    exact late.final terminal

theorem Stage.Leads.before {earlier later : Stage} (leads : earlier.Leads later) :
    earlier.Before later := by
  cases leads with
  | stay _ =>
    cases earlier with
    | seen status => exact JobStatus.Kept.refl status
    | unseen | gone => trivial
  | enter _ => trivial
  | advance lawful => exact lawful.toKept
  | leave queued => exact queued

theorem Stage.Before.trans {first second third : Stage} (early : first.Before second)
    (late : second.Before third) : first.Before third := by
  cases first with
  | unseen => trivial
  | gone =>
    cases second with
    | gone => exact late
    | unseen | seen _ => exact early.elim
  | seen status =>
    cases second with
    | unseen => exact early.elim
    | gone =>
      cases third with
      | gone => exact early
      | unseen | seen _ => exact late.elim
    | seen middle =>
      cases third with
      | unseen => exact late.elim
      | seen last => exact JobStatus.Kept.trans early late
      | gone =>
        -- A job that is taken off was never more than queued.
        have forward := early.forward
        rw [show middle.state = .queued from late] at forward
        cases state : status.state <;> simp_all [JobState.rank, Before]

instance : Trans Stage.Before Stage.Before Stage.Before := ⟨Stage.Before.trans⟩

variable {α : Type} {clock : Nat → Instant} {floor next : Floor α} {label : Option JobId}
  {job : JobId} {status : JobStatus}

/-- A record as the books keep it: proper, and not of a time to come. -/
structure JobStatus.Booked (clock : Nat → Instant) (readings : Nat) (job : JobId)
    (status : JobStatus) : Prop extends Proper job status where
  past : ∀ reading, readings ≤ reading →
    status.updatedAt.absolute ≤ (clock reading).absolute

/-- What the books hold of a job by how far its handling has come. -/
def Phase.Books (clock : Nat → Instant) (readings : Nat) (job : JobId) (record : Option JobStatus) :
    Phase → Prop
  | unknown => record = none
  | entered | handed => ∃ status, record = some status ∧ status.state = .queued ∧
      status.Booked clock readings job
  | started => ∃ status, record = some status ∧ status.state = .processing ∧
      status.Booked clock readings job
  | ended => ∀ status ∈ record, status.state.isTerminal = true ∧ status.Booked clock readings job

/-- The books are in order. -/
def Floor.Sound (clock : Nat → Instant) (floor : Floor α) : Prop :=
  ∀ job, (floor.phase job).Books clock floor.studio.workspace.readings job (floor.record job)

/-- What a caller sees of a job. -/
def Floor.stage (floor : Floor α) (job : JobId) : Stage :=
  match floor.record job with
  | some status => .seen status
  | none => if floor.phase job = .unknown then .unseen else .gone

theorem Floor.stage_record : (floor.stage job).record = floor.record job := by
  unfold stage
  cases floor.record job with
  | some status => rfl
  | none => dsimp only; split <;> rfl

theorem Phase.Books.onward {readings later : Nat} {record : Option JobStatus} {phase : Phase}
    (books : phase.Books clock readings job record) (onward : readings ≤ later) :
    phase.Books clock later job record := by
  have kept (status : JobStatus) (booked : status.Booked clock readings job) :
      status.Booked clock later job :=
    { booked with past := fun reading reached => booked.past reading (onward.trans reached) }
  cases phase with
  | unknown => exact books
  | entered | handed | started =>
    obtain ⟨status, present, state, booked⟩ := books
    exact ⟨status, present, state, kept status booked⟩
  | ended => exact fun status present => ⟨(books status present).1, kept _ (books status present).2⟩

theorem JobStatus.settle_unpublished {outcome : Except Failure Publication}
    (unpublished : status.artifact = none ∧ status.address = none ∧ status.warning = none) :
    (status.settle outcome).state ≠ .completed → (status.settle outcome).artifact = none ∧
      (status.settle outcome).address = none ∧ (status.settle outcome).warning = none := by
  cases outcome with
  | ok publication => exact fun differ => absurd rfl differ
  | error failure => exact fun _ => unpublished

theorem JobStatus.settle_state (outcome : Except Failure Publication) :
    (status.settle outcome).state = .completed ∨ (status.settle outcome).state = .failed := by
  cases outcome with
  | ok publication => exact .inl rfl
  | error failure => exact .inr rfl

theorem JobStatus.settle_kept (outcome : Except Failure Publication) :
    (status.settle outcome).id = status.id ∧
      (status.settle outcome).createdAt = status.createdAt ∧
      (status.settle outcome).options = status.options := by
  cases outcome <;> exact ⟨rfl, rfl, rfl⟩

theorem Floor.stage_seen (present : floor.record job = some status) :
    floor.stage job = .seen status := by
  simp [stage, present]

theorem Floor.stage_unseen (absent : floor.record job = none)
    (unknown : floor.phase job = .unknown) : floor.stage job = .unseen := by
  simp [stage, absent, unknown]

theorem Floor.stage_gone (absent : floor.record job = none)
    (known : floor.phase job ≠ .unknown) : floor.stage job = .gone := by
  simp [stage, absent, known]

theorem Floor.goTo_seen {studio : Studio α} {phase : Phase}
    (present : studio.desk.jobs.get? job = some status) :
    (floor.goTo studio job phase).stage job = .seen status :=
  Floor.stage_seen present

theorem Floor.goTo_gone {studio : Studio α} {phase : Phase}
    (absent : studio.desk.jobs.get? job = none) (known : phase ≠ .unknown) :
    (floor.goTo studio job phase).stage job = .gone :=
  Floor.stage_gone absent (by simpa using known)

section Steps

variable (onward : ∀ early late, early ≤ late → (clock early).absolute ≤ (clock late).absolute)
  (sound : floor.Sound clock)

include onward sound

/-- Registering a fresh job shows it as queued. -/
theorem Step.enter_lawful {options : PublishOptions} {studio : Studio α}
    (fresh : floor.phase job = .unknown)
    (entered : (Operation.register clock options).on floor.studio = (.ok job, studio)) :
    Phase.Books clock studio.workspace.readings job (studio.desk.jobs.get? job) .entered ∧
      (floor.stage job).Leads ((floor.goTo studio job .entered).stage job) := by
  have books := sound job
  rw [fresh] at books
  obtain ⟨desk, read, _⟩ := register_ok entered
  have present : (floor.goTo studio job .entered).record job = some ⟨job, .queued, "Job queued.",
      clock floor.studio.workspace.readings, clock floor.studio.workspace.readings, options,
      none, none, none⟩ := by
    simp [Floor.goTo, Floor.record, desk, Desk.register, Named.get?_set]
  refine ⟨⟨_, present, rfl, ?_⟩, ?_⟩
  · exact {
      id := rfl
      unpublished := fun _ => ⟨rfl, rfl, rfl⟩
      updated := le_refl _
      past := fun reading reached => onward _ _ (by omega) }
  · rw [Floor.stage_unseen books fresh, Floor.stage_seen present]
    exact .enter rfl

omit sound in
/-- A change of a record to the next state advances it. -/
theorem Step.change_lawful (change : JobStatus → JobStatus)
    (present : floor.record job = some status)
    (booked : status.Booked clock floor.studio.workspace.readings job)
    (next : (status.state = .queued ∧ (change status).state = .processing) ∨
      (status.state = .processing ∧
        ((change status).state = .completed ∨ (change status).state = .failed)))
    (kept : (change status).id = status.id ∧ (change status).createdAt = status.createdAt ∧
      (change status).options = status.options)
    (unpublished : (change status).state ≠ .completed → (change status).artifact = none ∧
      (change status).address = none ∧ (change status).warning = none) :
    let studio := ((Operation.update clock job change).on floor.studio).2
    ∃ changed, studio.desk.jobs.get? job = some changed ∧ changed.state = (change status).state ∧
      changed.Booked clock studio.workspace.readings job ∧ status.Advance changed := by
  have running : status.state.isTerminal = false := by
    rcases next with ⟨state, _⟩ | ⟨state, _⟩ <;> rw [state] <;> rfl
  obtain ⟨record, readings⟩ := update_own (Desk.open?_eq_some.mpr ⟨present, running⟩)
  refine ⟨_, record, rfl, ?_, ?_⟩
  · rw [readings]
    exact {
      id := kept.1.trans booked.id
      unpublished := unpublished
      updated := by
        rw [kept.2.1]
        exact booked.updated.trans (booked.past _ (le_refl _))
      past := fun reading reached => onward _ _ (Nat.le_of_succ_le reached) }
  · exact {
      id := kept.1
      createdAt := kept.2.1
      options := kept.2.2
      updated := booked.past _ (le_refl _)
      forward := by
        rcases next with ⟨state, later⟩ | ⟨state, later | later⟩ <;> simp [state, later, JobState.rank]
      final := fun terminal => by simp [running] at terminal
      next }

/-- The worker of a job that waits shows it as processing. -/
theorem Step.start_lawful (work : Work α) (handed : floor.phase job = .handed) :
    let studio := ((Operation.update clock job (·.begin work)).on floor.studio).2
    Phase.Books clock studio.workspace.readings job (studio.desk.jobs.get? job) .started ∧
      (floor.stage job).Leads ((floor.goTo studio job .started).stage job) := by
  have books := sound job
  rw [handed] at books
  obtain ⟨status, present, queued, booked⟩ := books
  obtain ⟨changed, record, state, again, advance⟩ := Step.change_lawful onward (·.begin work)
    present booked (.inl ⟨queued, rfl⟩) ⟨rfl, rfl, rfl⟩
    (fun _ => booked.unpublished (by simp [queued]))
  refine ⟨⟨changed, record, state, again⟩, ?_⟩
  rw [Floor.stage_seen present, Floor.goTo_seen record]
  exact .advance advance

/-- The end of a task shows its job as completed or failed. -/
theorem Step.settle_lawful (outcome : Except Failure Publication)
    (started : floor.phase job = .started) :
    let studio := ((Operation.update clock job (·.settle outcome)).on floor.studio).2
    Phase.Books clock studio.workspace.readings job (studio.desk.jobs.get? job) .ended ∧
      (floor.stage job).Leads ((floor.goTo studio job .ended).stage job) := by
  have books := sound job
  rw [started] at books
  obtain ⟨status, present, processing, booked⟩ := books
  have ended := status.settle_state outcome
  obtain ⟨changed, record, state, again, advance⟩ := Step.change_lawful onward (·.settle outcome)
    present booked (.inr ⟨processing, ended⟩) (JobStatus.settle_kept outcome)
    (JobStatus.settle_unpublished (booked.unpublished (by simp [processing])))
  refine ⟨?_, ?_⟩
  · rintro found same
    obtain rfl := Option.some.inj (record.symm.trans same)
    exact ⟨by rcases ended with ended | ended <;> rw [state, ended] <;> rfl, again⟩
  · rw [Floor.stage_seen present, Floor.goTo_seen record]
    exact .advance advance

/-- A step of a job keeps the books on it in order and shows a lawful change. -/
theorem Step.own_lawful (step : Step clock floor (some job) next) :
    (next.phase job).Books clock next.studio.workspace.readings job (next.record job) ∧
      (floor.stage job).Leads (next.stage job) := by
  cases step with
  | enter fresh entered =>
    rw [Floor.goTo_phase]
    exact Step.enter_lawful onward sound fresh entered
  | refuse entered =>
    have books := sound job
    rw [entered] at books
    obtain ⟨status, present, queued, _⟩ := books
    have absent : (floor.studio.desk.withdraw job).jobs.get? job = none := by
      simp [Desk.withdraw, Named.get?_erase]
    refine ⟨?_, ?_⟩
    · rw [Floor.goTo_phase]
      exact fun found same => absurd (absent.symm.trans same) (by simp)
    · rw [Floor.stage_seen present, Floor.goTo_gone absent (by simp)]
      exact .leave queued
  | hand entered =>
    have books := sound job
    rw [entered] at books
    obtain ⟨status, present, queued, _⟩ := id books
    refine ⟨by rw [Floor.goTo_phase]; exact books, ?_⟩
    rw [Floor.stage_seen present, Floor.goTo_seen present]
    exact .stay _
  | start work handed =>
    rw [Floor.goTo_phase]
    exact Step.start_lawful onward sound work handed
  | settle outcome started =>
    rw [Floor.goTo_phase]
    exact Step.settle_lawful onward sound outcome started
  | late change closed =>
    rw [Operation.on_update_closed closed]
    exact ⟨sound job, .stay _⟩

/-- Every step keeps the books in order and shows a lawful change of every job. -/
theorem Step.lawful_step (step : Step clock floor label next) :
    next.Sound clock ∧ ∀ job, (floor.stage job).Leads (next.stage job) := by
  have each (job : JobId) :
      (next.phase job).Books clock next.studio.workspace.readings job (next.record job) ∧
        (floor.stage job).Leads (next.stage job) := by
    by_cases own : label = some job
    · subst own
      exact Step.own_lawful onward sound step
    · obtain ⟨record, phase⟩ := step.undisturbed own
      have same : next.stage job = floor.stage job := by
        simp [Floor.stage, record, phase]
      rw [record, phase, same]
      exact ⟨(sound job).onward step.onward, .stay _⟩
  exact ⟨fun job => (each job).1, fun job => (each job).2⟩

/-- Induction on the run: the books stay in order, so every step shows a lawful change. -/
theorem Run.stages_chain {trail : List (Option JobId × Floor α)} (run : Run clock floor trail)
    (job : JobId) :
    (∀ passed ∈ trail, passed.2.Sound clock) ∧
      ((floor :: trail.map Prod.snd).map (·.stage job)).IsChain Stage.Leads := by
  induction run with
  | done => exact ⟨by simp, .singleton _⟩
  | step first rest ih =>
    obtain ⟨sound, leads⟩ := first.lawful_step onward sound
    obtain ⟨later, chain⟩ := ih sound
    refine ⟨?_, ?_⟩
    · rintro passed (_ | ⟨_, member⟩)
      · exact sound
      · exact later passed member
    · simp only [List.map_cons] at chain ⊢
      exact .cons_cons (leads job) chain

end Steps

/-- A studio whose books are empty. -/
structure Floor.Empty (floor : Floor α) : Prop where
  jobs : floor.studio.desk.jobs = []
  phases : ∀ job, floor.phase job = .unknown

theorem Floor.Empty.record (empty : floor.Empty) (job : JobId) : floor.record job = none := by
  rw [Floor.record, empty.jobs]
  rfl

theorem Floor.Empty.sound (empty : floor.Empty) : floor.Sound clock := by
  intro job
  rw [empty.phases job]
  exact empty.record job

theorem Phase.Books.booked {readings : Nat} {phase : Phase}
    (books : phase.Books clock readings job (some status)) :
    status.Booked clock readings job := by
  cases phase with
  | unknown => cases books
  | entered | handed | started =>
    obtain ⟨found, same, _, booked⟩ := books
    exact Option.some.inj same ▸ booked
  | ended => exact (books status rfl).2

theorem Stage.Before.kept {earlier later : Stage} (before : earlier.Before later) :
    ∀ status ∈ earlier.record, ∀ changed ∈ later.record, status.Kept changed := by
  cases earlier <;> cases later <;> simp_all [Before, record]

theorem Stage.Before.final {earlier later : Stage} (before : earlier.Before later) :
    ∀ status ∈ earlier.record, status.state.isTerminal = true → later.record = some status := by
  cases earlier with
  | unseen | gone => simp [record]
  | seen status =>
    cases later with
    | unseen => exact before.elim
    | seen changed =>
      simp only [record, Option.mem_some_iff, forall_eq']
      exact fun terminal => congrArg some (JobStatus.Kept.final before terminal)
    | gone =>
      simp only [record, Option.mem_some_iff, forall_eq']
      rw [show status.state = .queued from before]
      simp [JobState.isTerminal]

/-- Only steps of a job change its record. -/
theorem Run.undisturbed {trail : List (Option JobId × Floor α)} (run : Run clock floor trail)
    (before : Option JobId) (job : JobId) :
    List.IsChain (fun earlier later => later.1 ≠ some job →
      later.2.record job = earlier.2.record job) ((before, floor) :: trail) := by
  induction run generalizing before with
  | done => exact .singleton _
  | step first rest ih => exact .cons_cons (fun other => (first.undisturbed other).1) (ih _)

/-- From empty books, by a clock that does not go back, every job has a lawful life in every run, and
no step of another job or of none changes its record. -/
theorem Run.lawful {trail : List (Option JobId × Floor α)}
    (onward : ∀ early late, early ≤ late → (clock early).absolute ≤ (clock late).absolute)
    (empty : floor.Empty) (run : Run clock floor trail) (job : JobId) :
    JobLife job ((floor :: trail.map Prod.snd).map (·.record job)) ∧
      List.IsChain (fun earlier later => later.1 ≠ some job →
        later.2.record job = earlier.2.record job) ((none, floor) :: trail) := by
  obtain ⟨sound, chain⟩ := run.stages_chain onward empty.sound job
  let stages := (floor :: trail.map Prod.snd).map (·.stage job)
  have records : (floor :: trail.map Prod.snd).map (·.record job) = stages.map Stage.record := by
    simp [stages, Floor.stage_record]
  have ordered : stages.Pairwise Stage.Before :=
    (chain.imp fun _ _ => Stage.Leads.before).pairwise
  refine ⟨?_, run.undisturbed none job⟩
  rw [records]
  exact {
    stages := ⟨stages, rfl, chain, by
      simp [stages, Floor.stage_unseen (empty.record job) (empty.phases job)]⟩
    proper := by
      intro status seen
      rw [← records, List.mem_map] at seen
      obtain ⟨passed, member, present⟩ := seen
      have books : passed.Sound clock := by
        rcases List.mem_cons.mp member with rfl | later
        · exact empty.sound
        · obtain ⟨entry, passed, rfl⟩ := List.mem_map.mp later
          exact sound entry passed
      exact (Phase.Books.booked (present ▸ books job)).toProper
    kept := List.pairwise_map.mpr (ordered.imp fun before => before.kept)
    final := List.pairwise_map.mpr (ordered.imp fun before => before.final) }

/-- A studio before its first job. -/
def Floor.opening : Floor Number :=
  ⟨⟨.empty .later, ⟨⟨[], [], []⟩, 0, 0, 0, []⟩⟩, fun _ => .unknown⟩

/-- A job is entered, handed over, started and settled. -/
theorem Floor.opening_lawful :
    let clock : Nat → Instant := fun _ => ⟨⟨2024, 2, 29⟩, 12, 0, 0, 0, some 0⟩
    ∃ job trail, Run clock Floor.opening trail ∧
      ((Floor.opening :: trail.map Prod.snd).map (·.record job)).map (Option.map JobStatus.state) =
        [none, some .queued, some .queued, some .processing, some .failed] ∧
      JobLife job ((Floor.opening :: trail.map Prod.snd).map (·.record job)) := by
  intro clock
  let job := "00000000-0010-0000-0000-000000000000"
  let studio := ((Operation.register clock .default).on Floor.opening.studio).2
  have entered : (Operation.register clock .default).on Floor.opening.studio = (.ok job, studio) := by
    rfl
  have run : Run clock Floor.opening _ :=
    .step (.enter rfl entered) (.step (.hand Floor.goTo_phase)
      (.step (.start (.still ⟨"/", ["cover.png"]⟩ (.int 1)) Floor.goTo_phase)
        (.step (.settle (.error .pending) Floor.goTo_phase) .done)))
  have onward (early late : Nat) (_ : early ≤ late) :
      (clock early).absolute ≤ (clock late).absolute := by
    rw [show clock early = clock late from rfl]
  refine ⟨job, _, run, ?_, (Run.lawful onward ⟨rfl, fun _ => rfl⟩ run job).1⟩
  decide

end Montage
