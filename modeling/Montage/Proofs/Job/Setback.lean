import Montage.Proofs.File.Restored
import Montage.Proofs.Job.Accounting
import Montage.Proofs.Job.Steps
import Montage.Proofs.Manifest.Validation
import Montage.Tool.Rehearsal

/-! A submission that fails leaves nothing behind: no record, no task and no copy. -/

namespace Montage

variable {α β γ : Type} {origin : Disk} {files : List Path}

namespace Staging

variable {staging : Staging β}

/-- The list of copies lists all of them so far. -/
structure Tracked (origin : Disk) (result : Except Failure β × Workspace × List Path) : Prop where
  gains : origin.Gains result.2.2 result.2.1.disk
  lost : ∀ failure, result.1 = .error failure → ¬failure.IsInvalid

/-- Copies are listed as they are made, and no check fails on the way. -/
def Tracks (staging : Staging β) : Prop :=
  ∀ (origin : Disk) (files : List Path) (workspace : Workspace),
    origin.temporaryDirectory.Plain → origin.Gains files workspace.disk →
      Tracked origin (staging (workspace, files))

theorem Tracks.pure (value : β) : (pure value : Staging β).Tracks :=
  fun _ _ _ _ gains => ⟨gains, nofun⟩

theorem Tracks.bind {next : β → Staging γ} (first : staging.Tracks)
    (rest : ∀ found, (next found).Tracks) : (staging >>= next).Tracks := by
  intro origin files workspace plain gains
  have tracked := first origin files workspace plain gains
  rcases outcome : staging (workspace, files) with ⟨failure | found, last, copied⟩
  · rw [bind_error outcome]
    rw [outcome] at tracked
    exact ⟨tracked.gains, fun _ same => Except.error.inj same ▸ tracked.lost failure rfl⟩
  · rw [bind_ok outcome]
    rw [outcome] at tracked
    exact rest found origin copied last plain tracked.gains

theorem copy_tracks {upload : Option Upload} {purpose : String} {suffix : Upload → String}
    (purposePlain : '/' ∉ purpose.toList)
    (suffixPlain : ∀ upload, '/' ∉ (suffix upload).toList) :
    (copy upload purpose suffix).Tracks := by
  intro origin files workspace plain gains
  cases upload with
  | none => exact ⟨gains, fun _ same => Except.error.inj same ▸ Failure.fault_valid _⟩
  | some upload =>
    have staged := @stage_gains _ files _ _ plain upload purposePlain (suffixPlain upload)
      workspace gains
    rw [copy]
    rcases outcome : stage upload purpose (suffix upload) workspace with ⟨failure | path, last⟩
    · rw [Action.on, outcome] at staged
      exact ⟨staged.1, fun _ same => Except.error.inj same ▸ staged.2⟩
    · rw [Action.on, outcome] at staged
      exact ⟨staged, by rintro _ ⟨⟩⟩

theorem copyThumbnail_tracks {upload : Option Upload} : (copyThumbnail upload).Tracks := by
  cases upload with
  | none => exact .pure none
  | some upload =>
    exact (copy_tracks (by decide) fun _ => thumbnailSuffix_slashless _).bind fun _ => .pure _

theorem copyAssets_tracks {assets : Named (Option Upload)} : (copyAssets assets).Tracks := by
  induction assets with
  | nil => exact .pure []
  | cons asset rest ih =>
    exact (copy_tracks (by decide) assetSuffix_slashless).bind fun _ => ih.bind fun _ => .pure _

/-- Copies are all made, or none is left when the system refuses one. -/
theorem collect_gains (tracks : staging.Tracks) (plain : origin.temporaryDirectory.Plain) :
    staging.collect.Ensures (origin.Alike ·.disk) fun outcome last =>
      match outcome with
      | .ok (_, owned) => origin.Gains owned last.disk
      | .error failure => ¬failure.IsInvalid ∧
          ∀ error, failure = .system error → origin.Alike last.disk := by
  intro start alike
  have tracked := tracks origin [] start plain (Disk.Gains.nil_iff.mpr alike)
  rw [Action.on, collect]
  generalize staging (start, []) = result at tracked ⊢
  obtain ⟨failure | copies, last, owned⟩ := result
  · have valid := tracked.lost failure rfl
    cases failure with
    | system error => exact ⟨valid, fun _ _ => tracked.gains.discardAll plain⟩
    | _ => exact ⟨valid, by rintro _ ⟨⟩⟩
  · exact tracked.gains

end Staging

theorem StillRequest.copies_track (request : StillRequest) : request.copies.Tracks :=
  (Staging.copy_tracks (by decide) assetSuffix_slashless).bind fun _ =>
    (Staging.copy_tracks (by decide) audioSuffix_slashless).bind fun _ =>
      Staging.copyThumbnail_tracks.bind fun _ => .pure _

theorem CompositionRequest.copies_track (request : CompositionRequest α) : request.copies.Tracks :=
  (Staging.copy_tracks (by decide) audioSuffix_slashless).bind fun _ =>
    Staging.copyAssets_tracks.bind fun _ =>
      Staging.copyThumbnail_tracks.bind fun _ => .pure _

variable [Quantity α]

/-- A prober that leaves no trace in the temporary directory: the one that asks a tool about a copy,
or any other one of which that is known. -/
inductive Prober.Harmless : Prober α → Prop where
  | tool {toolbox : Toolbox} {timeout : Number} (quiet : toolbox.ProbesQuietly) :
      Harmless fun upload => do return Quantity.ofDouble (← probeUpload toolbox timeout upload)
  | other {prober : Prober α}
      (restores : ∀ upload (workspace : Workspace),
        workspace.disk.Alike ((prober upload).on workspace).2.disk) :
      Harmless prober

theorem Prober.Harmless.keeps {prober : Prober α} (harmless : Prober.Harmless prober)
    (plain : origin.temporaryDirectory.Plain) (upload : Upload) :
    (prober upload).Keeps (origin.Alike ·.disk) := by
  simp only [← Disk.Gains.nil_iff]
  cases harmless with
  | tool quiet => exact (probeUpload_gains plain quiet).bind fun _ => Action.keeps_pure _
  | other restores => exact fun start gains => gains.alike (restores upload start)

namespace Operation

variable {services : Services α} {studio : Studio α} {options : PublishOptions}
  {staging : Staging β} {task : JobId → β → Task α} {workspace : Workspace} {owned : List Path}
  {failure : Failure}

/-- A task that is not accepted is taken off the books, and its files away. -/
theorem dispatch_refused {task : Task α} (refusal : studio.desk.refusal = some failure) :
    (dispatch services task owned).on studio =
      (.error failure, ⟨studio.desk.withdraw task.job,
        discardAll owned (studio.workspace.note (.withdrawn task.job))⟩) := by
  rw [dispatch, on_bind, on_desk]
  simp only [refusal]
  rfl

theorem dispatch_accepted (services : Services α) (owned : List Path) (task : Task α)
    (refusal : studio.desk.refusal = none) :
    ∃ last, (dispatch services task owned).on studio = (.ok (), last) := by
  rw [dispatch, on_bind, on_desk]
  simp only [refusal]
  cases studio.desk.schedule with
  | later => exact ⟨_, rfl⟩
  | atOnce => exact ⟨_, (handOver_atOnce services task studio).1⟩

/-- A job whose inputs cannot be copied is not entered. -/
theorem enter_uncopied
    (failed : staging.collect.on studio.workspace = (.error failure, workspace)) :
    (enter services options staging task).on studio = (.error failure, { studio with workspace }) := by
  rw [enter, on_bind, on_act, failed]

section Copied

variable {copies : β} (copied : staging.collect.on studio.workspace = (.ok (copies, owned), workspace))

include copied

/-- A job whose inputs are copied is entered, and its task handed over. -/
theorem enter_copied (services : Services α) (options : PublishOptions)
    (task : JobId → β → Task α) :
    ∃ (status : JobStatus) (entered : Workspace), status.id = nextId workspace ∧
      entered.disk = workspace.disk ∧
      (enter services options staging task).on studio =
        (do dispatch services (task status.id copies) owned; return status.id : Operation α JobId).on
          ⟨studio.desk.register status, entered⟩ := by
  let time := services.clock workspace.readings
  let status : JobStatus :=
    ⟨nextId workspace, .queued, "Job queued.", time, time, options, none, none, none⟩
  let read : Workspace :=
    { workspace with ids := workspace.ids + 1, readings := workspace.readings + 1 }
  have register : (register services.clock options).on { studio with workspace } =
      (.ok status.id, ⟨studio.desk.register status,
        read.note (.status status.id status.state status.message)⟩) := rfl
  refine ⟨status, read.note (.status status.id status.state status.message), rfl, rfl, ?_⟩
  rw [enter, on_bind, on_act, copied]
  dsimp only
  rw [on_bind, register]

/-- A job whose task is not accepted is struck off the books again. -/
theorem enter_refused (named : ∀ job copies, (task job copies).job = job)
    (fresh : studio.desk.jobs.get? (nextId workspace) = none)
    (refusal : studio.desk.refusal = some failure) :
    ∃ entered : Workspace, entered.disk = workspace.disk ∧
      (enter services options staging task).on studio =
        (.error failure, ⟨studio.desk, discardAll owned entered⟩) := by
  obtain ⟨status, entered, id, disk, done⟩ := enter_copied copied services options task
  have struck : (studio.desk.register status).withdraw status.id = studio.desk := by
    rw [Desk.withdraw, Desk.register, Named.erase_set (id ▸ fresh)]
  refine ⟨entered.note (.withdrawn status.id), disk, ?_⟩
  rw [done, on_bind, dispatch_refused (by exact refusal), named, struck]

/-- A submission does not fail once its task is accepted. -/
theorem enter_accepted (refusal : studio.desk.refusal = none) :
    ∃ job last, (enter services options staging task).on studio = (.ok job, last) := by
  obtain ⟨status, entered, _, _, done⟩ := enter_copied copied services options task
  have accepted : ∃ last, (dispatch services (task status.id copies) owned).on
      ⟨studio.desk.register status, entered⟩ = (.ok (), last) :=
    dispatch_accepted _ _ _ refusal
  obtain ⟨last, dispatched⟩ := accepted
  exact ⟨status.id, last, by rw [done, on_bind, dispatched]; rfl⟩

end Copied

end Operation

/-- A request of either kind. -/
inductive JobRequest (α : Type) where
  | still (request : StillRequest)
  | composition (request : CompositionRequest α)

namespace JobRequest

variable {services : Services α} {studio : Studio α} {submission : JobRequest α}
  {failure : Failure}

/-- Submits a request. -/
def submit (services : Services α) : JobRequest α → Operation α JobId
  | .still request => Operation.submitStill services request
  | .composition request => Operation.submitComposition services request

/-- The checks of a request. -/
def check (services : Services α) : JobRequest α → Action Unit
  | .still request => do let _ ← Action.lift (checkDuration request.duration)
  | .composition request => do let _ ← request.manifest services.prober

omit [Quantity α] in
/-- The copies of the inputs of a request. -/
def copies : JobRequest α → Action (List Path)
  | .still request => do return (← request.copies.collect).2
  | .composition request => do return (← request.copies.collect).2

/-- All that comes before the job is entered. -/
def prepare (services : Services α) (submission : JobRequest α) : Action (List Path) := do
  submission.check services
  submission.copies

/-- Why a submission fails: a check fails, or the system refuses something before the job is entered,
or the task is not accepted. -/
inductive Setback (services : Services α) (studio : Studio α) (submission : JobRequest α) :
    Failure → Prop where
  | unchecked {failure : Failure}
      (failed : ((submission.check services).on studio.workspace).1 = .error failure) :
      Setback services studio submission failure
  | unprepared {error : SystemError}
      (failed : ((submission.prepare services).on studio.workspace).1 = .error (.system error)) :
      Setback services studio submission (.system error)
  | refused {failure : Failure} {owned : List Path}
      (prepared : ((submission.prepare services).on studio.workspace).1 = .ok owned)
      (refusal : studio.desk.refusal = some failure) :
      Setback services studio submission failure

omit [Quantity α] in
theorem copies_gains (submission : JobRequest α) (plain : origin.temporaryDirectory.Plain) :
    submission.copies.Ensures (origin.Alike ·.disk) fun outcome last =>
      match outcome with
      | .ok owned => origin.Gains owned last.disk
      | .error failure => ¬failure.IsInvalid ∧
          ∀ error, failure = .system error → origin.Alike last.disk := by
  cases submission with
  | still request =>
    exact (Staging.collect_gains request.copies_track plain).bind (fun _ _ gains => gains)
      fun _ _ left => left
  | composition request =>
    exact (Staging.collect_gains request.copies_track plain).bind (fun _ _ gains => gains)
      fun _ _ left => left

/-- The checks of a request keep what probing keeps. -/
theorem check_keeps {kept : Workspace → Prop} (submission : JobRequest α)
    (probing : ∀ upload, (services.prober upload).Keeps kept) :
    (submission.check services).Keeps kept := by
  cases submission with
  | still request => exact (Action.keeps_lift _).bind fun _ => Action.keeps_pure ()
  | composition request =>
    exact (request.manifest_keeps probing).bind fun _ => Action.keeps_pure ()

/-- A request whose checks fail is not looked at any further. -/
theorem submit_unchecked {workspace : Workspace}
    (failed : (submission.check services).on studio.workspace = (.error failure, workspace)) :
    (submission.submit services).on studio = (.error failure, { studio with workspace }) := by
  cases submission with
  | still request =>
    rw [check, Action.on_bind, Action.on_lift] at failed
    rw [submit, Operation.submitStill, Operation.on_bind, Operation.on_act, Action.on_lift]
    cases checked : checkDuration request.duration with
    | ok duration => simp [checked] at failed
    | error refusal => simp_all
  | composition request =>
    rw [check, Action.on_bind] at failed
    rw [submit, Operation.submitComposition, Operation.on_bind, Operation.on_act]
    rcases checked : (request.manifest services.prober).on studio.workspace with ⟨_ | _, _⟩
    · simp_all
    · simp [checked] at failed

/-- The checks of a request pass, and what is done then: how its inputs are copied, and which task is
made of the copies. -/
inductive Passes (services : Services α) (start : Workspace) :
    {β : Type} → JobRequest α → Workspace → PublishOptions → Staging β → (JobId → β → Task α) →
      Prop where
  | still {request : StillRequest} {duration : Number}
      (checked : checkDuration request.duration = .ok duration) :
      Passes services start (.still request) start request.options request.copies
        (Operation.stillTask request duration)
  | composition {request : CompositionRequest α} {manifest : Manifest α} {last : Workspace}
      (checked : (request.manifest services.prober).on start = (.ok manifest, last)) :
      Passes services start (.composition request) last request.options request.copies
        (Operation.compositionTask request manifest)

section Passing

variable {start last : Workspace} {options : PublishOptions} {staging : Staging β}
  {task : JobId → β → Task α}

theorem Passes.named (passes : submission.Passes services start last options staging task)
    (job : JobId) (copies : β) : (task job copies).job = job := by
  cases passes <;> rfl

theorem Passes.copies_eq (passes : submission.Passes services start last options staging task) :
    submission.copies = (do return (← staging.collect).2) := by
  cases passes <;> rfl

end Passing

/-- A request whose checks pass is copied and entered. -/
theorem submit_passes {workspace : Workspace}
    (passed : (submission.check services).on studio.workspace = (.ok (), workspace)) :
    ∃ (β : Type) (options : PublishOptions) (staging : Staging β) (task : JobId → β → Task α),
      submission.Passes services studio.workspace workspace options staging task ∧
      (submission.submit services).on studio =
        (Operation.enter services options staging task).on { studio with workspace } := by
  cases submission with
  | still request =>
    rw [check, Action.on_bind, Action.on_lift] at passed
    rw [submit, Operation.submitStill, Operation.on_bind, Operation.on_act, Action.on_lift]
    cases checked : checkDuration request.duration with
    | error refusal => simp [checked] at passed
    | ok duration =>
      rw [checked] at passed
      obtain ⟨_, rfl⟩ := Prod.mk.inj passed
      exact ⟨_, _, _, _, .still checked, rfl⟩
  | composition request =>
    rw [check, Action.on_bind] at passed
    rw [submit, Operation.submitComposition, Operation.on_bind, Operation.on_act]
    rcases checked : (request.manifest services.prober).on studio.workspace with ⟨_ | manifest, _⟩
    · simp [checked] at passed
    · rw [checked] at passed
      obtain ⟨_, rfl⟩ := Prod.mk.inj passed
      exact ⟨_, _, _, _, .composition checked, rfl⟩

/-- A request that is not prepared is not entered. -/
theorem submit_unprepared {workspace : Workspace}
    (failed : (submission.prepare services).on studio.workspace = (.error failure, workspace)) :
    (submission.submit services).on studio = (.error failure, { studio with workspace }) := by
  rw [prepare, Action.on_bind] at failed
  rcases checked : (submission.check services).on studio.workspace with ⟨refusal | _, between⟩
  · rw [checked] at failed
    obtain ⟨same, rfl⟩ := Prod.mk.inj failed
    obtain rfl := Except.error.inj same
    exact submit_unchecked checked
  · obtain ⟨β, options, staging, task, passes, submit⟩ := submit_passes checked
    rw [checked, passes.copies_eq] at failed
    dsimp only at failed
    rw [Action.on_bind] at failed
    rw [submit]
    rcases collected : staging.collect.on between with ⟨refusal | _, last⟩
    · rw [collected] at failed
      obtain ⟨same, rfl⟩ := Prod.mk.inj failed
      obtain rfl := Except.error.inj same
      exact Operation.enter_uncopied collected
    · simp [collected] at failed

/-- A request that is prepared is entered, with the copies that were made. -/
theorem submit_prepared {workspace : Workspace} {owned : List Path}
    (prepared : (submission.prepare services).on studio.workspace = (.ok owned, workspace)) :
    (studio.desk.refusal = none →
      ∃ job last, (submission.submit services).on studio = (.ok job, last)) ∧
    ∀ failure, studio.desk.jobs.get? (nextId workspace) = none →
      studio.desk.refusal = some failure →
        ∃ entered : Workspace, entered.disk = workspace.disk ∧
          (submission.submit services).on studio =
            (.error failure, ⟨studio.desk, discardAll owned entered⟩) := by
  obtain ⟨_, between, checked, copied⟩ := Action.bind_eq_ok.mp prepared
  obtain ⟨β, options, staging, task, passes, submit⟩ := submit_passes checked
  rw [passes.copies_eq] at copied
  obtain ⟨⟨made, listed⟩, last, collected, returned⟩ := Action.bind_eq_ok.mp copied
  obtain ⟨same, rfl⟩ := Prod.mk.inj returned
  obtain rfl := Except.ok.inj same
  let entering : Studio α := { studio with workspace := between }
  have collected : staging.collect.on entering.workspace = (.ok (made, listed), last) := collected
  rw [submit]
  exact ⟨Operation.enter_accepted collected,
    fun _ => Operation.enter_refused collected passes.named⟩

theorem prepare_unchecked
    (failed : ((submission.check services).on studio.workspace).1 = .error failure) :
    ((submission.prepare services).on studio.workspace).1 = .error failure := by
  rw [prepare, Action.on_bind]
  generalize (submission.check services).on studio.workspace = result at failed ⊢
  obtain ⟨outcome, between⟩ := result
  obtain rfl : outcome = .error failure := failed
  rfl

namespace Setback

theorem of_prepared (prepared : ((submission.prepare services).on studio.workspace).1.isOk = true)
    (refusal : studio.desk.refusal = some failure) :
    submission.Setback services studio failure := by
  cases outcome : ((submission.prepare services).on studio.workspace).1 with
  | error failure => simp [outcome, Except.isOk, Except.toBool] at prepared
  | ok owned => exact .refused outcome refusal

/-- A request that is not prepared fails for the reason for which it is not. -/
theorem unprepared_cause {cause : Failure} (setback : submission.Setback services studio failure)
    (unprepared : ((submission.prepare services).on studio.workspace).1 = .error cause) :
    failure = cause ∧ (((submission.check services).on studio.workspace).1 = .error cause ∨
      ∃ error, cause = .system error) := by
  cases setback with
  | unchecked failed =>
    obtain rfl := Except.error.inj ((prepare_unchecked failed).symm.trans unprepared)
    exact ⟨rfl, .inl failed⟩
  | unprepared failed =>
    obtain rfl := Except.error.inj (failed.symm.trans unprepared)
    exact ⟨rfl, .inr ⟨_, rfl⟩⟩
  | refused prepared _ => cases prepared.symm.trans unprepared

/-- A request that is prepared fails because its task is not accepted. -/
theorem prepared_cause {owned : List Path} (setback : submission.Setback services studio failure)
    (prepared : ((submission.prepare services).on studio.workspace).1 = .ok owned) :
    studio.desk.refusal = some failure := by
  cases setback with
  | unchecked failed => cases (prepare_unchecked failed).symm.trans prepared
  | unprepared failed => cases failed.symm.trans prepared
  | refused _ refusal => exact refusal

end Setback

/-- How far a request comes before its job is entered, and what is in the temporary directory then. -/
inductive Preparation (origin : Disk) (checked : Except Failure Unit) :
    Except Failure (List Path) → Workspace → Prop where
  | unchecked {failure : Failure} {last : Workspace} (failed : checked = .error failure)
      (alike : origin.Alike last.disk) : Preparation origin checked (.error failure) last
  | uncopied {failure : Failure} {last : Workspace} (passed : checked = .ok ())
      (valid : ¬failure.IsInvalid)
      (alike : ∀ error, failure = .system error → origin.Alike last.disk) :
      Preparation origin checked (.error failure) last
  | copied {owned : List Path} {last : Workspace} (passed : checked = .ok ())
      (gains : origin.Gains owned last.disk) : Preparation origin checked (.ok owned) last

theorem prepare_cases (submission : JobRequest α) {start : Workspace}
    (plain : start.disk.temporaryDirectory.Plain) (harmless : Prober.Harmless services.prober) :
    Preparation start.disk ((submission.check services).on start).1
      ((submission.prepare services).on start).1 ((submission.prepare services).on start).2 := by
  have kept := submission.check_keeps (harmless.keeps plain) start (.refl _)
  rw [prepare, Action.on_bind]
  generalize (submission.check services).on start = result at kept ⊢
  obtain ⟨failure | _, between⟩ := result
  · exact .unchecked rfl kept
  · have copied := submission.copies_gains plain between kept
    dsimp only
    generalize submission.copies.on between = result at copied ⊢
    obtain ⟨failure | owned, last⟩ := result
    · exact .uncopied rfl copied.1 copied.2
    · exact .copied rfl copied

/-- A submission that fails because a check fails, because the system refuses something, or because
the task is not accepted, tells its caller so and leaves nothing behind: the books are as they were,
and so is the temporary directory. No other failure is a failed check or a refusal of the system. -/
theorem setback_restores (plain : studio.workspace.disk.temporaryDirectory.Plain)
    (harmless : Prober.Harmless services.prober)
    (fresh : studio.desk.jobs.get?
      (nextId ((submission.prepare services).on studio.workspace).2) = none) :
    let answer := (submission.submit services).on studio
    ∀ failure,
      (submission.Setback services studio failure →
        answer.1 = .error failure ∧ answer.2.desk = studio.desk ∧
          studio.workspace.disk.Alike answer.2.workspace.disk) ∧
      (answer.1 = .error failure → (failure.IsInvalid ∨ ∃ error, failure = .system error) →
        submission.Setback services studio failure) := by
  intro answer failure
  have preparation := submission.prepare_cases plain harmless
  rcases prepared : (submission.prepare services).on studio.workspace with ⟨outcome, last⟩
  have reached : ((submission.prepare services).on studio.workspace).1 = outcome := by rw [prepared]
  rw [prepared] at preparation fresh
  dsimp only at preparation fresh
  cases preparation with
  | unchecked failed alike =>
    rw [show answer = _ from submit_unprepared prepared]
    refine ⟨fun setback => ?_, fun same _ => .unchecked (Except.error.inj same ▸ failed)⟩
    obtain ⟨rfl, _⟩ := setback.unprepared_cause reached
    exact ⟨rfl, rfl, alike⟩
  | uncopied passed valid alike =>
    rw [show answer = _ from submit_unprepared prepared]
    refine ⟨fun setback => ?_, fun same kind => ?_⟩
    · obtain ⟨rfl, failed | ⟨error, rfl⟩⟩ := setback.unprepared_cause reached
      · cases passed.symm.trans failed
      · exact ⟨rfl, rfl, alike error rfl⟩
    · obtain rfl := Except.error.inj same
      obtain invalid | ⟨error, rfl⟩ := kind
      · exact absurd invalid valid
      · exact .unprepared reached
  | copied passed gains =>
    obtain ⟨accepted, refused⟩ := submit_prepared prepared
    -- Nothing fails any more but by a refusal of the task, after which the copies are taken away.
    cases refusal : studio.desk.refusal with
    | none =>
      obtain ⟨job, last, done⟩ := accepted refusal
      rw [show answer = _ from done]
      refine ⟨fun setback => ?_, nofun⟩
      cases refusal.symm.trans (setback.prepared_cause reached)
    | some reason =>
      obtain ⟨entered, disk, done⟩ := refused _ fresh refusal
      rw [show answer = _ from done]
      refine ⟨fun setback => ?_, fun same _ => .refused reached (Except.error.inj same ▸ refusal)⟩
      obtain rfl := Option.some.inj (refusal.symm.trans (setback.prepared_cause reached))
      exact ⟨rfl, rfl, Disk.Gains.discardAll plain (disk.symm ▸ gains)⟩

end JobRequest

omit [Quantity α] in
/-- The stand-in for the tool only looks at what it probes. -/
theorem Rehearsal.runner_quiet {installation : Installation} {script : List Rehearsal.Cue} :
    Toolbox.ProbesQuietly ⟨installation, Rehearsal.runner script⟩ := by
  intro past call disk probe
  dsimp only [Rehearsal.runner]
  split
  · exact .refl disk
  · exact .refl disk
  · rw [Rehearsal.improvise, probe]
    exact .refl disk

/-- Those that ask a stand-in for the tool how long a video lasts. -/
def Services.rehearsed : Services Number where
  clock := Services.sketch.clock
  renderStill := Services.sketch.renderStill
  renderPlan := Services.sketch.renderPlan
  prober upload := do
    return Quantity.ofDouble
      (← probeUpload ⟨⟨none, "tool"⟩, Rehearsal.runner []⟩ probeTimeout upload)
  publisher := Services.sketch.publisher

/-- A studio that accepts no tasks any more. -/
def Studio.closed : Studio Number :=
  { Studio.idle with desk := { Studio.idle.desk with refusal := some (.tool .noNewTasks) } }

/-- A timeline whose clip has to be probed. -/
def probedComposition : CompositionRequest Number where
  assets := [("cover", some (.ofBytes [1] (some "image/png") none)),
    ("clip", some (.ofBytes (Text.encodeUtf8 "Duration: 00:00:09") (some "video/mp4") none))]
  audio := some (.ofBytes [2] (some "audio/wav") none)
  timeline := .raw coverAndClip
  title := "Cover"
  description := ""
  options := .default
  thumbnail := none

/-- A timeline is probed, copied and entered before its task is not accepted. -/
theorem probedComposition_restored :
    let submission := JobRequest.composition probedComposition
    let answer := (submission.submit Services.rehearsed).on Studio.closed
    answer.1 = .error (.tool .noNewTasks) ∧ answer.2.desk = Studio.closed.desk ∧
      Studio.closed.workspace.disk.Alike answer.2.workspace.disk := by
  intro submission answer
  have plain : Studio.closed.workspace.disk.temporaryDirectory.Plain := by decide
  have prepared :
      ((submission.prepare Services.rehearsed).on Studio.closed.workspace).1.isOk = true := by
    decide +kernel
  have setback : submission.Setback Services.rehearsed Studio.closed (.tool .noNewTasks) :=
    .of_prepared prepared rfl
  have fresh : Studio.closed.desk.jobs.get? (nextId
      ((submission.prepare Services.rehearsed).on Studio.closed.workspace).2) = none :=
    Named.get?_nil _
  have harmless : Prober.Harmless Services.rehearsed.prober := .tool Rehearsal.runner_quiet
  exact (JobRequest.setback_restores plain harmless fresh _).1 setback

end Montage
