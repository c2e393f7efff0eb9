import Montage.Proofs.Job.Intake
import Montage.Proofs.Job.Operation

/-! What a worker does with files: it makes one for its output, and in the end takes that one and
the inputs of its task away. -/

namespace Montage

variable {α : Type} {directory : Place} {names others : Set String} {files : List Path}

/-- A temporary file under one of these names. -/
structure Path.Among (directory : Place) (names : Set String) (file : Path) : Prop where
  temporary : file.Temporary directory
  member : file.name ∈ names

/-- Those that jobs rely on keep a workspace as it has to be, given files that can be used. -/
structure Services.Keep (services : Services α) (kept : Workspace → Prop) (usable : Path → Prop) :
    Prop where
  renderStill : ∀ image audio duration output, (∀ file ∈ [image, audio, output], usable file) →
    (services.renderStill image audio duration output).Keeps kept
  renderPlan : ∀ plan output,
    (∀ file ∈ plan.audio :: output :: plan.assetPaths.map Prod.snd, usable file) →
      (services.renderPlan plan output).Keeps kept
  prober : ∀ upload, (services.prober upload).Keeps kept
  upload : ∀ video title description options, usable video →
    (services.publisher.upload video title description options).Keeps kept
  illustrate : ∀ id image contentType, usable image →
    (services.publisher.illustrate id image contentType).Keeps kept
  address : ∀ id, (services.publisher.address id).Keeps kept

/-- Those that jobs rely on leave no temporary entry of their own behind and take none away, given
temporary files to work with. -/
def Services.Tidy (services : Services α) (directory : Place) : Prop :=
  ∀ names, services.Keep (Workspace.Holds directory names) (Path.Among directory names)

variable [Quantity α] {services : Services α} {task : Task α}

theorem Manifest.plan_files {manifest : Manifest α} {assets : Named Path} {audio : Path}
    {plan : RenderPlan α} (planned : manifest.plan assets audio = .ok plan) :
    plan.audio = audio ∧ plan.assetPaths = assets := by
  rw [Manifest.plan] at planned
  split at planned
  · cases planned
  · simp only [Except.bind_eq_ok, Except.pure_eq_ok] at planned
    obtain ⟨_, _, rfl⟩ := planned
    exact ⟨rfl, rfl⟩

section Keeping

variable {kept : Workspace → Prop} {usable : Path → Prop} (keep : services.Keep kept usable)

include keep

/-- Rendering a task. -/
theorem Work.render_keeps {work : Work α} {audio output : Path}
    (there : ∀ file ∈ audio :: output :: work.inputs, usable file) :
    (work.render services audio output).Keeps kept := by
  cases work with
  | still image duration =>
    refine keep.renderStill image audio duration output fun file member => there file ?_
    simpa [inputs, or_comm, or_assoc, or_left_comm] using member
  | composition manifest assets =>
    refine Action.keeps_lift_bind fun plan planned => ?_
    obtain ⟨rfl, rfl⟩ := Manifest.plan_files planned
    exact keep.renderPlan plan output there

omit [Quantity α] in
theorem Task.publish_keeps {video : Path} (rendered : usable video)
    (there : ∀ file ∈ task.inputs, usable file) : (task.publish services video).Keeps kept := by
  refine (keep.upload video _ _ _ rendered).bind fun artifact => ?_
  -- The warning differs, what is done with it does not.
  have addressed (warning : Option String) :
      (do return (⟨artifact.id, ← services.publisher.address artifact.id, warning⟩ : Publication) :
        Action Publication).Keeps kept :=
    (keep.address _).bind fun _ => Action.keeps_pure _
  cases present : task.thumbnail with
  | none => exact addressed artifact.warning
  | some thumbnail =>
    have image : usable thumbnail.image := there _ (by simp [Task.inputs, present])
    refine (keep.illustrate _ _ thumbnail.contentType image).attempt.bind fun outcome => ?_
    cases outcome with
    | ok _ => exact addressed artifact.warning
    | error _ => exact addressed (combineWarnings artifact.warning (some thumbnailWarning))

/-- Rendering and publishing a task. -/
theorem Task.steps_keep {output : Path} (rendered : usable output)
    (there : ∀ file ∈ task.inputs, usable file) :
    (do task.work.render services task.audio output
        task.publish services output : Action Publication).Keeps kept := by
  refine (Work.render_keeps keep fun file member => ?_).bind fun _ =>
    Task.publish_keeps keep rendered there
  rcases List.mem_cons.mp member with rfl | member
  · exact there _ (by simp [Task.inputs])
  · rcases List.mem_cons.mp member with rfl | member
    · exact rendered
    · exact there _ (by simp [Task.inputs, member])

end Keeping

omit [Quantity α] in
theorem Work.outputPurpose_plain (work : Work α) : '/' ∉ work.outputPurpose.toList := by
  cases work with
  | still _ _ => simp [outputPurpose]
  | composition _ _ => simp [outputPurpose]

/-- Carrying a task out leaves one more temporary file, the one that was rendered to. -/
theorem Task.carryOut_ensures (tidy : services.Tidy directory)
    (there : ∀ file ∈ task.inputs, file.Among directory names) :
    (task.carryOut services).Ensures (Workspace.Holds directory names) fun result last =>
      ∃ output outcome, result = .ok (output, outcome) ∧ Owned directory names output.toList ∧
        last.Holds directory (names ∪ Path.namesOf output.toList) := by
  have plain := task.work.outputPurpose_plain
  refine (makeFresh_ensures (.file []) plain (by decide)).attempt fun outcome => ?_
  cases outcome with
  | error failure =>
    rintro start ⟨holds, _⟩
    exact ⟨none, .error failure, rfl, .nil, by simpa using holds⟩
  | ok output =>
    rintro start ⟨temporary, fresh, holds⟩
    have rendered : output.Among directory (insert output.name names) :=
      ⟨temporary, Set.mem_insert ..⟩
    have still (file : Path) (member : file ∈ task.inputs) :
        file.Among directory (insert output.name names) :=
      ⟨(there file member).temporary, Set.mem_insert_of_mem _ (there file member).member⟩
    have left := Task.steps_keep (tidy _) rendered still start holds
    refine ⟨some output, _, rfl, .singleton temporary fresh, ?_⟩
    rwa [Option.toList_some, Path.namesOf_cons, Path.namesOf_nil, Set.union_insert, Set.union_empty]

namespace Desk

variable {desk : Desk α} {job : JobId}

omit [Quantity α]

@[simp] theorem update_queue {change : JobStatus → JobStatus} :
    (desk.update job change).queue = desk.queue := by
  unfold update
  split <;> rfl

/-- Letting callers wait does not concern jobs and queue. -/
@[simp] theorem track_frame :
    (desk.track job).queue = desk.queue ∧ (desk.track job).jobs = desk.jobs := by
  unfold track
  split <;> exact ⟨rfl, rfl⟩

@[simp] theorem watch_frame :
    (desk.watch job).queue = desk.queue ∧ (desk.watch job).jobs = desk.jobs := by
  unfold watch
  split <;> exact ⟨rfl, rfl⟩

@[simp] theorem finish_frame :
    (desk.finish job).queue = desk.queue ∧ (desk.finish job).jobs = desk.jobs := by
  dsimp only [finish]
  split <;> exact ⟨rfl, rfl⟩

end Desk

namespace Operation

section Updates

variable {studio : Studio α} {clock : Nat → Instant} {job : JobId} {change : JobStatus → JobStatus}

omit [Quantity α]

/-- Changing a status does not fail, and touches neither files nor the queue. -/
theorem update_frame :
    let last := ((update clock job change).on studio).2
    (update clock job change).on studio = (.ok (), last) ∧
      last.workspace.disk = studio.workspace.disk ∧ last.desk.queue = studio.desk.queue := by
  cases present : studio.desk.open? job with
  | none =>
    rw [on_update_closed present]
    exact ⟨rfl, rfl, rfl⟩
  | some status =>
    rw [on_update_open present]
    exact ⟨rfl, rfl, Desk.update_queue⟩

end Updates

theorem carryOut_ok (task : Task α) (start : Workspace) :
    ∃ output outcome last, (task.carryOut services).on start = (.ok (output, outcome), last) := by
  rw [Task.carryOut, Action.on_bind, Action.on_attempt]
  cases ((makeFresh task.work.outputPurpose ".mp4" (.file [])).on start).1 with
  | error failure => exact ⟨_, _, _, rfl⟩
  | ok output => exact ⟨_, _, _, rfl⟩

/-- A worker changes the status of its job twice, carries its task out in between, and takes files
away in the end. -/
theorem perform_on (task : Task α) (studio : Studio α) :
    let started := ((update services.clock task.job (·.begin task.work)).on studio).2
    ∃ output outcome workspace,
      (task.carryOut services).on started.workspace = (.ok (output, outcome), workspace) ∧
      let settled := ((update services.clock task.job (·.settle outcome)).on
        { started with workspace }).2
      (perform services task).on studio = (.ok (), ⟨settled.desk.finish task.job,
        Montage.discardAll (task.inputs ++ output.toList) settled.workspace⟩) := by
  intro started
  obtain ⟨output, outcome, workspace, carried⟩ :=
    @carryOut_ok _ _ services task started.workspace
  refine ⟨output, outcome, workspace, carried, ?_⟩
  intro settled
  have start : (Operation.start services task).on studio = (.ok (), started) := update_frame.1
  have settle : (update services.clock task.job (·.settle outcome)).on
      { started with workspace } = (.ok (), settled) := update_frame.1
  simp only [perform, Operation.settle, on_bind, start, on_act, carried, settle, on_discard, on_book]

variable {studio : Studio α}

/-- A worker does not fail and leaves the queue alone. -/
theorem perform_frame :
    let last := ((perform services task).on studio).2
    (perform services task).on studio = (.ok (), last) ∧ last.desk.queue = studio.desk.queue := by
  obtain ⟨output, outcome, workspace, _, done⟩ := @perform_on _ _ services task studio
  rw [done]
  exact ⟨rfl, Desk.finish_frame.1.trans (update_frame.2.2.trans update_frame.2.2)⟩

/-- A worker takes the inputs of its task and its output away, whatever happens, and no other
temporary file. -/
theorem perform_holds (tidy : services.Tidy directory) (owned : Owned directory others task.inputs)
    (holds : studio.workspace.Holds directory (others ∪ Path.namesOf task.inputs)) :
    ((perform services task).on studio).2.workspace.Holds directory others := by
  obtain ⟨output, outcome, workspace, carried, done⟩ := @perform_on _ _ services task studio
  have there (file : Path) (member : file ∈ task.inputs) :
      file.Among directory (others ∪ Path.namesOf task.inputs) :=
    ⟨owned.temporary file member, .inr (Path.mem_namesOf member)⟩
  let started := ((update services.clock task.job (·.begin task.work)).on studio).2
  have begun : started.workspace.Holds directory (others ∪ Path.namesOf task.inputs) := by
    rwa [Workspace.Holds, update_frame.2.1]
  obtain ⟨made, _, same, fresh, left⟩ := task.carryOut_ensures tidy there started.workspace begun
  rw [carried] at same left
  obtain rfl : output = made := congrArg Prod.fst (Except.ok.inj same)
  rw [done]
  refine Owned.discardAll (Owned.append_iff.mpr ⟨owned, fresh⟩) ?_
  rw [Path.namesOf_append, ← Set.union_assoc, update_frame.2.1]
  exact left

/-- A task that is handed over at once is carried out. -/
theorem handOver_atOnce (services : Services α) (task : Task α) (studio : Studio α) :
    let performed := ((perform services task).on
      { studio with desk := studio.desk.accept task.job }).2
    let last : Studio α := ⟨(performed.desk.track task.job).watch task.job, performed.workspace⟩
    (handOver services task .atOnce).on studio = (.ok (), last) ∧
      last.desk.queue = studio.desk.queue := by
  intro performed last
  have perform : (perform services task).on { studio with desk := studio.desk.accept task.job } =
      (.ok (), performed) := perform_frame.1
  refine ⟨?_, Desk.watch_frame.1.trans (Desk.track_frame.1.trans perform_frame.2)⟩
  simp only [handOver, on_bind, on_book, perform, last]

end Operation

end Montage
