import Mathlib.Data.List.Perm.Basic
import Mathlib.Logic.Relation
import Montage.Proofs.Job.Run
import Montage.Proofs.Job.Worker

/-! Submissions and workers are made of steps, so that a studio in which they follow each other goes
through a run. -/

namespace Montage

variable {α β γ : Type}

/-- Steps lead from a floor to another one. -/
def Floor.Reaches (clock : Nat → Instant) : Floor α → Floor α → Prop :=
  Relation.ReflTransGen fun floor next => ∃ label, Step clock floor label next

/-- What is reached by steps is reached by a run. -/
theorem Floor.Reaches.run {clock : Nat → Instant} {floor last : Floor α}
    (reaches : floor.Reaches clock last) :
    ∃ trail, Run clock floor trail ∧ (floor :: trail.map Prod.snd).getLast? = some last := by
  induction reaches using Relation.ReflTransGen.head_induction_on with
  | refl => exact ⟨[], .done, rfl⟩
  | head first _ ih =>
    obtain ⟨label, step⟩ := first
    obtain ⟨trail, run, ends⟩ := ih
    exact ⟨_ :: trail, .step step run, by simpa using ends⟩

/-- Making copies does not change what is kept. -/
def Staging.Keeps (kept : Workspace → Prop) (staging : Staging β) : Prop :=
  ∀ workspace staged, kept workspace → kept (staging (workspace, staged)).2.1

section Copies

variable {kept : Workspace → Prop}

/-- Files and their names do not count. -/
def Indifferent (kept : Workspace → Prop) : Prop :=
  ∀ workspace disk names, kept workspace → kept { workspace with disk, names }

variable (indifferent : Indifferent kept)

include indifferent

theorem change_keeps {write : Disk → Except SystemError Disk} :
    (Action.change write).Keeps kept :=
  Action.change_ensures (fun start disk right _ => indifferent start disk start.names right)
    fun _ _ right => right

theorem discardAll_keeps (files : List Path) {workspace : Workspace} (right : kept workspace) :
    kept (discardAll files workspace) := by
  induction files generalizing workspace with
  | nil => exact right
  | cons file rest ih => exact ih (indifferent workspace _ workspace.names right)

theorem makeFresh_keeps {purpose suffix : String} {entry : Entry} :
    (makeFresh purpose suffix entry).Keeps kept := by
  refine Action.Keeps.bind (fun start right => indifferent start start.disk _ right) fun text => ?_
  refine Action.Keeps.bind (fun start right => (checkPath_ensures start right).1) fun _ => ?_
  exact (change_keeps indifferent).bind fun _ => Action.keeps_pure _

theorem stage_keeps {upload : Upload} {purpose suffix : String} :
    (stage upload purpose suffix).Keeps kept := by
  refine (makeFresh_keeps indifferent).bind fun path => ?_
  have copy : (upload.copyTo path).Keeps kept :=
    (Action.keeps_look _).bind fun _ => change_keeps indifferent
  refine copy.attempt.bind fun outcome => ?_
  cases outcome with
  | ok _ => exact Action.keeps_pure path
  | error failure =>
    exact Action.Keeps.bind (fun start right => indifferent start _ start.names right)
      fun _ => Action.keeps_throw failure

omit indifferent in
theorem Staging.Keeps.bind {staging : Staging β} {next : β → Staging γ}
    (first : staging.Keeps kept) (rest : ∀ found, (next found).Keeps kept) :
    (staging >>= next).Keeps kept := by
  intro workspace staged right
  have middle := first workspace staged right
  rcases outcome : staging (workspace, staged) with ⟨failure | found, between, copied⟩
  · rw [bind_error outcome]
    rwa [outcome] at middle
  · rw [bind_ok outcome]
    rw [outcome] at middle
    exact rest found between copied middle

theorem copy_keeps {upload : Option Upload} {purpose : String} {suffix : Upload → String} :
    (Staging.copy upload purpose suffix).Keeps kept := by
  intro workspace staged right
  cases upload with
  | none => exact right
  | some upload =>
    have after := @stage_keeps kept indifferent upload purpose (suffix upload) workspace right
    rw [Action.on] at after
    rw [Staging.copy]
    generalize stage upload purpose (suffix upload) workspace = result at after ⊢
    obtain ⟨failure | path, last⟩ := result <;> exact after

theorem copyThumbnail_keeps {upload : Option Upload} :
    (Staging.copyThumbnail upload).Keeps kept := by
  cases upload with
  | none => exact fun _ _ right => right
  | some upload => exact (copy_keeps indifferent).bind fun _ => fun _ _ right => right

theorem copyAssets_keeps {assets : Named (Option Upload)} :
    (Staging.copyAssets assets).Keeps kept := by
  induction assets with
  | nil => exact fun _ _ right => right
  | cons asset rest ih =>
    exact (copy_keeps indifferent).bind fun _ => ih.bind fun _ _ _ right => right

theorem collect_keeps {staging : Staging β} (keeps : staging.Keeps kept) :
    staging.collect.Keeps kept := by
  intro start right
  have middle := keeps start [] right
  rw [Action.on, Staging.collect]
  generalize staging (start, []) = result at middle ⊢
  obtain ⟨failure | copies, last, owned⟩ := result
  · cases failure with
    | system error => exact discardAll_keeps indifferent owned middle
    | _ => exact middle
  · exact middle

theorem StillRequest.copies_keep {request : StillRequest} : request.copies.Keeps kept :=
  (copy_keeps indifferent).bind fun _ => (copy_keeps indifferent).bind fun _ =>
    (copyThumbnail_keeps indifferent).bind fun _ _ _ right => right

theorem CompositionRequest.copies_keep {request : CompositionRequest α} :
    request.copies.Keeps kept :=
  (copy_keeps indifferent).bind fun _ => (copyAssets_keeps indifferent).bind fun _ =>
    (copyThumbnail_keeps indifferent).bind fun _ _ _ right => right

end Copies

namespace Floor

variable {clock : Nat → Instant} {floor : Floor α} {job : JobId}

theorem Reaches.outside {workspace : Workspace}
    (onward : floor.studio.workspace.readings ≤ workspace.readings) :
    floor.Reaches clock { floor with studio := { floor.studio with workspace } } :=
  .single ⟨none, .outside onward⟩

theorem Reaches.papers {desk : Desk α} (same : desk.jobs = floor.studio.desk.jobs) :
    floor.Reaches clock { floor with studio := { floor.studio with desk } } :=
  .single ⟨none, .papers same⟩

/-- What was handled of a job last is how far its handling has come. -/
@[simp] theorem goTo_goTo {early late : Studio α} {before after : Phase} :
    (floor.goTo early job before).goTo late job after = floor.goTo late job after := by
  simp [goTo, Function.update_idem]

/-- Every waiting task is the task of a job of its own, which was handed over. -/
structure Staffed (floor : Floor α) : Prop where
  handed : ∀ task ∈ floor.studio.desk.queue, floor.phase task.job = .handed
  distinct : (floor.studio.desk.queue.map Task.job).Nodup

/-- Steps lead to a studio in which a task waits, or is over. -/
def Dispatches (clock : Nat → Instant) (floor : Floor α) (task : Task α) (last : Studio α) :
    Prop :=
  ∃ phase, floor.Reaches clock (floor.goTo last task.job phase) ∧
    (phase = .handed ∧ last.desk.queue = floor.studio.desk.queue ++ [task] ∨
      phase = .ended ∧ last.desk.queue = floor.studio.desk.queue)

theorem Staffed.entered {studio : Studio α} (staffed : floor.Staffed)
    (fresh : floor.phase job = .unknown) (queue : studio.desk.queue = floor.studio.desk.queue) :
    (floor.goTo studio job .entered).Staffed := by
  refine ⟨?_, ?_⟩
  · rw [show (floor.goTo studio job .entered).studio.desk.queue = _ from queue]
    intro other waits
    have apart : other.job ≠ job := fun same => by
      have handed := staffed.handed other waits
      rw [same, fresh] at handed
      cases handed
    exact (Function.update_of_ne apart ..).trans (staffed.handed other waits)
  · rw [show (floor.goTo studio job .entered).studio.desk.queue = _ from queue]
    exact staffed.distinct

theorem Staffed.dispatched {task : Task α} {last : Studio α} {phase : Phase}
    (staffed : floor.Staffed) (entered : floor.phase task.job = .entered)
    (queued : phase = .handed ∧ last.desk.queue = floor.studio.desk.queue ++ [task] ∨
      phase = .ended ∧ last.desk.queue = floor.studio.desk.queue) :
    (floor.goTo last task.job phase).Staffed := by
  have apart (other : Task α) (waits : other ∈ floor.studio.desk.queue) :
      other.job ≠ task.job := fun same => by
    have handed := staffed.handed other waits
    rw [same, entered] at handed
    cases handed
  rcases queued with ⟨rfl, queue⟩ | ⟨rfl, queue⟩
  · refine ⟨?_, ?_⟩
    · rw [show (floor.goTo last task.job .handed).studio.desk.queue = _ from queue]
      intro other waits
      rcases List.mem_append.mp waits with before | new
      · exact (Function.update_of_ne (apart other before) ..).trans (staffed.handed other before)
      · rw [List.mem_singleton.mp new]
        exact goTo_phase
    · rw [show (floor.goTo last task.job .handed).studio.desk.queue = _ from queue, List.map_append,
        List.nodup_append]
      refine ⟨staffed.distinct, by simp, ?_⟩
      rintro _ before _ new rfl
      obtain ⟨other, waits, same⟩ := List.mem_map.mp before
      exact apart other waits (same.trans (List.mem_singleton.mp new))
  · refine ⟨?_, ?_⟩
    · rw [show (floor.goTo last task.job .ended).studio.desk.queue = _ from queue]
      exact fun other waits =>
        (Function.update_of_ne (apart other waits) ..).trans (staffed.handed other waits)
    · rw [show (floor.goTo last task.job .ended).studio.desk.queue = _ from queue]
      exact staffed.distinct

end Floor

/-- The id of the next job. -/
def nextId (workspace : Workspace) : JobId := jobIdOf (idDigits (workspace.ids + 1))

section Operations

variable [Quantity α] {services : Services α} {floor : Floor α} {task : Task α}

/-- Those that jobs rely on do not turn the clock back. -/
def Services.Onward (services : Services α) : Prop :=
  ∀ reading, services.Keep (fun workspace => reading ≤ workspace.readings) fun _ => True

theorem Task.carryOut_keeps {kept : Workspace → Prop} (task : Task α) (indifferent : Indifferent kept)
    (keep : services.Keep kept fun _ => True) : (task.carryOut services).Keeps kept := by
  refine (makeFresh_keeps indifferent).attempt.bind fun outcome => ?_
  cases outcome with
  | error failure => exact Action.keeps_pure _
  | ok output =>
    exact (Task.steps_keep keep trivial fun _ _ => trivial).attempt.bind fun _ =>
      Action.keeps_pure _

theorem onward_indifferent (reading : Nat) :
    Indifferent fun workspace => reading ≤ workspace.readings :=
  fun _ _ _ onward => onward

namespace Operation

/-- A worker starts its task and settles it, and nothing else of it can be seen. -/
theorem perform_reaches (onward : services.Onward) (handed : floor.phase task.job = .handed) :
    floor.Reaches services.clock
      (floor.goTo ((perform services task).on floor.studio).2 task.job .ended) := by
  obtain ⟨output, outcome, workspace, carried, done⟩ :=
    @perform_on _ _ services task floor.studio
  let started := ((update services.clock task.job (·.begin task.work)).on floor.studio).2
  have reading : started.workspace.readings ≤ workspace.readings := by
    have later := task.carryOut_keeps (onward_indifferent _) (onward _)
      started.workspace (le_refl started.workspace.readings)
    rwa [carried] at later
  have start : floor.Reaches services.clock (floor.goTo started task.job .started) :=
    .single ⟨_, .start task.work handed⟩
  have work := start.trans (Floor.Reaches.outside reading)
  have settle := work.trans (.single ⟨_, .settle outcome Floor.goTo_phase⟩)
  have discard := settle.trans (Floor.Reaches.outside
    (discardAll_keeps (onward_indifferent _) (task.inputs ++ output.toList) (le_refl _)))
  have finish := discard.trans (Floor.Reaches.papers (@Desk.finish_frame _ _ task.job).2)
  rw [done, ← @Floor.goTo_goTo _ floor task.job started _ .started .ended]
  exact finish

/-- A job whose task is handed over waits for its worker, or is over already. -/
theorem handOver_reaches (onward : services.Onward) (schedule : Schedule)
    (entered : floor.phase task.job = .entered) :
    floor.Dispatches services.clock task ((handOver services task schedule).on floor.studio).2 := by
  have hand : floor.Reaches services.clock (floor.goTo floor.studio task.job .handed) :=
    .single ⟨_, .hand entered⟩
  cases schedule with
  | later =>
    refine ⟨.handed, hand.trans (Floor.Reaches.papers ?_), .inl ⟨rfl, ?_⟩⟩
    · exact Desk.watch_frame.2.trans Desk.track_frame.2
    · exact Desk.watch_frame.1.trans Desk.track_frame.1
  | atOnce =>
    obtain ⟨done, queue⟩ := handOver_atOnce services task floor.studio
    refine ⟨.ended, ?_, .inr ⟨rfl, done ▸ queue⟩⟩
    have accept := hand.trans (Floor.Reaches.papers
      (show (floor.studio.desk.accept task.job).jobs = floor.studio.desk.jobs from rfl))
    have work := accept.trans (perform_reaches onward Floor.goTo_phase)
    have wait := work.trans (Floor.Reaches.papers
      ((@Desk.watch_frame _ _ task.job).2.trans (@Desk.track_frame _ _ task.job).2))
    rw [done, ← @Floor.goTo_goTo _ floor task.job floor.studio _ .handed .ended]
    exact wait

theorem dispatch_reaches (onward : services.Onward) (files : List Path)
    (entered : floor.phase task.job = .entered) :
    floor.Dispatches services.clock task ((dispatch services task files).on floor.studio).2 := by
  rw [dispatch, on_bind, on_desk]
  dsimp only
  cases floor.studio.desk.refusal with
  | none => exact handOver_reaches onward _ entered
  | some failure =>
    have withdraw : floor.Reaches services.clock
        (floor.goTo { floor.studio with desk := floor.studio.desk.withdraw task.job } task.job .ended) :=
      .single ⟨_, .refuse entered⟩
    refine ⟨.ended, withdraw.trans (Floor.Reaches.outside ?_), .inr ⟨rfl, rfl⟩⟩
    exact discardAll_keeps (onward_indifferent _) files (le_refl _)

/-- A submission copies its inputs, and enters a job and dispatches its task if that goes well. -/
theorem enter_reaches {options : PublishOptions} {staging : Staging β}
    {makeTask : JobId → β → Task α} (onward : services.Onward)
    (keeps : ∀ kept, Indifferent kept → staging.Keeps kept)
    (named : ∀ job copies, (makeTask job copies).job = job) (staffed : floor.Staffed)
    (fresh : floor.phase (nextId (staging.collect.on floor.studio.workspace).2) = .unknown) :
    ∃ last, floor.Reaches services.clock last ∧ last.Staffed ∧
      last.studio = ((enter services options staging makeTask).on floor.studio).2 := by
  have reading := collect_keeps (onward_indifferent _) (keeps _ (onward_indifferent _))
    floor.studio.workspace (le_refl floor.studio.workspace.readings)
  rw [enter, on_bind, on_act]
  generalize staging.collect.on floor.studio.workspace = result at reading fresh ⊢
  obtain ⟨failure | ⟨copies, owned⟩, workspace⟩ := result
  · exact ⟨_, .outside reading, ⟨staffed.handed, staffed.distinct⟩, rfl⟩
  · let copied : Floor α := { floor with studio := { floor.studio with workspace } }
    let entered := ((register services.clock options).on copied.studio).2
    let floor' := copied.goTo entered (nextId workspace) .entered
    have start : floor.Reaches services.clock floor' :=
      (Floor.Reaches.outside reading).tail ⟨_, .enter fresh rfl⟩
    have staffed' : floor'.Staffed :=
      @Floor.Staffed.entered _ copied _ _ ⟨staffed.handed, staffed.distinct⟩ fresh rfl
    have there : floor'.phase (makeTask (nextId workspace) copies).job = .entered := by
      rw [named]
      exact Floor.goTo_phase
    obtain ⟨phase, dispatch, queued⟩ := dispatch_reaches onward owned there
    refine ⟨_, start.trans dispatch, staffed'.dispatched there queued, ?_⟩
    dsimp only
    rw [on_bind, show (register services.clock options).on { floor.studio with workspace } =
      (.ok (nextId workspace), entered) from rfl]
    dsimp only
    rw [bind_return]
    rfl

theorem submitStill_reaches {request : StillRequest} (onward : services.Onward)
    (staffed : floor.Staffed)
    (fresh : floor.phase (nextId (request.copies.collect.on floor.studio.workspace).2) =
      .unknown) :
    ∃ last, floor.Reaches services.clock last ∧ last.Staffed ∧
      last.studio = ((submitStill services request).on floor.studio).2 := by
  rw [submitStill, on_bind, on_act, Action.on_lift]
  cases checkDuration request.duration with
  | error failure => exact ⟨floor, .refl, staffed, rfl⟩
  | ok duration =>
    exact enter_reaches onward (fun _ indifferent => StillRequest.copies_keep indifferent)
      (fun _ _ => rfl) staffed fresh

theorem submitComposition_reaches {request : CompositionRequest α} (onward : services.Onward)
    (staffed : floor.Staffed)
    (fresh : floor.phase (nextId (request.copies.collect.on
      ((request.manifest services.prober).on floor.studio.workspace).2).2) = .unknown) :
    ∃ last, floor.Reaches services.clock last ∧ last.Staffed ∧
      last.studio = ((submitComposition services request).on floor.studio).2 := by
  have reading := request.manifest_keeps (onward _).prober floor.studio.workspace
    (le_refl floor.studio.workspace.readings)
  rw [submitComposition, on_bind, on_act]
  generalize (request.manifest services.prober).on floor.studio.workspace = result
    at reading fresh ⊢
  obtain ⟨failure | manifest, workspace⟩ := result
  · exact ⟨_, .outside reading, ⟨staffed.handed, staffed.distinct⟩, rfl⟩
  · let checked : Floor α := { floor with studio := { floor.studio with workspace } }
    obtain ⟨last, entered, staffed', done⟩ := @enter_reaches _ _ _ services checked
      request.options request.copies (compositionTask request manifest) onward
      (fun _ indifferent => CompositionRequest.copies_keep indifferent) (fun _ _ => rfl)
      ⟨staffed.handed, staffed.distinct⟩ fresh
    exact ⟨last, (Floor.Reaches.outside reading).trans entered, staffed', done⟩

/-- A worker that takes a waiting task carries it out in steps. -/
theorem performAt_reaches (onward : services.Onward) (staffed : floor.Staffed) (index : Nat) :
    ∃ last, floor.Reaches services.clock last ∧ last.Staffed ∧
      last.studio = ((performAt services index).on floor.studio).2 := by
  rw [performAt, on_bind, on_desk]
  dsimp only
  cases waiting : floor.studio.desk.queue[index]? with
  | none => exact ⟨floor, .refl, staffed, rfl⟩
  | some task =>
    rw [on_bind, on_book]
    let queue := floor.studio.desk.queue.eraseIdx index
    let taken : Floor α :=
      { floor with studio := { floor.studio with desk := { floor.studio.desk with queue } } }
    have handed : taken.phase task.job = .handed :=
      staffed.handed task (List.mem_of_getElem? waiting)
    have take : floor.Reaches services.clock taken := .papers rfl
    have distinct : (task.job :: queue.map Task.job).Nodup := by
      obtain ⟨present, rfl⟩ := List.getElem?_eq_some_iff.mp waiting
      exact ((List.getElem_cons_eraseIdx_perm present).map Task.job).nodup_iff.mpr staffed.distinct
    obtain ⟨apart, rest⟩ := List.nodup_cons.mp distinct
    have same : ((perform services task).on taken.studio).2.desk.queue = queue := perform_frame.2
    refine ⟨_, take.trans (perform_reaches onward handed), ⟨?_, ?_⟩, rfl⟩
    · intro other waits
      have waits : other ∈ queue := same ▸ waits
      have differ : other.job ≠ task.job := fun equal =>
        apart (equal ▸ List.mem_map_of_mem waits)
      exact (Function.update_of_ne differ ..).trans
        (staffed.handed other (List.mem_of_mem_eraseIdx waits))
    · rw [show (taken.goTo _ task.job .ended).studio.desk.queue = queue from same]
      exact rest

end Operation

end Operations

end Montage
