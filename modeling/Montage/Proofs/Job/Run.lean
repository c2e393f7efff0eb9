import Mathlib.Logic.Function.Basic
import Montage.Proofs.Job.Operation

/-! Runs of a studio in small steps. Submissions and workers of all jobs take turns in any order; a
step is an access to the books, or anything that happens between two of them. -/

namespace Montage

variable {α : Type}

/-- How far the handling of a job has come, by the caller that submits it and then by its worker. -/
inductive Phase where
  | unknown
  | entered
  | handed
  | started
  | ended
  deriving DecidableEq

/-- A studio with the jobs that are being handled in it. -/
structure Floor (α : Type) where
  studio : Studio α
  phase : JobId → Phase

namespace Floor

/-- The status of a job that a caller sees. -/
def record (floor : Floor α) (job : JobId) : Option JobStatus :=
  floor.studio.desk.jobs.get? job

/-- The floor after a job was handled in the studio. -/
def goTo (floor : Floor α) (studio : Studio α) (job : JobId) (phase : Phase) : Floor α :=
  ⟨studio, Function.update floor.phase job phase⟩

end Floor

/-- A step, of a job or of none. A job that is entered has a fresh id; its worker starts once, after
the job was handed over, and settles once, after it has started. -/
inductive Step (clock : Nat → Instant) : Floor α → Option JobId → Floor α → Prop where
  /-- Files are copied, rendered, published or taken away, time passes. -/
  | outside {floor : Floor α} {workspace : Workspace}
      (onward : floor.studio.workspace.readings ≤ workspace.readings) :
      Step clock floor none { floor with studio := { floor.studio with workspace } }
  /-- Queue and tickets change. -/
  | papers {floor : Floor α} {desk : Desk α} (same : desk.jobs = floor.studio.desk.jobs) :
      Step clock floor none { floor with studio := { floor.studio with desk } }
  | enter {floor : Floor α} {options : PublishOptions} {job : JobId} {studio : Studio α}
      (fresh : floor.phase job = .unknown)
      (entered : (Operation.register clock options).on floor.studio = (.ok job, studio)) :
      Step clock floor (some job) (floor.goTo studio job .entered)
  | refuse {floor : Floor α} {job : JobId} (entered : floor.phase job = .entered) :
      Step clock floor (some job)
        (floor.goTo { floor.studio with desk := floor.studio.desk.withdraw job } job .ended)
  | hand {floor : Floor α} {job : JobId} (entered : floor.phase job = .entered) :
      Step clock floor (some job) (floor.goTo floor.studio job .handed)
  | start {floor : Floor α} {job : JobId} (work : Work α) (handed : floor.phase job = .handed) :
      Step clock floor (some job)
        (floor.goTo ((Operation.update clock job (·.begin work)).on floor.studio).2 job .started)
  | settle {floor : Floor α} {job : JobId} (outcome : Except Failure Publication)
      (started : floor.phase job = .started) :
      Step clock floor (some job)
        (floor.goTo ((Operation.update clock job (·.settle outcome)).on floor.studio).2 job .ended)
  /-- A change comes too late, or for a job that is not known. -/
  | late {floor : Floor α} {job : JobId} (change : JobStatus → JobStatus)
      (closed : floor.studio.desk.open? job = none) :
      Step clock floor (some job)
        { floor with studio := ((Operation.update clock job change).on floor.studio).2 }

/-- Steps one after the other, each with its job and the floor that it leaves. -/
inductive Run (clock : Nat → Instant) : Floor α → List (Option JobId × Floor α) → Prop where
  | done {floor : Floor α} : Run clock floor []
  | step {floor next : Floor α} {label : Option JobId} {trail : List (Option JobId × Floor α)}
      (first : Step clock floor label next) (rest : Run clock next trail) :
      Run clock floor ((label, next) :: trail)

variable {clock : Nat → Instant} {floor next : Floor α} {label : Option JobId} {job : JobId}

@[simp] theorem Floor.goTo_phase {studio : Studio α} {phase : Phase} :
    (floor.goTo studio job phase).phase job = phase :=
  Function.update_self ..

section Records

variable {studio last : Studio α} {change : JobStatus → JobStatus} {status : JobStatus}

theorem Desk.open?_eq_some {desk : Desk α} :
    desk.open? job = some status ↔
      desk.jobs.get? job = some status ∧ status.state.isTerminal = false := by
  simp [Desk.open?, Option.filter_eq_some_iff]

/-- Registering enters one record, at one reading of the clock. -/
theorem register_ok {options : PublishOptions}
    (registered : (Operation.register clock options).on studio = (.ok job, last)) :
    let time := clock studio.workspace.readings
    last.desk = studio.desk.register
        ⟨job, .queued, "Job queued.", time, time, options, none, none, none⟩ ∧
      last.workspace.readings = studio.workspace.readings + 1 ∧
      last.workspace.ids = studio.workspace.ids + 1 ∧
      last.workspace.disk = studio.workspace.disk := by
  obtain ⟨same, rfl⟩ := Prod.mk.inj registered
  obtain rfl := Except.ok.inj same
  exact ⟨rfl, rfl, rfl, rfl⟩

theorem update_record (other : JobId) :
    ((Operation.update clock job change).on studio).2.desk.jobs.get? other =
      if other = job then
        match studio.desk.open? job with
        | some status =>
          some { change status with updatedAt := clock studio.workspace.readings }
        | none => studio.desk.jobs.get? job
      else studio.desk.jobs.get? other := by
  cases present : studio.desk.open? job with
  | none =>
    rw [Operation.on_update_closed present]
    split
    · rename_i same
      rw [same]
    · rfl
  | some status =>
    rw [Operation.on_update_open present]
    simp only [Desk.update, present, Named.get?_set]

theorem update_own (present : studio.desk.open? job = some status) :
    ((Operation.update clock job change).on studio).2.desk.jobs.get? job =
        some { change status with updatedAt := clock studio.workspace.readings } ∧
      ((Operation.update clock job change).on studio).2.workspace.readings =
        studio.workspace.readings + 1 := by
  refine ⟨?_, ?_⟩
  · rw [update_record, if_pos rfl, present]
  · exact congrArg (·.2.workspace.readings) (Operation.on_update_open present)

theorem update_readings :
    studio.workspace.readings ≤
      ((Operation.update clock job change).on studio).2.workspace.readings := by
  cases present : studio.desk.open? job with
  | none =>
    simp [Operation.on_update_closed present]
  | some status =>
    rw [(update_own present).2]
    exact Nat.le_succ _

end Records

/-- A step of one job does not touch the record of another. -/
theorem Step.undisturbed (step : Step clock floor label next) (other : label ≠ some job) :
    next.record job = floor.record job ∧ next.phase job = floor.phase job := by
  cases step with
  | outside _ => exact ⟨rfl, rfl⟩
  | papers same => exact ⟨congrArg (Named.get? · job) same, rfl⟩
  | enter fresh entered =>
    have differ : job ≠ _ := fun same => other (congrArg some same.symm)
    refine ⟨?_, Function.update_of_ne differ ..⟩
    simp [Floor.goTo, Floor.record, (register_ok entered).1, Desk.register, Named.get?_set, differ]
  | refuse _ =>
    have differ : job ≠ _ := fun same => other (congrArg some same.symm)
    refine ⟨?_, Function.update_of_ne differ ..⟩
    simp [Floor.goTo, Floor.record, Desk.withdraw, Named.get?_erase, differ]
  | hand _ =>
    have differ : job ≠ _ := fun same => other (congrArg some same.symm)
    exact ⟨rfl, Function.update_of_ne differ ..⟩
  | start _ _ | settle _ _ =>
    have differ : job ≠ _ := fun same => other (congrArg some same.symm)
    refine ⟨?_, Function.update_of_ne differ ..⟩
    simp [Floor.goTo, Floor.record, update_record, differ]
  | late _ _ =>
    have differ : job ≠ _ := fun same => other (congrArg some same.symm)
    exact ⟨by simp [Floor.record, update_record, differ], rfl⟩

theorem Step.onward (step : Step clock floor label next) :
    floor.studio.workspace.readings ≤ next.studio.workspace.readings := by
  cases step with
  | outside onward => exact onward
  | papers _ | refuse _ | hand _ => exact Nat.le_refl _
  | enter _ entered =>
    have read := (register_ok entered).2.1
    exact Nat.le_trans (Nat.le_succ _) (Nat.le_of_eq read.symm)
  | start _ _ | settle _ _ | late _ _ => exact update_readings

end Montage
