import Montage.Proofs.Job.Accounting
import Montage.Proofs.Job.Lawful
import Montage.Proofs.Trace

/-! What a job comes to is decided by the turns that its worker takes: by what each call of a renderer
or of a publisher came to. -/

namespace Montage

variable {α : Type}

/-- A turn of a worker, with what it came to. -/
inductive Turn (α : Type) where
  /-- The file to render to was made. -/
  | output (outcome : Except Failure Path)
  /-- A timeline was compiled. -/
  | compile (outcome : Except Failure (RenderPlan α))
  /-- A video was rendered to a file. -/
  | render (video : Path) (outcome : Except Failure Unit)
  /-- A file was handed to the publisher. -/
  | upload (video : Path) (outcome : Except Failure Artifact)
  /-- A thumbnail was handed to the publisher. -/
  | illustrate (id : String) (outcome : Except Failure Unit)
  /-- The publisher was asked for an address. -/
  | address (id : String) (outcome : Except Failure (Option String))

namespace Turn

/-- The publisher was called. -/
def isPublishing : Turn α → Bool
  | .upload _ _ | .illustrate _ _ | .address _ _ => true
  | _ => false

/-- A file was handed to the publisher. -/
def isUpload : Turn α → Bool
  | .upload _ _ => true
  | _ => false

variable [Quantity α]

end Turn

/-- The turns in which something is rendered. -/
inductive Renders (video : Path) : Work α → List (Turn α) → Except Failure Unit → Prop where
  | still {image : Path} {duration : Number} {outcome : Except Failure Unit} :
      Renders video (.still image duration) [.render video outcome] outcome
  | uncompiled {manifest : Manifest α} {assets : Named Path} {failure : Failure} :
      Renders video (.composition manifest assets) [.compile (.error failure)] (.error failure)
  | composition {manifest : Manifest α} {assets : Named Path} {plan : RenderPlan α}
      {outcome : Except Failure Unit} :
      Renders video (.composition manifest assets) [.compile (.ok plan), .render video outcome]
        outcome

/-- The turns in which a published video gets its thumbnail, and the warning after them. -/
inductive Illustrates (artifact : Artifact) :
    Option Thumbnail → List (Turn α) → Option String → Prop where
  | plain : Illustrates artifact none [] artifact.warning
  | shown {thumbnail : Thumbnail} :
      Illustrates artifact (some thumbnail) [.illustrate artifact.id (.ok ())] artifact.warning
  | unshown {thumbnail : Thumbnail} {failure : Failure} :
      Illustrates artifact (some thumbnail) [.illustrate artifact.id (.error failure)]
        (combineWarnings artifact.warning (some thumbnailWarning))

/-- The turn in which a published video gets its address. -/
inductive Addresses (artifact : Artifact) (warning : Option String) :
    List (Turn α) → Except Failure Publication → Prop where
  | asked {address : Except Failure (Option String)} :
      Addresses artifact warning [.address artifact.id address]
        (address.map fun address => ⟨artifact.id, address, warning⟩)

/-- The turns in which a rendered file is published. -/
inductive Publishes (video : Path) (thumbnail : Option Thumbnail) :
    List (Turn α) → Except Failure Publication → Prop where
  | refused {failure : Failure} :
      Publishes video thumbnail [.upload video (.error failure)] (.error failure)
  | uploaded {artifact : Artifact} {turns more : List (Turn α)} {warning : Option String}
      {outcome : Except Failure Publication}
      (illustrates : Illustrates artifact thumbnail turns warning)
      (addresses : Addresses artifact warning more outcome) :
      Publishes video thumbnail (.upload video (.ok artifact) :: (turns ++ more)) outcome

/-- The turns in which a task is carried out. -/
inductive Carries (task : Task α) : List (Turn α) → Except Failure Publication → Prop where
  | unmade {failure : Failure} : Carries task [.output (.error failure)] (.error failure)
  | unrendered {video : Path} {turns : List (Turn α)} {failure : Failure}
      (renders : Renders video task.work turns (.error failure)) :
      Carries task (.output (.ok video) :: turns) (.error failure)
  | rendered {video : Path} {turns more : List (Turn α)} {outcome : Except Failure Publication}
      (renders : Renders video task.work turns (.ok ()))
      (publishes : Publishes video task.thumbnail more outcome) :
      Carries task (.output (.ok video) :: (turns ++ more)) outcome

section Workers

variable [Quantity α] {services : Services α} {task : Task α} {video : Path}

end Workers

/-- Everything that a published video needs went well. -/
structure Succeeds (task : Task α) (turns : List (Turn α)) : Prop where
  output : ∃ video, .output (.ok video) ∈ turns
  compile : ∀ manifest assets, task.work = .composition manifest assets →
    ∃ plan, .compile (.ok plan) ∈ turns
  render : ∃ video, .render video (.ok ()) ∈ turns
  upload : ∃ video artifact, .upload video (.ok artifact) ∈ turns
  address : ∃ id address, .address id (.ok address) ∈ turns

/-- Where a publication comes from. -/
structure Publication.From (publication : Publication) (turns : List (Turn α)) (artifact : Artifact) :
    Prop where
  upload : ∃ video, .upload video (.ok artifact) ∈ turns
  id : publication.artifact = artifact.id
  address : .address artifact.id (.ok publication.address) ∈ turns
  unwarned : (∀ id failure, .illustrate id (.error failure) ∉ turns) →
    publication.warning = artifact.warning
  warned : ∀ id failure, .illustrate id (.error failure) ∈ turns →
    publication.warning = combineWarnings artifact.warning (some thumbnailWarning)

section Carrying

variable {task : Task α} {work : Work α} {video : Path} {turns rendering : List (Turn α)}
  {thumbnail : Option Thumbnail} {artifact : Artifact} {warning : Option String} {turn : Turn α}
  {outcome : Except Failure Publication}

namespace Renders

variable {outcome : Except Failure Unit}

theorem aside (renders : Renders video work turns outcome) :
    ∀ turn ∈ turns, turn.isPublishing = false := by
  cases renders <;> simp [Turn.isPublishing]

theorem later (renders : Renders video work turns outcome) {made : Except Failure Path}
    {more : List (Turn α)} (publishing : turn.isPublishing = true)
    (member : turn ∈ .output made :: (turns ++ more)) : turn ∈ more := by
  rcases List.mem_cons.mp member with rfl | member
  · cases publishing
  · rcases List.mem_append.mp member with early | late
    · simp [renders.aside turn early] at publishing
    · exact late

theorem own (renders : Renders video work turns (.ok ())) : .render video (.ok ()) ∈ turns := by
  cases renders <;> simp

end Renders

namespace Publishes

theorem uploads (publishes : Publishes video thumbnail turns outcome) :
    turns.countP Turn.isUpload = 1 := by
  cases publishes with
  | refused => rfl
  | uploaded illustrates addresses => cases illustrates <;> cases addresses <;> rfl

theorem published (publishes : Publishes video thumbnail turns outcome) {publication : Publication}
    (done : outcome = .ok publication) : ∃ artifact, publication.From turns artifact := by
  cases publishes with
  | refused => cases done
  | @uploaded artifact _ _ _ _ illustrates addresses =>
    obtain ⟨⟩ := addresses
    obtain ⟨address, rfl, rfl⟩ := Except.map_eq_ok.mp done
    refine ⟨artifact, ⟨video, List.mem_cons_self⟩, rfl, by simp, ?_, ?_⟩
    · intro shown
      cases illustrates with
      | plain | shown => rfl
      | @unshown _ failure => exact absurd (by simp) (shown artifact.id failure)
    · intro id failure unshown
      cases illustrates with
      | plain | shown => simp at unshown
      | unshown => rfl

end Publishes

theorem Carries.published {publication : Publication}
    (carries : Carries task turns (.ok publication)) :
    ∃ artifact, publication.From turns artifact := by
  cases carries with
  | @rendered video turns more _ renders publishes =>
    obtain ⟨artifact, origin⟩ := publishes.published rfl
    have late {turn : Turn α} (member : turn ∈ more) : turn ∈ .output (.ok video) :: (turns ++ more) :=
      .tail _ (List.mem_append_right _ member)
    exact ⟨artifact, {
      upload := origin.upload.imp fun _ => late
      id := origin.id
      address := late origin.address
      unwarned := fun shown => origin.unwarned fun id failure member => shown id failure (late member)
      warned := fun id failure member => origin.warned id failure (renders.later rfl member) }⟩

end Carrying

/-- A job that no worker has started yet is queued, and nothing of it is published. -/
structure JobStatus.Waits (status : JobStatus) : Prop where
  state : status.state = .queued
  artifact : status.artifact = none
  address : status.address = none
  warning : status.warning = none

/-- Every job that was entered waits until a worker starts it. -/
def Floor.Waits (floor : Floor α) : Prop :=
  ∀ job, floor.phase job = .entered ∨ floor.phase job = .handed →
    ∃ status, floor.record job = some status ∧ status.Waits

section Waiting

variable {clock : Nat → Instant} {floor next : Floor α} {label : Option JobId}

theorem Step.waits (step : Step clock floor label next) (waits : floor.Waits) : next.Waits := by
  intro job early
  by_cases own : label = some job
  · subst own
    cases step with
    | enter fresh entered =>
      obtain ⟨desk, _⟩ := register_ok entered
      rw [Floor.goTo, Floor.record, desk, Desk.register, Named.get?_set, if_pos rfl]
      exact ⟨_, rfl, ⟨rfl, rfl, rfl, rfl⟩⟩
    | refuse _ | start _ _ | settle _ _ => simp at early
    | hand entered => exact waits job (.inl entered)
    | late change closed =>
      obtain ⟨status, present, waiting⟩ := waits job early
      have opened : floor.studio.desk.open? job = some status :=
        Desk.open?_eq_some.mpr ⟨present, by rw [waiting.state]; rfl⟩
      simp [opened] at closed
  · obtain ⟨record, phase⟩ := step.undisturbed own
    rw [phase] at early
    rw [record]
    exact waits job early

theorem Run.waits {trail : List (Option JobId × Floor α)} (run : Run clock floor trail)
    (waits : floor.Waits) : ∀ passed ∈ floor :: trail.map Prod.snd, passed.Waits := by
  induction run with
  | done => exact List.forall_mem_singleton.mpr waits
  | step first _ ih => exact List.forall_mem_cons.mpr ⟨waits, ih (first.waits waits)⟩

theorem Floor.Empty.waits (empty : floor.Empty) : floor.Waits := by
  intro job early
  simp [empty.phases job] at early

end Waiting

section Performing

variable [Quantity α] {services : Services α} {task : Task α} {studio : Studio α} {record : JobStatus}

end Performing

/-- The task of the first job of a studio. -/
def firstTask : Task Number where
  job := "00000000-0010-0000-0000-000000000000"
  work := .still (.ofText "/cover.png") (.int 5)
  audio := .ofText "/audio.wav"
  thumbnail := some ⟨.ofText "/thumbnail.png", some "image/png"⟩
  title := "Cover"
  description := ""
  options := .default

/-- A studio whose first job was entered. -/
def Studio.first : Studio Number :=
  ((Operation.register Services.sketch.clock .default).on Floor.opening.studio).2

/-- The first job is handed over. -/
def Floor.first : Floor Number :=
  (Floor.opening.goTo .first firstTask.job .entered).goTo .first firstTask.job .handed

end Montage
