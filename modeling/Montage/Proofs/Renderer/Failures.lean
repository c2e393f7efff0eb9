import Montage.Proofs.Manifest.Planned
import Montage.Proofs.Renderer.Cleanup

/-! How a rendering fails once it has its directory. The plan is to blame, or a stage, or a number of the
plan cannot be written; else the only clip of the plan cannot be copied, which is no stage. -/

namespace Montage

variable {α : Type} [Quantity α] {renderer : Renderer} {plan : RenderPlan α} {begun : Workspace}
  {directory output : Path}

/-- The ways in which a plan can fail to be rendered. -/
inductive Failure.Arises (plan : RenderPlan α) : Failure → Prop where
  | blamed {failure : Failure} (blamed : failure.BlamesPlan) : Arises plan failure
  | stage (stage : String) (error : StageError) : Arises plan (.render stage error)
  | number (fault : Fault) (unwritable : ¬plan.Writable) : Arises plan (.fault fault)
  | copy (error : SystemError) (single : plan.scenes.length = 1) : Arises plan (.system error)

namespace Renderer

/-- The tool reports that the first scene was rendered, but its clip cannot be copied: it is not there, or
a directory is where the copy has to be. -/
def Blocked (directory : Path) (served : Served) (rendered : Workspace) : Prop :=
  served.Succeeded ∧ (rendered.disk.file? (clipPath directory 0).text = none ∨
    rendered.disk.entry? (directory.names ++ ["visual.mp4"]) = some .directory)

/-- The only scene of a plan is rendered, as the tool says, to a clip that cannot be copied. -/
def Uncopied (renderer : Renderer) (plan : RenderPlan α) (directory : Path) (begun : Workspace) :
    Prop :=
  ∃ scene asset arguments, plan.scenes = [scene] ∧ plan.assetPaths.get? scene.asset = some asset ∧
    scene.command renderer.toolName asset plan.preset (clipPath directory 0) = .ok arguments ∧
    Blocked directory (renderer.serve (sceneStage 0) arguments begun).1
      (renderer.serve (sceneStage 0) arguments begun).2

section Failing

variable {stage : String} {arguments : List String}

theorem runStage_fails :
    (renderer.runStage stage arguments).FailsBy (fun _ => True) (Failure.Arises plan) := by
  intro start _
  rw [on_runStage]
  refine ⟨trivial, ?_⟩
  dsimp only
  split
  · exact .ok ()
  · exact .error (.stage _ _)

theorem compute_fails {β : Type} {result : Except Fault β} (written : plan.Writable → Written result) :
    (Action.compute result).FailsBy (fun _ => True) (Failure.Arises plan) := by
  refine .lift ?_
  cases result with
  | ok found => exact .ok found
  | error fault =>
    refine .error (.number fault fun writable => ?_)
    obtain ⟨found, same⟩ := written writable
    cases same

/-- Induction on the scenes: each has a path for its asset and a command, or nothing more is done. -/
theorem renderScenes_fails {scenes : List (ScenePlan α)} (among : scenes ⊆ plan.scenes)
    (index : Nat) :
    (renderer.renderScenes plan directory index scenes).FailsBy (fun _ => True)
      (Failure.Arises plan) := by
  induction scenes generalizing index with
  | nil => exact .pure []
  | cons scene rest ih =>
    obtain ⟨here, later⟩ := List.cons_subset.mp among
    rw [renderScenes]
    cases plan.assetPaths.get? scene.asset with
    | none => exact .throw (.blamed trivial)
    | some asset =>
      refine (compute_fails fun writable => writable.scene scene here _ _ _).bind fun _ _ _ _ => ?_
      refine runStage_fails.bind fun _ _ _ _ => ?_
      exact (ih later (index + 1)).bind fun _ _ _ _ => .pure _

/-- Each scene that was rendered has a clip. -/
theorem renderScenes_length {scenes : List (ScenePlan α)} {index : Nat} {clips : List Path}
    {start last : Workspace}
    (rendered : (renderer.renderScenes plan directory index scenes).on start = (.ok clips, last)) :
    clips.length = scenes.length := by
  induction scenes generalizing index clips start last with
  | nil =>
    obtain ⟨same, _⟩ := Prod.mk.inj rendered
    exact Except.ok.inj same ▸ rfl
  | cons scene rest ih =>
    rw [renderScenes] at rendered
    cases present : plan.assetPaths.get? scene.asset with
    | none => simp [present] at rendered
    | some asset =>
      rw [present] at rendered
      obtain ⟨_, _, _, rendered⟩ := Action.bind_eq_ok.mp rendered
      obtain ⟨_, _, _, rendered⟩ := Action.bind_eq_ok.mp rendered
      obtain ⟨others, _, later, same⟩ := Action.bind_eq_ok.mp rendered
      obtain rfl := Except.ok.inj (Prod.mk.inj same).1
      exact congrArg (· + 1) (ih later)

theorem joinClips_fails {clips : List Path} (each : clips.length = plan.scenes.length)
    (visual : Path) :
    (renderer.joinClips plan clips visual).FailsBy (fun _ => True) (Failure.Arises plan) := by
  unfold joinClips
  split
  · intro start _
    rw [Action.on, Action.change]
    split
    · exact ⟨trivial, .ok ()⟩
    · exact ⟨trivial, .error (.copy _ each.symm)⟩
  · refine (compute_fails fun writable => combineCommand_written writable _).bind fun _ _ _ _ => ?_
    exact runStage_fails

theorem renderIn_fails :
    (renderer.renderIn plan directory output).FailsBy (fun _ => True) (Failure.Arises plan) := by
  refine (renderScenes_fails (List.Subset.refl _) 0).bind fun _ clips _ rendered => ?_
  exact (joinClips_fails (renderScenes_length rendered) _).bind fun _ _ _ _ => runStage_fails

/-- The error of a stage names the stage. -/
theorem runStage_not_system (start : Workspace) (error : SystemError) :
    ((renderer.runStage stage arguments).on start).1 ≠ .error (.system error) := by
  rw [on_runStage]
  dsimp only
  split <;> nofun

end Failing

section Single

variable {scene : ScenePlan α} {asset : Path} {arguments : List String}

/-- A clip that was rendered is the only one, and is copied. -/
theorem renderIn_single (single : plan.scenes = [scene])
    (present : plan.assetPaths.get? scene.asset = some asset)
    (written : scene.command renderer.toolName asset plan.preset (clipPath directory 0) =
      .ok arguments) :
    renderer.renderIn plan directory output = (do
      renderer.runStage (sceneStage 0) arguments
      Action.change fun disk =>
        disk.copyFile (clipPath directory 0).text (directory.child "visual.mp4").text
      renderer.runStage muxStage
        (muxCommand renderer.toolName plan.audio (directory.child "visual.mp4") output)) := by
  have rendered : renderer.renderScenes plan directory 0 [scene] = (do
      renderer.runStage (sceneStage 0) arguments
      return [clipPath directory 0]) := by
    rw [renderScenes, present]
    dsimp only
    rw [written]
    rfl
  rw [renderIn, single, rendered]
  simp only [bind_assoc, pure_bind]
  rfl

theorem renderIn_single_system_iff (downward : directory.Downward) (deep : directory.names ≠ [])
    (single : plan.scenes = [scene])
    (present : plan.assetPaths.get? scene.asset = some asset)
    (written : scene.command renderer.toolName asset plan.preset (clipPath directory 0) =
      .ok arguments) :
    (∃ error, ((renderer.renderIn plan directory output).on begun).1 = .error (.system error)) ↔
      Blocked directory (renderer.serve (sceneStage 0) arguments begun).1
        (renderer.serve (sceneStage 0) arguments begun).2 := by
  rw [renderIn_single single present written, Action.on_bind, on_runStage]
  generalize renderer.serve (sceneStage 0) arguments begun = reached
  obtain ⟨served, rendered⟩ := reached
  dsimp only
  rw [Blocked, ← Served.error?_eq_none]
  cases served.error? with
  | some error => simp
  | none =>
    have refused : (∃ error, rendered.disk.copyFile (clipPath directory 0).text
        (directory.child "visual.mp4").text = .error error) ↔
          rendered.disk.file? (clipPath directory 0).text = none ∨
            rendered.disk.entry? (directory.names ++ ["visual.mp4"]) = some .directory :=
      Disk.copyFile_refused_iff downward deep (clipName_plain 0) (by decide) (by decide) (by decide)
        (by decide)
    rw [← refused]
    dsimp only
    rw [Action.on_bind, Action.on, Action.change]
    cases rendered.disk.copyFile (clipPath directory 0).text (directory.child "visual.mp4").text with
    | error error => simp
    | ok disk => simp [runStage_not_system]

end Single

theorem renderIn_system_iff (downward : directory.Downward) (deep : directory.names ≠ []) :
    (∃ error, ((renderer.renderIn plan directory output).on begun).1 = .error (.system error)) ↔
      renderer.Uncopied plan directory begun := by
  constructor
  · rintro ⟨error, failed⟩
    -- Only the copy of a single clip fails with an error of the system.
    have alone : plan.scenes.length = 1 := by
      cases (renderIn_fails begun trivial).2 _ failed with
      | blamed blamed => exact blamed.elim
      | copy _ single => exact single
    obtain ⟨scene, single⟩ := List.length_eq_one_iff.mp alone
    cases present : plan.assetPaths.get? scene.asset with
    | none =>
      rw [renderIn, single, renderScenes, present] at failed
      cases failed
    | some asset =>
      cases written : scene.command renderer.toolName asset plan.preset (clipPath directory 0) with
      | error fault =>
        rw [renderIn, single, renderScenes, present] at failed
        dsimp only at failed
        rw [written] at failed
        cases failed
      | ok arguments =>
        refine ⟨scene, asset, arguments, single, present, written, ?_⟩
        exact (renderIn_single_system_iff downward deep single present written).mp ⟨error, failed⟩
  · rintro ⟨scene, asset, arguments, single, present, written, blocked⟩
    exact (renderIn_single_system_iff downward deep single present written).mpr blocked

/-- Once its directory is made, a rendering fails as its plan can, and it fails with an error of the
system, which no stage reports, exactly when the only clip of the plan cannot be copied. -/
theorem render_arises {start : Workspace} (plain : start.disk.temporaryDirectory.Plain)
    (made : (makeFresh "composition-" "" .directory).on start = (.ok directory, begun))
    (renderer : Renderer) (plan : RenderPlan α) (output : Path) :
    let outcome := ((renderer.render plan output).on start).1
    (∀ failure, outcome = .error failure → failure.Arises plan) ∧
      ((∃ error, outcome = .error (.system error)) ↔ renderer.Uncopied plan directory begun) := by
  intro outcome
  by_cases several : plan.scenes = []
  · have ended : outcome = .error (.argument .emptyPlan) := by
      simp only [outcome, render, several]
      rfl
    rw [ended]
    refine ⟨FailsBy.error (.blamed trivial), ?_⟩
    constructor
    · rintro ⟨_, ⟨⟩⟩
    · rintro ⟨scene, _, _, single, _⟩
      cases several.symm.trans single
  · have fresh := makeFresh_made plain (by decide) (by decide) made
    have same : outcome = ((renderer.renderIn plan directory output).on begun).1 := by
      simp only [outcome]
      rw [on_render several made]
    rw [same]
    exact ⟨(renderIn_fails begun trivial).2, renderIn_system_iff fresh.downward fresh.deep⟩

/-- A single image. -/
def soleCover : RenderPlan Number where
  preset := .square
  scenes := [coverScene .cut (.nearestInt 4) .zero]
  audio := .ofText "/audio.wav"
  assetPaths := [("cover", .ofText "/cover.png")]
  total := .double (.nearestInt 4)

/-- A tool that reports that it has rendered a scene without a file to show for it. -/
def boaster : Renderer :=
  ⟨⟨⟨none, "tool"⟩, Rehearsal.runner [⟨sceneStage 0, .report ⟨some 0, "", false⟩⟩]⟩, none,
    stageTimeout⟩

/-- Neither is the plan to blame, nor does a stage fail. -/
theorem soleCover_escapes :
    ((boaster.render soleCover (.ofText "/tmp/video.mp4")).on .bare).1 =
      .error (.system (.refused .missing "/tmp/media-factory-composition-1/scene-0.mp4")) := by
  decide +kernel

theorem soleCover_uncopied :
    ∃ directory begun,
      (makeFresh "composition-" "" .directory).on .bare = (.ok directory, begun) ∧
      boaster.Uncopied soleCover directory begun := by
  obtain ⟨directory, begun, made⟩ :=
    @Action.on_of_isOk _ (makeFresh "composition-" "" .directory) .bare (by decide +kernel)
  have arises := render_arises (show Workspace.bare.disk.temporaryDirectory.Plain by decide) made
    boaster soleCover (.ofText "/tmp/video.mp4")
  have missing : ((boaster.render soleCover (.ofText "/tmp/video.mp4")).on .bare).1 = .error (.system
      (.refused .missing "/tmp/media-factory-composition-1/scene-0.mp4")) := by
    decide +kernel
  exact ⟨directory, begun, made, arises.2.mp ⟨_, missing⟩⟩

end Renderer

end Montage
