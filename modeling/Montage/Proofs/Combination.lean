import Montage.Proofs.Arguments
import Montage.Proofs.Filter.Wiring
import Montage.Proofs.Renderer

/-! The command that joins the clips of a plan: the clips are taken in as they were rendered, and
the graph is wired to join them. -/

namespace Montage

/-- A command takes in clips in their order, its graph reads as one that joins them, a chain of
blends if it is to crossfade, and what it maps is the whole. -/
structure Joining (arguments : List String) (clips : List Path) (crossfade : Bool) : Prop where
  inputs : optionValues "-i" arguments = clips.map Path.text
  graph : ∃ (text : String) (graph : FilterGraph),
    optionValues "-filter_complex" arguments = [text] ∧
    readFilters? text = some graph.filters ∧
    optionValues "-map" arguments = [bracketed graph.output] ∧
    graph.Wired clips.length ∧ (crossfade = true → graph.Chained clips.length)

section Command

variable {tool : String} {output : Path} {clips : List Path} {scenes : List (ScenePlan Number)}
  {crossfade : Bool} {arguments : List String}

theorem joinGraph_wired {graph : FilterGraph} (several : 2 ≤ clips.length)
    (each : clips.length = scenes.length) (drawn : joinGraph clips scenes crossfade = .ok graph) :
    readFilters? graph.text = some graph.filters ∧ graph.Wired clips.length ∧
      (crossfade = true → graph.Chained clips.length) := by
  unfold joinGraph at drawn
  cases crossfade with
  | true =>
    rw [if_pos rfl] at drawn
    obtain ⟨⟨found, blends⟩, blended, same⟩ := Except.bind_eq_ok.mp drawn
    obtain rfl := Except.pure_eq_ok.mp same
    have crossfades := crossfadeGraph_crossfades blended
    have count : scenes.length - 1 + 1 = clips.length := by omega
    have some : found.filters ≠ [] := by
      rw [← List.length_pos_iff, crossfades.length_eq]
      omega
    refine ⟨readFilters?_text some crossfades.readable, ?_, fun _ => ?_⟩
    · exact count ▸ crossfades.wired (by omega)
    · exact count ▸ crossfades.chained
  | false =>
    rw [if_neg Bool.false_ne_true] at drawn
    obtain rfl := Except.pure_eq_ok.mp drawn
    refine ⟨readFilters?_text (List.cons_ne_nil _ _) ?_, concatGraph_wired, nofun⟩
    exact concatGraph_readable (by omega)

theorem combineCommand_joining (several : 2 ≤ clips.length) (each : clips.length = scenes.length)
    (written : combineCommand tool clips scenes output crossfade = .ok arguments) :
    Joining arguments clips crossfade := by
  obtain ⟨graph, drawn, inputs, text, mapped⟩ := combineCommand_options written
  obtain ⟨read, wired, chained⟩ := joinGraph_wired several each drawn
  exact ⟨inputs, graph.text, graph, text, read, mapped, wired, chained⟩

end Command

/-- An operation that begins with a result which is there or not. -/
theorem Action.ensures_lift_bind {β γ : Type} {required : Workspace → Prop}
    {wanted : Except Failure γ → Workspace → Prop} {result : Except Failure β} {next : β → Action γ}
    (rest : ∀ found, result = .ok found → Ensures required (next found) wanted)
    (lost : ∀ failure start, required start → wanted (.error failure) start) :
    Ensures required (lift result >>= next) wanted := by
  intro start right
  rw [on_bind, on_lift]
  cases outcome : result with
  | ok found => exact rest found outcome start right
  | error failure => exact lost failure start right

/-- The calls of a workspace are some calls and others after them, of which something holds. -/
def Workspace.Adds (past : List Call) (good : Call → Prop) (workspace : Workspace) : Prop :=
  ∃ added, workspace.calls = past ++ added ∧ ∀ call ∈ added, good call

/-- A call for a scene of a plan renders the scene to its clip, and one that joins clips joins those
of all scenes in their order. -/
structure Call.Conforms (renderer : Renderer) (plan : RenderPlan Number) (directory : Path)
    (call : Call) : Prop where
  scene : ∀ index, call.stage = Renderer.sceneStage index → ∃ scene asset,
    plan.scenes[index]? = some scene ∧ plan.assetPaths.get? scene.asset = some asset ∧
      scene.command renderer.toolName asset plan.preset (Renderer.clipPath directory index) =
        .ok call.arguments ∧
      call.arguments.getLast? = some (Renderer.clipPath directory index).text
  combine : call.stage = Renderer.combineStage →
    Joining call.arguments ((List.range plan.scenes.length).map (Renderer.clipPath directory))
      plan.hasCrossfade

namespace Renderer

variable {renderer : Renderer} {past : List Call} {good : Call → Prop}

theorem runStage_adds {stage : String} {arguments : List String}
    (fits : ∀ timeout disk, good (Call.make stage arguments timeout disk)) :
    (renderer.runStage stage arguments).Keeps (Workspace.Adds past good) := by
  rintro start ⟨added, calls, each⟩
  refine ⟨added ++ [Call.make stage arguments renderer.timeout start.disk], ?_, ?_⟩
  · rw [runStage_calls, calls, List.append_assoc]
  · rw [List.forall_mem_append, List.forall_mem_singleton]
    exact ⟨each, fits _ _⟩

theorem change_adds {write : Disk → Except SystemError Disk} :
    (Action.change write).Keeps (Workspace.Adds past good) :=
  Action.change_ensures (fun _ _ adds _ => adds) fun _ _ adds => adds

theorem makeFresh_adds (purpose suffix : String) (entry : Entry) :
    (makeFresh purpose suffix entry).Keeps (Workspace.Adds past good) := by
  have fresh : (freshPath purpose suffix).Keeps (Workspace.Adds past good) := fun _ adds => adds
  refine fresh.bind fun text => ?_
  have checked : (checkPath text).Keeps (Workspace.Adds past good) := by
    unfold checkPath
    split
    · exact Action.keeps_throw _
    · exact Action.keeps_pure ()
  refine checked.bind fun _ => ?_
  exact change_adds.bind fun _ => Action.keeps_pure _

variable {plan : RenderPlan Number} {directory output : Path}

/-- Induction on the scenes: each clip is written where it is looked for later. -/
theorem renderScenes_conforms {scenes : List (ScenePlan Number)} {index : Nat}
    (all : plan.scenes.drop index = scenes) :
    (renderer.renderScenes plan directory index scenes).Ensures
      (Workspace.Adds past (Call.Conforms renderer plan directory)) fun outcome workspace =>
        workspace.Adds past (Call.Conforms renderer plan directory) ∧
          ∀ clips, outcome = .ok clips →
            clips = (List.range' index scenes.length).map (clipPath directory) := by
  induction scenes generalizing index with
  | nil => exact fun start adds => ⟨adds, fun _ same => (Except.ok.inj same).symm⟩
  | cons scene rest ih =>
    have lost (failure : Failure) (start : Workspace)
        (adds : start.Adds past (Call.Conforms renderer plan directory)) :
        start.Adds past (Call.Conforms renderer plan directory) ∧
          ∀ clips, Except.error failure = .ok clips →
            clips = (List.range' index (scene :: rest).length).map (clipPath directory) :=
      ⟨adds, by rintro _ ⟨⟩⟩
    have here : plan.scenes[index]? = some scene := by
      rw [← List.head?_drop, all, List.head?_cons]
    have later : plan.scenes.drop (index + 1) = rest := by
      rw [← List.tail_drop, all, List.tail_cons]
    unfold renderScenes
    split
    · exact lost _
    · rename_i asset present
      refine Action.ensures_lift_bind (fun arguments written => ?_) lost
      have written := Except.mapError_eq_ok.mp written
      have fits (timeout : Number) (disk : Disk) :
          (Call.make (sceneStage index) arguments timeout disk).Conforms renderer plan
            directory := {
        scene := by
          intro other same
          obtain rfl := sceneStage_injective same
          exact ⟨scene, asset, here, present, written, ScenePlan.command_last written⟩
        combine := fun same => absurd same (sceneStage_ne (by decide)) }
      refine Action.Ensures.bind (runStage_adds fits) (fun _ => ?_) lost
      refine Action.Ensures.bind (ih later) (fun others => ?_) fun failure start told =>
        lost failure start told.1
      rintro start ⟨adds, same⟩
      refine ⟨adds, fun clips listed => ?_⟩
      obtain rfl := Except.ok.inj listed
      rw [same others rfl, List.length_cons, List.range'_succ, List.map_cons]

theorem joinClips_adds (several : 2 ≤ plan.scenes.length) {clips : List Path} {visual : Path}
    (all : clips = (List.range' 0 plan.scenes.length).map (clipPath directory)) :
    (renderer.joinClips plan clips visual).Keeps
      (Workspace.Adds past (Call.Conforms renderer plan directory)) := by
  have count : clips.length = plan.scenes.length := by simp [all]
  unfold joinClips
  split
  · exact change_adds
  · refine Action.keeps_lift_bind fun arguments written => ?_
    have written := Except.mapError_eq_ok.mp written
    refine runStage_adds fun timeout disk => ?_
    exact {
      scene := fun index (same : combineStage = sceneStage index) =>
        absurd same.symm (sceneStage_ne (by decide))
      combine := fun _ => by
        rw [List.range_eq_range', ← all]
        exact combineCommand_joining (count ▸ several) count written }

theorem renderIn_adds (several : 2 ≤ plan.scenes.length) :
    (renderer.renderIn plan directory output).Keeps
      (Workspace.Adds past (Call.Conforms renderer plan directory)) := by
  refine Action.Ensures.bind (renderScenes_conforms List.drop_zero) (fun clips => ?_)
    fun _ _ told => told.1
  rintro start ⟨adds, same⟩
  refine (joinClips_adds several (same clips rfl)).bind (fun _ => ?_) start adds
  refine runStage_adds fun timeout disk => ?_
  exact {
    scene := fun index (same : muxStage = sceneStage index) =>
      absurd same.symm (sceneStage_ne (by decide))
    combine := fun same => absurd same (show muxStage ≠ combineStage by decide) }

/-- A rendering of several scenes joins the clips that it has rendered, in the order of the scenes
and by a graph that is wired for them. -/
theorem render_joins (several : 2 ≤ plan.scenes.length) (renderer : Renderer) (start : Workspace)
    (output : Path) :
    (∃ directory, ((renderer.render plan output).on start).2.Adds start.calls
      (Call.Conforms renderer plan directory)) ∧
    (∀ tool clips visual crossfade arguments, clips.length = plan.scenes.length →
      combineCommand tool clips plan.scenes visual crossfade = .ok arguments →
        Joining arguments clips crossfade) ∧
    (plan.Writable → ∀ tool clips visual, ∃ arguments,
      combineCommand tool clips plan.scenes visual plan.hasCrossfade = .ok arguments) := by
  refine ⟨?_, ?_, fun writable tool clips visual => combineCommand_written writable clips⟩
  · have some : plan.scenes ≠ [] := List.length_pos_iff.mp (by omega)
    have nothing (good : Call → Prop) : start.Adds start.calls good :=
      ⟨[], (List.append_nil _).symm, List.forall_mem_nil _⟩
    rcases made : (makeFresh "composition-" "" .directory).on start
      with ⟨failure | directory, begun⟩
    · have full : plan.scenes.isEmpty = false := by simpa using some
      have ended : (renderer.render plan output).on start = (.error failure, begun) := by
        rw [render, full, if_neg Bool.false_ne_true]
        exact bind_error made _
      have adds := makeFresh_adds "composition-" "" .directory start
        (nothing (Call.Conforms renderer plan (.ofText "/")))
      rw [made] at adds
      rw [ended]
      exact ⟨_, adds⟩
    · have adds := makeFresh_adds "composition-" "" .directory start
        (nothing (Call.Conforms renderer plan directory))
      rw [made] at adds
      rw [on_render some made]
      exact ⟨directory, renderIn_adds several begun adds⟩
  · intro tool clips visual crossfade arguments each written
    exact combineCommand_joining (each ▸ several) each written

/-- The clips of `fadingCover` are blended. -/
theorem fadingCover_joins :
    (∃ call ∈ ((Renderer.rehearsed.render fadingCover (.ofText "/tmp/video.mp4")).on .bare).2.calls,
      call.stage = combineStage) ∧
    ∃ directory,
      ((Renderer.rehearsed.render fadingCover (.ofText "/tmp/video.mp4")).on .bare).2.Adds []
        (Call.Conforms Renderer.rehearsed fadingCover directory) := by
  refine ⟨by decide +kernel, ?_⟩
  have joins := @render_joins fadingCover (by decide) Renderer.rehearsed .bare
    (.ofText "/tmp/video.mp4")
  exact joins.1

end Renderer

end Montage
