import Montage.Proofs.Combination
import Montage.Proofs.File.SameBut

/-! A rendering leaves nothing behind but its video. All stages before the last write to a directory that
the rendering makes for itself, and the directory is taken away however the stages come out. -/

namespace Montage

/-- The tool writes to no file but the one that its last argument names. -/
def Toolbox.WritesLast (toolbox : Toolbox) : Prop :=
  ∀ past (call : Call) (disk : Disk),
    disk.SameBut (fun place => ∃ file ∈ call.arguments.getLast?, disk.find file = .ok place)
      (toolbox.run past call disk).2

namespace Renderer

variable {α : Type} [Quantity α] {renderer : Renderer} {plan : RenderPlan α} {begun : Workspace}
  {directory output : Path}

/-- How a workspace may differ from how it was when the directory was made, before the soundtrack is
laid under the video: by what is in the directory. -/
structure Underway (begun : Workspace) (directory : Path) (workspace : Workspace) : Prop where
  disk : begun.disk.SameBut (directory.names <+: ·) workspace.disk
  calls : workspace.Adds begun.calls (·.stage ≠ muxStage)

/-- What has become of a workspace: the files at some places have changed, and if the last stage was not
reached on the way, at fewer. -/
structure Leaves (before : Workspace) (changed early : Place → Prop) (after : Workspace) : Prop where
  disk : before.disk.SameBut changed after.disk
  calls : ∃ added, after.calls = before.calls ++ added ∧
    ((∀ call ∈ added, call.stage ≠ muxStage) → before.disk.SameBut early after.disk)

/-- The places at which a rendering may change files: those below its directory, and where its video
goes. -/
def Within (begun : Workspace) (directory output : Path) (place : Place) : Prop :=
  directory.names <+: place ∨ begun.disk.find output.text = .ok place

omit [Quantity α] in
theorem Underway.leaves {workspace : Workspace} (underway : Underway begun directory workspace) :
    Leaves begun (Within begun directory output) (directory.names <+: ·) workspace where
  disk := underway.disk.mono fun _ => .inl
  calls :=
    have ⟨added, same, _⟩ := underway.calls
    ⟨added, same, fun _ => underway.disk⟩

/-- A stage before the last writes into the directory. -/
theorem runStage_underway (writes : renderer.toolbox.WritesLast) {stage : String}
    {arguments : List String} (early : stage ≠ muxStage)
    (inside : ∀ file ∈ arguments.getLast?, ∀ (disk : Disk) place, disk.find file = .ok place →
      directory.names <+: place) :
    (renderer.runStage stage arguments).Keeps (Underway begun directory) := by
  intro start underway
  refine ⟨?_, runStage_adds (fun _ _ => early) start underway.calls⟩
  rw [on_runStage]
  refine underway.disk.trans ((writes start.calls _ start.disk).mono ?_)
  rintro place ⟨file, named, found⟩
  exact inside file named start.disk place found

section Stages

variable (writes : renderer.toolbox.WritesLast) (downward : directory.Downward)
  (deep : directory.names ≠ [])

include writes downward deep

/-- Induction on the scenes: each is rendered to a clip in the directory. -/
theorem renderScenes_underway (scenes : List (ScenePlan α)) (index : Nat) :
    (renderer.renderScenes plan directory index scenes).Keeps (Underway begun directory) := by
  induction scenes generalizing index with
  | nil => exact Action.keeps_pure []
  | cons scene rest ih =>
    rw [renderScenes]
    cases plan.assetPaths.get? scene.asset with
    | none => exact Action.keeps_throw _
    | some asset =>
      refine Action.keeps_lift_bind fun arguments written => ?_
      have last := ScenePlan.command_last (Except.mapError_eq_ok.mp written)
      refine Action.Keeps.bind ?_ fun _ => (ih (index + 1)).bind fun _ => Action.keeps_pure _
      refine runStage_underway writes (sceneStage_ne (by decide)) fun file named disk place found => ?_
      obtain rfl := Option.some.inj (last.symm.trans named)
      exact Disk.find_child_place downward deep (clipName_plain index) found ▸ List.prefix_append ..

theorem joinClips_underway {name : String} (clips : List Path) (plain : PlainName name) :
    (renderer.joinClips plan clips (directory.child name)).Keeps (Underway begun directory) := by
  unfold joinClips
  split
  · refine Action.change_ensures (fun start disk underway copied => ?_) fun _ _ underway => underway
    obtain ⟨content, written⟩ := Disk.copyFile_written copied
    refine ⟨underway.disk.trans ((Disk.SameBut.of_write written).mono fun place found => ?_),
      underway.calls⟩
    exact Disk.find_child_place downward deep plain found ▸ List.prefix_append ..
  · refine Action.keeps_lift_bind fun arguments written => ?_
    have last := combineCommand_last (Except.mapError_eq_ok.mp written)
    refine runStage_underway writes (show combineStage ≠ muxStage by decide)
      fun file named disk place found => ?_
    obtain rfl := Option.some.inj (last.symm.trans named)
    exact Disk.find_child_place downward deep plain found ▸ List.prefix_append ..

omit [Quantity α] downward deep in
/-- The last stage writes the video. -/
theorem runMux_leaves {arguments : List String} (last : arguments.getLast? = some output.text) :
    (renderer.runStage muxStage arguments).Ensures (Underway begun directory)
      fun _ => Leaves begun (Within begun directory output) (directory.names <+: ·) := by
  intro start underway
  obtain ⟨added, calls, _⟩ := underway.calls
  have called := @runStage_calls renderer muxStage arguments start
  rw [calls, List.append_assoc] at called
  refine ⟨?_, _, called, fun early => ?_⟩
  · rw [on_runStage]
    refine (underway.disk.mono fun _ => .inl).trans ((writes start.calls _ start.disk).mono ?_)
    rintro place ⟨file, named, found⟩
    obtain rfl := Option.some.inj (last.symm.trans named)
    exact .inr (underway.disk.find_iff.mp found)
  · exact absurd rfl (early _ (List.mem_append_right _ List.mem_cons_self))

theorem renderIn_leaves :
    (renderer.renderIn plan directory output).Ensures (Underway begun directory)
      fun _ => Leaves begun (Within begun directory output) (directory.names <+: ·) := by
  refine Action.Ensures.bind (renderScenes_underway writes downward deep plan.scenes 0)
    (fun clips => ?_) fun _ _ underway => underway.leaves
  refine Action.Ensures.bind (joinClips_underway writes downward deep clips (by decide))
    (fun _ => ?_) fun _ _ underway => underway.leaves
  exact runMux_leaves writes (by simp [muxCommand, audioCodec])

end Stages

section Making

variable {start : Workspace} {purpose suffix : String}

theorem makeFresh_calls (purpose suffix : String) (entry : Entry) (start : Workspace) :
    ((makeFresh purpose suffix entry).on start).2.calls = start.calls := by
  have none : start.Adds start.calls fun _ => False :=
    ⟨[], (List.append_nil _).symm, List.forall_mem_nil _⟩
  obtain ⟨added, same, nothing⟩ := makeFresh_adds purpose suffix entry start none
  obtain rfl : added = [] := List.eq_nil_iff_forall_not_mem.mpr nothing
  rw [same, List.append_nil]

theorem makeFresh_lost {failure : Failure} (purposePlain : '/' ∉ purpose.toList)
    (suffixPlain : '/' ∉ suffix.toList)
    (lost : (makeFresh purpose suffix .directory).on start = (.error failure, begun)) :
    begun.disk = start.disk := by
  have located (disk : Disk) (same : disk = start.disk) := congrArg Disk.temporaryDirectory same
  have makes := makeFresh_makes .directory located purposePlain suffixPlain start rfl
  rw [lost] at makes
  obtain _ | ⟨_, same⟩ := makes
  exact same

end Making

omit [Quantity α] in
theorem Leaves.of_same {before after : Workspace} {changed early : Place → Prop}
    (disk : after.disk = before.disk) (calls : after.calls = before.calls) :
    Leaves before changed early after where
  disk := disk ▸ .refl _
  calls := ⟨[], calls.trans (List.append_nil _).symm, fun _ => disk ▸ .refl _⟩

omit [Quantity α] in
/-- When the directory is taken away, so is all that has changed in it. -/
theorem Leaves.discard {start workspace : Workspace} (rooted : start.disk.Rooted)
    (made : MadeFor start directory begun)
    (leaves : Leaves begun (Within begun directory output) (directory.names <+: ·) workspace) :
    Leaves start (begun.disk.find output.text = .ok ·) (fun _ => False)
      (Montage.discard directory workspace) := by
  obtain ⟨disk, added, calls, early⟩ := leaves
  refine ⟨?_, added, ?_, fun reached => ?_⟩
  · refine (disk.discard rooted made.absent made.deep made.disk made.found).mono ?_
    rintro place ⟨inside | video, outside⟩
    · exact absurd inside outside
    · exact video
  · rw [calls_discard, calls, made.calls]
  · refine ((early reached).discard rooted made.absent made.deep made.disk made.found).mono ?_
    rintro place ⟨inside, outside⟩
    exact outside inside

/-- A rendering leaves the files as they were but for its video, however the tool answers and wherever
it stops, and if it stops before the last stage, it leaves them all as they were. The path of the video
may lead through the directory of the rendering, so where it leads is asked when there is one. -/
theorem render_restores {start : Workspace} (writes : renderer.toolbox.WritesLast)
    (plain : start.disk.temporaryDirectory.Plain) (rooted : start.disk.Rooted)
    (plan : RenderPlan α) (output : Path) :
    let begun := ((makeFresh "composition-" "" .directory).on start).2
    Leaves start (begun.disk.find output.text = .ok ·) (fun _ => False)
      ((renderer.render plan output).on start).2 := by
  intro begun
  by_cases several : plan.scenes = []
  · have ended : ((renderer.render plan output).on start).2 = start := by
      rw [render, several]
      rfl
    exact .of_same (congrArg Workspace.disk ended) (congrArg Workspace.calls ended)
  rcases made : (makeFresh "composition-" "" .directory).on start with ⟨failure | directory, after⟩
  · obtain rfl : begun = after := congrArg Prod.snd made
    have full : plan.scenes.isEmpty = false := by simpa using several
    have ended : ((renderer.render plan output).on start).2 = begun := by
      rw [render, full, if_neg Bool.false_ne_true, Action.on_bind, made]
    have lost := makeFresh_lost (by decide) (by decide) made
    exact .of_same ((congrArg Workspace.disk ended).trans lost)
      ((congrArg Workspace.calls ended).trans (makeFresh_calls ..))
  · obtain rfl : begun = after := congrArg Prod.snd made
    clear_value begun
    have fresh := makeFresh_made plain (by decide) (by decide) made
    have idle : Underway begun directory begun :=
      ⟨.refl _, [], (List.append_nil _).symm, List.forall_mem_nil _⟩
    have leaves : Leaves begun (Within begun directory output) (directory.names <+: ·)
        ((renderer.renderIn plan directory output).on begun).2 :=
      renderIn_leaves writes fresh.downward fresh.deep begun idle
    rw [on_render several made]
    exact leaves.discard rooted fresh

end Renderer

/-- The stand-in for the tool writes its output, which is the last argument. -/
theorem Rehearsal.runner_writesLast {installation : Installation} {script : List Rehearsal.Cue} :
    Toolbox.WritesLast ⟨installation, Rehearsal.runner script⟩ := by
  intro past call disk
  dsimp only [Rehearsal.runner]
  split
  · exact .refl disk
  · exact .refl disk
  · unfold Rehearsal.improvise
    dsimp only
    split
    · exact .refl disk
    split
    · exact .refl disk
    split
    · rename_i last written
      refine (Disk.SameBut.of_write written).mono fun place found => ?_
      cases named : call.arguments.getLast? with
      | some file =>
        rw [Rehearsal.lastArgument, named] at found
        exact ⟨file, rfl, found⟩
      | none =>
        rw [Rehearsal.lastArgument, named] at found
        cases found
    · exact .refl disk

namespace Renderer

/-- A video in the directory for temporary files. -/
def filmed : Workspace :=
  ⟨⟨[(["tmp"], .directory), (["tmp", "video.mp4"], .file [1])], [], ["tmp"]⟩, 0, 0, 0, []⟩

theorem filmed_rooted : filmed.disk.Rooted := by
  intro place name there
  rcases place with _ | ⟨upper, _ | ⟨second, rest⟩⟩
  · rfl
  · by_cases temporary : upper = "tmp"
    · exact temporary ▸ rfl
    · have other : (upper == "tmp") = false := beq_eq_false_iff_ne.mpr temporary
      simp [filmed, Disk.entry?, List.lookup_cons, other] at there
  · have deeper : (rest ++ [name]).isEmpty = false := by simp
    simp [filmed, Disk.entry?, List.lookup_cons, deeper] at there

/-- If the clips cannot be joined, the video that was there is there still. -/
theorem fadingCover_restored :
    let combine : Rehearsal.Cue := ⟨combineStage, .report ⟨some 1, "out of memory", false⟩⟩
    let renderer : Renderer := ⟨⟨⟨none, "tool"⟩, Rehearsal.runner [combine]⟩, none, stageTimeout⟩
    let finish := (renderer.render fadingCover (.ofText "/tmp/video.mp4")).on filmed
    finish.1.isOk = false ∧ finish.2.calls.length = 3 ∧
      filmed.disk.SameBut (fun _ => False) finish.2.disk := by
  intro combine renderer finish
  have early : finish.1.isOk = false ∧ finish.2.calls.length = 3 ∧
      ∀ call ∈ finish.2.calls, call.stage ≠ muxStage := by
    decide +kernel
  obtain ⟨failed, three, early⟩ := early
  have writes : renderer.toolbox.WritesLast := Rehearsal.runner_writesLast
  obtain ⟨_, calls, same, restored⟩ := @render_restores _ _ _ filmed writes
    (by decide) filmed_rooted fadingCover (.ofText "/tmp/video.mp4")
  have ran : (renderer.render fadingCover (.ofText "/tmp/video.mp4")).on filmed = finish := rfl
  rw [ran] at same restored
  refine ⟨failed, three, restored fun call member => early call ?_⟩
  rw [same]
  exact List.mem_append_right _ member

end Renderer

end Montage
