import Montage.Proofs.Job.Fulfilled
import Montage.Proofs.Renderer

/-! The renderer and the prober work beside the temporary files that are there: they change none but the
one that they render to, if the tool writes to none but the one that its last argument names. Probing
leaves the uploads as they are, if the tool only looks at what it reports on. -/

namespace Montage

variable {α : Type} {directory : Place} {held : Holding} {disk last : Disk} {base output : Path}
  {name : String}

/-- None of the files that hold something has this path. -/
def Holding.Avoids (held : Holding) (text : String) : Prop :=
  ∀ file content, held file content → file.text ≠ text

/-- The tool changes no temporary file but the one that its last argument names. -/
def Toolbox.Discreet (toolbox : Toolbox) (directory : Place) : Prop :=
  ∀ (held : Holding) (past : List Call) (call : Call) (disk : Disk), disk.Guards directory held →
    (∀ text ∈ call.arguments.getLast?, held.Avoids text) →
      (toolbox.run past call disk).2.Guards directory held

namespace Holding.Spares

/-- A temporary file is told by its path. -/
theorem avoids (spare : held.Spares directory output) (guards : disk.Guards directory held) :
    held.Avoids output.text := by
  intro file content inside same
  have temporary := (guards.files file content inside).temporary
  rw [guards.text_eq temporary, guards.text_eq spare.temporary] at same
  have own : file = output := by rw [temporary.written, spare.temporary.written, same]
  exact spare.unheld content (own ▸ inside)

end Holding.Spares

section Deeper

variable (deeper : directory.length < base.names.length) (downward : base.Downward)

include deeper downward

/-- What is in a directory beside the temporary files is none of them. -/
theorem Disk.Guards.avoids_child (guards : disk.Guards directory held) (plain : PlainName name) :
    held.Avoids (base.child name).text := by
  intro file content inside same
  have temporary := (guards.files file content inside).temporary
  have names : file.names = directory ++ [file.name] := temporary.names_eq guards.plain
  have above : file.Downward := by
    rw [temporary.written]
    exact Place.textOf_downward guards.plain temporary.name.plain
  have pieces := (downward.child plain).pieces (by simp [Path.child_plain plain])
  rw [← same, above.pieces (by simp [names])] at pieces
  have lengths := congrArg List.length pieces
  rw [Path.child_plain plain] at lengths
  simp [names] at lengths
  omega

theorem Disk.Guards.write_child {content : Bytes} (guards : disk.Guards directory held)
    (plain : PlainName name) (written : disk.write (base.child name).text content = .ok last) :
    last.Guards directory held := by
  have deep : base.names ≠ [] := List.ne_nil_of_length_pos (by omega)
  obtain ⟨place, found, _, rfl⟩ := Disk.write_eq_ok.mp written
  have reached := Disk.find_child_place downward deep plain found
  have below : place ≠ [] := by simp [reached]
  refine guards.congr Disk.put_temporaryDirectory (fun other short => ?_) fun file content inside => ?_
  · rw [Disk.entry_put below, if_neg]
    rintro rfl
    simp [reached] at short
    omega
  · rw [Disk.entry_put below, if_neg]
    intro same
    have names := (guards.files file content inside).temporary.names_eq guards.plain
    have lengths := congrArg List.length (names.symm.trans (same.trans reached))
    simp at lengths
    omega

end Deeper

section Commands

variable [Quantity α] {tool : String} {arguments : List String}

theorem stillCommand_last {image audio : Path} {duration : α}
    (written : stillCommand tool image audio duration output = .ok arguments) :
    arguments.getLast? = some output.text := by
  simp only [stillCommand, Except.bind_eq_ok, Except.pure_eq_ok] at written
  obtain ⟨_, _, rfl⟩ := written
  simp [videoCodec, audioCodec]

end Commands

section Rendering

variable [Quantity α] {renderer : Renderer} {stage : String} {arguments : List String}
  (discreet : renderer.toolbox.Discreet directory)

include discreet

namespace Renderer

/-- A stage changes no file but the one that its last argument names. -/
theorem runStage_guards (avoids : ∀ text ∈ arguments.getLast?, held.Avoids text) :
    (renderer.runStage stage arguments).Keeps (Disk.Guards directory held ·.disk) := by
  intro start guards
  rw [on_runStage]
  exact discreet held start.calls _ start.disk guards avoids

section Plans

variable {plan : RenderPlan α} (deeper : directory.length < base.names.length)
  (downward : base.Downward)

include deeper downward

theorem renderScenes_guards (scenes : List (ScenePlan α)) (index : Nat) :
    (renderer.renderScenes plan base index scenes).Keeps (Disk.Guards directory held ·.disk) := by
  induction scenes generalizing index with
  | nil => exact Action.keeps_pure []
  | cons scene rest ih =>
    rw [renderScenes]
    cases plan.assetPaths.get? scene.asset with
    | none => exact Action.keeps_throw _
    | some asset =>
      refine Action.keeps_lift_bind fun arguments written => ?_
      have last := ScenePlan.command_last (Except.mapError_eq_ok.mp written)
      refine Action.Keeps.bind (fun start guards => ?_) fun _ => (ih (index + 1)).bind fun _ =>
        Action.keeps_pure _
      refine runStage_guards discreet (fun text named => ?_) start guards
      obtain rfl := Option.some.inj (last.symm.trans named)
      exact guards.avoids_child deeper downward (clipName_plain index)

theorem joinClips_guards (clips : List Path) (plain : PlainName name) :
    (renderer.joinClips plan clips (base.child name)).Keeps (Disk.Guards directory held ·.disk) := by
  unfold joinClips
  split
  · refine Action.change_ensures (fun start disk guards copied => ?_) fun _ _ guards => guards
    obtain ⟨content, written⟩ := Disk.copyFile_written copied
    exact guards.write_child deeper downward plain written
  · refine Action.keeps_lift_bind fun arguments written start guards => ?_
    have last := combineCommand_last (Except.mapError_eq_ok.mp written)
    refine runStage_guards discreet (fun text named => ?_) start guards
    obtain rfl := Option.some.inj (last.symm.trans named)
    exact guards.avoids_child deeper downward plain

/-- The stages of a rendering write to the directory that they have for themselves, and to the video. -/
theorem renderIn_guards (spare : held.Spares directory output) :
    (renderer.renderIn plan base output).Keeps (Disk.Guards directory held ·.disk) := by
  refine (renderScenes_guards discreet deeper downward plan.scenes 0).bind fun clips => ?_
  refine (joinClips_guards discreet deeper downward clips (by decide)).bind fun _ start guards => ?_
  refine runStage_guards discreet (fun text named => ?_) start guards
  have last : (muxCommand renderer.toolName plan.audio (base.child "visual.mp4") output).getLast? =
      some output.text := by simp [muxCommand, audioCodec]
  obtain rfl := Option.some.inj (last.symm.trans named)
  exact spare.avoids guards

end Plans

/-- A rendering makes a directory for itself, and takes it away. -/
theorem render_guards {plan : RenderPlan α} (spare : held.Spares directory output) :
    (renderer.render plan output).Keeps (Disk.Guards directory held ·.disk) := by
  intro start guards
  by_cases several : plan.scenes = []
  · rw [render, several]
    exact guards
  have makes := @makeFresh_makesBeside _ held "composition-" "" .directory (by decide) (by decide) start
    guards
  rcases made : (makeFresh "composition-" "" .directory).on start with ⟨failure | work, begun⟩
  · have full : plan.scenes.isEmpty = false := by simpa using several
    rw [made] at makes
    rw [render, full, if_neg Bool.false_ne_true, Action.on_bind, made]
    exact makes.guards
  · rw [made] at makes
    rw [on_render several made]
    have own := makes.spares
    have names := own.temporary.names_eq guards.plain
    have downward : work.Downward := by
      rw [own.temporary.written]
      exact Place.textOf_downward guards.plain own.temporary.name.plain
    have stages : (renderer.renderIn plan work output).Keeps (Disk.Guards directory held ·.disk) :=
      renderIn_guards discreet (by simp [names]) downward spare
    have left := stages begun makes.guards
    exact (left.discard own.temporary).mono fun file content inside =>
      ⟨inside, fun member => own.unheld content (List.mem_singleton.mp member ▸ inside)⟩

theorem renderStill_guards {image audio : Path} {duration : α} (spare : held.Spares directory output) :
    (renderer.renderStill image audio duration output).Keeps (Disk.Guards directory held ·.disk) := by
  refine Action.keeps_lift_bind fun arguments written start guards => ?_
  have command := Except.mapError_eq_ok.mp written
  have last := stillCommand_last command
  refine runStage_guards discreet (fun text named => ?_) start guards
  obtain rfl := Option.some.inj (last.symm.trans named)
  exact spare.avoids guards

end Renderer

end Rendering

section Probing

variable {toolbox : Toolbox} (discreet : toolbox.Discreet directory)

include discreet

theorem probeFile_guards {text : String} (timeout : Number) (avoids : held.Avoids text) :
    (probeFile toolbox text timeout).Keeps (Disk.Guards directory held ·.disk) := by
  refine probeFile_keeps fun start guards => ?_
  refine discreet held start.calls _ start.disk guards fun named last => ?_
  obtain rfl : text = named := Option.some.inj last
  exact avoids

/-- Probing makes a copy for itself, and takes it away. -/
theorem probeUpload_guards (timeout : Number) (upload : Upload) :
    (probeUpload toolbox timeout upload).Keeps (Disk.Guards directory held ·.disk) := by
  refine (stage_guards upload (by decide) (assetSuffix_slashless upload)).attempt fun outcome => ?_
  cases outcome with
  | error failure =>
    rintro start (_ | ⟨guards⟩)
    cases failure <;> exact guards
  | ok file =>
    rintro start (⟨unheld, grown⟩ | _)
    obtain ⟨guards, bears⟩ := Disk.Guards.add_iff.mp grown
    have spare : held.Spares directory file := ⟨bears.temporary, unheld⟩
    have left := probeFile_guards discreet timeout (spare.avoids guards) start guards
    exact (left.discard spare.temporary).mono fun other content inside =>
      ⟨inside, fun member => unheld content (List.mem_singleton.mp member ▸ inside)⟩

end Probing

/-- The renderer and a prober that asks the tool are discreet if the tool is. -/
theorem Renderer.services_discreet [Quantity α] {renderer : Renderer} {toolbox : Toolbox}
    {publisher : Publisher} (rendering : renderer.toolbox.Discreet directory)
    (probing : toolbox.Discreet directory) (publishing : publisher.Discreet directory)
    (clock : Nat → Instant) (timeout : Number) :
    (renderer.services clock (fun upload => do
      return Quantity.ofDouble (← probeUpload toolbox timeout upload)) publisher :
        Services α).Discreet directory where
  renderStill _ _ _ _ _ spare := renderStill_guards rendering spare
  renderPlan _ _ _ spare := render_guards rendering spare
  prober _ upload := (probeUpload_guards probing timeout upload).bind fun _ => Action.keeps_pure _
  publisher := publishing

/-- A prober that asks the tool leaves the uploads of a request as they are. -/
theorem JobRequest.probed_untouched [Quantity α] {services : Services α} {submission : JobRequest α}
    {toolbox : Toolbox} {timeout : Number} {start : Workspace}
    (plain : start.disk.temporaryDirectory.Plain) (looks : toolbox.Looks)
    (probing : services.prober = fun upload => do
      return Quantity.ofDouble (← probeUpload toolbox timeout upload)) :
    submission.Untouched services start := by
  have keeps (upload : Upload) : (services.prober upload).Keeps (start.disk.Within [] ·.disk) := by
    rw [probing]
    exact (probeUpload_within plain looks).bind fun _ => Action.keeps_pure _
  have within := submission.check_keeps keeps start (.refl _)
  intro input _ upload _ content held
  exact Upload.content_mono (fun path _ read => within.read read) held

end Montage
