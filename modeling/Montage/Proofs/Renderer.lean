import Mathlib.Data.List.Nodup
import Mathlib.Data.List.ReduceOption
import Montage.Proofs.Command
import Montage.Proofs.File.Beside
import Montage.Proofs.Number.Numeral
import Montage.Proofs.Trace
import Montage.Renderer
import Montage.Tool.Rehearsal

/-! The stages of a rendering: they are carried out in order, the first one that fails is the last
one, and the error tells of it. -/

namespace Montage

/-- A call of the tool for a stage, with the answer of the tool. -/
structure Served where
  call : Call
  answer : Except SystemError ToolResult

namespace Served

def stage (served : Served) : String := served.call.stage

/-- The tool was started, ended in time and reported success. -/
def Succeeded (served : Served) : Prop :=
  ∃ result, served.answer = .ok result ∧ result.timedOut = false ∧ result.exit = some 0

/-- What the tool wrote, nothing if it could not be started. -/
def output (served : Served) : String :=
  match served.answer with
  | .ok result => result.output
  | .error _ => ""

/-- Why the stage failed, if it did. -/
def error? (served : Served) : Option StageError :=
  match served.answer with
  | .error cause => some (.notStarted cause)
  | .ok result =>
    if result.timedOut then some (.timedOut result.output)
    else if result.exit != some 0 then some (.failed result.exit result.output)
    else none

variable {served : Served} {error : StageError}

theorem error?_eq_none : served.error? = none ↔ served.Succeeded := by
  unfold error? Succeeded
  cases served.answer with
  | error cause => simp
  | ok result => cases late : result.timedOut <;> simp [late]

theorem output_eq (failed : served.error? = some error) : error.output = served.output := by
  unfold error? at failed
  unfold output
  cases answer : served.answer with
  | error cause =>
    rw [answer] at failed
    obtain rfl := Option.some.inj failed
    rfl
  | ok result =>
    rw [answer] at failed
    dsimp only at failed
    split at failed
    · obtain rfl := Option.some.inj failed
      rfl
    · split at failed
      · obtain rfl := Option.some.inj failed
        rfl
      · cases failed

end Served

/-- What a clip needs: the last argument names a file, and no directory is new. -/
structure Delivery (arguments : List String) (disk last : Disk) : Prop where
  written : ∀ output ∈ arguments.getLast?, (last.file? output).isSome = true
  directories : ∀ place, last.entry? place = some .directory → disk.entry? place = some .directory

/-- Whenever the tool reports that a scene was rendered, its clip is there. -/
def Toolbox.Delivers (toolbox : Toolbox) : Prop :=
  ∀ past call disk result last index, call.stage = Renderer.sceneStage index →
    toolbox.run past call disk = (.ok result, last) → result.ok = true →
      Delivery call.arguments disk last

namespace Renderer

variable {α β γ : Type} {renderer : Renderer} {stage : String} {arguments : List String}

def serve (renderer : Renderer) (stage : String) (arguments : List String) (start : Workspace) :
    Served × Workspace :=
  let call := Call.make stage arguments renderer.timeout start.disk
  let (answer, disk) := renderer.toolbox.run start.calls call start.disk
  (⟨call, answer⟩, { start.note (.called call) with disk })

/-- A step of a rendering: a call of the tool, or a clip that is copied. -/
inductive Step (renderer : Renderer) : Workspace → Option Served → Workspace → Prop where
  | call {start : Workspace} (stage : String) (arguments : List String) :
      Step renderer start (some (renderer.serve stage arguments start).1)
        (renderer.serve stage arguments start).2
  | copy {start : Workspace} {disk : Disk} {source target : String}
      (copied : start.disk.copyFile source target = .ok disk) :
      Step renderer start none { start with disk }

/-- The journal lists the calls of the tool, each with the time that a stage has. -/
theorem Step.calls {start last : Workspace} {labels : List (Option Served)}
    (trace : Trace renderer.Step start labels last) :
    last.calls = start.calls ++ labels.reduceOption.map Served.call ∧
      ∀ served ∈ labels.reduceOption, served.call.timeout = renderer.timeout := by
  induction trace with
  | nil => simp
  | @cons start _ _ _ _ first _ ih =>
    obtain ⟨calls, timeouts⟩ := ih
    cases first with
    | call stage arguments =>
      have noted : (renderer.serve stage arguments start).2.calls =
          start.calls ++ [(renderer.serve stage arguments start).1.call] := by
        simp [serve, Workspace.calls, Workspace.note]
      rw [List.reduceOption_cons_of_some, List.map_cons, List.forall_mem_cons]
      exact ⟨by rw [calls, noted, List.append_assoc, List.singleton_append], rfl, timeouts⟩
    | copy copied => exact ⟨calls, timeouts⟩

/-- A stage succeeds, or fails with an error that tells of it. -/
theorem on_runStage (stage : String) (arguments : List String) (start : Workspace) :
    (renderer.runStage stage arguments).on start =
      (match (renderer.serve stage arguments start).1.error? with
        | none => .ok ()
        | some error => .error (.render stage error), (renderer.serve stage arguments start).2) := by
  have invoked : (renderer.toolbox.invoke stage arguments renderer.timeout).on start =
      ((renderer.serve stage arguments start).1.answer.mapError .system,
        (renderer.serve stage arguments start).2) := rfl
  rw [runStage, Action.on_bind, Action.on_attempt, invoked, Served.error?]
  cases (renderer.serve stage arguments start).1.answer with
  | error cause => rfl
  | ok result =>
    dsimp only [Except.mapError]
    split
    · rfl
    · split <;> rfl

theorem runStage_calls (stage : String) (arguments : List String) (start : Workspace) :
    ((renderer.runStage stage arguments).on start).2.calls =
      start.calls ++ [Call.make stage arguments renderer.timeout start.disk] := by
  rw [on_runStage]
  simp [serve, Workspace.calls, Workspace.note]

/-- How calls for stages go: all succeed, or the last one fails. -/
inductive Conducted (stages : List String) (calls : List Served) : Except Failure β → Prop where
  | finished {value : β} (all : calls.map Served.stage = stages)
      (good : ∀ call ∈ calls, call.Succeeded) : Conducted stages calls (.ok value)
  | stopped {before : List Served} {last : Served} {error : StageError}
      (listed : calls = before ++ [last]) (among : calls.map Served.stage <+: stages)
      (good : ∀ call ∈ before, call.Succeeded) (failed : last.error? = some error) :
      Conducted stages calls (.error (.render last.stage error))

/-- From a workspace that is as required, an operation goes through stages, and if all succeed it
leaves a workspace that is as promised. -/
def Conducts (renderer : Renderer) (required : Workspace → Prop) (stages : List String)
    (action : Action β) (promised : β → Workspace → Prop) : Prop :=
  ∀ start, required start → ∃ labels, Trace renderer.Step start labels (action.on start).2 ∧
    Conducted stages (labels.reduceOption) (action.on start).1 ∧
    ∀ value, (action.on start).1 = .ok value → promised value (action.on start).2

section Conducting

variable {required middle : Workspace → Prop} {stages more : List String} {action : Action β}
  {next : β → Action γ} {promised : γ → Workspace → Prop} {reached : β → Workspace → Prop}

theorem Conducted.append {first rest : List Served} {value : β} {outcome : Except Failure γ}
    (done : Conducted stages first (.ok value : Except Failure β))
    (later : Conducted more rest outcome) : Conducted (stages ++ more) (first ++ rest) outcome := by
  cases done with
  | finished all good =>
    cases later with
    | finished allLater goodLater =>
      refine .finished (by rw [List.map_append, all, allLater]) ?_
      exact List.forall_mem_append.mpr ⟨good, goodLater⟩
    | @stopped before last error listed among goodBefore failed =>
      have split : first ++ rest = first ++ before ++ [last] := by rw [listed, List.append_assoc]
      refine .stopped split ?_ (List.forall_mem_append.mpr ⟨good, goodBefore⟩) failed
      rw [List.map_append, all]
      exact (List.prefix_append_right_inj stages).mpr among

theorem Conducted.stop {calls : List Served} {failure : Failure} (more : List String)
    (stopped : Conducted stages calls (.error failure : Except Failure β)) :
    Conducted (stages ++ more) calls (.error failure : Except Failure γ) := by
  cases stopped with
  | stopped listed among good failed =>
    exact .stopped listed (among.trans (List.prefix_append ..)) good failed

/-- The stages of a sequence are those of its operations. -/
theorem Conducts.bind (first : renderer.Conducts required stages action reached)
    (rest : ∀ found, renderer.Conducts (reached found) more (next found) promised) :
    renderer.Conducts required (stages ++ more) (action >>= next) promised := by
  intro start right
  obtain ⟨labels, trace, conducted, establishes⟩ := first start right
  rw [Action.on_bind]
  generalize action.on start = result at trace conducted establishes ⊢
  obtain ⟨failure | found, between⟩ := result
  · exact ⟨labels, trace, conducted.stop more, nofun⟩
  · obtain ⟨others, traceLater, later, promised⟩ := rest found between (establishes found rfl)
    refine ⟨labels ++ others, trace.append traceLater, ?_, promised⟩
    rw [List.reduceOption_append]
    exact conducted.append later

theorem Conducts.pure {value : β} (known : ∀ workspace, required workspace → reached value workspace) :
    renderer.Conducts required [] (pure value) reached :=
  fun start right => ⟨[], .nil, .finished rfl (by simp), fun _ same =>
    Except.ok.inj same ▸ known start right⟩

end Conducting

/-- The file name of a clip. -/
theorem clipName_plain (index : Nat) : PlainName ("scene-" ++ digitsOf index ++ ".mp4") := by
  have start : ("scene-" ++ digitsOf index ++ ".mp4").toList.head? = some 's' := by simp
  have digits := digitsOf_slashless index
  constructor
  · intro empty
    simp [empty] at start
  · simp [digits]
  · intro dot
    simp [dot] at start
  · intro dots
    simp [dots] at start

variable [Quantity α]

/-- The stages for scenes from a position on. -/
def sceneStages (index count : Nat) : List String :=
  (List.range' index count).map sceneStage

section Scenes

variable {plan : RenderPlan α} {directory : Path} {place : Place}

end Scenes

/-- The stage that joins this many clips, if they have to be joined. -/
def joinStages (count : Nat) : List String :=
  if 2 ≤ count then [combineStage] else []

/-- The stages of a rendering of this many scenes. -/
def stages (count : Nat) : List String :=
  sceneStages 0 count ++ joinStages count ++ [muxStage]

/-- What a rendering comes to: its stages are carried out in order, none twice. It succeeds if all
are and succeed, else the last one failed, which the error tells of with what the tool wrote. -/
structure Protocol (stages : List String) (calls : List Served) (outcome : Except Failure Unit) :
    Prop where
  order : calls.map Served.stage <+: stages
  once : (calls.map Served.stage).Nodup
  succeeds : outcome = .ok () ↔
    calls.map Served.stage = stages ∧ ∀ call ∈ calls, call.Succeeded
  fails : outcome ≠ .ok () → ∃ before last error, calls = before ++ [last] ∧
    (∀ call ∈ before, call.Succeeded) ∧ last.error? = some error ∧
    outcome = .error (.render last.stage error) ∧ error.output = last.output

theorem Protocol.complete {stages : List String} {calls : List Served}
    {outcome : Except Failure Unit} (protocol : Protocol stages calls outcome)
    (fine : outcome.isOk = true) : calls.map Served.stage = stages := by
  cases outcome with
  | error failure => cases fine
  | ok value => exact (protocol.succeeds.mp rfl).1

theorem sceneStage_injective : Function.Injective sceneStage := fun _ _ same =>
  digitsOf_injective (String.append_right_inj _ |>.mp same)

/-- The stages of scenes all begin alike. -/
theorem sceneStage_ne {name : String} {index : Nat} (other : name.toList.head? ≠ some 'r') :
    sceneStage index ≠ name := by
  rintro rfl
  refine other ?_
  rw [sceneStage, String.toList_append]
  rfl

theorem Conducted.protocol {calls : List Served} {outcome : Except Failure Unit} {stages : List String}
    (distinct : stages.Nodup) (conducted : Conducted stages calls outcome) :
    Protocol stages calls outcome := by
  cases conducted with
  | @finished value all good =>
    exact ⟨all ▸ List.prefix_rfl, all ▸ distinct, by simpa [all] using good, by simp⟩
  | @stopped before last error listed among good failed =>
    refine ⟨among, distinct.sublist among.sublist, ?_, fun _ => ?_⟩
    · simp only [reduceCtorEq, false_iff, not_and]
      intro _ all
      have succeeded := all last (by simp [listed])
      rw [← Served.error?_eq_none, failed] at succeeded
      cases succeeded
    · exact ⟨before, last, error, listed, good, failed, rfl, Served.output_eq failed⟩

section Rendering

variable {plan : RenderPlan α} {start begun : Workspace} {directory : Path}

theorem calls_discard (path : Path) (workspace : Workspace) :
    (discard path workspace).calls = workspace.calls := rfl

/-- A directory that is made for a rendering, where nothing was. -/
structure MadeFor (start : Workspace) (directory : Path) (begun : Workspace) : Prop where
  downward : directory.Downward
  deep : directory.names ≠ []
  absent : start.disk.entry? directory.names = none
  disk : begun.disk = start.disk.put directory.names .directory
  found : begun.disk.find directory.text = .ok directory.names
  calls : begun.calls = start.calls

theorem makeFresh_made {purpose suffix : String} (plain : start.disk.temporaryDirectory.Plain)
    (purposePlain : '/' ∉ purpose.toList) (suffixPlain : '/' ∉ suffix.toList)
    (made : (makeFresh purpose suffix .directory).on start = (.ok directory, begun)) :
    MadeFor start directory begun := by
  obtain ⟨name, _, temporary, rfl, absent, found, rfl⟩ :=
    makeFresh_ok plain purposePlain suffixPlain made
  have names := Place.textOf_names plain temporary.plain
  have text := Place.textOf_text plain temporary.plain
  refine ⟨Place.textOf_downward plain temporary.plain, by simp [names], names ▸ absent,
    by rw [names], ?_, rfl⟩
  rw [text, names]
  refine Disk.find_mono Disk.put_workingDirectory (fun upper inside => ?_) found
  rw [Disk.entry_put (by simp), inside, ite_self]

/-- The stages of a rendering in a directory. -/
def renderIn (renderer : Renderer) (plan : RenderPlan α) (directory output : Path) :
    Action Unit := do
  let clips ← renderer.renderScenes plan directory 0 plan.scenes
  renderer.joinClips plan clips (directory.child "visual.mp4")
  renderer.runStage muxStage
    (muxCommand renderer.toolName plan.audio (directory.child "visual.mp4") output)

/-- A rendering takes its directory away, whatever the stages come to. -/
theorem on_render (several : plan.scenes ≠ [])
    (made : (makeFresh "composition-" "" .directory).on start = (.ok directory, begun))
    (output : Path) :
    (renderer.render plan output).on start =
      (((renderer.renderIn plan directory output).on begun).1,
        discard directory ((renderer.renderIn plan directory output).on begun).2) := by
  have full : plan.scenes.isEmpty = false := by simpa using several
  rw [render, full]
  simp only [Bool.false_eq_true, if_false]
  rw [Action.on_bind, made]
  rfl

end Rendering

end Renderer

/-- A disk with a directory for temporary files. -/
def Workspace.bare : Workspace := ⟨⟨[(["tmp"], .directory)], [], ["tmp"]⟩, 0, 0, 0, []⟩

theorem Workspace.bare_rooted : bare.disk.Rooted := by
  intro place name there
  cases place with
  | nil => rfl
  | cons upper rest =>
    have deeper : (rest ++ [name]).isEmpty = false := by simp
    simp [bare, Disk.entry?, List.lookup_cons, deeper] at there

def coverScene (transition : TransitionKind) (duration length : Binary64) : ScenePlan Number where
  asset := "cover"
  kind := .image
  duration := .double duration
  clipStart := .double .zero
  motion := .none
  caption := none
  transition := transition
  transitionLength := .double length
  visualEdit := none

/-- An image that fades into itself. -/
def fadingCover : RenderPlan Number where
  preset := .square
  scenes := [coverScene .cut (.nearestInt 4) .zero,
    coverScene .crossfade (.nearestInt 3) (.nearestInt 1)]
  audio := .ofText "/audio.wav"
  assetPaths := [("cover", .ofText "/cover.png")]
  total := .double (.nearestInt 6)

/-- A renderer that calls a stand-in for the tool. -/
def Renderer.rehearsed : Renderer :=
  ⟨⟨⟨none, "tool"⟩, Rehearsal.runner []⟩, none, stageTimeout⟩

end Montage
