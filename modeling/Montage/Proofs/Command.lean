import Montage.Command
import Montage.Proofs.Outcome

/-! The arguments for a stage can be written whenever the numbers of the plan can be. -/

namespace Montage

variable {α β γ : Type}

/-- A computation with numbers that succeeds. -/
def Written (result : Except Fault β) : Prop := ∃ value, result = .ok value

theorem Written.pure (value : β) : Written (pure value : Except Fault β) := ⟨value, rfl⟩

theorem Written.bind {result : Except Fault β} {next : β → Except Fault γ} (first : Written result)
    (rest : ∀ found, Written (next found)) : Written (result >>= next) := by
  obtain ⟨found, rfl⟩ := first
  exact rest found

theorem Written.map {result : Except Fault β} (written : Written result) (change : β → γ) :
    Written (result.map change) := by
  obtain ⟨found, rfl⟩ := written
  exact ⟨change found, rfl⟩

variable [Quantity α]

/-- Quantities among which sums and differences stay, all of which can be written. -/
structure Writable (good : α → Prop) : Prop where
  ofDouble : ∀ value, good (Quantity.ofDouble value)
  add : ∀ {left right}, good left → good right →
    ∃ sum, Quantity.add left right = .ok sum ∧ good sum
  sub : ∀ {left right}, good left → good right →
    ∃ difference, Quantity.sub left right = .ok difference ∧ good difference
  fixed : ∀ {value}, good value → Written (decimals value)

/-- The numbers of a scene. -/
structure ScenePlan.Among (good : α → Prop) (scene : ScenePlan α) : Prop where
  duration : good scene.duration
  clipStart : good scene.clipStart
  transitionLength : good scene.transitionLength
  caption : ∀ caption ∈ scene.caption, good caption.start ∧ good caption.stop
  grade : ∀ edit ∈ scene.visualEdit, ∀ grade ∈ edit.grade,
    good grade.brightness ∧ good grade.contrast ∧ good grade.saturation
  overlay : ∀ edit ∈ scene.visualEdit, ∀ overlay ∈ edit.overlay, good overlay.opacity

section Filters

variable {good : α → Prop} (writable : Writable good) {scene : ScenePlan α} {width height : Int}

include writable

theorem motionFilter_written {motion : Motion} {duration : α} (known : good duration) :
    Written (motionFilter motion duration width height) :=
  (writable.fixed known).bind fun _ => .pure _

theorem isOff_written {quantity : α} {neutral : Binary64} (known : good quantity) :
    Written (isOff quantity (Quantity.ofDouble neutral)) := by
  obtain ⟨difference, same, _⟩ := writable.sub known (writable.ofDouble neutral)
  rw [isOff, same]
  exact .pure _

theorem ColorGrade.filter_written {grade : ColorGrade α} (brightness : good grade.brightness)
    (contrast : good grade.contrast) (saturation : good grade.saturation) :
    Written grade.filter :=
  (writable.fixed brightness).bind fun _ => (writable.fixed contrast).bind fun _ =>
    (writable.fixed saturation).bind fun _ => .pure _

theorem gradeFilters_written {grade : Option (ColorGrade α)}
    (known : ∀ grade' ∈ grade, good grade'.brightness ∧ good grade'.contrast ∧
      good grade'.saturation) : Written (gradeFilters grade) := by
  cases grade with
  | none => exact .pure _
  | some grade =>
    obtain ⟨brightness, contrast, saturation⟩ := known grade rfl
    have adjusts : Written grade.adjusts := by
      unfold ColorGrade.adjusts
      split
      · exact .pure _
      · refine (isOff_written writable contrast).bind fun off => ?_
        cases off with
        | true => exact .pure _
        | false => exact isOff_written writable saturation
    refine adjusts.bind fun found => ?_
    cases found with
    | true => exact (grade.filter_written writable brightness contrast saturation).bind fun _ => .pure _
    | false => exact .pure _

theorem overlayFilters_written {overlay : Option (Overlay α)}
    (known : ∀ overlay' ∈ overlay, good overlay'.opacity) : Written (overlayFilters overlay) := by
  cases overlay with
  | none => exact .pure _
  | some overlay =>
    unfold overlayFilters
    dsimp only
    split
    · exact ((writable.fixed (known overlay rfl)).bind fun _ => .pure _).map _
    · exact .pure _

theorem editFilters_written (among : scene.Among good) : Written (editFilters scene.visualEdit) := by
  cases present : scene.visualEdit with
  | none => exact .pure _
  | some edit =>
    refine (gradeFilters_written writable (among.grade edit present)).bind fun _ => ?_
    exact (overlayFilters_written writable (among.overlay edit present)).bind fun _ => .pure _

theorem captionFilters_written (among : scene.Among good) :
    Written (captionFilters scene.caption width height) := by
  cases present : scene.caption with
  | none => exact .pure _
  | some caption =>
    obtain ⟨start, stop⟩ := among.caption caption present
    have settings : Written (caption.settings width height) :=
      (writable.fixed start).bind fun _ => (writable.fixed stop).bind fun _ => .pure _
    exact (settings.bind fun _ => .pure _).map _

theorem motionFilters_written (among : scene.Among good) :
    Written (scene.motionFilters width height) := by
  unfold ScenePlan.motionFilters
  split
  · exact .pure _
  · exact .pure _
  · exact (motionFilter_written writable among.duration).map _

theorem chain_written (among : scene.Among good) : Written (scene.chain width height) := by
  have filters : Written (scene.filters width height) :=
    (motionFilters_written writable among).bind fun _ =>
      (editFilters_written writable among).bind fun _ =>
        (captionFilters_written writable among).bind fun _ => .pure _
  exact filters.bind fun _ => .pure _

/-- The command that renders a scene. -/
theorem ScenePlan.command_written (among : scene.Among good) (tool : String) (asset : Path)
    (preset : Preset) (output : Path) : Written (scene.command tool asset preset output) := by
  have seconds := writable.fixed among.duration
  unfold ScenePlan.command
  cases scene.kind with
  | image =>
    exact seconds.bind fun _ => (chain_written writable among).bind fun _ => .pure _
  | video =>
    exact (writable.fixed among.clipStart).bind fun _ =>
      seconds.bind fun _ => (chain_written writable among).bind fun _ => .pure _

end Filters

section Graphs

variable {good : α → Prop} (writable : Writable good) {scenes : List (ScenePlan α)}

include writable

theorem ScenePlan.blendLength_good {scene : ScenePlan α} (among : scene.Among good) :
    good scene.blendLength := by
  unfold ScenePlan.blendLength
  split
  · exact among.transitionLength
  · exact writable.ofDouble cutBlend

/-- Induction on the scenes: the length of what is joined so far stays a quantity that can be
written. -/
theorem blendsAfter_written {joined : α} (known : good joined)
    (among : ∀ scene ∈ scenes, scene.Among good) :
    ∃ blends, blendsAfter joined scenes = .ok blends ∧
      ∀ blend ∈ blends, good blend.length ∧ good blend.offset := by
  induction scenes generalizing joined with
  | nil => exact ⟨[], rfl, nofun⟩
  | cons scene rest ih =>
    obtain ⟨here, later⟩ := List.forall_mem_cons.mp among
    have length := scene.blendLength_good writable here
    obtain ⟨start, started, startGood⟩ := writable.sub known length
    obtain ⟨net, shortened, netGood⟩ := writable.sub here.duration length
    obtain ⟨grown, added, grownGood⟩ := writable.add known netGood
    obtain ⟨blends, same, all⟩ := ih grownGood later
    rw [blendsAfter]
    simp only [started, shortened, bind, Except.bind, added, same]
    refine ⟨_, rfl, List.forall_mem_cons.mpr ⟨⟨length, ?_⟩, all⟩⟩
    dsimp only
    split
    · exact writable.ofDouble .zero
    · exact startGood

theorem blendFilters_written {index : Nat} {blends : List (Blend α)}
    (known : ∀ blend ∈ blends, good blend.length ∧ good blend.offset) :
    Written (blendFilters index blends) := by
  induction blends generalizing index with
  | nil => exact .pure _
  | cons blend rest ih =>
    obtain ⟨⟨length, offset⟩, later⟩ := List.forall_mem_cons.mp known
    have filter : Written (blend.filter index) :=
      (writable.fixed length).bind fun _ => (writable.fixed offset).bind fun _ => .pure _
    exact filter.bind fun _ => (ih later).bind fun _ => .pure _

/-- The graph that blends clips. -/
theorem crossfadeGraph_written (some : scenes ≠ []) (among : ∀ scene ∈ scenes, scene.Among good) :
    Written (crossfadeGraph scenes) := by
  cases scenes with
  | nil => exact absurd rfl some
  | cons first rest =>
    obtain ⟨here, later⟩ := List.forall_mem_cons.mp among
    obtain ⟨blends, same, known⟩ := blendsAfter_written writable here.duration later
    have blended : Montage.blends (first :: rest) = .ok blends := same
    rw [crossfadeGraph, blended]
    exact (blendFilters_written writable known).bind fun _ => .pure _

end Graphs

/-- The arguments for every stage of a plan can be written. -/
structure RenderPlan.Writable (plan : RenderPlan α) : Prop where
  scene : ∀ scene ∈ plan.scenes, ∀ tool asset output,
    Written (scene.command tool asset plan.preset output)
  graph : plan.hasCrossfade = true → Written (crossfadeGraph plan.scenes)

theorem RenderPlan.writable_of_among {good : α → Prop} (writable : Montage.Writable good)
    {plan : RenderPlan α} (among : ∀ scene ∈ plan.scenes, scene.Among good) : plan.Writable where
  scene scene member tool asset output :=
    scene.command_written writable (among scene member) tool asset plan.preset output
  graph crossfade := by
    refine crossfadeGraph_written writable ?_ among
    rintro none
    simp [RenderPlan.hasCrossfade, none] at crossfade

/-- Doubles can always be written; whole numbers beyond their range cannot. -/
theorem doubles_writable : Writable fun number : Number => ∃ value, number = .double value where
  ofDouble value := ⟨value, rfl⟩
  add := by
    rintro _ _ ⟨left, rfl⟩ ⟨right, rfl⟩
    exact ⟨_, rfl, left + right, rfl⟩
  sub := by
    rintro _ _ ⟨left, rfl⟩ ⟨right, rfl⟩
    exact ⟨_, rfl, left - right, rfl⟩
  fixed := by
    rintro _ ⟨value, rfl⟩
    exact ⟨_, rfl⟩

/-- A plan whose numbers are doubles. -/
theorem RenderPlan.writable_of_doubles {plan : RenderPlan Number}
    (doubles : ∀ scene ∈ plan.scenes, scene.Among fun number => ∃ value, number = .double value) :
    plan.Writable :=
  writable_of_among doubles_writable doubles

section Arguments

variable {tool : String} {asset output visual : Path} {arguments : List String}

/-- The last argument of a stage names the file that it writes. -/
theorem ScenePlan.command_last {scene : ScenePlan α} {preset : Preset}
    (written : scene.command tool asset preset output = .ok arguments) :
    arguments.getLast? = some output.text := by
  unfold ScenePlan.command at written
  split at written
  · simp only [imageCommand, Except.bind_eq_ok, Except.pure_eq_ok] at written
    obtain ⟨_, _, _, _, rfl⟩ := written
    exact List.getLast?_concat
  · simp only [videoCommand, Except.bind_eq_ok, Except.pure_eq_ok] at written
    obtain ⟨_, _, _, _, _, _, rfl⟩ := written
    exact List.getLast?_concat

theorem combineCommand_last {clips : List Path} {scenes : List (ScenePlan α)} {crossfade : Bool}
    (written : combineCommand tool clips scenes output crossfade = .ok arguments) :
    arguments.getLast? = some output.text := by
  simp only [combineCommand, Except.bind_eq_ok, Except.pure_eq_ok] at written
  obtain ⟨_, _, rfl⟩ := written
  exact List.getLast?_concat

theorem combineCommand_written {plan : RenderPlan α} (writable : plan.Writable)
    (clips : List Path) :
    Written (combineCommand tool clips plan.scenes visual plan.hasCrossfade) := by
  have graph : Written (joinGraph clips plan.scenes plan.hasCrossfade) := by
    unfold joinGraph
    split
    · rename_i crossfade
      exact (writable.graph crossfade).bind fun _ => .pure _
    · exact .pure _
  exact graph.bind fun _ => .pure _

end Arguments

end Montage
