import Mathlib.Tactic.Ring
import Montage.Proofs.Command
import Montage.Proofs.Manifest.Validation
import Montage.Proofs.Number.Rational

/-! The length of a timeline, counted exactly, is the same wherever it is counted: when a manifest is
checked, when it is planned, and when its clips are blended. -/

namespace Montage

/-- What counts of a scene at a position that follows a scene shown for some seconds and is shown for
some seconds itself. -/
structure Scene.Follows (index : Nat) (previous : ℚ) (scene : Scene ℚ) (seconds : ℚ) : Prop where
  shown : scene.shown? = some seconds
  first : index = 0 → scene.crossfade? = none
  joins : ∀ length, scene.crossfade? = some length → ∃ overlap, length = some overlap ∧
    overlap < previous

/-- Scenes from a position on, each of which follows the one before. -/
inductive Succession : Nat → ℚ → List (Scene ℚ) → Prop where
  | nil {index : Nat} {previous : ℚ} : Succession index previous []
  | cons {index : Nat} {previous seconds : ℚ} {scene : Scene ℚ} {rest : List (Scene ℚ)}
      (here : scene.Follows index previous seconds) (later : Succession (index + 1) seconds rest) :
      Succession index previous (scene :: rest)

/-- How long a scene is shown. -/
def Scene.seconds (scene : Scene ℚ) : ℚ := scene.shown?.getD 0

/-- How long the crossfade takes that a scene begins with. -/
def Scene.overlap (scene : Scene ℚ) : ℚ := scene.crossfade?.join.getD 0

/-- By how much a scene makes a timeline longer. -/
def Scene.net (scene : Scene ℚ) : ℚ := scene.seconds - scene.overlap

/-- A scene says how long it is shown, and if it begins with a crossfade, how long that is. -/
structure Scene.Counted (scene : Scene ℚ) : Prop where
  shown : scene.shown? = some scene.seconds
  crossfade : (scene.crossfade? = none ∧ scene.overlap = 0) ∨
    scene.crossfade? = some (some scene.overlap)

/-- How long the scenes of a timeline are shown, and how long its crossfades are. -/
structure Measured (scenes : List (Scene ℚ)) (shown overlaps : List ℚ) : Prop where
  shown : scenes.map Scene.shown? = shown.map some
  overlaps : scenes.filterMap Scene.crossfade? = overlaps.map some

/-- A scene as it is rendered. -/
def Scene.planned (scene : Scene ℚ) : ScenePlan ℚ where
  asset := scene.asset
  kind := scene.kind
  duration := scene.seconds
  clipStart := scene.clipStart
  motion := scene.motion
  caption := scene.caption
  transition := if scene.crossfade?.isSome then .crossfade else .cut
  transitionLength := scene.overlap
  visualEdit := scene.visualEdit

variable {index : Nat} {previous seconds total : ℚ} {scene : Scene ℚ} {scenes : List (Scene ℚ)}
  {paths : Named Path}

theorem Scene.Follows.seconds_eq (follows : scene.Follows index previous seconds) :
    scene.seconds = seconds := by
  rw [Scene.seconds, follows.shown, Option.getD_some]

/-- A scene begins with a cut, or with a crossfade shorter than the scene before. -/
theorem Scene.Follows.cases (follows : scene.Follows index previous seconds) :
    (scene.crossfade? = none ∧ scene.overlap = 0) ∨
      (scene.crossfade? = some (some scene.overlap) ∧ scene.overlap < previous) := by
  rw [Scene.overlap]
  cases crossfade : scene.crossfade? with
  | none => exact .inl ⟨rfl, rfl⟩
  | some length =>
    obtain ⟨overlap, rfl, below⟩ := follows.joins length crossfade
    exact .inr ⟨rfl, below⟩

theorem Scene.Follows.counted (follows : scene.Follows index previous seconds) : scene.Counted where
  shown := follows.shown.trans (congrArg some follows.seconds_eq.symm)
  crossfade := follows.cases.imp_right And.left

theorem Succession.counted (succession : Succession index previous scenes) :
    ∀ scene ∈ scenes, scene.Counted := by
  induction succession with
  | nil => simp
  | cons here _ ih => exact List.forall_mem_cons.mpr ⟨here.counted, ih⟩

section Counting

variable [DoubleReading]

section Checking

/-- What comparing with a margin leaves of a length is below the other one. -/
theorem lt_of_reaches {length limit : ℚ} (below : reaches length limit = .ok false) :
    length < limit := by
  obtain ⟨bound, difference, short⟩ := Except.bind_eq_ok.mp below
  obtain rfl := Except.ok.inj (Except.mapError_eq_ok.mp difference)
  have apart := Bool.eq_false_iff.mp (Except.ok.inj short)
  rw [Ne, le_rational, not_le] at apart
  linarith [epsilon_rational]

theorem readCrossfade_lt {value : Value} {field : Field} {previous seconds length : ℚ}
    (read : readCrossfade value field previous seconds = .ok length) : length < previous := by
  obtain ⟨number, _, _, before, _, rfl⟩ := readCrossfade_eq_ok.mp read
  exact lt_of_reaches before

/-- The first scene begins with a cut, and a crossfade is shorter than the scene before. -/
theorem readTransition_joins {value : Value} {field : Field} {index : Nat} {previous seconds : ℚ}
    {transition : Transition ℚ}
    (read : readTransition value field index previous seconds = .ok transition) :
    (index = 0 → transition = .cut) ∧
      ∀ length, transition = ⟨.crossfade, length⟩ → ∃ overlap, length = some overlap ∧
        overlap < previous := by
  obtain ⟨_, _, _, _, ⟨_, rfl⟩ | ⟨overlap, _, later, readLength, rfl⟩⟩ :=
    readTransition_eq_ok.mp read
  · exact ⟨fun _ => rfl, nofun⟩
  · refine ⟨fun first => absurd first later, ?_⟩
    rintro _ ⟨⟩
    exact ⟨overlap, rfl, readCrossfade_lt readLength⟩

theorem readScene_follows {prober : Prober ℚ} {assets : Named Upload} {index : Nat}
    {previous seconds : ℚ} {value : Value} {start last : Workspace} {scene : Scene ℚ}
    (read : (readScene prober assets index previous value).on start = (.ok (scene, seconds), last)) :
    scene.Follows index previous seconds := by
  obtain ⟨entries, parts, _, made, rfl⟩ := readScene_eq_ok.mp read
  obtain ⟨first, joins⟩ := readTransition_joins made.transition
  exact {
    shown := parts.shown?_scene seconds
    first := fun zero => parts.crossfade?_scene_of_cut (first zero)
    joins := fun length crossfade => joins length (parts.crossfade?_scene.mp crossfade) }

end Checking

theorem growTotal_net (follows : scene.Follows index previous seconds) :
    growTotal total scene seconds = .ok (total + scene.net) := by
  rw [growTotal, add_rational, Scene.net, follows.seconds_eq]
  obtain ⟨cut, overlap⟩ | ⟨crossfade, _⟩ := follows.cases
  · rw [overlap, cut, sub_zero]
    rfl
  · rw [crossfade, ← add_sub_assoc]
    rfl

/-- Induction on the raw scenes: the length grows by what each scene adds to it. -/
theorem readScenes_total {prober : Prober ℚ} {assets : Named Upload} {values : List Value}
    {final : ℚ} {start last : Workspace}
    (read : (readScenes prober assets index previous total values).on start =
      (.ok (scenes, final), last)) :
    scenes.length = values.length ∧ Succession index previous scenes ∧
      final = total + (scenes.map Scene.net).sum := by
  induction values generalizing index previous total start scenes with
  | nil =>
    obtain ⟨rfl, rfl, rfl⟩ := readScenes_nil_eq_ok.mp read
    exact ⟨rfl, .nil, by simp⟩
  | cons value rest ih =>
    obtain ⟨scene, shown, grown, others, _, readHere, counted, readLater, rfl⟩ :=
      readScenes_cons_eq_ok.mp read
    have here := readScene_follows readHere
    obtain rfl : total + scene.net = grown :=
      Except.ok.inj ((growTotal_net here).symm.trans counted)
    obtain ⟨length, later, final⟩ := ih readLater
    refine ⟨congrArg (· + 1) length, .cons here later, ?_⟩
    rw [final, List.map_cons, List.sum_cons, add_assoc]

theorem Scene.plan_net (counted : scene.Counted)
    (covered : (paths.get? scene.asset).isSome = true) (position : Nat) :
    scene.plan paths position total = .ok (scene.planned, total + scene.net) := by
  have planned : scene.plannedTransition = (scene.planned.transition, some scene.overlap) := by
    rw [Scene.planned, Scene.plannedTransition]
    obtain ⟨cut, overlap⟩ | crossfade := counted.crossfade
    · simp [cut, overlap]
    · simp [crossfade]
  have clipStart : (if Quantity.isZero scene.clipStart then Quantity.ofDouble .zero
      else scene.clipStart) = scene.clipStart := by
    simp +contextual
  have present : (paths.get? scene.asset).isNone = false := by simpa using covered
  rw [Scene.plan, present, planned, counted.shown, Scene.net, Scene.planned]
  simp only [clipStart]
  rfl

/-- Every scene is planned, and the length grows by what it adds to it. -/
theorem planScenes_total (counted : ∀ scene ∈ scenes, scene.Counted)
    (covered : ∀ scene ∈ scenes, (paths.get? scene.asset).isSome = true) (position : Nat) :
    planScenes paths position total scenes =
      .ok (scenes.map Scene.planned, total + (scenes.map Scene.net).sum) := by
  induction scenes generalizing total position with
  | nil => simp [planScenes]
  | cons scene rest ih =>
    obtain ⟨here, others⟩ := List.forall_mem_cons.mp counted
    have later := @ih (total + scene.net) others (fun other member => covered other (.tail _ member))
      (position + 1)
    rw [planScenes, Scene.plan_net here (covered scene List.mem_cons_self)]
    show (planScenes paths (position + 1) (total + scene.net) rest >>= fun (later, total) =>
      pure (scene.planned :: later, total)) = _
    rw [later, List.map_cons, List.map_cons, List.sum_cons, ← add_assoc]
    rfl

/-- The length of the blend that stands for a cut. -/
def cutLength : ℚ := Quantity.ofDouble cutBlend

/-- How many of the scenes begin with a cut. -/
def cuts (scenes : List (ScenePlan ℚ)) : Nat :=
  scenes.countP (·.transition == .cut)

omit [DoubleReading] in
theorem cuts_nil : cuts [] = 0 := rfl

/-- The blend into a scene is its crossfade, or that of a cut, by which the blended clips are shorter
than the timeline. -/
theorem Scene.Follows.blend (follows : scene.Follows index previous seconds) :
    (scene.planned.transition = .cut ∧ scene.planned.blendLength = cutLength ∧
        scene.net = scene.seconds) ∨
      (scene.planned.transition = .crossfade ∧ scene.planned.blendLength = scene.overlap ∧
        scene.overlap < previous) := by
  obtain ⟨cut, overlap⟩ | ⟨crossfade, below⟩ := follows.cases
  · have transition : scene.planned.transition = .cut := by simp [Scene.planned, cut]
    refine .inl ⟨transition, ?_, ?_⟩
    · rw [ScenePlan.blendLength, transition, cutLength]
    · rw [Scene.net, overlap, sub_zero]
  · have transition : scene.planned.transition = .crossfade := by simp [Scene.planned, crossfade]
    refine .inr ⟨transition, ?_, below⟩
    rw [ScenePlan.blendLength, transition, Scene.planned]

/-- No blend starts before the clips that it blends into do. -/
theorem Scene.Follows.blend_le (follows : scene.Follows index previous seconds)
    (before : cutLength ≤ previous) : scene.planned.blendLength ≤ previous := by
  obtain ⟨_, same, _⟩ | ⟨_, same, below⟩ := follows.blend
  · exact same ▸ before
  · exact same ▸ below.le

/-- The blended clips grow by less than the timeline at a cut, and by the same at a crossfade. -/
theorem Scene.Follows.blended (follows : scene.Follows index previous seconds)
    (rest : List (ScenePlan ℚ)) :
    scene.seconds - scene.planned.blendLength - cutLength * cuts rest =
      scene.net - cutLength * cuts (scene.planned :: rest) := by
  rw [cuts, cuts, List.countP_cons]
  obtain ⟨transition, same, net⟩ | ⟨transition, same, _⟩ := follows.blend
  · simp only [transition, same, net, beq_self_eq_true, if_true]
    push_cast
    ring
  · simp [transition, same, Scene.net]

theorem blendsAfter_cons {joined : ℚ} {scene : ScenePlan ℚ} {rest : List (ScenePlan ℚ)}
    (within : scene.blendLength ≤ joined) :
    blendsAfter joined (scene :: rest) = (do
      let later ← blendsAfter (joined + (scene.duration - scene.blendLength)) rest
      return ⟨scene.blendLength, joined - scene.blendLength⟩ :: later) := by
  have start : Quantity.lt (joined - scene.blendLength) (Quantity.ofDouble .zero) = false := by
    rw [Bool.eq_false_iff, Ne, lt_rational, not_lt, zero_rational]
    exact sub_nonneg.mpr within
  rw [blendsAfter]
  simp only [sub_rational, bind, Except.bind, add_rational, start]
  rfl

/-- Induction on the scenes: what is blended so far lasts at least as long as its last scene. -/
theorem blendsAfter_ends {joined : ℚ} (succession : Succession index previous scenes)
    (long : ∀ scene ∈ scenes, cutLength ≤ scene.seconds) (before : cutLength ≤ previous)
    (reached : previous ≤ joined) :
    ∃ blends, blendsAfter joined (scenes.map Scene.planned) = .ok blends ∧
      ∀ scene ∈ (scenes.map Scene.planned).getLast?, ∃ blend, blends.getLast? = some blend ∧
        blend.offset + scene.duration = joined + (scenes.map Scene.net).sum -
          cutLength * cuts (scenes.map Scene.planned) := by
  induction succession generalizing joined with
  | nil => exact ⟨[], rfl, by simp⟩
  | @cons index previous seconds scene rest here later ih =>
    have within := (here.blend_le before).trans reached
    let length := scene.planned.blendLength
    have own := here.seconds_eq ▸ long scene List.mem_cons_self
    have grown : seconds ≤ joined + (scene.seconds - length) := by
      linarith [here.seconds_eq]
    obtain ⟨blends, blended, ends⟩ :=
      ih (fun other member => long other (.tail _ member)) own grown
    refine ⟨⟨length, joined - length⟩ :: blends, ?_, ?_⟩
    · rw [List.map_cons, blendsAfter_cons within]
      exact congrArg (· >>= _) blended
    · have total := here.blended (rest.map Scene.planned)
      rw [List.map_cons, List.map_cons, List.sum_cons]
      cases rest with
      | nil =>
        rintro _ ⟨⟩
        obtain rfl := Except.ok.inj blended
        refine ⟨_, rfl, ?_⟩
        simp only [List.map_nil, List.sum_nil, cuts_nil, Nat.cast_zero] at total ⊢
        show joined - length + scene.seconds = _
        linarith
      | cons next more =>
        intro last final
        rw [List.map_cons, List.getLast?_cons_cons] at final
        obtain ⟨blend, found, same⟩ := ends last final
        refine ⟨blend, ?_, ?_⟩
        · rw [List.getLast?_cons, found, Option.getD_some]
        · rw [same]
          linarith

omit [DoubleReading] in
theorem exists_measured (counted : ∀ scene ∈ scenes, scene.Counted) :
    ∃ shown overlaps, Measured scenes shown overlaps ∧
      (scenes.map Scene.net).sum = shown.sum - overlaps.sum := by
  induction scenes with
  | nil => exact ⟨[], [], ⟨rfl, rfl⟩, by simp⟩
  | cons scene rest ih =>
    obtain ⟨here, others⟩ := List.forall_mem_cons.mp counted
    obtain ⟨shown, overlaps, measured, sum⟩ := ih others
    obtain ⟨cut, overlap⟩ | crossfade := here.crossfade
    · refine ⟨scene.seconds :: shown, overlaps, ⟨?_, ?_⟩, ?_⟩
      · simp [here.shown, measured.shown]
      · simp [cut, measured.overlaps]
      · rw [List.map_cons, List.sum_cons, List.sum_cons, sum, Scene.net, overlap]
        ring
    · refine ⟨scene.seconds :: shown, scene.overlap :: overlaps, ⟨?_, ?_⟩, ?_⟩
      · simp [here.shown, measured.shown]
      · simp [crossfade, measured.overlaps]
      · rw [List.map_cons, List.sum_cons, List.sum_cons, List.sum_cons, sum, Scene.net]
        ring

omit [DoubleReading] in
theorem Succession.measured (succession : Succession index previous scenes) :
    ∃ shown overlaps, Measured scenes shown overlaps ∧
      (scenes.map Scene.net).sum = shown.sum - overlaps.sum :=
  exists_measured succession.counted

/-- Validation counts the length of a timeline scene by scene. -/
theorem validate_total {prober : Prober ℚ} {assets : Named Upload} {value : Value}
    {start last : Workspace} {manifest : Manifest ℚ}
    (accepted : (validate prober assets value).on start = (.ok manifest, last)) :
    manifest.scenes ≠ [] ∧ Succession 0 0 manifest.scenes ∧
      manifest.total = (manifest.scenes.map Scene.net).sum := by
  obtain ⟨entries, raws, _, _, listed, read, _⟩ := validate_eq_ok.mp accepted
  rw [zero_rational] at read
  obtain ⟨length, succession, final⟩ := readScenes_total read
  obtain ⟨_, notEmpty, _⟩ := listScenes_ok listed
  exact ⟨List.length_pos_iff.mp (length ▸ notEmpty), succession, by simpa using final⟩

/-- The length of a planned timeline is what all its scenes add to it. -/
theorem plan_counted {manifest : Manifest ℚ} (notEmpty : manifest.scenes ≠ [])
    (counted : ∀ scene ∈ manifest.scenes, scene.Counted)
    (covered : ∀ scene ∈ manifest.scenes, (paths.get? scene.asset).isSome = true) (audio : Path) :
    manifest.plan paths audio = .ok {
      preset := manifest.preset, scenes := manifest.scenes.map Scene.planned, audio
      assetPaths := paths, total := (manifest.scenes.map Scene.net).sum } := by
  have some : manifest.scenes.isEmpty = false := by simpa using notEmpty
  rw [Manifest.plan, some, planScenes_total counted covered, zero_rational, zero_add]
  rfl

/-- A timeline is as long when it is planned as when it was checked. -/
theorem plan_total {manifest : Manifest ℚ} (notEmpty : manifest.scenes ≠ [])
    (succession : Succession 0 0 manifest.scenes)
    (total : manifest.total = (manifest.scenes.map Scene.net).sum)
    (covered : ∀ scene ∈ manifest.scenes, (paths.get? scene.asset).isSome = true) (audio : Path) :
    manifest.plan paths audio = .ok {
      preset := manifest.preset, scenes := manifest.scenes.map Scene.planned, audio
      assetPaths := paths, total := manifest.total } := by
  rw [plan_counted notEmpty succession.counted covered audio, ← total]

/-- Exact lengths can always be written. -/
theorem rationals_writable : Writable fun _ : ℚ => True where
  ofDouble _ := trivial
  add _ _ := ⟨_, rfl, trivial⟩
  sub _ _ := ⟨_, rfl, trivial⟩
  fixed _ := ⟨_, rfl⟩

/-- Once its blends are found, a graph can be drawn. -/
theorem crossfadeGraph_of_blends {scenes : List (ScenePlan ℚ)} {blends : List (Blend ℚ)}
    (found : Montage.blends scenes = .ok blends) :
    ∃ graph, crossfadeGraph scenes = .ok (graph, blends) := by
  obtain ⟨filters, written⟩ := @blendFilters_written _ _ _ rationals_writable 1 blends
    fun _ _ => ⟨trivial, trivial⟩
  refine ⟨⟨filters, joinedLabel blends.length⟩, ?_⟩
  refine Except.bind_eq_ok.mpr ⟨blends, found, ?_⟩
  exact Except.bind_eq_ok.mpr ⟨filters, written, rfl⟩

/-- The blended clips end where the timeline does, less the blends that stand for cuts. -/
theorem crossfadeGraph_ends (succession : Succession 0 0 scenes) (several : 2 ≤ scenes.length)
    (long : ∀ scene ∈ scenes, cutLength ≤ scene.seconds) :
    ∃ graph blends blend scene,
      crossfadeGraph (scenes.map Scene.planned) = .ok (graph, blends) ∧
        blends.getLast? = some blend ∧ (scenes.map Scene.planned).getLast? = some scene ∧
        blend.offset + scene.duration = (scenes.map Scene.net).sum -
          cutLength * cuts ((scenes.map Scene.planned).drop 1) := by
  cases succession with
  | nil => simp at several
  | @cons _ _ seconds first rest here later =>
    have cut : first.overlap = 0 := by
      rw [Scene.overlap, here.first rfl]
      rfl
    have own := here.seconds_eq ▸ long first List.mem_cons_self
    obtain ⟨blends, blended, ends⟩ :=
      blendsAfter_ends later (fun scene member => long scene (.tail _ member)) own le_rfl
    cases rest with
    | nil => simp at several
    | cons second more =>
      obtain ⟨scene, final⟩ := Option.isSome_iff_exists.mp
        (show ((second :: more).map Scene.planned).getLast?.isSome = true by simp)
      obtain ⟨blend, found, same⟩ := ends scene final
      have listed : Montage.blends ((first :: second :: more).map Scene.planned) = .ok blends := by
        rw [List.map_cons, Montage.blends, Scene.planned, here.seconds_eq]
        exact blended
      obtain ⟨graph, drawn⟩ := crossfadeGraph_of_blends listed
      refine ⟨graph, blends, blend, scene, drawn, found, ?_, ?_⟩
      · rw [List.map_cons, List.map_cons, List.getLast?_cons_cons, ← List.map_cons, final]
      · have sum : ((first :: second :: more).map Scene.net).sum =
            seconds + ((second :: more).map Scene.net).sum := by
          rw [List.map_cons, List.sum_cons, Scene.net, here.seconds_eq, cut, sub_zero]
        rw [same, sum]
        rfl

/-- However a timeline is counted, it is as long as its scenes are shown, less its crossfades: when it
is checked, and when it is planned. If its clips are blended and none is shorter than the blend that
stands for a cut, the last one ends there too, less one such blend for each cut between scenes. -/
theorem timeline_agrees {prober : Prober ℚ} {assets : Named Upload} {value : Value}
    {start last : Workspace} {manifest : Manifest ℚ} {paths : Named Path}
    (accepted : (validate prober assets value).on start = (.ok manifest, last))
    (covered : ∀ scene ∈ manifest.scenes, (paths.get? scene.asset).isSome = true) (audio : Path) :
    ∃ plan shown overlaps, manifest.plan paths audio = .ok plan ∧
      Measured manifest.scenes shown overlaps ∧
      manifest.total = plan.total ∧ plan.total = shown.sum - overlaps.sum ∧
      (plan.hasCrossfade = true → (∀ scene ∈ plan.scenes, cutLength ≤ scene.duration) →
        ∃ graph blends blend scene, crossfadeGraph plan.scenes = .ok (graph, blends) ∧
          blends.getLast? = some blend ∧ plan.scenes.getLast? = some scene ∧
          blend.offset + scene.duration =
            plan.total - cutLength * cuts (plan.scenes.drop 1)) := by
  obtain ⟨notEmpty, succession, total⟩ := validate_total accepted
  obtain ⟨shown, overlaps, measured, sum⟩ := succession.measured
  refine ⟨_, shown, overlaps, plan_total notEmpty succession total covered audio, measured, rfl,
    total.trans sum, fun crossfade long => ?_⟩
  have several : 2 ≤ manifest.scenes.length := by
    by_contra few
    have alone : (manifest.scenes.map Scene.planned).drop 1 = [] :=
      List.drop_eq_nil_of_le (by simpa using Nat.le_of_lt_succ (Nat.lt_of_not_le few))
    simp [RenderPlan.hasCrossfade, alone] at crossfade
  rw [total]
  exact crossfadeGraph_ends succession several fun scene member =>
    long scene.planned (List.mem_map_of_mem member)

end Counting

/-- The exact values of doubles, but a thousandth for the double nearest to it. -/
@[reducible] def DoubleReading.thousandth : DoubleReading where
  value double := if double = cutBlend then 1 / 1000 else double.exact
  value_zero := by
    rw [if_neg (by decide +kernel), Binary64.exact_zero]
  value_epsilon := by
    rw [if_neg (by decide +kernel)]
    exact epsilon_pos.le

/-- An image fades into a video, which is cut to the image again. -/
def coverClipCover : Value := .map [
  (.text "outputPreset", .text "SQUARE_1_1"),
  (.text "scenes", .list [
    .map [(.text "assetId", .text "cover"), (.text "type", .text "IMAGE"),
      (.text "durationSec", .int 4)],
    .map [(.text "assetId", .text "clip"), (.text "type", .text "VIDEO"),
      (.text "transition", .map [(.text "type", .text "CROSSFADE"),
        (.text "transitionDurationSec", .int 1)])],
    .map [(.text "assetId", .text "cover"), (.text "type", .text "IMAGE"),
      (.text "durationSec", .int 2)]])]

/-- The timeline is 4 + 19 / 3 + 2 seconds long, less one for the crossfade, and its blended clips end
a thousandth of a second before it. -/
theorem coverClipCover_agrees :
    letI : DoubleReading := .thousandth
    let prober : Prober ℚ := fun _ => pure (19 / 3)
    let assets : Named Upload :=
      [("cover", .ofBytes [1] "image/png" none), ("clip", .ofBytes [2] "video/mp4" none)]
    let paths : Named Path := [("cover", .ofText "/cover.png"), ("clip", .ofText "/clip.mp4")]
    let start : Workspace := ⟨⟨[], [], []⟩, 0, 0, 0, []⟩
    ∃ manifest plan, ((validate prober assets coverClipCover).on start).1 = .ok manifest ∧
      manifest.plan paths (.ofText "/audio.wav") = .ok plan ∧
      manifest.total = 34 / 3 ∧ plan.total = 34 / 3 ∧
      ∃ graph blends blend scene, crossfadeGraph plan.scenes = .ok (graph, blends) ∧
        blends.getLast? = some blend ∧ plan.scenes.getLast? = some scene ∧
        blend.offset + scene.duration = 34 / 3 - 1 / 1000 := by
  let _ : DoubleReading := .thousandth
  intro prober assets paths start
  have checked : (match ((validate prober assets coverClipCover).on start).1 with
    | .error _ => false
    | .ok manifest =>
      manifest.scenes.all (fun scene => (paths.get? scene.asset).isSome) &&
        manifest.total == 34 / 3 &&
        match manifest.plan paths (.ofText "/audio.wav") with
        | .error _ => false
        | .ok plan => plan.hasCrossfade && plan.scenes.all (fun scene => cutLength ≤ scene.duration) &&
          cutLength == 1 / 1000 && cuts (plan.scenes.drop 1) == 1) = true := by
    decide +kernel
  cases outcome : ((validate prober assets coverClipCover).on start).1 with
  | error _ => simp [outcome] at checked
  | ok manifest =>
    rw [outcome] at checked
    simp only [Bool.and_eq_true, List.all_eq_true, beq_iff_eq] at checked
    obtain ⟨⟨covered, total⟩, checked⟩ := checked
    obtain ⟨plan, _, _, planned, _, same, _, ends⟩ :=
      timeline_agrees (Prod.ext outcome rfl) covered (.ofText "/audio.wav")
    simp only [planned, Bool.and_eq_true, List.all_eq_true, beq_iff_eq,
      decide_eq_true_iff] at checked
    obtain ⟨⟨⟨crossfade, long⟩, length⟩, one⟩ := checked
    refine ⟨manifest, plan, rfl, planned, total, same ▸ total, ?_⟩
    obtain ⟨graph, blends, blend, scene, drawn, last, final, offset⟩ := ends crossfade long
    refine ⟨graph, blends, blend, scene, drawn, last, final, ?_⟩
    rw [offset, ← same, total, length, one]
    norm_num

end Montage
