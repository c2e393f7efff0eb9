import Montage.Proofs.Manifest.Screening

/-! When the blends of a chain start. Each starts as long after the first clip as the clips before it
are shown, less all blends up to it, but not before the first clip does. In the chain of an accepted
timeline this limit is never reached, and each blend ends with the clips that it blends into. -/

namespace Montage

/-- How long the first scenes are shown. -/
def shownUpTo (count : Nat) (scenes : List (ScenePlan ℚ)) : ℚ :=
  ((scenes.take count).map ScenePlan.duration).sum

/-- Blends into scenes, the first of which follows one clip alone: they start and end one after the
other, and each ends with the clips that it blends into. -/
structure Seamless (scenes : List (ScenePlan ℚ)) (blends : List (Blend ℚ)) : Prop where
  positive : ∀ blend ∈ blends, 0 < blend.offset
  ascending : blends.Pairwise fun before after => before.offset < after.offset
  first : ∀ scene blend, scenes[0]? = some scene → blends[0]? = some blend →
    blend.stop = scene.duration
  next : ∀ (index : Nat) scene before after, scenes[index + 1]? = some scene →
    blends[index]? = some before → blends[index + 1]? = some after →
      after.stop = before.offset + scene.duration

namespace Blended

variable {start stop : ℚ} {first scene : ScenePlan ℚ} {scenes : List (ScenePlan ℚ)}
  {blends : List (Blend ℚ)}

/-- Induction on the blends: none starts before the clip that the first one blends into. -/
theorem offset_lt (blended : Blended start stop scenes blends) :
    ∀ blend ∈ blends, start < blend.offset := by
  induction blended with
  | nil => exact List.forall_mem_nil _
  | cons _ late _ _ ih =>
    exact List.forall_mem_cons.mpr ⟨late, fun blend member => late.trans (ih blend member)⟩

theorem offsets_ascend (blended : Blended start stop scenes blends) :
    blends.Pairwise fun before after => before.offset < after.offset := by
  induction blended with
  | nil => exact .nil
  | cons _ _ _ later ih => exact .cons later.offset_lt ih

theorem stop_first {blend : Blend ℚ} (blended : Blended start stop scenes blends)
    (here : blends[0]? = some blend) : blend.stop = stop := by
  cases blended with
  | nil => cases here
  | cons ends _ _ _ =>
    obtain rfl := Option.some.inj here
    exact ends

theorem stop_next {index : Nat} {before after : Blend ℚ}
    (blended : Blended start stop scenes blends) (here : blends[index]? = some before)
    (next : blends[index + 1]? = some after) (between : scenes[index]? = some scene) :
    after.stop = before.offset + scene.duration := by
  induction blended generalizing index with
  | nil => cases here
  | cons _ _ _ later ih =>
    cases index with
    | succ index => exact ih here next between
    | zero =>
      obtain rfl := Option.some.inj here
      obtain rfl := Option.some.inj between
      exact later.stop_first next

/-- Blends after a clip that starts the timeline. -/
theorem seamless (blended : Blended 0 (0 + first.duration) scenes blends) :
    Seamless (first :: scenes) blends where
  positive := blended.offset_lt
  ascending := blended.offsets_ascend
  first scene blend found here := by
    obtain rfl := Option.some.inj found
    rw [blended.stop_first here, zero_add]
  next index scene before after found here next := blended.stop_next here next found

end Blended

section Exact

variable [DoubleReading]

/-- How long the blends into the scenes after the first take, up to some count. -/
def blendedUpTo (count : Nat) (scenes : List (ScenePlan ℚ)) : ℚ :=
  (((scenes.drop 1).take count).map ScenePlan.blendLength).sum

/-- Each blend takes as long as its scene says, and starts when the scenes before it were shown, less
the blends up to it, or with the first scene if that is later. -/
def CountedOffsets (scenes : List (ScenePlan ℚ)) (blends : List (Blend ℚ)) : Prop :=
  ∀ (index : Nat) blend, blends[index]? = some blend →
    (∃ scene, scenes[index + 1]? = some scene ∧ blend.length = scene.blendLength) ∧
      blend.offset = max (shownUpTo (index + 1) scenes - blendedUpTo (index + 1) scenes) 0

/-- One turn of the blending, whatever the lengths. -/
theorem blendsAfter_turn {joined : ℚ} {scene : ScenePlan ℚ} {rest : List (ScenePlan ℚ)} :
    blendsAfter joined (scene :: rest) = (do
      let later ← blendsAfter (joined + (scene.duration - scene.blendLength)) rest
      return ⟨scene.blendLength, max (joined - scene.blendLength) 0⟩ :: later) := by
  have offset : (if Quantity.lt (joined - scene.blendLength) (Quantity.ofDouble .zero) then
      Quantity.ofDouble .zero else joined - scene.blendLength) =
        max (joined - scene.blendLength) 0 := by
    rw [zero_rational]
    by_cases negative : joined - scene.blendLength < 0
    · rw [if_pos (lt_rational.mpr negative), max_eq_right negative.le]
    · rw [if_neg (lt_rational.not.mpr negative), max_eq_left (not_lt.mp negative)]
  rw [blendsAfter]
  simp only [sub_rational, bind, Except.bind, add_rational, offset]

/-- Induction on the scenes: what is joined so far has grown by each scene, less the blend into it. -/
theorem blendsAfter_counted (joined : ℚ) (scenes : List (ScenePlan ℚ)) :
    ∃ blends, blendsAfter joined scenes = .ok blends ∧ blends.length = scenes.length ∧
      ∀ (index : Nat) blend, blends[index]? = some blend →
        (∃ scene, scenes[index]? = some scene ∧ blend.length = scene.blendLength) ∧
          blend.offset = max (joined + shownUpTo index scenes -
            ((scenes.take (index + 1)).map ScenePlan.blendLength).sum) 0 := by
  induction scenes generalizing joined with
  | nil => exact ⟨[], rfl, rfl, nofun⟩
  | cons scene rest ih =>
    obtain ⟨blends, blended, length, counted⟩ := ih (joined + (scene.duration - scene.blendLength))
    refine ⟨_, blendsAfter_turn.trans (congrArg (· >>= _) blended),
      congrArg (· + 1) length, fun index blend found => ?_⟩
    cases index with
    | zero =>
      obtain rfl := Option.some.inj found
      exact ⟨⟨scene, rfl, rfl⟩, by simp [shownUpTo]⟩
    | succ index =>
      obtain ⟨own, offset⟩ := counted index blend found
      refine ⟨own, ?_⟩
      simp only [offset, shownUpTo, List.take_succ_cons, List.map_cons, List.sum_cons]
      congr 1
      ring

/-- The blends into all scenes but the first. -/
theorem crossfadeGraph_counted {scenes : List (ScenePlan ℚ)} (some : scenes ≠ []) :
    ∃ graph blends, crossfadeGraph scenes = .ok (graph, blends) ∧
      blends.length + 1 = scenes.length ∧ CountedOffsets scenes blends := by
  obtain ⟨first, rest, rfl⟩ := List.exists_cons_of_ne_nil some
  obtain ⟨blends, blended, length, counted⟩ := blendsAfter_counted first.duration rest
  have found : Montage.blends (first :: rest) = .ok blends := blended
  obtain ⟨graph, drawn⟩ := crossfadeGraph_of_blends found
  refine ⟨graph, blends, drawn, congrArg (· + 1) length, fun index blend found => ?_⟩
  obtain ⟨own, offset⟩ := counted index blend found
  refine ⟨own, offset.trans ?_⟩
  rw [shownUpTo, shownUpTo, blendedUpTo, List.take_succ_cons, List.map_cons, List.sum_cons]
  rfl

/-- The blends of an accepted timeline in which every scene is longer than the blend that stands for a
cut. -/
theorem validate_seamless {prober : Prober ℚ} {assets : Named Upload} {value : Value}
    {start last : Workspace} {manifest : Manifest ℚ} {paths : Named Path}
    (accepted : (validate prober assets value).on start = (.ok manifest, last))
    (covered : ∀ scene ∈ manifest.scenes, (paths.get? scene.asset).isSome = true) (audio : Path) :
    ∃ plan, manifest.plan paths audio = .ok plan ∧ plan.scenes ≠ [] ∧
      ((∀ scene ∈ plan.scenes, cutLength < scene.duration) →
        ∃ graph blends, crossfadeGraph plan.scenes = .ok (graph, blends) ∧
          Seamless plan.scenes blends) := by
  obtain ⟨notEmpty, succession, total⟩ := validate_total accepted
  refine ⟨_, plan_total notEmpty succession total covered audio, by simpa using notEmpty,
    fun long => ?_⟩
  have outlasting := validate_outlast accepted
  have long : ∀ scene ∈ manifest.scenes, cutLength < scene.seconds := fun scene member =>
    long scene.planned (List.mem_map_of_mem member)
  dsimp only
  obtain ⟨first, rest, listed⟩ := List.exists_cons_of_ne_nil notEmpty
  rw [listed] at succession outlasting long ⊢
  obtain ⟨graph, blends, drawn, blended⟩ := crossfadeGraph_blended succession outlasting long
  exact ⟨graph, blends, drawn, blended.seamless⟩

/-- The blends into scenes start where the scenes before them were shown less the blends up to them,
or with the first scene. If an accepted timeline is blended in which every scene is longer than the
blend that stands for a cut, it never comes to the latter, and each blend ends with what it blends
into. -/
theorem blends_start_exactly :
    (∀ scenes : List (ScenePlan ℚ), scenes ≠ [] →
      ∃ graph blends, crossfadeGraph scenes = .ok (graph, blends) ∧
        blends.length + 1 = scenes.length ∧ CountedOffsets scenes blends) ∧
    ∀ (prober : Prober ℚ) (assets : Named Upload) (value : Value) (start last : Workspace)
      (manifest : Manifest ℚ) (paths : Named Path) (audio : Path),
      (validate prober assets value).on start = (.ok manifest, last) →
      (∀ scene ∈ manifest.scenes, (paths.get? scene.asset).isSome = true) →
        ∃ plan, manifest.plan paths audio = .ok plan ∧
          ((∀ scene ∈ plan.scenes, cutLength < scene.duration) →
            ∃ graph blends, crossfadeGraph plan.scenes = .ok (graph, blends) ∧
              blends.length + 1 = plan.scenes.length ∧ Seamless plan.scenes blends ∧
              ∀ (index : Nat) blend, blends[index]? = some blend →
                blend.offset = shownUpTo (index + 1) plan.scenes -
                  blendedUpTo (index + 1) plan.scenes) := by
  refine ⟨fun scenes some => crossfadeGraph_counted some, ?_⟩
  intro prober assets value start last manifest paths audio accepted covered
  obtain ⟨plan, planned, some, blended⟩ := validate_seamless accepted covered audio
  refine ⟨plan, planned, fun long => ?_⟩
  obtain ⟨graph, blends, drawn, seamless⟩ := blended long
  obtain ⟨_, _, again, length, counted⟩ := crossfadeGraph_counted some
  obtain ⟨rfl, rfl⟩ := Prod.mk.inj (Except.ok.inj (drawn.symm.trans again))
  refine ⟨graph, blends, drawn, length, seamless, fun index blend found => ?_⟩
  -- A blend that starts after the first scene was not held back.
  have positive := seamless.positive blend (List.mem_of_getElem? found)
  have offset := (counted index blend found).2
  rw [offset] at positive ⊢
  exact max_eq_left ((lt_max_iff.mp positive).resolve_right (lt_irrefl 0)).le

end Exact

/-- An image that is shown for some seconds, after a transition. -/
def plainImage (duration : ℚ) (transition : TransitionKind) (length : ℚ) : ScenePlan ℚ where
  asset := "cover"
  kind := .image
  duration := duration
  clipStart := 0
  motion := .none
  caption := none
  transition := transition
  transitionLength := length
  visualEdit := none

/-- A fade that is longer than what it fades from is held back to the start, and so is the cut after
it; the clips joined so far are counted as if it were not. Three images of three seconds that fade for
two seconds and for one are blended after one second and after three. -/
theorem threeImages_started :
    letI : DoubleReading := .thousandth
    let scenes := [plainImage 1 .cut 0, plainImage 1 .crossfade 2, plainImage 4 .cut 0,
      plainImage 1 .cut 0]
    let prober : Prober ℚ := fun _ => pure 0
    let assets : Named Upload := [("cover", .ofBytes [1] "image/png" none)]
    let paths : Named Path := [("cover", .ofText "/cover.png")]
    let start : Workspace := ⟨⟨[], [], []⟩, 0, 0, 0, []⟩
    (∃ graph blends, crossfadeGraph scenes = .ok (graph, blends) ∧
      blends.map Blend.offset = [0, 0, 3998 / 1000]) ∧
    ∃ manifest plan graph blends,
      ((validate prober assets (threeImages 2 1)).on start).1 = .ok manifest ∧
      manifest.plan paths (.ofText "/audio.wav") = .ok plan ∧
      crossfadeGraph plan.scenes = .ok (graph, blends) ∧ blends.map Blend.offset = [1, 3] := by
  let _ : DoubleReading := .thousandth
  intro scenes prober assets paths start
  obtain ⟨counted, exactly⟩ := blends_start_exactly
  constructor
  · obtain ⟨graph, blends, drawn, length, offsets⟩ := counted scenes (List.cons_ne_nil _ _)
    refine ⟨graph, blends, drawn, ?_⟩
    have three : blends.length = 3 := Nat.succ.inj length
    have cut : (Quantity.ofDouble cutBlend : ℚ) = 1 / 1000 := if_pos rfl
    obtain ⟨first, second, third, rfl⟩ := List.length_eq_three.mp three
    simp only [List.map_cons, List.map_nil, (offsets 0 first rfl).2, (offsets 1 second rfl).2,
      (offsets 2 third rfl).2]
    norm_num [shownUpTo, blendedUpTo, ScenePlan.blendLength, scenes, plainImage, cut]
  · have checked : ((validate prober assets (threeImages 2 1)).on start).1.toOption.any
        (fun manifest => manifest.scenes.all (fun scene => (paths.get? scene.asset).isSome) &&
          (manifest.plan paths (.ofText "/audio.wav")).toOption.any fun plan =>
            plan.scenes.all (fun scene => cutLength < scene.duration) && plan.scenes.length == 3 &&
              shownUpTo 1 plan.scenes - blendedUpTo 1 plan.scenes == 1 &&
              shownUpTo 2 plan.scenes - blendedUpTo 2 plan.scenes == 3) = true := by
      decide +kernel
    obtain ⟨manifest, accepted, checked⟩ := Except.toOption_any.mp checked
    rw [Bool.and_eq_true, List.all_eq_true] at checked
    obtain ⟨covered, checked⟩ := checked
    obtain ⟨plan, planned, starts⟩ := exactly prober assets (threeImages 2 1) start _ manifest paths
      (.ofText "/audio.wav") (Prod.ext accepted rfl) covered
    obtain ⟨same, found, checked⟩ := Except.toOption_any.mp checked
    obtain rfl := Except.ok.inj (planned.symm.trans found)
    simp only [Bool.and_eq_true, List.all_eq_true, decide_eq_true_iff, beq_iff_eq] at checked
    obtain ⟨⟨⟨long, three⟩, one⟩, two⟩ := checked
    obtain ⟨graph, blends, drawn, length, _, offsets⟩ := starts long
    refine ⟨manifest, plan, graph, blends, accepted, planned, drawn, ?_⟩
    obtain ⟨first, second, rfl⟩ := List.length_eq_two.mp (Nat.succ.inj (length.trans three))
    rw [List.map_cons, List.map_cons, List.map_nil, offsets 0 first rfl, offsets 1 second rfl, one,
      two]

end Montage
