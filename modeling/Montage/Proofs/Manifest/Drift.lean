import Montage.Proofs.Arguments
import Montage.Proofs.Manifest.Offsets
import Montage.Proofs.Number.Numeral
import Montage.Proofs.Number.Rounding

/-! How far blends are from the ends of the clips that they blend into once all lengths are printed in
thousandths of a second. Each length is printed from its exact value, so what a blend is off by are
the roundings of the lengths that meet there, however many blends come before it. -/

namespace Montage

section Printed

variable {places : Nat}

/-- The number that is printed for a value with some decimal places. -/
def printed (places : Nat) (value : ℚ) : ℚ :=
  Binary64.signed (value < 0) (roundQuotient (value.num.natAbs * 10 ^ places) value.den) / 10 ^ places

theorem readDecimal?_fixedRational (some : 0 < places) (value : ℚ) :
    readDecimal? (fixedRational places value) = Option.some (printed places value) := by
  rw [fixedRational, printed]
  by_cases negative : value < 0
  · rw [if_pos negative, decide_eq_true negative, readDecimal?_minus, readMagnitude?_pointed some,
      Option.map_some, Binary64.signed, if_pos rfl]
    push_cast
    rw [neg_div]
  · rw [if_neg negative, decide_eq_false negative, String.empty_append, readDecimal?_pointed some,
      readMagnitude?_pointed some, Binary64.signed, if_neg Bool.false_ne_true]
    rfl

/-- What is printed is off by half a unit of the last place at most. -/
theorem printed_near (places : Nat) (value : ℚ) :
    |printed places value - value| ≤ 1 / 2 / 10 ^ places := by
  have scale : (0 : ℚ) < 10 ^ places := by positivity
  have near := roundQuotient_near (value.num.natAbs * 10 ^ places) value.den_pos
  have absolute : |value| = value.num.natAbs / value.den := by
    rw [Nat.cast_natAbs, Int.cast_abs, ← Nat.abs_cast value.den, ← abs_div, Rat.num_div_den]
  have magnitude : ((value.num.natAbs * 10 ^ places : Nat) : ℚ) / value.den = |value| * 10 ^ places := by
    rw [absolute]
    push_cast
    ring
  rw [magnitude] at near
  rw [printed, le_div_iff₀ scale, ← abs_of_pos scale, ← abs_mul, sub_mul, abs_of_pos scale,
    div_mul_cancel₀ _ scale.ne']
  by_cases negative : value < 0
  · rw [abs_of_neg negative] at near
    rw [decide_eq_true negative, Binary64.signed, if_pos rfl, abs_sub_comm]
    push_cast
    rwa [sub_neg_eq_add, add_comm, ← sub_neg_eq_add, ← neg_mul]
  · rw [abs_of_nonneg (not_lt.mp negative)] at near
    rw [decide_eq_false negative, Binary64.signed, if_neg Bool.false_ne_true]
    exact near

end Printed

/-- A filter that blends for as long as a blend takes, from when it starts. -/
def GraphFilter.Prints (filter : GraphFilter) (blend : Blend ℚ) : Prop :=
  ∃ length offset,
    filter.body = "xfade=transition=fade:duration=" ++ length ++ ":offset=" ++ offset ∧
      readDecimal? length = some blend.length ∧ readDecimal? offset = some blend.offset

/-- Blends, each of which ends within a margin of the clips that it blends into: those that the blend
before it left, and the first clip for the first one. -/
structure Meets (margin : ℚ) (durations : List ℚ) (blends : List (Blend ℚ)) : Prop where
  first : ∀ duration blend, durations[0]? = some duration → blends[0]? = some blend →
    |blend.stop - duration| ≤ margin
  next : ∀ (index : Nat) duration before after, durations[index + 1]? = some duration →
    blends[index]? = some before → blends[index + 1]? = some after →
      |after.stop - (before.offset + duration)| ≤ margin

/-- A blend as it is printed. -/
def Blend.printed (blend : Blend ℚ) : Blend ℚ :=
  ⟨Montage.printed 3 blend.length, Montage.printed 3 blend.offset⟩

/-- Each end is that of the exact blends, but for the roundings of the lengths that meet there. -/
theorem Seamless.meets {scenes : List (ScenePlan ℚ)} {blends : List (Blend ℚ)}
    (seamless : Seamless scenes blends) :
    Meets (2 / 1000) (scenes.map fun scene => printed 3 scene.duration)
      (blends.map Blend.printed) := by
  have near (value : ℚ) := abs_le.mp (printed_near 3 value)
  constructor
  · intro duration blend shown here
    rw [List.getElem?_map, Option.map_eq_some_iff] at shown here
    obtain ⟨scene, found, rfl⟩ := shown
    obtain ⟨exact, here, rfl⟩ := here
    have meets := seamless.first scene exact found here
    obtain ⟨_, _⟩ := near scene.duration
    obtain ⟨_, _⟩ := near exact.length
    obtain ⟨_, _⟩ := near exact.offset
    rw [Blend.stop] at meets ⊢
    rw [Blend.printed, abs_le]
    constructor <;> linarith
  · intro index duration before after shown here next
    rw [List.getElem?_map, Option.map_eq_some_iff] at shown here next
    obtain ⟨scene, found, rfl⟩ := shown
    obtain ⟨before, here, rfl⟩ := here
    obtain ⟨after, next, rfl⟩ := next
    have meets := seamless.next index scene before after found here next
    obtain ⟨_, _⟩ := near scene.duration
    obtain ⟨_, _⟩ := near before.offset
    obtain ⟨_, _⟩ := near after.length
    obtain ⟨_, _⟩ := near after.offset
    rw [Blend.stop] at meets ⊢
    rw [Blend.printed, Blend.printed, abs_le]
    constructor <;> linarith

section Exact

variable [DoubleReading]

/-- A scene whose command asks for this many seconds. -/
def ScenePlan.Prints (preset : Preset) (scene : ScenePlan ℚ) (seconds : ℚ) : Prop :=
  ∀ tool asset output, ∃ arguments text,
    scene.command tool asset preset output = .ok arguments ∧
      optionValues "-t" arguments = [text] ∧ readDecimal? text = some seconds

theorem readDecimal?_decimals {value : ℚ} {text : String} (written : decimals value = .ok text) :
    readDecimal? text = some (printed 3 value) := by
  obtain rfl := Except.ok.inj written
  exact readDecimal?_fixedRational (by decide) value

omit [DoubleReading] in
theorem ScenePlan.among_rationals (scene : ScenePlan ℚ) : scene.Among fun _ => True where
  duration := trivial
  clipStart := trivial
  transitionLength := trivial
  caption _ _ := ⟨trivial, trivial⟩
  grade _ _ _ _ := ⟨trivial, trivial, trivial⟩
  overlay _ _ _ _ := trivial

theorem ScenePlan.prints (preset : Preset) (scene : ScenePlan ℚ) :
    scene.Prints preset (printed 3 scene.duration) := by
  intro tool asset output
  obtain ⟨arguments, written⟩ :=
    scene.command_written rationals_writable scene.among_rationals tool asset preset output
  obtain ⟨text, _, duration, _, given, _⟩ := ScenePlan.command_options written
  exact ⟨arguments, text, written, given, readDecimal?_decimals duration⟩

theorem Blend.filter_prints {index : Nat} {blend : Blend ℚ} {filter : GraphFilter}
    (written : blend.filter index = .ok filter) : filter.Prints blend.printed := by
  obtain ⟨length, writtenLength, rest⟩ := Except.bind_eq_ok.mp written
  obtain ⟨offset, writtenOffset, same⟩ := Except.bind_eq_ok.mp rest
  obtain rfl := Except.ok.inj same
  exact ⟨length, offset, rfl, readDecimal?_decimals writtenLength,
    readDecimal?_decimals writtenOffset⟩

theorem blendFilters_print {index : Nat} {blends : List (Blend ℚ)} {filters : List GraphFilter}
    (written : blendFilters index blends = .ok filters) :
    List.Forall₂ GraphFilter.Prints filters (blends.map Blend.printed) := by
  induction blends generalizing index filters with
  | nil =>
    obtain rfl := Except.ok.inj written
    exact .nil
  | cons blend rest ih =>
    obtain ⟨filter, here, more⟩ := Except.bind_eq_ok.mp written
    obtain ⟨others, later, same⟩ := Except.bind_eq_ok.mp more
    obtain rfl := Except.ok.inj same
    exact .cons (blend.filter_prints here) (ih later)

theorem crossfadeGraph_prints {scenes : List (ScenePlan ℚ)} {graph : FilterGraph}
    {blends : List (Blend ℚ)} (drawn : crossfadeGraph scenes = .ok (graph, blends)) :
    List.Forall₂ GraphFilter.Prints graph.filters (blends.map Blend.printed) := by
  obtain ⟨_, _, rest⟩ := Except.bind_eq_ok.mp drawn
  obtain ⟨filters, written, same⟩ := Except.bind_eq_ok.mp rest
  obtain ⟨rfl, rfl⟩ := Prod.mk.inj (Except.ok.inj same)
  exact blendFilters_print written

/-- The clips of an accepted timeline are blended by the graph that is drawn for its scenes. -/
theorem combineCommand_blends {plan : RenderPlan ℚ} {graph : FilterGraph}
    {blends : List (Blend ℚ)} (crossfade : plan.hasCrossfade = true)
    (drawn : crossfadeGraph plan.scenes = .ok (graph, blends)) (tool : String) (clips : List Path)
    (output : Path) :
    ∃ arguments, combineCommand tool clips plan.scenes output plan.hasCrossfade = .ok arguments ∧
      optionValues "-filter_complex" arguments = [graph.text] := by
  have writable : plan.Writable :=
    RenderPlan.writable_of_among rationals_writable fun scene _ => scene.among_rationals
  obtain ⟨arguments, written⟩ := @combineCommand_written _ _ tool output _ writable clips
  obtain ⟨other, joined, _, given, _⟩ := combineCommand_options written
  refine ⟨arguments, written, ?_⟩
  rw [joinGraph, crossfade, if_pos rfl, drawn] at joined
  obtain rfl := Except.ok.inj joined
  exact given

/-- The blends of an accepted timeline do not drift: if it has a crossfade and all its scenes are longer
than the blend that stands for a cut, then by the numbers that the tool is given each blend ends within
two thousandths of a second of the clips that it blends into, at every position of the chain. -/
theorem printed_blends_meet {prober : Prober ℚ} {assets : Named Upload} {value : Value}
    {start last : Workspace} {manifest : Manifest ℚ} {paths : Named Path}
    (accepted : (validate prober assets value).on start = (.ok manifest, last))
    (covered : ∀ scene ∈ manifest.scenes, (paths.get? scene.asset).isSome = true) (audio : Path) :
    ∃ plan, manifest.plan paths audio = .ok plan ∧
      (plan.hasCrossfade = true → (∀ scene ∈ plan.scenes, cutLength < scene.duration) →
        ∃ (graph : FilterGraph) (durations : List ℚ) (blends : List (Blend ℚ)),
          (∀ tool clips output, ∃ arguments,
            combineCommand tool clips plan.scenes output plan.hasCrossfade = .ok arguments ∧
              optionValues "-filter_complex" arguments = [graph.text]) ∧
          List.Forall₂ (ScenePlan.Prints plan.preset) plan.scenes durations ∧
          List.Forall₂ GraphFilter.Prints graph.filters blends ∧
          blends.length + 1 = durations.length ∧ Meets (2 / 1000) durations blends) := by
  obtain ⟨plan, planned, some, blended⟩ := validate_seamless accepted covered audio
  refine ⟨plan, planned, fun crossfade long => ?_⟩
  obtain ⟨graph, blends, drawn, seamless⟩ := blended long
  obtain ⟨_, _, again, length, _⟩ := crossfadeGraph_counted some
  obtain ⟨rfl, rfl⟩ := Prod.mk.inj (Except.ok.inj (drawn.symm.trans again))
  refine ⟨graph, plan.scenes.map fun scene => printed 3 scene.duration, blends.map Blend.printed,
    combineCommand_blends crossfade drawn, ?_, crossfadeGraph_prints drawn, ?_, ?_⟩
  · exact List.forall₂_map_right_iff.mpr
      (List.forall₂_same.mpr fun scene _ => scene.prints plan.preset)
  · rwa [List.length_map, List.length_map]
  · exact seamless.meets

end Exact

/-- A clip of nineteen thirds of a second between two images. -/
theorem coverClipCover_meets :
    letI : DoubleReading := .thousandth
    let prober : Prober ℚ := fun _ => pure (19 / 3)
    let assets : Named Upload :=
      [("cover", .ofBytes [1] "image/png" none), ("clip", .ofBytes [2] "video/mp4" none)]
    let paths : Named Path := [("cover", .ofText "/cover.png"), ("clip", .ofText "/clip.mp4")]
    let start : Workspace := ⟨⟨[], [], []⟩, 0, 0, 0, []⟩
    ∃ manifest plan, ((validate prober assets coverClipCover).on start).1 = .ok manifest ∧
      manifest.plan paths (.ofText "/audio.wav") = .ok plan ∧
      ∃ (graph : FilterGraph) (durations : List ℚ) (blends : List (Blend ℚ)),
        List.Forall₂ (ScenePlan.Prints plan.preset) plan.scenes durations ∧
        List.Forall₂ GraphFilter.Prints graph.filters blends ∧
        blends.length = 2 ∧ Meets (2 / 1000) durations blends := by
  let _ : DoubleReading := .thousandth
  intro prober assets paths start
  have checked : ((validate prober assets coverClipCover).on start).1.toOption.any
      (fun manifest => manifest.scenes.all (fun scene => (paths.get? scene.asset).isSome) &&
        (manifest.plan paths (.ofText "/audio.wav")).toOption.any fun plan =>
          plan.hasCrossfade && plan.scenes.all (fun scene => cutLength < scene.duration) &&
            plan.scenes.length == 3) = true := by
    decide +kernel
  obtain ⟨manifest, accepted, checked⟩ := Except.toOption_any.mp checked
  rw [Bool.and_eq_true, List.all_eq_true] at checked
  obtain ⟨covered, checked⟩ := checked
  obtain ⟨plan, planned, meets⟩ :=
    printed_blends_meet (Prod.ext accepted rfl) covered (.ofText "/audio.wav")
  obtain ⟨same, found, checked⟩ := Except.toOption_any.mp checked
  obtain rfl := Except.ok.inj (planned.symm.trans found)
  simp only [Bool.and_eq_true, List.all_eq_true, decide_eq_true_iff, beq_iff_eq] at checked
  obtain ⟨⟨crossfade, long⟩, three⟩ := checked
  obtain ⟨graph, durations, blends, _, shown, blended, length, meets⟩ := meets crossfade long
  refine ⟨manifest, plan, accepted, planned, graph, durations, blends, shown, blended, ?_, meets⟩
  exact Nat.succ.inj (length.trans (shown.length_eq.symm.trans three))

end Montage
