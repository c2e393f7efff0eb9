import Montage.Proofs.Manifest.Timeline

/-! When the clips of a blended timeline can be seen. A blend is shorter than the clips on both of its
sides, so clips start and end one after the other, but a clip between two blends need not be as long as
both of them together: where it is shorter, three clips are seen at once. -/

namespace Montage

/-- The time from which to which a clip can be seen. -/
structure Screening where
  start : ℚ
  stop : ℚ
  deriving DecidableEq

namespace Screening

/-- The clip can be seen at an instant. -/
def Shows (screening : Screening) (instant : ℚ) : Prop :=
  screening.start < instant ∧ instant < screening.stop

/-- A clip starts and ends before another one does. -/
def Precedes (first second : Screening) : Prop :=
  first.start < second.start ∧ first.stop < second.stop

/-- Three clips of a timeline can be seen at one instant. -/
def Crowded (screenings : List Screening) : Prop :=
  ∃ instant first second third, [first, second, third].Sublist screenings ∧
    first.Shows instant ∧ second.Shows instant ∧ third.Shows instant

theorem Precedes.trans {first second third : Screening} (left : first.Precedes second)
    (right : second.Precedes third) : first.Precedes third :=
  ⟨left.1.trans right.1, left.2.trans right.2⟩

instance : IsTrans Screening Precedes := ⟨fun _ _ _ => Precedes.trans⟩

variable {first second third : Screening} {rest : List Screening}

/-- The clips between three that are seen at once are seen as well, so that three of them follow one
another. -/
theorem Crowded.of_cons (ordered : (first :: second :: third :: rest).IsChain Precedes) :
    Crowded (first :: second :: third :: rest) ↔
      third.start < first.stop ∨ Crowded (second :: third :: rest) := by
  have pairs := List.isChain_iff_pairwise.mp ordered
  obtain ⟨before, later⟩ := List.pairwise_cons.mp pairs
  obtain ⟨between, after⟩ := List.pairwise_cons.mp later
  constructor
  · rintro ⟨instant, a, b, c, sublist, shown, _, last⟩
    rcases List.sublist_cons_iff.mp sublist with inside | ⟨_, same, inside⟩
    · exact .inr ⟨instant, a, b, c, inside, shown, ‹_›, last⟩
    · obtain ⟨rfl, rfl⟩ := List.cons.inj same
      -- The last of the three is the third clip or one after it, which does not start before.
      have member : c ∈ third :: rest := by
        rcases List.sublist_cons_iff.mp inside with deeper | ⟨_, same, deeper⟩
        · exact deeper.subset (by simp)
        · obtain ⟨rfl, rfl⟩ := List.cons.inj same
          exact deeper.subset (by simp)
      have start : third.start ≤ c.start := by
        rcases List.mem_cons.mp member with rfl | far
        · exact le_rfl
        · exact ((List.pairwise_cons.mp after).1 c far).1.le
      exact .inl (start.trans_lt (last.1.trans shown.2))
  · rintro (overlap | ⟨instant, a, b, c, sublist, shown⟩)
    · obtain ⟨instant, above, below⟩ := exists_between overlap
      have next := before second (by simp)
      have far := between third (by simp)
      refine ⟨instant, first, second, third, by simp, ⟨?_, below⟩, ⟨?_, ?_⟩, above, ?_⟩
      · exact next.1.trans (far.1.trans above)
      · exact far.1.trans above
      · exact below.trans next.2
      · exact below.trans (next.2.trans far.2)
    · exact ⟨instant, a, b, c, sublist.cons first, shown⟩

/-- Induction on the clips: three of them are seen at once if and only if one has not ended when the
one after the next starts. -/
theorem crowded_iff {screenings : List Screening} (ordered : screenings.IsChain Precedes) :
    Crowded screenings ↔ ∃ (index : Nat) (early late : Screening),
      screenings[index]? = some early ∧ screenings[index + 2]? = some late ∧
        late.start < early.stop := by
  have few {screenings : List Screening} (short : screenings.length ≤ 2) :
      Crowded screenings ↔ ∃ (index : Nat) (early late : Screening),
        screenings[index]? = some early ∧ screenings[index + 2]? = some late ∧
          late.start < early.stop := by
    constructor
    · rintro ⟨_, _, _, _, sublist, _⟩
      have length := sublist.length_le
      simp only [List.length_cons, List.length_nil] at length
      omega
    · rintro ⟨index, _, late, _, found, _⟩
      obtain ⟨within, _⟩ := List.getElem?_eq_some_iff.mp found
      omega
  match screenings, ordered with
  | [], _ => exact few (by simp)
  | [_], _ => exact few (by simp)
  | [_, _], _ => exact few (by simp)
  | first :: second :: third :: rest, ordered =>
    rw [Crowded.of_cons ordered, crowded_iff (List.isChain_of_isChain_cons ordered)]
    constructor
    · rintro (overlap | ⟨index, early, late, found, foundLate, overlap⟩)
      · exact ⟨0, first, third, rfl, rfl, overlap⟩
      · exact ⟨index + 1, early, late, found, foundLate, overlap⟩
    · rintro ⟨index | index, early, late, found, foundLate, overlap⟩
      · obtain rfl := Option.some.inj found
        obtain rfl := Option.some.inj foundLate
        exact .inl overlap
      · exact .inr ⟨index, early, late, found, foundLate, overlap⟩
termination_by screenings.length

end Screening

/-- When a blend is over. -/
def Blend.stop (blend : Blend ℚ) : ℚ := blend.offset + blend.length

/-- When the clips can be seen of which the first one starts at some time: each from the start of the
blend into it to the end of the blend out of it, the last one to its own end. -/
def screenings (start : ℚ) : List (ScenePlan ℚ) → List (Blend ℚ) → List Screening
  | [], _ => []
  | scene :: _, [] => [⟨start, start + scene.duration⟩]
  | _ :: rest, blend :: blends => ⟨start, blend.stop⟩ :: screenings blend.offset rest blends

/-- Blends into scenes that follow a clip from one time to another: each ends with the clip before it,
and is shorter than the clips on both sides. -/
inductive Blended : ℚ → ℚ → List (ScenePlan ℚ) → List (Blend ℚ) → Prop where
  | nil {start stop : ℚ} : Blended start stop [] []
  | cons {start stop : ℚ} {scene : ScenePlan ℚ} {rest : List (ScenePlan ℚ)} {blend : Blend ℚ}
      {blends : List (Blend ℚ)} (ends : blend.stop = stop) (late : start < blend.offset)
      (short : blend.length < scene.duration)
      (later : Blended blend.offset (blend.offset + scene.duration) rest blends) :
      Blended start stop (scene :: rest) (blend :: blends)

namespace Blended

variable {start stop : ℚ} {before scene : ScenePlan ℚ} {scenes : List (ScenePlan ℚ)}
  {blends : List (Blend ℚ)}

theorem length_eq (blended : Blended start stop scenes blends) : blends.length = scenes.length := by
  induction blended with
  | nil => rfl
  | cons _ _ _ _ ih => exact congrArg (· + 1) ih

/-- A blend starts after the one before it and ends after it. It starts before that one has ended just
if the scene between them is shorter than both together. -/
theorem consecutive (blended : Blended start stop scenes blends) {index : Nat}
    {first second : Blend ℚ} (here : blends[index]? = some first)
    (next : blends[index + 1]? = some second) (between : scenes[index]? = some scene) :
    first.offset < second.offset ∧ first.stop < second.stop ∧
      (first.stop ≤ second.offset ↔ first.length + second.length ≤ scene.duration) := by
  induction blended generalizing index with
  | nil => cases here
  | cons _ _ short later ih =>
    cases index with
    | succ index => exact ih here next between
    | zero =>
      obtain rfl := Option.some.inj here
      obtain rfl := Option.some.inj between
      cases later with
      | nil => cases next
      | cons ends late _ _ =>
        obtain rfl := Option.some.inj next
        rw [Blend.stop] at ends
        refine ⟨late, ?_, ?_⟩
        · rw [Blend.stop, Blend.stop]
          linarith
        · rw [Blend.stop]
          constructor
          · intro apart
            linarith
          · intro fits
            linarith

/-- The clip that is blended first can be seen to the end of the blend out of it. -/
theorem screenings_head (blended : Blended start (start + before.duration) scenes blends) :
    (screenings start (before :: scenes) blends).head? = some ⟨start, start + before.duration⟩ := by
  cases blended with
  | nil => rfl
  | cons ends _ _ _ => exact congrArg (fun stop => some (Screening.mk start stop)) ends

/-- Clips start and end one after the other. -/
theorem screenings_ordered (blended : Blended start (start + before.duration) scenes blends) :
    (screenings start (before :: scenes) blends).IsChain Screening.Precedes := by
  generalize same : start + before.duration = stop at blended
  induction blended generalizing before with
  | nil => exact .singleton _
  | @cons start stop scene rest blend blends ends late short later ih =>
    have head := later.screenings_head
    have ordered := ih rfl
    rw [screenings]
    cases listed : screenings blend.offset (scene :: rest) blends with
    | nil => exact .singleton _
    | cons next more =>
      rw [listed] at head ordered
      obtain rfl := Option.some.inj head
      refine .cons_cons ⟨late, ?_⟩ ordered
      rw [Blend.stop]
      linarith

/-- The clip at a position can be seen from the start of the blend into it. -/
theorem screenings_start {index : Nat} {blend : Blend ℚ}
    (blended : Blended start stop scenes blends) (here : blends[index]? = some blend) :
    ∃ screening, (screenings start (before :: scenes) blends)[index + 1]? = some screening ∧
      screening.start = blend.offset := by
  induction blended generalizing before index with
  | nil => cases here
  | @cons _ _ scene rest first blends ends late short later ih =>
    cases index with
    | succ index => exact ih here
    | zero =>
      obtain rfl := Option.some.inj here
      cases later with
      | nil => exact ⟨_, rfl, rfl⟩
      | cons => exact ⟨_, rfl, rfl⟩

theorem screenings_stop {index : Nat} {blend : Blend ℚ}
    (blended : Blended start stop scenes blends) (here : blends[index]? = some blend) :
    ∃ screening, (screenings start (before :: scenes) blends)[index]? = some screening ∧
      screening.stop = blend.stop := by
  induction blended generalizing before index with
  | nil => cases here
  | cons ends late short later ih =>
    cases index with
    | succ index => exact ih here
    | zero =>
      obtain rfl := Option.some.inj here
      exact ⟨_, rfl, rfl⟩

theorem screenings_length (blended : Blended start stop scenes blends) :
    (screenings start (before :: scenes) blends).length = blends.length + 1 := by
  induction blended generalizing before with
  | nil => rfl
  | cons _ _ _ _ ih => exact congrArg (· + 1) ih

/-- Three clips can be seen at once if and only if a blend starts before the one before it has ended. -/
theorem crowded_iff (blended : Blended start (start + before.duration) scenes blends) :
    Screening.Crowded (screenings start (before :: scenes) blends) ↔
      ∃ (index : Nat) (first second : Blend ℚ), blends[index]? = some first ∧
        blends[index + 1]? = some second ∧ second.offset < first.stop := by
  rw [Screening.crowded_iff blended.screenings_ordered]
  constructor
  · rintro ⟨index, early, late, found, foundLate, overlap⟩
    obtain ⟨within, _⟩ := List.getElem?_eq_some_iff.mp foundLate
    rw [blended.screenings_length] at within
    obtain ⟨first, here⟩ : ∃ first, blends[index]? = some first :=
      ⟨_, List.getElem?_eq_getElem (by omega)⟩
    obtain ⟨second, next⟩ : ∃ second, blends[index + 1]? = some second :=
      ⟨_, List.getElem?_eq_getElem (by omega)⟩
    obtain ⟨ending, same, stop⟩ := @screenings_stop _ _ before _ _ _ _ blended here
    obtain ⟨starting, sameLate, start⟩ := @screenings_start _ _ before _ _ _ _ blended next
    obtain rfl := Option.some.inj (found.symm.trans same)
    obtain rfl := Option.some.inj (foundLate.symm.trans sameLate)
    exact ⟨index, first, second, here, next, by rwa [← start, ← stop]⟩
  · rintro ⟨index, first, second, here, next, overlap⟩
    obtain ⟨ending, found, stop⟩ := @screenings_stop _ _ before _ _ _ _ blended here
    obtain ⟨starting, foundLate, start⟩ := @screenings_start _ _ before _ _ _ _ blended next
    exact ⟨index, ending, starting, found, foundLate, by rwa [start, stop]⟩

end Blended

section Exact

variable [DoubleReading] {index : Nat} {previous total final : ℚ} {scenes : List (Scene ℚ)}

/-- The crossfade that a scene begins with is shorter than the scene. -/
def Scene.OutlastsCrossfade (scene : Scene ℚ) : Prop :=
  ∀ overlap, scene.crossfade? = some (some overlap) → overlap < scene.seconds

theorem SceneParts.seconds_scene (parts : SceneParts ℚ) (shown : ℚ) :
    (parts.scene shown).seconds = shown := by
  rw [Scene.seconds, parts.shown?_scene, Option.getD_some]

theorem readScene_outlasts {prober : Prober ℚ} {assets : Named Upload} {shown : ℚ} {value : Value}
    {scene : Scene ℚ} {start last : Workspace}
    (read : (readScene prober assets index previous value).on start = (.ok (scene, shown), last)) :
    scene.OutlastsCrossfade := by
  obtain ⟨entries, parts, rfl, parted, rfl⟩ := readScene_eq_ok.mp read
  intro overlap crossfade
  rw [parts.seconds_scene]
  have transition := parts.crossfade?_scene.mp crossfade
  obtain ⟨_, _, _, _, ⟨_, cut⟩ | ⟨length, _, _, readLength, same⟩⟩ :=
    readTransition_eq_ok.mp parted.transition
  · cases transition.symm.trans cut
  · obtain ⟨_, _, _, _, own, rfl⟩ := readCrossfade_eq_ok.mp readLength
    obtain ⟨_, length⟩ := Transition.mk.inj (transition.symm.trans same)
    obtain rfl := Option.some.inj length
    exact lt_of_reaches own

theorem readScenes_outlast {prober : Prober ℚ} {assets : Named Upload} {values : List Value}
    {start last : Workspace}
    (read : (readScenes prober assets index previous total values).on start =
      (.ok (scenes, final), last)) : ∀ scene ∈ scenes, scene.OutlastsCrossfade := by
  induction values generalizing index previous total start scenes with
  | nil =>
    obtain ⟨rfl, rfl, rfl⟩ := readScenes_nil_eq_ok.mp read
    exact fun _ member => absurd member List.not_mem_nil
  | cons value rest ih =>
    obtain ⟨scene, shown, grown, later, middle, readHere, _, readLater, rfl⟩ :=
      readScenes_cons_eq_ok.mp read
    intro other member
    rcases List.mem_cons.mp member with rfl | member
    · exact readScene_outlasts readHere
    · exact ih readLater other member

theorem validate_outlast {prober : Prober ℚ} {assets : Named Upload} {value : Value}
    {start last : Workspace} {manifest : Manifest ℚ}
    (accepted : (validate prober assets value).on start = (.ok manifest, last)) :
    ∀ scene ∈ manifest.scenes, scene.OutlastsCrossfade := by
  obtain ⟨_, _, _, _, _, read, _⟩ := validate_eq_ok.mp accepted
  exact readScenes_outlast read

theorem Scene.OutlastsCrossfade.blend_lt {scene : Scene ℚ} {seconds : ℚ}
    (outlasts : scene.OutlastsCrossfade) (follows : scene.Follows index previous seconds)
    (long : cutLength < scene.seconds) : scene.planned.blendLength < scene.seconds := by
  obtain ⟨_, same, _⟩ | ⟨transition, same, _⟩ := follows.blend
  · exact same ▸ long
  · rw [same]
    refine outlasts _ ?_
    obtain ⟨cut, _⟩ | ⟨crossfade, _⟩ := follows.cases
    · simp [Scene.planned, cut] at transition
    · exact crossfade

theorem Scene.Follows.blend_lt {scene : Scene ℚ} {seconds : ℚ}
    (follows : scene.Follows index previous seconds) (before : cutLength < previous) :
    scene.planned.blendLength < previous := by
  obtain ⟨_, same, _⟩ | ⟨_, same, below⟩ := follows.blend
  · exact same ▸ before
  · exact same ▸ below

/-- Induction on the scenes: none of them is over before the blend into it is, and none is shorter than
a cut. -/
theorem blendsAfter_blended {joined : ℚ} (succession : Succession index previous scenes)
    (outlasting : ∀ scene ∈ scenes, scene.OutlastsCrossfade)
    (long : ∀ scene ∈ scenes, cutLength < scene.seconds) (before : cutLength < previous)
    (reached : previous ≤ joined) :
    ∃ blends, blendsAfter joined (scenes.map Scene.planned) = .ok blends ∧
      Blended (joined - previous) joined (scenes.map Scene.planned) blends := by
  induction succession generalizing joined with
  | nil => exact ⟨[], rfl, .nil⟩
  | @cons index previous seconds scene rest here later ih =>
    have within := here.blend_lt before
    have own := (outlasting scene List.mem_cons_self).blend_lt here (long scene List.mem_cons_self)
    have lasting := here.seconds_eq
    let length := scene.planned.blendLength
    obtain ⟨blends, drawn, blended⟩ := @ih (joined + (scene.seconds - length))
      (fun other member => outlasting other (.tail _ member))
      (fun other member => long other (.tail _ member))
      (lasting ▸ long scene List.mem_cons_self) (by linarith)
    refine ⟨⟨length, joined - length⟩ :: blends, ?_, ?_⟩
    · rw [List.map_cons, blendsAfter_cons (within.le.trans reached)]
      exact congrArg (· >>= _) drawn
    · refine .cons (by simp [Blend.stop]) ?_ own ?_
      · show joined - previous < joined - length
        linarith
      · have start : joined + (scene.seconds - length) - seconds = joined - length := by linarith
        have stop : joined + (scene.seconds - length) = joined - length + scene.planned.duration := by
          show _ = joined - length + scene.seconds
          linarith
        rwa [start, stop] at blended

/-- The clips of a timeline that is at least as long as a cut everywhere are blended. -/
theorem crossfadeGraph_blended {first : Scene ℚ} {rest : List (Scene ℚ)}
    (succession : Succession 0 0 (first :: rest))
    (outlasting : ∀ scene ∈ first :: rest, scene.OutlastsCrossfade)
    (long : ∀ scene ∈ first :: rest, cutLength < scene.seconds) :
    ∃ graph blends, crossfadeGraph ((first :: rest).map Scene.planned) = .ok (graph, blends) ∧
      Blended 0 (0 + first.planned.duration) (rest.map Scene.planned) blends := by
  cases succession with
  | @cons _ _ seconds _ _ here later =>
    obtain ⟨blends, drawn, blended⟩ := blendsAfter_blended later
      (fun scene member => outlasting scene (.tail _ member))
      (fun scene member => long scene (.tail _ member))
      (here.seconds_eq ▸ long first List.mem_cons_self) le_rfl
    have listed : Montage.blends ((first :: rest).map Scene.planned) = .ok blends := by
      rw [List.map_cons, Montage.blends, Scene.planned, here.seconds_eq]
      exact drawn
    obtain ⟨graph, drawn⟩ := crossfadeGraph_of_blends listed
    refine ⟨graph, blends, drawn, ?_⟩
    rwa [sub_self, ← here.seconds_eq, ← zero_add first.seconds] at blended

/-- In the blended clips of an accepted timeline, blends start and end one after the other. A blend
starts no earlier than the one before has ended if and only if the scene between them is as long as both
together, and three scenes are seen at once if and only if one is shorter. -/
theorem blends_overlap_iff {prober : Prober ℚ} {assets : Named Upload} {value : Value}
    {start last : Workspace} {manifest : Manifest ℚ} {paths : Named Path}
    (accepted : (validate prober assets value).on start = (.ok manifest, last))
    (covered : ∀ scene ∈ manifest.scenes, (paths.get? scene.asset).isSome = true) (audio : Path) :
    ∃ plan, manifest.plan paths audio = .ok plan ∧ (plan.hasCrossfade = true →
      (∀ scene ∈ plan.scenes, cutLength < scene.duration) →
        ∃ graph blends, crossfadeGraph plan.scenes = .ok (graph, blends) ∧
          blends.length + 1 = plan.scenes.length ∧
          (∀ (index : Nat) first second scene, blends[index]? = some first →
            blends[index + 1]? = some second → plan.scenes[index + 1]? = some scene →
              first.offset < second.offset ∧ first.stop < second.stop ∧
                (first.stop ≤ second.offset ↔ first.length + second.length ≤ scene.duration)) ∧
          (Screening.Crowded (screenings 0 plan.scenes blends) ↔
            ∃ (index : Nat) (first second : Blend ℚ) (scene : ScenePlan ℚ),
              blends[index]? = some first ∧ blends[index + 1]? = some second ∧
                plan.scenes[index + 1]? = some scene ∧
                  scene.duration < first.length + second.length)) := by
  obtain ⟨notEmpty, succession, total⟩ := validate_total accepted
  refine ⟨_, plan_total notEmpty succession total covered audio, fun _ long => ?_⟩
  have outlasting : ∀ scene ∈ manifest.scenes, scene.OutlastsCrossfade := by
    obtain ⟨_, _, _, _, _, read, _⟩ := validate_eq_ok.mp accepted
    exact readScenes_outlast read
  have long : ∀ scene ∈ manifest.scenes, cutLength < scene.seconds := fun scene member =>
    long scene.planned (List.mem_map_of_mem member)
  dsimp only
  cases listed : manifest.scenes with
  | nil => exact absurd listed notEmpty
  | cons first rest =>
    rw [listed] at succession outlasting long
    obtain ⟨graph, blends, drawn, blended⟩ := crossfadeGraph_blended succession outlasting long
    have count := blended.length_eq
    refine ⟨graph, blends, drawn, ?_, ?_, ?_⟩
    · rw [count, List.map_cons, List.length_cons]
    · intro index before after scene here next between
      exact blended.consecutive here next between
    · rw [List.map_cons, blended.crowded_iff]
      constructor
      · rintro ⟨index, before, after, here, next, overlap⟩
        obtain ⟨within, _⟩ := List.getElem?_eq_some_iff.mp here
        obtain ⟨scene, between⟩ : ∃ scene, (rest.map Scene.planned)[index]? = some scene :=
          ⟨_, List.getElem?_eq_getElem (count ▸ within)⟩
        have fits := (blended.consecutive here next between).2.2
        exact ⟨index, before, after, scene, here, next, between,
          not_le.mp (fits.not.mp (not_le.mpr overlap))⟩
      · rintro ⟨index, before, after, scene, here, next, between, short⟩
        have fits := (blended.consecutive here next between).2.2
        exact ⟨index, before, after, here, next, not_le.mp (fits.not.mpr (not_le.mpr short))⟩

end Exact

/-- Images shown for three seconds each, the second and the third of which fade in for some seconds. -/
def threeImages (second third : Int) : Value :=
  let image := [(Value.text "assetId", Value.text "cover"), (.text "type", .text "IMAGE"),
    (.text "durationSec", .int 3)]
  let faded (length : Int) := image ++ [(Value.text "transition", Value.map [
    (.text "type", .text "CROSSFADE"), (.text "transitionDurationSec", .int length)])]
  .map [(.text "outputPreset", .text "LANDSCAPE_16_9"),
    (.text "scenes", .list [.map image, .map (faded second), .map (faded third)])]

/-- Images of three seconds can be blended for two seconds and for one: the second blend starts when
the first one ends, and no three images are seen at once. -/
theorem threeImages_apart :
    letI : DoubleReading := .thousandth
    let prober : Prober ℚ := fun _ => pure 0
    let assets : Named Upload := [("cover", .ofBytes [1] "image/png" none)]
    let paths : Named Path := [("cover", .ofText "/cover.png")]
    let start : Workspace := ⟨⟨[], [], []⟩, 0, 0, 0, []⟩
    ∃ manifest plan graph first second,
      ((validate prober assets (threeImages 2 1)).on start).1 = .ok manifest ∧
      manifest.plan paths (.ofText "/audio.wav") = .ok plan ∧
      crossfadeGraph plan.scenes = .ok (graph, [first, second]) ∧
      first.stop ≤ second.offset ∧
      ¬Screening.Crowded (screenings 0 plan.scenes [first, second]) := by
  let _ : DoubleReading := .thousandth
  intro prober assets paths start
  have checked : ((validate prober assets (threeImages 2 1)).on start).1.toOption.any (fun manifest =>
      manifest.scenes.all (fun scene => (paths.get? scene.asset).isSome) &&
        (manifest.plan paths (.ofText "/audio.wav")).toOption.any fun plan =>
          plan.hasCrossfade && plan.scenes.map ScenePlan.duration == [3, 3, 3] &&
            cutLength == 1 / 1000 && (crossfadeGraph plan.scenes).toOption.any fun drawn =>
              drawn.2.map Blend.length == [2, 1]) = true := by
    decide +kernel
  obtain ⟨manifest, accepted, checked⟩ := Except.toOption_any.mp checked
  rw [Bool.and_eq_true, List.all_eq_true] at checked
  obtain ⟨covered, checked⟩ := checked
  obtain ⟨plan, planned, layout⟩ :=
    blends_overlap_iff (Prod.ext accepted rfl) covered (.ofText "/audio.wav")
  obtain ⟨same, found, checked⟩ := Except.toOption_any.mp checked
  obtain rfl := Except.ok.inj (planned.symm.trans found)
  simp only [Bool.and_eq_true, beq_iff_eq] at checked
  obtain ⟨⟨⟨crossfade, durations⟩, cut⟩, checked⟩ := checked
  have lasting (scene : ScenePlan ℚ) (member : scene ∈ plan.scenes) : scene.duration = 3 := by
    have listed : scene.duration ∈ plan.scenes.map ScenePlan.duration := List.mem_map_of_mem member
    simpa [durations] using listed
  obtain ⟨graph, blends, drawn, _, pairs, crowded⟩ := layout crossfade fun scene member => by
    rw [lasting scene member, cut]
    norm_num
  obtain ⟨made, found, lengths⟩ := Except.toOption_any.mp checked
  obtain rfl := Except.ok.inj (drawn.symm.trans found)
  obtain ⟨first, rest, rfl, two, lengths⟩ := List.map_eq_cons_iff.mp (beq_iff_eq.mp lengths)
  obtain ⟨second, rest, rfl, one, lengths⟩ := List.map_eq_cons_iff.mp lengths
  obtain rfl := List.map_eq_nil_iff.mp lengths
  have several : 1 < plan.scenes.length := by
    have count := congrArg List.length durations
    rw [List.length_map] at count
    rw [count]
    decide
  have between : plan.scenes[1]? = some plan.scenes[1] := List.getElem?_eq_getElem several
  have fits := (pairs 0 first second _ rfl rfl between).2.2
  refine ⟨manifest, plan, graph, first, second, accepted, planned, drawn, ?_, ?_⟩
  · rw [fits, two, one, lasting _ (List.getElem_mem several)]
    norm_num
  · rw [crowded]
    rintro ⟨index, before, after, scene, here, next, found, short⟩
    -- There is but one pair of blends.
    cases index with
    | succ index => simp at next
    | zero =>
      obtain rfl := Option.some.inj here
      obtain rfl := Option.some.inj next
      rw [lasting scene (List.mem_of_getElem? found), two, one] at short
      norm_num at short

/-- Images of three seconds that fade into one another for two are accepted and blended. The second
blend starts when the first one has a second to go, and after two and a half seconds all three images
are seen. -/
theorem threeImages_crowd :
    letI : DoubleReading := .thousandth
    let prober : Prober ℚ := fun _ => pure 0
    let assets : Named Upload := [("cover", .ofBytes [1] "image/png" none)]
    let paths : Named Path := [("cover", .ofText "/cover.png")]
    let start : Workspace := ⟨⟨[], [], []⟩, 0, 0, 0, []⟩
    ∃ manifest plan graph first second,
      ((validate prober assets (threeImages 2 2)).on start).1 = .ok manifest ∧
      manifest.plan paths (.ofText "/audio.wav") = .ok plan ∧ plan.hasCrossfade = true ∧
      (∀ scene ∈ plan.scenes, 1 / 1000 < scene.duration) ∧
      crossfadeGraph plan.scenes = .ok (graph, [first, second]) ∧
      ¬first.stop ≤ second.offset ∧
      Screening.Crowded (screenings 0 plan.scenes [first, second]) := by
  let _ : DoubleReading := .thousandth
  intro prober assets paths start
  have checked : ((validate prober assets (threeImages 2 2)).on start).1.toOption.any (fun manifest =>
      (manifest.plan paths (.ofText "/audio.wav")).toOption.any fun plan =>
        plan.hasCrossfade && plan.scenes.all (fun scene => 1 / 1000 < scene.duration) &&
          (crossfadeGraph plan.scenes).toOption.any fun drawn =>
            drawn.2.map Blend.stop == [3, 4] && drawn.2.map Blend.offset == [1, 2] &&
              screenings 0 plan.scenes drawn.2 == [⟨0, 3⟩, ⟨1, 4⟩, ⟨2, 5⟩]) = true := by
    decide +kernel
  obtain ⟨manifest, accepted, checked⟩ := Except.toOption_any.mp checked
  obtain ⟨plan, planned, checked⟩ := Except.toOption_any.mp checked
  simp only [Bool.and_eq_true, List.all_eq_true, decide_eq_true_iff] at checked
  obtain ⟨⟨crossfade, long⟩, checked⟩ := checked
  obtain ⟨⟨graph, blends⟩, drawn, checked⟩ := Except.toOption_any.mp checked
  simp only [Bool.and_eq_true, beq_iff_eq] at checked
  obtain ⟨⟨stops, offsets⟩, shown⟩ := checked
  obtain ⟨first, rest, rfl, stop, stops⟩ := List.map_eq_cons_iff.mp stops
  obtain ⟨second, rest, rfl, _, stops⟩ := List.map_eq_cons_iff.mp stops
  obtain rfl := List.map_eq_nil_iff.mp stops
  have offset : second.offset = 2 := by simpa using (List.cons.inj offsets).2
  refine ⟨manifest, plan, graph, first, second, accepted, planned, crossfade, long, drawn, ?_,
    5 / 2, ⟨0, 3⟩, ⟨1, 4⟩, ⟨2, 5⟩, ?_, ?_⟩
  · rw [stop, offset]
    norm_num
  · rw [shown]
  · norm_num [Screening.Shows]

end Montage
