import Montage.Proofs.Manifest.Normal
import Montage.Proofs.Manifest.Planned
import Montage.Proofs.Number.Range

/-! Finite times of an accepted manifest. What a raw scene says is checked to be finite; what a
probe answers enters unchecked, and a scene of NaN seconds passes every later check. -/

namespace Montage

namespace Binary64

/-- What does not stay below `epsilon` counts as more than zero, unless it is NaN. -/
theorem zero_le_of_not_le_epsilon {value : Binary64} (number : value ≠ nan)
    (counts : value.le epsilon = false) : zero.le value = true := by
  cases value with
  | nan => exact absurd rfl number
  | infinite negative =>
    cases negative with
    | true =>
      obtain ⟨_, _, _, same⟩ := finite_of_isFinite epsilon_finite
      rw [same] at counts
      cases counts
    | false => exact le_infinite zero_finite
  | finite sign units representable =>
    have above : ¬ (finite sign units representable).le epsilon = true := by simp [counts]
    rw [le_iff rfl epsilon_finite, not_le] at above
    rw [le_iff zero_finite rfl, exact_zero]
    exact (epsilon_pos.trans above).le

end Binary64

/-- The times of a scene that do not depend on how long it is shown are finite. -/
structure Scene.Anchored (scene : Scene Number) : Prop where
  clipStart : scene.clipStart.isFinite = true
  caption : ∀ caption ∈ scene.caption, caption.start.isFinite = true
  crossfade : ∀ length, scene.crossfade? = some length →
    ∃ seconds, length = some (.double seconds) ∧ seconds.isFinite = true

/-- All times of a scene are finite. -/
structure Scene.Finite (scene : Scene Number) : Prop extends scene.Anchored where
  shown : ∃ seconds, scene.shown? = some seconds ∧ seconds.isFinite = true
  stop : ∀ caption ∈ scene.caption, caption.stop.isFinite = true

/-- All times of a manifest are finite, and it is not longer than allowed. -/
structure Manifest.Finite (manifest : Manifest Number) : Prop where
  scenes : ∀ scene ∈ manifest.scenes, scene.Finite
  total : manifest.total.Within 0 (36000 + 1 / 10 ^ 9)

/-- A scene of NaN seconds. -/
def Scene.Unmeasured (scene : Scene Number) : Prop :=
  scene.shown? = some (.double .nan)

/-- A probe answered NaN for the asset of a scene. -/
structure Scene.Misprobed (prober : Prober Number) (assets : Named Upload) (seen : Workspace → Prop)
    (scene : Scene Number) : Prop where
  kind : scene.kind = .video
  answer : ∃ upload workspace, assets.get? scene.asset = some upload ∧ seen workspace ∧
    ((prober upload).on workspace).1 = .ok (.double .nan)

section Scenes

open Binary64

variable {prober : Prober Number} {assets : Named Upload} {start last : Workspace}

/-- The seconds of a clip are NaN only if those of its source are. -/
theorem readShown_double {entries : List (Value × Value)} {field : Field} {upload : Upload}
    {asset : String} {index : Nat} {begin : Binary64} {kind : SceneKind} {shown : Number}
    (finite : begin.isFinite = true)
    (lasts : (readShown prober entries field upload asset index (Number.double begin) kind).on
      start = (.ok shown, last)) :
    ∃ seconds, shown = .double seconds ∧ (seconds ≠ .nan → zero.le seconds = true) ∧
      (seconds = .nan → kind = .video ∧ ((prober upload).on start).1 = .ok (.double .nan)) ∧
      Probed prober start last := by
  cases kind with
  | image =>
    obtain ⟨read, rfl⟩ := Prod.mk.inj lasts
    obtain ⟨seconds, duration, rfl⟩ := Except.map_eq_ok.mp read
    obtain ⟨_, secondsFinite, above, _⟩ := readImageDuration_ok duration
    refine ⟨seconds, rfl, fun _ => ?_, ?_, .start⟩
    · rw [le_iff zero_finite secondsFinite, exact_zero]
      exact le_trans (by norm_num) above
    · rintro rfl
      cases secondsFinite
  | video =>
    obtain ⟨_, _, ⟨_, rfl, given, read, counts, rfl⟩ | ⟨_, source, probed, difference, counts⟩⟩ :=
      readClipLength_eq_ok.mp lasts
    · refine ⟨given, rfl, fun number => zero_le_of_not_le_epsilon number counts, ?_, .start⟩
      rintro rfl
      cases readNumber_finite read
    · obtain ⟨value, nearest, rfl⟩ := Number.sub_double_ok difference
      refine ⟨value - begin, rfl, fun number => zero_le_of_not_le_epsilon number counts, ?_, ?_⟩
      · intro same
        obtain rfl := eq_nan_of_sub finite same
        cases source with
        | int whole =>
          have wholeFinite : (Number.int whole).isFinite = true := rfl
          cases Number.isFinite_of_toDouble wholeFinite nearest
        | double value =>
          obtain rfl := Except.ok.inj nearest
          exact ⟨rfl, congrArg Prod.fst probed⟩
      · have left : ((prober upload).on start).2 = last := congrArg Prod.snd probed
        exact left ▸ Probed.probe upload .start

/-- What is known of the times of a scene that is shown for some seconds. -/
structure SceneTimes (prober : Prober Number) (assets : Named Upload) (start last : Workspace)
    (scene : Scene Number) (seconds : Binary64) : Prop where
  shown : scene.shown? = some (.double seconds)
  anchored : scene.Anchored
  counts : seconds ≠ .nan → zero.le seconds = true
  measured : prober.Finite → seconds.isFinite = true
  stop : seconds.isFinite = true → ∀ caption ∈ scene.caption, caption.stop.isFinite = true
  overlap : ∀ length, scene.crossfade? = some (some (.double length)) →
    (Number.double length).Within (1 / 5) 2 ∧
      (seconds.isFinite = true → length.exact + epsilon.exact < seconds.exact)
  misprobed : seconds = .nan → scene.Misprobed prober assets (· = start)
  probed : Probed prober start last

theorem readCaption_times {value : Value} {field : Field} {seconds : Binary64}
    {caption : Option (Caption Number)}
    (read : readCaption value field (Number.double seconds) = .ok caption) :
    ∀ shown ∈ caption, shown.start.isFinite = true ∧
      (seconds.isFinite = true → shown.stop.isFinite = true) := by
  obtain ⟨_, rfl⟩ | ⟨entries, text, begin, stop, position, _, parts, rfl⟩ :=
    readCaption_eq_ok.mp read
  · exact nofun
  · rintro _ ⟨⟩
    refine ⟨(readStart_ok parts.begins).1, fun finite => ?_⟩
    obtain ⟨found, foundFinite, rfl⟩ := readStop_ok finite parts.ends
    exact foundFinite

/-- A length that does not come near another one is below it by more than the margin. -/
theorem reaches_apart {length limit : Binary64} (lengthFinite : length.isFinite = true)
    (limitFinite : limit.isFinite = true)
    (below : reaches (Number.double length) (Number.double limit) = .ok false) :
    length.exact + epsilon.exact < limit.exact := by
  by_contra near
  have reached := sub_le limitFinite epsilon_finite lengthFinite (by linarith)
  rw [reaches_eq_ok_false.mp below] at reached
  cases reached

theorem readTransition_times {value : Value} {field : Field} {index : Nat} {previous : Number}
    {seconds : Binary64} {transition : Transition Number}
    (read : readTransition value field index previous (Number.double seconds) = .ok transition) :
    ∀ length, transition = ⟨.crossfade, length⟩ → ∃ overlap : Binary64,
      length = some (.double overlap) ∧ (Number.double overlap).Within (1 / 5) 2 ∧
        (seconds.isFinite = true → overlap.exact + epsilon.exact < seconds.exact) := by
  obtain ⟨_, _, _, _, ⟨_, rfl⟩ | ⟨length, _, _, readLength, rfl⟩⟩ := readTransition_eq_ok.mp read
  · exact nofun
  · rintro _ ⟨⟩
    obtain ⟨number, readNumber, allowed, _, own, rfl⟩ := readCrossfade_eq_ok.mp readLength
    have numberFinite := readNumber_finite readNumber
    have within := bounds_inside.1.allow numberFinite allowed
    exact ⟨number, rfl, ⟨numberFinite, within⟩, fun finite => reaches_apart numberFinite finite own⟩

theorem readScene_times {index : Nat} {previous shown : Number} {value : Value}
    {scene : Scene Number}
    (read : (readScene prober assets index previous value).on start = (.ok (scene, shown), last)) :
    ∃ seconds, shown = .double seconds ∧ SceneTimes prober assets start last scene seconds := by
  obtain ⟨entries, parts, rfl, made, rfl⟩ := readScene_eq_ok.mp read
  obtain ⟨beginFinite, notNegative⟩ := readStart_ok made.begin
  obtain ⟨seconds, rfl, counts, unmeasured, probed⟩ := readShown_double beginFinite made.lasts
  have caption := readCaption_times made.caption
  have transition := readTransition_times made.transition
  have crossfade (length : Option Number)
      (fades : (parts.scene (.double seconds)).crossfade? = some length) :=
    transition length (parts.crossfade?_scene.mp fades)
  refine ⟨seconds, rfl, {
    counts, probed
    shown := parts.shown?_scene _
    anchored := {
      clipStart := ?_
      caption := fun shown written => (caption shown written).1
      crossfade := fun length fades => ?_ }
    measured := fun honest => ?_
    stop := fun finite shown written => (caption shown written).2 finite
    overlap := fun length fades => ?_
    misprobed := fun same => ⟨(unmeasured same).1, parts.upload, start, made.upload.1, rfl,
      (unmeasured same).2⟩ }⟩
  · unfold SceneParts.scene
    dsimp only
    split
    · exact zero_finite
    · exact beginFinite
  · obtain ⟨overlap, same, within, _⟩ := crossfade length fades
    exact ⟨overlap, same, within.1⟩
  · obtain ⟨_, ⟨_, same, finite, _⟩, _⟩ := readShown_ok honest beginFinite notNegative made.lasts
    cases same
    exact finite
  · obtain ⟨overlap, same, known⟩ := crossfade _ fades
    cases same
    exact known

/-- The double that a timeline of some seconds grows to with a scene. -/
def Scene.grown (scene : Scene Number) (total seconds : Binary64) : Binary64 :=
  match scene.crossfade? with
  | some (some (.double length)) => total + seconds - length
  | _ => total + seconds

theorem growTotal_double {scene : Scene Number} (anchored : scene.Anchored)
    (total seconds : Binary64) :
    growTotal (Number.double total) scene (Number.double seconds) =
      .ok (.double (scene.grown total seconds)) := by
  unfold growTotal Scene.grown
  cases fades : scene.crossfade? with
  | none => rfl
  | some length =>
    obtain ⟨overlap, rfl, _⟩ := anchored.crossfade length fades
    rfl

/-- NaN seconds make a timeline one of NaN seconds, and it stays so. -/
theorem Scene.grown_nan {scene : Scene Number} {total seconds : Binary64}
    (lost : total = .nan ∨ seconds = .nan) : scene.grown total seconds = .nan := by
  have sum : total + seconds = .nan := by
    obtain rfl | rfl := lost
    · rfl
    · exact add_nan total
  unfold Scene.grown
  split
  · rw [sum]
    rfl
  · exact sum

/-- Once infinite, a timeline stays so. -/
theorem SceneTimes.grown_infinite {scene : Scene Number} {total seconds : Binary64}
    (times : SceneTimes prober assets start last scene seconds)
    (sum : total + seconds = .infinite false) : scene.grown total seconds = .infinite false := by
  unfold Scene.grown
  split
  · rename_i length fades
    rw [sum]
    exact infinite_sub (times.overlap length fades).1.1
  · exact sum

/-- Without NaN a timeline grows from zero upwards. -/
theorem SceneTimes.grown {scene : Scene Number} {total seconds : Binary64}
    (times : SceneTimes prober assets start last scene seconds) (number : seconds ≠ .nan)
    (counts : zero.le total = true) :
    zero.le (scene.grown total seconds) = true ∧
      ((scene.grown total seconds).isFinite = true →
        total.isFinite = true ∧ seconds.isFinite = true) := by
  obtain totalFinite | rfl := finite_or_infinite_of_le zero_finite counts
  · obtain secondsFinite | rfl := finite_or_infinite_of_le zero_finite (times.counts number)
    · refine ⟨?_, fun _ => ⟨totalFinite, secondsFinite⟩⟩
      have notNegative := (le_iff zero_finite totalFinite).mp counts
      have forward := (le_iff zero_finite secondsFinite).mp (times.counts number)
      rw [exact_zero] at notNegative forward
      unfold Scene.grown
      split
      · rename_i length fades
        obtain ⟨⟨lengthFinite, _⟩, short⟩ := times.overlap length fades
        have reached : length.le (total + seconds) = true := by
          apply le_add totalFinite secondsFinite lengthFinite
          linarith [short secondsFinite, epsilon_pos]
        obtain sumFinite | sum := finite_or_infinite_of_le lengthFinite reached
        · apply le_sub sumFinite lengthFinite zero_finite
          rw [le_iff lengthFinite sumFinite] at reached
          rw [exact_zero]
          linarith
        · rw [sum, infinite_sub lengthFinite]
          exact le_infinite zero_finite
      · apply le_add totalFinite secondsFinite zero_finite
        rw [exact_zero]
        linarith
    · rw [times.grown_infinite (add_infinite zero_finite counts)]
      exact ⟨le_infinite zero_finite, nofun⟩
  · rw [times.grown_infinite (infinite_add zero_finite (times.counts number))]
    exact ⟨le_infinite zero_finite, nofun⟩

/-- What is known of the times of scenes that a timeline grows by. -/
structure ScenesTimes (prober : Prober Number) (assets : Named Upload) (seen : Workspace → Prop)
    (scenes : List (Scene Number)) (total final : Binary64) : Prop where
  anchored : ∀ scene ∈ scenes, scene.Anchored
  misprobed : ∀ scene ∈ scenes, scene.Unmeasured → scene.Misprobed prober assets seen ∧ final = .nan
  lost : total = .nan → final = .nan
  counts : (∀ scene ∈ scenes, ¬ scene.Unmeasured) → zero.le total = true → zero.le final = true
  finite : (∀ scene ∈ scenes, ¬ scene.Unmeasured) → zero.le total = true → final.isFinite = true →
    total.isFinite = true ∧ ∀ scene ∈ scenes, scene.Finite

theorem Scene.Misprobed.mono {seen wider : Workspace → Prop} {scene : Scene Number}
    (misprobed : scene.Misprobed prober assets seen)
    (within : ∀ workspace, seen workspace → wider workspace) :
    scene.Misprobed prober assets wider := by
  obtain ⟨kind, upload, workspace, named, known, answer⟩ := misprobed
  exact ⟨kind, upload, workspace, named, within workspace known, answer⟩

/-- Induction on the raw scenes, with the total that each of them leaves to the next. -/
theorem readScenes_times {origin : Workspace} {values : List Value} {index : Nat}
    {previous final : Number} {total : Binary64} {scenes : List (Scene Number)}
    (reached : Probed prober origin start)
    (read : (readScenes prober assets index previous (Number.double total) values).on start =
      (.ok (scenes, final), last)) :
    ∃ length, final = .double length ∧
      ScenesTimes prober assets (Probed prober origin) scenes total length := by
  induction values generalizing index previous total start scenes with
  | nil =>
    obtain ⟨rfl, rfl, rfl⟩ := readScenes_nil_eq_ok.mp read
    exact ⟨total, rfl, by simp, by simp, id, fun _ => id, fun _ _ finite => ⟨finite, by simp⟩⟩
  | cons value rest ih =>
    obtain ⟨scene, shown, grown, later, middle, readHere, counted, readLater, rfl⟩ :=
      readScenes_cons_eq_ok.mp read
    obtain ⟨seconds, rfl, here⟩ := readScene_times readHere
    obtain rfl := Except.ok.inj ((growTotal_double here.anchored total seconds).symm.trans counted)
    obtain ⟨length, rfl, after⟩ := ih (reached.trans here.probed) readLater
    have measured {found : Scene Number} (unmeasured : ¬ found.Unmeasured)
        (shown : found.shown? = some (.double seconds)) : seconds ≠ .nan := by
      rintro rfl
      exact unmeasured shown
    refine ⟨length, rfl, {
      anchored := List.forall_mem_cons.mpr ⟨here.anchored, after.anchored⟩
      misprobed := List.forall_mem_cons.mpr ⟨fun unmeasured => ?_, after.misprobed⟩
      lost := fun same => after.lost (Scene.grown_nan (.inl same))
      counts := fun unmeasured counts => ?_
      finite := fun unmeasured counts finite => ?_ }⟩
    · have same : seconds = .nan := by
        simpa [here.shown, Scene.Unmeasured] using unmeasured
      refine ⟨(here.misprobed same).mono fun _ seen => seen ▸ reached, ?_⟩
      exact after.lost (Scene.grown_nan (.inr same))
    · obtain ⟨head, tail⟩ := List.forall_mem_cons.mp unmeasured
      exact after.counts tail (here.grown (measured head here.shown) counts).1
    · obtain ⟨head, tail⟩ := List.forall_mem_cons.mp unmeasured
      obtain ⟨grownCounts, before⟩ := here.grown (measured head here.shown) counts
      obtain ⟨grownFinite, laterFinite⟩ := after.finite tail grownCounts finite
      obtain ⟨totalFinite, secondsFinite⟩ := before grownFinite
      refine ⟨totalFinite, List.forall_mem_cons.mpr ⟨?_, laterFinite⟩⟩
      exact {
        toAnchored := here.anchored
        shown := ⟨_, here.shown, secondsFinite⟩
        stop := here.stop secondsFinite }

/-- The most seconds that a timeline may have, with the margin. -/
def longest : Binary64 := nearestInt maxTotalSeconds + epsilon

theorem longest_finite : longest.isFinite = true := by
  decide +kernel

theorem longest_le : longest.exact ≤ 36000 + 1 / 10 ^ 9 := by
  have units : longest.signedUnits * (10 ^ 9 : Nat) ≤ (36000 * 10 ^ 9 + 1) * Binary64.unit := by
    decide +kernel
  have bound := (exact_le_div_iff (by decide)).mpr units
  exact bound.trans (by norm_num)

theorem checkTotal_number (total : Number) :
    checkTotal total = if (Number.double longest).lt total then
      .error (.invalid .scenes (.timelineTooLong maxTotalSeconds)) else .ok () := by
  have sum : Quantity.add (Quantity.ofDouble (nearestInt maxTotalSeconds))
      (Quantity.ofDouble epsilon) = .ok (Number.double longest) := rfl
  unfold checkTotal
  dsimp only
  rw [sum]
  rfl

theorem checkTotal_eq_ok {total : Binary64} :
    checkTotal (Number.double total) = .ok () ↔ longest.lt total = false := by
  have compared : (Number.double longest).lt (.double total) = longest.lt total := rfl
  rw [checkTotal_number, compared]
  split
  · rename_i above
    rw [above]
    exact ⟨nofun, nofun⟩
  · rename_i within
    exact ⟨fun _ => Bool.eq_false_iff.mpr within, fun _ => rfl⟩

theorem checkTotal_ok {total : Binary64} (counts : zero.le total = true)
    (checked : checkTotal (Number.double total) = .ok ()) :
    (Number.double total).Within 0 (36000 + 1 / 10 ^ 9) := by
  have short : longest.lt total = false := checkTotal_eq_ok.mp checked
  obtain finite | rfl := finite_or_infinite_of_le zero_finite counts
  · rw [le_iff zero_finite finite, exact_zero] at counts
    have within := mt (lt_iff longest_finite finite).mpr (Bool.eq_false_iff.mp short)
    exact ⟨finite, counts, (not_lt.mp within).trans longest_le⟩
  · obtain ⟨_, _, _, same⟩ := finite_of_isFinite longest_finite
    rw [same] at short
    cases short

/-- All times of an accepted manifest are finite, and the total is not above the limit, exactly when
no scene has NaN seconds. Only a video can have them, for which a probe answered NaN; the total is
NaN then, and the rest of the times that the raw scenes gave are still finite. -/
theorem validate_finite_iff {value : Value} {manifest : Manifest Number}
    (accepted : (validate prober assets value).on start = (.ok manifest, last)) :
    (manifest.Finite ↔ ∀ scene ∈ manifest.scenes, ¬ scene.Unmeasured) ∧
      (∀ scene ∈ manifest.scenes, scene.Anchored) ∧
      ∀ scene ∈ manifest.scenes, scene.Unmeasured →
        scene.Misprobed prober assets (Probed prober start) ∧ manifest.total = .double .nan := by
  obtain ⟨entries, raws, _, _, _, read, checked⟩ := validate_eq_ok.mp accepted
  obtain ⟨length, total, times⟩ := readScenes_times .start read
  have counts : zero.le zero = true := (le_iff zero_finite zero_finite).mpr le_rfl
  refine ⟨⟨fun finite scene member unmeasured => ?_, fun measured => ?_⟩, times.anchored, ?_⟩
  · obtain ⟨seconds, shown, secondsFinite⟩ := (finite.scenes scene member).shown
    obtain rfl := Option.some.inj (shown.symm.trans unmeasured)
    cases secondsFinite
  · rw [total] at checked
    have within := checkTotal_ok (times.counts measured counts) checked
    exact {
      scenes := (times.finite measured counts within.1).2
      total := total ▸ within }
  · intro scene member unmeasured
    obtain ⟨misprobed, rfl⟩ := times.misprobed scene member unmeasured
    exact ⟨misprobed, total⟩

end Scenes

/-- A probe that finds no number of seconds in anything. -/
def nanSeconds : Prober Number := fun _ => pure (.double .nan)

/-- A captioned video that lasts as long as its source. -/
def unmeasuredClip : Value := .map [
  (.text "outputPreset", .text "LANDSCAPE_16_9"),
  (.text "scenes", .list [
    .map [(.text "assetId", .text "clip"), (.text "type", .text "VIDEO"),
      (.text "caption", .map [(.text "text", .text "Hello")])]])]

/-- What `unmeasuredClip` is read as where the probe answers NaN. -/
def unmeasuredManifest : Manifest Number where
  preset := .landscape
  scenes := [{
    asset := "clip", kind := .video, duration := none, clipStart := .double .zero
    clipLength := some (.double .nan), motion := .none
    caption := some ⟨"Hello", .double .zero, .double .nan, .bottom⟩
    transition := some .cut
    visualEdit := some ⟨.none, some ⟨.double .zero, .double .one, .double .one⟩, none⟩ }]
  total := .double .nan

theorem unmeasuredClip_accepted :
    (validate nanSeconds coverAndClipAssets unmeasuredClip).on .bare =
      (.ok unmeasuredManifest, .bare) := by
  decide +kernel

/-- An accepted manifest with a clip, a caption and a total that are not finite. -/
theorem unmeasuredClip_endless :
    (validate nanSeconds coverAndClipAssets unmeasuredClip).on .bare =
        (.ok unmeasuredManifest, .bare) ∧
      unmeasuredManifest.total.isFinite = false ∧
      ∃ scene ∈ unmeasuredManifest.scenes, scene.clipLength = some (.double .nan) ∧
        ∃ caption ∈ scene.caption, caption.stop.isFinite = false :=
  ⟨unmeasuredClip_accepted, rfl, _, List.mem_cons_self, rfl, _, rfl, rfl⟩

theorem unmeasuredClip_misprobed :
    (validate nanSeconds coverAndClipAssets unmeasuredClip).on .bare =
        (.ok unmeasuredManifest, .bare) ∧
      ¬ unmeasuredManifest.Finite ∧
      ∀ scene ∈ unmeasuredManifest.scenes,
        scene.Misprobed nanSeconds coverAndClipAssets (Probed nanSeconds .bare) := by
  obtain ⟨finite, _, misprobed⟩ := validate_finite_iff unmeasuredClip_accepted
  have unmeasured : ∀ scene ∈ unmeasuredManifest.scenes, scene.Unmeasured := by
    rintro _ (_ | ⟨_, ⟨⟩⟩)
    rfl
  refine ⟨unmeasuredClip_accepted, fun kept => ?_, fun scene member => ?_⟩
  · exact finite.mp kept _ List.mem_cons_self (unmeasured _ List.mem_cons_self)
  · exact (misprobed scene member (unmeasured scene member)).1

end Montage
