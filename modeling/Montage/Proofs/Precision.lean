import Montage.Proofs.Arguments
import Montage.Proofs.Filter.Chain
import Montage.Proofs.Manifest.Planned
import Montage.Proofs.Number.Rounding

/-! What is left of the times of a plan when they are printed with three decimals: a clip shorter
than half a millisecond is printed as none, and a caption that begins and ends near the same
millisecond as one that is never shown. -/

namespace Montage

section Rounding

/-- Seconds that are rounded to at most this many thousandths, ties going to the even number. -/
def RoundsWithin (seconds : ℚ) (count : Nat) : Prop :=
  2000 * seconds < 2 * count + 1 ∨ (2000 * seconds = 2 * count + 1 ∧ Even count)

/-- A text is a decimal of seconds that are not negative, rounded to thousandths. -/
def Printed (text : String) (seconds : ℚ) : Prop :=
  ∃ thousandths : Nat, readDecimal? text = some (thousandths / 1000 : ℚ) ∧
    ∀ count, thousandths ≤ count ↔ RoundsWithin seconds count

/-- A double that is not below zero has no sign that counts. -/
theorem signed_of_nonneg {negative : Bool} {units : Nat} {representable : Representable units}
    (notNegative : 0 ≤ (Binary64.finite negative units representable).exact) :
    (Binary64.finite negative units representable).signedUnits = units ∧
      (negative = true → units = 0) := by
  rw [← Binary64.exact_zero, Binary64.exact_le_exact_iff] at notNegative
  have zero : Binary64.zero.signedUnits = 0 := by
    simp [Binary64.zero, Binary64.ofUnits, representable_zero, Binary64.signedUnits]
  rw [zero] at notNegative
  cases negative with
  | true =>
    have none : units = 0 := by
      simp only [Binary64.signedUnits, if_true] at notNegative
      omega
    simp [Binary64.signedUnits, none]
  | false => simp [Binary64.signedUnits]

theorem printed_fixed {value : Binary64} (finite : value.isFinite = true)
    (notNegative : 0 ≤ value.exact) : Printed (value.fixed 3) value.exact := by
  obtain ⟨negative, units, representable, rfl⟩ := Binary64.finite_of_isFinite finite
  obtain ⟨unsigned, signless⟩ := signed_of_nonneg notNegative
  have unit : 0 < Binary64.unit := Nat.cast_pos.mp Binary64.unit_pos
  refine ⟨roundQuotient (units * 10 ^ 3) Binary64.unit, ?_, fun count => ?_⟩
  · rw [readDecimal?_fixed (by decide)]
    cases negative with
    | true =>
      have none : roundQuotient (0 * 10 ^ 3) Binary64.unit = 0 :=
        Nat.le_zero.mp (roundQuotient_le unit (by simp))
      rw [signless rfl, none]
      norm_num [Binary64.signed]
    | false =>
      rw [Binary64.signed, if_neg Bool.false_ne_true]
      norm_num
  · have scaled : (2000 : ℚ) * (Binary64.finite negative units representable).exact =
        (2 * (units * 10 ^ 3) : Nat) / Binary64.unit := by
      rw [Binary64.exact, unsigned]
      push_cast
      ring
    have bound : (2 * count + 1 : ℚ) = ((2 * count + 1) * Binary64.unit : Nat) / Binary64.unit := by
      push_cast
      rw [mul_div_cancel_right₀ _ Binary64.unit_pos.ne']
    rw [roundQuotient_le_iff unit, RoundsWithin, scaled, bound,
      div_lt_div_iff_of_pos_right Binary64.unit_pos, div_left_inj' Binary64.unit_pos.ne',
      Nat.cast_lt, Nat.cast_inj]

theorem roundsWithin_zero {seconds : ℚ} : RoundsWithin seconds 0 ↔ seconds ≤ 1 / 2000 := by
  have even : Even 0 := Even.zero
  rw [RoundsWithin, and_iff_left even, ← le_iff_lt_or_eq]
  constructor <;> intro below <;> push_cast at * <;> linarith

/-- Exactly what is longer than half a thousandth is printed as more than nothing. -/
theorem Printed.pos_iff {text : String} {seconds : ℚ} (printed : Printed text seconds) :
    ∃ shown, readDecimal? text = some shown ∧ (0 < shown ↔ 1 / 2000 < seconds) := by
  obtain ⟨thousandths, read, rounds⟩ := printed
  refine ⟨_, read, ?_⟩
  have none : thousandths ≤ 0 ↔ seconds ≤ 1 / 2000 := (rounds 0).trans roundsWithin_zero
  rw [div_pos_iff_of_pos_right (by norm_num), Nat.cast_pos, ← not_le, none, not_le]

/-- Exactly what a half thousandth comes between is printed in its order, ties going to the even
number. More than a thousandth apart is enough. -/
theorem Printed.lt_iff {first second : String} {start stop : ℚ} (before : Printed first start)
    (after : Printed second stop) (notNegative : 0 ≤ start) :
    ∃ opens closes, readDecimal? first = some opens ∧ readDecimal? second = some closes ∧
      (opens < closes ↔ ∃ count, RoundsWithin start count ∧ ¬RoundsWithin stop count) ∧
      (1 / 1000 < stop - start → opens < closes) := by
  obtain ⟨opens, readOpens, roundsOpens⟩ := before
  obtain ⟨closes, readCloses, roundsCloses⟩ := after
  have ordered : (opens / 1000 : ℚ) < closes / 1000 ↔ opens < closes := by
    rw [div_lt_div_iff_of_pos_right (by norm_num), Nat.cast_lt]
  refine ⟨_, _, readOpens, readCloses, ?_, fun apart => ?_⟩
  · rw [ordered]
    constructor
    · intro below
      exact ⟨opens, (roundsOpens opens).mp le_rfl,
        fun within => absurd ((roundsCloses opens).mpr within) (Nat.not_le.mpr below)⟩
    · rintro ⟨count, within, beyond⟩
      have notWithin : ¬closes ≤ count := fun small => beyond ((roundsCloses count).mp small)
      exact Nat.lt_of_le_of_lt ((roundsOpens count).mpr within) (Nat.not_le.mp notWithin)
  · -- The start is not rounded down by more than half a thousandth.
    have reached : 2 * (opens : ℚ) - 1 ≤ 2000 * start := by
      cases opens with
      | zero => push_cast; linarith
      | succ fewer =>
        have beyond : ¬RoundsWithin start fewer := fun within =>
          absurd ((roundsOpens fewer).mpr within) (Nat.not_succ_le_self fewer)
        rw [RoundsWithin, not_or, not_lt] at beyond
        have := beyond.1
        push_cast
        linarith
    rw [ordered, ← Nat.not_le, roundsCloses, RoundsWithin, not_or, not_lt]
    constructor
    · linarith
    · rintro ⟨tie, _⟩
      linarith

end Rounding

section Commands

/-- The window of a caption stands at the end of its filter. -/
theorem Caption.filter_window {caption : Caption Number} {width height : Int} {filter : String}
    (written : caption.filter width height = .ok filter) :
    ∃ before start stop, decimals caption.start = .ok start ∧ decimals caption.stop = .ok stop ∧
      filter = before ++ ":enable='between(t," ++ start ++ "," ++ stop ++ ")'" := by
  obtain ⟨settings, writtenSettings, same⟩ := Except.bind_eq_ok.mp written
  obtain rfl := Except.pure_eq_ok.mp same
  simp only [Caption.settings, Except.bind_eq_ok, Except.pure_eq_ok] at writtenSettings
  obtain ⟨start, writtenStart, stop, writtenStop, rfl⟩ := writtenSettings
  let style := ":fontcolor=white:fontsize=" ++ wholeText (Int.fdiv (max width height) 24) ++
    ":box=1:boxcolor=black@0.45:boxborderw=12" ++ ":x=(w-text_w)/2:y=" ++ caption.position.height
  refine ⟨"drawtext=text='" ++ escapeText caption.text ++ "'" ++ style, start, stop, writtenStart,
    writtenStop, ?_⟩
  simp only [style, String.append_assoc]

/-- The command for a scene prints its duration, which reads as more than nothing exactly if it is
more than half a millisecond, and at the end of its filters the window of its caption, which reads as
open exactly if a half millisecond comes between its ends. -/
structure ScenePlan.PrintsTimes (scene : ScenePlan Number) (arguments : List String) : Prop where
  duration : ∃ text shown, optionValues "-t" arguments = [text] ∧ readDecimal? text = some shown ∧
    (0 < shown ↔ 1 / 2000 < scene.duration.exact) ∧ (scene.kind = .image → 0 < shown)
  caption : ∀ caption ∈ scene.caption, ∃ before start stop opens closes,
    optionValues "-vf" arguments =
      [before ++ ":enable='between(t," ++ start ++ "," ++ stop ++ ")'"] ∧
    readDecimal? start = some opens ∧ readDecimal? stop = some closes ∧
    (opens < closes ↔ ∃ count, RoundsWithin caption.start.exact count ∧
      ¬RoundsWithin caption.stop.exact count) ∧
    (1 / 1000 < caption.stop.exact - caption.start.exact → opens < closes)

theorem printed_decimals {number : Number} (double : number.IsDouble)
    (finite : number.isFinite = true) (notNegative : 0 ≤ number.exact) :
    ∃ text, decimals number = .ok text ∧ Printed text number.exact := by
  obtain ⟨value, rfl⟩ := double
  exact ⟨value.fixed 3, rfl, printed_fixed finite notNegative⟩

variable {scene : ScenePlan Number} {source : Scene Number} {assets : Named Upload}
  {seen : Workspace → Prop} {seconds : Number}

/-- A scene that keeps the rules of a manifest is rendered with times that can be read. -/
theorem ScenePlan.Shows.printsTimes (shows : scene.Shows source)
    (among : scene.Among Number.IsDouble) (shown : source.shown? = some seconds)
    (sound : source.Sound assets seen seconds) (tool : String) (asset : Path) (preset : Preset)
    (output : Path) :
    ∃ arguments, scene.command tool asset preset output = .ok arguments ∧
      scene.PrintsTimes arguments := by
  obtain ⟨arguments, written⟩ :=
    scene.command_written doubles_writable among tool asset preset output
  obtain ⟨text, chain, writtenText, writtenChain, duration, filters, _⟩ :=
    ScenePlan.command_options written
  obtain rfl : scene.duration = seconds := Option.some.inj (shows.duration.symm.trans shown)
  have allowed := sound.allowed
  have finite : scene.duration.isFinite = true ∧ 0 ≤ scene.duration.exact ∧
      (scene.kind = .image → 1 / 2 ≤ scene.duration.exact) := by
    rw [shows.kind]
    unfold SceneKind.Allows at allowed
    cases kind : source.kind with
    | image =>
      rw [kind] at allowed
      obtain ⟨finite, least, _⟩ := allowed
      exact ⟨finite, by linarith, fun _ => least⟩
    | video =>
      rw [kind] at allowed
      obtain ⟨finite, above⟩ := allowed
      exact ⟨finite, by linarith [show (0 : ℚ) < 1 / 10 ^ 9 by norm_num], nofun⟩
  obtain ⟨finite, notNegative, image⟩ := finite
  obtain ⟨found, same, printed⟩ := printed_decimals among.duration finite notNegative
  obtain rfl : found = text := Except.ok.inj (same.symm.trans writtenText)
  obtain ⟨reads, read, positive⟩ := printed.pos_iff
  refine ⟨arguments, written, ⟨found, reads, duration, read, positive, fun kind => ?_⟩, ?_⟩
  · exact positive.mpr (by linarith [image kind])
  · intro caption member
    have captioned : scene.caption = some caption := member
    have sound := sound.caption caption (shows.caption ▸ member)
    obtain ⟨startDouble, stopDouble⟩ := among.caption caption member
    obtain ⟨start, writtenStart, printedStart⟩ :=
      printed_decimals startDouble sound.finite.1 sound.start
    obtain ⟨stop, writtenStop, printedStop⟩ :=
      printed_decimals stopDouble sound.finite.2 (sound.start.trans sound.ordered.le)
    obtain ⟨opens, closes, readOpens, readCloses, ordered, apart⟩ :=
      printedStart.lt_iff printedStop sound.start
    obtain ⟨before, filter, _, writtenFilter, rfl⟩ := (chain_caption_iff captioned).mp writtenChain
    obtain ⟨front, first, second, sameStart, sameStop, rfl⟩ := Caption.filter_window writtenFilter
    obtain rfl : start = first := Except.ok.inj (writtenStart.symm.trans sameStart)
    obtain rfl : stop = second := Except.ok.inj (writtenStop.symm.trans sameStop)
    refine ⟨before ++ "," ++ front, start, stop, opens, closes, ?_, readOpens, readCloses, ordered,
      apart⟩
    rw [filters]
    simp only [String.append_assoc]

end Commands

/-- What is printed of the times of an accepted manifest. -/
theorem validate_prints {prober : Prober Number} {assets : Named Upload} {value : Value}
    {start last : Workspace} {manifest : Manifest Number} {paths : Named Path} {audio : Path}
    {plan : RenderPlan Number} (honest : prober.Finite)
    (accepted : (validate prober assets value).on start = (.ok manifest, last))
    (same : paths.SameNames assets) (planned : manifest.plan paths audio = .ok plan) :
    ∀ scene ∈ plan.scenes, ∀ tool asset output, ∃ arguments,
      scene.command tool asset plan.preset output = .ok arguments ∧
        scene.PrintsTimes arguments := by
  obtain ⟨entries, values, rfl, _, _, read, _⟩ := validate_eq_ok.mp accepted
  obtain ⟨_, ready, _⟩ := readScenes_ready read
  have sound := (readScenes_ok honest Binary64.zero_finite .start read).sound
  obtain ⟨scenes, total, made, shows, among⟩ := planScenes_ok same ready ⟨.zero, rfl⟩ 0
  have found : plan.scenes = scenes := by
    unfold Manifest.plan at planned
    split at planned
    · cases planned
    · obtain ⟨⟨others, _⟩, again, rest⟩ := Except.bind_eq_ok.mp planned
      obtain rfl := Except.pure_eq_ok.mp rest
      exact (Prod.mk.inj (Except.ok.inj (again.symm.trans made))).1
  intro scene member tool asset output
  rw [found] at member
  obtain ⟨source, listed, shown⟩ := exists_shown shows scene member
  obtain ⟨seconds, shownFor, sound⟩ := sound source listed
  exact shown.printsTimes (among scene member) shownFor sound tool asset plan.preset output

/-- A tenth of a millisecond. -/
def instantLength : Number := .double (.ofDecimal false 1 (-4))

/-- A clip that is shown for a tenth of a millisecond, with a caption. -/
def instantClip : Value := .map [
  (.text "outputPreset", .text "LANDSCAPE_16_9"),
  (.text "scenes", .list [
    .map [(.text "assetId", .text "clip"), (.text "type", .text "VIDEO"),
      (.text "clipDurationSec", .double (.ofDecimal false 1 (-4))),
      (.text "caption", .map [(.text "text", .text "Hello")])]])]

/-- The manifest that `instantClip` writes. -/
def instantManifest : Manifest Number where
  preset := .landscape
  scenes := [{
    asset := "clip", kind := .video, duration := none, clipStart := .double .zero
    clipLength := some instantLength, motion := .none
    caption := some ⟨"Hello", .double .zero, instantLength, .bottom⟩
    transition := some .cut
    visualEdit := some ⟨.none, some ⟨.double .zero, .double .one, .double .one⟩, none⟩ }]
  total := instantLength

theorem instantClip_accepted :
    (validate nineSeconds coverAndClipAssets instantClip).on .bare =
      (.ok instantManifest, .bare) := by
  decide +kernel

/-- How the clip of `instantManifest` is to be rendered. -/
def instantScene : ScenePlan Number where
  asset := "clip"
  kind := .video
  duration := instantLength
  clipStart := .double .zero
  motion := .none
  caption := some ⟨"Hello", .double .zero, instantLength, .bottom⟩
  transition := .cut
  transitionLength := .double .zero
  visualEdit := some ⟨.none, some ⟨.double .zero, .double .one, .double .one⟩, none⟩

/-- The plan for `instantManifest`. -/
def instantPlan : RenderPlan Number where
  preset := .landscape
  scenes := [instantScene]
  audio := .ofText "/audio.wav"
  assetPaths := [("cover", .ofText "/cover.png"), ("clip", .ofText "/clip.mp4")]
  total := instantLength

theorem instantManifest_planned :
    instantManifest.plan [("cover", .ofText "/cover.png"), ("clip", .ofText "/clip.mp4")]
      (.ofText "/audio.wav") = .ok instantPlan := by
  decide +kernel

/-- An accepted clip that is printed as one of no length, with a caption that is never shown. -/
theorem instantClip_vanishes :
    nineSeconds.Finite ∧
    (validate nineSeconds coverAndClipAssets instantClip).on .bare = (.ok instantManifest, .bare) ∧
    instantManifest.plan [("cover", .ofText "/cover.png"), ("clip", .ofText "/clip.mp4")]
      (.ofText "/audio.wav") = .ok instantPlan ∧
    ∃ scene ∈ instantPlan.scenes, ∃ arguments,
      scene.command "ffmpeg" (.ofText "/clip.mp4") instantPlan.preset (.ofText "/scene-0.mp4") =
        .ok arguments ∧
      optionValues "-t" arguments = ["0.000"] ∧ readDecimal? "0.000" = some 0 ∧
      ∃ before, optionValues "-vf" arguments = [before ++ ":enable='between(t,0.000,0.000)'"] := by
  refine ⟨nineSeconds_finite, instantClip_accepted, instantManifest_planned, instantScene,
    List.mem_cons_self, ?_⟩
  have printed : (instantScene.command "ffmpeg" (.ofText "/clip.mp4") instantPlan.preset
      (.ofText "/scene-0.mp4")).map (fun arguments =>
        (optionValues "-t" arguments, optionValues "-vf" arguments)) =
      .ok (["0.000"], ["scale=1920:1080:force_original_aspect_ratio=decrease," ++
        "pad=1920:1080:(ow-iw)/2:(oh-ih)/2:black,setsar=1," ++
        "drawtext=text='Hello':fontcolor=white:fontsize=80:box=1:boxcolor=black@0.45" ++
        ":boxborderw=12:x=(w-text_w)/2:y=h-text_h-h*0.08" ++
        ":enable='between(t,0.000,0.000)'"]) := by
    decide +kernel
  obtain ⟨arguments, written, shown⟩ := Except.map_eq_ok.mp printed
  obtain ⟨duration, filters⟩ := Prod.mk.inj shown
  exact ⟨arguments, written, duration, by decide +kernel, _, filters⟩

theorem instantClip_prints :
    nineSeconds.Finite ∧
    (validate nineSeconds coverAndClipAssets instantClip).on .bare = (.ok instantManifest, .bare) ∧
    instantManifest.plan [("cover", .ofText "/cover.png"), ("clip", .ofText "/clip.mp4")]
      (.ofText "/audio.wav") = .ok instantPlan ∧
    ∃ arguments, instantScene.command "ffmpeg" (.ofText "/clip.mp4") instantPlan.preset
        (.ofText "/scene-0.mp4") = .ok arguments ∧ instantScene.PrintsTimes arguments := by
  refine ⟨nineSeconds_finite, instantClip_accepted, instantManifest_planned, ?_⟩
  have prints := validate_prints nineSeconds_finite instantClip_accepted
    (Named.sameNames_of_map rfl) instantManifest_planned
  exact prints instantScene List.mem_cons_self "ffmpeg" _ _

end Montage
