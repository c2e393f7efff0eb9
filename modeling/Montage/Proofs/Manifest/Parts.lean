import Mathlib.Logic.Unique
import Montage.Manifest.Validation
import Montage.Proofs.Outcome

/-! Each reader of a manifest succeeds exactly when the readers of its parts do, with the parts put
together. What a successful reading establishes is derived from these laws. -/

namespace Montage

section Fields

variable {field : Field} {value : Value}

theorem readObject_eq_ok {entries : List (Value × Value)} :
    readObject value field = .ok entries ↔ value = .map entries := by
  cases value <;> simp [readObject]

/-- A value that may be absent is read as the default, or as what it says. -/
theorem orDefault_eq_ok {β : Type} {default found : β} {rest : Except Failure β} :
    (if value.isNull then .ok default else rest) = .ok found ↔
      (value.isNull = true ∧ found = default) ∨ (value.isNull = false ∧ rest = .ok found) := by
  cases value.isNull <;> simp [eq_comm]

theorem readStart_eq_ok {number : Binary64} :
    readStart value field = .ok number ↔
      (value.isNull = true ∧ number = .zero) ∨
        (value.isNull = false ∧ readNumber value field = .ok number ∧ number.lt .zero = false) := by
  rw [readStart, orDefault_eq_ok]
  simp [ite_eq_iff]

theorem readWithin_eq_ok {default number : Binary64} {bounds : Bounds} :
    readWithin value default bounds field = .ok number ↔
      (value.isNull = true ∧ number = default) ∨
        (value.isNull = false ∧ readNumber value field = .ok number ∧
          bounds.allow number = true) := by
  rw [readWithin, orDefault_eq_ok]
  simp [ite_eq_iff]

end Fields

section Dressing

variable {α : Type} [Quantity α] {field : Field} {value : Value}

theorem readGrade_eq_ok {grade : ColorGrade α} :
    readGrade value field = .ok grade ↔
      ∃ entries brightness contrast saturation,
        readObjectOrEmpty value (field.member "colorGrade") = .ok entries ∧
        readWithin (Value.field entries "brightness") .zero brightnessBounds
          ((field.member "colorGrade").member "brightness") = .ok brightness ∧
        readWithin (Value.field entries "contrast") .one contrastBounds
          ((field.member "colorGrade").member "contrast") = .ok contrast ∧
        readWithin (Value.field entries "saturation") .one saturationBounds
          ((field.member "colorGrade").member "saturation") = .ok saturation ∧
        grade = ⟨Quantity.ofDouble brightness, Quantity.ofDouble contrast,
          Quantity.ofDouble saturation⟩ := by
  simp only [readGrade, Except.bind_eq_ok, Except.pure_eq_ok]
  constructor
  · rintro ⟨entries, object, brightness, readBrightness, contrast, readContrast, saturation,
      readSaturation, rfl⟩
    exact ⟨entries, brightness, contrast, saturation, object, readBrightness, readContrast,
      readSaturation, rfl⟩
  · rintro ⟨entries, brightness, contrast, saturation, object, readBrightness, readContrast,
      readSaturation, rfl⟩
    exact ⟨entries, object, brightness, readBrightness, contrast, readContrast, saturation,
      readSaturation, rfl⟩

theorem readOverlay_eq_ok {overlay : Option (Overlay α)} :
    readOverlay value field = .ok overlay ↔
      (value.isNull = true ∧ overlay = none) ∨
        ∃ entries color opacity, value = .map entries ∧
          readColor (Value.field entries "hexColor") ((field.member "overlay").member "hexColor") =
            .ok color ∧
          readWithin (Value.field entries "opacity") defaultOpacity opacityBounds
            ((field.member "overlay").member "opacity") = .ok opacity ∧
          overlay =
            if opacity.le epsilon then none else some ⟨color, Quantity.ofDouble opacity⟩ := by
  rw [readOverlay, orDefault_eq_ok]
  simp only [Except.bind_eq_ok, readObject_eq_ok, ← apply_ite, Except.pure_eq_ok]
  refine or_congr_right ⟨?_, ?_⟩
  · rintro ⟨_, entries, object, color, readColor, opacity, readOpacity, same⟩
    exact ⟨entries, color, opacity, object, readColor, readOpacity, same.symm⟩
  · rintro ⟨entries, color, opacity, rfl, readColor, readOpacity, rfl⟩
    exact ⟨rfl, entries, rfl, color, readColor, opacity, readOpacity, rfl⟩

theorem readVisualEdit_eq_ok {edit : VisualEdit α} :
    readVisualEdit value field = .ok edit ↔
      ∃ entries filter grade overlay,
        readObjectOrEmpty value (field.member "visualEdit") = .ok entries ∧
        readWord (Value.field entries "filter") ((field.member "visualEdit").member "filter")
          ColorFilter.none = .ok filter ∧
        readGrade (Value.field entries "colorGrade") (field.member "visualEdit") = .ok grade ∧
        readOverlay (Value.field entries "overlay") (field.member "visualEdit") = .ok overlay ∧
        edit = ⟨filter, some grade, overlay⟩ := by
  simp only [readVisualEdit, Except.bind_eq_ok, Except.pure_eq_ok]
  constructor
  · rintro ⟨entries, object, filter, readFilter, grade, readGrade, overlay, readOverlay, rfl⟩
    exact ⟨entries, filter, grade, overlay, object, readFilter, readGrade, readOverlay, rfl⟩
  · rintro ⟨entries, filter, grade, overlay, object, readFilter, readGrade, readOverlay, rfl⟩
    exact ⟨entries, object, filter, readFilter, grade, readGrade, overlay, readOverlay, rfl⟩

theorem readStop_eq_ok {shown stop : α} :
    readStop value field shown = .ok stop ↔
      (value.isNull = true ∧ stop = shown) ∨
        (value.isNull = false ∧
          ∃ number, readNumber value field = .ok number ∧ stop = Quantity.ofDouble number) := by
  rw [readStop, orDefault_eq_ok]
  simp [@eq_comm _ stop]

/-- What a caption is read from, in a scene shown for some time. -/
structure CaptionParts (entries : List (Value × Value)) (field : Field) (shown : α)
    (text : String) (start : Binary64) (stop : α) (position : CaptionPosition) : Prop where
  written : readCaptionText (Value.field entries "text") (field.member "text") = .ok text
  begins : readStart (Value.field entries "startOffsetSec") (field.member "startOffsetSec") =
    .ok start
  ends : readStop (Value.field entries "endOffsetSec") (field.member "endOffsetSec") shown =
    .ok stop
  ordered : ∃ earliest, Quantity.add (Quantity.ofDouble start : α) (Quantity.ofDouble epsilon) =
    .ok earliest ∧ Quantity.le stop earliest = false
  inside : ∃ latest, Quantity.add shown (Quantity.ofDouble epsilon) = .ok latest ∧
    Quantity.lt latest stop = false
  placed : readWord (Value.field entries "position") (field.member "position")
    CaptionPosition.bottom = .ok position

theorem readCaption_eq_ok {shown : α} {caption : Option (Caption α)} :
    readCaption value field shown = .ok caption ↔
      (value.isNull = true ∧ caption = none) ∨
        ∃ entries text start stop position, value = .map entries ∧
          CaptionParts entries (field.member "caption") shown text start stop position ∧
          caption = some ⟨text, Quantity.ofDouble start, stop, position⟩ := by
  rw [readCaption, orDefault_eq_ok]
  simp only [Except.bind_eq_ok, Except.mapError_eq_ok, readObject_eq_ok, ite_eq_iff, reduceCtorEq,
    and_false, false_or, Bool.not_eq_true, Except.pure_eq_ok]
  refine or_congr_right ⟨?_, ?_⟩
  · rintro ⟨_, entries, object, text, written, start, begins, stop, ends, earliest, sum, after,
      latest, margin, within, position, placed, same⟩
    exact ⟨entries, text, start, stop, position, object, {
      written, begins, ends, placed
      ordered := ⟨earliest, sum, after⟩
      inside := ⟨latest, margin, within⟩ }, same.symm⟩
  · rintro ⟨entries, text, start, stop, position, rfl, parts, rfl⟩
    obtain ⟨earliest, sum, after⟩ := parts.ordered
    obtain ⟨latest, margin, within⟩ := parts.inside
    exact ⟨rfl, entries, rfl, text, parts.written, start, parts.begins, stop, parts.ends, earliest,
      sum, after, latest, margin, within, position, parts.placed, rfl⟩

theorem readCrossfade_eq_ok {previous shown length : α} :
    readCrossfade value field previous shown = .ok length ↔
      ∃ number, readNumber value field = .ok number ∧ crossfadeBounds.allow number = true ∧
        reaches (Quantity.ofDouble number) previous = .ok false ∧
        reaches (Quantity.ofDouble number) shown = .ok false ∧
        length = Quantity.ofDouble number := by
  simp [readCrossfade, ite_eq_iff, @eq_comm _ length]

theorem readTransition_eq_ok {index : Nat} {previous shown : α} {transition : Transition α} :
    readTransition value field index previous shown = .ok transition ↔
      ∃ entries kind, readObjectOrEmpty value (field.member "transition") = .ok entries ∧
        readWord (Value.field entries "type") ((field.member "transition").member "type")
          TransitionKind.cut = .ok kind ∧
        ((kind = .cut ∧ transition = .cut) ∨
          ∃ length, kind = .crossfade ∧ index ≠ 0 ∧
            readCrossfade (Value.field entries "transitionDurationSec")
              ((field.member "transition").member "transitionDurationSec") previous shown =
              .ok length ∧
            transition = ⟨.crossfade, some length⟩) := by
  simp only [readTransition, Except.bind_eq_ok, ← exists_and_left]
  refine exists_congr fun entries => exists_congr fun kind => ?_
  cases kind <;> simp [-bind_pure_comp, ite_eq_iff, @eq_comm _ transition]

end Dressing

section Scenes

variable {α : Type} [Quantity α] {prober : Prober α} {assets : Named Upload}
  {entries : List (Value × Value)} {field : Field} {upload : Upload} {asset : String} {index : Nat}
  {start last : Workspace}

theorem requireAsset_eq_ok :
    (requireAsset assets asset index).on start = (.ok upload, last) ↔
      assets.get? asset = some upload ∧ upload.isEmpty start.disk = .ok false ∧ start = last := by
  rw [requireAsset]
  cases assets.get? asset with
  | none => simp
  | some found =>
    simp only [Action.bind_eq_ok, Action.on_look, Option.some.injEq]
    constructor
    · rintro ⟨empty, _, looked, rest⟩
      obtain ⟨known, rfl⟩ := Prod.mk.inj looked
      cases empty with
      | true => cases rest
      | false =>
        obtain ⟨same, rfl⟩ := Prod.mk.inj rest
        obtain rfl := Except.ok.inj same
        exact ⟨rfl, known, rfl⟩
    · rintro ⟨rfl, known, rfl⟩
      exact ⟨false, start, by rw [known], rfl⟩

theorem readImageDuration_eq_ok {seconds : Binary64} :
    readImageDuration entries field upload asset index = .ok seconds ↔
      checkContentType upload asset index .image = .ok () ∧
        (Value.field entries "clipDurationSec").isNull = true ∧
        ((Value.field entries "clipStartSec").isNull = true ∨
          ∃ begin, readNumber (Value.field entries "clipStartSec") (field.member "clipStartSec") =
            .ok begin ∧ epsilon.lt begin = false) ∧
        readNumber (Value.field entries "durationSec") (field.member "durationSec") = .ok seconds ∧
        imageBounds.allow seconds = true := by
  simp only [readImageDuration, Except.bind_eq_ok, Unique.exists_iff, PUnit.default_eq_unit]
  -- An absent start is not read, so the length comes after a check that only a given one has.
  cases (Value.field entries "clipStartSec").isNull <;> simp [ite_eq_iff, ← and_assoc]

/-- The length of a clip is the one that is given, or what is left of the source after the start. -/
theorem readClipLength_eq_ok {begin length : α} :
    (readClipLength prober entries field upload asset index begin).on start = (.ok length, last) ↔
      checkContentType upload asset index .video = .ok () ∧
        (Value.field entries "durationSec").isNull = true ∧
        (((Value.field entries "clipDurationSec").isNull = false ∧ last = start ∧
            ∃ given, readNumber (Value.field entries "clipDurationSec")
              (field.member "clipDurationSec") = .ok given ∧ given.le epsilon = false ∧
              length = Quantity.ofDouble given) ∨
          ((Value.field entries "clipDurationSec").isNull = true ∧
            ∃ source, (prober upload).on start = (.ok source, last) ∧
              Quantity.sub source begin = .ok length ∧
              Quantity.le length (Quantity.ofDouble epsilon) = false)) := by
  simp only [readClipLength, Action.lift_bind_eq_ok, ExceptT.bind_throw, Action.unless_eq_ok,
    Unique.exists_iff, PUnit.default_eq_unit, Bool.not_eq_true', Bool.not_eq_false]
  refine and_congr_right fun _ => and_congr_right fun _ => ?_
  cases (Value.field entries "clipDurationSec").isNull with
  | false =>
    simp only [if_true, Action.lift_bind_eq_ok, Action.unless_eq_ok, Bool.not_eq_true,
      Action.on_pure, Prod.mk.injEq, Except.ok.injEq, true_and, Bool.false_eq_true, false_and, or_false]
    constructor
    · rintro ⟨given, read, counts, rfl, rfl⟩
      exact ⟨rfl, given, read, counts, rfl⟩
    · rintro ⟨rfl, given, read, counts, rfl⟩
      exact ⟨given, read, counts, rfl, rfl⟩
  | true =>
    simp only [Bool.true_eq_false, if_false, false_and, true_and, false_or]
    rw [Action.on_bind, Action.on_attempt]
    rcases (prober upload).on start with ⟨failure | source, middle⟩
    · cases failure <;> simp
    · refine Action.lift_bind_eq_ok.trans ?_
      simp only [Except.mapError_eq_ok, Action.unless_eq_ok, Bool.not_eq_true, Action.on_pure,
        Prod.mk.injEq, Except.ok.injEq]
      constructor
      · rintro ⟨_, difference, counts, rfl, rfl⟩
        exact ⟨source, ⟨rfl, rfl⟩, difference, counts⟩
      · rintro ⟨_, ⟨rfl, rfl⟩, difference, counts⟩
        exact ⟨length, difference, counts, rfl, rfl⟩

/-- What a scene is put together from, besides how long it is shown. -/
structure SceneParts (α : Type) where
  asset : String
  upload : Upload
  kind : SceneKind
  motion : Motion
  begin : Binary64
  caption : Option (Caption α)
  transition : Transition α
  visualEdit : VisualEdit α

/-- The scene of some parts that is shown for some time. -/
def SceneParts.scene (parts : SceneParts α) (shown : α) : Scene α where
  asset := parts.asset
  kind := parts.kind
  duration := if parts.kind = .image then some shown else none
  clipStart :=
    if parts.kind = .image then Quantity.ofDouble .zero else Quantity.ofDouble parts.begin
  clipLength := if parts.kind = .image then none else some shown
  motion := parts.motion
  caption := parts.caption
  transition := some parts.transition
  visualEdit := some parts.visualEdit

/-- The parts of a scene at a position are read from entries, after a scene shown for some time. -/
structure SceneParts.ReadFrom (prober : Prober α) (assets : Named Upload) (index : Nat)
    (previous : α) (entries : List (Value × Value)) (start last : Workspace)
    (parts : SceneParts α) (shown : α) : Prop where
  asset : readAssetId (Value.field entries "assetId") ((Field.scene index).member "assetId") =
    .ok parts.asset
  upload : assets.get? parts.asset = some parts.upload ∧
    parts.upload.isEmpty start.disk = .ok false
  kind : requireWord (Value.field entries "type") ((Field.scene index).member "type")
    SceneKind.image = .ok parts.kind
  motion : readWord (Value.field entries "motion") ((Field.scene index).member "motion")
    Motion.none = .ok parts.motion
  begin : readStart (Value.field entries "clipStartSec")
    ((Field.scene index).member "clipStartSec") = .ok parts.begin
  lasts : (readShown prober entries (Field.scene index) parts.upload parts.asset index
    (Quantity.ofDouble parts.begin) parts.kind).on start = (.ok shown, last)
  caption : readCaption (Value.field entries "caption") (Field.scene index) shown =
    .ok parts.caption
  transition : readTransition (Value.field entries "transition") (Field.scene index) index previous
    shown = .ok parts.transition
  visualEdit : readVisualEdit (Value.field entries "visualEdit") (Field.scene index) =
    .ok parts.visualEdit

theorem readScene_eq_ok {previous shown : α} {value : Value} {scene : Scene α} :
    (readScene prober assets index previous value).on start = (.ok (scene, shown), last) ↔
      ∃ entries parts, value = .map entries ∧
        SceneParts.ReadFrom prober assets index previous entries start last parts shown ∧
        scene = parts.scene shown := by
  simp only [readScene, ExceptT.bind_throw, Action.unless_eq_ok, Action.lift_bind_eq_ok,
    readObject_eq_ok]
  constructor
  · rintro ⟨_, entries, rfl, asset, readAsset, rest⟩
    obtain ⟨upload, _, required, rest⟩ := Action.bind_eq_ok.mp rest
    obtain ⟨named, held, rfl⟩ := requireAsset_eq_ok.mp required
    simp only [Action.lift_bind_eq_ok] at rest
    obtain ⟨kind, readKind, motion, readMotion, begin, readBegin, rest⟩ := rest
    obtain ⟨length, _, readShown, rest⟩ := Action.bind_eq_ok.mp rest
    simp only [Action.lift_bind_eq_ok] at rest
    obtain ⟨caption, readCaption, transition, readTransition, edit, readEdit, rest⟩ := rest
    obtain ⟨same, rfl⟩ := Prod.mk.inj rest
    obtain ⟨rfl, rfl⟩ := Prod.mk.inj (Except.ok.inj same)
    exact ⟨entries, ⟨asset, upload, kind, motion, begin, caption, transition, edit⟩, rfl, {
      asset := readAsset
      upload := ⟨named, held⟩
      kind := readKind
      motion := readMotion
      begin := readBegin
      lasts := readShown
      caption := readCaption
      transition := readTransition
      visualEdit := readEdit }, rfl⟩
  · rintro ⟨entries, parts, rfl, read, rfl⟩
    have required : (requireAsset assets parts.asset index).on start = (.ok parts.upload, start) :=
      requireAsset_eq_ok.mpr ⟨read.upload.1, read.upload.2, rfl⟩
    refine ⟨Bool.false_ne_true, entries, rfl, parts.asset, read.asset, ?_⟩
    refine Action.bind_eq_ok.mpr ⟨parts.upload, start, required, ?_⟩
    refine Action.lift_bind_eq_ok.mpr ⟨parts.kind, read.kind, ?_⟩
    refine Action.lift_bind_eq_ok.mpr ⟨parts.motion, read.motion, ?_⟩
    refine Action.lift_bind_eq_ok.mpr ⟨parts.begin, read.begin, ?_⟩
    refine Action.bind_eq_ok.mpr ⟨shown, last, read.lasts, ?_⟩
    refine Action.lift_bind_eq_ok.mpr ⟨parts.caption, read.caption, ?_⟩
    refine Action.lift_bind_eq_ok.mpr ⟨parts.transition, read.transition, ?_⟩
    exact Action.lift_bind_eq_ok.mpr ⟨parts.visualEdit, read.visualEdit, rfl⟩

theorem SceneParts.shown?_scene (parts : SceneParts α) (shown : α) :
    (parts.scene shown).shown? = some shown := by
  unfold SceneParts.scene Scene.shown?
  cases parts.kind <;> rfl

omit [Quantity α] in
theorem Scene.crossfade?_eq_some {scene : Scene α} {length : Option α} :
    scene.crossfade? = some length ↔ scene.transition = some ⟨.crossfade, length⟩ := by
  unfold crossfade?
  split <;> simp_all

theorem SceneParts.crossfade?_scene (parts : SceneParts α) {shown : α} {length : Option α} :
    (parts.scene shown).crossfade? = some length ↔ parts.transition = ⟨.crossfade, length⟩ :=
  Scene.crossfade?_eq_some.trans Option.some_inj

theorem SceneParts.crossfade?_scene_of_cut (parts : SceneParts α) {shown : α}
    (cut : parts.transition = .cut) : (parts.scene shown).crossfade? = none := by
  rw [Scene.crossfade?, SceneParts.scene, cut]
  rfl

theorem readScenes_nil_eq_ok {previous total final : α} {scenes : List (Scene α)} :
    (readScenes prober assets index previous total []).on start = (.ok (scenes, final), last) ↔
      scenes = [] ∧ final = total ∧ last = start := by
  simp [readScenes, and_assoc, @eq_comm _ last, @eq_comm _ final]

/-- A timeline is read scene by scene, each after the one before. -/
theorem readScenes_cons_eq_ok {previous total final : α} {value : Value} {rest : List Value}
    {scenes : List (Scene α)} :
    (readScenes prober assets index previous total (value :: rest)).on start =
        (.ok (scenes, final), last) ↔
      ∃ scene shown grown later middle,
        (readScene prober assets index previous value).on start = (.ok (scene, shown), middle) ∧
        growTotal total scene shown = .ok grown ∧
        (readScenes prober assets (index + 1) shown grown rest).on middle =
          (.ok (later, final), last) ∧
        scenes = scene :: later := by
  rw [readScenes]
  constructor
  · intro read
    obtain ⟨⟨scene, shown⟩, middle, readHere, read⟩ := Action.bind_eq_ok.mp read
    obtain ⟨grown, counted, read⟩ := Action.lift_bind_eq_ok.mp read
    obtain ⟨⟨later, _⟩, _, readLater, returned⟩ := Action.bind_eq_ok.mp read
    obtain ⟨same, rfl⟩ := Prod.mk.inj returned
    obtain ⟨rfl, rfl⟩ := Prod.mk.inj (Except.ok.inj same)
    exact ⟨scene, shown, grown, later, middle, readHere, Except.mapError_eq_ok.mp counted,
      readLater, rfl⟩
  · rintro ⟨scene, shown, grown, later, middle, readHere, counted, readLater, rfl⟩
    refine Action.bind_eq_ok.mpr ⟨(scene, shown), middle, readHere, ?_⟩
    refine Action.lift_bind_eq_ok.mpr ⟨grown, Except.mapError_eq_ok.mpr counted, ?_⟩
    exact Action.bind_eq_ok.mpr ⟨(later, final), last, readLater, rfl⟩

theorem validate_eq_ok {value : Value} {manifest : Manifest α} :
    (validate prober assets value).on start = (.ok manifest, last) ↔
      ∃ entries values, value = .map entries ∧
        requireWord (Value.field entries "outputPreset") (Field.manifest.member "outputPreset")
          Preset.landscape = .ok manifest.preset ∧
        listScenes (Value.field entries "scenes") = .ok values ∧
        (readScenes prober assets 0 (Quantity.ofDouble .zero) (Quantity.ofDouble .zero) values).on
          start = (.ok (manifest.scenes, manifest.total), last) ∧
        checkTotal manifest.total = .ok () := by
  simp only [validate, ExceptT.bind_throw, Action.unless_eq_ok, Action.lift_bind_eq_ok,
    readObject_eq_ok]
  constructor
  · rintro ⟨_, entries, rfl, preset, readPreset, values, listed, rest⟩
    obtain ⟨⟨scenes, total⟩, _, read, rest⟩ := Action.bind_eq_ok.mp rest
    obtain ⟨_, checked, rest⟩ := Action.lift_bind_eq_ok.mp rest
    obtain ⟨same, rfl⟩ := Prod.mk.inj rest
    obtain rfl := Except.ok.inj same
    exact ⟨entries, values, rfl, readPreset, listed, read, checked⟩
  · rintro ⟨entries, values, rfl, readPreset, listed, read, checked⟩
    refine ⟨Bool.false_ne_true, entries, rfl, manifest.preset, readPreset, values, listed, ?_⟩
    refine Action.bind_eq_ok.mpr ⟨(manifest.scenes, manifest.total), last, read, ?_⟩
    exact Action.lift_bind_eq_ok.mpr ⟨(), checked, rfl⟩

end Scenes

end Montage
