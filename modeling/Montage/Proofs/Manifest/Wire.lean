import Montage.Proofs.Manifest.Normal
import Montage.Proofs.Manifest.Planned

/-! Manifests written out as raw values. What validation has accepted once is read back as it was,
and no probe is needed for it. -/

namespace Montage

namespace Value

/-- Entries for the fields that are there. -/
def entriesOf (fields : List (String × Option Value)) : List (Value × Value) :=
  fields.filterMap fun (name, value) => value.map (.text name, ·)

/-- A map of the fields that are there. -/
def record (fields : List (String × Option Value)) : Value := .map (entriesOf fields)

theorem field_cons (present name : String) (value : Value) (rest : List (Value × Value)) :
    field ((.text present, value) :: rest) name =
      if present = name then value else field rest name := by
  have key : sameKey (.text present) (.text name) = (present == name) := rfl
  simp only [field, List.find?_cons, key]
  cases same : present == name with
  | true =>
    rw [if_pos (beq_iff_eq.mp same)]
    rfl
  | false => rw [if_neg (beq_eq_false_iff_ne.mp same)]

theorem field_entriesOf_absent {fields : List (String × Option Value)} {name : String}
    (absent : name ∉ fields.map Prod.fst) : field (entriesOf fields) name = .null := by
  induction fields with
  | nil => rfl
  | cons entry rest ih =>
    obtain ⟨present, value⟩ := entry
    rw [List.map_cons, List.mem_cons, not_or] at absent
    cases value with
    | none => exact ih absent.2
    | some value =>
      refine (field_cons present name value _).trans ?_
      rw [if_neg (Ne.symm absent.1)]
      exact ih absent.2

/-- A field is found under its name, null if it is not there. -/
theorem field_entriesOf {fields : List (String × Option Value)}
    (distinct : (fields.map Prod.fst).Nodup) (name : String) :
    field (entriesOf fields) name = (fields.lookup name).join.getD .null := by
  induction fields with
  | nil => rfl
  | cons entry rest ih =>
    obtain ⟨present, value⟩ := entry
    rw [List.map_cons, List.nodup_cons] at distinct
    rw [List.lookup_cons]
    by_cases same : name = present
    · subst same
      rw [beq_self_eq_true]
      cases value with
      | none =>
        change field (entriesOf rest) name = .null
        exact field_entriesOf_absent distinct.1
      | some value => exact (field_cons name name value _).trans (if_pos rfl)
    · rw [beq_eq_false_iff_ne.mpr same]
      cases value with
      | none => exact ih distinct.2
      | some value =>
        refine (field_cons present name value _).trans ?_
        rw [if_neg (Ne.symm same)]
        exact ih distinct.2

end Value

/-- Words in capitals and without blanks around them, each for one thing. -/
class Worded.Legible (β : Type) [Worded β] : Prop where
  read (known : β) : Worded.read? (Text.upper (Text.trim (Worded.word known))) = some known

instance : Worded.Legible Preset := ⟨by rintro ⟨⟩ <;> decide +kernel⟩
instance : Worded.Legible SceneKind := ⟨by rintro ⟨⟩ <;> decide +kernel⟩
instance : Worded.Legible Motion := ⟨by rintro ⟨⟩ <;> decide +kernel⟩
instance : Worded.Legible CaptionPosition := ⟨by rintro ⟨⟩ <;> decide +kernel⟩
instance : Worded.Legible TransitionKind := ⟨by rintro ⟨⟩ <;> decide +kernel⟩
instance : Worded.Legible ColorFilter := ⟨by rintro ⟨⟩ <;> decide +kernel⟩

section Wire

/-- A word as a raw value. -/
def Worded.wire {β : Type} [Worded β] (known : β) : Value := .text (Worded.word known)

/-- A number as a raw value. -/
def Number.wire : Number → Value
  | .int whole => .int whole
  | .double value => .double value

def Caption.fields (caption : Caption Number) : List (String × Option Value) := [
  ("text", some (.text caption.text)),
  ("startOffsetSec", some caption.start.wire),
  ("endOffsetSec", some caption.stop.wire),
  ("position", some (Worded.wire caption.position))]

def Transition.fields (transition : Transition Number) : List (String × Option Value) := [
  ("type", some (Worded.wire transition.kind)),
  ("transitionDurationSec", transition.length.map Number.wire)]

def ColorGrade.fields (grade : ColorGrade Number) : List (String × Option Value) := [
  ("brightness", some grade.brightness.wire),
  ("contrast", some grade.contrast.wire),
  ("saturation", some grade.saturation.wire)]

def Overlay.fields (overlay : Overlay Number) : List (String × Option Value) := [
  ("hexColor", some (.text overlay.color)),
  ("opacity", some overlay.opacity.wire)]

def VisualEdit.fields (edit : VisualEdit Number) : List (String × Option Value) := [
  ("filter", some (Worded.wire edit.filter)),
  ("colorGrade", edit.grade.map fun grade => .record grade.fields),
  ("overlay", edit.overlay.map fun overlay => .record overlay.fields)]

def Scene.fields (scene : Scene Number) : List (String × Option Value) := [
  ("assetId", some (.text scene.asset)),
  ("type", some (Worded.wire scene.kind)),
  ("durationSec", scene.duration.map Number.wire),
  ("clipStartSec", some scene.clipStart.wire),
  ("clipDurationSec", scene.clipLength.map Number.wire),
  ("motion", some (Worded.wire scene.motion)),
  ("caption", scene.caption.map fun caption => .record caption.fields),
  ("transition", scene.transition.map fun transition => .record transition.fields),
  ("visualEdit", scene.visualEdit.map fun edit => .record edit.fields)]

/-- The raw value that writes a scene. -/
def Scene.wire (scene : Scene Number) : Value := .record scene.fields

def Manifest.fields (manifest : Manifest Number) : List (String × Option Value) := [
  ("outputPreset", some (Worded.wire manifest.preset)),
  ("scenes", some (.list (manifest.scenes.map Scene.wire))),
  ("totalDurationSec", some manifest.total.wire)]

/-- The raw value that writes a manifest: every field under its name, without those that are
none. -/
def Manifest.wire (manifest : Manifest Number) : Value := .record manifest.fields

end Wire

section Dressing

variable {field : Field} {β : Type} [Worded β] [Worded.Legible β]

theorem readWord_wire (known default : β) :
    readWord (Worded.wire known) field default = .ok known := by
  simp only [readWord, Worded.wire, Worded.Legible.read known]

theorem requireWord_wire (known default : β) :
    requireWord (Worded.wire known) field default = .ok known :=
  readWord_wire known default

theorem readNumber_wire {value : Binary64} (finite : value.isFinite = true) :
    readNumber (Number.double value).wire field = .ok value :=
  if_pos finite

theorem readStart_wire {start : Binary64} (finite : start.isFinite = true)
    (notBelow : start.lt .zero = false) : readStart (Number.double start).wire field = .ok start :=
  readStart_eq_ok.mpr (.inr ⟨rfl, readNumber_wire finite, notBelow⟩)

theorem readWithin_wire {value default : Binary64} {bounds : Bounds}
    (finite : value.isFinite = true) (allowed : bounds.allow value = true) :
    readWithin (Number.double value).wire default bounds field = .ok value :=
  readWithin_eq_ok.mpr (.inr ⟨rfl, readNumber_wire finite, allowed⟩)

theorem readGrade_wire {grade : ColorGrade Number} (normal : grade.Normal) :
    readGrade (.record grade.fields) field = .ok grade := by
  obtain ⟨brightness, contrast, saturation⟩ := grade
  obtain ⟨⟨brightness, ⟨⟩, brightnessFinite, bright⟩, ⟨contrast, ⟨⟩, contrastFinite, contrasted⟩,
    ⟨saturation, ⟨⟩, saturationFinite, saturated⟩⟩ := normal
  exact readGrade_eq_ok.mpr ⟨_, brightness, contrast, saturation, rfl,
    readWithin_wire brightnessFinite bright, readWithin_wire contrastFinite contrasted,
    readWithin_wire saturationFinite saturated, rfl⟩

/-- Nothing in a color is blank. -/
private theorem solid_of_code : ∀ code : Fin 128,
    (Char.ofNat code = '#' ∨ isHexDigit (Char.ofNat code) = true) →
      Text.isBlank (Char.ofNat code) = false := by
  decide +kernel

theorem solid_of_isHexDigit {character : Char}
    (known : character = '#' ∨ isHexDigit character = true) : Text.isBlank character = false := by
  have small : character.toNat < 128 := by
    obtain rfl | hex := known
    · decide
    · exact toNat_lt_of_isHexDigit hex
  obtain ⟨code, rfl⟩ := exists_code small
  exact solid_of_code code known

/-- A color has no blanks around it. -/
theorem trim_of_isColor {color : String} (known : isColor color.toList = true) :
    Text.trim color = color := by
  have solid : ∀ character ∈ color.toList, Text.isBlank character = false := by
    unfold isColor at known
    split at known
    · rename_i digits shape
      rw [Bool.and_eq_true, List.all_eq_true] at known
      rw [shape, List.forall_mem_cons]
      exact ⟨solid_of_isHexDigit (.inl rfl),
        fun digit member => solid_of_isHexDigit (.inr (known.2 digit member))⟩
    · cases known
  have kept {text : List Char} (within : ∀ character ∈ text, Text.isBlank character = false) :
      Text.trimLeft text = text := by
    cases text with
    | nil => rfl
    | cons character rest =>
      exact List.dropWhile_cons_of_neg (by simp [within character List.mem_cons_self])
  rw [Text.trim, Text.trimList, kept solid,
    kept fun character member => solid character (List.mem_reverse.mp member),
    List.reverse_reverse, String.ofList_toList]

theorem readColor_wire {color : String} (known : isColor color.toList = true)
    (capitals : Text.upper color = color) : readColor (.text color) field = .ok color := by
  have full : color.isEmpty = false := by
    by_contra none
    obtain rfl : color = "" := by simpa using none
    cases known
  simp only [readColor, trim_of_isColor known, full, known, capitals, Bool.false_eq_true, if_false,
    if_true]

theorem readOverlay_wire {overlay : Overlay Number} (normal : overlay.Normal) :
    readOverlay (.record overlay.fields) field = .ok (some overlay) := by
  obtain ⟨color, opacity⟩ := overlay
  obtain ⟨⟨known, capitals⟩, opacity, ⟨⟩, finite, allowed, visible⟩ := normal
  have distinct : ((Overlay.fields ⟨color, .double opacity⟩).map Prod.fst).Nodup := by
    simp [Overlay.fields]
  refine readOverlay_eq_ok.mpr (.inr ⟨_, color, opacity, rfl, ?_, ?_, ?_⟩)
  · rw [Value.field_entriesOf distinct]
    exact readColor_wire known capitals
  · rw [Value.field_entriesOf distinct]
    exact readWithin_wire finite allowed
  · rw [visible, if_neg Bool.false_ne_true]
    rfl

theorem readVisualEdit_wire {edit : VisualEdit Number} (normal : edit.Normal) :
    readVisualEdit (.record edit.fields) field = .ok edit := by
  obtain ⟨filter, grade, overlay⟩ := edit
  obtain ⟨⟨grade, rfl, normalGrade⟩, normalOverlay⟩ := normal
  have distinct : ((VisualEdit.fields ⟨filter, some grade, overlay⟩).map Prod.fst).Nodup := by
    simp [VisualEdit.fields]
  refine readVisualEdit_eq_ok.mpr ⟨_, filter, grade, overlay, rfl, ?_, ?_, ?_, rfl⟩
  · rw [Value.field_entriesOf distinct]
    exact readWord_wire filter _
  · rw [Value.field_entriesOf distinct]
    exact readGrade_wire normalGrade
  · rw [Value.field_entriesOf distinct]
    cases overlay with
    | none => rfl
    | some overlay => exact readOverlay_wire (normalOverlay overlay rfl)

theorem readCaptionText_wire {text : String} (trimmed : Text.trim text = text)
    (notBlank : Text.isBlankText text = false) :
    readCaptionText (.text text) field = .ok text := by
  rw [readCaptionText, notBlank, if_neg Bool.false_ne_true, trimmed]

theorem readCaption_wire {caption : Caption Number} {seconds : Binary64}
    (normal : caption.Normal seconds) :
    readCaption (.record caption.fields) field (Number.double seconds) = .ok (some caption) := by
  obtain ⟨text, start, stop, position⟩ := caption
  obtain ⟨trimmed, notBlank, start, ⟨⟩, startFinite, notBelow, stop, ⟨⟩, stopFinite, after,
    within⟩ := normal
  have distinct :
      ((Caption.fields ⟨text, .double start, .double stop, position⟩).map Prod.fst).Nodup := by
    simp [Caption.fields]
  refine readCaption_eq_ok.mpr (.inr ⟨_, text, start, .double stop, position, rfl, ?_, rfl⟩)
  exact {
    written := by
      rw [Value.field_entriesOf distinct]
      exact readCaptionText_wire trimmed notBlank
    begins := by
      rw [Value.field_entriesOf distinct]
      exact readStart_wire startFinite notBelow
    ends := by
      rw [Value.field_entriesOf distinct]
      exact readStop_eq_ok.mpr (.inr ⟨rfl, stop, readNumber_wire stopFinite, rfl⟩)
    ordered := ⟨_, rfl, after⟩
    inside := ⟨_, rfl, within⟩
    placed := by
      rw [Value.field_entriesOf distinct]
      exact readWord_wire position _ }

theorem readTransition_wire {transition : Transition Number} {index : Nat}
    {previous seconds : Binary64} (normal : transition.Normal index previous seconds) :
    readTransition (.record transition.fields) field index (Number.double previous)
      (Number.double seconds) = .ok transition := by
  obtain ⟨kind, length⟩ := transition
  have distinct : ((Transition.fields ⟨kind, length⟩).map Prod.fst).Nodup := by
    simp [Transition.fields]
  refine readTransition_eq_ok.mpr ⟨_, kind, rfl, ?_, ?_⟩
  · rw [Value.field_entriesOf distinct]
    exact readWord_wire kind _
  · rw [Value.field_entriesOf distinct]
    cases kind with
    | cut =>
      obtain rfl : length = none := normal
      exact .inl ⟨rfl, rfl⟩
    | crossfade =>
      obtain ⟨later, _, rfl, overlap, rfl, finite, allowed, before, own⟩ := normal
      refine .inr ⟨.double overlap, rfl, later, ?_, rfl⟩
      exact readCrossfade_eq_ok.mpr ⟨overlap, readNumber_wire finite, allowed,
        reaches_eq_ok_false.mpr before, reaches_eq_ok_false.mpr own, rfl⟩

end Dressing

section Scenes

variable {prober : Prober Number} {assets : Named Upload} {index : Nat} {start : Workspace}

theorem checkContentType_wire {upload : Upload} {asset : String} {kind : SceneKind}
    (typed : kind.contentStart.toList <+: (Text.lower (upload.contentType.getD "")).toList) :
    checkContentType upload asset index kind = .ok () :=
  if_pos (List.isPrefixOf_iff_prefix.mpr typed)

theorem readAssetId_wire {asset : String} {field : Field} (trimmed : Text.trim asset = asset)
    (notBlank : Text.isBlankText asset = false) : readAssetId (.text asset) field = .ok asset := by
  rw [readAssetId, notBlank, if_neg Bool.false_ne_true, trimmed]

theorem Scene.field_wire (scene : Scene Number) (name : String) :
    Value.field (Value.entriesOf scene.fields) name =
      (scene.fields.lookup name).join.getD .null :=
  Value.field_entriesOf (by simp [fields]) name

variable {scene : Scene Number} {seconds : Binary64}

/-- The start that a scene is written with can be read, also that of an image. -/
theorem Scene.NormalTimes.clipStart_passes (times : scene.NormalTimes seconds) :
    scene.clipStart.Passes fun begin => begin.lt .zero = false := by
  unfold NormalTimes at times
  split at times
  · exact ⟨.zero, times.2.1, Binary64.zero_finite, by decide +kernel⟩
  · exact times.2.1

/-- How long a scene is shown is read from what is written, not found out. -/
theorem readShown_wire {upload : Upload} {field : Field} {begin : Number}
    (typed : scene.kind.contentStart.toList <+: (Text.lower (upload.contentType.getD "")).toList)
    (finite : seconds.isFinite = true) (admitted : scene.kind.Admits seconds)
    (times : scene.NormalTimes seconds) :
    (readShown prober (Value.entriesOf scene.fields) field upload scene.asset index begin
      scene.kind).on start = (.ok (.double seconds), start) := by
  have checked : checkContentType upload scene.asset index scene.kind = .ok () :=
    checkContentType_wire typed
  have duration : Value.field (Value.entriesOf scene.fields) "durationSec" =
      (scene.duration.map Number.wire).getD .null := scene.field_wire _
  have clipStart : Value.field (Value.entriesOf scene.fields) "clipStartSec" =
      scene.clipStart.wire := scene.field_wire _
  have clipLength : Value.field (Value.entriesOf scene.fields) "clipDurationSec" =
      (scene.clipLength.map Number.wire).getD .null := scene.field_wire _
  unfold Scene.NormalTimes at times
  cases kind : scene.kind with
  | image =>
    rw [kind] at checked admitted times
    obtain ⟨lasts, starts, whole⟩ := times
    rw [lasts] at duration
    rw [starts] at clipStart
    rw [whole] at clipLength
    have read : readImageDuration (Value.entriesOf scene.fields) field upload scene.asset index =
        .ok seconds := by
      refine readImageDuration_eq_ok.mpr ⟨checked, ?_, .inr ⟨.zero, ?_, ?_⟩, ?_, admitted⟩
      · rw [clipLength]
        rfl
      · rw [clipStart]
        exact readNumber_wire Binary64.zero_finite
      · decide +kernel
      · rw [duration]
        exact readNumber_wire finite
    rw [readShown, Action.on_lift, read]
    rfl
  | video =>
    rw [kind] at checked admitted times
    obtain ⟨whole, _, lasts⟩ := times
    rw [whole] at duration
    rw [lasts] at clipLength
    refine readClipLength_eq_ok.mpr ⟨checked, ?_, .inl ⟨?_, rfl, seconds, ?_, admitted, rfl⟩⟩
    · rw [duration]
      rfl
    · rw [clipLength]
      rfl
    · rw [clipLength]
      exact readNumber_wire finite

/-- A scene is the one that is put together from its parts. -/
theorem Scene.NormalTimes.eq_parts {upload : Upload} {begin : Binary64}
    {transition : Transition Number} {edit : VisualEdit Number} (times : scene.NormalTimes seconds)
    (started : scene.clipStart = .double begin) (moved : scene.transition = some transition)
    (edited : scene.visualEdit = some edit) :
    scene = SceneParts.scene ⟨scene.asset, upload, scene.kind, scene.motion, begin, scene.caption,
      transition, edit⟩ (.double seconds) := by
  obtain ⟨asset, kind, duration, clipStart, clipLength, motion, caption, _, _⟩ := scene
  obtain rfl : clipStart = .double begin := started
  obtain rfl := moved
  obtain rfl := edited
  cases kind with
  | image =>
    obtain ⟨rfl, starts, rfl⟩ : duration = _ ∧ Number.double begin = _ ∧ clipLength = _ := times
    rw [SceneParts.scene, starts]
    rfl
  | video =>
    obtain ⟨rfl, _, rfl⟩ : duration = _ ∧ Number.Passes _ _ ∧ clipLength = _ := times
    rfl

/-- A scene is read back as it is, with the probe left alone. -/
theorem readScene_wire {previous : Binary64}
    (normal : scene.Normal assets start index previous seconds) :
    (readScene prober assets index (Number.double previous) scene.wire).on start =
      (.ok (scene, .double seconds), start) := by
  obtain ⟨upload, named, ⟨_, rfl, held⟩, typed⟩ := normal.sourced.upload
  obtain ⟨begin, started, beginFinite, notBelow⟩ := normal.times.clipStart_passes
  obtain ⟨transition, moved, normalTransition⟩ := normal.transition
  obtain ⟨edit, edited, normalEdit⟩ := normal.visualEdit
  refine readScene_eq_ok.mpr ⟨_, ⟨scene.asset, upload, scene.kind, scene.motion, begin,
    scene.caption, transition, edit⟩, rfl, ?_, normal.times.eq_parts started moved edited⟩
  exact {
    asset := by
      rw [scene.field_wire]
      exact readAssetId_wire normal.sourced.trimmed normal.sourced.notBlank
    upload := ⟨named, held⟩
    kind := by
      rw [scene.field_wire]
      exact requireWord_wire scene.kind _
    motion := by
      rw [scene.field_wire]
      exact readWord_wire scene.motion _
    begin := by
      have clipStart : Value.field (Value.entriesOf scene.fields) "clipStartSec" =
        scene.clipStart.wire := scene.field_wire _
      rw [clipStart, started]
      exact readStart_wire beginFinite notBelow
    lasts := readShown_wire typed normal.finite normal.admitted normal.times
    caption := by
      have captioned : Value.field (Value.entriesOf scene.fields) "caption" =
        (scene.caption.map fun caption => .record caption.fields).getD .null := scene.field_wire _
      rw [captioned]
      cases caption : scene.caption with
      | none => rfl
      | some shown => exact readCaption_wire (normal.caption shown caption)
    transition := by
      have joined : Value.field (Value.entriesOf scene.fields) "transition" =
        (scene.transition.map fun transition => .record transition.fields).getD .null :=
          scene.field_wire _
      rw [joined, moved]
      exact readTransition_wire normalTransition
    visualEdit := by
      have treated : Value.field (Value.entriesOf scene.fields) "visualEdit" =
        (scene.visualEdit.map fun edit => .record edit.fields).getD .null := scene.field_wire _
      rw [treated, edited]
      exact readVisualEdit_wire normalEdit }

/-- Induction on the timeline: scenes are read back as they are. -/
theorem readScenes_wire {previous : Binary64} {total final : Number} {scenes : List (Scene Number)}
    (normal : NormalScenes assets start index previous total scenes final) :
    (readScenes prober assets index (Number.double previous) total (scenes.map Scene.wire)).on
      start = (.ok (scenes, final), start) := by
  induction normal with
  | nil => rfl
  | @cons _ _ seconds _ grown _ scene rest here counted _ ih =>
    exact readScenes_cons_eq_ok.mpr
      ⟨scene, .double seconds, grown, rest, start, readScene_wire here, counted, ih, rfl⟩

end Scenes

section Manifests

variable {assets : Named Upload} {manifest : Manifest Number} {start : Workspace}

theorem listScenes_wire {values : List Value} (several : 1 ≤ values.length)
    (few : values.length ≤ maxScenes) : listScenes (.list values) = .ok values := by
  cases values with
  | nil => cases several
  | cons value rest => exact if_neg (Nat.not_lt.mpr few)

/-- A manifest of normal form is read back as it is, whatever a probe would do. -/
theorem Manifest.Normal.wire_accepted (normal : manifest.Normal assets start)
    (prober : Prober Number) :
    (validate prober assets manifest.wire).on start = (.ok manifest, start) := by
  have get := @Value.field_entriesOf manifest.fields (by simp [Manifest.fields])
  have length := manifest.scenes.length_map Scene.wire
  refine validate_eq_ok.mpr ⟨_, manifest.scenes.map Scene.wire, rfl, ?_, ?_,
    readScenes_wire normal.scenes, normal.total⟩
  · rw [get]
    exact requireWord_wire manifest.preset _
  · rw [get]
    exact listScenes_wire (length ▸ normal.count.1) (length ▸ normal.count.2)

/-- A probe that leaves the disk alone leaves all files as they were. -/
theorem heldStill_of_quiet {prober : Prober Number} {again : Workspace}
    (quiet : ∀ upload workspace, ((prober upload).on workspace).2.disk = workspace.disk)
    (same : again.disk = start.disk) : HeldStill assets (Probed prober start) again := by
  have unchanged {workspace : Workspace} (probed : Probed prober start workspace) :
      workspace.disk = start.disk := by
    induction probed with
    | start => rfl
    | probe upload _ ih => exact (quiet upload _).trans ih
  intro id upload _ workspace probed held
  rw [same, ← unchanged probed]
  exact held

/-- Writing a manifest out is undone by validation, without a probe: for every manifest of normal
form, and so for every accepted one, wherever the uploads still hold what was found in them. -/
theorem validate_wire :
    (∀ (assets : Named Upload) start (manifest : Manifest Number), manifest.Normal assets start →
      ∀ prober, (validate prober assets manifest.wire).on start = (.ok manifest, start)) ∧
    ∀ (prober : Prober Number) assets value start last manifest, prober.Finite →
      (validate prober assets value).on start = (.ok manifest, last) →
        ∀ again, HeldStill assets (Probed prober start) again →
          ∀ other, (validate other assets manifest.wire).on again = (.ok manifest, again) := by
  refine ⟨fun _ _ _ normal => normal.wire_accepted, ?_⟩
  intro prober assets value start last manifest honest accepted again held
  exact (validate_normal honest held accepted).wire_accepted

end Manifests

/-- A probe that never answers. -/
def noProbe : Prober Number := fun _ => throw (.fault .outOfRange)

theorem coverAndClip_restored :
    let again := Workspace.bare.note (.printed "again")
    ∃ manifest last,
      (validate nineSeconds coverAndClipAssets coverAndClip).on .bare = (.ok manifest, last) ∧
      manifest.Normal coverAndClipAssets .bare ∧
      (validate noProbe coverAndClipAssets manifest.wire).on .bare = (.ok manifest, .bare) ∧
      (validate noProbe coverAndClipAssets manifest.wire).on again = (.ok manifest, again) := by
  intro again
  obtain ⟨manifest, last, accepted⟩ := coverAndClip_accepted
  have quiet (upload : Upload) (workspace : Workspace) :
      ((nineSeconds upload).on workspace).2.disk = workspace.disk := rfl
  have normal := validate_normal nineSeconds_finite (heldStill_of_quiet quiet rfl) accepted
  refine ⟨manifest, last, accepted, normal, validate_wire.1 _ _ _ normal noProbe, ?_⟩
  exact validate_wire.2 _ _ _ _ _ _ nineSeconds_finite accepted again
    (heldStill_of_quiet quiet rfl) noProbe

end Montage
