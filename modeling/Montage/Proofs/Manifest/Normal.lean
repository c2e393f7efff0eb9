import Montage.Proofs.Manifest.Validation

/-! The form that validation brings a manifest into, in the comparisons of validation itself: every
accepted manifest has it. -/

namespace Montage

/-- A finite double that passes a check. -/
def Number.Passes (check : Binary64 → Prop) (number : Number) : Prop :=
  ∃ value, number = .double value ∧ value.isFinite = true ∧ check value

structure Caption.Normal (seconds : Binary64) (caption : Caption Number) : Prop where
  trimmed : Text.trim caption.text = caption.text
  notBlank : Text.isBlankText caption.text = false
  window : caption.start.Passes fun start => start.lt .zero = false ∧
    caption.stop.Passes fun stop =>
      stop.le (start + epsilon) = false ∧ (seconds + epsilon).lt stop = false

/-- A transition into the scene at a position, between scenes shown for some seconds. -/
def Transition.Normal (index : Nat) (previous seconds : Binary64) (transition : Transition Number) :
    Prop :=
  match transition.kind with
  | .cut => transition.length = none
  | .crossfade => index ≠ 0 ∧ ∃ length, transition.length = some length ∧
      length.Passes fun overlap => crossfadeBounds.allow overlap = true ∧
        (previous - epsilon).le overlap = false ∧ (seconds - epsilon).le overlap = false

structure ColorGrade.Normal (grade : ColorGrade Number) : Prop where
  brightness : grade.brightness.Passes (brightnessBounds.allow · = true)
  contrast : grade.contrast.Passes (contrastBounds.allow · = true)
  saturation : grade.saturation.Passes (saturationBounds.allow · = true)

structure Overlay.Normal (overlay : Overlay Number) : Prop where
  color : isColor overlay.color.toList = true ∧ Text.upper overlay.color = overlay.color
  opacity : overlay.opacity.Passes fun opacity =>
    opacityBounds.allow opacity = true ∧ opacity.le epsilon = false

structure VisualEdit.Normal (edit : VisualEdit Number) : Prop where
  grade : ∃ grade, edit.grade = some grade ∧ grade.Normal
  overlay : ∀ overlay ∈ edit.overlay, overlay.Normal

/-- Seconds pass the check of how long a scene of a kind is shown. -/
def SceneKind.Admits (kind : SceneKind) (seconds : Binary64) : Prop :=
  match kind with
  | .image => imageBounds.allow seconds = true
  | .video => seconds.le epsilon = false

/-- A scene has the times of its kind, and no others. -/
def Scene.NormalTimes (seconds : Binary64) (scene : Scene Number) : Prop :=
  match scene.kind with
  | .image => scene.duration = some (.double seconds) ∧ scene.clipStart = .double .zero ∧
      scene.clipLength = none
  | .video => scene.duration = none ∧ (scene.clipStart.Passes fun begin => begin.lt .zero = false) ∧
      scene.clipLength = some (.double seconds)

/-- The scene at a position, shown for some seconds after one shown for some. -/
structure Scene.Normal (assets : Named Upload) (workspace : Workspace) (index : Nat)
    (previous seconds : Binary64) (scene : Scene Number) : Prop where
  sourced : scene.Sourced assets (· = workspace)
  finite : seconds.isFinite = true
  admitted : scene.kind.Admits seconds
  times : scene.NormalTimes seconds
  caption : ∀ caption ∈ scene.caption, caption.Normal seconds
  transition : ∃ transition, scene.transition = some transition ∧
    transition.Normal index previous seconds
  visualEdit : ∃ edit, scene.visualEdit = some edit ∧ edit.Normal

/-- Scenes from a position on, after one shown for some seconds; with them a timeline grows from
one length to another. -/
inductive NormalScenes (assets : Named Upload) (workspace : Workspace) :
    (index : Nat) → (previous : Binary64) → (total : Number) → List (Scene Number) →
      (final : Number) → Prop where
  | nil {index : Nat} {previous : Binary64} {total : Number} :
      NormalScenes assets workspace index previous total [] total
  | cons {index : Nat} {previous seconds : Binary64} {total grown final : Number}
      {scene : Scene Number} {rest : List (Scene Number)}
      (here : scene.Normal assets workspace index previous seconds)
      (counted : growTotal total scene (.double seconds) = .ok grown)
      (later : NormalScenes assets workspace (index + 1) seconds grown rest final) :
      NormalScenes assets workspace index previous total (scene :: rest) final

/-- A manifest as validation leaves it: its scenes are a timeline from nothing to the total, with
uploads that hold something in a workspace. -/
structure Manifest.Normal (assets : Named Upload) (workspace : Workspace)
    (manifest : Manifest Number) : Prop where
  count : 1 ≤ manifest.scenes.length ∧ manifest.scenes.length ≤ maxScenes
  scenes : NormalScenes assets workspace 0 .zero (.double .zero) manifest.scenes manifest.total
  total : checkTotal manifest.total = .ok ()

section Dressing

variable {field : Field} {value : Value}

theorem readStart_passes {number : Binary64} (read : readStart value field = .ok number) :
    (Number.double number).Passes fun start => start.lt .zero = false := by
  refine ⟨number, rfl, (readStart_ok read).1, ?_⟩
  obtain ⟨_, rfl⟩ | ⟨_, _, notBelow⟩ := readStart_eq_ok.mp read
  · decide +kernel
  · exact notBelow

theorem readWithin_passes {default number : Binary64} {bounds : Bounds}
    (kept : default.isFinite = true ∧ bounds.allow default = true)
    (read : readWithin value default bounds field = .ok number) :
    (Number.double number).Passes (bounds.allow · = true) := by
  obtain ⟨_, rfl⟩ | ⟨_, readNumber, allowed⟩ := readWithin_eq_ok.mp read
  · exact ⟨_, rfl, kept⟩
  · exact ⟨number, rfl, readNumber_finite readNumber, allowed⟩

theorem readGrade_normal {grade : ColorGrade Number} (read : readGrade value field = .ok grade) :
    grade.Normal := by
  obtain ⟨_, brightness, contrast, saturation, _, readBrightness, readContrast, readSaturation,
    rfl⟩ := readGrade_eq_ok.mp read
  obtain ⟨brightnessKept, contrastKept, saturationKept, _⟩ := defaults_allowed
  exact {
    brightness := readWithin_passes brightnessKept readBrightness
    contrast := readWithin_passes contrastKept readContrast
    saturation := readWithin_passes saturationKept readSaturation }

/-- A capital hexadecimal digit is its own capital. -/
private theorem settled_of_code :
    ∀ code : Fin 128, IsCapitalHex (Char.ofNat code) → isHexDigit (Char.ofNat code) = true ∧
      Text.mapCase Text.capitalRuns Text.capitalSequences (Char.ofNat code) =
        [Char.ofNat code] := by
  unfold IsCapitalHex
  decide +kernel

theorem settled_of_isCapitalHex {character : Char} (capital : IsCapitalHex character) :
    isHexDigit character = true ∧
      Text.mapCase Text.capitalRuns Text.capitalSequences character = [character] := by
  have small : character.toNat < 128 := by
    simp [IsCapitalHex, Char.isDigit, Char.le_def, UInt32.le_iff_toNat_le] at capital
    omega
  obtain ⟨code, rfl⟩ := exists_code small
  exact settled_of_code code capital

theorem capitals_of_isCapitalHex {digits : List Char}
    (capital : ∀ digit ∈ digits, IsCapitalHex digit) :
    digits.flatMap (Text.mapCase Text.capitalRuns Text.capitalSequences) = digits := by
  induction digits with
  | nil => rfl
  | cons digit rest ih =>
    obtain ⟨here, later⟩ := List.forall_mem_cons.mp capital
    rw [List.flatMap_cons, (settled_of_isCapitalHex here).2, ih later]
    rfl

theorem readColor_normal {color : String} (read : readColor value field = .ok color) :
    isColor color.toList = true ∧ Text.upper color = color := by
  obtain ⟨digits, rfl, six, capital⟩ := readColor_ok read
  have sharp : Text.mapCase Text.capitalRuns Text.capitalSequences '#' = ['#'] := by
    decide +kernel
  constructor
  · rw [String.toList_ofList, isColor, six, Bool.and_eq_true, List.all_eq_true]
    exact ⟨rfl, fun digit member => (settled_of_isCapitalHex (capital digit member)).1⟩
  · rw [Text.upper, String.toList_ofList, List.flatMap_cons, sharp,
      capitals_of_isCapitalHex capital]
    rfl

theorem readOverlay_normal {overlay : Option (Overlay Number)}
    (read : readOverlay value field = .ok overlay) : ∀ shown ∈ overlay, shown.Normal := by
  obtain ⟨_, rfl⟩ | ⟨_, color, opacity, _, readColor, readOpacity, rfl⟩ :=
    readOverlay_eq_ok.mp read
  · simp
  · intro shown member
    split at member
    · cases member
    · rename_i visible
      obtain rfl := Option.some.inj member
      obtain ⟨_, ⟨⟩, finite, allowed⟩ := readWithin_passes defaults_allowed.2.2.2 readOpacity
      exact {
        color := readColor_normal readColor
        opacity := ⟨_, rfl, finite, allowed, by simpa using visible⟩ }

theorem readVisualEdit_normal {edit : VisualEdit Number}
    (read : readVisualEdit value field = .ok edit) : edit.Normal := by
  obtain ⟨_, filter, grade, overlay, _, _, readGrade, readOverlay, rfl⟩ :=
    readVisualEdit_eq_ok.mp read
  exact {
    grade := ⟨grade, rfl, readGrade_normal readGrade⟩
    overlay := readOverlay_normal readOverlay }

theorem readCaption_normal {seconds : Binary64} {caption : Option (Caption Number)}
    (finite : seconds.isFinite = true)
    (read : readCaption value field (Number.double seconds) = .ok caption) :
    ∀ shown ∈ caption, shown.Normal seconds := by
  obtain ⟨_, rfl⟩ | ⟨entries, text, start, stop, position, _, parts, rfl⟩ :=
    readCaption_eq_ok.mp read
  · simp
  · rintro _ ⟨⟩
    obtain ⟨trimmed, notBlank⟩ := readCaptionText_ok parts.written
    obtain ⟨_, ⟨⟩, startFinite, notBelow⟩ := readStart_passes parts.begins
    obtain ⟨stop, stopFinite, rfl⟩ := readStop_ok finite parts.ends
    obtain ⟨earliest, sum, after⟩ := parts.ordered
    obtain rfl := Except.ok.inj sum
    obtain ⟨latest, sum, within⟩ := parts.inside
    obtain rfl := Except.ok.inj sum
    exact {
      trimmed, notBlank
      window := ⟨start, rfl, startFinite, notBelow, stop, rfl, stopFinite, after, within⟩ }

theorem readTransition_normal {index : Nat} {previous seconds : Binary64}
    {transition : Transition Number}
    (read : readTransition value field index (Number.double previous) (Number.double seconds) =
      .ok transition) : transition.Normal index previous seconds := by
  obtain ⟨_, _, _, _, ⟨_, rfl⟩ | ⟨length, _, later, readLength, rfl⟩⟩ :=
    readTransition_eq_ok.mp read
  · rfl
  · obtain ⟨overlap, readNumber, allowed, before, own, rfl⟩ := readCrossfade_eq_ok.mp readLength
    exact ⟨later, _, rfl, overlap, rfl, readNumber_finite readNumber, allowed,
      reaches_eq_ok_false.mp before, reaches_eq_ok_false.mp own⟩

end Dressing

section Scenes

variable {prober : Prober Number} {assets : Named Upload} {index : Nat} {previous : Binary64}
  {start last again : Workspace}

theorem readShown_admitted {entries : List (Value × Value)} {field : Field} {upload : Upload}
    {asset : String} {begin seconds : Binary64} {kind : SceneKind}
    (read : (readShown prober entries field upload asset index (Number.double begin) kind).on
      start = (.ok (.double seconds), last)) : kind.Admits seconds := by
  cases kind with
  | image =>
    obtain ⟨found, duration, same⟩ := Except.map_eq_ok.mp (Prod.mk.inj read).1
    obtain rfl := Number.double.inj same
    exact (readImageDuration_eq_ok.mp duration).2.2.2.2
  | video =>
    obtain ⟨_, _, ⟨_, _, given, _, counts, same⟩ | ⟨_, source, _, _, counts⟩⟩ :=
      readClipLength_eq_ok.mp read
    · obtain rfl := Number.double.inj same
      exact counts
    · exact counts

/-- What held something before holds something in another workspace. -/
def HeldStill (assets : Named Upload) (seen : Workspace → Prop) (again : Workspace) : Prop :=
  ∀ id upload, assets.get? id = some upload → ∀ workspace, seen workspace →
    upload.isEmpty workspace.disk = .ok false → upload.isEmpty again.disk = .ok false

theorem readScene_normal {value : Value} {scene : Scene Number} {shown : Number}
    (honest : prober.Finite) (held : HeldStill assets (· = start) again)
    (read : (readScene prober assets index (Number.double previous) value).on start =
      (.ok (scene, shown), last)) :
    ∃ seconds, shown = .double seconds ∧ scene.Normal assets again index previous seconds ∧
      Probed prober start last := by
  obtain ⟨entries, parts, rfl, found, rfl⟩ := readScene_eq_ok.mp read
  obtain ⟨beginFinite, notNegative⟩ := readStart_ok found.begin
  obtain ⟨typed, ⟨seconds, rfl, finite, _⟩, probed⟩ :=
    readShown_ok honest beginFinite notNegative found.lasts
  obtain ⟨text, _, trimmed, notBlank⟩ := readAssetId_ok found.asset
  have still := held _ _ found.upload.1 _ rfl found.upload.2
  refine ⟨seconds, rfl, ?_, probed⟩
  exact {
    finite
    sourced := {
      trimmed := by rw [SceneParts.scene, trimmed, Text.trim_trim]
      notBlank
      upload := ⟨parts.upload, found.upload.1, ⟨again, rfl, still⟩, typed⟩ }
    admitted := readShown_admitted found.lasts
    times := by
      unfold Scene.NormalTimes SceneParts.scene
      cases parts.kind with
      | image => exact ⟨rfl, rfl, rfl⟩
      | video => exact ⟨rfl, readStart_passes found.begin, rfl⟩
    caption := readCaption_normal finite found.caption
    transition := ⟨_, rfl, readTransition_normal found.transition⟩
    visualEdit := ⟨_, rfl, readVisualEdit_normal found.visualEdit⟩ }

/-- Induction on the raw scenes: each scene hands its seconds and the length of the timeline to the
next one. -/
theorem readScenes_normal {origin : Workspace} {values : List Value} {total final : Number}
    {scenes : List (Scene Number)} (honest : prober.Finite)
    (held : HeldStill assets (Probed prober origin) again) (reached : Probed prober origin start)
    (read : (readScenes prober assets index (Number.double previous) total values).on start =
      (.ok (scenes, final), last)) :
    NormalScenes assets again index previous total scenes final := by
  induction values generalizing index previous total start scenes with
  | nil =>
    obtain ⟨rfl, rfl, rfl⟩ := readScenes_nil_eq_ok.mp read
    exact .nil
  | cons value rest ih =>
    obtain ⟨scene, shown, grown, later, middle, readHere, counted, readLater, rfl⟩ :=
      readScenes_cons_eq_ok.mp read
    have heldHere : HeldStill assets (· = start) again := fun id upload named workspace same =>
      held id upload named workspace (same ▸ reached)
    obtain ⟨seconds, rfl, here, probed⟩ := readScene_normal honest heldHere readHere
    exact .cons here counted (ih (reached.trans probed) readLater)

theorem validate_normal {value : Value} {manifest : Manifest Number} (honest : prober.Finite)
    (held : HeldStill assets (Probed prober start) again)
    (accepted : (validate prober assets value).on start = (.ok manifest, last)) :
    manifest.Normal assets again := by
  obtain ⟨entries, values, rfl, _, listed, read, checked⟩ := validate_eq_ok.mp accepted
  obtain ⟨_, notEmpty, few⟩ := listScenes_ok listed
  have length := (readScenes_ok honest Binary64.zero_finite .start read).read.length_eq
  exact {
    count := length ▸ ⟨notEmpty, few⟩
    scenes := readScenes_normal honest held .start read
    total := checked }

end Scenes

end Montage
