import Montage.Proofs.Manifest.Dressing

/-! A manifest that validation accepts keeps all rules: each scene is read soundly, and the reading
of the scenes in order keeps what the next scene needs to know of the one before. -/

namespace Montage

theorem checkContentType_ok {upload : Upload} {asset : String} {index : Nat} {kind : SceneKind}
    (checked : checkContentType upload asset index kind = .ok ()) :
    kind.contentStart.toList <+: (Text.lower (upload.contentType.getD "")).toList := by
  simp only [checkContentType] at checked
  split at checked
  · rename_i starts
    exact List.isPrefixOf_iff_prefix.mp starts
  · cases checked

theorem readAssetId_ok {value : Value} {field : Field} {asset : String}
    (read : readAssetId value field = .ok asset) :
    ∃ text, value = .text text ∧ asset = Text.trim text ∧ Text.isBlankText asset = false := by
  cases value with
  | text text =>
    simp only [readAssetId] at read
    split at read
    · cases read
    · rename_i written
      obtain rfl := Except.ok.inj read
      exact ⟨text, rfl, rfl, by simpa using written⟩
  | _ => simp [readAssetId] at read

theorem imageBounds_inside : imageBounds.Inside (1 / 2) 600 := by
  simpa using Bounds.inside_of_units 1 600 2 1 (by decide) (by decide +kernel)

theorem readImageDuration_ok {entries : List (Value × Value)} {field : Field} {upload : Upload}
    {asset : String} {index : Nat} {seconds : Binary64}
    (read : readImageDuration entries field upload asset index = .ok seconds) :
    SceneKind.image.contentStart.toList <+: (Text.lower (upload.contentType.getD "")).toList ∧
      (Number.double seconds).Within (1 / 2) 600 := by
  obtain ⟨checked, _, _, number, allowed⟩ := readImageDuration_eq_ok.mp read
  have finite := readNumber_finite number
  exact ⟨checkContentType_ok checked, finite, imageBounds_inside.allow finite allowed⟩

/-- The length of a clip is finite and counts as more than none; finding it out takes one probe at
most. -/
theorem readClipLength_ok {prober : Prober Number} {entries : List (Value × Value)} {field : Field}
    {upload : Upload} {asset : String} {index : Nat} {begin : Binary64} {length : Number}
    {start last : Workspace} (honest : prober.Finite) (finite : begin.isFinite = true)
    (notNegative : 0 ≤ begin.exact)
    (read : (readClipLength prober entries field upload asset index (Number.double begin)).on
      start = (.ok length, last)) :
    SceneKind.video.contentStart.toList <+: (Text.lower (upload.contentType.getD "")).toList ∧
      (∃ seconds : Binary64, length = .double seconds ∧ seconds.isFinite = true ∧
        epsilon.exact < seconds.exact) ∧ Probed prober start last := by
  obtain ⟨checked, _, ⟨_, rfl, given, number, counts, rfl⟩ | ⟨_, source, probed, difference, counts⟩⟩ :=
    readClipLength_eq_ok.mp read
  · have givenFinite := readNumber_finite number
    rw [← Bool.not_eq_true, Binary64.le_iff givenFinite epsilon_finite, not_le] at counts
    exact ⟨checkContentType_ok checked, ⟨given, rfl, givenFinite, counts⟩, .start⟩
  · have reported : ((prober upload).on start).1 = .ok source := congrArg Prod.fst probed
    obtain rfl : ((prober upload).on start).2 = last := congrArg Prod.snd probed
    obtain ⟨value, valueFinite, _, rfl⟩ := Number.sub_double (honest _ _ _ reported) difference
    have below := Binary64.sub_le valueFinite finite valueFinite (by linarith)
    have above : (value - begin).le epsilon = false := counts
    have leftFinite := Binary64.isFinite_of_between epsilon_finite valueFinite
      (Bool.eq_false_iff.mp above) below
    rw [← Bool.not_eq_true, Binary64.le_iff leftFinite epsilon_finite, not_le] at above
    exact ⟨checkContentType_ok checked, ⟨_, rfl, leftFinite, above⟩, .probe upload .start⟩

theorem readShown_ok {prober : Prober Number} {entries : List (Value × Value)} {field : Field}
    {upload : Upload} {asset : String} {index : Nat} {begin : Binary64} {kind : SceneKind}
    {length : Number} {start last : Workspace} (honest : prober.Finite)
    (finite : begin.isFinite = true) (notNegative : 0 ≤ begin.exact)
    (read : (readShown prober entries field upload asset index (Number.double begin) kind).on
      start = (.ok length, last)) :
    kind.contentStart.toList <+: (Text.lower (upload.contentType.getD "")).toList ∧
      (∃ seconds : Binary64, length = .double seconds ∧ seconds.isFinite = true ∧
        kind.Allows (.double seconds)) ∧ Probed prober start last := by
  cases kind with
  | image =>
    obtain ⟨shown, rfl⟩ := Prod.mk.inj read
    obtain ⟨seconds, duration, rfl⟩ := Except.map_eq_ok.mp shown
    obtain ⟨typed, within⟩ := readImageDuration_ok duration
    exact ⟨typed, ⟨seconds, rfl, within.1, within⟩, .start⟩
  | video =>
    obtain ⟨typed, ⟨seconds, rfl, secondsFinite, above⟩, probed⟩ :=
      readClipLength_ok honest finite notNegative read
    exact ⟨typed, ⟨seconds, rfl, secondsFinite, secondsFinite, le_epsilon.trans_lt above⟩, probed⟩

theorem Probed.trans {α : Type} {prober : Prober α} {start middle last : Workspace}
    (first : Probed prober start middle) (later : Probed prober middle last) :
    Probed prober start last := by
  induction later with
  | start => exact first
  | probe upload _ ih => exact .probe upload ih

theorem Scene.Sound.seen_mono {assets : Named Upload} {seen wider : Workspace → Prop}
    {scene : Scene Number} {seconds : Number} (sound : scene.Sound assets seen seconds)
    (within : ∀ workspace, seen workspace → wider workspace) :
    scene.Sound assets wider seconds := by
  obtain ⟨upload, named, ⟨workspace, known, held⟩, typed⟩ := sound.sourced.upload
  exact { sound with
    sourced := { sound.sourced with
      upload := ⟨upload, named, ⟨workspace, within workspace known, held⟩, typed⟩ } }

theorem listScenes_ok {value : Value} {scenes : List Value}
    (listed : listScenes value = .ok scenes) :
    value = .list scenes ∧ 1 ≤ scenes.length ∧ scenes.length ≤ 50 := by
  unfold listScenes at listed
  split at listed
  · cases listed
  · rename_i notEmpty
    split at listed
    · cases listed
    · rename_i few
      obtain rfl := Except.ok.inj listed
      refine ⟨rfl, List.length_pos_iff.mpr fun empty => notEmpty (empty ▸ rfl), ?_⟩
      exact Nat.le_of_not_lt few
  · cases listed

/-- What a scene that is read after one shown for some seconds comes with. -/
structure SceneRead (prober : Prober Number) (assets : Named Upload) (index : Nat)
    (previous : Binary64) (raw : Value) (start last : Workspace) (scene : Scene Number)
    (seconds : Binary64) : Prop where
  finite : seconds.isFinite = true
  shown : scene.shown? = some (.double seconds)
  read : scene.ReadFrom raw
  sound : scene.Sound assets (· = start) (.double seconds)
  first : index = 0 → scene.transition = some .cut
  joins : scene.JoinsWithin (.double previous)
  probed : Probed prober start last

theorem readScene_ok {prober : Prober Number} {assets : Named Upload} {index : Nat}
    {previous : Binary64} {value : Value} {start last : Workspace} {scene : Scene Number}
    {shown : Number} (honest : prober.Finite) (previousFinite : previous.isFinite = true)
    (read : (readScene prober assets index (Number.double previous) value).on start =
      (.ok (scene, shown), last)) :
    ∃ seconds, shown = .double seconds ∧
      SceneRead prober assets index previous value start last scene seconds := by
  obtain ⟨entries, parts, object, made, rfl⟩ := readScene_eq_ok.mp read
  obtain ⟨text, textual, same, notBlank⟩ := readAssetId_ok made.asset
  obtain ⟨beginFinite, notNegative⟩ := readStart_ok made.begin
  obtain ⟨typed, ⟨seconds, rfl, finite, allowed⟩, probed⟩ :=
    readShown_ok honest beginFinite notNegative made.lasts
  obtain ⟨word, worded, known⟩ := requireWord_ok made.kind
  obtain ⟨transitionSound, first, joins⟩ := readTransition_ok previousFinite finite made.transition
  refine ⟨seconds, rfl, ?_⟩
  exact {
    finite, probed
    shown := parts.shown?_scene _
    read := ⟨entries, text, word, object, textual, same, worded, known⟩
    sound := {
      sourced := {
        trimmed := (congrArg Text.trim same).trans ((Text.trim_trim text).trans same.symm)
        notBlank
        upload := ⟨parts.upload, made.upload.1, ⟨_, rfl, made.upload.2⟩, typed⟩ }
      allowed
      timed := by
        unfold SceneParts.scene Scene.Timed
        cases parts.kind with
        | image => exact ⟨rfl, rfl, rfl⟩
        | video => exact ⟨rfl, ⟨beginFinite, notNegative⟩, rfl⟩
      caption := readCaption_ok finite made.caption
      transition := ⟨parts.transition, rfl, transitionSound⟩
      visualEdit := ⟨parts.visualEdit, rfl, readVisualEdit_ok made.visualEdit⟩ }
    first := fun zero => congrArg some (first zero)
    joins := fun length crossfade => joins length (parts.crossfade?_scene.mp crossfade) }

/-- What a list of scenes comes with that is read after a scene shown for some seconds. -/
structure ScenesRead (assets : Named Upload) (seen : Workspace → Prop) (index : Nat)
    (previous : Binary64) (raws : List Value) (scenes : List (Scene Number)) : Prop where
  read : List.Forall₂ Scene.ReadFrom raws scenes
  sound : ∀ scene ∈ scenes, ∃ seconds, scene.shown? = some seconds ∧
    scene.Sound assets seen seconds
  first : index = 0 → ∀ scene ∈ scenes.head?, scene.transition = some .cut
  joins : ∀ scene ∈ scenes.head?, scene.JoinsWithin (.double previous)
  joined : scenes.IsChain Scene.Joins

/-- Induction on the raw scenes: each scene hands the seconds it is shown for to the next one. -/
theorem readScenes_ok {prober : Prober Number} {assets : Named Upload} {origin : Workspace}
    (honest : prober.Finite) {values : List Value} {index : Nat} {previous : Binary64}
    {total final : Number} {start last : Workspace} {scenes : List (Scene Number)}
    (previousFinite : previous.isFinite = true) (reached : Probed prober origin start)
    (read : (readScenes prober assets index (Number.double previous) total values).on start =
      (.ok (scenes, final), last)) :
    ScenesRead assets (Probed prober origin) index previous values scenes := by
  induction values generalizing index previous total start scenes with
  | nil =>
    obtain ⟨rfl, rfl, rfl⟩ := readScenes_nil_eq_ok.mp read
    exact ⟨.nil, by simp, by simp, by simp, .nil⟩
  | cons value rest ih =>
    obtain ⟨scene, shown, _, others, middle, readHere, _, readLater, rfl⟩ :=
      readScenes_cons_eq_ok.mp read
    obtain ⟨seconds, rfl, here⟩ := readScene_ok honest previousFinite readHere
    have after := ih here.finite (reached.trans here.probed) readLater
    exact {
      read := .cons here.read after.read
      sound := by
        rintro found (_ | ⟨_, member⟩)
        · exact ⟨_, here.shown, here.sound.seen_mono fun _ same => same ▸ reached⟩
        · exact after.sound found member
      first := by simpa using here.first
      joins := by simpa using here.joins
      joined := after.joined.cons fun next head => ⟨_, here.shown, after.joins next head⟩ }

/-- An accepted manifest keeps all rules, its scenes being those of the raw value in their order. -/
theorem validate_sound {prober : Prober Number} {assets : Named Upload} {value : Value}
    {start last : Workspace} {manifest : Manifest Number} (honest : prober.Finite)
    (accepted : (validate prober assets value).on start = (.ok manifest, last)) :
    ∃ entries raws, value = .map entries ∧ Value.field entries "scenes" = .list raws ∧
      manifest.Sound assets (Probed prober start) raws := by
  obtain ⟨entries, raws, object, _, listed, read, _⟩ := validate_eq_ok.mp accepted
  obtain ⟨listed, notEmpty, bounded⟩ := listScenes_ok listed
  have kept := readScenes_ok honest Binary64.zero_finite .start read
  refine ⟨entries, raws, object, listed, ?_⟩
  exact {
    count := kept.read.length_eq ▸ ⟨notEmpty, bounded⟩
    read := kept.read
    scenes := kept.sound
    first := kept.first rfl
    joined := kept.joined }

/-- An image with a caption fades into a video of a probed length. -/
def coverAndClip : Value := .map [
  (.text "outputPreset", .text "landscape_16_9"),
  (.text "scenes", .list [
    .map [(.text "assetId", .text " cover "), (.text "type", .text "image"),
      (.text "durationSec", .int 4), (.text "caption", .map [(.text "text", .text "Hello")])],
    .map [(.text "assetId", .text "clip"), (.text "type", .text "VIDEO"),
      (.text "transition", .map [(.text "type", .text "CROSSFADE"),
        (.text "transitionDurationSec", .int 1)]),
      (.text "visualEdit", .map [(.text "overlay", .map [(.text "hexColor", .text "#a1b2c3")])])]])]

theorem coverAndClip_sound :
    let prober : Prober Number := fun _ => pure (.int 9)
    let assets : Named Upload :=
      [("cover", .ofBytes [1] "image/png" none), ("clip", .ofBytes [2] "Video/mp4" none)]
    let start : Workspace := ⟨⟨[], [], []⟩, 0, 0, 0, []⟩
    ∃ manifest last, (validate prober assets coverAndClip).on start = (.ok manifest, last) ∧
      ∃ entries raws, coverAndClip = .map entries ∧ Value.field entries "scenes" = .list raws ∧
        manifest.Sound assets (Probed prober start) raws := by
  intro prober assets start
  have honest : prober.Finite := by
    rintro _ _ _ (_ | _)
    rfl
  obtain ⟨manifest, accepted⟩ : ∃ manifest,
      ((validate prober assets coverAndClip).on start).1 = .ok manifest := by
    have valid : ((validate prober assets coverAndClip).on start).1.isOk = true := by
      decide +kernel
    cases outcome : ((validate prober assets coverAndClip).on start).1 with
    | error _ => simp [outcome, Except.isOk, Except.toBool] at valid
    | ok manifest => exact ⟨manifest, rfl⟩
  exact ⟨manifest, _, Prod.ext accepted rfl, validate_sound honest (Prod.ext accepted rfl)⟩

end Montage
