import Montage.Proofs.Manifest.Wire

/-! What a raw manifest says: its known fields, without those that are null or say what would hold
without them. Validation takes notice of nothing else. -/

namespace Montage

namespace Value

/-- What is left of a field: nothing if it is null. -/
def present (value : Value) : Option Value :=
  if value.isNull then none else some value

/-- What is left of a field with a default: nothing if it is null or the default. -/
def apartFrom (isDefault : Value → Bool) (value : Value) : Option Value :=
  if isDefault value then none else value.present

/-- The value is this word, letter by letter. -/
def isWord (word : String) : Value → Bool
  | text value => value == word
  | _ => false

/-- The value is a whole number or a double for this number, its sign included. -/
def isNumber (number : Binary64) : Value → Bool
  | int whole => Binary64.ofInt? whole == some number
  | double value => value == number
  | _ => false

/-- The value is an object without fields. -/
def isEmptyMap : Value → Bool
  | map [] => true
  | _ => false

/-- The fields that an object is read for, each with what is left of its value. -/
structure Rules where
  fields : List (String × (Value → Option Value))
  distinct : (fields.map Prod.fst).Nodup := by decide

/-- The fields of an object that are left of its entries. -/
def Rules.reduce (rules : Rules) (entries : List (Value × Value)) : List (Value × Value) :=
  entriesOf (rules.fields.map fun (name, left) => (name, left (field entries name)))

/-- An object with only the fields that are left of it; any other value is left alone. -/
def reduceBy (rules : Rules) : Value → Value
  | map entries => map (rules.reduce entries)
  | value => value

def captionRules : Rules where fields := [
  ("text", present),
  ("startOffsetSec", apartFrom (isNumber .zero)),
  ("endOffsetSec", present),
  ("position", apartFrom (isWord "BOTTOM"))]

def transitionRules : Rules where fields := [
  ("type", apartFrom (isWord "CUT")),
  ("transitionDurationSec", present)]

def gradeRules : Rules where fields := [
  ("brightness", apartFrom (isNumber .zero)),
  ("contrast", apartFrom (isNumber .one)),
  ("saturation", apartFrom (isNumber .one))]

def overlayRules : Rules where fields := [
  ("hexColor", present),
  ("opacity", apartFrom (isNumber defaultOpacity))]

def visualEditRules : Rules where fields := [
  ("filter", apartFrom (isWord "NONE")),
  ("colorGrade", fun value => (value.reduceBy gradeRules).apartFrom isEmptyMap),
  ("overlay", fun value => (value.reduceBy overlayRules).present)]

def sceneRules : Rules where fields := [
  ("assetId", present),
  ("type", present),
  ("durationSec", present),
  ("clipStartSec", apartFrom (isNumber .zero)),
  ("clipDurationSec", present),
  ("motion", apartFrom (isWord "NONE")),
  ("caption", fun value => (value.reduceBy captionRules).present),
  ("transition", fun value => (value.reduceBy transitionRules).apartFrom isEmptyMap),
  ("visualEdit", fun value => (value.reduceBy visualEditRules).apartFrom isEmptyMap)]

/-- A list of scenes, each of them reduced. -/
def reduceScenes : Value → Value
  | list values => list (values.map (reduceBy sceneRules))
  | value => value

def manifestRules : Rules where fields := [
  ("outputPreset", present),
  ("scenes", fun value => value.reduceScenes.present)]

/-- What a raw manifest says. Two of them say the same if they become equal, the order of the fields
of an object aside, once unknown fields, null fields and fields that are their default are
dropped. -/
def essence : Value → Value := reduceBy manifestRules

theorem getD_present (value : Value) : value.present.getD .null = value := by
  cases value <;> rfl

theorem getD_apartFrom (isDefault : Value → Bool) (value : Value) :
    (value.apartFrom isDefault).getD .null = if isDefault value then .null else value := by
  unfold apartFrom
  split
  · rfl
  · exact value.getD_present

end Value

/-- A number that is some double is read as that double. -/
theorem readNumber_of_isNumber {value : Value} {number : Binary64} (field : Field)
    (finite : number.isFinite = true) (same : value.isNumber number = true) :
    value.isNull = false ∧ readNumber value field = .ok number := by
  cases value with
  | int whole =>
    refine ⟨rfl, ?_⟩
    rw [readNumber, beq_iff_eq.mp same]
  | double value =>
    obtain rfl := beq_iff_eq.mp same
    exact ⟨rfl, if_pos finite⟩
  | _ => cases same

/-- An object without fields says as much as none. -/
theorem readObjectOrEmpty_apartFrom (value : Value) (field : Field) :
    readObjectOrEmpty ((value.apartFrom Value.isEmptyMap).getD .null) field =
      readObjectOrEmpty value field := by
  rw [Value.getD_apartFrom]
  split
  · rename_i empty
    unfold Value.isEmptyMap at empty
    split at empty
    · rfl
    · cases empty
  · rfl

theorem lookup_map_named {β γ : Type} (change : String → β → γ) (pairs : List (String × β))
    (name : String) :
    (pairs.map fun (known, value) => (known, change known value)).lookup name =
      (pairs.lookup name).map (change name) := by
  induction pairs with
  | nil => rfl
  | cons first rest ih =>
    obtain ⟨known, value⟩ := first
    rw [List.map_cons, List.lookup_cons, List.lookup_cons, ih]
    by_cases same : name = known
    · rw [same, beq_self_eq_true]
      rfl
    · rw [beq_eq_false_iff_ne.mpr same]

namespace Value.Rules

variable (rules : Rules) (entries : List (Value × Value)) (name : String)

/-- A field of a reduced object is what is left of it. -/
theorem field_reduce {left : Value → Option Value} (rule : rules.fields.lookup name = some left) :
    Value.field (rules.reduce entries) name = (left (Value.field entries name)).getD .null := by
  have names : (rules.fields.map fun (name, left) => (name, left (Value.field entries name))).map
      Prod.fst = rules.fields.map Prod.fst := by
    rw [List.map_map]
    rfl
  have found :=
    lookup_map_named (fun name left => left (Value.field entries name)) rules.fields name
  rw [rule] at found
  rw [reduce, Value.field_entriesOf (names ▸ rules.distinct)]
  exact congrArg (·.join.getD null) found

theorem field_present (rule : rules.fields.lookup name = some present) :
    Value.field (rules.reduce entries) name = Value.field entries name := by
  rw [rules.field_reduce entries name rule, getD_present]

theorem readWord_reduce {β : Type} [Worded β] [Worded.Legible β] (default : β)
    (rule : rules.fields.lookup name = some (apartFrom (isWord (Worded.word default))))
    (field : Field) :
    readWord (Value.field (rules.reduce entries) name) field default =
      readWord (Value.field entries name) field default := by
  rw [rules.field_reduce entries name rule, getD_apartFrom]
  split
  · rename_i same
    unfold isWord at same
    split at same
    · rename_i word written
      rw [written, beq_iff_eq.mp same]
      exact (readWord_wire default default).symm
    · cases same
  · rfl

theorem readStart_reduce (rule : rules.fields.lookup name = some (apartFrom (isNumber .zero)))
    (field : Field) :
    readStart (Value.field (rules.reduce entries) name) field =
      readStart (Value.field entries name) field := by
  rw [rules.field_reduce entries name rule, getD_apartFrom]
  split
  · rename_i same
    obtain ⟨present, read⟩ := readNumber_of_isNumber field Binary64.zero_finite same
    refine (readStart_eq_ok.mpr (.inr ⟨present, read, ?_⟩)).symm
    decide +kernel
  · rfl

theorem readWithin_reduce {default : Binary64} {bounds : Bounds}
    (kept : default.isFinite = true ∧ bounds.allow default = true)
    (rule : rules.fields.lookup name = some (apartFrom (isNumber default))) (field : Field) :
    readWithin (Value.field (rules.reduce entries) name) default bounds field =
      readWithin (Value.field entries name) default bounds field := by
  rw [rules.field_reduce entries name rule, getD_apartFrom]
  split
  · rename_i same
    obtain ⟨present, read⟩ := readNumber_of_isNumber field kept.1 same
    exact (readWithin_eq_ok.mpr (.inr ⟨present, read, kept.2⟩)).symm
  · rfl

end Value.Rules

section Dressing

open Value

variable {α : Type} [Quantity α] (value : Value) (field : Field)

theorem readGrade_reduce :
    (readGrade (value.reduceBy gradeRules) field : Except Failure (ColorGrade α)) =
      readGrade value field := by
  cases value with
  | map entries =>
    obtain ⟨bright, contrasted, saturated, _⟩ := defaults_allowed
    have brightness := gradeRules.readWithin_reduce entries "brightness" bright rfl
    have contrast := gradeRules.readWithin_reduce entries "contrast" contrasted rfl
    have saturation := gradeRules.readWithin_reduce entries "saturation" saturated rfl
    simp only [readGrade, reduceBy, readObjectOrEmpty, isNull, readObject, Bool.false_eq_true,
      if_false, bind, Except.bind, brightness, contrast, saturation]
  | _ => rfl

theorem readOverlay_reduce :
    (readOverlay (value.reduceBy overlayRules) field : Except Failure (Option (Overlay α))) =
      readOverlay value field := by
  cases value with
  | map entries =>
    have color := overlayRules.field_present entries "hexColor" rfl
    have opacity := overlayRules.readWithin_reduce entries "opacity" defaults_allowed.2.2.2 rfl
    simp only [readOverlay, reduceBy, isNull, readObject, Bool.false_eq_true, if_false, bind,
      Except.bind, color, opacity]
  | _ => rfl

theorem readVisualEdit_reduce :
    (readVisualEdit (value.reduceBy visualEditRules) field : Except Failure (VisualEdit α)) =
      readVisualEdit value field := by
  cases value with
  | map entries =>
    have filter := visualEditRules.readWord_reduce entries "filter" ColorFilter.none rfl
    have grade (place : Field) : (readGrade (Value.field (visualEditRules.reduce entries)
        "colorGrade") place : Except Failure (ColorGrade α)) =
          readGrade (Value.field entries "colorGrade") place := by
      rw [visualEditRules.field_reduce entries "colorGrade" rfl, readGrade,
        readObjectOrEmpty_apartFrom]
      exact readGrade_reduce _ _
    have overlay (place : Field) : (readOverlay (Value.field (visualEditRules.reduce entries)
        "overlay") place : Except Failure (Option (Overlay α))) =
          readOverlay (Value.field entries "overlay") place := by
      rw [visualEditRules.field_reduce entries "overlay" rfl, getD_present]
      exact readOverlay_reduce _ _
    simp only [readVisualEdit, reduceBy, readObjectOrEmpty, isNull, readObject, Bool.false_eq_true,
      if_false, bind, Except.bind, filter, grade, overlay]
  | _ => rfl

theorem readCaption_reduce (shown : α) :
    readCaption (value.reduceBy captionRules) field shown = readCaption value field shown := by
  cases value with
  | map entries =>
    have text := captionRules.field_present entries "text" rfl
    have start := captionRules.readStart_reduce entries "startOffsetSec" rfl
    have stop := captionRules.field_present entries "endOffsetSec" rfl
    have position := captionRules.readWord_reduce entries "position" CaptionPosition.bottom rfl
    simp only [readCaption, reduceBy, isNull, readObject, Bool.false_eq_true, if_false, bind,
      Except.bind, text, start, stop, position]
  | _ => rfl

theorem readTransition_reduce (index : Nat) (previous shown : α) :
    readTransition (value.reduceBy transitionRules) field index previous shown =
      readTransition value field index previous shown := by
  cases value with
  | map entries =>
    have kind := transitionRules.readWord_reduce entries "type" TransitionKind.cut rfl
    have length := transitionRules.field_present entries "transitionDurationSec" rfl
    simp only [readTransition, reduceBy, readObjectOrEmpty, isNull, readObject, Bool.false_eq_true,
      if_false, bind, Except.bind, kind, length]
  | _ => rfl

end Dressing

section Scenes

open Value

variable {α : Type} [Quantity α] (prober : Prober α) (assets : Named Upload)

/-- An image may say that its clip starts at zero, as if it said nothing of a start. -/
theorem readImageDuration_reduce (entries : List (Value × Value)) (field : Field) (upload : Upload)
    (asset : String) (index : Nat) :
    readImageDuration (sceneRules.reduce entries) field upload asset index =
      readImageDuration entries field upload asset index := by
  have duration := sceneRules.field_present entries "durationSec" rfl
  have length := sceneRules.field_present entries "clipDurationSec" rfl
  have start := sceneRules.field_reduce entries "clipStartSec" rfl
  rw [getD_apartFrom] at start
  by_cases same : (Value.field entries "clipStartSec").isNumber .zero = true
  · obtain ⟨present, read⟩ :=
      readNumber_of_isNumber (field.member "clipStartSec") Binary64.zero_finite same
    have early : epsilon.lt .zero = false := by decide +kernel
    rw [if_pos same] at start
    have absent : Value.null.isNull = true := rfl
    simp only [readImageDuration, duration, length, start, present, absent, read, early,
      Bool.not_true, Bool.not_false, Bool.false_eq_true, if_false, if_true, bind, Except.bind]
  · rw [if_neg same] at start
    simp only [readImageDuration, duration, length, start]

theorem readShown_reduce (entries : List (Value × Value)) (field : Field) (upload : Upload)
    (asset : String) (index : Nat) (start : α) (kind : SceneKind) :
    readShown prober (sceneRules.reduce entries) field upload asset index start kind =
      readShown prober entries field upload asset index start kind := by
  have duration := sceneRules.field_present entries "durationSec" rfl
  have length := sceneRules.field_present entries "clipDurationSec" rfl
  cases kind with
  | image => rw [readShown, readShown, readImageDuration_reduce]
  | video => simp only [readShown, readClipLength, duration, length]

theorem readScene_reduce (index : Nat) (previous : α) (value : Value) :
    readScene prober assets index previous (value.reduceBy sceneRules) =
      readScene prober assets index previous value := by
  cases value with
  | map entries =>
    have asset := sceneRules.field_present entries "assetId" rfl
    have kind := sceneRules.field_present entries "type" rfl
    have motion := sceneRules.readWord_reduce entries "motion" Motion.none rfl
    have start := sceneRules.readStart_reduce entries "clipStartSec" rfl
    have caption (place : Field) (shown : α) :
        readCaption (Value.field (sceneRules.reduce entries) "caption") place shown =
          readCaption (Value.field entries "caption") place shown := by
      rw [sceneRules.field_reduce entries "caption" rfl, getD_present]
      exact readCaption_reduce _ _ _
    have transition (place : Field) (shown : α) :
        readTransition (Value.field (sceneRules.reduce entries) "transition") place index previous
            shown =
          readTransition (Value.field entries "transition") place index previous shown := by
      rw [sceneRules.field_reduce entries "transition" rfl, readTransition,
        readObjectOrEmpty_apartFrom]
      exact readTransition_reduce _ _ _ _ _
    have visualEdit (place : Field) :
        (readVisualEdit (Value.field (sceneRules.reduce entries) "visualEdit") place :
            Except Failure (VisualEdit α)) =
          readVisualEdit (Value.field entries "visualEdit") place := by
      rw [sceneRules.field_reduce entries "visualEdit" rfl, readVisualEdit,
        readObjectOrEmpty_apartFrom]
      exact readVisualEdit_reduce _ _
    simp only [readScene, reduceBy, isNull, readObject, Bool.false_eq_true, if_false,
      Action.lift_ok_bind, asset, kind, motion, start, caption, transition, visualEdit,
      readShown_reduce]
  | _ => rfl

theorem readScenes_reduce (values : List Value) (index : Nat) (previous total : α) :
    readScenes prober assets index previous total (values.map (reduceBy sceneRules)) =
      readScenes prober assets index previous total values := by
  induction values generalizing index previous total with
  | nil => rfl
  | cons value rest ih => simp only [List.map_cons, readScenes, readScene_reduce, ih]

theorem listScenes_reduce (value : Value) :
    listScenes value.reduceScenes = (listScenes value).map (List.map (reduceBy sceneRules)) := by
  cases value with
  | list values =>
    cases values with
    | nil => rfl
    | cons first rest =>
      simp only [reduceScenes, List.map_cons, listScenes, List.length_cons, List.length_map]
      split <;> rfl
  | _ => rfl

/-- Validation goes by what is left of a manifest. -/
theorem validate_essence (value : Value) :
    validate prober assets value.essence = validate prober assets value := by
  cases value with
  | map entries =>
    have preset := manifestRules.field_present entries "outputPreset" rfl
    have scenes := manifestRules.field_reduce entries "scenes" rfl
    rw [getD_present] at scenes
    simp only [validate, essence, reduceBy, isNull, readObject, Bool.false_eq_true, if_false,
      Action.lift_ok_bind, Action.lift_map_bind, preset, scenes, listScenes_reduce,
      readScenes_reduce]
  | _ => rfl

/-- Absent, null and the default are one: manifests that say the same have the same outcome on the
same workspace, be it a manifest or a failure. -/
theorem validate_indifferent {left right : Value} (same : left.essence = right.essence) :
    validate prober assets left = validate prober assets right := by
  rw [← validate_essence, same, validate_essence]

end Scenes

/-- The manifest `coverAndClip` with nulls, empty objects, defaults and a comment written out. -/
def coverAndClipInFull : Value := .map [
  (.text "comment", .text "first draft"),
  (.text "scenes", .list [
    .map [(.text "type", .text "image"), (.text "assetId", .text " cover "),
      (.text "durationSec", .int 4), (.text "clipDurationSec", .null),
      (.text "motion", .text "NONE"), (.text "transition", .map [(.text "type", .text "CUT")]),
      (.text "caption", .map [(.text "text", .text "Hello"), (.text "endOffsetSec", .null),
        (.text "position", .text "BOTTOM")]),
      (.text "visualEdit", .map [(.text "filter", .text "NONE"), (.text "overlay", .null),
        (.text "colorGrade", .map [(.text "gamma", .int 2)])])],
    .map [(.text "assetId", .text "clip"), (.text "type", .text "VIDEO"), (.text "caption", .null),
      (.text "transition", .map [(.text "type", .text "CROSSFADE"),
        (.text "transitionDurationSec", .int 1)]),
      (.text "visualEdit", .map [(.text "colorGrade", .map []),
        (.text "overlay", .map [(.text "hexColor", .text "#a1b2c3")])])]]),
  (.text "outputPreset", .text "landscape_16_9")]

theorem coverAndClip_indifferent :
    coverAndClipInFull.essence = coverAndClip.essence ∧
      validate nineSeconds coverAndClipAssets coverAndClipInFull =
        validate nineSeconds coverAndClipAssets coverAndClip ∧
      ∃ manifest last,
        (validate nineSeconds coverAndClipAssets coverAndClip).on .bare = (.ok manifest, last) := by
  have same : coverAndClipInFull.essence = coverAndClip.essence := rfl
  exact ⟨same, validate_indifferent nineSeconds coverAndClipAssets same, coverAndClip_accepted⟩

end Montage
