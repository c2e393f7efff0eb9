import Montage.Proofs.Manifest.Finite

/-! How validation fails. All failures are violations of a rule, but for those that a whole number
beyond doubles or an asset with a path that is too long brings about. -/

namespace Montage

namespace Value

mutual

/-- The whole numbers in a value. -/
def wholes : Value → List Int
  | int whole => [whole]
  | list items | tuple items | set items => wholesOfItems items
  | map entries => wholesOfEntries entries
  | _ => []

/-- The whole numbers in some items. -/
def wholesOfItems : List Value → List Int
  | [] => []
  | item :: rest => item.wholes ++ wholesOfItems rest

/-- The whole numbers in some entries. -/
def wholesOfEntries : List (Value × Value) → List Int
  | [] => []
  | (key, value) :: rest => key.wholes ++ value.wholes ++ wholesOfEntries rest

end

theorem wholes_item {item : Value} {items : List Value} (member : item ∈ items) :
    item.wholes ⊆ wholesOfItems items := by
  induction member with
  | head rest => exact List.subset_append_left _ _
  | tail first _ ih => exact List.subset_append_of_subset_right _ ih

theorem wholes_entry {entry : Value × Value} {entries : List (Value × Value)}
    (member : entry ∈ entries) : entry.2.wholes ⊆ wholesOfEntries entries := by
  induction member with
  | head rest =>
    exact List.Subset.trans (List.subset_append_right _ _) (List.subset_append_left _ _)
  | tail first _ ih => exact List.subset_append_of_subset_right _ ih

theorem wholes_field (entries : List (Value × Value)) (name : String) :
    (field entries name).wholes ⊆ wholesOfEntries entries := by
  change (((entries.find? (·.1.sameKey (text name))).map Prod.snd).getD null).wholes ⊆ _
  cases found : entries.find? (·.1.sameKey (text name)) with
  | none => exact List.nil_subset _
  | some entry => exact wholes_entry (List.mem_of_find?_eq_some found)

mutual

/-- A value that cannot be written holds a whole number that is too long. -/
theorem exists_long : (value : Value) → value.writable = false →
    ∃ whole ∈ value.wholes, Nat.pow 10 maxIntegerDigits ≤ whole.natAbs
  | int whole => fun unwritable => by
    rw [writable, decide_eq_false_iff_not, Nat.not_lt] at unwritable
    exact ⟨whole, List.mem_singleton_self whole, unwritable⟩
  | list items | tuple items | set items => exists_long_item items
  | map entries => exists_long_entry entries
  | null | bool _ | double _ | text _ | bytes _ | date _ | instant _ => nofun

theorem exists_long_item : (items : List Value) → writableItems items = false →
    ∃ whole ∈ wholesOfItems items, Nat.pow 10 maxIntegerDigits ≤ whole.natAbs
  | [] => nofun
  | item :: rest => fun unwritable => by
    rcases Bool.and_eq_false_iff.mp unwritable with here | later
    · obtain ⟨whole, member, long⟩ := exists_long item here
      exact ⟨whole, List.mem_append_left _ member, long⟩
    · obtain ⟨whole, member, long⟩ := exists_long_item rest later
      exact ⟨whole, List.mem_append_right _ member, long⟩

theorem exists_long_entry : (entries : List (Value × Value)) → writableEntries entries = false →
    ∃ whole ∈ wholesOfEntries entries, Nat.pow 10 maxIntegerDigits ≤ whole.natAbs
  | [] => nofun
  | (key, value) :: rest => fun unwritable => by
    rw [writableEntries, Bool.and_eq_false_iff, Bool.and_eq_false_iff] at unwritable
    obtain (inKey | inValue) | later := unwritable
    · obtain ⟨whole, member, long⟩ := exists_long key inKey
      exact ⟨whole, List.mem_append_left _ (List.mem_append_left _ member), long⟩
    · obtain ⟨whole, member, long⟩ := exists_long value inValue
      exact ⟨whole, List.mem_append_left _ (List.mem_append_right _ member), long⟩
    · obtain ⟨whole, member, long⟩ := exists_long_entry rest later
      exact ⟨whole, List.mem_append_right _ member, long⟩

end

end Value

/-- What a failure of validation comes from: a rule that is broken, a whole number where a number or
a word is read, or the path of an asset. -/
inductive Value.Causes (value : Value) (assets : Named Upload) (seen : Workspace → Prop) :
    Failure → Prop where
  | broken (field : Field) (violation : Violation) :
      value.Causes assets seen (.invalid field violation)
  | outOfRange {whole : Int} (written : whole ∈ value.wholes)
      (beyond : Binary64.ofInt? whole = none) : value.Causes assets seen (.fault .outOfRange)
  | unwritable {whole : Int} (written : whole ∈ value.wholes)
      (long : Nat.pow 10 maxIntegerDigits ≤ whole.natAbs) :
      value.Causes assets seen (.argument (.integerTooLong none))
  | unreachable {asset : String} {upload : Upload} {path : Path} {workspace : Workspace}
      (named : assets.get? asset = some upload) (filed : upload.source = .file path)
      (known : seen workspace) (refused : workspace.disk.status path.text = .error .tooLong) :
      value.Causes assets seen (.system (.refused .tooLong path.text))

section Dressing

variable {root value : Value} {assets : Named Upload} {seen : Workspace → Prop} {field : Field}

/-- Something goes on unless a rule is broken. -/
theorem unlessBroken_fails {β : Type} {test : Prop} [Decidable test] {violation : Violation}
    {rest : Except Failure β} (fails : FailsBy (root.Causes assets seen) rest) :
    FailsBy (root.Causes assets seen) (if test then .error (.invalid field violation) else rest) := by
  split
  · exact .error (.broken _ _)
  · exact fails

/-- Something goes on provided that a rule is kept. -/
theorem ifKept_fails {β : Type} {test : Prop} [Decidable test] {violation : Violation}
    {rest : Except Failure β} (fails : FailsBy (root.Causes assets seen) rest) :
    FailsBy (root.Causes assets seen) (if test then rest else .error (.invalid field violation)) := by
  split
  · exact fails
  · exact .error (.broken _ _)

theorem readObject_fails : FailsBy (root.Causes assets seen) (readObject value field) := by
  cases value with
  | map entries => exact .ok entries
  | _ => exact .error (.broken _ _)

theorem readObjectOrEmpty_fails :
    FailsBy (root.Causes assets seen) (readObjectOrEmpty value field) := by
  unfold readObjectOrEmpty
  split
  · exact .ok []
  · exact readObject_fails

variable (part : value.wholes ⊆ root.wholes)

include part

theorem readObject_part {entries : List (Value × Value)}
    (read : readObject value field = .ok entries) (name : String) :
    (Value.field entries name).wholes ⊆ root.wholes := by
  obtain rfl := readObject_eq_ok.mp read
  exact List.Subset.trans (Value.wholes_field entries name) part

theorem readObjectOrEmpty_part {entries : List (Value × Value)}
    (read : readObjectOrEmpty value field = .ok entries) (name : String) :
    (Value.field entries name).wholes ⊆ root.wholes := by
  unfold readObjectOrEmpty at read
  split at read
  · obtain rfl := Except.ok.inj read
    exact List.nil_subset _
  · exact readObject_part part read name

theorem readNumber_fails : FailsBy (root.Causes assets seen) (readNumber value field) := by
  cases value with
  | int whole =>
    rw [readNumber]
    cases found : Binary64.ofInt? whole with
    | none => exact .error (.outOfRange (part (List.mem_singleton_self whole)) found)
    | some number => exact .ok number
  | double number =>
    rw [readNumber]
    exact ifKept_fails (.ok number)
  | _ => exact .error (.broken _ _)

theorem readWord_fails {β : Type} [Worded β] (default : β) :
    FailsBy (root.Causes assets seen) (readWord value field default) := by
  have unknown : FailsBy (root.Causes assets seen)
      (if value.writable then .error (.invalid field (.unknownWord (Worded.words β) value.quoted))
        else .error (.argument (.integerTooLong none)) : Except Failure β) := by
    split
    · exact .error (.broken _ _)
    · rename_i unwritable
      obtain ⟨whole, member, long⟩ := Value.exists_long value (Bool.eq_false_iff.mpr unwritable)
      exact .error (.unwritable (part member) long)
  cases value with
  | null => exact .ok default
  | text word =>
    unfold readWord
    dsimp only
    split
    · exact .ok _
    · exact unknown
  | _ => exact unknown

theorem requireWord_fails {β : Type} [Worded β] (default : β) :
    FailsBy (root.Causes assets seen) (requireWord value field default) := by
  exact unlessBroken_fails (readWord_fails part default)

theorem readStart_fails : FailsBy (root.Causes assets seen) (readStart value field) := by
  unfold readStart
  split
  · exact .ok _
  · exact (readNumber_fails part).bind fun number _ => unlessBroken_fails (.ok number)

theorem readWithin_fails (default : Binary64) (bounds : Bounds) :
    FailsBy (root.Causes assets seen) (readWithin value default bounds field) := by
  unfold readWithin
  split
  · exact .ok _
  · exact (readNumber_fails part).bind fun number _ => ifKept_fails (.ok number)

theorem readGrade_fails :
    FailsBy (root.Causes assets seen) (readGrade (α := Number) value field) := by
  refine readObjectOrEmpty_fails.bind fun entries read => ?_
  have inside := readObjectOrEmpty_part part read
  refine (readWithin_fails (inside _) _ _).bind fun _ _ => ?_
  refine (readWithin_fails (inside _) _ _).bind fun _ _ => ?_
  exact (readWithin_fails (inside _) _ _).bind fun _ _ => .ok _

omit part in
theorem readColor_fails : FailsBy (root.Causes assets seen) (readColor value field) := by
  cases value with
  | text text =>
    unfold readColor
    exact unlessBroken_fails (ifKept_fails (.ok _))
  | _ => exact .error (.broken _ _)

theorem readOverlay_fails :
    FailsBy (root.Causes assets seen) (readOverlay (α := Number) value field) := by
  unfold readOverlay
  split
  · exact .ok _
  · refine readObject_fails.bind fun entries read => ?_
    refine readColor_fails.bind fun _ _ => ?_
    refine (readWithin_fails (readObject_part part read _) _ _).bind fun _ _ => ?_
    split
    · exact .ok _
    · exact .ok _

theorem readVisualEdit_fails :
    FailsBy (root.Causes assets seen) (readVisualEdit (α := Number) value field) := by
  refine readObjectOrEmpty_fails.bind fun entries read => ?_
  have inside := readObjectOrEmpty_part part read
  refine (readWord_fails (inside _) _).bind fun _ _ => ?_
  refine (readGrade_fails (inside _)).bind fun _ _ => ?_
  exact (readOverlay_fails (inside _)).bind fun _ _ => .ok _

omit part in
theorem readCaptionText_fails :
    FailsBy (root.Causes assets seen) (readCaptionText value field) := by
  cases value with
  | text text =>
    unfold readCaptionText
    exact unlessBroken_fails (.ok _)
  | _ => exact .error (.broken _ _)

theorem readStop_fails (seconds : Binary64) :
    FailsBy (root.Causes assets seen) (readStop value field (Number.double seconds)) := by
  unfold readStop
  split
  · exact .ok _
  · exact (readNumber_fails part).map

/-- Sums of doubles are doubles, so no caption of a scene of some seconds is at fault. -/
theorem readCaption_fails (seconds : Binary64) :
    FailsBy (root.Causes assets seen) (readCaption value field (Number.double seconds)) := by
  unfold readCaption
  split
  · exact .ok _
  · refine readObject_fails.bind fun entries read => ?_
    have inside := readObject_part part read
    refine readCaptionText_fails.bind fun _ _ => ?_
    refine (readStart_fails (inside _)).bind fun start _ => ?_
    refine (readStop_fails (inside _) seconds).bind fun stop _ => ?_
    refine FailsBy.bind (.ok (Number.double (start + epsilon))) fun earliest _ => ?_
    refine unlessBroken_fails ?_
    refine FailsBy.bind (.ok (Number.double (seconds + epsilon))) fun latest _ => ?_
    refine unlessBroken_fails ?_
    exact (readWord_fails (inside _) _).bind fun _ _ => .ok _

theorem readCrossfade_fails (previous seconds : Binary64) :
    FailsBy (root.Causes assets seen)
      (readCrossfade value field (Number.double previous) (Number.double seconds)) := by
  have compared (length limit : Binary64) : FailsBy (root.Causes assets seen)
      (reaches (Number.double length) (Number.double limit)) :=
    FailsBy.bind (.ok (Number.double (limit - epsilon))) fun _ _ => .ok _
  refine (readNumber_fails part).bind fun number _ => ?_
  refine unlessBroken_fails ?_
  refine (compared number previous).bind fun _ _ => ?_
  refine unlessBroken_fails ?_
  exact (compared number seconds).bind fun _ _ => unlessBroken_fails (.ok _)

theorem readTransition_fails (index : Nat) (previous seconds : Binary64) :
    FailsBy (root.Causes assets seen)
      (readTransition value field index (Number.double previous) (Number.double seconds)) := by
  refine readObjectOrEmpty_fails.bind fun entries read => ?_
  have inside := readObjectOrEmpty_part part read
  refine (readWord_fails (inside _) _).bind fun kind _ => ?_
  cases kind with
  | cut => exact .ok _
  | crossfade =>
    refine unlessBroken_fails ?_
    exact (readCrossfade_fails (inside _) previous seconds).bind fun _ _ => .ok _

end Dressing

/-- A probe answers some seconds, or that it could not find them out. -/
def Prober.Answers (prober : Prober Number) : Prop :=
  ∀ upload workspace, (∃ seconds, ((prober upload).on workspace).1 = .ok (.double seconds)) ∨
    ∃ cause, ((prober upload).on workspace).1 = .error (.probe cause)

section Scenes

variable {root : Value} {assets : Named Upload} {seen : Workspace → Prop} {prober : Prober Number}
  {origin : Workspace} {entries : List (Value × Value)} {field : Field} {upload : Upload}
  {asset : String} {index : Nat}

theorem checkContentType_fails {kind : SceneKind} :
    FailsBy (root.Causes assets seen) (checkContentType upload asset index kind) :=
  ifKept_fails (.ok _)

theorem readAssetId_fails {value : Value} :
    FailsBy (root.Causes assets seen) (readAssetId value field) := by
  cases value with
  | text text =>
    unfold readAssetId
    exact unlessBroken_fails (.ok _)
  | _ => exact .error (.broken _ _)

theorem requireAsset_fails :
    (requireAsset assets asset index).FailsBy seen (root.Causes assets seen) := by
  unfold requireAsset
  split
  · exact .throw (.broken _ _)
  · rename_i upload named
    refine Action.FailsBy.bind (fun start known => ⟨known, fun failure failed => ?_⟩) ?_
    · change upload.isEmpty start.disk = .error failure at failed
      unfold Upload.isEmpty at failed
      split at failed
      · cases failed
      · cases failed
      · rename_i path filed
        split at failed
        · cases failed
        · rename_i refused
          obtain rfl := Except.error.inj failed
          exact .unreachable named filed known refused
        · cases failed
    · intro _ empty _ _
      cases empty with
      | true => exact .throw (.broken _ _)
      | false => exact .pure _

theorem listScenes_fails {value : Value} :
    FailsBy (root.Causes assets seen) (listScenes value) := by
  unfold listScenes
  split
  · exact .error (.broken _ _)
  · exact unlessBroken_fails (.ok _)
  · exact .error (.broken _ _)

theorem checkTotal_fails (total : Number) :
    FailsBy (root.Causes assets seen) (checkTotal total) := by
  rw [checkTotal_number]
  exact unlessBroken_fails (.ok _)

variable (inside : ∀ name, (Value.field entries name).wholes ⊆ root.wholes)

include inside

theorem readImageDuration_fails :
    FailsBy (root.Causes assets seen) (readImageDuration entries field upload asset index) := by
  have duration : FailsBy (root.Causes assets seen) (do
      let duration ← readNumber (Value.field entries "durationSec") (field.member "durationSec")
      if imageBounds.allow duration then return duration
      else .error (.invalid (field.member "durationSec") (imageBounds.violation " seconds"))) := by
    exact (readNumber_fails (inside _)).bind fun _ _ => ifKept_fails (.ok _)
  refine checkContentType_fails.bind fun _ _ => ?_
  refine unlessBroken_fails ?_
  dsimp only
  split
  · exact (readNumber_fails (inside _)).bind fun _ _ => unlessBroken_fails duration
  · exact duration

variable (answers : prober.Answers)

include answers

theorem readClipLength_fails (start : Binary64) :
    (readClipLength prober entries field upload asset index (Number.double start)).FailsBy
      (Probed prober origin) (root.Causes assets (Probed prober origin)) := by
  have probed : (prober upload).attempt.FailsBy (Probed prober origin)
      (root.Causes assets (Probed prober origin)) :=
    fun _ known => ⟨known.probe upload, .ok _⟩
  refine Action.FailsBy.lift_bind checkContentType_fails fun _ _ => ?_
  split
  · exact Action.FailsBy.bind (.throw (.broken _ _)) nofun
  · dsimp only
    split
    · refine Action.FailsBy.lift_bind (readNumber_fails (inside _)) fun _ _ => ?_
      split
      · exact Action.FailsBy.bind (.throw (.broken _ _)) nofun
      · exact .pure _
    · refine probed.bind fun before outcome _ reported => ?_
      obtain rfl := Except.ok.inj (congrArg Prod.fst reported)
      split
      · exact .throw (.broken _ _)
      · rename_i failure notProbe failed
        obtain ⟨seconds, answered⟩ | ⟨cause, answered⟩ := answers upload before
        · cases failed.symm.trans answered
        · exact absurd (Except.error.inj (failed.symm.trans answered)) (notProbe cause)
      · rename_i source found
        obtain ⟨seconds, answered⟩ | ⟨cause, answered⟩ := answers upload before
        · obtain rfl := Except.ok.inj (found.symm.trans answered)
          refine Action.FailsBy.lift_bind (.ok (Number.double (seconds - start))) fun _ _ => ?_
          split
          · exact Action.FailsBy.bind (.throw (.broken _ _)) nofun
          · exact .pure _
        · cases found.symm.trans answered

theorem readShown_fails (start : Binary64) (kind : SceneKind) :
    (readShown prober entries field upload asset index (Number.double start) kind).FailsBy
      (Probed prober origin) (root.Causes assets (Probed prober origin)) := by
  cases kind with
  | image => exact .lift (readImageDuration_fails inside).map
  | video => exact readClipLength_fails inside answers start

omit inside in
theorem readScene_fails {value : Value} (part : value.wholes ⊆ root.wholes) (previous : Binary64) :
    (readScene prober assets index (Number.double previous) value).FailsBy
      (Probed prober origin) (root.Causes assets (Probed prober origin)) := by
  unfold readScene
  dsimp only
  split
  · exact Action.FailsBy.bind (.throw (.broken _ _)) nofun
  · refine Action.FailsBy.lift_bind readObject_fails fun entries read => ?_
    have inside := readObject_part part read
    refine Action.FailsBy.lift_bind readAssetId_fails fun asset _ => ?_
    refine requireAsset_fails.bind fun _ upload _ _ => ?_
    refine Action.FailsBy.lift_bind (requireWord_fails (inside _) _) fun kind _ => ?_
    refine Action.FailsBy.lift_bind (readWord_fails (inside _) _) fun motion _ => ?_
    refine Action.FailsBy.lift_bind (readStart_fails (inside _)) fun start readStart => ?_
    refine (readShown_fails inside answers start kind).bind fun _ shown _ lasts => ?_
    obtain ⟨seconds, rfl, _⟩ := readShown_double (readStart_ok readStart).1 lasts
    refine Action.FailsBy.lift_bind (readCaption_fails (inside _) seconds) fun _ _ => ?_
    refine Action.FailsBy.lift_bind
      (readTransition_fails (inside _) index previous seconds) fun _ _ => ?_
    exact Action.FailsBy.lift_bind (readVisualEdit_fails (inside _)) fun _ _ => .pure _

omit inside in
/-- Induction on the raw scenes, with the double that each of them is shown for. -/
theorem readScenes_fails {values : List Value}
    (part : ∀ value ∈ values, value.wholes ⊆ root.wholes) (previous total : Binary64) :
    (readScenes prober assets index (Number.double previous) (Number.double total) values).FailsBy
      (Probed prober origin) (root.Causes assets (Probed prober origin)) := by
  induction values generalizing index previous total with
  | nil => exact .pure _
  | cons value rest ih =>
    obtain ⟨here, later⟩ := List.forall_mem_cons.mp part
    refine (readScene_fails answers here previous).bind fun _ read _ readHere => ?_
    obtain ⟨scene, shown⟩ := read
    obtain ⟨seconds, rfl, times⟩ := readScene_times readHere
    have counted : Action.compute (growTotal (Number.double total) scene (Number.double seconds)) =
        Action.lift (.ok (Number.double (scene.grown total seconds))) := by
      rw [growTotal_double times.anchored]
      rfl
    dsimp only
    rw [counted]
    refine Action.FailsBy.lift_bind (.ok _) fun grown same => ?_
    obtain rfl := Except.ok.inj same
    exact (ih later seconds _).bind fun _ _ _ _ => .pure _

omit inside in
theorem validate_fails (value : Value) :
    (validate prober assets value).FailsBy (Probed prober origin)
      (value.Causes assets (Probed prober origin)) := by
  have part : value.wholes ⊆ value.wholes := fun _ => id
  unfold validate
  dsimp only
  split
  · exact Action.FailsBy.bind (.throw (.broken _ _)) nofun
  · refine Action.FailsBy.lift_bind readObject_fails fun entries read => ?_
    have inside := readObject_part part read
    refine Action.FailsBy.lift_bind (requireWord_fails (inside _) _) fun preset _ => ?_
    refine Action.FailsBy.lift_bind listScenes_fails fun values listed => ?_
    have items : ∀ item ∈ values, item.wholes ⊆ value.wholes := by
      intro item member
      have list := (listScenes_ok listed).1 ▸ inside "scenes"
      exact List.Subset.trans (Value.wholes_item member) list
    refine (readScenes_fails answers items .zero .zero).bind fun _ timeline _ readAll => ?_
    obtain ⟨scenes, total⟩ := timeline
    obtain ⟨length, rfl, _⟩ := readScenes_times .start readAll
    exact Action.FailsBy.lift_bind (checkTotal_fails _) fun _ _ => .pure _

end Scenes

/-- No whole number in the value is beyond the range of doubles. -/
def Value.Fits (value : Value) : Prop :=
  ∀ whole ∈ value.wholes, (Binary64.ofInt? whole).isSome = true

/-- No asset has a path that is too long. -/
def Named.Reachable (assets : Named Upload) (seen : Workspace → Prop) : Prop :=
  ∀ asset upload path workspace, assets.get? asset = some upload → upload.source = .file path →
    seen workspace → workspace.disk.status path.text ≠ .error .tooLong

theorem Value.Causes.broken_of_fits {value : Value} {assets : Named Upload}
    {seen : Workspace → Prop} {failure : Failure} (cause : value.Causes assets seen failure)
    (fits : value.Fits) (reachable : assets.Reachable seen) :
    ∃ field violation, failure = .invalid field violation := by
  cases cause with
  | broken field violation => exact ⟨field, violation, rfl⟩
  | outOfRange written beyond =>
    have within := fits _ written
    rw [beyond] at within
    cases within
  | unwritable written long =>
    obtain ⟨number, found⟩ := Option.isSome_iff_exists.mp (fits _ written)
    exact absurd (Binary64.natAbs_lt_of_ofInt? found) (Nat.not_lt.mpr long)
  | unreachable named filed known refused =>
    exact absurd refused (reachable _ _ _ _ named filed known)

/-- Each failure of validation has its cause. It is the violation of a rule if all whole numbers are
within the range of doubles and no asset has a path that is too long. -/
theorem validate_causes {prober : Prober Number} {assets : Named Upload} {value : Value}
    (answers : prober.Answers) (start : Workspace) :
    (∀ failure, ((validate prober assets value).on start).1 = .error failure →
        value.Causes assets (Probed prober start) failure) ∧
      (value.Fits → assets.Reachable (Probed prober start) →
        (∃ manifest, ((validate prober assets value).on start).1 = .ok manifest) ∨
          ∃ field violation,
            ((validate prober assets value).on start).1 = .error (.invalid field violation)) := by
  have expected : (validate prober assets value).FailsBy (Probed prober start)
      (value.Causes assets (Probed prober start)) :=
    validate_fails answers value
  have fails := (expected start .start).2
  refine ⟨fails, fun fits reachable => ?_⟩
  cases outcome : ((validate prober assets value).on start).1 with
  | ok manifest => exact .inl ⟨manifest, rfl⟩
  | error failure =>
    obtain ⟨field, violation, rfl⟩ := (fails failure outcome).broken_of_fits fits reachable
    exact .inr ⟨field, violation, rfl⟩

/-- A probe that finds one second in everything. -/
def oneSecond : Prober Number := fun _ => pure (.double .one)

/-- A clip of one second is too short for the crossfade of `coverAndClip`. -/
theorem coverAndClip_violates :
    oneSecond.Answers ∧ coverAndClip.Fits ∧
      coverAndClipAssets.Reachable (Probed oneSecond .bare) ∧
      ((∃ manifest, ((validate oneSecond coverAndClipAssets coverAndClip).on .bare).1 =
          .ok manifest) ∨
        ∃ field violation, ((validate oneSecond coverAndClipAssets coverAndClip).on .bare).1 =
          .error (.invalid field violation)) := by
  have answers : oneSecond.Answers := fun _ _ => .inl ⟨.one, rfl⟩
  have fits : coverAndClip.Fits := by
    unfold Value.Fits
    decide +kernel
  have reachable : coverAndClipAssets.Reachable (Probed oneSecond .bare) := by
    intro asset upload path workspace named filed _
    rw [coverAndClipAssets, Named.get?_cons, Named.get?_cons] at named
    split at named
    · obtain rfl := Option.some.inj named
      cases filed
    · split at named
      · obtain rfl := Option.some.inj named
        cases filed
      · cases named
  exact ⟨answers, fits, reachable, (validate_causes answers .bare).2 fits reachable⟩

/-- An image shown for some duration, with some motion. -/
def coverFor (duration motion : Value) : Value := .map [
  (.text "outputPreset", .text "LANDSCAPE_16_9"),
  (.text "scenes", .list [
    .map [(.text "assetId", .text "cover"), (.text "type", .text "IMAGE"),
      (.text "durationSec", duration), (.text "motion", motion)]])]

/-- Two images that validation takes no notice of as violations: one shown for longer than there are
doubles, and one with a motion that cannot be written. -/
theorem coverFor_escapes :
    (validate oneSecond coverAndClipAssets
          (coverFor (.int (Nat.pow 10 400 : Nat)) .null)).on .bare =
        (.error (.fault .outOfRange), .bare) ∧
      (validate oneSecond coverAndClipAssets
          (coverFor (.int 4) (.list [.int (Nat.pow 10 4300 : Nat)]))).on .bare =
        (.error (.argument (.integerTooLong none)), .bare) :=
  ⟨by decide +kernel, by decide +kernel⟩

end Montage
