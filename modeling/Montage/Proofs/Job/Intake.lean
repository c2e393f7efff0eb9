import Montage.Job.Submission
import Montage.Proofs.File.Owned

/-! What submissions take in: a timeline is checked, and inputs are copied. -/

namespace Montage

section Checks

variable {α : Type} [Quantity α] {kept : Workspace → Prop} {prober : Prober α}

theorem requireAsset_keeps {assets : Named Upload} {asset : String} {index : Nat} :
    (requireAsset assets asset index).Keeps kept := by
  unfold requireAsset
  cases assets.get? asset with
  | none => exact Action.keeps_throw _
  | some upload =>
    refine (Action.keeps_look _).bind fun empty => ?_
    cases empty with
    | true => exact Action.keeps_throw _
    | false => exact Action.keeps_pure upload

variable (keeps : ∀ upload, (prober upload).Keeps kept)

include keeps

theorem readClipLength_keeps {entries : List (Value × Value)} {field : Field} {upload : Upload}
    {asset : String} {index : Nat} {start : α} :
    (readClipLength prober entries field upload asset index start).Keeps kept := by
  refine (Action.keeps_lift _).bind fun _ => ?_
  split
  · exact fun _ right => right
  · dsimp only
    split
    · refine (Action.keeps_lift _).bind fun length => ?_
      split
      · exact fun _ right => right
      · exact Action.keeps_pure _
    · refine (keeps upload).attempt.bind fun outcome => ?_
      split
      · exact Action.keeps_throw _
      · exact Action.keeps_throw _
      · refine (Action.keeps_compute _).bind fun remaining => ?_
        split
        · exact fun _ right => right
        · exact Action.keeps_pure remaining

theorem readShown_keeps {entries : List (Value × Value)} {field : Field} {upload : Upload}
    {asset : String} {index : Nat} {start : α} {kind : SceneKind} :
    (readShown prober entries field upload asset index start kind).Keeps kept := by
  cases kind with
  | image => exact Action.keeps_lift _
  | video => exact readClipLength_keeps keeps

theorem readScene_keeps {assets : Named Upload} {index : Nat} {previous : α} {value : Value} :
    (readScene prober assets index previous value).Keeps kept := by
  unfold readScene
  dsimp only
  split
  · exact fun _ right => right
  · refine (Action.keeps_lift _).bind fun entries => ?_
    refine (Action.keeps_lift _).bind fun asset => ?_
    refine requireAsset_keeps.bind fun upload => ?_
    refine (Action.keeps_lift _).bind fun kind => ?_
    refine (Action.keeps_lift _).bind fun motion => ?_
    refine (Action.keeps_lift _).bind fun start => ?_
    refine (readShown_keeps keeps).bind fun shown => ?_
    refine (Action.keeps_lift _).bind fun caption => ?_
    refine (Action.keeps_lift _).bind fun transition => ?_
    refine (Action.keeps_lift _).bind fun visualEdit => ?_
    exact Action.keeps_pure _

theorem readScenes_keeps {assets : Named Upload} {index : Nat} {previous total : α}
    {values : List Value} : (readScenes prober assets index previous total values).Keeps kept := by
  induction values generalizing index previous total with
  | nil => exact Action.keeps_pure _
  | cons value rest ih =>
    refine (readScene_keeps keeps).bind fun read => ?_
    refine (Action.keeps_compute _).bind fun total => ?_
    exact ih.bind fun later => Action.keeps_pure _

/-- Checking a manifest touches files only by its prober. -/
theorem validate_keeps {assets : Named Upload} {value : Value} :
    (validate prober assets value).Keeps kept := by
  unfold validate
  dsimp only
  split
  · exact fun _ right => right
  · refine (Action.keeps_lift _).bind fun entries => ?_
    refine (Action.keeps_lift _).bind fun preset => ?_
    refine (Action.keeps_lift _).bind fun values => ?_
    refine (readScenes_keeps keeps).bind fun read => ?_
    refine (Action.keeps_lift _).bind fun _ => ?_
    exact Action.keeps_pure _

theorem CompositionRequest.manifest_keeps {request : CompositionRequest α} :
    (request.manifest prober).Keeps kept := by
  unfold manifest
  cases request.timeline with
  | checked manifest => exact Action.keeps_pure manifest
  | raw value => exact validate_keeps keeps

end Checks

namespace Staging

variable {β γ : Type} {staging : Staging β}

/-- The copies made so far, and what is said of those that were made for a value. -/
structure Progress (directory : Place) (names : Set String) (before : List Path)
    (made : β → List Path → Prop) (result : Except Failure β × Workspace × List Path) : Prop where
  owned : Owned directory names result.2.2
  holds : result.2.1.disk.Holds directory (names ∪ Path.namesOf result.2.2)
  value : ∀ value, result.1 = .ok value →
    ∃ more, result.2.2 = before ++ more ∧ made value more
  lost : ∀ failure, result.1 = .error failure → ¬failure.IsInvalid

/-- The list of copies lists all of them, whatever the outcome. -/
def Fills (staging : Staging β) (made : β → List Path → Prop) : Prop :=
  ∀ directory names workspace before, Owned directory names before →
    workspace.disk.Holds directory (names ∪ Path.namesOf before) →
      Progress directory names before made (staging (workspace, before))

theorem Fills.pure {made : β → List Path → Prop} {value : β} (nothing : made value []) :
    (pure value : Staging β).Fills made := by
  intro directory names workspace before owned holds
  refine ⟨owned, holds, fun _ same => ⟨[], ?_, Except.ok.inj same ▸ nothing⟩, nofun⟩
  exact (List.append_nil before).symm

theorem Fills.bind {next : β → Staging γ} {first : β → List Path → Prop}
    {all : γ → List Path → Prop} (fills : staging.Fills first)
    (rest : ∀ found made, first found made →
      (next found).Fills fun value more => all value (made ++ more)) :
    (staging >>= next).Fills all := by
  intro directory names workspace before owned holds
  have progress := fills directory names workspace before owned holds
  rcases outcome : staging (workspace, before) with ⟨failure | found, last, copied⟩
  · rw [bind_error outcome]
    rw [outcome] at progress
    exact ⟨progress.owned, progress.holds, nofun,
      fun _ same => Except.error.inj same ▸ progress.lost failure rfl⟩
  · rw [bind_ok outcome]
    rw [outcome] at progress
    obtain ⟨made, grown, said⟩ := progress.value found rfl
    have later := rest found made said directory names last copied progress.owned progress.holds
    refine ⟨later.owned, later.holds, fun value same => ?_, later.lost⟩
    obtain ⟨more, listed, said⟩ := later.value value same
    exact ⟨made ++ more, by rw [listed, show copied = before ++ made from grown, List.append_assoc],
      said⟩

/-- One more copy. -/
theorem copy_fills {upload : Option Upload} {purpose : String} {suffix : Upload → String}
    (purposePlain : '/' ∉ purpose.toList)
    (suffixPlain : ∀ upload, '/' ∉ (suffix upload).toList) :
    (copy upload purpose suffix).Fills fun path made => made = [path] := by
  intro directory names workspace before owned holds
  cases upload with
  | none =>
    exact ⟨owned, holds, by rintro _ ⟨⟩, fun _ same =>
      Except.error.inj same ▸ Failure.fault_valid _⟩
  | some upload =>
    have staged := stage_ensures upload purposePlain (suffixPlain upload) workspace holds
    rw [copy]
    rcases outcome : stage upload purpose (suffix upload) workspace with ⟨failure | path, last⟩
    · rw [Action.on, outcome] at staged
      exact ⟨owned, staged.1, by rintro _ ⟨⟩, fun _ same => Except.error.inj same ▸ staged.2⟩
    · rw [Action.on, outcome] at staged
      obtain ⟨temporary, fresh, held⟩ := staged
      refine ⟨Owned.append_iff.mpr ⟨owned, .singleton temporary fresh⟩, ?_, ?_, by rintro _ ⟨⟩⟩
      · rwa [Path.namesOf_append, Path.namesOf_cons, Path.namesOf_nil, ← Set.union_assoc,
          Set.union_insert, Set.union_empty]
      · exact fun _ same => ⟨[path], rfl, Except.ok.inj same ▸ rfl⟩

theorem copyThumbnail_fills {upload : Option Upload} :
    (copyThumbnail upload).Fills fun thumbnail made =>
      made = (thumbnail.map Thumbnail.image).toList := by
  cases upload with
  | none => exact .pure rfl
  | some upload =>
    refine (copy_fills (by decide) fun _ => thumbnailSuffix_slashless _).bind fun image made same => ?_
    exact .pure (by simp [same])

theorem copyAssets_fills {assets : Named (Option Upload)} :
    (copyAssets assets).Fills fun paths made => made = paths.map Prod.snd := by
  induction assets with
  | nil => exact .pure rfl
  | cons asset rest ih =>
    refine (copy_fills (by decide) assetSuffix_slashless).bind fun path made same => ?_
    refine ih.bind fun paths more listed => ?_
    exact .pure (by simp [same, listed])

/-- Copies are all made, or taken away again when the system refuses one. -/
theorem collect_ensures {directory : Place} {names : Set String} {made : β → List Path → Prop}
    (fills : staging.Fills made) :
    staging.collect.Ensures (Workspace.Holds directory names) fun outcome last =>
      match outcome with
      | .ok (copies, owned) => Owned directory names owned ∧
          last.Holds directory (names ∪ Path.namesOf owned) ∧ made copies owned
      | .error failure => ¬failure.IsInvalid ∧
          ∀ error, failure = .system error → last.Holds directory names := by
  intro start holds
  have progress := fills directory names start [] .nil (by simpa using holds)
  rw [Action.on, collect]
  generalize staging (start, []) = result at progress ⊢
  obtain ⟨failure | copies, last, owned⟩ := result
  · have valid := progress.lost failure rfl
    cases failure with
    | system error => exact ⟨valid, fun _ _ => progress.owned.discardAll progress.holds⟩
    | _ => exact ⟨valid, by rintro _ ⟨⟩⟩
  · obtain ⟨more, same, said⟩ := progress.value copies rfl
    exact ⟨progress.owned, progress.holds, (show owned = more from same) ▸ said⟩

end Staging

theorem StillRequest.copies_fill (request : StillRequest) :
    request.copies.Fills fun (image, audio, thumbnail) made =>
      made = image :: audio :: (thumbnail.map Thumbnail.image).toList := by
  refine (Staging.copy_fills (by decide) assetSuffix_slashless).bind fun image made same => ?_
  refine (Staging.copy_fills (by decide) audioSuffix_slashless).bind fun audio more next => ?_
  refine Staging.copyThumbnail_fills.bind fun thumbnail last listed => ?_
  exact .pure (by simp [same, next, listed])

theorem CompositionRequest.copies_fill {α : Type} (request : CompositionRequest α) :
    request.copies.Fills fun (audio, assets, thumbnail) made =>
      made = audio :: assets.map Prod.snd ++ (thumbnail.map Thumbnail.image).toList := by
  refine (Staging.copy_fills (by decide) audioSuffix_slashless).bind fun audio made same => ?_
  refine Staging.copyAssets_fills.bind fun assets more next => ?_
  refine Staging.copyThumbnail_fills.bind fun thumbnail last listed => ?_
  exact .pure (by simp [same, next, listed])

end Montage
