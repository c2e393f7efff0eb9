import Montage.Proofs.File.Extended
import Montage.Proofs.Job.Setback

/-! The inputs of a request and the copies that are made of them, one after the other. -/

namespace Montage

variable {α β γ : Type} {origin : Disk} {directory : Place}

/-- An input of a request, and how its copy is named. -/
structure Input where
  upload : Option Upload
  purpose : String
  suffix : Upload → String

namespace Input

/-- Copies an input. -/
def copy (input : Input) : Staging Path := Staging.copy input.upload input.purpose input.suffix

/-- The parts of the name of a copy hold no slash. -/
structure Plain (input : Input) : Prop where
  purpose : '/' ∉ input.purpose.toList
  suffix : ∀ upload, '/' ∉ (input.suffix upload).toList

end Input

/-- Copies inputs in order. -/
def copyInputs : List Input → Staging Unit
  | [] => return ()
  | input :: rest => do
    let _ ← input.copy
    copyInputs rest

/-- The thumbnail of a request as an input, if there is one. -/
def thumbnailInputs (thumbnail : Option Upload) : List Input :=
  (thumbnail.map fun upload =>
    ⟨some upload, "thumbnail-", fun upload => thumbnailSuffix upload.contentType⟩).toList

/-- The inputs of an image over a soundtrack, in the order in which they are copied. -/
def StillRequest.inputs (request : StillRequest) : List Input :=
  ⟨request.image, "image-", assetSuffix⟩ :: ⟨request.audio, "audio-", audioSuffix⟩ ::
    thumbnailInputs request.thumbnail

/-- The inputs of a timeline, in the order in which they are copied. -/
def CompositionRequest.inputs (request : CompositionRequest α) : List Input :=
  ⟨request.audio, "composition-audio-", audioSuffix⟩ ::
    (request.assets.map fun (_, upload) => ⟨upload, "composition-asset-", assetSuffix⟩) ++
    thumbnailInputs request.thumbnail

/-- The inputs of a request, in the order in which they are copied. -/
def JobRequest.inputs : JobRequest α → List Input
  | .still request => request.inputs
  | .composition request => request.inputs

namespace Staging

variable {staging : Staging β} {inputs more : List Input}

/-- Copies are made as those of inputs in order. -/
def Follows (staging : Staging β) (inputs : List Input) : Prop :=
  ∀ state, (staging state).2 = (copyInputs inputs state).2 ∧
    (staging state).1.map (fun _ => ()) = (copyInputs inputs state).1

theorem Follows.pure (value : β) : (pure value : Staging β).Follows [] := fun _ => ⟨rfl, rfl⟩

theorem Follows.copy (upload : Option Upload) (purpose : String) (suffix : Upload → String) :
    (copy upload purpose suffix).Follows [⟨upload, purpose, suffix⟩] := by
  intro state
  rw [copyInputs, Input.copy]
  rcases outcome : Staging.copy upload purpose suffix state with ⟨failure | path, last⟩
  · rw [bind_error outcome]
    exact ⟨rfl, rfl⟩
  · rw [bind_ok outcome]
    exact ⟨rfl, rfl⟩

theorem copyInputs_append (inputs more : List Input) :
    copyInputs (inputs ++ more) = copyInputs inputs >>= fun _ => copyInputs more := by
  induction inputs with
  | nil => simp [copyInputs]
  | cons input rest ih => simp [copyInputs, ih]

theorem Follows.bind {next : β → Staging γ} (first : staging.Follows inputs)
    (rest : ∀ found, (next found).Follows more) : (staging >>= next).Follows (inputs ++ more) := by
  intro state
  obtain ⟨same, outcome⟩ := first state
  rw [copyInputs_append]
  rcases early : staging state with ⟨failure | found, middle⟩
  · have stopped : copyInputs inputs state = (.error failure, middle) := by
      rw [early] at same outcome
      exact Prod.ext outcome.symm same.symm
    rw [bind_error early, bind_error stopped]
    exact ⟨rfl, rfl⟩
  · have reached : copyInputs inputs state = (.ok (), middle) := by
      rw [early] at same outcome
      exact Prod.ext outcome.symm same.symm
    rw [bind_ok early, bind_ok reached]
    exact rest found middle

/-- What is done with a copy afterwards does not matter. -/
theorem Follows.map (follows : staging.Follows inputs) (change : β → γ) :
    (do return change (← staging) : Staging γ).Follows inputs := by
  have both := follows.bind fun found => Follows.pure (change found)
  rwa [List.append_nil] at both

theorem copyThumbnail_follows {thumbnail : Option Upload} :
    (copyThumbnail thumbnail).Follows (thumbnailInputs thumbnail) := by
  cases thumbnail with
  | none => exact .pure none
  | some upload =>
    have own := Follows.copy (some upload) "thumbnail-" fun upload =>
      thumbnailSuffix upload.contentType
    have both := own.map fun image => some (Thumbnail.mk image upload.contentType)
    simp only [copyThumbnail, thumbnailInputs, Option.map_some, Option.toList_some]
    exact both

theorem copyAssets_follows {assets : Named (Option Upload)} :
    (copyAssets assets).Follows
      (assets.map fun (_, upload) => ⟨upload, "composition-asset-", assetSuffix⟩) := by
  induction assets with
  | nil => exact .pure []
  | cons asset rest ih =>
    obtain ⟨id, upload⟩ := asset
    have own := Follows.copy upload "composition-asset-" assetSuffix
    exact own.bind fun path => ih.map fun paths => (id, path) :: paths

end Staging

theorem StillRequest.copies_follow (request : StillRequest) :
    request.copies.Follows request.inputs := by
  have image := Staging.Follows.copy request.image "image-" assetSuffix
  have audio := Staging.Follows.copy request.audio "audio-" audioSuffix
  exact image.bind fun _ => audio.bind fun _ => Staging.copyThumbnail_follows.map _

theorem CompositionRequest.copies_follow (request : CompositionRequest α) :
    request.copies.Follows request.inputs := by
  have audio := Staging.Follows.copy request.audio "composition-audio-" audioSuffix
  exact audio.bind fun _ => Staging.copyAssets_follows.bind fun _ =>
    Staging.copyThumbnail_follows.map _

section Copying

variable {inputs : List Input} {input : Input} {workspace last : Workspace} {files : List Path}

theorem Input.copy_absent (none : input.upload = none) :
    input.copy (workspace, files) = (.error (.fault .notText), workspace, files) := by
  rw [copy, none, Staging.copy]

section Staged

variable {upload : Upload} {path : Path} {failure : Failure}

theorem Input.copy_ok (present : input.upload = some upload)
    (staged : (stage upload input.purpose (input.suffix upload)).on workspace = (.ok path, last)) :
    input.copy (workspace, files) = (.ok path, last, files ++ [path]) := by
  rw [Action.on] at staged
  simp only [copy, present, Staging.copy, staged]

theorem Input.copy_error (present : input.upload = some upload)
    (staged : (stage upload input.purpose (input.suffix upload)).on workspace =
      (.error failure, last)) : input.copy (workspace, files) = (.error failure, last, files) := by
  rw [Action.on] at staged
  simp only [copy, present, Staging.copy, staged]

end Staged

/-- A copy is made and listed, or nothing is. -/
theorem Input.copy_cases (input : Input) (workspace : Workspace) (files : List Path) :
    (∃ upload path last, input.upload = some upload ∧
      (stage upload input.purpose (input.suffix upload)).on workspace = (.ok path, last) ∧
      input.copy (workspace, files) = (.ok path, last, files ++ [path])) ∨
    ∃ failure last, input.copy (workspace, files) = (.error failure, last, files) := by
  cases present : input.upload with
  | none => exact .inr ⟨_, _, copy_absent present⟩
  | some upload =>
    rcases staged : (stage upload input.purpose (input.suffix upload)).on workspace with
      ⟨failure | path, last⟩
    · exact .inr ⟨failure, last, copy_error present staged⟩
    · exact .inl ⟨upload, path, last, rfl, staged, copy_ok present staged⟩

/-- Induction on the inputs: the copies that are listed are there, and files beside them keep what they
hold. -/
theorem copyInputs_guards {held : Holding} (plain : ∀ input ∈ inputs, input.Plain)
    (guards : workspace.disk.Guards directory held) :
    ∃ made more, (copyInputs inputs (workspace, files)).2.2 = files ++ made ∧ held.Grows more made ∧
      (copyInputs inputs (workspace, files)).2.1.disk.Guards directory more := by
  induction inputs generalizing workspace files held with
  | nil => exact ⟨[], held, (List.append_nil files).symm, .refl held, guards⟩
  | cons first rest ih =>
    obtain ⟨here, later⟩ := List.forall_mem_cons.mp plain
    rw [copyInputs]
    cases present : first.upload with
    | none =>
      rw [bind_error (Input.copy_absent present)]
      exact ⟨[], held, (List.append_nil files).symm, .refl held, guards⟩
    | some upload =>
      have guarded := stage_guards upload here.purpose (here.suffix upload) workspace guards
      rcases staged : (stage upload first.purpose (first.suffix upload)).on workspace with
        ⟨failure | path, last⟩
      · rw [bind_error (Input.copy_error present staged)]
        rw [staged] at guarded
        obtain _ | ⟨guards⟩ := guarded
        exact ⟨[], held, (List.append_nil files).symm, .refl held, guards⟩
      · rw [bind_ok (Input.copy_ok present staged)]
        rw [staged] at guarded
        obtain ⟨unheld, guards⟩ | _ := guarded
        obtain ⟨made, more, listed, grows, guards⟩ := @ih last (files ++ [path]) _ later guards
        refine ⟨path :: made, more, ?_, grows.cons unheld, guards⟩
        rw [listed, List.append_assoc, List.singleton_append]

end Copying

namespace Staging

variable {staging : Staging β} {made : β → List Path → Prop}

/-- The copies that were made for a value are listed after the earlier ones. -/
def Lists (staging : Staging β) (made : β → List Path → Prop) : Prop :=
  ∀ (workspace last : Workspace) (before listed : List Path) (value : β),
    staging (workspace, before) = (.ok value, last, listed) →
      ∃ more, listed = before ++ more ∧ made value more

theorem Lists.pure {value : β} (nothing : made value []) : (pure value : Staging β).Lists made := by
  intro workspace last before listed found same
  obtain ⟨outcome, rest⟩ := Prod.mk.inj same
  obtain ⟨_, rfl⟩ := Prod.mk.inj rest
  exact ⟨[], (List.append_nil before).symm, Except.ok.inj outcome ▸ nothing⟩

theorem Lists.bind {next : β → Staging γ} {all : γ → List Path → Prop} (lists : staging.Lists made)
    (rest : ∀ found early, made found early →
      (next found).Lists fun value more => all value (early ++ more)) :
    (staging >>= next).Lists all := by
  intro workspace last before listed value same
  rcases outcome : staging (workspace, before) with ⟨failure | found, middle, copied⟩
  · rw [bind_error outcome] at same
    cases same
  · rw [bind_ok outcome] at same
    obtain ⟨early, rfl, said⟩ := lists workspace middle before copied found outcome
    obtain ⟨more, rfl, all⟩ := rest found early said middle last _ listed value same
    exact ⟨early ++ more, List.append_assoc .., all⟩

theorem Lists.imp {also : β → List Path → Prop} (lists : staging.Lists made)
    (rest : ∀ value more, made value more → also value more) : staging.Lists also := by
  intro workspace last before listed value same
  obtain ⟨more, listed, said⟩ := lists workspace last before listed value same
  exact ⟨more, listed, rest value more said⟩

theorem copy_lists {upload : Option Upload} {purpose : String} {suffix : Upload → String} :
    (copy upload purpose suffix).Lists fun path made => made = [path] := by
  intro workspace last before listed path same
  rcases Input.copy_cases ⟨upload, purpose, suffix⟩ workspace before with
    ⟨_, found, _, _, _, copied⟩ | ⟨_, _, failed⟩
  · obtain ⟨outcome, rest⟩ := Prod.mk.inj (copied.symm.trans same)
    obtain ⟨_, rfl⟩ := Prod.mk.inj rest
    exact ⟨[found], rfl, congrArg ([·]) (Except.ok.inj outcome)⟩
  · cases failed.symm.trans same

theorem copyThumbnail_lists {upload : Option Upload} :
    (copyThumbnail upload).Lists fun thumbnail made =>
      made = (thumbnail.map Thumbnail.image).toList := by
  cases upload with
  | none => exact .pure rfl
  | some upload => exact copy_lists.bind fun image early same => .pure (by simp [same])

theorem copyAssets_lists {assets : Named (Option Upload)} :
    (copyAssets assets).Lists fun paths made => made = paths.map Prod.snd := by
  induction assets with
  | nil => exact .pure rfl
  | cons asset rest ih =>
    refine copy_lists.bind fun path early same => ?_
    exact ih.bind fun paths more listed => .pure (by simp [same, listed])

end Staging

theorem StillRequest.copies_list (request : StillRequest) :
    request.copies.Lists fun (image, audio, thumbnail) made =>
      made = image :: audio :: (thumbnail.map Thumbnail.image).toList := by
  refine Staging.copy_lists.bind fun image made same => ?_
  refine Staging.copy_lists.bind fun audio more next => ?_
  refine Staging.copyThumbnail_lists.bind fun thumbnail last listed => ?_
  exact .pure (by simp [same, next, listed])

theorem CompositionRequest.copies_list (request : CompositionRequest α) :
    request.copies.Lists fun (audio, assets, thumbnail) made =>
      made = audio :: assets.map Prod.snd ++ (thumbnail.map Thumbnail.image).toList := by
  refine Staging.copy_lists.bind fun audio made same => ?_
  refine Staging.copyAssets_lists.bind fun assets more next => ?_
  refine Staging.copyThumbnail_lists.bind fun thumbnail last listed => ?_
  exact .pure (by simp [same, next, listed])

section Plain

variable {input : Input}

theorem Input.Plain.of {upload : Option Upload} {purpose : String} {suffix : Upload → String}
    (purposePlain : '/' ∉ purpose.toList) (suffixPlain : ∀ upload, '/' ∉ (suffix upload).toList) :
    (Input.mk upload purpose suffix).Plain :=
  ⟨purposePlain, suffixPlain⟩

theorem thumbnailInputs_plain {thumbnail : Option Upload} (member : input ∈ thumbnailInputs thumbnail) :
    input.Plain := by
  rw [thumbnailInputs, Option.mem_toList, Option.map_eq_some_iff] at member
  obtain ⟨_, _, rfl⟩ := member
  exact .of (by decide) fun _ => thumbnailSuffix_slashless _

theorem JobRequest.inputs_plain {submission : JobRequest α} (member : input ∈ submission.inputs) :
    input.Plain := by
  cases submission with
  | still request =>
    rcases List.mem_cons.mp member with rfl | member
    · exact .of (by decide) assetSuffix_slashless
    rcases List.mem_cons.mp member with rfl | thumbnail
    · exact .of (by decide) audioSuffix_slashless
    · exact thumbnailInputs_plain thumbnail
  | composition request =>
    rcases List.mem_append.mp member with member | thumbnail
    · rcases List.mem_cons.mp member with rfl | asset
      · exact .of (by decide) audioSuffix_slashless
      · obtain ⟨_, _, rfl⟩ := List.mem_map.mp asset
        exact .of (by decide) assetSuffix_slashless
    · exact thumbnailInputs_plain thumbnail

end Plain

end Montage
