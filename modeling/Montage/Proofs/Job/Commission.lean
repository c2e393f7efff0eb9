import Mathlib.Data.List.Forall2
import Mathlib.Data.Option.Basic
import Montage.Proofs.Job.Inputs

/-! What is commissioned with a request: the contents of its inputs as they are when it is submitted,
with what is to be made of them. A submission makes a task whose copies hold these contents. -/

namespace Montage

variable {α β γ : Type}

/-- What a job is to show: an image, or a timeline with the contents of its assets. -/
inductive Subject (α : Type) where
  | still (image : Bytes) (duration : Number)
  | composition (manifest : Manifest α) (assets : Named Bytes)

/-- What a job is to make and where it is to be published, with the contents of its inputs. -/
structure Commission (α : Type) where
  subject : Subject α
  audio : Bytes
  thumbnail : Option (Bytes × Option String)
  title : String
  description : String
  options : PublishOptions

/-- Things under the same names, each with what it holds. -/
def Named.Match (holds : β → γ → Prop) (things : Named β) (contents : Named γ) : Prop :=
  List.Forall₂ (fun thing content => thing.1 = content.1 ∧ holds thing.2 content.2) things contents

/-- An upload that is there and holds a content. -/
def Disk.Gives (disk : Disk) (upload : Option Upload) (content : Bytes) : Prop :=
  ∃ present, upload = some present ∧ present.content disk = .ok content

/-- The content of a thumbnail, with the media type that its sender declared. -/
def Disk.GivesThumbnail (disk : Disk) (upload : Option Upload)
    (shown : Option (Bytes × Option String)) : Prop :=
  Option.Rel (fun upload shown =>
    upload.content disk = .ok shown.1 ∧ shown.2 = upload.contentType) upload shown

/-- What is commissioned with a request whose checks start from a workspace, given the disk that its
inputs are read from. -/
inductive JobRequest.Commissions [Quantity α] (services : Services α) (start : Workspace) (disk : Disk) :
    JobRequest α → Commission α → Prop where
  | still {request : StillRequest} {image audio : Bytes} {duration : Number}
      {thumbnail : Option (Bytes × Option String)}
      (checked : checkDuration request.duration = .ok duration)
      (seen : disk.Gives request.image image) (heard : disk.Gives request.audio audio)
      (shown : disk.GivesThumbnail request.thumbnail thumbnail) :
      Commissions services start disk (.still request)
        ⟨.still image duration, audio, thumbnail, request.title, request.description,
          request.options⟩
  | composition {request : CompositionRequest α} {manifest : Manifest α} {audio : Bytes}
      {assets : Named Bytes} {thumbnail : Option (Bytes × Option String)}
      (checked : ((request.manifest services.prober).on start).1 = .ok manifest)
      (seen : request.assets.Match disk.Gives assets) (heard : disk.Gives request.audio audio)
      (shown : disk.GivesThumbnail request.thumbnail thumbnail) :
      Commissions services start disk (.composition request)
        ⟨.composition manifest assets, audio, thumbnail, request.title, request.description,
          request.options⟩

/-- The copies for a job hold what it is to show. -/
inductive Work.Shows (held : Holding) : Work α → Subject α → Prop where
  | still {image : Path} {content : Bytes} {duration : Number} (seen : held image content) :
      Shows held (.still image duration) (.still content duration)
  | composition {manifest : Manifest α} {assets : Named Path} {contents : Named Bytes}
      (seen : assets.Match held contents) :
      Shows held (.composition manifest assets) (.composition manifest contents)

/-- The copy of a thumbnail holds its content. -/
def Holding.Thumbnail (held : Holding) (thumbnail : Option Montage.Thumbnail)
    (shown : Option (Bytes × Option String)) : Prop :=
  Option.Rel (fun thumbnail shown =>
    held thumbnail.image shown.1 ∧ shown.2 = thumbnail.contentType) thumbnail shown

/-- A task does what was commissioned, given what its copies hold. -/
structure Task.Embodies (held : Holding) (task : Task α) (commission : Commission α) : Prop where
  work : task.work.Shows held commission.subject
  audio : held task.audio commission.audio
  thumbnail : held.Thumbnail task.thumbnail commission.thumbnail
  title : task.title = commission.title
  description : task.description = commission.description
  options : task.options = commission.options

variable {origin disk last : Disk} {held more : Holding}

namespace Named.Match

variable {holds keeps : β → γ → Prop} {things : Named β} {contents : Named γ}

theorem imp_mem (matching : things.Match holds contents)
    (same : ∀ thing ∈ things, ∀ content, holds thing.2 content → keeps thing.2 content) :
    things.Match keeps contents := by
  induction matching with
  | nil => exact .nil
  | cons first _ ih =>
    obtain ⟨here, later⟩ := List.forall_mem_cons.mp same
    exact .cons ⟨first.1, here _ first.2⟩ (ih later)

end Named.Match

theorem Work.Shows.mono {work : Work α} {subject : Subject α} (shows : work.Shows held subject)
    (kept : ∀ file ∈ work.inputs, ∀ content, held file content → more file content) :
    work.Shows more subject := by
  cases shows with
  | still seen => exact .still (kept _ (by simp [inputs]) _ seen)
  | composition seen =>
    refine .composition (seen.imp_mem fun asset member content => kept asset.2 ?_ content)
    exact List.mem_map_of_mem member

theorem Holding.Thumbnail.mono {thumbnail : Option Montage.Thumbnail}
    {content : Option (Bytes × Option String)} (shown : held.Thumbnail thumbnail content)
    (kept : ∀ image ∈ thumbnail, ∀ found, held image.image found → more image.image found) :
    more.Thumbnail thumbnail content := by
  cases shown with
  | none => exact .none
  | some shown => exact .some ⟨kept _ rfl _ shown.1, shown.2⟩

/-- What a task does depends on its own copies only. -/
theorem Task.Embodies.mono {task : Task α} {commission : Commission α}
    (embodies : task.Embodies held commission)
    (kept : ∀ file ∈ task.inputs, ∀ content, held file content → more file content) :
    task.Embodies more commission where
  work := embodies.work.mono fun file member => kept file (List.mem_append_left _ member)
  audio := kept _ (by simp [inputs]) _ embodies.audio
  thumbnail := embodies.thumbnail.mono fun image present =>
    kept image.image (by simp [inputs, Option.mem_def.mp present])
  title := embodies.title
  description := embodies.description
  options := embodies.options

/-- The disk matters by what the uploads of a request hold on it. -/
theorem JobRequest.Commissions.congr [Quantity α] {services : Services α} {start : Workspace}
    {submission : JobRequest α} {commission : Commission α}
    (commissions : submission.Commissions services start disk commission)
    (same : ∀ input ∈ submission.inputs, ∀ upload, input.upload = some upload →
      ∀ content, upload.content disk = .ok content → upload.content last = .ok content) :
    submission.Commissions services start last commission := by
  have gives {upload : Option Upload} {content : Bytes}
      (own : ∃ input ∈ submission.inputs, input.upload = upload) (given : disk.Gives upload content) :
      last.Gives upload content := by
    obtain ⟨input, member, rfl⟩ := own
    obtain ⟨present, found, held⟩ := given
    exact ⟨present, found, same input member present found content held⟩
  have shows {upload : Option Upload} {content : Option (Bytes × Option String)}
      (own : ∀ input ∈ thumbnailInputs upload, input ∈ submission.inputs)
      (shown : disk.GivesThumbnail upload content) : last.GivesThumbnail upload content := by
    cases shown with
    | none => exact .none
    | @some upload _ shown =>
      have member := own ⟨some upload, "thumbnail-", fun upload => thumbnailSuffix upload.contentType⟩
        (by simp [thumbnailInputs])
      exact .some ⟨same _ member upload rfl _ shown.1, shown.2⟩
  cases commissions with
  | still checked seen heard shown =>
    have image := gives ⟨_, List.mem_cons_self, rfl⟩ seen
    have audio := gives ⟨_, List.mem_cons_of_mem _ List.mem_cons_self, rfl⟩ heard
    exact .still checked image audio
      (shows (fun _ member => List.mem_cons_of_mem _ (List.mem_cons_of_mem _ member)) shown)
  | @composition request _ _ _ _ checked seen heard shown =>
    have audio := gives ⟨_, List.mem_append_left _ List.mem_cons_self, rfl⟩ heard
    have asset (id : String) (upload : Option Upload) (own : (id, upload) ∈ request.assets)
        (content : Bytes) (given : disk.Gives upload content) : last.Gives upload content := by
      refine gives ⟨⟨upload, "composition-asset-", assetSuffix⟩, ?_, rfl⟩ given
      exact List.mem_append_left _ (List.mem_cons_of_mem _ (List.mem_map_of_mem own))
    exact .composition checked (seen.imp_mem fun member own => asset member.1 member.2 own) audio
      (shows (fun _ => List.mem_append_right _) shown)

section Copies

/-- A copy of an upload holds what the upload does. -/
def Disk.Copied (origin : Disk) (upload : Option Upload) (held : Holding) (path : Path) : Prop :=
  ∃ content, origin.Gives upload content ∧ held path content

/-- Copies of assets hold what the assets do. -/
def Disk.CopiedAssets (origin : Disk) (assets : Named (Option Upload)) (held : Holding)
    (paths : Named Path) : Prop :=
  ∃ contents, assets.Match origin.Gives contents ∧ paths.Match held contents

/-- The copy of a thumbnail holds what the thumbnail does. -/
def Disk.CopiedThumbnail (origin : Disk) (upload : Option Upload) (held : Holding)
    (thumbnail : Option Thumbnail) : Prop :=
  ∃ shown, origin.GivesThumbnail upload shown ∧ held.Thumbnail thumbnail shown

theorem Disk.Copied.mono {upload : Option Upload} (held more : Holding) (path : Path)
    (kept : ∀ file content, held file content → more file content)
    (copied : origin.Copied upload held path) : origin.Copied upload more path := by
  obtain ⟨content, given, there⟩ := copied
  exact ⟨content, given, kept path content there⟩

theorem Disk.CopiedAssets.mono {assets : Named (Option Upload)} (held more : Holding)
    (paths : Named Path) (kept : ∀ file content, held file content → more file content)
    (copied : origin.CopiedAssets assets held paths) : origin.CopiedAssets assets more paths := by
  obtain ⟨contents, given, there⟩ := copied
  exact ⟨contents, given, there.imp_mem fun asset _ => kept asset.2⟩

theorem Disk.CopiedThumbnail.mono {upload : Option Upload} (held more : Holding)
    (thumbnail : Option Thumbnail) (kept : ∀ file content, held file content → more file content)
    (copied : origin.CopiedThumbnail upload held thumbnail) :
    origin.CopiedThumbnail upload more thumbnail := by
  obtain ⟨shown, given, there⟩ := copied
  exact ⟨shown, given, there.mono fun image _ => kept image.image⟩

end Copies

namespace Staging

variable {staging : Staging β} {made : Holding → β → Prop}

/-- If all copies are made, they hold what is said of them, and other files still hold what they did. -/
def Yields (origin : Disk) (staging : Staging β) (made : Holding → β → Prop) : Prop :=
  ∀ (held : Holding) (workspace last : Workspace) (files listed : List Path) (value : β),
    workspace.disk.Guards origin.temporaryDirectory held → origin.Extends workspace.disk →
      staging (workspace, files) = (.ok value, last, listed) →
        ∃ more : Holding, (∀ file content, held file content → more file content) ∧
          last.disk.Guards origin.temporaryDirectory more ∧ origin.Extends last.disk ∧
          made more value

theorem Yields.pure {value : β} (known : ∀ held, made held value) :
    (pure value : Staging β).Yields origin made := by
  intro held workspace last files listed found guards extended same
  obtain ⟨outcome, rest⟩ := Prod.mk.inj same
  obtain ⟨rfl, rfl⟩ := Prod.mk.inj rest
  obtain rfl := Except.ok.inj outcome
  exact ⟨held, fun _ _ => id, guards, extended, known held⟩

/-- What is said of the first copies has to stay true when there are more. -/
theorem Yields.bind {next : β → Staging γ} {all : Holding → γ → Prop}
    (first : staging.Yields origin made)
    (mono : ∀ (held more : Holding) value, (∀ file content, held file content → more file content) →
      made held value → made more value)
    (rest : ∀ found, (next found).Yields origin fun more value => made more found → all more value) :
    (staging >>= next).Yields origin all := by
  intro held workspace last files listed value guards extended same
  rcases outcome : staging (workspace, files) with ⟨failure | found, middle, copied⟩
  · rw [bind_error outcome] at same
    cases same
  · rw [bind_ok outcome] at same
    obtain ⟨between, grown, guards, extended, early⟩ :=
      first held workspace middle files copied found guards extended outcome
    obtain ⟨more, kept, guards, extended, late⟩ :=
      rest found between middle last copied listed value guards extended same
    exact ⟨more, fun file content inside => kept file content (grown file content inside), guards,
      extended, late (mono between more found kept early)⟩

theorem Yields.imp {also : Holding → β → Prop} (yields : staging.Yields origin made)
    (rest : ∀ held value, made held value → also held value) : staging.Yields origin also := by
  intro held workspace last files listed value guards extended same
  obtain ⟨more, kept, guards, extended, said⟩ :=
    yields held workspace last files listed value guards extended same
  exact ⟨more, kept, guards, extended, rest more value said⟩

theorem copy_yields {upload : Option Upload} {purpose : String} {suffix : Upload → String}
    (plain : Input.Plain ⟨upload, purpose, suffix⟩)
    (apart : ∀ present, upload = some present → present.Apart origin) :
    (copy upload purpose suffix).Yields origin (origin.Copied upload) := by
  intro held workspace last files listed path guards extended same
  cases upload with
  | none => cases same
  | some upload =>
    have guarded := stage_guards upload plain.purpose (plain.suffix upload) workspace guards
    rcases staged : (stage upload purpose (suffix upload)).on workspace with ⟨failure | file, next⟩
    · have failed := @Input.copy_error ⟨some upload, purpose, suffix⟩ _ _ files _ _ rfl staged
      cases failed.symm.trans same
    · have copied := @Input.copy_ok ⟨some upload, purpose, suffix⟩ _ _ files _ _ rfl staged
      obtain ⟨outcome, rest⟩ := Prod.mk.inj (copied.symm.trans same)
      obtain ⟨rfl, _⟩ := Prod.mk.inj rest
      obtain rfl := Except.ok.inj outcome
      obtain ⟨extended, content, read, bears⟩ := stage_extends plain.purpose (plain.suffix upload)
        guards.plain extended (apart upload rfl) staged
      rw [staged] at guarded
      obtain ⟨_, grown⟩ | _ := guarded
      obtain ⟨kept, _⟩ := Disk.Guards.add_iff.mp grown
      exact ⟨held.add file content, fun _ _ => .inl, Disk.Guards.add_iff.mpr ⟨kept, bears⟩, extended,
        content, ⟨upload, rfl, read⟩, .inr ⟨rfl, rfl⟩⟩

theorem copyThumbnail_yields {upload : Option Upload}
    (apart : ∀ input ∈ thumbnailInputs upload, ∀ present, input.upload = some present →
      present.Apart origin) :
    (copyThumbnail upload).Yields origin (origin.CopiedThumbnail upload) := by
  cases upload with
  | none => exact .pure fun _ => ⟨none, .none, .none⟩
  | some upload =>
    have own : (⟨some upload, "thumbnail-", fun upload => thumbnailSuffix upload.contentType⟩ : Input) ∈
        thumbnailInputs (some upload) := List.mem_cons_self
    refine (copy_yields (thumbnailInputs_plain own) (apart _ own)).bind Disk.Copied.mono fun image =>
      .pure fun held copied => ?_
    obtain ⟨content, ⟨present, same, read⟩, there⟩ := copied
    obtain rfl := Option.some.inj same
    exact ⟨some (content, upload.contentType), .some ⟨read, rfl⟩, .some ⟨there, rfl⟩⟩

theorem copyAssets_yields {assets : Named (Option Upload)}
    (apart : ∀ asset ∈ assets, ∀ present, asset.2 = some present → present.Apart origin) :
    (copyAssets assets).Yields origin (origin.CopiedAssets assets) := by
  induction assets with
  | nil => exact .pure fun _ => ⟨[], .nil, .nil⟩
  | cons asset rest ih =>
    obtain ⟨here, later⟩ := List.forall_mem_cons.mp apart
    have plain : Input.Plain ⟨asset.2, "composition-asset-", assetSuffix⟩ :=
      .of (by decide) assetSuffix_slashless
    refine (copy_yields plain here).bind Disk.Copied.mono fun path => ?_
    refine (ih later).bind Disk.CopiedAssets.mono fun paths => .pure fun held others own => ?_
    obtain ⟨content, given, there⟩ := own
    obtain ⟨contents, allGiven, allThere⟩ := others
    exact ⟨(asset.1, content) :: contents, .cons ⟨rfl, given⟩ allGiven, .cons ⟨rfl, there⟩ allThere⟩

end Staging

/-- The uploads of a request do not lead to copies that are still to be made. -/
def JobRequest.Apart (origin : Disk) (submission : JobRequest α) : Prop :=
  ∀ input ∈ submission.inputs, ∀ upload, input.upload = some upload → upload.Apart origin

theorem StillRequest.copies_yield {request : StillRequest}
    (apart : (JobRequest.still request : JobRequest α).Apart origin) :
    request.copies.Yields origin fun held (image, audio, thumbnail) =>
      origin.Copied request.image held image ∧ origin.Copied request.audio held audio ∧
        origin.CopiedThumbnail request.thumbnail held thumbnail := by
  obtain ⟨image, rest⟩ := List.forall_mem_cons.mp apart
  obtain ⟨audio, thumbnail⟩ := List.forall_mem_cons.mp rest
  have imagePlain : Input.Plain ⟨request.image, "image-", assetSuffix⟩ :=
    .of (by decide) assetSuffix_slashless
  have audioPlain : Input.Plain ⟨request.audio, "audio-", audioSuffix⟩ :=
    .of (by decide) audioSuffix_slashless
  refine (Staging.copy_yields imagePlain image).bind Disk.Copied.mono fun image => ?_
  refine (Staging.copy_yields audioPlain audio).bind Disk.Copied.mono fun audio => ?_
  refine (Staging.copyThumbnail_yields thumbnail).bind Disk.CopiedThumbnail.mono fun thumbnail => ?_
  exact .pure fun held shown heard seen => ⟨seen, heard, shown⟩

theorem CompositionRequest.copies_yield {request : CompositionRequest α}
    (apart : (JobRequest.composition request).Apart origin) :
    request.copies.Yields origin fun held (audio, assets, thumbnail) =>
      origin.Copied request.audio held audio ∧ origin.CopiedAssets request.assets held assets ∧
        origin.CopiedThumbnail request.thumbnail held thumbnail := by
  obtain ⟨files, thumbnail⟩ := List.forall_mem_append.mp apart
  obtain ⟨audio, assets⟩ := List.forall_mem_cons.mp files
  have audioPlain : Input.Plain ⟨request.audio, "composition-audio-", audioSuffix⟩ :=
    .of (by decide) audioSuffix_slashless
  refine (Staging.copy_yields audioPlain audio).bind Disk.Copied.mono fun audio => ?_
  have assetsApart := List.forall_mem_map.mp assets
  refine (Staging.copyAssets_yields assetsApart).bind Disk.CopiedAssets.mono fun assets => ?_
  refine (Staging.copyThumbnail_yields thumbnail).bind Disk.CopiedThumbnail.mono fun thumbnail => ?_
  exact .pure fun held shown seen heard => ⟨heard, seen, shown⟩

section Tasks

variable [Quantity α] {services : Services α} {start : Workspace} {audio : Path}
  {thumbnail : Option Thumbnail}

theorem StillRequest.task_embodies {request : StillRequest} {duration : Number} {image : Path}
    (checked : checkDuration request.duration = .ok duration)
    (seen : origin.Copied request.image held image) (heard : origin.Copied request.audio held audio)
    (shown : origin.CopiedThumbnail request.thumbnail held thumbnail) :
    ∃ commission, (JobRequest.still request : JobRequest α).Commissions services start origin commission ∧
      ∀ job, (Operation.stillTask request duration job (image, audio, thumbnail)).Embodies held
        commission := by
  obtain ⟨picture, givenImage, image⟩ := seen
  obtain ⟨sound, givenAudio, audio⟩ := heard
  obtain ⟨shown, givenThumbnail, thumbnail⟩ := shown
  exact ⟨_, .still checked givenImage givenAudio givenThumbnail, fun job =>
    ⟨.still image, audio, thumbnail, rfl, rfl, rfl⟩⟩

theorem CompositionRequest.task_embodies {request : CompositionRequest α} {manifest : Manifest α}
    {assets : Named Path} (checked : ((request.manifest services.prober).on start).1 = .ok manifest)
    (heard : origin.Copied request.audio held audio)
    (seen : origin.CopiedAssets request.assets held assets)
    (shown : origin.CopiedThumbnail request.thumbnail held thumbnail) :
    ∃ commission, (JobRequest.composition request).Commissions services start origin commission ∧
      ∀ job, (Operation.compositionTask request manifest job (audio, assets, thumbnail)).Embodies held
        commission := by
  obtain ⟨contents, givenAssets, assets⟩ := seen
  obtain ⟨sound, givenAudio, audio⟩ := heard
  obtain ⟨shown, givenThumbnail, thumbnail⟩ := shown
  exact ⟨_, .composition checked givenAssets givenAudio givenThumbnail, fun job =>
    ⟨.composition assets, audio, thumbnail, rfl, rfl, rfl⟩⟩

/-- What is done for a request once its checks have passed: its copies are those of its inputs, the task
owns them, and it does what was commissioned if the copies hold what the uploads do. -/
structure JobRequest.Enters (services : Services α) (submission : JobRequest α) (start : Workspace)
    (origin : Disk) (staging : Staging β) (task : JobId → β → Task α) : Prop where
  named : ∀ job copies, (task job copies).job = job
  follows : staging.Follows submission.inputs
  lists : staging.Lists fun copies made => ∀ job, made.Perm (task job copies).inputs
  yields : submission.Apart origin → staging.Yields origin fun held copies =>
    ∃ commission, submission.Commissions services start origin commission ∧
      ∀ job, (task job copies).Embodies held commission

theorem JobRequest.Passes.enters {submission : JobRequest α} {workspace : Workspace}
    {options : PublishOptions} {staging : Staging β} {task : JobId → β → Task α}
    (passes : submission.Passes services start workspace options staging task) :
    submission.Enters services start workspace.disk staging task := by
  refine ⟨passes.named, ?_, ?_, fun apart => ?_⟩
  · cases passes with
    | @still request => exact request.copies_follow
    | @composition request => exact request.copies_follow
  · cases passes with
    | @still request => exact request.copies_list.imp fun _ _ same _ => same ▸ .refl _
    | @composition request =>
      exact request.copies_list.imp fun _ _ same _ => same ▸ List.perm_middle.symm
  · cases passes with
    | still checked =>
      refine (StillRequest.copies_yield apart).imp ?_
      rintro held ⟨image, audio, thumbnail⟩ ⟨seen, heard, shown⟩
      exact StillRequest.task_embodies checked seen heard shown
    | composition checked =>
      refine (CompositionRequest.copies_yield apart).imp ?_
      rintro held ⟨audio, assets, thumbnail⟩ ⟨heard, seen, shown⟩
      exact CompositionRequest.task_embodies (congrArg Prod.fst checked) heard seen shown

end Tasks

end Montage
