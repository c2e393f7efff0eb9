import Montage.Job.Submission
import Montage.Manifest.Composition
import Montage.Proofs.Manifest.Validation
import Montage.Proofs.Named
import Montage.Proofs.Renderer

/-! What validation accepts can be planned, and its plan be rendered: every scene has its seconds,
and the path of its asset is there wherever the asset was. -/

namespace Montage

section Names

variable {β γ : Type}

/-- The same names stand for something. -/
def Named.SameNames (left : Named β) (right : Named γ) : Prop :=
  ∀ name, (left.get? name).isSome = (right.get? name).isSome

theorem Named.isSome_get? {named : Named β} {name : String} :
    (named.get? name).isSome = true ↔ name ∈ named.map Prod.fst := by
  induction named with
  | nil => simp
  | cons entry rest ih =>
    obtain ⟨present, value⟩ := entry
    rw [Named.get?_cons, List.map_cons, List.mem_cons, ← ih]
    by_cases same : name = present
    · simp [same]
    · simp [same]

theorem Named.sameNames_of_map {left : Named β} {right : Named γ}
    (names : left.map Prod.fst = right.map Prod.fst) : left.SameNames right := by
  intro name
  rw [Bool.eq_iff_iff, Named.isSome_get?, Named.isSome_get?, names]

/-- The copies of a submission's assets have the names of the uploads that its manifest is checked
against: an asset without an upload is not copied. -/
theorem Staging.copyAssets_sameNames {assets : Named (Option Upload)}
    {start last : Workspace × List Path} {paths : Named Path}
    (copied : copyAssets assets start = (.ok paths, last)) :
    paths.SameNames (assets.filterMap fun (id, upload) => upload.map (id, ·)) := by
  apply Named.sameNames_of_map
  induction assets generalizing start paths with
  | nil =>
    obtain ⟨same, rfl⟩ := Prod.mk.inj copied
    obtain rfl := Except.ok.inj same
    rfl
  | cons asset rest ih =>
    obtain ⟨id, upload⟩ := asset
    rw [copyAssets] at copied
    rcases first : copy upload "composition-asset-" assetSuffix start with ⟨failure | path, middle⟩
    · rw [bind_error first] at copied
      cases copied
    · rw [bind_ok first] at copied
      rcases later : copyAssets rest middle with ⟨failure | others, ended⟩
      · rw [bind_error later] at copied
        cases copied
      · rw [bind_ok later] at copied
        obtain ⟨same, rfl⟩ := Prod.mk.inj copied
        obtain rfl := Except.ok.inj same
        cases upload with
        | none => cases first
        | some upload => rw [List.map_cons, ih later]; rfl

/-- The files that assets were loaded from have the names of the assets. -/
theorem loadComposition_sameNames {path : String} {arguments : List String} {disk : Disk}
    {raw : Value} {assets : Named Upload}
    (loaded : loadComposition path arguments disk = .ok (raw, assets)) :
    Named.SameNames (assets.filterMap fun (id, upload) => upload.path?.map (id, ·)) assets := by
  unfold loadComposition at loaded
  simp only [Except.bind_eq_ok] at loaded
  obtain ⟨file, _, named, _, missing, _, rest⟩ := loaded
  cases missing with
  | cons _ _ => cases rest
  | nil =>
    obtain ⟨built, build, same⟩ := Except.bind_eq_ok.mp rest
    obtain ⟨_, _, made⟩ := Except.bind_eq_ok.mp build
    obtain rfl := Except.pure_eq_ok.mp made
    obtain ⟨rfl, rfl⟩ := Prod.mk.inj (Except.pure_eq_ok.mp same)
    apply Named.sameNames_of_map
    rw [uploadsOf, List.filterMap_map, List.map_map]
    induction file.paths.over named with
    | nil => rfl
    | cons entry others ih =>
      rw [List.filterMap_cons, List.map_cons]
      exact congrArg (entry.1 :: ·) ih

end Names

/-- A number that is a double. -/
def Number.IsDouble (number : Number) : Prop := ∃ value, number = .double value

theorem Number.sub_isDouble {number difference : Number} {value : Binary64}
    (subtracted : number.sub (.double value) = .ok difference) : difference.IsDouble := by
  cases number with
  | int whole =>
    obtain ⟨_, _, same⟩ := Except.bind_eq_ok.mp subtracted
    exact ⟨_, (Except.ok.inj same).symm⟩
  | double other => exact ⟨other - value, (Except.ok.inj subtracted).symm⟩

/-- A scene has an asset, and doubles wherever it has numbers. -/
structure Scene.Ready (assets : Named Upload) (scene : Scene Number) : Prop where
  asset : (assets.get? scene.asset).isSome = true
  shown : ∃ seconds, scene.shown? = some seconds ∧ seconds.IsDouble
  clipStart : scene.clipStart.IsDouble
  crossfade : ∀ length, scene.crossfade? = some length →
    ∃ overlap, length = some overlap ∧ overlap.IsDouble
  caption : ∀ caption ∈ scene.caption, caption.start.IsDouble ∧ caption.stop.IsDouble
  grade : ∀ edit ∈ scene.visualEdit, ∀ grade ∈ edit.grade,
    grade.brightness.IsDouble ∧ grade.contrast.IsDouble ∧ grade.saturation.IsDouble
  overlay : ∀ edit ∈ scene.visualEdit, ∀ overlay ∈ edit.overlay, overlay.opacity.IsDouble

section Reading

variable {prober : Prober Number} {assets : Named Upload} {index : Nat} {start last : Workspace}

theorem readShown_isDouble {entries : List (Value × Value)} {field : Field} {upload : Upload}
    {asset : String} {begin : Binary64} {kind : SceneKind} {shown : Number}
    (read : (readShown prober entries field upload asset index (Number.double begin) kind).on
      start = (.ok shown, last)) : shown.IsDouble := by
  cases kind with
  | image =>
    obtain ⟨seconds, _, rfl⟩ := Except.map_eq_ok.mp (Prod.mk.inj read).1
    exact ⟨seconds, rfl⟩
  | video =>
    obtain ⟨_, _, ⟨_, _, given, _, _, rfl⟩ | ⟨_, source, _, difference, _⟩⟩ :=
      readClipLength_eq_ok.mp read
    · exact ⟨given, rfl⟩
    · exact Number.sub_isDouble difference

theorem readCaption_isDouble {value : Value} {field : Field} {shown : Number}
    {caption : Option (Caption Number)} (double : shown.IsDouble)
    (read : readCaption value field shown = .ok caption) :
    ∀ present ∈ caption, present.start.IsDouble ∧ present.stop.IsDouble := by
  obtain ⟨_, rfl⟩ | ⟨entries, text, begin, stop, position, _, parts, rfl⟩ :=
    readCaption_eq_ok.mp read
  · simp
  · rintro _ ⟨⟩
    refine ⟨⟨begin, rfl⟩, ?_⟩
    obtain ⟨_, rfl⟩ | ⟨_, given, _, rfl⟩ := readStop_eq_ok.mp parts.ends
    · exact double
    · exact ⟨given, rfl⟩

theorem readTransition_isDouble {value : Value} {field : Field} {previous shown : Number}
    {transition : Transition Number}
    (read : readTransition value field index previous shown = .ok transition) :
    (index = 0 → transition = .cut) ∧ ∀ length, transition = ⟨.crossfade, length⟩ →
      ∃ overlap, length = some overlap ∧ overlap.IsDouble := by
  obtain ⟨_, _, _, _, ⟨_, rfl⟩ | ⟨length, _, later, readLength, rfl⟩⟩ :=
    readTransition_eq_ok.mp read
  · exact ⟨fun _ => rfl, nofun⟩
  · obtain ⟨number, _, _, _, _, rfl⟩ := readCrossfade_eq_ok.mp readLength
    refine ⟨fun first => absurd first later, ?_⟩
    rintro _ ⟨⟩
    exact ⟨_, rfl, number, rfl⟩

theorem readVisualEdit_isDouble {value : Value} {field : Field} {edit : VisualEdit Number}
    (read : readVisualEdit value field = .ok edit) :
    (∀ grade ∈ edit.grade,
        grade.brightness.IsDouble ∧ grade.contrast.IsDouble ∧ grade.saturation.IsDouble) ∧
      ∀ overlay ∈ edit.overlay, overlay.opacity.IsDouble := by
  obtain ⟨_, filter, grade, overlay, _, _, readGrade, readOverlay, rfl⟩ :=
    readVisualEdit_eq_ok.mp read
  constructor
  · rintro _ ⟨⟩
    obtain ⟨_, brightness, contrast, saturation, _, _, _, _, rfl⟩ := readGrade_eq_ok.mp readGrade
    exact ⟨⟨brightness, rfl⟩, ⟨contrast, rfl⟩, ⟨saturation, rfl⟩⟩
  · obtain ⟨_, rfl⟩ | ⟨_, color, opacity, _, _, _, rfl⟩ := readOverlay_eq_ok.mp readOverlay
    · simp
    · intro present member
      dsimp only at member
      split at member
      · cases member
      · obtain rfl := Option.some.inj member
        exact ⟨opacity, rfl⟩

theorem readScene_ready {previous shown : Number} {value : Value} {scene : Scene Number}
    (read : (readScene prober assets index previous value).on start = (.ok (scene, shown), last)) :
    scene.Ready assets ∧ (index = 0 → scene.crossfade? = none) := by
  obtain ⟨entries, parts, rfl, found, rfl⟩ := readScene_eq_ok.mp read
  have double := readShown_isDouble found.lasts
  obtain ⟨first, crossfade⟩ := readTransition_isDouble found.transition
  obtain ⟨grade, overlay⟩ := readVisualEdit_isDouble found.visualEdit
  constructor
  · exact {
      asset := by simp [SceneParts.scene, found.upload.1]
      shown := ⟨shown, parts.shown?_scene shown, double⟩
      clipStart := by
        simp only [SceneParts.scene]
        split
        · exact ⟨.zero, rfl⟩
        · exact ⟨parts.begin, rfl⟩
      crossfade := fun length same => crossfade length (parts.crossfade?_scene.mp same)
      caption := readCaption_isDouble double found.caption
      grade := by
        rintro _ ⟨⟩
        exact grade
      overlay := by
        rintro _ ⟨⟩
        exact overlay }
  · exact fun zero => parts.crossfade?_scene_of_cut (first zero)

/-- Induction on the raw scenes: every scene that is read is ready, and only one after the first
begins with a crossfade. -/
theorem readScenes_ready {values : List Value} {previous total final : Number}
    {scenes : List (Scene Number)}
    (read : (readScenes prober assets index previous total values).on start =
      (.ok (scenes, final), last)) :
    scenes.length = values.length ∧ (∀ scene ∈ scenes, scene.Ready assets) ∧
      (index = 0 → ∀ scene ∈ scenes.head?, scene.crossfade? = none) := by
  induction values generalizing index previous total start scenes with
  | nil =>
    obtain ⟨rfl, rfl, rfl⟩ := readScenes_nil_eq_ok.mp read
    exact ⟨rfl, List.forall_mem_nil _, by simp⟩
  | cons value rest ih =>
    obtain ⟨scene, shown, grown, later, middle, readHere, _, readLater, rfl⟩ :=
      readScenes_cons_eq_ok.mp read
    obtain ⟨ready, first⟩ := readScene_ready readHere
    obtain ⟨length, all, _⟩ := ih readLater
    refine ⟨congrArg (· + 1) length, List.forall_mem_cons.mpr ⟨ready, all⟩, fun zero => ?_⟩
    rintro _ ⟨⟩
    exact first zero

end Reading

/-- A scene is rendered as a manifest has it. -/
structure ScenePlan.Shows {α : Type} (planned : ScenePlan α) (scene : Scene α) : Prop where
  asset : planned.asset = scene.asset
  kind : planned.kind = scene.kind
  duration : scene.shown? = some planned.duration
  motion : planned.motion = scene.motion
  caption : planned.caption = scene.caption
  visualEdit : planned.visualEdit = scene.visualEdit
  crossfade : planned.transition = .crossfade ↔ scene.crossfade?.isSome = true

section Planning

variable {assets : Named Upload} {paths : Named Path} {scene : Scene Number}
  {scenes : List (Scene Number)} {total : Number}

/-- A scene that is ready is planned. Its numbers are doubles, whose sums are never out of range. -/
theorem Scene.Ready.plan_ok (ready : scene.Ready assets) (same : paths.SameNames assets)
    (double : total.IsDouble) (index : Nat) :
    ∃ planned grown, scene.plan paths index total = .ok (planned, grown) ∧ grown.IsDouble ∧
      planned.Shows scene ∧ planned.Among Number.IsDouble := by
  obtain ⟨seconds, shown, shownDouble⟩ := ready.shown
  obtain ⟨kind, length, transition, lengthDouble, crossfade⟩ : ∃ kind length,
      scene.plannedTransition = (kind, some length) ∧ Number.IsDouble length ∧
        (kind = .crossfade ↔ scene.crossfade?.isSome = true) := by
    unfold Scene.plannedTransition
    cases joins : scene.crossfade? with
    | none => exact ⟨.cut, _, rfl, ⟨.zero, rfl⟩, by simp⟩
    | some length =>
      obtain ⟨overlap, rfl, overlapDouble⟩ := ready.crossfade length joins
      exact ⟨.crossfade, overlap, rfl, overlapDouble, by simp⟩
  obtain ⟨net, difference, netDouble⟩ := doubles_writable.sub shownDouble lengthDouble
  obtain ⟨grown, sum, grownDouble⟩ := doubles_writable.add double netDouble
  have present : (paths.get? scene.asset).isNone = false := by
    rw [← Option.not_isSome, same, ready.asset]
    rfl
  have counted : (Quantity.sub seconds length >>= Quantity.add total) = .ok grown :=
    Except.bind_eq_ok.mpr ⟨net, difference, sum⟩
  unfold Scene.plan
  simp only [present, transition, shown, counted]
  refine ⟨_, grown, rfl, grownDouble, ?_, ?_⟩
  · exact ⟨rfl, rfl, shown, rfl, rfl, rfl, crossfade⟩
  · exact {
      duration := shownDouble
      clipStart := by
        dsimp only
        split
        · exact ⟨.zero, rfl⟩
        · exact ready.clipStart
      transitionLength := lengthDouble
      caption := ready.caption
      grade := ready.grade
      overlay := ready.overlay }

/-- Induction on the scenes: the length of the timeline so far stays a double. -/
theorem planScenes_ok (same : paths.SameNames assets) (ready : ∀ scene ∈ scenes, scene.Ready assets)
    (double : total.IsDouble) (index : Nat) :
    ∃ planned final, planScenes paths index total scenes = .ok (planned, final) ∧
      List.Forall₂ ScenePlan.Shows planned scenes ∧
      ∀ scene ∈ planned, scene.Among Number.IsDouble := by
  induction scenes generalizing total index with
  | nil => exact ⟨[], total, rfl, .nil, List.forall_mem_nil _⟩
  | cons scene rest ih =>
    obtain ⟨here, later⟩ := List.forall_mem_cons.mp ready
    obtain ⟨planned, grown, plannedHere, grownDouble, shows, among⟩ :=
      here.plan_ok same double index
    obtain ⟨others, final, plannedLater, showsLater, amongLater⟩ := ih later grownDouble (index + 1)
    refine ⟨planned :: others, final, ?_, .cons shows showsLater,
      List.forall_mem_cons.mpr ⟨among, amongLater⟩⟩
    refine Except.bind_eq_ok.mpr ⟨(planned, grown), plannedHere, ?_⟩
    exact Except.bind_eq_ok.mpr ⟨(others, final), plannedLater, rfl⟩

/-- What is planned is planned for a scene of the timeline. -/
theorem exists_shown {planned : List (ScenePlan Number)}
    (shows : List.Forall₂ ScenePlan.Shows planned scenes) :
    ∀ scene ∈ planned, ∃ source ∈ scenes, scene.Shows source := by
  induction shows with
  | nil => exact List.forall_mem_nil _
  | cons here _ ih =>
    refine List.forall_mem_cons.mpr ⟨⟨_, List.mem_cons_self, here⟩, fun scene member => ?_⟩
    obtain ⟨source, found, shown⟩ := ih scene member
    exact ⟨source, List.mem_cons_of_mem _ found, shown⟩

theorem any_crossfade_iff {planned : List (ScenePlan Number)}
    (shows : List.Forall₂ ScenePlan.Shows planned scenes) :
    planned.any (·.transition == .crossfade) = true ↔
      ∃ scene ∈ scenes, scene.crossfade?.isSome = true := by
  induction shows with
  | nil => simp
  | cons here _ ih =>
    rw [List.any_cons, Bool.or_eq_true, ih, List.exists_mem_cons_iff, beq_iff_eq, here.crossfade]

/-- A crossfade after the first scene is one at all, if the first scene begins with a cut. -/
theorem hasCrossfade_iff {plan : RenderPlan Number}
    (shows : List.Forall₂ ScenePlan.Shows plan.scenes scenes)
    (first : ∀ scene ∈ scenes.head?, scene.crossfade? = none) :
    plan.hasCrossfade = true ↔ ∃ scene ∈ scenes, scene.crossfade?.isSome = true := by
  unfold RenderPlan.hasCrossfade
  generalize plan.scenes = planned at shows
  cases shows with
  | nil => simp
  | @cons planned scene _ _ here later =>
    have cut : scene.crossfade? = none := first scene rfl
    rw [List.drop_succ_cons, List.drop_zero, any_crossfade_iff later, List.exists_mem_cons_iff, cut]
    simp

end Planning

/-- The plan is to blame: it has no scenes, or no path for an asset. -/
def Failure.BlamesPlan : Failure → Prop
  | .argument .emptyPlan | .argument (.missingAssetPath _) => True
  | _ => False

section Rendering

variable {β γ : Type}

/-- An operation never fails with the blame on the plan. -/
def Action.Blameless (action : Action β) : Prop :=
  ∀ start failure, (action.on start).1 = .error failure → ¬failure.BlamesPlan

theorem Action.Blameless.bind {action : Action β} {next : β → Action γ}
    (first : action.Blameless) (rest : ∀ found, (next found).Blameless) :
    (action >>= next).Blameless := by
  intro start failure failed
  rw [Action.on_bind] at failed
  rcases reached : action.on start with ⟨lost | found, middle⟩
  · rw [reached] at failed
    obtain rfl := Except.error.inj failed
    exact first start lost (by rw [reached])
  · rw [reached] at failed
    exact rest found middle failure failed

theorem Action.blameless_pure (value : β) : (pure value : Action β).Blameless := nofun

theorem Action.blameless_compute (result : Except Fault β) : (Action.compute result).Blameless := by
  intro start failure failed
  cases result with
  | ok value => cases failed
  | error fault =>
    obtain rfl := Except.error.inj failed
    exact id

theorem Action.blameless_change {write : Disk → Except SystemError Disk} :
    (Action.change write).Blameless := by
  intro start failure failed
  rw [Action.on, Action.change] at failed
  cases outcome : write start.disk with
  | ok disk =>
    rw [outcome] at failed
    cases failed
  | error error =>
    rw [outcome] at failed
    obtain rfl := Except.error.inj failed
    exact id

theorem makeFresh_blameless {purpose suffix : String} {entry : Entry} :
    (makeFresh purpose suffix entry).Blameless := by
  have fresh : (freshPath purpose suffix).Blameless := nofun
  refine fresh.bind fun text => ?_
  have checked : (checkPath text).Blameless := by
    unfold checkPath
    split
    · intro start failure failed
      obtain rfl := Except.error.inj failed
      exact id
    · exact Action.blameless_pure ()
  refine checked.bind fun _ => ?_
  exact Action.blameless_change.bind fun _ => Action.blameless_pure _

namespace Renderer

variable {α : Type} [Quantity α] {renderer : Renderer} {plan : RenderPlan α}

theorem runStage_blameless {stage : String} {arguments : List String} :
    (renderer.runStage stage arguments).Blameless := by
  intro start failure failed
  rw [on_runStage] at failed
  dsimp only at failed
  split at failed
  · cases failed
  · obtain rfl := Except.error.inj failed
    exact id

/-- Induction on the scenes: each asset has a path. -/
theorem renderScenes_blameless {directory : Path} {scenes : List (ScenePlan α)}
    (covered : ∀ scene ∈ scenes, (plan.assetPaths.get? scene.asset).isSome = true) (index : Nat) :
    (renderer.renderScenes plan directory index scenes).Blameless := by
  induction scenes generalizing index with
  | nil => exact Action.blameless_pure []
  | cons scene rest ih =>
    obtain ⟨here, later⟩ := List.forall_mem_cons.mp covered
    obtain ⟨asset, present⟩ := Option.isSome_iff_exists.mp here
    rw [renderScenes, present]
    refine (Action.blameless_compute _).bind fun arguments => ?_
    refine runStage_blameless.bind fun _ => ?_
    exact (ih later (index + 1)).bind fun _ => Action.blameless_pure _

theorem joinClips_blameless {clips : List Path} {visual : Path} :
    (renderer.joinClips plan clips visual).Blameless := by
  unfold joinClips
  split
  · exact Action.blameless_change
  · exact (Action.blameless_compute _).bind fun _ => runStage_blameless

/-- A plan with scenes, all of whose assets have paths, is never to blame, whatever the tool
does. -/
theorem render_blameless (several : plan.scenes ≠ [])
    (covered : ∀ scene ∈ plan.scenes, (plan.assetPaths.get? scene.asset).isSome = true)
    (output : Path) : (renderer.render plan output).Blameless := by
  have full : plan.scenes.isEmpty = false := by simpa using several
  unfold render
  rw [full, if_neg Bool.false_ne_true]
  refine makeFresh_blameless.bind fun directory => ?_
  intro start failure failed
  refine ((renderScenes_blameless covered 0).bind fun clips => ?_) start failure failed
  exact joinClips_blameless.bind fun _ => runStage_blameless

end Renderer

end Rendering

/-- A manifest is carried over to a plan that can be rendered. -/
structure Manifest.Carried (manifest : Manifest Number) (paths : Named Path) (audio : Path)
    (plan : RenderPlan Number) : Prop where
  planned : manifest.plan paths audio = .ok plan
  preset : plan.preset = manifest.preset
  scenes : List.Forall₂ ScenePlan.Shows plan.scenes manifest.scenes
  crossfade : plan.hasCrossfade = true ↔
    ∃ scene ∈ manifest.scenes, ∃ length, scene.transition = some ⟨.crossfade, length⟩
  writable : plan.Writable
  rendered : ∀ (renderer : Renderer) output, (renderer.render plan output).Blameless

section Accepted

variable {prober : Prober Number} {assets : Named Upload} {value : Value} {start last : Workspace}
  {manifest : Manifest Number}

theorem carried_of_ready {paths : Named Path} (several : manifest.scenes ≠ [])
    (ready : ∀ scene ∈ manifest.scenes, scene.Ready assets)
    (first : ∀ scene ∈ manifest.scenes.head?, scene.crossfade? = none)
    (same : paths.SameNames assets) (audio : Path) :
    ∃ plan, manifest.Carried paths audio plan := by
  obtain ⟨planned, total, made, shows, among⟩ := planScenes_ok same ready ⟨.zero, rfl⟩ 0
  let plan : RenderPlan Number := ⟨manifest.preset, planned, audio, paths, total⟩
  have full : manifest.scenes.isEmpty = false := by simpa using several
  refine ⟨plan, ?_⟩
  exact {
    planned := by
      rw [Manifest.plan, full, if_neg Bool.false_ne_true]
      exact Except.bind_eq_ok.mpr ⟨(planned, total), made, rfl⟩
    preset := rfl
    scenes := shows
    crossfade := by
      rw [@hasCrossfade_iff _ plan shows first]
      simp only [Option.isSome_iff_exists, Scene.crossfade?_eq_some]
    writable := RenderPlan.writable_of_doubles among
    rendered := fun renderer output => by
      refine Renderer.render_blameless (fun none => several ?_) (fun scene member => ?_) output
      · have nothing : planned = [] := none
        rw [nothing, List.forall₂_nil_left_iff] at shows
        exact shows
      · obtain ⟨source, found, shown⟩ := exists_shown shows scene member
        rw [shown.asset, same]
        exact (ready source found).asset }

/-- An accepted manifest is carried over to a plan by all paths with the names of its assets, among
them the copies that a job makes and the files that a manifest file names. -/
theorem validate_carried (accepted : (validate prober assets value).on start = (.ok manifest, last))
    (audio : Path) :
    (∀ paths : Named Path, paths.SameNames assets → ∃ plan, manifest.Carried paths audio plan) ∧
      (∀ requested begun ended paths,
        assets = requested.filterMap (fun (id, upload) => upload.map (id, ·)) →
        Staging.copyAssets requested begun = (.ok paths, ended) →
          ∃ plan, manifest.Carried paths audio plan) ∧
      ∀ path arguments disk raw, loadComposition path arguments disk = .ok (raw, assets) →
        ∃ plan, manifest.Carried
          (assets.filterMap fun (id, upload) => upload.path?.map (id, ·)) audio plan := by
  obtain ⟨entries, values, rfl, _, listed, read, _⟩ := validate_eq_ok.mp accepted
  obtain ⟨length, ready, first⟩ := readScenes_ready read
  have several : manifest.scenes ≠ [] :=
    List.length_pos_iff.mp (length ▸ (listScenes_ok listed).2.1)
  have carried (paths : Named Path) (same : paths.SameNames assets) :=
    carried_of_ready several ready (first rfl) same audio
  refine ⟨carried, ?_, ?_⟩
  · rintro requested begun ended paths rfl copied
    exact carried paths (Staging.copyAssets_sameNames copied)
  · intro path arguments disk raw loaded
    exact carried _ (loadComposition_sameNames loaded)

end Accepted

theorem Action.on_of_isOk {β : Type} {action : Action β} {start : Workspace}
    (fine : (action.on start).1.isOk = true) :
    ∃ value last, action.on start = (.ok value, last) := by
  rcases outcome : action.on start with ⟨failure | value, last⟩
  · rw [outcome] at fine
    cases fine
  · exact ⟨value, last, rfl⟩

/-- The uploads that `coverAndClip` names. -/
def coverAndClipAssets : Named Upload :=
  [("cover", .ofBytes [1] "image/png" none), ("clip", .ofBytes [2] "Video/mp4" none)]

/-- A probe that finds nine seconds in everything. -/
def nineSeconds : Prober Number := fun _ => pure (.int 9)

theorem nineSeconds_finite : nineSeconds.Finite := by
  rintro _ _ _ (_ | _)
  rfl

theorem coverAndClip_accepted :
    ∃ manifest last,
      (validate nineSeconds coverAndClipAssets coverAndClip).on .bare = (.ok manifest, last) :=
  Action.on_of_isOk (by decide +kernel)

theorem coverAndClip_carried :
    ∃ manifest last plan,
      (validate nineSeconds coverAndClipAssets coverAndClip).on .bare = (.ok manifest, last) ∧
      manifest.Carried [("cover", .ofText "/cover.png"), ("clip", .ofText "/clip.mp4")]
        (.ofText "/audio.wav") plan := by
  obtain ⟨manifest, last, accepted⟩ := coverAndClip_accepted
  obtain ⟨plan, carried⟩ := (validate_carried accepted (.ofText "/audio.wav")).1
    [("cover", .ofText "/cover.png"), ("clip", .ofText "/clip.mp4")] (Named.sameNames_of_map rfl)
  exact ⟨manifest, last, plan, accepted, carried⟩

end Montage
