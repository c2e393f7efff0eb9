import Mathlib.Data.List.Chain
import Mathlib.Data.List.Perm.Basic
import Montage.Proofs.Job.Worker
import Montage.Publication.Rehearsal

/-! The temporary entries of a studio: after every operation they are those that were there at the
beginning and the copies that waiting tasks own. -/

namespace Montage

variable {α : Type}

/-- The copies that waiting tasks own. -/
def Studio.waiting (studio : Studio α) : List Path :=
  studio.desk.queue.flatMap Task.inputs

/-- The temporary entries are old ones and the copies that waiting tasks own. -/
structure Studio.Accounted (directory : Place) (old : Set String) (studio : Studio α) : Prop where
  owned : Owned directory old studio.waiting
  holds : studio.workspace.disk.Holds directory (old ∪ Path.namesOf studio.waiting)

/-- On top of these there are copies that no task owns yet. -/
structure Studio.Copied (directory : Place) (old : Set String) (files : List Path)
    (studio : Studio α) : Prop where
  waiting : Owned directory old studio.waiting
  owned : Owned directory (old ∪ Path.namesOf studio.waiting) files
  holds : studio.workspace.disk.Holds directory
    (old ∪ Path.namesOf studio.waiting ∪ Path.namesOf files)

variable {directory : Place} {old : Set String} {studio last : Studio α} {files more : List Path}
  {task : Task α}

theorem Studio.waiting_congr (queue : last.desk.queue = studio.desk.queue) :
    last.waiting = studio.waiting := by
  rw [waiting, waiting, queue]

/-- Only files and queue count. -/
theorem Studio.Accounted.congr (accounted : studio.Accounted directory old)
    (disk : last.workspace.disk = studio.workspace.disk)
    (queue : last.desk.queue = studio.desk.queue) : last.Accounted directory old := by
  have same := Studio.waiting_congr queue
  exact {
    owned := same ▸ accounted.owned
    holds := by rw [same, disk]; exact accounted.holds }

theorem Studio.Copied.congr (copied : studio.Copied directory old files)
    (disk : last.workspace.disk = studio.workspace.disk)
    (queue : last.desk.queue = studio.desk.queue) : last.Copied directory old files := by
  have same := Studio.waiting_congr queue
  exact {
    waiting := same ▸ copied.waiting
    owned := same ▸ copied.owned
    holds := by rw [same, disk]; exact copied.holds }

theorem Studio.Copied.perm (copied : studio.Copied directory old files)
    (same : files.Perm more) : studio.Copied directory old more where
  waiting := copied.waiting
  owned := copied.owned.perm same
  holds := Path.namesOf_perm same ▸ copied.holds

/-- A task that owns the copies is put into the queue. -/
theorem Studio.Copied.queued (copied : studio.Copied directory old task.inputs)
    (disk : last.workspace.disk = studio.workspace.disk)
    (queue : last.desk.queue = studio.desk.queue ++ [task]) : last.Accounted directory old := by
  have all : last.waiting = studio.waiting ++ task.inputs := by
    simp [Studio.waiting, queue]
  refine ⟨?_, ?_⟩
  · rw [all]
    exact Owned.append_iff.mpr ⟨copied.waiting, copied.owned⟩
  · rw [all, disk, Path.namesOf_append, ← Set.union_assoc]
    exact copied.holds

/-- The copies of a task that is taken out of the queue have no waiting task any more. -/
theorem Studio.Accounted.taken {index : Nat} (accounted : studio.Accounted directory old)
    (waiting : studio.desk.queue[index]? = some task) :
    Studio.Copied directory old task.inputs
      { studio with desk := { studio.desk with queue := studio.desk.queue.eraseIdx index } } := by
  obtain ⟨present, rfl⟩ := List.getElem?_eq_some_iff.mp waiting
  have split : studio.waiting.Perm ((studio.desk.queue.eraseIdx index).flatMap Task.inputs ++
      studio.desk.queue[index].inputs) :=
    ((List.getElem_cons_eraseIdx_perm present).flatMap_right Task.inputs).symm.trans
      List.perm_append_comm
  obtain ⟨rest, owned⟩ := Owned.append_iff.mp (accounted.owned.perm split)
  have holds := accounted.holds
  rw [Path.namesOf_perm split, Path.namesOf_append, ← Set.union_assoc] at holds
  exact ⟨rest, owned, holds⟩

/-- The copies are gone. -/
theorem Studio.Copied.gone (copied : studio.Copied directory old files)
    (holds : last.workspace.disk.Holds directory (old ∪ Path.namesOf studio.waiting))
    (queue : last.desk.queue = studio.desk.queue) : last.Accounted directory old := by
  have same := Studio.waiting_congr queue
  exact ⟨same ▸ copied.waiting, same ▸ holds⟩

namespace Operation

variable [Quantity α] {services : Services α}

/-- Handing a task over puts it into the queue, or carries it out at once. -/
theorem handOver_accounted (tidy : services.Tidy directory) (schedule : Schedule)
    (copied : studio.Copied directory old task.inputs) :
    ((handOver services task schedule).on studio).2.Accounted directory old ∧
      studio.desk.queue <+: ((handOver services task schedule).on studio).2.desk.queue := by
  cases schedule with
  | later =>
    have queue : ((handOver services task .later).on studio).2.desk.queue =
        studio.desk.queue ++ [task] := by
      simp [handOver, on_bind, Desk.accept]
    exact ⟨copied.queued rfl queue, queue ▸ List.prefix_append ..⟩
  | atOnce =>
    let accepted : Studio α := { studio with desk := studio.desk.accept task.job }
    have left := @perform_holds _ _ _ _ services task accepted tidy copied.owned copied.holds
    have queue := (handOver_atOnce services task studio).2
    rw [(handOver_atOnce services task studio).1]
    exact ⟨copied.gone left queue, queue ▸ List.prefix_rfl⟩

/-- A task that is not accepted leaves nothing behind. -/
theorem dispatch_accounted (tidy : services.Tidy directory) (same : files.Perm task.inputs)
    (copied : studio.Copied directory old files) :
    ((dispatch services task files).on studio).2.Accounted directory old ∧
      studio.desk.queue <+: ((dispatch services task files).on studio).2.desk.queue := by
  rw [dispatch, on_bind, on_desk]
  dsimp only
  cases studio.desk.refusal with
  | none => exact handOver_accounted tidy _ (copied.perm same)
  | some failure => exact ⟨copied.gone (copied.owned.discardAll copied.holds) rfl, List.prefix_rfl⟩

omit [Quantity α] in
/-- Entering a job touches neither files nor queue. -/
theorem register_frame (studio : Studio α) (clock : Nat → Instant) (options : PublishOptions) :
    ∃ job last, (register clock options).on studio = (.ok job, last) ∧
      last.workspace.disk = studio.workspace.disk ∧ last.desk.queue = studio.desk.queue :=
  ⟨_, _, rfl, rfl, rfl⟩

end Operation

/-- How a submission ends: it is accepted, or a check fails, or the system refuses something, or, its
inputs being copied, its task is not accepted. -/
inductive Answered (desk : Desk α) (copied : Prop) : Except Failure JobId → Prop where
  | accepted (job : JobId) : Answered desk copied (.ok job)
  | invalid {failure : Failure} (invalid : failure.IsInvalid) :
      Answered desk copied (.error failure)
  | system (error : SystemError) : Answered desk copied (.error (.system error))
  | refused {failure : Failure} (made : copied) (refusal : desk.refusal = some failure) :
      Answered desk copied (.error failure)

/-- The inputs of a request can be copied. -/
def Staging.Succeeds {β : Type} (staging : Staging β) (workspace : Workspace) : Prop :=
  ∃ copies, (staging.collect.on workspace).1 = .ok copies

namespace Operation

variable [Quantity α] {services : Services α}

/-- Copies end up with the task that owns them, or are taken away again. -/
theorem enter_accounted {β : Type} {options : PublishOptions} {staging : Staging β}
    {makeTask : JobId → β → Task α} {made : β → List Path → Prop} (tidy : services.Tidy directory)
    (fills : staging.Fills made)
    (owns : ∀ job copies owned, made copies owned → owned.Perm (makeTask job copies).inputs)
    (accounted : studio.Accounted directory old)
    (answered : Answered studio.desk (staging.Succeeds studio.workspace)
      ((enter services options staging makeTask).on studio).1) :
    let last := ((enter services options staging makeTask).on studio).2
    last.Accounted directory old ∧ studio.desk.queue <+: last.desk.queue := by
  have collected := Staging.collect_ensures fills studio.workspace accounted.holds
  unfold Staging.Succeeds at answered
  rw [enter, on_bind, on_act] at answered ⊢
  generalize staging.collect.on studio.workspace = result at collected answered ⊢
  obtain ⟨failure | ⟨copies, owned⟩, workspace⟩ := result
  · obtain ⟨valid, taken⟩ := collected
    cases answered with
    | invalid invalid => exact absurd invalid valid
    | system error => exact ⟨⟨accounted.owned, taken error rfl⟩, List.prefix_rfl⟩
    | refused made _ =>
      obtain ⟨_, impossible⟩ := made
      cases impossible
  · obtain ⟨own, holds, said⟩ := collected
    obtain ⟨job, entered, register, disk, queue⟩ :=
      register_frame { studio with workspace } services.clock options
    have copied : Studio.Copied directory old owned { studio with workspace } :=
      ⟨accounted.owned, own, holds⟩
    dsimp only
    rw [on_bind, register]
    dsimp only
    rw [bind_return]
    have dispatched := dispatch_accounted tidy (owns job copies owned said)
      (copied.congr disk queue)
    rw [queue] at dispatched
    exact dispatched

theorem submitStill_accounted {request : StillRequest} (tidy : services.Tidy directory)
    (accounted : studio.Accounted directory old)
    (answered : Answered studio.desk (request.copies.Succeeds studio.workspace)
      ((submitStill services request).on studio).1) :
    let last := ((submitStill services request).on studio).2
    last.Accounted directory old ∧ studio.desk.queue <+: last.desk.queue := by
  rw [submitStill, on_bind, on_act, Action.on_lift] at answered ⊢
  generalize checkDuration request.duration = checked at answered ⊢
  cases checked with
  | error failure => exact ⟨accounted, List.prefix_rfl⟩
  | ok duration =>
    refine enter_accounted tidy request.copies_fill ?_ accounted answered
    rintro job ⟨image, audio, thumbnail⟩ owned rfl
    exact .refl _

theorem submitComposition_accounted {request : CompositionRequest α}
    (tidy : services.Tidy directory) (accounted : studio.Accounted directory old)
    (answered : Answered studio.desk
      (request.copies.Succeeds ((request.manifest services.prober).on studio.workspace).2)
      ((submitComposition services request).on studio).1) :
    let last := ((submitComposition services request).on studio).2
    last.Accounted directory old ∧ studio.desk.queue <+: last.desk.queue := by
  have checked := request.manifest_keeps (tidy _).prober studio.workspace accounted.holds
  rw [submitComposition, on_bind, on_act] at answered ⊢
  generalize (request.manifest services.prober).on studio.workspace = result at checked answered ⊢
  obtain ⟨failure | manifest, workspace⟩ := result
  · exact ⟨⟨accounted.owned, checked⟩, List.prefix_rfl⟩
  · refine enter_accounted tidy request.copies_fill ?_ ⟨accounted.owned, checked⟩ answered
    rintro job ⟨audio, assets, thumbnail⟩ owned rfl
    exact List.perm_middle.symm

/-- A worker takes away what its task owns, and nothing of the tasks that still wait. -/
theorem performAt_accounted (tidy : services.Tidy directory) (index : Nat)
    (accounted : studio.Accounted directory old) :
    let last := ((performAt services index).on studio).2
    last.Accounted directory old ∧ last.desk.queue = studio.desk.queue.eraseIdx index := by
  rw [performAt, on_bind, on_desk]
  dsimp only
  cases waiting : studio.desk.queue[index]? with
  | none =>
    rw [List.eraseIdx_of_length_le (List.getElem?_eq_none_iff.mp waiting)]
    exact ⟨accounted, rfl⟩
  | some task =>
    have copied := accounted.taken waiting
    rw [on_bind, on_book]
    exact ⟨copied.gone (perform_holds tidy copied.owned copied.holds) perform_frame.2,
      perform_frame.2⟩

end Operation

/-- One operation: a submission, a worker that carries a waiting task out, or anything else that
leaves the queue and the temporary entries as they are. -/
inductive Errand [Quantity α] (directory : Place) : Studio α → Studio α → Prop where
  | still {studio : Studio α} {services : Services α} {request : StillRequest}
      (tidy : services.Tidy directory)
      (answered : Answered studio.desk (request.copies.Succeeds studio.workspace)
        ((Operation.submitStill services request).on studio).1) :
      Errand directory studio ((Operation.submitStill services request).on studio).2
  | composition {studio : Studio α} {services : Services α} {request : CompositionRequest α}
      (tidy : services.Tidy directory)
      (answered : Answered studio.desk
        (request.copies.Succeeds ((request.manifest services.prober).on studio.workspace).2)
        ((Operation.submitComposition services request).on studio).1) :
      Errand directory studio ((Operation.submitComposition services request).on studio).2
  | work {studio : Studio α} {services : Services α} (index : Nat)
      (tidy : services.Tidy directory) :
      Errand directory studio ((Operation.performAt services index).on studio).2
  | books {studio : Studio α} {desk : Desk α} (same : desk.queue = studio.desk.queue) :
      Errand directory studio { studio with desk }
  | files {studio : Studio α} {workspace : Workspace}
      (keeps : ∀ names, studio.workspace.disk.Holds directory names →
        workspace.disk.Holds directory names) :
      Errand directory studio { studio with workspace }

variable [Quantity α]

theorem Errand.accounted (errand : Errand directory studio last)
    (accounted : studio.Accounted directory old) :
    last.Accounted directory old ∧ (studio.desk.queue <+: last.desk.queue ∨
      ∃ index, last.desk.queue = studio.desk.queue.eraseIdx index) := by
  cases errand with
  | still tidy answered =>
    exact (Operation.submitStill_accounted tidy accounted answered).imp_right .inl
  | composition tidy answered =>
    exact (Operation.submitComposition_accounted tidy accounted answered).imp_right .inl
  | work index tidy =>
    exact (Operation.performAt_accounted tidy index accounted).imp_right fun same => .inr ⟨index, same⟩
  | books same =>
    exact ⟨accounted.congr rfl same, .inl ⟨[], by simpa using same.symm⟩⟩
  | files keeps => exact ⟨⟨accounted.owned, keeps _ accounted.holds⟩, .inl List.prefix_rfl⟩

omit [Quantity α] in
/-- A copy is there as long as its task waits. -/
theorem Studio.Accounted.there_iff (earlier : studio.Accounted directory old)
    (later : last.Accounted directory old)
    (change : studio.desk.queue <+: last.desk.queue ∨
      ∃ index, last.desk.queue = studio.desk.queue.eraseIdx index)
    (waiting : task ∈ studio.desk.queue) {file : Path} (member : file ∈ task.inputs) :
    file.name ∈ last.workspace.disk.temporaries ↔ task ∈ last.desk.queue := by
  rw [later.holds.entries]
  constructor
  · intro there
    rcases change with grown | ⟨index, queue⟩
    · exact grown.subset waiting
    · cases taken : studio.desk.queue[index]? with
      | none =>
        rwa [queue, List.eraseIdx_of_length_le (List.getElem?_eq_none_iff.mp taken)]
      | some other =>
        obtain ⟨present, rfl⟩ := List.getElem?_eq_some_iff.mp taken
        have split := (List.getElem_cons_eraseIdx_perm present).mem_iff.mpr waiting
        rcases List.mem_cons.mp split with rfl | still
        · -- The task that was carried out owns no file of the others.
          have absent := (earlier.taken taken).owned.apart file member
          rw [Studio.waiting, queue] at there
          exact absurd there absent
        · exact queue ▸ still
  · exact fun still => .inr (Path.mem_namesOf (List.mem_flatMap.mpr ⟨task, still, member⟩))

/-- Whatever operations follow each other, the temporary entries are those that were there at the
beginning and the copies that waiting tasks own. The copies of a task are there until a worker has
carried it out. -/
theorem Errand.temporaries_accounted {start : Studio α} {trail : List (Studio α)}
    (idle : start.desk.queue = []) (holds : start.workspace.disk.Holds directory old)
    (errands : (start :: trail).IsChain (Errand directory)) :
    (∀ passed ∈ trail, Owned directory old passed.waiting ∧
        passed.workspace.disk.temporaries = old ∪ Path.namesOf passed.waiting) ∧
      (start :: trail).IsChain fun earlier later =>
        ∀ task ∈ earlier.desk.queue, ∀ file ∈ task.inputs,
          (file.name ∈ later.workspace.disk.temporaries ↔ task ∈ later.desk.queue) := by
  have accounted : start.Accounted directory old := by
    constructor <;> simp [Studio.waiting, idle, Owned.nil, holds]
  clear idle holds
  induction trail generalizing start with
  | nil => exact ⟨nofun, .singleton _⟩
  | cons next rest ih =>
    obtain ⟨first, later⟩ := List.isChain_cons_cons.mp errands
    obtain ⟨passed, change⟩ := first.accounted accounted
    obtain ⟨all, chain⟩ := ih later passed
    refine ⟨?_, .cons_cons (fun task waiting file member => ?_) chain⟩
    · rintro studio (_ | ⟨_, member⟩)
      · exact ⟨passed.owned, passed.holds.entries⟩
      · exact all studio member
    · exact accounted.there_iff passed change waiting member

/-- The stand-in for a destination only looks at files and takes notes. -/
theorem RehearsedPublisher.publisher_keeps {kept : Workspace → Prop}
    (noted : ∀ workspace event, kept workspace → kept (workspace.note event))
    (rehearsed : RehearsedPublisher) :
    (∀ video title description options,
      (rehearsed.publisher.upload video title description options).Keeps kept) ∧
    (∀ id image contentType,
      (rehearsed.publisher.illustrate id image contentType).Keeps kept) ∧
    ∀ id, (rehearsed.publisher.address id).Keeps kept := by
  have refuse (message : Option String) : (refuse message).Keeps kept := by
    cases message with
    | none => exact Action.keeps_pure ()
    | some message => exact Action.keeps_throw _
  have content (path : Path) : (contentOf path).Keeps kept := Action.keeps_look _
  have note (event : Event) : (Action.note event).Keeps kept := fun start => noted start event
  refine ⟨fun video title description options => ?_, fun id image contentType => ?_, fun id => ?_⟩
  · exact (refuse _).bind fun _ => (content video).bind fun _ => (note _).bind fun _ =>
      Action.keeps_pure _
  · exact (refuse _).bind fun _ => (content image).bind fun _ => note _
  · exact Action.keeps_pure _

/-- Those that write a single byte to each output, and publish without thumbnails. -/
def Services.sketch : Services Number where
  clock _ := ⟨⟨2024, 2, 29⟩, 12, 0, 0, 0, some 0⟩
  renderStill _ _ _ output := (Upload.ofBytes [7] none none).copyTo output
  renderPlan _ output := (Upload.ofBytes [7] none none).copyTo output
  prober _ := return .int 9
  publisher := RehearsedPublisher.publisher ⟨"video", none, none, some "quota exceeded"⟩

theorem Services.sketch_tidy : Services.sketch.Tidy directory := by
  intro names
  obtain ⟨upload, illustrate, address⟩ :=
    @RehearsedPublisher.publisher_keeps (Workspace.Holds directory names) (fun _ _ holds => holds)
      ⟨"video", none, none, some "quota exceeded"⟩
  exact {
    renderStill := fun _ _ _ output there =>
      have among := there output (by simp)
      Upload.copyTo_keeps _ among.temporary among.member
    renderPlan := fun _ output there =>
      have among := there output (by simp)
      Upload.copyTo_keeps _ among.temporary among.member
    prober := fun _ => Action.keeps_pure _
    upload := fun _ _ _ _ _ => upload _ _ _ _
    illustrate := fun _ _ _ _ => illustrate _ _ _
    address }

/-- A studio without jobs. -/
def Studio.idle : Studio Number :=
  ⟨.empty .later, ⟨⟨[(["tmp"], .directory)], [], ["tmp"]⟩, 0, 0, 0, []⟩⟩

/-- A request for an image over a soundtrack, with a thumbnail. -/
def sketchStill : StillRequest where
  image := some (.ofBytes [1] (some "image/png") none)
  audio := some (.ofBytes [2] (some "audio/wav") none)
  duration := .int 5
  title := "Cover"
  description := ""
  options := .default
  thumbnail := some (.ofBytes [3] (some "image/png") none)

theorem Answered.of_isOk {α : Type} {desk : Desk α} {copied : Prop} {outcome : Except Failure JobId}
    (accepted : outcome.isOk = true) : Answered desk copied outcome := by
  cases outcome with
  | ok job => exact .accepted job
  | error failure => cases accepted

/-- A job is submitted and carried out. -/
theorem Studio.idle_accounted :
    ∃ submitted worked, [Studio.idle, submitted, worked].IsChain (Errand ["tmp"]) ∧
      submitted.waiting.length = 3 ∧
      submitted.workspace.disk.temporaries = ∅ ∪ Path.namesOf submitted.waiting ∧
      worked.workspace.disk.temporaries = ∅ ∪ Path.namesOf worked.waiting := by
  have holds : Studio.idle.workspace.disk.Holds ["tmp"] ∅ := {
    located := rfl
    plain := by
      rintro name (_ | ⟨_, impossible⟩)
      · exact ⟨by decide, by decide, by decide, by decide⟩
      · cases impossible
    entries := by
      refine Set.eq_empty_of_forall_notMem ?_
      rintro name ⟨_, present⟩
      cases present
    reached := nofun }
  have accepted : ((Operation.submitStill Services.sketch sketchStill).on Studio.idle).1.isOk =
      true := by decide +kernel
  obtain ⟨submitted, submit, three⟩ : ∃ submitted, Errand ["tmp"] Studio.idle submitted ∧
      submitted.waiting.length = 3 :=
    ⟨((Operation.submitStill Services.sketch sketchStill).on Studio.idle).2,
      Errand.still Services.sketch_tidy (Answered.of_isOk accepted), by decide +kernel⟩
  have errands := List.IsChain.cons_cons submit
    (.cons_cons (.work 0 Services.sketch_tidy) (.singleton _))
  obtain ⟨all, _⟩ := Errand.temporaries_accounted rfl holds errands
  refine ⟨submitted, _, errands, three, (all _ ?_).2, (all _ ?_).2⟩
  · exact List.mem_cons_self
  · exact List.mem_cons_of_mem _ List.mem_cons_self

end Montage
