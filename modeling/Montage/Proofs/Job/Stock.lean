import Mathlib.Data.List.Nodup
import Montage.Proofs.Job.Commission

/-! The copies that waiting tasks own: whatever is done in a studio, those of the tasks that go on
waiting hold what they held. -/

namespace Montage

variable {α β : Type} {directory : Place} {held more : Holding} {studio last : Studio α}
  {task : Task α} {files owned : List Path}

/-- A publisher changes no temporary file that is there. -/
structure Publisher.Discreet (publisher : Publisher) (directory : Place) : Prop where
  upload : ∀ (held : Holding) video title description options,
    (publisher.upload video title description options).Keeps (Disk.Guards directory held ·.disk)
  illustrate : ∀ (held : Holding) id image contentType,
    (publisher.illustrate id image contentType).Keeps (Disk.Guards directory held ·.disk)
  address : ∀ (held : Holding) id, (publisher.address id).Keeps (Disk.Guards directory held ·.disk)

/-- The stand-in for a destination only looks at files. -/
theorem RehearsedPublisher.discreet (rehearsed : RehearsedPublisher) :
    rehearsed.publisher.Discreet directory where
  upload _ := (rehearsed.publisher_keeps fun _ _ guards => guards).1
  illustrate _ := (rehearsed.publisher_keeps fun _ _ guards => guards).2.1
  address _ := (rehearsed.publisher_keeps fun _ _ guards => guards).2.2

/-- Those that jobs rely on change no temporary file that is there, but the one that they render to. -/
structure Services.Discreet (services : Services α) (directory : Place) : Prop where
  renderStill : ∀ (held : Holding) image audio duration output, held.Spares directory output →
    (services.renderStill image audio duration output).Keeps (Disk.Guards directory held ·.disk)
  renderPlan : ∀ (held : Holding) plan output, held.Spares directory output →
    (services.renderPlan plan output).Keeps (Disk.Guards directory held ·.disk)
  prober : ∀ (held : Holding) upload,
    (services.prober upload).Keeps (Disk.Guards directory held ·.disk)
  publisher : services.publisher.Discreet directory

theorem Services.Discreet.keep {services : Services α} (discreet : services.Discreet directory)
    (held : Holding) : services.Keep (Disk.Guards directory held ·.disk) (held.Spares directory) where
  renderStill image audio duration output spare :=
    discreet.renderStill held image audio duration output (spare output (by simp))
  renderPlan plan output spare := discreet.renderPlan held plan output (spare output (by simp))
  prober := discreet.prober held
  upload video title description options _ :=
    discreet.publisher.upload held video title description options
  illustrate id image contentType _ := discreet.publisher.illustrate held id image contentType
  address := discreet.publisher.address held

namespace Holding.Grows

theorem perm (grows : held.Grows more files) (same : files.Perm owned) : held.Grows more owned where
  kept := grows.kept
  there file member := grows.there file (same.mem_iff.mpr member)
  new file member := grows.new file (same.mem_iff.mpr member)
  distinct := same.nodup_iff.mp grows.distinct

/-- When the new files are taken away, what is held is as before. -/
theorem without (grows : held.Grows more files) {file : Path} {content : Bytes}
    (inside : held file content) : more.without files file content :=
  ⟨grows.kept file content inside, fun member => grows.new file member content inside⟩

end Holding.Grows

/-- Each file that a waiting task owns is its own and holds something that is kept. -/
structure Studio.Stocked (directory : Place) (held : Holding) (studio : Studio α) : Prop where
  guards : studio.workspace.disk.Guards directory held
  there : ∀ file ∈ studio.waiting, ∃ content, held file content
  distinct : studio.waiting.Nodup

/-- The studio whose waiting task at a position was taken. -/
def Studio.take (studio : Studio α) (index : Nat) : Studio α :=
  { studio with desk := { studio.desk with queue := studio.desk.queue.eraseIdx index } }

namespace Studio.Stocked

/-- Only files and queue count. -/
theorem congr (stocked : studio.Stocked directory held)
    (guards : last.workspace.disk.Guards directory held)
    (queue : last.desk.queue = studio.desk.queue) : last.Stocked directory held where
  guards := guards
  there := Studio.waiting_congr queue ▸ stocked.there
  distinct := Studio.waiting_congr queue ▸ stocked.distinct

/-- A task that owns new files is put into the queue. -/
theorem queued (stocked : studio.Stocked directory held) (grows : held.Grows more task.inputs)
    (guards : last.workspace.disk.Guards directory more)
    (queue : last.desk.queue = studio.desk.queue ++ [task]) : last.Stocked directory more := by
  have all : last.waiting = studio.waiting ++ task.inputs := by
    simp [Studio.waiting, queue]
  refine ⟨guards, fun file member => ?_, ?_⟩
  · rw [all, List.mem_append] at member
    rcases member with before | new
    · obtain ⟨content, inside⟩ := stocked.there file before
      exact ⟨content, grows.kept file content inside⟩
    · exact grows.there file new
  · rw [all, List.nodup_append']
    refine ⟨stocked.distinct, grows.distinct, fun file before new => ?_⟩
    obtain ⟨content, inside⟩ := stocked.there file before
    exact grows.new file new content inside

/-- A task that is taken owns none of the files of the others. -/
theorem taken (stocked : studio.Stocked directory held) {index : Nat}
    (waiting : studio.desk.queue[index]? = some task) :
    (∀ file ∈ task.inputs, (held.without task.inputs).Spares directory file) ∧
      (studio.take index).Stocked directory (held.without task.inputs) ∧
      ∀ other ∈ (studio.take index).desk.queue, ∀ file ∈ other.inputs, ∀ content,
        held file content → held.without task.inputs file content := by
  obtain ⟨present, rfl⟩ := List.getElem?_eq_some_iff.mp waiting
  have split : studio.waiting.Perm (studio.desk.queue[index].inputs ++ (studio.take index).waiting) :=
    ((List.getElem_cons_eraseIdx_perm present).flatMap_right Task.inputs).symm
  obtain ⟨_, rest, apart⟩ := List.nodup_append'.mp (split.nodup_iff.mp stocked.distinct)
  have others (file : Path) (member : file ∈ (studio.take index).waiting) (content : Bytes)
      (inside : held file content) : held.without studio.desk.queue[index].inputs file content :=
    ⟨inside, fun own => apart own member⟩
  refine ⟨fun file member => ⟨?_, fun _ inside => inside.2 member⟩,
    ⟨stocked.guards.mono fun _ _ inside => inside.1, fun file member => ?_, rest⟩, ?_⟩
  · obtain ⟨content, inside⟩ :=
      stocked.there file (split.mem_iff.mpr (List.mem_append_left _ member))
    exact (stocked.guards.files file content inside).temporary
  · obtain ⟨content, inside⟩ :=
      stocked.there file (split.mem_iff.mpr (List.mem_append_right _ member))
    exact ⟨content, others file member content inside⟩
  · intro other waits file member content
    exact others file (List.mem_flatMap.mpr ⟨other, waits, member⟩) content

/-- Only what waiting tasks own has to be kept. -/
theorem within (stocked : studio.Stocked directory held)
    (guards : last.workspace.disk.Guards directory (held.within studio.waiting))
    (queue : last.desk.queue = studio.desk.queue) :
    last.Stocked directory (held.within studio.waiting) := by
  have all := Studio.waiting_congr queue
  refine ⟨guards, fun file member => ?_, all ▸ stocked.distinct⟩
  obtain ⟨content, inside⟩ := stocked.there file (all ▸ member)
  exact ⟨content, inside, all ▸ member⟩

end Studio.Stocked

section Submissions

variable {inputs : List Input} {staging : Staging β}

/-- Copies are listed and there, or what else is there is as it was. -/
inductive Staging.Collected (directory : Place) (held : Holding) :
    Except Failure (β × List Path) → Workspace → Prop where
  | made {copies : β} {owned : List Path} {more : Holding} {last : Workspace}
      (grows : held.Grows more owned) (guards : last.disk.Guards directory more) :
      Collected directory held (.ok (copies, owned)) last
  | lost {failure : Failure} {last : Workspace} (guards : last.disk.Guards directory held) :
      Collected directory held (.error failure) last

/-- New files are taken away again. -/
theorem Holding.Grows.discardAll {workspace : Workspace} (grows : held.Grows more owned)
    (guards : workspace.disk.Guards directory more) :
    (Montage.discardAll owned workspace).disk.Guards directory held := by
  refine (guards.discardAll fun file member => ?_).mono fun _ _ => grows.without
  obtain ⟨content, inside⟩ := grows.there file member
  exact (guards.files file content inside).temporary

theorem Staging.Follows.collect_guards (follows : staging.Follows inputs)
    (plain : ∀ input ∈ inputs, input.Plain) :
    staging.collect.Ensures (Disk.Guards directory held ·.disk)
      (Staging.Collected directory held) := by
  intro start guards
  obtain ⟨made, more, listed, grows, guarded⟩ := @copyInputs_guards _ _ _ [] _ plain guards
  rw [← (follows (start, [])).1] at listed guarded
  rw [Action.on, Staging.collect]
  generalize staging (start, []) = result at listed guarded ⊢
  obtain ⟨failure | copies, last, owned⟩ := result
  · obtain rfl : owned = made := listed
    have kept := guarded.mono fun file content inside => grows.kept file content inside
    cases failure with
    | system error => exact .lost (grows.discardAll guarded)
    | _ => exact .lost kept
  · obtain rfl : owned = made := listed
    exact .made grows guarded

end Submissions

section Workers

variable [Quantity α] {services : Services α}

/-- Carrying a task out changes nothing that is to be kept of other files. -/
theorem Task.carryOut_guards (discreet : services.Discreet directory)
    (spare : ∀ file ∈ task.inputs, held.Spares directory file) :
    (task.carryOut services).Ensures (Disk.Guards directory held ·.disk) fun result last =>
      ∃ output outcome, result = .ok (output, outcome) ∧
        (∀ file ∈ output.toList, held.Spares directory file) ∧ last.disk.Guards directory held := by
  refine (makeFresh_guards task.work.outputPurpose_plain (by decide)).attempt fun outcome => ?_
  cases outcome with
  | error failure =>
    rintro start (_ | ⟨guards⟩)
    exact ⟨none, .error failure, rfl, nofun, guards⟩
  | ok output =>
    rintro start (⟨unheld, guarded⟩ | _)
    obtain ⟨guards, bears⟩ := Disk.Guards.add_iff.mp guarded
    have own : held.Spares directory output := ⟨bears.temporary, unheld⟩
    have left := Task.steps_keep (discreet.keep held) own spare start guards
    exact ⟨some output, _, rfl, by simpa using own, left⟩

namespace Operation

theorem perform_guards (discreet : services.Discreet directory)
    (spare : ∀ file ∈ task.inputs, held.Spares directory file)
    (guards : studio.workspace.disk.Guards directory held) :
    ((perform services task).on studio).2.workspace.disk.Guards directory held := by
  obtain ⟨output, outcome, workspace, carried, done⟩ := @perform_on _ _ services task studio
  let started := ((update services.clock task.job (·.begin task.work)).on studio).2
  have begun : started.workspace.disk.Guards directory held := by
    rwa [update_frame.2.1]
  obtain ⟨made, _, same, fresh, left⟩ := Task.carryOut_guards discreet spare started.workspace begun
  rw [carried] at same left
  obtain rfl : output = made := congrArg Prod.fst (Except.ok.inj same)
  rw [done]
  have all (file : Path) (member : file ∈ task.inputs ++ output.toList) :
      held.Spares directory file :=
    (List.mem_append.mp member).elim (spare file) (fresh file)
  refine Disk.Guards.mono (Disk.Guards.discardAll ?_ fun file member => (all file member).temporary)
    fun file content inside => ⟨inside, fun member => (all file member).unheld content inside⟩
  rw [update_frame.2.1]
  exact left

/-- A worker takes its task, and starts from what is left. -/
theorem performAt_some (services : Services α) {index : Nat}
    (waiting : studio.desk.queue[index]? = some task) :
    (performAt services index).on studio = (perform services task).on (studio.take index) := by
  simp [performAt, on_bind, waiting, Studio.take]

theorem performAt_none (services : Services α) {index : Nat}
    (absent : studio.desk.queue[index]? = none) : ((performAt services index).on studio).2 = studio := by
  simp [performAt, on_bind, absent]

theorem performAt_queue (services : Services α) (index : Nat) :
    ((performAt services index).on studio).2.desk.queue = studio.desk.queue.eraseIdx index := by
  cases waiting : studio.desk.queue[index]? with
  | none =>
    rw [performAt_none services waiting,
      List.eraseIdx_of_length_le (List.getElem?_eq_none_iff.mp waiting)]
  | some task =>
    rw [performAt_some services waiting]
    exact perform_frame.2

/-- A worker takes away what its task owns, and the files of the tasks that still wait are as they were. -/
theorem performAt_stocked (discreet : services.Discreet directory) (index : Nat)
    (stocked : studio.Stocked directory held) :
    let last := ((performAt services index).on studio).2
    ∃ rest, last.Stocked directory rest ∧
      ∀ task ∈ last.desk.queue, ∀ file ∈ task.inputs, ∀ content,
        held file content → rest file content := by
  intro last
  cases waiting : studio.desk.queue[index]? with
  | none =>
    rw [show last = studio from performAt_none services waiting]
    exact ⟨held, stocked, fun _ _ _ _ _ => id⟩
  | some task =>
    obtain ⟨spare, rest, kept⟩ := stocked.taken waiting
    have same : last = ((perform services task).on (studio.take index)).2 :=
      congrArg Prod.snd (performAt_some services waiting)
    have queue : last.desk.queue = (studio.take index).desk.queue := same ▸ perform_frame.2
    have guards := perform_guards discreet spare rest.guards
    exact ⟨held.without task.inputs, rest.congr (same ▸ guards) queue, queue ▸ kept⟩

end Operation

end Workers

/-- How a submission ends: it fails, or its task waits with the others, or it was carried out; what was
held before goes on being held. -/
inductive Submitted [Quantity α] (services : Services α) (directory : Place) (held : Holding)
    (does : Holding → Task α → Prop) (studio : Studio α) : Except Failure JobId → Studio α → Prop where
  | failed {failure : Failure} {last : Studio α} {rest : Holding}
      (kept : ∀ file content, held file content → rest file content)
      (queue : last.desk.queue = studio.desk.queue) (stocked : last.Stocked directory rest) :
      Submitted services directory held does studio (.error failure) last
  | queued {task : Task α} {last : Studio α} {more : Holding}
      (kept : ∀ file content, held file content → more file content) (embodied : does more task)
      (later : studio.desk.schedule = .later)
      (queue : last.desk.queue = studio.desk.queue ++ [task])
      (stocked : last.Stocked directory more) :
      Submitted services directory held does studio (.ok task.job) last
  | performed {task : Task α} {before last : Studio α} {more : Holding} (embodied : does more task)
      (atOnce : studio.desk.schedule = .atOnce)
      (guards : before.workspace.disk.Guards directory more)
      (done : last.workspace = ((Operation.perform services task).on before).2.workspace)
      (queue : last.desk.queue = studio.desk.queue) (stocked : last.Stocked directory held) :
      Submitted services directory held does studio (.ok task.job) last

section Submissions

variable [Quantity α] {services : Services α} {submission : JobRequest α} {start workspace : Workspace}
  {staging : Staging β} {makeTask : JobId → β → Task α} {copies : β}

theorem Staging.collect_ok (collected : staging.collect.on start = (.ok (copies, owned), workspace)) :
    staging (start, []) = (.ok copies, workspace, owned) := by
  rw [Action.on, collect] at collected
  rcases outcome : staging (start, []) with ⟨failure | found, last, listed⟩
  · rw [outcome] at collected
    cases failure <;> cases collected
  · rw [outcome] at collected
    obtain ⟨same, rfl⟩ := Prod.mk.inj collected
    obtain ⟨rfl, rfl⟩ := Prod.mk.inj (Except.ok.inj same)
    rfl

/-- What the copies of a task hold is what the uploads did. -/
theorem JobRequest.Enters.embodies {first : Workspace}
    (enters : submission.Enters services first start.disk staging makeTask)
    (apart : submission.Apart start.disk) (guards : start.disk.Guards directory held)
    (collected : staging.collect.on start = (.ok (copies, owned), workspace))
    (grows : held.Grows more owned) (guarded : workspace.disk.Guards directory more) :
    ∃ commission, submission.Commissions services first start.disk commission ∧
      ∀ job, (makeTask job copies).Embodies more commission := by
  have made := Staging.collect_ok collected
  obtain ⟨_, listed, owns⟩ := enters.lists start workspace [] owned copies made
  obtain rfl := guards.located
  obtain ⟨also, _, bearing, _, commission, commissioned, embodies⟩ :=
    enters.yields apart held start workspace [] owned copies guards (.refl _) made
  refine ⟨commission, commissioned, fun job => (embodies job).mono fun file member content inside => ?_⟩
  -- Both holdings speak of files of one disk.
  obtain ⟨found, there⟩ := grows.there file (listed ▸ (owns job).mem_iff.mpr member)
  obtain rfl := (guarded.files file found there).unique (bearing.files file content inside)
  exact there

/-- The task of a request does what was commissioned, if no upload leads to a copy that is still to be
made. -/
def JobRequest.Commissioned (services : Services α) (submission : JobRequest α) (start : Workspace)
    (origin : Disk) (held : Holding) (task : Task α) : Prop :=
  submission.Apart origin → ∃ commission, submission.Commissions services start origin commission ∧
    task.Embodies held commission

/-- Of the studio before, only its schedule and its queue count. -/
theorem Submitted.congr {does : Holding → Task α → Prop} {before : Studio α}
    {outcome : Except Failure JobId}
    (submitted : Submitted services directory held does before outcome last)
    (schedule : before.desk.schedule = studio.desk.schedule)
    (queue : before.desk.queue = studio.desk.queue) :
    Submitted services directory held does studio outcome last := by
  cases submitted with
  | failed kept same stocked => exact .failed kept (same.trans queue) stocked
  | queued kept embodied later same stocked =>
    exact .queued kept embodied (schedule ▸ later) (queue ▸ same) stocked
  | performed embodied atOnce guards done same stocked =>
    exact .performed embodied (schedule ▸ atOnce) guards done (same.trans queue) stocked

namespace Operation

/-- A task with new files is dispatched. -/
theorem dispatch_submitted {does : Holding → Task α → Prop} (discreet : services.Discreet directory)
    (stocked : studio.Stocked directory held) (grows : held.Grows more task.inputs)
    (guards : studio.workspace.disk.Guards directory more) (same : owned.Perm task.inputs)
    (embodied : does more task) :
    let answer := (do dispatch services task owned; return task.job : Operation α JobId).on studio
    Submitted services directory held does studio answer.1 answer.2 := by
  intro answer
  cases refusal : studio.desk.refusal with
  | some failure =>
    have refused : answer = (.error failure, ⟨studio.desk.withdraw task.job,
        discardAll owned (studio.workspace.note (.withdrawn task.job))⟩) := by
      simp [answer, on_bind, dispatch_refused refusal]
    rw [refused]
    refine .failed (fun _ _ => id) rfl (stocked.congr ?_ rfl)
    exact (grows.perm same.symm).discardAll guards
  | none =>
    cases schedule : studio.desk.schedule with
    | later =>
      have handed : answer = (.ok task.job, ((handOver services task .later).on studio).2) := by
        simp [answer, on_bind, dispatch, refusal, schedule, handOver]
      have queue : answer.2.desk.queue = studio.desk.queue ++ [task] := by
        rw [handed]
        simp [handOver, on_bind, Desk.accept]
      have disk : answer.2.workspace = studio.workspace := by
        rw [handed]
        rfl
      rw [show answer.1 = .ok task.job from congrArg Prod.fst handed]
      exact .queued grows.kept embodied schedule queue (stocked.queued grows (disk ▸ guards) queue)
    | atOnce =>
      let before : Studio α := { studio with desk := studio.desk.accept task.job }
      have spare (file : Path) (member : file ∈ task.inputs) : held.Spares directory file := by
        obtain ⟨content, inside⟩ := grows.there file member
        exact ⟨(guards.files file content inside).temporary, grows.new file member⟩
      have left := @perform_guards _ _ _ before _ _ _ discreet spare stocked.guards
      obtain ⟨handed, queue⟩ := handOver_atOnce services task studio
      have done : answer = (.ok task.job, ((handOver services task .atOnce).on studio).2) := by
        simp [answer, on_bind, dispatch, refusal, schedule, handed]
      rw [done, handed]
      exact @Submitted.performed _ _ _ _ _ _ _ task before _ more embodied schedule guards rfl queue
        (stocked.congr left queue)

/-- Inputs are copied, a job is entered and its task dispatched. -/
theorem enter_submitted {first : Workspace} {options : PublishOptions}
    (discreet : services.Discreet directory)
    (enters : submission.Enters services first studio.workspace.disk staging makeTask)
    (stocked : studio.Stocked directory held) :
    let answer := (enter services options staging makeTask).on studio
    Submitted services directory held (submission.Commissioned services first studio.workspace.disk)
      studio answer.1 answer.2 := by
  intro answer
  have copied := enters.follows.collect_guards (fun _ => JobRequest.inputs_plain) studio.workspace
    stocked.guards
  rcases outcome : staging.collect.on studio.workspace with ⟨failure | ⟨copies, owned⟩, workspace⟩
  · rw [outcome] at copied
    obtain _ | guards := copied
    rw [show answer = _ from enter_uncopied outcome]
    exact .failed (fun _ _ => id) rfl (stocked.congr guards rfl)
  · rw [outcome] at copied
    obtain @⟨_, _, more, _, grows, guards⟩ | _ := copied
    obtain ⟨status, entered, _, disk, done⟩ := enter_copied outcome services options makeTask
    obtain ⟨_, listed, owns⟩ := enters.lists _ _ _ _ _ (Staging.collect_ok outcome)
    obtain rfl : owned = _ := listed
    let registered : Studio α := ⟨studio.desk.register status, entered⟩
    have kept : registered.Stocked directory held :=
      stocked.congr (disk ▸ guards.mono fun file content => grows.kept file content) rfl
    have embodied : submission.Commissioned services first studio.workspace.disk more
        (makeTask status.id copies) := by
      intro apart
      obtain ⟨commission, commissioned, embodies⟩ :=
        enters.embodies apart stocked.guards outcome grows guards
      exact ⟨commission, commissioned, embodies status.id⟩
    have dispatched := dispatch_submitted discreet kept (grows.perm (owns status.id)) (disk ▸ guards)
      (owns status.id) embodied
    rw [enters.named] at dispatched
    rw [show answer = _ from done]
    exact dispatched.congr rfl rfl

end Operation

/-- What becomes of the tasks of a studio when a request is submitted. -/
theorem JobRequest.submit_submitted (discreet : services.Discreet directory)
    (stocked : studio.Stocked directory held) :
    let answer := (submission.submit services).on studio
    let checked := ((submission.check services).on studio.workspace).2
    Submitted services directory held (submission.Commissioned services studio.workspace checked.disk)
      studio answer.1 answer.2 := by
  intro answer checked
  have guards := submission.check_keeps (discreet.prober held) studio.workspace stocked.guards
  rcases outcome : (submission.check services).on studio.workspace with ⟨failure | _, workspace⟩
  · rw [outcome] at guards
    rw [show answer = _ from submit_unchecked outcome]
    exact .failed (fun _ _ => id) rfl (stocked.congr guards rfl)
  · rw [outcome] at guards
    obtain ⟨β, options, staging, task, passes, same⟩ := submit_passes outcome
    have entering : Studio.Stocked directory held { studio with workspace } :=
      stocked.congr guards rfl
    rw [show answer = _ from same, show checked = workspace from congrArg Prod.snd outcome]
    exact Submitted.congr (Operation.enter_submitted discreet passes.enters entering) rfl rfl

/-- The tasks that wait stay where they are in the queue. -/
theorem JobRequest.submit_queue (discreet : services.Discreet directory)
    (stocked : studio.Stocked directory held) :
    studio.desk.queue <+: ((submission.submit services).on studio).2.desk.queue := by
  have submitted := submission.submit_submitted discreet stocked
  generalize (submission.submit services).on studio = answer at submitted ⊢
  obtain ⟨outcome, last⟩ := answer
  cases submitted with
  | failed _ queue _ => exact queue ▸ List.prefix_rfl
  | queued _ _ _ queue _ => exact queue ▸ List.prefix_append ..
  | performed _ _ _ _ queue _ => exact queue ▸ List.prefix_rfl

end Submissions

/-- What goes on in a studio: a request of either kind is submitted, whatever comes of it; a worker
carries a waiting task out; a worker takes one, a submission puts one with copies of its own into the
queue, and go on beside others; the books are changed; files are changed, but for the copies that
waiting tasks own. -/
inductive Meanwhile [Quantity α] (directory : Place) : Studio α → Studio α → Prop where
  | submit {studio : Studio α} {services : Services α} (submission : JobRequest α)
      (discreet : services.Discreet directory) :
      Meanwhile directory studio ((submission.submit services).on studio).2
  | work {studio : Studio α} {services : Services α} (index : Nat)
      (discreet : services.Discreet directory) :
      Meanwhile directory studio ((Operation.performAt services index).on studio).2
  | take {studio : Studio α} (index : Nat) : Meanwhile directory studio (studio.take index)
  | put {studio last : Studio α} {task : Task α} (workspace : last.workspace = studio.workspace)
      (queue : last.desk.queue = studio.desk.queue ++ [task])
      (own : (studio.waiting ++ task.inputs).Nodup)
      (there : ∀ file ∈ task.inputs, ∃ content,
        studio.workspace.disk.Bears directory file content) :
      Meanwhile directory studio last
  | books {studio : Studio α} {desk : Desk α} (same : desk.queue = studio.desk.queue) :
      Meanwhile directory studio { studio with desk }
  | files {studio : Studio α} {workspace : Workspace}
      (located : workspace.disk.temporaryDirectory = studio.workspace.disk.temporaryDirectory)
      (kept : ∀ file ∈ studio.waiting, ∀ content,
        studio.workspace.disk.Bears directory file content →
          workspace.disk.Bears directory file content) :
      Meanwhile directory studio { studio with workspace }

variable [Quantity α]

/-- Whatever goes on, the copies of a task hold what they held as long as it waits. -/
theorem Meanwhile.stocked (meanwhile : Meanwhile directory studio last)
    (stocked : studio.Stocked directory held) :
    ∃ rest, last.Stocked directory rest ∧
      ∀ task ∈ last.desk.queue, task ∈ studio.desk.queue → ∀ file ∈ task.inputs, ∀ content,
        held file content → rest file content := by
  have own (task : Task α) (waits : task ∈ studio.desk.queue) (file : Path)
      (member : file ∈ task.inputs) (content : Bytes) (inside : held file content) :
      held.within studio.waiting file content :=
    ⟨inside, List.mem_flatMap.mpr ⟨task, waits, member⟩⟩
  cases meanwhile with
  | @submit services submission discreet =>
    have submitted := submission.submit_submitted discreet stocked
    generalize (submission.submit services).on studio = answer at submitted ⊢
    obtain ⟨outcome, last⟩ := answer
    cases submitted with
    | failed kept _ stocked => exact ⟨_, stocked, fun _ _ _ file _ => kept file⟩
    | queued kept _ _ _ stocked => exact ⟨_, stocked, fun _ _ _ file _ => kept file⟩
    | performed _ _ _ _ _ stocked => exact ⟨held, stocked, fun _ _ _ _ _ _ => id⟩
  | work index discreet =>
    obtain ⟨rest, stocked, kept⟩ := Operation.performAt_stocked discreet index stocked
    exact ⟨rest, stocked, fun task waits _ => kept task waits⟩
  | take index =>
    cases waiting : studio.desk.queue[index]? with
    | none =>
      have queue : (studio.take index).desk.queue = studio.desk.queue :=
        List.eraseIdx_of_length_le (List.getElem?_eq_none_iff.mp waiting)
      exact ⟨held, stocked.congr stocked.guards queue, fun _ _ _ _ _ _ => id⟩
    | some task =>
      obtain ⟨_, rest, kept⟩ := stocked.taken waiting
      exact ⟨_, rest, fun other waits _ => kept other waits⟩
  | @put _ task workspace queue apart there =>
    -- The copies that are put in hold what they hold on the disk.
    let more : Holding := fun file content => held.within studio.waiting file content ∨
      (file ∈ task.inputs ∧ studio.workspace.disk.Bears directory file content)
    have before := stocked.within (stocked.guards.mono fun _ _ inside => inside.1) rfl
    obtain ⟨_, distinct, disjoint⟩ := List.nodup_append'.mp apart
    have grows : (held.within studio.waiting).Grows more task.inputs :=
      ⟨fun _ _ => .inl, fun file member => (there file member).imp fun _ bears => .inr ⟨member, bears⟩,
        fun file member _ inside => disjoint inside.2 member, distinct⟩
    have guards : last.workspace.disk.Guards directory more := by
      rw [workspace]
      refine ⟨stocked.guards.located, stocked.guards.plain, ?_⟩
      rintro file content (inside | ⟨_, bears⟩)
      · exact before.guards.files file content inside
      · exact bears
    refine ⟨more, before.queued grows guards queue, ?_⟩
    exact fun task _ waits file member content inside => .inl (own task waits file member content inside)
  | books same => exact ⟨held, stocked.congr stocked.guards same, fun _ _ _ _ _ _ => id⟩
  | @files workspace located kept =>
    have guards : workspace.disk.Guards directory (held.within studio.waiting) :=
      ⟨located.trans stocked.guards.located, stocked.guards.plain, fun file content inside =>
        kept file inside.2 content (stocked.guards.files file content inside.1)⟩
    exact ⟨_, stocked.within guards rfl, fun task _ => own task⟩

section Outside

variable (plain : directory.Plain)

include plain

/-- Files are changed beside the copies that waiting tasks own. -/
theorem Meanwhile.beside {disk : Disk}
    (located : disk.temporaryDirectory = studio.workspace.disk.temporaryDirectory)
    (same : ∀ file ∈ studio.waiting, ∀ upper : Place, upper <+: file.names →
      disk.entry? upper = studio.workspace.disk.entry? upper) :
    Meanwhile directory studio { studio with workspace := { studio.workspace with disk } } :=
  .files located fun file member _ bears => bears.congr plain (same file member)

/-- A caller writes a file that is neither a copy that a waiting task owns nor above one. -/
theorem Meanwhile.write {text : String} {content : Bytes} {disk : Disk}
    (written : studio.workspace.disk.write text content = .ok disk)
    (apart : ∀ file ∈ studio.waiting, ∀ place, studio.workspace.disk.find text = .ok place →
      ¬place <+: file.names) :
    Meanwhile directory studio { studio with workspace := { studio.workspace with disk } } := by
  obtain ⟨place, found, _, rfl⟩ := Disk.write_eq_ok.mp written
  refine .beside plain Disk.put_temporaryDirectory fun file member upper above => ?_
  have aside := apart file member place found
  have below : place ≠ [] := by
    rintro rfl
    exact aside List.nil_prefix
  rw [Disk.entry_put below, if_neg]
  rintro rfl
  exact aside above

/-- A caller takes away something that is neither a copy that a waiting task owns nor above one. -/
theorem Meanwhile.discard {path : Path} (named : path.names ≠ [])
    (apart : ∀ file ∈ studio.waiting, ∀ place, studio.workspace.disk.find path.text = .ok place →
      ¬place <+: file.names) :
    Meanwhile directory studio { studio with workspace := Montage.discard path studio.workspace } := by
  have full : path.names.isEmpty = false := by simpa using named
  refine .beside plain Disk.remove_temporaryDirectory fun file member upper above => ?_
  simp only [Disk.remove, full]
  split
  · rename_i place found
    split
    · rfl
    · have aside := apart file member place found
      have below : place ≠ [] := by
        rintro rfl
        exact aside List.nil_prefix
      rw [if_neg Bool.false_ne_true, Disk.entry_drop below, if_neg]
      exact fun longer => aside (longer.trans above)
  · rfl

end Outside

/-- A task goes on waiting whatever goes on. -/
def Studio.Awaits (directory : Place) (task : Task α) : Studio α → Studio α → Prop :=
  Relation.ReflTransGen fun studio next => Meanwhile directory studio next ∧ task ∈ next.desk.queue

/-- A task that waits does what was commissioned, whatever goes on. -/
theorem Studio.Awaits.embodies {commission : Commission α} (awaits : studio.Awaits directory task last)
    (waits : task ∈ studio.desk.queue) (stocked : studio.Stocked directory held)
    (embodies : task.Embodies held commission) :
    task ∈ last.desk.queue ∧
      ∃ rest, last.Stocked directory rest ∧ task.Embodies rest commission := by
  induction awaits with
  | refl => exact ⟨waits, held, stocked, embodies⟩
  | tail _ next ih =>
    obtain ⟨before, rest, stocked, embodies⟩ := ih
    obtain ⟨meanwhile, after⟩ := next
    obtain ⟨more, stocked, kept⟩ := meanwhile.stocked stocked
    exact ⟨after, more, stocked, embodies.mono (kept task after before)⟩

end Montage
