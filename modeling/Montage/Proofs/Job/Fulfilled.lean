import Montage.Proofs.Job.Stock
import Montage.Proofs.Job.Verdict

/-! Jobs work on what was submitted: whatever goes on between a submission and its worker, what the
worker hands to the renderer and to the publisher is what was commissioned. -/

namespace Montage

variable {α β : Type} {directory : Place} {held : Holding} {commission : Commission α}
  {task : Task α} {video : Path}

/-- What the files of a disk hold. -/
def Disk.holding (disk : Disk) : Holding := fun file content => disk.read file.text = .ok content

theorem Disk.Guards.holding {disk : Disk} (guards : disk.Guards directory held) (file : Path)
    (content : Bytes) (inside : held file content) : disk.holding file content :=
  (guards.files file content inside).read

/-- What a worker has at hand: the workspace, and the video that was rendered last, with what its file
held then. -/
structure Bench where
  workspace : Workspace
  video : Option (Path × Option Bytes)

namespace Bench

/-- What the files that are at hand hold. -/
def holding (bench : Bench) : Holding := bench.workspace.disk.holding

/-- A video is the one that was rendered last, and its file is as it was then. -/
def Rendered (bench : Bench) (video : Path) : Prop :=
  bench.video = some (video, bench.workspace.disk.file? video.text)

/-- The bench after a turn by which a workspace is left. -/
def after (bench : Bench) (workspace : Workspace) : Turn α → Bench
  | .render video (.ok _) => ⟨workspace, some (video, workspace.disk.file? video.text)⟩
  | _ => ⟨workspace, bench.video⟩

@[simp] theorem after_workspace (bench : Bench) (workspace : Workspace) (turn : Turn α) :
    (bench.after workspace turn).workspace = workspace := by
  unfold after
  split <;> rfl

end Bench

namespace Turn

variable [Quantity α]

/-- The calls by which a worker fulfils a commission, and the turns that they are: what it hands over
holds what was commissioned, and it publishes what it has rendered. -/
inductive Suits (services : Services α) (commission : Commission α) (bench : Bench) :
    {β : Type} → Action β → (Except Failure β → Turn α) → Prop where
  | output (purpose : String) :
      Suits services commission bench (makeFresh purpose ".mp4" (.file [])) .output
  | compile {manifest : Manifest α} {assets : Named Path} {audio : Path}
      (shows : (Work.composition manifest assets).Shows bench.holding commission.subject)
      (hears : bench.holding audio commission.audio) :
      Suits services commission bench (Action.lift (manifest.plan assets audio)) .compile
  | still {image audio : Path} {duration : Number} (video : Path)
      (shows : (Work.still image duration).Shows bench.holding commission.subject)
      (hears : bench.holding audio commission.audio) :
      Suits services commission bench (services.renderStill image audio duration video)
        (.render video)
  | plan {manifest : Manifest α} {plan : RenderPlan α} (video : Path)
      (planned : manifest.plan plan.assetPaths plan.audio = .ok plan)
      (shows : (Work.composition manifest plan.assetPaths).Shows bench.holding commission.subject)
      (hears : bench.holding plan.audio commission.audio) :
      Suits services commission bench (services.renderPlan plan video) (.render video)
  | upload {video : Path} (rendered : bench.Rendered video) :
      Suits services commission bench
        (services.publisher.upload video commission.title commission.description commission.options)
        (.upload video)
  | illustrate {thumbnail : Thumbnail} (id : String)
      (shown : bench.holding.Thumbnail (some thumbnail) commission.thumbnail) :
      Suits services commission bench
        (services.publisher.illustrate id thumbnail.image thumbnail.contentType) (.illustrate id)
  | address (id : String) :
      Suits services commission bench (services.publisher.address id) (.address id)

/-- A worker takes a turn by which it fulfils a commission. -/
inductive Fulfils (services : Services α) (commission : Commission α) :
    Bench → Turn α → Bench → Prop where
  | turn {β : Type} {action : Action β} {label : Except Failure β → Turn α} {bench : Bench}
      (suits : Suits services commission bench action label) :
      Fulfils services commission bench (label (action.on bench.workspace).1)
        (bench.after (action.on bench.workspace).2 (label (action.on bench.workspace).1))

end Turn

/-- From a bench that is as required, an operation of a worker fulfils a commission turn by turn, in one
of the ways that there are. -/
def Fulfilling [Quantity α] (services : Services α) (commission : Commission α)
    (required : Bench → Prop) (action : Action β)
    (course : List (Turn α) → Except Failure β → Prop)
    (left : Except Failure β → Bench → Prop) : Prop :=
  ∀ bench, required bench → ∃ turns last,
    Trace (Turn.Fulfils services commission) bench turns last ∧
      last.workspace = (action.on bench.workspace).2 ∧
      course turns (action.on bench.workspace).1 ∧ left (action.on bench.workspace).1 last

section Workers

variable [Quantity α] {services : Services α} (discreet : services.Discreet directory)
  (embodies : task.Embodies held commission)

include discreet embodies

/-- A worker renders from the copies of what was commissioned. -/
theorem Task.render_fulfils (spare : held.Spares directory video) :
    Fulfilling services commission (Disk.Guards directory held ·.workspace.disk)
      (task.work.render services task.audio video) (Renders video task.work)
      fun outcome last => last.workspace.disk.Guards directory held ∧
        (outcome = .ok () → last.Rendered video) := by
  intro bench guards
  have shows := embodies.work.mono fun file _ => guards.holding file
  have hears := guards.holding _ _ embodies.audio
  cases work : task.work with
  | still image duration =>
    rw [work] at shows
    have turn : Turn.Fulfils services commission bench _ _ := .turn (.still video shows hears)
    have kept := discreet.renderStill held image task.audio duration video spare _ guards
    refine ⟨_, _, .single turn, Bench.after_workspace .., .still, ?_, fun went => ?_⟩
    · rwa [Bench.after_workspace]
    · rw [Work.render] at went
      rw [went]
      rfl
  | composition manifest assets =>
    rw [work] at shows
    have compile : Turn.Fulfils services commission bench _ _ := .turn (.compile shows hears)
    rw [Work.render, Action.on_bind]
    rw [Action.on_lift] at compile ⊢
    cases planned : manifest.plan assets task.audio with
    | error failure =>
      rw [planned] at compile
      exact ⟨_, _, .single compile, rfl, .uncompiled, guards, fun went => by cases went⟩
    | ok plan =>
      rw [planned] at compile
      obtain ⟨audio, paths⟩ := Manifest.plan_files planned
      have turn : Turn.Fulfils services commission bench _ _ :=
        .turn (.plan video (audio ▸ paths ▸ planned) (paths ▸ shows) (audio ▸ hears))
      have kept := discreet.renderPlan held plan video spare _ guards
      refine ⟨_, _, .cons compile (.single turn), Bench.after_workspace .., .composition, ?_,
        fun went => ?_⟩
      · rwa [Bench.after_workspace]
      · dsimp only at went
        rw [went]
        rfl

omit discreet embodies in
theorem addresses_fulfils (artifact : Artifact) (warning : Option String) :
    Fulfilling services commission (fun _ => True)
      (do return (⟨artifact.id, ← services.publisher.address artifact.id, warning⟩ : Publication))
      (Addresses artifact warning) fun _ _ => True := by
  intro bench _
  have turn : Turn.Fulfils services commission bench _ _ := .turn (.address artifact.id)
  rw [Action.on_bind]
  generalize (services.publisher.address artifact.id).on bench.workspace = result at turn ⊢
  obtain ⟨failure | address, last⟩ := result <;> exact ⟨_, _, .single turn, rfl, .asked, trivial⟩

/-- A worker publishes what it has rendered, with the thumbnail that was commissioned. -/
theorem Task.publish_fulfils :
    Fulfilling services commission
      (fun bench => bench.workspace.disk.Guards directory held ∧ bench.Rendered video)
      (task.publish services video) (Publishes video task.thumbnail) fun _ _ => True := by
  rintro bench ⟨guards, rendered⟩
  have handed : Turn.Fulfils services commission bench _ _ := .turn (.upload rendered)
  have kept := discreet.publisher.upload held video task.title task.description task.options _ guards
  rw [Task.publish, Action.on_bind]
  rw [← embodies.title, ← embodies.description, ← embodies.options] at handed
  generalize (services.publisher.upload video _ _ _).on bench.workspace = result at handed kept ⊢
  obtain ⟨failure | artifact, middle⟩ := result
  · exact ⟨_, _, .single handed, rfl, .refused, trivial⟩
  let uploaded := bench.after middle (.upload video (.ok artifact) : Turn α)
  have shown := embodies.thumbnail.mono fun image _ => kept.holding image.image
  cases present : task.thumbnail with
  | none =>
    obtain ⟨more, last, asked, same, addresses, _⟩ :=
      @addresses_fulfils _ commission _ services artifact artifact.warning uploaded trivial
    exact ⟨_, last, .cons handed asked, same, .uploaded .plain addresses, trivial⟩
  | some thumbnail =>
    rw [present] at shown
    have tried : Turn.Fulfils services commission uploaded _ _ := .turn (.illustrate artifact.id shown)
    dsimp only
    rw [Action.on_bind, Action.on_attempt]
    rw [show uploaded.workspace = middle from rfl] at tried
    generalize (services.publisher.illustrate artifact.id _ _).on middle = result at tried ⊢
    obtain ⟨failure | _, between⟩ := result
    · have unshown : Illustrates artifact (some thumbnail)
          [(.illustrate artifact.id (.error failure) : Turn α)] _ := .unshown
      obtain ⟨more, last, asked, same, addresses, _⟩ :=
        @addresses_fulfils _ commission _ services artifact _ _ trivial
      have publishes : Publishes video _ _ _ := .uploaded unshown addresses
      exact ⟨_, last, .cons handed (.cons tried asked), same, publishes, trivial⟩
    · have shown : Illustrates artifact (some thumbnail)
          [(.illustrate artifact.id (.ok ()) : Turn α)] _ := .shown
      obtain ⟨more, last, asked, same, addresses, _⟩ :=
        @addresses_fulfils _ commission _ services artifact _ _ trivial
      have publishes : Publishes video _ _ _ := .uploaded shown addresses
      exact ⟨_, last, .cons handed (.cons tried asked), same, publishes, trivial⟩

/-- A worker fulfils the commission of its task, from the copies that hold what was commissioned. -/
theorem Task.carryOut_fulfils :
    Fulfilling services commission (Disk.Guards directory held ·.workspace.disk)
      (task.carryOut services)
      (fun turns result => ∃ output outcome, result = .ok (output, outcome) ∧
        Carries task turns outcome) fun _ _ => True := by
  intro bench guards
  have turn : Turn.Fulfils services commission bench _ _ := .turn (.output task.work.outputPurpose)
  have made := @makeFresh_guards _ held [] _ _ task.work.outputPurpose_plain
    (show '/' ∉ ".mp4".toList by decide) bench.workspace guards
  rw [Task.carryOut, Action.on_bind, Action.on_attempt]
  generalize (makeFresh task.work.outputPurpose ".mp4" (.file [])).on bench.workspace = result
    at turn made ⊢
  obtain ⟨failure | video, middle⟩ := result
  · exact ⟨_, _, .single turn, rfl, ⟨none, _, rfl, .unmade⟩, trivial⟩
  obtain ⟨unheld, grown⟩ | _ := made
  obtain ⟨guards, bears⟩ := Disk.Guards.add_iff.mp grown
  obtain ⟨turns, rendered, rendering, same, renders, guards, ready⟩ :=
    Task.render_fulfils discreet embodies ⟨bears.temporary, unheld⟩
      (bench.after middle (.output (.ok video))) guards
  dsimp only
  rw [Action.on_bind, Action.on_attempt, Action.on_bind]
  rw [show (bench.after middle (.output (.ok video) : Turn α)).workspace = middle from rfl]
    at same renders ready
  generalize (task.work.render services task.audio video).on middle = result at same renders ready ⊢
  obtain ⟨failure | _, between⟩ := result
  · have carries : Carries task _ _ := .unrendered renders
    exact ⟨_, rendered, .cons turn rendering, same, ⟨some video, _, rfl, carries⟩, trivial⟩
  · obtain ⟨more, last, publishing, left, publishes, _⟩ :=
      Task.publish_fulfils discreet embodies rendered ⟨guards, ready rfl⟩
    rw [same] at left publishes
    have carries : Carries task _ _ := .rendered renders publishes
    exact ⟨_, last, .cons turn (rendering.append publishing), left, ⟨some video, _, rfl, carries⟩,
      trivial⟩

end Workers

/-- A worker that carries a task out from a studio fulfils a commission with every turn that it takes. -/
def Task.Delivers [Quantity α] (services : Services α) (task : Task α) (commission : Commission α)
    (studio : Studio α) : Prop :=
  let started := ((Operation.start services task).on studio).2
  ∃ turns last output outcome,
    Trace (Turn.Fulfils services commission) ⟨started.workspace, none⟩ turns last ∧
      (task.carryOut services).on started.workspace = (.ok (output, outcome), last.workspace) ∧
      Carries task turns outcome

section Deliveries

variable [Quantity α] {services : Services α} {submission : JobRequest α} {start studio last : Studio α}
  {job : JobId}

theorem Task.Embodies.delivers (embodies : task.Embodies held commission)
    (discreet : services.Discreet directory) (guards : studio.workspace.disk.Guards directory held) :
    task.Delivers services commission studio := by
  let started := ((Operation.start services task).on studio).2
  have begun : started.workspace.disk.Guards directory held := by
    rwa [show started.workspace.disk = studio.workspace.disk from Operation.update_frame.2.1]
  obtain ⟨turns, last, trace, same, ⟨output, outcome, done, carries⟩, _⟩ :=
    Task.carryOut_fulfils discreet embodies ⟨started.workspace, none⟩ begun
  exact ⟨turns, last, output, outcome, trace, Prod.ext done same.symm, carries⟩

/-- What the uploads of a request hold after its checks they held before. -/
def JobRequest.Untouched (services : Services α) (submission : JobRequest α) (start : Workspace) :
    Prop :=
  ∀ input ∈ submission.inputs, ∀ upload, input.upload = some upload → ∀ content,
    upload.content ((submission.check services).on start).2.disk = .ok content →
      upload.content start.disk = .ok content

theorem JobRequest.check_still {request : StillRequest} {start : Workspace} :
    (((JobRequest.still request).check services).on start).2 = start := by
  rw [check, Action.on_bind, Action.on_lift]
  cases checkDuration request.duration <;> rfl

/-- Checking a duration concerns no file. -/
theorem JobRequest.still_untouched {request : StillRequest} {start : Workspace} :
    (JobRequest.still request).Untouched services start := by
  intro input _ upload _ content held
  rwa [check_still] at held

theorem Meanwhile.reached (plain : directory.Plain)
    (located : start.workspace.disk.temporaryDirectory = directory) (idle : start.desk.queue = [])
    (before : Relation.ReflTransGen (Meanwhile directory) start studio) :
    ∃ held, studio.Stocked directory held := by
  induction before with
  | refl =>
    have none : start.waiting = [] := by simp [Studio.waiting, idle]
    refine ⟨fun _ _ => False, ⟨located, plain, fun _ _ absurd => absurd.elim⟩, ?_, ?_⟩
    · simp [none]
    · simp [none]
  | tail _ next ih =>
    obtain ⟨held, stocked⟩ := ih
    obtain ⟨rest, stocked, _⟩ := next.stocked stocked
    exact ⟨rest, stocked⟩

/-- Jobs work on what was submitted. An accepted request is a commission: the contents of its uploads
as they are when it is submitted, and its timeline as it is validated then. Whatever goes on while its
task waits, the worker that takes it fulfils that commission with every turn that it takes: what it
hands over as image, assets, soundtrack and thumbnail holds these contents, it compiles that timeline,
and it publishes the file that it has rendered under the title, the description and the options of the
request. The same is true of a task that is carried out at once. -/
theorem JobRequest.submit_fulfilled (plain : directory.Plain)
    (located : start.workspace.disk.temporaryDirectory = directory) (idle : start.desk.queue = [])
    (before : Relation.ReflTransGen (Meanwhile directory) start studio)
    (discreet : services.Discreet directory)
    (untouched : submission.Untouched services studio.workspace)
    (apart : submission.Apart ((submission.check services).on studio.workspace).2.disk)
    (accepted : (submission.submit services).on studio = (.ok job, last)) :
    ∃ commission task,
      submission.Commissions services studio.workspace studio.workspace.disk commission ∧
      task.job = job ∧
      match studio.desk.schedule with
      | .later => last.desk.queue = studio.desk.queue ++ [task] ∧
          ∀ (worker : Services α) (now : Studio α) (index : Nat), worker.Discreet directory →
            last.Awaits directory task now → now.desk.queue[index]? = some task →
              (Operation.performAt worker index).on now =
                  (Operation.perform worker task).on (now.take index) ∧
                task.Delivers worker commission (now.take index)
      | .atOnce => ∃ entered,
          last.workspace = ((Operation.perform services task).on entered).2.workspace ∧
            task.Delivers services commission entered := by
  obtain ⟨held, stocked⟩ := Meanwhile.reached plain located idle before
  have submitted := submission.submit_submitted discreet stocked
  rw [accepted] at submitted
  cases submitted with
  | @queued task _ more kept embodied later queue stocked =>
    obtain ⟨commission, commissioned, embodies⟩ := embodied apart
    rw [later]
    refine ⟨commission, task, commissioned.congr untouched, rfl, queue, ?_⟩
    intro worker now index silent awaits present
    have waits : task ∈ last.desk.queue := queue ▸ List.mem_append_right _ (List.mem_singleton_self _)
    obtain ⟨_, rest, stocked, embodies⟩ := awaits.embodies waits stocked embodies
    exact ⟨Operation.performAt_some worker present, embodies.delivers silent stocked.guards⟩
  | @performed task entered _ more embodied atOnce guards done _ _ =>
    obtain ⟨commission, commissioned, embodies⟩ := embodied apart
    rw [atOnce]
    exact ⟨commission, task, commissioned.congr untouched, rfl, entered, done,
      embodies.delivers discreet guards⟩

/-- A task that waits alone is still the first one when another job is submitted and a worker carries
out the second one. -/
theorem Studio.awaits_first {gone crowded now : Studio α} {other : JobRequest α}
    (discreet : services.Discreet directory) (stocked : gone.Stocked directory held)
    (alone : gone.desk.queue = [task]) (away : Meanwhile directory studio gone)
    (crowd : ((other.submit services).on gone).2 = crowded)
    (work : ((Operation.performAt services 1).on crowded).2 = now) :
    studio.Awaits directory task now ∧ now.desk.queue[0]? = some task := by
  obtain ⟨more, others⟩ := other.submit_queue discreet stocked
  rw [alone, List.singleton_append, crowd] at others
  have left : now.desk.queue = task :: more.eraseIdx 0 := by
    rw [← work, Operation.performAt_queue, ← others, List.eraseIdx_cons_succ]
  have submitted : Meanwhile directory gone crowded := crowd ▸ .submit other discreet
  have worked : Meanwhile directory crowded now := work ▸ .work 1 discreet
  refine ⟨.tail (.tail (.single ⟨away, ?_⟩) ⟨submitted, ?_⟩) ⟨worked, ?_⟩, ?_⟩
  · rw [alone]
    exact List.mem_cons_self
  · rw [← others]
    exact List.mem_cons_self
  · rw [left]
    exact List.mem_cons_self
  · rw [left, List.getElem?_cons_zero]

end Deliveries

theorem Services.sketch_discreet : Services.sketch.Discreet directory where
  renderStill _ _ _ _ _ spare := Upload.copyTo_guards _ spare.temporary spare.unheld
  renderPlan _ _ _ spare := Upload.copyTo_guards _ spare.temporary spare.unheld
  prober _ _ := Action.keeps_pure _
  publisher := RehearsedPublisher.discreet _

/-- A studio without jobs, with a picture of a caller. -/
def Studio.furnished : Studio Number :=
  { Studio.idle with workspace := { Studio.idle.workspace with
      disk := ⟨[(["tmp"], .directory), (["cover.png"], .file [9])], [], ["tmp"]⟩ } }

/-- The picture of a caller over a soundtrack. -/
def furnishedStill : StillRequest :=
  { sketchStill with image := some (.ofPath (.ofText "/cover.png") (some "image/png")) }

/-- The picture is submitted, and can be taken away without a copy. -/
theorem furnishedStill_accepted :
    ∃ job last, ((JobRequest.still furnishedStill).submit Services.sketch).on Studio.furnished =
        (.ok job, last) ∧
      last.workspace.disk.find "/cover.png" = .ok ["cover.png"] ∧
      (∀ file ∈ last.waiting, ¬["cover.png"] <+: file.names) ∧
      (discard (.ofText "/cover.png") last.workspace).disk.read "/cover.png" = .error .missing := by
  have facts :
      let answer := ((JobRequest.still furnishedStill).submit Services.sketch).on Studio.furnished
      answer.1.isOk = true ∧ answer.2.workspace.disk.find "/cover.png" = .ok ["cover.png"] ∧
        (∀ file ∈ answer.2.waiting, ¬["cover.png"] <+: file.names) ∧
        (discard (.ofText "/cover.png") answer.2.workspace).disk.read "/cover.png" =
          .error .missing := by decide +kernel
  generalize ((JobRequest.still furnishedStill).submit Services.sketch).on Studio.furnished = answer
    at facts ⊢
  obtain ⟨outcome, last⟩ := answer
  obtain ⟨accepted, rest⟩ := facts
  cases outcome with
  | error failure => cases accepted
  | ok job => exact ⟨job, last, rfl, rest⟩

/-- A caller takes a picture away when it has been submitted, another job is submitted, and a worker
carries that one out first. The worker of the picture still renders it. -/
theorem furnishedStill_delivered :
    ∃ job last gone crowded now commission task,
      ((JobRequest.still furnishedStill).submit Services.sketch).on Studio.furnished =
        (.ok job, last) ∧
      gone = { last with workspace := discard (.ofText "/cover.png") last.workspace } ∧
      gone.workspace.disk.read "/cover.png" = .error .missing ∧
      (((JobRequest.still sketchStill).submit Services.sketch).on gone).2 = crowded ∧
      ((Operation.performAt Services.sketch 1).on crowded).2 = now ∧
      commission.subject = .still [9] (.int 5) ∧ now.desk.queue[0]? = some task ∧
      task.Delivers Services.sketch commission (now.take 0) := by
  obtain ⟨job, last, accepted, source, aside, missing⟩ := furnishedStill_accepted
  have plain : Place.Plain ["tmp"] := by decide
  have located : Studio.furnished.workspace.disk.temporaryDirectory = ["tmp"] := rfl
  have idle : Studio.furnished.desk.queue = [] := rfl
  have apart : (JobRequest.still furnishedStill : JobRequest Number).Apart
      (((JobRequest.still furnishedStill).check Services.sketch).on Studio.furnished.workspace).2.disk := by
    rw [JobRequest.check_still]
    intro input member upload present path name file _ found
    rcases List.mem_cons.mp member with rfl | member
    · obtain rfl := Option.some.inj present
      obtain rfl := Source.file.inj file
      have place : Studio.furnished.workspace.disk.find (Path.ofText "/cover.png").text =
          .ok ["cover.png"] := by decide +kernel
      have short : 1 = 2 := congrArg List.length (Except.ok.inj (place.symm.trans found))
      cases short
    rcases List.mem_cons.mp member with rfl | member
    · obtain rfl := Option.some.inj present
      cases file
    · obtain rfl := List.mem_singleton.mp member
      obtain rfl := Option.some.inj present
      cases file
  obtain ⟨commission, task, commissioned, _, queue, fulfilled⟩ :=
    JobRequest.submit_fulfilled plain located idle .refl Services.sketch_discreet
      JobRequest.still_untouched apart accepted
  obtain ⟨gone, taken⟩ : ∃ gone : Studio Number,
      gone = { last with workspace := discard (.ofText "/cover.png") last.workspace } := ⟨_, rfl⟩
  have submit := @Meanwhile.submit _ _ ["tmp"] Studio.furnished _ (.still furnishedStill)
    Services.sketch_discreet
  rw [accepted] at submit
  have away : Meanwhile ["tmp"] last gone := by
    rw [taken]
    refine .discard plain (by decide) fun file member place found => ?_
    obtain rfl := Except.ok.inj (source.symm.trans found)
    exact aside file member
  obtain ⟨held, stocked⟩ := Meanwhile.reached plain located idle (.tail (.single submit) away)
  have alone : gone.desk.queue = [task] := by
    rw [taken]
    exact queue
  have absent : gone.workspace.disk.read "/cover.png" = .error .missing := by
    rw [taken]
    exact missing
  obtain ⟨crowded, crowd⟩ : ∃ crowded,
      (((JobRequest.still sketchStill).submit Services.sketch).on gone).2 = crowded := ⟨_, rfl⟩
  obtain ⟨now, work⟩ : ∃ now,
      ((Operation.performAt Services.sketch 1).on crowded).2 = now := ⟨_, rfl⟩
  obtain ⟨awaits, first⟩ :=
    Studio.awaits_first Services.sketch_discreet stocked alone away crowd work
  obtain ⟨_, delivers⟩ := fulfilled Services.sketch now 0 Services.sketch_discreet awaits first
  refine ⟨job, last, gone, crowded, now, commission, task, accepted, taken, absent, crowd, work, ?_,
    first, delivers⟩
  obtain @⟨_, image, _, duration, _, checked, seen, _, _⟩ := commissioned
  obtain ⟨upload, present, read⟩ := seen
  obtain rfl := Option.some.inj present
  have content : (Upload.ofPath (.ofText "/cover.png") (some "image/png")).content
      Studio.furnished.workspace.disk = .ok [9] := by decide +kernel
  have five : checkDuration furnishedStill.duration = .ok (.int 5) := by decide +kernel
  obtain rfl := Except.ok.inj (read.symm.trans content)
  obtain rfl := Except.ok.inj (checked.symm.trans five)
  rfl

end Montage
