import Montage.Proofs.Job.Inputs

/-! A submission with a malformed upload fails, and enters no job. The copies that were made before the
one that cannot be made are taken away only if it is the system that refuses it. -/

namespace Montage

variable {α β : Type} {origin : Disk}

/-- A required upload is not there, or has neither content nor file, or is to be copied under a name
with a null byte. -/
inductive Input.Malformed (input : Input) : Prop where
  | absent (none : input.upload = none)
  | empty {upload : Upload} (present : input.upload = some upload) (nothing : upload.source = .nothing)
  | unnameable {upload : Upload} (present : input.upload = some upload)
      (null : '\x00' ∈ (input.suffix upload).toList)

section Copying

variable {inputs : List Input} {input : Input} {workspace last : Workspace} {files : List Path}

theorem makeFresh_nullless {purpose suffix : String} {entry : Entry} {path : Path}
    (made : (makeFresh purpose suffix entry).on workspace = (.ok path, last)) :
    '\x00' ∉ suffix.toList := by
  obtain ⟨text, _, fresh, made⟩ := Action.bind_eq_ok.mp made
  obtain ⟨same, rfl⟩ := Prod.mk.inj fresh
  obtain rfl := Except.ok.inj same
  obtain ⟨_, _, checked, _⟩ := Action.bind_eq_ok.mp made
  intro null
  rw [checkPath, if_pos (by simp [null])] at checked
  cases checked

/-- A malformed input is not copied. -/
theorem Input.Malformed.copy_fails (malformed : input.Malformed) (workspace : Workspace)
    (files : List Path) :
    ∃ failure last, input.copy (workspace, files) = (.error failure, last, files) := by
  rcases input.copy_cases workspace files with ⟨upload, path, last, present, staged, _⟩ | failed
  · exfalso
    obtain ⟨middle, made, copy⟩ := stage_ok staged
    cases malformed with
    | absent none => cases none.symm.trans present
    | empty same nothing =>
      obtain rfl := Option.some.inj (same.symm.trans present)
      obtain ⟨_, _, read, _⟩ := Upload.copyTo_eq_ok.mp copy
      rw [Upload.content, nothing] at read
      cases read
    | unnameable same null =>
      obtain rfl := Option.some.inj (same.symm.trans present)
      exact makeFresh_nullless made null
  · exact failed

/-- Induction on the inputs: copying stops at a malformed one at the latest. Nothing is copied if and
only if it stops at the first one. -/
theorem copyInputs_malformed {index : Nat} (found : inputs[index]? = some input)
    (malformed : input.Malformed) (workspace : Workspace) (files : List Path) :
    ∃ failure last made, copyInputs inputs (workspace, files) = (.error failure, last, files ++ made) ∧
      made.length ≤ index ∧
      (made = [] ↔ ∃ first ∈ inputs.head?, ∃ failure,
        (first.copy (workspace, files)).1 = .error failure) := by
  induction inputs generalizing index workspace files with
  | nil => cases found
  | cons first rest ih =>
    rw [copyInputs]
    rcases first.copy_cases workspace files with
      ⟨_, path, middle, _, _, copied⟩ | ⟨failure, last, failed⟩
    · cases index with
      | zero =>
        obtain rfl := Option.some.inj found
        obtain ⟨_, _, failed⟩ := malformed.copy_fails workspace files
        cases copied.symm.trans failed
      | succ index =>
        obtain ⟨failure, last, made, stopped, before, _⟩ := ih found middle (files ++ [path])
        refine ⟨failure, last, path :: made, ?_, Nat.succ_le_succ before, ?_⟩
        · rw [bind_ok copied, stopped, List.append_assoc, List.singleton_append]
        · simp [copied]
    · refine ⟨failure, last, [], ?_, Nat.zero_le _, ?_⟩
      · rw [bind_error failed, List.append_nil]
      · rw [List.head?_cons]
        exact iff_of_true rfl ⟨first, rfl, failure, congrArg Prod.fst failed⟩

end Copying

/-- What is left in the temporary directory when an input cannot be copied: copies of some of the inputs
before it. -/
structure Leaves (origin : Disk) (index : Nat) (last : Disk) (left : List Path) : Prop where
  gains : origin.Gains left last
  there : ∀ file ∈ left, ∃ content, last.Bears origin.temporaryDirectory file content
  before : left.length ≤ index

/-- Nothing is left if and only if the directory is as it was. -/
theorem Leaves.nil_iff {index : Nat} {last : Disk} {left : List Path}
    (plain : origin.temporaryDirectory.Plain) (leaves : Leaves origin index last left) :
    left = [] ↔ origin.Alike last := by
  constructor
  · rintro rfl
    exact Disk.Gains.nil_iff.mp leaves.gains
  · intro alike
    refine List.eq_nil_iff_forall_not_mem.mpr fun file member => ?_
    obtain ⟨content, bears⟩ := leaves.there file member
    have near := (leaves.gains.names_length plain member).le
    cases bears.entry.symm.trans ((alike.same _ near).trans (leaves.gains.new file member).absent)

section Leaving

variable {input : Input} {index : Nat} {workspace : Workspace} {inputs : List Input}

/-- Copying inputs of which one is malformed fails. It leaves nothing if and only if the system refuses
an input, or the first one cannot be copied. -/
theorem Staging.collect_malformed {staging : Staging β} (plain : origin.temporaryDirectory.Plain)
    (alike : origin.Alike workspace.disk) (tracks : staging.Tracks) (follows : staging.Follows inputs)
    (slashless : ∀ input ∈ inputs, input.Plain) (found : inputs[index]? = some input)
    (malformed : input.Malformed) :
    ∃ failure last left, staging.collect.on workspace = (.error failure, last) ∧
      Leaves origin index last.disk left ∧
      (left = [] ↔ (∃ error, failure = .system error) ∨
        ∃ first ∈ inputs.head?, ∃ refusal, (first.copy (workspace, [])).1 = .error refusal) := by
  obtain ⟨failure, last, made, stopped, before, none_iff⟩ :=
    copyInputs_malformed found malformed workspace []
  rw [List.nil_append] at stopped
  have copied : staging (workspace, []) = (.error failure, last, made) := by
    obtain ⟨same, outcome⟩ := follows (workspace, [])
    rw [stopped] at same outcome
    rcases staged : staging (workspace, []) with ⟨refusal | _, reached⟩
    · rw [staged] at same outcome
      obtain rfl := Except.error.inj outcome
      exact congrArg _ same
    · rw [staged] at outcome
      cases outcome
  have gains := (tracks origin [] workspace plain (Disk.Gains.nil_iff.mpr alike)).gains
  rw [copied] at gains
  have guards : workspace.disk.Guards origin.temporaryDirectory fun _ _ => False :=
    ⟨alike.located, plain, nofun⟩
  obtain ⟨copies, more, listed, grows, guarded⟩ := @copyInputs_guards _ inputs workspace [] _ slashless
    guards
  rw [stopped] at guarded listed
  obtain rfl : made = copies := listed
  have there (file : Path) (member : file ∈ made) :
      ∃ content, last.disk.Bears origin.temporaryDirectory file content :=
    (grows.there file member).imp fun content inside => guarded.files file content inside
  by_cases refused : ∃ error, failure = .system error
  · obtain ⟨error, rfl⟩ := refused
    refine ⟨.system error, discardAll made last, [], ?_, ⟨?_, nofun, Nat.zero_le _⟩, ?_⟩
    · rw [Action.on, collect, copied]
    · exact Disk.Gains.nil_iff.mpr (gains.discardAll plain)
    · exact iff_of_true rfl (.inl ⟨error, rfl⟩)
  · refine ⟨failure, last, made, ?_, ⟨gains, there, before⟩, ?_⟩
    · rw [Action.on, collect, copied]
      split <;> simp_all
    · rw [none_iff, or_iff_right refused]

theorem JobRequest.copies_malformed {submission : JobRequest α}
    (plain : origin.temporaryDirectory.Plain) (alike : origin.Alike workspace.disk)
    (found : submission.inputs[index]? = some input) (malformed : input.Malformed) :
    ∃ failure last left, submission.copies.on workspace = (.error failure, last) ∧
      Leaves origin index last.disk left ∧
      (left = [] ↔ (∃ error, failure = .system error) ∨
        ∃ first ∈ submission.inputs.head?, ∃ refusal,
          (first.copy (workspace, [])).1 = .error refusal) := by
  have slashless (input : Input) (member : input ∈ submission.inputs) : input.Plain :=
    inputs_plain member
  cases submission with
  | still request =>
    obtain ⟨failure, last, left, copied, leaves⟩ := Staging.collect_malformed plain alike
      request.copies_track request.copies_follow slashless found malformed
    refine ⟨failure, last, left, ?_, leaves⟩
    rw [copies, Action.on_bind, copied]
  | composition request =>
    obtain ⟨failure, last, left, copied, leaves⟩ := Staging.collect_malformed plain alike
      request.copies_track request.copies_follow slashless found malformed
    refine ⟨failure, last, left, ?_, leaves⟩
    rw [copies, Action.on_bind, copied]

end Leaving

section Submitting

variable [Quantity α] {services : Services α} {studio : Studio α} {submission : JobRequest α}
  {input : Input} {index : Nat}

/-- A submission with a malformed input fails and leaves the books as they were. In the temporary
directory it leaves copies of some inputs before that one, and none at all if and only if a check fails,
the system refuses something, or the first input cannot be copied. -/
theorem JobRequest.malformed_restores_iff (plain : studio.workspace.disk.temporaryDirectory.Plain)
    (harmless : Prober.Harmless services.prober)
    (found : submission.inputs[index]? = some input) (malformed : input.Malformed) :
    let answer := (submission.submit services).on studio
    let (checked, start) := (submission.check services).on studio.workspace
    ∃ failure left, answer.1 = .error failure ∧ answer.2.desk = studio.desk ∧
      Leaves studio.workspace.disk index answer.2.workspace.disk left ∧
      (studio.workspace.disk.Alike answer.2.workspace.disk ↔
        (∃ refusal, checked = .error refusal) ∨ (∃ error, failure = .system error) ∨
          ∃ first ∈ submission.inputs.head?, ∃ refusal,
            (first.copy (start, [])).1 = .error refusal) := by
  intro answer
  have alike := submission.check_keeps (harmless.keeps plain) studio.workspace (.refl _)
  rcases outcome : (submission.check services).on studio.workspace with ⟨failure | _, start⟩
  · rw [outcome] at alike
    have done : answer = _ := submit_unchecked outcome
    rw [done]
    refine ⟨failure, [], rfl, rfl, ⟨Disk.Gains.nil_iff.mpr alike, nofun, Nat.zero_le _⟩, ?_⟩
    exact iff_of_true alike (.inl ⟨failure, rfl⟩)
  · rw [outcome] at alike
    obtain ⟨failure, last, left, copied, leaves, none_iff⟩ :=
      copies_malformed plain alike found malformed
    have unprepared : (submission.prepare services).on studio.workspace = (.error failure, last) := by
      rw [prepare, Action.on_bind, outcome]
      exact copied
    have done : answer = _ := submit_unprepared unprepared
    rw [done]
    refine ⟨failure, left, rfl, rfl, leaves, ?_⟩
    have passed : ¬∃ refusal, (Except.ok () : Except Failure Unit) = .error refusal := by
      rintro ⟨refusal, impossible⟩
      cases impossible
    rw [← leaves.nil_iff plain, none_iff, or_iff_right passed]

end Submitting

/-- A request whose soundtrack has neither content nor file. -/
def silentStill : StillRequest :=
  { sketchStill with audio := some ⟨none, none, .nothing⟩ }

/-- The picture was copied before the soundtrack could not be, and its copy stays. -/
theorem silentStill_leaves :
    let submission : JobRequest Number := .still silentStill
    let answer := (submission.submit Services.sketch).on Studio.idle
    (∃ input ∈ submission.inputs, input.Malformed) ∧ answer.1.isOk = false ∧
      ¬Studio.idle.workspace.disk.Alike answer.2.workspace.disk := by
  intro submission answer
  refine ⟨⟨⟨silentStill.audio, "audio-", audioSuffix⟩, ?_, ?_⟩, ?_, ?_⟩
  · exact List.mem_cons_of_mem _ List.mem_cons_self
  · exact .empty rfl rfl
  · decide +kernel
  · intro alike
    have copy : (answer.2.workspace.disk.entry? ["tmp", "media-factory-image-1.png"]).isSome := by
      decide +kernel
    rw [alike.same _ (by decide)] at copy
    cases copy

/-- A request with a picture whose name holds a null byte. -/
def nullStill : StillRequest :=
  { sketchStill with image := some (.ofBytes [1] none (some "a.b\x00")) }

/-- The first input could not be copied, so nothing is left. -/
theorem nullStill_restored :
    let submission : JobRequest Number := .still nullStill
    let answer := (submission.submit Services.sketch).on Studio.idle
    answer.2.desk = Studio.idle.desk ∧
      Studio.idle.workspace.disk.Alike answer.2.workspace.disk := by
  intro submission answer
  have plain : Studio.idle.workspace.disk.temporaryDirectory.Plain := by decide
  have harmless : Prober.Harmless Services.sketch.prober := .other fun _ _ => .refl _
  let image : Input := ⟨nullStill.image, "image-", assetSuffix⟩
  have found : submission.inputs[0]? = some image := rfl
  have malformed : image.Malformed := .unnameable rfl (by decide)
  obtain ⟨failure, left, _, desk, _, restored⟩ :=
    JobRequest.malformed_restores_iff plain harmless found malformed
  obtain ⟨refusal, _, uncopied⟩ := malformed.copy_fails Studio.idle.workspace []
  exact ⟨desk, restored.mpr (.inr (.inr ⟨image, rfl, refusal, congrArg Prod.fst uncopied⟩))⟩

end Montage
