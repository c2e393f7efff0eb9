import Montage.Proofs.Job.Inputs

/-! Copies stay in the temporary directory, under names that start as those of temporary files do: no
name and no media type that comes with a file can lead elsewhere. -/

namespace Montage

variable {α β : Type} {origin middle disk after : Disk} {allowed more : String → Prop} {place : Place}
  {name purpose suffix : String} {path : Path} {workspace start begun last : Workspace} {upload : Upload}
  {inputs : List Input} {input : Input} {files made : List Path}

/-- A dot and what follows it, in a single name. -/
structure ProperSuffix (suffix : String) : Prop where
  dotted : suffix.toList.head? = some '.'
  long : 2 ≤ suffix.length
  slashless : '/' ∉ suffix.toList

instance (suffix : String) : Decidable (ProperSuffix suffix) :=
  decidable_of_iff (suffix.toList.head? = some '.' ∧ 2 ≤ suffix.length ∧ '/' ∉ suffix.toList)
    ⟨fun ⟨dotted, long, slashless⟩ => ⟨dotted, long, slashless⟩,
      fun proper => ⟨proper.dotted, proper.long, proper.slashless⟩⟩

theorem Path.suffixOf_dotted (long : 1 < (suffixOf name).length) :
    (suffixOf name).toList.head? = some '.' := by
  dsimp only [suffixOf] at long ⊢
  split
  · rw [String.toList_ofList, List.head?_cons]
  · rename_i plain
    rw [if_neg plain] at long
    cases long

/-- A suffix is that of the name that came with a file only if there is something after its dot. -/
theorem assetSuffix_proper (upload : Upload) : ProperSuffix (assetSuffix upload) := by
  have slashless := assetSuffix_slashless upload
  dsimp only [assetSuffix] at slashless ⊢
  split
  · rename_i long
    rw [if_pos long] at slashless
    cases given : upload.filename with
    | none => simp [given] at long
    | some filename =>
      rw [given, Option.map_some, Option.getD_some, Path.suffix] at long slashless
      rw [Option.map_some, Option.getD_some, Path.suffix]
      exact ⟨Path.suffixOf_dotted long, Nat.succ_le_of_lt long, slashless⟩
  · exact @suffixFor_of ProperSuffix _ _ _ (by decide) (by decide)

/-- A name that the copies for a purpose can have. -/
def NamedFor (purpose name : String) : Prop := (temporaryStart ++ purpose).toList <+: name.toList

/-- The path of a copy: that of an entry of a directory, with a name for a purpose and a suffix. -/
structure Path.IsCopy (directory : Place) (purpose suffix : String) (path : Path) : Prop where
  temporary : path.Temporary directory
  names : path.names = directory ++ [path.name]
  start : NamedFor purpose path.name
  ending : suffix.toList <:+ path.name.toList

theorem Path.IsCopy.of_fresh {directory : Place} {number : Nat} (plain : directory.Plain)
    (fresh : name = temporaryStart ++ purpose ++ digitsOf number ++ suffix)
    (temporary : TemporaryName name) :
    (Path.ofText (directory.textOf name)).IsCopy directory purpose suffix := by
  obtain ⟨made, same⟩ := Path.temporary_ofText plain temporary
  refine ⟨made, made.names_eq plain, ?_, ?_⟩
  · rw [NamedFor, same, fresh, String.append_assoc]
    simp only [String.toList_append]
    exact List.prefix_append ..
  · rw [same, fresh, String.toList_append]
    exact List.suffix_append ..

/-- A place at some name of the temporary directory, or below it, where nothing is yet. -/
def Disk.Spare (allowed : String → Prop) (disk : Disk) (place : Place) : Prop :=
  ∃ name, allowed name ∧ disk.entry? (disk.temporaryDirectory ++ [name]) = none ∧
    disk.temporaryDirectory ++ [name] <+: place

/-- A disk before and after changes under some free names of its temporary directory. -/
structure Disk.Confined (allowed : String → Prop) (before after : Disk) : Prop where
  located : after.temporaryDirectory = before.temporaryDirectory
  entries : ∀ place, ¬before.Spare allowed place → after.entry? place = before.entry? place

namespace Disk.Confined

theorem refl (disk : Disk) : disk.Confined allowed disk := ⟨rfl, fun _ _ => rfl⟩

theorem mono (confined : origin.Confined allowed disk) (all : ∀ name, allowed name → more name) :
    origin.Confined more disk :=
  ⟨confined.located, fun place kept => confined.entries place fun ⟨name, own, free, inside⟩ =>
    kept ⟨name, all name own, free, inside⟩⟩

/-- What is under a name of the directory stays there. -/
theorem kept {entry : Entry} (confined : origin.Confined allowed disk)
    (there : origin.entry? (origin.temporaryDirectory ++ [name]) = some entry) :
    disk.entry? (origin.temporaryDirectory ++ [name]) = some entry := by
  rw [confined.entries, there]
  rintro ⟨other, _, free, inside⟩
  have same : other = name := by simpa using (List.prefix_append_right_inj _).mp inside
  cases free.symm.trans (same ▸ there)

/-- A name that is free was free. -/
theorem free (confined : origin.Confined allowed disk)
    (absent : disk.entry? (origin.temporaryDirectory ++ [name]) = none) :
    origin.entry? (origin.temporaryDirectory ++ [name]) = none := by
  cases there : origin.entry? (origin.temporaryDirectory ++ [name]) with
  | none => rfl
  | some entry => cases absent.symm.trans (confined.kept there)

theorem trans (first : origin.Confined allowed middle) (later : middle.Confined allowed after) :
    origin.Confined allowed after where
  located := later.located.trans first.located
  entries place kept := by
    rw [later.entries place, first.entries place kept]
    rintro ⟨name, own, free, inside⟩
    rw [first.located] at free inside
    exact kept ⟨name, own, first.free free, inside⟩

section Step

variable (own : allowed name) (free : origin.entry? (origin.temporaryDirectory ++ [name]) = none)

include own free

theorem put (confined : origin.Confined allowed disk) (entry : Entry) :
    origin.Confined allowed (disk.put (origin.temporaryDirectory ++ [name]) entry) where
  located := put_temporaryDirectory.trans confined.located
  entries place kept := by
    rw [entry_put (by simp), if_neg, confined.entries place kept]
    rintro rfl
    exact kept ⟨name, own, free, List.prefix_rfl⟩

theorem drop (confined : origin.Confined allowed disk) :
    origin.Confined allowed (disk.drop (origin.temporaryDirectory ++ [name])) where
  located := confined.located
  entries place kept := by
    rw [entry_drop (by simp), if_neg fun inside => kept ⟨name, own, free, inside⟩,
      confined.entries place kept]

end Step

/-- Taking a temporary file away changes nothing but what is under its name. -/
theorem discard (plain : origin.temporaryDirectory.Plain)
    (confined : origin.Confined allowed workspace.disk)
    (temporary : path.Temporary origin.temporaryDirectory) (own : allowed path.name)
    (free : origin.entry? path.names = none) :
    origin.Confined allowed (Montage.discard path workspace).disk := by
  have names := temporary.names_eq plain
  have deep : path.names.isEmpty = false := by simp [names]
  rw [names] at free
  rw [Montage.discard, Disk.remove, temporary.text_eq plain]
  split
  · rename_i found
    obtain rfl := Holds.find_place plain temporary.name found
    split
    · exact confined
    · rw [if_neg (by simp [deep])]
      exact confined.drop own free
  · exact confined

end Disk.Confined

/-- What a copy comes to. If it is made, it is a file where nothing was, and all else stays; if not,
nothing but what is under free names for the purpose can have changed. -/
inductive CopyMade (purpose suffix : String) (start : Workspace) :
    Except Failure Path → Workspace → Prop where
  | made {path : Path} {last : Workspace} {content : Bytes}
      (copy : path.IsCopy start.disk.temporaryDirectory purpose suffix)
      (free : start.disk.entry? path.names = none)
      (there : last.disk.entry? path.names = some (.file content))
      (located : last.disk.temporaryDirectory = start.disk.temporaryDirectory)
      (others : ∀ place ≠ path.names, last.disk.entry? place = start.disk.entry? place) :
      CopyMade purpose suffix start (.ok path) last
  | lost {failure : Failure} {last : Workspace}
      (confined : start.disk.Confined (NamedFor purpose) last.disk) :
      CopyMade purpose suffix start (.error failure) last

theorem CopyMade.confined {outcome : Except Failure Path}
    (made : CopyMade purpose suffix start outcome last) :
    start.disk.Confined (NamedFor purpose) last.disk := by
  cases made with
  | lost confined => exact confined
  | made copy free there located others =>
    refine ⟨located, fun place kept => others place ?_⟩
    rintro rfl
    rw [copy.names] at free kept
    exact kept ⟨_, copy.start, free, List.prefix_rfl⟩

/-- A copy that fails leaves what it was to be written over as it is. -/
theorem Upload.copyTo_lost {failure : Failure}
    (failed : (upload.copyTo path).on start = (.error failure, last)) : last = start := by
  rw [copyTo, Action.on_bind, Action.on_look] at failed
  cases read : upload.content start.disk with
  | error refusal =>
    rw [read] at failed
    exact (Prod.mk.inj failed).2.symm
  | ok content =>
    rw [read] at failed
    dsimp only at failed
    rw [Action.on, Action.change] at failed
    split at failed
    · cases failed
    · exact (Prod.mk.inj failed).2.symm

section Staging

variable (plain : start.disk.temporaryDirectory.Plain)

include plain

/-- What is made under a name and then copied over holds the copy. -/
theorem CopyMade.of_written
    (copy : path.IsCopy start.disk.temporaryDirectory purpose suffix)
    (free : start.disk.entry? path.names = none)
    (disk : begun.disk = start.disk.put path.names (.file []))
    (copied : (upload.copyTo path).on begun = (.ok (), last)) :
    CopyMade purpose suffix start (.ok path) last := by
  obtain ⟨content, _, _, written, rfl⟩ := Upload.copyTo_eq_ok.mp copied
  obtain ⟨place, found, _, rfl⟩ := Disk.write_eq_ok.mp written
  have below : path.names ≠ [] := by simp [copy.names]
  rw [copy.temporary.text_eq plain] at found
  obtain rfl := Disk.Holds.find_place plain copy.temporary.name found
  rw [disk, ← copy.names] at written ⊢
  exact @CopyMade.made _ _ _ _ _ content copy free (by simp [Disk.entry_put below])
    (by simp) fun place apart => by simp [Disk.entry_put below, apart]

/-- Making one copy. -/
theorem stage_made (upload : Upload) (purposePlain : '/' ∉ purpose.toList)
    (suffixPlain : '/' ∉ suffix.toList) :
    CopyMade purpose suffix start ((stage upload purpose suffix).on start).1
      ((stage upload purpose suffix).on start).2 := by
  rw [stage, Action.on_bind]
  rcases make : (makeFresh purpose suffix (.file [])).on start with ⟨failure | path, begun⟩
  · have makes := @makeFresh_makes start.disk.temporaryDirectory purpose suffix (· = start.disk)
      (.file []) (fun _ same => same ▸ rfl) purposePlain suffixPlain start rfl
    rw [make] at makes
    obtain _ | ⟨_, same⟩ := makes
    exact .lost (same ▸ .refl _)
  obtain ⟨name, fresh, temporary, same, absent, _, whole⟩ :=
    makeFresh_ok plain purposePlain suffixPlain make
  have copy : path.IsCopy start.disk.temporaryDirectory purpose suffix :=
    same ▸ Path.IsCopy.of_fresh plain fresh temporary
  have named : path.name = name := same ▸ (Path.temporary_ofText plain temporary).2
  have disk : begun.disk = start.disk.put path.names (.file []) := by rw [whole, copy.names, named]
  rw [← named] at absent
  dsimp only
  rw [Action.on_bind, Action.on_attempt]
  rcases copied : (upload.copyTo path).on begun with ⟨failure | _, last⟩
  · obtain rfl := Upload.copyTo_lost copied
    have grown := (Disk.Confined.refl start.disk).put copy.start absent (.file [])
    rw [← copy.names, ← disk] at grown
    exact .lost (grown.discard plain copy.temporary copy.start (copy.names ▸ absent))
  · exact .of_written plain copy (copy.names ▸ absent) disk copied

end Staging

/-- A name that a copy of one of the inputs can have. -/
def NamedAmong (inputs : List Input) (name : String) : Prop :=
  ∃ input ∈ inputs, NamedFor input.purpose name

/-- The copy of an input: a file where nothing was before. -/
structure Input.IsCopied (before after : Disk) (input : Input) (path : Path) : Prop where
  copy : ∃ upload ∈ input.upload,
    path.IsCopy before.temporaryDirectory input.purpose (input.suffix upload)
  free : before.entry? path.names = none
  there : ∃ content, after.entry? path.names = some (.file content)

namespace Input.IsCopied

theorem names (copied : input.IsCopied origin disk path) :
    path.names = origin.temporaryDirectory ++ [path.name] :=
  copied.copy.elim fun _ copy => copy.2.names

/-- What is free later was free before. -/
theorem earlier (confined : origin.Confined allowed middle) (copied : input.IsCopied middle disk path) :
    input.IsCopied origin disk path where
  copy := confined.located ▸ copied.copy
  free := by
    have free := copied.free
    rw [copied.names, confined.located] at free ⊢
    exact confined.free free
  there := copied.there

/-- A copy stays where it is. -/
theorem later (located : middle.temporaryDirectory = origin.temporaryDirectory)
    (confined : middle.Confined allowed disk) (copied : input.IsCopied origin middle path) :
    input.IsCopied origin disk path where
  copy := copied.copy
  free := copied.free
  there := by
    obtain ⟨content, there⟩ := copied.there
    rw [copied.names, ← located] at there ⊢
    exact ⟨content, confined.kept there⟩

end Input.IsCopied

section Copying

variable (plain : workspace.disk.temporaryDirectory.Plain)

include plain

/-- The copy of an input is made and listed, or nothing is. -/
theorem Input.copy_made (inputPlain : input.Plain) (files : List Path) :
    ∃ last, workspace.disk.Confined (NamedFor input.purpose) last.disk ∧
      ((∃ path, input.copy (workspace, files) = (.ok path, last, files ++ [path]) ∧
        input.IsCopied workspace.disk last.disk path) ∨
      ∃ failure, input.copy (workspace, files) = (.error failure, last, files)) := by
  cases present : input.upload with
  | none => exact ⟨workspace, .refl _, .inr ⟨_, copy_absent present⟩⟩
  | some upload =>
    have made := stage_made plain upload inputPlain.purpose (inputPlain.suffix upload)
    rcases staged : (stage upload input.purpose (input.suffix upload)).on workspace with
      ⟨failure | path, last⟩
    · rw [staged] at made
      exact ⟨last, made.confined, .inr ⟨failure, copy_error present staged⟩⟩
    · rw [staged] at made
      refine ⟨last, made.confined, .inl ⟨path, copy_ok present staged, ?_⟩⟩
      obtain ⟨copy, free, there, _, _⟩ | _ := made
      exact ⟨⟨upload, present, copy⟩, free, _, there⟩

/-- Induction on the inputs: they are copied in order up to the first for which that fails. -/
theorem copyInputs_made (inputsPlain : ∀ input ∈ inputs, input.Plain) (files : List Path) :
    ∃ outcome last done made,
      copyInputs inputs (workspace, files) = (outcome, last, files ++ made) ∧
      workspace.disk.Confined (NamedAmong inputs) last.disk ∧ done <+: inputs ∧
      List.Forall₂ (Input.IsCopied workspace.disk last.disk) done made ∧
      (outcome = .ok () → done = inputs) := by
  induction inputs generalizing workspace files with
  | nil =>
    exact ⟨.ok (), workspace, [], [], by rw [List.append_nil]; rfl, .refl _, List.prefix_rfl, .nil,
      fun _ => rfl⟩
  | cons first rest ih =>
    obtain ⟨here, later⟩ := List.forall_mem_cons.mp inputsPlain
    have own (name : String) (allowed : NamedFor first.purpose name) :
        NamedAmong (first :: rest) name := ⟨first, List.mem_cons_self, allowed⟩
    have other (name : String) : NamedAmong rest name → NamedAmong (first :: rest) name := by
      rintro ⟨input, member, allowed⟩
      exact ⟨input, List.mem_cons_of_mem first member, allowed⟩
    obtain ⟨middle, confined, ⟨path, copied, made⟩ | ⟨failure, failed⟩⟩ :=
      first.copy_made plain here files
    · obtain ⟨outcome, last, done, more, listed, changed, copies, each, all⟩ :=
        ih (confined.located ▸ plain) later (files ++ [path])
      refine ⟨outcome, last, first :: done, path :: more, ?_,
        (confined.mono own).trans (changed.mono other), List.cons_prefix_cons.mpr ⟨rfl, copies⟩,
        .cons (made.later confined.located changed) (each.imp fun _ _ copied => copied.earlier confined),
        fun done => congrArg (first :: ·) (all done)⟩
      rw [copyInputs, bind_ok copied, listed, List.append_assoc, List.singleton_append]
    · refine ⟨.error failure, middle, [], [], ?_, confined.mono own, List.nil_prefix, .nil, ?_⟩
      · rw [copyInputs, bind_error failed, List.append_nil]
      · rintro ⟨⟩

end Copying

/-- What the copies of inputs come to. If all are made, they are files where nothing was; if not, nothing
but what is under free names for the inputs can have changed. -/
inductive CopiesMade (inputs : List Input) (start : Workspace) :
    Except Failure (List Path) → Workspace → Prop where
  | made {paths : List Path} {last : Workspace}
      (copies : List.Forall₂ (Input.IsCopied start.disk last.disk) inputs paths)
      (confined : start.disk.Confined (NamedAmong inputs) last.disk) :
      CopiesMade inputs start (.ok paths) last
  | lost {failure : Failure} {last : Workspace}
      (confined : start.disk.Confined (NamedAmong inputs) last.disk) :
      CopiesMade inputs start (.error failure) last

namespace CopiesMade

variable (plain : start.disk.temporaryDirectory.Plain)

include plain

/-- Copies that were made are taken away again. -/
theorem confined_discardAll {done : List Input}
    (confined : start.disk.Confined (NamedAmong inputs) workspace.disk)
    (within : ∀ input ∈ done, input ∈ inputs)
    (copies : List.Forall₂ (Input.IsCopied start.disk disk) done made) :
    start.disk.Confined (NamedAmong inputs) (discardAll made workspace).disk := by
  induction copies generalizing workspace with
  | nil => exact confined
  | cons copied _ ih =>
    obtain ⟨here, later⟩ := List.forall_mem_cons.mp within
    obtain ⟨_, _, copy⟩ := copied.copy
    exact ih (confined.discard plain copy.temporary ⟨_, here, copy.start⟩ copied.free) later

/-- The copies that are made of the inputs of a request. -/
theorem of_collect {staging : Staging β} (follows : staging.Follows inputs)
    (inputsPlain : ∀ input ∈ inputs, input.Plain) :
    let listing : Action (List Path) := do return (← staging.collect).2
    CopiesMade inputs start (listing.on start).1 (listing.on start).2 := by
  obtain ⟨outcome, last, done, made, copied, confined, within, copies, all⟩ :=
    copyInputs_made plain inputsPlain []
  obtain ⟨same, result⟩ := follows (start, [])
  rw [copied] at same result
  dsimp only
  rw [Action.on_bind, Action.on, Staging.collect]
  rcases taken : staging (start, []) with ⟨failure | found, state⟩
  · rw [taken] at same
    obtain rfl := same
    cases failure with
    | system error =>
      exact .lost (confined_discardAll plain confined (fun _ member => within.subset member) copies)
    | _ => exact .lost confined
  · rw [taken] at same result
    obtain rfl := same
    obtain rfl := all result.symm
    exact .made copies confined

end CopiesMade

/-- The copies that are made for a submission. -/
theorem JobRequest.copies_made (submission : JobRequest α)
    (plain : start.disk.temporaryDirectory.Plain) :
    CopiesMade submission.inputs start (submission.copies.on start).1 (submission.copies.on start).2 := by
  have slashless (input : Input) (member : input ∈ submission.inputs) : input.Plain :=
    inputs_plain member
  cases submission with
  | still request => exact .of_collect plain request.copies_follow slashless
  | composition request => exact .of_collect plain request.copies_follow slashless

/-- The suffix of a copy is a dot and more, in a single name, whatever name and media type came with
the file. A copy for any purpose is then an entry of the temporary directory whose name starts as all
temporary names for the purpose do, and nothing else has changed; and so it is with all copies that are
made for a submission. -/
theorem copies_stay :
    (∀ upload, ProperSuffix (assetSuffix upload)) ∧
    ∀ start : Workspace, start.disk.temporaryDirectory.Plain →
      (∀ upload purpose, '/' ∉ purpose.toList →
        let staging := stage upload purpose (assetSuffix upload)
        CopyMade purpose (assetSuffix upload) start (staging.on start).1 (staging.on start).2) ∧
      ∀ (α : Type) (submission : JobRequest α),
        CopiesMade submission.inputs start (submission.copies.on start).1
          (submission.copies.on start).2 :=
  ⟨assetSuffix_proper, fun _ plain =>
    ⟨fun upload _ purposePlain => stage_made plain upload purposePlain (assetSuffix_slashless upload),
      fun _ submission => submission.copies_made plain⟩⟩

/-- A file whose sender gave it a name that leads out of any directory. -/
def strayUpload : Upload := .ofBytes [1] none "../a./../../.x/b..c/."

/-- A workspace in which some names have been given to temporary files. -/
def tidyWorkspace (names : Nat) (files : List (Place × Entry)) : Workspace :=
  ⟨⟨(["tmp"], .directory) :: files, [], ["tmp"]⟩, names, 0, 0, []⟩

theorem strayUpload_stays :
    CopyMade "probe-" ".c" (tidyWorkspace 0 []) (.ok ⟨"/", ["tmp", "media-factory-probe-1.c"]⟩)
      (tidyWorkspace 1 [(["tmp", "media-factory-probe-1.c"], .file [1])]) := by
  have made := (copies_stay.2 (tidyWorkspace 0 []) (by decide)).1 strayUpload "probe-" (by decide)
  have suffix : assetSuffix strayUpload = ".c" := by decide
  have staged : (stage strayUpload "probe-" ".c").on (tidyWorkspace 0 []) =
      (.ok ⟨"/", ["tmp", "media-factory-probe-1.c"]⟩,
        tidyWorkspace 1 [(["tmp", "media-factory-probe-1.c"], .file [1])]) := rfl
  dsimp only at made
  rwa [suffix, staged] at made

end Montage
