import Montage.Proofs.File.Beside
import Montage.Proofs.File.Restored

/-! What temporary files hold stays what it is, whatever is made, written and taken away beside them. -/

namespace Montage

/-- Which files hold which contents. -/
abbrev Holding := Path → Bytes → Prop

namespace Holding

/-- One more file. -/
def add (held : Holding) (file : Path) (content : Bytes) : Holding := fun other found =>
  held other found ∨ (other = file ∧ found = content)

/-- All but some files. -/
def without (held : Holding) (files : List Path) : Holding := fun file content =>
  held file content ∧ file ∉ files

/-- What is held by some files. -/
def within (held : Holding) (files : List Path) : Holding := fun file content =>
  held file content ∧ file ∈ files

/-- A temporary file of which nothing is to be kept. -/
structure Spares (directory : Place) (held : Holding) (file : Path) : Prop where
  temporary : file.Temporary directory
  unheld : ∀ content, ¬held file content

/-- More files hold something, each of them once. -/
structure Grows (held more : Holding) (files : List Path) : Prop where
  kept : ∀ file content, held file content → more file content
  there : ∀ file ∈ files, ∃ content, more file content
  new : ∀ file ∈ files, ∀ content, ¬held file content
  distinct : files.Nodup

theorem Grows.refl (held : Holding) : held.Grows held [] :=
  ⟨fun _ _ => id, nofun, nofun, List.nodup_nil⟩

theorem Grows.cons {held more : Holding} {file : Path} {content : Bytes} {files : List Path}
    (unheld : ∀ found, ¬held file found) (grows : (held.add file content).Grows more files) :
    held.Grows more (file :: files) where
  kept other found inside := grows.kept other found (.inl inside)
  there := List.forall_mem_cons.mpr ⟨⟨content, grows.kept file content (.inr ⟨rfl, rfl⟩)⟩, grows.there⟩
  new := List.forall_mem_cons.mpr
    ⟨unheld, fun other member found inside => grows.new other member found (.inl inside)⟩
  distinct := List.nodup_cons.mpr
    ⟨fun member => grows.new file member content (.inr ⟨rfl, rfl⟩), grows.distinct⟩

end Holding

/-- A temporary file holds a content, and its path leads to it. -/
structure Disk.Bears (directory : Place) (disk : Disk) (file : Path) (content : Bytes) : Prop where
  temporary : file.Temporary directory
  reached : disk.find file.text = .ok file.names
  entry : disk.entry? file.names = some (.file content)

/-- The temporary directory is where it is, and files in it hold what they hold. -/
structure Disk.Guards (directory : Place) (held : Holding) (disk : Disk) : Prop where
  located : disk.temporaryDirectory = directory
  plain : directory.Plain
  files : ∀ file content, held file content → disk.Bears directory file content

variable {directory : Place} {held more : Holding} {disk last : Disk} {file other : Path}
  {content : Bytes} {name : String}

namespace Disk

theorem Bears.read (bears : disk.Bears directory file content) : disk.read file.text = .ok content := by
  simp [Disk.read, status, bears.reached, bears.entry, bind, Except.bind]

/-- A file holds one content. -/
theorem Bears.unique {found : Bytes} (bears : disk.Bears directory file content)
    (also : disk.Bears directory file found) : content = found :=
  Entry.file.inj (Option.some.inj (bears.entry.symm.trans also.entry))

/-- A file holds what it held if nothing on the way to it has changed. -/
theorem Bears.congr (bears : disk.Bears directory file content) (plain : directory.Plain)
    (same : ∀ upper : Place, upper <+: file.names → last.entry? upper = disk.entry? upper) :
    last.Bears directory file content where
  temporary := bears.temporary
  entry := (same file.names List.prefix_rfl).trans bears.entry
  reached := by
    have named := bears.temporary.name
    have reached := bears.reached
    rw [bears.temporary.text_eq plain] at reached ⊢
    refine find_under plain named.plain (fun upper near => same upper ?_) reached
    rw [bears.temporary.names_eq plain]
    exact near.trans (List.prefix_append directory _)

namespace Guards

theorem mono (guards : disk.Guards directory held)
    (fewer : ∀ file content, more file content → held file content) : disk.Guards directory more :=
  ⟨guards.located, guards.plain, fun file content inside =>
    guards.files file content (fewer file content inside)⟩

theorem add_iff :
    disk.Guards directory (held.add file content) ↔
      disk.Guards directory held ∧ disk.Bears directory file content := by
  constructor
  · intro guards
    exact ⟨guards.mono fun _ _ => .inl, guards.files file content (.inr ⟨rfl, rfl⟩)⟩
  · rintro ⟨guards, bears⟩
    refine ⟨guards.located, guards.plain, ?_⟩
    rintro other found (inside | ⟨rfl, rfl⟩)
    · exact guards.files other found inside
    · exact bears

/-- Where there is nothing, no file holds anything. -/
theorem absent (guards : disk.Guards directory held) (gone : disk.entry? file.names = none) :
    ∀ content, ¬held file content := by
  intro content inside
  cases (guards.files file content inside).entry.symm.trans gone

theorem names_below (guards : disk.Guards directory held) (temporary : file.Temporary directory) :
    file.names ≠ [] := by
  rw [temporary.names_eq guards.plain]
  simp

theorem text_eq (guards : disk.Guards directory held) (temporary : file.Temporary directory) :
    file.text = directory.textOf file.name :=
  temporary.text_eq guards.plain

/-- Two temporary files at one place are the same. -/
theorem apart (guards : disk.Guards directory held) (temporary : file.Temporary directory)
    (otherTemporary : other.Temporary directory) (differ : file ≠ other) :
    file.names ≠ other.names := by
  intro same
  rw [temporary.names_eq guards.plain, otherTemporary.names_eq guards.plain] at same
  have name : file.name = other.name := by simpa using same
  exact differ (by rw [temporary.written, otherTemporary.written, name])

/-- What is above the files and at their places is the same. -/
theorem congr (guards : disk.Guards directory held)
    (located : last.temporaryDirectory = disk.temporaryDirectory)
    (above : ∀ place : Place, place.length < directory.length + 1 →
      last.entry? place = disk.entry? place)
    (same : ∀ file content, held file content →
      last.entry? file.names = disk.entry? file.names) : last.Guards directory held where
  located := located.trans guards.located
  plain := guards.plain
  files file content inside := by
    obtain ⟨temporary, reached, entry⟩ := guards.files file content inside
    refine ⟨temporary, ?_, (same file content inside).trans entry⟩
    rw [guards.text_eq temporary] at reached ⊢
    rw [Holds.find_congr guards.plain temporary.name above, reached]

/-- Something is put where another temporary path leads. -/
theorem put (guards : disk.Guards directory held) (entry : Entry)
    (unheld : ∀ file content, held file content → file.names ≠ directory ++ [name]) :
    (disk.put (directory ++ [name]) entry).Guards directory held := by
  have below : directory ++ [name] ≠ [] := by simp
  refine guards.congr put_temporaryDirectory (fun place short => ?_) fun file content inside => ?_
  · rw [entry_put below, if_neg]
    rintro rfl
    simp at short
  · rw [entry_put below, if_neg (unheld file content inside)]

theorem create {entry : Entry} (guards : disk.Guards directory held) (temporary : TemporaryName name)
    (created : disk.create (directory.textOf name) entry = .ok last) :
    last.Guards directory held := by
  obtain ⟨place, found, free, rfl⟩ := create_eq_ok.mp created
  obtain rfl := Holds.find_place guards.plain temporary found
  refine guards.put entry fun file content inside same => ?_
  exact guards.absent (same ▸ free) content inside

/-- A file that is made with a content holds it. -/
theorem create_file (guards : disk.Guards directory held) (temporary : TemporaryName name)
    (created : disk.create (directory.textOf name) (.file content) = .ok last) :
    last.Bears directory (.ofText (directory.textOf name)) content := by
  have below : directory ++ [name] ≠ [] := by simp
  obtain ⟨made, named⟩ := Path.temporary_ofText guards.plain temporary
  obtain ⟨place, found, free, rfl⟩ := create_eq_ok.mp created
  obtain rfl := Holds.find_place guards.plain temporary found
  refine ⟨made, ?_, ?_⟩
  · rw [made.text_eq guards.plain, made.names_eq guards.plain, named, ← found]
    refine Holds.find_congr guards.plain temporary fun place short => ?_
    rw [entry_put below, if_neg]
    rintro rfl
    simp at short
  · rw [made.names_eq guards.plain, named, entry_put below, if_pos rfl]

theorem write (guards : disk.Guards directory held) (temporary : file.Temporary directory)
    (unheld : ∀ found, ¬held file found) (written : disk.write file.text content = .ok last) :
    last.Guards directory held := by
  rw [guards.text_eq temporary] at written
  obtain ⟨place, found, _, rfl⟩ := write_eq_ok.mp written
  obtain rfl := Holds.find_place guards.plain temporary.name found
  refine guards.put (.file content) fun other found inside same => ?_
  by_cases own : other = file
  · exact unheld found (own ▸ inside)
  · refine guards.apart (guards.files other found inside).temporary temporary own ?_
    rw [same, temporary.names_eq guards.plain]

/-- A file that is written holds what was written. -/
theorem write_own (guards : disk.Guards directory held) (temporary : file.Temporary directory)
    (written : disk.write file.text content = .ok last) : last.Bears directory file content := by
  have below := guards.names_below temporary
  have text := guards.text_eq temporary
  have names := temporary.names_eq guards.plain
  rw [text] at written
  obtain ⟨place, found, _, rfl⟩ := write_eq_ok.mp written
  obtain rfl := Holds.find_place guards.plain temporary.name found
  rw [names] at below
  refine ⟨temporary, ?_, ?_⟩
  · rw [text, names, ← found]
    refine Holds.find_congr guards.plain temporary.name fun place short => ?_
    rw [entry_put below, if_neg]
    rintro rfl
    simp at short
  · rw [names, entry_put below, if_pos rfl]

/-- Another temporary file is taken away. -/
theorem discard {workspace : Workspace} (guards : workspace.disk.Guards directory held)
    (temporary : file.Temporary directory) :
    (Montage.discard file workspace).disk.Guards directory (held.without [file]) := by
  have fewer := guards.mono fun _ _ (inside : held.without [file] _ _) => inside.1
  rw [Montage.discard, Disk.remove, guards.text_eq temporary]
  cases found : workspace.disk.find (directory.textOf file.name) with
  | error refusal => exact fewer
  | ok place =>
    obtain rfl := Holds.find_place guards.plain temporary.name found
    dsimp only
    split
    · exact fewer
    · have below : directory ++ [file.name] ≠ [] := by simp
      have full : file.names.isEmpty = false := by simp [temporary.names_eq guards.plain]
      rw [full]
      refine fewer.congr rfl (fun place short => ?_) fun other content inside => ?_
      · rw [if_neg Bool.false_ne_true, entry_drop below, if_neg]
        intro longer
        have := longer.length_le
        simp at this
        omega
      · have otherTemporary := (guards.files other content inside.1).temporary
        have differ := guards.apart temporary otherTemporary fun same => inside.2 (by simp [same])
        rw [temporary.names_eq guards.plain] at differ
        rw [if_neg Bool.false_ne_true, entry_drop below, if_neg]
        intro longer
        rw [otherTemporary.names_eq guards.plain] at longer differ
        exact differ (longer.eq_of_length (by simp))

theorem discardAll {files : List Path} {workspace : Workspace}
    (guards : workspace.disk.Guards directory held)
    (temporary : ∀ file ∈ files, file.Temporary directory) :
    (Montage.discardAll files workspace).disk.Guards directory (held.without files) := by
  induction files generalizing workspace held with
  | nil => exact guards.mono fun _ _ inside => inside.1
  | cons file rest ih =>
    obtain ⟨here, later⟩ := List.forall_mem_cons.mp temporary
    refine (ih (guards.discard here) later).mono fun other content inside => ?_
    obtain ⟨inside, apart⟩ := inside
    rw [List.mem_cons, not_or] at apart
    exact ⟨⟨inside, by simpa using apart.1⟩, apart.2⟩

end Guards

end Disk

/-- A file that is made is none of those that hold something; they keep what they hold, whether it can
be made or not. -/
inductive GuardsFile (directory : Place) (held : Holding) : Except Failure Path → Workspace → Prop where
  | made {file : Path} {content : Bytes} {last : Workspace} (unheld : ∀ found, ¬held file found)
      (guards : last.disk.Guards directory (held.add file content)) :
      GuardsFile directory held (.ok file) last
  | lost {failure : Failure} {last : Workspace} (guards : last.disk.Guards directory held) :
      GuardsFile directory held (.error failure) last

section Making

variable {purpose suffix : String}

section Makes

variable {entry : Entry} {workspace : Workspace} {outcome : Except Failure Path}

theorem Disk.Makes.guards (makes : Makes directory (Guards directory held) entry outcome workspace) :
    workspace.disk.Guards directory held := by
  cases makes with
  | made temporary guards created => exact guards.create temporary created
  | lost _ guards => exact guards

/-- What is made is none of the files that hold something. -/
theorem Disk.Makes.spares
    (makes : Makes directory (Guards directory held) entry (.ok file) workspace) :
    held.Spares directory file := by
  obtain @⟨name, before, _, temporary, guards, created⟩ | _ := makes
  obtain ⟨made, same⟩ := Path.temporary_ofText guards.plain temporary
  refine ⟨made, fun found inside => ?_⟩
  -- The path leads to the same place as before, where there was nothing.
  obtain ⟨place, reached, free, _⟩ := Disk.create_eq_ok.mp created
  have there := (guards.files _ _ inside).reached
  rw [guards.text_eq made, same, reached] at there
  obtain rfl := Except.ok.inj there
  exact guards.absent free found inside

theorem makeFresh_makesBeside (entry : Entry) (purposePlain : '/' ∉ purpose.toList)
    (suffixPlain : '/' ∉ suffix.toList) :
    (makeFresh purpose suffix entry).Ensures (Disk.Guards directory held ·.disk)
      (Disk.Makes directory (Disk.Guards directory held) entry) :=
  makeFresh_makes entry (fun _ guards => guards.located) purposePlain suffixPlain

end Makes

theorem makeFresh_guards (purposePlain : '/' ∉ purpose.toList) (suffixPlain : '/' ∉ suffix.toList) :
    (makeFresh purpose suffix (.file content)).Ensures (Disk.Guards directory held ·.disk)
      (GuardsFile directory held) := by
  intro start guards
  have makes := makeFresh_makesBeside (.file content) purposePlain suffixPlain start guards
  generalize (makeFresh purpose suffix (.file content)).on start = result at makes ⊢
  obtain ⟨failure | file, last⟩ := result
  · exact .lost makes.guards
  · have kept := makes.guards
    have spare := makes.spares
    obtain ⟨temporary, guards, created⟩ | _ := makes
    exact .made spare.unheld (Disk.Guards.add_iff.mpr ⟨kept, guards.create_file temporary created⟩)

/-- Copying over a file changes none of the others. -/
theorem Upload.copyTo_guards (upload : Upload) (temporary : file.Temporary directory)
    (unheld : ∀ found, ¬held file found) :
    (upload.copyTo file).Keeps (Disk.Guards directory held ·.disk) := by
  refine (Action.keeps_look _).bind fun content => ?_
  refine Action.change_ensures (fun start disk guards written => ?_) fun _ _ guards => guards
  exact guards.write temporary unheld (Except.mapError_eq_ok.mp written)

/-- A file that is copied over holds something afterwards, too. -/
theorem Upload.copyTo_bears {start : Workspace} (upload : Upload)
    (guards : start.disk.Guards directory held) (bears : start.disk.Bears directory file content) :
    ∃ found, ((upload.copyTo file).on start).2.disk.Bears directory file found := by
  rw [copyTo, Action.on_bind, Action.on_look]
  cases upload.content start.disk with
  | error failure => exact ⟨content, bears⟩
  | ok found =>
    dsimp only
    rw [Action.on, Action.change]
    cases written : start.disk.write file.text found with
    | error refusal => exact ⟨content, bears⟩
    | ok disk => exact ⟨found, guards.write_own bears.temporary written⟩

theorem stage_guards (upload : Upload) (purposePlain : '/' ∉ purpose.toList)
    (suffixPlain : '/' ∉ suffix.toList) :
    (stage upload purpose suffix).Ensures (Disk.Guards directory held ·.disk)
      (GuardsFile directory held) := by
  refine (makeFresh_guards purposePlain suffixPlain).bind (fun file => ?_) ?_
  · rintro start (@⟨_, content, _, unheld, guarded⟩ | _)
    obtain ⟨guards, bears⟩ := Disk.Guards.add_iff.mp guarded
    have kept := upload.copyTo_guards bears.temporary unheld start guards
    rw [Action.on_bind, Action.on_attempt]
    cases copied : ((upload.copyTo file).on start).1 with
    | ok _ =>
      obtain ⟨found, own⟩ := upload.copyTo_bears guards bears
      exact .made unheld (Disk.Guards.add_iff.mpr ⟨kept, own⟩)
    | error failure =>
      refine .lost ((kept.discard bears.temporary).mono fun other found inside => ⟨inside, ?_⟩)
      rw [List.mem_singleton]
      rintro rfl
      exact unheld found inside
  · rintro failure last (_ | ⟨guards⟩)
    exact .lost guards

end Making

end Montage
