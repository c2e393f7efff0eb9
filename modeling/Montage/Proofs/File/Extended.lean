import Montage.Proofs.File.Guarded

/-! A disk with more temporary files is read as it was without them, and so is one where they were taken
away again. -/

namespace Montage

/-- A disk with more temporary files, where nothing was. -/
structure Disk.Extends (origin disk : Disk) : Prop where
  working : disk.workingDirectory = origin.workingDirectory
  located : disk.temporaryDirectory = origin.temporaryDirectory
  entries : ∀ place, disk.entry? place = origin.entry? place ∨
    (origin.entry? place = none ∧ (∃ content, disk.entry? place = some (.file content)) ∧
      ∃ name, TemporaryName name ∧ place = origin.temporaryDirectory ++ [name])

/-- The path of an upload does not lead to a temporary name under which there is nothing yet. -/
def Upload.Apart (origin : Disk) (upload : Upload) : Prop :=
  ∀ path name, upload.source = .file path → TemporaryName name →
    origin.find path.text = .ok (origin.temporaryDirectory ++ [name]) →
      origin.entry? (origin.temporaryDirectory ++ [name]) ≠ none

variable {origin disk last : Disk} {directory : Place} {upload : Upload} {content : Bytes}
  {name : String} {file : Path}

namespace Disk.Extends

theorem refl (disk : Disk) : disk.Extends disk := ⟨rfl, rfl, fun _ => .inl rfl⟩

/-- A file that was made where nothing was is a new one. -/
theorem create (extended : origin.Extends disk) (temporary : TemporaryName name)
    (free : disk.entry? (origin.temporaryDirectory ++ [name]) = none) (content : Bytes) :
    origin.Extends (disk.put (origin.temporaryDirectory ++ [name]) (.file content)) where
  working := put_workingDirectory.trans extended.working
  located := put_temporaryDirectory.trans extended.located
  entries place := by
    rw [entry_put (by simp)]
    split
    · rename_i same
      refine .inr ⟨?_, ⟨content, rfl⟩, name, temporary, same⟩
      rcases extended.entries place with kept | ⟨absent, _⟩
      · rw [← kept, same, free]
      · exact absent
    · exact extended.entries place

/-- A new file is written. -/
theorem write (extended : origin.Extends disk) (temporary : TemporaryName name)
    (absent : origin.entry? (origin.temporaryDirectory ++ [name]) = none) (content : Bytes) :
    origin.Extends (disk.put (origin.temporaryDirectory ++ [name]) (.file content)) where
  working := put_workingDirectory.trans extended.working
  located := put_temporaryDirectory.trans extended.located
  entries place := by
    rw [entry_put (by simp)]
    split
    · rename_i same
      exact .inr ⟨same ▸ absent, ⟨content, rfl⟩, name, temporary, same⟩
    · exact extended.entries place

/-- There are no more directories than before. -/
theorem find (extended : origin.Extends disk) {text : String} {place : Place}
    (found : disk.find text = .ok place) : origin.find text = .ok place := by
  refine find_mono extended.working.symm (fun upper inside => ?_) found
  rcases extended.entries upper with kept | ⟨_, ⟨content, new⟩, _⟩
  · exact kept ▸ inside
  · cases inside.symm.trans new

end Disk.Extends

theorem Disk.read_eq_ok {text : String} :
    disk.read text = .ok content ↔
      ∃ place, disk.find text = .ok place ∧ disk.entry? place = some (.file content) := by
  constructor
  · intro read
    obtain ⟨entry, status, rest⟩ := Except.bind_eq_ok.mp read
    obtain ⟨place, found, there⟩ := Except.bind_eq_ok.mp status
    split at there
    · rename_i entry present
      obtain rfl := Except.ok.inj there
      cases entry with
      | file _ =>
        obtain rfl := Except.ok.inj rest
        exact ⟨place, found, present⟩
      | directory => cases rest
    · cases there
  · rintro ⟨place, found, present⟩
    simp [read, status, found, present, bind, Except.bind]

/-- An upload of a file holds what the file does. -/
theorem Upload.content_mono (kept : ∀ path, upload.source = .file path →
      disk.read path.text = .ok content → origin.read path.text = .ok content)
    (read : upload.content disk = .ok content) : upload.content origin = .ok content := by
  rw [Upload.content] at read ⊢
  cases source : upload.source with
  | bytes held => rwa [source] at read
  | nothing => simp [source] at read
  | file path =>
    simp only [source] at read ⊢
    split at read
    · cases read
    · rename_i plain
      rw [if_neg plain]
      rw [Except.mapError_eq_ok] at read ⊢
      exact kept path source read

/-- An upload that can be read holds what it held before there were more temporary files. -/
theorem Upload.content_extends (extended : origin.Extends disk) (apart : upload.Apart origin)
    (read : upload.content disk = .ok content) : upload.content origin = .ok content := by
  refine Upload.content_mono (fun path source read => ?_) read
  rw [Disk.read_eq_ok] at read ⊢
  obtain ⟨place, found, present⟩ := read
  have reached := extended.find found
  rcases extended.entries place with kept | ⟨absent, _, name, temporary, rfl⟩
  · exact ⟨place, reached, kept ▸ present⟩
  · exact absurd absent (apart path name source temporary reached)

theorem Upload.copyTo_eq_ok {start last : Workspace} :
    (upload.copyTo file).on start = (.ok (), last) ↔
      ∃ content disk, upload.content start.disk = .ok content ∧
        start.disk.write file.text content = .ok disk ∧ { start with disk } = last := by
  constructor
  · intro copied
    obtain ⟨content, _, read, change⟩ := Action.bind_eq_ok.mp copied
    obtain ⟨held, rfl⟩ := Prod.mk.inj read
    obtain ⟨disk, written, same⟩ := Action.change_eq_ok.mp change
    exact ⟨content, disk, held, Except.mapError_eq_ok.mp written, same⟩
  · rintro ⟨content, disk, read, written, same⟩
    refine Action.bind_eq_ok.mpr ⟨content, start, Prod.ext read rfl, ?_⟩
    exact Action.change_eq_ok.mpr ⟨disk, Except.mapError_eq_ok.mpr written, same⟩

/-- A copy is made by making a file and copying over it. -/
theorem stage_ok {purpose suffix : String} {start last : Workspace}
    (staged : (stage upload purpose suffix).on start = (.ok file, last)) :
    ∃ middle, (makeFresh purpose suffix (.file [])).on start = (.ok file, middle) ∧
      (upload.copyTo file).on middle = (.ok (), last) := by
  obtain ⟨path, middle, make, copied⟩ := Action.bind_eq_ok.mp staged
  rw [Action.on_bind, Action.on_attempt] at copied
  cases copy : ((upload.copyTo path).on middle).1 with
  | error failure =>
    rw [copy] at copied
    cases copied
  | ok _ =>
    rw [copy] at copied
    obtain ⟨same, rfl⟩ := Prod.mk.inj copied
    obtain rfl := Except.ok.inj same
    exact ⟨middle, make, Prod.ext copy rfl⟩

/-- A copy holds what its upload held before there were more temporary files. -/
theorem stage_extends {purpose suffix : String} {start last : Workspace}
    (purposePlain : '/' ∉ purpose.toList) (suffixPlain : '/' ∉ suffix.toList)
    (plain : origin.temporaryDirectory.Plain) (extended : origin.Extends start.disk)
    (apart : upload.Apart origin)
    (staged : (stage upload purpose suffix).on start = (.ok file, last)) :
    origin.Extends last.disk ∧ ∃ content, upload.content origin = .ok content ∧
      last.disk.Bears origin.temporaryDirectory file content := by
  obtain ⟨middle, make, copy⟩ := stage_ok staged
  have located := extended.located
  -- The file is made at a temporary place where nothing was.
  have made := @makeFresh_guards origin.temporaryDirectory (fun _ _ => False) [] _ _ purposePlain
    suffixPlain start ⟨located, plain, nofun⟩
  rw [make] at made
  obtain ⟨_, grown⟩ | _ := made
  obtain ⟨guards, bears⟩ := Disk.Guards.add_iff.mp grown
  obtain ⟨name, _, temporary, same, free, _, whole⟩ :=
    makeFresh_ok (located ▸ plain) purposePlain suffixPlain make
  rw [located] at same free whole
  have disk := congrArg Workspace.disk whole
  have more : origin.Extends middle.disk := disk ▸ extended.create temporary free []
  -- It is copied over with what the upload held.
  obtain ⟨content, _, read, written, rfl⟩ := Upload.copyTo_eq_ok.mp copy
  refine ⟨?_, content, Upload.content_extends more apart read,
    guards.write_own bears.temporary written⟩
  obtain ⟨place, found, _, rfl⟩ := Disk.write_eq_ok.mp written
  rw [same, Place.textOf_text plain temporary.plain] at found
  obtain rfl := Disk.Holds.find_place plain temporary found
  refine more.write temporary ?_ content
  rcases extended.entries (origin.temporaryDirectory ++ [name]) with kept | ⟨absent, _⟩
  · rw [← kept, free]
  · exact absent

/-- There is nothing on a disk that was not there, but for what is at some files and below them. -/
structure Disk.Within (origin : Disk) (files : List Path) (disk : Disk) : Prop where
  working : disk.workingDirectory = origin.workingDirectory
  located : disk.temporaryDirectory = origin.temporaryDirectory
  entries : ∀ place entry, (∀ file ∈ files, ¬file.names <+: place) →
    disk.entry? place = some entry → origin.entry? place = some entry

namespace Disk.Within

variable {files more : List Path} {entry : Entry} {workspace : Workspace}

theorem refl (disk : Disk) : disk.Within [] disk := ⟨rfl, rfl, fun _ _ _ => id⟩

/-- What is read was there. -/
theorem read {text : String} (within : origin.Within [] disk) (read : disk.read text = .ok content) :
    origin.read text = .ok content := by
  rw [read_eq_ok] at read ⊢
  obtain ⟨place, found, present⟩ := read
  have above (upper : Place) := within.entries upper .directory nofun
  exact ⟨place, find_mono within.working.symm above found, within.entries place _ nofun present⟩

theorem guards (within : origin.Within files disk) (plain : origin.temporaryDirectory.Plain) :
    disk.Guards origin.temporaryDirectory fun _ _ => False :=
  ⟨within.located, plain, nofun⟩

theorem put (within : origin.Within files disk) (below : file.names ≠ [])
    (kept : ∀ other ∈ files, other ∈ more) (own : file ∈ more) :
    origin.Within more (disk.put file.names entry) where
  working := put_workingDirectory.trans within.working
  located := put_temporaryDirectory.trans within.located
  entries place found apart present := by
    rw [entry_put below, if_neg] at present
    · exact within.entries place found (fun other member => apart other (kept other member)) present
    · rintro rfl
      exact apart file own List.prefix_rfl

/-- One file is made. -/
theorem create (within : origin.Within [] disk) (plain : origin.temporaryDirectory.Plain)
    (temporary : TemporaryName name)
    (created : disk.create (origin.temporaryDirectory.textOf name) entry = .ok last) :
    origin.Within [.ofText (origin.temporaryDirectory.textOf name)] last := by
  obtain ⟨made, named⟩ := Path.temporary_ofText plain temporary
  have below := (within.guards plain).names_below made
  obtain ⟨place, found, _, rfl⟩ := create_eq_ok.mp created
  obtain rfl := Holds.find_place plain temporary found
  have names := made.names_eq plain
  rw [named] at names
  rw [← names]
  exact within.put below nofun List.mem_cons_self

/-- When the file that was made is taken away, there is nothing that was not there. -/
theorem discard (within : origin.Within [file] workspace.disk)
    (bears : workspace.disk.Bears directory file content) (below : file.names ≠ []) :
    origin.Within [] (Montage.discard file workspace).disk := by
  have full : file.names.isEmpty = false := by simpa using below
  simp only [Montage.discard, Disk.remove, bears.reached, bears.entry, Option.isNone_some, full,
    Bool.false_eq_true, if_false]
  refine ⟨within.working, within.located, fun place found _ present => ?_⟩
  rw [entry_drop below] at present
  split at present
  · cases present
  · rename_i apart
    exact within.entries place found (List.forall_mem_singleton.mpr apart) present

end Disk.Within

/-- There is one more file, or none if it could not be made. -/
def WithinFile (origin : Disk) : Except Failure Path → Workspace → Prop
  | .ok file, last => origin.Within [file] last.disk
  | .error _, last => origin.Within [] last.disk

/-- The tool only looks at files when it reports on one. -/
def Toolbox.Looks (toolbox : Toolbox) : Prop :=
  ∀ past (call : Call) (disk : Disk), call.stage = "probe" → (toolbox.run past call disk).2 = disk

section Probing

variable (plain : origin.temporaryDirectory.Plain)

include plain

theorem Upload.copyTo_within (upload : Upload) (temporary : file.Temporary origin.temporaryDirectory) :
    (upload.copyTo file).Keeps (origin.Within [file] ·.disk) := by
  refine (Action.keeps_look _).bind fun content => ?_
  refine Action.change_ensures (fun start disk within written => ?_) fun _ _ within => within
  obtain ⟨place, found, _, rfl⟩ := Disk.write_eq_ok.mp (Except.mapError_eq_ok.mp written)
  have guards := within.guards plain
  rw [guards.text_eq temporary] at found
  obtain rfl := Disk.Holds.find_place plain temporary.name found
  rw [← temporary.names_eq plain]
  exact within.put (guards.names_below temporary) (fun _ => id) List.mem_cons_self

theorem stage_within {purpose suffix : String} (purposePlain : '/' ∉ purpose.toList)
    (suffixPlain : '/' ∉ suffix.toList) :
    (stage upload purpose suffix).Ensures (origin.Within [] ·.disk) (WithinFile origin) := by
  intro start within
  have makes := makeFresh_makes (.file []) (fun _ within => within.located) purposePlain suffixPlain
    start within
  rw [stage, Action.on_bind]
  generalize (makeFresh purpose suffix (.file [])).on start = result at makes ⊢
  obtain ⟨failure | file, middle⟩ := result
  · obtain _ | ⟨_, within⟩ := makes
    exact within
  obtain @⟨name, _, _, temporary, within, created⟩ | _ := makes
  have guards := within.guards plain
  have bears := guards.create_file temporary created
  have made := within.create plain temporary created
  have copied := upload.copyTo_within plain bears.temporary middle made
  obtain ⟨_, held⟩ := upload.copyTo_bears (made.guards plain) bears
  dsimp only
  rw [Action.on_bind, Action.on_attempt]
  cases outcome : ((upload.copyTo (.ofText (origin.temporaryDirectory.textOf name))).on middle).1 with
  | ok _ => exact copied
  | error failure => exact copied.discard held (guards.names_below bears.temporary)

/-- When an upload was probed, there is nothing that was not there. -/
theorem probeUpload_within {toolbox : Toolbox} {timeout : Number} (looks : toolbox.Looks) :
    (probeUpload toolbox timeout upload).Keeps (origin.Within [] ·.disk) := by
  have purposePlain : '/' ∉ "probe-".toList := by decide
  have suffixPlain := assetSuffix_slashless upload
  have staged : (stage upload "probe-" (assetSuffix upload)).Ensures (origin.Within [] ·.disk)
      fun outcome last => WithinFile origin outcome last ∧
        GuardsFile origin.temporaryDirectory (fun _ _ => False) outcome last := by
    intro start within
    have guards := within.guards plain
    exact ⟨stage_within plain purposePlain suffixPlain start within,
      stage_guards upload purposePlain suffixPlain start guards⟩
  refine staged.attempt fun outcome => ?_
  cases outcome with
  | error failure =>
    rintro start ⟨within, _⟩
    cases failure <;> exact within
  | ok file =>
    rintro start ⟨within, guarded⟩
    obtain ⟨_, grown⟩ | _ := guarded
    obtain ⟨guards, bears⟩ := Disk.Guards.add_iff.mp grown
    have same : (probeFile toolbox file.text timeout).Keeps (·.disk = start.disk) :=
      probeFile_keeps fun before same => (looks before.calls _ before.disk rfl).trans same
    have left := same start rfl
    exact (left.symm ▸ within : origin.Within [file] _).discard (left.symm ▸ bears)
      (guards.names_below bears.temporary)

end Probing

end Montage
