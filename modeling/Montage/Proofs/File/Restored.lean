import Montage.Proofs.File.Temporary

/-! What is put into the temporary directory and taken away again leaves the directory as it was. -/

namespace Montage

variable {directory : Place} {name : String} {origin disk last : Disk} {file : Path}
  {files rest : List Path}

/-- The temporary directory is at the same place, and what is in it and above it is the same. -/
structure Disk.Alike (before after : Disk) : Prop where
  located : after.temporaryDirectory = before.temporaryDirectory
  same : ∀ place : Place, place.length ≤ before.temporaryDirectory.length + 1 →
    after.entry? place = before.entry? place

/-- A temporary file that is made where nothing was. -/
structure Path.New (origin : Disk) (file : Path) : Prop where
  temporary : file.Temporary origin.temporaryDirectory
  absent : origin.entry? file.names = none
  reached : origin.find file.text = .ok file.names

/-- A disk with new temporary files. -/
structure Disk.Gains (origin : Disk) (files : List Path) (disk : Disk) : Prop where
  located : disk.temporaryDirectory = origin.temporaryDirectory
  same : ∀ place : Place, place.length ≤ origin.temporaryDirectory.length + 1 →
    (∀ file ∈ files, file.names ≠ place) → disk.entry? place = origin.entry? place
  new : ∀ file ∈ files, file.New origin

namespace Disk

theorem Alike.refl (disk : Disk) : disk.Alike disk := ⟨rfl, fun _ _ => rfl⟩

theorem Gains.nil_iff : origin.Gains [] disk ↔ origin.Alike disk := by
  constructor
  · intro gains
    exact ⟨gains.located, fun place near => gains.same place near nofun⟩
  · intro alike
    exact ⟨alike.located, fun place near _ => alike.same place near, nofun⟩

/-- A change that cannot be seen in the temporary directory. -/
theorem Gains.alike (gains : origin.Gains files disk) (alike : disk.Alike last) :
    origin.Gains files last where
  located := alike.located.trans gains.located
  same place near other := by
    rw [alike.same place (by rwa [gains.located]), gains.same place near other]
  new := gains.new

section Plain

variable (plain : origin.temporaryDirectory.Plain)

include plain

theorem Gains.names_length (gains : origin.Gains files disk) (member : file ∈ files) :
    file.names.length = origin.temporaryDirectory.length + 1 := by
  rw [(gains.new file member).temporary.names_eq plain]
  simp

/-- Where the path of a temporary name leads is the same on both disks. -/
theorem Gains.find (gains : origin.Gains files disk) (temporary : TemporaryName name) :
    disk.find (origin.temporaryDirectory.textOf name) =
      origin.find (origin.temporaryDirectory.textOf name) := by
  refine Holds.find_congr plain temporary fun place short => gains.same place short.le ?_
  rintro file member rfl
  have := gains.names_length plain member
  omega

theorem Gains.find_file (gains : origin.Gains files disk) (member : file ∈ files) :
    disk.find file.text = .ok file.names := by
  have new := gains.new file member
  rw [new.temporary.text_eq plain, gains.find plain new.temporary.name,
    ← new.temporary.text_eq plain, new.reached]

/-- One more file. -/
theorem Gains.create {entry : Entry} (gains : origin.Gains files disk)
    (temporary : TemporaryName name)
    (created : disk.create (origin.temporaryDirectory.textOf name) entry = .ok last) :
    origin.Gains (files ++ [.ofText (origin.temporaryDirectory.textOf name)]) last := by
  obtain ⟨made, named⟩ := Path.temporary_ofText plain temporary
  have names : (Path.ofText (origin.temporaryDirectory.textOf name)).names =
      origin.temporaryDirectory ++ [name] := by
    rw [made.names_eq plain, named]
  obtain ⟨place, found, free, rfl⟩ := create_eq_ok.mp created
  obtain rfl := Holds.find_place plain temporary found
  have below : origin.temporaryDirectory ++ [name] ≠ [] := by simp
  refine ⟨?_, fun place near other => ?_, fun file member => ?_⟩
  · rw [put_temporaryDirectory, gains.located]
  · rw [List.forall_mem_append, List.forall_mem_singleton, names] at other
    rw [entry_put below, if_neg other.2.symm, gains.same place near other.1]
  · rcases List.mem_append.mp member with before | own
    · exact gains.new file before
    · obtain rfl := List.mem_singleton.mp own
      refine ⟨made, ?_, ?_⟩
      · rw [names]
        by_cases taken : ∃ file ∈ files, file.names = origin.temporaryDirectory ++ [name]
        · obtain ⟨file, before, same⟩ := taken
          exact same ▸ (gains.new file before).absent
        · rw [← gains.same _ (by simp) fun file before same => taken ⟨file, before, same⟩, free]
      · rw [made.text_eq plain, named, names, ← gains.find plain temporary, found]

theorem Gains.write {content : Bytes} (gains : origin.Gains files disk) (member : file ∈ files)
    (written : disk.write file.text content = .ok last) : origin.Gains files last := by
  obtain ⟨place, found, _, rfl⟩ := write_eq_ok.mp written
  obtain rfl := Except.ok.inj ((gains.find_file plain member).symm.trans found)
  have below : file.names ≠ [] := fun none => by
    simpa [none] using gains.names_length plain member
  refine ⟨?_, fun place near other => ?_, gains.new⟩
  · rw [put_temporaryDirectory, gains.located]
  · rw [entry_put below, if_neg (other file member).symm, gains.same place near other]

/-- A file that is taken away is none of the new ones any more. -/
theorem Gains.discard {workspace : Workspace} (gains : origin.Gains files workspace.disk)
    (member : file ∈ files) (kept : ∀ other ∈ rest, other ∈ files)
    (split : ∀ other ∈ files, other = file ∨ other ∈ rest) :
    origin.Gains rest (Montage.discard file workspace).disk := by
  have length := gains.names_length plain member
  have new := gains.new file member
  -- At the place of the file there is nothing any more, as on the disk without new files.
  have back {after : Disk} (gone : after.entry? file.names = none)
      (others : ∀ place : Place, place.length ≤ origin.temporaryDirectory.length + 1 →
        place ≠ file.names → after.entry? place = workspace.disk.entry? place)
      (place : Place) (near : place.length ≤ origin.temporaryDirectory.length + 1)
      (apart : ∀ other ∈ rest, other.names ≠ place) :
      after.entry? place = origin.entry? place := by
    by_cases own : place = file.names
    · rw [own, gone, new.absent]
    · rw [others place near own]
      refine gains.same place near fun other inside => ?_
      rcases split other inside with rfl | later
      · exact Ne.symm own
      · exact apart other later
  rw [Montage.discard, Disk.remove, gains.find_file plain member]
  dsimp only
  split
  · rename_i missing
    exact ⟨gains.located, back (by simpa using missing) fun _ _ _ => rfl,
      fun other inside => gains.new other (kept other inside)⟩
  · have full : file.names.isEmpty = false := by
      cases names : file.names with
      | nil => simp [names] at length
      | cons _ _ => rfl
    have below : file.names ≠ [] := by simpa using full
    rw [full]
    refine ⟨gains.located, back ?_ ?_, fun other inside => gains.new other (kept other inside)⟩
    · rw [if_neg (by decide), entry_drop below, if_pos List.prefix_rfl]
    · intro place near differ
      rw [if_neg (by decide), entry_drop below, if_neg]
      intro inside
      exact differ (inside.eq_of_length_le (by omega)).symm

theorem Gains.discardAll {workspace : Workspace} (gains : origin.Gains files workspace.disk) :
    origin.Alike (Montage.discardAll files workspace).disk := by
  induction files generalizing workspace with
  | nil => exact Gains.nil_iff.mp gains
  | cons file rest ih =>
    exact ih (gains.discard plain List.mem_cons_self (fun _ => List.mem_cons_of_mem file)
      fun _ => List.mem_cons.mp)

end Plain

end Disk

/-- One more file, or none where it cannot be made; no check has failed then. -/
def GainsFile (origin : Disk) (files : List Path) : Except Failure Path → Workspace → Prop
  | .ok file, workspace => origin.Gains (files ++ [file]) workspace.disk
  | .error failure, workspace => origin.Gains files workspace.disk ∧ ¬failure.IsInvalid

section Staging

variable {purpose suffix : String} (plain : origin.temporaryDirectory.Plain)

include plain

theorem makeFresh_gains {entry : Entry} (purposePlain : '/' ∉ purpose.toList)
    (suffixPlain : '/' ∉ suffix.toList) :
    (makeFresh purpose suffix entry).Ensures (origin.Gains files ·.disk)
      (GainsFile origin files) := by
  intro start gains
  have located (disk : Disk) (gains : origin.Gains files disk) := gains.located
  have makes := makeFresh_makes entry located purposePlain suffixPlain start gains
  generalize (makeFresh purpose suffix entry).on start = result at makes ⊢
  obtain ⟨failure | file, last⟩ := result
  · obtain _ | ⟨valid, gains⟩ := makes
    exact ⟨gains, valid⟩
  · obtain ⟨temporary, gains, created⟩ | _ := makes
    exact gains.create plain temporary created

theorem stage_gains {upload : Upload} (purposePlain : '/' ∉ purpose.toList)
    (suffixPlain : '/' ∉ suffix.toList) :
    (stage upload purpose suffix).Ensures (origin.Gains files ·.disk) (GainsFile origin files) := by
  refine (makeFresh_gains plain purposePlain suffixPlain).bind (fun file => ?_) fun _ _ gains => gains
  intro start gains
  have own : file ∈ files ++ [file] := by simp
  have copied : (upload.copyTo file).Keeps (origin.Gains (files ++ [file]) ·.disk) := by
    refine (Action.keeps_look _).bind fun content => ?_
    refine Action.change_ensures (fun start disk gains written => ?_) fun _ _ gains => gains
    exact gains.write plain own (Except.mapError_eq_ok.mp written)
  have left := copied start gains
  rw [Action.on_bind, Action.on_attempt]
  cases outcome : ((upload.copyTo file).on start).1 with
  | ok _ => exact left
  | error failure =>
    exact ⟨left.discard plain own (fun _ => List.mem_append_left _) (by simp [or_comm]),
      Upload.copyTo_error outcome⟩

end Staging

/-- The tool changes nothing in the temporary directory when it reports on a file. -/
def Toolbox.ProbesQuietly (toolbox : Toolbox) : Prop :=
  ∀ past (call : Call) (disk : Disk), call.stage = "probe" →
    disk.Alike (toolbox.run past call disk).2

section Probing

variable {toolbox : Toolbox} {timeout : Number}

/-- Probing takes the copy that it makes away again, whatever the tool answers. -/
theorem probeUpload_gains (plain : origin.temporaryDirectory.Plain) (quiet : toolbox.ProbesQuietly)
    {upload : Upload} : (probeUpload toolbox timeout upload).Keeps (origin.Gains files ·.disk) := by
  refine (stage_gains plain (by decide) (assetSuffix_slashless upload)).attempt fun outcome => ?_
  cases outcome with
  | error failure =>
    rintro start ⟨gains, _⟩
    cases failure <;> exact gains
  | ok file =>
    intro start gains
    have probed : (probeFile toolbox file.text timeout).Keeps (origin.Gains (files ++ [file]) ·.disk) :=
      probeFile_keeps fun _ gains => gains.alike (quiet _ _ _ rfl)
    have left := probed start gains
    exact left.discard plain (by simp) (fun _ => List.mem_append_left _) (by simp [or_comm])

end Probing

end Montage
