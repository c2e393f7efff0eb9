import Mathlib.Order.BooleanAlgebra.Set
import Montage.Probe
import Montage.Proofs.File.Disk
import Montage.Proofs.Outcome

/-! Temporary files: each is made under a name of its own, and can be taken away again. -/

namespace Montage

/-- A check of what a caller handed in has failed. -/
def Failure.IsInvalid (failure : Failure) : Prop :=
  ∃ field violation, failure = .invalid field violation

theorem Failure.system_valid (error : SystemError) : ¬(Failure.system error).IsInvalid := by
  rintro ⟨_, _, ⟨⟩⟩

theorem Failure.argument_valid (error : ArgumentError) : ¬(Failure.argument error).IsInvalid := by
  rintro ⟨_, _, ⟨⟩⟩

theorem Failure.fault_valid (fault : Fault) : ¬(Failure.fault fault).IsInvalid := by
  rintro ⟨_, _, ⟨⟩⟩

/-- A name that a temporary file can have. -/
structure TemporaryName (name : String) : Prop where
  start : temporaryStart.toList <+: name.toList
  slashless : '/' ∉ name.toList

/-- The names of the temporary files and directories. -/
def Disk.temporaries (disk : Disk) : Set String :=
  {name | TemporaryName name ∧ (disk.entry? (disk.temporaryDirectory ++ [name])).isSome}

/-- The path of a temporary file. -/
structure Path.Temporary (directory : Place) (path : Path) : Prop where
  written : path = .ofText (directory.textOf path.name)
  name : TemporaryName path.name

/-- The temporary entries of a disk, each of which its path leads to. -/
structure Disk.Holds (directory : Place) (names : Set String) (disk : Disk) : Prop where
  located : disk.temporaryDirectory = directory
  plain : directory.Plain
  entries : disk.temporaries = names
  reached : ∀ name ∈ names, disk.find (directory.textOf name) = .ok (directory ++ [name])

/-- The temporary entries of a workspace. -/
abbrev Workspace.Holds (directory : Place) (names : Set String) (workspace : Workspace) : Prop :=
  workspace.disk.Holds directory names

variable {directory : Place} {names : Set String} {disk : Disk} {name : String} {path : Path}

theorem TemporaryName.plain (temporary : TemporaryName name) : PlainName name where
  named := by
    rintro rfl
    exact absurd temporary.start (by decide)
  slashless := temporary.slashless
  noDot := by
    rintro rfl
    exact absurd temporary.start (by decide)
  noDots := by
    rintro rfl
    exact absurd temporary.start (by decide)

theorem Path.temporary_ofText (above : directory.Plain) (temporary : TemporaryName name) :
    (Path.ofText (directory.textOf name)).Temporary directory ∧
      (Path.ofText (directory.textOf name)).name = name := by
  have same : (Path.ofText (directory.textOf name)).name = name := by
    rw [Path.name, Place.textOf_names above temporary.plain]
    simp
  exact ⟨⟨by rw [same], by rwa [same]⟩, same⟩

theorem Path.Temporary.text_eq (temporary : path.Temporary directory) (above : directory.Plain) :
    path.text = directory.textOf path.name := by
  conv_lhs => rw [temporary.written]
  exact Place.textOf_text above temporary.name.plain

theorem Path.Temporary.names_eq (temporary : path.Temporary directory) (above : directory.Plain) :
    path.names = directory ++ [path.name] := by
  conv_lhs => rw [temporary.written]
  exact Place.textOf_names above temporary.name.plain

namespace Disk.Holds

/-- Where the path of a name leads depends only on what is above the temporary entries. -/
theorem find_congr {last : Disk} (above : directory.Plain) (temporary : TemporaryName name)
    (same : ∀ place : Place, place.length < directory.length + 1 →
      last.entry? place = disk.entry? place) :
    last.find (directory.textOf name) = disk.find (directory.textOf name) := by
  rw [find_textOf last above temporary.plain, find_textOf disk above temporary.plain]
  rw [walk_congr fun place short => same place (by simpa using short)]

theorem find_place {place : Place} (above : directory.Plain) (temporary : TemporaryName name)
    (found : disk.find (directory.textOf name) = .ok place) : place = directory ++ [name] := by
  rw [find_textOf disk above temporary.plain] at found
  split at found
  · cases found
  · show place = [] ++ (directory ++ [name])
    refine walk_place (fun other member => ?_) found
    rcases List.mem_append.mp member with upper | last
    · exact above other upper
    · exact List.mem_singleton.mp last ▸ temporary.plain

/-- Something put where a temporary path leads is one of the temporary entries. -/
theorem put (holds : disk.Holds directory names) (temporary : TemporaryName name)
    (found : disk.find (directory.textOf name) = .ok (directory ++ [name])) (entry : Entry) :
    (disk.put (directory ++ [name]) entry).Holds directory (insert name names) := by
  have below : directory ++ [name] ≠ [] := by simp
  have still : (disk.put (directory ++ [name]) entry).temporaryDirectory = directory := by
    rw [put_temporaryDirectory, holds.located]
  have above (place : Place) (short : place.length < directory.length + 1) :
      Disk.entry? (disk.put (directory ++ [name]) entry) place = disk.entry? place := by
    rw [entry_put below, if_neg]
    rintro rfl
    simp at short
  exact {
    located := still
    plain := holds.plain
    entries := by
      ext other
      rw [← holds.entries, temporaries, temporaries, still, holds.located]
      by_cases same : other = name
      · simp [same, entry_put below, temporary]
      · simp [same, entry_put below]
    reached := by
      rintro other (rfl | member)
      · rw [find_congr holds.plain temporary above, found]
      · have kept := holds.entries ▸ member
        rw [find_congr holds.plain kept.1 above, holds.reached other member] }

/-- What is taken away is none of the temporary entries any more. -/
theorem drop (holds : disk.Holds directory names) :
    (disk.drop (directory ++ [name])).Holds directory (names \ {name}) := by
  have below : directory ++ [name] ≠ [] := by simp
  have above (place : Place) (short : place.length < directory.length + 1) :
      Disk.entry? (disk.drop (directory ++ [name])) place = disk.entry? place := by
    rw [entry_drop below, if_neg]
    intro longer
    have := longer.length_le
    simp at this
    omega
  exact {
    located := holds.located
    plain := holds.plain
    entries := by
      ext other
      rw [← holds.entries, temporaries, temporaries]
      show _ ∧ (Disk.entry? (disk.drop _) (disk.temporaryDirectory ++ [other])).isSome ↔ _
      rw [holds.located]
      by_cases same : other = name
      · simp [same, entry_drop below]
      · have apart : ¬directory ++ [name] <+: directory ++ [other] := by
          simp [List.prefix_append_right_inj, Ne.symm same]
        simp [same, entry_drop below, apart]
    reached := by
      rintro other ⟨member, _⟩
      have kept := holds.entries ▸ member
      rw [find_congr holds.plain kept.1 above, holds.reached other member] }

/-- Taking a temporary file away takes away nothing else. -/
theorem discard {workspace : Workspace} (holds : workspace.disk.Holds directory names)
    (temporary : path.Temporary directory) :
    (Montage.discard path workspace).disk.Holds directory (names \ {path.name}) := by
  have missing (unseen : path.name ∉ names) : names \ {path.name} = names :=
    Set.sdiff_singleton_eq_self unseen
  rw [Montage.discard, Disk.remove, temporary.text_eq holds.plain]
  cases found : workspace.disk.find (directory.textOf path.name) with
  | error refusal =>
    have unseen : path.name ∉ names := fun member => by
      simp [holds.reached path.name member] at found
    rw [missing unseen]
    exact holds
  | ok place =>
    obtain rfl := find_place holds.plain temporary.name found
    dsimp only
    split
    · rename_i gone
      have unseen : path.name ∉ names := by
        rw [← holds.entries]
        rintro ⟨_, present⟩
        rw [holds.located] at present
        simp_all
      rw [missing unseen]
      exact holds
    · have full : path.names.isEmpty = false := by
        simp [temporary.names_eq holds.plain]
      rw [full]
      exact holds.drop

end Disk.Holds

/-- A fresh temporary file is none of those that were there; if it cannot be made, nothing is left of
the attempt. No check has failed then. -/
def MadeBeside (directory : Place) (names : Set String) : Except Failure Path → Workspace → Prop
  | .ok path, last => path.Temporary directory ∧ path.name ∉ names ∧
      last.Holds directory (insert path.name names)
  | .error failure, last => last.Holds directory names ∧ ¬failure.IsInvalid

theorem digitsOf_lacks (number : Nat) {character : Char} (other : ¬character.isDigit = true) :
    character ∉ (digitsOf number).toList := by
  intro member
  rw [digitsOf, String.toList_ofList] at member
  exact other (Nat.isDigit_of_mem_toDigits (by decide) (by decide) member)

theorem digitsOf_slashless (number : Nat) : '/' ∉ (digitsOf number).toList :=
  digitsOf_lacks number (by decide)

theorem freshName_temporary {purpose suffix : String} (number : Nat)
    (purposePlain : '/' ∉ purpose.toList) (suffixPlain : '/' ∉ suffix.toList) :
    TemporaryName (temporaryStart ++ purpose ++ digitsOf number ++ suffix) where
  start := by
    simp only [String.toList_append, List.append_assoc]
    exact List.prefix_append ..
  slashless := by
    have digits := digitsOf_slashless number
    have first : '/' ∉ temporaryStart.toList := by decide
    simp [purposePlain, suffixPlain, digits, first]

theorem checkPath_ensures {text : String} {required : Workspace → Prop} :
    (checkPath text).Ensures required fun outcome last =>
      required last ∧ (outcome = .ok () ∨ outcome = .error (.argument .nullByte)) := by
  intro start right
  rw [checkPath]
  split
  · exact ⟨right, .inr rfl⟩
  · exact ⟨right, .inl rfl⟩

/-- Something fresh is made under a temporary name, on a disk that is as required, or nothing is made.
No check has failed then. -/
inductive Disk.Makes (directory : Place) (required : Disk → Prop) (entry : Entry) :
    Except Failure Path → Workspace → Prop where
  | made {name : String} {before : Disk} {last : Workspace} (temporary : TemporaryName name)
      (right : required before)
      (created : before.create (directory.textOf name) entry = .ok last.disk) :
      Makes directory required entry (.ok (.ofText (directory.textOf name))) last
  | lost {failure : Failure} {last : Workspace} (valid : ¬failure.IsInvalid)
      (right : required last.disk) : Makes directory required entry (.error failure) last

/-- Making a fresh temporary entry. -/
theorem makeFresh_makes {purpose suffix : String} {required : Disk → Prop} (entry : Entry)
    (located : ∀ disk, required disk → disk.temporaryDirectory = directory)
    (purposePlain : '/' ∉ purpose.toList) (suffixPlain : '/' ∉ suffix.toList) :
    (makeFresh purpose suffix entry).Ensures (required ·.disk)
      (Disk.Makes directory required entry) := by
  intro start right
  have temporary := freshName_temporary (start.names + 1) purposePlain suffixPlain
  let named : Workspace := { start with names := start.names + 1 }
  let text := directory.textOf
    (temporaryStart ++ purpose ++ digitsOf (start.names + 1) ++ suffix)
  have fresh : (freshPath purpose suffix).on start = (.ok text, named) := by
    simp only [Action.on, freshPath, Disk.temporary, located _ right, Place.textOf,
      String.append_assoc, named, text]
  have checked : (checkPath text).Ensures (required ·.disk) _ := checkPath_ensures
  rw [makeFresh, Action.on_bind, fresh]
  refine checked.bind (fun _ => ?_) ?_ named right
  · rintro between ⟨right, _⟩
    rw [Action.on_bind, Action.on, Action.change]
    cases created : between.disk.create text entry with
    | error refusal => exact .lost (Failure.system_valid _) right
    | ok disk => exact .made temporary right created
  · rintro failure between ⟨right, impossible | refused⟩
    · cases impossible
    · cases refused
      exact .lost (Failure.argument_valid _) right

theorem makeFresh_ensures {purpose suffix : String} (entry : Entry)
    (purposePlain : '/' ∉ purpose.toList) (suffixPlain : '/' ∉ suffix.toList) :
    (makeFresh purpose suffix entry).Ensures (Workspace.Holds directory names)
      (MadeBeside directory names) := by
  intro start holds
  have located (disk : Disk) (holds : disk.Holds directory names) := holds.located
  have makes := makeFresh_makes entry located purposePlain suffixPlain start holds
  generalize (makeFresh purpose suffix entry).on start = result at makes ⊢
  obtain ⟨failure | path, last⟩ := result
  · obtain _ | ⟨valid, holds⟩ := makes
    exact ⟨holds, valid⟩
  · obtain ⟨temporary, holds, created⟩ | _ := makes
    obtain ⟨place, found, absent, same⟩ := Disk.create_eq_ok.mp created
    obtain rfl := Disk.Holds.find_place holds.plain temporary found
    obtain ⟨made, named⟩ := Path.temporary_ofText holds.plain temporary
    refine ⟨made, ?_, ?_⟩
    · rw [named, ← holds.entries]
      rintro ⟨_, present⟩
      simp [holds.located, absent] at present
    · have left := holds.put temporary found entry
      rw [← same] at left
      rwa [named]

/-- Writing a temporary file that is there. -/
theorem write_keeps {content : Bytes} (temporary : path.Temporary directory)
    (member : path.name ∈ names) :
    (Action.change fun disk => (disk.write path.text content).mapError (.refused · path.text)).Keeps
      (Workspace.Holds directory names) := by
  refine Action.change_ensures (fun start disk holds written => ?_) (fun start _ holds => holds)
  obtain ⟨place, found, _, rfl⟩ := Disk.write_eq_ok.mp (Except.mapError_eq_ok.mp written)
  rw [temporary.text_eq holds.plain] at found
  obtain rfl := Disk.Holds.find_place holds.plain temporary.name found
  simpa [member] using holds.put temporary.name found (.file content)

theorem Upload.content_error {upload : Upload} {failure : Failure}
    (failed : upload.content disk = .error failure) : ¬failure.IsInvalid := by
  rintro ⟨field, violation, rfl⟩
  unfold content at failed
  split at failed
  · cases failed
  · cases failed
  · split at failed
    · cases failed
    · rename_i path _ _
      cases read : disk.read path.text <;> rw [read] at failed <;> cases failed

theorem Upload.copyTo_keeps (upload : Upload) (temporary : path.Temporary directory)
    (member : path.name ∈ names) :
    (upload.copyTo path).Keeps (Workspace.Holds directory names) :=
  (Action.keeps_look upload.content).bind fun _ => write_keeps temporary member

theorem Upload.copyTo_error {upload : Upload} {start : Workspace} {failure : Failure}
    (failed : ((upload.copyTo path).on start).1 = .error failure) : ¬failure.IsInvalid := by
  rw [copyTo, Action.on_bind, Action.on_look] at failed
  cases read : upload.content start.disk with
  | error refusal =>
    rw [read] at failed
    obtain rfl := Except.error.inj failed
    exact content_error read
  | ok content =>
    simp only [read, Action.on, Action.change] at failed
    split at failed
    · cases failed
    · cases failed
      exact Failure.system_valid _

/-- Copying an upload into a fresh temporary file. -/
theorem stage_ensures (upload : Upload) {purpose suffix : String}
    (purposePlain : '/' ∉ purpose.toList) (suffixPlain : '/' ∉ suffix.toList) :
    (stage upload purpose suffix).Ensures (Workspace.Holds directory names)
      (MadeBeside directory names) := by
  refine (makeFresh_ensures (.file []) purposePlain suffixPlain).bind (fun path => ?_)
    fun _ _ promised => promised
  rintro start ⟨temporary, fresh, holds⟩
  have kept := upload.copyTo_keeps temporary (Set.mem_insert path.name names) start holds
  rw [Action.on_bind, Action.on_attempt]
  cases copied : ((upload.copyTo path).on start).1 with
  | ok _ => exact ⟨temporary, fresh, kept⟩
  | error failure =>
    refine ⟨?_, Upload.copyTo_error copied⟩
    have left := kept.discard temporary
    rwa [Set.insert_sdiff_of_mem _ (Set.mem_singleton path.name),
      Set.sdiff_singleton_eq_self fresh] at left

/-- The suffix for a media type is one of a table, or the default. -/
theorem suffixFor_of {p : String → Prop} {contentType : Option String}
    {table : List (String × String)} {default : String} (listed : ∀ entry ∈ table, p entry.2)
    (unlisted : p default) : p (suffixFor contentType table default) := by
  dsimp only [suffixFor]
  cases found : table.find? _ with
  | none => exact unlisted
  | some entry => exact listed entry (List.mem_of_find?_eq_some found)

theorem suffixFor_lacks {contentType : Option String} {table : List (String × String)}
    {default : String} {character : Char} (plain : ∀ entry ∈ table, character ∉ entry.2.toList)
    (defaultPlain : character ∉ default.toList) :
    character ∉ (suffixFor contentType table default).toList :=
  @suffixFor_of (character ∉ ·.toList) _ _ _ plain defaultPlain

theorem audioSuffix_slashless (upload : Upload) : '/' ∉ (audioSuffix upload).toList :=
  suffixFor_lacks (by decide) (by decide)

theorem thumbnailSuffix_slashless (contentType : Option String) :
    '/' ∉ (thumbnailSuffix contentType).toList :=
  suffixFor_lacks (by decide) (by decide)

/-- The suffix of an asset can come from the name that its sender gave it. -/
theorem assetSuffix_cases (upload : Upload) :
    (∃ filename ∈ upload.filename, assetSuffix upload = (Path.ofText filename).suffix) ∨
      assetSuffix upload = suffixFor upload.contentType assetSuffixes ".mp4" := by
  dsimp only [assetSuffix]
  split
  · rename_i long
    cases named : upload.filename with
    | none => simp [named] at long
    | some filename => exact .inl ⟨filename, rfl, rfl⟩
  · exact .inr rfl

theorem assetSuffix_slashless (upload : Upload) : '/' ∉ (assetSuffix upload).toList := by
  obtain ⟨filename, _, same⟩ | same := assetSuffix_cases upload
  · exact same ▸ Path.suffixOf_lacks (by decide) (Path.name_slashless filename)
  · exact same ▸ suffixFor_lacks (by decide) (by decide)

/-- The tool leaves the temporary entries as they are when it reports on a file. -/
def Toolbox.ProbesTidily (toolbox : Toolbox) (directory : Place) : Prop :=
  ∀ past call names disk, call.stage = "probe" → disk.Holds directory names →
    (toolbox.run past call disk).2.Holds directory names

/-- Probing a file keeps what the tool keeps. -/
theorem probeFile_keeps {toolbox : Toolbox} {file : String} {timeout : Number}
    {required : Workspace → Prop}
    (invoke : (toolbox.invoke "probe" [toolbox.installation.tool, "-i", file] timeout).Keeps required) :
    (probeFile toolbox file timeout).Keeps required := by
  refine invoke.attempt.bind fun outcome => ?_
  split
  · exact Action.keeps_throw _
  · exact Action.keeps_throw _
  · dsimp only
    split
    · exact fun _ right => right
    · refine (Action.keeps_lift _).bind fun found => ?_
      cases found with
      | some seconds => exact Action.keeps_pure seconds
      | none => exact Action.keeps_throw _

/-- Probing an upload leaves no copy of it behind. -/
theorem probeUpload_keeps {toolbox : Toolbox} (tidy : toolbox.ProbesTidily directory)
    (timeout : Number) (upload : Upload) :
    (probeUpload toolbox timeout upload).Keeps (Workspace.Holds directory names) := by
  refine (stage_ensures upload (by decide) (assetSuffix_slashless upload)).attempt fun outcome => ?_
  cases outcome with
  | error failure =>
    rintro start ⟨holds, _⟩
    cases failure <;> exact holds
  | ok path =>
    rintro start ⟨temporary, fresh, holds⟩
    have probed : (probeFile toolbox path.text timeout).Keeps
        (Workspace.Holds directory (insert path.name names)) :=
      probeFile_keeps fun start holds => tidy start.calls _ _ start.disk rfl holds
    have left := (probed start holds).discard temporary
    rwa [Set.insert_sdiff_of_mem _ (Set.mem_singleton path.name),
      Set.sdiff_singleton_eq_self fresh] at left

end Montage
