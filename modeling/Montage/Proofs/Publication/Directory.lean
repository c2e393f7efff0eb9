import Montage.Proofs.File.Extended
import Montage.Proofs.File.Furnished
import Montage.Publication.Directory

/-! A video is filed with its record, or fails without a trace among the files, unless its copy is
made and the record cannot be written: then the copy stays. -/

namespace Montage

variable {disk before middle after : Disk} {changed more : Place → Prop} {place other : Place}
  {content : Bytes} {source target : String}

/-- The files are the same but at some places; directories may have been made. -/
structure Disk.FilesBut (changed : Place → Prop) (before after : Disk) : Prop where
  directories : ∀ place, before.entry? place = some .directory → after.entry? place = some .directory
  files : ∀ place content, ¬changed place →
    (after.entry? place = some (.file content) ↔ before.entry? place = some (.file content))

namespace Disk

theorem FilesBut.trans (first : before.FilesBut changed middle) (later : middle.FilesBut more after) :
    before.FilesBut (fun place => changed place ∨ more place) after where
  directories place inside := later.directories place (first.directories place inside)
  files place content same := by
    obtain ⟨early, late⟩ := not_or.mp same
    exact (later.files place content late).trans (first.files place content early)

theorem FilesBut.mono (same : before.FilesBut changed after)
    (all : ∀ place, changed place → more place) : before.FilesBut more after where
  directories := same.directories
  files place content kept := same.files place content fun here => kept (all place here)

theorem Furnished.filesBut (furnished : before.Furnished after) : before.FilesBut changed after where
  directories _ := furnished.directory
  files _ _ _ := furnished.file_iff

/-- A file is put where no directory is. -/
theorem filesBut_put (free : disk.entry? place ≠ some .directory) (content : Bytes) :
    disk.FilesBut (· = place) (disk.put place (.file content)) := by
  have below : place ≠ [] := by
    rintro rfl
    exact free rfl
  constructor
  · intro upper inside
    rw [entry_put below, if_neg]
    · exact inside
    · rintro rfl
      exact free inside
  · intro other held apart
    rw [entry_put below, if_neg apart]

/-- A file that is there already is put there. -/
theorem filesBut_put_same (present : disk.entry? place = some (.file content)) :
    disk.FilesBut (fun _ => False) (disk.put place (.file content)) := by
  have below : place ≠ [] := by
    rintro rfl
    cases present
  have same (other : Place) :
      Disk.entry? (disk.put place (.file content)) other = disk.entry? other := by
    rw [entry_put below]
    by_cases here : other = place
    · rw [if_pos here, here, present]
    · rw [if_neg here]
  exact ⟨fun upper inside => (same upper).trans inside, fun other held _ => by rw [same other]⟩

/-- A copy of a file is written where that file is not. -/
theorem copyFile_eq_ok :
    disk.copyFile source target = .ok after ↔
      ∃ place content, disk.find source = .ok place ∧ disk.entry? place = some (.file content) ∧
        disk.find target ≠ .ok place ∧ disk.write target content = .ok after := by
  constructor
  · intro copied
    rw [copyFile] at copied
    cases read : disk.read source with
    | error refusal =>
      rw [read] at copied
      cases copied
    | ok content =>
      obtain ⟨place, found, present⟩ := read_eq_ok.mp read
      rw [read] at copied
      by_cases same : disk.find target = .ok place
      · simp [found, same] at copied
      · refine ⟨place, content, found, present, same, ?_⟩
        simp only at copied
        split at copied
        · cases copied
        · split at copied
          · cases copied
          · rename_i written
            rw [written]
            exact congrArg _ (Except.ok.inj copied)
  · rintro ⟨place, content, found, present, apart, written⟩
    have read : disk.read source = .ok content := read_eq_ok.mpr ⟨place, found, present⟩
    have differ : ((disk.find source).toOption == (disk.find target).toOption) = false := by
      rw [found, beq_eq_false_iff_ne]
      intro same
      exact apart (Except.toOption_eq_some.mp same.symm)
    rw [copyFile, read]
    simp only [differ, written, Bool.false_eq_true, if_false]

end Disk

namespace Directory

variable {root video : Path} {id title description : String} {options : PublishOptions}
  {start last : Workspace} {base : Place}

/-- An id of few characters without a slash. -/
structure IsId (id : String) : Prop where
  short : id.length ≤ idLength
  slashless : '/' ∉ id.toList

theorem slash_not_mem_toDigits (number : Nat) : '/' ∉ Nat.toDigits 16 number := by
  induction number using Nat.strongRecOn with
  | ind number ih =>
    by_cases few : number < 16
    · rw [Nat.toDigits_of_lt_base few, List.mem_singleton]
      exact (Nat.digitChar_ne '/' (by decide)).symm
    · rw [Nat.toDigits_of_base_le (by decide) (Nat.not_lt.mp few), List.mem_append, not_or,
        List.mem_singleton]
      exact ⟨ih _ (Nat.div_lt_self (by omega) (by decide)), (Nat.digitChar_ne '/' (by decide)).symm⟩

/-- The id that the next video gets. -/
def nextId (workspace : Workspace) : String :=
  String.ofList ((idDigits (workspace.ids + 1)).take idLength)

theorem nextId_isId (workspace : Workspace) : IsId (nextId workspace) where
  short := by
    rw [nextId, String.length_ofList, List.length_take]
    exact Nat.min_le_left _ _
  slashless := by
    rw [nextId, String.toList_ofList]
    intro slash
    have zeros {count : Nat} : '/' ∉ List.replicate count '0' := by
      intro zero
      cases List.eq_of_mem_replicate zero
    rcases List.mem_append.mp (List.mem_of_mem_take slash) with front | back
    · rcases List.mem_append.mp front with zero | digit
      · exact zeros zero
      · exact slash_not_mem_toDigits _ digit
    · exact zeros back

theorem utf8ByteSize_ofList_le (characters : List Char) :
    (String.ofList characters).utf8ByteSize ≤ 4 * characters.length := by
  induction characters with
  | nil => exact Nat.le_refl _
  | cons character rest ih =>
    have one := character.utf8Size_le_four
    have split : String.ofList (character :: rest) =
        String.singleton character ++ String.ofList rest := by
      rw [← String.toList_inj]
      simp
    rw [split, String.utf8ByteSize_append, String.utf8ByteSize_singleton, List.length_cons]
    omega

/-- An id with a suffix is a name. -/
theorem IsId.plain (isId : IsId id) {suffix : String} (slashless : '/' ∉ suffix.toList)
    (long : 2 < suffix.toList.length) : PlainName (id ++ suffix) := by
  have longer {name : String} (same : id ++ suffix = name) : 2 < name.toList.length := by
    rw [← same, String.toList_append, List.length_append]
    omega
  refine ⟨fun same => ?_, ?_, fun same => ?_, fun same => ?_⟩
  · exact absurd (longer same) (by decide)
  · rw [String.toList_append, List.mem_append, not_or]
    exact ⟨isId.slashless, slashless⟩
  · exact absurd (longer same) (by decide)
  · exact absurd (longer same) (by decide)

theorem IsId.short_name (isId : IsId id) {suffix : String} (few : suffix.utf8ByteSize ≤ 100) :
    (id ++ suffix).utf8ByteSize ≤ Disk.maxNameBytes := by
  have size := utf8ByteSize_ofList_le id.toList
  have short := isId.short
  rw [String.ofList_toList, String.length_toList] at size
  rw [idLength] at short
  rw [String.utf8ByteSize_append, Disk.maxNameBytes]
  omega

/-- The path of the root leads to a directory. -/
structure Laid (disk : Disk) (root : Path) (base : Place) : Prop where
  found : disk.find root.text = .ok base
  inside : disk.entry? base = some .directory

theorem Laid.find_video (laid : Laid disk root base) (written : root.Written) (isId : IsId id) :
    disk.find (videoPath root id).text =
      if (videoPath root id).text.utf8ByteSize > Disk.maxPathBytes then .error .tooLong
      else .ok (base ++ [id ++ ".mp4"]) :=
  Disk.find_child_of_find written (isId.plain (by decide) (by decide)) (isId.short_name (by decide))
    laid.found laid.inside

theorem Laid.find_record (laid : Laid disk root base) (written : root.Written) (isId : IsId id) :
    disk.find (recordPath root id).text =
      if (recordPath root id).text.utf8ByteSize > Disk.maxPathBytes then .error .tooLong
      else .ok (base ++ [id ++ ".yaml"]) :=
  Disk.find_child_of_find written (isId.plain (by decide) (by decide)) (isId.short_name (by decide))
    laid.found laid.inside

/-- How the filing of a video ends, and the disk that it leaves. -/
inductive Ends (root video : Path) (id : String) (text : Bytes) (start : Disk) :
    Except Failure Unit → Disk → Prop
  | nullRoot {failure : Failure} (null : root.text.toList.contains '\x00' = true) :
    Ends root video id text start (.error failure) start
  | noRoot {failure : Failure} {error : SystemError} {made : Disk}
    (refused : start.ensureDirectories root = (.error error, made)) :
    Ends root video id text start (.error failure) made
  | nullVideo {failure : Failure} {made : Disk}
    (ensured : start.ensureDirectories root = (.ok (), made))
    (null : video.text.toList.contains '\x00' = true) :
    Ends root video id text start (.error failure) made
  | noCopy {failure : Failure} {error : SystemError} {made : Disk}
    (ensured : start.ensureDirectories root = (.ok (), made))
    (refused : made.copyFile video.text (videoPath root id).text = .error error) :
    Ends root video id text start (.error failure) made
  | noRecord {failure : Failure} {refusal : Refusal} {made copied : Disk}
    (rootless : root.text.toList.contains '\x00' = false)
    (ensured : start.ensureDirectories root = (.ok (), made))
    (nullless : video.text.toList.contains '\x00' = false)
    (copy : made.copyFile video.text (videoPath root id).text = .ok copied)
    (refused : copied.write (recordPath root id).text text = .error refusal) :
    Ends root video id text start (.error failure) copied
  | filed {made copied last : Disk}
    (ensured : start.ensureDirectories root = (.ok (), made))
    (copy : made.copyFile video.text (videoPath root id).text = .ok copied)
    (recorded : copied.write (recordPath root id).text text = .ok last) :
    Ends root video id text start (.ok ()) last

theorem on_checkPath (text : String) (start : Workspace) :
    (checkPath text).on start =
      (if text.toList.contains '\x00' then .error (.argument .nullByte) else .ok (), start) := by
  rw [checkPath]
  split <;> rfl

theorem on_alter (write : Disk → Except SystemError Unit × Disk) (start : Workspace) :
    (Action.alter write).on start =
      ((write start.disk).1.mapError .system, { start with disk := (write start.disk).2 }) := rfl

theorem on_change (write : Disk → Except SystemError Disk) (start : Workspace) :
    (Action.change write).on start =
      match write start.disk with
      | .ok disk => (.ok (), { start with disk })
      | .error error => (.error (.system error), start) := rfl

theorem fileVideo_ends (root video : Path) (id title description : String) (options : PublishOptions)
    (start : Workspace) :
    Ends root video id (Text.encodeUtf8 (record title description options)) start.disk
      ((fileVideo root video id title description options).on start).1
      ((fileVideo root video id title description options).on start).2.disk := by
  rw [fileVideo, Action.on_bind, on_checkPath]
  cases null : root.text.toList.contains '\x00' with
  | true => exact .nullRoot null
  | false =>
    simp only [Bool.false_eq_true, if_false]
    rw [Action.on_bind, on_alter]
    rcases ensured : start.disk.ensureDirectories root with ⟨error | _, made⟩
    · exact .noRoot ensured
    · dsimp only [Except.mapError]
      rw [Action.on_bind, on_checkPath]
      cases nullVideo : video.text.toList.contains '\x00' with
      | true => exact .nullVideo ensured nullVideo
      | false =>
        simp only [Bool.false_eq_true, if_false]
        rw [Action.on_bind, on_change]
        cases copy : made.copyFile video.text (videoPath root id).text with
        | error error => exact .noCopy ensured copy
        | ok copied =>
          dsimp only
          rw [on_change]
          cases written : copied.write (recordPath root id).text
              (Text.encodeUtf8 (record title description options)) with
          | error refusal => exact .noRecord null ensured nullVideo copy written
          | ok last => exact .filed ensured copy written

/-- A video can be copied to its name in a directory. -/
structure Copies (disk : Disk) (root video : Path) (id : String) (base place : Place)
    (content : Bytes) : Prop where
  found : disk.find video.text = .ok place
  present : disk.entry? place = some (.file content)
  apart : place ≠ base ++ [id ++ ".mp4"]
  room : (videoPath root id).text.utf8ByteSize ≤ Disk.maxPathBytes
  free : disk.entry? (base ++ [id ++ ".mp4"]) ≠ some .directory

theorem Laid.copyFile_eq_ok (laid : Laid disk root base) (written : root.Written) (isId : IsId id) :
    disk.copyFile video.text (videoPath root id).text = .ok after ↔
      ∃ place content, Copies disk root video id base place content ∧
        after = disk.put (base ++ [id ++ ".mp4"]) (.file content) := by
  have target := laid.find_video written isId
  rw [Disk.copyFile_eq_ok]
  refine exists_congr fun place => exists_congr fun content => ?_
  constructor
  · rintro ⟨found, present, apart, written⟩
    obtain ⟨at', reached, free, rfl⟩ := Disk.write_eq_ok.mp written
    have room : ¬(videoPath root id).text.utf8ByteSize > Disk.maxPathBytes := by
      intro long
      rw [if_pos long] at target
      cases target.symm.trans reached
    rw [if_neg room] at target
    obtain rfl := Except.ok.inj (target.symm.trans reached)
    rw [target] at apart
    exact ⟨⟨found, present, fun same => apart (congrArg _ same.symm), Nat.not_lt.mp room, free⟩, rfl⟩
  · rintro ⟨copies, rfl⟩
    rw [if_neg (Nat.not_lt.mpr copies.room)] at target
    refine ⟨copies.found, copies.present, ?_, Disk.write_eq_ok.mpr ⟨_, target, copies.free, rfl⟩⟩
    rw [target]
    exact fun same => copies.apart (Except.ok.inj same).symm

/-- Files that are put somewhere leave the paths as they are. -/
theorem Laid.put (laid : Laid disk root base) (free : disk.entry? place ≠ some .directory)
    (content : Bytes) : Laid (disk.put place (.file content)) root base where
  found := Disk.find_mono Disk.put_workingDirectory (Disk.filesBut_put free content).directories
    laid.found
  inside := (Disk.filesBut_put free content).directories base laid.inside

/-- The record of a video cannot be written. -/
def Blocked (disk : Disk) (root : Path) (id : String) (base : Place) : Prop :=
  Disk.maxPathBytes < (recordPath root id).text.utf8ByteSize ∨
    disk.entry? (base ++ [id ++ ".yaml"]) = some .directory

theorem Laid.write_record {text : Bytes} (laid : Laid disk root base) (written : root.Written)
    (isId : IsId id) :
    (∃ refusal, disk.write (recordPath root id).text text = .error refusal) ↔
      Blocked disk root id base := by
  have target := laid.find_record written isId
  by_cases long : (recordPath root id).text.utf8ByteSize > Disk.maxPathBytes
  · rw [if_pos long] at target
    have refused : disk.write (recordPath root id).text text = .error .tooLong := by
      rw [Disk.write, target]
      rfl
    exact iff_of_true ⟨_, refused⟩ (.inl long)
  · rw [if_neg long] at target
    rw [Blocked, or_iff_right long, Disk.write, target]
    simp only [bind, Except.bind]
    split
    · rename_i taken
      exact iff_of_true ⟨_, rfl⟩ taken
    · rename_i free
      exact iff_of_false (by rintro ⟨_, ⟨⟩⟩) free

/-- The record is beside the file of the video. -/
theorem names_apart (id : String) (base : Place) :
    base ++ [id ++ ".yaml"] ≠ base ++ [id ++ ".mp4"] := by
  intro same
  have names := List.singleton_inj.mp (List.append_cancel_left same)
  rw [← String.toList_inj, String.toList_append, String.toList_append] at names
  have suffixes : ".yaml".toList = ".mp4".toList := List.append_cancel_left names
  exact absurd suffixes (by decide)

/-- A video was filed with its record: beside these two, the files are what they were. -/
structure Filed (before after : Disk) (root video : Path) (id : String) (text : Bytes)
    (base place : Place) (content : Bytes) : Prop where
  root : after.find root.text = .ok base
  video : after.find video.text = .ok place
  held : before.entry? place = some (.file content)
  copied : after.entry? (base ++ [id ++ ".mp4"]) = some (.file content)
  recorded : after.entry? (base ++ [id ++ ".yaml"]) = some (.file text)
  others : before.FilesBut
    (fun other => other = base ++ [id ++ ".mp4"] ∨ other = base ++ [id ++ ".yaml"]) after

/-- The copy of a video stays without a record: it can be made, holds what was not there before, and
the record cannot be written. -/
structure Strands (disk : Disk) (root video : Path) (id : String) (base place : Place)
    (content : Bytes) : Prop where
  laid : Laid disk root base
  copies : Copies disk root video id base place content
  changed : disk.entry? (base ++ [id ++ ".mp4"]) ≠ some (.file content)
  blocked : Blocked disk root id base

theorem exists_laid (ensured : disk.ensureDirectories root = (.ok (), after)) :
    ∃ base, Laid after root base := by
  obtain ⟨base, found, inside⟩ := Disk.status_eq_ok.mp (Disk.status_of_ensureDirectories ensured)
  exact ⟨base, found, inside⟩

theorem furnished_of_ensured {outcome : Except SystemError Unit}
    (ensured : disk.ensureDirectories root = (outcome, after)) : disk.Furnished after := by
  have furnished := disk.ensureDirectories_furnished root
  rwa [ensured] at furnished

theorem blocked_put :
    Blocked (disk.put (base ++ [id ++ ".mp4"]) (.file content)) root id base ↔
      Blocked disk root id base := by
  rw [Blocked, Blocked, Disk.entry_put (by simp), if_neg (names_apart id base)]

theorem Ends.exists_filed {text : Bytes} {after : Disk} (written : root.Written) (isId : IsId id)
    (ends : Ends root video id text disk (.ok ()) after) :
    ∃ base place content, Filed disk after root video id text base place content := by
  obtain _ | _ | _ | _ | _ | ⟨ensured, copy, recorded⟩ := ends
  obtain ⟨base, laid⟩ := exists_laid ensured
  have furnished := furnished_of_ensured ensured
  obtain ⟨place, content, copies, rfl⟩ := (laid.copyFile_eq_ok written isId).mp copy
  have later := laid.put copies.free content
  obtain ⟨at', reached, free, rfl⟩ := Disk.write_eq_ok.mp recorded
  have target := later.find_record written isId
  rw [reached] at target
  split at target
  · cases target
  · obtain rfl := Except.ok.inj target
    have first := Disk.filesBut_put copies.free content
    have second := Disk.filesBut_put free text
    refine ⟨base, place, content, (later.put free text).found, ?_, furnished.file_iff.mp copies.present,
      ?_, ?_, ?_⟩
    · apply Disk.find_mono Disk.put_workingDirectory second.directories
      exact Disk.find_mono Disk.put_workingDirectory first.directories copies.found
    · rw [Disk.entry_put (by simp), if_neg (names_apart id base).symm, Disk.entry_put (by simp),
        if_pos rfl]
    · rw [Disk.entry_put (by simp), if_pos rfl]
    · have unchanged : disk.FilesBut (fun _ => False) _ := furnished.filesBut
      refine (unchanged.trans (first.trans second)).mono ?_
      rintro other (none | here)
      · cases none
      · exact here

/-- The copy that is stranded is made. -/
theorem Strands.copied (strands : Strands disk root video id base place content)
    (written : root.Written) (isId : IsId id) :
    disk.copyFile video.text (videoPath root id).text =
      .ok (disk.put (base ++ [id ++ ".mp4"]) (.file content)) :=
  (strands.laid.copyFile_eq_ok written isId).mpr ⟨place, content, strands.copies, rfl⟩

/-- There is one copy alone that can be stranded. -/
theorem Strands.unique {made : Disk} {place' base' : Place} {content' : Bytes}
    (strands : Strands made root video id base' place' content') (laid : Laid made root base)
    (copies : Copies made root video id base place content) :
    base' = base ∧ content' = content := by
  obtain rfl := Except.ok.inj (strands.laid.found.symm.trans laid.found)
  obtain rfl := Except.ok.inj (strands.copies.found.symm.trans copies.found)
  have same := Option.some.inj (strands.copies.present.symm.trans copies.present)
  exact ⟨rfl, Entry.file.inj same⟩

/-- Where the copy stays, a file has changed. -/
theorem Strands.put_changes {made : Disk} (strands : Strands made root video id base place content)
    (furnished : disk.Furnished made) :
    ¬disk.FilesBut (fun _ => False) (made.put (base ++ [id ++ ".mp4"]) (.file content)) := by
  intro same
  have copied : Disk.entry? (made.put (base ++ [id ++ ".mp4"]) (.file content))
      (base ++ [id ++ ".mp4"]) = some (.file content) := by
    rw [Disk.entry_put (by simp), if_pos rfl]
  have early := (same.files _ content not_false).mp copied
  exact strands.changed (furnished.file_iff.mpr early)

/-- The directories can be made and the video copied, but the record cannot be written, and the copy
is no file that was there. -/
def LeavesCopy (disk : Disk) (root video : Path) (id : String) : Prop :=
  root.text.toList.contains '\x00' = false ∧ video.text.toList.contains '\x00' = false ∧
    ∃ made, disk.ensureDirectories root = (.ok (), made) ∧
      ∃ base place content, Strands made root video id base place content

/-- A failure leaves the files as they are unless it strands a copy. -/
theorem Ends.same_iff {text : Bytes} {after : Disk} {failure : Failure} (written : root.Written)
    (isId : IsId id) (ends : Ends root video id text disk (.error failure) after) :
    disk.FilesBut (fun _ => False) after ↔
      ¬LeavesCopy disk root video id := by
  -- Where a step before the record fails, only directories have been made, and nothing is stranded.
  have early {made : Disk} (furnished : disk.Furnished made)
      (unstranded : root.text.toList.contains '\x00' = false →
        video.text.toList.contains '\x00' = false →
          ∀ ready, disk.ensureDirectories root = (.ok (), ready) →
            ∀ base place content, ¬Strands ready root video id base place content) :
      disk.FilesBut (fun _ => False) made ↔
        ¬LeavesCopy disk root video id := by
    refine iff_of_true furnished.filesBut ?_
    rintro ⟨rootless, nullless, ready, ensured, base, place, content, strands⟩
    exact unstranded rootless nullless ready ensured base place content strands
  cases ends with
  | nullRoot null =>
    refine early (.refl disk) fun rootless => ?_
    cases null.symm.trans rootless
  | noRoot refused =>
    refine early (furnished_of_ensured refused) fun _ _ ready ensured => ?_
    cases refused.symm.trans ensured
  | nullVideo ensured null =>
    refine early (furnished_of_ensured ensured) fun _ nullless => ?_
    cases null.symm.trans nullless
  | noCopy ensured refused =>
    refine early (furnished_of_ensured ensured) fun _ _ ready again base place content strands => ?_
    cases ensured.symm.trans again
    cases refused.symm.trans (strands.copied written isId)
  | @noRecord _ _ made _ rootless ensured nullless copy refused =>
    have furnished := furnished_of_ensured ensured
    obtain ⟨base, laid⟩ := exists_laid ensured
    obtain ⟨place, content, copies, rfl⟩ := (laid.copyFile_eq_ok written isId).mp copy
    have blocked : Blocked made root id base := by
      rw [← blocked_put, ← (laid.put copies.free content).write_record written isId]
      exact ⟨_, refused⟩
    by_cases changed : made.entry? (base ++ [id ++ ".mp4"]) = some (.file content)
    · -- The same copy was there already, and what is stranded could be no other.
      have unchanged : disk.FilesBut (fun _ => False) made := furnished.filesBut
      have whole := (unchanged.trans (Disk.filesBut_put_same changed)).mono fun _ => or_self_iff.mp
      refine iff_of_true whole ?_
      rintro ⟨_, _, ready, again, base', place', content', strands⟩
      cases ensured.symm.trans again
      obtain ⟨rfl, rfl⟩ := strands.unique laid copies
      exact strands.changed changed
    · have strands : Strands made root video id base place content := ⟨laid, copies, changed, blocked⟩
      refine iff_of_false (strands.put_changes furnished) ?_
      rw [not_not]
      exact ⟨rootless, nullless, made, ensured, base, place, content, strands⟩

/-- What leaves a copy fails. -/
theorem LeavesCopy.fails {text : Bytes} {after : Disk} {outcome : Except Failure Unit}
    (leaves : LeavesCopy disk root video id) (written : root.Written) (isId : IsId id)
    (ends : Ends root video id text disk outcome after) : ∃ failure, outcome = .error failure := by
  obtain ⟨_, _, made, ensured, base, place, content, strands⟩ := leaves
  cases ends with
  | filed again copy recorded =>
    cases ensured.symm.trans again
    obtain rfl := Except.ok.inj ((strands.copied written isId).symm.trans copy)
    have later := strands.laid.put strands.copies.free content
    obtain ⟨refusal, refused⟩ :=
      (later.write_record written isId).mpr (blocked_put.mpr strands.blocked)
    cases recorded.symm.trans refused
  | _ => exact ⟨_, rfl⟩

/-- A failure is told as one of publishing if it is one of the system. -/
def toldFailure (root video : Path) : Failure → Failure
  | .system cause => .publish (.notFiled video.text root.text cause)
  | failure => failure

theorem upload_on (root video : Path) (title description : String) (options : PublishOptions)
    (start : Workspace) :
    (upload root video title description options).on start =
      (match ((fileVideo root video (nextId start) title description options).on
          { start with ids := start.ids + 1 }).1 with
        | .ok _ => .ok ⟨nextId start, none⟩
        | .error failure => .error (toldFailure root video failure),
      ((fileVideo root video (nextId start) title description options).on
        { start with ids := start.ids + 1 }).2) := by
  have fresh : freshId.on start =
      (.ok (idDigits (start.ids + 1)), { start with ids := start.ids + 1 }) := rfl
  rw [upload, Action.on_bind, fresh]
  dsimp only
  rw [Action.on_bind, Action.on_attempt]
  rw [nextId]
  rcases (fileVideo root video (String.ofList ((idDigits (start.ids + 1)).take idLength)) title
    description options).on { start with ids := start.ids + 1 } with ⟨failure | _, last⟩
  · cases failure <;> rfl
  · rfl

/-- Publishing into a directory either files the video with its record, or fails. A failure leaves
all files as they are, but where the copy can be made and the record cannot be written. -/
theorem upload_settles (rootText : String) (video : Path) (title description : String)
    (options : PublishOptions) (start : Workspace) :
    (∀ artifact last,
      (upload (.ofText rootText) video title description options).on start = (.ok artifact, last) →
        ∃ base place content, Filed start.disk last.disk (.ofText rootText) video artifact.id
          (Text.encodeUtf8 (record title description options)) base place content) ∧
    (∀ failure last,
      (upload (.ofText rootText) video title description options).on start = (.error failure, last) →
        (start.disk.FilesBut (fun _ => False) last.disk ↔
          ¬LeavesCopy start.disk (.ofText rootText) video (nextId start))) ∧
    (LeavesCopy start.disk (.ofText rootText) video (nextId start) → ∃ failure last,
      (upload (.ofText rootText) video title description options).on start = (.error failure, last)) := by
  have written := Path.ofText_written rootText
  have isId := nextId_isId start
  have ends := fileVideo_ends (.ofText rootText) video (nextId start) title description options
    { start with ids := start.ids + 1 }
  rw [upload_on]
  generalize (fileVideo (.ofText rootText) video (nextId start) title description options).on
    { start with ids := start.ids + 1 } = filing at ends ⊢
  obtain ⟨outcome, last⟩ := filing
  cases outcome with
  | ok _ =>
    refine ⟨?_, nofun, fun leaves => ?_⟩
    · rintro artifact last ⟨⟩
      exact ends.exists_filed written isId
    · obtain ⟨failure, refused⟩ := leaves.fails written isId ends
      cases refused
  | error failure =>
    refine ⟨nofun, ?_, fun _ => ⟨_, _, rfl⟩⟩
    rintro _ _ ⟨⟩
    exact ends.same_iff written isId

/-- A video in the working directory, and a directory that may be in the way. -/
def desk (more : List (Place × Entry)) : Workspace where
  disk := ⟨[(["w"], .directory), (["w", "v.mp4"], .file [1, 2])] ++ more, ["w"], ["tmp"]⟩
  names := 0
  ids := 0
  readings := 0
  journal := []

theorem desk_filed :
    ∃ last base place content,
      (upload (.ofText "out") (.ofText "v.mp4") "T" "D" .default).on (desk []) =
        (.ok ⟨"00000000001", none⟩, last) ∧
      Filed (desk []).disk last.disk (.ofText "out") (.ofText "v.mp4") "00000000001"
        (Text.encodeUtf8 (record "T" "D" .default)) base place content := by
  have done : ((upload (.ofText "out") (.ofText "v.mp4") "T" "D" .default).on (desk [])).1 =
      .ok ⟨"00000000001", none⟩ := by
    decide +kernel
  obtain ⟨base, place, content, filed⟩ := (upload_settles "out" (.ofText "v.mp4") "T" "D" .default
    (desk [])).1 _ _ (Prod.ext done rfl)
  exact ⟨_, base, place, content, Prod.ext done rfl, filed⟩

/-- Where a directory has the name of the record, publishing fails and leaves the copy of the video. -/
theorem desk_stranded :
    let start := desk [(["w", "out"], .directory), (["w", "out", "00000000001.yaml"], .directory)]
    let ended := (upload (.ofText "out") (.ofText "v.mp4") "T" "D" .default).on start
    ended.1 = .error (.publish (.notFiled "v.mp4" "out"
      (.refused .isDirectory "out/00000000001.yaml"))) ∧
    Disk.entry? start.disk ["w", "out", "00000000001.mp4"] = none ∧
    Disk.entry? ended.2.disk ["w", "out", "00000000001.mp4"] = some (.file [1, 2]) := by
  decide +kernel

end Directory

end Montage
