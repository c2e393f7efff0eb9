import Montage.Proofs.File.SameBut

/-! A copy in the temporary directory that is taken away again leaves the directory as it was, at any
depth, whatever was done with the copy in between. -/

namespace Montage

/-- A disk before and after changes under some names of its temporary directory, and anywhere outside of
it but on the way to it. After them too everything is in a directory. -/
structure Disk.Undisturbed (touched : Set String) (before after : Disk) : Prop where
  rooted : after.Rooted
  located : after.temporaryDirectory = before.temporaryDirectory
  above : ∀ upper : Place, upper <+: before.temporaryDirectory →
    after.entry? upper = before.entry? upper
  below : ∀ name ∉ touched, ∀ rest : Place,
    after.entry? (before.temporaryDirectory ++ name :: rest) =
      before.entry? (before.temporaryDirectory ++ name :: rest)

variable {disk origin middle last : Disk} {place directory : Place} {name : String}
  {touched more : Set String} {content : Bytes} {path : Path} {workspace : Workspace}

namespace Disk

theorem not_within : ¬directory ++ [name] <+: directory := by
  intro near
  have := near.length_le
  rw [List.length_append, List.length_singleton] at this
  omega

namespace Rooted

theorem put_file (rooted : disk.Rooted) (inside : disk.entry? directory = some .directory)
    (free : disk.entry? (directory ++ [name]) ≠ some .directory) :
    (disk.put (directory ++ [name]) (.file content)).Rooted := by
  have below : directory ++ [name] ≠ [] := by simp
  intro upper other there
  have above : Disk.entry? disk upper = some .directory := by
    rw [entry_put below] at there
    split at there
    · rename_i same
      obtain ⟨rfl, _⟩ := List.append_inj' same rfl
      exact inside
    · exact rooted upper other there
  rw [entry_put below, if_neg, above]
  rintro rfl
  exact free above

/-- What is taken away is gone with everything below it, and nothing else is. -/
theorem entry_discard (rooted : workspace.disk.Rooted) (deep : path.names ≠ []) (below : place ≠ [])
    (found : workspace.disk.find path.text = .ok place) (other : Place) :
    (Montage.discard path workspace).disk.entry? other =
      if place <+: other then none else workspace.disk.entry? other := by
  have full : path.names.isEmpty = false := by simpa using deep
  simp only [Montage.discard, Disk.remove, found, full, Bool.false_eq_true, if_false]
  split
  · rename_i gone
    split
    · rename_i inside
      exact rooted.absent_below (by simpa using gone) inside
    · rfl
  · exact entry_drop below

theorem discard (rooted : workspace.disk.Rooted) (deep : path.names ≠ []) (below : place ≠ [])
    (found : workspace.disk.find path.text = .ok place) :
    (Montage.discard path workspace).disk.Rooted := by
  intro upper name there
  rw [rooted.entry_discard deep below found] at there ⊢
  split at there
  · cases there
  · rename_i apart
    rw [if_neg fun inside => apart (inside.trans (List.prefix_append upper [name]))]
    exact rooted upper name there

end Rooted

namespace Undisturbed

theorem refl (rooted : disk.Rooted) : disk.Undisturbed touched disk :=
  ⟨rooted, rfl, fun _ _ => rfl, fun _ _ _ => rfl⟩

theorem trans (first : origin.Undisturbed touched middle) (later : middle.Undisturbed touched last) :
    origin.Undisturbed touched last where
  rooted := later.rooted
  located := later.located.trans first.located
  above upper near := (later.above upper (by rwa [first.located])).trans (first.above upper near)
  below name aside rest := by
    have here := later.below name aside rest
    rw [first.located] at here
    exact here.trans (first.below name aside rest)

section Plain

variable (plain : origin.temporaryDirectory.Plain)

include plain

/-- A path under the directory leads where it led. -/
theorem find (first : origin.Undisturbed touched disk) (later : origin.Undisturbed more last)
    (named : PlainName name) (found : disk.find (origin.temporaryDirectory.textOf name) = .ok place) :
    last.find (origin.temporaryDirectory.textOf name) = .ok place := by
  have same (upper : Place) (near : upper <+: origin.temporaryDirectory) :
      last.entry? upper = disk.entry? upper :=
    (later.above upper near).trans (first.above upper near).symm
  exact find_under plain named same found

/-- A file is made or written under a name. -/
theorem put_file (undisturbed : origin.Undisturbed touched disk) (named : PlainName name)
    (found : disk.find (origin.temporaryDirectory.textOf name) =
      .ok (origin.temporaryDirectory ++ [name]))
    (free : disk.entry? (origin.temporaryDirectory ++ [name]) ≠ some .directory) (content : Bytes) :
    origin.Undisturbed (insert name touched)
      (disk.put (origin.temporaryDirectory ++ [name]) (.file content)) where
  rooted := undisturbed.rooted.put_file (directory_of_find plain named found) free
  located := put_temporaryDirectory.trans undisturbed.located
  above upper near := by
    rw [entry_put (by simp), if_neg, undisturbed.above upper near]
    rintro rfl
    exact not_within near
  below other aside rest := by
    obtain ⟨apart, aside⟩ := not_or.mp (Set.mem_insert_iff.not.mp aside)
    rw [entry_put (by simp), if_neg, undisturbed.below other aside rest]
    intro same
    exact apart (List.cons.inj (List.append_cancel_left same)).1

/-- A name that was free is free again when what was made under it is taken away. -/
theorem discard (undisturbed : origin.Undisturbed (insert name touched) workspace.disk)
    (named : PlainName name)
    (free : name ∉ touched → ∀ rest, origin.entry? (origin.temporaryDirectory ++ name :: rest) = none)
    (found : workspace.disk.find (origin.temporaryDirectory.textOf name) =
      .ok (origin.temporaryDirectory ++ [name])) :
    origin.Undisturbed touched
      (Montage.discard (.ofText (origin.temporaryDirectory.textOf name)) workspace).disk := by
  have names := Place.textOf_names plain named
  have deep : (Path.ofText (origin.temporaryDirectory.textOf name)).names ≠ [] := by simp [names]
  have below : origin.temporaryDirectory ++ [name] ≠ [] := by simp
  rw [← Place.textOf_text plain named] at found
  have entries := undisturbed.rooted.entry_discard deep below found
  have located : (Montage.discard (.ofText (origin.temporaryDirectory.textOf name))
      workspace).disk.temporaryDirectory = workspace.disk.temporaryDirectory := by
    simp only [Montage.discard, remove_temporaryDirectory]
  refine ⟨undisturbed.rooted.discard deep below found, located.trans undisturbed.located,
    fun upper near => ?_, fun other aside rest => ?_⟩
  · rw [entries, if_neg, undisturbed.above upper near]
    exact fun inside => not_within (inside.trans near)
  · by_cases own : other = name
    · subst own
      rw [entries, if_pos ⟨rest, by simp⟩, free aside]
    · rw [entries, if_neg, undisturbed.below other (by simp [own, aside])]
      rintro ⟨more, same⟩
      rw [List.append_assoc] at same
      exact own (List.cons.inj (List.append_cancel_left same)).1.symm

end Plain

end Undisturbed

end Disk

/-- A file was made under a name that was free, or nothing was. -/
inductive StagedAside (origin : Disk) (touched : Set String) :
    Except Failure Path → Workspace → Prop where
  | made {name : String} {last : Workspace} (temporary : TemporaryName name)
      (free : name ∉ touched →
        ∀ rest, origin.entry? (origin.temporaryDirectory ++ name :: rest) = none)
      (reached : last.disk.find (origin.temporaryDirectory.textOf name) =
        .ok (origin.temporaryDirectory ++ [name]))
      (undisturbed : origin.Undisturbed (insert name touched) last.disk) :
      StagedAside origin touched (.ok (.ofText (origin.temporaryDirectory.textOf name))) last
  | lost {failure : Failure} {last : Workspace} (undisturbed : origin.Undisturbed touched last.disk) :
      StagedAside origin touched (.error failure) last

/-- When the tool reports on a temporary file it can do as it likes with the file, under some more names
in the temporary directory and outside of it, but leaves the rest of the directory alone. -/
def Toolbox.ProbesAside (toolbox : Toolbox) (touched : Set String) : Prop :=
  ∀ past name timeout (disk : Disk), disk.Rooted → disk.temporaryDirectory.Plain →
    TemporaryName name →
      let arguments := [toolbox.installation.tool, "-i", disk.temporaryDirectory.textOf name]
      disk.Undisturbed (insert name touched)
        (toolbox.run past (.make "probe" arguments timeout disk) disk).2

section Probing

variable {upload : Upload} {purpose suffix : String} {toolbox : Toolbox} {timeout : Number}
  (plain : origin.temporaryDirectory.Plain)

include plain

/-- Whatever is done under the name of a file that was made, it is taken away again. -/
theorem StagedAside.discard {file : Path} (staged : StagedAside origin touched (.ok file) workspace) :
    origin.Undisturbed touched (Montage.discard file workspace).disk := by
  obtain ⟨temporary, free, reached, undisturbed⟩ | _ := staged
  exact undisturbed.discard plain temporary.plain free reached

theorem makeFresh_aside (purposePlain : '/' ∉ purpose.toList) (suffixPlain : '/' ∉ suffix.toList) :
    (makeFresh purpose suffix (.file [])).Ensures (origin.Undisturbed touched ·.disk)
      (StagedAside origin touched) := by
  intro start undisturbed
  have makes := makeFresh_makes (.file []) (fun _ undisturbed => undisturbed.located) purposePlain
    suffixPlain start undisturbed
  generalize (makeFresh purpose suffix (.file [])).on start = result at makes ⊢
  obtain ⟨failure | file, last⟩ := result
  · obtain _ | ⟨_, undisturbed⟩ := makes
    exact .lost undisturbed
  · obtain @⟨name, before, _, temporary, undisturbed, created⟩ | _ := makes
    obtain ⟨place, found, free, same⟩ := Disk.create_eq_ok.mp created
    obtain rfl := Disk.Holds.find_place plain temporary found
    have grown := undisturbed.put_file plain temporary.plain found (by simp [free]) []
    rw [← same] at grown
    refine .made temporary (fun aside rest => ?_) ?_ grown
    · -- The name was free just before, and so it was at first if nobody else has touched it.
      rw [← undisturbed.below name aside]
      exact undisturbed.rooted.absent_below free ⟨rest, by simp⟩
    · exact undisturbed.find plain grown temporary.plain found

theorem Upload.copyTo_aside {file : Path} :
    (upload.copyTo file).Keeps (StagedAside origin touched (.ok file)) := by
  refine (Action.keeps_look _).bind fun content => ?_
  refine Action.change_ensures (fun start disk staged written => ?_) fun _ _ staged => staged
  obtain ⟨temporary, free, reached, undisturbed⟩ | _ := staged
  obtain ⟨place, found, notDirectory, rfl⟩ :=
    Disk.write_eq_ok.mp (Except.mapError_eq_ok.mp written)
  rw [Place.textOf_text plain temporary.plain, reached] at found
  obtain rfl := Except.ok.inj found
  have left := undisturbed.put_file plain temporary.plain reached notDirectory content
  rw [Set.insert_idem] at left
  exact .made temporary free (undisturbed.find plain left temporary.plain reached) left

theorem stage_aside (purposePlain : '/' ∉ purpose.toList) (suffixPlain : '/' ∉ suffix.toList) :
    (stage upload purpose suffix).Ensures (origin.Undisturbed touched ·.disk)
      (StagedAside origin touched) := by
  refine (makeFresh_aside plain purposePlain suffixPlain).bind (fun file start staged => ?_) ?_
  · have copied := (upload.copyTo_aside plain : (upload.copyTo file).Keeps _) start staged
    rw [Action.on_bind, Action.on_attempt]
    cases outcome : ((upload.copyTo file).on start).1 with
    | ok _ => exact copied
    | error failure => exact .lost (copied.discard plain)
  · rintro failure last (_ | ⟨undisturbed⟩)
    exact .lost undisturbed

/-- The tool is asked about the file that was made, and leaves all others alone. -/
theorem invoke_aside {file : Path} (aside : toolbox.ProbesAside touched) :
    (toolbox.invoke "probe" [toolbox.installation.tool, "-i", file.text] timeout).Keeps
      (StagedAside origin touched (.ok file)) := by
  intro start staged
  obtain @⟨name, _, temporary, free, reached, undisturbed⟩ | _ := staged
  have located := undisturbed.located
  have done := aside start.calls name timeout start.disk undisturbed.rooted (by rwa [located]) temporary
  rw [located] at done
  rw [Place.textOf_text plain temporary.plain]
  have left := undisturbed.trans done
  exact .made temporary free (undisturbed.find plain left temporary.plain reached) left

/-- Probing leaves nothing in the temporary directory and takes nothing away, whatever the tool answers
and whatever it does with the copy. -/
theorem probeUpload_aside (aside : toolbox.ProbesAside touched) :
    (probeUpload toolbox timeout upload).Keeps (origin.Undisturbed touched ·.disk) := by
  refine (stage_aside plain (by decide) (assetSuffix_slashless upload)).attempt fun outcome => ?_
  cases outcome with
  | error failure =>
    rintro start (_ | ⟨undisturbed⟩)
    cases failure <;> exact undisturbed
  | ok file =>
    intro start staged
    have probed : (probeFile toolbox file.text timeout).Keeps (StagedAside origin touched (.ok file)) :=
      probeFile_keeps (invoke_aside plain aside)
    exact (probed start staged).discard plain

end Probing

end Montage
