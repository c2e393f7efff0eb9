import Mathlib.Data.List.Induction
import Montage.Proofs.File.Beside

/-! Disks that differ at some places alone. Files come and go there, but directories stay, so every path
leads where it led. -/

namespace Montage

/-- A disk before and after changes of the files at some places. -/
structure Disk.SameBut (changed : Place → Prop) (before after : Disk) : Prop where
  working : after.workingDirectory = before.workingDirectory
  located : after.temporaryDirectory = before.temporaryDirectory
  directories : ∀ place, after.entry? place = some .directory ↔ before.entry? place = some .directory
  entries : ∀ place, ¬changed place → after.entry? place = before.entry? place

variable {changed more : Place → Prop} {disk before middle after : Disk} {place other : Place}
  {text : String} {path : Path}

namespace Disk.SameBut

theorem refl (disk : Disk) : disk.SameBut changed disk :=
  ⟨rfl, rfl, fun _ => Iff.rfl, fun _ _ => rfl⟩

theorem mono (same : before.SameBut changed after) (all : ∀ place, changed place → more place) :
    before.SameBut more after :=
  ⟨same.working, same.located, same.directories, fun place kept =>
    same.entries place fun here => kept (all place here)⟩

theorem trans (first : before.SameBut changed middle) (later : middle.SameBut changed after) :
    before.SameBut changed after where
  working := later.working.trans first.working
  located := later.located.trans first.located
  directories place := (later.directories place).trans (first.directories place)
  entries place kept := (later.entries place kept).trans (first.entries place kept)

theorem find_iff (same : before.SameBut changed after) :
    after.find text = .ok place ↔ before.find text = .ok place :=
  ⟨find_mono same.working.symm fun upper => (same.directories upper).mp,
    find_mono same.working fun upper => (same.directories upper).mpr⟩

/-- Writing a file changes what is where its path leads. -/
theorem of_write {content : Bytes} (written : before.write text content = .ok after) :
    before.SameBut (before.find text = .ok ·) after := by
  obtain ⟨place, found, free, rfl⟩ := write_eq_ok.mp written
  have below : place ≠ [] := by
    rintro rfl
    exact free rfl
  refine ⟨put_workingDirectory, put_temporaryDirectory, fun other => ?_, fun other kept => ?_⟩
  · rw [entry_put below]
    split
    · rename_i here
      simp [here, free]
    · exact Iff.rfl
  · rw [entry_put below, if_neg]
    rintro rfl
    exact kept found

end Disk.SameBut

/-- Where nothing is, there is nothing below. -/
theorem Disk.Rooted.absent_below (rooted : disk.Rooted) (absent : disk.entry? place = none)
    (inside : place <+: other) : disk.entry? other = none := by
  obtain ⟨rest, rfl⟩ := inside
  induction rest using List.reverseRecOn with
  | nil => rwa [List.append_nil]
  | append_singleton rest name ih =>
    cases there : disk.entry? (place ++ (rest ++ [name])) with
    | none => rfl
    | some entry =>
      rw [← List.append_assoc] at there
      cases ih.symm.trans (rooted _ _ (Option.isSome_of_eq_some there))

/-- A directory that was made where nothing was is taken away again, and with it all changes below. -/
theorem Disk.SameBut.discard {workspace : Workspace} (rooted : before.Rooted)
    (absent : before.entry? place = none) (deep : path.names ≠ [])
    (made : middle = before.put place .directory) (found : middle.find path.text = .ok place)
    (same : middle.SameBut changed workspace.disk) :
    before.SameBut (fun other => changed other ∧ ¬place <+: other)
      (Montage.discard path workspace).disk := by
  have below : place ≠ [] := by
    rintro rfl
    cases absent
  have there : workspace.disk.entry? place = some .directory :=
    (same.directories place).mpr (by rw [made, entry_put below, if_pos rfl])
  have full : path.names.isEmpty = false := by simpa using deep
  have dropped : (Montage.discard path workspace).disk = workspace.disk.drop place := by
    simp [Montage.discard, Disk.remove, same.find_iff.mpr found, there, full]
  -- Outside of the directory the disk is as it was when the directory was made.
  have outside {other : Place} (aside : ¬place <+: other) :
      middle.entry? other = before.entry? other := by
    rw [made, entry_put below, if_neg]
    rintro rfl
    exact aside List.prefix_rfl
  have working : middle.workingDirectory = before.workingDirectory := made ▸ put_workingDirectory
  have located : middle.temporaryDirectory = before.temporaryDirectory := made ▸ put_temporaryDirectory
  rw [dropped]
  refine ⟨same.working.trans working, same.located.trans located, fun other => ?_,
    fun other kept => ?_⟩
  · rw [entry_drop below]
    split
    · rename_i inside
      simp [rooted.absent_below absent inside]
    · rename_i aside
      rw [same.directories, outside aside]
  · rw [entry_drop below]
    split
    · rename_i inside
      exact (rooted.absent_below absent inside).symm
    · rename_i aside
      rw [same.entries other fun here => kept ⟨here, aside⟩, outside aside]

end Montage
