import Montage.Proofs.File.Found

/-! Making directories adds directories alone, and every path leads where it led. -/

namespace Montage

variable {path : Path} {disk : Disk} {place : Place}

namespace Disk

/-- There are more directories, where nothing was. -/
structure Furnished (before after : Disk) : Prop where
  working : after.workingDirectory = before.workingDirectory
  located : after.temporaryDirectory = before.temporaryDirectory
  entries : ∀ place, after.entry? place = before.entry? place ∨
    before.entry? place = none ∧ after.entry? place = some .directory

variable {before middle after : Disk} {text : String}

namespace Furnished

theorem refl (disk : Disk) : disk.Furnished disk := ⟨rfl, rfl, fun _ => .inl rfl⟩

theorem trans (first : before.Furnished middle) (later : middle.Furnished after) :
    before.Furnished after where
  working := later.working.trans first.working
  located := later.located.trans first.located
  entries place := by
    rcases later.entries place with same | ⟨absent, made⟩
    · rw [same]
      exact first.entries place
    · rcases first.entries place with kept | ⟨_, early⟩
      · exact .inr ⟨kept ▸ absent, made⟩
      · cases absent.symm.trans early

theorem directory (more : before.Furnished after) (inside : before.entry? place = some .directory) :
    after.entry? place = some .directory := by
  rcases more.entries place with same | ⟨_, made⟩
  · exact same.trans inside
  · exact made

/-- The files are those that were there. -/
theorem file_iff (more : before.Furnished after) {content : Bytes} :
    after.entry? place = some (.file content) ↔ before.entry? place = some (.file content) := by
  rcases more.entries place with same | ⟨absent, made⟩
  · rw [same]
  · simp [absent, made]

theorem find (more : before.Furnished after) (found : before.find text = .ok place) :
    after.find text = .ok place :=
  find_mono more.working (fun _ => more.directory) found

/-- A directory that was made is where its path leads. -/
theorem of_create (created : before.create text .directory = .ok after) :
    before.Furnished after ∧ after.status text = .ok .directory := by
  obtain ⟨place, found, free, rfl⟩ := create_eq_ok.mp created
  have below : place ≠ [] := by
    rintro rfl
    cases free
  have more : before.Furnished (before.put place .directory) := by
    refine ⟨put_workingDirectory, put_temporaryDirectory, fun other => ?_⟩
    rw [entry_put below]
    by_cases here : other = place
    · rw [if_pos here, here]
      exact .inr ⟨free, rfl⟩
    · rw [if_neg here]
      exact .inl rfl
  exact ⟨more, status_eq_ok.mpr ⟨place, more.find found, by rw [entry_put below, if_pos rfl]⟩⟩

end Furnished

theorem leave_eq_ok {refusal : Refusal}
    (left : ensureDirectories.leave disk path refusal = .ok ()) :
    disk.status path.text = .ok .directory := by
  rw [ensureDirectories.leave] at left
  split at left
  · assumption
  · cases left

/-- Making directories adds directories alone, and if nothing is refused, a directory is where the
path leads. -/
theorem ensureDirectories_go (fuel : Nat) (disk : Disk) (path : Path) :
    disk.Furnished (ensureDirectories.go fuel disk path).2 ∧
      ((ensureDirectories.go fuel disk path).1 = .ok () →
        (ensureDirectories.go fuel disk path).2.status path.text = .ok .directory) := by
  induction fuel generalizing disk path with
  | zero =>
    rw [ensureDirectories.go]
    split
    · rename_i created
      exact ⟨(Furnished.of_create created).1, fun _ => (Furnished.of_create created).2⟩
    · exact ⟨.refl disk, nofun⟩
    · exact ⟨.refl disk, leave_eq_ok⟩
  | succ fuel ih =>
    rw [ensureDirectories.go]
    split
    · rename_i created
      exact ⟨(Furnished.of_create created).1, fun _ => (Furnished.of_create created).2⟩
    · obtain ⟨more, _⟩ := ih disk path.parent
      generalize ensureDirectories.go fuel disk path.parent = result at more ⊢
      obtain ⟨failure | _, middle⟩ := result
      · exact ⟨more, nofun⟩
      · dsimp only
        split
        · rename_i created
          obtain ⟨furnished, there⟩ := Furnished.of_create created
          exact ⟨more.trans furnished, fun _ => there⟩
        · exact ⟨more, leave_eq_ok⟩
    · exact ⟨.refl disk, leave_eq_ok⟩

theorem ensureDirectories_furnished (disk : Disk) (path : Path) :
    disk.Furnished (disk.ensureDirectories path).2 :=
  (ensureDirectories_go _ disk path).1

theorem status_of_ensureDirectories (made : disk.ensureDirectories path = (.ok (), after)) :
    after.status path.text = .ok .directory := by
  have whole := (ensureDirectories_go path.names.length disk path).2
  rw [ensureDirectories] at made
  rw [made] at whole
  exact whole rfl

end Disk

end Montage
