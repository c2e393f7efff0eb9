import Montage.Proofs.File.Temporary

/-! Lists of temporary files that belong together. -/

namespace Montage

/-- The names of files. -/
def Path.namesOf (files : List Path) : Set String :=
  {name | ∃ file ∈ files, file.name = name}

/-- Temporary files, each under a name of its own and none under one of other names. -/
structure Owned (directory : Place) (others : Set String) (files : List Path) : Prop where
  temporary : ∀ file ∈ files, file.Temporary directory
  distinct : (files.map Path.name).Nodup
  apart : ∀ file ∈ files, file.name ∉ others

variable {directory : Place} {others : Set String} {files more : List Path} {file : Path}

namespace Path

@[simp] theorem namesOf_nil : namesOf [] = ∅ := by
  simp [namesOf]

theorem namesOf_cons : namesOf (file :: files) = insert file.name (namesOf files) := by
  ext name
  simp [namesOf, eq_comm]

theorem namesOf_append : namesOf (files ++ more) = namesOf files ∪ namesOf more := by
  ext name
  simp [namesOf, or_and_right, exists_or]

theorem namesOf_perm (same : files.Perm more) : namesOf files = namesOf more := by
  ext name
  simp [namesOf, same.mem_iff]

theorem mem_namesOf (member : file ∈ files) : file.name ∈ namesOf files := ⟨file, member, rfl⟩

end Path

namespace Owned

theorem nil : Owned directory others [] :=
  ⟨nofun, List.nodup_nil, nofun⟩

theorem append_iff :
    Owned directory others (files ++ more) ↔
      Owned directory others files ∧ Owned directory (others ∪ Path.namesOf files) more := by
  constructor
  · rintro ⟨temporary, distinct, apart⟩
    rw [List.map_append, List.nodup_append] at distinct
    obtain ⟨first, second, across⟩ := distinct
    refine ⟨⟨fun file member => temporary file (List.mem_append_left _ member), first,
      fun file member => apart file (List.mem_append_left _ member)⟩,
      ⟨fun file member => temporary file (List.mem_append_right _ member), second, ?_⟩⟩
    rintro file member (old | ⟨other, owned, same⟩)
    · exact apart file (List.mem_append_right _ member) old
    · exact across other.name (List.mem_map_of_mem owned) file.name (List.mem_map_of_mem member) same
  · rintro ⟨first, second⟩
    refine ⟨?_, ?_, ?_⟩
    · rintro file member
      exact (List.mem_append.mp member).elim (first.temporary file) (second.temporary file)
    · rw [List.map_append, List.nodup_append]
      refine ⟨first.distinct, second.distinct, ?_⟩
      rintro _ early _ late rfl
      obtain ⟨one, oneOwned, same⟩ := List.mem_map.mp early
      obtain ⟨other, otherOwned, rfl⟩ := List.mem_map.mp late
      exact second.apart other otherOwned (.inr ⟨one, oneOwned, same⟩)
    · rintro file member
      rcases List.mem_append.mp member with early | late
      · exact first.apart file early
      · exact fun old => second.apart file late (.inl old)

theorem perm (owned : Owned directory others files) (same : files.Perm more) :
    Owned directory others more where
  temporary file member := owned.temporary file (same.mem_iff.mpr member)
  distinct := (same.map Path.name).nodup_iff.mp owned.distinct
  apart file member := owned.apart file (same.mem_iff.mpr member)

theorem singleton (temporary : file.Temporary directory) (fresh : file.name ∉ others) :
    Owned directory others [file] where
  temporary := by simpa using temporary
  distinct := by simp
  apart := by simpa using fresh

/-- Files that are owned can be taken away, which leaves the others. -/
theorem discardAll {workspace : Workspace} (owned : Owned directory others files)
    (holds : workspace.disk.Holds directory (others ∪ Path.namesOf files)) :
    (Montage.discardAll files workspace).disk.Holds directory others := by
  induction files generalizing workspace with
  | nil => simpa [Montage.discardAll] using holds
  | cons file rest ih =>
    obtain ⟨first, later⟩ := append_iff.mp (show Owned directory others ([file] ++ rest) from owned)
    have left := holds.discard (first.temporary file List.mem_cons_self)
    have absent : file.name ∉ others ∪ Path.namesOf rest := by
      rintro (old | ⟨other, member, same⟩)
      · exact first.apart file List.mem_cons_self old
      · exact later.apart other member (.inr (same ▸ Path.mem_namesOf List.mem_cons_self))
    rw [Path.namesOf_cons, Set.union_insert, Set.insert_sdiff_of_mem _ (Set.mem_singleton _),
      Set.sdiff_singleton_eq_self absent] at left
    refine ih ⟨later.temporary, later.distinct, fun other member old => ?_⟩ left
    exact later.apart other member (.inl old)

end Owned

end Montage
