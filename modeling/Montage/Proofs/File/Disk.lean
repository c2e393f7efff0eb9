import Montage.Proofs.File.Path
import Montage.Proofs.Outcome

/-! Disks are read like finite maps from places to entries. -/

namespace Montage

namespace Disk

variable {disk : Disk} {place other : Place} {entry : Entry}

theorem lookup_cons_ite (at' : Place) (content : Entry) (rest : List (Place × Entry)) :
    ((at', content) :: rest).lookup other =
      if other = at' then some content else rest.lookup other := by
  rw [List.lookup_cons]
  by_cases same : other = at'
  · simp [same]
  · simp [same, beq_eq_false_iff_ne.mpr same]

theorem lookup_map_put (entries : List (Place × Entry)) :
    (entries.map fun old => if old.1 == place then (place, entry) else old).lookup other =
      if other = place ∧ entries.any (·.1 == place) then some entry else entries.lookup other := by
  induction entries with
  | nil => simp
  | cons old rest ih =>
    obtain ⟨at', content⟩ := old
    by_cases here : at' = place
    · subst here
      simp only [List.map_cons, List.any_cons, BEq.rfl, if_true, lookup_cons_ite, ih]
      by_cases asked : other = at'
      · simp [asked]
      · simp [asked]
    · have skip : (at' == place) = false := beq_eq_false_iff_ne.mpr here
      simp only [List.map_cons, List.any_cons, skip, Bool.false_eq_true, if_false, lookup_cons_ite,
        ih, Bool.false_or]
      by_cases asked : other = at'
      · simp [asked, here]
      · simp [asked]

theorem lookup_absent {entries : List (Place × Entry)}
    (absent : entries.any (·.1 == place) = false) : entries.lookup place = none := by
  induction entries with
  | nil => rfl
  | cons old rest ih =>
    simp only [List.any_cons, Bool.or_eq_false_iff] at absent
    have differ : (place == old.1) = false := by
      rw [beq_eq_false_iff_ne]
      exact fun same => beq_eq_false_iff_ne.mp absent.1 same.symm
    rw [List.lookup_cons, differ, ih absent.2]

@[simp] theorem put_workingDirectory :
    (disk.put place entry).workingDirectory = disk.workingDirectory := by
  rw [put]
  split <;> rfl

@[simp] theorem put_temporaryDirectory :
    (disk.put place entry).temporaryDirectory = disk.temporaryDirectory := by
  rw [put]
  split <;> rfl

theorem entry_put (below : place ≠ []) :
    Disk.entry? (disk.put place entry) other =
      if other = place then some entry else disk.entry? other := by
  by_cases root : other = []
  · subst root
    simp [Disk.entry?, below.symm]
  · have inside : other.isEmpty = false := by simpa using root
    rw [Disk.entry?, Disk.entry?, inside, put]
    cases present : disk.entries.any (·.1 == place) with
    | true =>
      rw [if_pos rfl]
      dsimp only
      rw [lookup_map_put, present]
      simp
    | false =>
      have absent := lookup_absent present
      by_cases same : other = place
      · simp [same, List.lookup_append, absent]
      · simp [same, List.lookup_append, lookup_cons_ite]

theorem lookup_filter_drop (entries : List (Place × Entry)) :
    (entries.filter fun (at', _) => !place.isPrefixOf at').lookup other =
      if place <+: other then none else entries.lookup other := by
  induction entries with
  | nil => simp
  | cons old rest ih =>
    obtain ⟨at', content⟩ := old
    by_cases gone : place <+: at'
    · have below : place.isPrefixOf at' = true := List.isPrefixOf_iff_prefix.mpr gone
      rw [List.filter_cons_of_neg (by simp [below]), ih, lookup_cons_ite]
      by_cases same : other = at'
      · simp [same, gone]
      · simp [same]
    · have aside : place.isPrefixOf at' = false :=
        Bool.eq_false_iff.mpr fun below => gone (List.isPrefixOf_iff_prefix.mp below)
      rw [List.filter_cons_of_pos (by simp [aside]), lookup_cons_ite, lookup_cons_ite, ih]
      by_cases same : other = at'
      · simp [same, gone]
      · simp [same]

theorem entry_drop (below : place ≠ []) :
    Disk.entry? (disk.drop place) other = if place <+: other then none else disk.entry? other := by
  by_cases root : other = []
  · subst root
    simp [Disk.entry?, below]
  · have inside : other.isEmpty = false := by simpa using root
    rw [Disk.entry?, Disk.entry?, inside]
    exact lookup_filter_drop disk.entries

/-- Where a walk leads depends on what is there on the way, not on what is at its end. -/
theorem walk_congr {last : Disk} {start : Place} {names : List String}
    (same : ∀ place : Place, place.length < start.length + names.length →
      last.entry? place = disk.entry? place) :
    last.walk start names = disk.walk start names := by
  induction names generalizing start with
  | nil => rfl
  | cons name rest ih =>
    have here := same start (by simp)
    have next (place : Place) (near : place.length ≤ start.length + 1) :
        last.walk place rest = disk.walk place rest :=
      ih fun other short => same other (by simp at short ⊢; omega)
    rw [walk, walk, here, next start (by omega), next start.dropLast (by simp; omega),
      next (start ++ [name]) (by simp)]

/-- A walk goes on from a directory, by what its next name means there. -/
theorem walk_cons_eq_ok {start : Place} {name : String} {rest : List String} :
    disk.walk start (name :: rest) = .ok place ↔
      disk.entry? start = some .directory ∧
        ((name = "." ∧ disk.walk start rest = .ok place) ∨
          (name ≠ "." ∧ name = ".." ∧ disk.walk start.dropLast rest = .ok place) ∨
          (name ≠ "." ∧ name ≠ ".." ∧ name.utf8ByteSize ≤ maxNameBytes ∧
            disk.walk (start ++ [name]) rest = .ok place)) := by
  simp [walk, ite_eq_iff, and_or_left]

/-- A walk along plain names leads to the place that they write. -/
theorem walk_place {start : Place} {names : List String} (plain : ∀ name ∈ names, PlainName name)
    (found : disk.walk start names = .ok place) : place = start ++ names := by
  induction names generalizing start with
  | nil =>
    rw [walk] at found
    simpa using (Except.ok.inj found).symm
  | cons name rest ih =>
    have head := plain name List.mem_cons_self
    obtain ⟨_, ⟨dot, _⟩ | ⟨_, dots, _⟩ | ⟨_, _, _, found⟩⟩ := walk_cons_eq_ok.mp found
    · exact absurd dot head.noDot
    · exact absurd dots head.noDots
    · simpa using ih (fun other member => plain other (List.mem_cons_of_mem _ member)) found

/-- A walk that leads somewhere does so too where there are more directories. -/
theorem walk_mono {last : Disk} {start : Place} {names : List String}
    (kept : ∀ upper, disk.entry? upper = some .directory → last.entry? upper = some .directory)
    (found : disk.walk start names = .ok place) : last.walk start names = .ok place := by
  induction names generalizing start with
  | nil => exact found
  | cons name rest ih =>
    obtain ⟨inside, ways⟩ := walk_cons_eq_ok.mp found
    refine walk_cons_eq_ok.mpr ⟨kept start inside, ?_⟩
    obtain ⟨dot, found⟩ | ⟨noDot, dots, found⟩ | ⟨noDot, noDots, short, found⟩ := ways
    · exact .inl ⟨dot, ih found⟩
    · exact .inr (.inl ⟨noDot, dots, ih found⟩)
    · exact .inr (.inr ⟨noDot, noDots, short, ih found⟩)

theorem find_mono {last : Disk} {text : String}
    (working : last.workingDirectory = disk.workingDirectory)
    (kept : ∀ upper, disk.entry? upper = some .directory → last.entry? upper = some .directory)
    (found : disk.find text = .ok place) : last.find text = .ok place := by
  simp only [find, ite_eq_iff, reduceCtorEq, and_false, false_or, working] at found ⊢
  obtain ⟨solid, short, walked⟩ := found
  exact ⟨solid, short, walk_mono kept walked⟩

/-- Writing a file puts it where no directory is. -/
theorem write_eq_ok {last : Disk} {text : String} {content : Bytes} :
    disk.write text content = .ok last ↔
      ∃ place, disk.find text = .ok place ∧ disk.entry? place ≠ some .directory ∧
        last = disk.put place (.file content) := by
  rw [write, Except.bind_eq_ok]
  refine exists_congr fun place => and_congr_right fun _ => ?_
  split
  · rename_i taken
    simp [taken]
  · rename_i free
    simpa using ⟨fun same => ⟨free, same.symm⟩, fun same => same.2.symm⟩

/-- Making something puts it where nothing was. -/
theorem create_eq_ok {last : Disk} {text : String} {entry : Entry} :
    disk.create text entry = .ok last ↔
      ∃ place, disk.find text = .ok place ∧ disk.entry? place = none ∧
        last = disk.put place entry := by
  rw [create, Except.bind_eq_ok]
  refine exists_congr fun place => and_congr_right fun _ => ?_
  split
  · rename_i taken
    simp [taken]
  · rename_i free
    simpa [free] using eq_comm

@[simp] theorem remove_temporaryDirectory {path : Path} :
    (disk.remove path).temporaryDirectory = disk.temporaryDirectory := by
  rw [remove]
  split
  · split
    · rfl
    · split <;> rfl
  · rfl

/-- A copy of a file is written. -/
theorem copyFile_written {last : Disk} {source target : String}
    (copied : disk.copyFile source target = .ok last) :
    ∃ content, disk.write target content = .ok last := by
  unfold copyFile at copied
  split at copied
  · cases copied
  · rename_i content _
    refine ⟨content, ?_⟩
    split at copied
    · cases copied
    · split at copied
      · cases copied
      · rename_i written
        rw [written]
        exact congrArg _ (Except.ok.inj copied)

end Disk

end Montage
