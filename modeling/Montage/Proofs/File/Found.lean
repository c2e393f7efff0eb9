import Montage.Proofs.File.Beside

/-! Where the path that a text writes leads, whether it is absolute or relative, with names that may
go up again: the text of the path is walked along name by name, and a name more leads one step
further. -/

namespace Montage

/-- A path as texts write it. -/
structure Path.Written (path : Path) : Prop where
  root : path.root = "" ∨ path.root = "/" ∨ path.root = "//"
  named : ∀ name ∈ path.names, name ≠ ""
  slashless : ∀ name ∈ path.names, '/' ∉ name.toList
  noDot : ∀ name ∈ path.names, name ≠ "."

variable {path base : Path} {disk : Disk} {place start : Place} {name : String}

namespace Path

theorem rootOf_cases (text : List Char) :
    rootOf text = "" ∨ rootOf text = "/" ∨ rootOf text = "//" := by
  fun_cases rootOf text <;> simp

theorem ofText_written (text : String) : (ofText text).Written := by
  have piece {name : String} (member : name ∈ (ofText text).names) :
      ∃ piece ∈ splitSlashes text.toList,
        piece ≠ [] ∧ piece ≠ ['.'] ∧ name = String.ofList piece := by
    obtain ⟨piece, kept, rfl⟩ := List.mem_map.mp member
    obtain ⟨inside, solid⟩ := List.mem_filter.mp kept
    simp only [Bool.and_eq_true, bne_iff_ne] at solid
    exact ⟨piece, inside, solid.1, solid.2, rfl⟩
  refine ⟨rootOf_cases text.toList, ?_, ?_, ?_⟩
  all_goals
    intro name member
    obtain ⟨piece, inside, solid, noDot, rfl⟩ := piece member
  · simpa using solid
  · rw [String.toList_ofList]
    exact splitSlashes_slashless inside
  · intro dot
    rw [← String.toList_inj, String.toList_ofList] at dot
    exact noDot dot

theorem Written.child (written : base.Written) (plain : PlainName name) :
    (base.child name).Written := by
  rw [child_plain plain]
  refine ⟨written.root, ?_, ?_, ?_⟩
  all_goals
    intro other member
    rcases List.mem_append.mp member with upper | last
  · exact written.named other upper
  · exact List.mem_singleton.mp last ▸ plain.named
  · exact written.slashless other upper
  · exact List.mem_singleton.mp last ▸ plain.slashless
  · exact written.noDot other upper
  · exact List.mem_singleton.mp last ▸ plain.noDot

theorem Written.parent (written : path.Written) : path.parent.Written where
  root := written.root
  named name member := written.named name (List.dropLast_subset _ member)
  slashless name member := written.slashless name (List.dropLast_subset _ member)
  noDot name member := written.noDot name (List.dropLast_subset _ member)

theorem Written.text_eq (written : path.Written) (deep : path.names ≠ []) :
    path.text = path.root ++ String.intercalate "/" path.names := by
  obtain ⟨first, rest, names⟩ := List.exists_cons_of_ne_nil deep
  have first_ne : first.toList ≠ [] := by
    simpa using written.named first (names ▸ List.mem_cons_self)
  rw [text, if_neg]
  rw [names, String.isEmpty_iff, ← String.toList_inj, String.toList_append, intercalate_written]
  simp [first_ne]

/-- The pieces between the slashes of a path are its names, but for empty ones. -/
theorem Written.pieces (written : path.Written) (deep : path.names ≠ []) :
    (splitSlashes path.text.toList).filter (!·.isEmpty) = path.names.map String.toList := by
  rw [written.text_eq deep]
  obtain ⟨root, names⟩ := path
  obtain ⟨first, rest, rfl⟩ := List.exists_cons_of_ne_nil deep
  have split := splitSlashes_written (written.slashless first List.mem_cons_self)
    fun name member => written.slashless name (.tail _ member)
  have full : ((first :: rest).map String.toList).filter (!·.isEmpty) =
      (first :: rest).map String.toList := by
    refine List.filter_eq_self.mpr fun piece member => ?_
    obtain ⟨name, inside, rfl⟩ := List.mem_map.mp member
    simp [written.named name inside]
  rw [String.toList_append, intercalate_written]
  rcases written.root with relative | absolute | absolute
  · obtain rfl : root = _ := relative
    simpa [split] using full
  all_goals
    obtain rfl : root = _ := absolute
    simpa [splitSlashes, split] using full

/-- The directory from which a path goes. -/
def startOn (path : Path) (disk : Disk) : Place :=
  if path.root = "" then disk.workingDirectory else []

/-- The names that are walked along; a path without names stays where it starts. -/
def steps (path : Path) : List String :=
  if path.names = [] then ["."] else path.names

end Path

namespace Disk

/-- The text of names ends with the last of them. -/
theorem intercalate_concat (init : List String) (last : String) :
    ∃ before, String.intercalate "/" (init ++ [last]) = before ++ last := by
  cases init with
  | nil => exact ⟨"", by simp⟩
  | cons first rest =>
    have joined := String.intercalate_append_of_ne_nil
      (List.cons_ne_nil first rest) (List.cons_ne_nil last []) (s := "/")
    rw [joined, String.intercalate_singleton]
    exact ⟨_, rfl⟩

theorem getLast?_ne_slash {last : String} (named : last ≠ "") (slashless : '/' ∉ last.toList)
    (before : String) : (before ++ last).toList.getLast? ≠ some '/' := by
  intro slash
  rw [String.toList_append, List.getLast?_append] at slash
  cases ending : last.toList.getLast? with
  | none => exact named (by simpa using ending)
  | some character =>
    obtain rfl : character = '/' := by simpa [ending] using slash
    exact slashless (List.mem_of_getLast? ending)

/-- The text of a path begins with a slash if the path is absolute, and ends with none. -/
theorem text_slashes (written : path.Written) (deep : path.names ≠ []) :
    path.text.toList ≠ [] ∧ (path.text.toList.head? = some '/' ↔ path.root ≠ "") ∧
      path.text.toList.getLast? ≠ some '/' := by
  obtain ⟨first, rest, names⟩ := List.exists_cons_of_ne_nil deep
  obtain ⟨character, others, spelled⟩ := List.exists_cons_of_ne_nil (l := first.toList)
    (by simpa using written.named first (names ▸ List.mem_cons_self))
  have other : character ≠ '/' := fun same =>
    written.slashless first (names ▸ List.mem_cons_self) (by simp [spelled, same])
  have text : path.text.toList =
      path.root.toList ++ (character :: (others ++ Path.written rest)) := by
    rw [written.text_eq deep, names, String.toList_append, Path.intercalate_written, spelled]
    rfl
  refine ⟨by simp [text], ?_, ?_⟩
  · rcases written.root with root | root | root
    all_goals simp [text, root, other]
  · obtain ⟨init, last, names⟩ := (List.eq_nil_or_concat' path.names).resolve_left deep
    have member : last ∈ path.names := names ▸ List.mem_append_right _ List.mem_cons_self
    obtain ⟨before, joined⟩ := intercalate_concat init last
    rw [written.text_eq deep, names, joined, ← String.append_assoc]
    exact getLast?_ne_slash (written.named last member) (written.slashless last member) _

/-- Looking for what a path names walks along its names. -/
theorem find_text (written : path.Written) :
    disk.find path.text =
      if path.text.utf8ByteSize > maxPathBytes then .error .tooLong
      else disk.walk (path.startOn disk) path.steps := by
  by_cases deep : path.names = []
  · obtain ⟨root, names⟩ := path
    obtain rfl : names = [] := deep
    rcases written.root with relative | absolute | absolute
    · obtain rfl : root = _ := relative
      rfl
    all_goals
      obtain rfl : root = _ := absolute
      rfl
  · obtain ⟨nonempty, absolute, ended⟩ := text_slashes written deep
    have solid : path.text.toList.isEmpty = false := by simpa using nonempty
    have unfinished : (path.text.toList.getLast? == some '/') = false := by simpa using ended
    have pieces := written.pieces deep
    rw [Path.startOn, Path.steps, if_neg deep]
    simp only [find, solid, pieces, unfinished, Bool.false_eq_true, if_false, List.map_map]
    by_cases root : path.root = ""
    · have relative : (path.text.toList.head? == some '/') = false := by
        rw [beq_eq_false_iff_ne]
        exact fun slash => absolute.mp slash root
      simp [relative, root]
    · have slash : (path.text.toList.head? == some '/') = true := by
        rw [beq_iff_eq]
        exact absolute.mpr root
      simp [slash, root]

theorem walk_append (first second : List String) :
    disk.walk start (first ++ second) = disk.walk start first >>= (disk.walk · second) := by
  induction first generalizing start with
  | nil => rfl
  | cons name rest ih =>
    rw [List.cons_append, walk, walk]
    split
    · rfl
    · split
      · exact ih
      · split
        · exact ih
        · split
          · rfl
          · exact ih

/-- The path of a directory goes on to the entries of it. -/
theorem find_child_of_find (written : base.Written) (plain : PlainName name)
    (short : name.utf8ByteSize ≤ maxNameBytes) (found : disk.find base.text = .ok place)
    (inside : disk.entry? place = some .directory) :
    disk.find (base.child name).text =
      if (base.child name).text.utf8ByteSize > maxPathBytes then .error .tooLong
      else .ok (place ++ [name]) := by
  rw [find_text written] at found
  split at found
  · cases found
  · have walked : disk.walk (base.startOn disk) base.names = .ok place := by
      by_cases deep : base.names = []
      · rw [Path.steps, if_pos deep, walk] at found
        split at found
        · cases found
        · rw [if_pos (by decide)] at found
          rw [deep]
          exact found
      · rwa [Path.steps, if_neg deep] at found
    have start : (base.child name).startOn disk = base.startOn disk := by
      rw [Path.child_plain plain]
      rfl
    have steps : (base.child name).steps = base.names ++ [name] := by
      rw [Path.child_plain plain, Path.steps, if_neg (by simp)]
    have last : disk.walk place [name] = .ok (place ++ [name]) :=
      (walk_plain plain).mpr ⟨inside, short, rfl⟩
    rw [find_text (written.child plain), start, steps, walk_append, walked]
    congr 1

theorem status_eq_ok {text : String} {entry : Entry} :
    disk.status text = .ok entry ↔
      ∃ place, disk.find text = .ok place ∧ disk.entry? place = some entry := by
  rw [status, Except.bind_eq_ok]
  refine exists_congr fun place => and_congr_right fun _ => ?_
  cases disk.entry? place <;> simp

end Disk

end Montage
