import Mathlib.Data.List.Basic
import Montage.File.Disk

/-! The text of the path of a place is read back as that place. -/

namespace Montage

/-- A name that leads from a directory to an entry of it. -/
structure PlainName (name : String) : Prop where
  named : name ≠ ""
  slashless : '/' ∉ name.toList
  noDot : name ≠ "."
  noDots : name ≠ ".."

instance (name : String) : Decidable (PlainName name) :=
  decidable_of_iff (name ≠ "" ∧ '/' ∉ name.toList ∧ name ≠ "." ∧ name ≠ "..")
    ⟨fun ⟨named, slashless, noDot, noDots⟩ => ⟨named, slashless, noDot, noDots⟩,
      fun plain => ⟨plain.named, plain.slashless, plain.noDot, plain.noDots⟩⟩

/-- Every name of a place is plain. -/
def Place.Plain (place : Place) : Prop := ∀ name ∈ place, PlainName name

instance (place : Place) : Decidable place.Plain :=
  inferInstanceAs (Decidable (∀ name ∈ place, PlainName name))

/-- The text of the path of an entry of a directory. -/
def Place.textOf (directory : Place) (name : String) : String :=
  (Disk.pathOf directory).text ++ "/" ++ name

namespace Path

/-- The text of names, each after a slash. -/
def written (names : List String) : List Char :=
  names.flatMap fun name => '/' :: name.toList

theorem splitSlashes_plain {text : List Char} (slashless : '/' ∉ text) :
    splitSlashes text = [text] := by
  induction text with
  | nil => rfl
  | cons character rest ih =>
    have other : character ≠ '/' := fun same => slashless (by simp [same])
    rw [splitSlashes, ih (fun member => slashless (List.mem_cons_of_mem _ member))]
    exact other

theorem splitSlashes_ne_nil (text : List Char) : splitSlashes text ≠ [] := by
  fun_induction splitSlashes text <;> simp

theorem splitSlashes_slash (first rest : List Char) :
    splitSlashes (first ++ '/' :: rest) = splitSlashes first ++ splitSlashes rest := by
  induction first with
  | nil => rfl
  | cons character first ih =>
    by_cases slash : character = '/'
    · subst slash
      simp [splitSlashes, ih]
    · rw [List.cons_append, splitSlashes, splitSlashes, ih]
      · cases pieces : splitSlashes first with
        | nil => exact absurd pieces (splitSlashes_ne_nil first)
        | cons piece pieces => rfl
      all_goals exact slash

theorem splitSlashes_slashless {text piece : List Char} (member : piece ∈ splitSlashes text) :
    '/' ∉ piece := by
  fun_induction splitSlashes text generalizing piece with
  | case1 =>
    obtain rfl := List.mem_singleton.mp member
    exact List.not_mem_nil
  | case2 rest ih =>
    rcases List.mem_cons.mp member with rfl | later
    · exact List.not_mem_nil
    · exact ih later
  | case3 character rest other none ih => exact absurd none (splitSlashes_ne_nil rest)
  | case4 character rest other first pieces found ih =>
    rw [found] at ih
    rcases List.mem_cons.mp member with rfl | later
    · rw [List.mem_cons, not_or]
      exact ⟨fun same => other same.symm, ih List.mem_cons_self⟩
    · exact ih (List.mem_cons_of_mem _ later)

/-- A piece has no characters but those of the text. -/
theorem splitSlashes_mem {text piece : List Char} {character : Char}
    (member : piece ∈ splitSlashes text) (inside : character ∈ piece) : character ∈ text := by
  fun_induction splitSlashes text generalizing piece with
  | case1 =>
    obtain rfl := List.mem_singleton.mp member
    exact inside
  | case2 rest ih =>
    rcases List.mem_cons.mp member with rfl | later
    · cases inside
    · exact .tail _ (ih later inside)
  | case3 character rest other none ih => exact absurd none (splitSlashes_ne_nil rest)
  | case4 first rest other piece pieces found ih =>
    rw [found] at ih
    rcases List.mem_cons.mp member with rfl | later
    · rcases List.mem_cons.mp inside with rfl | inside
      · exact .head _
      · exact .tail _ (ih List.mem_cons_self inside)
    · exact .tail _ (ih (List.mem_cons_of_mem _ later) inside)

/-- The last name of a path is one of the pieces of its text, or empty. -/
theorem name_piece (text : String) :
    (ofText text).name.toList = [] ∨ (ofText text).name.toList ∈ splitSlashes text.toList := by
  rw [name]
  cases last : (ofText text).names.getLast? with
  | none => exact .inl rfl
  | some name =>
    obtain ⟨piece, member, rfl⟩ := List.mem_map.mp (List.mem_of_getLast? last)
    rw [Option.getD_some, String.toList_ofList]
    exact .inr (List.mem_filter.mp member).1

theorem name_slashless (text : String) : '/' ∉ (ofText text).name.toList := by
  obtain none | piece := name_piece text
  · simp [none]
  · exact splitSlashes_slashless piece

theorem name_lacks {text : String} {character : Char} (lacks : character ∉ text.toList) :
    character ∉ (ofText text).name.toList := by
  obtain none | piece := name_piece text
  · simp [none]
  · exact fun inside => lacks (splitSlashes_mem piece inside)

theorem suffixOf_lacks {name : String} {character : Char} (other : character ≠ '.')
    (lacks : character ∉ name.toList) : character ∉ (suffixOf name).toList := by
  dsimp only [suffixOf]
  split
  · rw [String.toList_ofList, List.mem_cons, not_or]
    refine ⟨other, fun member => lacks ?_⟩
    exact List.mem_reverse.mp ((List.takeWhile_sublist _).mem (List.mem_reverse.mp member))
  · simp

/-- Induction on the names: each slash begins a piece. -/
theorem splitSlashes_written {text : List Char} {names : List String} (slashless : '/' ∉ text)
    (plain : ∀ name ∈ names, '/' ∉ name.toList) :
    splitSlashes (text ++ written names) = text :: names.map String.toList := by
  induction names generalizing text with
  | nil => simpa [written] using splitSlashes_plain slashless
  | cons name rest ih =>
    have later := ih (plain name List.mem_cons_self)
      fun other member => plain other (List.mem_cons_of_mem _ member)
    rw [show text ++ written (name :: rest) = text ++ '/' :: (name.toList ++ written rest) by
      simp [written], splitSlashes_slash, splitSlashes_plain slashless, later]
    rfl

theorem intercalate_written (name : String) (names : List String) :
    (String.intercalate "/" (name :: names)).toList = name.toList ++ written names := by
  induction names generalizing name with
  | nil => simp [written]
  | cons next rest ih =>
    rw [String.intercalate_cons_cons, String.toList_append, String.toList_append, ih]
    simp [written]

end Path

variable {directory : Place} {name : String}

/-- After the first slash stands the first name of the directory, if it has one. -/
theorem Place.textOf_toList :
    (directory.textOf name).toList =
      '/' :: ((directory.head?.getD "").toList ++ Path.written (directory.tail ++ [name])) := by
  have root : ("/" ++ String.intercalate "/" directory).isEmpty = false := by
    simp [String.isEmpty_eq_false_iff]
  rw [textOf, Disk.pathOf, Path.text, root]
  cases directory with
  | nil => simp [Path.written]
  | cons first rest =>
    have inner := Path.intercalate_written first rest
    simp only [Bool.false_eq_true, if_false, String.toList_append, inner]
    simp [Path.written]

/-- The pieces between slashes are the names, but for empty ones. -/
theorem Place.textOf_pieces (above : directory.Plain) (plain : PlainName name) :
    (Path.splitSlashes (directory.textOf name).toList).filter (!·.isEmpty) =
      (directory ++ [name]).map String.toList := by
  have slashless : '/' ∉ (directory.head?.getD "").toList := by
    cases directory with
    | nil => simp
    | cons first rest => exact (above first List.mem_cons_self).slashless
  have all (other : String) (member : other ∈ directory.tail ++ [name]) :
      '/' ∉ other.toList := by
    rcases List.mem_append.mp member with upper | last
    · exact (above other (List.mem_of_mem_tail upper)).slashless
    · exact List.mem_singleton.mp last ▸ plain.slashless
  have full (other : String) (member : PlainName other) : (!other.toList.isEmpty) = true := by
    simp [member.named]
  rw [textOf_toList, Path.splitSlashes, Path.splitSlashes_written slashless all]
  cases directory with
  | nil => simp [full name plain]
  | cons first rest =>
    have kept : ((first :: rest ++ [name]).map String.toList).filter (!·.isEmpty) =
        (first :: rest ++ [name]).map String.toList := by
      refine List.filter_eq_self.mpr fun piece member => ?_
      obtain ⟨other, inside, rfl⟩ := List.mem_map.mp member
      rcases List.mem_append.mp inside with upper | last
      · exact full other (above other upper)
      · exact full other (List.mem_singleton.mp last ▸ plain)
    rw [List.filter_cons_of_neg (by simp)]
    simpa using kept

/-- The names that are read back are those of the place. -/
theorem Place.textOf_names (above : directory.Plain) (plain : PlainName name) :
    (Path.ofText (directory.textOf name)).names = directory ++ [name] := by
  have each (other : String) (member : other ∈ directory ++ [name]) : PlainName other := by
    rcases List.mem_append.mp member with upper | last
    · exact above other upper
    · exact List.mem_singleton.mp last ▸ plain
  have same : (Path.splitSlashes (directory.textOf name).toList).filter
      (fun piece => piece != [] && piece != ['.']) =
        ((directory ++ [name]).map String.toList).filter (· != ['.']) := by
    rw [← Place.textOf_pieces above plain, List.filter_filter]
    refine List.filter_congr fun piece _ => ?_
    cases piece <;> simp
  have kept : ((directory ++ [name]).map String.toList).filter (· != ['.']) =
      (directory ++ [name]).map String.toList := by
    refine List.filter_eq_self.mpr fun piece member => ?_
    obtain ⟨other, inside, rfl⟩ := List.mem_map.mp member
    have noDot := (each other inside).noDot
    have dot : other.toList ≠ ['.'] := fun dot =>
      noDot (String.toList_inj.mp dot)
    simpa using dot
  rw [Path.ofText, Path.namesIn, same, kept]
  simp

/-- Below the root directory the text starts with two slashes, else with one. -/
theorem Place.textOf_root (above : directory.Plain) (plain : PlainName name) :
    (Path.ofText (directory.textOf name)).root = if directory = [] then "//" else "/" := by
  have start (other : String) (member : PlainName other) :
      ∃ character rest, other.toList = character :: rest ∧ character ≠ '/' := by
    cases text : other.toList with
    | nil => exact absurd (String.toList_eq_nil_iff.mp text) member.named
    | cons character rest =>
      exact ⟨character, rest, rfl, fun same => member.slashless (by simp [text, same])⟩
  rw [Path.ofText, textOf_toList]
  cases directory with
  | nil =>
    obtain ⟨character, rest, text, other⟩ := start name plain
    simp [Path.written, text, Path.rootOf, other]
  | cons first later =>
    obtain ⟨character, rest, text, other⟩ := start first (above first List.mem_cons_self)
    simp [text, Path.rootOf, other]

/-- The text of a path survives being read. -/
theorem Place.textOf_text (above : directory.Plain) (plain : PlainName name) :
    (Path.ofText (directory.textOf name)).text = directory.textOf name := by
  have names := Place.textOf_names above plain
  have root := Place.textOf_root above plain
  rw [Path.text, names, root]
  cases directory with
  | nil => simp [textOf, Disk.pathOf, Path.text]
  | cons first rest =>
    have joined := String.intercalate_append_of_ne_nil
      (List.cons_ne_nil first rest) (List.cons_ne_nil name []) (s := "/")
    rw [joined]
    simp [textOf, Disk.pathOf, Path.text, String.append_assoc]

/-- A text that ends with a name does not end with a slash. -/
theorem PlainName.getLast?_ne (plain : PlainName name) (before : String) :
    (before ++ name).toList.getLast? ≠ some '/' := by
  intro slash
  rw [String.toList_append, List.getLast?_append] at slash
  cases ending : name.toList.getLast? with
  | none => exact plain.named (by simpa using ending)
  | some character =>
    obtain rfl : character = '/' := by simpa [ending] using slash
    exact plain.slashless (List.mem_of_getLast? ending)

/-- Looking for what an absolute path names walks along the names between its slashes. -/
theorem Disk.find_of_pieces (disk : Disk) {text : String} {names : List String}
    (absolute : text.toList.head? = some '/') (ended : text.toList.getLast? ≠ some '/')
    (pieces : (Path.splitSlashes text.toList).filter (!·.isEmpty) = names.map String.toList) :
    disk.find text =
      if text.utf8ByteSize > maxPathBytes then .error .tooLong else disk.walk [] names := by
  have nonempty : text.toList.isEmpty = false := by
    cases characters : text.toList with
    | nil => simp [characters] at absolute
    | cons => rfl
  simp only [find, nonempty, absolute, pieces]
  simp [ended]

/-- Looking for an entry of a directory walks down to it. -/
theorem Disk.find_textOf (disk : Disk) (above : directory.Plain) (plain : PlainName name) :
    disk.find (directory.textOf name) =
      if (directory.textOf name).utf8ByteSize > maxPathBytes then .error .tooLong
      else disk.walk [] (directory ++ [name]) := by
  have absolute : (directory.textOf name).toList.head? = some '/' := by
    rw [Place.textOf_toList]; rfl
  exact disk.find_of_pieces absolute (plain.getLast?_ne _) (Place.textOf_pieces above plain)

end Montage
