import Montage.Proofs.File.Temporary

/-! Files that are written are read back, and copied beside each other. -/

namespace Montage

/-- Everything is in a directory. -/
def Disk.Rooted (disk : Disk) : Prop :=
  ∀ place name, (disk.entry? (place ++ [name])).isSome = true →
    disk.entry? place = some .directory

/-- A path from the root down by plain names. -/
structure Path.Downward (path : Path) : Prop where
  absolute : path.root = "/" ∨ path.root = "//"
  plain : Place.Plain path.names

variable {base path : Path} {names : List String} {name other : String} {disk : Disk}

theorem Place.Plain.append {directory : Place} (above : directory.Plain) (plain : PlainName name) :
    Place.Plain (directory ++ [name]) :=
  List.forall_mem_append.mpr ⟨above, List.forall_mem_singleton.mpr plain⟩

/-- The path of an entry of a directory goes down from the root. -/
theorem Place.textOf_downward {directory : Place} (above : directory.Plain) (plain : PlainName name) :
    (Path.ofText (directory.textOf name)).Downward where
  absolute := by
    rw [textOf_root above plain]
    split <;> simp
  plain := by
    rw [textOf_names above plain]
    exact above.append plain

namespace Path

/-- A plain name is a path by itself. -/
theorem ofText_plain (plain : PlainName name) : ofText name = ⟨"", [name]⟩ := by
  have nonempty : name.toList ≠ [] := by simpa using plain.named
  have noDot : name.toList ≠ ['.'] := fun dot => plain.noDot (String.toList_inj.mp dot)
  have relative : rootOf name.toList = "" := by
    cases characters : name.toList with
    | nil => exact absurd characters nonempty
    | cons character rest =>
      have other : character ≠ '/' := fun same => plain.slashless (by simp [characters, same])
      simp [rootOf, other]
  simp [ofText, namesIn, splitSlashes_plain plain.slashless, nonempty, noDot, relative]

theorem child_plain (plain : PlainName name) :
    base.child name = { base with names := base.names ++ [name] } := by
  rw [child, ofText_plain plain]
  rfl

theorem Downward.child (downward : base.Downward) (plain : PlainName name) :
    (base.child name).Downward where
  absolute := by
    rw [child_plain plain]
    exact downward.absolute
  plain := by
    rw [child_plain plain]
    exact downward.plain.append plain

theorem Downward.text_eq (downward : path.Downward) :
    path.text = path.root ++ String.intercalate "/" path.names := by
  rw [text, if_neg]
  rcases downward.absolute with root | root <;> simp [root, String.isEmpty_iff]

/-- After the text of a path stand a slash and the name that it goes on to. -/
theorem Downward.text_child (downward : base.Downward) (deep : base.names ≠ [])
    (plain : PlainName name) : (base.child name).text = base.text ++ "/" ++ name := by
  have joined := String.intercalate_append_of_ne_nil deep (List.cons_ne_nil name []) (s := "/")
  rw [(downward.child plain).text_eq, downward.text_eq, child_plain plain]
  dsimp only
  rw [joined, String.intercalate_singleton]
  simp only [String.append_assoc]

/-- The pieces between the slashes of a path are its names, but for empty ones. -/
theorem Downward.pieces (downward : path.Downward) (deep : path.names ≠ []) :
    (splitSlashes path.text.toList).filter (!·.isEmpty) = path.names.map String.toList := by
  obtain ⟨root, names⟩ := path
  obtain ⟨first, rest, rfl⟩ := List.exists_cons_of_ne_nil deep
  have plain : ∀ name ∈ first :: rest, PlainName name := downward.plain
  have split := splitSlashes_written (plain first List.mem_cons_self).slashless
    fun name member => (plain name (.tail _ member)).slashless
  have full : ((first :: rest).map String.toList).filter (!·.isEmpty) =
      (first :: rest).map String.toList := by
    refine List.filter_eq_self.mpr fun piece member => ?_
    obtain ⟨name, inside, rfl⟩ := List.mem_map.mp member
    simp [(plain name inside).named]
  rw [downward.text_eq, String.toList_append, intercalate_written]
  rcases downward.absolute with absolute | absolute <;>
    · obtain rfl : root = _ := absolute
      simpa [splitSlashes, split] using full

end Path

namespace Disk

/-- A plain name leads from a directory into it. -/
theorem walk_plain {start place : Place} {rest : List String} (plain : PlainName name) :
    disk.walk start (name :: rest) = .ok place ↔
      disk.entry? start = some .directory ∧ name.utf8ByteSize ≤ maxNameBytes ∧
        disk.walk (start ++ [name]) rest = .ok place := by
  rw [walk_cons_eq_ok]
  simp [plain.noDot, plain.noDots]

/-- A walk along plain names goes through directories alone. -/
theorem walk_into_iff {start place : Place} (above : ∀ upper ∈ names, PlainName upper)
    (plain : PlainName name) :
    disk.walk start (names ++ [name]) = .ok place ↔
      place = start ++ names ++ [name] ∧
        (∀ upper, upper <+: names → disk.entry? (start ++ upper) = some .directory) ∧
        ∀ other ∈ names ++ [name], other.utf8ByteSize ≤ maxNameBytes := by
  induction names generalizing start with
  | nil =>
    rw [List.nil_append, walk_plain plain, walk]
    simp only [Except.ok.injEq, List.prefix_nil, forall_eq, List.append_nil,
      List.forall_mem_singleton]
    constructor
    · rintro ⟨inside, fits, rfl⟩
      exact ⟨rfl, inside, fits⟩
    · rintro ⟨rfl, inside, fits⟩
      exact ⟨inside, fits, rfl⟩
  | cons first rest ih =>
    obtain ⟨here, later⟩ := List.forall_mem_cons.mp above
    rw [List.cons_append, walk_plain here, ih later]
    simp only [List.forall_mem_cons, List.prefix_cons_iff]
    constructor
    · rintro ⟨inside, fits, same, through, short⟩
      refine ⟨by simpa using same, ?_, fits, short⟩
      rintro _ (rfl | ⟨upper, rfl, near⟩)
      · simpa using inside
      · simpa using through upper near
    · rintro ⟨same, through, fits, short⟩
      have inside := through [] (.inl rfl)
      refine ⟨by simpa using inside, fits, by simpa using same, fun upper near => ?_, short⟩
      simpa using through (first :: upper) (.inr ⟨upper, rfl, near⟩)

/-- A walk down to a name shows the way to the names beside it. -/
theorem walk_beside {start place : Place} (above : ∀ upper ∈ names, PlainName upper)
    (plain : PlainName name) (otherPlain : PlainName other)
    (short : other.utf8ByteSize ≤ maxNameBytes)
    (found : disk.walk start (names ++ [name]) = .ok place) :
    disk.walk start (names ++ [other]) = .ok (start ++ names ++ [other]) := by
  obtain ⟨_, through, fits⟩ := (walk_into_iff above plain).mp found
  obtain ⟨fits, _⟩ := List.forall_mem_append.mp fits
  exact (walk_into_iff above otherPlain).mpr
    ⟨rfl, through, List.forall_mem_append.mpr ⟨fits, List.forall_mem_singleton.mpr short⟩⟩

/-- What a path under a directory leads to depends on the way to the directory alone. -/
theorem find_under {last : Disk} {directory place : Place} (above : directory.Plain)
    (plain : PlainName name)
    (same : ∀ upper : Place, upper <+: directory → last.entry? upper = disk.entry? upper)
    (found : disk.find (directory.textOf name) = .ok place) :
    last.find (directory.textOf name) = .ok place := by
  rw [find_textOf _ above plain] at found ⊢
  split at found
  · cases found
  · rename_i short
    obtain ⟨there, through, fits⟩ := (walk_into_iff above plain).mp found
    rw [if_neg short]
    exact (walk_into_iff above plain).mpr
      ⟨there, fun upper near => (same upper near).trans (through upper near), fits⟩

theorem directory_of_find {directory place : Place} (above : directory.Plain)
    (plain : PlainName name)
    (found : disk.find (directory.textOf name) = .ok place) :
    disk.entry? directory = some .directory := by
  rw [find_textOf _ above plain] at found
  split at found
  · cases found
  · exact ((walk_into_iff above plain).mp found).2.1 directory List.prefix_rfl

/-- Looking for what a path goes on to walks down to it. -/
theorem find_child (downward : base.Downward) (deep : base.names ≠ []) (plain : PlainName name) :
    disk.find (base.child name).text =
      if (base.child name).text.utf8ByteSize > maxPathBytes then .error .tooLong
      else disk.walk [] (base.names ++ [name]) := by
  have names : (base.child name).names = base.names ++ [name] := by rw [Path.child_plain plain]
  have pieces := (downward.child plain).pieces (by simp [names])
  have text := downward.text_child deep plain
  rw [names] at pieces
  refine disk.find_of_pieces ?_ ?_ pieces
  · rw [text, downward.text_eq]
    rcases downward.absolute with root | root <;> simp [root]
  · rw [text]
    exact plain.getLast?_ne _

/-- A file can be copied to a name beside it that is not longer, unless a directory has that name. -/
theorem copyFile_beside (downward : base.Downward) (deep : base.names ≠ [])
    (plain : PlainName name) (otherPlain : PlainName other) (apart : name ≠ other)
    (short : other.utf8ByteSize ≤ maxNameBytes)
    (shorter : other.utf8ByteSize ≤ name.utf8ByteSize)
    (there : (disk.file? (base.child name).text).isSome = true)
    (free : disk.entry? (base.names ++ [other]) ≠ some .directory) :
    ∃ last, disk.copyFile (base.child name).text (base.child other).text = .ok last := by
  obtain ⟨content, read⟩ : ∃ content, disk.read (base.child name).text = .ok content := by
    cases outcome : disk.read (base.child name).text with
    | error refusal => simp [file?, outcome, Except.toOption] at there
    | ok content => exact ⟨content, rfl⟩
  obtain ⟨entry, status, _⟩ := Except.bind_eq_ok.mp read
  obtain ⟨place, source, _⟩ := Except.bind_eq_ok.mp status
  have walked := source
  rw [find_child downward deep plain] at walked
  split at walked
  · cases walked
  rename_i fits
  have target : disk.find (base.child other).text = .ok (base.names ++ [other]) := by
    rw [downward.text_child deep plain] at fits
    simp only [String.utf8ByteSize_append] at fits
    rw [find_child downward deep otherPlain, if_neg]
    · exact walk_beside downward.plain plain otherPlain short walked
    · rw [downward.text_child deep otherPlain]
      simp only [String.utf8ByteSize_append]
      omega
  have placed : place = [] ++ (base.names ++ [name]) :=
    walk_place (downward.plain.append plain) walked
  have differ : (some place == some (base.names ++ [other])) = false := by
    simpa [placed] using apart
  rw [copyFile, read]
  simp only [source, target, Except.toOption, differ, Bool.false_eq_true, if_false]
  have written : disk.write (base.child other).text content =
      .ok (disk.put (base.names ++ [other]) (.file content)) :=
    write_eq_ok.mpr ⟨_, target, free, rfl⟩
  rw [written]
  exact ⟨_, rfl⟩

/-- What a path goes on to is in the directory that the path leads to. -/
theorem find_child_place {place : Place} (downward : base.Downward) (deep : base.names ≠ [])
    (plain : PlainName name) (found : disk.find (base.child name).text = .ok place) :
    place = base.names ++ [name] := by
  rw [find_child downward deep plain] at found
  split at found
  · cases found
  · have reached : place = [] ++ (base.names ++ [name]) :=
      walk_place (downward.plain.append plain) found
    exact reached

/-- A copy beside a file is refused if the file is not there or a directory is in the way, and else
made. -/
theorem copyFile_refused_iff (downward : base.Downward) (deep : base.names ≠ [])
    (plain : PlainName name) (otherPlain : PlainName other) (apart : name ≠ other)
    (short : other.utf8ByteSize ≤ maxNameBytes)
    (shorter : other.utf8ByteSize ≤ name.utf8ByteSize) :
    (∃ error, disk.copyFile (base.child name).text (base.child other).text = .error error) ↔
      disk.file? (base.child name).text = none ∨
        disk.entry? (base.names ++ [other]) = some .directory := by
  constructor
  · rintro ⟨error, refused⟩
    by_contra clear
    obtain ⟨there, free⟩ := not_or.mp clear
    obtain ⟨last, copied⟩ := copyFile_beside downward deep plain otherPlain apart short shorter
      (Option.isSome_iff_ne_none.mpr there) free
    cases copied.symm.trans refused
  · intro blocked
    cases copied : disk.copyFile (base.child name).text (base.child other).text with
    | error error => exact ⟨error, rfl⟩
    | ok last =>
      rcases blocked with gone | taken
      · rw [copyFile] at copied
        cases read : disk.read (base.child name).text with
        | error refusal =>
          rw [read] at copied
          cases copied
        | ok content => simp [file?, read, Except.toOption] at gone
      · obtain ⟨_, written⟩ := copyFile_written copied
        obtain ⟨place, found, free, _⟩ := write_eq_ok.mp written
        obtain rfl := find_child_place downward deep otherPlain found
        exact absurd taken free

end Disk

/-- Making a fresh temporary entry puts it under a temporary name that was free, and does nothing
else. -/
theorem makeFresh_ok {purpose suffix : String} {entry : Entry} {start last : Workspace}
    {path : Path} (plain : start.disk.temporaryDirectory.Plain)
    (purposePlain : '/' ∉ purpose.toList) (suffixPlain : '/' ∉ suffix.toList)
    (made : (makeFresh purpose suffix entry).on start = (.ok path, last)) :
    ∃ name, name = temporaryStart ++ purpose ++ digitsOf (start.names + 1) ++ suffix ∧
      TemporaryName name ∧ path = .ofText (start.disk.temporaryDirectory.textOf name) ∧
      start.disk.entry? (start.disk.temporaryDirectory ++ [name]) = none ∧
      start.disk.find (start.disk.temporaryDirectory.textOf name) =
        .ok (start.disk.temporaryDirectory ++ [name]) ∧
      last = { start with
        names := start.names + 1
        disk := start.disk.put (start.disk.temporaryDirectory ++ [name]) entry } := by
  have temporary := freshName_temporary (start.names + 1) purposePlain suffixPlain
  let name := temporaryStart ++ purpose ++ digitsOf (start.names + 1) ++ suffix
  have text : start.disk.temporary.text ++ "/" ++ temporaryStart ++ purpose ++
      digitsOf (start.names + 1) ++ suffix = start.disk.temporaryDirectory.textOf name := by
    simp only [Disk.temporary, Place.textOf, String.append_assoc, name]
  refine ⟨name, rfl, temporary, ?_⟩
  obtain ⟨_, named, fresh, made⟩ := Action.bind_eq_ok.mp made
  obtain ⟨same, rfl⟩ := Prod.mk.inj fresh
  obtain rfl := Except.ok.inj same
  obtain ⟨_, checked, check, made⟩ := Action.bind_eq_ok.mp made
  obtain rfl : checked = { start with names := start.names + 1 } := by
    rw [checkPath] at check
    split at check
    · cases check
    · exact (Prod.mk.inj check).2.symm
  obtain ⟨_, _, create, returned⟩ := Action.bind_eq_ok.mp made
  obtain ⟨same, rfl⟩ := Prod.mk.inj returned
  obtain rfl := Except.ok.inj same
  obtain ⟨disk, created, rfl⟩ := Action.change_eq_ok.mp create
  rw [text] at created ⊢
  obtain ⟨place, found, free, rfl⟩ := Disk.create_eq_ok.mp (Except.mapError_eq_ok.mp created)
  obtain rfl := Disk.Holds.find_place plain temporary found
  exact ⟨rfl, free, found, rfl⟩

end Montage
