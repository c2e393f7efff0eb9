import Mathlib.Data.List.TakeWhile
import Montage.PathVariable
import Montage.Proofs.Named
import Montage.Proofs.Outcome

/-! The references in a text are all that are written in it. No two of them share a character, so a text
falls into literals and references in one way, and what references are replaced by is not read again. -/

namespace Montage.PathVariable

open Text (isWord)

/-- A name of word characters, one at least. -/
structure IsName (name : String) : Prop where
  nonempty : name ≠ ""
  word : ∀ character ∈ name.toList, isWord character = true

/-- The text of a reference. -/
def referenceTo (name : String) : List Char := '$' :: '{' :: (name.toList ++ ['}'])

/-- A reference is written from a position of a text on. -/
def OccursAt (name : String) (text : List Char) (position : Nat) : Prop :=
  IsName name ∧ referenceTo name <+: text.drop position

/-- No reference is written across the join of two texts. -/
def Apart (first second : List Char) : Prop :=
  ∀ name position, OccursAt name (first ++ second) position →
    position + (referenceTo name).length ≤ first.length ∨ first.length ≤ position

namespace Piece

/-- The text of a piece. -/
def text : Piece → List Char
  | literal character => [character]
  | reference name => referenceTo name

/-- The text that stands for a piece where variables are replaced. -/
def value (bindings : Named String) : Piece → List Char
  | literal character => [character]
  | reference name => ((bindings.get? name).getD "").toList

/-- The name of the variable that a piece refers to. -/
def name? : Piece → Option String
  | literal _ => none
  | reference name => some name

end Piece

/-- A text falls into pieces from left to right: a reference that is written is taken as a whole, and a
character from which on none is written is a literal. -/
inductive Scanned : List Piece → List Char → Prop where
  | nil : Scanned [] []
  | literal {character : Char} {later : List Piece} {rest : List Char}
      (plain : ∀ name, ¬OccursAt name (character :: rest) 0) (scanned : Scanned later rest) :
      Scanned (.literal character :: later) (character :: rest)
  | reference {name : String} {later : List Piece} {rest : List Char} (named : IsName name)
      (scanned : Scanned later rest) :
      Scanned (.reference name :: later) (referenceTo name ++ rest)

/-- The names of the variables that a text refers to, in order. -/
def references (text : String) : List String :=
  (pieces text.toList).filterMap Piece.name?

section Names

variable {text after rest : List Char} {name other : String}

theorem isWord_brace : isWord '}' = false := by decide +kernel

theorem isWord_dollar : isWord '$' = false := by decide +kernel

theorem takeName?_eq_some :
    takeName? text = some (name, after) ↔ IsName name ∧ text = name.toList ++ '}' :: after := by
  constructor
  · intro found
    have whole := List.takeWhile_append_dropWhile (p := isWord) (l := text)
    have word : ∀ character ∈ text.takeWhile isWord, isWord character = true :=
      fun _ => List.mem_takeWhile_imp
    unfold takeName? at found
    split at found
    · rename_i first more tail taken left
      rw [taken, left] at whole
      rw [taken] at word
      obtain ⟨rfl, rfl⟩ := Prod.mk.inj (Option.some.inj found)
      refine ⟨⟨?_, ?_⟩, ?_⟩
      · intro empty
        have letters := congrArg String.toList empty
        rw [String.toList_ofList] at letters
        cases letters
      · rwa [String.toList_ofList]
      · rw [String.toList_ofList, whole]
    · cases found
  · rintro ⟨named, rfl⟩
    have nonempty : name.toList ≠ [] := by simpa using named.nonempty
    have taken : (name.toList ++ '}' :: after).takeWhile isWord = name.toList := by
      rw [List.takeWhile_append_of_pos named.word, List.takeWhile_cons_of_neg (by simp [isWord_brace]),
        List.append_nil]
    have left : (name.toList ++ '}' :: after).dropWhile isWord = '}' :: after := by
      rw [List.dropWhile_append_of_pos named.word, List.dropWhile_cons_of_neg (by simp [isWord_brace])]
    have spelled : String.ofList name.toList = name := String.ofList_toList
    rw [takeName?, taken, left]
    generalize name.toList = letters at nonempty spelled
    cases letters with
    | nil => exact absurd rfl nonempty
    | cons first more => exact congrArg (fun name => some (name, after)) spelled

theorem occursAt_zero :
    OccursAt name text 0 ↔ IsName name ∧ ∃ after, text = referenceTo name ++ after := by
  constructor
  · rintro ⟨named, after, same⟩
    exact ⟨named, after, same.symm⟩
  · rintro ⟨named, after, rfl⟩
    exact ⟨named, List.prefix_append _ _⟩

/-- A reference is written where a name and a brace follow its opening. -/
theorem occursAt_open :
    OccursAt name ('$' :: '{' :: rest) 0 ↔ ∃ after, takeName? rest = some (name, after) := by
  simp only [occursAt_zero, takeName?_eq_some, exists_and_left, referenceTo, List.cons_append,
    List.append_assoc, List.nil_append, List.cons.injEq, true_and]

theorem not_occursAt_of_closed {character : Char}
    (closed : ∀ tail, character = '$' → rest = '{' :: tail → False) :
    ¬OccursAt name (character :: rest) 0 := by
  rw [occursAt_zero]
  rintro ⟨_, after, same⟩
  obtain ⟨rfl, rfl⟩ := List.cons.inj same
  exact closed _ rfl rfl

end Names

section Scanning

variable {text rest first second : List Char} {name : String} {found : List Piece} {position : Nat}

/-- Induction on the reading of a text. -/
theorem pieces_scanned (text : List Char) : Scanned (pieces text) text := by
  fun_induction pieces text with
  | case1 => exact .nil
  | case2 rest name after taken _ ih =>
    obtain ⟨named, rfl⟩ := takeName?_eq_some.mp taken
    have scanned := Scanned.reference named ih
    simpa [referenceTo] using scanned
  | case3 rest missing ih =>
    refine .literal (fun name occurs => ?_) ih
    obtain ⟨after, taken⟩ := occursAt_open.mp occurs
    rw [missing] at taken
    cases taken
  | case4 character rest other ih =>
    refine .literal (fun name => not_occursAt_of_closed fun tail dollar brace => ?_) ih
    exact other tail dollar brace

theorem pieces_reference (named : IsName name) (rest : List Char) :
    pieces (referenceTo name ++ rest) = .reference name :: pieces rest := by
  have taken : takeName? (name.toList ++ '}' :: rest) = some (name, rest) :=
    takeName?_eq_some.mpr ⟨named, rfl⟩
  have opened : referenceTo name ++ rest = '$' :: '{' :: (name.toList ++ '}' :: rest) := by
    simp [referenceTo]
  rw [opened, pieces]
  split
  · rename_i other after found
    obtain ⟨rfl, rfl⟩ := Prod.mk.inj (Option.some.inj (taken.symm.trans found))
    rfl
  · rename_i missing
    rw [taken] at missing
    cases missing

theorem pieces_literal {character : Char} (plain : ∀ name, ¬OccursAt name (character :: rest) 0) :
    pieces (character :: rest) = .literal character :: pieces rest := by
  generalize split : character :: rest = text at plain ⊢
  fun_cases pieces text with
  | case1 => cases split
  | case2 opened name after taken => exact absurd (occursAt_open.mpr ⟨after, taken⟩) (plain name)
  | case3 | case4 =>
    obtain ⟨rfl, rfl⟩ := List.cons.inj split
    rfl

/-- A text falls into pieces in one way. -/
theorem Scanned.eq_pieces (scanned : Scanned found text) : found = pieces text := by
  induction scanned with
  | nil => simp [pieces]
  | literal plain _ ih => rw [pieces_literal plain, ih]
  | reference named _ ih => rw [pieces_reference named, ih]

/-- Nothing of a text is lost, and its references are names between braces. -/
theorem Scanned.text_eq (scanned : Scanned found text) : found.flatMap Piece.text = text := by
  induction scanned with
  | nil => rfl
  | literal _ _ ih => exact congrArg (_ :: ·) ih
  | reference _ _ ih => exact congrArg (referenceTo _ ++ ·) ih

theorem Scanned.isName (scanned : Scanned found text) (member : .reference name ∈ found) :
    IsName name := by
  induction scanned with
  | nil => cases member
  | literal _ _ ih =>
    cases member with
    | tail _ later => exact ih later
  | reference named _ ih =>
    cases member with
    | head => exact named
    | tail _ later => exact ih later

theorem occursAt_append :
    OccursAt name (first ++ second) (first.length + position) ↔ OccursAt name second position := by
  rw [OccursAt, OccursAt, ← List.drop_drop, List.drop_left]

/-- A reference has its sign at its start only, so no other one is written from its inside on. -/
theorem not_occursAt_inside (named : IsName name) {other : String} (inside : 0 < position)
    (within : position < (referenceTo name).length) :
    ¬OccursAt other (referenceTo name ++ rest) position := by
  rintro ⟨_, starts⟩
  have sign : (referenceTo name ++ rest)[position]? = some '$' := by
    obtain ⟨after, same⟩ := starts
    have first := congrArg List.head? same
    rw [List.head?_drop] at first
    exact first.symm
  rw [List.getElem?_append_left within] at sign
  have member : '$' ∈ '{' :: (name.toList ++ ['}']) := by
    obtain ⟨position, rfl⟩ := Nat.exists_eq_add_one_of_ne_zero inside.ne'
    exact List.mem_of_getElem? sign
  simp only [List.mem_cons, List.mem_append, List.not_mem_nil, or_false] at member
  obtain impossible | letter | impossible := member
  · cases impossible
  · simpa [isWord_dollar] using named.word _ letter
  · cases impossible

/-- The references among the pieces are those that are written in the text. -/
theorem Scanned.occursAt_iff (scanned : Scanned found text) :
    OccursAt name text position ↔ ∃ before after,
      found = before ++ .reference name :: after ∧ (before.flatMap Piece.text).length = position := by
  constructor
  · intro occurs
    induction scanned generalizing position with
    | nil => 
      have empty := occurs.2
      rw [List.drop_nil] at empty
      cases List.prefix_nil.mp empty
    | @literal character later rest plain scanned ih =>
      cases position with
      | zero => exact absurd occurs (plain name)
      | succ position =>
        obtain ⟨before, after, rfl, rfl⟩ := ih occurs
        exact ⟨.literal character :: before, after, rfl, by simp [Piece.text]⟩
    | @reference other later rest named scanned ih =>
      obtain rfl | inside := Nat.eq_zero_or_pos position
      · obtain ⟨first, after, same⟩ := occursAt_zero.mp occurs
        have here := pieces_reference named rest
        rw [same, pieces_reference first] at here
        obtain ⟨same, _⟩ := List.cons.inj here
        obtain rfl := Piece.reference.inj same
        exact ⟨[], later, rfl, rfl⟩
      · by_cases within : position < (referenceTo other).length
        · exact absurd occurs (not_occursAt_inside named inside within)
        · obtain ⟨position, rfl⟩ := Nat.exists_eq_add_of_le (Nat.le_of_not_lt within)
          obtain ⟨before, after, rfl, rfl⟩ := ih (occursAt_append.mp occurs)
          exact ⟨.reference other :: before, after, rfl, by simp [Piece.text]⟩
  · rintro ⟨before, after, rfl, rfl⟩
    have named := scanned.isName (List.mem_append_right before List.mem_cons_self)
    refine ⟨named, after.flatMap Piece.text, ?_⟩
    rw [← scanned.text_eq, List.flatMap_append, List.drop_left]
    rfl

theorem Apart.of_append (before : List Char) (apart : Apart (before ++ first) second) :
    Apart first second := by
  intro name position occurs
  have shifted := apart name (before.length + position)
  rw [List.append_assoc, occursAt_append, List.length_append] at shifted
  obtain left | right := shifted occurs
  · exact .inl (by omega)
  · exact .inr (by omega)

/-- Where no reference is written across a join, the pieces are those of the texts that are joined. -/
theorem pieces_append (apart : Apart first second) :
    pieces (first ++ second) = pieces first ++ pieces second := by
  have scanned := pieces_scanned first
  generalize pieces first = found at scanned ⊢
  induction scanned with
  | nil => rfl
  | @literal character later rest plain scanned ih =>
    rw [List.cons_append, pieces_literal, ih (apart.of_append [character]), List.cons_append]
    intro name occurs
    obtain short | long := apart name 0 occurs
    · refine plain name ⟨occurs.1, ?_⟩
      exact List.prefix_of_prefix_length_le occurs.2 (List.prefix_append _ second) (by simpa using short)
    · cases long
  | @reference name later rest named scanned ih =>
    rw [List.append_assoc, pieces_reference named, ih (apart.of_append _), List.cons_append]

end Scanning

section Replacing

variable {bindings : Named String} {text other result : String}

/-- A map of texts as a manifest lists its variables. -/
def listed (bindings : Named String) : Value :=
  .map (bindings.map fun (name, value) => (.text name, .text value))

/-- A raw value is the text of a name. -/
private def writes (name : String) : Value → Bool
  | .text item => item == name
  | _ => false

private theorem ofValue_map (entries : List (Value × Value)) (name : String) :
    Variables.ofValue (.map entries) name =
      match entries.find? fun (key, _) => writes name key with
      | some (_, found) => .ok found
      | none => .error (.argument (.unknownVariable name)) := by
  cases entries <;> rfl

private theorem find?_listed (bindings : Named String) (name : String) :
    (bindings.map fun (name, value) => (Value.text name, Value.text value)).find?
        (fun (key, _) => writes name key) =
      (bindings.get? name).map fun value => (.text name, .text value) := by
  induction bindings with
  | nil => rfl
  | cons first rest ih =>
    obtain ⟨present, value⟩ := first
    rw [Named.get?_cons, List.map_cons, List.find?_cons, ih]
    by_cases same : name = present
    · simp [writes, same]
    · have differ : (present == name) = false := by simpa using Ne.symm same
      simp [writes, same, differ]

/-- The variables of a manifest are those that its map lists. -/
theorem ofValue_listed (bindings : Named String) :
    Variables.ofValue (listed bindings) = .ofNamed bindings := by
  funext name
  rw [listed, ofValue_map, find?_listed, Variables.ofNamed]
  cases bindings.get? name <;> rfl

/-- The first of some variables that has no value. -/
def missing? (bindings : Named String) (names : List String) : Option String :=
  names.find? fun name => (bindings.get? name).isNone

theorem missing?_cons (name : String) (names : List String) :
    missing? bindings (name :: names) =
      if (bindings.get? name).isNone then some name else missing? bindings names := by
  rw [missing?, List.find?_cons]
  cases bindings.get? name <;> rfl

theorem substitute_eq (bindings : Named String) (found : List Piece) :
    substitute (.ofNamed bindings) found =
      match missing? bindings (found.filterMap Piece.name?) with
      | some name => .error (.argument (.unknownVariable name))
      | none => .ok (found.flatMap (Piece.value bindings)) := by
  induction found with
  | nil => rfl
  | cons piece rest ih =>
    cases piece with
    | literal character =>
      rw [substitute, ih, List.filterMap_cons_none rfl]
      cases missing? bindings (rest.filterMap Piece.name?) <;> rfl
    | reference name =>
      have names : (Piece.reference name :: rest).filterMap Piece.name? =
        name :: rest.filterMap Piece.name? := rfl
      rw [substitute, ih, names, missing?_cons, Variables.ofNamed]
      cases value : bindings.get? name with
      | none => rfl
      | some value =>
        rw [Option.isNone_some, if_neg Bool.false_ne_true, List.flatMap_cons, Piece.value, value]
        cases missing? bindings (rest.filterMap Piece.name?) <;> rfl

theorem resolve_eq (bindings : Named String) (text : String) :
    resolve (.ofNamed bindings) text =
      match missing? bindings (references text) with
      | some name => .error (.argument (.unknownVariable name))
      | none => .ok (.ofList ((pieces text.toList).flatMap (Piece.value bindings))) := by
  rw [resolve, substitute_eq, references]
  cases missing? bindings ((pieces text.toList).filterMap Piece.name?) <;> rfl

/-- Joined texts are resolved one after the other. -/
theorem resolve_append (bindings : Named String) (apart : Apart text.toList other.toList) :
    resolve (.ofNamed bindings) (text ++ other) =
      (do return (← resolve (.ofNamed bindings) text) ++ (← resolve (.ofNamed bindings) other)) := by
  have split := pieces_append apart
  rw [← String.toList_append] at split
  rw [resolve_eq, resolve_eq, resolve_eq, references, split, List.filterMap_append, List.flatMap_append,
    missing?, List.find?_append, ← references, ← references, ← missing?, ← missing?, String.ofList_append]
  cases missing? bindings (references text) with
  | some name => rfl
  | none => cases missing? bindings (references other) <;> rfl

theorem pieces_of_plain {text : List Char} (plain : ∀ name position, ¬OccursAt name text position) :
    pieces text = text.map .literal := by
  induction text with
  | nil => simp [pieces]
  | cons character rest ih =>
    rw [pieces_literal fun name => plain name 0, ih fun name position => plain name (position + 1),
      List.map_cons]

/-- A text without references is left as it is. -/
theorem resolve_of_plain (bindings : Named String)
    (plain : ∀ name position, ¬OccursAt name text.toList position) :
    resolve (.ofNamed bindings) text = .ok text := by
  have letters := pieces_of_plain plain
  have none : references text = [] := by
    simp [references, letters, Piece.name?]
  have value : (pieces text.toList).flatMap (Piece.value bindings) = text.toList := by
    simp [letters, List.flatMap_map, Piece.value]
  rw [resolve_eq, none, value, String.ofList_toList]
  rfl

theorem missing?_eq_none {names : List String} :
    missing? bindings names = none ↔ ∀ name ∈ names, (bindings.get? name).isSome = true := by
  simp [missing?, Option.isSome_iff_ne_none]

theorem missing?_eq_some {name : String} {names : List String} :
    missing? bindings names = some name ↔ ∃ earlier later, names = earlier ++ name :: later ∧
      (∀ known ∈ earlier, (bindings.get? known).isSome = true) ∧ bindings.get? name = none := by
  rw [missing?, List.find?_eq_some_iff_append]
  constructor
  · rintro ⟨absent, earlier, later, split, known⟩
    exact ⟨earlier, later, split, by simpa [Option.isSome_iff_ne_none] using known, by simpa using absent⟩
  · rintro ⟨earlier, later, split, known, absent⟩
    exact ⟨by simpa using absent, earlier, later, split, by simpa [Option.isSome_iff_ne_none] using known⟩

/-- A text falls into literals and references in one way: the references are all that are written in it.
If all variables are known the text is resolved to its literals with the values in place of the
references, whatever these values look like; else the first unknown one is named. So texts that are
joined without a reference across the join are resolved one after the other, and what holds no
reference is left as it is. -/
theorem resolve_scans (bindings : Named String) (text : String) :
    let lookup := Variables.ofValue (listed bindings)
    (∀ found, pieces text.toList = found ↔ Scanned found text.toList) ∧
    (∀ name position, OccursAt name text.toList position ↔ ∃ before after,
      pieces text.toList = before ++ .reference name :: after ∧
        (before.flatMap Piece.text).length = position) ∧
    (∀ result, resolve lookup text = .ok result ↔
      (∀ name ∈ references text, (bindings.get? name).isSome = true) ∧
        result.toList = (pieces text.toList).flatMap (Piece.value bindings)) ∧
    (∀ failure, resolve lookup text = .error failure ↔ ∃ earlier name later,
      references text = earlier ++ name :: later ∧
        (∀ known ∈ earlier, (bindings.get? known).isSome = true) ∧ bindings.get? name = none ∧
        failure = .argument (.unknownVariable name)) ∧
    (∀ other : String, Apart text.toList other.toList →
      resolve lookup (text ++ other) = do return (← resolve lookup text) ++ (← resolve lookup other)) ∧
    ∀ result, resolve lookup text = .ok result →
      (∀ name position, ¬OccursAt name result.toList position) → resolve lookup result = .ok result := by
  intro lookup
  have scanned := pieces_scanned text.toList
  have same : lookup = .ofNamed bindings := ofValue_listed bindings
  clear_value lookup
  subst same
  refine ⟨fun found => ⟨?_, ?_⟩, fun name position => scanned.occursAt_iff, fun result => ?_,
    fun failure => ?_, fun other => resolve_append bindings,
    fun result _ plain => resolve_of_plain bindings plain⟩
  · rintro rfl
    exact scanned
  · exact fun other => other.eq_pieces.symm
  · rw [resolve_eq, ← missing?_eq_none]
    cases missing? bindings (references text) with
    | none => simp [← String.toList_inj, eq_comm]
    | some name => simp
  · rw [resolve_eq]
    constructor
    · intro failed
      split at failed
      · rename_i name unknown
        obtain ⟨earlier, later, first⟩ := missing?_eq_some.mp unknown
        exact ⟨earlier, name, later, first.1, first.2.1, first.2.2, (Except.error.inj failed).symm⟩
      · cases failed
    · rintro ⟨earlier, name, later, split, known, absent, rfl⟩
      rw [missing?_eq_some.mpr ⟨earlier, later, split, known, absent⟩]

/-- Values that look like references are not replaced in their turn. -/
theorem resolve_nested :
    let lookup := Variables.ofValue (listed [("a", "$\x7bb\x7d"), ("b", "x")])
    resolve lookup ("$" ++ "$\x7b$\x7ba\x7d\x7d") = .ok "$$\x7b$\x7bb\x7d\x7d" ∧
      resolve lookup "$$\x7bb\x7d" = .ok "$x" ∧ resolve lookup "$x" = .ok "$x" := by
  intro lookup
  have scans := resolve_scans [("a", "$\x7bb\x7d"), ("b", "x")]
  have first : resolve lookup "$" = .ok "$" := by decide +kernel
  have second : resolve lookup "$\x7b$\x7ba\x7d\x7d" = .ok "$\x7b$\x7bb\x7d\x7d" := by decide +kernel
  have once : resolve lookup "$$\x7bb\x7d" = .ok "$x" := by decide +kernel
  have letters : pieces "$x".toList = [.literal '$', .literal 'x'] := by decide +kernel
  have apart : Apart "$".toList "$\x7b$\x7ba\x7d\x7d".toList := by
    intro name position occurs
    cases position with
    | zero =>
      obtain ⟨_, after, same⟩ := occurs
      simp [referenceTo] at same
    | succ position => exact .inr (by simp)
  have joined := (scans "$").2.2.2.2.1 _ apart
  have again := (scans "$$\x7bb\x7d").2.2.2.2.2 "$x" once
  rw [show resolve _ "$" = _ from first, show resolve _ _ = _ from second] at joined
  refine ⟨joined, once, again fun name position occurs => ?_⟩
  obtain ⟨before, after, split, _⟩ := ((scans "$x").2.1 name position).mp occurs
  have member : .reference name ∈ pieces "$x".toList := split ▸ by simp
  rw [letters] at member
  simp at member

end Replacing

end Montage.PathVariable
