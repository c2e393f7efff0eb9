import Mathlib.Algebra.Ring.Parity
import Mathlib.Data.List.DropRight
import Montage.Filter.Caption

/-! How a text is escaped and how it is read back. The passes over the text come to one, because
none of them looks for a character that an earlier one has put in. -/

namespace Montage

/-- One pass over a text, with a backslash before each of some characters. -/
def escapeAll (marks text : List Char) : List Char :=
  text.flatMap fun character => if character ∈ marks then ['\\', character] else [character]

/-- The characters that are written with a backslash before them. -/
def reserved : List Char := ['\\', ':', '\'', '%']

/-- Removes a backslash before each character that follows one. -/
def unescape : List Char → List Char
  | '\\' :: character :: rest => character :: unescape rest
  | character :: rest => character :: unescape rest
  | [] => []

/-- The text that an escaped one stands for. -/
def unescapeText (text : String) : String :=
  String.ofList (unescape text.toList)

/-- How many backslashes stand one after the other at the end of a text. -/
def backslashesAtEnd (text : List Char) : Nat :=
  (text.rtakeWhile (· == '\\')).length

variable {marks text : List Char} {character mark : Char}

section Passes

@[simp] theorem escapeAll_nil : escapeAll marks [] = [] := rfl

theorem escapeAll_cons : escapeAll marks (character :: text) =
    (if character ∈ marks then ['\\', character] else [character]) ++ escapeAll marks text :=
  List.flatMap_cons

theorem escapeAll_append (left right : List Char) :
    escapeAll marks (left ++ right) = escapeAll marks left ++ escapeAll marks right :=
  List.flatMap_append

theorem escapeAll_listed (listed : character ∈ marks) :
    escapeAll marks (character :: text) = '\\' :: character :: escapeAll marks text := by
  simp [escapeAll_cons, listed]

theorem escapeAll_free (free : character ∉ marks) :
    escapeAll marks (character :: text) = character :: escapeAll marks text := by
  simp [escapeAll_cons, free]

theorem escapeOne_eq (mark : Char) (text : List Char) :
    escapeOne mark text = escapeAll [mark] text := by
  induction text with
  | nil => rfl
  | cons character rest ih =>
    by_cases same : character = mark <;> simp [escapeOne, escapeAll_cons, same, ih]

/-- A later pass adds its own character to those of the passes before it, as long as it does not look
for the backslashes that they have put in. -/
theorem escapeOne_escapeAll (fresh : mark ∉ marks) (other : mark ≠ '\\') :
    escapeOne mark (escapeAll marks text) = escapeAll (mark :: marks) text := by
  induction text with
  | nil => rfl
  | cons character rest ih =>
    by_cases listed : character ∈ marks
    · have different : character ≠ mark := fun same => fresh (same ▸ listed)
      rw [escapeAll_listed listed, escapeAll_listed (List.mem_cons_of_mem mark listed)]
      simp [escapeOne, different, Ne.symm other, ih]
    · rw [escapeAll_free listed]
      by_cases same : character = mark
      · subst same
        rw [escapeAll_listed List.mem_cons_self]
        simp [escapeOne, ih]
      · rw [escapeAll_free (by simp [same, listed])]
        simp [escapeOne, same, ih]

/-- Only which characters are listed counts, not their order. -/
theorem escapeAll_congr {others : List Char}
    (same : ∀ character, character ∈ marks ↔ character ∈ others) :
    escapeAll marks text = escapeAll others text := by
  simp only [escapeAll, same]

/-- The four replacements come to one that looks at each character once. -/
theorem escapeReserved_eq (text : List Char) : escapeReserved text = escapeAll reserved text := by
  calc escapeReserved text
    _ = escapeOne '%' (escapeOne '\'' (escapeOne ':' (escapeAll ['\\'] text))) := by
        rw [escapeReserved, escapeOne_eq '\\']
    _ = escapeAll ['%', '\'', ':', '\\'] text := by
        rw [escapeOne_escapeAll (by decide) (by decide),
          escapeOne_escapeAll (by decide) (by decide), escapeOne_escapeAll (by decide) (by decide)]
    _ = escapeAll reserved text := escapeAll_congr fun character => by grind [reserved]

theorem escapeReserved_cons (character : Char) :
    escapeReserved (character :: text) =
      (if character ∈ reserved then ['\\', character] else [character]) ++
        escapeReserved text := by
  rw [escapeReserved_eq, escapeReserved_eq, escapeAll_cons]

theorem escapeText_append (left right : String) :
    escapeText (left ++ right) = escapeText left ++ escapeText right := by
  simp only [escapeText, escapeReserved_eq, String.toList_append, escapeAll_append,
    String.ofList_append]

end Passes

section Reading

theorem unescape_cons (other : character ≠ '\\') :
    unescape (character :: text) = character :: unescape text := by
  rw [unescape]
  exact fun _ _ same => absurd same other

/-- What is read back is the text itself, once backslashes are escaped too. -/
theorem unescape_escapeAll (backslash : '\\' ∈ marks) : unescape (escapeAll marks text) = text := by
  induction text with
  | nil => rfl
  | cons character rest ih =>
    by_cases listed : character ∈ marks
    · rw [escapeAll_listed listed, unescape, ih]
    · have other : character ≠ '\\' := fun same => listed (same ▸ backslash)
      rw [escapeAll_free listed, unescape_cons other, ih]

theorem unescapeText_escapeText (text : String) : unescapeText (escapeText text) = text := by
  rw [unescapeText, escapeText, String.toList_ofList, escapeReserved_eq,
    unescape_escapeAll (by decide), String.ofList_toList]

end Reading

section Runs

@[simp] theorem backslashesAtEnd_nil : backslashesAtEnd [] = 0 := rfl

theorem backslashesAtEnd_backslash :
    backslashesAtEnd (text ++ ['\\']) = backslashesAtEnd text + 1 := by
  rw [backslashesAtEnd, List.rtakeWhile_concat_pos _ _ _ (by decide), List.length_append]
  rfl

theorem backslashesAtEnd_other (other : character ≠ '\\') :
    backslashesAtEnd (text ++ [character]) = 0 := by
  rw [backslashesAtEnd, List.rtakeWhile_concat_neg _ _ _ (by simpa using other), List.length_nil]

/-- The backslashes at the end of an escaped text stand in pairs: each one of the text, and the one
put before it. -/
theorem backslashesAtEnd_even (backslash : '\\' ∈ marks) :
    Even (backslashesAtEnd (escapeAll marks text)) := by
  induction text using List.reverseRecOn with
  | nil => simp
  | append_singleton text character ih =>
    rw [escapeAll_append]
    by_cases same : character = '\\'
    · subst same
      have pair : escapeAll marks ['\\'] = ['\\'] ++ ['\\'] := escapeAll_listed backslash
      rw [pair, ← List.append_assoc, backslashesAtEnd_backslash, backslashesAtEnd_backslash]
      exact ih.add_one.add_one
    · have ended : ∃ start, escapeAll marks [character] = start ++ [character] := by
        by_cases listed : character ∈ marks
        · exact ⟨['\\'], escapeAll_listed listed⟩
        · exact ⟨[], escapeAll_free listed⟩
      obtain ⟨start, ended⟩ := ended
      rw [ended, ← List.append_assoc, backslashesAtEnd_other same]
      exact Even.zero

/-- Where an escaped text shows a character that was looked for, backslashes apart, the text has it,
and the part before it ends in the backslash put there. -/
theorem escapeAll_split {before after : List Char} (listed : mark ∈ marks) (other : mark ≠ '\\')
    (split : escapeAll marks text = before ++ mark :: after) :
    ∃ earlier later, text = earlier ++ mark :: later ∧
      before = escapeAll marks earlier ++ ['\\'] ∧ after = escapeAll marks later := by
  induction text generalizing before with
  | nil => simp at split
  | cons character rest ih =>
    by_cases here : character ∈ marks
    · rw [escapeAll_listed here] at split
      -- The occurrence is not the backslash put in: it is the character behind it or further on.
      match before with
      | [] => exact absurd (List.cons.inj split).1.symm other
      | [first] =>
        obtain ⟨rfl, rfl, rfl⟩ : '\\' = first ∧ character = mark ∧
            escapeAll marks rest = after := by simpa using split
        exact ⟨[], rest, rfl, rfl, rfl⟩
      | first :: second :: before =>
        obtain ⟨rfl, rfl, onward⟩ : '\\' = first ∧ character = second ∧
            escapeAll marks rest = before ++ mark :: after := by simpa using split
        obtain ⟨earlier, later, rfl, rfl, rfl⟩ := ih onward
        exact ⟨character :: earlier, later, rfl, by simp [escapeAll_listed here], rfl⟩
    · rw [escapeAll_free here] at split
      match before with
      | [] => exact absurd ((List.cons.inj split).1 ▸ listed) here
      | first :: before =>
        obtain ⟨rfl, onward⟩ : character = first ∧
            escapeAll marks rest = before ++ mark :: after := by simpa using split
        obtain ⟨earlier, later, rfl, rfl, rfl⟩ := ih onward
        exact ⟨character :: earlier, later, rfl, by simp [escapeAll_free here], rfl⟩

theorem backslashesAtEnd_odd {before after : List Char} (backslash : '\\' ∈ marks)
    (listed : mark ∈ marks) (other : mark ≠ '\\')
    (split : escapeAll marks text = before ++ mark :: after) : Odd (backslashesAtEnd before) := by
  obtain ⟨earlier, later, -, rfl, -⟩ := escapeAll_split listed other split
  rw [backslashesAtEnd_backslash]
  exact (backslashesAtEnd_even backslash).add_one

end Runs

/-- A text is escaped in one pass and part by part, and it is read back exactly. Each colon,
apostrophe and percent sign stands behind an odd run of backslashes. -/
theorem escapeText_faithful (text : String) :
    escapeText text = String.ofList (escapeAll reserved text.toList) ∧
    (∀ later, escapeText (text ++ later) = escapeText text ++ escapeText later) ∧
    unescapeText (escapeText text) = text ∧
    (∀ other, escapeText other = escapeText text → other = text) ∧
    ∀ mark ∈ [':', '\'', '%'], ∀ before after,
      (escapeText text).toList = before ++ mark :: after → Odd (backslashesAtEnd before) := by
  refine ⟨?once, escapeText_append text, unescapeText_escapeText text, ?injective, ?odd⟩
  case once => rw [escapeText, escapeReserved_eq]
  case injective =>
    intro other same
    exact Function.LeftInverse.injective unescapeText_escapeText same
  case odd =>
    intro mark member before after split
    rw [escapeText, String.toList_ofList, escapeReserved_eq] at split
    have other : mark ≠ '\\' := fun same => by simp [same] at member
    have listed : mark ∈ reserved := List.mem_cons_of_mem _ member
    exact backslashesAtEnd_odd (by decide) listed other split

/-- A backslash and a colon after it: three backslashes stand before the colon. -/
theorem backslashedColon_faithful :
    escapeText "a\\:" = "a\\\\\\:" ∧
    escapeText ("a\\:" ++ "'%") = escapeText "a\\:" ++ escapeText "'%" ∧
    unescapeText "a\\\\\\:" = "a\\:" ∧
    ':' ∈ [':', '\'', '%'] ∧
    (escapeText "a\\:").toList = ['a', '\\', '\\', '\\'] ++ ':' :: [] ∧
    Odd (backslashesAtEnd ['a', '\\', '\\', '\\']) := by
  obtain ⟨-, joined, recovered, -, odd⟩ := escapeText_faithful "a\\:"
  have written : escapeText "a\\:" = "a\\\\\\:" := by decide
  have split : (escapeText "a\\:").toList = ['a', '\\', '\\', '\\'] ++ ':' :: [] := by decide
  exact ⟨written, joined "'%", written ▸ recovered, by decide, split,
    odd ':' (by decide) _ [] split⟩

end Montage
