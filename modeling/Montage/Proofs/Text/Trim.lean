import Mathlib.Data.List.DropRight
import Montage.Text.Blank

/-! Trimmed text has nothing left to trim. -/

namespace Montage.Text

theorem trimLeft_trimList (text : List Char) : trimLeft (trimList text) = trimList text := by
  have shorter : trimList text <+: trimLeft text := List.rdropWhile_prefix isBlank _
  obtain ⟨rest, appended⟩ := shorter
  cases trimmed : trimList text with
  | nil => rfl
  | cons character others =>
    -- The first character kept on the right is the first one kept on the left.
    have kept := List.head?_dropWhile_not isBlank text
    rw [trimmed, List.cons_append] at appended
    rw [show text.dropWhile isBlank = character :: (others ++ rest) from appended.symm] at kept
    exact List.dropWhile_cons_of_neg (by simpa using kept)

/-- Trimming a second time changes nothing. -/
theorem trimList_trimList (text : List Char) : trimList (trimList text) = trimList text := by
  have settled : List.rdropWhile isBlank (trimList text) = trimList text :=
    List.rdropWhile_idempotent isBlank (trimLeft text)
  rw [trimList, trimLeft_trimList]
  exact settled

@[simp] theorem trim_trim (text : String) : trim (trim text) = trim text := by
  simp [trim, trimList_trimList]

@[simp] theorem isBlankText_trim (text : String) : isBlankText (trim text) = isBlankText text := by
  simp [isBlankText, trim, trimList_trimList]

/-- A text is blank if nothing is left of it. -/
theorem isBlankText_iff {text : String} : isBlankText text = true ↔ trim text = "" := by
  rw [isBlankText, trim, List.isEmpty_iff, ← String.toList_inj, String.toList_ofList]
  rfl

end Montage.Text
