import Montage.Proofs.Manifest.Parts
import Montage.Proofs.Number.Exact

/-! What the fields of a raw manifest hold where they are read without a violation. -/

namespace Montage

variable {field : Field} {value : Value}

theorem Worded.read?_word {β : Type} [Worded β] {word : String} {known : β}
    (read : Worded.read? word = some known) : Worded.word known = word := by
  simpa using List.find?_some read

/-- A word that has to be there is the one for the thing it is read as. -/
theorem requireWord_ok {β : Type} [Worded β] {default known : β}
    (read : requireWord value field default = .ok known) :
    ∃ word, value = .text word ∧ Worded.word known = Text.upper (Text.trim word) := by
  cases value with
  | text word =>
    simp only [requireWord, Value.isNull, Bool.false_eq_true, if_false, readWord] at read
    split at read
    · rename_i found
      exact ⟨word, rfl, Except.ok.inj read ▸ Worded.read?_word found⟩
    · split at read <;> cases read
  | null => simp [requireWord, Value.isNull] at read
  | _ =>
    simp only [requireWord, Value.isNull, Bool.false_eq_true, if_false, readWord] at read
    split at read <;> cases read

theorem readNumber_finite {number : Binary64} (read : readNumber value field = .ok number) :
    number.isFinite = true := by
  unfold readNumber at read
  split at read
  · split at read
    · rename_i found
      exact Except.ok.inj read ▸ Binary64.isFinite_of_ofInt? found
    · cases read
  · split at read
    · rename_i finite
      exact Except.ok.inj read ▸ finite
    · cases read
  · cases read

theorem Binary64.zero_finite : Binary64.zero.isFinite = true := by
  simp [zero, ofUnits, representable_zero, isFinite]

theorem Binary64.exact_zero : Binary64.zero.exact = 0 := by
  simp [exact, zero, ofUnits, representable_zero, signedUnits]

/-- A start is finite and not below zero. -/
theorem readStart_ok {number : Binary64} (read : readStart value field = .ok number) :
    number.isFinite = true ∧ 0 ≤ number.exact := by
  obtain ⟨_, rfl⟩ | ⟨_, number, notBelow⟩ := readStart_eq_ok.mp read
  · exact ⟨Binary64.zero_finite, Binary64.exact_zero.ge⟩
  · have finite := readNumber_finite number
    rw [← Bool.not_eq_true, Binary64.lt_iff finite Binary64.zero_finite, Binary64.exact_zero,
      not_lt] at notBelow
    exact ⟨finite, notBelow⟩

/-- Bounds written as exact values that they do not go beyond. -/
structure Bounds.Inside (bounds : Bounds) (low high : ℚ) : Prop where
  finite : bounds.low.isFinite = true ∧ bounds.high.isFinite = true
  low : low ≤ bounds.low.exact
  high : bounds.high.exact ≤ high

theorem Bounds.Inside.allow {bounds : Bounds} {low high : ℚ} (inside : bounds.Inside low high)
    {number : Binary64} (finite : number.isFinite = true) (allowed : bounds.allow number = true) :
    low ≤ number.exact ∧ number.exact ≤ high := by
  obtain ⟨above, below⟩ := Bool.and_eq_true_iff.mp allowed
  rw [Binary64.le_iff inside.finite.1 finite] at above
  rw [Binary64.le_iff finite inside.finite.2] at below
  exact ⟨inside.low.trans above, below.trans inside.high⟩

/-- A number that is read within bounds keeps them, if the default does. -/
theorem readWithin_ok {default number : Binary64} {bounds : Bounds} {low high : ℚ}
    (inside : bounds.Inside low high)
    (kept : default.isFinite = true ∧ bounds.allow default = true)
    (read : readWithin value default bounds field = .ok number) :
    number.isFinite = true ∧ low ≤ number.exact ∧ number.exact ≤ high := by
  obtain ⟨_, rfl⟩ | ⟨_, number, allowed⟩ := readWithin_eq_ok.mp read
  · exact ⟨kept.1, inside.allow kept.1 kept.2⟩
  · exact ⟨readNumber_finite number, inside.allow (readNumber_finite number) allowed⟩

end Montage
