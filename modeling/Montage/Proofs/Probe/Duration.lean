import Mathlib.Data.List.TakeWhile
import Montage.Probe
import Montage.Proofs.Number.Decimal
import Montage.Proofs.Outcome

/-! The duration that a report speaks of is the first that is written in it, with runs of digits as
long as they can be. What stands before and after it does not matter. -/

namespace Montage

open Text (isDigit digitsValue)

/-- Digits, one at least. -/
structure IsRun (digits : List Char) : Prop where
  nonempty : digits ≠ []
  digit : ∀ character ∈ digits, isDigit character = true

/-- A text does not begin with a digit. -/
def Digitless (text : List Char) : Prop := ∀ character ∈ text.head?, isDigit character = false

namespace DurationText

/-- What a duration begins with. -/
@[irreducible] def label : List Char := "Duration: ".toList

theorem label_eq : label = "Duration: ".toList := by
  rw [label]

/-- The fraction behind its point, nothing if there is none. -/
def pointed (duration : DurationText) : List Char :=
  if duration.fraction.isEmpty then [] else '.' :: duration.fraction

/-- The text that writes a duration. -/
def text (duration : DurationText) : List Char :=
  label ++ (duration.hours ++ ':' :: (duration.minutes ++ ':' ::
    (duration.seconds ++ duration.pointed)))

/-- Hours, minutes and seconds are runs of digits, and so is the fraction unless there is none. -/
structure Numeric (duration : DurationText) : Prop where
  hours : IsRun duration.hours
  minutes : IsRun duration.minutes
  seconds : IsRun duration.seconds
  fraction : ∀ character ∈ duration.fraction, isDigit character = true

/-- What follows a duration does not go on with its seconds or its fraction. -/
structure EndsBefore (duration : DurationText) (after : List Char) : Prop where
  digitless : Digitless after
  pointless : duration.fraction = [] → ∀ rest, after = '.' :: rest → Digitless rest

/-- A duration is written from a position of a report on. -/
def OccursAt (duration : DurationText) (report : List Char) (position : Nat) : Prop :=
  duration.Numeric ∧ duration.text <+: report.drop position

/-- A duration is the first that is written in a report, between what stands before and after it,
and its runs of digits are as long as they can be. -/
structure Leads (duration : DurationText) (report before after : List Char) : Prop where
  written : report = before ++ (duration.text ++ after)
  numeric : duration.Numeric
  ends : duration.EndsBefore after
  first : ∀ position < before.length, ∀ other : DurationText, ¬other.OccursAt report position

end DurationText

section Runs

variable {text run rest : List Char}

theorem takeWhile_run (digit : ∀ character ∈ run, isDigit character = true) (ends : Digitless rest) :
    (run ++ rest).takeWhile isDigit = run ∧ (run ++ rest).dropWhile isDigit = rest := by
  induction run with
  | nil =>
    cases rest with
    | nil => exact ⟨rfl, rfl⟩
    | cons character rest =>
      have other := ends character rfl
      constructor
      · exact List.takeWhile_cons_of_neg (by simp [other])
      · exact List.dropWhile_cons_of_neg (by simp [other])
  | cons character run ih =>
    obtain ⟨here, later⟩ := List.forall_mem_cons.mp digit
    obtain ⟨taken, left⟩ := ih later
    rw [List.cons_append, List.takeWhile_cons_of_pos here, List.dropWhile_cons_of_pos here, taken]
    exact ⟨rfl, left⟩

theorem digitless_dropWhile (text : List Char) : Digitless (text.dropWhile isDigit) := by
  intro character first
  have kept := List.head?_dropWhile_not isDigit text
  rw [Option.mem_def.mp first] at kept
  simpa using kept

theorem digitless_cons {character : Char} (other : isDigit character = false) (rest : List Char) :
    Digitless (character :: rest) := by
  intro first same
  obtain rfl := Option.some.inj same
  exact other

theorem takeRun?_append (digits : IsRun run) (ends : Digitless rest) :
    takeRun? (run ++ rest) = some (run, rest) := by
  obtain ⟨taken, left⟩ := takeWhile_run digits.digit ends
  rw [takeRun?, taken, left]
  cases run with
  | nil => exact absurd rfl digits.nonempty
  | cons => rfl

/-- A run is taken with all the digits that there are. -/
theorem takeRun?_eq_some :
    takeRun? text = some (run, rest) ↔ IsRun run ∧ Digitless rest ∧ text = run ++ rest := by
  constructor
  · intro taken
    rw [takeRun?] at taken
    split at taken
    · cases taken
    · rename_i nonempty
      obtain ⟨rfl, rfl⟩ := Prod.mk.inj (Option.some.inj taken)
      refine ⟨⟨nonempty, ?_⟩, digitless_dropWhile text, List.takeWhile_append_dropWhile.symm⟩
      intro character member
      exact List.mem_takeWhile_imp member
  · rintro ⟨digits, ends, rfl⟩
    exact takeRun?_append digits ends

end Runs

section Here

variable {text run after rest : List Char} {duration : DurationText}

theorem isDigit_colon : isDigit ':' = false := by decide

theorem isDigit_point : isDigit '.' = false := by decide

/-- The fraction behind the point that a text begins with. -/
def fractionIn (text : List Char) : List Char :=
  match text with
  | '.' :: rest => rest.takeWhile isDigit
  | _ => []

theorem fractionIn_pointed (digit : ∀ character ∈ duration.fraction, isDigit character = true)
    (ends : duration.EndsBefore after) :
    fractionIn (duration.pointed ++ after) = duration.fraction := by
  rw [DurationText.pointed]
  by_cases none : duration.fraction = []
  · rw [none]
    cases after with
    | nil => rfl
    | cons character rest =>
      by_cases point : character = '.'
      · subst point
        exact (@takeWhile_run [] rest nofun (ends.pointless none rest rfl)).1
      · simp [fractionIn, point]
  · rw [if_neg (by simpa using none)]
    exact (takeWhile_run digit ends.digitless).1

theorem digitless_pointed (duration : DurationText) (ends : Digitless after) :
    Digitless (duration.pointed ++ after) := by
  rw [DurationText.pointed]
  by_cases none : duration.fraction.isEmpty = true
  · rw [if_pos none]
    exact ends
  · rw [if_neg none]
    exact digitless_cons isDigit_point _

theorem exists_pointed (duration : DurationText) (ends : Digitless rest)
    (taken : duration.fraction = fractionIn rest) :
    (∀ character ∈ duration.fraction, isDigit character = true) ∧
      ∃ after, duration.EndsBefore after ∧ rest = duration.pointed ++ after := by
  rw [DurationText.pointed, taken]
  unfold fractionIn at taken ⊢
  split at taken
  · rename_i rest
    refine ⟨fun character => List.mem_takeWhile_imp, ?_⟩
    have whole := List.takeWhile_append_dropWhile (p := isDigit) (l := rest)
    by_cases none : rest.takeWhile isDigit = []
    · rw [none, List.nil_append] at whole
      refine ⟨'.' :: rest, ⟨digitless_cons isDigit_point rest, ?_⟩, by rw [none]; rfl⟩
      rintro _ later ⟨⟩
      exact whole ▸ digitless_dropWhile rest
    · refine ⟨rest.dropWhile isDigit, ⟨digitless_dropWhile rest, fun empty => ?_⟩, ?_⟩
      · exact absurd (taken.symm.trans empty) none
      · rw [if_neg (by simpa using none), List.cons_append, whole]
  · rename_i other
    refine ⟨nofun, rest, ⟨ends, ?_⟩, rfl⟩
    intro _ later same
    exact absurd same (other later)

theorem colon?_eq_some : durationHere?.colon? text = some rest ↔ text = ':' :: rest := by
  constructor
  · intro found
    unfold durationHere?.colon? at found
    split at found
    · rw [Option.some.inj found]
    · cases found
  · intro same
    rw [same]
    rfl

@[simp] theorem colon?_cons (rest : List Char) : durationHere?.colon? (':' :: rest) = some rest := rfl

theorem text_append (duration : DurationText) (after : List Char) :
    duration.text ++ after =
      DurationText.label ++ (duration.hours ++ ':' :: (duration.minutes ++ ':' ::
        (duration.seconds ++ (duration.pointed ++ after)))) := by
  simp only [DurationText.text, List.append_assoc, List.cons_append]

/-- The duration that is found at the start of a text is the one that is written there, with runs of
digits as long as they can be. -/
theorem durationHere?_eq_some :
    durationHere? text = some duration ↔
      duration.Numeric ∧ ∃ after, duration.EndsBefore after ∧ text = duration.text ++ after := by
  constructor
  · intro found
    rw [durationHere?, ← DurationText.label_eq] at found
    rw [DurationText.text]
    generalize DurationText.label = label at found ⊢
    split at found
    · cases found
    · rename_i labelled
      obtain ⟨rest, rfl⟩ : label <+: text := by
        rw [← List.isPrefixOf_iff_prefix]
        simpa using labelled
      rw [List.drop_left] at found
      obtain ⟨⟨hours, first⟩, hour, found⟩ := Option.bind_eq_some_iff.mp found
      obtain ⟨second, colon, found⟩ := Option.bind_eq_some_iff.mp found
      obtain ⟨⟨minutes, third⟩, minute, found⟩ := Option.bind_eq_some_iff.mp found
      obtain ⟨fourth, mark, found⟩ := Option.bind_eq_some_iff.mp found
      obtain ⟨⟨seconds, rest⟩, last, built⟩ := Option.bind_eq_some_iff.mp found
      obtain ⟨hourRun, _, rfl⟩ := takeRun?_eq_some.mp hour
      obtain rfl := colon?_eq_some.mp colon
      obtain ⟨minuteRun, _, rfl⟩ := takeRun?_eq_some.mp minute
      obtain rfl := colon?_eq_some.mp mark
      obtain ⟨secondRun, ends, rfl⟩ := takeRun?_eq_some.mp last
      have built : some (DurationText.mk hours minutes seconds (fractionIn rest)) = some duration :=
        built
      obtain rfl := Option.some.inj built
      obtain ⟨fractionDigits, after, ended, split⟩ :=
        exists_pointed ⟨hours, minutes, seconds, fractionIn rest⟩ ends rfl
      refine ⟨⟨hourRun, minuteRun, secondRun, fractionDigits⟩, after, ended, ?_⟩
      conv_lhs => rw [split]
      simp only [List.append_assoc, List.cons_append]
  · rintro ⟨numeric, after, ends, rfl⟩
    have hour (rest : List Char) :=
      takeRun?_append numeric.hours (digitless_cons isDigit_colon rest)
    have minute (rest : List Char) :=
      takeRun?_append numeric.minutes (digitless_cons isDigit_colon rest)
    have second := takeRun?_append numeric.seconds
      (digitless_pointed duration ends.digitless)
    have fraction := fractionIn_pointed numeric.fraction ends
    have labelled (rest : List Char) :
        DurationText.label.isPrefixOf (DurationText.label ++ rest) = true :=
      List.isPrefixOf_iff_prefix.mpr (List.prefix_append _ _)
    rw [durationHere?, ← DurationText.label_eq, text_append, labelled, List.drop_left]
    refine Option.bind_eq_some_iff.mpr ⟨_, hour _, ?_⟩
    refine Option.bind_eq_some_iff.mpr ⟨_, colon?_cons _, ?_⟩
    refine Option.bind_eq_some_iff.mpr ⟨_, minute _, ?_⟩
    refine Option.bind_eq_some_iff.mpr ⟨_, colon?_cons _, ?_⟩
    refine Option.bind_eq_some_iff.mpr ⟨_, second, ?_⟩
    exact congrArg some (congrArg (DurationText.mk _ _ _) fraction)

theorem IsRun.append_takeWhile (digits : IsRun run) (tail : List Char) :
    IsRun (run ++ tail.takeWhile isDigit) := by
  refine ⟨by simp [digits.nonempty], ?_⟩
  intro character member
  rcases List.mem_append.mp member with own | taken
  · exact digits.digit character own
  · exact List.mem_takeWhile_imp taken

/-- What is written in front of a text is a duration with runs of digits as long as they can be,
although some of the digits may belong to the text. -/
theorem exists_longest {other : DurationText} (numeric : other.Numeric) (tail : List Char) :
    ∃ duration : DurationText, duration.Numeric ∧
      ∃ after, duration.EndsBefore after ∧ other.text ++ tail = duration.text ++ after := by
  have whole := List.takeWhile_append_dropWhile (p := isDigit) (l := tail)
  have ends := digitless_dropWhile tail
  by_cases none : other.fraction = []
  · -- The seconds take the digits, and a fraction may follow.
    let longer : DurationText := { other with
      seconds := other.seconds ++ tail.takeWhile isDigit
      fraction := fractionIn (tail.dropWhile isDigit) }
    obtain ⟨fraction, after, ended, split⟩ := exists_pointed longer ends rfl
    have seconds := numeric.seconds.append_takeWhile tail
    refine ⟨longer, ⟨numeric.hours, numeric.minutes, seconds, fraction⟩, after, ended, ?_⟩
    rw [DurationText.text, DurationText.text, DurationText.pointed, none]
    conv_lhs => rw [← whole, split]
    simp [longer]
  · -- The fraction takes the digits.
    refine ⟨{ other with fraction := other.fraction ++ tail.takeWhile isDigit },
      ⟨numeric.hours, numeric.minutes, numeric.seconds, ?_⟩, tail.dropWhile isDigit, ⟨ends, ?_⟩, ?_⟩
    · intro character member
      rcases List.mem_append.mp member with own | taken
      · exact numeric.fraction character own
      · exact List.mem_takeWhile_imp taken
    · intro empty
      exact absurd (List.append_eq_nil_iff.mp empty).1 none
    · rw [DurationText.text, DurationText.text, DurationText.pointed, DurationText.pointed]
      conv_lhs => rw [← whole]
      simp [none]

theorem durationHere?_eq_none :
    durationHere? text = none ↔ ∀ other : DurationText, other.Numeric → ¬other.text <+: text := by
  constructor
  · rintro missing other numeric ⟨tail, rfl⟩
    obtain ⟨duration, longest⟩ := exists_longest numeric tail
    rw [durationHere?_eq_some.mpr longest] at missing
    cases missing
  · intro none
    cases found : durationHere? text with
    | none => rfl
    | some duration =>
      obtain ⟨numeric, after, _, rfl⟩ := durationHere?_eq_some.mp found
      exact absurd (List.prefix_append _ after) (none duration numeric)

end Here

section Search

variable {report before after : List Char} {duration : DurationText}

theorem text_ne_nil : duration.text ++ after ≠ [] := by
  simp [DurationText.text]

theorem findDuration?_of_here (found : durationHere? report = some duration)
    (some : report ≠ []) : findDuration? report = Option.some duration := by
  cases report with
  | nil => exact absurd rfl some
  | cons character rest => rw [findDuration?, found]

theorem findDuration?_cons {character : Char}
    (missing : durationHere? (character :: report) = none) :
    findDuration? (character :: report) = findDuration? report := by
  rw [findDuration?, missing]

/-- No duration is written from the first character on, nor from a later one. -/
theorem not_occursAt_cons {character : Char} {limit : Nat}
    (missing : durationHere? (character :: report) = none)
    (none : ∀ position < limit, ∀ other : DurationText, ¬other.OccursAt report position) :
    ∀ position < limit + 1, ∀ other : DurationText,
      ¬other.OccursAt (character :: report) position := by
  intro position within other occurs
  cases position with
  | zero => exact durationHere?_eq_none.mp missing other occurs.1 occurs.2
  | succ position => exact none position (Nat.lt_of_succ_lt_succ within) other occurs

/-- The duration that is found is the first that is written in the report. -/
theorem leads_of_findDuration? (found : findDuration? report = some duration) :
    ∃ before after, duration.Leads report before after := by
  induction report with
  | nil => cases found
  | cons character rest ih =>
    cases here : durationHere? (character :: rest) with
    | some other =>
      rw [findDuration?_of_here here (List.cons_ne_nil _ _)] at found
      obtain rfl := Option.some.inj found
      obtain ⟨numeric, after, ends, written⟩ := durationHere?_eq_some.mp here
      exact ⟨[], after, written, numeric, ends, nofun⟩
    | none =>
      rw [findDuration?_cons here] at found
      obtain ⟨before, after, written, numeric, ends, first⟩ := ih found
      exact ⟨character :: before, after, congrArg (character :: ·) written, numeric, ends,
        not_occursAt_cons here first⟩

/-- A duration leads a report of nothing else. -/
theorem DurationText.Numeric.leads (numeric : duration.Numeric) : duration.Leads duration.text [] [] :=
  ⟨(List.append_nil _).symm, numeric, ⟨nofun, fun _ _ => nofun⟩, nofun⟩

/-- The first duration that is written in a report is found, whatever stands around it. -/
theorem findDuration?_of_leads (leads : duration.Leads report before after) :
    findDuration? report = some duration := by
  obtain ⟨written, numeric, ends, first⟩ := leads
  induction before generalizing report with
  | nil =>
    have here := durationHere?_eq_some.mpr ⟨numeric, after, ends, written⟩
    exact findDuration?_of_here here (written ▸ text_ne_nil)
  | cons character before ih =>
    obtain rfl : report = character :: (before ++ (duration.text ++ after)) := written
    have missing : durationHere? (character :: (before ++ (duration.text ++ after))) = none := by
      apply durationHere?_eq_none.mpr
      intro other otherNumeric starts
      exact first 0 (Nat.succ_pos _) other ⟨otherNumeric, starts⟩
    rw [findDuration?_cons missing]
    apply ih rfl
    intro position within
    exact first (position + 1) (Nat.succ_lt_succ within)

theorem findDuration?_eq_none :
    findDuration? report = none ↔
      ∀ position, ∀ other : DurationText, ¬other.OccursAt report position := by
  constructor
  · intro missing position other occurs
    induction report generalizing position with
    | nil =>
      obtain ⟨tail, written⟩ := occurs.2
      exact text_ne_nil (written.trans List.drop_nil)
    | cons character rest ih =>
      cases here : durationHere? (character :: rest) with
      | some found =>
        rw [findDuration?_of_here here (List.cons_ne_nil _ _)] at missing
        cases missing
      | none =>
        rw [findDuration?_cons here] at missing
        cases position with
        | zero => exact durationHere?_eq_none.mp here other occurs.1 occurs.2
        | succ position => exact ih missing position occurs
  · intro none
    cases found : findDuration? report with
    | none => rfl
    | some duration =>
      obtain ⟨before, after, written, numeric, _, _⟩ := leads_of_findDuration? found
      refine absurd ⟨numeric, ?_⟩ (none before.length duration)
      rw [written, List.drop_left]
      exact List.prefix_append _ _

end Search

section Reading

variable {duration : DurationText}

namespace DurationText

/-- The runs of digits that write a duration. -/
def runs (duration : DurationText) : List (List Char) :=
  [duration.hours, duration.minutes, duration.seconds, duration.fraction]

/-- Hours and minutes in seconds, exactly. -/
def whole (duration : DurationText) : Nat :=
  digitsValue duration.hours * 3600 + digitsValue duration.minutes * 60

/-- The double of the seconds with their fraction. -/
def rest (duration : DurationText) : Binary64 :=
  .nearest false (Binary64.unit * digitsValue (duration.seconds ++ duration.fraction))
    (10 ^ duration.fraction.length)

end DurationText

theorem readRun_of_short {digits : List Char} (short : digits.length ≤ 300) :
    readRun digits = .ok (digitsValue digits) := by
  have few : ¬digits.length > maxIntegerDigits := by
    rw [maxIntegerDigits]
    omega
  rw [readRun, if_neg few]

theorem digitsValue_of_short {digits : List Char} {limit : Nat} (short : digits.length ≤ limit) :
    digitsValue digits < Nat.pow 10 limit :=
  Nat.lt_of_lt_of_le (Text.digitsValue_lt digits) (Nat.pow_le_pow_right (Nat.succ_pos 9) short)

theorem ten_pow_le_two_pow (count : Nat) :
    Nat.pow 10 (3 * count) * 3660 ≤ Nat.pow 2 (10 * count + 12) :=
  calc 10 ^ (3 * count) * 3660
      = (10 ^ 3) ^ count * 3660 := by rw [Nat.pow_mul]
    _ ≤ (2 ^ 10) ^ count * 2 ^ 12 :=
        Nat.mul_le_mul (Nat.pow_le_pow_left (by decide) count) (by decide)
    _ = 2 ^ (10 * count + 12) := by rw [Nat.pow_add, Nat.pow_mul]

/-- How many digits there may be for hours, minutes and seconds to fit below a power of two. -/
theorem exists_room : ∃ limit exponent, limit = 300 ∧ exponent < 1023 ∧
    Nat.pow 10 limit * 3660 ≤ Nat.pow 2 exponent :=
  ⟨3 * 100, 10 * 100 + 12, rfl, by decide, ten_pow_le_two_pow 100⟩

theorem whole_lt {limit exponent : Nat} (room : Nat.pow 10 limit * 3660 ≤ Nat.pow 2 exponent)
    (short : ∀ run ∈ duration.runs, run.length ≤ limit) : duration.whole < Nat.pow 2 exponent := by
  have hours := digitsValue_of_short (short duration.hours (by simp [DurationText.runs]))
  have minutes := digitsValue_of_short (short duration.minutes (by simp [DurationText.runs]))
  rw [DurationText.whole]
  omega

theorem total_of_short (short : ∀ run ∈ duration.runs, run.length ≤ 300) :
    duration.total = .ok (.nearestInt duration.whole + duration.rest) := by
  have hours := readRun_of_short (short duration.hours (by simp [DurationText.runs]))
  have minutes := readRun_of_short (short duration.minutes (by simp [DurationText.runs]))
  obtain ⟨limit, exponent, same, small, room⟩ := exists_room
  have bounded := whole_lt room (same ▸ short)
  have within := Binary64.ofInt?_of_lt (small.trans (Nat.lt_succ_self 1023)) bounded
  rw [DurationText.whole] at within
  rw [DurationText.total, hours, minutes, Binary64.ofDecimal_places]
  simp only [bind, Except.bind, within]
  rfl

theorem readDuration_of_leads {report before after : List Char}
    (leads : duration.Leads report before after) :
    readDuration (.ofList report) = duration.total.map some := by
  rw [readDuration, String.toList_ofList, findDuration?_of_leads leads]

theorem readDuration_eq_none {report : String} :
    readDuration report = .ok none ↔
      ∀ position, ∀ other : DurationText, ¬other.OccursAt report.toList position := by
  rw [← findDuration?_eq_none, readDuration]
  cases findDuration? report.toList with
  | none => simp
  | some found => cases total : found.total <;> simp [total, Except.map]

/-- The first duration that is written is the one that is read, its runs of digits as long as they
can be. What stands before it and behind it does not matter unless it writes an earlier one, or goes on
with its digits. -/
theorem readDuration_first (report : String) :
    (readDuration report = .ok none ↔
      ∀ position, ∀ other : DurationText, ¬other.OccursAt report.toList position) ∧
    ((∃ position, ∃ other : DurationText, other.OccursAt report.toList position) →
      ∃ duration : DurationText, ∃ before after, duration.Leads report.toList before after) ∧
    ∀ (duration : DurationText) (before after : List Char),
      duration.Leads report.toList before after →
      ((∀ run ∈ duration.runs, run.length ≤ 300) →
        readDuration report = .ok (some (.nearestInt duration.whole + duration.rest))) ∧
      ∀ before' after' : List Char, duration.EndsBefore after' →
        (∀ position < before'.length, ∀ other : DurationText,
          ¬other.OccursAt (before' ++ (duration.text ++ after')) position) →
        readDuration (.ofList (before' ++ (duration.text ++ after'))) = readDuration report := by
  refine ⟨readDuration_eq_none, ?_, ?_⟩
  · rintro ⟨position, other, occurs⟩
    cases found : findDuration? report.toList with
    | none => exact absurd occurs (findDuration?_eq_none.mp found position other)
    | some duration => exact ⟨duration, leads_of_findDuration? found⟩
  · intro duration before after leads
    have read := readDuration_of_leads leads
    rw [String.ofList_toList] at read
    constructor
    · intro short
      rw [read, total_of_short short]
      rfl
    · intro before' after' ends first
      rw [read]
      exact readDuration_of_leads ⟨rfl, leads.numeric, ends, first⟩

/-- A line that does not give the duration is passed over. -/
theorem readDuration_afterUnknown :
    readDuration "Duration: N/A, bitrate: N/A\nDuration: 00:01:02.50, start: 0" =
      .ok (some (.nearestInt 60 + .nearest false (Binary64.unit * 250) (10 ^ 2))) := by
  let spoken : DurationText := ⟨['0', '0'], ['0', '1'], ['0', '2'], ['5', '0']⟩
  have found : findDuration?
      "Duration: N/A, bitrate: N/A\nDuration: 00:01:02.50, start: 0".toList = some spoken := by
    decide +kernel
  obtain ⟨before, after, leads⟩ := leads_of_findDuration? found
  have short : ∀ run ∈ spoken.runs, run.length ≤ 300 := by decide
  have whole : spoken.whole = 60 := by decide
  have digits : digitsValue (spoken.seconds ++ spoken.fraction) = 250 := by decide
  have read := ((readDuration_first _).2.2 spoken before after leads).1 short
  rw [DurationText.rest, whole, digits] at read
  exact read

end Reading

end Montage
