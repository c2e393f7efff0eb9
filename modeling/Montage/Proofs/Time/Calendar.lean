import Mathlib.Data.List.Range
import Mathlib.Order.Monotone.Basic
import Montage.Time.Date

/-! Days are counted without gaps: from a month to the next, from a year to the next, and from the
start of a year over its end. -/

namespace Montage.Date

/-- Days of a year. -/
def daysInYear (year : Nat) : Nat := if isLeapYear year then 366 else 365

theorem daysInYear_bounds (year : Nat) : 365 ≤ daysInYear year ∧ daysInYear year ≤ 366 := by
  rw [daysInYear]
  cases isLeapYear year <;> decide

theorem daysBeforeMonth_succ (year month : Nat) :
    daysBeforeMonth year (month + 2) =
      daysBeforeMonth year (month + 1) + daysInMonth year (month + 1) := by
  change (List.range (month + 1)).foldl _ 0 = _
  rw [List.range_succ, List.foldl_append]
  rfl

theorem daysBeforeMonth_mono (year : Nat) : Monotone fun index => daysBeforeMonth year (index + 1) := by
  apply monotone_nat_of_le_succ
  intro index
  rw [daysBeforeMonth_succ]
  exact Nat.le_add_right _ _

/-- The months make up the year. -/
theorem daysBeforeMonth_end (year : Nat) : daysBeforeMonth year 13 = daysInYear year := by
  cases leap : isLeapYear year <;>
    simp [daysBeforeMonth, daysInMonth, daysInYear, leap, List.range_succ]

theorem isLeapYear_iff {year : Nat} :
    isLeapYear year = true ↔ year % 4 = 0 ∧ (year % 100 ≠ 0 ∨ year % 400 = 0) := by
  simp [isLeapYear]

/-- The years follow each other. -/
theorem daysBeforeYear_succ {year : Nat} (counted : 0 < year) :
    daysBeforeYear (year + 1) = daysBeforeYear year + daysInYear year := by
  obtain ⟨past, rfl⟩ := Nat.exists_eq_succ_of_ne_zero counted.ne'
  have fewer : past / 100 ≤ past / 4 := Nat.div_le_div_left (by decide) (by decide)
  have hundredth : 100 ∣ past + 1 → 4 ∣ past + 1 := Nat.dvd_trans (by decide)
  have last : 400 ∣ past + 1 → 100 ∣ past + 1 := Nat.dvd_trans (by decide)
  have leap : isLeapYear (past + 1) = true ↔ 4 ∣ past + 1 ∧ (¬100 ∣ past + 1 ∨ 400 ∣ past + 1) := by
    simp only [isLeapYear_iff, Nat.dvd_iff_mod_eq_zero, ne_eq]
  change (past + 1) * 365 + (past + 1) / 4 - (past + 1) / 100 + (past + 1) / 400 =
    past * 365 + past / 4 - past / 100 + past / 400 + daysInYear (past + 1)
  rw [daysInYear, Nat.succ_div, Nat.succ_div, Nat.succ_div]
  generalize past / 4 = fourths at *
  generalize past / 100 = hundredths at *
  by_cases common : 4 ∣ past + 1
  · by_cases century : 100 ∣ past + 1
    · by_cases cycle : 400 ∣ past + 1
      · rw [if_pos common, if_pos century, if_pos cycle, if_pos (leap.mpr ⟨common, .inr cycle⟩)]
        omega
      · have short : ¬isLeapYear (past + 1) = true := by
          rw [leap]
          tauto
        rw [if_pos common, if_pos century, if_neg cycle, if_neg short]
        omega
    · rw [if_pos common, if_neg century, if_neg (mt last century),
        if_pos (leap.mpr ⟨common, .inl century⟩)]
      omega
  · have century := mt hundredth common
    have short : ¬isLeapYear (past + 1) = true := fun long => common (leap.mp long).1
    rw [if_neg common, if_neg century, if_neg (mt last century), if_neg short]
    omega

theorem daysBeforeYear_mono {early late : Nat} (counted : 0 < early) (ordered : early ≤ late) :
    daysBeforeYear early ≤ daysBeforeYear late := by
  induction ordered with
  | refl => exact Nat.le_refl _
  | step further ih =>
    rw [daysBeforeYear_succ (Nat.lt_of_lt_of_le counted further)]
    exact Nat.le_add_right_of_le ih

/-- What holds of an index and of all before it holds of as many as it is counted for. -/
theorem holds_of_lt_count {holds : Nat → Bool}
    (closed : ∀ early late, early ≤ late → holds late = true → holds early = true) (size : Nat) :
    ∀ index < ((List.range size).filter holds).length, holds index = true := by
  induction size with
  | zero => nofun
  | succ size ih =>
    intro index counted
    rw [List.range_succ, List.filter_append, List.length_append] at counted
    cases last : holds size with
    | true =>
      have bounded := List.length_filter_le holds (List.range size)
      rw [List.length_range] at bounded
      rw [List.filter_singleton, last, cond_true, List.length_singleton] at counted
      exact closed index size (by omega) last
    | false =>
      rw [List.filter_singleton, last, cond_false, List.length_nil] at counted
      exact ih index counted

/-- The day that is found from the start of a year has the number that it should. -/
theorem ordinal_fromYearStart {year : Nat} (counted : 0 < year) (offset years : Nat) :
    (fromYearStart year offset years).ordinal = daysBeforeYear year + offset + 1 := by
  induction years generalizing year offset with
  | zero => rfl
  | succ years ih =>
    rw [fromYearStart]
    by_cases within : offset < if isLeapYear year then 366 else 365
    · have passed : daysBeforeMonth year ((List.range 12).filter fun index =>
          daysBeforeMonth year (index + 1) ≤ offset).length ≤ offset := by
        have closed : ∀ early late, early ≤ late →
            decide (daysBeforeMonth year (late + 1) ≤ offset) = true →
            decide (daysBeforeMonth year (early + 1) ≤ offset) = true := by
          intro early late ordered reached
          rw [decide_eq_true_iff] at reached ⊢
          exact (daysBeforeMonth_mono year ordered).trans reached
        have below := holds_of_lt_count closed 12
        cases count : ((List.range 12).filter fun index =>
            daysBeforeMonth year (index + 1) ≤ offset).length with
        | zero => exact Nat.zero_le _
        | succ last => exact of_decide_eq_true (below last (count ▸ Nat.lt_succ_self last))
      simp only [if_pos within, ordinal]
      omega
    · have next := daysBeforeYear_succ counted
      rw [daysInYear] at next
      simp only [if_neg within]
      rw [ih (Nat.succ_pos year), next]
      omega

/-- The day that is found lies past the end of the calendar if its number does. -/
theorem fromYearStart_year {year : Nat} (counted : 0 < year) {offset years : Nat}
    (near : offset < 365 * (years + 1)) :
    9999 < (fromYearStart year offset years).year ↔
      daysBeforeYear 10000 ≤ daysBeforeYear year + offset := by
  have inside {year offset : Nat} (counted : 0 < year) (within : offset < daysInYear year) :
      9999 < year ↔ daysBeforeYear 10000 ≤ daysBeforeYear year + offset := by
    constructor
    · intro late
      exact Nat.le_add_right_of_le (daysBeforeYear_mono (Nat.succ_pos _) late)
    · intro reached
      by_contra early
      have next : daysBeforeYear (year + 1) ≤ daysBeforeYear 10000 :=
        daysBeforeYear_mono (Nat.succ_pos year) (by omega)
      rw [daysBeforeYear_succ counted] at next
      omega
  induction years generalizing year offset with
  | zero => exact inside counted (Nat.lt_of_lt_of_le near (daysInYear_bounds year).1)
  | succ years ih =>
    rw [fromYearStart]
    by_cases within : offset < if isLeapYear year then 366 else 365
    · simp only [if_pos within]
      exact inside counted within
    · have next := daysBeforeYear_succ counted
      have bounds := daysInYear_bounds year
      rw [← daysInYear] at within ⊢
      have left : offset - daysInYear year < 365 * (years + 1) := by omega
      simp only [if_neg within]
      refine (ih (Nat.succ_pos year) left).trans ?_
      rw [next]
      omega

/-- A day of the calendar. -/
structure Proper (date : Date) : Prop where
  year : 1 ≤ date.year ∧ date.year ≤ 9999
  month : 1 ≤ date.month ∧ date.month ≤ 12
  day : 1 ≤ date.day ∧ date.day ≤ daysInMonth date.year date.month

theorem make_eq_ok {year month day : Nat} {date : Date} :
    make year month day = .ok date ↔ date = ⟨year, month, day⟩ ∧ date.Proper := by
  rw [make]
  by_cases years : year < 1 || year > 9999
  · rw [if_pos years]
    simp only [Bool.or_eq_true, decide_eq_true_eq] at years
    refine iff_of_false nofun ?_
    rintro ⟨rfl, proper⟩
    have := proper.year
    simp only at this
    omega
  · rw [if_neg years]
    by_cases months : month < 1 || month > 12
    · rw [if_pos months]
      simp only [Bool.or_eq_true, decide_eq_true_eq] at months
      refine iff_of_false nofun ?_
      rintro ⟨rfl, proper⟩
      have := proper.month
      simp only at this
      omega
    · rw [if_neg months]
      by_cases days : day < 1 || day > daysInMonth year month
      · rw [if_pos days]
        simp only [Bool.or_eq_true, decide_eq_true_eq] at days
        refine iff_of_false nofun ?_
        rintro ⟨rfl, proper⟩
        have := proper.day
        simp only at this
        omega
      · rw [if_neg days]
        simp only [Bool.or_eq_true, decide_eq_true_eq, not_or, Nat.not_lt] at years months days
        constructor
        · rintro ⟨⟩
          exact ⟨rfl, years, months, days⟩
        · rintro ⟨rfl, _⟩
          rfl

/-- A day of the calendar is one of the days of its year. -/
theorem Proper.ordinal_bounds {date : Date} (proper : date.Proper) :
    daysBeforeYear date.year < date.ordinal ∧
      date.ordinal ≤ daysBeforeYear date.year + daysInYear date.year := by
  obtain ⟨month, found⟩ : ∃ month, date.month = month + 1 :=
    Nat.exists_eq_succ_of_ne_zero (Nat.ne_of_gt proper.month.1)
  have later : daysBeforeMonth date.year (month + 2) ≤ daysInYear date.year := by
    rw [← daysBeforeMonth_end]
    apply daysBeforeMonth_mono date.year
    have := proper.month.2
    omega
  have days := proper.day
  rw [daysBeforeMonth_succ] at later
  rw [ordinal, found]
  rw [found] at days
  omega

/-- The calendar ends with the year 9999. -/
theorem Proper.ordinal_le_end {date : Date} (proper : date.Proper) :
    date.ordinal ≤ daysBeforeYear 10000 := by
  have within := proper.ordinal_bounds.2
  rw [← daysBeforeYear_succ proper.year.1] at within
  exact within.trans (daysBeforeYear_mono (Nat.succ_pos _) (Nat.succ_le_succ proper.year.2))

end Montage.Date
