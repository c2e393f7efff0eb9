import Mathlib.Data.List.TakeWhile
import Montage.Proofs.Outcome
import Montage.Proofs.Time.Calendar
import Montage.Time.Instant

/-! What a clock shows later, up to the end of the calendar, and what is known of a date-time that
was read: its parts are in range, and it has an offset if the text behind the date names one. -/

namespace Montage.Instant

variable {instant later : Instant} {micros : Nat}

/-- A day of the calendar, a time of that day, and an offset shorter than a day. -/
structure Proper (instant : Instant) : Prop where
  date : instant.date.Proper
  hour : instant.hour < 24
  minute : instant.minute < 60
  second : instant.second < 60
  micro : instant.micro < microsPerSecond
  offset : ∀ micros ∈ instant.offset, micros.natAbs < microsPerDay

/-- What no clock shows any more: the calendar is over. -/
def calendarEnd : Nat := (Date.daysBeforeYear 10000 + 1) * microsPerDay

theorem Proper.clock_bounds (proper : instant.Proper) :
    instant.date.ordinal * microsPerDay ≤ instant.clock ∧
      instant.clock < (instant.date.ordinal + 1) * microsPerDay := by
  have hour := proper.hour
  have minute := proper.minute
  have second := proper.second
  have micro := proper.micro
  simp only [microsPerSecond] at micro
  simp only [clock, microsPerDay, microsPerSecond]
  omega

theorem Proper.clock_lt_end (proper : instant.Proper) : instant.clock < calendarEnd :=
  Nat.lt_of_lt_of_le proper.clock_bounds.2
    (Nat.mul_le_mul_right _ (Nat.succ_le_succ proper.date.ordinal_le_end))

/-- The day that is looked for is counted from the start of the year, and is not too far from it. -/
theorem Proper.day_bounds (proper : instant.Proper) (micros : Nat) :
    Date.daysBeforeYear instant.date.year < (instant.clock + micros) / microsPerDay ∧
      (instant.clock + micros) / microsPerDay - Date.daysBeforeYear instant.date.year - 1 <
        365 * (micros / microsPerDay + 1 + 1) := by
  have days := proper.date.ordinal_bounds
  have year := (Date.daysInYear_bounds instant.date.year).2
  have clock := proper.clock_bounds
  simp only [microsPerDay, microsPerSecond] at clock ⊢
  omega

/-- There is nothing later once the calendar is over. -/
theorem Proper.later?_eq_none (proper : instant.Proper) :
    instant.later? micros = none ↔ calendarEnd ≤ instant.clock + micros := by
  obtain ⟨after, near⟩ := proper.day_bounds micros
  have past := Date.fromYearStart_year proper.date.year.1 near
  have ended : Date.daysBeforeYear 10000 + 1 ≤ (instant.clock + micros) / microsPerDay ↔
      calendarEnd ≤ instant.clock + micros :=
    Nat.le_div_iff_mul_le (by decide)
  simp only [later?]
  split
  · rename_i late
    exact iff_of_true rfl (ended.mp (by have := past.mp late; omega))
  · rename_i within
    refine iff_of_false nofun fun late => within (past.mpr ?_)
    have := ended.mpr late
    omega

/-- Days, hours, minutes, seconds and microseconds make up what a clock shows. -/
theorem clock_parts (shown : Nat) :
    shown / microsPerDay * microsPerDay +
      ((shown / (3600 * microsPerSecond) % 24 * 60 + shown / (60 * microsPerSecond) % 60) * 60 +
        shown / microsPerSecond % 60) * microsPerSecond + shown % microsPerSecond = shown := by
  simp only [microsPerDay, microsPerSecond]
  omega

/-- The clock runs on, and stays the same clock. -/
theorem Proper.clock_later? (proper : instant.Proper) (found : instant.later? micros = some later) :
    later.clock = instant.clock + micros ∧ later.offset = instant.offset := by
  obtain ⟨after, near⟩ := proper.day_bounds micros
  have parts := clock_parts (instant.clock + micros)
  simp only [later?] at found
  generalize instant.clock + micros = shown at *
  split at found
  · cases found
  · obtain rfl := Option.some.inj found
    have number := Date.ordinal_fromYearStart proper.date.year.1
      (shown / microsPerDay - Date.daysBeforeYear instant.date.year - 1) (micros / microsPerDay + 1)
    rw [show Date.daysBeforeYear instant.date.year +
      (shown / microsPerDay - Date.daysBeforeYear instant.date.year - 1) + 1 =
        shown / microsPerDay by omega] at number
    refine ⟨?_, rfl⟩
    rw [clock, number]
    exact parts

theorem make_eq_ok {year month day hour minute second micro : Nat} {offset : Option Int}
    (made : make year month day hour minute second micro offset = .ok instant)
    (fraction : micro < microsPerSecond) : instant.Proper ∧ instant.offset = offset := by
  have within : ∀ micros ∈ offset, micros.natAbs < microsPerDay := by
    intro micros known
    rw [Option.mem_def] at known
    subst known
    by_contra far
    simp only [make, if_pos (Nat.not_lt.mp far)] at made
    cases made
  have checked : ((Date.make year month day).mapError InstantFault.date >>= fun date => do
      if hour > 23 then throw .hour
      if minute > 59 then throw .minute
      if second > 59 then throw .second
      return (⟨date, hour, minute, second, micro, offset⟩ : Instant)) = .ok instant := by
    cases offset with
    | none => exact made
    | some micros =>
      simp only [make, if_neg (Nat.not_le.mpr (within micros rfl))] at made
      exact made
  rw [Except.bind_eq_ok] at checked
  obtain ⟨date, day, rest⟩ := checked
  obtain ⟨rfl, proper⟩ := Date.make_eq_ok.mp (Except.mapError_eq_ok.mp day)
  by_cases hours : hour > 23
  · rw [if_pos hours] at rest
    cases rest
  by_cases minutes : minute > 59
  · rw [if_neg hours, if_pos minutes] at rest
    cases rest
  by_cases seconds : second > 59
  · rw [if_neg hours, if_neg minutes, if_pos seconds] at rest
    cases rest
  rw [if_neg hours, if_neg minutes, if_neg seconds] at rest
  cases rest
  exact ⟨⟨proper, Nat.lt_succ_of_le (Nat.not_lt.mp hours), Nat.lt_succ_of_le (Nat.not_lt.mp minutes),
    Nat.lt_succ_of_le (Nat.not_lt.mp seconds), fraction, within⟩, rfl⟩

section Reading

variable {text rest : List Char} {value : Nat}

theorem takeFixed_lt {count : Nat} (taken : takeFixed count text = some (value, rest)) :
    value < Nat.pow 10 count := by
  induction count generalizing text value rest with
  | zero =>
    obtain ⟨rfl, _⟩ := Prod.mk.inj (Option.some.inj taken)
    exact Nat.one_pos
  | succ count ih =>
    cases text with
    | nil => cases taken
    | cons digit left =>
      rw [takeFixed] at taken
      split at taken
      · rename_i decimal
        obtain ⟨⟨small, after⟩, found, built⟩ := Option.map_eq_some_iff.mp taken
        obtain ⟨rfl, _⟩ := Prod.mk.inj built
        have below := ih found
        have digits : digit.toNat - '0'.toNat ≤ 9 := by
          have upper := (Char.isDigit_iff_toNat.mp decimal).2
          exact Nat.sub_le_of_le_add upper
        have room := Nat.mul_le_mul_right (Nat.pow 10 count) digits
        change (digit.toNat - '0'.toNat) * Nat.pow 10 count + small < Nat.pow 10 count * 10
        omega
      · cases taken

theorem readFraction?_lt {clean : Bool} (read : readFraction? text = some (value, clean)) :
    value < microsPerSecond := by
  obtain ⟨⟨digits, left⟩, taken, built⟩ := Option.map_eq_some_iff.mp read
  obtain ⟨rfl, _⟩ := Prod.mk.inj built
  have few : min text.length 6 ≤ 6 := Nat.min_le_right _ _
  have below := takeFixed_lt taken
  generalize min text.length 6 = count at *
  have split : Nat.pow 10 count * Nat.pow 10 (6 - count) = microsPerSecond := by
    refine (Nat.pow_add 10 count (6 - count)).symm.trans ?_
    rw [Nat.add_sub_cancel' few]
    rfl
  rw [← split]
  exact Nat.mul_lt_mul_of_pos_right below (Nat.pow_pos (by decide))

theorem readFraction?_bind_lt {clean : Bool} {values : List Nat}
    (read : (do return ([], ← readFraction? text)) = some (values, value, clean)) :
    value < microsPerSecond := by
  obtain ⟨fraction, found, built⟩ := Option.bind_eq_some_iff.mp read
  obtain ⟨_, rfl⟩ := Prod.mk.inj (Option.some.inj built)
  exact readFraction?_lt found

theorem readParts?_lt {separated clean : Bool} {parts : Nat} {values : List Nat}
    (read : readParts? separated parts text = some (values, value, clean)) :
    value < microsPerSecond := by
  fun_induction readParts? separated parts text generalizing values value clean with
  | case1 =>
    cases read
    decide
  | case2 =>
    cases read
    decide
  | case3 => cases read
  | case4 mark rest =>
    obtain ⟨⟨_, left⟩, _, fraction⟩ := Option.bind_eq_some_iff.mp read
    exact readFraction?_bind_lt fraction
  | case5 parts mark rest _ ih =>
    obtain ⟨⟨another, left⟩, _, continued⟩ := Option.bind_eq_some_iff.mp read
    cases another with
    | false => exact readFraction?_bind_lt continued
    | true =>
      obtain ⟨⟨part, left⟩, _, later⟩ := Option.bind_eq_some_iff.mp continued
      obtain ⟨⟨values, fraction⟩, found, built⟩ := Option.bind_eq_some_iff.mp later
      obtain ⟨_, rfl⟩ := Prod.mk.inj (Option.some.inj built)
      exact ih left found

theorem readClock?_lt {time : ClockTime} {clean : Bool}
    (read : readClock? text = some (time, clean)) :
    time.micro < microsPerSecond := by
  obtain ⟨⟨hour, rest⟩, _, continued⟩ := Option.bind_eq_some_iff.mp read
  obtain ⟨⟨values, micro, clean⟩, found, built⟩ := Option.bind_eq_some_iff.mp continued
  obtain ⟨rfl, _⟩ := Prod.mk.inj (Option.some.inj built)
  exact readParts?_lt found

/-- A time has an offset if its text has a sign or a letter that starts one. -/
theorem readTime?_eq_some {time : ClockTime} {offset : Option Int}
    (read : readTime? text = some (time, offset)) :
    time.micro < microsPerSecond ∧
      (offset.isSome = true ↔ ∃ character ∈ text, startsOffset character = true) := by
  obtain ⟨⟨clock, clean⟩, found, continued⟩ := Option.bind_eq_some_iff.mp read
  have bounded := readClock?_lt found
  have whole := List.takeWhile_append_dropWhile (p := fun c => !startsOffset c) (l := text)
  have before : ∀ character ∈ text.takeWhile (!startsOffset ·), ¬startsOffset character = true := by
    intro character member
    simpa using List.mem_takeWhile_imp member
  have first := List.head?_dropWhile_not (fun c => !startsOffset c) text
  dsimp only at continued
  generalize text.dropWhile (!startsOffset ·) = after at *
  cases after with
  | nil =>
    rw [List.append_nil] at whole
    have same : some (clock, none) = some (time, offset) := by
      cases clean with
      | true => exact continued
      | false => cases continued
    obtain ⟨rfl, rfl⟩ := Prod.mk.inj (Option.some.inj same)
    refine ⟨bounded, iff_of_false Bool.false_ne_true ?_⟩
    rintro ⟨character, member, starts⟩
    exact before character (whole.symm ▸ member) starts
  | cons sign rest =>
    have starts : startsOffset sign = true := by simpa using first
    have inside : ∃ character ∈ text, startsOffset character = true :=
      ⟨sign, whole ▸ List.mem_append_right _ List.mem_cons_self, starts⟩
    have named : clock = time ∧ offset.isSome = true := by
      by_cases zone : sign = 'Z'
      · subst zone
        simp only at continued
        split at continued
        · obtain ⟨rfl, rfl⟩ := Prod.mk.inj (Option.some.inj continued)
          exact ⟨rfl, rfl⟩
        · cases continued
      · simp only at continued
        obtain ⟨⟨shift, ended⟩, _, built⟩ := Option.bind_eq_some_iff.mp continued
        cases ended with
        | true =>
          obtain ⟨rfl, rfl⟩ := Prod.mk.inj (Option.some.inj built)
          exact ⟨rfl, rfl⟩
        | false => cases built
    exact ⟨named.1 ▸ bounded, iff_of_true named.2 inside⟩

/-- The text of a date-time has an offset: a sign or a letter that starts one stands behind its date
and the character that separates the two. -/
def Zoned (text : String) : Prop :=
  ∃ character ∈ text.toList.drop (dateLength text.toList + 1), startsOffset character = true

instance (text : String) : Decidable (Zoned text) :=
  decidable_of_iff ((text.toList.drop (dateLength text.toList + 1)).any startsOffset = true)
    List.any_eq_true

/-- A date-time that was read is one of the calendar, and has an offset if its text has one. -/
theorem read?_eq_some {text : String} (read : read? text = some instant) :
    instant.Proper ∧ (instant.offset.isSome = true ↔ Zoned text) := by
  rw [read?] at read
  simp only at read
  split at read
  · cases read
  · obtain ⟨date, _, continued⟩ := Option.bind_eq_some_iff.mp read
    rw [Zoned, List.drop_add_one_eq_tail_drop]
    cases behind : text.toList.drop (dateLength text.toList) with
    | nil =>
      rw [behind] at continued
      have made := Except.toOption_eq_some.mp continued
      obtain ⟨proper, same⟩ := make_eq_ok made (by decide)
      rw [same]
      exact ⟨proper, by simp⟩
    | cons separator rest =>
      rw [behind] at continued
      obtain ⟨⟨time, offset⟩, timed, made⟩ := Option.bind_eq_some_iff.mp continued
      obtain ⟨bounded, zoned⟩ := readTime?_eq_some timed
      obtain ⟨proper, same⟩ := make_eq_ok (Except.toOption_eq_some.mp made) bounded
      rw [same]
      exact ⟨proper, zoned⟩

end Reading

end Montage.Instant
