import Montage.Proofs.Publication.Settings
import Montage.Proofs.Time.Instant

/-! When a video comes out: what stands before the final `Z` is read, and the clock that it shows is
taken to be that of universal time, whatever offset it names. -/

namespace Montage

open Instant (calendarEnd Zoned)

/-- How many microseconds before it comes out a video has to be handed in. -/
def minDelay : Nat := minDelayMinutes * 60 * microsPerSecond

/-- The offset of the clock is known, and there is time to wait before the calendar ends. -/
structure Instant.CanWait (now : Instant) : Prop where
  known : now.offset.isSome = true
  room : now.clock + minDelay < calendarEnd

/-- An instant that a text schedules: the clock of what is read before its final `Z`, taken as that
of universal time, and far enough ahead. -/
structure Schedules (text body : String) (read now instant : Instant) : Prop where
  written : Text.trim text = body ++ "Z"
  found : Instant.read? body = some read
  taken : instant = read.inUtc
  ahead : now.absolute + minDelay ≤ instant.absolute

/-- The instant that a text means: nothing but the `Z` names an offset. -/
def Means (text : String) (now instant : Instant) : Prop :=
  ∃ body read, Schedules text body read now instant ∧ ¬Zoned body

variable {text body : String} {read now instant earliest : Instant}

namespace Instant

theorem absolute_later? (proper : now.Proper) (found : now.later? minDelay = some earliest) :
    earliest.absolute = now.absolute + minDelay ∧ earliest.offset = now.offset := by
  obtain ⟨clock, offset⟩ := proper.clock_later? found
  rw [absolute, absolute, clock, offset]
  exact ⟨by omega, rfl⟩

theorem exists_later? (proper : now.Proper) :
    (∃ earliest, now.later? minDelay = some earliest) ↔ now.clock + minDelay < calendarEnd := by
  rw [← Nat.not_le, ← proper.later?_eq_none, ← ne_eq, Option.ne_none_iff_exists']

/-- The clock of universal time differs from another one by the offset of that. -/
theorem absolute_inUtc (instant : Instant) :
    instant.inUtc.absolute = instant.absolute + instant.offset.getD 0 := by
  simp [absolute, inUtc, clock]

end Instant

theorem toList_reverse_final {before : List Char} :
    text.toList.reverse = 'Z' :: before ↔ text = String.ofList before.reverse ++ "Z" := by
  rw [List.reverse_eq_iff, ← String.toList_inj, String.toList_append, String.toList_ofList,
    List.reverse_cons]
  rfl

theorem not_isBlankText_of_final (written : Text.trim text = body ++ "Z") :
    Text.isBlankText text = false := by
  have kept : Text.trimList text.toList = body.toList ++ ['Z'] := by
    have same := congrArg String.toList written
    rwa [Text.trim, String.toList_ofList, String.toList_append] at same
  rw [Text.isBlankText, kept]
  cases body.toList <;> rfl

theorem ahead_eq_ok :
    (if earliest.offset.isNone then .error (.fault .wrongKind)
      else if read.absolute < earliest.absolute then
        .error (.invalid (.named "publishAt") (.tooSoon minDelayMinutes))
      else .ok (some read) : Except Failure (Option Instant)) = .ok (some instant) ↔
      earliest.offset.isSome = true ∧ earliest.absolute ≤ instant.absolute ∧ instant = read := by
  cases known : earliest.offset with
  | none =>
    apply iff_of_false
    · rintro ⟨⟩
    · rintro ⟨⟨⟩, _⟩
  | some micros =>
    rw [if_neg (by simp)]
    by_cases soon : read.absolute < earliest.absolute
    · rw [if_pos soon]
      refine iff_of_false nofun ?_
      rintro ⟨_, ahead, rfl⟩
      exact Int.not_le.mpr soon ahead
    · rw [if_neg soon]
      constructor
      · rintro ⟨⟩
        exact ⟨rfl, Int.not_lt.mp soon, rfl⟩
      · rintro ⟨_, _, rfl⟩
        rfl

/-- What is read of a text that schedules something. -/
theorem readPublishAt_eq_some :
    readPublishAt (.text text) now = .ok (some instant) ↔
      ∃ body read earliest, Text.trim text = body ++ "Z" ∧ Instant.read? body = some read ∧
        now.later? minDelay = some earliest ∧ earliest.offset.isSome = true ∧
        earliest.absolute ≤ instant.absolute ∧ instant = read.inUtc := by
  rw [readPublishAt, ← minDelay]
  constructor
  · intro accepted
    simp only [readSetting, Except.bind_eq_ok] at accepted
    obtain ⟨setting, same, accepted⟩ := accepted
    obtain rfl := Except.ok.inj same
    by_cases blank : Text.isBlankText text = true
    · rw [if_pos blank] at accepted
      cases accepted
    · rw [if_neg blank] at accepted
      simp only at accepted
      split at accepted
      · rename_i before ends
        cases found : Instant.read? (String.ofList before.reverse) with
        | none =>
          rw [found] at accepted
          cases accepted
        | some read =>
          cases later : now.later? minDelay with
          | none =>
            rw [found, later] at accepted
            cases accepted
          | some earliest =>
            rw [found, later] at accepted
            obtain ⟨known, ahead, rfl⟩ := ahead_eq_ok.mp accepted
            exact ⟨_, read, earliest, toList_reverse_final.mp ends, found, rfl, known, ahead, rfl⟩
      · cases accepted
  · rintro ⟨body, read, earliest, written, found, later, known, ahead, rfl⟩
    have solid := not_isBlankText_of_final written
    have ends : (Text.trim text).toList.reverse = 'Z' :: body.toList.reverse := by
      rw [toList_reverse_final, List.reverse_reverse, String.ofList_toList, written]
    have whole : String.ofList body.toList.reverse.reverse = body := by
      rw [List.reverse_reverse, String.ofList_toList]
    simp only [readSetting, solid, bind, Except.bind, Bool.false_eq_true, if_false]
    rw [ends]
    simp only [whole]
    rw [found, later]
    exact ahead_eq_ok.mpr ⟨known, ahead, rfl⟩

/-- A text schedules an instant if the clock can wait for it. -/
theorem readPublishAt_iff (proper : now.Proper) :
    readPublishAt (.text text) now = .ok (some instant) ↔
      now.CanWait ∧ ∃ body read, Schedules text body read now instant := by
  rw [readPublishAt_eq_some]
  constructor
  · rintro ⟨body, read, earliest, written, found, later, known, ahead, taken⟩
    obtain ⟨absolute, offset⟩ := Instant.absolute_later? proper later
    rw [offset] at known
    rw [absolute] at ahead
    have room := (Instant.exists_later? proper).mp ⟨earliest, later⟩
    exact ⟨⟨known, room⟩, body, read, written, found, taken, ahead⟩
  · rintro ⟨⟨known, room⟩, body, read, written, found, taken, ahead⟩
    obtain ⟨earliest, later⟩ := (Instant.exists_later? proper).mpr room
    obtain ⟨absolute, offset⟩ := Instant.absolute_later? proper later
    refine ⟨body, read, earliest, written, found, later, ?_, ?_, taken⟩
    · rw [offset]
      exact known
    · rw [absolute]
      exact ahead

theorem Schedules.body_unique {other : String} (schedules : Schedules text body read now instant)
    (written : Text.trim text = other ++ "Z") : other = body := by
  have same := written.symm.trans schedules.written
  rw [← String.toList_inj, String.toList_append, String.toList_append] at same
  exact String.toList_inj.mp (List.append_cancel_right same)

/-- A text means the instant that it schedules unless it names an offset of its own. -/
theorem Schedules.means_iff (schedules : Schedules text body read now instant) :
    Means text now instant ↔ ¬Zoned body := by
  constructor
  · rintro ⟨other, _, found, plain⟩
    rwa [schedules.body_unique found.written] at plain
  · intro plain
    exact ⟨body, read, schedules, plain⟩

/-- By the clock of universal time, there is time to wait for every instant. -/
theorem Schedules.canWait (schedules : Schedules text body read now instant)
    (universal : now.offset = some 0) : now.CanWait := by
  have proper := (Instant.read?_eq_some schedules.found).1
  have within := proper.clock_lt_end
  have ahead := schedules.ahead
  rw [schedules.taken] at ahead
  have shown : now.absolute = now.clock := by
    simp [Instant.absolute, universal]
  have taken : read.inUtc.absolute = read.clock := by
    simp [Instant.absolute, Instant.inUtc, Instant.clock]
  rw [shown, taken] at ahead
  exact ⟨by rw [universal]; rfl, by omega⟩

namespace PublishRequest

/-- The request with a text for when the video comes out. -/
def scheduled (request : PublishRequest) (text : String) : PublishRequest :=
  { request with publishAt := .text text }

/-- The request without a word on when the video comes out. -/
def unscheduled (request : PublishRequest) : PublishRequest :=
  { request with publishAt := .null }

/-- The other settings are those of a video that can be scheduled. -/
structure CanSchedule (request : PublishRequest) (now : Instant) (plain : PublishOptions) : Prop
    where
  valid : request.unscheduled.check now = .ok plain
  hidden : plain.privacy = .hidden

theorem check_scheduled {request : PublishRequest} {options : PublishOptions} :
    (request.scheduled text).check now = .ok options ∧ options.publishAt = some instant ↔
      readPublishAt (.text text) now = .ok (some instant) ∧
        ∃ plain, request.CanSchedule now plain ∧
          options = { plain with publishAt := some instant } := by
  constructor
  · rintro ⟨checked, later⟩
    obtain ⟨hidden, kept, sorted, read, allowed⟩ := check_eq_ok.mp checked
    rw [later] at read allowed
    refine ⟨read, { options with publishAt := none }, ⟨?_, allowed rfl⟩, ?_⟩
    · exact check_eq_ok.mpr ⟨hidden, kept, sorted, rfl, nofun⟩
    · rw [← later]
  · rintro ⟨read, plain, ⟨valid, secret⟩, rfl⟩
    obtain ⟨hidden, kept, sorted, _, _⟩ := check_eq_ok.mp valid
    exact ⟨check_eq_ok.mpr ⟨hidden, kept, sorted, read, fun _ => secret⟩, rfl⟩

/-- Settings with a text for when the video comes out pass exactly if the others do, the video is
private, and the text schedules an instant for which the clock can wait. A text that names an offset
is taken to be off by it; any other one means the instant, and by the clock of universal time every
text that means an instant schedules it. -/
theorem scheduled_means (proper : now.Proper) (request : PublishRequest) (text : String)
    (instant : Instant) :
    (∀ options, (request.scheduled text).check now = .ok options ∧ options.publishAt = some instant ↔
      now.CanWait ∧ (∃ body read, Schedules text body read now instant) ∧
        ∃ plain, request.CanSchedule now plain ∧ options = { plain with publishAt := some instant }) ∧
    (∀ body read, Schedules text body read now instant →
      (Means text now instant ↔ ¬Zoned body) ∧ (Zoned body ↔ read.offset.isSome = true) ∧
        instant.absolute = read.absolute + read.offset.getD 0) ∧
    (now.offset = some 0 → Means text now instant → ∀ plain, request.CanSchedule now plain →
      (request.scheduled text).check now = .ok { plain with publishAt := some instant }) := by
  refine ⟨?_, ?_, ?_⟩
  · intro options
    rw [check_scheduled, readPublishAt_iff proper, and_assoc]
  · intro body read schedules
    have zoned := (Instant.read?_eq_some schedules.found).2
    refine ⟨schedules.means_iff, zoned.symm, ?_⟩
    rw [schedules.taken, Instant.absolute_inUtc]
  · rintro universal ⟨body, read, schedules, _⟩ plain others
    have accepted :=
      (readPublishAt_iff proper).mpr ⟨schedules.canWait universal, body, read, schedules⟩
    exact (check_scheduled.mpr ⟨accepted, plain, others, rfl⟩).1

/-- Nothing is said about a publication. -/
def silent : PublishRequest := ⟨.null, .null, .null, .null⟩

/-- Noon on New Year's Day of 2026, by the clock of universal time. -/
def newYearNoon : Instant := ⟨⟨2026, 1, 1⟩, 12, 0, 0, 0, some 0⟩

theorem newYearNoon_proper : newYearNoon.Proper where
  date := ⟨by decide, by decide, by decide⟩
  hour := by decide
  minute := by decide
  second := by decide
  micro := by decide
  offset := by decide

theorem silent_scheduled :
    (silent.scheduled "2026-01-02T10:30:00Z").check newYearNoon =
      .ok ⟨.hidden, [], none, some ⟨⟨2026, 1, 2⟩, 10, 30, 0, 0, some 0⟩⟩ := by
  have means : Means "2026-01-02T10:30:00Z" newYearNoon ⟨⟨2026, 1, 2⟩, 10, 30, 0, 0, some 0⟩ := by
    refine ⟨"2026-01-02T10:30:00", ⟨⟨2026, 1, 2⟩, 10, 30, 0, 0, none⟩, ⟨?_, ?_, rfl, ?_⟩, ?_⟩
    all_goals decide +kernel
  exact (scheduled_means newYearNoon_proper silent _ _).2.2 rfl means ⟨.hidden, [], none, none⟩
    ⟨by decide +kernel, rfl⟩

/-- Half past ten in a zone eight hours behind universal time is scheduled for half past ten of
universal time. -/
theorem silent_shifted :
    (silent.scheduled "2026-01-02T10:30:00-08:00Z").check newYearNoon =
      .ok ⟨.hidden, [], none, some ⟨⟨2026, 1, 2⟩, 10, 30, 0, 0, some 0⟩⟩ ∧
    (Instant.read? "2026-01-02T10:30:00-08:00").map Instant.absolute =
      some (Instant.absolute ⟨⟨2026, 1, 2⟩, 18, 30, 0, 0, some 0⟩) ∧
    ¬Means "2026-01-02T10:30:00-08:00Z" newYearNoon ⟨⟨2026, 1, 2⟩, 10, 30, 0, 0, some 0⟩ := by
  have schedules : Schedules "2026-01-02T10:30:00-08:00Z" "2026-01-02T10:30:00-08:00"
      ⟨⟨2026, 1, 2⟩, 10, 30, 0, 0, some (-28800000000)⟩ newYearNoon
      ⟨⟨2026, 1, 2⟩, 10, 30, 0, 0, some 0⟩ := by
    refine ⟨?_, ?_, rfl, ?_⟩
    all_goals decide +kernel
  refine ⟨by decide +kernel, by decide +kernel, ?_⟩
  rw [schedules.means_iff]
  decide +kernel

end PublishRequest

end Montage
