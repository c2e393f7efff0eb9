import Montage.Proofs.File.Temporary
import Montage.Proofs.Manifest.Reading
import Montage.Proofs.Number.Overflow
import Montage.Proofs.Probe.Duration

/-! What a probe comes to. It gives seconds, finitely many and none below zero, or says why it cannot;
unless the tool speaks of a duration that is out of range, or the upload's path holds a null byte. -/

namespace Montage

open Text (digitsValue isDigit)

namespace Binary64

theorem nearestInt_natCast (whole : Nat) : nearestInt whole = nearest false (unit * whole) 1 := by
  rw [nearestInt, decide_eq_false (Int.not_lt.mpr (Int.natCast_nonneg whole)), Int.natAbs_natCast]

/-- A double without a sign that is a number. -/
structure Forward (value : Binary64) : Prop where
  number : value ≠ .nan
  forward : value.isNegative = false

namespace Forward

variable {value left right : Binary64}

theorem exact_nonneg (forward : value.Forward) : 0 ≤ value.exact := by
  cases value with
  | nan => exact absurd rfl forward.number
  | infinite _ => simp [exact, signedUnits]
  | finite negative units representable =>
    obtain rfl : negative = false := forward.forward
    exact div_nonneg (Int.cast_nonneg (Int.natCast_nonneg units)) unit_pos.le

theorem infinite_of_not_finite (forward : value.Forward) (beyond : ¬value.isFinite = true) :
    value = .infinite false := by
  cases value with
  | nan => exact absurd rfl forward.number
  | infinite negative => exact congrArg Binary64.infinite forward.forward
  | finite _ _ _ => exact absurd rfl beyond

theorem zero_le (forward : value.Forward) : zero.le value = true := by
  by_cases finite : value.isFinite = true
  · rw [le_iff zero_finite finite, exact_zero]
    exact forward.exact_nonneg
  · rw [forward.infinite_of_not_finite finite]
    exact le_infinite zero_finite

theorem ofUnits (units : Nat) : (Binary64.ofUnits false units).Forward := by
  rw [Binary64.ofUnits]
  split
  · exact ⟨by rintro ⟨⟩, rfl⟩
  · exact ⟨by rintro ⟨⟩, rfl⟩

theorem nearest (numerator denominator : Nat) :
    (Binary64.nearest false numerator denominator).Forward :=
  ofUnits _

theorem nearestInt (whole : Nat) : (Binary64.nearestInt whole).Forward := by
  rw [nearestInt_natCast]
  exact nearest _ _

theorem add (leftForward : left.Forward) (rightForward : right.Forward) :
    (left + right).Forward := by
  cases left with
  | nan => exact absurd rfl leftForward.number
  | infinite negative =>
    obtain rfl : negative = false := leftForward.forward
    rw [infinite_add zero_finite rightForward.zero_le]
    exact ⟨nofun, rfl⟩
  | finite leftSign leftUnits leftRepresentable =>
    obtain rfl : leftSign = false := leftForward.forward
    cases right with
    | nan => exact absurd rfl rightForward.number
    | infinite negative => exact ⟨nofun, rightForward.forward⟩
    | finite rightSign rightUnits rightRepresentable =>
      obtain rfl : rightSign = false := rightForward.forward
      have sum : ¬(leftUnits + rightUnits : Int) < 0 := by omega
      show (if (leftUnits + rightUnits : Int) = 0 then Binary64.ofUnits (false && false) 0
        else Binary64.nearest (decide ((leftUnits + rightUnits : Int) < 0)) _ 1).Forward
      rw [decide_eq_false sum]
      split
      · exact ofUnits 0
      · exact nearest _ _

/-- A sum is finite as long as it and what is added are within the range. -/
theorem isFinite_add (leftForward : left.Forward) (rightForward : right.Forward)
    (leftFinite : left.isFinite = true) : (left + right).isFinite = true ↔
      right.isFinite = true ∧ left.exact + right.exact < limit := by
  by_cases rightFinite : right.isFinite = true
  · have sum := add_nonneg leftForward.exact_nonneg rightForward.exact_nonneg
    rw [isFinite_add_iff leftFinite rightFinite, abs_of_nonneg sum]
    exact (and_iff_right rightFinite).symm
  · rw [rightForward.infinite_of_not_finite rightFinite,
      add_infinite zero_finite leftForward.zero_le]
    exact ⟨nofun, And.left⟩

end Forward

theorem isFinite_nearestInt (whole : Nat) :
    (nearestInt whole).isFinite = true ↔ (whole : ℚ) < limit := by
  rw [nearestInt_natCast, isFinite_nearest_wholes _ _ Nat.one_pos, Nat.cast_one, div_one]

end Binary64

/-- Seconds, finitely many and none below zero, or why there are none. -/
inductive Conclusive : Except Failure Binary64 → Prop where
  | seconds {seconds : Binary64} (finite : seconds.isFinite = true)
      (forward : Binary64.zero.le seconds = true) : Conclusive (.ok seconds)
  | failed (cause : ProbeError) : Conclusive (.error (.probe cause))

namespace DurationText

variable {duration : DurationText} {result : Except Failure Binary64}

/-- How many seconds there are besides hours and minutes. -/
def spare (duration : DurationText) : ℚ :=
  digitsValue (duration.seconds ++ duration.fraction) / 10 ^ duration.fraction.length

/-- Hours and minutes are not too long to be read, and the seconds in them, the other seconds and all
seconds together are within the range of doubles. -/
structure InRange (duration : DurationText) : Prop where
  hours : duration.hours.length ≤ maxIntegerDigits
  minutes : duration.minutes.length ≤ maxIntegerDigits
  whole : (duration.whole : ℚ) < Binary64.limit
  spare : duration.spare < Binary64.limit
  sum : (Binary64.nearestInt duration.whole).exact + duration.rest.exact < Binary64.limit

/-- What reading a duration that is out of range comes to. -/
inductive Misread (duration : DurationText) : Except Failure Binary64 → Prop where
  | hours (long : maxIntegerDigits < duration.hours.length) :
      Misread duration (.error (.argument (.integerTooLong (some duration.hours.length))))
  | minutes (hours : duration.hours.length ≤ maxIntegerDigits)
      (long : maxIntegerDigits < duration.minutes.length) :
      Misread duration (.error (.argument (.integerTooLong (some duration.minutes.length))))
  | whole (hours : duration.hours.length ≤ maxIntegerDigits)
      (minutes : duration.minutes.length ≤ maxIntegerDigits)
      (large : Binary64.limit ≤ duration.whole) : Misread duration (.error (.fault .outOfRange))
  | endless (hours : duration.hours.length ≤ maxIntegerDigits)
      (minutes : duration.minutes.length ≤ maxIntegerDigits)
      (whole : (duration.whole : ℚ) < Binary64.limit)
      (large : Binary64.limit ≤ duration.spare ∨
        Binary64.limit ≤ (Binary64.nearestInt duration.whole).exact + duration.rest.exact) :
      Misread duration (.ok (.infinite false))

theorem inRange_or_misread (duration : DurationText) :
    duration.InRange ∨ ∃ result, duration.Misread result := by
  rcases Nat.lt_or_ge maxIntegerDigits duration.hours.length with long | hours
  · exact .inr ⟨_, .hours long⟩
  rcases Nat.lt_or_ge maxIntegerDigits duration.minutes.length with long | minutes
  · exact .inr ⟨_, .minutes hours long⟩
  rcases lt_or_ge (duration.whole : ℚ) Binary64.limit with whole | large
  · rcases lt_or_ge duration.spare Binary64.limit with spare | large
    · rcases lt_or_ge ((Binary64.nearestInt duration.whole).exact + duration.rest.exact)
        Binary64.limit with sum | large
      · exact .inl ⟨hours, minutes, whole, spare, sum⟩
      · exact .inr ⟨_, .endless hours minutes whole (.inr large)⟩
    · exact .inr ⟨_, .endless hours minutes whole (.inl large)⟩
  · exact .inr ⟨_, .whole hours minutes large⟩

theorem readRun_of_le {digits : List Char} (readable : digits.length ≤ maxIntegerDigits) :
    readRun digits = .ok (digitsValue digits) := by
  rw [readRun, if_neg (Nat.not_lt.mpr readable)]

theorem readRun_of_lt {digits : List Char} (long : maxIntegerDigits < digits.length) :
    readRun digits = .error (.argument (.integerTooLong (some digits.length))) := by
  rw [readRun, if_pos long]

theorem isFinite_rest : duration.rest.isFinite = true ↔ duration.spare < Binary64.limit := by
  rw [rest, Binary64.isFinite_nearest_wholes _ _ (Nat.pow_pos (Nat.succ_pos 9)), spare]
  push_cast
  rfl

/-- Hours and minutes that can be read are added up exactly, and must be within the range of doubles
then. -/
theorem total_of_readable (hours : duration.hours.length ≤ maxIntegerDigits)
    (minutes : duration.minutes.length ≤ maxIntegerDigits) :
    duration.total = if (Binary64.nearestInt duration.whole).isFinite then
      .ok (.nearestInt duration.whole + duration.rest) else .error (.fault .outOfRange) := by
  rw [total, readRun_of_le hours, readRun_of_le minutes, Binary64.ofDecimal_places]
  by_cases finite : (Binary64.nearestInt duration.whole).isFinite = true
  · have found : Binary64.ofInt? duration.whole = some (.nearestInt duration.whole) := if_pos finite
    rw [if_pos finite]
    simp only [bind, Except.bind]
    rw [← whole, found]
    rfl
  · have missing : Binary64.ofInt? duration.whole = none := if_neg finite
    rw [if_neg finite]
    simp only [bind, Except.bind]
    rw [← whole, missing]
    rfl

theorem forward_total : (Binary64.nearestInt duration.whole + duration.rest).Forward :=
  (Binary64.Forward.nearestInt _).add (.nearest _ _)

theorem InRange.conclusive (inRange : duration.InRange) : Conclusive duration.total := by
  have whole := (Binary64.isFinite_nearestInt _).mpr inRange.whole
  rw [total_of_readable inRange.hours inRange.minutes, if_pos whole]
  refine .seconds ?_ forward_total.zero_le
  exact (Binary64.Forward.isFinite_add (.nearestInt _) (.nearest _ _) whole).mpr
    ⟨isFinite_rest.mpr inRange.spare, inRange.sum⟩

theorem Misread.total_eq (misread : duration.Misread result) : duration.total = result := by
  cases misread with
  | hours long =>
    rw [total, readRun_of_lt long]
    rfl
  | minutes hours long =>
    rw [total, readRun_of_le hours, readRun_of_lt long]
    rfl
  | whole hours minutes large =>
    rw [total_of_readable hours minutes, if_neg]
    exact fun finite => absurd ((Binary64.isFinite_nearestInt _).mp finite) (not_lt.mpr large)
  | endless hours minutes whole large =>
    have finite := (Binary64.isFinite_nearestInt _).mpr whole
    rw [total_of_readable hours minutes, if_pos finite]
    refine congrArg Except.ok (forward_total.infinite_of_not_finite fun sum => ?_)
    obtain ⟨rest, sum⟩ :=
      (Binary64.Forward.isFinite_add (.nearestInt _) (.nearest _ _) finite).mp sum
    rcases large with large | large
    · exact absurd (isFinite_rest.mp rest) (not_lt.mpr large)
    · exact absurd sum (not_lt.mpr large)

theorem Misread.not_conclusive (misread : duration.Misread result) : ¬Conclusive result := by
  intro conclusive
  cases conclusive with
  | seconds finite _ =>
    cases misread
    cases finite
  | failed cause => cases misread

theorem Misread.not_inRange (misread : duration.Misread result) : ¬duration.InRange :=
  fun inRange => misread.not_conclusive (misread.total_eq ▸ inRange.conclusive)

theorem spare_le {limit exponent : Nat} (room : Nat.pow 10 limit * 3660 ≤ Nat.pow 2 exponent)
    (short : ∀ run ∈ duration.runs, run.length ≤ limit) :
    digitsValue (duration.seconds ++ duration.fraction) ≤
      Nat.pow 2 exponent * 10 ^ duration.fraction.length := by
  have digits := Text.digitsValue_lt (duration.seconds ++ duration.fraction)
  have few : 10 ^ duration.seconds.length ≤ Nat.pow 10 limit :=
    Nat.pow_le_pow_right (Nat.succ_pos 9) (short duration.seconds (by simp [runs]))
  rw [List.length_append, Nat.pow_add] at digits
  exact digits.le.trans (Nat.mul_le_mul_right _ (few.trans (by omega)))

/-- Runs of at most three hundred digits stay in range. -/
theorem inRange_of_short (short : ∀ run ∈ duration.runs, run.length ≤ 300) : duration.InRange := by
  have readable {run : List Char} (member : run ∈ duration.runs) : run.length ≤ maxIntegerDigits :=
    (short run member).trans (by decide)
  obtain ⟨limit, exponent, same, within, room⟩ := exists_room
  have whole := whole_lt room (same ▸ short)
  have spare := spare_le room (same ▸ short)
  have below := Binary64.two_pow_lt_limit within
  have positive : (0 : ℚ) < 2 ^ exponent := pow_pos two_pos exponent
  have digits : (0 : ℚ) < 10 ^ duration.fraction.length := pow_pos (by norm_num) _
  refine ⟨readable (by simp [runs]), readable (by simp [runs]), ?_, ?_, ?_⟩
  · have whole : (duration.whole : ℚ) < 2 ^ exponent := by exact_mod_cast whole
    linarith
  · have spare : duration.spare ≤ 2 ^ exponent := by
      rw [DurationText.spare, div_le_iff₀ digits]
      exact_mod_cast spare
    linarith
  · have wholeRounded := Binary64.exact_nearest_le Nat.one_pos (within.trans (Nat.lt_succ_self 1023))
      (whole.le.trans_eq (Nat.mul_one _).symm)
    have spareRounded : duration.rest.exact ≤ 2 ^ exponent :=
      Binary64.exact_nearest_le (Nat.pow_pos (Nat.succ_pos 9))
        (within.trans (Nat.lt_succ_self 1023)) spare
    rw [Binary64.nearestInt_natCast]
    linarith

end DurationText

/-- The path of an upload holds a null byte. -/
def Upload.NullPath (upload : Upload) : Prop :=
  ∃ path, upload.source = .file path ∧ '\x00' ∈ path.text.toList

/-- Something that the system refused. -/
def Failure.IsRefusal (failure : Failure) : Prop := ∃ cause, failure = .system cause

section Staging

variable {upload : Upload} {file : Path} {purpose suffix : String} {start middle : Workspace}

theorem assetSuffix_lacks_null (named : ∀ filename ∈ upload.filename, '\x00' ∉ filename.toList) :
    '\x00' ∉ (assetSuffix upload).toList := by
  obtain ⟨filename, given, same⟩ | same := assetSuffix_cases upload
  · exact same ▸ Path.suffixOf_lacks (by decide) (Path.name_lacks (named filename given))
  · exact same ▸ suffixFor_lacks (by decide) (by decide)

theorem Upload.content_null (null : upload.NullPath) (disk : Disk) :
    upload.content disk = .error (.argument .nullByte) := by
  obtain ⟨path, source, member⟩ := null
  simp [content, source, member]

theorem Upload.content_refused (held : upload.source ≠ .nothing) (plain : ¬upload.NullPath)
    (disk : Disk) : FailsBy Failure.IsRefusal (upload.content disk) := by
  rw [content]
  cases source : upload.source with
  | bytes content => exact .ok content
  | nothing => exact absurd source held
  | file path =>
    have checked : path.text.toList.contains '\x00' = false := by
      simpa using fun member => plain ⟨path, source, member⟩
    dsimp only
    rw [checked, if_neg Bool.false_ne_true]
    cases disk.read path.text with
    | ok content => exact .ok content
    | error refusal => exact .error ⟨_, rfl⟩

theorem Upload.copyTo_refused (held : upload.source ≠ .nothing) (plain : ¬upload.NullPath) :
    FailsBy Failure.IsRefusal ((upload.copyTo file).on start).1 := by
  rw [copyTo, Action.on_bind, Action.on_look]
  cases read : upload.content start.disk with
  | error failure => exact .error (upload.content_refused held plain start.disk failure read)
  | ok content =>
    dsimp only
    rw [Action.on, Action.change]
    split
    · exact .ok _
    · exact .error ⟨_, rfl⟩

theorem makeFresh_null {entry : Entry} (misplaced : '\x00' ∈ start.disk.temporary.text.toList) :
    ((makeFresh purpose suffix entry).on start).1 = .error (.argument .nullByte) := by
  have null : (start.disk.temporary.text ++ "/" ++ temporaryStart ++ purpose ++
      digitsOf (start.names + 1) ++ suffix).toList.contains '\x00' = true := by
    simp [misplaced]
  rw [makeFresh, Action.on_bind, Action.on, freshPath]
  dsimp only
  rw [Action.on_bind, checkPath, null]
  rfl

/-- A fresh path without a null byte is made, or refused by the system. -/
theorem makeFresh_refused {entry : Entry} (placed : '\x00' ∉ start.disk.temporary.text.toList)
    (purposePlain : '\x00' ∉ purpose.toList) (suffixPlain : '\x00' ∉ suffix.toList) :
    FailsBy Failure.IsRefusal ((makeFresh purpose suffix entry).on start).1 := by
  have plain : (start.disk.temporary.text ++ "/" ++ temporaryStart ++ purpose ++
      digitsOf (start.names + 1) ++ suffix).toList.contains '\x00' = false := by
    have digits := digitsOf_lacks (start.names + 1) (show ¬ '\x00'.isDigit = true by decide)
    have first : '\x00' ∉ temporaryStart.toList := by decide
    simp [placed, purposePlain, suffixPlain, digits, first]
  rw [makeFresh, Action.on_bind, Action.on, freshPath]
  dsimp only
  rw [Action.on_bind, checkPath, plain, if_neg Bool.false_ne_true, Action.on_pure]
  dsimp only
  rw [Action.on_bind, Action.on, Action.change]
  cases start.disk.create _ entry with
  | ok disk => exact .ok _
  | error refusal => exact .error ⟨_, rfl⟩

/-- A copy is made or refused by the system, unless there is room for it but a null byte in the path
of the upload. -/
theorem stage_fails (held : upload.source ≠ .nothing)
    (placed : '\x00' ∉ start.disk.temporary.text.toList) (purposePlain : '\x00' ∉ purpose.toList)
    (suffixPlain : '\x00' ∉ suffix.toList) :
    FailsBy (fun failure => failure.IsRefusal ∨ upload.NullPath ∧
      ∃ file made, (makeFresh purpose suffix (.file [])).on start = (.ok file, made))
      ((stage upload purpose suffix).on start).1 := by
  have makes := @makeFresh_refused _ _ start (.file []) placed purposePlain suffixPlain
  rw [stage, Action.on_bind]
  generalize (makeFresh purpose suffix (.file [])).on start = made at makes ⊢
  obtain ⟨failure | file, middle⟩ := made
  · exact .error (.inl (makes failure rfl))
  by_cases null : upload.NullPath
  · exact fun _ _ => .inr ⟨null, file, middle, rfl⟩
  · have copies := @Upload.copyTo_refused upload file middle held null
    dsimp only
    rw [Action.on_bind, Action.on_attempt]
    generalize (upload.copyTo file).on middle = copied at copies ⊢
    obtain ⟨failure | _, last⟩ := copied
    · exact FailsBy.error (.inl (copies failure rfl))
    · exact .ok file

theorem stage_misplaced (misplaced : '\x00' ∈ start.disk.temporary.text.toList) :
    ((stage upload purpose suffix).on start).1 = .error (.argument .nullByte) := by
  have made := @makeFresh_null purpose suffix start (.file []) misplaced
  rw [stage, Action.on_bind]
  generalize (makeFresh purpose suffix (.file [])).on start = fresh at made ⊢
  obtain ⟨_, middle⟩ := fresh
  obtain rfl := made
  rfl

/-- What has a null byte in its path is not copied, even where there is room for a copy. -/
theorem stage_null (null : upload.NullPath)
    (room : (makeFresh purpose suffix (.file [])).on start = (.ok file, middle)) :
    ((stage upload purpose suffix).on start).1 = .error (.argument .nullByte) := by
  have copied : ((upload.copyTo file).on middle).1 = .error (.argument .nullByte) := by
    rw [Upload.copyTo, Action.on_bind, Action.on_look, upload.content_null null]
  rw [stage, Action.on_bind, room]
  dsimp only
  rw [Action.on_bind, Action.on_attempt, copied]
  rfl

end Staging

/-- In time, the tool gives a report on a copy of an upload. -/
def Reports (toolbox : Toolbox) (timeout : Number) (upload : Upload) (start : Workspace)
    (report : String) : Prop :=
  ∃ file staged exit, (stage upload "probe-" (assetSuffix upload)).on start = (.ok file, staged) ∧
    ((toolbox.invoke "probe" [toolbox.installation.tool, "-i", file.text] timeout).on staged).1 =
      .ok ⟨exit, report, false⟩

/-- What a probe comes to when it goes astray: the path of the temporary directory holds a null byte, or
there is room for a copy of an upload but its path holds one, or the tool reports a duration that is out
of range. -/
inductive Astray (toolbox : Toolbox) (timeout : Number) (upload : Upload) (start : Workspace) :
    Except Failure Binary64 → Prop where
  | misplaced (null : '\x00' ∈ start.disk.temporary.text.toList) :
      Astray toolbox timeout upload start (.error (.argument .nullByte))
  | null {file : Path} {made : Workspace} (null : upload.NullPath)
      (room : (makeFresh "probe-" (assetSuffix upload) (.file [])).on start = (.ok file, made)) :
      Astray toolbox timeout upload start (.error (.argument .nullByte))
  | misread {report : String} {duration : DurationText} {before after : List Char}
      {result : Except Failure Binary64} (reports : Reports toolbox timeout upload start report)
      (leads : duration.Leads report.toList before after) (misread : duration.Misread result) :
      Astray toolbox timeout upload start result

section Probing

variable {toolbox : Toolbox} {timeout : Number} {upload : Upload} {start middle : Workspace}
  {file : Path} {report : String}

/-- What the tool reports on a file in time is read. -/
theorem probeFile_reports {exit : Option Int} {path : String}
    (ended : ((toolbox.invoke "probe" [toolbox.installation.tool, "-i", path] timeout).on start).1 =
      .ok ⟨exit, report, false⟩) :
    ((probeFile toolbox path timeout).on start).1 =
      match findDuration? report.toList with
      | none => .error (.probe (.unreadable path))
      | some duration => duration.total := by
  rw [probeFile, Action.on_bind, Action.on_attempt, ended]
  dsimp only
  rw [if_neg Bool.false_ne_true, Action.on_bind, Action.on_lift, readDuration]
  cases findDuration? report.toList with
  | none => rfl
  | some duration =>
    dsimp only
    cases duration.total <;> rfl

theorem invoke_refused {stage : String} {arguments : List String} :
    FailsBy Failure.IsRefusal ((toolbox.invoke stage arguments timeout).on start).1 := by
  rw [Action.on, Toolbox.invoke]
  dsimp only
  cases (toolbox.run start.calls _ start.disk).1 with
  | ok result => exact .ok result
  | error cause => exact .error ⟨cause, rfl⟩

/-- Unless the tool gives a report in time, a probe fails as it should. -/
theorem probeFile_cases (path : String) :
    Conclusive ((probeFile toolbox path timeout).on start).1 ∨
      ∃ exit report, ((toolbox.invoke "probe" [toolbox.installation.tool, "-i", path] timeout).on
        start).1 = .ok ⟨exit, report, false⟩ := by
  rw [probeFile, Action.on_bind, Action.on_attempt]
  cases outcome : ((toolbox.invoke "probe" [toolbox.installation.tool, "-i", path] timeout).on
    start).1 with
  | error failure =>
    obtain ⟨cause, rfl⟩ := invoke_refused failure outcome
    exact .inl (.failed (.notStarted path cause))
  | ok result =>
    obtain ⟨exit, report, timedOut⟩ := result
    cases timedOut with
    | true => exact .inl (.failed (.timedOut path))
    | false => exact .inr ⟨exit, report, rfl⟩

theorem probeUpload_staged
    (staged : (stage upload "probe-" (assetSuffix upload)).on start = (.ok file, middle)) :
    ((probeUpload toolbox timeout upload).on start).1 =
      ((probeFile toolbox file.text timeout).on middle).1 := by
  rw [probeUpload, Action.on_bind, Action.on_attempt, staged]
  rfl

theorem probeUpload_refused {cause : SystemError}
    (refused : ((stage upload "probe-" (assetSuffix upload)).on start).1 = .error (.system cause)) :
    ((probeUpload toolbox timeout upload).on start).1 = .error (.probe (.notStaged cause)) := by
  rw [probeUpload, Action.on_bind, Action.on_attempt, refused]
  rfl

theorem probeUpload_argument {cause : ArgumentError}
    (failed : ((stage upload "probe-" (assetSuffix upload)).on start).1 = .error (.argument cause)) :
    ((probeUpload toolbox timeout upload).on start).1 = .error (.argument cause) := by
  rw [probeUpload, Action.on_bind, Action.on_attempt, failed]
  rfl

/-- Where the tool gives a report, the duration that leads it is what the probe answers. -/
theorem probeUpload_reports {duration : DurationText} {before after : List Char}
    (reports : Reports toolbox timeout upload start report)
    (leads : duration.Leads report.toList before after) :
    ((probeUpload toolbox timeout upload).on start).1 = duration.total := by
  obtain ⟨file, staged, exit, copied, ended⟩ := reports
  rw [probeUpload_staged copied, probeFile_reports ended, findDuration?_of_leads leads]

/-- A probe that goes astray comes to just that. -/
theorem Astray.eq {result : Except Failure Binary64} (astray : Astray toolbox timeout upload start result) :
    ((probeUpload toolbox timeout upload).on start).1 = result ∧ ¬Conclusive result := by
  cases astray with
  | misplaced null => exact ⟨probeUpload_argument (stage_misplaced null), nofun⟩
  | null null room => exact ⟨probeUpload_argument (stage_null null room), nofun⟩
  | misread reports leads misread =>
    exact ⟨(probeUpload_reports reports leads).trans misread.total_eq, misread.not_conclusive⟩

/-- A probe that does not go astray is conclusive. -/
theorem conclusive_or_astray (held : upload.source ≠ .nothing)
    (named : ∀ filename ∈ upload.filename, '\x00' ∉ filename.toList) :
    Conclusive ((probeUpload toolbox timeout upload).on start).1 ∨
      ∃ result, Astray toolbox timeout upload start result := by
  have suffixPlain := assetSuffix_lacks_null named
  by_cases misplaced : '\x00' ∈ start.disk.temporary.text.toList
  · exact .inr ⟨_, .misplaced misplaced⟩
  rcases outcome : (stage upload "probe-" (assetSuffix upload)).on start with ⟨failure | file, staged⟩
  · have failed := congrArg Prod.fst outcome
    obtain ⟨cause, rfl⟩ | ⟨null, file, made, room⟩ :=
      stage_fails held misplaced (by decide) suffixPlain failure failed
    · rw [probeUpload_refused failed]
      exact .inl (.failed (.notStaged cause))
    · exact .inr ⟨_, .null null room⟩
  · rw [probeUpload_staged outcome]
    obtain conclusive | ⟨exit, report, ended⟩ := @probeFile_cases toolbox timeout staged file.text
    · exact .inl conclusive
    · have reports : Reports toolbox timeout upload start report := ⟨file, staged, exit, outcome, ended⟩
      rw [probeFile_reports ended]
      cases found : findDuration? report.toList with
      | none => exact .inl (.failed (.unreadable file.text))
      | some duration =>
        obtain ⟨before, after, leads⟩ := leads_of_findDuration? found
        obtain inRange | ⟨result, misread⟩ := duration.inRange_or_misread
        · exact .inl inRange.conclusive
        · exact .inr ⟨result, .misread reports leads misread⟩

/-- A probe gives seconds, finitely many and none below zero, or says why it cannot, except where it
goes astray; and it comes to just that there. No duration whose runs of digits are short leads it
astray. -/
theorem probeUpload_answers (held : upload.source ≠ .nothing)
    (named : ∀ filename ∈ upload.filename, '\x00' ∉ filename.toList) (toolbox : Toolbox)
    (timeout : Number) (start : Workspace) :
    (Conclusive ((probeUpload toolbox timeout upload).on start).1 ↔
      ∀ result, ¬Astray toolbox timeout upload start result) ∧
    (∀ result, Astray toolbox timeout upload start result →
      ((probeUpload toolbox timeout upload).on start).1 = result ∧ ¬Conclusive result) ∧
    ∀ (duration : DurationText) (result : Except Failure Binary64), duration.Misread result →
      ∃ run ∈ duration.runs, 300 < run.length := by
  refine ⟨⟨fun conclusive result astray => ?_, fun none => ?_⟩, fun _ astray => astray.eq, ?_⟩
  · obtain ⟨same, not⟩ := astray.eq
    exact not (same ▸ conclusive)
  · refine (conclusive_or_astray held named).resolve_right ?_
    rintro ⟨result, astray⟩
    exact none result astray
  · intro duration result misread
    by_contra short
    refine misread.not_inRange (DurationText.inRange_of_short fun run member => ?_)
    exact Nat.le_of_not_lt fun long => short ⟨run, member, long⟩

end Probing

/-- A tool that always reports the same. -/
def repeating (report : List Char) : Toolbox where
  installation := ⟨none, "ffmpeg"⟩
  run _ _ disk := (.ok ⟨some 1, .ofList report, false⟩, disk)

/-- A clip, and nothing else in the world. -/
def loneClip : Upload := .ofBytes [1] "video/mp4" none

/-- A workspace in which nothing was done yet. -/
def blankWorkspace : Workspace := ⟨⟨[], [], []⟩, 0, 0, 0, []⟩

theorem repeating_reports (report : List Char) :
    Reports (repeating report) probeTimeout loneClip blankWorkspace (.ofList report) := by
  have staged : ((stage loneClip "probe-" (assetSuffix loneClip)).on blankWorkspace).1.toOption.any
      (fun _ => true) = true := by
    decide
  obtain ⟨file, staged, _⟩ := Except.toOption_any.mp staged
  exact ⟨file, _, some 1, Prod.ext staged rfl, rfl⟩

/-- A duration of four hundred nines of seconds. -/
def endlessDuration : DurationText := ⟨['0', '0'], ['0', '0'], .replicate 400 '9', []⟩

theorem endlessDuration_numeric : endlessDuration.Numeric where
  hours := ⟨nofun, List.all_eq_true.mp (by decide)⟩
  minutes := ⟨nofun, List.all_eq_true.mp (by decide)⟩
  seconds := by
    refine ⟨nofun, fun character member => ?_⟩
    rw [List.eq_of_mem_replicate member]
    decide
  fraction := nofun

theorem endlessDuration_misread : endlessDuration.Misread (.ok (.infinite false)) := by
  refine .endless (by decide) (by decide) ?_ (.inl ?_)
  · have none : endlessDuration.whole = 0 := by decide
    have positive := @Binary64.two_pow_lt_limit 0 (by decide)
    rw [none, Nat.cast_zero]
    exact (by norm_num : (0 : ℚ) < 2 ^ 0 + 2 ^ 0).trans positive
  · have spare : endlessDuration.spare = digitsValue endlessDuration.seconds := by
      show (digitsValue (endlessDuration.seconds ++ []) / 10 ^ 0 : ℚ) = _
      rw [List.append_nil, pow_zero, div_one]
    have first : (Text.digitValue? '9').getD 0 = 9 := by decide
    have digits := Text.le_digitsValue_cons '9' (.replicate 399 '9')
    rw [first, List.length_replicate] at digits
    calc Binary64.limit ≤ 2 ^ 1024 := Binary64.limit_lt.le
      _ ≤ 2 ^ (3 * 399) := pow_le_pow_right₀ one_le_two (by decide)
      _ = (2 ^ 3) ^ 399 := pow_mul 2 3 399
      _ ≤ 10 ^ 399 := pow_le_pow_left₀ (pow_nonneg zero_le_two 3) (by norm_num) 399
      _ ≤ 9 * 10 ^ 399 := le_mul_of_one_le_left (pow_nonneg (by norm_num) 399) (by norm_num)
      _ ≤ digitsValue endlessDuration.seconds := by exact_mod_cast digits
      _ = endlessDuration.spare := spare.symm

/-- A report of a duration without end makes a probe answer with infinitely many seconds. -/
theorem loneClip_endless :
    loneClip.source ≠ .nothing ∧ loneClip.filename = none ∧
      ((probeUpload (repeating endlessDuration.text) probeTimeout loneClip).on blankWorkspace).1 =
        .ok (.infinite false) ∧
      ¬Conclusive (.ok (.infinite false)) := by
  have leads := endlessDuration_numeric.leads
  rw [← @String.toList_ofList endlessDuration.text] at leads
  have astray : Astray (repeating endlessDuration.text) probeTimeout loneClip blankWorkspace
      (.ok (.infinite false)) :=
    .misread (repeating_reports _) leads endlessDuration_misread
  exact ⟨nofun, rfl, astray.eq⟩

/-- A clip of a minute and two and a half seconds is measured, and what the tool reports leads the probe
nowhere astray. -/
theorem loneClip_answered :
    let minute : DurationText := ⟨['0', '0'], ['0', '1'], ['0', '2'], ['5', '0']⟩
    loneClip.source ≠ .nothing ∧ (∀ filename ∈ loneClip.filename, '\x00' ∉ filename.toList) ∧
      Conclusive ((probeUpload (repeating minute.text) probeTimeout loneClip).on blankWorkspace).1 ∧
      ∀ result, ¬Astray (repeating minute.text) probeTimeout loneClip blankWorkspace result := by
  intro minute
  have run (first second : Char) (digits : [first, second].all isDigit = true) :
      IsRun [first, second] := ⟨nofun, List.all_eq_true.mp digits⟩
  have numeric : minute.Numeric :=
    ⟨run _ _ (by decide), run _ _ (by decide), run _ _ (by decide), (run '5' '0' (by decide)).digit⟩
  have leads := numeric.leads
  rw [← @String.toList_ofList minute.text] at leads
  have conclusive : Conclusive ((probeUpload (repeating minute.text) probeTimeout loneClip).on
      blankWorkspace).1 := by
    rw [probeUpload_reports (repeating_reports _) leads]
    exact (DurationText.inRange_of_short (by decide)).conclusive
  have held : loneClip.source ≠ .nothing := nofun
  have named : ∀ filename ∈ loneClip.filename, '\x00' ∉ filename.toList := nofun
  refine ⟨held, named, conclusive, ?_⟩
  exact (probeUpload_answers held named (repeating minute.text) probeTimeout _).1.mp conclusive

end Montage
