import Montage.Proofs.Manifest.Reading
import Montage.Proofs.Manifest.Sound
import Montage.Proofs.Text.Trim

/-! Caption, transition and color treatment keep their rules where they are read without a
violation. -/

namespace Montage

/-- Bounds are compared with fractions in whole numbers of units. -/
theorem Bounds.inside_of_units {bounds : Bounds} (low high : Int) (lowParts highParts : Nat)
    (parts : 0 < lowParts ∧ 0 < highParts)
    (units : bounds.low.isFinite = true ∧ bounds.high.isFinite = true ∧
      low * Binary64.unit ≤ bounds.low.signedUnits * lowParts ∧
      bounds.high.signedUnits * highParts ≤ high * Binary64.unit) :
    bounds.Inside (low / lowParts) (high / highParts) where
  finite := ⟨units.1, units.2.1⟩
  low := (Binary64.div_le_exact_iff parts.1).mpr units.2.2.1
  high := (Binary64.exact_le_div_iff parts.2).mpr units.2.2.2

theorem bounds_inside :
    crossfadeBounds.Inside (1 / 5) 2 ∧ brightnessBounds.Inside (-1) 1 ∧
      contrastBounds.Inside (1 / 5) 3 ∧ saturationBounds.Inside 0 3 ∧ opacityBounds.Inside 0 1 := by
  refine ⟨?_, ?_, ?_, ?_, ?_⟩
  · simpa using Bounds.inside_of_units 1 2 5 1 (by decide) (by decide +kernel)
  · simpa using Bounds.inside_of_units (-1) 1 1 1 (by decide) (by decide +kernel)
  · simpa using Bounds.inside_of_units 1 3 5 1 (by decide) (by decide +kernel)
  · simpa using Bounds.inside_of_units 0 3 1 1 (by decide) (by decide +kernel)
  · simpa using Bounds.inside_of_units 0 1 1 1 (by decide) (by decide +kernel)

/-- Every default passes its own check. -/
theorem defaults_allowed :
    (Binary64.zero.isFinite = true ∧ brightnessBounds.allow .zero = true) ∧
      (Binary64.one.isFinite = true ∧ contrastBounds.allow .one = true) ∧
      (Binary64.one.isFinite = true ∧ saturationBounds.allow .one = true) ∧
      defaultOpacity.isFinite = true ∧ opacityBounds.allow defaultOpacity = true := by
  decide +kernel

private theorem epsilon_units :
    epsilon.isFinite = true ∧ 1 * Binary64.unit ≤ epsilon.signedUnits * (10 ^ 9 : Nat) := by
  decide +kernel

theorem epsilon_finite : epsilon.isFinite = true :=
  epsilon_units.1

theorem le_epsilon : 1 / 10 ^ 9 ≤ epsilon.exact := by
  have above := (@Binary64.div_le_exact_iff epsilon 1 (10 ^ 9) (by decide)).mpr epsilon_units.2
  simpa only [Int.cast_one, Nat.cast_pow, Nat.cast_ofNat] using above

theorem epsilon_pos : 0 < epsilon.exact :=
  lt_of_lt_of_le (by norm_num) le_epsilon

section Dressing

variable {field : Field} {value : Value}

theorem readGrade_ok {grade : ColorGrade Number} (read : readGrade value field = .ok grade) :
    grade.Sound := by
  obtain ⟨_, brightness, contrast, saturation, _, readBrightness, readContrast, readSaturation,
    rfl⟩ := readGrade_eq_ok.mp read
  obtain ⟨_, brightnessInside, contrastInside, saturationInside, _⟩ := bounds_inside
  obtain ⟨brightnessKept, contrastKept, saturationKept, _⟩ := defaults_allowed
  exact {
    brightness := readWithin_ok brightnessInside brightnessKept readBrightness
    contrast := readWithin_ok contrastInside contrastKept readContrast
    saturation := readWithin_ok saturationInside saturationKept readSaturation }

/-- The signs of a color in capitals. -/
private theorem capital_of_code :
    Text.mapCase Text.capitalRuns Text.capitalSequences '#' = ['#'] ∧
      ∀ code : Fin 128, isHexDigit (Char.ofNat code) = true →
        Text.mapCase Text.capitalRuns Text.capitalSequences (Char.ofNat code) =
            [(Char.ofNat code).toUpper] ∧
          IsCapitalHex (Char.ofNat code).toUpper := by
  unfold IsCapitalHex
  decide +kernel

theorem toNat_lt_of_isHexDigit {character : Char} (hex : isHexDigit character = true) :
    character.toNat < 128 := by
  simp [isHexDigit, Char.isDigit, Char.le_def, UInt32.le_iff_toNat_le] at hex
  omega

/-- The first 128 characters can be looked at one by one. -/
theorem exists_code {character : Char} (small : character.toNat < 128) :
    ∃ code : Fin 128, Char.ofNat code = character :=
  ⟨⟨character.toNat, small⟩, Char.ofNat_toNat character⟩

/-- The capital of a hexadecimal digit is one character. -/
theorem capital_of_isHexDigit {character : Char} (hex : isHexDigit character = true) :
    ∃ capital, Text.mapCase Text.capitalRuns Text.capitalSequences character = [capital] ∧
      IsCapitalHex capital := by
  obtain ⟨code, rfl⟩ := exists_code (toNat_lt_of_isHexDigit hex)
  exact ⟨_, capital_of_code.2 code hex⟩

theorem capitals_of_isHexDigit {digits : List Char} (hex : ∀ digit ∈ digits, isHexDigit digit = true) :
    (digits.flatMap (Text.mapCase Text.capitalRuns Text.capitalSequences)).length =
        digits.length ∧
      ∀ capital ∈ digits.flatMap (Text.mapCase Text.capitalRuns Text.capitalSequences),
        IsCapitalHex capital := by
  induction digits with
  | nil => simp
  | cons digit rest ih =>
    obtain ⟨capital, mapped, isCapital⟩ := capital_of_isHexDigit (hex digit (by simp))
    obtain ⟨length, capitals⟩ := ih fun later member => hex later (by simp [member])
    simp only [List.flatMap_cons, mapped, List.singleton_append, List.length_cons, length,
      List.forall_mem_cons, true_and]
    exact ⟨isCapital, capitals⟩

theorem readColor_ok {color : String} (read : readColor value field = .ok color) :
    ∃ digits : List Char, color = String.ofList ('#' :: digits) ∧ digits.length = 6 ∧
      ∀ digit ∈ digits, IsCapitalHex digit := by
  cases value with
  | text text =>
    simp only [readColor] at read
    split at read
    · cases read
    · split at read
      · rename_i written
        obtain rfl := Except.ok.inj read
        unfold isColor at written
        split at written
        · rename_i digits shape
          simp only [Bool.and_eq_true, beq_iff_eq, List.all_eq_true] at written
          obtain ⟨length, capitals⟩ := capitals_of_isHexDigit written.2
          refine ⟨_, ?_, length.trans written.1, capitals⟩
          rw [Text.upper, shape, List.flatMap_cons, capital_of_code.1]
          rfl
        · cases written
      · cases read
  | _ => simp [readColor] at read

theorem readOverlay_ok {overlay : Option (Overlay Number)}
    (read : readOverlay value field = .ok overlay) : ∀ shown ∈ overlay, shown.Sound := by
  rintro shown member
  obtain ⟨_, rfl⟩ | ⟨entries, color, opacity, _, readColor, readOpacity, rfl⟩ :=
    readOverlay_eq_ok.mp read
  · cases member
  · obtain ⟨_, _, _, inside⟩ := bounds_inside
    obtain ⟨_, _, _, kept⟩ := defaults_allowed
    obtain ⟨finite, _, below⟩ := readWithin_ok inside.2 kept readOpacity
    split at member
    · cases member
    · rename_i visible
      obtain rfl := Option.some.inj member
      rw [Binary64.le_iff finite epsilon_finite, not_le] at visible
      exact {
        color := readColor_ok readColor
        opacity := ⟨⟨finite, le_epsilon.trans_lt visible⟩, below⟩ }

theorem readVisualEdit_ok {edit : VisualEdit Number}
    (read : readVisualEdit value field = .ok edit) : edit.Sound := by
  obtain ⟨_, filter, grade, overlay, _, _, readGrade, readOverlay, rfl⟩ := readVisualEdit_eq_ok.mp read
  exact {
    grade := ⟨grade, rfl, readGrade_ok readGrade⟩
    overlay := readOverlay_ok readOverlay }

theorem readCaptionText_ok {text : String} (read : readCaptionText value field = .ok text) :
    Text.trim text = text ∧ Text.isBlankText text = false := by
  cases value with
  | text raw =>
    simp only [readCaptionText] at read
    split at read
    · cases read
    · rename_i written
      obtain rfl := Except.ok.inj read
      simpa using written
  | _ => simp [readCaptionText] at read

/-- The end of a caption is a finite double, given or that of the scene. -/
theorem readStop_ok {seconds : Binary64} {stop : Number} (finite : seconds.isFinite = true)
    (read : readStop value field (Number.double seconds) = .ok stop) :
    ∃ found : Binary64, found.isFinite = true ∧ stop = .double found := by
  obtain ⟨_, rfl⟩ | ⟨_, found, number, rfl⟩ := readStop_eq_ok.mp read
  · exact ⟨seconds, finite, rfl⟩
  · exact ⟨found, readNumber_finite number, rfl⟩

theorem readCaption_ok {seconds : Binary64} {caption : Option (Caption Number)}
    (finite : seconds.isFinite = true)
    (read : readCaption value field (Number.double seconds) = .ok caption) :
    ∀ shown ∈ caption, shown.Sound (.double seconds) := by
  rintro shown member
  obtain ⟨_, rfl⟩ | ⟨entries, text, start, stop, position, _, parts, rfl⟩ := readCaption_eq_ok.mp read
  · cases member
  · obtain rfl := Option.some.inj member
    obtain ⟨trimmed, notBlank⟩ := readCaptionText_ok parts.written
    obtain ⟨startFinite, notNegative⟩ := readStart_ok parts.begins
    obtain ⟨stop, stopFinite, rfl⟩ := readStop_ok finite parts.ends
    obtain ⟨_, ⟨⟩, after⟩ := parts.ordered
    obtain ⟨_, ⟨⟩, within⟩ := parts.inside
    have reached : start.exact ≤ start.exact + epsilon.exact := by
      linarith [epsilon_pos]
    have comparable := Binary64.le_add finite epsilon_finite finite (by linarith [epsilon_pos])
    exact {
      trimmed, notBlank
      finite := ⟨startFinite, stopFinite⟩
      start := notNegative
      ordered := Binary64.lt_of_le_of_not_le startFinite stopFinite
        (Binary64.le_add startFinite epsilon_finite startFinite reached) (Bool.eq_false_iff.mp after)
      inside := ⟨_, rfl, Binary64.le_of_not_lt finite stopFinite comparable
        (Bool.eq_false_iff.mp within)⟩ }

/-- A length does not come near another one. -/
theorem reaches_eq_ok_false {length limit : Binary64} :
    reaches (Number.double length) (Number.double limit) = .ok false ↔
      (limit - epsilon).le length = false := by
  change Except.ok ((limit - epsilon).le length) = .ok false ↔ _
  rw [Except.ok.injEq]

/-- A length that does not come near another one is below it. -/
theorem reaches_ok {length limit : Binary64} (lengthFinite : length.isFinite = true)
    (limitFinite : limit.isFinite = true)
    (below : reaches (Number.double length) (Number.double limit) = .ok false) :
    length.exact < limit.exact := by
  have apart := Bool.eq_false_iff.mp (reaches_eq_ok_false.mp below)
  exact Binary64.lt_of_not_le_of_le lengthFinite limitFinite apart
    (Binary64.sub_le limitFinite epsilon_finite limitFinite (by linarith [epsilon_pos]))

theorem readCrossfade_ok {previous seconds : Binary64} {length : Number}
    (previousFinite : previous.isFinite = true) (finite : seconds.isFinite = true)
    (read : readCrossfade value field (Number.double previous) (Number.double seconds) =
      .ok length) :
    length.Within (1 / 5) 2 ∧ length.exact < previous.exact ∧ length.exact < seconds.exact := by
  obtain ⟨number, readNumber, allowed, before, own, rfl⟩ := readCrossfade_eq_ok.mp read
  have numberFinite := readNumber_finite readNumber
  exact ⟨⟨numberFinite, bounds_inside.1.allow numberFinite allowed⟩,
    reaches_ok numberFinite previousFinite before, reaches_ok numberFinite finite own⟩

/-- A transition is a cut, or a crossfade that overlaps neither of its scenes completely. -/
theorem readTransition_ok {index : Nat} {previous seconds : Binary64}
    {transition : Transition Number} (previousFinite : previous.isFinite = true)
    (finite : seconds.isFinite = true)
    (read : readTransition value field index (Number.double previous) (Number.double seconds) =
      .ok transition) :
    transition.Sound (.double seconds) ∧ (index = 0 → transition = .cut) ∧
      ∀ length, transition = ⟨.crossfade, length⟩ → ∃ overlap, length = some overlap ∧
        overlap.exact < previous.exact := by
  obtain ⟨_, _, _, _, ⟨rfl, rfl⟩ | ⟨length, rfl, later, readLength, rfl⟩⟩ :=
    readTransition_eq_ok.mp read
  · exact ⟨rfl, fun _ => rfl, fun _ same => by cases same⟩
  · obtain ⟨within, before, own⟩ := readCrossfade_ok previousFinite finite readLength
    refine ⟨⟨length, rfl, within, own⟩, fun first => absurd first later, ?_⟩
    intro _ same
    cases same
    exact ⟨length, rfl, before⟩

end Dressing

end Montage
