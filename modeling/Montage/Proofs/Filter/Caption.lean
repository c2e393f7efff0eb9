import Montage.Filter.Graph
import Montage.Proofs.Filter.Escaping
import Montage.Proofs.Filter.Quoting
import Montage.Proofs.Number.Numeral

/-! What the text of a caption does to the chain of filters. Inside the quotes that the text is put
in, a backslash does not keep an apostrophe from ending the run. -/

namespace Montage

instance : DecidablePred Unquoting := fun _ => inferInstanceAs (Decidable (_ ∧ _))

instance : DecidablePred Simple := fun _ => inferInstanceAs (Decidable (_ ∧ _ ∧ _))

/-- A text that a reader of a chain takes nothing in for its own. -/
def SimpleText (text : String) : Prop :=
  ∀ character ∈ text.toList, Simple character

instance : DecidablePred SimpleText := fun text => List.decidableBAll Simple text.toList

theorem SimpleText.unquoting {text : String} (simple : SimpleText text) :
    ∀ character ∈ text.toList, Unquoting character :=
  fun character member => (simple character member).1

theorem unquoting_of_all {text : String} (all : text.toList.all (decide <| Unquoting ·) = true) :
    ∀ character ∈ text.toList, Unquoting character :=
  fun character member => of_decide_eq_true (List.all_eq_true.mp all character member)

section Numerals

theorem simpleText_append {left right : String} (first : SimpleText left)
    (second : SimpleText right) : SimpleText (left ++ right) := by
  intro character member
  rw [String.toList_append, List.mem_append] at member
  exact member.elim (first character) (second character)

/-- A reader of a chain takes nothing in a number for its own. -/
theorem Numeral.simple {text : String} (numeral : Numeral text) : SimpleText text := by
  intro character member
  rcases numeral character member with digit | other
  · refine ⟨⟨?_, ?_⟩, ?_, ?_⟩ <;> rintro rfl <;> cases digit
  · have known : ['-', '.', 'i', 'n', 'f', 'a'].all (fun mark => decide (Simple mark)) = true := by
      decide
    exact of_decide_eq_true (List.all_eq_true.mp known character other)

theorem digitsOf_simple (number : Nat) : SimpleText (digitsOf number) :=
  (digitsOf_numeral number).simple

theorem wholeText_simple (whole : Int) : SimpleText (wholeText whole) :=
  (wholeText_numeral whole).simple

theorem decimals_simple {number : Number} {text : String} (written : decimals number = .ok text) :
    SimpleText text :=
  (decimals_numeral written).simple

end Numerals

section Escaping

variable {text : List Char}

/-- Outside of quotes an escaped text is taken as it is. -/
theorem after_escapeReserved_plain : Quoting.after .plain (escapeReserved text) = .plain := by
  induction text with
  | nil => rfl
  | cons character rest ih =>
    rw [escapeReserved_cons, Quoting.after_append]
    split
    · exact ih
    · rename_i free
      simp only [reserved, List.mem_cons, not_or] at free
      rw [Quoting.after_cons, Quoting.next_unquoting ⟨free.1, free.2.2.1⟩ (by simp)]
      exact ih

/-- Inside of quotes the first apostrophe of a text ends the run. -/
theorem after_escapeReserved_quoted :
    Quoting.after .quoted (escapeReserved text) = if '\'' ∈ text then .plain else .quoted := by
  induction text with
  | nil => rfl
  | cons character rest ih =>
    rw [escapeReserved_cons, Quoting.after_append]
    by_cases apostrophe : character = '\''
    · subst apostrophe
      simpa [reserved, Quoting.next] using after_escapeReserved_plain
    · have stays : Quoting.after .quoted
          (if character ∈ reserved then ['\\', character] else [character]) = .quoted := by
        split <;> simp [Quoting.next]
      rw [stays, ih]
      simp [Ne.symm apostrophe]

theorem apostrophe_mem_escapeReserved : '\'' ∈ escapeReserved text ↔ '\'' ∈ text := by
  induction text with
  | nil => rfl
  | cons character rest ih =>
    rw [escapeReserved_cons, List.mem_append, ih, List.mem_cons]
    split <;> simp

end Escaping

section Captions

/-- What follows the text of a caption: options outside of quotes, then the window in which the
caption is shown in quotes. -/
structure CaptionTail (tail : List Char) (options window : List Char) : Prop where
  shape : tail = '\'' :: (options ++ '\'' :: (window ++ ['\'']))
  options : ∀ character ∈ options, Simple character
  window : ∀ character ∈ window, Unquoting character

variable {tail options window : List Char}

theorem CaptionTail.after_quoted (tailed : CaptionTail tail options window) :
    Quoting.after .quoted tail = .plain := by
  have passed : Quoting.after .plain options = .plain :=
    Quoting.after_unquoting (fun character member => (tailed.options character member).1) (by simp)
  have within : Quoting.after .quoted window = .quoted :=
    Quoting.after_unquoting tailed.window (by simp)
  simp [tailed.shape, Quoting.next, passed, within]

theorem CaptionTail.after_plain (tailed : CaptionTail tail options window) :
    Quoting.after .plain tail = .quoted := by
  have passed : Quoting.after .quoted options = .quoted :=
    Quoting.after_unquoting (fun character member => (tailed.options character member).1) (by simp)
  have within : Quoting.after .plain window = .plain :=
    Quoting.after_unquoting tailed.window (by simp)
  simp [tailed.shape, Quoting.next, passed, within]

theorem CaptionTail.unbroken (tailed : CaptionTail tail options window) :
    splitChain .quoted tail = [tail] := by
  have passed : Quoting.after .plain options = .plain :=
    Quoting.after_unquoting (fun character member => (tailed.options character member).1) (by simp)
  have within : Quoting.after .quoted window = .quoted :=
    Quoting.after_unquoting tailed.window (by simp)
  have run : splitChain .quoted (window ++ ['\'']) = [window ++ ['\'']] := by
    apply unbroken_append (unbroken_quoted fun member => (tailed.window _ member).2 rfl)
    rw [within]
    rfl
  have quoted : splitChain .plain ('\'' :: (window ++ ['\''])) = ['\'' :: (window ++ ['\''])] :=
    unbroken_cons (by simp) run
  rw [tailed.shape]
  refine unbroken_cons (by simp) ?_
  apply unbroken_append (unbroken_simple tailed.options)
  rw [passed]
  exact quoted

/-- The settings of a caption have this shape, whatever its text. -/
theorem Caption.settings_tail {caption : Caption Number} {width height : Int} {text : String}
    (written : caption.settings width height = .ok text) :
    ∃ options window, CaptionTail ('\'' :: text.toList) options window := by
  simp only [settings, Except.bind_eq_ok, Except.pure_eq_ok] at written
  obtain ⟨start, writtenStart, stop, writtenStop, rfl⟩ := written
  have position : SimpleText caption.position.height := by
    cases caption.position <;> decide
  let options := ":fontcolor=white:fontsize=" ++ wholeText (Int.fdiv (max width height) 24) ++
    ":box=1:boxcolor=black@0.45:boxborderw=12" ++ ":x=(w-text_w)/2:y=" ++
    caption.position.height ++ ":enable="
  have simple : SimpleText options :=
    simpleText_append (simpleText_append (simpleText_append (simpleText_append (simpleText_append
      (by decide) (wholeText_simple _)) (by decide)) (by decide))
      position) (by decide)
  refine ⟨options.toList, ("between(t," ++ start ++ "," ++ stop ++ ")").toList, ?_, simple, ?_⟩
  · simp [options]
  · intro character member
    simp only [String.toList_append, List.mem_append] at member
    rcases member with (((member | member) | member) | member) | member
    · exact unquoting_of_all (by decide) character member
    · exact (decimals_simple writtenStart).unquoting character member
    · exact unquoting_of_all (by decide) character member
    · exact (decimals_simple writtenStop).unquoting character member
    · exact unquoting_of_all (by decide) character member

variable {caption : Caption Number} {width height : Int} {text : String}

/-- An apostrophe in the text of a caption leaves a quoted run open after it. -/
theorem Caption.after_filter_plain (written : caption.filter width height = .ok text) :
    Quoting.after .plain text.toList =
      if '\'' ∈ caption.text.toList then .quoted else .plain := by
  obtain ⟨settings, writtenSettings, rest⟩ := Except.bind_eq_ok.mp written
  obtain rfl := Except.ok.inj rest
  obtain ⟨options, window, tailed⟩ := Caption.settings_tail writtenSettings
  have opened : Quoting.after .plain "drawtext=text='".toList = .quoted := by decide
  simp only [String.toList_append, Quoting.after_append, opened, escapeText, String.toList_ofList,
    after_escapeReserved_quoted]
  split
  · exact tailed.after_plain
  · exact tailed.after_quoted

theorem Caption.after_filter_quoted (written : caption.filter width height = .ok text) :
    Quoting.after .quoted text.toList = .quoted := by
  obtain ⟨settings, writtenSettings, rest⟩ := Except.bind_eq_ok.mp written
  obtain rfl := Except.ok.inj rest
  obtain ⟨options, window, tailed⟩ := Caption.settings_tail writtenSettings
  have closed : Quoting.after .quoted "drawtext=text='".toList = .plain := by decide
  simp only [String.toList_append, Quoting.after_append, closed, escapeText, String.toList_ofList,
    after_escapeReserved_plain]
  exact tailed.after_plain

/-- A caption without apostrophes is one filter. -/
theorem Caption.filter_unbroken (written : caption.filter width height = .ok text)
    (free : '\'' ∉ caption.text.toList) : splitChain .plain text.toList = [text.toList] := by
  obtain ⟨settings, writtenSettings, rest⟩ := Except.bind_eq_ok.mp written
  obtain rfl := Except.ok.inj rest
  obtain ⟨options, window, tailed⟩ := Caption.settings_tail writtenSettings
  have opened : Quoting.after .plain "drawtext=text='".toList = .quoted := by decide
  have opening : splitChain .plain "drawtext=text='".toList = ["drawtext=text='".toList] := by
    decide
  simp only [String.toList_append, escapeText, String.toList_ofList, List.append_assoc]
  apply unbroken_append opening
  rw [opened]
  apply unbroken_append (unbroken_quoted (by rwa [apostrophe_mem_escapeReserved]))
  rw [after_escapeReserved_quoted, if_neg free]
  exact tailed.unbroken

/-- A filter that writes a text. -/
def WritesText (filter : List Char) : Prop :=
  "drawtext=".toList <+: filter

theorem Caption.filter_writes (written : caption.filter width height = .ok text) :
    WritesText text.toList := by
  obtain ⟨settings, _, rest⟩ := Except.bind_eq_ok.mp written
  obtain rfl := Except.ok.inj rest
  simp only [String.toList_append, List.append_assoc]
  exact List.IsPrefix.trans (by decide) (List.prefix_append "drawtext=text='".toList _)

end Captions

end Montage
