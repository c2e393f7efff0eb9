import Mathlib.Data.List.Basic

/-! How a chain of filters is read: which characters separate filters and which stand for
themselves. -/

namespace Montage

/-- How the next character of a chain is taken. -/
inductive Quoting where
  | plain
  | escaped
  | quoted
  deriving DecidableEq

namespace Quoting

/-- Outside of quotes a backslash takes the next character as it is and an apostrophe opens a quoted
run; in the run all characters are taken as they are up to the next apostrophe. -/
def next : Quoting → Char → Quoting
  | plain, '\\' => escaped
  | plain, '\'' => quoted
  | plain, _ | escaped, _ | quoted, '\'' => plain
  | quoted, _ => quoted

/-- How the character after a text is taken. -/
def after (state : Quoting) (text : List Char) : Quoting :=
  text.foldl next state

end Quoting

/-- The filters of a chain, at the commas and semicolons that are neither quoted nor escaped. -/
def splitChain (state : Quoting) : List Char → List (List Char)
  | [] => [[]]
  | character :: rest =>
    if state = .plain ∧ (character = ',' ∨ character = ';') then [] :: splitChain .plain rest
    else (splitChain (state.next character) rest).modifyHead (character :: ·)

/-- No quoted run of a chain is open at its end. -/
def Closed (chain : String) : Prop :=
  Quoting.after .plain chain.toList ≠ .quoted

/-- Neither a backslash nor an apostrophe. -/
def Unquoting (character : Char) : Prop :=
  character ≠ '\\' ∧ character ≠ '\''

/-- Nothing that a reader of a chain takes for its own. -/
def Simple (character : Char) : Prop :=
  Unquoting character ∧ character ≠ ',' ∧ character ≠ ';'

variable {state : Quoting} {character : Char} {left right text : List Char}

namespace Quoting

@[simp] theorem after_nil : state.after [] = state := rfl

@[simp] theorem after_cons : state.after (character :: text) = (state.next character).after text :=
  rfl

@[simp] theorem after_append : state.after (left ++ right) = (state.after left).after right :=
  List.foldl_append ..

theorem next_unquoting (unquoting : Unquoting character) (stable : state ≠ escaped) :
    state.next character = state := by
  obtain ⟨notBackslash, notApostrophe⟩ := unquoting
  cases state with
  | plain => simp [next]
  | escaped => exact absurd rfl stable
  | quoted => simp [next]

theorem after_unquoting (unquoting : ∀ character ∈ text, Unquoting character)
    (stable : state ≠ escaped) : state.after text = state := by
  induction text with
  | nil => rfl
  | cons character rest ih =>
    rw [after_cons, next_unquoting (unquoting character (by simp)) stable]
    exact ih fun later member => unquoting later (by simp [member])

end Quoting

theorem splitChain_ne_nil : splitChain state text ≠ [] := by
  induction text generalizing state with
  | nil => simp [splitChain]
  | cons character rest ih =>
    unfold splitChain
    split
    · simp
    · cases split : splitChain (state.next character) rest with
      | nil => exact absurd split ih
      | cons first others => simp

theorem unbroken_cons (kept : ¬(state = .plain ∧ (character = ',' ∨ character = ';')))
    (later : splitChain (state.next character) text = [text]) :
    splitChain state (character :: text) = [character :: text] := by
  rw [splitChain, if_neg kept, later, List.modifyHead_cons]

theorem splitChain_cons_of_unbroken (unbroken : splitChain state (character :: text) =
    [character :: text]) :
    ¬(state = .plain ∧ (character = ',' ∨ character = ';')) ∧
      splitChain (state.next character) text = [text] := by
  unfold splitChain at unbroken
  split at unbroken
  · simp at unbroken
  · rename_i kept
    refine ⟨kept, ?_⟩
    cases split : splitChain (state.next character) text with
    | nil => exact absurd split splitChain_ne_nil
    | cons first others => simpa [split] using unbroken

/-- Text that is not split goes into the first filter of what follows. -/
theorem splitChain_append (unbroken : splitChain state left = [left]) :
    splitChain state (left ++ right) =
      (splitChain (state.after left) right).modifyHead (left ++ ·) := by
  induction left generalizing state with
  | nil => cases split : splitChain state right <;> simp [split]
  | cons character rest ih =>
    obtain ⟨kept, later⟩ := splitChain_cons_of_unbroken unbroken
    rw [List.cons_append, splitChain, if_neg kept, ih later, Quoting.after_cons,
      List.modifyHead_modifyHead]
    rfl

theorem unbroken_append (first : splitChain state left = [left])
    (second : splitChain (state.after left) right = [right]) :
    splitChain state (left ++ right) = [left ++ right] := by
  rw [splitChain_append first, second, List.modifyHead_cons]

/-- A comma outside of quotes ends the filters before it. -/
theorem splitChain_comma (plain : state.after left = .plain) :
    splitChain state (left ++ ',' :: right) = splitChain state left ++ splitChain .plain right := by
  induction left generalizing state with
  | nil => simp_all [splitChain]
  | cons character rest ih =>
    rw [List.cons_append, splitChain, splitChain]
    split
    · rename_i separator
      have later : Quoting.after .plain rest = .plain := by
        obtain ⟨rfl, rfl | rfl⟩ := separator <;> exact plain
      rw [ih later, List.cons_append]
    · rw [ih plain]
      cases split : splitChain (state.next character) rest with
      | nil => exact absurd split splitChain_ne_nil
      | cons first others => simp

theorem unbroken_simple (simple : ∀ character ∈ text, Simple character) :
    splitChain .plain text = [text] := by
  induction text with
  | nil => rfl
  | cons character rest ih =>
    obtain ⟨unquoting, notComma, notSemicolon⟩ := simple character (by simp)
    have later := ih fun other member => simple other (by simp [member])
    apply unbroken_cons (by simp [notComma, notSemicolon])
    rwa [Quoting.next_unquoting unquoting (by simp)]

theorem unbroken_quoted (inner : '\'' ∉ text) : splitChain .quoted text = [text] := by
  induction text with
  | nil => rfl
  | cons character rest ih =>
    simp only [List.mem_cons, not_or] at inner
    have stays : Quoting.next .quoted character = .quoted := by
      simp [Quoting.next, Ne.symm inner.1]
    apply unbroken_cons (by simp)
    rw [stays, ih inner.2]

end Montage
