import Mathlib.Data.List.Forall2
import Montage.Proofs.Filter.Caption

/-! How the chain of a scene is read. The filters before a caption end outside of quotes, if the
color of the overlay does not open any, so the caption alone decides whether the chain is read as it
is meant. -/

namespace Montage

/-- A text that leaves quotes as they are, open or not. -/
structure Neutral (text : String) : Prop where
  plain : Quoting.after .plain text.toList = .plain
  quoted : Quoting.after .quoted text.toList = .quoted

/-- A text that opens quotes where none are open, and ends open ones. -/
structure Turning (text : String) : Prop where
  plain : Quoting.after .plain text.toList = .quoted
  quoted : Quoting.after .quoted text.toList = .plain

variable {left right : String}

theorem Neutral.append (first : Neutral left) (second : Neutral right) :
    Neutral (left ++ right) := by
  constructor
  · rw [String.toList_append, Quoting.after_append, first.plain, second.plain]
  · rw [String.toList_append, Quoting.after_append, first.quoted, second.quoted]

theorem Turning.append_neutral (first : Turning left) (second : Neutral right) :
    Turning (left ++ right) := by
  constructor
  · rw [String.toList_append, Quoting.after_append, first.plain, second.quoted]
  · rw [String.toList_append, Quoting.after_append, first.quoted, second.plain]

/-- Quotes that are opened and ended again. -/
theorem Turning.append (first : Turning left) (second : Turning right) :
    Neutral (left ++ right) := by
  constructor
  · rw [String.toList_append, Quoting.after_append, first.plain, second.quoted]
  · rw [String.toList_append, Quoting.after_append, first.quoted, second.plain]

theorem SimpleText.neutral {text : String} (simple : SimpleText text) : Neutral text where
  plain := Quoting.after_unquoting simple.unquoting (by simp)
  quoted := Quoting.after_unquoting simple.unquoting (by simp)

theorem comma_neutral : Neutral "," :=
  ⟨by decide, by decide⟩

theorem fitFilter_neutral (width height : Int) : Neutral (fitFilter width height) := by
  have size : Neutral (wholeText width ++ ":" ++ wholeText height) :=
    (simpleText_append (simpleText_append (wholeText_simple width) (by decide))
      (wholeText_simple height)).neutral
  have scaled : Neutral "scale=" := ⟨by decide, by decide⟩
  have kept : Neutral ":force_original_aspect_ratio=decrease," :=
    ⟨by decide, by decide⟩
  have padded : Neutral "pad=" := ⟨by decide, by decide⟩
  have centered : Neutral ":(ow-iw)/2:(oh-ih)/2:black,setsar=1" :=
    ⟨by decide, by decide⟩
  exact ((((scaled.append size).append kept).append padded).append size).append centered

/-- The quotes around the zoom and around the two sides of the frame are ended. -/
theorem zoompan_neutral {zoom side tail : String} (zoomed : Neutral zoom) (moved : Neutral side)
    (ended : Neutral tail) :
    Neutral ("zoompan=z='" ++ zoom ++ "':" ++ side ++ ":" ++ "y='ih/2-(ih/zoom/2)'" ++ ":" ++
      tail) := by
  have opened : Turning "zoompan=z='" := ⟨by decide, by decide⟩
  have closed : Turning "':" := ⟨by decide, by decide⟩
  have colon : Neutral ":" := ⟨by decide, by decide⟩
  have centered : Neutral "y='ih/2-(ih/zoom/2)'" := ⟨by decide, by decide⟩
  exact ((((((opened.append_neutral zoomed).append closed).append moved).append colon).append
    centered).append colon).append ended

theorem motionFilter_neutral {motion : Motion} {duration : Number} {width height : Int}
    {filter : String} (written : motionFilter motion duration width height = .ok (some filter)) :
    Neutral filter := by
  obtain ⟨seconds, writtenSeconds, rest⟩ := Except.bind_eq_ok.mp written
  have rate := digitsOf_simple frameRate
  have tail : SimpleText ("d=1:fps=" ++ digitsOf frameRate ++ ":s=" ++ wholeText width ++ "x" ++
      wholeText height) :=
    simpleText_append (simpleText_append (simpleText_append (simpleText_append (simpleText_append
      (by decide) rate) (by decide)) (wholeText_simple width)) (by decide))
      (wholeText_simple height)
  have frames : Neutral ("(" ++ digitsOf frameRate ++ "*" ++ seconds ++ ")") :=
    (simpleText_append (simpleText_append (simpleText_append (simpleText_append
      (by decide) rate) (by decide)) (decimals_simple writtenSeconds))
      (by decide)).neutral
  have centered : Neutral "x='iw/2-(iw/zoom/2)'" := ⟨by decide, by decide⟩
  cases motion with
  | none => cases rest
  | zoomIn =>
    obtain rfl := Option.some.inj (Except.ok.inj rest)
    exact zoompan_neutral ⟨by decide, by decide⟩ centered tail.neutral
  | zoomOut =>
    obtain rfl := Option.some.inj (Except.ok.inj rest)
    exact zoompan_neutral ⟨by decide, by decide⟩ centered tail.neutral
  | panLeft =>
    obtain rfl := Option.some.inj (Except.ok.inj rest)
    have opened : Turning "x='max(iw/zoom-(iw/zoom)*on/" := ⟨by decide, by decide⟩
    have closed : Turning ",0)'" := ⟨by decide, by decide⟩
    exact zoompan_neutral ⟨by decide, by decide⟩
      ((opened.append_neutral frames).append closed) tail.neutral
  | panRight =>
    obtain rfl := Option.some.inj (Except.ok.inj rest)
    have opened : Turning "x='min((iw/zoom)*on/" := ⟨by decide, by decide⟩
    have closed : Turning ",iw/zoom)'" := ⟨by decide, by decide⟩
    exact zoompan_neutral ⟨by decide, by decide⟩
      ((opened.append_neutral frames).append closed) tail.neutral

theorem ColorGrade.filter_neutral {grade : ColorGrade Number} {filter : String}
    (written : grade.filter = .ok filter) : Neutral filter := by
  simp only [ColorGrade.filter, Except.bind_eq_ok, Except.pure_eq_ok] at written
  obtain ⟨brightness, writtenBrightness, contrast, writtenContrast, saturation, writtenSaturation,
    rfl⟩ := written
  exact (simpleText_append (simpleText_append (simpleText_append (simpleText_append
    (simpleText_append (by decide) (decimals_simple writtenBrightness)) (by decide))
    (decimals_simple writtenContrast)) (by decide))
    (decimals_simple writtenSaturation)).neutral

theorem ColorFilter.text_neutral {filter : ColorFilter} {text : String}
    (written : filter.text = some text) : Neutral text := by
  apply SimpleText.neutral
  cases filter <;> cases written <;> decide

/-- A text that leaves no character escaped after it. -/
def Settled (text : String) : Prop :=
  ∀ state : Quoting, state ≠ .escaped → state.after text.toList ≠ .escaped

theorem Neutral.settled {text : String} (neutral : Neutral text) : Settled text := by
  intro state stable
  cases state with
  | plain => simp [neutral.plain]
  | escaped => exact absurd rfl stable
  | quoted => simp [neutral.quoted]

theorem Settled.append (first : Settled left) (second : Settled right) :
    Settled (left ++ right) := by
  intro state stable
  rw [String.toList_append, Quoting.after_append]
  exact second _ (first state stable)

/-- A backslash at the end of a color escapes the sign that is written after the color. -/
theorem Overlay.filter_settled {overlay : Overlay Number} {filter : String}
    (written : overlay.filter = .ok filter) : Settled filter := by
  obtain ⟨opacity, _, rest⟩ := Except.bind_eq_ok.mp written
  obtain rfl := Except.ok.inj rest
  intro state _
  rw [String.toList_append, Quoting.after_append]
  generalize state.after _ = middle
  cases middle <;> decide

theorem Overlay.filter_neutral {overlay : Overlay Number} {filter : String}
    (simple : SimpleText overlay.color) (written : overlay.filter = .ok filter) :
    Neutral filter := by
  obtain ⟨opacity, writtenOpacity, rest⟩ := Except.bind_eq_ok.mp written
  obtain rfl := Except.ok.inj rest
  apply SimpleText.neutral
  refine simpleText_append (simpleText_append (simpleText_append (simpleText_append
    (by decide) ?_) (by decide)) (decimals_simple writtenOpacity))
    (by decide)
  split
  · rename_i digits shape
    apply simpleText_append (by decide)
    intro character member
    exact simple character (shape ▸ List.mem_cons_of_mem _ (by simpa using member))
  · exact simple

theorem motionFilters_neutral {scene : ScenePlan Number} {width height : Int}
    {filters : List String} (written : scene.motionFilters width height = .ok filters) :
    ∀ filter ∈ filters, Neutral filter := by
  unfold ScenePlan.motionFilters at written
  split at written
  · cases written; simp
  · cases written; simp
  · obtain ⟨found, moved, rfl⟩ := Except.map_eq_ok.mp written
    intro filter member
    rw [Option.mem_toList] at member
    exact motionFilter_neutral (member ▸ moved)

theorem gradeFilters_neutral {grade : Option (ColorGrade Number)} {filters : List String}
    (written : gradeFilters grade = .ok filters) : ∀ filter ∈ filters, Neutral filter := by
  cases grade with
  | none => cases written; simp
  | some grade =>
    obtain ⟨adjusts, _, rest⟩ := Except.bind_eq_ok.mp written
    cases adjusts with
    | false => cases rest; simp
    | true =>
      obtain ⟨filter, graded, rest⟩ := Except.bind_eq_ok.mp rest
      obtain rfl := Except.ok.inj rest
      simpa using ColorGrade.filter_neutral graded

theorem overlayFilters_of {P : String → Prop} {overlay : Option (Overlay Number)}
    {filters : List String}
    (each : ∀ laid ∈ overlay, ∀ filter, laid.filter = .ok filter → P filter)
    (written : overlayFilters overlay = .ok filters) : ∀ filter ∈ filters, P filter := by
  cases overlay with
  | none => cases written; simp
  | some overlay =>
    simp only [overlayFilters] at written
    split at written
    · obtain ⟨filter, laid, rfl⟩ := Except.map_eq_ok.mp written
      simpa using each overlay rfl filter laid
    · cases written; simp

/-- What holds of neutral filters and of the filter of the overlay holds of all filters of a
treatment. -/
theorem editFilters_of {P : String → Prop} {edit : Option (VisualEdit Number)}
    {filters : List String} (neutral : ∀ filter, Neutral filter → P filter)
    (each : ∀ applied ∈ edit, ∀ laid ∈ applied.overlay, ∀ filter, laid.filter = .ok filter →
      P filter)
    (written : editFilters edit = .ok filters) : ∀ filter ∈ filters, P filter := by
  cases edit with
  | none => cases written; simp
  | some edit =>
    simp only [editFilters, VisualEdit.filters, Except.bind_eq_ok, Except.pure_eq_ok] at written
    obtain ⟨graded, writtenGrade, overlaid, writtenOverlay, rfl⟩ := written
    intro filter member
    simp only [List.mem_append, Option.mem_toList] at member
    rcases member with (preset | grade) | overlay
    · exact neutral filter (ColorFilter.text_neutral preset)
    · exact neutral filter (gradeFilters_neutral writtenGrade filter grade)
    · exact overlayFilters_of (each edit rfl) writtenOverlay filter overlay

theorem intercalate_of {P : String → Prop} (empty : P "") (comma : P ",")
    (append : ∀ left right, P left → P right → P (left ++ right)) {filters : List String}
    (each : ∀ filter ∈ filters, P filter) : P (String.intercalate "," filters) := by
  induction filters with
  | nil => simpa using empty
  | cons filter rest ih =>
    have later := ih fun other member => each other (by simp [member])
    by_cases last : rest = []
    · simpa [last] using each filter (by simp)
    · rw [String.intercalate_cons_of_ne_nil last]
      exact append _ _ (append _ _ (each filter (by simp)) comma) later

variable {scene : ScenePlan Number} {caption : Caption Number} {width height : Int}
  {before chain filter : String}

/-- What holds of neutral filters and of the filter of the overlay, and goes over to texts joined by
commas, holds of a chain without a caption. -/
theorem chain_of {P : String → Prop} (empty : P "") (comma : P ",")
    (append : ∀ left right, P left → P right → P (left ++ right))
    (neutral : ∀ filter, Neutral filter → P filter)
    (each : ∀ edit ∈ scene.visualEdit, ∀ laid ∈ edit.overlay, ∀ filter,
      laid.filter = .ok filter → P filter)
    (bare : scene.caption = none) (written : scene.chain width height = .ok chain) : P chain := by
  simp only [ScenePlan.chain, ScenePlan.filters, bare, captionFilters, Except.bind_eq_ok,
    Except.pure_eq_ok] at written
  obtain ⟨_, ⟨moved, writtenMotion, edited, writtenEdit, captioned, none, rfl⟩, rfl⟩ := written
  obtain rfl := Except.ok.inj none
  apply intercalate_of empty comma append
  intro filter member
  simp only [List.append_nil, List.mem_cons, List.mem_append] at member
  rcases member with rfl | moving | editing
  · exact neutral _ (fitFilter_neutral width height)
  · exact neutral _ (motionFilters_neutral writtenMotion filter moving)
  · exact editFilters_of neutral each writtenEdit filter editing

theorem chain_settled (bare : scene.caption = none)
    (written : scene.chain width height = .ok chain) : Settled chain :=
  chain_of (fun _ stable => stable) comma_neutral.settled
    (fun _ _ => Settled.append) (fun _ neutral => neutral.settled)
    (fun _ _ _ _ _ laid => Overlay.filter_settled laid) bare written

/-- Without a caption, and with a color of the overlay that has nothing special in it, no quoted run
is left open. -/
theorem chain_closed (bare : scene.caption = none)
    (colored : ∀ edit ∈ scene.visualEdit, ∀ laid ∈ edit.overlay, SimpleText laid.color)
    (written : scene.chain width height = .ok chain) : Closed chain := by
  have neutral : Neutral chain :=
    chain_of ⟨rfl, rfl⟩ comma_neutral
      (fun _ _ => Neutral.append) (fun _ neutral => neutral)
      (fun edit applied laid member _ written =>
        Overlay.filter_neutral (colored edit applied laid member) written) bare written
  simp [Closed, neutral.plain]

/-- The filter of a caption is joined to the chain without it. -/
theorem chain_caption_iff (captioned : scene.caption = some caption) :
    scene.chain width height = .ok chain ↔
      ∃ before filter, { scene with caption := none }.chain width height = .ok before ∧
        caption.filter width height = .ok filter ∧ chain = before ++ "," ++ filter := by
  have joined (moved edited : List String) (filter : String) :
      String.intercalate "," (fitFilter width height :: (moved ++ edited ++ [filter])) =
        String.intercalate "," (fitFilter width height :: (moved ++ edited ++ [])) ++ "," ++
          filter := by
    rw [← List.cons_append, String.intercalate_append_of_ne_nil (by simp) (by simp),
      List.append_nil, String.intercalate_singleton]
  have still : { scene with caption := none }.motionFilters width height =
      scene.motionFilters width height := rfl
  simp only [ScenePlan.chain, ScenePlan.filters, captioned, captionFilters, Except.bind_eq_ok,
    Except.pure_eq_ok, Except.map_eq_ok, still]
  constructor
  · rintro ⟨_, ⟨moved, writtenMotion, edited, writtenEdit, _, ⟨filter, written, rfl⟩, rfl⟩, rfl⟩
    exact ⟨_, filter, ⟨_, ⟨moved, writtenMotion, edited, writtenEdit, [], rfl, rfl⟩, rfl⟩, written,
      joined moved edited filter⟩
  · rintro ⟨_, filter, ⟨_, ⟨moved, writtenMotion, edited, writtenEdit, _, none, rfl⟩, rfl⟩, written,
      rfl⟩
    obtain rfl := Except.ok.inj none
    exact ⟨_, ⟨moved, writtenMotion, edited, writtenEdit, _, ⟨filter, written, rfl⟩, rfl⟩,
      joined moved edited filter⟩

/-- A chain has as many filters as another one, the same but for those that write a text, and leaves
no quoted run open. -/
structure ReadsLike (chain other : String) : Prop where
  filters : List.Forall₂ (fun found wanted => found = wanted ∨ WritesText found ∧ WritesText wanted)
    (splitChain .plain chain.toList) (splitChain .plain other.toList)
  closed : Closed chain

theorem after_chain (settled : Settled before) (written : caption.filter width height = .ok filter) :
    Closed (before ++ "," ++ filter) ↔ Closed before ∧ '\'' ∉ caption.text.toList := by
  have comma : ",".toList = [','] := by decide
  simp only [Closed, String.toList_append, comma, Quoting.after_append, Quoting.after_cons,
    Quoting.after_nil]
  have stable := settled .plain (by simp)
  cases state : Quoting.plain.after before.toList with
  | plain =>
    rw [show Quoting.plain.next ',' = .plain from rfl, Caption.after_filter_plain written]
    split <;> simp_all
  | escaped => exact absurd state stable
  | quoted => simp [Quoting.next, Caption.after_filter_quoted written]

/-- The caption of a scene cannot be told from a harmless one by the filters of the chain, and leaves
no quoted run open, exactly when it has no apostrophe and the chain before it leaves none open. -/
theorem caption_reads_iff (captioned : scene.caption = some caption)
    (written : scene.chain width height = .ok chain) :
    ∃ before plain, { scene with caption := none }.chain width height = .ok before ∧
      { scene with caption := some { caption with text := "x" } }.chain width height = .ok plain ∧
      (ReadsLike chain plain ↔ '\'' ∉ caption.text.toList ∧ Closed before) := by
  obtain ⟨before, filter, writtenBefore, writtenFilter, rfl⟩ :=
    (chain_caption_iff captioned).mp written
  obtain ⟨settings, writtenSettings, _⟩ := Except.bind_eq_ok.mp writtenFilter
  obtain ⟨plain, writtenPlain⟩ :
      ∃ plain, { caption with text := "x" }.filter width height = .ok plain := by
    simp only [Caption.filter, Except.bind_eq_ok, Except.pure_eq_ok]
    exact ⟨_, settings, writtenSettings, rfl⟩
  have settled := chain_settled rfl writtenBefore
  refine ⟨before, before ++ "," ++ plain, writtenBefore,
    (chain_caption_iff rfl).mpr ⟨before, plain, writtenBefore, writtenPlain, rfl⟩, ?_⟩
  constructor
  · intro reads
    exact ((after_chain settled writtenFilter).mp reads.closed).symm
  · rintro ⟨free, closed⟩
    refine ⟨?_, (after_chain settled writtenFilter).mpr ⟨closed, free⟩⟩
    have outside : Quoting.plain.after before.toList = .plain := by
      have stable := settled .plain (by simp)
      cases state : Quoting.plain.after before.toList with
      | plain => rfl
      | escaped => exact absurd state stable
      | quoted => exact absurd state closed
    have comma : ",".toList = [','] := by decide
    simp only [String.toList_append, comma, List.append_assoc, List.singleton_append,
      splitChain_comma outside, Caption.filter_unbroken writtenFilter free,
      Caption.filter_unbroken writtenPlain (show '\'' ∉ "x".toList by decide)]
    exact List.rel_append (List.forall₂_same.mpr fun _ _ => .inl rfl)
      (.cons (.inr ⟨Caption.filter_writes writtenFilter, Caption.filter_writes writtenPlain⟩) .nil)

/-- A still image under a caption. -/
def captionedScene (text : String) : ScenePlan Number where
  asset := "a"
  kind := .image
  duration := .int 2
  clipStart := .int 0
  motion := .none
  caption := some ⟨text, .int 0, .int 1, .bottom⟩
  transition := .cut
  transitionLength := .int 0
  visualEdit := none

theorem captionedScene_written (text : String) :
    ∃ chain, (captionedScene text).chain 1920 1080 = .ok chain := by
  have start : decimals (Number.int 0) = .ok "0.000" := by decide +kernel
  have stop : decimals (Number.int 1) = .ok "1.000" := by decide +kernel
  simp [captionedScene, ScenePlan.chain, ScenePlan.filters, ScenePlan.motionFilters, editFilters,
    captionFilters, Caption.filter, Caption.settings, start, stop]
  exact ⟨_, rfl⟩

theorem captionedScene_reads_iff :
    ∃ chain before plain, (captionedScene "it's").chain 1920 1080 = .ok chain ∧
      { captionedScene "it's" with caption := none }.chain 1920 1080 = .ok before ∧
      (captionedScene "x").chain 1920 1080 = .ok plain ∧
      (ReadsLike chain plain ↔ '\'' ∉ "it's".toList ∧ Closed before) := by
  obtain ⟨chain, written⟩ := captionedScene_written "it's"
  obtain ⟨before, plain, writtenBefore, writtenPlain, reads⟩ := caption_reads_iff rfl written
  exact ⟨chain, before, plain, written, writtenBefore, writtenPlain, reads⟩

/-- An apostrophe in a caption leaves a quoted run open, where the text `x` leaves none. -/
theorem apostrophe_opens_chain :
    ∃ chain plain, (captionedScene "it's").chain 1920 1080 = .ok chain ∧
      (captionedScene "x").chain 1920 1080 = .ok plain ∧
      ¬Closed chain ∧ Closed plain ∧ ¬ReadsLike chain plain := by
  obtain ⟨chain, written⟩ := captionedScene_written "it's"
  obtain ⟨plain, writtenPlain⟩ := captionedScene_written "x"
  obtain ⟨before, filter, writtenBefore, writtenFilter, rfl⟩ := (chain_caption_iff rfl).mp written
  obtain ⟨_, other, writtenSame, writtenOther, rfl⟩ := (chain_caption_iff rfl).mp writtenPlain
  obtain rfl := Except.ok.inj (writtenBefore.symm.trans writtenSame)
  have settled := chain_settled rfl writtenBefore
  have closed := chain_closed rfl (by simp [captionedScene]) writtenBefore
  have opened : ¬Closed (before ++ "," ++ filter) := by
    rw [after_chain settled writtenFilter]
    exact fun both => both.2 (by decide)
  exact ⟨_, _, written, writtenPlain, opened,
    (after_chain settled writtenOther).mpr ⟨closed, by decide⟩, fun reads => opened reads.closed⟩

end Montage
