import Mathlib.Data.List.Forall2
import Mathlib.Data.List.Nodup
import Montage.Proofs.Filter.Caption

/-! The graphs that join clips, as a reader of their text finds them: the labels that each filter
takes in and puts out, and how the clips flow through them. -/

namespace Montage

section Reading

/-- A text that a reader of a graph takes nothing in for its own. -/
def Legible (text : String) : Prop :=
  ∀ character ∈ text.toList, Simple character ∧ character ≠ '[' ∧ character ≠ ']'

instance : DecidablePred Legible := fun text =>
  List.decidableBAll (fun character => Simple character ∧ character ≠ '[' ∧ character ≠ ']')
    text.toList

/-- The text before the first bracket, and after it the labels in brackets, each with the text that
follows it. -/
def readLabels : List Char → List Char × List (List Char × List Char)
  | [] => ([], [])
  | character :: rest =>
    let (before, labels) := readLabels rest
    if character = '[' then
      ([], (before.takeWhile (· ≠ ']'), (before.dropWhile (· ≠ ']')).drop 1) :: labels)
    else (character :: before, labels)

/-- The filter of a text: the labels of its inputs, its body, and the label of its output. -/
def GraphFilter.read? (text : List Char) : Option GraphFilter :=
  match readLabels text with
  | ([], labels) =>
    match labels.reverse with
    | (output, []) :: (input, body) :: earlier =>
      if earlier.all (·.2.isEmpty) then
        some {
          inputs := ((input, body) :: earlier).reverse.map fun label => String.ofList label.1
          body := String.ofList body
          output := String.ofList output }
      else none
    | _ => none
  | _ => none

/-- The filters of the text of a graph. -/
def readFilters? (text : String) : Option (List GraphFilter) :=
  (splitChain .plain text.toList).mapM GraphFilter.read?

/-- The parts of a filter can be told apart in its text. -/
structure GraphFilter.Readable (filter : GraphFilter) : Prop where
  fed : filter.inputs ≠ []
  inputs : ∀ input ∈ filter.inputs, Legible input
  body : Legible filter.body
  output : Legible filter.output

theorem Legible.append {left right : String} (first : Legible left) (second : Legible right) :
    Legible (left ++ right) := by
  intro character member
  rw [String.toList_append, List.mem_append] at member
  exact member.elim (first character) (second character)

theorem Numeral.legible {text : String} (numeral : Numeral text) : Legible text := by
  intro character member
  refine ⟨numeral.simple character member, ?_⟩
  rcases numeral character member with digit | other
  · constructor <;> rintro rfl <;> cases digit
  · have known : ['-', '.', 'i', 'n', 'f', 'a'].all
        (fun mark => decide (mark ≠ '[' ∧ mark ≠ ']')) = true := by
      decide
    exact of_decide_eq_true (List.all_eq_true.mp known character other)

theorem readLabels_text {text : String} (legible : Legible text) (rest : List Char) :
    readLabels (text.toList ++ rest) =
      (text.toList ++ (readLabels rest).1, (readLabels rest).2) := by
  unfold Legible at legible
  generalize text.toList = characters at legible ⊢
  induction characters with
  | nil => rfl
  | cons character others ih =>
    obtain ⟨⟨_, notOpen, _⟩, later⟩ := List.forall_mem_cons.mp legible
    rw [List.cons_append, readLabels, ih later]
    dsimp only
    rw [if_neg notOpen]
    rfl

theorem toList_bracketed (label : String) :
    (bracketed label).toList = '[' :: (label.toList ++ [']']) := by
  rw [bracketed, String.toList_append, String.toList_append]
  rfl

theorem readLabels_bracketed {label : String} (legible : Legible label) (rest : List Char) :
    readLabels ((bracketed label).toList ++ rest) =
      ([], (label.toList, (readLabels rest).1) :: (readLabels rest).2) := by
  have inner : ∀ character ∈ label.toList, decide (character ≠ ']') = true := by
    intro character member
    simpa using (legible character member).2.2
  have closing : readLabels (']' :: rest) = (']' :: (readLabels rest).1, (readLabels rest).2) := by
    rw [readLabels]
    rfl
  rw [toList_bracketed, List.cons_append, List.append_assoc, List.singleton_append, readLabels,
    readLabels_text legible, closing]
  dsimp only
  rw [if_pos rfl, List.takeWhile_append_of_pos inner, List.dropWhile_append_of_pos inner]
  simp

/-- Induction on the labels before the last one: nothing stands between them. -/
theorem readLabels_inputs {inputs : List String} {last : String}
    (legible : ∀ input ∈ inputs, Legible input) (lastLegible : Legible last) (rest : List Char) :
    readLabels ((String.join (inputs.map bracketed)).toList ++ ((bracketed last).toList ++ rest)) =
      ([], inputs.map (fun input => (input.toList, [])) ++
        (last.toList, (readLabels rest).1) :: (readLabels rest).2) := by
  induction inputs with
  | nil => exact readLabels_bracketed lastLegible rest
  | cons input others ih =>
    obtain ⟨here, later⟩ := List.forall_mem_cons.mp legible
    rw [List.map_cons, String.join_cons, String.toList_append, List.append_assoc,
      readLabels_bracketed here, ih later]
    rfl

theorem GraphFilter.Readable.read?_text {filter : GraphFilter} (legible : filter.Readable) :
    GraphFilter.read? filter.text.toList = some filter := by
  obtain ⟨inputs, body, output⟩ := filter
  rcases List.eq_nil_or_concat' inputs with none | ⟨earlier, last, rfl⟩
  · exact absurd none legible.fed
  · obtain ⟨earlierLegible, lastLegible⟩ := List.forall_mem_append.mp legible.inputs
    have lastLegible := List.forall_mem_singleton.mp lastLegible
    have ending : readLabels (body.toList ++ (bracketed output).toList) =
        (body.toList, [(output.toList, [])]) := by
      have closing := readLabels_bracketed legible.output []
      rw [List.append_nil] at closing
      rw [readLabels_text legible.body, closing, readLabels, List.append_nil]
    have text : (GraphFilter.text ⟨earlier ++ [last], body, output⟩).toList =
        (String.join (earlier.map bracketed)).toList ++
          ((bracketed last).toList ++ (body.toList ++ (bracketed output).toList)) := by
      simp [GraphFilter.text, String.join_append]
    have between : (earlier.map fun input => (input.toList, ([] : List Char))).reverse.all
        (·.2.isEmpty) = true := by
      simp
    rw [GraphFilter.read?, text, readLabels_inputs earlierLegible lastLegible, ending]
    dsimp only
    rw [List.reverse_append, List.reverse_cons, List.reverse_singleton, List.singleton_append,
      List.cons_append, List.singleton_append]
    dsimp only
    rw [between, if_pos rfl]
    simp [Function.comp_def]

theorem GraphFilter.Readable.text_simple {filter : GraphFilter} (legible : filter.Readable) :
    ∀ character ∈ filter.text.toList, Simple character := by
  have label {text : String} (readable : Legible text) : SimpleText (bracketed text) :=
    simpleText_append (simpleText_append (by decide)
      fun character member => (readable character member).1) (by decide)
  have joined : SimpleText (String.join (filter.inputs.map bracketed)) := by
    have inputs := legible.inputs
    generalize filter.inputs = labels at inputs ⊢
    induction labels with
    | nil => exact List.forall_mem_nil _
    | cons input others ih =>
      obtain ⟨here, later⟩ := List.forall_mem_cons.mp inputs
      rw [List.map_cons, String.join_cons]
      exact simpleText_append (label here) (ih later)
  have body : SimpleText filter.body :=
    fun character member => (legible.body character member).1
  exact simpleText_append (simpleText_append joined body) (label legible.output)

/-- Induction on the filters: a semicolon ends each but the last. -/
theorem splitChain_graph {filters : List GraphFilter} (several : filters ≠ [])
    (legible : ∀ filter ∈ filters, filter.Readable) :
    splitChain .plain (String.intercalate ";" (filters.map GraphFilter.text)).toList =
      filters.map fun filter => filter.text.toList := by
  induction filters with
  | nil => exact absurd rfl several
  | cons filter rest ih =>
    obtain ⟨here, later⟩ := List.forall_mem_cons.mp legible
    have whole := unbroken_simple here.text_simple
    cases rest with
    | nil => simpa using whole
    | cons second more =>
      have closed : Quoting.after .plain filter.text.toList = .plain :=
        Quoting.after_unquoting (fun character member => (here.text_simple character member).1)
          (by decide)
      have rest := ih (List.cons_ne_nil second more) later
      have semicolon (text : List Char) :
          splitChain .plain (";".toList ++ text) = [] :: splitChain .plain text := by
        show splitChain .plain (';' :: text) = _
        rw [splitChain, if_pos ⟨rfl, .inr rfl⟩]
      rw [List.map_cons] at rest
      rw [List.map_cons, List.map_cons, String.intercalate_cons_cons, String.toList_append,
        String.toList_append, List.append_assoc, splitChain_append whole, closed, semicolon, rest]
      simp

/-- The text of a graph reads as its filters. -/
theorem readFilters?_text {graph : FilterGraph} (several : graph.filters ≠ [])
    (legible : ∀ filter ∈ graph.filters, filter.Readable) :
    readFilters? graph.text = some graph.filters := by
  rw [readFilters?, FilterGraph.text, splitChain_graph several legible]
  generalize graph.filters = filters at legible ⊢
  induction filters with
  | nil => rfl
  | cons filter rest ih =>
    obtain ⟨here, later⟩ := List.forall_mem_cons.mp legible
    rw [List.map_cons, List.mapM_cons, here.read?_text, ih later]
    rfl

end Reading

namespace FilterGraph

/-- The labels that the filters of a graph take in, in the order of the filters. -/
def consumed (graph : FilterGraph) : List String := graph.filters.flatMap GraphFilter.inputs

/-- The labels that the filters of a graph put out. -/
def defined (graph : FilterGraph) : List String := graph.filters.map GraphFilter.output

/-- The clips that flow into a label, in their order. A label that no filter puts out is that of a
clip. -/
inductive Joins (graph : FilterGraph) : String → List Nat → Prop where
  | clip {index : Nat} (free : clipLabel index ∉ graph.defined) :
      Joins graph (clipLabel index) [index]
  | filter {filter : GraphFilter} {parts : List (List Nat)} (member : filter ∈ graph.filters)
      (flows : List.Forall₂ (Joins graph) filter.inputs parts) :
      Joins graph filter.output parts.flatten

/-- A graph joins this many clips: each clip is taken in once, in their order, each label is put out
once, and all but that of the whole are taken in once, by a later filter. -/
structure Wired (graph : FilterGraph) (count : Nat) : Prop where
  clips : graph.consumed.filter (· ∉ graph.defined) = (List.range count).map clipLabel
  once : graph.consumed.Nodup
  defined : graph.defined.Nodup
  later : ∀ position filter, graph.filters[position]? = some filter →
    filter.output ≠ graph.output →
      filter.output ∈ (graph.filters.drop (position + 1)).flatMap GraphFilter.inputs
  mapped : graph.output ∈ graph.defined ∧ graph.output ∉ graph.consumed
  joined : graph.Joins graph.output (List.range count)

/-- A graph blends this many clips one after the other, each into all that come before it. -/
structure Chained (graph : FilterGraph) (count : Nat) : Prop where
  length : graph.filters.length + 1 = count
  blends : ∀ position filter, graph.filters[position]? = some filter →
    (∃ settings, filter.body = "xfade=" ++ settings) ∧
      ∃ earlier, filter.inputs = [earlier, clipLabel (position + 1)] ∧
        graph.Joins earlier (List.range (position + 1)) ∧
        graph.Joins filter.output (List.range (position + 2))

end FilterGraph

section Labels

theorem clipLabel_injective : Function.Injective clipLabel := fun _ _ same =>
  digitsOf_injective (String.append_left_inj _ |>.mp same)

/-- The label of a clip begins with a digit. -/
theorem clipLabel_ne {index : Nat} {label : String} {mark : Char} {rest : List Char}
    (text : label.toList = mark :: rest) (other : mark.isDigit = false) :
    clipLabel index ≠ label := by
  rintro rfl
  obtain ⟨digit, more, digits, isDigit⟩ := toList_digitsOf_cons index
  rw [clipLabel, String.toList_append, digits, List.cons_append] at text
  obtain ⟨rfl, _⟩ := List.cons.inj text
  rw [isDigit] at other
  cases other

theorem toList_joinedLabel_succ (index : Nat) :
    (joinedLabel (index + 1)).toList = 'x' :: 'f' :: (digitsOf (index + 1)).toList :=
  String.toList_append ..

theorem clipLabel_eq_joinedLabel_iff {index position : Nat} :
    clipLabel index = joinedLabel position ↔ index = 0 ∧ position = 0 := by
  cases position with
  | zero => simp [joinedLabel, clipLabel_injective.eq_iff]
  | succ position => simp [clipLabel_ne (toList_joinedLabel_succ position) (by decide)]

theorem joinedLabel_injective : Function.Injective joinedLabel := by
  intro left right same
  cases left with
  | zero => exact (clipLabel_eq_joinedLabel_iff.mp same).2.symm
  | succ left =>
    cases right with
    | zero => exact (clipLabel_eq_joinedLabel_iff.mp same.symm).2
    | succ right => exact digitsOf_injective (String.append_right_inj _ |>.mp same)

theorem clipLabel_legible (index : Nat) : Legible (clipLabel index) :=
  (digitsOf_numeral index).legible.append (by decide)

theorem joinedLabel_legible (index : Nat) : Legible (joinedLabel index) := by
  cases index with
  | zero => exact clipLabel_legible 0
  | succ index => exact Legible.append (by decide) (digitsOf_numeral _).legible

end Labels

section Concat

variable {count : Nat}

theorem concatGraph_readable (some : 0 < count) :
    ∀ filter ∈ (concatGraph count).filters, filter.Readable := by
  intro filter member
  obtain rfl := List.mem_singleton.mp member
  exact {
    fed := by simpa using Nat.ne_of_gt some
    inputs := by
      intro input taken
      obtain ⟨index, _, rfl⟩ := List.mem_map.mp taken
      exact clipLabel_legible index
    body := Legible.append (Legible.append (by decide) (wholeText_numeral _).legible)
      (by decide)
    output := show Legible "v" by decide }

/-- All clips go through one filter. -/
theorem concatGraph_wired : (concatGraph count).Wired count := by
  have consumed : (concatGraph count).consumed = (List.range count).map clipLabel := by
    simp [FilterGraph.consumed, concatGraph]
  have defined : (concatGraph count).defined = ["v"] := rfl
  have free (index : Nat) : clipLabel index ∉ (concatGraph count).defined := by
    rw [defined, List.mem_singleton]
    exact clipLabel_ne rfl (by decide)
  have outside : ∀ label ∈ (concatGraph count).consumed, label ∉ (concatGraph count).defined := by
    rw [consumed]
    intro label member
    obtain ⟨index, _, rfl⟩ := List.mem_map.mp member
    exact free index
  have flows : List.Forall₂ (concatGraph count).Joins ((List.range count).map clipLabel)
      ((List.range count).map fun index => [index]) := by
    rw [List.forall₂_map_left_iff, List.forall₂_map_right_iff, List.forall₂_same]
    exact fun index _ => .clip (free index)
  have parts : ((List.range count).map fun index => [index]).flatten = List.range count := by
    simp [← List.flatMap_def]
  have mapped : (concatGraph count).output ∈ (concatGraph count).defined := by
    rw [defined]
    exact List.mem_singleton_self _
  exact {
    clips := by
      rw [← consumed, List.filter_eq_self]
      simpa using outside
    once := consumed ▸ List.nodup_range.map clipLabel_injective
    defined := defined ▸ List.nodup_singleton _
    later := by
      intro position filter found differ
      have member : filter ∈ (concatGraph count).filters := List.mem_of_getElem? found
      obtain rfl := List.mem_singleton.mp member
      exact absurd rfl differ
    mapped := ⟨mapped, fun member => outside _ member mapped⟩
    joined := by
      have joined :=
        @FilterGraph.Joins.filter (concatGraph count) _ _ (List.mem_singleton_self _) flows
      rwa [parts] at joined }

end Concat

section Crossfades

/-- A filter that blends the clip at a position into the clips before it. -/
structure GraphFilter.Blends (index : Nat) (filter : GraphFilter) : Prop where
  inputs : filter.inputs = [joinedLabel (index - 1), clipLabel index]
  output : filter.output = joinedLabel index
  body : ∃ settings, filter.body = "xfade=" ++ settings
  legible : Legible filter.body

/-- Induction on the blends: each position has its filter. -/
theorem blendFilters_blends {index : Nat} {blends : List (Blend Number)}
    {filters : List GraphFilter} (written : blendFilters index blends = .ok filters) :
    List.Forall₂ GraphFilter.Blends (List.range' index blends.length) filters := by
  induction blends generalizing index filters with
  | nil =>
    obtain rfl := Except.ok.inj written
    exact .nil
  | cons blend rest ih =>
    obtain ⟨filter, here, written⟩ := Except.bind_eq_ok.mp written
    obtain ⟨others, later, same⟩ := Except.bind_eq_ok.mp written
    obtain rfl := Except.pure_eq_ok.mp same
    obtain ⟨length, writtenLength, here⟩ := Except.bind_eq_ok.mp here
    obtain ⟨offset, writtenOffset, same⟩ := Except.bind_eq_ok.mp here
    obtain rfl := Except.pure_eq_ok.mp same
    refine .cons ?_ (ih later)
    exact {
      inputs := rfl
      output := rfl
      body := ⟨"transition=fade:duration=" ++ length ++ ":offset=" ++ offset, by
        simp [← String.append_assoc]⟩
      legible := ((Legible.append (by decide)
        (decimals_numeral writtenLength).legible).append (by decide)).append
        (decimals_numeral writtenOffset).legible }

theorem blendsAfter_length {joined : Number} {scenes : List (ScenePlan Number)}
    {blends : List (Blend Number)} (found : blendsAfter joined scenes = .ok blends) :
    blends.length = scenes.length := by
  induction scenes generalizing joined blends with
  | nil =>
    obtain rfl := Except.ok.inj found
    rfl
  | cons scene rest ih =>
    simp only [blendsAfter, Except.bind_eq_ok, Except.pure_eq_ok] at found
    obtain ⟨_, _, _, _, later, found, rfl⟩ := found
    exact congrArg (· + 1) (ih found)

/-- A graph of filters for the positions after the first. -/
structure FilterGraph.Crossfades (graph : FilterGraph) (count : Nat) : Prop where
  filters : List.Forall₂ GraphFilter.Blends (List.range' 1 count) graph.filters
  output : graph.output = joinedLabel count

theorem crossfadeGraph_crossfades {scenes : List (ScenePlan Number)} {graph : FilterGraph}
    {blends : List (Blend Number)} (drawn : crossfadeGraph scenes = .ok (graph, blends)) :
    graph.Crossfades (scenes.length - 1) := by
  obtain ⟨found, blended, rest⟩ := Except.bind_eq_ok.mp drawn
  obtain ⟨filters, written, same⟩ := Except.bind_eq_ok.mp rest
  obtain ⟨rfl, rfl⟩ := Prod.mk.inj (Except.pure_eq_ok.mp same)
  cases scenes with
  | nil => cases blended
  | cons first rest =>
    have length : found.length = rest.length := blendsAfter_length blended
    rw [List.length_cons, Nat.add_sub_cancel, ← length]
    exact ⟨blendFilters_blends written, rfl⟩

namespace FilterGraph.Crossfades

variable {graph : FilterGraph} {count : Nat} (crossfades : graph.Crossfades count)

include crossfades

theorem length_eq : graph.filters.length = count := by
  rw [← crossfades.filters.length_eq, List.length_range']

theorem blends_at {position : Nat} {filter : GraphFilter}
    (found : graph.filters[position]? = some filter) : filter.Blends (position + 1) := by
  obtain ⟨inside, rfl⟩ := List.getElem?_eq_some_iff.mp found
  have blends := (List.forall₂_iff_get.mp crossfades.filters).2 position
    (by rwa [crossfades.filters.length_eq]) inside
  simpa [Nat.add_comm] using blends

theorem defined_eq : graph.defined = (List.range' 1 count).map joinedLabel := by
  have filters := crossfades.filters
  unfold FilterGraph.defined
  generalize List.range' 1 count = positions, graph.filters = drawn at filters ⊢
  induction filters with
  | nil => rfl
  | cons here _ ih => rw [List.map_cons, List.map_cons, here.output, ih]

theorem consumed_eq : graph.consumed =
    (List.range' 1 count).flatMap fun index => [joinedLabel (index - 1), clipLabel index] := by
  have filters := crossfades.filters
  unfold FilterGraph.consumed
  generalize List.range' 1 count = positions, graph.filters = drawn at filters ⊢
  induction filters with
  | nil => rfl
  | cons here _ ih => rw [List.flatMap_cons, List.flatMap_cons, here.inputs, ih]

theorem clip_free (index : Nat) : clipLabel index ∉ graph.defined := by
  rw [crossfades.defined_eq]
  intro member
  obtain ⟨position, inside, same⟩ := List.mem_map.mp member
  have first := (clipLabel_eq_joinedLabel_iff.mp same.symm).2
  rw [List.mem_range'_1] at inside
  omega

/-- Induction on the position: each filter adds its clip to those of the filter before. -/
theorem joins {position : Nat} (inside : position ≤ count) :
    graph.Joins (joinedLabel position) (List.range (position + 1)) := by
  induction position with
  | zero => exact .clip (crossfades.clip_free 0)
  | succ position ih =>
    have there : position < graph.filters.length := by
      rw [crossfades.length_eq]
      exact inside
    have found := List.getElem?_eq_getElem there
    generalize graph.filters[position] = filter at found
    have blends := crossfades.blends_at found
    have flows : List.Forall₂ graph.Joins filter.inputs
        [List.range (position + 1), [position + 1]] := by
      rw [blends.inputs]
      exact .cons (ih (by omega)) (.cons (.clip (crossfades.clip_free _)) .nil)
    have joined := FilterGraph.Joins.filter (List.mem_of_getElem? found) flows
    rw [blends.output] at joined
    rwa [List.range_succ, ← List.append_nil [position + 1]]

theorem chained : graph.Chained (count + 1) where
  length := by rw [crossfades.length_eq]
  blends := by
    intro position filter found
    have blends := crossfades.blends_at found
    have inside : position < count := by
      rw [← crossfades.length_eq]
      exact (List.getElem?_eq_some_iff.mp found).1
    refine ⟨blends.body, joinedLabel position, blends.inputs, crossfades.joins (by omega), ?_⟩
    rw [blends.output]
    exact crossfades.joins inside

theorem consumed_nodup : graph.consumed.Nodup := by
  rw [crossfades.consumed_eq, List.nodup_flatMap]
  constructor
  · intro index inside
    rw [List.mem_range'_1] at inside
    have apart : joinedLabel (index - 1) ≠ clipLabel index := by
      intro same
      have := (clipLabel_eq_joinedLabel_iff.mp same.symm).1
      omega
    simpa using apart
  · refine (List.pairwise_lt_range' 1).imp_of_mem fun {left right} first second below => ?_
    rw [List.mem_range'_1] at first second
    -- Equal labels are of equal positions, or both of the first clip.
    have joined : joinedLabel (left - 1) ≠ joinedLabel (right - 1) := fun same => by
      have := joinedLabel_injective same
      omega
    have mixed : clipLabel right ≠ joinedLabel (left - 1) := fun same => by
      have := (clipLabel_eq_joinedLabel_iff.mp same).1
      omega
    have reversed : clipLabel left ≠ joinedLabel (right - 1) := fun same => by
      have := (clipLabel_eq_joinedLabel_iff.mp same).1
      omega
    have clips : clipLabel left ≠ clipLabel right := fun same =>
      absurd (clipLabel_injective same) (Nat.ne_of_lt below)
    simp [Function.onFun, joined.symm, mixed, reversed.symm, clips.symm]

/-- The clips are all that is taken in and not put out by a filter. -/
theorem clips_eq (some : 0 < count) :
    graph.consumed.filter (· ∉ graph.defined) = (List.range (count + 1)).map clipLabel := by
  have free := crossfades.clip_free
  obtain ⟨more, rfl⟩ := Nat.exists_eq_succ_of_ne_zero (Nat.ne_of_gt some)
  have first : [joinedLabel (1 - 1), clipLabel 1].filter (· ∉ graph.defined) =
      [clipLabel 0, clipLabel 1] := by
    show [clipLabel 0, clipLabel 1].filter _ = _
    rw [List.filter_eq_self]
    simp [free]
  have later : ∀ index ∈ List.range' 2 more,
      [joinedLabel (index - 1), clipLabel index].filter (· ∉ graph.defined) =
        [clipLabel index] := by
    intro index inside
    rw [List.mem_range'_1] at inside
    have put : joinedLabel (index - 1) ∈ graph.defined := by
      rw [crossfades.defined_eq]
      exact List.mem_map_of_mem (List.mem_range'_1.mpr (by omega))
    simp [put, free]
  rw [crossfades.consumed_eq, List.filter_flatMap, List.range'_succ, List.flatMap_cons, first,
    List.flatMap_congr later, ← List.map_eq_flatMap, List.range_eq_range', List.range'_succ,
    List.range'_succ, List.map_cons, List.map_cons]
  rfl

theorem wired (some : 0 < count) : graph.Wired (count + 1) where
  clips := crossfades.clips_eq some
  once := crossfades.consumed_nodup
  defined := by
    rw [crossfades.defined_eq]
    exact List.Nodup.map joinedLabel_injective (List.nodup_range' 1)
  later := by
    intro position filter found differ
    have blends := crossfades.blends_at found
    have inside : position < graph.filters.length := (List.getElem?_eq_some_iff.mp found).1
    have next : position + 1 < graph.filters.length := by
      rw [blends.output, crossfades.output, ← crossfades.length_eq] at differ
      exact Nat.lt_of_le_of_ne inside fun same => differ (congrArg joinedLabel same)
    have taken := (crossfades.blends_at (List.getElem?_eq_getElem next)).inputs
    rw [blends.output]
    refine List.mem_flatMap.mpr ⟨graph.filters[position + 1], ?_, ?_⟩
    · exact List.mem_drop_iff_getElem.mpr ⟨0, by omega, rfl⟩
    · rw [taken]
      exact List.mem_cons_self
  mapped := by
    rw [crossfades.output, crossfades.defined_eq, crossfades.consumed_eq]
    refine ⟨List.mem_map_of_mem (List.mem_range'_1.mpr (by omega)), fun member => ?_⟩
    obtain ⟨index, inside, taken⟩ := List.mem_flatMap.mp member
    rw [List.mem_range'_1] at inside
    rw [List.mem_cons, List.mem_singleton] at taken
    obtain same | same := taken
    · have := joinedLabel_injective same
      omega
    · have := (clipLabel_eq_joinedLabel_iff.mp same.symm).2
      omega
  joined := by
    rw [crossfades.output]
    exact crossfades.joins le_rfl

theorem readable : ∀ filter ∈ graph.filters, filter.Readable := by
  intro filter member
  obtain ⟨position, found⟩ := List.mem_iff_getElem?.mp member
  have blends := crossfades.blends_at found
  exact {
    fed := by simp [blends.inputs]
    inputs := by
      rw [blends.inputs]
      exact List.forall_mem_cons.mpr
        ⟨joinedLabel_legible _, List.forall_mem_singleton.mpr (clipLabel_legible _)⟩
    body := blends.legible
    output := by
      rw [blends.output]
      exact joinedLabel_legible _ }

end FilterGraph.Crossfades

end Crossfades

end Montage
