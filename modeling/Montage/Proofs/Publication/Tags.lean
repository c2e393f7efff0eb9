import Mathlib.Data.Finset.Card
import Mathlib.Data.List.Induction
import Montage.Proofs.Publication.Settings
import Montage.Proofs.Text.Trim

/-! The tags of a publication are those that were written, trimmed, the first of each spelling. -/

namespace Montage

section Firsts

variable {α β : Type} [DecidableEq β] {key : α → β} {items : List α} {item : α}

/-- The items that are the first with their key: none at an earlier position has the same. -/
def firstsBy (key : α → β) (items : List α) : List α :=
  (items.zipIdx.filter fun (item, position) =>
    (items.take position).all fun earlier => key earlier != key item).map Prod.fst

/-- An item at the end is a first unless its key has occurred. -/
theorem firstsBy_concat (key : α → β) (items : List α) (item : α) :
    firstsBy key (items ++ [item]) =
      firstsBy key items ++ if key item ∈ items.map key then [] else [item] := by
  have before : ((items ++ [item]).zipIdx.filter fun (item', position) =>
        ((items ++ [item]).take position).all fun earlier => key earlier != key item') =
      (items.zipIdx.filter fun (item', position) =>
        (items.take position).all fun earlier => key earlier != key item') ++
      ([(item, items.length)].filter fun (item', position) =>
        ((items ++ [item]).take position).all fun earlier => key earlier != key item') := by
    rw [List.zipIdx_append, List.filter_append]
    simp only [List.zipIdx_cons, List.zipIdx_nil, Nat.zero_add]
    congr 1
    apply List.filter_congr
    intro pair member
    have inside : pair.2 ≤ items.length := (List.snd_lt_of_mem_zipIdx member).le
    rw [List.take_append_of_le_length inside]
  rw [firstsBy, before, List.map_append]
  congr 1
  by_cases occurred : key item ∈ items.map key
  · rw [if_pos occurred, List.filter_cons_of_neg]
    · rfl
    · obtain ⟨earlier, member, same⟩ := List.mem_map.mp occurred
      simpa using ⟨earlier, member, same⟩
  · rw [if_neg occurred, List.filter_cons_of_pos]
    · rfl
    · have fresh : ∀ earlier ∈ items, key earlier ≠ key item := by
        intro earlier member same
        exact occurred (List.mem_map.mpr ⟨earlier, member, same⟩)
      simpa using fresh

theorem firstsBy_sublist (key : α → β) (items : List α) : (firstsBy key items).Sublist items := by
  have kept := (List.filter_sublist (p := fun (item, position) =>
    (items.take position).all fun earlier => key earlier != key item) (l := items.zipIdx)).map Prod.fst
  rwa [List.zipIdx_map_fst] at kept

/-- Every key occurs among the firsts. -/
theorem mem_map_firstsBy {found : β} :
    found ∈ (firstsBy key items).map key ↔ found ∈ items.map key := by
  induction items using List.reverseRecOn with
  | nil => rfl
  | append_singleton items item ih =>
    rw [firstsBy_concat, List.map_append, List.map_append, List.mem_append, List.mem_append, ih]
    by_cases occurred : key item ∈ items.map key
    · rw [if_pos occurred]
      constructor
      · rintro (early | none)
        · exact Or.inl early
        · cases none
      · intro member
        rcases member with early | last
        · exact Or.inl early
        · rw [List.map_singleton, List.mem_singleton] at last
          exact Or.inl (last ▸ occurred)
    · rw [if_neg occurred]

/-- No key occurs twice among the firsts. -/
theorem nodup_firstsBy (key : α → β) (items : List α) : ((firstsBy key items).map key).Nodup := by
  induction items using List.reverseRecOn with
  | nil => exact List.nodup_nil
  | append_singleton items item ih =>
    rw [firstsBy_concat, List.map_append]
    by_cases occurred : key item ∈ items.map key
    · rw [if_pos occurred]
      simpa using ih
    · rw [if_neg occurred, List.map_singleton]
      refine List.nodup_append.mpr ⟨ih, List.nodup_singleton _, ?_⟩
      intro early member last same
      rw [List.mem_singleton] at same
      rintro rfl
      exact occurred (same ▸ mem_map_firstsBy.mp member)

/-- Where no key occurs twice, every item is a first. -/
theorem firstsBy_of_nodup (distinct : (items.map key).Nodup) : firstsBy key items = items := by
  induction items using List.reverseRecOn with
  | nil => rfl
  | append_singleton items item ih =>
    rw [List.map_append, List.map_singleton] at distinct
    obtain ⟨early, _, apart⟩ := List.nodup_append.mp distinct
    have fresh : key item ∉ items.map key := fun occurred =>
      apart _ occurred _ (List.mem_singleton_self _) rfl
    rw [firstsBy_concat, if_neg fresh, ih early]

/-- There are as many firsts as keys. -/
theorem length_firstsBy (key : α → β) (items : List α) :
    (firstsBy key items).length = (items.map key).toFinset.card := by
  have same : (items.map key).toFinset = ((firstsBy key items).map key).toFinset := by
    ext found
    rw [List.mem_toFinset, List.mem_toFinset, mem_map_firstsBy]
  rw [same, List.toFinset_card_of_nodup (nodup_firstsBy key items), List.length_map]

end Firsts

/-- Tags as they are written: trimmed, without the blank ones. -/
def writtenTags (tags : List String) : List String :=
  (tags.map Text.trim).filter fun tag => !tag.isEmpty

variable {tags : List String} {tag : String}

theorem writtenTags_concat (tags : List String) (tag : String) :
    writtenTags (tags ++ [tag]) =
      writtenTags tags ++ if (Text.trim tag).isEmpty then [] else [Text.trim tag] := by
  rw [writtenTags, List.map_append, List.filter_append]
  congr 1
  cases blank : (Text.trim tag).isEmpty <;> simp [blank]

theorem trim_of_mem_writtenTags (member : tag ∈ writtenTags tags) : Text.trim tag = tag := by
  obtain ⟨found, _⟩ := List.mem_filter.mp member
  obtain ⟨raw, _, rfl⟩ := List.mem_map.mp found
  exact Text.trim_trim raw

theorem length_pos_of_mem_writtenTags (member : tag ∈ writtenTags tags) : 1 ≤ tag.length := by
  obtain ⟨_, solid⟩ := List.mem_filter.mp member
  rw [Bool.not_eq_true', String.isEmpty_eq_false_iff] at solid
  rw [← String.length_toList]
  apply List.length_pos_of_ne_nil
  simpa using solid

/-- Tags that were kept are written as they are. -/
theorem writtenTags_of_written {kept : List String}
    (written : ∀ tag ∈ kept, tag ∈ writtenTags tags) :
    writtenTags kept = kept := by
  have trimmed : kept.map Text.trim = kept := by
    rw [← List.map_id kept, List.map_map]
    apply List.map_congr_left
    intro tag member
    exact trim_of_mem_writtenTags (written tag member)
  rw [writtenTags, trimmed]
  apply List.filter_eq_self.mpr
  intro tag member
  exact (List.mem_filter.mp (written tag member)).2

theorem not_long_of_isEmpty (blank : tag.isEmpty = true) : ¬maxTagLength < tag.length := by
  rw [String.isEmpty_iff.mp blank]
  exact Nat.not_lt_zero _

/-- One tag more, after the first of each spelling was kept of those before it. -/
theorem keepTag_firsts (earlier : List String) (raw : String) :
    keepTag (firstsBy Text.lower (writtenTags earlier)) (.text raw) =
      if maxTagLength < (Text.trim raw).length then
        .error (.invalid (.named "tags") (.tagTooLong maxTagLength))
      else .ok (firstsBy Text.lower (writtenTags (earlier ++ [raw]))) := by
  rw [keepTag, writtenTags_concat]
  by_cases blank : (Text.trim raw).isEmpty = true
  · have short := not_long_of_isEmpty blank
    rw [if_pos blank, if_neg short, if_pos blank, List.append_nil]
  · rw [if_neg blank, if_neg blank]
    by_cases long : maxTagLength < (Text.trim raw).length
    · rw [if_pos long, if_pos long]
    · rw [if_neg long, if_neg long, firstsBy_concat]
      -- A tag that was not kept has the spelling of one that was, so the kept ones tell.
      have seen : ((firstsBy Text.lower (writtenTags earlier)).any fun present =>
          Text.lower present == Text.lower (Text.trim raw)) = true ↔
          Text.lower (Text.trim raw) ∈ (writtenTags earlier).map Text.lower := by
        rw [← mem_map_firstsBy, List.mem_map]
        simp
      by_cases occurred : Text.lower (Text.trim raw) ∈ (writtenTags earlier).map Text.lower
      · rw [if_pos (seen.mpr occurred), if_pos occurred, List.append_nil]
      · rw [if_neg (seen.not.mpr occurred), if_neg occurred]

/-- The loop over the tags ends at the first that is too long, and else keeps the firsts. -/
theorem keepTags_eq (tags : List String) :
    (tags.map Value.text).foldlM keepTag [] =
      if ∃ tag ∈ writtenTags tags, maxTagLength < tag.length then
        .error (.invalid (.named "tags") (.tagTooLong maxTagLength))
      else .ok (firstsBy Text.lower (writtenTags tags)) := by
  induction tags using List.reverseRecOn with
  | nil => rfl
  | append_singleton earlier raw ih =>
    have last : (∃ tag ∈ writtenTags (earlier ++ [raw]), maxTagLength < tag.length) ↔
        (∃ tag ∈ writtenTags earlier, maxTagLength < tag.length) ∨
          maxTagLength < (Text.trim raw).length := by
      rw [writtenTags_concat]
      by_cases blank : (Text.trim raw).isEmpty = true
      · have short := not_long_of_isEmpty blank
        simp [blank, short]
      · simp [blank, or_and_right, exists_or]
    rw [List.map_append, List.foldlM_append, ih]
    by_cases before : ∃ tag ∈ writtenTags earlier, maxTagLength < tag.length
    · rw [if_pos before, if_pos (last.mpr (Or.inl before))]
      rfl
    · rw [if_neg before]
      have step := keepTag_firsts earlier raw
      by_cases long : maxTagLength < (Text.trim raw).length
      · rw [if_pos long] at step
        rw [if_pos (last.mpr (Or.inr long))]
        simp [step, bind, Except.bind]
      · rw [if_neg long] at step
        rw [if_neg (by rw [last]; exact not_or.mpr ⟨before, long⟩)]
        simp [step, bind, Except.bind, pure, Except.pure]

/-- What is read of a list of tags. -/
theorem readTags_eq (tags : List String) :
    readTags (.list (tags.map .text)) =
      if ∃ tag ∈ writtenTags tags, maxTagLength < tag.length then
        .error (.invalid (.named "tags") (.tagTooLong maxTagLength))
      else if maxTags < ((writtenTags tags).map Text.lower).toFinset.card then
        .error (.invalid (.named "tags") (.tooManyTags maxTags))
      else .ok (firstsBy Text.lower (writtenTags tags)) := by
  have all : listed (.list (tags.map .text)) = .ok (tags.map .text) := by
    cases tags <;> rfl
  rw [readTags, all]
  change ((tags.map Value.text).foldlM keepTag [] >>= _) = _
  rw [keepTags_eq]
  by_cases long : ∃ tag ∈ writtenTags tags, maxTagLength < tag.length
  · rw [if_pos long, if_pos long]
    rfl
  · rw [if_neg long, if_neg long, ← length_firstsBy]
    rfl

namespace PublishRequest

variable {request : PublishRequest} {now : Instant} {plain : PublishOptions}

/-- The request with a list of tags. -/
def tagged (request : PublishRequest) (tags : List String) : PublishRequest :=
  { request with tags := .list (tags.map .text) }

/-- Where the other settings are valid, the tags decide. -/
theorem check_tagged (valid : { request with tags := .null }.check now = .ok plain)
    (tags : List String) :
    (request.tagged tags).check now =
      (readTags (.list (tags.map .text))).map fun kept => { plain with tags := kept } := by
  obtain ⟨hidden, _, sorted, scheduled, allowed⟩ := check_eq_ok.mp valid
  cases read : readTags (.list (tags.map .text)) with
  | error failure =>
    simp only [check, tagged, hidden, read]
    rfl
  | ok kept => exact check_eq_ok.mpr ⟨hidden, read, sorted, scheduled, allowed⟩

/-- What the tags of a publication are to those that were written. -/
structure Normalizes (tags kept : List String) : Prop where
  /-- They are those trimmed that are not blank, the first of each class under lower-casing. -/
  firsts : kept = firstsBy Text.lower (writtenTags tags)
  ordered : kept.Sublist (writtenTags tags)
  distinct : (kept.map Text.lower).Nodup
  complete : ∀ tag ∈ writtenTags tags, ∃ same ∈ kept, Text.lower same = Text.lower tag
  few : kept.length ≤ 20
  sized : ∀ tag ∈ kept, 1 ≤ tag.length ∧ tag.length ≤ 50

theorem normalizes_firsts {tags : List String} (short : ∀ tag ∈ writtenTags tags, tag.length ≤ 50)
    (few : ((writtenTags tags).map Text.lower).toFinset.card ≤ 20) :
    Normalizes tags (firstsBy Text.lower (writtenTags tags)) where
  firsts := rfl
  ordered := firstsBy_sublist _ _
  distinct := nodup_firstsBy _ _
  complete tag member := by
    apply List.mem_map.mp
    exact mem_map_firstsBy.mpr (List.mem_map_of_mem member)
  few := (length_firstsBy _ _).le.trans few
  sized tag kept := by
    have member := (firstsBy_sublist _ _).mem kept
    exact ⟨length_pos_of_mem_writtenTags member, short tag member⟩

/-- Tags that are normalized are read as they are. -/
theorem Normalizes.read {tags kept : List String} (normal : Normalizes tags kept) :
    readTags (.list (kept.map .text)) = .ok kept := by
  have same : writtenTags kept = kept :=
    writtenTags_of_written fun tag member => normal.ordered.mem member
  have firsts : firstsBy Text.lower kept = kept := firstsBy_of_nodup normal.distinct
  have short : ¬∃ tag ∈ kept, maxTagLength < tag.length := by
    rintro ⟨tag, member, long⟩
    exact absurd long (Nat.not_lt.mpr (normal.sized tag member).2)
  have few : ¬maxTags < (kept.map Text.lower).toFinset.card := by
    rw [← length_firstsBy, firsts]
    exact Nat.not_lt.mpr normal.few
  rw [readTags_eq, same, if_neg short, if_neg few, firsts]

/-- With the other settings valid, a list of tags is refused if one is too long or there are too
many spellings, and else normalized; normalized tags are taken as they are. -/
theorem tags_normalized (valid : { request with tags := .null }.check now = .ok plain)
    (tags : List String) :
    ((∃ violation, (request.tagged tags).check now = .error (.invalid (.named "tags") violation)) ↔
      (∃ tag ∈ writtenTags tags, 50 < tag.length) ∨
        20 < ((writtenTags tags).map Text.lower).toFinset.card) ∧
    ((∀ tag ∈ writtenTags tags, tag.length ≤ 50) →
      ((writtenTags tags).map Text.lower).toFinset.card ≤ 20 →
      ∃ kept, (request.tagged tags).check now = .ok { plain with tags := kept } ∧
        Normalizes tags kept ∧
        (request.tagged kept).check now = .ok { plain with tags := kept }) := by
  have checked := check_tagged valid tags
  rw [readTags_eq, show maxTagLength = 50 from rfl, show maxTags = 20 from rfl] at checked
  constructor
  · rw [checked]
    by_cases long : ∃ tag ∈ writtenTags tags, 50 < tag.length
    · rw [if_pos long]
      exact iff_of_true ⟨_, rfl⟩ (Or.inl long)
    · rw [if_neg long]
      by_cases many : 20 < ((writtenTags tags).map Text.lower).toFinset.card
      · rw [if_pos many]
        exact iff_of_true ⟨_, rfl⟩ (Or.inr many)
      · rw [if_neg many]
        apply iff_of_false
        · rintro ⟨violation, refused⟩
          cases refused
        · exact not_or.mpr ⟨long, many⟩
  · intro short few
    have normal := normalizes_firsts short few
    have long : ¬∃ tag ∈ writtenTags tags, 50 < tag.length := by
      rintro ⟨tag, member, long⟩
      exact absurd long (Nat.not_lt.mpr (short tag member))
    rw [if_neg long, if_neg (Nat.not_lt.mpr few)] at checked
    refine ⟨_, checked, normal, ?_⟩
    rw [check_tagged valid, normal.read]
    rfl

/-- Settings besides the tags of a video that comes out the day after. -/
def nextDay : PublishRequest where
  privacy := .text " private "
  tags := .null
  category := .text "22"
  publishAt := .text "2026-01-02T12:00:00Z"

theorem nextDay_tagged :
    { nextDay with tags := .null }.check ⟨⟨2026, 1, 1⟩, 12, 0, 0, 0, some 0⟩ =
      .ok ⟨.hidden, [], some "22", some ⟨⟨2026, 1, 2⟩, 12, 0, 0, 0, some 0⟩⟩ ∧
    (nextDay.tagged [" Music ", "music", "", "Live"]).check ⟨⟨2026, 1, 1⟩, 12, 0, 0, 0, some 0⟩ =
      .ok ⟨.hidden, ["Music", "Live"], some "22", some ⟨⟨2026, 1, 2⟩, 12, 0, 0, 0, some 0⟩⟩ ∧
    Normalizes [" Music ", "music", "", "Live"] ["Music", "Live"] := by
  have valid : { nextDay with tags := .null }.check ⟨⟨2026, 1, 1⟩, 12, 0, 0, 0, some 0⟩ =
      .ok ⟨.hidden, [], some "22", some ⟨⟨2026, 1, 2⟩, 12, 0, 0, 0, some 0⟩⟩ := by
    decide +kernel
  obtain ⟨kept, taken, normal, _⟩ := (tags_normalized valid [" Music ", "music", "", "Live"]).2
    (by decide +kernel) (by decide +kernel)
  obtain rfl : kept = ["Music", "Live"] := normal.firsts.trans (by decide +kernel)
  exact ⟨valid, taken, normal⟩

end PublishRequest

end Montage
