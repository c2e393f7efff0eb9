import Mathlib.Data.List.Nodup
import Montage.Manifest.Composition
import Montage.Proofs.Named
import Montage.Proofs.Outcome
import Montage.Proofs.Text.Trim

/-! Assets as a caller names them: which arguments are malformed, and what counts of several that name
one asset, or one of the manifest. -/

namespace Montage

variable {α β : Type}

/-- What is filtered out need not be made distinct first. -/
theorem eraseDups_filter_eraseDups [DecidableEq α] (items : List α) (kept : α → Bool) :
    (items.eraseDups.filter kept).eraseDups = (items.filter kept).eraseDups := by
  -- The items after the first lose those that equal it, so the induction is on the length.
  induction length : items.length using Nat.strongRecOn generalizing items kept with
  | ind length ih =>
    cases items with
    | nil => rfl
    | cons item rest =>
      subst length
      have shorter : (rest.filter fun other => !other == item).length < (item :: rest).length :=
        Nat.lt_succ_of_le (List.length_filter_le _ rest)
      have later (kept : α → Bool) := ih _ shorter (rest.filter fun other => !other == item) kept rfl
      rw [List.eraseDups_cons]
      by_cases keep : kept item = true
      · rw [List.filter_cons_of_pos keep, List.filter_cons_of_pos keep, List.eraseDups_cons,
          List.eraseDups_cons, List.filter_filter, later, List.filter_filter, List.filter_filter]
        congr 3
        funext other
        cases kept other <;> cases (other == item) <;> rfl
      · rw [List.filter_cons_of_neg keep, List.filter_cons_of_neg keep, later, List.filter_filter]
        congr 2
        funext other
        by_cases same : other = item
        · simp [same, keep]
        · simp [same]

namespace Named

@[simp] theorem over_nil (named : Named β) : named.over [] = named := rfl

theorem over_cons (named : Named β) (name : String) (value : β) (rest : Named β) :
    named.over ((name, value) :: rest) = (named.set name value).over rest := rfl

/-- Of the things that are set over others the last of a name counts. -/
theorem get?_over (named pairs : Named β) (name : String) :
    (named.over pairs).get? name = (pairs.reverse.lookup name).or (named.get? name) := by
  induction pairs generalizing named with
  | nil => simp
  | cons pair rest ih =>
    obtain ⟨present, value⟩ := pair
    have first : ([(present, value)] : Named β).lookup name =
        if name = present then some value else none := get?_cons present value [] name
    rw [over_cons, ih, get?_set, List.reverse_cons, List.lookup_append, Option.or_assoc, first]
    split <;> rfl

/-- New names come after the old ones, in the order in which they first appear. -/
theorem names_over (named pairs : Named β) :
    (named.over pairs).map Prod.fst = named.map Prod.fst ++
      ((pairs.map Prod.fst).filter (· ∉ named.map Prod.fst)).eraseDups := by
  induction pairs generalizing named with
  | nil => simp
  | cons pair rest ih =>
    obtain ⟨present, value⟩ := pair
    rw [over_cons, ih, names_set]
    by_cases member : present ∈ named.map Prod.fst
    · rw [if_pos member, List.map_cons, List.filter_cons_of_neg (by simpa using member)]
    · rw [if_neg member, List.map_cons, List.filter_cons_of_pos (by simpa using member),
        List.eraseDups_cons, List.filter_filter, List.append_assoc, List.singleton_append]
      congr 4
      funext name
      have either : name ∈ named.map Prod.fst ++ [present] ↔
          name = present ∨ name ∈ named.map Prod.fst := by
        rw [List.mem_append, List.mem_singleton, or_comm]
      simp only [either, not_or, Bool.decide_and, decide_not]
      rfl

theorem ofList_eq_over (pairs : List (String × β)) : ofList pairs = Named.over [] pairs := rfl

theorem get?_ofList (pairs : List (String × β)) (name : String) :
    (ofList pairs).get? name = pairs.reverse.lookup name := by
  rw [ofList_eq_over, get?_over, get?_nil, Option.or_none]

theorem names_ofList (pairs : List (String × β)) :
    (ofList pairs).map Prod.fst = (pairs.map Prod.fst).eraseDups := by
  rw [ofList_eq_over, names_over]
  simp

theorem nodup_names_over {named : Named β} (distinct : (named.map Prod.fst).Nodup)
    (pairs : Named β) : ((named.over pairs).map Prod.fst).Nodup := by
  induction pairs generalizing named with
  | nil => exact distinct
  | cons pair rest ih =>
    obtain ⟨name, value⟩ := pair
    refine @ih (named.set name value) ?_
    rw [names_set]
    split
    · exact distinct
    · rename_i fresh
      refine List.nodup_append.mpr ⟨distinct, List.nodup_singleton name, fun other member => ?_⟩
      rw [List.forall_mem_singleton]
      rintro rfl
      exact fresh member

/-- Distinct names are entered one after the other. -/
theorem over_of_nodup {named pairs : Named β} (distinct : ((named ++ pairs).map Prod.fst).Nodup) :
    named.over pairs = named ++ pairs := by
  induction pairs generalizing named with
  | nil => rw [over_nil, List.append_nil]
  | cons pair rest ih =>
    obtain ⟨name, value⟩ := pair
    have fresh : name ∉ named.map Prod.fst := by
      rw [List.map_append, List.map_cons] at distinct
      exact fun member => (List.nodup_append.mp distinct).2.2 name member name List.mem_cons_self rfl
    have next := @ih (named ++ [(name, value)]) (by simpa using distinct)
    rw [← set_of_fresh fresh value] at next
    rw [over_cons, next, set_of_fresh fresh, List.append_assoc, List.singleton_append]

/-- Which of several things of a name counts does not matter if there is one alone. -/
theorem lookup_reverse {named : Named β} (distinct : (named.map Prod.fst).Nodup) (name : String) :
    named.reverse.lookup name = named.get? name := by
  have whole := get?_over [] named name
  rwa [over_of_nodup (by simpa using distinct), List.nil_append, get?_nil, Option.or_none,
    eq_comm] at whole

/-- The things of a list that are set over others. -/
theorem get?_over_ofList (named : Named β) (pairs : List (String × β)) (name : String) :
    (named.over (ofList pairs)).get? name = (pairs.reverse.lookup name).or (named.get? name) := by
  have distinct : ((ofList pairs).map Prod.fst).Nodup :=
    @nodup_names_over _ [] List.nodup_nil pairs
  rw [get?_over, lookup_reverse distinct, get?_ofList]

theorem names_over_ofList (named : Named β) (pairs : List (String × β)) :
    (named.over (ofList pairs)).map Prod.fst = named.map Prod.fst ++
      ((pairs.map Prod.fst).filter (· ∉ named.map Prod.fst)).eraseDups := by
  rw [names_over, names_ofList, eraseDups_filter_eraseDups]

end Named

section Arguments

variable {argument : String} {before after : List Char}

/-- An argument that names an asset: split at its first sign of equality there are an id and a path,
neither of them blank. -/
structure IsAssetArgument (argument : String) (asset : String × String) : Prop where
  split : ∃ before after, argument.toList = before ++ '=' :: after ∧ '=' ∉ before ∧
    asset = (Text.trim (.ofList before), Text.trim (.ofList after))
  full : ¬asset.1 = "" ∧ ¬asset.2 = ""

/-- An argument that has no sign of equality, or nothing but blanks before or after the first one. -/
def MalformedArgument (argument : String) : Prop :=
  '=' ∉ argument.toList ∨ ∃ before after, argument.toList = before ++ '=' :: after ∧
    '=' ∉ before ∧ (Text.isBlankText (.ofList before) = true ∨ Text.isBlankText (.ofList after) = true)

theorem equals_lacking {text : List Char} (lacks : '=' ∉ text) :
    ∀ character ∈ text, (character != '=') = true := by
  intro character member
  rw [bne_iff_ne]
  rintro rfl
  exact lacks member

theorem readAssetArgument_unsplit (unsplit : '=' ∉ argument.toList) :
    readAssetArgument argument = .error (.argument (.assetArgument argument)) := by
  have none : argument.toList.dropWhile (· != '=') = [] :=
    List.dropWhile_eq_nil_iff.mpr (equals_lacking unsplit)
  simp only [readAssetArgument, none]

theorem readAssetArgument_split (split : argument.toList = before ++ '=' :: after)
    (first : '=' ∉ before) :
    readAssetArgument argument =
      if Text.isBlankText (.ofList before) || Text.isBlankText (.ofList after) then
        .error (.argument (.assetArgument argument))
      else .ok (Text.trim (.ofList before), Text.trim (.ofList after)) := by
  have apart := equals_lacking first
  have head : argument.toList.takeWhile (· != '=') = before := by
    rw [split, List.takeWhile_append_of_pos apart]
    simp
  have tail : argument.toList.dropWhile (· != '=') = '=' :: after := by
    rw [split, List.dropWhile_append_of_pos apart]
    simp
  simp only [readAssetArgument, head, tail, Text.isBlankText, Text.trim, String.toList_ofList]

theorem readAssetArgument_malformed (malformed : MalformedArgument argument) :
    readAssetArgument argument = .error (.argument (.assetArgument argument)) := by
  obtain unsplit | ⟨before, after, split, first, blank⟩ := malformed
  · exact readAssetArgument_unsplit unsplit
  · rw [readAssetArgument_split split first, if_pos (by simpa using blank)]

theorem readAssetArgument_wellFormed (wellFormed : ¬MalformedArgument argument) :
    ∃ asset, readAssetArgument argument = .ok asset ∧ IsAssetArgument argument asset := by
  obtain ⟨member, never⟩ := not_or.mp wellFormed
  obtain ⟨before, after, split, first⟩ := List.eq_append_cons_of_mem (not_not.mp member)
  have full : ¬(Text.isBlankText (.ofList before) || Text.isBlankText (.ofList after)) = true :=
    fun blank => never ⟨before, after, split, first, by simpa using blank⟩
  refine ⟨_, (readAssetArgument_split split first).trans (if_neg full), ⟨_, _, split, first, rfl⟩, ?_⟩
  rw [Bool.or_eq_true, not_or, Text.isBlankText_iff, Text.isBlankText_iff] at full
  exact full

theorem not_malformed_of_read {asset : String × String}
    (read : readAssetArgument argument = .ok asset) : ¬MalformedArgument argument := by
  intro malformed
  cases (readAssetArgument_malformed malformed).symm.trans read

/-- The first malformed argument is complained of; if there is none, the last path of each id counts. -/
theorem readAssetArguments_cases (arguments : List String) :
    (∃ earlier first later, arguments = earlier ++ first :: later ∧
      (∀ argument ∈ earlier, ¬MalformedArgument argument) ∧ MalformedArgument first ∧
      readAssetArguments arguments = .error (.argument (.assetArgument first))) ∨
    ∃ named, (∀ argument ∈ arguments, ¬MalformedArgument argument) ∧
      List.Forall₂ IsAssetArgument arguments named ∧
      readAssetArguments arguments = .ok (Named.ofList named) := by
  rcases mapM_cases readAssetArgument arguments with
    ⟨earlier, first, later, failure, split, before, wrong, failed⟩ | ⟨named, each, done⟩
  · have malformed : MalformedArgument first := by
      by_contra wellFormed
      obtain ⟨asset, read, _⟩ := readAssetArgument_wellFormed wellFormed
      cases wrong.symm.trans read
    obtain rfl := Except.error.inj (wrong.symm.trans (readAssetArgument_malformed malformed))
    refine .inl ⟨earlier, first, later, split, fun argument member => ?_, malformed, ?_⟩
    · exact (before argument member).elim fun _ => not_malformed_of_read
    · rw [readAssetArguments, failed]
      rfl
  · have both := each.imp fun argument asset read => And.intro (not_malformed_of_read read) read
    obtain ⟨all, _⟩ := (List.forall₂_and_left arguments named).mp both
    refine .inr ⟨named, all, each.imp fun argument asset read => ?_, ?_⟩
    · obtain ⟨other, same, wellFormed⟩ := readAssetArgument_wellFormed (not_malformed_of_read read)
      exact Except.ok.inj (same.symm.trans read) ▸ wellFormed
    · rw [readAssetArguments, done]
      rfl

end Arguments

end Montage
