import Montage.Proofs.Manifest.Finite

/-! Validation scene by scene. It stops at the first scene that breaks a rule, whatever comes after
it, and a timeline that may go on never was too long before. -/

namespace Montage

section Manifests

variable {α : Type} [Quantity α] {prober : Prober α} {assets : Named Upload}

/-- What is read of a manifest before its scenes. -/
def Value.opening (value : Value) : Except Failure (Preset × List Value) := do
  if value.isNull then throw (.invalid .manifest .required)
  let entries ← readObject value .manifest
  let preset ← requireWord (Value.field entries "outputPreset")
    (Field.manifest.member "outputPreset") Preset.landscape
  let values ← listScenes (Value.field entries "scenes")
  return (preset, values)

/-- The manifest with other scenes. -/
def Value.withScenes (scenes : List Value) : Value → Value
  | .map entries => .map (Value.setEntry (.text "scenes") (.list scenes) entries)
  | value => value

theorem Action.lift_bind {β γ : Type} (result : Except Failure β) (next : β → Except Failure γ) :
    lift (result >>= next) = lift result >>= fun found => lift (next found) := by
  cases result <;> rfl

namespace Value

theorem sameKey_text {present : Value} {name : String} :
    present.sameKey (text name) = true ↔ present = text name := by
  cases present with
  | text found =>
    change (found == name) = true ↔ _
    rw [beq_iff_eq, text.injEq]
  | double value => cases value <;> simp [sameKey, asNumber?]
  | _ => simp [sameKey, asNumber?]

theorem field_cons_key (present value : Value) (rest : List (Value × Value)) (name : String) :
    field ((present, value) :: rest) name =
      if present.sameKey (text name) then value else field rest name := by
  simp only [field, List.find?_cons]
  cases present.sameKey (text name) <;> rfl

/-- Setting a field changes no other one. -/
theorem field_setEntry (name other : String) (value : Value) (entries : List (Value × Value)) :
    field (setEntry (text name) value entries) other =
      if name = other then value else field entries other := by
  induction entries with
  | nil =>
    simp only [setEntry, field_cons_key, sameKey_text, text.injEq]
  | cons entry rest ih =>
    obtain ⟨present, old⟩ := entry
    by_cases same : present = text name
    · subst same
      simp only [setEntry, field_cons_key, sameKey_text, text.injEq, if_true]
      split <;> rfl
    · have kept : present.sameKey (text name) = true ↔ False := by simp [sameKey_text, same]
      simp only [setEntry, kept, if_false, field_cons_key, ih]
      by_cases here : name = other
      · subst here
        simp only [kept, if_false, if_true]
      · simp only [if_neg here]

end Value

theorem opening_withScenes {value : Value} {preset : Preset} {raws others : List Value}
    (opened : value.opening = .ok (preset, raws)) (several : others ≠ [])
    (few : others.length ≤ maxScenes) :
    (value.withScenes others).opening = .ok (preset, others) := by
  unfold Value.opening at opened
  split at opened
  · cases opened
  · simp only [Except.bind_eq_ok, Except.pure_eq_ok, Prod.mk.injEq, readObject_eq_ok] at opened
    obtain ⟨entries, rfl, _, readPreset, _, _, rfl, rfl⟩ := opened
    have listed : listScenes (.list others) = .ok others := by
      unfold listScenes
      split
      · rename_i empty
        exact absurd (Value.list.inj empty) several
      · rename_i same
        obtain rfl := Value.list.inj same
        exact if_neg (Nat.not_lt.mpr few)
      · rename_i other
        exact absurd rfl (other others)
    have presetKept : ¬ "scenes" = "outputPreset" := by decide
    simp only [Value.withScenes, Value.opening, Value.isNull, Bool.false_eq_true, if_false,
      readObject]
    refine Except.bind_eq_ok.mpr ⟨_, rfl, ?_⟩
    simp only [Value.field_setEntry, if_neg presetKept, if_true, readPreset, listed]
    rfl

theorem validate_opening (value : Value) :
    validate prober assets value = (do
      let (preset, values) ← Action.lift value.opening
      let (scenes, total) ← readScenes prober assets 0 (Quantity.ofDouble .zero)
        (Quantity.ofDouble .zero) values
      Action.lift (checkTotal total)
      return { preset, scenes, total }) := by
  unfold validate Value.opening
  dsimp only
  split
  · rfl
  · simp only [Action.lift_bind, bind_assoc]
    rfl

theorem opening_count {value : Value} {preset : Preset} {raws : List Value}
    (opened : value.opening = .ok (preset, raws)) : 1 ≤ raws.length ∧ raws.length ≤ maxScenes := by
  unfold Value.opening at opened
  split at opened
  · cases opened
  · simp only [Except.bind_eq_ok, Except.pure_eq_ok, Prod.mk.injEq] at opened
    obtain ⟨_, _, _, _, _, listed, _, rfl⟩ := opened
    exact (listScenes_ok listed).2

end Manifests

section Scenes

variable {α : Type} [Quantity α]

/-- The scene at a position, how long it is shown, and the length of the timeline with it. -/
def advance (prober : Prober α) (assets : Named Upload) (index : Nat) (previous total : α)
    (value : Value) : Action (Scene α × α × α) := do
  let (scene, shown) ← readScene prober assets index previous value
  let grown ← Action.compute (growTotal total scene shown)
  return (scene, shown, grown)

variable (prober : Prober α) (assets : Named Upload)

theorem readScenes_cons (index : Nat) (previous total : α) (value : Value) (rest : List Value) :
    readScenes prober assets index previous total (value :: rest) = (do
      let (scene, shown, grown) ← advance prober assets index previous total value
      let (later, final) ← readScenes prober assets (index + 1) shown grown rest
      return (scene :: later, final)) := by
  simp only [readScenes, advance, bind_assoc, pure_bind]

/-- From a workspace, reading raw scenes in order leads to their scenes, how long the last of them
is shown, the length of the timeline and a workspace. -/
inductive Reached (start : Workspace) : List Value → List (Scene α) → α → α → Workspace → Prop where
  | start : Reached start [] [] (Quantity.ofDouble .zero) (Quantity.ofDouble .zero) start
  | advance {raws : List Value} {scenes : List (Scene α)} {previous total shown grown : α}
      {middle last : Workspace} {value : Value} {scene : Scene α}
      (earlier : Reached start raws scenes previous total middle)
      (step : (advance prober assets raws.length previous total value).on middle =
        (.ok (scene, shown, grown), last)) :
      Reached start (raws ++ [value]) (scenes ++ [scene]) shown grown last

/-- Reading raw scenes in order fails at the scene of a position. -/
def StopsAt (start : Workspace) (raws : List Value) (index : Nat) (failure : Failure)
    (last : Workspace) : Prop :=
  ∃ scenes previous total middle value,
    Reached prober assets start (raws.take index) scenes previous total middle ∧
    raws[index]? = some value ∧
    (advance prober assets index previous total value).on middle = (.error failure, last)

variable {prober assets} {start middle last : Workspace} {raws : List Value}
  {scenes : List (Scene α)} {previous total : α} {index : Nat} {failure : Failure}

theorem Reached.length_eq (reached : Reached prober assets start raws scenes previous total last) :
    scenes.length = raws.length := by
  induction reached with
  | start => rfl
  | advance _ _ ih => simp only [List.length_append, List.length_singleton, ih]

/-- Induction on the scenes that are read: the rest is read from where they lead. -/
theorem Reached.resume (reached : Reached prober assets start raws scenes previous total middle)
    (rest : List Value) :
    (readScenes prober assets 0 (Quantity.ofDouble .zero) (Quantity.ofDouble .zero)
      (raws ++ rest)).on start =
      (do
        let (later, final) ← readScenes prober assets raws.length previous total rest
        return (scenes ++ later, final)).on middle := by
  induction reached generalizing rest with
  | start =>
    simp only [List.nil_append, List.length_nil]
    exact congrArg (Action.on · start) (bind_pure _).symm
  | @advance raws scenes _ _ shown grown _ last value scene _ step ih =>
    rw [List.append_assoc, ih, List.singleton_append, readScenes_cons, List.length_append]
    simp only [bind_assoc, pure_bind, List.append_assoc, List.singleton_append,
      List.length_singleton]
    rw [Action.on_bind, step]

theorem Reached.readScenes_eq_ok
    (reached : Reached prober assets start raws scenes previous total last) :
    (readScenes prober assets 0 (Quantity.ofDouble .zero) (Quantity.ofDouble .zero) raws).on start =
      (.ok (scenes, total), last) := by
  have all := reached.resume []
  rw [List.append_nil] at all
  rw [all, readScenes, pure_bind]
  dsimp only
  rw [List.append_nil]
  rfl

/-- Where reading stops, it stops for all lists with the same scenes so far. -/
theorem StopsAt.readScenes_append (stops : StopsAt prober assets start raws index failure last)
    (rest : List Value) :
    (readScenes prober assets 0 (Quantity.ofDouble .zero) (Quantity.ofDouble .zero)
      (raws.take (index + 1) ++ rest)).on start = (.error failure, last) := by
  obtain ⟨_, _, _, _, value, reached, found, failed⟩ := stops
  obtain ⟨bounded, rfl⟩ := List.getElem?_eq_some_iff.mp found
  have length : (raws.take index).length = index := List.length_take_of_le bounded.le
  rw [List.take_succ_eq_append_getElem bounded, List.append_assoc, reached.resume, length,
    List.singleton_append, readScenes_cons]
  simp only [bind_assoc]
  rw [Action.on_bind, failed]

theorem StopsAt.index_lt (stops : StopsAt prober assets start raws index failure last) :
    index < raws.length := by
  obtain ⟨_, _, _, _, _, _, found, _⟩ := stops
  exact (List.getElem?_eq_some_iff.mp found).1

theorem StopsAt.append (stops : StopsAt prober assets start raws index failure last)
    (rest : List Value) : StopsAt prober assets start (raws ++ rest) index failure last := by
  have bounded := stops.index_lt
  obtain ⟨scenes, previous, total, middle, value, reached, found, failed⟩ := stops
  refine ⟨scenes, previous, total, middle, value, ?_, ?_, failed⟩
  · rwa [List.take_append_of_le_length bounded.le]
  · rwa [List.getElem?_append_left bounded]

/-- Induction on the list from its end: all scenes are read, or reading stops at one of them. -/
theorem reached_or_stopsAt (prober : Prober α) (assets : Named Upload) (start : Workspace)
    (raws : List Value) :
    (∃ scenes previous total last, Reached prober assets start raws scenes previous total last) ∨
      ∃ index failure last, StopsAt prober assets start raws index failure last := by
  induction raws using List.reverseRecOn with
  | nil => exact .inl ⟨_, _, _, _, .start⟩
  | append_singleton raws value ih =>
    obtain ⟨scenes, previous, total, middle, reached⟩ | ⟨index, failure, last, stops⟩ := ih
    · rcases step : (advance prober assets raws.length previous total value).on middle with
        ⟨failure | ⟨scene, shown, grown⟩, last⟩
      · refine .inr ⟨raws.length, failure, last, ?_⟩
        refine ⟨scenes, previous, total, middle, value, ?_, ?_, step⟩
        · rwa [List.take_left]
        · rw [List.getElem?_append_right le_rfl, Nat.sub_self]
          rfl
      · exact .inl ⟨_, _, _, _, reached.advance step⟩
    · exact .inr ⟨index, failure, last, stops.append [value]⟩

/-- What is read of the first scenes. -/
theorem Reached.take (reached : Reached prober assets start raws scenes previous total last)
    {count : Nat} (within : count ≤ raws.length) :
    ∃ previous total middle,
      Reached prober assets start (raws.take count) (scenes.take count) previous total middle := by
  induction reached with
  | start =>
    obtain rfl := Nat.le_zero.mp within
    exact ⟨_, _, _, .start⟩
  | @advance raws scenes previous total shown grown middle last value scene earlier step ih =>
    obtain before | all := Nat.lt_or_eq_of_le within
    · rw [List.length_append, List.length_singleton] at before
      have inside := Nat.le_of_lt_succ before
      rw [List.take_append_of_le_length inside,
        List.take_append_of_le_length (earlier.length_eq ▸ inside)]
      exact ih inside
    · have step := earlier.advance step
      rw [all, List.take_length, List.take_of_length_le (by rw [step.length_eq])]
      exact ⟨_, _, _, step⟩

theorem validate_of_reached {value : Value} {preset : Preset}
    (opened : value.opening = .ok (preset, raws))
    (reached : Reached prober assets start raws scenes previous total last) :
    (validate prober assets value).on start =
      ((checkTotal total).map fun _ => { preset, scenes, total }, last) := by
  rw [validate_opening, opened, Action.lift_ok_bind]
  dsimp only
  rw [Action.on_bind, reached.readScenes_eq_ok]
  dsimp only
  rw [Action.on_bind, Action.on_lift]
  cases checkTotal total <;> rfl

theorem StopsAt.validate {value : Value} {preset : Preset} {rest : List Value}
    (stops : StopsAt prober assets start raws index failure last)
    (opened : value.opening = .ok (preset, raws.take (index + 1) ++ rest)) :
    (validate prober assets value).on start = (.error failure, last) := by
  rw [validate_opening, opened, Action.lift_ok_bind]
  dsimp only
  rw [Action.on_bind, stops.readScenes_append]

/-- A manifest fails at one of its scenes, or because of its length once all scenes are read. -/
theorem validate_error_iff {value : Value} {preset : Preset}
    (opened : value.opening = .ok (preset, raws)) :
    (Montage.validate prober assets value).on start = (.error failure, last) ↔
      (∃ index, StopsAt prober assets start raws index failure last) ∨
        ∃ scenes previous total, Reached prober assets start raws scenes previous total last ∧
          checkTotal total = .error failure := by
  have split (index : Nat) : raws = raws.take (index + 1) ++ raws.drop (index + 1) :=
    (List.take_append_drop _ _).symm
  constructor
  · intro failed
    obtain ⟨scenes, previous, total, final, reached⟩ | ⟨index, other, final, stops⟩ :=
      reached_or_stopsAt prober assets start raws
    · rw [validate_of_reached opened reached] at failed
      obtain ⟨outcome, rfl⟩ := Prod.mk.inj failed
      refine .inr ⟨scenes, previous, total, reached, ?_⟩
      cases checked : checkTotal total with
      | ok _ =>
        rw [checked] at outcome
        cases outcome
      | error _ =>
        rw [checked] at outcome
        exact congrArg Except.error (Except.error.inj outcome)
    · rw [stops.validate (split index ▸ opened)] at failed
      obtain ⟨same, rfl⟩ := Prod.mk.inj failed
      obtain rfl := Except.error.inj same
      exact .inl ⟨index, stops⟩
  · rintro (⟨index, stops⟩ | ⟨scenes, previous, total, reached, checked⟩)
    · exact stops.validate (split index ▸ opened)
    · rw [validate_of_reached opened reached, checked]
      rfl

/-- A manifest can be cut after each of its scenes. -/
theorem opening_cut {value : Value} {preset : Preset} (opened : value.opening = .ok (preset, raws))
    {count : Nat} (several : 1 ≤ count) :
    (value.withScenes (raws.take count)).opening = .ok (preset, raws.take count) := by
  obtain ⟨notEmpty, few⟩ := opening_count opened
  apply opening_withScenes opened
  · rw [ne_eq, List.take_eq_nil_iff, not_or]
    exact ⟨by omega, List.length_pos_iff.mp notEmpty⟩
  · exact le_trans (List.length_take_le' _ _) few

/-- Others after the scene that validation stops at make no difference. -/
theorem StopsAt.validate_withScenes {value : Value} {preset : Preset}
    (stops : StopsAt prober assets start raws index failure last)
    (opened : value.opening = .ok (preset, raws)) {others : List Value}
    (few : index + 1 + others.length ≤ maxScenes) :
    (Montage.validate prober assets (value.withScenes (raws.take (index + 1) ++ others))).on start =
      (.error failure, last) := by
  have length : (raws.take (index + 1)).length = index + 1 := List.length_take_of_le stops.index_lt
  apply stops.validate
  apply opening_withScenes opened
  · exact List.append_ne_nil_of_left_ne_nil (List.ne_nil_of_length_eq_add_one length) _
  · rw [List.length_append, length]
    exact few

/-- The scenes before the one that validation stops at are read. -/
theorem StopsAt.reached (stops : StopsAt prober assets start raws index failure last) {count : Nat}
    (before : count ≤ index) : ∃ scenes previous total middle,
      Reached prober assets start (raws.take count) scenes previous total middle := by
  have bounded := stops.index_lt
  obtain ⟨_, _, _, _, _, reached, _⟩ := stops
  have within : count ≤ (raws.take index).length := by
    rwa [List.length_take_of_le bounded.le]
  obtain ⟨previous, total, middle, taken⟩ := reached.take within
  rw [List.take_take, Nat.min_eq_left before] at taken
  exact ⟨_, previous, total, middle, taken⟩

end Scenes

section Timelines

open Binary64

variable {prober : Prober Number} {assets : Named Upload} {start last : Workspace}

/-- How much a scene makes a timeline longer, counted exactly. -/
def Scene.exactNet (scene : Scene Number) : ℚ :=
  (scene.shown?.map Number.exact).getD 0 - (scene.crossfade?.join.map Number.exact).getD 0

/-- The length of a timeline, counted exactly. -/
def exactLength (scenes : List (Scene Number)) : ℚ := (scenes.map Scene.exactNet).sum

private theorem longest_spaced :
    longest.isNegative = false ∧
      longest.signedUnits + 2 * Binary64.unit + 2 * spacing longest.signedUnits.toNat <
        2 ^ 53 * spacing longest.signedUnits.toNat ∧
      2 ^ 53 * spacing longest.signedUnits.toNat ≤ rangeEnd ∧
      spacing longest.signedUnits.toNat ≤ epsilon.signedUnits := by
  decide +kernel

variable {scene : Scene Number} {total seconds : Binary64}

theorem SceneTimes.exactNet_nonneg (times : SceneTimes prober assets start last scene seconds)
    (finite : seconds.isFinite = true) : 0 ≤ scene.exactNet := by
  have number : seconds ≠ .nan := by
    rintro rfl
    cases finite
  have forward := (le_iff zero_finite finite).mp (times.counts number)
  rw [exact_zero] at forward
  rw [Scene.exactNet, times.shown]
  cases fades : scene.crossfade? with
  | none => simpa [Number.exact] using forward
  | some length =>
    obtain ⟨overlap, rfl, _⟩ := times.anchored.crossfade length fades
    have short := (times.overlap overlap fades).2 finite
    have net : 0 ≤ seconds.exact - overlap.exact := by linarith [epsilon_pos]
    simpa [Number.exact] using net

/-- A timeline that is too long does not get short enough again: a crossfade takes less away than
its scene adds, by more than the sums are rounded. -/
theorem SceneTimes.grown_above (times : SceneTimes prober assets start last scene seconds)
    (finite : seconds.isFinite = true) (counts : zero.le total = true)
    (above : longest.lt total = true) : longest.lt (scene.grown total seconds) = true := by
  have number : seconds ≠ .nan := by
    rintro rfl
    cases finite
  have secondsCount := times.counts number
  obtain totalFinite | rfl := finite_or_infinite_of_le zero_finite counts
  · unfold Scene.grown
    split
    · rename_i length fades
      obtain ⟨⟨lengthFinite, low, high⟩, short⟩ := times.overlap length fades
      obtain ⟨forward, small, within, margin⟩ := longest_spaced
      have notNegative : 0 * (Binary64.unit : Int) ≤ length.signedUnits * (1 : Nat) :=
        (div_le_exact_iff one_pos).mp (le_trans (by norm_num) low)
      have bounded : length.signedUnits * (1 : Nat) ≤ 2 * Binary64.unit :=
        (exact_le_div_iff one_pos).mp (high.trans (by norm_num))
      have apart := exact_add_le_iff.mp (short finite).le
      apply lt_add_sub longest_finite forward totalFinite finite lengthFinite above
      · omega
      · omega
      · omega
      · exact within
    · have reached : total.le (total + seconds) = true := by
        apply le_add totalFinite finite totalFinite
        rw [le_iff zero_finite finite, exact_zero] at secondsCount
        linarith
      have before := (lt_iff longest_finite totalFinite).mp above
      exact lt_of_next_le longest_finite totalFinite before reached
  · rwa [times.grown_infinite (infinite_add zero_finite secondsCount)]

/-- Induction on the raw scenes: with finite probes no scene takes away from the length of the
timeline, and none makes a timeline short enough that was too long. -/
theorem readScenes_onward (honest : prober.Finite) {values : List Value} {index : Nat}
    {previous final : Number} {scenes : List (Scene Number)} (counts : zero.le total = true)
    (read : (readScenes prober assets index previous (Number.double total) values).on start =
      (.ok (scenes, final), last)) :
    ∃ length, final = .double length ∧ zero.le length = true ∧
      (∀ scene ∈ scenes, 0 ≤ scene.exactNet) ∧
      (longest.lt total = true → longest.lt length = true) := by
  induction values generalizing index previous total start scenes with
  | nil =>
    obtain ⟨rfl, rfl, rfl⟩ := readScenes_nil_eq_ok.mp read
    exact ⟨total, rfl, counts, by simp, id⟩
  | cons value rest ih =>
    obtain ⟨scene, shown, grown, later, middle, readHere, counted, readLater, rfl⟩ :=
      readScenes_cons_eq_ok.mp read
    obtain ⟨seconds, rfl, here⟩ := readScene_times readHere
    obtain rfl := Except.ok.inj ((growTotal_double here.anchored total seconds).symm.trans counted)
    have finite := here.measured honest
    have number : seconds ≠ .nan := by
      rintro rfl
      cases finite
    obtain ⟨length, rfl, forward, nets, onward⟩ := ih (here.grown number counts).1 readLater
    refine ⟨length, rfl, forward, ?_, fun above => ?_⟩
    · exact List.forall_mem_cons.mpr ⟨here.exactNet_nonneg finite, nets⟩
    · exact onward (here.grown_above finite counts above)

theorem exactLength_take {scenes : List (Scene Number)}
    (nets : ∀ scene ∈ scenes, 0 ≤ scene.exactNet) (count : Nat) :
    exactLength (scenes.take count) ≤ exactLength scenes := by
  have rest : 0 ≤ exactLength (scenes.drop count) := by
    apply List.sum_nonneg
    intro net member
    obtain ⟨scene, dropped, rfl⟩ := List.mem_map.mp member
    exact nets scene (List.mem_of_mem_drop dropped)
  have parts : exactLength scenes =
      exactLength (scenes.take count) + exactLength (scenes.drop count) := by
    rw [exactLength, exactLength, exactLength, ← List.sum_append, ← List.map_append,
      List.take_append_drop]
  linarith

/-- All scenes are read without a violation, and the length, counted exactly, is not too long. -/
def AcceptedExactly (prober : Prober Number) (assets : Named Upload) (start : Workspace)
    (value : Value) (preset : Preset) (scenes : List (Scene Number)) : Prop :=
  ∃ raws previous total last, value.opening = .ok (preset, raws) ∧
    Reached prober assets start raws scenes previous total last ∧
    exactLength scenes ≤ longest.exact

/-- The first scenes of a list that is read are read to an accepted length, if the list is. -/
theorem Reached.prefix {raws : List Value} {scenes : List (Scene Number)} {previous total : Number}
    (reached : Reached prober assets start raws scenes previous total last) (honest : prober.Finite)
    {count : Nat} (within : count ≤ raws.length) :
    exactLength (scenes.take count) ≤ exactLength scenes ∧
      ∃ previous shorter middle,
        Reached prober assets start (raws.take count) (scenes.take count) previous shorter middle ∧
        (checkTotal total = .ok () → checkTotal shorter = .ok ()) := by
  have zeroCounts : zero.le zero = true := (le_iff zero_finite zero_finite).mpr le_rfl
  obtain ⟨_, _, _, nets, _⟩ := readScenes_onward honest zeroCounts reached.readScenes_eq_ok
  refine ⟨exactLength_take nets count, ?_⟩
  obtain ⟨previous, shorter, middle, taken⟩ := reached.take within
  refine ⟨previous, shorter, middle, taken, fun accepted => ?_⟩
  have rest := taken.resume (raws.drop count)
  rw [List.take_append_drop, reached.readScenes_eq_ok] at rest
  obtain ⟨⟨later, final⟩, _, readRest, returned⟩ := Action.bind_eq_ok.mp rest.symm
  obtain ⟨same, _⟩ := Prod.mk.inj returned
  obtain ⟨_, rfl⟩ := Prod.mk.inj (Except.ok.inj same)
  obtain ⟨length, rfl, counts, _⟩ := readScenes_onward honest zeroCounts taken.readScenes_eq_ok
  obtain ⟨_, rfl, _, _, onward⟩ := readScenes_onward honest counts readRest
  have short : ¬ longest.lt _ = true := Bool.eq_false_iff.mp (checkTotal_eq_ok.mp accepted)
  exact checkTotal_eq_ok.mpr (Bool.eq_false_iff.mpr fun above => short (onward above))

/-- Validation goes scene by scene. If it fails then at a scene, or because all of them are too
long. Where it fails at a scene it does so with any others after it, and not at the scenes before.
An accepted manifest can be cut after any of its scenes and is then accepted with those before, be
the length counted in doubles or exactly. -/
theorem validate_local {value : Value} {preset : Preset} {raws : List Value}
    (opened : value.opening = .ok (preset, raws)) :
    (∀ failure last, (validate prober assets value).on start = (.error failure, last) →
      (∃ index, StopsAt prober assets start raws index failure last) ∨
        failure = .invalid .scenes (.timelineTooLong maxTotalSeconds)) ∧
    (∀ index failure last, StopsAt prober assets start raws index failure last →
      (∀ others, index + 1 + others.length ≤ maxScenes →
        (validate prober assets (value.withScenes (raws.take (index + 1) ++ others))).on start =
          (.error failure, last)) ∧
      ∀ count, 1 ≤ count → count ≤ index →
        let outcome := ((validate prober assets (value.withScenes (raws.take count))).on start).1
        (∃ manifest, outcome = .ok manifest) ∨
          outcome = .error (.invalid .scenes (.timelineTooLong maxTotalSeconds))) ∧
    (prober.Finite → ∀ count, 1 ≤ count → count ≤ raws.length →
      (∀ manifest last, (validate prober assets value).on start = (.ok manifest, last) →
        ∃ shorter middle,
          (validate prober assets (value.withScenes (raws.take count))).on start =
            (.ok shorter, middle) ∧
          shorter.preset = manifest.preset ∧ shorter.scenes = manifest.scenes.take count) ∧
      ∀ scenes, AcceptedExactly prober assets start value preset scenes →
        AcceptedExactly prober assets start (value.withScenes (raws.take count)) preset
          (scenes.take count)) := by
  have tooLong {total : Number} {failure : Failure} (checked : checkTotal total = .error failure) :
      failure = .invalid .scenes (.timelineTooLong maxTotalSeconds) := by
    rw [checkTotal_number] at checked
    split at checked
    · exact (Except.error.inj checked).symm
    · cases checked
  refine ⟨fun failure last failed => ?_, fun index failure last stops => ⟨?_, ?_⟩, ?_⟩
  · obtain stops | ⟨_, _, _, _, checked⟩ := (validate_error_iff opened).mp failed
    · exact .inl stops
    · exact .inr (tooLong checked)
  · exact fun others few => stops.validate_withScenes opened few
  · intro count several before
    obtain ⟨scenes, previous, total, middle, reached⟩ := stops.reached before
    dsimp only
    rw [validate_of_reached (opening_cut opened several) reached]
    cases checked : checkTotal total with
    | ok _ => exact .inl ⟨_, rfl⟩
    | error failure => exact .inr (congrArg Except.error (tooLong checked))
  · intro honest count several within
    constructor
    · intro manifest last accepted
      obtain ⟨scenes, previous, total, final, reached⟩ | ⟨_, _, _, stops⟩ :=
        reached_or_stopsAt prober assets start raws
      · obtain ⟨_, previous, shorter, middle, taken, kept⟩ := reached.prefix honest within
        rw [validate_of_reached opened reached] at accepted
        obtain ⟨outcome, _⟩ := Prod.mk.inj accepted
        obtain ⟨_, checked, rfl⟩ := Except.map_eq_ok.mp outcome
        refine ⟨⟨preset, scenes.take count, shorter⟩, middle, ?_, rfl, rfl⟩
        rw [validate_of_reached (opening_cut opened several) taken, kept checked]
        rfl
      · cases accepted.symm.trans ((validate_error_iff opened).mpr (.inl ⟨_, stops⟩))
    · rintro scenes ⟨others, _, _, _, reopened, reached, short⟩
      obtain ⟨_, rfl⟩ := Prod.mk.inj (Except.ok.inj (opened.symm.trans reopened))
      obtain ⟨length, previous, shorter, middle, taken, _⟩ := reached.prefix honest within
      exact ⟨_, _, _, _, opening_cut opened several, taken, length.trans short⟩

end Timelines

/-- The cover of `coverAndClip` without its clip. -/
def coverAsset : Named Upload := [("cover", .ofBytes [1] "image/png" none)]

theorem coverAndClip_local :
    ∃ preset raws, coverAndClip.opening = .ok (preset, raws) ∧
      (∃ shorter middle, (validate nineSeconds coverAndClipAssets
        (coverAndClip.withScenes (raws.take 1))).on .bare = (.ok shorter, middle)) ∧
      ∃ index, StopsAt nineSeconds coverAsset .bare raws index
          (.invalid (.asset "clip") (.assetRequired 1)) .bare ∧
        ∀ others, index + 1 + others.length ≤ maxScenes →
          (validate nineSeconds coverAsset
            (coverAndClip.withScenes (raws.take (index + 1) ++ others))).on .bare =
              (.error (.invalid (.asset "clip") (.assetRequired 1)), .bare) := by
  have valid : coverAndClip.opening.isOk = true := by decide +kernel
  obtain ⟨⟨preset, raws⟩, opened⟩ : ∃ read, coverAndClip.opening = .ok read := by
    cases read : coverAndClip.opening with
    | ok found => exact ⟨found, rfl⟩
    | error _ =>
      rw [read] at valid
      cases valid
  refine ⟨preset, raws, opened, ?_, ?_⟩
  · obtain ⟨manifest, last, accepted⟩ := coverAndClip_accepted
    obtain ⟨several, _⟩ := opening_count opened
    obtain ⟨cut, _⟩ := (validate_local opened).2.2 nineSeconds_finite 1 le_rfl several
    obtain ⟨shorter, middle, shortened, _⟩ := cut manifest last accepted
    exact ⟨shorter, middle, shortened⟩
  · have failed : (validate nineSeconds coverAsset coverAndClip).on .bare =
        (.error (.invalid (.asset "clip") (.assetRequired 1)), .bare) := by
      decide +kernel
    obtain ⟨stopsAt, alike, _⟩ := validate_local opened
    obtain ⟨index, stops⟩ | other := stopsAt _ _ failed
    · exact ⟨index, stops, (alike index _ _ stops).1⟩
    · exact absurd other (by decide)

end Montage
