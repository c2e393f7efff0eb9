import Montage.Proofs.Manifest.Offsets

/-! Which crossfades a plan counts and which it blends. Its length counts all of them; a crossfade that
the first scene begins with has no clip to fade from and is never blended, so a plan is too short by
its length. -/

namespace Montage

/-- The lengths that planning a scene asks for are there: how long it is shown, and if it begins with a
crossfade, how long that is. -/
structure Scene.Complete (scene : Scene ℚ) : Prop where
  shown : scene.shown?.isSome = true
  crossfade : scene.crossfade? ≠ some none

/-- How long the crossfades are that scenes begin with. -/
def fades (scenes : List (ScenePlan ℚ)) : List ℚ :=
  (scenes.filter (·.transition == .crossfade)).map ScenePlan.transitionLength

/-- How long the crossfades are between the scenes of a plan. -/
def RenderPlan.fades (plan : RenderPlan ℚ) : List ℚ := Montage.fades (plan.scenes.drop 1)

variable {scene : Scene ℚ} {scenes : List (Scene ℚ)} {plan : RenderPlan ℚ}

theorem Scene.Complete.counted (complete : scene.Complete) : scene.Counted where
  shown := by
    obtain ⟨seconds, shown⟩ := Option.isSome_iff_exists.mp complete.shown
    rw [Scene.seconds, shown, Option.getD_some]
  crossfade := by
    rw [Scene.overlap]
    cases crossfade : scene.crossfade? with
    | none => exact .inl ⟨rfl, rfl⟩
    | some length? =>
      cases length? with
      | none => exact absurd crossfade complete.crossfade
      | some length => exact .inr rfl

/-- A plan has crossfades when it has lengths for them. -/
theorem RenderPlan.hasCrossfade_fades : plan.hasCrossfade = !plan.fades.isEmpty := by
  rw [RenderPlan.hasCrossfade, RenderPlan.fades, Montage.fades, List.isEmpty_map, Bool.eq_iff_iff]
  simp

/-- Planning keeps crossfades as long as they are. -/
theorem planned_fades (counted : ∀ scene ∈ scenes, scene.Counted) :
    scenes.filterMap Scene.crossfade? = (fades (scenes.map Scene.planned)).map some := by
  induction scenes with
  | nil => rfl
  | cons scene rest ih =>
    obtain ⟨here, others⟩ := List.forall_mem_cons.mp counted
    obtain ⟨cut, _⟩ | crossfade := here.crossfade
    · simpa [fades, Scene.planned, cut] using ih others
    · simpa [fades, Scene.planned, crossfade] using ih others

/-- Scenes make a timeline longer by how long they are shown, less the crossfades they begin with. -/
theorem sum_net_fades (counted : ∀ scene ∈ scenes, scene.Counted) :
    ∃ shown : List ℚ, scenes.map Scene.shown? = shown.map some ∧
      (scenes.map Scene.net).sum = shown.sum - (fades (scenes.map Scene.planned)).sum := by
  obtain ⟨shown, overlaps, measured, sum⟩ := exists_measured counted
  have same := measured.overlaps.symm.trans (planned_fades counted)
  exact ⟨shown, measured.shown, (Option.some_injective ℚ).list_map same ▸ sum⟩

section Exact

variable [DoubleReading]

/-- Each scene after the first is blended for as long as its transition takes. -/
theorem crossfadeGraph_lengths {scenes : List (ScenePlan ℚ)} (some : scenes ≠ []) :
    ∃ graph blends, crossfadeGraph scenes = .ok (graph, blends) ∧
      blends.map Blend.length = (scenes.drop 1).map ScenePlan.blendLength := by
  obtain ⟨graph, blends, drawn, length, counted⟩ := crossfadeGraph_counted some
  refine ⟨graph, blends, drawn, List.ext_getElem (by simp [← length]) fun index inside _ => ?_⟩
  rw [List.length_map] at inside
  obtain ⟨⟨scene, found, own⟩, _⟩ := counted index _ (List.getElem?_eq_getElem inside)
  obtain ⟨_, rfl⟩ := List.getElem?_eq_some_iff.mp found
  simp [own]

/-- A plan is as long as its scenes are shown, less the crossfades between them, which are the ones it
blends; but it is shorter by the crossfade that its first scene begins with, which it does not blend. -/
theorem plan_shortened {manifest : Manifest ℚ} {paths : Named Path} (notEmpty : manifest.scenes ≠ [])
    (complete : ∀ scene ∈ manifest.scenes, scene.Complete)
    (covered : ∀ scene ∈ manifest.scenes, (paths.get? scene.asset).isSome = true) (audio : Path) :
    ∃ plan first, ∃ shown : List ℚ, manifest.plan paths audio = .ok plan ∧
      manifest.scenes.head? = some first ∧ manifest.scenes.map Scene.shown? = shown.map some ∧
      (manifest.scenes.drop 1).filterMap Scene.crossfade? = plan.fades.map some ∧
      plan.total = shown.sum - plan.fades.sum - first.overlap ∧
      (plan.total = shown.sum - plan.fades.sum ↔ first.overlap = 0) ∧
      plan.hasCrossfade = !plan.fades.isEmpty ∧
      ∃ graph blends, crossfadeGraph plan.scenes = .ok (graph, blends) ∧
        blends.map Blend.length = (plan.scenes.drop 1).map ScenePlan.blendLength := by
  have counted scene member := (complete scene member).counted
  have planned := plan_counted notEmpty counted covered audio
  obtain ⟨first, rest, listed⟩ := List.exists_cons_of_ne_nil notEmpty
  rw [listed] at counted planned ⊢
  obtain ⟨here, others⟩ := List.forall_mem_cons.mp counted
  obtain ⟨shown, lengths, sum⟩ := sum_net_fades others
  have total : ((first :: rest).map Scene.net).sum =
      (first.seconds :: shown).sum - (fades (rest.map Scene.planned)).sum - first.overlap := by
    rw [List.map_cons, List.sum_cons, List.sum_cons, sum, Scene.net]
    ring
  refine ⟨_, first, first.seconds :: shown, planned, rfl, ?_, planned_fades others, total, ?_,
    RenderPlan.hasCrossfade_fades, crossfadeGraph_lengths (List.cons_ne_nil _ _)⟩
  · rw [List.map_cons, List.map_cons, here.shown, lengths]
  · show ((first :: rest).map Scene.net).sum = _ - (fades (rest.map Scene.planned)).sum ↔ _
    rw [total]
    exact sub_eq_self

end Exact

/-- An image that fades in. -/
def fadingImage (seconds length : ℚ) : Scene ℚ where
  asset := "cover"
  kind := .image
  duration := some seconds
  clipStart := 0
  clipLength := none
  motion := .none
  caption := none
  transition := some ⟨.crossfade, some length⟩
  visualEdit := none

theorem fadingImage_complete (seconds length : ℚ) : (fadingImage seconds length).Complete where
  shown := rfl
  crossfade := nofun

/-- Images of three and two seconds that fade for one second and for half a second are planned for
seven halves of a second, though the first has nothing to fade from. -/
theorem fadingImages_shortened :
    letI : DoubleReading := .thousandth
    let manifest : Manifest ℚ := ⟨.landscape, [fadingImage 3 1, fadingImage 2 (1 / 2)], 0⟩
    let paths : Named Path := [("cover", .ofText "/cover.png")]
    manifest.scenes ≠ [] ∧ (∀ scene ∈ manifest.scenes, scene.Complete) ∧
      (∀ scene ∈ manifest.scenes, (paths.get? scene.asset).isSome = true) ∧
      ∃ plan, manifest.plan paths (.ofText "/audio.wav") = .ok plan ∧
        plan.fades = [1 / 2] ∧ plan.total = 7 / 2 := by
  let _ : DoubleReading := .thousandth
  intro manifest paths
  have complete : ∀ scene ∈ manifest.scenes, scene.Complete := by
    simp [manifest, fadingImage_complete]
  have covered : ∀ scene ∈ manifest.scenes, (paths.get? scene.asset).isSome = true := by decide
  refine ⟨List.cons_ne_nil _ _, complete, covered, ?_⟩
  obtain ⟨plan, first, shown, planned, head, lengths, fades, total, _⟩ :=
    plan_shortened (List.cons_ne_nil _ _) complete covered (.ofText "/audio.wav")
  obtain rfl := Option.some.inj head
  have shown : [3, 2] = shown := (Option.some_injective ℚ).list_map lengths
  have fades : [1 / 2] = plan.fades := (Option.some_injective ℚ).list_map fades
  refine ⟨plan, planned, fades.symm, ?_⟩
  rw [total, ← shown, ← fades]
  norm_num [fadingImage, Scene.overlap, Scene.crossfade?]

/-- A single image that fades in is planned for two of its three seconds, although its plan has no
crossfade. -/
theorem fadingImage_short :
    letI : DoubleReading := .thousandth
    let manifest : Manifest ℚ := ⟨.landscape, [fadingImage 3 1], 0⟩
    let paths : Named Path := [("cover", .ofText "/cover.png")]
    manifest.scenes ≠ [] ∧ (∀ scene ∈ manifest.scenes, scene.Complete) ∧
      (∀ scene ∈ manifest.scenes, (paths.get? scene.asset).isSome = true) ∧
      manifest.scenes.map Scene.shown? = [some 3] ∧
      ∃ plan, manifest.plan paths (.ofText "/audio.wav") = .ok plan ∧
        plan.fades = [] ∧ plan.hasCrossfade = false ∧ plan.total = 2 := by
  let _ : DoubleReading := .thousandth
  intro manifest paths
  have complete : ∀ scene ∈ manifest.scenes, scene.Complete := by
    simp [manifest, fadingImage_complete]
  have covered : ∀ scene ∈ manifest.scenes, (paths.get? scene.asset).isSome = true := by decide
  refine ⟨List.cons_ne_nil _ _, complete, covered, rfl, _, plan_counted (List.cons_ne_nil _ _)
    (fun scene member => (complete scene member).counted) covered _, rfl, rfl, ?_⟩
  norm_num [manifest, fadingImage, Scene.net, Scene.seconds, Scene.shown?, Scene.overlap,
    Scene.crossfade?]

end Montage
