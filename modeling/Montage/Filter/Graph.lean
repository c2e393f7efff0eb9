import Montage.Filter.Caption
import Montage.Filter.Color
import Montage.Plan

/-!
Chains of filters for one scene, and the graphs that join the clips of all scenes.

A graph is a list of filters with labelled inputs and outputs. Clips are joined one after the
other, or, if one of them begins with a crossfade, every clip is blended into what came before; a
cut between them is then a blend too short to see.
-/

namespace Montage

variable {α : Type} [Quantity α]

/-- The filter that moves the frame over an image, none for a video. -/
def ScenePlan.motionFilters (scene : ScenePlan α) (width height : Int) :
    Except Fault (List String) :=
  match scene.kind, scene.motion with
  | .video, _ | .image, .none => .ok []
  | .image, motion => (motionFilter motion scene.duration width height).map Option.toList

/-- The filter for a caption, none if there is none. -/
def captionFilters (caption : Option (Caption α)) (width height : Int) :
    Except Fault (List String) :=
  match caption with
  | none => .ok []
  | some caption => (caption.filter width height).map fun filter => [filter]

/-- All filters for a scene, in their order. -/
def ScenePlan.filters (scene : ScenePlan α) (width height : Int) : Except Fault (List String) := do
  let moved ← scene.motionFilters width height
  let edited ← editFilters scene.visualEdit
  let captioned ← captionFilters scene.caption width height
  return fitFilter width height :: (moved ++ edited ++ captioned)

/-- The chain of filters for a scene. -/
def ScenePlan.chain (scene : ScenePlan α) (width height : Int) : Except Fault String := do
  return String.intercalate "," (← scene.filters width height)

/-- A filter of a graph between its inputs and its output. -/
structure GraphFilter where
  inputs : List String
  body : String
  output : String
  deriving DecidableEq, Repr

/-- Filters that join clips, and the label of the joined video. -/
structure FilterGraph where
  filters : List GraphFilter
  output : String
  deriving DecidableEq, Repr

/-- A label as a graph writes it. -/
def bracketed (label : String) : String :=
  "[" ++ label ++ "]"

/-- The text of a filter of a graph. -/
def GraphFilter.text (filter : GraphFilter) : String :=
  String.join (filter.inputs.map bracketed) ++ filter.body ++ bracketed filter.output

/-- The text of a graph. -/
def FilterGraph.text (graph : FilterGraph) : String :=
  String.intercalate ";" (graph.filters.map GraphFilter.text)

/-- The video of the clip at a position. -/
def clipLabel (index : Nat) : String :=
  digitsOf index ++ ":v"

/-- Joins this many clips one after the other. -/
def concatGraph (count : Int) : FilterGraph where
  filters := [{
    inputs := (List.range count.toNat).map clipLabel
    body := "concat=n=" ++ wholeText count ++ ":v=1:a=0"
    output := "v" }]
  output := "v"

/-- A blend of a clip into the joined clips before it: how long it takes and when it starts. -/
structure Blend (α : Type) where
  length : α
  offset : α
  deriving DecidableEq

/-- The length of the blend that stands for a cut, in seconds: `0.001`. -/
def cutBlend : Binary64 := .ofDecimal false 1 (-3)

/-- How long the blend into a scene takes. -/
def ScenePlan.blendLength (scene : ScenePlan α) : α :=
  match scene.transition with
  | .crossfade => scene.transitionLength
  | .cut => Quantity.ofDouble cutBlend

/-- The blends into the scenes that follow joined clips of a length. Each ends where the joined
clips end, but none starts before they do. -/
def blendsAfter (joined : α) : List (ScenePlan α) → Except Fault (List (Blend α))
  | [] => .ok []
  | scene :: rest => do
    let length := scene.blendLength
    let start ← Quantity.sub joined length
    let zero := Quantity.ofDouble Binary64.zero
    let offset := if Quantity.lt start zero then zero else start
    let grown ← Quantity.sub scene.duration length >>= Quantity.add joined
    return ⟨length, offset⟩ :: (← blendsAfter grown rest)

/-- The blends into all scenes but the first. -/
def blends : List (ScenePlan α) → Except Fault (List (Blend α))
  | [] => .error .outOfBounds
  | first :: rest => blendsAfter first.duration rest

/-- The label of the clips joined up to a position. -/
def joinedLabel : Nat → String
  | 0 => clipLabel 0
  | index + 1 => "xf" ++ digitsOf (index + 1)

/-- The filter that blends the clip at a position into the clips before it. -/
def Blend.filter (index : Nat) (blend : Blend α) : Except Fault GraphFilter := do
  return {
    inputs := [joinedLabel (index - 1), clipLabel index]
    body := "xfade=transition=fade:duration=" ++ (← decimals blend.length) ++
      ":offset=" ++ (← decimals blend.offset)
    output := joinedLabel index }

/-- The filters that blend clips from a position on. -/
def blendFilters (index : Nat) : List (Blend α) → Except Fault (List GraphFilter)
  | [] => .ok []
  | blend :: rest => do return (← blend.filter index) :: (← blendFilters (index + 1) rest)

/-- Blends every clip into those before it. -/
def crossfadeGraph (scenes : List (ScenePlan α)) : Except Fault (FilterGraph × List (Blend α)) := do
  let blends ← blends scenes
  return (⟨← blendFilters 1 blends, joinedLabel blends.length⟩, blends)

end Montage
