import Montage.Command
import Montage.Proofs.Outcome

/-! The arguments of a command as the tool takes them: the name of the tool, then options, each with
a value unless it stands alone, then a file. -/

namespace Montage

/-- Options that have no value. -/
def loneOptions : List String := ["-y", "-an", "-shortest"]

/-- Options with their values, in the order of the arguments. -/
def optionPairs : List String → List (String × String)
  | option :: value :: rest =>
    if option ∈ loneOptions then optionPairs (value :: rest)
    else (option, value) :: optionPairs rest
  | _ => []

/-- The values that a command gives for an option. -/
def optionValues (option : String) (arguments : List String) : List String :=
  ((optionPairs arguments.tail).filter (·.1 = option)).map Prod.snd

theorem optionPairs_lone {option : String} (lone : option ∈ loneOptions) (rest : List String) :
    optionPairs (option :: rest) = optionPairs rest := by
  cases rest with
  | nil => rfl
  | cons value rest => rw [optionPairs, if_pos lone]

theorem optionPairs_valued {option : String} (valued : option ∉ loneOptions) (value : String)
    (rest : List String) :
    optionPairs (option :: value :: rest) = (option, value) :: optionPairs rest := by
  rw [optionPairs, if_neg valued]

/-- One option that is given for each of some values. -/
theorem optionPairs_repeated {option : String} (valued : option ∉ loneOptions)
    (values rest : List String) :
    optionPairs (values.flatMap (fun value => [option, value]) ++ rest) =
      values.map (option, ·) ++ optionPairs rest := by
  induction values with
  | nil => rfl
  | cons value others ih =>
    rw [List.flatMap_cons, List.append_assoc, List.map_cons]
    exact (optionPairs_valued valued value _).trans (congrArg ((option, value) :: ·) ih)

/-- Values that are all given for one option are found under it alone. -/
theorem values_named (name option : String) (values : List String) :
    ((values.map (name, ·)).filter (·.1 = option)).map Prod.snd =
      if name = option then values else [] := by
  rw [List.filter_map, List.map_map]
  by_cases same : name = option
  · simp [same, Function.comp_def]
  · simp [same, Function.comp_def]

variable {α : Type} [Quantity α] {tool : String} {asset output : Path} {arguments : List String}

/-- The command for a scene gives its duration once, and once its chain of filters. -/
theorem ScenePlan.command_options {scene : ScenePlan α} {preset : Preset}
    (written : scene.command tool asset preset output = .ok arguments) :
    ∃ duration chain, decimals scene.duration = .ok duration ∧
      scene.chain preset.width preset.height = .ok chain ∧
      optionValues "-t" arguments = [duration] ∧ optionValues "-vf" arguments = [chain] ∧
      optionValues "-i" arguments = [asset.text] := by
  unfold ScenePlan.command at written
  split at written
  · simp only [imageCommand, Except.bind_eq_ok, Except.pure_eq_ok] at written
    obtain ⟨duration, writtenDuration, chain, writtenChain, rfl⟩ := written
    refine ⟨duration, chain, writtenDuration, writtenChain, ?_⟩
    simp [optionValues, optionPairs, loneOptions, videoCodec]
  · simp only [videoCommand, Except.bind_eq_ok, Except.pure_eq_ok] at written
    obtain ⟨start, _, duration, writtenDuration, chain, writtenChain, rfl⟩ := written
    refine ⟨duration, chain, writtenDuration, writtenChain, ?_⟩
    simp [optionValues, optionPairs, loneOptions, videoCodec]

/-- The command that joins clips takes them as its inputs, and maps the output of the graph. -/
theorem combineCommand_options {clips : List Path} {scenes : List (ScenePlan α)} {crossfade : Bool}
    (written : combineCommand tool clips scenes output crossfade = .ok arguments) :
    ∃ graph, joinGraph clips scenes crossfade = .ok graph ∧
      optionValues "-i" arguments = clips.map Path.text ∧
      optionValues "-filter_complex" arguments = [graph.text] ∧
      optionValues "-map" arguments = [bracketed graph.output] := by
  obtain ⟨graph, joined, same⟩ := Except.bind_eq_ok.mp written
  obtain rfl := Except.pure_eq_ok.mp same
  refine ⟨graph, joined, ?_⟩
  have inputs : clips.flatMap (fun clip => ["-i", clip.text]) =
      (clips.map Path.text).flatMap fun file => ["-i", file] := by
    rw [List.flatMap_map]
  have pairs : optionPairs (List.tail ([tool, "-y"] ++
      clips.flatMap (fun clip => ["-i", clip.text]) ++
      ["-filter_complex", graph.text, "-map", bracketed graph.output] ++ videoCodec ++
      [output.text])) = (clips.map Path.text).map ("-i", ·) ++
        ("-filter_complex", graph.text) :: ("-map", bracketed graph.output) ::
        optionPairs (videoCodec ++ [output.text]) := by
    rw [inputs]
    simp only [List.append_assoc, List.cons_append, List.nil_append, List.tail_cons]
    rw [optionPairs_lone (by decide), optionPairs_repeated (by decide),
      optionPairs_valued (by decide), optionPairs_valued (by decide)]
  have codec : optionPairs (videoCodec ++ [output.text]) =
      [("-c:v", "libx264"), ("-preset", "veryfast"), ("-crf", "23"), ("-pix_fmt", "yuv420p")] := rfl
  refine ⟨?_, ?_, ?_⟩
  · rw [optionValues, pairs, codec, List.filter_append, List.map_append, values_named]
    simp
  · rw [optionValues, pairs, codec, List.filter_append, List.map_append, values_named]
    simp
  · rw [optionValues, pairs, codec, List.filter_append, List.map_append, values_named]
    simp

end Montage
