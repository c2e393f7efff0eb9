import Montage.Console.Session
import Montage.Proofs.Job.Setback
import Montage.Proofs.Number.FixedPoint
import Montage.Proofs.Precision

/-! For how long an image is shown, as the tool is told. A job has a length within the bounds of
submissions. A command has whatever its switch reads as: a number that is not positive is turned away,
but what is no number is not, nor what has no end, nor what is too short to be written. -/

namespace Montage

/-- A call by which an image is shown for a length of time, in seconds. -/
structure Call.Lasts (call : Call) (allowed : ℚ → Prop) : Prop where
  stage : call.stage = "render still video"
  length : ∃ text seconds, optionValues "-t" call.arguments = [text] ∧
    readDecimal? text = some seconds ∧ allowed seconds

section Calls

variable {α : Type} [Quantity α] {tool : String} {image audio output : Path} {duration : α}
  {arguments : List String} {text : String}

theorem stillCommand_length (written : decimals duration = .ok text) :
    ∃ arguments, stillCommand tool image audio duration output = .ok arguments ∧
      optionValues "-t" arguments = [text] := by
  rw [stillCommand, written]
  refine ⟨_, rfl, ?_⟩
  simp [optionValues, optionPairs, loneOptions, videoCodec, audioCodec]

/-- An image is rendered with one call of the tool, which is told the length once. -/
theorem Renderer.renderStill_calls (renderer : Renderer) (image audio output : Path)
    (written : decimals duration = .ok text) (start : Workspace) :
    ∃ call, ((renderer.renderStill image audio duration output).on start).2.calls =
        start.calls ++ [call] ∧
      call.stage = "render still video" ∧ optionValues "-t" call.arguments = [text] := by
  obtain ⟨arguments, command, length⟩ := @stillCommand_length _ _ renderer.toolName image audio
    output _ _ written
  rw [Renderer.renderStill, command]
  exact ⟨_, runStage_calls _ arguments start, rfl, length⟩

end Calls

section Jobs

variable {whole : Int} {value : Binary64}

theorem Binary64.whole_le_exact_iff :
    (whole : ℚ) ≤ value.exact ↔ whole * unit ≤ value.signedUnits := by
  have scaled := @div_le_exact_iff value whole 1 Nat.one_pos
  rwa [Nat.cast_one, div_one, Nat.cast_one, mul_one] at scaled

theorem Binary64.exact_le_whole_iff :
    value.exact ≤ (whole : ℚ) ↔ value.signedUnits ≤ whole * unit := by
  have scaled := @exact_le_div_iff value whole 1 Nat.one_pos
  rwa [Nat.cast_one, div_one, Nat.cast_one, mul_one] at scaled

theorem Number.int_le_double : (Number.int whole).le (.double value) = true ↔
    value = .infinite false ∨ (value.isFinite = true ∧ whole ≤ value.exact) := by
  cases value with
  | nan => simp [le, compare?, compare?.against, Binary64.isFinite]
  | infinite negative => cases negative <;> simp [le, compare?, compare?.against, Binary64.isFinite]
  | finite negative units representable =>
    rw [Binary64.whole_le_exact_iff, le_iff_lt_or_eq]
    simp [le, compare?, compare?.against, Binary64.isFinite, Int.compare_eq_lt]

theorem Number.double_le_int : (Number.double value).le (.int whole) = true ↔
    value = .infinite true ∨ (value.isFinite = true ∧ value.exact ≤ whole) := by
  cases value with
  | nan => simp [le, compare?, compare?.against, Binary64.isFinite]
  | infinite negative => cases negative <;> simp [le, compare?, compare?.against, Binary64.isFinite]
  | finite negative units representable =>
    rw [Binary64.exact_le_whole_iff, le_iff_lt_or_eq]
    simp [le, compare?, compare?.against, Binary64.isFinite, Int.compare_swap, Int.compare_eq_lt]

/-- The number is within the bounds of submissions, whole or a double. -/
theorem checkDuration_ok {given : Value} {duration : Number}
    (checked : checkDuration given = .ok duration) :
    duration.isFinite = true ∧ 1 ≤ duration.exact ∧ duration.exact ≤ 36000 := by
  cases given with
  | int whole =>
    rw [checkDuration] at checked
    dsimp only at checked
    split at checked
    · rename_i within
      obtain rfl := Except.ok.inj checked
      have bounds : 1 ≤ whole ∧ whole ≤ 36000 := by
        simpa [Number.le, Number.compare?, Int.compare_eq_lt, ← le_iff_lt_or_eq, minStillSeconds,
          maxTotalSeconds] using within
      rw [Number.exact]
      exact ⟨rfl, mod_cast bounds.1, mod_cast bounds.2⟩
    · cases checked
  | double value =>
    rw [checkDuration] at checked
    dsimp only at checked
    split at checked
    · rename_i within
      obtain rfl := Except.ok.inj checked
      rw [Bool.and_eq_true, Number.int_le_double, Number.double_le_int] at within
      obtain ⟨rfl | ⟨finite, above⟩, below⟩ := within
      · simp [Binary64.isFinite] at below
      · obtain rfl | ⟨_, below⟩ := below
        · cases finite
        · exact ⟨finite, mod_cast above, mod_cast below⟩
    · cases checked
  | _ => cases checked

/-- What is within bounds of 53 binary digits is written within them. -/
theorem decimals_within {duration : Number} {low high : Int} (finite : duration.isFinite = true)
    (above : low ≤ duration.exact) (below : duration.exact ≤ high) (small : low.natAbs < 2 ^ 53)
    (large : high.natAbs < 2 ^ 53) :
    ∃ text seconds, decimals duration = .ok text ∧ readDecimal? text = some seconds ∧
      low ≤ seconds ∧ seconds ≤ high := by
  cases duration with
  | int whole =>
    have lower : low ≤ whole := Int.cast_le.mp above
    have upper : whole ≤ high := Int.cast_le.mp below
    obtain ⟨rounded, exact⟩ := Binary64.exact_nearestInt (by omega : whole.natAbs < 2 ^ 53)
    have within : |(whole : ℚ)| < Binary64.limit := (Binary64.isFinite_nearestInt_iff whole).mp rounded
    obtain ⟨thousandths, written⟩ := Binary64.fixed_isWrittenAs rounded
    exact ⟨_, _, decimals_int_of_lt within, written.reads,
      written.between (exact.symm ▸ above) (exact.symm ▸ below)⟩
  | double value =>
    obtain ⟨thousandths, written⟩ := Binary64.fixed_isWrittenAs finite
    exact ⟨_, _, rfl, written.reads, written.between above below⟩

variable {α : Type} [Quantity α] {services : Services α} {request : StillRequest}
  {studio last : Studio α} {job : JobId}

/-- The task waits, or was carried out. -/
def Task.HandedOver (services : Services α) (task : Task α) (studio last : Studio α) : Prop :=
  match studio.desk.schedule with
  | .later => last.desk.queue = studio.desk.queue ++ [task]
  | .atOnce => ∃ entered,
      last.workspace = ((Operation.perform services task).on entered).2.workspace

theorem dispatch_handedOver {task : Task α} {owned : List Path}
    (dispatched : (Operation.dispatch services task owned).on studio = (.ok (), last)) :
    task.HandedOver services studio last := by
  cases refusal : studio.desk.refusal with
  | some failure =>
    rw [Operation.dispatch_refused refusal] at dispatched
    cases dispatched
  | none =>
    rw [Operation.dispatch, Operation.on_bind, Operation.on_desk] at dispatched
    simp only [refusal] at dispatched
    rw [Task.HandedOver]
    cases schedule : studio.desk.schedule with
    | later =>
      rw [schedule] at dispatched
      obtain rfl := congrArg Prod.snd dispatched
      simp [Operation.handOver, Operation.on_bind, Desk.accept]
    | atOnce =>
      rw [schedule, (Operation.handOver_atOnce services task studio).1] at dispatched
      obtain rfl := congrArg Prod.snd dispatched
      exact ⟨_, rfl⟩

/-- An accepted request for an image has a task for the length that was checked. -/
theorem submitStill_handedOver
    (accepted : (Operation.submitStill services request).on studio = (.ok job, last)) :
    ∃ duration copies, checkDuration request.duration = .ok duration ∧
      (Operation.stillTask request duration job copies).HandedOver services studio last := by
  rw [Operation.submitStill, Operation.on_bind, Operation.on_act, Action.on_lift] at accepted
  cases checked : checkDuration request.duration with
  | error failure =>
    rw [checked] at accepted
    cases accepted
  | ok duration =>
    rw [checked] at accepted
    dsimp only at accepted
    rcases copied : request.copies.collect.on studio.workspace with
      ⟨failure | ⟨copies, owned⟩, workspace⟩
    · rw [Operation.enter_uncopied copied] at accepted
      cases accepted
    · obtain ⟨status, entered, _, _, done⟩ := Operation.enter_copied copied services request.options
        (Operation.stillTask request duration)
      rw [done, Operation.on_bind] at accepted
      rcases dispatched : (Operation.dispatch services
          (Operation.stillTask request duration status.id copies) owned).on
            ⟨studio.desk.register status, entered⟩ with ⟨failure | _, reached⟩
      · rw [dispatched] at accepted
        cases accepted
      · rw [dispatched] at accepted
        obtain ⟨same, rfl⟩ := Prod.mk.inj accepted
        obtain rfl := Except.ok.inj same
        have handedOver : Task.HandedOver services _ ⟨studio.desk.register status, entered⟩ reached :=
          dispatch_handedOver dispatched
        exact ⟨duration, copies, rfl, handedOver⟩

end Jobs

section Commands

variable {line : List String} {image audio output : String} {duration : Binary64}

theorem Request.ofCommand_still {command : CommandName} {words : List String}
    (asked : ofCommand command words = .ok (.still image audio duration output)) :
    duration.le .zero = false := by
  cases command with
  | generate =>
    obtain ⟨given, _, asked⟩ := Except.bind_eq_ok.mp asked
    rw [ofGenerate] at asked
    split at asked
    · cases asked
    · rename_i positive
      cases asked
      exact Bool.eq_false_iff.mpr positive
  | render =>
    obtain ⟨given, _, asked⟩ := Except.bind_eq_ok.mp asked
    rw [ofRender] at asked
    split at asked
    · cases asked
    · split at asked <;> cases asked
  | submit =>
    obtain ⟨given, _, asked⟩ := Except.bind_eq_ok.mp asked
    rw [ofSubmit] at asked
    split at asked <;> cases asked
  | check => cases asked

/-- A command line that asks for a video of an image does not ask for a length that is known not to be
positive. -/
theorem Request.read_still (asked : Request.read line = .ok (.still image audio duration output)) :
    duration.le .zero = false := by
  obtain ⟨⟨before, command⟩, _, asked⟩ := Except.bind_eq_ok.mp asked
  dsimp only at asked
  split at asked
  · cases asked
  · split at asked
    · cases asked
    · obtain ⟨given, _, asked⟩ := Except.bind_eq_ok.mp asked
      exact ofCommand_still asked

/-- What is not known to be at most zero: no number, what has no end, and what is positive. -/
theorem Binary64.le_zero_eq_false : duration.le .zero = false ↔
    duration = .nan ∨ duration = .infinite false ∨ (duration.isFinite = true ∧ 0 < duration.exact) := by
  cases duration with
  | nan => simp [le, compare?]
  | infinite negative =>
    obtain ⟨_, _, _, same⟩ := finite_of_isFinite zero_finite
    rw [same]
    cases negative <;> simp [le, compare?, isFinite]
  | finite negative units representable =>
    rw [Bool.eq_false_iff, ne_eq, le_iff rfl zero_finite, exact_zero, not_le]
    simp [isFinite]

/-- A length is written as a number that is positive exactly if it is more than half a thousandth. -/
theorem Binary64.fixed_positive_iff (notBelow : duration.le .zero = false) :
    (∃ seconds, readDecimal? (duration.fixed 3) = some seconds ∧ 0 < seconds) ↔
      duration.isFinite = true ∧ 1 / 2000 < duration.exact := by
  rcases le_zero_eq_false.mp notBelow with rfl | rfl | ⟨finite, positive⟩
  · have none : readDecimal? (Binary64.nan.fixed 3) = none := by decide +kernel
    simp [none, isFinite]
  · have none : readDecimal? ((Binary64.infinite false).fixed 3) = none := by decide +kernel
    simp [none, isFinite]
  · obtain ⟨shown, read, long⟩ := (printed_fixed finite positive.le).pos_iff
    simp [read, finite, long]

section Beside

variable {kept : List Call → Prop}

theorem print_calls (text : String) : (Action.print text).Keeps fun workspace => kept workspace.calls := by
  intro start right
  have printed : ((Action.print text).on start).2.calls = start.calls := by
    rw [show ((Action.print text).on start).2 = start.note (.printed text) from rfl]
    simp [Workspace.calls, Workspace.note]
  rwa [printed]

theorem requireInput_calls (path : String) :
    (requireInput path).Keeps fun workspace => kept workspace.calls := by
  refine (Action.keeps_look _).bind fun there => ?_
  cases there with
  | true => exact Action.keeps_pure ()
  | false => exact Action.keeps_throw _

theorem makeParent_calls (file : Path) :
    (makeParent file).Keeps fun workspace => kept workspace.calls :=
  Action.Keeps.bind (fun start right => (checkPath_ensures start right).1) fun _ _ right => right

end Beside

/-- A command for an image calls the tool once, unless something fails before. -/
theorem Console.still_calls (console : Console) (start : Workspace) :
    ∃ calls, ((console.still image audio duration output).on start).2.calls = start.calls ++ calls ∧
      calls.length ≤ 1 ∧ ∀ call ∈ calls, call.stage = "render still video" ∧
        optionValues "-t" call.arguments = [duration.fixed 3] := by
  let promised (calls : List Call) : Prop := ∃ more, calls = start.calls ++ more ∧ more.length ≤ 1 ∧
    ∀ call ∈ more, call.stage = "render still video" ∧
      optionValues "-t" call.arguments = [duration.fixed 3]
  let none (calls : List Call) : Prop := calls = start.calls
  have silent (workspace : Workspace) (same : none workspace.calls) :
      promised workspace.calls := ⟨[], by simpa using same, by simp, by simp⟩
  have rendered : (console.renderer.renderStill (Path.ofText image) (Path.ofText audio) duration
      (Path.ofText output)).Ensures (·.calls = start.calls) fun _ last => promised last.calls := by
    intro workspace same
    have written : decimals duration = .ok (duration.fixed 3) := rfl
    obtain ⟨call, calls, stage, length⟩ := console.renderer.renderStill_calls (Path.ofText image)
      (Path.ofText audio) (Path.ofText output) written workspace
    exact ⟨[call], same ▸ calls, le_rfl, by simpa using ⟨stage, length⟩⟩
  have all : (console.still image audio duration output).Ensures (·.calls = start.calls)
      fun _ last => promised last.calls := by
    refine Action.Ensures.bind (@requireInput_calls none image) (fun _ => ?_) fun _ => silent
    refine Action.Ensures.bind (@requireInput_calls none audio) (fun _ => ?_) fun _ => silent
    refine Action.Ensures.bind (@makeParent_calls none _) (fun _ => ?_) fun _ => silent
    refine Action.Ensures.bind (@print_calls none _) (fun _ => ?_) fun _ => silent
    exact Action.Ensures.bind rendered (fun _ => @print_calls promised _) fun _ _ right => right
  exact all start rfl

end Commands

/-- A command for an image tells the tool a length that reads as more than nothing exactly if it is
finite and more than half a millisecond. What it is told else is no number, or has no end, or is too
short. A job is rendered for a length within the bounds of submissions. -/
theorem still_lengths {α : Type} [Quantity α] :
    (∀ (console : Console) (line : List String) (start : Workspace) (image audio output : String)
      (duration : Binary64), Request.read line = .ok (.still image audio duration output) →
      (duration = .nan ∨ duration = .infinite false ∨
        (duration.isFinite = true ∧ 0 < duration.exact)) ∧
      ∃ calls, ((console.run line).on start).2.calls = start.calls ++ calls ∧ calls.length ≤ 1 ∧
        ∀ call ∈ calls, optionValues "-t" call.arguments = [duration.fixed 3] ∧
          (call.Lasts (0 < ·) ↔ duration.isFinite = true ∧ 1 / 2000 < duration.exact)) ∧
    ∀ (services : Services α) (request : StillRequest) (studio last : Studio α) (job : JobId),
      (Operation.submitStill services request).on studio = (.ok job, last) →
      ∃ task : Task α, task.job = job ∧ task.HandedOver services studio last ∧
        ∀ (renderer : Renderer) (clock : Nat → Instant) (prober : Prober α) (publisher : Publisher)
          (output : Path) (start : Workspace), ∃ call,
          ((task.work.render (renderer.services clock prober publisher) task.audio output).on
            start).2.calls = start.calls ++ [call] ∧
          call.Lasts fun seconds => 1 ≤ seconds ∧ seconds ≤ 36000 := by
  constructor
  · intro console line start image audio output duration asked
    have notBelow := Request.read_still asked
    refine ⟨Binary64.le_zero_eq_false.mp notBelow, ?_⟩
    obtain ⟨calls, listed, few, told⟩ := @Console.still_calls image audio output duration console start
    have same : ((console.run line).on start).2 =
        ((console.still image audio duration output).on start).2 := by
      rw [Console.run, asked]
      exact Action.bind_return _ _
    refine ⟨calls, same ▸ listed, few, fun call member => ?_⟩
    obtain ⟨stage, length⟩ := told call member
    refine ⟨length, ?_⟩
    rw [← Binary64.fixed_positive_iff notBelow]
    constructor
    · rintro ⟨_, text, seconds, other, read, positive⟩
      obtain rfl := List.singleton_inj.mp (other.symm.trans length)
      exact ⟨seconds, read, positive⟩
    · rintro ⟨seconds, read, positive⟩
      exact ⟨stage, _, seconds, length, read, positive⟩
  · intro services request studio last job accepted
    obtain ⟨duration, ⟨image, audio, thumbnail⟩, checked, handedOver⟩ :=
      submitStill_handedOver accepted
    refine ⟨_, rfl, handedOver, fun renderer clock prober publisher output start => ?_⟩
    obtain ⟨finite, least, most⟩ := checkDuration_ok checked
    obtain ⟨text, seconds, written, read, above, below⟩ :=
      @decimals_within duration 1 36000 finite (mod_cast least) (mod_cast most) (by decide) (by decide)
    obtain ⟨call, calls, stage, length⟩ := renderer.renderStill_calls image audio output written start
    exact ⟨call, calls, stage, text, seconds, length, read, mod_cast above, mod_cast below⟩

/-- A console with a stand-in for the tool. -/
def Console.rehearsed : Console :=
  ⟨Renderer.rehearsed.toolbox, Services.sketch.clock, Services.sketch.clock 0⟩

/-- A picture and a soundtrack at hand. -/
def Workspace.pictured : Workspace :=
  ⟨⟨[(["tmp"], .directory), (["a.png"], .file [1]), (["a.mp3"], .file [2])], [], ["tmp"]⟩, 0, 0, 0, []⟩

/-- The command line that asks for a length. -/
def stillLine (length : String) : List String :=
  ["generate", "--image", "a.png", "--audio", "a.mp3", "--duration", length, "--output", "o.mp4"]

/-- The lengths that the tool is told at a command line. -/
def toldLengths (length : String) : List (List String) :=
  ((Console.rehearsed.run (stillLine length)).on .pictured).2.calls.map fun call =>
    optionValues "-t" call.arguments

/-- A length that is no number, one that has no end and one that is too short. -/
theorem stillLine_meaningless :
    toldLengths "nan" = [["nan"]] ∧ readDecimal? "nan" = none ∧
    toldLengths "inf" = [["inf"]] ∧ readDecimal? "inf" = none ∧
    toldLengths "0.0004" = [["0.000"]] ∧ readDecimal? "0.000" = some 0 := by
  decide +kernel

/-- Two and a half seconds on a command line, and five for a job. -/
theorem stillLine_lasts :
    (∃ call, ((Console.rehearsed.run (stillLine "2.5")).on .pictured).2.calls = [call] ∧
      call.Lasts (0 < ·)) ∧
    ∃ (job : JobId) (last : Studio Number) (task : Task Number),
      (Operation.submitStill Services.sketch sketchStill).on Studio.idle = (.ok job, last) ∧
      last.desk.queue = [task] ∧ ∃ call,
        ((task.work.render (Renderer.rehearsed.services Services.sketch.clock Services.sketch.prober
          Services.sketch.publisher) task.audio (.ofText "/tmp/o.mp4")).on last.workspace).2.calls =
          last.workspace.calls ++ [call] ∧
        call.Lasts fun seconds => 1 ≤ seconds ∧ seconds ≤ 36000 := by
  obtain ⟨commands, jobs⟩ := @still_lengths Number _
  constructor
  · have asked : Request.read (stillLine "2.5") =
        .ok (.still "a.png" "a.mp3" (.ofDecimal false 25 (-1)) "o.mp4") := by decide +kernel
    have long : (Binary64.ofDecimal false 25 (-1)).isFinite = true ∧
        1 / 2000 < (Binary64.ofDecimal false 25 (-1)).exact := by decide +kernel
    have once : ((Console.rehearsed.run (stillLine "2.5")).on .pictured).2.calls.length = 1 := by
      decide +kernel
    obtain ⟨_, calls, listed, _, told⟩ := commands Console.rehearsed _ .pictured _ _ _ _ asked
    have listed : ((Console.rehearsed.run (stillLine "2.5")).on .pictured).2.calls = calls := listed
    rw [listed] at once ⊢
    obtain ⟨call, rfl⟩ := List.length_eq_one_iff.mp once
    exact ⟨call, rfl, (told call List.mem_cons_self).2.mpr long⟩
  · have accepted : ((Operation.submitStill Services.sketch sketchStill).on Studio.idle).1.isOk = true := by
      decide +kernel
    rcases outcome : (Operation.submitStill Services.sketch sketchStill).on Studio.idle with
      ⟨failure | job, last⟩
    · rw [outcome] at accepted
      cases accepted
    · obtain ⟨task, _, waits, renders⟩ := jobs Services.sketch sketchStill Studio.idle last job outcome
      exact ⟨job, last, task, rfl, waits, renders _ _ _ _ _ last.workspace⟩

end Montage
