import Montage.Proofs.File.Undisturbed
import Montage.Proofs.Job.Intake
import Montage.Proofs.Manifest.Progress

/-! Which probes validation asks for. A video that says nothing of its length is probed once, when all
scenes before it are read and all of its own checks that come before are passed; nothing else is. -/

namespace Montage

variable {α β γ : Type}

/-- A call of a prober for a scene: the upload it is asked about, where, what it answers and where that
leads. -/
structure ProbeCall (α : Type) where
  scene : Nat
  upload : Upload
  before : Workspace
  answer : Except Failure α
  after : Workspace

/-- A prober answers a call in just this way. -/
def Prober.Gives (prober : Prober α) (call : ProbeCall α) : Prop :=
  (prober call.upload).on call.before = (call.answer, call.after)

/-- The call that a prober answers when it is asked about an upload for a scene. -/
def Prober.call (prober : Prober α) (scene : Nat) (upload : Upload) (start : Workspace) : ProbeCall α :=
  ⟨scene, upload, start, ((prober upload).on start).1, ((prober upload).on start).2⟩

theorem Prober.call_gives (prober : Prober α) (scene : Nat) (upload : Upload) (start : Workspace) :
    prober.Gives (prober.call scene upload start) :=
  Prod.mk.eta.symm

theorem Prober.Gives.call_eq {prober : Prober α} {call : ProbeCall α} (gives : prober.Gives call) :
    prober.call call.scene call.upload call.before = call := by
  rw [Prober.call, show (prober call.upload).on call.before = (call.answer, call.after) from gives]

/-- Calls lead from one workspace to another, and nothing happens between them. -/
inductive Linked : Workspace → List (ProbeCall α) → Workspace → Prop where
  | nil {start : Workspace} : Linked start [] start
  | cons {call : ProbeCall α} {rest : List (ProbeCall α)} {last : Workspace}
      (later : Linked call.after rest last) : Linked call.before (call :: rest) last

/-- What is done with a prober comes down to these calls: they lead to where it leads, so that a prober
that counts its calls counts these, and with any prober that answers them alike it comes to the same. -/
structure Consults (ask : Prober α → Action β) (prober : Prober α) (start : Workspace)
    (calls : List (ProbeCall α)) : Prop where
  given : ∀ call ∈ calls, prober.Gives call
  linked : Linked start calls ((ask prober).on start).2
  only : ∀ other : Prober α, (∀ call ∈ calls, other.Gives call) →
    (ask other).on start = (ask prober).on start

theorem Linked.append {start middle last : Workspace} {calls more : List (ProbeCall α)}
    (first : Linked start calls middle) (later : Linked middle more last) :
    Linked start (calls ++ more) last := by
  induction first with
  | nil => exact later
  | cons _ ih => exact .cons (ih later)

namespace Consults

variable {prober : Prober α} {start middle : Workspace} {calls more : List (ProbeCall α)}
  {first : Prober α → Action β} {next : β → Prober α → Action γ} {action : Action β} {found : β}

/-- What has nothing to do with a prober and changes nothing. -/
theorem free (keeps : action.Keeps (· = start)) : Consults (fun _ => action) prober start [] where
  given := List.forall_mem_nil _
  linked := by
    rw [keeps start rfl]
    exact .nil
  only _ _ := rfl

theorem bind (left : Consults first prober start calls)
    (reached : (first prober).on start = (.ok found, middle))
    (right : Consults (next found) prober middle more) :
    Consults (fun prober => first prober >>= fun found => next found prober) prober start
      (calls ++ more) where
  given := List.forall_mem_append.mpr ⟨left.given, right.given⟩
  linked := by
    have linked := left.linked
    rw [reached] at linked
    rw [Action.on_bind, reached]
    exact linked.append right.linked
  only other alike := by
    obtain ⟨before, after⟩ := List.forall_mem_append.mp alike
    rw [Action.on_bind, Action.on_bind, left.only other before, reached]
    exact right.only other after

/-- What follows the calls asks for no more of them. -/
theorem bind_free (left : Consults first prober start calls)
    (right : ∀ found middle, (first prober).on start = (.ok found, middle) →
      Consults (next found) prober middle []) :
    Consults (fun prober => first prober >>= fun found => next found prober) prober start calls := by
  rcases reached : (first prober).on start with ⟨failure | found, middle⟩
  · exact {
      given := left.given
      linked := by
        have linked := left.linked
        rw [reached] at linked
        rwa [Action.on_bind, reached]
      only := fun other alike => by
        rw [Action.on_bind, Action.on_bind, left.only other alike, reached] }
  · exact List.append_nil calls ▸ left.bind reached (right found middle reached)

/-- What comes before the calls has nothing to do with the prober. -/
theorem after_free (known : action.on start = (.ok found, start))
    (right : Consults (next found) prober start calls) :
    Consults (fun prober => action >>= fun found => next found prober) prober start calls where
  given := right.given
  linked := by
    rw [Action.on_bind, known]
    exact right.linked
  only other alike := by
    rw [Action.on_bind, Action.on_bind, known]
    exact right.only other alike

/-- A check before comes out the same with any prober. -/
theorem lift_bind {result : Except Failure β}
    (right : ∀ found, result = .ok found → Consults (next found) prober start []) :
    Consults (fun prober => Action.lift result >>= fun found => next found prober) prober start [] := by
  refine (free (Action.keeps_lift result)).bind_free fun found middle read => ?_
  obtain ⟨known, rfl⟩ := Prod.mk.inj read
  exact right found known

theorem throw_bind {failure : Failure} :
    Consults (fun prober => (throw failure : Action β) >>= fun found => next found prober) prober
      start [] :=
  (free (Action.keeps_throw failure)).bind_free fun _ _ thrown => by cases thrown

theorem attempt (scene : Nat) (upload : Upload) :
    Consults (fun prober => (prober upload).attempt) prober start
      [prober.call scene upload start] where
  given := List.forall_mem_singleton.mpr (prober.call_gives scene upload start)
  linked := by
    rw [Action.on_attempt]
    exact @Linked.cons _ (prober.call scene upload start) [] _ .nil
  only other alike := by
    have same : (other upload).on start = (prober upload).on start :=
      alike _ (List.mem_singleton.mpr rfl)
    rw [Action.on_attempt, Action.on_attempt, same]

end Consults

section Scenes

variable [Quantity α]

/-- A probe of an upload is due for the raw scene at a position: the asset is there and holds something,
the scene is a video by its words and by the media type, its clip starts somewhere, and it does not say
how long it is. -/
inductive Due (assets : Named Upload) (index : Nat) (disk : Disk) (value : Value) (upload : Upload) :
    Prop where
  | video {entries : List (Value × Value)} {asset : String} {motion : Motion} {begin : Binary64}
      (object : value = .map entries)
      (identified : readAssetId (Value.field entries "assetId") ((Field.scene index).member "assetId") =
        .ok asset)
      (named : assets.get? asset = some upload) (held : upload.isEmpty disk = .ok false)
      (kind : requireWord (Value.field entries "type") ((Field.scene index).member "type")
        SceneKind.image = .ok .video)
      (moves : readWord (Value.field entries "motion") ((Field.scene index).member "motion")
        Motion.none = .ok motion)
      (starts : readStart (Value.field entries "clipStartSec")
        ((Field.scene index).member "clipStartSec") = .ok begin)
      (contentType : checkContentType upload asset index .video = .ok ())
      (noDuration : (Value.field entries "durationSec").isNull = true)
      (noLength : (Value.field entries "clipDurationSec").isNull = true) :
      Due assets index disk value upload

variable {prober : Prober α} {assets : Named Upload} {index : Nat} {previous : α} {value : Value}
  {upload : Upload} {start : Workspace} {entries : List (Value × Value)} {field : Field}
  {asset : String} {begin : α}

theorem readClipLength_due (contentType : checkContentType upload asset index .video = .ok ())
    (noDuration : (Value.field entries "durationSec").isNull = true)
    (noLength : (Value.field entries "clipDurationSec").isNull = true) :
    Consults (fun prober => readClipLength prober entries field upload asset index begin) prober start
      [prober.call index upload start] := by
  unfold readClipLength
  simp only [contentType, noDuration, noLength, Bool.not_true, Bool.false_eq_true, if_false]
  refine Consults.after_free (Action.on_lift _) ?_
  refine (Consults.attempt index upload).bind_free fun outcome middle _ => ?_
  refine Consults.free ?_
  split
  · exact Action.keeps_throw _
  · exact Action.keeps_throw _
  · refine (Action.keeps_compute _).bind fun remaining => ?_
    split
    · exact fun _ right => right
    · exact Action.keeps_pure remaining

/-- A prober is only asked if nothing else says how long a clip is. -/
theorem readClipLength_idle
    (idle : ¬(checkContentType upload asset index .video = .ok () ∧
      (Value.field entries "durationSec").isNull = true ∧
      (Value.field entries "clipDurationSec").isNull = true)) :
    Consults (fun prober => readClipLength prober entries field upload asset index begin) prober start
      [] := by
  unfold readClipLength
  refine Consults.lift_bind fun _ contentType => ?_
  by_cases noDuration : (Value.field entries "durationSec").isNull = true
  · by_cases noLength : (Value.field entries "clipDurationSec").isNull = true
    · exact absurd ⟨contentType, noDuration, noLength⟩ idle
    · simp only [noDuration, noLength, Bool.not_true, Bool.not_false, Bool.false_eq_true, if_false,
        if_true]
      refine Consults.lift_bind fun length _ => Consults.free ?_
      split
      · exact fun _ right => right
      · exact Action.keeps_pure _
  · simp only [noDuration, Bool.not_false, if_true]
    exact Consults.throw_bind

theorem readShown_idle {kind : SceneKind}
    (idle : ¬(kind = .video ∧ checkContentType upload asset index .video = .ok () ∧
      (Value.field entries "durationSec").isNull = true ∧
      (Value.field entries "clipDurationSec").isNull = true)) :
    Consults (fun prober => readShown prober entries field upload asset index begin kind) prober start
      [] := by
  cases kind with
  | image => exact Consults.free (Action.keeps_lift _)
  | video => exact readClipLength_idle fun checks => idle ⟨rfl, checks⟩

theorem readScene_due (due : Due assets index start.disk value upload) :
    Consults (fun prober => readScene prober assets index previous value) prober start
      [prober.call index upload start] := by
  obtain ⟨object, identified, named, held, kind, moves, starts, contentType, noDuration,
    noLength⟩ := due
  subst object
  unfold readScene
  simp only [Value.isNull, Bool.false_eq_true, if_false]
  refine Consults.after_free (Prod.ext rfl rfl) ?_
  refine Consults.after_free (Prod.ext identified rfl) ?_
  refine Consults.after_free (requireAsset_eq_ok.mpr ⟨named, held, rfl⟩) ?_
  refine Consults.after_free (Prod.ext kind rfl) ?_
  refine Consults.after_free (Prod.ext moves rfl) ?_
  refine Consults.after_free (Prod.ext starts rfl) ?_
  refine (readClipLength_due contentType noDuration noLength).bind_free fun shown middle _ => ?_
  refine Consults.free ?_
  refine (Action.keeps_lift _).bind fun caption => ?_
  refine (Action.keeps_lift _).bind fun transition => ?_
  refine (Action.keeps_lift _).bind fun visualEdit => ?_
  exact Action.keeps_pure _

/-- Check by check: one that fails ends the reading of a scene before a prober is asked, and where all
pass a probe is due. -/
theorem readScene_idle (idle : ∀ upload, ¬Due assets index start.disk value upload) :
    Consults (fun prober => readScene prober assets index previous value) prober start [] := by
  unfold readScene
  cases value.isNull with
  | true =>
    simp only [if_true]
    exact Consults.throw_bind
  | false =>
    simp only [Bool.false_eq_true, if_false]
    refine Consults.lift_bind fun entries object => ?_
    refine Consults.lift_bind fun asset identified => ?_
    refine (Consults.free requireAsset_keeps).bind_free fun upload _ required => ?_
    obtain ⟨named, held, rfl⟩ := requireAsset_eq_ok.mp required
    refine Consults.lift_bind fun kind known => ?_
    refine Consults.lift_bind fun motion moves => ?_
    refine Consults.lift_bind fun begin starts => ?_
    refine (readShown_idle ?_).bind_free fun shown _ _ => Consults.free ?_
    · rintro ⟨rfl, contentType, noDuration, noLength⟩
      exact idle upload ⟨readObject_eq_ok.mp object, identified, named, held, known, moves, starts,
        contentType, noDuration, noLength⟩
    · refine (Action.keeps_lift _).bind fun caption => ?_
      refine (Action.keeps_lift _).bind fun transition => ?_
      refine (Action.keeps_lift _).bind fun visualEdit => ?_
      exact Action.keeps_pure _

theorem Consults.advance {total : α} {calls : List (ProbeCall α)}
    (scene : Consults (fun prober => readScene prober assets index previous value) prober start calls) :
    Consults (fun prober => advance prober assets index previous total value) prober start calls :=
  scene.bind_free fun _ _ _ =>
    Consults.free ((Action.keeps_compute _).bind fun _ => Action.keeps_pure _)

/-- Of one scene at most one upload is probed. -/
theorem Due.unique {disk : Disk} {other : Upload} (due : Due assets index disk value upload)
    (also : Due assets index disk value other) : upload = other := by
  obtain ⟨object, identified, named⟩ := due
  obtain ⟨object', identified', named'⟩ := also
  obtain rfl := Value.map.inj (object.symm.trans object')
  obtain rfl := Except.ok.inj (identified.symm.trans identified')
  exact Option.some.inj (named.symm.trans named')

section Runs

variable {raws : List Value} {scenes others : List (Scene α)} {total before length shown grown : α}
  {middle last : Workspace}

theorem Reached.last_step
    (reached : Reached prober assets start (raws ++ [value]) scenes shown grown last) :
    ∃ earlier previous total middle scene,
      Reached prober assets start raws earlier previous total middle ∧ scenes = earlier ++ [scene] ∧
        (Montage.advance prober assets raws.length previous total value).on middle =
          (.ok (scene, shown, grown), last) := by
  generalize same : raws ++ [value] = all at reached
  cases reached with
  | start => simp at same
  | advance earlier step =>
    obtain ⟨rfl, here⟩ := List.append_inj' same rfl
    obtain rfl := List.singleton_inj.mp here
    exact ⟨_, _, _, _, _, earlier, rfl, step⟩

/-- Raw scenes lead to one place. -/
theorem Reached.unique (reached : Reached prober assets start raws scenes previous total middle)
    (also : Reached prober assets start raws others before length last) :
    scenes = others ∧ previous = before ∧ total = length ∧ middle = last := by
  induction reached generalizing others before length last with
  | start =>
    generalize none : ([] : List Value) = raws at also
    cases also with
    | start => exact ⟨rfl, rfl, rfl, rfl⟩
    | advance _ _ => simp at none
  | advance _ step ih =>
    obtain ⟨_, _, _, _, _, earlier, rfl, again⟩ := also.last_step
    obtain ⟨rfl, rfl, rfl, rfl⟩ := ih earlier
    obtain ⟨same, rfl⟩ := Prod.mk.inj (step.symm.trans again)
    obtain ⟨rfl, rfl, rfl⟩ := Except.ok.inj same
    exact ⟨rfl, rfl, rfl, rfl⟩

/-- A prober is asked in this way about one of the raw scenes: those before it are read, and a probe is
due where they lead. -/
structure Prober.Asked (prober : Prober α) (assets : Named Upload) (start : Workspace)
    (raws : List Value) (call : ProbeCall α) : Prop where
  gives : prober.Gives call
  earlier : ∃ scenes previous total,
    Reached prober assets start (raws.take call.scene) scenes previous total call.before
  due : ∃ value, raws[call.scene]? = some value ∧
    Due assets call.scene call.before.disk value call.upload

theorem Prober.asked_here_iff {rest : List Value} {call : ProbeCall α}
    (reached : Reached prober assets start raws scenes previous total middle) :
    (call.scene = raws.length ∧ prober.Asked assets start (raws ++ value :: rest) call) ↔
      ∃ upload, Due assets raws.length middle.disk value upload ∧
        call = prober.call raws.length upload middle := by
  constructor
  · rintro ⟨here, gives, ⟨_, _, _, earlier⟩, found, there, due⟩
    simp only [here, List.take_left, List.getElem?_append_right le_rfl, Nat.sub_self,
      List.getElem?_cons_zero, Option.some.injEq] at earlier there due
    obtain ⟨_, _, _, same⟩ := reached.unique earlier
    refine ⟨call.upload, ?_, ?_⟩
    · rwa [there, same]
    · rw [← here, same, gives.call_eq]
  · rintro ⟨upload, due, rfl⟩
    refine ⟨rfl, prober.call_gives _ _ _, ⟨scenes, previous, total, ?_⟩, value, ?_, due⟩
    · simpa [Prober.call] using reached
    · simp [Prober.call]

/-- The scenes before one that is asked about are read. -/
theorem Prober.Asked.read {call : ProbeCall α} {rest : List Value}
    (asked : prober.Asked assets start (raws ++ value :: rest) call)
    (reached : Reached prober assets start raws scenes previous total middle)
    (later : raws.length < call.scene) :
    ∃ found last, (advance prober assets raws.length previous total value).on middle =
      (.ok found, last) := by
  obtain ⟨_, _, _, earlier⟩ := asked.earlier
  obtain ⟨_, there, _⟩ := asked.due
  have inside := (List.getElem?_eq_some_iff.mp there).1
  have within : raws.length + 1 ≤ ((raws ++ value :: rest).take call.scene).length := by
    rwa [List.length_take_of_le inside.le]
  obtain ⟨_, _, _, here⟩ := earlier.take within
  have taken : (raws ++ value :: rest).take (raws.length + 1) = raws ++ [value] :=
    List.take_length_add_append 1
  rw [List.take_take, Nat.min_eq_left later, taken] at here
  obtain ⟨_, _, _, _, _, before, _, step⟩ := here.last_step
  obtain ⟨rfl, rfl, rfl, rfl⟩ := reached.unique before
  exact ⟨_, _, step⟩

/-- Nothing is asked after the scene that reading stops at. -/
theorem Prober.Asked.scene_le {call : ProbeCall α} {index : Nat} {failure : Failure}
    (asked : prober.Asked assets start raws call)
    (stops : StopsAt prober assets start raws index failure last) : call.scene ≤ index := by
  have bounded := stops.index_lt
  obtain ⟨_, _, _, _, value, reached, there, failed⟩ := stops
  by_contra later
  have length : (raws.take index).length = index := List.length_take_of_le bounded.le
  obtain ⟨_, rfl⟩ := List.getElem?_eq_some_iff.mp there
  have split : raws = raws.take index ++ raws[index] :: raws.drop (index + 1) := by
    rw [List.cons_getElem_drop_succ, List.take_append_drop]
  rw [split] at asked
  obtain ⟨_, _, read⟩ := asked.read reached (by omega)
  rw [length] at read
  cases read.symm.trans failed

/-- The calls of a prober that something comes down to are those that are said to be, in the order of
their scenes. -/
structure CallRecord (ask : Prober α → Action β) (prober : Prober α) (start : Workspace)
    (asked : ProbeCall α → Prop) (calls : List (ProbeCall α)) : Prop where
  consults : Consults ask prober start calls
  ordered : calls.Pairwise (·.scene < ·.scene)
  exact : ∀ call, call ∈ calls ↔ asked call

theorem advance_record (rest : List Value)
    (reached : Reached prober assets start raws scenes previous total middle) :
    ∃ calls, CallRecord (fun prober => advance prober assets raws.length previous total value) prober
      middle (fun call => call.scene = raws.length ∧
        prober.Asked assets start (raws ++ value :: rest) call) calls := by
  by_cases due : ∃ upload, Due assets raws.length middle.disk value upload
  · obtain ⟨upload, due⟩ := due
    refine ⟨[prober.call raws.length upload middle], (readScene_due due).advance,
      List.pairwise_singleton _ _, fun call => ?_⟩
    rw [List.mem_singleton, Prober.asked_here_iff reached]
    constructor
    · rintro rfl
      exact ⟨upload, due, rfl⟩
    · rintro ⟨other, also, rfl⟩
      rw [due.unique also]
  · refine ⟨[], (readScene_idle fun upload here => due ⟨upload, here⟩).advance, .nil, fun call => ?_⟩
    rw [Prober.asked_here_iff reached]
    constructor
    · intro none
      cases none
    · rintro ⟨upload, here, _⟩
      exact absurd ⟨upload, here⟩ due

/-- Induction on the raw scenes: each is read where those before it lead. -/
theorem readScenes_record (rest : List Value)
    (reached : Reached prober assets start raws scenes previous total middle) :
    ∃ calls, CallRecord (fun prober => readScenes prober assets raws.length previous total rest) prober
      middle (fun call => raws.length ≤ call.scene ∧
        prober.Asked assets start (raws ++ rest) call) calls := by
  induction rest generalizing raws scenes previous total middle with
  | nil =>
    refine ⟨[], Consults.free (Action.keeps_pure _), .nil, fun call => ?_⟩
    constructor
    · intro none
      cases none
    · rintro ⟨beyond, _, _, _, there, _⟩
      rw [List.append_nil] at there
      exact absurd (List.getElem?_eq_some_iff.mp there).1 (by omega)
  | cons value rest ih =>
    obtain ⟨here, first⟩ := advance_record rest reached
    simp only [readScenes_cons]
    rcases step : (advance prober assets raws.length previous total value).on middle with
      ⟨failure | ⟨scene, shown, grown⟩, last⟩
    · -- Nothing is read after a scene that fails, so that nothing is asked there.
      refine ⟨here, first.consults.bind_free fun _ _ read => ?_, first.ordered, fun call => ?_⟩
      · cases step.symm.trans read
      · rw [first.exact]
        refine ⟨fun ⟨same, asked⟩ => ⟨same.ge, asked⟩, fun ⟨near, asked⟩ => ⟨?_, asked⟩⟩
        refine (Nat.lt_or_eq_of_le near).elim (fun later => ?_) Eq.symm
        obtain ⟨_, _, read⟩ := asked.read reached later
        cases step.symm.trans read
    · obtain ⟨later, second⟩ := ih (reached.advance step)
      rw [List.append_assoc, List.singleton_append, List.length_append, List.length_singleton] at second
      refine ⟨here ++ later, ?_, ?_, fun call => ?_⟩
      · refine first.consults.bind step ?_
        refine second.consults.bind_free fun _ _ _ => Consults.free (Action.keeps_pure _)
      · refine List.pairwise_append.mpr ⟨first.ordered, second.ordered, ?_⟩
        intro before one after other
        have := ((first.exact before).mp one).1
        have := ((second.exact after).mp other).1
        omega
      · rw [List.mem_append, first.exact, second.exact, ← or_and_right]
        exact and_congr_left fun _ => by omega

end Runs

/-- The calls that validation comes down to. -/
theorem validate_record (prober : Prober α) (assets : Named Upload) (value : Value)
    (start : Workspace) :
    ∃ calls, CallRecord (fun prober => validate prober assets value) prober start
      (fun call => ∃ preset raws, value.opening = .ok (preset, raws) ∧
        prober.Asked assets start raws call) calls := by
  simp only [validate_opening]
  cases opened : value.opening with
  | error failure =>
    refine ⟨[], Consults.lift_bind fun _ found => ?_, .nil, fun call => ⟨fun asked => ?_, ?_⟩⟩
    · cases found
    · cases asked
    · rintro ⟨_, _, ⟨⟩, _⟩
  | ok found =>
    obtain ⟨preset, raws⟩ := found
    obtain ⟨calls, script⟩ := readScenes_record raws
      (.start : Reached prober assets start [] [] _ _ start)
    refine ⟨calls, ?_, script.ordered, fun call => ?_⟩
    · refine script.consults.bind_free fun read middle _ => ?_
      exact Consults.free ((Action.keeps_lift _).bind fun _ => Action.keeps_pure _)
    · rw [script.exact]
      constructor
      · rintro ⟨_, asked⟩
        exact ⟨preset, raws, rfl, asked⟩
      · rintro ⟨_, _, same, asked⟩
        obtain ⟨rfl, rfl⟩ := Prod.mk.inj (Except.ok.inj same)
        exact ⟨Nat.zero_le _, asked⟩

/-- Validation asks its prober about each video that says nothing of its length and passes the checks
before, once and in the order of the scenes, and about nothing else; not at all after a scene that
fails. If the prober asks the tool, the temporary directory is then as it was, whatever validation
comes to. -/
theorem validate_probes (assets : Named Upload) (value : Value) (start : Workspace) :
    (∀ prober : Prober α, ∃ calls,
      CallRecord (fun prober => validate prober assets value) prober start
        (fun call => ∃ preset raws, value.opening = .ok (preset, raws) ∧
          prober.Asked assets start raws call) calls ∧
      ∀ preset raws index failure last, value.opening = .ok (preset, raws) →
        StopsAt prober assets start raws index failure last → ∀ call ∈ calls, call.scene ≤ index) ∧
    ∀ toolbox timeout touched, start.disk.temporaryDirectory.Plain → start.disk.Rooted →
      toolbox.ProbesAside touched →
        let prober : Prober α := fun upload => do
          return Quantity.ofDouble (← probeUpload toolbox timeout upload)
        start.disk.Undisturbed touched ((validate prober assets value).on start).2.disk := by
  constructor
  · intro prober
    obtain ⟨calls, script⟩ := validate_record prober assets value start
    refine ⟨calls, script, fun preset raws index failure last opened stops call member => ?_⟩
    obtain ⟨_, _, same, asked⟩ := (script.exact call).mp member
    obtain ⟨rfl, rfl⟩ := Prod.mk.inj (Except.ok.inj (opened.symm.trans same))
    exact asked.scene_le stops
  · intro toolbox timeout touched plain rooted aside prober
    have kept : (validate prober assets value).Keeps (start.disk.Undisturbed touched ·.disk) :=
      validate_keeps fun _ => (probeUpload_aside plain aside).bind fun _ => Action.keeps_pure _
    exact kept start (.refl rooted)

end Scenes

/-- A tool that finds nine seconds in everything and writes over it. -/
def scribbling : Toolbox where
  installation := ⟨none, "tool"⟩
  run _ call disk :=
    (.ok ⟨some 1, "Duration: 00:00:09", false⟩,
      (disk.write (Rehearsal.lastArgument call) [0]).toOption.getD disk)

theorem scribbling_aside : scribbling.ProbesAside ∅ := by
  intro past name timeout disk rooted plain temporary
  show disk.Undisturbed _ ((disk.write (disk.temporaryDirectory.textOf name) [0]).toOption.getD disk)
  cases outcome : disk.write (disk.temporaryDirectory.textOf name) [0] with
  | error _ => exact .refl rooted
  | ok last =>
    obtain ⟨place, found, free, rfl⟩ := Disk.write_eq_ok.mp outcome
    obtain rfl := Disk.Holds.find_place plain temporary found
    exact (Disk.Undisturbed.refl rooted).put_file plain temporary.plain found free [0]

/-- The prober that asks this tool. -/
def scribbled : Prober Number := fun upload => do
  return Quantity.ofDouble (← probeUpload scribbling probeTimeout upload)

theorem Action.on_of_isOk_of_kept {action : Action β} {start : Workspace}
    (fine : (action.on start).1.isOk = true) (kept : (action.on start).2 = start) :
    ∃ value, action.on start = (.ok value, start) := by
  obtain ⟨value, last, read⟩ := Action.on_of_isOk fine
  obtain rfl : last = start := (congrArg Prod.snd read).symm.trans kept
  exact ⟨value, read⟩

/-- The raw scenes of `coverAndClip`: the first is an image, and a probe of the second is due. -/
theorem coverAndClip_raws :
    ∃ cover clip, coverAndClip.opening = .ok (.landscape, [cover, clip]) ∧
      (∀ upload, ¬Due coverAndClipAssets 0 Workspace.bare.disk cover upload) ∧
      Due coverAndClipAssets 1 Workspace.bare.disk clip (.ofBytes [2] "Video/mp4" none) ∧
      ∃ found, (advance scribbled coverAndClipAssets 0 (Quantity.ofDouble .zero)
        (Quantity.ofDouble .zero) cover).on .bare = (.ok found, .bare) := by
  refine ⟨_, _, rfl, ?_, ?_, ?_⟩
  · rintro upload ⟨object, _, _, _, kind⟩
    obtain rfl := Value.map.inj object
    exact absurd kind (by decide +kernel)
  · refine @Due.video _ _ _ _ _ _ "clip" .none .zero rfl ?_ ?_ ?_ ?_ ?_ ?_ ?_ ?_ ?_ <;>
      decide +kernel
  · exact Action.on_of_isOk_of_kept (by decide +kernel) (by decide +kernel)

/-- Of an image and a video it is the video that is probed, and the copy that the tool wrote over is
gone. -/
theorem coverAndClip_probed :
    ((validate scribbled coverAndClipAssets coverAndClip).on .bare).1.isOk = true ∧
      Workspace.bare.disk.Undisturbed ∅
        ((validate scribbled coverAndClipAssets coverAndClip).on .bare).2.disk ∧
      ∃ calls, CallRecord (fun prober => validate prober coverAndClipAssets coverAndClip) scribbled
        .bare (fun call => ∃ preset raws, coverAndClip.opening = .ok (preset, raws) ∧
          scribbled.Asked coverAndClipAssets .bare raws call) calls ∧
        ∀ call, call ∈ calls ↔ call = scribbled.call 1 (.ofBytes [2] "Video/mp4" none) .bare := by
  obtain ⟨scripted, undisturbed⟩ := @validate_probes Number _ coverAndClipAssets coverAndClip .bare
  obtain ⟨calls, script, _⟩ := scripted scribbled
  obtain ⟨cover, clip, opened, idle, due, ⟨scene, shown, grown⟩, step⟩ := coverAndClip_raws
  have first : Reached scribbled coverAndClipAssets .bare [] [] _ _ .bare := .start
  have second := first.advance step
  refine ⟨by decide +kernel, ?_, calls, script, fun call => ?_⟩
  · have plain : Workspace.bare.disk.temporaryDirectory.Plain := by decide
    have left := undisturbed scribbling probeTimeout ∅ plain Workspace.bare_rooted scribbling_aside
    unfold scribbled
    exact left
  rw [script.exact]
  constructor
  · rintro ⟨_, raws, same, asked⟩
    obtain ⟨_, rfl⟩ := Prod.mk.inj (Except.ok.inj (opened.symm.trans same))
    obtain ⟨_, there, _⟩ := asked.due
    have inside : call.scene < 2 := (List.getElem?_eq_some_iff.mp there).1
    obtain here | here : call.scene = 0 ∨ call.scene = 1 := by omega
    · obtain ⟨upload, also, _⟩ := (Prober.asked_here_iff first).mp ⟨here, asked⟩
      exact absurd also (idle upload)
    · obtain ⟨upload, also, rfl⟩ := (Prober.asked_here_iff second).mp ⟨here, asked⟩
      rw [due.unique also]
      rfl
  · rintro rfl
    obtain ⟨_, asked⟩ := (Prober.asked_here_iff second).mpr ⟨_, due, rfl⟩
    exact ⟨_, _, opened, asked⟩

end Montage
