import Montage.Proofs.Job.Hall

/-! Callers that wait for a job: whatever the order of steps, they are told how it has ended, and no job
stays tracked. -/

namespace Montage

variable {α : Type} {clock : Nat → Instant} {hall next : Hall α} {label : Option JobId}
  {job other : JobId}

section Entries

variable {desk : Desk α}

theorem Desk.mem_forget : other ∈ (desk.forget job).tracked ↔ other ∈ desk.tracked ∧ other ≠ job := by
  simp [forget]

theorem Desk.mem_track :
    other ∈ (desk.track job).tracked ↔
      other ∈ desk.tracked ∨ (other = job ∧ desk.isDone job = false) := by
  unfold track
  cases done : desk.isDone job <;> simp

theorem Desk.mem_watch :
    other ∈ (desk.watch job).tracked ↔
      other ∈ desk.tracked ∧ (other = job → desk.isDone job = false) := by
  unfold watch
  cases done : desk.isDone job <;> simp [mem_forget]

theorem Desk.mem_finish :
    other ∈ (desk.finish job).tracked ↔
      other ∈ desk.tracked ∧ (other = job → (desk.tickets.get? job).any Ticket.watched = false) := by
  dsimp only [finish]
  cases (desk.tickets.get? job).any Ticket.watched <;> simp [mem_forget]

@[simp] theorem Desk.register_tickets {status : JobStatus} :
    (desk.register status).tickets = desk.tickets := rfl

@[simp] theorem Desk.withdraw_tickets : (desk.withdraw job).tickets = desk.tickets := rfl

@[simp] theorem Desk.track_tickets : (desk.track job).tickets = desk.tickets := by
  unfold track
  split <;> rfl

theorem Desk.watch_tickets :
    (desk.watch job).tickets =
      if desk.isDone job then desk.tickets else desk.tickets.set job ⟨false, true⟩ := by
  unfold watch
  split <;> rfl

theorem Desk.finish_tickets :
    (desk.finish job).tickets =
      desk.tickets.set job ⟨true, (desk.tickets.get? job).any Ticket.watched⟩ := by
  dsimp only [finish]
  split <;> rfl

end Entries

/-- What the books say of a job fits how far its submission and its worker have come. -/
structure Hall.Sound (hall : Hall α) (job : JobId) : Prop where
  unknown : hall.handing job = .unknown → hall.labour job = .absent
  done : hall.studio.desk.isDone job = (hall.labour job).isEnded
  watched : (hall.labour job).isEnded = false →
    ((hall.studio.desk.tickets.get? job).any Ticket.watched = true ↔ hall.handing job = .returned)
  tracked : hall.handing job = .tracked ∨ hall.handing job = .returned →
    (hall.labour job).isEnded = false → hall.Tracks job
  released : hall.Tracks job → hall.handing job = .tracked ∨
    (hall.handing job = .returned ∧ (hall.labour job).isEnded = false)
  record : hall.handing job ≠ .unknown → hall.handing job ≠ .refused →
    ∃ status, hall.studio.desk.jobs.get? job = some status ∧
      ((hall.labour job).isSettled = true → status.state.isTerminal = true)

/-- Nothing that concerns a job is different. -/
structure Hall.Same (job : JobId) (hall next : Hall α) : Prop where
  handing : next.handing job = hall.handing job
  labour : next.labour job = hall.labour job
  record : next.studio.desk.jobs.get? job = hall.studio.desk.jobs.get? job
  ticket : next.studio.desk.tickets.get? job = hall.studio.desk.tickets.get? job
  tracked : next.Tracks job ↔ hall.Tracks job

theorem Hall.Sound.congr (sound : hall.Sound job) (same : Hall.Same job hall next) :
    next.Sound job := by
  obtain ⟨handing, labour, record, ticket, tracked⟩ := same
  have done : next.studio.desk.isDone job = hall.studio.desk.isDone job :=
    congrArg (Option.any Ticket.done) ticket
  constructor
  · rw [handing, labour]
    exact sound.unknown
  · rw [done, labour]
    exact sound.done
  · rw [handing, labour, ticket]
    exact sound.watched
  · rw [handing, labour, tracked]
    exact sound.tracked
  · rw [handing, labour, tracked]
    exact sound.released
  · rw [handing, labour, record]
    exact sound.record

/-- Status changes do not concern the waiting. -/
theorem update_aside {studio : Studio α} {change : JobStatus → JobStatus} :
    let last := ((Operation.update clock job change).on studio).2
    last.desk.tickets = studio.desk.tickets ∧ last.desk.tracked = studio.desk.tracked := by
  cases present : studio.desk.open? job with
  | none =>
    rw [Operation.on_update_closed present]
    exact ⟨rfl, rfl⟩
  | some status =>
    rw [Operation.on_update_open present]
    simp [Desk.update, present]

/-- A step of one job does not concern another. -/
theorem Move.undisturbed (move : Move clock hall label next) (apart : label ≠ some other) :
    Hall.Same other hall next := by
  have differ {own : JobId} (named : label = some own) : other ≠ own := by
    rintro rfl
    exact apart named
  cases move with
  | enter fresh entered =>
    have desk := (register_ok entered).1
    refine ⟨Function.update_of_ne (differ rfl) .., rfl, ?_, ?_, ?_⟩
    · simp [Hall.hand, desk, Desk.register, Named.get?_set, differ rfl]
    · simp [Hall.hand, desk, Desk.register]
    · simp [Hall.hand, Hall.Tracks, desk, Desk.register]
  | refuse early =>
    refine ⟨Function.update_of_ne (differ rfl) .., rfl, ?_, rfl, Iff.rfl⟩
    simp [Hall.hand, Hall.book, Desk.withdraw, Named.get?_erase, differ rfl]
  | accept entered =>
    refine ⟨Function.update_of_ne (differ rfl) .., Function.update_of_ne (differ rfl) .., rfl, ?_, Iff.rfl⟩
    simp [Hall.pass, Hall.hand, Hall.work, Hall.book, Desk.accept, Named.get?_set, differ rfl]
  | track accepted =>
    refine ⟨Function.update_of_ne (differ rfl) .., rfl, ?_, ?_, ?_⟩
    · simp [Hall.hand, Hall.book]
    · simp [Hall.hand, Hall.book]
    · simp [Hall.hand, Hall.book, Hall.Tracks, Desk.mem_track, differ rfl]
  | watch tracked =>
    refine ⟨Function.update_of_ne (differ rfl) .., rfl, ?_, ?_, ?_⟩
    · simp [Hall.hand, Hall.book]
    · simp only [Hall.hand, Hall.book, Desk.watch_tickets]
      split <;> simp [Named.get?_set, differ rfl]
    · simp [Hall.hand, Hall.book, Hall.Tracks, Desk.mem_watch, differ rfl]
  | start _ _ | settle _ _ =>
    refine ⟨rfl, Function.update_of_ne (differ rfl) .., ?_, ?_, ?_⟩
    · simp [Hall.work, update_record, differ rfl]
    · simp [Hall.work, update_aside]
    · simp [Hall.work, Hall.Tracks, update_aside]
  | lose _ =>
    exact ⟨rfl, Function.update_of_ne (differ rfl) .., rfl, rfl, Iff.rfl⟩
  | finish _ _ =>
    refine ⟨rfl, Function.update_of_ne (differ rfl) .., ?_, ?_, ?_⟩
    · simp [Hall.work, Hall.book]
    · simp [Hall.work, Hall.book, Desk.finish_tickets, Named.get?_set, differ rfl]
    · simp [Hall.work, Hall.book, Hall.Tracks, Desk.mem_finish, differ rfl]
  | aside jobs tickets tracked =>
    have same : (hall.become _).Tracks other ↔ hall.Tracks other := Eq.to_iff (by
      rw [Hall.Tracks, Hall.Tracks, Hall.become, tracked])
    exact ⟨rfl, rfl, congrArg (Named.get? · other) jobs, congrArg (Named.get? · other) tickets, same⟩

/-- A job that may still change has ended after it is settled, and one that may not has ended already. -/
theorem update_settles {studio : Studio α} {outcome : Except Failure Publication} {status : JobStatus}
    (present : studio.desk.jobs.get? job = some status) :
    ∃ last, ((Operation.update clock job (·.settle outcome)).on studio).2.desk.jobs.get? job =
      some last ∧ last.state.isTerminal = true := by
  rw [update_record, if_pos rfl]
  cases terminal : status.state.isTerminal with
  | true =>
    have closed : studio.desk.open? job = none := by
      simp [Desk.open?, present, terminal]
    exact ⟨status, by rw [closed, present], terminal⟩
  | false =>
    rw [Desk.open?_eq_some.mpr ⟨present, terminal⟩]
    cases outcome with
    | ok publication => exact ⟨_, rfl, rfl⟩
    | error failure => exact ⟨_, rfl, rfl⟩

theorem update_present {studio : Studio α} {change : JobStatus → JobStatus} {status : JobStatus}
    (present : studio.desk.jobs.get? job = some status) :
    ∃ last, ((Operation.update clock job change).on studio).2.desk.jobs.get? job = some last := by
  rw [update_record, if_pos rfl]
  cases studio.desk.open? job with
  | none => exact ⟨status, present⟩
  | some status => exact ⟨_, rfl⟩

namespace Hall.Sound

variable {studio : Studio α}

/-- A job is not tracked before it is handed over. -/
theorem untracked (sound : hall.Sound job) (early : hall.handing job ≠ .tracked)
    (unreturned : hall.handing job ≠ .returned) : ¬hall.Tracks job := by
  intro there
  rcases sound.released there with tracked | ⟨returned, _⟩
  · exact early tracked
  · exact unreturned returned

/-- A worker goes on without ending its task. -/
theorem work {labour : Labour} (sound : hall.Sound job)
    (going : (hall.labour job).isEnded = false) (present : hall.labour job ≠ .absent)
    (on : labour.isEnded = false)
    (tickets : studio.desk.tickets = hall.studio.desk.tickets)
    (tracked : studio.desk.tracked = hall.studio.desk.tracked)
    (record : ∀ status, hall.studio.desk.jobs.get? job = some status →
      ∃ last, studio.desk.jobs.get? job = some last ∧
        (labour.isSettled = true → last.state.isTerminal = true)) :
    (hall.work studio job labour).Sound job where
  unknown fresh := absurd (sound.unknown fresh) present
  done := by
    rw [Hall.work_own, on, ← going, ← sound.done, Hall.work_studio, Desk.isDone, tickets, Desk.isDone]
  watched _ := by
    rw [Hall.work_studio, tickets]
    exact sound.watched going
  tracked handed _ := by
    rw [Hall.Tracks, Hall.work_studio, tracked]
    exact sound.tracked handed going
  released there := by
    rw [Hall.Tracks, Hall.work_studio, tracked] at there
    rw [Hall.work_own, Hall.work_handing]
    exact (sound.released there).imp_right fun returned => ⟨returned.1, on⟩
  record known accepted := by
    obtain ⟨status, present, _⟩ := sound.record known accepted
    rw [Hall.work_own]
    exact record status present

theorem enter {options : PublishOptions} (sound : hall.Sound job)
    (fresh : hall.handing job = .unknown)
    (entered : (Operation.register clock options).on hall.studio = (.ok job, studio)) :
    (hall.hand studio job .entered).Sound job := by
  have desk := (register_ok entered).1
  have absent := sound.unknown fresh
  have untracked := sound.untracked (by simp [fresh]) (by simp [fresh])
  constructor
  case unknown => simp
  case done =>
    rw [Hall.hand_studio, desk]
    exact sound.done
  case watched =>
    intro going
    rw [Hall.hand_studio, desk, Hall.hand_own]
    simpa [fresh] using sound.watched going
  case tracked => simp
  case released =>
    rw [Hall.Tracks, Hall.hand_studio, desk]
    exact fun there => absurd there untracked
  case record =>
    rw [Hall.hand_studio, desk, Hall.hand_labour, absent, Desk.register, Named.get?_set, if_pos rfl]
    exact fun _ _ => ⟨_, rfl, fun settled => by cases settled⟩

theorem refuse (sound : hall.Sound job)
    (early : hall.handing job = .entered ∨ hall.handing job = .accepted) :
    (hall.hand (hall.book (·.withdraw job)) job .refused).Sound job := by
  have untracked : ¬hall.Tracks job := by
    rcases early with same | same <;> exact sound.untracked (by simp [same]) (by simp [same])
  constructor
  case unknown => simp
  case done => exact sound.done
  case watched =>
    intro going
    have unwatched := sound.watched going
    rcases early with same | same <;> simpa [same] using unwatched
  case tracked => simp
  case released => exact fun there => absurd there untracked
  case record => simp

theorem accept (sound : hall.Sound job) (entered : hall.handing job = .entered) :
    (hall.pass (hall.book (·.accept job)) job .accepted .pending).Sound job := by
  have untracked := sound.untracked (by simp [entered]) (by simp [entered])
  have ticket : (hall.studio.desk.accept job).tickets.get? job = some ⟨false, false⟩ := by
    rw [Desk.accept, Named.get?_set, if_pos rfl]
  constructor
  case unknown => simp
  case done => simp [Desk.isDone, ticket, Labour.isEnded]
  case watched => simp [ticket]
  case tracked => simp
  case released => exact fun there => absurd there untracked
  case record =>
    intro _ _
    obtain ⟨status, present, _⟩ := sound.record (by simp [entered]) (by simp [entered])
    exact ⟨status, present, by simp [Labour.isSettled]⟩

theorem track (sound : hall.Sound job) (accepted : hall.handing job = .accepted) :
    (hall.hand (hall.book (·.track job)) job .tracked).Sound job := by
  constructor
  case unknown => simp
  case done => simpa [Desk.isDone] using sound.done
  case watched =>
    intro going
    simpa [accepted] using sound.watched going
  case tracked =>
    intro _ going
    have pending : hall.studio.desk.isDone job = false := sound.done.trans going
    exact Desk.mem_track.mpr (.inr ⟨rfl, pending⟩)
  case released => simp
  case record =>
    intro _ _
    simpa using sound.record (by simp [accepted]) (by simp [accepted])

/-- The end of a task is noted whether it comes before or after. -/
theorem watch (sound : hall.Sound job) (handed : hall.handing job = .tracked) :
    (hall.hand (hall.book (·.watch job)) job .returned).Sound job := by
  have known : hall.handing job ≠ .unknown ∧ hall.handing job ≠ .refused := by simp [handed]
  constructor
  case unknown => simp
  case done =>
    rw [Hall.hand_labour, ← sound.done, Hall.hand_studio, Hall.book_desk, Desk.isDone,
      Desk.watch_tickets]
    cases done : hall.studio.desk.isDone job with
    | true => exact done
    | false => simp [Named.get?_set]
  case watched =>
    intro going
    have pending : hall.studio.desk.isDone job = false := sound.done.trans going
    simp [Desk.watch_tickets, pending, Named.get?_set]
  case tracked =>
    intro _ going
    have pending : hall.studio.desk.isDone job = false := sound.done.trans going
    exact Desk.mem_watch.mpr ⟨sound.tracked (.inl handed) going, fun _ => pending⟩
  case released =>
    intro there
    have pending := (Desk.mem_watch.mp there).2 rfl
    exact .inr ⟨Hall.hand_own, sound.done.symm.trans pending⟩
  case record =>
    intro _ _
    simpa using sound.record known.1 known.2

theorem finish {settled : Bool} (sound : hall.Sound job)
    (reached : hall.labour job = if settled then .settled else .lost) :
    (hall.work (hall.book (·.finish job)) job (.ended settled)).Sound job := by
  have going : (hall.labour job).isEnded = false := by
    rw [reached]
    cases settled <;> rfl
  have same : (hall.labour job).isSettled = settled := by
    rw [reached]
    cases settled <;> rfl
  constructor
  case unknown =>
    intro fresh
    have absent := reached.symm.trans (sound.unknown fresh)
    cases settled <;> cases absent
  case done => simp [Desk.isDone, Desk.finish_tickets, Named.get?_set, Labour.isEnded]
  case watched => simp [Labour.isEnded]
  case tracked => simp [Labour.isEnded]
  case released =>
    intro there
    obtain ⟨before, unwatched⟩ := Desk.mem_finish.mp there
    rcases sound.released before with handed | ⟨returned, _⟩
    · exact .inl handed
    · have watched := (sound.watched going).mpr returned
      rw [unwatched rfl] at watched
      cases watched
  case record =>
    intro known accepted
    obtain ⟨status, present, terminal⟩ := sound.record known accepted
    refine ⟨status, by simpa using present, fun settles => terminal ?_⟩
    rw [same]
    rw [Hall.work_own] at settles
    cases settled
    · cases settles
    · rfl

end Hall.Sound

/-- Every step keeps the books fitting. -/
theorem Move.sound (move : Move clock hall label next) (sound : hall.Sound job) :
    next.Sound job := by
  by_cases own : label = some job
  swap
  · exact sound.congr (move.undisturbed own)
  cases move with
  | enter fresh entered =>
    obtain rfl := Option.some.inj own
    exact sound.enter fresh entered
  | refuse early =>
    obtain rfl := Option.some.inj own
    exact sound.refuse early
  | accept entered =>
    obtain rfl := Option.some.inj own
    exact sound.accept entered
  | track accepted =>
    obtain rfl := Option.some.inj own
    exact sound.track accepted
  | watch handed =>
    obtain rfl := Option.some.inj own
    exact sound.watch handed
  | start work pending =>
    obtain rfl := Option.some.inj own
    refine sound.work (by rw [pending]; rfl) (by simp [pending]) rfl update_aside.1 update_aside.2 ?_
    intro status present
    obtain ⟨last, there⟩ := update_present present
    exact ⟨last, there, nofun⟩
  | settle outcome started =>
    obtain rfl := Option.some.inj own
    refine sound.work (by rw [started]; rfl) (by simp [started]) rfl update_aside.1 update_aside.2 ?_
    intro status present
    obtain ⟨last, there, terminal⟩ := update_settles present
    exact ⟨last, there, fun _ => terminal⟩
  | lose unsettled =>
    obtain rfl := (Option.some.inj own).symm
    have going : (hall.labour job).isEnded = false := unsettled.elim (congrArg _) (congrArg _)
    have present : hall.labour job ≠ .absent := by
      rcases unsettled with same | same <;> simp [same]
    exact sound.work going present rfl rfl rfl fun status there => ⟨status, there, nofun⟩
  | finish settled reached =>
    obtain rfl := Option.some.inj own
    exact sound.finish reached
  | aside jobs tickets same => cases own

/-- A job that was returned stays so, and a task that has ended then. -/
theorem Move.lasting (move : Move clock hall label next) (returned : hall.handing job = .returned) :
    next.handing job = .returned ∧
      ∀ settled, hall.labour job = .ended settled → next.labour job = .ended settled := by
  by_cases own : label = some job
  swap
  · have same := move.undisturbed own
    exact ⟨same.handing.trans returned, fun _ => same.labour.trans⟩
  cases move with
  | enter early _ | accept early | track early | watch early =>
    obtain rfl := Option.some.inj own
    cases early.symm.trans returned
  | refuse early =>
    obtain rfl := Option.some.inj own
    rcases early with early | early <;> cases early.symm.trans returned
  | start _ going | settle _ going =>
    obtain rfl := Option.some.inj own
    exact ⟨returned, fun _ ended => by cases going.symm.trans ended⟩
  | lose going =>
    obtain rfl := Option.some.inj own
    refine ⟨returned, fun _ ended => ?_⟩
    rcases going with going | going <;> cases going.symm.trans ended
  | finish found going =>
    obtain rfl := Option.some.inj own
    refine ⟨returned, fun _ ended => ?_⟩
    cases found <;> cases going.symm.trans ended
  | aside _ _ _ => cases own

theorem JobState.isTerminal_iff {state : JobState} :
    state.isTerminal = true ↔ state = .completed ∨ state = .failed := by
  cases state <;> simp [isTerminal]

namespace Hall

variable {early late : Hall α} {labels more : List (Option JobId)} {studio : Studio α}

theorem opening_sound (tickets : studio.desk.tickets = []) (tracked : studio.desk.tracked = []) :
    (opening studio).Sound job := by
  constructor
  case unknown => simp [opening]
  case done => simp [opening, Desk.isDone, tickets, Labour.isEnded]
  case watched => simp [opening, tickets]
  case tracked => simp [opening]
  case released => simp [opening, Tracks, tracked]
  case record => simp [opening]

/-- Whatever the order of steps, the books fit. -/
theorem Sound.run (trace : Trace (Move clock) hall labels next) (sound : hall.Sound job) :
    next.Sound job := by
  induction trace with
  | nil => exact sound
  | cons first _ ih => exact ih (first.sound sound)

theorem lasting (trace : Trace (Move clock) hall labels next)
    (returned : hall.handing job = .returned) :
    next.handing job = .returned ∧
      ∀ settled, hall.labour job = .ended settled → next.labour job = .ended settled := by
  induction trace with
  | nil => exact ⟨returned, fun _ => id⟩
  | cons first _ ih =>
    obtain ⟨kept, ended⟩ := first.lasting returned
    obtain ⟨last, still⟩ := ih kept
    exact ⟨last, fun settled reached => still settled (ended settled reached)⟩

namespace Sound

theorem done_iff (sound : hall.Sound job) :
    hall.studio.desk.isDone job = true ↔ ∃ settled, hall.labour job = .ended settled := by
  rw [sound.done]
  cases hall.labour job <;> simp [Labour.isEnded]

/-- A job that was returned is tracked until its task ends. -/
theorem ended (sound : hall.Sound job) (returned : hall.handing job = .returned)
    (untracked : ¬hall.Tracks job) : ∃ settled, hall.labour job = .ended settled := by
  cases labour : hall.labour job with
  | ended settled => exact ⟨settled, rfl⟩
  | absent | pending | started | settled | lost =>
    exact absurd (sound.tracked (.inr returned) (by rw [labour]; rfl)) untracked

/-- A task that has ended without being lost has settled its job. -/
theorem settles (sound : hall.Sound job) (returned : hall.handing job = .returned)
    (ended : hall.labour job = .ended true) : hall.Settles job := by
  obtain ⟨status, present, terminal⟩ := sound.record (by simp [returned]) (by simp [returned])
  exact ⟨status, present, JobState.isTerminal_iff.mp (terminal (by rw [ended]; rfl))⟩

end Sound

/-- A job of which no step is to come is not tracked. -/
theorem Sound.forgotten (sound : hall.Sound job) (past : hall.Over job) : ¬hall.Tracks job := by
  intro there
  rcases past with refused | ⟨returned, ended⟩
  · exact sound.untracked (by simp [refused]) (by simp [refused]) there
  · rcases sound.released there with handed | ⟨_, going⟩
    · cases handed.symm.trans returned
    · cases going.symm.trans ended

/-- A caller who asks once has to wait, or is told how the job has ended. -/
theorem Sound.wait (sound : hall.Sound job) (returned : hall.handing job = .returned)
    (whole : hall.labour job ≠ .ended false) :
    (Operation.wait job).on hall.studio = (.error .pending, hall.studio) ∨
      ∃ status, (Operation.wait job).on hall.studio = (.ok status, hall.studio) ∧
        (status.state = .completed ∨ status.state = .failed) := by
  rw [Operation.wait, Operation.on_bind, Operation.on_desk]
  by_cases pending : hall.studio.desk.isPending job = true
  · exact .inl (by simp [pending])
  · have ended : ∃ settled, hall.labour job = .ended settled := by
      by_cases there : hall.Tracks job
      · have done : hall.Tracks job → hall.studio.desk.isDone job = true := by
          simpa [Desk.isPending, Hall.Tracks] using pending
        exact sound.done_iff.mp (done there)
      · exact sound.ended returned there
    obtain ⟨settled, ended⟩ := ended
    cases settled with
    | false => exact absurd ended whole
    | true =>
      obtain ⟨status, present, settles⟩ := sound.settles returned ended
      refine .inr ⟨status, ?_, settles⟩
      simp [pending, Operation.on_bind, Operation.status, present]

/-- Waiting never ends early, and no job stays tracked. Whatever the order of steps: a job of which no
step is to come is not tracked. A job that was returned is tracked until its task ends. A caller to
whom it was returned looks it up, and if it is tracked goes on when its task has ended; then the
job is completed or failed, unless its worker was lost. -/
theorem waits_settle (tickets : studio.desk.tickets = []) (tracked : studio.desk.tracked = [])
    (past : Trace (Move clock) (opening studio) labels early)
    (future : Trace (Move clock) early more late) (job : JobId) :
    (early.Over job → ¬early.Tracks job) ∧
      (early.handing job = .returned →
        (early.Tracks job ↔ (early.labour job).isEnded = false) ∧
        (late.labour job ≠ .ended false →
          (¬early.Tracks job → early.Settles job) ∧
          (¬early.Tracks job ∨ late.studio.desk.isDone job = true → late.Settles job) ∧
          ((Operation.wait job).on late.studio = (.error .pending, late.studio) ∨
            ∃ status, (Operation.wait job).on late.studio = (.ok status, late.studio) ∧
              (status.state = .completed ∨ status.state = .failed)))) := by
  have first : early.Sound job := (opening_sound tickets tracked).run past
  have second : late.Sound job := first.run future
  refine ⟨first.forgotten, fun returned => ⟨⟨fun there => ?_, first.tracked (.inr returned)⟩,
    fun whole => ?_⟩⟩
  · rcases first.released there with handed | ⟨_, going⟩
    · cases handed.symm.trans returned
    · exact going
  · obtain ⟨kept, still⟩ := lasting future returned
    have settled (found : Bool) (ended : late.labour job = .ended found) :
        late.labour job = .ended true := by
      cases found with
      | true => exact ended
      | false => exact absurd ended whole
    refine ⟨fun untracked => ?_, fun passes => ?_, second.wait kept whole⟩
    · obtain ⟨found, ended⟩ := first.ended returned untracked
      have same := (still found ended).symm.trans (settled found (still found ended))
      exact first.settles returned (ended.trans same)
    · refine second.settles kept ?_
      rcases passes with untracked | done
      · obtain ⟨found, ended⟩ := first.ended returned untracked
        exact settled found (still found ended)
      · obtain ⟨found, ended⟩ := second.done_iff.mp done
        exact settled found ended

end Hall

/-- A task that is carried out at once has ended before its job could be tracked. -/
theorem Studio.idle_waits :
    let job := jobIdOf (idDigits 1)
    ∃ labels last, Trace (Move Services.sketch.clock) (.opening Studio.idle) labels last ∧
      last.handing job = .returned ∧ ¬last.Tracks job ∧ last.Settles job := by
  intro job
  let task : Task Number := Operation.stillTask sketchStill (.int 5) job
    (.ofText "/tmp/image.png", .ofText "/tmp/audio.wav", none)
  let entered := ((Operation.register Services.sketch.clock .default).on Studio.idle).2
  let opened := (Hall.opening Studio.idle).hand entered job .entered
  have enter : Hall.Reaches Services.sketch.clock (.opening Studio.idle) opened :=
    .step (.enter rfl rfl)
  have there : opened.handing task.job = .entered := Hall.hand_own
  let worked := ((Operation.handOver Services.sketch task .atOnce).on opened.studio).2
  let last := opened.pass worked job .returned (.ended true)
  have handed : opened.Reaches Services.sketch.clock last :=
    Operation.handOver_moves Services.sketch task .atOnce there
  have returned : last.handing job = .returned := Hall.pass_handing
  have ended : last.labour job = .ended true := Hall.pass_labour
  obtain ⟨labels, trace⟩ := enter.trans handed
  obtain ⟨released, waits⟩ := Hall.waits_settle rfl rfl trace .nil job
  have untracked := released (.inr ⟨returned, congrArg Labour.isEnded ended⟩)
  have settles := ((waits returned).2 (by simp [ended])).1 untracked
  exact ⟨labels, last, trace, returned, untracked, settles⟩

end Montage
