import Montage.Job.Submission
import Montage.Proofs.Named
import Montage.Proofs.Outcome

/-! What the operations on a studio come to, on the books and on the workspace. -/

namespace Montage

namespace Operation

variable {α β γ : Type}

/-- What an operation comes to on a studio, and the studio that it leaves. -/
def on (operation : Operation α β) (start : Studio α) : Except Failure β × Studio α :=
  operation start

variable {studio : Studio α}

theorem on_bind (operation : Operation α β) (next : β → Operation α γ) (start : Studio α) :
    (operation >>= next).on start =
      match operation.on start with
      | (.ok found, middle) => (next found).on middle
      | (.error failure, middle) => (.error failure, middle) := by
  rcases first : operation.on start with ⟨failure | found, middle⟩
  · exact bind_error first next
  · exact bind_ok first next

@[simp] theorem on_pure (value : β) : (pure value : Operation α β).on studio = (.ok value, studio) :=
  rfl

@[simp] theorem on_throw (failure : Failure) :
    (throw failure : Operation α β).on studio = (.error failure, studio) := rfl

/-- What is returned in the end does not matter for the studio. -/
theorem bind_return (operation : Operation α β) (value : γ) :
    ((operation >>= fun _ => return value).on studio).2 = (operation.on studio).2 := by
  rw [on_bind]
  rcases operation.on studio with ⟨_ | _, _⟩ <;> rfl

@[simp] theorem on_act (action : Action β) :
    (act action : Operation α β).on studio =
      ((action.on studio.workspace).1,
        { studio with workspace := (action.on studio.workspace).2 }) := rfl

@[simp] theorem on_desk : (desk : Operation α (Desk α)).on studio = (.ok studio.desk, studio) := rfl

@[simp] theorem on_book (change : Desk α → Desk α) :
    (book change).on studio = (.ok (), { studio with desk := change studio.desk }) := rfl

@[simp] theorem on_discard (paths : List Path) :
    (discard paths : Operation α Unit).on studio =
      (.ok (), { studio with workspace := discardAll paths studio.workspace }) := rfl

/-- A change of the status of a job that can still change takes one reading of the clock. -/
theorem on_update_open {clock : Nat → Instant} {job : JobId} {change : JobStatus → JobStatus}
    {status : JobStatus} (present : studio.desk.open? job = some status) :
    let next := { change status with updatedAt := clock studio.workspace.readings }
    (update clock job change).on studio =
      (.ok (), {
        desk := studio.desk.update job fun _ => next
        workspace := { studio.workspace with readings := studio.workspace.readings + 1 }.note
          (.status job next.state next.message) }) := by
  simp only [update, on_bind, on_desk, present]
  rfl

/-- A job that is unknown or has ended is not changed. -/
theorem on_update_closed {clock : Nat → Instant} {job : JobId} {change : JobStatus → JobStatus}
    (absent : studio.desk.open? job = none) :
    (update clock job change).on studio = (.ok (), studio) := by
  simp only [update, on_bind, on_desk, absent]
  rfl

end Operation

end Montage
