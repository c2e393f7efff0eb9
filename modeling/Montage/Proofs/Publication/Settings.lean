import Montage.Proofs.Outcome
import Montage.Publication.Options

/-! The settings of a publication are checked one by one: they pass if each does, and nothing is
scheduled that can be seen at once. -/

namespace Montage.PublishRequest

variable {request : PublishRequest} {now : Instant} {options : PublishOptions}

/-- Settings that pass. -/
theorem check_eq_ok :
    request.check now = .ok options ↔
      readPrivacy request.privacy = .ok options.privacy ∧
      readTags request.tags = .ok options.tags ∧
      readCategory request.category = .ok options.category ∧
      readPublishAt request.publishAt now = .ok options.publishAt ∧
      (options.publishAt.isSome = true → options.privacy = .hidden) := by
  constructor
  · intro checked
    simp only [check, Except.bind_eq_ok] at checked
    obtain ⟨privacy, hidden, tags, kept, category, sorted, publishAt, scheduled, settled⟩ := checked
    split at settled
    · cases settled
    · rename_i allowed
      obtain rfl := Except.ok.inj settled
      refine ⟨hidden, kept, sorted, scheduled, ?_⟩
      intro later
      simpa [later] using allowed
  · rintro ⟨hidden, kept, sorted, scheduled, allowed⟩
    have settled : ¬(options.publishAt.isSome && options.privacy != .hidden) = true := by
      cases later : options.publishAt.isSome with
      | false => exact Bool.false_ne_true
      | true => simp [allowed later]
    simp only [check, hidden, kept, sorted, scheduled, bind, Except.bind, if_neg settled]
    rfl

end Montage.PublishRequest
