import Mathlib.Data.List.Forall2
import Montage.Workspace

/-! What a successful computation establishes, step by step: each law turns the success of a
composed computation into the success of its parts. -/

namespace Montage

variable {ε ε' β γ : Type}

/-- A sequence succeeds exactly when each step succeeds in turn. -/
@[simp] theorem Except.bind_eq_ok {result : Except ε β} {next : β → Except ε γ} {value : γ} :
    (result >>= next) = .ok value ↔ ∃ found, result = .ok found ∧ next found = .ok value := by
  cases result <;> simp [bind, Except.bind]

@[simp] theorem Except.pure_eq_ok {found value : β} :
    (pure found : Except ε β) = .ok value ↔ found = value := by
  simp [pure, Except.pure]

@[simp] theorem Except.throw_ne_ok {error : ε} {value : β} :
    (throw error : Except ε β) ≠ .ok value := by
  simp [throw, throwThe, MonadExceptOf.throw]

@[simp] theorem Except.mapError_eq_ok {result : Except ε β} {change : ε → ε'} {value : β} :
    result.mapError change = .ok value ↔ result = .ok value := by
  cases result with
  | ok found =>
    change (.ok found : Except ε' β) = .ok value ↔ _
    rw [Except.ok.injEq, Except.ok.injEq]
  | error failure => exact ⟨by rintro ⟨⟩, by rintro ⟨⟩⟩

@[simp] theorem Except.map_eq_ok {result : Except ε β} {change : β → γ} {value : γ} :
    result.map change = .ok value ↔ ∃ found, result = .ok found ∧ change found = value := by
  cases result <;> simp [Except.map]

theorem Except.toOption_eq_some {result : Except ε β} {value : β} :
    result.toOption = some value ↔ result = .ok value := by
  cases result <;> simp [Except.toOption]

theorem Except.toOption_any {result : Except ε β} {test : β → Bool} :
    result.toOption.any test = true ↔ ∃ value, result = .ok value ∧ test value = true := by
  cases result <;> simp [Except.toOption]

section Traversals

variable {α : Type}

/-- All items are read, or it is said what is wrong with the first that cannot be. -/
theorem mapM_cases (f : α → Except Failure β) (items : List α) :
    (∃ earlier first later failure, items = earlier ++ first :: later ∧
      (∀ item ∈ earlier, ∃ result, f item = .ok result) ∧ f first = .error failure ∧
      items.mapM f = .error failure) ∨
    ∃ results, List.Forall₂ (fun item result => f item = .ok result) items results ∧
      items.mapM f = .ok results := by
  induction items with
  | nil => exact .inr ⟨[], .nil, rfl⟩
  | cons item rest ih =>
    rw [List.mapM_cons]
    cases read : f item with
    | error failure => exact .inl ⟨[], item, rest, failure, rfl, nofun, read, rfl⟩
    | ok result =>
      rcases ih with ⟨earlier, first, later, failure, rfl, fine, wrong, failed⟩ | ⟨results, each, done⟩
      · refine .inl ⟨item :: earlier, first, later, failure, rfl, ?_, wrong, ?_⟩
        · exact List.forall_mem_cons.mpr ⟨⟨result, read⟩, fine⟩
        · rw [failed]
          rfl
      · refine .inr ⟨result :: results, .cons read each, ?_⟩
        rw [done]
        rfl

theorem forM_eq_mapM (f : α → Except Failure Unit) (items : List α) :
    items.forM f = (items.mapM f).map fun _ => () := by
  induction items with
  | nil => rfl
  | cons item rest ih =>
    rw [List.forM_eq_forM, List.forM_cons, List.mapM_cons, ← List.forM_eq_forM, ih]
    cases f item with
    | error failure => rfl
    | ok _ => cases rest.mapM f <;> rfl

/-- All items are tested, and those that pass go before those already kept; or it is said what is wrong
with the first that cannot be tested. -/
theorem filterAuxM_cases {f : α → Except Failure Bool} {fails : α → Prop} {failure : α → Failure}
    {kept : α → Bool} (failing : ∀ item, fails item → f item = .error (failure item))
    (tested : ∀ item, ¬fails item → f item = .ok (kept item)) (items found : List α) :
    (∃ earlier first later, items = earlier ++ first :: later ∧ (∀ item ∈ earlier, ¬fails item) ∧
      fails first ∧ items.filterAuxM f found = .error (failure first)) ∨
    (∀ item ∈ items, ¬fails item) ∧
      items.filterAuxM f found = .ok ((items.filter kept).reverse ++ found) := by
  induction items generalizing found with
  | nil => exact .inr ⟨nofun, rfl⟩
  | cons item rest ih =>
    rw [List.filterAuxM]
    by_cases here : fails item
    · rw [failing item here]
      exact .inl ⟨[], item, rest, rfl, nofun, here, rfl⟩
    · rw [tested item here]
      rcases ih (cond (kept item) (item :: found) found) with
        ⟨earlier, first, later, rfl, fine, wrong, failed⟩ | ⟨fine, done⟩
      · exact .inl ⟨item :: earlier, first, later, rfl, List.forall_mem_cons.mpr ⟨here, fine⟩, wrong,
          failed⟩
      · refine .inr ⟨List.forall_mem_cons.mpr ⟨here, fine⟩, done.trans ?_⟩
        cases keep : kept item <;> simp [keep]

end Traversals

section Sequences

variable {σ : Type} {action : ExceptT Failure (StateM σ) β} {start middle : σ}

/-- A sequence goes on where its first operation left off. -/
theorem bind_ok {found : β} (first : action start = (.ok found, middle))
    (next : β → ExceptT Failure (StateM σ) γ) : (action >>= next) start = next found middle := by
  simp only [bind, ExceptT.bind, ExceptT.mk, StateT.bind, first]
  rfl

/-- A sequence ends where its first operation fails. -/
theorem bind_error {failure : Failure} (first : action start = (.error failure, middle))
    (next : β → ExceptT Failure (StateM σ) γ) :
    (action >>= next) start = (.error failure, middle) := by
  simp only [bind, ExceptT.bind, ExceptT.mk, StateT.bind, first]
  rfl

end Sequences

namespace Action

/-- What an operation comes to on a workspace, and the workspace that it leaves. -/
def on (action : Action β) (start : Workspace) : Except Failure β × Workspace :=
  action start

variable {action : Action β} {next : β → Action γ} {start last : Workspace}

theorem on_bind (action : Action β) (next : β → Action γ) (start : Workspace) :
    (action >>= next).on start =
      match action.on start with
      | (.ok found, middle) => (next found).on middle
      | (.error failure, middle) => (.error failure, middle) := by
  rcases first : action.on start with ⟨failure | found, middle⟩
  · exact bind_error first next
  · exact bind_ok first next

@[simp] theorem on_pure (value : β) : (pure value : Action β).on start = (.ok value, start) := rfl

@[simp] theorem on_throw (failure : Failure) :
    (throw failure : Action β).on start = (.error failure, start) := rfl

@[simp] theorem on_lift (result : Except Failure β) : (lift result).on start = (result, start) :=
  rfl

@[simp] theorem on_compute (result : Except Fault β) :
    (compute result).on start = (result.mapError Failure.fault, start) := rfl

@[simp] theorem on_look (read : Disk → Except Failure β) :
    (look read).on start = (read start.disk, start) := rfl

@[simp] theorem on_attempt (action : Action β) :
    action.attempt.on start = (.ok (action.on start).1, (action.on start).2) := rfl

/-- What is returned in the end does not matter for the workspace. -/
theorem bind_return (action : Action β) (value : γ) :
    ((action >>= fun _ => return value).on start).2 = (action.on start).2 := by
  rw [on_bind]
  rcases action.on start with ⟨_ | _, _⟩ <;> rfl

/-- A sequence succeeds exactly when its first operation does, and the next one where that one
left off. -/
theorem bind_eq_ok {value : γ} :
    (action >>= next).on start = (.ok value, last) ↔
      ∃ found middle, action.on start = (.ok found, middle) ∧
        (next found).on middle = (.ok value, last) := by
  rw [on_bind]
  rcases action.on start with ⟨result, middle⟩
  cases result with
  | error failure => simp
  | ok found => simp [and_assoc]

theorem lift_bind_eq_ok {result : Except Failure β} {value : γ} :
    (lift result >>= next).on start = (.ok value, last) ↔
      ∃ found, result = .ok found ∧ (next found).on start = (.ok value, last) := by
  rw [on_bind, on_lift]
  cases result <;> simp

/-- What a test can end succeeds exactly when the test does not hold and what follows it does. -/
theorem unless_eq_ok {test : Prop} [Decidable test] {failure : Failure} {rest : Action β} {value : β} :
    (if test then throw failure else rest).on start = (.ok value, last) ↔
      ¬test ∧ rest.on start = (.ok value, last) := by
  split <;> simp [*]

theorem lift_ok_bind (found : β) (next : β → Action γ) :
    (lift (.ok found) >>= next) = next found := rfl

theorem lift_map_bind (result : Except Failure β) (change : β → γ) (next : γ → Action ε) :
    (lift (result.map change) >>= next) = lift result >>= fun found => next (change found) := by
  cases result <;> rfl

/-- A change of the disk that is not refused. -/
theorem change_eq_ok {write : Disk → Except SystemError Disk} :
    (change write).on start = (.ok (), last) ↔
      ∃ disk, write start.disk = .ok disk ∧ { start with disk } = last := by
  rw [on, change]
  cases write start.disk <;> simp

/-- From a workspace that is as required, an operation leaves one that is as promised of its
outcome. -/
def Ensures (required : Workspace → Prop) (action : Action β)
    (promised : Except Failure β → Workspace → Prop) : Prop :=
  ∀ start, required start → promised (action.on start).1 (action.on start).2

/-- Whatever an operation comes to, the workspace stays as it has to be. -/
def Keeps (kept : Workspace → Prop) (action : Action β) : Prop :=
  Ensures kept action fun _ => kept

section Promises

variable {required kept : Workspace → Prop} {promised : Except Failure β → Workspace → Prop}
  {wanted : Except Failure γ → Workspace → Prop}

/-- The second operation of a sequence starts from what the first one promises. -/
theorem Ensures.bind (first : Ensures required action promised)
    (rest : ∀ found, Ensures (promised (.ok found)) (next found) wanted)
    (lost : ∀ failure last, promised (.error failure) last → wanted (.error failure) last) :
    Ensures required (action >>= next) wanted := by
  intro start right
  have middle := first start right
  rw [on_bind]
  generalize action.on start = reached at middle ⊢
  obtain ⟨outcome, between⟩ := reached
  cases outcome with
  | ok found => exact rest found between middle
  | error failure => exact lost failure _ middle

/-- An operation whose outcome is looked at afterwards. -/
theorem Ensures.attempt (first : Ensures required action promised)
    {next : Except Failure β → Action γ}
    (rest : ∀ outcome, Ensures (promised outcome) (next outcome) wanted) :
    Ensures required (action.attempt >>= next) wanted := by
  intro start right
  rw [on_bind]
  exact rest _ _ (first start right)

/-- A change of the disk is refused without a trace, or made. -/
theorem change_ensures {write : Disk → Except SystemError Disk}
    {promised : Except Failure Unit → Workspace → Prop}
    (made : ∀ start disk, required start → write start.disk = .ok disk →
      promised (.ok ()) { start with disk })
    (refused : ∀ start error, required start → promised (.error (.system error)) start) :
    Ensures required (change write) promised := by
  intro start right
  rw [on, change]
  cases outcome : write start.disk with
  | ok disk => exact made start disk right outcome
  | error error => exact refused start error right

theorem Keeps.bind (first : Keeps kept action) (rest : ∀ found, Keeps kept (next found)) :
    Keeps kept (action >>= next) :=
  Ensures.bind first rest fun _ _ right => right

theorem Keeps.attempt (first : Keeps kept action) : Keeps kept action.attempt :=
  fun start right => first start right

theorem keeps_pure (value : β) : Keeps kept (pure value) := fun _ right => right

theorem keeps_throw (failure : Failure) : Keeps kept (throw failure : Action β) :=
  fun _ right => right

theorem keeps_lift (result : Except Failure β) : Keeps kept (lift result) := fun _ right => right

theorem keeps_lift_bind {result : Except Failure β}
    (rest : ∀ found, result = .ok found → Keeps kept (next found)) :
    Keeps kept (lift result >>= next) := by
  intro start right
  rw [on_bind, on_lift]
  cases outcome : result with
  | ok found => exact rest found outcome start right
  | error failure => exact right

theorem keeps_compute (result : Except Fault β) : Keeps kept (compute result) :=
  fun _ right => right

theorem keeps_look (read : Disk → Except Failure β) : Keeps kept (look read) :=
  fun _ right => right

end Promises

end Action

section Fails

/-- If a computation fails, then with one of these failures. -/
def FailsBy (expected : Failure → Prop) (result : Except Failure β) : Prop :=
  ∀ failure, result = .error failure → expected failure

variable {expected : Failure → Prop}

theorem FailsBy.ok (value : β) : FailsBy expected (.ok value) := nofun

theorem FailsBy.error {failure : Failure} (known : expected failure) :
    FailsBy expected (.error failure : Except Failure β) := by
  rintro _ ⟨⟩
  exact known

theorem FailsBy.bind {result : Except Failure β} {next : β → Except Failure γ}
    (first : FailsBy expected result)
    (rest : ∀ found, result = .ok found → FailsBy expected (next found)) :
    FailsBy expected (result >>= next) := by
  cases result with
  | error failure => exact .error (first failure rfl)
  | ok found => exact rest found rfl

theorem FailsBy.map {result : Except Failure β} {change : β → γ}
    (first : FailsBy expected result) : FailsBy expected (result.map change) := by
  cases result with
  | error failure => exact .error (first failure rfl)
  | ok found => exact .ok _

/-- From each of these workspaces an operation leads to one of them again, and if it fails, then
with one of these failures. -/
def Action.FailsBy (seen : Workspace → Prop) (expected : Failure → Prop) (action : Action β) :
    Prop :=
  Ensures seen action fun outcome last => seen last ∧ Montage.FailsBy expected outcome

variable {seen : Workspace → Prop}

theorem Action.FailsBy.bind {action : Action β} {next : β → Action γ}
    (first : action.FailsBy seen expected)
    (rest : ∀ start found last, action.on start = (.ok found, last) →
      (next found).FailsBy seen expected) : (action >>= next).FailsBy seen expected := by
  intro start known
  obtain ⟨left, fails⟩ := first start known
  rw [on_bind]
  rcases reached : action.on start with ⟨failure | found, middle⟩
  · rw [reached] at left fails
    exact ⟨left, .error (fails failure rfl)⟩
  · rw [reached] at left
    exact rest start found middle reached middle left

theorem Action.FailsBy.pure (value : β) : (pure value : Action β).FailsBy seen expected :=
  fun _ known => ⟨known, .ok value⟩

theorem Action.FailsBy.throw {failure : Failure} (known : expected failure) :
    (throw failure : Action β).FailsBy seen expected :=
  fun _ reached => ⟨reached, .error known⟩

theorem Action.FailsBy.lift {result : Except Failure β} (fails : Montage.FailsBy expected result) :
    (lift result).FailsBy seen expected :=
  fun _ known => ⟨known, fails⟩

theorem Action.FailsBy.lift_bind {result : Except Failure β} {next : β → Action γ}
    (first : Montage.FailsBy expected result)
    (rest : ∀ found, result = .ok found → (next found).FailsBy seen expected) :
    (Action.lift result >>= next).FailsBy seen expected := by
  refine Action.FailsBy.bind (.lift first) fun start found last read => rest found ?_
  exact congrArg Prod.fst read

end Fails

end Montage
