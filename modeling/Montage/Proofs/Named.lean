import Montage.Named

/-! Lists of named things are read like finite maps. -/

namespace Montage.Named

variable {β : Type}

@[simp] theorem get?_nil (name : String) : get? ([] : Named β) name = none := rfl

theorem get?_cons (present : String) (value : β) (rest : Named β) (name : String) :
    get? ((present, value) :: rest) name = if name = present then some value else rest.get? name := by
  by_cases same : name = present
  · subst same
    simp [get?]
  · have differ : (name == present) = false := by simpa using same
    simp [get?, List.lookup_cons, differ, same]

theorem get?_set (name other : String) (value : β) (named : Named β) :
    (named.set name value).get? other = if other = name then some value else named.get? other := by
  induction named with
  | nil => simp [set, get?_cons]
  | cons entry rest ih =>
    obtain ⟨present, old⟩ := entry
    unfold set
    split
    · subst present
      rw [get?_cons, get?_cons]
      split <;> rfl
    · rename_i differ
      rw [get?_cons, get?_cons, ih]
      by_cases same : other = present
      · simp [same, differ]
      · simp [same]

/-- A new name is entered after the others. -/
theorem names_set (name : String) (value : β) (named : Named β) :
    (named.set name value).map Prod.fst =
      if name ∈ named.map Prod.fst then named.map Prod.fst else named.map Prod.fst ++ [name] := by
  induction named with
  | nil => simp [set]
  | cons entry rest ih =>
    obtain ⟨present, old⟩ := entry
    unfold set
    split
    · rename_i same
      simp [same]
    · rename_i differ
      rw [List.map_cons, ih, List.map_cons]
      by_cases member : name ∈ rest.map Prod.fst
      · rw [if_pos member, if_pos (List.mem_cons_of_mem present member)]
      · rw [if_neg member, if_neg (by simp [Ne.symm differ, member]), List.cons_append]

theorem set_of_fresh {named : Named β} {name : String} (fresh : name ∉ named.map Prod.fst)
    (value : β) : named.set name value = named ++ [(name, value)] := by
  induction named with
  | nil => rfl
  | cons entry rest ih =>
    obtain ⟨present, old⟩ := entry
    obtain ⟨differ, later⟩ := not_or.mp fun member => fresh (List.mem_cons.mpr member)
    rw [set, if_neg (Ne.symm differ), ih later, List.cons_append]

theorem get?_erase (name other : String) (named : Named β) :
    (named.erase name).get? other = if other = name then none else named.get? other := by
  induction named with
  | nil => simp [erase]
  | cons entry rest ih =>
    obtain ⟨present, old⟩ := entry
    simp only [erase] at ih ⊢
    by_cases gone : present = name
    · subst gone
      rw [List.filter_cons_of_neg (by simp), ih, get?_cons]
      split <;> rfl
    · rw [List.filter_cons_of_pos (by simpa using gone), get?_cons, get?_cons, ih]
      by_cases same : other = present
      · simp [same, gone]
      · simp [same]

/-- A name that is entered and struck out again leaves no trace. -/
theorem erase_set {name : String} {named : Named β} (absent : named.get? name = none) (value : β) :
    (named.set name value).erase name = named := by
  induction named with
  | nil => simp [set, erase]
  | cons entry rest ih =>
    obtain ⟨present, old⟩ := entry
    rw [get?_cons] at absent
    by_cases same : name = present
    · simp [same] at absent
    · rw [if_neg same] at absent
      rw [set, if_neg (Ne.symm same), erase, List.filter_cons_of_pos (by simpa using Ne.symm same)]
      exact congrArg _ (ih absent)

end Montage.Named
