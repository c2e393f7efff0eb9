import Mathlib.Data.List.Basic

/-! Labelled steps one after the other. -/

namespace Montage

variable {State Label : Type} {step : State → Label → State → Prop} {start middle last : State}
  {labels more : List Label}

/-- Steps one after the other, each with its label. -/
inductive Trace (step : State → Label → State → Prop) : State → List Label → State → Prop where
  | nil {start : State} : Trace step start [] start
  | cons {start middle last : State} {label : Label} {labels : List Label}
      (first : step start label middle) (rest : Trace step middle labels last) :
      Trace step start (label :: labels) last

namespace Trace

theorem single {label : Label} (first : step start label last) : Trace step start [label] last :=
  .cons first .nil

theorem append (first : Trace step start labels middle) (rest : Trace step middle more last) :
    Trace step start (labels ++ more) last := by
  induction first with
  | nil => exact rest
  | cons next _ ih => exact .cons next (ih rest)

end Trace

end Montage
