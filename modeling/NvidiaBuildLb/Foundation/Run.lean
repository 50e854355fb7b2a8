import Mathlib.Data.List.Basic
import Mathlib.Logic.Relation

namespace NvidiaBuildLb.Foundation

/-! Labelled transition systems: runs, and the induction that carries an
invariant along a whole run. -/

/-- A run is the list of labels it takes from its first state to its last. -/
inductive Run (step : σ → ι → σ → Prop) : σ → List ι → σ → Prop
  | nil (state : σ) : Run step state [] state
  | cons (first : step start label middle)
      (rest : Run step middle labels finish) :
      Run step start (label :: labels) finish

namespace Run

variable {step : σ → ι → σ → Prop}

theorem append (first : Run step start labels middle)
    (second : Run step middle labels' finish) :
    Run step start (labels ++ labels') finish := by
  induction first with
  | nil => exact second
  | cons head _ induction => exact .cons head (induction second)

theorem snoc (first : Run step start labels middle)
    (last : step middle label finish) :
    Run step start (labels ++ [label]) finish :=
  first.append (.cons last (.nil finish))

theorem invariant (run : Run step start labels finish) (property : σ → Prop)
    (preserved : ∀ {before label after},
      property before → step before label after → property after)
    (initially : property start) : property finish := by
  induction run with
  | nil => exact initially
  | cons head _ induction => exact induction (preserved initially head)

/-- A reflexive relation that absorbs one more step relates the two ends of
every run. -/
theorem relates {related : σ → σ → Prop} (refl : ∀ state, related state state)
    (extend : ∀ {start before label after},
      related start before → step before label after → related start after)
    (run : Run step start labels finish) : related start finish := by
  have general : ∀ {origin}, related origin start → related origin finish := by
    intro origin reached
    induction run with
    | nil => exact reached
    | cons head _ induction => exact induction (extend reached head)
  exact general (refl start)

theorem mono {weaker : σ → ι → σ → Prop}
    (weaken : ∀ {before label after},
      step before label after → weaker before label after)
    (run : Run step start labels finish) : Run weaker start labels finish := by
  induction run with
  | nil state => exact .nil state
  | cons head _ induction => exact .cons (weaken head) induction

end Run

/-- The steps of a system that also meet a condition on the state they leave
and on their label. -/
def Guarded (step : σ → ι → σ → Prop) (allowed : σ → ι → Prop) :
    σ → ι → σ → Prop :=
  fun before label after => step before label after ∧ allowed before label

end NvidiaBuildLb.Foundation
