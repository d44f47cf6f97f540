import SubstrateKitties.Foundation.Trace

/-!
# Refinement

A system refines a simpler one when a representation relates their states and
the same input has the same outcome in both and leads to related states again.
Then whole runs agree: every outcome is the one the simpler system gives.
-/

namespace SubstrateKitties.Foundation

section Refinement

variable {σ τ ι ρ : Type}

def outcomes (step : ι → σ → ρ × σ) (s : σ) (inputs : List ι) : List ρ :=
  (trace step s inputs).map Transition.outcome

structure Refines (concrete : ι → σ → ρ × σ) (abstract : ι → τ → ρ × τ)
    (Represents : σ → τ → Prop) : Prop where
  outcome : ∀ s t input, Represents s t →
    (concrete input s).1 = (abstract input t).1
  next : ∀ s t input, Represents s t →
    Represents (concrete input s).2 (abstract input t).2

namespace Refines

variable {concrete : ι → σ → ρ × σ} {abstract : ι → τ → ρ × τ}
  {Represents : σ → τ → Prop} (h : Refines concrete abstract Represents)

include h

theorem run {s : σ} {t : τ} (start : Represents s t) (inputs : List ι) :
    Represents (run concrete s inputs) (run abstract t inputs) := by
  induction inputs generalizing s t with
  | nil => exact start
  | cons input inputs ih => exact ih (h.next s t input start)

theorem outcomes_eq {s : σ} {t : τ} (start : Represents s t)
    (inputs : List ι) :
    outcomes concrete s inputs = outcomes abstract t inputs := by
  induction inputs generalizing s t with
  | nil => rfl
  | cons input inputs ih =>
      have hrest := ih (h.next s t input start)
      simp only [outcomes, trace, List.map_cons, transition] at hrest ⊢
      rw [h.outcome s t input start, hrest]

end Refines

/-! ## Two runs side by side -/

variable {κ : Type}

/--
Two systems whose steps match as long as their states are related and the
transitions are a pair that `Same` allows.
-/
structure Lockstep (step : ι → σ → ρ × σ) (step' : κ → τ → ρ × τ)
    (Related : σ → τ → Prop)
    (Same : Transition σ ι ρ → Transition τ κ ρ → Prop) : Prop where
  outcome : ∀ s t input input', Related s t →
    Same (transition step s input) (transition step' t input') →
    (step input s).1 = (step' input' t).1
  next : ∀ s t input input', Related s t →
    Same (transition step s input) (transition step' t input') →
    Related (step input s).2 (step' input' t).2

theorem Lockstep.runs {step : ι → σ → ρ × σ} {step' : κ → τ → ρ × τ}
    {Related : σ → τ → Prop} {Same : Transition σ ι ρ → Transition τ κ ρ → Prop}
    (h : Lockstep step step' Related Same) {s : σ} {t : τ}
    (start : Related s t) {inputs : List ι} {inputs' : List κ}
    (same : List.Forall₂ Same (trace step s inputs) (trace step' t inputs')) :
    outcomes step s inputs = outcomes step' t inputs' ∧
      Related (Foundation.run step s inputs)
        (Foundation.run step' t inputs') := by
  induction inputs generalizing s t inputs' with
  | nil =>
      cases inputs' with
      | nil => exact ⟨rfl, start⟩
      | cons input' inputs' => cases same
  | cons input inputs ih =>
      cases inputs' with
      | nil => cases same
      | cons input' inputs' =>
          cases same with
          | cons hfirst hrest =>
              have houtcome := h.outcome s t input input' start hfirst
              obtain ⟨houtcomes, hrelated⟩ :=
                ih (h.next s t input input' start hfirst) hrest
              simp only [outcomes, trace, List.map_cons, transition] at houtcomes ⊢
              rw [houtcome, houtcomes]
              exact ⟨rfl, hrelated⟩

end Refinement

end SubstrateKitties.Foundation
