import SubstrateKitties.Foundation.Refinement

/-!
# Runs with steps left out

An excerpt of a history leaves some transitions out and keeps each of the
others as one input of a second system.  If what is left out does not concern
the states that the second system runs through, and what is kept goes there as
it did in the history, then the run of the excerpt agrees with the whole run.
-/

namespace SubstrateKitties.Foundation

section Excerpt

variable {σ τ ι κ ρ ο : Type}

/-- `answer` says how the outcomes of the second system read in the first. -/
structure Excerpt (step : ι → σ → ρ × σ) (step' : κ → τ → ο × τ)
    (answer : ο → ρ) (keep : Transition σ ι ρ → Option κ)
    (Related : σ → τ → Prop) : Prop where
  left_out : ∀ s t input, Related s t →
    keep (transition step s input) = none → Related (step input s).2 t
  outcome : ∀ s t input input', Related s t →
    keep (transition step s input) = some input' →
    (step input s).1 = answer (step' input' t).1
  next : ∀ s t input input', Related s t →
    keep (transition step s input) = some input' →
    Related (step input s).2 (step' input' t).2

def keptOutcomes (keep : Transition σ ι ρ → Option κ)
    (history : List (Transition σ ι ρ)) : List ρ :=
  (history.filter fun t => (keep t).isSome).map Transition.outcome

theorem Excerpt.runs {step : ι → σ → ρ × σ} {step' : κ → τ → ο × τ}
    {answer : ο → ρ} {keep : Transition σ ι ρ → Option κ}
    {Related : σ → τ → Prop} (h : Excerpt step step' answer keep Related)
    {s : σ} {t : τ} (start : Related s t) (inputs : List ι) :
    let excerpt := (trace step s inputs).filterMap keep
    Related (run step s inputs) (run step' t excerpt) ∧
      keptOutcomes keep (trace step s inputs) =
        (outcomes step' t excerpt).map answer := by
  induction inputs generalizing s t with
  | nil => exact ⟨start, rfl⟩
  | cons input inputs ih =>
      cases hkeep : keep (transition step s input) with
      | none =>
          have hrest := ih (h.left_out s t input start hkeep)
          simpa [trace, run, keptOutcomes, hkeep] using hrest
      | some input' =>
          have houtcome := h.outcome s t input input' start hkeep
          obtain ⟨hrelated, houtcomes⟩ := ih (h.next s t input input' start hkeep)
          simp only [trace, List.filterMap_cons_some hkeep, run]
          refine ⟨hrelated, ?_⟩
          simp only [keptOutcomes, hkeep, Option.isSome_some,
            List.filter_cons_of_pos, List.map_cons, outcomes, trace]
            at houtcomes ⊢
          rw [houtcomes]
          simp only [transition, houtcome]

theorem filterMap_trace (step : ι → σ → ρ × σ) (keep : ι → Option κ) (s : σ)
    (inputs : List ι) :
    (trace step s inputs).filterMap (fun t => keep t.input) =
      inputs.filterMap keep := by
  induction inputs generalizing s with
  | nil => rfl
  | cons input inputs ih =>
      simp only [trace, List.filterMap_cons, ih]
      rfl

end Excerpt

end SubstrateKitties.Foundation
