import Mathlib.Order.Defs.PartialOrder
import SubstrateKitties.Foundation.Trace

/-!
# Sequence numbers

A receiver takes only the message that carries its next number, and moves that
number on as it takes it.  Then each number is taken at most once, whatever the
senders and the network between them do.
-/

namespace SubstrateKitties.Foundation

section Sequence

variable {σ ι ρ κ : Type} [Preorder κ]

/-- `taken` is the number of the message that a transition takes, if any. -/
structure Sequenced (step : ι → σ → ρ × σ)
    (taken : Transition σ ι ρ → Option κ) (next : σ → κ) : Prop where
  current : ∀ s input number,
    taken (transition step s input) = some number → number = next s
  advances : ∀ s input number,
    taken (transition step s input) = some number → number < next (step input s).2
  grows : ∀ s input, next s ≤ next (step input s).2

namespace Sequenced

variable {step : ι → σ → ρ × σ} {taken : Transition σ ι ρ → Option κ}
  {next : σ → κ} (h : Sequenced step taken next) [DecidableEq κ]

include h

theorem taken_below (s : σ) (inputs : List ι) (number : κ) :
    let history := trace step s inputs
    history.countP (fun t => taken t = some number) ≤ 1 ∧
      (0 < history.countP (fun t => taken t = some number) →
        number < next (run step s inputs)) := by
  refine trace_induction (P := fun history s =>
    history.countP (fun t => taken t = some number) ≤ 1 ∧
      (0 < history.countP (fun t => taken t = some number) →
        number < next s)) ?_ ?_ inputs
  · simp
  · intro before input ih
    obtain ⟨hle, hbelow⟩ := ih
    have hgrows := h.grows (run step s before) input
    rw [List.countP_append, List.countP_singleton]
    by_cases htaken :
        taken (transition step (run step s before) input) = some number
    · have hcurrent := h.current _ _ _ htaken
      have hzero : (trace step s before).countP
          (fun t => taken t = some number) = 0 := by
        by_contra hne
        exact absurd (hbelow (Nat.pos_of_ne_zero hne)) (hcurrent ▸ lt_irrefl _)
      rw [hzero]
      exact ⟨by simp [htaken], fun _ => h.advances _ _ _ htaken⟩
    · simp only [htaken, decide_false, Bool.false_eq_true, if_false, Nat.add_zero]
      exact ⟨hle, fun hpos => lt_of_lt_of_le (hbelow hpos) hgrows⟩

theorem at_most_once (s : σ) (inputs : List ι) (number : κ) :
    (trace step s inputs).countP (fun t => taken t = some number) ≤ 1 :=
  (h.taken_below s inputs number).1

end Sequenced

end Sequence

end SubstrateKitties.Foundation
