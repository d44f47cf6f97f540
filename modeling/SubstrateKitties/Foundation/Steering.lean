import SubstrateKitties.Foundation.Trace

/-!
# Steering a system

If from every state some inputs bring one cell to its goal and leave the other
cells alone, then from every state some inputs bring all cells of a list to
their goals, at the same price for each cell.
-/

namespace SubstrateKitties.Foundation

section Steering

variable {σ ι ρ κ α : Type}

/-- The inputs are at most `cost`, and each of their steps is a good one. -/
structure Steers (step : ι → σ → ρ × σ) (Good : Transition σ ι ρ → Prop)
    (cost : Nat) (s : σ) (inputs : List ι) : Prop where
  cheap : inputs.length ≤ cost
  good : ∀ t ∈ trace step s inputs, Good t

namespace Steers

variable {step : ι → σ → ρ × σ} {Good : Transition σ ι ρ → Prop}

theorem nil (s : σ) : Steers step Good 0 s [] := by
  constructor <;> simp

theorem one {s : σ} {input : ι} (h : Good (transition step s input)) :
    Steers step Good 1 s [input] := by
  constructor <;> simp [trace, h]

theorem append {cost cost' : Nat} {s : σ} {inputs inputs' : List ι}
    (h : Steers step Good cost s inputs)
    (h' : Steers step Good cost' (run step s inputs) inputs') :
    Steers step Good (cost + cost') s (inputs ++ inputs') := by
  constructor
  · have hcheap := h.cheap
    have hcheap' := h'.cheap
    rw [List.length_append]
    omega
  · intro t ht
    rw [trace_append, List.mem_append] at ht
    cases ht with
    | inl hfirst => exact h.good t hfirst
    | inr hsecond => exact h'.good t hsecond

theorem exists_of_each {keeps : σ → Prop} {cost : Nat} (cell : σ → κ → α)
    (goal : κ → α) {keys : List κ}
    (each : ∀ s, keeps s → ∀ key ∈ keys, ∃ inputs,
      Steers step Good cost s inputs ∧ keeps (run step s inputs) ∧
        cell (run step s inputs) key = goal key ∧
        ∀ other, other ≠ key → cell (run step s inputs) other = cell s other)
    {s : σ} (start : keeps s) :
    ∃ inputs, Steers step Good (cost * keys.length) s inputs ∧
      keeps (run step s inputs) ∧
      (∀ key ∈ keys, cell (run step s inputs) key = goal key) ∧
      ∀ other, other ∉ keys → cell (run step s inputs) other = cell s other := by
  induction keys generalizing s with
  | nil => exact ⟨[], nil s, start, by simp, by simp⟩
  | cons key keys ih =>
      obtain ⟨first, hfirst, hkeeps, hkey, hothers⟩ := each s start key (by simp)
      obtain ⟨rest, hrest, hkeeps', hkeys, hothers'⟩ :=
        ih (fun s hs other hother => each s hs other (by simp [hother])) hkeeps
      have hcost : cost * (key :: keys).length = cost + cost * keys.length := by
        rw [List.length_cons, Nat.mul_succ, Nat.add_comm]
      refine ⟨first ++ rest, ?_, ?_, ?_, ?_⟩
      · rw [hcost]
        exact hfirst.append hrest
      · rw [run_append]
        exact hkeeps'
      · intro other hother
        rw [run_append]
        by_cases hmem : other ∈ keys
        · exact hkeys other hmem
        · have heq : other = key := by simpa [hmem] using hother
          rw [hothers' other hmem, heq, hkey]
      · intro other hother
        rw [List.mem_cons, not_or] at hother
        rw [run_append, hothers' other hother.2, hothers other hother.1]

end Steers

end Steering

end SubstrateKitties.Foundation
