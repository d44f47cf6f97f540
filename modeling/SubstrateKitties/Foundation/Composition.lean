import SubstrateKitties.Foundation.Excerpt

/-!
# Components of a system

A system routes its inputs to its components, each of which keeps a part of the
state to itself.  Whatever the others do in between, a component does what it
would do alone on the inputs that are routed to it, and gives the same answers.
A log may be shared: the part of a component are the entries it has added.
-/

namespace SubstrateKitties.Foundation

/-! ## Shared logs -/

section SharedLog

variable {α β ε : Type} (mine : ε → Option α) (wrap : α → ε)

/-- What a component has added to its own log goes to the end of the common one. -/
def extendLog (log : List ε) (own : List α) : List ε :=
  log ++ (own.drop (log.filterMap mine).length).map wrap

theorem filterMap_extendLog (hwrap : ∀ a, mine (wrap a) = some a)
    {log : List ε} {own : List α} (h : log.filterMap mine <+: own) :
    (extendLog mine wrap log own).filterMap mine = own := by
  obtain ⟨added, rfl⟩ := h
  have hmine : mine ∘ wrap = some := funext hwrap
  rw [extendLog, List.drop_left, List.filterMap_append, List.filterMap_map,
    hmine, List.filterMap_some]

theorem filterMap_extendLog_of_other (theirs : ε → Option β)
    (hother : ∀ a, theirs (wrap a) = none) (log : List ε) (own : List α) :
    (extendLog mine wrap log own).filterMap theirs = log.filterMap theirs := by
  have hnone : ∀ added : List α, (added.map wrap).filterMap theirs = [] := by
    intro added
    rw [List.filterMap_map, List.filterMap_eq_nil_iff]
    exact fun a _ => hother a
  rw [extendLog, List.filterMap_append, hnone, List.append_nil]

end SharedLog

/-! ## Components -/

section Composition

variable {σ τ ι κ ρ ο : Type}

structure Component (step : ι → σ → ρ × σ) (part : κ → τ → ο × τ)
    (view : σ → τ) (route : ι → Option κ) (answer : ο → ρ) : Prop where
  routed : ∀ s input own, route input = some own →
    view (step input s).2 = (part own (view s)).2
  answered : ∀ s input own, route input = some own →
    (step input s).1 = answer (part own (view s)).1
  untouched : ∀ s input, route input = none → view (step input s).2 = view s

abbrev answers (route : ι → Option κ) (history : List (Transition σ ι ρ)) :
    List ρ :=
  keptOutcomes (fun t => route t.input) history

namespace Component

variable {step : ι → σ → ρ × σ} {part : κ → τ → ο × τ} {view : σ → τ}
  {route : ι → Option κ} {answer : ο → ρ}
  (h : Component step part view route answer)

include h

theorem excerpt :
    Excerpt step part answer (fun t => route t.input) fun s t => view s = t where
  left_out s t input start hroute := (h.untouched s input hroute).trans start
  outcome s t input own start hroute := by
    rw [← start]
    exact h.answered s input own hroute
  next s t input own start hroute := by
    rw [← start]
    exact h.routed s input own hroute

theorem runs (s : σ) (inputs : List ι) :
    view (run step s inputs) = run part (view s) (inputs.filterMap route) ∧
      answers route (trace step s inputs) =
        (outcomes part (view s) (inputs.filterMap route)).map answer := by
  have hruns := h.excerpt.runs (s := s) rfl inputs
  rw [filterMap_trace] at hruns
  exact hruns

end Component

end Composition

end SubstrateKitties.Foundation
