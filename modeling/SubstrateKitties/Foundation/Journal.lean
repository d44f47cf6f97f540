import SubstrateKitties.Foundation.Trace

/-!
# Journals

A journal says how an event changes a table, and which events fit a table.
When every step of a system appends to its log the events that carry its view
from the old to the new state, the log read back over the initial view is the
view of the state reached, and every event fits the table read back before it.
-/

namespace SubstrateKitties.Foundation

structure Journal (Event Table : Type) where
  apply : Event → Table → Table
  Fits : Table → Event → Prop

namespace Journal

variable {Event Table : Type} (journal : Journal Event Table)

def replay (table : Table) : List Event → Table
  | [] => table
  | event :: events => replay (journal.apply event table) events

def FitsAll (table : Table) : List Event → Prop
  | [] => True
  | event :: events =>
      journal.Fits table event ∧ FitsAll (journal.apply event table) events

@[simp] theorem replay_nil (table : Table) : journal.replay table [] = table :=
  rfl

theorem replay_append (table : Table) (first second : List Event) :
    journal.replay table (first ++ second) =
      journal.replay (journal.replay table first) second := by
  induction first generalizing table with
  | nil => rfl
  | cons event first ih => exact ih _

theorem fitsAll_append (table : Table) (first second : List Event) :
    journal.FitsAll table (first ++ second) ↔
      journal.FitsAll table first ∧
        journal.FitsAll (journal.replay table first) second := by
  induction first generalizing table with
  | nil => simp [FitsAll]
  | cons event first ih =>
      simp only [List.cons_append, FitsAll, replay, ih, and_assoc]

variable {journal}

theorem FitsAll.at_event {table : Table} {before after : List Event}
    {event : Event} (h : journal.FitsAll table (before ++ event :: after)) :
    journal.Fits (journal.replay table before) event :=
  ((journal.fitsAll_append table before (event :: after)).mp h).2.1

/--
The simulation rule.  `keeps` is the invariant of the system that the proof of
a single step may use.
-/
theorem replay_run {σ ι ρ : Type} {step : ι → σ → ρ × σ}
    (log : σ → List Event) (view : σ → Table) {keeps : σ → Prop} {s : σ}
    (empty : log s = []) (start : keeps s)
    (preserved : ∀ s input, keeps s → keeps (step input s).2)
    (journaled : ∀ s input, keeps s → ∃ events,
      log (step input s).2 = log s ++ events ∧
      view (step input s).2 = journal.replay (view s) events ∧
      journal.FitsAll (view s) events)
    (inputs : List ι) :
    journal.replay (view s) (log (run step s inputs)) =
        view (run step s inputs) ∧
      journal.FitsAll (view s) (log (run step s inputs)) := by
  have all : keeps (run step s inputs) ∧
      journal.replay (view s) (log (run step s inputs)) =
        view (run step s inputs) ∧
      journal.FitsAll (view s) (log (run step s inputs)) := by
    induction inputs using List.reverseRecOn with
    | nil =>
        simp [empty, FitsAll, start]
    | append_singleton inputs input ih =>
        obtain ⟨hkeeps, hreplay, hfits⟩ := ih
        obtain ⟨events, hlog, hview, hnew⟩ :=
          journaled (run step s inputs) input hkeeps
        rw [run_concat, hlog, journal.replay_append, hreplay, ← hview,
          journal.fitsAll_append, hreplay]
        exact ⟨preserved _ input hkeeps, rfl, hfits, hnew⟩
  exact all.2

end Journal

end SubstrateKitties.Foundation
