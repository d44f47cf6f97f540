import Mathlib.Data.List.Induction

/-!
# Runs and histories

A system is a total step function: an input and a state give an outcome and the
next state.  `run` is the state after a list of inputs and `trace` the history
of the run, one transition for each input.  Properties of every reachable state
and properties of histories are both proved from one step by the induction
rules below.
-/

namespace SubstrateKitties.Foundation

structure Transition (σ ι ρ : Type) where
  pre : σ
  input : ι
  outcome : ρ
  post : σ

section Runs

variable {σ ι ρ : Type} (step : ι → σ → ρ × σ)

def transition (s : σ) (input : ι) : Transition σ ι ρ :=
  ⟨s, input, (step input s).1, (step input s).2⟩

def run (s : σ) : List ι → σ
  | [] => s
  | input :: inputs => run (step input s).2 inputs

def trace (s : σ) : List ι → List (Transition σ ι ρ)
  | [] => []
  | input :: inputs => transition step s input :: trace (step input s).2 inputs

@[simp] theorem run_nil (s : σ) : run step s [] = s := rfl

@[simp] theorem trace_nil (s : σ) : trace step s [] = [] := rfl

theorem run_append (s : σ) (first second : List ι) :
    run step s (first ++ second) = run step (run step s first) second := by
  induction first generalizing s with
  | nil => rfl
  | cons input first ih => exact ih _

theorem run_concat (s : σ) (inputs : List ι) (input : ι) :
    run step s (inputs ++ [input]) = (step input (run step s inputs)).2 := by
  rw [run_append]
  rfl

theorem trace_append (s : σ) (first second : List ι) :
    trace step s (first ++ second) =
      trace step s first ++ trace step (run step s first) second := by
  induction first generalizing s with
  | nil => rfl
  | cons input first ih =>
      simp only [List.cons_append, trace, run, ih]

theorem trace_concat (s : σ) (inputs : List ι) (input : ι) :
    trace step s (inputs ++ [input]) =
      trace step s inputs ++ [transition step (run step s inputs) input] := by
  rw [trace_append]
  rfl

variable {step}

theorem run_induction {P : σ → Prop} {s : σ} (start : P s)
    (next : ∀ s input, P s → P (step input s).2) (inputs : List ι) :
    P (run step s inputs) := by
  induction inputs generalizing s with
  | nil => exact start
  | cons input inputs ih => exact ih (next s input start)

theorem trace_induction {s : σ} {P : List (Transition σ ι ρ) → σ → Prop}
    (start : P [] s)
    (next : ∀ inputs input, P (trace step s inputs) (run step s inputs) →
      P (trace step s inputs ++ [transition step (run step s inputs) input])
        (step input (run step s inputs)).2)
    (inputs : List ι) : P (trace step s inputs) (run step s inputs) := by
  induction inputs using List.reverseRecOn with
  | nil => exact start
  | append_singleton inputs input ih =>
      rw [trace_concat, run_concat]
      exact next inputs input ih

theorem trace_eq_append {s : σ} {inputs : List ι}
    {before after : List (Transition σ ι ρ)} {t : Transition σ ι ρ}
    (h : trace step s inputs = before ++ t :: after) :
    ∃ first input second, inputs = first ++ input :: second ∧
      before = trace step s first ∧
      t = transition step (run step s first) input ∧
      after = trace step t.post second := by
  induction inputs generalizing s before with
  | nil => simp at h
  | cons input inputs ih =>
      cases before with
      | nil =>
          simp only [trace, List.nil_append, List.cons.injEq] at h
          obtain ⟨rfl, rfl⟩ := h
          exact ⟨[], input, inputs, rfl, rfl, rfl, rfl⟩
      | cons first before =>
          simp only [trace, List.cons_append, List.cons.injEq] at h
          obtain ⟨rfl, h⟩ := h
          obtain ⟨inputs₁, input', inputs₂, rfl, rfl, ht, ha⟩ := ih h
          exact ⟨input :: inputs₁, input', inputs₂, rfl, rfl, ht, ha⟩

theorem exists_of_mem_trace {s : σ} {inputs : List ι} {t : Transition σ ι ρ}
    (h : t ∈ trace step s inputs) :
    ∃ first input, t = transition step (run step s first) input := by
  obtain ⟨before, after, hsplit⟩ := List.append_of_mem h
  obtain ⟨first, input, _, _, _, ht, _⟩ := trace_eq_append hsplit
  exact ⟨first, input, ht⟩

/-- What holds only at the end of a run begins to hold in one of its steps. -/
theorem exists_transition_of_run {P : σ → Prop} {s : σ} {inputs : List ι}
    (before : ¬ P s) (after : P (run step s inputs)) :
    ∃ t ∈ trace step s inputs, ¬ P t.pre ∧ P t.post := by
  induction inputs generalizing s with
  | nil => exact absurd after before
  | cons input inputs ih =>
      by_cases h : P (step input s).2
      · exact ⟨transition step s input, .head _, before, h⟩
      · obtain ⟨t, ht, hpre, hpost⟩ := ih h after
        exact ⟨t, .tail _ ht, hpre, hpost⟩

theorem run_split_of_mem_trace {s : σ} {inputs : List ι}
    {t : Transition σ ι ρ} (h : t ∈ trace step s inputs) :
    ∃ first input second, t = transition step (run step s first) input ∧
      run step s inputs = run step t.post second := by
  obtain ⟨before, after, hsplit⟩ := List.append_of_mem h
  obtain ⟨first, input, second, rfl, -, rfl, -⟩ := trace_eq_append hsplit
  exact ⟨first, input, second, rfl, run_append step s first (input :: second)⟩

end Runs

/-! ## The latest entry of a kind -/

section Latest

variable {τ : Type} {p : τ → Bool}

def latest (p : τ → Bool) (history : List τ) : Option τ :=
  (history.filter p).getLast?

@[simp] theorem latest_nil : latest p [] = none := rfl

theorem latest_concat (history : List τ) (t : τ) :
    latest p (history ++ [t]) = if p t then some t else latest p history := by
  by_cases h : p t <;> simp [latest, h]

theorem latest_satisfies {history : List τ} {t : τ}
    (h : latest p history = some t) : p t = true := by
  have hmem : t ∈ history.filter p := List.mem_of_getLast? h
  exact (List.mem_filter.mp hmem).2

theorem latest_mem_after {before after : List τ} {t u : τ} (ht : p t = true)
    (h : latest p (before ++ t :: after) = some u) : u ∈ t :: after := by
  have hfilter : ((before ++ t :: after).filter p).getLast? =
      ((t :: after).filter p).getLast? := by
    rw [List.filter_append, List.getLast?_append,
      List.filter_cons_of_pos ht, List.getLast?_cons, Option.some_or]
  rw [latest, hfilter] at h
  exact (List.mem_filter.mp (List.mem_of_getLast? h)).1

end Latest

end SubstrateKitties.Foundation
