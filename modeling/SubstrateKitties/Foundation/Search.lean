import Mathlib.Order.Basic

/-!
# Searches that stop at the first hit

A search goes through its candidates in order and stops with the first one that
is accepted.  It has then tried a prefix of the candidates, and what it has
found is what a search of all of them would find.
-/

namespace SubstrateKitties.Foundation

section Search

variable {α : Type} (accept : α → Bool)

/-- The candidates up to the first accepted one, which is included. -/
def tried : List α → List α
  | [] => []
  | candidate :: rest =>
      if accept candidate then [candidate] else candidate :: tried rest

theorem tried_prefix (candidates : List α) :
    tried accept candidates <+: candidates := by
  induction candidates with
  | nil => simp [tried]
  | cons candidate rest ih =>
      unfold tried
      split
      · exact List.prefix_append [candidate] rest
      · exact List.prefix_cons_inj candidate |>.mpr ih

theorem find?_tried (candidates : List α) :
    (tried accept candidates).find? accept = candidates.find? accept := by
  induction candidates with
  | nil => rfl
  | cons candidate rest ih =>
      unfold tried
      by_cases h : accept candidate
      · simp [h]
      · simp [h, ih]

end Search

/-- Where a search over `p 0, p 1, ...` ends that may look at `budget` of them. -/
inductive FirstHit (p : Nat → Prop) (budget : Nat) : Option Nat → Prop where
  | hit (i : Nat) (within : i < budget) (holds : p i)
      (before : ∀ j < i, ¬ p j) : FirstHit p budget (some i)
  | miss (nowhere : ∀ j < budget, ¬ p j) : FirstHit p budget none

namespace FirstHit

variable {p : Nat → Prop} {budget : Nat}

theorem zero (h : p 0) : FirstHit p (budget + 1) (some 0) :=
  .hit 0 (by omega) h fun j hj => absurd hj (by omega)

theorem succ (h : ¬ p 0) {found : Option Nat}
    (rest : FirstHit (fun i => p (i + 1)) budget found) :
    FirstHit p (budget + 1) (found.map (· + 1)) := by
  have hbefore : ∀ bound, (∀ j < bound, ¬ p (j + 1)) →
      ∀ j < bound + 1, ¬ p j := by
    intro bound hnone j hj
    cases j with
    | zero => exact h
    | succ j => exact hnone j (by omega)
  cases rest with
  | hit i within holds before =>
      exact .hit (i + 1) (by omega) holds (hbefore i before)
  | miss nowhere => exact .miss (hbefore budget nowhere)

end FirstHit

end SubstrateKitties.Foundation
