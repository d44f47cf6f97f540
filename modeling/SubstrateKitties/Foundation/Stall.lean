import Mathlib.Algebra.Ring.Nat
import Mathlib.Data.List.Nodup
import SubstrateKitties.Foundation.Trace

/-!
# Unattended stalls

The stall of an owner shows the goods it holds, some of them with a price.
While nobody attends to it, goods may leave it at the price they show and goods
may be brought to it without a price.  These two rules compose, so after any
time every good either stands where it stood or has been sold once, at the
price it showed when the owner left.
-/

namespace SubstrateKitties.Foundation

section Stall

variable {κ ν : Type}

/-- `none` is a good that is not held, `some none` one that is not for sale. -/
abbrev Stall (κ ν : Type) := κ → Option (Option ν)

structure Unattended (stall stall' : Stall κ ν) (deals : List (κ × ν)) :
    Prop where
  sold : ∀ deal ∈ deals, stall deal.1 = some (some deal.2)
  once : (deals.map Prod.fst).Nodup
  kept : ∀ key, key ∉ deals.map Prod.fst → stall key ≠ none →
    stall' key = stall key
  brought : ∀ key, key ∈ deals.map Prod.fst ∨ stall key = none →
    stall' key = none ∨ stall' key = some none

namespace Unattended

theorem refl (stall : Stall κ ν) : Unattended stall stall [] where
  sold := by simp
  once := by simp
  kept := by simp
  brought _ hkey := .inl (by simpa using hkey)

theorem brings {stall stall' : Stall κ ν} (key : κ)
    (others : ∀ other, other ≠ key → stall' other = stall other)
    (before : stall key = none)
    (after : stall' key = none ∨ stall' key = some none) :
    Unattended stall stall' [] where
  sold := by simp
  once := by simp
  kept other _ hheld := others other fun hkey => hheld (hkey ▸ before)
  brought other hother := by
    by_cases hkey : other = key
    · rw [hkey]
      exact after
    · rw [others other hkey]
      exact .inl (by simpa using hother)

theorem sells {stall stall' : Stall κ ν} {key : κ} {price : ν}
    (others : ∀ other, other ≠ key → stall' other = stall other)
    (offer : stall key = some (some price)) (gone : stall' key = none) :
    Unattended stall stall' [(key, price)] where
  sold := by simp [offer]
  once := by simp
  kept other hother _ := others other (by simpa using hother)
  brought other hother := by
    left
    by_cases hkey : other = key
    · rw [hkey, gone]
    · rw [others other hkey]
      simpa [hkey] using hother

theorem offered {stall stall' : Stall κ ν} {deals : List (κ × ν)}
    (h : Unattended stall stall' deals) {key : κ} {price : ν}
    (offer : stall' key = some (some price)) :
    stall key = some (some price) ∧ key ∉ deals.map Prod.fst := by
  have hstays : ¬(key ∈ deals.map Prod.fst ∨ stall key = none) := by
    intro hgone
    have hnothing := h.brought key hgone
    simp [offer] at hnothing
  rw [not_or] at hstays
  have hkept := h.kept key hstays.1 hstays.2
  exact ⟨hkept.symm.trans offer, hstays.1⟩

theorem trans {stall stall' stall'' : Stall κ ν} {first second : List (κ × ν)}
    (h : Unattended stall stall' first) (h' : Unattended stall' stall'' second) :
    Unattended stall stall'' (first ++ second) where
  sold deal hdeal := by
    rw [List.mem_append] at hdeal
    cases hdeal with
    | inl hfirst => exact h.sold deal hfirst
    | inr hsecond => exact (h.offered (h'.sold deal hsecond)).1
  once := by
    rw [List.map_append]
    refine h.once.append h'.once fun key hfirst hsecond => ?_
    obtain ⟨deal, hdeal, rfl⟩ := List.mem_map.mp hsecond
    exact (h.offered (h'.sold deal hdeal)).2 hfirst
  kept key hkey hheld := by
    rw [List.map_append, List.mem_append, not_or] at hkey
    have hfirst := h.kept key hkey.1 hheld
    rw [← hfirst] at hheld
    exact (h'.kept key hkey.2 hheld).trans hfirst
  brought key hkey := by
    rw [List.map_append, List.mem_append, or_assoc] at hkey
    by_cases hsecond : key ∈ second.map Prod.fst
    · exact h'.brought key (.inl hsecond)
    · have hfirst := h.brought key (by simpa [hsecond] using hkey)
      cases hfirst with
      | inl hnone => exact h'.brought key (.inr hnone)
      | inr hheld =>
          right
          rw [h'.kept key hsecond (by simp [hheld]), hheld]

end Unattended

/--
The rule for a run in which the owner of the stall does nothing.  `deals` reads
the sales of the owner off a log that only grows, `purse` is the owner's money.
-/
theorem unattended_run {σ ι ρ : Type} {step : ι → σ → ρ × σ}
    (stall : σ → Stall κ Nat) (deals : σ → List (κ × Nat)) (purse : σ → Nat)
    {keeps : σ → Prop} {idle : ι → Prop} {s : σ} (start : keeps s)
    (preserved : ∀ s input, keeps s → keeps (step input s).2)
    (unattended : ∀ s input, keeps s → idle input → ∃ new,
      Unattended (stall s) (stall (step input s).2) new ∧
        deals (step input s).2 = deals s ++ new ∧
        purse (step input s).2 = purse s + (new.map Prod.snd).sum)
    (inputs : List ι) (all : ∀ input ∈ inputs, idle input) :
    ∃ new, Unattended (stall s) (stall (run step s inputs)) new ∧
      deals (run step s inputs) = deals s ++ new ∧
      purse (run step s inputs) = purse s + (new.map Prod.snd).sum := by
  induction inputs generalizing s with
  | nil => exact ⟨[], .refl _, by simp, by simp⟩
  | cons input inputs ih =>
      obtain ⟨first, hfirst, hlog, hpurse⟩ :=
        unattended s input start (all input (by simp))
      obtain ⟨rest, hrest, hlog', hpurse'⟩ :=
        ih (preserved s input start) fun other hother =>
          all other (by simp [hother])
      refine ⟨first ++ rest, hfirst.trans hrest, ?_, ?_⟩
      · rw [run, hlog', hlog, List.append_assoc]
      · rw [run, hpurse', hpurse, List.map_append, List.sum_append]
        omega

end Stall

end SubstrateKitties.Foundation
