import Mathlib.Order.Basic

/-!
# Traits that come from two parents

Every member of a population is a founder or has two older members as parents,
and each of its traits is that of one of them.  Then every trait of every member
goes back to a founder, however long the line in between is.
-/

namespace SubstrateKitties.Foundation

section Pedigree

variable {ι τ β : Type} {rank : ι → Nat} {Member Founder : ι → Prop}
  {trait : ι → τ → β}

/-- The trait is passed on by a parent of smaller rank. -/
structure Pedigree (rank : ι → Nat) (Member Founder : ι → Prop)
    (trait : ι → τ → β) : Prop where
  parents : ∀ i, Member i → Founder i ∨ ∃ j k, (Member j ∧ rank j < rank i) ∧
    (Member k ∧ rank k < rank i) ∧
    ∀ t, trait i t = trait j t ∨ trait i t = trait k t

namespace Pedigree

theorem exists_parent (h : Pedigree rank Member Founder trait) {i : ι}
    (hi : Member i) (hfounder : ¬ Founder i) (t : τ) :
    ∃ j, Member j ∧ rank j < rank i ∧ trait j t = trait i t := by
  cases h.parents i hi with
  | inl hfound => exact absurd hfound hfounder
  | inr hparents =>
      obtain ⟨j, k, ⟨hj, hjlt⟩, ⟨hk, hklt⟩, htraits⟩ := hparents
      cases htraits t with
      | inl heq => exact ⟨j, hj, hjlt, heq.symm⟩
      | inr heq => exact ⟨k, hk, hklt, heq.symm⟩

theorem exists_founder (h : Pedigree rank Member Founder trait) {i : ι}
    (hi : Member i) (t : τ) :
    ∃ j, Member j ∧ Founder j ∧ rank j ≤ rank i ∧ trait j t = trait i t := by
  induction hrank : rank i using Nat.strongRecOn generalizing i with
  | ind n ih =>
      subst hrank
      by_cases hfounder : Founder i
      · exact ⟨i, hi, hfounder, Nat.le_refl _, rfl⟩
      · obtain ⟨j, hj, hlt, htrait⟩ := h.exists_parent hi hfounder t
        obtain ⟨f, hf, hfound, hle, heq⟩ := ih (rank j) hlt hj rfl
        exact ⟨f, hf, hfound, by omega, heq.trans htrait⟩

theorem shared (h : Pedigree rank Member Founder trait) {t : τ} {b : β}
    (founders : ∀ i, Member i → Founder i → trait i t = b) {i : ι}
    (hi : Member i) : trait i t = b := by
  obtain ⟨j, hj, hfounder, -, heq⟩ := h.exists_founder hi t
  rw [← heq]
  exact founders j hj hfounder

end Pedigree

end Pedigree

end SubstrateKitties.Foundation
