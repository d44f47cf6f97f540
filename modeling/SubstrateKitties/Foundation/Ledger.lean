import Mathlib.Algebra.BigOperators.Finprod

/-!
# Balances

A payment moves an amount from one account to another.  Whatever payments are
made, the money only moves within the finite set of accounts that take part, so
the total over all accounts stays the same.
-/

namespace SubstrateKitties.Foundation

section Ledger

variable {Account : Type}

/-- `amount` moves between the two accounts, and no other balance changes. -/
structure Moves (sender recipient : Account) (amount : Nat)
    (before after : Account → Nat) : Prop where
  sender_pays : after sender + amount = before sender
  recipient_receives : after recipient = before recipient + amount
  others : ∀ who, who ≠ sender → who ≠ recipient → after who = before who

def paid [DecidableEq Account] (sender recipient : Account) (amount : Nat)
    (balances : Account → Nat) : Account → Nat := fun who =>
  if who = sender then balances who - amount
  else if who = recipient then balances who + amount
  else balances who

theorem Moves.eq_paid [DecidableEq Account] {sender recipient : Account}
    {amount : Nat} {before after : Account → Nat}
    (h : Moves sender recipient amount before after) :
    after = paid sender recipient amount before := by
  funext who
  rw [paid]
  by_cases hsender : who = sender
  · have hpays := h.sender_pays
    rw [if_pos hsender, hsender]
    omega
  · by_cases hrecipient : who = recipient
    · rw [if_neg hsender, if_pos hrecipient, hrecipient, h.recipient_receives]
    · rw [if_neg hsender, if_neg hrecipient, h.others who hsender hrecipient]

/-- A finite set of accounts accounts for all that has changed. -/
def SameTotal (before after : Account → Nat) : Prop :=
  ∃ accounts : Finset Account,
    (∀ who, who ∉ accounts → after who = before who) ∧
      ∑ who ∈ accounts, after who = ∑ who ∈ accounts, before who

theorem sum_eq_of_subset {accounts more : Finset Account}
    {before after : Account → Nat} (hsub : accounts ⊆ more)
    (hsame : ∀ who, who ∉ accounts → after who = before who)
    (hsum : ∑ who ∈ accounts, after who = ∑ who ∈ accounts, before who) :
    ∑ who ∈ more, after who = ∑ who ∈ more, before who := by
  classical
  have hrest : ∑ who ∈ more \ accounts, after who =
      ∑ who ∈ more \ accounts, before who :=
    Finset.sum_congr rfl fun who hwho => hsame who (Finset.mem_sdiff.mp hwho).2
  have hafter := Finset.sum_sdiff (f := after) hsub
  have hbefore := Finset.sum_sdiff (f := before) hsub
  omega

namespace SameTotal

theorem refl (balances : Account → Nat) : SameTotal balances balances :=
  ⟨∅, fun _ _ => rfl, rfl⟩

theorem trans {first second third : Account → Nat}
    (h : SameTotal first second) (h' : SameTotal second third) :
    SameTotal first third := by
  classical
  obtain ⟨accounts, hsame, hsum⟩ := h
  obtain ⟨accounts', hsame', hsum'⟩ := h'
  have hleft : accounts ⊆ accounts ∪ accounts' := Finset.subset_union_left
  have hright : accounts' ⊆ accounts ∪ accounts' := Finset.subset_union_right
  refine ⟨accounts ∪ accounts', fun who hwho => ?_, ?_⟩
  · have hnot : who ∉ accounts := fun hmem => hwho (hleft hmem)
    have hnot' : who ∉ accounts' := fun hmem => hwho (hright hmem)
    rw [hsame' who hnot', hsame who hnot]
  · rw [sum_eq_of_subset hright hsame' hsum', sum_eq_of_subset hleft hsame hsum]

theorem of_moves {sender recipient : Account} {amount : Nat}
    {before after : Account → Nat} (hne : sender ≠ recipient)
    (h : Moves sender recipient amount before after) :
    SameTotal before after := by
  classical
  refine ⟨{sender, recipient}, fun who hwho => ?_, ?_⟩
  · simp only [Finset.mem_insert, Finset.mem_singleton, not_or] at hwho
    exact h.others who hwho.1 hwho.2
  · have hpays := h.sender_pays
    have hreceives := h.recipient_receives
    rw [Finset.sum_pair hne, Finset.sum_pair hne]
    omega

theorem support_finite {before after : Account → Nat}
    (h : SameTotal before after) (hfinite : before.support.Finite) :
    after.support.Finite := by
  obtain ⟨accounts, hsame, -⟩ := h
  refine (hfinite.union accounts.finite_toSet).subset fun who hwho => ?_
  by_cases hmem : who ∈ accounts
  · exact .inr hmem
  · left
    rw [Function.mem_support, ← hsame who hmem]
    exact hwho

theorem symm {before after : Account → Nat} (h : SameTotal before after) :
    SameTotal after before := by
  obtain ⟨accounts, hsame, hsum⟩ := h
  exact ⟨accounts, fun who hwho => (hsame who hwho).symm, hsum.symm⟩

/-- The total over all accounts, of which finitely many hold money. -/
theorem finsum_eq {before after : Account → Nat} (h : SameTotal before after) :
    ∑ᶠ who, after who = ∑ᶠ who, before who := by
  classical
  by_cases hfinite : before.support.Finite
  · have hfinite' := h.support_finite hfinite
    obtain ⟨accounts, hsame, hsum⟩ := h
    let holders := accounts ∪ (hfinite.toFinset ∪ hfinite'.toFinset)
    have hbefore : before.support ⊆ holders := by
      intro who hwho
      simp only [holders, Finset.coe_union, Set.Finite.coe_toFinset]
      exact .inr (.inl hwho)
    have hafter : after.support ⊆ holders := by
      intro who hwho
      simp only [holders, Finset.coe_union, Set.Finite.coe_toFinset]
      exact .inr (.inr hwho)
    rw [finsum_eq_sum_of_support_subset after hafter,
      finsum_eq_sum_of_support_subset before hbefore]
    exact sum_eq_of_subset Finset.subset_union_left hsame hsum
  · have hinfinite : ¬ after.support.Finite :=
      fun hafter => hfinite (h.symm.support_finite hafter)
    rw [finsum_of_infinite_support hfinite, finsum_of_infinite_support hinfinite]

end SameTotal

end Ledger

end SubstrateKitties.Foundation
