import Mathlib.Algebra.BigOperators.Group.Finset.Piecewise
import Mathlib.Data.Fintype.BigOperators
import Mathlib.Data.Set.Card
import SubstrateKitties.Foundation.GenePool

/-!
# Counting crossings

Over all selectors, each child that two genomes can have comes up equally
often: the selector is free where the parents agree, and fixed by the child
where they differ.
-/

namespace SubstrateKitties.Foundation

section Crossings

variable {ι : Type} [Fintype ι] [DecidableEq ι]

/-- The loci at which two genomes have the same bit. -/
def shared (mother father : Genome ι) : Finset ι :=
  Finset.univ.filter fun locus => mother locus = father locus

omit [Fintype ι] [DecidableEq ι] in
theorem cross_eq_iff {selector mother father child : Genome ι} :
    cross selector mother father = child ↔
      ∀ locus, (if selector locus then father locus else mother locus) =
        child locus :=
  funext_iff

/-- The bits a selector may have at a locus where this child is to arise. -/
def bitsFor (mother father child : Bool) : Finset Bool :=
  Finset.univ.filter fun bit => (if bit then father else mother) = child

theorem card_bitsFor {mother father child : Bool}
    (h : child = mother ∨ child = father) :
    (bitsFor mother father child).card = if mother = father then 2 else 1 := by
  cases mother <;> cases father <;> cases child <;> simp_all <;> decide

theorem selectors_eq (mother father child : Genome ι) :
    {selector | cross selector mother father = child} =
      (Fintype.piFinset fun locus =>
        bitsFor (mother locus) (father locus) (child locus) : Set (Genome ι)) := by
  ext selector
  simp [cross_eq_iff, bitsFor]

theorem card_selectors {mother father child : Genome ι}
    (h : ∀ locus, child locus = mother locus ∨ child locus = father locus) :
    {selector | cross selector mother father = child}.ncard =
      2 ^ (shared mother father).card := by
  rw [selectors_eq, Set.ncard_coe_finset, Fintype.card_piFinset]
  calc ∏ locus, (bitsFor (mother locus) (father locus) (child locus)).card
      = ∏ locus, if mother locus = father locus then 2 else 1 :=
        Finset.prod_congr rfl fun locus _ => card_bitsFor (h locus)
    _ = 2 ^ (shared mother father).card := by
        rw [Finset.prod_ite, Finset.prod_const, Finset.prod_const_one, mul_one]
        rfl

theorem card_children (mother father : Genome ι) :
    {child : Genome ι | ∀ locus, child locus = mother locus ∨
        child locus = father locus}.ncard =
      2 ^ (Fintype.card ι - (shared mother father).card) := by
  have hpi : {child : Genome ι | ∀ locus, child locus = mother locus ∨
      child locus = father locus} =
        (Fintype.piFinset fun locus =>
          {mother locus, father locus} : Set (Genome ι)) := by
    ext child
    simp
  have hpair : ∀ locus, ({mother locus, father locus} : Finset Bool).card =
      if mother locus = father locus then 1 else 2 := by
    intro locus
    cases mother locus <;> cases father locus <;> rfl
  rw [hpi, Set.ncard_coe_finset, Fintype.card_piFinset]
  calc ∏ locus, ({mother locus, father locus} : Finset Bool).card
      = ∏ locus, if mother locus = father locus then 1 else 2 :=
        Finset.prod_congr rfl fun locus _ => hpair locus
    _ = 2 ^ (shared mother father)ᶜ.card := by
        rw [Finset.prod_ite, Finset.prod_const_one, one_mul, Finset.prod_const,
          shared, Finset.compl_filter]
    _ = 2 ^ (Fintype.card ι - (shared mother father).card) := by
        rw [Finset.card_compl]

theorem card_with_bit (locus : ι) (bit : Bool) :
    {selector : Genome ι | selector locus = bit}.ncard =
      2 ^ (Fintype.card ι - 1) := by
  have hpi : {selector : Genome ι | selector locus = bit} =
      (Fintype.piFinset fun other =>
        if other = locus then {bit} else Finset.univ : Set (Genome ι)) := by
    ext selector
    simp only [Set.mem_ofPred_eq, Finset.mem_coe, Fintype.mem_piFinset]
    constructor
    · intro h other
      by_cases hother : other = locus
      · simp [hother, h]
      · simp [hother]
    · intro h
      simpa using h locus
  rw [hpi, Set.ncard_coe_finset, Fintype.card_piFinset]
  calc ∏ other, (if other = locus then {bit} else Finset.univ).card
      = ∏ other, if other = locus then 1 else 2 := by
        refine Finset.prod_congr rfl fun other _ => ?_
        by_cases hother : other = locus <;> simp [hother]
    _ = 2 ^ (Finset.univ.filter fun other => ¬ other = locus).card := by
        rw [Finset.prod_ite, Finset.prod_const_one, one_mul, Finset.prod_const]
    _ = 2 ^ (Fintype.card ι - 1) := by
        rw [Finset.filter_ne', Finset.card_erase_of_mem (Finset.mem_univ locus),
          Finset.card_univ]

end Crossings

end SubstrateKitties.Foundation
