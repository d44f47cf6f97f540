import Mathlib.Data.Set.Insert
import Mathlib.Logic.Function.Basic

/-!
# Gene pools

A genome has one bit at each locus, one of which is the sex.  Two genomes of
different sex can have any child that agrees at every locus with one of them.
Births enlarge a pool; one couple is enough to bring together whatever bits the
pool has, two births for a locus.
-/

namespace SubstrateKitties.Foundation

abbrev Genome (ι : Type) := ι → Bool

/-- The bits of the father where the selector is set, else the mother's. -/
def cross {ι : Type} (selector mother father : Genome ι) : Genome ι :=
  fun locus => if selector locus then father locus else mother locus

structure Birth (ι : Type) where
  mother : Genome ι
  father : Genome ι
  selector : Genome ι

section GenePool

variable {ι : Type}

def Birth.child (b : Birth ι) : Genome ι := cross b.selector b.mother b.father

def grown (pool : Set (Genome ι)) : List (Birth ι) → Set (Genome ι)
  | [] => pool
  | b :: plan => grown (insert b.child pool) plan

/-- The parents of each birth are a couple that is there by then. -/
def Feasible (sex : ι) (pool : Set (Genome ι)) : List (Birth ι) → Prop
  | [] => True
  | b :: plan => b.mother ∈ pool ∧ b.father ∈ pool ∧
      b.mother sex ≠ b.father sex ∧ Feasible sex (insert b.child pool) plan

theorem grown_append (pool : Set (Genome ι)) (first second : List (Birth ι)) :
    grown pool (first ++ second) = grown (grown pool first) second := by
  induction first generalizing pool with
  | nil => rfl
  | cons b first ih => exact ih _

theorem feasible_append {sex : ι} {pool : Set (Genome ι)}
    {first second : List (Birth ι)} (h : Feasible sex pool first)
    (h' : Feasible sex (grown pool first) second) :
    Feasible sex pool (first ++ second) := by
  induction first generalizing pool with
  | nil => exact h'
  | cons b first ih => exact ⟨h.1, h.2.1, h.2.2.1, ih h.2.2.2 h'⟩

theorem subset_grown (pool : Set (Genome ι)) (plan : List (Birth ι)) :
    pool ⊆ grown pool plan := by
  induction plan generalizing pool with
  | nil => exact fun _ h => h
  | cons b plan ih => exact fun g h => ih _ (.inr h)

/-! ## Taking over one bit -/

section Splice

variable [DecidableEq ι]

/-- The child that has one bit from `donor` and the others from `base`. -/
def splice (base donor : Genome ι) (locus : ι) : Birth ι where
  mother := base
  father := donor
  selector := fun other => decide (other = locus)

theorem child_splice_self (base donor : Genome ι) (locus : ι) :
    (splice base donor locus).child locus = donor locus := by
  simp [Birth.child, cross, splice]

theorem child_splice_of_ne (base donor : Genome ι) {locus other : ι}
    (h : other ≠ locus) : (splice base donor locus).child other = base other := by
  simp [Birth.child, cross, splice, h]

/-- A donor of the same sex first passes the bit on to its own child. -/
theorem exists_donor {sex locus : ι} (hlocus : locus ≠ sex)
    {pool : Set (Genome ι)} {base partner donor : Genome ι}
    (hpartner : partner ∈ pool) (hdonor : donor ∈ pool)
    (couple : base sex ≠ partner sex) :
    ∃ plan : List (Birth ι), plan.length ≤ 1 ∧ Feasible sex pool plan ∧
      ∃ g ∈ grown pool plan, g locus = donor locus ∧ base sex ≠ g sex := by
  by_cases hsex : base sex = donor sex
  · have hne : partner sex ≠ donor sex := fun h => couple (hsex.trans h.symm)
    refine ⟨[splice partner donor locus], Nat.le_refl 1,
      ⟨hpartner, hdonor, hne, trivial⟩, (splice partner donor locus).child,
      .inl rfl, child_splice_self partner donor locus, ?_⟩
    rw [child_splice_of_ne partner donor hlocus.symm]
    exact couple
  · exact ⟨[], Nat.zero_le 1, trivial, donor, hdonor, rfl, hsex⟩

theorem exists_splice {sex locus : ι} (hlocus : locus ≠ sex)
    {pool : Set (Genome ι)} {base partner donor : Genome ι} (hbase : base ∈ pool)
    (hpartner : partner ∈ pool) (hdonor : donor ∈ pool)
    (couple : base sex ≠ partner sex) :
    ∃ plan : List (Birth ι), plan.length ≤ 2 ∧ Feasible sex pool plan ∧
      ∃ g ∈ grown pool plan, g locus = donor locus ∧
        ∀ other, other ≠ locus → g other = base other := by
  obtain ⟨plan, hlength, hfeasible, giver, hgiver, hbit, hsex⟩ :=
    exists_donor hlocus hpartner hdonor couple
  refine ⟨plan ++ [splice base giver locus], ?_, ?_,
    (splice base giver locus).child, ?_, ?_, ?_⟩
  · rw [List.length_append, List.length_singleton]
    omega
  · exact feasible_append hfeasible
      ⟨subset_grown pool plan hbase, hgiver, hsex, trivial⟩
  · rw [grown_append]
    exact .inl rfl
  · exact (child_splice_self base giver locus).trans hbit
  · exact fun other hother => child_splice_of_ne base giver hother

end Splice

/-! ## Reaching a genome -/

variable [DecidableEq ι] {sex : ι} {pool : Set (Genome ι)}
  {mother father : Genome ι} (hmother : mother ∈ pool) (hfather : father ∈ pool)
  (couple : mother sex ≠ father sex) {target : Genome ι}
  (genes : ∀ locus, ∃ g ∈ pool, g locus = target locus)

include hmother hfather couple

omit [DecidableEq ι] in
theorem exists_of_sex (bit : Bool) : ∃ g ∈ pool, g sex = bit := by
  by_cases h : mother sex = bit
  · exact ⟨mother, hmother, h⟩
  · refine ⟨father, hfather, ?_⟩
    cases hm : mother sex <;> cases hf : father sex <;> cases bit <;> simp_all

include genes

/-- Locus by locus, keeping the sex of the target and what has been reached. -/
theorem exists_plan_at (loci : List ι) :
    ∃ plan : List (Birth ι), plan.length ≤ 2 * loci.length ∧
      Feasible sex pool plan ∧ ∃ g ∈ grown pool plan, g sex = target sex ∧
        ∀ locus ∈ loci, g locus = target locus := by
  induction loci with
  | nil =>
      obtain ⟨g, hg, hsex⟩ :=
        exists_of_sex hmother hfather couple (target sex)
      exact ⟨[], Nat.zero_le _, trivial, g, hg, hsex, by simp⟩
  | cons locus loci ih =>
      obtain ⟨plan, hlength, hfeasible, base, hbase, hsex, hloci⟩ := ih
      by_cases hlocus : locus = sex
      · refine ⟨plan, ?_, hfeasible, base, hbase, hsex, ?_⟩
        · rw [List.length_cons]
          omega
        · rw [List.forall_mem_cons]
          exact ⟨by rw [hlocus, hsex], hloci⟩
      · obtain ⟨partner, hpartner, hopposite⟩ :=
          exists_of_sex hmother hfather couple (!target sex)
        obtain ⟨donor, hdonor, hbit⟩ := genes locus
        have hcouple : base sex ≠ partner sex := by
          rw [hsex, hopposite]
          simp
        have hsub := subset_grown pool plan
        obtain ⟨more, hmore, hfeasible', g, hg, hgbit, hothers⟩ :=
          exists_splice hlocus hbase (hsub hpartner) (hsub hdonor) hcouple
        refine ⟨plan ++ more, ?_, feasible_append hfeasible hfeasible', g, ?_,
          ?_, ?_⟩
        · rw [List.length_append, List.length_cons]
          omega
        · rw [grown_append]
          exact hg
        · rw [hothers sex (Ne.symm hlocus), hsex]
        · intro other hother
          by_cases heq : other = locus
          · rw [heq, hgbit, hbit]
          · rw [hothers other heq]
            exact hloci other ((List.mem_cons.mp hother).resolve_left heq)

theorem exists_plan {loci : List ι} (all : ∀ locus, locus ≠ sex → locus ∈ loci) :
    ∃ plan : List (Birth ι), plan.length ≤ 2 * loci.length ∧
      Feasible sex pool plan ∧ target ∈ grown pool plan := by
  obtain ⟨plan, hlength, hfeasible, g, hg, hsex, hloci⟩ :=
    exists_plan_at hmother hfather couple genes loci
  have htarget : g = target := by
    funext locus
    by_cases h : locus = sex
    · rw [h, hsex]
    · exact hloci locus (all locus h)
  exact ⟨plan, hlength, hfeasible, htarget ▸ hg⟩

end GenePool

end SubstrateKitties.Foundation
