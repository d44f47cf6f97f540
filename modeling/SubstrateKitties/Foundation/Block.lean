import Mathlib.Data.List.Perm.Basic
import SubstrateKitties.Foundation.Footprint
import SubstrateKitties.Foundation.Refinement

/-!
# Blocks of independent calls

Calls none of which writes what another one reads or writes can be run one
after the other in any order.  Each of them ends as if it ran alone, every cell
is left as the one call that writes it leaves it, and the entries in the log
are those that the calls make alone.
-/

namespace SubstrateKitties.Foundation

/-- A call together with the cells it writes and reads. -/
structure Footed {σ Loc ω : Type} {Val : Loc → Type} (C : Cells σ Loc ω Val)
    (ε α : Type) where
  call : Dispatch σ ε α
  writes : Set Loc
  reads : Set Loc
  within : C.Within writes reads call

namespace Footed

variable {σ ε α Loc ω : Type} {Val : Loc → Type} {C : Cells σ Loc ω Val}

def exec (f : Footed C ε α) (s : σ) : Except ε α × σ := f.call s

def Apart (f g : Footed C ε α) : Prop :=
  Disjoint f.writes (g.writes ∪ g.reads) ∧ Disjoint g.writes (f.writes ∪ f.reads)

def entries (s : σ) (f : Footed C ε α) : List ω :=
  (C.log (f.exec s).2).drop (C.log s).length

theorem Apart.symm {f g : Footed C ε α} (h : f.Apart g) : g.Apart f :=
  ⟨h.2, h.1⟩

theorem log_exec (f : Footed C ε α) (s : σ) :
    C.log (f.exec s).2 = C.log s ++ f.entries s := by
  obtain ⟨added, hlog, -⟩ := (f.within.depends s s fun _ _ => rfl).entries
  change C.log (f.exec s).2 = _ at hlog
  rw [entries, hlog, List.drop_left]

theorem Apart.undisturbed {f g : Footed C ε α} (h : f.Apart g) (s : σ) :
    C.SameWork g.writes (f.exec s).2 s (g.exec (f.exec s).2) (g.exec s) :=
  f.within.undisturbed g.within h.1 s

theorem Apart.entries_eq {f g : Footed C ε α} (h : f.Apart g) (s : σ) :
    g.entries (f.exec s).2 = g.entries s := by
  obtain ⟨added, hlog, hlog'⟩ := (h.undisturbed s).entries
  rw [Footed.entries, Footed.entries, hlog, hlog', List.drop_left,
    List.drop_left]

/-! ## What a block leaves -/

/-- The block has ended as its calls end when each of them runs alone. -/
structure AsAlone (s : σ) (block : List (Footed C ε α)) : Prop where
  results : outcomes exec s block = block.map fun f => (f.exec s).1
  written : ∀ f ∈ block, C.Agree f.writes (run exec s block) (f.exec s).2
  unwritten : ∀ l, (∀ f ∈ block, l ∉ f.writes) →
    C.read (run exec s block) l = C.read s l
  log : C.log (run exec s block) = C.log s ++ block.flatMap (entries s)

theorem asAlone {block : List (Footed C ε α)} (apart : block.Pairwise Apart)
    (s : σ) : AsAlone s block := by
  induction block generalizing s with
  | nil => exact ⟨rfl, by simp, fun _ _ => rfl, by simp⟩
  | cons f block ih =>
      obtain ⟨hapart, hrest⟩ := List.pairwise_cons.mp apart
      have hih := ih hrest (f.exec s).2
      constructor
      · have hresults := hih.results
        have hsame : block.map (fun g => (g.exec (f.exec s).2).1) =
            block.map fun g => (g.exec s).1 := by
          apply List.map_congr_left
          intro g hg
          exact ((hapart g hg).undisturbed s).result
        rw [hsame] at hresults
        simp only [outcomes, trace, List.map_cons, transition] at hresults ⊢
        rw [hresults]
      · intro g hg l hl
        rcases List.mem_cons.mp hg with rfl | hg
        · -- nobody after the first call writes its cells
          refine hih.unwritten l fun h hh hwrite => ?_
          exact Set.disjoint_left.mp (hapart h hh).1 hl (.inl hwrite)
        · rw [show run exec s (f :: block) = run exec (f.exec s).2 block from rfl,
            hih.written g hg l hl]
          exact ((hapart g hg).undisturbed s).writes l hl
      · intro l hl
        have hfirst : l ∉ f.writes := hl f List.mem_cons_self
        have hlater := hih.unwritten l fun g hg => hl g (.tail _ hg)
        exact hlater.trans (f.within.frame s l hfirst)
      · have hsame : block.flatMap (entries (f.exec s).2) =
            block.flatMap (entries s) := by
          apply List.flatMap_congr
          intro g hg
          exact (hapart g hg).entries_eq s
        have hlog := hih.log
        rw [hsame, log_exec, List.append_assoc] at hlog
        exact hlog

/-- Any order of the calls leaves the same cells, and the same log up to order. -/
theorem order_irrelevant {block block' : List (Footed C ε α)}
    (apart : block.Pairwise Apart) (perm : block.Perm block') (s : σ) :
    (∀ l, C.read (run exec s block') l = C.read (run exec s block) l) ∧
      (C.log (run exec s block')).Perm (C.log (run exec s block)) := by
  have halone := asAlone apart s
  have hapart' : block'.Pairwise Apart :=
    (perm.pairwise_iff Apart.symm).mp apart
  have halone' := asAlone hapart' s
  constructor
  · intro l
    by_cases hwritten : ∃ f ∈ block, l ∈ f.writes
    · obtain ⟨f, hf, hl⟩ := hwritten
      rw [halone.written f hf l hl, halone'.written f (perm.mem_iff.mp hf) l hl]
    · have hnone : ∀ f ∈ block, l ∉ f.writes := fun f hf hl =>
        hwritten ⟨f, hf, hl⟩
      rw [halone.unwritten l hnone,
        halone'.unwritten l fun f hf => hnone f (perm.mem_iff.mpr hf)]
  · rw [halone.log, halone'.log]
    exact (perm.symm.flatMap_right (entries s)).append_left (C.log s)

end Footed

end SubstrateKitties.Foundation
