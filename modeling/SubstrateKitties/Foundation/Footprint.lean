import Mathlib.Data.Set.BooleanAlgebra
import Mathlib.Data.Set.Disjoint
import Mathlib.Order.CompletePartialOrder
import SubstrateKitties.Foundation.Dispatch

/-!
# Footprints

A store is read cell by cell, and beside the cells it keeps a log to which
calls append.  A call works within a footprint if it writes only the cells of
one set, and if these and the cells of another set decide about its result, its
writes and its entries in the log.  Two calls none of which writes what the
other one reads or writes can be made in either order.
-/

namespace SubstrateKitties.Foundation

structure Cells (σ Loc ω : Type) (Val : Loc → Type) where
  read : σ → (l : Loc) → Val l
  log : σ → List ω

namespace Cells

open Dispatch

variable {σ ε α β Loc ω : Type} {Val : Loc → Type} (C : Cells σ Loc ω Val)

def Agree (L : Set Loc) (s s' : σ) : Prop := ∀ l ∈ L, C.read s l = C.read s' l

def SameEntries (s t s' t' : σ) : Prop :=
  ∃ entries, C.log t = C.log s ++ entries ∧ C.log t' = C.log s' ++ entries

/-- Two runs give the same result, the same writes and the same entries. -/
structure SameWork (W : Set Loc) (s s' : σ) (x x' : Except ε α × σ) : Prop where
  result : x.1 = x'.1
  writes : C.Agree W x.2 x'.2
  entries : C.SameEntries s x.2 s' x'.2

structure Within (W R : Set Loc) (m : Dispatch σ ε α) : Prop where
  frame : ∀ s l, l ∉ W → C.read (m s).2 l = C.read s l
  depends : ∀ s s', C.Agree (W ∪ R) s s' → C.SameWork W s s' (m s) (m s')

variable {C} {W R : Set Loc}

theorem Agree.mono {L L' : Set Loc} {s s' : σ} (h : C.Agree L s s')
    (hsub : L' ⊆ L) : C.Agree L' s s' := fun l hl => h l (hsub hl)

theorem SameEntries.refl (s s' : σ) : C.SameEntries s s s' s' :=
  ⟨[], by simp, by simp⟩

theorem SameEntries.trans {s t u s' t' u' : σ} (h : C.SameEntries s t s' t')
    (h' : C.SameEntries t u t' u') : C.SameEntries s u s' u' := by
  obtain ⟨entries, hs, hs'⟩ := h
  obtain ⟨entries', ht, ht'⟩ := h'
  exact ⟨entries ++ entries', by simp [ht, hs], by simp [ht', hs']⟩

namespace Within

theorem agree {m : Dispatch σ ε α} (hm : C.Within W R m) {s s' : σ}
    (h : C.Agree (W ∪ R) s s') : C.Agree (W ∪ R) (m s).2 (m s').2 := by
  intro l hl
  by_cases hwrite : l ∈ W
  · exact (hm.depends s s' h).writes l hwrite
  · rw [hm.frame s l hwrite, hm.frame s' l hwrite]
    exact h l hl

/-! ### Rules -/

theorem silent {m : Dispatch σ ε α} (hm : Silent m)
    (result : ∀ s s', C.Agree (W ∪ R) s s' → (m s).1 = (m s').1) :
    C.Within W R m := by
  constructor
  · intro s l _
    rw [hm s]
  · intro s s' h
    refine ⟨result s s' h, ?_, ?_⟩
    · rw [hm s, hm s']
      exact h.mono Set.subset_union_left
    · rw [hm s, hm s']
      exact .refl s s'

theorem pure (a : α) : C.Within W R (pure a : Dispatch σ ε α) :=
  silent (Silent.pure a) fun _ _ _ => rfl

theorem fail (e : ε) : C.Within W R (fail e : Dispatch σ ε α) :=
  silent (Silent.fail e) fun _ _ _ => rfl

theorem query {f : σ → α} (h : ∀ s s', C.Agree (W ∪ R) s s' → f s = f s') :
    C.Within W R (query f : Dispatch σ ε α) :=
  silent (Silent.query f) fun s s' hs => congrArg Except.ok (h s s' hs)

theorem ensure (p : Prop) [Decidable p] (e : ε) :
    C.Within W R (ensure p e : Dispatch σ ε Unit) := by
  unfold Dispatch.ensure
  split
  · exact pure ()
  · exact fail e

theorem okOr (value : Option α) (e : ε) :
    C.Within W R (okOr value e : Dispatch σ ε α) := by
  cases value with
  | none => exact fail e
  | some a => exact pure a

theorem write {f : σ → σ}
    (frame : ∀ s l, l ∉ W → C.read (f s) l = C.read s l)
    (writes : ∀ s s', C.Agree (W ∪ R) s s' → C.Agree W (f s) (f s'))
    (log : ∀ s, C.log (f s) = C.log s) :
    C.Within W R (write f : Dispatch σ ε Unit) := by
  constructor
  · exact frame
  · intro s s' h
    refine ⟨rfl, writes s s' h, [], ?_, ?_⟩
    · simp [Dispatch.write, log]
    · simp [Dispatch.write, log]

theorem append {f : σ → σ} {entry : ω}
    (cells : ∀ s l, C.read (f s) l = C.read s l)
    (log : ∀ s, C.log (f s) = C.log s ++ [entry]) :
    C.Within W R (Dispatch.write f : Dispatch σ ε Unit) := by
  constructor
  · intro s l _
    exact cells s l
  · intro s s' h
    refine ⟨rfl, fun l hl => ?_, [entry], log s, log s'⟩
    change C.read (f s) l = C.read (f s') l
    rw [cells, cells]
    exact h l (.inl hl)

theorem bind {m : Dispatch σ ε α} {f : α → Dispatch σ ε β}
    (hm : C.Within W R m) (hf : ∀ a, C.Within W R (f a)) :
    C.Within W R (m >>= f) := by
  constructor
  · intro s l hl
    have hframe := hm.frame s l hl
    rcases h : m s with ⟨e | a, t⟩
    · rw [bind_of_error h]
      simpa only [h] using hframe
    · rw [bind_of_ok h, (hf a).frame t l hl]
      simpa only [h] using hframe
  · intro s s' hs
    have hwork := hm.depends s s' hs
    have hagree := hm.agree hs
    rcases h : m s with ⟨e | a, t⟩ <;> rcases h' : m s' with ⟨e' | a', t'⟩ <;>
      rw [h, h'] at hwork hagree <;> cases hwork.result
    · rw [bind_of_error h, bind_of_error h']
      exact ⟨rfl, hwork.writes, hwork.entries⟩
    · rw [bind_of_ok h, bind_of_ok h']
      have hrest := (hf a).depends t t' hagree
      exact ⟨hrest.result, hrest.writes, hwork.entries.trans hrest.entries⟩

theorem transactional {m : Dispatch σ ε α} (hm : C.Within W R m) :
    C.Within W R (transactional m) := by
  constructor
  · intro s l hl
    have hframe := hm.frame s l hl
    rcases h : m s with ⟨e | a, t⟩
    · simp [Dispatch.transactional, h]
    · simpa [Dispatch.transactional, h] using hframe
  · intro s s' hs
    have hwork := hm.depends s s' hs
    rcases h : m s with ⟨e | a, t⟩ <;> rcases h' : m s' with ⟨e' | a', t'⟩ <;>
      rw [h, h'] at hwork <;> cases hwork.result
    · simp only [Dispatch.transactional, h, h']
      exact ⟨rfl, hs.mono Set.subset_union_left, .refl s s'⟩
    · simp only [Dispatch.transactional, h, h']
      exact ⟨rfl, hwork.writes, hwork.entries⟩

theorem tryMutateExists {ν : Type} {get : σ → Option ν}
    {set : Option ν → σ → σ} {f : Option ν → Dispatch σ ε (α × Option ν)}
    (hget : ∀ s s', C.Agree (W ∪ R) s s' → get s = get s')
    (hset : ∀ value, C.Within W R (Dispatch.write (set value) : Dispatch σ ε Unit))
    (hf : ∀ value, C.Within W R (f value)) :
    C.Within W R (tryMutateExists get set f) := by
  refine (query hget).bind fun value => (hf value).bind fun result => ?_
  exact (hset result.2).bind fun _ => pure result.1

end Within

/-! ## Independent calls -/

theorem Within.undisturbed {W' R' : Set Loc} {m : Dispatch σ ε α}
    {n : Dispatch σ ε β} (hm : C.Within W R m) (hn : C.Within W' R' n)
    (h : Disjoint W (W' ∪ R')) (s : σ) :
    C.SameWork W' (m s).2 s (n (m s).2) (n s) := by
  apply hn.depends
  intro l hl
  exact hm.frame s l fun hwrite => Set.disjoint_left.mp h hwrite hl

theorem Within.commute {W' R' : Set Loc} {m : Dispatch σ ε α}
    {n : Dispatch σ ε β} (hm : C.Within W R m) (hn : C.Within W' R' n)
    (h : Disjoint W (W' ∪ R')) (h' : Disjoint W' (W ∪ R)) (s : σ) :
    (n (m s).2).1 = (n s).1 ∧ (m (n s).2).1 = (m s).1 ∧
      (∀ l, C.read (n (m s).2).2 l = C.read (m (n s).2).2 l) ∧
      (C.log (n (m s).2).2).Perm (C.log (m (n s).2).2) := by
  have hsecond := hm.undisturbed hn h s
  have hfirst := hn.undisturbed hm h' s
  refine ⟨hsecond.result, hfirst.result, fun l => ?_, ?_⟩
  · by_cases hl : l ∈ W
    · have hl' : l ∉ W' := fun hw => Set.disjoint_left.mp h hl (.inl hw)
      rw [hn.frame _ l hl']
      exact (hfirst.writes l hl).symm
    · rw [hm.frame _ l hl]
      by_cases hl' : l ∈ W'
      · exact hsecond.writes l hl'
      · rw [hn.frame _ l hl', hm.frame s l hl, hn.frame s l hl']
  · obtain ⟨entries, hlog, hlog'⟩ := hsecond.entries
    obtain ⟨entries', hlog₁, hlog₁'⟩ := hfirst.entries
    rw [hlog, hlog₁', hlog₁, hlog', List.append_assoc, List.append_assoc]
    exact List.perm_append_comm.append_left (C.log s)

end Cells

end SubstrateKitties.Foundation
