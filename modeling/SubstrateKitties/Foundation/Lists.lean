import Mathlib.Data.List.Forall2
import Mathlib.Data.List.Nodup
import Mathlib.Logic.Function.Basic

/-!
# Lists

Entries of a list that has grown by one, lists that differ only in what a
function forgets, and functions with given values at the entries of a list.
-/

namespace SubstrateKitties.Foundation

section Lists

variable {α β : Type}

theorem getElem?_concat (l : List α) (a : α) (i : Nat) :
    (l ++ [a])[i]? = if i = l.length then some a else l[i]? := by
  by_cases h : i = l.length
  · rw [if_pos h, h, List.getElem?_concat_length]
  · rw [if_neg h]
    rcases Nat.lt_or_gt_of_ne h with hlt | hgt
    · rw [List.getElem?_append_left hlt]
    · rw [List.getElem?_eq_none (by simp; omega),
        List.getElem?_eq_none (by omega)]

theorem map_modify_congr {f : α → β} {g : α → α}
    (hg : ∀ a b, f a = f b → f (g a) = f (g b)) (l l' : List α)
    (h : l.map f = l'.map f) (i : Nat) :
    (l.modify i g).map f = (l'.modify i g).map f := by
  induction l generalizing l' i with
  | nil =>
      cases l' with
      | nil => rfl
      | cons b l' => cases h
  | cons a l ih =>
      cases l' with
      | nil => cases h
      | cons b l' =>
          simp only [List.map_cons, List.cons.injEq] at h
          cases i with
          | zero => simp [hg a b h.1, h.2]
          | succ i => simp [h.1, ih l' h.2 i]

/-- Questions that are asked once can be answered at will. -/
theorem exists_answering [Inhabited β] {questions : List α}
    (once : questions.Nodup) {answers : List β}
    (length : answers.length = questions.length) :
    ∃ f : α → β, List.Forall₂ (fun answer question => f question = answer)
      answers questions := by
  have hinjective : Function.Injective questions.get :=
    List.nodup_iff_injective_get.mp once
  refine ⟨Function.extend questions.get
    (fun i => answers.get (i.cast length.symm)) fun _ => default, ?_⟩
  refine List.forall₂_iff_get.mpr ⟨length, fun i hi hi' => ?_⟩
  exact hinjective.extend_apply _ _ ⟨i, hi'⟩

end Lists

end SubstrateKitties.Foundation
