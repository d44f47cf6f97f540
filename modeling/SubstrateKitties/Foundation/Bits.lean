import Mathlib.Order.Basic

/-!
# Choosing between words bit by bit

Under a mask every bit of a word is taken from one of two others.  The words
that arise in this way, over all masks, are those that agree everywhere with
one of the two.
-/

namespace SubstrateKitties.Foundation

section Select

variable {w : Nat}

/-- The bits of `b` where the mask is set, and those of `a` elsewhere. -/
def selectBits (mask a b : BitVec w) : BitVec w :=
  (~~~mask &&& a) ||| (mask &&& b)

@[simp] theorem getLsbD_selectBits (mask a b : BitVec w) (i : Nat) :
    (selectBits mask a b).getLsbD i =
      if mask.getLsbD i then b.getLsbD i else a.getLsbD i := by
  unfold selectBits
  simp only [BitVec.getLsbD_or, BitVec.getLsbD_and, BitVec.getLsbD_not]
  by_cases hi : i < w
  · cases mask.getLsbD i <;> simp only [hi, decide_true] <;> simp
  · simp [BitVec.getLsbD_of_ge _ _ (Nat.le_of_not_lt hi)]

theorem selectBits_xor {a b c : BitVec w}
    (h : ∀ i < w, c.getLsbD i = a.getLsbD i ∨ c.getLsbD i = b.getLsbD i) :
    selectBits (a ^^^ c) a b = c := by
  apply BitVec.eq_of_getLsbD_eq
  intro i hi
  rw [getLsbD_selectBits, BitVec.getLsbD_xor]
  cases h i hi with
  | inl hbit => simp only [hbit, Bool.xor_self, Bool.false_eq_true, if_false]
  | inr hbit =>
      rw [hbit]
      generalize a.getLsbD i = p
      generalize b.getLsbD i = q
      cases p <;> cases q <;> rfl

end Select

theorem even_iff_getLsbD_zero (x : UInt8) :
    x % 2 = 0 ↔ x.toBitVec.getLsbD 0 = false := by
  have hbit : x.toBitVec.getLsbD 0 = decide (x.toNat % 2 = 1) := by
    simp [BitVec.getLsbD, Nat.testBit_zero]
  rw [hbit, ← UInt8.toNat_inj, UInt8.toNat_mod]
  simp

/-! ## Arrays filled by a loop -/

section Fill

variable {α : Type} {n : Nat}

theorem getElem_foldl_set (f : Fin n → α) {indices : List (Fin n)}
    (v : Vector α n) {j : Fin n} (h : j ∈ indices ∨ v[j] = f j) :
    (indices.foldl (fun v (i : Fin n) => v.set i (f i)) v)[j] = f j := by
  induction indices generalizing v with
  | nil => simpa using h
  | cons i indices ih =>
      rw [List.foldl_cons]
      apply ih
      by_cases hij : j = i
      · subst hij
        simp
      · have hval : i.val ≠ j.val := fun heq => hij (Fin.ext heq.symm)
        simpa [hij, hval] using h

theorem getElem_fill (f : Fin n → α) (v : Vector α n) (j : Fin n) :
    ((List.finRange n).foldl (fun v (i : Fin n) => v.set i (f i)) v)[j] =
      f j :=
  getElem_foldl_set f v (.inl (List.mem_finRange j))

end Fill

end SubstrateKitties.Foundation
