import Mathlib.Data.Nat.Bitwise
import SubstrateKitties.Foundation.Crossings
import SubstrateKitties.Pallet.Genetics

/-!
# DNA as a genome

A DNA of 16 bytes is a genome of 128 loci with the gender at locus 0, and the
loop of `do_breed` crosses two genomes.  So every child of a couple is equally
likely when the selector is, and half of all children are female.
-/

namespace SubstrateKitties.Pallet

open SubstrateKitties.Foundation

def dnaOf (bits : Genome (Fin 128)) : Vector UInt8 16 :=
  .ofFn fun i => .ofBitVec (.ofNat 8 (Nat.ofBits fun b => bits (bitOf i b)))

theorem bitOf_byteOf (position : Fin 128) (h : position.val % 8 < 8) :
    bitOf (byteOf position) ⟨position.val % 8, h⟩ = position := by
  apply Fin.ext
  simp only [bitOf, byteOf]
  omega

@[simp] theorem dnaBit_dnaOf (bits : Genome (Fin 128)) :
    dnaBit (dnaOf bits) = bits := by
  funext position
  have hbit : position.val % 8 < 8 := Nat.mod_lt _ (by omega)
  simp only [dnaBit, dnaOf, Fin.getElem_fin, Vector.getElem_ofFn,
    UInt8.toBitVec_ofBitVec, BitVec.getLsbD_ofNat, hbit, decide_true,
    Bool.true_and, Nat.testBit_ofBits_lt _ _ hbit]
  exact congrArg bits (bitOf_byteOf position hbit)

@[simps]
def dnaEquiv : Vector UInt8 16 ≃ Genome (Fin 128) where
  toFun := dnaBit
  invFun := dnaOf
  left_inv dna := dna_ext fun position => by rw [dnaBit_dnaOf]
  right_inv := dnaBit_dnaOf

theorem dnaBit_newDna_eq_cross (dna1 dna2 selector : Vector UInt8 16) :
    dnaBit (newDna dna1 dna2 selector) =
      cross (dnaBit selector) (dnaBit dna1) (dnaBit dna2) :=
  funext (dnaBit_newDna dna1 dna2 selector)

/-! ## How often a child comes up -/

def sharedBits (dna1 dna2 : Vector UInt8 16) : Nat :=
  (shared (dnaBit dna1) (dnaBit dna2)).card

theorem ncard_dnaBit (P : Genome (Fin 128) → Prop) :
    {dna | P (dnaBit dna)}.ncard = {bits | P bits}.ncard :=
  Set.ncard_preimage_of_injective_subset_range dnaEquiv.injective fun bits _ =>
    dnaEquiv.surjective bits

theorem ncard_selectors {dna1 dna2 child : Vector UInt8 16}
    (h : Mixture dna1 dna2 child) :
    {selector | newDna dna1 dna2 selector = child}.ncard =
      2 ^ sharedBits dna1 dna2 := by
  have hbits : ∀ selector, newDna dna1 dna2 selector = child ↔
      cross (dnaBit selector) (dnaBit dna1) (dnaBit dna2) = dnaBit child := by
    intro selector
    rw [← dnaBit_newDna_eq_cross]
    exact dnaEquiv.injective.eq_iff.symm
  simp only [hbits]
  rw [ncard_dnaBit fun bits => cross bits (dnaBit dna1) (dnaBit dna2) = dnaBit child]
  exact card_selectors h

theorem ncard_mixtures (dna1 dna2 : Vector UInt8 16) :
    {child | Mixture dna1 dna2 child}.ncard =
      2 ^ (128 - sharedBits dna1 dna2) := by
  unfold Mixture
  rw [ncard_dnaBit fun bits => ∀ position, bits position =
    dnaBit dna1 position ∨ bits position = dnaBit dna2 position]
  simpa [sharedBits] using card_children (dnaBit dna1) (dnaBit dna2)

theorem gender_eq_iff (dna : Vector UInt8 16) (gender : KittyGender) :
    (Kitty.mk dna).gender = gender ↔ dnaBit dna 0 = decide (gender = .female) := by
  rw [gender_eq]
  cases dnaBit dna 0 <;> cases gender <;> decide

theorem ncard_genders {dna1 dna2 : Vector UInt8 16}
    (h : (Kitty.mk dna1).gender ≠ (Kitty.mk dna2).gender)
    (gender : KittyGender) :
    {selector | (Kitty.mk (newDna dna1 dna2 selector)).gender = gender}.ncard =
      2 ^ 127 := by
  have hbits : dnaBit dna1 0 ≠ dnaBit dna2 0 := fun heq =>
    h (by rw [gender_eq, gender_eq, heq])
  have hselector : ∀ selector,
      (Kitty.mk (newDna dna1 dna2 selector)).gender = gender ↔
        dnaBit selector 0 = (dnaBit dna1 0 ^^ decide (gender = .female)) := by
    intro selector
    rw [gender_eq_iff, dnaBit_newDna]
    generalize dnaBit dna1 0 = bit1 at *
    generalize dnaBit dna2 0 = bit2 at *
    cases dnaBit selector 0 <;> cases bit1 <;> cases bit2 <;>
      cases gender <;> simp_all
  simp only [hselector]
  rw [ncard_dnaBit fun bits =>
    bits 0 = (dnaBit dna1 0 ^^ decide (gender = .female)), card_with_bit,
    Fintype.card_fin]

/--
Over all selectors each child of two parents comes up equally often, there are
as many as choices at the bits the parents do not share, and the children of a
couple are female for half of the selectors.
-/
theorem breeding_is_fair (dna1 dna2 : Vector UInt8 16) :
    (∀ child, Mixture dna1 dna2 child →
      {selector | newDna dna1 dna2 selector = child}.ncard =
        2 ^ sharedBits dna1 dna2) ∧
    {child | Mixture dna1 dna2 child}.ncard =
      2 ^ (128 - sharedBits dna1 dna2) ∧
    ((Kitty.mk dna1).gender ≠ (Kitty.mk dna2).gender → ∀ gender,
      {selector | (Kitty.mk (newDna dna1 dna2 selector)).gender =
        gender}.ncard = 2 ^ 127) :=
  ⟨fun _ => ncard_selectors, ncard_mixtures dna1 dna2, ncard_genders⟩

theorem breeding_is_fair_of_gender_test :
    let male : Vector UInt8 16 := Vector.replicate 16 0
    let female : Vector UInt8 16 := .ofFn fun i => if i = 0 then 1 else 0
    {selector | (Kitty.mk (newDna male female selector)).gender =
      .female}.ncard = 2 ^ 127 := by
  intro male female
  exact (breeding_is_fair male female).2.2 (by decide) .female

end SubstrateKitties.Pallet
