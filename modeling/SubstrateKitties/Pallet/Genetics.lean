import Mathlib.Data.Set.Operations
import SubstrateKitties.Foundation.Bits
import SubstrateKitties.Pallet.Mock
import SubstrateKitties.Pallet.Effects

/-!
# Breeding, bit by bit

The loop of `do_breed` mixes bytes under masks.  Read as 128 bits, the DNA of a
kitten is at every position that of one of the parents, and the selector says
of which one.  The gender is bit 0.
-/

namespace SubstrateKitties.Pallet

open SubstrateKitties.Foundation
open SubstrateKitties.Foundation.Dispatch

/-! ## Bits of the DNA -/

def byteOf (position : Fin 128) : Fin 16 := ⟨position.val / 8, by omega⟩

def dnaBit (dna : Vector UInt8 16) (position : Fin 128) : Bool :=
  dna[byteOf position].toBitVec.getLsbD (position.val % 8)

/-- At every position the child has the bit of one of the parents. -/
def Mixture (dna1 dna2 child : Vector UInt8 16) : Prop :=
  ∀ position, dnaBit child position = dnaBit dna1 position ∨
    dnaBit child position = dnaBit dna2 position

def bitOf (i : Fin 16) (b : Fin 8) : Fin 128 := ⟨8 * i.val + b.val, by omega⟩

theorem dnaBit_eq (dna : Vector UInt8 16) (position : Fin 128) :
    dnaBit dna position =
      (dna.get (byteOf position)).toBitVec.getLsbD (position.val % 8) := rfl

@[simp] theorem dnaBit_bitOf (dna : Vector UInt8 16) (i : Fin 16) (b : Fin 8) :
    dnaBit dna (bitOf i b) = (dna.get i).toBitVec.getLsbD b := by
  have hbyte : byteOf (bitOf i b) = i := by
    apply Fin.ext
    simp only [byteOf, bitOf]
    omega
  have hbit : (bitOf i b).val % 8 = b.val := by
    simp only [bitOf]
    omega
  rw [dnaBit_eq, hbyte, hbit]

theorem dna_ext {dna dna' : Vector UInt8 16}
    (h : ∀ position, dnaBit dna position = dnaBit dna' position) : dna = dna' := by
  apply Vector.ext
  intro i hi
  apply UInt8.toBitVec_inj.mp
  apply BitVec.eq_of_getLsbD_eq
  intro b hb
  have hbit := h (bitOf ⟨i, hi⟩ ⟨b, hb⟩)
  rw [dnaBit_bitOf, dnaBit_bitOf] at hbit
  exact hbit

theorem even_iff_dnaBit (dna : Vector UInt8 16) :
    dna.get 0 % 2 = 0 ↔ dnaBit dna 0 = false :=
  even_iff_getLsbD_zero (dna.get 0)

theorem gender_eq (dna : Vector UInt8 16) :
    (Kitty.mk dna).gender = if dnaBit dna 0 then .female else .male := by
  have heven : dna[0] % 2 = 0 ↔ dnaBit dna 0 = false := even_iff_dnaBit dna
  unfold Kitty.gender
  simp only [heven]
  cases dnaBit dna 0 <;> rfl

/-! ## The loop of `do_breed` -/

theorem combineDna_toBitVec (dna1 dna2 selector : UInt8) :
    (combineDna dna1 dna2 selector).toBitVec =
      selectBits selector.toBitVec dna1.toBitVec dna2.toBitVec := rfl

theorem newDna_get (dna1 dna2 selector : Vector UInt8 16) (i : Fin 16) :
    (newDna dna1 dna2 selector).get i =
      combineDna (dna1.get i) (dna2.get i) (selector.get i) :=
  getElem_fill (fun i => combineDna dna1[i] dna2[i] selector[i]) _ i

theorem dnaBit_newDna (dna1 dna2 selector : Vector UInt8 16)
    (position : Fin 128) :
    dnaBit (newDna dna1 dna2 selector) position =
      if dnaBit selector position then dnaBit dna2 position
      else dnaBit dna1 position := by
  rw [dnaBit_eq, newDna_get, combineDna_toBitVec, getLsbD_selectBits]
  rfl

theorem newDna_mixture (dna1 dna2 selector : Vector UInt8 16) :
    Mixture dna1 dna2 (newDna dna1 dna2 selector) := by
  intro position
  rw [dnaBit_newDna]
  cases dnaBit selector position with
  | false => exact .inl rfl
  | true => exact .inr rfl

/-- The selector that has a bit wherever the child leaves the first parent. -/
def selectorOf (dna1 child : Vector UInt8 16) : Vector UInt8 16 :=
  Vector.zipWith (· ^^^ ·) dna1 child

theorem newDna_selectorOf {dna1 dna2 child : Vector UInt8 16}
    (h : Mixture dna1 dna2 child) :
    newDna dna1 dna2 (selectorOf dna1 child) = child := by
  apply Vector.ext
  intro i hi
  have hbyte : (newDna dna1 dna2 (selectorOf dna1 child))[i] =
      combineDna dna1[i] dna2[i] (selectorOf dna1 child)[i] :=
    newDna_get dna1 dna2 (selectorOf dna1 child) ⟨i, hi⟩
  rw [hbyte]
  apply UInt8.toBitVec_inj.mp
  rw [combineDna_toBitVec, selectorOf, Vector.getElem_zipWith, UInt8.toBitVec_xor]
  apply selectBits_xor
  intro b hb
  have hbit := h (bitOf ⟨i, hi⟩ ⟨b, hb⟩)
  rw [dnaBit_bitOf, dnaBit_bitOf, dnaBit_bitOf] at hbit
  exact hbit

theorem range_newDna (dna1 dna2 : Vector UInt8 16) :
    Set.range (newDna dna1 dna2) = {child | Mixture dna1 dna2 child} := by
  ext child
  constructor
  · rintro ⟨selector, rfl⟩
    exact newDna_mixture dna1 dna2 selector
  · intro h
    exact ⟨selectorOf dna1 child, newDna_selectorOf h⟩

def complement (selector : Vector UInt8 16) : Vector UInt8 16 :=
  selector.map fun byte => ~~~byte

theorem dnaBit_complement (selector : Vector UInt8 16) (position : Fin 128) :
    dnaBit (complement selector) position = !dnaBit selector position := by
  have hbit : position.val % 8 < 8 := by omega
  simp [dnaBit, complement, hbit]

theorem newDna_swap (dna1 dna2 selector : Vector UInt8 16) :
    newDna dna2 dna1 (complement selector) = newDna dna1 dna2 selector := by
  apply dna_ext
  intro position
  rw [dnaBit_newDna, dnaBit_newDna, dnaBit_complement]
  cases dnaBit selector position <;> rfl

/-! ## The gender of the child -/

theorem newDna_gender (dna1 dna2 selector : Vector UInt8 16) :
    (Kitty.mk (newDna dna1 dna2 selector)).gender =
      if selector.get 0 % 2 = 0 then (Kitty.mk dna1).gender
      else (Kitty.mk dna2).gender := by
  simp only [gender_eq, dnaBit_newDna, even_iff_dnaBit]
  cases dnaBit selector 0 <;> rfl

theorem KittyGender.eq_of_ne {first second gender : KittyGender}
    (h : first ≠ second) (h' : first ≠ gender) : second = gender := by
  cases first <;> cases second <;> cases gender <;> simp_all

theorem exists_newDna_gender {dna1 dna2 : Vector UInt8 16}
    (h : (Kitty.mk dna1).gender ≠ (Kitty.mk dna2).gender)
    (gender : KittyGender) :
    ∃ selector, (Kitty.mk (newDna dna1 dna2 selector)).gender = gender := by
  by_cases hfirst : (Kitty.mk dna1).gender = gender
  · refine ⟨Vector.replicate 16 0, ?_⟩
    rw [newDna_gender]
    exact hfirst
  · refine ⟨Vector.replicate 16 1, ?_⟩
    rw [newDna_gender]
    exact KittyGender.eq_of_ne h hfirst

/-! ## The children of `do_breed` -/

section Children

variable {AccountId : Type} [DecidableEq AccountId]

/-- The runtime in which every random value is the given selector. -/
def Config.drawing (T : Config AccountId) (selector : Vector UInt8 16) :
    Config AccountId :=
  { T with blake2_128 := fun _ => selector }

omit [DecidableEq AccountId] in
@[simp] theorem randomValue_drawing (T : Config AccountId) (env : Env)
    (selector : Vector UInt8 16) (sender : AccountId) :
    randomValue (T.drawing selector) env sender = selector := rfl

/-- The DNA of the kittens that `do_breed` mints from `s` under some selector. -/
def children (T : Config AccountId) (env : Env) (s : Storage AccountId)
    (owner : AccountId) (kitty1 kitty2 : Kitty) : Set (Vector UInt8 16) :=
  {child | ∃ selector s', doBreed (T.drawing selector) env owner kitty1 kitty2 s =
      (.ok (), s') ∧
    s'.tokens s.nextTokenId =
      some { metadata := [], owner, data := ⟨child⟩ }}

theorem children_eq_range {T : Config AccountId} (lawful : T.Lawful) (env : Env)
    {s : Storage AccountId} (room : s.nft.CanMint s.classId)
    (owner : AccountId) {kitty1 kitty2 : Kitty}
    (genders : kitty1.gender ≠ kitty2.gender) :
    children T env s owner kitty1 kitty2 =
      Set.range (newDna kitty1.dna kitty2.dna) := by
  have hlawful : ∀ selector, (T.drawing selector).Lawful :=
    fun _ => ⟨lawful.nft, lawful.currency⟩
  ext child
  constructor
  · rintro ⟨selector, s', hok, htoken⟩
    obtain ⟨-, -, rfl⟩ := (doBreed_eq_ok (hlawful selector)).mp hok
    exact ⟨selector, by simpa [Storage.born_tokens, kitten] using htoken⟩
  · rintro ⟨selector, rfl⟩
    refine ⟨selector, _, (doBreed_eq_ok (hlawful selector)).mpr
      ⟨genders, room, rfl⟩, ?_⟩
    simp [Storage.born_tokens, kitten]

/--
The children of two parents are the mixtures of their DNA, the order of the
parents does not matter, and bit 0 of the selector chooses the gender.
-/
theorem children_are_mixtures (dna1 dna2 : Vector UInt8 16) :
    Set.range (newDna dna1 dna2) = {child | Mixture dna1 dna2 child} ∧
      (∀ selector, newDna dna2 dna1 (complement selector) =
        newDna dna1 dna2 selector) ∧
      (∀ selector, (Kitty.mk (newDna dna1 dna2 selector)).gender =
        if selector.get 0 % 2 = 0 then (Kitty.mk dna1).gender
        else (Kitty.mk dna2).gender) ∧
      ((Kitty.mk dna1).gender ≠ (Kitty.mk dna2).gender →
        (∀ gender, ∃ selector,
          (Kitty.mk (newDna dna1 dna2 selector)).gender = gender) ∧
        ∀ (T : Config AccountId) (env : Env) (s : Storage AccountId)
          (owner : AccountId), T.Lawful → s.nft.CanMint s.classId →
          children T env s owner ⟨dna1⟩ ⟨dna2⟩ =
            {child | Mixture dna1 dna2 child}) := by
  refine ⟨range_newDna dna1 dna2, newDna_swap dna1 dna2,
    newDna_gender dna1 dna2, fun genders => ⟨exists_newDna_gender genders, ?_⟩⟩
  intro T env s owner lawful room
  rw [children_eq_range lawful env room owner genders, range_newDna]

end Children

theorem children_are_mixtures_of_gender_test :
    let male : Vector UInt8 16 := Vector.replicate 16 0
    let female : Vector UInt8 16 := .ofFn fun i => if i = 0 then 1 else 0
    children Mock.config (Mock.seeded 0) Mock.genesis 100 ⟨male⟩ ⟨female⟩ =
      {child | Mixture male female child} := by
  intro male female
  have hroom : Mock.genesis.nft.CanMint Mock.genesis.classId :=
    ⟨by decide, { metadata := [], totalIssuance := 0, owner := 0, data := () },
      rfl, by decide⟩
  exact ((children_are_mixtures male female).2.2.2 (by decide)).2 Mock.config
    (Mock.seeded 0) Mock.genesis 100 Mock.config_lawful hroom

end SubstrateKitties.Pallet
