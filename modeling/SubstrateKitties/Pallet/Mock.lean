import SubstrateKitties.Foundation.Blake2b
import SubstrateKitties.Pallet.Chain

/-!
# The mock runtime of the tests

The configuration under which the tests of the pallet run: 64-bit accounts,
`orml_nft` with 32-bit ids and no metadata, balances with an existential
deposit of one, BLAKE2b, and a difficulty of three.  It satisfies the laws the
pallet relies on.
-/

namespace SubstrateKitties.Pallet.Mock

open SubstrateKitties.Foundation
open SubstrateKitties.Foundation.Dispatch

abbrev AccountId := UInt64

def ormlNft : OrmlNft AccountId where
  createClass owner metadata _ := fun s =>
    if metadata ≠ [] then (.error (.module 3 8), s)
    else if s.nextClassId = u32Max then (.error (.module 3 0), s)
    else (.ok s.nextClassId, s.insertClass owner)
  mint owner classId metadata data := fun s =>
    if metadata ≠ [] then (.error (.module 3 8), s)
    else if s.nextTokenId classId = u32Max then
      (.error (.nft .noAvailableTokenId), s)
    else match s.classes classId with
      | none => (.error (.nft .classNotFound), s)
      | some info =>
          if info.totalIssuance = u32Max then (.error (.nft .numOverflow), s)
          else (.ok (s.nextTokenId classId), s.insertToken owner classId data)
  transfer sender recipient token := fun s =>
    match s.tokens token with
    | none => (.error (.nft .tokenNotFound), s)
    | some info =>
        if info.owner ≠ sender then (.error (.nft .noPermission), s)
        else if sender = recipient then (.ok (), s)
        else (.ok (), s.moveToken sender recipient token)

def existentialDeposit : Balance := 1

def insufficientBalance : DispatchError := .module 1 2

def balances : Currency AccountId where
  transfer sender recipient amount existence := fun b =>
    if amount = 0 ∨ sender = recipient then (.ok (), b)
    else if b sender < amount then (.error insufficientBalance, b)
    else if 2 ^ 64 ≤ b recipient + amount then (.error (.module 1 0), b)
    else if b recipient + amount < existentialDeposit then
      (.error (.module 1 3), b)
    else if existence = .keepAlive ∧ b sender - amount < existentialDeposit then
      (.error (.module 1 4), b)
    else
      (.ok (), Function.update (Function.update b sender (b sender - amount))
        recipient (b recipient + amount))

def builder : TransactionBuilder where
  withTagPrefix tagPrefix :=
    { tagPrefix := some tagPrefix
      validity :=
        { priority := 0, requires := [], provides := []
          longevity := 18446744073709551615, propagate := true } }
  longevity longevity b :=
    { b with validity := { b.validity with longevity } }
  propagate propagate b :=
    { b with validity := { b.validity with propagate } }
  build b := b.validity

def config : Config AccountId where
  nft := ormlNft
  currency := balances
  builder := builder
  blake2_128 := Blake2b.digest
  encodeAccountId := encodeU64
  defaultDifficulty := 3

theorem ormlNft_lawful : ormlNft.Lawful where
  createClass_ok s owner h := by simp [ormlNft, h]
  mint_exhausted s owner classId kitty h := by simp [ormlNft, h]
  mint_no_class s owner classId kitty hid h := by simp [ormlNft, hid, h]
  mint_overflow s owner classId kitty info hid h hinfo := by
    simp [ormlNft, hid, h, hinfo]
  mint_ok s owner classId kitty h := by
    obtain ⟨hid, info, hclass, hissuance⟩ := h
    simp [ormlNft, hid, hclass, hissuance]
  transfer_missing s sender recipient token h := by simp [ormlNft, h]
  transfer_not_owner s sender recipient token info h howner := by
    simp [ormlNft, h, howner]
  transfer_self s sender token info h howner := by simp [ormlNft, h, howner]
  transfer_ok s sender recipient token info h howner hother := by
    simp [ormlNft, h, howner, hother]

theorem balances_lawful : balances.Lawful where
  transfer_fails b b' sender recipient amount error h := by
    simp only [balances] at h
    split_ifs at h <;> simp_all
  transfer_moves b b' sender recipient amount hother h := by
    simp only [balances, hother, or_false] at h
    by_cases hzero : amount = 0
    · rw [if_pos hzero] at h
      cases h
      exact ⟨by rw [hzero]; rfl, by rw [hzero]; rfl, fun _ _ _ => rfl⟩
    · rw [if_neg hzero] at h
      by_cases hlow : b sender < amount
      · simp [hlow] at h
      · have hpays : b sender - amount + amount = b sender :=
          Nat.sub_add_cancel (Nat.le_of_not_lt hlow)
        rw [if_neg hlow] at h
        split_ifs at h
        · cases h
        · cases h
        · cases h
        · cases h
          refine ⟨?_, ?_, fun who hsender hrecipient => ?_⟩
          · rw [Function.update_of_ne hother, Function.update_self]
            exact hpays
          · rw [Function.update_self]
          · rw [Function.update_of_ne hrecipient, Function.update_of_ne hsender]

theorem balances_local : balances.Local where
  others b sender recipient amount who hsender hrecipient := by
    simp only [balances]
    split_ifs <;> simp [hsender, hrecipient]
  result b b' sender recipient amount hsender hrecipient := by
    simp only [balances, hsender, hrecipient]
    split_ifs <;> rfl
  both b b' sender recipient amount who hsender hrecipient hwho := by
    simp only [balances, hsender, hrecipient]
    split_ifs <;> rcases hwho with rfl | rfl <;>
      simp [Function.update_apply, hsender, hrecipient]

theorem builder_lawful : builder.Lawful where
  withTagPrefix_provides _ := rfl
  longevity_provides _ _ := rfl
  propagate_provides _ _ := rfl
  build_provides _ := rfl

theorem config_lawful : config.Lawful := ⟨ormlNft_lawful, balances_lawful⟩

/-! ## The chain of the tests -/

/-- `MockRandom` set to the same byte everywhere, in extrinsic 0. -/
def seeded (byte : UInt8) : Env :=
  { randomSeed := Vector.replicate 32 byte, extrinsicIndex := some 0 }

/-- `new_test_ext`: account 200 starts with 500. -/
def genesis : Storage AccountId :=
  (build config (.empty fun who => if who = 200 then 500 else 0)).2

theorem genesis_isGenesis : IsGenesis config genesis := ⟨_, rfl⟩

def signed (who : AccountId) (call : Call AccountId) : Input AccountId :=
  { env := seeded 0, action := .dispatch (.signed who) call }

/-- Two kitties are created under the seeds and bred, and one of them is sold. -/
def marketDay (seed1 seed2 : UInt8) : List (Input AccountId) :=
  [{ env := seeded seed1, action := .dispatch (.signed 100) .create },
    { env := seeded seed2, action := .dispatch (.signed 100) .create },
    { env := seeded seed1, action := .dispatch (.signed 100) (.breed 0 1) },
    signed 100 (.setPrice 0 (some 400)),
    signed 200 (.buy 100 0 500)]

/-- The proofs of `can_validate_unsigned`, of which the third and last are valid. -/
def canValidateUnsigned : List (Input AccountId) :=
  [(0, 0), (0, 1), (0, 2), (0, 2), (1, 11), (1, 12), (1, 13)].map fun proof =>
    { env := seeded 0, action := .unsigned (.autoBreed 0 1 proof.1 proof.2) }

-- the kitty of `can_create`
example : randomValue config (seeded 0) 100 =
    #v[59, 250, 138, 82, 209, 39, 141, 109, 163, 238, 183, 145, 235, 168, 18,
      122] := by
  decide +kernel

end SubstrateKitties.Pallet.Mock
