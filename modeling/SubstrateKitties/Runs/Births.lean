import SubstrateKitties.Runs.Lineage
import SubstrateKitties.Runs.Ownership

/-!
# Births

`create`, `breed` and `auto_breed` share one `mint`, which in a reachable state
can only run out of ids.  What they check before it decides about everything
else, and when they succeed they add one kitty and touch nothing that is there.
-/

namespace SubstrateKitties.Pallet

open SubstrateKitties.Foundation
open SubstrateKitties.Foundation.Dispatch

section Births

variable {AccountId : Type}

def Storage.gender (s : Storage AccountId) (kittyId : TokenId) :
    Option KittyGender :=
  (s.tokens kittyId).map fun info => info.data.gender

/-- Bit by bit the second DNA where the selector is set, else the first. -/
def Selects (selector dna1 dna2 dna : Vector UInt8 16) : Prop :=
  ∀ position, dnaBit dna position =
    if dnaBit selector position then dnaBit dna2 position
    else dnaBit dna1 position

structure OnlyAdds (s s' : Storage AccountId) (owner : AccountId)
    (kitty : Kitty) (event : Event AccountId) : Prop where
  fresh : s.tokens s.nextTokenId = none
  token : s'.tokens s.nextTokenId =
    some { metadata := [], owner, data := kitty }
  unlisted : s'.kittyPrices s.nextTokenId = none
  nextTokenId : s'.nextTokenId.toNat = s.nextTokenId.toNat + 1
  issuance : ∃ info info', s.nft.classes s.classId = some info ∧
    s'.nft.classes s.classId = some info' ∧
    info' = { info with totalIssuance := info'.totalIssuance } ∧
    info'.totalIssuance.toNat = info.totalIssuance.toNat + 1
  tokens : ∀ other, other ≠ s.nextTokenId → s'.tokens other = s.tokens other
  indexed : ∀ who other,
    s'.nft.tokensByOwner (who, (s.classId, other)) = true ↔
      (who = owner ∧ other = s.nextTokenId) ∨
        s.nft.tokensByOwner (who, (s.classId, other)) = true
  kittyPrices : s'.kittyPrices = s.kittyPrices
  balances : s'.balances = s.balances
  autoBreedNonce : s'.autoBreedNonce = s.autoBreedNonce
  nextClassId : s'.nft.nextClassId = s.nft.nextClassId
  elsewhere : SameElsewhere s s'
  events : s'.events = s.events ++ [event]

variable [DecidableEq AccountId] {T : Config AccountId} {env : Env}

theorem OnlyAdds.born {s : Storage AccountId} (h : Population s)
    (room : s.nft.CanMint s.classId) (owner : AccountId) (kitty : Kitty)
    (event : Event AccountId) :
    OnlyAdds s (s.born owner kitty event) owner kitty event := by
  have hroom : s.nextTokenId ≠ u32Max := room.1
  constructor
  · exact h.fresh
  · simp [Storage.born_tokens]
  · exact h.unlisted
  · rw [← toNat_succ hroom]
    simp [Storage.nextTokenId]
  · obtain ⟨info, hclass, hissuance⟩ := h.issuance
    refine ⟨info, { info with totalIssuance := info.totalIssuance + 1 }, hclass,
      by simp [hclass], rfl, ?_⟩
    rw [hissuance, toNat_succ hroom]
  · intro other hother
    rw [Storage.born_tokens, if_neg hother]
  · exact Storage.born_tokensByOwner s owner kitty event
  · rfl
  · rfl
  · rfl
  · rfl
  · exact SameElsewhere.born s owner kitty event
  · rfl

/-! ## The entry points -/

omit [DecidableEq AccountId] in
theorem autoBreed_eq_of_missing {s : Storage AccountId}
    {kittyId1 kittyId2 : TokenId} (nonce : UInt32) (solution : BitVec 128)
    (h : s.tokens kittyId1 = none ∨ s.tokens kittyId2 = none) :
    autoBreed T env .none kittyId1 kittyId2 nonce solution s =
      (.error (.kitties .invalidKittyId), s) := by
  cases h1 : s.tokens kittyId1 with
  | none =>
      simp [autoBreed, bind_apply, ensureNone, pure_apply, query, okOr, h1, fail]
  | some info1 =>
      have h2 : s.tokens kittyId2 = none := by simpa [h1] using h
      simp [autoBreed, bind_apply, ensureNone, pure_apply, query, okOr, h1, h2,
        fail]

omit [DecidableEq AccountId] in
theorem autoBreed_eq_of_found {s : Storage AccountId}
    {kittyId1 kittyId2 : TokenId} (nonce : UInt32) (solution : BitVec 128)
    {info1 info2 : TokenInfo AccountId}
    (h1 : s.tokens kittyId1 = some info1) (h2 : s.tokens kittyId2 = some info2) :
    autoBreed T env .none kittyId1 kittyId2 nonce solution s =
      doBreed T env info1.owner info1.data info2.data s := by
  simp [autoBreed, bind_apply, ensureNone, pure_apply, query, okOr, h1, h2]

variable (lawful : T.Lawful)

include lawful

theorem create_result {s : Storage AccountId} (h : Population s)
    (sender : AccountId) :
    (create T env (.signed sender) s).1 =
      if s.nextTokenId = u32Max then .error (.nft .noAvailableTokenId)
      else .ok () := by
  by_cases hid : s.nextTokenId = u32Max
  · have hmint := lawful.nft.mint_exhausted s.nft sender s.classId
      ⟨randomValue T env sender⟩ hid
    rw [if_pos hid]
    simp [create, bind_apply, ensureSigned, pure_apply, query, callNft, zoom,
      hmint]
  · rw [if_neg hid, fst_eq_ok]
    exact ⟨_, (create_eq_ok lawful).mpr
      ⟨sender, rfl, h.canMint_iff.mpr hid, rfl⟩⟩

theorem breed_result {s : Storage AccountId} (h : Population s)
    (sender : AccountId) (kittyId1 kittyId2 : TokenId) :
    (breed T env (.signed sender) kittyId1 kittyId2 s).1 =
      if ¬ (s.owner kittyId1 = some sender ∧ s.owner kittyId2 = some sender) then
        .error (.kitties .invalidKittyId)
      else if s.gender kittyId1 = s.gender kittyId2 then
        .error (.kitties .sameGender)
      else if s.nextTokenId = u32Max then .error (.nft .noAvailableTokenId)
      else .ok () := by
  by_cases howned : s.owner kittyId1 = some sender ∧ s.owner kittyId2 = some sender
  · obtain ⟨info1, token1, owned1⟩ := Storage.owner_eq_some.mp howned.1
    obtain ⟨info2, token2, owned2⟩ := Storage.owner_eq_some.mp howned.2
    have hfound1 := Storage.kitties_eq_some.mpr ⟨info1, token1, owned1, rfl⟩
    have hfound2 := Storage.kitties_eq_some.mpr ⟨info2, token2, owned2, rfl⟩
    rw [if_neg (not_not_intro howned), breed_eq_of_found env hfound1 hfound2,
      doBreed_result lawful h]
    simp only [Storage.gender, token1, token2, Option.map_some,
      Option.some.injEq]
  · rw [if_pos howned]
    exact (breed_invalid_iff lawful h env).mpr howned

theorem autoBreed_result {s : Storage AccountId} (h : Population s)
    (kittyId1 kittyId2 : TokenId) (nonce : UInt32) (solution : BitVec 128) :
    (autoBreed T env .none kittyId1 kittyId2 nonce solution s).1 =
      if ¬ ((s.tokens kittyId1).isSome ∧ (s.tokens kittyId2).isSome) then
        .error (.kitties .invalidKittyId)
      else if s.gender kittyId1 = s.gender kittyId2 then
        .error (.kitties .sameGender)
      else if s.nextTokenId = u32Max then .error (.nft .noAvailableTokenId)
      else .ok () := by
  cases token1 : s.tokens kittyId1 with
  | none => simp [autoBreed_eq_of_missing nonce solution (.inl token1)]
  | some info1 =>
      cases token2 : s.tokens kittyId2 with
      | none => simp [autoBreed_eq_of_missing nonce solution (.inr token2)]
      | some info2 =>
          rw [autoBreed_eq_of_found nonce solution token1 token2,
            doBreed_result lawful h]
          simp [Storage.gender, token1, token2]

/-! ## What a birth changes -/

theorem create_onlyAdds {s : Storage AccountId} (h : Population s)
    {sender : AccountId} (ok : (create T env (.signed sender) s).1 = .ok ()) :
    OnlyAdds s (create T env (.signed sender) s).2 sender
      ⟨randomValue T env sender⟩
      (.kittyCreated sender s.nextTokenId ⟨randomValue T env sender⟩) := by
  obtain ⟨s', hs'⟩ := fst_eq_ok.mp ok
  obtain ⟨who, horigin, room, rfl⟩ := (create_eq_ok lawful).mp hs'
  cases horigin
  rw [hs']
  exact .born h room sender _ _

theorem doBreed_onlyAdds {s : Storage AccountId} (h : Population s)
    {owner : AccountId} {kitty1 kitty2 : Kitty}
    (ok : (doBreed T env owner kitty1 kitty2 s).1 = .ok ()) :
    OnlyAdds s (doBreed T env owner kitty1 kitty2 s).2 owner
      (kitten T env owner kitty1 kitty2)
      (.kittyBred owner s.nextTokenId (kitten T env owner kitty1 kitty2)) := by
  obtain ⟨s', hs'⟩ := fst_eq_ok.mp ok
  obtain ⟨-, room, rfl⟩ := (doBreed_eq_ok lawful).mp hs'
  rw [hs']
  exact .born h room owner _ _

omit lawful in
omit [DecidableEq AccountId] in
theorem kitten_selects (owner : AccountId) (kitty1 kitty2 : Kitty) :
    Selects (randomValue T env owner) kitty1.dna kitty2.dna
      (kitten T env owner kitty1 kitty2).dna :=
  dnaBit_newDna _ _ _

def OnlyBreeds (T : Config AccountId) (env : Env) (s s' : Storage AccountId)
    (owner : AccountId) (kittyId1 kittyId2 : TokenId) : Prop :=
  ∃ dna1 dna2 dna, s.dna kittyId1 = some dna1 ∧ s.dna kittyId2 = some dna2 ∧
    Selects (randomValue T env owner) dna1 dna2 dna ∧
    OnlyAdds s s' owner ⟨dna⟩ (.kittyBred owner s.nextTokenId ⟨dna⟩)

theorem doBreed_onlyBreeds {s : Storage AccountId} (h : Population s)
    {owner : AccountId} {kittyId1 kittyId2 : TokenId}
    {info1 info2 : TokenInfo AccountId} (token1 : s.tokens kittyId1 = some info1)
    (token2 : s.tokens kittyId2 = some info2)
    (ok : (doBreed T env owner info1.data info2.data s).1 = .ok ()) :
    OnlyBreeds T env s (doBreed T env owner info1.data info2.data s).2 owner
      kittyId1 kittyId2 :=
  ⟨info1.data.dna, info2.data.dna, _,
    Storage.dna_eq_some.mpr ⟨info1, token1, rfl⟩,
    Storage.dna_eq_some.mpr ⟨info2, token2, rfl⟩,
    kitten_selects owner info1.data info2.data,
    doBreed_onlyAdds lawful h ok⟩

theorem breed_onlyBreeds {s : Storage AccountId} (h : Population s)
    {sender : AccountId} {kittyId1 kittyId2 : TokenId}
    (ok : (breed T env (.signed sender) kittyId1 kittyId2 s).1 = .ok ()) :
    OnlyBreeds T env s (breed T env (.signed sender) kittyId1 kittyId2 s).2
      sender kittyId1 kittyId2 := by
  obtain ⟨s', hs'⟩ := fst_eq_ok.mp ok
  obtain ⟨who, kitty1, kitty2, horigin, owned1, owned2, -⟩ :=
    (breed_eq_ok lawful).mp hs'
  cases horigin
  obtain ⟨info1, token1, -, rfl⟩ := Storage.kitties_eq_some.mp owned1
  obtain ⟨info2, token2, -, rfl⟩ := Storage.kitties_eq_some.mp owned2
  rw [breed_eq_of_found env owned1 owned2] at ok ⊢
  exact doBreed_onlyBreeds lawful h token1 token2 ok

theorem autoBreed_onlyBreeds {s : Storage AccountId} (h : Population s)
    {kittyId1 kittyId2 : TokenId} (nonce : UInt32) (solution : BitVec 128)
    (ok : (autoBreed T env .none kittyId1 kittyId2 nonce solution s).1 =
      .ok ()) :
    ∃ owner, s.owner kittyId1 = some owner ∧
      OnlyBreeds T env s
        (autoBreed T env .none kittyId1 kittyId2 nonce solution s).2 owner
        kittyId1 kittyId2 := by
  obtain ⟨s', hs'⟩ := fst_eq_ok.mp ok
  obtain ⟨info1, info2, -, token1, token2, -⟩ :=
    (autoBreed_eq_ok lawful nonce solution).mp hs'
  rw [autoBreed_eq_of_found nonce solution token1 token2] at ok ⊢
  exact ⟨info1.owner, Storage.owner_of_token token1 rfl,
    doBreed_onlyBreeds lawful h token1 token2 ok⟩

/--
The calls that mint fail for the reasons below, in this order, and a success
adds the one kitty and changes nothing else.
-/
theorem births_are_exact [Inhabited AccountId] {s : Storage AccountId}
    (reachable : Reachable T s) (env : Env) :
    (∀ sender,
      (dispatch T env (.signed sender) .create s).1 =
        (if s.nextTokenId = u32Max then .error (.nft .noAvailableTokenId)
        else .ok ()) ∧
      ((dispatch T env (.signed sender) .create s).1 = .ok () →
        OnlyAdds s (dispatch T env (.signed sender) .create s).2 sender
          ⟨randomValue T env sender⟩
          (.kittyCreated sender s.nextTokenId ⟨randomValue T env sender⟩))) ∧
    (∀ sender kittyId1 kittyId2,
      (dispatch T env (.signed sender) (.breed kittyId1 kittyId2) s).1 =
        (if ¬ (s.owner kittyId1 = some sender ∧
            s.owner kittyId2 = some sender) then
          .error (.kitties .invalidKittyId)
        else if s.gender kittyId1 = s.gender kittyId2 then
          .error (.kitties .sameGender)
        else if s.nextTokenId = u32Max then .error (.nft .noAvailableTokenId)
        else .ok ()) ∧
      ((dispatch T env (.signed sender) (.breed kittyId1 kittyId2) s).1 =
          .ok () →
        OnlyBreeds T env s
          (dispatch T env (.signed sender) (.breed kittyId1 kittyId2) s).2
          sender kittyId1 kittyId2)) ∧
    ∀ kittyId1 kittyId2 nonce solution,
      (dispatch T env .none
          (.autoBreed kittyId1 kittyId2 nonce solution) s).1 =
        (if ¬ ((s.tokens kittyId1).isSome ∧ (s.tokens kittyId2).isSome) then
          .error (.kitties .invalidKittyId)
        else if s.gender kittyId1 = s.gender kittyId2 then
          .error (.kitties .sameGender)
        else if s.nextTokenId = u32Max then .error (.nft .noAvailableTokenId)
        else .ok ()) ∧
      ((dispatch T env .none
          (.autoBreed kittyId1 kittyId2 nonce solution) s).1 = .ok () →
        ∃ owner, s.owner kittyId1 = some owner ∧
          OnlyBreeds T env s
            (dispatch T env .none
              (.autoBreed kittyId1 kittyId2 nonce solution) s).2
            owner kittyId1 kittyId2) := by
  have h : Population s := .of_reachable lawful reachable
  refine ⟨fun sender => ⟨?_, ?_⟩, fun sender kittyId1 kittyId2 => ⟨?_, ?_⟩,
    fun kittyId1 kittyId2 nonce solution => ⟨?_, ?_⟩⟩
  · exact create_result lawful h sender
  · exact create_onlyAdds lawful h
  · exact breed_result lawful h sender kittyId1 kittyId2
  · exact breed_onlyBreeds lawful h
  · exact autoBreed_result lawful h kittyId1 kittyId2 nonce solution
  · exact autoBreed_onlyBreeds lawful h nonce solution

end Births

theorem births_are_exact_in_can_auto_breed :
    let created := run (step Mock.config) Mock.genesis
      [Mock.signed 100 .create, Mock.signed 101 .create]
    (dispatch Mock.config (Mock.seeded 0) .none (.autoBreed 0 2 0 0)
        created).1 = .error (.kitties .invalidKittyId) := by
  intro created
  have hmissing : created.tokens 2 = none := by decide +kernel
  have hresult := ((births_are_exact Mock.config_lawful
    ((Reachable.of_genesis Mock.genesis_isGenesis).run
      [Mock.signed 100 .create, Mock.signed 101 .create])
    (Mock.seeded 0)).2.2 0 2 0 0).1
  rw [hresult, if_pos]
  change ¬ (_ ∧ (created.tokens 2).isSome)
  simp [hmissing]

end SubstrateKitties.Pallet
