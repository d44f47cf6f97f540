import SubstrateKitties.Pallet.Footprints
import SubstrateKitties.Runs.Births

/-!
# The two ways to breed

`auto_breed` looks its kitties up by id and breeds for the owner of the first,
`breed` looks them up under the signer.  Once the owner of the first kitty has
been given the second one as well, both do the same.
-/

namespace SubstrateKitties.Pallet

open SubstrateKitties.Foundation
open SubstrateKitties.Foundation.Dispatch

section Breeding

variable {AccountId : Type}

/--
From `s` to `t` the same has happened as from `s'` to `t'`: the later storages
differ only where the earlier ones do, and the logs got the same events.
-/
structure SameChanges (s t s' t' : Storage AccountId) : Prop where
  reads : ∀ cell, s.read cell = s'.read cell → t.read cell = t'.read cell
  entries : cells.SameEntries s t s' t'

theorem SameChanges.refl (s s' : Storage AccountId) : SameChanges s s s' s' :=
  ⟨fun _ h => h, .refl s s'⟩

variable [DecidableEq AccountId] {T : Config AccountId} {env : Env}

theorem SameChanges.born {s s' : Storage AccountId}
    (hclass : s'.classId = s.classId) (hnext : s'.nextTokenId = s.nextTokenId)
    (owner : AccountId) (kitty : Kitty) (event : Event AccountId) :
    SameChanges s (s.born owner kitty event) s' (s'.born owner kitty event) := by
  refine ⟨fun cell hcell => ?_, [event], rfl, rfl⟩
  simp only [Storage.nextTokenId, hclass] at hnext
  cases cell with
  | nextTokenId classId =>
      change Function.update _ _ _ _ = Function.update _ _ _ _
      simp only [Function.update_apply, hclass, hnext]
      split
      · rfl
      · exact hcell
  | classInfo classId =>
      have hinfo : s.nft.classes classId = s'.nft.classes classId := hcell
      change Function.update _ _ _ _ = Function.update _ _ _ _
      simp only [Function.update_apply, hclass]
      split
      · next heq =>
          subst heq
          rw [hinfo]
      · exact hinfo
  | token classId tokenId =>
      change Function.update _ _ _ _ = Function.update _ _ _ _
      simp only [Function.update_apply, hclass, hnext]
      split
      · rfl
      · exact hcell
  | index who classId tokenId =>
      change Function.update _ _ _ _ = Function.update _ _ _ _
      simp only [Function.update_apply, hclass, hnext]
      split
      · rfl
      · exact hcell
  | _ => exact hcell

variable (lawful : T.Lawful)

include lawful

theorem doBreed_sameChanges (env : Env) {s s' : Storage AccountId} (h : Population s)
    (h' : Population s') (hclass : s'.classId = s.classId)
    (hnext : s'.nextTokenId = s.nextTokenId) (owner : AccountId)
    (kitty1 kitty2 : Kitty) :
    (doBreed T env owner kitty1 kitty2 s).1 =
        (doBreed T env owner kitty1 kitty2 s').1 ∧
      SameChanges s (doBreed T env owner kitty1 kitty2 s).2 s'
        (doBreed T env owner kitty1 kitty2 s').2 := by
  have hresult : (doBreed T env owner kitty1 kitty2 s).1 =
      (doBreed T env owner kitty1 kitty2 s').1 := by
    rw [doBreed_result lawful h, doBreed_result lawful h', hnext]
  refine ⟨hresult, ?_⟩
  rcases hrun : doBreed T env owner kitty1 kitty2 s with ⟨error | u, t⟩
  · rw [hrun] at hresult
    have hatomic : Atomic (doBreed T env owner kitty1 kitty2) :=
      doBreed_atomic lawful.nft.failsClean owner kitty1 kitty2
    have ht := hatomic s error (by rw [hrun])
    have ht' := hatomic s' error hresult.symm
    rw [hrun] at ht
    rw [ht, ht']
    exact .refl s s'
  · rw [hrun] at hresult
    obtain ⟨t', hrun'⟩ := fst_eq_ok.mp hresult.symm
    obtain ⟨-, -, rfl⟩ := (doBreed_eq_ok lawful).mp hrun
    obtain ⟨-, -, rfl⟩ := (doBreed_eq_ok lawful).mp hrun'
    rw [hrun', hnext]
    exact .born hclass hnext owner _ _

/-! ## Both kitties in one hand -/

omit lawful in
/-- The storage after `o₂`, if it is another account, has signed over to `o`. -/
def Storage.gathered (T : Config AccountId) (env : Env) (s : Storage AccountId)
    (kittyId : TokenId) (o₂ o : AccountId) : Storage AccountId :=
  if o₂ = o then s
  else (dispatch T env (.signed o₂) (.transfer o kittyId) s).2

theorem gathered_eq {s : Storage AccountId} {kittyId : TokenId}
    {o₂ : AccountId} (howner : s.owner kittyId = some o₂) (o : AccountId) :
    s.gathered T env kittyId o₂ o =
      if o₂ = o then s else s.moved o₂ o kittyId := by
  unfold Storage.gathered
  by_cases hsame : o₂ = o
  · simp [hsame]
  · obtain ⟨info, token, owned⟩ := Storage.owner_eq_some.mp howner
    have hdispatch : dispatch T env (.signed o₂) (.transfer o kittyId) s =
        (.ok (), s.moved o₂ o kittyId) :=
      (dispatch_eq_ok lawful).mpr (.transfer o₂ o kittyId info token owned hsame)
    simp [hsame, hdispatch]

structure Gathered (s s' : Storage AccountId) (o : AccountId)
    (kittyId1 kittyId2 : TokenId) (kitty1 kitty2 : Kitty) : Prop where
  population : Population s'
  classId : s'.classId = s.classId
  nextTokenId : s'.nextTokenId = s.nextTokenId
  found1 : s'.kitties o kittyId1 = some kitty1
  found2 : s'.kitties o kittyId2 = some kitty2

theorem Gathered.gathered {s : Storage AccountId} (h : Population s)
    {kittyId1 kittyId2 : TokenId} {info1 info2 : TokenInfo AccountId}
    (token1 : s.tokens kittyId1 = some info1)
    (token2 : s.tokens kittyId2 = some info2) :
    Gathered s (s.gathered T env kittyId2 info2.owner info1.owner) info1.owner
      kittyId1 kittyId2 info1.data info2.data := by
  rw [gathered_eq lawful (Storage.owner_of_token token2 rfl)]
  by_cases hsame : info2.owner = info1.owner
  · rw [if_pos hsame]
    exact ⟨h, rfl, rfl, Storage.kitties_eq_some.mpr ⟨info1, token1, rfl, rfl⟩,
      Storage.kitties_eq_some.mpr ⟨info2, token2, hsame, rfl⟩⟩
  · rw [if_neg hsame]
    have hmove := HandsOver.moved s info2.owner info1.owner kittyId2
    have hid : kittyId1 ≠ kittyId2 := by
      rintro rfl
      rw [token1] at token2
      cases token2
      exact hsame rfl
    refine ⟨h.handsOver token2 rfl hmove, rfl, hmove.nextTokenId, ?_, ?_⟩
    · refine Storage.kitties_eq_some.mpr ⟨info1, ?_, rfl, rfl⟩
      rw [hmove.tokens, if_neg hid, token1]
    · refine Storage.kitties_eq_some.mpr
        ⟨{ info2 with owner := info1.owner }, ?_, rfl, rfl⟩
      rw [hmove.tokens, if_pos rfl, token2]
      rfl

/--
`auto_breed` does what the owner of the first kitty would do with `breed`, once
that account has the second kitty too.
-/
theorem breeding_paths_agree [Inhabited AccountId] {s : Storage AccountId}
    (reachable : Reachable T s) (env transferEnv : Env)
    {kittyId1 kittyId2 : TokenId} {o o₂ : AccountId}
    (owner1 : s.owner kittyId1 = some o) (owner2 : s.owner kittyId2 = some o₂)
    (nonce : UInt32) (solution : BitVec 128) :
    let s' := s.gathered T transferEnv kittyId2 o₂ o
    let unsigned :=
      dispatch T env .none (.autoBreed kittyId1 kittyId2 nonce solution) s
    let signed := dispatch T env (.signed o) (.breed kittyId1 kittyId2) s'
    s' = (if o₂ = o then s else s.moved o₂ o kittyId2) ∧
      unsigned.1 = signed.1 ∧
      (unsigned.1 = .ok () → ∃ kitty,
        unsigned.2.tokens s.nextTokenId =
          some { metadata := [], owner := o, data := kitty } ∧
        signed.2.tokens s.nextTokenId =
          some { metadata := [], owner := o, data := kitty } ∧
        unsigned.2.events = s.events ++ [.kittyBred o s.nextTokenId kitty] ∧
        signed.2.events = s'.events ++ [.kittyBred o s.nextTokenId kitty]) ∧
      SameChanges s unsigned.2 s' signed.2 ∧
      (o₂ = o → unsigned.2 = signed.2) := by
  intro s' unsigned signed
  have h : Population s := .of_reachable lawful reachable
  obtain ⟨info1, token1, rfl⟩ := Storage.owner_eq_some.mp owner1
  obtain ⟨info2, token2, rfl⟩ := Storage.owner_eq_some.mp owner2
  have hs' : Gathered s s' info1.owner kittyId1 kittyId2 info1.data info2.data :=
    .gathered lawful h token1 token2
  have hunsigned : unsigned = doBreed T env info1.owner info1.data info2.data s :=
    autoBreed_eq_of_found nonce solution token1 token2
  have hsigned : signed = doBreed T env info1.owner info1.data info2.data s' :=
    breed_eq_of_found env hs'.found1 hs'.found2
  rw [hunsigned, hsigned]
  obtain ⟨hresult, hchanges⟩ := doBreed_sameChanges lawful env h hs'.population
    hs'.classId hs'.nextTokenId info1.owner info1.data info2.data
  refine ⟨gathered_eq lawful owner2 info1.owner, hresult, fun ok => ?_, hchanges,
    fun hsame => ?_⟩
  · have hadds := doBreed_onlyAdds lawful h ok
    have hadds' := doBreed_onlyAdds lawful hs'.population (hresult.symm.trans ok)
    rw [hs'.nextTokenId] at hadds'
    refine ⟨_, hadds.token, ?_, hadds.events, hadds'.events⟩
    rw [← hs'.nextTokenId]
    exact hadds'.token
  · have heq : s' = s := if_pos hsame
    rw [heq]

end Breeding

theorem breeding_paths_agree_in_can_auto_breed :
    let created := run (step Mock.config) Mock.genesis
      [Mock.signed 100 .create, Mock.signed 101 .create]
    (dispatch Mock.config (Mock.seeded 0) .none (.autoBreed 0 1 0 0) created).1 =
      (dispatch Mock.config (Mock.seeded 0) (.signed 100) (.breed 0 1)
        (created.gathered Mock.config (Mock.seeded 0) 1 101 100)).1 := by
  intro created
  have howner1 : created.owner 0 = some 100 := by decide +kernel
  have howner2 : created.owner 1 = some 101 := by decide +kernel
  exact (breeding_paths_agree Mock.config_lawful
    ((Reachable.of_genesis Mock.genesis_isGenesis).run
      [Mock.signed 100 .create, Mock.signed 101 .create])
    (Mock.seeded 0) (Mock.seeded 0) howner1 howner2 0 0).2.1

end SubstrateKitties.Pallet
