import Mathlib.Tactic.TFAE
import SubstrateKitties.Runs.Population

/-!
# Ownership

Three checks of ownership meet here: the token itself, which `kitties` and
`orml_nft` look at, the index by owner, which `set_price` looks at, and the
owner that the buyer names.  They agree in every reachable state, and a kitty
changes hands only by a transfer of its owner or by a sale at the price that is
listed.
-/

namespace SubstrateKitties.Pallet

open SubstrateKitties.Foundation
open SubstrateKitties.Foundation.Dispatch

section Ownership

variable {AccountId : Type}

namespace Storage

def owner (s : Storage AccountId) (kittyId : TokenId) : Option AccountId :=
  (s.tokens kittyId).map TokenInfo.owner

theorem owner_eq_some {s : Storage AccountId} {kittyId : TokenId}
    {who : AccountId} :
    s.owner kittyId = some who ↔
      ∃ info, s.tokens kittyId = some info ∧ info.owner = who := by
  simp [owner]

theorem owner_of_token {s : Storage AccountId} {kittyId : TokenId}
    {info : TokenInfo AccountId} {who : AccountId}
    (token : s.tokens kittyId = some info) (owned : info.owner = who) :
    s.owner kittyId = some who :=
  owner_eq_some.mpr ⟨info, token, owned⟩

@[simp] theorem prepared_owner (T : Config AccountId) (s : Storage AccountId)
    (input : Input AccountId) : (s.prepared T input).owner = s.owner := by
  funext kittyId
  simp only [owner, prepared_tokens]

variable [DecidableEq AccountId]

theorem born_owner (s : Storage AccountId) (who : AccountId) (kitty : Kitty)
    (event : Event AccountId) (kittyId : TokenId) :
    (s.born who kitty event).owner kittyId =
      if kittyId = s.nextTokenId then some who else s.owner kittyId := by
  rw [owner, born_tokens]
  by_cases h : kittyId = s.nextTokenId
  · rw [if_pos h, if_pos h]
    rfl
  · rw [if_neg h, if_neg h]
    rfl

end Storage

variable [DecidableEq AccountId] {T : Config AccountId}

theorem HandsOver.owner {s s' : Storage AccountId} {sender recipient : AccountId}
    {kittyId : TokenId} (h : HandsOver s s' sender recipient kittyId)
    {info : TokenInfo AccountId} (token : s.tokens kittyId = some info)
    (other : TokenId) :
    s'.owner other =
      if other = kittyId then some recipient else s.owner other := by
  rw [Storage.owner, h.tokens]
  by_cases hid : other = kittyId
  · rw [if_pos hid, if_pos hid, token]
    rfl
  · rw [if_neg hid, if_neg hid]
    rfl

omit [DecidableEq AccountId] in
theorem Population.ne_next {s : Storage AccountId} (h : Population s)
    {kittyId : TokenId} {o : AccountId} (howner : s.owner kittyId = some o) :
    kittyId ≠ s.nextTokenId := by
  rintro rfl
  rw [Storage.owner, h.fresh] at howner
  cases howner

/-! ## How a kitty changes hands -/

/-- The owner of `kittyId` moves from `o` to `n` in the step `t`. -/
inductive ChangesHands (t : Step AccountId) (kittyId : TokenId)
    (o n : AccountId) : Prop where
  | transfer (success : t.outcome = .dispatched (.ok ()))
      (action : t.input.action = .dispatch (.signed o) (.transfer n kittyId))
  | buy (maxPrice price : Balance) (success : t.outcome = .dispatched (.ok ()))
      (action : t.input.action =
        .dispatch (.signed n) (.buy o kittyId maxPrice))
      (listed : t.pre.kittyPrices kittyId = some price)
      (enough : price ≤ maxPrice)
      (paid : Moves n o price t.pre.balances t.post.balances)

theorem Effect.owner_cases {s s' : Storage AccountId} {env : Env}
    {origin : Origin AccountId} {call : Call AccountId}
    (lawful : T.Lawful) (h : Population s)
    (heffect : Effect T env s origin call s') {kittyId : TokenId}
    {o : AccountId} (hpre : s.owner kittyId = some o) :
    s'.owner kittyId = some o ∨
      ∃ n, n ≠ o ∧ s'.owner kittyId = some n ∧
        ((origin = .signed o ∧ call = .transfer n kittyId) ∨
          ∃ maxPrice price, origin = .signed n ∧
            call = .buy o kittyId maxPrice ∧
            s.kittyPrices kittyId = some price ∧ price ≤ maxPrice ∧
            Moves n o price s.balances s'.balances) := by
  have hold := h.ne_next hpre
  cases heffect with
  | create sender room =>
      left
      rw [Storage.born_owner, if_neg hold, hpre]
  | breed sender kittyId1 kittyId2 kitty1 kitty2 owned1 owned2 genders room =>
      left
      rw [Storage.born_owner, if_neg hold, hpre]
  | transferSelf sender kittyId' info token owned => exact .inl hpre
  | transfer sender recipient kittyId' info token owned other =>
      have howner :=
        (HandsOver.moved s sender recipient kittyId').owner token kittyId
      by_cases hid : kittyId = kittyId'
      · subst hid
        rw [Storage.owner_of_token token owned] at hpre
        cases hpre
        exact .inr ⟨recipient, Ne.symm other, by rw [howner, if_pos rfl],
          .inl ⟨rfl, rfl⟩⟩
      · left
        rw [howner, if_neg hid, hpre]
  | setPrice sender kittyId' price indexed => exact .inl hpre
  | buy sender owner kittyId' maxPrice price info balances other listed enough
      token owned paid =>
      have howner :=
        (HandsOver.sold s owner sender kittyId' price balances).owner token
          kittyId
      by_cases hid : kittyId = kittyId'
      · subst hid
        rw [Storage.owner_of_token token owned] at hpre
        cases hpre
        exact .inr ⟨sender, other, by rw [howner, if_pos rfl],
          .inr ⟨maxPrice, price, rfl, rfl, listed, enough,
            lawful.currency.transfer_moves _ _ _ _ _ other paid⟩⟩
      · left
        rw [howner, if_neg hid, hpre]
  | autoBreed kittyId1 kittyId2 nonce solution info1 info2 token1 token2 genders
      room =>
      left
      rw [Storage.born_owner, if_neg hold, hpre]

theorem step_changes_hands (lawful : T.Lawful) {s : Storage AccountId}
    (h : Population s) (input : Input AccountId) {kittyId : TokenId}
    {o : AccountId} (hpre : s.owner kittyId = some o)
    (hpost : (step T input s).2.owner kittyId ≠ some o) :
    ∃ n, n ≠ o ∧ (step T input s).2.owner kittyId = some n ∧
      ChangesHands (transition (step T) s input) kittyId o n := by
  cases step_cases lawful s input with
  | failed failure same =>
      rw [same, Storage.prepared_owner] at hpost
      exact absurd hpre hpost
  | succeeded success heffect =>
      have hpre' : (s.prepared T input).owner kittyId = some o := by
        rw [Storage.prepared_owner]
        exact hpre
      cases heffect.owner_cases lawful (h.prepared T input) hpre' with
      | inl hsame => exact absurd hsame hpost
      | inr hchange =>
          obtain ⟨n, hne, howner, hcause⟩ := hchange
          refine ⟨n, hne, howner, ?_⟩
          rcases hcause with ⟨horigin, hcall⟩ |
            ⟨maxPrice, price, horigin, hcall, listed, enough, paid⟩
          · exact .transfer success (Input.action_of_signed horigin hcall)
          · rw [Storage.prepared_kittyPrices] at listed
            rw [Storage.prepared_balances] at paid
            exact .buy maxPrice price success (Input.action_of_signed horigin hcall)
              listed enough paid

theorem changes_hands_only_when_authorized [Inhabited AccountId]
    (lawful : T.Lawful) {s₀ : Storage AccountId} (genesis : IsGenesis T s₀)
    (inputs : List (Input AccountId)) {t : Step AccountId}
    (ht : t ∈ trace (step T) s₀ inputs) {kittyId : TokenId} {o : AccountId}
    (hpre : t.pre.owner kittyId = some o)
    (hpost : t.post.owner kittyId ≠ some o) :
    ∃ n, n ≠ o ∧ t.post.owner kittyId = some n ∧
      ChangesHands t kittyId o n := by
  obtain ⟨before, input, rfl⟩ := exists_of_mem_trace ht
  have hpopulation := (Population.of_genesis lawful genesis).run lawful before
  exact step_changes_hands lawful hpopulation input hpre hpost

theorem changes_hands_in_can_buy :
    let listed := run (step Mock.config) Mock.genesis
      [Mock.signed 100 .create, Mock.signed 100 (.setPrice 0 (some 400))]
    let sale := transition (step Mock.config) listed
      (Mock.signed 200 (.buy 100 0 500))
    ∃ n, n ≠ 100 ∧ sale.post.owner 0 = some n ∧ ChangesHands sale 0 100 n := by
  intro listed sale
  have hpre : sale.pre.owner 0 = some 100 := by rfl
  have hpost : sale.post.owner 0 ≠ some 100 := by
    have howner : sale.post.owner 0 = some 200 := by decide +kernel
    simp [howner]
  exact changes_hands_only_when_authorized Mock.config_lawful
    Mock.genesis_isGenesis
    [Mock.signed 100 .create, Mock.signed 100 (.setPrice 0 (some 400)),
      Mock.signed 200 (.buy 100 0 500)]
    (.tail _ (.tail _ (.head _))) hpre hpost

/-! ## The checks agree -/

omit [DecidableEq AccountId] in
theorem Population.indexed_iff_owner {s : Storage AccountId}
    (h : Population s) {who : AccountId} {kittyId : TokenId} :
    s.nft.tokensByOwner (who, (s.classId, kittyId)) = true ↔
      s.owner kittyId = some who := by
  rw [h.indexed, Storage.owner_eq_some]

theorem kitties_isSome_iff {s : Storage AccountId} {who : AccountId}
    {kittyId : TokenId} :
    (s.kitties who kittyId).isSome ↔ s.owner kittyId = some who := by
  rw [Storage.owner_eq_some, Storage.kitties]
  cases htoken : s.tokens kittyId with
  | none => simp
  | some info =>
      by_cases howner : info.owner = who
      · simp [howner]
      · simp [howner]

omit [DecidableEq AccountId] in
theorem setPrice_ok_iff {s : Storage AccountId} {who : AccountId}
    {kittyId : TokenId} {price : Option Balance} :
    (setPrice (.signed who) kittyId price s).1 = .ok () ↔
      s.nft.tokensByOwner (who, (s.classId, kittyId)) = true := by
  simp [fst_eq_ok, setPrice_eq_ok]

variable (lawful : T.Lawful)

include lawful

theorem transfer_ok_iff {s : Storage AccountId} {who recipient : AccountId}
    {kittyId : TokenId} :
    (transfer T (.signed who) recipient kittyId s).1 = .ok () ↔
      s.owner kittyId = some who := by
  rw [fst_eq_ok, Storage.owner_eq_some]
  constructor
  · rintro ⟨s', hok⟩
    obtain ⟨sender, info, horigin, token, owned, -⟩ :=
      (transfer_eq_ok lawful).mp hok
    cases horigin
    exact ⟨info, token, owned⟩
  · rintro ⟨info, token, owned⟩
    exact ⟨_, (transfer_eq_ok lawful).mpr
      ⟨who, info, rfl, token, owned, rfl⟩⟩

theorem buy_ok_iff {s : Storage AccountId} {who owner : AccountId}
    {kittyId : TokenId} {maxPrice : Balance} :
    (buy T (.signed who) owner kittyId maxPrice s).1 = .ok () ↔
      who ≠ owner ∧ s.owner kittyId = some owner ∧
        ∃ price, s.kittyPrices kittyId = some price ∧ price ≤ maxPrice ∧
          ∃ balances, T.currency.transfer who owner price .keepAlive
            s.balances = (.ok (), balances) := by
  rw [fst_eq_ok, Storage.owner_eq_some]
  constructor
  · rintro ⟨s', hok⟩
    obtain ⟨sender, price, info, balances, horigin, other, listed, enough,
      token, owned, paid, -⟩ := (buy_eq_ok lawful).mp hok
    cases horigin
    exact ⟨other, ⟨info, token, owned⟩, price, listed, enough, balances, paid⟩
  · rintro ⟨other, ⟨info, token, owned⟩, price, listed, enough, balances,
      paid⟩
    exact ⟨_, (buy_eq_ok lawful).mpr ⟨who, price, info, balances, rfl, other,
      listed, enough, token, owned, paid, rfl⟩⟩

theorem doBreed_result {s : Storage AccountId} (h : Population s) (env : Env)
    (owner : AccountId) (kitty1 kitty2 : Kitty) :
    (doBreed T env owner kitty1 kitty2 s).1 =
      if kitty1.gender = kitty2.gender then .error (.kitties .sameGender)
      else if s.nextTokenId = u32Max then .error (.nft .noAvailableTokenId)
      else .ok () := by
  by_cases hgender : kitty1.gender = kitty2.gender
  · simp [doBreed, bind_apply, ensure, hgender, fail]
  · rw [if_neg hgender]
    by_cases hid : s.nextTokenId = u32Max
    · have hmint := lawful.nft.mint_exhausted s.nft owner s.classId
        (kitten T env owner kitty1 kitty2) hid
      rw [if_pos hid]
      simp only [kitten] at hmint
      simp [doBreed, bind_apply, ensure, hgender, pure_apply, query, callNft,
        zoom, hmint]
    · rw [if_neg hid, fst_eq_ok]
      exact ⟨_, (doBreed_eq_ok lawful).mpr
        ⟨hgender, h.canMint_iff.mpr hid, rfl⟩⟩

omit lawful in
theorem breed_eq_of_missing {s : Storage AccountId} {who : AccountId}
    {kittyId1 kittyId2 : TokenId} (env : Env)
    (h : s.kitties who kittyId1 = none ∨ s.kitties who kittyId2 = none) :
    breed T env (.signed who) kittyId1 kittyId2 s =
      (.error (.kitties .invalidKittyId), s) := by
  cases h1 : s.kitties who kittyId1 with
  | none =>
      simp [breed, bind_apply, ensureSigned, pure_apply, query, okOr, h1, fail]
  | some kitty1 =>
      have h2 : s.kitties who kittyId2 = none := by
        simpa [h1] using h
      simp [breed, bind_apply, ensureSigned, pure_apply, query, okOr, h1, h2,
        fail]

omit lawful in
theorem breed_eq_of_found {s : Storage AccountId} {who : AccountId}
    {kittyId1 kittyId2 : TokenId} {kitty1 kitty2 : Kitty} (env : Env)
    (h1 : s.kitties who kittyId1 = some kitty1)
    (h2 : s.kitties who kittyId2 = some kitty2) :
    breed T env (.signed who) kittyId1 kittyId2 s =
      doBreed T env who kitty1 kitty2 s := by
  simp [breed, bind_apply, ensureSigned, pure_apply, query, okOr, h1, h2]

theorem breed_invalid_iff {s : Storage AccountId} (h : Population s)
    (env : Env) {who : AccountId} {kittyId1 kittyId2 : TokenId} :
    (breed T env (.signed who) kittyId1 kittyId2 s).1 =
        .error (.kitties .invalidKittyId) ↔
      ¬ (s.owner kittyId1 = some who ∧ s.owner kittyId2 = some who) := by
  rw [← kitties_isSome_iff, ← kitties_isSome_iff]
  cases h1 : s.kitties who kittyId1 with
  | none => simp [breed_eq_of_missing env (.inl h1)]
  | some kitty1 =>
      cases h2 : s.kitties who kittyId2 with
      | none => simp [breed_eq_of_missing env (.inr h2)]
      | some kitty2 =>
          rw [breed_eq_of_found env h1 h2, doBreed_result lawful h]
          split_ifs <;> simp

variable [Inhabited AccountId]

/--
Every check of ownership accepts the holder of the token and nobody else, and
`breed` and `buy` do so whenever their other conditions are met.
-/
theorem ownership_checks_agree {s : Storage AccountId} (reachable : Reachable T s)
    (who : AccountId) (kittyId : TokenId) :
    List.TFAE
      [s.owner kittyId = some who,
        s.nft.tokensByOwner (who, (s.classId, kittyId)) = true,
        (s.kitties who kittyId).isSome,
        ∀ env newPrice, (dispatch T env (.signed who)
          (.setPrice kittyId newPrice) s).1 = .ok (),
        ∃ env newPrice, (dispatch T env (.signed who)
          (.setPrice kittyId newPrice) s).1 = .ok (),
        ∀ env recipient, (dispatch T env (.signed who)
          (.transfer recipient kittyId) s).1 = .ok (),
        ∃ env recipient, (dispatch T env (.signed who)
          (.transfer recipient kittyId) s).1 = .ok ()] ∧
      (∀ env sender price maxPrice balances,
        s.kittyPrices kittyId = some price → sender ≠ who → price ≤ maxPrice →
        T.currency.transfer sender who price .keepAlive s.balances =
          (.ok (), balances) →
        ((dispatch T env (.signed sender) (.buy who kittyId maxPrice) s).1 =
          .ok () ↔ s.owner kittyId = some who)) ∧
      (∀ env sender maxPrice,
        (dispatch T env (.signed sender) (.buy who kittyId maxPrice) s).1 =
          .ok () → s.owner kittyId = some who) ∧
      ∀ env other,
        (dispatch T env (.signed who) (.breed kittyId other) s).1 =
            .error (.kitties .invalidKittyId) ↔
          ¬ (s.owner kittyId = some who ∧ s.owner other = some who) := by
  have h : Population s := .of_reachable lawful reachable
  refine ⟨?_, ?_, ?_, fun env other => breed_invalid_iff lawful h env⟩
  · simp only [dispatch, setPrice_ok_iff, transfer_ok_iff lawful,
      kitties_isSome_iff, h.indexed_iff_owner]
    let env : Env := ⟨Vector.replicate 32 0, none⟩
    tfae_have 1 ↔ 2 := Iff.rfl
    tfae_have 1 ↔ 3 := Iff.rfl
    tfae_have 1 → 4 := fun howner _ _ => howner
    tfae_have 4 → 5 := fun hall => ⟨env, none, hall env none⟩
    tfae_have 5 → 1 := by
      rintro ⟨_, _, howner⟩
      exact howner
    tfae_have 1 → 6 := fun howner _ _ => howner
    tfae_have 6 → 7 := fun hall => ⟨env, who, hall env who⟩
    tfae_have 7 → 1 := by
      rintro ⟨_, _, howner⟩
      exact howner
    tfae_finish
  · intro env sender price maxPrice balances hlisted hother henough hpaid
    simp only [dispatch, buy_ok_iff lawful]
    constructor
    · rintro ⟨-, howner, -⟩
      exact howner
    · intro howner
      exact ⟨hother, howner, price, hlisted, henough, balances, hpaid⟩
  · intro env sender maxPrice hok
    simp only [dispatch, buy_ok_iff lawful] at hok
    exact hok.2.1

end Ownership

theorem ownership_checks_agree_after_market_day :
    let s := run (step Mock.config) Mock.genesis (Mock.marketDay 0 2)
    (∀ env newPrice, (dispatch Mock.config env (.signed 200)
        (.setPrice 0 newPrice) s).1 = .ok ()) ∧
      (∀ env recipient, (dispatch Mock.config env (.signed 200)
        (.transfer recipient 0) s).1 = .ok ()) ∧
      (∀ env newPrice, (dispatch Mock.config env (.signed 100)
        (.setPrice 0 newPrice) s).1 ≠ .ok ()) ∧
      ∀ env, (dispatch Mock.config env (.signed 100) (.breed 0 1) s).1 =
        .error (.kitties .invalidKittyId) := by
  intro s
  have hreachable : Reachable Mock.config s :=
    (Reachable.of_genesis Mock.genesis_isGenesis).run (Mock.marketDay 0 2)
  have howner : s.owner 0 = some 200 := by decide +kernel
  have hother : s.owner 0 ≠ some 100 := by
    rw [howner]
    decide
  have hbuyer := ownership_checks_agree Mock.config_lawful hreachable 200 0
  have hbreeder := ownership_checks_agree Mock.config_lawful hreachable 100 0
  refine ⟨(hbuyer.1.out 0 3).mp howner, (hbuyer.1.out 0 5).mp howner,
    fun env newPrice hok => ?_, fun env => ?_⟩
  · have hpriced : ∃ env newPrice, (dispatch Mock.config env (.signed 100)
        (.setPrice 0 newPrice) s).1 = .ok () := ⟨env, newPrice, hok⟩
    exact hother ((hbreeder.1.out 0 4).mpr hpriced)
  · exact (hbreeder.2.2.2 env 1).mpr fun howners => hother howners.1

end SubstrateKitties.Pallet
