import SubstrateKitties.Runs.Ownership

/-!
# Sales

`buy` checks in a fixed order, moves the token before the money, and is rolled
back if the money does not move.  Only kitties that exist are listed, so the
token is there once the price has been found, and the currency has the last
word.
-/

namespace SubstrateKitties.Pallet

open SubstrateKitties.Foundation
open SubstrateKitties.Foundation.Dispatch

section Trades

variable {AccountId : Type}

structure OnlySells (s s' : Storage AccountId) (owner buyer : AccountId)
    (kittyId : TokenId) (price : Balance) : Prop where
  token : ∃ info, s.tokens kittyId = some info ∧ info.owner = owner ∧
    s'.tokens kittyId = some { info with owner := buyer }
  indexed : ∀ who,
    s'.nft.tokensByOwner (who, (s.classId, kittyId)) = true ↔ who = buyer
  unlisted : s'.kittyPrices kittyId = none
  paid : Moves buyer owner price s.balances s'.balances
  events : s'.events = s.events ++ [.kittySold owner buyer kittyId price]
  tokens : ∀ other, other ≠ kittyId → s'.tokens other = s.tokens other
  tokensByOwner : ∀ who other, other ≠ kittyId →
    s'.nft.tokensByOwner (who, (s.classId, other)) =
      s.nft.tokensByOwner (who, (s.classId, other))
  kittyPrices : ∀ other, other ≠ kittyId →
    s'.kittyPrices other = s.kittyPrices other
  nextTokenId : s'.nft.nextTokenId = s.nft.nextTokenId
  classes : s'.nft.classes = s.nft.classes
  nextClassId : s'.nft.nextClassId = s.nft.nextClassId
  autoBreedNonce : s'.autoBreedNonce = s.autoBreedNonce
  elsewhere : SameElsewhere s s'

variable [DecidableEq AccountId] {T : Config AccountId}

theorem OnlySells.sold {s : Storage AccountId} (h : Population s)
    {owner buyer : AccountId} {kittyId : TokenId} {price : Balance}
    {info : TokenInfo AccountId} {balances : AccountId → Balance}
    (token : s.tokens kittyId = some info) (owned : info.owner = owner)
    (paid : Moves buyer owner price s.balances balances) :
    OnlySells s (s.sold owner buyer kittyId price balances) owner buyer kittyId
      price := by
  have hmove := HandsOver.sold s owner buyer kittyId price balances
  have htoken : (s.sold owner buyer kittyId price balances).tokens kittyId =
      some { info with owner := buyer } := by
    rw [hmove.tokens, if_pos rfl, token]
    rfl
  constructor
  · exact ⟨info, token, owned, htoken⟩
  · intro who
    have hindex := (h.handsOver token owned hmove).indexed who kittyId
    simp only [htoken, Option.some.injEq, exists_eq_left'] at hindex
    exact hindex.trans eq_comm
  · simp
  · exact paid
  · rfl
  · intro other hother
    rw [hmove.tokens, if_neg hother]
  · intro who other hother
    have hindex := hmove.tokensByOwner who other
    rw [if_neg hother] at hindex
    exact Bool.eq_iff_iff.mpr hindex
  · intro other hother
    exact Function.update_of_ne hother _ _
  · rfl
  · rfl
  · rfl
  · rfl
  · exact .handsOver hmove

/-! ## The checks of `buy`, one by one -/

section Checks

variable {s : Storage AccountId} {sender owner : AccountId} {kittyId : TokenId}
  {maxPrice price : Balance}

theorem buy_of_self :
    buy T (.signed sender) sender kittyId maxPrice s =
      (.error (.kitties .buyFromSelf), s) := by
  simp [buy, transactional, bind_apply, ensureSigned, pure_apply, ensure, fail]

theorem buy_of_unlisted (other : sender ≠ owner)
    (unlisted : s.kittyPrices kittyId = none) :
    buy T (.signed sender) owner kittyId maxPrice s =
      (.error (.kitties .notForSale), s) := by
  simp [buy, transactional, bind_apply, ensureSigned, pure_apply, ensure, fail,
    tryMutateExists, query, okOr, other, unlisted]

theorem buy_of_low (other : sender ≠ owner)
    (listed : s.kittyPrices kittyId = some price) (low : maxPrice < price) :
    buy T (.signed sender) owner kittyId maxPrice s =
      (.error (.kitties .priceTooLow), s) := by
  simp [buy, transactional, bind_apply, ensureSigned, pure_apply, ensure, fail,
    tryMutateExists, query, okOr, other, listed, Nat.not_le.mpr low]

variable (lawful : T.Lawful) (other : sender ≠ owner)
  (listed : s.kittyPrices kittyId = some price) (enough : price ≤ maxPrice)

include lawful other listed enough

theorem buy_of_not_owner {info : TokenInfo AccountId}
    (token : s.tokens kittyId = some info) (notOwner : info.owner ≠ owner) :
    buy T (.signed sender) owner kittyId maxPrice s =
      (.error (.nft .noPermission), s) := by
  have htransfer := lawful.nft.transfer_not_owner s.nft owner sender
    (s.classId, kittyId) info token notOwner
  simp [buy, transactional, bind_apply, ensureSigned, pure_apply, ensure,
    tryMutateExists, query, okOr, other, listed, enough, callNft, zoom, htransfer]

theorem buy_of_unpaid {info : TokenInfo AccountId}
    (token : s.tokens kittyId = some info) (owned : info.owner = owner)
    {error : DispatchError}
    (unpaid : (T.currency.transfer sender owner price .keepAlive s.balances).1 =
      .error error) :
    buy T (.signed sender) owner kittyId maxPrice s = (.error error, s) := by
  have htransfer := lawful.nft.transfer_ok s.nft owner sender
    (s.classId, kittyId) info token owned other.symm
  simp [buy, transactional, bind_apply, ensureSigned, pure_apply, ensure,
    tryMutateExists, query, okOr, other, listed, enough, callNft, callCurrency,
    zoom, htransfer, unpaid]

theorem buy_of_paid {info : TokenInfo AccountId}
    (token : s.tokens kittyId = some info) (owned : info.owner = owner)
    {balances : AccountId → Balance}
    (paid : T.currency.transfer sender owner price .keepAlive s.balances =
      (.ok (), balances)) :
    buy T (.signed sender) owner kittyId maxPrice s =
      (.ok (), s.sold owner sender kittyId price balances) :=
  (buy_eq_ok lawful).mpr ⟨sender, price, info, balances, rfl, other, listed,
    enough, token, owned, paid, rfl⟩

end Checks

/-- The result of `buy`, reason by reason in the order of the checks. -/
structure BuyResult (T : Config AccountId) (s : Storage AccountId)
    (sender owner : AccountId) (kittyId : TokenId) (maxPrice : Balance)
    (result : Except DispatchError Unit) : Prop where
  buyFromSelf : sender = owner → result = .error (.kitties .buyFromSelf)
  notForSale : sender ≠ owner → s.kittyPrices kittyId = none →
    result = .error (.kitties .notForSale)
  priceTooLow : ∀ price, sender ≠ owner → s.kittyPrices kittyId = some price →
    maxPrice < price → result = .error (.kitties .priceTooLow)
  noPermission : ∀ price, sender ≠ owner → s.kittyPrices kittyId = some price →
    price ≤ maxPrice → s.owner kittyId ≠ some owner →
    result = .error (.nft .noPermission)
  payment : ∀ price, sender ≠ owner → s.kittyPrices kittyId = some price →
    price ≤ maxPrice → s.owner kittyId = some owner →
    result =
      (T.currency.transfer sender owner price .keepAlive s.balances).1

variable (lawful : T.Lawful)

include lawful

theorem buy_result {s : Storage AccountId} (h : Population s)
    (sender owner : AccountId) (kittyId : TokenId) (maxPrice : Balance) :
    BuyResult T s sender owner kittyId maxPrice
      (buy T (.signed sender) owner kittyId maxPrice s).1 := by
  constructor
  · rintro rfl
    rw [buy_of_self]
  · intro other unlisted
    rw [buy_of_unlisted other unlisted]
  · intro price other listed low
    rw [buy_of_low other listed low]
  · intro price other listed enough notOwner
    -- a listed kitty exists, so `transfer` finds its token
    obtain ⟨info, token⟩ :=
      Option.isSome_iff_exists.mp (h.listed kittyId price listed)
    have hne : info.owner ≠ owner := fun howner =>
      notOwner (Storage.owner_of_token token howner)
    rw [buy_of_not_owner lawful other listed enough token hne]
  · intro price other listed enough howner
    obtain ⟨info, token, owned⟩ := Storage.owner_eq_some.mp howner
    rcases hpaid : T.currency.transfer sender owner price .keepAlive s.balances
      with ⟨error | u, balances⟩
    · rw [buy_of_unpaid lawful other listed enough token owned (by rw [hpaid])]
    · rw [buy_of_paid lawful other listed enough token owned hpaid]

theorem buy_onlySells {s : Storage AccountId} (h : Population s)
    {sender owner : AccountId} {kittyId : TokenId} {maxPrice : Balance}
    (ok : (buy T (.signed sender) owner kittyId maxPrice s).1 = .ok ()) :
    ∃ price, s.kittyPrices kittyId = some price ∧ price ≤ maxPrice ∧
      OnlySells s (buy T (.signed sender) owner kittyId maxPrice s).2 owner
        sender kittyId price := by
  obtain ⟨s', hs'⟩ := fst_eq_ok.mp ok
  obtain ⟨_, price, info, balances, horigin, other, listed, enough, token, owned,
    paid, rfl⟩ := (buy_eq_ok lawful).mp hs'
  cases horigin
  rw [hs']
  exact ⟨price, listed, enough, .sold h token owned
    (lawful.currency.transfer_moves _ _ _ _ _ other paid)⟩

/--
`buy` fails for the first of its reasons that holds, among which a missing token
never is, and otherwise swaps the kitty for its listed price.
-/
theorem buy_is_exact [Inhabited AccountId] {s : Storage AccountId}
    (reachable : Reachable T s) (env : Env) (sender owner : AccountId)
    (kittyId : TokenId) (maxPrice : Balance) :
    BuyResult T s sender owner kittyId maxPrice
        (dispatch T env (.signed sender) (.buy owner kittyId maxPrice) s).1 ∧
      (∀ price, s.kittyPrices kittyId = some price →
        (s.tokens kittyId).isSome) ∧
      ((dispatch T env (.signed sender) (.buy owner kittyId maxPrice) s).1 =
          .ok () →
        ∃ price, s.kittyPrices kittyId = some price ∧ price ≤ maxPrice ∧
          OnlySells s
            (dispatch T env (.signed sender) (.buy owner kittyId maxPrice) s).2
            owner sender kittyId price) := by
  have h : Population s := .of_reachable lawful reachable
  exact ⟨buy_result lawful h sender owner kittyId maxPrice, h.listed kittyId,
    buy_onlySells lawful h⟩

end Trades

theorem buy_is_exact_for_wrong_owner :
    let listed := run (step Mock.config) Mock.genesis
      [Mock.signed 100 .create, Mock.signed 100 (.setPrice 0 (some 400))]
    (dispatch Mock.config (Mock.seeded 0) (.signed 200) (.buy 101 0 500)
      listed).1 = .error (.nft .noPermission) := by
  intro listed
  have hprice : listed.kittyPrices 0 = some 400 := by decide +kernel
  have howner : listed.owner 0 ≠ some 101 := by decide +kernel
  exact (buy_is_exact Mock.config_lawful
    ((Reachable.of_genesis Mock.genesis_isGenesis).run
      [Mock.signed 100 .create, Mock.signed 100 (.setPrice 0 (some 400))])
    (Mock.seeded 0) 200 101 0 500).1.noPermission 400 (by decide) hprice
    (by decide) howner

end SubstrateKitties.Pallet
