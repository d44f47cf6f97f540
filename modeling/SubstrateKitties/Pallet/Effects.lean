import SubstrateKitties.Pallet.Calls

/-!
# What a successful call does

`Effect` is the transition relation of the pallet: one constructor for each way
a call succeeds, with the guards that let it through and the storage it leaves.
`dispatch_eq_ok` says that the calls implement exactly this relation, so that
everything about successful calls is proved by cases on `Effect`.
-/

namespace SubstrateKitties.Pallet

open SubstrateKitties.Foundation
open SubstrateKitties.Foundation.Dispatch

section Effects

variable {AccountId : Type} [DecidableEq AccountId]

namespace Storage

def nextTokenId (s : Storage AccountId) : TokenId := s.nft.nextTokenId s.classId

@[simps]
def born (s : Storage AccountId) (owner : AccountId) (kitty : Kitty)
    (event : Event AccountId) : Storage AccountId :=
  { s with
    nft := s.nft.insertToken owner s.classId kitty
    events := s.events ++ [event] }

@[simps]
def moved (s : Storage AccountId) (sender recipient : AccountId)
    (kittyId : TokenId) : Storage AccountId :=
  { s with
    nft := s.nft.moveToken sender recipient (s.classId, kittyId)
    kittyPrices := Function.update s.kittyPrices kittyId none
    events := s.events ++ [.kittyTransferred sender recipient kittyId] }

@[simps]
def priced (s : Storage AccountId) (owner : AccountId) (kittyId : TokenId)
    (price : Option Balance) : Storage AccountId :=
  { s with
    kittyPrices := Function.update s.kittyPrices kittyId price
    events := s.events ++ [.kittyPriceUpdated owner kittyId price] }

@[simps]
def sold (s : Storage AccountId) (owner buyer : AccountId) (kittyId : TokenId)
    (price : Balance) (balances : AccountId → Balance) : Storage AccountId :=
  { s with
    nft := s.nft.moveToken owner buyer (s.classId, kittyId)
    kittyPrices := Function.update s.kittyPrices kittyId none
    balances := balances
    events := s.events ++ [.kittySold owner buyer kittyId price] }

theorem born_tokens (s : Storage AccountId) (owner : AccountId) (kitty : Kitty)
    (event : Event AccountId) (kittyId : TokenId) :
    (s.born owner kitty event).tokens kittyId =
      if kittyId = s.nextTokenId then
        some { metadata := [], owner, data := kitty }
      else s.tokens kittyId := by
  by_cases h : kittyId = s.nextTokenId
  · subst h
    simp [tokens, nextTokenId]
  · have hkey : (s.classId, kittyId) ≠ (s.classId, s.nextTokenId) := by
      simpa using h
    rw [if_neg h]
    exact Function.update_of_ne hkey _ _

theorem born_tokensByOwner (s : Storage AccountId) (owner : AccountId)
    (kitty : Kitty) (event : Event AccountId) (who : AccountId)
    (kittyId : TokenId) :
    (s.born owner kitty event).nft.tokensByOwner (who, (s.classId, kittyId)) =
        true ↔
      (who = owner ∧ kittyId = s.nextTokenId) ∨
        s.nft.tokensByOwner (who, (s.classId, kittyId)) = true := by
  simp [Function.update_apply, nextTokenId]

theorem kitties_eq_some {s : Storage AccountId} {owner : AccountId}
    {kittyId : TokenId} {kitty : Kitty} :
    s.kitties owner kittyId = some kitty ↔
      ∃ info, s.tokens kittyId = some info ∧ info.owner = owner ∧
        info.data = kitty := by
  simp [kitties, Option.bind_eq_some_iff]

end Storage

structure HandsOver (s s' : Storage AccountId) (sender recipient : AccountId)
    (kittyId : TokenId) : Prop where
  nft : s'.nft = s.nft.moveToken sender recipient (s.classId, kittyId)
  classId : s'.classId = s.classId
  kittyPrices : s'.kittyPrices = Function.update s.kittyPrices kittyId none

namespace HandsOver

theorem moved (s : Storage AccountId) (sender recipient : AccountId)
    (kittyId : TokenId) :
    HandsOver s (s.moved sender recipient kittyId) sender recipient kittyId :=
  ⟨rfl, rfl, rfl⟩

theorem sold (s : Storage AccountId) (owner buyer : AccountId)
    (kittyId : TokenId) (price : Balance) (balances : AccountId → Balance) :
    HandsOver s (s.sold owner buyer kittyId price balances) owner buyer
      kittyId :=
  ⟨rfl, rfl, rfl⟩

variable {s s' : Storage AccountId} {sender recipient : AccountId}
  {kittyId : TokenId} (h : HandsOver s s' sender recipient kittyId)

include h

theorem tokens (other : TokenId) :
    s'.tokens other =
      if other = kittyId then
        (s.tokens kittyId).map fun info => { info with owner := recipient }
      else s.tokens other := by
  rw [Storage.tokens, h.nft, h.classId, NftStorage.moveToken_tokens]
  by_cases hid : other = kittyId
  · subst hid
    simp [Storage.tokens]
  · have hkey : (s.classId, other) ≠ (s.classId, kittyId) := by
      simpa using hid
    rw [if_neg hid, Function.update_of_ne hkey]
    rfl

theorem tokensByOwner (who : AccountId) (other : TokenId) :
    s'.nft.tokensByOwner (who, (s.classId, other)) = true ↔
      if other = kittyId then
        who = recipient ∨ (who ≠ sender ∧
          s.nft.tokensByOwner (who, (s.classId, other)) = true)
      else s.nft.tokensByOwner (who, (s.classId, other)) = true := by
  rw [h.nft, NftStorage.moveToken_tokensByOwner]
  by_cases hid : other = kittyId
  · subst hid
    simp [Function.update_apply]
  · simp [hid]

theorem nextTokenId : s'.nextTokenId = s.nextTokenId := by
  simp [Storage.nextTokenId, h.nft, h.classId]

theorem isSome_tokens (other : TokenId) :
    (s'.tokens other).isSome = (s.tokens other).isSome := by
  rw [h.tokens]
  by_cases hid : other = kittyId <;> simp [hid]

end HandsOver

variable (T : Config AccountId) (env : Env)

def kitten (owner : AccountId) (kitty1 kitty2 : Kitty) : Kitty :=
  ⟨newDna kitty1.dna kitty2.dna (randomValue T env owner)⟩

inductive Effect (s : Storage AccountId) :
    Origin AccountId → Call AccountId → Storage AccountId → Prop where
  | create (sender : AccountId) (room : s.nft.CanMint s.classId) :
      Effect s (.signed sender) .create
        (s.born sender ⟨randomValue T env sender⟩
          (.kittyCreated sender s.nextTokenId ⟨randomValue T env sender⟩))
  | breed (sender : AccountId) (kittyId1 kittyId2 : TokenId)
      (kitty1 kitty2 : Kitty)
      (owned1 : s.kitties sender kittyId1 = some kitty1)
      (owned2 : s.kitties sender kittyId2 = some kitty2)
      (genders : kitty1.gender ≠ kitty2.gender)
      (room : s.nft.CanMint s.classId) :
      Effect s (.signed sender) (.breed kittyId1 kittyId2)
        (s.born sender (kitten T env sender kitty1 kitty2)
          (.kittyBred sender s.nextTokenId (kitten T env sender kitty1 kitty2)))
  | transferSelf (sender : AccountId) (kittyId : TokenId)
      (info : TokenInfo AccountId) (token : s.tokens kittyId = some info)
      (owned : info.owner = sender) :
      Effect s (.signed sender) (.transfer sender kittyId) s
  | transfer (sender recipient : AccountId) (kittyId : TokenId)
      (info : TokenInfo AccountId) (token : s.tokens kittyId = some info)
      (owned : info.owner = sender) (other : sender ≠ recipient) :
      Effect s (.signed sender) (.transfer recipient kittyId)
        (s.moved sender recipient kittyId)
  | setPrice (sender : AccountId) (kittyId : TokenId) (price : Option Balance)
      (indexed : s.nft.tokensByOwner (sender, (s.classId, kittyId)) = true) :
      Effect s (.signed sender) (.setPrice kittyId price)
        (s.priced sender kittyId price)
  | buy (sender owner : AccountId) (kittyId : TokenId)
      (maxPrice price : Balance) (info : TokenInfo AccountId)
      (balances : AccountId → Balance) (other : sender ≠ owner)
      (listed : s.kittyPrices kittyId = some price) (enough : price ≤ maxPrice)
      (token : s.tokens kittyId = some info) (owned : info.owner = owner)
      (paid : T.currency.transfer sender owner price .keepAlive s.balances =
        (.ok (), balances)) :
      Effect s (.signed sender) (.buy owner kittyId maxPrice)
        (s.sold owner sender kittyId price balances)
  | autoBreed (kittyId1 kittyId2 : TokenId) (nonce : UInt32)
      (solution : BitVec 128) (info1 info2 : TokenInfo AccountId)
      (token1 : s.tokens kittyId1 = some info1)
      (token2 : s.tokens kittyId2 = some info2)
      (genders : info1.data.gender ≠ info2.data.gender)
      (room : s.nft.CanMint s.classId) :
      Effect s .none (.autoBreed kittyId1 kittyId2 nonce solution)
        (s.born info1.owner (kitten T env info1.owner info1.data info2.data)
          (.kittyBred info1.owner s.nextTokenId
            (kitten T env info1.owner info1.data info2.data)))

/-! ## The calls implement the relation -/

omit [DecidableEq AccountId] in
theorem ensureSigned_eq_ok {origin : Origin AccountId} {who : AccountId}
    {s s' : Storage AccountId} :
    ensureSigned origin s = (.ok who, s') ↔ origin = .signed who ∧ s = s' := by
  cases origin <;> simp [ensureSigned]

omit [DecidableEq AccountId] in
theorem ensureNone_eq_ok {origin : Origin AccountId} {u : Unit}
    {s s' : Storage AccountId} :
    ensureNone origin s = (.ok u, s') ↔ origin = .none ∧ s = s' := by
  cases origin <;> simp [ensureNone]

variable {T env} (lawful : T.Lawful)

include lawful

theorem callNft_mint_eq_ok {s s' : Storage AccountId} {owner : AccountId}
    {kitty : Kitty} {id : TokenId} :
    callNft (T.nft.mint owner s.classId [] kitty) s = (.ok id, s') ↔
      s.nft.CanMint s.classId ∧ s.nextTokenId = id ∧
        { s with nft := s.nft.insertToken owner s.classId kitty } = s' := by
  simp only [callNft, zoom_eq_ok, lawful.nft.mint_eq_ok]
  constructor
  · rintro ⟨nft, ⟨room, hid, rfl⟩, hs⟩
    exact ⟨room, hid, hs⟩
  · rintro ⟨room, hid, hs⟩
    exact ⟨_, ⟨room, hid, rfl⟩, hs⟩

theorem create_eq_ok {origin : Origin AccountId} {s s' : Storage AccountId}
    {u : Unit} :
    create T env origin s = (.ok u, s') ↔
      ∃ sender, origin = .signed sender ∧ s.nft.CanMint s.classId ∧
        s.born sender ⟨randomValue T env sender⟩
          (.kittyCreated sender s.nextTokenId ⟨randomValue T env sender⟩) =
            s' := by
  simp [create, ensureSigned_eq_ok, callNft_mint_eq_ok lawful, depositEvent,
    Storage.born]

theorem doBreed_eq_ok {owner : AccountId} {kitty1 kitty2 : Kitty}
    {s s' : Storage AccountId} {u : Unit} :
    doBreed T env owner kitty1 kitty2 s = (.ok u, s') ↔
      kitty1.gender ≠ kitty2.gender ∧ s.nft.CanMint s.classId ∧
        s.born owner (kitten T env owner kitty1 kitty2)
          (.kittyBred owner s.nextTokenId (kitten T env owner kitty1 kitty2)) =
            s' := by
  simp [doBreed, callNft_mint_eq_ok lawful, depositEvent, Storage.born, kitten]

theorem breed_eq_ok {origin : Origin AccountId} {kittyId1 kittyId2 : TokenId}
    {s s' : Storage AccountId} {u : Unit} :
    breed T env origin kittyId1 kittyId2 s = (.ok u, s') ↔
      ∃ sender kitty1 kitty2, origin = .signed sender ∧
        s.kitties sender kittyId1 = some kitty1 ∧
        s.kitties sender kittyId2 = some kitty2 ∧
        kitty1.gender ≠ kitty2.gender ∧ s.nft.CanMint s.classId ∧
        s.born sender (kitten T env sender kitty1 kitty2)
          (.kittyBred sender s.nextTokenId
            (kitten T env sender kitty1 kitty2)) = s' := by
  simp only [breed, bind_eq_ok, ensureSigned_eq_ok, query_eq_ok, okOr_eq_ok,
    doBreed_eq_ok lawful]
  constructor
  · rintro ⟨sender, _, ⟨horigin, rfl⟩, _, _, ⟨rfl, rfl⟩, kitty1, _, ⟨h1, rfl⟩,
      _, _, ⟨rfl, rfl⟩, kitty2, _, ⟨h2, rfl⟩, h⟩
    exact ⟨sender, kitty1, kitty2, horigin, h1, h2, h⟩
  · rintro ⟨sender, kitty1, kitty2, horigin, h1, h2, h⟩
    exact ⟨sender, s, ⟨horigin, rfl⟩, _, s, ⟨rfl, rfl⟩, kitty1, s, ⟨h1, rfl⟩,
      _, s, ⟨rfl, rfl⟩, kitty2, s, ⟨h2, rfl⟩, h⟩

theorem autoBreed_eq_ok (nonce : UInt32) (solution : BitVec 128)
    {origin : Origin AccountId} {kittyId1 kittyId2 : TokenId}
    {s s' : Storage AccountId} {u : Unit} :
    autoBreed T env origin kittyId1 kittyId2 nonce solution s = (.ok u, s') ↔
      ∃ info1 info2, origin = .none ∧
        s.tokens kittyId1 = some info1 ∧ s.tokens kittyId2 = some info2 ∧
        info1.data.gender ≠ info2.data.gender ∧ s.nft.CanMint s.classId ∧
        s.born info1.owner (kitten T env info1.owner info1.data info2.data)
          (.kittyBred info1.owner s.nextTokenId
            (kitten T env info1.owner info1.data info2.data)) = s' := by
  simp only [autoBreed, bind_eq_ok, ensureNone_eq_ok, query_eq_ok, okOr_eq_ok,
    doBreed_eq_ok lawful]
  constructor
  · rintro ⟨_, _, ⟨horigin, rfl⟩, _, _, ⟨rfl, rfl⟩, info1, _, ⟨h1, rfl⟩,
      _, _, ⟨rfl, rfl⟩, info2, _, ⟨h2, rfl⟩, h⟩
    exact ⟨info1, info2, horigin, h1, h2, h⟩
  · rintro ⟨info1, info2, horigin, h1, h2, h⟩
    exact ⟨(), s, ⟨horigin, rfl⟩, _, s, ⟨rfl, rfl⟩, info1, s, ⟨h1, rfl⟩,
      _, s, ⟨rfl, rfl⟩, info2, s, ⟨h2, rfl⟩, h⟩

theorem callNft_transfer_eq_ok {s s' : Storage AccountId}
    {sender recipient : AccountId} {kittyId : TokenId} {u : Unit} :
    callNft (T.nft.transfer sender recipient (s.classId, kittyId)) s =
        (.ok u, s') ↔
      ∃ info, s.tokens kittyId = some info ∧ info.owner = sender ∧
        { s with nft := if sender = recipient then s.nft
            else s.nft.moveToken sender recipient (s.classId, kittyId) } =
          s' := by
  simp only [callNft, zoom_eq_ok, lawful.nft.transfer_eq_ok]
  constructor
  · rintro ⟨_, ⟨info, htoken, howner, rfl⟩, hs⟩
    exact ⟨info, htoken, howner, hs⟩
  · rintro ⟨info, htoken, howner, hs⟩
    exact ⟨_, ⟨info, htoken, howner, rfl⟩, hs⟩

theorem transfer_eq_ok {origin : Origin AccountId} {recipient : AccountId}
    {kittyId : TokenId} {s s' : Storage AccountId} {u : Unit} :
    transfer T origin recipient kittyId s = (.ok u, s') ↔
      ∃ sender info, origin = .signed sender ∧
        s.tokens kittyId = some info ∧ info.owner = sender ∧
        (if sender = recipient then s else s.moved sender recipient kittyId) =
          s' := by
  simp only [transfer, bind_eq_ok, ensureSigned_eq_ok, query_eq_ok,
    depositEvent]
  constructor
  · rintro ⟨sender, _, ⟨horigin, rfl⟩, _, _, ⟨rfl, rfl⟩, _, _, hnft, hrest⟩
    obtain ⟨info, htoken, howner, rfl⟩ :=
      (callNft_transfer_eq_ok lawful).mp hnft
    refine ⟨sender, info, horigin, htoken, howner, ?_⟩
    by_cases hself : sender = recipient
    · simpa [hself] using hrest
    · simpa [hself, Storage.moved] using hrest
  · rintro ⟨sender, info, horigin, htoken, howner, hs⟩
    refine ⟨sender, s, ⟨horigin, rfl⟩, s.classId, s, ⟨rfl, rfl⟩, (), _,
      (callNft_transfer_eq_ok lawful).mpr ⟨info, htoken, howner, rfl⟩, ?_⟩
    by_cases hself : sender = recipient
    · simpa [hself] using hs
    · simpa [hself, Storage.moved] using hs

omit lawful in
omit [DecidableEq AccountId] in
theorem setPrice_eq_ok {origin : Origin AccountId} {kittyId : TokenId}
    {price : Option Balance} {s s' : Storage AccountId} {u : Unit} :
    setPrice origin kittyId price s = (.ok u, s') ↔
      ∃ sender, origin = .signed sender ∧
        s.nft.tokensByOwner (sender, (s.classId, kittyId)) = true ∧
        s.priced sender kittyId price = s' := by
  simp [setPrice, ensureSigned_eq_ok, depositEvent, Storage.priced]

theorem buy_eq_ok {origin : Origin AccountId} {owner : AccountId}
    {kittyId : TokenId} {maxPrice : Balance} {s s' : Storage AccountId}
    {u : Unit} :
    buy T origin owner kittyId maxPrice s = (.ok u, s') ↔
      ∃ sender price info balances, origin = .signed sender ∧
        sender ≠ owner ∧ s.kittyPrices kittyId = some price ∧
        price ≤ maxPrice ∧ s.tokens kittyId = some info ∧
        info.owner = owner ∧
        T.currency.transfer sender owner price .keepAlive s.balances =
          (.ok (), balances) ∧
        s.sold owner sender kittyId price balances = s' := by
  simp only [buy, transactional_eq_ok, tryMutateExists, bind_eq_ok,
    ensureSigned_eq_ok, ensure_eq_ok, query_eq_ok, okOr_eq_ok, depositEvent]
  constructor
  · rintro ⟨sender, _, ⟨horigin, rfl⟩, _, _, ⟨hother, rfl⟩, hsale⟩
    obtain ⟨_, _, ⟨rfl, rfl⟩, _, _, hmutate, hrest⟩ := hsale
    obtain ⟨price, _, ⟨hlisted, rfl⟩, _, _, ⟨henough, rfl⟩, hmutate⟩ := hmutate
    obtain ⟨_, _, ⟨rfl, rfl⟩, _, _, hnft, _, _, hcurrency, hdone⟩ := hmutate
    obtain ⟨info, htoken, howner, rfl⟩ :=
      (callNft_transfer_eq_ok lawful).mp hnft
    obtain ⟨balances, hpaid, rfl⟩ := zoom_eq_ok.mp hcurrency
    refine ⟨sender, price, info, balances, horigin, hother, hlisted, henough,
      htoken, howner, hpaid, ?_⟩
    simp only [write_eq_ok, pure_eq_ok] at hdone hrest
    obtain ⟨_, _, rfl, rfl, rfl⟩ := hdone
    obtain ⟨_, _, rfl, -, rfl⟩ := hrest
    simp [Storage.sold, Ne.symm hother]
  · rintro ⟨sender, price, info, balances, horigin, hother, hlisted, henough,
      htoken, howner, hpaid, rfl⟩
    refine ⟨sender, s, ⟨horigin, rfl⟩, (), s, ⟨hother, rfl⟩, _, s, ⟨rfl, rfl⟩,
      ((), none), _, ⟨price, s, ⟨hlisted, rfl⟩, (), s, ⟨henough, rfl⟩,
      s.classId, s, ⟨rfl, rfl⟩, (), _,
      (callNft_transfer_eq_ok lawful).mpr ⟨info, htoken, howner, rfl⟩, (), _,
      zoom_eq_ok.mpr ⟨balances, hpaid, rfl⟩, (), _, rfl, rfl⟩, ?_⟩
    simp [Storage.sold, Ne.symm hother]

theorem dispatch_eq_ok {origin : Origin AccountId} {call : Call AccountId}
    {s s' : Storage AccountId} {u : Unit} :
    dispatch T env origin call s = (.ok u, s') ↔
      Effect T env s origin call s' := by
  constructor
  · intro h
    cases call with
    | create =>
        obtain ⟨sender, rfl, room, rfl⟩ := (create_eq_ok lawful).mp h
        exact .create sender room
    | breed kittyId1 kittyId2 =>
        obtain ⟨sender, kitty1, kitty2, rfl, owned1, owned2, genders, room,
          rfl⟩ := (breed_eq_ok lawful).mp h
        exact .breed sender kittyId1 kittyId2 kitty1 kitty2 owned1 owned2
          genders room
    | transfer recipient kittyId =>
        obtain ⟨sender, info, rfl, token, owned, rfl⟩ :=
          (transfer_eq_ok lawful).mp h
        by_cases hself : sender = recipient
        · subst hself
          rw [if_pos rfl]
          exact .transferSelf sender kittyId info token owned
        · rw [if_neg hself]
          exact .transfer sender recipient kittyId info token owned hself
    | setPrice kittyId price =>
        obtain ⟨sender, rfl, indexed, rfl⟩ := setPrice_eq_ok.mp h
        exact .setPrice sender kittyId price indexed
    | buy owner kittyId maxPrice =>
        obtain ⟨sender, price, info, balances, rfl, other, listed, enough,
          token, owned, paid, rfl⟩ := (buy_eq_ok lawful).mp h
        exact .buy sender owner kittyId maxPrice price info balances other
          listed enough token owned paid
    | autoBreed kittyId1 kittyId2 nonce solution =>
        obtain ⟨info1, info2, rfl, token1, token2, genders, room, rfl⟩ :=
          (autoBreed_eq_ok lawful nonce solution).mp h
        exact .autoBreed kittyId1 kittyId2 nonce solution info1 info2 token1
          token2 genders room
  · intro h
    cases h with
    | create sender room => exact (create_eq_ok lawful).mpr ⟨sender, rfl, room, rfl⟩
    | breed sender kittyId1 kittyId2 kitty1 kitty2 owned1 owned2 genders room =>
        exact (breed_eq_ok lawful).mpr
          ⟨sender, kitty1, kitty2, rfl, owned1, owned2, genders, room, rfl⟩
    | transferSelf sender kittyId info token owned =>
        exact (transfer_eq_ok lawful).mpr
          ⟨sender, info, rfl, token, owned, if_pos rfl⟩
    | transfer sender recipient kittyId info token owned other =>
        exact (transfer_eq_ok lawful).mpr
          ⟨sender, info, rfl, token, owned, if_neg other⟩
    | setPrice sender kittyId price indexed =>
        exact setPrice_eq_ok.mpr ⟨sender, rfl, indexed, rfl⟩
    | buy sender owner kittyId maxPrice price info balances other listed enough
        token owned paid =>
        exact (buy_eq_ok lawful).mpr ⟨sender, price, info, balances, rfl, other,
          listed, enough, token, owned, paid, rfl⟩
    | autoBreed kittyId1 kittyId2 nonce solution info1 info2 token1 token2
        genders room =>
        exact (autoBreed_eq_ok lawful nonce solution).mpr
          ⟨info1, info2, rfl, token1, token2, genders, room, rfl⟩

end Effects

end SubstrateKitties.Pallet
