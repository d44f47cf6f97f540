import SubstrateKitties.Foundation.Footprint
import SubstrateKitties.Pallet.Mock
import SubstrateKitties.Pallet.Atomicity

/-!
# Footprints of the trading calls

`transfer`, `set_price` and `buy` work on the token, the owner index and the
price of the kitty they name, and a sale also on the balances of buyer and
owner.  All of them read which class the kitties are in, and none writes that.
Trades of different kitties are therefore independent, as long as no account
takes part in two sales.
-/

namespace SubstrateKitties.Pallet

open SubstrateKitties.Foundation
open SubstrateKitties.Foundation.Dispatch

section Cells

variable {AccountId : Type}

inductive Cell (AccountId : Type) where
  | nextClassId
  | nextTokenId (classId : ClassId)
  | classInfo (classId : ClassId)
  | token (classId : ClassId) (tokenId : TokenId)
  | index (who : AccountId) (classId : ClassId) (tokenId : TokenId)
  | price (kittyId : TokenId)
  | classId
  | autoBreedNonce
  | balance (who : AccountId)

def Cell.Val : Cell AccountId → Type
  | .nextClassId => ClassId
  | .nextTokenId _ => TokenId
  | .classInfo _ => Option (ClassInfo AccountId)
  | .token _ _ => Option (TokenInfo AccountId)
  | .index _ _ _ => Bool
  | .price _ => Option Balance
  | .classId => ClassId
  | .autoBreedNonce => UInt32
  | .balance _ => Balance

def Storage.read (s : Storage AccountId) : (cell : Cell AccountId) → cell.Val
  | .nextClassId => s.nft.nextClassId
  | .nextTokenId classId => s.nft.nextTokenId classId
  | .classInfo classId => s.nft.classes classId
  | .token classId tokenId => s.nft.tokens (classId, tokenId)
  | .index who classId tokenId => s.nft.tokensByOwner (who, (classId, tokenId))
  | .price kittyId => s.kittyPrices kittyId
  | .classId => s.classId
  | .autoBreedNonce => s.autoBreedNonce
  | .balance who => s.balances who

/-- The storage cell by cell, with the deposited events as its log. -/
def cells : Cells (Storage AccountId) (Cell AccountId) (Event AccountId)
    Cell.Val where
  read := Storage.read
  log := Storage.events

attribute [ext] NftStorage Storage

theorem Storage.nft_eq_of_read {s s' : Storage AccountId}
    (h : ∀ cell, s.read cell = s'.read cell) : s.nft = s'.nft := by
  apply NftStorage.ext
  · exact h .nextClassId
  · exact funext fun classId => h (.nextTokenId classId)
  · exact funext fun classId => h (.classInfo classId)
  · funext token
    exact h (.token token.1 token.2)
  · funext key
    exact h (.index key.1 key.2.1 key.2.2)

theorem Storage.eq_of_read {s s' : Storage AccountId}
    (h : ∀ cell, s.read cell = s'.read cell) :
    s = { s' with events := s.events } := by
  apply Storage.ext
  · exact Storage.nft_eq_of_read h
  · exact funext fun kittyId => h (.price kittyId)
  · exact h .classId
  · exact h .autoBreedNonce
  · exact funext fun who => h (.balance who)
  · rfl

/-! ## What a trade works on -/

def Cell.ConcernsTrade (kittyId : TokenId) (accounts : Set AccountId) :
    Cell AccountId → Prop
  | .token _ tokenId => tokenId = kittyId
  | .index _ _ tokenId => tokenId = kittyId
  | .price id => id = kittyId
  | .balance who => who ∈ accounts
  | _ => False

def tradeCells (kittyId : TokenId) (accounts : Set AccountId) : Set (Cell AccountId) :=
  {cell | cell.ConcernsTrade kittyId accounts}

abbrev Trades {α : Type} (kittyId : TokenId) (accounts : Set AccountId)
    (m : PalletCall AccountId α) : Prop :=
  cells.Within (tradeCells kittyId accounts) {.classId} m

variable {kittyId : TokenId} {accounts : Set AccountId}

theorem query_classId_trades :
    Trades kittyId accounts
      (query Storage.classId : PalletCall AccountId ClassId) :=
  .query fun _ _ h => h .classId (.inr rfl)

theorem depositEvent_trades (event : Event AccountId) :
    Trades kittyId accounts (depositEvent event) := by
  apply Cells.Within.append
  · intro s cell
    cases cell <;> rfl
  · intro s
    rfl

theorem writePrice_trades (price : Option Balance) :
    Trades kittyId accounts
      (write (fun s => { s with
        kittyPrices := Function.update s.kittyPrices kittyId price }) :
        PalletCall AccountId Unit) := by
  apply Cells.Within.write
  · intro s cell hcell
    cases cell with
    | price id => exact Function.update_of_ne hcell _ _
    | _ => rfl
  · intro s s' h cell hcell
    have hread := h cell (.inl hcell)
    cases cell with
    | price id =>
        cases hcell
        change Function.update _ _ _ _ = Function.update _ _ _ _
        rw [Function.update_self, Function.update_self]
    | _ => exact hread
  · intro s
    rfl

theorem ensureSigned_trades (who : AccountId) :
    Trades kittyId accounts (ensureSigned (.signed who)) := .pure who

/-! ## Moving a token -/

section Move

variable [DecidableEq AccountId]

def Storage.moveToken (s : Storage AccountId) (sender recipient : AccountId)
    (token : ClassId × TokenId) : Storage AccountId :=
  { s with nft := s.nft.moveToken sender recipient token }

theorem read_moveToken_of_notMem (s : Storage AccountId)
    (sender recipient : AccountId) (classId : ClassId) {cell : Cell AccountId}
    (hcell : cell ∉ tradeCells kittyId accounts) :
    (s.moveToken sender recipient (classId, kittyId)).read cell =
      s.read cell := by
  cases cell with
  | token classId' tokenId =>
      have hne : tokenId ≠ kittyId := hcell
      have hkey : (classId', tokenId) ≠ (classId, kittyId) := by simp [hne]
      exact Function.update_of_ne hkey _ _
  | index who classId' tokenId =>
      have hne : tokenId ≠ kittyId := hcell
      have hkey : ∀ account : AccountId,
          (who, (classId', tokenId)) ≠ (account, (classId, kittyId)) := by
        simp [hne]
      exact (Function.update_of_ne (hkey recipient) _ _).trans
        (Function.update_of_ne (hkey sender) _ _)
  | _ => rfl

theorem agree_moveToken {s s' : Storage AccountId} (sender recipient : AccountId)
    (classId : ClassId)
    (h : cells.Agree (tradeCells kittyId accounts ∪ {.classId}) s s') :
    cells.Agree (tradeCells kittyId accounts)
      (s.moveToken sender recipient (classId, kittyId))
      (s'.moveToken sender recipient (classId, kittyId)) := by
  intro cell hcell
  have hread := h cell (.inl hcell)
  cases cell with
  | token classId' tokenId =>
      have htoken : s.nft.tokens (classId, kittyId) =
          s'.nft.tokens (classId, kittyId) := h (.token classId kittyId) (.inl rfl)
      change Function.update _ _ _ _ = Function.update _ _ _ _
      simp only [Function.update_apply, htoken]
      split
      · rfl
      · exact hread
  | index who classId' tokenId =>
      change Function.update _ _ _ _ = Function.update _ _ _ _
      simp only [Function.update_apply]
      split
      · rfl
      · split
        · rfl
        · exact hread
  | _ => exact hread

variable {T : Config AccountId} (lawful : T.nft.Lawful)

include lawful

theorem nft_transfer_cases {nft nft' : NftStorage AccountId}
    {token : ClassId × TokenId} (h : nft.tokens token = nft'.tokens token)
    (sender recipient : AccountId) :
    (∃ result, T.nft.transfer sender recipient token nft = (result, nft) ∧
      T.nft.transfer sender recipient token nft' = (result, nft')) ∨
    (T.nft.transfer sender recipient token nft =
        (.ok (), nft.moveToken sender recipient token) ∧
      T.nft.transfer sender recipient token nft' =
        (.ok (), nft'.moveToken sender recipient token)) := by
  cases hinfo : nft.tokens token with
  | none =>
      rw [hinfo] at h
      exact .inl ⟨_, lawful.transfer_missing _ _ _ _ hinfo,
        lawful.transfer_missing _ _ _ _ h.symm⟩
  | some info =>
      rw [hinfo] at h
      by_cases howner : info.owner = sender
      · by_cases hself : sender = recipient
        · subst hself
          exact .inl ⟨_, lawful.transfer_self _ _ _ info hinfo howner,
            lawful.transfer_self _ _ _ info h.symm howner⟩
        · exact .inr
            ⟨lawful.transfer_ok _ _ _ _ info hinfo howner hself,
              lawful.transfer_ok _ _ _ _ info h.symm howner hself⟩
      · exact .inl ⟨_, lawful.transfer_not_owner _ _ _ _ info hinfo howner,
          lawful.transfer_not_owner _ _ _ _ info h.symm howner⟩

theorem callNft_transfer_trades (sender recipient : AccountId)
    (classId : ClassId) :
    Trades kittyId accounts
      (callNft (T.nft.transfer sender recipient (classId, kittyId))) := by
  constructor
  · intro s cell hcell
    have htoken : s.nft.tokens (classId, kittyId) =
        s.nft.tokens (classId, kittyId) := rfl
    simp only [callNft, zoom]
    rcases nft_transfer_cases lawful htoken sender recipient with
      ⟨result, hkept, -⟩ | ⟨hmoved, -⟩
    · rw [hkept]
    · rw [hmoved]
      exact read_moveToken_of_notMem s sender recipient classId hcell
  · intro s s' h
    have htoken : s.nft.tokens (classId, kittyId) =
        s'.nft.tokens (classId, kittyId) := h (.token classId kittyId) (.inl rfl)
    simp only [callNft, zoom]
    rcases nft_transfer_cases lawful htoken sender recipient with
      ⟨result, hkept, hkept'⟩ | ⟨hmoved, hmoved'⟩
    · rw [hkept, hkept']
      exact ⟨rfl, h.mono Set.subset_union_left, .refl s s'⟩
    · rw [hmoved, hmoved']
      exact ⟨rfl, agree_moveToken sender recipient classId h, [], by simp [cells],
        by simp [cells]⟩

end Move

/-! ## Paying -/

theorem callCurrency_transfer_trades {T : Config AccountId}
    (payments : T.currency.Local) {sender recipient : AccountId}
    (hsender : sender ∈ accounts) (hrecipient : recipient ∈ accounts)
    (amount : Balance) :
    Trades kittyId accounts
      (callCurrency (T.currency.transfer sender recipient amount .keepAlive)) := by
  constructor
  · intro s cell hcell
    cases cell with
    | balance who =>
        have hwho : ∀ account ∈ accounts, who ≠ account := by
          rintro account haccount rfl
          exact hcell haccount
        exact payments.others _ _ _ _ _ (hwho sender hsender)
          (hwho recipient hrecipient)
    | _ => rfl
  · intro s s' h
    have hs : s.balances sender = s'.balances sender :=
      h (.balance sender) (.inl hsender)
    have hr : s.balances recipient = s'.balances recipient :=
      h (.balance recipient) (.inl hrecipient)
    refine ⟨payments.result _ _ _ _ _ hs hr, fun cell hcell => ?_, [], ?_, ?_⟩
    · have hread := h cell (.inl hcell)
      cases cell with
      | balance who =>
          by_cases hwho : who = sender ∨ who = recipient
          · exact payments.both _ _ _ _ _ _ hs hr hwho
          · obtain ⟨hwho₁, hwho₂⟩ := not_or.mp hwho
            change (T.currency.transfer sender recipient amount .keepAlive
              s.balances).2 who = (T.currency.transfer sender recipient amount
                .keepAlive s'.balances).2 who
            rw [payments.others _ _ _ _ _ hwho₁ hwho₂,
              payments.others _ _ _ _ _ hwho₁ hwho₂]
            exact hread
      | _ => exact hread
    · simp [cells, callCurrency, zoom]
    · simp [cells, callCurrency, zoom]

/-! ## The calls -/

variable [DecidableEq AccountId] {T : Config AccountId} {env : Env}

theorem transfer_trades (lawful : T.nft.Lawful) (sender recipient : AccountId) :
    Trades kittyId accounts (transfer T (.signed sender) recipient kittyId) := by
  refine (ensureSigned_trades sender).bind fun who => ?_
  refine query_classId_trades.bind fun classId => ?_
  refine (callNft_transfer_trades lawful who recipient classId).bind fun _ => ?_
  split
  · exact (writePrice_trades none).bind fun _ => depositEvent_trades _
  · exact .pure ()

omit [DecidableEq AccountId] in
theorem setPrice_trades (sender : AccountId) (price : Option Balance) :
    Trades kittyId accounts (setPrice (.signed sender) kittyId price) := by
  refine (ensureSigned_trades sender).bind fun who => ?_
  refine Cells.Within.bind (.query fun s s' h => ?_) fun isOwner => ?_
  · have hclass : s.classId = s'.classId := h .classId (.inr rfl)
    rw [← hclass]
    exact h (.index who s.classId kittyId) (.inl rfl)
  · refine (Cells.Within.ensure _ _).bind fun _ => ?_
    exact (writePrice_trades price).bind fun _ => depositEvent_trades _

theorem buy_trades (lawful : T.nft.Lawful) (payments : T.currency.Local)
    {sender owner : AccountId} (hsender : sender ∈ accounts)
    (howner : owner ∈ accounts) (maxPrice : Balance) :
    Trades kittyId accounts (buy T (.signed sender) owner kittyId maxPrice) := by
  apply Cells.Within.transactional
  change Trades kittyId accounts (ensure (sender ≠ owner) _ >>= _)
  refine (Cells.Within.ensure _ _).bind fun _ => ?_
  refine .tryMutateExists (fun s s' h => h (.price kittyId) (.inl rfl))
    writePrice_trades fun price => ?_
  refine (Cells.Within.okOr _ _).bind fun price => ?_
  refine (Cells.Within.ensure _ _).bind fun _ => ?_
  refine query_classId_trades.bind fun classId => ?_
  refine (callNft_transfer_trades lawful owner sender classId).bind fun _ => ?_
  refine (callCurrency_transfer_trades payments hsender howner price).bind
    fun _ => ?_
  exact (depositEvent_trades _).bind fun _ => .pure _

/-! ## Independence -/

def Call.tradedKitty : Call AccountId → Option TokenId
  | .transfer _ kittyId => some kittyId
  | .setPrice kittyId _ => some kittyId
  | .buy _ kittyId _ => some kittyId
  | _ => none

/-- The accounts between which the call may move money. -/
def Call.payers (signer : AccountId) : Call AccountId → Set AccountId
  | .buy owner _ _ => {signer, owner}
  | _ => ∅

theorem dispatch_trades (lawful : T.nft.Lawful) (payments : T.currency.Local)
    (env : Env) (signer : AccountId) {call : Call AccountId}
    (h : call.tradedKitty = some kittyId) :
    Trades kittyId (call.payers signer) (dispatch T env (.signed signer) call) := by
  cases call with
  | transfer recipient id =>
      cases h
      exact transfer_trades lawful signer recipient
  | setPrice id price =>
      cases h
      exact setPrice_trades signer price
  | buy owner id maxPrice =>
      cases h
      exact buy_trades lawful payments (.inl rfl) (.inr rfl) maxPrice
  | _ => cases h

omit [DecidableEq AccountId] in
theorem tradeCells_disjoint {kittyId' : TokenId} {accounts' : Set AccountId}
    (hkitty : kittyId ≠ kittyId') (haccounts : Disjoint accounts accounts') :
    Disjoint (tradeCells kittyId accounts)
      (tradeCells kittyId' accounts' ∪ {.classId}) := by
  rw [Set.disjoint_left]
  rintro cell hcell (hcell' | rfl)
  · cases cell with
    | token classId tokenId => exact hkitty (hcell.symm.trans hcell')
    | index who classId tokenId => exact hkitty (hcell.symm.trans hcell')
    | price id => exact hkitty (hcell.symm.trans hcell')
    | balance who => exact Set.disjoint_left.mp haccounts hcell hcell'
    | _ => exact hcell
  · exact hcell

/--
Trades of different kitties, of which no two are sales with an account in
common, can be made in either order.
-/
theorem trades_commute (lawful : T.nft.Lawful) (payments : T.currency.Local)
    (s : Storage AccountId) (env₁ env₂ : Env) (signer₁ signer₂ : AccountId)
    (call₁ call₂ : Call AccountId) {kittyId₁ kittyId₂ : TokenId}
    (trade₁ : call₁.tradedKitty = some kittyId₁)
    (trade₂ : call₂.tradedKitty = some kittyId₂) (other : kittyId₁ ≠ kittyId₂)
    (apart : Disjoint (call₁.payers signer₁) (call₂.payers signer₂)) :
    let first := dispatch T env₁ (.signed signer₁) call₁
    let second := dispatch T env₂ (.signed signer₂) call₂
    let s₁₂ := (second (first s).2).2
    let s₂₁ := (first (second s).2).2
    (second (first s).2).1 = (second s).1 ∧
      (first (second s).2).1 = (first s).1 ∧
      s₁₂ = { s₂₁ with events := s₁₂.events } ∧
      s₁₂.events.Perm s₂₁.events := by
  intro first second s₁₂ s₂₁
  obtain ⟨hsecond, hfirst, hcells, hevents⟩ :=
    (dispatch_trades lawful payments env₁ signer₁ trade₁).commute
      (dispatch_trades lawful payments env₂ signer₂ trade₂)
      (tradeCells_disjoint other apart)
      (tradeCells_disjoint other.symm apart.symm) s
  exact ⟨hsecond, hfirst, Storage.eq_of_read hcells, hevents⟩

end Cells

theorem trades_commute_in_can_buy :
    let listed := run (step Mock.config) Mock.genesis
      [Mock.signed 100 .create, Mock.signed 100 .create,
        Mock.signed 100 (.setPrice 0 (some 400))]
    let sale := dispatch Mock.config (Mock.seeded 0) (.signed 200) (.buy 100 0 500)
    let pricing := dispatch Mock.config (Mock.seeded 0) (.signed 100)
      (.setPrice 1 (some 600))
    (pricing (sale listed).2).1 = (pricing listed).1 ∧
      (sale (pricing listed).2).1 = (sale listed).1 := by
  intro listed sale pricing
  have hnft : Mock.config.nft.Lawful := Mock.ormlNft_lawful
  have hpayments : Mock.config.currency.Local := Mock.balances_local
  have happart : Disjoint (Call.payers (200 : Mock.AccountId) (.buy 100 0 500))
      (Call.payers 100 (.setPrice 1 (some 600))) := Set.disjoint_empty _
  have hcommute := trades_commute hnft hpayments listed (Mock.seeded 0)
    (Mock.seeded 0) 200 100 (.buy 100 0 500) (.setPrice 1 (some 600)) rfl rfl
    (by decide) happart
  exact ⟨hcommute.1, hcommute.2.1⟩

end SubstrateKitties.Pallet
