import SubstrateKitties.Foundation.Refinement
import SubstrateKitties.Market.Rules
import SubstrateKitties.Runs.Births
import SubstrateKitties.Runs.Trades

/-!
# The pallet refines the market

The pallet spreads a kitty over the tokens and the index of `orml_nft`, its own
price map and two counters.  Every step of the chain is the step of the market
that the storage represents: the same outcome, with the same error, and a
storage that represents the next market.
-/

namespace SubstrateKitties.Pallet

open SubstrateKitties.Foundation
open SubstrateKitties.Foundation.Dispatch

section MarketRefinement

variable {AccountId : Type}

def Config.rules (T : Config AccountId) : Rules AccountId where
  draw := fun env who => randomValue T env who
  solves := validateSolution T
  pay sender recipient amount balances :=
    match T.currency.transfer sender recipient amount .keepAlive balances with
    | (.ok _, balances') => .ok balances'
    | (.error error, _) => .error error

structure Represents (s : Storage AccountId) (M : Market AccountId) : Prop where
  population : Population s
  size : s.nextTokenId.toNat = M.rows.length
  rows : ∀ kittyId, s.table kittyId = M.find kittyId
  proofs : s.autoBreedNonce = counter M.proofs
  balances : s.balances = M.balances
  log : s.events = M.log

/-- A call on `s` and a request to the market end in the same way. -/
inductive Agrees (s : Storage AccountId) :
    Except DispatchError Unit × Storage AccountId →
      Except DispatchError (Market AccountId) → Prop where
  | refused (error : DispatchError) : Agrees s (.error error, s) (.error error)
  | done (s' : Storage AccountId) (M' : Market AccountId)
      (represents : Represents s' M') : Agrees s (.ok (), s') (.ok M')

/-! ## Reading the market -/

namespace Represents

variable {s : Storage AccountId} {M : Market AccountId} (h : Represents s M)

include h

theorem next : s.nextTokenId = UInt32.ofNat M.rows.length := by
  rw [← h.size, UInt32.ofNat_toNat]

theorem full_iff :
    s.nextTokenId = u32Max ↔ M.rows.length = Market.maxKitties := by
  rw [← h.size, ← UInt32.toNat_inj, toNat_u32Max, Market.maxKitties]

theorem tokens_of_missing {kittyId : TokenId} (missing : M.find kittyId = none) :
    s.tokens kittyId = none := by
  have htable := h.rows kittyId
  rw [missing, Storage.table, Option.map_eq_none_iff] at htable
  exact htable

theorem tokens_of_found {kittyId : TokenId} {row : Row AccountId}
    (found : M.find kittyId = some row) :
    ∃ info, s.tokens kittyId = some info ∧ info.owner = row.owner ∧
      info.data = row.kitty ∧ s.kittyPrices kittyId = row.price := by
  have htable := h.rows kittyId
  rw [found, Storage.table, Option.map_eq_some_iff] at htable
  obtain ⟨info, token, rfl⟩ := htable
  exact ⟨info, token, rfl, rfl, rfl⟩

theorem kittyPrices (kittyId : TokenId) :
    s.kittyPrices kittyId = (M.find kittyId).bind Row.price := by
  rw [h.population.kittyPrices_eq, h.rows]

/-! ## Changing it -/

theorem validated :
    Represents s.validated { M with proofs := M.proofs + 1 } where
  population := h.population.validated
  size := h.size
  rows := h.rows
  proofs := by
    rw [Storage.validated_autoBreedNonce, h.proofs, saturatingAdd_counter]
  balances := h.balances
  log := h.log

variable [DecidableEq AccountId]

theorem born (room : s.nft.CanMint s.classId) (owner : AccountId)
    (kitty : Kitty) (announce : AccountId → TokenId → Kitty → Event AccountId) :
    Represents (s.born owner kitty (announce owner s.nextTokenId kitty))
      { M with
        rows := M.rows ++ [⟨owner, kitty, none⟩]
        log := M.log ++ [announce owner (UInt32.ofNat M.rows.length) kitty] } where
  population := h.population.born room _ _ _
  size := by
    have hnext : s.nextTokenId ≠ u32Max := room.1
    rw [List.length_append, List.length_singleton, ← h.size, ← toNat_succ hnext]
    simp [Storage.nextTokenId]
  rows kittyId := by
    have hnext : kittyId.toNat = M.rows.length ↔ kittyId = s.nextTokenId := by
      rw [← h.size, UInt32.toNat_inj]
    rw [Journaled.born_table h.population, Table.insert, Function.update_apply,
      Market.find, getElem?_concat, h.rows, Market.find]
    simp only [hnext]
  proofs := h.proofs
  balances := h.balances
  log := by
    rw [Storage.born_events, h.log, h.next]

omit [DecidableEq AccountId] in
theorem modify_find (kittyId other : TokenId) (f : Row AccountId → Row AccountId) :
    (M.rows.modify kittyId.toNat f)[other.toNat]? =
      Function.update s.table kittyId ((s.table kittyId).map f) other := by
  by_cases hid : other = kittyId
  · subst hid
    rw [Function.update_self, List.getElem?_modify_eq, h.rows, Market.find]
    rfl
  · have hne : kittyId.toNat ≠ other.toNat := fun heq =>
      hid (UInt32.toNat_inj.mp heq.symm)
    rw [Function.update_of_ne hid, List.getElem?_modify_ne f M.rows hne, h.rows,
      Market.find]

theorem handsOver {s' : Storage AccountId} {sender recipient : AccountId}
    {kittyId : TokenId} {info : TokenInfo AccountId} {event : Event AccountId}
    (token : s.tokens kittyId = some info) (owned : info.owner = sender)
    (move : HandsOver s s' sender recipient kittyId)
    (hproofs : s'.autoBreedNonce = s.autoBreedNonce)
    (hlog : s'.events = s.events ++ [event]) :
    Represents s' { M.handOver kittyId recipient event with
      balances := s'.balances } where
  population := h.population.handsOver token owned move
  size := by
    rw [move.nextTokenId, h.size, Market.handOver_rows, List.length_modify]
  rows other := by
    rw [Journaled.handsOver_table move, Table.handOver, Market.find,
      Market.handOver_rows, h.modify_find]
  proofs := by rw [hproofs, h.proofs, Market.handOver_proofs]
  balances := rfl
  log := by rw [hlog, h.log, Market.handOver_log]

omit [DecidableEq AccountId] in
theorem priced {who : AccountId} {kittyId : TokenId}
    (indexed : s.nft.tokensByOwner (who, (s.classId, kittyId)) = true)
    (price : Option Balance) :
    Represents (s.priced who kittyId price) (M.reprice who kittyId price) where
  population := h.population.priced indexed price
  size := by
    rw [Market.reprice_rows, List.length_modify]
    exact h.size
  rows other := by
    rw [Journaled.priced_table, Table.setPrice, Market.find,
      Market.reprice_rows, h.modify_find]
  proofs := h.proofs
  balances := h.balances
  log := by rw [Storage.priced_events, h.log, Market.reprice_log]

end Represents

/-! ## Calls -/

section Calls

variable [DecidableEq AccountId] {T : Config AccountId} (lawful : T.Lawful)
  {env : Env} {s : Storage AccountId} {M : Market AccountId}
  (h : Represents s M)

omit [DecidableEq AccountId] in
theorem Agrees.of_refused {m : PalletCall AccountId Unit} (atomic : Atomic m)
    {error : DispatchError} (refused : (m s).1 = .error error) :
    Agrees s (m s) (.error error) := by
  have hsame := atomic s error refused
  have hm : m s = (.error error, s) := Prod.ext refused hsame
  rw [hm]
  exact .refused error

include h

theorem Agrees.mint {m : PalletCall AccountId Unit} (atomic : Atomic m)
    {owner : AccountId} {kitty : Kitty}
    {announce : AccountId → TokenId → Kitty → Event AccountId}
    (result : (m s).1 =
      if s.nextTokenId = u32Max then .error (.nft .noAvailableTokenId)
      else .ok ())
    (born : ∀ s', m s = (.ok (), s') →
      s.born owner kitty (announce owner s.nextTokenId kitty) = s') :
    Agrees s (m s) (M.mint owner kitty announce) := by
  by_cases hfull : s.nextTokenId = u32Max
  · rw [if_pos hfull] at result
    rw [Market.mint, if_pos (h.full_iff.mp hfull)]
    exact .of_refused atomic result
  · rw [if_neg hfull] at result
    obtain ⟨s', hs'⟩ := fst_eq_ok.mp result
    have hborn := born s' hs'
    rw [Market.mint, if_neg (mt h.full_iff.mpr hfull), hs', ← hborn]
    exact .done _ _ (h.born (h.population.canMint_iff.mpr hfull) _ _ _)

include lawful

theorem create_agrees (sender : AccountId) :
    Agrees s (create T env (.signed sender) s)
      (M.mint sender ⟨T.rules.draw env sender⟩ .kittyCreated) := by
  refine .mint h (create_atomic lawful.nft.failsClean _)
    (create_result lawful h.population sender) fun s' hs' => ?_
  obtain ⟨who, horigin, -, hborn⟩ := (create_eq_ok lawful).mp hs'
  cases horigin
  exact hborn

theorem doBreed_agrees (owner : AccountId) (kitty1 kitty2 : Kitty) :
    Agrees s (doBreed T env owner kitty1 kitty2 s)
      (M.mate owner kitty1 kitty2 (T.rules.draw env owner)) := by
  have hresult := doBreed_result lawful h.population env owner kitty1 kitty2
  rw [Market.mate]
  by_cases hgender : kitty1.gender = kitty2.gender
  · rw [if_pos hgender] at hresult ⊢
    exact .of_refused (doBreed_atomic lawful.nft.failsClean _ _ _) hresult
  · rw [if_neg hgender] at hresult ⊢
    refine .mint h (doBreed_atomic lawful.nft.failsClean _ _ _) hresult
      fun s' hs' => ?_
    exact ((doBreed_eq_ok lawful).mp hs').2.2

theorem breed_agrees (sender : AccountId) (kittyId1 kittyId2 : TokenId) :
    Agrees s (breed T env (.signed sender) kittyId1 kittyId2 s)
      (M.breedOwn T.rules env sender kittyId1 kittyId2) := by
  rw [Market.breedOwn]
  cases found1 : M.find kittyId1 with
  | none =>
      have hmissing : s.kitties sender kittyId1 = none := by
        simp [Storage.kitties, h.tokens_of_missing found1]
      rw [breed_eq_of_missing env (.inl hmissing)]
      exact .refused _
  | some row1 =>
      cases found2 : M.find kittyId2 with
      | none =>
          have hmissing : s.kitties sender kittyId2 = none := by
            simp [Storage.kitties, h.tokens_of_missing found2]
          rw [breed_eq_of_missing env (.inr hmissing)]
          exact .refused _
      | some row2 =>
          obtain ⟨info1, token1, owned1, data1, -⟩ := h.tokens_of_found found1
          obtain ⟨info2, token2, owned2, data2, -⟩ := h.tokens_of_found found2
          by_cases hboth : row1.owner = sender ∧ row2.owner = sender
          · have hfound1 : s.kitties sender kittyId1 = some row1.kitty :=
              Storage.kitties_eq_some.mpr
                ⟨info1, token1, owned1.trans hboth.1, data1⟩
            have hfound2 : s.kitties sender kittyId2 = some row2.kitty :=
              Storage.kitties_eq_some.mpr
                ⟨info2, token2, owned2.trans hboth.2, data2⟩
            simp only [hboth, and_self, if_true]
            rw [breed_eq_of_found env hfound1 hfound2]
            exact doBreed_agrees lawful h sender row1.kitty row2.kitty
          · have hmissing : s.kitties sender kittyId1 = none ∨
                s.kitties sender kittyId2 = none := by
              simp only [Storage.kitties, token1, token2, owned1, owned2,
                Option.bind_some, ite_eq_right_iff, reduceCtorEq, imp_false]
              exact Decidable.not_and_iff_not_or_not.mp hboth
            simp only [hboth, if_false]
            rw [breed_eq_of_missing env hmissing]
            exact .refused _

theorem autoBreed_agrees (kittyId1 kittyId2 : TokenId) (nonce : UInt32)
    (solution : BitVec 128) :
    Agrees s (autoBreed T env .none kittyId1 kittyId2 nonce solution s)
      (M.breedAny T.rules env kittyId1 kittyId2) := by
  rw [Market.breedAny]
  cases found1 : M.find kittyId1 with
  | none =>
      rw [autoBreed_eq_of_missing nonce solution
        (.inl (h.tokens_of_missing found1))]
      exact .refused _
  | some row1 =>
      cases found2 : M.find kittyId2 with
      | none =>
          rw [autoBreed_eq_of_missing nonce solution
            (.inr (h.tokens_of_missing found2))]
          exact .refused _
      | some row2 =>
          obtain ⟨info1, token1, owned1, data1, -⟩ := h.tokens_of_found found1
          obtain ⟨info2, token2, -, data2, -⟩ := h.tokens_of_found found2
          rw [autoBreed_eq_of_found nonce solution token1 token2, owned1, data1,
            data2]
          exact doBreed_agrees lawful h row1.owner row1.kitty row2.kitty

theorem transfer_agrees (sender recipient : AccountId) (kittyId : TokenId) :
    Agrees s (transfer T (.signed sender) recipient kittyId s)
      (M.give sender recipient kittyId) := by
  rw [Market.give]
  cases found : M.find kittyId with
  | none =>
      have hmissing := lawful.nft.transfer_missing s.nft sender recipient
        (s.classId, kittyId) (h.tokens_of_missing found)
      have hresult : transfer T (.signed sender) recipient kittyId s =
          (.error (.nft .tokenNotFound), s) := by
        simp [transfer, bind_apply, ensureSigned, pure_apply, query, callNft,
          zoom, hmissing]
      rw [hresult]
      exact .refused _
  | some row =>
      obtain ⟨info, token, owned, -⟩ := h.tokens_of_found found
      by_cases howner : row.owner = sender
      · have hok : transfer T (.signed sender) recipient kittyId s =
            (.ok (), if sender = recipient then s
              else s.moved sender recipient kittyId) :=
          (transfer_eq_ok lawful).mpr
            ⟨sender, info, rfl, token, owned.trans howner, rfl⟩
        by_cases hself : sender = recipient
        · simp only [howner, ne_eq, not_true_eq_false, if_false, hself, if_true]
            at hok ⊢
          rw [hok]
          exact .done s M h
        · simp only [howner, ne_eq, not_true_eq_false, if_false, hself]
          rw [hok, if_neg hself]
          have hmoved := h.handsOver token (owned.trans howner)
            (.moved s sender recipient kittyId) rfl rfl
          have hbalances : (s.moved sender recipient kittyId).balances =
              M.balances := h.balances
          rw [hbalances] at hmoved
          exact .done _ _ hmoved
      · have hne : info.owner ≠ sender := fun heq => howner (owned.symm.trans heq)
        have hnot := lawful.nft.transfer_not_owner s.nft sender recipient
          (s.classId, kittyId) info token hne
        have hresult : transfer T (.signed sender) recipient kittyId s =
            (.error (.nft .noPermission), s) := by
          simp [transfer, bind_apply, ensureSigned, pure_apply, query, callNft,
            zoom, hnot]
        simp only [howner, ne_eq, not_false_eq_true, if_true]
        rw [hresult]
        exact .refused _

omit lawful in
theorem setPrice_agrees (sender : AccountId) (kittyId : TokenId)
    (price : Option Balance) :
    Agrees s (setPrice (.signed sender) kittyId price s)
      (M.list sender kittyId price) := by
  have hindexed : s.nft.tokensByOwner (sender, (s.classId, kittyId)) = true ↔
      ∃ row, M.find kittyId = some row ∧ row.owner = sender := by
    rw [h.population.indexed, ← h.rows]
    simp [Storage.table]
  by_cases hown : s.nft.tokensByOwner (sender, (s.classId, kittyId)) = true
  · obtain ⟨row, found, howner⟩ := hindexed.mp hown
    have hok : setPrice (.signed sender) kittyId price s =
        (.ok (), s.priced sender kittyId price) :=
      setPrice_eq_ok.mpr ⟨sender, rfl, hown, rfl⟩
    simp only [Market.list, found, howner, if_true]
    rw [hok]
    exact .done _ _ (h.priced hown price)
  · have hresult : setPrice (.signed sender) kittyId price s =
        (.error (.kitties .notOwner), s) := by
      simp [setPrice, bind_apply, ensureSigned, pure_apply, query, ensure, hown,
        fail]
    rw [hresult, Market.list]
    cases found : M.find kittyId with
    | none => exact .refused _
    | some row =>
        have howner : row.owner ≠ sender := fun heq =>
          hown (hindexed.mpr ⟨row, found, heq⟩)
        simp only [howner, if_false]
        exact .refused _

theorem sale_agrees {sender owner : AccountId} {kittyId : TokenId}
    {maxPrice price : Balance} {row : Row AccountId}
    {info : TokenInfo AccountId} (other : sender ≠ owner)
    (listed : s.kittyPrices kittyId = some price)
    (token : s.tokens kittyId = some info) (owned : info.owner = row.owner) :
    Agrees s (buy T (.signed sender) owner kittyId maxPrice s)
      (if maxPrice < price then .error (.kitties .priceTooLow)
      else if row.owner ≠ owner then .error (.nft .noPermission)
      else match T.rules.pay sender owner price M.balances with
      | .error error => .error error
      | .ok balances =>
          .ok { M.handOver kittyId sender
              (.kittySold owner sender kittyId price) with balances }) := by
  by_cases hlow : maxPrice < price
  · rw [if_pos hlow, buy_of_low other listed hlow]
    exact .refused _
  · have henough := Nat.le_of_not_lt hlow
    rw [if_neg hlow]
    by_cases howner : row.owner = owner
    · have howned := owned.trans howner
      rw [if_neg (not_not_intro howner), ← h.balances]
      rcases hpaid : T.currency.transfer sender owner price .keepAlive s.balances
        with ⟨error | u, balances⟩
      · have hpay : T.rules.pay sender owner price s.balances =
            .error error := by
          simp [Config.rules, hpaid]
        rw [hpay, buy_of_unpaid lawful other listed henough token howned
          (by rw [hpaid])]
        exact .refused _
      · have hpay : T.rules.pay sender owner price s.balances =
            .ok balances := by
          simp [Config.rules, hpaid]
        rw [hpay, buy_of_paid lawful other listed henough token howned hpaid]
        exact .done _ _ (h.handsOver token howned
          (.sold s owner sender kittyId price balances) rfl rfl)
    · have hne : info.owner ≠ owner := fun heq => howner (owned.symm.trans heq)
      rw [if_pos howner, buy_of_not_owner lawful other listed henough token hne]
      exact .refused _

theorem buy_agrees (sender owner : AccountId) (kittyId : TokenId)
    (maxPrice : Balance) :
    Agrees s (buy T (.signed sender) owner kittyId maxPrice s)
      (M.purchase T.rules sender owner kittyId maxPrice) := by
  rw [Market.purchase]
  by_cases hself : sender = owner
  · subst hself
    rw [buy_of_self, if_pos rfl]
    exact .refused _
  · rw [if_neg hself]
    have hprices := h.kittyPrices kittyId
    cases found : M.find kittyId with
    | none =>
        rw [found] at hprices
        rw [buy_of_unlisted hself hprices]
        exact .refused _
    | some row =>
        obtain ⟨info, token, owned, -, hprice⟩ := h.tokens_of_found found
        cases listed : row.price with
        | none =>
            rw [listed] at hprice
            simp only [Option.bind_some, listed, Option.map_none]
            rw [buy_of_unlisted hself hprice]
            exact .refused _
        | some price =>
            rw [listed] at hprice
            simp only [Option.bind_some, listed, Option.map_some]
            exact sale_agrees lawful h hself hprice token owned

theorem dispatch_agrees (origin : Origin AccountId) (call : Call AccountId) :
    Agrees s (dispatch T env origin call s)
      (M.perform T.rules env origin call) := by
  cases call with
  | create =>
      cases origin with
      | signed who => exact create_agrees lawful h who
      | root => exact .refused _
      | none => exact .refused _
  | breed kittyId1 kittyId2 =>
      cases origin with
      | signed who => exact breed_agrees lawful h who kittyId1 kittyId2
      | root => exact .refused _
      | none => exact .refused _
  | transfer recipient kittyId =>
      cases origin with
      | signed who => exact transfer_agrees lawful h who recipient kittyId
      | root => exact .refused _
      | none => exact .refused _
  | setPrice kittyId price =>
      cases origin with
      | signed who => exact setPrice_agrees h who kittyId price
      | root => exact .refused _
      | none => exact .refused _
  | buy owner kittyId maxPrice =>
      cases origin with
      | signed who => exact buy_agrees lawful h who owner kittyId maxPrice
      | root => exact .refused _
      | none => exact .refused _
  | autoBreed kittyId1 kittyId2 nonce solution =>
      cases origin with
      | none =>
          exact autoBreed_agrees lawful h kittyId1 kittyId2 nonce solution
      | root => exact .refused _
      | signed who => exact .refused _

end Calls

/-! ## Steps and runs -/

section Runs

variable [DecidableEq AccountId] {T : Config AccountId}

omit [DecidableEq AccountId] in
theorem Agrees.settle {s : Storage AccountId} {M : Market AccountId}
    (h : Represents s M) {result : Except DispatchError Unit × Storage AccountId}
    {request : Except DispatchError (Market AccountId)}
    (agrees : Agrees s result request) :
    Outcome.dispatched result.1 = (M.settle request).1 ∧
      Represents result.2 (M.settle request).2 := by
  cases agrees with
  | refused error => exact ⟨rfl, h⟩
  | done s' M' represents => exact ⟨rfl, represents⟩

variable (lawful : T.Lawful)

include lawful

theorem step_agrees {s : Storage AccountId} {M : Market AccountId}
    (h : Represents s M) (input : Input AccountId) :
    (step T input s).1 = (M.step T.rules input).1 ∧
      Represents (step T input s).2 (M.step T.rules input).2 := by
  obtain ⟨env, action⟩ := input
  cases action with
  | dispatch origin call =>
      exact (dispatch_agrees lawful h origin call).settle h
  | unsigned call =>
      have hadmits : accepts T s call = M.admits T.rules call := by
        cases call with
        | autoBreed kittyId1 kittyId2 nonce solution =>
            rw [accepts, h.proofs]
            rfl
        | _ => rfl
      change (applyUnsigned T env call s).1 = _ ∧
        Represents (applyUnsigned T env call s).2 _
      rw [applyUnsigned_eq, hadmits]
      simp only [Market.step]
      split
      · exact (dispatch_agrees lawful h.validated .none call).settle h.validated
      · exact ⟨rfl, h⟩

theorem pallet_refines_market :
    Refines (step T) (fun input M => M.step T.rules input) Represents where
  outcome _ _ input h := (step_agrees lawful h input).1
  next _ _ input h := (step_agrees lawful h input).2

theorem Represents.of_genesis [Inhabited AccountId] {s : Storage AccountId}
    (genesis : IsGenesis T s) : Represents s (Market.opening s.balances) := by
  have hpopulation := Population.of_genesis lawful genesis
  obtain ⟨balances, rfl⟩ := genesis.eq lawful
  exact ⟨hpopulation, rfl, fun _ => rfl, rfl, rfl, rfl⟩

/--
From genesis on, the chain gives the outcomes of the market one by one, and its
storage is at any time the market written out.
-/
theorem chain_refines_market [Inhabited AccountId] {s₀ : Storage AccountId}
    (genesis : IsGenesis T s₀) (inputs : List (Input AccountId)) :
    let rules := T.rules
    let market := run (fun input M => Market.step rules input M)
      (Market.opening s₀.balances) inputs
    outcomes (step T) s₀ inputs =
        outcomes (fun input M => Market.step rules input M)
          (Market.opening s₀.balances) inputs ∧
      Represents (run (step T) s₀ inputs) market := by
  intro rules market
  have hstart := Represents.of_genesis lawful genesis
  exact ⟨(pallet_refines_market lawful).outcomes_eq hstart inputs,
    (pallet_refines_market lawful).run hstart inputs⟩

end Runs

end MarketRefinement

theorem chain_refines_market_in_can_buy :
    outcomes (step Mock.config) Mock.genesis
        [Mock.signed 100 .create, Mock.signed 100 (.setPrice 0 (some 400)),
          Mock.signed 200 (.buy 100 0 500)] =
      outcomes (fun input M => Market.step Mock.config.rules input M)
        (Market.opening Mock.genesis.balances)
        [Mock.signed 100 .create, Mock.signed 100 (.setPrice 0 (some 400)),
          Mock.signed 200 (.buy 100 0 500)] :=
  (chain_refines_market Mock.config_lawful Mock.genesis_isGenesis
    [Mock.signed 100 .create, Mock.signed 100 (.setPrice 0 (some 400)),
      Mock.signed 200 (.buy 100 0 500)]).1

end SubstrateKitties.Pallet
