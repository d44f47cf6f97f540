import SubstrateKitties.Market.Refinement

/-!
# What chance decides

The random seed and the extrinsic index enter the pallet through the DNA alone.
Two runs of the same calls in different environments agree on owners, prices,
money, ids, proofs and results, as long as the same couples turn out to be of
one gender.
-/

namespace SubstrateKitties.Pallet

open SubstrateKitties.Foundation

variable {AccountId : Type}

def Row.listing (row : Row AccountId) : AccountId × Option Balance :=
  (row.owner, row.price)

def Kitty.blank : Kitty := ⟨Vector.replicate 16 0⟩

def Event.blank : Event AccountId → Event AccountId
  | .kittyCreated owner kittyId _ => .kittyCreated owner kittyId .blank
  | .kittyBred owner kittyId _ => .kittyBred owner kittyId .blank
  | event => event

namespace Market

structure Alike (M M' : Market AccountId) : Prop where
  rows : M.rows.map Row.listing = M'.rows.map Row.listing
  proofs : M.proofs = M'.proofs
  balances : M.balances = M'.balances
  log : M.log.map Event.blank = M'.log.map Event.blank

inductive AlikeResults : Except DispatchError (Market AccountId) →
    Except DispatchError (Market AccountId) → Prop where
  | refused (error : DispatchError) : AlikeResults (.error error) (.error error)
  | done (M M' : Market AccountId) (alike : Alike M M') :
      AlikeResults (.ok M) (.ok M')

inductive AlikeFinds : Option (Row AccountId) → Option (Row AccountId) → Prop
  where
  | nothing : AlikeFinds none none
  | row (owner : AccountId) (price : Option Balance) (kitty kitty' : Kitty) :
      AlikeFinds (some ⟨owner, kitty, price⟩) (some ⟨owner, kitty', price⟩)

namespace Alike

variable {M M' : Market AccountId} (h : Alike M M')

include h

theorem length : M.rows.length = M'.rows.length := by
  have hlength := congrArg List.length h.rows
  simpa using hlength

theorem finds (kittyId : TokenId) :
    AlikeFinds (M.find kittyId) (M'.find kittyId) := by
  have hrow := congrArg (fun rows => rows[kittyId.toNat]?) h.rows
  simp only [List.getElem?_map] at hrow
  simp only [Market.find]
  cases hfound : M.rows[kittyId.toNat]? with
  | none =>
      cases hfound' : M'.rows[kittyId.toNat]? with
      | none => exact .nothing
      | some row' => simp [hfound, hfound'] at hrow
  | some row =>
      cases hfound' : M'.rows[kittyId.toNat]? with
      | none => simp [hfound, hfound'] at hrow
      | some row' =>
          simp only [hfound, hfound', Option.map_some, Option.some.injEq,
            Row.listing, Prod.mk.injEq] at hrow
          obtain ⟨howner, hprice⟩ := hrow
          cases row
          cases row'
          cases howner
          cases hprice
          exact .row _ _ _ _

theorem find (kittyId : TokenId) :
    ∃ found found', M.find kittyId = found ∧ M'.find kittyId = found' ∧
      AlikeFinds found found' :=
  ⟨_, _, rfl, rfl, h.finds kittyId⟩

/-! ## Requests -/

theorem mint (owner : AccountId) (kitty kitty' : Kitty)
    {announce : AccountId → TokenId → Kitty → Event AccountId}
    (hblank : ∀ kittyId, (announce owner kittyId kitty).blank =
      (announce owner kittyId kitty').blank) :
    AlikeResults (M.mint owner kitty announce)
      (M'.mint owner kitty' announce) := by
  rw [Market.mint, Market.mint, h.length]
  split
  · exact .refused _
  · refine .done _ _ ⟨?_, h.proofs, h.balances, ?_⟩
    · simp [h.rows, Row.listing]
    · simp [h.log, hblank]

theorem handOver (kittyId : TokenId) (recipient : AccountId)
    (event : Event AccountId) :
    Alike (M.handOver kittyId recipient event)
      (M'.handOver kittyId recipient event) := by
  refine ⟨map_modify_congr ?_ _ _ h.rows _, h.proofs, h.balances, ?_⟩
  · intro row row' _
    rfl
  · simp [h.log]

theorem reprice (who : AccountId) (kittyId : TokenId) (price : Option Balance) :
    Alike (M.reprice who kittyId price) (M'.reprice who kittyId price) := by
  refine ⟨map_modify_congr ?_ _ _ h.rows _, h.proofs, h.balances, ?_⟩
  · intro row row' hlisting
    have howner := congrArg Prod.fst hlisting
    simpa [Row.listing] using howner
  · simp [h.log]

omit h in
theorem mint_ne_sameGender (M : Market AccountId) (owner : AccountId)
    (kitty : Kitty)
    (announce : AccountId → TokenId → Kitty → Event AccountId) :
    M.mint owner kitty announce ≠ .error (.kitties .sameGender) := by
  rw [Market.mint]
  split <;> simp

theorem mate (owner : AccountId) (kitty1 kitty2 kitty1' kitty2' : Kitty)
    (selector selector' : Vector UInt8 16)
    (mismatch : M.mate owner kitty1 kitty2 selector =
        .error (.kitties .sameGender) ↔
      M'.mate owner kitty1' kitty2' selector' =
        .error (.kitties .sameGender)) :
    AlikeResults (M.mate owner kitty1 kitty2 selector)
      (M'.mate owner kitty1' kitty2' selector') := by
  rw [Market.mate, Market.mate] at mismatch ⊢
  by_cases hgenders : kitty1.gender = kitty2.gender
  · rw [if_pos hgenders] at mismatch ⊢
    rw [mismatch.mp rfl]
    exact .refused _
  · rw [if_neg hgenders] at mismatch ⊢
    by_cases hgenders' : kitty1'.gender = kitty2'.gender
    · rw [if_pos hgenders'] at mismatch
      exact absurd (mismatch.mpr rfl) (mint_ne_sameGender M _ _ _)
    · rw [if_neg hgenders']
      refine h.mint owner _ _ fun kittyId => ?_
      simp only [Event.blank]

variable [DecidableEq AccountId]

theorem give (who recipient : AccountId) (kittyId : TokenId) :
    AlikeResults (M.give who recipient kittyId)
      (M'.give who recipient kittyId) := by
  obtain ⟨found, found', hfound, hfound', halike⟩ := h.find kittyId
  rw [Market.give, Market.give, hfound, hfound']
  cases halike with
  | nothing => exact .refused _
  | row owner price kitty kitty' =>
      by_cases howner : owner = who
      · by_cases hself : who = recipient
        · simp only [howner, hself, ne_eq, not_true_eq_false, if_false, if_true]
          exact .done _ _ h
        · simp only [howner, hself, ne_eq, not_true_eq_false, if_false]
          exact .done _ _ (h.handOver _ _ _)
      · simp only [howner, ne_eq, not_false_eq_true, if_true]
        exact .refused _

theorem list (who : AccountId) (kittyId : TokenId) (price : Option Balance) :
    AlikeResults (M.list who kittyId price) (M'.list who kittyId price) := by
  obtain ⟨found, found', hfound, hfound', halike⟩ := h.find kittyId
  rw [Market.list, Market.list, hfound, hfound']
  cases halike with
  | nothing => exact .refused _
  | row owner oldPrice kitty kitty' =>
      by_cases howner : owner = who
      · simp only [howner, if_true]
        exact .done _ _ (h.reprice _ _ _)
      · simp only [howner, if_false]
        exact .refused _

theorem purchase (rules : Rules AccountId) (who owner : AccountId)
    (kittyId : TokenId) (maxPrice : Balance) :
    AlikeResults (M.purchase rules who owner kittyId maxPrice)
      (M'.purchase rules who owner kittyId maxPrice) := by
  obtain ⟨found, found', hfound, hfound', halike⟩ := h.find kittyId
  rw [Market.purchase, Market.purchase, hfound, hfound']
  by_cases hself : who = owner
  · rw [if_pos hself, if_pos hself]
    exact .refused _
  · rw [if_neg hself, if_neg hself]
    cases halike with
    | nothing => exact .refused _
    | row holder price kitty kitty' =>
        cases price with
        | none => exact .refused _
        | some price =>
            simp only [Option.bind_some, Option.map_some]
            split
            · exact .refused _
            · split
              · exact .refused _
              · rw [h.balances]
                cases rules.pay who owner price M'.balances with
                | error error => exact .refused _
                | ok balances =>
                    have hgone := h.handOver kittyId who
                      (.kittySold owner who kittyId price)
                    exact .done _ _ ⟨hgone.rows, hgone.proofs, rfl, hgone.log⟩

theorem breedOwn (rules : Rules AccountId) (env env' : Env) (who : AccountId)
    (kittyId1 kittyId2 : TokenId)
    (mismatch : M.breedOwn rules env who kittyId1 kittyId2 =
        .error (.kitties .sameGender) ↔
      M'.breedOwn rules env' who kittyId1 kittyId2 =
        .error (.kitties .sameGender)) :
    AlikeResults (M.breedOwn rules env who kittyId1 kittyId2)
      (M'.breedOwn rules env' who kittyId1 kittyId2) := by
  obtain ⟨found1, found1', hfound1, hfound1', halike1⟩ := h.find kittyId1
  obtain ⟨found2, found2', hfound2, hfound2', halike2⟩ := h.find kittyId2
  rw [Market.breedOwn, Market.breedOwn, hfound1, hfound1', hfound2, hfound2']
    at mismatch ⊢
  revert mismatch
  cases halike1 with
  | nothing => exact fun _ => .refused _
  | row owner1 price1 kitty1 kitty1' =>
      cases halike2 with
      | nothing => exact fun _ => .refused _
      | row owner2 price2 kitty2 kitty2' =>
          by_cases howned : owner1 = who ∧ owner2 = who
          · simp only [howned, and_self, if_true]
            exact h.mate who _ _ _ _ _ _
          · simp only [howned, if_false]
            exact fun _ => .refused _

omit [DecidableEq AccountId] in
theorem breedAny (rules : Rules AccountId) (env env' : Env)
    (kittyId1 kittyId2 : TokenId)
    (mismatch : M.breedAny rules env kittyId1 kittyId2 =
        .error (.kitties .sameGender) ↔
      M'.breedAny rules env' kittyId1 kittyId2 =
        .error (.kitties .sameGender)) :
    AlikeResults (M.breedAny rules env kittyId1 kittyId2)
      (M'.breedAny rules env' kittyId1 kittyId2) := by
  obtain ⟨found1, found1', hfound1, hfound1', halike1⟩ := h.find kittyId1
  obtain ⟨found2, found2', hfound2, hfound2', halike2⟩ := h.find kittyId2
  rw [Market.breedAny, Market.breedAny, hfound1, hfound1', hfound2, hfound2']
    at mismatch ⊢
  revert mismatch
  cases halike1 with
  | nothing => exact fun _ => .refused _
  | row owner1 price1 kitty1 kitty1' =>
      cases halike2 with
      | nothing => exact fun _ => .refused _
      | row owner2 price2 kitty2 kitty2' => exact h.mate owner1 _ _ _ _ _ _

theorem perform (rules : Rules AccountId) (env env' : Env)
    (origin : Origin AccountId) (call : Call AccountId)
    (mismatch : M.perform rules env origin call =
        .error (.kitties .sameGender) ↔
      M'.perform rules env' origin call = .error (.kitties .sameGender)) :
    AlikeResults (M.perform rules env origin call)
      (M'.perform rules env' origin call) := by
  cases call with
  | create =>
      cases origin with
      | signed who =>
          refine h.mint who _ _ fun kittyId => ?_
          simp only [Event.blank]
      | root => exact .refused _
      | none => exact .refused _
  | breed kittyId1 kittyId2 =>
      cases origin with
      | signed who => exact h.breedOwn rules env env' who _ _ mismatch
      | root => exact .refused _
      | none => exact .refused _
  | transfer recipient kittyId =>
      cases origin with
      | signed who => exact h.give who recipient kittyId
      | root => exact .refused _
      | none => exact .refused _
  | setPrice kittyId price =>
      cases origin with
      | signed who => exact h.list who kittyId price
      | root => exact .refused _
      | none => exact .refused _
  | buy owner kittyId maxPrice =>
      cases origin with
      | signed who => exact h.purchase rules who owner kittyId maxPrice
      | root => exact .refused _
      | none => exact .refused _
  | autoBreed kittyId1 kittyId2 nonce solution =>
      cases origin with
      | none => exact h.breedAny rules env env' _ _ mismatch
      | root => exact .refused _
      | signed who => exact .refused _

end Alike

/-! ## Steps -/

theorem settle_eq_error {M : Market AccountId}
    {result : Except DispatchError (Market AccountId)} {error : DispatchError} :
    (M.settle result).1 = .dispatched (.error error) ↔ result = .error error := by
  cases result <;> simp [settle]

theorem settle_alike {M M' : Market AccountId} (h : Alike M M')
    {result result' : Except DispatchError (Market AccountId)}
    (hresults : AlikeResults result result') :
    (M.settle result).1 = (M'.settle result').1 ∧
      Alike (M.settle result).2 (M'.settle result').2 := by
  cases hresults with
  | refused error => exact ⟨rfl, h⟩
  | done N N' alike => exact ⟨rfl, alike⟩

variable [DecidableEq AccountId]

theorem Alike.step {M M' : Market AccountId} (h : Alike M M')
    (rules : Rules AccountId) (env env' : Env) (action : Action AccountId)
    (mismatch : (M.step rules ⟨env, action⟩).1 =
        .dispatched (.error (.kitties .sameGender)) ↔
      (M'.step rules ⟨env', action⟩).1 =
        .dispatched (.error (.kitties .sameGender))) :
    (M.step rules ⟨env, action⟩).1 = (M'.step rules ⟨env', action⟩).1 ∧
      Alike (M.step rules ⟨env, action⟩).2 (M'.step rules ⟨env', action⟩).2 := by
  cases action with
  | dispatch origin call =>
      simp only [Market.step, settle_eq_error] at mismatch ⊢
      exact settle_alike h (h.perform rules env env' origin call mismatch)
  | unsigned call =>
      have hadmits : M.admits rules call = M'.admits rules call := by
        cases call <;> simp [admits, h.proofs]
      simp only [Market.step, hadmits] at mismatch ⊢
      split at mismatch
      · rename_i hadmitted
        have hproofs : Alike { M with proofs := M.proofs + 1 }
            { M' with proofs := M'.proofs + 1 } :=
          ⟨h.rows, congrArg (· + 1) h.proofs, h.balances, h.log⟩
        simp only [settle_eq_error, hadmitted, if_true] at mismatch ⊢
        exact settle_alike hproofs
          (hproofs.perform rules env env' .none call mismatch)
      · rename_i hrefused
        simp only [hrefused, Bool.false_eq_true, if_false]
        exact ⟨trivial, h⟩

end Market

/-! ## Storages -/

section Chance

variable [DecidableEq AccountId] {T : Config AccountId} (lawful : T.Lawful)

/-- The couple that was to breed is of one gender. -/
def Mismatch (t : Step AccountId) : Prop :=
  t.outcome = .dispatched (.error (.kitties .sameGender))

/-- The same call, perhaps with another seed, and a mismatch in both or none. -/
structure SameCall (t t' : Step AccountId) : Prop where
  action : t.input.action = t'.input.action
  mismatch : Mismatch t ↔ Mismatch t'

theorem sameCalls_of_successes {s s' : Storage AccountId}
    {inputs inputs' : List (Input AccountId)}
    (actions : inputs.map Input.action = inputs'.map Input.action)
    (successes : (trace (step T) s inputs).all (·.outcome.succeeded))
    (successes' : (trace (step T) s' inputs').all (·.outcome.succeeded)) :
    List.Forall₂ SameCall (trace (step T) s inputs)
      (trace (step T) s' inputs') := by
  have hmatch : ∀ t : Step AccountId, t.outcome.succeeded = true →
      ¬Mismatch t := by
    intro t success mismatch
    rw [mismatch] at success
    cases success
  induction inputs generalizing s s' inputs' with
  | nil =>
      cases inputs' with
      | nil => exact .nil
      | cons input' inputs' => cases actions
  | cons input inputs ih =>
      cases inputs' with
      | nil => cases actions
      | cons input' inputs' =>
          simp only [List.map_cons, List.cons.injEq] at actions
          simp only [trace, List.all_cons, Bool.and_eq_true]
            at successes successes'
          exact .cons ⟨actions.1, iff_of_false (hmatch _ successes.1)
            (hmatch _ successes'.1)⟩ (ih actions.2 successes.2 successes'.2)

def AlikeStorages (s s' : Storage AccountId) : Prop :=
  ∃ M M', Represents s M ∧ Represents s' M' ∧ Market.Alike M M'

include lawful

theorem chance_lockstep :
    Lockstep (step T) (step T) AlikeStorages SameCall := by
  have hstep : ∀ s s' input input', AlikeStorages s s' →
      SameCall (transition (step T) s input) (transition (step T) s' input') →
      (step T input s).1 = (step T input' s').1 ∧
        AlikeStorages (step T input s).2 (step T input' s').2 := by
    rintro s s' ⟨env, action⟩ ⟨env', action'⟩ ⟨M, M', hM, hM', halike⟩ same
    obtain rfl : action = action' := same.action
    obtain ⟨houtcome, hnext⟩ := step_agrees lawful hM ⟨env, action⟩
    obtain ⟨houtcome', hnext'⟩ := step_agrees lawful hM' ⟨env', action⟩
    have hmismatch := same.mismatch
    simp only [Mismatch, transition, houtcome, houtcome'] at hmismatch
    obtain ⟨hequal, hafter⟩ := halike.step T.rules env env' action hmismatch
    exact ⟨by rw [houtcome, houtcome', hequal], _, _, hnext, hnext', hafter⟩
  exact ⟨fun s s' input input' h same => (hstep s s' input input' h same).1,
    fun s s' input input' h same => (hstep s s' input input' h same).2⟩

omit lawful [DecidableEq AccountId] in
theorem AlikeStorages.owner {s s' : Storage AccountId} (h : AlikeStorages s s') :
    s.owner = s'.owner := by
  obtain ⟨M, M', hM, hM', halike⟩ := h
  have howner : ∀ {s : Storage AccountId} {M : Market AccountId},
      Represents s M → ∀ kittyId,
        s.owner kittyId = (M.find kittyId).map Row.owner := by
    intro s M hM kittyId
    rw [← hM.rows, Storage.table, Option.map_map]
    rfl
  funext kittyId
  obtain ⟨found, found', hfound, hfound', hfinds⟩ := halike.find kittyId
  rw [howner hM, howner hM', hfound, hfound']
  cases hfinds <;> rfl

omit lawful [DecidableEq AccountId] in
theorem AlikeStorages.kittyPrices {s s' : Storage AccountId}
    (h : AlikeStorages s s') : s.kittyPrices = s'.kittyPrices := by
  obtain ⟨M, M', hM, hM', halike⟩ := h
  funext kittyId
  obtain ⟨found, found', hfound, hfound', hfinds⟩ := halike.find kittyId
  rw [hM.kittyPrices, hM'.kittyPrices, hfound, hfound']
  cases hfinds <;> rfl

/--
Runs of the same calls under other seeds have the same results and end with the
same owners, prices, ids, proofs, money and events but for the DNA in them.
-/
theorem chance_decides_dna_only [Inhabited AccountId] {s₀ : Storage AccountId}
    (genesis : IsGenesis T s₀) {inputs inputs' : List (Input AccountId)}
    (same : List.Forall₂ SameCall (trace (step T) s₀ inputs)
      (trace (step T) s₀ inputs')) :
    let s := run (step T) s₀ inputs
    let s' := run (step T) s₀ inputs'
    outcomes (step T) s₀ inputs = outcomes (step T) s₀ inputs' ∧
      s.owner = s'.owner ∧ s.kittyPrices = s'.kittyPrices ∧
      s.nextTokenId = s'.nextTokenId ∧ s.autoBreedNonce = s'.autoBreedNonce ∧
      s.balances = s'.balances ∧
      s.events.map Event.blank = s'.events.map Event.blank := by
  intro s s'
  have hgenesis := Represents.of_genesis lawful genesis
  have hstart : AlikeStorages s₀ s₀ :=
    ⟨_, _, hgenesis, hgenesis, rfl, rfl, rfl, rfl⟩
  obtain ⟨houtcomes, halike⟩ := (chance_lockstep lawful).runs hstart same
  refine ⟨houtcomes, halike.owner, halike.kittyPrices, ?_⟩
  obtain ⟨M, M', hM, hM', hmarkets⟩ := halike
  refine ⟨?_, ?_, ?_, ?_⟩
  · rw [hM.next, hM'.next, hmarkets.length]
  · rw [hM.proofs, hM'.proofs, hmarkets.proofs]
  · rw [hM.balances, hM'.balances, hmarkets.balances]
  · rw [hM.log, hM'.log, hmarkets.log]

end Chance

/-- A day under other seeds: other kitties, in the same hands for the same money. -/
theorem chance_decides_dna_only_for_two_seeds :
    let s := run (step Mock.config) Mock.genesis (Mock.marketDay 0 2)
    let s' := run (step Mock.config) Mock.genesis (Mock.marketDay 1 5)
    s.dna 0 ≠ s'.dna 0 ∧ s.owner = s'.owner ∧ s.balances = s'.balances ∧
      outcomes (step Mock.config) Mock.genesis (Mock.marketDay 0 2) =
        outcomes (step Mock.config) Mock.genesis (Mock.marketDay 1 5) := by
  intro s s'
  have hsame : List.Forall₂ SameCall
      (trace (step Mock.config) Mock.genesis (Mock.marketDay 0 2))
      (trace (step Mock.config) Mock.genesis (Mock.marketDay 1 5)) :=
    sameCalls_of_successes rfl (by decide +kernel) (by decide +kernel)
  have hdna : s.dna 0 ≠ s'.dna 0 := by decide +kernel
  obtain ⟨houtcomes, howner, -, -, -, hbalances, -⟩ :=
    chance_decides_dna_only Mock.config_lawful Mock.genesis_isGenesis hsame
  exact ⟨hdna, howner, hbalances, houtcomes⟩

end SubstrateKitties.Pallet
