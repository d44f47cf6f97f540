import SubstrateKitties.Runs.Ownership

/-!
# Listings

The price of a kitty is the one its owner set last, and it is gone once the
kitty has changed hands.  The price map says nothing about owners, so the link
is a property of the history: the latest call that had a say in the price.
-/

namespace SubstrateKitties.Pallet

open SubstrateKitties.Foundation

section Listing

variable {AccountId : Type} [DecidableEq AccountId]

/-! ## Calls that have a say in a price -/

def Call.reprices (origin : Origin AccountId) (kittyId : TokenId) :
    Call AccountId → Bool
  | .setPrice id _ => decide (id = kittyId)
  | .transfer recipient id => decide (id = kittyId ∧ origin ≠ .signed recipient)
  | .buy _ id _ => decide (id = kittyId)
  | _ => false

/-- A successful `set_price`, transfer to another account or `buy`. -/
def reprices (kittyId : TokenId) (t : Step AccountId) : Bool :=
  t.outcome.succeeded && t.input.call.reprices t.input.origin kittyId

def buys (kittyId : TokenId) (t : Step AccountId) : Prop :=
  t.outcome.succeeded = true ∧
    ∃ owner maxPrice, t.input.call = .buy owner kittyId maxPrice

inductive Repriced (s s' : Storage AccountId) (origin : Origin AccountId)
    (call : Call AccountId) (kittyId : TokenId) (relevant : Bool) : Prop where
  | untouched (irrelevant : relevant = false)
      (price : s'.kittyPrices kittyId = s.kittyPrices kittyId)
      (owner : ∀ o, s.owner kittyId = some o → s'.owner kittyId = some o)
  | set (who : AccountId) (newPrice : Option Balance) (isRelevant : relevant = true)
      (byOwner : origin = .signed who) (isSetPrice : call = .setPrice kittyId newPrice)
      (price : s'.kittyPrices kittyId = newPrice)
      (before : s.owner kittyId = some who) (after : s'.owner kittyId = some who)
  | cleared (isRelevant : relevant = true)
      (other : ∀ newPrice, call ≠ .setPrice kittyId newPrice)
      (price : s'.kittyPrices kittyId = none)

theorem Repriced.born {s : Storage AccountId} (h : Population s)
    (origin : Origin AccountId) (call : Call AccountId) (kittyId : TokenId)
    (owner : AccountId) (kitty : Kitty) (event : Event AccountId) :
    Repriced s (s.born owner kitty event) origin call kittyId false := by
  refine .untouched rfl rfl fun o howner => ?_
  rw [Storage.born_owner, if_neg (h.ne_next howner)]
  exact howner

theorem Repriced.handsOver {s s' : Storage AccountId}
    {sender recipient : AccountId} {moved kittyId : TokenId}
    {info : TokenInfo AccountId} {origin : Origin AccountId}
    {call : Call AccountId} (token : s.tokens moved = some info)
    (move : HandsOver s s' sender recipient moved)
    (hcall : call.reprices origin kittyId = decide (moved = kittyId))
    (hother : ∀ newPrice, call ≠ .setPrice kittyId newPrice) :
    Repriced s s' origin call kittyId (call.reprices origin kittyId) := by
  by_cases hid : moved = kittyId
  · subst hid
    refine .cleared (by simp [hcall]) hother ?_
    rw [move.kittyPrices, Function.update_self]
  · refine .untouched (by simp [hcall, hid]) ?_ fun o howner => ?_
    · rw [move.kittyPrices, Function.update_of_ne (Ne.symm hid)]
    · rw [move.owner token, if_neg (Ne.symm hid)]
      exact howner

theorem Repriced.effect {T : Config AccountId} {s s' : Storage AccountId}
    {env : Env} {origin : Origin AccountId} {call : Call AccountId}
    (heffect : Effect T env s origin call s') (h : Population s)
    (kittyId : TokenId) :
    Repriced s s' origin call kittyId (call.reprices origin kittyId) := by
  cases heffect with
  | create sender room => exact .born h _ _ _ _ _ _
  | breed sender kittyId1 kittyId2 kitty1 kitty2 owned1 owned2 genders room =>
      exact .born h _ _ _ _ _ _
  | transferSelf sender moved info token owned =>
      exact .untouched (by simp [Call.reprices]) rfl fun o howner => howner
  | transfer sender recipient moved info token owned other =>
      refine .handsOver token (.moved s sender recipient moved) ?_
        fun newPrice => ?_
      · simp [Call.reprices, other]
      · simp
  | setPrice sender priced price indexed =>
      have howner := h.indexed_iff_owner.mp indexed
      by_cases hid : priced = kittyId
      · subst hid
        exact .set sender price (by simp [Call.reprices]) rfl rfl (by simp)
          howner howner
      · refine .untouched (by simp [Call.reprices, hid]) ?_ fun o howner => howner
        exact Function.update_of_ne (Ne.symm hid) _ _
  | buy sender owner bought maxPrice price info balances other listed enough
      token owned paid =>
      refine .handsOver token (.sold s owner sender bought price balances) rfl
        fun newPrice => ?_
      simp
  | autoBreed kittyId1 kittyId2 nonce solution info1 info2 token1 token2 genders
      room =>
      exact .born h _ _ _ _ _ _

theorem Repriced.step {T : Config AccountId} (lawful : T.Lawful)
    {s : Storage AccountId} (h : Population s) (input : Input AccountId)
    (kittyId : TokenId) :
    Repriced s (Pallet.step T input s).2 input.origin input.call kittyId
      (Pallet.reprices kittyId (transition (Pallet.step T) s input)) := by
  change Repriced s _ _ _ _ ((Pallet.step T input s).1.succeeded &&
    input.call.reprices input.origin kittyId)
  cases step_cases lawful s input with
  | failed failure same =>
      rw [failure, same]
      refine .untouched rfl ?_ fun o howner => ?_
      · rw [Storage.prepared_kittyPrices]
      · rw [Storage.prepared_owner]
        exact howner
  | succeeded success heffect =>
      rw [success]
      change Repriced s _ _ _ _ (true && _)
      rw [Bool.true_and]
      have hrepriced := Repriced.effect heffect (h.prepared T input) kittyId
      cases hrepriced with
      | untouched irrelevant price owner =>
          rw [Storage.prepared_kittyPrices] at price
          rw [Storage.prepared_owner] at owner
          exact .untouched irrelevant price owner
      | set who newPrice isRelevant byOwner isSetPrice price before after =>
          rw [Storage.prepared_owner] at before
          exact .set who newPrice isRelevant byOwner isSetPrice price before after
      | cleared isRelevant other price => exact .cleared isRelevant other price

/-! ## Provenance -/

structure Provenance (history : List (Step AccountId))
    (s : Storage AccountId) : Prop where
  listed_iff : ∀ kittyId price, s.kittyPrices kittyId = some price ↔
    ∃ t, latest (reprices kittyId) history = some t ∧
      t.input.call = .setPrice kittyId (some price)
  byOwner : ∀ kittyId price t, latest (reprices kittyId) history = some t →
    t.input.call = .setPrice kittyId (some price) →
    ∃ who, t.input.action =
        .dispatch (.signed who) (.setPrice kittyId (some price)) ∧
      s.owner kittyId = some who

namespace Provenance

variable {T : Config AccountId} (lawful : T.Lawful)

include lawful

theorem concat {history : List (Step AccountId)} {s : Storage AccountId}
    (h : Provenance history s) (population : Population s)
    (input : Input AccountId) :
    Provenance (history ++ [transition (Pallet.step T) s input])
      (Pallet.step T input s).2 := by
  constructor
  · intro kittyId price
    rw [latest_concat]
    cases Repriced.step lawful population input kittyId with
    | untouched irrelevant price_eq owner =>
        rw [irrelevant, price_eq]
        exact h.listed_iff kittyId price
    | set who newPrice isRelevant byOwner isSetPrice price_eq before after =>
        rw [if_pos isRelevant, price_eq]
        constructor
        · rintro rfl
          exact ⟨_, rfl, isSetPrice⟩
        · rintro ⟨t, ht, hcall⟩
          cases ht
          have hsame := isSetPrice.symm.trans hcall
          cases hsame
          rfl
    | cleared isRelevant other price_eq =>
        rw [if_pos isRelevant, price_eq]
        constructor
        · intro hnone
          cases hnone
        · rintro ⟨t, ht, hcall⟩
          cases ht
          exact absurd hcall (other _)
  · intro kittyId price t ht hcall
    rw [latest_concat] at ht
    cases Repriced.step lawful population input kittyId with
    | untouched irrelevant price_eq owner =>
        rw [irrelevant] at ht
        obtain ⟨who, haction, howner⟩ := h.byOwner kittyId price t ht hcall
        exact ⟨who, haction, owner who howner⟩
    | set who newPrice isRelevant byOwner isSetPrice price_eq before after =>
        rw [if_pos isRelevant] at ht
        cases ht
        exact ⟨who, Input.action_of_signed byOwner hcall, after⟩
    | cleared isRelevant other price_eq =>
        rw [if_pos isRelevant] at ht
        cases ht
        exact absurd hcall (other _)

theorem of_run [Inhabited AccountId] {s₀ : Storage AccountId}
    (genesis : IsGenesis T s₀) (inputs : List (Input AccountId)) :
    Provenance (trace (Pallet.step T) s₀ inputs)
      (run (Pallet.step T) s₀ inputs) := by
  have hstart : Population s₀ := .of_genesis lawful genesis
  refine trace_induction (P := Provenance) ?_ ?_ inputs
  · obtain ⟨balances, rfl⟩ := genesis.eq lawful
    constructor
    · intro kittyId price
      simp
    · intro kittyId price t ht
      cases ht
  · intro before input ih
    exact ih.concat lawful (hstart.run lawful before) input

end Provenance

/-! ## What follows for births, owners and sales -/

theorem Effect.buy_listed {T : Config AccountId} {s s' : Storage AccountId}
    {env : Env} {origin : Origin AccountId} {owner : AccountId}
    {kittyId : TokenId} {maxPrice : Balance}
    (heffect : Effect T env s origin (.buy owner kittyId maxPrice) s') :
    ∃ price, s.kittyPrices kittyId = some price := by
  cases heffect with
  | buy sender _ _ _ price info balances other listed enough token owned paid =>
      exact ⟨price, listed⟩

variable {T : Config AccountId} (lawful : T.Lawful)

include lawful

theorem newborn_unlisted {s : Storage AccountId} (h : Population s)
    (input : Input AccountId)
    (hmint : minted (transition (step T) s input) = true) :
    (step T input s).2.kittyPrices s.nextTokenId = none := by
  have hmints : input.call.mints = true := by
    have hboth : ((step T input s).1.succeeded && input.call.mints) = true :=
      hmint
    exact (Bool.and_eq_true_iff.mp hboth).2
  have hnone : input.call.reprices input.origin s.nextTokenId = false := by
    cases hcall : input.call <;> simp_all [Call.mints, Call.reprices]
  cases Repriced.step lawful h input s.nextTokenId with
  | untouched irrelevant price owner => rw [price, h.unlisted]
  | set who newPrice isRelevant byOwner isSetPrice price before after =>
      simp [reprices, transition, hnone] at isRelevant
  | cleared isRelevant other price => exact price

theorem price_gone_with_owner {s : Storage AccountId} (h : Population s)
    (input : Input AccountId) {kittyId : TokenId} {o : AccountId}
    (hpre : s.owner kittyId = some o)
    (hpost : (step T input s).2.owner kittyId ≠ some o) :
    (step T input s).2.kittyPrices kittyId = none := by
  cases Repriced.step lawful h input kittyId with
  | untouched irrelevant price owner => exact absurd (owner o hpre) hpost
  | set who newPrice isRelevant byOwner isSetPrice price before after =>
      rw [before] at hpre
      cases hpre
      exact absurd after hpost
  | cleared isRelevant other price => exact price

theorem buys_listed {s : Storage AccountId} {input : Input AccountId}
    {kittyId : TokenId} (h : buys kittyId (transition (step T) s input)) :
    ∃ price, s.kittyPrices kittyId = some price := by
  obtain ⟨hsuccess, owner, maxPrice, hcall⟩ := h
  cases step_cases lawful s input with
  | failed failure same =>
      have hfailed : (step T input s).1.succeeded = true := hsuccess
      rw [failure] at hfailed
      cases hfailed
  | succeeded success heffect =>
      change input.call = _ at hcall
      rw [hcall] at heffect
      obtain ⟨price, hprice⟩ := heffect.buy_listed
      rw [Storage.prepared_kittyPrices] at hprice
      exact ⟨price, hprice⟩

omit lawful in
theorem reprices_of_buys {kittyId : TokenId} {t : Step AccountId}
    (h : buys kittyId t) : reprices kittyId t = true := by
  obtain ⟨hsuccess, owner, maxPrice, hcall⟩ := h
  simp [reprices, hsuccess, hcall, Call.reprices]

variable [Inhabited AccountId]

theorem listed_between_sales {s₀ : Storage AccountId} (genesis : IsGenesis T s₀)
    {inputs : List (Input AccountId)} {kittyId : TokenId}
    {before between after : List (Step AccountId)} {first second : Step AccountId}
    (hsplit : trace (step T) s₀ inputs =
      before ++ first :: (between ++ second :: after))
    (hfirst : buys kittyId first) (hsecond : buys kittyId second) :
    ∃ t ∈ between, t.outcome.succeeded = true ∧
      ∃ who price, second.pre.kittyPrices kittyId = some price ∧
        t.input.action =
          .dispatch (.signed who) (.setPrice kittyId (some price)) := by
  have hsplit' : trace (step T) s₀ inputs =
      (before ++ first :: between) ++ second :: after := by
    rw [hsplit, List.append_assoc, List.cons_append]
  obtain ⟨inputs₁, input, inputs₂, -, hbefore, rfl, -⟩ :=
    trace_eq_append hsplit'
  have hprovenance := Provenance.of_run lawful genesis inputs₁
  obtain ⟨price, hprice⟩ := buys_listed lawful hsecond
  obtain ⟨t, hlatest, hcall⟩ := (hprovenance.listed_iff kittyId price).mp hprice
  obtain ⟨who, haction, -⟩ := hprovenance.byOwner kittyId price t hlatest hcall
  have hsuccess := latest_satisfies hlatest
  rw [← hbefore] at hlatest
  have hmem := latest_mem_after (reprices_of_buys hfirst) hlatest
  cases hmem with
  | head =>
      obtain ⟨-, owner, maxPrice, hbuy⟩ := hfirst
      rw [hbuy] at hcall
      cases hcall
  | tail _ hbetween =>
      exact ⟨t, hbetween, (Bool.and_eq_true_iff.mp hsuccess).1, who, price,
        hprice, haction⟩

theorem listings_after_run {s₀ s : Storage AccountId} (genesis : IsGenesis T s₀)
    (inputs : List (Input AccountId)) (reached : run (step T) s₀ inputs = s) :
    (∀ kittyId price, s.kittyPrices kittyId = some price ↔
        ∃ t, latest (reprices kittyId) (trace (step T) s₀ inputs) = some t ∧
          t.input.call = .setPrice kittyId (some price)) ∧
      (∀ kittyId price t,
        latest (reprices kittyId) (trace (step T) s₀ inputs) = some t →
        t.input.call = .setPrice kittyId (some price) →
        ∃ who, t.input.action =
            .dispatch (.signed who) (.setPrice kittyId (some price)) ∧
          s.owner kittyId = some who) ∧
      (∀ kittyId, s.tokens kittyId = none → s.kittyPrices kittyId = none) ∧
      (∀ t ∈ trace (step T) s₀ inputs, minted t = true →
        t.post.kittyPrices t.pre.nextTokenId = none) ∧
      (∀ t ∈ trace (step T) s₀ inputs, ∀ kittyId o,
        t.pre.owner kittyId = some o → t.post.owner kittyId ≠ some o →
        t.post.kittyPrices kittyId = none) ∧
      ∀ kittyId before first between second after,
        trace (step T) s₀ inputs =
          before ++ first :: (between ++ second :: after) →
        buys kittyId first → buys kittyId second →
        ∃ t ∈ between, t.outcome.succeeded = true ∧
          ∃ who price, second.pre.kittyPrices kittyId = some price ∧
            t.input.action =
              .dispatch (.signed who) (.setPrice kittyId (some price)) := by
  subst reached
  have hstart : Population s₀ := .of_genesis lawful genesis
  have hprovenance := Provenance.of_run lawful genesis inputs
  refine ⟨hprovenance.listed_iff, hprovenance.byOwner, ?_, ?_, ?_, ?_⟩
  · intro kittyId hnone
    cases hprice : (run (step T) s₀ inputs).kittyPrices kittyId with
    | none => rfl
    | some price =>
        have hsome := (hstart.run lawful inputs).listed kittyId price hprice
        rw [hnone] at hsome
        cases hsome
  · intro t ht hmint
    obtain ⟨before, input, rfl⟩ := exists_of_mem_trace ht
    exact newborn_unlisted lawful (hstart.run lawful before) input hmint
  · intro t ht kittyId o hpre hpost
    obtain ⟨before, input, rfl⟩ := exists_of_mem_trace ht
    exact price_gone_with_owner lawful (hstart.run lawful before) input hpre
      hpost
  · intro kittyId before first between second after hsplit hfirst hsecond
    exact listed_between_sales lawful genesis hsplit hfirst hsecond

end Listing

theorem listing_in_can_set_price :
    let inputs := [Mock.signed 100 .create,
      Mock.signed 100 (.setPrice 0 (some 10))]
    (run (step Mock.config) Mock.genesis inputs).kittyPrices 0 = some 10 ↔
      ∃ t, latest (reprices 0) (trace (step Mock.config) Mock.genesis inputs) =
          some t ∧
        t.input.call = .setPrice 0 (some 10) := by
  intro inputs
  exact (listings_after_run Mock.config_lawful Mock.genesis_isGenesis inputs
    rfl).1 0 10

end SubstrateKitties.Pallet
