import SubstrateKitties.Runs.Population

/-!
# Accounts

The pallet moves money in sales only, and every sale is in the event log: a
balance changes by what the account has earned less what it has spent, and only
the buyer, who signs the sale, ever pays.
-/

namespace SubstrateKitties.Pallet

open SubstrateKitties.Foundation

section Accounts

variable {AccountId : Type}

/-! ## Sales in the log -/

structure Sale (AccountId : Type) where
  oldOwner : AccountId
  newOwner : AccountId
  price : Balance
  deriving DecidableEq, Repr

def Event.sale : Event AccountId → Option (Sale AccountId)
  | .kittySold oldOwner newOwner _ price => some ⟨oldOwner, newOwner, price⟩
  | _ => none

def Storage.sales (s : Storage AccountId) : List (Sale AccountId) :=
  s.events.filterMap Event.sale

variable [DecidableEq AccountId]

def earned (who : AccountId) (sales : List (Sale AccountId)) : Nat :=
  ((sales.filter fun sale => sale.oldOwner = who).map Sale.price).sum

def spent (who : AccountId) (sales : List (Sale AccountId)) : Nat :=
  ((sales.filter fun sale => sale.newOwner = who).map Sale.price).sum

theorem earned_concat (who : AccountId) (sales : List (Sale AccountId))
    (sale : Sale AccountId) :
    earned who (sales ++ [sale]) =
      earned who sales + if sale.oldOwner = who then sale.price else 0 := by
  by_cases h : sale.oldOwner = who <;> simp [earned, h]

theorem spent_concat (who : AccountId) (sales : List (Sale AccountId))
    (sale : Sale AccountId) :
    spent who (sales ++ [sale]) =
      spent who sales + if sale.newOwner = who then sale.price else 0 := by
  by_cases h : sale.newOwner = who <;> simp [spent, h]

/-! ## What a step does to the money -/

inductive Pays (s s' : Storage AccountId) (origin : Origin AccountId)
    (call : Call AccountId) : Prop where
  | nothing (balances : s'.balances = s.balances) (sales : s'.sales = s.sales)
  | sale (buyer owner : AccountId) (kittyId : TokenId)
      (maxPrice price : Balance) (other : buyer ≠ owner)
      (byBuyer : origin = .signed buyer)
      (isBuy : call = .buy owner kittyId maxPrice)
      (moves : Moves buyer owner price s.balances s'.balances)
      (sales : s'.sales = s.sales ++ [⟨owner, buyer, price⟩])

variable {T : Config AccountId} (lawful : T.Lawful)

include lawful

theorem Pays.effect {s s' : Storage AccountId} {env : Env}
    {origin : Origin AccountId} {call : Call AccountId}
    (heffect : Effect T env s origin call s') : Pays s s' origin call := by
  cases heffect with
  | create sender room =>
      refine .nothing rfl ?_
      simp [Storage.sales, Event.sale]
  | breed sender kittyId1 kittyId2 kitty1 kitty2 owned1 owned2 genders room =>
      refine .nothing rfl ?_
      simp [Storage.sales, Event.sale]
  | transferSelf sender kittyId info token owned => exact .nothing rfl rfl
  | transfer sender recipient kittyId info token owned other =>
      refine .nothing rfl ?_
      simp [Storage.sales, Event.sale]
  | setPrice sender kittyId price indexed =>
      refine .nothing rfl ?_
      simp [Storage.sales, Event.sale]
  | buy sender owner kittyId maxPrice price info balances other listed enough
      token owned paid =>
      have hmoves := lawful.currency.transfer_moves _ _ _ _ _ other paid
      refine .sale sender owner kittyId maxPrice price other rfl rfl hmoves ?_
      simp [Storage.sales, Event.sale]
  | autoBreed kittyId1 kittyId2 nonce solution info1 info2 token1 token2 genders
      room =>
      refine .nothing rfl ?_
      simp [Storage.sales, Event.sale]

theorem Pays.step (s : Storage AccountId) (input : Input AccountId) :
    Pays s (Pallet.step T input s).2 input.origin input.call := by
  have hsales : (s.prepared T input).sales = s.sales := by
    simp [Storage.sales]
  cases step_cases lawful s input with
  | failed failure same =>
      rw [same]
      exact .nothing (s.prepared_balances T input) hsales
  | succeeded success heffect =>
      cases Pays.effect lawful heffect with
      | nothing balances sales =>
          rw [Storage.prepared_balances] at balances
          exact .nothing balances (sales.trans hsales)
      | sale buyer owner kittyId maxPrice price other byBuyer isBuy moves sales =>
          rw [Storage.prepared_balances] at moves
          rw [hsales] at sales
          exact .sale buyer owner kittyId maxPrice price other byBuyer isBuy
            moves sales

/-! ## Reconciliation -/

theorem step_reconciles (s : Storage AccountId) (input : Input AccountId)
    (who : AccountId) :
    ((step T input s).2.balances who : ℤ) -
          earned who (step T input s).2.sales +
        spent who (step T input s).2.sales =
      s.balances who - earned who s.sales + spent who s.sales := by
  cases Pays.step lawful s input with
  | nothing balances sales => rw [balances, sales]
  | sale buyer owner kittyId maxPrice price other byBuyer isBuy moves sales =>
      have hpays : (step T input s).2.balances buyer + price =
        s.balances buyer := moves.sender_pays
      have hreceives : (step T input s).2.balances owner =
        s.balances owner + price := moves.recipient_receives
      rw [sales, earned_concat, spent_concat]
      by_cases howner : owner = who
      · subst howner
        rw [if_pos rfl, if_neg other, hreceives]
        push_cast
        omega
      · rw [if_neg howner]
        by_cases hbuyer : buyer = who
        · subst hbuyer
          rw [if_pos rfl, ← hpays]
          push_cast
          omega
        · rw [if_neg hbuyer, moves.others who (Ne.symm hbuyer) (Ne.symm howner)]
          simp

theorem step_total (s : Storage AccountId) (input : Input AccountId) :
    SameTotal s.balances (step T input s).2.balances := by
  cases Pays.step lawful s input with
  | nothing balances sales =>
      rw [balances]
      exact .refl s.balances
  | sale buyer owner kittyId maxPrice price other byBuyer isBuy moves sales =>
      exact .of_moves other moves

theorem step_payer_signs (s : Storage AccountId) (input : Input AccountId)
    {who : AccountId}
    (hless : (step T input s).2.balances who < s.balances who) :
    ∃ call, input.action = .dispatch (.signed who) call := by
  cases Pays.step lawful s input with
  | nothing balances sales =>
      rw [balances] at hless
      exact absurd hless (Nat.lt_irrefl _)
  | sale buyer owner kittyId maxPrice price other byBuyer isBuy moves sales =>
      by_cases hbuyer : who = buyer
      · subst hbuyer
        exact ⟨input.call, Input.action_of_signed byBuyer rfl⟩
      · have hmore : s.balances who ≤ (step T input s).2.balances who := by
          by_cases howner : who = owner
          · subst howner
            rw [moves.recipient_receives]
            exact Nat.le_add_right _ _
          · rw [moves.others who hbuyer howner]
        exact absurd hless (Nat.not_lt_of_le hmore)

variable [Inhabited AccountId]

theorem money_reconciles {s₀ s : Storage AccountId} (genesis : IsGenesis T s₀)
    (inputs : List (Input AccountId)) (reached : run (step T) s₀ inputs = s) :
    (∀ who, (s.balances who : ℤ) - s₀.balances who =
        earned who s.sales - spent who s.sales) ∧
      SameTotal s₀.balances s.balances ∧
      ∑ᶠ who, s.balances who = ∑ᶠ who, s₀.balances who ∧
      ∀ t ∈ trace (step T) s₀ inputs, ∀ who,
        t.post.balances who < t.pre.balances who →
        ∃ call, t.input.action = .dispatch (.signed who) call := by
  subst reached
  have htotal : SameTotal s₀.balances (run (step T) s₀ inputs).balances :=
    run_induction (P := fun s => SameTotal s₀.balances s.balances)
      (.refl s₀.balances) (fun s input h => h.trans (step_total lawful s input))
      inputs
  refine ⟨fun who => ?_, htotal, htotal.finsum_eq, ?_⟩
  · have hbooks := run_induction
      (P := fun s => (s.balances who : ℤ) - earned who s.sales +
        spent who s.sales = s₀.balances who - earned who s₀.sales +
          spent who s₀.sales)
      rfl (fun s input h => (step_reconciles lawful s input who).trans h) inputs
    have hnone : s₀.sales = [] := by
      obtain ⟨balances, rfl⟩ := genesis.eq lawful
      rfl
    rw [hnone] at hbooks
    simp only [earned, spent, List.filter_nil, List.map_nil, List.sum_nil,
      Nat.cast_zero] at hbooks
    simp only [earned, spent]
    omega
  · intro t ht who hless
    obtain ⟨before, input, rfl⟩ := exists_of_mem_trace ht
    exact step_payer_signs lawful _ input hless

end Accounts

theorem money_reconciles_in_can_buy :
    let s := run (step Mock.config) Mock.genesis
      [Mock.signed 100 .create, Mock.signed 100 (.setPrice 0 (some 400)),
        Mock.signed 200 (.buy 100 0 500)]
    (s.balances 200 : ℤ) - Mock.genesis.balances 200 =
      earned 200 s.sales - spent 200 s.sales := by
  intro s
  exact (money_reconciles Mock.config_lawful Mock.genesis_isGenesis
    [Mock.signed 100 .create, Mock.signed 100 (.setPrice 0 (some 400)),
      Mock.signed 200 (.buy 100 0 500)] rfl).1 200

end SubstrateKitties.Pallet
