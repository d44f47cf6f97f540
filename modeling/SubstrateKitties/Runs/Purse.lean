import Mathlib.Data.List.Forall2
import SubstrateKitties.Runs.Absence

/-!
# What trading can cost

An account pays for the kitties it buys and for nothing else, each time at most
what it has offered in the call, and no purchase takes it below the balance
that keeps an account alive.
-/

namespace SubstrateKitties.Pallet

open SubstrateKitties.Foundation

structure Currency.KeepsAlive {AccountId : Type} (currency : Currency AccountId)
    (minimum : Balance) : Prop where
  survives : ∀ balances balances' sender recipient amount, amount ≠ 0 →
    sender ≠ recipient →
    currency.transfer sender recipient amount .keepAlive balances =
      (.ok (), balances') →
    minimum ≤ balances' sender

section Purse

variable {AccountId : Type} [DecidableEq AccountId]

/-! ## Purchases and bids -/

def Event.purchase (who : AccountId) :
    Event AccountId → Option (TokenId × Balance)
  | .kittySold _ newOwner kittyId price =>
      if newOwner = who then some (kittyId, price) else none
  | _ => none

def Storage.purchases (s : Storage AccountId) (who : AccountId) :
    List (TokenId × Balance) :=
  s.events.filterMap (Event.purchase who)

def Call.bid (who : AccountId) (origin : Origin AccountId) :
    Call AccountId → Option (TokenId × Balance)
  | .buy _ kittyId maxPrice =>
      if origin = .signed who then some (kittyId, maxPrice) else none
  | _ => none

/-- The successful `buy` of `who` in a step: the kitty and the `max_price`. -/
def bid (who : AccountId) (t : Step AccountId) : Option (TokenId × Balance) :=
  if t.outcome.succeeded then t.input.call.bid who t.input.origin else none

def Within (purchase bid : TokenId × Balance) : Prop :=
  purchase.1 = bid.1 ∧ purchase.2 ≤ bid.2

def Spends (who : AccountId) (minimum : Balance) (s s' : Storage AccountId)
    (bids : List (TokenId × Balance)) : Prop :=
  ∃ new, s'.purchases who = s.purchases who ++ new ∧
    List.Forall₂ Within new bids ∧
    s.balances who ≤ s'.balances who + (new.map Prod.snd).sum ∧
    (minimum ≤ s.balances who → minimum ≤ s'.balances who)

namespace Spends

variable {who : AccountId} {minimum : Balance} {s s' s'' : Storage AccountId}
  {bids bids' : List (TokenId × Balance)}

theorem nothing (hpurchases : s'.purchases who = s.purchases who)
    (hbalances : s.balances who ≤ s'.balances who) :
    Spends who minimum s s' [] := by
  refine ⟨[], ?_, .nil, ?_, ?_⟩
  · simp [hpurchases]
  · simpa using hbalances
  · intro hminimum
    exact Nat.le_trans hminimum hbalances

theorem trans (h : Spends who minimum s s' bids)
    (h' : Spends who minimum s' s'' bids') :
    Spends who minimum s s'' (bids ++ bids') := by
  obtain ⟨new, hpurchases, hwithin, hcost, halive⟩ := h
  obtain ⟨new', hpurchases', hwithin', hcost', halive'⟩ := h'
  refine ⟨new ++ new', ?_, ?_, ?_, ?_⟩
  · rw [hpurchases', hpurchases, List.append_assoc]
  · exact List.rel_append hwithin hwithin'
  · calc s.balances who
        ≤ s'.balances who + (new.map Prod.snd).sum := hcost
      _ ≤ s''.balances who + (new'.map Prod.snd).sum +
          (new.map Prod.snd).sum := Nat.add_le_add_right hcost' _
      _ = s''.balances who + ((new ++ new').map Prod.snd).sum := by
          rw [List.map_append, List.sum_append, Nat.add_assoc,
            Nat.add_comm (new'.map Prod.snd).sum]
  · intro hminimum
    exact halive' (halive hminimum)

theorem bought {T : Config AccountId} (lawful : T.Lawful)
    (alive : T.currency.KeepsAlive minimum) {owner : AccountId}
    {kittyId : TokenId} {maxPrice price : Balance}
    {balances : AccountId → Balance} (other : who ≠ owner)
    (enough : price ≤ maxPrice)
    (paid : T.currency.transfer who owner price .keepAlive s.balances =
      (.ok (), balances)) :
    Spends who minimum s (s.sold owner who kittyId price balances)
      [(kittyId, maxPrice)] := by
  have hpays : balances who + price = s.balances who :=
    (lawful.currency.transfer_moves _ _ _ _ _ other paid).sender_pays
  refine ⟨[(kittyId, price)], ?_, .cons ⟨rfl, enough⟩ .nil, ?_, ?_⟩
  · simp [Storage.purchases, Event.purchase]
  · simp [← hpays]
  · intro hminimum
    change minimum ≤ balances who
    by_cases hfree : price = 0
    · rw [hfree, Nat.add_zero] at hpays
      rw [hpays]
      exact hminimum
    · exact alive.survives _ _ _ _ _ hfree other paid

theorem effect {T : Config AccountId} (lawful : T.Lawful)
    (alive : T.currency.KeepsAlive minimum) {env : Env}
    {origin : Origin AccountId} {call : Call AccountId}
    (heffect : Effect T env s origin call s') :
    Spends who minimum s s' (call.bid who origin).toList := by
  cases heffect with
  | create sender room =>
      refine .nothing ?_ (Nat.le_refl _)
      simp [Storage.purchases, Event.purchase]
  | breed sender kittyId1 kittyId2 kitty1 kitty2 owned1 owned2 genders room =>
      refine .nothing ?_ (Nat.le_refl _)
      simp [Storage.purchases, Event.purchase]
  | transferSelf sender kittyId info token owned =>
      exact .nothing rfl (Nat.le_refl _)
  | transfer sender recipient kittyId info token owned other =>
      refine .nothing ?_ (Nat.le_refl _)
      simp [Storage.purchases, Event.purchase]
  | setPrice sender kittyId price indexed =>
      refine .nothing ?_ (Nat.le_refl _)
      simp [Storage.purchases, Event.purchase]
  | buy sender owner kittyId maxPrice price info balances other listed enough
      token owned paid =>
      by_cases hsender : sender = who
      · subst hsender
        have hbid : (Call.buy owner kittyId maxPrice).bid sender
            (.signed sender) = some (kittyId, maxPrice) := by
          simp [Call.bid]
        rw [hbid]
        exact .bought lawful alive other enough paid
      · have hbid : (Call.buy owner kittyId maxPrice).bid who
            (.signed sender) = none := by
          simp [Call.bid, hsender]
        rw [hbid]
        have hmoves := lawful.currency.transfer_moves _ _ _ _ _ other paid
        refine .nothing ?_ ?_
        · simp [Storage.purchases, Event.purchase, hsender]
        · change s.balances who ≤ balances who
          by_cases howner : who = owner
          · rw [howner, hmoves.recipient_receives]
            exact Nat.le_add_right _ _
          · rw [hmoves.others who (Ne.symm hsender) howner]
  | autoBreed kittyId1 kittyId2 nonce solution info1 info2 token1 token2 genders
      room =>
      refine .nothing ?_ (Nat.le_refl _)
      simp [Storage.purchases, Event.purchase]

theorem step {T : Config AccountId} (lawful : T.Lawful)
    (alive : T.currency.KeepsAlive minimum) (s : Storage AccountId)
    (input : Input AccountId) :
    Spends who minimum s (Pallet.step T input s).2
      (bid who (transition (Pallet.step T) s input)).toList := by
  change Spends who minimum s _ (if (Pallet.step T input s).1.succeeded
    then input.call.bid who input.origin else none).toList
  cases step_cases lawful s input with
  | failed failure same =>
      rw [failure, same]
      refine .nothing ?_ ?_
      · simp [Storage.purchases]
      · simp
  | succeeded success heffect =>
      rw [success, Outcome.succeeded, if_pos rfl]
      simpa only [Spends, Storage.purchases, Storage.prepared_events,
        Storage.prepared_balances] using effect lawful alive heffect

end Spends

/--
In any run, from any storage, an account pays for the purchases that it has
signed, one by one within the price it has offered, and for nothing else.  It
never falls below the balance that keeps it alive.
-/
theorem trading_costs_what_was_bid {T : Config AccountId} (lawful : T.Lawful)
    {minimum : Balance} (alive : T.currency.KeepsAlive minimum)
    (s : Storage AccountId) (inputs : List (Input AccountId))
    (who : AccountId) :
    Spends who minimum s (run (step T) s inputs)
      ((trace (step T) s inputs).filterMap (bid who)) := by
  induction inputs generalizing s with
  | nil => exact .nothing rfl (Nat.le_refl _)
  | cons input inputs ih =>
      have hsplit : (trace (step T) s (input :: inputs)).filterMap (bid who) =
          (bid who (transition (step T) s input)).toList ++
            (trace (step T) (step T input s).2 inputs).filterMap (bid who) := by
        rw [trace, List.filterMap_cons]
        cases bid who (transition (step T) s input) <;> rfl
      rw [hsplit]
      exact (Spends.step lawful alive s input).trans (ih _)

end Purse

theorem Mock.balances_keepsAlive :
    Mock.balances.KeepsAlive Mock.existentialDeposit where
  survives b b' sender recipient amount hamount hother h := by
    simp only [Mock.balances, hamount, hother, or_false, if_false] at h
    split_ifs at h with hlow hhigh hnew hdead
    · cases h
    · cases h
    · cases h
    · cases h
    · cases h
      rw [Function.update_of_ne hother, Function.update_self]
      simpa using hdead

theorem trading_costs_what_was_bid_in_can_buy :
    let inputs := [Mock.signed 100 .create,
      Mock.signed 100 (.setPrice 0 (some 400)), Mock.signed 200 (.buy 100 0 500)]
    Spends 200 Mock.existentialDeposit Mock.genesis
      (run (step Mock.config) Mock.genesis inputs)
      ((trace (step Mock.config) Mock.genesis inputs).filterMap (bid 200)) := by
  intro inputs
  exact trading_costs_what_was_bid Mock.config_lawful Mock.balances_keepsAlive
    Mock.genesis inputs 200

end SubstrateKitties.Pallet
