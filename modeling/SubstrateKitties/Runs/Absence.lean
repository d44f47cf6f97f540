import SubstrateKitties.Foundation.Stall
import SubstrateKitties.Runs.Accounts
import SubstrateKitties.Runs.Ownership

/-!
# Accounts that sign nothing

An account may be offline for any time.  Its kitties stay where they are, with
the prices they have, unless they are sold at the prices they had when the
account went away, and then the account has been paid for every one of them.
-/

namespace SubstrateKitties.Pallet

open SubstrateKitties.Foundation

section Absence

variable {AccountId : Type} [DecidableEq AccountId]

def Event.deal (who : AccountId) :
    Event AccountId → Option (TokenId × Balance)
  | .kittySold oldOwner _ kittyId price =>
      if oldOwner = who then some (kittyId, price) else none
  | _ => none

def Storage.deals (s : Storage AccountId) (who : AccountId) :
    List (TokenId × Balance) :=
  s.events.filterMap (Event.deal who)

def Storage.stall (s : Storage AccountId) (who : AccountId) :
    Stall TokenId Balance := fun kittyId =>
  if s.owner kittyId = some who then some (s.kittyPrices kittyId) else none

def Input.Idle (who : AccountId) (input : Input AccountId) : Prop :=
  input.origin ≠ .signed who

/-! ## Steps that the account has not signed -/

def Passes (who : AccountId) (s s' : Storage AccountId) : Prop :=
  ∃ new, Unattended (s.stall who) (s'.stall who) new ∧
    s'.deals who = s.deals who ++ new ∧
    s'.balances who = s.balances who + (new.map Prod.snd).sum

variable {who : AccountId} {s s' : Storage AccountId}

theorem Storage.stall_of_owner {kittyId : TokenId}
    (h : s.owner kittyId = some who) :
    s.stall who kittyId = some (s.kittyPrices kittyId) := if_pos h

theorem Storage.stall_of_other {kittyId : TokenId}
    (h : s.owner kittyId ≠ some who) : s.stall who kittyId = none := if_neg h

theorem Storage.stall_eq_some {kittyId : TokenId} {price : Option Balance} :
    s.stall who kittyId = some price ↔
      s.owner kittyId = some who ∧ s.kittyPrices kittyId = price := by
  by_cases h : s.owner kittyId = some who <;> simp [stall, h]

theorem Storage.stall_congr {kittyId : TokenId}
    (howner : s'.owner kittyId = s.owner kittyId)
    (hprice : s'.kittyPrices kittyId = s.kittyPrices kittyId) :
    s'.stall who kittyId = s.stall who kittyId := by
  rw [stall, stall, howner, hprice]

theorem Storage.stall_of_unlisted {kittyId : TokenId}
    (h : s.kittyPrices kittyId = none) :
    s.stall who kittyId = none ∨ s.stall who kittyId = some none := by
  by_cases howner : s.owner kittyId = some who
  · right
    rw [stall_of_owner howner, h]
  · left
    exact stall_of_other howner

@[simp] theorem Storage.prepared_stall (T : Config AccountId)
    (s : Storage AccountId) (input : Input AccountId) :
    (s.prepared T input).stall who = s.stall who := by
  funext kittyId
  simp only [stall, prepared_owner, prepared_kittyPrices]

namespace Passes

theorem nothing (hstall : s'.stall who = s.stall who)
    (hevents : s'.events = s.events) (hbalances : s'.balances = s.balances) :
    Passes who s s' := by
  refine ⟨[], ?_, ?_, ?_⟩
  · rw [hstall]
    exact .refl _
  · simp [Storage.deals, hevents]
  · simp [hbalances]

theorem born (h : Population s) (owner : AccountId) (kitty : Kitty)
    {event : Event AccountId} (hevent : event.deal who = none) :
    Passes who s (s.born owner kitty event) := by
  have howner := s.born_owner owner kitty event
  refine ⟨[], .brings s.nextTokenId ?_ ?_ ?_, ?_, ?_⟩
  · intro kittyId hid
    apply Storage.stall_congr
    · rw [howner, if_neg hid]
    · rw [Storage.born_kittyPrices]
  · apply Storage.stall_of_other
    simp [Storage.owner, h.fresh]
  · apply Storage.stall_of_unlisted
    rw [Storage.born_kittyPrices, h.unlisted]
  · simp [Storage.deals, hevent]
  · simp

theorem handsOver {sender recipient : AccountId} {moved : TokenId}
    {info : TokenInfo AccountId} (token : s.tokens moved = some info)
    (owned : info.owner = sender) (other : sender ≠ who)
    (move : HandsOver s s' sender recipient moved) :
    Unattended (s.stall who) (s'.stall who) [] := by
  refine .brings moved ?_ ?_ ?_
  · intro kittyId hid
    apply Storage.stall_congr
    · rw [move.owner token, if_neg hid]
    · rw [move.kittyPrices, Function.update_of_ne hid]
  · apply Storage.stall_of_other
    simp [Storage.owner_of_token token owned, other]
  · apply Storage.stall_of_unlisted
    rw [move.kittyPrices, Function.update_self]

theorem priced (h : Population s) {sender : AccountId} {kittyId : TokenId}
    {price : Option Balance} (other : sender ≠ who)
    (indexed : s.nft.tokensByOwner (sender, (s.classId, kittyId)) = true) :
    Passes who s (s.priced sender kittyId price) := by
  have howner : (s.priced sender kittyId price).owner = s.owner := rfl
  have hsender := h.indexed_iff_owner.mp indexed
  refine ⟨[], .brings kittyId ?_ ?_ ?_, ?_, ?_⟩
  · intro id hid
    apply Storage.stall_congr
    · rw [howner]
    · rw [Storage.priced_kittyPrices, Function.update_of_ne hid]
  · apply Storage.stall_of_other
    simp [hsender, other]
  · left
    apply Storage.stall_of_other
    simp [howner, hsender, other]
  · simp [Storage.deals, Event.deal]
  · simp

theorem sold {buyer : AccountId} {kittyId : TokenId} {price : Balance}
    {info : TokenInfo AccountId} {balances : AccountId → Balance}
    (token : s.tokens kittyId = some info) (owned : info.owner = who)
    (listed : s.kittyPrices kittyId = some price) (other : buyer ≠ who)
    (moves : Moves buyer who price s.balances balances) :
    Passes who s (s.sold who buyer kittyId price balances) := by
  have howner :=
    (HandsOver.sold s who buyer kittyId price balances).owner token
  refine ⟨[(kittyId, price)], .sells ?_ ?_ ?_, ?_, ?_⟩
  · intro id hid
    apply Storage.stall_congr
    · rw [howner, if_neg hid]
    · rw [Storage.sold_kittyPrices, Function.update_of_ne hid]
  · rw [Storage.stall_of_owner (Storage.owner_of_token token owned), listed]
  · apply Storage.stall_of_other
    simp [howner, other]
  · simp [Storage.deals, Event.deal]
  · have hpaid : balances who = s.balances who + price :=
      moves.recipient_receives
    simp [hpaid]

theorem effect {T : Config AccountId} (lawful : T.Lawful) {env : Env}
    {origin : Origin AccountId} {call : Call AccountId}
    (heffect : Effect T env s origin call s') (h : Population s)
    (idle : origin ≠ .signed who) : Passes who s s' := by
  cases heffect with
  | create sender room => exact .born h sender _ rfl
  | breed sender kittyId1 kittyId2 kitty1 kitty2 owned1 owned2 genders room =>
      exact .born h sender _ rfl
  | transferSelf sender kittyId info token owned => exact .nothing rfl rfl rfl
  | transfer sender recipient kittyId info token owned other =>
      have hidle : sender ≠ who := by simpa using idle
      refine ⟨[], handsOver token owned hidle (.moved s _ _ _), ?_, ?_⟩
      · simp [Storage.deals, Event.deal]
      · simp
  | setPrice sender kittyId price indexed =>
      exact .priced h (by simpa using idle) indexed
  | buy sender owner kittyId maxPrice price info balances other listed enough
      token owned paid =>
      have hidle : sender ≠ who := by simpa using idle
      have hmoves := lawful.currency.transfer_moves _ _ _ _ _ other paid
      by_cases howner : owner = who
      · subst howner
        exact .sold token owned listed other hmoves
      · refine ⟨[], handsOver token owned howner (.sold s _ _ _ _ _), ?_, ?_⟩
        · simp [Storage.deals, Event.deal, howner]
        · have hothers := hmoves.others who hidle.symm (Ne.symm howner)
          simp [hothers]
  | autoBreed kittyId1 kittyId2 nonce solution info1 info2 token1 token2 genders
      room =>
      exact .born h info1.owner _ rfl

theorem step {T : Config AccountId} (lawful : T.Lawful) (h : Population s)
    (input : Input AccountId) (idle : input.Idle who) :
    Passes who s (Pallet.step T input s).2 := by
  cases step_cases lawful s input with
  | failed failure same =>
      rw [same]
      exact .nothing (s.prepared_stall T input) (s.prepared_events T input)
        (s.prepared_balances T input)
  | succeeded success heffect =>
      have hpasses := effect lawful heffect (h.prepared T input) idle
      simpa only [Passes, Storage.prepared_stall, Storage.deals,
        Storage.prepared_events, Storage.prepared_balances] using hpasses

end Passes

variable [Inhabited AccountId]

/--
Everything an absent account had it still has, or has been paid for at the
price it had set; and no kitty of it is for sale that was not already.
-/
theorem absent_accounts_lose_nothing {T : Config AccountId} (lawful : T.Lawful)
    (reachable : Reachable T s) (inputs : List (Input AccountId))
    (absent : ∀ input ∈ inputs, input.Idle who)
    (reached : run (step T) s inputs = s') :
    ∃ deals : List (TokenId × Balance),
      s'.deals who = s.deals who ++ deals ∧
        s'.balances who = s.balances who + (deals.map Prod.snd).sum ∧
        (deals.map Prod.fst).Nodup ∧
        (∀ deal ∈ deals, s.owner deal.1 = some who ∧
          s.kittyPrices deal.1 = some deal.2) ∧
        (∀ kittyId, s.owner kittyId = some who →
          kittyId ∉ deals.map Prod.fst →
          s'.owner kittyId = some who ∧
            s'.kittyPrices kittyId = s.kittyPrices kittyId) ∧
        ∀ kittyId price, s'.owner kittyId = some who →
          s'.kittyPrices kittyId = some price →
          s.owner kittyId = some who ∧ s.kittyPrices kittyId = some price ∧
            kittyId ∉ deals.map Prod.fst := by
  subst reached
  obtain ⟨deals, hstall, hdeals, hpaid⟩ :=
    unattended_run (fun s => Storage.stall s who) (fun s => Storage.deals s who)
      (fun s => s.balances who) (Population.of_reachable lawful reachable)
      (fun _ input h => h.step lawful input)
      (fun _ input h idle => Passes.step lawful h input idle) inputs absent
  refine ⟨deals, hdeals, hpaid, hstall.once, ?_, ?_, ?_⟩
  · intro deal hdeal
    exact Storage.stall_eq_some.mp (hstall.sold deal hdeal)
  · intro kittyId howner hunsold
    have hheld := Storage.stall_of_owner howner
    have hkept := hstall.kept kittyId hunsold (by simp [hheld])
    rw [hheld] at hkept
    exact Storage.stall_eq_some.mp hkept
  · intro kittyId price howner hprice
    obtain ⟨hoffer, hunsold⟩ :=
      hstall.offered (Storage.stall_eq_some.mpr ⟨howner, hprice⟩)
    obtain ⟨hbefore, hlisted⟩ := Storage.stall_eq_some.mp hoffer
    exact ⟨hbefore, hlisted, hunsold⟩

end Absence

/--
Account 100 lists two kitties and goes away.  One is sold for 400, and given
back without a price; the other one is still listed.
-/
theorem absent_accounts_lose_nothing_in_can_buy :
    let s := run (step Mock.config) Mock.genesis
      [Mock.signed 100 .create, Mock.signed 100 .create,
        Mock.signed 100 (.setPrice 0 (some 400)),
        Mock.signed 100 (.setPrice 1 (some 50))]
    let s' := run (step Mock.config) s
      [Mock.signed 200 (.buy 100 0 500), Mock.signed 200 (.transfer 100 0)]
    s'.deals 100 = s.deals 100 ++ [(0, 400)] ∧
      s'.balances 100 = s.balances 100 + 400 ∧
      s'.owner 1 = some 100 ∧ s'.kittyPrices 1 = s.kittyPrices 1 ∧
      s'.owner 0 = some 100 ∧ s'.kittyPrices 0 = none := by
  intro s s'
  let inputs : List (Input Mock.AccountId) :=
    [Mock.signed 200 (.buy 100 0 500), Mock.signed 200 (.transfer 100 0)]
  have hreachable : Reachable Mock.config s :=
    (Reachable.of_genesis Mock.genesis_isGenesis).run _
  have habsent : ∀ input ∈ inputs, Input.Idle 100 input := by
    simp [inputs, Mock.signed, Input.Idle, Input.origin]
  have hdeals : s'.deals 100 = s.deals 100 ++ [(0, 400)] := by decide +kernel
  have howner : s.owner 1 = some 100 := by decide +kernel
  have hback : s'.owner 0 = some 100 := by decide +kernel
  obtain ⟨deals, happended, hpaid, -, -, hkept, hoffers⟩ :=
    absent_accounts_lose_nothing Mock.config_lawful hreachable inputs habsent
      (Eq.refl s')
  obtain rfl : deals = [(0, 400)] :=
    List.append_cancel_left (happended.symm.trans hdeals)
  obtain ⟨hstill, hprice⟩ := hkept 1 howner (by decide)
  refine ⟨hdeals, hpaid, hstill, hprice, hback, ?_⟩
  cases hlisted : s'.kittyPrices 0 with
  | none => rfl
  | some price => exact absurd (hoffers 0 price hback hlisted).2.2 (by decide)

end SubstrateKitties.Pallet
