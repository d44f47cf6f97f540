import SubstrateKitties.Foundation.Journal
import SubstrateKitties.Pallet.Foreign
import SubstrateKitties.Runs.Population

/-!
# The log as a backup

The events restore more than the table of an indexer.  Read over the storage at
genesis they give every cell of the storage again: tokens, index, counters,
issuance, prices and balances.  Only the nonce of the accepted proofs is not in
them.
-/

namespace SubstrateKitties.Pallet

open SubstrateKitties.Foundation

section Backup

variable {AccountId : Type} [DecidableEq AccountId]

/-- Do what an event says has been done. -/
def Storage.redo : Event AccountId → Storage AccountId → Storage AccountId
  | .kittyCreated owner kittyId kitty, s =>
      s.born owner kitty (.kittyCreated owner kittyId kitty)
  | .kittyBred owner kittyId kitty, s =>
      s.born owner kitty (.kittyBred owner kittyId kitty)
  | .kittyTransferred sender recipient kittyId, s =>
      s.moved sender recipient kittyId
  | .kittyPriceUpdated owner kittyId price, s => s.priced owner kittyId price
  | .kittySold oldOwner newOwner kittyId price, s =>
      s.sold oldOwner newOwner kittyId price
        (paid newOwner oldOwner price s.balances)

/-- A kitty that is redone gets the id that the event says. -/
def backup (AccountId : Type) [DecidableEq AccountId] :
    Journal (Event AccountId) (Storage AccountId) where
  apply := Storage.redo
  Fits s event := ∀ kittyId, event.bornId = some kittyId → kittyId = s.nextTokenId

def restored (s₀ : Storage AccountId) (log : List (Event AccountId))
    (nonce : UInt32) : Storage AccountId :=
  ((backup AccountId).replay s₀ log).withNonce nonce

/-! ## Every step is in the log -/

def Logged (s s' : Storage AccountId) : Prop :=
  ∃ events, s'.events = s.events ++ events ∧
    s'.withNonce 0 = (backup AccountId).replay (s.withNonce 0) events ∧
    (backup AccountId).FitsAll (s.withNonce 0) events

namespace Logged

variable {s s' : Storage AccountId}

theorem nothing (hsame : s'.withNonce 0 = s.withNonce 0) : Logged s s' := by
  refine ⟨[], ?_, hsame, trivial⟩
  have hevents : (s'.withNonce 0).events = (s.withNonce 0).events := by
    rw [hsame]
  rw [List.append_nil]
  exact hevents

theorem one (event : Event AccountId) (hevents : s'.events = s.events ++ [event])
    (hredo : s'.withNonce 0 = (s.withNonce 0).redo event)
    (hborn : ∀ kittyId, event.bornId = some kittyId →
      kittyId = s.nextTokenId) : Logged s s' :=
  ⟨[event], hevents, hredo, hborn, trivial⟩

theorem effect {T : Config AccountId} (lawful : T.Lawful) {env : Env}
    {origin : Origin AccountId} {call : Call AccountId}
    (heffect : Effect T env s origin call s') : Logged s s' := by
  cases heffect with
  | create sender room => exact .one _ rfl rfl (by simp [Event.bornId])
  | breed sender kittyId1 kittyId2 kitty1 kitty2 owned1 owned2 genders room =>
      exact .one _ rfl rfl (by simp [Event.bornId])
  | transferSelf sender kittyId info token owned => exact .nothing rfl
  | transfer sender recipient kittyId info token owned other =>
      exact .one _ rfl rfl (by simp [Event.bornId])
  | setPrice sender kittyId price indexed =>
      exact .one _ rfl rfl (by simp [Event.bornId])
  | buy sender owner kittyId maxPrice price info balances other listed enough
      token owned paid =>
      have hmoves := lawful.currency.transfer_moves _ _ _ _ _ other paid
      refine .one (.kittySold owner sender kittyId price) rfl ?_
        (by simp [Event.bornId])
      rw [hmoves.eq_paid]
      rfl
  | autoBreed kittyId1 kittyId2 nonce solution info1 info2 token1 token2 genders
      room =>
      exact .one _ rfl rfl (by simp [Event.bornId])

theorem step {T : Config AccountId} (lawful : T.Lawful) (s : Storage AccountId)
    (input : Input AccountId) : Logged s (Pallet.step T input s).2 := by
  obtain ⟨nonce, hprepared⟩ := s.prepared_eq T input
  cases step_cases lawful s input with
  | failed failure same =>
      rw [same, hprepared]
      exact .nothing rfl
  | succeeded success heffect =>
      rw [hprepared] at heffect
      -- the two storages differ in the nonce only, which `Logged` leaves out
      have hlogged := effect lawful heffect
      exact hlogged

end Logged

/--
The storage after any run is the log read over the storage it started from,
with the nonce put in.
-/
theorem log_restores_storage [Inhabited AccountId] {T : Config AccountId}
    (lawful : T.Lawful) {s₀ : Storage AccountId} (genesis : IsGenesis T s₀)
    (inputs : List (Input AccountId)) :
    let s := run (step T) s₀ inputs
    s = restored s₀ s.events s.autoBreedNonce ∧
      ∀ before event after, s.events = before ++ event :: after →
        ∀ kittyId, event.bornId = some kittyId →
          kittyId = (restored s₀ before 0).nextTokenId := by
  intro s
  obtain ⟨hevents, hnonce⟩ : s₀.events = [] ∧ s₀.withNonce 0 = s₀ := by
    obtain ⟨balances, rfl⟩ := genesis.eq lawful
    exact ⟨rfl, rfl⟩
  have hrun := @Journal.replay_run _ _ (backup AccountId) _ _ _ (step T)
    Storage.events (fun s => s.withNonce 0) (fun _ => True) s₀ hevents trivial
    (fun _ _ _ => trivial) (fun s input _ => Logged.step lawful s input) inputs
  rw [hnonce] at hrun
  constructor
  · rw [restored, hrun.1]
    rfl
  · intro before event after hsplit
    have hfits := hrun.2
    rw [show (run (step T) s₀ inputs).events = _ from hsplit] at hfits
    exact hfits.at_event

end Backup

theorem log_restores_storage_in_can_buy :
    let s := run (step Mock.config) Mock.genesis
      [Mock.signed 100 .create, Mock.signed 100 (.setPrice 0 (some 400)),
        Mock.signed 200 (.buy 100 0 500)]
    s = restored Mock.genesis s.events s.autoBreedNonce := by
  intro s
  exact (log_restores_storage Mock.config_lawful Mock.genesis_isGenesis
    [Mock.signed 100 .create, Mock.signed 100 (.setPrice 0 (some 400)),
      Mock.signed 200 (.buy 100 0 500)]).1

end SubstrateKitties.Pallet
