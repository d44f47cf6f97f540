import SubstrateKitties.Foundation.Journal
import SubstrateKitties.Runs.Ownership

/-!
# The event log

An indexer keeps one row for each kitty and updates it from the events alone.
Its table is the storage of the pallet after any run, and every event names the
owner, and every sale the price, that the table shows just before it.
-/

namespace SubstrateKitties.Pallet

open SubstrateKitties.Foundation

/-! ## The table of the indexer -/

structure Row (AccountId : Type) where
  owner : AccountId
  kitty : Kitty
  price : Option Balance
  deriving DecidableEq, Repr

abbrev Table (AccountId : Type) := TokenId → Option (Row AccountId)

namespace Table

variable {AccountId : Type}

def empty : Table AccountId := fun _ => none

def insert (table : Table AccountId) (kittyId : TokenId) (owner : AccountId)
    (kitty : Kitty) : Table AccountId :=
  Function.update table kittyId (some ⟨owner, kitty, none⟩)

def handOver (table : Table AccountId) (kittyId : TokenId)
    (recipient : AccountId) : Table AccountId :=
  Function.update table kittyId
    ((table kittyId).map fun row => { row with owner := recipient, price := none })

def setPrice (table : Table AccountId) (kittyId : TokenId)
    (price : Option Balance) : Table AccountId :=
  Function.update table kittyId
    ((table kittyId).map fun row => { row with price })

def record : Event AccountId → Table AccountId → Table AccountId
  | .kittyCreated owner kittyId kitty, table => table.insert kittyId owner kitty
  | .kittyBred owner kittyId kitty, table => table.insert kittyId owner kitty
  | .kittyTransferred _ recipient kittyId, table =>
      table.handOver kittyId recipient
  | .kittyPriceUpdated _ kittyId price, table => table.setPrice kittyId price
  | .kittySold _ newOwner kittyId _, table => table.handOver kittyId newOwner

/-- The fields of an event that repeat what the table already shows. -/
def Agrees (table : Table AccountId) : Event AccountId → Prop
  | .kittyCreated _ kittyId _ => table kittyId = none
  | .kittyBred _ kittyId _ => table kittyId = none
  | .kittyTransferred sender _ kittyId =>
      ∃ row, table kittyId = some row ∧ row.owner = sender
  | .kittyPriceUpdated owner kittyId _ =>
      ∃ row, table kittyId = some row ∧ row.owner = owner
  | .kittySold oldOwner _ kittyId price =>
      ∃ row, table kittyId = some row ∧ row.owner = oldOwner ∧
        row.price = some price

end Table

def indexer (AccountId : Type) : Journal (Event AccountId) (Table AccountId) where
  apply := Table.record
  Fits := Table.Agrees

section EventLog

variable {AccountId : Type}

def Storage.table (s : Storage AccountId) : Table AccountId := fun kittyId =>
  (s.tokens kittyId).map fun info =>
    ⟨info.owner, info.data, s.kittyPrices kittyId⟩

theorem Storage.table_of_token {s : Storage AccountId} {kittyId : TokenId}
    {info : TokenInfo AccountId} (token : s.tokens kittyId = some info) :
    s.table kittyId = some ⟨info.owner, info.data, s.kittyPrices kittyId⟩ := by
  rw [table, token]
  rfl

@[simp] theorem Storage.prepared_table (T : Config AccountId)
    (s : Storage AccountId) (input : Input AccountId) :
    (s.prepared T input).table = s.table := by
  funext kittyId
  simp only [table, prepared_tokens, prepared_kittyPrices]

theorem Population.kittyPrices_eq {s : Storage AccountId} (h : Population s)
    (kittyId : TokenId) :
    s.kittyPrices kittyId = (s.table kittyId).bind Row.price := by
  cases htoken : s.tokens kittyId with
  | none =>
      cases hprice : s.kittyPrices kittyId with
      | none => simp [Storage.table, htoken]
      | some price =>
          have hsome := h.listed kittyId price hprice
          rw [htoken] at hsome
          cases hsome
  | some info =>
      rw [Storage.table_of_token htoken]
      rfl

/-! ## Every change is announced -/

structure Journaled (s s' : Storage AccountId) (events : List (Event AccountId)) :
    Prop where
  appended : s'.events = s.events ++ events
  replayed : s'.table = (indexer AccountId).replay s.table events
  fits : (indexer AccountId).FitsAll s.table events

namespace Journaled

theorem nothing {s s' : Storage AccountId} (hevents : s'.events = s.events)
    (htable : s'.table = s.table) : Journaled s s' [] := by
  refine ⟨?_, htable, trivial⟩
  rw [hevents, List.append_nil]

theorem one {s s' : Storage AccountId} {event : Event AccountId}
    (hevents : s'.events = s.events ++ [event])
    (htable : s'.table = Table.record event s.table)
    (hagrees : s.table.Agrees event) : Journaled s s' [event] :=
  ⟨hevents, htable, hagrees, trivial⟩

variable [DecidableEq AccountId]

theorem born_table {s : Storage AccountId} (h : Population s)
    (owner : AccountId) (kitty : Kitty) (event : Event AccountId) :
    (s.born owner kitty event).table =
      s.table.insert s.nextTokenId owner kitty := by
  funext kittyId
  rw [Storage.table, Storage.born_tokens, Table.insert]
  by_cases hid : kittyId = s.nextTokenId
  · subst hid
    rw [if_pos rfl, Function.update_self, Option.map_some,
      Storage.born_kittyPrices, h.unlisted]
  · rw [if_neg hid, Function.update_of_ne hid]
    rfl

omit [DecidableEq AccountId] in
theorem fresh {s : Storage AccountId} (h : Population s) :
    s.table s.nextTokenId = none := by
  rw [Storage.table, h.fresh]
  rfl

theorem handsOver_table {s s' : Storage AccountId}
    {sender recipient : AccountId} {moved : TokenId}
    (move : HandsOver s s' sender recipient moved) :
    s'.table = s.table.handOver moved recipient := by
  funext kittyId
  rw [Storage.table, move.tokens, move.kittyPrices, Table.handOver]
  by_cases hid : kittyId = moved
  · subst hid
    rw [if_pos rfl, Function.update_self, Function.update_self, Storage.table,
      Option.map_map, Option.map_map]
    rfl
  · rw [if_neg hid, Function.update_of_ne hid, Function.update_of_ne hid]
    rfl

omit [DecidableEq AccountId] in
theorem priced_table (s : Storage AccountId) (owner : AccountId)
    (priced : TokenId) (price : Option Balance) :
    (s.priced owner priced price).table = s.table.setPrice priced price := by
  funext kittyId
  have htokens : (s.priced owner priced price).tokens = s.tokens := rfl
  rw [Storage.table, htokens, Table.setPrice]
  by_cases hid : kittyId = priced
  · subst hid
    rw [Function.update_self, Storage.priced_kittyPrices, Function.update_self,
      Storage.table, Option.map_map]
    rfl
  · rw [Function.update_of_ne hid, Storage.priced_kittyPrices,
      Function.update_of_ne hid]
    rfl

theorem effect {T : Config AccountId} {s s' : Storage AccountId} {env : Env}
    {origin : Origin AccountId} {call : Call AccountId}
    (heffect : Effect T env s origin call s') (h : Population s) :
    ∃ events, Journaled s s' events := by
  cases heffect with
  | create sender room => exact ⟨_, one rfl (born_table h _ _ _) (fresh h)⟩
  | breed sender kittyId1 kittyId2 kitty1 kitty2 owned1 owned2 genders room =>
      exact ⟨_, one rfl (born_table h _ _ _) (fresh h)⟩
  | transferSelf sender kittyId info token owned => exact ⟨_, nothing rfl rfl⟩
  | transfer sender recipient kittyId info token owned other =>
      exact ⟨_, one rfl
        (handsOver_table (.moved s sender recipient kittyId))
        ⟨_, Storage.table_of_token token, owned⟩⟩
  | setPrice sender kittyId price indexed =>
      obtain ⟨info, token, owned⟩ := (h.indexed sender kittyId).mp indexed
      exact ⟨_, one rfl (priced_table s sender kittyId price)
        ⟨_, Storage.table_of_token token, owned⟩⟩
  | buy sender owner kittyId maxPrice price info balances other listed enough
      token owned paid =>
      exact ⟨_, one rfl
        (handsOver_table (.sold s owner sender kittyId price balances))
        ⟨_, Storage.table_of_token token, owned, listed⟩⟩
  | autoBreed kittyId1 kittyId2 nonce solution info1 info2 token1 token2 genders
      room =>
      exact ⟨_, one rfl (born_table h _ _ _) (fresh h)⟩

theorem step {T : Config AccountId} (lawful : T.Lawful) {s : Storage AccountId}
    (h : Population s) (input : Input AccountId) :
    ∃ events, Journaled s (Pallet.step T input s).2 events := by
  cases step_cases lawful s input with
  | failed failure same =>
      rw [same]
      exact ⟨[], nothing (s.prepared_events T input) (s.prepared_table T input)⟩
  | succeeded success heffect =>
      obtain ⟨events, appended, replayed, fits⟩ :=
        effect heffect (h.prepared T input)
      rw [Storage.prepared_events] at appended
      rw [Storage.prepared_table] at replayed fits
      exact ⟨events, appended, replayed, fits⟩

end Journaled

/-! ## Replaying the log -/

theorem log_replays_to_storage [DecidableEq AccountId] [Inhabited AccountId]
    {T : Config AccountId} (lawful : T.Lawful) {s₀ s : Storage AccountId}
    (genesis : IsGenesis T s₀) (inputs : List (Input AccountId))
    (reached : run (step T) s₀ inputs = s) :
    (indexer AccountId).replay .empty s.events = s.table ∧
      (∀ kittyId, s.kittyPrices kittyId = (s.table kittyId).bind Row.price) ∧
      ∀ before event after, s.events = before ++ event :: after →
        ((indexer AccountId).replay .empty before).Agrees event := by
  subst reached
  have hstart : Population s₀ := .of_genesis lawful genesis
  have hempty : s₀.table = .empty ∧ s₀.events = [] := by
    obtain ⟨balances, rfl⟩ := genesis.eq lawful
    exact ⟨rfl, rfl⟩
  obtain ⟨htable, hevents⟩ := hempty
  have hjournaled : ∀ s input, Population s → ∃ events,
      (step T input s).2.events = s.events ++ events ∧
        (step T input s).2.table = (indexer AccountId).replay s.table events ∧
        (indexer AccountId).FitsAll s.table events := by
    intro s input hs
    obtain ⟨events, appended, replayed, fits⟩ := Journaled.step lawful hs input
    exact ⟨events, appended, replayed, fits⟩
  have hrun := Journal.replay_run Storage.events Storage.table hevents hstart
    (fun _ input hs => hs.step lawful input) hjournaled inputs
  rw [htable] at hrun
  refine ⟨hrun.1, (hstart.run lawful inputs).kittyPrices_eq, ?_⟩
  intro before event after hsplit
  have hfits := hrun.2
  rw [hsplit] at hfits
  exact hfits.at_event

end EventLog

theorem log_replays_in_handle_self_transfer :
    let s := run (step Mock.config) Mock.genesis
      [Mock.signed 100 .create, Mock.signed 100 (.transfer 100 0)]
    (indexer Mock.AccountId).replay .empty s.events = s.table := by
  intro s
  exact (log_replays_to_storage Mock.config_lawful Mock.genesis_isGenesis
    [Mock.signed 100 .create, Mock.signed 100 (.transfer 100 0)] rfl).1

end SubstrateKitties.Pallet
