import SubstrateKitties.Foundation.Lists
import SubstrateKitties.Runs.EventLog

/-!
# The market

What the pallet is for, without the storage it is kept in: a list of kitties
with their owners and prices, to which kitties are only ever added, the balances
of the accounts, and the number of proofs that have been accepted.  The id of a
kitty is its place in the list.
-/

namespace SubstrateKitties.Pallet

open SubstrateKitties.Foundation

structure Market (AccountId : Type) where
  rows : List (Row AccountId)
  proofs : Nat
  balances : AccountId → Balance
  log : List (Event AccountId)

/-- What the market takes from outside: chance, proofs and payments. -/
structure Rules (AccountId : Type) where
  draw : Env → AccountId → Vector UInt8 16
  solves : TokenId → TokenId → UInt32 → BitVec 128 → Bool
  pay : AccountId → AccountId → Balance → (AccountId → Balance) →
    Except DispatchError (AccountId → Balance)

namespace Market

variable {AccountId : Type}

def opening (balances : AccountId → Balance) : Market AccountId where
  rows := []
  proofs := 0
  balances := balances
  log := []

def find (M : Market AccountId) (kittyId : TokenId) : Option (Row AccountId) :=
  M.rows[kittyId.toNat]?

/-- There is no room for more: the last id is never given out. -/
def maxKitties : Nat := 2 ^ 32 - 1

def mint (M : Market AccountId) (owner : AccountId) (kitty : Kitty)
    (announce : AccountId → TokenId → Kitty → Event AccountId) :
    Except DispatchError (Market AccountId) :=
  if M.rows.length = maxKitties then .error (.nft .noAvailableTokenId)
  else .ok { M with
    rows := M.rows ++ [⟨owner, kitty, none⟩]
    log := M.log ++ [announce owner (UInt32.ofNat M.rows.length) kitty] }

def mate (M : Market AccountId) (owner : AccountId) (kitty1 kitty2 : Kitty)
    (selector : Vector UInt8 16) : Except DispatchError (Market AccountId) :=
  if kitty1.gender = kitty2.gender then .error (.kitties .sameGender)
  else M.mint owner ⟨newDna kitty1.dna kitty2.dna selector⟩ .kittyBred

@[simps]
def handOver (M : Market AccountId) (kittyId : TokenId) (recipient : AccountId)
    (event : Event AccountId) : Market AccountId :=
  { M with
    rows := M.rows.modify kittyId.toNat fun row =>
      { row with owner := recipient, price := none }
    log := M.log ++ [event] }

@[simps]
def reprice (M : Market AccountId) (who : AccountId) (kittyId : TokenId)
    (price : Option Balance) : Market AccountId :=
  { M with
    rows := M.rows.modify kittyId.toNat fun row => { row with price }
    log := M.log ++ [.kittyPriceUpdated who kittyId price] }

variable [DecidableEq AccountId] (rules : Rules AccountId) (env : Env)

/-! ## Requests -/

def breedOwn (M : Market AccountId) (who : AccountId)
    (kittyId1 kittyId2 : TokenId) : Except DispatchError (Market AccountId) :=
  match M.find kittyId1, M.find kittyId2 with
  | some row1, some row2 =>
      if row1.owner = who ∧ row2.owner = who then
        M.mate who row1.kitty row2.kitty (rules.draw env who)
      else .error (.kitties .invalidKittyId)
  | _, _ => .error (.kitties .invalidKittyId)

/-- A kitten for the owner of the first parent, whoever owns the second. -/
def breedAny (M : Market AccountId) (kittyId1 kittyId2 : TokenId) :
    Except DispatchError (Market AccountId) :=
  match M.find kittyId1, M.find kittyId2 with
  | some row1, some row2 =>
      M.mate row1.owner row1.kitty row2.kitty (rules.draw env row1.owner)
  | _, _ => .error (.kitties .invalidKittyId)

def give (M : Market AccountId) (who recipient : AccountId)
    (kittyId : TokenId) : Except DispatchError (Market AccountId) :=
  match M.find kittyId with
  | none => .error (.nft .tokenNotFound)
  | some row =>
      if row.owner ≠ who then .error (.nft .noPermission)
      else if who = recipient then .ok M
      else .ok (M.handOver kittyId recipient
        (.kittyTransferred who recipient kittyId))

def list (M : Market AccountId) (who : AccountId) (kittyId : TokenId)
    (price : Option Balance) : Except DispatchError (Market AccountId) :=
  match M.find kittyId with
  | none => .error (.kitties .notOwner)
  | some row =>
      if row.owner = who then .ok (M.reprice who kittyId price)
      else .error (.kitties .notOwner)

def purchase (M : Market AccountId) (who owner : AccountId) (kittyId : TokenId)
    (maxPrice : Balance) : Except DispatchError (Market AccountId) :=
  if who = owner then .error (.kitties .buyFromSelf)
  else match (M.find kittyId).bind fun row => row.price.map (row, ·) with
  | none => .error (.kitties .notForSale)
  | some (row, price) =>
      if maxPrice < price then .error (.kitties .priceTooLow)
      else if row.owner ≠ owner then .error (.nft .noPermission)
      else match rules.pay who owner price M.balances with
      | .error error => .error error
      | .ok balances =>
          .ok { M.handOver kittyId who (.kittySold owner who kittyId price) with
            balances }

def perform (M : Market AccountId) (origin : Origin AccountId) :
    Call AccountId → Except DispatchError (Market AccountId)
  | .create => match origin with
      | .signed who => M.mint who ⟨rules.draw env who⟩ .kittyCreated
      | _ => .error .badOrigin
  | .breed kittyId1 kittyId2 => match origin with
      | .signed who => M.breedOwn rules env who kittyId1 kittyId2
      | _ => .error .badOrigin
  | .transfer recipient kittyId => match origin with
      | .signed who => M.give who recipient kittyId
      | _ => .error .badOrigin
  | .setPrice kittyId price => match origin with
      | .signed who => M.list who kittyId price
      | _ => .error .badOrigin
  | .buy owner kittyId maxPrice => match origin with
      | .signed who => M.purchase rules who owner kittyId maxPrice
      | _ => .error .badOrigin
  | .autoBreed kittyId1 kittyId2 _ _ => match origin with
      | .none => M.breedAny rules env kittyId1 kittyId2
      | _ => .error .badOrigin

/-! ## Steps -/

def settle (M : Market AccountId)
    (result : Except DispatchError (Market AccountId)) :
    Outcome × Market AccountId :=
  match result with
  | .error error => (.dispatched (.error error), M)
  | .ok M' => (.dispatched (.ok ()), M')

def admits (M : Market AccountId) : Call AccountId → Bool
  | .autoBreed kittyId1 kittyId2 nonce solution =>
      rules.solves kittyId1 kittyId2 nonce solution &&
        nonce == counter M.proofs
  | _ => false

def step (input : Input AccountId) (M : Market AccountId) :
    Outcome × Market AccountId :=
  match input.action with
  | .dispatch origin call =>
      M.settle (M.perform rules input.env origin call)
  | .unsigned call =>
      if M.admits rules call then
        let M' := { M with proofs := M.proofs + 1 }
        M'.settle (M'.perform rules input.env .none call)
      else (.rejected (rejection call), M)

end Market

end SubstrateKitties.Pallet
