import SubstrateKitties.Pallet.Config

/-!
# The dispatchable calls

Every function below follows the function of the same name in the pallet,
statement by statement.  A `?` of the source is a bind; writes made before an
error stay in the storage, except in `buy`, which is `#[transactional]`.
-/

namespace SubstrateKitties.Pallet

open SubstrateKitties.Foundation
open SubstrateKitties.Foundation.Dispatch

abbrev PalletCall (AccountId α : Type) :=
  Dispatch (Storage AccountId) DispatchError α

section Calls

variable {AccountId : Type} [DecidableEq AccountId] (T : Config AccountId)
  (env : Env)

/-! ## The framework and the other pallets -/

def ensureSigned : Origin AccountId → PalletCall AccountId AccountId
  | .signed who => pure who
  | _ => fail .badOrigin

def ensureNone : Origin AccountId → PalletCall AccountId Unit
  | .none => pure ()
  | _ => fail .badOrigin

def depositEvent (event : Event AccountId) : PalletCall AccountId Unit :=
  write fun s => { s with events := s.events ++ [event] }

def callNft {α : Type} (m : Dispatch (NftStorage AccountId) DispatchError α) :
    PalletCall AccountId α :=
  zoom Storage.nft (fun nft s => { s with nft }) m

def callCurrency {α : Type}
    (m : Dispatch (AccountId → Balance) DispatchError α) :
    PalletCall AccountId α :=
  zoom Storage.balances (fun balances s => { s with balances }) m

/-! ## Helpers of the pallet -/

def combineDna (dna1 dna2 selector : UInt8) : UInt8 :=
  (~~~selector &&& dna1) ||| (selector &&& dna2)

def Storage.tokens (s : Storage AccountId) (kittyId : TokenId) :
    Option (TokenInfo AccountId) :=
  s.nft.tokens (s.classId, kittyId)

def Storage.kitties (s : Storage AccountId) (owner : AccountId)
    (kittyId : TokenId) : Option Kitty :=
  (s.tokens kittyId).bind fun info =>
    if info.owner = owner then some info.data else none

def randomValue (sender : AccountId) : Vector UInt8 16 :=
  T.blake2_128 (env.randomSeed.toList ++ T.encodeAccountId sender ++
    encodeOption encodeU32 env.extrinsicIndex)

/-- The loop of `do_breed` over the bytes of the DNA. -/
def newDna (kitty1Dna kitty2Dna selector : Vector UInt8 16) :
    Vector UInt8 16 :=
  (List.finRange 16).foldl
    (fun newDna (i : Fin 16) =>
      newDna.set i (combineDna kitty1Dna[i] kitty2Dna[i] selector[i]))
    (Vector.replicate 16 0)

def doBreed (owner : AccountId) (kitty1 kitty2 : Kitty) :
    PalletCall AccountId Unit := do
  ensure (kitty1.gender ≠ kitty2.gender) (.kitties .sameGender)
  let selector := randomValue T env owner
  let newKitty := Kitty.mk (newDna kitty1.dna kitty2.dna selector)
  let classId ← query Storage.classId
  let kittyId ← callNft (T.nft.mint owner classId [] newKitty)
  depositEvent (.kittyBred owner kittyId newKitty)

/--
`u128::MAX / difficulty` panics in the source for a difficulty of zero; here
the quotient is zero and no solution is valid.
-/
def validateSolution (kittyId1 kittyId2 : TokenId) (nonce : UInt32)
    (solution : BitVec 128) : Bool :=
  let payload := encodeU32 kittyId1 ++ encodeU32 kittyId2 ++
    encodeU32 nonce ++ encodeU128 solution
  let hashValue := leValue (T.blake2_128 payload).toList
  decide (hashValue < (2 ^ 128 - 1) / T.defaultDifficulty.toNat)

/-! ## Calls -/

def create (origin : Origin AccountId) : PalletCall AccountId Unit := do
  let sender ← ensureSigned origin
  let dna := randomValue T env sender
  let kitty := Kitty.mk dna
  let classId ← query Storage.classId
  let kittyId ← callNft (T.nft.mint sender classId [] kitty)
  depositEvent (.kittyCreated sender kittyId kitty)

def breed (origin : Origin AccountId) (kittyId1 kittyId2 : TokenId) :
    PalletCall AccountId Unit := do
  let sender ← ensureSigned origin
  let found1 ← query fun s => s.kitties sender kittyId1
  let kitty1 ← okOr found1 (.kitties .invalidKittyId)
  let found2 ← query fun s => s.kitties sender kittyId2
  let kitty2 ← okOr found2 (.kitties .invalidKittyId)
  doBreed T env sender kitty1 kitty2

def transfer (origin : Origin AccountId) (recipient : AccountId)
    (kittyId : TokenId) : PalletCall AccountId Unit := do
  let sender ← ensureSigned origin
  let classId ← query Storage.classId
  callNft (T.nft.transfer sender recipient (classId, kittyId))
  if sender ≠ recipient then do
    write fun s =>
      { s with kittyPrices := Function.update s.kittyPrices kittyId none }
    depositEvent (.kittyTransferred sender recipient kittyId)
  else
    pure ()

def setPrice (origin : Origin AccountId) (kittyId : TokenId)
    (newPrice : Option Balance) : PalletCall AccountId Unit := do
  let sender ← ensureSigned origin
  let isOwner ← query fun s => s.nft.tokensByOwner (sender, (s.classId, kittyId))
  ensure (isOwner = true) (.kitties .notOwner)
  write fun s =>
    { s with kittyPrices := Function.update s.kittyPrices kittyId newPrice }
  depositEvent (.kittyPriceUpdated sender kittyId newPrice)

def buy (origin : Origin AccountId) (owner : AccountId) (kittyId : TokenId)
    (maxPrice : Balance) : PalletCall AccountId Unit := transactional do
  let sender ← ensureSigned origin
  ensure (sender ≠ owner) (.kitties .buyFromSelf)
  tryMutateExists (fun s => s.kittyPrices kittyId)
    (fun value s =>
      { s with kittyPrices := Function.update s.kittyPrices kittyId value })
    fun price => do
      -- `price.take()` leaves `None` behind, the value written at the end
      let price ← okOr price (.kitties .notForSale)
      ensure (maxPrice ≥ price) (.kitties .priceTooLow)
      let classId ← query Storage.classId
      callNft (T.nft.transfer owner sender (classId, kittyId))
      callCurrency (T.currency.transfer sender owner price .keepAlive)
      depositEvent (.kittySold owner sender kittyId price)
      pure ((), none)

def autoBreed (origin : Origin AccountId) (kittyId1 kittyId2 : TokenId)
    (_nonce : UInt32) (_solution : BitVec 128) : PalletCall AccountId Unit := do
  ensureNone origin
  let found1 ← query fun s => s.tokens kittyId1
  let kitty1 ← okOr found1 (.kitties .invalidKittyId)
  let found2 ← query fun s => s.tokens kittyId2
  let kitty2 ← okOr found2 (.kitties .invalidKittyId)
  doBreed T env kitty1.owner kitty1.data kitty2.data

def dispatch (origin : Origin AccountId) :
    Call AccountId → PalletCall AccountId Unit
  | .create => create T env origin
  | .breed kittyId1 kittyId2 => breed T env origin kittyId1 kittyId2
  | .transfer recipient kittyId => transfer T origin recipient kittyId
  | .setPrice kittyId newPrice => setPrice origin kittyId newPrice
  | .buy owner kittyId maxPrice => buy T origin owner kittyId maxPrice
  | .autoBreed kittyId1 kittyId2 nonce solution =>
      autoBreed T env origin kittyId1 kittyId2 nonce solution

/-! ## Unsigned transactions -/

def validateUnsigned (_source : TransactionSource) (call : Call AccountId) :
    Dispatch (Storage AccountId) InvalidTransaction ValidTransaction :=
  match call with
  | .autoBreed kittyId1 kittyId2 nonce solution =>
      if validateSolution T kittyId1 kittyId2 nonce solution then do
        let autoBreedNonce ← query Storage.autoBreedNonce
        if nonce ≠ autoBreedNonce then
          fail .badProof
        else do
          write fun s =>
            { s with autoBreedNonce := saturatingAdd s.autoBreedNonce 1 }
          pure (T.builder.build (T.builder.propagate true
            (T.builder.longevity 64 (T.builder.withTagPrefix "kitties"))))
      else
        fail .badProof
  | _ => fail .call

/-- The framework's default: the validation, with its writes kept. -/
def preDispatch (call : Call AccountId) :
    Dispatch (Storage AccountId) InvalidTransaction Unit := do
  let _ ← validateUnsigned T .inBlock call
  pure ()

end Calls

end SubstrateKitties.Pallet
