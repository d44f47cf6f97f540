import SubstrateKitties.Foundation.Dispatch
import SubstrateKitties.Foundation.Words

/-!
# Data types of the kitties pallet

`ClassId` and `TokenId` are the 32-bit types the runtime gives to `orml_nft`.
The pallet compares prices and hands them to the currency, but never computes
with them, so a balance is a natural number.
-/

namespace SubstrateKitties.Pallet

open SubstrateKitties.Foundation

abbrev ClassId := UInt32

/-- `KittyIndexOf` of the source. -/
abbrev TokenId := UInt32

abbrev Balance := Nat

structure Kitty where
  dna : Vector UInt8 16
  deriving DecidableEq, Repr

inductive KittyGender where
  | male
  | female
  deriving DecidableEq, Repr

def Kitty.gender (kitty : Kitty) : KittyGender :=
  if kitty.dna[0] % 2 = 0 then .male else .female

inductive Event (AccountId : Type) where
  | kittyCreated (owner : AccountId) (kittyId : TokenId) (kitty : Kitty)
  | kittyBred (owner : AccountId) (kittyId : TokenId) (kitty : Kitty)
  | kittyTransferred (sender recipient : AccountId) (kittyId : TokenId)
  | kittyPriceUpdated (owner : AccountId) (kittyId : TokenId)
      (price : Option Balance)
  | kittySold (oldOwner newOwner : AccountId) (kittyId : TokenId)
      (price : Balance)
  deriving DecidableEq, Repr

inductive Error where
  | invalidKittyId
  | sameGender
  | notOwner
  | notForSale
  | priceTooLow
  | buyFromSelf
  deriving DecidableEq, Repr

/-- The errors of `orml_nft` that its documented behaviour gives a cause for. -/
inductive NftError where
  | noAvailableTokenId
  | tokenNotFound
  | classNotFound
  | noPermission
  | numOverflow
  deriving DecidableEq, Repr

/-- `module` stands for the errors of every other pallet. -/
inductive DispatchError where
  | badOrigin
  | kitties (error : Error)
  | nft (error : NftError)
  | module (index code : Nat)
  deriving DecidableEq, Repr

inductive Origin (AccountId : Type) where
  | root
  | signed (who : AccountId)
  | none
  deriving DecidableEq, Repr

inductive Call (AccountId : Type) where
  | create
  | breed (kittyId1 kittyId2 : TokenId)
  | transfer (recipient : AccountId) (kittyId : TokenId)
  | setPrice (kittyId : TokenId) (newPrice : Option Balance)
  | buy (owner : AccountId) (kittyId : TokenId) (maxPrice : Balance)
  | autoBreed (kittyId1 kittyId2 : TokenId) (nonce : UInt32)
      (solution : BitVec 128)
  deriving DecidableEq, Repr

inductive TransactionSource where
  | inBlock
  | localNode
  | external
  deriving DecidableEq, Repr

inductive InvalidTransaction where
  | call
  | badProof
  deriving DecidableEq, Repr

inductive ExistenceRequirement where
  | keepAlive
  | allowDeath
  deriving DecidableEq, Repr

/-! ## Validity of a transaction in the pool -/

structure ValidTransaction where
  priority : Nat
  requires : List (List UInt8)
  provides : List (List UInt8)
  longevity : UInt64
  propagate : Bool
  deriving DecidableEq, Repr

structure ValidTransactionBuilder where
  tagPrefix : Option String
  validity : ValidTransaction
  deriving DecidableEq, Repr

end SubstrateKitties.Pallet
