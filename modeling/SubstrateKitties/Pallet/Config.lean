import Mathlib.Tactic.Simps.Basic
import SubstrateKitties.Foundation.Ledger
import SubstrateKitties.Pallet.Types

/-!
# Storage and configuration of the pallet

The pallet keeps its kitties in the storage of `orml_nft` and pays through a
`Currency`.  Both are other crates, as are the hash function and the builder of
`ValidTransaction`: they are the fields of `Config`, and what the pallet relies
on is stated as laws over these fields (`Lawful`).
-/

namespace SubstrateKitties.Pallet

open SubstrateKitties.Foundation

/-! ## Storage of `orml_nft` -/

structure TokenInfo (AccountId : Type) where
  metadata : List UInt8
  owner : AccountId
  data : Kitty
  deriving DecidableEq, Repr

structure ClassInfo (AccountId : Type) where
  metadata : List UInt8
  totalIssuance : TokenId
  owner : AccountId
  data : Unit
  deriving DecidableEq, Repr

structure NftStorage (AccountId : Type) where
  nextClassId : ClassId
  nextTokenId : ClassId → TokenId
  classes : ClassId → Option (ClassInfo AccountId)
  tokens : ClassId × TokenId → Option (TokenInfo AccountId)
  tokensByOwner : AccountId × (ClassId × TokenId) → Bool

namespace NftStorage

variable {AccountId : Type}

@[simps]
def empty : NftStorage AccountId where
  nextClassId := 0
  nextTokenId _ := 0
  classes _ := none
  tokens _ := none
  tokensByOwner _ := false

def CanMint (nft : NftStorage AccountId) (classId : ClassId) : Prop :=
  nft.nextTokenId classId ≠ u32Max ∧
    ∃ info, nft.classes classId = some info ∧ info.totalIssuance ≠ u32Max

@[simps]
def insertClass (nft : NftStorage AccountId) (owner : AccountId) :
    NftStorage AccountId :=
  { nft with
    nextClassId := nft.nextClassId + 1
    classes := Function.update nft.classes nft.nextClassId
      (some { metadata := [], totalIssuance := 0, owner, data := () }) }

variable [DecidableEq AccountId]

@[simps]
def insertToken (nft : NftStorage AccountId) (owner : AccountId)
    (classId : ClassId) (data : Kitty) : NftStorage AccountId :=
  { nft with
    nextTokenId := Function.update nft.nextTokenId classId
      (nft.nextTokenId classId + 1)
    classes := Function.update nft.classes classId
      ((nft.classes classId).map fun info =>
        { info with totalIssuance := info.totalIssuance + 1 })
    tokens := Function.update nft.tokens (classId, nft.nextTokenId classId)
      (some { metadata := [], owner, data })
    tokensByOwner := Function.update nft.tokensByOwner
      (owner, (classId, nft.nextTokenId classId)) true }

@[simps]
def moveToken (nft : NftStorage AccountId) (sender recipient : AccountId)
    (token : ClassId × TokenId) : NftStorage AccountId :=
  { nft with
    tokens := Function.update nft.tokens token
      ((nft.tokens token).map fun info => { info with owner := recipient })
    tokensByOwner := Function.update
      (Function.update nft.tokensByOwner (sender, token) false)
      (recipient, token) true }

end NftStorage

structure OrmlNft (AccountId : Type) where
  createClass : AccountId → List UInt8 → Unit →
    Dispatch (NftStorage AccountId) DispatchError ClassId
  mint : AccountId → ClassId → List UInt8 → Kitty →
    Dispatch (NftStorage AccountId) DispatchError TokenId
  transfer : AccountId → AccountId → ClassId × TokenId →
    Dispatch (NftStorage AccountId) DispatchError Unit

section Nft

variable {AccountId : Type} [DecidableEq AccountId]

/--
What the pallet relies on: `create_class` takes the next class id, `mint` takes
the next token id with checked additions, `transfer` only rewrites the owner,
and a call that fails has no effect.
-/
structure OrmlNft.Lawful (nft : OrmlNft AccountId) : Prop where
  createClass_ok : ∀ s owner, s.nextClassId ≠ u32Max →
    nft.createClass owner [] () s = (.ok s.nextClassId, s.insertClass owner)
  mint_exhausted : ∀ s owner classId kitty, s.nextTokenId classId = u32Max →
    nft.mint owner classId [] kitty s = (.error (.nft .noAvailableTokenId), s)
  mint_no_class : ∀ s owner classId kitty, s.nextTokenId classId ≠ u32Max →
    s.classes classId = none →
    nft.mint owner classId [] kitty s = (.error (.nft .classNotFound), s)
  mint_overflow : ∀ s owner classId kitty info,
    s.nextTokenId classId ≠ u32Max → s.classes classId = some info →
    info.totalIssuance = u32Max →
    nft.mint owner classId [] kitty s = (.error (.nft .numOverflow), s)
  mint_ok : ∀ s owner classId kitty, s.CanMint classId →
    nft.mint owner classId [] kitty s =
      (.ok (s.nextTokenId classId), s.insertToken owner classId kitty)
  transfer_missing : ∀ s sender recipient token, s.tokens token = none →
    nft.transfer sender recipient token s = (.error (.nft .tokenNotFound), s)
  transfer_not_owner : ∀ s sender recipient token info,
    s.tokens token = some info → info.owner ≠ sender →
    nft.transfer sender recipient token s = (.error (.nft .noPermission), s)
  transfer_self : ∀ s sender token info,
    s.tokens token = some info → info.owner = sender →
    nft.transfer sender sender token s = (.ok (), s)
  transfer_ok : ∀ s sender recipient token info,
    s.tokens token = some info → info.owner = sender → sender ≠ recipient →
    nft.transfer sender recipient token s = (.ok (), s.moveToken sender recipient token)

namespace OrmlNft.Lawful

variable {nft : OrmlNft AccountId} (lawful : nft.Lawful)

include lawful

theorem mint_eq_ok {s s' : NftStorage AccountId} {owner : AccountId}
    {classId : ClassId} {kitty : Kitty} {id : TokenId} :
    nft.mint owner classId [] kitty s = (.ok id, s') ↔
      s.CanMint classId ∧ s.nextTokenId classId = id ∧
        s.insertToken owner classId kitty = s' := by
  by_cases hid : s.nextTokenId classId = u32Max
  · rw [lawful.mint_exhausted s owner classId kitty hid]
    simp [NftStorage.CanMint, hid]
  · cases hclass : s.classes classId with
    | none =>
        rw [lawful.mint_no_class s owner classId kitty hid hclass]
        simp [NftStorage.CanMint, hclass]
    | some info =>
        by_cases hissuance : info.totalIssuance = u32Max
        · rw [lawful.mint_overflow s owner classId kitty info hid hclass
            hissuance]
          simp [NftStorage.CanMint, hclass, hissuance]
        · have hmint : s.CanMint classId := ⟨hid, info, hclass, hissuance⟩
          rw [lawful.mint_ok s owner classId kitty hmint]
          simp [hmint]

theorem transfer_eq_ok {s s' : NftStorage AccountId} {sender recipient : AccountId}
    {token : ClassId × TokenId} {u : Unit} :
    nft.transfer sender recipient token s = (.ok u, s') ↔
      ∃ info, s.tokens token = some info ∧ info.owner = sender ∧
        (if sender = recipient then s else s.moveToken sender recipient token) = s' := by
  cases htoken : s.tokens token with
  | none =>
      rw [lawful.transfer_missing s sender recipient token htoken]
      simp
  | some info =>
      by_cases howner : info.owner = sender
      · by_cases hself : sender = recipient
        · subst hself
          rw [lawful.transfer_self s sender token info htoken howner]
          simp [howner]
        · rw [lawful.transfer_ok s sender recipient token info htoken howner hself]
          simp [howner, hself]
      · rw [lawful.transfer_not_owner s sender recipient token info htoken howner]
        simp [howner]

end OrmlNft.Lawful

end Nft

/-! ## Currency -/

structure Currency (AccountId : Type) where
  transfer : AccountId → AccountId → Balance → ExistenceRequirement →
    Dispatch (AccountId → Balance) DispatchError Unit

/-- A transfer that keeps the sender alive moves exactly the amount or fails. -/
structure Currency.Lawful {AccountId : Type} (currency : Currency AccountId) :
    Prop where
  transfer_fails : ∀ balances balances' sender recipient amount error,
    currency.transfer sender recipient amount .keepAlive balances =
      (.error error, balances') →
    balances' = balances
  transfer_moves : ∀ balances balances' sender recipient amount, sender ≠ recipient →
    currency.transfer sender recipient amount .keepAlive balances =
      (.ok (), balances') →
    Moves sender recipient amount balances balances'

structure Currency.Local {AccountId : Type} (currency : Currency AccountId) :
    Prop where
  others : ∀ balances sender recipient amount who, who ≠ sender →
    who ≠ recipient →
    (currency.transfer sender recipient amount .keepAlive balances).2 who =
      balances who
  result : ∀ balances balances' sender recipient amount,
    balances sender = balances' sender →
    balances recipient = balances' recipient →
    (currency.transfer sender recipient amount .keepAlive balances).1 =
      (currency.transfer sender recipient amount .keepAlive balances').1
  both : ∀ balances balances' sender recipient amount who,
    balances sender = balances' sender →
    balances recipient = balances' recipient → who = sender ∨ who = recipient →
    (currency.transfer sender recipient amount .keepAlive balances).2 who =
      (currency.transfer sender recipient amount .keepAlive balances').2 who

/-! ## Configuration -/

structure TransactionBuilder where
  withTagPrefix : String → ValidTransactionBuilder
  longevity : UInt64 → ValidTransactionBuilder → ValidTransactionBuilder
  propagate : Bool → ValidTransactionBuilder → ValidTransactionBuilder
  build : ValidTransactionBuilder → ValidTransaction

/-- None of the chained functions adds a tag: that is left to `and_provides`. -/
structure TransactionBuilder.Lawful (builder : TransactionBuilder) : Prop where
  withTagPrefix_provides : ∀ tagPrefix,
    (builder.withTagPrefix tagPrefix).validity.provides = []
  longevity_provides : ∀ longevity b,
    (builder.longevity longevity b).validity.provides = b.validity.provides
  propagate_provides : ∀ propagate b,
    (builder.propagate propagate b).validity.provides = b.validity.provides
  build_provides : ∀ b, (builder.build b).provides = b.validity.provides

structure Config (AccountId : Type) where
  nft : OrmlNft AccountId
  currency : Currency AccountId
  builder : TransactionBuilder
  blake2_128 : List UInt8 → Vector UInt8 16
  encodeAccountId : AccountId → List UInt8
  defaultDifficulty : UInt32

structure Config.Lawful {AccountId : Type} [DecidableEq AccountId]
    (T : Config AccountId) : Prop where
  nft : T.nft.Lawful
  currency : T.currency.Lawful

/-! ## Storage -/

structure Storage (AccountId : Type) where
  nft : NftStorage AccountId
  kittyPrices : TokenId → Option Balance
  classId : ClassId
  autoBreedNonce : UInt32
  balances : AccountId → Balance
  events : List (Event AccountId)

@[simps]
def Storage.empty {AccountId : Type} (balances : AccountId → Balance) :
    Storage AccountId where
  nft := .empty
  kittyPrices _ := none
  classId := 0
  autoBreedNonce := 0
  balances := balances
  events := []

structure Env where
  randomSeed : Vector UInt8 32
  extrinsicIndex : Option UInt32
  deriving DecidableEq, Repr

end SubstrateKitties.Pallet
