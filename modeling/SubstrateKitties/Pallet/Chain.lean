import SubstrateKitties.Foundation.Trace
import SubstrateKitties.Pallet.Calls

/-!
# The pallet as a state machine

An input of the chain is a call dispatched with an origin, or an unsigned
extrinsic, which has to pass `pre_dispatch` before it is dispatched with origin
none.  A run starts from the storage that the genesis build leaves.
-/

namespace SubstrateKitties.Pallet

open SubstrateKitties.Foundation
open SubstrateKitties.Foundation.Dispatch

inductive Action (AccountId : Type) where
  | dispatch (origin : Origin AccountId) (call : Call AccountId)
  | unsigned (call : Call AccountId)
  deriving DecidableEq, Repr

structure Input (AccountId : Type) where
  env : Env
  action : Action AccountId
  deriving DecidableEq, Repr

/-- `rejected` means that the validation of an unsigned extrinsic refused it. -/
inductive Outcome where
  | rejected (reason : InvalidTransaction)
  | dispatched (result : Except DispatchError Unit)

namespace Input

variable {AccountId : Type}

def origin (input : Input AccountId) : Origin AccountId :=
  match input.action with
  | .dispatch origin _ => origin
  | .unsigned _ => .none

def call (input : Input AccountId) : Call AccountId :=
  match input.action with
  | .dispatch _ call => call
  | .unsigned call => call

theorem action_of_signed {input : Input AccountId} {who : AccountId}
    {call : Call AccountId} (horigin : input.origin = .signed who)
    (hcall : input.call = call) :
    input.action = .dispatch (.signed who) call := by
  obtain ⟨env, action⟩ := input
  cases action with
  | dispatch origin call' =>
      cases horigin
      cases hcall
      rfl
  | unsigned call' => cases horigin

end Input

def Outcome.succeeded : Outcome → Bool
  | .dispatched (.ok _) => true
  | _ => false

section Chain

variable {AccountId : Type} [DecidableEq AccountId] (T : Config AccountId)

def applyUnsigned (env : Env) (call : Call AccountId)
    (s : Storage AccountId) : Outcome × Storage AccountId :=
  match preDispatch T call s with
  | (.error reason, s') => (.rejected reason, s')
  | (.ok _, s') =>
      let (result, s'') := dispatch T env .none call s'
      (.dispatched result, s'')

def step (input : Input AccountId) (s : Storage AccountId) :
    Outcome × Storage AccountId :=
  match input.action with
  | .dispatch origin call =>
      let (result, s') := dispatch T input.env origin call s
      (.dispatched result, s')
  | .unsigned call => applyUnsigned T input.env call s

abbrev Step (AccountId : Type) :=
  Transition (Storage AccountId) (Input AccountId) Outcome

/-! ## Genesis -/

variable [Inhabited AccountId]

/-- `GenesisConfig::build`; a failing `create_class` panics there. -/
def build : PalletCall AccountId Unit := do
  let classId ← callNft (T.nft.createClass default [] ())
  write fun s => { s with classId }

def IsGenesis (s : Storage AccountId) : Prop :=
  ∃ balances, build T (.empty balances) = (.ok (), s)

def Reachable (s : Storage AccountId) : Prop :=
  ∃ s₀ inputs, IsGenesis T s₀ ∧ run (step T) s₀ inputs = s

theorem IsGenesis.eq {T : Config AccountId} (lawful : T.Lawful)
    {s : Storage AccountId} (h : IsGenesis T s) :
    ∃ balances, s =
      { Storage.empty balances with nft := NftStorage.empty.insertClass default } := by
  obtain ⟨balances, hbuild⟩ := h
  refine ⟨balances, ?_⟩
  have hroom : (NftStorage.empty : NftStorage AccountId).nextClassId ≠ u32Max := by
    change (0 : UInt32) ≠ u32Max
    decide
  have hclass := lawful.nft.createClass_ok NftStorage.empty default hroom
  simp only [build, callNft, bind_eq_ok, zoom_eq_ok, write_eq_ok] at hbuild
  obtain ⟨classId, _, ⟨nft, hcreate, rfl⟩, rfl⟩ := hbuild
  rw [show (Storage.empty balances).nft = NftStorage.empty from rfl,
    hclass] at hcreate
  cases hcreate
  rfl

theorem Reachable.of_genesis {T : Config AccountId} {s : Storage AccountId}
    (h : IsGenesis T s) : Reachable T s := ⟨s, [], h, rfl⟩

theorem Reachable.run {T : Config AccountId} {s : Storage AccountId}
    (h : Reachable T s) (inputs : List (Input AccountId)) :
    Reachable T (run (step T) s inputs) := by
  obtain ⟨s₀, before, hgenesis, rfl⟩ := h
  exact ⟨s₀, before ++ inputs, hgenesis, run_append (step T) s₀ before inputs⟩

end Chain

end SubstrateKitties.Pallet
