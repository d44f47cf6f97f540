import SubstrateKitties.Foundation.Frame
import SubstrateKitties.Pallet.Calls

/-!
# Dispatched calls do not see the nonce

The nonce of the accepted proofs belongs to the validation alone.  No
dispatched call reads it or writes it, whatever its origin and its result.
-/

namespace SubstrateKitties.Pallet

open SubstrateKitties.Foundation
open SubstrateKitties.Foundation.Dispatch

section NonceForeign

variable {AccountId : Type}

def Storage.withNonce (s : Storage AccountId) (nonce : UInt32) :
    Storage AccountId :=
  { s with autoBreedNonce := nonce }

variable (nonce : UInt32)

theorem ensureSigned_foreign (origin : Origin AccountId) :
    Foreign (·.withNonce nonce) (ensureSigned origin) := by
  cases origin <;> exact fun s => rfl

theorem ensureNone_foreign (origin : Origin AccountId) :
    Foreign (·.withNonce nonce) (ensureNone origin) := by
  cases origin <;> exact fun s => rfl

theorem depositEvent_foreign (event : Event AccountId) :
    Foreign (·.withNonce nonce) (depositEvent event) :=
  .write fun _ => rfl

theorem callNft_foreign {α : Type}
    (m : Dispatch (NftStorage AccountId) DispatchError α) :
    Foreign (·.withNonce nonce) (callNft m) :=
  Foreign.zoom (fun _ => rfl) fun _ _ => rfl

theorem callCurrency_foreign {α : Type}
    (m : Dispatch (AccountId → Balance) DispatchError α) :
    Foreign (·.withNonce nonce) (callCurrency m) :=
  Foreign.zoom (fun _ => rfl) fun _ _ => rfl

variable (T : Config AccountId) (env : Env)

theorem doBreed_foreign (owner : AccountId) (kitty1 kitty2 : Kitty) :
    Foreign (·.withNonce nonce) (doBreed T env owner kitty1 kitty2) := by
  refine .bind (.ensure _ _) fun _ => ?_
  refine .bind (.query fun _ => rfl) fun classId => ?_
  refine .bind (callNft_foreign nonce _) fun kittyId => ?_
  exact depositEvent_foreign nonce _

theorem create_foreign (origin : Origin AccountId) :
    Foreign (·.withNonce nonce) (create T env origin) := by
  refine .bind (ensureSigned_foreign nonce origin) fun sender => ?_
  refine .bind (.query fun _ => rfl) fun classId => ?_
  refine .bind (callNft_foreign nonce _) fun kittyId => ?_
  exact depositEvent_foreign nonce _

theorem setPrice_foreign (origin : Origin AccountId) (kittyId : TokenId)
    (newPrice : Option Balance) :
    Foreign (·.withNonce nonce) (setPrice origin kittyId newPrice) := by
  refine .bind (ensureSigned_foreign nonce origin) fun sender => ?_
  refine .bind (.query fun _ => rfl) fun isOwner => ?_
  refine .bind (.ensure _ _) fun _ => ?_
  refine .bind (.write fun _ => rfl) fun _ => ?_
  exact depositEvent_foreign nonce _

theorem autoBreed_foreign (origin : Origin AccountId)
    (kittyId1 kittyId2 : TokenId) (proofNonce : UInt32)
    (solution : BitVec 128) :
    Foreign (·.withNonce nonce)
      (autoBreed T env origin kittyId1 kittyId2 proofNonce solution) := by
  refine .bind (ensureNone_foreign nonce origin) fun _ => ?_
  refine .bind (.query fun _ => rfl) fun found1 => ?_
  refine .bind (.okOr _ _) fun info1 => ?_
  refine .bind (.query fun _ => rfl) fun found2 => ?_
  refine .bind (.okOr _ _) fun info2 => ?_
  exact doBreed_foreign nonce T env info1.owner info1.data info2.data

variable [DecidableEq AccountId] (origin : Origin AccountId)

theorem breed_foreign (kittyId1 kittyId2 : TokenId) :
    Foreign (·.withNonce nonce) (breed T env origin kittyId1 kittyId2) := by
  refine .bind (ensureSigned_foreign nonce origin) fun sender => ?_
  refine .bind (.query fun _ => rfl) fun found1 => ?_
  refine .bind (.okOr _ _) fun kitty1 => ?_
  refine .bind (.query fun _ => rfl) fun found2 => ?_
  refine .bind (.okOr _ _) fun kitty2 => ?_
  exact doBreed_foreign nonce T env sender kitty1 kitty2

theorem transfer_foreign (recipient : AccountId) (kittyId : TokenId) :
    Foreign (·.withNonce nonce) (transfer T origin recipient kittyId) := by
  refine .bind (ensureSigned_foreign nonce origin) fun sender => ?_
  refine .bind (.query fun _ => rfl) fun classId => ?_
  refine .bind (callNft_foreign nonce _) fun _ => ?_
  split
  · refine .bind (.write fun _ => rfl) fun _ => ?_
    exact depositEvent_foreign nonce _
  · exact .pure _

theorem buy_foreign (owner : AccountId) (kittyId : TokenId)
    (maxPrice : Balance) :
    Foreign (·.withNonce nonce) (buy T origin owner kittyId maxPrice) := by
  refine Foreign.transactional ?_
  refine .bind (ensureSigned_foreign nonce origin) fun sender => ?_
  refine .bind (.ensure _ _) fun _ => ?_
  refine Foreign.tryMutateExists (fun _ => rfl) (fun _ _ => rfl) fun price => ?_
  refine .bind (.okOr _ _) fun price => ?_
  refine .bind (.ensure _ _) fun _ => ?_
  refine .bind (.query fun _ => rfl) fun classId => ?_
  refine .bind (callNft_foreign nonce _) fun _ => ?_
  refine .bind (callCurrency_foreign nonce _) fun _ => ?_
  exact .bind (depositEvent_foreign nonce _) fun _ => .pure _

theorem dispatch_foreign (call : Call AccountId) :
    Foreign (·.withNonce nonce) (dispatch T env origin call) := by
  cases call with
  | create => exact create_foreign nonce T env origin
  | breed => exact breed_foreign nonce T env origin _ _
  | transfer => exact transfer_foreign nonce T origin _ _
  | setPrice => exact setPrice_foreign nonce origin _ _
  | buy => exact buy_foreign nonce T origin _ _ _
  | autoBreed kittyId1 kittyId2 proofNonce solution =>
      exact autoBreed_foreign nonce T env origin _ _ proofNonce solution

end NonceForeign

end SubstrateKitties.Pallet
