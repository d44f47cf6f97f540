import SubstrateKitties.Pallet.Mock

/-!
# Validation of unsigned transactions

`validate_unsigned` accepts an `auto_breed` whose solution is valid and whose
nonce is the current one, and moves the nonce on as it accepts.  The
transaction it returns carries the tag prefix of the pallet and no tag.
-/

namespace SubstrateKitties.Pallet

open SubstrateKitties.Foundation
open SubstrateKitties.Foundation.Dispatch

section Validation

variable {AccountId : Type} (T : Config AccountId)

@[simps]
def Storage.validated (s : Storage AccountId) : Storage AccountId :=
  { s with autoBreedNonce := saturatingAdd s.autoBreedNonce 1 }

def accepts (s : Storage AccountId) : Call AccountId → Bool
  | .autoBreed kittyId1 kittyId2 nonce solution =>
      validateSolution T kittyId1 kittyId2 nonce solution &&
        nonce == s.autoBreedNonce
  | _ => false

def rejection : Call AccountId → InvalidTransaction
  | .autoBreed _ _ _ _ => .badProof
  | _ => .call

def kittiesTransaction : ValidTransaction :=
  T.builder.build (T.builder.propagate true
    (T.builder.longevity 64 (T.builder.withTagPrefix "kitties")))

theorem accepts_iff {s : Storage AccountId} {call : Call AccountId} :
    accepts T s call = true ↔
      ∃ kittyId1 kittyId2 solution,
        call = .autoBreed kittyId1 kittyId2 s.autoBreedNonce solution ∧
          validateSolution T kittyId1 kittyId2 s.autoBreedNonce solution =
            true := by
  constructor
  · intro h
    cases call with
    | autoBreed kittyId1 kittyId2 nonce solution =>
        simp only [accepts, Bool.and_eq_true, beq_iff_eq] at h
        obtain ⟨hvalid, rfl⟩ := h
        exact ⟨kittyId1, kittyId2, solution, rfl, hvalid⟩
    | _ => simp [accepts] at h
  · rintro ⟨kittyId1, kittyId2, solution, rfl, hvalid⟩
    simp [accepts, hvalid]

theorem validateUnsigned_eq (source : TransactionSource)
    (call : Call AccountId) (s : Storage AccountId) :
    validateUnsigned T source call s =
      if accepts T s call then (.ok (kittiesTransaction T), s.validated)
      else (.error (rejection call), s) := by
  cases call with
  | autoBreed kittyId1 kittyId2 nonce solution =>
      simp only [validateUnsigned, accepts, Bool.and_eq_true, beq_iff_eq]
      by_cases hvalid : validateSolution T kittyId1 kittyId2 nonce solution
      · rw [if_pos hvalid, bind_apply]
        by_cases hnonce : nonce = s.autoBreedNonce
        · subst hnonce
          simp [hvalid, query, bind_apply, pure_apply, write,
            kittiesTransaction, Storage.validated]
        · simp [hnonce, query, fail, rejection]
      · simp [hvalid, fail, rejection]
  | _ => rfl

theorem preDispatch_eq (call : Call AccountId) (s : Storage AccountId) :
    preDispatch T call s =
      if accepts T s call then (.ok (), s.validated)
      else (.error (rejection call), s) := by
  rw [preDispatch, bind_apply, validateUnsigned_eq]
  by_cases h : accepts T s call
  · rw [if_pos h, if_pos h]
    rfl
  · rw [if_neg h, if_neg h]

theorem applyUnsigned_eq [DecidableEq AccountId] (env : Env)
    (call : Call AccountId) (s : Storage AccountId) :
    applyUnsigned T env call s =
      if accepts T s call then
        (.dispatched (dispatch T env .none call s.validated).1,
          (dispatch T env .none call s.validated).2)
      else (.rejected (rejection call), s) := by
  rw [applyUnsigned, preDispatch_eq]
  by_cases h : accepts T s call
  · rw [if_pos h, if_pos h]
  · rw [if_neg h, if_neg h]

variable {T}

theorem validateUnsigned_eq_ok {source : TransactionSource}
    {call : Call AccountId} {s s' : Storage AccountId} {v : ValidTransaction} :
    validateUnsigned T source call s = (.ok v, s') ↔
      accepts T s call = true ∧ v = kittiesTransaction T ∧
        s' = s.validated := by
  rw [validateUnsigned_eq]
  by_cases h : accepts T s call
  · simp [h, eq_comm]
  · simp [h]

/-! ## Tags -/

theorem kittiesTransaction_provides (lawful : T.builder.Lawful) :
    (kittiesTransaction T).provides = [] := by
  rw [kittiesTransaction, lawful.build_provides, lawful.propagate_provides,
    lawful.longevity_provides, lawful.withTagPrefix_provides]

/-- Two transactions that provide a common tag conflict in the pool. -/
def SharesTag (v₁ v₂ : ValidTransaction) : Prop :=
  ∃ tag, tag ∈ v₁.provides ∧ tag ∈ v₂.provides

/--
Accepted calls never share a tag, so the tags tell the nonces apart exactly for
calls whose nonces differ.
-/
theorem tags_tell_nonces_iff (lawful : T.builder.Lawful)
    {source₁ source₂ : TransactionSource} {s₁ s₂ s₁' s₂' : Storage AccountId}
    {a₁ b₁ a₂ b₂ : TokenId} {nonce₁ nonce₂ : UInt32}
    {solution₁ solution₂ : BitVec 128} {v₁ v₂ : ValidTransaction}
    (first : validateUnsigned T source₁ (.autoBreed a₁ b₁ nonce₁ solution₁) s₁ =
      (.ok v₁, s₁'))
    (second : validateUnsigned T source₂ (.autoBreed a₂ b₂ nonce₂ solution₂)
      s₂ = (.ok v₂, s₂')) :
    (SharesTag v₁ v₂ ↔ nonce₁ = nonce₂) ↔ nonce₁ ≠ nonce₂ := by
  obtain ⟨-, rfl, -⟩ := validateUnsigned_eq_ok.mp first
  obtain ⟨-, rfl, -⟩ := validateUnsigned_eq_ok.mp second
  have hshares : ¬ SharesTag (kittiesTransaction T) (kittiesTransaction T) := by
    rintro ⟨tag, htag, -⟩
    rw [kittiesTransaction_provides lawful] at htag
    exact absurd htag List.not_mem_nil
  constructor
  · intro h heq
    exact hshares (h.mpr heq)
  · intro hne
    exact ⟨fun h => absurd h hshares, fun h => absurd h hne⟩

end Validation

theorem Mock.first_proof_accepted :
    validateUnsigned Mock.config .inBlock (.autoBreed 0 1 0 2) Mock.genesis =
      (.ok (kittiesTransaction Mock.config), Mock.genesis.validated) := by
  have h : accepts Mock.config Mock.genesis (.autoBreed 0 1 0 2) = true := by
    decide +kernel
  rw [validateUnsigned_eq, if_pos h]

theorem tags_tell_nonces_of_same_call :
    (SharesTag (kittiesTransaction Mock.config)
      (kittiesTransaction Mock.config) ↔ (0 : UInt32) = 0) ↔
        (0 : UInt32) ≠ 0 :=
  tags_tell_nonces_iff Mock.builder_lawful Mock.first_proof_accepted
    Mock.first_proof_accepted

theorem accepted_call_shares_no_tag :
    ∃ v s', validateUnsigned Mock.config .inBlock (.autoBreed 0 1 0 2)
        Mock.genesis = (.ok v, s') ∧
      ¬ (SharesTag v v ↔ (0 : UInt32) = 0) := by
  refine ⟨_, _, Mock.first_proof_accepted, ?_⟩
  rintro ⟨-, h⟩
  obtain ⟨tag, htag, -⟩ := h rfl
  rw [kittiesTransaction_provides Mock.builder_lawful] at htag
  exact absurd htag List.not_mem_nil

end SubstrateKitties.Pallet
