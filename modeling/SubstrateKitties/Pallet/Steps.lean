import SubstrateKitties.Pallet.Atomicity

/-!
# Steps of the chain

A step either succeeds, and then its call had one of the effects of `Effect`,
or it changes nothing but, when it is an accepted unsigned extrinsic, the
nonce.  All invariants of the chain are proved from this inversion.
-/

namespace SubstrateKitties.Pallet

open SubstrateKitties.Foundation
open SubstrateKitties.Foundation.Dispatch

section Steps

variable {AccountId : Type} [DecidableEq AccountId]

/-- The storage in which the call of an input is dispatched. -/
def Storage.prepared (T : Config AccountId) (s : Storage AccountId)
    (input : Input AccountId) : Storage AccountId :=
  match input.action with
  | .dispatch _ _ => s
  | .unsigned call => if accepts T s call then s.validated else s

inductive StepCases (T : Config AccountId) (s : Storage AccountId)
    (input : Input AccountId) (outcome : Outcome) (s' : Storage AccountId) :
    Prop where
  | failed (failure : outcome.succeeded = false)
      (same : s' = s.prepared T input)
  | succeeded (success : outcome = .dispatched (.ok ()))
      (effect : Effect T input.env (s.prepared T input) input.origin input.call
        s')

section Prepared

variable (T : Config AccountId) (s : Storage AccountId)
  (input : Input AccountId)

omit [DecidableEq AccountId]

theorem Storage.prepared_eq :
    ∃ nonce, s.prepared T input = { s with autoBreedNonce := nonce } := by
  unfold Storage.prepared
  cases input.action with
  | dispatch origin call => exact ⟨s.autoBreedNonce, rfl⟩
  | unsigned call =>
      by_cases h : accepts T s call
      · exact ⟨_, if_pos h⟩
      · exact ⟨s.autoBreedNonce, if_neg h⟩

@[simp] theorem Storage.prepared_nft : (s.prepared T input).nft = s.nft := by
  obtain ⟨nonce, heq⟩ := s.prepared_eq T input
  simp [heq]

@[simp] theorem Storage.prepared_kittyPrices :
    (s.prepared T input).kittyPrices = s.kittyPrices := by
  obtain ⟨nonce, heq⟩ := s.prepared_eq T input
  simp [heq]

@[simp] theorem Storage.prepared_classId :
    (s.prepared T input).classId = s.classId := by
  obtain ⟨nonce, heq⟩ := s.prepared_eq T input
  simp [heq]

@[simp] theorem Storage.prepared_balances :
    (s.prepared T input).balances = s.balances := by
  obtain ⟨nonce, heq⟩ := s.prepared_eq T input
  simp [heq]

@[simp] theorem Storage.prepared_events :
    (s.prepared T input).events = s.events := by
  obtain ⟨nonce, heq⟩ := s.prepared_eq T input
  simp [heq]

@[simp] theorem Storage.prepared_tokens :
    (s.prepared T input).tokens = s.tokens := by
  funext kittyId
  simp only [Storage.tokens, Storage.prepared_nft, Storage.prepared_classId]

@[simp] theorem Storage.prepared_nextTokenId :
    (s.prepared T input).nextTokenId = s.nextTokenId := by
  simp only [Storage.nextTokenId, Storage.prepared_nft,
    Storage.prepared_classId]

end Prepared

variable {T : Config AccountId} (lawful : T.Lawful)

include lawful

theorem dispatch_cases (env : Env) (origin : Origin AccountId)
    (call : Call AccountId) (s : Storage AccountId) :
    ((∃ error, (dispatch T env origin call s).1 = .error error) ∧
        (dispatch T env origin call s).2 = s) ∨
      ((dispatch T env origin call s).1 = .ok () ∧
        Effect T env s origin call (dispatch T env origin call s).2) := by
  rcases h : dispatch T env origin call s with ⟨error | u, s'⟩
  · have hs : (dispatch T env origin call s).2 = s :=
      dispatch_atomic lawful.nft.failsClean origin call s error (by rw [h])
    rw [h] at hs
    exact .inl ⟨⟨error, rfl⟩, hs⟩
  · exact .inr ⟨rfl, (dispatch_eq_ok lawful).mp h⟩

theorem step_cases (s : Storage AccountId) (input : Input AccountId) :
    StepCases T s input (step T input s).1 (step T input s).2 := by
  obtain ⟨env, action⟩ := input
  cases action with
  | dispatch origin call =>
      change StepCases T s _ (.dispatched (dispatch T env origin call s).1)
        (dispatch T env origin call s).2
      rcases dispatch_cases lawful env origin call s with
        ⟨⟨error, herror⟩, hs⟩ | ⟨hok, heffect⟩
      · rw [herror]
        exact .failed rfl hs
      · rw [hok]
        exact .succeeded rfl heffect
  | unsigned call =>
      change StepCases T s _ (applyUnsigned T env call s).1
        (applyUnsigned T env call s).2
      rw [applyUnsigned_eq]
      by_cases haccepts : accepts T s call
      · have hprepared : s.prepared T ⟨env, .unsigned call⟩ = s.validated :=
          if_pos haccepts
        rw [if_pos haccepts]
        rcases dispatch_cases lawful env .none call s.validated with
          ⟨⟨error, herror⟩, hs⟩ | ⟨hok, heffect⟩
        · rw [herror]
          exact .failed rfl (hs.trans hprepared.symm)
        · rw [hok]
          refine .succeeded rfl ?_
          rw [hprepared]
          exact heffect
      · rw [if_neg haccepts]
        exact .failed rfl (if_neg haccepts).symm

omit lawful in
theorem Effect.appends {s s' : Storage AccountId} {env : Env}
    {origin : Origin AccountId} {call : Call AccountId}
    (heffect : Effect T env s origin call s') : s.events <+: s'.events := by
  cases heffect with
  | transferSelf => exact List.prefix_rfl
  | _ => exact ⟨_, rfl⟩

theorem step_appends (s : Storage AccountId) (input : Input AccountId) :
    s.events <+: (step T input s).2.events := by
  cases step_cases lawful s input with
  | failed failure same => rw [same, Storage.prepared_events]
  | succeeded success heffect =>
      rw [← s.prepared_events T input]
      exact heffect.appends

theorem step_of_effect {s s' : Storage AccountId} {env : Env}
    {origin : Origin AccountId} {call : Call AccountId}
    (heffect : Effect T env s origin call s') :
    step T ⟨env, .dispatch origin call⟩ s = (.dispatched (.ok ()), s') := by
  have hok : dispatch T env origin call s = (.ok (), s') :=
    (dispatch_eq_ok lawful).mpr heffect
  simp [step, hok]

theorem effect_of_success {s : Storage AccountId} {env : Env}
    {origin : Origin AccountId} {call : Call AccountId}
    (success : (transition (step T) s ⟨env, .dispatch origin call⟩).outcome =
      .dispatched (.ok ())) :
    Effect T env s origin call (step T ⟨env, .dispatch origin call⟩ s).2 := by
  have hok : (step T ⟨env, .dispatch origin call⟩ s).1 =
    .dispatched (.ok ()) := success
  cases step_cases lawful s ⟨env, .dispatch origin call⟩ with
  | failed failure same =>
      rw [hok] at failure
      cases failure
  | succeeded success' heffect => exact heffect

end Steps

end SubstrateKitties.Pallet
