import SubstrateKitties.Pallet.Effects
import SubstrateKitties.Pallet.Validation

/-!
# Failing calls

Only `buy` is rolled back by the framework.  The other calls are atomic because
each of them makes all its checks before its first write, and nothing after
that write can fail.
-/

namespace SubstrateKitties.Pallet

open SubstrateKitties.Foundation
open SubstrateKitties.Foundation.Dispatch

structure OrmlNft.FailsClean {AccountId : Type} (nft : OrmlNft AccountId) :
    Prop where
  mint : ∀ owner classId kitty, Atomic (nft.mint owner classId [] kitty)
  transfer : ∀ sender recipient token,
    Atomic (nft.transfer sender recipient token)

theorem OrmlNft.Lawful.failsClean {AccountId : Type} [DecidableEq AccountId]
    {nft : OrmlNft AccountId} (lawful : nft.Lawful) : nft.FailsClean where
  mint owner classId kitty := by
    intro s e h
    by_cases hid : s.nextTokenId classId = u32Max
    · rw [lawful.mint_exhausted s owner classId kitty hid]
    · cases hclass : s.classes classId with
      | none => rw [lawful.mint_no_class s owner classId kitty hid hclass]
      | some info =>
          by_cases hissuance : info.totalIssuance = u32Max
          · rw [lawful.mint_overflow s owner classId kitty info hid hclass
              hissuance]
          · rw [lawful.mint_ok s owner classId kitty
              ⟨hid, info, hclass, hissuance⟩] at h
            cases h
  transfer sender recipient token := by
    intro s e h
    cases htoken : s.tokens token with
    | none => rw [lawful.transfer_missing s sender recipient token htoken]
    | some info =>
        by_cases howner : info.owner = sender
        · by_cases hself : sender = recipient
          · subst hself
            rw [lawful.transfer_self s sender token info htoken howner]
          · rw [lawful.transfer_ok s sender recipient token info htoken howner
              hself] at h
            cases h
        · rw [lawful.transfer_not_owner s sender recipient token info htoken
            howner]

section Atomicity

variable {AccountId : Type} [DecidableEq AccountId] {T : Config AccountId}
  {env : Env}

/-! ## Checks and final writes -/

omit [DecidableEq AccountId] in
theorem ensureSigned_silent (origin : Origin AccountId) :
    Silent (ensureSigned origin) := by
  cases origin with
  | signed who => exact Silent.pure who
  | root => exact Silent.fail _
  | none => exact Silent.fail _

omit [DecidableEq AccountId] in
theorem ensureNone_silent (origin : Origin AccountId) :
    Silent (ensureNone origin) := by
  cases origin with
  | none => exact Silent.pure ()
  | root => exact Silent.fail _
  | signed who => exact Silent.fail _

omit [DecidableEq AccountId] in
theorem depositEvent_infallible (event : Event AccountId) :
    Infallible (depositEvent event) :=
  Infallible.write _

omit [DecidableEq AccountId] in
theorem callNft_atomic {α : Type}
    {m : Dispatch (NftStorage AccountId) DispatchError α} (h : Atomic m) :
    Atomic (callNft m) :=
  Atomic.zoom (fun _ => rfl) h

/-! ## The calls one by one -/

variable (clean : T.nft.FailsClean)

include clean

omit [DecidableEq AccountId] in
theorem create_atomic (origin : Origin AccountId) :
    Atomic (create T env origin) := by
  refine (ensureSigned_silent origin).bind_atomic fun sender => ?_
  refine (Silent.query _).bind_atomic fun classId => ?_
  have hmint := callNft_atomic (clean.mint sender classId
    ⟨randomValue T env sender⟩)
  exact hmint.bind_infallible fun kittyId => depositEvent_infallible _

omit [DecidableEq AccountId] in
theorem doBreed_atomic (owner : AccountId) (kitty1 kitty2 : Kitty) :
    Atomic (doBreed T env owner kitty1 kitty2) := by
  refine (Silent.ensure _ _).bind_atomic fun _ => ?_
  refine (Silent.query _).bind_atomic fun classId => ?_
  have hmint := callNft_atomic (clean.mint owner classId
    (kitten T env owner kitty1 kitty2))
  exact hmint.bind_infallible fun kittyId => depositEvent_infallible _

theorem breed_atomic (origin : Origin AccountId)
    (kittyId1 kittyId2 : TokenId) :
    Atomic (breed T env origin kittyId1 kittyId2) := by
  refine (ensureSigned_silent origin).bind_atomic fun sender => ?_
  refine (Silent.query _).bind_atomic fun found1 => ?_
  refine (Silent.okOr _ _).bind_atomic fun kitty1 => ?_
  refine (Silent.query _).bind_atomic fun found2 => ?_
  refine (Silent.okOr _ _).bind_atomic fun kitty2 => ?_
  exact doBreed_atomic clean sender kitty1 kitty2

omit [DecidableEq AccountId] in
theorem autoBreed_atomic (origin : Origin AccountId)
    (kittyId1 kittyId2 : TokenId) (nonce : UInt32) (solution : BitVec 128) :
    Atomic (autoBreed T env origin kittyId1 kittyId2 nonce solution) := by
  refine (ensureNone_silent origin).bind_atomic fun _ => ?_
  refine (Silent.query _).bind_atomic fun found1 => ?_
  refine (Silent.okOr _ _).bind_atomic fun info1 => ?_
  refine (Silent.query _).bind_atomic fun found2 => ?_
  refine (Silent.okOr _ _).bind_atomic fun info2 => ?_
  exact doBreed_atomic clean info1.owner info1.data info2.data

theorem transfer_atomic (origin : Origin AccountId) (recipient : AccountId)
    (kittyId : TokenId) : Atomic (transfer T origin recipient kittyId) := by
  refine (ensureSigned_silent origin).bind_atomic fun sender => ?_
  refine (Silent.query _).bind_atomic fun classId => ?_
  have htransfer := callNft_atomic
    (clean.transfer sender recipient (classId, kittyId))
  refine htransfer.bind_infallible fun _ => ?_
  split
  · exact (Infallible.write _).bind fun _ => depositEvent_infallible _
  · exact Infallible.pure ()

omit clean in
omit [DecidableEq AccountId] in
theorem setPrice_atomic (origin : Origin AccountId) (kittyId : TokenId)
    (price : Option Balance) : Atomic (setPrice origin kittyId price) := by
  refine (ensureSigned_silent origin).bind_atomic fun sender => ?_
  refine (Silent.query _).bind_atomic fun isOwner => ?_
  refine (Silent.ensure _ _).bind_atomic fun _ => ?_
  exact (Infallible.write _).atomic.bind_infallible fun _ =>
    depositEvent_infallible _

/-- The nested writes of `buy` are undone by the framework. -/
theorem dispatch_atomic (origin : Origin AccountId) (call : Call AccountId) :
    Atomic (dispatch T env origin call) := by
  cases call with
  | create => exact create_atomic clean origin
  | breed kittyId1 kittyId2 => exact breed_atomic clean origin kittyId1 kittyId2
  | transfer recipient kittyId =>
      exact transfer_atomic clean origin recipient kittyId
  | setPrice kittyId price => exact setPrice_atomic origin kittyId price
  | buy owner kittyId maxPrice => exact Atomic.transactional _
  | autoBreed kittyId1 kittyId2 nonce solution =>
      exact autoBreed_atomic clean origin kittyId1 kittyId2 nonce solution

/-! ## Whole extrinsics -/

/--
A call that fails changes nothing.  An unsigned extrinsic that is refused
changes nothing either, and one that is accepted and then fails has moved the
nonce on and done nothing else.
-/
theorem failed_calls_leave_no_trace (s : Storage AccountId) :
    (∀ origin call error,
      (dispatch T env origin call s).1 = .error error →
        (dispatch T env origin call s).2 = s) ∧
    (∀ call reason,
      (applyUnsigned T env call s).1 = .rejected reason →
        (applyUnsigned T env call s).2 = s) ∧
    (∀ call error,
      (applyUnsigned T env call s).1 = .dispatched (.error error) →
        (applyUnsigned T env call s).2 =
          { s with autoBreedNonce := saturatingAdd s.autoBreedNonce 1 }) := by
  refine ⟨fun origin call error => dispatch_atomic clean origin call s error,
    fun call reason h => ?_, fun call error h => ?_⟩
  · rw [applyUnsigned_eq] at h ⊢
    split at h
    · cases h
    · rw [if_neg ‹_›]
  · rw [applyUnsigned_eq] at h ⊢
    split at h
    · rw [if_pos ‹_›]
      simp only [Outcome.dispatched.injEq] at h
      exact dispatch_atomic clean .none call s.validated error h
    · cases h

end Atomicity

theorem failed_calls_leave_no_trace_of_unpaid_buy :
    let listed := run (step Mock.config) Mock.genesis
      [Mock.signed 100 .create, Mock.signed 100 (.setPrice 0 (some 600))]
    (dispatch Mock.config (Mock.seeded 0) (.signed 200) (.buy 100 0 600)
        listed).1 = .error Mock.insufficientBalance ∧
      (dispatch Mock.config (Mock.seeded 0) (.signed 200) (.buy 100 0 600)
        listed).2 = listed := by
  intro listed
  have hfails : (dispatch Mock.config (Mock.seeded 0) (.signed 200)
      (.buy 100 0 600) listed).1 = .error Mock.insufficientBalance := by
    rfl
  exact ⟨hfails, (failed_calls_leave_no_trace Mock.ormlNft_lawful.failsClean
    listed).1 _ _ _ hfails⟩

end SubstrateKitties.Pallet
