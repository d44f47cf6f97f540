import SubstrateKitties.Foundation.Sequence
import SubstrateKitties.Runs.Worker

/-!
# Workers and the network

Any number of nodes run the off-chain worker on the chain as they see it, which
may be an older state, and broadcast what it submits.  The network may lose a
submission, deliver it late, in any order and any number of times, and other
extrinsics come in between.  Whatever it does, a delivery is either refused
without effect or brings a kitten, and no proof counts twice.

The transaction pool is part of the network.  It is assumed to pass on what is
delivered, although submissions provide no tag, as `Pallet.Validation` shows; a
pool that refuses them is a network that loses them.
-/

namespace SubstrateKitties.Pallet

open SubstrateKitties.Foundation
open SubstrateKitties.Foundation.Dispatch

section Network

variable {AccountId : Type}

/-- `past` holds the earlier states of the chain, the latest first. -/
structure Network (AccountId : Type) where
  chain : Storage AccountId
  past : List (Storage AccountId)
  flight : List (Call AccountId)

/-- A worker sees the chain as it was `lag` blocks ago. -/
inductive NetworkAction (AccountId : Type) where
  | extrinsic (input : Input AccountId)
  | work (lag : Nat) (locked : Bool) (rng : Nat → UInt32)
  | deliver (submission : Nat) (env : Env)

namespace Network

def opening (s : Storage AccountId) : Network AccountId where
  chain := s
  past := []
  flight := []

def view (net : Network AccountId) (lag : Nat) : Storage AccountId :=
  (net.chain :: net.past).getD lag net.chain

def included (net : Network AccountId) :
    NetworkAction AccountId → Option (Input AccountId)
  | .extrinsic input => some input
  | .work _ _ _ => none
  | .deliver submission env =>
      (net.flight[submission]?).map fun call => ⟨env, .unsigned call⟩

variable (T : Config AccountId)

def broadcast (net : Network AccountId) :
    NetworkAction AccountId → List (Call AccountId)
  | .work lag locked rng => (offchainWorker T locked rng (net.view lag)).1
  | _ => []

variable [DecidableEq AccountId]

def step (action : NetworkAction AccountId) (net : Network AccountId) :
    Option Outcome × Network AccountId :=
  match net.included action with
  | some input =>
      let (outcome, chain) := Pallet.step T input net.chain
      (some outcome, { net with chain, past := net.chain :: net.past })
  | none => (none, { net with flight := net.flight ++ net.broadcast T action })

abbrev Step (AccountId : Type) :=
  Transition (Network AccountId) (NetworkAction AccountId) (Option Outcome)

def acceptedNonce (t : Network.Step AccountId) : Option UInt32 :=
  (t.pre.included t.input).bind fun input =>
    (acceptedCall (transition (Pallet.step T) t.pre.chain input)).bind Call.nonce

end Network

/-! ## Submissions under way -/

/-- A proof for a nonce that the chain has reached, and an existing couple. -/
def Pending (T : Config AccountId) (s : Storage AccountId)
    (call : Call AccountId) : Prop :=
  ∃ nonce, nonce ≤ s.autoBreedNonce ∧
    Submittable T { s with autoBreedNonce := nonce } call

theorem Pending.persists {T : Config AccountId} {s s' : Storage AccountId}
    {call : Call AccountId} (h : Pending T s call) (persists : Persists s s')
    (grows : s.autoBreedNonce ≤ s'.autoBreedNonce) : Pending T s' call := by
  obtain ⟨nonce, hle, hsubmittable⟩ := h
  have hpersists : Persists { s with autoBreedNonce := nonce }
      { s' with autoBreedNonce := nonce } := ⟨persists.classId, persists.kitties⟩
  exact ⟨nonce, UInt32.le_trans hle grows, hsubmittable.persists hpersists rfl⟩

inductive Delivery (T : Config AccountId) [DecidableEq AccountId]
    (s : Storage AccountId) (env : Env) (call : Call AccountId) : Prop where
  | overtaken (old : call.nonce ≠ some s.autoBreedNonce)
      (refused : step T ⟨env, .unsigned call⟩ s = (.rejected .badProof, s))
  | exhausted (current : call.nonce = some s.autoBreedNonce)
      (full : s.nextTokenId = u32Max)
      (failed : step T ⟨env, .unsigned call⟩ s =
        (.dispatched (.error (.nft .noAvailableTokenId)), s.validated))
  | born (current : call.nonce = some s.autoBreedNonce)
      (room : s.nextTokenId ≠ u32Max) (kittyId1 kittyId2 : TokenId)
      (solution : BitVec 128)
      (isAutoBreed :
        call = .autoBreed kittyId1 kittyId2 s.autoBreedNonce solution)
      (owner : AccountId) (owned : s.owner kittyId1 = some owner) (kitty : Kitty)
      (mints : step T ⟨env, .unsigned call⟩ s =
        (.dispatched (.ok ()), s.validated.born owner kitty
          (.kittyBred owner s.nextTokenId kitty)))

variable [DecidableEq AccountId] {T : Config AccountId}

theorem Pending.delivery (lawful : T.Lawful) {s : Storage AccountId}
    (population : Population s) {call : Call AccountId} (h : Pending T s call)
    (env : Env) : Delivery T s env call := by
  obtain ⟨nonce, hle, hsubmittable⟩ := h
  have hstep : step T ⟨env, .unsigned call⟩ s = applyUnsigned T env call s := rfl
  rw [applyUnsigned_eq] at hstep
  by_cases hcurrent : nonce = s.autoBreedNonce
  · subst hcurrent
    have hsame : Submittable T s call := hsubmittable
    rw [if_pos hsame.accepts] at hstep
    cases hsubmittable with
    | autoBreed kittyId1 kittyId2 solution info1 info2 token1 token2 genders
        valid =>
        by_cases hfull : s.nextTokenId = u32Max
        · have hresult : (autoBreed T env .none kittyId1 kittyId2
              s.autoBreedNonce solution s.validated).1 = _ :=
            autoBreed_result lawful population.validated kittyId1 kittyId2
              s.autoBreedNonce solution
          have hfound1 : s.validated.tokens kittyId1 = some info1 := token1
          have hfound2 : s.validated.tokens kittyId2 = some info2 := token2
          simp only [Storage.gender, hfound1, hfound2, Option.isSome_some,
            and_self, not_true_eq_false, if_false, Option.map_some,
            Option.some.injEq, genders] at hresult
          rw [if_pos (show s.validated.nextTokenId = u32Max from hfull)]
            at hresult
          have hatomic : Atomic (dispatch T env .none
              (.autoBreed kittyId1 kittyId2 s.autoBreedNonce solution)) :=
            dispatch_atomic lawful.nft.failsClean _ _
          have hsame := hatomic s.validated _ hresult
          refine .exhausted rfl hfull (hstep.trans ?_)
          rw [hsame]
          exact congrArg (fun result => (Outcome.dispatched result, s.validated))
            hresult
        · obtain ⟨owner, kitty, howner, hdispatch⟩ :=
            hsame.mints lawful population env hfull
          rw [hdispatch] at hstep
          exact .born rfl hfull kittyId1 kittyId2 solution rfl owner howner kitty
            hstep
  · have hrefused : accepts T s call = false := by
      cases hsubmittable with
      | autoBreed kittyId1 kittyId2 solution info1 info2 token1 token2 genders
          valid =>
          simp [accepts, hcurrent]
    rw [hrefused] at hstep
    cases hsubmittable with
    | autoBreed kittyId1 kittyId2 solution info1 info2 token1 token2 genders
        valid =>
        exact .overtaken (by simpa [Call.nonce] using hcurrent) hstep

/-! ## Runs of the network -/

theorem step_nonce_le (T : Config AccountId) (s : Storage AccountId)
    (input : Input AccountId) :
    s.autoBreedNonce ≤ (step T input s).2.autoBreedNonce := by
  cases nonceStep T s input with
  | accepted call isAccepted nonce post ceiling =>
      exact post ▸ le_saturatingAdd_one s.autoBreedNonce
  | refused isRefused post ceiling => exact post ▸ UInt32.le_refl _

structure Earlier (s s' : Storage AccountId) : Prop where
  population : Population s
  persists : Persists s s'
  nonce : s.autoBreedNonce ≤ s'.autoBreedNonce

theorem Earlier.step (lawful : T.Lawful) {s s' : Storage AccountId}
    (h : Earlier s s') (population : Population s') (input : Input AccountId) :
    Earlier s (Pallet.step T input s').2 :=
  ⟨h.population, h.persists.trans (.step lawful population input),
    UInt32.le_trans h.nonce (step_nonce_le T s' input)⟩

namespace Network

/-- Every state a worker may see is an earlier one of the same chain. -/
structure Sound (T : Config AccountId) (net : Network AccountId) : Prop where
  seen : ∀ s ∈ net.chain :: net.past, Earlier s net.chain
  flight : ∀ call ∈ net.flight, Pending T net.chain call

omit [DecidableEq AccountId] in
theorem Sound.population {net : Network AccountId} (h : Sound T net) :
    Population net.chain :=
  (h.seen net.chain List.mem_cons_self).population

omit [DecidableEq AccountId] in
theorem Sound.opening {s : Storage AccountId} (h : Population s) :
    Sound T (opening s) := by
  constructor
  · intro s' hs'
    obtain rfl := List.mem_singleton.mp hs'
    exact ⟨h, .of_tokens_eq rfl rfl, UInt32.le_refl _⟩
  · intro call hcall
    cases hcall

theorem step_of_included {net : Network AccountId}
    {action : NetworkAction AccountId} {input : Input AccountId}
    (included : net.included action = some input) :
    net.step T action =
      (some (Pallet.step T input net.chain).1,
        { net with
          chain := (Pallet.step T input net.chain).2
          past := net.chain :: net.past }) := by
  rw [step, included]

theorem step_of_not_included {net : Network AccountId}
    {action : NetworkAction AccountId} (not : net.included action = none) :
    net.step T action =
      (none, { net with flight := net.flight ++ net.broadcast T action }) := by
  rw [step, not]

omit [DecidableEq AccountId] in
theorem view_mem (net : Network AccountId) (lag : Nat) :
    net.view lag ∈ net.chain :: net.past := by
  rw [view, List.getD_eq_getElem?_getD]
  cases hseen : (net.chain :: net.past)[lag]? with
  | none => exact List.mem_cons_self
  | some s => exact List.mem_of_getElem? hseen

theorem Sound.step (lawful : T.Lawful) {net : Network AccountId}
    (h : Sound T net) (action : NetworkAction AccountId) :
    Sound T (net.step T action).2 := by
  cases included : net.included action with
  | some input =>
      rw [step_of_included included]
      have hchain : ∀ s ∈ net.chain :: net.past,
          Earlier s (Pallet.step T input net.chain).2 := fun s hs =>
        (h.seen s hs).step lawful h.population input
      constructor
      · intro s hs
        rcases List.mem_cons.mp hs with rfl | hs
        · exact ⟨h.population.step lawful input, .of_tokens_eq rfl rfl,
            UInt32.le_refl _⟩
        · exact hchain s hs
      · intro call hcall
        have hearlier := hchain net.chain List.mem_cons_self
        exact (h.flight call hcall).persists hearlier.persists hearlier.nonce
  | none =>
      rw [step_of_not_included included]
      refine ⟨h.seen, fun call hcall => ?_⟩
      rcases List.mem_append.mp hcall with hold | hnew
      · exact h.flight call hold
      · cases action with
        | work lag locked rng =>
            have hearlier := h.seen _ (net.view_mem lag)
            have hsubmittable : Submittable T (net.view lag) call :=
              runOffchainWorker_submits hearlier.population hnew
            have hpending : Pending T (net.view lag) call :=
              ⟨_, UInt32.le_refl _, hsubmittable⟩
            exact hpending.persists hearlier.persists hearlier.nonce
        | extrinsic input => cases hnew
        | deliver submission env => cases hnew

/-! ## Each nonce is accepted once -/

theorem acceptedNonce_eq_some {net : Network AccountId}
    {action : NetworkAction AccountId} {nonce : UInt32}
    (accepted : acceptedNonce T (transition (Network.step T) net action) =
      some nonce) :
    nonce = net.chain.autoBreedNonce ∧
      (net.step T action).2.chain.autoBreedNonce = saturatingAdd nonce 1 := by
  obtain ⟨input, included, haccepted⟩ := Option.bind_eq_some_iff.mp accepted
  obtain ⟨call, hcall, hnonce⟩ := Option.bind_eq_some_iff.mp haccepted
  change net.included action = some input at included
  change acceptedCall (transition (Pallet.step T) net.chain input) = some call
    at hcall
  rw [step_of_included included]
  cases nonceStep T net.chain input with
  | accepted call' isAccepted nonce' post ceiling =>
      rw [hcall] at isAccepted
      cases isAccepted
      rw [hnonce] at nonce'
      cases nonce'
      exact ⟨rfl, post⟩
  | refused isRefused post ceiling =>
      rw [hcall] at isRefused
      cases isRefused

theorem step_chain_nonce_le (net : Network AccountId)
    (action : NetworkAction AccountId) :
    net.chain.autoBreedNonce ≤ (net.step T action).2.chain.autoBreedNonce := by
  cases included : net.included action with
  | some input =>
      rw [step_of_included included]
      exact step_nonce_le T net.chain input
  | none =>
      rw [step_of_not_included included]
      exact UInt32.le_refl _

/-- The number a transition takes, while the nonce can still be moved on. -/
def takenNumber (T : Config AccountId) (t : Network.Step AccountId) :
    Option Nat :=
  ((acceptedNonce T t).filter fun nonce => nonce ≠ u32Max).map UInt32.toNat

theorem takenNumber_eq_some {t : Network.Step AccountId} {number : Nat} :
    takenNumber T t = some number ↔
      ∃ nonce, acceptedNonce T t = some nonce ∧ nonce ≠ u32Max ∧
        nonce.toNat = number := by
  simp [takenNumber, Option.filter_eq_some_iff, and_assoc]

theorem sequenced (T : Config AccountId) :
    Sequenced (Network.step T) (takenNumber T)
      fun net => net.chain.autoBreedNonce.toNat where
  current net action number taken := by
    obtain ⟨nonce, accepted, -, rfl⟩ := takenNumber_eq_some.mp taken
    rw [(acceptedNonce_eq_some accepted).1]
  advances net action number taken := by
    obtain ⟨nonce, accepted, below, rfl⟩ := takenNumber_eq_some.mp taken
    rw [(acceptedNonce_eq_some accepted).2, saturatingAdd_one below,
      toNat_succ below]
    omega
  grows net action :=
    UInt32.le_iff_toNat_le.mp (step_chain_nonce_le net action)

/-! ## The network after any run -/

variable [Inhabited AccountId]

theorem run_sound (lawful : T.Lawful) {s₀ : Storage AccountId}
    (genesis : IsGenesis T s₀) (actions : List (NetworkAction AccountId)) :
    let net := run (Network.step T) (.opening s₀) actions
    Reachable T net.chain ∧ Sound T net := by
  intro net
  refine run_induction (P := fun net => Reachable T net.chain ∧ Sound T net)
    ⟨.of_genesis genesis, .opening (.of_genesis lawful genesis)⟩ ?_ actions
  intro net action h
  refine ⟨?_, h.2.step lawful action⟩
  cases included : net.included action with
  | some input =>
      rw [step_of_included included]
      exact h.1.run [input]
  | none =>
      rw [step_of_not_included included]
      exact h.1

/--
In every run of the chain, the workers and the network, each submission under
way is refused without effect when its nonce has been overtaken and otherwise
brings a kitten, as long as there are ids, and each nonce below the last one is
accepted at most once.
-/
theorem submissions_count_once (lawful : T.Lawful) {s₀ : Storage AccountId}
    (genesis : IsGenesis T s₀) (actions : List (NetworkAction AccountId)) :
    let net := run (Network.step T) (.opening s₀) actions
    let history := trace (Network.step T) (.opening s₀) actions
    Reachable T net.chain ∧
      (∀ call ∈ net.flight, (∃ nonce, call.nonce = some nonce ∧
          nonce ≤ net.chain.autoBreedNonce) ∧
        ∀ env, Delivery T net.chain env call) ∧
      ∀ nonce, nonce ≠ u32Max →
        history.countP (fun t => acceptedNonce T t = some nonce) ≤ 1 := by
  intro net history
  obtain ⟨hreachable, hsound⟩ := run_sound lawful genesis actions
  refine ⟨hreachable, fun call hcall => ?_, fun nonce below => ?_⟩
  · have hpending := hsound.flight call hcall
    refine ⟨?_, hpending.delivery lawful hsound.population⟩
    obtain ⟨nonce, hle, hsubmittable⟩ := hpending
    cases hsubmittable with
    | autoBreed => exact ⟨nonce, rfl, hle⟩
  · have honce := (sequenced T).at_most_once (.opening s₀) actions nonce.toNat
    have hsame : ∀ t ∈ history,
        decide (acceptedNonce T t = some nonce) = true ↔
          decide (takenNumber T t = some nonce.toNat) = true := by
      intro t ht
      simp [takenNumber_eq_some, UInt32.toNat_inj, below]
    rw [List.countP_congr hsame]
    exact honce

end Network

end Network

theorem submissions_count_once_for_two_workers :
    let actions : List (NetworkAction Mock.AccountId) :=
      Mock.couple.map .extrinsic ++
        [.work 0 true Mock.draws, .work 0 true Mock.draws,
          .deliver 0 (Mock.seeded 0), .deliver 1 (Mock.seeded 0)]
    (trace (Network.step Mock.config) (.opening Mock.genesis) actions).countP
      (fun t => Network.acceptedNonce Mock.config t = some 0) ≤ 1 := by
  intro actions
  exact (Network.submissions_count_once Mock.config_lawful
    Mock.genesis_isGenesis actions).2.2 0 (by decide)

end SubstrateKitties.Pallet
