import SubstrateKitties.Runs.Nonce
import SubstrateKitties.Runs.WorkerBounds

/-!
# Submissions of the off-chain worker

What the worker submits is what the chain accepts: the worker looks up the same
kitties, genders, nonce and proof as the validation and `auto_breed` do.  It
stays acceptable for as long as the nonce stays, since kitties do not disappear
and their DNA does not change.
-/

namespace SubstrateKitties.Pallet

open SubstrateKitties.Foundation
open SubstrateKitties.Foundation.Dispatch

section Worker

variable {AccountId : Type}

/-! ## What the worker submits -/

/-- A proof for the current nonce and an existing couple. -/
inductive Submittable (T : Config AccountId) (s : Storage AccountId) :
    Call AccountId → Prop where
  | autoBreed (kittyId1 kittyId2 : TokenId) (solution : BitVec 128)
      (info1 info2 : TokenInfo AccountId)
      (token1 : s.tokens kittyId1 = some info1)
      (token2 : s.tokens kittyId2 = some info2)
      (genders : info1.data.gender ≠ info2.data.gender)
      (valid : validateSolution T kittyId1 kittyId2 s.autoBreedNonce solution =
        true) :
      Submittable T s
        (.autoBreed kittyId1 kittyId2 s.autoBreedNonce solution)

variable {T : Config AccountId}

theorem RunEnd.submittable {s : Storage AccountId} (h : Population s)
    {rng : Nat → UInt32} {pairs : Nat} {result : Except Stop Unit}
    {w : Worker AccountId} (ends : RunEnd T s rng pairs (result, w))
    {call : Call AccountId} (submitted : call ∈ w.submitted) :
    Submittable T s call := by
  cases ends with
  | noKitty nobody => simp at submitted
  | noCouple kitties nowhere => simp at submitted
  | searched i kitties within couple before =>
      simp only [Worker.search_submitted, Worker.advance_submitted,
        start_submitted, List.nil_append, Option.mem_toList,
        Option.map_eq_some_iff] at submitted
      obtain ⟨solution, hfound, rfl⟩ := submitted
      have hvalid := List.find?_some hfound
      obtain ⟨htoken1, htoken2⟩ := tokens_of_drawnPair h kitties rng i
      obtain ⟨info1, token1⟩ := Option.isSome_iff_exists.mp htoken1
      obtain ⟨info2, token2⟩ := Option.isSome_iff_exists.mp htoken2
      have hgenders : info1.data.gender ≠ info2.data.gender := by
        simpa [Couple, Storage.gender, token1, token2] using couple
      exact .autoBreed _ _ solution info1 info2 token1 token2 hgenders hvalid

theorem runOffchainWorker_submits {locked : Bool} {s : Storage AccountId}
    (h : Population s) {rng : Nat → UInt32} {call : Call AccountId}
    (submitted : call ∈
      (runOffchainWorker T locked s (.start rng)).2.submitted) :
    Submittable T s call := by
  cases locked with
  | false =>
      have hnone : call ∈ ([] : List (Call AccountId)) := submitted
      cases hnone
  | true =>
      obtain ⟨pairs, hends⟩ := runOffchainWorker_ends T h rng
      exact hends.submittable h submitted

/-! ## What the chain does with it -/

theorem Submittable.accepts {s : Storage AccountId} {call : Call AccountId}
    (h : Submittable T s call) : accepts T s call = true := by
  cases h with
  | autoBreed kittyId1 kittyId2 solution info1 info2 token1 token2 genders
      valid =>
      exact (accepts_iff T).mpr ⟨kittyId1, kittyId2, solution, rfl, valid⟩

theorem Submittable.persists {s s' : Storage AccountId} {call : Call AccountId}
    (h : Submittable T s call) (persists : Persists s s')
    (nonce : s'.autoBreedNonce = s.autoBreedNonce) : Submittable T s' call := by
  cases h with
  | autoBreed kittyId1 kittyId2 solution info1 info2 token1 token2 genders
      valid =>
      obtain ⟨info1', token1', hdata1⟩ := persists.kitties kittyId1 info1 token1
      obtain ⟨info2', token2', hdata2⟩ := persists.kitties kittyId2 info2 token2
      rw [← hdata1, ← hdata2] at genders
      rw [← nonce] at valid ⊢
      exact .autoBreed kittyId1 kittyId2 solution info1' info2' token1' token2'
        genders valid

variable [DecidableEq AccountId]

theorem nonce_of_none_accepted (s : Storage AccountId)
    (inputs : List (Input AccountId))
    (h : acceptedCalls (trace (step T) s inputs) = []) :
    (run (step T) s inputs).autoBreedNonce = s.autoBreedNonce := by
  refine trace_induction (P := fun history s' => acceptedCalls history = [] →
    s'.autoBreedNonce = s.autoBreedNonce) (fun _ => rfl) ?_ inputs h
  intro before input ih hnone
  rw [acceptedCalls_concat, List.append_eq_nil_iff] at hnone
  cases nonceStep T (run (step T) s before) input with
  | accepted call isAccepted nonce post ceiling =>
      rw [isAccepted] at hnone
      cases hnone.2
  | refused isRefused post ceiling => exact post.trans (ih hnone.1)

variable (lawful : T.Lawful)

include lawful

theorem Submittable.mints {s : Storage AccountId} (population : Population s)
    {kittyId1 kittyId2 : TokenId} {nonce : UInt32} {solution : BitVec 128}
    (h : Submittable T s (.autoBreed kittyId1 kittyId2 nonce solution))
    (env : Env) (room : s.nextTokenId ≠ u32Max) :
    ∃ owner kitty, s.owner kittyId1 = some owner ∧
      dispatch T env .none (.autoBreed kittyId1 kittyId2 nonce solution)
          s.validated =
        (.ok (), s.validated.born owner kitty
          (.kittyBred owner s.nextTokenId kitty)) := by
  cases h with
  | autoBreed _ _ _ info1 info2 token1 token2 genders valid =>
      have hroom : s.validated.nft.CanMint s.validated.classId :=
        population.canMint_iff.mpr room
      refine ⟨info1.owner, kitten T env info1.owner info1.data info2.data,
        Storage.owner_of_token token1 rfl, ?_⟩
      exact (dispatch_eq_ok lawful).mpr (.autoBreed kittyId1 kittyId2
        s.autoBreedNonce solution info1 info2 token1 token2 genders hroom)

variable [Inhabited AccountId]

/--
What the worker submits is accepted, and mints one kitten, in every state that
the chain reaches before it accepts another `auto_breed`.
-/
theorem submissions_stay_valid {s s' : Storage AccountId}
    (reachable : Reachable T s) {locked : Bool} {rng : Nat → UInt32}
    {call : Call AccountId}
    (submitted : call ∈ (runOffchainWorker T locked s (.start rng)).2.submitted)
    (inputs : List (Input AccountId))
    (notOvertaken : acceptedCalls (trace (step T) s inputs) = [])
    (reached : run (step T) s inputs = s') :
    ∃ kittyId1 kittyId2 nonce solution,
      call = .autoBreed kittyId1 kittyId2 nonce solution ∧
      (∀ source, ∃ transaction, validateUnsigned T source call s' =
        (.ok transaction, s'.validated)) ∧
      ∀ env, s'.nextTokenId < u32Max →
        ∃ owner kitty s'',
          dispatch T env .none call s'.validated = (.ok (), s'') ∧
          s'.owner kittyId1 = some owner ∧
          s''.nextTokenId.toNat = s'.nextTokenId.toNat + 1 ∧
          s'.tokens s'.nextTokenId = none ∧
          s''.tokens s'.nextTokenId =
            some { metadata := [], owner, data := kitty } ∧
          ∀ other, other ≠ s'.nextTokenId → s''.tokens other = s'.tokens other := by
  subst reached
  have hpopulation : Population s := .of_reachable lawful reachable
  have hpopulation' := hpopulation.run lawful inputs
  have hsubmittable : Submittable T s call :=
    runOffchainWorker_submits hpopulation submitted
  have hstill : Submittable T (run (step T) s inputs) call :=
    hsubmittable.persists (Persists.run lawful hpopulation inputs)
      (nonce_of_none_accepted s inputs notOvertaken)
  generalize run (step T) s inputs = s' at *
  have haccepts := hstill.accepts
  cases hstill with
  | autoBreed kittyId1 kittyId2 solution info1 info2 token1 token2 genders
      valid =>
      refine ⟨kittyId1, kittyId2, s'.autoBreedNonce, solution, rfl, ?_, ?_⟩
      · intro source
        exact ⟨_, validateUnsigned_eq_ok.mpr ⟨haccepts, rfl, rfl⟩⟩
      · intro env hroom
        have hne : s'.nextTokenId ≠ u32Max := lt_u32Max_iff.mp hroom
        obtain ⟨owner, kitty, howner, hdispatch⟩ := Submittable.mints lawful
          hpopulation' (.autoBreed kittyId1 kittyId2 solution info1 info2 token1
            token2 genders valid) env hne
        refine ⟨owner, kitty, _, hdispatch, howner, ?_, hpopulation'.fresh, ?_, ?_⟩
        · rw [← toNat_succ hne]
          simp [Storage.nextTokenId]
        · rw [Storage.born_tokens]
          exact if_pos rfl
        · intro other hother
          rw [Storage.born_tokens]
          exact if_neg hother

end Worker

theorem submission_outlives_transfer :
    let moved := run (step Mock.config)
      (run (step Mock.config) Mock.genesis Mock.couple)
      [Mock.signed 100 (.transfer 200 0)]
    ∀ source, ∃ transaction, validateUnsigned Mock.config source
      (.autoBreed 0 1 0 2) moved = (.ok transaction, moved.validated) := by
  intro moved
  have hsubmitted : Call.autoBreed 0 1 0 2 ∈
      (runOffchainWorker Mock.config true
        (run (step Mock.config) Mock.genesis Mock.couple)
        (.start Mock.draws)).2.submitted := by
    rw [Mock.couple_submits]
    exact List.mem_singleton_self _
  obtain ⟨_, _, _, _, -, haccepted, -⟩ := submissions_stay_valid
    Mock.config_lawful
    ((Reachable.of_genesis Mock.genesis_isGenesis).run Mock.couple) hsubmitted
    [Mock.signed 100 (.transfer 200 0)] rfl rfl
  exact haccepted

end SubstrateKitties.Pallet
