import SubstrateKitties.Pallet.Foreign
import SubstrateKitties.Pallet.OffchainWorker
import SubstrateKitties.Pallet.Steps

/-!
# The auto-breed nonce

Only an accepted validation moves the nonce, and every accepted extrinsic
carries the value the nonce has at that moment.  The nonce is incremented by
`saturating_add`, so it distinguishes the accepted extrinsics until it reaches
`u32::MAX`, and no longer after that.
-/

namespace SubstrateKitties.Pallet

open SubstrateKitties.Foundation
open SubstrateKitties.Foundation.Dispatch

section Nonce

variable {AccountId : Type} [DecidableEq AccountId] {T : Config AccountId}
  {env : Env}

/-! ## Dispatched calls keep the nonce -/

omit [DecidableEq AccountId] in
theorem nonce_of_foreign {α : Type} {m : PalletCall AccountId α}
    (h : ∀ nonce, Foreign (·.withNonce nonce) m) (s : Storage AccountId) :
    (m s).2.autoBreedNonce = s.autoBreedNonce :=
  congrArg (fun r => r.2.autoBreedNonce) (h s.autoBreedNonce s)

theorem dispatch_keeps_nonce (origin : Origin AccountId)
    (call : Call AccountId) (s : Storage AccountId) :
    (dispatch T env origin call s).2.autoBreedNonce = s.autoBreedNonce :=
  nonce_of_foreign (fun nonce => dispatch_foreign nonce T env origin call) s

/-! ## Accepted extrinsics -/

def Call.nonce : Call AccountId → Option UInt32
  | .autoBreed _ _ nonce _ => some nonce
  | _ => none

/-- The call of an unsigned extrinsic that `pre_dispatch` lets through. -/
def acceptedCall (t : Step AccountId) : Option (Call AccountId) :=
  match t.input.action, t.outcome with
  | .unsigned call, .dispatched _ => some call
  | _, _ => none

def acceptedCalls (history : List (Step AccountId)) : List (Call AccountId) :=
  history.filterMap acceptedCall

omit [DecidableEq AccountId] in
theorem acceptedCalls_concat (history : List (Step AccountId))
    (t : Step AccountId) :
    acceptedCalls (history ++ [t]) =
      acceptedCalls history ++ (acceptedCall t).toList := by
  cases h : acceptedCall t with
  | none => simp [acceptedCalls, h]
  | some call => simp [acceptedCalls, h]

/-- A valid proof for `u32::MAX` arrives when the nonce has reached it. -/
def atCeiling (T : Config AccountId) (t : Step AccountId) : Bool :=
  match t.input.action with
  | .unsigned (.autoBreed kittyId1 kittyId2 nonce solution) =>
      t.pre.autoBreedNonce == u32Max && nonce == u32Max &&
        validateSolution T kittyId1 kittyId2 nonce solution
  | _ => false

inductive NonceStep (T : Config AccountId) (t : Step AccountId) : Prop where
  | accepted (call : Call AccountId) (isAccepted : acceptedCall t = some call)
      (nonce : call.nonce = some t.pre.autoBreedNonce)
      (post : t.post.autoBreedNonce = saturatingAdd t.pre.autoBreedNonce 1)
      (ceiling : atCeiling T t = (t.pre.autoBreedNonce == u32Max))
  | refused (isRefused : acceptedCall t = none)
      (post : t.post.autoBreedNonce = t.pre.autoBreedNonce)
      (ceiling : atCeiling T t = false)

theorem acceptedCall_unsigned (T : Config AccountId) (s : Storage AccountId)
    (env : Env) (call : Call AccountId) :
    acceptedCall (transition (step T) s ⟨env, .unsigned call⟩) =
      if accepts T s call then some call else none := by
  have hstep : step T ⟨env, .unsigned call⟩ s = applyUnsigned T env call s := rfl
  rw [applyUnsigned_eq] at hstep
  by_cases haccepts : accepts T s call
  · rw [if_pos haccepts] at hstep
    simp [acceptedCall, transition, hstep, haccepts]
  · rw [if_neg haccepts] at hstep
    simp [acceptedCall, transition, hstep, haccepts]

theorem nonce_after_unsigned (T : Config AccountId) (s : Storage AccountId)
    (env : Env) (call : Call AccountId) :
    (step T ⟨env, .unsigned call⟩ s).2.autoBreedNonce =
      if accepts T s call then saturatingAdd s.autoBreedNonce 1
      else s.autoBreedNonce := by
  change (applyUnsigned T env call s).2.autoBreedNonce = _
  rw [applyUnsigned_eq]
  by_cases haccepts : accepts T s call
  · rw [if_pos haccepts, if_pos haccepts]
    exact dispatch_keeps_nonce .none call s.validated
  · rw [if_neg haccepts, if_neg haccepts]

theorem nonceStep (T : Config AccountId) (s : Storage AccountId)
    (input : Input AccountId) : NonceStep T (transition (step T) s input) := by
  obtain ⟨env, action⟩ := input
  cases action with
  | dispatch origin call =>
      exact .refused rfl (dispatch_keeps_nonce origin call s) rfl
  | unsigned call =>
      have hcall := acceptedCall_unsigned T s env call
      have hnonce := nonce_after_unsigned T s env call
      by_cases haccepts : accepts T s call
      · rw [if_pos haccepts] at hcall hnonce
        obtain ⟨kittyId1, kittyId2, solution, rfl, hvalid⟩ :=
          (accepts_iff T).mp haccepts
        refine .accepted _ hcall rfl hnonce ?_
        simp [atCeiling, transition, hvalid]
      · rw [if_neg haccepts] at hcall hnonce
        refine .refused hcall hnonce ?_
        cases call with
        | autoBreed kittyId1 kittyId2 nonce solution =>
            by_contra hceiling
            simp only [atCeiling, transition, Bool.not_eq_false,
              Bool.and_eq_true, beq_iff_eq] at hceiling
            obtain ⟨⟨hpre, rfl⟩, hvalid⟩ := hceiling
            exact haccepts (by simp [accepts, hvalid, hpre])
        | _ => rfl

theorem acceptedCall_eq_some {s : Storage AccountId} {input : Input AccountId}
    {call : Call AccountId} :
    acceptedCall (transition (step T) s input) = some call ↔
      input.action = .unsigned call ∧ (preDispatch T call s).1 = .ok () := by
  obtain ⟨env, action⟩ := input
  cases action with
  | dispatch origin call' => simp [acceptedCall, transition]
  | unsigned call' =>
      rw [acceptedCall_unsigned]
      by_cases haccepts : accepts T s call'
      · simp only [haccepts, if_true, Option.some.injEq, Action.unsigned.injEq]
        constructor
        · rintro rfl
          exact ⟨rfl, by simp [preDispatch_eq, haccepts]⟩
        · rintro ⟨hcall, -⟩
          exact hcall
      · simp only [haccepts, Bool.false_eq_true, if_false, reduceCtorEq,
          Action.unsigned.injEq, false_iff, not_and]
        rintro rfl
        simp [preDispatch_eq, haccepts]

theorem refused_autoBreed {s : Storage AccountId} {kittyId1 kittyId2 : TokenId}
    {nonce : UInt32} {solution : BitVec 128}
    (refused : acceptedCall (transition (step T) s
      ⟨env, .unsigned (.autoBreed kittyId1 kittyId2 nonce solution)⟩) = none) :
    (validateSolution T kittyId1 kittyId2 nonce solution = false ∨
        nonce ≠ s.autoBreedNonce) ∧
      (step T ⟨env, .unsigned (.autoBreed kittyId1 kittyId2 nonce solution)⟩
        s) = (.rejected .badProof, s) := by
  have hstep : step T
      ⟨env, .unsigned (.autoBreed kittyId1 kittyId2 nonce solution)⟩ s =
        applyUnsigned T env (.autoBreed kittyId1 kittyId2 nonce solution) s := rfl
  rw [acceptedCall_unsigned] at refused
  by_cases haccepts : accepts T s (.autoBreed kittyId1 kittyId2 nonce solution)
  · rw [if_pos haccepts] at refused
    cases refused
  · rw [applyUnsigned_eq, if_neg haccepts] at hstep
    refine ⟨?_, hstep⟩
    simpa [accepts, imp_iff_not_or] using haccepts

/-! ## The nonces of a run -/

/-- The accepted calls carry the values of a counter that stops, one by one. -/
structure NonceHistory (T : Config AccountId) (history : List (Step AccountId))
    (s : Storage AccountId) : Prop where
  carried : (acceptedCalls history).map Call.nonce =
    ((List.range (acceptedCalls history).length).map counter).map some
  current : s.autoBreedNonce = counter (acceptedCalls history).length
  ceiling : history.countP (atCeiling T) =
    ((List.range (acceptedCalls history).length).map counter).countP
      (· == u32Max)

theorem NonceHistory.concat {history : List (Step AccountId)}
    {s : Storage AccountId} (h : NonceHistory T history s)
    (input : Input AccountId) :
    NonceHistory T (history ++ [transition (step T) s input])
      (step T input s).2 := by
  have hcalls := acceptedCalls_concat history (transition (step T) s input)
  cases nonceStep T s input with
  | accepted call isAccepted nonce post ceiling =>
      rw [isAccepted, Option.toList_some] at hcalls
      change call.nonce = some s.autoBreedNonce at nonce
      change (step T input s).2.autoBreedNonce = _ at post
      change _ = (s.autoBreedNonce == u32Max) at ceiling
      rw [h.current] at nonce ceiling
      constructor
      · rw [hcalls, List.map_append, h.carried, List.length_append,
          List.length_singleton, List.range_succ, List.map_append,
          List.map_append, List.map_singleton, nonce]
        rfl
      · rw [hcalls, List.length_append, List.length_singleton, post]
        change saturatingAdd s.autoBreedNonce 1 = _
        rw [h.current, saturatingAdd_counter]
      · rw [hcalls, List.length_append, List.length_singleton, List.range_succ,
          List.map_append, List.countP_append, List.countP_append, h.ceiling,
          List.map_singleton, List.countP_singleton, List.countP_singleton,
          ceiling]
  | refused isRefused post ceiling =>
      rw [isRefused, Option.toList_none, List.append_nil] at hcalls
      constructor
      · rw [hcalls, h.carried]
      · rw [hcalls, ← h.current]
        exact post
      · rw [hcalls, List.countP_append, List.countP_singleton, ceiling, h.ceiling]
        rfl

section Genesis

variable [Inhabited AccountId]

omit [DecidableEq AccountId] in
theorem IsGenesis.nonce {s : Storage AccountId} (h : IsGenesis T s) :
    s.autoBreedNonce = 0 := by
  obtain ⟨balances, hbuild⟩ := h
  have hforeign : ∀ nonce, Foreign (·.withNonce nonce) (build T) := by
    intro nonce
    refine .bind (callNft_foreign nonce _) fun classId => ?_
    exact .write fun _ => rfl
  have hnonce := nonce_of_foreign hforeign (.empty balances)
  rw [hbuild] at hnonce
  exact hnonce

theorem nonceHistory_of_run {s₀ : Storage AccountId} (genesis : IsGenesis T s₀)
    (inputs : List (Input AccountId)) :
    NonceHistory T (trace (step T) s₀ inputs) (run (step T) s₀ inputs) := by
  refine trace_induction (P := NonceHistory T) ?_ ?_ inputs
  · exact ⟨rfl, genesis.nonce, rfl⟩
  · intro before input ih
    exact ih.concat input

/--
The nonce is the number of accepted extrinsics, up to `u32::MAX`, and each of
them carries the number of those before it.  A proof is only refused if it is
invalid or carries another nonce.
-/
theorem nonce_counts_accepted {s₀ : Storage AccountId} (genesis : IsGenesis T s₀)
    (inputs : List (Input AccountId)) :
    let accepted := acceptedCalls (trace (step T) s₀ inputs)
    (run (step T) s₀ inputs).autoBreedNonce.toNat =
        min accepted.length (2 ^ 32 - 1) ∧
      (∀ i call, accepted[i]? = some call → ∃ nonce, call.nonce = some nonce ∧
        nonce.toNat = min i (2 ^ 32 - 1)) ∧
      (∀ t ∈ trace (step T) s₀ inputs, ∀ call, acceptedCall t = some call ↔
        t.input.action = .unsigned call ∧ (preDispatch T call t.pre).1 = .ok ()) ∧
      (∀ t ∈ trace (step T) s₀ inputs, acceptedCall t = none →
        t.post.autoBreedNonce = t.pre.autoBreedNonce) ∧
      (∀ t ∈ trace (step T) s₀ inputs, ∀ kittyId1 kittyId2 nonce solution,
        t.input.action =
            .unsigned (.autoBreed kittyId1 kittyId2 nonce solution) →
          acceptedCall t = none →
          (validateSolution T kittyId1 kittyId2 nonce solution = false ∨
              nonce ≠ t.pre.autoBreedNonce) ∧
            t.outcome = .rejected .badProof ∧ t.post = t.pre) ∧
      (∀ env origin call s, (dispatch T env origin call s).2.autoBreedNonce =
        s.autoBreedNonce) ∧
      ∀ locked rng s, (offchainWorker T locked rng s).2.autoBreedNonce =
        s.autoBreedNonce := by
  intro accepted
  have h := nonceHistory_of_run genesis inputs
  have hcarried : accepted.map Call.nonce =
      ((List.range accepted.length).map counter).map some := h.carried
  refine ⟨?_, fun i call hcall => ?_, fun t ht call => ?_, fun t ht hnone => ?_,
    fun t ht kittyId1 kittyId2 nonce solution haction hnone => ?_,
    fun env origin call s => dispatch_keeps_nonce origin call s,
    fun locked rng s => rfl⟩
  · rw [h.current, toNat_counter]
  · have hi : i < accepted.length := (List.getElem?_eq_some_iff.mp hcall).1
    have hnonce := congrArg (fun nonces => nonces[i]?) hcarried
    simp only [List.getElem?_map, List.getElem?_range hi, hcall, Option.map_some,
      Option.some.injEq] at hnonce
    exact ⟨counter i, hnonce, toNat_counter i⟩
  · obtain ⟨before, input, rfl⟩ := exists_of_mem_trace ht
    exact acceptedCall_eq_some
  · obtain ⟨before, input, rfl⟩ := exists_of_mem_trace ht
    cases nonceStep T (run (step T) s₀ before) input with
    | accepted call isAccepted nonce post ceiling =>
        rw [isAccepted] at hnone
        cases hnone
    | refused isRefused post ceiling => exact post
  · obtain ⟨before, ⟨env, action⟩, rfl⟩ := exists_of_mem_trace ht
    obtain rfl : action = _ := haction
    obtain ⟨hbad, hstep⟩ := refused_autoBreed hnone
    exact ⟨hbad, congrArg Prod.fst hstep, congrArg Prod.snd hstep⟩

end Genesis

/-! ## Replays -/

structure NoReplay (calls : List (Call AccountId)) : Prop where
  increasing : (calls.filterMap Call.nonce).Pairwise (· < ·)
  distinct : calls.Nodup
  single : ∀ nonce, (calls.filter fun call => call.nonce = some nonce).length ≤ 1

omit [DecidableEq AccountId] in
theorem noReplay_iff_increasing {calls : List (Call AccountId)}
    {nonces : List UInt32} (h : calls.map Call.nonce = nonces.map some) :
    NoReplay calls ↔ nonces.Pairwise (· < ·) := by
  have hnonces : calls.filterMap Call.nonce = nonces := by
    have hid : calls.filterMap Call.nonce =
        (calls.map Call.nonce).filterMap id := by
      rw [List.filterMap_map]
      rfl
    rw [hid, h, List.filterMap_map]
    simp
  constructor
  · intro hreplay
    rw [← hnonces]
    exact hreplay.increasing
  · intro hincreasing
    have hnodup : (calls.map Call.nonce).Nodup := by
      rw [h]
      have hne : nonces.Nodup :=
        hincreasing.imp fun {a b} hlt heq => by
          rw [heq] at hlt
          exact UInt32.lt_irrefl b hlt
      exact hne.map (Option.some_injective UInt32)
    refine ⟨by rw [hnonces]; exact hincreasing, hnodup.of_map _, fun nonce => ?_⟩
    have hcount := List.nodup_iff_count_le_one.mp hnodup (some nonce)
    rw [List.count_eq_countP, List.countP_map, List.countP_eq_length_filter]
      at hcount
    have hfilter : calls.filter (fun call => call.nonce = some nonce) =
        calls.filter ((· == some nonce) ∘ Call.nonce) :=
      List.filter_congr fun call _ => (beq_eq_decide _ _).symm
    rw [hfilter]
    exact hcount

/--
A proof is never replayed as long as at most one valid proof arrives after the
nonce has reached `u32::MAX`; the second one is accepted with the same nonce.
-/
theorem no_replay_iff [Inhabited AccountId] {s₀ : Storage AccountId}
    (genesis : IsGenesis T s₀) (inputs : List (Input AccountId)) :
    NoReplay (acceptedCalls (trace (step T) s₀ inputs)) ↔
      (trace (step T) s₀ inputs).countP (atCeiling T) ≤ 1 := by
  have h := nonceHistory_of_run genesis inputs
  rw [noReplay_iff_increasing h.carried, counters_increasing_iff, h.ceiling,
    countP_counters]
  omega

/-! ## A replay -/

def proofs (env : Env) (solve : UInt32 → BitVec 128) (count : Nat) :
    List (Input AccountId) :=
  (List.range count).map fun i =>
    { env, action := .unsigned (.autoBreed 0 1 (counter i) (solve (counter i))) }

theorem proofs_accepted (env : Env) {solve : UInt32 → BitVec 128}
    (solves : ∀ nonce, validateSolution T 0 1 nonce (solve nonce) = true)
    {s : Storage AccountId} (start : s.autoBreedNonce = 0) (count : Nat) :
    (acceptedCalls (trace (step T) s (proofs env solve count))).length = count ∧
      (run (step T) s (proofs env solve count)).autoBreedNonce =
        counter count := by
  induction count with
  | zero => exact ⟨rfl, start⟩
  | succ count ih =>
      obtain ⟨hlength, hnonce⟩ := ih
      let call : Call AccountId :=
        .autoBreed 0 1 (counter count) (solve (counter count))
      have hproofs : proofs env solve (count + 1) =
          proofs env solve count ++ [⟨env, .unsigned call⟩] := by
        simp only [proofs, List.range_succ, List.map_append, List.map_singleton,
          call]
      have haccepts :
          accepts T (run (step T) s (proofs env solve count)) call = true := by
        simp [accepts, call, solves, hnonce]
      rw [hproofs, trace_concat, run_concat]
      constructor
      · rw [acceptedCalls_concat, List.length_append, hlength,
          acceptedCall_unsigned, if_pos haccepts]
        rfl
      · rw [nonce_after_unsigned, if_pos haccepts, hnonce, saturatingAdd_counter]

/--
If every nonce has a proof, the counter runs full, and the proof of `u32::MAX`
is then accepted again and again.
-/
theorem replay_of_solvable [Inhabited AccountId] {solve : UInt32 → BitVec 128}
    (solves : ∀ nonce, validateSolution T 0 1 nonce (solve nonce) = true)
    {s₀ : Storage AccountId} (genesis : IsGenesis T s₀) (env : Env) :
    ¬ NoReplay (acceptedCalls
      (trace (step T) s₀ (proofs env solve (2 ^ 32 + 1)))) := by
  have hcount := (proofs_accepted env solves genesis.nonce
    (2 ^ 32 + 1)).1
  have h := nonceHistory_of_run genesis (proofs env solve (2 ^ 32 + 1))
  rw [noReplay_iff_increasing h.carried, counters_increasing_iff, hcount]
  omega

end Nonce

def Mock.lenient : Config Mock.AccountId :=
  { Mock.config with blake2_128 := fun _ => Vector.replicate 16 0 }

/-- With 2^32 + 1 submissions the last one repeats the one before. -/
theorem replay_in_lenient_runtime :
    ¬ NoReplay (acceptedCalls (trace (step Mock.lenient) Mock.genesis
      (proofs (Mock.seeded 0) (fun _ => 0) (2 ^ 32 + 1)))) := by
  have hsolves : ∀ nonce, validateSolution Mock.lenient 0 1 nonce 0 = true := by
    intro nonce
    rfl
  exact replay_of_solvable hsolves ⟨_, rfl⟩ (Mock.seeded 0)

-- under BLAKE2b the proof of `u32::MAX` stays acceptable once it was accepted
example :
    let s := { Mock.genesis with autoBreedNonce := u32Max }
    accepts Mock.config s (.autoBreed 0 1 4294967295 0) = true ∧
      accepts Mock.config s.validated (.autoBreed 0 1 4294967295 0) = true := by
  decide +kernel

theorem Mock.two_proofs_accepted :
    (acceptedCalls (trace (step Mock.config) Mock.genesis
      Mock.canValidateUnsigned)).length = 2 := by
  decide +kernel

theorem nonce_counts_accepted_in_can_validate_unsigned :
    (run (step Mock.config) Mock.genesis
      Mock.canValidateUnsigned).autoBreedNonce.toNat = 2 := by
  have hcount :=
    (nonce_counts_accepted Mock.genesis_isGenesis Mock.canValidateUnsigned).1
  rw [Mock.two_proofs_accepted] at hcount
  exact hcount

theorem no_replay_in_can_validate_unsigned :
    NoReplay (acceptedCalls
      (trace (step Mock.config) Mock.genesis Mock.canValidateUnsigned)) := by
  refine (no_replay_iff Mock.genesis_isGenesis Mock.canValidateUnsigned).mpr ?_
  have h := nonceHistory_of_run Mock.genesis_isGenesis Mock.canValidateUnsigned
  rw [h.ceiling, countP_counters, Mock.two_proofs_accepted]
  omega

end SubstrateKitties.Pallet
