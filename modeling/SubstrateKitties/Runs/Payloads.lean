import SubstrateKitties.Foundation.Codec
import SubstrateKitties.Runs.Births
import SubstrateKitties.Runs.Nonce

/-!
# What is hashed

Random values and proofs are hashes of encoded payloads.  The encodings lose
nothing, so two created kitties are clones only if one account drew them in the
same environment, or if two payloads collide, and a proof that has been
accepted is never good for another acceptance.
-/

namespace SubstrateKitties.Pallet

open SubstrateKitties.Foundation
open SubstrateKitties.Foundation.Dispatch

section Payloads

variable {AccountId : Type}

def randomPayload (T : Config AccountId) (env : Env) (sender : AccountId) :
    List UInt8 :=
  env.randomSeed.toList ++ T.encodeAccountId sender ++
    encodeOption encodeU32 env.extrinsicIndex

def solutionPayload (kittyId1 kittyId2 : TokenId) (nonce : UInt32)
    (solution : BitVec 128) : List UInt8 :=
  encodeU32 kittyId1 ++ encodeU32 kittyId2 ++ encodeU32 nonce ++
    encodeU128 solution

theorem randomValue_eq (T : Config AccountId) (env : Env) (sender : AccountId) :
    randomValue T env sender = T.blake2_128 (randomPayload T env sender) := rfl

theorem validateSolution_iff (T : Config AccountId) {kittyId1 kittyId2 : TokenId}
    {nonce : UInt32} {solution : BitVec 128} :
    validateSolution T kittyId1 kittyId2 nonce solution = true ↔
      leValue (T.blake2_128
        (solutionPayload kittyId1 kittyId2 nonce solution)).toList <
          (2 ^ 128 - 1) / T.defaultDifficulty.toNat :=
  decide_eq_true_iff

/-! ## Payloads determine what is in them -/

theorem randomPayload_injective {T : Config AccountId}
    (accounts : PrefixFree T.encodeAccountId) {env env' : Env}
    {sender sender' : AccountId}
    (h : randomPayload T env sender = randomPayload T env' sender') :
    env = env' ∧ sender = sender' := by
  have hcode := ((bytes_prefixFree 32).pair accounts).pair encodeU32_prefixFree.option
  have hequal := hcode.injective
    (a := ((env.randomSeed, sender), env.extrinsicIndex))
    (b := ((env'.randomSeed, sender'), env'.extrinsicIndex)) h
  cases env
  cases env'
  simp_all

theorem env_of_randomPayload {T : Config AccountId} {env env' : Env}
    {sender : AccountId}
    (h : randomPayload T env sender = randomPayload T env' sender) :
    env = env' := by
  simp only [randomPayload, List.append_assoc] at h
  obtain ⟨hseed, hrest⟩ := bytes_prefixFree 32 _ _ _ _ h
  have hindex := encodeU32_prefixFree.option.injective
    (List.append_cancel_left hrest)
  cases env
  cases env'
  simp_all

theorem solutionPayload_injective {a₁ b₁ a₂ b₂ : TokenId}
    {nonce₁ nonce₂ : UInt32} {solution₁ solution₂ : BitVec 128}
    (h : solutionPayload a₁ b₁ nonce₁ solution₁ =
      solutionPayload a₂ b₂ nonce₂ solution₂) :
    a₁ = a₂ ∧ b₁ = b₂ ∧ nonce₁ = nonce₂ ∧ solution₁ = solution₂ := by
  have hcode := ((encodeU32_prefixFree.pair encodeU32_prefixFree).pair
    encodeU32_prefixFree).pair encodeU128_prefixFree
  have hequal := hcode.injective (a := (((a₁, b₁), nonce₁), solution₁))
    (b := (((a₂, b₂), nonce₂), solution₂)) h
  simp_all

def Call.payload : Call AccountId → List UInt8
  | .autoBreed kittyId1 kittyId2 nonce solution =>
      solutionPayload kittyId1 kittyId2 nonce solution
  | _ => []

theorem Call.nonce_of_payload {call call' : Call AccountId}
    {nonce nonce' : UInt32} (h : call.nonce = some nonce)
    (h' : call'.nonce = some nonce') (payload : call.payload = call'.payload) :
    nonce = nonce' := by
  cases call with
  | autoBreed a b n solution =>
      cases call' with
      | autoBreed a' b' n' solution' =>
          cases h
          cases h'
          exact (solutionPayload_injective payload).2.2.1
      | _ => cases h'
  | _ => cases h

/-- The accepted calls but those that carry the largest nonce. -/
def freshCalls (history : List (Step AccountId)) : List (Call AccountId) :=
  (acceptedCalls history).filter fun call => call.nonce != some u32Max

/-! ## Clones -/

structure Creates (t : Step AccountId) (who : AccountId) : Prop where
  action : t.input.action = .dispatch (.signed who) .create
  success : t.outcome = .dispatched (.ok ())

variable [DecidableEq AccountId] {T : Config AccountId} (lawful : T.Lawful)

include lawful

theorem Creates.dna {s₀ : Storage AccountId} (start : Population s₀)
    {inputs : List (Input AccountId)} {t : Step AccountId}
    (ht : t ∈ trace (step T) s₀ inputs) {who : AccountId}
    (creates : Creates t who) :
    (run (step T) s₀ inputs).dna t.pre.nextTokenId =
      some (randomValue T t.input.env who) := by
  obtain ⟨before, input, after, rfl, hrun⟩ := run_split_of_mem_trace ht
  obtain ⟨env, action⟩ := input
  obtain ⟨rfl, success⟩ := creates
  have hpopulation := start.run lawful before
  have hok : (create T env (.signed who) (run (step T) s₀ before)).1 = .ok () :=
    Outcome.dispatched.inj success
  have hadds := create_onlyAdds lawful hpopulation hok
  have hpersists := Persists.run lawful
    (hpopulation.step lawful ⟨env, .dispatch (.signed who) .create⟩) after
  rw [hrun]
  exact hpersists.dna (Storage.dna_eq_some.mpr ⟨_, hadds.token, rfl⟩)

/--
The DNA of two created kitties is the same exactly if one account has drawn it
in one environment, or if the hash has a collision in these two draws.
-/
theorem clones_are_drawn_alike [Inhabited AccountId]
    (accounts : PrefixFree T.encodeAccountId) {s₀ : Storage AccountId}
    (genesis : IsGenesis T s₀) (inputs : List (Input AccountId))
    {t₁ t₂ : Step AccountId} (ht₁ : t₁ ∈ trace (step T) s₀ inputs)
    (ht₂ : t₂ ∈ trace (step T) s₀ inputs) {who₁ who₂ : AccountId}
    (creates₁ : Creates t₁ who₁) (creates₂ : Creates t₂ who₂) :
    let s := run (step T) s₀ inputs
    let payload₁ := randomPayload T t₁.input.env who₁
    let payload₂ := randomPayload T t₂.input.env who₂
    s.dna t₁.pre.nextTokenId = s.dna t₂.pre.nextTokenId ↔
      (t₁.input.env = t₂.input.env ∧ who₁ = who₂) ∨
        (payload₁ ≠ payload₂ ∧ T.blake2_128 payload₁ = T.blake2_128 payload₂) := by
  intro s payload₁ payload₂
  have hstart := Population.of_genesis lawful genesis
  rw [creates₁.dna lawful hstart ht₁, creates₂.dna lawful hstart ht₂,
    randomValue_eq, randomValue_eq, Option.some.injEq]
  constructor
  · intro hhash
    by_cases hpayload : payload₁ = payload₂
    · exact .inl (randomPayload_injective accounts hpayload)
    · exact .inr ⟨hpayload, hhash⟩
  · rintro (⟨henv, rfl⟩ | ⟨-, hhash⟩)
    · rw [henv]
    · exact hhash

/-! ## Proofs are spent -/

omit lawful

variable [Inhabited AccountId]

theorem freshCalls_nonces {s₀ : Storage AccountId} (genesis : IsGenesis T s₀)
    (inputs : List (Input AccountId)) :
    ∃ nonces : List UInt32, nonces.Pairwise (· < ·) ∧
      (freshCalls (trace (step T) s₀ inputs)).map Call.nonce =
        nonces.map some := by
  have hcarried := (nonceHistory_of_run genesis inputs).carried
  refine ⟨_, counters_increasing_below
    (acceptedCalls (trace (step T) s₀ inputs)).length, ?_⟩
  have hfilter := congrArg (List.filter (· != some u32Max)) hcarried
  rw [List.filter_map, List.filter_map] at hfilter
  exact hfilter

/--
Every accepted proof is a payload whose hash is below the target, and below the
largest nonce no payload is accepted twice.
-/
theorem proofs_are_spent {s₀ : Storage AccountId} (genesis : IsGenesis T s₀)
    (inputs : List (Input AccountId)) :
    ((freshCalls (trace (step T) s₀ inputs)).map Call.payload).Nodup ∧
      ∀ call ∈ acceptedCalls (trace (step T) s₀ inputs),
        leValue (T.blake2_128 call.payload).toList <
          (2 ^ 128 - 1) / T.defaultDifficulty.toNat := by
  constructor
  · obtain ⟨nonces, hincreasing, hnonces⟩ := freshCalls_nonces genesis inputs
    have hnodup : ((freshCalls (trace (step T) s₀ inputs)).map
        Call.nonce).Nodup := by
      rw [hnonces]
      exact List.Nodup.map (Option.some_injective UInt32)
        (hincreasing.imp UInt32.ne_of_lt)
    have hsome : ∀ call ∈ freshCalls (trace (step T) s₀ inputs),
        ∃ nonce, call.nonce = some nonce := by
      intro call hcall
      have hmem := List.mem_map_of_mem (f := Call.nonce) hcall
      rw [hnonces] at hmem
      obtain ⟨nonce, -, hnonce⟩ := List.mem_map.mp hmem
      exact ⟨nonce, hnonce.symm⟩
    rw [List.Nodup, List.pairwise_map] at hnodup ⊢
    refine hnodup.imp_of_mem fun {call call'} hcall hcall' hne hpayload => ?_
    obtain ⟨nonce, hnonce⟩ := hsome call hcall
    obtain ⟨nonce', hnonce'⟩ := hsome call' hcall'
    have hequal := Call.nonce_of_payload hnonce hnonce' hpayload
    exact hne (by rw [hnonce, hnonce', hequal])
  · intro call hcall
    obtain ⟨t, ht, haccepted⟩ := List.mem_filterMap.mp hcall
    obtain ⟨before, input, rfl⟩ := exists_of_mem_trace ht
    obtain ⟨-, hok⟩ := acceptedCall_eq_some.mp haccepted
    have haccepts : accepts T (run (step T) s₀ before) call = true := by
      by_contra hrefused
      simp [preDispatch_eq, hrefused] at hok
    obtain ⟨kittyId1, kittyId2, solution, rfl, hvalid⟩ :=
      (accepts_iff T).mp haccepts
    exact (validateSolution_iff T).mp hvalid

end Payloads

/--
The randomness of the tests gives an account the same kitty again in the same
extrinsic of a later block, and another kitty under another seed.
-/
theorem clones_are_drawn_alike_of_mock_random :
    let s := run (step Mock.config) Mock.genesis
      [Mock.signed 100 .create, Mock.signed 100 .create,
        ⟨Mock.seeded 2, .dispatch (.signed 100) .create⟩]
    s.dna 0 = s.dna 1 ∧ s.dna 0 ≠ s.dna 2 := by
  intro s
  let inputs : List (Input Mock.AccountId) :=
    [Mock.signed 100 .create, Mock.signed 100 .create,
      ⟨Mock.seeded 2, .dispatch (.signed 100) .create⟩]
  let first := transition (step Mock.config) Mock.genesis
    (Mock.signed 100 .create)
  let second := transition (step Mock.config) first.post
    (Mock.signed 100 .create)
  let third := transition (step Mock.config) second.post
    ⟨Mock.seeded 2, .dispatch (.signed 100) .create⟩
  have hfirst : Creates first 100 := ⟨rfl, rfl⟩
  have hsecond : Creates second 100 := ⟨rfl, rfl⟩
  have hthird : Creates third 100 := ⟨rfl, rfl⟩
  constructor
  · exact (clones_are_drawn_alike Mock.config_lawful encodeU64_prefixFree
      Mock.genesis_isGenesis inputs (.head _) (.tail _ (.head _)) hfirst
      hsecond).mpr (.inl ⟨rfl, rfl⟩)
  · intro hdna
    rcases (clones_are_drawn_alike Mock.config_lawful encodeU64_prefixFree
      Mock.genesis_isGenesis inputs (.head _) (.tail _ (.tail _ (.head _)))
      hfirst hthird).mp hdna with ⟨henv, -⟩ | ⟨-, hhash⟩
    · exact absurd henv (by decide)
    · exact absurd hhash (by decide +kernel)

theorem proofs_are_spent_in_can_validate_unsigned :
    let history := trace (step Mock.config) Mock.genesis Mock.canValidateUnsigned
    ((freshCalls history).map Call.payload).Nodup ∧
      ∀ call ∈ acceptedCalls history,
        leValue (Blake2b.digest call.payload).toList < (2 ^ 128 - 1) / 3 :=
  proofs_are_spent Mock.genesis_isGenesis Mock.canValidateUnsigned

end SubstrateKitties.Pallet
