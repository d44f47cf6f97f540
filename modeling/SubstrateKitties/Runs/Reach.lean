import SubstrateKitties.Runs.Network

/-!
# What the worker can find

Every pair of different gender may be drawn, and under it every prefix.  So the
calls that the worker can submit are exactly the first valid solutions of their
prefixes, for any couple there is, as far as the budget allows.  What is in
reach can be mined and delivered at any time, whatever else is under way.  That
the transaction pool passes the submission on is assumed: `Pallet.Validation`
shows that it provides no tag.
-/

namespace SubstrateKitties.Pallet

open SubstrateKitties.Foundation
open SubstrateKitties.Foundation.Dispatch

section Reach

variable {AccountId : Type}

/-- A solution of 64 bits, the first one of its prefix, tried within the budget. -/
structure InReach (T : Config AccountId) (s : Storage AccountId)
    (kittyId1 kittyId2 : TokenId) (solution : BitVec 128) : Prop where
  issued1 : kittyId1 < s.nextTokenId
  issued2 : kittyId2 < s.nextTokenId
  couple : Couple s (kittyId1, kittyId2)
  valid : validateSolution T kittyId1 kittyId2 s.autoBreedNonce solution = true
  short : solution.toNat < 2 ^ 64
  tried : solution.toNat % 2 ^ 32 < maxIterations
  first : ∀ earlier : BitVec 128,
    earlier.toNat / 2 ^ 32 = solution.toNat / 2 ^ 32 →
    earlier.toNat < solution.toNat →
    validateSolution T kittyId1 kittyId2 s.autoBreedNonce earlier = false

/-! ## Solutions and their prefixes -/

theorem eq_solutionAt {solutionPrefix : UInt32} {solution : BitVec 128}
    (h : solution.toNat / 2 ^ 32 = solutionPrefix.toNat) :
    solution = solutionAt solutionPrefix (solution.toNat % 2 ^ 32) := by
  apply BitVec.eq_of_toNat_eq
  rw [solutionAt_toNat solutionPrefix (Nat.mod_lt _ (by omega))]
  omega

theorem find?_solutions {accept : BitVec 128 → Bool} {solutionPrefix : UInt32}
    {count : Nat} (h : count ≤ 2 ^ 32) {solution : BitVec 128} :
    (solutions solutionPrefix count).find? accept = some solution ↔
      accept solution = true ∧
        solution.toNat / 2 ^ 32 = solutionPrefix.toNat ∧
        solution.toNat % 2 ^ 32 < count ∧
        ∀ earlier : BitVec 128,
          earlier.toNat / 2 ^ 32 = solutionPrefix.toNat →
          earlier.toNat < solution.toNat → accept earlier = false := by
  rw [solutions, List.find?_map, Option.map_eq_some_iff]
  constructor
  · rintro ⟨i, hfind, rfl⟩
    obtain ⟨haccept, hi, hbefore⟩ := List.find?_range_eq_some.mp hfind
    have hcount : i < count := List.mem_range.mp hi
    have htoNat := solutionAt_toNat solutionPrefix (i := i) (by omega)
    refine ⟨haccept, by omega, by omega, fun earlier hprefix hless => ?_⟩
    have hnot := hbefore (earlier.toNat % 2 ^ 32) (by omega)
    rw [Function.comp_apply, ← eq_solutionAt hprefix] at hnot
    simpa using hnot
  · rintro ⟨haccept, hprefix, hcount, hbefore⟩
    refine ⟨solution.toNat % 2 ^ 32, ?_, (eq_solutionAt hprefix).symm⟩
    refine List.find?_range_eq_some.mpr ⟨?_, List.mem_range.mpr hcount, ?_⟩
    · rw [Function.comp_apply, ← eq_solutionAt hprefix]
      exact haccept
    · intro j hj
      have htoNat := solutionAt_toNat solutionPrefix (i := j) (by omega)
      have hnot := hbefore (solutionAt solutionPrefix j) (by omega) (by omega)
      simpa using hnot

/-! ## Runs of the worker -/

variable {T : Config AccountId} {s : Storage AccountId}

inductive Mined (T : Config AccountId) (s : Storage AccountId) :
    List (Call AccountId) → Prop where
  | nothing : Mined T s []
  | found (kittyId1 kittyId2 : TokenId) (solution : BitVec 128)
      (reach : InReach T s kittyId1 kittyId2 solution) :
      Mined T s [.autoBreed kittyId1 kittyId2 s.autoBreedNonce solution]

theorem RunEnd.mined (h : Population s) {rng : Nat → UInt32} {pairs : Nat}
    {result : Except Stop Unit} {w : Worker AccountId}
    (ends : RunEnd T s rng pairs (result, w)) : Mined T s w.submitted := by
  cases ends with
  | noKitty nobody => exact .nothing
  | noCouple kitties nowhere => exact .nothing
  | searched i kitties within couple before =>
      simp only [Worker.search_submitted, Worker.advance_submitted,
        start_submitted, List.nil_append]
      cases hfound : (solutions (rng (2 * (i + 1))) (maxIterations - i)).find?
          (validateSolution T (drawnPair rng s.nextTokenId i).1
            (drawnPair rng s.nextTokenId i).2 s.autoBreedNonce) with
      | none => exact .nothing
      | some solution =>
          have hword := (rng (2 * (i + 1))).toNat_lt
          have hbudget : maxIterations - i ≤ 2 ^ 32 := by
            unfold maxIterations
            omega
          obtain ⟨hvalid, hprefix, hcount, hfirst⟩ :=
            (find?_solutions hbudget).mp hfound
          obtain ⟨htoken1, htoken2⟩ := tokens_of_drawnPair h kitties rng i
          refine .found _ _ solution ⟨(h.issued _).mp htoken1,
            (h.issued _).mp htoken2, couple, hvalid, by omega, by omega, ?_⟩
          intro earlier hsame hless
          exact hfirst earlier (hsame.trans hprefix) hless

theorem runOffchainWorker_mined (T : Config AccountId) (h : Population s)
    (rng : Nat → UInt32) :
    ∃ submitted, (runOffchainWorker T true s (.start rng)).2.submitted =
      submitted ∧ Mined T s submitted := by
  obtain ⟨pairs, hends⟩ := runOffchainWorker_ends T h rng
  exact ⟨_, rfl, hends.mined h⟩

/-- The draws that bring a couple at once and then a prefix. -/
def draws (kittyId1 kittyId2 : TokenId) (solutionPrefix : UInt32) :
    Nat → UInt32
  | 0 => kittyId1
  | 1 => kittyId2
  | _ => solutionPrefix

theorem drawnPair_draws {kittyCount kittyId1 kittyId2 : TokenId}
    (issued1 : kittyId1 < kittyCount) (issued2 : kittyId2 < kittyCount)
    (solutionPrefix : UInt32) :
    drawnPair (draws kittyId1 kittyId2 solutionPrefix) kittyCount 0 =
      (kittyId1, kittyId2) := by
  simp only [drawnPair, draws]
  rw [UInt32.mod_eq_of_lt issued1, UInt32.mod_eq_of_lt issued2]

theorem InReach.submitted (h : Population s) {kittyId1 kittyId2 : TokenId}
    {solution : BitVec 128} (reach : InReach T s kittyId1 kittyId2 solution) :
    ∃ rng, (runOffchainWorker T true s (.start rng)).2.submitted =
      [.autoBreed kittyId1 kittyId2 s.autoBreedNonce solution] := by
  obtain ⟨solutionPrefix, hprefix⟩ : ∃ solutionPrefix : UInt32,
      solution.toNat / 2 ^ 32 = solutionPrefix.toNat := by
    have hshort := reach.short
    have hword : solution.toNat / 2 ^ 32 < 2 ^ 32 := by omega
    exact ⟨_, (UInt32.toNat_ofNat_of_lt' hword).symm⟩
  refine ⟨draws kittyId1 kittyId2 solutionPrefix, ?_⟩
  have hpair := drawnPair_draws reach.issued1 reach.issued2 solutionPrefix
  have hcouple := reach.couple
  rw [← hpair] at hcouple
  obtain ⟨pairs, hends⟩ :=
    runOffchainWorker_ends T h (draws kittyId1 kittyId2 solutionPrefix)
  revert hends
  generalize runOffchainWorker T true s _ = ended
  intro hends
  cases hends with
  | noKitty nobody =>
      have hissued := reach.issued1
      rw [nobody] at hissued
      exact absurd hissued UInt32.not_lt_zero
  | noCouple kitties nowhere => exact absurd hcouple (nowhere 0 (by decide))
  | searched i kitties within couple before =>
      cases i with
      | zero =>
          have hfound : (solutions solutionPrefix maxIterations).find?
              (validateSolution T kittyId1 kittyId2 s.autoBreedNonce) =
                some solution := by
            refine (find?_solutions (by decide)).mpr
              ⟨reach.valid, hprefix, reach.tried, fun earlier hsame hless => ?_⟩
            exact reach.first earlier (hsame.trans hprefix.symm) hless
          have hdrawn : draws kittyId1 kittyId2 solutionPrefix (2 * (0 + 1)) =
              solutionPrefix := rfl
          simp [hpair, hdrawn, hfound]
      | succ i => exact absurd hcouple (before 0 (by omega))

/--
Over all streams of random numbers, the worker submits the calls that are in
reach, and no others.
-/
theorem worker_finds_what_is_in_reach [DecidableEq AccountId]
    [Inhabited AccountId] (lawful : T.Lawful) (reachable : Reachable T s)
    (call : Call AccountId) :
    (∃ rng, call ∈ (runOffchainWorker T true s (.start rng)).2.submitted) ↔
      ∃ kittyId1 kittyId2 solution,
        call = .autoBreed kittyId1 kittyId2 s.autoBreedNonce solution ∧
          InReach T s kittyId1 kittyId2 solution := by
  have hpopulation : Population s := .of_reachable lawful reachable
  constructor
  · rintro ⟨rng, hsubmitted⟩
    obtain ⟨submitted, hsame, hmined⟩ := runOffchainWorker_mined T hpopulation rng
    rw [hsame] at hsubmitted
    cases hmined with
    | nothing => cases hsubmitted
    | found kittyId1 kittyId2 solution reach =>
        exact ⟨kittyId1, kittyId2, solution, List.mem_singleton.mp hsubmitted,
          reach⟩
  · rintro ⟨kittyId1, kittyId2, solution, rfl, reach⟩
    obtain ⟨rng, hsubmitted⟩ := reach.submitted hpopulation
    refine ⟨rng, ?_⟩
    rw [hsubmitted]
    exact List.mem_singleton_self _

theorem worker_finds_what_is_in_reach_for_couple :
    ∃ kittyId1 kittyId2 solution,
      (.autoBreed 0 1 0 2 : Call Mock.AccountId) =
        .autoBreed kittyId1 kittyId2
          (run (step Mock.config) Mock.genesis Mock.couple).autoBreedNonce
          solution ∧
        InReach Mock.config (run (step Mock.config) Mock.genesis Mock.couple)
          kittyId1 kittyId2 solution := by
  have hreachable := (Reachable.of_genesis Mock.genesis_isGenesis).run Mock.couple
  have hsubmitted : Call.autoBreed 0 1 0 2 ∈
      (runOffchainWorker Mock.config true
        (run (step Mock.config) Mock.genesis Mock.couple)
        (.start Mock.draws)).2.submitted := by
    rw [Mock.couple_submits]
    exact List.mem_singleton_self _
  exact (worker_finds_what_is_in_reach Mock.config_lawful hreachable _).mp
    ⟨Mock.draws, hsubmitted⟩

/-! ## Mining in the network -/

variable [DecidableEq AccountId]

namespace Network

/-- A worker runs on the present state, and its submission comes next. -/
def mine (T : Config AccountId) (net : Network AccountId) (rng : Nat → UInt32)
    (env : Env) : Network AccountId :=
  run (Network.step T) net [.work 0 true rng, .deliver net.flight.length env]

theorem mine_of_submitted {net : Network AccountId} {rng : Nat → UInt32}
    {call : Call AccountId} (submitted :
      (runOffchainWorker T true net.chain (.start rng)).2.submitted = [call])
    (env : Env) :
    (net.mine T rng env).chain =
      (Pallet.step T ⟨env, .unsigned call⟩ net.chain).2 := by
  have hview : net.view 0 = net.chain := rfl
  simp [mine, run, step, included, broadcast, offchainWorker, hview, submitted]

theorem mine_of_silent {net : Network AccountId} {rng : Nat → UInt32}
    (silent :
      (runOffchainWorker T true net.chain (.start rng)).2.submitted = [])
    (env : Env) : (net.mine T rng env).chain = net.chain := by
  have hview : net.view 0 = net.chain := rfl
  simp [mine, run, step, included, broadcast, offchainWorker, hview, silent]

theorem mined_delivery (lawful : T.Lawful) {net : Network AccountId}
    (sound : Sound T net) {rng : Nat → UInt32} {call : Call AccountId}
    (submitted :
      (runOffchainWorker T true net.chain (.start rng)).2.submitted = [call])
    (env : Env) : Delivery T net.chain env call := by
  have hmem : call ∈
      (runOffchainWorker T true net.chain (.start rng)).2.submitted := by
    simp [submitted]
  have hsubmittable : Submittable T net.chain call :=
    runOffchainWorker_submits sound.population hmem
  exact Pending.delivery lawful sound.population
    ⟨_, UInt32.le_refl _, hsubmittable⟩ env

theorem mine_birth (lawful : T.Lawful) {net : Network AccountId}
    (sound : Sound T net) {rng : Nat → UInt32} {env : Env} {owner : AccountId}
    {kitty : Kitty}
    (birth : (net.mine T rng env).chain = net.chain.validated.born owner kitty
      (.kittyBred owner net.chain.nextTokenId kitty)) :
    net.chain.nextTokenId ≠ u32Max ∧
      ∃ kittyId1 kittyId2 solution,
        InReach T net.chain kittyId1 kittyId2 solution := by
  have hevents := congrArg (fun s => s.events.length) birth
  obtain ⟨submitted, hsame, hmined⟩ :=
    runOffchainWorker_mined T sound.population rng
  cases hmined with
  | nothing =>
      rw [mine_of_silent hsame] at hevents
      simp at hevents
  | found kittyId1 kittyId2 solution reach =>
      rw [mine_of_submitted hsame] at hevents
      cases mined_delivery lawful sound hsame env with
      | overtaken old refused => exact absurd rfl old
      | exhausted current full failed =>
          rw [failed] at hevents
          simp at hevents
      | born current room =>
          exact ⟨room, kittyId1, kittyId2, solution, reach⟩

variable [Inhabited AccountId]

/--
After every run of the network a birth can be mined by a worker whose submission
comes next, whatever is under way, exactly as long as something is in reach and
an id is left.
-/
theorem mining_is_never_blocked (lawful : T.Lawful) {s₀ : Storage AccountId}
    (genesis : IsGenesis T s₀) (actions : List (NetworkAction AccountId))
    (env : Env) :
    let net := run (Network.step T) (.opening s₀) actions
    (∃ rng owner kitty,
        (net.mine T rng env).chain = net.chain.validated.born owner kitty
          (.kittyBred owner net.chain.nextTokenId kitty)) ↔
      net.chain.nextTokenId ≠ u32Max ∧
        ∃ kittyId1 kittyId2 solution,
          InReach T net.chain kittyId1 kittyId2 solution := by
  intro net
  obtain ⟨-, hsound⟩ := run_sound lawful genesis actions
  constructor
  · rintro ⟨rng, owner, kitty, birth⟩
    exact mine_birth lawful hsound birth
  · rintro ⟨room, kittyId1, kittyId2, solution, reach⟩
    obtain ⟨rng, hsubmitted⟩ := reach.submitted hsound.population
    have hchain := mine_of_submitted hsubmitted env
    cases mined_delivery lawful hsound hsubmitted env with
    | overtaken old refused => exact absurd rfl old
    | exhausted current full failed => exact absurd full room
    | born current room _ _ _ _ owner owned kitty mints =>
        rw [mints] at hchain
        exact ⟨rng, owner, kitty, hchain⟩

end Network

end Reach

theorem mining_is_never_blocked_for_couple :
    let net := run (Network.step Mock.config) (.opening Mock.genesis)
      (Mock.couple.map .extrinsic ++ [.work 0 true Mock.draws])
    ∃ rng owner kitty,
      (net.mine Mock.config rng (Mock.seeded 0)).chain =
        net.chain.validated.born owner kitty
          (.kittyBred owner net.chain.nextTokenId kitty) := by
  intro net
  have hchain : net.chain = run (step Mock.config) Mock.genesis Mock.couple := rfl
  have hpopulation : Population net.chain := by
    rw [hchain]
    exact (Population.of_genesis Mock.config_lawful Mock.genesis_isGenesis).run
      Mock.config_lawful Mock.couple
  have hroom : net.chain.nextTokenId ≠ u32Max := by
    rw [hchain]
    decide +kernel
  have hreach : ∃ kittyId1 kittyId2 solution,
      InReach Mock.config net.chain kittyId1 kittyId2 solution := by
    obtain ⟨submitted, hsame, hmined⟩ :=
      runOffchainWorker_mined Mock.config hpopulation Mock.draws
    rw [hchain, Mock.couple_submits] at hsame
    cases hmined with
    | nothing => cases hsame
    | found kittyId1 kittyId2 solution reach =>
        exact ⟨kittyId1, kittyId2, solution, reach⟩
  exact (Network.mining_is_never_blocked Mock.config_lawful
    Mock.genesis_isGenesis _ (Mock.seeded 0)).mpr ⟨hroom, hreach⟩

end SubstrateKitties.Pallet
