import SubstrateKitties.Foundation.Excerpt
import SubstrateKitties.Pallet.Foreign
import SubstrateKitties.Runs.Lineage

/-!
# Runs without the calls that fail

The calls that succeed make the storage, in whatever order and by whomever the
others were made, and each of them may be dispatched directly.  Once the ids
have run out this separates the trades from everything else: what fails then
has no bearing on them.
-/

namespace SubstrateKitties.Pallet

open SubstrateKitties.Foundation
open SubstrateKitties.Foundation.Dispatch

section Excerpts

variable {AccountId : Type} [DecidableEq AccountId] {T : Config AccountId}

omit [DecidableEq AccountId] in
theorem Storage.prepared_withNonce (s : Storage AccountId)
    (input : Input AccountId) (nonce : UInt32) :
    (s.prepared T input).withNonce nonce = s.withNonce nonce := by
  obtain ⟨nonce', hprepared⟩ := s.prepared_eq T input
  rw [hprepared]
  rfl

theorem step_withNonce (s : Storage AccountId) (env : Env)
    (origin : Origin AccountId) (call : Call AccountId) (nonce : UInt32) :
    step T ⟨env, .dispatch origin call⟩ (s.withNonce nonce) =
      ((step T ⟨env, .dispatch origin call⟩ s).1,
        (step T ⟨env, .dispatch origin call⟩ s).2.withNonce nonce) := by
  simp only [step, dispatch_foreign nonce T env origin call s]

/-! ## The calls that succeed -/

/-- The call of an input, without the validation before it. -/
def Input.direct (input : Input AccountId) : Input AccountId where
  env := input.env
  action := .dispatch input.origin input.call

def success (t : Step AccountId) : Option (Input AccountId) :=
  if t.outcome.succeeded then some t.input.direct else none

variable (lawful : T.Lawful)

include lawful

theorem excerpt_success (nonce : UInt32) :
    Excerpt (step T) (step T) id success fun s s' => s' = s.withNonce nonce := by
  have hnext : ∀ (s : Storage AccountId) (input input' : Input AccountId),
      success (transition (step T) s input) = some input' →
      step T input' (s.withNonce nonce) =
        ((step T input s).1, (step T input s).2.withNonce nonce) := by
    intro s input input' hkeep
    cases step_cases lawful s input with
    | failed failure same => simp [success, transition, failure] at hkeep
    | succeeded hok heffect =>
        simp only [success, transition, hok, Outcome.succeeded, if_true,
          Option.some.injEq] at hkeep
        have hdirect := step_of_effect lawful heffect
        rw [← hkeep, Input.direct, ← s.prepared_withNonce input nonce,
          step_withNonce, hdirect, hok]
  refine ⟨?_, ?_, ?_⟩
  · rintro s s' input rfl hkeep
    cases step_cases lawful s input with
    | failed failure same => rw [same, s.prepared_withNonce]
    | succeeded hok heffect =>
        simp [success, transition, hok, Outcome.succeeded] at hkeep
  · rintro s s' input input' rfl hkeep
    simp [hnext s input input' hkeep]
  · rintro s s' input input' rfl hkeep
    rw [hnext s input input' hkeep]

/--
Every storage that a run reaches is reached, but for the nonce, by a run in
which each call is dispatched directly and succeeds.
-/
theorem successes_make_the_storage (s : Storage AccountId)
    (inputs : List (Input AccountId)) :
    let successes := (trace (step T) s inputs).filterMap success
    run (step T) s successes =
        (run (step T) s inputs).withNonce s.autoBreedNonce ∧
      ∀ outcome ∈ outcomes (step T) s successes, outcome.succeeded = true := by
  intro successes
  obtain ⟨hrun, houtcomes⟩ :=
    (excerpt_success lawful s.autoBreedNonce).runs rfl inputs
  rw [List.map_id] at houtcomes
  refine ⟨hrun, fun outcome houtcome => ?_⟩
  rw [show outcomes (step T) s successes = _ from houtcomes.symm] at houtcome
  obtain ⟨t, ht, rfl⟩ := List.mem_map.mp houtcome
  have hkept := (List.mem_filter.mp ht).2
  cases hok : t.outcome.succeeded with
  | true => rfl
  | false => simp [success, hok] at hkept

/-! ## When the ids have run out -/

omit lawful [DecidableEq AccountId] in
/-- A call that mints nothing, made by anyone but the pool. -/
def Input.isTrade (input : Input AccountId) : Bool :=
  match input.action with
  | .dispatch _ call => !call.mints
  | .unsigned _ => false

structure SoldOut (s : Storage AccountId) : Prop where
  population : Population s
  full : s.nextTokenId = u32Max

namespace SoldOut

omit lawful [DecidableEq AccountId] in
theorem no_room {s : Storage AccountId} (h : SoldOut s)
    (room : s.nft.CanMint s.classId) : False :=
  h.population.canMint_iff.mp room h.full

theorem isTrade_of_success {s : Storage AccountId} (h : SoldOut s)
    {input : Input AccountId}
    (hok : (Pallet.step T input s).1.succeeded = true) :
    input.isTrade = true := by
  cases step_cases lawful s input with
  | failed failure same =>
      rw [hok] at failure
      cases failure
  | succeeded success heffect =>
      have hprepared : SoldOut (s.prepared T input) :=
        ⟨h.population.prepared T input, by simpa using h.full⟩
      have hmints : input.call.mints = false := by
        cases Counts.effect heffect with
        | next isMint room => exact absurd room hprepared.no_room
        | same isNoMint => exact isNoMint
      obtain ⟨env, action⟩ := input
      cases action with
      | dispatch origin call =>
          have hcall : call.mints = false := hmints
          simp [Input.isTrade, hcall]
      | unsigned call =>
          -- without a signer only `auto_breed` succeeds, and it mints
          have horigin : Input.origin ⟨env, .unsigned call⟩ =
              (Origin.none : Origin AccountId) := rfl
          rw [horigin] at heffect
          cases call with
          | autoBreed => cases hmints
          | _ => cases heffect

theorem step {s : Storage AccountId} (h : SoldOut s) (input : Input AccountId) :
    SoldOut (Pallet.step T input s).2 := by
  refine ⟨h.population.step lawful input, ?_⟩
  cases Counts.step lawful s input with
  | next isMint room => exact absurd room h.no_room
  | same isNoMint nextTokenId => rw [nextTokenId, h.full]

theorem excerpt_trades (nonce : UInt32) :
    Excerpt (Pallet.step T) (Pallet.step T) id
      (fun t => Option.guard Input.isTrade t.input)
      fun s s' => SoldOut s ∧ s' = s.withNonce nonce := by
  have hnext : ∀ (s : Storage AccountId) (input input' : Input AccountId),
      Option.guard Input.isTrade input = some input' →
      Pallet.step T input' (s.withNonce nonce) =
        ((Pallet.step T input s).1,
          (Pallet.step T input s).2.withNonce nonce) := by
    intro s input input' hkeep
    obtain ⟨rfl, htrade⟩ := Option.guard_eq_some_iff.mp hkeep
    obtain ⟨env, action⟩ := input
    cases action with
    | dispatch origin call => exact step_withNonce s env origin call nonce
    | unsigned call => cases htrade
  refine ⟨?_, ?_, ?_⟩
  · rintro s s' input ⟨h, rfl⟩ hkeep
    refine ⟨h.step lawful input, ?_⟩
    cases step_cases lawful s input with
    | failed failure same => rw [same, s.prepared_withNonce]
    | succeeded hok heffect =>
        have hsucceeded : (Pallet.step T input s).1.succeeded = true := by
          rw [hok]
          rfl
        have htrade := h.isTrade_of_success lawful hsucceeded
        simp [transition, Option.guard, htrade] at hkeep
  · rintro s s' input input' ⟨h, rfl⟩ hkeep
    simp [hnext s input input' hkeep]
  · rintro s s' input input' ⟨h, rfl⟩ hkeep
    exact ⟨h.step lawful input, by rw [hnext s input input' hkeep]⟩

theorem run {s : Storage AccountId} (h : SoldOut s)
    (inputs : List (Input AccountId)) :
    SoldOut (Foundation.run (Pallet.step T) s inputs) :=
  run_induction h (fun _ input hs => hs.step lawful input) inputs

theorem dna {s : Storage AccountId} (h : SoldOut s)
    (inputs : List (Input AccountId)) :
    (Foundation.run (Pallet.step T) s inputs).dna = s.dna := by
  funext kittyId
  have hafter := h.run lawful inputs
  by_cases hissued : (s.tokens kittyId).isSome
  · obtain ⟨dna, hdna⟩ := Storage.dna_of_token hissued
    rw [hdna, (Persists.run lawful h.population inputs).dna hdna]
  · have hissued' :
        ¬ ((Foundation.run (Pallet.step T) s inputs).tokens kittyId).isSome := by
      rw [hafter.population.issued, hafter.full, ← h.full]
      rwa [h.population.issued] at hissued
    rw [Option.not_isSome_iff_eq_none] at hissued hissued'
    simp [Storage.dna, hissued, hissued']

end SoldOut

/--
When the ids have run out, the trades go on as if nothing else were submitted.
Everything else fails, and the DNA on the market stays what it is.
-/
theorem sold_out_market_only_trades [Inhabited AccountId] {s : Storage AccountId}
    (reachable : Reachable T s) (full : s.nextTokenId = u32Max)
    (inputs : List (Input AccountId)) :
    let trades := inputs.filter Input.isTrade
    run (step T) s trades =
        (run (step T) s inputs).withNonce s.autoBreedNonce ∧
      outcomes (step T) s trades =
        ((trace (step T) s inputs).filter fun t => t.input.isTrade).map
          Transition.outcome ∧
      (∀ t ∈ trace (step T) s inputs,
        t.outcome.succeeded = true → t.input.isTrade = true) ∧
      (run (step T) s inputs).dna = s.dna := by
  intro trades
  have hs : SoldOut s := ⟨.of_reachable lawful reachable, full⟩
  obtain ⟨hrun, houtcomes⟩ :=
    (SoldOut.excerpt_trades lawful s.autoBreedNonce).runs ⟨hs, rfl⟩ inputs
  have htrades : (trace (step T) s inputs).filterMap
      (fun t => Option.guard Input.isTrade t.input) = trades := by
    rw [filterMap_trace, List.filterMap_eq_filter]
  rw [htrades] at hrun houtcomes
  rw [List.map_id] at houtcomes
  refine ⟨hrun.2, ?_, fun t ht hok => ?_, hs.dna lawful inputs⟩
  · have hkept : outcomes (step T) s trades = _ := houtcomes.symm
    simp [hkept, keptOutcomes]
  · obtain ⟨first, input, rfl⟩ := exists_of_mem_trace ht
    exact (hs.run lawful first).isTrade_of_success lawful hok

theorem nextTokenId_after_create {s : Storage AccountId} (h : Population s)
    (env : Env) (who : AccountId) (hroom : s.nextTokenId ≠ u32Max) :
    (step T ⟨env, .dispatch (.signed who) .create⟩ s).2.nextTokenId.toNat =
      s.nextTokenId.toNat + 1 := by
  rw [step_of_effect lawful (.create who (h.canMint_iff.mpr hroom)),
    ← toNat_succ hroom]
  simp [Storage.nextTokenId]

theorem nextTokenId_after_creates {s : Storage AccountId} (h : Population s)
    (env : Env) (who : AccountId) (count : Nat)
    (room : s.nextTokenId.toNat + count ≤ u32Max.toNat) :
    (run (step T) s
      (List.replicate count ⟨env, .dispatch (.signed who) .create⟩)).nextTokenId.toNat =
        s.nextTokenId.toNat + count := by
  induction count generalizing s with
  | zero => rfl
  | succ count ih =>
      have hroom : s.nextTokenId ≠ u32Max := by
        rintro heq
        rw [heq] at room
        omega
      have hnext := nextTokenId_after_create lawful h env who hroom
      rw [List.replicate_succ, run, ih (h.step lawful _) (by omega), hnext]
      omega

end Excerpts

theorem successes_make_the_storage_after_wasted_proof :
    let inputs := [⟨Mock.seeded 0, .unsigned (.autoBreed 0 1 0 2)⟩,
      Mock.signed 100 .create]
    run (step Mock.config) Mock.genesis
        ((trace (step Mock.config) Mock.genesis inputs).filterMap success) =
      (run (step Mock.config) Mock.genesis inputs).withNonce 0 := by
  intro inputs
  exact (successes_make_the_storage Mock.config_lawful Mock.genesis inputs).1

theorem sold_out_market_only_trades_after_creates :
    ∃ s, Reachable Mock.config s ∧ s.nextTokenId = u32Max ∧
      (run (step Mock.config) s [Mock.signed 100 .create,
        Mock.signed 100 (.setPrice 0 (some 400))]).dna = s.dna := by
  have hgenesis := Reachable.of_genesis Mock.genesis_isGenesis
  have hfirst : Mock.genesis.nextTokenId = 0 := rfl
  have hcount := nextTokenId_after_creates Mock.config_lawful
    (.of_reachable Mock.config_lawful hgenesis) (Mock.seeded 0) 100 u32Max.toNat
    (by rw [hfirst]; exact Nat.le_refl _)
  rw [hfirst] at hcount
  have hreachable := hgenesis.run (List.replicate u32Max.toNat
    ⟨Mock.seeded 0, .dispatch (.signed 100) .create⟩)
  have hfull := UInt32.toNat_inj.mp (hcount.trans (Nat.zero_add _))
  exact ⟨_, hreachable, hfull, (sold_out_market_only_trades Mock.config_lawful
    hreachable hfull [Mock.signed 100 .create,
      Mock.signed 100 (.setPrice 0 (some 400))]).2.2.2⟩

end SubstrateKitties.Pallet
