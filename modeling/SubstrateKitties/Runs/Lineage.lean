import SubstrateKitties.Foundation.Pedigree
import SubstrateKitties.Pallet.Genetics
import SubstrateKitties.Runs.Population

/-!
# Lineage

A kitty that appears in a run is created or bred, and a bred one has its two
parents among the kitties before it.  The DNA of a kitty never changes, so the
final storage holds the whole pedigree: every bit of every kitty goes back to a
kitty that was created.
-/

namespace SubstrateKitties.Pallet

open SubstrateKitties.Foundation
open SubstrateKitties.Foundation.Dispatch

section Lineage

variable {AccountId : Type}

def Storage.dna (s : Storage AccountId) (kittyId : TokenId) :
    Option (Vector UInt8 16) :=
  (s.tokens kittyId).map fun info => info.data.dna

theorem Storage.dna_eq_some {s : Storage AccountId} {kittyId : TokenId}
    {dna : Vector UInt8 16} :
    s.dna kittyId = some dna ↔
      ∃ info, s.tokens kittyId = some info ∧ info.data.dna = dna := by
  simp [Storage.dna]

def Call.parents : Call AccountId → Option (TokenId × TokenId)
  | .breed kittyId1 kittyId2 => some (kittyId1, kittyId2)
  | .autoBreed kittyId1 kittyId2 _ _ => some (kittyId1, kittyId2)
  | _ => none

/-- The step after which the kitty exists, and before which it does not. -/
structure Mints (t : Step AccountId) (kittyId : TokenId) : Prop where
  before : ¬ (t.pre.tokens kittyId).isSome
  after : (t.post.tokens kittyId).isSome

def CreatedIn (history : List (Step AccountId)) (kittyId : TokenId) : Prop :=
  ∃ t ∈ history, Mints t kittyId ∧ t.input.call = .create

def BredIn (history : List (Step AccountId))
    (kittyId1 kittyId2 kittyId : TokenId) : Prop :=
  ∃ t ∈ history, Mints t kittyId ∧
    t.input.call.parents = some (kittyId1, kittyId2)

/-! ## One birth -/

structure Kinship (s : Storage AccountId) (kittyId1 kittyId2 kittyId : TokenId)
    (dna1 dna2 dna : Vector UInt8 16) : Prop where
  older1 : kittyId1 < kittyId
  older2 : kittyId2 < kittyId
  parent1 : s.dna kittyId1 = some dna1
  parent2 : s.dna kittyId2 = some dna2
  child : s.dna kittyId = some dna
  genders : (Kitty.mk dna1).gender ≠ (Kitty.mk dna2).gender
  mixture : Mixture dna1 dna2 dna

theorem Storage.token_of_dna {s : Storage AccountId} {kittyId : TokenId}
    {dna : Vector UInt8 16} (h : s.dna kittyId = some dna) :
    (s.tokens kittyId).isSome := by
  obtain ⟨info, htoken, -⟩ := Storage.dna_eq_some.mp h
  simp [htoken]

theorem Storage.dna_of_token {s : Storage AccountId} {kittyId : TokenId}
    (h : (s.tokens kittyId).isSome) : ∃ dna, s.dna kittyId = some dna := by
  obtain ⟨info, htoken⟩ := Option.isSome_iff_exists.mp h
  exact ⟨info.data.dna, Storage.dna_eq_some.mpr ⟨info, htoken, rfl⟩⟩

theorem Persists.dna {s s' : Storage AccountId} (h : Persists s s')
    {kittyId : TokenId} {dna : Vector UInt8 16}
    (hdna : s.dna kittyId = some dna) : s'.dna kittyId = some dna := by
  obtain ⟨info, htoken, rfl⟩ := Storage.dna_eq_some.mp hdna
  obtain ⟨info', htoken', hdata⟩ := h.kitties kittyId info htoken
  exact Storage.dna_eq_some.mpr ⟨info', htoken', by rw [hdata]⟩

namespace Kinship

theorem persists {s s' : Storage AccountId} {kittyId1 kittyId2 kittyId : TokenId}
    {dna1 dna2 dna : Vector UInt8 16}
    (h : Kinship s kittyId1 kittyId2 kittyId dna1 dna2 dna)
    (hs : Persists s s') : Kinship s' kittyId1 kittyId2 kittyId dna1 dna2 dna :=
  { h with
    parent1 := hs.dna h.parent1
    parent2 := hs.dna h.parent2
    child := hs.dna h.child }

theorem born [DecidableEq AccountId] {s : Storage AccountId}
    (h : Population s) {kittyId1 kittyId2 : TokenId}
    {info1 info2 : TokenInfo AccountId} (token1 : s.tokens kittyId1 = some info1)
    (token2 : s.tokens kittyId2 = some info2)
    (genders : info1.data.gender ≠ info2.data.gender) (owner : AccountId)
    (selector : Vector UInt8 16) (event : Event AccountId) :
    let dna := newDna info1.data.dna info2.data.dna selector
    Kinship (s.born owner ⟨dna⟩ event) kittyId1 kittyId2 s.nextTokenId
      info1.data.dna info2.data.dna dna := by
  intro dna
  have hpersists := Persists.born h owner ⟨dna⟩ event
  constructor
  · exact (h.issued kittyId1).mp (by simp [token1])
  · exact (h.issued kittyId2).mp (by simp [token2])
  · exact hpersists.dna (Storage.dna_eq_some.mpr ⟨info1, token1, rfl⟩)
  · exact hpersists.dna (Storage.dna_eq_some.mpr ⟨info2, token2, rfl⟩)
  · simp [Storage.dna, Storage.born_tokens]
  · exact genders
  · exact newDna_mixture _ _ selector

end Kinship

section Steps

variable [DecidableEq AccountId] {T : Config AccountId}

theorem eq_next_of_born {s : Storage AccountId} {owner : AccountId}
    {kitty : Kitty} {event : Event AccountId} {kittyId : TokenId}
    (before : ¬ (s.tokens kittyId).isSome)
    (after : ((s.born owner kitty event).tokens kittyId).isSome) :
    kittyId = s.nextTokenId := by
  by_contra hne
  rw [Storage.born_tokens, if_neg hne] at after
  exact before after

theorem Effect.kinship {s s' : Storage AccountId} {env : Env}
    {origin : Origin AccountId} {call : Call AccountId} (h : Population s)
    (heffect : Effect T env s origin call s') {kittyId : TokenId}
    (before : ¬ (s.tokens kittyId).isSome)
    (after : (s'.tokens kittyId).isSome) :
    call = .create ∨ ∃ kittyId1 kittyId2 dna1 dna2 dna,
      call.parents = some (kittyId1, kittyId2) ∧
        Kinship s' kittyId1 kittyId2 kittyId dna1 dna2 dna := by
  cases heffect with
  | create sender room => exact .inl rfl
  | breed sender kittyId1 kittyId2 kitty1 kitty2 owned1 owned2 genders room =>
      right
      obtain ⟨info1, token1, -, rfl⟩ := Storage.kitties_eq_some.mp owned1
      obtain ⟨info2, token2, -, rfl⟩ := Storage.kitties_eq_some.mp owned2
      cases eq_next_of_born before after
      exact ⟨kittyId1, kittyId2, _, _, _, rfl,
        Kinship.born h token1 token2 genders sender _ _⟩
  | transferSelf sender kittyId' info token owned => exact absurd after before
  | transfer sender recipient kittyId' info token owned other =>
      rw [(HandsOver.moved s sender recipient kittyId').isSome_tokens] at after
      exact absurd after before
  | setPrice sender kittyId' price indexed => exact absurd after before
  | buy sender owner kittyId' maxPrice price info balances other listed enough
      token owned paid =>
      rw [(HandsOver.sold s owner sender kittyId' price balances).isSome_tokens]
        at after
      exact absurd after before
  | autoBreed kittyId1 kittyId2 nonce solution info1 info2 token1 token2 genders
      room =>
      right
      cases eq_next_of_born before after
      exact ⟨kittyId1, kittyId2, _, _, _, rfl,
        Kinship.born h token1 token2 genders info1.owner _ _⟩

theorem step_kinship (lawful : T.Lawful) {s : Storage AccountId}
    (h : Population s) (input : Input AccountId) {kittyId : TokenId}
    (mints : Mints (transition (step T) s input) kittyId) :
    input.call = .create ∨ ∃ kittyId1 kittyId2 dna1 dna2 dna,
      input.call.parents = some (kittyId1, kittyId2) ∧
        Kinship (step T input s).2 kittyId1 kittyId2 kittyId dna1 dna2 dna := by
  have hbefore : ¬ ((s.prepared T input).tokens kittyId).isSome := by
    rw [Storage.prepared_tokens]
    exact mints.before
  cases step_cases lawful s input with
  | failed failure same =>
      have hafter : ((step T input s).2.tokens kittyId).isSome := mints.after
      rw [same] at hafter
      exact absurd hafter hbefore
  | succeeded success heffect =>
      exact heffect.kinship (h.prepared T input) hbefore mints.after

end Steps

/-! ## The pedigree of a run -/

variable [DecidableEq AccountId] {T : Config AccountId} (lawful : T.Lawful)
  [Inhabited AccountId]

include lawful

theorem kinship_of_mints {s₀ : Storage AccountId} (genesis : IsGenesis T s₀)
    (inputs : List (Input AccountId)) {t : Step AccountId}
    (ht : t ∈ trace (step T) s₀ inputs) {kittyId : TokenId}
    (mints : Mints t kittyId) :
    t.input.call = .create ∨ ∃ kittyId1 kittyId2 dna1 dna2 dna,
      t.input.call.parents = some (kittyId1, kittyId2) ∧
        Kinship (run (step T) s₀ inputs) kittyId1 kittyId2 kittyId dna1 dna2
          dna := by
  obtain ⟨first, input, second, rfl, hrest⟩ := run_split_of_mem_trace ht
  have hpopulation := (Population.of_genesis lawful genesis).run lawful first
  have hpersists := Persists.run lawful (hpopulation.step lawful input) second
  rw [hrest]
  cases step_kinship lawful hpopulation input mints with
  | inl hcreate => exact .inl hcreate
  | inr hbred =>
      obtain ⟨kittyId1, kittyId2, dna1, dna2, dna, hparents, hkinship⟩ := hbred
      exact .inr ⟨kittyId1, kittyId2, dna1, dna2, dna, hparents,
        hkinship.persists hpersists⟩

theorem minted_in_run {s₀ : Storage AccountId} (genesis : IsGenesis T s₀)
    (inputs : List (Input AccountId)) {kittyId : TokenId}
    (exist : ((run (step T) s₀ inputs).tokens kittyId).isSome) :
    ∃ t ∈ trace (step T) s₀ inputs, Mints t kittyId := by
  have hstart : ¬ (s₀.tokens kittyId).isSome := by
    obtain ⟨balances, rfl⟩ := genesis.eq lawful
    simp [Storage.tokens]
  obtain ⟨t, ht, hbefore, hafter⟩ := exists_transition_of_run
    (P := fun s : Storage AccountId => (s.tokens kittyId).isSome) hstart exist
  exact ⟨t, ht, hbefore, hafter⟩

theorem created_or_bred {s₀ : Storage AccountId} (genesis : IsGenesis T s₀)
    (inputs : List (Input AccountId)) {kittyId : TokenId}
    (exist : ((run (step T) s₀ inputs).tokens kittyId).isSome) :
    CreatedIn (trace (step T) s₀ inputs) kittyId ∨ ∃ kittyId1 kittyId2,
      BredIn (trace (step T) s₀ inputs) kittyId1 kittyId2 kittyId := by
  obtain ⟨t, ht, hmints⟩ := minted_in_run lawful genesis inputs exist
  cases kinship_of_mints lawful genesis inputs ht hmints with
  | inl hcreate => exact .inl ⟨t, ht, hmints, hcreate⟩
  | inr hbred =>
      obtain ⟨kittyId1, kittyId2, _, _, _, hparents, -⟩ := hbred
      exact .inr ⟨kittyId1, kittyId2, t, ht, hmints, hparents⟩

theorem BredIn.kinship {s₀ : Storage AccountId} (genesis : IsGenesis T s₀)
    {inputs : List (Input AccountId)} {kittyId1 kittyId2 kittyId : TokenId}
    (h : BredIn (trace (step T) s₀ inputs) kittyId1 kittyId2 kittyId) :
    ∃ dna1 dna2 dna, Kinship (run (step T) s₀ inputs) kittyId1 kittyId2 kittyId
      dna1 dna2 dna := by
  obtain ⟨t, ht, hmints, hparents⟩ := h
  cases kinship_of_mints lawful genesis inputs ht hmints with
  | inl hcreate =>
      rw [hcreate] at hparents
      cases hparents
  | inr hbred =>
      obtain ⟨_, _, dna1, dna2, dna, hparents', hkinship⟩ := hbred
      rw [hparents] at hparents'
      cases hparents'
      exact ⟨dna1, dna2, dna, hkinship⟩

theorem pedigree_of_run {s₀ : Storage AccountId} (genesis : IsGenesis T s₀)
    (inputs : List (Input AccountId)) :
    Pedigree UInt32.toNat
      (fun kittyId => ((run (step T) s₀ inputs).tokens kittyId).isSome)
      (CreatedIn (trace (step T) s₀ inputs))
      (fun kittyId position =>
        ((run (step T) s₀ inputs).dna kittyId).map (dnaBit · position)) := by
  constructor
  intro kittyId exist
  cases created_or_bred lawful genesis inputs exist with
  | inl hcreated => exact .inl hcreated
  | inr hbred =>
      obtain ⟨kittyId1, kittyId2, hbred⟩ := hbred
      obtain ⟨dna1, dna2, dna, hkinship⟩ := hbred.kinship lawful genesis
      refine .inr ⟨kittyId1, kittyId2,
        ⟨Storage.token_of_dna hkinship.parent1, hkinship.older1⟩,
        ⟨Storage.token_of_dna hkinship.parent2, hkinship.older2⟩,
        fun position => ?_⟩
      simpa [hkinship.child, hkinship.parent1, hkinship.parent2] using
        hkinship.mixture position

/--
No mutation: every bit of every kitty goes back to a kitty that was created,
and a kitty that was bred is a mixture of two older kitties of opposite gender.
-/
theorem no_mutation {s₀ s : Storage AccountId} (genesis : IsGenesis T s₀)
    (inputs : List (Input AccountId)) (reached : run (step T) s₀ inputs = s) :
    (∀ kittyId dna, s.dna kittyId = some dna → ∀ position,
      ∃ founder dna', founder ≤ kittyId ∧
        CreatedIn (trace (step T) s₀ inputs) founder ∧
        s.dna founder = some dna' ∧ dnaBit dna' position = dnaBit dna position) ∧
    (∀ kittyId, (s.tokens kittyId).isSome →
      CreatedIn (trace (step T) s₀ inputs) kittyId ∨ ∃ kittyId1 kittyId2,
        BredIn (trace (step T) s₀ inputs) kittyId1 kittyId2 kittyId) ∧
    (∀ kittyId1 kittyId2 kittyId,
      BredIn (trace (step T) s₀ inputs) kittyId1 kittyId2 kittyId →
      ∃ dna1 dna2 dna, Kinship s kittyId1 kittyId2 kittyId dna1 dna2 dna) ∧
    ∀ position value,
      (∀ founder dna, CreatedIn (trace (step T) s₀ inputs) founder →
        s.dna founder = some dna → dnaBit dna position = value) →
      ∀ kittyId dna, s.dna kittyId = some dna → dnaBit dna position = value := by
  subst reached
  have hpedigree := pedigree_of_run lawful genesis inputs
  refine ⟨?_, ?_, ?_, ?_⟩
  · intro kittyId dna hdna position
    obtain ⟨founder, hmember, hcreated, hle, hbit⟩ :=
      hpedigree.exists_founder (Storage.token_of_dna hdna) position
    obtain ⟨dna', hdna'⟩ := Storage.dna_of_token hmember
    refine ⟨founder, dna', hle, hcreated, hdna', ?_⟩
    simpa only [hdna, hdna', Option.map_some, Option.some.injEq] using hbit
  · intro kittyId exist
    exact created_or_bred lawful genesis inputs exist
  · intro kittyId1 kittyId2 kittyId hbred
    exact hbred.kinship lawful genesis
  · intro position value hfounders kittyId dna hdna
    have hshared := hpedigree.shared (t := position) (b := some value)
      (i := kittyId) ?_ (Storage.token_of_dna hdna)
    · simpa only [hdna, Option.map_some, Option.some.injEq] using hshared
    · intro founder hmember hcreated
      obtain ⟨dna', hdna'⟩ := Storage.dna_of_token hmember
      simp only [hdna', Option.map_some, Option.some.injEq]
      exact hfounders founder dna' hcreated hdna'

end Lineage

theorem no_mutation_in_can_breed :
    let inputs : List (Input Mock.AccountId) :=
      [Mock.signed 100 .create, ⟨Mock.seeded 2, .dispatch (.signed 100) .create⟩,
        ⟨Mock.seeded 2, .dispatch (.signed 100) (.breed 0 1)⟩]
    ∃ dna1 dna2 dna, Kinship (run (step Mock.config) Mock.genesis inputs) 0 1 2
      dna1 dna2 dna := by
  intro inputs
  refine (no_mutation Mock.config_lawful Mock.genesis_isGenesis inputs rfl).2.2.1
    0 1 2 ⟨_, .tail _ (.tail _ (.head _)), ⟨?_, ?_⟩, rfl⟩
  · decide +kernel
  · decide +kernel

end SubstrateKitties.Pallet
