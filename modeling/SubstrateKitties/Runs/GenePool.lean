import SubstrateKitties.Foundation.Lists
import SubstrateKitties.Pallet.Genome
import SubstrateKitties.Runs.Payloads

/-!
# The gene pool of an account

The selectors of an account's births are hashes, so what it can breed is asked
over all hash functions.  None of them gives it a bit that its kitties do not
have.  With kitties of both genders, every DNA of bits they have is the outcome
of one plan, with at most two births for each bit but the gender, under every
hash that draws the selectors of the plan; and in whatever distinct
environments the births take place, there is such a hash.
-/

namespace SubstrateKitties.Pallet

open SubstrateKitties.Foundation

section GenePool

variable {AccountId : Type}

/-- A `breed` of two kitties, and the random value it is meant to draw. -/
structure Mating where
  kittyId1 : TokenId
  kittyId2 : TokenId
  selector : Vector UInt8 16

def Mating.input (breeder : AccountId) (m : Mating) (env : Env) :
    Input AccountId where
  env := env
  action := .dispatch (.signed breeder) (.breed m.kittyId1 m.kittyId2)

def matingInputs (breeder : AccountId) (plan : List Mating) (envs : List Env) :
    List (Input AccountId) :=
  List.zipWith (Mating.input breeder) plan envs

def Config.hashing (T : Config AccountId)
    (hash : List UInt8 → Vector UInt8 16) : Config AccountId :=
  { T with blake2_128 := hash }

/-- Each environment draws the selector that its mating is meant to draw. -/
def Draws (T : Config AccountId) (breeder : AccountId) :
    List Mating → List Env → Prop :=
  List.Forall₂ fun m env => randomValue T env breeder = m.selector

def Owns (s : Storage AccountId) (who : AccountId) (bits : Genome (Fin 128)) :
    Prop :=
  ∃ kittyId info, s.tokens kittyId = some info ∧ info.owner = who ∧
    dnaBit info.data.dna = bits

theorem exists_draws (T : Config AccountId) (breeder : AccountId)
    {plan : List Mating} {envs : List Env} (distinct : envs.Nodup)
    (length : envs.length = plan.length) :
    ∃ hash, Draws (T.hashing hash) breeder plan envs := by
  have hpayloads : (envs.map fun env => randomPayload T env breeder).Nodup :=
    distinct.map fun _ _ heq => env_of_randomPayload heq
  have : Inhabited (Vector UInt8 16) := ⟨Vector.replicate 16 0⟩
  have hlength : (plan.map Mating.selector).length =
      (envs.map fun env => randomPayload T env breeder).length := by
    rw [List.length_map, List.length_map, length]
  obtain ⟨hash, hanswers⟩ := exists_answering hpayloads hlength
  rw [List.forall₂_map_left_iff, List.forall₂_map_right_iff] at hanswers
  exact ⟨hash, hanswers⟩

variable [DecidableEq AccountId] {T : Config AccountId}

theorem Config.Lawful.hashing (lawful : T.Lawful)
    (hash : List UInt8 → Vector UInt8 16) : (T.hashing hash).Lawful :=
  ⟨lawful.nft, lawful.currency⟩

/-! ## One birth -/

theorem Owns.born {s : Storage AccountId} (h : Population s) {who : AccountId}
    {bits : Genome (Fin 128)} (owns : Owns s who bits) (owner : AccountId)
    (kitty : Kitty) (event : Event AccountId) :
    Owns (s.born owner kitty event) who bits := by
  obtain ⟨kittyId, info, token, owned, hbits⟩ := owns
  have hid : kittyId ≠ s.nextTokenId := by
    rintro rfl
    rw [h.fresh] at token
    cases token
  refine ⟨kittyId, info, ?_, owned, hbits⟩
  rw [Storage.born_tokens, if_neg hid]
  exact token

structure Bred (T : Config AccountId) (s s' : Storage AccountId)
    (breeder : AccountId) (b : Birth (Fin 128)) (m : Mating) : Prop where
  step : ∀ hash env, randomValue (T.hashing hash) env breeder = m.selector →
    (step (T.hashing hash) (m.input breeder env) s).2 = s'
  population : Population s'
  next : s'.nextTokenId.toNat = s.nextTokenId.toNat + 1
  keeps : ∀ bits, Owns s breeder bits → Owns s' breeder bits
  child : Owns s' breeder b.child

theorem gender_ne {kitty1 kitty2 : Kitty}
    (h : dnaBit kitty1.dna 0 ≠ dnaBit kitty2.dna 0) :
    kitty1.gender ≠ kitty2.gender := by
  intro heq
  have hbit := (gender_eq_iff kitty1.dna kitty2.gender).mp heq
  exact h (hbit.trans ((gender_eq_iff kitty2.dna kitty2.gender).mp rfl).symm)

theorem exists_mating (lawful : T.Lawful) {s : Storage AccountId}
    (h : Population s) (room : s.nextTokenId ≠ u32Max) {breeder : AccountId}
    {b : Birth (Fin 128)} (mother : Owns s breeder b.mother)
    (father : Owns s breeder b.father) (couple : b.mother 0 ≠ b.father 0) :
    ∃ m s', Bred T s s' breeder b m := by
  obtain ⟨kittyId1, info1, token1, owned1, hbits1⟩ := mother
  obtain ⟨kittyId2, info2, token2, owned2, hbits2⟩ := father
  have hmint : s.nft.CanMint s.classId := h.canMint_iff.mpr room
  have hgenders : info1.data.gender ≠ info2.data.gender := by
    apply gender_ne
    rw [hbits1, hbits2]
    exact couple
  let selector := dnaOf b.selector
  let kitty := Kitty.mk (newDna info1.data.dna info2.data.dna selector)
  let s' := s.born breeder kitty (.kittyBred breeder s.nextTokenId kitty)
  have hchild : dnaBit kitty.dna = b.child := by
    rw [dnaBit_newDna_eq_cross, dnaBit_dnaOf, hbits1, hbits2, Birth.child]
  refine ⟨⟨kittyId1, kittyId2, selector⟩, s', ?_, h.born hmint _ _ _, ?_, ?_, ?_⟩
  · intro hash env hdraw
    have hbreed : Effect (T.hashing hash) env s (.signed breeder)
        (.breed kittyId1 kittyId2) _ :=
      .breed breeder kittyId1 kittyId2 _ _
        (Storage.kitties_eq_some.mpr ⟨info1, token1, owned1, rfl⟩)
        (Storage.kitties_eq_some.mpr ⟨info2, token2, owned2, rfl⟩) hgenders
        hmint
    have hkitten : kitten (T.hashing hash) env breeder info1.data info2.data =
        kitty := by
      rw [kitten, hdraw]
    rw [hkitten] at hbreed
    exact congrArg Prod.snd (step_of_effect (lawful.hashing hash) hbreed)
  · rw [← toNat_succ room]
    simp [s', Storage.nextTokenId]
  · exact fun bits owns => owns.born h _ _ _
  · refine ⟨s.nextTokenId, { metadata := [], owner := breeder, data := kitty },
      ?_, rfl, hchild⟩
    rw [Storage.born_tokens, if_pos rfl]

/-! ## Whole plans -/

theorem exists_matings (lawful : T.Lawful) {breeder : AccountId}
    {plan : List (Birth (Fin 128))} {s : Storage AccountId} (h : Population s)
    {pool : Set (Genome (Fin 128))} (owns : ∀ bits ∈ pool, Owns s breeder bits)
    (feasible : Feasible 0 pool plan)
    (room : s.nextTokenId.toNat + plan.length < 2 ^ 32) :
    ∃ matings : List Mating, matings.length = plan.length ∧ ∃ s',
      (∀ hash envs, Draws (T.hashing hash) breeder matings envs →
        run (step (T.hashing hash)) s (matingInputs breeder matings envs) =
          s') ∧
      ∀ bits ∈ grown pool plan, Owns s' breeder bits := by
  induction plan generalizing s pool with
  | nil => exact ⟨[], rfl, s, fun hash envs _ => rfl, owns⟩
  | cons b plan ih =>
      obtain ⟨mother, father, couple, hrest⟩ := feasible
      rw [List.length_cons] at room
      have hroom : s.nextTokenId ≠ u32Max := by
        rw [← lt_u32Max_iff, UInt32.lt_iff_toNat_lt, toNat_u32Max]
        omega
      obtain ⟨m, s₁, bred⟩ := exists_mating lawful h hroom (owns _ mother)
        (owns _ father) couple
      have howns : ∀ bits ∈ insert b.child pool, Owns s₁ breeder bits := by
        intro bits hbits
        rcases hbits with rfl | hbits
        · exact bred.child
        · exact bred.keeps bits (owns bits hbits)
      have hnext := bred.next
      obtain ⟨matings, hlength, s', hruns, hgrown⟩ :=
        ih bred.population howns hrest (by omega)
      refine ⟨m :: matings, by rw [List.length_cons, List.length_cons, hlength],
        s', fun hash envs draws => ?_, hgrown⟩
      cases draws with
      | cons hdraw hdraws =>
          have hstep := bred.step hash _ hdraw
          simp only [matingInputs, List.zipWith_cons_cons, run]
          rw [hstep]
          exact hruns hash _ hdraws

theorem mating_takes_bits (lawful : T.Lawful) {s : Storage AccountId}
    (breeder : AccountId) (m : Mating) (env : Env)
    {bits : Genome (Fin 128)}
    (owns : Owns (step T (m.input breeder env) s).2 breeder bits)
    (position : Fin 128) :
    ∃ gene, Owns s breeder gene ∧ gene position = bits position := by
  change Owns (dispatch T env (.signed breeder)
    (.breed m.kittyId1 m.kittyId2) s).2 breeder bits at owns
  rcases dispatch_cases lawful env (.signed breeder)
    (.breed m.kittyId1 m.kittyId2) s with ⟨-, hsame⟩ | ⟨-, heffect⟩
  · rw [hsame] at owns
    exact ⟨bits, owns, rfl⟩
  · revert owns
    generalize (dispatch T env (.signed breeder)
      (.breed m.kittyId1 m.kittyId2) s).2 = s' at heffect
    intro owns
    cases heffect with
    | breed _ _ _ kitty1 kitty2 owned1 owned2 genders room =>
        obtain ⟨kittyId, info, token, owned, rfl⟩ := owns
        rw [Storage.born_tokens] at token
        by_cases hid : kittyId = s.nextTokenId
        · rw [if_pos hid] at token
          cases token
          obtain ⟨info1, token1, mine1, rfl⟩ := Storage.kitties_eq_some.mp owned1
          obtain ⟨info2, token2, mine2, rfl⟩ := Storage.kitties_eq_some.mp owned2
          rcases newDna_mixture info1.data.dna info2.data.dna
            (randomValue T env breeder) position with hbit | hbit
          · exact ⟨_, ⟨_, info1, token1, mine1, rfl⟩, hbit.symm⟩
          · exact ⟨_, ⟨_, info2, token2, mine2, rfl⟩, hbit.symm⟩
        · rw [if_neg hid] at token
          exact ⟨_, ⟨kittyId, info, token, owned, rfl⟩, rfl⟩

theorem matings_take_bits (lawful : T.Lawful) {breeder : AccountId}
    {plan : List Mating} {envs : List Env} {s : Storage AccountId}
    {bits : Genome (Fin 128)}
    (owns : Owns (run (step T) s (matingInputs breeder plan envs)) breeder bits)
    (position : Fin 128) :
    ∃ gene, Owns s breeder gene ∧ gene position = bits position := by
  induction plan generalizing s envs with
  | nil => exact ⟨bits, owns, rfl⟩
  | cons m plan ih =>
      cases envs with
      | nil => exact ⟨bits, owns, rfl⟩
      | cons env envs =>
          obtain ⟨gene, hgene, hbit⟩ := ih owns
          obtain ⟨gene', hgene', hbit'⟩ :=
            mating_takes_bits lawful breeder m env hgene position
          exact ⟨gene', hgene', hbit'.trans hbit⟩

/-! ## What an account can breed -/

/--
Under no hash does an account breed a bit that its kitties do not have, and for
every DNA of bits they have there is a plan that breeds it under all hashes that
draw the selectors of the plan.
-/
theorem gene_pool_is_exact [Inhabited AccountId] (lawful : T.Lawful)
    {s : Storage AccountId} (reachable : Reachable T s) {breeder : AccountId}
    {kittyId1 kittyId2 : TokenId} (owner1 : s.owner kittyId1 = some breeder)
    (owner2 : s.owner kittyId2 = some breeder)
    (genders : s.gender kittyId1 ≠ s.gender kittyId2)
    (room : s.nextTokenId.toNat + 254 < 2 ^ 32) (dna : Vector UInt8 16) :
    (∀ hash plan envs, Owns (run (step (T.hashing hash)) s
        (matingInputs breeder plan envs)) breeder (dnaBit dna) →
      ∀ position, ∃ gene, Owns s breeder gene ∧
        gene position = dnaBit dna position) ∧
    ((∀ position, ∃ gene, Owns s breeder gene ∧
        gene position = dnaBit dna position) →
      ∃ plan : List Mating, plan.length ≤ 254 ∧
        (∀ hash envs, Draws (T.hashing hash) breeder plan envs →
          Owns (run (step (T.hashing hash)) s (matingInputs breeder plan envs))
            breeder (dnaBit dna)) ∧
        ∀ envs : List Env, envs.Nodup → envs.length = plan.length →
          ∃ hash, Draws (T.hashing hash) breeder plan envs) := by
  have h : Population s := .of_reachable lawful reachable
  refine ⟨fun hash plan envs owns =>
    matings_take_bits (lawful.hashing hash) owns, fun genes => ?_⟩
  obtain ⟨info1, token1, mine1⟩ := Storage.owner_eq_some.mp owner1
  obtain ⟨info2, token2, mine2⟩ := Storage.owner_eq_some.mp owner2
  let pool : Set (Genome (Fin 128)) := {bits | Owns s breeder bits}
  have hpool1 : dnaBit info1.data.dna ∈ pool :=
    ⟨kittyId1, info1, token1, mine1, rfl⟩
  have hpool2 : dnaBit info2.data.dna ∈ pool :=
    ⟨kittyId2, info2, token2, mine2, rfl⟩
  have hcouple : dnaBit info1.data.dna 0 ≠ dnaBit info2.data.dna 0 := by
    intro heq
    apply genders
    have hgender : info1.data.gender = info2.data.gender := by
      rw [gender_eq_iff, heq]
      exact (gender_eq_iff info2.data.dna info2.data.gender).mp rfl
    simp [Storage.gender, token1, token2, hgender]
  let loci := (List.finRange 128).tail
  have hloci : ∀ locus : Fin 128, locus ≠ 0 → locus ∈ loci := by
    decide +kernel
  obtain ⟨birthPlan, hlength, hfeasible, htarget⟩ :=
    exists_plan hpool1 hpool2 hcouple genes hloci
  have hcount : loci.length = 127 := by simp [loci]
  rw [hcount] at hlength
  obtain ⟨plan, hplan, s', hruns, hgrown⟩ :=
    exists_matings lawful h (fun _ owns => owns) hfeasible (by omega)
  refine ⟨plan, by omega, fun hash envs draws => ?_,
    fun envs distinct length => exists_draws T breeder distinct length⟩
  rw [hruns hash envs draws]
  exact hgrown _ htarget

end GenePool

/-- The environments of a block of births, one in each extrinsic. -/
def Mock.block (count : Nat) : List Env :=
  (List.range count).map fun i =>
    { randomSeed := Vector.replicate 32 0, extrinsicIndex := some (.ofNat i) }

theorem Mock.block_distinct {count : Nat} (h : count < 2 ^ 32) :
    (Mock.block count).Nodup := by
  refine List.Nodup.map_on (fun i hi j hj heq => ?_) List.nodup_range
  rw [List.mem_range] at hi hj
  have hindex : UInt32.ofNat i = UInt32.ofNat j :=
    Option.some.inj (congrArg Env.extrinsicIndex heq)
  rw [← UInt32.toNat_inj, UInt32.toNat_ofNat', UInt32.toNat_ofNat'] at hindex
  omega

/-- The owner of a couple can breed a kitten with half of each byte of both. -/
theorem gene_pool_is_exact_for_couple :
    let s := run (step Mock.config) Mock.genesis
      [Mock.signed 100 .create, ⟨Mock.seeded 2, .dispatch (.signed 100) .create⟩]
    ∃ dna1 dna2, s.dna 0 = some dna1 ∧ s.dna 1 = some dna2 ∧
      ∃ hash plan, plan.length ≤ 254 ∧
        Draws (Mock.config.hashing hash) 100 plan (Mock.block plan.length) ∧
        Owns (run (step (Mock.config.hashing hash)) s
            (matingInputs 100 plan (Mock.block plan.length))) 100
          (dnaBit (newDna dna1 dna2 (Vector.replicate 16 15))) := by
  intro s
  have hreachable : Reachable Mock.config s :=
    (Reachable.of_genesis Mock.genesis_isGenesis).run _
  have hgenders : s.gender 0 ≠ s.gender 1 := by decide +kernel
  have howner1 : s.owner 0 = some 100 := by decide +kernel
  have howner2 : s.owner 1 = some 100 := by decide +kernel
  have hroom : s.nextTokenId.toNat + 254 < 2 ^ 32 := by decide +kernel
  obtain ⟨info1, token1, mine1⟩ := Storage.owner_eq_some.mp howner1
  obtain ⟨info2, token2, mine2⟩ := Storage.owner_eq_some.mp howner2
  let dna := newDna info1.data.dna info2.data.dna (Vector.replicate 16 15)
  have hgenes : ∀ position, ∃ gene, Owns s 100 gene ∧
      gene position = dnaBit dna position := by
    intro position
    rcases newDna_mixture info1.data.dna info2.data.dna (Vector.replicate 16 15)
      position with hbit | hbit
    · exact ⟨_, ⟨0, info1, token1, mine1, rfl⟩, hbit.symm⟩
    · exact ⟨_, ⟨1, info2, token2, mine2, rfl⟩, hbit.symm⟩
  obtain ⟨plan, hlength, hbreeds, hdrawn⟩ :=
    (gene_pool_is_exact Mock.config_lawful hreachable howner1 howner2 hgenders
      hroom dna).2 hgenes
  obtain ⟨hash, hdraws⟩ := hdrawn (Mock.block plan.length)
    (Mock.block_distinct (by omega)) (by simp [Mock.block])
  exact ⟨info1.data.dna, info2.data.dna,
    Storage.dna_eq_some.mpr ⟨info1, token1, rfl⟩,
    Storage.dna_eq_some.mpr ⟨info2, token2, rfl⟩,
    hash, plan, hlength, hdraws, hbreeds hash _ hdraws⟩

end SubstrateKitties.Pallet
