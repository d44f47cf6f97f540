import SubstrateKitties.Market.Refinement
import SubstrateKitties.Runs.Rearranging

/-!
# The markets that can be founded

Accounts that create kitties, give them away and price them bring about any
market of kitties that somebody can draw, in any hands and at any prices, as
long as there are ids, and they bring about no other.
-/

namespace SubstrateKitties.Pallet

open SubstrateKitties.Foundation

section Founding

variable {AccountId : Type}

/--
Some account draws the kitty in some environment.  The seed and the extrinsic
index are free for each call, and nothing keeps them from coming twice.
-/
def Drawable (T : Config AccountId) (kitty : Kitty) : Prop :=
  ∃ env who, randomValue T env who = kitty.dna

inductive FoundersCall (t : Step AccountId) : Prop where
  | create (who : AccountId)
      (action : t.input.action = .dispatch (.signed who) .create)
      (success : t.outcome = .dispatched (.ok ()))
  | owners (call : OwnersCall t)

/-! ## What founders keep -/

structure Founded (T : Config AccountId) (s₀ s : Storage AccountId) :
    Prop where
  population : Population s
  drawn : ∀ kittyId row, s.table kittyId = some row → Drawable T row.kitty
  balances : s.balances = s₀.balances
  proofs : s.autoBreedNonce = s₀.autoBreedNonce

variable {T : Config AccountId} {s₀ s : Storage AccountId}

theorem Founded.rearranged (h : Founded T s₀ s) {s' : Storage AccountId}
    (hrearranged : Rearranged s s') : Founded T s₀ s' where
  population := hrearranged.population
  drawn kittyId row hrow := by
    have hkitty := hrearranged.kitties kittyId
    rw [hrow, Option.map_some, eq_comm, Option.map_eq_some_iff] at hkitty
    obtain ⟨row', hrow', hsame⟩ := hkitty
    rw [← hsame]
    exact h.drawn kittyId row' hrow'
  balances := hrearranged.balances.trans h.balances
  proofs := hrearranged.autoBreedNonce.trans h.proofs

variable [DecidableEq AccountId]

theorem Founded.created (h : Founded T s₀ s) (room : s.nft.CanMint s.classId)
    (env : Env) (who : AccountId) (event : Event AccountId) :
    Founded T s₀ (s.born who ⟨randomValue T env who⟩ event) where
  population := h.population.born room _ _ _
  drawn kittyId row hrow := by
    rw [Journaled.born_table h.population, Table.insert] at hrow
    by_cases hid : kittyId = s.nextTokenId
    · rw [hid, Function.update_self] at hrow
      cases hrow
      exact ⟨env, who, rfl⟩
    · rw [Function.update_of_ne hid] at hrow
      exact h.drawn kittyId row hrow
  balances := h.balances
  proofs := h.proofs

variable (lawful : T.Lawful)

include lawful

theorem Founded.step (h : Founded T s₀ s) {input : Input AccountId}
    (hcall : FoundersCall (transition (step T) s input)) :
    Founded T s₀ (Pallet.step T input s).2 := by
  cases hcall with
  | create who isAction success =>
      obtain ⟨env, action⟩ := input
      obtain rfl : action = _ := isAction
      have heffect := effect_of_success lawful success
      revert heffect
      generalize (Pallet.step T _ s).2 = s'
      intro heffect
      cases heffect with
      | create _ room => exact h.created room env who _
  | owners call => exact h.rearranged (call.rearranged lawful h.population)

theorem Founded.run (h : Founded T s₀ s) {inputs : List (Input AccountId)}
    (calls : ∀ t ∈ trace (Pallet.step T) s inputs, FoundersCall t) :
    Founded T s₀ (Foundation.run (Pallet.step T) s inputs) := by
  induction inputs generalizing s with
  | nil => exact h
  | cons input inputs ih =>
      have hfirst := h.step lawful (calls _ (.head _))
      exact ih hfirst fun t ht => calls t (.tail _ ht)

/-! ## Founding a market row by row -/

omit lawful [DecidableEq AccountId] in
theorem Represents.rows_of_table {M : Market AccountId} (h : Represents s M)
    {rows : List (Row AccountId)} (few : rows.length ≤ Market.maxKitties)
    (table : ∀ kittyId, s.table kittyId = rows[kittyId.toNat]?) :
    M.rows = rows := by
  have hlength : M.rows.length < 2 ^ 32 := by
    rw [← h.size]
    exact s.nextTokenId.toNat_lt
  unfold Market.maxKitties at few
  apply List.ext_getElem?
  intro i
  by_cases hi : i < 2 ^ 32
  · have hcell := h.rows (UInt32.ofNat i)
    rw [table, Market.find, UInt32.toNat_ofNat_of_lt' hi] at hcell
    exact hcell.symm
  · rw [List.getElem?_eq_none (by omega), List.getElem?_eq_none (by omega)]

/-- The account that draws the kitty creates it, gives it away and prices it. -/
theorem add_row {M : Market AccountId} (h : Represents s M)
    (row : Row AccountId) (room : M.rows.length < Market.maxKitties)
    (drawable : Drawable T row.kitty) :
    ∃ inputs M', Steers (step T) FoundersCall 3 s inputs ∧
      Represents (run (step T) s inputs) M' ∧ M'.rows = M.rows ++ [row] := by
  obtain ⟨env, who, hdraw⟩ := drawable
  have hroom : s.nft.CanMint s.classId := by
    rw [h.population.canMint_iff, Ne, h.full_iff]
    omega
  have heffect : Effect T env s (.signed who) .create _ := .create who hroom
  have hstep := step_of_effect lawful heffect
  have hcall : FoundersCall
      (transition (step T) s ⟨env, .dispatch (.signed who) .create⟩) :=
    .create who rfl (congrArg Prod.fst hstep)
  have hborn := h.born hroom who ⟨randomValue T env who⟩ .kittyCreated
  generalize s.born who _ _ = s₁ at hstep hborn
  have hnew : (s₁.table s.nextTokenId).map Row.kitty = some row.kitty := by
    rw [hborn.rows, Market.find, h.size, List.getElem?_concat_length, hdraw]
    rfl
  obtain ⟨rest, hrest, hrow, hothers⟩ :=
    steer_kitty lawful hborn.population env hnew
  have hfounders : Steers (step T) FoundersCall 2 s₁ rest :=
    ⟨hrest.cheap, fun t ht => .owners (hrest.good t ht)⟩
  have hfirst : run (step T) s [⟨env, .dispatch (.signed who) .create⟩] = s₁ :=
    congrArg Prod.snd hstep
  rw [← hfirst] at hfounders
  obtain ⟨M', hend⟩ : ∃ M', Represents (run (step T) s₁ rest) M' :=
    ⟨_, (pallet_refines_market lawful).run hborn rest⟩
  have hfew : (M.rows ++ [row]).length ≤ Market.maxKitties := by
    rw [List.length_append, List.length_singleton]
    omega
  have hrows : M'.rows = M.rows ++ [row] := by
    refine hend.rows_of_table hfew fun kittyId => ?_
    have hnext : kittyId.toNat = M.rows.length ↔ kittyId = s.nextTokenId := by
      rw [← h.size, UInt32.toNat_inj]
    rw [getElem?_concat]
    by_cases hid : kittyId = s.nextTokenId
    · rw [if_pos (hnext.mpr hid), hid, hrow]
    · rw [if_neg (mt hnext.mp hid), hothers kittyId hid, hborn.rows, Market.find,
        getElem?_concat, if_neg (mt hnext.mp hid)]
  refine ⟨_, M', (Steers.one hcall).append hfounders, ?_, hrows⟩
  rw [run_append, hfirst]
  exact hend

variable [Inhabited AccountId]

theorem found_rows (genesis : IsGenesis T s₀) (rows : List (Row AccountId))
    (few : rows.length ≤ Market.maxKitties)
    (drawable : ∀ row ∈ rows, Drawable T row.kitty) :
    ∃ inputs M, Steers (step T) FoundersCall (3 * rows.length) s₀ inputs ∧
      Represents (run (step T) s₀ inputs) M ∧ M.rows = rows := by
  induction rows using List.reverseRecOn with
  | nil =>
      exact ⟨[], _, Steers.nil s₀, Represents.of_genesis lawful genesis, rfl⟩
  | append_singleton rows row ih =>
      rw [List.length_append, List.length_singleton] at few
      obtain ⟨inputs, M, hsteers, hM, hrows⟩ := ih (by omega) fun row' hrow' =>
        drawable row' (by simp [hrow'])
      obtain ⟨more, M', hmore, hM', hrows'⟩ :=
        add_row lawful hM row (by rw [hrows]; omega) (drawable row (by simp))
      have hcost : 3 * (rows ++ [row]).length = 3 * rows.length + 3 := by
        rw [List.length_append, List.length_singleton]
        omega
      refine ⟨inputs ++ more, M', ?_, ?_, ?_⟩
      · rw [hcost]
        exact hsteers.append hmore
      · rw [run_append]
        exact hM'
      · rw [hrows', hrows]

theorem founded_of_genesis (genesis : IsGenesis T s₀) : Founded T s₀ s₀ where
  population := .of_genesis lawful genesis
  drawn kittyId row hrow := by
    have htable := (Represents.of_genesis lawful genesis).rows kittyId
    rw [hrow] at htable
    cases htable
  balances := rfl
  proofs := rfl

/--
Founders whose calls come in environments of their choice bring about exactly
the markets of drawable kitties for which there are ids, with three calls for
each kitty, and leave money and proofs as they were.
-/
theorem founded_markets (genesis : IsGenesis T s₀)
    (rows : List (Row AccountId)) :
    (∃ inputs log, Steers (step T) FoundersCall (3 * rows.length) s₀ inputs ∧
        Represents (run (step T) s₀ inputs) ⟨rows, 0, s₀.balances, log⟩) ↔
      rows.length ≤ Market.maxKitties ∧
        ∀ row ∈ rows, Drawable T row.kitty := by
  have hstart := founded_of_genesis lawful genesis
  constructor
  · rintro ⟨inputs, log, hsteers, hM⟩
    have hfounded := hstart.run lawful hsteers.good
    have hfew : rows.length ≤ Market.maxKitties := by
      have hle := toNat_le_u32Max (run (step T) s₀ inputs).nextTokenId
      rw [hM.size] at hle
      exact hle
    refine ⟨hfew, fun row hrow => ?_⟩
    obtain ⟨i, hi⟩ := List.mem_iff_getElem?.mp hrow
    have hplace : i < rows.length := (List.getElem?_eq_some_iff.mp hi).1
    unfold Market.maxKitties at hfew
    have hword : i < 2 ^ 32 := by omega
    have htable := hM.rows (UInt32.ofNat i)
    rw [Market.find, UInt32.toNat_ofNat_of_lt' hword, hi] at htable
    exact hfounded.drawn _ row htable
  · rintro ⟨few, drawable⟩
    obtain ⟨inputs, M, hsteers, hM, hrows⟩ :=
      found_rows lawful genesis rows few drawable
    have hfounded := hstart.run lawful hsteers.good
    refine ⟨inputs, M.log, hsteers, hM.population, ?_, ?_, ?_, hfounded.balances,
      hM.log⟩
    · rw [hM.size, hrows]
    · intro kittyId
      rw [hM.rows, Market.find, hrows]
      rfl
    · rw [hfounded.proofs]
      exact (Represents.of_genesis lawful genesis).proofs

end Founding

theorem founded_markets_of_one_kitty :
    let kitty : Kitty := ⟨randomValue Mock.config (Mock.seeded 0) 100⟩
    ∃ inputs log, Steers (step Mock.config) FoundersCall 3 Mock.genesis inputs ∧
      Represents (run (step Mock.config) Mock.genesis inputs)
        ⟨[⟨200, kitty, some 5⟩], 0, Mock.genesis.balances, log⟩ := by
  intro kitty
  have hdrawable : ∀ row ∈ [(⟨200, kitty, some 5⟩ : Row Mock.AccountId)],
      Drawable Mock.config row.kitty := by
    intro row hrow
    obtain rfl := List.mem_singleton.mp hrow
    exact ⟨Mock.seeded 0, 100, rfl⟩
  exact (founded_markets Mock.config_lawful Mock.genesis_isGenesis _).mpr
    ⟨by decide, hdrawable⟩

end SubstrateKitties.Pallet
