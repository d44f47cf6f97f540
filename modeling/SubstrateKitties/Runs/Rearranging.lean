import SubstrateKitties.Foundation.Steering
import SubstrateKitties.Runs.EventLog

/-!
# No kitty is stuck

Gifts and price changes by the owners of the moment reach every table that has
the same kitties, whoever is to own them and at whatever prices, and they reach
no other.  Two calls for each kitty are enough.
-/

namespace SubstrateKitties.Pallet

open SubstrateKitties.Foundation

namespace Table

variable {AccountId : Type}

theorem handOver_apply (table : Table AccountId) (kittyId : TokenId)
    (recipient : AccountId) (other : TokenId) :
    table.handOver kittyId recipient other =
      if other = kittyId then (table kittyId).map fun row =>
        { row with owner := recipient, price := none }
      else table other := by
  simp [handOver, Function.update_apply]

theorem setPrice_apply (table : Table AccountId) (kittyId : TokenId)
    (price : Option Balance) (other : TokenId) :
    table.setPrice kittyId price other =
      if other = kittyId then (table kittyId).map fun row => { row with price }
      else table other := by
  simp [setPrice, Function.update_apply]

end Table

section Rearranging

variable {AccountId : Type} [DecidableEq AccountId]

/-- A gift or a price change by the owner of the moment, which succeeds. -/
inductive OwnersCall (t : Step AccountId) : Prop where
  | transfer (owner recipient : AccountId) (kittyId : TokenId)
      (action : t.input.action =
        .dispatch (.signed owner) (.transfer recipient kittyId))
      (owned : t.pre.owner kittyId = some owner)
      (success : t.outcome = .dispatched (.ok ()))
  | setPrice (owner : AccountId) (kittyId : TokenId) (price : Option Balance)
      (action : t.input.action =
        .dispatch (.signed owner) (.setPrice kittyId price))
      (owned : t.pre.owner kittyId = some owner)
      (success : t.outcome = .dispatched (.ok ()))

structure Rearranged (s s' : Storage AccountId) : Prop where
  population : Population s'
  kitties : ∀ kittyId,
    (s'.table kittyId).map Row.kitty = (s.table kittyId).map Row.kitty
  nextTokenId : s'.nextTokenId = s.nextTokenId
  balances : s'.balances = s.balances
  autoBreedNonce : s'.autoBreedNonce = s.autoBreedNonce

namespace Rearranged

omit [DecidableEq AccountId] in
theorem refl {s : Storage AccountId} (h : Population s) : Rearranged s s :=
  ⟨h, fun _ => rfl, rfl, rfl, rfl⟩

omit [DecidableEq AccountId] in
theorem trans {s s' s'' : Storage AccountId} (h : Rearranged s s')
    (h' : Rearranged s' s'') : Rearranged s s'' :=
  ⟨h'.population, fun kittyId => (h'.kitties kittyId).trans (h.kitties kittyId),
    h'.nextTokenId.trans h.nextTokenId, h'.balances.trans h.balances,
    h'.autoBreedNonce.trans h.autoBreedNonce⟩

end Rearranged

/-! ## One call -/

theorem Rearranged.moved {s : Storage AccountId} (h : Population s)
    {sender recipient : AccountId} {kittyId : TokenId}
    {info : TokenInfo AccountId} (token : s.tokens kittyId = some info)
    (owned : info.owner = sender) :
    Rearranged s (s.moved sender recipient kittyId) := by
  have move := HandsOver.moved s sender recipient kittyId
  refine ⟨h.handsOver token owned move, fun other => ?_, move.nextTokenId, rfl,
    rfl⟩
  rw [Journaled.handsOver_table move, Table.handOver_apply]
  by_cases hid : other = kittyId
  · rw [if_pos hid, Option.map_map, hid]
    rfl
  · rw [if_neg hid]

omit [DecidableEq AccountId] in
theorem Rearranged.priced {s : Storage AccountId} (h : Population s)
    {sender : AccountId} {kittyId : TokenId} (price : Option Balance)
    (indexed : s.nft.tokensByOwner (sender, (s.classId, kittyId)) = true) :
    Rearranged s (s.priced sender kittyId price) := by
  refine ⟨h.priced indexed price, fun other => ?_, rfl, rfl, rfl⟩
  rw [Journaled.priced_table, Table.setPrice_apply]
  by_cases hid : other = kittyId
  · rw [if_pos hid, Option.map_map, hid]
    rfl
  · rw [if_neg hid]

variable {T : Config AccountId} (lawful : T.Lawful)

include lawful

theorem OwnersCall.rearranged {s : Storage AccountId} (h : Population s)
    {input : Input AccountId}
    (hcall : OwnersCall (transition (step T) s input)) :
    Rearranged s (step T input s).2 := by
  obtain ⟨env, action⟩ := input
  cases hcall with
  | transfer owner recipient kittyId isAction owned success =>
      obtain rfl : action = _ := isAction
      have heffect := effect_of_success lawful success
      revert heffect
      generalize (step T _ s).2 = s'
      intro heffect
      cases heffect with
      | transferSelf _ _ info token owned' => exact .refl h
      | transfer _ _ _ info token owned' other => exact .moved h token owned'
  | setPrice owner kittyId price isAction owned success =>
      obtain rfl : action = _ := isAction
      have heffect := effect_of_success lawful success
      revert heffect
      generalize (step T _ s).2 = s'
      intro heffect
      cases heffect with
      | setPrice _ _ _ indexed => exact .priced h price indexed

theorem rearranged_of_run {s : Storage AccountId} (h : Population s)
    {inputs : List (Input AccountId)}
    (calls : ∀ t ∈ trace (step T) s inputs, OwnersCall t) :
    Rearranged s (run (step T) s inputs) := by
  induction inputs generalizing s with
  | nil => exact .refl h
  | cons input inputs ih =>
      have hfirst := (calls _ (.head _)).rearranged lawful h
      have hrest := ih hfirst.population fun t ht => calls t (.tail _ ht)
      exact hfirst.trans hrest

/-! ## Steering one kitty -/

theorem give {s : Storage AccountId} (env : Env) {owner : AccountId}
    (recipient : AccountId) {kittyId : TokenId}
    (owned : s.owner kittyId = some owner) :
    let input : Input AccountId :=
      ⟨env, .dispatch (.signed owner) (.transfer recipient kittyId)⟩
    OwnersCall (transition (step T) s input) ∧
      (step T input s).2.owner kittyId = some recipient ∧
      ∀ other, other ≠ kittyId → (step T input s).2.table other = s.table other := by
  intro input
  obtain ⟨info, token, howner⟩ := Storage.owner_eq_some.mp owned
  by_cases hself : owner = recipient
  · have hstep : step T input s = (.dispatched (.ok ()), s) := by
      apply step_of_effect lawful
      rw [← hself]
      exact .transferSelf owner kittyId info token howner
    refine ⟨.transfer owner recipient kittyId rfl owned ?_, ?_, ?_⟩
    · rw [transition, hstep]
    · rw [hstep, owned, hself]
    · intro other _
      rw [hstep]
  · have hstep : step T input s =
        (.dispatched (.ok ()), s.moved owner recipient kittyId) :=
      step_of_effect lawful
        (.transfer owner recipient kittyId info token howner hself)
    have move := HandsOver.moved s owner recipient kittyId
    refine ⟨.transfer owner recipient kittyId rfl owned ?_, ?_, ?_⟩
    · rw [transition, hstep]
    · rw [hstep, move.owner token, if_pos rfl]
    · intro other hother
      rw [hstep, Journaled.handsOver_table move, Table.handOver_apply,
        if_neg hother]

theorem relist {s : Storage AccountId} (h : Population s) (env : Env)
    {owner : AccountId} {kittyId : TokenId} (price : Option Balance)
    (owned : s.owner kittyId = some owner) :
    let input : Input AccountId :=
      ⟨env, .dispatch (.signed owner) (.setPrice kittyId price)⟩
    OwnersCall (transition (step T) s input) ∧
      (step T input s).2.table = s.table.setPrice kittyId price := by
  intro input
  have hstep : step T input s =
      (.dispatched (.ok ()), s.priced owner kittyId price) :=
    step_of_effect lawful
      (.setPrice owner kittyId price (h.indexed_iff_owner.mpr owned))
  refine ⟨.setPrice owner kittyId price rfl owned ?_, ?_⟩
  · rw [transition, hstep]
  · rw [hstep, Journaled.priced_table]

theorem steer_kitty {s : Storage AccountId} (h : Population s) (env : Env)
    {kittyId : TokenId} {row : Row AccountId}
    (kitty : (s.table kittyId).map Row.kitty = some row.kitty) :
    ∃ inputs, Steers (step T) OwnersCall 2 s inputs ∧
      (run (step T) s inputs).table kittyId = some row ∧
      ∀ other, other ≠ kittyId →
        (run (step T) s inputs).table other = s.table other := by
  obtain ⟨info, token, hdata⟩ : ∃ info, s.tokens kittyId = some info ∧
      info.data = row.kitty := by
    simpa [Storage.table] using kitty
  have howner := Storage.owner_of_token token rfl
  obtain ⟨hgift, hrecipient, hothers⟩ := give lawful env row.owner howner
  have hgiven := hgift.rearranged lawful h
  obtain ⟨hlisting, htable⟩ :=
    relist lawful hgiven.population env row.price hrecipient
  refine ⟨_, (Steers.one hgift).append (Steers.one hlisting), ?_, ?_⟩
  · obtain ⟨info', token', howner'⟩ := Storage.owner_eq_some.mp hrecipient
    have hkitty : info'.data = row.kitty := by
      have hsame := hgiven.kitties kittyId
      rw [kitty, Storage.table_of_token token'] at hsame
      exact Option.some.inj hsame
    rw [run_append, run, run, run, run, htable, Table.setPrice_apply, if_pos rfl,
      Storage.table_of_token token', howner', hkitty]
    rfl
  · intro other hother
    rw [run_append, run, run, run, run, htable, Table.setPrice_apply,
      if_neg hother, hothers other hother]

omit lawful in
def Storage.ids (s : Storage AccountId) : List TokenId :=
  (List.range s.nextTokenId.toNat).map UInt32.ofNat

omit lawful [DecidableEq AccountId] in
theorem mem_ids {s : Storage AccountId} (h : Population s) {kittyId : TokenId} :
    kittyId ∈ s.ids ↔ (s.table kittyId).isSome := by
  have hissued := h.issued kittyId
  rw [UInt32.lt_iff_toNat_lt] at hissued
  simp only [Storage.ids, List.mem_map, List.mem_range, Storage.table,
    Option.isSome_map, hissued]
  constructor
  · rintro ⟨i, hi, rfl⟩
    have hsmall : i < 2 ^ 32 := by
      have hlt := s.nextTokenId.toNat_lt
      omega
    rw [UInt32.toNat_ofNat_of_lt' hsmall]
    exact hi
  · intro hlt
    exact ⟨kittyId.toNat, hlt, by simp⟩

/--
From every reachable state, the owners of the moment can bring any table about
that has the same kitties, with two calls for each kitty, and no other table.
-/
theorem no_kitty_is_stuck [Inhabited AccountId] {s : Storage AccountId}
    (reachable : Reachable T s) (goal : Table AccountId) :
    (∀ kittyId,
        (goal kittyId).map Row.kitty = (s.table kittyId).map Row.kitty) ↔
      ∃ inputs, inputs.length ≤ 2 * s.nextTokenId.toNat ∧
        (∀ t ∈ trace (step T) s inputs, OwnersCall t) ∧
        (run (step T) s inputs).table = goal ∧
        (run (step T) s inputs).balances = s.balances ∧
        (run (step T) s inputs).nextTokenId = s.nextTokenId ∧
        (run (step T) s inputs).autoBreedNonce = s.autoBreedNonce := by
  have hpopulation := Population.of_reachable lawful reachable
  constructor
  · intro hkitties
    let env : Env := ⟨Vector.replicate 32 0, none⟩
    have heach : ∀ s', Rearranged s s' → ∀ kittyId ∈ s.ids, ∃ inputs,
        Steers (step T) OwnersCall 2 s' inputs ∧
          Rearranged s (run (step T) s' inputs) ∧
          (run (step T) s' inputs).table kittyId = goal kittyId ∧
          ∀ other, other ≠ kittyId →
            (run (step T) s' inputs).table other = s'.table other := by
      intro s' hs' kittyId hid
      have hkitty := (hs'.kitties kittyId).trans (hkitties kittyId).symm
      have hsome : (goal kittyId).isSome := by
        have hissued := (mem_ids hpopulation).mp hid
        rw [← Option.isSome_map, ← hkitties, Option.isSome_map] at hissued
        exact hissued
      obtain ⟨row, hrow⟩ := Option.isSome_iff_exists.mp hsome
      rw [hrow, Option.map_some] at hkitty
      obtain ⟨inputs, hsteers, hcell, hothers⟩ :=
        steer_kitty lawful hs'.population env hkitty
      have hkeeps := rearranged_of_run lawful hs'.population hsteers.good
      exact ⟨inputs, hsteers, hs'.trans hkeeps, hcell.trans hrow.symm, hothers⟩
    obtain ⟨inputs, hsteers, hrearranged, hcells, hothers⟩ :=
      Steers.exists_of_each Storage.table goal heach (.refl hpopulation)
    refine ⟨inputs, ?_, hsteers.good, ?_, hrearranged.balances,
      hrearranged.nextTokenId, hrearranged.autoBreedNonce⟩
    · have hcheap := hsteers.cheap
      rwa [Storage.ids, List.length_map, List.length_range] at hcheap
    · funext kittyId
      by_cases hid : kittyId ∈ s.ids
      · exact hcells kittyId hid
      · have hnone : s.table kittyId = none := by
          rw [mem_ids hpopulation, Option.not_isSome_iff_eq_none] at hid
          exact hid
        have hgoal := hkitties kittyId
        rw [hnone, Option.map_none, Option.map_eq_none_iff] at hgoal
        rw [hothers kittyId hid, hnone, hgoal]
  · rintro ⟨inputs, -, calls, rfl, -⟩
    exact (rearranged_of_run lawful hpopulation calls).kitties

end Rearranging

theorem no_kitty_is_stuck_after_create :
    let s := run (step Mock.config) Mock.genesis [Mock.signed 100 .create]
    let goal : Table Mock.AccountId := fun kittyId =>
      (s.table kittyId).map fun row => { row with owner := 200, price := some 5 }
    ∃ inputs, inputs.length ≤ 2 * s.nextTokenId.toNat ∧
      (run (step Mock.config) s inputs).table = goal := by
  intro s goal
  have hreachable : Reachable Mock.config s :=
    (Reachable.of_genesis Mock.genesis_isGenesis).run _
  have hgoal : ∀ kittyId,
      (goal kittyId).map Row.kitty = (s.table kittyId).map Row.kitty := by
    intro kittyId
    rw [Option.map_map]
    rfl
  have hinputs :=
    (no_kitty_is_stuck Mock.config_lawful hreachable goal).mp hgoal
  exact hinputs.imp fun inputs h => ⟨h.1, h.2.2.1⟩

end SubstrateKitties.Pallet
