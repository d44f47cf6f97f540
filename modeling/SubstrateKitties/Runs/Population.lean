import SubstrateKitties.Pallet.Steps

/-!
# The population of kitties

In every reachable state the kitties are exactly the ids below the next one,
the index by owner agrees with the tokens, the issuance of the class is the
number of kitties, and only kitties that exist are listed.  The index and the
price map live apart from the tokens, so every effect has to keep all three in
step.
-/

namespace SubstrateKitties.Pallet

open SubstrateKitties.Foundation

section Population

variable {AccountId : Type} [DecidableEq AccountId]

structure Population (s : Storage AccountId) : Prop where
  issued : ∀ kittyId, (s.tokens kittyId).isSome ↔ kittyId < s.nextTokenId
  indexed : ∀ who kittyId,
    s.nft.tokensByOwner (who, (s.classId, kittyId)) = true ↔
      ∃ info, s.tokens kittyId = some info ∧ info.owner = who
  issuance : ∃ info, s.nft.classes s.classId = some info ∧
    info.totalIssuance = s.nextTokenId
  listed : ∀ kittyId price, s.kittyPrices kittyId = some price →
    (s.tokens kittyId).isSome

namespace Population

omit [DecidableEq AccountId] in
theorem fresh {s : Storage AccountId} (h : Population s) :
    s.tokens s.nextTokenId = none := by
  rw [← Option.not_isSome_iff_eq_none, h.issued]
  exact UInt32.lt_irrefl s.nextTokenId

omit [DecidableEq AccountId] in
theorem unlisted {s : Storage AccountId} (h : Population s) :
    s.kittyPrices s.nextTokenId = none := by
  cases hprice : s.kittyPrices s.nextTokenId with
  | none => rfl
  | some price =>
      have hissued := h.listed _ _ hprice
      rw [h.fresh] at hissued
      cases hissued

omit [DecidableEq AccountId] in
/-- The class always exists, so only running out of ids stops a mint. -/
theorem canMint_iff {s : Storage AccountId} (h : Population s) :
    s.nft.CanMint s.classId ↔ s.nextTokenId ≠ u32Max := by
  obtain ⟨info, hclass, hissuance⟩ := h.issuance
  constructor
  · intro hmint
    exact hmint.1
  · intro hroom
    exact ⟨hroom, info, hclass, by rw [hissuance]; exact hroom⟩

/-! ## One lemma for each effect -/

theorem born {s : Storage AccountId} (h : Population s)
    (room : s.nft.CanMint s.classId) (owner : AccountId) (kitty : Kitty)
    (event : Event AccountId) : Population (s.born owner kitty event) := by
  have hroom : s.nextTokenId ≠ u32Max := h.canMint_iff.mp room
  have hnext : (s.born owner kitty event).nextTokenId = s.nextTokenId + 1 := by
    simp [Storage.nextTokenId]
  refine ⟨fun kittyId => ?_, fun who kittyId => ?_, ?_, fun kittyId price => ?_⟩
  · rw [hnext, Storage.born_tokens, lt_succ_iff hroom, ← h.issued]
    by_cases hid : kittyId = s.nextTokenId
    · simp [hid]
    · simp [hid]
  · rw [Storage.born_classId, Storage.born_tokensByOwner, h.indexed,
      Storage.born_tokens]
    by_cases hid : kittyId = s.nextTokenId
    · subst hid
      simp [h.fresh, eq_comm]
    · simp [hid]
  · obtain ⟨info, hclass, hissuance⟩ := h.issuance
    refine ⟨{ info with totalIssuance := info.totalIssuance + 1 }, ?_, ?_⟩
    · simp [hclass]
    · rw [hnext, hissuance]
  · intro hprice
    have hissued := h.listed kittyId price hprice
    rw [Storage.born_tokens]
    by_cases hid : kittyId = s.nextTokenId
    · simp [hid]
    · simpa [hid] using hissued

theorem handsOver {s s' : Storage AccountId} (h : Population s)
    {sender recipient : AccountId} {kittyId : TokenId}
    {info : TokenInfo AccountId} (token : s.tokens kittyId = some info)
    (owned : info.owner = sender)
    (move : HandsOver s s' sender recipient kittyId) : Population s' := by
  refine ⟨fun other => ?_, fun who other => ?_, ?_, fun other price hprice => ?_⟩
  · rw [move.nextTokenId, move.isSome_tokens, h.issued]
  · rw [move.classId, move.tokensByOwner, h.indexed, move.tokens]
    by_cases hid : other = kittyId
    · subst hid
      -- the index of the sender goes, and nobody else had one
      simp [token, owned, eq_comm]
    · simp [hid]
  · obtain ⟨classInfo, hexists, hissuance⟩ := h.issuance
    refine ⟨classInfo, ?_, hissuance.trans move.nextTokenId.symm⟩
    rw [move.nft, move.classId]
    exact hexists
  · rw [move.kittyPrices] at hprice
    rw [move.isSome_tokens]
    by_cases hid : other = kittyId
    · simp [hid, token]
    · rw [Function.update_of_ne hid] at hprice
      exact h.listed other price hprice

omit [DecidableEq AccountId] in
theorem priced {s : Storage AccountId} (h : Population s) {sender : AccountId}
    {kittyId : TokenId}
    (indexed : s.nft.tokensByOwner (sender, (s.classId, kittyId)) = true)
    (price : Option Balance) : Population (s.priced sender kittyId price) := by
  refine ⟨h.issued, h.indexed, h.issuance, fun other p hprice => ?_⟩
  obtain ⟨info, token, -⟩ := (h.indexed sender kittyId).mp indexed
  change (s.tokens other).isSome
  by_cases hid : other = kittyId
  · simp [hid, token]
  · apply h.listed other p
    simpa [Function.update_of_ne hid] using hprice

theorem effect {T : Config AccountId} {s s' : Storage AccountId} {env : Env}
    {origin : Origin AccountId} {call : Call AccountId}
    (heffect : Effect T env s origin call s') (h : Population s) :
    Population s' := by
  cases heffect with
  | create sender room => exact h.born room _ _ _
  | breed sender kittyId1 kittyId2 kitty1 kitty2 owned1 owned2 genders room =>
      exact h.born room _ _ _
  | transferSelf sender kittyId info token owned => exact h
  | transfer sender recipient kittyId info token owned other =>
      exact h.handsOver token owned (.moved s sender recipient kittyId)
  | setPrice sender kittyId price indexed => exact h.priced indexed price
  | buy sender owner kittyId maxPrice price info balances other listed enough
      token owned paid =>
      exact h.handsOver token owned (.sold s owner sender kittyId price balances)
  | autoBreed kittyId1 kittyId2 nonce solution info1 info2 token1 token2 genders
      room =>
      exact h.born room _ _ _

omit [DecidableEq AccountId] in
theorem prepared {s : Storage AccountId} (h : Population s)
    (T : Config AccountId) (input : Input AccountId) :
    Population (s.prepared T input) := by
  obtain ⟨nonce, heq⟩ := s.prepared_eq T input
  rw [heq]
  exact ⟨h.issued, h.indexed, h.issuance, h.listed⟩

omit [DecidableEq AccountId] in
theorem validated {s : Storage AccountId} (h : Population s) :
    Population s.validated :=
  ⟨h.issued, h.indexed, h.issuance, h.listed⟩

variable {T : Config AccountId} (lawful : T.Lawful)

include lawful

theorem step {s : Storage AccountId} (h : Population s)
    (input : Input AccountId) : Population (Pallet.step T input s).2 := by
  cases step_cases lawful s input with
  | failed failure same =>
      rw [same]
      exact h.prepared T input
  | succeeded success heffect => exact effect heffect (h.prepared T input)

theorem run {s : Storage AccountId} (h : Population s)
    (inputs : List (Input AccountId)) :
    Population (Foundation.run (Pallet.step T) s inputs) :=
  run_induction h (fun _ input hs => hs.step lawful input) inputs

variable [Inhabited AccountId]

theorem of_genesis {s : Storage AccountId} (h : IsGenesis T s) :
    Population s := by
  obtain ⟨balances, rfl⟩ := h.eq lawful
  refine ⟨fun kittyId => ?_, fun who kittyId => ?_, ?_,
    fun kittyId price hprice => ?_⟩
  · simp [Storage.tokens, Storage.nextTokenId]
  · simp [Storage.tokens]
  · exact ⟨{ metadata := [], totalIssuance := 0, owner := default, data := () },
      by simp, rfl⟩
  · simp at hprice

theorem of_reachable {s : Storage AccountId} (h : Reachable T s) :
    Population s := by
  obtain ⟨s₀, inputs, hgenesis, rfl⟩ := h
  exact (of_genesis lawful hgenesis).run lawful inputs

end Population

/-! ## Kitties persist -/

structure Persists (s s' : Storage AccountId) : Prop where
  classId : s'.classId = s.classId
  kitties : ∀ kittyId info, s.tokens kittyId = some info →
    ∃ info', s'.tokens kittyId = some info' ∧ info'.data = info.data

namespace Persists

omit [DecidableEq AccountId] in
theorem of_tokens_eq {s s' : Storage AccountId} (hclass : s'.classId = s.classId)
    (htokens : s'.tokens = s.tokens) : Persists s s' := by
  refine ⟨hclass, fun kittyId info htoken => ?_⟩
  rw [htokens]
  exact ⟨info, htoken, rfl⟩

omit [DecidableEq AccountId] in
theorem trans {s s' s'' : Storage AccountId} (first : Persists s s')
    (second : Persists s' s'') : Persists s s'' := by
  refine ⟨second.classId.trans first.classId, fun kittyId info htoken => ?_⟩
  obtain ⟨info', htoken', hdata⟩ := first.kitties kittyId info htoken
  obtain ⟨info'', htoken'', hdata'⟩ := second.kitties kittyId info' htoken'
  exact ⟨info'', htoken'', hdata'.trans hdata⟩

theorem born {s : Storage AccountId} (h : Population s) (owner : AccountId)
    (kitty : Kitty) (event : Event AccountId) :
    Persists s (s.born owner kitty event) := by
  refine ⟨rfl, fun kittyId info htoken => ⟨info, ?_, rfl⟩⟩
  have hid : kittyId ≠ s.nextTokenId := by
    rintro rfl
    rw [h.fresh] at htoken
    cases htoken
  rw [Storage.born_tokens, if_neg hid]
  exact htoken

theorem handsOver {s s' : Storage AccountId} {sender recipient : AccountId}
    {kittyId : TokenId} (move : HandsOver s s' sender recipient kittyId) :
    Persists s s' := by
  refine ⟨move.classId, fun other info htoken => ?_⟩
  rw [move.tokens]
  by_cases hid : other = kittyId
  · subst hid
    rw [if_pos rfl, htoken]
    exact ⟨_, rfl, rfl⟩
  · rw [if_neg hid]
    exact ⟨info, htoken, rfl⟩

theorem effect {T : Config AccountId} {s s' : Storage AccountId} {env : Env}
    {origin : Origin AccountId} {call : Call AccountId}
    (heffect : Effect T env s origin call s') (h : Population s) :
    Persists s s' := by
  cases heffect with
  | create sender room => exact born h _ _ _
  | breed => exact born h _ _ _
  | transferSelf => exact of_tokens_eq rfl rfl
  | transfer => exact handsOver (.moved s _ _ _)
  | setPrice => exact of_tokens_eq rfl rfl
  | buy => exact handsOver (.sold s _ _ _ _ _)
  | autoBreed => exact born h _ _ _

variable {T : Config AccountId} (lawful : T.Lawful)

include lawful

theorem step {s : Storage AccountId} (h : Population s)
    (input : Input AccountId) : Persists s (Pallet.step T input s).2 := by
  have hprepared : Persists s (s.prepared T input) :=
    of_tokens_eq (s.prepared_classId T input) (s.prepared_tokens T input)
  cases step_cases lawful s input with
  | failed failure same =>
      rw [same]
      exact hprepared
  | succeeded success heffect =>
      exact hprepared.trans (effect heffect (h.prepared T input))

theorem run {s : Storage AccountId} (h : Population s)
    (inputs : List (Input AccountId)) :
    Persists s (Foundation.run (Pallet.step T) s inputs) := by
  have hboth : Population (Foundation.run (Pallet.step T) s inputs) ∧
      Persists s (Foundation.run (Pallet.step T) s inputs) := by
    refine run_induction (P := fun s' => Population s' ∧ Persists s s')
      ⟨h, of_tokens_eq rfl rfl⟩ (fun s' input hs' => ?_) inputs
    exact ⟨hs'.1.step lawful input, hs'.2.trans (step lawful hs'.1 input)⟩
  exact hboth.2

end Persists

/-! ## Other classes -/

structure SameElsewhere (s s' : Storage AccountId) : Prop where
  classId : s'.classId = s.classId
  classes : ∀ other, other ≠ s.classId →
    s'.nft.classes other = s.nft.classes other
  nextTokenId : ∀ other, other ≠ s.classId →
    s'.nft.nextTokenId other = s.nft.nextTokenId other
  tokens : ∀ other tokenId, other ≠ s.classId →
    s'.nft.tokens (other, tokenId) = s.nft.tokens (other, tokenId)
  tokensByOwner : ∀ who other tokenId, other ≠ s.classId →
    s'.nft.tokensByOwner (who, (other, tokenId)) =
      s.nft.tokensByOwner (who, (other, tokenId))

namespace SameElsewhere

omit [DecidableEq AccountId] in
theorem of_nft_eq {s s' : Storage AccountId} (hclass : s'.classId = s.classId)
    (hnft : s'.nft = s.nft) : SameElsewhere s s' := by
  refine ⟨hclass, ?_, ?_, ?_, ?_⟩ <;> simp [hnft]

theorem born (s : Storage AccountId) (owner : AccountId) (kitty : Kitty)
    (event : Event AccountId) : SameElsewhere s (s.born owner kitty event) := by
  refine ⟨rfl, ?_, ?_, ?_, ?_⟩
  · intro other hother
    simp [hother]
  · intro other hother
    simp [hother]
  · intro other tokenId hother
    have hkey : (other, tokenId) ≠ (s.classId, s.nft.nextTokenId s.classId) := by
      simp [hother]
    exact Function.update_of_ne hkey _ _
  · intro who other tokenId hother
    have hkey : (who, (other, tokenId)) ≠
        (owner, (s.classId, s.nft.nextTokenId s.classId)) := by
      simp [hother]
    exact Function.update_of_ne hkey _ _

theorem handsOver {s s' : Storage AccountId} {sender recipient : AccountId}
    {kittyId : TokenId} (move : HandsOver s s' sender recipient kittyId) :
    SameElsewhere s s' := by
  refine ⟨move.classId, ?_, ?_, ?_, ?_⟩
  · intro other hother
    rw [move.nft, NftStorage.moveToken_classes]
  · intro other hother
    rw [move.nft, NftStorage.moveToken_nextTokenId]
  · intro other tokenId hother
    have hkey : (other, tokenId) ≠ (s.classId, kittyId) := by
      simp [hother]
    rw [move.nft]
    exact Function.update_of_ne hkey _ _
  · intro who other tokenId hother
    have hkey : ∀ account : AccountId,
        (who, (other, tokenId)) ≠ (account, (s.classId, kittyId)) := by
      simp [hother]
    rw [move.nft, NftStorage.moveToken_tokensByOwner,
      Function.update_of_ne (hkey recipient), Function.update_of_ne (hkey sender)]

theorem effect {T : Config AccountId} {s s' : Storage AccountId} {env : Env}
    {origin : Origin AccountId} {call : Call AccountId}
    (heffect : Effect T env s origin call s') : SameElsewhere s s' := by
  cases heffect with
  | create => exact born s _ _ _
  | breed => exact born s _ _ _
  | transferSelf => exact of_nft_eq rfl rfl
  | transfer => exact handsOver (.moved s _ _ _)
  | setPrice => exact of_nft_eq rfl rfl
  | buy => exact handsOver (.sold s _ _ _ _ _)
  | autoBreed => exact born s _ _ _

theorem step {T : Config AccountId} (lawful : T.Lawful) (s : Storage AccountId)
    (input : Input AccountId) : SameElsewhere s (Pallet.step T input s).2 := by
  cases step_cases lawful s input with
  | failed failure same =>
      rw [same]
      exact of_nft_eq (s.prepared_classId T input) (s.prepared_nft T input)
  | succeeded success heffect =>
      have hsame := effect heffect
      refine ⟨?_, ?_, ?_, ?_, ?_⟩
      · simpa using hsame.classId
      · simpa using hsame.classes
      · simpa using hsame.nextTokenId
      · simpa using hsame.tokens
      · simpa using hsame.tokensByOwner

end SameElsewhere

/-! ## Ids are handed out in order -/

def Call.mints : Call AccountId → Bool
  | .create => true
  | .breed _ _ => true
  | .autoBreed _ _ _ _ => true
  | _ => false

def minted (t : Step AccountId) : Bool :=
  t.outcome.succeeded && t.input.call.mints

def Event.bornId : Event AccountId → Option TokenId
  | .kittyCreated _ kittyId _ => some kittyId
  | .kittyBred _ kittyId _ => some kittyId
  | _ => none

def Storage.bornIds (s : Storage AccountId) : List TokenId :=
  s.events.filterMap Event.bornId

inductive Counts (s s' : Storage AccountId) (mints : Bool) : Prop where
  | next (isMint : mints = true) (room : s.nft.CanMint s.classId)
      (nextTokenId : s'.nextTokenId = s.nextTokenId + 1)
      (bornIds : s'.bornIds = s.bornIds ++ [s.nextTokenId])
  | same (isNoMint : mints = false) (nextTokenId : s'.nextTokenId = s.nextTokenId)
      (bornIds : s'.bornIds = s.bornIds)

theorem Counts.born {s : Storage AccountId} (room : s.nft.CanMint s.classId)
    (owner : AccountId) (kitty : Kitty) {event : Event AccountId}
    (hevent : event.bornId = some s.nextTokenId) :
    Counts s (s.born owner kitty event) true := by
  refine .next rfl room ?_ ?_
  · simp [Storage.nextTokenId]
  · simp [Storage.bornIds, hevent]

theorem Counts.effect {T : Config AccountId} {s s' : Storage AccountId}
    {env : Env} {origin : Origin AccountId} {call : Call AccountId}
    (heffect : Effect T env s origin call s') : Counts s s' call.mints := by
  cases heffect with
  | create sender room => exact .born room _ _ rfl
  | breed sender kittyId1 kittyId2 kitty1 kitty2 owned1 owned2 genders room =>
      exact .born room _ _ rfl
  | transferSelf sender kittyId info token owned => exact .same rfl rfl rfl
  | transfer sender recipient kittyId info token owned other =>
      refine .same rfl rfl ?_
      simp [Storage.bornIds, Event.bornId]
  | setPrice sender kittyId price indexed =>
      refine .same rfl rfl ?_
      simp [Storage.bornIds, Event.bornId]
  | buy sender owner kittyId maxPrice price info balances other listed enough
      token owned paid =>
      refine .same rfl rfl ?_
      simp [Storage.bornIds, Event.bornId]
  | autoBreed kittyId1 kittyId2 nonce solution info1 info2 token1 token2 genders
      room =>
      exact .born room _ _ rfl

theorem Counts.step {T : Config AccountId} (lawful : T.Lawful)
    (s : Storage AccountId) (input : Input AccountId) :
    Counts s (Pallet.step T input s).2
      (minted (transition (Pallet.step T) s input)) := by
  have hprepared : (s.prepared T input).bornIds = s.bornIds := by
    simp [Storage.bornIds]
  change Counts s _ ((Pallet.step T input s).1.succeeded && input.call.mints)
  cases step_cases lawful s input with
  | failed failure same =>
      rw [failure, same]
      exact .same rfl (by simp) hprepared
  | succeeded success heffect =>
      rw [success]
      cases Counts.effect heffect with
      | next isMint room nextTokenId bornIds =>
          refine .next (by simp [isMint, Outcome.succeeded]) ?_ ?_ ?_
          · simpa using room
          · simpa using nextTokenId
          · simpa [hprepared] using bornIds
      | same isNoMint nextTokenId bornIds =>
          refine .same (by simp [isNoMint]) ?_ ?_
          · simpa using nextTokenId
          · exact bornIds.trans hprepared

variable {T : Config AccountId} (lawful : T.Lawful) [Inhabited AccountId]

include lawful

theorem ids_in_order {s₀ : Storage AccountId} (genesis : IsGenesis T s₀)
    (inputs : List (Input AccountId)) :
    (run (step T) s₀ inputs).nextTokenId.toNat =
        ((trace (step T) s₀ inputs).filter minted).length ∧
      (run (step T) s₀ inputs).bornIds.map UInt32.toNat =
        List.range (run (step T) s₀ inputs).nextTokenId.toNat := by
  refine trace_induction (P := fun history s =>
    s.nextTokenId.toNat = (history.filter minted).length ∧
      s.bornIds.map UInt32.toNat = List.range s.nextTokenId.toNat) ?_ ?_ inputs
  · obtain ⟨balances, rfl⟩ := genesis.eq lawful
    exact ⟨rfl, rfl⟩
  · intro before input ih
    obtain ⟨hcount, hids⟩ := ih
    rw [List.filter_append, List.length_append, ← hcount]
    cases Counts.step lawful (run (step T) s₀ before) input with
    | next isMint room nextTokenId bornIds =>
        have hnext := toNat_succ room.1
        change ((run (step T) s₀ before).nextTokenId + 1).toNat = _ at hnext
        rw [nextTokenId, bornIds, hnext, List.map_append, hids,
          List.filter_singleton, isMint, List.range_succ]
        exact ⟨rfl, rfl⟩
    | same isNoMint nextTokenId bornIds =>
        rw [nextTokenId, bornIds, hids, List.filter_singleton, isNoMint]
        exact ⟨rfl, rfl⟩

/-! ## The population after any run -/

theorem population_after_run {s₀ s : Storage AccountId}
    (genesis : IsGenesis T s₀) (inputs : List (Input AccountId))
    (reached : run (step T) s₀ inputs = s) :
    (∀ kittyId, (s.tokens kittyId).isSome ↔ kittyId < s.nextTokenId) ∧
      (∀ kittyId, kittyId < s.nextTokenId →
        ∃! who, s.nft.tokensByOwner (who, (s.classId, kittyId)) = true) ∧
      (∃ info, s.nft.classes s.classId = some info ∧
        info.totalIssuance = s.nextTokenId) ∧
      s.nextTokenId.toNat =
        ((trace (step T) s₀ inputs).filter minted).length ∧
      s.classId = s₀.classId ∧
      (∀ before after, inputs = before ++ after →
        Persists (run (step T) s₀ before) s) ∧
      s.bornIds.map UInt32.toNat = List.range s.nextTokenId.toNat ∧
      ∀ t ∈ trace (step T) s₀ inputs, SameElsewhere t.pre t.post := by
  subst reached
  have hstart : Population s₀ := .of_genesis lawful genesis
  have hpopulation := hstart.run lawful inputs
  obtain ⟨hcount, hids⟩ := ids_in_order lawful genesis inputs
  refine ⟨hpopulation.issued, fun kittyId hlt => ?_, hpopulation.issuance,
    hcount, (Persists.run lawful hstart inputs).classId, ?_, hids, ?_⟩
  · obtain ⟨info, htoken⟩ :=
      Option.isSome_iff_exists.mp ((hpopulation.issued kittyId).mpr hlt)
    refine ⟨info.owner, (hpopulation.indexed _ _).mpr ⟨info, htoken, rfl⟩,
      fun who hwho => ?_⟩
    obtain ⟨info', htoken', rfl⟩ := (hpopulation.indexed who kittyId).mp hwho
    rw [htoken] at htoken'
    cases htoken'
    rfl
  · rintro before after rfl
    rw [run_append]
    exact Persists.run lawful (hstart.run lawful before) after
  · intro t ht
    obtain ⟨before, input, rfl⟩ := exists_of_mem_trace ht
    exact SameElsewhere.step lawful _ input

end Population

theorem population_after_market_day :
    let inputs := Mock.marketDay 0 2 ++ Mock.canValidateUnsigned
    let s := run (step Mock.config) Mock.genesis inputs
    (∀ kittyId, (s.tokens kittyId).isSome ↔ kittyId < s.nextTokenId) ∧
      s.nextTokenId.toNat = ((trace (step Mock.config) Mock.genesis
        inputs).filter minted).length ∧
      Persists (run (step Mock.config) Mock.genesis (Mock.marketDay 0 2)) s := by
  intro inputs s
  obtain ⟨hissued, -, -, hcount, -, hpersists, -⟩ :=
    population_after_run Mock.config_lawful Mock.genesis_isGenesis inputs
      (Eq.refl s)
  exact ⟨hissued, hcount,
    hpersists (Mock.marketDay 0 2) Mock.canValidateUnsigned rfl⟩

end SubstrateKitties.Pallet
