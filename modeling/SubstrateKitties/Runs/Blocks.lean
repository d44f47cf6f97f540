import SubstrateKitties.Foundation.Block
import SubstrateKitties.Pallet.Footprints

/-!
# The order of trades in a block

The author of a block chooses the order of its extrinsics.  For trades of
different kitties, no two of which are sales with an account in common, the
choice makes no difference: each ends as if it were alone in the block.
-/

namespace SubstrateKitties.Pallet

open SubstrateKitties.Foundation

section Blocks

variable {AccountId : Type}

structure Trade (AccountId : Type) where
  env : Env
  signer : AccountId
  call : Call AccountId
  kittyId : TokenId
  names : call.tradedKitty = some kittyId

namespace Trade

def input (t : Trade AccountId) : Input AccountId where
  env := t.env
  action := .dispatch (.signed t.signer) t.call

def payers (t : Trade AccountId) : Set AccountId := t.call.payers t.signer

/-- Different kitties, and no account with money at stake in both trades. -/
def Apart (t u : Trade AccountId) : Prop :=
  t.kittyId ≠ u.kittyId ∧ Disjoint t.payers u.payers

variable [DecidableEq AccountId] {T : Config AccountId}

def footed (lawful : T.nft.Lawful) (payments : T.currency.Local)
    (t : Trade AccountId) :
    Footed (@cells AccountId) DispatchError Unit where
  call := dispatch T t.env (.signed t.signer) t.call
  writes := tradeCells t.kittyId t.payers
  reads := {Cell.classId}
  within := dispatch_trades lawful payments t.env t.signer t.names

section Footed

variable (lawful : T.nft.Lawful) (payments : T.currency.Local)

theorem apart_footed {t u : Trade AccountId} (h : t.Apart u) :
    (t.footed lawful payments).Apart (u.footed lawful payments) :=
  ⟨tradeCells_disjoint h.1 h.2, tradeCells_disjoint h.1.symm h.2.symm⟩

theorem step_input (t : Trade AccountId) (s : Storage AccountId) :
    step T t.input s = (.dispatched ((t.footed lawful payments).exec s).1,
      ((t.footed lawful payments).exec s).2) := rfl

theorem run_footed (s : Storage AccountId) (block : List (Trade AccountId)) :
    run (step T) s (block.map input) =
      run Footed.exec s (block.map (footed lawful payments)) := by
  induction block generalizing s with
  | nil => rfl
  | cons t block ih => exact ih _

theorem outcomes_footed (s : Storage AccountId)
    (block : List (Trade AccountId)) :
    outcomes (step T) s (block.map input) =
      (outcomes Footed.exec s (block.map (footed lawful payments))).map
        Outcome.dispatched := by
  induction block generalizing s with
  | nil => rfl
  | cons t block ih =>
      have hrest := ih ((t.footed lawful payments).exec s).2
      simp only [outcomes, List.map_cons, trace, transition] at hrest ⊢
      rw [step_input lawful payments, hrest]

end Footed

end Trade

/-! ## Any order of the block -/

structure TradedAlone [DecidableEq AccountId] (T : Config AccountId)
    (s s' : Storage AccountId) (t : Trade AccountId) : Prop where
  token : s'.tokens t.kittyId = (step T t.input s).2.tokens t.kittyId
  price : s'.kittyPrices t.kittyId = (step T t.input s).2.kittyPrices t.kittyId
  balances : ∀ who ∈ t.payers,
    s'.balances who = (step T t.input s).2.balances who

variable [DecidableEq AccountId] {T : Config AccountId}
  (lawful : T.nft.Lawful) (payments : T.currency.Local)

include lawful payments

theorem block_order_irrelevant (s : Storage AccountId)
    {block block' : List (Trade AccountId)} (apart : block.Pairwise Trade.Apart)
    (perm : block.Perm block') :
    let finish := run (step T) s (block.map Trade.input)
    let finish' := run (step T) s (block'.map Trade.input)
    outcomes (step T) s (block'.map Trade.input) =
        block'.map (fun t => (step T t.input s).1) ∧
      finish' = { finish with events := finish'.events } ∧
      finish'.events.Perm finish.events ∧
      ∀ t ∈ block', TradedAlone T s finish' t := by
  intro finish finish'
  have hapart : (block.map (Trade.footed lawful payments)).Pairwise
      Footed.Apart :=
    List.pairwise_map.mpr (apart.imp (Trade.apart_footed lawful payments))
  have hperm := perm.map (Trade.footed lawful payments)
  have halone := Footed.asAlone
    ((hperm.pairwise_iff Footed.Apart.symm).mp hapart) s
  obtain ⟨hcells, hevents⟩ := Footed.order_irrelevant hapart hperm s
  rw [← Trade.run_footed, ← Trade.run_footed] at hcells hevents
  refine ⟨?_, Storage.eq_of_read hcells, hevents, fun t ht => ?_⟩
  · rw [Trade.outcomes_footed lawful payments, halone.results, List.map_map,
      List.map_map]
    rfl
  · have hmem := List.mem_map_of_mem (f := Trade.footed lawful payments) ht
    have hwritten := halone.written _ hmem
    have hclass := halone.unwritten Cell.classId fun f hf hwrites => by
      obtain ⟨u, -, rfl⟩ := List.mem_map.mp hf
      exact hwrites
    rw [← Trade.run_footed] at hwritten hclass
    have hclass' : (step T t.input s).2.classId = s.classId :=
      (t.footed lawful payments).within.frame s Cell.classId fun hwrites =>
        hwrites
    constructor
    · change finish'.nft.tokens (finish'.classId, t.kittyId) =
        (step T t.input s).2.nft.tokens ((step T t.input s).2.classId, t.kittyId)
      rw [hclass', show finish'.classId = s.classId from hclass]
      exact hwritten (Cell.token s.classId t.kittyId) rfl
    · exact hwritten (Cell.price t.kittyId) rfl
    · intro who hwho
      exact hwritten (Cell.balance who) hwho

end Blocks

theorem block_order_irrelevant_in_can_buy :
    let listed := run (step Mock.config) Mock.genesis
      [Mock.signed 100 .create, Mock.signed 100 .create,
        Mock.signed 100 (.setPrice 0 (some 400))]
    let sale : Trade Mock.AccountId :=
      ⟨Mock.seeded 0, 200, .buy 100 0 500, 0, rfl⟩
    let pricing : Trade Mock.AccountId :=
      ⟨Mock.seeded 0, 100, .setPrice 1 (some 600), 1, rfl⟩
    (run (step Mock.config) listed
        ([pricing, sale].map Trade.input)).events.Perm
      (run (step Mock.config) listed
        ([sale, pricing].map Trade.input)).events := by
  intro listed sale pricing
  have hapart : [sale, pricing].Pairwise Trade.Apart := by
    refine .cons (fun t ht => ?_) (List.pairwise_singleton _ _)
    obtain rfl := List.mem_singleton.mp ht
    exact ⟨by decide, Set.disjoint_empty _⟩
  exact (block_order_irrelevant Mock.ormlNft_lawful Mock.balances_local listed
    hapart (List.Perm.swap pricing sale [])).2.2.1

end SubstrateKitties.Pallet
