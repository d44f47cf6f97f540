import SubstrateKitties.Runs.Accounts
import SubstrateKitties.Runs.EventLog
import SubstrateKitties.Runs.Nonce
import SubstrateKitties.Runtime.Chain

/-!
# The pallets in the runtime

What holds of the kitties pallet alone still holds among the other pallets,
which charge fees and move balances between its calls and add to the same event
log, except that the money now also accounts for what they do.  The template
pallet does what it does alone.
-/

namespace SubstrateKitties.Runtime

open SubstrateKitties.Foundation
open SubstrateKitties.Pallet (Config Population ChangesHands acceptedCalls
  indexer earned spent NonceHistory Journaled step_changes_hands
  step_reconciles)

section Runs

variable {AccountId : Type} [DecidableEq AccountId] (T : Config AccountId)

def kittiesStep (t : Step AccountId) : Option (Pallet.Step AccountId) :=
  t.input.kitties.map (transition (Pallet.step T) t.pre.kitties)

def kittiesHistory (history : List (Step AccountId)) :
    List (Pallet.Step AccountId) :=
  history.filterMap (kittiesStep T)

/-- What the other pallets add to a balance in a step. -/
def drift (who : AccountId) (t : Step AccountId) : ℤ :=
  match others t.input with
  | some balances => balances who - t.pre.kitties.balances who
  | none => 0

def tally (inputs : List (Input AccountId)) : Template.Tally AccountId :=
  run Template.Tally.step (.empty AccountId) (inputs.filterMap Input.template)

/-! ## One step -/

inductive KittiesStep (s : Storage AccountId) (input : Input AccountId) :
    Prop where
  | own (own : Pallet.Input AccountId) (routed : input.kitties = some own)
      (apart : others input = none)
      (kitties : (step T input s).2.kitties = (Pallet.step T own s.kitties).2)
  | foreign (notOwn : input.kitties = none)
      (balances : AccountId → Pallet.Balance)
      (kitties : (step T input s).2.kitties = { s.kitties with balances })
      (drift : ∀ who, drift who (transition (step T) s input) =
        balances who - s.kitties.balances who)

variable {T} (lawful : T.Lawful)

include lawful

theorem kittiesStep_cases (s : Storage AccountId) (input : Input AccountId) :
    KittiesStep T s input := by
  cases stepOf T s input with
  | kitties own routed opened notTemplate notOthers answer post =>
      refine .own own routed notOthers ?_
      rw [post]
      exact Storage.kitties_withKitties
        (Pallet.step_appends lawful s.kitties own)
  | template own routed notKitties closed notOthers answer post =>
      refine .foreign notKitties s.kitties.balances ?_ fun who => ?_
      · rw [post, s.kitties_withTemplate]
      · simp [drift, transition, notOthers]
  | others balances routed opened notKitties notTemplate answer post =>
      refine .foreign notKitties balances ?_ fun who => ?_
      · rw [post]
        rfl
      · simp [drift, transition, routed]

theorem openStep_population (s : Pallet.Storage AccountId)
    (own : Pallet.Input AccountId ⊕ (AccountId → Pallet.Balance))
    (h : Population s) : Population (openStep T own s).2 := by
  cases own with
  | inl own => exact h.step lawful own
  | inr balances => exact ⟨h.issued, h.indexed, h.issuance, h.listed⟩

theorem step_population {s : Storage AccountId} (input : Input AccountId)
    (h : Population s.kitties) : Population (step T input s).2.kitties := by
  cases hroute : openInput input with
  | none => rwa [(kitties_component lawful).untouched s input hroute]
  | some own =>
      rw [(kitties_component lawful).routed s input own hroute]
      exact openStep_population lawful s.kitties own h

theorem step_journaled {s : Storage AccountId} (input : Input AccountId)
    (h : Population s.kitties) :
    ∃ events, Journaled s.kitties (step T input s).2.kitties events := by
  cases kittiesStep_cases lawful s input with
  | own own routed apart kitties =>
      rw [kitties]
      exact Journaled.step lawful h own
  | foreign notOwn balances kitties hdrift =>
      rw [kitties]
      exact ⟨[], .nothing rfl rfl⟩

theorem step_authorised {s : Storage AccountId} (input : Input AccountId)
    (h : Population s.kitties) {kittyId : Pallet.TokenId} {o : AccountId}
    (hpre : s.kitties.owner kittyId = some o)
    (hpost : (step T input s).2.kitties.owner kittyId ≠ some o) :
    ∃ n own, n ≠ o ∧ (step T input s).2.kitties.owner kittyId = some n ∧
      kittiesStep T (transition (step T) s input) = some own ∧
      ChangesHands own kittyId o n := by
  cases kittiesStep_cases lawful s input with
  | own own routed apart kitties =>
      rw [kitties] at hpost ⊢
      obtain ⟨n, hne, howner, hchange⟩ :=
        step_changes_hands lawful h own hpre hpost
      refine ⟨n, _, hne, howner, ?_, hchange⟩
      simp [kittiesStep, transition, routed]
  | foreign notOwn balances kitties hdrift =>
      rw [kitties] at hpost
      exact absurd hpre hpost

theorem step_reconciled (s : Storage AccountId) (input : Input AccountId)
    (who : AccountId) :
    ((step T input s).2.kitties.balances who : ℤ) -
          earned who (step T input s).2.kitties.sales +
        spent who (step T input s).2.kitties.sales =
      s.kitties.balances who - earned who s.kitties.sales +
          spent who s.kitties.sales +
        drift who (transition (step T) s input) := by
  cases kittiesStep_cases lawful s input with
  | own own routed apart kitties =>
      have hdrift : drift who (transition (step T) s input) = 0 := by
        simp [drift, transition, apart]
      rw [kitties, hdrift, add_zero]
      exact step_reconciles lawful s.kitties own who
  | foreign notOwn balances kitties hdrift =>
      have hsales : (step T input s).2.kitties.sales = s.kitties.sales := by
        rw [kitties]
        rfl
      rw [hsales, kitties, hdrift]
      ring

/-! ## Runs of the runtime -/

omit lawful in
variable (T) in
theorem kittiesHistory_concat (history : List (Step AccountId))
    (t : Step AccountId) :
    kittiesHistory T (history ++ [t]) =
      kittiesHistory T history ++ (kittiesStep T t).toList := by
  cases h : kittiesStep T t with
  | none => simp [kittiesHistory, h]
  | some own => simp [kittiesHistory, h]

theorem nonce_concat {history : List (Step AccountId)} {s : Storage AccountId}
    (h : NonceHistory T (kittiesHistory T history) s.kitties)
    (input : Input AccountId) :
    NonceHistory T
      (kittiesHistory T (history ++ [transition (step T) s input]))
      (step T input s).2.kitties := by
  rw [kittiesHistory_concat]
  cases kittiesStep_cases lawful s input with
  | own own routed apart kitties =>
      have hstep : kittiesStep T (transition (step T) s input) =
          some (transition (Pallet.step T) s.kitties own) := by
        simp [kittiesStep, transition, routed]
      rw [hstep, kitties]
      exact h.concat own
  | foreign notOwn balances kitties hdrift =>
      have hstep : kittiesStep T (transition (step T) s input) = none := by
        simp [kittiesStep, transition, notOwn]
      rw [hstep, kitties, Option.toList_none, List.append_nil]
      exact ⟨h.carried, h.current, h.ceiling⟩

variable [Inhabited AccountId]

theorem nonceHistory_of_run {s₀ : Storage AccountId} (genesis : IsGenesis T s₀)
    (inputs : List (Input AccountId)) :
    NonceHistory T (kittiesHistory T (trace (step T) s₀ inputs))
      (run (step T) s₀ inputs).kitties := by
  refine trace_induction (P := fun history s =>
    NonceHistory T (kittiesHistory T history) s.kitties) ?_ ?_ inputs
  · exact ⟨rfl, genesis.kitties.nonce, rfl⟩
  · intro before input ih
    exact nonce_concat lawful ih input

structure Promises [Inhabited AccountId] (T : Config AccountId)
    (s₀ : Storage AccountId) (inputs : List (Input AccountId)) : Prop where
  apart : (run (step T) s₀ inputs).kitties =
    run (openStep T) s₀.kitties (inputs.filterMap openInput)
  answered : answers openInput (trace (step T) s₀ inputs) =
    outcomes (openStep T) s₀.kitties (inputs.filterMap openInput)
  issued : ∀ kittyId, ((run (step T) s₀ inputs).kitties.tokens kittyId).isSome ↔
    kittyId < (run (step T) s₀ inputs).kitties.nextTokenId
  replayed : (indexer AccountId).replay .empty
      (run (step T) s₀ inputs).kitties.events =
    (run (step T) s₀ inputs).kitties.table
  authorised : ∀ t ∈ trace (step T) s₀ inputs, ∀ kittyId o,
    t.pre.kitties.owner kittyId = some o →
    t.post.kitties.owner kittyId ≠ some o →
    ∃ n own, n ≠ o ∧ t.post.kitties.owner kittyId = some n ∧
      kittiesStep T t = some own ∧ ChangesHands own kittyId o n
  nonce : (run (step T) s₀ inputs).kitties.autoBreedNonce =
    counter (acceptedCalls (kittiesHistory T (trace (step T) s₀ inputs))).length
  carried : (acceptedCalls (kittiesHistory T (trace (step T) s₀ inputs))).map
      Pallet.Call.nonce =
    ((List.range (acceptedCalls (kittiesHistory T
      (trace (step T) s₀ inputs))).length).map counter).map some
  reconciled : ∀ who, ((run (step T) s₀ inputs).kitties.balances who : ℤ) =
    s₀.kitties.balances who +
      ((trace (step T) s₀ inputs).map (drift who)).sum +
      earned who (run (step T) s₀ inputs).kitties.sales -
      spent who (run (step T) s₀ inputs).kitties.sales
  something : (run (step T) s₀ inputs).template.something =
    (tally inputs).value
  stored : (run (step T) s₀ inputs).template.events = (tally inputs).events
  counted : answers Input.template (trace (step T) s₀ inputs) =
    (outcomes Template.Tally.step (.empty AccountId)
      (inputs.filterMap Input.template)).map .templateModule

variable (lawful : T.Lawful) {s₀ : Storage AccountId} (genesis : IsGenesis T s₀)

include lawful genesis

theorem population_of_run (inputs : List (Input AccountId)) :
    Population (run (step T) s₀ inputs).kitties :=
  run_induction (P := fun s : Storage AccountId => Population s.kitties)
    (Population.of_genesis lawful genesis.kitties)
    (fun _ input h => step_population lawful input h) inputs

theorem replayed_of_run (inputs : List (Input AccountId)) :
    (indexer AccountId).replay .empty
        (run (step T) s₀ inputs).kitties.events =
      (run (step T) s₀ inputs).kitties.table := by
  obtain ⟨hevents, htable⟩ :
      s₀.kitties.events = [] ∧ s₀.kitties.table = .empty := by
    obtain ⟨balances, hempty⟩ := genesis.kitties.eq lawful
    rw [hempty]
    exact ⟨rfl, rfl⟩
  have hjournaled : ∀ s input, Population (Storage.kitties s) → ∃ events,
      (step T input s).2.kitties.events = s.kitties.events ++ events ∧
        (step T input s).2.kitties.table =
          (indexer AccountId).replay s.kitties.table events ∧
        (indexer AccountId).FitsAll s.kitties.table events := by
    intro s input hs
    obtain ⟨events, appended, replayed, fits⟩ := step_journaled lawful input hs
    exact ⟨events, appended, replayed, fits⟩
  have hrun := Journal.replay_run (fun s : Storage AccountId => s.kitties.events)
    (fun s => s.kitties.table) hevents
    (Population.of_genesis lawful genesis.kitties)
    (fun _ input hs => step_population lawful input hs) hjournaled inputs
  rw [htable] at hrun
  exact hrun.1

theorem reconciled_of_run (inputs : List (Input AccountId)) (who : AccountId) :
    ((run (step T) s₀ inputs).kitties.balances who : ℤ) =
      s₀.kitties.balances who +
        ((trace (step T) s₀ inputs).map (drift who)).sum +
        earned who (run (step T) s₀ inputs).kitties.sales -
        spent who (run (step T) s₀ inputs).kitties.sales := by
  have hbooks : ((run (step T) s₀ inputs).kitties.balances who : ℤ) -
        earned who (run (step T) s₀ inputs).kitties.sales +
        spent who (run (step T) s₀ inputs).kitties.sales =
      s₀.kitties.balances who +
        ((trace (step T) s₀ inputs).map (drift who)).sum := by
    refine trace_induction (P := fun history s =>
      (s.kitties.balances who : ℤ) - earned who s.kitties.sales +
          spent who s.kitties.sales =
        s₀.kitties.balances who + (history.map (drift who)).sum) ?_ ?_ inputs
    · obtain ⟨balances, hempty⟩ := genesis.kitties.eq lawful
      rw [hempty]
      simp [earned, spent, Pallet.Storage.sales]
    · intro before input ih
      rw [step_reconciled lawful, ih, List.map_append, List.sum_append]
      simp
      ring
  omega

omit lawful in
theorem shows_of_run (inputs : List (Input AccountId)) :
    Template.Tally.Shows (run (step T) s₀ inputs).template (tally inputs) := by
  rw [((template_component T).runs s₀ inputs).1, genesis.template]
  exact Template.Tally.template_refines_tally.run .empty _

/--
In every run of the runtime from its genesis, whatever the other pallets do to
the balances between the calls, the kitties pallet keeps its population, its
journal, its owners' rights, its nonce and its books, and the template pallet
its number.
-/
theorem pallets_keep_their_promises (inputs : List (Input AccountId)) :
    Promises T s₀ inputs where
  apart := ((kitties_component lawful).runs s₀ inputs).1
  answered := by
    rw [((kitties_component lawful).runs s₀ inputs).2, List.map_id]
  issued := (population_of_run lawful genesis inputs).issued
  replayed := replayed_of_run lawful genesis inputs
  authorised t ht kittyId o hpre hpost := by
    obtain ⟨before, input, rfl⟩ := exists_of_mem_trace ht
    exact step_authorised lawful input (population_of_run lawful genesis before)
      hpre hpost
  nonce := (nonceHistory_of_run lawful genesis inputs).current
  carried := (nonceHistory_of_run lawful genesis inputs).carried
  reconciled := reconciled_of_run lawful genesis inputs
  something := (shows_of_run genesis inputs).something
  stored := (shows_of_run genesis inputs).events
  counted := by
    rw [((template_component T).runs s₀ inputs).2, genesis.template,
      Template.Tally.template_refines_tally.outcomes_eq .empty]

end Runs

theorem pallets_keep_their_promises_among_fees :
    let s₀ := (Storage.empty fun _ => 0).withKitties Pallet.Mock.genesis
    let inputs : List (Input Pallet.Mock.AccountId) :=
      [⟨Pallet.Mock.seeded 0, .dispatch (.signed 100) (.kitties .create)⟩,
        ⟨Pallet.Mock.seeded 0,
          .dispatch (.signed 100) (.kitties (.setPrice 0 (some 400)))⟩,
        ⟨Pallet.Mock.seeded 0, .others fun _ => 499⟩,
        ⟨Pallet.Mock.seeded 0,
          .dispatch (.signed 200) (.templateModule (.doSomething 42))⟩,
        ⟨Pallet.Mock.seeded 0, .unsigned (.templateModule .causeError)⟩,
        ⟨Pallet.Mock.seeded 0,
          .dispatch (.signed 200) (.kitties (.buy 100 0 400))⟩]
    Promises Pallet.Mock.config s₀ inputs ∧
      answers Input.template (trace (step Pallet.Mock.config) s₀ inputs) =
        [.templateModule (.ok ()), .templateModule (.error .badOrigin)] := by
  intro s₀ inputs
  have hgenesis : IsGenesis Pallet.Mock.config s₀ := by
    refine ⟨?_, Storage.template_withKitties _ _⟩
    have hkitties : s₀.kitties = Pallet.Mock.genesis :=
      Storage.kitties_withKitties List.nil_prefix
    rw [hkitties]
    exact Pallet.Mock.genesis_isGenesis
  have hpromises :=
    pallets_keep_their_promises Pallet.Mock.config_lawful hgenesis inputs
  exact ⟨hpromises, hpromises.counted.trans rfl⟩

end SubstrateKitties.Runtime
