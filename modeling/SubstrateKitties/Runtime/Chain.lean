import SubstrateKitties.Foundation.Composition
import SubstrateKitties.Pallet.Steps
import SubstrateKitties.Template.Calls

/-!
# The runtime

`construct_runtime!` puts the kitties pallet beside the template pallet and the
pallets of the framework.  Each pallet has its own storage, `System` holds the
events of all, and `Balances` the money that the kitties pay with, which fees,
transfers and `sudo` may change to anything between two calls.  A call goes to
the pallet it belongs to, with the origin it comes with.  The events of the
framework's own pallets are left out.
-/

namespace SubstrateKitties.Runtime

open SubstrateKitties.Foundation
open SubstrateKitties.Pallet (Origin Env Config Balance ClassId TokenId
  NftStorage)

inductive Event (AccountId : Type) where
  | templateModule (event : Template.Event AccountId)
  | kitties (event : Pallet.Event AccountId)
  deriving DecidableEq, Repr

namespace Event

variable {AccountId : Type}

def ofTemplateModule : Event AccountId → Option (Template.Event AccountId)
  | .templateModule event => some event
  | .kitties _ => none

def ofKitties : Event AccountId → Option (Pallet.Event AccountId)
  | .templateModule _ => none
  | .kitties event => some event

end Event

structure Storage (AccountId : Type) where
  balances : AccountId → Balance
  something : Option UInt32
  kittyPrices : TokenId → Option Balance
  classId : ClassId
  autoBreedNonce : UInt32
  nft : NftStorage AccountId
  events : List (Event AccountId)

/-! ## What a pallet sees and changes -/

namespace Storage

variable {AccountId : Type}

def empty (balances : AccountId → Balance) : Storage AccountId where
  balances := balances
  something := none
  kittyPrices _ := none
  classId := 0
  autoBreedNonce := 0
  nft := .empty
  events := []

def kitties (s : Storage AccountId) : Pallet.Storage AccountId where
  nft := s.nft
  kittyPrices := s.kittyPrices
  classId := s.classId
  autoBreedNonce := s.autoBreedNonce
  balances := s.balances
  events := s.events.filterMap Event.ofKitties

def template (s : Storage AccountId) : Template.Storage AccountId where
  something := s.something
  events := s.events.filterMap Event.ofTemplateModule

def withKitties (s : Storage AccountId) (own : Pallet.Storage AccountId) :
    Storage AccountId :=
  { s with
    nft := own.nft
    kittyPrices := own.kittyPrices
    classId := own.classId
    autoBreedNonce := own.autoBreedNonce
    balances := own.balances
    events := extendLog Event.ofKitties .kitties s.events own.events }

def withTemplate (s : Storage AccountId) (own : Template.Storage AccountId) :
    Storage AccountId :=
  { s with
    something := own.something
    events :=
      extendLog Event.ofTemplateModule .templateModule s.events own.events }

theorem kitties_withKitties {s : Storage AccountId}
    {own : Pallet.Storage AccountId} (h : s.kitties.events <+: own.events) :
    (s.withKitties own).kitties = own := by
  have hlog := filterMap_extendLog Event.ofKitties .kitties (fun _ => rfl) h
  simp only [kitties, withKitties, hlog]

theorem template_withKitties (s : Storage AccountId)
    (own : Pallet.Storage AccountId) :
    (s.withKitties own).template = s.template := by
  simp only [template, withKitties,
    filterMap_extendLog_of_other Event.ofKitties .kitties
      Event.ofTemplateModule fun _ => rfl]

theorem template_withTemplate {s : Storage AccountId}
    {own : Template.Storage AccountId} (h : s.template.events <+: own.events) :
    (s.withTemplate own).template = own := by
  have hlog := filterMap_extendLog Event.ofTemplateModule .templateModule
    (fun _ => rfl) h
  simp only [template, withTemplate, hlog]

theorem kitties_withTemplate (s : Storage AccountId)
    (own : Template.Storage AccountId) :
    (s.withTemplate own).kitties = s.kitties := by
  simp only [kitties, withTemplate,
    filterMap_extendLog_of_other Event.ofTemplateModule .templateModule
      Event.ofKitties fun _ => rfl]

end Storage

inductive Call (AccountId : Type) where
  | templateModule (call : Template.Call)
  | kitties (call : Pallet.Call AccountId)
  deriving DecidableEq, Repr

inductive Action (AccountId : Type) where
  | dispatch (origin : Origin AccountId) (call : Call AccountId)
  | unsigned (call : Call AccountId)
  | others (balances : AccountId → Balance)

structure Input (AccountId : Type) where
  env : Env
  action : Action AccountId

inductive Outcome where
  | kitties (outcome : Pallet.Outcome)
  | templateModule (result : Except Template.DispatchError Unit)
  | passed

section Chain

variable {AccountId : Type}

namespace Input

def kitties (input : Input AccountId) : Option (Pallet.Input AccountId) :=
  match input.action with
  | .dispatch origin (.kitties call) => some ⟨input.env, .dispatch origin call⟩
  | .unsigned (.kitties call) => some ⟨input.env, .unsigned call⟩
  | _ => none

/-- An unsigned extrinsic comes to the template pallet with origin none. -/
def template (input : Input AccountId) : Option (Template.Input AccountId) :=
  match input.action with
  | .dispatch origin (.templateModule call) => some ⟨origin, call⟩
  | .unsigned (.templateModule call) => some ⟨.none, call⟩
  | _ => none

end Input

variable [DecidableEq AccountId] (T : Config AccountId)

def step (input : Input AccountId) (s : Storage AccountId) :
    Outcome × Storage AccountId :=
  match input.action with
  | .dispatch origin (.kitties call) =>
      let (outcome, own) :=
        Pallet.step T ⟨input.env, .dispatch origin call⟩ s.kitties
      (.kitties outcome, s.withKitties own)
  | .dispatch origin (.templateModule call) =>
      let (result, own) := Template.dispatch origin call s.template
      (.templateModule result, s.withTemplate own)
  | .unsigned (.kitties call) =>
      let (outcome, own) :=
        Pallet.step T ⟨input.env, .unsigned call⟩ s.kitties
      (.kitties outcome, s.withKitties own)
  -- in a block, `pre_dispatch` passes what the kitties do not validate
  | .unsigned (.templateModule call) =>
      let (result, own) := Template.dispatch .none call s.template
      (.templateModule result, s.withTemplate own)
  | .others balances => (.passed, { s with balances })

abbrev Step (AccountId : Type) :=
  Transition (Storage AccountId) (Input AccountId) Outcome

/-! ## The two components -/

def others (input : Input AccountId) : Option (AccountId → Balance) :=
  match input.action with
  | .others balances => some balances
  | _ => none

/-- The kitties pallet with its balances open to the other pallets. -/
def openInput (input : Input AccountId) :
    Option (Pallet.Input AccountId ⊕ (AccountId → Balance)) :=
  (input.kitties.map .inl).or ((others input).map .inr)

def openStep : Pallet.Input AccountId ⊕ (AccountId → Balance) →
    Pallet.Storage AccountId → Outcome × Pallet.Storage AccountId
  | .inl own, s =>
      let (outcome, s') := Pallet.step T own s
      (.kitties outcome, s')
  | .inr balances, s => (.passed, { s with balances })

inductive StepOf (s : Storage AccountId) (input : Input AccountId)
    (outcome : Outcome) (s' : Storage AccountId) : Prop where
  | kitties (own : Pallet.Input AccountId)
      (routed : input.kitties = some own)
      (opened : openInput input = some (.inl own))
      (notTemplate : input.template = none) (notOthers : others input = none)
      (answer : outcome = .kitties (Pallet.step T own s.kitties).1)
      (post : s' = s.withKitties (Pallet.step T own s.kitties).2)
  | template (own : Template.Input AccountId)
      (routed : input.template = some own) (notKitties : input.kitties = none)
      (closed : openInput input = none) (notOthers : others input = none)
      (answer : outcome = .templateModule (Template.step own s.template).1)
      (post : s' = s.withTemplate (Template.step own s.template).2)
  | others (balances : AccountId → Balance)
      (routed : others input = some balances)
      (opened : openInput input = some (.inr balances))
      (notKitties : input.kitties = none) (notTemplate : input.template = none)
      (answer : outcome = .passed) (post : s' = { s with balances })

theorem stepOf (s : Storage AccountId) (input : Input AccountId) :
    StepOf T s input (step T input s).1 (step T input s).2 := by
  obtain ⟨env, action⟩ := input
  cases action with
  | dispatch origin call =>
      cases call with
      | templateModule call => exact .template _ rfl rfl rfl rfl rfl rfl
      | kitties call => exact .kitties _ rfl rfl rfl rfl rfl rfl
  | unsigned call =>
      cases call with
      | templateModule call => exact .template _ rfl rfl rfl rfl rfl rfl
      | kitties call => exact .kitties _ rfl rfl rfl rfl rfl rfl
  | others balances => exact .others balances rfl rfl rfl rfl rfl rfl

theorem template_component :
    Component (step T) Template.step Storage.template Input.template
      .templateModule where
  routed s input own h := by
    cases stepOf T s input with
    | kitties _ _ _ notTemplate => cases h.symm.trans notTemplate
    | template own' routed _ _ _ _ post =>
        cases h.symm.trans routed
        rw [post]
        exact Storage.template_withTemplate (Template.step_appends own s.template)
    | others _ _ _ _ notTemplate => cases h.symm.trans notTemplate
  answered s input own h := by
    cases stepOf T s input with
    | kitties _ _ _ notTemplate => cases h.symm.trans notTemplate
    | template own' routed _ _ _ answer =>
        cases h.symm.trans routed
        exact answer
    | others _ _ _ _ notTemplate => cases h.symm.trans notTemplate
  untouched s input h := by
    cases stepOf T s input with
    | kitties own _ _ _ _ _ post =>
        rw [post]
        exact s.template_withKitties _
    | template own routed => cases h.symm.trans routed
    | others balances _ _ _ _ _ post =>
        rw [post]
        rfl

variable {T} (lawful : T.Lawful)

include lawful

theorem kitties_component :
    Component (step T) (openStep T) Storage.kitties openInput id where
  routed s input own h := by
    cases stepOf T s input with
    | kitties own' _ opened _ _ _ post =>
        cases h.symm.trans opened
        rw [post]
        exact Storage.kitties_withKitties
          (Pallet.step_appends lawful s.kitties own')
    | template _ _ _ closed => cases h.symm.trans closed
    | others balances _ opened _ _ _ post =>
        cases h.symm.trans opened
        rw [post]
        rfl
  answered s input own h := by
    cases stepOf T s input with
    | kitties own' _ opened _ _ answer =>
        cases h.symm.trans opened
        exact answer
    | template _ _ _ closed => cases h.symm.trans closed
    | others balances _ opened _ _ answer =>
        cases h.symm.trans opened
        exact answer
  untouched s input h := by
    cases stepOf T s input with
    | kitties own _ opened => cases h.symm.trans opened
    | template own _ _ _ _ _ post =>
        rw [post]
        exact s.kitties_withTemplate _
    | others balances _ opened => cases h.symm.trans opened

omit lawful

/-! ## Genesis -/

variable (T) in
structure IsGenesis [Inhabited AccountId] (s : Storage AccountId) : Prop where
  kitties : Pallet.IsGenesis T s.kitties
  template : s.template = .empty AccountId

end Chain

end SubstrateKitties.Runtime
