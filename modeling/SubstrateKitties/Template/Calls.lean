import SubstrateKitties.Foundation.Refinement
import SubstrateKitties.Pallet.Types

/-!
# The template pallet

The runtime also holds the pallet of the node template: one stored number that
a signed call sets and another increments.  `OriginFor` is the origin of the
framework, the same for both pallets.
-/

namespace SubstrateKitties.Template

open SubstrateKitties.Foundation
open SubstrateKitties.Foundation.Dispatch
open SubstrateKitties.Pallet (Origin)

inductive Event (AccountId : Type) where
  | somethingStored (something : UInt32) (who : AccountId)
  deriving DecidableEq, Repr

inductive Error where
  | noneValue
  | storageOverflow
  deriving DecidableEq, Repr

inductive DispatchError where
  | badOrigin
  | template (error : Error)
  deriving DecidableEq, Repr

inductive Call where
  | doSomething (something : UInt32)
  | causeError
  deriving DecidableEq, Repr

structure Storage (AccountId : Type) where
  something : Option UInt32
  events : List (Event AccountId)
  deriving DecidableEq, Repr

def Storage.empty (AccountId : Type) : Storage AccountId where
  something := none
  events := []

abbrev PalletCall (AccountId α : Type) :=
  Dispatch (Storage AccountId) DispatchError α

structure Input (AccountId : Type) where
  origin : Origin AccountId
  call : Call
  deriving DecidableEq, Repr

section Calls

variable {AccountId : Type}

def ensureSigned : Origin AccountId → PalletCall AccountId AccountId
  | .signed who => pure who
  | _ => fail .badOrigin

def depositEvent (event : Event AccountId) : PalletCall AccountId Unit :=
  write fun s => { s with events := s.events ++ [event] }

def doSomething (origin : Origin AccountId) (something : UInt32) :
    PalletCall AccountId Unit := do
  let who ← ensureSigned origin
  write fun s => { s with something := some something }
  depositEvent (.somethingStored something who)

def causeError (origin : Origin AccountId) : PalletCall AccountId Unit := do
  let _who ← ensureSigned origin
  match ← query Storage.something with
  | none => fail (.template .noneValue)
  | some old => do
      let new ← okOr (checkedAdd old 1) (.template .storageOverflow)
      write fun s => { s with something := some new }

def dispatch (origin : Origin AccountId) : Call → PalletCall AccountId Unit
  | .doSomething something => doSomething origin something
  | .causeError => causeError origin

def step (input : Input AccountId) (s : Storage AccountId) :
    Except DispatchError Unit × Storage AccountId :=
  dispatch input.origin input.call s

end Calls

section CauseError

variable {AccountId : Type} {s : Storage AccountId} (who : AccountId)

theorem causeError_of_none (h : s.something = none) :
    causeError (.signed who) s = (.error (.template .noneValue), s) := by
  simp [causeError, ensureSigned, bind_apply, pure_apply, query, fail, h]

theorem causeError_of_room {old new : UInt32} (h : s.something = some old)
    (hsum : checkedAdd old 1 = some new) :
    causeError (.signed who) s =
      (.ok (), { s with something := some new }) := by
  simp [causeError, ensureSigned, bind_apply, pure_apply, query, write, okOr, h,
    hsum]

theorem causeError_of_full {old : UInt32} (h : s.something = some old)
    (hsum : checkedAdd old 1 = none) :
    causeError (.signed who) s = (.error (.template .storageOverflow), s) := by
  simp [causeError, ensureSigned, bind_apply, pure_apply, query, fail, okOr, h,
    hsum]

theorem causeError_events (s : Storage AccountId) :
    (causeError (.signed who) s).2.events = s.events := by
  cases hsomething : s.something with
  | none => rw [causeError_of_none who hsomething]
  | some old =>
      cases hsum : checkedAdd old 1 with
      | none => rw [causeError_of_full who hsomething hsum]
      | some new => rw [causeError_of_room who hsomething hsum]

end CauseError

theorem step_appends {AccountId : Type} (input : Input AccountId)
    (s : Storage AccountId) : s.events <+: (step input s).2.events := by
  obtain ⟨origin, call⟩ := input
  cases origin with
  | signed who =>
      cases call with
      | doSomething something => exact ⟨[.somethingStored something who], rfl⟩
      | causeError => exact (causeError_events who s).symm ▸ List.prefix_rfl
  | root => cases call <;> exact List.prefix_rfl
  | none => cases call <;> exact List.prefix_rfl

/-! ## The stored number over a run -/

/-- The number that was stored last, and how often it was to grow since. -/
structure Tally (AccountId : Type) where
  stored : Option (UInt32 × Nat)
  events : List (Event AccountId)

namespace Tally

variable {AccountId : Type}

def empty (AccountId : Type) : Tally AccountId where
  stored := none
  events := []

def step (input : Input AccountId) (t : Tally AccountId) :
    Except DispatchError Unit × Tally AccountId :=
  match input.origin, input.call with
  | .signed who, .doSomething something =>
      (.ok (), { stored := some (something, 0)
                 events := t.events ++ [.somethingStored something who] })
  | .signed _, .causeError => match t.stored with
      | none => (.error (.template .noneValue), t)
      | some (something, count) =>
          (if something.toNat + count < 2 ^ 32 - 1 then .ok ()
            else .error (.template .storageOverflow),
            { t with stored := some (something, count + 1) })
  | _, _ => (.error .badOrigin, t)

def value (t : Tally AccountId) : Option UInt32 :=
  t.stored.map fun last => counter (last.1.toNat + last.2)

structure Shows (s : Storage AccountId) (t : Tally AccountId) : Prop where
  something : s.something = t.value
  events : s.events = t.events

theorem doSomething_shows {s : Storage AccountId} {t : Tally AccountId}
    (h : Shows s t) (who : AccountId) (something : UInt32) :
    Shows (doSomething (.signed who) something s).2
      { stored := some (something, 0)
        events := t.events ++ [.somethingStored something who] } := by
  constructor
  · simp [doSomething, ensureSigned, depositEvent, bind_apply, pure_apply, write,
      value, counter_toNat]
  · simp [doSomething, ensureSigned, depositEvent, bind_apply, pure_apply, write,
      h.events]

theorem causeError_shows {s : Storage AccountId} {t : Tally AccountId}
    (h : Shows s t) (who : AccountId) :
    (causeError (.signed who) s).1 = (step ⟨.signed who, .causeError⟩ t).1 ∧
      Shows (causeError (.signed who) s).2
        (step ⟨.signed who, .causeError⟩ t).2 := by
  have hsomething := h.something
  rw [value] at hsomething
  cases hstored : t.stored with
  | none =>
      rw [hstored, Option.map_none] at hsomething
      simp only [step, hstored]
      rw [causeError_of_none who hsomething]
      exact ⟨rfl, h⟩
  | some last =>
      obtain ⟨something, count⟩ := last
      rw [hstored, Option.map_some] at hsomething
      have hsum := checkedAdd_counter (something.toNat + count)
      simp only [step, hstored]
      by_cases hroom : something.toNat + count < 2 ^ 32 - 1
      · rw [if_pos hroom] at hsum
        rw [causeError_of_room who hsomething hsum, if_pos hroom]
        exact ⟨rfl, rfl, h.events⟩
      · rw [if_neg hroom] at hsum
        rw [causeError_of_full who hsomething hsum, if_neg hroom]
        exact ⟨rfl, hsomething.trans (congrArg some (counter_stays hroom).symm),
          h.events⟩

theorem template_refines_tally :
    Refines (@Template.step AccountId) step Shows := by
  have hstep : ∀ (s : Storage AccountId) t input, Shows s t →
      (Template.step input s).1 = (step input t).1 ∧
        Shows (Template.step input s).2 (step input t).2 := by
    intro s t input h
    obtain ⟨origin, call⟩ := input
    cases origin with
    | signed who =>
        cases call with
        | doSomething something => exact ⟨rfl, doSomething_shows h who something⟩
        | causeError => exact causeError_shows h who
    | root => cases call <;> exact ⟨rfl, h⟩
    | none => cases call <;> exact ⟨rfl, h⟩
  exact ⟨fun s t input h => (hstep s t input h).1,
    fun s t input h => (hstep s t input h).2⟩

-- the two tests of the pallet
example : (Template.step ⟨.signed 1, .doSomething 42⟩ (.empty Nat)).2.something =
    some 42 := rfl

example : (Template.step ⟨.signed 1, .causeError⟩ (.empty Nat)).1 =
    .error (.template .noneValue) := rfl

theorem Shows.empty : Shows (Storage.empty AccountId) (Tally.empty AccountId) :=
  ⟨rfl, rfl⟩

end Tally

end SubstrateKitties.Template
