import Mathlib.Logic.Function.Basic

/-!
# Fallible calls on a mutable store

A call reads and writes a store and may stop with an error.  The writes made
before an error stay in the store: rolling them back is the business of
`transactional`, and of nothing else.  Whether a failing call leaves the store
as it found it is therefore a property (`Atomic`) that has to be proved of each
call from the order of its checks and writes.
-/

namespace SubstrateKitties.Foundation

/-- A call on the store `σ` gives its result and the store it leaves behind. -/
def Dispatch (σ ε α : Type) : Type := σ → Except ε α × σ

namespace Dispatch

variable {σ τ ε α β : Type}

instance : Monad (Dispatch σ ε) where
  pure a := fun s => (.ok a, s)
  bind m f := fun s =>
    match m s with
    | (.ok a, s') => f a s'
    | (.error e, s') => (.error e, s')

def fail (e : ε) : Dispatch σ ε α := fun s => (.error e, s)

def query (f : σ → α) : Dispatch σ ε α := fun s => (.ok (f s), s)

def write (f : σ → σ) : Dispatch σ ε Unit := fun s => (.ok (), f s)

def ensure (p : Prop) [Decidable p] (e : ε) : Dispatch σ ε Unit :=
  if p then pure () else fail e

def okOr (value : Option α) (e : ε) : Dispatch σ ε α :=
  match value with
  | some a => pure a
  | none => fail e

def zoom (get : σ → τ) (set : τ → σ → σ) (m : Dispatch τ ε α) :
    Dispatch σ ε α := fun s =>
  ((m (get s)).1, set (m (get s)).2 s)

/-- Keep the writes of a call that succeeds, drop those of one that fails. -/
def transactional (m : Dispatch σ ε α) : Dispatch σ ε α := fun s =>
  match m s with
  | (.ok a, s') => (.ok a, s')
  | (.error e, _) => (.error e, s)

/--
Give one optional value of the store to a call and put back what the call
makes of it.  The value is written only when the call succeeds, after every
other write of the call.
-/
def tryMutateExists {ν : Type} (get : σ → Option ν) (set : Option ν → σ → σ)
    (f : Option ν → Dispatch σ ε (α × Option ν)) : Dispatch σ ε α := do
  let value ← query get
  let (a, value) ← f value
  write (set value)
  pure a

/-! ## Runs of a call -/

theorem pure_apply (a : α) (s : σ) :
    (pure a : Dispatch σ ε α) s = (.ok a, s) := rfl

theorem bind_apply (m : Dispatch σ ε α) (f : α → Dispatch σ ε β) (s : σ) :
    (m >>= f) s =
      match m s with
      | (.ok a, s') => f a s'
      | (.error e, s') => (.error e, s') := rfl

theorem bind_of_ok {m : Dispatch σ ε α} {f : α → Dispatch σ ε β}
    {s s' : σ} {a : α} (h : m s = (.ok a, s')) :
    (m >>= f) s = f a s' := by
  rw [bind_apply, h]

theorem bind_of_error {m : Dispatch σ ε α} {f : α → Dispatch σ ε β}
    {s s' : σ} {e : ε} (h : m s = (.error e, s')) :
    (m >>= f) s = (.error e, s') := by
  rw [bind_apply, h]

/-! ## Which runs succeed -/

theorem fst_eq_ok {m : Dispatch σ ε α} {a : α} {s : σ} :
    (m s).1 = .ok a ↔ ∃ s', m s = (.ok a, s') := by
  constructor
  · intro h
    exact ⟨(m s).2, by rw [← h]⟩
  · rintro ⟨s', h⟩
    rw [h]

@[simp] theorem pure_eq_ok {a b : α} {s s' : σ} :
    (pure a : Dispatch σ ε α) s = (.ok b, s') ↔ a = b ∧ s = s' := by
  simp [pure_apply]

@[simp] theorem bind_eq_ok {m : Dispatch σ ε α} {f : α → Dispatch σ ε β}
    {s s'' : σ} {b : β} :
    (m >>= f) s = (.ok b, s'') ↔
      ∃ a s', m s = (.ok a, s') ∧ f a s' = (.ok b, s'') := by
  rw [bind_apply]
  rcases hm : m s with ⟨_ | a, s'⟩
  · simp
  · simp only [Prod.mk.injEq, Except.ok.injEq]
    constructor
    · intro hf
      exact ⟨a, s', ⟨rfl, rfl⟩, hf⟩
    · rintro ⟨_, _, ⟨rfl, rfl⟩, hf⟩
      exact hf

@[simp] theorem fail_eq_ok {e : ε} {a : α} {s s' : σ} :
    (fail e : Dispatch σ ε α) s = (.ok a, s') ↔ False := by
  simp [fail]

@[simp] theorem query_eq_ok {f : σ → α} {a : α} {s s' : σ} :
    (query f : Dispatch σ ε α) s = (.ok a, s') ↔ f s = a ∧ s = s' := by
  simp [query]

@[simp] theorem write_eq_ok {f : σ → σ} {u : Unit} {s s' : σ} :
    (write f : Dispatch σ ε Unit) s = (.ok u, s') ↔ f s = s' := by
  simp [write]

@[simp] theorem ensure_eq_ok {p : Prop} [Decidable p] {e : ε} {u : Unit}
    {s s' : σ} :
    (ensure p e : Dispatch σ ε Unit) s = (.ok u, s') ↔ p ∧ s = s' := by
  by_cases h : p <;> simp [ensure, h]

@[simp] theorem okOr_eq_ok {value : Option α} {e : ε} {a : α} {s s' : σ} :
    (okOr value e : Dispatch σ ε α) s = (.ok a, s') ↔
      value = some a ∧ s = s' := by
  cases value <;> simp [okOr]

@[simp] theorem zoom_eq_ok {get : σ → τ} {set : τ → σ → σ}
    {m : Dispatch τ ε α} {a : α} {s s' : σ} :
    zoom get set m s = (.ok a, s') ↔
      ∃ t, m (get s) = (.ok a, t) ∧ set t s = s' := by
  rcases hm : m (get s) with ⟨_ | b, t⟩
  · simp [zoom, hm]
  · simp only [zoom, hm, Prod.mk.injEq, Except.ok.injEq]
    constructor
    · rintro ⟨hb, hs⟩
      exact ⟨t, ⟨hb, rfl⟩, hs⟩
    · rintro ⟨_, ⟨hb, rfl⟩, hs⟩
      exact ⟨hb, hs⟩

@[simp] theorem transactional_eq_ok {m : Dispatch σ ε α} {a : α} {s s' : σ} :
    transactional m s = (.ok a, s') ↔ m s = (.ok a, s') := by
  rcases hm : m s with ⟨_ | b, t⟩ <;> simp [transactional, hm]

/-! ## Calls whose failures leave no trace -/

def Silent (m : Dispatch σ ε α) : Prop := ∀ s, (m s).2 = s

def Infallible (m : Dispatch σ ε α) : Prop := ∀ s e, (m s).1 ≠ .error e

/-- A call that leaves the store as it was whenever it fails. -/
def Atomic (m : Dispatch σ ε α) : Prop :=
  ∀ s e, (m s).1 = .error e → (m s).2 = s

theorem Silent.pure (a : α) : Silent (pure a : Dispatch σ ε α) := fun _ => rfl

theorem Silent.fail (e : ε) : Silent (fail e : Dispatch σ ε α) := fun _ => rfl

theorem Silent.query (f : σ → α) : Silent (query f : Dispatch σ ε α) :=
  fun _ => rfl

theorem Silent.ensure (p : Prop) [Decidable p] (e : ε) :
    Silent (ensure p e : Dispatch σ ε Unit) := by
  intro s
  by_cases h : p
  · simp [Dispatch.ensure, h, pure_apply]
  · simp [Dispatch.ensure, h, Dispatch.fail]

theorem Silent.okOr (value : Option α) (e : ε) :
    Silent (okOr value e : Dispatch σ ε α) := by
  intro s
  cases value <;> rfl

theorem Infallible.pure (a : α) : Infallible (pure a : Dispatch σ ε α) := by
  intro s e
  simp [pure_apply]

theorem Infallible.write (f : σ → σ) :
    Infallible (write f : Dispatch σ ε Unit) := by
  intro s e
  simp [Dispatch.write]

theorem Infallible.bind {m : Dispatch σ ε α} {f : α → Dispatch σ ε β}
    (hm : Infallible m) (hf : ∀ a, Infallible (f a)) :
    Infallible (m >>= f) := by
  intro s e
  rcases h : m s with ⟨e' | a, s'⟩
  · exact absurd (by rw [h]) (hm s e')
  · rw [bind_of_ok h]
    exact hf a s' e

theorem Silent.atomic {m : Dispatch σ ε α} (h : Silent m) : Atomic m :=
  fun s _ _ => h s

theorem Infallible.atomic {m : Dispatch σ ε α} (h : Infallible m) : Atomic m :=
  fun s e he => absurd he (h s e)

theorem Silent.bind_atomic {m : Dispatch σ ε α} {f : α → Dispatch σ ε β}
    (hm : Silent m) (hf : ∀ a, Atomic (f a)) : Atomic (m >>= f) := by
  intro s e he
  have hs := hm s
  rcases h : m s with ⟨e' | a, s'⟩
  · rw [bind_of_error h]
    rw [h] at hs
    exact hs
  · rw [bind_of_ok h] at he ⊢
    rw [h] at hs
    subst hs
    exact hf a s' e he

theorem Atomic.bind_infallible {m : Dispatch σ ε α}
    {f : α → Dispatch σ ε β} (hm : Atomic m) (hf : ∀ a, Infallible (f a)) :
    Atomic (m >>= f) := by
  intro s e he
  rcases h : m s with ⟨e' | a, s'⟩
  · rw [bind_of_error h]
    have hs := hm s e' (by rw [h])
    rw [h] at hs
    exact hs
  · rw [bind_of_ok h] at he
    exact absurd he (hf a s' e)

theorem Atomic.transactional (m : Dispatch σ ε α) : Atomic (transactional m) := by
  intro s e he
  rcases h : m s with ⟨e' | a, s'⟩
  · simp [Dispatch.transactional, h]
  · simp [Dispatch.transactional, h] at he

theorem Atomic.zoom {get : σ → τ} {set : τ → σ → σ} {m : Dispatch τ ε α}
    (hset : ∀ s, set (get s) s = s) (hm : Atomic m) :
    Atomic (zoom get set m) := by
  intro s e he
  have hs : (m (get s)).2 = get s := hm (get s) e he
  simp only [Dispatch.zoom, hs, hset]

end Dispatch

end SubstrateKitties.Foundation
