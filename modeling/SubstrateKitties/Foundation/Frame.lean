import SubstrateKitties.Foundation.Dispatch

/-!
# Changes that a call does not see

A change of the store is foreign to a call when the call gives the same result
with it as without it and leaves it in place: the change may be made before the
call or after it.
-/

namespace SubstrateKitties.Foundation

namespace Dispatch

variable {σ τ ε α β : Type}

def Foreign (change : σ → σ) (m : Dispatch σ ε α) : Prop :=
  ∀ s, m (change s) = ((m s).1, change (m s).2)

namespace Foreign

variable {change : σ → σ}

theorem pure (a : α) : Foreign change (pure a : Dispatch σ ε α) := fun _ => rfl

theorem query {f : σ → α} (h : ∀ s, f (change s) = f s) :
    Foreign change (query f : Dispatch σ ε α) := by
  intro s
  simp [Dispatch.query, h]

theorem write {f : σ → σ} (h : ∀ s, f (change s) = change (f s)) :
    Foreign change (write f : Dispatch σ ε Unit) := by
  intro s
  simp [Dispatch.write, h]

theorem bind {m : Dispatch σ ε α} {f : α → Dispatch σ ε β}
    (hm : Foreign change m) (hf : ∀ a, Foreign change (f a)) :
    Foreign change (m >>= f) := by
  intro s
  have hs := hm s
  rcases h : m s with ⟨e | a, s'⟩
  · rw [h] at hs
    rw [bind_of_error h, bind_of_error hs]
  · rw [h] at hs
    rw [bind_of_ok h, bind_of_ok hs]
    exact hf a s'

theorem ensure (p : Prop) [Decidable p] (e : ε) :
    Foreign change (ensure p e : Dispatch σ ε Unit) := by
  intro s
  by_cases h : p <;> simp [Dispatch.ensure, h, pure_apply, Dispatch.fail]

theorem okOr (value : Option α) (e : ε) :
    Foreign change (okOr value e : Dispatch σ ε α) := by
  intro s
  cases value <;> rfl

theorem zoom {get : σ → τ} {set : τ → σ → σ} {m : Dispatch τ ε α}
    (hget : ∀ s, get (change s) = get s)
    (hset : ∀ t s, set t (change s) = change (set t s)) :
    Foreign change (zoom get set m) := by
  intro s
  simp [Dispatch.zoom, hget, hset]

theorem transactional {m : Dispatch σ ε α} (hm : Foreign change m) :
    Foreign change (transactional m) := by
  intro s
  have hs := hm s
  rcases h : m s with ⟨e | a, s'⟩
  · rw [h] at hs
    simp [Dispatch.transactional, h, hs]
  · rw [h] at hs
    simp [Dispatch.transactional, h, hs]

theorem tryMutateExists {ν : Type} {get : σ → Option ν}
    {set : Option ν → σ → σ} {f : Option ν → Dispatch σ ε (α × Option ν)}
    (hget : ∀ s, get (change s) = get s)
    (hset : ∀ value s, set value (change s) = change (set value s))
    (hf : ∀ value, Foreign change (f value)) :
    Foreign change (tryMutateExists get set f) := by
  refine (Foreign.query hget).bind fun value => (hf value).bind fun result => ?_
  exact (Foreign.write (hset result.2)).bind fun _ => Foreign.pure result.1

end Foreign

end Dispatch

end SubstrateKitties.Foundation
