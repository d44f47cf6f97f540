import Mathlib.Algebra.Ring.Nat
import Mathlib.Data.List.Basic

/-!
# Machine words

The arithmetic of 32-bit counters that stop at their largest value, and the
little-endian byte strings of unsigned integers.
-/

namespace SubstrateKitties.Foundation

/-! ## 32-bit counters -/

def u32Max : UInt32 := 4294967295

def saturatingAdd (a b : UInt32) : UInt32 :=
  if a.toNat + b.toNat < 2 ^ 32 then a + b else u32Max

def checkedAdd (a b : UInt32) : Option UInt32 :=
  if a.toNat + b.toNat < 2 ^ 32 then some (a + b) else none

theorem toNat_u32Max : u32Max.toNat = 2 ^ 32 - 1 := rfl

theorem toNat_le_u32Max (n : UInt32) : n.toNat ≤ u32Max.toNat := by
  have h := n.toNat_lt
  rw [toNat_u32Max]
  omega

theorem toNat_lt_of_ne_u32Max {n : UInt32} (h : n ≠ u32Max) :
    n.toNat < u32Max.toNat := by
  have hne : n.toNat ≠ u32Max.toNat := fun heq => h (UInt32.toNat_inj.mp heq)
  have hle := toNat_le_u32Max n
  omega

theorem lt_u32Max_iff {n : UInt32} : n < u32Max ↔ n ≠ u32Max := by
  rw [UInt32.lt_iff_toNat_lt]
  constructor
  · rintro hlt rfl
    omega
  · exact toNat_lt_of_ne_u32Max

theorem toNat_succ {n : UInt32} (h : n ≠ u32Max) :
    (n + 1).toNat = n.toNat + 1 := by
  have hlt := toNat_lt_of_ne_u32Max h
  rw [toNat_u32Max] at hlt
  have hone : (1 : UInt32).toNat = 1 := rfl
  rw [UInt32.toNat_add, hone]
  omega

theorem lt_succ_iff {k n : UInt32} (h : n ≠ u32Max) :
    k < n + 1 ↔ k < n ∨ k = n := by
  rw [UInt32.lt_iff_toNat_lt, UInt32.lt_iff_toNat_lt, toNat_succ h,
    ← UInt32.toNat_inj]
  omega

@[simp] theorem saturatingAdd_u32Max : saturatingAdd u32Max 1 = u32Max := rfl

theorem saturatingAdd_one {n : UInt32} (h : n ≠ u32Max) :
    saturatingAdd n 1 = n + 1 := by
  have hlt := toNat_lt_of_ne_u32Max h
  rw [toNat_u32Max] at hlt
  have hone : (1 : UInt32).toNat = 1 := rfl
  rw [saturatingAdd, if_pos (by omega)]

theorem le_saturatingAdd_one (n : UInt32) : n ≤ saturatingAdd n 1 := by
  by_cases h : n = u32Max
  · rw [h, saturatingAdd_u32Max]
    exact UInt32.le_refl u32Max
  · rw [saturatingAdd_one h, UInt32.le_iff_toNat_le, toNat_succ h]
    omega

/-! ## A counter that stops at its largest value -/

/-- The counter after `count` increments. -/
def counter (count : Nat) : UInt32 := UInt32.ofNat (min count (2 ^ 32 - 1))

theorem toNat_counter (count : Nat) :
    (counter count).toNat = min count (2 ^ 32 - 1) := by
  have hlt : min count (2 ^ 32 - 1) < 2 ^ 32 := by omega
  exact UInt32.toNat_ofNat_of_lt' hlt

theorem counter_toNat (n : UInt32) : counter n.toNat = n := by
  have hlt := n.toNat_lt
  rw [← UInt32.toNat_inj, toNat_counter]
  omega

theorem counter_stays {count : Nat} (h : ¬count < 2 ^ 32 - 1) :
    counter (count + 1) = counter count := by
  rw [← UInt32.toNat_inj, toNat_counter, toNat_counter]
  omega

theorem counter_eq_u32Max_iff {count : Nat} :
    counter count = u32Max ↔ 2 ^ 32 - 1 ≤ count := by
  rw [← UInt32.toNat_inj, toNat_counter, toNat_u32Max]
  omega

theorem saturatingAdd_counter (count : Nat) :
    saturatingAdd (counter count) 1 = counter (count + 1) := by
  by_cases h : counter count = u32Max
  · have hnext : counter (count + 1) = u32Max := by
      rw [counter_eq_u32Max_iff] at h ⊢
      omega
    rw [h, hnext, saturatingAdd_u32Max]
  · have hlt := toNat_lt_of_ne_u32Max h
    rw [saturatingAdd_one h, ← UInt32.toNat_inj, toNat_succ h, toNat_counter,
      toNat_counter]
    rw [toNat_counter, toNat_u32Max] at hlt
    omega

theorem checkedAdd_counter (count : Nat) :
    checkedAdd (counter count) 1 =
      if count < 2 ^ 32 - 1 then some (counter (count + 1)) else none := by
  have hone : (1 : UInt32).toNat = 1 := rfl
  have hvalue := toNat_counter count
  by_cases h : count < 2 ^ 32 - 1
  · have hnext : counter count + 1 = counter (count + 1) := by
      rw [← UInt32.toNat_inj, UInt32.toNat_add, hvalue, hone, toNat_counter]
      omega
    rw [checkedAdd, if_pos (by omega), if_pos h, hnext]
  · rw [checkedAdd, if_neg (by omega), if_neg h]

theorem counters_increasing_iff (count : Nat) :
    ((List.range count).map counter).Pairwise (· < ·) ↔ count ≤ 2 ^ 32 := by
  rw [List.pairwise_map]
  constructor
  · intro h
    by_contra hlt
    rw [List.pairwise_iff_getElem] at h
    have hlast := h (2 ^ 32 - 1) (2 ^ 32)
      (by rw [List.length_range]; omega) (by rw [List.length_range]; omega)
      (by omega)
    rw [List.getElem_range, List.getElem_range,
      counter_eq_u32Max_iff.mpr (Nat.le_refl _),
      counter_eq_u32Max_iff.mpr (by omega)] at hlast
    exact UInt32.lt_irrefl _ hlast
  · intro hle
    refine List.pairwise_lt_range.imp_of_mem fun {i j} hi hj hij => ?_
    rw [List.mem_range] at hi hj
    rw [UInt32.lt_iff_toNat_lt, toNat_counter, toNat_counter]
    omega

theorem counters_increasing_below (count : Nat) :
    (((List.range count).map counter).filter (· != u32Max)).Pairwise
      (· < ·) := by
  rw [List.filter_map, List.pairwise_map]
  refine (List.pairwise_lt_range.filter _).imp_of_mem fun {i j} hi hj hij => ?_
  have hbelow : counter j ≠ u32Max := by
    simpa using (List.mem_filter.mp hj).2
  rw [Ne, counter_eq_u32Max_iff] at hbelow
  rw [UInt32.lt_iff_toNat_lt, toNat_counter, toNat_counter]
  omega

theorem countP_counters (count : Nat) :
    ((List.range count).map counter).countP (· == u32Max) =
      count - (2 ^ 32 - 1) := by
  induction count with
  | zero => rfl
  | succ count ih =>
      rw [List.range_succ, List.map_append, List.countP_append, ih,
        List.map_singleton, List.countP_singleton]
      by_cases h : counter count = u32Max
      · have hle := counter_eq_u32Max_iff.mp h
        simp only [h, beq_self_eq_true, if_true]
        omega
      · have hlt := mt counter_eq_u32Max_iff.mpr h
        rw [if_neg (by simpa using h)]
        omega

/-! ## Little-endian bytes -/

def leBytes : Nat → Nat → List UInt8
  | 0, _ => []
  | count + 1, value => UInt8.ofNat value :: leBytes count (value / 256)

def leValue : List UInt8 → Nat
  | [] => 0
  | byte :: bytes => byte.toNat + 256 * leValue bytes

def encodeU32 (value : UInt32) : List UInt8 := leBytes 4 value.toNat

def encodeU64 (value : UInt64) : List UInt8 := leBytes 8 value.toNat

def encodeU128 (value : BitVec 128) : List UInt8 := leBytes 16 value.toNat

def encodeOption {α : Type} (encode : α → List UInt8) : Option α → List UInt8
  | none => [0]
  | some value => 1 :: encode value

end SubstrateKitties.Foundation
