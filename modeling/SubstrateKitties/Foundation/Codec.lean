import SubstrateKitties.Foundation.Words

/-!
# Encodings that can be put one after the other

An encoding is prefix-free if what follows the code of a value does not matter
for reading the value.  Encodings of a fixed length are, and so are pairs and
optional values, hence the encodings of whole payloads.
-/

namespace SubstrateKitties.Foundation

/-! ## Bytes of a number -/

theorem length_leBytes (count value : Nat) :
    (leBytes count value).length = count := by
  induction count generalizing value with
  | zero => rfl
  | succ count ih => simp [leBytes, ih]

theorem leValue_leBytes (count value : Nat) :
    leValue (leBytes count value) = value % 256 ^ count := by
  induction count generalizing value with
  | zero => simp [leBytes, leValue, Nat.mod_one]
  | succ count ih =>
      have hbyte : (UInt8.ofNat value).toNat = value % 256 := by simp
      rw [leBytes, leValue, hbyte, ih, Nat.pow_succ', Nat.mod_mul]

theorem leBytes_injective {count a b : Nat} (ha : a < 256 ^ count)
    (hb : b < 256 ^ count) (h : leBytes count a = leBytes count b) : a = b := by
  have hvalue := congrArg leValue h
  rwa [leValue_leBytes, leValue_leBytes, Nat.mod_eq_of_lt ha,
    Nat.mod_eq_of_lt hb] at hvalue

/-! ## Prefix-free encodings -/

section Codec

variable {α β γ : Type}

def PrefixFree (encode : α → List γ) : Prop :=
  ∀ a b rest rest', encode a ++ rest = encode b ++ rest' → a = b ∧ rest = rest'

namespace PrefixFree

theorem injective {encode : α → List γ} (h : PrefixFree encode)
    {a b : α} (hab : encode a = encode b) : a = b :=
  (h a b [] [] (by rw [hab])).1

theorem of_length {encode : α → List γ} (length : Nat)
    (hlength : ∀ a, (encode a).length = length)
    (hinjective : ∀ a b, encode a = encode b → a = b) : PrefixFree encode := by
  intro a b rest rest' h
  have hcodes : (encode a).length = (encode b).length := by
    rw [hlength, hlength]
  obtain ⟨hab, hrest⟩ := List.append_inj h hcodes
  exact ⟨hinjective a b hab, hrest⟩

theorem pair {encode : α → List γ} {encode' : β → List γ}
    (h : PrefixFree encode) (h' : PrefixFree encode') :
    PrefixFree fun p : α × β => encode p.1 ++ encode' p.2 := by
  intro p q rest rest' hpq
  rw [List.append_assoc, List.append_assoc] at hpq
  obtain ⟨hfirst, htail⟩ := h _ _ _ _ hpq
  obtain ⟨hsecond, hrest⟩ := h' _ _ _ _ htail
  exact ⟨Prod.ext hfirst hsecond, hrest⟩

theorem option {encode : α → List UInt8} (h : PrefixFree encode) :
    PrefixFree (encodeOption encode) := by
  intro a b rest rest' hab
  cases a with
  | none =>
      cases b with
      | none => simpa [encodeOption] using hab
      | some b => simp [encodeOption] at hab
  | some a =>
      cases b with
      | none => simp [encodeOption] at hab
      | some b =>
          simp only [encodeOption, List.cons_append, List.cons.injEq,
            true_and] at hab
          obtain ⟨rfl, hrest⟩ := h a b rest rest' hab
          exact ⟨rfl, hrest⟩

end PrefixFree

theorem encodeU32_prefixFree : PrefixFree encodeU32 := by
  refine .of_length 4 (fun a => length_leBytes 4 a.toNat) fun a b h => ?_
  exact UInt32.toNat_inj.mp (leBytes_injective a.toNat_lt b.toNat_lt h)

theorem encodeU64_prefixFree : PrefixFree encodeU64 := by
  refine .of_length 8 (fun a => length_leBytes 8 a.toNat) fun a b h => ?_
  exact UInt64.toNat_inj.mp (leBytes_injective a.toNat_lt b.toNat_lt h)

theorem encodeU128_prefixFree : PrefixFree encodeU128 := by
  refine .of_length 16 (fun a => length_leBytes 16 a.toNat) fun a b h => ?_
  exact BitVec.eq_of_toNat_eq (leBytes_injective a.isLt b.isLt h)

theorem bytes_prefixFree (n : Nat) :
    PrefixFree fun bytes : Vector γ n => bytes.toList := by
  refine .of_length n (fun bytes => bytes.length_toList) fun a b h => ?_
  exact Vector.toList_inj.mp h

end Codec

end SubstrateKitties.Foundation
