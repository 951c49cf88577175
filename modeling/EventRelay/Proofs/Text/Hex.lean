import EventRelay.Text.Numeral
import Mathlib.Data.List.Basic

/-!
# Hexadecimal digits

A list of digits spells octets when each octet has two of them, the high half
first, in either case. The reader accepts exactly these lists, and so none of
an odd length.
-/

set_option autoImplicit false

namespace EventRelay.Hex

def IsDigit (n : Nat) (c : Char) : Prop :=
  "0123456789abcdef".toList[n]? = some c ∨ "0123456789ABCDEF".toList[n]? = some c

instance (n : Nat) (c : Char) : Decidable (IsDigit n c) := inferInstanceAs (Decidable (_ ∨ _))

inductive Spells : List Char → List UInt8 → Prop
  | nil : Spells [] []
  | cons {high low : Char} {digits : List Char} {octet : UInt8} {octets : List UInt8}
      (hhigh : IsDigit (octet.toNat / 16) high) (hlow : IsDigit (octet.toNat % 16) low)
      (hrest : Spells digits octets) : Spells (high :: low :: digits) (octet :: octets)

theorem IsDigit.lt {n : Nat} {c : Char} (h : IsDigit n c) : n < 16 := by
  rcases h with h | h
  · exact (List.getElem?_eq_some_iff.mp h).1
  · exact (List.getElem?_eq_some_iff.mp h).1

theorem IsDigit.value?_eq {n : Nat} {c : Char} (h : IsDigit n c) : value? c = some n := by
  have hlower : ∀ m : Fin 16, ("0123456789abcdef".toList[m.val]?).bind value? = some m.val := by
    decide
  have hupper : ∀ m : Fin 16, ("0123456789ABCDEF".toList[m.val]?).bind value? = some m.val := by
    decide
  have hn := h.lt
  rcases h with h | h
  · have hvalue := hlower ⟨n, hn⟩
    rwa [h] at hvalue
  · have hvalue := hupper ⟨n, hn⟩
    rwa [h] at hvalue

theorem isDigit_of_range {c : Char} (base first count : Nat) (hfirst : first ≤ c.toNat)
    (hlast : c.toNat < first + count)
    (hall : ∀ m : Fin count, IsDigit (base + m.val) (Char.ofNat (first + m.val))) :
    IsDigit (base + (c.toNat - first)) c := by
  have hdigit := hall ⟨c.toNat - first, by omega⟩
  simp only [Nat.add_sub_cancel' hfirst, Char.ofNat_toNat] at hdigit
  exact hdigit

theorem isDigit_of_value? {n : Nat} {c : Char} (h : value? c = some n) : IsDigit n c := by
  unfold value? at h
  split at h
  · rename_i hc
    have hfirst : 48 ≤ c.toNat := hc.1
    have hlast : c.toNat ≤ 57 := hc.2
    rw [← Option.some.inj h, show c.toNat - 48 = 0 + (c.toNat - 48) by omega]
    exact isDigit_of_range 0 48 10 hfirst (by omega) (by decide)
  split at h
  · rename_i hc
    have hfirst : 97 ≤ c.toNat := hc.1
    have hlast : c.toNat ≤ 102 := hc.2
    rw [← Option.some.inj h, show c.toNat - 87 = 10 + (c.toNat - 97) by omega]
    exact isDigit_of_range 10 97 6 hfirst (by omega) (by decide)
  split at h
  · rename_i hc
    have hfirst : 65 ≤ c.toNat := hc.1
    have hlast : c.toNat ≤ 70 := hc.2
    rw [← Option.some.inj h, show c.toNat - 55 = 10 + (c.toNat - 65) by omega]
    exact isDigit_of_range 10 65 6 hfirst (by omega) (by decide)
  · cases h

theorem spells_of_decode? {digits : List Char} {octets : List UInt8}
    (h : decode? digits = some octets) : Spells digits octets := by
  fun_induction decode? digits generalizing octets with
  | case1 =>
    rw [← Option.some.inj h]
    exact .nil
  | case2 => cases h
  | case3 high low rest a b octets hrest hhigh hlow ih =>
    rw [← Option.some.inj h]
    have ha := isDigit_of_value? hhigh
    have hb := isDigit_of_value? hlow
    have hhalf := ha.lt
    have hhalf' := hb.lt
    have hoctet : (UInt8.ofNat (16 * a + b)).toNat = 16 * a + b := by
      rw [UInt8.toNat_ofNat']
      omega
    apply Spells.cons
    · rwa [hoctet, show (16 * a + b) / 16 = a by omega]
    · rwa [hoctet, show (16 * a + b) % 16 = b by omega]
    · exact ih hrest
  | case4 => cases h

theorem Spells.decode?_eq {digits : List Char} {octets : List UInt8} (h : Spells digits octets) :
    decode? digits = some octets := by
  induction h with
  | nil => rfl
  | @cons high low digits octet octets hhigh hlow hrest ih =>
    simp only [decode?, hhigh.value?_eq, hlow.value?_eq, ih, Nat.div_add_mod, UInt8.ofNat_toNat]

/-- The reader accepts exactly the lists that spell octets. -/
theorem decode?_eq_some_iff {digits : List Char} {octets : List UInt8} :
    decode? digits = some octets ↔ Spells digits octets :=
  ⟨spells_of_decode?, Spells.decode?_eq⟩

theorem IsDigit.bounds {n : Nat} {c : Char} (h : IsDigit n c) : '0' ≤ c ∧ c ≤ 'f' := by
  have hlower : ("0123456789abcdef".toList.all fun d => decide ('0' ≤ d ∧ d ≤ 'f')) = true := by
    decide
  have hupper : ("0123456789ABCDEF".toList.all fun d => decide ('0' ≤ d ∧ d ≤ 'f')) = true := by
    decide
  rcases h with h | h
  · exact of_decide_eq_true (List.all_eq_true.mp hlower c (List.mem_of_getElem? h))
  · exact of_decide_eq_true (List.all_eq_true.mp hupper c (List.mem_of_getElem? h))

theorem Spells.bounds {digits : List Char} {octets : List UInt8} (h : Spells digits octets) :
    ∀ c ∈ digits, '0' ≤ c ∧ c ≤ 'f' := by
  induction h with
  | nil => simp
  | cons hhigh hlow hrest ih =>
    simp only [List.forall_mem_cons]
    exact ⟨hhigh.bounds, hlow.bounds, ih⟩

theorem spells_encode (octets : List UInt8) : Spells (encode octets) octets :=
  spells_of_decode? (decode?_encode octets)

theorem lower_of_mem_encode {octets : List UInt8} {c : Char} (h : c ∈ encode octets) :
    c ∈ "0123456789abcdef".toList := by
  have hdigit : ∀ n : Fin 16, digit n.val ∈ "0123456789abcdef".toList := by decide
  obtain ⟨b, -, hb⟩ := List.mem_flatMap.mp h
  have hlt := b.toNat_lt
  rw [List.mem_pair] at hb
  rcases hb with rfl | rfl
  · exact hdigit ⟨b.toNat / 16, by omega⟩
  · exact hdigit ⟨b.toNat % 16, by omega⟩

end EventRelay.Hex
