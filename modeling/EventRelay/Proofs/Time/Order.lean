import EventRelay.Time.Timestamp
import Mathlib.Order.Basic
import Mathlib.Order.Defs.LinearOrder

/-!
# The order of instants

Instants are ordered by their second, then by their nanoseconds. Cutting an
instant down to its whole second never leads to a later one and keeps the
order.
-/

set_option autoImplicit false

namespace EventRelay.Timestamp

theorem lt_iff (a b : Timestamp) :
    a < b ↔ a.seconds < b.seconds ∨ a.seconds = b.seconds ∧ a.nanos < b.nanos := Iff.rfl

theorem le_iff (a b : Timestamp) :
    a ≤ b ↔ a.seconds < b.seconds ∨ a.seconds = b.seconds ∧ a.nanos ≤ b.nanos := by
  show ¬ b < a ↔ _
  rw [lt_iff]
  omega

theorem eq_of_parts {a b : Timestamp} (hs : a.seconds = b.seconds) (hn : a.nanos = b.nanos) :
    a = b := by
  cases a
  cases b
  cases hs
  cases hn
  rfl

instance : LinearOrder Timestamp where
  le_refl a := (le_iff a a).mpr (Or.inr ⟨rfl, Nat.le_refl _⟩)
  le_trans a b c hab hbc := by
    rw [le_iff] at hab hbc ⊢
    omega
  le_antisymm a b hab hba := by
    rw [le_iff] at hab hba
    exact eq_of_parts (by omega) (by omega)
  lt_iff_le_not_ge a b := by
    rw [lt_iff, le_iff, le_iff]
    omega
  le_total a b := by
    rw [le_iff, le_iff]
    omega
  toDecidableLE a b := inferInstance

theorem wholeSecond_le (t : Timestamp) : t.wholeSecond ≤ t :=
  (le_iff _ _).mpr (Or.inr ⟨rfl, Nat.zero_le _⟩)

theorem wholeSecond_mono {a b : Timestamp} (h : a ≤ b) : a.wholeSecond ≤ b.wholeSecond := by
  rw [le_iff] at h ⊢
  simp only [wholeSecond]
  omega

theorem ofSeconds?_seconds (t : Timestamp) : ofSeconds? t.seconds = some t.wholeSecond :=
  dif_pos t.wholeSecond.representable

theorem wholeSecond_lt_iff (a b : Timestamp) :
    a.wholeSecond < b.wholeSecond ↔ a.seconds < b.seconds := by
  rw [lt_iff]
  simp only [wholeSecond]
  omega

end EventRelay.Timestamp
