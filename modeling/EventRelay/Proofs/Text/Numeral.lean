import EventRelay.Proofs.Text.Trim
import EventRelay.Text.Numeral

/-!
# Numerals

A numeral is one or more ASCII digits with at most one plus sign before them,
and leading zeros count for nothing. The readers take exactly the numerals
that are worth no more than their limit: since further digits never make a
numeral worth less, it does not matter that the limit is looked at digit by
digit. Only a signed reader takes a minus sign, and what follows it is never
positive.
-/

set_option autoImplicit false

namespace EventRelay.Text

/-- One or more digits that together are worth `n`. -/
structure Denotes (ds : List Char) (n : Nat) : Prop where
  nonempty : ds ≠ []
  digits : ∀ c ∈ ds, isDigit c = true
  worth : Nat.ofDigitChars 10 ds 0 = n

inductive Numeral : List Char → Nat → Prop
  | bare {ds : List Char} {n : Nat} (h : Denotes ds n) : Numeral ds n
  | plus {ds : List Char} {n : Nat} (h : Denotes ds n) : Numeral ('+' :: ds) n

variable {cs ds : List Char} {n m limit : Nat}

theorem isBlank_digit {c : Char} (h : isDigit c = true) : isBlank c = false := by
  simp only [isDigit, Bool.and_eq_true, decide_eq_true_eq] at h
  have hc : 48 ≤ c.toNat ∧ c.toNat ≤ 57 := h
  simp only [isBlank, Bool.or_eq_false_iff, Bool.and_eq_false_iff, decide_eq_false_iff_not,
    beq_eq_false_iff_ne]
  omega

/-! ## What digits are worth -/

theorem ofDigitChars_cons_eq (c : Char) (cs : List Char) (n : Nat) :
    Nat.ofDigitChars 10 (c :: cs) n = Nat.ofDigitChars 10 cs (n * 10 + digitValue c) := by
  rw [Nat.ofDigitChars, List.foldl_cons, Nat.mul_comm]
  rfl

theorem le_ofDigitChars (cs : List Char) (n : Nat) : n ≤ Nat.ofDigitChars 10 cs n := by
  induction cs generalizing n with
  | nil => exact Nat.le_refl n
  | cons c cs ih =>
    rw [ofDigitChars_cons_eq]
    have hrest := ih (n * 10 + digitValue c)
    omega

theorem Numeral.ne_nil (h : Numeral cs n) : cs ≠ [] := by
  cases h with
  | bare h => exact h.nonempty
  | plus => exact List.cons_ne_nil _ _

theorem Numeral.char (h : Numeral cs n) : ∀ c ∈ cs, c = '+' ∨ isDigit c = true := by
  cases h with
  | bare h => exact fun c hc => Or.inr (h.digits c hc)
  | plus h =>
    rw [List.forall_mem_cons]
    exact ⟨Or.inl rfl, fun c hc => Or.inr (h.digits c hc)⟩

theorem Numeral.trim (h : Numeral cs n) : Trim cs := by
  apply trim_of_none_blank
  intro c hc
  rcases h.char c hc with rfl | hdigit
  · decide
  · exact isBlank_digit hdigit

theorem numeral_plus_iff : Numeral ('+' :: ds) n ↔ Denotes ds n := by
  constructor
  · rintro (h | h)
    · exact nomatch h.digits '+' List.mem_cons_self
    · exact h
  · exact .plus

theorem numeral_iff (h : ∀ ds, cs ≠ '+' :: ds) : Numeral cs n ↔ Denotes cs n := by
  constructor
  · rintro (h' | h')
    · exact h'
    · exact absurd rfl (h _)
  · exact .bare

theorem Numeral.unique (h : Numeral cs n) (h' : Numeral cs m) : n = m := by
  cases h with
  | bare h =>
    cases h' with
    | bare h' => exact h.worth.symm.trans h'.worth
    | plus => exact nomatch h.digits '+' List.mem_cons_self
  | plus h => exact h.worth.symm.trans (numeral_plus_iff.mp h').worth

/-! ## Readers -/

theorem readDigits_eq_ok_iff (hn : n ≤ limit) :
    readDigits limit n cs = .ok m ↔
      (∀ c ∈ cs, isDigit c = true) ∧ Nat.ofDigitChars 10 cs n = m ∧ m ≤ limit := by
  induction cs generalizing n with
  | nil =>
    simp only [readDigits, Except.ok.injEq]
    constructor
    · rintro rfl
      exact ⟨nofun, rfl, hn⟩
    · exact fun h => h.2.1
  | cons c cs ih =>
    rw [readDigits, List.forall_mem_cons, ofDigitChars_cons_eq]
    by_cases hc : isDigit c = true
    · rw [if_pos hc]
      by_cases hfits : n * 10 + digitValue c ≤ limit
      · simp only [if_pos hfits, ih hfits, hc, true_and]
      · -- What is too large after this digit stays too large.
        simp only [if_neg hfits, reduceCtorEq, false_iff]
        rintro ⟨-, hm, hlimit⟩
        exact hfits ((le_ofDigitChars cs _).trans (hm ▸ hlimit))
    · rw [if_neg hc]
      exact iff_of_false nofun fun h => hc h.1.1

theorem readUnsigned_eq_ok_iff : readUnsigned limit cs = .ok n ↔ Denotes cs n ∧ n ≤ limit := by
  cases cs with
  | nil =>
    simp only [readUnsigned, reduceCtorEq, false_iff]
    exact fun h => h.1.nonempty rfl
  | cons c cs =>
    rw [readUnsigned, readDigits_eq_ok_iff (Nat.zero_le limit)]
    · constructor
      · rintro ⟨hdigits, hworth, hlimit⟩
        exact ⟨⟨List.cons_ne_nil c cs, hdigits, hworth⟩, hlimit⟩
      · rintro ⟨h, hlimit⟩
        exact ⟨h.digits, h.worth, hlimit⟩
    · exact List.cons_ne_nil c cs

theorem readUInt64_eq_ok_iff : readUInt64 cs = .ok n ↔ Numeral cs n ∧ n ≤ maxUInt64 := by
  unfold readUInt64
  split
  · exact iff_of_false nofun fun h => h.1.ne_nil rfl
  · rw [numeral_plus_iff, readUnsigned_eq_ok_iff]
  · rename_i hplus
    rw [numeral_iff hplus, readUnsigned_eq_ok_iff]

theorem readUnsigned_pos_iff {k : Int} :
    (readUnsigned limit ds).map Int.ofNat = .ok k ∧ 0 < k ↔
      ∃ n : Nat, k = n ∧ Denotes ds n ∧ 1 ≤ n ∧ n ≤ limit := by
  constructor
  · rintro ⟨hread, hpos⟩
    cases hds : readUnsigned limit ds with
    | error e => rw [hds] at hread; cases hread
    | ok n =>
      rw [hds] at hread
      cases hread
      obtain ⟨hdenotes, hlimit⟩ := readUnsigned_eq_ok_iff.mp hds
      exact ⟨n, rfl, hdenotes, Int.ofNat_lt.mp hpos, hlimit⟩
  · rintro ⟨n, rfl, hdenotes, hpos, hlimit⟩
    rw [readUnsigned_eq_ok_iff.mpr ⟨hdenotes, hlimit⟩]
    exact ⟨rfl, Int.ofNat_lt.mpr hpos⟩

theorem not_pos_of_minus {k : Int}
    (h : (readUnsigned limit ds).map (fun n => -(n : Int)) = .ok k) : ¬ 0 < k := by
  cases hds : readUnsigned limit ds with
  | error e => rw [hds] at h; cases h
  | ok n =>
    rw [hds] at h
    cases h
    show ¬ 0 < -(n : Int)
    omega

/-- The positive numbers that are read are those of numerals: after a minus sign there are none. -/
theorem readInt64_pos_iff {k : Int} :
    readInt64 cs = .ok k ∧ 0 < k ↔ ∃ n : Nat, k = n ∧ Numeral cs n ∧ 1 ≤ n ∧ n ≤ maxInt64 := by
  unfold readInt64
  split
  · refine iff_of_false (fun h => nomatch h.1) ?_
    rintro ⟨n, -, hnil, -⟩
    exact hnil.ne_nil rfl
  · simp only [readUnsigned_pos_iff, numeral_plus_iff]
  · refine iff_of_false (fun h => not_pos_of_minus h.1 h.2) ?_
    rintro ⟨n, -, hminus, -⟩
    rw [numeral_iff (by simp)] at hminus
    exact nomatch hminus.digits '-' List.mem_cons_self
  · rename_i hplus _
    simp only [readUnsigned_pos_iff, numeral_iff hplus]

end EventRelay.Text
