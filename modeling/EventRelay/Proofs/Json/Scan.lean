import EventRelay.Json.Reader

/-!
# Scanning what was written

Between its quotes a text is written in octets that the scanner passes over:
an escape as a whole, any other character octet by octet. So it finds the
closing quote where it was written, whatever the text holds. The numeral of
an integer is scanned up to whatever cannot go on with a numeral, and comes
to that integer again.
-/

set_option autoImplicit false

namespace EventRelay.Json

open EventRelay.Text

/-! ## Texts -/

def rawText (s : String) : List UInt8 := Utf8.encode (s.toList.flatMap escapeChar)

/-- The scanner passes over the octets, whatever follows. -/
def Passed (bs : List UInt8) : Prop :=
  ∀ rest passed, scanText (bs ++ rest) passed = scanText rest (bs.reverse ++ passed)

def IsPlain (b : UInt8) : Prop := 32 ≤ b.toNat ∧ b.toNat ≠ 34 ∧ b.toNat ≠ 92

def isEscape : List UInt8 → Bool
  | [92, e] => isShortEscape e
  | [92, 117, a, b, c, d] =>
    (hexValue? a).isSome && (hexValue? b).isSome && (hexValue? c).isSome && (hexValue? d).isSome
  | _ => false

theorem scanText_plain {b : UInt8} (h : IsPlain b) (rest passed : List UInt8) :
    scanText (b :: rest) passed = scanText rest (b :: passed) := by
  obtain ⟨hlow, hquote, hback⟩ := h
  have hquote' : b ≠ 34 := fun e => hquote (congrArg UInt8.toNat e)
  have hback' : b ≠ 92 := fun e => hback (congrArg UInt8.toNat e)
  have hlow' : ¬ b < 32 := fun e => by
    rw [UInt8.lt_iff_toNat_lt] at e
    exact absurd e (Nat.not_lt.mpr hlow)
  rw [scanText.eq_def]
  split
  · simp_all
  · simp_all
  · simp_all
  · rename_i b' _ _ _ heq
    obtain ⟨rfl, rfl⟩ := List.cons.inj heq
    rw [if_neg hquote', if_neg (not_or.mpr ⟨hback', hlow'⟩)]

theorem passed_plain {bs : List UInt8} (h : ∀ b ∈ bs, IsPlain b) : Passed bs := by
  intro rest passed
  induction bs generalizing passed with
  | nil => rfl
  | cons b bs ih =>
    rw [List.cons_append, scanText_plain (h b List.mem_cons_self),
      ih (fun c hc => h c (List.mem_cons_of_mem _ hc)), List.reverse_cons, List.append_assoc]
    rfl

theorem passed_escape {bs : List UInt8} (h : isEscape bs = true) : Passed bs := by
  intro rest passed
  unfold isEscape at h
  split at h
  · rename_i e
    have hne : e ≠ 117 := fun he => by
      rw [he] at h
      exact absurd h (by decide)
    rw [scanText.eq_def]
    split
    · simp_all
    · simp_all
    · simp_all
    · rename_i hnot heq
      obtain ⟨rfl, rfl⟩ := List.cons.inj heq
      exact (hnot _ _ rfl rfl).elim
  · simp only [List.cons_append, List.nil_append]
    rw [scanText, if_pos h]
    rfl
  · cases h

theorem isPlain_encodeChar {c : Char} (hquote : c ≠ '"') (hback : c ≠ '\\')
    (hlow : 0x20 ≤ c.toNat) : ∀ b ∈ Utf8.encodeChar c, IsPlain b := by
  have hquote' : c.toNat ≠ 34 := fun e => hquote (Char.toNat_inj.mp e)
  have hback' : c.toNat ≠ 92 := fun e => hback (Char.toNat_inj.mp e)
  have hc := Utf8.toNat_bounds c
  intro b hb
  unfold Utf8.encodeChar at hb
  generalize c.toNat = n at *
  simp only at hb
  unfold IsPlain
  split at hb
  · obtain rfl := List.mem_singleton.mp hb
    rw [Utf8.toNat_ofNat n (by omega)]
    exact ⟨hlow, hquote', hback'⟩
  split at hb
  · simp only [List.mem_cons, List.not_mem_nil, or_false] at hb
    rcases hb with rfl | rfl <;> rw [Utf8.toNat_ofNat _ (by omega)] <;> omega
  split at hb
  · simp only [List.mem_cons, List.not_mem_nil, or_false] at hb
    rcases hb with rfl | rfl | rfl <;> rw [Utf8.toNat_ofNat _ (by omega)] <;> omega
  · simp only [List.mem_cons, List.not_mem_nil, or_false] at hb
    rcases hb with rfl | rfl | rfl | rfl <;> rw [Utf8.toNat_ofNat _ (by omega)] <;> omega

theorem passed_escapeChar (c : Char) : Passed (Utf8.encode (escapeChar c)) := by
  unfold escapeChar
  split
  · exact passed_escape (by decide)
  split
  · exact passed_escape (by decide)
  split
  · rename_i hquote hback hlow
    refine passed_plain fun b hb => isPlain_encodeChar hquote hback hlow b ?_
    simpa [Utf8.encode] using hb
  · rename_i hlow
    have hescape : ∀ n : Fin 32, isEscape (Utf8.encode (escapeControl n.val)) = true := by decide
    exact passed_escape (hescape ⟨c.toNat, by omega⟩)

theorem passed_rawText (s : String) : Passed (rawText s) := by
  unfold rawText
  induction s.toList with
  | nil => exact fun _ _ => rfl
  | cons c cs ih =>
    intro rest passed
    rw [List.flatMap_cons, Utf8.encode_append, List.append_assoc, passed_escapeChar c, ih,
      List.reverse_append, List.append_assoc]

theorem scanText_rawText (s : String) (rest : List UInt8) :
    scanText (rawText s ++ 34 :: rest) [] = some (rawText s, rest) := by
  rw [passed_rawText s]
  simp [scanText]

/-! ## Numerals -/

/-- What follows does not go on with a numeral. -/
def Stops (bs : List UInt8) : Prop :=
  ∀ b, bs.head? = some b → isDigitOctet b = false ∧ b ≠ 46 ∧ b ≠ 101 ∧ b ≠ 69

def digitsValue (ds : List Char) : List Nat := ds.map digitValue

theorem digit_bounds {c : Char} (h : c.isDigit = true) : 48 ≤ c.toNat ∧ c.toNat ≤ 57 := by
  simp only [Char.isDigit, Bool.and_eq_true, decide_eq_true_eq] at h
  exact h

theorem encodeChar_digit {c : Char} (h : c.isDigit = true) :
    Utf8.encodeChar c = [UInt8.ofNat c.toNat] := by
  have hc := digit_bounds h
  exact if_pos (by omega)

theorem isDigitOctet_digit {c : Char} (h : c.isDigit = true) :
    isDigitOctet (UInt8.ofNat c.toNat) = true := by
  have hc := digit_bounds h
  have hn := Utf8.toNat_ofNat c.toNat (by omega)
  simp only [isDigitOctet, Bool.and_eq_true, decide_eq_true_eq, UInt8.le_iff_toNat_le, hn]
  exact hc

theorem scan_digits {ds : List Char} (hds : ∀ c ∈ ds, c.isDigit = true) {rest : List UInt8}
    (hrest : Stops rest) :
    digitsOf (Utf8.encode ds ++ rest) = digitsValue ds ∧
      afterDigits (Utf8.encode ds ++ rest) = rest := by
  induction ds with
  | nil =>
    cases rest with
    | nil => exact ⟨rfl, rfl⟩
    | cons b rest =>
      have hb := (hrest b rfl).1
      constructor
      · simp [digitsOf, Utf8.encode, hb, digitsValue]
      · simp [afterDigits, Utf8.encode, hb]
  | cons c ds ih =>
    have hc := hds c List.mem_cons_self
    obtain ⟨hdigits, hafter⟩ := ih fun d hd => hds d (List.mem_cons_of_mem _ hd)
    have hencode : Utf8.encode (c :: ds) ++ rest =
        UInt8.ofNat c.toNat :: (Utf8.encode ds ++ rest) := by
      rw [Utf8.encode, List.flatMap_cons, encodeChar_digit hc]
      rfl
    have hvalue : (UInt8.ofNat c.toNat).toNat - 48 = digitValue c := by
      have hbounds := digit_bounds hc
      rw [Utf8.toNat_ofNat c.toNat (by omega)]
      rfl
    rw [hencode]
    constructor
    · simp only [digitsOf, List.takeWhile_cons, isDigitOctet_digit hc, if_true, List.map_cons,
        hvalue] at hdigits ⊢
      rw [hdigits]
      rfl
    · simp only [afterDigits, List.dropWhile_cons, isDigitOctet_digit hc, if_true] at hafter ⊢
      exact hafter

theorem naturalDigits_lead {n : Nat} (hn : n ≠ 0) :
    ∃ c ds, naturalDigits n = c :: ds ∧ digitValue c ≠ 0 := by
  induction n using Nat.strongRecOn with
  | _ n ih =>
    unfold naturalDigits at *
    by_cases hsmall : n < 10
    · refine ⟨_, _, Nat.toDigits_of_lt_base hsmall, ?_⟩
      rw [digitValue, Nat.toNat_digitChar_of_lt_ten hsmall]
      omega
    · obtain ⟨c, ds, h, hc⟩ := ih (n / 10) (by omega) (by omega)
      rw [Nat.toDigits_of_base_le (by omega) (by omega), h]
      exact ⟨c, _, rfl, hc⟩

theorem isDigit_naturalDigits {n : Nat} : ∀ c ∈ naturalDigits n, c.isDigit = true :=
  fun _ => Nat.isDigit_of_mem_toDigits (by omega) (by omega)

theorem encode_naturalDigits (n : Nat) :
    ∃ b bs, Utf8.encode (naturalDigits n) = b :: bs ∧ isDigitOctet b = true := by
  cases h : naturalDigits n with
  | nil => exact absurd h Nat.toDigits_ne_nil
  | cons c ds =>
    have hc : c.isDigit = true := isDigit_naturalDigits c (h ▸ List.mem_cons_self)
    refine ⟨UInt8.ofNat c.toNat, Utf8.encode ds, ?_, isDigitOctet_digit hc⟩
    rw [Utf8.encode, List.flatMap_cons, encodeChar_digit hc]
    rfl

theorem scanTail_stops (negative : Bool) (whole : List Nat) {rest : List UInt8} (h : Stops rest) :
    scanTail negative whole rest = some (⟨negative, whole, none, none⟩, rest) := by
  cases rest with
  | nil => rfl
  | cons b rest =>
    obtain ⟨-, hpoint, he, hE⟩ := h b rfl
    have hexponent : scanExponent (b :: rest) = some (none, b :: rest) := by
      simp only [scanExponent, he, hE, or_self, if_false]
    unfold scanTail
    split
    · rename_i heq
      exact absurd (List.cons.inj heq).1 hpoint
    · rw [hexponent]
      rfl

theorem scanUnsigned_natural (negative : Bool) (n : Nat) {rest : List UInt8} (h : Stops rest) :
    scanUnsigned negative (Utf8.encode (naturalDigits n) ++ rest) =
      some (⟨negative, digitsValue (naturalDigits n), none, none⟩, rest) := by
  obtain ⟨hdigits, hafter⟩ := scan_digits (isDigit_naturalDigits (n := n)) h
  unfold scanUnsigned
  rw [hdigits, hafter]
  by_cases hn : n = 0
  · rw [hn]
    exact scanTail_stops _ _ h
  · obtain ⟨c, ds, hds, hc⟩ := naturalDigits_lead hn
    have hvalue : digitsValue (naturalDigits n) = digitValue c :: digitsValue ds := by
      rw [hds]
      rfl
    rw [hvalue]
    split
    · rename_i heq
      cases heq
    · rename_i heq
      exact absurd (List.cons.inj heq).1 hc
    · exact scanTail_stops _ _ h

def integerNumeral (n : Int) : Numeral :=
  ⟨decide (n < 0), digitsValue (naturalDigits n.natAbs), none, none⟩

theorem scanNumeral_integer (n : Int) {rest : List UInt8} (h : Stops rest) :
    scanNumeral (Utf8.encode (integerDigits n) ++ rest) = some (integerNumeral n, rest) := by
  cases n with
  | negSucc n =>
    have hnegative : integerNumeral (Int.negSucc n) =
        ⟨true, digitsValue (naturalDigits (n + 1)), none, none⟩ := by
      simp [integerNumeral]
    rw [hnegative, ← scanUnsigned_natural true (n + 1) h]
    rfl
  | ofNat n =>
    have hnatural : integerNumeral (Int.ofNat n) =
        ⟨false, digitsValue (naturalDigits n), none, none⟩ := rfl
    rw [hnatural, ← scanUnsigned_natural false n h]
    unfold scanNumeral integerDigits
    split
    · rename_i heq
      obtain ⟨b, bs, hbs, hb⟩ := encode_naturalDigits n
      rw [hbs] at heq
      rw [(List.cons.inj heq).1] at hb
      exact absurd hb (by decide)
    · rfl

def StartsNumeral (b : UInt8) : Prop := b = 45 ∨ isDigitOctet b = true

theorem encode_integerDigits (n : Int) :
    ∃ b bs, Utf8.encode (integerDigits n) = b :: bs ∧ StartsNumeral b := by
  cases n with
  | ofNat n =>
    obtain ⟨b, bs, hbs, hb⟩ := encode_naturalDigits n
    exact ⟨b, bs, hbs, Or.inr hb⟩
  | negSucc n => exact ⟨45, _, rfl, Or.inl rfl⟩

theorem StartsNumeral.ne {b c : UInt8} (h : StartsNumeral b)
    (hc : c ≠ 45 ∧ isDigitOctet c = false) : b ≠ c := by
  rintro rfl
  rcases h with h | h
  · exact hc.1 h
  · rw [hc.2] at h
    cases h

theorem take64_digits {ds : List Char} {m : Nat} (h : Nat.ofDigitChars 10 ds m ≤ maxUInt64) :
    take64 m (digitsValue ds) = (Nat.ofDigitChars 10 ds m, []) := by
  induction ds generalizing m with
  | nil => rfl
  | cons c ds ih =>
    rw [Nat.ofDigitChars_cons] at h ⊢
    have hm : m * 10 + digitValue c = 10 * m + (c.toNat - '0'.toNat) := by
      rw [Nat.mul_comm]
      rfl
    have hfits : m * 10 + digitValue c ≤ maxUInt64 := by
      refine Nat.le_trans ?_ h
      rw [hm, Nat.ofDigitChars_eq_ofDigitChars_zero]
      have hpos : 0 < 10 ^ ds.length := Nat.pow_pos (by omega)
      exact Nat.le_add_right_of_le (Nat.le_mul_of_pos_left _ hpos)
    rw [digitsValue, List.map_cons, take64]
    simp only [hfits, if_true]
    rw [hm]
    exact ih h

theorem take64_natural {n : Nat} (h : n ≤ maxUInt64) :
    take64 0 (digitsValue (naturalDigits n)) = (n, []) := by
  have hn : Nat.ofDigitChars 10 (naturalDigits n) 0 = n := Nat.ofDigitChars_ten_toDigits
  rw [take64_digits (by rw [hn]; exact h), hn]

def FitsNumber (n : Int) : Prop := -((maxInt64 : Int) + 1) ≤ n ∧ n ≤ maxUInt64

theorem integerNumeral_value {n : Int} (h : FitsNumber n) :
    (integerNumeral n).value? = some (.integer n) := by
  obtain ⟨hlow, hhigh⟩ := h
  have hsize : maxInt64 + 1 ≤ maxUInt64 := by decide
  have htake := take64_natural (n := n.natAbs) (by omega)
  unfold Numeral.value? integerNumeral
  simp only [htake, List.isEmpty_nil, if_true]
  cases n with
  | ofNat n => rfl
  | negSucc n =>
    have hfits : ¬ (n + 1 = 0 ∨ maxInt64 + 1 < n + 1) := by omega
    have hnegative : (!decide (Int.negSucc n < 0)) = false := by simp
    simp only [hnegative, Bool.false_eq_true, if_false]
    exact if_neg hfits

end EventRelay.Json
