import EventRelay.Proofs.Text.Numeral
import EventRelay.Time.Text
import Mathlib

/-!
# Timestamps are read back

What a timestamp is written as names that timestamp and no other. Each part
is written in digits that the reader of that part takes to the end, so the
parts are read back one after the other, whatever follows. The calendar leads
from the day to its date and back, within the years that have timestamps, and
a leap second comes back as the second before it with its nanoseconds.
-/

set_option autoImplicit false

namespace EventRelay.Timestamp

open EventRelay.Time EventRelay.Text

/-! ## Numerals -/

theorem isDigit_of_isDigit {c : Char} (h : c.isDigit = true) : Text.isDigit c = true := by
  simp only [Char.isDigit, Bool.and_eq_true, decide_eq_true_eq] at h
  simp only [Text.isDigit, Bool.and_eq_true, decide_eq_true_eq]
  exact h

theorem isDigit_paddedDigits {width n : Nat} :
    ∀ c ∈ paddedDigits width n, Text.isDigit c = true := by
  intro c hc
  rcases List.mem_append.mp hc with hc | hc
  · rw [List.eq_of_mem_replicate hc]
    decide
  · exact isDigit_of_isDigit (Nat.isDigit_of_mem_toDigits (by decide) (by decide) hc)

theorem length_paddedDigits {width n : Nat} (hwidth : 0 < width) (h : n < 10 ^ width) :
    (paddedDigits width n).length = width := by
  have hlength : (naturalDigits n).length ≤ width :=
    (Nat.length_toDigits_le_iff (by omega) hwidth).mpr h
  rw [paddedDigits, List.length_append, List.length_replicate]
  omega

theorem valueOf_eq (ds : List Char) : valueOf ds = Nat.ofDigitChars 10 ds 0 := by
  have hstep : (fun (n : Nat) (c : Char) => n * 10 + digitValue c) =
      fun n c => 10 * n + (c.toNat - '0'.toNat) := by
    funext n c
    rw [Nat.mul_comm]
    rfl
  rw [valueOf, hstep, Nat.ofDigitChars]

theorem valueOf_zeros (k : Nat) (ds : List Char) :
    valueOf (List.replicate k '0' ++ ds) = valueOf ds := by
  induction k with
  | zero => rfl
  | succ k ih =>
    rw [List.replicate_succ, List.cons_append]
    exact ih

theorem valueOf_paddedDigits (width n : Nat) : valueOf (paddedDigits width n) = n := by
  rw [paddedDigits, valueOf_zeros, valueOf_eq]
  exact Nat.ofDigitChars_ten_toDigits

/-- A text starts with something other than a digit, if with anything. -/
def EndsNumeral (cs : List Char) : Prop := ∀ c ∈ cs.head?, Text.isDigit c = false

theorem takeWhile_digits {ds rest : List Char} (hds : ∀ c ∈ ds, Text.isDigit c = true)
    (hrest : EndsNumeral rest) : (ds ++ rest).takeWhile Text.isDigit = ds := by
  rw [List.takeWhile_append_of_pos hds]
  cases rest with
  | nil => simp
  | cons c rest => rw [List.takeWhile_cons_of_neg (by simp [hrest c rfl]), List.append_nil]

theorem dropWhile_digits {ds rest : List Char} (hds : ∀ c ∈ ds, Text.isDigit c = true)
    (hrest : EndsNumeral rest) : (ds ++ rest).dropWhile Text.isDigit = rest := by
  rw [List.dropWhile_append_of_pos hds]
  cases rest with
  | nil => rfl
  | cons c rest => rw [List.dropWhile_cons_of_neg (by simp [hrest c rfl])]

theorem EndsNumeral.take {cs : List Char} (h : EndsNumeral cs) (n : Nat) :
    EndsNumeral (cs.take n) := by
  cases n with
  | zero => exact fun c hc => nomatch hc
  | succ n =>
    cases cs with
    | nil => exact h
    | cons c cs => exact h

theorem takeWhile_take_digits {limit : Nat} {ds rest : List Char}
    (hds : ∀ c ∈ ds, Text.isDigit c = true) (hlimit : ds.length ≤ limit)
    (hrest : EndsNumeral rest) : ((ds ++ rest).take limit).takeWhile Text.isDigit = ds := by
  rw [List.take_append, List.take_of_length_le hlimit]
  exact takeWhile_digits hds (hrest.take _)

theorem readNumeral_digits {limit : Nat} {ds rest : List Char} (hne : ds ≠ [])
    (hds : ∀ c ∈ ds, Text.isDigit c = true) (hlimit : ds.length ≤ limit)
    (hrest : EndsNumeral rest) :
    readNumeral limit (ds ++ rest) = some (valueOf ds, rest) := by
  rw [readNumeral, takeWhile_take_digits hds hlimit hrest]
  cases ds with
  | nil => exact absurd rfl hne
  | cons d ds => simp

theorem paddedDigits_ne_nil (width n : Nat) : paddedDigits width n ≠ [] := by
  rw [paddedDigits, Ne, List.append_eq_nil_iff, not_and]
  exact fun _ => Nat.toDigits_ne_nil

theorem readNumeral_paddedDigits {limit width n : Nat} {rest : List Char}
    (hlimit : (paddedDigits width n).length ≤ limit) (hrest : EndsNumeral rest) :
    readNumeral limit (paddedDigits width n ++ rest) = some (n, rest) := by
  rw [readNumeral_digits (paddedDigits_ne_nil width n) isDigit_paddedDigits hlimit hrest,
    valueOf_paddedDigits]

/-! ## Fields -/

theorem skipBlanks_cons {c : Char} (h : isBlank c = false) (cs : List Char) :
    skipBlanks (c :: cs) = c :: cs := List.dropWhile_cons_of_neg (by simp [h])

theorem skipBlanks_paddedDigits (width n : Nat) (rest : List Char) :
    skipBlanks (paddedDigits width n ++ rest) = paddedDigits width n ++ rest := by
  obtain ⟨c, cs, h⟩ := List.exists_cons_of_ne_nil (paddedDigits_ne_nil width n)
  have hc := isDigit_paddedDigits c (h ▸ List.mem_cons_self)
  rw [h, List.cons_append, skipBlanks_cons (isBlank_digit hc)]

theorem readField_paddedDigits {least most n : Nat} (hleast : least ≤ n) (hmost : n ≤ most)
    (hn : n < 100) {rest : List Char} (hrest : EndsNumeral rest) :
    readField least most (paddedDigits 2 n ++ rest) = some (n, rest) := by
  have hlength : (paddedDigits 2 n).length = 2 := length_paddedDigits (by decide) hn
  rw [readField, skipBlanks_paddedDigits, readNumeral_paddedDigits hlength.le hrest]
  exact if_pos ⟨hleast, hmost⟩

theorem readMark_mark {mark : Char} (h : isBlank mark = false) (rest : List Char) :
    readMark mark (mark :: rest) = some rest := by
  rw [readMark, skipBlanks_cons h]
  exact if_pos rfl

theorem endsNumeral_cons {c : Char} (h : Text.isDigit c = false) (cs : List Char) :
    EndsNumeral (c :: cs) := by
  rintro d ⟨⟩
  exact h

/-! ## Dates -/

theorem paddedDigits_append_ne {c : Char} (hc : Text.isDigit c = false) (width n : Nat)
    (rest cs : List Char) : paddedDigits width n ++ rest ≠ c :: cs := by
  intro h
  obtain ⟨d, ds, hds⟩ := List.exists_cons_of_ne_nil (paddedDigits_ne_nil width n)
  have hd := isDigit_paddedDigits d (hds ▸ List.mem_cons_self)
  rw [hds, List.cons_append, List.cons.injEq] at h
  rw [h.1, hc] at hd
  cases hd

theorem readNumeral_signed {year : Nat} {rest : List Char} (hrest : EndsNumeral rest) :
    readNumeral (paddedDigits 4 year ++ rest).length (paddedDigits 4 year ++ rest) =
      some (year, rest) :=
  readNumeral_paddedDigits (by rw [List.length_append]; exact Nat.le_add_right _ _) hrest

theorem readYear_yearDigits (year : Int) {rest : List Char} (hrest : EndsNumeral rest) :
    readYear (yearDigits year ++ rest) = some (year, rest) := by
  unfold yearDigits
  split
  · rename_i hyear
    have hlength : (paddedDigits 4 year.toNat).length = 4 :=
      length_paddedDigits (by decide) (by omega)
    have hread : readNumeral 4 (paddedDigits 4 year.toNat ++ rest) = some (year.toNat, rest) :=
      readNumeral_paddedDigits hlength.le hrest
    rw [readYear, skipBlanks_paddedDigits]
    split
    · rename_i heq
      exact absurd heq (paddedDigits_append_ne (by decide) _ _ _ _)
    · rename_i heq
      exact absurd heq (paddedDigits_append_ne (by decide) _ _ _ _)
    · rw [hread, Option.map_some, Int.toNat_of_nonneg hyear.1]
  · rename_i hyear
    rw [List.cons_append]
    by_cases hsign : year < 0
    · rw [if_pos hsign, readYear, skipBlanks_cons (by decide)]
      simp only [readNumeral_signed hrest, Option.map_some]
      rw [show (-(year.natAbs : Int)) = year by omega]
    · rw [if_neg hsign, readYear, skipBlanks_cons (by decide)]
      simp only [readNumeral_signed hrest, Option.map_some]
      rw [show (year.natAbs : Int) = year by omega]

theorem daysBefore_eq (year : Int) :
    year / 400 * daysPerEra + daysBeforeYear (year % 400) =
      365 * year + year / 4 - year / 100 + year / 400 := by
  have hfour : year % 400 / 4 = year / 4 - 100 * (year / 400) := by omega
  have hhundred : year % 400 / 100 = year / 100 - 4 * (year / 400) := by omega
  rw [daysPerEra, daysBeforeYear, hfour, hhundred]
  omega

/-- The days that have timestamps lie in the years that are read. At either end the year itself is
told apart from those beyond it, which are out by all of their days. -/
theorem year_bounds {n : Int} (hfirst : firstSecond / 86400 ≤ n) (hlast : n ≤ lastSecond / 86400) :
    -262143 ≤ (Date.ofDayNumber n).year ∧ (Date.ofDayNumber n).year ≤ 262142 := by
  obtain ⟨hm₁, hm₂, hd₁, hd₂⟩ := ofDayNumber_bounds n
  have hday := dayNumber_ofDayNumber n
  generalize Date.ofDayNumber n = d at *
  obtain ⟨year, month, day⟩ := d
  simp only [Date.dayNumber, daysBefore_eq, daysBeforeMonth, firstDay, firstSecond,
    lastSecond] at *
  have hmonth : (month + 9) % 12 = if month ≤ 2 then month + 9 else month - 3 := by
    split <;> omega
  rw [hmonth] at hday
  split at hday
  · rename_i hearly
    by_cases hend : year - 1 = 262142
    · rw [hend] at hday
      omega
    · omega
  · by_cases hend : year = -262144
    · subst hend
      omega
    · omega

theorem readDate_digits {n : Int} (hfirst : firstSecond / 86400 ≤ n)
    (hlast : n ≤ lastSecond / 86400) {rest : List Char} (hrest : EndsNumeral rest) :
    readDate (yearDigits (Date.ofDayNumber n).year ++
        '-' :: (paddedDigits 2 (Date.ofDayNumber n).month.toNat ++
          '-' :: (paddedDigits 2 (Date.ofDayNumber n).day.toNat ++ rest))) =
      some (Date.ofDayNumber n, rest) := by
  obtain ⟨hm₁, hm₂, hd₁, hd₂⟩ := ofDayNumber_bounds n
  have hdash : ∀ cs, EndsNumeral ('-' :: cs) := endsNumeral_cons (by decide)
  have hmark : isBlank '-' = false := by decide
  have hdate : (⟨(Date.ofDayNumber n).year, ((Date.ofDayNumber n).month.toNat : Nat),
      ((Date.ofDayNumber n).day.toNat : Nat)⟩ : Date) = Date.ofDayNumber n := by
    rw [Int.toNat_of_nonneg (by omega), Int.toNat_of_nonneg (by omega)]
  rw [readDate, readYear_yearDigits _ (hdash _)]
  simp only [Option.bind_eq_bind, Option.bind_some, readMark_mark hmark]
  rw [readField_paddedDigits (by omega) (by omega) (by omega) (hdash _)]
  simp only [Option.bind_some, readMark_mark hmark]
  rw [readField_paddedDigits (by omega) (by omega) (by omega) hrest]
  simp only [Option.bind_some, hdate]
  exact if_pos ⟨(year_bounds hfirst hlast).1, (year_bounds hfirst hlast).2, isReal_ofDayNumber n⟩

/-! ## Times of day -/

theorem readFraction_digits {ds rest : List Char} (hne : ds ≠ [])
    (hds : ∀ c ∈ ds, Text.isDigit c = true) (hlength : ds.length ≤ 9) (hrest : EndsNumeral rest) :
    readFraction ('.' :: (ds ++ rest)) = some (valueOf ds * 10 ^ (9 - ds.length), rest) := by
  rw [readFraction, takeWhile_take_digits hds hlength hrest, dropWhile_digits hds hrest]
  cases ds with
  | nil => exact absurd rfl hne
  | cons d ds => rfl

theorem exactWidth_exact (nanos : Nat) :
    exactWidth nanos ≤ 9 ∧ nanos % 10 ^ (9 - exactWidth nanos) = 0 := by
  unfold exactWidth
  split
  · rename_i hzero
    rw [hzero]
    decide
  split
  · rename_i hmillis
    exact ⟨by decide, hmillis⟩
  split
  · rename_i hmicros
    exact ⟨by decide, hmicros⟩
  · exact ⟨by decide, Nat.mod_one nanos⟩

theorem readFraction_fractionDigits {nanos : Nat} (h : nanos < nanosPerSecond) :
    readFraction (fractionDigits (exactWidth nanos) nanos ++ ['Z']) = some (nanos, ['Z']) := by
  have hzone : EndsNumeral ['Z'] := endsNumeral_cons (by decide) []
  obtain ⟨hwidth, hexact⟩ := exactWidth_exact nanos
  by_cases hnone : exactWidth nanos = 0
  · rw [hnone] at hexact ⊢
    have hzero : nanos = 0 := by
      rw [nanosPerSecond] at h
      omega
    rw [hzero]
    rfl
  · rw [fractionDigits, if_neg hnone, List.cons_append]
    generalize exactWidth nanos = width at *
    have hdigits : nanos / 10 ^ (9 - width) < 10 ^ width := by
      rw [Nat.div_lt_iff_lt_mul (Nat.pow_pos (by decide)), ← Nat.pow_add,
        Nat.add_sub_cancel' hwidth]
      exact h
    have hlength := length_paddedDigits (by omega) hdigits
    rw [show Nat.pow 10 (9 - width) = 10 ^ (9 - width) from rfl,
      readFraction_digits (paddedDigits_ne_nil _ _) isDigit_paddedDigits (by omega) hzone, hlength,
      valueOf_paddedDigits, Nat.div_mul_cancel (Nat.dvd_of_mod_eq_zero hexact)]

theorem readClock_digits {hour minute second nanos : Nat} (hhour : hour ≤ 23)
    (hminute : minute ≤ 59) (hsecond : second ≤ 60) (hnanos : nanos < nanosPerSecond) :
    readClock (paddedDigits 2 hour ++ ':' :: (paddedDigits 2 minute ++
        ':' :: (paddedDigits 2 second ++ (fractionDigits (exactWidth nanos) nanos ++ ['Z'])))) =
      some (hour * 3600 + minute * 60 + second - (if second = 60 then 1 else 0),
        nanos + (if second = 60 then 1 else 0) * nanosPerSecond, ['Z']) := by
  have hcolon : ∀ cs, EndsNumeral (':' :: cs) := endsNumeral_cons (by decide)
  have hmark : isBlank ':' = false := by decide
  have hfraction : EndsNumeral (fractionDigits (exactWidth nanos) nanos ++ ['Z']) := by
    rw [fractionDigits]
    split
    · exact endsNumeral_cons (by decide) []
    · exact endsNumeral_cons (by decide) _
  rw [readClock, readField_paddedDigits (by omega) hhour (by omega) (hcolon _)]
  simp only [Option.bind_eq_bind, Option.bind_some, readMark_mark hmark]
  rw [readField_paddedDigits (by omega) hminute (by omega) (hcolon _)]
  simp only [Option.bind_some, readMark_mark hmark]
  rw [readField_paddedDigits (by omega) hsecond (by omega) hfraction]
  simp only [Option.bind_some, readFraction_fractionDigits hnanos]

/-! ## Instants -/

theorem make?_parts (t : Timestamp) : make? t.seconds t.nanos = some t := dif_pos t.representable

def shownSecond (t : Timestamp) : Nat :=
  (t.seconds % 86400).toNat % 60 + (if t.isLeap then 1 else 0)

theorem shownSecond_spec (t : Timestamp) :
    t.shownSecond ≤ 60 ∧
      t.shownSecond = (t.seconds % 86400).toNat % 60 + (if t.shownSecond = 60 then 1 else 0) ∧
      t.fraction + (if t.shownSecond = 60 then 1 else 0) * nanosPerSecond = t.nanos := by
  obtain ⟨-, -, hnanos⟩ := t.representable
  have hminute : (t.seconds % 86400).toNat % 60 = (t.seconds % 60).toNat := by omega
  rw [fraction]
  simp only [nanosPerSecond] at *
  by_cases hleap : 1000000000 ≤ t.nanos
  · have hlast : t.seconds % 60 = 59 := by omega
    have hshown : t.shownSecond = 60 := by
      rw [shownSecond, hminute, hlast, isLeap, nanosPerSecond, decide_eq_true hleap]
      rfl
    rw [hshown, hminute, hlast, if_pos rfl]
    refine ⟨le_rfl, by decide, ?_⟩
    omega
  · have hshown : t.shownSecond = (t.seconds % 60).toNat := by
      rw [shownSecond, hminute, isLeap, nanosPerSecond, decide_eq_false hleap]
      rfl
    have hother : (t.seconds % 60).toNat ≠ 60 := by omega
    rw [hshown, hminute, if_neg hother]
    omega

theorem read_clockDigits (t : Timestamp) :
    read (t.clockDigits (exactWidth t.fraction) ++ ['Z']) = some t := by
  obtain ⟨hfirst, hlast, -⟩ := t.representable
  obtain ⟨hsecond, hclock, hnanos⟩ := t.shownSecond_spec
  have hfraction : t.fraction < nanosPerSecond := Nat.mod_lt _ (by decide)
  generalize hday : t.seconds / 86400 = day
  generalize hinDay : (t.seconds % 86400).toNat = inDay at *
  have htext : t.clockDigits (exactWidth t.fraction) ++ ['Z'] =
      yearDigits (Date.ofDayNumber day).year ++
        '-' :: (paddedDigits 2 (Date.ofDayNumber day).month.toNat ++
          '-' :: (paddedDigits 2 (Date.ofDayNumber day).day.toNat ++
            'T' :: (paddedDigits 2 (inDay / 3600) ++
              ':' :: (paddedDigits 2 (inDay / 60 % 60) ++
                ':' :: (paddedDigits 2 t.shownSecond ++
                  (fractionDigits (exactWidth t.fraction) t.fraction ++ ['Z'])))))) := by
    rw [clockDigits, shownSecond, hday, hinDay]
    simp only [List.append_assoc, List.cons_append]
  have hzone : readZone (skipBlanks ['Z']) = some 0 := by decide
  rw [htext, read, readDate_digits (by omega) (by omega) (endsNumeral_cons (by decide) _)]
  simp only [Option.bind_eq_bind, Option.bind_some, readSeparator]
  rw [if_pos (by decide), Option.bind_some,
    readClock_digits (by omega) (by omega) hsecond hfraction]
  simp only [Option.bind_some, hzone, dayNumber_ofDayNumber, hnanos]
  generalize (if t.shownSecond = 60 then 1 else 0) = leap at hclock
  have hseconds : day * 86400 +
      ((inDay / 3600 * 3600 + inDay / 60 % 60 * 60 + t.shownSecond - leap : Nat) : Int) - 0 =
      t.seconds := by omega
  rw [hseconds, make?_parts]

/-- What a timestamp is written as names that timestamp. -/
theorem ofText?_text (t : Timestamp) : ofText? t.text = some t := by
  rw [ofText?, text, String.toList_ofList]
  exact t.read_clockDigits

end EventRelay.Timestamp
