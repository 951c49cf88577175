import EventRelay.Proofs.Text.Numeral
import EventRelay.Settings.Commands

/-!
# Timeouts

A timeout is a numeral, with or without the letters of a unit after it, and
blanks may stand between the two. No letter of a unit is one of a numeral, so
the letters that are taken off are those of the unit that was written. What is
read is that many units, cut off where it would not fit.
-/

set_option autoImplicit false

namespace EventRelay

def Duration.nanoseconds (d : Duration) : Nat := d.seconds * 1000000000 + d.nanos

namespace Settings

open EventRelay.Text

def TimeUnit.letters : TimeUnit → List Char
  | .millisecond => ['m', 's']
  | .second => ['s']
  | .minute => ['m']

inductive Spells : List Char → Nat → TimeUnit → Prop
  | bare {cs : List Char} {n : Nat} (h : Numeral cs n) : Spells cs n .second
  | withUnit {cs blanks : List Char} {n : Nat} (unit : TimeUnit) (h : Numeral cs n)
    (hblanks : ∀ c ∈ blanks, isBlank c = true) : Spells (cs ++ blanks ++ unit.letters) n unit

def TimeUnit.nanoseconds (n : Nat) : TimeUnit → Nat
  | .millisecond => n * 1000000
  | .second => n * 1000000000
  | .minute => min (60 * n) maxUInt64 * 1000000000

/-- A duration of so many units, whose seconds fit into 64 bits. -/
structure TimeUnit.Lasts (unit : TimeUnit) (n : Nat) (d : Duration) : Prop where
  length : d.nanoseconds = unit.nanoseconds n
  seconds : d.seconds ≤ maxUInt64
  nanos : d.nanos < 1000000000

/-- What is said of a text without blanks around it. -/
inductive Reading (cs : List Char) : Except TimeoutFault Duration → Prop
  | taken {n : Nat} {unit : TimeUnit} {d : Duration} (h : Spells cs n unit) (hpos : 1 ≤ n)
    (hlimit : n ≤ maxUInt64) (hlasts : unit.Lasts n d) (hpositive : 0 < d.nanoseconds) :
    Reading cs (.ok d)
  | zero {unit : TimeUnit} (h : Spells cs 0 unit) : Reading cs (.error .zero)
  | unreadable (h : ∀ n unit, Spells cs n unit → maxUInt64 < n) :
    Reading cs (.error (.unreadable (String.ofList cs)))

variable {cs ds front : List Char} {n m : Nat} {unit unit' : TimeUnit} {d : Duration}
  {r r' : Except TimeoutFault Duration}

/-! ## Splitting off the unit -/

theorem dropHead?_reverse_of_not_mem {c : Char} (h : c ∉ front) (head : List Char) :
    dropHead? (c :: head) front.reverse = none :=
  dropHead?_of_not_mem (mt List.mem_reverse.mp h) head

/-- Without an `m` before it, a final `s` is not taken for the end of `ms`. -/
theorem splitUnit_letters (hm : 'm' ∉ front) (unit : TimeUnit) :
    splitUnit (front ++ unit.letters) = (front, unit) := by
  cases unit <;>
    simp [splitUnit, TimeUnit.letters, dropTail?, dropHead?, dropHead?_reverse_of_not_mem hm]

theorem splitUnit_bare (hm : 'm' ∉ front) (hs : 's' ∉ front) :
    splitUnit front = (front, .second) := by
  simp [splitUnit, dropTail?, dropHead?_reverse_of_not_mem hm, dropHead?_reverse_of_not_mem hs]

theorem append_of_splitUnit (h : splitUnit cs = (ds, unit)) :
    cs = ds ++ unit.letters ∨ cs = ds ∧ unit = .second := by
  unfold splitUnit at h
  split at h
  · rename_i hms
    cases h
    exact Or.inl (append_of_dropTail? hms)
  split at h
  · rename_i hs
    cases h
    exact Or.inl (append_of_dropTail? hs)
  split at h
  · rename_i hm
    cases h
    exact Or.inl (append_of_dropTail? hm)
  · cases h
    exact Or.inr ⟨rfl, rfl⟩

theorem not_mem_of_numeral (h : Numeral cs n) {blanks : List Char}
    (hblanks : ∀ c ∈ blanks, isBlank c = true) : 'm' ∉ cs ++ blanks ∧ 's' ∉ cs ++ blanks := by
  have hplain : ∀ c ∈ cs ++ blanks, c ≠ 'm' ∧ c ≠ 's' := by
    intro c hc
    rcases List.mem_append.mp hc with hc | hc
    · constructor <;> rintro rfl <;> exact absurd (h.char _ hc) (by decide)
    · constructor <;> rintro rfl <;> exact absurd (hblanks _ hc) (by decide)
  exact ⟨fun hm => (hplain _ hm).1 rfl, fun hs => (hplain _ hs).2 rfl⟩

/-- A trimmed text is split into the numeral and the unit that it spells. -/
theorem spells_iff (hcs : Trim cs) (hsplit : splitUnit cs = (ds, unit)) :
    Spells cs n unit' ↔ unit' = unit ∧ Numeral (trimChars ds) n := by
  constructor
  · intro h
    cases h with
    | bare h =>
      have hnone : ∀ c ∈ ([] : List Char), isBlank c = true := nofun
      obtain ⟨hm, hs⟩ := not_mem_of_numeral h hnone
      rw [List.append_nil] at hm hs
      rw [splitUnit_bare hm hs] at hsplit
      cases hsplit
      rw [h.trim.trimChars]
      exact ⟨rfl, h⟩
    | @withUnit numeral blanks _ _ h hblanks =>
      obtain ⟨hm, -⟩ := not_mem_of_numeral h hblanks
      rw [splitUnit_letters hm] at hsplit
      cases hsplit
      rw [h.trim.trimChars_append_blanks hblanks]
      exact ⟨rfl, h⟩
  · rintro ⟨rfl, h⟩
    rcases append_of_splitUnit hsplit with hletters | ⟨rfl, rfl⟩
    · rw [hletters] at hcs ⊢
      rw [hcs.trimChars_front] at h
      obtain ⟨blanks, hblanks, hds⟩ := exists_blanks ds
      rw [hds]
      exact .withUnit unit' h hblanks
    · rw [hcs.trimChars] at h
      exact .bare h

theorem Spells.unique (hcs : Trim cs) (h : Spells cs n unit) (h' : Spells cs m unit') :
    n = m ∧ unit = unit' := by
  rcases hsplit : splitUnit cs with ⟨ds, split⟩
  obtain ⟨hunit, hn⟩ := (spells_iff hcs hsplit).mp h
  obtain ⟨hunit', hm⟩ := (spells_iff hcs hsplit).mp h'
  exact ⟨hn.unique hm, hunit.trans hunit'.symm⟩

/-! ## So many units -/

/-- A product of 60 that does not fit is cut off, and nothing else comes near the limit. -/
theorem lasts_iff (hn : n ≤ maxUInt64) : unit.Lasts n d ↔ d = unit.times n := by
  rcases d with ⟨seconds, nanos⟩
  constructor
  · rintro ⟨hlength, -, hnanos⟩
    cases unit <;>
      simp only [Duration.nanoseconds, TimeUnit.nanoseconds, TimeUnit.times, Duration.ofMillis,
        Duration.mk.injEq] at hlength hnanos ⊢ <;> omega
  · intro h
    have hlimit : maxUInt64 = 18446744073709551615 := rfl
    cases unit <;> simp only [TimeUnit.times, Duration.ofMillis, Duration.mk.injEq] at h <;>
      constructor <;> simp only [Duration.nanoseconds, TimeUnit.nanoseconds] <;> omega

theorem TimeUnit.Lasts.pos (h : unit.Lasts n d) (hn : 1 ≤ n) : 0 < d.nanoseconds := by
  rw [h.length]
  have hlimit : 0 < maxUInt64 := by decide
  cases unit <;> simp only [TimeUnit.nanoseconds] <;> omega

/-! ## Reading -/

theorem reading (raw : String) : Reading (trimChars raw.toList) (readTimeout raw) := by
  have hcs := trimChars_trim raw.toList
  rcases hsplit : splitUnit (trimChars raw.toList) with ⟨ds, unit⟩
  simp only [readTimeout, hsplit]
  cases hread : readUInt64 (trimChars ds) with
  | error e =>
    apply Reading.unreadable
    intro n unit' h
    by_contra hlimit
    have hn := ((spells_iff hcs hsplit).mp h).2
    rw [readUInt64_eq_ok_iff.mpr ⟨hn, Nat.le_of_not_lt hlimit⟩] at hread
    cases hread
  | ok n =>
    obtain ⟨hn, hlimit⟩ := readUInt64_eq_ok_iff.mp hread
    have h : Spells (trimChars raw.toList) n unit := (spells_iff hcs hsplit).mpr ⟨rfl, hn⟩
    by_cases hzero : n = 0
    · subst hzero
      exact .zero h
    · have hpos : 1 ≤ n := Nat.one_le_iff_ne_zero.mpr hzero
      have hlasts : unit.Lasts n (unit.times n) := (lasts_iff hlimit).mpr rfl
      simp only [if_neg hzero]
      exact .taken h hpos hlimit hlasts (hlasts.pos hpos)

theorem Reading.unique (hcs : Trim cs) (h : Reading cs r) (h' : Reading cs r') : r = r' := by
  cases h with
  | taken h hpos hlimit hlasts =>
    cases h' with
    | taken h' _ _ hlasts' =>
      obtain ⟨rfl, rfl⟩ := h.unique hcs h'
      rw [(lasts_iff hlimit).mp hlasts, (lasts_iff hlimit).mp hlasts']
    | zero h' =>
      have hn := (h.unique hcs h').1
      omega
    | unreadable h' => exact absurd hlimit (Nat.not_le_of_lt (h' _ _ h))
  | zero h =>
    cases h' with
    | taken h' hpos =>
      have hn := (h.unique hcs h').1
      omega
    | zero => rfl
    | unreadable h' => exact nomatch h' _ _ h
  | unreadable h =>
    cases h' with
    | taken h' _ hlimit => exact absurd hlimit (Nat.not_le_of_lt (h _ _ h'))
    | zero h' => exact nomatch h _ _ h'
    | unreadable => rfl

/-- A text is taken for so many units exactly when it spells them and the number is positive and
fits; then it lasts for that long, which is never no time at all. Every other text is a fault. -/
theorem readTimeout_eq_iff (raw : String) (r : Except TimeoutFault Duration) :
    readTimeout raw = r ↔ Reading (trimChars raw.toList) r := by
  constructor
  · rintro rfl
    exact reading raw
  · exact (reading raw).unique (trimChars_trim raw.toList)

example : readTimeout " +2 m " = .ok ⟨120, 0⟩ := by decide

end Settings

end EventRelay
