import EventRelay.Proofs.Text.Trim
import EventRelay.Text.Lower

/-!
# Lower case

A character is low when lower-casing keeps it, whatever stands around it.
Lower-casing gives low characters only and leaves a text of low characters as
it is, so a part that has been lower-cased stays as it is inside a longer
text. That no replacement is replaced again is read off the table, and so is
that none is blank: a trimmed text stays trimmed.
-/

set_option autoImplicit false

namespace EventRelay.Text

/-- Lower-casing keeps the character. A capital sigma is never kept. -/
def IsLow (c : Char) : Prop := c.toNat ≠ 0x3A3 ∧ lowerChar c = [c]

instance (c : Char) : Decidable (IsLow c) := inferInstanceAs (Decidable (_ ∧ _))

theorem isLow_of_all {cs : List Char} (h : (cs.all fun c => decide (IsLow c)) = true) :
    ∀ c ∈ cs, IsLow c := fun c hc => of_decide_eq_true (List.all_eq_true.mp h c hc)

/-! ## What the table of runs says -/

def inRun (r : Nat × Nat × Nat × Nat) (n : Nat) : Bool :=
  r.1 ≤ n && n ≤ r.2.1 && (n - r.1) % r.2.2.1 == 0

/-- No replacement of the first run is a member of the second: all lie before it, or after it, or
between its members, which are every other number. -/
def apart (r q : Nat × Nat × Nat × Nat) : Bool :=
  r.2.2.2 + (r.2.1 - r.1) < q.1 || q.2.1 < r.2.2.2 ||
    (q.2.2.1 == 2 && (r.1 == r.2.1 || r.2.2.1 == 2) && (r.2.2.2 + q.1) % 2 == 1)

theorem not_inRun_of_apart {r q : Nat × Nat × Nat × Nat} (h : apart r q = true) {n : Nat}
    (hn : inRun r n = true) : inRun q (r.2.2.2 + (n - r.1)) = false := by
  obtain ⟨first, last, step, target⟩ := r
  obtain ⟨first', last', step', target'⟩ := q
  simp only [apart, inRun, Bool.or_eq_true, Bool.and_eq_true, decide_eq_true_eq, beq_iff_eq,
    Bool.eq_false_iff, ne_eq] at h hn ⊢
  obtain ⟨⟨hfirst, hlast⟩, hstep⟩ := hn
  rcases h with (h | h) | ⟨⟨rfl, rfl | rfl⟩, hodd⟩
  · omega
  · omega
  · omega
  · omega

/-- The replacements of a run are characters above ASCII, but for the letter that the Kelvin sign
becomes, and none of them is replaced again. -/
def settles (r : Nat × Nat × Nat × Nat) : Bool :=
  (r.2.2.2 + (r.2.1 - r.1) < 0xD800 || (0xDFFF < r.2.2.2 && r.2.2.2 + (r.2.1 - r.1) < 0x110000)) &&
    (0x80 ≤ r.2.2.2 || (r.2.2.2 == 0x6B && r.1 == r.2.1)) &&
    apart r (0x130, 0x130, 1, 0) && lowerRuns.all (apart r)

set_option maxRecDepth 4000 in
theorem lowerRuns_settle : lowerRuns.all settles = true := by decide +kernel

theorem runTarget?_eq_some {runs : List (Nat × Nat × Nat × Nat)} {n m : Nat}
    (h : runTarget? runs n = some m) :
    ∃ r ∈ runs, inRun r n = true ∧ m = r.2.2.2 + (n - r.1) := by
  obtain ⟨r, hr, rfl⟩ := Option.map_eq_some_iff.mp h
  have hp : inRun r n = true := List.find?_some (p := fun r => inRun r n) hr
  exact ⟨r, List.mem_of_find?_eq_some hr, hp, rfl⟩

theorem runTarget?_eq_none {runs : List (Nat × Nat × Nat × Nat)} {n : Nat}
    (h : ∀ r ∈ runs, inRun r n = false) : runTarget? runs n = none := by
  rw [runTarget?, Option.map_eq_none_iff, List.find?_eq_none]
  exact fun r hr => Bool.eq_false_iff.mp (h r hr)

theorem toNat_runTarget? {n m : Nat} (h : runTarget? lowerRuns n = some m) :
    (Char.ofNat m).toNat = m := by
  obtain ⟨r, hr, hn, rfl⟩ := runTarget?_eq_some h
  have hs := List.all_eq_true.mp lowerRuns_settle r hr
  simp only [settles, inRun, Bool.and_eq_true, Bool.or_eq_true, decide_eq_true_eq] at hs hn
  have hchar : (r.2.2.2 + (n - r.1)).isValidChar := by
    rcases hs.1.1.1 with hvalid | ⟨hlow, hhigh⟩
    · exact Or.inl (by omega)
    · exact Or.inr ⟨by omega, by omega⟩
  rw [Char.ofNat, dif_pos hchar]
  rfl

theorem isLow_of_runTarget? {n m : Nat} (h : runTarget? lowerRuns n = some m) :
    IsLow (Char.ofNat m) := by
  have hnat := toNat_runTarget? h
  obtain ⟨r, hr, hn, rfl⟩ := runTarget?_eq_some h
  have hs := List.all_eq_true.mp lowerRuns_settle r hr
  simp only [settles, Bool.and_eq_true, Bool.or_eq_true, decide_eq_true_eq, beq_iff_eq] at hs
  obtain ⟨⟨⟨-, hascii⟩, hdotted⟩, hapart⟩ := hs
  have hfree : ∀ q ∈ lowerRuns, inRun q (r.2.2.2 + (n - r.1)) = false :=
    fun q hq => not_inRun_of_apart (List.all_eq_true.mp hapart q hq) hn
  have hsigma : r.2.2.2 + (n - r.1) ≠ 0x3A3 := fun e => by
    have hcapital := hfree (0x3A3, 0x3AB, 1, 0x3C3) (by decide)
    rw [e] at hcapital
    cases hcapital
  have hdot : r.2.2.2 + (n - r.1) ≠ 0x130 := fun e => by
    have hcapital := not_inRun_of_apart hdotted hn
    rw [e] at hcapital
    cases hcapital
  simp only [inRun, Bool.and_eq_true, decide_eq_true_eq] at hn
  refine ⟨by rwa [hnat], ?_⟩
  rcases hascii with hascii | ⟨hk, hone⟩
  · rw [lowerChar, hnat, if_neg (by omega), if_neg hdot, runTarget?_eq_none hfree]
  · rw [show r.2.2.2 + (n - r.1) = 0x6B by omega]
    decide

/-! ## Characters and texts -/

theorem isLow_lowerAsciiChar {c : Char} (h : c.toNat < 0x80) : IsLow (lowerAsciiChar c) := by
  have hall : ∀ n : Fin 0x80, IsLow (lowerAsciiChar (Char.ofNat n.val)) := by decide
  have hc := hall ⟨c.toNat, h⟩
  rwa [Char.ofNat_toNat] at hc

theorem isLow_of_mem_lowerChar {c d : Char} (h : d ∈ lowerChar c) (hc : c.toNat ≠ 0x3A3) : IsLow d := by
  unfold lowerChar at h
  split at h
  · rename_i hascii
    rw [List.mem_singleton.mp h]
    exact isLow_lowerAsciiChar hascii
  · split at h
    · rcases List.mem_cons.mp h with rfl | h
      · decide
      · rw [List.mem_singleton.mp h]
        decide
    · split at h
      · rename_i hn
        rw [List.mem_singleton.mp h]
        exact isLow_of_runTarget? hn
      · rename_i hascii hdotted _ hn
        rw [List.mem_singleton.mp h]
        exact ⟨hc, by simp only [lowerChar, hascii, hdotted, hn, if_false]⟩

theorem isLow_of_mem_lowerFrom {before cs : List Char} {d : Char} (h : d ∈ lowerFrom before cs) :
    IsLow d := by
  induction cs generalizing before with
  | nil => cases h
  | cons c rest ih =>
    rw [lowerFrom] at h
    rcases List.mem_append.mp h with h | h
    · split at h
      · rw [List.mem_singleton.mp h]
        split <;> decide
      · rename_i hc
        exact isLow_of_mem_lowerChar h hc
    · exact ih h

theorem isLow_of_mem_lower {s : String} {c : Char} (h : c ∈ (lower s).toList) : IsLow c := by
  rw [lower, String.toList_ofList] at h
  exact isLow_of_mem_lowerFrom h

theorem lowerFrom_of_low {before cs : List Char} (h : ∀ c ∈ cs, IsLow c) :
    lowerFrom before cs = cs := by
  induction cs generalizing before with
  | nil => rfl
  | cons c rest ih =>
    obtain ⟨hsigma, hkept⟩ := h c List.mem_cons_self
    rw [lowerFrom, if_neg hsigma, hkept, ih fun d hd => h d (List.mem_cons_of_mem c hd)]
    rfl

theorem lower_of_low {s : String} (h : ∀ c ∈ s.toList, IsLow c) : lower s = s := by
  rw [lower, lowerChars, lowerFrom_of_low h, String.ofList_toList]

/-! ## Blanks -/

def blankRanges : List (Nat × Nat) :=
  [(9, 13), (0x20, 0x20), (0x85, 0x85), (0xA0, 0xA0), (0x1680, 0x1680), (0x2000, 0x200A),
   (0x2028, 0x2029), (0x202F, 0x202F), (0x205F, 0x205F), (0x3000, 0x3000)]

theorem isBlank_eq (c : Char) : isBlank c = inRanges blankRanges c.toNat := by
  rw [Bool.eq_iff_iff]
  simp [isBlank, inRanges, blankRanges]
  omega

def dodgesBlanks (r : Nat × Nat × Nat × Nat) : Bool :=
  blankRanges.all fun blanks => r.2.2.2 + (r.2.1 - r.1) < blanks.1 || blanks.2 < r.2.2.2

set_option maxRecDepth 4000 in
theorem lowerRuns_dodge : lowerRuns.all dodgesBlanks = true := by decide +kernel

theorem not_isBlank_runTarget? {n m : Nat} (h : runTarget? lowerRuns n = some m) :
    isBlank (Char.ofNat m) = false := by
  rw [isBlank_eq, toNat_runTarget? h, inRanges, List.any_eq_false]
  intro blanks hblanks
  obtain ⟨r, hr, hn, rfl⟩ := runTarget?_eq_some h
  have hdodge := List.all_eq_true.mp (List.all_eq_true.mp lowerRuns_dodge r hr) blanks hblanks
  simp only [inRun, Bool.and_eq_true, Bool.or_eq_true, decide_eq_true_eq] at hn hdodge ⊢
  omega

theorem not_isBlank_of_mem_lowerChar {c d : Char} (hc : isBlank c = false)
    (h : d ∈ lowerChar c) : isBlank d = false := by
  unfold lowerChar at h
  split at h
  · rename_i hascii
    have hall : ∀ n : Fin 0x80, isBlank (Char.ofNat n.val) = false →
        isBlank (lowerAsciiChar (Char.ofNat n.val)) = false := by decide +kernel
    have hc' := hall ⟨c.toNat, hascii⟩
    rw [Char.ofNat_toNat] at hc'
    rw [List.mem_singleton.mp h]
    exact hc' hc
  split at h
  · rcases List.mem_cons.mp h with rfl | h
    · decide
    · rw [List.mem_singleton.mp h]
      decide
  split at h
  · rename_i hn
    rw [List.mem_singleton.mp h]
    exact not_isBlank_runTarget? hn
  · rwa [List.mem_singleton.mp h]

theorem exists_lowerFrom_cons (before : List Char) (c : Char) (rest : List Char) :
    ∃ head, head ≠ [] ∧ (isBlank c = false → ∀ d ∈ head, isBlank d = false) ∧
      lowerFrom before (c :: rest) = head ++ lowerFrom (c :: before) rest := by
  rw [lowerFrom]
  split
  · refine ⟨_, List.cons_ne_nil _ _, ?_, rfl⟩
    intro _ d hd
    rw [List.mem_singleton.mp hd]
    split <;> decide
  · refine ⟨lowerChar c, ?_, fun hc d hd => not_isBlank_of_mem_lowerChar hc hd, rfl⟩
    unfold lowerChar
    split
    · exact List.cons_ne_nil _ _
    split
    · exact List.cons_ne_nil _ _
    split <;> exact List.cons_ne_nil _ _

theorem lowerFrom_ne_nil {before cs : List Char} (h : cs ≠ []) : lowerFrom before cs ≠ [] := by
  cases cs with
  | nil => exact absurd rfl h
  | cons c rest =>
    obtain ⟨head, hhead, -, heq⟩ := exists_lowerFrom_cons before c rest
    rw [heq]
    exact List.append_ne_nil_of_left_ne_nil hhead _

theorem lower_eq_empty_iff {s : String} : lower s = "" ↔ s = "" := by
  constructor
  · intro h
    by_contra hne
    have hcs : s.toList ≠ [] := mt String.toList_eq_nil_iff.mp hne
    refine @lowerFrom_ne_nil [] _ hcs ?_
    rw [← String.toList_eq_nil_iff, lower, String.toList_ofList] at h
    exact h
  · rintro rfl
    rfl

theorem getLast?_lowerFrom {before cs : List Char} {d : Char}
    (hcs : ∀ c, cs.getLast? = some c → isBlank c = false)
    (hd : (lowerFrom before cs).getLast? = some d) : isBlank d = false := by
  induction cs generalizing before with
  | nil => cases hd
  | cons c rest ih =>
    obtain ⟨head, -, hblank, heq⟩ := exists_lowerFrom_cons before c rest
    rw [heq] at hd
    by_cases hrest : rest = []
    · subst hrest
      rw [lowerFrom, List.append_nil] at hd
      exact hblank (hcs c rfl) d (List.mem_of_getLast? hd)
    · rw [List.getLast?_append_of_ne_nil _ (lowerFrom_ne_nil hrest)] at hd
      refine ih (fun c' hc' => hcs c' ?_) hd
      rwa [List.getLast?_cons_of_ne_nil hrest]

theorem Trim.lowerChars {cs : List Char} (h : Trim cs) : Trim (lowerChars cs) := by
  constructor
  · intro d hd
    cases cs with
    | nil => cases hd
    | cons c rest =>
      obtain ⟨head, hhead, hblank, heq⟩ := exists_lowerFrom_cons [] c rest
      rw [Text.lowerChars, heq, List.head?_append_of_ne_nil _ hhead] at hd
      exact hblank (h.1 c rfl) d (List.mem_of_mem_head? hd)
  · intro d hd
    exact getLast?_lowerFrom h.2 hd

theorem trimmed_lower_trimmed (s : String) :
    trimmed (lower (trimmed s)) = lower (trimmed s) := by
  have htrim : Trim (lower (trimmed s)).toList := by
    rw [lower, String.toList_ofList]
    exact (trim_trimmed s).lowerChars
  rw [trimmed, htrim.trimChars, String.ofList_toList]

end EventRelay.Text
