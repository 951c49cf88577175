import EventRelay.Text.Blank
import Mathlib.Data.List.DropRight

/-!
# Trimming

A list is trimmed when neither end of it is blank. Trimming leaves such
lists as they are and gives nothing else, so it does nothing a second time;
what is left is empty exactly when all was blank.
-/

set_option autoImplicit false

namespace EventRelay.Text

def Trim (cs : List Char) : Prop :=
  (∀ c, cs.head? = some c → isBlank c = false) ∧ ∀ c, cs.getLast? = some c → isBlank c = false

theorem trimEnd_eq (cs : List Char) : trimEnd cs = cs.rdropWhile isBlank := rfl

theorem dropWhile_of_head (cs : List Char) (h : ∀ c, cs.head? = some c → isBlank c = false) :
    cs.dropWhile isBlank = cs := by
  cases cs with
  | nil => rfl
  | cons c rest => exact List.dropWhile_cons_of_neg (by simp [h c rfl])

theorem trimEnd_of_last (cs : List Char) (h : ∀ c, cs.getLast? = some c → isBlank c = false) :
    trimEnd cs = cs := by
  have hr : cs.reverse.dropWhile isBlank = cs.reverse :=
    dropWhile_of_head _ fun c hc => h c (by rwa [List.head?_reverse] at hc)
  rw [trimEnd, hr, List.reverse_reverse]

theorem Trim.trimChars {cs : List Char} (h : Trim cs) : trimChars cs = cs := by
  rw [Text.trimChars, dropWhile_of_head cs h.1, trimEnd_of_last cs h.2]

theorem head?_trimEnd {cs : List Char} {c : Char} (h : (trimEnd cs).head? = some c) :
    cs.head? = some c := by
  obtain ⟨rest, hrest⟩ := List.rdropWhile_prefix isBlank cs
  rw [trimEnd_eq] at h
  rw [← hrest, List.head?_append, h]
  rfl

theorem trimChars_trim (cs : List Char) : Trim (trimChars cs) := by
  constructor
  · intro c hc
    have hd := List.head?_dropWhile_not isBlank cs
    rw [head?_trimEnd hc] at hd
    simpa using hd
  · intro c hc
    have hd := List.head?_dropWhile_not isBlank (cs.dropWhile isBlank).reverse
    rw [trimChars, trimEnd, List.getLast?_reverse] at hc
    rw [hc] at hd
    simpa using hd

theorem trimChars_trimChars (cs : List Char) : trimChars (trimChars cs) = trimChars cs :=
  (trimChars_trim cs).trimChars

theorem trimEnd_append_of_ne_nil (front : List Char) {back : List Char} (h : trimEnd back ≠ []) :
    trimEnd (front ++ back) = front ++ trimEnd back := by
  have hback : back.reverse.dropWhile isBlank ≠ [] := fun e =>
    h (by rw [trimEnd, e, List.reverse_nil])
  rw [trimEnd, trimEnd, List.reverse_append, List.dropWhile_append,
    if_neg (by rwa [List.isEmpty_iff]), List.reverse_append, List.reverse_reverse]

/-- It does not matter which end is trimmed first. -/
theorem dropWhile_trimEnd (cs : List Char) :
    (trimEnd cs).dropWhile isBlank = trimEnd (cs.dropWhile isBlank) := by
  induction cs with
  | nil => rfl
  | cons c cs ih =>
    by_cases hc : isBlank c = true
    · rw [List.dropWhile_cons_of_pos hc, ← ih]
      by_cases hcs : trimEnd cs = []
      · have hall : ∀ d ∈ c :: cs, isBlank d = true := by
          rw [List.forall_mem_cons]
          exact ⟨hc, (List.rdropWhile_eq_nil_iff).mp hcs⟩
        rw [hcs, trimEnd_eq, (List.rdropWhile_eq_nil_iff).mpr hall]
      · rw [← List.singleton_append, trimEnd_append_of_ne_nil [c] hcs, List.singleton_append,
          List.dropWhile_cons_of_pos hc]
    · rw [List.dropWhile_cons_of_neg hc]
      refine dropWhile_of_head _ fun d hd => ?_
      cases head?_trimEnd hd
      exact Bool.eq_false_iff.mpr hc

theorem trimEnd_append_blanks (cs : List Char) {blanks : List Char}
    (h : ∀ c ∈ blanks, isBlank c = true) : trimEnd (cs ++ blanks) = trimEnd cs := by
  rw [trimEnd, List.reverse_append, List.dropWhile_append_of_pos, trimEnd]
  exact fun c hc => h c (List.mem_reverse.mp hc)

theorem exists_blanks (cs : List Char) :
    ∃ blanks, (∀ c ∈ blanks, isBlank c = true) ∧ cs = trimEnd cs ++ blanks := by
  refine ⟨cs.rtakeWhile isBlank, fun c hc => List.mem_rtakeWhile_imp hc, ?_⟩
  rw [trimEnd_eq, List.rdropWhile_append_rtakeWhile]

theorem trimChars_trimEnd (cs : List Char) : trimChars (trimEnd cs) = trimChars cs := by
  rw [trimChars, dropWhile_trimEnd, trimChars, trimEnd_eq, trimEnd_eq, List.rdropWhile_idempotent]

theorem Trim.trimChars_append_blanks {cs blanks : List Char} (h : Trim cs)
    (hblanks : ∀ c ∈ blanks, isBlank c = true) : Text.trimChars (cs ++ blanks) = cs := by
  rw [← trimChars_trimEnd, trimEnd_append_blanks cs hblanks, trimChars_trimEnd, h.trimChars]

theorem Trim.trimChars_front {front back : List Char} (h : Trim (front ++ back)) :
    Text.trimChars front = trimEnd front := by
  rw [Text.trimChars, dropWhile_of_head]
  intro c hc
  apply h.1 c
  rw [List.head?_append, hc, Option.some_or]

theorem trimmed_trimmed (s : String) : trimmed (trimmed s) = trimmed s := by
  simp only [trimmed, String.toList_ofList, trimChars_trimChars]

theorem trimChars_eq_nil_iff (cs : List Char) : trimChars cs = [] ↔ ∀ c ∈ cs, isBlank c = true := by
  rw [trimChars, trimEnd_eq, List.rdropWhile_eq_nil_iff]
  constructor
  · intro h
    rw [← List.dropWhile_eq_nil_iff]
    by_contra hne
    have hd := List.head_dropWhile_not isBlank hne
    rw [h _ (List.head_mem hne)] at hd
    cases hd
  · intro h c hc
    exact h c (List.dropWhile_subset isBlank hc)

theorem trimmed_eq_empty_iff (s : String) : trimmed s = "" ↔ isBlankText s = true := by
  rw [isBlankText, List.all_eq_true, ← trimChars_eq_nil_iff, trimmed, ← String.ofList_nil]
  exact String.ofList_inj

theorem trim_of_none_blank {cs : List Char} (h : ∀ c ∈ cs, isBlank c = false) : Trim cs :=
  ⟨fun c hc => h c (List.mem_of_mem_head? hc), fun c hc => h c (List.mem_of_mem_getLast? hc)⟩

theorem trimmed_of_none_blank {s : String} (h : ∀ c ∈ s.toList, isBlank c = false) :
    trimmed s = s := by
  rw [trimmed, (trim_of_none_blank h).trimChars, String.ofList_toList]

/-! ## Heads and tails -/

theorem trim_trimmed (s : String) : Trim (trimmed s).toList := by
  rw [trimmed, String.toList_ofList]
  exact trimChars_trim _

theorem trimEnd_take_prefix (cs : List Char) (n : Nat) : trimEnd (cs.take n) <+: cs :=
  (List.rdropWhile_prefix isBlank _).trans (List.take_prefix n cs)

theorem length_trimEnd_take (cs : List Char) (n : Nat) : (trimEnd (cs.take n)).length ≤ n :=
  (List.rdropWhile_prefix isBlank (cs.take n)).length_le.trans (List.length_take_le n cs)

/-- Not all of a head is blank when the text starts with a character that is not. -/
theorem trimEnd_take_ne_nil {cs : List Char} (hcs : Trim cs) (hne : cs ≠ []) {n : Nat}
    (hn : 0 < n) : trimEnd (cs.take n) ≠ [] := by
  cases cs with
  | nil => exact absurd rfl hne
  | cons c cs =>
    obtain ⟨n, rfl⟩ := Nat.exists_eq_succ_of_ne_zero hn.ne'
    rw [List.take_succ_cons, trimEnd_eq]
    intro hnil
    have hblank := List.rdropWhile_eq_nil_iff.mp hnil c List.mem_cons_self
    rw [hcs.1 c rfl] at hblank
    cases hblank

theorem trimChars_take {cs : List Char} (hcs : Trim cs) (n : Nat) :
    trimChars (cs.take n) = trimEnd (cs.take n) := by
  rw [← List.take_append_drop n cs] at hcs
  exact hcs.trimChars_front

theorem append_of_dropHead? {head cs rest : List Char} (h : dropHead? head cs = some rest) :
    cs = head ++ rest := by
  induction head generalizing cs with
  | nil => exact Option.some.inj h
  | cons c head ih =>
    cases cs with
    | nil => cases h
    | cons d cs =>
      unfold dropHead? at h
      split at h
      · rename_i hcd
        rw [hcd, ih h, List.cons_append]
      · cases h

theorem dropHead?_of_not_mem {c : Char} {cs : List Char} (h : c ∉ cs) (head : List Char) :
    dropHead? (c :: head) cs = none := by
  cases cs with
  | nil => rfl
  | cons d cs =>
    have hcd : c ≠ d := fun e => h (e ▸ List.mem_cons_self)
    exact if_neg hcd

theorem append_of_dropTail? {tail cs front : List Char} (h : dropTail? tail cs = some front) :
    cs = front ++ tail := by
  obtain ⟨rest, hrest, rfl⟩ := Option.map_eq_some_iff.mp h
  rw [← List.reverse_inj, append_of_dropHead? hrest, List.reverse_append, List.reverse_reverse]

theorem trimEnd_of_dropHead? {head cs rest : List Char} (hcs : Trim cs)
    (h : dropHead? head cs = some rest) : trimEnd rest = rest := by
  refine trimEnd_of_last rest fun c hc => hcs.2 c ?_
  rw [append_of_dropHead? h, List.getLast?_append, hc, Option.some_or]

/-! ## The first text that is not blank -/

theorem firstNonBlank_singleton (s : String) : firstNonBlank [s] = trimmed s := by
  simp only [firstNonBlank]
  split
  · symm
    assumption
  · rfl

theorem firstNonBlank_append (front back : List String) :
    firstNonBlank (front ++ back) =
      if firstNonBlank front = "" then firstNonBlank back else firstNonBlank front := by
  induction front with
  | nil => rfl
  | cons s rest ih =>
    by_cases hs : trimmed s = ""
    · simp only [List.cons_append, firstNonBlank, if_pos hs]
      exact ih
    · simp only [List.cons_append, firstNonBlank, if_neg hs]

theorem firstNonBlank_eq_empty_iff {texts : List String} :
    firstNonBlank texts = "" ↔ ∀ s ∈ texts, trimmed s = "" := by
  induction texts with
  | nil => exact iff_of_true rfl nofun
  | cons s rest ih =>
    rw [List.forall_mem_cons, ← ih, firstNonBlank]
    by_cases hs : trimmed s = ""
    · simp only [hs, if_true, true_and]
    · simp only [hs, if_false, false_and]

theorem firstNonBlank_ne_empty {texts : List String} {s : String} (hs : s ∈ texts)
    (h : trimmed s ≠ "") : firstNonBlank texts ≠ "" :=
  fun hnone => h (firstNonBlank_eq_empty_iff.mp hnone s hs)

theorem firstNonBlank_orFallback (fallback s : String) (rest : List String) :
    firstNonBlank (orFallback fallback s :: rest) = firstNonBlank (s :: fallback :: rest) := by
  by_cases hs : trimmed s = ""
  · simp only [orFallback, firstNonBlank, if_pos hs]
  · simp only [orFallback, firstNonBlank, if_neg hs, trimmed_trimmed]

end EventRelay.Text
