import EventRelay.Text.Blank
import Mathlib.Data.List.Basic

/-!
# The marks of a text

The parts before and after the first mark are told by two facts: they make up
the text with the mark between them, and the part before has no mark. Between
all its marks a text has the parts of what stands before one of them, and then
the parts of what stands after it.
-/

set_option autoImplicit false

namespace EventRelay.Text

theorem splitFirst_cons (mark c : Char) (cs : List Char) :
    splitFirst mark (c :: cs) =
      if c = mark then ([], some cs)
      else (c :: (splitFirst mark cs).1, (splitFirst mark cs).2) := by
  by_cases hc : c = mark <;> simp [splitFirst, hc]

theorem splitFirst_eq_some_iff {mark : Char} {cs front back : List Char} :
    splitFirst mark cs = (front, some back) ↔ cs = front ++ mark :: back ∧ mark ∉ front := by
  induction cs generalizing front with
  | nil => simp [splitFirst]
  | cons c cs ih =>
    rw [splitFirst_cons]
    by_cases hc : c = mark
    · subst hc
      cases front with
      | nil => simp
      | cons f front => simp +contextual
    · rw [if_neg hc]
      cases front with
      | nil => simp [hc]
      | cons f front =>
        have hpair : (c :: (splitFirst mark cs).1, (splitFirst mark cs).2) =
            (f :: front, some back) ↔ c = f ∧ splitFirst mark cs = (front, some back) := by
          simp [Prod.ext_iff, and_assoc]
        rw [hpair, ih]
        constructor
        · rintro ⟨rfl, rfl, hfront⟩
          exact ⟨rfl, by simp [hfront, Ne.symm hc]⟩
        · rintro ⟨hcs, hfront⟩
          rw [List.cons_append, List.cons.injEq] at hcs
          exact ⟨hcs.1, hcs.2, fun hmem => hfront (List.mem_cons_of_mem f hmem)⟩

theorem splitFirst_eq_none_iff {mark : Char} {cs front : List Char} :
    splitFirst mark cs = (front, none) ↔ cs = front ∧ mark ∉ front := by
  induction cs generalizing front with
  | nil => cases front <;> simp [splitFirst]
  | cons c cs ih =>
    rw [splitFirst_cons]
    by_cases hc : c = mark
    · simp only [if_pos hc, Prod.mk.injEq, reduceCtorEq, and_false, false_iff, not_and]
      rintro rfl
      simp [hc]
    · rw [if_neg hc]
      cases front with
      | nil => simp
      | cons f front =>
        have hpair : (c :: (splitFirst mark cs).1, (splitFirst mark cs).2) = (f :: front, none) ↔
            c = f ∧ splitFirst mark cs = (front, none) := by
          simp [Prod.ext_iff, and_assoc]
        rw [hpair, ih, List.cons.injEq, List.mem_cons, not_or, and_assoc]
        constructor
        · rintro ⟨rfl, hcs, hfront⟩
          exact ⟨rfl, hcs, Ne.symm hc, hfront⟩
        · rintro ⟨hf, hcs, -, hfront⟩
          exact ⟨hf, hcs, hfront⟩

theorem splitOn_mark (mark : Char) (cs : List Char) :
    splitOn mark (mark :: cs) = [] :: splitOn mark cs := by
  simp [splitOn]

theorem splitOn_cons {mark c : Char} (hc : c ≠ mark) {cs part : List Char}
    {rest : List (List Char)} (h : splitOn mark cs = part :: rest) :
    splitOn mark (c :: cs) = (c :: part) :: rest := by
  rw [splitOn] at h ⊢
  rw [List.foldr_cons, if_neg hc, h]

theorem exists_splitOn (mark : Char) (cs : List Char) :
    ∃ part rest, splitOn mark cs = part :: rest := by
  induction cs with
  | nil => exact ⟨[], [], rfl⟩
  | cons c cs ih =>
    obtain ⟨part, rest, h⟩ := ih
    by_cases hc : c = mark
    · rw [hc, splitOn_mark]
      exact ⟨_, _, rfl⟩
    · exact ⟨_, _, splitOn_cons hc h⟩

theorem splitOn_of_not_mem {mark : Char} {cs : List Char} (h : mark ∉ cs) :
    splitOn mark cs = [cs] := by
  induction cs with
  | nil => rfl
  | cons c cs ih =>
    rw [List.mem_cons, not_or] at h
    exact splitOn_cons (Ne.symm h.1) (ih h.2)

theorem splitOn_append (mark : Char) (front back : List Char) :
    splitOn mark (front ++ mark :: back) = splitOn mark front ++ splitOn mark back := by
  induction front with
  | nil =>
    rw [List.nil_append, splitOn_mark]
    rfl
  | cons c front ih =>
    rw [List.cons_append]
    by_cases hc : c = mark
    · rw [hc, splitOn_mark, splitOn_mark, ih, List.cons_append]
    · obtain ⟨part, rest, hfront⟩ := exists_splitOn mark front
      rw [hfront, List.cons_append] at ih
      rw [splitOn_cons hc ih, splitOn_cons hc hfront, List.cons_append]

end EventRelay.Text
