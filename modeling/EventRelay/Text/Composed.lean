import EventRelay.Text.CodeTable
import EventRelay.Text.CompositionTable

/-!
# Composed text

The normal form of a text in which a letter and its marks are one character
wherever there is such a character. Every character is first taken apart,
the marks on one character are put into the order of their classes, and each
is then joined to it unless a mark of the same or a higher class stands
between them.
-/

set_option autoImplicit false

namespace EventRelay.Text

def combiningClass (n : Nat) : Nat :=
  match combiningRuns.find? fun r => r.1 ≤ n && n ≤ r.2.1 with
  | some r => r.2.2
  | none => 0

/-! ## Hangul -/

namespace Hangul

def syllables : Nat := 0xAC00

def leads : Nat := 0x1100

def vowels : Nat := 0x1161

def closings : Nat := 0x11A7

def lead (n : Nat) : Nat := leads + (n - syllables) / 588

def vowel (n : Nat) : Nat := vowels + (n - syllables) % 588 / 28

def letters? (n : Nat) : Option (List Nat) :=
  if syllables ≤ n ∧ n < syllables + 19 * 588 then
    if (n - syllables) % 28 = 0 then some [lead n, vowel n]
    else some [lead n, vowel n, closings + (n - syllables) % 28]
  else none

def join? (a b : Nat) : Option Nat :=
  if leads ≤ a ∧ a < leads + 19 ∧ vowels ≤ b ∧ b < vowels + 21 then
    some (syllables + (a - leads) * 588 + (b - vowels) * 28)
  else if syllables ≤ a ∧ a < syllables + 19 * 588 ∧ (a - syllables) % 28 = 0 ∧
      closings < b ∧ b < closings + 28 then
    some (a + (b - closings))
  else none

end Hangul

/-! ## Taking apart -/

/-- The letter and marks that a character stands for, if composites nest at most `depth` deep. -/
def takeApart : Nat → Nat → List Nat
  | 0, n => [n]
  | depth + 1, n =>
    match Block.find? compositeBlocks n with
    | some (letter :: marks) => takeApart depth letter ++ marks
    | _ => (Block.find? decomposedBlocks n <|> Hangul.letters? n).getD [n]

def nesting : Nat := 3

/-- Puts a character with its class behind those already placed, last first: before marks of a
higher class, but never before a letter. -/
def place (c : Nat × Nat) : List (Nat × Nat) → List (Nat × Nat)
  | [] => [c]
  | d :: rest => if 0 < c.2 ∧ c.2 < d.2 then d :: place c rest else c :: d :: rest

def decomposed (ns : List Nat) : List (Nat × Nat) :=
  let parts := ns.flatMap fun n => if n < 0xC0 then [n] else takeApart nesting n
  ((parts.map fun n => (n, combiningClass n)).foldl (fun placed c => place c placed) []).reverse

/-! ## Joining -/

def join? (a b : Nat) : Option Nat := Block.source? compositeBlocks a b <|> Hangul.join? a b

/-- Joins what follows to `letter`; `kept` holds the marks that found no partner, last first. -/
def joinMarks (letter : Nat) (kept : List (Nat × Nat)) : List (Nat × Nat) → List Nat
  | [] => letter :: (kept.map Prod.fst).reverse
  | (n, rank) :: rest =>
    let isCut := match kept with
      | [] => false
      | (_, last) :: _ => rank ≤ last
    match if isCut then none else join? letter n with
    | some joined => joinMarks joined kept rest
    | none =>
      if rank = 0 then letter :: (kept.map Prod.fst).reverse ++ joinMarks n [] rest
      else joinMarks letter ((n, rank) :: kept) rest

/-- The text in composed form. Marks before the first letter stay as they are. -/
def composed (cs : List Char) : List Char :=
  let parts := decomposed (cs.map Char.toNat)
  let marks := parts.takeWhile fun c => c.2 ≠ 0
  let ns := marks.map Prod.fst ++
    match parts.drop marks.length with
    | [] => []
    | (letter, _) :: rest => joinMarks letter [] rest
  ns.map Char.ofNat

end EventRelay.Text
