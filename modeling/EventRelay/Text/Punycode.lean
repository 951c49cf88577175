/-!
# Punycode

Character lists written with the basic characters alone. The basic ones of a
list stand first, before a hyphen; then every other is given by how far it is
from the one inserted before it, counted over positions and code points in one,
in digits whose worth follows the numbers already written. Reading refuses
numbers of more than 32 bits.
-/

set_option autoImplicit false

namespace EventRelay.Punycode

def isBasic (c : Char) : Bool := c.toNat < 0x80

/-! ## Digits -/

def digit (n : Nat) : Char := Char.ofNat (if n < 26 then 97 + n else 22 + n)

def digitValue? (c : Char) : Option Nat :=
  if 'a' ≤ c ∧ c ≤ 'z' then some (c.toNat - 97)
  else if '0' ≤ c ∧ c ≤ '9' then some (c.toNat - 22)
  else none

/-- A digit below the threshold ends a number. `k` is 36 for its first digit, 72 for the second. -/
def threshold (k bias : Nat) : Nat :=
  if k ≤ bias then 1 else if bias + 26 ≤ k then 26 else k - bias

theorem threshold_bounds (k bias : Nat) : 1 ≤ threshold k bias ∧ threshold k bias ≤ 26 := by
  unfold threshold
  split
  · omega
  · split <;> omega

def scaleDown (delta k : Nat) : Nat × Nat :=
  if 455 < delta then scaleDown (delta / 35) (k + 36) else (delta, k)
  termination_by delta
  decreasing_by exact Nat.div_lt_self (by omega) (by omega)

def adapted (delta size : Nat) (isFirst : Bool) : Nat :=
  let delta := if isFirst then delta / 700 else delta / 2
  let (delta, k) := scaleDown (delta + delta / size) 0
  k + 36 * delta / (delta + 38)

/-! ## Writing -/

def numberDigits (bias k q : Nat) : List Char :=
  let t := threshold k bias
  if q < t then [digit q]
  else digit (t + (q - t) % (36 - t)) :: numberDigits bias (k + 36) ((q - t) / (36 - t))
  termination_by q
  decreasing_by
    have ht := threshold_bounds k bias
    exact Nat.lt_of_le_of_lt (Nat.div_le_self _ _) (by omega)

structure Encoding where
  written : List Char
  delta : Nat
  bias : Nat
  size : Nat

/-- Passes one character of the list while those of code point `point` are written. -/
def Encoding.pass (basics point : Nat) (e : Encoding) (c : Char) : Encoding :=
  if c.toNat < point then { e with delta := e.delta + 1 }
  else if c.toNat = point then
    { written := e.written ++ numberDigits e.bias 36 e.delta
      delta := 0
      bias := adapted e.delta (e.size + 1) (e.size == basics)
      size := e.size + 1 }
  else e

def Encoding.write (cs : List Char) (basics : Nat) : Nat → Encoding → List Nat → Encoding
  | _, e, [] => e
  | next, e, point :: points =>
    let e := { e with delta := e.delta + (point - next) * (e.size + 1) }
    let e := cs.foldl (Encoding.pass basics point) e
    Encoding.write cs basics (point + 1) { e with delta := e.delta + 1 } points

def insertPoint (n : Nat) : List Nat → List Nat
  | [] => [n]
  | m :: rest =>
    if n < m then n :: m :: rest else if n = m then m :: rest else m :: insertPoint n rest

def encode (cs : List Char) : List Char :=
  let basics := cs.filter isBasic
  let points := ((cs.filter (!isBasic ·)).map Char.toNat).foldr insertPoint []
  basics ++ (if basics.isEmpty then [] else ['-']) ++
    (Encoding.write cs basics.length 0x80 ⟨[], 0, 72, basics.length⟩ points).written

/-! ## Reading -/

def wordLimit : Nat := 4294967296

/-- The characters so far, the code point and position of the last insertion, and the number
being read: its worth so far, the worth of its next digit, and whether a digit of it was read. -/
structure Decoding where
  chars : List Char
  point : Nat
  index : Nat
  bias : Nat
  value : Nat
  weight : Nat
  k : Nat
  isOpen : Bool

def Decoding.insert (d : Decoding) (value : Nat) : Option Decoding :=
  let size := d.chars.length + 1
  let point := d.point + value / size
  if point.isValidChar then
    let index := value % size
    some
      { chars := d.chars.insertIdx index (Char.ofNat point)
        point := point
        index := index + 1
        bias := adapted (value - d.index) size (d.index == 0)
        value := index + 1
        weight := 1
        k := 36
        isOpen := false }
  else none

def Decoding.step (d : Decoding) (c : Char) : Option Decoding := do
  let n ← digitValue? c
  let t := threshold d.k d.bias
  let value := d.value + n * d.weight
  if wordLimit ≤ value then none
  else if n < t then d.insert value
  else if wordLimit ≤ d.weight * (36 - t) then none
  else some { d with value := value, weight := d.weight * (36 - t), k := d.k + 36, isOpen := true }

def splitBasics (cs : List Char) : List Char × List Char :=
  let tail := (cs.reverse.takeWhile (· ≠ '-')).reverse
  let head := cs.take (cs.length - tail.length - 1)
  if head.isEmpty then ([], cs) else (head, tail)

/-- The list that a text in lower case stands for. -/
def decode? (cs : List Char) : Option (List Char) := do
  let (basics, digits) := splitBasics cs
  if basics.all isBasic then
    let d ← digits.foldlM Decoding.step ⟨basics, 0x80, 0, 72, 0, 1, 36, false⟩
    if d.isOpen then none else some d.chars
  else none

end EventRelay.Punycode
